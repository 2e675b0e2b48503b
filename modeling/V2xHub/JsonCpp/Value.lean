import V2xHub.Lib.Printf
import V2xHub.Lib.Succeeds

/-!
# `Json::Value`

The values of JsonCpp and the functions that look into them. A look into a value of the wrong type and a conversion that
the value does not allow throw `Json::LogicError`; `std::string::substr` behind the end throws `std::out_of_range`, a string
that is too long `std::length_error`.
-/

namespace V2xHub.JsonCpp

inductive Exception where
  | LogicError
  | out_of_range
  | length_error
deriving DecidableEq

@[simp] theorem ok_bind {α β : Type} (a : α) (f : α → Except Exception β) : (Except.ok a >>= f) = f a := rfl

@[simp] theorem pure_eq_ok {α : Type} (a : α) : (pure a : Except Exception α) = .ok a := rfl

@[simp] theorem map_ok {α β : Type} (f : α → β) (a : α) : f <$> (Except.ok a : Except Exception α) = .ok (f a) := rfl

inductive Value where
  | null
  | int (n : Int64)
  | uint (n : UInt64)
  | real (d : Double)
  | string (s : Str)
  | boolean (b : Bool)
  | array (elements : List Value)
  | object (members : List (String × Value))

namespace Value

def lookup (key : String) : List (String × Value) → Option Value
  | [] => none
  | (name, v) :: members => if key = name then some v else lookup key members

/-- `find`, which wants an object or null. -/
def find (key : String) : Value → Except Exception (Option Value)
  | null => .ok none
  | object members => .ok (lookup key members)
  | _ => .error .LogicError

/-- `operator[]`; what is missing is null. -/
def member (key : String) (v : Value) : Except Exception Value := (·.getD null) <$> v.find key

def isMember (key : String) (v : Value) : Except Exception Bool := (·.isSome) <$> v.find key

def isArray : Value → Bool
  | array _ => true
  | _ => false

/-- What an iterator goes over. -/
def elements : Value → List Value
  | array elements => elements
  | object members => members.map Prod.snd
  | _ => []

def asInt64 : Value → Except Exception Int64
  | null => .ok 0
  | int n => .ok n
  | uint n => if n.toNat < 2 ^ 63 then .ok n.toInt64 else .error .LogicError
  | real d =>
    if (Double.ofInt (-2 ^ 63)).le d && d.le (.ofInt (2 ^ 63)) then .ok (.ofInt d.toInt64) else .error .LogicError
  | boolean b => .ok (if b then 1 else 0)
  | _ => .error .LogicError

/-- Into the 32 bits of an `int`. -/
def asInt : Value → Except Exception Int
  | null => .ok 0
  | int n => if -2 ^ 31 ≤ n.toInt ∧ n.toInt < 2 ^ 31 then .ok n.toInt else .error .LogicError
  | uint n => if n.toNat < 2 ^ 31 then .ok n.toNat else .error .LogicError
  | real d =>
    if (Double.ofInt (-2 ^ 31)).le d && d.le (.ofInt (2 ^ 31 - 1)) then .ok d.toInt64 else .error .LogicError
  | boolean b => .ok (if b then 1 else 0)
  | _ => .error .LogicError

def asUInt64 : Value → Except Exception Nat
  | null => .ok 0
  | int n => if 0 ≤ n.toInt then .ok n.toInt.toNat else .error .LogicError
  | uint n => .ok n.toNat
  | real d =>
    match d with
    | .finite q => if 0 ≤ q ∧ q < 2 ^ 64 then .ok ⌊q⌋.toNat else .error .LogicError
    | _ => .error .LogicError
  | boolean b => .ok (if b then 1 else 0)
  | _ => .error .LogicError

def asBool : Value → Except Exception Bool
  | null => .ok false
  | boolean b => .ok b
  | int n => .ok (n ≠ 0)
  | uint n => .ok (n ≠ 0)
  | real d => .ok (d ≠ .finite 0 ∧ d ≠ .nan)
  | _ => .error .LogicError

/-- An integer or a real number. -/
def isNumeric : Value → Bool
  | int _ => true
  | uint _ => true
  | real _ => true
  | _ => false

/-- The text of a real number is the library's choice. -/
def asString (valueToString : Double → Str) : Value → Except Exception Str
  | null => .ok []
  | string s => .ok s
  | boolean b => .ok (CString.lit (if b then "true" else "false"))
  | int n => .ok (Printf.lld n.toInt)
  | uint n => .ok (Printf.decimal n.toNat)
  | real d => .ok (valueToString d)
  | _ => .error .LogicError

/-- `v[key].asInt64()` -/
def int64At (key : String) (v : Value) : Except Exception Int64 := do (← v.member key).asInt64

/-- What `read` makes of `v[key]`. -/
def readAt {α : Type} (key : String) (read : Value → Except Exception α) (v : Value) : Except Exception α := do
  read (← v.member key)

/-- What `read` makes of `v[key]`, if `v` has the member. -/
def optionalAt {α : Type} (key : String) (read : Value → Except Exception α) (v : Value) :
    Except Exception (Option α) := do
  if ← v.isMember key then some <$> (do read (← v.member key)) else return none

/-- There is a member at the end of the path. -/
def has : List String → Value → Bool
  | [], _ => true
  | key :: path, object members =>
    match lookup key members with
    | some v => v.has path
    | none => false
  | _ :: _, _ => false

/-- The members of the value are exactly the ones listed as present, of those listed. -/
def Emits (members : List (List String × Bool)) (v : Value) : Prop := ∀ x ∈ members, v.has x.1 = x.2

/-- The members below one. -/
def under (key : String) (members : List (List String × Bool)) : List (List String × Bool) :=
  members.map fun x => (key :: x.1, x.2)

section
variable {key name : String} {v : Value} {members : List (String × Value)}

@[simp] theorem lookup_nil : lookup key [] = none := rfl

@[simp] theorem lookup_cons : lookup key ((name, v) :: members) = if key = name then some v else lookup key members := rfl

@[simp] theorem find_null : null.find key = .ok none := rfl

@[simp] theorem find_object : (object members).find key = .ok (lookup key members) := rfl

@[simp] theorem member_object : (object members).member key = .ok ((lookup key members).getD null) := rfl

@[simp] theorem isMember_object : (object members).isMember key = .ok (lookup key members).isSome := rfl

@[simp] theorem asInt64_int (n : Int64) : (int n).asInt64 = .ok n := rfl

@[simp] theorem int64At_object : (object members).int64At key = ((lookup key members).getD null).asInt64 := rfl

@[simp] theorem readAt_object {α : Type} (read : Value → Except Exception α) :
    (object members).readAt key read = read ((lookup key members).getD null) := rfl

@[simp] theorem optionalAt_object {α : Type} (read : Value → Except Exception α) : (object members).optionalAt key read =
    match lookup key members with
    | some v => some <$> read v
    | none => .ok none := by
  cases h : lookup key members with
  | none => simp [optionalAt, h]
  | some v => simp [optionalAt, h]

@[simp] theorem has_nil : v.has [] = true := by
  unfold has
  rfl

@[simp] theorem has_cons {path : List String} : (object members).has (key :: path) =
    match lookup key members with
    | some v => v.has path
    | none => false := by
  rw [has]

@[simp] theorem emits_nil : v.Emits [] ↔ True := by simp [Emits]

@[simp] theorem emits_cons {x : List String × Bool} {l : List (List String × Bool)} :
    v.Emits (x :: l) ↔ v.has x.1 = x.2 ∧ v.Emits l := List.forall_mem_cons

@[simp] theorem emits_append {l m : List (List String × Bool)} : v.Emits (l ++ m) ↔ v.Emits l ∧ v.Emits m :=
  List.forall_mem_append

theorem emits_under {l : List (List String × Bool)} (h : lookup key members = some v) :
    (object members).Emits (under key l) ↔ v.Emits l := by
  unfold Emits under
  rw [List.forall_mem_map]
  simp only [has_cons, h]

end

/-! ### What can be looked into -/

/-- An object or null. -/
def Indexable : Value → Prop
  | null => True
  | object _ => True
  | _ => False

/-- The member, null if there is none. -/
def get (key : String) : Value → Value
  | object members => (lookup key members).getD null
  | _ => null

def contains (key : String) : Value → Bool
  | object members => (lookup key members).isSome
  | _ => false

/-- The members can be read. -/
def Reads {α : Type} (read : Value → Except Exception α) (keys : List String) (v : Value) : Prop :=
  v.Indexable ∧ ∀ key ∈ keys, Succeeds (read (v.get key))

section
variable {α β : Type} {key : String} {v : Value} {read : Value → Except Exception α}

theorem get_of_not_contains (h : v.contains key = false) : v.get key = null := by
  cases v with
  | object members =>
    unfold contains at h
    rw [Option.isSome_eq_false_iff, Option.isNone_iff_eq_none] at h
    change (lookup key members).getD null = null
    rw [h]
    rfl
  | _ => rfl

theorem member_eq (hv : v.Indexable) : v.member key = .ok (v.get key) := by
  cases v with
  | null => rfl
  | object members => rfl
  | _ => exact absurd hv id

theorem isMember_eq (hv : v.Indexable) : v.isMember key = .ok (v.contains key) := by
  cases v with
  | null => rfl
  | object members => rfl
  | _ => exact absurd hv id

theorem succeeds_member_bind {f : Value → Except Exception β} :
    Succeeds (v.member key >>= f) ↔ v.Indexable ∧ Succeeds (f (v.get key)) := by
  cases v with
  | null => exact (and_iff_right trivial).symm
  | object members => exact (and_iff_right trivial).symm
  | _ => exact iff_of_false not_succeeds_error And.left

theorem succeeds_isMember_bind {f : Bool → Except Exception β} :
    Succeeds (v.isMember key >>= f) ↔ v.Indexable ∧ Succeeds (f (v.contains key)) := by
  cases v with
  | null => exact (and_iff_right trivial).symm
  | object members => exact (and_iff_right trivial).symm
  | _ => exact iff_of_false not_succeeds_error And.left

theorem succeeds_readAt : Succeeds (v.readAt key read) ↔ v.Indexable ∧ Succeeds (read (v.get key)) :=
  succeeds_member_bind

theorem succeeds_map' {f : α → β} {x : Except Exception α} : Succeeds (f <$> x) ↔ Succeeds x := succeeds_map

/-- Where null can be read it makes no difference that the member is optional. -/
theorem succeeds_optionalAt (hnull : Succeeds (read null)) :
    Succeeds (v.optionalAt key read) ↔ v.Indexable ∧ Succeeds (read (v.get key)) := by
  refine succeeds_isMember_bind.trans (and_congr_right fun hv => ?_)
  cases h : v.contains key with
  | true =>
    refine succeeds_map'.trans (succeeds_member_bind.trans ?_)
    exact and_iff_right hv
  | false =>
    rw [get_of_not_contains h]
    exact iff_of_true succeeds_pure hnull

theorem reads_cons {keys : List String} :
    v.Reads read (key :: keys) ↔ Succeeds (v.readAt key read) ∧ ∀ k ∈ keys, Succeeds (v.readAt k read) := by
  simp only [Reads, List.forall_mem_cons, succeeds_readAt]
  constructor
  · rintro ⟨hv, hkey, hkeys⟩
    exact ⟨⟨hv, hkey⟩, fun k hk => ⟨hv, hkeys k hk⟩⟩
  · rintro ⟨⟨hv, hkey⟩, hkeys⟩
    exact ⟨hv, hkey, fun k hk => (hkeys k hk).2⟩

theorem succeeds_bind_iff {P Q : Prop} {x : Except Exception α} {f : α → Except Exception β} (hx : Succeeds x ↔ P)
    (hf : ∀ a, Succeeds (f a) ↔ Q) : Succeeds (x >>= f) ↔ P ∧ Q := by
  rw [succeeds_bind]
  constructor
  · rintro ⟨a, ha, h⟩
    exact ⟨hx.1 ⟨a, ha⟩, (hf a).1 h⟩
  · rintro ⟨hP, hQ⟩
    obtain ⟨a, ha⟩ := hx.2 hP
    exact ⟨a, ha, (hf a).2 hQ⟩

theorem reads_iff {keys : List String} :
    v.Reads read (key :: keys) ↔ ∀ k ∈ key :: keys, Succeeds (v.readAt k read) := by
  rw [reads_cons, List.forall_mem_cons]

/-- A reader reads its first member, then the others. -/
theorem reads_bind {γ δ : Type} {x : Except Exception γ} {f : γ → Except Exception δ} {keys : List String}
    (hx : Succeeds x ↔ Succeeds (v.readAt key read)) (hf : ∀ a, Succeeds (f a) ↔ ∀ k ∈ keys, Succeeds (v.readAt k read)) :
    Succeeds (x >>= f) ↔ ∀ k ∈ key :: keys, Succeeds (v.readAt k read) := by
  rw [succeeds_bind_iff hx hf, List.forall_mem_cons]

theorem reads_pure {γ : Type} {a : γ} :
    Succeeds (pure a : Except Exception γ) ↔ ∀ k ∈ ([] : List String), Succeeds (v.readAt k read) :=
  iff_of_true succeeds_pure fun _ hk => absurd hk List.not_mem_nil

end

end Value

/-- `std::string::substr(pos)` -/
def substr (pos : Nat) (s : Str) : Except Exception Str :=
  if pos ≤ s.length then .ok (s.drop pos) else .error .out_of_range

end V2xHub.JsonCpp
