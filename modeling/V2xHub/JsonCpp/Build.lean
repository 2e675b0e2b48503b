import V2xHub.JsonCpp.Value

/-!
# Values that are built

`value[key] = v`, which makes an object of null, and what is at the end of a path of names afterwards. A member that is
assigned under a condition is an `Option` (`assignOptional`).
-/

namespace V2xHub.JsonCpp.Value

def set (key : String) (v : Value) : List (String × Value) → List (String × Value)
  | [] => [(key, v)]
  | (name, w) :: members => if key = name then (name, v) :: members else (name, w) :: set key v members

/-- `value[key] = v`, of a value that is an object or null. -/
def assign (value : Value) (key : String) (v : Value) : Value :=
  match value with
  | object members => object (set key v members)
  | _ => object [(key, v)]

/-- `if (o) value[key] = *o` -/
def assignOptional (value : Value) (key : String) (o : Option Value) : Value :=
  match o with
  | none => value
  | some v => value.assign key v

/-- What is at the end of a path. -/
def valueAt : List String → Value → Option Value
  | [], v => some v
  | key :: path, object members => (lookup key members).bind (valueAt path)
  | _ :: _, _ => none

/-- The number of a numeric value. -/
def number? : Value → Option ℚ
  | int n => some n.toInt
  | uint n => some n.toNat
  | real (.finite q) => some q
  | _ => none

variable {key name : String} {v value : Value} {o : Option Value} {path : List String} {members : List (String × Value)}

theorem lookup_set_self : lookup key (set key v members) = some v := by
  induction members with
  | nil => exact if_pos rfl
  | cons m members ih =>
    obtain ⟨name, w⟩ := m
    by_cases h : key = name
    · rw [set, if_pos h, lookup_cons, if_pos h]
    · rw [set, if_neg h, lookup_cons, if_neg h, ih]

theorem lookup_set_of_ne (h : name ≠ key) : lookup name (set key v members) = lookup name members := by
  induction members with
  | nil => exact if_neg h
  | cons m members ih =>
    obtain ⟨name', w⟩ := m
    by_cases hkey : key = name'
    · subst hkey
      rw [set, if_pos rfl, lookup_cons, lookup_cons, if_neg h, if_neg h]
    · rw [set, if_neg hkey, lookup_cons, lookup_cons, ih]

@[simp] theorem valueAt_nil : valueAt [] v = some v := by
  cases v <;> rfl

@[simp] theorem valueAt_null : valueAt (key :: path) null = none := rfl

@[simp] theorem valueAt_assign_self : valueAt (key :: path) (value.assign key v) = v.valueAt path := by
  cases value with
  | object members =>
    rw [assign, valueAt, lookup_set_self, Option.bind_some]
  | _ => simp [assign, valueAt]

@[simp] theorem valueAt_assign_of_ne (h : name ≠ key) :
    valueAt (name :: path) (value.assign key v) = value.valueAt (name :: path) := by
  cases value with
  | object members => rw [assign, valueAt, lookup_set_of_ne h, valueAt]
  | _ => simp [assign, valueAt, h]

@[simp] theorem valueAt_assignOptional_self :
    valueAt [key] (value.assignOptional key o) = o.or (value.valueAt [key]) := by
  cases o with
  | none => rfl
  | some v => exact valueAt_assign_self.trans valueAt_nil

@[simp] theorem valueAt_assignOptional_of_ne (h : name ≠ key) :
    valueAt (name :: path) (value.assignOptional key o) = value.valueAt (name :: path) := by
  cases o with
  | none => rfl
  | some v => exact valueAt_assign_of_ne h

end V2xHub.JsonCpp.Value
