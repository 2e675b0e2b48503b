import V2xHub.Lib.CString
import Mathlib.Data.List.DropRight
import Mathlib.Data.List.Nodup

/-!
# The table of users

`TmxControl::user_info`, `hashed_info`, `user_add`, `user_update` and `user_delete` over the rows of the table `user`. The
texts of the table are compared by a collation that ignores case and trailing spaces, so two names can be one name to the
server and not to the plugin. The table holds what it is given: `user_add` and `user_update` store a password as it is, and
`hashed_info` looks for its digest.
-/

namespace V2xHub.TmxCtl

def Digit (c : UInt8) : Prop := 48 ≤ c ∧ c ≤ 57

def LowerCase (c : UInt8) : Prop := 97 ≤ c ∧ c ≤ 122

def UpperCase (c : UInt8) : Prop := 65 ≤ c ∧ c ≤ 90

/-- `[-!@#$%^&*+=<>?]` -/
def Symbol (c : UInt8) : Prop := c ∈ CString.lit "-!@#$%^&*+=<>?"

def HexDigit (c : UInt8) : Prop := Digit c ∨ 97 ≤ c ∧ c ≤ 102

instance (c : UInt8) : Decidable (Digit c) := inferInstanceAs (Decidable (_ ∧ _))
instance (c : UInt8) : Decidable (LowerCase c) := inferInstanceAs (Decidable (_ ∧ _))
instance (c : UInt8) : Decidable (UpperCase c) := inferInstanceAs (Decidable (_ ∧ _))
instance (c : UInt8) : Decidable (Symbol c) := inferInstanceAs (Decidable (_ ∈ _))
instance (c : UInt8) : Decidable (HexDigit c) := inferInstanceAs (Decidable (_ ∨ _))

/-- The server: how it compares the texts of the table, and its `SHA2(_, 256)`. -/
structure Server where
  weight : UInt8 → UInt8
  SHA2 : Str → Str
  weight_symbol : ∀ c d, Symbol c → HexDigit d → weight c ≠ weight d
  weight_hex : ∀ c d, HexDigit c → HexDigit d → weight c = weight d → c = d
  length_SHA2 : ∀ p, (SHA2 p).length = 64
  digits_SHA2 : ∀ p, ∀ c ∈ SHA2 p, HexDigit c

/-- The key of a text in the collation. -/
def Server.key (db : Server) (s : Str) : List UInt8 := (s.rdropWhile (· = 32)).map db.weight

def Server.Same (db : Server) (s t : Str) : Prop := db.key s = db.key t

instance (db : Server) (s t : Str) : Decidable (db.Same s t) := inferInstanceAs (Decidable (_ = _))

structure Row where
  username : Str
  password : Str
  accessLevel : Int
deriving DecidableEq

/-- The options of the control. -/
structure Options where
  username : Option Str
  password : Option Str
  access_level : Option Str

instance (s : Str) : Decidable (∀ c ∈ s, Digit c) := List.decidableBAll Digit s

/-- `[0-9]+` -/
def isNumber (s : Str) : Bool := s ≠ [] ∧ ∀ c ∈ s, Digit c

/-- The number that a text of digits is. -/
def numberOf (s : Str) : Nat := s.foldl (fun n c => 10 * n + (c.toNat - 48)) 0

/-- None if it throws. -/
def stoi (s : Str) : Option Int := if numberOf s ≤ 2147483647 then some (numberOf s) else none

variable (db : Server)

/-- `UQ_user_username` -/
def UniqueNames (users : List Row) : Prop := (users.map fun r => db.key r.username).Nodup

/-- The widths of the columns. -/
def fits (username password : Str) : Bool := username.length ≤ 50 ∧ password.length ≤ 64

def user_info (users : List Row) (username : Str) : Option (List Row) :=
  if username = [] then none else some (users.filter fun r => db.Same r.username username)

/-- The passwords of the rows. -/
def hashed_info (users : List Row) (password : Str) : Option (List Str) :=
  if password = [] then none
  else some ((users.filter fun r => db.Same r.password (db.SHA2 password)).map Row.password)

/-- Whether it succeeds, and the table behind it; none if it throws. -/
def user_add (users : List Row) (opts : Options) : Option (Bool × List Row) :=
  match opts with
  | ⟨some username, some password, some level⟩ =>
    if username = [] ∨ ¬ isNumber level then some (false, users)
    else
      (stoi level).map fun access_level =>
        if (∃ r ∈ users, db.Same r.username username) ∨ ¬ fits username password then (false, users)
        else (true, users ++ [⟨username, password, access_level⟩])
  | _ => some (false, users)

/-- The assignments of the statement. -/
def Row.set (r : Row) (password : Option Str) (access_level : Option Int) : Row :=
  { r with password := password.getD r.password, accessLevel := access_level.getD r.accessLevel }

def updateRows (users : List Row) (username : Str) (password : Option Str) (access_level : Option Int) : List Row :=
  users.map fun r => if db.Same r.username username then r.set password access_level else r

/-- The level that is set, if the option is a number; none if it throws. -/
def levelOption (opts : Options) : Option (Option Int) :=
  match opts.access_level.filter isNumber with
  | none => some none
  | some level => (stoi level).map some

def user_update (users : List Row) (opts : Options) : Option (Bool × List Row) :=
  match opts.username with
  | none => some (false, users)
  | some username =>
    if username = [] ∨ opts.password = none ∧ opts.access_level.filter isNumber = none then some (false, users)
    else
      (levelOption opts).map fun access_level =>
        let updated := updateRows db users username opts.password access_level
        -- a row that stays as it was does not count
        if updated = users ∨ ¬ fits [] (opts.password.getD []) then (false, users) else (true, updated)

def user_delete (users : List Row) (username : Str) : Bool × List Row :=
  let rest := users.filter fun r => ¬ db.Same r.username username
  if username = [] ∨ rest.length = users.length then (false, users) else (true, rest)

/-! ### Comparisons -/

section
variable {db} {p q x u : Str} {c : UInt8} {users users' : List Row} {r r' : Row} {opts : Options} {b : Bool}

theorem HexDigit.ne_space (h : HexDigit c) : c ≠ 32 := by
  rintro rfl
  exact absurd h (by decide)

theorem key_of_not_space (h : ∀ c ∈ x, c ≠ 32) : db.key x = x.map db.weight := by
  rw [Server.key, List.rdropWhile_eq_self_iff.2]
  intro hx
  simpa using h _ (List.getLast_mem hx)

theorem key_SHA2 : db.key (db.SHA2 p) = (db.SHA2 p).map db.weight :=
  key_of_not_space fun c hc => (db.digits_SHA2 p c hc).ne_space

theorem eq_of_map_weight (hx : ∀ c ∈ x, HexDigit c) (hu : ∀ c ∈ u, HexDigit c)
    (h : x.map db.weight = u.map db.weight) : x = u := by
  induction x generalizing u with
  | nil => exact (List.map_eq_nil_iff.1 h.symm).symm
  | cons c x ih =>
    cases u with
    | nil => exact nomatch h
    | cons d u =>
      obtain ⟨hcd, hxu⟩ := List.cons.inj h
      obtain ⟨hc, hx⟩ := List.forall_mem_cons.1 hx
      obtain ⟨hd, hu⟩ := List.forall_mem_cons.1 hu
      rw [db.weight_hex c d hc hd hcd, ih hx hu hxu]

/-- Digests are compared as they are. -/
theorem same_SHA2 : db.Same (db.SHA2 q) (db.SHA2 p) ↔ db.SHA2 q = db.SHA2 p := by
  constructor
  · intro h
    rw [Server.Same, key_SHA2, key_SHA2] at h
    exact eq_of_map_weight (db.digits_SHA2 q) (db.digits_SHA2 p) h
  · exact congrArg db.key

theorem not_same_nil : ¬ db.Same [] (db.SHA2 p) := by
  intro h
  have hlength := db.length_SHA2 p
  rw [Server.Same, key_SHA2] at h
  rw [List.map_eq_nil_iff.1 h.symm] at hlength
  exact nomatch hlength

/-- A text with a symbol is not the digest of a password. -/
theorem not_same_of_symbol (hspace : ∀ d ∈ x, d ≠ 32) (hc : c ∈ x) (hsymbol : Symbol c) : ¬ db.Same x (db.SHA2 p) := by
  intro h
  rw [Server.Same, key_SHA2, key_of_not_space hspace] at h
  have hmem : db.weight c ∈ (db.SHA2 p).map db.weight := h ▸ List.mem_map_of_mem hc
  obtain ⟨d, hd, hweight⟩ := List.mem_map.1 hmem
  exact db.weight_symbol c d hsymbol (db.digits_SHA2 p d hd) hweight.symm

/-! ### The rows -/

theorem UniqueNames.eq (hunique : UniqueNames db users) (hr : r ∈ users) (hr' : r' ∈ users)
    (hsame : r.username = r'.username) : r = r' :=
  List.inj_on_of_nodup_map hunique hr hr' (congrArg db.key hsame)

theorem Row.set_username (r : Row) (password : Option Str) (access_level : Option Int) :
    (r.set password access_level).username = r.username := rfl

theorem UniqueNames.updateRows (hunique : UniqueNames db users) (password : Option Str) (access_level : Option Int) :
    UniqueNames db (updateRows db users u password access_level) := by
  rw [UniqueNames, TmxCtl.updateRows, List.map_map]
  refine Eq.subst (List.map_congr_left fun r _ => ?_) hunique
  rw [Function.comp_apply]
  split_ifs
  · rw [Row.set_username]
  · rfl

theorem UniqueNames.concat (hunique : UniqueNames db users) (h : ∀ r ∈ users, ¬ db.Same r.username r'.username) :
    UniqueNames db (users ++ [r']) := by
  rw [UniqueNames, List.map_append, List.map_singleton, List.nodup_append]
  refine ⟨hunique, List.nodup_singleton _, fun k hk k' hk' heq => ?_⟩
  obtain ⟨r, hr, rfl⟩ := List.mem_map.1 hk
  exact h r hr (heq.trans (List.mem_singleton.1 hk'))

theorem UniqueNames.sublist (hunique : UniqueNames db users) (h : users'.Sublist users) : UniqueNames db users' :=
  List.Nodup.sublist (h.map _) hunique

/-- What an insertion that succeeds does. -/
theorem user_add_true (h : user_add db users opts = some (true, users')) :
    ∃ username password level access_level, opts = ⟨some username, some password, some level⟩ ∧
      stoi level = some access_level ∧ (∀ r ∈ users, ¬ db.Same r.username username) ∧
      users' = users ++ [⟨username, password, access_level⟩] := by
  unfold user_add at h
  split at h
  · next username password level =>
    split_ifs at h with hoption hrefused
    · exact nomatch h
    · obtain ⟨access_level, -, h⟩ := Option.map_eq_some_iff.1 h
      exact nomatch h
    · obtain ⟨access_level, hlevel, h⟩ := Option.map_eq_some_iff.1 h
      obtain rfl := (Prod.mk.inj h).2
      refine ⟨username, password, level, access_level, rfl, hlevel, ?_, rfl⟩
      exact fun r hr hsame => hrefused (.inl ⟨r, hr, hsame⟩)
  · exact nomatch h

theorem user_add_false (h : user_add db users opts = some (false, users')) : users' = users := by
  unfold user_add at h
  split at h
  · split_ifs at h
    · exact (Prod.mk.inj (Option.some.inj h)).2.symm
    · obtain ⟨access_level, -, h⟩ := Option.map_eq_some_iff.1 h
      exact (Prod.mk.inj h).2.symm
    · obtain ⟨access_level, -, h⟩ := Option.map_eq_some_iff.1 h
      exact nomatch h
  · exact (Prod.mk.inj (Option.some.inj h)).2.symm

/-- What an update that succeeds does. -/
theorem user_update_true (h : user_update db users opts = some (true, users')) :
    ∃ username access_level, opts.username = some username ∧ levelOption opts = some access_level ∧
      users' = updateRows db users username opts.password access_level ∧ users' ≠ users := by
  rw [user_update] at h
  split at h
  · exact nomatch h
  · next username hname =>
    split_ifs at h
    · exact nomatch h
    · obtain ⟨access_level, hlevel, h⟩ := Option.map_eq_some_iff.1 h
      dsimp only at h
      split_ifs at h with hrefused
      · exact nomatch h
      · obtain rfl := (Prod.mk.inj h).2
        exact ⟨username, access_level, hname, hlevel, rfl, fun heq => hrefused (.inl heq)⟩

theorem user_update_false (h : user_update db users opts = some (false, users')) : users' = users := by
  rw [user_update] at h
  split at h
  · exact (Prod.mk.inj (Option.some.inj h)).2.symm
  · split_ifs at h
    · exact (Prod.mk.inj (Option.some.inj h)).2.symm
    · obtain ⟨access_level, -, h⟩ := Option.map_eq_some_iff.1 h
      dsimp only at h
      split_ifs at h
      · exact (Prod.mk.inj h).2.symm
      · exact nomatch h

theorem user_delete_sublist (db : Server) (users : List Row) (u : Str) : (user_delete db users u).2.Sublist users := by
  rw [user_delete]
  split_ifs
  · exact List.Sublist.refl _
  · exact List.filter_sublist

end

end V2xHub.TmxCtl
