import V2xHub.Lib.Linked
import Mathlib.Data.List.Nodup
import Mathlib.Logic.Relation

/-!
# The items of cJSON in memory

The items of an array or an object are linked both ways, and the array has the first of them (`struct cJSON`). The functions that
add, detach, replace and delete items do to the links what is done to the lists of children elsewhere in this development
(`chains_refine`). What an item is otherwise, its name included, is left out, and so are references.

An access to an item that is not allocated makes the whole result `none`.
-/

namespace V2xHub.CJsonItems

open Linked

/-- The links of the items that are allocated. -/
structure Memory (α : Type*) where
  live : α → Bool
  next : α → Option α
  prev : α → Option α
  child : α → Option α

variable {α : Type*}

namespace Memory

/-- A link of an item is read. -/
def read (h : Memory α) (links : Memory α → α → Option α) (a : α) : Option (Option α) :=
  if h.live a then some (links h a) else none

/-- The loop that goes `which` items on, or behind the last one. -/
def walk (h : Memory α) : Nat → Option α → Option (Option α)
  | 0, c => some c
  | _ + 1, none => some none
  | which + 1, some c => (h.read next c).bind (walk h which)

/-- The loop to the last item. -/
def last (h : Memory α) : Nat → α → Option α
  | 0, _ => none
  | fuel + 1, c => (h.read next c).bind fun behind => match behind with
    | some behind => last h fuel behind
    | none => some c

/-- The loop that counts. -/
def count (h : Memory α) : Nat → Option α → Option Nat
  | 0, _ => none
  | _ + 1, none => some 0
  | fuel + 1, some c => (h.read next c).bind fun behind => (count h fuel behind).map (· + 1)

end Memory

open Memory

/-- The source counts in an `int`, so it is right for less than `2 ^ 31` items; there is no bound here. -/
def GetArraySize (fuel : Nat) (h : Memory α) (array : α) : Option Nat := (h.read child array).bind (h.count fuel)

def GetArrayItem (h : Memory α) (array : α) (item : Int) : Option (Option α) := (h.read child array).bind (h.walk item.toNat)

/-! ### Lists of children -/

/-- The items with their children, as lists. -/
abbrev Forest (α : Type*) := α → Option (List α)

namespace Forest

/-- `b` is `a` or below it. -/
def Below (f : Forest α) : α → α → Prop := Relation.ReflTransGen fun a b => ∃ l, f a = some l ∧ b ∈ l

/-- An item in no list. -/
def Root (f : Forest α) (b : α) : Prop := (f b).isSome ∧ ∀ a l, f a = some l → b ∉ l

/-- Every item stands at one place at most, and none below itself. -/
structure WellFormed (f : Forest α) : Prop where
  live : ∀ a l, f a = some l → ∀ b ∈ l, (f b).isSome
  nodup : ∀ a l, f a = some l → l.Nodup
  parent : ∀ a a' l l' b, f a = some l → f a' = some l' → b ∈ l → b ∈ l' → a = a'
  acyclic : ∃ rank : α → Nat, ∀ a l, f a = some l → ∀ b ∈ l, rank b < rank a

end Forest

/-- The links are those of the lists; an item in no list has none. -/
structure Represents (h : Memory α) (f : Forest α) : Prop where
  wellFormed : f.WellFormed
  live : ∀ a, h.live a = (f a).isSome
  child : ∀ a l, f a = some l → h.child a = l.head?
  row : ∀ a l, f a = some l → Row h.next h.prev none l none
  root : ∀ b, f.Root b → h.next b = none ∧ h.prev b = none

variable {h : Memory α} {f : Forest α} {a b c array item newitem : α} {l l₁ l₂ : List α} {p : Option α} {which : Int} {fuel : Nat}

/-! ### The loops -/

theorem read_of_live {links : Memory α → α → Option α} (hlive : h.live a = true) : h.read links a = some (links h a) :=
  if_pos hlive

theorem walk_row (hrow : Row h.next h.prev p l none) (hlive : ∀ a ∈ l, h.live a = true) (which : Nat) :
    h.walk which l.head? = some l[which]? := by
  induction which generalizing l p with
  | zero => cases l <;> rfl
  | succ which ih =>
    cases l with
    | nil => rfl
    | cons a l =>
      obtain ⟨-, hnext, htail⟩ := hrow
      obtain ⟨ha, hl⟩ := List.forall_mem_cons.1 hlive
      rw [Option.or_none] at hnext
      rw [List.head?_cons, walk, read_of_live ha, hnext, Option.bind_some, ih htail hl, List.getElem?_cons_succ]

theorem last_row (hrow : Row h.next h.prev p (a :: l) none) (hlive : ∀ b ∈ a :: l, h.live b = true) (hfuel : l.length < fuel) :
    h.last fuel a = (a :: l).getLast? := by
  induction fuel generalizing a l p with
  | zero => omega
  | succ fuel ih =>
    obtain ⟨-, hnext, htail⟩ := hrow
    obtain ⟨ha, hl⟩ := List.forall_mem_cons.1 hlive
    rw [Option.or_none] at hnext
    rw [Memory.last, read_of_live ha, hnext, Option.bind_some]
    cases l with
    | nil => rfl
    | cons b l =>
      rw [List.length_cons] at hfuel
      rw [List.head?_cons, List.getLast?_cons_cons]
      exact ih htail hl (by omega)

theorem count_row (hrow : Row h.next h.prev p l none) (hlive : ∀ a ∈ l, h.live a = true) (hfuel : l.length < fuel) :
    h.count fuel l.head? = some l.length := by
  induction fuel generalizing l p with
  | zero => omega
  | succ fuel ih =>
    cases l with
    | nil => rfl
    | cons a l =>
      obtain ⟨-, hnext, htail⟩ := hrow
      obtain ⟨ha, hl⟩ := List.forall_mem_cons.1 hlive
      rw [Option.or_none] at hnext
      rw [List.length_cons] at hfuel
      rw [List.head?_cons, count, read_of_live ha, hnext, Option.bind_some, ih htail hl (by omega), List.length_cons]
      rfl

/-! ### Well formed forests -/

namespace Forest.WellFormed

theorem ne_of_mem (hf : f.WellFormed) (ha : f a = some l) (hb : b ∈ l) : b ≠ a := by
  rintro rfl
  obtain ⟨rank, hrank⟩ := hf.acyclic
  exact absurd (hrank b l ha b hb) (Nat.lt_irrefl _)

theorem rank_le {rank : α → Nat} (hrank : ∀ a l, f a = some l → ∀ b ∈ l, rank b < rank a) (h : f.Below a b) :
    rank b ≤ rank a := by
  induction h with
  | refl => exact Nat.le_refl _
  | tail _ hstep ih =>
    obtain ⟨l, hl, hmem⟩ := hstep
    exact Nat.le_trans (Nat.le_of_lt (hrank _ l hl _ hmem)) ih

/-- Of two items with something below both, one is below the other. -/
theorem below_or (hf : f.WellFormed) (ha : f.Below a c) (hb : f.Below b c) : f.Below a b ∨ f.Below b a := by
  induction ha with
  | refl => exact .inr hb
  | @tail d e had hstep ih =>
    obtain ⟨l, hl, hmem⟩ := hstep
    rcases Relation.ReflTransGen.cases_tail hb with rfl | ⟨d', hbd, l', hl', hmem'⟩
    · exact .inl (had.tail ⟨l, hl, hmem⟩)
    · obtain rfl := hf.parent _ _ l l' e hl hl' hmem hmem'
      exact ih hbd

/-- Nothing is below two children of one item. -/
theorem disjoint (hf : f.WellFormed) {b' : α} (ha : f a = some l) (hb : b ∈ l) (hb' : b' ∈ l) (hne : b ≠ b')
    (h : f.Below b c) : ¬ f.Below b' c := by
  intro h'
  obtain ⟨rank, hrank⟩ := hf.acyclic
  have hstrict : ∀ x y, x ∈ l → y ∈ l → x ≠ y → ¬ f.Below x y := by
    intro x y hx hy hxy hbelow
    rcases Relation.ReflTransGen.cases_tail hbelow with rfl | ⟨d, hxd, l', hl', hmem⟩
    · exact hxy rfl
    · obtain rfl := hf.parent _ _ l l' y ha hl' hy hmem
      exact absurd (hrank a l ha x hx) (Nat.not_lt.2 (rank_le hrank hxd))
  rcases hf.below_or h h' with h | h
  · exact hstrict b b' hb hb' hne h
  · exact hstrict b' b hb' hb (Ne.symm hne) h

/-- Lists from which items were taken out. -/
theorem of_sublist (hf : f.WellFormed) {f' : Forest α} (hlist : ∀ a l, f' a = some l → ∃ l', f a = some l' ∧ l.Sublist l')
    (hlive : ∀ a l b, f' a = some l → b ∈ l → (f' b).isSome) : f'.WellFormed where
  live a l hl b hb := hlive a l b hl hb
  nodup a l hl := by
    obtain ⟨l', hl', hsub⟩ := hlist a l hl
    exact (hf.nodup a l' hl').sublist hsub
  parent a a' l l' b hl hl' hb hb' := by
    obtain ⟨m, hm, hsub⟩ := hlist a l hl
    obtain ⟨m', hm', hsub'⟩ := hlist a' l' hl'
    exact hf.parent a a' m m' b hm hm' (hsub.mem hb) (hsub'.mem hb')
  acyclic := by
    obtain ⟨rank, hrank⟩ := hf.acyclic
    refine ⟨rank, fun a l hl b hb => ?_⟩
    obtain ⟨m, hm, hsub⟩ := hlist a l hl
    exact hrank a m hm b (hsub.mem hb)

end Forest.WellFormed

/-! ### Around an item -/

theorem exists_split {i : Nat} (h : l[i]? = some c) : ∃ l₁ l₂, l = l₁ ++ c :: l₂ ∧ i = l₁.length := by
  obtain ⟨hi, rfl⟩ := List.getElem?_eq_some_iff.1 h
  exact ⟨l.take i, l.drop (i + 1), by rw [← List.drop_eq_getElem_cons hi, List.take_append_drop], by rw [List.length_take]; omega⟩

/-- What is known around an item of a list. -/
structure Around (h : Memory α) (f : Forest α) (array c : α) (l₁ l₂ : List α) : Prop where
  array_live : h.live array = true
  lives : ∀ b ∈ l₁ ++ c :: l₂, h.live b = true
  first : h.child array = (l₁ ++ c :: l₂).head?
  front : Row h.next h.prev none l₁ (some c)
  prev : h.prev c = l₁.getLast?
  next : h.next c = l₂.head?
  back : Row h.next h.prev (some c) l₂ none
  nodup₁ : l₁.Nodup
  nodup₂ : l₂.Nodup
  disjoint : ∀ b ∈ l₁, b ∉ l₂
  new₁ : c ∉ l₁
  new₂ : c ∉ l₂
  ne_array : ∀ b ∈ l₁ ++ c :: l₂, b ≠ array

namespace Represents

theorem lives (hr : Represents h f) (ha : f a = some l) : ∀ b ∈ l, h.live b = true := fun b hb => by
  rw [hr.live]
  exact hr.wellFormed.live a l ha b hb

theorem around (hr : Represents h f) (ha : f array = some (l₁ ++ c :: l₂)) : Around h f array c l₁ l₂ := by
  have hrow := hr.row _ _ ha
  rw [Row.append_iff] at hrow
  obtain ⟨hfront, hprev, hnext, hback⟩ := hrow
  have hnodup := hr.wellFormed.nodup _ _ ha
  rw [List.nodup_append, List.nodup_cons] at hnodup
  obtain ⟨hnodup₁, ⟨hnew₂, hnodup₂⟩, hdisjoint⟩ := hnodup
  exact {
    array_live := by rw [hr.live, ha]; rfl
    lives := hr.lives ha
    first := hr.child _ _ ha
    front := hfront
    prev := by rw [hprev, Option.or_none]
    next := by rw [hnext, Option.or_none]
    back := hback
    nodup₁ := hnodup₁
    nodup₂ := hnodup₂
    disjoint := fun b hb hb' => hdisjoint b hb b (List.mem_cons_of_mem c hb') rfl
    new₁ := fun hc => hdisjoint c hc c (List.mem_cons_self ..) rfl
    new₂ := hnew₂
    ne_array := fun b hb => hr.wellFormed.ne_of_mem ha hb }

theorem walk_around (hr : Represents h f) (ha : f array = some l) (which : Nat) :
    (h.read Memory.child array).bind (h.walk which) = some l[which]? := by
  have hlive : h.live array = true := by rw [hr.live, ha]; rfl
  rw [read_of_live hlive, hr.child _ _ ha, Option.bind_some, walk_row (hr.row _ _ ha) (hr.lives ha)]

end Represents

theorem below_iff (hl : f a = some l) : f.Below a b ↔ b = a ∨ ∃ c ∈ l, f.Below c b := by
  constructor
  · intro h
    rcases Relation.ReflTransGen.cases_head h with rfl | ⟨c, ⟨l', hl', hc⟩, hbelow⟩
    · exact .inl rfl
    · obtain rfl := Option.some.inj (hl.symm.trans hl')
      exact .inr ⟨c, hc, hbelow⟩
  · rintro (rfl | ⟨c, hc, hbelow⟩)
    · exact Relation.ReflTransGen.refl
    · exact Relation.ReflTransGen.head ⟨l, hl, hc⟩ hbelow

def Memory.empty : Memory α := ⟨fun _ => false, fun _ => none, fun _ => none, fun _ => none⟩

theorem represents_empty : Represents (Memory.empty : Memory α) fun _ => none where
  wellFormed := ⟨nofun, nofun, nofun, fun _ => 0, nofun⟩
  live _ := rfl
  child := nofun
  row := nofun
  root _ hb := Bool.noConfusion hb.1

/-! ### The functions that change links -/

variable [DecidableEq α]

namespace Memory

def setNext (h : Memory α) (a : α) (v : Option α) : Option (Memory α) :=
  if h.live a then some { h with next := Function.update h.next a v } else none

def setPrev (h : Memory α) (a : α) (v : Option α) : Option (Memory α) :=
  if h.live a then some { h with prev := Function.update h.prev a v } else none

def setChild (h : Memory α) (a : α) (v : Option α) : Option (Memory α) :=
  if h.live a then some { h with child := Function.update h.child a v } else none

def free (h : Memory α) (a : α) : Option (Memory α) :=
  if h.live a then some { h with live := Function.update h.live a false } else none

/-- `cJSON_New_Item`, at an address where there is no item. -/
def newItem (h : Memory α) (a : α) : Memory α where
  live := Function.update h.live a true
  next := Function.update h.next a none
  prev := Function.update h.prev a none
  child := Function.update h.child a none

end Memory

def AddItemToArray (fuel : Nat) (h : Memory α) (array item : α) : Option (Memory α) := do
  match ← h.read child array with
  | none => h.setChild array (some item)
  | some c =>
    let c ← h.last fuel c
    let h ← h.setNext c (some item)
    h.setPrev item (some c)

def DetachItemFromArray (h : Memory α) (array : α) (which : Int) : Option (Memory α × Option α) := do
  match ← h.walk which.toNat (← h.read child array) with
  | none => return (h, none)
  | some c =>
    let h ← match ← h.read prev c with
      | some p => h.setNext p (← h.read next c)
      | none => some h
    let h ← match ← h.read next c with
      | some n => h.setPrev n (← h.read prev c)
      | none => some h
    let h ← if (← h.read child array) = some c then h.setChild array (← h.read next c) else some h
    let h ← h.setNext c none
    let h ← h.setPrev c none
    return (h, some c)

/-- An item with all behind it and below them; without children the inner call does nothing. -/
def Delete : Nat → Memory α → Option α → Option (Memory α)
  | 0, _, _ => none
  | _ + 1, h, none => some h
  | fuel + 1, h, some c => do
    let behind ← h.read next c
    let h ← Delete fuel h (← h.read child c)
    let h ← h.free c
    Delete fuel h behind

def DeleteItemFromArray (fuel : Nat) (h : Memory α) (array : α) (which : Int) : Option (Memory α) := do
  let (h, c) ← DetachItemFromArray h array which
  Delete fuel h c

def ReplaceItemInArray (fuel : Nat) (h : Memory α) (array : α) (which : Int) (newitem : α) : Option (Memory α) := do
  match ← h.walk which.toNat (← h.read child array) with
  | none => return h
  | some c =>
    let h ← h.setNext newitem (← h.read next c)
    let h ← h.setPrev newitem (← h.read prev c)
    let h ← match ← h.read next newitem with
      | some n => h.setPrev n (some newitem)
      | none => some h
    let h ← if (← h.read child array) = some c then h.setChild array (some newitem)
      else match ← h.read prev newitem with
        | some p => h.setNext p (some newitem)
        | none => none
    let h ← h.setNext c none
    let h ← h.setPrev c none
    Delete fuel h (some c)

/-! ### Detaching -/

/-- The links where `c` stood between `l₁` and `l₂`. -/
def detached (h : Memory α) (array c : α) (l₁ l₂ : List α) : Memory α where
  live := h.live
  next := Function.update (Row.relink h.next l₁.getLast? l₂.head?) c none
  prev := Function.update (Row.relink h.prev l₂.head? l₁.getLast?) c none
  child := if l₁ = [] then Function.update h.child array l₂.head? else h.child

theorem Around.detach (hA : Around h f array c l₁ l₂)
    (hwalk : (h.read Memory.child array).bind (h.walk which.toNat) = some (some c)) :
    DetachItemFromArray h array which = some (detached h array c l₁ l₂, some c) := by
  have hc : h.live c = true := hA.lives c (by simp)
  have hfirst := hA.first
  have hprev := hA.prev
  have hnext := hA.next
  simp only [DetachItemFromArray, Option.bind_eq_bind, ← Option.bind_assoc, hwalk, Option.bind_some]
  rcases List.eq_nil_or_concat l₁ with rfl | ⟨l₁, q, rfl⟩
  · cases l₂ with
    | nil =>
      simp only [List.nil_append, List.head?_cons, List.getLast?_nil, List.head?_nil] at hfirst hprev hnext
      simp [Memory.read, setNext, setPrev, setChild, detached, Row.relink, hA.array_live, hc, hfirst, hprev, hnext]
    | cons n l₂ =>
      have hn : h.live n = true := hA.lives n (by simp)
      simp only [List.nil_append, List.head?_cons, List.getLast?_nil] at hfirst hprev hnext
      simp [Memory.read, setNext, setPrev, setChild, detached, Row.relink, hA.array_live, hc, hfirst, hprev, hnext, hn]
  · have hq : h.live q = true := hA.lives q (by simp)
    have hcq : c ≠ q := fun hcq => hA.new₁ (by simp [hcq])
    have hhead : h.child array ≠ some c := by
      rw [hfirst]
      cases l₁ with
      | nil => simpa using Ne.symm hcq
      | cons b l₁ => simpa using fun hbc => hA.new₁ (by simp [hbc])
    cases l₂ with
    | nil =>
      simp only [List.concat_eq_append, List.getLast?_concat, List.head?_nil] at hprev hnext
      simp [Memory.read, setNext, setPrev, setChild, detached, Row.relink, hA.array_live, hc, hhead, hprev, hnext, hq, hcq]
    | cons n l₂ =>
      have hn : h.live n = true := hA.lives n (by simp)
      simp only [List.concat_eq_append, List.getLast?_concat, List.head?_cons] at hprev hnext
      simp [Memory.read, setNext, setPrev, setChild, detached, Row.relink, hA.array_live, hc, hhead, hprev, hnext, hq, hn, hcq]

theorem relink_next_of_not_mem (hb : b ∉ l₁) (links : α → Option α) (v : Option α) :
    Row.relink links l₁.getLast? v b = links b := Row.relink_of_ne fun heq => hb (List.mem_of_getLast? heq)

theorem relink_prev_of_not_mem (hb : b ∉ l₂) (links : α → Option α) (v : Option α) :
    Row.relink links l₂.head? v b = links b := Row.relink_of_ne fun heq => hb (List.mem_of_head? heq)

/-- The links of an item elsewhere are as before. -/
theorem detached_of_not_mem (h : Memory α) (array : α) (hb : b ∉ l₁ ++ c :: l₂) :
    (detached h array c l₁ l₂).next b = h.next b ∧ (detached h array c l₁ l₂).prev b = h.prev b := by
  rw [List.mem_append, List.mem_cons, not_or, not_or] at hb
  obtain ⟨hb₁, hbc, hb₂⟩ := hb
  constructor
  · exact (Function.update_of_ne hbc _ _).trans (relink_next_of_not_mem hb₁ _ _)
  · exact (Function.update_of_ne hbc _ _).trans (relink_prev_of_not_mem hb₂ _ _)

/-- Where one list has become shorter. -/
theorem exists_of_update {m m' : List α} (ha : f array = some m') (hsub : m.Sublist m')
    (hl : Function.update f array (some m) a = some l) : ∃ l', f a = some l' ∧ l.Sublist l' := by
  by_cases haa : a = array
  · subst haa
    rw [Function.update_self] at hl
    exact ⟨m', ha, Option.some.inj hl ▸ hsub⟩
  · rw [Function.update_of_ne haa] at hl
    exact ⟨l, hl, List.Sublist.refl l⟩

theorem isSome_update {m : List α} (ha : f array = some l) (b : α) :
    (Function.update f array (some m) b).isSome = (f b).isSome := by
  by_cases hb : b = array
  · rw [hb, Function.update_self, ha]
    rfl
  · rw [Function.update_of_ne hb]

/-- An item that is in no list after one was changed was in none before, if it was not in that one. -/
theorem root_of_update {m : List α} (ha : f array = some l) (hb : Forest.Root (Function.update f array (some m)) b)
    (hmem : b ∉ l) : f.Root b := by
  refine ⟨isSome_update ha b ▸ hb.1, fun a k hk hmem' => ?_⟩
  by_cases haa : a = array
  · rw [haa, ha] at hk
    exact hmem (Option.some.inj hk ▸ hmem')
  · exact hb.2 a k (by rw [Function.update_of_ne haa]; exact hk) hmem'

/-- An item that one list had and no longer has is on its own. -/
theorem Forest.WellFormed.root_of_removed {m : List α} (hf : f.WellFormed) (ha : f array = some l) (hc : c ∈ l)
    (hmem : c ∉ m) : Forest.Root (Function.update f array (some m)) c := by
  refine ⟨?_, fun a k hk hmem' => ?_⟩
  · rw [isSome_update ha]
    exact hf.live array l ha c hc
  · by_cases haa : a = array
    · rw [haa, Function.update_self] at hk
      exact hmem (Option.some.inj hk ▸ hmem')
    · rw [Function.update_of_ne haa] at hk
      exact haa (hf.parent _ _ _ _ c hk ha hmem' hc)

theorem child_of_ne (haa : a ≠ array) (links : α → Option α) (v : Option α) :
    (if l₁ = [] then Function.update links array v else links) a = links a := by
  split_ifs
  · exact Function.update_of_ne haa _ _
  · rfl

/-- The lists after `c` was taken out of the one of `array`. -/
theorem Represents.detached (hr : Represents h f) (ha : f array = some (l₁ ++ c :: l₂)) :
    Represents (CJsonItems.detached h array c l₁ l₂) (Function.update f array (some (l₁ ++ l₂))) := by
  have hA := hr.around ha
  have hother : ∀ {a l}, a ≠ array → f a = some l → ∀ b ∈ l, b ∉ l₁ ++ c :: l₂ := fun haa hl b hb hb' =>
    haa (hr.wellFormed.parent _ _ _ _ b hl ha hb hb')
  have hlist := fun a l => exists_of_update (a := a) (l := l) ha ((List.sublist_cons_self c l₂).append_left l₁)
  refine ⟨hr.wellFormed.of_sublist hlist fun a l b hl hb => ?_, fun a => ?_, fun a l hl => ?_, fun a l hl => ?_, fun b hb => ?_⟩
  · obtain ⟨l', hl', hsub⟩ := hlist a l hl
    rw [isSome_update ha]
    exact hr.wellFormed.live a l' hl' b (hsub.mem hb)
  · rw [isSome_update ha]
    exact hr.live a
  · by_cases haa : a = array
    · subst haa
      rw [Function.update_self] at hl
      obtain rfl := Option.some.inj hl
      cases l₁ with
      | nil => exact Function.update_self ..
      | cons b l₁ => exact hA.first
    · rw [Function.update_of_ne haa] at hl
      exact (child_of_ne haa _ _).trans (hr.child a l hl)
  · by_cases haa : a = array
    · subst haa
      rw [Function.update_self] at hl
      obtain rfl := Option.some.inj hl
      rw [Row.append_iff, Option.or_none, Option.or_none]
      constructor
      · refine (hA.front.relink_last hA.nodup₁ l₂.head?).frame fun b hb => ?_
        have hbc : b ≠ c := fun hbc => hA.new₁ (hbc ▸ hb)
        exact ⟨Function.update_of_ne hbc _ _,
          (Function.update_of_ne hbc _ _).trans (relink_prev_of_not_mem (hA.disjoint b hb) _ _)⟩
      · refine (hA.back.relink_first hA.nodup₂ l₁.getLast?).frame fun b hb => ?_
        have hbc : b ≠ c := fun hbc => hA.new₂ (hbc ▸ hb)
        exact ⟨(Function.update_of_ne hbc _ _).trans (relink_next_of_not_mem (fun hb' => hA.disjoint b hb' hb) _ _),
          Function.update_of_ne hbc _ _⟩
    · rw [Function.update_of_ne haa] at hl
      exact (hr.row a l hl).frame fun b hb => detached_of_not_mem h array (hother haa hl b hb)
  · by_cases hbc : b = c
    · subst hbc
      exact ⟨Function.update_self .., Function.update_self ..⟩
    · have hnot : b ∉ l₁ ++ l₂ := hb.2 array _ (Function.update_self ..)
      have hmem : b ∉ l₁ ++ c :: l₂ := by
        rw [List.mem_append] at hnot
        simpa [hbc] using hnot
      obtain ⟨hnext, hprev⟩ := detached_of_not_mem h array hmem
      rw [hnext, hprev]
      exact hr.root b (root_of_update ha hb hmem)

/-! ### Deleting -/

open Classical in
/-- The forest without `c` and what is below it. -/
noncomputable def Forest.remove (f : Forest α) (c : α) : Forest α := fun b => if f.Below c b then none else f b

/-- The items of a row and all below them are freed, each once. The induction is on their rank and on the row. -/
theorem Represents.delete_row (hr : Represents h f) {rank : α → Nat} (hrank : ∀ a l, f a = some l → ∀ b ∈ l, rank b < rank a)
    (n : Nat) (l : List α) {p : Option α} {live : α → Bool} (hn : ∀ a ∈ l, rank a < n) (hrow : Row h.next h.prev p l none)
    (hsome : ∀ a ∈ l, (f a).isSome) (hdisjoint : l.Pairwise fun a b => ∀ c, f.Below a c → ¬ f.Below b c)
    (hlive : ∀ a ∈ l, ∀ b, f.Below a b → live b = true) :
    ∃ N live', (∀ fuel ≥ N, Delete fuel { h with live := live } l.head? = some { h with live := live' }) ∧
      ∀ b, live' b = true ↔ live b = true ∧ ∀ a ∈ l, ¬ f.Below a b := by
  induction n generalizing l p live with
  | zero =>
    cases l with
    | nil =>
      refine ⟨1, live, fun fuel hfuel => ?_, by simp⟩
      obtain ⟨fuel, rfl⟩ := Nat.exists_eq_succ_of_ne_zero (Nat.one_le_iff_ne_zero.1 hfuel)
      rfl
    | cons a l => exact absurd (hn a (List.mem_cons_self ..)) (Nat.not_lt_zero _)
  | succ n ihn =>
    induction l generalizing p live with
    | nil =>
      refine ⟨1, live, fun fuel hfuel => ?_, by simp⟩
      obtain ⟨fuel, rfl⟩ := Nat.exists_eq_succ_of_ne_zero (Nat.one_le_iff_ne_zero.1 hfuel)
      rfl
    | cons c l ihl =>
      obtain ⟨-, hnext, htail⟩ := hrow
      obtain ⟨hcn, hln⟩ := List.forall_mem_cons.1 hn
      obtain ⟨hcsome, hlsome⟩ := List.forall_mem_cons.1 hsome
      obtain ⟨hapart, hdisjoint⟩ := List.pairwise_cons.1 hdisjoint
      obtain ⟨hclive, hllive⟩ := List.forall_mem_cons.1 hlive
      obtain ⟨k, hk⟩ := Option.isSome_iff_exists.1 hcsome
      have hbelow : ∀ b, f.Below c b ↔ b = c ∨ ∃ a ∈ k, f.Below a b := fun b => below_iff hk
      have hkids : k.Pairwise fun a b => ∀ c, f.Below a c → ¬ f.Below b c :=
        (hr.wellFormed.nodup c k hk).imp_of_mem fun {x y} hx hy hxy z => hr.wellFormed.disjoint hk hx hy hxy
      obtain ⟨N₁, live₁, hdelete₁, hiff₁⟩ := ihn k (fun a ha => by have := hrank c k hk a ha; omega) (hr.row c k hk)
        (hr.wellFormed.live c k hk) hkids fun a ha b hab => hclive b ((hbelow b).2 (.inr ⟨a, ha, hab⟩))
      have hc₁ : live₁ c = true := by
        refine (hiff₁ c).2 ⟨hclive c Relation.ReflTransGen.refl, fun a ha hac => ?_⟩
        exact absurd (Forest.WellFormed.rank_le hrank hac) (Nat.not_le.2 (hrank c k hk a ha))
      have hrest : ∀ a ∈ l, ∀ b, f.Below a b → Function.update live₁ c false b = true := by
        intro a ha b hab
        have hcb : ¬ f.Below c b := fun hcb => hapart a ha b hcb hab
        rw [Function.update_of_ne fun hbc : b = c => hcb (hbc ▸ Relation.ReflTransGen.refl)]
        exact (hiff₁ b).2 ⟨hllive a ha b hab, fun a' ha' hbelow' => hcb ((hbelow b).2 (.inr ⟨a', ha', hbelow'⟩))⟩
      obtain ⟨N₂, live₂, hdelete₂, hiff₂⟩ := ihl hln htail hlsome hdisjoint hrest
      refine ⟨max N₁ N₂ + 2, live₂, fun fuel hfuel => ?_, fun b => ?_⟩
      · obtain ⟨fuel, rfl⟩ := Nat.exists_eq_succ_of_ne_zero (show fuel ≠ 0 by omega)
        rw [Option.or_none] at hnext
        have hclive' : live c = true := hclive c Relation.ReflTransGen.refl
        rw [List.head?_cons, Delete, read_of_live (h := { h with live := live }) hclive',
          read_of_live (h := { h with live := live }) hclive']
        simp only [Option.bind_eq_bind, Option.bind_some]
        rw [hnext, hr.child c k hk, hdelete₁ fuel (by omega), Option.bind_some, Memory.free, if_pos hc₁, Option.bind_some]
        exact hdelete₂ fuel (by omega)
      · rw [hiff₂, List.forall_mem_cons, hbelow, not_or]
        by_cases hbc : b = c
        · subst hbc
          simp
        · rw [Function.update_of_ne hbc, hiff₁]
          simp only [not_exists, not_and, hbc, not_false_eq_true, true_and]
          tauto

/-- A root and all below it are freed, and everything else stays. -/
theorem Represents.delete (hr : Represents h f) (hc : f.Root c) :
    ∃ N h', (∀ fuel ≥ N, Delete fuel h (some c) = some h') ∧ Represents h' (f.remove c) := by
  obtain ⟨rank, hrank⟩ := hr.wellFormed.acyclic
  obtain ⟨hnext, hprev⟩ := hr.root c hc
  have hlive : ∀ a ∈ [c], ∀ b, f.Below a b → h.live b = true := by
    intro a ha b hab
    obtain rfl := List.mem_singleton.1 ha
    rw [hr.live]
    rcases Relation.ReflTransGen.cases_tail hab with rfl | ⟨d, -, l, hl, hmem⟩
    · exact hc.1
    · exact hr.wellFormed.live d l hl b hmem
  obtain ⟨N, live', hdelete, hiff⟩ := hr.delete_row hrank (rank c + 1) [c] (by simp) ⟨hprev, hnext, trivial⟩ (by simpa using hc.1)
    (List.pairwise_singleton ..) hlive
  have hsome : ∀ a l, f.remove c a = some l → ¬ f.Below c a ∧ f a = some l := by
    intro a l hl
    rw [Forest.remove] at hl
    split_ifs at hl with hbelow
    exact ⟨hbelow, hl⟩
  have hstays : ∀ a l b, f.remove c a = some l → b ∈ l → ¬ f.Below c b := by
    intro a l b hl hb hbelow
    obtain ⟨hac, hlist⟩ := hsome a l hl
    rcases Relation.ReflTransGen.cases_tail hbelow with rfl | ⟨d, hcd, l', hl', hmem⟩
    · exact hc.2 a l hlist hb
    · exact hac (hr.wellFormed.parent a d l l' b hlist hl' hb hmem ▸ hcd)
  refine ⟨N, { h with live := live' }, hdelete, ?_, fun a => ?_, fun a l hl => hr.child a l (hsome a l hl).2,
    fun a l hl => hr.row a l (hsome a l hl).2, fun b hb => hr.root b ⟨?_, fun a l hl hmem => ?_⟩⟩
  · refine hr.wellFormed.of_sublist (fun a l hl => ⟨l, (hsome a l hl).2, List.Sublist.refl l⟩) fun a l b hl hb => ?_
    rw [Forest.remove, if_neg (hstays a l b hl hb)]
    exact hr.wellFormed.live a l (hsome a l hl).2 b hb
  · rw [Bool.eq_iff_iff, hiff, hr.live, Forest.remove]
    split_ifs with hbelow <;> simp [hbelow]
  · obtain ⟨l, hl⟩ := Option.isSome_iff_exists.1 hb.1
    exact Option.isSome_of_eq_some (hsome b l hl).2
  · have hbelow : ¬ f.Below c b := by
      obtain ⟨l, hl⟩ := Option.isSome_iff_exists.1 hb.1
      exact (hsome b l hl).1
    refine hb.2 a l ?_ hmem
    rw [Forest.remove, if_neg fun hca => hbelow (hca.tail ⟨l, hl, hmem⟩)]
    exact hl

/-! ### Inserting -/

/-- The links with `item` between `l₁` and `l₂`. -/
def inserted (h : Memory α) (array item : α) (l₁ l₂ : List α) : Memory α where
  live := h.live
  next := Row.relink (Function.update h.next item l₂.head?) l₁.getLast? (some item)
  prev := Row.relink (Function.update h.prev item l₁.getLast?) l₂.head? (some item)
  child := if l₁ = [] then Function.update h.child array (some item) else h.child

theorem Forest.WellFormed.inserted (hf : f.WellFormed) (ha : f array = some (l₁ ++ l₂)) (hitem : f.Root item)
    (hbelow : ¬ f.Below item array) : Forest.WellFormed (Function.update f array (some (l₁ ++ item :: l₂))) := by
  have hlist : ∀ a l b, Function.update f array (some (l₁ ++ item :: l₂)) a = some l → b ∈ l →
      a = array ∧ b = item ∨ ∃ l', f a = some l' ∧ b ∈ l' := by
    intro a l b hl hb
    by_cases haa : a = array
    · subst haa
      rw [Function.update_self] at hl
      obtain rfl := Option.some.inj hl
      rw [List.mem_append, List.mem_cons] at hb
      rcases hb with hb | rfl | hb
      · exact .inr ⟨_, ha, List.mem_append_left _ hb⟩
      · exact .inl ⟨rfl, rfl⟩
      · exact .inr ⟨_, ha, List.mem_append_right _ hb⟩
    · rw [Function.update_of_ne haa] at hl
      exact .inr ⟨l, hl, hb⟩
  refine ⟨fun a l hl b hb => ?_, fun a l hl => ?_, fun a a' l l' b hl hl' hb hb' => ?_, ?_⟩
  · have hb : (f b).isSome := by
      rcases hlist a l b hl hb with ⟨-, rfl⟩ | ⟨l', hl', hb'⟩
      · exact hitem.1
      · exact hf.live a l' hl' b hb'
    rwa [isSome_update ha]
  · by_cases haa : a = array
    · subst haa
      rw [Function.update_self] at hl
      obtain rfl := Option.some.inj hl
      have hnew := hitem.2 a _ ha
      rw [List.nodup_middle, List.nodup_cons]
      exact ⟨hnew, hf.nodup a _ ha⟩
    · rw [Function.update_of_ne haa] at hl
      exact hf.nodup a l hl
  · rcases hlist a l b hl hb with ⟨rfl, rfl⟩ | ⟨m, hm, hbm⟩
    · rcases hlist a' l' b hl' hb' with ⟨rfl, -⟩ | ⟨m', hm', hbm'⟩
      · rfl
      · exact absurd hbm' (hitem.2 a' m' hm')
    · rcases hlist a' l' b hl' hb' with ⟨rfl, rfl⟩ | ⟨m', hm', hbm'⟩
      · exact absurd hbm (hitem.2 a m hm)
      · exact hf.parent a a' m m' b hm hm' hbm hbm'
  · -- what is not below the item is lifted above it
    obtain ⟨rank, hrank⟩ := hf.acyclic
    classical
    refine ⟨fun x => if f.Below item x then rank x else rank x + rank item + 1, fun a l hl b hb => ?_⟩
    rcases hlist a l b hl hb with ⟨rfl, rfl⟩ | ⟨m, hm, hbm⟩
    · have hself : f.Below b b := Relation.ReflTransGen.refl
      dsimp only
      rw [if_pos hself, if_neg hbelow]
      omega
    · have hlt := hrank a m hm b hbm
      dsimp only
      by_cases haBelow : f.Below item a
      · have hbBelow : f.Below item b := haBelow.tail ⟨m, hm, hbm⟩
        rw [if_pos haBelow, if_pos hbBelow]
        exact hlt
      · rw [if_neg haBelow]
        split_ifs <;> omega

theorem Represents.inserted (hr : Represents h f) (ha : f array = some (l₁ ++ l₂)) (hitem : f.Root item)
    (hbelow : ¬ f.Below item array) :
    Represents (CJsonItems.inserted h array item l₁ l₂) (Function.update f array (some (l₁ ++ item :: l₂))) := by
  have hrow := hr.row _ _ ha
  rw [Row.append_iff] at hrow
  obtain ⟨hfront, hback⟩ := hrow
  have hnodup := hr.wellFormed.nodup _ _ ha
  rw [List.nodup_append] at hnodup
  obtain ⟨hnodup₁, hnodup₂, hdisjoint⟩ := hnodup
  have hnew : item ∉ l₁ ++ l₂ := hitem.2 array _ ha
  rw [List.mem_append, not_or] at hnew
  obtain ⟨hnew₁, hnew₂⟩ := hnew
  have hkeep : ∀ b, b ∉ l₁ ++ item :: l₂ →
      (CJsonItems.inserted h array item l₁ l₂).next b = h.next b ∧
        (CJsonItems.inserted h array item l₁ l₂).prev b = h.prev b := by
    intro b hb
    rw [List.mem_append, List.mem_cons, not_or, not_or] at hb
    obtain ⟨hb₁, hbi, hb₂⟩ := hb
    exact ⟨(relink_next_of_not_mem hb₁ _ _).trans (Function.update_of_ne hbi _ _),
      (relink_prev_of_not_mem hb₂ _ _).trans (Function.update_of_ne hbi _ _)⟩
  have hother : ∀ {a l}, a ≠ array → f a = some l → ∀ b ∈ l, b ∉ l₁ ++ item :: l₂ := by
    intro a l haa hl b hb hb'
    rw [List.mem_append, List.mem_cons] at hb'
    rcases hb' with hb' | rfl | hb'
    · exact haa (hr.wellFormed.parent _ _ _ _ b hl ha hb (List.mem_append_left _ hb'))
    · exact hitem.2 a l hl hb
    · exact haa (hr.wellFormed.parent _ _ _ _ b hl ha hb (List.mem_append_right _ hb'))
  refine ⟨hr.wellFormed.inserted ha hitem hbelow, fun a => ?_, fun a l hl => ?_, fun a l hl => ?_, fun b hb => ?_⟩
  · rw [isSome_update ha]
    exact hr.live a
  · by_cases haa : a = array
    · subst haa
      rw [Function.update_self] at hl
      obtain rfl := Option.some.inj hl
      cases l₁ with
      | nil => exact Function.update_self ..
      | cons b l₁ =>
        have hfirst := hr.child _ _ ha
        exact hfirst
    · rw [Function.update_of_ne haa] at hl
      exact (child_of_ne haa _ _).trans (hr.child a l hl)
  · by_cases haa : a = array
    · subst haa
      rw [Function.update_self] at hl
      obtain rfl := Option.some.inj hl
      have hmiddle : (CJsonItems.inserted h a item l₁ l₂).prev item = l₁.getLast? ∧
          (CJsonItems.inserted h a item l₁ l₂).next item = l₂.head? :=
        ⟨(relink_prev_of_not_mem hnew₂ _ _).trans (Function.update_self ..),
          (relink_next_of_not_mem hnew₁ _ _).trans (Function.update_self ..)⟩
      rw [Row.append_iff, Row]
      refine ⟨?_, by rw [hmiddle.1, Option.or_none], by rw [hmiddle.2, Option.or_none], ?_⟩
      · have hfront' : Row (Function.update h.next item l₂.head?) h.prev none l₁ (l₂.head?.or none) :=
          hfront.frame fun b hb => ⟨Function.update_of_ne (fun hbi : b = item => hnew₁ (hbi ▸ hb)) _ _, rfl⟩
        refine (hfront'.relink_last hnodup₁ (some item)).frame fun b hb => ⟨rfl, ?_⟩
        exact (relink_prev_of_not_mem (fun hb' => hdisjoint b hb b hb' rfl) _ _).trans
          (Function.update_of_ne (fun hbi : b = item => hnew₁ (hbi ▸ hb)) _ _)
      · have hback' : Row h.next (Function.update h.prev item l₁.getLast?) (l₁.getLast?.or none) l₂ none :=
          hback.frame fun b hb => ⟨rfl, Function.update_of_ne (fun hbi : b = item => hnew₂ (hbi ▸ hb)) _ _⟩
        refine (hback'.relink_first hnodup₂ (some item)).frame fun b hb => ⟨?_, rfl⟩
        exact (relink_next_of_not_mem (fun hb' => hdisjoint b hb' b hb rfl) _ _).trans
          (Function.update_of_ne (fun hbi : b = item => hnew₂ (hbi ▸ hb)) _ _)
    · rw [Function.update_of_ne haa] at hl
      exact (hr.row a l hl).frame fun b hb => hkeep b (hother haa hl b hb)
  · have hnot : b ∉ l₁ ++ item :: l₂ := hb.2 array _ (Function.update_self ..)
    obtain ⟨hnext, hprev⟩ := hkeep b hnot
    rw [hnext, hprev]
    refine hr.root b (root_of_update ha hb fun hmem => hnot ?_)
    rw [List.mem_append] at hmem
    rw [List.mem_append, List.mem_cons]
    tauto

/-! ### The functions -/

theorem update_around {x y z : α} (hxy : x ≠ y) (hyz : y ≠ z) (links : α → Option α) (t u v w : Option α) :
    Function.update (Function.update (Function.update (Function.update links z t) y w) x u) z v =
      Function.update (Function.update (Function.update links x u) z v) y w := by
  funext b
  simp only [Function.update_apply]
  split_ifs <;> simp_all

/-- To replace is to detach and to insert, as far as the links are concerned. -/
theorem Around.replace (hA : Around h f array c l₁ l₂)
    (hwalk : (h.read Memory.child array).bind (h.walk which.toNat) = some (some c)) (hlive : h.live newitem = true)
    (hmem : newitem ∉ l₁ ++ c :: l₂) :
    ReplaceItemInArray fuel h array which newitem =
      Delete fuel (inserted (detached h array c l₁ l₂) array newitem l₁ l₂) (some c) := by
  have hc : h.live c = true := hA.lives c (by simp)
  have hfirst := hA.first
  have hprev := hA.prev
  have hnext := hA.next
  have hnc : newitem ≠ c := fun hnc => hmem (by simp [hnc])
  simp only [ReplaceItemInArray, Option.bind_eq_bind, ← Option.bind_assoc, hwalk, Option.bind_some]
  rcases List.eq_nil_or_concat l₁ with rfl | ⟨l₁, q, rfl⟩
  · cases l₂ with
    | nil =>
      simp only [List.nil_append, List.head?_cons, List.getLast?_nil, List.head?_nil] at hfirst hprev hnext
      simp [Memory.read, setNext, setPrev, setChild, detached, inserted, Row.relink, hA.array_live, hlive, hc, hfirst, hprev,
        hnext, Function.update_comm hnc]
    | cons n l₂ =>
      have hn : h.live n = true := hA.lives n (by simp)
      have hcn : c ≠ n := fun hcn => hA.new₂ (by simp [hcn])
      simp only [List.nil_append, List.head?_cons, List.getLast?_nil] at hfirst hprev hnext
      simp [Memory.read, setNext, setPrev, setChild, detached, inserted, Row.relink, hA.array_live, hlive, hc, hfirst, hprev,
        hnext, hn, Function.update_comm hnc, update_around hnc hcn]
  · have hq : h.live q = true := hA.lives q (by simp)
    have hcq : c ≠ q := fun hcq => hA.new₁ (by simp [hcq])
    have hhead : h.child array ≠ some c := by
      rw [hfirst]
      cases l₁ with
      | nil => simpa using Ne.symm hcq
      | cons b l₁ => simpa using fun hbc => hA.new₁ (by simp [hbc])
    cases l₂ with
    | nil =>
      simp only [List.concat_eq_append, List.getLast?_concat, List.head?_nil] at hprev hnext
      simp [Memory.read, setNext, setPrev, setChild, detached, inserted, Row.relink, hA.array_live, hlive, hc, hhead, hprev,
        hnext, hq, Function.update_comm hnc, update_around hnc hcq]
    | cons n l₂ =>
      have hn : h.live n = true := hA.lives n (by simp)
      have hcn : c ≠ n := fun hcn => hA.new₂ (by simp [hcn])
      have hmn : newitem ≠ n := fun hmn => hmem (by simp [hmn])
      simp only [List.concat_eq_append, List.getLast?_concat, List.head?_cons] at hprev hnext
      simp [Memory.read, setNext, setPrev, setChild, detached, inserted, Row.relink, hA.array_live, hlive, hc, hhead, hprev,
        hnext, hq, hn, hmn, update_around hnc hcn, update_around hnc hcq]

namespace Represents

theorem add (hr : Represents h f) (ha : f array = some l) (hitem : f.Root item) (hbelow : ¬ f.Below item array) :
    ∃ h', (∀ fuel > l.length, AddItemToArray fuel h array item = some h') ∧
      Represents h' (Function.update f array (some (l ++ [item]))) := by
  have hlist : f array = some (l ++ []) := by rw [ha, List.append_nil]
  have hins := hr.inserted hlist hitem hbelow
  refine ⟨_, fun fuel hfuel => ?_, hins⟩
  obtain ⟨hnext, hprev⟩ := hr.root item hitem
  have harray : h.live array = true := by rw [hr.live, ha]; rfl
  have hlive : h.live item = true := by rw [hr.live]; exact hitem.1
  have hnone : Function.update h.next item none = h.next := by rw [← hnext, Function.update_eq_self]
  have hchild := hr.child array l ha
  cases l with
  | nil =>
    have hprev' : Function.update h.prev item none = h.prev := by rw [← hprev, Function.update_eq_self]
    rw [List.head?_nil] at hchild
    simp [AddItemToArray, Memory.read, harray, hchild, setChild, CJsonItems.inserted, Row.relink, hnone, hprev']
  | cons a l =>
    obtain ⟨q, hq⟩ : ∃ q, (a :: l).getLast? = some q := ⟨_, List.getLast?_eq_some_getLast (List.cons_ne_nil a l)⟩
    have hqlive : h.live q = true := hr.lives ha q (List.mem_of_getLast? hq)
    have hlast : h.last fuel a = some q :=
      (last_row (hr.row _ _ ha) (hr.lives ha) (by rw [List.length_cons] at hfuel; omega)).trans hq
    rw [List.head?_cons] at hchild
    simp [AddItemToArray, Memory.read, harray, hchild, hlast, setNext, setPrev, hqlive, hlive, CJsonItems.inserted, Row.relink,
      hnone, hq]

theorem detach (hr : Represents h f) (ha : f array = some l) (which : Int) :
    ∃ h', DetachItemFromArray h array which = some (h', l[which.toNat]?) ∧
      Represents h' (Function.update f array (some (l.eraseIdx which.toNat))) ∧
      ∀ c ∈ l[which.toNat]?, Forest.Root (Function.update f array (some (l.eraseIdx which.toNat))) c := by
  have hwalk := hr.walk_around ha which.toNat
  cases hc : l[which.toNat]? with
  | none =>
    rw [hc] at hwalk
    have hlen := List.getElem?_eq_none_iff.1 hc
    refine ⟨h, ?_, ?_, nofun⟩
    · simp only [DetachItemFromArray, Option.bind_eq_bind, ← Option.bind_assoc, hwalk, Option.bind_some]
      rfl
    · rw [List.eraseIdx_of_length_le hlen, ← ha, Function.update_eq_self]
      exact hr
  | some c =>
    rw [hc] at hwalk
    obtain ⟨l₁, l₂, rfl, hlen⟩ := exists_split hc
    have herase : (l₁ ++ c :: l₂).eraseIdx which.toNat = l₁ ++ l₂ := by
      rw [hlen, List.eraseIdx_append_of_length_le (Nat.le_refl _), Nat.sub_self, List.eraseIdx_cons_zero]
    rw [herase]
    have hA := hr.around ha
    refine ⟨_, hA.detach hwalk, hr.detached ha, ?_⟩
    rintro _ ⟨⟩
    refine hr.wellFormed.root_of_removed ha (by simp) fun hmem => ?_
    rcases List.mem_append.1 hmem with hmem | hmem
    · exact hA.new₁ hmem
    · exact hA.new₂ hmem

/-- The new item is where `c` was, which is on its own before it is deleted. -/
theorem replace (hr : Represents h f) (ha : f array = some (l₁ ++ c :: l₂)) (hwhich : which.toNat = l₁.length)
    (hnew : f.Root newitem) (hbelow : ¬ f.Below newitem array) :
    ∃ h', (∀ fuel, ReplaceItemInArray fuel h array which newitem = Delete fuel h' (some c)) ∧
      Represents h' (Function.update f array (some (l₁ ++ newitem :: l₂))) ∧
      Forest.Root (Function.update f array (some (l₁ ++ newitem :: l₂))) c := by
  have hA := hr.around ha
  have hwalk : (h.read Memory.child array).bind (h.walk which.toNat) = some (some c) := by
    rw [hr.walk_around ha, hwhich, List.getElem?_append_right (Nat.le_refl _), Nat.sub_self, List.getElem?_cons_zero]
  have hmem : newitem ∉ l₁ ++ c :: l₂ := hnew.2 array _ ha
  have hnc : newitem ≠ c := fun hnc => hmem (by simp [hnc])
  have hlist := fun a l => exists_of_update (a := a) (l := l) ha ((List.sublist_cons_self c l₂).append_left l₁)
  have hroot : Forest.Root (Function.update f array (some (l₁ ++ l₂))) newitem := by
    refine ⟨?_, fun a l hl hmem' => ?_⟩
    · rw [isSome_update ha]
      exact hnew.1
    · obtain ⟨l', hl', hsub⟩ := hlist a l hl
      exact hnew.2 a l' hl' (hsub.mem hmem')
  have hapart : ¬ Forest.Below (Function.update f array (some (l₁ ++ l₂))) newitem array := by
    refine fun h => hbelow (Relation.ReflTransGen.mono (fun a b hstep => ?_) _ _ h)
    obtain ⟨l, hl, hb⟩ := hstep
    obtain ⟨l', hl', hsub⟩ := hlist a l hl
    exact ⟨l', hl', hsub.mem hb⟩
  have hins := (hr.detached ha).inserted (Function.update_self ..) hroot hapart
  rw [Function.update_idem] at hins
  refine ⟨_, fun fuel => hA.replace hwalk (by rw [hr.live]; exact hnew.1) hmem, hins, ?_⟩
  refine hr.wellFormed.root_of_removed ha (by simp) fun hmem' => ?_
  rw [List.mem_append, List.mem_cons] at hmem'
  rcases hmem' with hmem' | rfl | hmem'
  · exact hA.new₁ hmem'
  · exact hnc rfl
  · exact hA.new₂ hmem'

theorem create (hr : Represents h f) (ha : f a = none) : Represents (h.newItem a) (Function.update f a (some [])) := by
  have hold : ∀ {b l}, Function.update f a (some []) b = some l → b = a ∧ l = [] ∨ b ≠ a ∧ f b = some l := by
    intro b l hl
    by_cases hba : b = a
    · rw [hba, Function.update_self] at hl
      exact .inl ⟨hba, (Option.some.inj hl).symm⟩
    · exact .inr ⟨hba, by rwa [Function.update_of_ne hba] at hl⟩
  have hfresh : ∀ {b l}, f b = some l → a ∉ l := by
    intro b l hl hmem
    have := hr.wellFormed.live b l hl a hmem
    rw [ha] at this
    nomatch this
  refine ⟨⟨fun b l hl x hx => ?_, fun b l hl => ?_, fun b b' l l' x hl hl' hx hx' => ?_, ?_⟩, fun b => ?_, fun b l hl => ?_,
    fun b l hl => ?_, fun b hb => ?_⟩
  · rcases hold hl with ⟨-, rfl⟩ | ⟨-, hl⟩
    · nomatch hx
    · by_cases hxa : x = a
      · rw [hxa, Function.update_self]
        rfl
      · rw [Function.update_of_ne hxa]
        exact hr.wellFormed.live b l hl x hx
  · rcases hold hl with ⟨-, rfl⟩ | ⟨-, hl⟩
    · exact List.nodup_nil
    · exact hr.wellFormed.nodup b l hl
  · rcases hold hl with ⟨-, rfl⟩ | ⟨-, hl⟩
    · nomatch hx
    · rcases hold hl' with ⟨-, rfl⟩ | ⟨-, hl'⟩
      · nomatch hx'
      · exact hr.wellFormed.parent b b' l l' x hl hl' hx hx'
  · obtain ⟨rank, hrank⟩ := hr.wellFormed.acyclic
    refine ⟨rank, fun b l hl x hx => ?_⟩
    rcases hold hl with ⟨-, rfl⟩ | ⟨-, hl⟩
    · nomatch hx
    · exact hrank b l hl x hx
  · by_cases hba : b = a
    · rw [hba, Function.update_self]
      exact Function.update_self ..
    · rw [Function.update_of_ne hba, ← hr.live]
      exact Function.update_of_ne hba _ _
  · rcases hold hl with ⟨rfl, rfl⟩ | ⟨hba, hl⟩
    · exact Function.update_self ..
    · exact (Function.update_of_ne hba _ _).trans (hr.child b l hl)
  · rcases hold hl with ⟨rfl, rfl⟩ | ⟨hba, hl⟩
    · trivial
    · exact (hr.row b l hl).frame fun x hx =>
        have hxa : x ≠ a := fun hxa => hfresh hl (hxa ▸ hx)
        ⟨Function.update_of_ne hxa _ _, Function.update_of_ne hxa _ _⟩
  · by_cases hba : b = a
    · subst hba
      exact ⟨Function.update_self .., Function.update_self ..⟩
    · have hroot : f.Root b := by
        refine ⟨by rw [← Function.update_of_ne hba (some []) f]; exact hb.1, fun x l hl => ?_⟩
        refine hb.2 x l ?_
        rw [Function.update_of_ne fun hxa : x = a => ?_, hl]
        rw [hxa, ha] at hl
        nomatch hl
      obtain ⟨hnext, hprev⟩ := hr.root b hroot
      exact ⟨(Function.update_of_ne hba _ _).trans hnext, (Function.update_of_ne hba _ _).trans hprev⟩

end Represents

/-! ### Runs -/

inductive Edit (α : Type*) where
  | create (item : α)
  | add (array item : α)
  | detach (array : α) (which : Int)
  | replace (array : α) (which : Int) (newitem : α)
  | deleteFrom (array : α) (which : Int)
  | delete (item : α)

namespace Edit

/-- The edit in memory. -/
def run (fuel : Nat) (h : Memory α) : Edit α → Option (Memory α)
  | create item => some (h.newItem item)
  | add array item => AddItemToArray fuel h array item
  | detach array which => (DetachItemFromArray h array which).map Prod.fst
  | replace array which newitem => ReplaceItemInArray fuel h array which newitem
  | deleteFrom array which => DeleteItemFromArray fuel h array which
  | delete item => Delete fuel h (some item)

/-- The edit of the lists. -/
noncomputable def step (f : Forest α) : Edit α → Forest α
  | create item => Function.update f item (some [])
  | add array item => Function.update f array ((f array).map (· ++ [item]))
  | detach array which => Function.update f array ((f array).map (·.eraseIdx which.toNat))
  | replace array which newitem =>
    match (f array).bind (·[which.toNat]?) with
    | some c => Forest.remove (Function.update f array ((f array).map (·.set which.toNat newitem))) c
    | none => f
  | deleteFrom array which =>
    match (f array).bind (·[which.toNat]?) with
    | some c => Forest.remove (Function.update f array ((f array).map (·.eraseIdx which.toNat))) c
    | none => f
  | delete item => f.remove item

/-- Only an item on its own is added, used in place of another or deleted, and not below itself. -/
def Allowed (f : Forest α) : Edit α → Prop
  | create item => f item = none
  | add array item => (f array).isSome ∧ f.Root item ∧ ¬ f.Below item array
  | detach array _ => (f array).isSome
  | replace array _ newitem => (f array).isSome ∧ f.Root newitem ∧ ¬ f.Below newitem array
  | deleteFrom array _ => (f array).isSome
  | delete item => f.Root item

theorem run_step (hr : Represents h f) {e : Edit α} (hallowed : e.Allowed f) :
    ∃ N h', (∀ fuel ≥ N, e.run fuel h = some h') ∧ Represents h' (e.step f) := by
  cases e with
  | create item => exact ⟨0, _, fun _ _ => rfl, hr.create hallowed⟩
  | add array item =>
    obtain ⟨harray, hitem, hbelow⟩ := hallowed
    obtain ⟨l, hl⟩ := Option.isSome_iff_exists.1 harray
    obtain ⟨h', hadd, hr'⟩ := hr.add hl hitem hbelow
    refine ⟨l.length + 1, h', hadd, ?_⟩
    rw [step, hl, Option.map_some]
    exact hr'
  | detach array which =>
    obtain ⟨l, hl⟩ := Option.isSome_iff_exists.1 hallowed
    obtain ⟨h', hdetach, hr', -⟩ := hr.detach hl which
    refine ⟨0, h', fun fuel _ => by rw [run, hdetach, Option.map_some], ?_⟩
    rw [step, hl, Option.map_some]
    exact hr'
  | replace array which newitem =>
    obtain ⟨harray, hnew, hbelow⟩ := hallowed
    obtain ⟨l, hl⟩ := Option.isSome_iff_exists.1 harray
    cases hc : l[which.toNat]? with
    | none =>
      have hwalk := hr.walk_around hl which.toNat
      rw [hc] at hwalk
      refine ⟨0, h, fun fuel _ => ?_, ?_⟩
      · simp only [run, ReplaceItemInArray, Option.bind_eq_bind, ← Option.bind_assoc, hwalk, Option.bind_some]
        rfl
      · rw [step, hl, Option.bind_some, hc]
        exact hr
    | some c =>
      obtain ⟨l₁, l₂, rfl, hlen⟩ := exists_split hc
      obtain ⟨h', hreplace, hr', hroot⟩ := hr.replace hl hlen hnew hbelow
      obtain ⟨N, h'', hdelete, hr''⟩ := hr'.delete hroot
      refine ⟨N, h'', fun fuel hfuel => by rw [run, hreplace, hdelete fuel hfuel], ?_⟩
      have hset : (l₁ ++ c :: l₂).set which.toNat newitem = l₁ ++ newitem :: l₂ := by
        rw [hlen, List.set_append_right _ _ (Nat.le_refl _), Nat.sub_self, List.set_cons_zero]
      rw [step, hl, Option.bind_some, hc, Option.map_some, hset]
      exact hr''
  | deleteFrom array which =>
    obtain ⟨l, hl⟩ := Option.isSome_iff_exists.1 hallowed
    obtain ⟨h', hdetach, hr', hroot⟩ := hr.detach hl which
    rw [step, hl, Option.bind_some]
    cases hc : l[which.toNat]? with
    | none =>
      rw [hc] at hdetach
      have hlen := List.getElem?_eq_none_iff.1 hc
      rw [List.eraseIdx_of_length_le hlen, ← hl, Function.update_eq_self] at hr'
      refine ⟨1, h', fun fuel hfuel => ?_, hr'⟩
      obtain ⟨fuel, rfl⟩ := Nat.exists_eq_succ_of_ne_zero (Nat.one_le_iff_ne_zero.1 hfuel)
      rw [run, DeleteItemFromArray, hdetach]
      rfl
    | some c =>
      rw [hc] at hdetach
      obtain ⟨N, h'', hdelete, hr''⟩ := hr'.delete (hroot c hc)
      refine ⟨N, h'', fun fuel hfuel => ?_, hr''⟩
      rw [run, DeleteItemFromArray, hdetach]
      exact hdelete fuel hfuel
  | delete item =>
    obtain ⟨N, h', hdelete, hr'⟩ := hr.delete hallowed
    exact ⟨N, h', hdelete, hr'⟩

/-- Every edit is allowed where it is made. -/
def AllAllowed : Forest α → List (Edit α) → Prop
  | _, [] => True
  | f, e :: edits => e.Allowed f ∧ AllAllowed (e.step f) edits

theorem run_steps (hr : Represents h f) {edits : List (Edit α)} (hallowed : AllAllowed f edits) :
    ∃ N h', (∀ fuel ≥ N, edits.foldlM (run fuel) h = some h') ∧ Represents h' (edits.foldl step f) := by
  induction edits generalizing h f with
  | nil => exact ⟨0, h, fun _ _ => rfl, hr⟩
  | cons e edits ih =>
    obtain ⟨he, hedits⟩ := hallowed
    obtain ⟨N, h', hrun, hr'⟩ := run_step hr he
    obtain ⟨N', h'', hrun', hr''⟩ := ih hr' hedits
    refine ⟨max N N', h'', fun fuel hfuel => ?_, hr''⟩
    rw [List.foldlM_cons, hrun fuel (by omega)]
    exact hrun' fuel (by omega)

end Edit

/-- Whatever edits are made, if each is allowed where it is made: no item is used after it was freed and none is freed twice, the
items that are left allocated are those of the lists, and the size, the items and what is detached are what the lists say. -/
theorem chains_refine (edits : List (Edit α)) (hallowed : Edit.AllAllowed (fun _ => none) edits) :
    ∃ N h, (∀ fuel ≥ N, edits.foldlM (Edit.run fuel) Memory.empty = some h) ∧
      (∀ a, h.live a = (edits.foldl Edit.step (fun _ => none) a).isSome) ∧
      ∀ array l, edits.foldl Edit.step (fun _ => none) array = some l →
        (∀ fuel > l.length, GetArraySize fuel h array = some l.length) ∧
        ∀ i : Int, GetArrayItem h array i = some l[i.toNat]? ∧
          (DetachItemFromArray h array i).map Prod.snd = some l[i.toNat]? := by
  obtain ⟨N, h, hrun, hr⟩ := Edit.run_steps represents_empty hallowed
  refine ⟨N, h, hrun, hr.live, fun array l hl => ⟨fun fuel hfuel => ?_, fun i => ⟨hr.walk_around hl i.toNat, ?_⟩⟩⟩
  · have hlive : h.live array = true := by rw [hr.live, hl]; rfl
    rw [GetArraySize, read_of_live hlive, hr.child _ _ hl, Option.bind_some]
    exact count_row (hr.row _ _ hl) (hr.lives hl) hfuel
  · obtain ⟨h', hdetach, -⟩ := hr.detach hl i
    rw [hdetach, Option.map_some]

omit [DecidableEq α] in
theorem not_below_of_empty (hitem : f item = some []) (hne : item ≠ array) : ¬ f.Below item array := by
  rw [below_iff hitem]
  simpa using Ne.symm hne

/-- An array of which the first of two items is detached. -/
def shortened : List (Edit Nat) := [.create 0, .create 1, .create 2, .add 0 1, .add 0 2, .detach 0 0]

theorem chains_refine_shortened :
    ∃ N h, (∀ fuel ≥ N, shortened.foldlM (Edit.run fuel) Memory.empty = some h) ∧ h.live 1 = true ∧
      GetArrayItem h 0 0 = some (some 2) := by
  have hallowed : Edit.AllAllowed (fun _ => none) shortened := by
    refine ⟨rfl, rfl, rfl, ⟨rfl, ⟨rfl, ?_⟩, not_below_of_empty rfl (by decide)⟩,
      ⟨rfl, ⟨rfl, ?_⟩, not_below_of_empty rfl (by decide)⟩, rfl, trivial⟩
    all_goals
      intro a l hl
      simp only [Edit.step, Function.update_apply] at hl
      split_ifs at hl <;> grind
  obtain ⟨N, h, hrun, hlive, hlists⟩ := chains_refine shortened hallowed
  have hzero : shortened.foldl Edit.step (fun _ => none) 0 = some [2] := rfl
  exact ⟨N, h, hrun, hlive 1, ((hlists 0 [2] hzero).2 0).1⟩

end V2xHub.CJsonItems
