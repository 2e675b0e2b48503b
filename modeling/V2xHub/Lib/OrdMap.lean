import Mathlib.Data.List.Sort

/-!
# Ordered maps

A map as the list of its entries, sorted by key: what `std::map` is to its users. Iteration goes over
`entries`. Two maps with the same lookups are equal (`OrdMap.ext_find?`), so whatever is computed from
a map depends on its lookups only, never on the order of the insertions.
-/

/-- A map whose entries are listed by increasing key. -/
structure OrdMap (κ ν : Type*) [LinearOrder κ] where
  entries : List (κ × ν)
  sorted : entries.Pairwise fun a b => a.1 < b.1

namespace OrdMap
variable {κ ν : Type*} [LinearOrder κ] {m m' : OrdMap κ ν} {k k' : κ} {v v' : ν}

def empty : OrdMap κ ν := ⟨[], List.Pairwise.nil⟩

def insertEntries (k : κ) (v : ν) : List (κ × ν) → List (κ × ν)
  | [] => [(k, v)]
  | e :: es => if k < e.1 then (k, v) :: e :: es else if k = e.1 then (k, v) :: es else e :: insertEntries k v es

theorem mem_insertEntries {es : List (κ × ν)} {e : κ × ν} (h : e ∈ insertEntries k v es) :
    e = (k, v) ∨ e ∈ es := by
  induction es with
  | nil => exact Or.inl (List.mem_singleton.1 h)
  | cons d es ih =>
    rw [insertEntries] at h
    split_ifs at h with h1 h2
    · rcases List.mem_cons.1 h with rfl | h
      · exact Or.inl rfl
      · exact Or.inr h
    · rcases List.mem_cons.1 h with rfl | h
      · exact Or.inl rfl
      · exact Or.inr (List.mem_cons_of_mem _ h)
    · rcases List.mem_cons.1 h with rfl | h
      · exact Or.inr (List.mem_cons_self ..)
      · exact (ih h).imp_right (List.mem_cons_of_mem _)

theorem sorted_insertEntries {es : List (κ × ν)} (h : es.Pairwise fun a b => a.1 < b.1) :
    (insertEntries k v es).Pairwise fun a b => a.1 < b.1 := by
  induction es with
  | nil => exact List.pairwise_singleton _ _
  | cons d es ih =>
    obtain ⟨hd, hes⟩ := List.pairwise_cons.1 h
    rw [insertEntries]
    split_ifs with h1 h2
    · refine List.pairwise_cons.2 ⟨fun e he => ?_, h⟩
      rcases List.mem_cons.1 he with rfl | he
      · exact h1
      · exact h1.trans (hd e he)
    · subst h2
      exact List.pairwise_cons.2 ⟨hd, hes⟩
    · refine List.pairwise_cons.2 ⟨fun e he => ?_, ih hes⟩
      rcases mem_insertEntries he with rfl | he
      · exact lt_of_le_of_ne (not_lt.1 h1) (Ne.symm h2)
      · exact hd e he

/-- `m[k] = v`. -/
def insert (m : OrdMap κ ν) (k : κ) (v : ν) : OrdMap κ ν :=
  ⟨insertEntries k v m.entries, sorted_insertEntries m.sorted⟩

def erase (m : OrdMap κ ν) (k : κ) : OrdMap κ ν :=
  ⟨m.entries.filter fun e => e.1 ≠ k, m.sorted.filter _⟩

def find? (m : OrdMap κ ν) (k : κ) : Option ν := (m.entries.find? fun e => e.1 = k).map Prod.snd

theorem mem_entries : (k, v) ∈ m.entries ↔ m.find? k = some v := by
  obtain ⟨es, hs⟩ := m
  simp only [find?]
  induction es with
  | nil => simp
  | cons e es ih =>
    obtain ⟨he, hes⟩ := List.pairwise_cons.1 hs
    by_cases hk : e.1 = k
    · have hnot : (k, v) ∉ es := fun h => (he _ h).ne hk
      obtain ⟨k', v'⟩ := e
      obtain rfl : k' = k := hk
      simp [hnot, eq_comm]
    · have hne : (k, v) ≠ e := fun h => hk (by rw [← h])
      simp [hk, hne, ih hes]

theorem nodup_keys (m : OrdMap κ ν) : (m.entries.map Prod.fst).Nodup :=
  List.pairwise_map.2 (m.sorted.imp fun h => h.ne)

@[simp] theorem find?_empty : (empty : OrdMap κ ν).find? k = none := rfl

@[simp] theorem find?_insert_self : (m.insert k v).find? k = some v := by
  obtain ⟨es, hs⟩ := m
  simp only [find?, insert]
  clear hs
  induction es with
  | nil => simp [insertEntries]
  | cons e es ih =>
    rw [insertEntries]
    split_ifs with h1 h2
    · simp
    · simp
    · rw [List.find?_cons_of_neg (by simpa using Ne.symm h2), ih]

theorem find?_insert_ne (h : k' ≠ k) : (m.insert k v).find? k' = m.find? k' := by
  obtain ⟨es, hs⟩ := m
  simp only [find?, insert]
  clear hs
  induction es with
  | nil => simp [insertEntries, h.symm]
  | cons e es ih =>
    rw [insertEntries]
    split_ifs with h1 h2
    · rw [List.find?_cons_of_neg (by simpa using h.symm)]
    · subst h2
      rw [List.find?_cons_of_neg (by simpa using h.symm), List.find?_cons_of_neg (by simpa using h.symm)]
    · by_cases he : e.1 = k'
      · rw [List.find?_cons_of_pos (by simpa using he), List.find?_cons_of_pos (by simpa using he)]
      · rw [List.find?_cons_of_neg (by simpa using he), List.find?_cons_of_neg (by simpa using he), ih]

theorem find?_insert : (m.insert k v).find? k' = if k' = k then some v else m.find? k' := by
  split_ifs with h
  · rw [h, find?_insert_self]
  · exact find?_insert_ne h

theorem find?_erase : (m.erase k).find? k' = if k' = k then none else m.find? k' := by
  split_ifs with h
  · subst h
    simp [find?, erase]
  · refine Option.ext fun v => ?_
    rw [← mem_entries, ← mem_entries]
    simp [erase, h]

theorem length_insert :
    (m.insert k v).entries.length = if m.find? k = none then m.entries.length + 1 else m.entries.length := by
  obtain ⟨es, hs⟩ := m
  simp only [find?, insert, Option.map_eq_none_iff]
  induction es with
  | nil => rfl
  | cons d es ih =>
    obtain ⟨hd, hes⟩ := List.pairwise_cons.1 hs
    rw [insertEntries]
    split_ifs with h1 h2 h3 h4
    · rfl
    · refine absurd (List.find?_eq_none.2 fun e he => ?_) h2
      have hlt : k < e.1 := (List.mem_cons.1 he).elim (fun heq => heq ▸ h1) fun he => h1.trans (hd e he)
      simpa using hlt.ne'
    · rw [h3, List.find?_cons_of_pos (by simp)] at h4
      exact absurd h4 (Option.some_ne_none d)
    · rfl
    all_goals
      rename_i hfind
      rw [List.find?_cons_of_neg (by simpa using Ne.symm h3)] at hfind
      rw [List.length_cons, ih hes, List.length_cons]
      simp [hfind]

theorem ext_find? (h : ∀ k, m.find? k = m'.find? k) : m = m' := by
  have hmem : ∀ e, e ∈ m.entries ↔ e ∈ m'.entries := fun ⟨k, v⟩ => by rw [mem_entries, mem_entries, h]
  have hnodup : ∀ m : OrdMap κ ν, m.entries.Nodup := fun m => List.Nodup.of_map _ m.nodup_keys
  have hperm : m.entries.Perm m'.entries := (List.perm_ext_iff_of_nodup (hnodup m) (hnodup m')).2 hmem
  have heq : m.entries = m'.entries :=
    hperm.eq_of_pairwise (fun a b _ _ hab hba => absurd hab hba.asymm) m.sorted m'.sorted
  cases m
  cases m'
  simpa using heq

/-! ### All entries at once -/

theorem insert_ne_empty : m.insert k v ≠ empty := by
  intro h
  have hfind : (m.insert k v).find? k = empty.find? k := by rw [h]
  rw [find?_insert_self, find?_empty] at hfind
  exact Option.some_ne_none v hfind

theorem eq_empty (h : m.entries = []) : m = empty := by
  obtain ⟨entries, hsorted⟩ := m
  obtain rfl : entries = [] := h
  rfl

def filter (m : OrdMap κ ν) (p : κ → ν → Bool) : OrdMap κ ν :=
  ⟨m.entries.filter fun e => p e.1 e.2, m.sorted.filter _⟩

def map {ν' : Type*} (m : OrdMap κ ν) (f : κ → ν → ν') : OrdMap κ ν' :=
  ⟨m.entries.map fun e => (e.1, f e.1 e.2), List.pairwise_map.2 m.sorted⟩

theorem find?_filter {p : κ → ν → Bool} : (m.filter p).find? k = (m.find? k).filter (p k) := by
  refine Option.ext fun v => ?_
  rw [← mem_entries, Option.filter_eq_some_iff, ← mem_entries]
  exact List.mem_filter

theorem find?_map {ν' : Type*} {f : κ → ν → ν'} : (m.map f).find? k = (m.find? k).map (f k) := by
  refine Option.ext fun v => ?_
  rw [← mem_entries, Option.map_eq_some_iff]
  simp only [map, List.mem_map, Prod.mk.injEq, Prod.exists, ← mem_entries]
  constructor
  · rintro ⟨k', v', hmem, rfl, rfl⟩
    exact ⟨v', hmem, rfl⟩
  · rintro ⟨v', hmem, rfl⟩
    exact ⟨k, v', hmem, rfl, rfl⟩

/-! ### Iterators

An iterator is the key that it points at; `none` is `end()`. -/

def begin (m : OrdMap κ ν) : Option κ := m.entries.head?.map Prod.fst

/-- `++` of the iterator at `k`. -/
def next (m : OrdMap κ ν) (k : κ) : Option κ := (m.entries.find? fun e => k < e.1).map Prod.fst

/-- What an iteration that has come to `it` has yet to visit. -/
def remaining (m : OrdMap κ ν) : Option κ → List (κ × ν)
  | some k => m.entries.filter fun e => k ≤ e.1
  | none => []

theorem find?_of_begin (h : m.begin = some k) : ∃ v, m.find? k = some v := by
  obtain ⟨e, he, rfl⟩ := Option.map_eq_some_iff.1 h
  exact ⟨e.2, mem_entries.1 (List.mem_of_mem_head? he)⟩

theorem find?_of_next (h : m.next k = some k') : ∃ v, m.find? k' = some v := by
  obtain ⟨e, he, rfl⟩ := Option.map_eq_some_iff.1 h
  exact ⟨e.2, mem_entries.1 (List.mem_of_find?_eq_some he)⟩

theorem remaining_begin : m.remaining m.begin = m.entries := by
  obtain ⟨es, hs⟩ := m
  cases es with
  | nil => rfl
  | cons e es =>
    refine List.filter_eq_self.2 fun d hd => ?_
    rcases List.mem_cons.1 hd with rfl | hd
    · simp
    · simpa using ((List.pairwise_cons.1 hs).1 d hd).le

theorem remaining_next (k : κ) : m.remaining (m.next k) = m.entries.filter fun e => k < e.1 := by
  have hsorted : (m.entries.filter fun e => k < e.1).Pairwise fun a b => a.1 < b.1 := m.sorted.filter _
  rw [next, ← List.head?_filter]
  cases hF : m.entries.filter fun e => k < e.1 with
  | nil => rfl
  | cons d ds =>
    rw [hF] at hsorted
    have hmem : d ∈ m.entries.filter fun e => k < e.1 := by simp [hF]
    have hd : k < d.1 := of_decide_eq_true (List.mem_filter.1 hmem).2
    have hle : ∀ e ∈ d :: ds, decide (d.1 ≤ e.1) = true := fun e he => by
      rcases List.mem_cons.1 he with rfl | he
      · simp
      · simpa using ((List.pairwise_cons.1 hsorted).1 e he).le
    calc m.entries.filter (fun e => d.1 ≤ e.1)
        = (m.entries.filter fun e => k < e.1).filter (fun e => d.1 ≤ e.1) := by
          rw [List.filter_filter]
          refine List.filter_congr fun e _ => ?_
          by_cases he : d.1 ≤ e.1
          · simp [he, hd.trans_le he]
          · simp [he]
      _ = d :: ds := by rw [hF, List.filter_eq_self.2 hle]

theorem remaining_some (h : m.find? k = some v) : m.remaining (some k) = (k, v) :: m.remaining (m.next k) := by
  obtain ⟨l₁, l₂, hl⟩ := List.append_of_mem (mem_entries.2 h)
  have hs := m.sorted
  rw [hl, List.pairwise_append, List.pairwise_cons] at hs
  have h₁ : ∀ e ∈ l₁, e.1 < k := fun e he => hs.2.2 e he _ (List.mem_cons_self ..)
  have h₂ : ∀ e ∈ l₂, k < e.1 := hs.2.1.1
  have e₁ : (l₁.filter fun e => k ≤ e.1) = [] := List.filter_eq_nil_iff.2 fun e he => by simpa using h₁ e he
  have e₂ : (l₁.filter fun e => k < e.1) = [] := List.filter_eq_nil_iff.2 fun e he => by simpa using (h₁ e he).le
  have e₃ : (l₂.filter fun e => k ≤ e.1) = l₂ := List.filter_eq_self.2 fun e he => by simpa using (h₂ e he).le
  have e₄ : (l₂.filter fun e => k < e.1) = l₂ := List.filter_eq_self.2 fun e he => by simpa using h₂ e he
  rw [remaining_next, remaining, hl]
  simp [e₁, e₂, e₃, e₄]

end OrdMap
