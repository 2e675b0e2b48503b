import Mathlib.Data.List.Basic
import Mathlib.Data.List.Pairwise

/-!
# The pieces of a text between separators

`cuts` walks over a text and notes the range before each separator and the one behind the last, which is left out when it
is empty. The ranges that are not empty are the maximal pieces without a separator (`mem_cuts`), in order
(`pairwise_cuts`). The ranges joined with the separators are the text, up to a separator at its end (`join_cuts`).
-/

namespace Pieces

variable {α : Type*} (p : α → Bool)

def slice (text : List α) (r : Nat × Nat) : List α := (text.drop r.1).take (r.2 - r.1)

/-- From `start` the text has no separator up to `i`, behind which the list stands. -/
def cuts (start i : Nat) : List α → List (Nat × Nat)
  | [] => if i ≠ start then [(start, i)] else []
  | c :: w => if p c then (start, i) :: cuts (i + 1) (i + 1) w else cuts start (i + 1) w

/-- The range is a maximal one that is not empty and has no separator. -/
structure Piece (text : List α) (r : Nat × Nat) : Prop where
  nonempty : r.1 < r.2
  within : r.2 ≤ text.length
  free : ∀ k, r.1 ≤ k → k < r.2 → ∀ c, text[k]? = some c → p c = false
  left : r.1 = 0 ∨ ∃ c, text[r.1 - 1]? = some c ∧ p c
  right : r.2 = text.length ∨ ∃ c, text[r.2]? = some c ∧ p c

/-- The texts of all the maximal pieces, in order. -/
def Are (text : List α) (ts : List (List α)) : Prop :=
  ∃ ranges : List (Nat × Nat),
    ranges.Pairwise (fun r r' => r.2 < r'.1) ∧ (∀ r, r ∈ ranges ↔ Piece p text r) ∧ ts = ranges.map (slice text)

/-- The separators stand between the texts. -/
def join : List (List α) → List α → List α
  | [], _ => []
  | [t], _ => t
  | t :: t' :: ts, [] => t ++ join (t' :: ts) []
  | t :: t' :: ts, s :: seps => t ++ s :: join (t' :: ts) seps

variable {p} {text w : List α} {start i : Nat} {r : Nat × Nat}

@[simp] theorem slice_self (text : List α) (i : Nat) : slice text (i, i) = [] := by simp [slice]

theorem slice_snoc {c : α} (hle : start ≤ i) (hc : text[i]? = some c) :
    slice text (start, i + 1) = slice text (start, i) ++ [c] := by
  have hlen : i + 1 - start = i - start + 1 := by omega
  rw [slice, slice, hlen, List.take_add_one, List.getElem?_drop, Nat.add_sub_cancel' hle, hc]
  rfl

theorem slice_eq_nil (hr : r.2 ≤ text.length) : slice text r = [] ↔ ¬ r.1 < r.2 := by
  rw [slice, List.take_eq_nil_iff, List.drop_eq_nil_iff]
  omega

/-! ### The ranges -/

theorem le_of_mem_cuts (hle : start ≤ i) (hr : r ∈ cuts p start i w) :
    start ≤ r.1 ∧ r.1 ≤ r.2 ∧ r.2 ≤ i + w.length := by
  induction w generalizing start i with
  | nil =>
    rw [cuts] at hr
    split_ifs at hr with h
    · rw [List.mem_singleton] at hr
      subst hr
      exact ⟨Nat.le_refl _, hle, Nat.le_add_right i _⟩
    · exact absurd hr List.not_mem_nil
  | cons c w ih =>
    rw [cuts] at hr
    rw [List.length_cons]
    split_ifs at hr with hc
    · rcases List.mem_cons.mp hr with rfl | hr
      · exact ⟨Nat.le_refl _, hle, Nat.le_add_right i _⟩
      · have := ih (Nat.le_refl _) hr
        omega
    · have := ih (Nat.le_succ_of_le hle) hr
      omega

theorem pairwise_cuts (hle : start ≤ i) : (cuts p start i w).Pairwise fun r r' => r.2 < r'.1 := by
  induction w generalizing start i with
  | nil =>
    rw [cuts]
    split_ifs <;> simp
  | cons c w ih =>
    rw [cuts]
    split_ifs
    · refine List.pairwise_cons.mpr ⟨fun r hr => ?_, ih (Nat.le_refl _)⟩
      exact (le_of_mem_cuts (Nat.le_refl _) hr).1
    · exact ih (Nat.le_succ_of_le hle)

/-- Behind `i` the text goes on with `w`, and from `start` to `i` nothing is a separator. -/
structure At (text : List α) (start i : Nat) (w : List α) : Prop where
  rest : text.drop i = w
  within : i ≤ text.length
  le : start ≤ i
  free : ∀ k, start ≤ k → k < i → ∀ c, text[k]? = some c → p c = false
  left : start = 0 ∨ ∃ c, text[start - 1]? = some c ∧ p c

theorem At.init (text : List α) : At (p := p) text 0 0 text :=
  ⟨rfl, Nat.zero_le _, Nat.le_refl _, fun k _ hk => absurd hk (Nat.not_lt_zero k), .inl rfl⟩

theorem At.head {c : α} (h : At (p := p) text start i (c :: w)) : text[i]? = some c := by
  have hhead := congrArg List.head? h.rest
  rwa [List.head?_drop, List.head?_cons] at hhead

theorem At.rest_succ {c : α} (h : At (p := p) text start i (c :: w)) : text.drop (i + 1) = w := by
  rw [← List.tail_drop, h.rest, List.tail_cons]

theorem At.lt {c : α} (h : At (p := p) text start i (c :: w)) : i < text.length :=
  (List.getElem?_eq_some_iff.mp h.head).1

theorem At.cut {c : α} (h : At (p := p) text start i (c :: w)) (hc : p c = true) : At (p := p) text (i + 1) (i + 1) w where
  rest := h.rest_succ
  within := h.lt
  le := Nat.le_refl _
  free k hk hki := absurd hki (Nat.not_lt.mpr hk)
  left := .inr ⟨c, by rw [Nat.add_sub_cancel]; exact h.head, hc⟩

theorem At.next {c : α} (h : At (p := p) text start i (c :: w)) (hc : p c = false) : At (p := p) text start (i + 1) w where
  rest := h.rest_succ
  within := h.lt
  le := Nat.le_succ_of_le h.le
  free k hk hki d hd := by
    rcases Nat.lt_succ_iff_lt_or_eq.mp hki with hlt | rfl
    · exact h.free k hk hlt d hd
    · rw [h.head, Option.some.injEq] at hd
      rwa [← hd]
  left := h.left

/-- The first piece behind `start` reaches to `i` at least, and further when no separator stands there. -/
theorem At.fst_of_piece (h : At (p := p) text start i w) (hr : Piece p text r) (hstart : start ≤ r.1) :
    r.1 = start ∨ i < r.1 := by
  by_contra hne
  push Not at hne
  rcases hr.left with h0 | ⟨c, hat, hc⟩
  · omega
  · rw [h.free (r.1 - 1) (by omega) (by omega) c hat] at hc
    exact Bool.false_ne_true hc

theorem At.piece (h : At (p := p) text start i w) (hend : i = text.length ∨ ∃ c, text[i]? = some c ∧ p c) (hlt : start < i) :
    Piece p text (start, i) := ⟨hlt, h.within, h.free, h.left, hend⟩

/-- The piece at `start` ends where the text or a separator does. -/
theorem At.snd_of_piece (h : At (p := p) text start i w) (hend : i = text.length ∨ ∃ c, text[i]? = some c ∧ p c)
    (hr : Piece p text r) (hfst : r.1 = start) : r.2 = i := by
  have hle := h.le
  by_contra hsnd
  rcases Nat.lt_or_gt_of_ne hsnd with hshort | hlong
  · have hlt := hr.nonempty
    rcases hr.right with hlast | ⟨d, hat, hd⟩
    · have hwithin := h.within
      omega
    · rw [h.free r.2 (by omega) hshort d hat] at hd
      exact Bool.false_ne_true hd
  · rcases hend with hlast | ⟨c, hat, hc⟩
    · have hwithin := hr.within
      omega
    · rw [hr.free i (by omega) hlong c hat] at hc
      exact Bool.false_ne_true hc

theorem mem_cuts (h : At (p := p) text start i w) :
    r ∈ cuts p start i w ∧ r.1 < r.2 ↔ Piece p text r ∧ start ≤ r.1 := by
  induction w generalizing start i with
  | nil =>
    have hi : i = text.length := by
      have := List.drop_eq_nil_iff.mp h.rest
      have := h.within
      omega
    rw [cuts]
    constructor
    · rintro ⟨hr, hlt⟩
      split_ifs at hr with hne
      · rw [List.mem_singleton] at hr
        subst hr
        exact ⟨h.piece (.inl hi) hlt, Nat.le_refl _⟩
      · exact absurd hr List.not_mem_nil
    · rintro ⟨hr, hstart⟩
      have hlt := hr.nonempty
      have hwithin := hr.within
      have hfst : r.1 = start := by
        rcases h.fst_of_piece hr hstart with hfst | hfst <;> omega
      have hsnd := h.snd_of_piece (.inl hi) hr hfst
      rw [if_pos (by omega), List.mem_singleton]
      exact ⟨Prod.ext hfst hsnd, hlt⟩
  | cons c w ih =>
    rw [cuts]
    split_ifs with hc
    · have hend : i = text.length ∨ ∃ c, text[i]? = some c ∧ p c := .inr ⟨c, h.head, hc⟩
      rw [List.mem_cons, or_and_right, ih (h.cut hc)]
      constructor
      · rintro (⟨rfl, hlt⟩ | ⟨hr, hstart⟩)
        · exact ⟨h.piece hend hlt, Nat.le_refl _⟩
        · exact ⟨hr, by have := h.le; omega⟩
      · rintro ⟨hr, hstart⟩
        rcases h.fst_of_piece hr hstart with hfst | hfst
        · exact .inl ⟨Prod.ext hfst (h.snd_of_piece hend hr hfst), hr.nonempty⟩
        · exact .inr ⟨hr, hfst⟩
    · rw [Bool.not_eq_true] at hc
      rw [ih (h.next hc)]

/-- The ranges that are not empty give the pieces. -/
theorem are_filter_cuts (text : List α) :
    Are p text (((cuts p 0 0 text).map (slice text)).filter fun t => !t.isEmpty) := by
  refine ⟨(cuts p 0 0 text).filter fun r => r.1 < r.2, ?_, fun r => ?_, ?_⟩
  · exact List.Pairwise.filter _ (pairwise_cuts (Nat.le_refl _))
  · rw [List.mem_filter, decide_eq_true_eq, mem_cuts (At.init text), and_iff_left (Nat.zero_le _)]
  · rw [List.filter_map]
    refine congrArg _ (List.filter_congr fun r hr => ?_)
    have hwithin : r.2 ≤ text.length := by
      have := (le_of_mem_cuts (Nat.le_refl _) hr).2.2
      omega
    have hnil := slice_eq_nil hwithin
    rw [Function.comp_apply, Bool.eq_iff_iff, Bool.not_eq_true', List.isEmpty_eq_false_iff, ne_eq, hnil, not_not,
      decide_eq_true_eq]

theorem Are.ne_nil {ts : List (List α)} (h : Are p text ts) : [] ∉ ts := by
  obtain ⟨ranges, -, hmem, rfl⟩ := h
  intro hnil
  obtain ⟨r, hr, hslice⟩ := List.mem_map.mp hnil
  have hpiece := (hmem r).mp hr
  exact (slice_eq_nil hpiece.within).mp hslice hpiece.nonempty

/-! ### The ranges and the separators -/

theorem slice_head_ne_nil (hlt : start < i) (hlen : i + w.length ≤ text.length) :
    ∃ r rest, cuts p start i w = r :: rest ∧ slice text r ≠ [] := by
  induction w generalizing i with
  | nil =>
    refine ⟨(start, i), [], by rw [cuts, if_pos (by omega)], ?_⟩
    rw [ne_eq, slice_eq_nil hlen, not_not]
    exact hlt
  | cons c w ih =>
    rw [List.length_cons] at hlen
    rw [cuts]
    split_ifs
    · refine ⟨(start, i), _, rfl, ?_⟩
      rw [ne_eq, slice_eq_nil (show i ≤ text.length by omega), not_not]
      exact hlt
    · exact ih (Nat.lt_succ_of_lt hlt) (by omega)

theorem cuts_eq_nil : cuts p i i w = [] ↔ w = [] := by
  cases w with
  | nil => simp [cuts]
  | cons c w =>
    rw [cuts]
    refine iff_of_false ?_ (List.cons_ne_nil c w)
    split_ifs
    · exact not_false
    · -- the text is of no account
      have htext : i + 1 + w.length ≤ (List.replicate (i + 1 + w.length) c).length :=
        Nat.le_of_eq List.length_replicate.symm
      obtain ⟨r, rest, hcuts, -⟩ := slice_head_ne_nil (p := p) (Nat.lt_succ_self i) htext
      rw [hcuts]
      exact List.cons_ne_nil r rest

/-- The text without a separator at its end. -/
def trimmed (p : α → Bool) (w : List α) : List α := if w.getLast?.any p then w.dropLast else w

theorem trimmed_cons {c : α} (hw : w ≠ []) : trimmed p (c :: w) = c :: trimmed p w := by
  obtain ⟨d, w, rfl⟩ := List.exists_cons_of_ne_nil hw
  rw [trimmed, trimmed, List.getLast?_cons_cons, List.dropLast_cons_cons]
  split_ifs <;> rfl

theorem trimmed_singleton {c : α} (hc : p c = true) : trimmed p [c] = [] := by simp [trimmed, hc]

theorem trimmed_eq_self : trimmed p w = w ↔ ¬ w.getLast?.any p := by
  rw [trimmed]
  split_ifs with h
  · refine iff_of_false (fun heq => ?_) (not_not.mpr h)
    have hlen := congrArg List.length heq
    rw [List.length_dropLast] at hlen
    have : w = [] := List.length_eq_zero_iff.mp (by omega)
    simp [this] at h
  · exact iff_of_true rfl h

theorem join_cons {t : List α} {ts : List (List α)} {s : α} {seps : List α} (hts : ts ≠ []) :
    join (t :: ts) (s :: seps) = t ++ s :: join ts seps := by
  obtain ⟨t', ts, rfl⟩ := List.exists_cons_of_ne_nil hts
  rfl

theorem join_cuts_at (h : At (p := p) text start i w) :
    join ((cuts p start i w).map (slice text)) (w.filter p) = slice text (start, i) ++ trimmed p w := by
  induction w generalizing start i with
  | nil =>
    rw [cuts]
    split_ifs with hne
    · exact (List.append_nil _).symm
    · push Not at hne
      rw [hne, slice_self]
      rfl
  | cons c w ih =>
    rw [cuts]
    split_ifs with hc
    · rw [List.filter_cons_of_pos hc, List.map_cons]
      rcases eq_or_ne w [] with rfl | hw
      · rw [cuts_eq_nil.mpr rfl, trimmed_singleton hc, List.append_nil]
        rfl
      · have hts : (cuts p (i + 1) (i + 1) w).map (slice text) ≠ [] := by
          rw [ne_eq, List.map_eq_nil_iff, cuts_eq_nil]
          exact hw
        rw [join_cons hts, ih (h.cut hc), slice_self, List.nil_append, trimmed_cons hw]
    · rw [Bool.not_eq_true] at hc
      rw [List.filter_cons_of_neg (by simp [hc]), ih (h.next hc), slice_snoc h.le h.head, List.append_assoc]
      rcases eq_or_ne w [] with rfl | hw
      · simp [trimmed, hc]
      · rw [trimmed_cons hw, List.singleton_append]

theorem join_cuts (text : List α) :
    join ((cuts p 0 0 text).map (slice text)) (text.filter p) = text ↔ ¬ text.getLast?.any p := by
  rw [join_cuts_at (At.init text), slice_self, List.nil_append]
  exact trimmed_eq_self

end Pieces
