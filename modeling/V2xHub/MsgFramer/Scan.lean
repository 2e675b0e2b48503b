import V2xHub.MsgFramer.Basic

/-!
# What the framer is for

The framer as a function on byte lists. `scan n s` is the reference for a whole stream: skip to the
next STX (`0x02`); deliver the bytes up to the next ETX (`0x03`) if it is among the `n` bytes that
start at the STX, else drop those `n` bytes; go on with the rest. `Next n c r rest` is one call on the
unread bytes `c`: its result `r` and the bytes left. `Next.scan_append` says that a call on what has
arrived so far is a step of the scan, whatever arrives later.
-/

namespace V2xHub.MsgFramer

/-- The messages of a stream, at most `fuel` rounds. -/
def scanFuel (n : Nat) : Nat → List UInt8 → List (List UInt8)
  | 0, _ => []
  | fuel + 1, s =>
    match s.dropWhile (· ≠ 0x02) with
    | [] => []
    | x :: t =>
      if 0x03 ∈ (x :: t).take n then
        t.takeWhile (· ≠ 0x03) :: scanFuel n fuel (t.dropWhile (· ≠ 0x03)).tail
      else scanFuel n fuel ((x :: t).drop n)

/-- The reference scan. A round takes at least one byte, so `s.length` rounds are enough. -/
def scan (n : Nat) (s : List UInt8) : List (List UInt8) := scanFuel n s.length s

/-- The bytes that `msgFramer_createFramedMsg` makes of a message. -/
def frame (m : List UInt8) : List UInt8 := 0x02 :: m ++ [0x03]

theorem length_frame (m : List UInt8) : (frame m).length = m.length + 2 := by
  rw [frame, List.length_append, List.length_cons, List.length_singleton]

/-- One call on the unread bytes: the message found, if any, and the bytes left. -/
inductive Next (n : Nat) : List UInt8 → Option (List UInt8) → List UInt8 → Prop
  | noStart {c} : 0x02 ∉ c → Next n c none []
  | message {a m r} : 0x02 ∉ a → 0x03 ∉ m → Next n (a ++ 0x02 :: (m ++ 0x03 :: r)) (some m) r
  | full {a t} : 0x02 ∉ a → 0x03 ∉ t → t.length + 1 = n → Next n (a ++ 0x02 :: t) none []
  | wait {a t} : 0x02 ∉ a → 0x03 ∉ t → t.length + 1 < n → Next n (a ++ 0x02 :: t) none (0x02 :: t)

theorem Next.total {n : Nat} {c : List UInt8} (hc : c.length ≤ n) : ∃ r rest, Next n c r rest := by
  by_cases h2 : 0x02 ∈ c
  · obtain ⟨a, t, rfl, ha⟩ := List.eq_append_cons_of_mem h2
    by_cases h3 : 0x03 ∈ t
    · obtain ⟨m, r, rfl, hm⟩ := List.eq_append_cons_of_mem h3
      exact ⟨_, _, .message ha hm⟩
    · simp only [List.length_append, List.length_cons] at hc
      rcases Nat.lt_or_eq_of_le (show t.length + 1 ≤ n by omega) with h | h
      · exact ⟨_, _, .wait ha h3 h⟩
      · exact ⟨_, _, .full ha h3 h⟩
  · exact ⟨_, _, .noStart h2⟩

/-! ### The equations of the scan -/

section
variable {n : Nat} {a m r s t : List UInt8} {b : UInt8}

theorem ne_of_mem_of_not_mem (h : b ∉ a) : ∀ x ∈ a, decide (x ≠ b) = true := by
  intro x hx
  rw [decide_eq_true_eq]
  rintro rfl
  exact h hx

theorem dropWhile_ne_append (h : b ∉ a) : (a ++ s).dropWhile (· ≠ b) = s.dropWhile (· ≠ b) :=
  List.dropWhile_append_of_pos (ne_of_mem_of_not_mem h)

theorem takeWhile_ne_append (h : b ∉ a) : (a ++ b :: s).takeWhile (· ≠ b) = a := by
  rw [List.takeWhile_append_of_pos (ne_of_mem_of_not_mem h)]
  simp

theorem length_dropWhile_le (p : UInt8 → Bool) (s : List UInt8) :
    (s.dropWhile p).length ≤ s.length :=
  (List.dropWhile_suffix p).length_le

theorem scanFuel_succ (hn : 0 < n) {fuel : Nat} (h : s.length ≤ fuel) :
    scanFuel n (fuel + 1) s = scanFuel n fuel s := by
  induction fuel generalizing s with
  | zero =>
    obtain rfl := List.eq_nil_of_length_eq_zero (Nat.le_zero.1 h)
    rfl
  | succ fuel ih =>
    rw [scanFuel, scanFuel]
    have hd := length_dropWhile_le (· ≠ 0x02) s
    generalize s.dropWhile (· ≠ 0x02) = w at hd
    cases w with
    | nil => rfl
    | cons x t =>
      simp only [List.length_cons] at hd
      have hr := length_dropWhile_le (· ≠ 0x03) t
      simp only
      rw [ih (by rw [List.length_tail]; omega), ih (by rw [List.length_drop, List.length_cons]; omega)]

theorem scanFuel_eq (hn : 0 < n) {fuel : Nat} (h : s.length ≤ fuel) :
    scanFuel n fuel s = scan n s := by
  obtain ⟨k, rfl⟩ := Nat.exists_eq_add_of_le h
  induction k with
  | zero => rfl
  | succ k ih => rw [← Nat.add_assoc, scanFuel_succ hn (Nat.le_add_right _ _), ih (Nat.le_add_right _ _)]

theorem scan_eq (hn : 0 < n) (s : List UInt8) :
    scan n s = match s.dropWhile (· ≠ 0x02) with
      | [] => []
      | x :: t =>
        if 0x03 ∈ (x :: t).take n then
          t.takeWhile (· ≠ 0x03) :: scan n (t.dropWhile (· ≠ 0x03)).tail
        else scan n ((x :: t).drop n) := by
  rw [← scanFuel_eq hn (Nat.le_succ s.length), scanFuel]
  have hd := length_dropWhile_le (· ≠ 0x02) s
  generalize s.dropWhile (· ≠ 0x02) = w at hd
  cases w with
  | nil => rfl
  | cons x t =>
    simp only [List.length_cons] at hd
    have hr := length_dropWhile_le (· ≠ 0x03) t
    simp only
    rw [scanFuel_eq hn (by rw [List.length_tail]; omega),
      scanFuel_eq hn (by rw [List.length_drop, List.length_cons]; omega)]

/-- The scan at an STX. -/
theorem scan_cons (hn : 0 < n) (t : List UInt8) :
    scan n (0x02 :: t) =
      if 0x03 ∈ (0x02 :: t).take n then
        t.takeWhile (· ≠ 0x03) :: scan n (t.dropWhile (· ≠ 0x03)).tail
      else scan n ((0x02 :: t).drop n) := by
  rw [scan_eq hn]
  simp

theorem scan_skip (hn : 0 < n) (ha : 0x02 ∉ a) : scan n (a ++ s) = scan n s := by
  rw [scan_eq hn, dropWhile_ne_append ha, ← scan_eq hn]

theorem scan_noStart (hn : 0 < n) (ha : 0x02 ∉ a) : scan n a = [] := by
  have := scan_skip (s := []) hn ha
  rwa [List.append_nil] at this

theorem scan_message (hn : 0 < n) (hm : 0x03 ∉ m) (hlen : m.length + 2 ≤ n) :
    scan n (0x02 :: (m ++ 0x03 :: r)) = m :: scan n r := by
  have hmem : 0x03 ∈ (0x02 :: (m ++ 0x03 :: r)).take n := by
    rw [show 0x02 :: (m ++ 0x03 :: r) = (0x02 :: m ++ [0x03]) ++ r by simp, List.take_append,
      List.take_of_length_le (by simp only [List.length_append, List.length_cons, List.length_nil]; omega)]
    simp
  rw [scan_cons hn, if_pos hmem, takeWhile_ne_append hm, dropWhile_ne_append hm]
  simp

/-- No ETX among the `n` bytes from the STX on: they are dropped. -/
theorem scan_full (hn : 0 < n) (ht : 0x03 ∉ t) (hlen : t.length + 1 = n) :
    scan n (0x02 :: (t ++ s)) = scan n s := by
  have htake : (0x02 :: (t ++ s)).take n = 0x02 :: t := by
    rw [← List.cons_append, List.take_append_of_le_length (by simp [hlen]), List.take_of_length_le (by simp [hlen])]
  have hdrop : (0x02 :: (t ++ s)).drop n = s := by
    rw [← List.cons_append, List.drop_append_of_le_length (by simp [hlen]), List.drop_of_length_le (by simp [hlen]),
      List.nil_append]
  rw [scan_cons hn, htake, hdrop, if_neg (by simp [ht])]

theorem scan_wait (hn : 0 < n) (ht : 0x03 ∉ t) (hlen : t.length + 1 < n) : scan n (0x02 :: t) = [] := by
  have hle : (0x02 :: t).length ≤ n := by simp only [List.length_cons]; omega
  rw [scan_cons hn, List.take_of_length_le hle, List.drop_of_length_le hle, if_neg (by simp [ht])]
  rfl

/-- A call on what has arrived is a step of the scan, whatever arrives later. -/
theorem Next.scan_append {c rest : List UInt8} {res : Option (List UInt8)} (hn : 0 < n)
    (hc : c.length ≤ n) (h : Next n c res rest) (s : List UInt8) :
    scan n (c ++ s) = res.toList ++ scan n (rest ++ s) := by
  cases h with
  | noStart ha => simpa using scan_skip hn ha
  | message ha hm =>
    simp only [List.length_append, List.length_cons] at hc
    rw [List.append_assoc, scan_skip hn ha, List.cons_append, List.append_assoc, List.cons_append,
      scan_message hn hm (by omega)]
    rfl
  | full ha ht hlen =>
    rw [List.append_assoc, scan_skip hn ha, List.cons_append, scan_full hn ht hlen]
    rfl
  | wait ha ht hlen =>
    rw [List.append_assoc, scan_skip hn ha]
    rfl

/-- Framed messages that all fit are delivered as they are. -/
theorem scan_frames (hn : 0 < n) (ms : List (List UInt8))
    (hms : ∀ m ∈ ms, 0x03 ∉ m ∧ (frame m).length ≤ n) : scan n (ms.flatMap frame) = ms := by
  induction ms with
  | nil => rfl
  | cons m ms ih =>
    obtain ⟨h3, hlen⟩ := hms m (by simp)
    have hm : frame m ++ ms.flatMap frame = 0x02 :: (m ++ 0x03 :: ms.flatMap frame) := by
      simp [frame]
    rw [List.flatMap_cons, hm, scan_message hn h3 (length_frame m ▸ hlen),
      ih fun m hm => hms m (by simp [hm])]

end

end V2xHub.MsgFramer
