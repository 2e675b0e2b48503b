import V2xHub.Lib.Single
import V2xHub.PedestrianPlugin.FlirRead
import Mathlib.Data.List.TakeWhile

/-!
# What a FLIR camera's texts are turned into

The angle is turned into the frame of the camera in single precision and as a whole number, and brought into one turn only from
below. The zeros of an id come behind its digits. The zeros at the start of the milliseconds are erased before the text behind
them is cut off. The degrees lose their point and the last decimal.
-/

namespace V2xHub.PedestrianPlugin.Flir.Tracks

/-! ### What is sent -/

def IsDigits (s : Str) : Prop := s ≠ [] ∧ ∀ c ∈ s, Strtol.isdigit c = true

/-- The number of a text of digits. -/
def value (s : Str) : Nat := s.foldl (fun n c => 10 * n + (c.toNat - 48)) 0

/-- Behind the milliseconds. -/
inductive Offset where
  | utc
  | east (hours minutes : Str)
  | west (hours minutes : Str)

def Offset.text : Offset → Str
  | utc => [90]
  | east hours minutes => 43 :: hours ++ 58 :: minutes
  | west hours minutes => 45 :: hours ++ 58 :: minutes

structure Offset.Valid (o : Offset) : Prop where
  east : ∀ h m, o = .east h m → IsDigits h ∧ h.length = 2 ∧ IsDigits m
  west : ∀ h m, o = .west h m → IsDigits h ∧ h.length = 2 ∧ IsDigits m

/-- A time with milliseconds. -/
structure Time where
  year : Str
  month : Str
  day : Str
  hour : Str
  mins : Str
  sec : Str
  milliseconds : Str
  offset : Offset

def Time.text (t : Time) : Str :=
  t.year ++ 45 :: (t.month ++ 45 :: (t.day ++ 84 :: (t.hour ++ 58 :: (t.mins ++ 58 :: (t.sec ++ 46 :: (t.milliseconds ++
    t.offset.text))))))

structure Time.Valid (t : Time) : Prop where
  year : IsDigits t.year ∧ t.year.length = 4
  month : IsDigits t.month ∧ t.month.length = 2
  day : IsDigits t.day ∧ t.day.length = 2
  hour : IsDigits t.hour ∧ t.hour.length = 2
  mins : IsDigits t.mins ∧ t.mins.length = 2
  sec : IsDigits t.sec ∧ t.sec.length = 2
  milliseconds : IsDigits t.milliseconds ∧ t.milliseconds.length = 3
  offset : t.offset.Valid

/-- Degrees with decimals. -/
structure Degrees where
  negative : Bool
  whole : Str
  frac : Str

def Degrees.text (d : Degrees) : Str := (if d.negative then [45] else []) ++ d.whole ++ 46 :: d.frac

structure Degrees.Valid (d : Degrees) : Prop where
  whole : IsDigits d.whole
  frac : IsDigits d.frac ∧ d.frac.length = 8

/-- In tenths of microdegrees, truncated. -/
def Degrees.tenths (d : Degrees) : Int :=
  if d.negative then -(((value d.whole * 10 ^ 8 + value d.frac) / 10 : Nat) : Int)
  else ((value d.whole * 10 ^ 8 + value d.frac) / 10 : Nat)

/-! ### What is expected -/

section
variable (cameraRotation : ℚ)

/-- The heading, in units of 0.0125 degrees. -/
def HeadingRight (angle : Nat) (alpha : Int) : Prop :=
  (0 ≤ alpha ∧ alpha ≤ 28799) ∧ ∃ k : Int, (alpha : ℚ) = (cameraRotation - angle - 270) * 80 + 28800 * k

/-- Eight hexadecimal digits, which no other id has. -/
def IdRight (id : Nat) (idResult : Str) : Prop :=
  (idResult.length = 8 ∧ ∀ c ∈ idResult, Strtol.digitValue c < 16) ∧ ∀ id' < 2 ^ 31, id' ≠ id → octets id' ≠ idResult

def DegreesRight (d : Degrees) (s : Str) : Prop := Strtol.number s = some d.tenths

/-- The last number is printed as the `secMark` and as the second of the time in UTC. -/
def TimeRight (t : Time) (d : DateTime) : Prop := d.millisecondsTotal = value t.sec * 1000 + value t.milliseconds

/-! ### When it is so -/

/-- The angle in the frame of the camera, in single precision. -/
def inFrame (angle : Nat) : Int := int32 (.finite (Single.round (Single.round (cameraRotation - Single.round (angle : Int)) - 270)))

/-- It is in one turn, or below zero and no whole turn, and what rounding has changed are whole turns. -/
def Turned (angle : Nat) : Prop :=
  ((0 ≤ inFrame cameraRotation angle ∧ inFrame cameraRotation angle ≤ 359) ∨
    (inFrame cameraRotation angle < 0 ∧ ¬ 360 ∣ inFrame cameraRotation angle)) ∧
  ∃ k : Int, (inFrame cameraRotation angle : ℚ) = cameraRotation - angle - 270 + 360 * k

/-- No digits but zeros are missing behind it, and none are zeros. -/
def Unpadded (id : Nat) : Prop := id = 0 ∨ (2 ^ 27 ≤ id ∧ id % 16 ≠ 0)

/-- The milliseconds are not zero, or the offset begins with a minus or with no hours. -/
def Time.Readable (t : Time) : Prop :=
  value t.milliseconds ≠ 0 ∨ ∃ h m, t.offset = .west h m ∨ (t.offset = .east h m ∧ value h = 0)

end

variable {cameraRotation : ℚ} {s u : Str} {c d : UInt8} {t : Time} {n : Nat} {angle : Nat}

/-! ### Texts of digits -/

theorem isdigit_iff : Strtol.isdigit c = true ↔ 48 ≤ c.toNat ∧ c.toNat ≤ 57 := by
  rw [Strtol.isdigit, Bool.and_eq_true, decide_eq_true_eq, decide_eq_true_eq, UInt8.le_iff_toNat_le, UInt8.le_iff_toNat_le]
  rfl

theorem ne_of_isdigit (h : Strtol.isdigit c = true) (hd : Strtol.isdigit d = false) : c ≠ d := by
  rintro rfl
  rw [h] at hd
  cases hd

theorem isDigits_of_all (hne : s ≠ []) (h : s.all Strtol.isdigit = true) : IsDigits s := ⟨hne, List.all_eq_true.1 h⟩

theorem foldl_value (s : Str) (n : Nat) : s.foldl (fun n c => 10 * n + (c.toNat - 48)) n = n * 10 ^ s.length + value s := by
  induction s generalizing n with
  | nil => simp [value]
  | cons c s ih =>
    rw [value, List.foldl_cons, List.foldl_cons, ih, ih, List.length_cons, pow_succ]
    ring

theorem value_append (s s' : Str) : value (s ++ s') = value s * 10 ^ s'.length + value s' := by
  rw [value, List.foldl_append, ← value, foldl_value]

theorem value_lt (h : ∀ c ∈ s, Strtol.isdigit c = true) : value s < 10 ^ s.length := by
  induction s with
  | nil => simp [value]
  | cons c s ih =>
    obtain ⟨hc, hs⟩ := List.forall_mem_cons.1 h
    have := (isdigit_iff.1 hc).2
    have hone : value [c] = c.toNat - 48 := by simp [value]
    rw [← List.singleton_append, value_append, hone, List.length_append, List.length_singleton, pow_add, pow_one]
    have := ih hs
    have hle : (c.toNat - 48) * 10 ^ s.length ≤ 9 * 10 ^ s.length := Nat.mul_le_mul_right _ (by omega)
    omega

theorem digits_append (h : IsDigits s) (htail : ∀ c ∈ u.head?, Strtol.isdigit c = false) :
    Strtol.digits (s ++ u) = some (value s) := by
  have htake : (s ++ u).takeWhile Strtol.isdigit = s := by
    rw [List.takeWhile_append_of_pos h.2]
    rcases u with _ | ⟨d, u⟩
    · simp
    · rw [List.takeWhile_cons_of_neg (by simpa using htail d rfl), List.append_nil]
  rw [Strtol.digits, htake]
  obtain ⟨c, s, rfl⟩ := List.exists_cons_of_ne_nil h.1
  rfl

theorem number_digits (h : IsDigits s) (htail : ∀ c ∈ u.head?, Strtol.isdigit c = false) :
    Strtol.number (s ++ u) = some (value s : Int) := by
  have hdigits := digits_append h htail
  obtain ⟨hne, hall⟩ := h
  rcases s with _ | ⟨c, s⟩
  · exact absurd rfl hne
  · have hc := (isdigit_iff.1 (hall c List.mem_cons_self))
    have hspace : Strtol.isspace c = false := by
      rw [Strtol.isspace, Bool.or_eq_false_iff, decide_eq_false_iff_not, Bool.and_eq_false_iff, decide_eq_false_iff_not,
        decide_eq_false_iff_not, UInt8.le_iff_toNat_le, UInt8.le_iff_toNat_le, ← UInt8.toNat_inj]
      exact ⟨by show c.toNat ≠ 32; omega, .inr (by show ¬ c.toNat ≤ 13; omega)⟩
    have hsign : Strtol.sign (c :: s ++ u) = (false, c :: s ++ u) := by
      rw [List.cons_append, Strtol.sign]
      · rintro s' h
        obtain ⟨rfl, -⟩ := List.cons.inj h
        exact absurd hc.1 (by decide)
      · rintro s' h
        obtain ⟨rfl, -⟩ := List.cons.inj h
        exact absurd hc.1 (by decide)
    rw [Strtol.number, List.cons_append, List.dropWhile_cons_of_neg (by simp [hspace]), ← List.cons_append, hsign]
    dsimp only
    rw [hdigits]
    rfl

theorem stoi_digits (h : IsDigits s) (htail : ∀ c ∈ u.head?, Strtol.isdigit c = false) (hlt : value s < 2 ^ 31) :
    number (Strtol.stoi (s ++ u)) = .ok (value s : Int) := by
  rw [Strtol.stoi, Strtol.bounded, number_digits h htail]
  dsimp only
  rw [if_pos ⟨by omega, by omega⟩]
  rfl

/-- A plus in front of the digits is skipped. -/
theorem stoi_plus (h : IsDigits s) (htail : ∀ c ∈ u.head?, Strtol.isdigit c = false) (hlt : value s < 2 ^ 31) :
    number (Strtol.stoi (43 :: (s ++ u))) = .ok (value s : Int) := by
  have hnum : Strtol.number (43 :: (s ++ u)) = Strtol.number (s ++ u) := by
    rw [number_digits h htail, Strtol.number, List.dropWhile_cons_of_neg (by decide), Strtol.sign]
    dsimp only
    rw [digits_append h htail]
    rfl
  have hstoi := stoi_digits h htail hlt
  rw [Strtol.stoi, Strtol.bounded] at hstoi ⊢
  rwa [hnum]

theorem stripZeros_zero (h : s ≠ []) : stripZeros (48 :: s) = stripZeros s := by
  have hlen : 0 < s.length := List.length_pos_of_ne_nil h
  rw [stripZeros, stripZeros, List.takeWhile_cons_of_pos (by simp), List.length_cons, List.length_cons,
    show min ((s.takeWhile fun c => c = 48).length + 1) (s.length + 1 - 1) =
      min (s.takeWhile fun c => c = 48).length (s.length - 1) + 1 by omega, List.drop_succ_cons]

theorem stripZeros_of_ne (h : c ≠ 48) : stripZeros (c :: s) = c :: s := by
  rw [stripZeros, List.takeWhile_cons_of_neg (by simpa using h), List.length_nil, Nat.zero_min, List.drop_zero]

/-- The digits keep their number, unless they are all zeros and the text goes on. -/
theorem stripZeros_digits (h : IsDigits s) (htail : u = [] ∨ value s ≠ 0) :
    ∃ s', IsDigits s' ∧ value s' = value s ∧ stripZeros (s ++ u) = s' ++ u := by
  obtain ⟨hne, hall⟩ := h
  induction s with
  | nil => exact absurd rfl hne
  | cons c s ih =>
    obtain ⟨hc, hs⟩ := List.forall_mem_cons.1 hall
    by_cases h48 : c = 48
    · subst h48
      have hvalue : value (48 :: s) = value s := by simp [value]
      rcases s with _ | ⟨c, s⟩
      · rcases htail with rfl | htail
        · exact ⟨[48], ⟨by simp, hall⟩, rfl, rfl⟩
        · exact absurd hvalue htail
      · obtain ⟨s', hs', hv, heq⟩ := ih (by rwa [hvalue] at htail) (by simp) hs
        refine ⟨s', hs', by rw [hv, hvalue], ?_⟩
        rw [List.cons_append, stripZeros_zero (by simp), heq]
    · exact ⟨c :: s, ⟨by simp, hall⟩, rfl, stripZeros_of_ne h48⟩

theorem stripZeros_zeros (h : IsDigits s) (hzero : value s = 0) (htail : u ≠ []) (h48 : ∀ c ∈ u.head?, c ≠ 48) :
    stripZeros (s ++ u) = u := by
  obtain ⟨-, hall⟩ := h
  induction s with
  | nil =>
    rcases u with _ | ⟨c, u⟩
    · exact absurd rfl htail
    · exact stripZeros_of_ne (h48 c rfl)
  | cons c s ih =>
    obtain ⟨hc, hs⟩ := List.forall_mem_cons.1 hall
    have hsum := hzero
    rw [value, List.foldl_cons, foldl_value] at hsum
    have hdigit : c.toNat - 48 = 0 := by
      by_contra hne
      have : 0 < (10 * 0 + (c.toNat - 48)) * 10 ^ s.length := Nat.mul_pos (by omega) (by positivity)
      omega
    have hvalue : value s = 0 := by omega
    obtain rfl : c = 48 := UInt8.toNat_inj.1 (by
      show c.toNat = 48
      have := (isdigit_iff.1 hc).1
      omega)
    rw [List.cons_append, stripZeros_zero (by simp [htail]), ih hvalue hs]

/-- A number of the time. -/
theorem stoi_stripZeros (h : IsDigits s) (hlt : value s < 2 ^ 31) (htail : u = [] ∨ value s ≠ 0)
    (hstop : ∀ c ∈ u.head?, Strtol.isdigit c = false) : number (Strtol.stoi (stripZeros (s ++ u))) = .ok (value s : Int) := by
  obtain ⟨s', hs', hv, heq⟩ := stripZeros_digits h htail
  rw [heq, stoi_digits hs' hstop (by rwa [hv]), hv]

theorem cut_digits (h : IsDigits s) (hd : Strtol.isdigit d = false) : cut d (s ++ d :: u) = (s, u) := by
  have hs : ∀ c ∈ s, (decide (c ≠ d)) = true := fun c hc => decide_eq_true (ne_of_isdigit (h.2 c hc) hd)
  rw [cut, List.takeWhile_append_of_pos hs, List.takeWhile_cons_of_neg (by simp), List.append_nil, if_pos (by simp),
    List.dropWhile_append_of_pos hs, List.dropWhile_cons_of_neg (by simp), List.drop_succ_cons, List.drop_zero]

/-! ### The time -/

/-- The numbers of a valid time, but for the milliseconds. -/
theorem timeStringParser_eq (h : t.Valid) {rest : Str} (hrest : (cut 45 (t.milliseconds ++ t.offset.text)).1 = rest) :
    timeStringParser t.text = (number (Strtol.stoi (stripZeros rest))).map fun ms =>
      ⟨value t.year, value t.month, value t.day, value t.hour, value t.mins, value t.sec,
        (((value t.sec : Nat) : Int) * 1000 + ms).bmod (2 ^ 32)⟩ := by
  have hstoi : ∀ {s : Str} {k : Nat}, IsDigits s → s.length = k → k ≤ 4 →
      number (Strtol.stoi (stripZeros s)) = .ok (value s : Int) := by
    intro s k hs hk hk4
    have hlt := value_lt hs.2
    have hpow : 10 ^ s.length ≤ 10 ^ 4 := Nat.pow_le_pow_right (by norm_num) (by omega)
    have := stoi_stripZeros (u := []) hs (by omega) (.inl rfl) (by simp)
    rwa [List.append_nil] at this
  rw [timeStringParser, Time.text, cut_digits h.year.1 (by decide)]
  simp only [cut_digits h.month.1 (d := 45) (by decide), cut_digits h.day.1 (d := 84) (by decide),
    cut_digits h.hour.1 (d := 58) (by decide), cut_digits h.mins.1 (d := 58) (by decide), cut_digits h.sec.1 (d := 46) (by decide),
    hstoi h.year.1 h.year.2 (by norm_num), hstoi h.month.1 h.month.2 (by norm_num), hstoi h.day.1 h.day.2 (by norm_num),
    hstoi h.hour.1 h.hour.2 (by norm_num), hstoi h.mins.1 h.mins.2 (by norm_num), hstoi h.sec.1 h.sec.2 (by norm_num), hrest]
  rcases number (Strtol.stoi (stripZeros rest)) with e | ms <;> rfl

theorem cut_west {h' m : Str} (h : t.Valid) (hw : t.offset = .west h' m) :
    (cut 45 (t.milliseconds ++ t.offset.text)).1 = t.milliseconds := by
  rw [hw, Offset.text, List.cons_append, cut_digits h.milliseconds.1 (by decide)]

theorem cut_of_not_mem (h : 45 ∉ s) : (cut 45 s).1 = s := by
  refine List.takeWhile_eq_self_iff.2 fun c hc => decide_eq_true ?_
  rintro rfl
  exact h hc

theorem minus_not_mem (h : IsDigits s) : 45 ∉ s := fun hmem => absurd (h.2 45 hmem) (by decide)

theorem cut_east {h' m : Str} (h : t.Valid) (he : t.offset = .east h' m) :
    (cut 45 (t.milliseconds ++ t.offset.text)).1 = t.milliseconds ++ 43 :: (h' ++ 58 :: m) := by
  obtain ⟨hh, -, hm⟩ := h.offset.east h' m he
  rw [he, Offset.text]
  refine cut_of_not_mem ?_
  simp [minus_not_mem h.milliseconds.1, minus_not_mem hh, minus_not_mem hm]

theorem cut_utc (h : t.Valid) (hu : t.offset = .utc) :
    (cut 45 (t.milliseconds ++ t.offset.text)).1 = t.milliseconds ++ [90] := by
  rw [hu, Offset.text]
  refine cut_of_not_mem ?_
  simp [minus_not_mem h.milliseconds.1]

theorem seconds_lt (h : t.Valid) : value t.sec < 100 ∧ value t.milliseconds < 1000 := by
  have hsec := value_lt h.sec.1.2
  have hms := value_lt h.milliseconds.1.2
  rw [h.sec.2] at hsec
  rw [h.milliseconds.2] at hms
  exact ⟨by omega, by omega⟩

/-- The time is read as it is sent just where it is readable. -/
theorem timeRight_iff (h : t.Valid) : (∃ d, timeStringParser t.text = .ok d ∧ TimeRight t d) ↔ t.Readable := by
  obtain ⟨hsec, hms⟩ := seconds_lt h
  have hbmod : ∀ n : Nat, n < 1000 → (((value t.sec : Nat) : Int) * 1000 + (n : Int)).bmod (2 ^ 32) = value t.sec * 1000 + n := by
    intro n hn
    rw [Int.bmod_eq_of_le (by omega) (by omega)]
  have hok : ∀ {n : Nat} {rest : Str}, n < 1000 → (cut 45 (t.milliseconds ++ t.offset.text)).1 = rest →
      number (Strtol.stoi (stripZeros rest)) = .ok (n : Int) →
      ((∃ d, timeStringParser t.text = .ok d ∧ TimeRight t d) ↔ n = value t.milliseconds) := by
    intro n rest hn hrest hnum
    rw [timeStringParser_eq h hrest, hnum]
    simp only [Except.map, Except.ok.injEq, exists_eq_left', TimeRight, hbmod n hn]
    omega
  have hone := h.milliseconds.1
  rcases ho : t.offset with _ | ⟨h', m⟩ | ⟨h', m⟩
  · have hcut := cut_utc h ho
    by_cases hzero : value t.milliseconds = 0
    · have hbad : ¬ t.Readable := by
        rintro (hr | ⟨h', m, hr | ⟨hr, -⟩⟩)
        · exact hr hzero
        · rw [ho] at hr
          cases hr
        · rw [ho] at hr
          cases hr
      refine iff_of_false ?_ hbad
      rintro ⟨d, hd, -⟩
      have herror : number (Strtol.stoi (stripZeros (t.milliseconds ++ [90]))) = .error (.number .invalid_argument) := by
        rw [stripZeros_zeros hone hzero (by simp) (by simp)]
        rfl
      rw [timeStringParser_eq h hcut, herror] at hd
      cases hd
    · rw [hok hms hcut (stoi_stripZeros hone (by omega) (.inr hzero) (by simp; decide))]
      exact iff_of_true rfl (.inl hzero)
  · obtain ⟨hh, hh2, -⟩ := h.offset.east h' m ho
    have hcut := cut_east h ho
    have hhours := value_lt hh.2
    rw [hh2] at hhours
    by_cases hzero : value t.milliseconds = 0
    · have hhour : number (Strtol.stoi (stripZeros (t.milliseconds ++ 43 :: (h' ++ 58 :: m)))) = .ok (value h' : Int) := by
        rw [stripZeros_zeros hone hzero (by simp) (by simp)]
        exact stoi_plus hh (by simp; decide) (by omega)
      rw [hok (by omega) hcut hhour, hzero]
      constructor
      · exact fun h0 => .inr ⟨h', m, .inr ⟨ho, h0⟩⟩
      · rintro (hr | ⟨h₁, m₁, hr | ⟨hr, h0⟩⟩)
        · exact absurd hzero hr
        · rw [ho] at hr
          cases hr
        · rw [ho] at hr
          cases hr
          exact h0
    · rw [hok hms hcut (stoi_stripZeros hone (by omega) (.inr hzero) (by simp; decide))]
      exact iff_of_true rfl (.inl hzero)
  · have hd := stoi_stripZeros (u := []) hone (by omega) (.inl rfl) (by simp)
    rw [List.append_nil] at hd
    rw [hok hms (cut_west h ho) hd]
    exact iff_of_true rfl (.inr ⟨h', m, .inl ho⟩)

/-! ### The heading -/

theorem roundHalfEven_of_near {q : ℚ} {n : Int} (h : |q - n| < 1 / 2) : Double.roundHalfEven q = n := by
  have hround := Single.abs_roundHalfEven_sub_le q
  rw [abs_lt] at h
  rw [abs_le] at hround
  have hlow : (n : ℚ) - 1 < Double.roundHalfEven q := by linarith
  have hhigh : (Double.roundHalfEven q : ℚ) < n + 1 := by linarith
  have h1 : n - 1 < Double.roundHalfEven q := by exact_mod_cast hlow
  have h2 : Double.roundHalfEven q < n + 1 := by exact_mod_cast hhigh
  omega

/-- A number next to a whole one below `2 ^ 52`. -/
theorem ofRat_of_near {x : ℚ} {n : Int} (hone : 1 ≤ |x|) (hsmall : |x| < 2 ^ 52) (hn : |(n : ℚ)| < 2 ^ 52)
    (h : |x - n| ≤ |x| / 2 ^ 54) : Double.ofRat x = .finite n := by
  have hpos : 0 < |x| := by linarith
  have hne : |x| ≠ 0 := hpos.ne'
  have hlow : 0 ≤ Int.log 2 |x| := (Int.zpow_le_iff_le_log (b := 2) (by norm_num) hpos).1 (by simpa using hone)
  have hhigh : Int.log 2 |x| < 52 := (Int.lt_zpow_iff_log_lt (b := 2) (by norm_num) hpos).1 (by exact_mod_cast hsmall)
  have hnext : |x| < (2 : ℚ) ^ (Int.log 2 |x| + 1) := by exact_mod_cast Int.lt_zpow_succ_log_self (b := 2) (by norm_num) |x|
  obtain ⟨m, hm⟩ := Int.eq_ofNat_of_zero_le (show 0 ≤ 52 - Int.log 2 |x| by omega)
  have hexp : Double.exponent x = -(m : ℤ) := by
    rw [Double.exponent]
    omega
  have hmpos : (0 : ℚ) < 2 ^ m := by positivity
  have hbits : (2 : ℚ) ^ (Int.log 2 |x| + 1) * 2 ^ m = 2 ^ 53 := by
    rw [← zpow_natCast, ← zpow_add₀ two_ne_zero, ← zpow_natCast]
    congr 1
    omega
  have hscaled : x / (2 : ℚ) ^ Double.exponent x = x * 2 ^ m := by
    rw [hexp, zpow_neg, zpow_natCast, div_inv_eq_mul]
  have hnear : |x * 2 ^ m - ((n * 2 ^ m : Int) : ℚ)| < 1 / 2 := by
    have hfactor : x * 2 ^ m - ((n * 2 ^ m : Int) : ℚ) = (x - n) * 2 ^ m := by
      push_cast
      ring
    rw [hfactor, abs_mul, abs_of_pos hmpos]
    calc |x - n| * 2 ^ m ≤ |x| / 2 ^ 54 * 2 ^ m := mul_le_mul_of_nonneg_right h hmpos.le
      _ = |x| * 2 ^ m / 2 ^ 54 := by ring
      _ < (2 : ℚ) ^ (Int.log 2 |x| + 1) * 2 ^ m / 2 ^ 54 := by
        refine div_lt_div_of_pos_right (mul_lt_mul_of_pos_right hnext hmpos) (by positivity)
      _ = 1 / 2 := by rw [hbits]; norm_num
  have hround : (Double.roundHalfEven (x / (2 : ℚ) ^ Double.exponent x) : ℚ) * (2 : ℚ) ^ Double.exponent x = n := by
    rw [hscaled, roundHalfEven_of_near hnear, hexp, zpow_neg, zpow_natCast]
    push_cast
    field_simp
  rw [Double.ofRat, hround, if_pos]
  exact lt_of_lt_of_le hn (pow_le_pow_right₀ (by norm_num) (by norm_num))

/-- `0.0125`, a little above. -/
theorem ofRat_unit : Double.ofRat (125 / 10000) = .finite (7205759403792794 / 2 ^ 59) := by decide +kernel

/-- The division into units is exact. -/
theorem div_unit {n : Int} (h : |n| ≤ 2 ^ 32) : (Double.ofInt n).div (Double.ofRat (125 / 10000)) = .finite ((80 * n : Int) : ℚ) := by
  have hbound : |n| < 2 ^ 53 := lt_of_le_of_lt h (by norm_num)
  rw [Double.ofInt_eq hbound, ofRat_unit, Double.div, if_pos (by norm_num)]
  have hcast : |(n : ℚ)| ≤ 2 ^ 32 := by
    rw [← Int.cast_abs]
    exact_mod_cast h
  rcases eq_or_ne n 0 with rfl | hne
  · simpa using Double.ofRat_intCast (n := 0) (by norm_num)
  · have hn1 : (1 : ℚ) ≤ |(n : ℚ)| := by
      rw [← Int.cast_abs]
      exact_mod_cast Int.one_le_abs hne
    have habs : |(n : ℚ) / (7205759403792794 / 2 ^ 59)| = |(n : ℚ)| * (2 ^ 59 / 7205759403792794) := by
      rw [abs_div, abs_of_pos (show (0 : ℚ) < 7205759403792794 / 2 ^ 59 by norm_num)]
      ring
    have hdiff : (n : ℚ) / (7205759403792794 / 2 ^ 59) - ((80 * n : Int) : ℚ) =
        n * (2 ^ 59 / 7205759403792794 - 80) := by
      push_cast
      ring
    refine ofRat_of_near ?_ ?_ ?_ ?_
    · rw [habs]
      nlinarith [show (1 : ℚ) ≤ 2 ^ 59 / 7205759403792794 by norm_num]
    · rw [habs]
      nlinarith [show (2 : ℚ) ^ 59 / 7205759403792794 ≤ 80 by norm_num]
    · push_cast
      rw [abs_mul, abs_of_pos (by norm_num : (0 : ℚ) < 80)]
      linarith
    · rw [hdiff, habs, abs_mul, mul_div_assoc]
      refine mul_le_mul_of_nonneg_left ?_ (abs_nonneg _)
      rw [abs_of_neg (by norm_num)]
      norm_num

theorem int32_intCast (n : Int) : int32 (.finite n) = if -2 ^ 31 ≤ n ∧ n < 2 ^ 31 then n else -2 ^ 31 := by
  rw [int32]
  simp only [Int.ceil_intCast, Int.floor_intCast, ite_self]

theorem int32_bounds (d : Double) : -2 ^ 31 ≤ int32 d ∧ int32 d < 2 ^ 31 := by
  rcases d with q | _ | _
  · rw [int32]
    split_ifs <;> first | assumption | norm_num
  · exact ⟨le_rfl, by norm_num [int32]⟩
  · exact ⟨le_rfl, by norm_num [int32]⟩

/-- One turn is added to the remainder, which is that of the absolute value. -/
def wrap (alpha : Int) : Int := if alpha < 0 then 360 - -alpha % 360 else alpha

theorem wrap_eq (alpha : Int) : (if alpha < 0 then alpha.tmod 360 + 360 else alpha) = wrap alpha := by
  rw [wrap]
  split_ifs with hneg
  · have htmod : alpha.tmod 360 = -(-alpha % 360) := by
      rw [← Int.tmod_eq_emod_of_nonneg (by omega), Int.neg_tmod, neg_neg]
    rw [htmod]
    omega
  · rfl

theorem heading_eq (cameraRotation : ℚ) (angle : Nat) : heading cameraRotation angle =
    if 80 * wrap (inFrame cameraRotation angle) < 2 ^ 31 then 80 * wrap (inFrame cameraRotation angle) else -2 ^ 31 := by
  obtain ⟨hlow, hhigh⟩ := int32_bounds (.finite (Single.round (Single.round (cameraRotation - Single.round (angle : Int)) - 270)))
  rw [← inFrame] at hlow hhigh
  have hturn : 0 ≤ wrap (inFrame cameraRotation angle) ∧ wrap (inFrame cameraRotation angle) < 2 ^ 31 := by
    rw [wrap]
    split_ifs with hneg <;> omega
  rw [heading, ← inFrame, wrap_eq, div_unit (by rw [abs_of_nonneg hturn.1]; omega), int32_intCast]
  have hnonneg : -2 ^ 31 ≤ 80 * wrap (inFrame cameraRotation angle) := by omega
  simp only [hnonneg, true_and]

theorem headingRight_iff (cameraRotation : ℚ) (angle : Nat) :
    HeadingRight cameraRotation angle (heading cameraRotation angle) ↔ Turned cameraRotation angle := by
  have hheading := heading_eq cameraRotation angle
  set alpha := inFrame cameraRotation angle with halpha
  have hrange : (0 ≤ heading cameraRotation angle ∧ heading cameraRotation angle ≤ 28799) ↔
      (0 ≤ alpha ∧ alpha ≤ 359) ∨ (alpha < 0 ∧ ¬ 360 ∣ alpha) := by
    rw [hheading, wrap]
    split_ifs <;> omega
  rw [HeadingRight, Turned, hrange, ← halpha]
  refine and_congr_right fun hr => ?_
  -- in the range the heading is the angle, up to whole turns
  obtain ⟨j, hj⟩ : ∃ j : Int, heading cameraRotation angle = 80 * alpha + 28800 * j := by
    rw [hheading, wrap]
    rcases hr with ⟨h0, h359⟩ | ⟨hneg, hdvd⟩
    · refine ⟨0, ?_⟩
      rw [if_neg (show ¬ alpha < 0 by omega), if_pos (by omega)]
      omega
    · refine ⟨1 + -alpha / 360, ?_⟩
      rw [if_pos hneg, if_pos (by omega)]
      omega
  constructor
  · rintro ⟨k, hk⟩
    refine ⟨k - j, ?_⟩
    rw [hj] at hk
    push_cast at hk ⊢
    linarith
  · rintro ⟨k, hk⟩
    refine ⟨k + j, ?_⟩
    rw [hj]
    push_cast
    rw [hk]
    ring

/-! ### The id -/

theorem digitValue_hex {d : Nat} (h : d < 16) : Strtol.digitValue (UInt8.ofNat (if d < 10 then 48 + d else 87 + d)) = d := by
  have hall : ∀ d < 16, Strtol.digitValue (UInt8.ofNat (if d < 10 then 48 + d else 87 + d)) = d := by decide
  exact hall d h

/-- The number of a text of hexadecimal digits. -/
def hexFold (s : Str) : Nat := s.foldl (fun n c => 16 * n + Strtol.digitValue c) 0

theorem hexFold_concat (s : Str) (c : UInt8) : hexFold (s ++ [c]) = 16 * hexFold s + Strtol.digitValue c := by
  rw [hexFold, List.foldl_append]
  rfl

theorem hexFold_zeros (s : Str) (k : Nat) : hexFold (s ++ List.replicate k 48) = hexFold s * 16 ^ k := by
  induction k with
  | zero => simp
  | succ k ih =>
    rw [List.replicate_succ', ← List.append_assoc, hexFold_concat, ih, show Strtol.digitValue 48 = 0 from rfl, pow_succ]
    ring

theorem hex_of_lt {n : Nat} (h0 : n ≠ 0) (h : n < 16) : hex n = [UInt8.ofNat (if n < 10 then 48 + n else 87 + n)] := by
  rw [hex, if_neg h0, Nat.digits_of_lt 16 n h0 h]
  rfl

theorem hex_of_le {n : Nat} (h : 16 ≤ n) :
    hex n = hex (n / 16) ++ [UInt8.ofNat (if n % 16 < 10 then 48 + n % 16 else 87 + n % 16)] := by
  rw [hex, if_neg (by omega), hex, if_neg (by omega), Nat.digits_def' (by norm_num) (by omega), List.reverse_cons, List.map_append]
  rfl

theorem hexFold_hex (n : Nat) : hexFold (hex n) = n ∧ ∀ c ∈ hex n, Strtol.digitValue c < 16 := by
  induction n using Nat.strong_induction_on with
  | _ n ih =>
    rcases Nat.eq_zero_or_pos n with rfl | hpos
    · refine ⟨rfl, fun c hc => ?_⟩
      obtain rfl : c = 48 := List.mem_singleton.1 hc
      decide
    · by_cases h : n < 16
      · rw [hex_of_lt (by omega) h]
        refine ⟨?_, fun c hc => ?_⟩
        · rw [hexFold, List.foldl_cons, List.foldl_nil, digitValue_hex h]
          omega
        · rw [List.mem_singleton.1 hc, digitValue_hex h]
          exact h
      · obtain ⟨hfold, hall⟩ := ih (n / 16) (by omega)
        rw [hex_of_le (by omega)]
        refine ⟨?_, fun c hc => ?_⟩
        · rw [hexFold_concat, hfold, digitValue_hex (Nat.mod_lt _ (by norm_num))]
          omega
        · rcases List.mem_append.1 hc with hc | hc
          · exact hall c hc
          · rw [List.mem_singleton.1 hc, digitValue_hex (Nat.mod_lt _ (by norm_num))]
            exact Nat.mod_lt _ (by norm_num)

/-- The digits are as many as the number needs. -/
theorem length_hex {n : Nat} (h0 : n ≠ 0) : 1 ≤ (hex n).length ∧ 16 ^ ((hex n).length - 1) ≤ n ∧ n < 16 ^ (hex n).length := by
  induction n using Nat.strong_induction_on with
  | _ n ih =>
    by_cases h : n < 16
    · rw [hex_of_lt h0 h]
      simp
      omega
    · obtain ⟨hone, hlow, hhigh⟩ := ih (n / 16) (by omega) (by omega)
      rw [hex_of_le (by omega), List.length_append, List.length_singleton]
      obtain ⟨l, hl⟩ : ∃ l, (hex (n / 16)).length = l + 1 := ⟨_, (Nat.sub_add_cancel hone).symm⟩
      rw [hl, Nat.add_sub_cancel] at hlow
      rw [hl] at hhigh ⊢
      rw [Nat.add_sub_cancel, pow_succ 16 (l + 1)]
      rw [pow_succ] at hhigh ⊢
      omega

variable {id id' : Nat}

theorem octets_eq (h : id < 2 ^ 31) : octets id = hex id ++ List.replicate (8 - (hex id).length) 48 := by
  have hmod : ((id : Int) % 2 ^ 32).toNat = id := by omega
  rw [octets, hmod]

theorem length_hex_le (h : id < 2 ^ 31) : (hex id).length ≤ 8 := by
  rcases Nat.eq_zero_or_pos id with rfl | hpos
  · decide
  · obtain ⟨hone, hlow, -⟩ := length_hex (n := id) (by omega)
    by_contra hlen
    have hpow : 16 ^ 8 ≤ 16 ^ ((hex id).length - 1) := Nat.pow_le_pow_right (by norm_num) (by omega)
    have : (16 : Nat) ^ 8 = 2 ^ 32 := by norm_num
    omega

theorem octets_form (h : id < 2 ^ 31) : (octets id).length = 8 ∧ ∀ c ∈ octets id, Strtol.digitValue c < 16 := by
  have hlen := length_hex_le h
  rw [octets_eq h, List.length_append, List.length_replicate]
  refine ⟨by omega, fun c hc => ?_⟩
  rcases List.mem_append.1 hc with hc | hc
  · exact (hexFold_hex id).2 c hc
  · rw [(List.mem_replicate.1 hc).2]
    decide

theorem hexFold_octets (h : id < 2 ^ 31) : hexFold (octets id) = id * 16 ^ (8 - (hex id).length) := by
  rw [octets_eq h, hexFold_zeros, (hexFold_hex id).1]

/-- A zero at the end is taken for padding. -/
theorem octets_mul (h0 : id ≠ 0) (h : 16 * id < 2 ^ 31) : octets (16 * id : Nat) = octets id := by
  have hhex : hex (16 * id) = hex id ++ [48] := by
    rw [hex_of_le (by omega), Nat.mul_div_cancel_left _ (by norm_num), Nat.mul_mod_right]
    rfl
  have hlen := length_hex_le h
  rw [hhex, List.length_append, List.length_singleton] at hlen
  rw [octets_eq h, octets_eq (by omega), hhex, List.length_append, List.length_singleton, List.append_assoc, List.singleton_append,
    ← List.replicate_succ]
  congr 2
  omega

theorem octets_ne (h : id < 2 ^ 31) (h' : id' < 2 ^ 31) (hu : Unpadded id) (hne : id' ≠ id) : octets id' ≠ octets id := by
  intro heq
  have hfold := congrArg hexFold heq
  rw [hexFold_octets h, hexFold_octets h'] at hfold
  rcases hu with rfl | ⟨hbig, hmod⟩
  · rw [Nat.zero_mul] at hfold
    exact hne ((Nat.mul_eq_zero.1 hfold).resolve_right (by positivity))
  · have hlen := length_hex_le h
    have hlen' := length_hex_le h'
    rcases Nat.lt_trichotomy (hex id').length (hex id).length with hlt | heqlen | hgt
    · -- a zero at the end of `id`
      obtain ⟨j, hj⟩ := Nat.exists_eq_add_of_lt hlt
      have hsplit : 8 - (hex id').length = (8 - (hex id).length) + (j + 1) := by omega
      rw [hsplit, pow_add, mul_comm (16 ^ _) (16 ^ _), ← mul_assoc] at hfold
      have hid := Nat.eq_of_mul_eq_mul_right (by positivity) hfold
      rw [pow_succ, ← mul_assoc] at hid
      omega
    · rw [heqlen] at hfold
      exact hne (Nat.eq_of_mul_eq_mul_right (by positivity) hfold)
    · obtain ⟨j, hj⟩ := Nat.exists_eq_add_of_lt hgt
      have hsplit : 8 - (hex id).length = (8 - (hex id').length) + (j + 1) := by omega
      rw [hsplit, pow_add, mul_comm (16 ^ _) (16 ^ _), ← mul_assoc] at hfold
      have hid := Nat.eq_of_mul_eq_mul_right (by positivity) hfold
      have hpow : 16 ^ 1 ≤ 16 ^ (j + 1) := Nat.pow_le_pow_right (by norm_num) (by omega)
      have := Nat.mul_le_mul_left id hpow
      omega

theorem idRight_iff (h : id < 2 ^ 31) : IdRight id (octets id) ↔ Unpadded id := by
  constructor
  · rintro ⟨-, hne⟩
    by_contra hu
    simp only [Unpadded, not_or, not_and_or, not_le, not_not] at hu
    obtain ⟨h0, hu⟩ := hu
    rcases hu with hsmall | hmod
    · exact hne (16 * id) (by omega) (by omega) (octets_mul h0 (by omega))
    · obtain ⟨m, rfl⟩ := Nat.dvd_of_mod_eq_zero hmod
      exact hne m (by omega) (by omega) (octets_mul (by omega) (by omega)).symm
  · exact fun hu => ⟨octets_form h, fun id' h' hne => octets_ne h h' hu hne⟩

/-! ### The degrees -/

variable {deg : Degrees}

theorem value_dropLast (h : ∀ c ∈ s, Strtol.isdigit c = true) (hne : s ≠ []) : value s.dropLast = value s / 10 := by
  conv_rhs => rw [← List.dropLast_append_getLast hne, value_append]
  have hlast := isdigit_iff.1 (h _ (List.getLast_mem hne))
  have hone : value [s.getLast hne] = (s.getLast hne).toNat - 48 := by simp [value]
  rw [hone, List.length_singleton]
  omega

theorem filter_digits (h : IsDigits s) : (s.filter fun c => c ≠ 46) = s := by
  refine List.filter_eq_self.2 fun c hc => decide_eq_true ?_
  exact ne_of_isdigit (h.2 c hc) (by decide)

/-- Without the point and the last decimal the text is the number of tenths of microdegrees. -/
theorem withoutPoint_text (h : deg.Valid) : ∃ s, withoutPoint deg.text = .ok s ∧ s ≠ [] ∧ DegreesRight deg s := by
  obtain ⟨hwhole, hfrac, hlen⟩ := h
  have hne := hfrac.1
  have hall : ∀ c ∈ deg.whole ++ deg.frac, Strtol.isdigit c = true := fun c hc =>
    (List.mem_append.1 hc).elim (hwhole.2 c) (hfrac.2 c)
  have hvalue : value (deg.whole ++ deg.frac.dropLast) = (value deg.whole * 10 ^ 8 + value deg.frac) / 10 := by
    have hdrop := value_dropLast hall (by simp [hne])
    rw [List.dropLast_append_of_ne_nil hne] at hdrop
    rw [hdrop, value_append, hlen]
  have hdigits : IsDigits (deg.whole ++ deg.frac.dropLast) := by
    refine ⟨by simp [hwhole.1], fun c hc => hall c ?_⟩
    rcases List.mem_append.1 hc with hc | hc
    · exact List.mem_append_left _ hc
    · exact List.mem_append_right _ (List.dropLast_subset _ hc)
  have hnumber := number_digits (u := []) hdigits (by simp)
  rw [List.append_nil, hvalue] at hnumber
  have hpoint : (46 :: deg.frac).filter (fun c => decide (c ≠ 46)) = deg.frac := by
    rw [List.filter_cons_of_neg (by simp), filter_digits hfrac]
  rcases hsign : deg.negative with _ | _
  · refine ⟨deg.whole ++ deg.frac.dropLast, ?_, hdigits.1, ?_⟩
    · have hfilter : (deg.text.filter fun c => c ≠ 46) = deg.whole ++ deg.frac := by
        rw [Degrees.text, hsign, if_neg (by simp), List.nil_append, List.filter_append, filter_digits hwhole, hpoint]
      rw [withoutPoint, hfilter]
      rcases hcat : deg.whole ++ deg.frac with _ | ⟨c, l⟩
      · simp [hne] at hcat
      · dsimp only
        rw [← hcat, List.dropLast_append_of_ne_nil hne]
    · rw [DegreesRight, Degrees.tenths, hsign, hnumber]
      rfl
  · refine ⟨45 :: (deg.whole ++ deg.frac.dropLast), ?_, by simp, ?_⟩
    · have hfilter : (deg.text.filter fun c => c ≠ 46) = 45 :: (deg.whole ++ deg.frac) := by
        rw [Degrees.text, hsign, if_pos rfl, List.singleton_append, List.cons_append, List.filter_cons_of_pos (by decide),
          List.filter_append, filter_digits hwhole, hpoint]
      rw [withoutPoint, hfilter]
      dsimp only
      rw [List.dropLast_cons_of_ne_nil (by simp [hne]), List.dropLast_append_of_ne_nil hne]
    · have hread := digits_append (u := []) hdigits (by simp)
      rw [List.append_nil] at hread
      rw [DegreesRight, Degrees.tenths, hsign, if_pos rfl, ← hvalue, Strtol.number, List.dropWhile_cons_of_neg (by decide),
        Strtol.sign]
      dsimp only
      rw [hread]
      rfl

end V2xHub.PedestrianPlugin.Flir.Tracks
