import V2xHub.Lib.OrdMap
import Mathlib.Logic.Function.Basic
import Mathlib.Algebra.Order.Ring.Int
import Mathlib.Tactic.Ring

/-!
# The frequency throttle (`FrequencyThrottle.h`)

`Monitor` keeps the time of its last `true` for each key, and `RemoveStaleKeys` forgets those that are too old. What a throttle
is for needs no map: it is the last time of each key, if there is one, and a call is due if that is long enough ago
(`throttle`). The code has the results of this one, with any calls of `RemoveStaleKeys` among those of `Monitor` (`trace_eq`):
what is forgotten was due anyway.

Times are counted in ticks of the clock and durations in ticks of theirs. The two durations of a throttle are `Int64`, as the
sum of `set_Frequency` may leave the type; times since the epoch and what is between them do not, and are integers here.
`FREQUENCY_THROTTLE_DURATION_CAST` cuts off what is less than a tick.
-/

namespace V2xHub.TmxUtils

/-- A tick of the clock is `num / den` ticks of the durations. -/
structure Units where
  num : Nat
  den : Nat
  num_pos : 0 < num
  den_pos : 0 < den

/-- `FREQUENCY_THROTTLE_DURATION_CAST<Duration>` -/
def Units.cast (u : Units) (ticks : Int) : Int := (ticks * u.num).tdiv u.den

structure FrequencyThrottle (κ : Type) [LinearOrder κ] where
  _frequency : Int64
  _staleDuration : Int64
  _mapLastTime : OrdMap κ Int

inductive Call (κ : Type) where
  | Monitor (now : Int) (key : κ)
  | RemoveStaleKeys (now : Int)

def Call.now {κ : Type} : Call κ → Int
  | Monitor now _ => now
  | RemoveStaleKeys now => now

/-- A call of `Monitor` with its result. -/
structure Result (κ : Type) where
  now : Int
  key : κ
  value : Bool

section
variable {κ : Type} [LinearOrder κ] (u : Units)

namespace FrequencyThrottle

/-- The constructor, with `set_Frequency`. The sum wraps around. -/
def new (frequency : Int64) : FrequencyThrottle κ := ⟨frequency, frequency + 5000, OrdMap.empty⟩

variable (t : FrequencyThrottle κ)

def Monitor (now : Int) (key : κ) : Bool × FrequencyThrottle κ :=
  match t._mapLastTime.find? key with
  | none => (true, { t with _mapLastTime := t._mapLastTime.insert key now })
  | some last =>
    if u.cast (now - last) ≥ t._frequency.toInt then (true, { t with _mapLastTime := t._mapLastTime.insert key now })
    else (false, t)

def RemoveStaleKeys (now : Int) : FrequencyThrottle κ :=
  { t with _mapLastTime := t._mapLastTime.filter fun _ last => ¬ u.cast (now - last) ≥ t._staleDuration.toInt }

end FrequencyThrottle

/-- The results of the calls. -/
def trace (t : FrequencyThrottle κ) : List (Call κ) → List (Result κ)
  | [] => []
  | .Monitor now key :: calls => ⟨now, key, (t.Monitor u now key).1⟩ :: trace (t.Monitor u now key).2 calls
  | .RemoveStaleKeys now :: calls => trace (t.RemoveStaleKeys u now) calls

/-- The calls of `Monitor`. -/
def monitored : List (Call κ) → List (Int × κ)
  | [] => []
  | .Monitor now key :: calls => (now, key) :: monitored calls
  | .RemoveStaleKeys _ :: calls => monitored calls

/-! ### What a throttle is for -/

/-- From `last` on it is at least the frequency. -/
def Apart (frequency last now : Int) : Prop := frequency * u.den ≤ (now - last) * u.num

instance (frequency last now : Int) : Decidable (Apart u frequency last now) :=
  inferInstanceAs (Decidable (frequency * u.den ≤ (now - last) * u.num))

/-- There was no `last`, or it is long enough ago. -/
def Due (frequency : Int) (last : Option Int) (now : Int) : Prop := ∀ t ∈ last, Apart u frequency t now

instance (frequency : Int) (last : Option Int) (now : Int) : Decidable (Due u frequency last now) :=
  match last with
  | none => isTrue fun _ h => absurd h (Option.not_mem_none _)
  | some t => decidable_of_iff (Apart u frequency t now) ⟨fun h _ ht => Option.mem_some.mp ht ▸ h, fun h => h t rfl⟩

/-- The throttle without a map: the last `true` of each key. -/
def throttle (frequency : Int) (last : κ → Option Int) : List (Int × κ) → List (Result κ)
  | [] => []
  | (now, key) :: calls =>
    if Due u frequency (last key) now then ⟨now, key, true⟩ :: throttle frequency (Function.update last key (some now)) calls
    else ⟨now, key, false⟩ :: throttle frequency last calls

/-- What the code knows of the last times at `now`. What it has forgotten is long enough ago. -/
structure Knows (frequency now : Int) (last : κ → Option Int) (t : FrequencyThrottle κ) : Prop where
  frequency_eq : t._frequency.toInt = frequency
  stale_ge : frequency ≤ t._staleDuration.toInt
  past : ∀ k v, last k = some v → v ≤ now
  known : ∀ k, t._mapLastTime.find? k = last k ∨ t._mapLastTime.find? k = none ∧ Due u frequency (last k) now

variable {u} {frequency now now' : Int} {last : κ → Option Int} {t : FrequencyThrottle κ} {key : κ}

theorem le_cast_iff {ticks : Int} (h : 0 ≤ ticks) : frequency ≤ u.cast ticks ↔ frequency * u.den ≤ ticks * u.num := by
  rw [Units.cast, Int.tdiv_eq_ediv_of_nonneg (mul_nonneg h (Int.natCast_nonneg _)),
    Int.le_ediv_iff_mul_le (Int.natCast_pos.mpr u.den_pos)]

theorem Apart.mono {t : Int} (h : Apart u frequency t now) (hle : now ≤ now') : Apart u frequency t now' :=
  le_trans h (mul_le_mul_of_nonneg_right (by omega) (Int.natCast_nonneg _))

/-- Without an overflow. -/
theorem stale_new {frequency : Int64} (h : frequency.toInt + 5000 < 2 ^ 63) :
    (FrequencyThrottle.new (κ := κ) frequency)._staleDuration.toInt = frequency.toInt + 5000 := by
  have hlow := frequency.le_toInt
  show (frequency + 5000).toInt = _
  rw [Int64.toInt_add, show (5000 : Int64).toInt = 5000 from rfl]
  exact Int.bmod_eq_of_le (by omega) (by omega)

theorem knows_new {frequency : Int64} (h : frequency.toInt + 5000 < 2 ^ 63) (now : Int) :
    Knows (κ := κ) u frequency.toInt now (fun _ => none) (.new frequency) where
  frequency_eq := rfl
  stale_ge := by
    rw [stale_new h]
    omega
  past := fun _ _ h => absurd h.symm (Option.some_ne_none _)
  known := fun _ => Or.inl OrdMap.find?_empty

theorem Knows.later (h : Knows u frequency now last t) (hle : now ≤ now') : Knows u frequency now' last t where
  frequency_eq := h.frequency_eq
  stale_ge := h.stale_ge
  past := fun k v hv => (h.past k v hv).trans hle
  known := fun k => (h.known k).imp_right fun ⟨hnone, hdue⟩ => ⟨hnone, fun v hv => (hdue v hv).mono hle⟩

theorem Knows.insert (h : Knows u frequency now last t) (key : κ) :
    Knows u frequency now (Function.update last key (some now)) { t with _mapLastTime := t._mapLastTime.insert key now } where
  frequency_eq := h.frequency_eq
  stale_ge := h.stale_ge
  past := by
    intro k v hv
    by_cases hk : k = key
    · rw [hk, Function.update_self] at hv
      exact (Option.some.inj hv).ge
    · rw [Function.update_of_ne hk] at hv
      exact h.past k v hv
  known := by
    intro k
    by_cases hk : k = key
    · rw [hk, Function.update_self]
      exact Or.inl OrdMap.find?_insert_self
    · rw [Function.update_of_ne hk, OrdMap.find?_insert_ne hk]
      exact h.known k

theorem Monitor_of_find?_eq_none (h : t._mapLastTime.find? key = none) :
    t.Monitor u now key = (true, { t with _mapLastTime := t._mapLastTime.insert key now }) := by
  rw [FrequencyThrottle.Monitor, h]

/-- `Monitor` is `true` if the call is due, and what the code knows after it. -/
theorem Knows.monitor (h : Knows u frequency now last t) (key : κ) :
    (t.Monitor u now key).1 = decide (Due u frequency (last key) now) ∧
      Knows u frequency now (if Due u frequency (last key) now then Function.update last key (some now) else last)
        (t.Monitor u now key).2 := by
  cases hfind : t._mapLastTime.find? key with
  | none =>
    have hdue : Due u frequency (last key) now := by
      rcases h.known key with hknown | ⟨-, hdue⟩
      · intro v hv
        rw [← hknown, hfind] at hv
        exact absurd hv (Option.not_mem_none v)
      · exact hdue
    rw [if_pos hdue, Monitor_of_find?_eq_none hfind]
    exact ⟨(decide_eq_true hdue).symm, h.insert key⟩
  | some v =>
    have hlast : last key = some v := by
      rcases h.known key with hknown | ⟨hnone, -⟩
      · exact hknown.symm.trans hfind
      · rw [hfind] at hnone
        exact absurd hnone (Option.some_ne_none v)
    have hdue : u.cast (now - v) ≥ t._frequency.toInt ↔ Due u frequency (last key) now := by
      have hnonneg : 0 ≤ now - v := by
        have := h.past key v hlast
        omega
      rw [hlast, ge_iff_le, h.frequency_eq, le_cast_iff hnonneg]
      exact ⟨fun hle w hw => Option.mem_some.mp hw ▸ hle, fun hall => hall v rfl⟩
    rw [FrequencyThrottle.Monitor, hfind]
    dsimp only
    by_cases hcast : u.cast (now - v) ≥ t._frequency.toInt
    · rw [if_pos hcast, if_pos (hdue.mp hcast)]
      exact ⟨(decide_eq_true (hdue.mp hcast)).symm, h.insert key⟩
    · rw [if_neg hcast, if_neg fun hd => hcast (hdue.mpr hd)]
      exact ⟨(decide_eq_false fun hd => hcast (hdue.mpr hd)).symm, h⟩

/-- A key that is stale is due, for the stale duration is not shorter than the frequency. -/
theorem Knows.removeStaleKeys (h : Knows u frequency now last t) : Knows u frequency now last (t.RemoveStaleKeys u now) where
  frequency_eq := h.frequency_eq
  stale_ge := h.stale_ge
  past := h.past
  known := by
    intro k
    show (t._mapLastTime.filter _).find? k = _ ∨ (t._mapLastTime.filter _).find? k = none ∧ _
    rw [OrdMap.find?_filter]
    rcases h.known k with hknown | ⟨hnone, hdue⟩
    · cases hlast : last k with
      | none =>
        rw [hknown, hlast]
        exact Or.inl rfl
      | some v =>
        rw [hknown, hlast]
        by_cases hstale : u.cast (now - v) ≥ t._staleDuration.toInt
        · refine Or.inr ⟨Option.filter_some_neg (by simpa using hstale), ?_⟩
          intro w hw
          have hnonneg : 0 ≤ now - v := by
            have := h.past k v hlast
            omega
          rw [← Option.mem_some.mp hw]
          exact (le_cast_iff hnonneg).mp (h.stale_ge.trans hstale)
        · exact Or.inl (Option.filter_some_pos (by simpa using hstale))
    · rw [hnone]
      exact Or.inr ⟨rfl, hdue⟩

/-- The code has the results of the throttle without a map. -/
theorem trace_eq {calls : List (Call κ)} (hmono : (now :: calls.map Call.now).Pairwise (· ≤ ·)) (h : Knows u frequency now last t) :
    trace u t calls = throttle u frequency last (monitored calls) := by
  induction calls generalizing now last t with
  | nil => rfl
  | cons call calls ih =>
    obtain ⟨hfirst, hrest⟩ := List.pairwise_cons.mp hmono
    have hlater := h.later (hfirst call.now List.mem_cons_self)
    cases call with
    | Monitor now' key =>
      have hnow : Knows u frequency now' last t := hlater
      obtain ⟨hvalue, hknows⟩ := hnow.monitor key
      rw [trace, monitored, throttle, ih hrest hknows]
      by_cases hdue : Due u frequency (last key) now'
      · rw [if_pos hdue, if_pos hdue, hvalue, decide_eq_true hdue]
      · rw [if_neg hdue, if_neg hdue, hvalue, decide_eq_false hdue]
    | RemoveStaleKeys now' =>
      rw [trace, monitored]
      exact ih hrest hlater.removeStaleKeys

/-! ### The results of a run -/

theorem mem_throttle {calls : List (Int × κ)} {r : Result κ} (h : r ∈ throttle u frequency last calls) : (r.now, r.key) ∈ calls := by
  induction calls generalizing last with
  | nil => exact absurd h List.not_mem_nil
  | cons call calls ih =>
    rw [throttle] at h
    split at h
    all_goals
      rcases List.mem_cons.mp h with rfl | hmem
      · exact List.mem_cons_self
      · exact List.mem_cons_of_mem call (ih hmem)

/-- What is `true` later was due by what was known before. -/
theorem throttle_due {calls : List (Int × κ)} (hmono : (calls.map Prod.fst).Pairwise (· ≤ ·)) {r : Result κ}
    (h : r ∈ throttle u frequency last calls) (hvalue : r.value = true) : Due u frequency (last r.key) r.now := by
  induction calls generalizing last with
  | nil => exact absurd h List.not_mem_nil
  | cons call calls ih =>
    obtain ⟨now, key⟩ := call
    obtain ⟨hfirst, hrest⟩ := List.pairwise_cons.mp hmono
    rw [throttle] at h
    by_cases hdue : Due u frequency (last key) now
    · rw [if_pos hdue] at h
      rcases List.mem_cons.mp h with rfl | hmem
      · exact hdue
      · have hlater := ih hrest hmem
        by_cases hkey : r.key = key
        · -- the head is between what was known and `r`
          intro v hv
          rw [hkey] at hv
          exact (hdue v hv).mono (hfirst r.now (List.mem_map.mpr ⟨_, mem_throttle hmem, rfl⟩))
        · rwa [Function.update_of_ne hkey] at hlater
    · rw [if_neg hdue] at h
      rcases List.mem_cons.mp h with rfl | hmem
      · exact absurd hvalue Bool.false_ne_true
      · exact ih hrest hmem

theorem throttle_apart {calls : List (Int × κ)} (hmono : (calls.map Prod.fst).Pairwise (· ≤ ·)) (last : κ → Option Int) :
    (throttle u frequency last calls).Pairwise fun r r' =>
      r.key = r'.key → r.value = true → r'.value = true → Apart u frequency r.now r'.now := by
  induction calls generalizing last with
  | nil => exact List.Pairwise.nil
  | cons call calls ih =>
    obtain ⟨now, key⟩ := call
    obtain ⟨-, hrest⟩ := List.pairwise_cons.mp hmono
    rw [throttle]
    split
    · refine List.pairwise_cons.mpr ⟨fun r hr hkey _ hvalue => ?_, ih hrest _⟩
      have hdue := throttle_due hrest hr hvalue
      rw [← hkey, Function.update_self] at hdue
      exact hdue now rfl
    · exact List.pairwise_cons.mpr ⟨fun _ _ _ hfalse => absurd hfalse Bool.false_ne_true, ih hrest _⟩

/-- The time of the last `true` for the key. -/
def lastTrue (key : κ) (results : List (Result κ)) : Option Int :=
  (results.reverse.find? fun r => r.key = key ∧ r.value = true).map Result.now

theorem lastTrue_cons (key : κ) (r : Result κ) (results : List (Result κ)) :
    lastTrue key (r :: results) = (lastTrue key results).or (if r.key = key ∧ r.value = true then some r.now else none) := by
  unfold lastTrue
  rw [List.reverse_cons, List.find?_append, List.find?_singleton, Option.map_or]
  congr 1
  by_cases h : r.key = key ∧ r.value = true
  · simp [h]
  · simp [h]

theorem lastTrue_eq_none {key : κ} {results : List (Result κ)} :
    lastTrue key results = none ↔ ∀ r ∈ results, r.key = key → r.value = false := by
  simp [lastTrue]

/-- A result is `true` if the last `true` before it is long enough ago. -/
theorem throttle_value {calls : List (Int × κ)} {r : Result κ} {pre post : List (Result κ)}
    (h : throttle u frequency last calls = pre ++ r :: post) :
    r.value = true ↔ Due u frequency ((lastTrue r.key pre).or (last r.key)) r.now := by
  induction calls generalizing last pre with
  | nil => simp [throttle] at h
  | cons call calls ih =>
    obtain ⟨now, key⟩ := call
    rw [throttle] at h
    by_cases hdue : Due u frequency (last key) now
    · rw [if_pos hdue] at h
      cases pre with
      | nil =>
        obtain ⟨rfl, -⟩ := List.cons.inj h
        exact ⟨fun _ => hdue, fun _ => rfl⟩
      | cons x pre =>
        obtain ⟨rfl, htail⟩ := List.cons.inj h
        rw [ih htail, lastTrue_cons, Option.or_assoc]
        by_cases hkey : r.key = key
        · simp [hkey]
        · simp [hkey, Ne.symm hkey]
    · rw [if_neg hdue] at h
      cases pre with
      | nil =>
        obtain ⟨rfl, -⟩ := List.cons.inj h
        exact ⟨fun hfalse => absurd hfalse Bool.false_ne_true, fun h => absurd h hdue⟩
      | cons x pre =>
        obtain ⟨rfl, htail⟩ := List.cons.inj h
        rw [ih htail, lastTrue_cons, Option.or_assoc]
        simp

/-- From the start on, a key without a `true` has not been seen. -/
theorem unseen_of_lastTrue {calls : List (Int × κ)} {rest pre : List (Result κ)}
    (h : throttle u frequency (fun _ => none) calls = pre ++ rest) (hnone : lastTrue key pre = none) : ∀ r ∈ pre, r.key ≠ key := by
  intro r hr hkey
  obtain ⟨before, after, rfl⟩ := List.append_of_mem hr
  rw [List.append_assoc, List.cons_append] at h
  have hbefore : lastTrue r.key before = none :=
    lastTrue_eq_none.mpr fun x hx hx' => lastTrue_eq_none.mp hnone x (List.mem_append_left _ hx) (hx'.trans hkey)
  have hvalue := (throttle_value h).mpr (by simp [hbefore, Due])
  rw [lastTrue_eq_none.mp hnone r hr hkey] at hvalue
  exact Bool.false_ne_true hvalue

/-- The results for a key are those of its own calls. -/
theorem throttle_filter (calls : List (Int × κ)) {last last' : κ → Option Int} (h : last key = last' key) :
    (throttle u frequency last calls).filter (·.key = key) = throttle u frequency last' (calls.filter (·.2 = key)) := by
  induction calls generalizing last last' with
  | nil => rfl
  | cons call calls ih =>
    obtain ⟨now, key'⟩ := call
    by_cases hkey : key' = key
    · subst hkey
      rw [List.filter_cons_of_pos (by simp), throttle, throttle, h]
      split
      · have hupdate : Function.update last key' (some now) key' = Function.update last' key' (some now) key' := by
          rw [Function.update_self, Function.update_self]
        rw [List.filter_cons_of_pos (by simp), ih hupdate]
      · rw [List.filter_cons_of_pos (by simp), ih h]
    · rw [List.filter_cons_of_neg (by simpa using hkey), throttle]
      split
      · rw [List.filter_cons_of_neg (by simpa using hkey), ih]
        rw [Function.update_of_ne (Ne.symm hkey), h]
      · rw [List.filter_cons_of_neg (by simpa using hkey), ih h]

omit [LinearOrder κ] in
theorem pairwise_monitored {calls : List (Call κ)} (h : (calls.map Call.now).Pairwise (· ≤ ·)) :
    ((monitored calls).map Prod.fst).Pairwise (· ≤ ·) := by
  have hsub : ((monitored calls).map Prod.fst).Sublist (calls.map Call.now) := by
    clear h
    induction calls with
    | nil => exact List.Sublist.refl []
    | cons call calls ih =>
      cases call with
      | Monitor now key => exact ih.cons_cons now
      | RemoveStaleKeys now => exact ih.cons now
  exact h.sublist hsub

theorem trace_new {frequency : Int64} (hsum : frequency.toInt + 5000 < 2 ^ 63) {calls : List (Call κ)}
    (hmono : (calls.map Call.now).Pairwise (· ≤ ·)) :
    trace u (.new frequency) calls = throttle u frequency.toInt (fun _ => none) (monitored calls) := by
  cases calls with
  | nil => rfl
  | cons call calls =>
    refine trace_eq (List.pairwise_cons.mpr ⟨fun now hnow => ?_, hmono⟩) (knows_new hsum call.now)
    rcases List.mem_cons.mp hnow with rfl | hmem
    · exact le_rfl
    · exact (List.pairwise_cons.mp hmono).1 now hmem

/-- Two calls for a key that are `true` are the frequency apart, and a call is `true` if its key was never seen or its last
`true` is that long ago. The results for a key are those of any other run with the same calls for it, and all results those of
any other run with the same calls of `Monitor`. -/
def Throttles (κ : Type) [LinearOrder κ] (u : Units) (frequency : Int64) : Prop :=
  ∀ calls calls' : List (Call κ), (calls.map Call.now).Pairwise (· ≤ ·) → (calls'.map Call.now).Pairwise (· ≤ ·) →
    ((trace u (.new frequency) calls).Pairwise fun r r' =>
        r.key = r'.key → r.value = true → r'.value = true → Apart u frequency.toInt r.now r'.now) ∧
      (∀ pre r post, trace u (.new frequency) calls = pre ++ r :: post →
        (r.value = true ↔ (∀ r' ∈ pre, r'.key ≠ r.key) ∨ ∃ t ∈ lastTrue r.key pre, Apart u frequency.toInt t r.now)) ∧
      (∀ key, (monitored calls).filter (·.2 = key) = (monitored calls').filter (·.2 = key) →
        (trace u (.new frequency) calls).filter (·.key = key) = (trace u (.new frequency) calls').filter (·.key = key)) ∧
      (monitored calls = monitored calls' → trace u (.new frequency) calls = trace u (.new frequency) calls')

theorem throttles_of_sum {frequency : Int64} (hsum : frequency.toInt + 5000 < 2 ^ 63) : Throttles κ u frequency := by
  intro calls calls' hmono hmono'
  rw [trace_new hsum hmono, trace_new hsum hmono']
  refine ⟨throttle_apart (pairwise_monitored hmono) _, fun pre r post hsplit => ?_, fun key hkey => ?_, fun h => by rw [h]⟩
  · rw [throttle_value hsplit, Option.or_none]
    cases hlast : lastTrue r.key pre with
    | none => exact ⟨fun _ => Or.inl (unseen_of_lastTrue hsplit hlast), fun _ t ht => absurd ht (Option.not_mem_none t)⟩
    | some t =>
      have hseen : ¬ ∀ r' ∈ pre, r'.key ≠ r.key := by
        intro hall
        have hnone : lastTrue r.key pre = none := lastTrue_eq_none.mpr fun x hx hx' => absurd hx' (hall x hx)
        exact Option.some_ne_none t (hlast.symm.trans hnone)
      rw [or_iff_right hseen]
      exact ⟨fun hdue => ⟨t, rfl, hdue t rfl⟩, fun ⟨t', ht', h⟩ v hv => by rwa [Option.mem_unique hv ht']⟩
  · rw [throttle_filter _ rfl, hkey, throttle_filter _ rfl]

theorem staleDuration_of_overflow {frequency : Int64} (hsum : 2 ^ 63 ≤ frequency.toInt + 5000) :
    (FrequencyThrottle.new (κ := κ) frequency)._staleDuration.toInt ≤ 0 := by
  have hlt := frequency.toInt_lt
  have hbmod : (frequency.toInt + 5000).bmod (2 ^ 64) = frequency.toInt + 5000 - 2 ^ 64 := by
    rw [← Int.sub_bmod_right]
    exact Int.bmod_eq_of_le (by omega) (by omega)
  show (frequency + 5000).toInt ≤ 0
  rw [Int64.toInt_add, show (5000 : Int64).toInt = 5000 from rfl, hbmod]
  omega

/-- Behind the overflow every key is stale, and a sweep makes the next call `true`. -/
theorem trace_of_overflow {frequency : Int64} (hsum : 2 ^ 63 ≤ frequency.toInt + 5000) (key : κ) :
    trace u (.new frequency) [.Monitor 0 key, .RemoveStaleKeys 0, .Monitor 0 key] = [⟨0, key, true⟩, ⟨0, key, true⟩] := by
  have hcast : u.cast (0 - 0) ≥ (FrequencyThrottle.new (κ := κ) frequency)._staleDuration.toInt := by
    rw [Units.cast, sub_self, zero_mul, Int.zero_tdiv]
    exact staleDuration_of_overflow hsum
  have hempty : (FrequencyThrottle.new (κ := κ) frequency)._mapLastTime.find? key = none := OrdMap.find?_empty
  have hfind : (FrequencyThrottle.RemoveStaleKeys u
      { FrequencyThrottle.new (κ := κ) frequency with _mapLastTime := (FrequencyThrottle.new frequency)._mapLastTime.insert key 0 }
      0)._mapLastTime.find? key = none := by
    rw [FrequencyThrottle.RemoveStaleKeys, OrdMap.find?_filter, OrdMap.find?_insert_self]
    exact Option.filter_some_neg (by simpa using hcast)
  rw [trace, Monitor_of_find?_eq_none hempty, trace, trace, Monitor_of_find?_eq_none hfind, trace]

/-- If and only if the stale duration does not overflow. The key is any. -/
theorem monitor_throttles (u : Units) (frequency : Int64) (key : κ) : Throttles κ u frequency ↔ frequency.toInt + 5000 < 2 ^ 63 := by
  refine ⟨fun h => ?_, throttles_of_sum⟩
  by_contra hsum
  obtain ⟨hapart, -⟩ := h [.Monitor 0 key, .RemoveStaleKeys 0, .Monitor 0 key] [] (by simp [Call.now]) List.Pairwise.nil
  rw [trace_of_overflow (not_lt.mp hsum)] at hapart
  have hzero := List.rel_of_pairwise_cons hapart List.mem_cons_self rfl rfl rfl
  rw [Apart, sub_self, zero_mul] at hzero
  have hden : (0 : Int) < u.den := Int.natCast_pos.mpr u.den_pos
  have hpos : 0 < frequency.toInt * u.den := mul_pos (by omega) hden
  omega

end

/-- Ticks of the same length. -/
def sameTicks : Units := ⟨1, 1, Nat.one_pos, Nat.one_pos⟩

/-- Two keys with a sweep between their calls. -/
def sweptCalls : List (Call Nat) :=
  [.Monitor 0 1, .Monitor 30 2, .RemoveStaleKeys 5030, .Monitor 5035 1, .RemoveStaleKeys 5050, .Monitor 5050 1]

theorem monitor_throttles_swept :
    (sweptCalls.map Call.now).Pairwise (· ≤ ·) ∧
      trace sameTicks (.new 20) sweptCalls =
        trace sameTicks (.new 20) [.Monitor 0 1, .Monitor 30 2, .Monitor 5035 1, .Monitor 5050 1] :=
  ⟨by decide, (((monitor_throttles sameTicks 20 0).mpr (by decide)) sweptCalls _ (by decide) (by decide)).2.2.2 (by decide)⟩

/-- The longest duration of the type. -/
theorem not_throttles : ¬ Throttles Nat sameTicks 9223372036854775807 := by
  intro h
  obtain ⟨hapart, -⟩ := h [.Monitor 0 0, .RemoveStaleKeys 0, .Monitor 0 0] [] (by decide) List.Pairwise.nil
  exact absurd hapart (by decide +kernel)

end V2xHub.TmxUtils
