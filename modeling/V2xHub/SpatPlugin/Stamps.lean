import V2xHub.Lib.Calendar
import V2xHub.SpatPlugin.Ntcip1202

/-!
# The time stamps of SPAT

`ToJ2735r41SPAT` reads the clock twice for a stamp: the second of the minute comes from the first read and the millisecond of the
second from the other one. The stamps are in order and each in its call iff no call sees the millisecond go back between the two
(`spatStamps_iff`).
-/

namespace V2xHub.SpatPlugin

open Calendar

/-! ### The day of the year -/

theorem exists_cycles {dayOfEra : Nat} (h : dayOfEra < 146097) :
    ∃ century quad year day, dayOfEra = 36524 * century + 1461 * quad + 365 * year + day ∧ century ≤ 3 ∧ quad ≤ 24 ∧ year ≤ 3 ∧
      day ≤ 365 ∧ (day = 365 → year = 3 ∧ (quad = 24 → century = 3)) := by
  obtain ⟨century, hcentury, hrest⟩ : ∃ century ≤ 3, 36524 * century ≤ dayOfEra ∧ dayOfEra - 36524 * century ≤ 36524 ∧
      (dayOfEra - 36524 * century = 36524 → century = 3) :=
    ⟨min (dayOfEra / 36524) 3, by omega⟩
  obtain ⟨rest, rfl⟩ : ∃ rest, dayOfEra = 36524 * century + rest := ⟨_, (Nat.add_sub_cancel' hrest.1).symm⟩
  refine ⟨century, rest / 1461, min (rest % 1461 / 365) 3, rest % 1461 - 365 * min (rest % 1461 / 365) 3, ?_, hcentury, ?_⟩
  · omega
  · omega

theorem yearOfEra_eq {dayOfEra century quad year day : Nat} (heq : dayOfEra = 36524 * century + 1461 * quad + 365 * year + day)
    (hcentury : century ≤ 3) (hquad : quad ≤ 24) (hyear : year ≤ 3) (hday : day ≤ 365)
    (hlast : day = 365 → year = 3 ∧ (quad = 24 → century = 3)) :
    (dayOfEra - dayOfEra / 1460 + dayOfEra / 36524 - dayOfEra / 146096) / 365 = 100 * century + 4 * quad + year := by
  have hbound : dayOfEra ≤ 36524 * century + 36524 ∧ (dayOfEra < 36524 * century + 36524 ∨ century = 3) := by
    by_cases hleap : day = 365
    · obtain ⟨hthree, hfour⟩ := hlast hleap
      by_cases hq24 : quad = 24
      · have hc3 := hfour hq24
        omega
      · clear hfour hlast
        omega
    · clear hlast
      omega
  obtain ⟨late, hlate, hle, hlt⟩ : ∃ late, dayOfEra / 1460 = 25 * century + quad + late ∧ late ≤ day ∧ day < 365 + late := by
    by_cases hlong : 1460 ≤ 24 * century + quad + 365 * year + day
    · have hthree : year = 3 := by
        clear hlast hbound heq
        omega
      subst hthree
      clear hlast hbound
      refine ⟨1, (Nat.div_eq_iff (by decide)).2 ⟨by omega, by omega⟩, by omega, by omega⟩
    · have hshort : day ≠ 365 := by
        intro hleap
        have hthree := (hlast hleap).1
        clear hlast hbound
        omega
      clear hlast hbound
      refine ⟨0, (Nat.div_eq_iff (by decide)).2 ⟨by omega, by omega⟩, by omega, by omega⟩
  obtain ⟨last, hcenturies, heras⟩ : ∃ last, dayOfEra / 36524 = century + last ∧ dayOfEra / 146096 = last := by
    clear hlast hlate hle hlt
    by_cases hend : dayOfEra = 146096
    · have hthree : century = 3 := by omega
      exact ⟨1, by rw [hend, hthree], by rw [hend]⟩
    · refine ⟨0, (Nat.div_eq_iff (by decide)).2 ⟨by omega, by omega⟩, Nat.div_eq_of_lt (by omega)⟩
  have hdays : dayOfEra - dayOfEra / 1460 + dayOfEra / 36524 - dayOfEra / 146096 =
      (day - late) + 365 * (100 * century + 4 * quad + year) := by
    rw [hlate, hcenturies, heras, heq]
    clear * - hle
    omega
  have hrest : day - late < 365 := by
    clear * - hlt
    omega
  rw [hdays, Nat.add_mul_div_left _ _ (by decide), Nat.div_eq_of_lt hrest, Nat.zero_add]

theorem daysBefore_succ (year : Nat) : daysBefore (year + 1) = daysBefore year + 365 + if isLeap year then 1 else 0 := by
  unfold isLeap daysBefore
  split_ifs with h
  · simp only [decide_eq_true_eq] at h
    omega
  · simp only [decide_eq_true_eq] at h
    omega

theorem yday_spec (days : Nat) : ∃ year : Int, daysBefore year ≤ days ∧ days < daysBefore (year + 1) ∧
    (yday days : Int) = days - daysBefore year := by
  obtain ⟨era, dayOfEra, hera⟩ : ∃ era dayOfEra, era = (days + 719468) / 146097 ∧ dayOfEra = (days + 719468) % 146097 :=
    ⟨_, _, rfl, rfl⟩
  obtain ⟨century, quad, cycle, day, hsum, hcentury, hquad, hcycle, hday, hlast⟩ := exists_cycles (by omega : dayOfEra < 146097)
  have hyoe := yearOfEra_eq hsum hcentury hquad hcycle hday hlast
  have hera' : (days : Int) + 719468 = 146097 * era + dayOfEra := by omega
  obtain ⟨year, hyear⟩ : ∃ year, year = 100 * century + 4 * quad + cycle + era * 400 := ⟨_, rfl⟩
  have hdoy : dayOfEra - (365 * (100 * century + 4 * quad + cycle) + (100 * century + 4 * quad + cycle) / 4 -
    (100 * century + 4 * quad + cycle) / 100) = day := by
    have h4 : (100 * century + 4 * quad + cycle) / 4 = 25 * century + quad := by omega
    have h100 : (100 * century + 4 * quad + cycle) / 100 = century := by omega
    omega
  have hyday : yday days = if 306 ≤ day then day - 306 else day + 59 + if isLeap year then 1 else 0 := by
    simp only [yday, ← hera.1, ← hera.2, hyoe, hdoy, hyear]
  have hmarch : daysBefore (year + 1) = days - day + 306 := by
    have h4 : (year : Int) / 4 = 100 * era + 25 * century + quad := by omega
    have h100 : (year : Int) / 100 = 4 * era + century := by omega
    have h400 : (year : Int) / 400 = era := by omega
    unfold daysBefore
    rw [Int.add_sub_cancel, h4, h100, h400]
    clear hyday hdoy hyoe hlast hera
    omega
  rw [hyday]
  by_cases hnew : 306 ≤ day
  · have hnext := daysBefore_succ (year + 1)
    push_cast at hnext
    refine ⟨year + 1, by omega, ?_, ?_⟩
    · rw [hnext]
      split_ifs <;> omega
    · rw [if_pos hnew]
      omega
  · have hthis := daysBefore_succ year
    refine ⟨year, ?_, ?_, ?_⟩
    · split_ifs at hthis <;> omega
    · split_ifs at hthis <;> omega
    · rw [if_neg hnew]
      split_ifs at hthis ⊢ <;> omega
/-! ### Stamps -/

/-- The minute of the year of a moment in milliseconds. -/
def minuteOfYear (ms : Nat) : Int := ((ms / 1000 : Nat) - yearStart (yearOf (ms / 1000 : Nat))) / 60

/-- The minute of the year and the millisecond of the minute. -/
def Denotes (stamp : Nat × Nat) (ms : Nat) : Prop := (stamp.1 : Int) = minuteOfYear ms ∧ stamp.2 = ms % 60000

def NotAfter (stamp stamp' : Nat × Nat) : Prop := stamp.1 < stamp'.1 ∨ stamp.1 = stamp'.1 ∧ stamp.2 ≤ stamp'.2

/-- A call that returns. It starts with its first read of the clock; the reads for the movements, which are in no stamp, come
between the second one and the end. -/
structure Call where
  object : Ntcip1202
  signalGroupMappingList : List SignalGroupMapping
  intersectionName : Str
  intersectionId : Int
  first : Nat
  second : Nat
  finish : Nat
  forward : first ≤ second ∧ second ≤ finish
  spat : SPAT
  returns : object.ToJ2735r41SPAT ⟨first / 1000, second⟩ signalGroupMappingList intersectionName intersectionId = some spat

def Call.stamps (c : Call) : List (Nat × Nat) := c.spat.intersections.map fun intersection =>
    (intersection.moy, intersection.timeStamp)

/-- Successive calls within a year. -/
structure YearOfCalls where
  calls : List Call
  year : Int
  successive : calls.Pairwise fun c c' => c.finish ≤ c'.first
  within : ∀ c ∈ calls, yearOf (c.first / 1000 : Nat) = year ∧ yearOf (c.finish / 1000 : Nat) = year

structure YearOfCalls.Stamped (r : YearOfCalls) : Prop where
  ordered : (r.calls.flatMap Call.stamps).Pairwise NotAfter
  during : ∀ c ∈ r.calls, ∃ stamp, c.stamps = [stamp] ∧ ∃ ms, c.first ≤ ms ∧ ms ≤ c.finish ∧ Denotes stamp ms

/-- The moment that a stamp is of. -/
def Call.instant (c : Call) : Nat := 1000 * (c.first / 1000) + c.second % 1000

def stampOf (sec ms : Nat) : Nat × Nat :=
  ((gmtime sec).tm_min + (gmtime sec).tm_hour * 60 + (gmtime sec).tm_yday * 24 * 60, 1000 * (sec % 60) + ms % 1000)

theorem Call.stamps_eq (c : Call) : c.stamps = [stampOf (c.first / 1000) c.second] := by
  obtain ⟨states, -, hspat⟩ := Option.bind_eq_some_iff.1 c.returns
  rw [Call.stamps, ← Option.some.inj hspat]
  rfl

theorem yearOf_eq (days : Nat) {seconds : Nat} {year : Int} (hdays : days = seconds / 86400) (hlow : daysBefore year ≤ days)
    (hhigh : days < daysBefore (year + 1)) : yearOf seconds = year := by
  have hlow' := yearStart_yearOf seconds
  have hhigh' := lt_yearStart_yearOf seconds
  rcases lt_trichotomy (yearOf seconds) year with hlt | heq | hgt
  · have hmono := yearStart_mono (Int.add_one_le_of_lt hlt)
    unfold yearStart at hmono hhigh'
    omega
  · exact heq
  · have hmono := yearStart_mono (Int.add_one_le_of_lt hgt)
    unfold yearStart at hmono hlow'
    omega

theorem stampOf_denotes (sec ms : Nat) : Denotes (stampOf sec ms) (1000 * sec + ms % 1000) := by
  obtain ⟨year, hlow, hhigh, hyday⟩ := yday_spec (sec / 86400)
  have hsec : (1000 * sec + ms % 1000) / 1000 = sec := by omega
  have hyear : yearOf sec = year := yearOf_eq (sec / 86400) rfl hlow hhigh
  refine ⟨?_, ?_⟩
  · have hmoy : (stampOf sec ms).1 = sec / 60 % 60 + sec / 3600 % 24 * 60 + yday (sec / 86400) * 24 * 60 := rfl
    rw [minuteOfYear, hsec, hyear, yearStart, hmoy]
    generalize yday (sec / 86400) = day at hyday ⊢
    omega
  · simp only [stampOf]
    omega

/-- Within a year the stamps are in the order of the moments. -/
theorem notAfter_iff {stamp stamp' : Nat × Nat} {ms ms' : Nat} (h : Denotes stamp ms) (h' : Denotes stamp' ms')
    (hyear : yearOf (ms / 1000 : Nat) = yearOf (ms' / 1000 : Nat)) : NotAfter stamp stamp' ↔ ms ≤ ms' := by
  have hlow := yearStart_yearOf (ms / 1000 : Nat)
  have hlow' := yearStart_yearOf (ms' / 1000 : Nat)
  obtain ⟨hmin, hms⟩ := h
  obtain ⟨hmin', hms'⟩ := h'
  unfold minuteOfYear at hmin hmin'
  unfold NotAfter
  rw [← hyear] at hmin' hlow'
  generalize yearOf (ms / 1000 : Nat) = year at *
  unfold yearStart at *
  omega

theorem Call.denotes (c : Call) : Denotes (stampOf (c.first / 1000) c.second) c.instant := stampOf_denotes _ _

theorem Call.instant_le (c : Call) : c.instant ≤ c.second := by
  have hmono := Nat.div_le_div_right c.forward.1 (c := 1000)
  unfold Call.instant
  omega

theorem Call.le_instant_iff (c : Call) : c.first ≤ c.instant ↔ c.first % 1000 ≤ c.second % 1000 := by
  unfold Call.instant
  omega

theorem YearOfCalls.yearOf_between (r : YearOfCalls) {c : Call} (hc : c ∈ r.calls) {sec : Nat} (hfirst : c.first / 1000 ≤ sec)
    (hfinish : sec ≤ c.finish / 1000) : yearOf sec = r.year := by
  obtain ⟨hstart, hend⟩ := r.within c hc
  have hlow := yearStart_yearOf (c.first / 1000 : Nat)
  have hhigh := lt_yearStart_yearOf (c.finish / 1000 : Nat)
  rw [hstart] at hlow
  rw [hend] at hhigh
  refine yearOf_eq (sec / 86400) rfl ?_ ?_
  · unfold yearStart at hlow
    omega
  · unfold yearStart at hhigh
    omega

theorem YearOfCalls.yearOf_instant (r : YearOfCalls) {c : Call} (hc : c ∈ r.calls) : yearOf (c.instant / 1000 : Nat) = r.year := by
  have hsec : c.instant / 1000 = c.first / 1000 := by
    unfold Call.instant
    omega
  rw [hsec]
  exact r.yearOf_between hc le_rfl (Nat.div_le_div_right (c.forward.1.trans c.forward.2))

/-- A stamp is of one moment of its year. -/
theorem Denotes.unique {stamp : Nat × Nat} {ms ms' : Nat} (h : Denotes stamp ms) (h' : Denotes stamp ms')
    (hyear : yearOf (ms / 1000 : Nat) = yearOf (ms' / 1000 : Nat)) : ms = ms' :=
  le_antisymm ((notAfter_iff h h' hyear).1 (Or.inr ⟨rfl, le_rfl⟩)) ((notAfter_iff h' h hyear.symm).1 (Or.inr ⟨rfl, le_rfl⟩))

/-- The stamps of the calls of a year are in order and each is of a moment of its call, iff at no call the millisecond of the
second read is less than that of the first one. -/
theorem spatStamps_iff (r : YearOfCalls) : r.Stamped ↔ ∀ c ∈ r.calls, c.first % 1000 ≤ c.second % 1000 := by
  constructor
  · intro h c hc
    obtain ⟨stamp, hstamp, ms, hfirst, hfinish, hdenotes⟩ := h.during c hc
    rw [c.stamps_eq] at hstamp
    obtain rfl := (List.cons.inj hstamp).1
    have hyear := r.yearOf_between hc (Nat.div_le_div_right hfirst) (Nat.div_le_div_right hfinish)
    have hinstant := c.denotes.unique hdenotes ((r.yearOf_instant hc).trans hyear.symm)
    rw [← c.le_instant_iff, hinstant]
    exact hfirst
  · intro h
    refine ⟨?_, ?_⟩
    · have hstamps : r.calls.flatMap Call.stamps = r.calls.map fun c => stampOf (c.first / 1000) c.second := by
        rw [List.map_eq_flatMap]
        exact List.flatMap_congr fun c _ => c.stamps_eq
      rw [hstamps, List.pairwise_map]
      refine r.successive.imp_of_mem fun {c c'} hc hc' hsucc => ?_
      rw [notAfter_iff c.denotes c'.denotes ((r.yearOf_instant hc).trans (r.yearOf_instant hc').symm)]
      calc c.instant ≤ c.second := c.instant_le
        _ ≤ c.finish := c.forward.2
        _ ≤ c'.first := hsucc
        _ ≤ c'.instant := c'.le_instant_iff.2 (h c' hc')
    · intro c hc
      exact ⟨_, c.stamps_eq, c.instant, c.le_instant_iff.2 (h c hc), c.instant_le.trans c.forward.2, c.denotes⟩

/-- A call without signal groups. -/
def emptyCall (first second : Nat) (h : first ≤ second) : Call where
  object := ⟨Ntcip1202Ext.ofMemory fun _ => 0, OrdMap.empty⟩
  signalGroupMappingList := []
  intersectionName := []
  intersectionId := 0
  first := first
  second := second
  finish := second
  forward := ⟨h, le_rfl⟩
  spat := ⟨[⟨[], 0, 1, (stampOf (first / 1000) second).1, (stampOf (first / 1000) second).2, (0, 0), []⟩]⟩
  returns := rfl

/-- A second begins between the two reads of the second call. -/
def secondBegins : YearOfCalls where
  calls := [emptyCall 1000 1500 (by decide), emptyCall 1600 2000 (by decide)]
  year := 1970
  successive := by
    rw [List.pairwise_pair]
    decide
  within := by decide

/-- The stamp of the second call is before its start, and before the stamp of the first call. -/
theorem spatStamps_fails : secondBegins.calls.map Call.stamps = [[(0, 1500)], [(0, 1000)]] ∧ ¬ secondBegins.Stamped := by
  refine ⟨by decide, fun h => ?_⟩
  have hordered : [(0, 1500), (0, 1000)].Pairwise NotAfter := h.ordered
  have hstamps := List.rel_of_pairwise_cons hordered (List.mem_singleton_self _)
  unfold NotAfter at hstamps
  omega

end V2xHub.SpatPlugin
