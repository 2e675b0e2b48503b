import V2xHub.CARMACloudPlugin.Acknowledge
import Mathlib.Data.List.Dedup

/-!
# Timeout and repeat budget of traffic control messages

The starting time of an id and the counters of its payloads outlive an acknowledgement. As long as each starting time
has a stored TCM that was seen at it, and each counter counts for one stored TCM only, no TCM expires or is skipped
early (`timeout_and_budget`).
-/

namespace V2xHub.CARMACloudPlugin
namespace State
variable {decode : Str → Option Int} {s t : State decode} {l : List (Entry decode)} {e : Entry decode}

/-- A TCM of the id was seen at the time, or before. -/
def SeenBy (l : List (Entry decode)) (k : Str) (time : Int) : Prop :=
  ∃ e ∈ l, e.key = k ∧ ∃ f, e.firstSeen = some f ∧ f ≤ time

/-- The counter is for the TCM. -/
def Counts (c : Str × TCMBroadcastMetadata) (t : Tcm decode) : Prop :=
  c.1 = t.tcmv01_req_id_hex ∧ c.2.tcm_hex = t.payload

/-- What the starting times and the counters say about the TCMs of a list. -/
structure Owned (s : State decode) (l : List (Entry decode)) : Prop where
  seen : ∀ e ∈ l, ∀ f, e.firstSeen = some f → f ≤ s.clock
  start : ∀ k time, s._tcm_broadcast_starting_time k = some time → (∀ e ∈ l, e.key ≠ k) ∨ SeenBy l k time
  expired : ∀ x ∈ s.expired_req_ids, ∃ e ∈ l, e.key = x.reqid ∧ ∃ f, e.firstSeen = some f ∧ x.cur_time - f > x.timeout
  unique : (l.map fun e => (e.key, e.tcm.payload)).Nodup
  counted : ∀ e ∈ l, ∀ c ∈ s._tcm_broadcast_times, Counts c e.tcm → c.2.num_of_times = e.rebroadcasts
  uncounted : ∀ e ∈ l, (∀ c ∈ s._tcm_broadcast_times, ¬ Counts c e.tcm) → e.rebroadcasts = 0

/-- An id only expires for a TCM that was pending for longer than the timeout since it was first seen, and a TCM is only
skipped once it was rebroadcast the configured number of times. -/
structure Fair (s : State decode) : Prop where
  timeout : ∀ k ∈ s.expiredIds, ∃ x ∈ s.expired_req_ids, x.reqid = k ∧ ∃ e ∈ s.entries, e.key = k ∧
    ∃ f, e.firstSeen = some f ∧ x.cur_time - f > x.timeout
  budget : ∀ e ∈ s.entries, s.isSkip e.key e.tcm.payload →
    s.settings._TCMRepeatedlyBroadCastTotalTimes ≤ e.rebroadcasts

theorem isSkip_iff {t : Tcm decode} :
    s.isSkip t.tcmv01_req_id_hex t.payload ↔ s.settings._TCMRepeatedlyBroadCastTotalTimes = 0 ∨
      ∃ c ∈ s._tcm_broadcast_times, Counts c t ∧ s.settings._TCMRepeatedlyBroadCastTotalTimes ≤ c.2.num_of_times := by
  unfold isSkip Counts
  simp [and_assoc]

theorem Owned.of_eq {s' : State decode} (h : s.Owned l) (hclock : s.clock ≤ s'.clock)
    (hstart : s'._tcm_broadcast_starting_time = s._tcm_broadcast_starting_time)
    (hexpired : s'.expired_req_ids = s.expired_req_ids)
    (htimes : s'._tcm_broadcast_times = s._tcm_broadcast_times) : s'.Owned l where
  seen := fun e he f hf => (h.seen e he f hf).trans hclock
  start := by
    rw [hstart]
    exact h.start
  expired := by
    rw [hexpired]
    exact h.expired
  unique := h.unique
  counted := by
    rw [htimes]
    exact h.counted
  uncounted := by
    rw [htimes]
    exact h.uncounted

theorem mem_expiredIds {k : Str} : k ∈ s.expiredIds ↔ ∃ x ∈ s.expired_req_ids, x.reqid = k := by
  unfold expiredIds
  rw [List.mem_insertionSort, List.mem_dedup, List.mem_map]

theorem Owned.fair (h : s.Owned s.entries) : s.Fair where
  timeout := by
    intro k hk
    obtain ⟨x, hx, rfl⟩ := mem_expiredIds.1 hk
    exact ⟨x, hx, rfl, h.expired x hx⟩
  budget := by
    intro e he hskip
    rcases isSkip_iff.1 hskip with hzero | ⟨c, hc, hcounts, hle⟩
    · rw [hzero]
      exact Int.natCast_nonneg _
    · rw [← h.counted e he c hc hcounts]
      exact hle

/-! ### The counters -/

/-- A counter behind `IsSkipBroadcastCurTCM`. -/
def bump (total : Int) (t : Tcm decode) (c : Str × TCMBroadcastMetadata) : Str × TCMBroadcastMetadata :=
  if c.1 = t.tcmv01_req_id_hex then (c.1, c.2.count total t.payload) else c

theorem bump_counts {total : Int} {x t : Tcm decode} {c : Str × TCMBroadcastMetadata} :
    Counts (bump total x c) t ↔ Counts c t := by
  unfold bump TCMBroadcastMetadata.count Counts
  split
  · split <;> rfl
  · rfl

theorem bump_of_not_counts {total : Int} {t : Tcm decode} {c : Str × TCMBroadcastMetadata} (h : ¬ Counts c t) :
    bump total t c = c := by
  unfold bump TCMBroadcastMetadata.count
  split
  · rename_i hkey
    rw [if_neg fun hhex => h ⟨hkey, hhex.1⟩]
  · rfl

theorem bump_num_of_times {total : Int} {t : Tcm decode} {c : Str × TCMBroadcastMetadata} (h : Counts c t) :
    (bump total t c).2.num_of_times = if total ≤ c.2.num_of_times then c.2.num_of_times else c.2.num_of_times + 1 := by
  unfold bump TCMBroadcastMetadata.count
  rw [if_pos h.1]
  by_cases hle : total ≤ c.2.num_of_times
  · rw [if_neg fun hand => hand.2 hle, if_pos hle]
  · rw [if_pos ⟨h.2, hle⟩, if_neg hle]

theorem countBroadcast_eq (t : Tcm decode) :
    s.countBroadcast t.tcmv01_req_id_hex t.payload =
      if s.settings._TCMRepeatedlyBroadCastTotalTimes = 0 then s._tcm_broadcast_times
      else if s._tcm_broadcast_times.any fun c => c.1 = t.tcmv01_req_id_hex && c.2.tcm_hex = t.payload then
        s._tcm_broadcast_times.map (bump s.settings._TCMRepeatedlyBroadCastTotalTimes t)
      else s._tcm_broadcast_times ++ [(t.tcmv01_req_id_hex, ⟨t.payload, 1⟩)] := rfl

/-- The counters of other TCMs stay. -/
theorem mem_countBroadcast_of_not_counts {x : Tcm decode} {c : Str × TCMBroadcastMetadata} (hc : ¬ Counts c x) :
    c ∈ s.countBroadcast x.tcmv01_req_id_hex x.payload ↔ c ∈ s._tcm_broadcast_times := by
  rw [countBroadcast_eq]
  split
  · rfl
  · split
    · rw [List.mem_map]
      constructor
      · rintro ⟨c', hc', rfl⟩
        rw [bump_counts] at hc
        rwa [bump_of_not_counts hc]
      · intro h
        exact ⟨c, h, bump_of_not_counts hc⟩
    · rw [List.mem_append, List.mem_singleton]
      refine or_iff_left ?_
      rintro rfl
      exact hc ⟨rfl, rfl⟩

/-- The counter of the TCM says what it said, and one more unless the TCM is skipped. -/
theorem countBroadcast_of_counts {x : Tcm decode} {r : Nat}
    (hcounted : ∀ c ∈ s._tcm_broadcast_times, Counts c x → c.2.num_of_times = r)
    (huncounted : (∀ c ∈ s._tcm_broadcast_times, ¬ Counts c x) → r = 0) :
    (∀ c ∈ s.countBroadcast x.tcmv01_req_id_hex x.payload, Counts c x →
      c.2.num_of_times = if s.isSkip x.tcmv01_req_id_hex x.payload then (r : Int) else r + 1) ∧
    ((∀ c ∈ s.countBroadcast x.tcmv01_req_id_hex x.payload, ¬ Counts c x) →
      s.isSkip x.tcmv01_req_id_hex x.payload ∧ r = 0) := by
  rw [countBroadcast_eq]
  by_cases hzero : s.settings._TCMRepeatedlyBroadCastTotalTimes = 0
  · have hskip : s.isSkip x.tcmv01_req_id_hex x.payload := isSkip_iff.2 (.inl hzero)
    rw [if_pos hzero]
    refine ⟨fun c hc hcounts => ?_, fun h => ⟨hskip, huncounted h⟩⟩
    rw [if_pos hskip]
    exact hcounted c hc hcounts
  · rw [if_neg hzero]
    by_cases hfound : s._tcm_broadcast_times.any fun c => c.1 = x.tcmv01_req_id_hex && c.2.tcm_hex = x.payload
    · rw [if_pos hfound]
      obtain ⟨c₀, hc₀, hcounts₀⟩ : ∃ c ∈ s._tcm_broadcast_times, Counts c x := by
        simpa [Counts] using hfound
      have hskip : s.isSkip x.tcmv01_req_id_hex x.payload ↔ s.settings._TCMRepeatedlyBroadCastTotalTimes ≤ r := by
        rw [isSkip_iff, or_iff_right hzero]
        constructor
        · rintro ⟨c, hc, hcounts, hle⟩
          rwa [hcounted c hc hcounts] at hle
        · intro hle
          refine ⟨c₀, hc₀, hcounts₀, ?_⟩
          rwa [hcounted c₀ hc₀ hcounts₀]
      constructor
      · intro c hc hcounts
        obtain ⟨c', hc', rfl⟩ := List.mem_map.1 hc
        rw [bump_counts] at hcounts
        rw [bump_num_of_times hcounts, hcounted c' hc' hcounts]
        simp only [hskip]
      · intro h
        exact absurd (bump_counts.2 hcounts₀) (h _ (List.mem_map_of_mem hc₀))
    · rw [if_neg hfound]
      have hnone : ∀ c ∈ s._tcm_broadcast_times, ¬ Counts c x := by
        intro c hc hcounts
        exact hfound (List.any_eq_true.2 ⟨c, hc, by simp [hcounts.1, hcounts.2]⟩)
      have hskip : ¬ s.isSkip x.tcmv01_req_id_hex x.payload := by
        rw [isSkip_iff, or_iff_right hzero]
        rintro ⟨c, hc, hcounts, -⟩
        exact hnone c hc hcounts
      constructor
      · intro c hc hcounts
        rcases List.mem_append.1 hc with hc | hc
        · exact absurd hcounts (hnone c hc)
        · rw [List.mem_singleton.1 hc, if_neg hskip, huncounted hnone]
          rfl
      · intro h
        exact absurd ⟨rfl, rfl⟩ (h _ (List.mem_append_right _ (List.mem_singleton_self _)))

/-! ### One TCM visited -/

theorem mem_middle {a b : List (Entry decode)} {x : Entry decode} :
    x ∈ a ++ e :: b ↔ x = e ∨ x ∈ a ++ b := by
  rw [List.mem_append, List.mem_cons, List.mem_append]
  tauto

/-- A TCM seen by some time stays so where its place is taken by the same TCM, seen then. -/
theorem SeenBy.replace {a b : List (Entry decode)} {e' : Entry decode} {k : Str} {time : Int} (hkey : e'.key = e.key)
    (hseen : ∀ f, e.firstSeen = some f → e'.firstSeen = some f) (h : SeenBy (a ++ e :: b) k time) :
    SeenBy (a ++ e' :: b) k time := by
  obtain ⟨x, hx, hk, f, hf, hle⟩ := h
  rcases mem_middle.1 hx with rfl | hx
  · exact ⟨e', mem_middle.2 (.inl rfl), hkey.trans hk, f, hseen f hf, hle⟩
  · exact ⟨x, mem_middle.2 (.inr hx), hk, f, hf, hle⟩

/-- The TCM in a place may be seen and counted on. -/
theorem Owned.replace {s' : State decode} {a b : List (Entry decode)} {e' : Entry decode} (h : s.Owned (a ++ e :: b))
    (htcm : e'.tcm = e.tcm) (hkeep : ∀ f, e.firstSeen = some f → e'.firstSeen = some f)
    (hseen : ∀ f, e'.firstSeen = some f → f ≤ s'.clock) (hclock : s.clock ≤ s'.clock)
    (hstart : s'._tcm_broadcast_starting_time = s._tcm_broadcast_starting_time)
    (hexpired : s'.expired_req_ids = s.expired_req_ids)
    (hcounted : ∀ x ∈ a ++ e' :: b, ∀ c ∈ s'._tcm_broadcast_times, Counts c x.tcm → c.2.num_of_times = x.rebroadcasts)
    (huncounted : ∀ x ∈ a ++ e' :: b, (∀ c ∈ s'._tcm_broadcast_times, ¬ Counts c x.tcm) → x.rebroadcasts = 0) :
    s'.Owned (a ++ e' :: b) := by
  have hkey : e'.key = e.key := by rw [Entry.key, htcm]
  refine ⟨?_, ?_, ?_, ?_, hcounted, huncounted⟩
  · intro x hx f hf
    rcases mem_middle.1 hx with rfl | hx
    · exact hseen f hf
    · exact (h.seen x (mem_middle.2 (.inr hx)) f hf).trans hclock
  · intro k time hk
    rw [hstart] at hk
    rcases h.start k time hk with hnone | hby
    · refine .inl fun x hx => ?_
      rcases mem_middle.1 hx with rfl | hx
      · rw [hkey]
        exact hnone e (mem_middle.2 (.inl rfl))
      · exact hnone x (mem_middle.2 (.inr hx))
    · exact .inr (hby.replace hkey hkeep)
  · intro x hx
    rw [hexpired] at hx
    obtain ⟨y, hy, hid, f, hf, hlt⟩ := h.expired x hx
    rcases mem_middle.1 hy with rfl | hy
    · exact ⟨e', mem_middle.2 (.inl rfl), hkey.trans hid, f, hkeep f hf, hlt⟩
    · exact ⟨y, mem_middle.2 (.inr hy), hid, f, hf, hlt⟩
  · have hunique := h.unique
    rw [List.map_append, List.map_cons] at hunique ⊢
    rwa [hkey, htcm]

/-- The TCM under the iterator is seen. -/
theorem Owned.see {a b : List (Entry decode)} (h : s.Owned (a ++ e :: b)) : s.Owned (a ++ e.see s.clock :: b) := by
  have hkeep : ∀ f, e.firstSeen = some f → (e.see s.clock).firstSeen = some f := by
    intro f hf
    unfold Entry.see
    rw [hf]
    rfl
  refine h.replace rfl hkeep ?_ le_rfl rfl rfl ?_ ?_
  · intro f hf
    cases hfirst : e.firstSeen with
    | none =>
      unfold Entry.see at hf
      rw [hfirst, Option.none_or, Option.some.injEq] at hf
      rw [hf]
    | some f' =>
      rw [hkeep f' hfirst, Option.some.injEq] at hf
      rw [← hf]
      exact h.seen e (mem_middle.2 (.inl rfl)) f' hfirst
  · intro x hx
    rcases mem_middle.1 hx with rfl | hx
    · exact h.counted e (mem_middle.2 (.inl rfl))
    · exact h.counted x (mem_middle.2 (.inr hx))
  · intro x hx
    rcases mem_middle.1 hx with rfl | hx
    · exact h.uncounted e (mem_middle.2 (.inl rfl))
    · exact h.uncounted x (mem_middle.2 (.inr hx))

/-- Two TCMs of a list have different counters. -/
theorem Owned.not_counts {a b : List (Entry decode)} (h : s.Owned (a ++ e :: b)) {x : Entry decode} (hx : x ∈ a ++ b)
    {c : Str × TCMBroadcastMetadata} (hcx : Counts c x.tcm) : ¬ Counts c e.tcm := by
  intro hce
  have hnodup := h.unique
  rw [List.map_append, List.map_cons, List.nodup_middle, ← List.map_append, List.nodup_cons] at hnodup
  refine hnodup.1 (List.mem_map.2 ⟨x, hx, ?_⟩)
  rw [Prod.mk.injEq]
  exact ⟨hcx.1.symm.trans hce.1, hcx.2.symm.trans hce.2⟩

theorem Owned.rebroadcast (h : s.Owned (s.visited ++ e :: s._not_ACK_TCMs)) :
    (s.rebroadcast e).Owned (s.rebroadcast e).entries := by
  obtain ⟨hcounted, huncounted⟩ := countBroadcast_of_counts
    (h.counted e (mem_middle.2 (.inl rfl))) (h.uncounted e (mem_middle.2 (.inl rfl)))
  -- the TCM in its place, with its rebroadcasts behind the loop body
  obtain ⟨r, hr, heq⟩ : ∃ r : Nat, (r : Int) = (if s.isSkip e.key e.tcm.payload then (e.rebroadcasts : Int)
      else e.rebroadcasts + 1) ∧ (s.rebroadcast e).visited = s.visited ++ [{ e with rebroadcasts := r }] := by
    unfold State.rebroadcast
    by_cases hskip : s.isSkip e.key e.tcm.payload
    · rw [if_pos hskip, if_pos hskip]
      exact ⟨e.rebroadcasts, rfl, rfl⟩
    · rw [if_neg hskip, if_neg hskip]
      exact ⟨e.rebroadcasts + 1, rfl, rfl⟩
  obtain ⟨htcms, hclock, hstart, hexpired, htimes⟩ : (s.rebroadcast e)._not_ACK_TCMs = s._not_ACK_TCMs ∧
      (s.rebroadcast e).clock = s.clock ∧
      (s.rebroadcast e)._tcm_broadcast_starting_time = s._tcm_broadcast_starting_time ∧
      (s.rebroadcast e).expired_req_ids = s.expired_req_ids ∧
      (s.rebroadcast e)._tcm_broadcast_times = s.countBroadcast e.key e.tcm.payload := by
    unfold State.rebroadcast
    split <;> exact ⟨rfl, rfl, rfl, rfl, rfl⟩
  unfold entries
  rw [heq, htcms, List.append_assoc, List.singleton_append]
  refine h.replace rfl (fun f hf => hf) ?_ hclock.ge hstart hexpired ?_ ?_
  · rw [hclock]
    exact h.seen e (mem_middle.2 (.inl rfl))
  · intro x hx c hc hcounts
    rw [htimes] at hc
    rcases mem_middle.1 hx with rfl | hx
    · exact (hcounted c hc hcounts).trans hr.symm
    · refine h.counted x (mem_middle.2 (.inr hx)) c ?_ hcounts
      exact (mem_countBroadcast_of_not_counts (h.not_counts hx hcounts)).1 hc
  · intro x hx hnone
    rw [htimes] at hnone
    rcases mem_middle.1 hx with rfl | hx
    · obtain ⟨hskip, hzero⟩ := huncounted hnone
      rw [if_pos hskip, hzero] at hr
      exact Int.natCast_eq_zero.1 hr
    · refine h.uncounted x (mem_middle.2 (.inr hx)) fun c hc hcounts => ?_
      exact hnone c ((mem_countBroadcast_of_not_counts (h.not_counts hx hcounts)).2 hc) hcounts

/-- The starting time of an id is set at a TCM that is seen. -/
theorem Owned.setStart {a b : List (Entry decode)} {f : Int} (h : s.Owned (a ++ e :: b)) (hf : e.firstSeen = some f) :
    Owned { s with _tcm_broadcast_starting_time :=
      Function.update s._tcm_broadcast_starting_time e.key (some s.clock) } (a ++ e :: b) where
  seen := h.seen
  start := by
    intro k time hk
    change Function.update s._tcm_broadcast_starting_time e.key (some s.clock) k = some time at hk
    by_cases hkey : k = e.key
    · subst hkey
      rw [Function.update_self, Option.some.injEq] at hk
      have he : e ∈ a ++ e :: b := mem_middle.2 (.inl rfl)
      exact .inr ⟨e, he, rfl, f, hf, hk ▸ h.seen e he f hf⟩
    · rw [Function.update_of_ne hkey] at hk
      exact h.start k time hk
  expired := h.expired
  unique := h.unique
  counted := h.counted
  uncounted := h.uncounted

theorem Owned.visit (h : s.Owned (s.visited ++ e :: s._not_ACK_TCMs)) :
    (s.visit e s.clock).Owned (s.visit e s.clock).entries := by
  obtain ⟨f, hf⟩ : ∃ f, (e.see s.clock).firstSeen = some f := by
    unfold Entry.see
    cases e.firstSeen with
    | none => exact ⟨s.clock, rfl⟩
    | some f => exact ⟨f, rfl⟩
  unfold State.visit
  cases hstart : s._tcm_broadcast_starting_time e.key with
  | none => exact Owned.rebroadcast (h.see.setStart hf)
  | some starting_time =>
    dsimp only
    by_cases hexp : s.clock - starting_time > s.settings._TCMRepeatedlyBroadcastTimeOut.val
    · rw [if_pos hexp]
      unfold entries
      rw [List.append_assoc, List.singleton_append]
      refine ⟨h.see.seen, h.see.start, ?_, h.see.unique, h.see.counted, h.see.uncounted⟩
      intro x hx
      rcases List.mem_append.1 hx with hx | hx
      · exact h.see.expired x hx
      · rw [List.mem_singleton.1 hx]
        rcases h.see.start e.key starting_time hstart with hnone | ⟨y, hy, hkey, f', hf', hle⟩
        · exact absurd rfl (hnone (e.see s.clock) (mem_middle.2 (.inl rfl)))
        · refine ⟨y, hy, hkey, f', hf', ?_⟩
          have hle' : s.clock - starting_time ≤ s.clock - f' := by omega
          exact lt_of_lt_of_le hexp hle'
    · rw [if_neg hexp]
      exact Owned.rebroadcast h.see

/-! ### One step -/

/-- A TCM is stored for an id without a starting time, or with a TCM stored, and its payload is not stored or counted. -/
def StoresNew (s : State decode) : Prop :=
  ∀ t, s.incoming = some t →
    (s._tcm_broadcast_starting_time t.tcmv01_req_id_hex = none ∨
      ∃ e ∈ s._not_ACK_TCMs, e.key = t.tcmv01_req_id_hex) ∧
    (∀ e ∈ s._not_ACK_TCMs, e.key = t.tcmv01_req_id_hex → e.tcm.payload ≠ t.payload) ∧
    ∀ c ∈ s._tcm_broadcast_times, ¬ Counts c t

/-- Behind the erased TCM either none of its id is left, or one that was seen by the starting time. -/
def KeepsSeen (s : State decode) (m : MobilityOperation) : Prop :=
  ∀ a e b, s._not_ACK_TCMs = a ++ e :: b → s.settings.isAcknowledgement m → m.For e.tcm.reqid e.tcm.msgnum →
    (decode e.tcm.payload).isSome →
    (∀ x ∈ a, x.key = e.key → (decode x.tcm.payload).isSome ∧ x.tcm.msgnum ≠ e.tcm.msgnum) →
    ∀ time, s._tcm_broadcast_starting_time e.key = some time →
      (∀ x ∈ a ++ b, x.key ≠ e.key) ∨ SeenBy (a ++ b) e.key time

/-- The order of events in which the starting times and the counters belong to stored TCMs. -/
def Orderly (s : State decode) : Event decode → Prop
  | .store => s.StoresNew
  | .mobilityOperation m => s.KeepsSeen m
  | _ => True

/-- Between the visits no TCM is behind the iterator and no id expired. -/
structure Between (s : State decode) : Prop where
  visited : s.visited = []
  expired_req_ids : s.expired_req_ids = []

/-- What holds in every run whose steps are orderly. -/
structure Invariant (s : State decode) : Prop where
  owned : s.Owned s.entries
  between : s.phase ≠ .visiting → s.Between

theorem Owned.insert {x : Tcm decode} (h : s.Owned s._not_ACK_TCMs) (hnew : s.StoresNew) (hincoming : s.incoming = some x) :
    s.Owned (CARMACloudPlugin.insert ⟨x, none, 0⟩ s._not_ACK_TCMs) := by
  obtain ⟨hstart, hpayload, hcount⟩ := hnew x hincoming
  have hperm : (CARMACloudPlugin.insert ⟨x, none, 0⟩ s._not_ACK_TCMs).Perm (⟨x, none, 0⟩ :: s._not_ACK_TCMs) :=
    List.perm_orderedInsert ..
  have hmem : ∀ e, e ∈ CARMACloudPlugin.insert ⟨x, none, 0⟩ s._not_ACK_TCMs ↔ e = ⟨x, none, 0⟩ ∨ e ∈ s._not_ACK_TCMs := by
    intro e
    rw [hperm.mem_iff, List.mem_cons]
  refine ⟨?_, ?_, ?_, ?_, ?_, ?_⟩
  · intro e he f hf
    rcases (hmem e).1 he with rfl | he
    · cases hf
    · exact h.seen e he f hf
  · intro k time hk
    rcases h.start k time hk with hnone | ⟨e, he, hseen⟩
    · refine .inl fun e he => ?_
      rcases (hmem e).1 he with rfl | he
      · rintro rfl
        rcases hstart with hstart | ⟨e, he, hkey⟩
        · rw [hstart] at hk
          cases hk
        · exact hnone e he hkey
      · exact hnone e he
    · exact .inr ⟨e, (hmem e).2 (.inr he), hseen⟩
  · intro y hy
    obtain ⟨e, he, hexp⟩ := h.expired y hy
    exact ⟨e, (hmem e).2 (.inr he), hexp⟩
  · rw [(hperm.map _).nodup_iff, List.map_cons, List.nodup_cons]
    refine ⟨?_, h.unique⟩
    rw [List.mem_map]
    rintro ⟨e, he, heq⟩
    rw [Prod.mk.injEq] at heq
    exact hpayload e he heq.1 heq.2
  · intro e he c hc hcounts
    rcases (hmem e).1 he with rfl | he
    · exact absurd hcounts (hcount c hc)
    · exact h.counted e he c hc hcounts
  · intro e he hnone
    rcases (hmem e).1 he with rfl | he
    · rfl
    · exact h.uncounted e he hnone

/-- One TCM less. -/
theorem Owned.erase {a b : List (Entry decode)} (h : s.Owned (a ++ e :: b)) (hexpired : s.expired_req_ids = [])
    (hstart : ∀ time, s._tcm_broadcast_starting_time e.key = some time →
      (∀ x ∈ a ++ b, x.key ≠ e.key) ∨ SeenBy (a ++ b) e.key time) : s.Owned (a ++ b) where
  seen := fun x hx => h.seen x (mem_middle.2 (.inr hx))
  start := by
    intro k time hk
    by_cases hkey : k = e.key
    · subst hkey
      exact hstart time hk
    · rcases h.start k time hk with hnone | ⟨x, hx, hid, hseen⟩
      · exact .inl fun x hx => hnone x (mem_middle.2 (.inr hx))
      · rcases mem_middle.1 hx with rfl | hx
        · exact absurd hid.symm hkey
        · exact .inr ⟨x, hx, hid, hseen⟩
  expired := by
    intro x hx
    rw [hexpired] at hx
    cases hx
  unique := by
    have hunique := h.unique
    rw [List.map_append, List.map_cons, List.nodup_middle, ← List.map_append, List.nodup_cons] at hunique
    exact hunique.2
  counted := fun x hx => h.counted x (mem_middle.2 (.inr hx))
  uncounted := fun x hx => h.uncounted x (mem_middle.2 (.inr hx))

/-- Without the TCMs, the starting times and the counters of the expired ids. -/
theorem Owned.expire (h : s.Owned s.visited) : s.expire.Owned s.expire._not_ACK_TCMs where
  seen := fun e he => h.seen e (List.mem_of_mem_filter he)
  start := by
    intro k time hk
    change (if k ∈ s.expiredIds then none else s._tcm_broadcast_starting_time k) = some time at hk
    obtain ⟨hkey, hk⟩ := Option.ite_none_left_eq_some.1 hk
    rcases h.start k time hk with hnone | ⟨e, he, hid, hseen⟩
    · exact .inl fun e he => hnone e (List.mem_of_mem_filter he)
    · refine .inr ⟨e, List.mem_filter.2 ⟨he, ?_⟩, hid, hseen⟩
      rw [decide_eq_true_eq, hid]
      exact hkey
  expired := fun x hx => absurd hx List.not_mem_nil
  unique := h.unique.sublist (List.filter_sublist.map _)
  counted := fun e he c hc => h.counted e (List.mem_of_mem_filter he) c (List.mem_of_mem_filter hc)
  uncounted := by
    intro e he hnone
    obtain ⟨he, hkey⟩ := List.mem_filter.1 he
    refine h.uncounted e he fun c hc hcounts => ?_
    refine hnone c (List.mem_filter.2 ⟨hc, ?_⟩) hcounts
    rw [hcounts.1]
    exact hkey

theorem Invariant.entries_eq (h : s.Invariant) (hphase : s.phase ≠ .visiting) : s.entries = s._not_ACK_TCMs := by
  unfold entries
  rw [(h.between hphase).visited, List.nil_append]

theorem Invariant.of_between (howned : s.Owned s._not_ACK_TCMs) (h : s.Between) : s.Invariant := by
  refine ⟨?_, fun _ => h⟩
  unfold entries
  rwa [h.visited, List.nil_append]

theorem invariant_step {ev : Event decode} (hI : s.Invariant) (horderly : s.Orderly ev) (h : s.step ev = some t) :
    t.Invariant := by
  have hne : ∀ {p}, s.phase = p → p ≠ .visiting → s.phase ≠ .visiting := fun hp hne => hp ▸ hne
  cases step_cases h with
  | configure settings =>
    exact ⟨hI.owned.of_eq le_rfl rfl rfl rfl, fun hp => ⟨(hI.between hp).1, (hI.between hp).2⟩⟩
  | receive x hincoming =>
    exact ⟨hI.owned.of_eq le_rfl rfl rfl rfl, fun hp => ⟨(hI.between hp).1, (hI.between hp).2⟩⟩
  | store x hincoming hphase =>
    have howned := hI.owned
    rw [hI.entries_eq hphase] at howned
    have hbetween := hI.between hphase
    unfold State.store
    by_cases hlen : x.tcmv01_req_id_hex.length > 0
    · rw [if_pos hlen]
      exact .of_between ((howned.insert horderly hincoming).of_eq le_rfl rfl rfl rfl) ⟨hbetween.1, hbetween.2⟩
    · rw [if_neg hlen]
      exact .of_between (howned.of_eq le_rfl rfl rfl rfl) ⟨hbetween.1, hbetween.2⟩
  | acknowledge m hphase =>
    have howned := hI.owned
    rw [hI.entries_eq hphase] at howned
    have hbetween := hI.between hphase
    obtain ⟨tcms, out, heq, -, hstored⟩ := s.handle_cases m
    rw [heq]
    refine .of_between ?_ ⟨hbetween.1, hbetween.2⟩
    rcases hstored with rfl | ⟨a, e, b, hl, rfl, hack, hkey, hn, hdec, ha⟩
    · exact howned.of_eq le_rfl rfl rfl rfl
    · rw [hl] at howned
      have hkeeps := horderly a e b hl hack ⟨hkey.symm, hn⟩ hdec ha
      exact (howned.erase hbetween.expired_req_ids hkeeps).of_eq le_rfl rfl rfl rfl
  | wake hphase =>
    have hbetween := hI.between (hne hphase Phase.noConfusion)
    exact ⟨hI.owned.of_eq le_rfl rfl rfl rfl, fun _ => ⟨hbetween.1, hbetween.2⟩⟩
  | clear hphase hnil =>
    have hbetween := hI.between (hne hphase Phase.noConfusion)
    refine .of_between ?_ ⟨hbetween.1, hbetween.2⟩
    have hnone : ∀ e ∈ s._not_ACK_TCMs, False := by
      rw [hnil]
      exact fun e => List.not_mem_nil
    have hunique := hI.owned.unique
    rw [hI.entries_eq (hne hphase Phase.noConfusion)] at hunique
    refine ⟨fun e he => (hnone e he).elim, ?_, ?_, hunique, fun e he => (hnone e he).elim,
      fun e he => (hnone e he).elim⟩
    · intro k time hk
      cases hk
    · intro x hx
      rw [hbetween.expired_req_ids] at hx
      cases hx
  | lock hphase => exact ⟨hI.owned.of_eq le_rfl rfl rfl rfl, fun hp => absurd rfl hp⟩
  | visit cur_time e tcms hphase hclock htcms =>
    have howned : Owned { s with _not_ACK_TCMs := tcms, clock := cur_time } (s.visited ++ e :: tcms) := by
      have howned := hI.owned
      unfold entries at howned
      rw [htcms] at howned
      exact howned.of_eq hclock rfl rfl rfl
    refine ⟨howned.visit, fun hp => absurd ?_ hp⟩
    obtain ⟨e', -, -, -, -, hsame, -⟩ := visit_spec { s with _not_ACK_TCMs := tcms, clock := cur_time } e cur_time
    rw [hsame]
    exact hphase
  | expire hphase hnil =>
    have howned := hI.owned
    unfold entries at howned
    rw [hnil, List.append_nil] at howned
    exact .of_between howned.expire ⟨rfl, rfl⟩

theorem invariant_init (settings : Settings) : (State.init settings : State decode).Invariant := by
  refine .of_between ⟨?_, ?_, ?_, List.nodup_nil, ?_, ?_⟩ ⟨rfl, rfl⟩
  · exact fun e he => absurd he List.not_mem_nil
  · intro k time hk
    cases hk
  · exact fun x hx => absurd hx List.not_mem_nil
  · exact fun e he => absurd he List.not_mem_nil
  · exact fun e he => absurd he List.not_mem_nil

end State

/-- In every run whose steps are orderly, an id only expires for one of its own stored TCMs, and a stored TCM is only
skipped for its own rebroadcasts. -/
theorem timeout_and_budget {decode : Str → Option Int} (settings : Settings) {es : List (Event decode)}
    {s : State decode} (horderly : (plugin decode settings).Meets State.Orderly (plugin decode settings).init es)
    (h : (plugin decode settings).exec (plugin decode settings).init es = some s) : s.Fair :=
  (Machine.invariant_meets (State.invariant_init settings) (fun _ _ _ hI ho hs => State.invariant_step hI ho hs)
    horderly h).owned.fair

/-- A TCM that nobody acknowledges. -/
theorem timeout_and_budget_expired : ∃ s, (plugin one defaults).exec (plugin one defaults).init
    [.receive tcm, .store, .wake, .lock, .visit 1, .expire, .wake, .lock, .visit 1002] = some s ∧ s.Fair := by
  have hstore : ∀ s : State one, s._tcm_broadcast_starting_time = (fun _ => none) → s._not_ACK_TCMs = [] →
      s._tcm_broadcast_times = [] → s.StoresNew := by
    intro s hstart htcms htimes t _
    rw [hstart, htcms, htimes]
    exact ⟨.inl rfl, fun e he => absurd he List.not_mem_nil, fun c hc => absurd hc List.not_mem_nil⟩
  have horderly : (plugin one defaults).Meets State.Orderly (plugin one defaults).init
      [.receive tcm, .store, .wake, .lock, .visit 1, .expire, .wake, .lock, .visit 1002] := by
    refine ⟨trivial, ?_⟩
    intro s hs
    cases hs
    exact ⟨hstore _ rfl rfl rfl, fun _ _ => ⟨trivial, fun _ _ => ⟨trivial, fun _ _ => ⟨trivial, fun _ _ =>
      ⟨trivial, fun _ _ => ⟨trivial, fun _ _ => ⟨trivial, fun _ _ => ⟨trivial, fun _ _ => trivial⟩⟩⟩⟩⟩⟩⟩⟩
  obtain ⟨s, hs⟩ : ∃ s, (plugin one defaults).exec (plugin one defaults).init
      [.receive tcm, .store, .wake, .lock, .visit 1, .expire, .wake, .lock, .visit 1002] = some s := ⟨_, rfl⟩
  exact ⟨s, hs, timeout_and_budget defaults horderly hs⟩

/-- The TCM is acknowledged and delivered again: it expires when it is first seen. -/
theorem timeout_and_budget_delivered_again :
    ¬ ∀ (decode : Str → Option Int) (settings : Settings) (es : List (Event decode)) (s : State decode),
      (plugin decode settings).exec (plugin decode settings).init es = some s → s.Fair := by
  intro h
  obtain ⟨x, hx, -, e, he, -, f, hf, hlt⟩ := (h one defaults
    [.receive tcm, .store, .wake, .lock, .visit 1, .expire, .mobilityOperation acknowledgement, .receive tcm, .store,
      .wake, .lock, .visit 1002] _ rfl).timeout tcm.tcmv01_req_id_hex (by decide +kernel)
  obtain rfl : x = ⟨tcm.tcmv01_req_id_hex, 1002, 1000⟩ := List.mem_singleton.1 hx
  obtain rfl : e = ⟨tcm, some 1002, 0⟩ := List.mem_singleton.1 he
  cases hf
  exact absurd hlt (by decide)

end V2xHub.CARMACloudPlugin
