import V2xHub.PhantomTrafficPlugin.Basic

/-!
# What the plugin tracks

What the members are about is read off the events that have been (`History`): when a vehicle was last heard in the
slowdown region and which vehicles were heard at all, both since the last reset, and how many heartbeats of the loop
have passed without a message. `Inv` relates the two, `tracking` says what follows for every run.
-/

namespace V2xHub.PhantomTrafficPlugin

/-- What has been, apart from the members. -/
structure History where
  /-- The time a vehicle was last heard in the region. -/
  heard : VehicleId → Option Nat
  known : VehicleId → Bool
  /-- The heartbeats since the last message, now and when the last of them was counted. -/
  silent : Nat
  silentAtCheck : Nat

namespace History

def start : History := ⟨fun _ => none, fun _ => false, 0, 0⟩

def after (h : History) : Event → History
  | .heartbeat => { h with silent := 0 }
  | .track bsm now =>
    { h with
      heard := if bsm.inRegion then Function.update h.heard bsm.id (some now) else h.heard
      known := Function.update h.known bsm.id true }
  | .check => { h with silent := h.silent + 1, silentAtCheck := h.silent + 1 }
  | .reset => { h with heard := fun _ => none, known := fun _ => false }
  | .process _ | .adjust | .clear => h

end History

def history (es : List Event) : History := es.foldl History.after .start

@[simp] theorem history_concat (es : List Event) (e : Event) : history (es ++ [e]) = (history es).after e :=
  List.foldl_append

/-- A speed limit as it may be sent. -/
def Limit (d : Double) : Prop := ∃ v : ℚ, d = .finite v ∧ 5 ≤ v ∧ v ≤ 25

structure Inv (h : History) (s : State) : Prop where
  count : s.vehicle_count = s.vehicle_ids.entries.length
  speeds : ∀ id, (s.last_speeds.find? id).isSome = h.known id
  known : ∀ id time, s.vehicle_ids.find? id = some time → h.known id = true
  seen : ∀ id time, s.vehicle_ids.find? id = some time → h.heard id = some time ∧ time ≤ s.clock
  fresh : ∀ id time, h.heard id = some time → s.clock ≤ time + STALE_THRESHOLD → s.vehicle_ids.find? id = some time
  missing : s.heartbeat = false → s.sysreset = false → s.phase ≠ .clear → s.num_missing_heartbeat ≤ h.silent
  reset : s.phase = .reset → MAX_MISSING_HEARTBEAT < h.silentAtCheck
  sent : ∀ d ∈ s.sent, Limit d

variable {h : History} {s t : State} {id : VehicleId} {now time : Nat}

theorem inv_init : Inv .start .init where
  count := rfl
  speeds _ := rfl
  known _ _ hid := nomatch hid
  seen _ _ hid := nomatch hid
  fresh _ _ hid := nomatch hid
  missing _ _ _ := le_refl _
  reset hphase := nomatch hphase
  sent _ hd := absurd hd List.not_mem_nil

/-! ### Speed limits -/

theorem ofRat_ne_nan (q : ℚ) : Double.ofRat q ≠ .nan := by
  rw [Double.ofRat]
  split_ifs <;> simp only [ne_eq, reduceCtorEq, not_false_eq_true]

theorem add_ne_nan {a : ℚ} {d : Double} (hd : d ≠ .nan) : d.add (.finite a) ≠ .nan := by
  cases d with
  | finite b => exact ofRat_ne_nan _
  | infinity b => exact nofun
  | nan => exact absurd rfl hd

/-- Three times an average that is slow, less a number. -/
theorem sub_ne_nan {d : Double} {n : Int} (hslow : d.lt SLOW_DOWN_THRES) (hn : |n| < 2 ^ 53) :
    (NEW_SPEED_FACTOR.mul d).sub (.ofInt n) ≠ .nan := by
  rw [Double.sub, Double.ofInt_eq hn]
  refine add_ne_nan ?_
  rw [NEW_SPEED_FACTOR, Double.ofInt_eq (by norm_num)]
  cases d with
  | finite a => exact ofRat_ne_nan _
  | infinity b =>
    rw [Double.mul, if_neg (by norm_num)]
    simp only [ne_eq, reduceCtorEq, not_false_eq_true]
  | nan => exact absurd hslow Bool.false_ne_true

theorem limit_clamp {d : Double} (hd : d ≠ .nan) :
    Limit (if d.le (.ofInt MIN_SPEED) then .ofInt MIN_SPEED
      else if (Double.ofInt MAX_SPEED).le d then .ofInt MAX_SPEED else d) := by
  rw [Double.ofInt_eq (by norm_num [MIN_SPEED]), Double.ofInt_eq (by norm_num [MAX_SPEED])]
  have hmin : Limit (.finite (MIN_SPEED : ℚ)) := ⟨_, rfl, by norm_num [MIN_SPEED]⟩
  have hmax : Limit (.finite (MAX_SPEED : ℚ)) := ⟨_, rfl, by norm_num [MAX_SPEED]⟩
  split_ifs with h1 h2
  · exact hmin
  · exact hmax
  · cases d with
    | finite v =>
      simp only [Double.le, decide_eq_true_eq, not_le] at h1 h2
      have hlower : (5 : ℚ) < v := by simpa [MIN_SPEED] using h1
      have hupper : v < (25 : ℚ) := by simpa [MAX_SPEED] using h2
      exact ⟨v, rfl, hlower.le, hupper.le⟩
    | infinity b =>
      cases b with
      | true => exact absurd rfl h1
      | false => exact absurd rfl h2
    | nan => exact absurd rfl hd

theorem length_entries_le (m : OrdMap VehicleId Nat) : m.entries.length ≤ 2 ^ 32 := by
  rw [← List.length_map Prod.fst]
  exact (m.nodup_keys.length_le_card).trans_eq (Fintype.card_fin _)

theorem limit_new_speed (hslow : s.average_speed.lt SLOW_DOWN_THRES) (hcount : s.vehicle_count ≤ 2 ^ 32) :
    Limit s.new_speed := by
  refine limit_clamp (sub_ne_nan hslow ?_)
  have hdiv : s.vehicle_count / MAX_VEHICLES_IN_SLOWDOWN ≤ 2 ^ 32 := (Nat.div_le_self _ _).trans hcount
  generalize s.vehicle_count / MAX_VEHICLES_IN_SLOWDOWN = n at hdiv
  simp only [MAX_SPEED]
  rw [abs_lt]
  omega

theorem limit_original : Limit original_speed := by
  rw [original_speed, Double.ofInt_eq (by norm_num)]
  exact ⟨_, rfl, by norm_num⟩

theorem sent_adjust (hcount : s.vehicle_count ≤ 2 ^ 32) (hsent : ∀ d ∈ s.sent, Limit d) :
    ∀ d ∈ s.AdjustSpeedLimit.sent, Limit d := by
  have hsend : ∀ speed, Limit speed → ∀ d ∈ (s.send speed).sent, Limit d := by
    intro speed hspeed d hd
    rcases List.mem_append.1 hd with hd | hd
    · exact hsent d hd
    · exact List.mem_singleton.1 hd ▸ hspeed
  rw [State.AdjustSpeedLimit]
  split_ifs with h1 h2
  · exact hsend _ (limit_new_speed (Bool.and_eq_true_iff.1 h1).1 hcount)
  · exact hsend _ limit_original
  · exact hsent

/-- Nothing else changes. -/
theorem frame_adjust : s.AdjustSpeedLimit =
    { s with previous_sent_speed := s.AdjustSpeedLimit.previous_sent_speed, sent := s.AdjustSpeedLimit.sent } := by
  rw [State.AdjustSpeedLimit]
  split_ifs <;> rfl

/-! ### The steps -/

theorem stale_iff : State.stale now time = true ↔ time + STALE_THRESHOLD < now := by
  rw [State.stale, decide_eq_true_eq]
  omega

theorem find?_cleanup : (s.CleanupStaleVehicles now).vehicle_ids.find? id = some time ↔
    s.vehicle_ids.find? id = some time ∧ now ≤ time + STALE_THRESHOLD := by
  simp only [State.CleanupStaleVehicles, OrdMap.find?_filter, Option.filter_eq_some_iff, Bool.not_eq_true',
    ← Bool.not_eq_true, stale_iff, not_lt]

theorem count_cleanup (h : s.vehicle_count = s.vehicle_ids.entries.length) :
    (s.CleanupStaleVehicles now).vehicle_count = (s.CleanupStaleVehicles now).vehicle_ids.entries.length := by
  have hsplit := s.vehicle_ids.entries.length_eq_length_filter_add fun e => State.stale now e.2
  simp only [State.CleanupStaleVehicles, OrdMap.filter]
  omega

/-- Tracking a vehicle: it is counted when it is new. -/
theorem handle_inside {bsm : BasicSafetyMessage} (h : bsm.inRegion) : s.HandleBasicSafetyMessage bsm now =
    { s with
      last_speeds := s.last_speeds.insert bsm.id (.ofInt (bsm.speed.tdiv 1000))
      vehicle_ids := s.vehicle_ids.insert bsm.id now
      vehicle_count := if s.vehicle_ids.find? bsm.id = none then s.vehicle_count + 1 else s.vehicle_count } := by
  simp only [State.HandleBasicSafetyMessage, if_pos h]
  split_ifs <;> rfl

theorem handle_outside {bsm : BasicSafetyMessage} (h : ¬bsm.inRegion) : s.HandleBasicSafetyMessage bsm now =
    { s with last_speeds := s.last_speeds.insert bsm.id (.ofInt (bsm.speed.tdiv 1000)) } := by
  simp only [State.HandleBasicSafetyMessage, if_neg h]

namespace Inv

theorem heartbeat (hinv : Inv h s) : Inv (h.after .heartbeat) { s with heartbeat := true } :=
  { hinv with missing := nofun }

theorem speeds_insert (hinv : Inv h s) (bsm : BasicSafetyMessage) (d : Double) (id : VehicleId) :
    ((s.last_speeds.insert bsm.id d).find? id).isSome = (h.after (.track bsm now)).known id := by
  simp only [History.after, Function.update_apply, OrdMap.find?_insert]
  split_ifs with hid
  · rfl
  · exact hinv.speeds id

theorem track_inside (hinv : Inv h s) {bsm : BasicSafetyMessage} (hregion : bsm.inRegion) (hnow : s.clock ≤ now) :
    Inv (h.after (.track bsm now)) { s.HandleBasicSafetyMessage bsm now with clock := now } := by
  rw [handle_inside hregion]
  refine { hinv with count := ?_, speeds := fun id => hinv.speeds_insert bsm _ id, known := ?_, seen := ?_, fresh := ?_ }
  · simp only [OrdMap.length_insert, hinv.count]
  · intro id time hid
    simp only [History.after, Function.update_apply]
    split_ifs with heq
    · rfl
    · rw [OrdMap.find?_insert_ne heq] at hid
      exact hinv.known id time hid
  · intro id time hid
    simp only [History.after, if_pos hregion, Function.update_apply]
    rw [OrdMap.find?_insert] at hid
    split_ifs at hid ⊢ with heq
    · obtain rfl := Option.some.inj hid
      exact ⟨rfl, le_refl _⟩
    · obtain ⟨hheard, htime⟩ := hinv.seen id time hid
      exact ⟨hheard, htime.trans hnow⟩
  · intro id time hheard hfresh
    simp only [History.after, if_pos hregion, Function.update_apply] at hheard
    rw [OrdMap.find?_insert]
    split_ifs at hheard ⊢ with heq
    · exact hheard
    · exact hinv.fresh id time hheard (hnow.trans hfresh)

theorem track_outside (hinv : Inv h s) {bsm : BasicSafetyMessage} (hregion : ¬bsm.inRegion) (hnow : s.clock ≤ now) :
    Inv (h.after (.track bsm now)) { s.HandleBasicSafetyMessage bsm now with clock := now } := by
  rw [handle_outside hregion]
  refine { hinv with speeds := fun id => hinv.speeds_insert bsm _ id, known := ?_, seen := ?_, fresh := ?_ }
  · intro id time hid
    simp only [History.after, Function.update_apply]
    split_ifs with heq
    · rfl
    · exact hinv.known id time hid
  · intro id time hid
    simp only [History.after, if_neg hregion]
    obtain ⟨hheard, htime⟩ := hinv.seen id time hid
    exact ⟨hheard, htime.trans hnow⟩
  · intro id time hheard hfresh
    simp only [History.after, if_neg hregion] at hheard
    exact hinv.fresh id time hheard (hnow.trans hfresh)

theorem process (hinv : Inv h s) (hphase : s.phase = .process) (hnow : s.clock ≤ now) :
    Inv (h.after (.process now)) { s.ProcessTrafficData now with clock := now, phase := .adjust } where
  count := count_cleanup hinv.count
  speeds := hinv.speeds
  known id time hid := hinv.known id time (find?_cleanup.1 hid).1
  seen id time hid :=
    have ⟨hheard, htime⟩ := hinv.seen id time (find?_cleanup.1 hid).1
    ⟨hheard, htime.trans hnow⟩
  fresh id time hheard hfresh := find?_cleanup.2 ⟨hinv.fresh id time hheard (hnow.trans hfresh), hfresh⟩
  missing hheartbeat hsysreset _ := hinv.missing hheartbeat hsysreset (by rw [hphase]; exact nofun)
  reset := nofun
  sent := hinv.sent

theorem adjust (hinv : Inv h s) (hphase : s.phase = .adjust) :
    Inv (h.after .adjust) { s.AdjustSpeedLimit with phase := .check } := by
  have hsent := sent_adjust (hinv.count ▸ length_entries_le _) hinv.sent
  rw [frame_adjust]
  exact { hinv with
    missing := fun hheartbeat hsysreset _ => hinv.missing hheartbeat hsysreset (by rw [hphase]; exact nofun)
    reset := nofun
    sent := hsent }

/-- A heartbeat is counted only if no message came since the one before it. -/
theorem check (hinv : Inv h s) (hphase : s.phase = .check) : Inv (h.after .check) s.check := by
  have hmissing := hinv.missing
  rw [hphase] at hmissing
  rw [State.check]
  split_ifs with hheartbeat hsysreset hmax
  · exact { hinv with missing := fun _ _ hclear => absurd rfl hclear, reset := nofun }
  · exact { hinv with missing := fun _ h => absurd (hsysreset.symm.trans h) (by decide), reset := nofun }
  all_goals have hle := hmissing (Bool.eq_false_iff.2 hheartbeat) (Bool.eq_false_iff.2 hsysreset) nofun
  · exact { hinv with
      missing := fun _ _ _ => Nat.succ_le_succ hle
      reset := fun _ => Nat.lt_succ_of_lt (lt_of_lt_of_le hmax hle) }
  · exact { hinv with missing := fun _ _ _ => Nat.succ_le_succ hle, reset := nofun }

theorem reset_step (hinv : Inv h s) : Inv (h.after .reset) { s.reset_systemvars with phase := .process } where
  count := rfl
  speeds _ := rfl
  known _ _ hid := nomatch hid
  seen _ _ hid := nomatch hid
  fresh _ _ hid := nomatch hid
  missing _ h := nomatch h
  reset := nofun
  sent := hinv.sent

theorem clear (hinv : Inv h s) : Inv (h.after .clear)
    { s with heartbeat := false, sysreset := false, num_missing_heartbeat := 0, phase := .process } :=
  { hinv with missing := fun _ _ _ => Nat.zero_le _, reset := nofun }

theorem step {e : Event} (hinv : Inv h s) (hstep : s.step e = some t) : Inv (h.after e) t := by
  cases e with
  | heartbeat =>
    obtain rfl := Option.some.inj hstep
    exact hinv.heartbeat
  | track bsm now =>
    obtain ⟨hnow, hstep⟩ := Option.ite_none_right_eq_some.1 hstep
    obtain rfl := Option.some.inj hstep
    by_cases hregion : bsm.inRegion
    · exact hinv.track_inside hregion hnow
    · exact hinv.track_outside hregion hnow
  | process now =>
    obtain ⟨⟨hphase, hnow⟩, hstep⟩ := Option.ite_none_right_eq_some.1 hstep
    obtain rfl := Option.some.inj hstep
    exact hinv.process hphase hnow
  | adjust =>
    obtain ⟨hphase, hstep⟩ := Option.ite_none_right_eq_some.1 hstep
    obtain rfl := Option.some.inj hstep
    exact hinv.adjust hphase
  | check =>
    obtain ⟨hphase, hstep⟩ := Option.ite_none_right_eq_some.1 hstep
    obtain rfl := Option.some.inj hstep
    exact hinv.check hphase
  | reset =>
    obtain ⟨-, hstep⟩ := Option.ite_none_right_eq_some.1 hstep
    obtain rfl := Option.some.inj hstep
    exact hinv.reset_step
  | clear =>
    obtain ⟨-, hstep⟩ := Option.ite_none_right_eq_some.1 hstep
    obtain rfl := Option.some.inj hstep
    exact hinv.clear

end Inv

/-! ### Runs -/

/-- What holds behind the events `es`, in the state `s` and of each step from there. -/
structure Tracks (es : List Event) (s : State) : Prop where
  count : s.vehicle_count = s.vehicle_ids.entries.length
  /-- A tracked vehicle has a speed and the time it was last heard in the region. -/
  tracked : ∀ id time, s.vehicle_ids.find? id = some time →
    (s.last_speeds.find? id).isSome ∧ (history es).heard id = some time
  /-- A vehicle with a speed was heard since the last reset. -/
  known : ∀ id, (s.last_speeds.find? id).isSome → (history es).known id
  fresh : ∀ id time, (history es).heard id = some time → s.clock ≤ time + STALE_THRESHOLD →
    s.vehicle_ids.find? id = some time
  /-- What takes a vehicle away. -/
  removed : ∀ e t, s.step e = some t → ∀ id time, s.vehicle_ids.find? id = some time → t.vehicle_ids.find? id = none →
    e = .reset ∨ ∃ now, e = .process now ∧ time + STALE_THRESHOLD < now
  reset : ∀ t, s.step .reset = some t → 5 < (history es).silentAtCheck ∧
    t.vehicle_count = 0 ∧ t.vehicle_ids = .empty ∧ t.last_speeds = .empty
  sent : ∀ d ∈ s.sent, Limit d

theorem inv_run {es : List Event} (h : plugin.exec plugin.init es = some s) : Inv (history es) s := by
  refine plugin.invariant_trace (I := fun es s => Inv (history es) s) inv_init ?_ h
  intro es s e t hinv hstep
  rw [history_concat]
  exact hinv.step hstep

theorem removed_of_step {e : Event} (hstep : s.step e = some t) (hid : s.vehicle_ids.find? id = some time)
    (hremoved : t.vehicle_ids.find? id = none) :
    e = .reset ∨ ∃ now, e = .process now ∧ time + STALE_THRESHOLD < now := by
  have hkept : t.vehicle_ids ≠ s.vehicle_ids := fun heq => by rw [heq, hid] at hremoved; exact nomatch hremoved
  cases e with
  | heartbeat =>
    obtain rfl := Option.some.inj hstep
    exact absurd rfl hkept
  | track bsm now =>
    obtain ⟨-, hstep⟩ := Option.ite_none_right_eq_some.1 hstep
    obtain rfl := Option.some.inj hstep
    by_cases hregion : bsm.inRegion
    · rw [handle_inside hregion] at hremoved
      dsimp only at hremoved
      rw [OrdMap.find?_insert] at hremoved
      split_ifs at hremoved
      exact nomatch hid.symm.trans hremoved
    · rw [handle_outside hregion] at hkept
      exact absurd rfl hkept
  | process now =>
    obtain ⟨-, hstep⟩ := Option.ite_none_right_eq_some.1 hstep
    obtain rfl := Option.some.inj hstep
    refine Or.inr ⟨now, rfl, not_le.1 fun hle => ?_⟩
    exact nomatch (find?_cleanup.2 ⟨hid, hle⟩).symm.trans hremoved
  | adjust =>
    obtain ⟨-, hstep⟩ := Option.ite_none_right_eq_some.1 hstep
    obtain rfl := Option.some.inj hstep
    rw [frame_adjust] at hkept
    exact absurd rfl hkept
  | check =>
    obtain ⟨-, hstep⟩ := Option.ite_none_right_eq_some.1 hstep
    obtain rfl := Option.some.inj hstep
    refine absurd ?_ hkept
    rw [State.check]
    split_ifs <;> rfl
  | reset => exact Or.inl rfl
  | clear =>
    obtain ⟨-, hstep⟩ := Option.ite_none_right_eq_some.1 hstep
    obtain rfl := Option.some.inj hstep
    exact absurd rfl hkept

theorem tracking {es : List Event} (h : plugin.exec plugin.init es = some s) : Tracks es s := by
  have hinv := inv_run h
  refine ⟨hinv.count, fun id time hid => ?_, fun id hid => (hinv.speeds id).symm.trans hid, hinv.fresh, ?_, ?_, hinv.sent⟩
  · exact ⟨(hinv.speeds id).trans (hinv.known id time hid), (hinv.seen id time hid).1⟩
  · intro e t hstep id time hid hremoved
    exact removed_of_step hstep hid hremoved
  · intro t hstep
    obtain ⟨hphase, hstep⟩ := Option.ite_none_right_eq_some.1 hstep
    obtain rfl := Option.some.inj hstep
    exact ⟨hinv.reset hphase, rfl, rfl, rfl⟩

theorem step_track (bsm : BasicSafetyMessage) (h : s.clock ≤ now) :
    plugin.step s (.track bsm now) = some { s.HandleBasicSafetyMessage bsm now with clock := now } := if_pos h

theorem step_process (hphase : s.phase = .process) (h : s.clock ≤ now) :
    plugin.step s (.process now) = some { s.ProcessTrafficData now with clock := now, phase := .adjust } :=
  if_pos ⟨hphase, h⟩

theorem tracking_vehicle : ∃ s, plugin.exec plugin.init [.heartbeat, .track ⟨7, 3000, 56823000⟩ 40] = some s ∧
    Tracks [.heartbeat, .track ⟨7, 3000, 56823000⟩ 40] s :=
  have hexec := Machine.exec_cons.2 ⟨_, rfl, Machine.exec_cons.2 ⟨_, step_track _ (Nat.zero_le 40), rfl⟩⟩
  ⟨_, hexec, tracking hexec⟩

theorem phase_handle {bsm : BasicSafetyMessage} : (s.HandleBasicSafetyMessage bsm now).phase = s.phase := by
  by_cases hregion : bsm.inRegion
  · rw [handle_inside hregion]
  · rw [handle_outside hregion]

theorem speed_handle {bsm : BasicSafetyMessage} :
    (s.HandleBasicSafetyMessage bsm now).last_speeds = s.last_speeds.insert bsm.id (.ofInt (bsm.speed.tdiv 1000)) := by
  by_cases hregion : bsm.inRegion
  · rw [handle_inside hregion]
  · rw [handle_outside hregion]

/-- Wherever the vehicle was: five seconds later it is not tracked and has a speed. -/
theorem tracking_leaves_speed : ∃ s,
    plugin.exec plugin.init [.heartbeat, .track ⟨7, 3000, 56823000⟩ 40, .process 5040] = some s ∧
      s.vehicle_ids.find? 7 = none ∧ (s.last_speeds.find? 7).isSome := by
  refine ⟨_, Machine.exec_cons.2 ⟨_, rfl, Machine.exec_cons.2 ⟨_, step_track _ (Nat.zero_le 40), Machine.exec_cons.2
    ⟨_, step_process phase_handle (Nat.le_add_left 40 5000), rfl⟩⟩⟩, ?_, ?_⟩
  · refine Option.eq_none_iff_forall_ne_some.2 fun time hid => ?_
    obtain ⟨hid, hfresh⟩ := find?_cleanup.1 hid
    dsimp only at hid
    by_cases hregion : BasicSafetyMessage.inRegion ⟨7, 3000, 56823000⟩
    · rw [handle_inside hregion] at hid
      obtain rfl := Option.some.inj (OrdMap.find?_insert_self.symm.trans hid)
      exact absurd hfresh (by decide)
    · rw [handle_outside hregion] at hid
      exact nomatch hid
  · dsimp only [State.ProcessTrafficData, State.CalculateAverageSpeed, State.CleanupStaleVehicles]
    rw [speed_handle, OrdMap.find?_insert_self]
    rfl

end V2xHub.PhantomTrafficPlugin
