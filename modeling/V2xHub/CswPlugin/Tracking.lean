import V2xHub.CswPlugin.Basic
import Mathlib.Order.Bounds.Basic

/-!
# Which vehicles are tracked

What the members are about is read off the events that have been (`History`): the zone in which a vehicle was last
reported, and whether it has left it since. `curve_warning` says that the plugin tracks what it should exactly if no vehicle
that it tracks reports no zone.
-/

namespace V2xHub.CswPlugin

/-- A vehicle that was reported in a zone. -/
structure Record where
  zone : Nat
  /-- The time of the last report in a zone, and the time of the last message. -/
  reported : Nat
  heard : Nat
  /-- No zone was reported for at least the snap interval, or the vehicle was silent for longer than the timeout. -/
  due : Bool
  /-- No zone was reported for longer than the snap interval, or the vehicle was silent for longer than the timeout. -/
  gone : Bool

structure History where
  snapInterval : Nat
  vehicleTimeout : Nat
  record : VehicleId → Option Record

namespace Record

/-- A message of the vehicle in no zone. -/
def noZone (snapInterval vehicleTimeout now : Nat) (r : Record) : Record :=
  { r with
    heard := now
    due := r.due || decide (snapInterval ≤ now - r.reported) || decide (vehicleTimeout < now - r.heard)
    gone := r.gone || decide (snapInterval < now - r.reported) || decide (vehicleTimeout < now - r.heard) }

/-- The vehicle is looked at. -/
def look (vehicleTimeout now : Nat) (r : Record) : Record :=
  { r with
    due := r.due || decide (vehicleTimeout < now - r.heard)
    gone := r.gone || decide (vehicleTimeout < now - r.heard) }

end Record

namespace History

def start : History := ⟨0, 1000, fun _ => none⟩

/-- The record of the vehicle of the message. -/
def report (h : History) (bsm : Bsm) (now : Nat) : Option Record :=
  if bsm.regionNumber ≠ 0 then some ⟨bsm.regionNumber, now, now, false, false⟩
  else (h.record bsm.vehicleId).map (Record.noZone h.snapInterval h.vehicleTimeout now)

def after (h : History) : Event → History
  | .bsm bsm now later =>
    { h with
      record := fun id =>
        (Function.update h.record bsm.vehicleId (h.report bsm now) id).map (Record.look h.vehicleTimeout later) }
  | .UpdateConfigSettings snapInterval vehicleTimeout =>
    { h with snapInterval := snapInterval, vehicleTimeout := vehicleTimeout }
  | .LoadTim _ => h

end History

def history (es : List Event) : History := es.foldl History.after .start

@[simp] theorem history_concat (es : List Event) (e : Event) : history (es ++ [e]) = (history es).after e :=
  List.foldl_append

/-- The zones of the tracked vehicles above the speed limit. -/
def State.speedingZones (s : State) : Set Nat :=
  {z | ∃ id info, s.vehicleInZone.find? id = some info ∧ (s.speedLimit : ℚ) < info.Speed_mph ∧ info.ZoneId = z}

/-- What the sign is to show. -/
def State.Warns (s : State) : Prop := ∃ z, IsLeast s.speedingZones z ∧ 1 ≤ z ∧ z ≤ 3

structure Tracks (es : List Event) (s : State) : Prop where
  zone : ∀ id info, s.vehicleInZone.find? id = some info → info.ZoneId ≠ 0
  stays : ∀ id r, (history es).record id = some r → r.due = false →
    ∃ info, s.vehicleInZone.find? id = some info ∧ info.ZoneId = r.zone
  leaves : ∀ id r, (history es).record id = some r → r.gone = true → s.vehicleInZone.find? id = none
  sign : ∀ es' bsm now later, es = es' ++ [.bsm bsm now later] →
    s.Warns ∧ s.sent.getLast? = some 3 ∨ ¬ s.Warns ∧ s.sent.getLast? = some 0

/-- A message in no zone is of a vehicle that is not tracked, or that is taken away as it is due anyway. -/
def Sound (s : State) : Event → Prop
  | .bsm bsm now later => bsm.regionNumber = 0 → ∀ info, s.vehicleInZone.find? bsm.vehicleId = some info →
    s.vehicleTimeout < later - now ∨
      s.vehicleTimeout < now - info.LastUpdateTime ∧ now - info.LastUpdateTime < s.snapInterval
  | _ => True

variable {h : History} {s t : State} {bsm : Bsm} {id : VehicleId} {info : ZoneInfo} {now later : Nat}

/-! ### The operations -/

theorem update_in_zone (hzone : bsm.regionNumber ≠ 0) : s.UpdateVehicleInZone bsm now =
    { s with vehicleInZone := s.vehicleInZone.insert bsm.vehicleId ⟨bsm.regionNumber, bsm.speed_mph, now⟩ } := by
  rw [State.UpdateVehicleInZone]
  cases s.vehicleInZone.find? bsm.vehicleId with
  | none => exact if_pos hzone
  | some info =>
    dsimp only
    rw [if_neg fun h : bsm.regionNumber = 0 ∧ _ => hzone h.1]
    by_cases hnew : info.ZoneId ≠ bsm.regionNumber ∨ info.Speed_mph ≠ bsm.speed_mph
    · rw [if_pos hnew]
    · obtain ⟨hzone, hspeed⟩ := not_or.1 hnew
      rw [if_neg hnew, ← not_not.1 hzone, ← not_not.1 hspeed]

theorem update_untracked (hzone : bsm.regionNumber = 0) (hid : s.vehicleInZone.find? bsm.vehicleId = none) :
    s.UpdateVehicleInZone bsm now = s := by
  rw [State.UpdateVehicleInZone, hid]
  exact if_neg (not_not.2 hzone)

theorem update_erased (hzone : bsm.regionNumber = 0) (hid : s.vehicleInZone.find? bsm.vehicleId = some info)
    (hsnap : now - info.LastUpdateTime < s.snapInterval) : s.UpdateVehicleInZone bsm now =
      { s with vehicleInZone := s.vehicleInZone.erase bsm.vehicleId } := by
  rw [State.UpdateVehicleInZone, hid]
  exact if_pos ⟨hzone, hsnap⟩

theorem update_no_zone (hzone : bsm.regionNumber = 0) (hid : s.vehicleInZone.find? bsm.vehicleId = some info)
    (hsnap : s.snapInterval ≤ now - info.LastUpdateTime) : s.UpdateVehicleInZone bsm now =
      { s with vehicleInZone := s.vehicleInZone.insert bsm.vehicleId ⟨0, bsm.speed_mph, now⟩ } := by
  rw [State.UpdateVehicleInZone, hid]
  dsimp only
  rw [if_neg fun h : bsm.regionNumber = 0 ∧ _ => absurd h.2 (not_lt.2 hsnap), hzone]
  by_cases hnew : info.ZoneId ≠ 0 ∨ info.Speed_mph ≠ bsm.speed_mph
  · rw [if_pos hnew]
  · obtain ⟨hzone, hspeed⟩ := not_or.1 hnew
    rw [if_neg hnew, not_not.1 hzone, not_not.1 hspeed]

/-- Only the vehicle of the message is touched. -/
theorem frame_update (s : State) (bsm : Bsm) (now : Nat) : ∃ m, s.UpdateVehicleInZone bsm now = { s with vehicleInZone := m } ∧
    ∀ id, id ≠ bsm.vehicleId → m.find? id = s.vehicleInZone.find? id := by
  have herase : ∀ id, id ≠ bsm.vehicleId → (s.vehicleInZone.erase bsm.vehicleId).find? id = s.vehicleInZone.find? id :=
    fun id hid => OrdMap.find?_erase.trans (if_neg hid)
  by_cases hzone : bsm.regionNumber = 0
  · cases hid : s.vehicleInZone.find? bsm.vehicleId with
    | none => exact ⟨_, update_untracked hzone hid, fun _ _ => rfl⟩
    | some info =>
      rcases lt_or_ge (now - info.LastUpdateTime) s.snapInterval with hsnap | hsnap
      · exact ⟨_, update_erased hzone hid hsnap, herase⟩
      · exact ⟨_, update_no_zone hzone hid hsnap, fun id hid => OrdMap.find?_insert_ne hid⟩
  · exact ⟨_, update_in_zone hzone, fun id hid => OrdMap.find?_insert_ne hid⟩

theorem frame_send (msgId : Int) : s.send msgId =
    { s with lastMsgIdSent := (s.send msgId).lastMsgIdSent, sent := (s.send msgId).sent } := by
  rw [State.send]
  split_ifs <;> rfl

/-- The message as it leaves the vehicles. -/
def State.moved (s : State) (bsm : Bsm) (now later : Nat) : State := (s.UpdateVehicleInZone bsm now).RemoveOldVehicles later

theorem step_bsm (hstep : s.step (.bsm bsm now later) = some t) : ∃ msgId : Int,
    msgId = (if (s.moved bsm now later).GetHighestPriorityZoneId ≥ 1 ∧
      (s.moved bsm now later).GetHighestPriorityZoneId ≤ 3 then 3 else 0) ∧
    t = { (s.moved bsm now later).send msgId with clock := later } := by
  obtain ⟨-, hstep⟩ := Option.ite_none_right_eq_some.1 hstep
  obtain rfl := Option.some.inj hstep
  exact ⟨_, rfl, rfl⟩

theorem find?_moved (hstep : s.step (.bsm bsm now later) = some t) :
    t.vehicleInZone = (s.moved bsm now later).vehicleInZone := by
  obtain ⟨msgId, -, rfl⟩ := step_bsm hstep
  rw [frame_send]

theorem settings_moved (s : State) (bsm : Bsm) (now later : Nat) : (s.moved bsm now later).snapInterval = s.snapInterval ∧
    (s.moved bsm now later).vehicleTimeout = s.vehicleTimeout ∧ (s.moved bsm now later).sent = s.sent ∧
    (s.moved bsm now later).lastMsgIdSent = s.lastMsgIdSent := by
  obtain ⟨m, hm, -⟩ := frame_update s bsm now
  rw [State.moved, hm]
  exact ⟨rfl, rfl, rfl, rfl⟩

theorem settings_bsm (hstep : s.step (.bsm bsm now later) = some t) :
    t.snapInterval = s.snapInterval ∧ t.vehicleTimeout = s.vehicleTimeout := by
  obtain ⟨msgId, -, rfl⟩ := step_bsm hstep
  rw [frame_send]
  exact ⟨(settings_moved s bsm now later).1, (settings_moved s bsm now later).2.1⟩

/-! ### The sign -/

theorem highest_le (limit z : Nat) (vehicles : List (VehicleId × ZoneInfo)) : State.highest limit z vehicles ≤ z ∧
    ∀ kv ∈ vehicles, kv.2.ZoneId ≠ 0 → (limit : ℚ) < kv.2.Speed_mph → State.highest limit z vehicles ≤ kv.2.ZoneId := by
  induction vehicles generalizing z with
  | nil => exact ⟨le_refl z, fun kv hkv => absurd hkv List.not_mem_nil⟩
  | cons kv vehicles ih =>
    rw [State.highest, List.foldl_cons]
    split_ifs with hkv
    · obtain ⟨hle, hall⟩ := ih kv.2.ZoneId
      exact ⟨hle.trans hkv.2.1.le, List.forall_mem_cons.2 ⟨fun _ _ => hle, hall⟩⟩
    · obtain ⟨hle, hall⟩ := ih z
      refine ⟨hle, List.forall_mem_cons.2 ⟨fun hzone hspeed => ?_, hall⟩⟩
      exact hle.trans (not_lt.1 fun hlt => hkv ⟨hzone, hlt, hspeed⟩)

theorem highest_mem (limit z : Nat) (vehicles : List (VehicleId × ZoneInfo)) : State.highest limit z vehicles = z ∨
    ∃ kv ∈ vehicles, (limit : ℚ) < kv.2.Speed_mph ∧ kv.2.ZoneId = State.highest limit z vehicles := by
  induction vehicles generalizing z with
  | nil => exact .inl rfl
  | cons kv vehicles ih =>
    rw [State.highest, List.foldl_cons]
    split_ifs with hkv
    · rcases ih kv.2.ZoneId with h | ⟨kv', hmem, h⟩
      · exact .inr ⟨kv, List.mem_cons_self, hkv.2.2, h.symm⟩
      · exact .inr ⟨kv', List.mem_cons_of_mem _ hmem, h⟩
    · exact (ih z).imp_right fun ⟨kv', hmem, h⟩ => ⟨kv', List.mem_cons_of_mem _ hmem, h⟩

theorem warns_iff (hzone : ∀ id info, s.vehicleInZone.find? id = some info → info.ZoneId ≠ 0) :
    s.Warns ↔ s.GetHighestPriorityZoneId ≥ 1 ∧ s.GetHighestPriorityZoneId ≤ 3 := by
  obtain ⟨-, hle⟩ := highest_le s.speedLimit 9999 s.vehicleInZone.entries
  rw [State.GetHighestPriorityZoneId]
  constructor
  · rintro ⟨z, ⟨⟨id, info, hid, hspeed, rfl⟩, hleast⟩, hlower, hupper⟩
    have hz := hle (id, info) (OrdMap.mem_entries.2 hid) (hzone id info hid) hspeed
    rcases highest_mem s.speedLimit 9999 s.vehicleInZone.entries with h | ⟨kv, hkv, hkvspeed, h⟩
    · dsimp only at hz
      omega
    · have hmin := hleast ⟨kv.1, kv.2, OrdMap.mem_entries.1 hkv, hkvspeed, rfl⟩
      dsimp only at hz
      rw [h] at hmin
      split_ifs
      · omega
      · omega
  · rintro ⟨hlower, hupper⟩
    split_ifs at hlower hupper with h9999
    · exact absurd hlower (by decide)
    rcases highest_mem s.speedLimit 9999 s.vehicleInZone.entries with h | ⟨kv, hkv, hspeed, h⟩
    · exact absurd h h9999
    · refine ⟨_, ⟨⟨kv.1, kv.2, OrdMap.mem_entries.1 hkv, hspeed, h⟩, ?_⟩, hlower, hupper⟩
      rintro z ⟨id, info, hid, hspeed, rfl⟩
      exact hle (id, info) (OrdMap.mem_entries.2 hid) (hzone id info hid) hspeed

/-- `_lastMsgIdSent` is the last id that was sent. -/
def State.LastSent (s : State) : Prop := s.sent.getLast?.getD (-1) = s.lastMsgIdSent

theorem getLast?_send (h : s.LastSent) {msgId : Int} (hmsg : msgId ≠ -1) :
    (s.send msgId).sent.getLast? = some msgId ∧ (s.send msgId).LastSent := by
  rw [State.send]
  split_ifs with hnew
  · simp [State.LastSent]
  · have hlast : s.sent.getLast?.getD (-1) = msgId := h.trans (not_not.1 hnew)
    refine ⟨?_, h⟩
    cases hsent : s.sent.getLast? with
    | none =>
      rw [hsent] at hlast
      exact absurd hlast.symm hmsg
    | some last => rw [← hlast, hsent, Option.getD_some]

theorem last_bsm (h : s.LastSent) (hstep : s.step (.bsm bsm now later) = some t) : t.LastSent := by
  obtain ⟨msgId, hmsgId, rfl⟩ := step_bsm hstep
  have hmoved : (s.moved bsm now later).LastSent := by
    obtain ⟨-, -, hsent, hlast⟩ := settings_moved s bsm now later
    rw [State.LastSent, hsent, hlast]
    exact h
  refine (getLast?_send hmoved ?_).2
  rw [hmsgId]
  split_ifs <;> decide

theorem sign_bsm (h : s.LastSent) (hstep : s.step (.bsm bsm now later) = some t)
    (hzone : ∀ id info, t.vehicleInZone.find? id = some info → info.ZoneId ≠ 0) :
    t.Warns ∧ t.sent.getLast? = some 3 ∨ ¬ t.Warns ∧ t.sent.getLast? = some 0 := by
  rw [find?_moved hstep] at hzone
  have hwarns := warns_iff hzone
  obtain ⟨msgId, hmsgId, rfl⟩ := step_bsm hstep
  have hmoved : (s.moved bsm now later).LastSent := by
    obtain ⟨-, -, hsent, hlast⟩ := settings_moved s bsm now later
    rw [State.LastSent, hsent, hlast]
    exact h
  have hsame : State.Warns { (s.moved bsm now later).send msgId with clock := later } ↔
      (s.moved bsm now later).Warns := by
    rw [frame_send]
    rfl
  rw [hsame]
  by_cases hw : (s.moved bsm now later).Warns
  · rw [if_pos (hwarns.1 hw)] at hmsgId
    exact .inl ⟨hw, hmsgId ▸ (getLast?_send hmoved (by rw [hmsgId]; decide)).1⟩
  · rw [if_neg fun h => hw (hwarns.2 h)] at hmsgId
    exact .inr ⟨hw, hmsgId ▸ (getLast?_send hmoved (by rw [hmsgId]; decide)).1⟩

/-! ### The steps -/

/-- What is recorded of a vehicle and what the plugin has of it. -/
inductive Agrees : Option Record → Option ZoneInfo → Prop
  | unknown : Agrees none none
  | tracked {zone : Nat} (speed : ℚ) (time : Nat) (hzone : zone ≠ 0) :
    Agrees (some ⟨zone, time, time, false, false⟩) (some ⟨zone, speed, time⟩)
  | lost {r : Record} (hzone : r.zone ≠ 0) (hdue : r.due = true) : Agrees (some r) none

structure Inv (h : History) (s : State) : Prop where
  snapInterval : h.snapInterval = s.snapInterval
  vehicleTimeout : h.vehicleTimeout = s.vehicleTimeout
  agrees : ∀ id, Agrees (h.record id) (s.vehicleInZone.find? id)
  last : s.LastSent

theorem inv_init : Inv .start .init where
  snapInterval := rfl
  vehicleTimeout := rfl
  agrees _ := .unknown
  last := rfl

namespace Agrees
variable {r : Option Record} {i : Option ZoneInfo} {snap timeout : Nat}

theorem look (h : Agrees r i) (timeout later : Nat) : Agrees (r.map (Record.look timeout later))
    (i.filter fun info => !decide (later - info.LastUpdateTime > timeout)) := by
  cases h with
  | unknown => exact .unknown
  | tracked speed time hzone =>
    by_cases hsilent : timeout < later - time
    · simp only [Option.map_some, Record.look, Option.filter_some, hsilent, gt_iff_lt, decide_true, Bool.not_true,
        Bool.false_or, Bool.false_eq_true, if_false]
      exact .lost hzone rfl
    · simp only [Option.map_some, Record.look, Option.filter_some, hsilent, gt_iff_lt, decide_false, Bool.not_false,
        Bool.false_or, if_true]
      exact .tracked speed time hzone
  | lost hzone hdue => exact .lost hzone (by simp only [Record.look, hdue, Bool.true_or])

theorem noZone_lost (h : Agrees r none) (snap timeout now : Nat) : Agrees (r.map (Record.noZone snap timeout now)) none := by
  cases h with
  | unknown => exact .unknown
  | lost hzone hdue => exact .lost hzone (by simp only [Record.noZone, hdue, Bool.true_or])

theorem noZone_silent (h : Agrees r (some info)) (hsilent : timeout < now - info.LastUpdateTime) :
    Agrees (r.map (Record.noZone snap timeout now)) none := by
  cases h with
  | tracked speed time hzone =>
    exact .lost hzone (by simp only [Record.noZone, hsilent, decide_true, Bool.or_true])

/-- However the message left the vehicle, it is gone when it is looked at. -/
theorem noZone_look (h : Agrees r (some info)) (hsilent : timeout < later - now) :
    Agrees ((r.map (Record.noZone snap timeout now)).map (Record.look timeout later)) none := by
  cases h with
  | tracked speed time hzone =>
    exact .lost hzone (by simp only [Record.look, Record.noZone, hsilent, decide_true, Bool.or_true])

end Agrees

theorem Inv.handle (hinv : Inv h s) (hstep : s.step (.bsm bsm now later) = some t) (hsound : Sound s (.bsm bsm now later)) :
    Inv (h.after (.bsm bsm now later)) t := by
  obtain ⟨hsnap, htimeout⟩ := settings_bsm hstep
  refine ⟨hinv.snapInterval.trans hsnap.symm, hinv.vehicleTimeout.trans htimeout.symm, fun id => ?_,
    last_bsm hinv.last hstep⟩
  obtain ⟨m, hm, hframe⟩ := frame_update s bsm now
  have hid := hinv.agrees bsm.vehicleId
  rw [find?_moved hstep, State.moved, State.RemoveOldVehicles, OrdMap.find?_filter, hm]
  dsimp only [History.after]
  rw [hinv.vehicleTimeout, Function.update_apply]
  by_cases heq : id = bsm.vehicleId
  · subst heq
    rw [if_pos rfl, History.report, hinv.snapInterval, hinv.vehicleTimeout]
    by_cases hzone : bsm.regionNumber = 0
    · rw [if_neg (not_not.2 hzone)]
      cases hfind : s.vehicleInZone.find? bsm.vehicleId with
      | none =>
        rw [update_untracked hzone hfind] at hm
        obtain rfl : s.vehicleInZone = m := congrArg State.vehicleInZone hm
        rw [hfind]
        rw [hfind] at hid
        exact (hid.noZone_lost _ _ _).look _ _
      | some info =>
        rw [hfind] at hid
        rcases hsound hzone info hfind with hlate | ⟨hsilent, hsnap⟩
        · have hnone : (m.find? bsm.vehicleId).filter
              (fun info => !decide (later - info.LastUpdateTime > s.vehicleTimeout)) = none := by
            rcases lt_or_ge (now - info.LastUpdateTime) s.snapInterval with hsnap | hsnap
            · rw [update_erased hzone hfind hsnap] at hm
              obtain rfl : s.vehicleInZone.erase bsm.vehicleId = m := congrArg State.vehicleInZone hm
              rw [OrdMap.find?_erase, if_pos rfl]
              rfl
            · rw [update_no_zone hzone hfind hsnap] at hm
              obtain rfl : s.vehicleInZone.insert bsm.vehicleId ⟨0, bsm.speed_mph, now⟩ = m :=
                congrArg State.vehicleInZone hm
              rw [OrdMap.find?_insert_self]
              rw [Option.filter_some, if_neg (by simpa using Nat.add_lt_of_lt_sub hlate)]
          rw [hnone]
          exact hid.noZone_look hlate
        · rw [update_erased hzone hfind hsnap] at hm
          obtain rfl : s.vehicleInZone.erase bsm.vehicleId = m := congrArg State.vehicleInZone hm
          rw [OrdMap.find?_erase, if_pos rfl]
          exact (hid.noZone_silent hsilent).look _ _
    · rw [if_pos hzone]
      rw [update_in_zone hzone] at hm
      obtain rfl : s.vehicleInZone.insert bsm.vehicleId ⟨bsm.regionNumber, bsm.speed_mph, now⟩ = m :=
        congrArg State.vehicleInZone hm
      rw [OrdMap.find?_insert_self]
      exact (Agrees.tracked _ _ hzone).look _ _
  · rw [if_neg heq, hframe id heq]
    exact (hinv.agrees id).look _ _

theorem Inv.step {e : Event} (hinv : Inv h s) (hstep : s.step e = some t) (hsound : Sound s e) : Inv (h.after e) t := by
  cases e with
  | bsm bsm now later => exact hinv.handle hstep hsound
  | UpdateConfigSettings snapInterval vehicleTimeout =>
    obtain rfl := Option.some.inj hstep
    exact ⟨rfl, rfl, hinv.agrees, hinv.last⟩
  | LoadTim speedLimit =>
    obtain rfl := Option.some.inj hstep
    exact ⟨hinv.snapInterval, hinv.vehicleTimeout, hinv.agrees, hinv.last⟩

/-- A vehicle that is tracked and reports no zone is erased too early, or kept in zone 0. -/
theorem sound_of_tracks {es : List Event} {e : Event} (hinv : Inv (history es) s) (hstep : s.step e = some t)
    (h : Tracks (es ++ [e]) t) : Sound s e := by
  cases e with
  | bsm bsm now later =>
    intro hzone info hfind
    by_contra hnot
    obtain ⟨hlate, hsilent⟩ := not_or.1 hnot
    have hmoved : ∀ m, s.UpdateVehicleInZone bsm now = { s with vehicleInZone := m } → t.vehicleInZone.find? bsm.vehicleId =
        (m.find? bsm.vehicleId).filter fun info => !decide (later - info.LastUpdateTime > s.vehicleTimeout) := by
      intro m hm
      rw [find?_moved hstep, State.moved, State.RemoveOldVehicles, OrdMap.find?_filter, hm]
    rcases lt_or_ge (now - info.LastUpdateTime) s.snapInterval with hsnap | hsnap
    · have herased := hmoved _ (update_erased hzone hfind hsnap)
      rw [OrdMap.find?_erase, if_pos rfl, Option.filter_none] at herased
      have hid := hinv.agrees bsm.vehicleId
      rw [hfind] at hid
      generalize hr : (history es).record bsm.vehicleId = r at hid
      cases hid with
      | tracked speed time hne =>
        have hstays := h.stays bsm.vehicleId
        rw [history_concat] at hstays
        dsimp only [History.after] at hstays
        rw [Function.update_self, History.report, if_neg (not_not.2 hzone), hr, hinv.snapInterval,
          hinv.vehicleTimeout] at hstays
        obtain ⟨info', hinfo', -⟩ := hstays _ rfl (by
          simp only [Record.look, Record.noZone, Bool.false_or, Bool.or_eq_false_iff, decide_eq_false_iff_not]
          exact ⟨⟨not_le.2 hsnap, fun hlt => hsilent ⟨hlt, hsnap⟩⟩, hlate⟩)
        exact nomatch hinfo'.symm.trans herased
    · have hkept := hmoved _ (update_no_zone hzone hfind hsnap)
      rw [OrdMap.find?_insert_self, Option.filter_some, if_pos (by simpa using not_lt.1 hlate)] at hkept
      exact h.zone _ _ hkept rfl
  | UpdateConfigSettings snapInterval vehicleTimeout => trivial
  | LoadTim speedLimit => trivial

/-! ### Runs -/

theorem Inv.zone (hinv : Inv h s) (hinfo : s.vehicleInZone.find? id = some info) : info.ZoneId ≠ 0 := by
  have hid := hinv.agrees id
  rw [hinfo] at hid
  generalize h.record id = r at hid
  cases hid with
  | tracked speed time hzone => exact hzone

theorem Inv.tracks (es : List Event) (hinv : Inv (history es) s)
    (hsign : ∀ es' bsm now later, es = es' ++ [.bsm bsm now later] →
      s.Warns ∧ s.sent.getLast? = some 3 ∨ ¬ s.Warns ∧ s.sent.getLast? = some 0) : Tracks es s := by
  refine ⟨fun id info hinfo => hinv.zone hinfo, fun id r hr hdue => ?_, fun id r hr hgone => ?_, hsign⟩
  all_goals have hid := hinv.agrees id
  · rw [hr] at hid
    generalize s.vehicleInZone.find? id = i at hid
    cases hid with
    | tracked speed time hzone => exact ⟨_, rfl, rfl⟩
    | lost hzone h => exact nomatch hdue.symm.trans h
  · rw [hr] at hid
    generalize s.vehicleInZone.find? id = i at hid
    cases hid with
    | tracked speed time hzone => exact nomatch hgone
    | lost hzone h => rfl

theorem tracks_init : Tracks [] plugin.init :=
  Inv.tracks [] inv_init fun es' bsm now later h => absurd h (by simp)

theorem tracks_step {es : List Event} {e : Event} (hinv : Inv (history es) s) (hsound : Sound s e)
    (hstep : s.step e = some t) : Inv (history (es ++ [e])) t ∧ Tracks (es ++ [e]) t := by
  have hnext : Inv (history (es ++ [e])) t := by
    rw [history_concat]
    exact hinv.step hstep hsound
  refine ⟨hnext, hnext.tracks _ fun es' bsm now later h => ?_⟩
  obtain rfl := (List.append_singleton_inj.1 h).2
  exact sign_bsm hinv.last hstep fun id info hinfo => hnext.zone hinfo

theorem curve_warning {es : List Event} (h : plugin.exec plugin.init es = some s) :
    (∀ es' s', es' <+: es → plugin.exec plugin.init es' = some s' → Tracks es' s') ↔
      plugin.Meets Sound plugin.init es :=
  plugin.always_iff_meets (I := fun es s => Inv (history es) s ∧ Tracks es s) ⟨inv_init, tracks_init⟩
    (fun _ _ _ _ hinv hsound hstep => tracks_step hinv.1 hsound hstep) (fun _ _ hinv => hinv.2)
    (fun _ _ _ _ hinv hstep htracks => sound_of_tracks hinv.1 hstep htracks) h

/-- A vehicle too fast in zone 2. -/
theorem curve_warning_vehicle :
    (∀ es' s', es' <+: [.UpdateConfigSettings 300 2000, .bsm ⟨7, 2, 40⟩ 1000 1000] →
      plugin.exec plugin.init es' = some s' → Tracks es' s') ↔
      plugin.Meets Sound plugin.init [.UpdateConfigSettings 300 2000, .bsm ⟨7, 2, 40⟩ 1000 1000] :=
  curve_warning (s := ((plugin.exec plugin.init [.UpdateConfigSettings 300 2000, .bsm ⟨7, 2, 40⟩ 1000 1000]).get rfl))
    (Option.some_get _).symm

/-- The vehicle reports no zone 100 ms later, with a snap interval of 300 ms. -/
theorem curve_warning_erases : ∃ s, plugin.exec plugin.init
    [.UpdateConfigSettings 300 2000, .bsm ⟨7, 2, 40⟩ 1000 1000, .bsm ⟨7, 0, 40⟩ 1100 1100] = some s ∧ ¬ Tracks
      [.UpdateConfigSettings 300 2000, .bsm ⟨7, 2, 40⟩ 1000 1000, .bsm ⟨7, 0, 40⟩ 1100 1100] s := by
  refine ⟨_, rfl, fun h => ?_⟩
  obtain ⟨info, hinfo, -⟩ := h.stays 7 ⟨2, 1000, 1100, false, false⟩ rfl rfl
  exact nomatch hinfo

end V2xHub.CswPlugin
