import V2xHub.Lib.Machine
import V2xHub.Lib.OrdMap
import Mathlib.Algebra.Order.Field.Rat

/-!
# The curve speed warning plugin

What `CswPlugin` does with the basic safety messages that `VehicleLocate::ProcessBsmMessage` accepts. A message is one
event with two readings of the clock, one for the update of its vehicle and one for the removal of old vehicles; the
clock does not run backwards. The settings and the curve file may be read anew between two messages.
-/

namespace V2xHub.CswPlugin

abbrev VehicleId := Int

structure ZoneInfo where
  ZoneId : Nat
  Speed_mph : ℚ
  LastUpdateTime : Nat
deriving DecidableEq

/-- What `ProcessBsmMessage` finds. A region that is not found is 0; a speed is far below 2 ^ 24, so a float holds
every speed limit that it can exceed. -/
structure Bsm where
  vehicleId : VehicleId
  regionNumber : Nat
  speed_mph : ℚ

/-- The members, with the clock and the ids of the messages that were sent to the sign. -/
structure State where
  vehicleInZone : OrdMap VehicleId ZoneInfo
  snapInterval : Nat
  vehicleTimeout : Nat
  speedLimit : Nat
  lastMsgIdSent : Int
  clock : Nat
  sent : List Int

def State.init : State where
  vehicleInZone := .empty
  snapInterval := 0
  vehicleTimeout := 1000
  speedLimit := 0
  lastMsgIdSent := -1
  clock := 0
  sent := []

inductive Event where
  | bsm (bsm : Bsm) (now later : Nat)
  | UpdateConfigSettings (snapInterval vehicleTimeout : Nat)
  | LoadTim (speedLimit : Nat)

namespace State

/-- The comment says that a vehicle in no zone is removed; the time of the vehicle is the one of its last message. -/
def UpdateVehicleInZone (s : State) (bsm : Bsm) (now : Nat) : State :=
  match s.vehicleInZone.find? bsm.vehicleId with
  | none =>
    if bsm.regionNumber ≠ 0 then
      { s with vehicleInZone := s.vehicleInZone.insert bsm.vehicleId ⟨bsm.regionNumber, bsm.speed_mph, now⟩ }
    else s
  | some info =>
    if bsm.regionNumber = 0 ∧ now - info.LastUpdateTime < s.snapInterval then
      { s with vehicleInZone := s.vehicleInZone.erase bsm.vehicleId }
    else
      let info :=
        if info.ZoneId ≠ bsm.regionNumber ∨ info.Speed_mph ≠ bsm.speed_mph then
          { info with ZoneId := bsm.regionNumber, Speed_mph := bsm.speed_mph }
        else info
      { s with vehicleInZone := s.vehicleInZone.insert bsm.vehicleId { info with LastUpdateTime := now } }

def RemoveOldVehicles (s : State) (now : Nat) : State :=
  { s with vehicleInZone := s.vehicleInZone.filter fun _ info => !decide (now - info.LastUpdateTime > s.vehicleTimeout) }

/-- The loop over the vehicles; the lower the zone id, the higher the priority. -/
def highest (speedLimit_mph : Nat) (id : Nat) (vehicles : List (VehicleId × ZoneInfo)) : Nat :=
  vehicles.foldl (fun id kv =>
    if kv.2.ZoneId ≠ 0 ∧ id > kv.2.ZoneId ∧ kv.2.Speed_mph > (speedLimit_mph : ℚ) then kv.2.ZoneId else id) id

/-- Of the vehicles that `RemoveOldVehicles` has left. -/
def GetHighestPriorityZoneId (s : State) : Nat :=
  let id := highest s.speedLimit 9999 s.vehicleInZone.entries
  if id = 9999 then 0 else id

def send (s : State) (msgId : Int) : State :=
  if s.lastMsgIdSent ≠ msgId then { s with lastMsgIdSent := msgId, sent := s.sent ++ [msgId] } else s

def HandleBasicSafetyMessage (s : State) (bsm : Bsm) (now later : Nat) : State :=
  let s := (s.UpdateVehicleInZone bsm now).RemoveOldVehicles later
  let zoneId := s.GetHighestPriorityZoneId
  s.send (if zoneId ≥ 1 ∧ zoneId ≤ 3 then 3 else 0)

def step (s : State) : Event → Option State
  | .bsm bsm now later =>
    if s.clock ≤ now ∧ now ≤ later then some { s.HandleBasicSafetyMessage bsm now later with clock := later } else none
  | .UpdateConfigSettings snapInterval vehicleTimeout =>
    some { s with snapInterval := snapInterval, vehicleTimeout := vehicleTimeout }
  | .LoadTim speedLimit => some { s with speedLimit := speedLimit }

end State

def plugin : Machine State Event := ⟨State.init, State.step⟩

end V2xHub.CswPlugin
