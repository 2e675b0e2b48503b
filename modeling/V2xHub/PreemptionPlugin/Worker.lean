import V2xHub.Lib.Machine
import V2xHub.Lib.OrdMap
import V2xHub.Lib.Printf

/-!
# The worker of the preemption plugin

`VehicleLocatorWorker` looks for the first geofence of the configuration that a message places its vehicle in,
`PreemptionPlaner` turns plans on and off through SNMP. `preemption_map` has one plan for each vehicle, the one
that was turned on for it. The arithmetic of `double` and `long double` is a parameter.
-/

namespace V2xHub.PreemptionPlugin

/-- `double` and `long double`, as far as the worker computes with them. -/
structure Arith where
  Double : Type
  LongDouble : Type
  /-- The literal `mantissa / 10 ^ decimals`. -/
  literal : Nat → Nat → Double
  ofInt : Int → Double
  sub : Double → Double → Double
  mul : Double → Double → Double
  div : Double → Double → Double
  extend : Double → LongDouble
  extendInt : Int → LongDouble
  addL : LongDouble → LongDouble → LongDouble
  subL : LongDouble → LongDouble → LongDouble
  mulL : LongDouble → LongDouble → LongDouble
  divL : LongDouble → LongDouble → LongDouble
  lt : LongDouble → LongDouble → Bool
  le : LongDouble → LongDouble → Bool

structure GeofenceObject (A : Arith) where
  geox : List A.Double
  geoy : List A.Double
  preemptCall : Int
  minHeading : Int
  maxHeading : Int

/-- The parts of `coreData` that are read. -/
structure Bsm where
  id : Fin 4 → UInt8
  lat : Int
  long : Int
  heading : Int

structure VehicleCoordinate (A : Arith) where
  lat : A.LongDouble
  lon : A.LongDouble
  heading : A.LongDouble

structure PreemptionObject where
  approach : Str := []
  preemptionPlan : Str := []
  vehicleId : Int := 0

structure Config (A : Arith) where
  geofenceSet : List (GeofenceObject A)
  basePreemptionOid : Str

variable {A : Arith}

def ingress : Str := CString.lit "1"

def egress : Str := CString.lit "0"

def flagOn : Str := CString.lit "1"

def flagOff : Str := CString.lit "0"

/-- `&&` of two conditions that can throw. -/
def both (a b : Option Bool) : Option Bool := a.bind fun a => if a then b else some false

/-- `||` of two conditions that can throw. -/
def either (a b : Option Bool) : Option Bool := a.bind fun a => if a then some true else b

/-- The condition of the loop over the corners. `at` throws where there is no such element. -/
def crosses (x y : A.LongDouble) (geox geoy : List A.Double) (i j : Nat) : Option Bool :=
  let below (k : Nat) := geoy[k]?.map fun v => A.lt (A.extend v) y
  let notBelow (k : Nat) := geoy[k]?.map fun v => A.le y (A.extend v)
  let leftOf (k : Nat) := geox[k]?.map fun v => A.le (A.extend v) x
  let crossing := do
    let xi ← geox[i]?
    let yi ← geoy[i]?
    let yj ← geoy[j]?
    let xj ← geox[j]?
    let slope := A.divL (A.subL y (A.extend yi)) (A.extend (A.sub yj yi))
    return A.lt (A.addL (A.extend xi) (A.mulL slope (A.extend (A.sub xj xi)))) x
  both (both (either (both (below i) (notBelow j)) (both (below j) (notBelow i))) (either (leftOf i) (leftOf j)))
    crossing

def CarInGeofence (x y : A.LongDouble) (geox geoy : List A.Double) (geoCorners : Nat) : Option Bool :=
  ((List.range geoCorners).foldlM (fun (state : Nat × Bool) i =>
    (crosses x y geox geoy i state.1).map fun c => (i, if c then !state.2 else state.2))
    (geoCorners - 1, false)).map Prod.snd

/-- The four octets, the first one the highest, as an `int32_t`. -/
def GetInt32 (buf : Fin 4 → UInt8) : Int :=
  ((buf 0).toBitVec ++ (buf 1).toBitVec ++ (buf 2).toBitVec ++ (buf 3).toBitVec).toInt

namespace Bsm

def vehicleId (bsm : Bsm) : Int := GetInt32 bsm.id

def coordinate (A : Arith) (bsm : Bsm) : VehicleCoordinate A where
  lat := A.extend (A.div (A.ofInt bsm.lat) (A.literal 10000000 0))
  lon := A.extend (A.div (A.ofInt bsm.long) (A.literal 10000000 0))
  heading := A.extend (A.mul (A.ofInt bsm.heading) (A.literal 125 4))

end Bsm

namespace GeofenceObject

def inGeo (it : GeofenceObject A) (vehicleCoordinate : VehicleCoordinate A) : Option Bool :=
  CarInGeofence vehicleCoordinate.lon vehicleCoordinate.lat it.geoy it.geox it.geox.length

def heads (it : GeofenceObject A) (vehicleCoordinate : VehicleCoordinate A) : Bool :=
  A.lt (A.extendInt it.minHeading) vehicleCoordinate.heading &&
    A.lt vehicleCoordinate.heading (A.extendInt it.maxHeading)

end GeofenceObject

/-- The loop of `VehicleLocatorWorker`: what `PreemptionPlaner` is called with, nothing where a test throws. -/
def locate (vehicleCoordinate : VehicleCoordinate A) (po : PreemptionObject) :
    List (GeofenceObject A) → Option PreemptionObject
  | [] => some po
  | it :: rest =>
    (it.inGeo vehicleCoordinate).bind fun inGeo =>
      if inGeo then
        if it.heads vehicleCoordinate then
          some { po with approach := ingress, preemptionPlan := Printf.lld it.preemptCall }
        else locate vehicleCoordinate { po with approach := egress } rest
      else locate vehicleCoordinate { po with approach := egress } rest

/-- The map, the SNMP sets that went out and the messages that came in, the latest first. -/
structure State where
  preemptionMap : OrdMap Int PreemptionObject
  sent : List (Str × Str)
  received : List Bsm

namespace State

def SendOid (s : State) (preemptionOid value : Str) : State := { s with sent := (preemptionOid, value) :: s.sent }

def TurnOnPreemption (c : Config A) (s : State) (po : PreemptionObject) : State :=
  SendOid { s with preemptionMap := s.preemptionMap.insert po.vehicleId po }
    (c.basePreemptionOid ++ po.preemptionPlan) flagOn

/-- `preemption_map[vehicle_id]` of a vehicle that is in the map. -/
def TurnOffPreemption (c : Config A) (s : State) (po : PreemptionObject) : State :=
  let preemptionPlan := ((s.preemptionMap.find? po.vehicleId).getD {}).preemptionPlan
  let s := s.SendOid (c.basePreemptionOid ++ preemptionPlan) flagOff
  { s with preemptionMap := s.preemptionMap.erase po.vehicleId }

def PreemptionPlaner (c : Config A) (s : State) (po : PreemptionObject) : State :=
  if po.approach = ingress then
    match s.preemptionMap.find? po.vehicleId with
    | none => s.TurnOnPreemption c po
    | some _ => s
  else if po.approach = egress then
    match s.preemptionMap.find? po.vehicleId with
    | none => s
    | some _ => s.TurnOffPreemption c po
  else s

def VehicleLocatorWorker (c : Config A) (s : State) (bsm : Bsm) : State :=
  let s := { s with received := bsm :: s.received }
  match locate (bsm.coordinate A) { vehicleId := bsm.vehicleId } c.geofenceSet with
  | none => s
  | some po => s.PreemptionPlaner c po

end State

def machine (c : Config A) : Machine State Bsm where
  init := ⟨OrdMap.empty, [], []⟩
  step s bsm := some (s.VehicleLocatorWorker c bsm)

end V2xHub.PreemptionPlugin
