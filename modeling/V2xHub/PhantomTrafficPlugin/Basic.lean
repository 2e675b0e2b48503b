import V2xHub.Lib.Double
import V2xHub.Lib.Machine
import V2xHub.Lib.OrdMap
import Mathlib.Data.Fintype.Card
import Mathlib.Data.Fintype.Fin

/-!
# The phantom traffic plugin

`PhantomTrafficPlugin`: basic safety messages on the one thread, the loop of `Main` on the other. What a thread does
between two points where the other may come in is one event: the first statement of the message handler, its rest
under the lock, and the parts of `HandleHeartbeat`. The clock does not run backwards. The database message, which
only reads, is left out.
-/

namespace V2xHub.PhantomTrafficPlugin

/-- The four bytes of an id as a number. -/
abbrev VehicleId := Fin (2 ^ 32)

/-- The fields of a message that are read. -/
structure BasicSafetyMessage where
  id : VehicleId
  speed : Int
  Long : Int
deriving DecidableEq

def SLOW_DOWN_THRES : Double := .ofInt 10

def NEW_SPEED_FACTOR : Double := .ofInt 3

def MAX_MISSING_HEARTBEAT : Nat := 5

/-- In milliseconds. -/
def STALE_THRESHOLD : Nat := 3 * 1000

def MIN_SPEED : Int := 5

def MAX_SPEED : Int := 25

def MAX_VEHICLES_IN_SLOWDOWN : Nat := 15

def START_LONG : Double := .ofRat (-123177763 / 1000000)

def END_LONG : Double := .ofRat (-123176181 / 1000000)

def original_speed : Double := .ofInt 25

/-- Where the loop of `Main` is. -/
inductive Phase where
  | process
  | adjust
  | check
  | reset
  | clear
deriving DecidableEq

/-- The members, with the clock and the speed limits that were sent. -/
structure State where
  vehicle_count : Nat
  vehicle_ids : OrdMap VehicleId Nat
  last_speeds : OrdMap VehicleId Double
  average_speed : Double
  previous_sent_speed : Double
  num_missing_heartbeat : Nat
  heartbeat : Bool
  sysreset : Bool
  phase : Phase
  clock : Nat
  sent : List Double

/-- Behind the constructor and `InitializePlugin`. -/
def State.init : State where
  vehicle_count := 0
  vehicle_ids := .empty
  last_speeds := .empty
  average_speed := .ofInt 0
  previous_sent_speed := .ofInt 0
  num_missing_heartbeat := 0
  heartbeat := false
  sysreset := false
  phase := .process
  clock := 0
  sent := []

inductive Event where
  /-- The first statement of `HandleBasicSafetyMessage`. -/
  | heartbeat
  /-- Its rest. -/
  | track (bsm : BasicSafetyMessage) (now : Nat)
  | process (now : Nat)
  | adjust
  /-- The conditions at the end of `HandleHeartbeat`. -/
  | check
  | reset
  | clear
deriving DecidableEq

/-- The vehicle is in the slowdown region. -/
def BasicSafetyMessage.inRegion (bsm : BasicSafetyMessage) : Bool :=
  let vehicle_long := ((Double.ofInt bsm.Long).div (.ofInt 1000000)).sub (.ofInt 180)
  START_LONG.le vehicle_long && vehicle_long.le END_LONG

namespace State

def HandleBasicSafetyMessage (s : State) (bsm : BasicSafetyMessage) (now : Nat) : State :=
  let s := { s with last_speeds := s.last_speeds.insert bsm.id (.ofInt (bsm.speed.tdiv 1000)) }
  if bsm.inRegion then
    if s.vehicle_ids.find? bsm.id = none then
      { s with vehicle_ids := s.vehicle_ids.insert bsm.id now, vehicle_count := s.vehicle_count + 1 }
    else { s with vehicle_ids := s.vehicle_ids.insert bsm.id now }
  else s

/-- The vehicle with a last message at `time` is erased. -/
def stale (now time : Nat) : Bool := now - time > STALE_THRESHOLD

/-- Each vehicle that is erased is counted down. -/
def CleanupStaleVehicles (s : State) (now : Nat) : State :=
  { s with
    vehicle_ids := s.vehicle_ids.filter fun _ time => !stale now time
    vehicle_count := s.vehicle_count - (s.vehicle_ids.entries.filter fun e => stale now e.2).length }

/-- `(uint16_t)d`. -/
def toUInt16 (d : Double) : Nat := (d.toInt64 % 2 ^ 16).toNat

/-- A tracked vehicle has a speed, so the lookup adds none. -/
def CalculateAverageSpeed (s : State) : State :=
  let total := s.vehicle_ids.entries.foldl
    (fun average e => average.add ((s.last_speeds.find? e.1).getD (.ofInt 0))) (Double.ofInt 0)
  let count := s.vehicle_ids.entries.length
  let average := if count > 0 then total.div (.ofInt count) else original_speed
  { s with average_speed := average.sub (.ofInt (toUInt16 average % 2 : Nat)) }

def ProcessTrafficData (s : State) (now : Nat) : State := (s.CleanupStaleVehicles now).CalculateAverageSpeed

def new_speed (s : State) : Double :=
  let speed := (NEW_SPEED_FACTOR.mul s.average_speed).sub
    (.ofInt (MAX_SPEED * (s.vehicle_count / MAX_VEHICLES_IN_SLOWDOWN : Nat)))
  if speed.le (.ofInt MIN_SPEED) then .ofInt MIN_SPEED
  else if (Double.ofInt MAX_SPEED).le speed then .ofInt MAX_SPEED
  else speed

def send (s : State) (speed : Double) : State := { s with sent := s.sent ++ [speed], previous_sent_speed := speed }

def AdjustSpeedLimit (s : State) : State :=
  if s.average_speed.lt SLOW_DOWN_THRES && s.vehicle_ids.entries.length > 0 then s.send s.new_speed
  else if s.previous_sent_speed ≠ original_speed then s.send original_speed
  else s

def reset_systemvars (s : State) : State :=
  { s with
    vehicle_count := 0
    vehicle_ids := .empty
    last_speeds := .empty
    heartbeat := false
    sysreset := true }

/-- The counter goes up whenever it is looked at. -/
def check (s : State) : State :=
  if s.heartbeat then { s with phase := .clear }
  else if s.sysreset then { s with phase := .process }
  else
    { s with
      num_missing_heartbeat := s.num_missing_heartbeat + 1
      phase := if s.num_missing_heartbeat > MAX_MISSING_HEARTBEAT then .reset else .process }

def step (s : State) : Event → Option State
  | .heartbeat => some { s with heartbeat := true }
  | .track bsm now => if s.clock ≤ now then some { s.HandleBasicSafetyMessage bsm now with clock := now } else none
  | .process now =>
    if s.phase = .process ∧ s.clock ≤ now then
      some { s.ProcessTrafficData now with clock := now, phase := .adjust }
    else none
  | .adjust => if s.phase = .adjust then some { s.AdjustSpeedLimit with phase := .check } else none
  | .check => if s.phase = .check then some s.check else none
  | .reset => if s.phase = .reset then some { s.reset_systemvars with phase := .process } else none
  | .clear =>
    if s.phase = .clear then
      some { s with heartbeat := false, sysreset := false, num_missing_heartbeat := 0, phase := .process }
    else none

end State

def plugin : Machine State Event := ⟨State.init, State.step⟩

end V2xHub.PhantomTrafficPlugin
