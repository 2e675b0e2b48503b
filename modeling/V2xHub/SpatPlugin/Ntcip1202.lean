import V2xHub.Lib.CString
import V2xHub.Lib.OrdMap

/-!
# NTCIP 1202 blocks and the SPAT made of them

`copyBytesIntoNtcip1202` copies a datagram over the packed struct `Ntcip1202Ext` and maps each phase number to
the slot that has it, `ToJ2735r41SPAT` makes a movement for every mapping entry of a slot's phase. An access out
of bounds (of the struct, of its sixteen slots, or of the sixteen bits of a status word) has no result.
-/

namespace V2xHub.SpatPlugin

/-- A field of two bytes, in the order of the memory. -/
abbrev Word := UInt8 × UInt8

/-- The value in network order. -/
def ntohs (w : Word) : Nat := w.1.toNat * 256 + w.2.toNat

/-- The test of the field itself for 0, which does not depend on the order. -/
def Word.positive (w : Word) : Bool := w.1 ≠ 0 ∨ w.2 ≠ 0

structure Ntcip1202Ext_PhaseTime where
  phaseNumber : UInt8
  spatVehMinTimeToChange : Word
  spatVehMaxTimeToChange : Word
  spatPedMinTimeToChange : Word
  spatPedMaxTimeToChange : Word
  spatOvlpMinTimeToChange : Word
  spatOvpMaxTimeToChange : Word

/-- The members that are read. -/
structure Ntcip1202Ext where
  phaseTimes : Fin 16 → Ntcip1202Ext_PhaseTime
  phaseStatusGroupReds : Word
  phaseStatusGroupYellows : Word
  phaseStatusGroupGreens : Word
  phaseStatusGroupDontWalks : Word
  phaseStatusGroupPedClears : Word
  phaseStatusGroupWalks : Word
  overlapStatusGroupReds : Word
  overlapStatusGroupYellows : Word
  overlapStatusGroupGreens : Word
  flashingOutputPhaseStatus : Word
  flashingOutputOverlapStatus : Word
  spatIntersectionStatus : UInt8
  spatPedestrianDetect : Word

def sizeofNtcip1202Ext : Nat := 245

/-- The bytes of a struct. -/
abbrev Memory := Nat → UInt8

def Memory.word (m : Memory) (offset : Nat) : Word := (m offset, m (offset + 1))

def Ntcip1202Ext.phaseTimeOf (m : Memory) (offset : Nat) : Ntcip1202Ext_PhaseTime where
  phaseNumber := m offset
  spatVehMinTimeToChange := m.word (offset + 1)
  spatVehMaxTimeToChange := m.word (offset + 3)
  spatPedMinTimeToChange := m.word (offset + 5)
  spatPedMaxTimeToChange := m.word (offset + 7)
  spatOvlpMinTimeToChange := m.word (offset + 9)
  spatOvpMaxTimeToChange := m.word (offset + 11)

/-- The layout of the struct, which is packed. -/
def Ntcip1202Ext.ofMemory (m : Memory) : Ntcip1202Ext where
  phaseTimes i := phaseTimeOf m (2 + 13 * i)
  phaseStatusGroupReds := m.word 210
  phaseStatusGroupYellows := m.word 212
  phaseStatusGroupGreens := m.word 214
  phaseStatusGroupDontWalks := m.word 216
  phaseStatusGroupPedClears := m.word 218
  phaseStatusGroupWalks := m.word 220
  overlapStatusGroupReds := m.word 222
  overlapStatusGroupYellows := m.word 224
  overlapStatusGroupGreens := m.word 226
  flashingOutputPhaseStatus := m.word 228
  flashingOutputOverlapStatus := m.word 230
  spatIntersectionStatus := m 232
  spatPedestrianDetect := m.word 243

structure SignalGroupMapping where
  signalGroupId : Int
  phaseId : Int
  type : Str
deriving DecidableEq

structure Ntcip1202 where
  ntcip1202Data : Ntcip1202Ext
  phaseToIndexMapping : OrdMap Nat (Fin 16)

/-- `memcpy` onto the struct. -/
def memcpy (m : Memory) (buff : List UInt8) : Option Memory :=
  if buff.length ≤ sizeofNtcip1202Ext then some fun i => buff.getD i (m i) else none

def mapPhase (data : Ntcip1202Ext) (mapping : OrdMap Nat (Fin 16)) (i : Fin 16) : OrdMap Nat (Fin 16) :=
  let phaseNumber := (data.phaseTimes i).phaseNumber.toNat
  if 0 < phaseNumber then mapping.insert phaseNumber i else mapping

/-- Onto an object whose struct has the bytes `m`. -/
def copyBytesIntoNtcip1202 (m : Memory) (buff : List UInt8) : Option Ntcip1202 :=
  (memcpy m buff).map fun m =>
    let data := Ntcip1202Ext.ofMemory m
    ⟨data, (List.finRange 16).foldl (mapPhase data) OrdMap.empty⟩

/-- A bit of a status word; the shift count is one less than the phase number. -/
def statusBit (w : Word) (phaseNumber : Nat) : Option Bool :=
  if 1 ≤ phaseNumber ∧ phaseNumber ≤ 16 then some ((ntohs w).testBit (phaseNumber - 1)) else none

namespace Ntcip1202
variable (n : Ntcip1202)

/-- `phaseTimes[_phaseToIndexMapping[phaseNumber]]`, where the map makes an entry for slot 0 if it has none. -/
def phaseTime (phaseNumber : Nat) : Ntcip1202Ext_PhaseTime :=
  n.ntcip1202Data.phaseTimes ((n.phaseToIndexMapping.find? (phaseNumber % 256)).getD 0)

def getVehicleMinTime (phaseNumber : Nat) : Nat := ntohs (n.phaseTime phaseNumber).spatVehMinTimeToChange

def getVehicleMaxTime (phaseNumber : Nat) : Nat := ntohs (n.phaseTime phaseNumber).spatVehMaxTimeToChange

def getPedMinTime (phaseNumber : Nat) : Nat := ntohs (n.phaseTime phaseNumber).spatPedMinTimeToChange

def getPedMaxTime (phaseNumber : Nat) : Nat := ntohs (n.phaseTime phaseNumber).spatPedMaxTimeToChange

def getOverlapMinTime (phaseNumber : Nat) : Nat := ntohs (n.phaseTime phaseNumber).spatOvlpMinTimeToChange

def getOverlapMaxTime (phaseNumber : Nat) : Nat := ntohs (n.phaseTime phaseNumber).spatOvpMaxTimeToChange

def getPhaseFlashingStatus := statusBit n.ntcip1202Data.flashingOutputPhaseStatus

def getOverlapFlashingStatus := statusBit n.ntcip1202Data.flashingOutputOverlapStatus

def getPhaseRedStatus := statusBit n.ntcip1202Data.phaseStatusGroupReds

def getPhaseYellowStatus := statusBit n.ntcip1202Data.phaseStatusGroupYellows

def getPhaseGreensStatus := statusBit n.ntcip1202Data.phaseStatusGroupGreens

def getPhaseDontWalkStatus := statusBit n.ntcip1202Data.phaseStatusGroupDontWalks

def getPhasePedClearsStatus := statusBit n.ntcip1202Data.phaseStatusGroupPedClears

def getPhaseWalkStatus := statusBit n.ntcip1202Data.phaseStatusGroupWalks

def getOverlapRedStatus := statusBit n.ntcip1202Data.overlapStatusGroupReds

def getOverlapYellowStatus := statusBit n.ntcip1202Data.overlapStatusGroupYellows

def getOverlapGreenStatus := statusBit n.ntcip1202Data.overlapStatusGroupGreens

def getSpatPedestrianDetect := statusBit n.ntcip1202Data.spatPedestrianDetect

end Ntcip1202

/-! ### Time -/

structure Clock where
  nowInSeconds : Nat
  nowInMilliseconds : Nat

structure Tm where
  tm_sec : Nat
  tm_min : Nat
  tm_hour : Nat
  tm_yday : Nat

def isLeap (year : Nat) : Bool := year % 4 = 0 ∧ (year % 100 ≠ 0 ∨ year % 400 = 0)

/-- The day of the year, counted through eras of 400 years that begin in March. -/
def yday (days : Nat) : Nat :=
  let z := days + 719468
  let dayOfEra := z % 146097
  let yearOfEra := (dayOfEra - dayOfEra / 1460 + dayOfEra / 36524 - dayOfEra / 146096) / 365
  let dayOfYear := dayOfEra - (365 * yearOfEra + yearOfEra / 4 - yearOfEra / 100)
  let year := yearOfEra + z / 146097 * 400
  if 306 ≤ dayOfYear then dayOfYear - 306 else dayOfYear + 59 + if isLeap year then 1 else 0

def gmtime (epochSec : Nat) : Tm where
  tm_sec := epochSec % 60
  tm_min := epochSec / 60 % 60
  tm_hour := epochSec / 3600 % 24
  tm_yday := yday (epochSec / 86400)

example : yday 365 = 0 ∧ yday 789 = 59 ∧ yday 1095 = 365 ∧ yday 1096 = 0 := by decide

def getAdjustedTime (clock : Clock) (offset_tenthofSec : Nat) : Nat :=
  let epochMs := clock.nowInMilliseconds + offset_tenthofSec * 100
  let utctime := gmtime (epochMs / 1000)
  utctime.tm_min * 600 + utctime.tm_sec * 10 + epochMs % 1000 / 100

/-! ### SPAT -/

inductive MovementPhaseState where
  | dark
  | stop_Then_Proceed
  | stop_And_Remain
  | permissive_Movement_Allowed
  | protected_Movement_Allowed
  | protected_clearance
  | caution_Conflicting_Traffic
deriving DecidableEq

structure TimeChangeDetails where
  minEndTime : Nat
  maxEndTime : Option Nat
deriving DecidableEq

structure MovementEvent where
  eventState : MovementPhaseState
  timing : TimeChangeDetails
deriving DecidableEq

structure ConnectionManeuverAssist where
  connectionID : Nat
  pedBicycleDetect : Bool
deriving DecidableEq

structure MovementState where
  signalGroup : Int
  state_time_speed : List MovementEvent
  maneuverAssistList : List ConnectionManeuverAssist
deriving DecidableEq

structure IntersectionState where
  name : Str
  id : Int
  revision : Nat
  moy : Nat
  timeStamp : Nat
  status : UInt8 × UInt8
  states : List MovementState

structure SPAT where
  intersections : List IntersectionState

/-- Equal but for case. -/
def iequals (a b : Str) : Bool := a.map CString.tolower = b.map CString.tolower

inductive Kind where
  | vehicle
  | pedestrian
  | overlap
deriving DecidableEq

def Kind.name : Kind → Str
  | .vehicle => CString.lit "vehicle"
  | .pedestrian => CString.lit "pedestrian"
  | .overlap => CString.lit "overlap"

namespace Ntcip1202
variable (n : Ntcip1202) (clock : Clock)

def timing (minTime maxTime : Nat) (hasMaxTime : Bool) : TimeChangeDetails where
  minEndTime := getAdjustedTime clock minTime
  maxEndTime := if hasMaxTime then some (getAdjustedTime clock maxTime) else none

/-- The state of a signal head, from its status bits. -/
def headState (isFlashing red yellow green : Option Bool) (greenState : MovementPhaseState) :
    Option MovementPhaseState := do
  let isFlashing ← isFlashing
  let red ← red
  if red then return if isFlashing then .stop_Then_Proceed else .stop_And_Remain
  else
    let yellow ← yellow
    if yellow then return if isFlashing then .caution_Conflicting_Traffic else .protected_clearance
    else
      let green ← green
      return if green then greenState else .dark

def walkState (dontWalk pedClear walk : Option Bool) : Option MovementPhaseState := do
  let dontWalk ← dontWalk
  if dontWalk then return .stop_And_Remain
  else
    let pedClear ← pedClear
    if pedClear then return .protected_clearance
    else
      let walk ← walk
      return if walk then .permissive_Movement_Allowed else .dark

/-- The test for a maximum time takes the phase number for the index of a slot. -/
def hasPedMaxTime (phase : Nat) : Option Bool :=
  if h : phase < 16 then some (n.ntcip1202Data.phaseTimes ⟨phase, h⟩).spatPedMaxTimeToChange.positive else none

def populateVehicleSignalGroup (signalGroup : Int) (phase : Nat) : Option MovementState := do
  let eventState ← headState (n.getPhaseFlashingStatus phase) (n.getPhaseRedStatus phase)
    (n.getPhaseYellowStatus phase) (n.getPhaseGreensStatus phase) .protected_Movement_Allowed
  let maxTime := n.getVehicleMaxTime phase
  return ⟨signalGroup, [⟨eventState, timing clock (n.getVehicleMinTime phase) maxTime (0 < maxTime)⟩], []⟩

def populatePedestrianSignalGroup (signalGroup : Int) (phase : Nat) : Option MovementState := do
  let eventState ← walkState (n.getPhaseDontWalkStatus phase) (n.getPhasePedClearsStatus phase)
    (n.getPhaseWalkStatus phase)
  let hasMaxTime ← n.hasPedMaxTime phase
  let detect ← n.getSpatPedestrianDetect phase
  return ⟨signalGroup, [⟨eventState, timing clock (n.getPedMinTime phase) (n.getPedMaxTime phase) hasMaxTime⟩],
    if detect then [⟨0, true⟩] else []⟩

def populateOverlapSignalGroup (signalGroup : Int) (phase : Nat) : Option MovementState := do
  let eventState ← headState (n.getOverlapFlashingStatus phase) (n.getOverlapRedStatus phase)
    (n.getOverlapYellowStatus phase) (n.getOverlapGreenStatus phase) .permissive_Movement_Allowed
  let maxTime := n.getOverlapMaxTime phase
  return ⟨signalGroup, [⟨eventState, timing clock (n.getOverlapMinTime phase) maxTime (0 < maxTime)⟩], []⟩

def populate : Kind → Int → Nat → Option MovementState
  | .vehicle => n.populateVehicleSignalGroup clock
  | .pedestrian => n.populatePedestrianSignalGroup clock
  | .overlap => n.populateOverlapSignalGroup clock

/-- One of the three loops over the mapping. -/
def movements (signalGroupMappingList : List SignalGroupMapping) (kind : Kind) (phase : Nat) :
    Option (List MovementState) :=
  (signalGroupMappingList.filter fun it =>
    it.phaseId = (phase : Int) ∧ iequals it.type kind.name ∧ 0 < it.signalGroupId).mapM fun it =>
      n.populate clock kind it.signalGroupId phase

def slotMovements (signalGroupMappingList : List SignalGroupMapping) (m : Fin 16) : Option (List MovementState) := do
  let phase := (n.ntcip1202Data.phaseTimes m).phaseNumber.toNat
  let vehicle ← n.movements clock signalGroupMappingList .vehicle phase
  let pedestrian ← n.movements clock signalGroupMappingList .pedestrian phase
  let overlap ← n.movements clock signalGroupMappingList .overlap phase
  return vehicle ++ pedestrian ++ overlap

def ToJ2735r41SPAT (signalGroupMappingList : List SignalGroupMapping) (intersectionName : Str)
    (intersectionId : Int) : Option SPAT := do
  let utctime := gmtime clock.nowInSeconds
  let states ← (List.finRange 16).mapM (n.slotMovements clock signalGroupMappingList)
  return ⟨[{
    name := intersectionName
    id := intersectionId
    revision := 1
    moy := utctime.tm_min + utctime.tm_hour * 60 + utctime.tm_yday * 24 * 60
    timeStamp := 1000 * (clock.nowInSeconds % 60) + clock.nowInMilliseconds % 1000
    status := (0, n.ntcip1202Data.spatIntersectionStatus)
    states := states.flatten }]⟩

end Ntcip1202

end V2xHub.SpatPlugin
