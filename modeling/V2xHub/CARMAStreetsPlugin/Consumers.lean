import V2xHub.CARMAStreetsPlugin.SdsmReadable

/-!
# The Kafka consumers

The loops of `CARMAStreetsPlugin` over the payloads of its four topics. A payload is what the parser makes of it, `none` if it
is no JSON. The encoders are parameters; where one throws its exception is a `std::runtime_error`, which the loops catch
(`none`). Every other exception ends the loop; what was broadcast of the same payload before is not recorded.
-/

namespace V2xHub.CARMAStreetsPlugin
open JsonCpp JsonCpp.Value

/-! ### Signal status messages -/

inductive IntersectionAccessPoint where
  | NOTHING
  | lane (id : Int64)
  | approach (id : Int64)

structure SignalStatusPackage where
  request : Int64
  stationID : Option Int64
  sequenceNumber : Int64
  role : Option Int64
  inboundOn : IntersectionAccessPoint
  status : Int64
  minute : Option Int64
  second : Option Int64
  duration : Option Int64

structure SignalStatus where
  sequenceNumber : Int64
  id : Int64
  sigStatus : List SignalStatusPackage

structure SignalStatusMessage where
  timeStamp : Option Int64 := none
  second : Int64 := 0
  status : List SignalStatus := []

/-- A member that is not a number is skipped. -/
def numericAt (key : String) (json : Value) : Except Exception (Option Int64) := do
  if ← json.isMember key then
    let v ← json.member key
    if v.isNumeric then some <$> v.asInt64 else return none
  else return none

/-- `ETA_Second` is stored as the minute; `second` is the null of `calloc`. -/
def populateSigStatusPackage (json : Value) : Except Exception SignalStatusPackage := do
  let request ← numericAt "requestID" json
  let stationID ← numericAt "vehicleID" json
  let sequenceNumber ← numericAt "msgCount" json
  let role ← numericAt "basicVehicleRole" json
  let inboundOn ← match ← numericAt "inBoundLaneID" json with
    | some lane => pure (.lane lane)
    | none =>
      match ← numericAt "inBoundApproachID" json with
      | some approach => pure (.approach approach)
      | none => pure .NOTHING
  let status ← numericAt "priorityRequestStatus" json
  let duration ← numericAt "ETA_Duration" json
  let minute ← numericAt "ETA_Minute" json
  let second ← numericAt "ETA_Second" json
  return {
    request := request.getD 0
    stationID
    sequenceNumber := sequenceNumber.getD 0
    role
    inboundOn
    status := status.getD 0
    minute := second.or minute
    second := none
    duration }

def signalStatus (json : Value) : Except Exception SignalStatus := do
  let id ← numericAt "intersectionID" json
  let sequenceNumber ← numericAt "sequenceNumber" json
  let requestorInfo ← if ← json.isMember "requestorInfo" then arrayAt "requestorInfo" populateSigStatusPackage json
    else pure none
  return { id := id.getD 0, sequenceNumber := sequenceNumber.getD 0, sigStatus := requestorInfo.getD [] }

/-- Every exception is caught: what was read up to then is the message. The second part says that all was read. -/
def toJ2735SSM (ssmDoc : Value) : SignalStatusMessage × Bool :=
  match ssmDoc.isMember "SignalStatus" with
  | .ok true =>
    match ssmDoc.readAt "SignalStatus" (numericAt "msOfMinute") with
    | .ok second =>
      match ssmDoc.readAt "SignalStatus" (numericAt "minuteOfYear") with
      | .ok timeStamp =>
        match ssmDoc.readAt "SignalStatus" signalStatus with
        | .ok status => ({ second := second.getD 0, timeStamp, status := [status] }, true)
        | .error _ => ({ second := second.getD 0, timeStamp }, false)
      | .error _ => ({ second := second.getD 0 }, false)
    | .error _ => ({}, false)
  | _ => ({}, false)

/-! ### Schedules -/

structure TestMessage03 where
  hostStaticId : Str
  targetStaticId : Str
  hostBSMId : Str
  planId : Str
  timestamp : Str
  strategy : Str
  operationParams : Str

/-- The text of a member, `UNSET` if there is none. -/
def textAt (valueToString : Double → Str) (key : String) (json : Value) : Except Exception Str := do
  if ← json.isMember key then json.readAt key (asString valueToString) else return CString.lit "UNSET"

/-- One of the parameters, if there is one. -/
def paramAt (key : String) (sep : Str) (json : Value) : Except Exception Str := do
  if ← json.isMember key then
    return CString.lit key ++ CString.lit ":" ++ Printf.decimal (← json.readAt key asUInt64) ++ sep
  else return []

/-- `empty()`: null, an array without elements, an object without members. -/
def isEmpty : Value → Bool
  | null => true
  | array elements => elements.isEmpty
  | object members => members.isEmpty
  | _ => false

def strategyParams (payload_json : Value) : Except Exception Str := do
  if isEmpty payload_json then return CString.lit "null"
  else
    let st ← paramAt "st" (CString.lit ",") payload_json
    let et ← paramAt "et" (CString.lit ",") payload_json
    let dt ← paramAt "dt" (CString.lit ",") payload_json
    let dp ← paramAt "dp" (CString.lit ",") payload_json
    let access ← paramAt "access" [] payload_json
    return st ++ et ++ dt ++ dp ++ access

/-- `19 - size` is unsigned, so that a text of 20 digits asks for a string that is too long. -/
def padTimestamp (text : Str) : Except Exception Str :=
  if text.length ≤ 19 then .ok (List.replicate (19 - text.length) 48 ++ text) else .error .length_error

def timestampText (metadata : Value) : Except Exception Str := do
  if ← metadata.isMember "timestamp" then return Printf.decimal (← metadata.readAt "timestamp" asUInt64)
  else return CString.lit "0"

/-- The message that `getEncodedtsm3` builds. -/
def tsm3Message (valueToString : Double → Str) (intersectionId : Str) (metadata payload_json : Value) :
    Except Exception TestMessage03 := do
  let targetStaticId ← textAt valueToString "v_id" payload_json
  let strategy ← textAt valueToString "intersection_type" metadata
  let operationParams ← strategyParams payload_json
  let timestamp ← timestampText metadata >>= padTimestamp
  return {
    hostStaticId := intersectionId
    targetStaticId
    hostBSMId := CString.lit "00000000"
    planId := CString.lit "00000000-0000-0000-0000-000000000000"
    timestamp
    strategy
    operationParams }

/-- `payload_json_array[index]` for each index below `size()`, or null for an empty one. -/
def scheduleEntries : Value → Except Exception (List Value)
  | null => .ok [null]
  | array [] => .ok [null]
  | array (v :: elements) => .ok (v :: elements)
  | object [] => .ok [null]
  | object (_ :: _) => .error .LogicError
  | _ => .ok []

/-! ### The loops -/

inductive Topic where
  | schedule
  | spat
  | ssm
  | sdsm
deriving DecidableEq

/-- What is around the converters. -/
structure Environment (β : Type) where
  valueToString : Double → Str
  uninitialized : DDateTime
  intersectionId : Str
  encodeSpat : SPAT → Option β
  encodeSSM : SignalStatusMessage → Option β
  encodeSDSM : SensorDataSharingMessage → Option β
  encodeTsm3 : TestMessage03 → Option β
  /-- The list of the statuses has a size from 1 to 32. -/
  encodeSSM_nil : ∀ m, m.status = [] → encodeSSM m = none

/-- What a payload adds to the count of the skipped messages, and what it broadcasts. -/
structure Reaction (β : Type) where
  skipped : Nat
  broadcasts : List β
deriving DecidableEq

namespace Reaction
variable {β : Type}

def skip : Reaction β := ⟨1, []⟩

/-- Of the messages of a payload those that could be encoded are broadcast. -/
def ofEncoded (messages : List (Option β)) : Reaction β := ⟨messages.countP Option.isNone, messages.reduceOption⟩

end Reaction

section
variable {β : Type} (env : Environment β)

/-- The messages of a schedule, one for each entry. -/
def scheduleMessages (payload_root : Value) : Except Exception (List TestMessage03) := do
  let metadata ← payload_root.member "metadata"
  let entries ← payload_root.readAt "payload" scheduleEntries
  entries.mapM (tsm3Message env.valueToString env.intersectionId metadata)

def handle : Topic → Value → Except Exception (Reaction β)
  | .schedule, payload_root => do
    let messages ← scheduleMessages env payload_root
    return .ofEncoded (messages.map env.encodeTsm3)
  | .spat, payload_root => do
    let spat ← convertJson2Spat env.valueToString payload_root
    return .ofEncoded [env.encodeSpat spat]
  | .ssm, ssmDoc => .ok (.ofEncoded [env.encodeSSM (toJ2735SSM ssmDoc).1])
  | .sdsm, sdsmDoc => do
    let sdsm ← convertJsonToSDSM env.valueToString env.uninitialized sdsmDoc
    return .ofEncoded [env.encodeSDSM sdsm]

def consume (topic : Topic) : Option Value → Except Exception (Reaction β)
  | some v => handle env topic v
  | none => .ok .skip

/-- The reactions to a sequence of payloads, or the exception that ends the loop. -/
def loop (topic : Topic) (payloads : List (Option Value)) : Except Exception (List (Reaction β)) :=
  payloads.mapM (consume env topic)

end
end V2xHub.CARMAStreetsPlugin
