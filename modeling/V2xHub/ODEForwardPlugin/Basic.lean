import V2xHub.Lib.CString
import V2xHub.Lib.Machine

/-!
# The ODE forward plugin

`UpdateConfigSettings` and the two message handlers, which differ in their topic and in the name in their envelope. What
`GetConfigValue` finds and whether the producer can be made is in the events, and so are the time and the payload. The
members have no initializers: what they hold before the first update is a parameter, and the pointer is taken as absent.
Kafka's `produce` succeeds.
-/

namespace V2xHub.ODEForwardPlugin

/-- The two types of messages. -/
inductive Kind where
  | bsm
  | spat
deriving DecidableEq

/-- What is printed has no NUL. -/
abbrev Text := { s : Str // 0 ∉ s }

/-- The values of the keys; `none` is for a text that does not convert, which leaves the member as it was. -/
structure Config where
  schedule_frequency : Option UInt16
  ForwardMSG : Option UInt16
  BSMKafkaTopic : Option Str
  SPaTKafkaTopic : Option Str
  KafkaBrokerIp : Option Str
  KafkaBrokerPort : Option Str
  /-- `set` and `create` succeed. -/
  connects : Bool

inductive Event where
  | update (config : Config)
  | message (k : Kind) (time payload : Text)

/-- What the handlers may do wrong. -/
inductive Fault where
  | buffer
  | division
  | producer
deriving DecidableEq

structure Queued where
  kind : Kind
  topic : Str
  message : Str
deriving DecidableEq

structure State where
  _scheduleFrequency : UInt16
  _freqCounter : UInt16
  _forwardMSG : UInt16
  _BSMkafkaTopic : Str
  _SPaTkafkaTopic : Str
  _kafkaBrokerIp : Str
  _kafkaBrokerPort : Str
  /-- The address that it was made with. -/
  kafka_producer : Option Str
  queued : List Queued
  faults : List Fault
  exited : Bool
  /-- The counter at the last message of the kind under the settings in force. -/
  last : Kind → Option UInt16

/-- What is in the numbers before the first update. -/
structure Garbage where
  _scheduleFrequency : UInt16
  _freqCounter : UInt16
  _forwardMSG : UInt16

namespace State

def init (g : Garbage) : State :=
  ⟨g._scheduleFrequency, g._freqCounter, g._forwardMSG, [], [], [], [], none, [], [], false, fun _ => none⟩

def topic (s : State) : Kind → Str
  | .bsm => s._BSMkafkaTopic
  | .spat => s._SPaTkafkaTopic

end State

/-- The name of the content in the envelope. -/
def contentName : Kind → Str
  | .bsm => CString.lit "BsmMessageContent"
  | .spat => CString.lit "SpatMessageContent"

/-- What `sprintf` writes in front of the NUL. -/
def envelope (k : Kind) (time payload : Text) : Str :=
  CString.lit "\x7b\"" ++ contentName k ++ CString.lit "\":[\x7b\"metadata\":\x7b\"utctimestamp\":\"" ++ time.1 ++
    CString.lit "\"\x7d,\"payload\":\"" ++ payload.1 ++ CString.lit "\"\x7d]\x7d"

/-- The size of the text buffers. -/
def bufferSize : Nat := 10000

def UpdateConfigSettings (s : State) (config : Config) : State :=
  let frequency := config.schedule_frequency.getD s._scheduleFrequency
  let forward := config.ForwardMSG.getD s._forwardMSG
  let ip := config.KafkaBrokerIp.getD s._kafkaBrokerIp
  let port := config.KafkaBrokerPort.getD s._kafkaBrokerPort
  { s with
    _scheduleFrequency := frequency
    _freqCounter := 1
    _forwardMSG := forward
    _BSMkafkaTopic := config.BSMKafkaTopic.getD s._BSMkafkaTopic
    _SPaTkafkaTopic := config.SPaTKafkaTopic.getD s._SPaTkafkaTopic
    _kafkaBrokerIp := ip
    _kafkaBrokerPort := port
    kafka_producer := if forward = 1 ∧ config.connects then some (ip ++ 58 :: port) else s.kafka_producer
    exited := forward = 1 ∧ config.connects = false
    last := if frequency = s._scheduleFrequency ∧ forward = s._forwardMSG then s.last else fun _ => none }

/-- `_freqCounter++` -/
def State.count (s : State) (k : Kind) : State :=
  { s with
    _freqCounter := s._freqCounter + 1
    last := Function.update s.last k (some s._freqCounter) }

/-- It is the turn of a message. -/
def State.due (s : State) : Bool := s._freqCounter.toNat % s._scheduleFrequency.toNat = 0

/-- `QueueKafkaMessage` -/
def State.QueueKafkaMessage (s : State) (k : Kind) (message : Str) : State :=
  match s.kafka_producer with
  | none => { s with faults := s.faults ++ [.producer] }
  | some _ => { s with queued := s.queued ++ [⟨k, s.topic k, message⟩] }

/-- `HandleRealTimePublish` and `HandleSPaTPublish` -/
def HandlePublish (s : State) (k : Kind) (time payload : Text) : State :=
  if bufferSize < (envelope k time payload).length + 1 then { s with faults := s.faults ++ [.buffer] }
  else if s._scheduleFrequency = 0 then { s with faults := s.faults ++ [.division] }
  else if s.due then (s.count k).QueueKafkaMessage k (envelope k time payload)
  else s.count k

def step (s : State) (e : Event) : Option State :=
  if s.exited then none
  else
    match e with
    | .update config => some (UpdateConfigSettings s config)
    | .message k time payload => some (HandlePublish s k time payload)

def plugin (g : Garbage) : Machine State Event := ⟨State.init g, step⟩

/-- `ForwardMSG` -/
def State.Enabled (s : State) : Prop := s._forwardMSG = 1

instance (s : State) : Decidable s.Enabled := inferInstanceAs (Decidable (_ = _))

end V2xHub.ODEForwardPlugin
