import V2xHub.Lib.Machine
import V2xHub.Lib.Strtol
import V2xHub.PropertyTree.Json

/-!
# The adapter of a simulation

`CDASimAdapter` registers with a simulation when the plugin is registered, as often as its setting allows, and then listens with
four timers. An exception that leaves the callback or a timer, a null connection that is dereferenced and a read outside of the
buffer are failures, after which there is no step. The environment variables, the sockets and the datagrams are in the
events; `read_json` of boost is a parameter.
-/

namespace V2xHub.CDASimAdapter

inductive Exception where
  | TmxException
  | UdpServerRuntimeError
  | UdpClientRuntimeError
  | invalid_argument
  | out_of_range
  | json_parser_error
  | RuntimeError
deriving DecidableEq

/-- The sources of the settings of the simulation. -/
inductive Config where
  | SIMULATION_IP
  | LOCAL_IP
  | SIMULATION_REGISTRATION_PORT
  | TIME_SYNC_PORT
  | SIM_INTERACTION_PORT
  | V2X_PORT
  | SIM_V2X_PORT
  | INFRASTRUCTURE_ID
  | SENSOR_JSON_FILE_PATH
deriving DecidableEq

/-- What an attempt to connect finds: the environment variables, whether the sensors file is read without an exception, and
whether the handshake is sent and the sockets are opened. -/
structure Environment where
  simulationMode : Bool
  getenv : Config → Option Str
  sensors : Bool
  handshake : Bool
  setup : Bool

/-- A variable that is not set is a null pointer, which the constructor of the string refuses. -/
def get_sim_config (env : Environment) (config_name : Config) : Except Exception Str :=
  if env.simulationMode then
    match env.getenv config_name with
    | some config => .ok config
    | none => .error .TmxException
  else .error .TmxException

def ofStrtol {α : Type} : Except Strtol.Error α → Except Exception α
  | .ok a => .ok a
  | .error .invalid_argument => .error .invalid_argument
  | .error .out_of_range => .error .out_of_range

/-- `std::stoul`, into an `unsigned int`. -/
def stoul (s : Str) : Except Exception Nat :=
  ofStrtol ((Strtol.bounded (-2 ^ 64 + 1) (2 ^ 64 - 1) s).map fun n => (n % 2 ^ 32).toNat)

/-- `static_cast<unsigned int>(std::stoi(s))` -/
def stoi (s : Str) : Except Exception Nat := ofStrtol ((Strtol.stoi s).map fun n => (n % 2 ^ 32).toNat)

structure CDASimConnection where
  simulation_ip : Str
  infrastructure_id : Str
  simulation_registration_port : Nat
  simulation_v2x_port : Nat
  local_ip : Str
  time_sync_port : Nat
  simulated_interaction_port : Nat
  v2x_port : Nat
  sensor_json_file_path : Str
  connected : Bool
deriving DecidableEq

/-- The connection that the environment variables describe. -/
def newConnection (env : Environment) : Except Exception CDASimConnection := do
  let simulation_ip ← get_sim_config env .SIMULATION_IP
  let local_ip ← get_sim_config env .LOCAL_IP
  let simulation_registration_port ← stoul (← get_sim_config env .SIMULATION_REGISTRATION_PORT)
  let time_sync_port ← stoul (← get_sim_config env .TIME_SYNC_PORT)
  let simulated_interaction_port ← stoi (← get_sim_config env .SIM_INTERACTION_PORT)
  let v2x_port ← stoul (← get_sim_config env .V2X_PORT)
  let simulation_v2x_port ← stoul (← get_sim_config env .SIM_V2X_PORT)
  let infrastructure_id ← get_sim_config env .INFRASTRUCTURE_ID
  let sensor_json_file_path ← get_sim_config env .SENSOR_JSON_FILE_PATH
  return { simulation_ip, infrastructure_id, simulation_registration_port, simulation_v2x_port, local_ip, time_sync_port,
           simulated_interaction_port, v2x_port, sensor_json_file_path, connected := false }

/-- `CDASimConnection::connect`. The sensors file is read before the `try` of the handshake. -/
def CDASimConnection.connect (env : Environment) (c : CDASimConnection) : CDASimConnection × Except Exception Bool :=
  if env.sensors then ({ c with connected := env.handshake && env.setup }, .ok (env.handshake && env.setup))
  else (c, .error .RuntimeError)

/-- `CDASimAdapter::connect`: the connection afterwards, and the result. -/
def connect (env : Environment) (connection : Option CDASimConnection) :
    Option CDASimConnection × Except Exception Bool :=
  match newConnection env with
  | .ok c => (some (c.connect env).1, (c.connect env).2)
  | .error .TmxException => (connection, .ok false)
  | .error .invalid_argument => (connection, .ok false)
  | .error e => (connection, .error e)

/-! ### Receiving -/

/-- What `TimedReceive` gives: an error of `select` or `recv`, or the bytes of a datagram, as many as the buffer holds. There is
no timeout: `select` has one set for reading and writing, so it returns at once for a socket that can be written, and `recv`
waits. A tick that waits is no event until it has received something. -/
inductive Receive where
  | error
  | datagram (payload : List UInt8)

def bufferSize : Nat := 4000

def Receive.bytes : Receive → List UInt8
  | error => []
  | datagram payload => payload.take bufferSize

/-- A text, an exception, or a read outside of the buffer. -/
inductive Text where
  | text (s : Str)
  | throws
  | outside

/-- `consume_hex_server_message` -/
def consume_hex_server_message (r : Receive) : Text := if r.bytes = [] then .throws else .text r.bytes

/-- `consume_server_message`: the buffer, zeros behind the bytes, is read as a C string. -/
def consume_server_message (r : Receive) : Text :=
  if r.bytes = [] then .throws
  else
    match CString.read (r.bytes ++ List.replicate (bufferSize - r.bytes.length) 0) with
    | some s => .text s
    | none => .outside

/-! ### The adapter -/

inductive Output where
  | timeSync (contents : Ptree)
  | sensorDetectedObject (contents : Ptree)
  | toSimulation (msg : Str)
  | toV2xHub (msg : Str)

inductive Failure where
  | escaped (e : Exception)
  | nullConnection
  | outsideBuffer

inductive Phase where
  | idle
  | connecting (connection_attempts : Nat)
  | connectionFailed
  | listening
  | failed (how : Failure)

/-- `texts` are the texts that were taken from the buffers so far, `outputs` what was broadcast and sent. -/
structure State where
  connection : Option CDASimConnection
  phase : Phase
  texts : List Str
  outputs : List Output

def State.init : State := ⟨none, .idle, [], []⟩

def State.enter (s : State) (phase : Phase) : State := { s with phase }

def State.take (s : State) (text : Str) : State := { s with texts := s.texts ++ [text] }

def State.emit (s : State) (output : Option Output) : State := { s with outputs := s.outputs ++ output.toList }

def State.fail (s : State) (e : Exception) : State := s.enter (.failed (.escaped e))

/-- `connection->` -/
def State.dereference (s : State) (t : State) : State :=
  if s.connection.isSome then t else s.enter (.failed .nullConnection)

/-- The connection is there and connected. -/
def State.connected (s : State) : Bool := s.connection.any fun c => c.connected

inductive Event where
  | registered
  | attempt (env : Environment)
  | timeSyncTick (r : Receive)
  | sensorTick (r : Receive)
  | fromSimulationTick (r : Receive) (sent : Bool)
  | fromV2xHubTick (r : Receive) (sent : Bool)

section
variable (max_connection_attempts : Int) (read_json : Str → Option Ptree)

/-- Another attempt is allowed. -/
def mayAttempt (connection_attempts : Nat) : Prop :=
  connection_attempts < max_connection_attempts ∨ max_connection_attempts < 1

instance decidableMayAttempt (connection_attempts : Nat) : Decidable (mayAttempt max_connection_attempts connection_attempts) :=
  inferInstanceAs (Decidable (_ ∨ _))

/-- The head of the loop, and what is behind it. -/
def State.loop (s : State) (connection_attempts : Nat) : State :=
  if s.connected then s.enter .listening
  else if mayAttempt max_connection_attempts connection_attempts then s.enter (.connecting connection_attempts)
  -- behind the loop the connection is dereferenced unchecked
  else if s.connection.isSome then s.enter .connectionFailed
  else s.enter (.failed .nullConnection)

/-- One round of the loop. -/
def State.attempt (env : Environment) (connection_attempts : Nat) (s : State) : State :=
  let s' := { s with connection := (connect env s.connection).1 }
  match (connect env s.connection).2 with
  | .error e => s'.fail e
  | .ok _ =>
    -- `!connection->is_connected()` decides about the sleep
    if s'.connection.isSome then s'.loop max_connection_attempts (connection_attempts + 1)
    else s'.enter (.failed .nullConnection)

/-- `set_contents` and, if the message is not empty, the broadcast. -/
def State.contents (s : State) (broadcast : Ptree → Output) (text : Str) : State :=
  match read_json text with
  | none => s.fail .json_parser_error
  | some contents => s.emit (if contents.children = [] then none else some (broadcast contents))

/-- `attempt_time_sync` -/
def State.attempt_time_sync (s : State) (r : Receive) : State :=
  match consume_server_message r with
  | .throws => s
  | .outside => s.enter (.failed .outsideBuffer)
  | .text text => (s.take text).contents read_json .timeSync text

/-- The lambda of the sensor timer, which has no `try`. -/
def State.sensorLambda (s : State) (r : Receive) : State :=
  match consume_server_message r with
  | .throws => s.fail .UdpServerRuntimeError
  | .outside => s.enter (.failed .outsideBuffer)
  | .text text => (s.take text).contents read_json .sensorDetectedObject text

/-- `attempt_message_from_simulation` and `attempt_message_from_v2xhub`, which catch what the server throws. -/
def State.forward (s : State) (output : Str → Output) (r : Receive) (sent : Bool) : State :=
  match consume_hex_server_message r with
  | .throws => s
  | .outside => s.enter (.failed .outsideBuffer)
  | .text msg => if sent then (s.take msg).emit (some (output msg)) else (s.take msg).fail .UdpClientRuntimeError

def step (s : State) : Event → Option State
  | .registered =>
    match s.phase with
    | .connecting _ => none
    | .failed _ => none
    | _ => some (s.loop max_connection_attempts 0)
  | .attempt env =>
    match s.phase with
    | .connecting connection_attempts => some (s.attempt max_connection_attempts env connection_attempts)
    | _ => none
  | .timeSyncTick r =>
    match s.phase with
    | .listening => some (s.dereference (s.attempt_time_sync read_json r))
    | _ => none
  | .sensorTick r =>
    match s.phase with
    | .listening => some (s.dereference (s.sensorLambda read_json r))
    | _ => none
  | .fromSimulationTick r sent =>
    match s.phase with
    | .listening => some (s.dereference (s.forward .toV2xHub r sent))
    | _ => none
  | .fromV2xHubTick r sent =>
    match s.phase with
    | .listening => some (s.dereference (s.forward .toSimulation r sent))
    | _ => none

def adapter : Machine State Event := ⟨.init, step max_connection_attempts read_json⟩

end
end V2xHub.CDASimAdapter
