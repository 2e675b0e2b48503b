import V2xHub.Lib.Machine
import V2xHub.Lib.Threads

/-!
# The connection of a plugin

`IvpPlugin` is used by the thread that receives (`ivp_receive`) and by any number of threads that broadcast messages and
subscribe. The state word is written by all of them, by the receiving thread without the lock; a read or write of it is one
step, as is each access to the socket and to the filter. A connection is named by its number, and a message is sent on the one
whose socket was read; the messages that arrive and the outcomes of the sockets are in the events.
-/

namespace V2xHub.IvpPlugin

inductive IvpPluginState where
  | disconnected
  | connected
  | registered
  | error
deriving DecidableEq

/-- The state in which messages are sent and received. -/
def IvpPluginState.isOnline : IvpPluginState → Bool
  | .connected | .registered => true
  | _ => false

/-- What the core sends: an error, fatal or not, the configuration, or a message for the application. -/
inductive IvpMessage where
  | error (fatal : Bool)
  | config
  | other
deriving DecidableEq

variable {τ φ : Type}

/-- What is sent to the core: a subscription, or another message. -/
inductive Outgoing (φ : Type) where
  | subscribe (filter : Option φ)
  | other
deriving DecidableEq

/-- The filter that `ivp_subscribe` is called with: one of the application, or the pointer to the stored one. -/
inductive Argument (φ : Type) where
  | own (filter : Option φ)
  | stored (filter : Option (Nat × φ))
deriving DecidableEq

def Argument.content : Argument φ → Option φ
  | .own filter => filter
  | .stored filter => filter.map Prod.snd

/-- What the application passed last, after `last`. -/
def Argument.passed (last : Option φ) : Argument φ → Option φ
  | .own filter => filter
  | .stored _ => last

/-- The two pointers are equal; a filter of the application is not where the stored one is. -/
def Argument.isStored (stored : Option (Nat × φ)) : Argument φ → Bool
  | .own filter => stored.isNone && filter.isNone
  | .stored filter => stored.map Prod.fst == filter.map Prod.fst

/-- Where a thread is in `ivp_broadcastMessage` or `ivp_subscribe`. From `subscribing` to `enter`, and from `acquire` to `test`, it
has taken the lock. -/
inductive Call (φ : Type) where
  | idle
  | subscribing (filter : Argument φ)
  | replacing (filter : Option φ)
  | enter (msg : Outgoing φ)
  | acquire
  | test (msg : Outgoing φ)
  | socket (msg : Outgoing φ)
  | send (msg : Outgoing φ) (fd : Option Nat)
  | report (msg : Outgoing φ)
  | release
deriving DecidableEq

/-- Where `ivp_receive` is; in `dispatch`, `testConnected` and behind it, with the messages that are left in the buffer. -/
inductive Receiver where
  | outer
  | connect
  | setConnected
  | registering
  | inner
  | recv
  | disconnect
  | dispatch (msgs : List IvpMessage)
  | testConnected (msgs : List IvpMessage)
  | setRegistered (msgs : List IvpMessage)
  | readFilter (msgs : List IvpMessage)
  | subscribed (msgs : List IvpMessage)
  | close
  | clear
  | ended
deriving DecidableEq

/-- The plugin, its threads (`none` is the one that receives) and the history: whether a fatal error was reported, whether a
connection was made after it, whether a configuration was received on the connection, the filter of the last subscription that was
sent on it, the filter that the application passed last, and whether a message went out on another socket than that of the
connection. A filter is a pointer: an address and what is there. -/
structure State (τ φ : Type) where
  state : IvpPluginState
  filter : Option (Nat × φ)
  socket : Option Nat
  lock : Option (Option τ)
  connection : Nat
  isOpen : Bool
  nextAddress : Nat
  receiver : Receiver
  calls : Option τ → Call φ
  fatal : Bool
  late : Bool
  configured : Bool
  subscription : Option (Option φ)
  passed : Option φ
  stray : Bool

def State.init : State τ φ where
  state := .disconnected
  filter := none
  socket := some 0
  lock := none
  connection := 0
  isOpen := false
  nextAddress := 0
  receiver := .outer
  calls _ := .idle
  fatal := false
  late := false
  configured := false
  subscription := none
  passed := none
  stray := false

/-- A thread of the application calls `ivp_broadcastMessage` or `ivp_subscribe`, or a thread takes its next step; `sent` and
`received` are the outcomes of the sockets. -/
inductive Event (τ φ : Type) where
  | ivp_broadcastMessage (t : τ)
  | ivp_subscribe (t : τ) (filter : Option φ)
  | call (t : Option τ) (sent : Bool)
  | ivp_receive (connected : Bool) (received : Option (List IvpMessage))

section Step
variable [DecidableEq τ]

def State.setCall (t : Option τ) (c : Call φ) (s : State τ φ) : State τ φ := { s with calls := Function.update s.calls t c }

def State.ivp_onStateChange (state : IvpPluginState) (s : State τ φ) : State τ φ := { s with state := state }

/-- `ivp_subscribe` has the lock: another filter than the stored one takes its place. What was freed is still there when it is
duplicated. -/
def State.takeFilter (t : Option τ) (filter : Argument φ) (s : State τ φ) : State τ φ :=
  let s := { s with lock := some t, passed := filter.passed s.passed }
  if filter.isStored s.filter then s.setCall t (.enter (.subscribe (s.filter.map Prod.snd)))
  else { s with filter := none }.setCall t (.replacing filter.content)

/-- `send` on the socket that was read. On a descriptor that is closed it gives `EBADF`, which is the step `.report` of the call,
unless the number is that of another file by now. -/
def State.sendOn (t : Option τ) (msg : Outgoing φ) (fd : Nat) (s : State τ φ) : State τ φ :=
  let current := s.isOpen && fd == s.connection
  { s with
    stray := s.stray || !current
    subscription := match msg with
      | .subscribe filter => if current then some filter else s.subscription
      | .other => s.subscription }.setCall t .release

/-- The next step of a call. -/
def State.callStep (t : Option τ) (sent : Bool) (s : State τ φ) : Option (State τ φ) :=
  match s.calls t with
  | .idle => none
  | .subscribing filter => if s.lock = none then some (s.takeFilter t filter) else none
  | .replacing filter =>
    some ({ s with filter := filter.map (s.nextAddress, ·), nextAddress := s.nextAddress + 1 }.setCall t (.enter (.subscribe filter)))
  | .enter msg =>
    match msg with
    | .subscribe _ => some (s.setCall t (if s.state.isOnline then .test msg else .release))
    | .other => some (s.setCall t (if s.state.isOnline then .acquire else .idle))
  | .acquire => if s.lock = none then some ({ s with lock := some t }.setCall t (.test .other)) else none
  | .test msg => some (s.setCall t (if s.state.isOnline then .socket msg else .release))
  | .socket msg => some (s.setCall t (.send msg s.socket))
  | .send msg fd =>
    match fd with
    | some fd => some (if sent then s.sendOn t msg fd else s.setCall t (.report msg))
    | none => some (s.setCall t (.report msg))
  | .report _ => some ((s.ivp_onStateChange .disconnected).setCall t .release)
  | .release => some ({ s with lock := none }.setCall t .idle)

def State.ivp_onMessageReceived (msg : IvpMessage) (msgs : List IvpMessage) (s : State τ φ) : Option (State τ φ) :=
  match msg with
  | .error true => some { s with state := .error, fatal := true, receiver := .dispatch msgs }
  | .config => if s.lock = none then some { s with configured := true, receiver := .testConnected msgs } else none
  | _ => some { s with receiver := .dispatch msgs }

/-- The next step of `ivp_receive`, which waits for the calls it makes. -/
def State.receive (connected : Bool) (received : Option (List IvpMessage)) (s : State τ φ) : Option (State τ φ) :=
  match s.calls none with
  | .idle =>
    match s.receiver with
    | .outer => some { s with receiver := if s.state = .error then .ended else .connect }
    | .connect =>
      if connected then
        some { s with
          connection := s.connection + 1
          socket := some (s.connection + 1)
          isOpen := true
          late := s.late || s.fatal
          configured := false
          subscription := none
          receiver := .setConnected }
      else some { s with receiver := .outer }
    | .setConnected =>
      some ({ s.ivp_onStateChange .connected with receiver := .registering }.setCall none (.enter .other))
    | .registering => some { s with receiver := .inner }
    | .inner => some { s with receiver := if s.state.isOnline then .recv else .close }
    | .recv =>
      match received with
      | none => some { s with receiver := .disconnect }
      | some msgs => some { s with receiver := .dispatch msgs }
    | .disconnect => some { s.ivp_onStateChange .disconnected with receiver := .inner }
    | .dispatch [] => some { s with receiver := .inner }
    | .dispatch (msg :: msgs) => s.ivp_onMessageReceived msg msgs
    | .testConnected msgs => some { s with receiver := if s.state = .connected then .setRegistered msgs else .dispatch msgs }
    | .setRegistered msgs => some { s.ivp_onStateChange .registered with receiver := .readFilter msgs }
    | .readFilter msgs => some ({ s with receiver := .subscribed msgs }.setCall none (.subscribing (.stored s.filter)))
    | .subscribed msgs => some { s with receiver := .dispatch msgs }
    | .close => some { s with isOpen := false, receiver := .clear }
    | .clear => some { s with socket := none, receiver := .outer }
    | .ended => none
  | _ => none

def step (s : State τ φ) : Event τ φ → Option (State τ φ)
  | .ivp_broadcastMessage t => if s.calls (some t) matches .idle then some (s.setCall (some t) (.enter .other)) else none
  | .ivp_subscribe t filter => if s.calls (some t) matches .idle then some (s.setCall (some t) (.subscribing (.own filter))) else none
  | .call t sent => s.callStep t sent
  | .ivp_receive connected received => s.receive connected received

def plugin (τ φ : Type) [DecidableEq τ] : Machine (State τ φ) (Event τ φ) := ⟨State.init, step⟩

end Step

end V2xHub.IvpPlugin
