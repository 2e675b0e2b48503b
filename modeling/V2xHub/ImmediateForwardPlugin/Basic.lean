import V2xHub.Lib.Machine
import V2xHub.Lib.Printf
import V2xHub.Lib.Strtol
import V2xHub.PropertyTree.Json
import Mathlib.Algebra.BigOperators.Fin

/-!
# The clients of the immediate forward plugin

`ImmediateForwardPlugin`: what is done to the table of UDP clients while `_mutexUdpClient` is held, which is one step. A client
is named by the number of its `new`. The heap is in the state: how many clients there were, which of them have been deleted
and in what order, and what each has sent. The texts of the configuration and what the resolver, the JSON parser and the
signing service answer are in the events. The status counters are left out.
-/

namespace V2xHub.ImmediateForwardPlugin

structure MessageConfig where
  ClientIndex : Nat
  TmxType : Str
  SendType : Str
  Psid : Str
  Channel : Str

/-- An index outside of an array, a client that is not there. -/
inductive Fault where
  | index
  | dead
deriving DecidableEq

/-- How the plugin ends: an assertion or a null pointer of another kind aborts it. -/
inductive Ending where
  | destroyed
  | aborted
  | fault (f : Fault)
deriving DecidableEq

structure State where
  udpClientList : Fin 4 → List (Option Nat)
  messageConfigMap : List MessageConfig
  signState : Nat
  muteDsrc : Bool
  configRead : Bool
  created : Nat
  deleted : List Nat
  sent : List (Nat × Str)
  ending : Option Ending

def State.init : State := ⟨fun _ => [], [], 0, false, false, 0, [], [], none⟩

def State.Alive (s : State) (c : Nat) : Prop := c < s.created ∧ c ∉ s.deleted

instance (s : State) (c : Nat) : Decidable (s.Alive c) := inferInstanceAs (Decidable (_ ∧ _))

/-- `delete` -/
def deleteClient (s : State) : Option Nat → Except Fault State
  | none => .ok s
  | some c => if s.Alive c then .ok { s with deleted := s.deleted ++ [c] } else .error .dead

def deleteAll (s : State) (row : List (Option Nat)) : Except Fault State := row.foldlM deleteClient s

/-! ### The configuration -/

/-- One element of `Messages`; `none` where it throws. -/
def messageConfig (clientIndex : Nat) (child : Ptree) : Option MessageConfig := do
  let TmxType ← child.get "TmxType"
  let SendType ← child.get "SendType"
  let Psid ← child.get "PSID"
  return ⟨clientIndex, TmxType, SendType, Psid, (child.get "Channel").getD []⟩

/-- The elements up to the first that throws; `none` where an element has a name, which is asserted against. -/
def messageConfigs (clientIndex : Nat) : List (Str × Ptree) → Option (List MessageConfig)
  | [] => some []
  | (name, child) :: children =>
    if name ≠ [] then none
    else
      match messageConfig clientIndex child with
      | none => some []
      | some config => (messageConfigs clientIndex children).map (config :: ·)

/-- The configurations behind `ParseJsonMessageConfig`. -/
def parseJsonMessageConfig (read_json : Str → Option Ptree) (json : Str) (clientIndex : Nat)
    (messageConfigMap : List MessageConfig) : Option (List MessageConfig) :=
  if json = [] then some messageConfigMap
  else
    let kept := messageConfigMap.filter fun config => config.ClientIndex ≠ clientIndex
    match (read_json json).bind (Ptree.get_child "Messages") with
    | none => some kept
    | some messages => (messageConfigs clientIndex messages.children).map (kept ++ ·)

/-- `push_back(new UdpClient(..))` -/
def State.push (s : State) (clientIndex : Fin 4) : State :=
  { s with
    udpClientList := Function.update s.udpClientList clientIndex (s.udpClientList clientIndex ++ [some s.created])
    created := s.created + 1 }

/-- The loop over the destinations; an address that cannot be resolved ends it. -/
def openClients (clientIndex : Fin 4) (resolves : Str → Int → Bool) : List Str → State → State
  | [], s => s
  | srv :: srvs, s =>
    match srv.splitOn 58 with
    | [address, port] =>
      if resolves address (Strtol.atoi port) then openClients clientIndex resolves srvs (s.push clientIndex) else s
    | _ => openClients clientIndex resolves srvs s

def isSeparator (c : UInt8) : Bool := CString.lit " \t,;" |>.contains c

/-- The settings of one client, and what the parser and the resolver make of them. -/
structure ClientSettings where
  messages : Str
  destinations : Str
  read_json : Str → Option Ptree
  resolves : Str → Int → Bool

def updateUdpClientFromConfigSettings (clientIndex : Nat) (settings : ClientSettings) (s : State) : Except Fault State :=
  if h : clientIndex < 4 then
    let i : Fin 4 := ⟨clientIndex, h⟩
    match parseJsonMessageConfig settings.read_json settings.messages clientIndex s.messageConfigMap with
    | none => .ok { s with ending := some .aborted }
    | some configs => do
      let s ← deleteAll { s with messageConfigMap := configs } (s.udpClientList i)
      let s := { s with udpClientList := Function.update s.udpClientList i [] }
      return if settings.destinations = [] then s
        else openClients i settings.resolves (settings.destinations.splitOnP isSeparator) s
  else .ok s

/-! ### Messages -/

structure Message where
  subtype : Str
  /-- The channel of the metadata, if there are any. -/
  dsrcMetadata : Option Int
  /-- The string of the payload. -/
  payload : Option Str

def toupper (c : UInt8) : UInt8 := if 97 ≤ c ∧ c ≤ 122 then c - 32 else c

/-- What the signing service answers: the signed payload, an error, an exception on the way, or an answer without the member
that is read. -/
inductive Signed where
  | signed (payload : Str)
  | refused
  | threw
  | crashed

def radioMessage (signState : Nat) (config : MessageConfig) (channel : Int) (payloadbyte : Str) : Str :=
  CString.lit "Version=0.7\nType=" ++ config.SendType ++ CString.lit "\nPSID=" ++ config.Psid ++
  CString.lit "\nPriority=7\nTxMode=CONT\nTxChannel=" ++
  (if config.Channel = [] then Printf.lld channel else config.Channel) ++
  CString.lit "\nTxInterval=0\nDeliveryStart=\nDeliveryStop=\nSignature=" ++
  CString.lit (if signState = 1 then "True" else "False") ++ CString.lit "\nEncryption=False\nPayload=" ++ payloadbyte ++
  CString.lit "\n"

/-- A row of the table. -/
def State.row (s : State) (clientIndex : Nat) : Except Fault (List (Option Nat)) :=
  if h : clientIndex < 4 then .ok (s.udpClientList ⟨clientIndex, h⟩) else .error .index

/-- `Send`, on a client that is not `NULL`. -/
def sendClient (message : Str) (s : State) : Option Nat → Except Fault State
  | none => .ok s
  | some c => if s.Alive c then .ok { s with sent := s.sent ++ [(c, message)] } else .error .dead

/-- The loop over the configurations, the first of which is the `n`-th. -/
def sendConfigs (msg : Message) (channel : Int) (payload : Str) (sign : Nat → Signed) :
    Nat → List MessageConfig → State → Except Fault State
  | _, [], s => .ok s
  | n, config :: configs, s =>
    if config.TmxType = msg.subtype then
      match if s.signState = 1 then sign n else .signed payload with
      | .signed payloadbyte => do
        let row ← s.row config.ClientIndex
        let s ← row.foldlM (sendClient (radioMessage s.signState config channel payloadbyte)) s
        sendConfigs msg channel payload sign (n + 1) configs s
      | .refused | .threw => .ok s
      | .crashed => .ok { s with ending := some .aborted }
    else sendConfigs msg channel payload sign (n + 1) configs s

def sendMessageToRadio (msg : Message) (channel : Int) (sign : Nat → Signed) (s : State) : Except Fault State :=
  match msg.payload with
  | none => .ok { s with ending := some .aborted }
  | some payload => sendConfigs msg channel (payload.map toupper) sign 0 s.messageConfigMap s

def onMessageReceived (msg : Message) (sign : Nat → Signed) (s : State) : Except Fault State :=
  if s.configRead then
    match msg.dsrcMetadata with
    | none => .ok s
    | some channel => if s.muteDsrc then .ok s else sendMessageToRadio msg channel sign s
  else .ok s

/-! ### The destructor -/

/-- The inner loop: the pointer that is tested stands at the index of the row. -/
def destroyRow (i : Nat) (row : List (Option Nat)) (s : State) : Except Fault State :=
  row.foldlM
    (fun s p =>
      match row[i]? with
      | none => .error .index
      | some none => .ok s
      | some (some _) => deleteClient s p)
    s

def destroy (s : State) : Except Fault State := do
  let s ← (List.finRange 4).foldlM (fun t (i : Fin 4) => destroyRow i (s.udpClientList i) t) s
  return { s with ending := some .destroyed }

/-! ### Runs -/

/-- `UpdateConfigSettings` is `clear`, an `updateUdpClient` for each index, and `settings`. -/
inductive Event where
  | clear
  | updateUdpClient (clientIndex : Nat) (settings : ClientSettings)
  | settings (signState : Nat) (muteDsrc : Bool)
  | message (msg : Message) (sign : Nat → Signed)
  | destroy

def updateConfigSettings (clients : Fin 4 → ClientSettings) (signState : Nat) (muteDsrc : Bool) : List Event :=
  .clear :: (List.finRange 4).map (fun i => .updateUdpClient i (clients i)) ++ [.settings signState muteDsrc]

def State.exec (s : State) : Event → Except Fault State
  | .clear => .ok { s with messageConfigMap := [] }
  | .updateUdpClient clientIndex settings => updateUdpClientFromConfigSettings clientIndex settings s
  | .settings signState muteDsrc => .ok { s with signState, muteDsrc, configRead := true }
  | .message msg sign => onMessageReceived msg sign s
  | .destroy => V2xHub.ImmediateForwardPlugin.destroy s

def State.step (s : State) (e : Event) : Option State :=
  if s.ending = none then
    match s.exec e with
    | .ok t => some t
    | .error f => some { s with ending := some (.fault f) }
  else none

def plugin : Machine State Event := ⟨State.init, State.step⟩

end V2xHub.ImmediateForwardPlugin
