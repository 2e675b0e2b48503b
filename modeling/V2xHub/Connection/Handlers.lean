import V2xHub.ApiMessages.EventLog
import V2xHub.ApiMessages.PluginStatus
import V2xHub.ApiMessages.Register

/-!
# The handlers of a connection

What the processor threads of a `PluginConnection` do with one message, with the functions of `Plugin` that
they call. Whatever is not caught ends the core: an exception, an assertion, a `NULL` string.
-/

namespace V2xHub.PluginConnection

inductive Exception where
  | plugin
  | pluginNotRegistered
  | unknownConfigurationKey
  | db
  | logic
deriving DecidableEq

/-- The classes derived from `PluginException`. -/
def Exception.isPlugin : Exception → Bool
  | plugin | pluginNotRegistered | unknownConfigurationKey => true
  | db | logic => false

inductive Fault where
  | exception (e : Exception)
  | assertion
  | nullPointer
deriving DecidableEq

/-- What becomes of a message that is handled to its end. -/
inductive Outcome where
  | processed
  | answered (answer : IvpMessage)
  | ignored

/-- `try { … } catch (PluginException &e) { … }`. -/
def tryCatch {α : Type*} (thrown : Option Exception) (normal caught : α) : Except Fault α :=
  match thrown with
  | none => .ok normal
  | some e => if e.isPlugin then .ok caught else .error (.exception e)

structure PluginConfigurationParameterEntry where
  key : Str
  value : Str
  defaultValue : Str
  description : Str
deriving DecidableEq

structure MessageTypeEntry where
  id : Nat
  type : Str
  subtype : Str
  description : Str
deriving DecidableEq

/-- `operator==`. -/
def MessageTypeEntry.same (entry : MessageTypeEntry) (type subtype : Str) : Bool :=
  entry.type ++ CString.lit "||" ++ entry.subtype = type ++ CString.lit "||" ++ subtype

structure RegistrationInformation where
  name : Str
  description : Str
  version : Str
  configDefaultEntries : List PluginConfigurationParameterEntry
  messageTypeEntries : List MessageTypeEntry

/-- What the clock, the database, the other clients and the stack give while a message is handled. Of an
operation that may throw a `DbException` it says whether it succeeds. -/
structure World where
  now : Nat
  level : IvpLogLevel
  nameTaken : Bool
  register : Bool
  pluginId : Nat
  parameters : List PluginConfigurationParameterEntry
  setPluginStatus : Bool
  configContext : Bool
  initializePluginConfigParameters : Bool
  setPluginStatusItems : Bool
  removePluginStatusItems : Bool
  insertMessageType : Option Nat

/-- `mRegistered`, `mInfo.pluginInfo` and `mConfigValues`. -/
structure Client where
  registered : Bool
  name : Str
  id : Nat
  configValues : List PluginConfigurationParameterEntry

/-- What the handlers change: the client and the message types that the profiler knows. -/
structure Shared where
  client : Client
  messageTypes : List MessageTypeEntry

namespace Client

/-- All the database operations of a registration succeed or one of them throws; a `PluginException` is
thrown for that, and also when the status cannot be set at the end. -/
def registerPlugin (c : Client) (w : World) (info : RegistrationInformation) : Client × Option Exception :=
  if info.name = [] then (c, some .plugin)
  else if w.nameTaken then (c, some .plugin)
  else if !w.register then (c, some .plugin)
  else (⟨true, info.name, w.pluginId, w.parameters⟩, if w.setPluginStatus then none else some .plugin)

def subscribeForMessages (c : Client) : Option Exception := if c.registered then none else some .pluginNotRegistered

def setStatusItems (c : Client) (w : World) : Option Exception :=
  if !c.registered then some .pluginNotRegistered else if w.setPluginStatusItems then none else some .plugin

def removeStatusItems (c : Client) (w : World) : Option Exception :=
  if !c.registered then some .pluginNotRegistered else if w.removePluginStatusItems then none else some .plugin

def addEventLogEntry (c : Client) : Option Exception := if c.registered then none else some .pluginNotRegistered

def hasConfigValue (c : Client) (key : Str) : Bool := c.configValues.any (·.key = key)

/-- The value goes to the database, and what that throws is caught here. -/
def setConfigValue (c : Client) (key : Str) : Option Exception :=
  if !c.registered then some .pluginNotRegistered
  else if !c.hasConfigValue key then some .unknownConfigurationKey
  else none

end Client

/-! ### Messages for the router -/

/-- `MessageProfiler::onMessageReceived`. When the new type cannot be inserted, its identifier is still 0 at
the assertion behind. -/
def profile (messageTypes : List MessageTypeEntry) (w : World) (msg : IvpMessage) : Except Fault (List MessageTypeEntry) :=
  match msg.type with
  | none => .ok messageTypes
  | some type =>
    if msg.source.getD [] = [] ∨ msg.sourceId = 0 then .ok messageTypes
    else
      match messageTypes.find? (·.same type (msg.subtype.getD [])) with
      | some entry => if entry.id = 0 then .error .assertion else .ok messageTypes
      | none =>
        if w.insertMessageType.getD 0 = 0 then .error .assertion
        else .ok (messageTypes ++ [⟨w.insertMessageType.getD 0, type, msg.subtype.getD [], []⟩])

def errorMsg (w : World) (level : IvpLogLevel) : IvpMessage :=
  IvpError.createMsg w.now { IVP_ERROR_INITIALIZER with level := level }

/-- `sendMessageToRouter`. Of the receivers, only the profiler can fail. -/
def routeMessage (s : Shared) (w : World) (msg : IvpMessage) : Except Fault (Shared × Outcome) :=
  if s.client.registered then
    (profile s.messageTypes w { msg with source := some s.client.name, sourceId := s.client.id }).map fun messageTypes =>
      ({ s with messageTypes := messageTypes }, .processed)
  else tryCatch (some .pluginNotRegistered) (s, .processed) (s, .answered (errorMsg w IvpLogLevel_error))

/-! ### Registration and subscription -/

/-- `std::string(NULL)` throws. -/
def string (s : Option Str) : Except Fault Str :=
  match s with
  | some s => .ok s
  | none => .error (.exception .logic)

def assertSome {α : Type*} (a : Option α) : Except Fault α :=
  match a with
  | some a => .ok a
  | none => .error .assertion

def configDefaultEntry (item : IvpConfigItem) : Except Fault PluginConfigurationParameterEntry := do
  let key ← string item.key
  let defaultValue ← string item.defaultValue
  return ⟨key, defaultValue, defaultValue, item.description.getD []⟩

def messageTypeEntry (entry : IvpMessageTypeEntry) : Except Fault MessageTypeEntry := do
  let type ← string entry.type
  let subtype ← string entry.subtype
  return ⟨0, type, subtype, entry.description.getD []⟩

def registrationInformation (manifest : IvpManifest) : Except Fault RegistrationInformation := do
  let items ← assertSome (Collection.getItems IvpConfig.readItem manifest.configuration)
  let configDefaultEntries ← items.mapM configDefaultEntry
  let entries ← assertSome (Collection.getItems IvpMsgType.readEntry manifest.messageTypes)
  let messageTypeEntries ← entries.mapM messageTypeEntry
  return ⟨manifest.name.getD [], manifest.description.getD [], manifest.version.getD [], configDefaultEntries,
    messageTypeEntries⟩

/-- The configuration that a client gets when it is registered: the values that are not the defaults. -/
def configAnswer (w : World) (entries : List PluginConfigurationParameterEntry) : IvpMessage :=
  IvpConfig.createMsg w.now <|
    (entries.filter fun entry => entry.value ≠ entry.defaultValue).foldl
      (fun collection entry => IvpConfig.addItemToCollection collection entry.key (some entry.value) none) none

def processRegistrationMessage (s : Shared) (w : World) (msg : IvpMessage) : Except Fault (Shared × Outcome) := do
  let manifest ← assertSome (IvpRegister.getManifest msg)
  if (IvpRegister.validateManifest manifest).error ≠ IvpError_none then return (s, .ignored)
  let info ← registrationInformation manifest
  let (client, thrown) := s.client.registerPlugin w info
  tryCatch thrown ({ s with client := client }, .answered (configAnswer w client.configValues))
    ({ s with client := client }, .answered (errorMsg w IvpLogLevel_fatal))

def processSubscribeMessage (s : Shared) (w : World) : Except Fault (Shared × Outcome) :=
  tryCatch s.client.subscribeForMessages (s, .processed) (s, .answered (errorMsg w IvpLogLevel_error))

/-! ### Configuration -/

/-- Where `processConfigMessage` is. -/
structure ConfigLoop where
  msg : IvpMessage
  arraySize : Nat
  index : Nat
  globalParams : List PluginConfigurationParameterEntry

def globalSource : Str := CString.lit "_global"

/-- Up to the loop; the constructor of the context is outside the `try`. -/
def beginConfig (w : World) (msg : IvpMessage) : Except Fault ConfigLoop := do
  let arraySize ← assertSome (IvpConfig.getItemCount msg.payload)
  if w.configContext then return ⟨msg, arraySize, 0, []⟩ else throw (.exception .db)

/-- One round of the loop. -/
def configItem (c : Client) (loop : ConfigLoop) : Except Fault ConfigLoop := do
  let item ← assertSome (IvpConfig.getItem loop.msg.payload loop.index)
  let key ← assertSome item.key
  let value ← assertSome item.value
  match loop.msg.source with
  | none => throw .nullPointer
  | some source =>
    if source = globalSource then
      let defaultValue ← string item.defaultValue
      return { loop with
        index := loop.index + 1
        globalParams := loop.globalParams ++
          [⟨key, value, defaultValue, item.description.getD (CString.lit "Global system parameter")⟩] }
    else
      match c.setConfigValue key with
      | none => return { loop with index := loop.index + 1 }
      | some e => throw (.exception e)

/-- Behind the loop; the `DbException` is caught and a `PluginException` thrown instead. -/
def endConfig (w : World) : Except Fault Outcome :=
  if w.initializePluginConfigParameters then .ok .processed else .error (.exception .plugin)

/-! ### Status and events -/

def processStatusMessage (s : Shared) (w : World) (msg : IvpMessage) : Except Fault (Shared × Outcome) := do
  let items ← assertSome (Collection.getItems IvpPluginStatus.readItem msg.payload)
  if items.all fun item => item.value.isSome || item.key.isSome then
    tryCatch ((s.client.setStatusItems w).or (s.client.removeStatusItems w)) (s, .processed) (s, .ignored)
  else throw .assertion

def processEventLogMessage (s : Shared) (w : World) (msg : IvpMessage) : Except Fault (Shared × Outcome) := do
  let entry ← assertSome (IvpEventLog.getEventLogEntry w.level msg)
  if entry.description.getD [] = [] then throw .assertion
  else
    match s.client.addEventLogEntry with
    | none => return (s, .processed)
    | some e => throw (.exception e)

end V2xHub.PluginConnection
