import V2xHub.Lib.CString
import V2xHub.Lib.Machine
import Mathlib.Logic.Function.Basic

/-!
# The dynamic message sign plugin

`DmsPlugin` with the signs it can be connected to. A call to the controller goes to the sign at the configured address;
how it ends is part of the event that makes it. The sign simulator, which only receives, is left out.
-/

namespace V2xHub.DmsPlugin

/-- What a sign was told: the texts in its changeable memory and the last activation it accepted, 0 for a blanking. -/
structure Sign where
  stored : Int → Option Str
  activated : Option Int

structure SignMessage where
  DmsText : Str
  IsDmsTextInitialized : Bool
deriving DecidableEq

/-- The members and the signs by their addresses. -/
structure State where
  _isSignMessagesInitialized : Bool
  _isDmsControllerInitialized : Bool
  _enableDms : Bool
  _dmsIpAddress : Str
  _dmsPort : Fin (2 ^ 32)
  _signMessages : Int → Option SignMessage
  _msgIdRequested : Int
  _msgIdShown : Int
  signs : Str × Fin (2 ^ 32) → Sign

/-- The ends of the controller calls of `AssignMessageOnSign`: the three statuses read, and whether the sign stored the
text. -/
structure AssignCalls where
  notUsed : Int
  modifying : Int
  stores : Bool
  valid : Int
deriving DecidableEq

/-- The configuration values that are found. -/
structure Config where
  enableDms : Option Bool
  dmsIpAddress : Option Str
  dmsPort : Option (Fin (2 ^ 32))
  message : Int → Option Str

namespace State
variable (s : State)

def address : Str × Fin (2 ^ 32) := (s._dmsIpAddress, s._dmsPort)

/-- The sign the calls go to. -/
def sign : Sign := s.signs s.address

def setSign (sign : Sign) : State := { s with signs := Function.update s.signs s.address sign }

def setMessage (messageId : Int) (m : SignMessage) : State :=
  { s with _signMessages := Function.update s._signMessages messageId (some m) }

/-- No caller asks for an activation. -/
def AssignMessageOnSign (messageNumber : Int) (message : Str) (calls : AssignCalls) : State × Bool :=
  let s := if s._msgIdRequested = messageNumber then { s with _msgIdShown := -1 } else s
  if messageNumber = 0 then (s, false)
  else if calls.notUsed ≠ 1 then (s, false)
  else if calls.modifying ≠ 2 then (s, false)
  else
    let s := if calls.stores then
        s.setSign { s.sign with stored := Function.update s.sign.stored messageNumber (some message) }
      else s
    (s, calls.valid = 4)

/-- The end of `AddSignMessage` and the loop body of `InitializeSignMessages`: the text is sent if it was not yet. -/
def initializeText (messageId : Int) (m : SignMessage) (calls : AssignCalls) : State × Bool :=
  if m.IsDmsTextInitialized then (s, true)
  else
    match s.AssignMessageOnSign messageId m.DmsText calls with
    | (s, true) => (s.setMessage messageId { m with IsDmsTextInitialized := true }, true)
    | (s, false) => (s, false)

def AddSignMessage (messageId : Int) (text : Str) (sendToSign : Bool) (calls : AssignCalls) : State × Bool :=
  let new : SignMessage := ⟨text, false⟩
  let (s, m) :=
    match s._signMessages messageId with
    | none => ({ s.setMessage messageId new with _isSignMessagesInitialized := false }, new)
    | some m =>
      if m.DmsText ≠ text then ({ s.setMessage messageId new with _isSignMessagesInitialized := false }, new)
      else (s, m)
  if !s._enableDms || !s._isDmsControllerInitialized || m.IsDmsTextInitialized || !sendToSign then (s, true)
  else if messageId = 0 then (s.setMessage messageId { m with IsDmsTextInitialized := true }, true)
  else s.initializeText messageId m calls

/-- The variable `message` of `UpdateConfig` keeps the last text that was found. -/
def messages (message : Int → Option Str) : List (Int × Str) :=
  let message1 := (message 1).getD []
  let message2 := (message 2).getD message1
  let message3 := (message 3).getD message2
  [(1, message1), (2, message2), (3, message3), (4, (message 4).getD message3)]

/-- The loop of `UpdateConfig`. -/
def addSignMessages (calls : Int → AssignCalls) : List (Int × Str) → Bool → State → State
  | [], _, s => s
  | (i, message) :: rest, sendToSign, s =>
    let added := s.AddSignMessage i message sendToSign (calls i)
    addSignMessages calls rest (sendToSign && added.2) added.1

/-- The address is set, without `UninitializeSignMessages`. -/
def setConfigs (ip : Str) (port : Fin (2 ^ 32)) : State :=
  if ip ≠ s._dmsIpAddress ∨ port ≠ s._dmsPort then
    { s with _dmsIpAddress := ip, _dmsPort := port, _isDmsControllerInitialized := true }
  else s

def UpdateConfig (cfg : Config) (calls : Int → AssignCalls) : State :=
  let s := { s with _enableDms := cfg.enableDms.getD s._enableDms }
  addSignMessages calls (messages cfg.message) true
    (s.setConfigs (cfg.dmsIpAddress.getD s._dmsIpAddress) (cfg.dmsPort.getD s._dmsPort))

/-- A blanking leaves 1 in `_msgIdShown`. -/
def ActivateMessage (messageNumber : Int) (activated : Bool) : State × Bool :=
  if activated then
    ({ s.setSign { s.sign with activated := some messageNumber } with
      _msgIdShown := if messageNumber = 0 then 1 else messageNumber }, true)
  else (s, false)

def ShowSignMessage (msgId : Int) (activated : Bool) : State × Bool :=
  if !s._isSignMessagesInitialized then (s, false)
  else
    match s._signMessages msgId with
    | none => (s, false)
    | some _ => if s._enableDms then s.ActivateMessage msgId activated else (s, true)

def SetRequestedMessage (msgId : Int) (activated : Bool) : State :=
  let s := { s with _msgIdRequested := msgId }
  if s._msgIdRequested = s._msgIdShown then s
  else
    match s.ShowSignMessage msgId activated with
    | (s, true) => { s with _msgIdShown := msgId }
    | (s, false) => s

/-- The loop of `InitializeSignMessages`; the map has no other ids than 0 to 4. -/
def initializeTexts (calls : Int → AssignCalls) : List Int → State → State × Bool
  | [], s => (s, true)
  | i :: rest, s =>
    match s._signMessages i with
    | none => initializeTexts calls rest s
    | some m =>
      match s.initializeText i m (calls i) with
      | (s, true) => initializeTexts calls rest s
      | (s, false) => (s, false)

def InitializeSignMessages (calls : Int → AssignCalls) : State × Bool :=
  if !s._enableDms then (s, false) else initializeTexts calls [1, 2, 3, 4] s

/-- A cycle of `Main`. -/
def cycle (calls : Int → AssignCalls) (activated : Bool) : State :=
  if s._isSignMessagesInitialized then
    if s._msgIdRequested ≠ s._msgIdShown then s.SetRequestedMessage s._msgIdRequested activated else s
  else
    let (s, initialized) := s.InitializeSignMessages calls
    { s with _isSignMessagesInitialized := initialized }

end State

inductive Event where
  | UpdateConfig (cfg : Config) (calls : Int → AssignCalls)
  /-- `Force Message ID` in `OnConfigChanged`. -/
  | force (forceMessageId : Int) (activated : Bool)
  /-- `OnMessageReceived`. -/
  | request (msgId : Int) (activated : Bool)
  | cycle (calls : Int → AssignCalls) (activated : Bool)

def State.step (s : State) : Event → Option State
  | .UpdateConfig cfg calls => some (s.UpdateConfig cfg calls)
  | .force forceMessageId activated =>
    some (s.SetRequestedMessage (if forceMessageId ≠ -1 then forceMessageId else 0) activated)
  | .request msgId activated => some (s.SetRequestedMessage msgId activated)
  | .cycle calls activated => some (s.cycle calls activated)

/-- Behind the constructor, which adds the blanking message; the signs are as they are. -/
def State.init (signs : Str × Fin (2 ^ 32) → Sign) : State where
  _isSignMessagesInitialized := false
  _isDmsControllerInitialized := false
  _enableDms := false
  _dmsIpAddress := []
  _dmsPort := 0
  _signMessages := Function.update (fun _ => none) 0 (some ⟨[], false⟩)
  _msgIdRequested := 0
  _msgIdShown := -1
  signs := signs

def plugin (signs : Str × Fin (2 ^ 32) → Sign) : Machine State Event := ⟨.init signs, State.step⟩

end V2xHub.DmsPlugin
