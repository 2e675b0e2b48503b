import V2xHub.ApiMessages.Subscribe
import V2xHub.Lib.OrdMap
import Mathlib.Data.BitVec

/-!
# The message router

`MessageRouterBasic`: every receiver has the list of filter entries that it last subscribed with, and a
broadcast goes over the receivers in the order of the map. A call of `receiveMessage` is modelled by
the receiver it is made on, so a broadcast returns the list of these calls.
-/

namespace V2xHub

structure MessageFilterEntry where
  type : Str
  subtype : Str
  flagmask : IvpMsgFlags

/-- The type and the subtype of an entry that stands for all of them. -/
def wildcard : Str := CString.lit "*"

/-- The filter entries that `PluginConnection::processSubscribeMessage` makes of a message. -/
def filterEntries (msg : IvpMessage) : List MessageFilterEntry :=
  (List.range (IvpSubscribe.getFilterEntryCount msg)).filterMap fun i =>
    match IvpSubscribe.getFilterEntry msg i with
    | (some type, subtype, flagmask) => some ⟨type, subtype.getD [], flagmask⟩
    | (none, _, _) => none

/-- The state of a `MessageRouterBasic`; receivers are identified by their addresses. -/
structure MessageRouterBasic (ρ : Type*) [LinearOrder ρ] where
  receiverMessageFilterEntryMap : OrdMap ρ (List MessageFilterEntry)

namespace MessageRouterBasic
variable {ρ : Type*} [LinearOrder ρ]

def init : MessageRouterBasic ρ := ⟨OrdMap.empty⟩

/-- `!flagmask || (flagmask & msg->flags) > 0`. -/
def flagsPass (entry : MessageFilterEntry) (msg : IvpMessage) : Bool :=
  entry.flagmask = 0 || 0 < entry.flagmask &&& msg.flags

/-- The loop over the entries of one receiver; it breaks after the first delivery. -/
def filterLoop (receiver : ρ) (msg : IvpMessage) : List MessageFilterEntry → List ρ
  | [] => []
  | entry :: entries =>
    if entry.type = wildcard then
      if flagsPass entry msg then [receiver] else filterLoop receiver msg entries
    else if msg.type = some entry.type then
      if entry.subtype = wildcard || msg.subtype = some entry.subtype then
        if flagsPass entry msg then [receiver] else filterLoop receiver msg entries
      else filterLoop receiver msg entries
    else filterLoop receiver msg entries

/-- The loop over the map; it does not send to the sender itself. -/
def mapLoop (sender : Option ρ) (msg : IvpMessage) : List (ρ × List MessageFilterEntry) → List ρ
  | [] => []
  | (receiver, filters) :: rest =>
    if sender = some receiver then mapLoop sender msg rest
    else filterLoop receiver msg filters ++ mapLoop sender msg rest

def broadcastMessage (router : MessageRouterBasic ρ) (sender : Option ρ) (msg : IvpMessage) : List ρ :=
  mapLoop sender msg router.receiverMessageFilterEntryMap.entries

def registerReceiver (router : MessageRouterBasic ρ) (receiver : ρ) (filters : List MessageFilterEntry) :
    MessageRouterBasic ρ :=
  ⟨router.receiverMessageFilterEntryMap.insert receiver filters⟩

def unregisterReceiver (router : MessageRouterBasic ρ) (receiver : ρ) : MessageRouterBasic ρ :=
  ⟨router.receiverMessageFilterEntryMap.erase receiver⟩

/-- A call on the router. -/
inductive Call (ρ : Type*) where
  | registerReceiver (receiver : ρ) (filters : List MessageFilterEntry)
  | unregisterReceiver (receiver : ρ)
  | broadcastMessage (sender : Option ρ) (msg : IvpMessage)

/-- The router after a call, and the receivers that the call delivers to. -/
def call (router : MessageRouterBasic ρ) : Call ρ → MessageRouterBasic ρ × List ρ
  | .registerReceiver receiver filters => (router.registerReceiver receiver filters, [])
  | .unregisterReceiver receiver => (router.unregisterReceiver receiver, [])
  | .broadcastMessage sender msg => (router, router.broadcastMessage sender msg)

/-- What each of the calls delivers. -/
def run (router : MessageRouterBasic ρ) : List (Call ρ) → List (List ρ)
  | [] => []
  | c :: calls => (router.call c).2 :: run (router.call c).1 calls

end MessageRouterBasic

end V2xHub
