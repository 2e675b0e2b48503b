import V2xHub.Router.Basic
import V2xHub.Lib.Machine

/-!
# The message router under several threads

The same functions, one step for each operation on a lock, on `mActiveBroadcasts` or on the map. A
control state names the operation that its thread does next. An iterator whose receiver is no longer in
the map is undefined behaviour in the source, and here the control state `undefined`, which has no step.
-/

namespace V2xHub.MessageRouterBasic

/-- The two functions that change the map. -/
inductive Update (ρ : Type*) where
  | registerReceiver (receiver : ρ) (filters : List MessageFilterEntry)
  | unregisterReceiver (receiver : ρ)

def Update.apply {ρ : Type*} [LinearOrder ρ] : Update ρ → MessageRouterBasic ρ → MessageRouterBasic ρ
  | .registerReceiver receiver filters, router => router.registerReceiver receiver filters
  | .unregisterReceiver receiver, router => router.unregisterReceiver receiver

/-- The arguments of `broadcastMessage`. -/
structure Broadcast (ρ : Type*) where
  sender : Option ρ
  msg : IvpMessage

/-- Where a thread is. From `loop` on, a broadcast has `mapIter` and the receivers it has called. -/
inductive Pc (ρ : Type*) where
  | idle
  | lockMap (b : Broadcast ρ)
  | lockCount (b : Broadcast ρ)
  | increment (b : Broadcast ρ)
  | unlockCount (b : Broadcast ρ)
  | unlockMap (b : Broadcast ρ)
  | begin (b : Broadcast ρ)
  | loop (b : Broadcast ρ) (mapIter : Option ρ) (delivered : List ρ)
  | receive (b : Broadcast ρ) (receiver : ρ) (delivered : List ρ)
  | advance (b : Broadcast ρ) (receiver : ρ) (delivered : List ρ)
  | lockCountAgain (b : Broadcast ρ) (delivered : List ρ)
  | decrement (b : Broadcast ρ) (delivered : List ρ)
  | unlockCountAgain
  | updateLockMap (u : Update ρ)
  | updateWait (u : Update ρ)
  | updateMap (u : Update ρ)
  | updateUnlockMap (u : Update ρ)
  | undefined

namespace Pc
variable {ρ : Type*}

/-- Between `lock` and `unlock` of `mMapLock`. -/
def ownsMap : Pc ρ → Bool
  | lockCount _ | increment _ | unlockCount _ | unlockMap _ => true
  | updateWait _ | updateMap _ | updateUnlockMap _ => true
  | _ => false

/-- Between `lock` and `unlock` of `mActiveBroadcastsLock`. -/
def ownsCount : Pc ρ → Bool
  | increment _ | unlockCount _ | decrement _ _ | unlockCountAgain => true
  | _ => false

/-- Between the increment and the decrement of `mActiveBroadcasts`. -/
def counted : Pc ρ → Bool
  | unlockCount _ | unlockMap _ | begin _ | loop _ _ _ | receive _ _ _ | advance _ _ _ => true
  | lockCountAgain _ _ | decrement _ _ => true
  | _ => false

/-- In the loop over the map. -/
def iterating : Pc ρ → Bool
  | begin _ | loop _ _ _ | receive _ _ _ | advance _ _ _ => true
  | _ => false

/-- Inside `receiver->receiveMessage`. -/
def delivers (receiver : ρ) : Pc ρ → Prop
  | receive _ r _ => r = receiver
  | _ => False

def ofCall : Call ρ → Pc ρ
  | .registerReceiver receiver filters => updateLockMap (.registerReceiver receiver filters)
  | .unregisterReceiver receiver => updateLockMap (.unregisterReceiver receiver)
  | .broadcastMessage sender msg => lockMap ⟨sender, msg⟩

end Pc

/-- The router and the threads that use it. -/
structure Shared (τ ρ : Type*) [LinearOrder ρ] where
  mapLock : Option τ
  activeBroadcastsLock : Option τ
  activeBroadcasts : Int
  router : MessageRouterBasic ρ
  pc : τ → Pc ρ

/-- A thread calls a function of the router, or does its next operation. -/
inductive Event (τ ρ : Type*) where
  | call (t : τ) (c : Call ρ)
  | run (t : τ)

namespace Shared
variable {τ ρ : Type*} [DecidableEq τ] [LinearOrder ρ]

def goto (s : Shared τ ρ) (t : τ) (p : Pc ρ) : Shared τ ρ := { s with pc := Function.update s.pc t p }

def acquireMap (s : Shared τ ρ) (t : τ) (p : Pc ρ) : Option (Shared τ ρ) :=
  if s.mapLock.isNone then some { s.goto t p with mapLock := some t } else none

def releaseMap (s : Shared τ ρ) (t : τ) (p : Pc ρ) : Shared τ ρ := { s.goto t p with mapLock := none }

def acquireCount (s : Shared τ ρ) (t : τ) (p : Pc ρ) : Option (Shared τ ρ) :=
  if s.activeBroadcastsLock.isNone then some { s.goto t p with activeBroadcastsLock := some t } else none

def releaseCount (s : Shared τ ρ) (t : τ) (p : Pc ρ) : Shared τ ρ :=
  { s.goto t p with activeBroadcastsLock := none }

/-- One pass of the loop over the map, up to the call of `receiveMessage` if there is one. -/
def visit (router : MessageRouterBasic ρ) (b : Broadcast ρ) (receiver : ρ) (delivered : List ρ) : Pc ρ :=
  match router.receiverMessageFilterEntryMap.find? receiver with
  | none => .undefined
  | some filters =>
    if b.sender = some receiver then .advance b receiver delivered
    else if (filterLoop receiver b.msg filters).isEmpty then .advance b receiver delivered
    else .receive b receiver delivered

def advance (router : MessageRouterBasic ρ) (b : Broadcast ρ) (receiver : ρ) (delivered : List ρ) : Pc ρ :=
  match router.receiverMessageFilterEntryMap.find? receiver with
  | none => .undefined
  | some _ => .loop b (router.receiverMessageFilterEntryMap.next receiver) delivered

def run (s : Shared τ ρ) (t : τ) : Option (Shared τ ρ) :=
  match s.pc t with
  | .idle => none
  | .lockMap b => s.acquireMap t (.lockCount b)
  | .lockCount b => s.acquireCount t (.increment b)
  | .increment b => some { s.goto t (.unlockCount b) with activeBroadcasts := s.activeBroadcasts + 1 }
  | .unlockCount b => some (s.releaseCount t (.unlockMap b))
  | .unlockMap b => some (s.releaseMap t (.begin b))
  | .begin b => some (s.goto t (.loop b s.router.receiverMessageFilterEntryMap.begin []))
  | .loop b none delivered => some (s.goto t (.lockCountAgain b delivered))
  | .loop b (some receiver) delivered => some (s.goto t (visit s.router b receiver delivered))
  | .receive b receiver delivered => some (s.goto t (.advance b receiver (delivered ++ [receiver])))
  | .advance b receiver delivered => some (s.goto t (advance s.router b receiver delivered))
  | .lockCountAgain b delivered => s.acquireCount t (.decrement b delivered)
  | .decrement _ _ => some { s.goto t .unlockCountAgain with activeBroadcasts := s.activeBroadcasts - 1 }
  | .unlockCountAgain => some (s.releaseCount t .idle)
  | .updateLockMap u => s.acquireMap t (.updateWait u)
  | .updateWait u => some (if 0 < s.activeBroadcasts then s else s.goto t (.updateMap u))
  | .updateMap u => some { s.goto t (.updateUnlockMap u) with router := u.apply s.router }
  | .updateUnlockMap _ => some (s.releaseMap t .idle)
  | .undefined => none

def step (s : Shared τ ρ) : Event τ ρ → Option (Shared τ ρ)
  | .call t c =>
    match s.pc t with
    | .idle => some (s.goto t (.ofCall c))
    | _ => none
  | .run t => s.run t

end Shared

/-- All runs of the router under the threads `τ`. -/
def machine (τ ρ : Type*) [DecidableEq τ] [LinearOrder ρ] : Machine (Shared τ ρ) (Event τ ρ) where
  init := ⟨none, none, 0, init, fun _ => .idle⟩
  step := Shared.step

end V2xHub.MessageRouterBasic
