import V2xHub.ApiMessages.Error
import V2xHub.Connection.Queues
import V2xHub.MsgFramer.Link
import V2xHub.Router.Routing
import Mathlib.Algebra.BigOperators.Group.Finset.Basic
import Mathlib.Data.Fintype.Card

/-!
# The core between its plugins

Any number of registered plugins, each on its socket: `ivp_broadcastMessage` and `ivp_receive` on one side,
`receiverThread`, the processor threads and `onMessageReceived` on the other, and the router between the
connections. The call of a `send` or `write`, each piece that the socket takes of it, a `recv` of any length, a
look at a queue, and the delivery of a broadcast to one receiver are a step each, so that the broadcasts of several
connections run into each other. A `send` holds the lock of the plugin, but any number of threads of the core may
be in a `write` to one socket. A fast processor waits for its own write; the receiver, which writes only when a text
cannot be parsed, goes on here. The plugins stay connected.

`delivered` says what the core is for: of the messages that the core has handled, those of `c` that meet what
`r` was subscribed with at that time. What `r` has received from `c` is a prefix of it (`hub_delivers`).
-/

namespace V2xHub

variable {ρ : Type*} [LinearOrder ρ]

/-- What `mInfo.pluginInfo` holds for the registered plugins; the identifiers are keys of the database. -/
structure RegisteredPlugins (ρ : Type*) where
  name : ρ → Str
  id : ρ → Nat
  name_clean : ∀ c, 0 ∉ name c
  id_pos : ∀ c, 0 < id c
  id_lt : ∀ c, id c < 2 ^ 32
  id_injective : Function.Injective id

namespace Hub
open PluginConnection (Which route)

/-- A plugin with its connection. In `broadcastMessage`, the fast processor has the message and the receivers
that are still to come; `writing` is the receiver that it has written to. In a write to the plugin is the fast
processor of a connection or another thread of the core. -/
structure Client (ρ : Type*) where
  toCore : Link Unit
  queue : Which → List IvpMessage
  broadcast : Option (IvpMessage × List ρ)
  writing : Option ρ
  toPlugin : Link (Option ρ)
  received : List IvpMessage

namespace Client
variable {ρ : Type*}

def init : Client ρ := ⟨.init, fun _ => [], none, none, .init, []⟩

/-- `ivp_broadcastMessage`, on the side of the plugin, when it has the lock. -/
def ivp_broadcastMessage (x : Client ρ) (msg : IvpMessage) : Option (Client ρ) :=
  if x.toCore.writes.isEmpty then (x.toCore.send () (msg.createJsonString false)).map fun l => { x with toCore := l }
  else none

/-- `PluginConnection::onMessageReceived`, by the fast processor of a connection or another thread. -/
def onMessageReceived (x : Client ρ) (writer : Option ρ) (msg : IvpMessage) : Option (Client ρ) :=
  (x.toPlugin.send writer (msg.createJsonString false)).map fun l => { x with toPlugin := l }

def parseError (now : Nat) : IvpMessage :=
  IvpError.createMsg now (IvpError.createError IvpLogLevel_warn IvpError_messageParse 0)

/-- The body of the inner loop of `receiverThread`. -/
def receiveMsg (libc : Libc) (now : Nat) (x : Client ρ) (rawMessage : Str) : Option (Client ρ) :=
  match IvpMessage.parse libc rawMessage with
  | none => x.onMessageReceived none (parseError now)
  | some msg => some { x with queue := Function.update x.queue (route msg) (x.queue (route msg) ++ [msg]) }

/-- The body of the outer loop of `receiverThread`, for a `recv` of `recvcount` bytes. -/
def receiverThread (libc : Libc) (now : Nat) (recvcount : Nat) (x : Client ρ) : Option (Client ρ) :=
  (x.toCore.receive recvcount).bind fun (rawMessages, l) => rawMessages.foldlM (receiveMsg libc now) { x with toCore := l }

/-- The body of the loop of `ivp_receive`. A message that cannot be parsed does not reach the application. -/
def ivp_receive (libc : Libc) (recvcount : Nat) (x : Client ρ) : Option (Client ρ) :=
  (x.toPlugin.receive recvcount).map fun (rawmsgs, l) =>
    { x with toPlugin := l, received := x.received ++ rawmsgs.filterMap (IvpMessage.parse libc) }

end Client

end Hub

/-- The core and its plugins. -/
structure Hub (ρ : Type*) [LinearOrder ρ] where
  client : ρ → Hub.Client ρ
  router : MessageRouterBasic ρ
  mActiveBroadcasts : Nat

/-- A plugin sends a message or reads, a thread of its connection does its next step, a socket takes bytes of a `send`
or of a `write`, or the core itself sends the plugin a message: the answer to a registration, a changed
configuration, an error. -/
inductive HubEvent (ρ : Type*) where
  | ivp_broadcastMessage (c : ρ) (msg : IvpMessage)
  | receiverThread (c : ρ) (recvcount now : Nat)
  | fastProcessorThread (c : ρ)
  | slowProcessorThread (c : ρ)
  | onMessageReceived (c : ρ) (msg : IvpMessage)
  | send (c : ρ) (n : Nat)
  | write (c : ρ) (i n : Nat)
  | ivp_receive (c : ρ) (recvcount : Nat)

namespace Hub
open PluginConnection (Which route)

def init : Hub ρ := ⟨fun _ => .init, .init, 0⟩

def set (s : Hub ρ) (c : ρ) (x : Client ρ) : Hub ρ := { s with client := Function.update s.client c x }

/-- The fast processor is still in its `write`. -/
def isWriting (s : Hub ρ) (c : ρ) : Bool :=
  match (s.client c).writing with
  | none => false
  | some receiver => (s.client receiver).toPlugin.writes.any fun w => w.1 = some c

/-- What `Plugin::sendMessageToRouter` writes into a message. -/
def stamp (info : RegisteredPlugins ρ) (c : ρ) (msg : IvpMessage) : IvpMessage :=
  { msg with source := some (info.name c), sourceId := info.id c }

/-- The next step of the fast processor. A subscription waits until there is no broadcast. A registration or a
configuration changes nothing here: the plugins keep their names and identifiers. -/
def fastProcessorThread (info : RegisteredPlugins ρ) (s : Hub ρ) (c : ρ) : Option (Hub ρ) :=
  let x := s.client c
  if s.isWriting c then none
  else
  match x.broadcast, x.queue .fast with
  | some (msg, receiver :: receivers), _ =>
    let s := s.set c { x with broadcast := some (msg, receivers), writing := some receiver }
    ((s.client receiver).onMessageReceived (some c) msg).map (s.set receiver)
  | some (_, []), _ => some { s.set c { x with broadcast := none } with mActiveBroadcasts := s.mActiveBroadcasts - 1 }
  | none, [] => none
  | none, msg :: rest =>
    let x := { x with queue := Function.update x.queue .fast rest }
    if msg.isRegistrationMsg then some (s.set c x)
    else if msg.isSubscribeMsg then
      if s.mActiveBroadcasts = 0 then
        some { s.set c x with router := s.router.registerReceiver c (filterEntries msg) }
      else none
    else if msg.isConfigMsg then some (s.set c x)
    else
      let msg := stamp info c msg
      some { s.set c { x with broadcast := some (msg, s.router.broadcastMessage (some c) msg) } with
        mActiveBroadcasts := s.mActiveBroadcasts + 1 }

/-- The slow processor takes a message for the database. -/
def slowProcessorThread (s : Hub ρ) (c : ρ) : Option (Hub ρ) :=
  match (s.client c).queue .slow with
  | [] => none
  | _ :: rest => some (s.set c { s.client c with queue := Function.update (s.client c).queue .slow rest })

def step (libc : Libc) (info : RegisteredPlugins ρ) (s : Hub ρ) : HubEvent ρ → Option (Hub ρ)
  | .ivp_broadcastMessage c msg => ((s.client c).ivp_broadcastMessage msg).map (s.set c)
  | .receiverThread c recvcount now => ((s.client c).receiverThread libc now recvcount).map (s.set c)
  | .fastProcessorThread c => s.fastProcessorThread info c
  | .slowProcessorThread c => s.slowProcessorThread c
  | .onMessageReceived c msg => ((s.client c).onMessageReceived none msg).map (s.set c)
  | .send c n => ((s.client c).toCore.write 0 n).map fun l => s.set c { s.client c with toCore := l }
  | .write c i n => ((s.client c).toPlugin.write i n).map fun l => s.set c { s.client c with toPlugin := l }
  | .ivp_receive c recvcount => ((s.client c).ivp_receive libc recvcount).map (s.set c)

def machine (libc : Libc) (info : RegisteredPlugins ρ) : Machine (Hub ρ) (HubEvent ρ) := ⟨init, step libc info⟩

/-! ### What the core is for -/

/-- The messages that `c` has sent, as they are parsed. -/
def sent (c : ρ) (es : List (HubEvent ρ)) : List IvpMessage :=
  es.filterMap fun e =>
    match e with
    | .ivp_broadcastMessage c' msg => if c' = c then some msg.normal else none
    | _ => none

/-- Of the handled messages, the last one first, those of `c`. -/
def handled (c : ρ) : List (ρ × IvpMessage) → List IvpMessage
  | [] => []
  | (c', msg) :: past => handled c past ++ if c' = c then [msg] else []

/-- The subscription of the receiver after the handled messages. -/
def subscription (r : ρ) : List (ρ × IvpMessage) → Option (List MessageFilterEntry)
  | [] => none
  | (c, msg) :: past => if c = r ∧ msg.isSubscribeMsg then some (filterEntries msg) else subscription r past

/-- A message that is neither for the core itself nor for the database. -/
def isRouted (msg : IvpMessage) : Bool :=
  route msg = .fast && !msg.isRegistrationMsg && !msg.isSubscribeMsg && !msg.isConfigMsg

/-- The receiver is subscribed with an entry that the message meets. -/
def Wants (past : List (ρ × IvpMessage)) (r : ρ) (msg : IvpMessage) : Prop :=
  ∃ entry ∈ (subscription r past).getD [], MessageRouterBasic.Matches entry msg

open Classical in
/-- What is to come to `r` from `c`: each routed message of `c`, if `r` is subscribed with it when it is handled. -/
noncomputable def delivered (info : RegisteredPlugins ρ) (c r : ρ) : List (ρ × IvpMessage) → List IvpMessage
  | [] => []
  | (c', msg) :: past =>
    delivered info c r past ++
      if c' = c ∧ c ≠ r ∧ isRouted msg ∧ Wants past r (stamp info c msg) then [stamp info c msg] else []

/-- The message can be sent, and its text fits into the buffers. -/
structure Sound (msg : IvpMessage) : Prop where
  sendable : msg.Sendable
  fits : Link.Fits (msg.createJsonString false)

/-- The plugins send sound messages that stay so when the core has stamped them; the core's own are sound and
without a source; and no write to a socket begins while another one is in progress. -/
def SoundEvent (info : RegisteredPlugins ρ) (s : Hub ρ) : HubEvent ρ → Prop
  | .ivp_broadcastMessage c msg => Sound msg ∧ Sound (stamp info c msg.normal)
  | .onMessageReceived c msg => (Sound msg ∧ msg.sourceId = 0) ∧ (s.client c).toPlugin.writes = []
  | .fastProcessorThread c => ∀ b ∈ (s.client c).broadcast, ∀ receiver ∈ b.2.head?, (s.client receiver).toPlugin.writes = []
  | _ => True

/-- Nothing is left to do. -/
structure Quiet (s : Hub ρ) : Prop where
  toCore : ∀ c, (s.client c).toCore.wire = [] ∧ (s.client c).toCore.writes = []
  queue : ∀ c w, (s.client c).queue w = []
  broadcast : ∀ c, (s.client c).broadcast = none
  toPlugin : ∀ c, (s.client c).toPlugin.wire = [] ∧ (s.client c).toPlugin.writes = []

variable {libc : Libc} {info : RegisteredPlugins ρ} {s t : Hub ρ} {c r : ρ} {w : Which} {msg : IvpMessage}
  {x x' : Client ρ} {ms : List IvpMessage} {up down : ρ → List IvpMessage} {es : List (HubEvent ρ)} {e : HubEvent ρ}
  {past : List (ρ × IvpMessage)} {now i k n : Nat}

/-! ### One connection -/

/-- The text of a message on the wire. -/
def text (msg : IvpMessage) : Str := msg.createJsonString false

theorem printable_text (msg : IvpMessage) : CString.Printable (text msg) := CJson.printable_printUnformatted _

theorem Sound.parse (h : Sound msg) : IvpMessage.parse libc (text msg) = some msg.normal := h.sendable.parse_eq false

theorem carries_send {ω : Type*} {l : Link ω} (h : l.Carries (ms.map text)) (hidle : l.writes = []) (writer : ω)
    (hm : Sound msg) :
    ∃ l', l.send writer (text msg) = some l' ∧ l'.Carries ((ms ++ [msg]).map text) ∧ l'.wire = l.wire ∧
      l'.unwritten.length ≤ MSG_FRAMER_MAX_BUF_SIZE := by
  obtain ⟨l', hsend, hl', hlen⟩ := h.send hidle writer (printable_text msg) hm.fits
  exact ⟨l', hsend, by rwa [List.map_append], hlen⟩

omit [LinearOrder ρ] in
theorem ivp_broadcastMessage_spec (h : x.toCore.Carries (ms.map text)) (hm : Sound msg) (hidle : x.toCore.writes = []) :
    ∃ l, x.ivp_broadcastMessage msg = some { x with toCore := l } ∧ l.Carries ((ms ++ [msg]).map text) ∧
      l.wire = x.toCore.wire := by
  obtain ⟨l, hsend, hl, hwire, -⟩ := carries_send h hidle () hm
  refine ⟨l, ?_, hl, hwire⟩
  rw [Client.ivp_broadcastMessage, hidle]
  exact congrArg (Option.map _) hsend

omit [LinearOrder ρ] in
/-- The plugin has the lock. -/
theorem idle_of_ivp_broadcastMessage (h : x.ivp_broadcastMessage msg = some x') : x.toCore.writes = [] := by
  by_contra hno
  rw [Client.ivp_broadcastMessage, if_neg (mt List.isEmpty_iff.1 hno)] at h
  nomatch h

omit [LinearOrder ρ] in
theorem onMessageReceived_spec (h : x.toPlugin.Carries (ms.map text)) (hm : Sound msg) (hidle : x.toPlugin.writes = [])
    (writer : Option ρ) :
    ∃ l, x.onMessageReceived writer msg = some { x with toPlugin := l } ∧ l.Carries ((ms ++ [msg]).map text) ∧
      l.wire = x.toPlugin.wire ∧ l.unwritten.length ≤ MSG_FRAMER_MAX_BUF_SIZE := by
  obtain ⟨l, hsend, hl⟩ := carries_send h hidle writer hm
  exact ⟨l, congrArg (Option.map _) hsend, hl⟩

omit [LinearOrder ρ] in
/-- The messages go to their queues in the order in which they are taken out. -/
theorem foldlM_receiveMsg (hms : ∀ m ∈ ms, Sound m) :
    (ms.map text).foldlM (Client.receiveMsg libc now) x =
      some { x with queue := fun w => x.queue w ++ (ms.map IvpMessage.normal).filter (route · = w) } := by
  induction ms generalizing x with
  | nil => simp
  | cons m ms ih =>
    obtain ⟨hm, hms⟩ := List.forall_mem_cons.1 hms
    have hround : x.receiveMsg libc now (text m) =
        some { x with queue := Function.update x.queue (route m.normal) (x.queue (route m.normal) ++ [m.normal]) } := by
      rw [Client.receiveMsg, hm.parse]
    rw [List.map_cons, List.foldlM_cons, hround]
    refine (ih hms).trans (congrArg some ?_)
    congr 1
    funext w
    rcases eq_or_ne (route m.normal) w with rfl | hw
    · simp
    · simp [Function.update_of_ne hw.symm, hw]

omit [LinearOrder ρ] in
/-- What a `recv` takes off the wire is in the queues behind it. -/
theorem receiverThread_spec (h : x.toCore.Carries (ms.map text)) (hms : ∀ m ∈ ms, Sound m)
    (hx : x.receiverThread libc now k = some x') :
    ∃ taken rest l, ms = taken ++ rest ∧ l.Carries (rest.map text) ∧
      (l.wire.length < x.toCore.wire.length ∧ l.writes = x.toCore.writes) ∧
      x' = { x with
        toCore := l
        queue := fun w => x.queue w ++ (taken.map IvpMessage.normal).filter (route · = w) } := by
  obtain ⟨⟨rawMessages, l⟩, hrec, hfold⟩ := Option.bind_eq_some_iff.1 hx
  obtain ⟨ts, hts, hl⟩ := h.receive_of_some hrec
  obtain ⟨taken, rest, rfl, rfl, rfl⟩ := List.map_eq_append_iff.1 hts
  have hloop := @foldlM_receiveMsg ρ libc { x with toCore := l } taken now
    fun m hm => hms m (List.mem_append_left rest hm)
  exact ⟨taken, rest, l, rfl, hl, Link.length_receive hrec, Option.some.inj (hfold.symm.trans hloop)⟩

omit [LinearOrder ρ] in
theorem ivp_receive_spec (h : x.toPlugin.Carries (ms.map text)) (hms : ∀ m ∈ ms, Sound m)
    (hx : x.ivp_receive libc k = some x') :
    ∃ taken rest l, ms = taken ++ rest ∧ l.Carries (rest.map text) ∧
      (l.wire.length < x.toPlugin.wire.length ∧ l.writes = x.toPlugin.writes) ∧
      x' = { x with toPlugin := l, received := x.received ++ taken.map IvpMessage.normal } := by
  obtain ⟨⟨rawmsgs, l⟩, hrec, rfl⟩ := Option.map_eq_some_iff.1 hx
  obtain ⟨ts, hts, hl⟩ := h.receive_of_some hrec
  obtain ⟨taken, rest, rfl, rfl, rfl⟩ := List.map_eq_append_iff.1 hts
  have hparse : (taken.map text).filterMap (IvpMessage.parse libc) = taken.map IvpMessage.normal := by
    rw [List.filterMap_map, ← List.filterMap_eq_map]
    exact List.filterMap_congr fun m hm => (hms m (List.mem_append_left _ hm)).parse
  exact ⟨taken, rest, l, rfl, hl, Link.length_receive hrec,
    congrArg (fun r => { x with toPlugin := l, received := x.received ++ r }) hparse⟩

/-! ### The invariant -/

/-- One connection: `sent` and `handled` are the messages of the plugin so far, `up` and `down` those on their way to
the core and to the plugin. -/
structure ClientInv (info : RegisteredPlugins ρ) (c : ρ) (x : Client ρ) (sent handled up down : List IvpMessage) : Prop where
  toCore : x.toCore.Carries (up.map text)
  up_sound : ∀ m ∈ up, Sound m ∧ Sound (stamp info c m.normal)
  queue_sound : ∀ w, ∀ m ∈ x.queue w, m.normal = m ∧ Sound (stamp info c m) ∧ route m = w
  order : ∀ w, handled.filter (route · = w) ++ (x.queue w ++ (up.map IvpMessage.normal).filter (route · = w)) =
    sent.filter (route · = w)
  broadcast : ∀ b ∈ x.broadcast, Sound b.1 ∧ b.1.normal = b.1 ∧ b.1.sourceId = info.id c ∧ b.2.Nodup
  toPlugin : x.toPlugin.Carries (down.map text)
  down_sound : ∀ m ∈ down, Sound m
  origin : ∀ m ∈ x.received ++ down.map IvpMessage.normal, m.sourceId = 0 ∨ ∃ c, m.sourceId = info.id c

/-- The messages that the core has stamped for `c`. -/
def fromPlugin (info : RegisteredPlugins ρ) (c : ρ) (msgs : List IvpMessage) : List IvpMessage :=
  msgs.filter (·.sourceId = info.id c)

/-- What the broadcast of a connection still has to deliver to `r`. -/
def pending (x : Client ρ) (r : ρ) : List IvpMessage :=
  match x.broadcast with
  | some (msg, receivers) => if r ∈ receivers then [msg] else []
  | none => []

/-- The connection counts as an active broadcast. -/
def busy (x : Client ρ) : Nat := x.broadcast.isSome.toNat

theorem sent_append (c : ρ) (es fs : List (HubEvent ρ)) : sent c (es ++ fs) = sent c es ++ sent c fs :=
  List.filterMap_append

theorem handled_cons_self (c : ρ) (msg : IvpMessage) (past : List (ρ × IvpMessage)) :
    handled c ((c, msg) :: past) = handled c past ++ [msg] := by
  rw [handled, if_pos rfl]

theorem handled_cons_of_ne {c' : ρ} (h : c' ≠ c) : handled c' ((c, msg) :: past) = handled c' past := by
  rw [handled, if_neg h.symm, List.append_nil]

theorem delivered_cons_of_not_routed (h : ¬ isRouted msg) (c' r : ρ) :
    delivered info c' r ((c, msg) :: past) = delivered info c' r past := by
  rw [delivered, if_neg fun hall => h hall.2.2.1, List.append_nil]

theorem subscription_cons_of_not_subscribe (h : ¬ msg.isSubscribeMsg) (r : ρ) :
    subscription r ((c, msg) :: past) = subscription r past := by
  rw [subscription, if_neg fun hall => h hall.2]

@[simp] theorem set_client_self : (s.set c x).client c = x := Function.update_self ..

theorem set_client_of_ne (h : r ≠ c) : (s.set c x).client r = s.client r := Function.update_of_ne h ..

theorem set_received (h : x.received = (s.client c).received) :
    ((s.set c x).client r).received = (s.client r).received := by
  rcases eq_or_ne r c with rfl | hr
  · rw [set_client_self, h]
  · rw [set_client_of_ne hr]

omit [LinearOrder ρ] in
/-- A message is taken from the head of a queue. -/
theorem ClientInv.take {sent handled u d rest : List IvpMessage} (h : ClientInv info c x sent handled u d)
    (hq : x.queue w = msg :: rest) :
    ClientInv info c { x with queue := Function.update x.queue w rest } sent (handled ++ [msg]) u d :=
  { h with
    queue_sound := fun w' m hm => by
      rcases eq_or_ne w' w with rfl | hw
      · exact h.queue_sound w' m (hq ▸ List.mem_cons_of_mem msg (by simpa using hm))
      · exact h.queue_sound w' m (by simpa [Function.update_of_ne hw] using hm)
    order := fun w' => by
      have hroute := (h.queue_sound w msg (hq ▸ List.mem_cons_self ..)).2.2
      rw [← h.order]
      rcases eq_or_ne w' w with rfl | hw
      · simp [hq, hroute]
      · simp [Function.update_of_ne hw, hroute, hw.symm] }

variable [Fintype ρ]

/-- All connections, the messages `past` being handled, the last one first. -/
structure Inv (info : RegisteredPlugins ρ) (es : List (HubEvent ρ)) (s : Hub ρ) (past : List (ρ × IvpMessage))
    (up down : ρ → List IvpMessage) : Prop where
  client : ∀ c, ClientInv info c (s.client c) (sent c es) (handled c past) (up c) (down c)
  router : ∀ r, s.router.receiverMessageFilterEntryMap.find? r = subscription r past
  active : s.mActiveBroadcasts = ∑ c, busy (s.client c)
  delivered : ∀ c r, fromPlugin info c ((s.client r).received ++ (down r).map IvpMessage.normal) ++
    pending (s.client c) r = delivered info c r past

/-- A sum of which one summand changes. -/
theorem sum_eq_of_elsewhere {f g : ρ → Nat} (h : ∀ c' ≠ c, g c' = f c') : ∑ c', g c' + f c = ∑ c', f c' + g c := by
  have hrest : ∑ c' ∈ Finset.univ.erase c, g c' = ∑ c' ∈ Finset.univ.erase c, f c' :=
    Finset.sum_congr rfl fun c' hc' => h c' (Finset.ne_of_mem_erase hc')
  have hg := Finset.add_sum_erase Finset.univ g (Finset.mem_univ c)
  have hf := Finset.add_sum_erase Finset.univ f (Finset.mem_univ c)
  omega

theorem inv_init : Inv info [] (init : Hub ρ) [] (fun _ => []) fun _ => [] where
  client c :=
    { toCore := Link.carries_init
      up_sound := by simp
      queue_sound := by simp [init, Client.init]
      order := by simp [init, Client.init, sent, handled]
      broadcast := by simp [init, Client.init]
      toPlugin := Link.carries_init
      down_sound := by simp
      origin := by simp [init, Client.init] }
  router r := rfl
  active := by simp [init, Client.init, busy]
  delivered c r := by simp [init, Client.init, fromPlugin, pending, delivered]

/-- A step that changes one connection, but not its broadcast, and that delivers nothing from a plugin. -/
theorem Inv.set (h : Inv info es s past up down) {past' : List (ρ × IvpMessage)} {u d : List IvpMessage}
    {router : MessageRouterBasic ρ} (hx : ClientInv info c x (sent c (es ++ [e])) (handled c past') u d)
    (hsent : ∀ c' ≠ c, sent c' [e] = []) (hhandled : ∀ c' ≠ c, handled c' past' = handled c' past)
    (hdelivered : ∀ c' r, Hub.delivered info c' r past' = Hub.delivered info c' r past)
    (hrouter : ∀ r, router.receiverMessageFilterEntryMap.find? r = subscription r past')
    (hbroadcast : x.broadcast = (s.client c).broadcast)
    (hfrom : ∀ c', fromPlugin info c' (x.received ++ d.map IvpMessage.normal) =
      fromPlugin info c' ((s.client c).received ++ (down c).map IvpMessage.normal)) :
    Inv info (es ++ [e]) { s.set c x with router := router } past' (Function.update up c u) (Function.update down c d) where
  client c' := by
    rcases eq_or_ne c' c with rfl | hc
    · simpa [Hub.set] using hx
    · rw [sent_append, hsent c' hc, List.append_nil, hhandled c' hc]
      simpa [Hub.set, Function.update_of_ne hc] using h.client c'
  router := hrouter
  active := by
    refine h.active.trans (Finset.sum_congr rfl fun c' _ => ?_)
    rcases eq_or_ne c' c with rfl | hc
    · simp [Hub.set, busy, hbroadcast]
    · simp [Hub.set, Function.update_of_ne hc]
  delivered c' r := by
    rw [hdelivered, ← h.delivered]
    congr 1
    · rcases eq_or_ne r c with rfl | hr
      · simpa [Hub.set] using hfrom c'
      · simp [Hub.set, Function.update_of_ne hr]
    · rcases eq_or_ne c' c with rfl | hc
      · simp [Hub.set, pending, hbroadcast]
      · simp [Hub.set, Function.update_of_ne hc]

/-! ### What is left to do -/

/-- The steps for what a link has: each byte is taken by the socket and read. -/
def load {ω : Type*} (l : Link ω) : Nat := l.wire.length + 2 * l.unwritten.length

/-- A bound on the steps that the core and the applications still need for what is at one connection. -/
def effort (u : List IvpMessage) (x : Client ρ) : Nat :=
  (Fintype.card ρ * (2 * MSG_FRAMER_MAX_BUF_SIZE + 1) + 2) * (u.length + (x.queue .fast).length + (x.queue .slow).length) +
    load x.toCore +
    (match x.broadcast with
      | some (_, receivers) => receivers.length * (2 * MSG_FRAMER_MAX_BUF_SIZE + 1) + 1
      | none => 0) +
    load x.toPlugin

def work (up : ρ → List IvpMessage) (s : Hub ρ) : Nat := ∑ c, effort (up c) (s.client c)

theorem work_set (up : ρ → List IvpMessage) (u : List IvpMessage) (s : Hub ρ) (c : ρ) (x : Client ρ) :
    work (Function.update up c u) (s.set c x) + effort (up c) (s.client c) = work up s + effort u x := by
  have hsum := sum_eq_of_elsewhere (f := fun c' => effort (up c') (s.client c'))
    (g := fun c' => effort (Function.update up c u c') ((s.set c x).client c'))
    (fun c' (hc : c' ≠ c) => by rw [set_client_of_ne hc, Function.update_of_ne hc])
  rw [set_client_self, Function.update_self] at hsum
  exact hsum

theorem work_set_same (up : ρ → List IvpMessage) (s : Hub ρ) (c : ρ) (x : Client ρ) :
    work up (s.set c x) + effort (up c) (s.client c) = work up s + effort (up c) x := by
  have hset := work_set up (up c) s c x
  rwa [Function.update_eq_self] at hset

theorem work_set_lt {u : List IvpMessage} (h : effort u x < effort (up c) (s.client c)) :
    work (Function.update up c u) (s.set c x) < work up s := by
  have hset := work_set up u s c x
  omega

theorem work_set_same_lt (h : effort (up c) x < effort (up c) (s.client c)) : work up (s.set c x) < work up s := by
  have hset := work_set_same up s c x
  omega

theorem work_take_lt {rest : List IvpMessage} (hq : (s.client c).queue w = msg :: rest) :
    work up (s.set c { s.client c with queue := Function.update (s.client c).queue w rest }) < work up s := by
  refine work_set_same_lt ?_
  cases w <;> simp [effort, hq, Nat.mul_add]

theorem work_begin_lt {rest : List IvpMessage} {msg' : IvpMessage} {sender : Option ρ}
    (hb : (s.client c).broadcast = none) (hq : (s.client c).queue .fast = msg :: rest) :
    work up (s.set c { s.client c with
      queue := Function.update (s.client c).queue .fast rest
      broadcast := some (msg', s.router.broadcastMessage sender msg') }) < work up s := by
  refine work_set_same_lt ?_
  have hnodup : (s.router.broadcastMessage sender msg').Nodup :=
    MessageRouterBasic.sorted_broadcastMessage.imp fun hlt => hlt.ne
  have hcard := Nat.mul_le_mul_right (2 * MSG_FRAMER_MAX_BUF_SIZE + 1) hnodup.length_le_card
  simp only [effort, hb, hq, Function.update_self, Function.update_of_ne (show Which.slow ≠ .fast by decide),
    List.length_cons]
  generalize Fintype.card ρ * (2 * MSG_FRAMER_MAX_BUF_SIZE + 1) = cost at hcard ⊢
  have hone : (up c).length + (rest.length + 1) + ((s.client c).queue .slow).length =
      (up c).length + rest.length + ((s.client c).queue .slow).length + 1 := by omega
  rw [hone]
  generalize (up c).length + rest.length + ((s.client c).queue .slow).length = n
  have hmul : (cost + 2) * (n + 1) = (cost + 2) * n + (cost + 2) := Nat.mul_succ _ _
  omega

omit [LinearOrder ρ] in
theorem load_receive_lt {ω : Type*} {l l' : Link ω} (h : l'.wire.length < l.wire.length ∧ l'.writes = l.writes) :
    load l' < load l := by
  rw [load, load, Link.unwritten, Link.unwritten, h.2]
  omega

theorem work_deliver_lt {receivers : List ρ} {writing : Option ρ} {l : Link (Option ρ)}
    (hb : (s.client c).broadcast = some (msg, r :: receivers))
    (hlen : load l ≤ load ((s.set c { s.client c with broadcast := some (msg, receivers), writing := writing }).client
      r).toPlugin + 2 * MSG_FRAMER_MAX_BUF_SIZE) :
    let s' := s.set c { s.client c with broadcast := some (msg, receivers), writing := writing }
    work up (s'.set r { s'.client r with toPlugin := l }) < work up s := by
  intro s'
  have h1 := work_set_same up s c { s.client c with broadcast := some (msg, receivers), writing := writing }
  have h2 := work_set_same up s' r { s'.client r with toPlugin := l }
  have hless : effort (up c) { s.client c with broadcast := some (msg, receivers), writing := writing } +
      (2 * MSG_FRAMER_MAX_BUF_SIZE + 1) = effort (up c) (s.client c) := by
    simp only [effort, hb, List.length_cons, Nat.succ_mul]
    omega
  have hmore : effort (up r) { s'.client r with toPlugin := l } ≤
      effort (up r) (s'.client r) + 2 * MSG_FRAMER_MAX_BUF_SIZE := by
    have hlen' : load l ≤ load (s'.client r).toPlugin + 2 * MSG_FRAMER_MAX_BUF_SIZE := hlen
    simp only [effort]
    omega
  have h1' : work up s' + effort (up c) (s.client c) = _ := h1
  omega

omit [LinearOrder ρ] [Fintype ρ] in
theorem length_filter_route (ms : List IvpMessage) :
    (ms.filter (route · = .fast)).length + (ms.filter (route · = .slow)).length = ms.length := by
  induction ms with
  | nil => rfl
  | cons m ms ih => cases hm : route m <;> simp [hm] <;> omega

/-! ### The steps -/

theorem Inv.ivp_broadcastMessage (h : Inv info es s past up down) (hm : Sound msg ∧ Sound (stamp info c msg.normal))
    (hs : step libc info s (.ivp_broadcastMessage c msg) = some t) :
    Inv info (es ++ [.ivp_broadcastMessage c msg]) t past (Function.update up c (up c ++ [msg])) down := by
  have hc := h.client c
  obtain ⟨x, hx, -⟩ := Option.map_eq_some_iff.1 hs
  obtain ⟨l, hsend, hl, -⟩ := ivp_broadcastMessage_spec hc.toCore hm.1 (idle_of_ivp_broadcastMessage hx)
  rw [step, hsend] at hs
  obtain rfl := Option.some.inj hs
  rw [← Function.update_eq_self c down]
  refine h.set { hc with
    toCore := hl
    up_sound := List.forall_mem_append.2 ⟨hc.up_sound, List.forall_mem_singleton.2 hm⟩
    order := fun w => ?_ } (fun c' hc' => ?_) (fun _ _ => rfl) (fun _ _ => rfl) h.router rfl fun _ => rfl
  · rw [sent_append, List.filter_append, ← hc.order]
    simp [sent]
  · simp [sent, hc'.symm]

theorem Inv.onMessageReceived (h : Inv info es s past up down) (hm : Sound msg ∧ msg.sourceId = 0)
    (hidle : (s.client c).toPlugin.writes = []) (hs : step libc info s (.onMessageReceived c msg) = some t) :
    Inv info (es ++ [.onMessageReceived c msg]) t past up (Function.update down c (down c ++ [msg])) := by
  have hc := h.client c
  obtain ⟨l, hsend, hl, -⟩ := onMessageReceived_spec hc.toPlugin hm.1 hidle none
  rw [step, hsend] at hs
  obtain rfl := Option.some.inj hs
  rw [← Function.update_eq_self c up]
  refine h.set { hc with
    toPlugin := hl
    down_sound := List.forall_mem_append.2 ⟨hc.down_sound, List.forall_mem_singleton.2 hm.1⟩
    order := fun w => ?_
    origin := ?_ } (fun _ _ => by simp [sent]) (fun _ _ => rfl) (fun _ _ => rfl) h.router rfl fun c' => ?_
  · rw [sent_append, List.filter_append, ← hc.order]
    simp [sent]
  · rw [List.map_append, ← List.append_assoc]
    exact List.forall_mem_append.2 ⟨hc.origin, List.forall_mem_singleton.2 (Or.inl hm.2)⟩
  · have hne : msg.sourceId ≠ info.id c' := hm.2 ▸ (info.id_pos c').ne
    simp [fromPlugin, IvpMessage.normal, hne]

theorem Inv.receiverThread (h : Inv info es s past up down)
    (hs : step libc info s (.receiverThread c k now) = some t) :
    ∃ up', Inv info (es ++ [.receiverThread c k now]) t past up' down ∧ work up' t < work up s := by
  have hc := h.client c
  obtain ⟨x, hx, rfl⟩ := Option.map_eq_some_iff.1 hs
  obtain ⟨taken, rest, l, hup, hl, hlen, rfl⟩ := receiverThread_spec hc.toCore (fun m hm => (hc.up_sound m hm).1) hx
  refine ⟨Function.update up c rest, ?_, ?_⟩
  rotate_left
  · refine work_set_lt ?_
    have htaken := length_filter_route (taken.map IvpMessage.normal)
    rw [List.length_map] at htaken
    have hsum : rest.length + ((s.client c).queue .fast ++ (taken.map IvpMessage.normal).filter (route · = .fast)).length +
        ((s.client c).queue .slow ++ (taken.map IvpMessage.normal).filter (route · = .slow)).length =
        (up c).length + ((s.client c).queue .fast).length + ((s.client c).queue .slow).length := by
      rw [hup, List.length_append, List.length_append, List.length_append]
      omega
    have hload := load_receive_lt hlen
    simp only [effort, hsum]
    omega
  rw [← Function.update_eq_self c down]
  have hsound := hc.up_sound
  rw [hup] at hsound
  obtain ⟨htaken, hrest⟩ := List.forall_mem_append.1 hsound
  refine h.set { hc with
    toCore := hl
    up_sound := hrest
    queue_sound := fun w => List.forall_mem_append.2 ⟨hc.queue_sound w, fun m hm => ?_⟩
    order := fun w => ?_ } (fun _ _ => by simp [sent]) (fun _ _ => rfl) (fun _ _ => rfl) h.router rfl fun _ => rfl
  · obtain ⟨hmem, hroute⟩ := List.mem_filter.1 hm
    obtain ⟨m', hm', rfl⟩ := List.mem_map.1 hmem
    exact ⟨m'.normal_normal, (htaken m' hm').2, of_decide_eq_true hroute⟩
  · rw [sent_append, List.filter_append, ← hc.order, hup]
    simp [sent]

theorem Inv.ivp_receive (h : Inv info es s past up down) (hs : step libc info s (.ivp_receive c k) = some t) :
    ∃ down', Inv info (es ++ [.ivp_receive c k]) t past up down' ∧ work up t < work up s := by
  have hc := h.client c
  obtain ⟨x, hx, rfl⟩ := Option.map_eq_some_iff.1 hs
  obtain ⟨taken, rest, l, hdown, hl, hlen, rfl⟩ := ivp_receive_spec hc.toPlugin hc.down_sound hx
  refine ⟨Function.update down c rest, ?_, ?_⟩
  rotate_left
  · exact work_set_same_lt (Nat.add_lt_add_left (load_receive_lt hlen) _)
  rw [← Function.update_eq_self c up]
  have hsame : (s.client c).received ++ taken.map IvpMessage.normal ++ rest.map IvpMessage.normal =
      (s.client c).received ++ (down c).map IvpMessage.normal := by
    rw [hdown, List.map_append, List.append_assoc]
  refine h.set { hc with
    toPlugin := hl
    down_sound := fun m hm => hc.down_sound m (hdown ▸ List.mem_append_right _ hm)
    order := fun w => ?_
    origin := hsame ▸ hc.origin } (fun _ _ => by simp [sent]) (fun _ _ => rfl) (fun _ _ => rfl) h.router rfl
      fun c' => congrArg (fromPlugin info c') hsame
  rw [sent_append, List.filter_append, ← hc.order]
  simp [sent]

/-- A step that only moves bytes of one connection. -/
theorem Inv.move (h : Inv info es s past up down) (hx : ClientInv info c x (sent c es) (handled c past) (up c) (down c))
    (hsent : ∀ c', sent c' [e] = []) (hbroadcast : x.broadcast = (s.client c).broadcast)
    (hreceived : x.received = (s.client c).received) : Inv info (es ++ [e]) (s.set c x) past up down := by
  rw [← Function.update_eq_self c up, ← Function.update_eq_self c down]
  refine h.set ?_ (fun c' _ => hsent c') (fun _ _ => rfl) (fun _ _ => rfl) h.router hbroadcast fun c' => by rw [hreceived]
  rwa [sent_append, hsent, List.append_nil]

theorem Inv.send (h : Inv info es s past up down) (hs : Hub.step libc info s (.send c n) = some t) :
    Inv info (es ++ [.send c n]) t past up down ∧ work up t < work up s := by
  have hc := h.client c
  obtain ⟨l, hl, rfl⟩ := Option.map_eq_some_iff.1 hs
  obtain ⟨hcarries, hlength, hless⟩ := hc.toCore.write hl
  refine ⟨h.move { hc with toCore := hcarries } (fun _ => rfl) rfl rfl, work_set_same_lt ?_⟩
  simp only [effort, load]
  omega

theorem Inv.write (h : Inv info es s past up down) (hs : Hub.step libc info s (.write c i n) = some t) :
    Inv info (es ++ [.write c i n]) t past up down ∧ work up t < work up s := by
  have hc := h.client c
  obtain ⟨l, hl, rfl⟩ := Option.map_eq_some_iff.1 hs
  obtain ⟨hcarries, hlength, hless⟩ := hc.toPlugin.write hl
  refine ⟨h.move { hc with toPlugin := hcarries } (fun _ => rfl) rfl rfl, work_set_same_lt ?_⟩
  simp only [effort, load]
  omega

/-- A processor takes a message that is not for the router. -/
theorem Inv.take (h : Inv info es s past up down) {rest : List IvpMessage} {router : MessageRouterBasic ρ}
    (hq : (s.client c).queue w = msg :: rest) (hsent : ∀ c', sent c' [e] = []) (hno : ¬ isRouted msg)
    (hrouter : ∀ r, router.receiverMessageFilterEntryMap.find? r = subscription r ((c, msg) :: past)) :
    Inv info (es ++ [e]) { s.set c { s.client c with queue := Function.update (s.client c).queue w rest } with
      router := router } ((c, msg) :: past) up down := by
  rw [← Function.update_eq_self c up, ← Function.update_eq_self c down]
  refine h.set ?_ (fun c' _ => hsent c') (fun c' hc' => handled_cons_of_ne hc')
    (fun c' r => delivered_cons_of_not_routed hno c' r) hrouter rfl fun _ => rfl
  rw [sent_append, hsent, List.append_nil, handled_cons_self]
  exact (h.client c).take hq

theorem mem_broadcastMessage_iff (h : Inv info es s past up down) :
    r ∈ s.router.broadcastMessage (some c) msg ↔ c ≠ r ∧ Wants past r msg := by
  rw [MessageRouterBasic.mem_broadcastMessage, h.router, Wants]
  refine and_congr (by simp) ?_
  cases subscription r past <;> simp

/-- A broadcast begins. -/
theorem Inv.begin (h : Inv info es s past up down) {rest : List IvpMessage} (hb : (s.client c).broadcast = none)
    (hq : (s.client c).queue .fast = msg :: rest) (hsent : ∀ c', sent c' [e] = []) (hrouted : isRouted msg) :
    Inv info (es ++ [e]) { s.set c { s.client c with
        queue := Function.update (s.client c).queue .fast rest
        broadcast := some (stamp info c msg, s.router.broadcastMessage (some c) (stamp info c msg)) } with
      mActiveBroadcasts := s.mActiveBroadcasts + 1 } ((c, msg) :: past) up down where
  client c' := by
    rw [sent_append, hsent, List.append_nil]
    rcases eq_or_ne c' c with rfl | hc
    · obtain ⟨hnormal, hsound, -⟩ := (h.client c').queue_sound .fast msg (hq ▸ List.mem_cons_self ..)
      have hnodup : (s.router.broadcastMessage (some c') (stamp info c' msg)).Nodup :=
        MessageRouterBasic.sorted_broadcastMessage.imp fun hlt => hlt.ne
      have hstamp : (stamp info c' msg).normal = stamp info c' msg := by
        rw [stamp, IvpMessage.normal, ← congrArg IvpMessage.payload hnormal]
        simp [IvpMessage.normal, Function.comp_def, CJson.normal_normal]
      rw [handled_cons_self]
      have hx := ((h.client c').take hq)
      simpa [Hub.set] using { hx with
        broadcast := fun b hb => by
          obtain rfl := Option.some.inj hb
          exact ⟨hsound, hstamp, rfl, hnodup⟩ }
    · rw [handled_cons_of_ne hc]
      simpa [Hub.set, Function.update_of_ne hc] using h.client c'
  router r := by
    have hno : ¬ msg.isSubscribeMsg := by
      simp only [isRouted, Bool.and_eq_true, Bool.not_eq_true'] at hrouted
      simp [hrouted.1.2]
    rw [subscription_cons_of_not_subscribe hno]
    exact h.router r
  active := by
    have hsum := sum_eq_of_elsewhere (c := c) (f := fun c' => busy (s.client c')) (g := fun c' => busy ((s.set c
      { s.client c with
        queue := Function.update (s.client c).queue .fast rest
        broadcast := some (stamp info c msg, s.router.broadcastMessage (some c) (stamp info c msg)) }).client c'))
      fun c' hc' => by simp [Hub.set, Function.update_of_ne hc']
    have hself : busy (s.client c) = 0 := by simp [busy, hb]
    simp only [hself, Nat.add_zero] at hsum
    show s.mActiveBroadcasts + 1 = _
    rw [h.active, hsum]
    simp [Hub.set, busy]
  delivered c' r := by
    have hreceived : ((s.set c { s.client c with
        queue := Function.update (s.client c).queue .fast rest
        broadcast := some (stamp info c msg, s.router.broadcastMessage (some c) (stamp info c msg)) }).client r).received =
        (s.client r).received := set_received rfl
    rw [Hub.delivered, ← h.delivered]
    dsimp only
    rw [hreceived]
    rcases eq_or_ne c' c with rfl | hc
    · have hold : pending (s.client c') r = [] := by rw [pending, hb]
      rw [set_client_self, hold, List.append_nil, pending]
      dsimp only
      have hiff : r ∈ s.router.broadcastMessage (some c') (stamp info c' msg) ↔
          c' = c' ∧ c' ≠ r ∧ isRouted msg ∧ Wants past r (stamp info c' msg) := by
        rw [mem_broadcastMessage_iff h]
        simp [hrouted]
      by_cases hr : r ∈ s.router.broadcastMessage (some c') (stamp info c' msg)
      · rw [if_pos hr, if_pos (hiff.1 hr)]
      · rw [if_neg hr, if_neg (mt hiff.2 hr)]
    · rw [set_client_of_ne hc, if_neg fun hall => hc hall.1.symm, List.append_nil]

/-- A broadcast ends. -/
theorem Inv.finish (h : Inv info es s past up down) (hb : (s.client c).broadcast = some (msg, []))
    (hsent : ∀ c', sent c' [e] = []) :
    Inv info (es ++ [e]) { s.set c { s.client c with broadcast := none } with
      mActiveBroadcasts := s.mActiveBroadcasts - 1 } past up down where
  client c' := by
    rw [sent_append, hsent, List.append_nil]
    rcases eq_or_ne c' c with rfl | hc
    · simpa using { h.client c' with broadcast := fun b (hb : b ∈ none) => nomatch hb }
    · simpa [set_client_of_ne hc] using h.client c'
  router := h.router
  active := by
    have hsum := sum_eq_of_elsewhere (f := fun c' => busy (s.client c'))
      (g := fun c' => busy ((s.set c { s.client c with broadcast := none }).client c'))
      fun c' hc' => by rw [set_client_of_ne hc']
    simp only [set_client_self, busy, hb, Option.isSome_some, Bool.toNat_true, Option.isSome_none, Bool.toNat_false,
      Nat.add_zero] at hsum
    show s.mActiveBroadcasts - 1 = ∑ c', busy ((s.set c { s.client c with broadcast := none }).client c')
    rw [h.active]
    simp only [busy]
    omega
  delivered c' r := by
    have hreceived : ((s.set c { s.client c with broadcast := none }).client r).received = (s.client r).received :=
      set_received rfl
    rw [← h.delivered]
    dsimp only
    rw [hreceived]
    rcases eq_or_ne c' c with rfl | hc
    · simp [pending, hb]
    · rw [set_client_of_ne hc]

/-- A broadcast is delivered to one receiver. -/
theorem Inv.deliver (h : Inv info es s past up down) {receivers : List ρ} {writing : Option ρ} {l : Link (Option ρ)}
    (hb : (s.client c).broadcast = some (msg, r :: receivers)) (hsent : ∀ c', sent c' [e] = [])
    (hl : l.Carries ((down r ++ [msg]).map text)) :
    let s' := s.set c { s.client c with broadcast := some (msg, receivers), writing := writing }
    Inv info (es ++ [e]) (s'.set r { s'.client r with toPlugin := l }) past up
      (Function.update down r (down r ++ [msg])) := by
  intro s'
  obtain ⟨hsound, hnormal, hsource, hnodup⟩ : Sound msg ∧ msg.normal = msg ∧ msg.sourceId = info.id c ∧
    (r :: receivers).Nodup := (h.client c).broadcast _ hb
  have hclient' : ∀ c', ClientInv info c' (s'.client c') (sent c' es) (handled c' past) (up c') (down c') := by
    intro c'
    rcases eq_or_ne c' c with rfl | hc
    · rw [set_client_self]
      refine { h.client c' with broadcast := fun b hb => ?_ }
      obtain rfl := Option.some.inj hb
      exact ⟨hsound, hnormal, hsource, hnodup.of_cons⟩
    · rw [set_client_of_ne hc]
      exact h.client c'
  have hreceived' : ∀ r', (s'.client r').received = (s.client r').received := fun r' => set_received rfl
  have hbusy : ∀ c', busy ((s'.set r { s'.client r with toPlugin := l }).client c') = busy (s.client c') := by
    intro c'
    have hs' : busy (s'.client c') = busy (s.client c') := by
      rcases eq_or_ne c' c with rfl | hc
      · simp [s', busy, hb]
      · simp [s', set_client_of_ne hc]
    rw [← hs']
    rcases eq_or_ne c' r with rfl | hr
    · simp [busy]
    · rw [set_client_of_ne hr]
  refine ⟨fun c' => ?_, h.router, ?_, fun c' r' => ?_⟩
  · rw [sent_append, hsent, List.append_nil]
    rcases eq_or_ne c' r with rfl | hr
    · rw [set_client_self, Function.update_self]
      refine { hclient' c' with
        toPlugin := hl
        down_sound := List.forall_mem_append.2 ⟨(hclient' c').down_sound, List.forall_mem_singleton.2 hsound⟩
        origin := ?_ }
      rw [List.map_append, ← List.append_assoc]
      exact List.forall_mem_append.2 ⟨(hclient' c').origin, List.forall_mem_singleton.2 (Or.inr ⟨c, hsource⟩)⟩
    · rw [set_client_of_ne hr, Function.update_of_ne hr]
      exact hclient' c'
  · exact h.active.trans (Finset.sum_congr rfl fun c' _ => (hbusy c').symm)
  · have hreceived : ((s'.set r { s'.client r with toPlugin := l }).client r').received = (s.client r').received := by
      rw [← hreceived' r']
      exact set_received rfl
    have hpending : pending ((s'.set r { s'.client r with toPlugin := l }).client c') r' = pending (s'.client c') r' := by
      rcases eq_or_ne c' r with rfl | hr
      · simp [pending]
      · rw [set_client_of_ne hr]
    rw [← h.delivered, hreceived, hpending]
    have hmem := List.nodup_cons.1 hnodup
    rcases eq_or_ne c' c with rfl | hc <;> rcases eq_or_ne r' r with rfl | hr
    · simp [s', pending, hb, fromPlugin, hnormal, hsource, hmem.1]
    · simp [s', pending, hb, hr]
    · have hne : info.id c ≠ info.id c' := fun heq => hc (info.id_injective heq).symm
      simp [s', set_client_of_ne hc, fromPlugin, hnormal, hsource, hne]
    · simp [s', set_client_of_ne hc, Function.update_of_ne hr]

/-- The next receiver of a broadcast is sent the message. -/
theorem Inv.onMessageReceived_next (h : Inv info es s past up down) {receivers : List ρ} (writing : Option ρ)
    (hb : (s.client c).broadcast = some (msg, r :: receivers)) (hidle : (s.client r).toPlugin.writes = []) :
    let x := (s.set c { s.client c with broadcast := some (msg, receivers), writing := writing }).client r
    ∃ l, x.onMessageReceived (some c) msg = some { x with toPlugin := l } ∧ l.Carries ((down r ++ [msg]).map text) ∧
      load l ≤ load x.toPlugin + 2 * MSG_FRAMER_MAX_BUF_SIZE := by
  intro x
  have hsame : x.toPlugin = (s.client r).toPlugin := by
    rcases eq_or_ne r c with rfl | hr
    · simp only [x, set_client_self]
    · simp only [x, set_client_of_ne hr]
  obtain ⟨l, hsend, hl, hwire, hlen⟩ := onMessageReceived_spec (x := x) (by rw [hsame]; exact (h.client r).toPlugin)
    ((h.client c).broadcast _ hb).1 (by rw [hsame]; exact hidle) (some c)
  refine ⟨l, hsend, hl, ?_⟩
  rw [load, load, hwire]
  omega

theorem isRouted_iff (hroute : route msg = .fast) :
    isRouted msg ↔ ¬ msg.isRegistrationMsg ∧ ¬ msg.isSubscribeMsg ∧ ¬ msg.isConfigMsg := by
  simp [isRouted, hroute, and_assoc]

theorem Inv.fastProcessorThread (h : Inv info es s past up down) (he : SoundEvent info s (.fastProcessorThread c))
    (hs : step libc info s (.fastProcessorThread c) = some t) :
    ∃ past' down', Inv info (es ++ [.fastProcessorThread c]) t past' up down' ∧ work up t < work up s := by
  have hsent : ∀ c', sent c' [HubEvent.fastProcessorThread c] = [] := fun _ => rfl
  rw [step, Hub.fastProcessorThread] at hs
  dsimp only at hs
  split at hs
  · nomatch hs
  split at hs
  · rename_i msg receiver receivers hb
    obtain ⟨l, hsend, hl, hlen⟩ := h.onMessageReceived_next (some receiver) hb (he _ hb _ rfl)
    rw [hsend] at hs
    obtain rfl := Option.some.inj hs
    exact ⟨past, _, h.deliver hb hsent hl, work_deliver_lt hb hlen⟩
  · rename_i msg hb
    obtain rfl := Option.some.inj hs
    refine ⟨past, down, h.finish hb hsent, work_set_same_lt (s := s) ?_⟩
    simp only [effort, hb]
    omega
  · nomatch hs
  · rename_i msg rest hb hq
    have hroute := ((h.client c).queue_sound .fast msg (hq ▸ List.mem_cons_self ..)).2.2
    have hrouted := isRouted_iff hroute
    have hrouter : ¬ msg.isSubscribeMsg → ∀ r, s.router.receiverMessageFilterEntryMap.find? r =
        subscription r ((c, msg) :: past) := fun hno r => by
      rw [subscription_cons_of_not_subscribe hno, h.router]
    split_ifs at hs with hregister hsubscribe hactive hconfig
    · obtain rfl := Option.some.inj hs
      have hno : ¬ msg.isSubscribeMsg := fun hsub => by
        have htypes : some IVPMSG_TYPE_APIRESV_REGISTER = some IVPMSG_TYPE_APIRESV_SUBSCRIBE :=
          (of_decide_eq_true hregister).symm.trans (of_decide_eq_true hsub)
        exact absurd htypes (by decide)
      exact ⟨_, down, h.take hq hsent (fun hr => (hrouted.1 hr).1 hregister) (hrouter hno), work_take_lt hq⟩
    · obtain rfl := Option.some.inj hs
      refine ⟨_, down, h.take hq hsent (fun hr => (hrouted.1 hr).2.1 hsubscribe) fun r => ?_, work_take_lt (s := s) hq⟩
      rw [MessageRouterBasic.registerReceiver, OrdMap.find?_insert, subscription, h.router]
      simp [hsubscribe, eq_comm]
    · obtain rfl := Option.some.inj hs
      exact ⟨_, down, h.take hq hsent (fun hr => (hrouted.1 hr).2.2 hconfig) (hrouter hsubscribe), work_take_lt hq⟩
    · obtain rfl := Option.some.inj hs
      exact ⟨_, down, h.begin hb hq hsent (hrouted.2 ⟨hregister, hsubscribe, hconfig⟩), work_begin_lt hb hq⟩

omit [LinearOrder ρ] [Fintype ρ] in
theorem route_of_isSubscribeMsg (h : msg.isSubscribeMsg) : route msg = .fast := by
  have htype : msg.type = some IVPMSG_TYPE_APIRESV_SUBSCRIBE := of_decide_eq_true h
  rw [route, IvpMessage.isStatusMsg, IvpMessage.isEventLogMsg, IvpMessage.hasType, IvpMessage.hasType, htype]
  rfl

theorem Inv.slowProcessorThread (h : Inv info es s past up down)
    (hs : step libc info s (.slowProcessorThread c) = some t) :
    ∃ past', Inv info (es ++ [.slowProcessorThread c]) t past' up down ∧ work up t < work up s := by
  rw [step, Hub.slowProcessorThread] at hs
  split at hs
  · nomatch hs
  · rename_i msg rest hq
    obtain rfl := Option.some.inj hs
    have hroute := ((h.client c).queue_sound .slow msg (hq ▸ List.mem_cons_self ..)).2.2
    have hno : ¬ msg.isSubscribeMsg := fun hsub => nomatch (route_of_isSubscribeMsg hsub).symm.trans hroute
    refine ⟨(c, msg) :: past, h.take hq (fun _ => rfl) (by simp [isRouted, hroute]) fun r => ?_, work_take_lt hq⟩
    rw [subscription_cons_of_not_subscribe hno, h.router]

/-- What is not up to the applications: all but what they and the core itself send. -/
def isOwn : HubEvent ρ → Bool
  | .ivp_broadcastMessage _ _ | .onMessageReceived _ _ => false
  | _ => true

/-- A step of the threads brings the end of the work nearer. -/
theorem Inv.own_step (h : Inv info es s past up down) (hown : isOwn e) (he : SoundEvent info s e)
    (hs : Hub.step libc info s e = some t) :
    ∃ past' up' down', Inv info (es ++ [e]) t past' up' down' ∧ work up' t < work up s := by
  cases e with
  | ivp_broadcastMessage c msg | onMessageReceived c msg => nomatch hown
  | receiverThread c recvcount now =>
    obtain ⟨up', h', hlt⟩ := h.receiverThread hs
    exact ⟨past, up', down, h', hlt⟩
  | fastProcessorThread c =>
    obtain ⟨past', down', h', hlt⟩ := h.fastProcessorThread he hs
    exact ⟨past', up, down', h', hlt⟩
  | slowProcessorThread c =>
    obtain ⟨past', h', hlt⟩ := h.slowProcessorThread hs
    exact ⟨past', up, down, h', hlt⟩
  | send c n => exact ⟨past, up, down, h.send hs⟩
  | write c i n => exact ⟨past, up, down, h.write hs⟩
  | ivp_receive c recvcount =>
    obtain ⟨down', h', hlt⟩ := h.ivp_receive hs
    exact ⟨past, up, down', h', hlt⟩

theorem Inv.step (h : Inv info es s past up down) (he : SoundEvent info s e) (hs : Hub.step libc info s e = some t) :
    ∃ past' up' down', Inv info (es ++ [e]) t past' up' down' := by
  by_cases hown : isOwn e
  · obtain ⟨past', up', down', h', -⟩ := h.own_step hown he hs
    exact ⟨past', up', down', h'⟩
  · cases e with
    | ivp_broadcastMessage c msg => exact ⟨past, _, down, h.ivp_broadcastMessage he hs⟩
    | onMessageReceived c msg => exact ⟨past, up, _, h.onMessageReceived he.1 he.2 hs⟩
    | _ => exact absurd rfl hown

theorem inv_exec (he : (machine libc info).Meets (SoundEvent info) init es)
    (h : (machine libc info).exec init es = some s) : ∃ past up down, Inv info es s past up down :=
  Machine.invariant_trace_meets (M := machine libc info) (I := fun es s => ∃ past up down, Inv info es s past up down)
    ⟨[], _, _, inv_init⟩ (fun _ _ _ _ ⟨_, _, _, hinv⟩ he hs => hinv.step he hs) he h

/-- The threads can go on from there. -/
theorem Inv.own_exec (h : Inv info es s past up down) {own : List (HubEvent ρ)} (he : ∀ e ∈ own, isOwn e)
    (hsound : (machine libc info).Meets (SoundEvent info) s own) (ht : (machine libc info).exec s own = some t) :
    ∃ past' up' down', Inv info (es ++ own) t past' up' down' ∧ own.length + work up' t ≤ work up s := by
  induction own generalizing es s past up down with
  | nil =>
    obtain rfl := Option.some.inj ht
    exact ⟨past, up, down, by rwa [List.append_nil], by simp⟩
  | cons e own ih =>
    obtain ⟨heown, hown⟩ := List.forall_mem_cons.1 he
    obtain ⟨s', hs, ht⟩ := Machine.exec_cons.1 ht
    obtain ⟨past', up', down', h', hlt⟩ := h.own_step heown hsound.1 hs
    obtain ⟨past'', up'', down'', h'', hle⟩ := ih h' hown (hsound.2 s' hs) ht
    refine ⟨past'', up'', down'', ?_, by rw [List.length_cons]; omega⟩
    rwa [List.append_assoc, List.singleton_append] at h''

omit [LinearOrder ρ] [Fintype ρ] in
theorem receiverThread_one (libc : Libc) (now : Nat) (h : x.toCore.Carries (ms.map text)) (hms : ∀ m ∈ ms, Sound m)
    (hwire : x.toCore.wire ≠ []) :
    ∃ x', x.receiverThread libc now 1 = some x' := by
  obtain ⟨⟨rawMessages, l⟩, hrec⟩ := h.receive_one hwire
  obtain ⟨ts, hts, -⟩ := h.receive_of_some hrec
  obtain ⟨taken, rest, rfl, rfl, rfl⟩ := List.map_eq_append_iff.1 hts
  exact ⟨_, Option.bind_eq_some_iff.2 ⟨_, hrec, foldlM_receiveMsg fun m hm => hms m (List.mem_append_left rest hm)⟩⟩

/-- Where no thread can do a step without writes that overlap, nothing is left to do. -/
theorem Inv.quiet (h : Inv info es s past up down)
    (hstuck : ∀ e, isOwn e → SoundEvent info s e → Hub.step libc info s e = none) : Quiet s := by
  have hsends : ∀ c, (s.client c).toCore.writes = [] := by
    intro c
    by_contra hwrites
    obtain ⟨l, hl⟩ := (h.client c).toCore.write_one hwrites
    have hno := hstuck (.send c 1) rfl trivial
    rw [Hub.step, hl] at hno
    nomatch hno
  have hwrites : ∀ c, (s.client c).toPlugin.writes = [] := by
    intro c
    by_contra hwrites
    obtain ⟨l, hl⟩ := (h.client c).toPlugin.write_one hwrites
    have hno := hstuck (.write c 0 1) rfl trivial
    rw [Hub.step, hl] at hno
    nomatch hno
  have hfast : ∀ c, Hub.fastProcessorThread info s c = none :=
    fun c => hstuck (.fastProcessorThread c) rfl fun _ _ receiver _ => hwrites receiver
  have hfree : ∀ c, s.isWriting c = false := by
    intro c
    unfold isWriting
    split
    · rfl
    · rw [hwrites]
      rfl
  have hbroadcast : ∀ c, (s.client c).broadcast = none := by
    intro c
    have hno := hfast c
    rw [Hub.fastProcessorThread] at hno
    dsimp only at hno
    rw [hfree, if_neg Bool.false_ne_true] at hno
    rcases hb : (s.client c).broadcast with _ | ⟨msg, _ | ⟨receiver, receivers⟩⟩
    · rfl
    · simp only [hb, reduceCtorEq] at hno
    · simp only [hb] at hno
      obtain ⟨l, hsend, -⟩ := h.onMessageReceived_next (some receiver) hb (hwrites receiver)
      rw [hsend] at hno
      nomatch hno
  have hactive : s.mActiveBroadcasts = 0 := by
    rw [h.active]
    exact Finset.sum_eq_zero fun c _ => by rw [busy, hbroadcast]; rfl
  refine ⟨fun c => ⟨?_, hsends c⟩, fun c w => ?_, hbroadcast, fun c => ⟨?_, hwrites c⟩⟩
  · by_contra hwire
    obtain ⟨x, hx⟩ := receiverThread_one libc 0 (h.client c).toCore
      (fun m hm => ((h.client c).up_sound m hm).1) hwire
    have hno := hstuck (.receiverThread c 1 0) rfl trivial
    rw [Hub.step, hx] at hno
    nomatch hno
  · cases hq : (s.client c).queue w with
    | nil => rfl
    | cons msg rest =>
      exfalso
      cases w with
      | fast =>
        have hno := hfast c
        simp only [Hub.fastProcessorThread, hfree, Bool.false_eq_true, if_false, hbroadcast, hq, hactive, if_true] at hno
        split_ifs at hno
      | slow =>
        have hno := hstuck (.slowProcessorThread c) rfl trivial
        simp only [Hub.step, Hub.slowProcessorThread, hq, reduceCtorEq] at hno
  · by_contra hwire
    obtain ⟨r, hrec⟩ := (h.client c).toPlugin.receive_one hwire
    have hno := hstuck (.ivp_receive c 1) rfl trivial
    rw [Hub.step, Client.ivp_receive, hrec] at hno
    nomatch hno

open PluginConnection.Queues (ordinaryMsg)

/-- Two plugins, both of which send a message. -/
def twoPlugins : RegisteredPlugins Bool where
  name _ := CString.lit "plugin"
  id c := if c then 2 else 1
  name_clean _ := by decide
  id_pos c := by cases c <;> decide
  id_lt c := by cases c <;> decide
  id_injective := by decide

theorem sound_ordinaryMsg : Sound ordinaryMsg where
  sendable := ⟨by decide, by decide, by decide, by decide, by decide, by decide, by decide, fun _ hp => nomatch hp⟩
  fits := by decide +kernel

theorem sound_stamp_ordinaryMsg (c : Bool) : Sound (stamp twoPlugins c ordinaryMsg.normal) where
  sendable := { sound_ordinaryMsg.sendable.normal with
    source := fun s hs => Option.some.inj hs ▸ twoPlugins.name_clean c
    sourceId := twoPlugins.id_lt c }
  fits := by cases c <;> decide +kernel

/-- The socket of one has taken a byte. -/
def bothSend : List (HubEvent Bool) :=
  [.ivp_broadcastMessage false ordinaryMsg, .ivp_broadcastMessage true ordinaryMsg, .send false 1]

theorem exec_bothSend : ∃ s, (machine Libc.rounding twoPlugins).exec init bothSend = some s ∧
    (machine Libc.rounding twoPlugins).Meets (SoundEvent twoPlugins) init bothSend := by
  have hinit : (Client.init : Client Bool).toCore.Carries (([] : List IvpMessage).map text) := Link.carries_init
  obtain ⟨l, hsend, hl, hwire⟩ := ivp_broadcastMessage_spec hinit sound_ordinaryMsg rfl
  have hwrites : l.writes ≠ [] := fun hnil => nomatch hl.eq_nil hwire hnil
  obtain ⟨l', hwrite⟩ := hl.write_one hwrites
  have h1 : (machine Libc.rounding twoPlugins).step init (.ivp_broadcastMessage false ordinaryMsg) = some _ :=
    congrArg (Option.map _) hsend
  have h2 : (machine Libc.rounding twoPlugins).step (init.set false { Client.init with toCore := l })
      (.ivp_broadcastMessage true ordinaryMsg) = some _ := congrArg (Option.map _) hsend
  have h3 : (machine Libc.rounding twoPlugins).step ((init.set false { Client.init with toCore := l }).set true
      { Client.init with toCore := l }) (.send false 1) = some _ := congrArg (Option.map _) hwrite
  refine ⟨_, Machine.exec_cons.2 ⟨_, h1, Machine.exec_cons.2 ⟨_, h2, Machine.exec_cons.2 ⟨_, h3, rfl⟩⟩⟩, ?_⟩
  refine (Machine.meets_cons_of_step h1).2 ⟨⟨sound_ordinaryMsg, sound_stamp_ordinaryMsg false⟩, ?_⟩
  refine (Machine.meets_cons_of_step h2).2 ⟨⟨sound_ordinaryMsg, sound_stamp_ordinaryMsg true⟩, ?_⟩
  exact (Machine.meets_cons_of_step h3).2 ⟨trivial, trivial⟩

end Hub
end V2xHub
