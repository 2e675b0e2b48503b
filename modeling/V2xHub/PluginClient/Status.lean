import V2xHub.IvpPlugin.Basic
import V2xHub.Database.Statements
import V2xHub.Lib.Collation
import V2xHub.Lib.CString

/-!
# Status items

`PluginClient::SetStatus` sends a status item unless its value is the one in `_statusMap`; the core writes the items of a
registered plugin into the table `pluginStatus` and drops them when the connection ends. A message takes the order of the
connection up to the thread that handles status messages; the registration is handled by another thread, so it may come before
or after any of them. A connection is named by its number. When it ends, the core gives the name of the plugin free at once
and drops the items later. The texts are put into statements by `formatStringValue`, which leaves backslashes to MySQL.
-/

namespace V2xHub.PluginClient

open IvpPlugin (IvpPluginState)

/-- A status message: an item with a value, or one without, which removes it. -/
inductive StatusMessage where
  | set (key value : Str)
  | remove (key : Str)
deriving DecidableEq

def StatusMessage.isSet : StatusMessage → Bool
  | .set _ _ => true
  | .remove _ => false

/-- The rows of `pluginStatus` that belong to the plugin, by the key of the unique index. -/
abbrev StatusRows := List UInt8 → Option (Str × Str)

/-- The collation of the table, and what comes of the statement for a message if one of its literals does not end at its end. -/
structure Table extends Collation where
  misread : StatusMessage → StatusRows → StatusRows

/-- What MySQL reads for a text in quotes, if the literal ends where the quotes do. -/
def literal (text : Str) : Option Str :=
  match SqlLiteral.lex (some []) (Database.formatStringValue text ++ [SqlLiteral.quote]) with
  | [.literal value] => some value
  | _ => none

/-- The text of a literal is the text that it was made of. -/
def StatusMessage.Readable : StatusMessage → Prop
  | .set key value => literal key = some key ∧ literal value = some value
  | .remove key => literal key = some key

namespace StatusRows

/-- The key and the value have room in their columns. -/
def Fits (key value : Str) : Prop := key.length ≤ 100 ∧ value.length ≤ 65535

instance decidableFits (key value : Str) : Decidable (Fits key value) := inferInstanceAs (Decidable (_ ∧ _))

/-- `INSERT .. ON DUPLICATE KEY UPDATE` with these texts -/
def put (col : Table) (key value : Str) (rows : StatusRows) : StatusRows :=
  if Fits key value then
    Function.update rows (col.key key) (some ((rows (col.key key)).elim key Prod.fst, value))
  else rows

/-- `PluginContext::setPluginStatus`, with the one or the other text that the core gives. -/
def setPluginStatus (col : Table) (status : Str) (rows : StatusRows) : StatusRows := rows.put col [] status

def setPluginStatusItem (col : Table) (key value : Str) (rows : StatusRows) : StatusRows :=
  match literal key, literal value with
  | some key, some value => rows.put col key value
  | _, _ => col.misread (.set key value) rows

def removePluginStatusItem (col : Table) (key : Str) (rows : StatusRows) : StatusRows :=
  match literal key with
  | some key => Function.update rows (col.key key) none
  | none => col.misread (.remove key) rows

def removeAllPluginStatusItems (col : Table) (rows : StatusRows) : StatusRows :=
  fun c => if col.afterEmpty c then none else rows c

/-- `PluginConnection::processStatusMessage` for a registered plugin. -/
def process (col : Table) (rows : StatusRows) : StatusMessage → StatusRows
  | .set key value => rows.setPluginStatusItem col key value
  | .remove key => if key = [] then rows else rows.removePluginStatusItem col key

def empty : StatusRows := fun _ => none

end StatusRows

/-- The plugin, its connections at the core and the history: the items that the calls of `SetStatus` and `RemoveStatus` set so far,
and whether `SetStatus` returned true exactly when it changed them. -/
structure State where
  muteStatus : Bool
  statusMap : Str → Option Str
  isStartTimeStatusSet : Bool
  state : IvpPluginState
  socket : Nat
  /-- The messages of a connection that are not yet handled, if the core has the connection. -/
  queue : Nat → Option (List StatusMessage)
  /-- The connection that the plugin is registered on. -/
  registered : Option Nat
  /-- The connections that the core has answered with the configuration. -/
  configured : Nat → Bool
  /-- How many times the items are still to be dropped. -/
  ending : Nat
  rows : StatusRows
  wanted : List (Str × Str)
  truthful : Bool

def State.init : State where
  muteStatus := false
  statusMap _ := none
  isStartTimeStatusSet := false
  state := .disconnected
  socket := 0
  queue _ := none
  registered := none
  configured _ := false
  ending := 0
  rows := .empty
  wanted := []
  truthful := true

/-- The value of a call of `SetStatus` is given as the text that it comes to, and `config` has the text of the start time. -/
inductive Event where
  | setStatus (key value : Str)
  | removeStatus (key : Str)
  | setMute (mute : Bool)
  | connect
  | config (startTime : Str)
  | disconnect (fatal : Bool)
  | register (i : Nat)
  | process (i : Nat)
  | close (i : Nat)
  | dropItems

namespace State

/-- `ivp_broadcastMessage`: sent on the connection, if there is one at the plugin. -/
def ivp_broadcastMessage (msg : StatusMessage) (s : State) : State :=
  if s.state.isOnline then
    { s with queue := Function.update s.queue s.socket ((s.queue s.socket).map (· ++ [msg])) }
  else s

def ivp_setStatusItem (key value : Str) (s : State) : State :=
  if key = [] then s else s.ivp_broadcastMessage (.set key (value.takeWhile (· ≠ 0)))

def ivp_removeStatusItem (key : Str) (s : State) : State :=
  if key = [] then s else s.ivp_broadcastMessage (.remove key)

/-- What is set, without the item of the key. -/
def unset (key : Str) (wanted : List (Str × Str)) : List (Str × Str) := wanted.filter (·.1 ≠ key)

/-- The history of a call of `SetStatus` that is not muted and returns `isNewValue`. -/
def noteStatus (key value : Str) (isNewValue : Bool) (s : State) : State :=
  { s with
    wanted := unset key s.wanted ++ [(key, value)]
    truthful := s.truthful && isNewValue == decide ((key, value) ∉ s.wanted) }

def remember (key value : Str) (s : State) : State := { s with statusMap := Function.update s.statusMap key (some value) }

def setStatus (key value : Str) (s : State) : State :=
  if s.muteStatus then s
  else if s.statusMap key = some value then s.noteStatus key value false
  else ((s.remember key value).ivp_setStatusItem key value).noteStatus key value true

def removeStatus (key : Str) (s : State) : State :=
  { s.ivp_removeStatusItem key with wanted := unset key s.wanted }

def startTimeKey : Str := CString.lit "Start Time"

def setStartTimeStatus (startTime : Str) (s : State) : State :=
  if s.isStartTimeStatusSet then s else { s.setStatus startTimeKey startTime with isStartTimeStatusSet := true }

def statusRunning : Str := CString.lit "Running"
def statusStopped : Str := CString.lit "Stopped / Disconnected"

/-- `Plugin::registerPlugin` on connection `i`. -/
def registerPlugin (col : Table) (i : Nat) (s : State) : State :=
  { s with
    registered := some i
    configured := Function.update s.configured i true
    rows := s.rows.setPluginStatus col statusRunning }

/-- `Plugin::~Plugin` up to where the name is erased; the messages that were not handled are lost. -/
def closeConnection (i : Nat) (s : State) : State :=
  { s with
    queue := Function.update s.queue i none
    registered := if s.registered = some i then none else s.registered
    ending := if s.registered = some i then s.ending + 1 else s.ending }

def step (col : Table) (s : State) : Event → Option State
  | .setStatus key value => some (s.setStatus key value)
  | .removeStatus key => some (s.removeStatus key)
  | .setMute mute => some { s with muteStatus := mute }
  | .connect =>
    if s.state = .disconnected then
      some { s with state := .connected, socket := s.socket + 1, queue := Function.update s.queue (s.socket + 1) (some []) }
    else none
  | .config startTime =>
    if s.state = .connected ∧ s.configured s.socket then some ({ s with state := .registered }.setStartTimeStatus startTime)
    else none
  | .disconnect fatal =>
    if s.state.isOnline then some { s with state := if fatal then .error else .disconnected } else none
  | .register i =>
    if (s.queue i).isSome ∧ s.registered = none ∧ s.configured i = false then some (s.registerPlugin col i) else none
  | .process i =>
    match s.queue i with
    | some (msg :: msgs) =>
      some { s with
        queue := Function.update s.queue i (some msgs)
        rows := if s.registered = some i then s.rows.process col msg else s.rows }
    | _ => none
  | .close i => if (s.queue i).isSome then some (s.closeConnection i) else none
  | .dropItems =>
    if 0 < s.ending then
      some { s with
        ending := s.ending - 1
        rows := (s.rows.setPluginStatus col statusStopped).removeAllPluginStatusItems col }
    else none

/-- The core holds exactly the items that are set: every row behind that of the empty key is one of them, under its key. -/
def Agrees (col : Table) (rows : StatusRows) (wanted : List (Str × Str)) : Prop :=
  ∀ c key value, col.afterEmpty c = true → (rows c = some (key, value) ↔ col.key key = c ∧ (key, value) ∈ wanted)

/-- While the plugin is registered and its messages are handled, the core agrees with what is set; and what `SetStatus`
returned was right. -/
def Converged (col : Table) (s : State) : Prop :=
  (s.state = .registered → s.registered = some s.socket → s.queue s.socket = some [] → Agrees col s.rows s.wanted) ∧
    s.truthful = true

end State

/-- All runs of one plugin and the core. -/
def machine (col : Table) : Machine State Event := ⟨State.init, State.step col⟩

variable {col : Table} {rows rows' : StatusRows} {key key' value value' : Str} {c : List UInt8} {msg : StatusMessage}
  {msgs : List StatusMessage} {wanted wanted' : List (Str × Str)} {s t : State} {i : Nat}

/-! ### The rows -/

theorem literal_eq {text : Str} (h : SqlLiteral.Good text) : literal text = some text := by
  have hrest : SqlLiteral.Continues [] := fun _ _ hrest => absurd hrest.symm (List.cons_ne_nil _ _)
  have hlex := (SqlLiteral.escaped_iff hrest text []).1 h
  rw [literal, Database.formatStringValue, hlex]
  rfl

theorem process_set (h : StatusMessage.Readable (.set key value)) : rows.process col (.set key value) = rows.put col key value := by
  obtain ⟨hkey, hvalue⟩ := h
  simp only [StatusRows.process, StatusRows.setPluginStatusItem, hkey, hvalue]

theorem process_remove (h : StatusMessage.Readable (.remove key)) :
    rows.process col (.remove key) = if key = [] then rows else Function.update rows (col.key key) none := by
  rw [StatusMessage.Readable] at h
  simp only [StatusRows.process, StatusRows.removePluginStatusItem, h]

theorem process_congr (hmsg : msg.Readable) (h : rows c = rows' c) : rows.process col msg c = rows'.process col msg c := by
  cases msg with
  | set key value =>
    rw [process_set hmsg, process_set hmsg, StatusRows.put, StatusRows.put]
    split_ifs
    · by_cases hc : c = col.key key
      · subst hc
        simp [h]
      · simp [hc, h]
    · exact h
  | remove key =>
    rw [process_remove hmsg, process_remove hmsg]
    split_ifs
    · exact h
    · by_cases hc : c = col.key key
      · simp [hc]
      · simp [hc, h]

theorem foldl_process_congr (hmsgs : ∀ msg ∈ msgs, msg.Readable) (h : rows c = rows' c) :
    msgs.foldl (StatusRows.process col) rows c = msgs.foldl (StatusRows.process col) rows' c := by
  induction msgs generalizing rows rows' with
  | nil => exact h
  | cons msg msgs ih =>
    exact ih (fun msg hmsg => hmsgs msg (List.mem_cons_of_mem _ hmsg)) (process_congr (hmsgs msg List.mem_cons_self) h)

theorem process_remove_empty (h : StatusMessage.Readable (.remove key)) : StatusRows.empty.process col (.remove key) = .empty := by
  rw [process_remove h]
  split_ifs
  · rfl
  · exact Function.update_eq_self _ _

namespace State

theorem mem_unset : (key', value') ∈ unset key wanted ↔ (key', value') ∈ wanted ∧ key' ≠ key := by
  simp [unset]

theorem mem_set : (key', value') ∈ unset key wanted ++ [(key, value)] ↔
    (key', value') ∈ wanted ∧ key' ≠ key ∨ key' = key ∧ value' = value := by
  rw [List.mem_append, mem_unset, List.mem_singleton, Prod.mk.injEq]

theorem Agrees.congr (h : Agrees col rows wanted) (hrows : ∀ c, col.afterEmpty c = true → rows' c = rows c) :
    Agrees col rows' wanted := by
  intro c key value hc
  rw [hrows c hc]
  exact h c key value hc

theorem Agrees.congr_wanted (h : Agrees col rows wanted) (hwanted : ∀ key value, (key, value) ∈ wanted' ↔ (key, value) ∈ wanted) :
    Agrees col rows wanted' := by
  intro c key value hc
  rw [hwanted]
  exact h c key value hc

/-- No other key that is set is equal to this one in the table. -/
def Distinct (col : Table) (key : Str) (wanted : List (Str × Str)) : Prop :=
  ∀ item ∈ wanted, col.key item.1 = col.key key → item.1 = key

instance decidableDistinct : Decidable (Distinct col key wanted) := inferInstanceAs (Decidable (∀ item ∈ wanted, _ → _))

theorem Agrees.set (h : Agrees col rows wanted) (hkey : col.afterEmpty (col.key key) = true) (hfits : StatusRows.Fits key value)
    (hdistinct : Distinct col key wanted) :
    Agrees col (rows.put col key value) (unset key wanted ++ [(key, value)]) := by
  have hrow : (rows (col.key key)).elim key Prod.fst = key := by
    rcases hr : rows (col.key key) with _ | ⟨key', value'⟩
    · rfl
    · obtain ⟨heq, hmem⟩ := (h _ _ _ hkey).1 hr
      exact hdistinct _ hmem heq
  intro c key' value' hc
  simp only [StatusRows.put, if_pos hfits, hrow, mem_set]
  by_cases hck : c = col.key key
  · subst hck
    simp only [Function.update_self, Option.some.injEq, Prod.mk.injEq]
    constructor
    · rintro ⟨rfl, rfl⟩
      exact ⟨rfl, Or.inr ⟨rfl, rfl⟩⟩
    · rintro ⟨heq, ⟨hmem, hne⟩ | ⟨rfl, rfl⟩⟩
      · exact absurd (hdistinct _ hmem heq) hne
      · exact ⟨rfl, rfl⟩
  · rw [Function.update_of_ne hck, h _ _ _ hc]
    constructor
    · rintro ⟨rfl, hmem⟩
      exact ⟨rfl, Or.inl ⟨hmem, fun hk => hck (hk ▸ rfl)⟩⟩
    · rintro ⟨rfl, ⟨hmem, -⟩ | ⟨rfl, -⟩⟩
      · exact ⟨rfl, hmem⟩
      · exact absurd rfl hck

theorem Agrees.remove (h : Agrees col rows wanted) (hdistinct : Distinct col key wanted) :
    Agrees col (Function.update rows (col.key key) none) (unset key wanted) := by
  intro c key' value' hc
  simp only [mem_unset]
  by_cases hck : c = col.key key
  · subst hck
    simp only [Function.update_self, reduceCtorEq, false_iff]
    rintro ⟨heq, hmem, hne⟩
    exact hne (hdistinct _ hmem heq)
  · rw [Function.update_of_ne hck, h _ _ _ hc]
    constructor
    · rintro ⟨rfl, hmem⟩
      exact ⟨rfl, hmem, fun hk => hck (hk ▸ rfl)⟩
    · rintro ⟨rfl, hmem, -⟩
      exact ⟨rfl, hmem⟩

/-! ### The condition and the invariant -/

/-- A call of `SetStatus` that is not muted: a value that is in `_statusMap` is set; key and value fit in the table; and there are
no backslashes in them, but for those in front of a percent sign or an underscore. -/
def SoundStatus (col : Table) (key value : Str) (s : State) : Prop :=
  s.muteStatus = false →
    (s.statusMap key = some value → (key, value) ∈ s.wanted) ∧ col.afterEmpty (col.key key) = true ∧
    StatusRows.Fits key value ∧ 0 ∉ value ∧ Distinct col key s.wanted ∧ SqlLiteral.Good key ∧ SqlLiteral.Good value

/-- The next message that is handled for a connection sets an item. -/
def setsNext (i : Nat) (s : State) : Bool := (((s.queue i).bind List.head?).map StatusMessage.isSet).getD false

def Sound (col : Table) (s : State) : Event → Prop
  | .setStatus key value => s.SoundStatus col key value
  | .removeStatus key => Distinct col key s.wanted ∧ SqlLiteral.Good key
  | .connect => s.wanted = []
  | .config startTime => s.isStartTimeStatusSet = false → s.SoundStatus col startTimeKey startTime
  | .register i => i = s.socket → s.state.isOnline = true → s.ending = 0
  | .process i => i = s.socket → s.state.isOnline = true → s.setsNext i = true → s.registered = some i
  | _ => True

instance decidableSoundStatus : Decidable (s.SoundStatus col key value) := inferInstanceAs (Decidable (_ → _))

instance decidableSound : ∀ e, Decidable (Sound col s e)
  | .setStatus .. => inferInstanceAs (Decidable (SoundStatus ..))
  | .removeStatus .. => inferInstanceAs (Decidable (Distinct .. ∧ _))
  | .connect => inferInstanceAs (Decidable (_ = _))
  | .config .. | .register .. | .process .. => inferInstanceAs (Decidable (_ → _))
  | .setMute .. | .disconnect .. | .close .. | .dropItems => isTrue trivial

/-- The rows that the connection of the plugin writes to, as they are once its messages are handled. -/
def settled (col : Table) (msgs : List StatusMessage) (s : State) : StatusRows :=
  msgs.foldl (StatusRows.process col) (if s.registered = some s.socket then s.rows else .empty)

/-- Once the messages of the connection are handled the core agrees with what is set; what is set is in `_statusMap`; where no
connection is registered and nothing is left to be dropped, there are no items; and all messages are readable. -/
structure Inv (col : Table) (s : State) : Prop where
  agrees : s.state.isOnline = true → ∀ msgs, s.queue s.socket = some msgs → Agrees col (s.settled col msgs) s.wanted
  map : ∀ key value, (key, value) ∈ s.wanted → s.statusMap key = some value
  dropped : s.registered = none → s.ending = 0 → ∀ c, col.afterEmpty c = true → s.rows c = none
  ended : s.state.isOnline = true → s.registered = some s.socket → s.ending = 0
  fresh : ∀ i, s.registered = some i → i ≤ s.socket
  known : ∀ i msgs, s.queue i = some msgs → i ≤ s.socket
  truthful : s.truthful = true
  readable : ∀ i msgs, s.queue i = some msgs → ∀ msg ∈ msgs, msg.Readable

theorem inv_init : Inv col State.init where
  agrees := nofun
  map := nofun
  dropped _ _ _ _ := rfl
  ended := nofun
  fresh := nofun
  known := nofun
  truthful := rfl
  readable := nofun

/-! ### What each step keeps -/

theorem update_self_eq {queue : Nat → Option (List StatusMessage)} {sent : Option (List StatusMessage)}
    (h : Function.update queue i sent i = some msgs) : sent = some msgs := by
  rwa [Function.update_self] at h

theorem update_ne_eq {queue : Nat → Option (List StatusMessage)} {sent : Option (List StatusMessage)} {j : Nat} (hij : j ≠ i)
    (h : Function.update queue i sent j = some msgs) : queue j = some msgs := by
  rwa [Function.update_of_ne hij] at h

theorem known_update (h : ∀ j msgs, s.queue j = some msgs → j ≤ s.socket) {sent : Option (List StatusMessage)} {j n : Nat}
    (hn : s.socket ≤ n) (hi : ∀ msgs, sent = some msgs → i ≤ n) (hj : Function.update s.queue i sent j = some msgs) : j ≤ n := by
  by_cases hji : j = i
  · subst hji
    exact hi msgs (update_self_eq hj)
  · exact (h j msgs (update_ne_eq hji hj)).trans hn

theorem readable_update (h : ∀ j msgs, s.queue j = some msgs → ∀ msg ∈ msgs, msg.Readable) {sent : Option (List StatusMessage)} {j : Nat}
    (hi : ∀ msgs, sent = some msgs → ∀ msg ∈ msgs, msg.Readable) (hj : Function.update s.queue i sent j = some msgs) :
    ∀ msg ∈ msgs, msg.Readable := by
  by_cases hji : j = i
  · subst hji
    exact hi msgs (update_self_eq hj)
  · exact h j msgs (update_ne_eq hji hj)

theorem agrees_broadcast (honline : s.state.isOnline = true)
    (h : ∀ msgs, s.queue s.socket = some msgs → Agrees col (s.settled col msgs) s.wanted)
    (hprocess : ∀ rows, Agrees col rows s.wanted → Agrees col (rows.process col msg) wanted')
    (hqueue : (s.ivp_broadcastMessage msg).queue s.socket = some msgs) : Agrees col (s.settled col msgs) wanted' := by
  rw [ivp_broadcastMessage, if_pos honline] at hqueue
  simp only [Function.update_self, Option.map_eq_some_iff] at hqueue
  obtain ⟨sent, hsent, rfl⟩ := hqueue
  rw [settled, List.foldl_append]
  exact hprocess _ (h sent hsent)

theorem known_broadcast (h : ∀ j msgs, s.queue j = some msgs → j ≤ s.socket) {j : Nat}
    (hj : (s.ivp_broadcastMessage msg).queue j = some msgs) : j ≤ s.socket := by
  unfold ivp_broadcastMessage at hj
  split_ifs at hj
  · exact known_update h le_rfl (fun _ _ => le_rfl) hj
  · exact h j msgs hj

theorem readable_broadcast (h : ∀ j msgs, s.queue j = some msgs → ∀ msg ∈ msgs, msg.Readable) (hmsg : msg.Readable) {j : Nat}
    (hj : (s.ivp_broadcastMessage msg).queue j = some msgs) : ∀ msg ∈ msgs, msg.Readable := by
  unfold ivp_broadcastMessage at hj
  split_ifs at hj
  · refine readable_update h (fun msgs' hmsgs' msg' hmem => ?_) hj
    obtain ⟨sent, hsent, rfl⟩ := Option.map_eq_some_iff.1 hmsgs'
    rcases List.mem_append.1 hmem with hmem | hmem
    · exact h s.socket sent hsent msg' hmem
    · exact List.mem_singleton.1 hmem ▸ hmsg
  · exact h j msgs hj

theorem broadcast_eq : s.ivp_broadcastMessage msg = { s with queue := (s.ivp_broadcastMessage msg).queue } := by
  unfold ivp_broadcastMessage
  split_ifs <;> rfl

theorem Inv.note (h : Inv col s) (hmem : (key, value) ∈ s.wanted) : Inv col (s.noteStatus key value false) := by
  have hwanted : ∀ key' value', (key', value') ∈ unset key s.wanted ++ [(key, value)] ↔ (key', value') ∈ s.wanted := by
    intro key' value'
    rw [mem_set]
    constructor
    · rintro (⟨hmem', -⟩ | ⟨rfl, rfl⟩)
      · exact hmem'
      · exact hmem
    · intro hmem'
      by_cases hkey : key' = key
      · subst hkey
        exact Or.inr ⟨rfl, Option.some.inj ((h.map _ _ hmem').symm.trans (h.map _ _ hmem))⟩
      · exact Or.inl ⟨hmem', hkey⟩
  refine ⟨fun honline msgs hmsgs => ?_, fun key' value' hmem' => ?_, h.dropped, h.ended, h.fresh, h.known, ?_, h.readable⟩
  · exact (h.agrees honline msgs hmsgs).congr_wanted hwanted
  · exact h.map key' value' ((hwanted key' value').1 hmem')
  · simp [noteStatus, h.truthful, hmem]

theorem Inv.new (h : Inv col s) (hne : s.statusMap key ≠ some value) (hkey : col.afterEmpty (col.key key) = true)
    (hfits : StatusRows.Fits key value) (hvalue : 0 ∉ value) (hdistinct : Distinct col key s.wanted)
    (hreadable : StatusMessage.Readable (.set key value)) :
    Inv col (((s.remember key value).ivp_setStatusItem key value).noteStatus key value true) := by
  have hempty : key ≠ [] := by
    rintro rfl
    simp at hkey
  have hsent : value.takeWhile (· ≠ 0) = value :=
    List.takeWhile_eq_self_iff.2 fun c hc => decide_eq_true fun h0 => hvalue (h0 ▸ hc)
  have hnot : (key, value) ∉ s.wanted := fun hmem => hne (h.map _ _ hmem)
  rw [ivp_setStatusItem, if_neg hempty, hsent, broadcast_eq]
  refine ⟨fun honline msgs hmsgs => ?_, fun key' value' hmem => ?_, h.dropped, h.ended, h.fresh,
    fun j msgs => known_broadcast (s := s.remember key value) h.known, ?_,
    fun j msgs => readable_broadcast (s := s.remember key value) h.readable hreadable⟩
  · refine agrees_broadcast (s := s.remember key value) honline (h.agrees honline) (fun rows hrows => ?_) hmsgs
    rw [process_set hreadable]
    exact hrows.set hkey hfits hdistinct
  · rcases mem_set.1 hmem with ⟨hmem, hne⟩ | ⟨rfl, rfl⟩
    · exact (Function.update_of_ne hne ..).trans (h.map _ _ hmem)
    · exact Function.update_self ..
  · simp [noteStatus, remember, h.truthful, hnot]

theorem Inv.setStatus (h : Inv col s) (hsound : s.SoundStatus col key value) : Inv col (s.setStatus key value) := by
  unfold State.setStatus
  split_ifs with hmute hold
  · exact h
  · exact h.note ((hsound (Bool.eq_false_of_not_eq_true hmute)).1 hold)
  · obtain ⟨-, hkey, hfits, hvalue, hdistinct, hgood, hgood'⟩ := hsound (Bool.eq_false_of_not_eq_true hmute)
    exact h.new hold hkey hfits hvalue hdistinct ⟨literal_eq hgood, literal_eq hgood'⟩

theorem Inv.removeStatus (h : Inv col s) (hdistinct : Distinct col key s.wanted) (hreadable : StatusMessage.Readable (.remove key)) :
    Inv col (s.removeStatus key) := by
  unfold State.removeStatus ivp_removeStatusItem
  split_ifs with hempty
  · subst hempty
    refine ⟨fun honline msgs hmsgs => ?_, fun key' value' hmem => h.map _ _ (mem_unset.1 hmem).1, h.dropped, h.ended, h.fresh,
      h.known, h.truthful, h.readable⟩
    intro c key' value' hc
    refine (h.agrees honline msgs hmsgs c key' value' hc).trans (and_congr_right fun heq => ?_)
    rw [mem_unset]
    refine (and_iff_left fun hnil => ?_).symm
    subst hnil heq
    simp at hc
  · rw [broadcast_eq]
    refine ⟨fun honline msgs hmsgs => ?_, fun key' value' hmem => h.map _ _ (mem_unset.1 hmem).1, h.dropped, h.ended, h.fresh,
      fun j msgs => known_broadcast h.known, h.truthful, fun j msgs => readable_broadcast h.readable hreadable⟩
    refine agrees_broadcast (s := s) honline (h.agrees honline) (fun rows hrows => ?_) hmsgs
    rw [process_remove hreadable, if_neg hempty]
    exact hrows.remove hdistinct

theorem Inv.setStartTimeStatus (h : Inv col s) (hsound : s.isStartTimeStatusSet = false → s.SoundStatus col startTimeKey value) :
    Inv col (s.setStartTimeStatus value) := by
  unfold State.setStartTimeStatus
  split_ifs with hset
  · exact h
  · have hstatus := h.setStatus (hsound (Bool.eq_false_of_not_eq_true hset))
    exact ⟨hstatus.agrees, hstatus.map, hstatus.dropped, hstatus.ended, hstatus.fresh, hstatus.known, hstatus.truthful,
      hstatus.readable⟩

theorem Inv.connect (h : Inv col s) (hwanted : s.wanted = []) : Inv col { s with
    state := .connected, socket := s.socket + 1, queue := Function.update s.queue (s.socket + 1) (some []) } := by
  have hother : s.registered ≠ some (s.socket + 1) := fun hreg => Nat.not_succ_le_self _ (h.fresh _ hreg)
  refine ⟨fun _ msgs hmsgs => ?_, h.map, h.dropped, fun _ hreg => absurd hreg hother, fun i hi => (h.fresh i hi).trans (Nat.le_succ _),
    fun j msgs hj => known_update h.known (Nat.le_succ _) (fun _ _ => le_rfl) hj, h.truthful,
    fun j msgs hj => readable_update h.readable (fun msgs hmsgs msg hmem => ?_) hj⟩
  rotate_left
  · obtain rfl := Option.some.inj hmsgs
    exact absurd hmem List.not_mem_nil
  obtain rfl : [] = msgs := Option.some.inj (update_self_eq hmsgs)
  intro c key value _
  simp [settled, hother, hwanted, StatusRows.empty]

theorem Inv.registerPlugin (h : Inv col s) (hqueue : s.queue i = some msgs) (hnone : s.registered = none)
    (hending : i = s.socket → s.state.isOnline = true → s.ending = 0) : Inv col (s.registerPlugin col i) := by
  have hitems : ∀ c, col.afterEmpty c = true → (s.registerPlugin col i).rows c = s.rows c := by
    intro c hc
    have hne : c ≠ col.key [] := by
      rintro rfl
      simp at hc
    simp only [State.registerPlugin, StatusRows.setPluginStatus, StatusRows.put]
    split_ifs
    · exact Function.update_of_ne hne ..
    · rfl
  refine ⟨fun honline msgs hmsgs => ?_, h.map, nofun, fun honline hreg => hending (Option.some.inj hreg) honline, ?_, h.known,
    h.truthful, h.readable⟩
  · refine (h.agrees honline msgs hmsgs).congr fun c hc => ?_
    refine foldl_process_congr (h.readable _ msgs hmsgs) ?_
    rw [if_neg (show s.registered ≠ some s.socket from hnone ▸ nofun)]
    split_ifs with hreg
    · exact (hitems c hc).trans (h.dropped hnone (hending (Option.some.inj hreg) honline) c hc)
    · rfl
  · intro j hj
    exact Option.some.inj hj ▸ h.known i msgs hqueue

theorem Inv.process (h : Inv col s) (hqueue : s.queue i = some (msg :: msgs))
    (hsound : i = s.socket → s.state.isOnline = true → msg.isSet = true → s.registered = some i) : Inv col { s with
      queue := Function.update s.queue i (some msgs)
      rows := if s.registered = some i then s.rows.process col msg else s.rows } := by
  refine ⟨fun honline msgs' hmsgs' => ?_, h.map, fun hnone hending c hc => ?_, h.ended, h.fresh,
    fun j msgs' hj => known_update h.known le_rfl (fun _ _ => h.known i _ hqueue) hj, h.truthful,
    fun j msgs' hj => readable_update h.readable (fun msgs'' hmsgs msg' hmem => ?_) hj⟩
  · by_cases hi : i = s.socket
    · subst hi
      obtain rfl : msgs = msgs' := Option.some.inj (update_self_eq hmsgs')
      have hagrees := h.agrees honline _ hqueue
      by_cases hreg : s.registered = some s.socket
      · simpa only [settled, if_pos hreg, List.foldl_cons] using hagrees
      · -- before the registration only a removal is handled, and there is nothing to be removed
        cases msg with
        | set key value => exact absurd (hsound rfl honline rfl) hreg
        | remove key =>
          have hreadable := h.readable s.socket _ hqueue _ List.mem_cons_self
          simpa only [settled, if_neg hreg, List.foldl_cons, process_remove_empty hreadable] using hagrees
    · have hsame : s.queue s.socket = some msgs' := update_ne_eq (Ne.symm hi) hmsgs'
      have hagrees := h.agrees honline _ hsame
      by_cases hreg : s.registered = some s.socket
      · have hother : s.registered ≠ some i := fun hreg' => hi (Option.some.inj (hreg'.symm.trans hreg))
        simpa only [settled, if_pos hreg, if_neg hother] using hagrees
      · simpa only [settled, if_neg hreg] using hagrees
  · show (if s.registered = some i then _ else s.rows) c = none
    rw [if_neg (show s.registered ≠ some i from hnone ▸ nofun)]
    exact h.dropped hnone hending c hc
  · obtain rfl := Option.some.inj hmsgs
    exact h.readable i _ hqueue msg' (List.mem_cons_of_mem msg hmem)

theorem Inv.closeConnection (h : Inv col s) : Inv col (s.closeConnection i) := by
  refine ⟨fun honline msgs hmsgs => ?_, h.map, fun hnone hending => ?_, fun honline hreg => ?_, fun j hj => ?_,
    fun j msgs hj => known_update h.known le_rfl (by nofun) hj, h.truthful,
    fun j msgs hj => readable_update h.readable (by nofun) hj⟩
  · have hi : s.socket ≠ i := by
      rintro rfl
      cases update_self_eq hmsgs
    have hagrees := h.agrees honline msgs (update_ne_eq hi hmsgs)
    by_cases hreg : s.registered = some i
    · simpa [settled, State.closeConnection, hreg, Ne.symm hi] using hagrees
    · simpa only [settled, State.closeConnection, if_neg hreg] using hagrees
  · simp only [State.closeConnection] at hnone hending
    split_ifs at hnone hending with hreg
    exact h.dropped hnone hending
  · simp only [State.closeConnection] at hreg ⊢
    split_ifs at hreg ⊢
    exact h.ended honline hreg
  · simp only [State.closeConnection] at hj
    split_ifs at hj
    exact h.fresh j hj

theorem Inv.dropItems (h : Inv col s) (hending : 0 < s.ending) : Inv col { s with
    ending := s.ending - 1, rows := (s.rows.setPluginStatus col statusStopped).removeAllPluginStatusItems col } := by
  refine ⟨fun honline msgs hmsgs => ?_, h.map, fun _ _ c hc => if_pos hc, fun honline hreg => ?_, h.fresh, h.known, h.truthful,
    h.readable⟩
  · have hreg : s.registered ≠ some s.socket := fun hreg => hending.ne' (h.ended honline hreg)
    simpa only [settled, if_neg hreg] using h.agrees honline msgs hmsgs
  · exact absurd (h.ended honline hreg) hending.ne'

theorem inv_step {e : Event} (h : Inv col s) (hsound : Sound col s e) (hstep : s.step col e = some t) : Inv col t := by
  cases e with
  | setStatus key value =>
    cases hstep
    exact h.setStatus hsound
  | removeStatus key =>
    cases hstep
    exact h.removeStatus hsound.1 (literal_eq hsound.2)
  | setMute mute =>
    cases hstep
    exact ⟨h.agrees, h.map, h.dropped, h.ended, h.fresh, h.known, h.truthful, h.readable⟩
  | connect =>
    obtain ⟨-, hstep⟩ := Option.ite_none_right_eq_some.1 hstep
    cases hstep
    exact h.connect hsound
  | config startTime =>
    obtain ⟨⟨hstate, -⟩, hstep⟩ := Option.ite_none_right_eq_some.1 hstep
    cases hstep
    have honline : s.state.isOnline = true := by rw [hstate]; rfl
    refine Inv.setStartTimeStatus (s := { s with state := .registered }) ?_ hsound
    exact ⟨fun _ => h.agrees honline, h.map, h.dropped, fun _ => h.ended honline, h.fresh, h.known, h.truthful, h.readable⟩
  | disconnect fatal =>
    obtain ⟨-, hstep⟩ := Option.ite_none_right_eq_some.1 hstep
    cases hstep
    have hoffline : ¬ (if fatal then IvpPluginState.error else .disconnected).isOnline = true := by
      cases fatal <;> exact Bool.false_ne_true
    exact ⟨fun honline => absurd honline hoffline, h.map, h.dropped, fun honline => absurd honline hoffline, h.fresh, h.known,
      h.truthful, h.readable⟩
  | register i =>
    obtain ⟨⟨hqueue, hnone, -⟩, hstep⟩ := Option.ite_none_right_eq_some.1 hstep
    cases hstep
    obtain ⟨msgs, hmsgs⟩ := Option.isSome_iff_exists.1 hqueue
    exact h.registerPlugin hmsgs hnone hsound
  | process i =>
    simp only [step] at hstep
    split at hstep
    · rename_i msg msgs hqueue
      cases hstep
      refine h.process hqueue fun hi honline hset => hsound hi honline ?_
      simp [setsNext, hqueue, hset]
    · cases hstep
  | close i =>
    obtain ⟨-, hstep⟩ := Option.ite_none_right_eq_some.1 hstep
    cases hstep
    exact h.closeConnection
  | dropItems =>
    obtain ⟨hending, hstep⟩ := Option.ite_none_right_eq_some.1 hstep
    cases hstep
    exact h.dropItems hending

theorem Inv.converged (h : Inv col s) : s.Converged col := by
  refine ⟨fun hstate hreg hqueue => ?_, h.truthful⟩
  have honline : s.state.isOnline = true := by rw [hstate]; rfl
  simpa [settled, hreg] using h.agrees honline [] hqueue

end State

open State

def speed : Str := CString.lit "Speed"
def five : Str := CString.lit "5"

/-- The table, where a statement that is misread is an error. -/
def pluginStatus : Table := { Collation.latin1_swedish_ci with misread := fun _ rows => rows }

end V2xHub.PluginClient
