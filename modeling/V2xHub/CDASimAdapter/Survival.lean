import V2xHub.CDASimAdapter.Basic

/-!
# What the adapter survives

A step is `Sound` if nothing in it fails: an attempt to connect finds numbers that fit for its ports, or there is a
connection from an earlier attempt; what the time synchronisation and the sensor timers receive is JSON without a NUL
that leaves room in the buffer; the sensor timer receives no empty datagram and no error; and what is forwarded can be
sent. In the runs of these steps, and in no others, nothing fails, every text is the bytes that were received, and every
well-formed datagram is handled (`simulation_input`).
-/

namespace V2xHub.CDASimAdapter

/-- The text that should be taken from the buffer. -/
def Receive.text? (r : Receive) : Option Str := if r.bytes = [] then none else some r.bytes

def Event.text? : Event → Option Str
  | .timeSyncTick r => r.text?
  | .sensorTick r => r.text?
  | .fromSimulationTick r _ => r.text?
  | .fromV2xHubTick r _ => r.text?
  | _ => none

section
variable (read_json : Str → Option Ptree)

/-- A broadcast for a datagram that is a message with members, nothing for any other. -/
def Receive.broadcast? (broadcast : Ptree → Output) (r : Receive) : Option Output :=
  r.text?.bind fun text => (read_json text).bind fun contents =>
    if contents.children = [] then none else some (broadcast contents)

def Receive.forward? (output : Str → Output) (r : Receive) (sent : Bool) : Option Output :=
  r.text?.bind fun msg => if sent then some (output msg) else none

/-- What should be done with the datagram of an event, on its own. -/
def Event.output? : Event → Option Output
  | .timeSyncTick r => r.broadcast? read_json .timeSync
  | .sensorTick r => r.broadcast? read_json .sensorDetectedObject
  | .fromSimulationTick r sent => r.forward? .toV2xHub sent
  | .fromV2xHubTick r sent => r.forward? .toSimulation sent
  | _ => none

/-- Nothing has failed, and every datagram of the run was read and handled as it is. -/
structure Survives (tr : List Event) (s : State) : Prop where
  alive : ∀ how, s.phase ≠ .failed how
  texts : s.texts = tr.filterMap Event.text?
  outputs : s.outputs = tr.filterMap (Event.output? read_json)

/-- JSON without a NUL, with room for one more byte in the buffer. -/
def Readable (r : Receive) : Prop := 0 ∉ r.bytes ∧ r.bytes.length < bufferSize ∧ (read_json r.bytes).isSome

def SoundAttempt (env : Environment) (s : State) : Prop :=
  match newConnection env with
  | .ok _ => env.sensors = true
  | .error .TmxException => s.connection.isSome
  | .error .invalid_argument => s.connection.isSome
  | .error _ => False

def Sound (s : State) : Event → Prop
  | .registered => True
  | .attempt env => SoundAttempt env s
  | .timeSyncTick r => r.bytes = [] ∨ Readable read_json r
  | .sensorTick r => r.bytes ≠ [] ∧ Readable read_json r
  | .fromSimulationTick r sent => r.bytes = [] ∨ sent = true
  | .fromV2xHubTick r sent => r.bytes = [] ∨ sent = true

end

/-- The timers run with a connection only. -/
structure Inv (read_json : Str → Option Ptree) (tr : List Event) (s : State) : Prop extends Survives read_json tr s where
  connected : s.phase = .listening → s.connected = true

variable {max_connection_attempts : Int} {read_json : Str → Option Ptree} {tr : List Event} {s t : State} {r : Receive}
  {text bytes : Str} {broadcast : Ptree → Output} {output : Str → Output} {sent : Bool} {n : Nat} {env : Environment}

/-! ### The text of a buffer -/

theorem read_eq_none (h : 0 ∉ bytes) : CString.read bytes = none := by
  induction bytes with
  | nil => rfl
  | cons b bytes ih =>
    obtain ⟨hb, hbytes⟩ := List.ne_and_not_mem_of_not_mem_cons h
    rw [CString.read, if_neg (Ne.symm hb), ih hbytes, Option.map_none]

theorem read_of_mem (rest : Str) (h : 0 ∈ bytes) : ∃ text, CString.read (bytes ++ rest) = some text ∧ 0 ∉ text := by
  induction bytes with
  | nil => exact absurd h List.not_mem_nil
  | cons b bytes ih =>
    rw [List.cons_append, CString.read]
    by_cases hb : b = 0
    · exact ⟨[], if_pos hb, List.not_mem_nil⟩
    · obtain ⟨text, htext, h0⟩ := ih (List.mem_of_ne_of_mem (Ne.symm hb) h)
      refine ⟨b :: text, ?_, List.not_mem_cons_of_ne_of_not_mem (Ne.symm hb) h0⟩
      rw [if_neg hb, htext, Option.map_some]

/-- What the C string of the buffer is: the bytes, if there is no NUL in them and one behind them. -/
theorem consume_cases (r : Receive) : r.bytes = [] ∧ consume_server_message r = .throws ∨
    r.bytes ≠ [] ∧ (0 ∉ r.bytes ∧ r.bytes.length < bufferSize ∧ consume_server_message r = .text r.bytes ∨
      0 ∉ r.bytes ∧ ¬ r.bytes.length < bufferSize ∧ consume_server_message r = .outside ∨
      0 ∈ r.bytes ∧ ∃ text, consume_server_message r = .text text ∧ text ≠ r.bytes) := by
  unfold consume_server_message
  by_cases hnil : r.bytes = []
  · exact .inl ⟨hnil, if_pos hnil⟩
  refine .inr ⟨hnil, ?_⟩
  rw [if_neg hnil]
  by_cases h0 : 0 ∈ r.bytes
  · obtain ⟨text, htext, hnot⟩ := read_of_mem (List.replicate (bufferSize - r.bytes.length) 0) h0
    rw [htext]
    exact .inr (.inr ⟨h0, text, rfl, fun heq => hnot (heq ▸ h0)⟩)
  · by_cases hlen : r.bytes.length < bufferSize
    · refine .inl ⟨h0, hlen, ?_⟩
      obtain ⟨k, hk⟩ := Nat.exists_eq_add_of_lt hlen
      have hzeros : List.replicate (bufferSize - r.bytes.length) (0 : UInt8) = 0 :: List.replicate k 0 := by
        rw [hk, show r.bytes.length + k + 1 - r.bytes.length = k + 1 by omega, List.replicate_succ]
      rw [hzeros, CString.read_append h0]
    · refine .inr (.inl ⟨h0, hlen, ?_⟩)
      have hfull : bufferSize - r.bytes.length = 0 := by omega
      rw [hfull, List.replicate_zero, List.append_nil, read_eq_none h0]

/-! ### One step -/

theorem survives_fail {how : Failure} : ¬ Survives read_json tr (s.enter (.failed how)) := fun h => h.alive how rfl

/-- A step that takes no text and gives no output. -/
theorem Survives.silent {e : Event} (h : Survives read_json tr s) (htext : e.text? = none) (houtput : e.output? read_json = none)
    (halive : ∀ how, t.phase ≠ .failed how) (htexts : t.texts = s.texts) (houtputs : t.outputs = s.outputs) :
    Survives read_json (tr ++ [e]) t where
  alive := halive
  texts := by rw [htexts, h.texts, List.filterMap_append, List.filterMap_cons_none htext, List.filterMap_nil, List.append_nil]
  outputs := by
    rw [houtputs, h.outputs, List.filterMap_append, List.filterMap_cons_none houtput, List.filterMap_nil, List.append_nil]

/-- A step that takes the text of its event and gives its output. -/
theorem Survives.taken {e : Event} (h : Survives read_json tr s) (htext : e.text? = some text)
    (halive : ∀ how, s.phase ≠ .failed how) : Survives read_json (tr ++ [e]) ((s.take text).emit (e.output? read_json)) where
  alive := halive
  texts := by
    rw [List.filterMap_append, List.filterMap_cons_some htext, List.filterMap_nil, ← h.texts]
    rfl
  outputs := by
    have hlist : [e].filterMap (Event.output? read_json) = (e.output? read_json).toList := by
      cases heq : e.output? read_json with
      | none => rw [List.filterMap_cons_none heq]; rfl
      | some o => rw [List.filterMap_cons_some heq]; rfl
    rw [List.filterMap_append, hlist, ← h.outputs]
    rfl

theorem text?_of_ne (h : r.bytes ≠ []) : r.text? = some r.bytes := if_neg h

theorem text?_of_eq (h : r.bytes = []) : r.text? = none := if_pos h

/-- A text that was taken for an event is the one of the event. -/
theorem text_eq_bytes {e : Event} (h : Survives read_json tr s) (htext : e.text? = r.text?) (hne : r.bytes ≠ [])
    (ht : Survives read_json (tr ++ [e]) t) (htexts : t.texts = s.texts ++ [text]) : text = r.bytes := by
  have hlast := htexts.symm.trans ht.texts
  rw [h.texts, List.filterMap_append, List.filterMap_cons_some (htext.trans (text?_of_ne hne)), List.filterMap_nil,
    List.append_cancel_left_eq, List.singleton_inj] at hlast
  exact hlast

theorem texts_contents : (s.contents read_json broadcast text).texts = s.texts := by
  unfold State.contents
  cases read_json text <;> rfl

theorem contents_iff {e : Event} (h : Survives read_json tr s) (htext : e.text? = r.text?)
    (houtput : e.output? read_json = r.broadcast? read_json broadcast) (hne : r.bytes ≠ []) :
    Survives read_json (tr ++ [e]) ((s.take text).contents read_json broadcast text) ↔
      text = r.bytes ∧ (read_json r.bytes).isSome := by
  constructor
  · intro ht
    obtain rfl := text_eq_bytes h htext hne ht texts_contents
    refine ⟨rfl, ?_⟩
    unfold State.contents at ht
    cases hjson : read_json r.bytes with
    | none =>
      rw [hjson] at ht
      exact absurd ht survives_fail
    | some contents => rfl
  · rintro ⟨rfl, hjson⟩
    obtain ⟨contents, hcontents⟩ := Option.isSome_iff_exists.1 hjson
    have he : e.output? read_json = if contents.children = [] then none else some (broadcast contents) := by
      rw [houtput, Receive.broadcast?, text?_of_ne hne, Option.bind_some, hcontents, Option.bind_some]
    unfold State.contents
    rw [hcontents]
    dsimp only
    rw [← he]
    exact h.taken (htext.trans (text?_of_ne hne)) h.alive

/-- The two timers that read JSON, where something was received. -/
theorem received_iff {e : Event} (h : Survives read_json tr s) (htext : e.text? = r.text?)
    (houtput : e.output? read_json = r.broadcast? read_json broadcast) (hne : r.bytes ≠ []) (throws : State) :
    Survives read_json (tr ++ [e]) (match consume_server_message r with
      | .throws => throws
      | .outside => s.enter (.failed .outsideBuffer)
      | .text text => (s.take text).contents read_json broadcast text) ↔ Readable read_json r := by
  obtain ⟨hnil, -⟩ | ⟨-, ⟨h0, hlen, heq⟩ | ⟨h0, hlen, heq⟩ | ⟨h0, text, heq, htext'⟩⟩ := consume_cases r
  · exact absurd hnil hne
  · rw [heq]
    exact (contents_iff h htext houtput hne).trans ⟨fun hr => ⟨h0, hlen, hr.2⟩, fun hr => ⟨rfl, hr.2.2⟩⟩
  · rw [heq]
    exact iff_of_false survives_fail fun hr => hlen hr.2.1
  · rw [heq]
    exact iff_of_false (fun ht => htext' ((contents_iff h htext houtput hne).1 ht).1) fun hr => hr.1 h0

theorem broadcast?_of_eq (h : r.bytes = []) : r.broadcast? read_json broadcast = none := by
  rw [Receive.broadcast?, text?_of_eq h, Option.bind_none]

theorem attempt_time_sync_iff (h : Survives read_json tr s) :
    Survives read_json (tr ++ [.timeSyncTick r]) (s.attempt_time_sync read_json r) ↔ Sound read_json s (.timeSyncTick r) := by
  by_cases hnil : r.bytes = []
  · have hthrows : consume_server_message r = .throws := if_pos hnil
    have hsame : s.attempt_time_sync read_json r = s := by rw [State.attempt_time_sync, hthrows]
    rw [hsame]
    exact iff_of_true (h.silent (text?_of_eq hnil) (broadcast?_of_eq hnil) h.alive rfl rfl) (.inl hnil)
  · exact (received_iff h rfl rfl hnil s).trans (or_iff_right hnil).symm

theorem sensorLambda_iff (h : Survives read_json tr s) :
    Survives read_json (tr ++ [.sensorTick r]) (s.sensorLambda read_json r) ↔ Sound read_json s (.sensorTick r) := by
  by_cases hnil : r.bytes = []
  · have hthrows : consume_server_message r = .throws := if_pos hnil
    have hfail : s.sensorLambda read_json r = s.fail .UdpServerRuntimeError := by rw [State.sensorLambda, hthrows]
    rw [hfail]
    exact iff_of_false survives_fail fun hsound => hsound.1 hnil
  · exact (received_iff h rfl rfl hnil _).trans (and_iff_right hnil).symm

theorem forward_iff {e : Event} (h : Survives read_json tr s) (htext : e.text? = r.text?)
    (houtput : e.output? read_json = r.forward? output sent) :
    Survives read_json (tr ++ [e]) (s.forward output r sent) ↔ r.bytes = [] ∨ sent = true := by
  unfold State.forward consume_hex_server_message
  by_cases hnil : r.bytes = []
  · rw [if_pos hnil]
    rw [Receive.forward?, text?_of_eq hnil, Option.bind_none] at houtput
    exact iff_of_true (h.silent (htext.trans (text?_of_eq hnil)) houtput h.alive rfl rfl) (.inl hnil)
  · rw [if_neg hnil, or_iff_right hnil]
    dsimp only
    cases sent with
    | true =>
      rw [Receive.forward?, text?_of_ne hnil, Option.bind_some, if_pos rfl] at houtput
      rw [if_pos rfl, ← houtput]
      exact iff_of_true (h.taken (htext.trans (text?_of_ne hnil)) h.alive) rfl
    | false => exact iff_of_false survives_fail Bool.false_ne_true

/-! ### Connecting -/

theorem loop_listening (h : (s.loop max_connection_attempts n).phase = .listening) :
    (s.loop max_connection_attempts n).connected = true := by
  unfold State.loop at h ⊢
  split_ifs at h ⊢ with hconnected
  · exact hconnected
  · nomatch h
  · nomatch h
  · nomatch h

theorem loop_silent {e : Event} (h : Survives read_json tr s) (htext : e.text? = none) (houtput : e.output? read_json = none)
    (hloop : mayAttempt max_connection_attempts n ∨ t.connection.isSome) (htexts : t.texts = s.texts)
    (houtputs : t.outputs = s.outputs) : Survives read_json (tr ++ [e]) (t.loop max_connection_attempts n) := by
  unfold State.loop
  split_ifs with hconnected hmay hsome
  · exact h.silent htext houtput nofun htexts houtputs
  · exact h.silent htext houtput nofun htexts houtputs
  · exact h.silent htext houtput nofun htexts houtputs
  · exact absurd hloop (not_or.2 ⟨hmay, hsome⟩)

/-- An attempt leaves a connection and no exception exactly if it is sound. -/
theorem soundAttempt_iff : SoundAttempt env s ↔
    (∃ b, (connect env s.connection).2 = .ok b) ∧ (connect env s.connection).1.isSome := by
  unfold SoundAttempt connect
  cases hnew : newConnection env with
  | ok c =>
    dsimp only
    unfold CDASimConnection.connect
    split_ifs with hsensors
    · exact iff_of_true hsensors ⟨⟨_, rfl⟩, rfl⟩
    · exact iff_of_false hsensors fun h => h.1.elim fun _ hb => nomatch hb
  | error e =>
    cases e with
    | TmxException => exact (and_iff_right ⟨_, rfl⟩).symm
    | invalid_argument => exact (and_iff_right ⟨_, rfl⟩).symm
    | _ => exact iff_of_false id fun h => h.1.elim fun _ hb => nomatch hb

theorem attempt_iff (h : Survives read_json tr s) :
    Survives read_json (tr ++ [.attempt env]) (s.attempt max_connection_attempts env n) ↔ SoundAttempt env s := by
  rw [soundAttempt_iff]
  unfold State.attempt
  dsimp only
  cases hresult : (connect env s.connection).2 with
  | error e => exact iff_of_false survives_fail fun h => h.1.elim fun _ hb => nomatch hb
  | ok b =>
    dsimp only
    split_ifs with hsome
    · exact iff_of_true (loop_silent h rfl rfl (.inr hsome) rfl rfl) ⟨⟨b, rfl⟩, hsome⟩
    · exact iff_of_false survives_fail fun h => hsome h.2

/-! ### Runs -/

theorem dereference_eq (h : s.connected = true) : s.dereference t = t := by
  unfold State.connected at h
  cases hc : s.connection with
  | none => rw [hc] at h; nomatch h
  | some c => rw [State.dereference, hc, Option.isSome_some, if_pos rfl]

theorem mayAttempt_zero : mayAttempt max_connection_attempts 0 := by
  unfold mayAttempt
  omega

/-- Everything a step can do. -/
theorem step_cases {e : Event} (h : step max_connection_attempts read_json s e = some t) :
    (e = .registered ∧ t = s.loop max_connection_attempts 0) ∨
      (∃ env n, e = .attempt env ∧ t = s.attempt max_connection_attempts env n) ∨
      s.phase = .listening ∧ ((∃ r, e = .timeSyncTick r ∧ t = s.dereference (s.attempt_time_sync read_json r)) ∨
        (∃ r, e = .sensorTick r ∧ t = s.dereference (s.sensorLambda read_json r)) ∨
        (∃ r sent, e = .fromSimulationTick r sent ∧ t = s.dereference (s.forward .toV2xHub r sent)) ∨
        ∃ r sent, e = .fromV2xHubTick r sent ∧ t = s.dereference (s.forward .toSimulation r sent)) := by
  cases e with
  | registered =>
    dsimp only [step] at h
    cases hphase : s.phase <;> rw [hphase] at h <;>
      first | exact .inl ⟨rfl, (Option.some.inj h).symm⟩ | nomatch h
  | attempt env =>
    dsimp only [step] at h
    cases hphase : s.phase with
    | connecting n =>
      rw [hphase] at h
      exact .inr (.inl ⟨env, n, rfl, (Option.some.inj h).symm⟩)
    | _ => rw [hphase] at h; nomatch h
  | timeSyncTick r =>
    dsimp only [step] at h
    cases hphase : s.phase with
    | listening =>
      rw [hphase] at h
      exact .inr (.inr ⟨rfl, .inl ⟨r, rfl, (Option.some.inj h).symm⟩⟩)
    | _ => rw [hphase] at h; nomatch h
  | sensorTick r =>
    dsimp only [step] at h
    cases hphase : s.phase with
    | listening =>
      rw [hphase] at h
      exact .inr (.inr ⟨rfl, .inr (.inl ⟨r, rfl, (Option.some.inj h).symm⟩)⟩)
    | _ => rw [hphase] at h; nomatch h
  | fromSimulationTick r sent =>
    dsimp only [step] at h
    cases hphase : s.phase with
    | listening =>
      rw [hphase] at h
      exact .inr (.inr ⟨rfl, .inr (.inr (.inl ⟨r, sent, rfl, (Option.some.inj h).symm⟩))⟩)
    | _ => rw [hphase] at h; nomatch h
  | fromV2xHubTick r sent =>
    dsimp only [step] at h
    cases hphase : s.phase with
    | listening =>
      rw [hphase] at h
      exact .inr (.inr ⟨rfl, .inr (.inr (.inr ⟨r, sent, rfl, (Option.some.inj h).symm⟩))⟩)
    | _ => rw [hphase] at h; nomatch h

theorem survives_step {e : Event} (h : Inv read_json tr s) (hstep : step max_connection_attempts read_json s e = some t) :
    Survives read_json (tr ++ [e]) t ↔ Sound read_json s e := by
  obtain ⟨rfl, rfl⟩ | ⟨env, n, rfl, rfl⟩ | ⟨hphase, htick⟩ := step_cases hstep
  · exact iff_of_true (loop_silent h.toSurvives rfl rfl (.inl mayAttempt_zero) rfl rfl) trivial
  · exact attempt_iff h.toSurvives
  · have hconnected := h.connected hphase
    obtain ⟨r, rfl, rfl⟩ | ⟨r, rfl, rfl⟩ | ⟨r, sent, rfl, rfl⟩ | ⟨r, sent, rfl, rfl⟩ := htick
    · rw [dereference_eq hconnected]
      exact attempt_time_sync_iff h.toSurvives
    · rw [dereference_eq hconnected]
      exact sensorLambda_iff h.toSurvives
    · rw [dereference_eq hconnected]
      exact forward_iff h.toSurvives rfl rfl
    · rw [dereference_eq hconnected]
      exact forward_iff h.toSurvives rfl rfl

/-! ### The connection -/

theorem connection_contents : (s.contents read_json broadcast text).connection = s.connection := by
  unfold State.contents
  cases read_json text <;> rfl

theorem connection_attempt_time_sync : (s.attempt_time_sync read_json r).connection = s.connection := by
  unfold State.attempt_time_sync
  cases consume_server_message r with
  | text text => exact connection_contents
  | _ => rfl

theorem connection_sensorLambda : (s.sensorLambda read_json r).connection = s.connection := by
  unfold State.sensorLambda
  cases consume_server_message r with
  | text text => exact connection_contents
  | _ => rfl

theorem connection_forward : (s.forward output r sent).connection = s.connection := by
  unfold State.forward
  cases consume_hex_server_message r with
  | text msg => cases sent <;> rfl
  | _ => rfl

/-- A tick leaves the connection as it is. -/
theorem connected_step {e : Event} (h : Inv read_json tr s) (hstep : step max_connection_attempts read_json s e = some t)
    (hlistening : t.phase = .listening) : t.connected = true := by
  obtain ⟨rfl, rfl⟩ | ⟨env, n, rfl, rfl⟩ | ⟨hphase, htick⟩ := step_cases hstep
  · exact loop_listening hlistening
  · unfold State.attempt at hlistening ⊢
    dsimp only at hlistening ⊢
    cases hresult : (connect env s.connection).2 with
    | error e =>
      rw [hresult] at hlistening
      nomatch hlistening
    | ok b =>
      rw [hresult] at hlistening
      dsimp only at hlistening ⊢
      split_ifs at hlistening ⊢ with hsome
      · exact loop_listening hlistening
      · nomatch hlistening
  · have hconnected := h.connected hphase
    have hkeep : ∀ u : State, u.connection = s.connection → u.connected = true := by
      intro u hu
      rw [State.connected, hu]
      exact hconnected
    obtain ⟨r, rfl, rfl⟩ | ⟨r, rfl, rfl⟩ | ⟨r, sent, rfl, rfl⟩ | ⟨r, sent, rfl, rfl⟩ := htick
    · rw [dereference_eq hconnected]
      exact hkeep _ connection_attempt_time_sync
    · rw [dereference_eq hconnected]
      exact hkeep _ connection_sensorLambda
    · rw [dereference_eq hconnected]
      exact hkeep _ connection_forward
    · rw [dereference_eq hconnected]
      exact hkeep _ connection_forward

theorem inv_init : Inv read_json [] State.init where
  alive _ := nofun
  texts := rfl
  outputs := rfl
  connected := nofun

/-! ### Runs -/

/-- In every state of a run nothing has failed, every text is what was received and every well-formed datagram has been
handled, if and only if every step of the run is sound: for any setting of the attempts, any parser of JSON and any sequence
of attempts, datagrams and errors. -/
theorem simulation_input (max_connection_attempts : Int) (read_json : Str → Option Ptree) {es : List Event}
    (h : (adapter max_connection_attempts read_json).exec State.init es = some s) :
    (∀ tr t, tr <+: es → (adapter max_connection_attempts read_json).exec State.init tr = some t → Survives read_json tr t) ↔
      (adapter max_connection_attempts read_json).Meets (Sound read_json) State.init es :=
  Machine.always_iff_meets (M := adapter max_connection_attempts read_json) inv_init
    (fun _ _ _ _ hinv hsound hstep => ⟨(survives_step hinv hstep).2 hsound, connected_step hinv hstep⟩)
    (fun _ _ hinv => hinv.toSurvives) (fun _ _ _ _ hinv hstep hsurvives => (survives_step hinv hstep).1 hsurvives) h

instance decidableReadable : Decidable (Readable read_json r) := inferInstanceAs (Decidable (_ ∧ _ ∧ _))

instance decidableSoundAttempt : Decidable (SoundAttempt env s) := by
  unfold SoundAttempt
  cases newConnection env with
  | ok c => exact inferInstanceAs (Decidable (_ = true))
  | error e =>
    cases e with
    | TmxException => exact inferInstanceAs (Decidable (_ = true))
    | invalid_argument => exact inferInstanceAs (Decidable (_ = true))
    | _ => exact .isFalse id

instance decidableSound (s : State) (e : Event) : Decidable (Sound read_json s e) :=
  match e with
  | .registered => .isTrue trivial
  | .attempt _ => decidableSoundAttempt
  | .timeSyncTick r => inferInstanceAs (Decidable (r.bytes = [] ∨ Readable read_json r))
  | .sensorTick r => inferInstanceAs (Decidable (r.bytes ≠ [] ∧ Readable read_json r))
  | .fromSimulationTick r sent => inferInstanceAs (Decidable (r.bytes = [] ∨ sent = true))
  | .fromV2xHubTick r sent => inferInstanceAs (Decidable (r.bytes = [] ∨ sent = true))

/-- An environment with every variable set, where the handshake is sent or not. -/
def machine (handshake : Bool) : Environment where
  simulationMode := true
  getenv
    | .SIMULATION_IP => some (CString.lit "127.0.0.1")
    | .LOCAL_IP => some (CString.lit "127.0.0.1")
    | .SIMULATION_REGISTRATION_PORT => some (CString.lit "6767")
    | .TIME_SYNC_PORT => some (CString.lit "7575")
    | .SIM_INTERACTION_PORT => some (CString.lit "7576")
    | .V2X_PORT => some (CString.lit "8686")
    | .SIM_V2X_PORT => some (CString.lit "5757")
    | .INFRASTRUCTURE_ID => some (CString.lit "rsu_1234")
    | .SENSOR_JSON_FILE_PATH => some (CString.lit "/var/www/plugins/MAP/sensors.json")
  sensors := true
  handshake
  setup := true

/-- One text and its tree. -/
def readTimeStep (text : Str) : Option Ptree :=
  if text = CString.lit "\x7b\"timestep\":\"100\"\x7d" then
    some (.node [] [(CString.lit "timestep", .node (CString.lit "100") [])])
  else none

/-- Two attempts, a time step and an empty datagram of the time synchronisation. -/
def oneTimeStep : List Event :=
  [.registered, .attempt (machine false), .attempt (machine true),
    .timeSyncTick (.datagram (CString.lit "\x7b\"timestep\":\"100\"\x7d")), .timeSyncTick (.datagram [])]

theorem simulation_input_time_step :
    ∃ s, (adapter 3 readTimeStep).exec State.init oneTimeStep = some s ∧ Survives readTimeStep oneTimeStep s := by
  have hexec : (adapter 3 readTimeStep).exec State.init oneTimeStep = some _ := rfl
  exact ⟨_, hexec, (simulation_input 3 readTimeStep hexec).2 (by decide +kernel) _ _ (List.prefix_refl _) hexec⟩

/-- The first attempt finds a variable unset; and the sensor timer receives an empty datagram. -/
theorem simulation_input_fails :
    (∃ s, (adapter 3 readTimeStep).exec State.init [.registered, .attempt { machine true with getenv := fun _ => none }] = some s ∧
      s.phase = .failed .nullConnection) ∧
    ∃ s, (adapter 3 readTimeStep).exec State.init [.registered, .attempt (machine true), .sensorTick (.datagram [])] = some s ∧
      s.phase = .failed (.escaped .UdpServerRuntimeError) :=
  ⟨⟨_, rfl, rfl⟩, _, rfl, rfl⟩

end V2xHub.CDASimAdapter
