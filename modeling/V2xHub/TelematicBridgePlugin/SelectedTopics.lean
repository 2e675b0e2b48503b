import V2xHub.Lib.Machine
import V2xHub.JsonCpp.Value

/-!
# The selected topics of the telematic bridge

`TelematicUnit::onSelectedTopicsCallback` on the NATS thread, which handles one request after the other, and
`TelematicBridgePlugin::OnMessageReceived` on the thread of the plugin. The statements of the callback that change
`_selectedTopics` are steps of their own, and so are the start and the end of a search of the list: `inSelectedTopics`
reads the end of the list before it goes over the elements and again behind them, without a lock. A list that changes in
between is read behind its end or where it was freed, which is undefined. An exception that leaves the callback ends the
program.

A request is valid if it is JSON with an array of topics that JsonCpp converts to strings; numbers, booleans and null are
converted too.
-/

namespace V2xHub.TelematicBridgePlugin
open JsonCpp JsonCpp.Value

/-- A message on the topic of the replier. The text is taken as what the parser makes of it, `none` if it throws or finds
no JSON. -/
structure Request where
  hasReply : Bool
  root : Option Value

inductive Thrown where
  | TelematicBridgeException
  | Json (exception : JsonCpp.Exception)
deriving DecidableEq

/-- Where the callback is. The iterator is what it has yet to go over. -/
inductive Phase where
  | idle
  | clear (topics : List Value)
  | add (itr : List Value)

structure State where
  selectedTopics : List Str
  phase : Phase
  /-- The exception that left the callback. -/
  escaped : Option Thrown
  /-- The topic of the message that the list is searched for. -/
  searching : Option Str
  /-- The list was changed while it was searched. -/
  torn : Bool
  /-- The topics of the messages that were offered, with whether they were published. -/
  offered : List (Str × Bool)

def State.init : State := ⟨[], .idle, none, none, false, []⟩

inductive Event where
  | request (request : Request)
  /-- `clearSelectedTopics` -/
  | clear
  /-- `addSelectedTopic` -/
  | add
  | reply
  /-- `OnMessageReceived`, up to the search and behind it. -/
  | search (topic : Str)
  | searched

/-- The values of `root["topics"]`, if it is an array, in front of the loop. -/
def topicsOf (root : Value) : Except JsonCpp.Exception (Option (List Value)) := do
  if ← root.isMember "topics" then
    let topics ← root.member "topics"
    if topics.isArray then return some topics.elements else return none
  else return none

namespace State

def inSelectedTopics (s : State) (topic : Str) : Bool := topic ∈ s.selectedTopics

def change (s : State) (topics : List Str) : State :=
  { s with selectedTopics := topics, torn := s.torn || (s.searching.isSome && decide (topics ≠ s.selectedTopics)) }

/-- What is thrown ends the callback. -/
def escape (s : State) (e : Thrown) : State := { s with escaped := some e }

/-- The callback up to the first change. -/
def onSelectedTopicsCallback (s : State) (request : Request) : State :=
  if request.hasReply then
    match request.root with
    | none => s.escape .TelematicBridgeException
    | some root =>
      match topicsOf root with
      | .error e => s.escape (.Json e)
      | .ok none => { s with phase := .add [] }
      | .ok (some topics) => { s with phase := .clear topics }
  else s

variable (valueToString : Double → Str)

def addSelectedTopic (s : State) (topic : Value) (itr : List Value) : State :=
  match topic.asString valueToString with
  | .error e => s.escape (.Json e)
  | .ok text => { s.change (s.selectedTopics ++ [text]) with phase := .add itr }

def step (s : State) (e : Event) : Option State :=
  match s.escaped, s.phase, e with
  | some _, _, _ => none
  | none, .idle, .request request => some (s.onSelectedTopicsCallback request)
  | none, .clear topics, .clear => some { s.change [] with phase := .add topics }
  | none, .add (topic :: itr), .add => some (s.addSelectedTopic valueToString topic itr)
  | none, .add [], .reply => some { s with phase := .idle }
  | none, _, .search topic => if s.searching = none then some { s with searching := some topic } else none
  | none, _, .searched => s.searching.map fun topic =>
    { s with searching := none, offered := s.offered ++ [(topic, s.inSelectedTopics topic)] }
  | _, _, _ => none

end State

def unit (valueToString : Double → Str) : Machine State Event := ⟨State.init, State.step valueToString⟩

/-! ### What was asked for -/

/-- The array in a request that is answered. -/
def Request.array (r : Request) : Option (List Value) :=
  if r.hasReply then r.root.bind fun root => (topicsOf root).toOption.join else none

/-- The list in a valid request. -/
def Request.topics (valueToString : Double → Str) (r : Request) : Option (List Str) :=
  r.array.bind fun topics => (topics.mapM (asString valueToString)).toOption

/-- The selection as the requests leave it, and the request that is being handled. -/
structure History where
  selection : List Str
  request : Option Request

namespace History

def start : History := ⟨[], none⟩

def after (valueToString : Double → Str) (h : History) : Event → History
  | .request r => if r.hasReply then { h with request := some r } else h
  | .reply => ⟨((h.request.bind (Request.topics valueToString)).getD h.selection), none⟩
  | _ => h

/-- The list is the one before the change or the one after it. -/
def Either (valueToString : Double → Str) (h : History) (topics : List Str) : Prop :=
  topics = h.selection ∨ h.request.bind (Request.topics valueToString) = some topics

end History

section
variable (valueToString : Double → Str)

def history (es : List Event) : History := es.foldl (History.after valueToString) .start

structure Atomic (es : List Event) (s : State) : Prop where
  escaped : s.escaped = none
  /-- No search is undefined. -/
  defined : s.torn = false
  /-- The selection changes from the old list to the list in the request. -/
  selected : (history valueToString es).Either valueToString s.selectedTopics
  /-- In one step. -/
  once : ∀ es' e s', es = es' ++ [e] → (unit valueToString).exec (unit valueToString).init es' = some s' →
    s'.selectedTopics ≠ s.selectedTopics → s'.selectedTopics = (history valueToString es').selection
  /-- And has changed when the request has been handled. -/
  done : s.phase = .idle → s.selectedTopics = (history valueToString es).selection
  offered : ∀ es' s' topic, es = es' ++ [.searched] → (unit valueToString).exec (unit valueToString).init es' = some s' →
    s'.searching = some topic → ∃ topics, (history valueToString es').Either valueToString topics ∧
      s.offered.getLast? = some (topic, decide (topic ∈ topics))

/-- The request is JSON, an object or null; only an empty list replaces another list, and a list of one topic the empty one, and
neither while the list is searched. -/
def Sound (s : State) : Event → Prop
  | .request r => r.hasReply → ∃ root, r.root = some root ∧ root.Indexable
  | .clear => s.selectedTopics = [] ∨ s.phase = .clear [] ∧ s.searching = none
  | .add => (∃ topic, s.phase = .add [topic] ∧ Succeeds (topic.asString valueToString)) ∧ s.searching = none
  | _ => True

end

variable {valueToString : Double → Str} {h : History} {s t : State} {e : Event} {r : Request} {es : List Event}

@[simp] theorem history_concat : history valueToString (es ++ [e]) = (history valueToString es).after valueToString e :=
  List.foldl_append

/-! ### Requests -/

theorem succeeds_topicsOf {root : Value} : Succeeds (topicsOf root) ↔ root.Indexable := by
  refine succeeds_isMember_bind.trans (and_iff_left_of_imp fun hroot => ?_)
  split
  · refine succeeds_member_bind.2 ⟨hroot, ?_⟩
    split
    · exact succeeds_pure
    · exact succeeds_pure
  · exact succeeds_pure

theorem array_of_ok {root : Value} {topics : Option (List Value)} (hreply : r.hasReply = true) (hroot : r.root = some root)
    (htopics : topicsOf root = .ok topics) : r.array = topics := by
  rw [Request.array, if_pos hreply, hroot, Option.bind_some, htopics]
  cases topics with
  | none => rfl
  | some topics => rfl

theorem topics_of_array {array : List Value} (harray : r.array = some array) :
    r.topics valueToString = (array.mapM (asString valueToString)).toOption := by
  rw [Request.topics, harray, Option.bind_some]

theorem topics_nil (harray : r.array = some []) : r.topics valueToString = some [] := topics_of_array harray

theorem topics_one {topic : Value} {text : Str} (harray : r.array = some [topic])
    (htext : topic.asString valueToString = .ok text) : r.topics valueToString = some [text] := by
  rw [topics_of_array harray, List.mapM_cons, htext]
  rfl

/-- A list with more topics is not the list of the first one. -/
theorem topics_cons {topic : Value} {itr : List Value} {texts : List Str} (harray : r.array = some (topic :: itr))
    (htopics : r.topics valueToString = some texts) : texts.length = itr.length + 1 := by
  rw [topics_of_array harray] at htopics
  have hlength : ∀ {l : List Value} {texts : List Str}, l.mapM (asString valueToString) = .ok texts →
      texts.length = l.length := by
    intro l
    induction l with
    | nil =>
      intro texts h
      obtain rfl := Except.ok.inj h
      rfl
    | cons v l ih =>
      intro texts h
      rw [List.mapM_cons] at h
      obtain ⟨text, -, h⟩ := bind_eq_ok.1 h
      obtain ⟨rest, hrest, h⟩ := bind_eq_ok.1 h
      obtain rfl := Except.ok.inj h
      rw [List.length_cons, List.length_cons, ih hrest]
  cases hmap : (topic :: itr).mapM (asString valueToString) with
  | error e =>
    rw [hmap] at htopics
    exact nomatch htopics
  | ok texts' =>
    rw [hmap] at htopics
    obtain rfl := Option.some.inj htopics
    exact hlength hmap

/-! ### The invariant -/

/-- Where the callback is when the selection is `topics`. -/
inductive At (valueToString : Double → Str) (h : History) (topics : List Str) : Phase → Prop
  | idle (hrequest : h.request = none) (htopics : topics = h.selection) : At valueToString h topics .idle
  | clear (r : Request) (array : List Value) (hrequest : h.request = some r) (harray : r.array = some array)
    (htopics : topics = h.selection) : At valueToString h topics (.clear array)
  | unchanged (r : Request) (hrequest : h.request = some r) (harray : r.array = none) (htopics : topics = h.selection) :
    At valueToString h topics (.add [])
  | cleared (r : Request) (array : List Value) (hrequest : h.request = some r) (harray : r.array = some array)
    (htopics : topics = []) (hselection : h.selection = [] ∨ array = []) : At valueToString h topics (.add array)
  | added (r : Request) (topic : Value) (text : Str) (hrequest : h.request = some r) (harray : r.array = some [topic])
    (htext : topic.asString valueToString = .ok text) (htopics : topics = [text]) (hselection : h.selection = []) :
    At valueToString h topics (.add [])

structure Inv (valueToString : Double → Str) (h : History) (s : State) : Prop where
  escaped : s.escaped = none
  defined : s.torn = false
  at_phase : At valueToString h s.selectedTopics s.phase

theorem At.either {topics : List Str} {phase : Phase} (hat : At valueToString h topics phase) :
    h.Either valueToString topics := by
  cases hat with
  | idle _ htopics | clear _ _ _ _ htopics | unchanged _ _ _ htopics => exact .inl htopics
  | cleared r array hrequest harray htopics hselection =>
    rcases hselection with hselection | rfl
    · exact .inl (htopics.trans hselection.symm)
    · refine .inr ?_
      rw [hrequest, Option.bind_some, topics_nil harray, htopics]
  | added r topic text hrequest harray htext htopics hselection =>
    refine .inr ?_
    rw [hrequest, Option.bind_some, topics_one harray htext, htopics]

theorem Inv.request (hinv : Inv valueToString h s) (hphase : s.phase = .idle)
    (hsound : r.hasReply → ∃ root, r.root = some root ∧ root.Indexable) :
    Inv valueToString (h.after valueToString (.request r)) (s.onSelectedTopicsCallback r) := by
  obtain ⟨hescaped, hdefined, hat⟩ := hinv
  rw [hphase] at hat
  cases hat with
  | idle hrequest htopics =>
    rw [History.after, State.onSelectedTopicsCallback]
    split_ifs with hreply
    · obtain ⟨root, hroot, hindexable⟩ := hsound hreply
      obtain ⟨topics, hok⟩ := succeeds_topicsOf.2 hindexable
      have harray := array_of_ok hreply hroot hok
      rw [hroot]
      dsimp only
      rw [hok]
      cases topics with
      | none => exact ⟨hescaped, hdefined, .unchanged r rfl harray htopics⟩
      | some topics => exact ⟨hescaped, hdefined, .clear r topics rfl harray htopics⟩
    · refine ⟨hescaped, hdefined, ?_⟩
      rw [hphase]
      exact .idle hrequest htopics

/-- The conversion of one topic. -/
theorem add_ok {topic : Value} {itr : List Value} {text : Str} (htext : topic.asString valueToString = .ok text) :
    s.addSelectedTopic valueToString topic itr =
      { s.change (s.selectedTopics ++ [text]) with phase := .add itr } := by
  rw [State.addSelectedTopic, htext]

theorem add_error {topic : Value} {itr : List Value} {ex : JsonCpp.Exception}
    (htext : topic.asString valueToString = .error ex) : s.addSelectedTopic valueToString topic itr = s.escape (.Json ex) := by
  rw [State.addSelectedTopic, htext]

/-- A change is torn where it changes the list that is searched. -/
theorem torn_change {topics : List Str} (h : s.torn = false) :
    (s.change topics).torn = false ↔ s.searching = none ∨ topics = s.selectedTopics := by
  rw [State.change, h]
  cases s.searching <;> simp

/-- What a step can be. -/
inductive Steps (valueToString : Double → Str) (s : State) : Event → State → Prop
  | request (r : Request) (hphase : s.phase = .idle) :
    Steps valueToString s (.request r) (s.onSelectedTopicsCallback r)
  | clear (topics : List Value) (hphase : s.phase = .clear topics) :
    Steps valueToString s .clear { s.change [] with phase := .add topics }
  | add (topic : Value) (itr : List Value) (hphase : s.phase = .add (topic :: itr)) :
    Steps valueToString s .add (s.addSelectedTopic valueToString topic itr)
  | reply (hphase : s.phase = .add []) : Steps valueToString s .reply { s with phase := .idle }
  | search (topic : Str) : Steps valueToString s (.search topic) { s with searching := some topic }
  | searched (topic : Str) (hsearching : s.searching = some topic) :
    Steps valueToString s .searched
      { s with searching := none, offered := s.offered ++ [(topic, s.inSelectedTopics topic)] }

theorem steps_of_step (hstep : s.step valueToString e = some t) : s.escaped = none ∧ Steps valueToString s e t := by
  obtain ⟨selectedTopics, phase, escaped, searching, torn, offered⟩ := s
  unfold State.step at hstep
  dsimp only at hstep
  split at hstep
  · exact nomatch hstep
  · obtain rfl := Option.some.inj hstep
    exact ⟨rfl, .request _ rfl⟩
  · obtain rfl := Option.some.inj hstep
    exact ⟨rfl, .clear _ rfl⟩
  · obtain rfl := Option.some.inj hstep
    exact ⟨rfl, .add _ _ rfl⟩
  · obtain rfl := Option.some.inj hstep
    exact ⟨rfl, .reply rfl⟩
  · obtain ⟨-, hstep⟩ := Option.ite_none_right_eq_some.1 hstep
    obtain rfl := Option.some.inj hstep
    exact ⟨rfl, .search _⟩
  · obtain ⟨topic, hsearching, rfl⟩ := Option.map_eq_some_iff.1 hstep
    exact ⟨rfl, .searched topic hsearching⟩
  · exact nomatch hstep

theorem Inv.step (hinv : Inv valueToString h s) (hsound : Sound valueToString s e)
    (hsteps : Steps valueToString s e t) : Inv valueToString (h.after valueToString e) t := by
  cases hsteps with
  | request r hphase => exact hinv.request hphase hsound
  | clear topics hphase =>
    obtain ⟨hescaped, hdefined, hat⟩ := hinv
    refine ⟨hescaped, (torn_change hdefined).2 (hsound.symm.imp And.right Eq.symm), ?_⟩
    rw [hphase] at hat
    cases hat with
    | clear r array hrequest harray htopics =>
      refine .cleared r topics hrequest harray rfl ?_
      rcases hsound with hempty | ⟨htopics, -⟩
      · exact .inl (htopics.symm.trans hempty)
      · exact .inr (Phase.clear.inj (hphase.symm.trans htopics))
  | add topic itr hphase =>
    obtain ⟨hescaped, hdefined, hat⟩ := hinv
    obtain ⟨⟨topic', hone, text, htext⟩, hsearching⟩ := hsound
    obtain ⟨rfl, rfl⟩ := List.cons.inj (Phase.add.inj (hphase.symm.trans hone))
    rw [add_ok htext]
    refine ⟨hescaped, (torn_change hdefined).2 (.inl hsearching), ?_⟩
    rw [hphase] at hat
    cases hat with
    | cleared r array hrequest harray htopics hselection =>
      have hselection : h.selection = [] := hselection.resolve_right (List.cons_ne_nil _ _)
      refine .added r topic text hrequest harray htext ?_ hselection
      show s.selectedTopics ++ [text] = [text]
      rw [htopics]
      rfl
  | reply hphase =>
    obtain ⟨hescaped, hdefined, hat⟩ := hinv
    refine ⟨hescaped, hdefined, .idle rfl ?_⟩
    rw [hphase] at hat
    dsimp only [History.after]
    cases hat with
    | unchanged r hrequest harray htopics =>
      rw [hrequest, Option.bind_some, Request.topics, harray, htopics]
      rfl
    | cleared r array hrequest harray htopics hselection =>
      rw [hrequest, Option.bind_some, topics_nil harray, htopics]
      rfl
    | added r topic text hrequest harray htext htopics hselection =>
      rw [hrequest, Option.bind_some, topics_one harray htext, htopics]
      rfl
  | search topic => exact ⟨hinv.escaped, hinv.defined, hinv.at_phase⟩
  | searched topic hsearching => exact ⟨hinv.escaped, hinv.defined, hinv.at_phase⟩

/-! ### Runs -/

/-- The list that a step replaces is the selection of the requests. -/
theorem Steps.old (hsteps : Steps valueToString s e t) (hinv : Inv valueToString h s) (hsound : Sound valueToString s e)
    (hchange : s.selectedTopics ≠ t.selectedTopics) : s.selectedTopics = h.selection := by
  obtain ⟨-, -, hat⟩ := hinv
  cases hsteps with
  | request r hphase =>
    rw [hphase] at hat
    cases hat with
    | idle hrequest htopics => exact htopics
  | clear topics hphase =>
    rw [hphase] at hat
    cases hat with
    | clear r array hrequest harray htopics => exact htopics
  | add topic itr hphase =>
    rw [hphase] at hat
    cases hat with
    | cleared r array hrequest harray htopics hselection =>
      exact htopics.trans (hselection.resolve_right (List.cons_ne_nil _ _)).symm
  | reply hphase => exact absurd rfl hchange
  | search topic => exact absurd rfl hchange
  | searched topic hsearching => exact absurd rfl hchange

theorem inv_init : Inv valueToString .start .init := ⟨rfl, rfl, .idle rfl rfl⟩

theorem Inv.done (hinv : Inv valueToString h s) (hphase : s.phase = .idle) : s.selectedTopics = h.selection := by
  obtain ⟨-, -, hat⟩ := hinv
  rw [hphase] at hat
  cases hat with
  | idle hrequest htopics => exact htopics

theorem atomic_init : Atomic valueToString [] (unit valueToString).init where
  escaped := rfl
  defined := rfl
  selected := .inl rfl
  once es' e s' h := absurd h (by simp)
  done _ := rfl
  offered es' s' topic h := absurd h (by simp)

theorem atomic_step (hexec : (unit valueToString).exec (unit valueToString).init es = some s)
    (hinv : Inv valueToString (history valueToString es) s) (hsound : Sound valueToString s e)
    (hstep : s.step valueToString e = some t) :
    Inv valueToString (history valueToString (es ++ [e])) t ∧ Atomic valueToString (es ++ [e]) t := by
  obtain ⟨-, hsteps⟩ := steps_of_step hstep
  have hnext : Inv valueToString (history valueToString (es ++ [e])) t := by
    rw [history_concat]
    exact hinv.step hsound hsteps
  refine ⟨hnext, hnext.escaped, hnext.defined, hnext.at_phase.either, ?_, hnext.done, ?_⟩
  · intro es' e' s' heq hexec' hchange
    obtain ⟨rfl, -⟩ := List.append_singleton_inj.1 heq
    obtain rfl := Option.some.inj (hexec.symm.trans hexec')
    exact hsteps.old hinv hsound hchange
  · intro es' s' topic heq hexec' hsearching'
    obtain ⟨rfl, rfl⟩ := List.append_singleton_inj.1 heq
    obtain rfl := Option.some.inj (hexec.symm.trans hexec')
    cases hsteps with
    | searched topic' hsearching =>
      obtain rfl := Option.some.inj (hsearching.symm.trans hsearching')
      exact ⟨s.selectedTopics, hinv.at_phase.either, List.getLast?_concat⟩

/-- A callback that throws, a list that is emptied and not asked to be, a list that is filled in several steps or changed while
it is searched. -/
theorem sound_of_atomic (hinv : Inv valueToString (history valueToString es) s) (hstep : s.step valueToString e = some t)
    (hatomic : Atomic valueToString (es ++ [e]) t) : Sound valueToString s e := by
  obtain ⟨-, hsteps⟩ := steps_of_step hstep
  have hselected := hatomic.selected
  rw [history_concat] at hselected
  have hdefined := hatomic.defined
  obtain ⟨-, hs, hat⟩ := hinv
  cases hsteps with
  | request r hphase =>
    intro hreply
    have hescaped := hatomic.escaped
    rw [State.onSelectedTopicsCallback, if_pos hreply] at hescaped
    cases hroot : r.root with
    | none =>
      rw [hroot] at hescaped
      exact nomatch hescaped
    | some root =>
      refine ⟨root, rfl, succeeds_topicsOf.1 ?_⟩
      cases htopics : topicsOf root with
      | ok topics => exact succeeds_ok
      | error ex =>
        rw [hroot] at hescaped
        dsimp only at hescaped
        rw [htopics] at hescaped
        exact nomatch hescaped
  | clear topics hphase =>
    rw [hphase] at hat
    cases hat with
    | clear r array hrequest harray htopics =>
      rcases hselected with hsame | hnew
      · exact .inl (htopics.trans hsame.symm)
      · dsimp only [History.after] at hnew
        rw [hrequest, Option.bind_some] at hnew
        cases topics with
        | nil =>
          rcases (torn_change hs).1 hdefined with hsearching | hempty
          · exact .inr ⟨hphase, hsearching⟩
          · exact .inl hempty.symm
        | cons topic itr => exact nomatch topics_cons harray hnew
  | add topic itr hphase =>
    rw [hphase] at hat
    cases hat with
    | cleared r array hrequest harray htopics hselection =>
      cases htext : topic.asString valueToString with
      | error ex =>
        have hescaped := hatomic.escaped
        rw [add_error htext] at hescaped
        exact nomatch hescaped
      | ok text =>
        rw [add_ok htext] at hselected hdefined
        have hsearching : s.searching = none := ((torn_change hs).1 hdefined).resolve_right (by simp)
        have hone : ({ s.change (s.selectedTopics ++ [text]) with phase := .add itr } : State).selectedTopics = [text] := by
          show s.selectedTopics ++ [text] = [text]
          rw [htopics]
          rfl
        rw [hone] at hselected
        rcases hselected with hsame | hnew
        · exact nomatch hsame.trans (hselection.resolve_right (List.cons_ne_nil _ _))
        · dsimp only [History.after] at hnew
          rw [hrequest, Option.bind_some] at hnew
          have hlength := topics_cons harray hnew
          obtain rfl : itr = [] := List.length_eq_zero_iff.1 (Nat.succ.inj hlength).symm
          exact ⟨⟨topic, hphase, text, htext⟩, hsearching⟩
  | reply hphase => trivial
  | search topic => trivial
  | searched topic hsearching => trivial

theorem selected_topics (hexec : (unit valueToString).exec (unit valueToString).init es = some s) :
    (∀ es' s', es' <+: es → (unit valueToString).exec (unit valueToString).init es' = some s' →
      Atomic valueToString es' s') ↔ (unit valueToString).Meets (Sound valueToString) (unit valueToString).init es :=
  (unit valueToString).always_iff_meets
    (I := fun es s => (unit valueToString).exec (unit valueToString).init es = some s ∧
      Inv valueToString (history valueToString es) s ∧ Atomic valueToString es s)
    ⟨rfl, inv_init, atomic_init⟩
    (fun _ _ _ _ hinv hsound hstep =>
      ⟨Machine.exec_concat.2 ⟨_, hinv.1, hstep⟩, atomic_step hinv.1 hinv.2.1 hsound hstep⟩)
    (fun _ _ hinv => hinv.2.2) (fun _ _ _ _ hinv hstep hatomic => sound_of_atomic hinv.2.1 hstep hatomic) hexec

/-- The request for one topic. -/
def oneTopic : Request := ⟨true, some (.object [("topics", .array [.string (CString.lit "a")])])⟩

/-- One topic is selected, and a message of it is offered. -/
def selected : List Event :=
  [.request oneTopic, .clear, .add, .reply, .search (CString.lit "a"), .searched]

theorem selected_topics_one : ∃ s, (unit fun _ => []).exec (unit fun _ => []).init selected = some s ∧
    Atomic (fun _ => []) selected s := by
  refine ⟨_, rfl, (selected_topics rfl).2 ?_ _ _ List.prefix_rfl rfl⟩
  refine (Machine.meets_cons_of_step rfl).2 ⟨fun _ => ⟨_, rfl, ?_⟩, (Machine.meets_cons_of_step rfl).2 ⟨.inl rfl,
    (Machine.meets_cons_of_step rfl).2 ⟨⟨⟨_, rfl, ?_⟩, rfl⟩, (Machine.meets_cons_of_step rfl).2 ⟨trivial,
    (Machine.meets_cons_of_step rfl).2 ⟨trivial, (Machine.meets_cons_of_step rfl).2 ⟨trivial, trivial⟩⟩⟩⟩⟩⟩
  · trivial
  · exact ⟨_, rfl⟩

/-- The topic is in the old list and in the new one; a message that is offered in between is not published. And the first topic
comes into the list while that is searched. -/
theorem selected_topics_cleared :
    (∃ s, (unit fun _ => []).exec (unit fun _ => []).init
        (selected ++ [.request oneTopic, .clear, .search (CString.lit "a"), .searched]) = some s ∧
      s.offered.getLast? = some (CString.lit "a", false) ∧
      ¬ Atomic (fun _ => []) (selected ++ [.request oneTopic, .clear, .search (CString.lit "a"), .searched]) s) ∧
    ∃ s, (unit fun _ => []).exec (unit fun _ => []).init [.request oneTopic, .clear, .search (CString.lit "b"), .add] = some s ∧
      ¬ Atomic (fun _ => []) [.request oneTopic, .clear, .search (CString.lit "b"), .add] s := by
  constructor
  · refine ⟨_, rfl, rfl, fun h => ?_⟩
    rcases h.selected with hold | hnew
    · exact absurd hold (by decide)
    · exact absurd hnew (by decide)
  · exact ⟨_, rfl, fun h => absurd h.defined (by decide)⟩

end V2xHub.TelematicBridgePlugin
