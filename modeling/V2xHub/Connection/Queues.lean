import V2xHub.IvpMessage.Basic
import V2xHub.Connection.Channel
import V2xHub.Lib.Machine
import V2xHub.Lib.Threads

/-!
# The two queues of a connection

The receiver thread of a `PluginConnection` routes every message that it has parsed to the slow queue
(status messages and event log entries) or to the fast one, and two processor threads empty the queues.
-/

namespace V2xHub.PluginConnection

inductive Which where
  | fast
  | slow
deriving DecidableEq

/-- The queue that `receiverThread` pushes the message on. -/
def route (msg : IvpMessage) : Which := if msg.isStatusMsg || msg.isEventLogMsg then .slow else .fast

/-- The messages that the core itself handles on the fast queue. -/
def isCoreControl (msg : IvpMessage) : Bool :=
  msg.isRegistrationMsg || msg.isSubscribeMsg || msg.isConfigMsg

/-- Both queues, and where the receiver is with the message that it has parsed last. -/
structure Queues where
  channel : Which → Channel IvpMessage
  receiver : Option (Which × Handing IvpMessage)

/-- The receiver parses a message or does its next step, a processor does its next step, or it wakes up
without a signal. -/
inductive QueueEvent where
  | parse (msg : IvpMessage)
  | receiver
  | processor (w : Which)
  | spurious (w : Which)

namespace Queues

/-- Where the receiver is, if it is at this queue. -/
def handing (s : Queues) (w : Which) : Option (Handing IvpMessage) :=
  match s.receiver with
  | some (w', h) => if w' = w then some h else none
  | none => none

def step (s : Queues) : QueueEvent → Option Queues
  | .parse msg => if s.receiver.isNone then some { s with receiver := some (route msg, .lockQueue msg) } else none
  | .receiver =>
    match s.receiver with
    | none => none
    | some (w, h) => ((s.channel w).hand h).map fun (ch, h') =>
        ⟨Function.update s.channel w ch, h'.map (w, ·)⟩
  | .processor w => (s.channel w).process.map fun ch => { s with channel := Function.update s.channel w ch }
  | .spurious w => some { s with channel := Function.update s.channel w (s.channel w).wake }

/-- All runs of a connection that is not shut down. -/
def machine : Machine Queues QueueEvent where
  init := ⟨fun _ => .init, none⟩
  step := step

/-- The messages that the receiver has parsed. -/
def parsed (es : List QueueEvent) : List IvpMessage :=
  es.filterMap fun e =>
    match e with
    | .parse msg => some msg
    | _ => none

theorem parsed_append (es fs : List QueueEvent) : parsed (es ++ fs) = parsed es ++ parsed fs :=
  List.filterMap_append

/-- The message that is routed to the queue and not yet pushed. -/
def pending (s : Queues) (w : Which) : List IvpMessage := (s.handing w).elim [] Handing.pending

/-- What a step does to one queue and to the receiver at it. -/
inductive Change (e : QueueEvent) (w : Which) (ch : Channel IvpMessage) (r : Option (Handing IvpMessage)) :
    Channel IvpMessage → Option (Handing IvpMessage) → Prop
  | elsewhere : (∀ msg, e = .parse msg → route msg ≠ w) → Change e w ch r ch r
  | process {ch'} : e = .processor w → ch.process = some ch' → Change e w ch r ch' r
  | spurious : e = .spurious w → Change e w ch r ch.wake r
  | hand {h ch' r'} : e = .receiver → r = some h → ch.hand h = some (ch', r') → Change e w ch r ch' r'
  | parse {msg} : e = .parse msg → route msg = w → r = none → Change e w ch r ch (some (.lockQueue msg))

variable {s s' : Queues} {e : QueueEvent} {es : List QueueEvent} {w : Which}

theorem step_change (hs : s.step e = some s') (w : Which) :
    Change e w (s.channel w) (s.handing w) (s'.channel w) (s'.handing w) := by
  cases e with
  | parse msg =>
    simp only [step] at hs
    split_ifs at hs with hfree
    obtain rfl := Option.some.inj hs
    have hnone : s.handing w = none := by rw [handing, Option.isNone_iff_eq_none.1 hfree]
    by_cases hw : route msg = w
    · have hsome : handing { s with receiver := some (route msg, .lockQueue msg) } w = some (.lockQueue msg) := by
        simp only [handing, if_pos hw]
      rw [hsome]
      exact .parse rfl hw hnone
    · have hnone' : handing { s with receiver := some (route msg, .lockQueue msg) } w = none := by
        simp only [handing, if_neg hw]
      rw [hnone', hnone]
      exact .elsewhere fun m hm => by cases hm; exact hw
  | receiver =>
    simp only [step] at hs
    cases hr : s.receiver with
    | none => simp [hr] at hs
    | some r =>
      obtain ⟨w', h⟩ := r
      simp only [hr, Option.map_eq_some_iff, Prod.exists] at hs
      obtain ⟨ch, h', hhand, rfl⟩ := hs
      by_cases hw : w' = w
      · subst hw
        have hold : s.handing w' = some h := by simp only [handing, hr, if_true]
        have hnew : handing ⟨Function.update s.channel w' ch, h'.map (w', ·)⟩ w' = h' := by
          cases h' <;> simp [handing]
        rw [hnew]
        exact .hand rfl hold (by simpa using hhand)
      · have hold : s.handing w = none := by simp only [handing, hr, if_neg hw]
        have hnew : handing ⟨Function.update s.channel w' ch, h'.map (w', ·)⟩ w = none := by
          cases h' <;> simp [handing, hw]
        have hch : Function.update s.channel w' ch w = s.channel w := Function.update_of_ne (Ne.symm hw) _ _
        show Change _ w _ _ (Function.update s.channel w' ch w) _
        rw [hnew, hold, hch]
        exact .elsewhere fun m hm => by cases hm
  | processor w' =>
    simp only [step, Option.map_eq_some_iff] at hs
    obtain ⟨ch, hproc, rfl⟩ := hs
    by_cases hw : w' = w
    · subst hw
      exact .process rfl (by simpa using hproc)
    · show Change _ w (s.channel w) (s.handing w) (Function.update s.channel w' ch w) (s.handing w)
      rw [Function.update_of_ne (Ne.symm hw)]
      exact .elsewhere fun m hm => by cases hm
  | spurious w' =>
    obtain rfl := Option.some.inj hs
    show Change _ w (s.channel w) (s.handing w) (Function.update s.channel w' (s.channel w').wake w) (s.handing w)
    by_cases hw : w' = w
    · subst hw
      rw [Function.update_self]
      exact .spurious rfl
    · rw [Function.update_of_ne (Ne.symm hw)]
      exact .elsewhere fun m hm => by cases hm

theorem Change.inv {ch ch' : Channel IvpMessage} {r r' : Option (Handing IvpMessage)} (h : Change e w ch r ch' r')
    (hi : ch.Inv r) : ch'.Inv r' := by
  cases h with
  | elsewhere => exact hi
  | process _ hs => exact hi.process hs
  | spurious => exact hi.spurious
  | hand _ hr hs =>
    subst hr
    exact hi.hand hs
  | parse _ _ hr =>
    subst hr
    exact hi.parse

/-- What is pushed or about to be pushed changes with a parsed message only. -/
theorem Change.pushed {ch ch' : Channel IvpMessage} {r r' : Option (Handing IvpMessage)} (h : Change e w ch r ch' r') :
    ch'.pushed ++ r'.elim [] Handing.pending =
      ch.pushed ++ r.elim [] Handing.pending ++ (parsed [e]).filter (route · = w) := by
  cases h with
  | elsewhere hno =>
    cases e with
    | parse msg => simp [parsed, hno msg rfl]
    | _ => simp [parsed]
  | process he hs =>
    subst he
    simp [parsed, Channel.process_pushed hs]
  | spurious he =>
    subst he
    simp [parsed, Channel.wake_pushed]
  | hand he hr hs =>
    subst he hr
    rw [Channel.hand_pushed hs]
    simp [parsed]
  | parse he hw hr =>
    subst he hr
    simp [parsed, hw, Handing.pending]

/-! ### Runs -/

theorem inv_exec (h : machine.exec machine.init es = some s) (w : Which) : (s.channel w).Inv (s.handing w) :=
  Machine.invariant (fun _ => Channel.inv_init) (fun _ _ _ hi hs w => (step_change hs w).inv (hi w)) h w

theorem pushed_exec (h : machine.exec machine.init es = some s) (w : Which) :
    (s.channel w).pushed ++ s.pending w = (parsed es).filter (route · = w) := by
  refine Machine.invariant_trace
    (I := fun es s => (s.channel w).pushed ++ s.pending w = (parsed es).filter (route · = w)) rfl ?_ h
  intro es s e s' hi hs
  show (s'.channel w).pushed ++ (s'.handing w).elim [] Handing.pending = _
  have hi : (s.channel w).pushed ++ (s.handing w).elim [] Handing.pending = _ := hi
  rw [(step_change hs w).pushed, hi, parsed_append, List.filter_append]

/-- The hand-off, in every reachable state and for both queues. A processor that is inside `WaitOne` while
its queue holds a message will not be left there: the flag is set or the receiver is about to set it,
and if the processor sleeps with the flag set, the receiver is about to signal it. What the processor has
processed, what it has in hand and what its queue holds are, in order, the messages pushed on the queue,
and these are, in the order of arrival, the messages routed to it, the one not yet pushed apart: the status
messages and event log entries for the slow queue, all others for the fast one. -/
theorem queue_handoff (es : List QueueEvent) (s : Queues) (h : machine.exec machine.init es = some s) (w : Which) :
    ((s.channel w).processor.waiting = true → (s.channel w).queue ≠ [] →
      (s.channel w).flag = true ∨ (s.handing w).any Handing.aboutToSet = true) ∧
    ((s.channel w).processor = .asleep → (s.channel w).flag = true →
      (s.handing w).any Handing.aboutToSignal = true) ∧
    (s.channel w).processed ++ ((s.channel w).processor.inHand ++ (s.channel w).queue) = (s.channel w).pushed ∧
    (s.channel w).pushed ++ s.pending w = (parsed es).filter (route · = w) := by
  have hi := inv_exec h w
  exact ⟨fun hw => hi.wakeup (Or.inl hw), hi.asleep, hi.order, pushed_exec h w⟩

/-- A message of a client about none of the core's own matters. -/
def ordinaryMsg : IvpMessage := ⟨some (CString.lit "BSM"), none, none, 0, none, 0, 0, none, none⟩

/-- The fast processor goes to sleep, and the receiver pushes a message and sets the flag. -/
theorem queue_handoff_asleep :
    let es : List QueueEvent := List.replicate 4 (.processor .fast) ++
      .parse ordinaryMsg :: List.replicate 5 .receiver
    ∃ s, machine.exec machine.init es = some s ∧
      ((s.channel .fast).flag = true ∨ (s.handing .fast).any Handing.aboutToSet = true) ∧
      (s.handing .fast).any Handing.aboutToSignal = true ∧
      (s.channel .fast).processed ++ ((s.channel .fast).processor.inHand ++ (s.channel .fast).queue) =
        (s.channel .fast).pushed ∧
      (s.channel .fast).pushed ++ s.pending .fast = (parsed es).filter (route · = .fast) := by
  intro es
  have h := queue_handoff es _ rfl .fast
  exact ⟨_, rfl, h.1 rfl (List.cons_ne_nil _ _), h.2.1 rfl rfl, h.2.2⟩

/-- An ordinary message goes to the fast queue too. -/
theorem fast_queue_ordinary : ¬ ∀ (es : List QueueEvent) (s : Queues), machine.exec machine.init es = some s →
    ∀ msg ∈ (s.channel .fast).queue, isCoreControl msg = true := by
  intro h
  have hmem : ordinaryMsg ∈ ((Channel.init : Channel IvpMessage).queue ++ [ordinaryMsg]) := by
    exact List.mem_singleton.2 rfl
  have hcore := h [.parse ordinaryMsg, .receiver, .receiver] _ rfl ordinaryMsg hmem
  revert hcore
  decide

end Queues

end V2xHub.PluginConnection
