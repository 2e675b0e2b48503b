import V2xHub.Lib.CString
import V2xHub.Lib.Machine

/-!
# The Kafka consumer worker

A worker from `init`, whose every step may fail, to its destruction. What Kafka answers is in the events: the error codes,
and messages, which are never null, and of which the payload is a pointer and a length and `behind` is what stands in memory
behind it. `consume` gives a pointer to its caller, who reads a C string there. A run is sound where nothing fails on the way
that the code does not expect (`sound_iff`); the members that only the log shows are left out.
-/

namespace V2xHub.KafkaConsumerWorker

inductive ErrorCode where
  | noError
  | timedOut
  | partitionEof
  | unknownTopic
  | unknownPartition
  | other (code : Int)
deriving DecidableEq

/-- These errors stop the worker. -/
def ErrorCode.fatal : ErrorCode → Bool
  | .unknownPartition => true
  | .other _ => true
  | _ => false

structure Message where
  err : ErrorCode
  payload : Option Str
  behind : Str
  offset : Int

/-- What the steps of `init` give; the results of two further calls are not looked at. -/
structure Outcomes where
  conf : Bool
  bootstrap_server : Bool
  event_cb : Bool
  partition_eof : Bool
  auto_commit : Bool
  group_id : Bool
  consumer : Bool
  tconf : Bool
  topic : Bool

inductive Fault where
  | absentConsumer
  | absentError
deriving DecidableEq

structure Worker where
  _consumer : Bool
  _topic : Bool
  _cur_offset : Int
  _run : Bool
  /-- The calls of `close`. -/
  closed : Nat
  fault : Option Fault
  /-- The process has exited or the worker is destroyed. -/
  ended : Bool
  /-- There was an error that stops the worker. -/
  failed : Bool
  /-- The messages, each with the text that was read for it. -/
  consumed : List (Message × Option Str)

inductive Event where
  | subscribe (err : Bool)
  | consume (message : Message)
  /-- A callback, with the protocol and whether the assignment or its removal failed. -/
  | rebalance_cb (cooperative error : Bool)
  | stop
  | destroy

namespace Worker

/-- The members behind the constructor. -/
def new (cur_offset : Int) : Worker := ⟨false, false, cur_offset, false, 0, none, false, false, []⟩

def init (w : Worker) (o : Outcomes) : Bool × Worker :=
  if !o.conf then (false, w)
  else if !o.bootstrap_server then (false, w)
  else if !o.event_cb then (false, w)
  else if !o.partition_eof then (false, w)
  else if !o.auto_commit then (false, w)
  else if !o.group_id then (false, w)
  else if !o.consumer then (false, { w with _consumer := false })
  else
    let w := { w with _consumer := true }
    if !o.tconf then (false, w)
    else if !o.topic then (false, { w with _topic := false })
    else (true, { w with _topic := true })

def crash (w : Worker) (f : Fault) : Worker := { w with fault := some f }

def stop (w : Worker) : Worker :=
  let w := { w with _run := false }
  if w._consumer then { w with closed := w.closed + 1 } else w.crash .absentConsumer

def subscribe (w : Worker) (err : Bool) : Worker :=
  if w._consumer then
    if err then { w with _run := false, ended := true } else { w with _run := true }
  else w.crash .absentConsumer

/-- The pointer that is returned: the memory from there on, `none` for a null pointer. -/
def msg_consume (w : Worker) (message : Message) : Option Str × Worker :=
  match message.err with
  | .noError => (message.payload.map (· ++ message.behind), { w with _cur_offset := message.offset })
  | .timedOut => (some [0], w)
  | .partitionEof => (some [0], w)
  | .unknownTopic => (some [0], w)
  | .unknownPartition => (some [0], w.stop)
  | .other _ => (some [0], w.stop)

/-- With the log of what the caller reads. -/
def consume (w : Worker) (message : Message) : Worker :=
  if w._consumer then
    let result := w.msg_consume message
    { result.2 with
      failed := w.failed || message.err.fatal
      consumed := w.consumed ++ [(message, result.1.bind CString.read)] }
  else w.crash .absentConsumer

/-- A cooperative protocol gives an error object, the others an error code, and the branch for the code asks the object. -/
def rebalance_cb (w : Worker) (cooperative error : Bool) : Worker :=
  if cooperative then w else if error then w.crash .absentError else w

def destroy (w : Worker) : Worker := { w.stop with ended := true }

def after (w : Worker) : Event → Worker
  | .subscribe err => w.subscribe err
  | .consume message => w.consume message
  | .rebalance_cb cooperative error => w.rebalance_cb cooperative error
  | .stop => w.stop
  | .destroy => w.destroy

/-- Callbacks come from a consumer. -/
def enabled (w : Worker) : Event → Bool
  | .rebalance_cb _ _ => w._consumer
  | _ => true

def step (w : Worker) (e : Event) : Option Worker :=
  if !w.ended && w.fault.isNone && w.enabled e then some (w.after e) else none

end Worker

/-- The life of a worker behind `init`. -/
def worker (cur_offset : Int) (o : Outcomes) : Machine Worker Event := ⟨((Worker.new cur_offset).init o).2, Worker.step⟩

/-! ### What is asked -/

/-- The bytes of the message, none where there was no message. -/
def Message.bytes (m : Message) : Str := if m.err = .noError then m.payload.getD [] else []

structure Worker.Correct (w : Worker) : Prop where
  present : w.fault = none
  exact : ∀ p ∈ w.consumed, p.2 = some p.1.bytes
  stopped : w.failed = true → w._run = false
  once : w.closed ≤ 1

/-- There is a payload, no NUL is in it, and one stands behind it. -/
def Message.Terminated (m : Message) : Prop := ∃ payload, m.payload = some payload ∧ 0 ∉ payload ∧ m.behind.head? = some 0

/-- There is a consumer, which is not closed a second time; payloads are C strings; no worker is subscribed again behind an
error that stopped it; and the callbacks succeed where the protocol is not cooperative. -/
def Worker.Sound (w : Worker) : Event → Prop
  | .subscribe err => w._consumer = true ∧ (err = false → w.failed = false)
  | .consume m => w._consumer = true ∧ (m.err = .noError → m.Terminated) ∧ (m.err.fatal = true → w.closed = 0)
  | .rebalance_cb cooperative error => cooperative = false → error = false
  | .stop => w._consumer = true ∧ w.closed = 0
  | .destroy => w._consumer = true ∧ w.closed = 0

variable {w v : Worker} {e : Event} {m : Message} {p behind : Str}

/-! ### The texts -/

theorem read_eq_self_iff : CString.read (p ++ behind) = some p ↔ 0 ∉ p ∧ behind.head? = some 0 := by
  constructor
  · intro h
    induction p with
    | nil =>
      cases behind with
      | nil => cases h
      | cons b behind =>
        rw [List.nil_append, CString.read] at h
        split_ifs at h with hb
        · exact ⟨List.not_mem_nil, congrArg some hb⟩
        · obtain ⟨s, -, hs⟩ := Option.map_eq_some_iff.mp h
          cases hs
    | cons b p ih =>
      rw [List.cons_append, CString.read] at h
      split_ifs at h with hb
      · cases h
      · obtain ⟨s, hread, hs⟩ := Option.map_eq_some_iff.mp h
        obtain ⟨-, rfl⟩ := List.cons.inj hs
        obtain ⟨hmem, hhead⟩ := ih hread
        exact ⟨fun h0 => (List.mem_cons.mp h0).elim (fun h => hb h.symm) hmem, hhead⟩
  · rintro ⟨hmem, hhead⟩
    obtain ⟨rest, rfl⟩ : ∃ rest, behind = 0 :: rest := List.head?_eq_some_iff.mp hhead
    exact CString.read_append hmem

theorem text_iff : (w.msg_consume m).1.bind CString.read = some m.bytes ↔ (m.err = .noError → m.Terminated) := by
  rw [Worker.msg_consume, Message.bytes]
  cases herr : m.err with
  | noError =>
    simp only [if_true, forall_true_left, Message.Terminated]
    cases m.payload with
    | none => simp
    | some payload =>
      rw [Option.map_some, Option.bind_some, Option.getD_some, read_eq_self_iff]
      simp
  | timedOut | partitionEof | unknownTopic | unknownPartition | other => simp [CString.read]

/-! ### Single steps -/

theorem stop_eq (h : w._consumer = true) : w.stop = { w with _run := false, closed := w.closed + 1 } := by
  rw [Worker.stop]
  exact if_pos h

theorem stop_fault (h : w._consumer = false) : w.stop.fault ≠ none := by
  rw [Worker.stop, if_neg (by simp [h])]
  exact Option.some_ne_none _

/-- A stopped worker is as it was, without its run and with one more call of `close`. -/
theorem correct_stop (hw : w.Correct) (h : w._consumer = true) (hclosed : w.closed = 0) : w.stop.Correct := by
  rw [stop_eq h]
  exact ⟨hw.present, hw.exact, fun _ => rfl, Nat.le_of_eq (congrArg (· + 1) hclosed)⟩

theorem sound_of_correct_stop (h : w.stop.Correct) : w._consumer = true ∧ w.closed = 0 := by
  cases hconsumer : w._consumer with
  | false => exact absurd h.present (stop_fault hconsumer)
  | true =>
    refine ⟨rfl, ?_⟩
    have honce := h.once
    rw [stop_eq hconsumer] at honce
    exact Nat.le_zero.mp (Nat.le_of_succ_le_succ honce)

/-- What `consume` leaves of the worker. -/
theorem msg_consume_snd :
    (w.msg_consume m).2 = if m.err.fatal then w.stop
      else { w with _cur_offset := if m.err = .noError then m.offset else w._cur_offset } := by
  rw [Worker.msg_consume]
  cases m.err <;> rfl

theorem correct_consume (hw : w.Correct) (hsound : w.Sound (.consume m)) : (w.consume m).Correct := by
  obtain ⟨hconsumer, htext, hclosed⟩ := hsound
  rw [Worker.consume, if_pos hconsumer]
  have hlog : ∀ p ∈ w.consumed ++ [(m, (w.msg_consume m).1.bind CString.read)], p.2 = some p.1.bytes := by
    refine List.forall_mem_append.mpr ⟨hw.exact, List.forall_mem_singleton.mpr ?_⟩
    exact text_iff.mpr htext
  have hsnd := msg_consume_snd (w := w) (m := m)
  cases hfatal : m.err.fatal with
  | true =>
    rw [hfatal, if_pos rfl, stop_eq hconsumer] at hsnd
    refine ⟨?_, hlog, fun _ => ?_, ?_⟩
    · exact (congrArg Worker.fault hsnd).trans hw.present
    · exact congrArg Worker._run hsnd
    · have hclosed' : (w.msg_consume m).2.closed = w.closed + 1 := congrArg Worker.closed hsnd
      exact Nat.le_of_eq (hclosed'.trans (congrArg (· + 1) (hclosed hfatal)))
  | false =>
    rw [hfatal, if_neg Bool.false_ne_true] at hsnd
    refine ⟨?_, hlog, fun hfailed => ?_, ?_⟩
    · exact (congrArg Worker.fault hsnd).trans hw.present
    · refine (congrArg Worker._run hsnd).trans (hw.stopped ?_)
      exact (Bool.or_false w.failed).symm.trans hfailed
    · have hclosed' : (w.msg_consume m).2.closed = w.closed := by rw [hsnd]
      exact Nat.le_trans (Nat.le_of_eq hclosed') hw.once

theorem sound_of_correct_consume (h : (w.consume m).Correct) : w.Sound (.consume m) := by
  have hpresent := h.present
  have hexact := h.exact
  have honce := h.once
  rw [Worker.consume] at hpresent hexact honce
  cases hconsumer : w._consumer with
  | false =>
    rw [hconsumer, if_neg Bool.false_ne_true] at hpresent
    cases hpresent
  | true =>
    rw [hconsumer, if_pos rfl] at hexact honce
    refine ⟨hconsumer, (text_iff (w := w)).mp ?_, fun hfatal => ?_⟩
    · exact hexact _ (List.mem_append_right _ (List.mem_singleton_self _))
    · have hsnd := msg_consume_snd (w := w) (m := m)
      rw [hfatal, if_pos rfl, stop_eq hconsumer] at hsnd
      have hclosed : (w.msg_consume m).2.closed = w.closed + 1 := congrArg Worker.closed hsnd
      dsimp only at honce
      omega

theorem step_event (h : w.step e = some v) : v = w.after e := by
  rw [Worker.step] at h
  split_ifs at h
  exact (Option.some.inj h).symm

theorem correct_step (hw : w.Correct) (hsound : w.Sound e) (h : w.step e = some v) : v.Correct := by
  rw [step_event h]
  cases e with
  | subscribe err =>
    rw [Worker.after, Worker.subscribe, if_pos hsound.1]
    cases err with
    | true => exact ⟨hw.present, hw.exact, fun _ => rfl, hw.once⟩
    | false =>
      have hfailed : w.failed = false := hsound.2 rfl
      exact ⟨hw.present, hw.exact, fun hfail => absurd (hfailed.symm.trans hfail) Bool.false_ne_true, hw.once⟩
  | consume m => exact correct_consume hw hsound
  | rebalance_cb cooperative error =>
    rw [Worker.after, Worker.rebalance_cb]
    cases cooperative with
    | true => exact hw
    | false =>
      have herror : error = false := hsound rfl
      rw [herror]
      exact hw
  | stop => exact correct_stop hw hsound.1 hsound.2
  | destroy =>
    have hstop := correct_stop hw hsound.1 hsound.2
    exact ⟨hstop.present, hstop.exact, hstop.stopped, hstop.once⟩

theorem sound_of_correct (h : w.step e = some v) (hv : v.Correct) : w.Sound e := by
  rw [step_event h] at hv
  cases e with
  | subscribe err =>
    rw [Worker.after, Worker.subscribe] at hv
    cases hconsumer : w._consumer with
    | false =>
      rw [hconsumer, if_neg Bool.false_ne_true] at hv
      cases hv.present
    | true =>
      refine ⟨hconsumer, ?_⟩
      rintro rfl
      rw [hconsumer, if_pos rfl, if_neg Bool.false_ne_true] at hv
      rw [← Bool.not_eq_true]
      intro hfailed
      exact Bool.false_ne_true (hv.stopped hfailed).symm
  | consume m => exact sound_of_correct_consume hv
  | rebalance_cb cooperative error =>
    rintro rfl
    cases error with
    | false => rfl
    | true => cases hv.present
  | stop => exact sound_of_correct_stop hv
  | destroy =>
    refine sound_of_correct_stop ⟨hv.present, hv.exact, hv.stopped, hv.once⟩

theorem correct_ite {c : Prop} [Decidable c] {a b : Bool × Worker} (ha : a.2.Correct) (hb : b.2.Correct) :
    (if c then a else b).2.Correct := by
  split
  · exact ha
  · exact hb

/-- Wherever `init` stops. -/
theorem correct_init (cur_offset : Int) (o : Outcomes) : ((Worker.new cur_offset).init o).2.Correct := by
  have hnew : ∀ consumer topic : Bool, ({ Worker.new cur_offset with _consumer := consumer, _topic := topic }).Correct :=
    fun consumer topic => ⟨rfl, fun p hp => absurd hp List.not_mem_nil, fun hfailed => absurd hfailed Bool.false_ne_true,
      Nat.zero_le 1⟩
  rw [Worker.init]
  iterate 7 refine correct_ite (hnew false false) ?_
  refine correct_ite (hnew true false) (correct_ite (hnew true false) (hnew true true))

/-- At every moment of a worker's life nothing absent has been asked, every text was the bytes of its message, an error that
stops the worker has stopped it, and the consumer has been closed once at most, if and only if every step is sound. -/
theorem sound_iff (cur_offset : Int) (o : Outcomes) (es : List Event) (w : Worker)
    (h : (worker cur_offset o).exec (worker cur_offset o).init es = some w) :
    (∀ tr v, tr <+: es → (worker cur_offset o).exec (worker cur_offset o).init tr = some v → v.Correct) ↔
      (worker cur_offset o).Meets Worker.Sound (worker cur_offset o).init es :=
  Machine.always_iff_meets (I := fun _ w => w.Correct) (P := fun _ w => w.Correct) (correct_init cur_offset o)
    (fun _ _ _ _ hw hsound hstep => correct_step hw hsound hstep) (fun _ _ hw => hw)
    (fun _ _ _ _ _ hstep hv => sound_of_correct hstep hv) h

/-- All steps of `init` succeed. -/
def allGood : Outcomes := ⟨true, true, true, true, true, true, true, true, true⟩

def terminated : Message := ⟨.noError, some [65], [0], 7⟩

theorem sound_iff_subscribed :
    (∀ tr v, tr <+: [.subscribe false, .consume terminated, .destroy] →
      (worker 0 allGood).exec (worker 0 allGood).init tr = some v → v.Correct) ↔
      (worker 0 allGood).Meets Worker.Sound (worker 0 allGood).init [.subscribe false, .consume terminated, .destroy] :=
  sound_iff 0 allGood _ _ rfl

/-- Behind `init` without a configuration the destructor asks the consumer that is not there; a stopped worker is closed
again; and a text goes on behind its message. -/
theorem not_correct :
    (∃ w, (worker 0 { allGood with conf := false }).exec (worker 0 { allGood with conf := false }).init [.destroy] = some w ∧
      w.fault = some .absentConsumer) ∧
    (∃ w, (worker 0 allGood).exec (worker 0 allGood).init [.stop, .destroy] = some w ∧ w.closed = 2) ∧
    (∃ w, (worker 0 allGood).exec (worker 0 allGood).init [.consume ⟨.noError, some [65], [66, 0], 7⟩] = some w ∧
      w.consumed.map Prod.snd = [some [65, 66]]) ∧
    (∃ w, (worker 0 allGood).exec (worker 0 allGood).init [.rebalance_cb false true] = some w ∧
      w.fault = some .absentError) :=
  ⟨⟨_, rfl, rfl⟩, ⟨_, rfl, rfl⟩, ⟨_, rfl, rfl⟩, ⟨_, rfl, rfl⟩⟩

end V2xHub.KafkaConsumerWorker
