import Mathlib.Tactic.Common

/-!
# A queue with its event and its processor thread

The receiver pushes a message under the mutex of the queue and sets the `AutoResetEvent`; the processor
waits for the event, and pops and processes while messages are waiting. Every operation on a mutex, on
the condition variable, on the flag or on the queue is one step. `Channel.process` is the next step of
the processor, `Channel.hand` that of the receiver on its way through this channel.
-/

namespace V2xHub.PluginConnection

/-- The two threads that meet at a queue. -/
inductive Side where
  | receiver
  | processor
deriving DecidableEq

/-- What the processor does next: the loop of `fastProcessorThread` and `slowProcessorThread`, with the
body of `AutoResetEvent::WaitOne` from `lockProtect` to `unlockProtect`. -/
inductive Processor (μ : Type*) where
  | top
  | lockProtect
  | test
  | sleep
  | asleep
  | awake
  | reset
  | unlockProtect
  | lockQueue
  | pop
  | unlockQueue (msg : Option μ)
  | handle (msg : μ)

/-- What the receiver does next with a message that it has routed to the queue, with the body of
`AutoResetEvent::Set` from `lockProtect` to `signal`. -/
inductive Handing (μ : Type*) where
  | lockQueue (msg : μ)
  | push (msg : μ)
  | unlockQueue
  | lockProtect
  | setFlag
  | unlockProtect
  | signal

namespace Processor
variable {μ : Type*}

/-- Inside `WaitOne`, the flag not yet taken. -/
def waiting : Processor μ → Bool
  | lockProtect | test | sleep | asleep | awake => true
  | _ => false

/-- Between the last look at the queue and the next `WaitOne`. -/
def busy : Processor μ → Bool
  | top | unlockQueue _ | handle _ => true
  | _ => false

def ownsProtect : Processor μ → Bool
  | test | sleep | reset | unlockProtect => true
  | _ => false

/-- The message that has left the queue and is not yet processed. -/
def inHand : Processor μ → List μ
  | unlockQueue (some msg) | handle msg => [msg]
  | _ => []

end Processor

namespace Handing
variable {μ : Type*}

/-- Pushed, and the flag not yet set. -/
def aboutToSet : Handing μ → Bool
  | unlockQueue | lockProtect | setFlag => true
  | _ => false

/-- The flag set, and the condition variable not yet signalled. -/
def aboutToSignal : Handing μ → Bool
  | unlockProtect | signal => true
  | _ => false

def ownsProtect : Handing μ → Bool
  | setFlag | unlockProtect => true
  | _ => false

/-- The message that is not yet on the queue. -/
def pending : Handing μ → List μ
  | lockQueue msg | push msg => [msg]
  | _ => []

end Handing

/-- A queue and its mutex, the flag and the mutex of its event, and the processor with its
`messageWaiting`. The messages `pushed` and `processed` so far are kept for the statements. -/
structure Channel (μ : Type*) where
  queue : List μ
  queueLock : Option Side
  flag : Bool
  protect : Option Side
  messageWaiting : Bool
  processor : Processor μ
  pushed : List μ
  processed : List μ

namespace Channel
variable {μ : Type*}

def init : Channel μ := ⟨[], none, false, none, false, .top, [], []⟩

/-- `pthread_cond_signal`, and also a wakeup out of nothing. -/
def wake (ch : Channel μ) : Channel μ :=
  match ch.processor with
  | .asleep => { ch with processor := .awake }
  | _ => ch

def process (ch : Channel μ) : Option (Channel μ) :=
  match ch.processor with
  | .top => some { ch with processor := if ch.messageWaiting then .lockQueue else .lockProtect }
  | .lockProtect | .awake =>
    if ch.protect.isNone then some { ch with protect := some .processor, processor := .test } else none
  | .test => some { ch with processor := if ch.flag then .reset else .sleep }
  | .sleep => some { ch with protect := none, processor := .asleep }
  | .asleep => none
  | .reset => some { ch with flag := false, processor := .unlockProtect }
  | .unlockProtect => some { ch with protect := none, processor := .lockQueue }
  | .lockQueue => if ch.queueLock.isNone then some { ch with queueLock := some .processor, processor := .pop } else none
  | .pop =>
    match ch.queue with
    | [] => some { ch with processor := .unlockQueue none }
    | msg :: queue =>
      some { ch with queue := queue, messageWaiting := !queue.isEmpty, processor := .unlockQueue (some msg) }
  | .unlockQueue none => some { ch with queueLock := none, processor := .top }
  | .unlockQueue (some msg) => some { ch with queueLock := none, processor := .handle msg }
  | .handle msg => some { ch with processed := ch.processed ++ [msg], processor := .top }

/-- The channel after a step of the receiver, and where the receiver is then (`none`: done with it). -/
def hand (ch : Channel μ) : Handing μ → Option (Channel μ × Option (Handing μ))
  | .lockQueue msg =>
    if ch.queueLock.isNone then some ({ ch with queueLock := some .receiver }, some (.push msg)) else none
  | .push msg => some ({ ch with queue := ch.queue ++ [msg], pushed := ch.pushed ++ [msg] }, some .unlockQueue)
  | .unlockQueue => some ({ ch with queueLock := none }, some .lockProtect)
  | .lockProtect =>
    if ch.protect.isNone then some ({ ch with protect := some .receiver }, some .setFlag) else none
  | .setFlag => some ({ ch with flag := true }, some .unlockProtect)
  | .unlockProtect => some ({ ch with protect := none }, some .signal)
  | .signal => some (ch.wake, none)

/-- The invariant of a channel, `r` being where the receiver is if it is here. -/
structure Inv (ch : Channel μ) (r : Option (Handing μ)) : Prop where
  protectProcessor : ch.protect = some .processor ↔ ch.processor.ownsProtect = true
  protectReceiver : ch.protect = some .receiver ↔ r.any Handing.ownsProtect = true
  sleep : ch.processor = .sleep → ch.flag = false
  asleep : ch.processor = .asleep → ch.flag = true → r.any Handing.aboutToSignal = true
  messageWaiting : ch.messageWaiting = true → ch.queue ≠ []
  wakeup : ch.processor.waiting = true ∨ ch.processor.busy = true ∧ ch.messageWaiting = false →
    ch.queue ≠ [] → ch.flag = true ∨ r.any Handing.aboutToSet = true
  order : ch.processed ++ (ch.processor.inHand ++ ch.queue) = ch.pushed

variable {ch ch' : Channel μ} {r : Option (Handing μ)} {h : Handing μ}

theorem inv_init : (init : Channel μ).Inv none := by
  constructor <;> simp [init, Processor.ownsProtect, Processor.waiting, Processor.inHand]

section Steps
attribute [local simp] Processor.ownsProtect Processor.waiting Processor.busy Processor.inHand
  Handing.ownsProtect Handing.aboutToSet Handing.aboutToSignal

theorem Inv.process (hi : ch.Inv r) (hs : ch.process = some ch') : ch'.Inv r := by
  obtain ⟨hpp, hpr, hsleep, hasleep, hmw, hwake, horder⟩ := hi
  obtain ⟨queue, queueLock, flag, protect, messageWaiting, processor, pushed, processed⟩ := ch
  unfold Channel.process at hs
  simp only at *
  cases processor with
  | top =>
    -- `WaitOne` is entered with `messageWaiting` false, so `wakeup` goes over to it
    cases messageWaiting <;> cases hs <;> constructor <;> simp_all
  | lockProtect | awake =>
    simp only at hs
    split_ifs at hs
    cases hs
    constructor <;> simp_all
  | test =>
    -- with the flag set `WaitOne` ends; the queue is looked at before the next one
    cases flag <;> cases hs <;> constructor <;> simp_all
  | sleep | reset | unlockProtect | handle msg =>
    cases hs
    constructor <;> simp_all
  | asleep => cases hs
  | lockQueue =>
    simp only at hs
    split_ifs at hs
    cases hs
    constructor <;> simp_all
  | pop =>
    -- what stays on the queue sets `messageWaiting`
    cases queue <;> cases hs <;> constructor <;> simp_all
  | unlockQueue msg => cases msg <;> cases hs <;> constructor <;> simp_all

theorem Inv.wake (hi : ch.Inv (some .signal)) : ch.wake.Inv none := by
  obtain ⟨hpp, hpr, hsleep, hasleep, hmw, hwake, horder⟩ := hi
  obtain ⟨queue, queueLock, flag, protect, messageWaiting, processor, pushed, processed⟩ := ch
  unfold Channel.wake
  simp only at *
  cases processor <;> constructor <;> simp_all

theorem Inv.spurious (hi : ch.Inv r) : ch.wake.Inv r := by
  obtain ⟨hpp, hpr, hsleep, hasleep, hmw, hwake, horder⟩ := hi
  obtain ⟨queue, queueLock, flag, protect, messageWaiting, processor, pushed, processed⟩ := ch
  unfold Channel.wake
  simp only at *
  cases processor <;> constructor <;> simp_all

theorem Inv.parse {msg : μ} (hi : ch.Inv none) : ch.Inv (some (.lockQueue msg)) := by
  obtain ⟨hpp, hpr, hsleep, hasleep, hmw, hwake, horder⟩ := hi
  exact ⟨hpp, hpr, hsleep, hasleep, hmw, hwake, horder⟩

theorem Inv.hand (hi : ch.Inv (some h)) (hs : ch.hand h = some (ch', r)) : ch'.Inv r := by
  cases h with
  | signal =>
    cases hs
    exact hi.wake
  | lockQueue msg =>
    obtain ⟨hpp, hpr, hsleep, hasleep, hmw, hwake, horder⟩ := hi
    simp only [Channel.hand] at hs
    split_ifs at hs
    cases hs
    constructor <;> simp_all
  | push msg =>
    obtain ⟨hpp, hpr, hsleep, hasleep, hmw, hwake, horder⟩ := hi
    cases hs
    refine ⟨hpp, by simpa using hpr, hsleep, by simpa using hasleep, fun _ => by simp, fun _ _ => Or.inr rfl, ?_⟩
    show ch.processed ++ (ch.processor.inHand ++ (ch.queue ++ [msg])) = ch.pushed ++ [msg]
    rw [← horder, List.append_assoc, List.append_assoc]
  | unlockQueue =>
    obtain ⟨hpp, hpr, hsleep, hasleep, hmw, hwake, horder⟩ := hi
    cases hs
    constructor <;> simp_all
  | lockProtect =>
    obtain ⟨hpp, hpr, hsleep, hasleep, hmw, hwake, horder⟩ := hi
    simp only [Channel.hand] at hs
    split_ifs at hs
    cases hs
    constructor <;> simp_all
  | setFlag =>
    obtain ⟨hpp, hpr, hsleep, hasleep, hmw, hwake, horder⟩ := hi
    cases hs
    have howner : ch.protect = some .receiver := hpr.2 rfl
    refine ⟨hpp, by simpa using hpr, fun hp => ?_, fun _ _ => rfl, hmw, fun _ _ => Or.inl rfl, horder⟩
    -- the processor does not go to sleep while the receiver holds the mutex of the event
    have hown : ch.protect = some .processor := hpp.2 (by rw [show ch.processor = .sleep from hp]; rfl)
    rw [howner] at hown
    cases hown
  | unlockProtect =>
    obtain ⟨hpp, hpr, hsleep, hasleep, hmw, hwake, horder⟩ := hi
    cases hs
    constructor <;> simp_all

end Steps

/-! ### Who pushes -/

theorem process_pushed (hs : ch.process = some ch') : ch'.pushed = ch.pushed := by
  unfold Channel.process at hs
  cases hpc : ch.processor with
  | asleep => simp [hpc] at hs
  | lockProtect | awake | lockQueue =>
    simp only [hpc] at hs
    split_ifs at hs
    exact Option.some.inj hs ▸ rfl
  | pop =>
    cases hq : ch.queue <;> simp only [hpc, hq, Option.some.injEq] at hs <;> exact hs ▸ rfl
  | unlockQueue msg =>
    cases msg <;> simp only [hpc, Option.some.injEq] at hs <;> exact hs ▸ rfl
  | _ =>
    simp only [hpc, Option.some.injEq] at hs
    exact hs ▸ rfl

theorem wake_pushed (ch : Channel μ) : ch.wake.pushed = ch.pushed := by
  unfold Channel.wake
  split <;> rfl

theorem hand_pushed (hs : ch.hand h = some (ch', r)) :
    ch'.pushed ++ r.elim [] Handing.pending = ch.pushed ++ h.pending := by
  cases h with
  | lockQueue msg | lockProtect =>
    simp only [Channel.hand] at hs
    split_ifs at hs
    cases hs
    rfl
  | push msg =>
    cases hs
    exact List.append_nil _
  | signal =>
    cases hs
    rw [wake_pushed]
    rfl
  | _ =>
    cases hs
    rfl

end Channel

end V2xHub.PluginConnection
