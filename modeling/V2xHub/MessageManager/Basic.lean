import V2xHub.Lib.Machine
import Mathlib.Logic.Function.Basic

/-!
# The worker threads of the message manager

`ThreadGroup::assign` and `unassign` on the atomics of each source, and the items on their way: a call of `assign` for
each, the in-queue of a worker, its work, its out-queue, the cleanup by the output thread. Every access to a shared
variable or a queue is a step of its own. Threads are known by what they do: a call of `assign` by its item, a worker by
its queue; the group is not empty. The size of an in-queue counts the item in work. The counter is an integer, which 2^64
items do not reach.
-/

namespace V2xHub.MessageManager

/-- The group and the id. -/
abbrev Source := Fin (2 ^ 8) × Fin (2 ^ 8)

/-- Where an item is: in its call of `assign` (behind `count++`, with no thread id read, with one chosen, with one to
push to), in a worker's in-queue, in work before and behind the overflow check, in the worker's out-queue, in `Cleanup`. -/
inductive Stage (ω : Type) where
  | fresh
  | counted
  | choosing
  | storing (w : ω)
  | pushing (w : ω)
  | queued (w : ω)
  | working (w : ω)
  | handling (w : ω)
  | outgoing (w : ω)
  | cleaning
  | done
  | lost
deriving DecidableEq

namespace Stage
variable {ω : Type}

/-- The item is pending. -/
def live : Stage ω → Bool
  | fresh => false
  | done => false
  | lost => false
  | _ => true

/-- The worker that has the item or gets it. -/
def worker : Stage ω → Option ω
  | pushing w => some w
  | queued w => some w
  | working w => some w
  | handling w => some w
  | outgoing w => some w
  | _ => none

/-- The thread that the call is about to store. -/
def chosen : Stage ω → Option ω
  | storing w => some w
  | _ => none

/-- The call read no thread id and did not store one yet. -/
def undecided : Stage ω → Bool
  | choosing => true
  | storing _ => true
  | _ => false

end Stage

/-- Where the output thread is: a `none` is for a message that a worker sent out, whose source is (0, 0). -/
inductive Output (ι : Type) where
  | idle
  | cleanup (item : Option ι)
  | releasing (s : Source)
deriving DecidableEq

/-- The capacity of the queues and `overflow`. -/
structure Limits where
  capacity : Nat
  overflow : Nat

structure State (ι ω : Type) where
  count : Source → Int
  threadId : Source → Option ω
  stage : ι → Stage ω
  inQ : ω → List ι
  working : ω → Option ι
  outQ : ω → List (Option ι)
  output : Output ι
  /-- The items in the order of the calls of `assign`. -/
  called : List ι
  /-- The items in the order of their pushes. -/
  pushed : List ι
  /-- The items in the order in which the workers took them. -/
  taken : List ι

inductive Event (ι ω : Type) where
  /-- `count++` -/
  | call (i : ι)
  /-- `tId = threadId` -/
  | read (i : ι)
  /-- The assignment strategy. -/
  | choose (i : ι) (w : ω)
  /-- `threadId = tId` -/
  | store (i : ι)
  | push (i : ι)
  | take (w : ω)
  /-- The overflow check of `doWork`. -/
  | check (w : ω)
  /-- `push_out` at the end of `doWork`. -/
  | finish (w : ω)
  /-- `OutgoingMessage` for a worker. -/
  | send (w : ω)
  /-- The output thread pops. -/
  | pop (w : ω)
  /-- `--count` and its test. -/
  | unassign
  /-- `threadId = -1` -/
  | release

section
variable {ι ω : Type} [DecidableEq ι] [DecidableEq ω] (src : ι → Source) (limits : Limits)

namespace State
variable (σ : State ι ω)

def move (i : ι) (x : Stage ω) : State ι ω := { σ with stage := Function.update σ.stage i x }

/-- Any thread assignment is ignored for (0, 0). -/
def read (i : ι) : State ι ω :=
  match σ.threadId (src i) with
  | none => σ.move i .choosing
  | some w => if src i = (0, 0) then σ.move i .choosing else σ.move i (.pushing w)

/-- `push`, which fails for a full queue; `assign` does not look. -/
def push (i : ι) (w : ω) : State ι ω :=
  if (σ.inQ w).length < limits.capacity then
    { σ.move i (.queued w) with
      inQ := Function.update σ.inQ w (σ.inQ w ++ [i])
      pushed := σ.pushed ++ [i] }
  else σ.move i .lost

/-- The item is dropped. -/
def overflows (w : ω) : Bool := limits.overflow > 0 && (σ.inQ w).length + 1 > limits.overflow

def check (w : ω) (i : ι) : State ι ω :=
  if σ.overflows limits w then { σ.move i .lost with working := Function.update σ.working w none }
  else σ.move i (.handling w)

/-- `push_out`, which fails for a full queue; `doWork` does not look. -/
def finish (w : ω) (i : ι) : State ι ω :=
  let σ := { σ with working := Function.update σ.working w none }
  if (σ.outQ w).length < limits.capacity then
    { σ.move i (.outgoing w) with outQ := Function.update σ.outQ w (σ.outQ w ++ [some i]) }
  else σ.move i .lost

def send (w : ω) : State ι ω :=
  if (σ.outQ w).length < limits.capacity then
    { σ with outQ := Function.update σ.outQ w (σ.outQ w ++ [none]) }
  else σ

def unassign (s : Source) : State ι ω :=
  { σ with
    count := Function.update σ.count s (σ.count s - 1)
    output := if σ.count s - 1 = 0 then .releasing s else .idle }

def step : Event ι ω → Option (State ι ω)
  | .call i =>
    if σ.stage i = .fresh then
      some { σ.move i .counted with
        count := Function.update σ.count (src i) (σ.count (src i) + 1)
        called := σ.called ++ [i] }
    else none
  | .read i => if σ.stage i = .counted then some (σ.read src i) else none
  | .choose i w => if σ.stage i = .choosing then some (σ.move i (.storing w)) else none
  | .store i =>
    match σ.stage i with
    | .storing w => some { σ.move i (.pushing w) with threadId := Function.update σ.threadId (src i) (some w) }
    | _ => none
  | .push i =>
    match σ.stage i with
    | .pushing w => some (σ.push limits i w)
    | _ => none
  | .take w =>
    match σ.working w, σ.inQ w with
    | none, i :: q =>
      some { σ.move i (.working w) with
        inQ := Function.update σ.inQ w q
        working := Function.update σ.working w (some i)
        taken := σ.taken ++ [i] }
    | _, _ => none
  | .check w =>
    match σ.working w with
    | some i => if σ.stage i = .working w then some (σ.check limits w i) else none
    | none => none
  | .finish w =>
    match σ.working w with
    | some i => if σ.stage i = .handling w then some (σ.finish limits w i) else none
    | none => none
  | .send w => some (σ.send limits w)
  | .pop w =>
    match σ.output, σ.outQ w with
    | .idle, none :: q => some { σ with outQ := Function.update σ.outQ w q, output := .cleanup none }
    | .idle, some i :: q =>
      some { σ.move i .cleaning with outQ := Function.update σ.outQ w q, output := .cleanup (some i) }
    | _, _ => none
  | .unassign =>
    match σ.output with
    | .cleanup none => some (σ.unassign (0, 0))
    | .cleanup (some i) => some ((σ.move i .done).unassign (src i))
    | _ => none
  | .release =>
    match σ.output with
    | .releasing s => some { σ with threadId := Function.update σ.threadId s none, output := .idle }
    | _ => none

/-- Nothing was assigned yet. -/
def init : State ι ω where
  count := fun _ => 0
  threadId := fun _ => none
  stage := fun _ => .fresh
  inQ := fun _ => []
  working := fun _ => none
  outQ := fun _ => []
  output := .idle
  called := []
  pushed := []
  taken := []

end State

def manager : Machine (State ι ω) (Event ι ω) := ⟨State.init, State.step src limits⟩

end
end V2xHub.MessageManager
