import Mathlib.Data.List.Basic
import Mathlib.Data.List.GetD
import Mathlib.Order.Lattice
import Mathlib.Tactic.Ring

/-!
# The size of the group of worker threads (`ThreadGroup.h`)

`set_size` adds threads to the group and starts as many, but those that it starts are counted from the first one of the group,
and not from the first new one. A group that grows again has threads that were started twice and, unless it more than doubles,
others that were not started at all (`getElem?_set_size`). The message manager asks for a size when it is registered and when
its configuration changes.
-/

namespace V2xHub.MessageManager

structure LockFreeThread where
  _active : Bool
  /-- The calls of `start`. -/
  started : Nat
deriving DecidableEq

namespace LockFreeThread

def new : LockFreeThread := ⟨false, 0⟩

def start (t : LockFreeThread) : LockFreeThread := ⟨true, t.started + 1⟩

end LockFreeThread

/-- The threads of a group. -/
abbrev Threads := List LockFreeThread

/-- The loop of `set_size`. -/
def startFrom (size i : Nat) (_threads : Threads) : Threads :=
  if _threads.length < size then startFrom size (i + 1) ((_threads ++ [LockFreeThread.new]).modify i .start) else _threads
termination_by size - _threads.length
decreasing_by simp; omega

def set_size (_threads : Threads) (size : Nat) : Threads := startFrom size 0 _threads

/-- The group after the calls. -/
def sized (sizes : List Nat) : Threads := sizes.foldl set_size []

/-- The message manager, with its group and what it has taken over from its configuration. -/
structure Manager where
  _numThreads : Nat
  workerThreads : Threads

def DEFAULT_NUMBER_WORKER_THREADS : Nat := 3

namespace Manager

inductive Event where
  /-- `OnStateChange` for a plugin that is registered, with the configured number if there is one. -/
  | registered (configured : Option Nat)
  /-- `OnConfigChanged` for the number of threads. -/
  | configChanged (n : Nat)

def Start (s : Manager) : Manager :=
  if s._numThreads > s.workerThreads.length then { s with workerThreads := set_size s.workerThreads s._numThreads } else s

def OnConfigChanged (s : Manager) (n : Nat) : Manager :=
  if n > s._numThreads ∧ n < 512 then Start { s with _numThreads := n } else s

def OnStateChange (s : Manager) (configured : Option Nat) : Manager :=
  Start { s with _numThreads := configured.getD DEFAULT_NUMBER_WORKER_THREADS }

def step (s : Manager) : Event → Manager
  | .registered configured => s.OnStateChange configured
  | .configChanged n => s.OnConfigChanged n

def run (events : List Event) : Manager := events.foldl step ⟨0, []⟩

/-- The sizes that `Start` is called for. -/
def asked (_numThreads : Nat) : List Event → List Nat
  | [] => []
  | .registered configured :: events =>
    configured.getD DEFAULT_NUMBER_WORKER_THREADS :: asked (configured.getD DEFAULT_NUMBER_WORKER_THREADS) events
  | .configChanged n :: events => if n > _numThreads ∧ n < 512 then n :: asked n events else asked _numThreads events

end Manager

/-- The group has the largest size asked for, each thread was started once, and to ask for no more changes nothing. -/
structure Grown (sizes : List Nat) (_threads : Threads) : Prop where
  size : _threads.length = sizes.foldr max 0
  once : ∀ t ∈ _threads, t.started = 1
  unchanged : ∀ n ≤ _threads.length, set_size _threads n = _threads

variable {size i : Nat} {_threads : Threads} {sizes : List Nat}

theorem startFrom_of_le (h : size ≤ _threads.length) : startFrom size i _threads = _threads := by
  rw [startFrom, if_neg (not_lt.mpr h)]

theorem length_startFrom : (startFrom size i _threads).length = max _threads.length size := by
  fun_induction startFrom size i _threads with
  | case1 i _threads h ih =>
    rw [ih, List.length_modify, List.length_append, List.length_singleton]
    omega
  | case2 i _threads h => omega

@[simp] theorem length_set_size : (set_size _threads size).length = max _threads.length size := length_startFrom

theorem set_size_of_le (h : size ≤ _threads.length) : set_size _threads size = _threads := startFrom_of_le h

/-- As many as are added are started, from the `i`-th on. -/
theorem getElem?_startFrom (hi : i ≤ _threads.length) (j : Nat) :
    (startFrom size i _threads)[j]? =
      ((_threads ++ List.replicate (size - _threads.length) .new)[j]?).map fun t =>
        if i ≤ j ∧ j < i + (size - _threads.length) then t.start else t := by
  fun_induction startFrom size i _threads with
  | case1 i _threads h ih =>
    have hadded : size - _threads.length = size - (_threads.length + 1) + 1 := by omega
    have hlist : _threads ++ List.replicate (size - _threads.length) .new =
        (_threads ++ [.new]) ++ List.replicate (size - (_threads.length + 1)) .new := by
      rw [hadded, List.replicate_succ, List.append_assoc, List.singleton_append]
    have hrange : (i + 1 ≤ j ∧ j < i + 1 + (size - (_threads.length + 1))) ↔ i < j ∧ j < i + (size - _threads.length) := by omega
    rw [ih (by simpa using hi), hlist]
    simp only [List.length_modify, List.length_append, List.length_singleton, hrange]
    by_cases hlt : j < (_threads ++ [LockFreeThread.new]).length
    · rw [List.getElem?_append_left (by rwa [List.length_modify]), List.getElem?_append_left hlt, List.getElem?_modify,
        Option.map_eq_map, Option.map_map]
      congr 1
      funext t
      by_cases hij : i = j
      · subst hij
        have hpos : i < i + (size - _threads.length) := by omega
        simp [hpos]
      · have hle : i < j ↔ i ≤ j := by omega
        simp [hij, hle]
    · have hle : i < j ↔ i ≤ j := by
        rw [List.length_append, List.length_singleton] at hlt
        omega
      rw [List.getElem?_append_right (by simpa using hlt), List.getElem?_append_right (by simpa using hlt), List.length_modify]
      simp only [hle]
  | case2 i _threads h =>
    have hnone : size - _threads.length = 0 := by omega
    have hfalse : ¬ (i ≤ j ∧ j < i) := by omega
    rw [hnone]
    simp [hfalse]

/-- The threads that are started are the first ones. -/
theorem getElem?_set_size (j : Nat) :
    (set_size _threads size)[j]? =
      ((_threads ++ List.replicate (size - _threads.length) .new)[j]?).map fun t =>
        if j < size - _threads.length then t.start else t := by
  rw [set_size, getElem?_startFrom (Nat.zero_le _)]
  simp

theorem set_size_nil (size : Nat) : set_size [] size = List.replicate size ⟨true, 1⟩ := by
  refine List.ext_getElem? fun j => ?_
  rw [getElem?_set_size, List.nil_append, List.length_nil, Nat.sub_zero]
  by_cases h : j < size
  · simp [h, LockFreeThread.start, LockFreeThread.new]
  · simp [h]

/-! ### The first thread -/

/-- How often the first thread was started. -/
def firstStarted : Threads → Nat
  | [] => 0
  | t :: _ => t.started

theorem firstStarted_eq : firstStarted _threads = (_threads[0]?.map LockFreeThread.started).getD 0 := by
  cases _threads with
  | nil => rfl
  | cons t _threads => rfl

/-- It is started again whenever the group grows. -/
theorem firstStarted_set_size (hne : _threads ≠ []) :
    firstStarted (set_size _threads size) = firstStarted _threads + if _threads.length < size then 1 else 0 := by
  rw [firstStarted_eq, getElem?_set_size]
  cases _threads with
  | nil => exact absurd rfl hne
  | cons t _threads =>
    by_cases h : (t :: _threads).length < size
    · have hpos : 0 < size - (t :: _threads).length := by omega
      simp only [hpos, h, if_true]
      rfl
    · have hpos : ¬ 0 < size - (t :: _threads).length := by omega
      simp only [hpos, h, if_false]
      rfl

theorem le_firstStarted_foldl (hne : _threads ≠ []) (sizes : List Nat) :
    firstStarted _threads ≤ firstStarted (sizes.foldl set_size _threads) := by
  induction sizes generalizing _threads with
  | nil => exact le_rfl
  | cons size sizes ih =>
    have hlength : (set_size _threads size) ≠ [] := by
      rw [← List.length_pos_iff, length_set_size]
      exact lt_of_lt_of_le (List.length_pos_iff.mpr hne) (le_max_left _ _)
    refine le_trans ?_ (ih hlength)
    rw [firstStarted_set_size hne]
    exact Nat.le_add_right _ _

/-- If it was not started again, the group did not grow. -/
theorem foldl_set_size_iff (hne : _threads ≠ []) (sizes : List Nat) :
    firstStarted (sizes.foldl set_size _threads) = firstStarted _threads ↔ ∀ n ∈ sizes, n ≤ _threads.length := by
  induction sizes with
  | nil => simp
  | cons size sizes ih =>
    rw [List.foldl_cons, List.forall_mem_cons]
    by_cases h : size ≤ _threads.length
    · rw [set_size_of_le h, ih, and_iff_right h]
    · refine iff_of_false (fun heq => ?_) fun hall => h hall.1
      have hgrown : set_size _threads size ≠ [] := by
        rw [← List.length_pos_iff, length_set_size]
        omega
      have hle := le_firstStarted_foldl hgrown sizes
      rw [heq, firstStarted_set_size hne, if_pos (not_le.mp h)] at hle
      omega

theorem foldl_set_size_of_le (h : ∀ n ∈ sizes, n ≤ _threads.length) : sizes.foldl set_size _threads = _threads := by
  induction sizes with
  | nil => rfl
  | cons size sizes ih =>
    obtain ⟨hsize, hsizes⟩ := List.forall_mem_cons.mp h
    rw [List.foldl_cons, set_size_of_le hsize, ih hsizes]

/-! ### Runs -/

theorem length_foldl : (sizes.foldl set_size _threads).length = max _threads.length (sizes.foldr max 0) := by
  induction sizes generalizing _threads with
  | nil => simp
  | cons size sizes ih => rw [List.foldl_cons, ih, length_set_size, List.foldr_cons, max_assoc]

/-- Every thread was started once exactly if no size is larger than the first one that is not 0. -/
theorem once_iff : (∀ t ∈ sized sizes, t.started = 1) ↔ ∀ n ∈ sizes, n ≤ (sizes.find? (· ≠ 0)).getD 0 := by
  unfold sized
  induction sizes with
  | nil => simp
  | cons size sizes ih =>
    rw [List.foldl_cons]
    cases size with
    | zero =>
      rw [set_size_of_le (Nat.zero_le _), ih, List.forall_mem_cons]
      simp
    | succ k =>
      have hne : set_size [] (k + 1) ≠ [] := by simp [set_size_nil]
      have hfirst : firstStarted (set_size [] (k + 1)) = 1 := by
        rw [set_size_nil]
        rfl
      have hfind : (((k + 1) :: sizes).find? (· ≠ 0)).getD 0 = k + 1 := by simp
      rw [hfind, List.forall_mem_cons, and_iff_right le_rfl]
      constructor
      · intro h
        have hall := (foldl_set_size_iff hne sizes).mp ?_
        · simpa using hall
        · rw [hfirst]
          cases hlist : sizes.foldl set_size (set_size [] (k + 1)) with
          | nil =>
            have hle := le_firstStarted_foldl hne sizes
            rw [hlist, hfirst] at hle
            exact absurd hle (Nat.not_succ_le_zero 0)
          | cons t _threads => exact h t (by rw [hlist]; exact List.mem_cons_self)
      · intro h
        rw [foldl_set_size_of_le (by simpa using h), set_size_nil]
        intro t ht
        rw [List.eq_of_mem_replicate ht]

theorem Manager.workerThreads_foldl (events : List Event) (s : Manager) :
    (events.foldl step s).workerThreads = (asked s._numThreads events).foldl set_size s.workerThreads := by
  have hstart : ∀ s : Manager, s.Start = { s with workerThreads := set_size s.workerThreads s._numThreads } := by
    intro s
    rw [Start]
    split_ifs with h
    · rfl
    · rw [set_size_of_le (not_lt.mp h)]
  induction events generalizing s with
  | nil => rfl
  | cons event events ih =>
    rw [List.foldl_cons, ih]
    cases event with
    | registered configured =>
      rw [step, OnStateChange, hstart]
      rfl
    | configChanged n =>
      rw [step, OnConfigChanged, asked]
      split_ifs with h
      · rw [hstart]
        rfl
      · rfl

/-- The group has grown as it should exactly if no size is larger than the first one that is not 0. The group of the message
manager is the one for the sizes that it is started with. -/
theorem grown_iff (sizes : List Nat) (events : List Manager.Event) :
    (Grown sizes (sized sizes) ↔ ∀ n ∈ sizes, n ≤ (sizes.find? (· ≠ 0)).getD 0) ∧
      (Manager.run events).workerThreads = sized (Manager.asked 0 events) := by
  refine ⟨?_, Manager.workerThreads_foldl events ⟨0, []⟩⟩
  rw [← once_iff]
  constructor
  · exact Grown.once
  · intro h
    exact ⟨by rw [sized, length_foldl]; simp, h, fun n hn => set_size_of_le hn⟩

/-- The default, and four by the configuration: the first thread is started again, and the new one is not. -/
theorem not_grown :
    ¬ Grown (Manager.asked 0 [.registered none, .configChanged 4])
        (Manager.run [.registered none, .configChanged 4]).workerThreads ∧
      (Manager.run [.registered none, .configChanged 4]).workerThreads.map LockFreeThread.started = [2, 1, 1, 0] := by
  have hrun : (Manager.run [.registered none, .configChanged 4]).workerThreads.map LockFreeThread.started = [2, 1, 1, 0] := by
    decide +kernel
  refine ⟨fun h => ?_, hrun⟩
  have hmem : 2 ∈ (Manager.run [.registered none, .configChanged 4]).workerThreads.map LockFreeThread.started := by
    rw [hrun]
    exact List.mem_cons_self
  obtain ⟨t, ht, htwo⟩ := List.mem_map.mp hmem
  have hone := h.once t ht
  omega

end V2xHub.MessageManager
