import Mathlib.Data.List.Basic
import V2xHub.Lib.Machine

/-!
# The timer of the periodic ticks

`ThreadTimer` calls the ticks that are due on one thread. The worker copies a tick under the lock, reads the clock and calls the
tick without it, and writes the time back under the lock: each is a step, with the calls of the other threads in between. Times
of the clock are nanoseconds, the frequency and the delay of a tick milliseconds, all without a bound; in the source they are
`int64`, so a frequency or a delay of more than `2 ^ 63 / 10 ^ 6` milliseconds (292 years) would overflow.

What a call must meet is in the history of the calls, and whether a trigger was answered in that of the ticks.
-/

namespace V2xHub.ThreadTimer

/-- The milliseconds `n` on the clock. -/
def ms (n : Int) : Int := n * 1000000

structure PeriodicTickData where
  Frequency : Int
  StartDelay : Int
  LastTickTime : Int
deriving DecidableEq

/-- What became of a trigger that no call has answered: no pass of the worker has begun since, one is under way, or one is over. -/
inductive Stage where
  | waiting
  | passing
  | missed
deriving DecidableEq

/-- A tick with its history: when it was registered, whether it was ever triggered, the start of its last call if neither a
trigger nor a change of the frequency came since, and the trigger that is not answered. -/
structure Tick where
  data : PeriodicTickData
  registered : Int
  triggered : Bool
  previous : Option Int
  trigger : Option Stage
deriving DecidableEq

/-- Where `DoWork` is: in front of the loop, at its head, in front of the tick `index`, with a copy of it, or inside its function,
which was called at `now`. -/
inductive Worker where
  | stopped
  | starting
  | top
  | head (index : Nat)
  | copied (index : Nat) (tick : PeriodicTickData)
  | running (index : Nat) (now : Int)
deriving DecidableEq

/-- The last tick times have been set. -/
def Worker.initialised : Worker → Bool
  | .stopped | .starting => false
  | _ => true

/-- A call: when it started, when the delay of its tick was over, and the history of the tick. -/
structure Call where
  time : Int
  due : Int
  triggered : Bool
  previous : Option Int
  Frequency : Int
deriving DecidableEq

structure State where
  ticks : List Tick
  worker : Worker
  startTime : Int
  clock : Int
  calls : List Call
deriving DecidableEq

def State.init : State := ⟨[], .stopped, 0, 0, []⟩

/-- The calls of the other threads, and the steps of the worker, with the time on the clock. -/
inductive Event where
  | AddPeriodicTick (now frequency startDelay : Int)
  | ChangeFrequency (now : Int) (id : Nat) (frequency : Int)
  | TriggerNow (now : Int) (id : Nat)
  | DoWork (now : Int)
deriving DecidableEq

def Event.now : Event → Int
  | .AddPeriodicTick now _ _ | .ChangeFrequency now _ _ | .TriggerNow now _ | .DoWork now => now

/-- The last tick time of a new tick is the epoch of the clock. -/
def newTick (now frequency startDelay : Int) : Tick := ⟨⟨frequency, startDelay, 0⟩, now, false, none, none⟩

def Tick.ChangeFrequency (frequency : Int) (tick : Tick) : Tick :=
  { tick with data := { tick.data with Frequency := frequency }, previous := none }

def Tick.TriggerNow (now : Int) (tick : Tick) : Tick :=
  { tick with
    data := { tick.data with LastTickTime := now - ms tick.data.Frequency }
    triggered := true
    previous := none
    trigger := if 0 < tick.data.Frequency then some (tick.trigger.getD .waiting) else tick.trigger }

/-- The start of the worker sets the last tick time. -/
def Tick.initialise (startTime : Int) (tick : Tick) : Tick :=
  { tick with data := { tick.data with
    LastTickTime := startTime - ms tick.data.Frequency + ms tick.data.StartDelay } }

/-- A pass of the worker begins. -/
def Tick.beginPass (tick : Tick) : Tick :=
  { tick with trigger := tick.trigger.map fun stage => if stage = .waiting then .passing else stage }

/-- A pass of the worker is over. -/
def Tick.endPass (tick : Tick) : Tick :=
  { tick with trigger := tick.trigger.map fun stage => if stage = .passing then .missed else stage }

def Tick.called (now : Int) (tick : Tick) : Tick := { tick with previous := some now, trigger := none }

def Tick.writeBack (now : Int) (tick : Tick) : Tick := { tick with data := { tick.data with LastTickTime := now } }

/-- When the delay of the tick is over, from its registration or the start. -/
def Tick.due (startTime : Int) (tick : Tick) : Int := max tick.registered startTime + ms tick.data.StartDelay

/-- The test of the worker, on its copy; the period is truncated to milliseconds. -/
def PeriodicTickData.isDue (now : Int) (tick : PeriodicTickData) : Prop :=
  0 < tick.Frequency ∧ tick.Frequency ≤ (now - tick.LastTickTime).tdiv 1000000

instance decidableIsDue (now : Int) (tick : PeriodicTickData) : Decidable (tick.isDue now) :=
  inferInstanceAs (Decidable (_ ∧ _))

/-- The call of the tick `index` starts. -/
def State.call (now : Int) (index : Nat) (s : State) : State :=
  match s.ticks[index]? with
  | none => s
  | some tick =>
    { s with
      ticks := s.ticks.modify index (·.called now)
      worker := .running index now
      calls := s.calls ++ [⟨now, tick.due s.startTime, tick.triggered, tick.previous, tick.data.Frequency⟩] }

/-- The next step of the worker. -/
def State.DoWork (now : Int) (s : State) : State :=
  match s.worker with
  | .stopped => { s with worker := .starting, startTime := now }
  | .starting => { s with ticks := s.ticks.map (·.initialise s.startTime), worker := .top }
  | .top => { s with ticks := s.ticks.map Tick.beginPass, worker := .head 0 }
  | .head index =>
    match s.ticks[index]? with
    | none => { s with ticks := s.ticks.map Tick.endPass, worker := .top }
    | some tick => { s with worker := .copied index tick.data }
  | .copied index tick => if tick.isDue now then s.call now index else { s with worker := .head (index + 1) }
  | .running index called => { s with ticks := s.ticks.modify index (·.writeBack called), worker := .head (index + 1) }

/-- The step of an event; an id that is not registered changes nothing. -/
def State.exec (s : State) : Event → State
  | .AddPeriodicTick now frequency startDelay => { s with ticks := s.ticks ++ [newTick now frequency startDelay] }
  | .ChangeFrequency _ id frequency => { s with ticks := s.ticks.modify id (·.ChangeFrequency frequency) }
  | .TriggerNow now id => { s with ticks := s.ticks.modify id (·.TriggerNow now) }
  | .DoWork now => s.DoWork now

def step (s : State) (e : Event) : Option State :=
  if s.clock ≤ e.now then some { s.exec e with clock := e.now } else none

def timer : Machine State Event := ⟨State.init, step⟩

/-- The delay was over or the tick had been triggered; and the last call, with neither a trigger nor a change of the frequency
since, was at least the frequency ago. -/
structure Call.Punctual (c : Call) : Prop where
  delayed : c.triggered = true ∨ c.due ≤ c.time
  apart : ∀ p, c.previous = some p → p + ms c.Frequency ≤ c.time

/-- Every call was punctual, and no trigger is left unanswered by a whole pass of the worker. -/
structure Periodic (s : State) : Prop where
  calls : ∀ c ∈ s.calls, c.Punctual
  answered : ∀ tick ∈ s.ticks, tick.trigger ≠ some .missed

/-- The tick is not called before its delay is over, with the data that the worker has of it. -/
def Guarded (startTime now : Int) (tick : Tick) (data : PeriodicTickData) : Prop :=
  tick.triggered = true ∨ data.Frequency ≤ 0 ∨ tick.due startTime ≤ data.LastTickTime + ms data.Frequency ∨
    tick.due startTime ≤ now

/-- A tick is registered before the worker starts, or its delay is over when its frequency, counted from the epoch of the clock,
is. A new frequency does not call a tick before its delay is over, and leaves a triggered one due. No tick is triggered while it
runs, or before the start where it has a delay. -/
def Sound (s : State) : Event → Prop
  | .AddPeriodicTick now frequency startDelay => s.worker.initialised = true →
      frequency ≤ 0 ∨ startDelay ≤ 0 ∨ now + ms startDelay ≤ ms frequency
  | .ChangeFrequency now id frequency => ∀ tick, s.ticks[id]? = some tick →
      (s.worker.initialised = true → Guarded s.startTime now tick { tick.data with Frequency := frequency }) ∧
      (tick.trigger ≠ none →
        0 < frequency ∧ (s.worker.initialised = true → tick.data.LastTickTime + ms frequency ≤ now))
  | .TriggerNow _ id => ∀ tick, s.ticks[id]? = some tick → 0 < tick.data.Frequency →
      (s.worker.initialised = false → tick.data.StartDelay ≤ 0) ∧ ∀ now, s.worker ≠ .running id now
  | .DoWork now => s.worker = .starting → ∀ tick ∈ s.ticks,
      tick.registered ≤ s.startTime ∨ tick.registered + ms tick.data.StartDelay ≤ now

variable {s t : State} {e : Event} {tick : Tick} {data : PeriodicTickData} {w w' : Worker} {startTime now now' : Int} {i : Nat}

theorem ms_nonpos {n : Int} (h : n ≤ 0) : ms n ≤ 0 := by
  unfold ms
  omega

/-- The truncation of the period does not matter, the frequency being in milliseconds. -/
theorem isDue_iff : data.isDue now ↔ 0 < data.Frequency ∧ data.LastTickTime + ms data.Frequency ≤ now := by
  unfold PeriodicTickData.isDue ms
  refine and_congr_right fun hpos => ?_
  rcases Int.le_total 0 (now - data.LastTickTime) with hle | hle
  · rw [Int.tdiv_eq_ediv_of_nonneg hle]
    omega
  · have hnonpos : (now - data.LastTickTime).tdiv 1000000 ≤ 0 := by
      rw [← Int.neg_neg (now - data.LastTickTime), Int.neg_tdiv, Int.tdiv_eq_ediv_of_nonneg (by omega)]
      omega
    constructor
    · intro hdiv
      omega
    · intro hdue
      omega

theorem Guarded.mono (h : Guarded startTime now tick data) (hle : now ≤ now') : Guarded startTime now' tick data :=
  h.imp_right (.imp_right (.imp_right fun hdue => Int.le_trans hdue hle))

/-- A call of a guarded copy comes when the delay is over. -/
theorem Guarded.delayed (h : Guarded startTime now tick data) (hdue : data.isDue now') (hle : now ≤ now') :
    tick.triggered = true ∨ tick.due startTime ≤ now' := by
  obtain ⟨hpos, hlast⟩ := isDue_iff.1 hdue
  obtain htriggered | hnonpos | hguard | hover := h
  · exact .inl htriggered
  · omega
  · exact .inr (Int.le_trans hguard hlast)
  · exact .inr (Int.le_trans hover hle)

/-- The worker has not come past the tick `i` in this pass, or has a copy of it that is due. -/
def Worker.Ahead (now : Int) (i : Nat) : Worker → Prop
  | .head index => index ≤ i
  | .copied index tick => index < i ∨ index = i ∧ 0 < tick.Frequency ∧ tick.LastTickTime + ms tick.Frequency ≤ now
  | .running index _ => index < i
  | _ => False

theorem Worker.Ahead.mono (h : w.Ahead now i) (hle : now ≤ now') : w.Ahead now' i := by
  cases w with
  | copied index tick => exact h.imp_right fun hdue => ⟨hdue.1, hdue.2.1, Int.le_trans hdue.2.2 hle⟩
  | _ => exact h

/-- The tick that the worker has a copy of, or is calling. -/
def Worker.index : Worker → Option Nat
  | .copied index _ | .running index _ => some index
  | _ => none

/-- The last tick time of the tick `i` once the worker has written back a call of it. -/
def Worker.lastTime (i : Nat) (last : Int) : Worker → Int
  | .running index called => if index = i then called else last
  | _ => last

theorem lastTime_of_not_running {last : Int} (h : ∀ called, w ≠ .running i called) : w.lastTime i last = last := by
  cases w with
  | running index called =>
    refine if_neg fun heq => h called ?_
    rw [heq]
  | _ => rfl

/-- What holds of the trigger of the tick `i` that is not answered: the tick is due, and is not being called. -/
structure Unanswered (w : Worker) (now : Int) (i : Nat) (tick : Tick) (stage : Stage) : Prop where
  inTime : stage ≠ .missed
  positive : 0 < tick.data.Frequency
  due : w.initialised = true → tick.data.LastTickTime + ms tick.data.Frequency ≤ now
  before : w.initialised = false → stage = .waiting ∧ tick.data.StartDelay ≤ 0
  notRunning : ∀ called, w ≠ .running i called
  ahead : stage = .passing → w.Ahead now i

/-- What holds of the tick `i`, wherever the worker is. -/
structure Kept (w : Worker) (startTime now : Int) (i : Nat) (tick : Tick) : Prop where
  registered : tick.registered ≤ now
  guarded : w.initialised = true → Guarded startTime now tick tick.data
  copied : ∀ data, w = .copied i data → Guarded startTime now tick data ∧
    ∀ p, tick.previous = some p → data.LastTickTime = p ∧ data.Frequency = tick.data.Frequency
  previous : ∀ p, tick.previous = some p → w.initialised = true ∧ w.lastTime i tick.data.LastTickTime = p
  called : ∀ called, w = .running i called → tick.triggered = true ∨ tick.due startTime ≤ now
  trigger : ∀ stage, tick.trigger = some stage → Unanswered w now i tick stage

theorem Unanswered.mono {stage : Stage} (h : Unanswered w now i tick stage) (hle : now ≤ now') :
    Unanswered w now' i tick stage :=
  ⟨h.inTime, h.positive, fun hw => Int.le_trans (h.due hw) hle, h.before, h.notRunning, fun hpassing => (h.ahead hpassing).mono hle⟩

theorem Kept.mono (h : Kept w startTime now i tick) (hle : now ≤ now') : Kept w startTime now' i tick where
  registered := Int.le_trans h.registered hle
  guarded hw := (h.guarded hw).mono hle
  copied data hw := ⟨(h.copied data hw).1.mono hle, (h.copied data hw).2⟩
  previous := h.previous
  called c hw := (h.called c hw).imp_right fun hdue => Int.le_trans hdue hle
  trigger stage hstage := (h.trigger stage hstage).mono hle

/-- The worker moves, and neither calls the tick `i` nor has called it. -/
theorem Kept.move (h : Kept w startTime now i tick) (hw : w.initialised = true) (hw' : w'.initialised = true)
    (hidle : ∀ called, w ≠ .running i called) (hidle' : ∀ called, w' ≠ .running i called)
    (hcopied : ∀ data, w' = .copied i data → data = tick.data)
    (hahead : tick.trigger = some .passing → w'.Ahead now i) : Kept w' startTime now i tick where
  registered := h.registered
  guarded _ := h.guarded hw
  copied data hdata := by
    obtain rfl := hcopied data hdata
    refine ⟨h.guarded hw, fun p hp => ⟨?_, rfl⟩⟩
    rw [← (h.previous p hp).2, lastTime_of_not_running hidle]
  previous p hp := by
    refine ⟨hw', ?_⟩
    rw [← (h.previous p hp).2, lastTime_of_not_running hidle, lastTime_of_not_running hidle']
  called c hc := absurd hc (hidle' c)
  trigger stage hstage := by
    have hkept := h.trigger stage hstage
    refine ⟨hkept.inTime, hkept.positive, fun _ => hkept.due hw, fun hfalse => ?_, hidle', fun hpassing => ?_⟩
    · rw [hw'] at hfalse
      nomatch hfalse
    · subst hpassing
      exact hahead hstage

structure Inv (s : State) : Prop where
  started : s.worker ≠ .stopped → s.startTime ≤ s.clock
  inside : ∀ i, s.worker.index = some i → i < s.ticks.length
  kept : ∀ i tick, s.ticks[i]? = some tick → Kept s.worker s.startTime s.clock i tick
  calls : ∀ c ∈ s.calls, c.Punctual

theorem inv_init : Inv State.init where
  started hw := absurd rfl hw
  inside _ := nofun
  kept _ _ := nofun
  calls _ := nofun

/-! ### The other threads -/

/-- The tick `id` changes and the worker stays where it is. -/
theorem inv_modify {id : Nat} {change : Tick → Tick} (h : Inv s) (hle : s.clock ≤ now)
    (hkept : ∀ tick, s.ticks[id]? = some tick → Kept s.worker s.startTime now id (change tick)) :
    Inv { s with ticks := s.ticks.modify id change, clock := now } where
  started hw := Int.le_trans (h.started hw) hle
  inside i hw := by
    rw [List.length_modify]
    exact h.inside i hw
  kept i tick htick := by
    rw [List.getElem?_modify] at htick
    obtain ⟨old, hold, rfl⟩ := Option.map_eq_some_iff.1 htick
    split_ifs with heq
    · subst heq
      exact hkept old hold
    · exact (h.kept i old hold).mono hle
  calls := h.calls

theorem inv_AddPeriodicTick {frequency startDelay : Int} (h : Inv s) (hle : s.clock ≤ now)
    (hsound : Sound s (.AddPeriodicTick now frequency startDelay)) :
    Inv { s with ticks := s.ticks ++ [newTick now frequency startDelay], clock := now } where
  started hw := Int.le_trans (h.started hw) hle
  inside i hw := by
    rw [List.length_append]
    exact Nat.lt_add_right _ (h.inside i hw)
  kept i tick htick := by
    rw [List.getElem?_append] at htick
    split_ifs at htick with hlt
    · exact (h.kept i tick htick).mono hle
    · obtain ⟨hi, rfl⟩ : i = s.ticks.length ∧ newTick now frequency startDelay = tick := by
        rw [List.getElem?_singleton] at htick
        obtain ⟨hzero, htick⟩ := Option.ite_none_right_eq_some.1 htick
        exact ⟨by omega, Option.some.inj htick⟩
      refine ⟨Int.le_refl now, fun hw => ?_, fun data hw => absurd (h.inside i (hw ▸ rfl)) hlt, nofun,
        fun c hw => absurd (h.inside i (hw ▸ rfl)) hlt, nofun⟩
      have hstart : s.startTime ≤ now := by
        refine Int.le_trans (h.started fun hstopped => ?_) hle
        dsimp only at hw
        rw [hstopped] at hw
        nomatch hw
      have hdue : (newTick now frequency startDelay).due s.startTime = now + ms startDelay := by
        unfold Tick.due newTick
        dsimp only
        rw [Int.max_eq_left hstart]
      unfold Guarded
      rw [hdue]
      rcases hsound hw with hnonpos | hdelay | hlate
      · exact .inr (.inl hnonpos)
      · refine .inr (.inr (.inr ?_))
        have := ms_nonpos hdelay
        dsimp only
        omega
      · refine .inr (.inr (.inl ?_))
        dsimp only [newTick]
        omega
  calls := h.calls

theorem kept_ChangeFrequency {id : Nat} {frequency : Int} (h : Inv s) (hle : s.clock ≤ now)
    (hsound : Sound s (.ChangeFrequency now id frequency)) (htick : s.ticks[id]? = some tick) :
    Kept s.worker s.startTime now id (tick.ChangeFrequency frequency) := by
  have hkept := (h.kept id tick htick).mono hle
  obtain ⟨hguarded, htrigger⟩ := hsound tick htick
  refine ⟨hkept.registered, hguarded, fun data hw => ⟨(hkept.copied data hw).1, nofun⟩, nofun, hkept.called,
    fun stage hstage => ?_⟩
  have hold := hkept.trigger stage hstage
  have hne : tick.trigger ≠ none := fun hnone => by
    rw [Tick.ChangeFrequency, hnone] at hstage
    nomatch hstage
  obtain ⟨hpos, hdue⟩ := htrigger hne
  exact ⟨hold.inTime, hpos, hdue, hold.before, hold.notRunning, hold.ahead⟩

theorem kept_TriggerNow {id : Nat} (h : Inv s) (hle : s.clock ≤ now) (hsound : Sound s (.TriggerNow now id))
    (htick : s.ticks[id]? = some tick) : Kept s.worker s.startTime now id (tick.TriggerNow now) := by
  have hkept := (h.kept id tick htick).mono hle
  refine ⟨hkept.registered, fun _ => .inl rfl, fun _ _ => ⟨.inl rfl, nofun⟩, nofun, fun _ _ => .inl rfl, fun stage hstage => ?_⟩
  dsimp only [Tick.TriggerNow] at hstage
  split_ifs at hstage with hpos
  · obtain ⟨hdelay, hidle⟩ := hsound tick htick hpos
    have hwaiting : ∀ old, tick.trigger = some old → stage = old := fun old hold => by
      rw [hold] at hstage
      exact (Option.some.inj hstage).symm
    have hnew : tick.trigger = none → stage = .waiting := fun hnone => by
      rw [hnone] at hstage
      exact (Option.some.inj hstage).symm
    have hdue : now - ms tick.data.Frequency + ms tick.data.Frequency ≤ now := by omega
    cases htrigger : tick.trigger with
    | none =>
      obtain rfl := hnew htrigger
      exact ⟨nofun, hpos, fun _ => hdue, fun hw => ⟨rfl, hdelay hw⟩, hidle, nofun⟩
    | some old =>
      obtain rfl := hwaiting old htrigger
      have hold := hkept.trigger stage htrigger
      exact ⟨hold.inTime, hpos, fun _ => hdue, hold.before, hidle, hold.ahead⟩
  · exact absurd (hkept.trigger stage hstage).positive hpos

/-! ### The worker -/

/-- The worker moves and the ticks change, as `change` says. -/
theorem inv_map {change : Tick → Tick} (h : Inv s) (hstarted : startTime ≤ now) (hw : w'.index = none)
    (hkept : ∀ i tick, s.ticks[i]? = some tick → Kept w' startTime now i (change tick)) :
    Inv { s with ticks := s.ticks.map change, worker := w', startTime := startTime, clock := now } where
  started _ := hstarted
  inside i hi := by
    dsimp only at hi
    rw [hw] at hi
    nomatch hi
  kept i tick htick := by
    rw [List.getElem?_map] at htick
    obtain ⟨old, hold, rfl⟩ := Option.map_eq_some_iff.1 htick
    exact hkept i old hold
  calls := h.calls

theorem kept_initialise (h : Inv s) (hle : s.clock ≤ now) (hw : s.worker = .starting) (hsound : Sound s (.DoWork now))
    (htick : s.ticks[i]? = some tick) : Kept .top s.startTime now i (tick.initialise s.startTime) := by
  have hkept := h.kept i tick htick
  rw [hw] at hkept
  have hstart : s.startTime ≤ now := Int.le_trans (h.started (by rw [hw]; nofun)) hle
  refine ⟨Int.le_trans hkept.registered hle, fun _ => ?_, nofun, fun p hp => absurd (hkept.previous p hp).1 Bool.false_ne_true,
    nofun, fun stage hstage => ?_⟩
  · have hdue : (tick.initialise s.startTime).due s.startTime = tick.due s.startTime := rfl
    unfold Guarded
    rw [hdue]
    rcases hsound hw tick (List.mem_of_getElem? htick) with hbefore | hover
    · refine .inr (.inr (.inl ?_))
      dsimp only [Tick.initialise, Tick.due]
      rw [Int.max_eq_right hbefore]
      omega
    · by_cases hbefore : tick.registered ≤ s.startTime
      · refine .inr (.inr (.inl ?_))
        dsimp only [Tick.initialise, Tick.due]
        rw [Int.max_eq_right hbefore]
        omega
      · refine .inr (.inr (.inr ?_))
        dsimp only [Tick.due]
        rw [Int.max_eq_left (by omega)]
        exact hover
  · have hold := hkept.trigger stage hstage
    obtain ⟨rfl, hdelay⟩ := hold.before rfl
    refine ⟨nofun, hold.positive, fun _ => ?_, nofun, nofun, nofun⟩
    have := ms_nonpos hdelay
    dsimp only [Tick.initialise]
    omega

theorem kept_beginPass (h : Inv s) (hle : s.clock ≤ now) (hw : s.worker = .top) (htick : s.ticks[i]? = some tick) :
    Kept (.head 0) s.startTime now i tick.beginPass := by
  have hkept := (h.kept i tick htick).mono hle
  rw [hw] at hkept
  refine ⟨hkept.registered, fun _ => hkept.guarded rfl, nofun, fun p hp => ⟨rfl, (hkept.previous p hp).2⟩, nofun,
    fun stage hstage => ?_⟩
  obtain ⟨old, hold, rfl⟩ := Option.map_eq_some_iff.1 hstage
  have htrigger := hkept.trigger old hold
  refine ⟨?_, htrigger.positive, fun _ => htrigger.due rfl, nofun, nofun, fun _ => Nat.zero_le i⟩
  split_ifs
  · nofun
  · exact htrigger.inTime

theorem kept_endPass {index : Nat} (h : Inv s) (hle : s.clock ≤ now) (hw : s.worker = .head index)
    (hend : s.ticks[index]? = none) (htick : s.ticks[i]? = some tick) : Kept .top s.startTime now i tick.endPass := by
  have hkept := (h.kept i tick htick).mono hle
  rw [hw] at hkept
  refine ⟨hkept.registered, fun _ => hkept.guarded rfl, nofun, fun p hp => ⟨rfl, (hkept.previous p hp).2⟩, nofun,
    fun stage hstage => ?_⟩
  obtain ⟨old, hold, rfl⟩ := Option.map_eq_some_iff.1 hstage
  have htrigger := hkept.trigger old hold
  -- A trigger from before the pass has been answered, for the worker has come past every tick.
  have hpassing : old ≠ .passing := fun hpassing => by
    have hahead : index ≤ i := htrigger.ahead hpassing
    have hlt := (List.getElem?_eq_some_iff.1 htick).1
    have hlength := List.getElem?_eq_none_iff.1 hend
    omega
  rw [if_neg hpassing]
  exact ⟨htrigger.inTime, htrigger.positive, fun _ => htrigger.due rfl, nofun, nofun, fun heq => absurd heq hpassing⟩

/-- The worker moves and no tick changes. -/
theorem inv_move (h : Inv s) (hle : s.clock ≤ now) (hw : s.worker.initialised = true)
    (hinside : ∀ i, w'.index = some i → i < s.ticks.length)
    (hkept : ∀ i tick, s.ticks[i]? = some tick → Kept s.worker s.startTime now i tick → Kept w' s.startTime now i tick) :
    Inv { s with worker := w', clock := now } where
  started _ := by
    refine Int.le_trans (h.started fun hstopped => ?_) hle
    rw [hstopped] at hw
    nomatch hw
  inside := hinside
  kept i tick htick := hkept i tick htick ((h.kept i tick htick).mono hle)
  calls := h.calls

theorem inv_copy {index : Nat} (h : Inv s) (hle : s.clock ≤ now) (hw : s.worker = .head index)
    (htick : s.ticks[index]? = some tick) : Inv { s with worker := .copied index tick.data, clock := now } := by
  refine inv_move h hle (by rw [hw]; rfl) (fun i hi => ?_) fun i tick' htick' hkept => ?_
  · obtain rfl := Option.some.inj hi
    exact (List.getElem?_eq_some_iff.1 htick).1
  · rw [hw] at hkept
    refine hkept.move rfl rfl nofun nofun (fun data hdata => ?_) fun hpassing => ?_
    · obtain ⟨rfl, rfl⟩ := Worker.copied.inj hdata
      obtain rfl := Option.some.inj (htick.symm.trans htick')
      rfl
    · have htrigger := hkept.trigger _ hpassing
      obtain hlt | heq := Nat.lt_or_eq_of_le (htrigger.ahead rfl)
      · exact .inl hlt
      · subst heq
        obtain rfl := Option.some.inj (htick.symm.trans htick')
        exact .inr ⟨rfl, htrigger.positive, htrigger.due rfl⟩

theorem inv_skip {index : Nat} (h : Inv s) (hle : s.clock ≤ now) (hw : s.worker = .copied index data)
    (hdue : ¬ data.isDue now) : Inv { s with worker := .head (index + 1), clock := now } := by
  refine inv_move h hle (by rw [hw]; rfl) nofun fun i tick _ hkept => ?_
  rw [hw] at hkept
  refine hkept.move rfl rfl nofun nofun nofun fun hpassing => ?_
  obtain hlt | ⟨-, hdata⟩ := (hkept.trigger _ hpassing).ahead rfl
  · exact hlt
  · exact absurd (isDue_iff.2 hdata) hdue

theorem inv_call {index : Nat} (h : Inv s) (hle : s.clock ≤ now) (hw : s.worker = .copied index data)
    (hdue : data.isDue now) : Inv { s.call now index with clock := now } := by
  have hlt : index < s.ticks.length := h.inside index (by rw [hw]; rfl)
  have htick : s.ticks[index]? = some s.ticks[index] := List.getElem?_eq_getElem hlt
  generalize s.ticks[index] = tick at htick
  have hcall := h.kept index tick htick
  rw [hw] at hcall
  obtain ⟨hguarded, hcopy⟩ := hcall.copied data rfl
  have hdelayed := hguarded.delayed hdue hle
  have hlast := (isDue_iff.1 hdue).2
  unfold State.call
  rw [htick]
  refine ⟨fun _ => Int.le_trans (h.started (by rw [hw]; nofun)) hle, fun i hi => ?_, fun i tick' htick' => ?_, ?_⟩
  · obtain rfl := Option.some.inj hi
    rw [List.length_modify]
    exact hlt
  · rw [List.getElem?_modify] at htick'
    obtain ⟨old, hold, rfl⟩ := Option.map_eq_some_iff.1 htick'
    have hkept := (h.kept i old hold).mono hle
    rw [hw] at hkept
    split_ifs with heq
    · subst heq
      obtain rfl := Option.some.inj (htick.symm.trans hold)
      refine ⟨hkept.registered, fun _ => hkept.guarded rfl, nofun, fun p hp => ⟨rfl, ?_⟩, fun _ _ => hdelayed, nofun⟩
      obtain rfl := Option.some.inj hp
      exact if_pos rfl
    · have hidle : ∀ called, Worker.running index now ≠ .running i called := fun called hrunning =>
        heq (Worker.running.inj hrunning).1
      refine hkept.move rfl rfl nofun hidle nofun fun hpassing => ?_
      obtain hbefore | ⟨rfl, -⟩ := (hkept.trigger _ hpassing).ahead rfl
      · exact hbefore
      · exact absurd rfl heq
  · refine List.forall_mem_append.2 ⟨h.calls, List.forall_mem_singleton.2 ⟨hdelayed, fun p hp => ?_⟩⟩
    obtain ⟨hp', hfrequency⟩ := hcopy p hp
    dsimp only
    rw [← hp', ← hfrequency]
    exact hlast

theorem inv_writeBack {index : Nat} {called : Int} (h : Inv s) (hle : s.clock ≤ now) (hw : s.worker = .running index called) :
    Inv { s with ticks := s.ticks.modify index (·.writeBack called), worker := .head (index + 1), clock := now } := by
  refine ⟨fun _ => Int.le_trans (h.started (by rw [hw]; nofun)) hle, nofun, fun i tick' htick' => ?_, h.calls⟩
  rw [List.getElem?_modify] at htick'
  obtain ⟨old, hold, rfl⟩ := Option.map_eq_some_iff.1 htick'
  have hkept := (h.kept i old hold).mono hle
  rw [hw] at hkept
  split_ifs with heq
  · subst heq
    refine ⟨hkept.registered, fun _ => (hkept.called called rfl).imp_right fun hover => .inr (.inr hover), nofun,
      fun p hp => ⟨rfl, ?_⟩, nofun, fun stage hstage => absurd rfl ((hkept.trigger stage hstage).notRunning called)⟩
    rw [← (hkept.previous p hp).2]
    exact (if_pos rfl).symm
  · have hidle : ∀ c, Worker.running index called ≠ .running i c := fun c hrunning => heq (Worker.running.inj hrunning).1
    exact hkept.move rfl rfl hidle nofun nofun fun hpassing => (hkept.trigger _ hpassing).ahead rfl

theorem inv_DoWork (h : Inv s) (hle : s.clock ≤ now) (hsound : Sound s (.DoWork now)) :
    Inv { s.DoWork now with clock := now } := by
  unfold State.DoWork
  cases hw : s.worker with
  | stopped =>
    refine ⟨fun _ => Int.le_refl now, nofun, fun i tick htick => ?_, h.calls⟩
    have hkept := (h.kept i tick htick).mono hle
    rw [hw] at hkept
    refine ⟨hkept.registered, nofun, nofun, fun p hp => absurd (hkept.previous p hp).1 Bool.false_ne_true, nofun,
      fun stage hstage => ?_⟩
    have htrigger := hkept.trigger stage hstage
    obtain ⟨rfl, hdelay⟩ := htrigger.before rfl
    exact ⟨htrigger.inTime, htrigger.positive, nofun, fun _ => ⟨rfl, hdelay⟩, nofun, nofun⟩
  | starting =>
    exact inv_map (s := s) h (Int.le_trans (h.started (by rw [hw]; nofun)) hle) rfl
      fun i tick htick => kept_initialise (s := s) h hle hw hsound htick
  | top =>
    exact inv_map (s := s) h (Int.le_trans (h.started (by rw [hw]; nofun)) hle) rfl
      fun i tick htick => kept_beginPass (s := s) h hle hw htick
  | head index =>
    dsimp only
    cases htick : s.ticks[index]? with
    | none =>
      exact inv_map (s := s) h (Int.le_trans (h.started (by rw [hw]; nofun)) hle) rfl
        fun i tick htick' => kept_endPass (s := s) h hle hw htick htick'
    | some tick => exact inv_copy (s := s) h hle hw htick
  | copied index data =>
    dsimp only
    split_ifs with hdue
    · exact inv_call (s := s) h hle hw hdue
    · exact inv_skip (s := s) h hle hw hdue
  | running index called => exact inv_writeBack (s := s) h hle hw

/-! ### Runs -/

theorem inv_step (h : Inv s) (hsound : Sound s e) (hstep : step s e = some t) : Inv t := by
  obtain ⟨hle, ht⟩ := Option.ite_none_right_eq_some.1 hstep
  obtain rfl := Option.some.inj ht
  cases e with
  | AddPeriodicTick now frequency startDelay => exact inv_AddPeriodicTick h hle hsound
  | ChangeFrequency now id frequency => exact inv_modify h hle fun _ => kept_ChangeFrequency h hle hsound
  | TriggerNow now id => exact inv_modify h hle fun _ => kept_TriggerNow h hle hsound
  | DoWork now => exact inv_DoWork h hle hsound

theorem Inv.periodic (h : Inv s) : Periodic s where
  calls := h.calls
  answered tick htick hmissed := by
    obtain ⟨i, hi⟩ := List.mem_iff_getElem?.1 htick
    exact ((h.kept i tick hi).trigger _ hmissed).inTime rfl

/-- In every run of sound steps every call is punctual and every trigger is answered, for any interleaving of the worker and any
number of ticks. -/
theorem periodic_ticks {es : List Event} (hmeets : timer.Meets Sound State.init es)
    (h : timer.exec State.init es = some s) : Periodic s :=
  (Machine.invariant_meets (M := timer) inv_init (fun _ _ _ hinv hsound hstep => inv_step hinv hsound hstep) hmeets h).periodic

/-- A condition on the tick that an id names. -/
def decidableForallTick {P : Tick → Prop} [DecidablePred P] (s : State) (id : Nat) :
    Decidable (∀ tick, s.ticks[id]? = some tick → P tick) :=
  match s.ticks[id]? with
  | none => .isTrue nofun
  | some tick => decidable_of_iff (P tick) ⟨fun hP _ htick => Option.some.inj htick ▸ hP, fun hall => hall tick rfl⟩

instance decidableGuarded : Decidable (Guarded startTime now tick data) :=
  inferInstanceAs (Decidable (_ ∨ _ ∨ _ ∨ _))

instance decidableNotRunning (w : Worker) (i : Nat) : Decidable (∀ now, w ≠ .running i now) :=
  match w with
  | .running index _ => decidable_of_iff (index ≠ i)
      ⟨fun hne _ heq => hne (Worker.running.inj heq).1, fun hall heq => hall _ (congrArg (Worker.running · _) heq)⟩
  | .stopped | .starting | .top | .head _ | .copied _ _ => .isTrue nofun

instance decidableSound (s : State) (e : Event) : Decidable (Sound s e) :=
  match e with
  | .AddPeriodicTick _ _ _ => inferInstanceAs (Decidable (_ → _ ∨ _ ∨ _))
  | .ChangeFrequency _ id _ => decidableForallTick s id
  | .TriggerNow _ id => decidableForallTick s id
  | .DoWork _ => inferInstanceAs (Decidable (_ → _))

/-- A tick of ten milliseconds is called, and triggered while the worker sleeps. -/
def triggered : List Event :=
  [.AddPeriodicTick 0 10 0, .DoWork 1, .DoWork 2, .DoWork 3, .DoWork 4, .DoWork 5, .DoWork 6, .DoWork 7, .TriggerNow 8 0, .DoWork 9,
    .DoWork 10, .DoWork 11]

theorem periodic_ticks_triggered :
    ∃ s, timer.exec State.init triggered = some s ∧ s.calls.map Call.time = [5, 11] ∧ Periodic s := by
  have hexec : timer.exec State.init triggered = some _ := rfl
  exact ⟨_, hexec, rfl, periodic_ticks (by decide +kernel) hexec⟩

/-- A tick with a delay of five seconds that is registered a minute after the start is called at once; and a trigger while the
tick runs is overwritten. -/
theorem periodic_ticks_fails :
    (∃ s, timer.exec State.init [.DoWork 0, .DoWork 0, .DoWork 0, .AddPeriodicTick 60000000000 1000 5000, .DoWork 60000000001,
        .DoWork 60000000002] = some s ∧ ¬ Periodic s) ∧
    ∃ s, timer.exec State.init [.AddPeriodicTick 0 10 0, .DoWork 1, .DoWork 2, .DoWork 3, .DoWork 4, .DoWork 5, .TriggerNow 6 0,
        .DoWork 7, .DoWork 8, .DoWork 9, .DoWork 10, .DoWork 11, .DoWork 12] = some s ∧ ¬ Periodic s := by
  refine ⟨⟨_, rfl, fun h => ?_⟩, _, rfl, fun h => ?_⟩
  · exact absurd (h.calls _ (List.mem_singleton_self _)).delayed (by decide)
  · exact h.answered _ (List.mem_singleton_self _) rfl

end V2xHub.ThreadTimer
