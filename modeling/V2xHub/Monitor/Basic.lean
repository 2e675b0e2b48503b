import V2xHub.Lib.CString
import V2xHub.Lib.Machine
import V2xHub.Lib.OrdMap
import Mathlib.Data.Finset.Basic
import Mathlib.Logic.Function.Basic
import Mathlib.Algebra.Ring.Nat

/-!
# The plugin monitor

`PluginMonitor`: messages are noted per plugin id as they arrive, on whatever thread, and the monitor
thread goes through its cycle: it credits the noted messages to the running entries, reads the enabled
plugins from the database, removes the dead entries, signals the entries that are disabled or silent, and
starts what is enabled and not running. The parts of a cycle are single events, so that messages, process
deaths and the clock may come between any two of them; a process that is started and the entry for it are
two events as well. What only the statements speak about (which process a message came from, when a process
was last heard, the signals sent) is kept beside the members of the source.
-/

namespace V2xHub.PluginMonitor

/-! ### The executable of an installed plugin

How `monitorThreadEntry` makes the path it executes out of the path and the executable name of an
installed plugin, and when it disables the plugin instead. -/

/-- The tokens before the removal of the empty ones: the text between separators, and what is left behind
the last one. -/
def splitTokens (sep : UInt8) (token : Str) : Str → List Str
  | [] => if token = [] then [] else [token]
  | c :: cs => if c = sep then token :: splitTokens sep [] cs else splitTokens sep (token ++ [c]) cs

/-- The loop that erases the empty tokens from index `i` on. After an erasure it goes on at index 1. -/
def eraseEmpty : Nat → Nat → List Str → List Str
  | 0, _, results => results
  | fuel + 1, i, results =>
    if 0 < results.length then
      match results[i]? with
      | none => results
      | some token => if token = [] then eraseEmpty fuel 1 (results.eraseIdx i) else eraseEmpty fuel (i + 1) results
    else results

/-- `StringUtils::tokenize(str, sep, true)`, `sep` being one character. The loop makes at most as many
erasures as there are tokens, and at most as many steps between two of them. -/
def tokenize (str : Str) (sep : UInt8) : List Str :=
  let results := splitTokens sep [] str
  eraseEmpty ((results.length + 1) * (results.length + 1)) 0 results

/-- `'/'`. -/
def slash : UInt8 := 47

/-- The tokens that are not `"."` are appended to the path; the depth counts them, a `".."` downwards. -/
def walkExe : List Str → (path : Str) → (exeDepth : Int) → (outOfRoot : Bool) → Str × Int × Bool
  | [], path, exeDepth, outOfRoot => (path, exeDepth, outOfRoot)
  | token :: tokens, path, exeDepth, outOfRoot =>
    let (path, exeDepth) :=
      if token ≠ CString.lit "." then
        (path ++ slash :: token, if token = CString.lit ".." then exeDepth - 1 else exeDepth + 1)
      else (path, exeDepth)
    walkExe tokens path exeDepth (outOfRoot || exeDepth < 0)

/-- The full path that is executed; `none` where the plugin is disabled. -/
def fullpath (path exeName : Str) : Option Str :=
  let tokenizedExeName := tokenize exeName slash
  if tokenizedExeName.length = 0 then none
  else
    let directory := (tokenize path slash).flatMap fun token => slash :: token
    let (fullpath, exeDepth, outOfRoot) := walkExe tokenizedExeName directory 0 false
    if exeDepth < 1 || outOfRoot then none else some fullpath

/-! ### The state -/

/-- A process id. It is not used again after the death of its process. -/
abbrev Pid := Nat

/-- `2 ^ 64`: times are `uint64_t`. -/
def uint64 : Nat := 2 ^ 64

/-- A row of the table of installed plugins, as far as the monitor reads it. -/
structure InstalledPluginEntry where
  id : Nat
  pluginId : Nat
  path : Str
  exeName : Str
  maxMessageInterval : Nat

/-- The times of the messages with one source id since the last cycle, and who sent them. -/
structure MessageData where
  firstReceivedTime : Nat
  lastReceivedTime : Nat
  origins : List Pid

inductive PluginKillState where
  | alive
  | sigTermSent
  | sigIntSent
  | sigKillSent
deriving DecidableEq

inductive Signal where
  | SIGTERM
  | SIGINT
  | SIGKILL
deriving DecidableEq

/-- What the monitor knows of a process, and whose messages were credited to it. -/
structure PluginMonitoringData where
  pid : Pid
  startTime : Nat
  lastReceivedTime : Nat
  killStatus : PluginKillState
  credited : List Pid
deriving DecidableEq

/-- The key and the value of an entry of `mRunningPlugins`. -/
structure Running where
  entry : InstalledPluginEntry
  data : PluginMonitoringData

/-- A call of `onMessageReceived` that has read the clock and not yet noted the message. -/
structure Receiving where
  sourceId : Nat
  rxTime : Nat
  origin : Pid

/-- Where the monitor thread is in its cycle. -/
inductive Phase where
  | sleep
  | query
  | reap (enabled : OrdMap Nat InstalledPluginEntry) (maxStartupTime : Nat)
  | check (enabled : OrdMap Nat InstalledPluginEntry) (maxStartupTime : Nat)
  | start (enabled : List InstalledPluginEntry)
  | record (entry : InstalledPluginEntry) (pid : Pid) (enabled : List InstalledPluginEntry)
  | setStatus
  | terminated

/-- A signal that was sent: to whom, which one, in which cycle, and how many cycles had come to the check
before. -/
structure Sent where
  pid : Pid
  signal : Signal
  cycle : Nat
  check : Nat
deriving DecidableEq

/-- The monitor, the threads in `onMessageReceived`, and the processes. -/
structure State (τ : Type*) where
  clock : Nat
  messages : OrdMap Nat MessageData
  running : OrdMap Nat Running
  receiving : τ → Option Receiving
  phase : Phase
  dead : Finset Pid
  started : Finset Pid
  heard : Pid → Option Nat
  instances : List (Nat × Pid)
  seenDead : Finset Pid
  cycles : Nat
  checks : Nat
  sent : List Sent

inductive Event (τ : Type*) where
  | tick (time : Nat)
  | die (pid : Pid)
  | receive (t : τ) (sourceId : Nat) (origin : Pid)
  | store (t : τ)
  | collect
  | query (rows : Option (List InstalledPluginEntry)) (maxStartupTime : Nat)
  | reap
  | check
  | start (result : Option Pid)
  | record
  | setStatus (ok : Bool)

/-! ### The parts of a cycle -/

/-- `mMessages` after one more message with the source id. -/
def noteMessage (messages : OrdMap Nat MessageData) (r : Receiving) : OrdMap Nat MessageData :=
  match messages.find? r.sourceId with
  | none => messages.insert r.sourceId ⟨r.rxTime, r.rxTime, [r.origin]⟩
  | some m => messages.insert r.sourceId { m with lastReceivedTime := r.rxTime, origins := r.origin :: m.origins }

/-- The running entry that the inner loop of the collection stops at. -/
def runningOf (running : OrdMap Nat Running) (sourceId : Nat) : Option (Nat × Running) :=
  running.entries.find? fun e => e.2.entry.pluginId = sourceId

def PluginMonitoringData.credit (d : PluginMonitoringData) (m : MessageData) : PluginMonitoringData :=
  { d with lastReceivedTime := m.lastReceivedTime, credited := m.origins ++ d.credited }

def creditMessage (running : OrdMap Nat Running) (message : Nat × MessageData) : OrdMap Nat Running :=
  match runningOf running message.1 with
  | none => running
  | some (id, r) => running.insert id { r with data := r.data.credit message.2 }

/-- The start-up time that the event log gets with the first message of a plugin. -/
def startupTime (d : PluginMonitoringData) (m : MessageData) : Nat :=
  (m.firstReceivedTime + (uint64 - d.startTime)) % uint64

/-- The set that `getInstalledPlugins` makes of the rows: of two rows with one id the first stays. -/
def enabledPlugins (rows : List InstalledPluginEntry) : OrdMap Nat InstalledPluginEntry :=
  rows.foldl (fun enabled row => if (enabled.find? row.id).isSome then enabled else enabled.insert row.id row) .empty

/-- Is the entry to be terminated. -/
def killIt (enabled : OrdMap Nat InstalledPluginEntry) (maxStartupTime currentTime : Nat) (r : Running) : Bool :=
  match enabled.find? r.entry.id with
  | none => true
  | some enabledPlugin =>
    if r.data.lastReceivedTime = 0 then
      (r.data.startTime + maxStartupTime) % uint64 ≤ currentTime
    else
      r.entry.maxMessageInterval ≠ 0 &&
        (enabledPlugin.maxMessageInterval + r.data.lastReceivedTime) % uint64 ≤ currentTime

/-- The kill status of an entry after the check, and the signal that the check sends. -/
def nextKill (enabled : OrdMap Nat InstalledPluginEntry) (maxStartupTime currentTime : Nat) (r : Running) :
    PluginKillState × Option Signal :=
  match r.data.killStatus with
  | .sigTermSent => (.sigIntSent, some .SIGINT)
  | .sigIntSent => (.sigKillSent, some .SIGKILL)
  | .sigKillSent => (.sigKillSent, none)
  | .alive =>
    if killIt enabled maxStartupTime currentTime r then (.sigTermSent, some .SIGTERM) else (.alive, none)

namespace State
variable {τ : Type*} [DecidableEq τ]

def init : State τ where
  clock := 0
  messages := .empty
  running := .empty
  receiving := fun _ => none
  phase := .sleep
  dead := ∅
  started := ∅
  heard := fun _ => none
  instances := []
  seenDead := ∅
  cycles := 0
  checks := 0
  sent := []

def collect (s : State τ) : State τ :=
  { s with
    running := s.messages.entries.foldl creditMessage s.running
    messages := .empty
    phase := .query
    cycles := s.cycles + 1 }

/-- The dead entries are removed: `waitpid` and `kill(pid, 0)`. -/
def reap (s : State τ) (enabled : OrdMap Nat InstalledPluginEntry) (maxStartupTime : Nat) : State τ :=
  { s with
    running := s.running.filter fun _ r => r.data.pid ∉ s.dead
    seenDead := s.seenDead ∪ ((s.running.entries.map fun e => e.2.data.pid).filter (· ∈ s.dead)).toFinset
    phase := .check enabled maxStartupTime }

def check (s : State τ) (enabled : OrdMap Nat InstalledPluginEntry) (maxStartupTime : Nat) : State τ :=
  { s with
    running := s.running.map fun _ r =>
      { r with data := { r.data with killStatus := (nextKill enabled maxStartupTime s.clock r).1 } }
    sent := s.sent ++ s.running.entries.filterMap fun e =>
      (nextKill enabled maxStartupTime s.clock e.2).2.map fun signal =>
        ⟨e.2.data.pid, signal, s.cycles, s.checks⟩
    checks := s.checks + 1
    phase := .start (enabled.entries.map Prod.snd) }

/-- One pass of the loop that starts the enabled plugins, up to the execution. -/
def start (s : State τ) (entry : InstalledPluginEntry) (rest : List InstalledPluginEntry) (result : Option Pid) :
    Option (State τ) :=
  if (s.running.find? entry.id).isSome then some { s with phase := .start rest }
  else if (fullpath entry.path entry.exeName).isNone then some { s with phase := .start rest }
  else
    match result with
    | none => some { s with phase := .start rest }
    | some pid =>
      if pid ∈ s.started then none
      else some { s with
        started := insert pid s.started
        instances := (entry.id, pid) :: s.instances
        phase := .record entry pid rest }

def record (s : State τ) (entry : InstalledPluginEntry) (pid : Pid) (rest : List InstalledPluginEntry) : State τ :=
  { s with running := s.running.insert entry.id ⟨entry, pid, s.clock, 0, .alive, []⟩, phase := .start rest }

def step (s : State τ) : Event τ → Option (State τ)
  | .tick time => if s.clock ≤ time ∧ time < uint64 then some { s with clock := time } else none
  | .die pid => if pid ∈ s.started then some { s with dead := insert pid s.dead } else none
  | .receive t sourceId origin =>
    if (s.receiving t).isSome then none
    else if sourceId = 0 then some s
    else some { s with
      receiving := Function.update s.receiving t (some ⟨sourceId, s.clock, origin⟩)
      heard := Function.update s.heard origin (some s.clock) }
  | .store t =>
    match s.receiving t with
    | none => none
    | some r => some { s with
        messages := noteMessage s.messages r, receiving := Function.update s.receiving t none }
  | .collect =>
    match s.phase with
    | .sleep => some s.collect
    | _ => none
  | .query rows maxStartupTime =>
    match s.phase, rows with
    | .query, none => some { s with phase := .sleep }
    | .query, some rows => some { s with
        phase := .reap (enabledPlugins rows) (if maxStartupTime = 0 then 15000 else maxStartupTime) }
    | _, _ => none
  | .reap =>
    match s.phase with
    | .reap enabled maxStartupTime => some (s.reap enabled maxStartupTime)
    | _ => none
  | .check =>
    match s.phase with
    | .check enabled maxStartupTime => some (s.check enabled maxStartupTime)
    | _ => none
  | .start result =>
    match s.phase with
    | .start [] => some { s with phase := .setStatus }
    | .start (entry :: rest) => s.start entry rest result
    | _ => none
  | .record =>
    match s.phase with
    | .record entry pid rest => some (s.record entry pid rest)
    | _ => none
  | .setStatus ok =>
    match s.phase with
    | .setStatus => some { s with phase := if ok then .sleep else .terminated }
    | _ => none

/-- What an event can do, one case for each branch of `step`. -/
inductive Steps (s : State τ) : Event τ → State τ → Prop
  | tick {time} (hle : s.clock ≤ time) (hlt : time < uint64) : Steps s (.tick time) { s with clock := time }
  | die {pid} (h : pid ∈ s.started) : Steps s (.die pid) { s with dead := insert pid s.dead }
  | receiveCore {t sourceId origin} (h : sourceId = 0) : Steps s (.receive t sourceId origin) s
  | receive {t sourceId origin} (h : s.receiving t = none) (h0 : sourceId ≠ 0) :
    Steps s (.receive t sourceId origin) { s with
      receiving := Function.update s.receiving t (some ⟨sourceId, s.clock, origin⟩)
      heard := Function.update s.heard origin (some s.clock) }
  | store {t r} (h : s.receiving t = some r) : Steps s (.store t) { s with
      messages := noteMessage s.messages r, receiving := Function.update s.receiving t none }
  | collect (h : s.phase = .sleep) : Steps s .collect s.collect
  | queryFailed {m} (h : s.phase = .query) : Steps s (.query none m) { s with phase := .sleep }
  | query {rows m} (h : s.phase = .query) : Steps s (.query (some rows) m) { s with
      phase := .reap (enabledPlugins rows) (if m = 0 then 15000 else m) }
  | reap {enabled m} (h : s.phase = .reap enabled m) : Steps s .reap (s.reap enabled m)
  | check {enabled m} (h : s.phase = .check enabled m) : Steps s .check (s.check enabled m)
  | startDone {result} (h : s.phase = .start []) : Steps s (.start result) { s with phase := .setStatus }
  | startNext {entry rest result} (h : s.phase = .start (entry :: rest)) :
    Steps s (.start result) { s with phase := .start rest }
  | execute {entry rest pid} (h : s.phase = .start (entry :: rest)) (hrun : s.running.find? entry.id = none)
      (hpid : pid ∉ s.started) : Steps s (.start (some pid)) { s with
        started := insert pid s.started
        instances := (entry.id, pid) :: s.instances
        phase := .record entry pid rest }
  | record {entry pid rest} (h : s.phase = .record entry pid rest) : Steps s .record (s.record entry pid rest)
  | setStatus {ok} (h : s.phase = .setStatus) :
    Steps s (.setStatus ok) { s with phase := if ok then .sleep else .terminated }

theorem steps_start {s s' : State τ} {entry : InstalledPluginEntry} {rest : List InstalledPluginEntry}
    {result : Option Pid} (hphase : s.phase = .start (entry :: rest)) (h : s.start entry rest result = some s') :
    s.Steps (.start result) s' := by
  unfold start at h
  split_ifs at h with hrun hpath
  · exact Option.some.inj h ▸ .startNext hphase
  · exact Option.some.inj h ▸ .startNext hphase
  cases result with
  | none => exact Option.some.inj h ▸ .startNext hphase
  | some pid =>
    dsimp only at h
    split_ifs at h with hpid
    exact Option.some.inj h ▸ .execute hphase (Option.not_isSome_iff_eq_none.1 hrun) hpid

theorem steps_of_step {s s' : State τ} {e : Event τ} (h : s.step e = some s') : s.Steps e s' := by
  unfold step at h
  split at h
  · split_ifs at h with htime
    exact Option.some.inj h ▸ .tick htime.1 htime.2
  · split_ifs at h with hpid
    exact Option.some.inj h ▸ .die hpid
  · split_ifs at h with ht hsource
    · exact Option.some.inj h ▸ .receiveCore hsource
    · exact Option.some.inj h ▸ .receive (Option.not_isSome_iff_eq_none.1 ht) hsource
  · split at h
    · cases h
    · exact Option.some.inj h ▸ .store ‹_›
  · split at h
    · exact Option.some.inj h ▸ .collect ‹_›
    · cases h
  · split at h
    · exact Option.some.inj h ▸ .queryFailed ‹_›
    · exact Option.some.inj h ▸ .query ‹_›
    · cases h
  · split at h
    · exact Option.some.inj h ▸ .reap ‹_›
    · cases h
  · split at h
    · exact Option.some.inj h ▸ .check ‹_›
    · cases h
  · split at h
    · exact Option.some.inj h ▸ .startDone ‹_›
    · exact steps_start ‹_› h
    · cases h
  · split at h
    · exact Option.some.inj h ▸ .record ‹_›
    · cases h
  · split at h
    · exact Option.some.inj h ▸ .setStatus ‹_›
    · cases h

end State

/-- All runs of the monitor, the threads `τ` handing it messages. -/
def machine (τ : Type*) [DecidableEq τ] : Machine (State τ) (Event τ) where
  init := .init
  step := State.step

end V2xHub.PluginMonitor
