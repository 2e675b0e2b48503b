import V2xHub.Lib.CString
import Mathlib.Data.List.Induction
import Mathlib.Data.List.Nodup
import Mathlib.Order.Basic
import Mathlib.Data.List.Perm.Basic
import Mathlib.Data.List.Perm.Subperm

/-!
# The connection pool

An entry of the pool is in use while its shared pointer has another owner. But a copy of a `DbConnection` has no old information, so
it connects anew and does not share. The handle of a new entry is such a copy, and so is one that is returned from a variable, unless
the compiler elides the copy; and the entries are copied when the vector grows. Only a handle that is returned from a variable without
a copy shares with its entry, and it is connected as the entry was made.

Connections are numbered as they are made.
-/

namespace V2xHub.DbConnectionPool

structure DbConnectionInformation where
  url : Str
  username : Str
  password : Str
  db : Str

/-- A connection at the server: how it was made, the database in use, and whether it is open. -/
structure Server where
  url : Str
  username : Str
  db : Str
  isOpen : Bool

structure DbConnection where
  connection : Option Nat
  connInfo : DbConnectionInformation
  oldInfo : DbConnectionInformation

/-- How an attempt to connect ends; `noDatabase` if the server refuses the `USE` behind it. -/
inductive Attempt where
  | connected
  | refused
  | noDatabase
deriving DecidableEq

def Attempt.Fails (a : Attempt) (db : Str) : Prop := a = .refused ∨ (a = .noDatabase ∧ db ≠ [])

instance decidableFails (a : Attempt) (db : Str) : Decidable (a.Fails db) := inferInstanceAs (Decidable (_ ∨ _))

def DEFAULT_USER : Str := [73, 86, 80]

def noInfo : DbConnectionInformation := ⟨[], [], [], []⟩

namespace DbConnection

def IsConnected (servers : List Server) (c : DbConnection) : Bool :=
  match c.connection with
  | none => false
  | some id => (servers[id]?).any Server.isOpen

/-- `none` if there is an exception. -/
def Reconnect (a : Attempt) (servers : List Server) (c : DbConnection) : Option (List Server × DbConnection) :=
  if c.IsConnected servers = true ∧ c.oldInfo.url = c.connInfo.url ∧ c.oldInfo.username = c.connInfo.username ∧
      c.oldInfo.password = c.connInfo.password then some (servers, c)
  else if a.Fails c.connInfo.db then none
  else some (servers ++ [⟨c.connInfo.url, c.connInfo.username, c.connInfo.db, true⟩],
    { c with connection := some servers.length, oldInfo := c.connInfo })

/-- Of a connection that was not initialised. -/
def Init (a : Attempt) (servers : List Server) (connection : Option Nat) (info : DbConnectionInformation) :
    Option (List Server × DbConnection) :=
  Reconnect a servers
    ⟨connection, { info with username := if info.username = [] then DEFAULT_USER else info.username }, noInfo⟩

/-- The copy constructor. -/
def copy (a : Attempt) (servers : List Server) (c : DbConnection) : Option (List Server × DbConnection) :=
  Init a servers c.connection c.connInfo

/-- The elements of a vector, when it grows. -/
def copyAll (attempts : Nat → Attempt) : Nat → List Server → List DbConnection → Option (List Server × List DbConnection)
  | _, servers, [] => some (servers, [])
  | k, servers, c :: cs => do
    let (servers, c) ← copy (attempts k) servers c
    let (servers, cs) ← copyAll attempts (k + 1) servers cs
    return (servers, c :: cs)

end DbConnection

/-- The pool, with the room in its vector, and the handles that live. -/
structure State where
  servers : List Server
  pool : List DbConnection
  capacity : Nat
  handles : List DbConnection

def ids (l : List DbConnection) : List (Option Nat) := l.map DbConnection.connection

def State.init : State := ⟨[], [], 0, []⟩

/-- `use_count` of the shared pointer in `c`. -/
def use_count (s : State) (c : DbConnection) : Nat :=
  (s.pool.filter fun d => d.connection = c.connection).length + (s.handles.filter fun h => h.connection = c.connection).length

def ActiveSize (s : State) : Nat := (s.pool.filter fun c => 1 < use_count s c).length

/-- The entry to be used: unused and connected, or else unused. -/
def unused (s : State) : Option Nat :=
  (s.pool.findIdx? fun c => decide (use_count s c ≤ 1) && c.IsConnected s.servers).or
    (s.pool.findIdx? fun c => decide (use_count s c ≤ 1))

/-- `elided`: whether the compiler elides the copy of a variable that is returned. -/
structure Platform where
  connectStr : Str
  max_size : Nat
  elided : Bool

variable (p : Platform)

def urlOf (info : DbConnectionInformation) : Str := if info.url = [] then p.connectStr else info.url

def userOf (info : DbConnectionInformation) : Str := if info.username = [] then DEFAULT_USER else info.username

/-- The attempts to connect are numbered. -/
def Connection (s : State) (info : DbConnectionInformation) (attempts : Nat → Attempt) : State × Option DbConnection :=
  match unused s with
  | some i =>
    match s.pool[i]?.bind fun c => c.copy (attempts 0) s.servers with
    | none => (s, none)
    | some (servers, newConn) =>
      let s' := { s with servers := servers, pool := s.pool.set i newConn }
      if p.elided then ({ s' with handles := s'.handles ++ [newConn] }, some newConn)
      else
        match newConn.copy (attempts 1) servers with
        | none => (s', none)
        | some (servers, handle) => ({ s' with servers := servers, handles := s'.handles ++ [handle] }, some handle)
  | none =>
    if p.max_size ≤ s.pool.length then (s, none)
    else
      let grown := do
        let (servers, c) ← DbConnection.Init (attempts 0) s.servers none { info with url := urlOf p info }
        if s.pool.length < s.capacity then return (({ s with servers := servers, pool := s.pool ++ [c] } : State), c, 1)
        else
          let (servers, pool) ← DbConnection.copyAll attempts 1 servers s.pool
          return (({ s with servers := servers, pool := pool ++ [c], capacity := max 1 (2 * s.pool.length) } : State), c,
            1 + s.pool.length)
      match grown with
      | none => (s, none)
      | some (s', c, k) =>
        match c.copy (attempts k) s'.servers with
        | none => (s', none)
        | some (servers, handle) => ({ s' with servers := servers, handles := s'.handles ++ [handle] }, some handle)

def closeAll (ids : List (Option Nat)) (servers : List Server) : List Server :=
  servers.mapIdx fun id server => if some id ∈ ids then { server with isOpen := false } else server

def Release (s : State) : State :=
  { s with servers := closeAll ((s.pool.filter fun c => use_count s c ≤ 1).map DbConnection.connection) s.servers }

inductive Event where
  | request (info : DbConnectionInformation) (attempts : Nat → Attempt)
  | drop (handle : Nat)
  | serverClose (id : Nat)
  | release

def step (s : State) : Event → State
  | .request info attempts => (Connection p s info attempts).1
  | .drop handle => { s with handles := s.handles.eraseIdx handle }
  | .serverClose id => { s with servers := closeAll [some id] s.servers }
  | .release => Release s

def exec (es : List Event) : State := es.foldl (step p) State.init

/-! ### What is expected -/

/-- The handle is connected as it was requested. -/
def ConnectedTo (servers : List Server) (info : DbConnectionInformation) (handle : DbConnection) : Prop :=
  ∃ id server, handle.connection = some id ∧ servers[id]? = some server ∧ server.isOpen = true ∧ server.url = urlOf p info ∧
    server.username = userOf info ∧ server.db = info.db

/-- The handles do not share, and are the connections in use. -/
def Tracks (s : State) : Prop := (s.handles.map DbConnection.connection).Nodup ∧ ActiveSize s = s.handles.length

/-- What a step is expected to do. -/
def StepMeets (s : State) : Event → Prop
  | .request info attempts => ∀ handle, (Connection p s info attempts).2 = some handle →
      ConnectedTo p (Connection p s info attempts).1.servers info handle
  | .release => ∀ handle ∈ s.handles, handle.IsConnected (Release s).servers = handle.IsConnected s.servers
  | _ => True

/-- Over a whole run. -/
def Meets (es : List Event) : Prop :=
  ∀ before rest, es = before ++ rest → Tracks (exec p before) ∧ ∀ e ∈ rest.head?, StepMeets p (exec p before) e

/-- The entry was made with what is requested. -/
def SameInfo (c : DbConnection) (info : DbConnectionInformation) : Prop :=
  c.connInfo.url = urlOf p info ∧ c.connInfo.username = userOf info ∧ c.connInfo.db = info.db

/-- An unused entry is returned with no further copy, and was made with what is requested, or the request fails: the first attempt
does; or the copy that is returned does; and if the entries are copied, one of these copies, or else no handle lives. -/
def RequestOk (s : State) (info : DbConnectionInformation) (attempts : Nat → Attempt) : Prop :=
  match unused s with
  | some i => ∀ c, s.pool[i]? = some c → (attempts 0).Fails c.connInfo.db ∨
      (if p.elided then SameInfo p c info else (attempts 1).Fails c.connInfo.db)
  | none => p.max_size ≤ s.pool.length ∨ (attempts 0).Fails info.db ∨
      if s.pool.length < s.capacity then (attempts 1).Fails info.db
      else (∃ j c, s.pool[j]? = some c ∧ (attempts (1 + j)).Fails c.connInfo.db) ∨
        (s.handles = [] ∧ (attempts (1 + s.pool.length)).Fails info.db)

def StepOk (s : State) : Event → Prop
  | .request info attempts => RequestOk p s info attempts
  | _ => True

variable {p} {s : State} {a : Attempt} {servers : List Server} {c : DbConnection} {info : DbConnectionInformation}
  {attempts : Nat → Attempt} {l : List DbConnection} {i k n : Nat}

/-! ### Copies -/

namespace DbConnection

/-- The information of before is missing, so the connection is always made. -/
theorem init_eq (connection : Option Nat) : Init a servers connection info = if a.Fails info.db then none else
    some (servers ++ [⟨info.url, userOf info, info.db, true⟩],
      ⟨some servers.length, { info with username := userOf info }, { info with username := userOf info }⟩) := by
  have hne : ([] : Str) ≠ userOf info := by
    rw [userOf]
    split_ifs with h
    · simp [DEFAULT_USER]
    · exact Ne.symm h
  rw [Init, Reconnect, if_neg fun h => hne h.2.2.1]
  rfl

theorem copy_eq (h : c.connInfo.username ≠ []) : copy a servers c = if a.Fails c.connInfo.db then none else
    some (servers ++ [⟨c.connInfo.url, c.connInfo.username, c.connInfo.db, true⟩],
      ⟨some servers.length, c.connInfo, c.connInfo⟩) := by
  rw [copy, init_eq, show userOf c.connInfo = c.connInfo.username from if_neg h]

theorem copyAll_eq_none (servers : List Server) (h : ∀ c ∈ l, c.connInfo.username ≠ []) : copyAll attempts k servers l = none ↔
    ∃ j c, l[j]? = some c ∧ (attempts (k + j)).Fails c.connInfo.db := by
  induction l generalizing k servers with
  | nil => simp [copyAll]
  | cons c l ih =>
    have hl : ∀ c ∈ l, c.connInfo.username ≠ [] := fun d hd => h d (List.mem_cons_of_mem _ hd)
    rw [copyAll, copy_eq (h c List.mem_cons_self)]
    by_cases hf : (attempts k).Fails c.connInfo.db
    · rw [if_pos hf]
      exact iff_of_true rfl ⟨0, c, rfl, hf⟩
    · rw [if_neg hf]
      have hmap : ∀ x : Option (List Server × List DbConnection),
          (x.bind fun x => some (x.1, ⟨some servers.length, c.connInfo, c.connInfo⟩ :: x.2)) = none ↔ x = none := by
        rintro (_ | _) <;> simp
      have htail : (copyAll attempts (k + 1) (servers ++ [⟨c.connInfo.url, c.connInfo.username, c.connInfo.db, true⟩]) l = none) ↔
          ∃ j d, (c :: l)[j]? = some d ∧ (attempts (k + j)).Fails d.connInfo.db := by
        rw [ih _ hl]
        constructor
        · rintro ⟨j, d, hd, hj⟩
          exact ⟨j + 1, d, hd, by rwa [Nat.add_comm j, ← Nat.add_assoc]⟩
        · rintro ⟨_ | j, d, hd, hj⟩
          · obtain rfl := Option.some.inj hd
            exact absurd hj hf
          · exact ⟨j, d, hd, by rwa [Nat.add_comm j, ← Nat.add_assoc] at hj⟩
      rw [← htail]
      exact hmap _

theorem copyAll_eq_some {servers' : List Server} {l' : List DbConnection} (h : ∀ c ∈ l, c.connInfo.username ≠ [])
    (hcopy : copyAll attempts k servers l = some (servers', l')) :
    servers'.length = servers.length + l.length ∧ l'.length = l.length ∧
      ids l' = (List.range' servers.length l.length).map some ∧ ∀ c ∈ l', c.connInfo.username ≠ [] := by
  induction l generalizing k servers servers' l' with
  | nil =>
    cases hcopy
    simp [ids]
  | cons c l ih =>
    have hc := h c List.mem_cons_self
    rw [copyAll, copy_eq hc] at hcopy
    split_ifs at hcopy with hf
    · cases hcopy
    · simp only [Option.bind_eq_bind, Option.bind_some, Option.bind_eq_some_iff, Prod.exists] at hcopy
      obtain ⟨servers'', cs, hcs, heq⟩ := hcopy
      cases heq
      obtain ⟨hlen, hlen', hids, hnamed⟩ := ih (fun d hd => h d (List.mem_cons_of_mem _ hd)) hcs
      rw [List.length_append, List.length_singleton] at hlen hids
      refine ⟨by rw [hlen, List.length_cons]; omega, by rw [List.length_cons, hlen', List.length_cons], ?_, ?_⟩
      · rw [ids, List.map_cons, ← ids, hids, List.length_cons, List.range'_succ, List.map_cons]
      · exact List.forall_mem_cons.2 ⟨hc, hnamed⟩

end DbConnection

/-! ### Numbers -/

/-- All of them are connections before the `n`-th. -/
def Below (n : Nat) (l : List DbConnection) : Prop := ∀ c ∈ l, ∃ id < n, c.connection = some id

theorem Below.mono {m : Nat} (h : Below n l) (hm : n ≤ m) : Below m l := fun c hc => by
  obtain ⟨id, hid, heq⟩ := h c hc
  exact ⟨id, by omega, heq⟩

theorem Below.concat (h : Below n l) (hc : c.connection = some k) (hk : k < n) : Below n (l ++ [c]) := by
  intro d hd
  rcases List.mem_append.1 hd with hd | hd
  · exact h d hd
  · obtain rfl := List.mem_singleton.1 hd
    exact ⟨k, hk, hc⟩

theorem Below.not_mem (h : Below n l) (hk : n ≤ k) : some k ∉ ids l := by
  intro hmem
  obtain ⟨c, hc, heq⟩ := List.mem_map.1 hmem
  obtain ⟨id, hid, hid'⟩ := h c hc
  rw [hid'] at heq
  obtain rfl := Option.some.inj heq
  omega

theorem nodup_concat (h : (ids l).Nodup) (hbelow : Below n l) (hc : c.connection = some k) (hk : n ≤ k) :
    (ids (l ++ [c])).Nodup := by
  rw [ids, List.map_append, List.map_singleton, hc]
  rw [← List.concat_eq_append]
  exact List.Nodup.concat (hbelow.not_mem hk) h

theorem nodup_set (h : (ids l).Nodup) (hbelow : Below n l) (hc : c.connection = some k) (hk : n ≤ k) :
    (ids (l.set i c)).Nodup := by
  rw [ids, List.map_set, hc]
  exact h.set (hbelow.not_mem hk)

theorem mem_ids_set {x : Option Nat} {d : DbConnection} (hx : x ∈ ids l) (hd : l[i]? = some d) (hne : x ≠ d.connection) :
    x ∈ ids (l.set i c) := by
  obtain ⟨e, he, rfl⟩ := List.mem_map.1 hx
  obtain ⟨j, hj⟩ := List.mem_iff_getElem?.1 he
  refine List.mem_map.2 ⟨e, List.mem_iff_getElem?.2 ⟨j, ?_⟩, rfl⟩
  rw [List.getElem?_set_ne, hj]
  rintro rfl
  obtain rfl := Option.some.inj (hj.symm.trans hd)
  exact hne rfl

/-! ### What holds in every run -/

/-- Every connection has one entry at most and one handle at most. -/
structure WF (s : State) : Prop where
  pool_below : Below s.servers.length s.pool
  pool_nodup : (ids s.pool).Nodup
  handles_below : Below s.servers.length s.handles
  handles_nodup : (ids s.handles).Nodup
  named : ∀ c ∈ s.pool, c.connInfo.username ≠ []

theorem wf_init : WF .init := ⟨by simp [Below, State.init], by simp [ids, State.init], by simp [Below, State.init],
  by simp [ids, State.init], by simp [State.init]⟩

/-- The handles are entries. -/
def Tracked (s : State) : Prop := ∀ x ∈ ids s.handles, x ∈ ids s.pool

theorem use_count_eq (s : State) (c : DbConnection) :
    use_count s c = (ids s.pool).count c.connection + (ids s.handles).count c.connection := by
  have hcount : ∀ l : List DbConnection, (l.filter fun d => d.connection = c.connection).length = (ids l).count c.connection := by
    intro l
    rw [List.count, ids, List.countP_map, List.countP_eq_length_filter]
    refine congrArg List.length (List.filter_congr fun d _ => ?_)
    rw [Function.comp_apply, beq_eq_decide]
  rw [use_count, hcount, hcount]

theorem one_lt_use_count (h : WF s) (hc : c ∈ s.pool) : 1 < use_count s c ↔ c.connection ∈ ids s.handles := by
  have hone : (ids s.pool).count c.connection = 1 := List.count_eq_one_of_mem h.pool_nodup (List.mem_map_of_mem hc)
  rw [use_count_eq, hone, ← List.count_pos_iff]
  omega

theorem activeSize_eq (h : WF s) : ActiveSize s = ((ids s.handles).filter (· ∈ ids s.pool)).length := by
  have hpool : ActiveSize s = ((ids s.pool).filter (· ∈ ids s.handles)).length := by
    rw [ActiveSize, show ids s.pool = s.pool.map DbConnection.connection from rfl, List.filter_map, List.length_map]
    congr 1
    refine List.filter_congr fun c hc => ?_
    simp only [one_lt_use_count h hc, Function.comp_apply]
  have hperm : ((ids s.pool).filter (· ∈ ids s.handles)).Perm ((ids s.handles).filter (· ∈ ids s.pool)) := by
    refine (List.perm_ext_iff_of_nodup (h.pool_nodup.filter _) (h.handles_nodup.filter _)).2 fun x => ?_
    simp only [List.mem_filter, decide_eq_true_eq]
    exact and_comm
  rw [hpool, hperm.length_eq]

theorem tracks_iff (h : WF s) : Tracks s ↔ Tracked s := by
  rw [Tracks, activeSize_eq h, and_iff_right (show (s.handles.map DbConnection.connection).Nodup from h.handles_nodup)]
  have hlen : s.handles.length = (ids s.handles).length := (List.length_map _).symm
  rw [hlen, List.length_filter_eq_length_iff]
  simp only [decide_eq_true_eq]
  rfl

theorem unused_some (h : unused s = some i) : ∃ c, s.pool[i]? = some c ∧ use_count s c ≤ 1 := by
  have hof : ∀ {q : DbConnection → Bool}, s.pool.findIdx? q = some i → (∀ c, q c = true → use_count s c ≤ 1) →
      ∃ c, s.pool[i]? = some c ∧ use_count s c ≤ 1 := by
    intro q hq himp
    obtain ⟨hi, hat, -⟩ := List.findIdx?_eq_some_iff_getElem.1 hq
    exact ⟨s.pool[i], List.getElem?_eq_getElem hi, himp _ hat⟩
  rw [unused] at h
  rcases Option.or_eq_some_iff.1 h with h | ⟨-, h⟩
  · exact hof h fun c hc => of_decide_eq_true (Bool.and_eq_true_iff.1 hc).1
  · exact hof h fun c hc => of_decide_eq_true hc

/-! ### Requests -/

/-- What a request is to do with the invariants and the expectations, given its result. -/
def RequestSpec (p : Platform) (s : State) (info : DbConnectionInformation) (ok : Prop) (r : State × Option DbConnection) : Prop :=
  WF r.1 ∧ (Tracked s → (ok ↔ Tracked r.1 ∧ ∀ handle, r.2 = some handle → ConnectedTo p r.1.servers info handle))

theorem spec_same {ok : Prop} (h : WF s) (hok : ok) : RequestSpec p s info ok (s, none) :=
  ⟨h, fun ht => iff_of_true hok ⟨ht, fun _ h => by cases h⟩⟩

/-- A handle that is connected for itself is no entry. -/
theorem spec_copied {ok : Prop} {server : Server} {handle : DbConnection} (h : WF s)
    (hhandle : handle.connection = some s.servers.length) (hok : ¬ ok) {s₀ : State} :
    RequestSpec p s₀ info ok
      ({ s with servers := s.servers ++ [server], handles := s.handles ++ [handle] }, some handle) := by
  have hlen : s.servers.length ≤ (s.servers ++ [server]).length := by simp
  refine ⟨⟨h.pool_below.mono hlen, h.pool_nodup, (h.handles_below.mono hlen).concat hhandle (by simp), nodup_concat h.handles_nodup
    h.handles_below hhandle (Nat.le_refl _), h.named⟩, fun _ => iff_of_false hok fun ht => ?_⟩
  refine h.pool_below.not_mem (Nat.le_refl _) (ht.1 _ ?_)
  rw [ids, List.map_append, List.map_singleton, hhandle]
  exact List.mem_append_right _ List.mem_cons_self

theorem wf_set (server : Server) (i : Nat) (newConn : DbConnection) (h : WF s) (hnew : newConn.connection = some s.servers.length)
    (hnamed : newConn.connInfo.username ≠ []) :
    WF { s with servers := s.servers ++ [server], pool := s.pool.set i newConn } := by
  have hlen : s.servers.length ≤ (s.servers ++ [server]).length := by simp
  refine ⟨fun c hc => ?_, nodup_set h.pool_nodup h.pool_below hnew (Nat.le_refl _), h.handles_below.mono hlen, h.handles_nodup, fun c hc => ?_⟩
  · rcases List.mem_or_eq_of_mem_set hc with hc | rfl
    · exact h.pool_below.mono hlen c hc
    · exact ⟨_, by simp, hnew⟩
  · rcases List.mem_or_eq_of_mem_set hc with hc | rfl
    · exact h.named c hc
    · exact hnamed

theorem tracked_set (servers : List Server) {newConn : DbConnection} (h : WF s) (hc : s.pool[i]? = some c)
    (hcount : use_count s c ≤ 1) (ht : Tracked s) :
    Tracked { s with servers := servers, pool := s.pool.set i newConn } := by
  intro x hx
  refine mem_ids_set (ht x hx) hc ?_
  rintro rfl
  have := (one_lt_use_count h (List.mem_of_getElem? hc)).2 hx
  omega

/-- A handle that is the entry is tracked, so the request is good exactly if the entry is as it was requested. -/
theorem spec_shared {ok : Prop} {server : Server} {newConn : DbConnection} (h : WF s) (hc : s.pool[i]? = some c)
    (hcount : use_count s c ≤ 1) (hnew : newConn.connection = some s.servers.length) (hnamed : newConn.connInfo.username ≠ [])
    (hopen : server.isOpen = true)
    (hok : ok ↔ server.url = urlOf p info ∧ server.username = userOf info ∧ server.db = info.db) :
    RequestSpec p s info ok ({ s with
      servers := s.servers ++ [server]
      pool := s.pool.set i newConn
      handles := s.handles ++ [newConn] }, some newConn) := by
  have hwf := wf_set server i newConn h hnew hnamed
  refine ⟨⟨hwf.pool_below, hwf.pool_nodup, hwf.handles_below.concat hnew (by simp),
    nodup_concat h.handles_nodup h.handles_below hnew (Nat.le_refl _), hwf.named⟩, fun ht => ?_⟩
  have htracked : Tracked { s with
      servers := s.servers ++ [server]
      pool := s.pool.set i newConn
      handles := s.handles ++ [newConn] } := by
    intro x hx
    rw [ids, List.map_append, List.mem_append] at hx
    rcases hx with hx | hx
    · exact tracked_set s.servers h hc hcount ht x hx
    · obtain rfl := List.mem_singleton.1 hx
      obtain ⟨hi, -⟩ := List.getElem?_eq_some_iff.1 hc
      exact List.mem_map.2 ⟨_, List.mem_set hi _, rfl⟩
  rw [hok, and_iff_right htracked]
  constructor
  · rintro hsame handle ⟨⟩
    exact ⟨_, server, hnew, List.getElem?_concat_length, hopen, hsame⟩
  · intro hconnected
    obtain ⟨id, server', hid, hserver, -, hsame⟩ := hconnected newConn rfl
    obtain rfl := Option.some.inj (hnew.symm.trans hid)
    obtain rfl := Option.some.inj (List.getElem?_concat_length.symm.trans hserver)
    exact hsame

theorem unused_spec (h : WF s) (hu : unused s = some i) :
    RequestSpec p s info (RequestOk p s info attempts) (Connection p s info attempts) := by
  obtain ⟨c, hc, hcount⟩ := unused_some hu
  have hnamed := h.named c (List.mem_of_getElem? hc)
  have hok : RequestOk p s info attempts ↔ ((attempts 0).Fails c.connInfo.db ∨
      (if p.elided then SameInfo p c info else (attempts 1).Fails c.connInfo.db)) := by
    rw [RequestOk, hu]
    simp [hc]
  rw [hok]
  by_cases h0 : (attempts 0).Fails c.connInfo.db
  · have hconn : Connection p s info attempts = (s, none) := by
      rw [Connection, hu]
      simp only [hc, Option.bind_some, DbConnection.copy_eq hnamed, if_pos h0]
    rw [hconn]
    exact spec_same h (.inl h0)
  · have hset := fun server => wf_set server i ⟨some s.servers.length, c.connInfo, c.connInfo⟩ h rfl hnamed
    rcases helided : p.elided with _ | _
    · simp only [h0, false_or, Bool.false_eq_true, if_false]
      by_cases h1 : (attempts 1).Fails c.connInfo.db
      · have hconn : Connection p s info attempts = ({ s with
            servers := s.servers ++ [⟨c.connInfo.url, c.connInfo.username, c.connInfo.db, true⟩]
            pool := s.pool.set i ⟨some s.servers.length, c.connInfo, c.connInfo⟩ }, none) := by
          rw [Connection, hu]
          simp only [hc, Option.bind_some, DbConnection.copy_eq hnamed, if_neg h0, helided, Bool.false_eq_true, if_false,
            DbConnection.copy_eq (c := ⟨some s.servers.length, c.connInfo, c.connInfo⟩) hnamed, if_pos h1]
        rw [hconn]
        exact ⟨hset _, fun ht => iff_of_true h1 ⟨tracked_set _ h hc hcount ht, fun _ h => by cases h⟩⟩
      · have hconn : Connection p s info attempts = ({ s with
            servers := (s.servers ++ [⟨c.connInfo.url, c.connInfo.username, c.connInfo.db, true⟩]) ++
              [⟨c.connInfo.url, c.connInfo.username, c.connInfo.db, true⟩]
            pool := s.pool.set i ⟨some s.servers.length, c.connInfo, c.connInfo⟩
            handles := s.handles ++ [⟨some (s.servers ++
              [(⟨c.connInfo.url, c.connInfo.username, c.connInfo.db, true⟩ : Server)]).length, c.connInfo, c.connInfo⟩] },
            some ⟨some (s.servers ++
              [(⟨c.connInfo.url, c.connInfo.username, c.connInfo.db, true⟩ : Server)]).length, c.connInfo, c.connInfo⟩) := by
          rw [Connection, hu]
          simp only [hc, Option.bind_some, DbConnection.copy_eq hnamed, if_neg h0, helided, Bool.false_eq_true, if_false,
            DbConnection.copy_eq (c := ⟨some s.servers.length, c.connInfo, c.connInfo⟩) hnamed, if_neg h1]
        rw [hconn]
        exact spec_copied (hset _) rfl h1
    · have hconn : Connection p s info attempts = ({ s with
          servers := s.servers ++ [⟨c.connInfo.url, c.connInfo.username, c.connInfo.db, true⟩]
          pool := s.pool.set i ⟨some s.servers.length, c.connInfo, c.connInfo⟩
          handles := s.handles ++ [⟨some s.servers.length, c.connInfo, c.connInfo⟩] },
          some ⟨some s.servers.length, c.connInfo, c.connInfo⟩) := by
        rw [Connection, hu]
        simp only [hc, Option.bind_some, DbConnection.copy_eq hnamed, if_neg h0, helided, if_true]
      rw [hconn]
      simp only [h0, false_or, if_true]
      exact spec_shared h hc hcount rfl hnamed rfl Iff.rfl

/-! ### A new entry -/

section
variable {server : Server} {e : DbConnection} {servers' : List Server} {pool' : List DbConnection}

theorem wf_concat (server : Server) (h : WF s) (hentry : e.connection = some s.servers.length)
    (hnamed : e.connInfo.username ≠ []) : WF { s with servers := s.servers ++ [server], pool := s.pool ++ [e] } := by
  have hlen : s.servers.length ≤ (s.servers ++ [server]).length := by simp
  refine ⟨(h.pool_below.mono hlen).concat hentry (by simp), nodup_concat h.pool_nodup h.pool_below hentry (Nat.le_refl _),
    h.handles_below.mono hlen, h.handles_nodup, fun c hc => ?_⟩
  rcases List.mem_append.1 hc with hc | hc
  · exact h.named c hc
  · obtain rfl := List.mem_singleton.1 hc
    exact hnamed

/-- The copies of the entries have the numbers behind that of the new entry. -/
theorem copied_spec (h : WF s) (hcopy : DbConnection.copyAll attempts 1 (s.servers ++ [server]) s.pool = some (servers', pool')) :
    s.servers.length < servers'.length ∧ (ids pool').Nodup ∧
      ∀ x ∈ ids pool', ∃ id, x = some id ∧ s.servers.length < id ∧ id < servers'.length := by
  obtain ⟨hservers, -, hids, -⟩ := DbConnection.copyAll_eq_some h.named hcopy
  rw [List.length_append, List.length_singleton] at hservers hids
  refine ⟨by omega, ?_, fun x hx => ?_⟩
  · rw [hids]
    exact List.Nodup.map (fun _ _ h => Option.some.inj h) List.nodup_range'
  · rw [hids] at hx
    obtain ⟨id, hid, rfl⟩ := List.mem_map.1 hx
    rw [List.mem_range'_1] at hid
    exact ⟨id, rfl, by omega, by omega⟩

theorem wf_copied (h : WF s) (hcopy : DbConnection.copyAll attempts 1 (s.servers ++ [server]) s.pool = some (servers', pool'))
    (hentry : e.connection = some s.servers.length) (hnamed : e.connInfo.username ≠ []) (capacity : Nat) :
    WF { s with servers := servers', pool := pool' ++ [e], capacity := capacity } := by
  obtain ⟨hlen, hnodup, hnew⟩ := copied_spec h hcopy
  obtain ⟨-, -, -, hnamed'⟩ := DbConnection.copyAll_eq_some h.named hcopy
  refine ⟨?_, ?_, h.handles_below.mono (Nat.le_of_lt hlen), h.handles_nodup, fun c hc => ?_⟩
  · refine Below.concat (fun c hc => ?_) hentry hlen
    obtain ⟨id, heq, -, hlt⟩ := hnew _ (List.mem_map_of_mem hc)
    exact ⟨id, hlt, heq⟩
  · rw [ids, List.map_append, List.map_singleton, hentry, ← List.concat_eq_append]
    refine List.Nodup.concat (fun hmem => ?_) hnodup
    obtain ⟨id, heq, hlt, -⟩ := hnew _ hmem
    obtain rfl := Option.some.inj heq
    omega
  · rcases List.mem_append.1 hc with hc | hc
    · exact hnamed' c hc
    · obtain rfl := List.mem_singleton.1 hc
      exact hnamed

/-- No handle is an entry of a vector that has grown. -/
theorem tracked_copied_iff (h : WF s)
    (hcopy : DbConnection.copyAll attempts 1 (s.servers ++ [server]) s.pool = some (servers', pool'))
    (hentry : e.connection = some s.servers.length) (capacity : Nat) :
    Tracked { s with servers := servers', pool := pool' ++ [e], capacity := capacity } ↔ s.handles = [] := by
  obtain ⟨-, -, hnew⟩ := copied_spec h hcopy
  constructor
  · intro ht
    refine List.eq_nil_iff_forall_not_mem.2 fun c hc => ?_
    obtain ⟨id, hid, heq⟩ := h.handles_below c hc
    have hmem : c.connection ∈ ids (pool' ++ [e]) := ht _ (List.mem_map_of_mem hc)
    rw [ids, List.map_append, ← ids, List.map_singleton, hentry, heq, List.mem_append] at hmem
    rcases hmem with hmem | hmem
    · obtain ⟨id', heq', hlt, -⟩ := hnew _ hmem
      obtain rfl := Option.some.inj heq'
      omega
    · have := Option.some.inj (List.mem_singleton.1 hmem)
      omega
  · intro hnil x hx
    rw [show ids s.handles = [] by rw [hnil]; rfl] at hx
    cases hx

end

theorem grown_spec (h : WF s) (hu : unused s = none) :
    RequestSpec p s info (RequestOk p s info attempts) (Connection p s info attempts) := by
  have hok : RequestOk p s info attempts ↔ (p.max_size ≤ s.pool.length ∨ (attempts 0).Fails info.db ∨
      if s.pool.length < s.capacity then (attempts 1).Fails info.db
      else (∃ j c, s.pool[j]? = some c ∧ (attempts (1 + j)).Fails c.connInfo.db) ∨
        (s.handles = [] ∧ (attempts (1 + s.pool.length)).Fails info.db)) := by
    rw [RequestOk, hu]
  rw [hok]
  by_cases hmax : p.max_size ≤ s.pool.length
  · have hconn : Connection p s info attempts = (s, none) := by
      rw [Connection, hu]
      simp only [if_pos hmax]
    rw [hconn]
    exact spec_same h (.inl hmax)
  by_cases h0 : (attempts 0).Fails info.db
  · have hconn : Connection p s info attempts = (s, none) := by
      rw [Connection, hu]
      simp only [if_neg hmax, DbConnection.init_eq, if_pos h0]
      rfl
    rw [hconn]
    exact spec_same h (.inr (.inl h0))
  simp only [hmax, h0, false_or]
  -- the new entry
  set fresh : DbConnectionInformation := { info with url := urlOf p info, username := userOf { info with url := urlOf p info } } with hfresh
  have hnamed : fresh.username ≠ [] := by
    show userOf { info with url := urlOf p info } ≠ []
    rw [userOf]
    split_ifs with hu
    · simp [DEFAULT_USER]
    · exact hu
  set server : Server := ⟨fresh.url, fresh.username, fresh.db, true⟩ with hserver
  set entry : DbConnection := ⟨some s.servers.length, fresh, fresh⟩ with hentry
  have hinit : DbConnection.Init (attempts 0) s.servers none { info with url := urlOf p info } =
      some (s.servers ++ [server], entry) := by
    rw [DbConnection.init_eq, if_neg h0]
  have hcopy : ∀ (a : Attempt) (servers : List Server), entry.copy a servers = if a.Fails info.db then none else
      some (servers ++ [server], ⟨some servers.length, fresh, fresh⟩) := fun a servers => DbConnection.copy_eq hnamed
  have hlen : (s.servers ++ [server]).length = s.servers.length + 1 := by simp
  by_cases hroom : s.pool.length < s.capacity
  · have hwf := wf_concat server h (e := entry) rfl hnamed
    simp only [hroom, if_true]
    by_cases h1 : (attempts 1).Fails info.db
    · have hconn : Connection p s info attempts = ({ s with servers := s.servers ++ [server], pool := s.pool ++ [entry] }, none) := by
        rw [Connection, hu]
        simp only [if_neg hmax, hinit, Option.bind_eq_bind, Option.bind_some, if_pos hroom, pure, hcopy, if_pos h1]
      rw [hconn]
      refine ⟨hwf, fun ht => iff_of_true h1 ⟨fun x hx => ?_, fun _ h => by cases h⟩⟩
      show x ∈ ids (s.pool ++ [entry])
      rw [ids, List.map_append]
      exact List.mem_append_left _ (ht x hx)
    · have hconn : Connection p s info attempts = ({ s with
          servers := (s.servers ++ [server]) ++ [server], pool := s.pool ++ [entry]
          handles := s.handles ++ [⟨some (s.servers ++ [server]).length, fresh, fresh⟩] },
          some ⟨some (s.servers ++ [server]).length, fresh, fresh⟩) := by
        rw [Connection, hu]
        simp only [if_neg hmax, hinit, Option.bind_eq_bind, Option.bind_some, if_pos hroom, pure, hcopy, if_neg h1]
      rw [hconn]
      exact spec_copied hwf rfl h1
  · simp only [hroom, if_false]
    rcases hall : DbConnection.copyAll attempts 1 (s.servers ++ [server]) s.pool with _ | ⟨servers', pool'⟩
    · have hconn : Connection p s info attempts = (s, none) := by
        rw [Connection, hu]
        simp only [if_neg hmax, hinit, Option.bind_eq_bind, Option.bind_some, if_neg hroom, hall, Option.bind_none]
      rw [hconn]
      exact spec_same h (.inl ((DbConnection.copyAll_eq_none _ h.named).1 hall))
    · have hcopies : ¬ ∃ j c, s.pool[j]? = some c ∧ (attempts (1 + j)).Fails c.connInfo.db := by
        rw [← DbConnection.copyAll_eq_none (s.servers ++ [server]) h.named, hall]
        simp
      have hwf := wf_copied (e := entry) h hall rfl hnamed (max 1 (2 * s.pool.length))
      have htracked := tracked_copied_iff (e := entry) h hall rfl (max 1 (2 * s.pool.length))
      by_cases hlast : (attempts (1 + s.pool.length)).Fails info.db
      · have hconn : Connection p s info attempts =
            ({ s with servers := servers', pool := pool' ++ [entry], capacity := max 1 (2 * s.pool.length) }, none) := by
          rw [Connection, hu]
          simp only [if_neg hmax, hinit, Option.bind_eq_bind, Option.bind_some, if_neg hroom, hall, pure, hcopy, if_pos hlast]
        rw [hconn]
        refine ⟨hwf, fun _ => ?_⟩
        simp only [hcopies, false_or, hlast, and_true, htracked]
        exact ⟨fun hnil => ⟨hnil, fun _ h => by cases h⟩, And.left⟩
      · have hconn : Connection p s info attempts = ({ s with
            servers := servers' ++ [server], pool := pool' ++ [entry], capacity := max 1 (2 * s.pool.length)
            handles := s.handles ++ [⟨some servers'.length, fresh, fresh⟩] }, some ⟨some servers'.length, fresh, fresh⟩) := by
          rw [Connection, hu]
          simp only [if_neg hmax, hinit, Option.bind_eq_bind, Option.bind_some, if_neg hroom, hall, pure, hcopy, if_neg hlast]
        rw [hconn]
        exact spec_copied hwf rfl fun hor => hor.elim hcopies fun hand => hlast hand.2

theorem request_spec (h : WF s) : RequestSpec p s info (RequestOk p s info attempts) (Connection p s info attempts) := by
  rcases hu : unused s with _ | i
  · exact grown_spec h hu
  · exact unused_spec h hu

/-! ### Runs -/

theorem length_closeAll (l : List (Option Nat)) (servers : List Server) : (closeAll l servers).length = servers.length :=
  List.length_mapIdx

theorem WF.closeAll (h : WF s) (l : List (Option Nat)) : WF { s with servers := closeAll l s.servers } where
  pool_below := by
    show Below (DbConnectionPool.closeAll l s.servers).length _
    rw [length_closeAll]
    exact h.pool_below
  pool_nodup := h.pool_nodup
  handles_below := by
    show Below (DbConnectionPool.closeAll l s.servers).length _
    rw [length_closeAll]
    exact h.handles_below
  handles_nodup := h.handles_nodup
  named := h.named

theorem wf_step (h : WF s) (e : Event) : WF (step p s e) := by
  cases e with
  | request info attempts => exact (request_spec h).1
  | drop handle =>
    have hsub := List.eraseIdx_sublist s.handles handle
    exact ⟨h.pool_below, h.pool_nodup, fun c hc => h.handles_below c (hsub.mem hc), (hsub.map _).nodup h.handles_nodup, h.named⟩
  | serverClose id => exact h.closeAll _
  | release => exact h.closeAll _

/-- A connection that is closed has no other owner than its entry. -/
theorem isConnected_release (h : WF s) {handle : DbConnection} (hmem : handle ∈ s.handles) :
    handle.IsConnected (Release s).servers = handle.IsConnected s.servers := by
  obtain ⟨id, -, hid⟩ := h.handles_below handle hmem
  have hnot : some id ∉ (s.pool.filter fun c => use_count s c ≤ 1).map DbConnection.connection := by
    intro hin
    obtain ⟨c, hc, heq⟩ := List.mem_map.1 hin
    obtain ⟨hpool, hcount⟩ := List.mem_filter.1 hc
    have hused := (one_lt_use_count h hpool).2 (by rw [heq, ← hid]; exact List.mem_map_of_mem hmem)
    have := of_decide_eq_true hcount
    omega
  have hat : (Release s).servers[id]? = s.servers[id]? := by
    rw [Release, closeAll, List.getElem?_mapIdx]
    rcases s.servers[id]? with _ | server
    · rfl
    · rw [Option.map_some, if_neg hnot]
  rw [DbConnection.IsConnected, DbConnection.IsConnected, hid]
  dsimp only
  rw [hat]

theorem step_iff (h : WF s) (ht : Tracked s) (e : Event) :
    StepOk p s e ↔ Tracked (step p s e) ∧ StepMeets p s e := by
  cases e with
  | request info attempts => exact (request_spec h).2 ht
  | drop handle =>
    refine iff_of_true trivial ⟨fun x hx => ht x ?_, trivial⟩
    exact ((List.eraseIdx_sublist s.handles handle).map DbConnection.connection).mem hx
  | serverClose id => exact iff_of_true trivial ⟨ht, trivial⟩
  | release => exact iff_of_true trivial ⟨ht, fun handle hmem => isConnected_release h hmem⟩

theorem exec_concat (es : List Event) (e : Event) : exec p (es ++ [e]) = step p (exec p es) e := by
  rw [exec, List.foldl_append]
  rfl

theorem wf_exec (es : List Event) : WF (exec p es) := by
  induction es using List.reverseRecOn with
  | nil => exact wf_init
  | append_singleton es e ih =>
    rw [exec_concat]
    exact wf_step ih e

/-- A run is as expected just where each of its requests is answered from an entry that was made so and not copied again, or fails. -/
theorem pool_iff (p : Platform) (es : List Event) :
    Meets p es ↔ ∀ before e rest, es = before ++ e :: rest → StepOk p (exec p before) e := by
  constructor
  · rintro h before e rest rfl
    have hbefore := h before (e :: rest) rfl
    have hafter := h (before ++ [e]) rest (by simp)
    rw [tracks_iff (wf_exec _)] at hbefore hafter
    rw [exec_concat] at hafter
    exact (step_iff (wf_exec before) hbefore.1 e).2 ⟨hafter.1, hbefore.2 e rfl⟩
  · intro h
    have htracked : ∀ before rest, es = before ++ rest → Tracked (exec p before) := by
      intro before
      induction before using List.reverseRecOn with
      | nil => exact fun _ _ x hx => absurd hx (by simp [exec, State.init, ids])
      | append_singleton before e ih =>
        rintro rest rfl
        rw [exec_concat]
        have heq : before ++ [e] ++ rest = before ++ e :: rest := by simp
        exact ((step_iff (wf_exec before) (ih _ heq) e).1 (h before e rest heq)).1
    rintro before rest rfl
    refine ⟨(tracks_iff (wf_exec before)).2 (htracked before rest rfl), fun e he => ?_⟩
    obtain ⟨rest', rfl⟩ := List.head?_eq_some_iff.1 he
    exact ((step_iff (wf_exec before) (htracked before _ rfl) e).1 (h before e rest' rfl)).2

/-- The first handle is no entry. -/
theorem not_pool : ¬ Meets ⟨CString.lit "tcp://127.0.0.1:3306", 2 ^ 55, false⟩ [.request noInfo fun _ => .connected] := by
  intro h
  have hactive := (h [.request noInfo fun _ => .connected] [] rfl).1.2
  revert hactive
  decide

end V2xHub.DbConnectionPool
