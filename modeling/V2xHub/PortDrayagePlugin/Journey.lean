import V2xHub.Lib.Machine
import V2xHub.PortDrayagePlugin.Holding
import Mathlib.Data.List.Chain

/-!
# The journeys of the trucks

A fleet of trucks, each of which sends a first message without an action and then reports every action that it is
sent, in whatever order the messages of the trucks arrive. A truck that is sent nothing more has finished. The plan of
a truck is its chain in the table before the first message; holding actions come into it while others are under way.
-/

namespace V2xHub.PortDrayagePlugin
open Linked

/-- The trucks by their `cmv_id`, with the chains that are planned for them. -/
structure Fleet {κ : Type} [DecidableEq κ] (db : Server κ) (freight first_action : List Row) (V : Type) where
  cmv_id : V → String
  first : V → Row
  plan : V → List Row
  last : V → κ
  table : Table db freight
  injective : ∀ {v w}, db.collate (cmv_id v) = db.collate (cmv_id w) → v = w
  mem_first : ∀ v, first v ∈ first_action
  cmv_first : ∀ v, db.collate (first v).cmv_id = db.collate (cmv_id v)
  unique : ∀ v, ∀ f ∈ first_action, db.collate f.cmv_id = db.collate (cmv_id v) → f = first v
  chain : ∀ v, Chain db freight (db.collate (first v).action_id) (plan v) (last v)
  ends : ∀ v, look db freight (last v) = none
  nonempty : ∀ v, plan v ≠ []

/-- The table, and what each truck has been sent. -/
structure Port (V : Type) where
  freight : List Row
  received : V → List PortDrayage_Object
  finished : V → Bool

/-- A message of a truck, with what the server, the inspection and `UUID()` give. -/
structure Message (V : Type) where
  truck : V
  order : ResultOrder
  holding : Int
  uuid : String

section
variable {κ : Type} [DecidableEq κ] {V : Type} [DecidableEq V] (db : Server κ) (settings : Settings)
  {freight first_action : List Row} (fleet : Fleet db freight first_action V)

/-- The action that the truck has completed; no action in its first message. -/
def report (cmv_id : String) (received : List PortDrayage_Object) : PortDrayage_Object :=
  match received.getLast? with
  | none => { PortDrayage_Object.empty with cmv_id := cmv_id }
  | some action => { action with cmv_id := cmv_id }

namespace Port

def handle (s : Port V) (m : Message V) : Handled :=
  HandleMobilityOperationMessage db m.order settings m.uuid m.holding first_action s.freight
    (report (fleet.cmv_id m.truck) (s.received m.truck))

def step (s : Port V) (m : Message V) : Option (Port V) :=
  if s.finished m.truck then none
  else
    let h := s.handle db settings fleet m
    some {
      freight := h.freight
      received := Function.update s.received m.truck (s.received m.truck ++ h.new_action.toList)
      finished := Function.update s.finished m.truck h.new_action.isNone }

def machine : Machine (Port V) (Message V) := ⟨⟨freight, fun _ => [], fun _ => false⟩, step db settings fleet⟩

/-- A holding action, where one is inserted, keeps the chains. -/
def Safe (s : Port V) (m : Message V) : Prop :=
  let act := report (fleet.cmv_id m.truck) (s.received m.truck)
  act.operation = CHECKPOINT → m.holding = 1 → Fresh db s.freight first_action m.uuid ∧
    HoldsWhen db s.freight first_action settings m.uuid act

/-- The action is one of those in the table before the first message. -/
def Planned (db : Server κ) (freight : List Row) (k : κ) : Prop := (look db freight k).isSome

instance (db : Server κ) (freight : List Row) : DecidablePred (Planned db freight) := fun k =>
  inferInstanceAs (Decidable ((look db freight k).isSome = true))

/-- An action comes behind another: a planned one, or a holding action behind a checkpoint. -/
def Follows (db : Server κ) (freight : List Row) (o o' : PortDrayage_Object) : Prop :=
  Planned db freight (db.collate o'.action_id) ∨ o.operation = CHECKPOINT ∧ o'.operation = HOLDING

/-- The chain of a truck: `done` are the actions it has been sent, `rest` those that are planned behind them. -/
structure TruckInv (db : Server κ) (fleet : Fleet db freight first_action V) (table : List Row) (v : V)
    (received : List PortDrayage_Object) (finished : Bool) (done rest : List Row) (b : κ) : Prop where
  chain : Chain db table (db.collate (fleet.first v).action_id) (done ++ rest) b
  dead : look db table b = none
  keys : done.map (fun r => db.collate r.action_id) = received.map (fun o => db.collate o.action_id)
  finished : finished → rest = []
  planned : (done.map fun r => db.collate r.action_id).filter (Planned db freight ·) ++
    rest.map (fun r => db.collate r.action_id) = (fleet.plan v).map fun r => db.collate r.action_id
  follows : received.IsChain (Follows db freight)
  head : ∀ o ∈ received.head?, Planned db freight (db.collate o.action_id)

structure Inv (db : Server κ) (fleet : Fleet db freight first_action V) (s : Port V) : Prop where
  table : Table db s.freight
  kept : ∀ k, Planned db freight k → Planned db s.freight k
  truck : ∀ v, ∃ done rest b, TruckInv db fleet s.freight v (s.received v) (s.finished v) done rest b

variable {db settings fleet} {s t : Port V} {m : Message V} {v : V} {received : List PortDrayage_Object} {finished : Bool}
  {o : PortDrayage_Object} {done rest : List Row} {b : κ} {table : List Row}

omit [DecidableEq V] in
theorem planned_of_mem_plan {r : Row} (h : r ∈ fleet.plan v) : Planned db freight (db.collate r.action_id) := by
  obtain ⟨l, k, hk, -⟩ := (fleet.chain v).reaches h
  obtain ⟨-, hkey⟩ := (look_eq_some fleet.table).1 hk
  rw [Planned, hkey, hk]
  rfl

omit [DecidableEq V] in
/-- The actions that are left are planned. -/
theorem TruckInv.planned_of_mem (h : TruckInv db fleet table v received finished done rest b) {r : Row} (hr : r ∈ rest) :
    Planned db freight (db.collate r.action_id) := by
  have hmem : db.collate r.action_id ∈ (fleet.plan v).map fun r => db.collate r.action_id :=
    h.planned ▸ List.mem_append_right _ (List.mem_map_of_mem hr)
  obtain ⟨r', hr', heq⟩ := List.mem_map.1 hmem
  exact heq ▸ planned_of_mem_plan hr'

omit [DecidableEq V] in
/-- The truck is sent the next of the actions that are left. -/
theorem TruckInv.advance {r : Row} (h : TruckInv db fleet table v received finished done (r :: rest) b)
    (ho : db.collate o.action_id = db.collate r.action_id) :
    TruckInv db fleet table v (received ++ [o]) false (done ++ [r]) rest b := by
  have hr : Planned db freight (db.collate r.action_id) := h.planned_of_mem (List.mem_cons_self ..)
  have ho' : Planned db freight (db.collate o.action_id) := ho ▸ hr
  refine { h with
    chain := by simpa using h.chain
    keys := by simp [h.keys, ho]
    finished := fun hf => nomatch hf
    planned := by simp [← h.planned, hr]
    follows := h.follows.append (List.isChain_singleton o) fun _ _ _ hy => .inl (by simp_all)
    head := ?_ }
  cases received with
  | nil => simpa using ho'
  | cons o' received => simpa using h.head

omit [DecidableEq V] in
theorem inv_init : Inv db fleet ⟨freight, fun _ => [], fun _ => false⟩ where
  table := fleet.table
  kept _ h := h
  truck v := ⟨[], fleet.plan v, fleet.last v,
    { chain := fleet.chain v
      dead := fleet.ends v
      keys := rfl
      finished := fun h => nomatch h
      planned := rfl
      follows := .nil
      head := fun _ h => nomatch h }⟩

/-! ### The first message -/

omit [DecidableEq V] in
theorem retrieveFirstAction_eq (order : ResultOrder) (v : V) :
    retrieveFirstAction db order first_action (fleet.cmv_id v) = (fleet.first v).toObject := by
  have hmem : fleet.first v ∈ first_action.filter fun f => db.collate f.cmv_id = db.collate (fleet.cmv_id v) :=
    List.mem_filter.2 ⟨fleet.mem_first v, decide_eq_true (fleet.cmv_first v)⟩
  obtain ⟨f, hf⟩ := Option.isSome_iff_exists.1 (order.first_isSome (List.ne_nil_of_mem hmem))
  obtain ⟨hf', hcmv⟩ := List.mem_filter.1 (order.first_mem hf)
  rw [retrieveFirstAction, hf]
  exact congrArg Row.toObject (fleet.unique v f hf' (of_decide_eq_true hcmv))

/-! ### The report of an action -/

omit [DecidableEq V] in
/-- The last action that the truck was sent, in the table. -/
theorem TruckInv.current (h : TruckInv db fleet table v (received ++ [o]) finished done rest b) (htable : Table db table) :
    ∃ before cur, done = before ++ [cur] ∧ look db table (db.collate o.action_id) = some cur := by
  have hne : done ≠ [] := by
    rintro rfl
    have hlen := congrArg List.length h.keys
    simp at hlen
  obtain ⟨before, cur, rfl⟩ := (List.eq_nil_or_concat done).resolve_left hne
  rw [List.concat_eq_append] at h ⊢
  refine ⟨before, cur, rfl, ?_⟩
  have hkey : db.collate cur.action_id = db.collate o.action_id := by
    have hkeys := h.keys
    rw [List.map_append, List.map_append] at hkeys
    simpa using (List.append_inj' hkeys rfl).2
  obtain ⟨l, k, hk, -⟩ := h.chain.reaches (List.mem_append_left rest (List.mem_append_right before (List.mem_singleton_self cur)))
  rw [← hkey, ((look_eq_some htable).1 hk).2, hk]

omit [DecidableEq V] in
/-- Behind the action that was sent last comes the first of those that are left. -/
theorem TruckInv.next {before : List Row} {cur : Row}
    (h : TruckInv db fleet table v received finished (before ++ [cur]) rest b) :
    Chain db table (nextKey db cur) rest b := by
  obtain ⟨k, hk, hrest⟩ := h.chain.split
  obtain ⟨k', -, hcur⟩ := hk.split
  obtain _ | ⟨-, hnil⟩ := hcur
  cases hnil
  exact hrest

omit [DecidableEq V] in
/-- The truck reports its last action and no holding action is inserted. -/
theorem TruckInv.report (h : TruckInv db fleet table v (received ++ [o]) false done rest b) (htable : Table db table)
    (order : ResultOrder) :
    let new_action := retrieveNextAction db order table o.action_id
    let reply := if new_action.action_id = "" then none else some new_action
    ∃ done' rest', TruckInv db fleet table v (received ++ [o] ++ reply.toList) reply.isNone done' rest' b := by
  intro new_action reply
  obtain ⟨before, cur, rfl, hcur⟩ := h.current htable
  have hnext : new_action = ((look db table (nextKey db cur)).map Row.toObject).getD .empty :=
    retrieveNextAction_of_look order htable hcur
  cases rest with
  | nil =>
    have hnone : look db table (nextKey db cur) = none := by
      have hpath := h.next
      cases hpath
      exact h.dead
    have hreply : reply = none := if_pos (by rw [hnext, hnone]; rfl)
    refine ⟨before ++ [cur], [], ?_⟩
    rw [hreply, Option.toList_none, List.append_nil]
    exact { h with finished := fun _ => rfl }
  | cons r rest =>
    obtain _ | ⟨hlook, -⟩ := h.next
    rw [hlook] at hnext
    have hid : r.action_id ≠ "" := fun hempty =>
      htable.nonempty r ((look_eq_some htable).1 hlook).1 (congrArg db.collate hempty)
    have hreply : reply = some r.toObject := by
      show (if new_action.action_id = "" then none else some new_action) = _
      rw [hnext]
      exact if_neg hid
    refine ⟨before ++ [cur] ++ [r], rest, ?_⟩
    rw [hreply]
    exact h.advance rfl

omit [DecidableEq V] in
/-- The truck reports a checkpoint and is sent the holding action that is inserted behind it. -/
theorem TruckInv.hold {table' : List Row} {order : ResultOrder} {act : PortDrayage_Object} {current hold : Row}
    (h : TruckInv db fleet table v (received ++ [o]) false done rest b) (htable : Table db table) (htable' : Table db table')
    (hact : act.action_id = o.action_id) (hcmv : act.cmv_id = fleet.cmv_id v) (hop : o.operation = CHECKPOINT)
    (hcurrent : look db table (db.collate act.action_id) = some current)
    (hnew : ¬ Planned db freight (db.collate hold.action_id))
    (hbetween : Between db table first_action order act table' current hold) :
    let new_action := retrieveNextAction db order table' act.action_id
    let reply := if new_action.action_id = "" then none else some new_action
    ∃ done' rest' b', TruckInv db fleet table' v (received ++ [o] ++ reply.toList) reply.isNone done' rest' b' := by
  intro new_action reply
  obtain ⟨before, cur, rfl, hcur⟩ := h.current htable
  obtain rfl : current = cur := by rw [hact, hcur] at hcurrent; exact (Option.some.inj hcurrent).symm
  have hstart : Starts db first_action act.cmv_id (db.collate (fleet.first v).action_id) :=
    ⟨fleet.first v, fleet.mem_first v, hcmv ▸ fleet.cmv_first v, rfl⟩
  obtain ⟨b', hchain, -, hdead⟩ := hbetween.chain _ _ _ hstart h.chain
  have hnodup : (before ++ [current] ++ rest).Nodup := h.chain.nodup h.dead
  rw [List.append_assoc, List.singleton_append, List.nodup_append] at hnodup
  obtain ⟨-, hcons, hdisjoint⟩ := hnodup
  have hbefore : current ∉ before := fun hmem => hdisjoint current hmem current (List.mem_cons_self ..) rfl
  have hsplice : Path.splice current { current with next_action := some hold.action_id } hold (before ++ [current] ++ rest) =
      before ++ [{ current with next_action := some hold.action_id }] ++ [hold] ++ rest := by
    rw [List.append_assoc, Path.splice_append, Path.splice_of_not_mem hbefore, List.singleton_append,
      Path.splice_cons_self, Path.splice_of_not_mem (List.nodup_cons.1 hcons).1]
    simp
  rw [hsplice] at hchain
  have hid : hold.action_id ≠ "" := fun hempty =>
    htable'.nonempty hold hbetween.stored (congrArg db.collate hempty)
  have hreply : reply = some hold.toObject := by
    show (if new_action.action_id = "" then none else some new_action) = _
    rw [show new_action = hold.toObject from hbetween.next]
    exact if_neg hid
  refine ⟨before ++ [{ current with next_action := some hold.action_id }] ++ [hold], rest, b', ?_⟩
  rw [hreply]
  have hkeys := h.keys
  have hplanned := h.planned
  exact {
    chain := hchain
    dead := hdead h.dead
    keys := by
      have hkeys' := congrArg (· ++ [db.collate hold.action_id]) hkeys
      simpa [Row.toObject] using hkeys'
    finished := fun hf => nomatch hf
    planned := by
      rw [← hplanned]
      simp [List.filter_append, List.filter_cons, hnew]
    follows := h.follows.append (List.isChain_singleton _) fun x hx y hy => .inr (by
      simp only [List.getLast?_concat, Option.mem_some_iff] at hx
      simp only [Option.toList_some, List.head?_cons, Option.mem_some_iff] at hy
      subst hx hy
      exact ⟨hop, hbetween.operation⟩)
    head := by
      cases received with
      | nil => simpa using h.head
      | cons o' received => simpa using h.head }

/-! ### The steps -/

theorem report_concat (cmv_id : String) (received : List PortDrayage_Object) (o : PortDrayage_Object) :
    report cmv_id (received ++ [o]) = { o with cmv_id := cmv_id } := by
  rw [report, List.getLast?_concat]

/-- A holding action changes the table if the inspection of a checkpoint says so, and nothing else does. -/
theorem handleOperation_table (order : ResultOrder) (uuid : String) (holding : Int) (table : List Row)
    (act : PortDrayage_Object) :
    (handleOperation db order settings uuid holding table act).1 =
      if act.operation = CHECKPOINT ∧ holding = 1 then insert_holding_action_into_table db order settings uuid table act
      else table := by
  have hpickup : CHECKPOINT ≠ PICKUP := by decide
  have hdropoff : CHECKPOINT ≠ DROPOFF := by decide
  rw [handleOperation]
  split_ifs with h1 h2 h3 h4 h5 h6 <;> simp_all

omit [DecidableEq V] in
theorem handle_freight (s : Port V) (m : Message V) {act : PortDrayage_Object}
    (hact : report (fleet.cmv_id m.truck) (s.received m.truck) = act) :
    (s.handle db settings fleet m).freight =
      if act.operation = CHECKPOINT ∧ m.holding = 1 then
        insert_holding_action_into_table db m.order settings m.uuid s.freight act
      else s.freight := by
  rw [← hact]
  exact handleOperation_table m.order m.uuid m.holding s.freight _

omit [DecidableEq V] in
theorem handle_new_action (s : Port V) (m : Message V) {act : PortDrayage_Object}
    (hact : report (fleet.cmv_id m.truck) (s.received m.truck) = act) :
    (s.handle db settings fleet m).new_action =
      let new_action :=
        if act.action_id = "" then retrieveFirstAction db m.order first_action act.cmv_id
        else retrieveNextAction db m.order (s.handle db settings fleet m).freight act.action_id
      if new_action.action_id = "" then none else some new_action := by
  rw [← hact]
  rfl

theorem look_insert (order : ResultOrder) (htable : Table db table) {uuid : String} {act : PortDrayage_Object} {cur : Row}
    (hfresh : Fresh db table first_action uuid) (hcurrent : look db table (db.collate act.action_id) = some cur)
    (hacc : db.accepts (newRow db table settings uuid act)) :
    Table db (insert_holding_action_into_table db order settings uuid table act) ∧
      ∀ k, Planned db table k → Planned db (insert_holding_action_into_table db order settings uuid table act) k := by
  obtain ⟨res, -, heq⟩ := insert_of_accepted order htable hcurrent hacc
  rw [heq]
  refine ⟨htable.linked hfresh res.action_id, fun k hk => ?_⟩
  obtain ⟨r, hr⟩ := Option.isSome_iff_exists.1 hk
  rw [Planned, look_update, look_append, hr]
  rfl

/-- A message that leaves the table as it is. -/
theorem Inv.step_same (h : Inv db fleet s) (htable : (s.handle db settings fleet m).freight = s.freight)
    (hv : ∃ done rest b, TruckInv db fleet s.freight m.truck
      (s.received m.truck ++ (s.handle db settings fleet m).new_action.toList)
      (s.handle db settings fleet m).new_action.isNone done rest b)
    (hs : Port.step db settings fleet s m = some t) : Inv db fleet t := by
  rw [Port.step] at hs
  split_ifs at hs with hfinished
  obtain rfl := Option.some.inj hs
  refine ⟨htable ▸ h.table, fun k hk => htable ▸ h.kept k hk, fun w => ?_⟩
  simp only [htable]
  rcases eq_or_ne w m.truck with rfl | hw
  · simpa using hv
  · simpa [Function.update_of_ne hw] using h.truck w

/-- The first message of a truck. -/
theorem Inv.first (h : Inv db fleet s) (hnil : s.received m.truck = []) (hs : Port.step db settings fleet s m = some t) :
    Inv db fleet t := by
  have hact : report (fleet.cmv_id m.truck) (s.received m.truck) =
      { PortDrayage_Object.empty with cmv_id := fleet.cmv_id m.truck } := by rw [hnil]; rfl
  have htable : (s.handle db settings fleet m).freight = s.freight := by
    rw [handle_freight s m hact, if_neg]
    rintro ⟨hop, -⟩
    exact absurd (show "" = CHECKPOINT from hop) (by decide)
  have hfirst : look db s.freight (db.collate (fleet.first m.truck).action_id) ≠ none := by
    obtain ⟨r, plan, hplan⟩ := List.exists_cons_of_ne_nil (fleet.nonempty m.truck)
    have hchain := fleet.chain m.truck
    rw [hplan] at hchain
    obtain _ | ⟨hlook, -⟩ := hchain
    exact Option.isSome_iff_ne_none.1 (h.kept _ (Option.isSome_of_eq_some hlook))
  have hid : (fleet.first m.truck).toObject.action_id ≠ "" := fun hempty =>
    hfirst ((congrArg (fun a => look db s.freight (db.collate a)) hempty).trans (look_empty h.table))
  have hreply : (s.handle db settings fleet m).new_action = some (fleet.first m.truck).toObject := by
    rw [handle_new_action s m hact]
    simp [PortDrayage_Object.empty, retrieveFirstAction_eq, hid]
  refine h.step_same htable ?_ hs
  obtain ⟨done, rest, b, hv⟩ := h.truck m.truck
  rw [hnil] at hv
  have hdone : done = [] := by simpa using hv.keys
  subst hdone
  rw [hreply]
  cases rest with
  | nil =>
    have hplanned := hv.planned
    simp only [List.map_nil, List.filter_nil, List.append_nil] at hplanned
    exact absurd (List.map_eq_nil_iff.1 hplanned.symm) (fleet.nonempty m.truck)
  | cons r rest =>
    obtain _ | ⟨hlook, -⟩ := hv.chain
    refine ⟨[] ++ [r], rest, b, ?_⟩
    rw [hnil]
    exact hv.advance ((look_eq_some h.table).1 hlook).2.symm

/-- The report of an action without a holding action. -/
theorem Inv.report (h : Inv db fleet s) (hrec : s.received m.truck = received ++ [o])
    (hno : ¬ (o.operation = CHECKPOINT ∧ m.holding = 1)) (hs : Port.step db settings fleet s m = some t) : Inv db fleet t := by
  have hact : PortDrayagePlugin.report (fleet.cmv_id m.truck) (s.received m.truck) =
      { o with cmv_id := fleet.cmv_id m.truck } := by rw [hrec, report_concat]
  have htable : (s.handle db settings fleet m).freight = s.freight := by
    rw [handle_freight s m hact]
    exact if_neg hno
  refine h.step_same htable ?_ hs
  rw [Port.step] at hs
  split_ifs at hs with hfinished
  obtain ⟨done, rest, b, hv⟩ := h.truck m.truck
  rw [Bool.not_eq_true] at hfinished
  rw [hfinished, hrec] at hv
  obtain ⟨before, cur, -, hcur⟩ := hv.current h.table
  have hid : o.action_id ≠ "" := fun hempty => by
    rw [hempty, look_empty h.table] at hcur
    nomatch hcur
  obtain ⟨done', rest', hv'⟩ := hv.report h.table m.order
  refine ⟨done', rest', b, ?_⟩
  rw [handle_new_action s m hact, htable, hrec]
  simpa only [if_neg hid] using hv'

/-- The report of a checkpoint with a holding action. -/
theorem Inv.hold (h : Inv db fleet s) (hsafe : Safe db settings fleet s m) (hrec : s.received m.truck = received ++ [o])
    (hop : o.operation = CHECKPOINT) (hholding : m.holding = 1) (hs : Port.step db settings fleet s m = some t) :
    Inv db fleet t := by
  have hact : PortDrayagePlugin.report (fleet.cmv_id m.truck) (s.received m.truck) =
      { o with cmv_id := fleet.cmv_id m.truck } := by rw [hrec, report_concat]
  rw [Safe] at hsafe
  simp only [hact] at hsafe
  obtain ⟨hfresh, hwhen⟩ := hsafe hop hholding
  have hfreight : (s.handle db settings fleet m).freight = _ := handle_freight s m hact
  rw [if_pos ⟨hop, hholding⟩] at hfreight
  rw [Port.step] at hs
  split_ifs at hs with hfinished
  obtain rfl := Option.some.inj hs
  obtain ⟨done, rest, b, hv⟩ := h.truck m.truck
  rw [Bool.not_eq_true] at hfinished
  rw [hfinished, hrec] at hv
  obtain ⟨before, cur, -, hcur⟩ := hv.current h.table
  have hid : o.action_id ≠ "" := fun hempty => by
    rw [hempty, look_empty h.table] at hcur
    nomatch hcur
  have hid' : ({ o with cmv_id := fleet.cmv_id m.truck } : PortDrayage_Object).action_id = o.action_id := rfl
  have hcur' : look db s.freight (db.collate { o with cmv_id := fleet.cmv_id m.truck }.action_id) = some cur := hcur
  obtain ⟨htable, hkept⟩ := look_insert m.order h.table hfresh hcur' hwhen.accepted
  obtain ⟨current, hold, hcurrent, hbetween⟩ := hwhen.keepsChains h.table hfresh hcur' m.order
  rw [← hfreight] at htable hkept hbetween
  refine ⟨htable, fun k hk => hkept k (h.kept k hk), fun w => ?_⟩
  rcases eq_or_ne w m.truck with rfl | hw
  · have hnew : ¬ Planned db freight (db.collate hold.action_id) := fun hplanned => by
      obtain ⟨r, hr⟩ := Option.isSome_iff_exists.1 (h.kept _ hplanned)
      obtain ⟨hmem, hkey⟩ := (look_eq_some h.table).1 hr
      exact hbetween.isNew r hmem hkey
    obtain ⟨done', rest', b', hv'⟩ := hv.hold h.table htable hid' rfl hop hcurrent hnew hbetween
    refine ⟨done', rest', b', ?_⟩
    dsimp only
    rw [Function.update_self, Function.update_self, handle_new_action s m hact, hrec]
    simpa only [if_neg hid] using hv'
  · obtain ⟨done, rest, b, hw'⟩ := h.truck w
    have hvehicle : db.collate (fleet.cmv_id w) ≠ db.collate (fleet.cmv_id m.truck) := fun heq => hw (fleet.injective heq)
    obtain ⟨hchain, hdead⟩ := hbetween.others (fleet.cmv_id w) _ _ _ hvehicle
      ⟨fleet.first w, fleet.mem_first w, fleet.cmv_first w, rfl⟩ hw'.chain
    have hw'' : TruckInv db fleet (s.handle db settings fleet m).freight w (s.received w) (s.finished w) done rest b :=
      { hw' with
        chain := hchain
        dead := hdead hw'.dead }
    refine ⟨done, rest, b, ?_⟩
    simpa [Function.update_of_ne hw] using hw''

theorem Inv.step (h : Inv db fleet s) (hsafe : Safe db settings fleet s m) (hs : Port.step db settings fleet s m = some t) :
    Inv db fleet t := by
  rcases List.eq_nil_or_concat (s.received m.truck) with hnil | ⟨received, o, hrec⟩
  · exact h.first hnil hs
  · rw [List.concat_eq_append] at hrec
    by_cases hhold : o.operation = CHECKPOINT ∧ m.holding = 1
    · exact h.hold hsafe hrec hhold.1 hhold.2 hs
    · exact h.report hrec hhold hs

theorem inv_exec {es : List (Message V)} (hsafe : (machine db settings fleet).Meets (Safe db settings fleet)
    (machine db settings fleet).init es) (h : (machine db settings fleet).exec (machine db settings fleet).init es = some s) :
    Inv db fleet s :=
  Machine.invariant_meets inv_init (fun _ _ _ hi hG hs => hi.step hG hs) hsafe h

omit [DecidableEq V] in
/-- A truck has been sent no action twice. -/
theorem TruckInv.nodup (h : TruckInv db fleet table v received finished done rest b) (htable : Table db table) :
    (received.map fun o => db.collate o.action_id).Nodup := by
  rw [← h.keys]
  refine ((h.chain.nodup h.dead).sublist (List.sublist_append_left done rest)).map_on fun r hr r' hr' heq => ?_
  obtain ⟨-, k, hk, -⟩ := h.chain.reaches (List.mem_append_left rest hr)
  obtain ⟨-, k', hk', -⟩ := h.chain.reaches (List.mem_append_left rest hr')
  exact List.inj_on_of_nodup_map htable.unique ((look_eq_some htable).1 hk).1 ((look_eq_some htable).1 hk').1 heq

/-- Whatever order the trucks report in, and whichever of them are held at their checkpoints by an insertion that keeps the
chains: each truck is sent the actions of its plan, from the first one on, in order and each once; between them come holding
actions only, each behind a checkpoint; and a truck that is sent nothing more has been sent its whole plan. -/
theorem journeys (db : Server κ) (settings : Settings) (fleet : Fleet db freight first_action V) (es : List (Message V))
    (s : Port V) (hsafe : (machine db settings fleet).Meets (Safe db settings fleet) (machine db settings fleet).init es)
    (h : (machine db settings fleet).exec (machine db settings fleet).init es = some s) (v : V) :
    ∃ rest : List κ,
      ((s.received v).map fun o => db.collate o.action_id).filter (Planned db freight ·) ++ rest =
        (fleet.plan v).map (fun r => db.collate r.action_id) ∧
      ((s.received v).map fun o => db.collate o.action_id).Nodup ∧
      (s.received v).IsChain (Follows db freight) ∧
      (∀ o ∈ (s.received v).head?, Planned db freight (db.collate o.action_id)) ∧
      (s.finished v → rest = []) := by
  have hinv := inv_exec hsafe h
  obtain ⟨done, rest, b, hv⟩ := hinv.truck v
  refine ⟨rest.map fun r => db.collate r.action_id, ?_, hv.nodup hinv.table, hv.follows, hv.head, fun hf => ?_⟩
  · rw [← hv.keys, hv.planned]
  · rw [hv.finished hf, List.map_nil]

end Port
end

/-! One truck is held at its checkpoint while the other one is on its way. -/

open Port

def portTable : List Row :=
  [checkpoint "1" "a" (some "b"), ⟨"1", none, 0, 0, "EXIT_PORT", "b", none⟩, ⟨"2", none, 0, 0, "PICKUP", "c", none⟩]

def portFirst : List Row := [checkpoint "1" "a" (some "b"), ⟨"2", none, 0, 0, "PICKUP", "c", none⟩]

theorem chain_b : Chain plainServer portTable "b" [⟨"1", none, 0, 0, "EXIT_PORT", "b", none⟩] "" :=
  .cons (by decide) (.nil _)

def portFleet : Fleet plainServer portTable portFirst Bool where
  cmv_id v := if v then "2" else "1"
  first v := if v then ⟨"2", none, 0, 0, "PICKUP", "c", none⟩ else checkpoint "1" "a" (some "b")
  plan v := if v then [⟨"2", none, 0, 0, "PICKUP", "c", none⟩]
    else [checkpoint "1" "a" (some "b"), ⟨"1", none, 0, 0, "EXIT_PORT", "b", none⟩]
  last _ := ""
  table := ⟨by decide, by decide⟩
  injective := by decide
  mem_first := by decide
  cmv_first := by decide
  unique := by decide
  chain v := by
    cases v with
    | true => exact .cons (by decide) (.nil _)
    | false => exact .cons (by decide) chain_b
  ends _ := by decide
  nonempty := by decide

def portMessages : List (Message Bool) :=
  [⟨false, .favouring (checkpoint "1" "a" (some "b")), 0, ""⟩, ⟨true, .favouring (checkpoint "1" "a" (some "b")), 0, ""⟩,
    ⟨false, .favouring (checkpoint "1" "a" (some "b")), 1, "new"⟩]

theorem holdsWhen_held :
    HoldsWhen plainServer portTable portFirst ⟨0, 0⟩ "new" (checkpoint "1" "a" (some "b")).toObject where
  accepted := by decide
  alone r hr hop := absurd hop (by revert r; decide)
  separate := by
    rintro vehicle start l b hvehicle ⟨f, hf, hcmv, rfl⟩ hchain
    rw [portFirst, List.mem_cons, List.mem_singleton] at hf
    rcases hf with rfl | rfl
    · exact absurd hcmv.symm hvehicle
    · have hc : look plainServer portTable "c" = some ⟨"2", none, 0, 0, "PICKUP", "c", none⟩ := by decide
      have hempty : look plainServer portTable "" = none := by decide
      cases hchain with
      | nil => decide
      | cons hlook hchain =>
        obtain rfl := Option.some.inj (hc.symm.trans hlook)
        cases hchain with
        | nil => decide
        | cons hlook' => exact absurd (hempty.symm.trans hlook') (by simp)

theorem journeys_held :
    let s := (Port.machine plainServer ⟨0, 0⟩ portFleet).exec (Port.machine plainServer ⟨0, 0⟩ portFleet).init portMessages
    ∃ t, s = some t ∧ ∃ rest : List String,
      ((t.received false).map fun o => plainServer.collate o.action_id).filter (Planned plainServer portTable ·) ++ rest =
        (portFleet.plan false).map (fun r => plainServer.collate r.action_id) ∧
      ((t.received false).map fun o => plainServer.collate o.action_id).Nodup ∧
      (t.received false).IsChain (Follows plainServer portTable) ∧
      (∀ o ∈ (t.received false).head?, Planned plainServer portTable (plainServer.collate o.action_id)) ∧
      (t.finished false → rest = []) := by
  refine ⟨_, rfl, journeys plainServer ⟨0, 0⟩ portFleet portMessages _ ?_ rfl false⟩
  refine ⟨fun hop => absurd hop (by decide), fun s hs => ?_⟩
  obtain rfl := Option.some.inj hs
  refine ⟨fun hop => absurd hop (by decide), fun s hs => ?_⟩
  obtain rfl := Option.some.inj hs
  refine ⟨fun _ _ => ⟨⟨by decide, by decide, by decide, by decide⟩, holdsWhen_held⟩, fun _ _ => trivial⟩

end V2xHub.PortDrayagePlugin
