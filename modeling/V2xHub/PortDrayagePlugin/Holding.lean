import V2xHub.PortDrayagePlugin.Basic
import Mathlib.Data.List.Nodup

/-!
# Holding actions in the chains of the trucks

The chain of a truck is the path of `next_action` from its row of `first_action`. A holding action comes between the
current action and its successor, with all other chains as they were, exactly if the row found again by its
`next_action` and `operation` can only be the new one and the current action is on no other chain (`holding_action`).
-/

namespace V2xHub.PortDrayagePlugin
open Linked

variable {κ : Type} [DecidableEq κ] (db : Server κ) (freight first_action : List Row)

/-- The action with an id. -/
def look (k : κ) : Option Row := freight.find? fun r => db.collate r.action_id = k

def nextKey (r : Row) : κ := db.collate (r.next_action.getD "")

/-- A part of a chain: from the id `a` through the actions `l` to the id `b`. -/
abbrev Chain (a : κ) (l : List Row) (b : κ) : Prop := Path (look db freight) (nextKey db) a l b

/-- The chain of the vehicle starts with the id. -/
def Starts (cmv_id : String) (k : κ) : Prop :=
  ∃ f ∈ first_action, db.collate f.cmv_id = db.collate cmv_id ∧ db.collate f.action_id = k

/-- An id names one action, and the empty string names none. -/
structure Table : Prop where
  unique : (freight.map fun r => db.collate r.action_id).Nodup
  nonempty : ∀ r ∈ freight, db.collate r.action_id ≠ db.collate ""

/-- The value of `UUID()` occurs nowhere yet. -/
structure Fresh (uuid : String) : Prop where
  nonempty : db.collate uuid ≠ db.collate ""
  action_id : ∀ r ∈ freight, db.collate r.action_id ≠ db.collate uuid
  next_action : ∀ r ∈ freight, nextKey db r ≠ db.collate uuid
  first_action : ∀ f ∈ first_action, db.collate f.action_id ≠ db.collate uuid

/-- The id of the action behind the one with the id, empty if there is none. -/
def successor (action_id : String) : String :=
  (((look db freight (db.collate action_id)).bind fun r => look db freight (nextKey db r)).map (·.action_id)).getD ""

/-- The holding action `h` came between the current action and the one behind it. -/
structure Between (order : ResultOrder) (current_action : PortDrayage_Object) (freight' : List Row)
    (current h : Row) : Prop where
  stored : h ∈ freight'
  isNew : ∀ r ∈ freight, db.collate r.action_id ≠ db.collate h.action_id
  operation : h.operation = HOLDING
  vehicle : h.cmv_id = current_action.cmv_id
  next : retrieveNextAction db order freight' current_action.action_id = h.toObject
  behind : (retrieveNextAction db order freight' h.action_id).action_id =
    (retrieveNextAction db order freight current_action.action_id).action_id
  chain : ∀ start l b, Starts db first_action current_action.cmv_id start → Chain db freight start l b →
    ∃ b', Chain db freight' start (Path.splice current { current with next_action := some h.action_id } h l) b' ∧
      (b' = b ∨ look db freight b = none) ∧ (look db freight b = none → look db freight' b' = none)
  others : ∀ vehicle start l b, db.collate vehicle ≠ db.collate current_action.cmv_id →
    Starts db first_action vehicle start → Chain db freight start l b →
    Chain db freight' start l b ∧ (look db freight b = none → look db freight' b = none)

/-- Whatever order the server gives its results in. -/
def KeepsChains (settings : Settings) (uuid : String) (current_action : PortDrayage_Object) : Prop :=
  ∀ order, ∃ current h, look db freight (db.collate current_action.action_id) = some current ∧
    Between db freight first_action order current_action
      (insert_holding_action_into_table db order settings uuid freight current_action) current h

/-- The server takes the row, no other holding action has that successor and no other vehicle comes by. -/
structure HoldsWhen (settings : Settings) (uuid : String) (current_action : PortDrayage_Object) : Prop where
  accepted : db.accepts (holdingRow settings uuid current_action (successor db freight current_action.action_id))
  alone : ∀ r ∈ freight, db.collate r.operation = db.collate HOLDING → ∀ n, r.next_action = some n →
    db.collate n ≠ db.collate (successor db freight current_action.action_id)
  separate : ∀ vehicle start l b, db.collate vehicle ≠ db.collate current_action.cmv_id →
    Starts db first_action vehicle start → Chain db freight start l b → b ≠ db.collate current_action.action_id

variable {db freight first_action}

theorem look_eq_some {k : κ} {r : Row} (htable : Table db freight) :
    look db freight k = some r ↔ r ∈ freight ∧ db.collate r.action_id = k := by
  unfold look
  constructor
  · intro h
    have hp := List.find?_some h
    exact ⟨List.mem_of_find?_eq_some h, of_decide_eq_true hp⟩
  · rintro ⟨hr, rfl⟩
    cases h : freight.find? fun r' => db.collate r'.action_id = db.collate r.action_id with
    | none => exact absurd (decide_eq_true rfl) (List.find?_eq_none.1 h r hr)
    | some r' =>
      have hr' := List.mem_of_find?_eq_some h
      have heq : db.collate r'.action_id = db.collate r.action_id  := by
        have hp := List.find?_some h
        exact of_decide_eq_true hp
      rw [List.inj_on_of_nodup_map htable.unique hr' hr heq]

theorem look_eq_none {k : κ} : look db freight k = none ↔ ∀ r ∈ freight, db.collate r.action_id ≠ k := by
  simp [look, List.find?_eq_none]

theorem look_empty (htable : Table db freight) : look db freight (db.collate "") = none :=
  look_eq_none.2 htable.nonempty

/-- With one row an id, the order of a result does not matter. -/
theorem first_current_action (order : ResultOrder) (htable : Table db freight) (action_id : String) :
    order.first (current_action db freight action_id) = look db freight (db.collate action_id) := by
  have hmem : ∀ r ∈ current_action db freight action_id, look db freight (db.collate action_id) = some r := by
    intro r hr
    obtain ⟨hr, heq⟩ := List.mem_filter.1 hr
    exact (look_eq_some htable).2 ⟨hr, of_decide_eq_true heq⟩
  cases h : order.first (current_action db freight action_id) with
  | some r => exact (hmem r (order.first_mem h)).symm
  | none =>
    have hnil : current_action db freight action_id = [] := by
      by_contra hne
      have := order.first_isSome hne
      rw [h] at this
      cases this
    symm
    rw [look_eq_none]
    intro r hr heq
    have : r ∈ current_action db freight action_id := List.mem_filter.2 ⟨hr, decide_eq_true heq⟩
    rw [hnil] at this
    cases this

theorem retrieveNextAction_of_look (order : ResultOrder) (htable : Table db freight) {action_id : String} {r : Row}
    (hr : look db freight (db.collate action_id) = some r) :
    retrieveNextAction db order freight action_id =
      ((look db freight (nextKey db r)).map Row.toObject).getD .empty := by
  unfold retrieveNextAction
  rw [first_current_action order htable, hr]
  simp only [first_current_action order htable]
  unfold nextKey
  cases look db freight (db.collate (r.next_action.getD "")) <;> rfl

/-- The key of the successor id leads where the row does. -/
theorem successor_of_look {action_id : String} {r : Row} (hr : look db freight (db.collate action_id) = some r) :
    successor db freight action_id = ((look db freight (nextKey db r)).map (·.action_id)).getD "" := by
  unfold successor
  rw [hr, Option.bind_some]

theorem retrieveNextAction_action_id (order : ResultOrder) (htable : Table db freight) {action_id : String} {r : Row}
    (hr : look db freight (db.collate action_id) = some r) :
    (retrieveNextAction db order freight action_id).action_id = successor db freight action_id := by
  rw [retrieveNextAction_of_look order htable hr, successor_of_look hr]
  cases look db freight (nextKey db r) <;> rfl

/-! ### The table behind the statements -/

theorem look_append (row : Row) (k : κ) :
    look db (freight ++ [row]) k = (look db freight k).or (if db.collate row.action_id = k then some row else none) := by
  unfold look
  rw [List.find?_append, List.find?_singleton]
  simp only [decide_eq_true_eq]

@[simp] theorem relink_action_id (db : Server κ) (next_action action_id : String) (r : Row) :
    (relink db next_action action_id r).action_id = r.action_id := by
  unfold relink
  split <;> rfl

theorem relink_of_eq {next_action action_id : String} {r : Row} (h : db.collate r.action_id = db.collate action_id) :
    relink db next_action action_id r = { r with next_action := some next_action } := if_pos h

theorem relink_of_ne {next_action action_id : String} {r : Row} (h : db.collate r.action_id ≠ db.collate action_id) :
    relink db next_action action_id r = r := if_neg h

theorem look_update (next_action action_id : String) (k : κ) :
    look db (update_current_action db freight next_action action_id) k =
      (look db freight k).map (relink db next_action action_id) := by
  unfold look update_current_action
  rw [List.find?_map]
  congr 1
  congr 1
  funext r
  simp only [Function.comp_apply, relink_action_id]

omit [DecidableEq κ] in
theorem Table.append {row : Row} (htable : Table db freight) (hempty : db.collate row.action_id ≠ db.collate "")
    (hnew : ∀ r ∈ freight, db.collate r.action_id ≠ db.collate row.action_id) : Table db (freight ++ [row]) where
  unique := by
    rw [List.map_append, List.nodup_append]
    refine ⟨htable.unique, List.nodup_singleton _, ?_⟩
    intro k hk k' hk'
    obtain ⟨r, hr, rfl⟩ := List.mem_map.1 hk
    rw [List.mem_singleton.1 hk']
    exact hnew r hr
  nonempty := by
    intro r hr
    rcases List.mem_append.1 hr with hr | hr
    · exact htable.nonempty r hr
    · rw [List.mem_singleton.1 hr]
      exact hempty

theorem Table.update (htable : Table db freight) (next_action action_id : String) :
    Table db (update_current_action db freight next_action action_id) where
  unique := by
    unfold update_current_action
    rw [List.map_map]
    have h : ((fun r => db.collate r.action_id) ∘ relink db next_action action_id) = fun r => db.collate r.action_id := by
      funext r
      simp only [Function.comp_apply, relink_action_id]
    rw [h]
    exact htable.unique
  nonempty := by
    intro r hr
    obtain ⟨r', hr', rfl⟩ := List.mem_map.1 hr
    rw [relink_action_id]
    exact htable.nonempty r' hr'

/-- The result of the `SELECT` behind the `INSERT`: the new row and the holding actions with its successor. -/
theorem mem_get_action_id_for_previous_action {row r : Row} {n : String} (hop : row.operation = HOLDING)
    (hnext : row.next_action = some n) :
    r ∈ get_action_id_for_previous_action db (freight ++ [row]) n HOLDING ↔
      r = row ∨ r ∈ freight ∧ db.collate r.operation = db.collate HOLDING ∧
        ∃ m, r.next_action = some m ∧ db.collate m = db.collate n := by
  unfold get_action_id_for_previous_action
  rw [List.mem_filter, List.mem_append, List.mem_singleton, decide_eq_true_eq, Option.any_eq_true]
  constructor
  · rintro ⟨hr | hr, ⟨m, hm, hkey⟩, hr'⟩
    · exact .inr ⟨hr, hr', m, hm, of_decide_eq_true hkey⟩
    · exact .inl hr
  · rintro (rfl | ⟨hr, hr', m, hm, hkey⟩)
    · exact ⟨.inr rfl, ⟨n, hnext, decide_eq_true rfl⟩, by rw [hop]⟩
    · exact ⟨.inl hr, ⟨m, hm, decide_eq_true hkey⟩, hr'⟩

/-! ### The new row linked in -/

section
variable {settings : Settings} {uuid : String} {act : PortDrayage_Object} {current : Row}

/-- The new row for the current action `act`. -/
abbrev newRow (db : Server κ) (freight : List Row) (settings : Settings) (uuid : String) (act : PortDrayage_Object) :
    Row := holdingRow settings uuid act (successor db freight act.action_id)

/-- The table with the current action linked to the row of `action_id`. -/
abbrev linked (db : Server κ) (freight : List Row) (settings : Settings) (uuid : String) (act : PortDrayage_Object)
    (action_id : String) : List Row :=
  update_current_action db (freight ++ [newRow db freight settings uuid act]) action_id act.action_id

theorem insert_holding_action_into_table_of_look (order : ResultOrder) (htable : Table db freight)
    (hcurrent : look db freight (db.collate act.action_id) = some current) :
    insert_holding_action_into_table db order settings uuid freight act =
      match insert_action db freight (newRow db freight settings uuid act) with
      | none => freight
      | some inserted =>
        match order.first (get_action_id_for_previous_action db inserted (successor db freight act.action_id) HOLDING) with
        | none => inserted
        | some res => update_current_action db inserted res.action_id act.action_id := by
  unfold insert_holding_action_into_table newRow
  rewrite [← retrieveNextAction_action_id order htable hcurrent]
  rfl

theorem current_ne_uuid (hfresh : Fresh db freight first_action uuid) (htable : Table db freight)
    (hcurrent : look db freight (db.collate act.action_id) = some current) :
    db.collate act.action_id ≠ db.collate uuid := by
  obtain ⟨hmem, hkey⟩ := (look_eq_some htable).1 hcurrent
  rw [← hkey]
  exact hfresh.action_id current hmem

theorem Table.linked (hfresh : Fresh db freight first_action uuid) (htable : Table db freight) (action_id : String) :
    Table db (linked db freight settings uuid act action_id) :=
  (htable.append hfresh.nonempty hfresh.action_id).update action_id act.action_id

theorem look_linked_uuid (hfresh : Fresh db freight first_action uuid) (htable : Table db freight)
    (hcurrent : look db freight (db.collate act.action_id) = some current) (action_id : String) :
    look db (linked db freight settings uuid act action_id) (db.collate uuid) =
      some (newRow db freight settings uuid act) := by
  have hnone : look db freight (db.collate uuid) = none := look_eq_none.2 hfresh.action_id
  have hrow : (newRow db freight settings uuid act).action_id = uuid := rfl
  rw [look_update, look_append, hnone, Option.none_or, hrow, if_pos rfl, Option.map_some,
    relink_of_ne (Ne.symm (current_ne_uuid hfresh htable hcurrent))]

theorem look_linked_of_ne {k : κ} (hk : k ≠ db.collate uuid) (action_id : String) :
    look db (linked db freight settings uuid act action_id) k =
      (look db freight k).map (relink db action_id act.action_id) := by
  have hrow : (newRow db freight settings uuid act).action_id = uuid := rfl
  rw [look_update, look_append, hrow, if_neg (Ne.symm hk), Option.or_none]

theorem look_linked_current (hfresh : Fresh db freight first_action uuid) (htable : Table db freight)
    (hcurrent : look db freight (db.collate act.action_id) = some current) (action_id : String) :
    look db (linked db freight settings uuid act action_id) (db.collate act.action_id) =
      some { current with next_action := some action_id } := by
  rw [look_linked_of_ne (current_ne_uuid hfresh htable hcurrent), hcurrent, Option.map_some,
    relink_of_eq ((look_eq_some htable).1 hcurrent).2]

/-- Every other action is found as before. -/
theorem look_linked_other (hfresh : Fresh db freight first_action uuid) (htable : Table db freight) {k : κ} {r : Row}
    (hcurrent : look db freight (db.collate act.action_id) = some current) (hr : look db freight k = some r)
    (hne : r ≠ current) (action_id : String) :
    look db (linked db freight settings uuid act action_id) k = some r := by
  obtain ⟨hmem, hkey⟩ := (look_eq_some htable).1 hr
  have hother : db.collate r.action_id ≠ db.collate act.action_id := by
    intro h
    rw [← hkey, h, hcurrent] at hr
    exact hne (Option.some.inj hr).symm
  have huuid : k ≠ db.collate uuid := by
    rw [← hkey]
    exact hfresh.action_id r hmem
  rw [look_linked_of_ne huuid, hr, Option.map_some, relink_of_ne hother]

theorem look_linked_none {k : κ} (hk : k ≠ db.collate uuid) (hnone : look db freight k = none) (action_id : String) :
    look db (linked db freight settings uuid act action_id) k = none := by
  rw [look_linked_of_ne hk, hnone, Option.map_none]

/-- No chain leads to the new id. -/
theorem Chain.end_ne_uuid (hfresh : Fresh db freight first_action uuid) (htable : Table db freight) {vehicle : String}
    {start b : κ} {l : List Row} (hstart : Starts db first_action vehicle start) (h : Chain db freight start l b) :
    b ≠ db.collate uuid := by
  rcases h.ends with rfl | ⟨k, r, -, hk, rfl⟩
  · obtain ⟨f, hf, -, rfl⟩ := hstart
    exact hfresh.first_action f hf
  · exact hfresh.next_action r ((look_eq_some htable).1 hk).1

/-- Where the new row links to. -/
theorem nextKey_newRow (settings : Settings) (uuid : String) (htable : Table db freight)
    (hcurrent : look db freight (db.collate act.action_id) = some current) :
    nextKey db (newRow db freight settings uuid act) = nextKey db current ∨
      look db freight (nextKey db current) = none ∧ nextKey db (newRow db freight settings uuid act) = db.collate "" := by
  have hkey : nextKey db (newRow db freight settings uuid act) = db.collate (successor db freight act.action_id) := rfl
  rw [hkey, successor_of_look hcurrent]
  cases hnext : look db freight (nextKey db current) with
  | none => exact .inr ⟨rfl, rfl⟩
  | some r => exact .inl ((look_eq_some htable).1 hnext).2

/-- The chain of the vehicle with the new row behind its current action. -/
theorem chain_linked (hfresh : Fresh db freight first_action uuid) (htable : Table db freight)
    (hcurrent : look db freight (db.collate act.action_id) = some current) {vehicle : String} {start b : κ}
    {l : List Row} (hstart : Starts db first_action vehicle start) (h : Chain db freight start l b) :
    ∃ b', Chain db (linked db freight settings uuid act uuid) start
        (Path.splice current { current with next_action := some uuid } (newRow db freight settings uuid act) l) b' ∧
      (b' = b ∨ look db freight b = none) ∧
      (look db freight b = none → look db (linked db freight settings uuid act uuid) b' = none) := by
  have hend := Chain.end_ne_uuid hfresh htable hstart h
  have hold : ∀ k, look db freight k = some current →
      look db (linked db freight settings uuid act uuid) k = some { current with next_action := some uuid } := by
    intro k hk
    rw [← ((look_eq_some htable).1 hk).2, ((look_eq_some htable).1 hcurrent).2]
    exact look_linked_current hfresh htable hcurrent uuid
  have hnext : nextKey db (newRow db freight settings uuid act) = nextKey db current ∨
      look db freight (nextKey db current) = none ∧
        look db (linked db freight settings uuid act uuid)
          (nextKey db (newRow db freight settings uuid act)) = none := by
    rcases nextKey_newRow settings uuid htable hcurrent with h | ⟨h, hempty⟩
    · exact .inl h
    · rw [hempty]
      exact .inr ⟨h, look_empty (htable.linked hfresh uuid)⟩
  obtain ⟨b', hpath, hb⟩ := Path.spliced hold (look_linked_uuid hfresh htable hcurrent uuid)
    (fun k r hr hne => look_linked_other hfresh htable hcurrent hr hne uuid) hnext h
  refine ⟨b', hpath, ?_, ?_⟩
  · rcases hb with rfl | ⟨hb, -⟩
    · exact .inl rfl
    · exact .inr hb
  · intro hnone
    rcases hb with rfl | ⟨-, hb⟩
    · exact look_linked_none hend hnone uuid
    · exact hb

/-- A chain that does not come by the current action. -/
theorem chain_linked_other (hfresh : Fresh db freight first_action uuid) (htable : Table db freight)
    (hcurrent : look db freight (db.collate act.action_id) = some current) {start b : κ} {l : List Row}
    (hseparate : ∀ m k, Chain db freight start m k → k ≠ db.collate act.action_id)
    (h : Chain db freight start l b) : Chain db (linked db freight settings uuid act uuid) start l b := by
  refine Path.frame h ?_
  intro k r hr hk
  refine look_linked_other hfresh htable hcurrent hk ?_ uuid
  rintro rfl
  obtain ⟨m, k', hk', hm⟩ := Path.reaches h hr
  refine hseparate m k' hm ?_
  rw [← ((look_eq_some htable).1 hk').2, ((look_eq_some htable).1 hcurrent).2]

theorem successor_linked (hfresh : Fresh db freight first_action uuid) (htable : Table db freight)
    (hcurrent : look db freight (db.collate act.action_id) = some current) :
    successor db (linked db freight settings uuid act uuid) uuid = successor db freight act.action_id := by
  have hne : nextKey db current ≠ db.collate uuid :=
    hfresh.next_action current ((look_eq_some htable).1 hcurrent).1
  rw [successor_of_look (look_linked_uuid hfresh htable hcurrent uuid), successor_of_look hcurrent]
  rcases nextKey_newRow settings uuid htable hcurrent with h | ⟨hnone, h⟩
  · rw [h, look_linked_of_ne hne]
    cases look db freight (nextKey db current) with
    | none => rfl
    | some r => exact relink_action_id db uuid act.action_id r
  · rw [h, look_empty (htable.linked hfresh uuid), hnone]

/-- With the current action linked to the new row, the new row came between. -/
theorem between_linked (order : ResultOrder) (hfresh : Fresh db freight first_action uuid) (htable : Table db freight)
    (hcurrent : look db freight (db.collate act.action_id) = some current)
    (hseparate : ∀ vehicle start l b, db.collate vehicle ≠ db.collate act.cmv_id →
      Starts db first_action vehicle start → Chain db freight start l b → b ≠ db.collate act.action_id) :
    Between db freight first_action order act (linked db freight settings uuid act uuid) current
      (newRow db freight settings uuid act) where
  stored := ((look_eq_some (htable.linked hfresh uuid)).1 (look_linked_uuid hfresh htable hcurrent uuid)).1
  isNew := hfresh.action_id
  operation := rfl
  vehicle := rfl
  next := by
    have hkey : nextKey db { current with next_action := some uuid } = db.collate uuid := rfl
    rw [retrieveNextAction_of_look order (htable.linked hfresh uuid) (look_linked_current hfresh htable hcurrent uuid),
      hkey, look_linked_uuid hfresh htable hcurrent uuid]
    rfl
  behind := by
    have hid : (newRow db freight settings uuid act).action_id = uuid := rfl
    rw [hid, retrieveNextAction_action_id order (htable.linked hfresh uuid)
      (look_linked_uuid hfresh htable hcurrent uuid), retrieveNextAction_action_id order htable hcurrent]
    exact successor_linked hfresh htable hcurrent
  chain := fun _ _ _ hstart h => chain_linked hfresh htable hcurrent hstart h
  others := by
    intro vehicle start l b hvehicle hstart h
    refine ⟨chain_linked_other hfresh htable hcurrent (fun m k => hseparate vehicle start m k hvehicle hstart) h, ?_⟩
    intro hnone
    exact look_linked_none (Chain.end_ne_uuid hfresh htable hstart h) hnone uuid

/-- The current action is linked to a row of the `SELECT`. -/
theorem insert_of_accepted (order : ResultOrder) (htable : Table db freight)
    (hcurrent : look db freight (db.collate act.action_id) = some current)
    (hacc : db.accepts (newRow db freight settings uuid act)) :
    ∃ res, order.first (get_action_id_for_previous_action db (freight ++ [newRow db freight settings uuid act])
        (successor db freight act.action_id) HOLDING) = some res ∧
      insert_holding_action_into_table db order settings uuid freight act =
        linked db freight settings uuid act res.action_id := by
  rw [insert_holding_action_into_table_of_look order htable hcurrent]
  unfold insert_action
  rw [if_pos hacc]
  have hmem : newRow db freight settings uuid act ∈ get_action_id_for_previous_action db
      (freight ++ [newRow db freight settings uuid act]) (successor db freight act.action_id) HOLDING :=
    (mem_get_action_id_for_previous_action rfl rfl).2 (.inl rfl)
  obtain ⟨res, hres⟩ := Option.isSome_iff_exists.1 (order.first_isSome (List.ne_nil_of_mem hmem))
  refine ⟨res, hres, ?_⟩
  simp only [hres]

/-- The order that puts a row first where it can. -/
def ResultOrder.favouring (g : Row) : ResultOrder where
  first rows := if g ∈ rows then some g else rows.head?
  first_mem := by
    intro rows r h
    split at h
    case isTrue hg => rwa [← Option.some.inj h]
    case isFalse => exact List.mem_of_head? h
  first_isSome := by
    intro rows h
    split
    case isTrue => rfl
    case isFalse => exact List.isSome_head?.2 h

/-- Without the new row nothing came between. -/
theorem accepted_of_between (order : ResultOrder) (htable : Table db freight) {h : Row}
    (hcurrent : look db freight (db.collate act.action_id) = some current)
    (hbetween : Between db freight first_action order act
      (insert_holding_action_into_table db order settings uuid freight act) current h) :
    db.accepts (newRow db freight settings uuid act) := by
  by_contra hacc
  have hsame : insert_holding_action_into_table db order settings uuid freight act = freight := by
    rw [insert_holding_action_into_table_of_look order htable hcurrent]
    unfold insert_action
    rw [if_neg hacc]
  have hstored := hbetween.stored
  rw [hsame] at hstored
  exact hbetween.isNew h hstored rfl

/-- The row found again is the new one. -/
theorem found_of_between (order : ResultOrder) (hfresh : Fresh db freight first_action uuid) (htable : Table db freight)
    {h res : Row} (hcurrent : look db freight (db.collate act.action_id) = some current)
    (hres : res = newRow db freight settings uuid act ∨ res ∈ freight)
    (hbetween : Between db freight first_action order act
      (linked db freight settings uuid act res.action_id) current h) :
    res = newRow db freight settings uuid act := by
  refine hres.resolve_right ?_
  intro hmem
  have hlook : look db freight (db.collate res.action_id) = some res := (look_eq_some htable).2 ⟨hmem, rfl⟩
  have hkey : nextKey db { current with next_action := some res.action_id } = db.collate res.action_id := rfl
  have hnext := hbetween.next
  rw [retrieveNextAction_of_look order (htable.linked hfresh res.action_id)
    (look_linked_current hfresh htable hcurrent res.action_id), hkey,
    look_linked_of_ne (hfresh.action_id res hmem), hlook] at hnext
  have hid := congrArg PortDrayage_Object.action_id hnext
  refine hbetween.isNew res hmem ?_
  rw [← relink_action_id db res.action_id act.action_id res]
  exact congrArg db.collate hid

/-- No other chain comes by the current action if all other chains stay. -/
theorem separate_of_between (order : ResultOrder) (hfresh : Fresh db freight first_action uuid)
    (htable : Table db freight) {h : Row} (hcurrent : look db freight (db.collate act.action_id) = some current)
    (hbetween : Between db freight first_action order act (linked db freight settings uuid act uuid) current h)
    (vehicle : String) (start b : κ) (l : List Row) (hvehicle : db.collate vehicle ≠ db.collate act.cmv_id)
    (hstart : Starts db first_action vehicle start) (hchain : Chain db freight start l b) :
    b ≠ db.collate act.action_id := by
  rintro rfl
  have hstays := (hbetween.others vehicle start _ _ hvehicle hstart (hchain.concat hcurrent)).1
  obtain ⟨m, k, hk, -⟩ := hstays.reaches (List.mem_append_right _ (List.mem_singleton_self current))
  obtain ⟨hmem, hkey⟩ := (look_eq_some htable).1 hcurrent
  have hk' := ((look_eq_some (htable.linked hfresh uuid)).1 hk).2
  rw [← hk', hkey, look_linked_current hfresh htable hcurrent uuid, Option.some.injEq] at hk
  refine hfresh.next_action current hmem ?_
  rw [← hk]
  rfl

/-- What a table that keeps its chains for every order of the results tells. -/
theorem KeepsChains.holdsWhen (htable : Table db freight) (hfresh : Fresh db freight first_action uuid)
    (hcurrent : look db freight (db.collate act.action_id) = some current)
    (hkeeps : KeepsChains db freight first_action settings uuid act) :
    HoldsWhen db freight first_action settings uuid act := by
  have hbetween : ∀ order, ∃ h, Between db freight first_action order act
      (insert_holding_action_into_table db order settings uuid freight act) current h := by
    intro order
    obtain ⟨current', h, hcurrent', hbetween⟩ := hkeeps order
    rw [hcurrent, Option.some.injEq] at hcurrent'
    subst hcurrent'
    exact ⟨h, hbetween⟩
  have hacc : db.accepts (newRow db freight settings uuid act) := by
    obtain ⟨h, hb⟩ := hbetween (.favouring current)
    exact accepted_of_between _ htable hcurrent hb
  have hfound : ∀ (order : ResultOrder) (res : Row), order.first (get_action_id_for_previous_action db
      (freight ++ [newRow db freight settings uuid act]) (successor db freight act.action_id) HOLDING) = some res →
      res = newRow db freight settings uuid act := by
    intro order res hres
    obtain ⟨h, hb⟩ := hbetween order
    obtain ⟨res', hres', heq⟩ := insert_of_accepted order htable hcurrent hacc
    rw [hres, Option.some.injEq] at hres'
    subst hres'
    rw [heq] at hb
    have hmem := (mem_get_action_id_for_previous_action rfl rfl).1 (order.first_mem hres)
    exact found_of_between order hfresh htable hcurrent (hmem.imp_right And.left) hb
  refine ⟨hacc, ?_, ?_⟩
  · intro r hr hop n hn hkey
    have hmem : r ∈ get_action_id_for_previous_action db (freight ++ [newRow db freight settings uuid act])
        (successor db freight act.action_id) HOLDING :=
      (mem_get_action_id_for_previous_action rfl rfl).2 (.inr ⟨hr, hop, n, hn, hkey⟩)
    have heq := hfound (.favouring r) r (if_pos hmem)
    refine hfresh.action_id r hr ?_
    rw [heq]
    rfl
  · intro vehicle start l b hvehicle hstart hchain
    obtain ⟨h, hb⟩ := hbetween (.favouring current)
    obtain ⟨res, hres, heq⟩ := insert_of_accepted (.favouring current) htable hcurrent hacc
    rw [heq, hfound _ _ hres] at hb
    exact separate_of_between _ hfresh htable hcurrent hb vehicle start b l hvehicle hstart hchain

/-- The row found again is the new one. -/
theorem HoldsWhen.keepsChains (htable : Table db freight) (hfresh : Fresh db freight first_action uuid)
    (hcurrent : look db freight (db.collate act.action_id) = some current)
    (hwhen : HoldsWhen db freight first_action settings uuid act) :
    KeepsChains db freight first_action settings uuid act := by
  intro order
  obtain ⟨res, hres, heq⟩ := insert_of_accepted order htable hcurrent hwhen.accepted
  have hnew : res = newRow db freight settings uuid act := by
    rcases (mem_get_action_id_for_previous_action rfl rfl).1 (order.first_mem hres) with h | ⟨hr, hop, n, hn, hkey⟩
    · exact h
    · exact absurd hkey (hwhen.alone res hr hop n hn)
  refine ⟨current, newRow db freight settings uuid act, hcurrent, ?_⟩
  rw [heq, hnew]
  exact between_linked order hfresh htable hcurrent hwhen.separate

end

/-- A holding action keeps the chains exactly if the server takes the new row, the row found again can only be the new
one, and no other truck comes by the current action. -/
theorem holding_action {settings : Settings} {uuid : String} {act : PortDrayage_Object}
    (htable : Table db freight) (hfresh : Fresh db freight first_action uuid)
    (hcurrent : (look db freight (db.collate act.action_id)).isSome) :
    KeepsChains db freight first_action settings uuid act ↔ HoldsWhen db freight first_action settings uuid act := by
  obtain ⟨current, hcurrent⟩ := Option.isSome_iff_exists.1 hcurrent
  exact ⟨fun h => h.holdsWhen htable hfresh hcurrent, fun h => h.keepsChains htable hfresh hcurrent⟩

/-- Strings of letters and digits are equal if they are the same; the texts have to fit their columns. -/
def plainServer : Server String where
  collate := id
  accepts r := r.cmv_id.length ≤ 20 ∧ r.operation.length ≤ 20 ∧ r.action_id.length ≤ 36

def checkpoint (cmv_id action_id : String) (next_action : Option String) : Row :=
  ⟨cmv_id, none, 0, 0, "PORT_CHECKPOINT", action_id, next_action⟩

/-- One truck on its way to an exit. -/
theorem holding_action_one_truck :
    KeepsChains plainServer [checkpoint "123" "a" (some "b"), ⟨"123", none, 0, 0, "EXIT_PORT", "b", none⟩]
      [checkpoint "123" "a" (some "b")] ⟨0, 0⟩ "new" (checkpoint "123" "a" (some "b")).toObject := by
  refine (holding_action ⟨by decide, by decide⟩ ⟨by decide, by decide, by decide, by decide⟩ (by decide)).2
    ⟨by decide, ?_, ?_⟩
  · intro r hr hop
    exact absurd hop (by revert r; decide)
  · rintro vehicle start l b hvehicle ⟨f, hf, hcmv, -⟩
    rw [List.mem_singleton.1 hf] at hcmv
    exact absurd hcmv.symm hvehicle

/-- The second truck at its last action gets the holding action of the first one. -/
theorem holding_action_two_trucks :
    ¬ KeepsChains plainServer
      [checkpoint "1" "a" (some "h"), ⟨"1", some "", 0, 0, "HOLDING_AREA", "h", some ""⟩, checkpoint "2" "b" (some "")]
      [checkpoint "1" "a" (some "h"), checkpoint "2" "b" (some "")] ⟨0, 0⟩ "new" (checkpoint "2" "b" (some "")).toObject := by
  intro h
  have hcurrent : look plainServer [checkpoint "1" "a" (some "h"), ⟨"1", some "", 0, 0, "HOLDING_AREA", "h", some ""⟩,
      checkpoint "2" "b" (some "")] "b" = some (checkpoint "2" "b" (some "")) := by decide
  have hwhen := h.holdsWhen ⟨by decide, by decide⟩ ⟨by decide, by decide, by decide, by decide⟩ hcurrent
  exact hwhen.alone ⟨"1", some "", 0, 0, "HOLDING_AREA", "h", some ""⟩ (by decide) rfl "" rfl (by decide)

end V2xHub.PortDrayagePlugin
