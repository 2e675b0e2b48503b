import V2xHub.Lib.Linked

/-!
# The freight table of the port drayage plugin

`PortDrayagePlugin` keeps the actions of the trucks in a database: a row of `freight` is an action and names the action
behind it. The table has no key and a `SELECT` has no order, so which row of a result is the first one is left to the
server, as are the equality of its collation, the rows it takes and the value of `UUID()`. Coordinates are in the units
of their columns.
-/

namespace V2xHub.PortDrayagePlugin

/-- A row of `freight` or of `first_action`. -/
structure Row where
  cmv_id : String
  cargo_id : Option String
  destination_lat : Int
  destination_long : Int
  operation : String
  action_id : String
  next_action : Option String
deriving DecidableEq

/-- Without the members for the cargo and the location of a request, which are not read here. -/
structure PortDrayage_Object where
  cmv_id : String
  cargo_id : String
  operation : String
  destination_lat : Int
  destination_long : Int
  action_id : String
  next_action : String
deriving DecidableEq

/-- Behind the constructor. -/
def PortDrayage_Object.empty : PortDrayage_Object := ⟨"", "", "", 0, 0, "", ""⟩

/-- `getString` reads `NULL` as the empty string. -/
def Row.toObject (r : Row) : PortDrayage_Object :=
  ⟨r.cmv_id, r.cargo_id.getD "", r.operation, r.destination_lat, r.destination_long, r.action_id, r.next_action.getD ""⟩

/-- `operation_to_string(Operation::HOLDING)` -/
def HOLDING : String := "HOLDING_AREA"

/-! The operations that need the web service, `operation_to_string` of them. -/

def PICKUP : String := "PICKUP"
def DROPOFF : String := "DROPOFF"
def CHECKPOINT : String := "PORT_CHECKPOINT"

/-- Two strings are equal to the server if they have the same collation key; `INSERT` throws for a row that does not
fit the columns. -/
structure Server (κ : Type) where
  collate : String → κ
  accepts : Row → Bool

/-- Where `first()` of a result goes. -/
structure ResultOrder where
  first : List Row → Option Row
  first_mem : ∀ {rows r}, first rows = some r → r ∈ rows
  first_isSome : ∀ {rows}, rows ≠ [] → (first rows).isSome

/-- The members the functions read. -/
structure Settings where
  _holding_lat : Int
  _holding_lon : Int

section
variable {κ : Type} [DecidableEq κ] (db : Server κ) (order : ResultOrder)

/-- `SELECT * FROM freight WHERE action_id = ?` -/
def current_action (freight : List Row) (action_id : String) : List Row :=
  freight.filter fun r => db.collate r.action_id = db.collate action_id

/-- `SELECT action_id FROM freight WHERE next_action = ? and operation = ?`, where `NULL` equals nothing -/
def get_action_id_for_previous_action (freight : List Row) (next_action operation : String) : List Row :=
  freight.filter fun r => r.next_action.any (fun n => db.collate n = db.collate next_action) ∧
    db.collate r.operation = db.collate operation

/-- A row in the `UPDATE`. -/
def relink (next_action action_id : String) (r : Row) : Row :=
  if db.collate r.action_id = db.collate action_id then { r with next_action := some next_action } else r

/-- `UPDATE freight SET next_action = ? WHERE action_id = ?` -/
def update_current_action (freight : List Row) (next_action action_id : String) : List Row :=
  freight.map (relink db next_action action_id)

/-- `INSERT INTO freight VALUES(?,?,?,?,?, UUID(), ?)` -/
def insert_action (freight : List Row) (row : Row) : Option (List Row) :=
  if db.accepts row then some (freight ++ [row]) else none

def retrieveNextAction (freight : List Row) (action_id : String) : PortDrayage_Object :=
  match order.first (current_action db freight action_id) with
  | none => .empty
  | some cur_action =>
    match order.first (current_action db freight (cur_action.next_action.getD "")) with
    | none => .empty
    | some next => next.toObject

/-- The row of the `INSERT`. -/
def holdingRow (settings : Settings) (uuid : String) (current_action : PortDrayage_Object) (next_action : String) :
    Row where
  cmv_id := current_action.cmv_id
  cargo_id := some current_action.cargo_id
  destination_lat := settings._holding_lat
  destination_long := settings._holding_lon
  operation := HOLDING
  action_id := uuid
  next_action := some next_action

/-- A statement that throws leaves the table as the ones before it made it. -/
def insert_holding_action_into_table (settings : Settings) (uuid : String) (freight : List Row)
    (current_action : PortDrayage_Object) : List Row :=
  let next_action := retrieveNextAction db order freight current_action.action_id
  match insert_action db freight (holdingRow settings uuid current_action next_action.action_id) with
  | none => freight
  | some inserted =>
    match order.first (get_action_id_for_previous_action db inserted next_action.action_id HOLDING) with
    | none => inserted
    | some res => update_current_action db inserted res.action_id current_action.action_id

/-- `SELECT * FROM first_action WHERE cmv_id = ?` -/
def retrieveFirstAction (first_action : List Row) (cmv_id : String) : PortDrayage_Object :=
  match order.first (first_action.filter fun f => db.collate f.cmv_id = db.collate cmv_id) with
  | none => .empty
  | some cur_action => cur_action.toObject

/-- Empty where the statement throws. -/
def retrieve_holding_inspection_action_id (freight : List Row) (action_id : String) : String :=
  match order.first (get_action_id_for_previous_action db freight action_id CHECKPOINT) with
  | none => ""
  | some res => res.action_id

/-- What the web service is asked for. -/
inductive Request where
  | loading (cmv_id cargo_id action_id : String)
  | unloading (cmv_id cargo_id action_id : String)
  | inspection (cmv_id cargo_id action_id : String)
  | holding (action_id : String)
deriving DecidableEq

/-- The table, the request and the action that is broadcast behind a message. -/
structure Handled where
  freight : List Row
  request : Option Request
  new_action : Option PortDrayage_Object

/-- The branches of `HandleMobilityOperationMessage` over the operation, `holding` being what
`request_inspection` returns. -/
def handleOperation (settings : Settings) (uuid : String) (holding : Int) (freight : List Row)
    (pd : PortDrayage_Object) : List Row × Option Request :=
  if pd.operation = PICKUP then (freight, some (.loading pd.cmv_id pd.cargo_id pd.action_id))
  else if pd.operation = DROPOFF then (freight, some (.unloading pd.cmv_id pd.cargo_id pd.action_id))
  else if pd.operation = CHECKPOINT then
    (if holding = 1 then insert_holding_action_into_table db order settings uuid freight pd else freight,
      some (.inspection pd.cmv_id pd.cargo_id pd.action_id))
  else if pd.operation = HOLDING then
    (freight, some (.holding (retrieve_holding_inspection_action_id db order freight pd.action_id)))
  else (freight, none)

/-- `HandleMobilityOperationMessage` for a message of the port drayage strategy that could be read. -/
def HandleMobilityOperationMessage (settings : Settings) (uuid : String) (holding : Int)
    (first_action freight : List Row) (pd : PortDrayage_Object) : Handled :=
  let (freight, request) := handleOperation db order settings uuid holding freight pd
  let new_action :=
    if pd.action_id = "" then retrieveFirstAction db order first_action pd.cmv_id
    else retrieveNextAction db order freight pd.action_id
  ⟨freight, request, if new_action.action_id = "" then none else some new_action⟩

end
end V2xHub.PortDrayagePlugin
