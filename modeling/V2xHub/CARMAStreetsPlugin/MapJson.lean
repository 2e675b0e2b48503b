import V2xHub.JsonCpp.Build

/-!
# Maps as JSON

`J2735MapToJsonConverter` on the structures of a map message. A pointer to an optional field is an `Option`; a null pointer that
is dereferenced is undefined (`none`). The converter has a branch for each of the six offsets of a node and none for the others,
and of a connection it writes the lane and the signal group only. What it dereferences, what it carries and what it cannot
tell apart is in `map_to_json`.
-/

namespace V2xHub.CARMAStreetsPlugin.MapJson
open JsonCpp JsonCpp.Value

/-- The bytes, behind which there is a NUL, and the number of bits of the last byte that do not count. -/
structure BitString where
  buf : List UInt8
  bits_unused : Nat
deriving DecidableEq

inductive LaneTypeAttributes where
  | NOTHING
  | vehicle (bits : BitString)
  | crosswalk (bits : BitString)
  | bikeLane (bits : BitString)
  | sidewalk (bits : BitString)
  | median (bits : BitString)
  | striping (bits : BitString)
  | trackedVehicle (bits : BitString)
  | parking (bits : BitString)
deriving DecidableEq

structure LaneAttributes where
  directionalUse : BitString
  sharedWith : BitString
  laneType : LaneTypeAttributes
deriving DecidableEq

/-- A regional offset is opaque. -/
inductive NodeOffsetPointXY where
  | NOTHING
  | node_XY1 (x y : Int)
  | node_XY2 (x y : Int)
  | node_XY3 (x y : Int)
  | node_XY4 (x y : Int)
  | node_XY5 (x y : Int)
  | node_XY6 (x y : Int)
  | node_LatLon (lon lat : Int)
  | regional (contents : List UInt8)
deriving DecidableEq

/-- Of the attributes of a node the change of the elevation. -/
structure NodeXY where
  delta : NodeOffsetPointXY
  dElevation : Option Int
deriving DecidableEq

/-- Of a computed lane the lane it is computed from. -/
inductive NodeListXY where
  | nodes (list : List NodeXY)
  | computed (referenceLaneId : Int)
deriving DecidableEq

structure Connection where
  lane : Int
  maneuver : Option BitString
  signalGroup : Option Int
  connectionID : Option Int
deriving DecidableEq

structure GenericLane where
  laneID : Int
  ingressApproach : Option Int
  egressApproach : Option Int
  laneAttributes : LaneAttributes
  nodeList : NodeListXY
  connectsTo : Option (List Connection)
deriving DecidableEq

structure IntersectionGeometry where
  id : Int
  revision : Int
  lat : Int
  Long : Int
  elevation : Option Int
  laneWidth : Option Int
  laneSet : List GenericLane
deriving DecidableEq

structure MapData where
  layerType : Option Int
  layerID : Option Int
  msgIssueRevision : Int
  intersections : Option (List IntersectionGeometry)
deriving DecidableEq

/-! ### The converter -/

/-- `std::to_string`, or a number written to a stream. -/
def text (n : Int) : Value := string (Printf.lld n)

/-- `ss << bits.buf`, which is written as a C string. -/
def BitString.chars (bits : BitString) : Value := string (bits.buf.takeWhile (· != 0))

/-- `append` for each of the values; without one the value stays null. -/
def appended : List Value → Value
  | [] => null
  | values => array values

def LaneTypeAttributes.toJson : LaneTypeAttributes → Value
  | vehicle bits => null.assign "vehicle" bits.chars
  | crosswalk bits => null.assign "crosswalk" bits.chars
  | bikeLane bits => null.assign "bike_lane" bits.chars
  | median bits => null.assign "median" bits.chars
  | parking bits => null.assign "parking" bits.chars
  | sidewalk bits => null.assign "sidewalk" bits.chars
  | striping bits => null.assign "striping" bits.chars
  | trackedVehicle bits => null.assign "tracked_vehicle" bits.chars
  | NOTHING => null.assign "nothing" (string [])

/-- `directional_use`: the first byte without its unused bits, halved and its last bit, in decimal. -/
def BitString.directionalUse (bits : BitString) : Option Value :=
  bits.buf.head?.map fun b =>
    let binary := b.toNat >>> bits.bits_unused
    string (Printf.decimal (binary / 2) ++ Printf.decimal (binary % 2))

def LaneAttributes.convertLaneAttributeToJSON (attributes : LaneAttributes) : Value :=
  let json := null.assignOptional "directional_use" attributes.directionalUse.directionalUse
  let json := json.assign "shared_with" attributes.sharedWith.chars
  json.assign "lane_type" attributes.laneType.toJson

/-- The coordinates of the six alternatives that are converted. -/
def NodeOffsetPointXY.xy? : NodeOffsetPointXY → Option (Int × Int)
  | node_XY1 x y => some (x, y)
  | node_XY2 x y => some (x, y)
  | node_XY3 x y => some (x, y)
  | node_XY4 x y => some (x, y)
  | node_XY5 x y => some (x, y)
  | node_XY6 x y => some (x, y)
  | _ => none

def NodeXY.toJson (node : NodeXY) : Option Value :=
  node.delta.xy?.map fun (x, y) =>
    null.assign "delta" (null.assign "node-xy" ((null.assign "x" (text x)).assign "y" (text y)))

def NodeListXY.list : NodeListXY → List NodeXY
  | nodes list => list
  | computed _ => []

def NodeListXY.convertNodeListToJSON (nodeList : NodeListXY) : Value := appended (nodeList.list.filterMap NodeXY.toJson)

def Connection.toJson (connect : Connection) : Option Value := do
  let signalGroup ← connect.signalGroup
  let json := null.assign "connecting_lane" (null.assign "lane" (text connect.lane))
  return json.assign "signal_group" (text signalGroup)

def convertConnectsToJSON (connectsTo : List Connection) : Option Value :=
  (connectsTo.mapM Connection.toJson).map appended

def GenericLane.toJson (lane : GenericLane) : Option Value := do
  let json := null.assign "lane_id" (text lane.laneID)
  let json := json.assignOptional "ingress_approach" (lane.ingressApproach.map text)
  let json := json.assignOptional "egressApproach" (lane.egressApproach.map text)
  let json := json.assign "lane_attributes" lane.laneAttributes.convertLaneAttributeToJSON
  let json := json.assign "node_list" (null.assign "nodes" lane.nodeList.convertNodeListToJSON)
  match lane.connectsTo with
  | none => return json
  | some connectsTo =>
    let connectsJson ← convertConnectsToJSON connectsTo
    return json.assign "connects_to" connectsJson

def convertLanesetToJSON (laneSet : List GenericLane) : Option Value := (laneSet.mapM GenericLane.toJson).map appended

def IntersectionGeometry.toJson (intersection : IntersectionGeometry) : Option Value := do
  let laneWidth ← intersection.laneWidth
  let json := null.assign "id" (null.assign "id" (text intersection.id))
  let json := json.assign "lane_width" (text laneWidth)
  let json := json.assign "revision" (text intersection.revision)
  let refPoint := (null.assign "lat" (text intersection.lat)).assign "long" (text intersection.Long)
  let json := json.assign "ref_point" (refPoint.assignOptional "elevation" (intersection.elevation.map text))
  let laneSetJson ← convertLanesetToJSON intersection.laneSet
  return json.assign "lane_set" laneSetJson

/-- Every intersection is written to the same member, so the last one stays. -/
def intersectionsJson (intersections : List IntersectionGeometry) : Option Value :=
  (intersections.mapM IntersectionGeometry.toJson).map fun jsons =>
    jsons.foldl (fun json intersectionJson => json.assign "intersection_geometry" intersectionJson) null

/-- The JSON of a map at the time `timestamp_utc`. -/
def convertJ2735MAPToMapJSON (timestamp_utc : Int) (mapMsg : MapData) : Option Value := do
  let mapJson := null.assign "metadata" (null.assign "timestamp" (text timestamp_utc))
  let layerID ← mapMsg.layerID
  let mapDataJson := null.assign "layer_id" (text layerID)
  let mapDataJson := mapDataJson.assign "msg_issue_revision" (text mapMsg.msgIssueRevision)
  let mapDataJson := mapDataJson.assignOptional "layer_type" (mapMsg.layerType.map text)
  match mapMsg.intersections with
  | none => return mapJson.assign "map_data" mapDataJson
  | some intersections =>
    let intersectionsJson ← intersectionsJson intersections
    return mapJson.assign "map_data" (mapDataJson.assign "intersections" intersectionsJson)

/-! ### What the JSON should say -/

/-- The elements of an array at the end of a path. -/
def elementsAt (path : List String) (v : Value) : List Value := ((v.valueAt path).map elements).getD []

/-- The coordinates of the own alternative, wherever they are. -/
def CarriesNode (node : NodeXY) (v : Value) : Prop :=
  match node.delta with
  | .node_LatLon lon lat => ∃ p q, p ≠ q ∧ v.valueAt p = some (text lon) ∧ v.valueAt q = some (text lat)
  | delta => ∀ xy ∈ delta.xy?, v.valueAt ["delta", "node-xy", "x"] = some (text xy.1) ∧
      v.valueAt ["delta", "node-xy", "y"] = some (text xy.2)

structure CarriesConnection (connect : Connection) (v : Value) : Prop where
  lane : v.valueAt ["connecting_lane", "lane"] = some (text connect.lane)
  signalGroup : v.valueAt ["signal_group"] = connect.signalGroup.map text

structure CarriesLane (lane : GenericLane) (v : Value) : Prop where
  laneID : v.valueAt ["lane_id"] = some (text lane.laneID)
  nodes : List.Forall₂ CarriesNode lane.nodeList.list (elementsAt ["node_list", "nodes"] v)
  connections : List.Forall₂ CarriesConnection (lane.connectsTo.getD []) (elementsAt ["connects_to"] v)

/-- Every lane with its nodes and its connections, in order. -/
def Carries (g : IntersectionGeometry) (mapJson : Value) : Prop :=
  List.Forall₂ CarriesLane g.laneSet
    (elementsAt ["map_data", "intersections", "intersection_geometry", "lane_set"] mapJson)

/-- What two maps should be told apart by: the attributes, the nodes and the connections. -/
def GenericLane.content (lane : GenericLane) : LaneAttributes × NodeListXY × Option (List Connection) :=
  (lane.laneAttributes, lane.nodeList, lane.connectsTo)

def Differs (g g' : IntersectionGeometry) : Prop := g.laneSet.map GenericLane.content ≠ g'.laneSet.map GenericLane.content

instance decidableDiffers (g g' : IntersectionGeometry) : Decidable (Differs g g') := inferInstanceAs (Decidable (_ ≠ _))

/-- Every pointer that is followed leads somewhere. -/
def Dereferenceable (m : MapData) (g : IntersectionGeometry) : Prop :=
  m.layerID ≠ none ∧ g.laneWidth ≠ none ∧ ∀ lane ∈ g.laneSet, ∀ connect ∈ lane.connectsTo.getD [], connect.signalGroup ≠ none

/-- Every node has one of the six offsets. -/
def AllXY (g : IntersectionGeometry) : Prop := ∀ lane ∈ g.laneSet, ∀ node ∈ lane.nodeList.list, node.delta.xy? ≠ none

/-- The map with `g` for its one intersection. -/
def MapData.withIntersection (m : MapData) (g : IntersectionGeometry) : MapData := { m with intersections := some [g] }

variable {v mapJson : Value} {lane : GenericLane} {connect : Connection} {node : NodeXY} {ns : List NodeXY}
  {g g' : IntersectionGeometry} {m : MapData} {now : Int} {values : List Value}

/-! ### Connections and nodes -/

theorem elements_appended (values : List Value) : (appended values).elements = values := by
  cases values <;> rfl

theorem carriesConnection (h : connect.toJson = some v) : CarriesConnection connect v := by
  obtain ⟨signalGroup, hgroup, h⟩ := Option.bind_eq_some_iff.1 h
  obtain rfl := Option.some.inj h
  exact ⟨by simp, by simp [hgroup]⟩

theorem connection_exists : (∃ v, connect.toJson = some v) ↔ connect.signalGroup ≠ none := by
  rw [← Option.isSome_iff_exists, ← Option.isSome_iff_ne_none]
  cases h : connect.signalGroup <;> simp [Connection.toJson, h]

theorem carriesNode (h : node.toJson = some v) : CarriesNode node v := by
  obtain ⟨xy, hxy, rfl⟩ := Option.map_eq_some_iff.1 h
  unfold CarriesNode
  split
  · rename_i hdelta
    rw [hdelta] at hxy
    nomatch hxy
  · intro xy' hxy'
    obtain rfl := Option.some.inj (hxy.symm.trans hxy')
    exact ⟨by simp, by simp⟩

/-- A node that is left out is missed, because the list is too short without it. -/
theorem carriesNodes_iff :
    List.Forall₂ CarriesNode ns (ns.filterMap NodeXY.toJson) ↔ ∀ node ∈ ns, node.delta.xy? ≠ none := by
  constructor
  · intro h node hnode
    have hall := List.filterMap_length_eq_length.1 h.length_eq.symm node hnode
    rw [NodeXY.toJson, Option.isSome_map] at hall
    exact Option.isSome_iff_ne_none.1 hall
  · induction ns with
    | nil => exact fun _ => .nil
    | cons node ns ih =>
      intro h
      obtain ⟨hnode, hnodes⟩ := List.forall_mem_cons.1 h
      have hsome : node.toJson.isSome := by
        rw [NodeXY.toJson, Option.isSome_map]
        exact Option.isSome_iff_ne_none.2 hnode
      obtain ⟨v, hjson⟩ := Option.isSome_iff_exists.1 hsome
      rw [List.filterMap_cons_some hjson]
      exact .cons (carriesNode hjson) (ih hnodes)

/-! ### Lanes -/

theorem lane_exists : (∃ v, lane.toJson = some v) ↔ ∀ connect ∈ lane.connectsTo.getD [], connect.signalGroup ≠ none := by
  unfold GenericLane.toJson
  cases lane.connectsTo with
  | none => simp
  | some connectsTo =>
    have hmapM := mapM_forall₂ (f := Connection.toJson) (R := fun connect v => connect.toJson = some v) connectsTo
    simp only [and_self, connection_exists] at hmapM
    rw [Option.getD_some, ← hmapM]
    simp only [convertConnectsToJSON, Option.bind_eq_bind, Option.pure_def, Option.bind_eq_some_iff, Option.map_eq_some_iff,
      Option.some.injEq]
    constructor
    · rintro ⟨_, _, ⟨r, hr, -⟩, -⟩
      exact ⟨r, hr, mapM_eq_some.1 hr⟩
    · rintro ⟨r, hr, -⟩
      exact ⟨_, _, ⟨r, hr, rfl⟩, rfl⟩

theorem carriesLane_iff (h : lane.toJson = some v) :
    CarriesLane lane v ↔ ∀ node ∈ lane.nodeList.list, node.delta.xy? ≠ none := by
  have hnodes : elementsAt ["node_list", "nodes"] v = lane.nodeList.list.filterMap NodeXY.toJson := by
    unfold GenericLane.toJson at h
    cases hconnects : lane.connectsTo with
    | none =>
      rw [hconnects] at h
      obtain rfl := Option.some.inj h
      simp [elementsAt, NodeListXY.convertNodeListToJSON, elements_appended]
    | some connectsTo =>
      rw [hconnects] at h
      obtain ⟨connectsJson, -, h⟩ := Option.bind_eq_some_iff.1 h
      obtain rfl := Option.some.inj h
      simp [elementsAt, NodeListXY.convertNodeListToJSON, elements_appended]
  constructor
  · intro hcarries
    rw [← carriesNodes_iff, ← hnodes]
    exact hcarries.nodes
  · intro hall
    have hforall : List.Forall₂ CarriesNode lane.nodeList.list (elementsAt ["node_list", "nodes"] v) := by
      rw [hnodes, carriesNodes_iff]
      exact hall
    unfold GenericLane.toJson at h
    cases hconnects : lane.connectsTo with
    | none =>
      rw [hconnects] at h
      obtain rfl := Option.some.inj h
      refine ⟨by simp, hforall, ?_⟩
      simp [hconnects, elementsAt]
    | some connectsTo =>
      rw [hconnects] at h
      obtain ⟨connectsJson, hjson, h⟩ := Option.bind_eq_some_iff.1 h
      obtain rfl := Option.some.inj h
      obtain ⟨values, hvalues, rfl⟩ := Option.map_eq_some_iff.1 hjson
      refine ⟨by simp, hforall, ?_⟩
      have helements : (appended values).elements = values := elements_appended values
      simp only [hconnects, elementsAt, valueAt_assign_self, valueAt_nil, Option.map_some, Option.getD_some, helements]
      exact (mapM_eq_some.1 hvalues).imp fun _ _ => carriesConnection

/-! ### The map -/

/-- The converted lanes of a map with one intersection. -/
theorem convert_eq_some : convertJ2735MAPToMapJSON now (m.withIntersection g) = some mapJson → ∃ values,
    List.Forall₂ (fun lane v => lane.toJson = some v) g.laneSet values ∧
      elementsAt ["map_data", "intersections", "intersection_geometry", "lane_set"] mapJson = values := by
  intro h
  obtain ⟨layerID, -, h⟩ := Option.bind_eq_some_iff.1 h
  obtain ⟨intersections, hintersections, h⟩ := Option.bind_eq_some_iff.1 h
  obtain rfl := Option.some.inj h
  obtain ⟨jsons, hjsons, rfl⟩ := Option.map_eq_some_iff.1 hintersections
  obtain ⟨json, hjson, rfl⟩ : ∃ json, g.toJson = some json ∧ jsons = [json] := by
    obtain ⟨json, l, hjson, hl, rfl⟩ := List.forall₂_cons_left_iff.1 (mapM_eq_some.1 hjsons)
    obtain rfl := List.forall₂_nil_left_iff.1 hl
    exact ⟨json, hjson, rfl⟩
  obtain ⟨laneWidth, -, h⟩ := Option.bind_eq_some_iff.1 hjson
  obtain ⟨laneSetJson, hlanes, h⟩ := Option.bind_eq_some_iff.1 h
  obtain rfl := Option.some.inj h
  obtain ⟨values, hvalues, rfl⟩ := Option.map_eq_some_iff.1 hlanes
  refine ⟨values, mapM_eq_some.1 hvalues, ?_⟩
  simp [elementsAt, elements_appended]

theorem convert_exists : (∃ mapJson, convertJ2735MAPToMapJSON now (m.withIntersection g) = some mapJson) ↔
    Dereferenceable m g := by
  have hlanes := mapM_forall₂ (f := GenericLane.toJson) (R := fun lane v => lane.toJson = some v) g.laneSet
  simp only [and_self, lane_exists] at hlanes
  unfold Dereferenceable
  rw [← hlanes]
  unfold convertJ2735MAPToMapJSON MapData.withIntersection intersectionsJson
  cases m.layerID with
  | none => simp
  | some layerID =>
    simp only [List.mapM_cons, List.mapM_nil, IntersectionGeometry.toJson, convertLanesetToJSON]
    cases g.laneWidth with
    | none => simp
    | some laneWidth =>
      cases hmapM : g.laneSet.mapM GenericLane.toJson with
      | none => simp
      | some values => simpa using mapM_eq_some.1 hmapM

theorem carries_iff (h : convertJ2735MAPToMapJSON now (m.withIntersection g) = some mapJson) :
    Carries g mapJson ↔ AllXY g := by
  obtain ⟨values, hvalues, helements⟩ := convert_eq_some h
  unfold Carries AllXY
  rw [helements]
  exact forall₂_iff_forall hvalues fun _ _ => carriesLane_iff

/-! ### What is not told apart -/

/-- Other nodes with the same JSON: of the first one the attributes change, and where there is none two nodes in degrees
come. -/
def NodeListXY.altered : NodeListXY → NodeListXY
  | nodes (node :: rest) => nodes ({ node with dElevation := if node.dElevation = none then some 0 else none } :: rest)
  | _ => nodes [⟨.node_LatLon 0 0, none⟩, ⟨.node_LatLon 1 1, none⟩]

theorem altered_ne (nodeList : NodeListXY) : nodeList.altered ≠ nodeList := by
  match nodeList with
  | .nodes (node :: rest) =>
    obtain ⟨delta, dElevation⟩ := node
    intro h
    have helevation := congrArg NodeXY.dElevation (List.cons.inj (NodeListXY.nodes.inj h)).1
    cases dElevation <;> nomatch helevation
  | .nodes [] => exact nofun
  | .computed r => exact nofun

theorem altered_json (nodeList : NodeListXY) : nodeList.altered.convertNodeListToJSON = nodeList.convertNodeListToJSON := by
  match nodeList with
  | .nodes (node :: rest) => rfl
  | .nodes [] => rfl
  | .computed r => rfl

def IntersectionGeometry.altered (g : IntersectionGeometry) : IntersectionGeometry :=
  { g with laneSet := g.laneSet.map fun lane => { lane with nodeList := lane.nodeList.altered } }

theorem differs_altered (h : g.laneSet ≠ []) : Differs g g.altered := by
  obtain ⟨lane, lanes, hlanes⟩ := List.exists_cons_of_ne_nil h
  unfold Differs IntersectionGeometry.altered
  rw [hlanes]
  intro hsame
  have hcontent := congrArg (fun c => c.2.1) (List.cons.inj hsame).1
  exact altered_ne _ hcontent.symm

theorem convert_altered : convertJ2735MAPToMapJSON now (m.withIntersection g.altered) =
    convertJ2735MAPToMapJSON now (m.withIntersection g) := by
  have hlane : ∀ lane : GenericLane, GenericLane.toJson { lane with nodeList := lane.nodeList.altered } = lane.toJson := by
    intro lane
    unfold GenericLane.toJson
    rw [altered_json]
  have hset : convertLanesetToJSON g.altered.laneSet = convertLanesetToJSON g.laneSet := by
    unfold convertLanesetToJSON IntersectionGeometry.altered
    induction g.laneSet with
    | nil => rfl
    | cons lane lanes ih =>
      have ih := Option.map_injective (f := appended) (fun a b hab => by
        rw [← elements_appended a, ← elements_appended b, hab]) ih
      rw [List.map_cons, List.mapM_cons, List.mapM_cons, hlane, ih]
  have hg : g.altered.toJson = g.toJson := by
    unfold IntersectionGeometry.toJson
    rw [hset]
    rfl
  unfold convertJ2735MAPToMapJSON MapData.withIntersection intersectionsJson
  simp only [List.mapM_cons, hg]

/-- For any map with one intersection. The conversion is defined if and only if every pointer that it follows is there; the
JSON carries every node and connection if and only if no node is in degrees or regional; and as another map has the same JSON
as soon as there is a lane, all of it together holds only without lanes. -/
theorem map_to_json (now : Int) (m : MapData) (g : IntersectionGeometry) :
    ((∃ mapJson, convertJ2735MAPToMapJSON now (m.withIntersection g) = some mapJson ∧ Carries g mapJson ∧
        ∀ (now' : Int) (m' : MapData) (g' : IntersectionGeometry), Differs g g' →
          convertJ2735MAPToMapJSON now' (m'.withIntersection g') ≠ some mapJson) ↔
      m.layerID ≠ none ∧ g.laneWidth ≠ none ∧ g.laneSet = []) ∧
    ((∃ mapJson, convertJ2735MAPToMapJSON now (m.withIntersection g) = some mapJson) ↔ Dereferenceable m g) ∧
    ∀ mapJson, convertJ2735MAPToMapJSON now (m.withIntersection g) = some mapJson → (Carries g mapJson ↔ AllXY g) := by
  refine ⟨⟨?_, ?_⟩, convert_exists, fun mapJson => carries_iff⟩
  · rintro ⟨mapJson, h, -, hapart⟩
    obtain ⟨hlayer, hwidth, -⟩ := convert_exists.1 ⟨mapJson, h⟩
    refine ⟨hlayer, hwidth, ?_⟩
    by_contra hlanes
    exact hapart now m g.altered (differs_altered hlanes) (convert_altered.trans h)
  · rintro ⟨hlayer, hwidth, hlanes⟩
    have hderef : Dereferenceable m g := ⟨hlayer, hwidth, by simp [hlanes]⟩
    obtain ⟨mapJson, h⟩ := convert_exists.2 hderef
    refine ⟨mapJson, h, (carries_iff h).2 (by simp [AllXY, hlanes]), fun now' m' g' hdiffers h' => ?_⟩
    obtain ⟨values, hvalues, helements⟩ := convert_eq_some h
    obtain ⟨values', hvalues', helements'⟩ := convert_eq_some h'
    obtain rfl := helements.symm.trans helements'
    have hlength := hvalues'.length_eq.trans hvalues.length_eq.symm
    rw [hlanes, List.length_nil, List.length_eq_zero_iff] at hlength
    exact hdiffers (by rw [hlanes, hlength])

/-- A lane of two nodes in degrees: neither is in the JSON, and a lane of two others has the same. -/
theorem map_to_json_degrees :
    let lane (lon : Int) : GenericLane := ⟨3, some 1, none, ⟨⟨[192], 6⟩, ⟨[0, 0], 6⟩, .vehicle ⟨[0], 0⟩⟩,
      .nodes [⟨.node_LatLon lon 389549000, none⟩, ⟨.node_LatLon lon 389548000, none⟩], some [⟨5, none, some 2, some 1⟩]⟩
    let g (lon : Int) : IntersectionGeometry := ⟨1002, 1, 389549844, -771493239, none, some 366, [lane lon]⟩
    let m (lon : Int) : MapData := ⟨none, some 1, 2, some [g lon]⟩
    Differs (g (-771493000)) (g (-771492000)) ∧
      convertJ2735MAPToMapJSON 0 (m (-771493000)) = convertJ2735MAPToMapJSON 0 (m (-771492000)) ∧
      ∃ mapJson, convertJ2735MAPToMapJSON 0 (m (-771493000)) = some mapJson ∧ ¬ Carries (g (-771493000)) mapJson := by
  intro lane g m
  refine ⟨by decide, rfl, _, rfl, fun h => ?_⟩
  have hconvert : convertJ2735MAPToMapJSON 0 ((m 0).withIntersection (g (-771493000))) = some _ := rfl
  exact (carries_iff hconvert).1 h _ (List.mem_singleton_self _) _ (List.mem_cons_self ..) rfl

end V2xHub.CARMAStreetsPlugin.MapJson
