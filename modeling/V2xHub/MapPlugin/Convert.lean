import V2xHub.MapPlugin.Map
import Mathlib.Data.List.Forall2
import Mathlib.Data.List.GetD
import Mathlib.Data.List.Induction

/-!
# Conversion of maps to J2735

`convertMap` goes over the geometries of a map and adds an intersection or a road segment for each. The list that
they are added to is allocated in the loop, so that each geometry starts a new one, and only that of the last
geometry stays in the message. What should be there is what was parsed; the code takes the first entry that is all zeros for
the end of an array, so that what was parsed as zeros ends it, too. The conversion is complete exactly for one geometry at
most, without such an entry, whose computed lanes have no nodes of their own (`convertMap_complete_iff`).
-/

namespace V2xHub.MapPlugin

/-! ### J2735 -/

structure BitString where
  buf : List UInt8
  bits_unused : Nat
deriving DecidableEq

inductive NodeOffsetPoint where
  | nothing
  | node_XY1 (x y : Int)
  | node_XY2 (x y : Int)
  | node_XY3 (x y : Int)
  | node_XY4 (x y : Int)
  | node_XY5 (x y : Int)
  | node_XY6 (x y : Int)
deriving DecidableEq

structure NodeAttributeSet where
  dWidth : Option Int
  dElevation : Option Int
deriving DecidableEq

structure Node where
  delta : NodeOffsetPoint
  attributes : NodeAttributeSet
deriving DecidableEq

inductive NodeList where
  | nodes (nodes : List Node)
  | computed (referenceLaneId : UInt8) (offsetXaxis offsetYaxis : Int)
deriving DecidableEq

structure Connection where
  lane : UInt8
  maneuver : Option BitString
  signalGroup : UInt8
deriving DecidableEq

inductive LaneTypeAttributes where
  | nothing
  | vehicle (attributes : BitString)
  | crosswalk (attributes : BitString)
  | bikeLane (attributes : BitString)
  | sidewalk (attributes : BitString)
  | median (attributes : BitString)
  | striping (attributes : BitString)
  | trackedVehicle (attributes : BitString)
  | parking (attributes : BitString)
deriving DecidableEq

structure LaneAttributes where
  directionalUse : BitString
  sharedWith : BitString
  laneType : LaneTypeAttributes
deriving DecidableEq

structure GenericLane where
  laneID : UInt8
  laneAttributes : LaneAttributes
  maneuvers : Option BitString
  nodeList : NodeList
  connectsTo : Option (List Connection)
deriving DecidableEq

structure Position where
  lat : Int
  long : Int
  elevation : Option Int
deriving DecidableEq

/-- An `IntersectionGeometry`, with its `laneSet`, or a `RoadSegment`, with its `roadLaneSet`. -/
structure Geometry where
  id : Nat
  revision : Nat
  refPoint : Position
  laneWidth : UInt16
  laneSet : List GenericLane
deriving DecidableEq

inductive LayerType where
  | intersectionData
  | roadwaySectionData
deriving DecidableEq

/-- The lists are optional members: none is one that was not allocated. -/
structure MapData where
  msgIssueRevision : Nat
  layerType : Option LayerType
  intersections : Option (List Geometry)
  roadSegments : Option (List Geometry)
deriving DecidableEq

/-! ### Lanes -/

/-- A loop that goes on until `done`. -/
def forUntil {α σ : Type*} (done : α → Bool) (body : σ → α → σ) (s : σ) : List α → σ
  | [] => s
  | a :: as => if done a then s else forUntil done body (body s a) as

/-- Two bytes with the four lowest bits unused. -/
def shiftedBits (bits : UInt16) : BitString :=
  ⟨[UInt8.ofNat (bits.toNat >>> 4), UInt8.ofNat (bits.toNat <<< 4)], 4⟩

def convertConnection (c : MapConnection) : Connection where
  lane := c.lanenumber
  maneuver := if c.maneuver ≠ 0 then some (shiftedBits c.maneuver) else none
  signalGroup := c.signalGroup

def addConnection (list : List Connection) (c : MapConnection) : List Connection := list ++ [convertConnection c]

def connectsTo (l : MapLane) : Option (List Connection) :=
  if (l.connection.toList.headD ⟨0, 0, 0, 0⟩).lanenumber ≠ 0 then
    some (forUntil MapConnection.isEnd addConnection [] l.connection.toList)
  else none

def typeBits (attributes : UInt16) : BitString := ⟨[UInt8.ofNat (attributes.toNat >>> 8), UInt8.ofNat attributes.toNat], 0⟩

def createVehicleLaneAttributes (xmlAttributes : UInt16) : UInt16 :=
  let hov : UInt16 := if xmlAttributes &&& 0x0100 ≠ 0 then 0x2000 else 0
  let bus : UInt16 := if xmlAttributes &&& 0x0200 ≠ 0 then 0x1000 else 0
  let busAndTaxi : UInt16 := if xmlAttributes &&& 0x0400 ≠ 0 then 0x1800 else 0
  hov ||| bus ||| busAndTaxi

def createCrosswalkLaneAttributes (xmlAttributes : UInt16) : UInt16 :=
  if xmlAttributes &&& 0x1000 ≠ 0 then 0x4000 else 0

def createTrackedVehicleAttributes : UInt16 := 0x1000

def laneType (l : MapLane) : LaneTypeAttributes :=
  if l.type = vehicle ∨ l.type = computed then .vehicle (typeBits (createVehicleLaneAttributes l.attributes))
  else if l.type = pedestrian ∨ l.type = crosswalk then
    .crosswalk (typeBits (createCrosswalkLaneAttributes l.attributes))
  else if l.type = trackedVehicle then .trackedVehicle (typeBits createTrackedVehicleAttributes)
  else if l.type = bike then .bikeLane (typeBits 0)
  else if l.type = sidewalk then .sidewalk (typeBits 0)
  else if l.type = barrier then .median (typeBits 0)
  else if l.type = striping then .striping (typeBits 0)
  else if l.type = parking then .parking (typeBits 0)
  else .nothing

/-- Ingress and egress are the bits 0 and 1 of two. A lane of another type than those above has neither. -/
def directionalUse (l : MapLane) (isEgress : Bool) : BitString :=
  let use : UInt8 :=
    if l.type = vehicle ∨ l.type = computed then if isEgress then 0x40 else 0x80
    else if laneType l = .nothing then 0
    else 0xC0
  ⟨[use], 6⟩

def maneuvers (l : MapLane) : Option BitString :=
  if l.type = vehicle ∨ l.type = computed ∨ l.type = trackedVehicle then some (shiftedBits l.attributes) else none

def nodeOffset (modX modY : Int) : NodeOffsetPoint :=
  let largestOffset := if modX.natAbs > modY.natAbs then modX else modY
  if -512 ≤ largestOffset ∧ largestOffset ≤ 511 then .node_XY1 modX modY
  else if -1024 ≤ largestOffset ∧ largestOffset ≤ 1023 then .node_XY2 modX modY
  else if -2048 ≤ largestOffset ∧ largestOffset ≤ 2047 then .node_XY3 modX modY
  else if -4096 ≤ largestOffset ∧ largestOffset ≤ 4095 then .node_XY4 modX modY
  else if -8192 ≤ largestOffset ∧ largestOffset ≤ 8191 then .node_XY5 modX modY
  else if -32768 ≤ largestOffset ∧ largestOffset ≤ 32767 then .node_XY6 modX modY
  else .nothing

/-- The width of lane 0 is the default. -/
def convertNode (lane0 l : MapLane) (n : MapNode) : Node where
  delta := nodeOffset n.eastern.toInt n.northern.toInt
  attributes :=
    { dWidth := if lane0.width ≠ l.width then some ((l.width.toNat : Int) - lane0.width.toNat) else none
      dElevation := if n.elevation ≠ 0 then some n.elevation.toInt else none }

def addNode (lane0 l : MapLane) (list : List Node) (n : MapNode) : List Node := list ++ [convertNode lane0 l n]

def nodeList (lane0 l : MapLane) : NodeList :=
  if l.type = computed then
    .computed l.referencelane.lanenumber l.referencelane.xoffset.toInt l.referencelane.yoffset.toInt
  else .nodes (forUntil MapNode.isEnd (addNode lane0 l) [] l.node.toList)

def LoadGenericLaneData (l : MapLane) (isEgress : Bool) (geomMapGroup : MapGroup) : GenericLane where
  laneID := l.number
  connectsTo := connectsTo l
  laneAttributes := ⟨directionalUse l isEgress, ⟨[0, 0], 6⟩, laneType l⟩
  maneuvers := maneuvers l
  nodeList := nodeList (geomMapGroup.lane.get ⟨0, by decide⟩) l

def addLane (isEgress : Bool) (geomMapGroup : MapGroup) (laneSet : List GenericLane) (l : MapLane) : List GenericLane :=
  laneSet ++ [LoadGenericLaneData l isEgress geomMapGroup]

/-! ### Geometries -/

/-- What is common to the two conversions: everything but the ID. -/
def convertGeometry (m : Map) (id : Nat) (geom : MapGeometry) : Geometry :=
  let ingress := forUntil MapLane.isEnd (addLane false geom.approach) [] geom.approach.lane.toList
  { id := id
    revision := 1
    refPoint := ⟨geom.refpoint.latitude.toInt, geom.refpoint.longitude.toInt,
      if m.attributes &&& 1 ≠ 0 then some geom.refpoint.elevation.toInt else none⟩
    laneWidth := (geom.approach.lane.get ⟨0, by decide⟩).width
    laneSet := forUntil MapLane.isEnd (addLane true geom.egress) ingress geom.egress.lane.toList }

/-- The list is allocated before the intersection is added. -/
def addIntersection (m : Map) (data : MapData) (geom : MapGeometry) : MapData :=
  let intersection := convertGeometry m (if m.mapid = 0 then m.intersectionid else m.mapid) geom
  let data := { data with intersections := some [] }
  { data with intersections := data.intersections.map fun list => list ++ [intersection] }

def convertIntersectionMap (data : MapData) (m : Map) : MapData :=
  forUntil MapGeometry.isEnd (addIntersection m) { data with layerType := some .intersectionData } m.geometry.toList

/-- The list is allocated before the road segment is added. -/
def addRoadSegment (m : Map) (data : MapData) (geom : MapGeometry) : MapData :=
  let data := { data with roadSegments := some [] }
  let roadSegment := convertGeometry m m.mapid geom
  { data with roadSegments := data.roadSegments.map fun list => list ++ [roadSegment] }

def convertRoadwayMap (data : MapData) (m : Map) : MapData :=
  forUntil MapGeometry.isEnd (addRoadSegment m) { data with layerType := some .roadwaySectionData } m.geometry.toList

/-- The message, before it is encoded, and the counter for the next one. -/
def convertMap (gMapMessageCount : Nat) (m : Map) : MapData × Nat :=
  let data : MapData := ⟨gMapMessageCount, none, none, none⟩
  let count := if gMapMessageCount + 1 > 127 then 0 else gMapMessageCount + 1
  (match m.mapType with
    | .roadway => convertRoadwayMap data m
    | .intersection => convertIntersectionMap data m, count)

/-! ### What is complete -/

def NodeOffsetPoint.xy : NodeOffsetPoint → Option (Int × Int)
  | .nothing => none
  | .node_XY1 x y | .node_XY2 x y | .node_XY3 x y | .node_XY4 x y | .node_XY5 x y | .node_XY6 x y => some (x, y)

def GenericLane.nodes (lane : GenericLane) : List Node :=
  match lane.nodeList with
  | .nodes nodes => nodes
  | .computed _ _ _ => []

/-! What was parsed: lists, which the parser stores from the start of the arrays on. -/

structure ParsedLane where
  number : UInt8
  type : UInt8
  nodes : List MapNode
  connections : List MapConnection

structure ParsedGeometry where
  refpoint : MapReferencePoint
  approach : List ParsedLane
  egress : List ParsedLane

structure ParsedMap where
  mapType : MapType
  geometries : List ParsedGeometry

/-- The array has the entries, and behind them what is cleared. -/
def Holds {α : Type*} (isEnd : α → Bool) (array entries : List α) : Prop :=
  ∃ cleared, array = entries ++ cleared ∧ ∀ a ∈ cleared, isEnd a = true

structure StoresLane (p : ParsedLane) (l : MapLane) : Prop where
  number : l.number = p.number
  type : l.type = p.type
  node : Holds MapNode.isEnd l.node.toList p.nodes
  connection : Holds MapConnection.isEnd l.connection.toList p.connections

def StoresGroup (lanes : List ParsedLane) (g : MapGroup) : Prop :=
  ∃ entries, Holds MapLane.isEnd g.lane.toList entries ∧ List.Forall₂ StoresLane lanes entries

structure StoresGeometry (p : ParsedGeometry) (geom : MapGeometry) : Prop where
  refpoint : geom.refpoint = p.refpoint
  approach : StoresGroup p.approach geom.approach
  egress : StoresGroup p.egress geom.egress

/-- The map is what the parser makes of what it has parsed. -/
structure Stores (p : ParsedMap) (m : Map) : Prop where
  mapType : m.mapType = p.mapType
  geometry : ∃ entries, Holds MapGeometry.isEnd m.geometry.toList entries ∧ List.Forall₂ StoresGeometry p.geometries entries

def ShowsNode (n : MapNode) (node : Node) : Prop := node.delta.xy = some (n.eastern.toInt, n.northern.toInt)

def ShowsConnection (c : MapConnection) (connection : Connection) : Prop :=
  connection.lane = c.lanenumber ∧ connection.signalGroup = c.signalGroup

/-- The lane with all of its nodes and connections. -/
structure ShowsLane (p : ParsedLane) (lane : GenericLane) : Prop where
  laneID : lane.laneID = p.number
  nodes : List.Forall₂ ShowsNode p.nodes lane.nodes
  connections : List.Forall₂ ShowsConnection p.connections (lane.connectsTo.getD [])

/-- The geometry with all of its lanes, those of the approach first. -/
structure ShowsGeometry (p : ParsedGeometry) (g : Geometry) : Prop where
  lat : g.refPoint.lat = p.refpoint.latitude.toInt
  long : g.refPoint.long = p.refpoint.longitude.toInt
  lanes : List.Forall₂ ShowsLane (p.approach ++ p.egress) g.laneSet

/-- The message has the parsed geometries, each once and in their order, in the list for their kind, and
nothing in the other one. -/
def Complete (p : ParsedMap) (data : MapData) : Prop :=
  match p.mapType with
  | .roadway => List.Forall₂ ShowsGeometry p.geometries (data.roadSegments.getD []) ∧ data.intersections.getD [] = []
  | .intersection => List.Forall₂ ShowsGeometry p.geometries (data.intersections.getD []) ∧ data.roadSegments.getD [] = []

/-- Nothing in the lane is taken for an end, and a computed lane has no nodes: J2735 has either a reference lane or nodes. -/
structure ParsedLane.Proper (p : ParsedLane) : Prop where
  number : p.number ≠ 0
  nodes : if p.type = computed then p.nodes = [] else ∀ n ∈ p.nodes, n.isEnd = false
  connections : ∀ c ∈ p.connections, c.isEnd = false

structure ParsedGeometry.Proper (p : ParsedGeometry) : Prop where
  refpoint : ¬ (p.refpoint.longitude = 0 ∧ p.refpoint.latitude = 0)
  lanes : ∀ l ∈ p.approach ++ p.egress, l.Proper

variable {m : Map} {geom : MapGeometry} {l : MapLane} {data : MapData} {p : ParsedLane} {parsed : ParsedGeometry}

/-! ### Loops -/

theorem forUntil_eq {α σ : Type*} {done : α → Bool} {body : σ → α → σ} {s : σ} (as : List α) :
    forUntil done body s as = (terminated done as).foldl body s := by
  induction as generalizing s with
  | nil => rfl
  | cons a as ih =>
    rw [forUntil, terminated, List.takeWhile_cons]
    cases done a with
    | true => rfl
    | false => exact ih

theorem foldl_append_map {α β : Type*} {f : α → β} (as : List α) (s : List β) :
    as.foldl (fun s a => s ++ [f a]) s = s ++ as.map f := by
  induction as generalizing s with
  | nil => simp
  | cons a as ih => rw [List.foldl_cons, ih, List.map_cons, List.append_assoc, List.singleton_append]

/-! ### The ends of arrays -/

theorem Holds.terminated_eq {α : Type*} {isEnd : α → Bool} {array entries : List α} (h : Holds isEnd array entries) :
    terminated isEnd array = terminated isEnd entries := by
  obtain ⟨cleared, rfl, hcleared⟩ := h
  have hnone : cleared.takeWhile (fun a => !isEnd a) = [] := by
    cases cleared with
    | nil => rfl
    | cons a cleared =>
      rw [List.takeWhile_cons, hcleared a List.mem_cons_self]
      rfl
  rw [terminated, terminated, List.takeWhile_append, hnone, List.append_nil]
  split_ifs with hall
  · exact ((List.takeWhile_sublist _).eq_of_length hall).symm
  · rfl

section
variable {α β γ : Type*} {R : α → β → Prop} {S : α → γ → Prop} {isEnd : β → Bool} {f g : β → γ} {P : α → Prop} {as as' : List α}
  {bs bs' : List β}

theorem length_terminated_le (bs : List β) : (terminated isEnd bs).length ≤ bs.length :=
  (List.takeWhile_sublist _).length_le

/-- All entries are shown if and only if none of them is taken for the end and each one is shown. -/
theorem forall₂_terminated (h : List.Forall₂ R as bs) (hf : ∀ a b, R a b → (isEnd b = false ∧ S a (f b) ↔ P a)) :
    List.Forall₂ S as ((terminated isEnd bs).map f) ↔ ∀ a ∈ as, P a := by
  induction h with
  | nil => simp [terminated]
  | @cons a b as bs hab _ ih =>
    rw [List.forall_mem_cons, ← hf a b hab, ← ih, terminated, List.takeWhile_cons]
    cases isEnd b with
    | true => simp
    | false => simp [terminated]

/-- The same of two arrays one behind the other: what one of them loses is not made up for by the other. -/
theorem forall₂_terminated_append (h : List.Forall₂ R as bs) (h' : List.Forall₂ R as' bs')
    (hf : ∀ a b, R a b → (isEnd b = false ∧ S a (f b) ↔ P a)) (hg : ∀ a b, R a b → (isEnd b = false ∧ S a (g b) ↔ P a)) :
    List.Forall₂ S (as ++ as') ((terminated isEnd bs).map f ++ (terminated isEnd bs').map g) ↔ ∀ a ∈ as ++ as', P a := by
  induction h with
  | nil => simpa [terminated] using forall₂_terminated h' hg
  | @cons a b as bs hab hrest ih =>
    rw [List.cons_append, List.forall_mem_cons, ← hf a b hab, ← ih, terminated, List.takeWhile_cons]
    cases isEnd b with
    | true =>
      refine iff_of_false (fun hall => ?_) (by simp)
      have hlength := hall.length_eq
      have hle : (terminated isEnd bs').length ≤ bs'.length := length_terminated_le bs'
      have heq := h'.length_eq
      simp only [Bool.not_true, Bool.false_eq_true, if_false, List.map_nil, List.nil_append, List.length_map, List.length_cons,
        List.length_append] at hlength
      omega
    | false => simp [terminated]

end

/-! ### Lanes and geometries -/

theorem nodeOffset_xy (x y : Int16) : (nodeOffset x.toInt y.toInt).xy = some (x.toInt, y.toInt) := by
  have hx := x.le_toInt
  have hx' := x.toInt_lt
  have hy := y.le_toInt
  have hy' := y.toInt_lt
  have hlargest : -32768 ≤ (if x.toInt.natAbs > y.toInt.natAbs then x.toInt else y.toInt) ∧
      (if x.toInt.natAbs > y.toInt.natAbs then x.toInt else y.toInt) ≤ 32767 := by
    split_ifs <;> constructor <;> omega
  rw [nodeOffset]
  generalize (if x.toInt.natAbs > y.toInt.natAbs then x.toInt else y.toInt) = largest at hlargest ⊢
  split_ifs <;> rfl

theorem nodes_eq (lane0 : MapLane) (h : l.type ≠ computed) :
    nodeList lane0 l = .nodes (l.nodes.map (convertNode lane0 l)) := by
  rw [nodeList, if_neg h, forUntil_eq]
  exact congrArg NodeList.nodes (foldl_append_map l.nodes [])

theorem connectsTo_eq : (connectsTo l).getD [] = l.connections.map convertConnection := by
  have hall : forUntil MapConnection.isEnd addConnection [] l.connection.toList = l.connections.map convertConnection := by
    rw [forUntil_eq]
    exact foldl_append_map l.connections []
  rw [connectsTo, hall]
  split_ifs with h
  · rfl
  · -- The first entry is the end already.
    have hnil : l.connections = [] := by
      rw [MapLane.connections, terminated]
      cases hlist : l.connection.toList with
      | nil => rfl
      | cons c list =>
        rw [hlist] at h
        have hend : c.isEnd = true := decide_eq_true (not_not.1 h)
        rw [List.takeWhile_cons, hend]
        rfl
    rw [hnil]
    rfl

theorem showsConnections_iff (h : StoresLane p l) (isEgress : Bool) (geomMapGroup : MapGroup) :
    List.Forall₂ ShowsConnection p.connections ((LoadGenericLaneData l isEgress geomMapGroup).connectsTo.getD []) ↔
      ∀ c ∈ p.connections, c.isEnd = false := by
  show List.Forall₂ ShowsConnection p.connections ((connectsTo l).getD []) ↔ _
  rw [connectsTo_eq, MapLane.connections, h.connection.terminated_eq]
  refine forall₂_terminated (R := Eq) (List.forall₂_same.2 fun _ _ => rfl) ?_
  rintro c _ rfl
  exact and_iff_left ⟨rfl, rfl⟩

theorem showsNodes_iff (h : StoresLane p l) (isEgress : Bool) (geomMapGroup : MapGroup) :
    List.Forall₂ ShowsNode p.nodes (LoadGenericLaneData l isEgress geomMapGroup).nodes ↔
      if p.type = computed then p.nodes = [] else ∀ n ∈ p.nodes, n.isEnd = false := by
  rw [GenericLane.nodes, LoadGenericLaneData, ← h.type]
  split_ifs with hcomputed
  · rw [nodeList, if_pos hcomputed]
    exact List.forall₂_nil_right_iff
  · rw [nodes_eq _ hcomputed, MapLane.nodes, h.node.terminated_eq]
    refine forall₂_terminated (R := Eq) (List.forall₂_same.2 fun _ _ => rfl) ?_
    rintro n _ rfl
    exact and_iff_left (nodeOffset_xy n.eastern n.northern)

theorem showsLane_iff (h : StoresLane p l) (isEgress : Bool) (geomMapGroup : MapGroup) :
    l.isEnd = false ∧ ShowsLane p (LoadGenericLaneData l isEgress geomMapGroup) ↔ p.Proper := by
  have hend : l.isEnd = false ↔ p.number ≠ 0 := by
    rw [MapLane.isEnd, h.number, decide_eq_false_iff_not]
  rw [hend]
  constructor
  · rintro ⟨hnumber, hlane⟩
    exact ⟨hnumber, (showsNodes_iff h _ _).1 hlane.nodes, (showsConnections_iff h _ _).1 hlane.connections⟩
  · intro hproper
    exact ⟨hproper.number, h.number, (showsNodes_iff h _ _).2 hproper.nodes, (showsConnections_iff h _ _).2 hproper.connections⟩

theorem laneSet_eq (id : Nat) : (convertGeometry m id geom).laneSet =
    (geom.approach.lanes.map fun l => LoadGenericLaneData l false geom.approach) ++
      geom.egress.lanes.map fun l => LoadGenericLaneData l true geom.egress := by
  have hloop : ∀ (isEgress : Bool) (g : MapGroup) (s : List GenericLane),
      forUntil MapLane.isEnd (addLane isEgress g) s g.lane.toList =
        s ++ g.lanes.map fun l => LoadGenericLaneData l isEgress g := by
    intro isEgress g s
    rw [forUntil_eq]
    exact foldl_append_map g.lanes s
  rw [convertGeometry]
  dsimp only
  rw [hloop, hloop, List.nil_append]

theorem showsGeometry_iff (h : StoresGeometry parsed geom) (id : Nat) :
    geom.isEnd = false ∧ ShowsGeometry parsed (convertGeometry m id geom) ↔ parsed.Proper := by
  have hend : geom.isEnd = false ↔ ¬ (parsed.refpoint.longitude = 0 ∧ parsed.refpoint.latitude = 0) := by
    rw [MapGeometry.isEnd, h.refpoint, decide_eq_false_iff_not]
  have hlanes : List.Forall₂ ShowsLane (parsed.approach ++ parsed.egress) (convertGeometry m id geom).laneSet ↔
      ∀ l ∈ parsed.approach ++ parsed.egress, l.Proper := by
    obtain ⟨approach, happroach, hin⟩ := h.approach
    obtain ⟨egress, hegress, hout⟩ := h.egress
    rw [laneSet_eq, MapGroup.lanes, MapGroup.lanes, happroach.terminated_eq, hegress.terminated_eq]
    exact forall₂_terminated_append hin hout (fun p l hl => showsLane_iff hl false _) fun p l hl => showsLane_iff hl true _
  rw [hend]
  constructor
  · rintro ⟨hrefpoint, hshows⟩
    exact ⟨hrefpoint, hlanes.1 hshows.lanes⟩
  · intro hproper
    refine ⟨hproper.refpoint, ?_, ?_, hlanes.2 hproper.lanes⟩
    · rw [← h.refpoint]
      rfl
    · rw [← h.refpoint]
      rfl

/-! ### The lists -/

/-- Of the intersections only that of the last geometry is left. -/
theorem intersections_eq (l : List MapGeometry) :
    (l.foldl (addIntersection m) data).intersections = (match l.getLast? with
      | some geom => some [convertGeometry m (if m.mapid = 0 then m.intersectionid else m.mapid) geom]
      | none => data.intersections) ∧
    (l.foldl (addIntersection m) data).roadSegments = data.roadSegments := by
  induction l using List.reverseRecOn with
  | nil => exact ⟨rfl, rfl⟩
  | append_singleton l geom ih =>
    rw [List.foldl_append, List.getLast?_append]
    exact ⟨rfl, ih.2⟩

theorem roadSegments_eq (l : List MapGeometry) :
    (l.foldl (addRoadSegment m) data).roadSegments = (match l.getLast? with
      | some geom => some [convertGeometry m m.mapid geom]
      | none => data.roadSegments) ∧
    (l.foldl (addRoadSegment m) data).intersections = data.intersections := by
  induction l using List.reverseRecOn with
  | nil => exact ⟨rfl, rfl⟩
  | append_singleton l geom ih =>
    rw [List.foldl_append, List.getLast?_append]
    exact ⟨rfl, ih.2⟩

theorem convertIntersectionMap_lists :
    (convertIntersectionMap data m).intersections = (match m.geometries.getLast? with
      | some geom => some [convertGeometry m (if m.mapid = 0 then m.intersectionid else m.mapid) geom]
      | none => data.intersections) ∧
    (convertIntersectionMap data m).roadSegments = data.roadSegments := by
  rw [convertIntersectionMap, forUntil_eq]
  exact intersections_eq m.geometries

theorem convertRoadwayMap_lists :
    (convertRoadwayMap data m).roadSegments = (match m.geometries.getLast? with
      | some geom => some [convertGeometry m m.mapid geom]
      | none => data.roadSegments) ∧
    (convertRoadwayMap data m).intersections = data.intersections := by
  rw [convertRoadwayMap, forUntil_eq]
  exact roadSegments_eq m.geometries

theorem forall₂_last_iff (id : Nat) {p : List ParsedGeometry} {entries : List MapGeometry}
    (h : List.Forall₂ StoresGeometry p entries) :
    List.Forall₂ ShowsGeometry p ((match (terminated MapGeometry.isEnd entries).getLast? with
      | some geom => some [convertGeometry m id geom]
      | none => none : Option (List Geometry)).getD []) ↔
      p.length ≤ 1 ∧ ∀ geom ∈ p, geom.Proper := by
  cases h with
  | nil => simp [terminated]
  | @cons parsed geom p entries hgeom hrest =>
    cases hrest with
    | nil =>
      rw [List.forall_mem_singleton, ← showsGeometry_iff (m := m) hgeom id, terminated, List.takeWhile_cons]
      cases geom.isEnd with
      | true => simp
      | false => simp
    | cons =>
      -- at most one comes out
      refine iff_of_false (fun h => ?_) fun h => absurd h.1 (by simp)
      have hlength := h.length_eq
      cases hlast : (terminated MapGeometry.isEnd (geom :: _)).getLast? with
      | none =>
        rw [hlast] at hlength
        simp at hlength
      | some geom =>
        rw [hlast] at hlength
        simp at hlength

/-- The conversion is complete exactly for one parsed geometry at most, in which nothing is taken for an end and the computed
lanes have no nodes of their own. -/
theorem convertMap_complete_iff (gMapMessageCount : Nat) (p : ParsedMap) (m : Map) (hstores : Stores p m) :
    Complete p (convertMap gMapMessageCount m).1 ↔ p.geometries.length ≤ 1 ∧ ∀ geom ∈ p.geometries, geom.Proper := by
  obtain ⟨htype, entries, harray, hgeometries⟩ := hstores
  have hlast : m.geometries = terminated MapGeometry.isEnd entries := harray.terminated_eq
  rw [convertMap, Complete, ← htype]
  cases m.mapType with
  | roadway =>
    obtain ⟨hroad, hother⟩ := @convertRoadwayMap_lists m ⟨gMapMessageCount, none, none, none⟩
    dsimp only
    rw [hroad, hother, hlast, forall₂_last_iff _ hgeometries]
    exact and_iff_left rfl
  | intersection =>
    obtain ⟨hintersections, hother⟩ := @convertIntersectionMap_lists m ⟨gMapMessageCount, none, none, none⟩
    dsimp only
    rw [hintersections, hother, hlast, forall₂_last_iff _ hgeometries]
    exact and_iff_left rfl

/-! ### Parsed maps -/

/-- An array with these entries. -/
def fill {α : Type*} (n : Nat) (cleared : α) (entries : List α) : Vector α n := Vector.ofFn fun i : Fin n => entries.getD i.val cleared

theorem holds_fill {α : Type*} {isEnd : α → Bool} {n : Nat} {cleared : α} {entries : List α} (hend : isEnd cleared = true)
    (hle : entries.length ≤ n) : Holds isEnd (fill n cleared entries).toList entries := by
  refine ⟨List.replicate (n - entries.length) cleared, ?_, fun a ha => by rw [List.eq_of_mem_replicate ha]; exact hend⟩
  unfold fill
  refine List.ext_getElem (by simp; omega) fun i hi hi' => ?_
  simp only [Vector.getElem_toList, Vector.getElem_ofFn, List.getElem_append]
  split_ifs with h
  · exact List.getD_eq_getElem entries cleared h
  · rw [List.getElem_replicate]
    exact List.getD_eq_default entries cleared (Nat.le_of_not_lt h)

/-- No lanes. -/
def emptyGroup : MapGroup :=
  ⟨0, Vector.replicate _ ⟨0, vehicle, 0, 0, Vector.replicate _ ⟨0, 0, 0, 0⟩, ⟨0, 0, 0, 0⟩, Vector.replicate _ ⟨0, 0, 0, 0⟩⟩⟩

def clearedLane : MapLane :=
  ⟨0, vehicle, 0, 0, Vector.replicate _ ⟨0, 0, 0, 0⟩, ⟨0, 0, 0, 0⟩, Vector.replicate _ ⟨0, 0, 0, 0⟩⟩

def clearedGeometry : MapGeometry := ⟨⟨0, 0, 0⟩, emptyGroup, emptyGroup⟩

theorem stores_empty : StoresGroup [] emptyGroup := by
  refine ⟨[], ⟨emptyGroup.lane.toList, rfl, fun l hl => ?_⟩, .nil⟩
  rw [emptyGroup, Vector.toList_replicate] at hl
  rw [List.eq_of_mem_replicate hl]
  rfl

/-- A lane with two nodes and one connection. -/
def parsedLane : ParsedLane := ⟨1, vehicle, [⟨100, -50, 0, 0⟩, ⟨200, -50, 0, 0⟩], [⟨2, 7, 3, 1⟩]⟩

def storedLane : MapLane :=
  ⟨1, vehicle, 0, 330, fill _ ⟨0, 0, 0, 0⟩ parsedLane.nodes, ⟨0, 0, 0, 0⟩, fill _ ⟨0, 0, 0, 0⟩ parsedLane.connections⟩

/-- An intersection with the lane. -/
def parsedCrossing : ParsedMap := ⟨.intersection, [⟨⟨389549000, -771489000, 0⟩, [parsedLane], []⟩]⟩

def storedCrossing : Map :=
  ⟨.intersection, 0, 7, 0, fill _ clearedGeometry [⟨⟨389549000, -771489000, 0⟩, ⟨0, fill _ clearedLane [storedLane]⟩,
    emptyGroup⟩]⟩

theorem stores_crossing : Stores parsedCrossing storedCrossing := by
  have hlane : StoresLane parsedLane storedLane := ⟨rfl, rfl, holds_fill rfl (by decide), holds_fill rfl (by decide)⟩
  have hgroup : StoresGroup [parsedLane] ⟨0, fill _ clearedLane [storedLane]⟩ :=
    ⟨[storedLane], holds_fill rfl (by decide), .cons hlane .nil⟩
  exact ⟨rfl, _, holds_fill rfl (by decide), .cons ⟨rfl, hgroup, stores_empty⟩ .nil⟩

theorem convertMap_complete_crossing : Complete parsedCrossing (convertMap 0 storedCrossing).1 := by
  refine (convertMap_complete_iff 0 parsedCrossing storedCrossing stores_crossing).mpr ⟨by decide, ?_⟩
  have hlane : parsedLane.Proper := ⟨by decide, by decide, by decide⟩
  exact List.forall_mem_singleton.mpr ⟨by decide, List.forall_mem_singleton.mpr hlane⟩

/-- A map of two intersections without lanes. -/
def twoIntersections : Map :=
  ⟨.intersection, 0, 7, 0, #v[⟨⟨1, 1, 0⟩, emptyGroup, emptyGroup⟩, ⟨⟨2, 2, 0⟩, emptyGroup, emptyGroup⟩,
    ⟨⟨0, 0, 0⟩, emptyGroup, emptyGroup⟩, ⟨⟨0, 0, 0⟩, emptyGroup, emptyGroup⟩, ⟨⟨0, 0, 0⟩, emptyGroup, emptyGroup⟩,
    ⟨⟨0, 0, 0⟩, emptyGroup, emptyGroup⟩, ⟨⟨0, 0, 0⟩, emptyGroup, emptyGroup⟩, ⟨⟨0, 0, 0⟩, emptyGroup, emptyGroup⟩,
    ⟨⟨0, 0, 0⟩, emptyGroup, emptyGroup⟩, ⟨⟨0, 0, 0⟩, emptyGroup, emptyGroup⟩]⟩

def parsedTwo : ParsedMap := ⟨.intersection, [⟨⟨1, 1, 0⟩, [], []⟩, ⟨⟨2, 2, 0⟩, [], []⟩]⟩

/-- The list with the first intersection is replaced when the second one is converted. -/
theorem convertMap_loses : Stores parsedTwo twoIntersections ∧ ¬ Complete parsedTwo (convertMap 0 twoIntersections).1 := by
  constructor
  · have hgeometries : Holds MapGeometry.isEnd twoIntersections.geometry.toList
        [⟨⟨1, 1, 0⟩, emptyGroup, emptyGroup⟩, ⟨⟨2, 2, 0⟩, emptyGroup, emptyGroup⟩] := by
      refine ⟨List.replicate 8 clearedGeometry, rfl, fun g hg => ?_⟩
      rw [List.eq_of_mem_replicate hg]
      rfl
    exact ⟨rfl, _, hgeometries, .cons ⟨rfl, stores_empty, stores_empty⟩ (.cons ⟨rfl, stores_empty, stores_empty⟩ .nil)⟩
  · intro h
    have hlength := h.1.length_eq
    exact absurd hlength (by decide +kernel)

end V2xHub.MapPlugin
