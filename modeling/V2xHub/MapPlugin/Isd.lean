import V2xHub.Lib.Strtol
import V2xHub.MapPlugin.Offsets
import Mathlib.Algebra.Order.Round
import Mathlib.Data.Rat.Floor

/-!
# ISD maps

`ISDToJ2735r41`, from what the adaptors give for an ISD file to the map message, with rational numbers for the doubles. The
distance of two points is a parameter. A member that may be missing in the file is an option here, and its getter gives the
default. Distances on the earth fit an `int` of centimeters.
-/

namespace V2xHub.MapPlugin.Isd

/-! ### The file -/

structure WGS84Point where
  Latitude : ℚ
  Longitude : ℚ

structure LaneNode where
  nodeLat : ℚ
  nodeLong : ℚ
  nodeElev : Option ℚ
  laneWidthDelta : Int

/-- The maneuvers and the attributes are sets of bits. -/
structure Connection where
  fromLane : Str
  toLane : Str
  signal_id : Str
  maneuvers : BitVec 12

structure DrivingLane where
  laneID : Str
  laneType : Str
  typeAttributes : BitVec 16
  sharedWith : BitVec 10
  laneManeuvers : BitVec 12
  laneNodes : List LaneNode
  connections : List Connection

structure LaneList where
  approachType : Str
  approachID : Str
  drivingLanes : List DrivingLane
  crosswalkLanes : List DrivingLane

structure IntersectionGeometry where
  descriptiveIntersctionName : Str
  intersectionID : Int
  msgCount : Int
  masterLaneWidth : Option Nat
  referenceLat : ℚ
  referenceLon : ℚ
  referenceElevation : Option ℚ
  lanes : List LaneList

/-- The types of layers, in the order of their numbers. -/
inductive LayerType where
  | none
  | mixedContent
  | generalMapData
  | intersectionData
  | curveData
  | roadwaySectionData
  | parkingAreaData
  | sharedLaneData
deriving DecidableEq

/-- The type of the layer is decoded from its name, unless there is no such type. -/
structure ISDData where
  layerType : Option LayerType
  intersectionGeometry : Option IntersectionGeometry

def LaneNode.get_nodeElev (laneNode : LaneNode) : ℚ := laneNode.nodeElev.getD (-1000)

def LaneNode.point (laneNode : LaneNode) : WGS84Point := ⟨laneNode.nodeLat, laneNode.nodeLong⟩

namespace IntersectionGeometry

def get_referenceElevation (geom : IntersectionGeometry) : ℚ := geom.referenceElevation.getD (-1)

def get_masterLaneWidth (geom : IntersectionGeometry) : Int := (geom.masterLaneWidth.map fun (w : Nat) => (w : Int)).getD (-1)

def referencePoint (geom : IntersectionGeometry) : WGS84Point := ⟨geom.referenceLat, geom.referenceLon⟩

end IntersectionGeometry

/-! ### The message -/

structure Node where
  delta : NodeOffsetPoint
  attributes : Option NodeAttributeSet

structure ConnectsTo where
  signalGroup : Option Int
  lane : Int
  maneuver : Option BitString

structure GenericLane where
  laneID : Int
  ingressApproach : Option Int
  egressApproach : Option Int
  laneAttributes : LaneAttributes
  maneuvers : Option BitString
  /-- `none` is for `NO_NODE`. -/
  nodeList : Option (List Node)
  connectsTo : Option (List ConnectsTo)

structure Intersection where
  id : Int
  revision : Int
  name : Option Str
  refPoint : Position
  laneWidth : Option Int
  laneSet : List GenericLane

structure MapData where
  msgIssueRevision : Int
  layerType : Option LayerType
  intersections : Option (List Intersection)

/-! ### The code -/

/-- A double as an integer. -/
def toLong (q : ℚ) : Int := if q < 0 then ⌈q⌉ else ⌊q⌋

def atol (s : Str) : Int := max (-2 ^ 63) (min (2 ^ 63 - 1) ((Strtol.number s).getD 0))

def addOptionalValue {α : Type} [DecidableEq α] (value skipVal : α) : Option α :=
  if value ≠ skipVal then some value else none

/-- `addValue` for a bit set, whose first bit comes first. -/
def addValue {n : Nat} (bits : BitVec n) : BitString :=
  let numBytes := (n + 7) / 8
  let bits_unused := numBytes * 8 - n
  let value := bits.reverse.toNat <<< bits_unused
  ⟨(List.range numBytes).map fun i => UInt8.ofNat (value >>> (8 * (numBytes - 1 - i))), bits_unused⟩

/-- `addOptionalValue` for a bit set. -/
def addOptionalBits {n : Nat} (bits : BitVec n) : Option BitString := if bits.toNat ≠ 0 then some (addValue bits) else none

section
variable (DistanceInMeters : WGS84Point → WGS84Point → ℚ)

def modX (refPoint nodePoint : WGS84Point) : Int :=
  let nodeXToRefY : WGS84Point := ⟨nodePoint.Latitude, refPoint.Longitude⟩
  let modX := toLong (DistanceInMeters nodePoint nodeXToRefY * 100)
  if nodePoint.Longitude < refPoint.Longitude then modX * -1 else modX

def modY (refPoint nodePoint : WGS84Point) : Int :=
  let refXToNodeY : WGS84Point := ⟨refPoint.Latitude, nodePoint.Longitude⟩
  let modY := toLong (DistanceInMeters nodePoint refXToNodeY * 100)
  if nodePoint.Latitude < refPoint.Latitude then modY * -1 else modY

/-- The elevation of a node over that of the reference point, or zero. -/
def dElev (refElevation : Option Int) (laneNode : LaneNode) : Int :=
  let dElev := toLong (laneNode.get_nodeElev * 10)
  match refElevation with
  | none => 0
  | some elevation => if dElev ≤ -1000 then 0 else dElev + -1 * elevation

def convertNode (refElevation : Option Int) (refPoint : WGS84Point) (laneNode : LaneNode) : Node where
  delta := nodeOffset (modX DistanceInMeters refPoint laneNode.point) (modY DistanceInMeters refPoint laneNode.point)
  attributes :=
    if laneNode.laneWidthDelta ≠ 0 ∨ dElev refElevation laneNode ≠ 0 then
      some ⟨addOptionalValue laneNode.laneWidthDelta 0, addOptionalValue (dElev refElevation laneNode) 0⟩
    else none

/-- Each node is the reference point of the next one. -/
def convertNodes (refElevation : Option Int) : (refPoint : WGS84Point) → List LaneNode → List Node
  | _, [] => []
  | refPoint, laneNode :: laneNodes =>
    convertNode DistanceInMeters refElevation refPoint laneNode :: convertNodes refElevation laneNode.point laneNodes

def convertConnection (conn : Connection) : ConnectsTo where
  signalGroup := addOptionalValue (if conn.signal_id = [] then -1 else atol conn.signal_id) (-1)
  lane := atol conn.toLane
  maneuver := addOptionalBits conn.maneuvers

/-- The connections from this lane. -/
def DrivingLane.starting (driveLane : DrivingLane) : List Connection :=
  driveLane.connections.filter fun conn => conn.fromLane = driveLane.laneID

/-- A list that is allocated for its first element. -/
def allocated {α : Type} (l : List α) : Option (List α) := if l = [] then none else some l

def isIngress (type : Str) : Bool := type = CString.lit "Ingress" ∨ type = CString.lit "ingress"

def isEgress (type : Str) : Bool := type = CString.lit "Egress" ∨ type = CString.lit "egress"

/-- The bits for the ingress and the egress path. -/
def directionalUse (type : Str) : BitVec 2 := if isIngress type then 1 else if isEgress type then 2 else 0

def laneTypeAttributes (laneType : Str) (attrs : BitString) : LaneTypeAttributes :=
  if laneType = CString.lit "Vehicle" then .vehicle attrs
  else if laneType = CString.lit "Crosswalk" then .crosswalk attrs
  else if laneType = CString.lit "Bikelane" then .bikeLane attrs
  else if laneType = CString.lit "Sidewalk" then .sidewalk attrs
  else if laneType = CString.lit "Median" then .median attrs
  else if laneType = CString.lit "Striping" then .striping attrs
  else if laneType = CString.lit "TrackedVehicle" then .trackedVehicle attrs
  else if laneType = CString.lit "Parking" then .parking attrs
  else .nothing

def convertLane (refElevation : Option Int) (refPoint : WGS84Point) (approach : LaneList) (driveLane : DrivingLane) :
    GenericLane where
  laneID := atol driveLane.laneID
  ingressApproach := if isIngress approach.approachType then addOptionalValue (Strtol.atoi approach.approachID) 0 else none
  egressApproach :=
    if isIngress approach.approachType then none
    else if isEgress approach.approachType then addOptionalValue (Strtol.atoi approach.approachID) 0
    else none
  laneAttributes :=
    { directionalUse := addValue (directionalUse approach.approachType)
      sharedWith := addValue driveLane.sharedWith
      laneType := laneTypeAttributes driveLane.laneType (addValue driveLane.typeAttributes) }
  maneuvers := addOptionalBits driveLane.laneManeuvers
  nodeList := allocated (convertNodes DistanceInMeters refElevation refPoint driveLane.laneNodes)
  connectsTo := allocated (driveLane.starting.map convertConnection)

/-- The lanes of the type of the approach. -/
def LaneList.driveLanes (approach : LaneList) : List DrivingLane :=
  if approach.approachType = CString.lit "Crosswalk" then approach.crosswalkLanes else approach.drivingLanes

def referenceElevation (geom : IntersectionGeometry) : Option Int :=
  if geom.get_referenceElevation * 10 ≠ -10 then some (toLong (geom.get_referenceElevation * 10)) else none

def convertApproach (geom : IntersectionGeometry) (approach : LaneList) : List GenericLane :=
  if approach.approachType ≠ CString.lit "none" then
    approach.driveLanes.map
      (convertLane DistanceInMeters (referenceElevation geom) geom.referencePoint approach)
  else []

def convertGeometry (geom : IntersectionGeometry) : Intersection where
  id := geom.intersectionID
  revision := geom.msgCount
  name := addOptionalValue geom.descriptiveIntersctionName []
  refPoint :=
    { lat := toLong (geom.referenceLat * 10000000)
      long := toLong (geom.referenceLon * 10000000)
      elevation := referenceElevation geom }
  laneWidth := addOptionalValue geom.get_masterLaneWidth (-1)
  laneSet := geom.lanes.flatMap (convertApproach DistanceInMeters geom)

/-- `none` is for the exception for a type of layer that is not supported. -/
def to_map (adaptor : ISDData) : Option MapData :=
  let map : MapData := ⟨0, adaptor.layerType, none⟩
  match adaptor.layerType with
  | some .intersectionData =>
    match adaptor.intersectionGeometry with
    | some geom => some { map with intersections := some [convertGeometry DistanceInMeters geom] }
    | none => some map
  | some .curveData => none
  | some .roadwaySectionData => none
  | some .parkingAreaData => none
  | some .sharedLaneData => none
  | _ => some map

end

end V2xHub.MapPlugin.Isd
