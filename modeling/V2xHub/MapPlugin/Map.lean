import Mathlib.Data.List.Basic

/-!
# Maps

The structures of a parsed map. An array has its full size; the entries that are used come first, and the first
one that is not marks the end (`terminated`).
-/

namespace V2xHub.MapPlugin

def map_maxgeometries : Nat := 10

def map_maxbarriers : Nat := 20

def map_maxnodes : Nat := 20

def map_maxlanes : Nat := 30

def map_maxconnections : Nat := 10

inductive MapType where
  | intersection
  | roadway
deriving DecidableEq

/-! The types of lanes, which are stored in a byte. -/

def vehicle : UInt8 := 1

def computed : UInt8 := 2

def pedestrian : UInt8 := 3

def crosswalk : UInt8 := 10

def bike : UInt8 := 11

def sidewalk : UInt8 := 12

def barrier : UInt8 := 13

def striping : UInt8 := 14

def trackedVehicle : UInt8 := 15

def parking : UInt8 := 16

structure MapReferenceLane where
  lanenumber : UInt8
  lateraloffset : Int16
  xoffset : Int16
  yoffset : Int16
deriving DecidableEq

structure MapConnection where
  lanenumber : UInt8
  connectionID : UInt8
  signalGroup : UInt8
  maneuver : UInt16
deriving DecidableEq

structure MapNode where
  eastern : Int16
  northern : Int16
  elevation : Int16
  width : Int16
deriving DecidableEq

structure MapLane where
  number : UInt8
  type : UInt8
  attributes : UInt16
  width : UInt16
  node : Vector MapNode map_maxnodes
  referencelane : MapReferenceLane
  connection : Vector MapConnection map_maxconnections
deriving DecidableEq

structure MapGroup where
  width : UInt16
  lane : Vector MapLane map_maxlanes
deriving DecidableEq

structure MapReferencePoint where
  latitude : Int32
  longitude : Int32
  elevation : Int32
deriving DecidableEq

structure MapGeometry where
  refpoint : MapReferencePoint
  approach : MapGroup
  egress : MapGroup
deriving DecidableEq

/-- `mapName`, the barriers and the payload are not among the members: the conversion does not read them. -/
structure Map where
  mapType : MapType
  intersectionid : Nat
  mapid : Nat
  attributes : UInt8
  geometry : Vector MapGeometry map_maxgeometries

/-- The entries before the end. -/
def terminated {α : Type*} (isEnd : α → Bool) (l : List α) : List α := l.takeWhile fun a => !isEnd a

def MapNode.isEnd (n : MapNode) : Bool := n.eastern = 0 ∧ n.northern = 0 ∧ n.elevation = 0 ∧ n.width = 0

def MapConnection.isEnd (c : MapConnection) : Bool := c.lanenumber = 0

def MapLane.isEnd (l : MapLane) : Bool := l.number = 0

def MapGeometry.isEnd (g : MapGeometry) : Bool := g.refpoint.longitude = 0 ∧ g.refpoint.latitude = 0

namespace MapLane

def nodes (l : MapLane) : List MapNode := terminated MapNode.isEnd l.node.toList

def connections (l : MapLane) : List MapConnection := terminated MapConnection.isEnd l.connection.toList

end MapLane

def MapGroup.lanes (g : MapGroup) : List MapLane := terminated MapLane.isEnd g.lane.toList

/-- The lanes of both directions, those of the approach first. -/
def MapGeometry.lanes (g : MapGeometry) : List MapLane := g.approach.lanes ++ g.egress.lanes

/-- The geometries before the end. -/
def Map.geometries (m : Map) : List MapGeometry := terminated MapGeometry.isEnd m.geometry.toList

end V2xHub.MapPlugin
