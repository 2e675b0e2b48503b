import V2xHub.MapPlugin.Isd
import Mathlib.Tactic.Linarith
import Mathlib.Tactic.Ring

/-!
# ISD maps, read back

A reader of the message starts at the reference point and adds up the offsets, the differences of the widths and those of
the elevations. The widths come out. The positions do as long as what is cut off the offsets does not add up to more than a
centimeter, since each offset starts from the exact point (`close_iff`). The elevations are differences from the reference
point, each of which the reader adds to the ones before, so they come out where all nodes but the last are level with it
(`elevations_iff`).
-/

namespace V2xHub.MapPlugin.Isd

/-! ### The reader -/

/-- Centimeters, and tenths of a meter for the elevation. -/
structure Reading where
  x : Int
  y : Int
  width : Option Int
  elevation : Option Int

def Node.dWidth (node : Node) : Int := (node.attributes.bind NodeAttributeSet.dWidth).getD 0

def Node.dElevation (node : Node) : Int := (node.attributes.bind NodeAttributeSet.dElevation).getD 0

/-- A node without an offset does not move the reader. -/
def Node.offset (node : Node) : Int × Int := node.delta.xy.getD (0, 0)

def Reading.next (r : Reading) (node : Node) : Reading where
  x := r.x + node.offset.1
  y := r.y + node.offset.2
  width := r.width.map (· + node.dWidth)
  elevation := r.elevation.map (· + node.dElevation)

/-- What is read at each node. -/
def readBack (r : Reading) : List Node → List Reading
  | [] => []
  | node :: nodes => r.next node :: readBack (r.next node) nodes

/-- At the reference point. -/
def Intersection.start (intersection : Intersection) : Reading :=
  ⟨0, 0, intersection.laneWidth, intersection.refPoint.elevation⟩

/-! ### What the file says -/

/-- The same, not rounded. -/
structure Place where
  east : ℚ
  north : ℚ
  width : Option Int
  elevation : Option ℚ

section
variable (DistanceInMeters : WGS84Point → WGS84Point → ℚ)

/-- The centimeters from the first point to the second, to the east and to the north. -/
def east (refPoint nodePoint : WGS84Point) : ℚ :=
  let distance := DistanceInMeters nodePoint ⟨nodePoint.Latitude, refPoint.Longitude⟩ * 100
  if nodePoint.Longitude < refPoint.Longitude then -distance else distance

def north (refPoint nodePoint : WGS84Point) : ℚ :=
  let distance := DistanceInMeters nodePoint ⟨refPoint.Latitude, nodePoint.Longitude⟩ * 100
  if nodePoint.Latitude < refPoint.Latitude then -distance else distance

/-- The nodes, the distances taken from one to the next. -/
def places : (refPoint : WGS84Point) → Place → List LaneNode → List Place
  | _, _, [] => []
  | refPoint, p, laneNode :: laneNodes =>
    let p' : Place :=
      { east := p.east + east DistanceInMeters refPoint laneNode.point
        north := p.north + north DistanceInMeters refPoint laneNode.point
        width := p.width.map (· + laneNode.laneWidthDelta)
        elevation := laneNode.nodeElev.map (· * 10) }
    p' :: places laneNode.point p' laneNodes

/-- The reference point of the message. -/
def Intersection.point (intersection : Intersection) : WGS84Point :=
  ⟨(intersection.refPoint.lat : ℚ) / 10000000, (intersection.refPoint.long : ℚ) / 10000000⟩

/-- The reference point of the file, from that of the message. -/
def startPlace (geom : IntersectionGeometry) : Place :=
  let point := (convertGeometry DistanceInMeters geom).point
  ⟨east DistanceInMeters point geom.referencePoint, north DistanceInMeters point geom.referencePoint,
    geom.masterLaneWidth.map fun (w : Nat) => (w : Int), none⟩

/-- The elevations of the reference point and of all nodes are given. -/
def Given (geom : IntersectionGeometry) (driveLane : DrivingLane) : Prop :=
  geom.referenceElevation ≠ none ∧ ∀ laneNode ∈ driveLane.laneNodes, laneNode.nodeElev ≠ none

structure Close (given : Prop) (p : Place) (r : Reading) : Prop where
  east : |p.east - r.x| ≤ 1
  north : |p.north - r.y| ≤ 1
  width : r.width = p.width
  elevation : given → r.elevation.map (fun (e : Int) => (e : ℚ)) = p.elevation

/-- The alternative has both offsets in its range. -/
def InAlternative (node : Node) : Prop :=
  ∃ x y, node.delta.xy = some (x, y) ∧ InRange node.delta.bound x ∧ InRange node.delta.bound y

def GenericLane.nodes (lane : GenericLane) : List Node := lane.nodeList.getD []

def GenericLane.connections (lane : GenericLane) : List ConnectsTo := lane.connectsTo.getD []

/-- One node for each node of the file, and one connection for each that starts at the lane; read back, the nodes are where
they are in the file. -/
structure KeepsLane (geom : IntersectionGeometry) (driveLane : DrivingLane) (intersection : Intersection)
    (lane : GenericLane) : Prop where
  laneID : lane.laneID = atol driveLane.laneID
  length : lane.nodes.length = driveLane.laneNodes.length
  alternatives : ∀ node ∈ lane.nodes, InAlternative node
  connections : List.Forall₂ (fun (conn : Connection) (connection : ConnectsTo) => connection.lane = atol conn.toLane)
    driveLane.starting lane.connections
  close : List.Forall₂ (Close (Given geom driveLane))
    (places DistanceInMeters geom.referencePoint (startPlace DistanceInMeters geom) driveLane.laneNodes)
    (readBack intersection.start lane.nodes)

/-- The lanes of the approaches that have a type. -/
def IntersectionGeometry.driveLanes (geom : IntersectionGeometry) : List DrivingLane :=
  (geom.lanes.filter fun approach => approach.approachType ≠ CString.lit "none").flatMap LaneList.driveLanes

/-- The map has the lanes of the file, in order. -/
def Keeps (geom : IntersectionGeometry) : Prop :=
  ∃ map intersection, to_map DistanceInMeters ⟨some .intersectionData, some geom⟩ = some map ∧
    map.intersections = some [intersection] ∧
    List.Forall₂ (fun driveLane lane => KeepsLane DistanceInMeters geom driveLane intersection lane) geom.driveLanes
      intersection.laneSet

/-! ### When it does -/

/-- Both offsets fit the greatest alternative, and they are not opposite with the second the least number of one. -/
def Fit (refPoint : WGS84Point) : List LaneNode → Prop
  | [] => True
  | laneNode :: laneNodes =>
    let x := modX DistanceInMeters refPoint laneNode.point
    let y := modY DistanceInMeters refPoint laneNode.point
    InRange 32768 x ∧ InRange 32768 y ∧ ¬ Opposite x y ∧ Fit laneNode.point laneNodes

/-- What is cut off, in front of the node and at it, is not more than a centimeter. -/
def CutWithin : (cutX cutY : ℚ) → (refPoint : WGS84Point) → List LaneNode → Prop
  | _, _, _, [] => True
  | cutX, cutY, refPoint, laneNode :: laneNodes =>
    let cutX' := cutX + (east DistanceInMeters refPoint laneNode.point - modX DistanceInMeters refPoint laneNode.point)
    let cutY' := cutY + (north DistanceInMeters refPoint laneNode.point - modY DistanceInMeters refPoint laneNode.point)
    |cutX'| ≤ 1 ∧ |cutY'| ≤ 1 ∧ CutWithin cutX' cutY' laneNode.point laneNodes

/-- Tenths of a meter. -/
def LaneNode.tenths (laneNode : LaneNode) : Int := toLong (laneNode.get_nodeElev * 10)

/-- Elevations are whole tenths of a meter; the node before one that is higher than -100 m is as high as the reference
point, and one that is not is as high as the node before. -/
def Level (reference : Int) : (previous : Int) → List LaneNode → Prop
  | _, [] => True
  | previous, laneNode :: laneNodes =>
    (laneNode.tenths : ℚ) = laneNode.get_nodeElev * 10 ∧ (-1000 < laneNode.tenths → previous = reference) ∧
      (laneNode.tenths ≤ -1000 → laneNode.tenths = previous) ∧ Level reference laneNode.tenths laneNodes

/-- A reference point at -1 m is taken for one without an elevation. -/
def LevelLane (geom : IntersectionGeometry) (driveLane : DrivingLane) : Prop :=
  driveLane.laneNodes ≠ [] →
    ∃ reference, referenceElevation geom = some reference ∧ Level reference reference driveLane.laneNodes

structure RegularLane (geom : IntersectionGeometry) (driveLane : DrivingLane) : Prop where
  fit : Fit DistanceInMeters geom.referencePoint driveLane.laneNodes
  cut : CutWithin DistanceInMeters (startPlace DistanceInMeters geom).east (startPlace DistanceInMeters geom).north
    geom.referencePoint driveLane.laneNodes
  level : Given geom driveLane → LevelLane geom driveLane

end

variable {DistanceInMeters : WGS84Point → WGS84Point → ℚ} {geom : IntersectionGeometry} {driveLane : DrivingLane}
variable {refPoint : WGS84Point} {laneNode : LaneNode} {laneNodes : List LaneNode} {refElevation : Option Int}
variable {given : Prop} {p : Place} {r : Reading} {previous reference x y : Int} {approach : LaneList}

/-! ### Nodes -/

theorem dWidth_convertNode :
    (convertNode DistanceInMeters refElevation refPoint laneNode).dWidth = laneNode.laneWidthDelta := by
  rw [Node.dWidth, convertNode]
  dsimp only
  by_cases hwidth : laneNode.laneWidthDelta = 0
  · rw [hwidth]
    split_ifs <;> simp [addOptionalValue]
  · rw [if_pos (.inl hwidth)]
    simp [addOptionalValue, hwidth]

theorem dElevation_convertNode :
    (convertNode DistanceInMeters refElevation refPoint laneNode).dElevation = dElev refElevation laneNode := by
  rw [Node.dElevation, convertNode]
  dsimp only
  by_cases helev : dElev refElevation laneNode = 0
  · rw [helev]
    split_ifs <;> simp [addOptionalValue]
  · rw [if_pos (.inr helev)]
    simp [addOptionalValue, helev]

theorem nodeOffset_cases (x y : Int) :
    nodeOffset x y = .nothing ∨ (nodeOffset x y).xy = some (x, y) ∧ (nodeOffset x y).bound ≤ 32768 := by
  unfold nodeOffset
  dsimp only
  split_ifs <;> simp [NodeOffsetPoint.xy, NodeOffsetPoint.bound]

/-- The greatest alternative is there for offsets that it holds; for others none holds them. -/
theorem inAlternative_nodeOffset :
    (∃ x' y', (nodeOffset x y).xy = some (x', y') ∧ InRange (nodeOffset x y).bound x' ∧
        InRange (nodeOffset x y).bound y') ↔
      InRange 32768 x ∧ InRange 32768 y ∧ ¬ Opposite x y := by
  constructor
  · rintro ⟨x', y', hxy, hx, hy⟩
    obtain hnothing | hpoint := nodeOffset_cases x y
    · rw [hnothing] at hxy
      cases hxy
    rw [hpoint.1, Option.some.injEq, Prod.mk.injEq] at hxy
    obtain ⟨rfl, rfl⟩ := hxy
    have hx' : InRange 32768 x := ⟨by have := hx.1; omega, by have := hx.2; omega⟩
    have hy' : InRange 32768 y := ⟨by have := hy.1; omega, by have := hy.2; omega⟩
    refine ⟨hx', hy', fun hopposite => ?_⟩
    obtain ⟨-, hmem, hin, hsmaller⟩ := bound_nodeOffset hx' hy'
    obtain ⟨heq, hbound⟩ := hopposite
    have hpos : ∀ b ∈ bounds, 0 < b := by decide
    have hlargest : InRange x (largestOffset x y) := (inRange_largestOffset (hpos x hbound)).2 (Or.inr ⟨rfl, by omega⟩)
    have hle : (nodeOffset x y).bound ≤ x := Int.not_lt.1 fun hlt => hsmaller x hbound hlt hlargest
    have hlt := hx.2
    omega
  · rintro ⟨hx, hy, hopposite⟩
    have hsmallest := (smallest_nodeOffset_iff hx hy).mpr hopposite
    exact ⟨x, y, hsmallest.xy, hsmallest.first, hsmallest.second⟩

theorem inAlternative_convertNode :
    InAlternative (convertNode DistanceInMeters refElevation refPoint laneNode) ↔
      InRange 32768 (modX DistanceInMeters refPoint laneNode.point) ∧
        InRange 32768 (modY DistanceInMeters refPoint laneNode.point) ∧
        ¬ Opposite (modX DistanceInMeters refPoint laneNode.point) (modY DistanceInMeters refPoint laneNode.point) :=
  inAlternative_nodeOffset

theorem forall_inAlternative_iff :
    (∀ node ∈ convertNodes DistanceInMeters refElevation refPoint laneNodes, InAlternative node) ↔
      Fit DistanceInMeters refPoint laneNodes := by
  induction laneNodes generalizing refPoint with
  | nil => exact iff_of_true (fun node hnode => absurd hnode List.not_mem_nil) trivial
  | cons laneNode laneNodes ih =>
    rw [convertNodes, List.forall_mem_cons, inAlternative_convertNode, ih, Fit, and_assoc, and_assoc]

theorem length_convertNodes : (convertNodes DistanceInMeters refElevation refPoint laneNodes).length = laneNodes.length := by
  induction laneNodes generalizing refPoint with
  | nil => rfl
  | cons laneNode laneNodes ih => rw [convertNodes, List.length_cons, List.length_cons, ih]

theorem offset_convertNode
    (h : InRange 32768 (modX DistanceInMeters refPoint laneNode.point) ∧
      InRange 32768 (modY DistanceInMeters refPoint laneNode.point)) :
    (convertNode DistanceInMeters refElevation refPoint laneNode).offset =
      (modX DistanceInMeters refPoint laneNode.point, modY DistanceInMeters refPoint laneNode.point) := by
  have hxy := (bound_nodeOffset h.1 h.2).1
  rw [Node.offset, convertNode, hxy]
  rfl

/-! ### Reading -/

theorem close_def : Close given p r ↔
    |p.east - r.x| ≤ 1 ∧ |p.north - r.y| ≤ 1 ∧ r.width = p.width ∧
      (given → r.elevation.map (fun (e : Int) => (e : ℚ)) = p.elevation) :=
  ⟨fun h => ⟨h.east, h.north, h.width, h.elevation⟩, fun h => ⟨h.1, h.2.1, h.2.2.1, h.2.2.2⟩⟩

theorem toLong_intCast (n : Int) : toLong (n : ℚ) = n := by
  rw [toLong]
  split_ifs
  · exact Int.ceil_intCast n
  · exact Int.floor_intCast n

/-- The elevations that are read are those of the file. -/
def Climb (refElevation : Option Int) : (elevation : Option Int) → List LaneNode → Prop
  | _, [] => True
  | elevation, laneNode :: laneNodes =>
    (elevation.map (· + dElev refElevation laneNode)).map (fun (e : Int) => (e : ℚ)) = laneNode.nodeElev.map (· * 10) ∧
      Climb refElevation (elevation.map (· + dElev refElevation laneNode)) laneNodes

/-- At every node the reader is as far from the place as what was cut off so far. -/
theorem close_iff (hfit : Fit DistanceInMeters refPoint laneNodes) (hwidth : r.width = p.width) :
    List.Forall₂ (Close given) (places DistanceInMeters refPoint p laneNodes)
        (readBack r (convertNodes DistanceInMeters refElevation refPoint laneNodes)) ↔
      CutWithin DistanceInMeters (p.east - r.x) (p.north - r.y) refPoint laneNodes ∧
        (given → Climb refElevation r.elevation laneNodes) := by
  induction laneNodes generalizing refPoint p r with
  | nil => exact iff_of_true .nil ⟨trivial, fun _ => trivial⟩
  | cons laneNode laneNodes ih =>
    obtain ⟨hx, hy, -, hrest⟩ := hfit
    have hoffset := @offset_convertNode DistanceInMeters refPoint laneNode refElevation ⟨hx, hy⟩
    rw [places, convertNodes, readBack, List.forall₂_cons, ih hrest, CutWithin, Climb]
    · have hcutX : p.east + east DistanceInMeters refPoint laneNode.point -
          ((r.next (convertNode DistanceInMeters refElevation refPoint laneNode)).x : ℚ) =
          p.east - r.x + (east DistanceInMeters refPoint laneNode.point - modX DistanceInMeters refPoint laneNode.point) := by
        rw [Reading.next, hoffset, Int.cast_add]
        ring
      have hcutY : p.north + north DistanceInMeters refPoint laneNode.point -
          ((r.next (convertNode DistanceInMeters refElevation refPoint laneNode)).y : ℚ) =
          p.north - r.y +
            (north DistanceInMeters refPoint laneNode.point - modY DistanceInMeters refPoint laneNode.point) := by
        rw [Reading.next, hoffset, Int.cast_add]
        ring
      have helev : (r.next (convertNode DistanceInMeters refElevation refPoint laneNode)).elevation =
          r.elevation.map (· + dElev refElevation laneNode) := by
        rw [Reading.next, dElevation_convertNode]
      rw [close_def, hcutX, hcutY, helev]
      have hnext : (r.next (convertNode DistanceInMeters refElevation refPoint laneNode)).width =
          p.width.map (· + laneNode.laneWidthDelta) := by
        rw [Reading.next, dWidth_convertNode, hwidth]
      rw [and_iff_right hnext]
      tauto
    · rw [Reading.next, dWidth_convertNode, hwidth]

theorem climb_iff (hgiven : ∀ laneNode ∈ laneNodes, laneNode.nodeElev ≠ none) :
    Climb (some reference) (some previous) laneNodes ↔ Level reference previous laneNodes := by
  induction laneNodes generalizing previous with
  | nil => exact Iff.rfl
  | cons laneNode laneNodes ih =>
    obtain ⟨hnode, hrest⟩ := List.forall_mem_cons.mp hgiven
    obtain ⟨e, he⟩ := Option.ne_none_iff_exists'.mp hnode
    have hget : laneNode.get_nodeElev = e := by rw [LaneNode.get_nodeElev, he, Option.getD_some]
    rw [Climb, Level, he, Option.map_some, Option.map_some, Option.map_some, Option.some.injEq, hget, ih hrest]
    have hdElev : dElev (some reference) laneNode =
        if laneNode.tenths ≤ -1000 then 0 else laneNode.tenths + -1 * reference := rfl
    constructor
    · rintro ⟨hread, hlevel⟩
      have htenths : laneNode.tenths = previous + dElev (some reference) laneNode := by
        rw [LaneNode.tenths, hget, ← hread, toLong_intCast]
      rw [← htenths] at hread hlevel
      refine ⟨hread, fun hhigh => ?_, fun hlow => ?_, hlevel⟩
      · rw [hdElev, if_neg (by omega)] at htenths
        omega
      · rwa [hdElev, if_pos hlow, add_zero] at htenths
    · rintro ⟨hwhole, hhigh, hlow, hlevel⟩
      have htenths : previous + dElev (some reference) laneNode = laneNode.tenths := by
        rw [hdElev]
        split_ifs with h
        · rw [hlow h, add_zero]
        · rw [hhigh (by omega)]
          omega
      rw [htenths]
      exact ⟨hwhole, hlevel⟩

theorem climb_none (hgiven : ∀ laneNode ∈ laneNodes, laneNode.nodeElev ≠ none) :
    Climb none none laneNodes ↔ laneNodes = [] := by
  cases laneNodes with
  | nil => exact iff_of_true trivial rfl
  | cons laneNode laneNodes =>
    obtain ⟨hnode, -⟩ := List.forall_mem_cons.mp hgiven
    refine iff_of_false (fun h => ?_) (List.cons_ne_nil laneNode laneNodes)
    exact hnode (Option.map_eq_none_iff.mp h.1.symm)

/-! ### Lanes -/

theorem getD_allocated {α : Type} (l : List α) : (allocated l).getD [] = l := by
  rw [allocated]
  split_ifs with h
  · exact h.symm
  · rfl

theorem laneWidth_convertGeometry :
    (convertGeometry DistanceInMeters geom).laneWidth = geom.masterLaneWidth.map fun (w : Nat) => (w : Int) := by
  show addOptionalValue geom.get_masterLaneWidth (-1) = _
  rw [IntersectionGeometry.get_masterLaneWidth]
  cases geom.masterLaneWidth with
  | none => rfl
  | some w =>
    have hne : (w : Int) ≠ -1 := by omega
    exact if_pos hne

theorem levelLane_iff (hgiven : Given geom driveLane) :
    Climb (referenceElevation geom) (referenceElevation geom) driveLane.laneNodes ↔ LevelLane geom driveLane := by
  rw [LevelLane]
  cases helev : referenceElevation geom with
  | none =>
    rw [climb_none hgiven.2]
    constructor
    · exact fun hnil hne => absurd hnil hne
    · intro h
      by_contra hne
      obtain ⟨reference, hreference, -⟩ := h hne
      cases hreference
  | some reference =>
    rw [climb_iff hgiven.2]
    constructor
    · exact fun h _ => ⟨reference, rfl, h⟩
    · intro h
      by_cases hnil : driveLane.laneNodes = []
      · rw [hnil]
        trivial
      · obtain ⟨reference', hreference, hlevel⟩ := h hnil
        obtain rfl := Option.some.inj hreference
        exact hlevel

theorem keepsLane_iff :
    KeepsLane DistanceInMeters geom driveLane (convertGeometry DistanceInMeters geom)
        (convertLane DistanceInMeters (referenceElevation geom) geom.referencePoint approach driveLane) ↔
      RegularLane DistanceInMeters geom driveLane := by
  have hnodes : (convertLane DistanceInMeters (referenceElevation geom) geom.referencePoint approach driveLane).nodes =
      convertNodes DistanceInMeters (referenceElevation geom) geom.referencePoint driveLane.laneNodes :=
    getD_allocated _
  have hconnections :
      (convertLane DistanceInMeters (referenceElevation geom) geom.referencePoint approach driveLane).connections =
      driveLane.starting.map convertConnection :=
    getD_allocated _
  have hclose := fun hfit : Fit DistanceInMeters geom.referencePoint driveLane.laneNodes =>
    @close_iff DistanceInMeters geom.referencePoint driveLane.laneNodes (referenceElevation geom) (Given geom driveLane)
      (startPlace DistanceInMeters geom) (convertGeometry DistanceInMeters geom).start hfit
      (@laneWidth_convertGeometry DistanceInMeters geom)
  have hstart : ∀ q : ℚ, q - ((0 : Int) : ℚ) = q := fun q => by rw [Int.cast_zero, sub_zero]
  constructor
  · intro h
    have hfit : Fit DistanceInMeters geom.referencePoint driveLane.laneNodes := by
      have halternatives := h.alternatives
      rwa [hnodes, forall_inAlternative_iff] at halternatives
    have hread := h.close
    rw [hnodes, hclose hfit] at hread
    obtain ⟨hcut, helev⟩ := hread
    refine ⟨hfit, ?_, fun hgiven => (levelLane_iff hgiven).mp (helev hgiven)⟩
    have hcut' := hcut
    rw [Intersection.start, hstart, hstart] at hcut'
    exact hcut'
  · intro h
    refine ⟨rfl, ?_, ?_, ?_, ?_⟩
    · rw [hnodes, length_convertNodes]
    · rw [hnodes, forall_inAlternative_iff]
      exact h.fit
    · rw [hconnections, List.forall₂_map_right_iff, List.forall₂_same]
      exact fun conn _ => rfl
    · rw [hnodes, hclose h.fit]
      refine ⟨?_, fun hgiven => (levelLane_iff hgiven).mpr (h.level hgiven)⟩
      rw [Intersection.start, hstart, hstart]
      exact h.cut

/-- The lanes with their approaches. -/
def IntersectionGeometry.withApproach (geom : IntersectionGeometry) : List (LaneList × DrivingLane) :=
  (geom.lanes.filter fun approach => approach.approachType ≠ CString.lit "none").flatMap fun approach =>
    approach.driveLanes.map fun driveLane => (approach, driveLane)

theorem driveLanes_eq (geom : IntersectionGeometry) : geom.driveLanes = geom.withApproach.map Prod.snd := by
  rw [IntersectionGeometry.driveLanes, IntersectionGeometry.withApproach, List.map_flatMap]
  refine List.flatMap_congr fun approach _ => ?_
  rw [List.map_map]
  exact (List.map_id _).symm

theorem laneSet_eq :
    (convertGeometry DistanceInMeters geom).laneSet = geom.withApproach.map fun x =>
      convertLane DistanceInMeters (referenceElevation geom) geom.referencePoint x.1 x.2 := by
  rw [convertGeometry, IntersectionGeometry.withApproach]
  dsimp only
  induction geom.lanes with
  | nil => rfl
  | cons approach lanes ih =>
    rw [List.flatMap_cons, ih, convertApproach]
    by_cases htype : approach.approachType ≠ CString.lit "none"
    · rw [if_pos htype, List.filter_cons_of_pos (by simpa using htype), List.flatMap_cons, List.map_append, List.map_map]
      rfl
    · rw [if_neg htype, List.filter_cons_of_neg (by simpa using htype), List.nil_append]

theorem forall₂_keepsLane_iff :
    List.Forall₂ (fun driveLane lane =>
        KeepsLane DistanceInMeters geom driveLane (convertGeometry DistanceInMeters geom) lane) geom.driveLanes
        (convertGeometry DistanceInMeters geom).laneSet ↔
      ∀ driveLane ∈ geom.driveLanes, RegularLane DistanceInMeters geom driveLane := by
  rw [driveLanes_eq, laneSet_eq, List.forall₂_map_left_iff, List.forall₂_map_right_iff, List.forall₂_same,
    List.forall_mem_map]
  exact forall₂_congr fun x _ => keepsLane_iff

theorem regularLane_of_keeps (h : Keeps DistanceInMeters geom) :
    ∀ driveLane ∈ geom.driveLanes, RegularLane DistanceInMeters geom driveLane := by
  obtain ⟨map, intersection, hmap, hintersections, hkeeps⟩ := h
  obtain rfl := Option.some.inj hmap
  obtain ⟨rfl, -⟩ := List.cons.inj (Option.some.inj hintersections)
  exact forall₂_keepsLane_iff.mp hkeeps

/-- A map keeps its lanes if and only if each of them is regular. -/
theorem keeps_iff_regular (DistanceInMeters : WGS84Point → WGS84Point → ℚ) (geom : IntersectionGeometry) :
    Keeps DistanceInMeters geom ↔ ∀ driveLane ∈ geom.driveLanes, RegularLane DistanceInMeters geom driveLane := by
  constructor
  · exact regularLane_of_keeps
  · intro hregular
    exact ⟨_, _, rfl, rfl, forall₂_keepsLane_iff.mpr hregular⟩

/-- Meters on a plane. -/
def plane (p q : WGS84Point) : ℚ := |p.Latitude - q.Latitude| + |p.Longitude - q.Longitude|

def lane (laneNodes : List LaneNode) : DrivingLane := ⟨CString.lit "1", CString.lit "Vehicle", 0, 0, 0, laneNodes, []⟩

def oneLane (laneNodes : List LaneNode) : IntersectionGeometry :=
  ⟨[], 1, 1, none, 0, 0, some 0, [⟨CString.lit "Ingress", CString.lit "1", [lane laneNodes], []⟩]⟩

/-- Two nodes at the same elevation over the reference point. -/
def hill : List LaneNode := [⟨0, 0, some 1, 0⟩, ⟨0, 0, some 1, 0⟩]

/-- Two steps of six millimeters. -/
def shortSteps : List LaneNode := [⟨0, 6 / 1000, none, 0⟩, ⟨0, 12 / 1000, none, 0⟩]

theorem lane_mem (laneNodes : List LaneNode) : lane laneNodes ∈ (oneLane laneNodes).driveLanes := by
  have hdriveLanes : (oneLane laneNodes).driveLanes = [lane laneNodes] := by
    have hingress : CString.lit "Ingress" ≠ CString.lit "none" := by decide
    have hcrosswalk : CString.lit "Ingress" ≠ CString.lit "Crosswalk" := by decide
    simp [IntersectionGeometry.driveLanes, oneLane, LaneList.driveLanes, hingress, hcrosswalk]
  rw [hdriveLanes]
  exact List.mem_singleton_self _

/-- The second node of the hill is read twice as high, and after two short steps the reader has not moved. -/
theorem not_keeps : ¬ Keeps plane (oneLane hill) ∧ ¬ Keeps plane (oneLane shortSteps) := by
  constructor
  · intro h
    have hlevel := (regularLane_of_keeps h _ (lane_mem hill)).level
      ⟨Option.some_ne_none _, by simp [lane, hill]⟩ (List.cons_ne_nil _ _)
    obtain ⟨reference, hreference, -, -, -, -, hsecond, -⟩ := hlevel
    have htenths : (⟨0, 0, some 1, 0⟩ : LaneNode).tenths = 10 := by norm_num [LaneNode.tenths, LaneNode.get_nodeElev, toLong]
    have hzero : referenceElevation (oneLane hill) = some 0 := by
      norm_num [referenceElevation, IntersectionGeometry.get_referenceElevation, oneLane, toLong]
    obtain rfl := Option.some.inj (hzero.symm.trans hreference)
    rw [htenths] at hsecond
    exact absurd (hsecond (by decide)) (by decide)
  · intro h
    have hcut := (regularLane_of_keeps h _ (lane_mem shortSteps)).cut
    have hstart : (startPlace plane (oneLane shortSteps)).east = 0 := by
      norm_num [startPlace, east, plane, Intersection.point, convertGeometry, oneLane, toLong,
        IntersectionGeometry.referencePoint]
    obtain ⟨-, -, hsecond, -⟩ := hcut
    rw [hstart] at hsecond
    norm_num [east, modX, plane, LaneNode.point, oneLane, toLong, IntersectionGeometry.referencePoint, abs_le] at hsecond

end V2xHub.MapPlugin.Isd
