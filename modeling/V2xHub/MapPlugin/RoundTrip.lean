import V2xHub.MapPlugin.CodecRun
import V2xHub.MapPlugin.GroupWidth

/-!
# The round trip of maps

The decoder knows the first lanes of a group, then the first barriers of a geometry, and the first geometries of the map (`upTo`), and
each object adds to what it knows. It counts the barriers over all geometries and keeps the last lane where a barrier opens, so whether
there was a lane or a barrier yet goes along (`InGeometry`).
-/

namespace V2xHub.MapPlugin.Codec

open FilledArray Decoder

variable {late elev : Bool} {d : Decoder}

/-! ### Lanes -/

theorem Decoder.reads_reference {p : LaneAt} {x lane : Lane} (hrange : lane.InRange) (hkept : LaneKept late d.elev lane)
    (htype : x.type = lane.type) (hnode : x.node = fun _ => {}) (href : x.referencelane = {}) :
    Reads late
      (if lane.referencelane.lanenumber ≠ 0 then object 11 (lane.referencelane.lanenumber :: bytes16 lane.referencelane.lateraloffset)
        else object 9 (encode_nodelist d.elev lane.node))
      (d.atLane p x) (d.atLane p { x with node := lane.node, referencelane := lane.referencelane }) := by
  rcases hkept.reference with ⟨hcomputed, hor, hempty⟩ | ⟨hcomputed, hnone, hnodes⟩
  · split_ifs with hzero
    · rw [hempty, ← hnode]
      exact reads_referenceLane hrange.referencelane.2 (htype.trans hcomputed)
    · have hx : { x with node := fun _ => {}, referencelane := {} } = x := by
        rw [← hnode, ← href]
      rw [hempty, hor.resolve_left hzero, hx]
      exact reads_noReference (htype.trans hcomputed)
  · rw [hnone, if_neg (not_not.mpr rfl), ← href]
    exact reads_laneNodes hnodes hrange.node (fun h => hcomputed (htype.symm.trans h)) hnode

theorem Decoder.reads_lane {p : GroupAt} {l : Fin map_maxlanes} {lane : Lane} (hrange : lane.InRange) (hkept : LaneKept late d.elev lane)
    (hgroup : d.group = some p) (hfind : ((List.finRange map_maxlanes).find? fun l => ((d.message.group p).lane l).number = 0) = some l)
    (hempty : (d.message.group p).lane l = {}) : Reads late (laneObjects d.elev lane) d (d.atLane (p, l) lane) := by
  have hnumber : Reads late (object 5 [lane.number, lane.type]) d (d.atLane (p, l) { number := lane.number, type := lane.type }) := by
    refine Reads.one (by decide) fun rest => ?_
    show d.decodeLane (2 :: lane.number :: lane.type :: rest) = _
    simp only [decodeLane, hgroup, hfind, hempty, withLane, atLane]
  have hattributes : Reads late (object 6 (bytes16 lane.attributes)) (d.atLane (p, l) { number := lane.number, type := lane.type })
      (d.atLane (p, l) { number := lane.number, type := lane.type, attributes := lane.attributes }) :=
    reads_laneAttributes hrange.attributes rfl
  have hwidth : Reads late (widthObject lane.width)
      (d.atLane (p, l) { number := lane.number, type := lane.type, attributes := lane.attributes })
      (d.atLane (p, l) { number := lane.number, type := lane.type, attributes := lane.attributes, width := lane.width }) :=
    reads_laneWidth hrange.width rfl
  have hreference := reads_reference (p := (p, l))
    (x := { number := lane.number, type := lane.type, attributes := lane.attributes, width := lane.width }) hrange hkept rfl rfl rfl
  have hconnections : Reads late ((List.finRange map_maxconnections).flatMap fun c => connectionObject (lane.connection c))
      (d.atLane (p, l) { lane with connection := fun _ => {} }) (d.atLane (p, l) lane) :=
    reads_connections hkept.pedestrian hkept.connections hkept.maneuver rfl
  exact (((hnumber.trans hattributes).trans hwidth).trans hreference).trans hconnections

/-! ### Groups -/

/-- Within the geometry `g`, of which `Y` is known. If `lanes` or `barriers` holds, there were no lanes or barriers yet. -/
structure InGeometry (M : Map) (g : Fin map_maxgeometries) (lanes barriers : Prop) (Y : Geometry) (d : Decoder) : Prop where
  message : d.message = M.setGeometry g Y
  next : d.g = g + 1
  current : d.geometry = some g
  lane : lanes → d.lane = none
  first : barriers → d.b = 0

variable {M : Map} {g : Fin map_maxgeometries} {lanes barriers : Prop} {Y : Geometry}

theorem InGeometry.elev_eq (h : InGeometry M g lanes barriers Y d) (hM : hasFlag M.attributes elevation = elev) : d.elev = elev := by
  rw [Decoder.elev, h.message, Map.attributes_setGeometry, hM]

def Direction.flag : Direction → Nat
  | .approach => 1
  | .egress => 2

variable {dir : Direction} {group : Group}

theorem reads_flag (h : d.geometry = some g) :
    Reads late (object 4 [dir.flag]) d { d with group := some (g, dir), barrier := none } := by
  refine Reads.one (by decide) fun rest => ?_
  show d.decodeFlag (1 :: dir.flag :: rest) = _
  cases dir <;> simp [decodeFlag, Direction.flag, h]

theorem leads_lanes (hM : hasFlag M.attributes elevation = elev) (hkept : GroupKept late elev group)
    (hrange : group.InRange) (l : Fin map_maxlanes) :
    Leads late (if (group.lane l).number ≠ 0 then laneObjects elev (group.lane l) else [])
      (fun d => InGeometry M g False barriers (Y.setGroup { group with lane := upTo {} group.lane l } dir) d ∧ d.group = some (g, dir))
      (fun d => InGeometry M g False barriers (Y.setGroup { group with lane := upTo {} group.lane (l + 1) } dir) d ∧
        d.group = some (g, dir)) := by
  rintro d ⟨hd, hgroup⟩
  split_ifs with hused
  · have hmessage : d.message = (M.setGeometry g Y).setGroup (g, dir) { group with lane := upTo {} group.lane l } := by
      rw [hd.message, Map.setGroup_setGeometry]
    have hat : d.message.group (g, dir) = { group with lane := upTo {} group.lane l } := by
      rw [hmessage, Map.group_setGroup]
    have hfind := find?_upTo hkept.filled (fun h => h rfl) hused
    simp only [not_not] at hfind
    have helev := hd.elev_eq hM
    have hread := reads_lane (hrange.lane l) (helev ▸ hkept.lanes l hused) hgroup (by rw [hat]; exact hfind)
      (by rw [hat]; exact upTo_of_le le_rfl)
    rw [helev] at hread
    refine ⟨_, hread, ⟨?_, hd.next, hd.current, False.elim, hd.first⟩, hgroup⟩
    show d.message.setLane ((g, dir), l) (group.lane l) = _
    rw [hmessage, Map.setLane_setGroup, Map.setGroup_setGeometry, update_upTo]
  · rw [upTo_succ_of_empty (hkept.filled.eq_empty hused)]
    exact ⟨d, Reads.refl d, hd, hgroup⟩

theorem leads_group (hM : hasFlag M.attributes elevation = elev) (hkept : GroupKept late elev group)
    (hrange : group.InRange) (hY : Y.group dir = {}) :
    Leads late (groupObjects elev dir.flag group) (InGeometry M g lanes barriers Y)
      (InGeometry M g (lanes ∧ (group.lane 0).number = 0) barriers (Y.setGroup group dir)) := by
  have hstart : Y.setGroup { group with lane := fun _ => {} } dir = Y := by
    rw [hkept.width, ← hY, Geometry.setGroup_group]
  unfold groupObjects
  split_ifs with hused
  · have hwidth : widthObject group.width = [] := by
      rw [hkept.width]
      rfl
    rw [hwidth, List.append_nil]
    have hlanes := Leads.flatMap_finRange
      (P := fun k d => InGeometry M g False barriers (Y.setGroup { group with lane := upTo {} group.lane k } dir) d ∧
        d.group = some (g, dir)) (leads_lanes hM hkept hrange)
    rw [upTo_all, upTo_zero, hstart] at hlanes
    refine Leads.append (Q := fun d => InGeometry M g False barriers Y d ∧ d.group = some (g, dir)) ?_ ?_
    · intro d hd
      exact ⟨_, reads_flag hd.current, ⟨hd.message, hd.next, hd.current, False.elim, hd.first⟩, rfl⟩
    · intro d hd
      obtain ⟨d', hread, hd', -⟩ := hlanes d hd
      exact ⟨d', hread, hd'.message, hd'.next, hd'.current, fun h => absurd h.2 hused, hd'.first⟩
  · have hnone : { group with lane := fun _ => {} } = group := by
      refine congrArg (Group.mk group.width) (funext fun l => ?_)
      refine (hkept.filled.eq_empty fun hl => hused ?_).symm
      exact hkept.filled.of_le (fun h => h rfl) hl (Fin.zero_le l)
    rw [hnone] at hstart
    exact Leads.nil fun d hd => ⟨hstart.symm ▸ hd.message, hd.next, hd.current, fun h => hd.lane h.1, hd.first⟩

/-! ### Barriers -/

namespace Decoder

/-- At the barrier `p`, of which `x` is known. -/
def atBarrier (d : Decoder) (p : BarrierAt) (x : Barrier) : Decoder :=
  { d with barrier := some p, message := d.message.setBarrier p x }

variable {p : BarrierAt} {x : Barrier}

@[simp] theorem elev_atBarrier : (d.atBarrier p x).elev = d.elev := rfl

@[simp] theorem barrier_atBarrier : (d.atBarrier p x).barrier = some p := rfl

@[simp] theorem lane_atBarrier : (d.atBarrier p x).lane = d.lane := rfl

@[simp] theorem message_atBarrier : (d.atBarrier p x).message.barrier p = x := Map.barrier_setBarrier ..

@[simp] theorem withBarrier_atBarrier (y : Barrier) : (d.atBarrier p x).withBarrier p y = d.atBarrier p y :=
  congrArg (fun message => ({ d with barrier := some p, message } : Decoder)) (Map.setBarrier_setBarrier ..)

theorem reads_barrierAttributes {v : Nat} (hv : v < 2 ^ 16) (hx : x.attributes = 0) :
    Reads late (object 7 (bytes16 v)) (d.atBarrier p x) (d.atBarrier p { x with attributes := v }) := by
  refine Reads.one (by decide) fun rest => ?_
  show some ((d.atBarrier p x).withBarrier p { (d.atBarrier p x).message.barrier p with
    attributes := add16 ((d.atBarrier p x).message.barrier p).attributes _ _ }, rest) = _
  rw [message_atBarrier, hx, add16_bytes16 hv, withBarrier_atBarrier]

theorem reads_barrierWidth {v : Nat} (hv : v < 2 ^ 16) (hx : x.width = 0) (hlane : d.lane = none) :
    Reads late (widthObject v) (d.atBarrier p x) (d.atBarrier p { x with width := v }) := by
  unfold widthObject
  split_ifs with hzero
  · refine Reads.one (by decide) fun rest => ?_
    show (d.atBarrier p x).decodeWidth (2 :: _ :: _ :: rest) = _
    simp only [decodeWidth, lane_atBarrier, hlane, barrier_atBarrier, message_atBarrier, withBarrier_atBarrier]
    rw [hx, add16_bytes16 hv]
  · obtain rfl := not_not.mp hzero
    rw [← hx]
    exact Reads.refl _

theorem reads_barrierNodes {node : Fin map_maxnodes → Node} (hkept : NodesKept late d.elev node) (hrange : ∀ n, (node n).InRange)
    (hx : x.node = fun _ => {}) (hlane : d.lane = none) :
    Reads late (object 9 (encode_nodelist d.elev node)) (d.atBarrier p x) (d.atBarrier p { x with node }) := by
  refine Reads.step (by decide) (length_leftover_object ..) (fun rest => ?_)
    (Reads.leftover (isPacked (nodelist d.elev node)) (nodelist d.elev node) _)
  show (d.atBarrier p x).decodeNodes late ((encode_nodelist d.elev node).length % 2 ^ 8 :: encode_nodelist d.elev node ++ rest) = _
  simp only [decodeNodes, lane_atBarrier, hlane, barrier_atBarrier, message_atBarrier, elev_atBarrier, hx]
  rw [decode_nodelist_encode hkept hrange rest, Option.map_some]
  dsimp only
  rw [withBarrier_atBarrier]

theorem reads_barrier {b : Fin map_maxbarriers} {pb : Barrier} (hrange : pb.InRange) (hused : pb.IsUsed)
    (hkept : NodesKept late d.elev pb.node) (hlane : d.lane = none) (hg : d.geometry = some g) (hb : d.b = b)
    (hempty : d.message.barrier (g, b) = {}) :
    Reads late (barrierObjects d.elev pb) d ({ d with b := b + 1, group := none }.atBarrier (g, b) pb) := by
  let d₁ : Decoder := { d with b := b + 1, group := none }
  have hself : d₁.message.setBarrier (g, b) {} = d₁.message := by
    rw [← hempty]
    simp [d₁, Map.setBarrier, Map.barrier, Map.setGeometry]
  have hflag : Reads late (object 4 [3]) d (d₁.atBarrier (g, b) {}) := by
    refine Reads.one (by decide) fun rest => ?_
    show d.decodeFlag (1 :: 3 :: rest) = _
    have hlt : d.b < map_maxbarriers := hb ▸ b.isLt
    simp only [decodeFlag, if_pos, hg, Option.map_some, dif_pos hlt, atBarrier, hself]
    simp [d₁, hb, hg]
  have hattributes : Reads late (object 7 (bytes16 pb.attributes)) (d₁.atBarrier (g, b) {})
      (d₁.atBarrier (g, b) { attributes := pb.attributes }) :=
    reads_barrierAttributes hrange.attributes rfl
  have hwidth : Reads late (widthObject pb.width) (d₁.atBarrier (g, b) { attributes := pb.attributes })
      (d₁.atBarrier (g, b) { attributes := pb.attributes, width := pb.width }) :=
    reads_barrierWidth hrange.width rfl hlane
  have hnodes : Reads late (object 9 (encode_nodelist d.elev pb.node))
      (d₁.atBarrier (g, b) { attributes := pb.attributes, width := pb.width }) (d₁.atBarrier (g, b) pb) :=
    reads_barrierNodes (d := d₁) hkept hrange.node rfl hlane
  have hobjects : barrierObjects d.elev pb =
      object 4 [3] ++ object 7 (bytes16 pb.attributes) ++ widthObject pb.width ++ object 9 (encode_nodelist d.elev pb.node) :=
    if_pos hused
  rw [hobjects]
  exact ((hflag.trans hattributes).trans hwidth).trans hnodes

end Decoder

/-- After `k` barriers, of which there is one, the next one has the number `k`. -/
def AtBarrier (M : Map) (g : Fin map_maxgeometries) (lanes barriers : Prop) (Y : Geometry) (barrier : Fin map_maxbarriers → Barrier)
    (k : Nat) (d : Decoder) : Prop :=
  InGeometry M g lanes (barriers ∧ ¬ (barrier 0).IsUsed) { Y with barrier := upTo {} barrier k } d ∧
    ∀ h : k < map_maxbarriers, (barrier ⟨k, h⟩).IsUsed → d.b = k

theorem leads_barriers (hM : hasFlag M.attributes elevation = elev) {barrier : Fin map_maxbarriers → Barrier}
    (hfilled : FilledFrom Barrier.IsUsed {} barrier) (hkept : ∀ b, (barrier b).IsUsed → NodesKept late elev (barrier b).node)
    (hrange : ∀ b, (barrier b).InRange) (hfirst : (barrier 0).IsUsed → lanes ∧ barriers) (hY : Y.barrier = fun _ => {}) :
    Leads late ((List.finRange map_maxbarriers).flatMap fun b => barrierObjects elev (barrier b)) (InGeometry M g lanes barriers Y)
      (InGeometry M g lanes (barriers ∧ ¬ (barrier 0).IsUsed) { Y with barrier }) := by
  have hempty : ¬ Barrier.IsUsed {} := fun h => h.1 rfl
  have hstep (b : Fin map_maxbarriers) : Leads late (barrierObjects elev (barrier b)) (AtBarrier M g lanes barriers Y barrier b)
      (AtBarrier M g lanes barriers Y barrier (b + 1)) := by
    intro d hd
    obtain ⟨hd, hb⟩ := hd
    by_cases hused : (barrier b).IsUsed
    · have hzero : (barrier 0).IsUsed := hfilled.of_le hempty hused (Fin.zero_le b)
      have helev := hd.elev_eq hM
      have hread := reads_barrier (hrange b) hused (helev ▸ hkept b hused) (hd.lane (hfirst hzero).1) hd.current
        (hb b.isLt hused) (by
          rw [hd.message, Map.barrier, Map.geometry_setGeometry]
          exact upTo_of_le le_rfl)
      rw [helev] at hread
      refine ⟨_, hread, ⟨?_, hd.next, hd.current, hd.lane, fun h => absurd hzero h.2⟩, fun _ _ => rfl⟩
      show d.message.setBarrier (g, b) (barrier b) = _
      rw [hd.message, Map.setBarrier_setGeometry, update_upTo]
    · have hnone : barrierObjects elev (barrier b) = [] := if_neg hused
      rw [hnone]
      refine ⟨d, Reads.refl d, ?_, fun h hnext => absurd (hfilled.of_le hempty hnext (Nat.le_succ b)) hused⟩
      rw [upTo_succ_of_empty (hfilled.eq_empty hused)]
      exact hd
  intro d hd
  obtain ⟨d', hread, hd', -⟩ := Leads.flatMap_finRange hstep d ⟨⟨by rw [hd.message, upTo_zero, ← hY], hd.next, hd.current, hd.lane, fun h => hd.first h.1⟩,
    fun _ h => hd.first (hfirst h).2⟩
  rw [upTo_all] at hd'
  exact ⟨d', hread, hd'⟩

/-! ### Geometries -/

theorem reads_refpoint {r : ReferencePoint} (hlatitude : IsInt r.latitude) (hlongitude : IsInt r.longitude)
    (hshort : IsShort r.elevation) (hnone : d.elev = false → r.elevation = 0) (hg : d.g = g) (hempty : d.message.geometry g = {}) :
    Reads late (refpointObject d.elev r) d
      { d with message := d.message.setGeometry g { refpoint := r }, g := g + 1, geometry := some g } := by
  have hlt : d.g < map_maxgeometries := hg ▸ g.isLt
  have hat : (⟨d.g, hlt⟩ : Fin map_maxgeometries) = g := Fin.ext hg
  cases helev : d.elev with
  | true =>
    refine Reads.one (by decide) fun rest => ?_
    show d.decodeRefpoint (10 :: _ :: _ :: _ :: _ :: _ :: _ :: _ :: _ :: _ :: _ :: rest) = _
    simp only [decodeRefpoint, dif_pos hlt, helev, if_pos, hat]
    rw [read32_bytes32 hlatitude, read32_bytes32 hlongitude, read16_bytes16 hshort, hempty, hg]
  | false =>
    refine Reads.one (by decide) fun rest => ?_
    show d.decodeRefpoint (8 :: _ :: _ :: _ :: _ :: _ :: _ :: _ :: _ :: rest) = _
    simp only [decodeRefpoint, dif_pos hlt, helev, hat]
    rw [read32_bytes32 hlatitude, read32_bytes32 hlongitude, hempty, hg, ← hnone helev]
    rfl

theorem leads_geometry (lanes barriers : Prop) (hM : hasFlag M.attributes elevation = elev) {geometry : Geometry} (hused : geometry.refpoint.latitude ≠ 0)
    (hkept : GeometryKept late elev geometry) (hrange : geometry.InRange) (hempty : M.geometry g = {})
    (hfirst : (geometry.barrier 0).IsUsed → (lanes ∧ geometry.NoLanes) ∧ barriers) :
    Leads late (geometryObjects elev geometry)
      (fun d => d.message = M ∧ d.g = g ∧ (lanes → d.lane = none) ∧ (barriers → d.b = 0))
      (InGeometry M g (lanes ∧ geometry.NoLanes) (barriers ∧ ¬ (geometry.barrier 0).IsUsed) geometry) := by
  have hobjects : geometryObjects elev geometry = refpointObject elev geometry.refpoint ++ groupObjects elev Direction.approach.flag
      geometry.approach ++ groupObjects elev Direction.egress.flag geometry.egress ++
        (List.finRange map_maxbarriers).flatMap fun b => barrierObjects elev (geometry.barrier b) :=
    if_pos hused
  have hpoint : Leads late (refpointObject elev geometry.refpoint)
      (fun d => d.message = M ∧ d.g = g ∧ (lanes → d.lane = none) ∧ (barriers → d.b = 0))
      (InGeometry M g lanes barriers { refpoint := geometry.refpoint }) := by
    rintro d ⟨rfl, hg, hlane, hb⟩
    have helev : d.elev = elev := hM
    have hread : Reads late _ _ _ := reads_refpoint hrange.latitude hrange.longitude hkept.short
      (fun h => hkept.elevation (helev.symm.trans h)) hg hempty
    rw [helev] at hread
    exact ⟨_, hread, rfl, rfl, rfl, hlane, hb⟩
  have happroach : Leads late (groupObjects elev Direction.approach.flag geometry.approach)
      (InGeometry M g lanes barriers { refpoint := geometry.refpoint })
      (InGeometry M g (lanes ∧ (geometry.approach.lane 0).number = 0) barriers
        { refpoint := geometry.refpoint, approach := geometry.approach }) :=
    leads_group hM hkept.approach hrange.approach rfl
  have hegress : Leads late (groupObjects elev Direction.egress.flag geometry.egress)
      (InGeometry M g (lanes ∧ (geometry.approach.lane 0).number = 0) barriers
        { refpoint := geometry.refpoint, approach := geometry.approach })
      (InGeometry M g ((lanes ∧ (geometry.approach.lane 0).number = 0) ∧ (geometry.egress.lane 0).number = 0) barriers
        { refpoint := geometry.refpoint, approach := geometry.approach, egress := geometry.egress }) :=
    leads_group hM hkept.egress hrange.egress rfl
  have hbarriers : Leads late ((List.finRange map_maxbarriers).flatMap fun b => barrierObjects elev (geometry.barrier b))
      (InGeometry M g ((lanes ∧ (geometry.approach.lane 0).number = 0) ∧ (geometry.egress.lane 0).number = 0) barriers
        { refpoint := geometry.refpoint, approach := geometry.approach, egress := geometry.egress })
      (InGeometry M g ((lanes ∧ (geometry.approach.lane 0).number = 0) ∧ (geometry.egress.lane 0).number = 0)
        (barriers ∧ ¬ (geometry.barrier 0).IsUsed) geometry) :=
    leads_barriers hM hkept.filled hkept.barriers hrange.barrier (fun h => ⟨and_assoc.mpr (hfirst h).1, (hfirst h).2⟩) rfl
  rw [hobjects]
  intro d hd
  obtain ⟨d', hread, hd'⟩ := ((hpoint.append happroach).append hegress).append hbarriers d hd
  exact ⟨d', hread, hd'.message, hd'.next, hd'.current, fun h => hd'.lane (and_assoc.mpr h), hd'.first⟩

/-! ### The map -/

/-- The first `k` geometries of a map. -/
def Map.upToGeometry (m : Map) (k : Nat) : Map := { m with geometry := upTo {} m.geometry k }

variable {m : Map}

/-- After `k` geometries. -/
structure AtGeometry (m : Map) (k : Nat) (d : Decoder) : Prop where
  message : d.message = m.upToGeometry k
  next : ∀ h : k < map_maxgeometries, (m.geometry ⟨k, h⟩).refpoint.latitude ≠ 0 → d.g = k
  lane : (∀ g : Fin map_maxgeometries, (g : Nat) < k → (m.geometry g).NoLanes) → d.lane = none
  first : (∀ g : Fin map_maxgeometries, (g : Nat) < k → ¬ ((m.geometry g).barrier 0).IsUsed) → d.b = 0

theorem leads_geometries (hkept : MapKept late m) (hrange : m.InRange) :
    Leads late ((List.finRange map_maxgeometries).flatMap fun g => geometryObjects (hasFlag m.attributes elevation) (m.geometry g))
      (fun d => d.message = m.upToGeometry 0 ∧ d.g = 0 ∧ d.lane = none ∧ d.b = 0) (fun d => d.message = m) := by
  have hstep (g : Fin map_maxgeometries) : Leads late (geometryObjects (hasFlag m.attributes elevation) (m.geometry g)) (AtGeometry m g)
      (AtGeometry m (g + 1)) := by
    intro d hd
    obtain ⟨hmessage, hg, hlane, hb⟩ := hd
    by_cases hused : (m.geometry g).refpoint.latitude ≠ 0
    · have hgeometry : Leads late (geometryObjects (hasFlag m.attributes elevation) (m.geometry g)) _ _ :=
        leads_geometry (M := m.upToGeometry g) (g := g)
        (∀ g' : Fin map_maxgeometries, (g' : Nat) < g → (m.geometry g').NoLanes)
        (∀ g' : Fin map_maxgeometries, (g' : Nat) < g → ¬ ((m.geometry g').barrier 0).IsUsed) rfl hused
        (hkept.geometries g hused) (hrange.geometry g) (upTo_of_le le_rfl) fun h =>
          ⟨⟨fun g' hlt => (hkept.barriers g h).1 g' (Fin.le_def.mpr hlt.le), (hkept.barriers g h).1 g le_rfl⟩,
            fun g' hlt => (hkept.barriers g h).2 g' hlt⟩
      obtain ⟨d', hread, hd'⟩ := hgeometry d ⟨hmessage, hg g.isLt hused, hlane, hb⟩
      refine ⟨d', hread, ?_, fun _ _ => hd'.next, fun h => hd'.lane ?_, fun h => hd'.first ?_⟩
      · rw [hd'.message, Map.setGeometry, Map.upToGeometry, update_upTo]
        rfl
      · exact ⟨fun g' hlt => h g' (Nat.lt_succ_of_lt hlt), h g (Nat.lt_succ_self _)⟩
      · exact ⟨fun g' hlt => h g' (Nat.lt_succ_of_lt hlt), h g (Nat.lt_succ_self _)⟩
    · have hnone : geometryObjects (hasFlag m.attributes elevation) (m.geometry g) = [] := if_neg hused
      have hupTo : m.upToGeometry (g + 1) = m.upToGeometry g :=
        congrArg (fun geometry => { m with geometry }) (upTo_succ_of_empty (hkept.filled.eq_empty hused))
      rw [hnone]
      refine ⟨d, Reads.refl d, hmessage.trans hupTo.symm, fun h hnext => absurd ?_ hused, fun h => hlane fun g' hlt => h g' (Nat.lt_succ_of_lt hlt),
        fun h => hb fun g' hlt => h g' (Nat.lt_succ_of_lt hlt)⟩
      exact hkept.filled.of_le (fun h => h rfl) hnext (Fin.le_def.mpr (Nat.le_succ g))
  rintro d ⟨hmessage, hg, hlane, hb⟩
  obtain ⟨d', hread, hd'⟩ := Leads.flatMap_finRange hstep d ⟨hmessage, fun _ _ => hg, fun _ => hlane, fun _ => hb⟩
  refine ⟨d', hread, hd'.message.trans ?_⟩
  rw [Map.upToGeometry, upTo_all]

theorem attributesValue_eq {attributes : Nat} (h : attributes < 2 ^ 4) : attributesValue attributes = attributes := by
  have hall : ∀ a : Fin 16, attributesValue a = a := by decide
  exact hall ⟨attributes, h⟩

theorem intersectionidBytes_eq {id : Nat} (h : id < 2 ^ 8) : intersectionidBytes id = [0, 0, 0, id] := by
  have hshifted (x : Nat) {k : Nat} (hk : 8 ≤ k) : (x % 2 ^ 8) >>> k = 0 := by
    rw [Nat.shiftRight_eq_div_pow]
    exact Nat.div_eq_of_lt ((Nat.mod_lt x (Nat.two_pow_pos 8)).trans_le (Nat.pow_le_pow_right Nat.two_pos hk))
  have hlast : (id &&& 0xff) % 2 ^ 8 = id := by
    rw [Nat.and_two_pow_sub_one_eq_mod id 8, Nat.mod_mod, Nat.mod_eq_of_lt h]
  show [(_ % 2 ^ 8) >>> 24, (_ % 2 ^ 8) >>> 16, (_ % 2 ^ 8) >>> 8, (id &&& 0xff) % 2 ^ 8] = _
  rw [hshifted _ (by decide), hshifted _ (by decide), hshifted _ (by decide), hlast]

theorem leads_start (hattributes : m.attributes < 2 ^ 4) (hid : m.intersectionid < 2 ^ 8) :
    Leads late (object 1 [attributesValue m.attributes] ++ object 2 (intersectionidBytes m.intersectionid)) (fun d => d = {})
      (fun d => d.message = m.upToGeometry 0 ∧ d.g = 0 ∧ d.lane = none ∧ d.b = 0) := by
  rw [attributesValue_eq hattributes, intersectionidBytes_eq hid]
  rintro d rfl
  have hfirst : Reads late (object 1 [m.attributes]) {} { message := { attributes := m.attributes } } :=
    Reads.one (by decide) fun rest => rfl
  have hsecond : Reads late (object 2 [0, 0, 0, m.intersectionid]) { message := { attributes := m.attributes } }
      { message := m.upToGeometry 0 } := by
    refine Reads.one (by decide) fun rest => ?_
    show some _ = some _
    simp [Map.upToGeometry]
  exact ⟨{ message := m.upToGeometry 0 }, hfirst.trans hsecond, rfl, rfl, rfl, rfl⟩

/-! ### The room in the blob -/

theorem length_packFrom (begun : Option Int) (l : List Int) :
    (packFrom begun l).length = (3 * l.length + if begun.isSome then 2 else 1) / 2 := by
  fun_induction packFrom begun l with
  | case1 => rfl
  | case2 x l ih =>
    rw [List.length_cons, ih, List.length_cons]
    simp only [Option.isSome_some, Option.isSome_none, if_true, Bool.false_eq_true, if_false]
    omega
  | case3 x => simp
  | case4 x y l ih =>
    rw [List.length_cons, List.length_cons, ih, List.length_cons]
    simp only [Option.isSome_some, Option.isSome_none, if_true, Bool.false_eq_true, if_false]
    omega

theorem length_object (id : Nat) (bytes : List Nat) : (object id bytes).length = bytes.length + 2 := rfl

theorem length_bytes16 (v : Int) : (bytes16 v).length = 2 := rfl

theorem length_widthObject (width : Nat) : (widthObject width).length = widthSize width := by
  rw [widthObject, widthSize]
  split_ifs <;> rfl

theorem length_nodelistObject (elev : Bool) (node : Fin map_maxnodes → Node) :
    (object 9 (encode_nodelist elev node)).length = nodelistSize elev node := by
  have helements : (elementBytes (isPacked (nodelist elev node)) ((nodelist elev node).map limit)).length =
      if isPacked (nodelist elev node) then (3 * (nodelist elev node).length + 1) / 2 else 2 * (nodelist elev node).length := by
    rw [elementBytes]
    split_ifs
    · rw [length_packFrom, List.length_map]
      rfl
    · simp only [List.length_flatMap, length_bytes16, List.map_const', List.length_map, List.sum_replicate_nat]
      exact Nat.mul_comm _ _
  rw [length_object, encode_nodelist, List.length_cons, helements, nodelistSize]
  omega

theorem length_laneObjects (elev : Bool) (lane : Lane) : (laneObjects elev lane).length = lane.size elev := by
  have hreference : (if lane.referencelane.lanenumber ≠ 0 then
        object 11 (lane.referencelane.lanenumber :: bytes16 lane.referencelane.lateraloffset)
      else object 9 (encode_nodelist elev lane.node)).length =
      if lane.referencelane.lanenumber ≠ 0 then 5 else nodelistSize elev lane.node := by
    split_ifs
    · rfl
    · exact length_nodelistObject elev lane.node
  have hconnection (c : Connection) : (connectionObject c).length = if c.lanenumber ≠ 0 then 5 else 0 := by
    rw [connectionObject]
    split_ifs <;> rfl
  rw [laneObjects, Lane.size, List.length_append, List.length_append, List.length_append, List.length_append, hreference,
    length_widthObject, List.length_flatMap]
  simp only [hconnection, length_object, length_bytes16, List.length_cons, List.length_nil]

theorem length_groupObjects (elev : Bool) (d : Nat) (group : Group) : (groupObjects elev d group).length = group.size elev := by
  have hlane (l : Fin map_maxlanes) : (if (group.lane l).number ≠ 0 then laneObjects elev (group.lane l) else []).length =
      if (group.lane l).number ≠ 0 then (group.lane l).size elev else 0 := by
    split_ifs
    · exact length_laneObjects elev _
    · rfl
  rw [groupObjects, Group.size]
  split_ifs
  · rw [List.length_append, List.length_append, length_widthObject, List.length_flatMap]
    simp only [hlane]
    rfl
  · rfl

theorem length_barrierObjects (elev : Bool) (barrier : Barrier) : (barrierObjects elev barrier).length = barrier.size elev := by
  rw [barrierObjects, Barrier.size]
  split_ifs
  · rw [List.length_append, List.length_append, List.length_append, length_widthObject, length_nodelistObject]
    rfl
  · rfl

theorem length_geometryObjects (elev : Bool) (geometry : Geometry) :
    (geometryObjects elev geometry).length = geometry.size elev := by
  have hrefpoint : (refpointObject elev geometry.refpoint).length = if elev then 12 else 10 := by
    cases elev <;> rfl
  rw [geometryObjects, Geometry.size]
  split_ifs with hused helev
  · rw [List.length_append, List.length_append, List.length_append, List.length_flatMap, hrefpoint, if_pos helev,
      length_groupObjects, length_groupObjects]
    simp only [length_barrierObjects]
  · rw [List.length_append, List.length_append, List.length_append, List.length_flatMap, hrefpoint, if_neg helev,
      length_groupObjects, length_groupObjects]
    simp only [length_barrierObjects]
  · rfl

theorem length_mapObjects (m : Map) : (mapObjects m).length + 7 = m.size := by
  have hid : (object 2 (intersectionidBytes m.intersectionid)).length = 6 := rfl
  rw [mapObjects, Map.size, List.length_append, List.length_append, List.length_flatMap, hid]
  simp only [length_geometryObjects, length_object, List.length_cons, List.length_nil]
  omega

/-- There is a blob if and only if the objects have room in it. -/
theorem map_encode_isSome (m : Map) (content_version : Nat) : (map_encode m content_version).isSome ↔ m.size ≤ 1024 := by
  rw [map_encode, ← length_mapObjects]
  simp only [bytes16, List.length_append, List.length_cons, List.length_nil]
  split_ifs with h
  · exact iff_of_true rfl (by omega)
  · exact iff_of_false Bool.false_ne_true (by omega)

/-- The blob of a map that is kept decodes to the map. -/
theorem map_decode_of_kept (hrange : m.InRange) (hkept : MapKept late m) {content_version : Nat} {blob : List Nat}
    (hblob : map_encode m content_version = some blob) : map_decode late blob = some m := by
  obtain ⟨d, ⟨k, hk, hread⟩, hd⟩ := (leads_start hkept.attributes hkept.intersectionid).append (leads_geometries hkept hrange) {} rfl
  have hobjects : k ≤ (mapObjects m).length := hk
  unfold map_encode at hblob
  dsimp only at hblob
  split_ifs at hblob
  obtain rfl := Option.some_inj.mp hblob
  have hdrop (crc : List Nat) :
      (0x87 :: content_version :: bytes16 (mapObjects m ++ [255]).length ++ (mapObjects m ++ [255]) ++ crc).drop 4 =
        mapObjects m ++ (255 :: crc) := by
    show mapObjects m ++ [255] ++ crc = _
    rw [List.append_assoc]
    rfl
  obtain ⟨fuel, hfuel⟩ : ∃ fuel, ∀ crc : Nat,
      (0x87 :: content_version :: bytes16 (mapObjects m ++ [255]).length ++ (mapObjects m ++ [255]) ++ bytes16 crc).length =
        fuel + 1 + k := by
    refine ⟨(mapObjects m).length - k + 6, fun crc => ?_⟩
    simp only [bytes16, List.length_append, List.length_cons, List.length_nil]
    omega
  unfold map_decode
  rw [hdrop, hfuel]
  refine (hread (fuel + 1) _ (by simp [bytes16])).trans ?_
  rw [run, if_neg fun h => h.1 rfl, hd]

/-- A map with a width of a group does not. -/
theorem RoundTrips.noWidths (h : RoundTrips late m) : m.NoWidths := by
  obtain ⟨blob, -, hdecode⟩ := h 0
  exact map_decode_noWidths hdecode

/-! ### A crossing -/

def crossingLane : Lane where
  number := 1
  width := 330
  node := upTo {} (fun _ => ⟨100, -50, 0, 0⟩) 2
  connection := upTo {} (fun _ => ⟨2, 1, 7⟩) 1

/-- One lane, with two nodes and one connection. -/
def crossing : Map where
  attributes := 2
  intersectionid := 9
  geometry := upTo {} (fun _ => { refpoint := ⟨389549000, -771489000, 0⟩, approach := { lane := upTo {} (fun _ => crossingLane) 1 } }) 1

theorem inRange_upTo {α : Type} {n k : Nat} {p : α → Prop} {x empty : α} (hx : p x) (hempty : p empty) (i : Fin n) :
    p (upTo empty (fun _ => x) k i) := by
  unfold upTo
  split_ifs
  · exact hx
  · exact hempty

theorem crossing_inRange : crossing.InRange := by
  have hshort (x : Int) (h : -2 ^ 15 ≤ x ∧ x < 2 ^ 15) : IsShort x := h
  have hnode : Node.InRange {} := ⟨hshort _ (by decide), hshort _ (by decide), hshort _ (by decide), hshort _ (by decide)⟩
  have hempty : Lane.InRange {} := ⟨by decide, by decide, by decide, by decide, fun _ => hnode, ⟨by decide, hshort _ (by decide)⟩,
    fun _ => ⟨Nat.two_pow_pos 8, Nat.two_pow_pos 16, Nat.two_pow_pos 8⟩⟩
  have hlane : crossingLane.InRange := ⟨by decide, by decide, by decide, by decide,
    inRange_upTo ⟨hshort _ (by decide), hshort _ (by decide), hshort _ (by decide), hshort _ (by decide)⟩ hnode,
    ⟨by decide, hshort _ (by decide)⟩,
    inRange_upTo (p := fun c : Connection => c.lanenumber < 2 ^ 8 ∧ c.maneuver < 2 ^ 16 ∧ c.connectionID < 2 ^ 8)
      ⟨by decide, by decide, by decide⟩ ⟨by decide, by decide, by decide⟩⟩
  have hint (x : Int) (h : -2 ^ 31 ≤ x ∧ x < 2 ^ 31) : IsInt x := h
  have hgroup : Group.InRange {} := ⟨by decide, fun _ => hempty⟩
  have hbarrier : Barrier.InRange {} := ⟨by decide, by decide, fun _ => hnode⟩
  exact ⟨by decide, by decide, inRange_upTo
    ⟨hint _ (by decide), hint _ (by decide), hint _ (by decide), ⟨by decide, inRange_upTo hlane hempty⟩, hgroup, fun _ => hbarrier⟩
    ⟨hint _ (by decide), hint _ (by decide), hint _ (by decide), hgroup, hgroup, fun _ => hbarrier⟩⟩

theorem crossing_kept (late : Bool) : MapKept late crossing := by
  have hnodes : NodesKept late false crossingLane.node :=
    ⟨⟨by decide, by decide⟩, filledFrom_upTo fun _ _ => ⟨by decide, by decide⟩,
      fun _ => inRange_upTo (p := fun n : Node => n.elevation = 0) rfl rfl, fun _ _ => by decide⟩
  have hlane : LaneKept late false crossingLane :=
    ⟨Or.inr ⟨by decide, rfl, hnodes⟩, filledFrom_upTo fun _ _ => by decide, fun h => absurd h (by decide),
      inRange_upTo (p := fun c : Connection => c.maneuver < 2 ^ 8) (by decide) (by decide)⟩
  have hempty : GroupKept late false {} := ⟨rfl, fun _ => Or.inl rfl, fun _ h => absurd rfl h⟩
  have hgroup : GroupKept late false { lane := upTo {} (fun _ => crossingLane) 1 } :=
    ⟨rfl, filledFrom_upTo fun _ _ => by decide,
      inRange_upTo (p := fun lane : Lane => lane.number ≠ 0 → LaneKept late false lane) (fun _ => hlane) fun h => absurd rfl h⟩
  have hnone : ∀ g, ¬ ((crossing.geometry g).barrier 0).IsUsed :=
    inRange_upTo (p := fun geometry : Geometry => ¬ (geometry.barrier 0).IsUsed) (fun h => h.1 rfl) fun h => h.1 rfl
  have hgeometry : ∀ g, (crossing.geometry g).refpoint.latitude ≠ 0 → GeometryKept late false (crossing.geometry g) :=
    inRange_upTo (p := fun geometry : Geometry => geometry.refpoint.latitude ≠ 0 → GeometryKept late false geometry)
      (fun _ => ⟨fun _ => rfl, ⟨by decide, by decide⟩, hgroup, hempty, fun _ => Or.inl rfl, fun _ h => absurd rfl h.1⟩)
      fun h => absurd rfl h
  exact ⟨by decide, by decide, filledFrom_upTo fun _ _ => by decide, hgeometry, fun g h => absurd h (hnone g)⟩

end V2xHub.MapPlugin.Codec
