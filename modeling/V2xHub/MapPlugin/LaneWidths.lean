import V2xHub.MapPlugin.Convert
import Mathlib.Tactic.Ring
import Mathlib.Tactic.Linarith

/-!
# Lane widths in J2735 (`ConvertToJ2735r41.cpp`)

The width of a lane is the default of its intersection at first, and `dWidth` changes it at a node and from there on. The
conversion sets `dWidth` at every node of a lane that is not as wide as the first lane of its group, and always to the whole
difference. A lane that differs is read back wider, or narrower, with each of its nodes (`readWidths_convert`).
-/

namespace V2xHub.MapPlugin

/-- J2735 has either a reference lane or nodes. -/
def MapLane.Proper (l : MapLane) : Prop := l.type = computed → l.nodes = []

/-- The width at each node. -/
def readWidths (width : Int) : List Node → List Int
  | [] => []
  | node :: nodes => (width + node.attributes.dWidth.getD 0) :: readWidths (width + node.attributes.dWidth.getD 0) nodes

/-- The widths that are read back are those that were assigned. -/
def KeepsWidths (assigned : MapLane → MapNode → Int) (geom : MapGeometry) (g : Geometry) : Prop :=
  List.Forall₂ (fun l lane => readWidths g.laneWidth.toNat lane.nodes = l.nodes.map (assigned l)) geom.lanes g.laneSet

/-- The width of the lane. -/
def laneWidth (l : MapLane) (_ : MapNode) : Int := l.width.toNat

theorem map_maxlanes_pos : 0 < map_maxlanes := by decide

def MapGroup.lane0 (g : MapGroup) : MapLane := g.lane.get ⟨0, map_maxlanes_pos⟩

/-- The width that is read back at the node. -/
def widthAt (geom : MapGeometry) (group : MapGroup) (l : MapLane) (k : Nat) : Int :=
  geom.approach.lane0.width.toNat + (k + 1) * ((l.width.toNat : Int) - group.lane0.width.toNat)

variable {lane0 l : MapLane} {geom : MapGeometry} {group : MapGroup} {assigned : MapLane → MapNode → Int}

theorem forall₂_map {α β : Type*} {R : α → β → Prop} {f : α → β} (as : List α) :
    List.Forall₂ R as (as.map f) ↔ ∀ a ∈ as, R a (f a) := by
  rw [List.forall₂_map_right_iff, List.forall₂_same]

theorem forall₂_map_append {α β : Type*} {R : α → β → Prop} {f : α → β} (as bs : List α) (t : List β) :
    List.Forall₂ R (as ++ bs) (as.map f ++ t) ↔ (∀ a ∈ as, R a (f a)) ∧ List.Forall₂ R bs t := by
  induction as with
  | nil => simp
  | cons a as ih =>
    rw [List.map_cons, List.cons_append, List.cons_append, List.forall₂_cons, ih, List.forall_mem_cons, and_assoc]

theorem dWidth_convertNode (n : MapNode) :
    (convertNode lane0 l n).attributes.dWidth.getD 0 = (l.width.toNat : Int) - lane0.width.toNat := by
  rw [convertNode]
  by_cases h : lane0.width = l.width
  · simp [h]
  · simp [h]

/-- Each node adds the difference once more. -/
theorem readWidths_convert (width : Int) (nodes : List MapNode) {f : MapNode → Int} :
    readWidths width (nodes.map (convertNode lane0 l)) = nodes.map f ↔
      ∀ k : Nat, ∀ n ∈ nodes[k]?, f n = width + (k + 1) * ((l.width.toNat : Int) - lane0.width.toNat) := by
  induction nodes generalizing width with
  | nil => simp [readWidths]
  | cons n nodes ih =>
    rw [List.map_cons, List.map_cons, readWidths, dWidth_convertNode, List.cons.injEq, ih]
    constructor
    · rintro ⟨hhead, htail⟩ k n' hn'
      cases k with
      | zero =>
        rw [← Option.some.inj hn', ← hhead]
        ring
      | succ k =>
        rw [htail k n' hn']
        push_cast
        ring
    · intro h
      refine ⟨?_, fun k n' hn' => ?_⟩
      · rw [h 0 n rfl]
        ring
      · rw [h (k + 1) n' hn']
        push_cast
        ring

theorem keepsLane_iff (isEgress : Bool) :
    readWidths geom.approach.lane0.width.toNat (LoadGenericLaneData l isEgress group).nodes = l.nodes.map (assigned l) ↔
      l.Proper ∧ ∀ k : Nat, ∀ n ∈ l.nodes[k]?, assigned l n = widthAt geom group l k := by
  by_cases hcomputed : l.type = computed
  · have hnodes : (LoadGenericLaneData l isEgress group).nodes = [] := by
      rw [GenericLane.nodes, LoadGenericLaneData, nodeList, if_pos hcomputed]
    rw [hnodes, readWidths, eq_comm, List.map_eq_nil_iff]
    constructor
    · intro hnil
      refine ⟨fun _ => hnil, fun k n hn => ?_⟩
      rw [hnil] at hn
      exact absurd hn (Option.not_mem_none n)
    · exact fun h => h.1 hcomputed
  · have hnodes : (LoadGenericLaneData l isEgress group).nodes = l.nodes.map (convertNode group.lane0 l) := by
      rw [GenericLane.nodes, LoadGenericLaneData, nodes_eq _ hcomputed]
      rfl
    have hproper : l.Proper := fun h => absurd h hcomputed
    rw [hnodes, readWidths_convert, and_iff_right hproper]
    rfl

theorem keepsWidths_iff (m : Map) (id : Nat) :
    KeepsWidths assigned geom (convertGeometry m id geom) ↔
      ∀ group ∈ [geom.approach, geom.egress], ∀ l ∈ group.lanes,
        l.Proper ∧ ∀ k : Nat, ∀ n ∈ l.nodes[k]?, assigned l n = widthAt geom group l k := by
  rw [KeepsWidths, laneSet_eq, MapGeometry.lanes, forall₂_map_append, forall₂_map, List.forall_mem_cons, List.forall_mem_singleton]
  exact and_congr (forall₂_congr fun l _ => keepsLane_iff false) (forall₂_congr fun l _ => keepsLane_iff true)

/-- The width of the lane is read back at every node if there is none, or if the first lane of the group has the default width
and the lane has one node only or that width too. -/
theorem laneWidth_iff :
    (∀ k : Nat, ∀ n ∈ l.nodes[k]?, laneWidth l n = widthAt geom group l k) ↔
      l.nodes = [] ∨ group.lane0.width = geom.approach.lane0.width ∧ (l.nodes.length = 1 ∨ l.width = group.lane0.width) := by
  have hinj : ∀ a b : UInt16, a = b ↔ (a.toNat : Int) = b.toNat := by
    intro a b
    rw [Nat.cast_inj]
    exact UInt16.toNat_inj.symm
  rw [hinj group.lane0.width, hinj l.width]
  unfold laneWidth widthAt
  match l.nodes with
  | [] => simp
  | [n] =>
    constructor
    · intro h
      have hfirst := h 0 n rfl
      refine Or.inr ⟨?_, Or.inl rfl⟩
      push_cast at hfirst
      linarith
    · rintro (h | ⟨h, -⟩) k n' hn'
      · exact absurd h (List.cons_ne_nil n [])
      · cases k with
        | zero =>
          push_cast
          linarith
        | succ k => exact absurd hn' (Option.not_mem_none n')
  | n :: n' :: nodes =>
    constructor
    · intro h
      have hfirst := h 0 n rfl
      have hsecond := h 1 n' rfl
      push_cast at hfirst hsecond
      exact Or.inr ⟨by linarith, Or.inr (by linarith)⟩
    · rintro (h | ⟨h, hlength | hwidth⟩) k x hx
      · exact absurd h (List.cons_ne_nil n _)
      · exact absurd hlength (by simp)
      · rw [hwidth, h]
        ring

/-- The widths of the lanes are read back exactly if each lane with nodes is as wide as the first one of its group, which has the
default width, or has one node only. With other widths at the nodes these must be what the sum of the differences comes to. -/
theorem convertGeometry_keepsWidths_iff (m : Map) (id : Nat) (geom : MapGeometry) :
    (KeepsWidths laneWidth geom (convertGeometry m id geom) ↔
      ∀ group ∈ [geom.approach, geom.egress], ∀ l ∈ group.lanes, l.Proper ∧
        (l.nodes = [] ∨ group.lane0.width = geom.approach.lane0.width ∧
          (l.nodes.length = 1 ∨ l.width = group.lane0.width))) ∧
    ∀ assigned, KeepsWidths assigned geom (convertGeometry m id geom) ↔
      ∀ group ∈ [geom.approach, geom.egress], ∀ l ∈ group.lanes,
        l.Proper ∧ ∀ k : Nat, ∀ n ∈ l.nodes[k]?, assigned l n = widthAt geom group l k := by
  refine ⟨?_, fun assigned => keepsWidths_iff m id⟩
  rw [keepsWidths_iff]
  exact forall₂_congr fun group _ => forall₂_congr fun l _ => and_congr_right fun _ => laneWidth_iff

/-- A lane of two nodes without widths of their own. -/
def twoNodeLane (number : UInt8) (width : UInt16) : MapLane where
  number := number
  type := vehicle
  attributes := 0
  width := width
  node := Vector.ofFn fun i => if i.val < 2 then ⟨0, 100, 0, 0⟩ else ⟨0, 0, 0, 0⟩
  referencelane := ⟨0, 0, 0, 0⟩
  connection := Vector.replicate _ ⟨0, 0, 0, 0⟩

/-- A lane of width 300 and one of width 330. -/
def twoWidths : MapGeometry where
  refpoint := ⟨1, 1, 0⟩
  approach := ⟨0, Vector.ofFn fun i =>
    if i.val = 0 then twoNodeLane 1 300 else if i.val = 1 then twoNodeLane 2 330 else twoNodeLane 0 0⟩
  egress := emptyGroup

/-- At its nodes the second lane is 330 and 360 wide. -/
theorem not_keepsWidths :
    ¬ KeepsWidths laneWidth twoWidths (convertGeometry twoIntersections 7 twoWidths) ∧
      (convertGeometry twoIntersections 7 twoWidths).laneSet.map (fun lane => readWidths 300 lane.nodes) =
        [[300, 300], [330, 360]] := by
  constructor
  · unfold KeepsWidths
    decide +kernel
  · decide +kernel

end V2xHub.MapPlugin
