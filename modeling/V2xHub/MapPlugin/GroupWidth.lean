import V2xHub.MapPlugin.Codec

/-!
# Widths of groups

The width of a group is written before its lanes, and read as that of the lane or the barrier before it. No object gives a group a
width, so whatever the bytes are, no group of a decoded map has one (`map_decode_noWidths`).
-/

namespace V2xHub.MapPlugin.Codec

open Decoder

variable {late : Bool} {d d' : Decoder} {bytes rest : List Nat} {m : Map}

def Map.NoWidths (m : Map) : Prop := ∀ p, (m.group p).width = 0

namespace Map.NoWidths

theorem setGeometry (h : m.NoWidths) {g : Fin map_maxgeometries} {geometry : Geometry} (hwidth : ∀ dir, (geometry.group dir).width = 0) :
    (m.setGeometry g geometry).NoWidths := by
  rintro ⟨g', dir⟩
  show ((Function.update m.geometry g geometry g').group dir).width = 0
  by_cases hg : g' = g
  · rw [hg, Function.update_self]
    exact hwidth dir
  · rw [Function.update_of_ne hg]
    exact h (g', dir)

theorem setLane (h : m.NoWidths) (p : LaneAt) (lane : Lane) : (m.setLane p lane).NoWidths := by
  refine h.setGeometry fun dir => ?_
  obtain ⟨⟨g, dir'⟩, l⟩ := p
  have happroach := h (g, .approach)
  have hegress := h (g, .egress)
  cases dir' with
  | approach =>
    cases dir with
    | approach => exact happroach
    | egress => exact hegress
  | egress =>
    cases dir with
    | approach => exact happroach
    | egress => exact hegress

theorem setBarrier (h : m.NoWidths) (p : BarrierAt) (barrier : Barrier) : (m.setBarrier p barrier).NoWidths := by
  refine h.setGeometry fun dir => ?_
  cases dir with
  | approach => exact h (p.1, .approach)
  | egress => exact h (p.1, .egress)

end Map.NoWidths

/-- What an object leaves has no group with a width. -/
def LeavesNoWidths (r : Option (Decoder × List Nat)) : Prop := ∀ d' rest, r = some (d', rest) → d'.message.NoWidths

theorem leavesNoWidths_none : LeavesNoWidths none := fun _ _ h => absurd h (Option.some_ne_none _).symm

theorem leavesNoWidths_some (h : d.message.NoWidths) : LeavesNoWidths (some (d, rest)) := by
  intro d' rest' heq
  rw [← (Prod.mk.inj (Option.some.inj heq)).1]
  exact h

theorem leavesNoWidths_map {α : Type} {r : Option α} {f : α → Decoder × List Nat} (h : ∀ a, (f a).1.message.NoWidths) :
    LeavesNoWidths (r.map f) := by
  cases r with
  | none => exact leavesNoWidths_none
  | some a => exact leavesNoWidths_some (h a)

namespace Decoder

variable (h : d.message.NoWidths)

include h

theorem skip_noWidths : LeavesNoWidths (d.skip bytes) := by
  unfold skip
  split
  · exact leavesNoWidths_some h
  · exact leavesNoWidths_none

theorem decodeAttributes_noWidths : LeavesNoWidths (d.decodeAttributes bytes) := by
  unfold decodeAttributes
  split
  · exact leavesNoWidths_some h
  · exact leavesNoWidths_none

theorem decodeIntersectionid_noWidths : LeavesNoWidths (d.decodeIntersectionid bytes) := by
  unfold decodeIntersectionid
  split
  · exact leavesNoWidths_some h
  · exact leavesNoWidths_none

theorem decodeRefpoint_noWidths : LeavesNoWidths (d.decodeRefpoint bytes) := by
  have hpoint (g : Fin map_maxgeometries) (r : ReferencePoint) :
      (d.message.setGeometry g { d.message.geometry g with refpoint := r }).NoWidths :=
    h.setGeometry fun dir => by
      cases dir with
      | approach => exact h (g, .approach)
      | egress => exact h (g, .egress)
  unfold decodeRefpoint
  split
  · split_ifs
    · dsimp only
      split
      · exact leavesNoWidths_some (hpoint _ _)
      · exact leavesNoWidths_none
    · exact leavesNoWidths_some (hpoint _ _)
    · exact leavesNoWidths_none
  · exact leavesNoWidths_none

theorem decodeFlag_noWidths : LeavesNoWidths (d.decodeFlag bytes) := by
  unfold decodeFlag
  split
  · split_ifs
    · exact leavesNoWidths_map fun _ => h
    · exact leavesNoWidths_map fun _ => h
    · exact leavesNoWidths_map fun _ => h
    · exact leavesNoWidths_none
    · exact leavesNoWidths_some h
  · exact leavesNoWidths_none

theorem decodeLane_noWidths : LeavesNoWidths (d.decodeLane bytes) := by
  unfold decodeLane
  split
  · exact leavesNoWidths_some h
  · split
    · exact skip_noWidths h
    · split
      · exact leavesNoWidths_some (h.setLane _ _)
      · exact leavesNoWidths_none

theorem decodeLaneAttributes_noWidths : LeavesNoWidths (d.decodeLaneAttributes bytes) := by
  unfold decodeLaneAttributes
  split
  · exact skip_noWidths h
  · split
    · exact leavesNoWidths_some (h.setLane _ _)
    · exact leavesNoWidths_none

theorem decodeBarrierAttributes_noWidths : LeavesNoWidths (d.decodeBarrierAttributes bytes) := by
  unfold decodeBarrierAttributes
  split
  · exact skip_noWidths h
  · split
    · exact leavesNoWidths_some (h.setBarrier _ _)
    · exact leavesNoWidths_none

theorem decodeWidth_noWidths : LeavesNoWidths (d.decodeWidth bytes) := by
  unfold decodeWidth
  split
  · split
    · exact leavesNoWidths_some (h.setLane _ _)
    · exact leavesNoWidths_none
  · split
    · exact leavesNoWidths_some (h.setBarrier _ _)
    · exact leavesNoWidths_none
  · exact skip_noWidths h

theorem decodeNodes_noWidths : LeavesNoWidths (d.decodeNodes late bytes) := by
  unfold decodeNodes
  split
  · split_ifs
    · exact leavesNoWidths_map fun _ => h.setLane _ _
    · exact skip_noWidths h
  · exact leavesNoWidths_map fun _ => h.setBarrier _ _
  · exact skip_noWidths h

theorem decodeConnection_noWidths : LeavesNoWidths (d.decodeConnection bytes) := by
  unfold decodeConnection
  split
  · exact skip_noWidths h
  · dsimp only
    split_ifs
    · split
      · exact skip_noWidths h
      · split
        · exact leavesNoWidths_some (h.setLane _ _)
        · exact leavesNoWidths_none
    · exact skip_noWidths h

theorem decodeReferenceLane_noWidths : LeavesNoWidths (d.decodeReferenceLane bytes) := by
  unfold decodeReferenceLane
  split
  · exact skip_noWidths h
  · split_ifs
    · split
      · exact leavesNoWidths_some (h.setLane _ _)
      · exact leavesNoWidths_none
    · exact skip_noWidths h

/-- No object gives a group a width. -/
theorem step_noWidths (id : Nat) : LeavesNoWidths (d.step late id bytes) := by
  unfold Decoder.step
  refine iteInduction (motive := LeavesNoWidths) (fun _ => decodeAttributes_noWidths h) fun _ => ?_
  refine iteInduction (motive := LeavesNoWidths) (fun _ => decodeIntersectionid_noWidths h) fun _ => ?_
  refine iteInduction (motive := LeavesNoWidths) (fun _ => decodeRefpoint_noWidths h) fun _ => ?_
  refine iteInduction (motive := LeavesNoWidths) (fun _ => decodeFlag_noWidths h) fun _ => ?_
  refine iteInduction (motive := LeavesNoWidths) (fun _ => decodeLane_noWidths h) fun _ => ?_
  refine iteInduction (motive := LeavesNoWidths) (fun _ => decodeLaneAttributes_noWidths h) fun _ => ?_
  refine iteInduction (motive := LeavesNoWidths) (fun _ => decodeBarrierAttributes_noWidths h) fun _ => ?_
  refine iteInduction (motive := LeavesNoWidths) (fun _ => decodeWidth_noWidths h) fun _ => ?_
  refine iteInduction (motive := LeavesNoWidths) (fun _ => decodeNodes_noWidths h) fun _ => ?_
  refine iteInduction (motive := LeavesNoWidths) (fun _ => decodeConnection_noWidths h) fun _ => ?_
  exact iteInduction (motive := LeavesNoWidths) (fun _ => decodeReferenceLane_noWidths h) fun _ => leavesNoWidths_some h

omit h in
theorem run_noWidths {fuel : Nat} (h : d.message.NoWidths) (hrun : run late fuel d bytes = some m) : m.NoWidths := by
  induction fuel generalizing d bytes with
  | zero => exact absurd hrun (by simp [run])
  | succ fuel ih =>
    cases bytes with
    | nil => exact absurd hrun (by simp [run])
    | cons id bytes =>
      rw [run] at hrun
      split_ifs at hrun
      · obtain ⟨⟨d', rest⟩, hstep, hrest⟩ := Option.bind_eq_some_iff.mp hrun
        exact ih (step_noWidths h id d' rest hstep) hrest
      · rw [← Option.some.inj hrun]
        exact h

end Decoder

/-- Whatever the bytes are, no group of the map has a width. -/
theorem map_decode_noWidths {blob : List Nat} (h : map_decode late blob = some m) : m.NoWidths :=
  run_noWidths (fun ⟨g, dir⟩ => by cases dir <;> rfl) h

end V2xHub.MapPlugin.Codec
