import V2xHub.SpatPlugin.Ntcip1202

/-!
# Accesses of the SPAT conversion

Length and phase numbers of a datagram are not checked. The conversion stays in bounds exactly if the datagram is
no longer than the struct and every phase that the mapping has an entry for is one of a status word, for a
pedestrian entry also the index of a slot (`spat_inBounds_iff`).
-/

namespace V2xHub.SpatPlugin

variable {n : Ntcip1202} {clock : Clock} {phase : Nat} {kind : Kind} {signalGroup : Int}
  {signalGroupMappingList : List SignalGroupMapping}

/-- The phase numbers that a movement can be made for. -/
def Kind.Covers : Kind → Nat → Prop
  | .vehicle, phase | .overlap, phase => 1 ≤ phase ∧ phase ≤ 16
  | .pedestrian, phase => 1 ≤ phase ∧ phase ≤ 15

/-- The mapping has an entry that a movement is made for. -/
def Served (signalGroupMappingList : List SignalGroupMapping) (kind : Kind) (phase : Nat) : Prop :=
  ∃ it ∈ signalGroupMappingList,
    it.phaseId = (phase : Int) ∧ iequals it.type kind.name = true ∧ 0 < it.signalGroupId

/-- The phase number of a slot after the copy. -/
def slotPhase (m : Memory) (buff : List UInt8) (i : Fin 16) : Nat :=
  (buff.getD (2 + 13 * i) (m (2 + 13 * i))).toNat

def InBounds (m : Memory) (buff : List UInt8) (signalGroupMappingList : List SignalGroupMapping) : Prop :=
  buff.length ≤ sizeofNtcip1202Ext ∧
    ∀ i kind, Served signalGroupMappingList kind (slotPhase m buff i) → kind.Covers (slotPhase m buff i)

theorem statusBit_of_covers {w : Word} (h : 1 ≤ phase ∧ phase ≤ 16) :
    statusBit w phase = some ((ntohs w).testBit (phase - 1)) :=
  if_pos h

theorem statusBit_of_not_covers {w : Word} (h : ¬ (1 ≤ phase ∧ phase ≤ 16)) : statusBit w phase = none :=
  if_neg h

theorem headState_some {isFlashing red yellow green : Bool} {greenState : MovementPhaseState} :
    Ntcip1202.headState (some isFlashing) (some red) (some yellow) (some green) greenState =
      some (if red then if isFlashing then .stop_Then_Proceed else .stop_And_Remain
        else if yellow then if isFlashing then .caution_Conflicting_Traffic else .protected_clearance
        else if green then greenState else .dark) := by
  cases red with
  | true => rfl
  | false => cases yellow <;> rfl

theorem walkState_some {dontWalk pedClear walk : Bool} :
    Ntcip1202.walkState (some dontWalk) (some pedClear) (some walk) =
      some (if dontWalk then .stop_And_Remain else if pedClear then .protected_clearance
        else if walk then .permissive_Movement_Allowed else .dark) := by
  cases dontWalk with
  | true => rfl
  | false => cases pedClear <;> rfl

theorem populateVehicle_isSome :
    (n.populateVehicleSignalGroup clock signalGroup phase).isSome ↔ Kind.vehicle.Covers phase := by
  rw [Ntcip1202.populateVehicleSignalGroup, Ntcip1202.getPhaseFlashingStatus, Ntcip1202.getPhaseRedStatus,
    Ntcip1202.getPhaseYellowStatus, Ntcip1202.getPhaseGreensStatus]
  by_cases h : 1 ≤ phase ∧ phase ≤ 16
  · simp only [statusBit_of_covers h, headState_some]
    exact iff_of_true rfl h
  · simp only [statusBit_of_not_covers h]
    exact iff_of_false Bool.false_ne_true h

theorem populateOverlap_isSome :
    (n.populateOverlapSignalGroup clock signalGroup phase).isSome ↔ Kind.overlap.Covers phase := by
  rw [Ntcip1202.populateOverlapSignalGroup, Ntcip1202.getOverlapFlashingStatus, Ntcip1202.getOverlapRedStatus,
    Ntcip1202.getOverlapYellowStatus, Ntcip1202.getOverlapGreenStatus]
  by_cases h : 1 ≤ phase ∧ phase ≤ 16
  · simp only [statusBit_of_covers h, headState_some]
    exact iff_of_true rfl h
  · simp only [statusBit_of_not_covers h]
    exact iff_of_false Bool.false_ne_true h

/-- The slot that is tested is the one whose index is the phase number. -/
theorem populatePedestrian_isSome :
    (n.populatePedestrianSignalGroup clock signalGroup phase).isSome ↔ Kind.pedestrian.Covers phase := by
  rw [Ntcip1202.populatePedestrianSignalGroup, Ntcip1202.getPhaseDontWalkStatus, Ntcip1202.getPhasePedClearsStatus,
    Ntcip1202.getPhaseWalkStatus, Ntcip1202.getSpatPedestrianDetect, Ntcip1202.hasPedMaxTime]
  by_cases h : 1 ≤ phase ∧ phase ≤ 16
  · simp only [statusBit_of_covers h, walkState_some]
    by_cases hlt : phase < 16
    · have hcovers : Kind.pedestrian.Covers phase := ⟨h.1, Nat.le_of_lt_succ hlt⟩
      rw [dif_pos hlt]
      exact iff_of_true rfl hcovers
    · have hcovers : ¬ Kind.pedestrian.Covers phase := fun hc => hlt (Nat.lt_succ_of_le hc.2)
      rw [dif_neg hlt]
      exact iff_of_false Bool.false_ne_true hcovers
  · have hcovers : ¬ Kind.pedestrian.Covers phase := fun hc => h ⟨hc.1, hc.2.trans (by decide)⟩
    simp only [statusBit_of_not_covers h]
    exact iff_of_false Bool.false_ne_true hcovers

theorem populate_isSome : (n.populate clock kind signalGroup phase).isSome ↔ kind.Covers phase := by
  cases kind with
  | vehicle => exact populateVehicle_isSome
  | pedestrian => exact populatePedestrian_isSome
  | overlap => exact populateOverlap_isSome

theorem mapM_isSome {α β : Type*} {f : α → Option β} {l : List α} : (l.mapM f).isSome ↔ ∀ a ∈ l, (f a).isSome := by
  induction l with
  | nil => simp
  | cons a l ih =>
    rw [List.mapM_cons, List.forall_mem_cons, ← ih]
    cases f a with
    | none => simp
    | some b => cases l.mapM f <;> simp

theorem movements_isSome : (n.movements clock signalGroupMappingList kind phase).isSome ↔
    (Served signalGroupMappingList kind phase → kind.Covers phase) := by
  rw [Ntcip1202.movements, mapM_isSome]
  simp only [List.mem_filter, decide_eq_true_eq, populate_isSome]
  constructor
  · rintro h ⟨it, hit, hserved⟩
    exact h it ⟨hit, hserved⟩
  · rintro h it ⟨hit, hserved⟩
    exact h ⟨it, hit, hserved⟩

theorem slotMovements_isSome {i : Fin 16} : (n.slotMovements clock signalGroupMappingList i).isSome ↔
    ∀ kind : Kind, Served signalGroupMappingList kind (n.ntcip1202Data.phaseTimes i).phaseNumber.toNat →
      kind.Covers (n.ntcip1202Data.phaseTimes i).phaseNumber.toNat := by
  have hbind : (n.slotMovements clock signalGroupMappingList i).isSome ↔
      ∀ kind, (n.movements clock signalGroupMappingList kind
        (n.ntcip1202Data.phaseTimes i).phaseNumber.toNat).isSome := by
    rw [Ntcip1202.slotMovements]
    constructor
    · intro h kind
      obtain ⟨states, h⟩ := Option.isSome_iff_exists.1 h
      obtain ⟨v, hv, h⟩ := Option.bind_eq_some_iff.1 h
      obtain ⟨p, hp, h⟩ := Option.bind_eq_some_iff.1 h
      obtain ⟨o, ho, -⟩ := Option.bind_eq_some_iff.1 h
      cases kind with
      | vehicle => exact Option.isSome_of_eq_some hv
      | pedestrian => exact Option.isSome_of_eq_some hp
      | overlap => exact Option.isSome_of_eq_some ho
    · intro h
      obtain ⟨v, hv⟩ := Option.isSome_iff_exists.1 (h .vehicle)
      obtain ⟨p, hp⟩ := Option.isSome_iff_exists.1 (h .pedestrian)
      obtain ⟨o, ho⟩ := Option.isSome_iff_exists.1 (h .overlap)
      rw [hv, hp, ho]
      rfl
  rw [hbind]
  exact forall_congr' fun kind => movements_isSome

theorem toJ2735r41SPAT_isSome {intersectionName : Str} {intersectionId : Int} :
    (n.ToJ2735r41SPAT clock signalGroupMappingList intersectionName intersectionId).isSome ↔
      ∀ (i : Fin 16) (kind : Kind), Served signalGroupMappingList kind (n.ntcip1202Data.phaseTimes i).phaseNumber.toNat →
        kind.Covers (n.ntcip1202Data.phaseTimes i).phaseNumber.toNat := by
  have hmap : (n.ToJ2735r41SPAT clock signalGroupMappingList intersectionName intersectionId).isSome =
      ((List.finRange 16).mapM (n.slotMovements clock signalGroupMappingList)).isSome := by
    rw [Ntcip1202.ToJ2735r41SPAT]
    cases (List.finRange 16).mapM (n.slotMovements clock signalGroupMappingList) <;> rfl
  rw [hmap, mapM_isSome]
  constructor
  · intro h i
    exact slotMovements_isSome.1 (h i (List.mem_finRange i))
  · intro h i _
    exact slotMovements_isSome.2 (h i)

/-- A datagram and a mapping are converted without an access out of bounds exactly if the datagram fits into the
struct and the phases that the mapping serves are ones a movement can be made for. -/
theorem spat_inBounds_iff (m : Memory) (buff : List UInt8) (clock : Clock)
    (signalGroupMappingList : List SignalGroupMapping) (intersectionName : Str) (intersectionId : Int) :
    ((copyBytesIntoNtcip1202 m buff).bind fun n =>
        n.ToJ2735r41SPAT clock signalGroupMappingList intersectionName intersectionId).isSome ↔
      InBounds m buff signalGroupMappingList := by
  rw [copyBytesIntoNtcip1202, memcpy, InBounds]
  by_cases hlength : buff.length ≤ sizeofNtcip1202Ext
  · rw [if_pos hlength, Option.map_some, Option.bind_some, toJ2735r41SPAT_isSome]
    exact (and_iff_right hlength).symm
  · rw [if_neg hlength]
    exact iff_of_false Bool.false_ne_true fun h => hlength h.1

/-- Datagrams that are written past the struct, shift by 16 or by -1, or read past the slots. -/
theorem spat_outOfBounds :
    (copyBytesIntoNtcip1202 (fun _ => 0) (List.replicate 300 0)).isSome = false ∧
      (∀ phase ∈ [17, 0], ((copyBytesIntoNtcip1202 (fun _ => 0) [0xcd, 1, phase]).bind fun n =>
        n.ToJ2735r41SPAT ⟨0, 0⟩ [⟨1, phase.toNat, Kind.vehicle.name⟩] [] 1).isSome = false) ∧
      ((copyBytesIntoNtcip1202 (fun _ => 0) [0xcd, 1, 16]).bind fun n =>
        n.ToJ2735r41SPAT ⟨0, 0⟩ [⟨1, 16, Kind.pedestrian.name⟩] [] 1).isSome = false := by
  decide +kernel

end V2xHub.SpatPlugin
