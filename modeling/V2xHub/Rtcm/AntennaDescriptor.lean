import V2xHub.Rtcm.EncodedMessage

/-!
# Antenna descriptors of any length

The counter of the descriptor comes from the frame. The code throws where the payload ends before the counter or before the setup
ID, and erases behind the end of the buffer where the counter is greater than what is left (`readDescriptor_short`). So a
descriptor is read without harm exactly where the payload has all of it.
-/

namespace V2xHub.Rtcm

namespace AntennaDescriptorMessage

open RTCM3Message

/-- `set_contents` of a new message. The exceptions of the part behind that of the base class are not caught. -/
def set_contents (fuel : Nat) (bytes : ByteStream) : Option (Except Fault AntennaDescriptorMessage) :=
  (({} : RTCM3Message).set_contents fuel bytes).map readDescriptor

/-- The frame is decoded without an exception and without an access outside of the payload, and a payload that does not have its
descriptor gives an invalid message. -/
def DecodesTotally (f : Frame) : Prop :=
  ∀ (fuel : Nat) (after : ByteStream), ∃ a, set_contents (fuel + 1) (f.bytes ++ after) = some (.ok a) ∧
    (f.payload.length < 5 + f.descriptorLength → a.is_Valid = false)

variable {f : Frame}

theorem set_contents_frame (f : Frame) (fuel : Nat) (after : ByteStream) :
    set_contents (fuel + 1) (f.bytes ++ after) = some (readDescriptor (({} : RTCM3Message).decoded f after)) := by
  have hdecoded := RTCM3Message.set_contents_frame (m := {}) (f := f) rfl (List.not_mem_nil (a := defaultPreamble)) fuel after
  rw [List.nil_append] at hdecoded
  rw [set_contents, hdecoded, Option.map_some]

theorem assignData_nil : datamgr.assignData byteAttr [] = none := rfl

/-- Where the payload ends before its descriptor is over, the code throws or erases too much. -/
theorem readDescriptor_short (after : ByteStream) (h : f.payload.length < 5 + f.descriptorLength) :
    readDescriptor (({} : RTCM3Message).decoded f after) =
      .error (if f.payload.length = 3 ∨ f.payload.length = 4 + f.descriptorLength then .tmxException else .undefined) := by
  have hle := f.le_length
  have hdata : (({} : RTCM3Message).decoded f after).data = (f.payload.drop 3).map UInt8.toNat := rfl
  have hlength : (f.payload.drop 3).length = f.payload.length - 3 := List.length_drop
  have hgetD : f.payload.getD 3 0 = (f.payload.drop 3).getD 0 0 := by
    rw [List.getD_eq_getElem?_getD, List.getD_eq_getElem?_getD, List.getElem?_drop]
  rw [Frame.descriptorLength, hgetD] at h ⊢
  rw [readDescriptor, hdata]
  cases hdrop : f.payload.drop 3 with
  | nil =>
    rw [hdrop, List.length_nil] at hlength
    rw [List.map_nil, assignData_nil, if_pos (Or.inl (by omega))]
  | cons counter data =>
    rw [hdrop, List.length_cons] at hlength
    rw [hdrop, List.getD_cons_zero] at h
    rw [List.map_cons, assignData_byte, List.getD_cons_zero]
    dsimp only
    rw [List.length_map]
    by_cases hmore : counter.toNat > data.length
    · rw [if_pos hmore, if_neg (by omega)]
    · -- all of the descriptor is there, and nothing behind it
      have hnone : (data.map UInt8.toNat).drop counter.toNat = [] := by
        refine List.drop_of_length_le ?_
        rw [List.length_map]
        omega
      rw [if_neg hmore, hnone, assignData_nil, if_pos (Or.inr (by omega))]

/-- A frame is decoded totally exactly where its payload has the counter, the descriptor and the setup ID. -/
theorem decodesTotally_iff (f : Frame) : DecodesTotally f ↔ 5 + f.descriptorLength ≤ f.payload.length := by
  constructor
  · intro h
    by_contra hshort
    obtain ⟨a, hset, -⟩ := h 0 []
    rw [set_contents_frame, readDescriptor_short [] (Nat.lt_of_not_le hshort)] at hset
    nomatch hset
  · intro hfits fuel after
    obtain ⟨a, hread, -⟩ := readDescriptor_decoded after hfits
    refine ⟨a, ?_, fun hshort => absurd hfits (Nat.not_le.2 hshort)⟩
    rw [set_contents_frame, hread]

/-- Frames of message number 1007: without a counter, with a counter of five and nothing behind it, and without a setup ID. -/
def noCounter : Frame := ⟨0, [0x3E, 0xF0, 0], smallFrame.reserved_lt, by decide, by decide⟩

def noDescriptor : Frame := ⟨0, [0x3E, 0xF0, 0, 5], smallFrame.reserved_lt, by decide, by decide⟩

def noSetupID : Frame := ⟨0, [0x3E, 0xF0, 0, 1, 65], smallFrame.reserved_lt, by decide, by decide⟩

theorem decodesTotally_fails :
    (typeBits noCounter / 2 ^ 12 % 2 ^ 12 = messageType ∧ ¬ DecodesTotally noCounter ∧
      set_contents 1 noCounter.bytes = some (.error .tmxException)) ∧
    (typeBits noDescriptor / 2 ^ 12 % 2 ^ 12 = messageType ∧ ¬ DecodesTotally noDescriptor ∧
      set_contents 1 noDescriptor.bytes = some (.error .undefined)) ∧
    typeBits noSetupID / 2 ^ 12 % 2 ^ 12 = messageType ∧ ¬ DecodesTotally noSetupID ∧
      set_contents 1 noSetupID.bytes = some (.error .tmxException) := by
  have hfails : ∀ f : Frame, f.payload.length < 5 + f.descriptorLength → ¬ DecodesTotally f ∧
      set_contents 1 f.bytes =
        some (.error (if f.payload.length = 3 ∨ f.payload.length = 4 + f.descriptorLength then .tmxException else .undefined)) := by
    intro f hshort
    have hset := set_contents_frame f 0 []
    rw [List.append_nil, readDescriptor_short [] hshort] at hset
    refine ⟨fun h => ?_, hset⟩
    obtain ⟨a, hok, -⟩ := h 0 []
    rw [List.append_nil, hset] at hok
    nomatch hok
  exact ⟨⟨by decide, hfails noCounter (by decide)⟩, ⟨by decide, hfails noDescriptor (by decide)⟩, by decide,
    hfails noSetupID (by decide)⟩

end AntennaDescriptorMessage

end V2xHub.Rtcm
