import V2xHub.Rtcm.Rtcm2
import V2xHub.Rtcm.Search

/-!
# The messages of an encoded message (`RtcmEncodedMessage.h`, `RtcmMessageFactory.h`)

The container takes one message after the other from a copy of the payload. A message skips by itself what is before
its frame, and the container then erases as many bytes as the message has, from the start of the copy. So after gaps
of `n` bytes in all the copy starts `n` bytes before the end of the last frame (`get_container_clear`), and the
frames come out where these bytes, for each frame, have no preamble in them, and where the search behind the last frame
ends at once (`segmentation`).
-/

namespace V2xHub.Rtcm

open BitPack

inductive RTCM_VERSION
  | UNKNOWN
  | SC10402_3
  | SC10403_3
  deriving DecidableEq

/-- What ends the call of the container without a result. -/
inductive Fault
  | tmxException
  | undefined
  deriving DecidableEq

/-! ### Messages of special types -/

/-- `RTCM3AntennaDescriptorMessage`, with what it takes out of the data buffer. -/
structure AntennaDescriptorMessage where
  message : RTCM3Message
  descriptorCounter : Nat
  antennaDescriptor : List Nat
  setupID : Nat
  deriving DecidableEq

namespace AntennaDescriptorMessage

def messageType : Nat := 1007

def byteAttr : List Nat := [8]

/-- The part of `set_contents` behind that of the base class. Erasing more words than there are is undefined. -/
def readDescriptor (m : RTCM3Message) : Except Fault AntennaDescriptorMessage :=
  match RTCM3Message.datamgr.assignData byteAttr m.data with
  | some ([counter], data) =>
    let antDesc := (List.range counter).map (data.getD · 0)
    if counter > data.length then .error .undefined
    else match RTCM3Message.datamgr.assignData byteAttr (data.drop counter) with
      | some ([setupID], data) => .ok ⟨{ m with data }, counter, antDesc, setupID⟩
      | _ => .error .tmxException
  | _ => .error .tmxException

/-- The data buffer is rebuilt behind what is left in it. -/
def rebuilt (a : AntennaDescriptorMessage) : RTCM3Message :=
  let bytes := RTCM3Message.datamgr.extractData byteAttr [a.descriptorCounter]
  let data := RTCM3Message.datamgr.loadData bytes 1 a.message.data
  let bytes := a.antennaDescriptor.map UInt8.ofNat ++ RTCM3Message.datamgr.extractData byteAttr [a.setupID]
  { a.message with data := RTCM3Message.datamgr.loadData bytes bytes.length data }

def get_contents (a : AntennaDescriptorMessage) : Option ByteStream := a.rebuilt.get_contents

def is_Valid (a : AntennaDescriptorMessage) : Bool := a.rebuilt.is_Valid

end AntennaDescriptorMessage

namespace RTCM2Message

/-- The message type of a special message. -/
def GPSSpecialMessage : Nat := 16

/-- The text of the data words, if each has the right parity. A zero byte stands for itself only at the front of its
word. -/
def specialText : Nat → List Nat → Option ByteStream
  | _, [] => some []
  | prevWord, word :: words =>
    if check_Parity word prevWord then
      let c (n : Nat) : UInt8 := UInt8.ofNat (word >>> 6 >>> (8 * (2 - n)))
      (specialText word words).map (c 0 :: [c 1, c 2].filter (· ≠ 0) ++ ·)
    else none

end RTCM2Message

/-! ### The container -/

inductive TmxRtcmMessage
  | rtcm2 (m : RTCM2Message)
  | gpsSpecial (m : RTCM2Message) (specialMessage : ByteStream)
  | rtcm3 (m : RTCM3Message)
  | antennaDescriptor (a : AntennaDescriptorMessage)
  deriving DecidableEq

namespace TmxRtcmMessage

def get_Version : TmxRtcmMessage → RTCM_VERSION
  | .rtcm2 _ => .SC10402_3
  | .gpsSpecial .. => .SC10402_3
  | .rtcm3 _ => .SC10403_3
  | .antennaDescriptor _ => .SC10403_3

def size : TmxRtcmMessage → Nat
  | .rtcm2 m => RTCM2Message.datamgr.wordSize * (2 + m.numberDataWords)
  | .gpsSpecial m _ => RTCM2Message.datamgr.wordSize * (2 + m.numberDataWords)
  | .rtcm3 m => m.size
  | .antennaDescriptor a => a.message.size

def get_contents : TmxRtcmMessage → Option ByteStream
  | .rtcm2 m => some m.get_contents
  | .gpsSpecial m _ => some m.get_contents
  | .rtcm3 m => m.get_contents
  | .antennaDescriptor a => a.get_contents

end TmxRtcmMessage

/-- The message decoded once more by the class for its type, where that gives a valid message. The fuel is that of the
searches. -/
def specific (fuel : Nat) : TmxRtcmMessage → Option (Except Fault TmxRtcmMessage)
  | .rtcm3 m =>
    if m.messageNumber = 0 then some (.ok (.rtcm3 m))
    else match m.get_contents with
      | none => some (.error .tmxException)
      | some contents => (({} : RTCM3Message).set_contents fuel contents).map fun tmp =>
        if m.messageNumber = AntennaDescriptorMessage.messageType then
          (AntennaDescriptorMessage.readDescriptor tmp).map fun a =>
            if a.is_Valid then .antennaDescriptor a else .rtcm3 m
        else .ok (if tmp.is_Valid then .rtcm3 tmp else .rtcm3 m)
  | .rtcm2 m =>
    if m.frameID = 0 then some (.ok (.rtcm2 m))
    else (({} : RTCM2Message).set_contents fuel m.get_contents).map fun tmp =>
      if m.frameID = RTCM2Message.GPSSpecialMessage then
        match RTCM2Message.specialText tmp.parity2 tmp.data with
        | some text => .ok (if tmp.is_Valid then .gpsSpecial tmp text else .rtcm2 m)
        | none => .ok (.rtcm2 m)
      else .ok (if tmp.is_Valid then .rtcm2 tmp else .rtcm2 m)
  | m => some (.ok m)

/-- The first version from the highest that decodes the bytes, or the one that is known. -/
def decode (fuel : Nat) (thisVer : RTCM_VERSION) (copy : ByteStream) : Option (Option TmxRtcmMessage) :=
  let three := (({} : RTCM3Message).set_contents fuel copy).map fun m => if m.is_Valid then some (.rtcm3 m) else none
  let two := (({} : RTCM2Message).set_contents fuel copy).map fun m => if m.is_Valid then some (.rtcm2 m) else none
  match thisVer with
  | .SC10403_3 => three
  | .SC10402_3 => two
  | .UNKNOWN => three.bind fun m => if m.isSome then some m else two

/-- The loop of `get_container` over the copy of the payload. -/
def get_container (search : Nat) : Nat → RTCM_VERSION → ByteStream → Option (Except Fault (List TmxRtcmMessage))
  | _, _, [] => some (.ok [])
  | 0, _, _ :: _ => none
  | fuel + 1, thisVer, c :: copy =>
    (decode search thisVer (c :: copy)).bind fun
      | none => some (.ok [])
      | some ptr => (specific search ptr).bind fun
        | .error e => some (.error e)
        | .ok m =>
          let n := if m.size ≤ (c :: copy).length then m.size else (c :: copy).length
          (get_container search fuel m.get_Version ((c :: copy).drop n)).map (Except.map (m :: ·))

/-! ### Streams of frames -/

/-- Frames with what is before each of them, and what is behind the last one. -/
def streamBytes : List (ByteStream × Frame) → ByteStream → ByteStream
  | [], tail => tail
  | (gap, f) :: pieces, tail => gap ++ f.bytes ++ streamBytes pieces tail

namespace Frame

variable (f : Frame)

/-- The length of the descriptor in the payload of an antenna descriptor. -/
def descriptorLength : Nat := (f.payload.getD 3 0).toNat

/-- The payload as the antenna descriptor message writes it: what it does not know comes first. -/
def reordered : ByteStream :=
  f.payload.take 3 ++ f.payload.drop (5 + f.descriptorLength) ++ (f.payload.drop 3).take (2 + f.descriptorLength)

/-- An antenna descriptor has its descriptor and the setup ID, and if bytes follow them, then their place in the payload
matters to the parity. -/
def DescriptorFits : Prop :=
  RTCM3Message.typeBits f / 2 ^ 12 % 2 ^ 12 = AntennaDescriptorMessage.messageType →
    5 + f.descriptorLength ≤ f.payload.length ∧ (crc24q (f.header ++ f.reordered) = f.parity → f.reordered = f.payload)

instance : Decidable f.DescriptorFits := inferInstanceAs (Decidable (_ → _))

end Frame

/-- The search in these bytes ends in its first round and has no message: the first preamble starts no complete frame, or one
with its parity that has no room for a message number. -/
def Spent (bytes : ByteStream) : Prop :=
  ¬ RTCM3Message.Complete (RTCM3Message.fromPreamble bytes) ∨ RTCM3Message.Matching (RTCM3Message.fromPreamble bytes) ∧
    RTCM3Message.announced (RTCM3Message.fromPreamble bytes) < 3

instance (bytes : ByteStream) : Decidable (Spent bytes) := inferInstanceAs (Decidable (¬ (_ ∧ _) ∨ _ ∧ _))

/-- No preamble is among the bytes that the copy holds before a frame, and those behind the last one are spent. `left` are
the bytes that were read and not erased. -/
def Clear : ByteStream → List (ByteStream × Frame) → ByteStream → Prop
  | left, [], tail => Spent (left ++ tail)
  | left, (gap, f) :: pieces, tail =>
    RTCM3Message.defaultPreamble ∉ left ++ gap ∧ f.DescriptorFits ∧
      Clear ((left ++ gap ++ f.bytes).drop f.bytes.length) pieces tail

instance decidableClear : (left : ByteStream) → (pieces : List (ByteStream × Frame)) → (tail : ByteStream) →
    Decidable (Clear left pieces tail)
  | left, [], tail => inferInstanceAs (Decidable (Spent (left ++ tail)))
  | left, (gap, f) :: pieces, tail =>
    have := decidableClear ((left ++ gap ++ f.bytes).drop f.bytes.length) pieces tail
    inferInstanceAs (Decidable (_ ∧ _ ∧ _))

/-- The bytes are no RTCM 2 message. -/
def NoMessage2 (bytes : ByteStream) : Prop :=
  ∀ m ∈ ({} : RTCM2Message).set_contents (bytes.length + 1) bytes, m.is_Valid = false

/-! ### Antenna descriptors -/

namespace AntennaDescriptorMessage

open RTCM3Message

variable {f : Frame} {after : ByteStream}

theorem fits_byte (b : UInt8) : Fits byteAttr [b.toNat] := fits_cons.2 ⟨b.toNat_lt, fits_nil⟩

theorem extractWords_byte (b : UInt8) : datamgr.extractWords byteAttr [b.toNat] = [b.toNat] := by
  have hpack : pack byteAttr [b.toNat] = pack (List.replicate 1 8) [b.toNat] := rfl
  rw [RtcmDataManager.extractWords_eq (fits_byte b), hpack]
  exact unpack_pack (fits_byte b)

theorem assignData_byte (b : UInt8) (data : List Nat) :
    datamgr.assignData byteAttr (b.toNat :: data) = some ([b.toNat], data) := by
  have h := RtcmDataManager.assignData_extractWords datamgr (fits_byte b) rfl data
  rwa [extractWords_byte] at h

theorem extractData_byte (b : UInt8) : datamgr.extractData byteAttr [b.toNat] = [b] := by
  rw [RtcmDataManager.extractData, extractWords_byte]
  exact flatMap_writeWord [b]

/-- The counter, the descriptor, the setup ID and the rest. -/
theorem split_payload (h : 5 + f.descriptorLength ≤ f.payload.length) :
    ∃ b descriptor setup rest, f.payload.drop 3 = b :: (descriptor ++ setup :: rest) ∧
      descriptor.length = b.toNat ∧ f.reordered = f.payload.take 3 ++ (rest ++ b :: (descriptor ++ [setup])) := by
  have hlength : (f.payload.drop 3).length = f.payload.length - 3 := List.length_drop
  have hgetD : f.payload.getD 3 0 = (f.payload.drop 3).getD 0 0 := by
    rw [List.getD_eq_getElem?_getD, List.getD_eq_getElem?_getD, List.getElem?_drop]
  have hdrop : f.payload.drop (5 + f.descriptorLength) = (f.payload.drop 3).drop (2 + f.descriptorLength) := by
    rw [List.drop_drop]
    congr 1
    omega
  rw [Frame.reordered, hdrop]
  rw [Frame.descriptorLength, hgetD] at h ⊢
  cases hd : f.payload.drop 3 with
  | nil =>
    rw [hd, List.length_nil] at hlength
    omega
  | cons b data =>
    rw [hd] at h hlength
    rw [List.getD_cons_zero] at h ⊢
    rw [List.length_cons] at hlength
    have hsplit : data = data.take b.toNat ++ data.drop b.toNat := (List.take_append_drop ..).symm
    cases hs : data.drop b.toNat with
    | nil =>
      have := congrArg List.length hs
      rw [List.length_drop, List.length_nil] at this
      omega
    | cons setup rest =>
      have htake : (data.take b.toNat).length = b.toNat := by
        rw [List.length_take]
        omega
      refine ⟨b, data.take b.toNat, setup, rest, by rw [← hs, ← hsplit], htake, ?_⟩
      have hrest : (b :: data).drop (2 + b.toNat) = rest := by
        rw [show 2 + b.toNat = b.toNat + 1 + 1 by omega, List.drop_succ_cons, ← List.drop_drop, hs]
        rfl
      have hfront : (b :: data).take (2 + b.toNat) = b :: (data.take b.toNat ++ [setup]) := by
        rw [show 2 + b.toNat = b.toNat + 1 + 1 by omega, List.take_succ_cons, List.take_add, hs]
        rfl
      rw [hrest, hfront, List.append_assoc]

/-- What is read from a frame is written in another order. -/
theorem readDescriptor_decoded (after : ByteStream) (h : 5 + f.descriptorLength ≤ f.payload.length) :
    ∃ a, readDescriptor (({} : RTCM3Message).decoded f after) = .ok a ∧
      ∃ words : ByteStream, words.length = f.payload.length - 3 ∧ f.reordered = f.payload.take 3 ++ words ∧
        a.rebuilt = { ({} : RTCM3Message).decoded f after with data := words.map UInt8.toNat } ∧
        a.message.messageLength = f.payload.length := by
  obtain ⟨b, descriptor, setup, rest, hsplit, hlength, hreordered⟩ := split_payload h
  have hdata : (({} : RTCM3Message).decoded f after).data =
      b.toNat :: (descriptor.map UInt8.toNat ++ setup.toNat :: rest.map UInt8.toNat) := by
    show (f.payload.drop 3).map UInt8.toNat = _
    rw [hsplit, List.map_cons, List.map_append, List.map_cons]
  have hdescriptor : (List.range b.toNat).map
      ((descriptor.map UInt8.toNat ++ setup.toNat :: rest.map UInt8.toNat).getD · 0) = descriptor.map UInt8.toNat := by
    rw [← hlength]
    refine List.ext_getElem (by simp) fun i hi hi' => ?_
    rw [List.length_map] at hi'
    rw [List.getElem_map, List.getElem_range, List.getD_eq_getElem?_getD, List.getElem?_append_left (by simpa using hi')]
    simp [hi']
  have henough : ¬ b.toNat > (descriptor.map UInt8.toNat ++ setup.toNat :: rest.map UInt8.toNat).length := by
    rw [List.length_append, List.length_map, hlength]
    exact Nat.not_lt.2 (Nat.le_add_right ..)
  have hdrop : (descriptor.map UInt8.toNat ++ setup.toNat :: rest.map UInt8.toNat).drop b.toNat =
      setup.toNat :: rest.map UInt8.toNat := List.drop_left' (by rw [List.length_map, hlength])
  have hread : readDescriptor (({} : RTCM3Message).decoded f after) =
      .ok ⟨{ ({} : RTCM3Message).decoded f after with data := rest.map UInt8.toNat }, b.toNat,
        descriptor.map UInt8.toNat, setup.toNat⟩ := by
    rw [readDescriptor, hdata, assignData_byte]
    dsimp only
    rw [if_neg henough, hdescriptor, hdrop, assignData_byte]
  refine ⟨_, hread, rest ++ b :: (descriptor ++ [setup]), ?_, hreordered, ?_, rfl⟩
  · have hwhole := congrArg List.length hsplit
    rw [List.length_drop] at hwhole
    rw [hwhole]
    simp only [List.length_append, List.length_cons, List.length_nil]
    omega
  · have hback : (descriptor.map UInt8.toNat).map UInt8.ofNat = descriptor := by
      rw [List.map_map]
      exact (List.map_congr_left fun c _ => UInt8.ofNat_toNat).trans (List.map_id _)
    have hcounter : datamgr.loadData [b] 1 (rest.map UInt8.toNat) = rest.map UInt8.toNat ++ [b.toNat] :=
      loadData_append [b] [] _
    have hbytes := loadData_append (descriptor ++ [setup]) [] (rest.map UInt8.toNat ++ [b.toNat])
    rw [List.append_nil] at hbytes
    rw [rebuilt]
    dsimp only
    rw [extractData_byte, extractData_byte, hback, hcounter, hbytes]
    simp only [List.map_append, List.map_cons, List.map_nil, List.append_assoc, List.cons_append, List.nil_append]

end AntennaDescriptorMessage

/-! ### The frames of a stream -/

section Stream

open RTCM3Message

variable {f : Frame} {before after left : ByteStream} {ver : RTCM_VERSION}

theorem decode_frame (after : ByteStream) (hver : ver ≠ .SC10402_3) (hbefore : defaultPreamble ∉ before) (search : Nat) :
    decode (search + 1) ver (before ++ f.bytes ++ after) = some (some (.rtcm3 (({} : RTCM3Message).decoded f after))) := by
  have hset := set_contents_frame (m := {}) (f := f) rfl hbefore search after
  have hvalid : (({} : RTCM3Message).decoded f after).is_Valid = true := is_Valid_decoded f after
  unfold decode
  rw [hset]
  cases ver with
  | UNKNOWN => simp [hvalid]
  | SC10402_3 => exact absurd rfl hver
  | SC10403_3 => simp [hvalid]

/-- The second decoding of a frame keeps its bytes. -/
theorem specific_frame (after : ByteStream) (hfits : f.DescriptorFits) (search : Nat) :
    ∃ m, specific (search + 1) (.rtcm3 (({} : RTCM3Message).decoded f after)) = some (.ok m) ∧
      m.get_contents = some f.bytes ∧ m.size = f.bytes.length ∧ m.get_Version = .SC10403_3 := by
  have hsize : f.payload.length + 6 = f.bytes.length := f.length_bytes.symm
  have hcontents : (({} : RTCM3Message).decoded f after).get_contents = some f.bytes := get_contents_decoded f after
  have hagain : ({} : RTCM3Message).set_contents (search + 1) f.bytes = some (({} : RTCM3Message).decoded f []) := by
    have h := set_contents_frame (m := {}) (f := f) rfl (List.not_mem_nil (a := defaultPreamble)) search []
    rwa [List.nil_append, List.append_nil] at h
  have hvalid : (({} : RTCM3Message).decoded f []).is_Valid = true := is_Valid_decoded f []
  have hgeneric (rest : ByteStream) : (TmxRtcmMessage.rtcm3 (({} : RTCM3Message).decoded f rest)).size = f.bytes.length :=
    (Nat.add_comm ..).trans hsize
  unfold specific
  dsimp only
  by_cases hzero : (({} : RTCM3Message).decoded f after).messageNumber = 0
  · rw [if_pos hzero]
    exact ⟨_, rfl, hcontents, hgeneric after, rfl⟩
  · rw [if_neg hzero, hcontents]
    dsimp only
    rw [hagain, Option.map_some]
    by_cases htype : (({} : RTCM3Message).decoded f after).messageNumber = AntennaDescriptorMessage.messageType
    · obtain ⟨hlength, hsame⟩ := hfits htype
      obtain ⟨a, hread, words, hwords, hreordered, hrebuilt, hmessage⟩ :=
        AntennaDescriptorMessage.readDescriptor_decoded [] hlength
      rw [if_pos htype, hread]
      refine ⟨_, rfl, ?_⟩
      dsimp only
      by_cases ha : a.is_Valid = true
      · have hparity : crc24q (f.header ++ f.reordered) = f.parity := by
          rw [AntennaDescriptorMessage.is_Valid, hrebuilt, is_Valid_withData f [] hwords] at ha
          rw [hreordered]
          exact of_decide_eq_true (Bool.and_eq_true_iff.1 ha).2
        have hpayload : f.payload.take 3 ++ words = f.payload := hreordered.symm.trans (hsame hparity)
        rw [if_pos ha]
        refine ⟨?_, ?_, rfl⟩
        · show a.rebuilt.get_contents = _
          rw [hrebuilt, get_contents_withData f [] hwords, List.append_assoc f.header, hpayload, Frame.bytes]
        · show headerBytes + crcBytes + a.message.messageLength = _
          rw [hmessage, ← hsize]
          exact Nat.add_comm ..
      · rw [if_neg ha]
        exact ⟨hcontents, hgeneric after, rfl⟩
    · rw [if_neg htype, if_pos hvalid]
      exact ⟨_, rfl, get_contents_decoded f [], hgeneric [], rfl⟩

/-- One round of the container, in front of which no preamble is left. -/
theorem get_container_frame (before after : ByteStream) (hver : ver ≠ .SC10402_3) (hbefore : defaultPreamble ∉ before)
    (hfits : f.DescriptorFits) (search fuel : Nat) :
    ∃ m, m.get_contents = some f.bytes ∧
      get_container (search + 1) (fuel + 1) ver (before ++ f.bytes ++ after) =
        (get_container (search + 1) fuel .SC10403_3 ((before ++ f.bytes).drop f.bytes.length ++ after)).map
          (Except.map (m :: ·)) := by
  obtain ⟨m, hspecific, hcontents, hsize, hversion⟩ := specific_frame after hfits search
  refine ⟨m, hcontents, ?_⟩
  have hle : f.bytes.length ≤ (before ++ f.bytes ++ after).length := by
    rw [List.length_append, List.length_append]
    omega
  have hdrop : (before ++ f.bytes ++ after).drop f.bytes.length = (before ++ f.bytes).drop f.bytes.length ++ after :=
    List.drop_append_of_le_length (by rw [List.length_append]; exact Nat.le_add_left ..)
  have hcons : ∃ c copy, before ++ f.bytes ++ after = c :: copy := by
    refine List.exists_cons_of_ne_nil fun h => ?_
    rw [h, Frame.length_bytes] at hle
    exact absurd hle (Nat.not_le.2 (Nat.succ_pos _))
  obtain ⟨c, copy, hcopy⟩ := hcons
  have hdecode := decode_frame (f := f) after hver hbefore search
  rw [hcopy] at hle hdrop hdecode ⊢
  rw [get_container, hdecode, Option.bind_some]
  dsimp only
  rw [hspecific, Option.bind_some]
  dsimp only
  rw [hsize, if_pos hle, hversion, hdrop]

theorem set_contents_spent (h : Spent left) (search : Nat) :
    ∃ m, ({} : RTCM3Message).set_contents (search + 1) left = some m ∧ m.is_Valid = false := by
  by_cases hcomplete : Complete (fromPreamble left)
  · obtain ⟨hmatching, hshort⟩ := h.resolve_left (not_not.2 hcomplete)
    obtain ⟨-, hset⟩ := set_contents_found ⟨hcomplete, hmatching⟩
    exact ⟨_, hset search, eq_false_of_ne_true (not_valid_of_stop (loadRest_short rfl hshort))⟩
  · obtain ⟨m', result, -, -, hvalid, hset⟩ := set_contents_stop hcomplete
    exact ⟨result, hset search, eq_false_of_ne_true (not_valid_of_stop hvalid)⟩

theorem get_container_spent (h : Spent left) (search fuel : Nat) :
    get_container (search + 1) (fuel + 1) .SC10403_3 left = some (.ok []) := by
  obtain ⟨m, hset, hvalid⟩ := set_contents_spent h search
  cases left with
  | nil => rfl
  | cons c left =>
    rw [get_container, decode, hset]
    simp [hvalid]

/-- From a copy that holds `left` before the rest of the stream. -/
theorem get_container_clear (pieces : List (ByteStream × Frame)) (tail : ByteStream) (hclear : Clear left pieces tail)
    (search : Nat) {fuel : Nat} (hfuel : pieces.length < fuel) :
    ∃ msgs, get_container (search + 1) fuel .SC10403_3 (left ++ streamBytes pieces tail) = some (.ok msgs) ∧
      msgs.map TmxRtcmMessage.get_contents = pieces.map fun p => some p.2.bytes := by
  induction pieces generalizing left fuel with
  | nil =>
    obtain ⟨fuel, rfl⟩ := Nat.exists_eq_succ_of_ne_zero (Nat.ne_of_gt hfuel)
    exact ⟨[], get_container_spent hclear search fuel, rfl⟩
  | cons p pieces ih =>
    obtain ⟨gap, f⟩ := p
    obtain ⟨hgap, hfits, hclear⟩ := hclear
    obtain ⟨fuel, rfl⟩ := Nat.exists_eq_succ_of_ne_zero (Nat.ne_of_gt (Nat.zero_lt_of_lt hfuel))
    obtain ⟨m, hcontents, hround⟩ := get_container_frame (left ++ gap) (streamBytes pieces tail)
      (show RTCM_VERSION.SC10403_3 ≠ .SC10402_3 by decide) hgap hfits search fuel
    obtain ⟨msgs, hrest, hmsgs⟩ := ih hclear (Nat.lt_of_succ_lt_succ hfuel)
    refine ⟨m :: msgs, ?_, by rw [List.map_cons, hcontents, hmsgs, List.map_cons]⟩
    rw [streamBytes, ← List.append_assoc, ← List.append_assoc, hround, hrest]
    rfl

/-- A new container decodes nothing where neither version has a message. -/
theorem get_container_none (h : Spent left) (htwo : NoMessage2 left) {search : Nat} (hsearch : left.length ≤ search)
    (fuel : Nat) : get_container (search + 1) (fuel + 1) .UNKNOWN left = some (.ok []) := by
  obtain ⟨m, hset, hvalid⟩ := set_contents_spent h search
  obtain ⟨m', hset'⟩ := RTCM2Message.set_contents_terminates left
  have hvalid' : m'.is_Valid = false := htwo m' (hset' _ (Nat.lt_succ_self _))
  cases left with
  | nil => rfl
  | cons c left =>
    rw [get_container, decode, hset, hset' (search + 1) (Nat.lt_succ_of_le hsearch)]
    simp [hvalid, hvalid']

/-- The frames come out where the copy is clear before each of them. -/
theorem get_container_stream (pieces : List (ByteStream × Frame)) (tail : ByteStream) (hclear : Clear [] pieces tail)
    (hempty : pieces = [] → ver = .UNKNOWN → NoMessage2 tail) (hver : ver ≠ .SC10402_3) {search fuel : Nat}
    (hsearch : (streamBytes pieces tail).length ≤ search) (hfuel : pieces.length < fuel) :
    ∃ msgs, get_container (search + 1) fuel ver (streamBytes pieces tail) = some (.ok msgs) ∧
      msgs.map TmxRtcmMessage.get_contents = pieces.map fun p => some p.2.bytes := by
  obtain ⟨fuel, rfl⟩ := Nat.exists_eq_succ_of_ne_zero (Nat.ne_of_gt (Nat.zero_lt_of_lt hfuel))
  cases pieces with
  | nil =>
    refine ⟨[], ?_, rfl⟩
    cases ver with
    | UNKNOWN => exact get_container_none hclear (hempty rfl rfl) hsearch fuel
    | SC10402_3 => exact absurd rfl hver
    | SC10403_3 => exact get_container_spent hclear search fuel
  | cons p pieces =>
    obtain ⟨gap, f⟩ := p
    obtain ⟨hgap, hfits, hclear⟩ := hclear
    obtain ⟨m, hcontents, hround⟩ := get_container_frame ([] ++ gap) (streamBytes pieces tail) hver hgap hfits search fuel
    obtain ⟨msgs, hrest, hmsgs⟩ := get_container_clear pieces tail hclear search (Nat.lt_of_succ_lt_succ hfuel)
    refine ⟨m :: msgs, ?_, by rw [List.map_cons, hcontents, hmsgs]; rfl⟩
    rw [streamBytes]
    rw [List.nil_append] at hround hrest
    rw [hround, hrest]
    rfl

/-- The container over the payload has the frames, each once, in their order and byte for byte. -/
def Yields (payload : ByteStream) (frames : List Frame) : Prop :=
  ∀ search fuel, payload.length ≤ search → frames.length < fuel →
    ∃ msgs, get_container (search + 1) fuel .UNKNOWN payload = some (.ok msgs) ∧
      msgs.map TmxRtcmMessage.get_contents = frames.map fun f => some f.bytes

/-- The frames come out where no preamble is in the way of any of them, as long as each is erased in the place of the
bytes before it, and where what is behind them is spent. A payload without frames must be no RTCM 2 message either. -/
theorem segmentation (pieces : List (ByteStream × Frame)) (tail : ByteStream) (hclear : Clear [] pieces tail)
    (hempty : pieces = [] → NoMessage2 tail) : Yields (streamBytes pieces tail) (pieces.map Prod.snd) := by
  intro search fuel hsearch hfuel
  rw [List.length_map] at hfuel
  rw [List.map_map]
  exact get_container_stream pieces tail hclear (fun h _ => hempty h) (by decide) hsearch hfuel

/-- A frame of message number 0. -/
def smallFrame : Frame := ⟨0, [0, 0, 0], by decide, by decide, by decide⟩

/-- Behind the frames is a header whose payload is missing. -/
theorem segmentation_two :
    Yields (streamBytes [([1, 2], smallFrame), ([3], smallFrame)] [4, 0xD3, 0, 19]) [smallFrame, smallFrame] :=
  segmentation [([1, 2], smallFrame), ([3], smallFrame)] [4, 0xD3, 0, 19] (by decide +kernel)
    fun h => absurd h (List.cons_ne_nil _ _)

/-- No frame starts in the gap. -/
def NoFrame (gap rest : ByteStream) : Prop := ∀ i < gap.length, ∀ f : Frame, ¬ f.bytes <+: (gap ++ rest).drop i

/-- After a gap of the length of the frame, the frame comes out twice. -/
theorem segmentation_duplicates :
    NoFrame (List.replicate 9 0) (streamBytes [([], smallFrame)] []) ∧
      ¬ Yields (streamBytes [(List.replicate 9 0, smallFrame)] []) [smallFrame] := by
  constructor
  · intro i hi f hprefix
    have hhead : ((List.replicate 9 0 ++ streamBytes [([], smallFrame)] []).drop i).head? = some 0 := by
      rw [List.length_replicate] at hi
      rw [List.head?_drop, List.getElem?_append_left (by simpa using hi), List.getElem?_replicate, if_pos hi]
    obtain ⟨rest, hrest⟩ := hprefix
    rw [← hrest] at hhead
    exact absurd (Option.some.inj hhead) (by decide)
  · intro h
    have hfits : smallFrame.DescriptorFits := by decide +kernel
    obtain ⟨m, hcontents, hfirst⟩ := get_container_frame (List.replicate 9 0) []
      (show RTCM_VERSION.UNKNOWN ≠ .SC10402_3 by decide) (by decide) hfits 18 1
    obtain ⟨m', hcontents', hsecond⟩ := get_container_frame [] []
      (show RTCM_VERSION.SC10403_3 ≠ .SC10402_3 by decide) (by decide) hfits 18 0
    obtain ⟨msgs, hrun, hmsgs⟩ := h 18 2 (by decide +kernel) (by decide)
    have hleft : (List.replicate 9 0 ++ smallFrame.bytes).drop smallFrame.bytes.length = smallFrame.bytes := by
      rw [smallFrame.length_bytes]
      exact List.drop_left' List.length_replicate
    rw [List.nil_append, List.drop_length] at hsecond
    rw [streamBytes, streamBytes, hfirst, hleft, hsecond] at hrun
    obtain rfl : [m, m'] = msgs := Except.ok.inj (Option.some.inj hrun)
    exact absurd (congrArg List.length hmsgs) (Nat.succ_ne_self 1)

end Stream

end V2xHub.Rtcm
