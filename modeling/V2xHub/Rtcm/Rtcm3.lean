import V2xHub.Rtcm.Crc24q

/-!
# RTCM 3 messages (`RTCM3.h`)

`set_contents` looks for a preamble, takes the header and the parity behind the payload it announces, and, where they
do not agree, goes on behind that preamble with the bytes of the parity inserted once more. How often it tries is
bounded here by the fuel, and nothing bounds it in the code. A message that comes from a frame is the frame decoded
(`set_contents_frame`), and its contents are the frame (`rtcm3_roundTrip`).
-/

namespace V2xHub.Rtcm

open BitPack

structure RTCM3Message where
  preamble : Nat := 0xD3
  reserved : Nat := 0
  messageLength : Nat := 0
  messageNumber : Nat := 0
  referenceStationID : Nat := 0
  crc : Nat := 0
  valid : Bool := true
  bytes : ByteStream := []
  data : List Nat := []
  deriving DecidableEq

namespace RTCM3Message

def datamgr : RtcmDataManager := ⟨8, 8, 0, Nat.le_refl 8⟩

def defaultPreamble : UInt8 := 0xD3

/-- The bits of the preamble, the reserved bits and the message length. -/
def headerAttrs : List Nat := [8, 6, 10]

/-- The bits of the message number and the reference station. -/
def typeAttrs : List Nat := [12, 12]

def crcAttrs : List Nat := [24]

def headerBytes : Nat := headerAttrs.sum / datamgr.byteSize

def crcBytes : Nat := crcAttrs.sum / datamgr.byteSize

def attrBytes : Nat := typeAttrs.sum / datamgr.byteSize

def invalidate (m : RTCM3Message) : RTCM3Message := { m with valid := false }

def size (m : RTCM3Message) : Nat := headerBytes + crcBytes + m.messageLength

def get_Parity (m : RTCM3Message) (bytes : ByteStream) : UInt32 :=
  crc24q_hash (if m.size ≤ bytes.length then bytes.take (m.size - crcBytes) else bytes)

def check_Parity (m : RTCM3Message) (bytes : ByteStream) : Bool :=
  if m.size > bytes.length then false else m.crc = (m.get_Parity bytes).toNat

/-- With a length under `attrBytes` the number of words wraps, and no buffer has that many. -/
def get_contents (m : RTCM3Message) : Option ByteStream :=
  if m.messageLength < attrBytes then none
  else
    (datamgr.extractAllData (m.messageLength - attrBytes) (headerAttrs ++ typeAttrs)
      [m.preamble, m.reserved, m.messageLength, m.messageNumber, m.referenceStationID] m.data).map
        (· ++ datamgr.extractData crcAttrs [m.crc])

def is_Valid (m : RTCM3Message) : Bool :=
  m.valid && match m.get_contents with
    | none => false
    | some data => m.preamble = defaultPreamble.toNat && m.check_Parity data

def Validate (m : RTCM3Message) : Option RTCM3Message :=
  m.get_contents.map fun data => { m with crc := (m.get_Parity data).toNat }

/-- One round of the search in the bytes of the message. -/
def searchRound (m : RTCM3Message) : RTCM3Message × Round :=
  let bytes := m.bytes.dropWhile (· ≠ defaultPreamble)
  if headerBytes > bytes.length then ({ m with bytes := bytes }, .stop)
  else match datamgr.assignBytes bytes headerAttrs m.data with
    | some ([preamble, reserved, messageLength], data) =>
      let m := { m with preamble, reserved, messageLength, bytes, data }
      let consumed := datamgr.wordSize * datamgr.countWords headerAttrs
      if messageLength + consumed + crcBytes > bytes.length then (m, .stop)
      else
        let start := consumed + messageLength
        let crc := (bytes.drop start).take crcBytes
        match datamgr.assignBytes crc crcAttrs m.data with
        | some ([value], data) =>
          let m := { m with crc := value, data }
          if preamble = defaultPreamble.toNat ∧ m.check_Parity bytes then (m, .found)
          -- the parity is inserted before itself, and the next search starts behind the preamble
          else ({ m with bytes := (bytes.take start ++ crc ++ bytes.drop start).drop 1 }, .retry)
        | _ => (m, .stop)
    | _ => ({ m with bytes := bytes }, .stop)

/-- The payload behind a header that was found. -/
def loadRest (m : RTCM3Message) : RTCM3Message :=
  let bytes := m.bytes.drop headerBytes
  let data := datamgr.loadData bytes m.messageLength m.data
  match datamgr.assignData typeAttrs data with
  | some ([messageNumber, referenceStationID], data) => { m with messageNumber, referenceStationID, bytes, data }
  | _ => { m with bytes, data }.invalidate

def search : Nat → RTCM3Message → Option RTCM3Message
  | 0, _ => none
  | fuel + 1, m =>
    match m.searchRound with
    | (m, .stop) => some m.invalidate
    | (m, .retry) => search fuel m
    | (m, .found) => some m.loadRest

def set_contents (fuel : Nat) (m : RTCM3Message) (bytes : ByteStream) : Option RTCM3Message :=
  search fuel { m with bytes }

end RTCM3Message

/-! ### Frames -/

/-- A frame is its reserved bits and its payload. The rest follows from them. -/
structure Frame where
  reserved : Nat
  payload : ByteStream
  reserved_lt : reserved < 2 ^ 6
  le_length : 3 ≤ payload.length
  length_le : payload.length ≤ 1023

namespace Frame

variable (f : Frame)

/-- The preamble, six reserved bits and ten bits of length. -/
def header : ByteStream :=
  [0xD3, UInt8.ofNat (f.reserved * 4 + f.payload.length / 256), UInt8.ofNat f.payload.length]

def parity : BitVec 24 := crc24q (f.header ++ f.payload)

def trailer : ByteStream :=
  [UInt8.ofNat (f.parity.toNat / 2 ^ 16), UInt8.ofNat (f.parity.toNat / 2 ^ 8), UInt8.ofNat f.parity.toNat]

def bytes : ByteStream := f.header ++ f.payload ++ f.trailer

@[simp] theorem length_header : f.header.length = 3 := rfl

@[simp] theorem length_trailer : f.trailer.length = 3 := rfl

@[simp] theorem length_bytes : f.bytes.length = f.payload.length + 6 := by
  rw [bytes, List.length_append, List.length_append, length_header, length_trailer]
  omega

end Frame

namespace RTCM3Message

variable {m : RTCM3Message} {data : List Nat} {bytes : ByteStream}

/-! ### Bytes as words -/

theorem writeWord_toNat (byte : UInt8) : datamgr.writeWord byte.toNat = [byte] := by
  have h : datamgr.writeWord byte.toNat = [UInt8.ofNat (splitWord 8 byte.toNat 0)] := rfl
  rw [h, splitWord_eq, Nat.mul_zero, Nat.pow_zero, Nat.div_one, Nat.mod_eq_of_lt byte.toNat_lt, UInt8.ofNat_toNat]

theorem flatMap_writeWord (bytes : ByteStream) : (bytes.map UInt8.toNat).flatMap datamgr.writeWord = bytes := by
  rw [List.flatMap_map, funext writeWord_toNat, List.flatMap_singleton']

theorem reads_datamgr : datamgr.Reads := by
  intro byte hbyte
  change byte < 2 ^ 8 at hbyte
  show (UInt8.ofNat byte).toNat % 2 ^ 8 = byte
  rw [UInt8.toNat_ofNat', Nat.mod_eq_of_lt hbyte, Nat.mod_eq_of_lt hbyte]

theorem loadData_append (bytes after : ByteStream) (data : List Nat) :
    datamgr.loadData (bytes ++ after) bytes.length data = data ++ bytes.map UInt8.toNat := by
  have h := RtcmDataManager.loadData_flatMap reads_datamgr (bytes.map UInt8.toNat)
    (fun word hword => by obtain ⟨byte, -, rfl⟩ := List.mem_map.1 hword; exact byte.toNat_lt) after data
  rwa [flatMap_writeWord, List.length_map] at h

theorem fits_toNat (bytes : ByteStream) : Fits (List.replicate bytes.length 8) (bytes.map UInt8.toNat) := by
  induction bytes with
  | nil => exact fits_nil
  | cons byte bytes ih => exact fits_cons.2 ⟨byte.toNat_lt, ih⟩

/-! ### The words of a frame -/

theorem fits_header (f : Frame) : Fits headerAttrs [defaultPreamble.toNat, f.reserved, f.payload.length] :=
  fits_cons.2 ⟨by decide, fits_cons.2 ⟨f.reserved_lt, fits_cons.2 ⟨Nat.lt_succ_of_le f.length_le, fits_nil⟩⟩⟩

theorem header_words (f : Frame) :
    unpack (List.replicate 3 8) (pack headerAttrs [defaultPreamble.toNat, f.reserved, f.payload.length]) =
      f.header.map UInt8.toNat := by
  have hreserved := f.reserved_lt
  have hlength := f.length_le
  have hpreamble : defaultPreamble.toNat = 211 := rfl
  simp only [headerAttrs, Frame.header, List.replicate, pack, unpack, List.map_cons, List.map_nil, List.sum_cons,
    List.sum_nil, UInt8.toNat_ofNat', hpreamble, List.cons.injEq, and_true]
  refine ⟨?_, ?_, ?_⟩
  · show _ = 211
    omega
  · omega
  · omega

theorem trailer_words (f : Frame) :
    unpack (List.replicate 3 8) (pack crcAttrs [f.parity.toNat]) = f.trailer.map UInt8.toNat := by
  simp [crcAttrs, Frame.trailer, pack, unpack]

theorem fits_crc (f : Frame) : Fits crcAttrs [f.parity.toNat] := fits_cons.2 ⟨f.parity.isLt, fits_nil⟩

/-- The bits that the message number and the reference station are in. -/
def typeBits (f : Frame) : Nat := pack (List.replicate 3 8) ((f.payload.take 3).map UInt8.toNat)

theorem length_take (f : Frame) : (f.payload.take 3).length = 3 := by
  rw [List.length_take, Nat.min_eq_left f.le_length]

theorem fits_take (f : Frame) : Fits (List.replicate 3 8) ((f.payload.take 3).map UInt8.toNat) := by
  have h := fits_toNat (f.payload.take 3)
  rwa [length_take] at h

theorem type_words (f : Frame) :
    unpack (List.replicate 3 8) (pack typeAttrs (unpack typeAttrs (typeBits f))) = (f.payload.take 3).map UInt8.toNat := by
  exact unpack_pack_unpack typeAttrs (fits_take f) rfl

theorem contents_words (f : Frame) :
    datamgr.extractData (headerAttrs ++ typeAttrs)
      ([defaultPreamble.toNat, f.reserved, f.payload.length] ++ unpack typeAttrs (typeBits f)) =
      f.header ++ f.payload.take 3 := by
  have hfits : Fits (headerAttrs ++ typeAttrs)
      ([defaultPreamble.toNat, f.reserved, f.payload.length] ++ unpack typeAttrs (typeBits f)) :=
    List.rel_append (fits_header f) fits_unpack
  have hcount : datamgr.countWords (headerAttrs ++ typeAttrs) = 6 := rfl
  have hsplit : List.replicate 6 datamgr.rtcm_word = List.replicate 3 8 ++ List.replicate 3 8 := rfl
  have hsum : typeAttrs.sum = (List.replicate 3 8).sum := rfl
  rw [RtcmDataManager.extractData, RtcmDataManager.extractWords_eq hfits, hcount, hsplit, pack_append (fits_header f).length_eq, hsum,
    unpack_append (hsum ▸ pack_lt fits_unpack), header_words, type_words, List.flatMap_append, flatMap_writeWord,
    flatMap_writeWord]

theorem trailer_bytes (f : Frame) : datamgr.extractData crcAttrs [f.parity.toNat] = f.trailer := by
  have hcount : List.replicate (datamgr.countWords crcAttrs) datamgr.rtcm_word = List.replicate 3 8 := rfl
  rw [RtcmDataManager.extractData, RtcmDataManager.extractWords_eq (fits_crc f), hcount, trailer_words,
    flatMap_writeWord]

/-- Bytes that the attributes pack to are assigned to the attributes. -/
theorem assignBytes_append {attrs values : List Nat} (hfits : Fits attrs values)
    (hsum : (List.replicate (datamgr.countWords attrs) datamgr.rtcm_word).sum = attrs.sum)
    (hlength : bytes.length = datamgr.countWords attrs)
    (hbytes : unpack (List.replicate (datamgr.countWords attrs) datamgr.rtcm_word) (pack attrs values) =
      bytes.map UInt8.toNat) (after : ByteStream) :
    datamgr.assignBytes (bytes ++ after) attrs [] = some (values, []) := by
  have hwords : bytes.map UInt8.toNat = datamgr.extractWords attrs values := by
    rw [RtcmDataManager.extractWords_eq hfits, hbytes]
  have h := RtcmDataManager.assignData_extractWords datamgr hfits hsum []
  rw [List.append_nil, ← hwords] at h
  rw [RtcmDataManager.assignBytes, ← hlength, loadData_append]
  exact h

theorem assignBytes_header (f : Frame) (after : ByteStream) :
    datamgr.assignBytes (f.header ++ after) headerAttrs [] =
      some ([defaultPreamble.toNat, f.reserved, f.payload.length], []) :=
  assignBytes_append (fits_header f) rfl f.length_header (header_words f) after

theorem assignBytes_trailer (f : Frame) :
    datamgr.assignBytes f.trailer crcAttrs [] = some ([f.parity.toNat], []) := by
  have h := assignBytes_append (fits_crc f) rfl f.length_trailer (trailer_words f) []
  rwa [List.append_nil] at h

theorem assignData_type (f : Frame) :
    datamgr.assignData typeAttrs (f.payload.map UInt8.toNat) =
      some (unpack typeAttrs (typeBits f), (f.payload.drop 3).map UInt8.toNat) := by
  have hlength : datamgr.countWords typeAttrs ≤ (f.payload.map UInt8.toNat).length := by
    rw [List.length_map]
    exact f.le_length
  have hmod : ((f.payload.map UInt8.toNat).take 3).map (· % 2 ^ 8) = (f.payload.take 3).map UInt8.toNat := by
    rw [← List.map_take, List.map_map]
    exact List.map_congr_left fun byte _ => Nat.mod_eq_of_lt byte.toNat_lt
  rw [RtcmDataManager.assignData_eq hlength, List.map_drop]
  exact congrArg (fun words => some (unpack typeAttrs (pack (List.replicate 3 8) words), _)) hmod

/-! ### Finding a frame -/

/-- The message with the header and the parity of the frame. -/
def found (m : RTCM3Message) (f : Frame) (after : ByteStream) : RTCM3Message :=
  { m with
    preamble := defaultPreamble.toNat
    reserved := f.reserved
    messageLength := f.payload.length
    crc := f.parity.toNat
    bytes := f.bytes ++ after
    data := [] }

/-- The message with all of the frame. -/
def decoded (m : RTCM3Message) (f : Frame) (after : ByteStream) : RTCM3Message :=
  { m with
    preamble := defaultPreamble.toNat
    reserved := f.reserved
    messageLength := f.payload.length
    messageNumber := typeBits f / 2 ^ 12 % 2 ^ 12
    referenceStationID := typeBits f / 2 ^ 0 % 2 ^ 12
    crc := f.parity.toNat
    bytes := f.payload ++ f.trailer ++ after
    data := (f.payload.drop 3).map UInt8.toNat }

theorem check_Parity_eq {f : Frame} (hlength : m.messageLength = f.payload.length) (after : ByteStream) :
    m.check_Parity (f.bytes ++ after) = decide (m.crc = f.parity.toNat) := by
  have hsize : m.size = f.payload.length + 6 := by
    rw [size, hlength]
    exact Nat.add_comm ..
  have hle : m.size ≤ (f.bytes ++ after).length := by
    rw [hsize, List.length_append, Frame.length_bytes]
    exact Nat.le_add_right ..
  have htake : (f.bytes ++ after).take (m.size - crcBytes) = f.header ++ f.payload := by
    rw [hsize, Frame.bytes, List.append_assoc]
    refine List.take_left' ?_
    rw [List.length_append, Frame.length_header, Nat.add_comm]
    rfl
  rw [check_Parity, if_neg (Nat.not_lt.2 hle), get_Parity, if_pos hle, htake, crc24q_hash_eq, Frame.parity]

/-- Bytes that are no preamble are skipped. -/
theorem dropWhile_preamble {before : ByteStream} (hbefore : defaultPreamble ∉ before) (f : Frame) (after : ByteStream) :
    (before ++ f.bytes ++ after).dropWhile (· ≠ defaultPreamble) = f.bytes ++ after := by
  rw [List.append_assoc, List.dropWhile_append_of_pos fun byte hbyte => ?_]
  · rfl
  · exact decide_eq_true fun h : byte = defaultPreamble => hbefore (h ▸ hbyte)

theorem searchRound_frame {f : Frame} {before after : ByteStream} (hdata : m.data = [])
    (hbytes : m.bytes = before ++ f.bytes ++ after) (hbefore : defaultPreamble ∉ before) :
    m.searchRound = (m.found f after, .found) := by
  have hlength : (f.bytes ++ after).length = f.payload.length + 6 + after.length := by
    rw [List.length_append, Frame.length_bytes]
  have hheader : ¬ headerBytes > (f.bytes ++ after).length := by
    rw [hlength]
    exact Nat.not_lt.2 (Nat.le_add_right_of_le (Nat.le_add_left_of_le (by decide)))
  have hconsumed : datamgr.wordSize * datamgr.countWords headerAttrs = 3 := rfl
  have hcrcBytes : crcBytes = 3 := rfl
  have hassign : datamgr.assignBytes (f.bytes ++ after) headerAttrs m.data =
      some ([defaultPreamble.toNat, f.reserved, f.payload.length], []) := by
    rw [hdata, Frame.bytes, List.append_assoc, List.append_assoc]
    exact assignBytes_header f _
  have hcrc : ((f.bytes ++ after).drop (3 + f.payload.length)).take 3 = f.trailer := by
    rw [Frame.bytes, List.append_assoc, List.drop_left', List.take_left' f.length_trailer]
    rw [List.length_append, Frame.length_header]
  unfold searchRound
  rw [hbytes, dropWhile_preamble hbefore]
  dsimp only
  rw [if_neg hheader, hassign]
  dsimp only
  rw [hconsumed, hcrcBytes, if_neg (by rw [hlength]; omega), hcrc, assignBytes_trailer]
  dsimp only
  rw [if_pos ⟨rfl, by rw [check_Parity_eq rfl]; exact decide_eq_true rfl⟩]
  rfl

theorem loadRest_found (f : Frame) (after : ByteStream) : (m.found f after).loadRest = m.decoded f after := by
  have hdrop : (f.bytes ++ after).drop headerBytes = f.payload ++ f.trailer ++ after := by
    rw [Frame.bytes, List.append_assoc, List.append_assoc, List.append_assoc]
    exact List.drop_left' f.length_header
  have hload : datamgr.loadData (f.payload ++ f.trailer ++ after) f.payload.length [] = f.payload.map UInt8.toNat := by
    rw [List.append_assoc]
    exact loadData_append f.payload _ []
  unfold loadRest found
  dsimp only
  rw [hdrop, hload, assignData_type]
  rfl

/-- A frame with no preamble before it is decoded in the first round. -/
theorem set_contents_frame {f : Frame} {before : ByteStream} (hdata : m.data = []) (hbefore : defaultPreamble ∉ before)
    (fuel : Nat) (after : ByteStream) :
    m.set_contents (fuel + 1) (before ++ f.bytes ++ after) = some (m.decoded f after) := by
  have hround := searchRound_frame (m := { m with bytes := before ++ f.bytes ++ after }) hdata rfl hbefore
  rw [set_contents, search, hround]
  exact congrArg some (loadRest_found f after)

/-! ### The contents of a message -/

/-- The contents of a message with the header of a frame and other words in its buffer. -/
theorem get_contents_withData (f : Frame) (after : ByteStream) {words : ByteStream}
    (hwords : words.length = f.payload.length - 3) :
    { m.decoded f after with data := words.map UInt8.toNat }.get_contents =
      some (f.header ++ f.payload.take 3 ++ words ++ f.trailer) := by
  have hlength : ¬ f.payload.length < attrBytes := Nat.not_lt.2 f.le_length
  have hdata : f.payload.length - attrBytes = (words.map UInt8.toNat).length := by
    rw [List.length_map, hwords]
    rfl
  have hretrieve : datamgr.retrieveData (f.payload.length - attrBytes) (words.map UInt8.toNat) = some words := by
    rw [RtcmDataManager.retrieveData_eq datamgr hdata.le, hdata, List.take_length, flatMap_writeWord]
  have hvalues : [defaultPreamble.toNat, f.reserved, f.payload.length, typeBits f / 2 ^ 12 % 2 ^ 12,
      typeBits f / 2 ^ 0 % 2 ^ 12] =
      [defaultPreamble.toNat, f.reserved, f.payload.length] ++ unpack typeAttrs (typeBits f) := rfl
  unfold get_contents decoded
  dsimp only
  rw [if_neg hlength, RtcmDataManager.extractAllData, hretrieve, hvalues, contents_words, trailer_bytes]
  rfl

/-- Such a message is valid where the parity of the frame is that of the other words too. -/
theorem is_Valid_withData (f : Frame) (after : ByteStream) {words : ByteStream}
    (hwords : words.length = f.payload.length - 3) :
    { m.decoded f after with data := words.map UInt8.toNat }.is_Valid =
      (m.valid && decide (crc24q (f.header ++ (f.payload.take 3 ++ words)) = f.parity)) := by
  have hle := f.le_length
  have hbody : (f.header ++ f.payload.take 3 ++ words).length = f.payload.length + 3 := by
    rw [List.length_append, List.length_append, Frame.length_header, length_take, hwords]
    omega
  have hsize : { m.decoded f after with data := words.map UInt8.toNat }.size = f.payload.length + 6 := Nat.add_comm ..
  have henough : ¬ f.payload.length + 6 > (f.header ++ f.payload.take 3 ++ words ++ f.trailer).length := by
    rw [List.length_append, hbody, Frame.length_trailer]
    exact Nat.lt_irrefl _
  have htake : (f.header ++ f.payload.take 3 ++ words ++ f.trailer).take (f.payload.length + 6 - crcBytes) =
      f.header ++ (f.payload.take 3 ++ words) := by
    rw [← List.append_assoc]
    exact List.take_left' hbody
  have hparity : { m.decoded f after with data := words.map UInt8.toNat }.check_Parity
      (f.header ++ f.payload.take 3 ++ words ++ f.trailer) =
        decide (crc24q (f.header ++ (f.payload.take 3 ++ words)) = f.parity) := by
    rw [check_Parity, hsize, if_neg henough, get_Parity, hsize, if_pos (Nat.le_of_not_lt henough), htake,
      crc24q_hash_eq, decide_eq_decide]
    exact BitVec.toNat_inj.trans eq_comm
  rw [is_Valid, get_contents_withData f after hwords]
  dsimp only
  rw [hparity]
  rfl

theorem decoded_eq_withData (f : Frame) (after : ByteStream) :
    m.decoded f after = { m.decoded f after with data := (f.payload.drop 3).map UInt8.toNat } := rfl

theorem get_contents_decoded (f : Frame) (after : ByteStream) : (m.decoded f after).get_contents = some f.bytes := by
  rw [decoded_eq_withData, get_contents_withData f after List.length_drop, List.append_assoc f.header,
    List.take_append_drop, Frame.bytes]

theorem is_Valid_decoded (f : Frame) (after : ByteStream) : (m.decoded f after).is_Valid = m.valid := by
  rw [decoded_eq_withData, is_Valid_withData f after List.length_drop, List.take_append_drop, Frame.parity,
    decide_eq_true rfl, Bool.and_true]

/-- There are contents where the length and the buffer have the words for them. -/
theorem get_contents_isSome : m.get_contents.isSome ↔ 3 ≤ m.messageLength ∧ m.messageLength - 3 ≤ m.data.length := by
  have hattrBytes : attrBytes = 3 := rfl
  rw [get_contents, hattrBytes]
  split_ifs with h
  · exact iff_of_false (by simp) fun hle => Nat.not_le.2 h hle.1
  · rw [Option.isSome_map, RtcmDataManager.extractAllData, Option.isSome_map, RtcmDataManager.retrieveData_isSome]
    exact (and_iff_right (Nat.le_of_not_lt h)).symm

/-- The contents are the words before the parity, and the parity. -/
theorem get_contents_body {contents : ByteStream} (h : m.get_contents = some contents) :
    ∃ body : ByteStream, body.length = m.messageLength + 3 ∧
      ∀ crc, { m with crc := crc }.get_contents = some (body ++ datamgr.extractData crcAttrs [crc]) := by
  obtain ⟨hle, hwords⟩ := get_contents_isSome.1 (Option.isSome_of_eq_some h)
  have hattrBytes : attrBytes = 3 := rfl
  have hretrieve := RtcmDataManager.retrieveData_eq datamgr hwords
  refine ⟨datamgr.extractData (headerAttrs ++ typeAttrs)
      [m.preamble, m.reserved, m.messageLength, m.messageNumber, m.referenceStationID] ++
    (m.data.take (m.messageLength - 3)).flatMap datamgr.writeWord, ?_, fun crc => ?_⟩
  · have hcount : datamgr.countWords (headerAttrs ++ typeAttrs) * datamgr.wordSize = 6 := rfl
    have hsize : datamgr.wordSize = 1 := rfl
    rw [List.length_append, RtcmDataManager.length_extractData, hcount, RtcmDataManager.length_flatMap_writeWord,
      List.length_take, Nat.min_eq_left hwords, hsize]
    omega
  · unfold get_contents
    dsimp only
    rw [hattrBytes, if_neg (Nat.not_lt.2 hle), RtcmDataManager.extractAllData, hretrieve]
    rfl

/-- With the parity of its contents a message has the right parity, whatever parity it had. -/
theorem Validate_spec {contents : ByteStream} (h : m.get_contents = some contents) :
    ∃ m' contents', m.Validate = some m' ∧ m' = { m with crc := m'.crc } ∧ m'.get_contents = some contents' ∧
      contents'.take (m.size - crcBytes) = contents.take (m.size - crcBytes) ∧ m'.check_Parity contents' = true := by
  obtain ⟨body, hlength, hbody⟩ := get_contents_body h
  have hsize : m.size = body.length + 3 := by
    rw [size, hlength, Nat.add_comm, Nat.add_assoc]
    rfl
  have htrailer (crc : Nat) : (datamgr.extractData crcAttrs [crc]).length = 3 := by
    rw [RtcmDataManager.length_extractData]
    rfl
  have htake (crc : Nat) : (body ++ datamgr.extractData crcAttrs [crc]).take (m.size - crcBytes) = body := by
    rw [hsize]
    exact List.take_left' rfl
  have hcontents : contents = body ++ datamgr.extractData crcAttrs [m.crc] := Option.some.inj (h.symm.trans (hbody m.crc))
  have hparity (crc : Nat) : m.get_Parity (body ++ datamgr.extractData crcAttrs [crc]) = crc24q_hash body := by
    have hle : m.size ≤ (body ++ datamgr.extractData crcAttrs [crc]).length := by
      rw [List.length_append, htrailer, hsize]
    rw [get_Parity, if_pos hle, htake]
  refine ⟨{ m with crc := (m.get_Parity contents).toNat }, _, by rw [Validate, h, Option.map_some], rfl, hbody _, ?_, ?_⟩
  · rw [hcontents, htake, htake]
  · rw [hcontents, hparity]
    have hle : ¬ m.size > (body ++ datamgr.extractData crcAttrs [(crc24q_hash body).toNat]).length := by
      rw [List.length_append, htrailer, hsize]
      exact Nat.lt_irrefl _
    have hsame : { m with crc := (crc24q_hash body).toNat }.get_Parity
        (body ++ datamgr.extractData crcAttrs [(crc24q_hash body).toNat]) = crc24q_hash body := hparity _
    unfold check_Parity
    rw [hsame]
    exact (if_neg hle).trans (decide_eq_true rfl)

/-- A frame, whatever follows it, is decoded to a valid message that has its size and its bytes as contents. For every
header and payload that make contents, `Validate` gives them the right parity and changes nothing else. -/
theorem rtcm3_roundTrip :
    (∀ (f : Frame) (after : ByteStream) (fuel : Nat), ∃ m,
      ({} : RTCM3Message).set_contents (fuel + 1) (f.bytes ++ after) = some m ∧
      m.is_Valid = true ∧ m.size = f.bytes.length ∧ m.get_contents = some f.bytes) ∧
    ∀ m : RTCM3Message, (∃ m' contents contents', m.Validate = some m' ∧ m' = { m with crc := m'.crc } ∧
      m.get_contents = some contents ∧ m'.get_contents = some contents' ∧
      contents'.take (m.size - crcBytes) = contents.take (m.size - crcBytes) ∧ m'.check_Parity contents' = true) ↔
      3 ≤ m.messageLength ∧ m.messageLength - 3 ≤ m.data.length := by
  constructor
  · intro f after fuel
    have hset := set_contents_frame (m := {}) (f := f) rfl (List.not_mem_nil (a := defaultPreamble)) fuel after
    refine ⟨_, hset, is_Valid_decoded f after, ?_, get_contents_decoded f after⟩
    rw [Frame.length_bytes]
    exact Nat.add_comm ..
  · intro m
    rw [← get_contents_isSome]
    constructor
    · rintro ⟨_, _, _, _, _, hcontents, _⟩
      exact Option.isSome_of_eq_some hcontents
    · intro h
      obtain ⟨contents, hcontents⟩ := Option.isSome_iff_exists.1 h
      obtain ⟨m', contents', hvalidate, hsame, hcontents', htake, hparity⟩ := Validate_spec hcontents
      exact ⟨m', contents, contents', hvalidate, hsame, hcontents, hcontents', htake, hparity⟩

end RTCM3Message

end V2xHub.Rtcm
