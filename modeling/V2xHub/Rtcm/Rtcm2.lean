import V2xHub.Rtcm.Word2
import Mathlib.Data.List.Chain

/-!
# RTCM 2 messages (`RTCM2.h`)

`set_contents` reads two words where a preamble may start, finds out from the parity of the first what the last bits of
the word before were, and takes both apart into the header. The data words follow, each complemented back by the last
bit of the one before. What is sent is complemented again on the way out, so a frame comes back as it was
(`set_contents_frame`), for each pair of last bits that the word before may have had. The header words are taken from
the attributes anew each time here. The code keeps them for as long as no attribute is set.
-/

namespace V2xHub.Rtcm

open BitPack

structure RTCM2Message where
  preamble : Nat := 0x66
  frameID : Nat := 0
  stationID : Nat := 0
  parity1 : Nat := 0
  modifiedZCount : Nat := 0
  sequenceNumber : Nat := 0
  numberDataWords : Nat := 0
  stationHealth : Nat := 0
  parity2 : Nat := 0
  valid : Bool := true
  bytes : ByteStream := []
  data : List Nat := []
  primerWord : Nat := 0
  deriving DecidableEq

namespace RTCM2Message

def datamgr : RtcmDataManager := ⟨rtcm_word, 6, 0x40, by decide⟩

def defaultPreamble : UInt8 := 0x66

def complPreamble : UInt8 := defaultPreamble ^^^ 0x3F

/-- The bits of the attributes of the header, in their order. -/
def attrs : List Nat := [8, 6, 10, 6, 13, 3, 5, 3, 6]

def values (m : RTCM2Message) : List Nat :=
  [m.preamble, m.frameID, m.stationID, m.parity1, m.modifiedZCount, m.sequenceNumber, m.numberDataWords,
    m.stationHealth, m.parity2]

def invalidate (m : RTCM2Message) : RTCM2Message := { m with valid := false }

def get_Rtcm2Header (m : RTCM2Message) : List Nat := datamgr.extractWords attrs m.values

def get_Header1 (m : RTCM2Message) : Nat := m.get_Rtcm2Header.getD 0 0

def get_Header2 (m : RTCM2Message) : Nat := m.get_Rtcm2Header.getD 1 0

def is_Valid (m : RTCM2Message) : Bool :=
  m.valid && m.get_Header1 >>> (rtcm_word - 8) = m.preamble && m.preamble = defaultPreamble.toNat &&
    check_Parity m.get_Header1 m.primerWord && check_Parity m.get_Header2 m.parity1

def get_contents (m : RTCM2Message) : ByteStream :=
  let hdr1 := complementIf (get_Bit 30 m.primerWord) m.get_Header1
  let hdr2 := complementIf (get_Bit 30 hdr1) m.get_Header2
  datamgr.writeWord hdr1 ++ datamgr.writeWord hdr2 ++ (writtenWords hdr2 m.data).flatMap datamgr.writeWord

/-- Trial and error for the last bits of the word before. The first word is complemented at each turn but the first. -/
def tryPrimer : List Nat → Nat → Nat → Nat × Option Nat
  | [], _, primerWord => (primerWord, none)
  | p :: ps, tmp, _ =>
    let tmp := complementIf (p ≠ 0) tmp
    if tmp >>> (rtcm_word - 8) = defaultPreamble.toNat ∧ check_Parity tmp p then (p, some tmp) else tryPrimer ps tmp p

/-- The primer word, and the buffer with its first word complemented back. -/
def readPrimer (m : RTCM2Message) (data : List Nat) : Nat × List Nat :=
  if m.primerWord ≠ 0 then (m.primerWord, data.set 0 (complementIf (get_Bit 30 m.primerWord) (data.getD 0 0)))
  else match tryPrimer [0, 1, 2, 3] (data.getD 0 0) 0 with
    | (primerWord, some tmp) => (primerWord, data.set 0 tmp)
    | (primerWord, none) => (primerWord, data)

/-- One round of the search in the bytes of the message. -/
def searchRound (m : RTCM2Message) : RTCM2Message × Round :=
  let bytes := m.bytes.dropWhile fun b => b ≠ defaultPreamble ∧ b ≠ complPreamble
  if 2 * datamgr.wordSize > bytes.length then ({ m with bytes }, .stop)
  else
    let (primerWord, data) := m.readPrimer (datamgr.loadData bytes 2 m.data)
    let data := data.set 1 (complementIf (get_Bit 30 (data.getD 0 0)) (data.getD 1 0))
    match datamgr.assignData attrs data with
    | some ([preamble, frameID, stationID, parity1, modifiedZCount, sequenceNumber, numberDataWords, stationHealth,
        parity2], data) =>
      let m := { m with preamble, frameID, stationID, parity1, modifiedZCount, sequenceNumber, numberDataWords,
                        stationHealth, parity2, bytes, data, primerWord }
      if m.is_Valid then (m, .found) else ({ m with bytes := bytes.drop 1, primerWord := 0 }, .retry)
    | _ => ({ m with bytes, primerWord }, .stop)

/-- The data words behind a header that was found. -/
def loadRest (m : RTCM2Message) : RTCM2Message :=
  let bytes := m.bytes.drop (datamgr.wordSize * datamgr.countWords attrs)
  if bytes.length < datamgr.wordSize * m.numberDataWords then { m with bytes }.invalidate
  else
    let data := datamgr.loadData bytes m.numberDataWords m.data
    { m with bytes, data := plainWords m.parity2 (data.take m.numberDataWords) ++ data.drop m.numberDataWords }

def search : Nat → RTCM2Message → Option RTCM2Message
  | 0, _ => none
  | fuel + 1, m =>
    match m.searchRound with
    | (m, .stop) => some m.invalidate
    | (m, .retry) => search fuel m
    | (m, .found) => some m.loadRest

def set_contents (fuel : Nat) (m : RTCM2Message) (bytes : ByteStream) : Option RTCM2Message :=
  search fuel { m with bytes }

/-! ### Frames -/

/-- Six bits on the wire, reflected and with the tag 01. -/
def wireByte (b : Nat) : UInt8 := UInt8.ofNat (2 ^ 6 + (BitVec.ofNat 6 b).reverse.toNat)

def wireWord (word : Nat) : ByteStream := (unpack (List.replicate 5 6) word).map wireByte

/-- The words of a frame with their parity, before they are complemented, and the word that was sent before them. -/
structure Frame where
  previous : Nat
  header1 : Nat
  header2 : Nat
  words : List Nat
  header1_lt : header1 < 2 ^ rtcm_word
  header2_lt : header2 < 2 ^ rtcm_word
  words_lt : ∀ word ∈ words, word < 2 ^ rtcm_word
  preamble : header1 / 2 ^ 22 = 0x66
  length : header2 / 2 ^ 9 % 2 ^ 5 = words.length
  parity : List.IsChain ParityHolds (previous :: header1 :: header2 :: words)

namespace Frame

variable (f : Frame)

def bytes : ByteStream := (sentWords f.previous (f.header1 :: f.header2 :: f.words)).flatMap wireWord

/-- The header as one number. -/
def headerBits : Nat := pack (List.replicate 2 rtcm_word) [f.header1, f.header2]

theorem headerBits_eq : f.headerBits = f.header1 * 2 ^ 30 + f.header2 := by
  simp [headerBits, pack, List.replicate, rtcm_word]

theorem fits_header : Fits (List.replicate 2 rtcm_word) [f.header1, f.header2] :=
  fits_cons.2 ⟨f.header1_lt, fits_cons.2 ⟨f.header2_lt, fits_nil⟩⟩

theorem check_header1 : check_Parity f.header1 f.previous = true :=
  (check_Parity_iff f.header1_lt).2 (List.isChain_cons_cons.1 f.parity).1

theorem check_header2 : check_Parity f.header2 f.header1 = true :=
  (check_Parity_iff f.header2_lt).2 (List.isChain_cons_cons.1 (List.isChain_cons_cons.1 f.parity).2).1

end Frame

variable {m : RTCM2Message} {f : Frame} {p : Nat}

/-! ### Bytes on the wire -/

theorem rollOut_eq {b : Nat} (hb : b < 2 ^ 6) : datamgr.rollOut b = wireByte b := by
  have h : ∀ b < 64, datamgr.rollOut b = wireByte b := by decide +kernel
  exact h b hb

theorem reads_datamgr : datamgr.Reads := by
  have h : ∀ b < 64, datamgr.rollIn (datamgr.rollOut b) % 2 ^ datamgr.byteSize = b := by decide +kernel
  exact h

theorem writeWord_eq_wireWord (word : Nat) : datamgr.writeWord word = wireWord word := by
  rw [RtcmDataManager.writeWord_eq]
  exact List.map_congr_left fun b hb => rollOut_eq (lt_of_mem_unpack hb)

theorem bytes_eq (f : Frame) : f.bytes = (sentWords f.previous (f.header1 :: f.header2 :: f.words)).flatMap datamgr.writeWord := by
  rw [Frame.bytes, funext writeWord_eq_wireWord]

/-- The first byte is the preamble or its complement. -/
theorem dropWhile_preamble (f : Frame) (after : ByteStream) :
    (f.bytes ++ after).dropWhile (fun b => b ≠ defaultPreamble ∧ b ≠ complPreamble) = f.bytes ++ after := by
  have hplain : f.header1 / 2 ^ 24 = 25 := by
    have h := f.preamble
    omega
  have hfirst (b : Bool) : complementIf b f.header1 / 2 ^ 24 = 25 ∨ complementIf b f.header1 / 2 ^ 24 = 38 := by
    cases b
    · exact .inl hplain
    · right
      show (f.header1 ^^^ data_bitmask) / 2 ^ 24 = 38
      rw [Nat.xor_div_two_pow, hplain]
      rfl
  have hbytes : f.bytes = wireByte (complementIf (get_Bit 30 f.previous) f.header1 / 2 ^ 24 % 2 ^ 6) :: f.bytes.drop 1 := rfl
  rw [hbytes, List.cons_append]
  refine List.dropWhile_cons_of_neg ?_
  rcases hfirst (get_Bit 30 f.previous) with h | h
  · rw [h]
    decide
  · rw [h]
    decide

/-! ### The word before -/

theorem complementIf_complement (b : Bool) (word : Nat) : complementIf b word ^^^ data_bitmask = complementIf (!b) word := by
  cases b
  · rfl
  · exact complement_complement word

/-- The trial with the last bits `p` accepts the word, as it is after the complements up to it, where the word before
ends in `p`. -/
theorem accepts_iff (f : Frame) (p : Nat) :
    (complementIf (get_Bit 30 f.previous ^^ get_Bit 30 p) f.header1 >>> (rtcm_word - 8) = defaultPreamble.toNat ∧
      check_Parity (complementIf (get_Bit 30 f.previous ^^ get_Bit 30 p) f.header1) p = true) ↔
    get_Bit 29 p = get_Bit 29 f.previous ∧ get_Bit 30 p = get_Bit 30 f.previous := by
  by_cases hsame : get_Bit 30 p = get_Bit 30 f.previous
  · have hxor : (get_Bit 30 f.previous ^^ get_Bit 30 p) = false := by rw [hsame, Bool.xor_self]
    rw [hxor]
    constructor
    · rintro ⟨-, hcheck⟩
      exact check_Parity_unique f.header1_lt hcheck f.check_header1
    · rintro ⟨h29, -⟩
      refine ⟨?_, (check_Parity_congr h29 hsame).trans f.check_header1⟩
      rw [Nat.shiftRight_eq_div_pow]
      exact f.preamble
  · have hxor : (get_Bit 30 f.previous ^^ get_Bit 30 p) = true := by
      cases h : get_Bit 30 p <;> cases h' : get_Bit 30 f.previous <;> simp_all
    refine iff_of_false ?_ fun h => hsame h.2
    rintro ⟨hpreamble, -⟩
    rw [hxor] at hpreamble
    change (f.header1 ^^^ data_bitmask) >>> 22 = _ at hpreamble
    rw [Nat.shiftRight_eq_div_pow, Nat.xor_div_two_pow, f.preamble] at hpreamble
    exact absurd hpreamble (by decide)

/-- One turn, for a word that is by then complemented as `p` asks for. -/
theorem tryPrimer_cons (f : Frame) (ps : List Nat) (last : Nat) {tmp : Nat}
    (htmp : complementIf (p ≠ 0) tmp = complementIf (get_Bit 30 f.previous ^^ get_Bit 30 p) f.header1) :
    tryPrimer (p :: ps) tmp last =
      if get_Bit 29 p = get_Bit 29 f.previous ∧ get_Bit 30 p = get_Bit 30 f.previous then (p, some f.header1)
      else tryPrimer ps (complementIf (get_Bit 30 f.previous ^^ get_Bit 30 p) f.header1) p := by
  rw [tryPrimer, htmp]
  by_cases h : get_Bit 29 p = get_Bit 29 f.previous ∧ get_Bit 30 p = get_Bit 30 f.previous
  · rw [if_pos ((accepts_iff f p).2 h), if_pos h, h.2, Bool.xor_self]
    rfl
  · rw [if_neg (mt (accepts_iff f p).1 h), if_neg h]

/-- The trials find the last bits of the word before. -/
theorem tryPrimer_sent (f : Frame) :
    ∃ p, tryPrimer [0, 1, 2, 3] (complementIf (get_Bit 30 f.previous) f.header1) 0 = (p, some f.header1) ∧
      get_Bit 29 p = get_Bit 29 f.previous ∧ get_Bit 30 p = get_Bit 30 f.previous := by
  have hnext (p q : Nat) (hq : q ≠ 0) (hpq : get_Bit 30 q = !get_Bit 30 p) :
      complementIf (q ≠ 0) (complementIf (get_Bit 30 f.previous ^^ get_Bit 30 p) f.header1) =
        complementIf (get_Bit 30 f.previous ^^ get_Bit 30 q) f.header1 := by
    rw [decide_eq_true hq, hpq, Bool.xor_not]
    exact complementIf_complement _ _
  rw [tryPrimer_cons f _ _ (by rw [show get_Bit 30 0 = false from rfl, Bool.xor_false]; rfl),
    tryPrimer_cons f _ _ (hnext 0 1 (by decide) rfl),
    tryPrimer_cons f _ _ (hnext 1 2 (by decide) rfl),
    tryPrimer_cons f _ _ (hnext 2 3 (by decide) rfl)]
  cases h29 : get_Bit 29 f.previous <;> cases h30 : get_Bit 30 f.previous
  · exact ⟨0, rfl, rfl, rfl⟩
  · exact ⟨1, rfl, rfl, rfl⟩
  · exact ⟨2, rfl, rfl, rfl⟩
  · exact ⟨3, rfl, rfl, rfl⟩

/-- A message that is new, or knows the word that was sent before the frame. -/
def Follows (m : RTCM2Message) (f : Frame) : Prop :=
  m.primerWord = 0 ∨ get_Bit 29 m.primerWord = get_Bit 29 f.previous ∧ get_Bit 30 m.primerWord = get_Bit 30 f.previous

theorem readPrimer_sent (h : m.Follows f) (rest : List Nat) :
    ∃ p, m.readPrimer (complementIf (get_Bit 30 f.previous) f.header1 :: rest) = (p, f.header1 :: rest) ∧
      get_Bit 29 p = get_Bit 29 f.previous ∧ get_Bit 30 p = get_Bit 30 f.previous := by
  rw [readPrimer]
  split_ifs with hzero
  · obtain ⟨h29, h30⟩ := h.resolve_left hzero
    refine ⟨m.primerWord, ?_, h29, h30⟩
    rw [h30]
    exact congrArg (fun word => (_, word :: rest)) (complementIf_complementIf _ _)
  · obtain ⟨p, htry, hbits⟩ := tryPrimer_sent f
    refine ⟨p, ?_, hbits⟩
    rw [List.getD_cons_zero, htry]
    rfl

/-! ### Finding a frame -/

/-- The message with the header that is in the bits. -/
def withHeader (m : RTCM2Message) (bits : Nat) (bytes : ByteStream) (data : List Nat) (primerWord : Nat) : RTCM2Message :=
  { m with
    preamble := bits / 2 ^ 52 % 2 ^ 8
    frameID := bits / 2 ^ 46 % 2 ^ 6
    stationID := bits / 2 ^ 36 % 2 ^ 10
    parity1 := bits / 2 ^ 30 % 2 ^ 6
    modifiedZCount := bits / 2 ^ 17 % 2 ^ 13
    sequenceNumber := bits / 2 ^ 14 % 2 ^ 3
    numberDataWords := bits / 2 ^ 9 % 2 ^ 5
    stationHealth := bits / 2 ^ 6 % 2 ^ 3
    parity2 := bits / 2 ^ 0 % 2 ^ 6
    bytes := bytes
    data := data
    primerWord := primerWord }

theorem unpack_attrs (bits : Nat) :
    unpack attrs bits = [bits / 2 ^ 52 % 2 ^ 8, bits / 2 ^ 46 % 2 ^ 6, bits / 2 ^ 36 % 2 ^ 10, bits / 2 ^ 30 % 2 ^ 6,
      bits / 2 ^ 17 % 2 ^ 13, bits / 2 ^ 14 % 2 ^ 3, bits / 2 ^ 9 % 2 ^ 5, bits / 2 ^ 6 % 2 ^ 3, bits / 2 ^ 0 % 2 ^ 6] := rfl

theorem values_withHeader (m : RTCM2Message) (bits : Nat) (bytes : ByteStream) (data : List Nat) (p : Nat) :
    (m.withHeader bits bytes data p).values = unpack attrs bits := (unpack_attrs bits).symm

theorem withHeader_update (m : RTCM2Message) (bits : Nat) (bytes bytes' : ByteStream) (data data' : List Nat) (p : Nat) :
    { m.withHeader bits bytes data p with bytes := bytes', data := data' } = m.withHeader bits bytes' data' p := rfl

theorem get_Rtcm2Header_eq (h : m.values = unpack attrs f.headerBits) : m.get_Rtcm2Header = [f.header1, f.header2] := by
  have hcount : List.replicate (datamgr.countWords attrs) datamgr.rtcm_word = List.replicate 2 rtcm_word := rfl
  rw [get_Rtcm2Header, h, RtcmDataManager.extractWords_eq fits_unpack, hcount]
  exact unpack_pack_unpack _ f.fits_header rfl

theorem header_fields (f : Frame) :
    f.headerBits / 2 ^ 52 % 2 ^ 8 = defaultPreamble.toNat ∧ f.headerBits / 2 ^ 30 % 2 ^ 6 = f.header1 % 2 ^ 6 ∧
      f.headerBits / 2 ^ 9 % 2 ^ 5 = f.words.length ∧ f.headerBits / 2 ^ 0 % 2 ^ 6 = f.header2 % 2 ^ 6 := by
  have h1 := f.header1_lt
  have h2 := f.header2_lt
  have hpreamble := f.preamble
  have hlength := f.length
  rw [rtcm_word] at h1 h2
  rw [Frame.headerBits_eq, show defaultPreamble.toNat = 0x66 from rfl, ← hlength]
  omega

theorem is_Valid_of_values (h : m.values = unpack attrs f.headerBits)
    (h29 : get_Bit 29 m.primerWord = get_Bit 29 f.previous) (h30 : get_Bit 30 m.primerWord = get_Bit 30 f.previous) :
    m.is_Valid = m.valid := by
  obtain ⟨hpreamble, hparity, -, -⟩ := header_fields f
  have hm : m.preamble = defaultPreamble.toNat := (List.cons.inj h).1.trans hpreamble
  have hm1 : m.parity1 = f.header1 % 2 ^ 6 := by
    simp only [values, attrs, unpack, List.cons.injEq] at h
    exact h.2.2.2.1.trans hparity
  have hheader := get_Rtcm2Header_eq h
  have hfirst : f.header1 >>> (rtcm_word - 8) = defaultPreamble.toNat := by
    rw [Nat.shiftRight_eq_div_pow]
    exact f.preamble
  have hcheck1 : check_Parity f.header1 m.primerWord = true := (check_Parity_congr h29 h30).trans f.check_header1
  have hcheck2 : check_Parity f.header2 (f.header1 % 2 ^ 6) = true :=
    (check_Parity_congr (get_Bit_mod (by decide) _) (get_Bit_mod (by decide) _)).trans f.check_header2
  rw [is_Valid, get_Header1, get_Header2, hheader, hm, hm1, List.getD_cons_zero, List.getD_cons_succ, List.getD_cons_zero,
    hfirst, hcheck1, hcheck2, decide_eq_true rfl, Bool.and_true, Bool.and_true, Bool.and_true, Bool.and_true]

theorem is_Valid_withHeader (m : RTCM2Message) (f : Frame) (bytes : ByteStream) (data : List Nat)
    (h29 : get_Bit 29 p = get_Bit 29 f.previous) (h30 : get_Bit 30 p = get_Bit 30 f.previous) :
    (m.withHeader f.headerBits bytes data p).is_Valid = m.valid := by
  have hprimer : (m.withHeader f.headerBits bytes data p).primerWord = p := rfl
  have hvalid : (m.withHeader f.headerBits bytes data p).valid = m.valid := by rw [withHeader]
  rw [← hprimer] at h29 h30
  rw [is_Valid_of_values (values_withHeader m f.headerBits bytes data p) h29 h30, hvalid]

/-- The words of the frame as they are sent, header and data. -/
theorem bytes_split (f : Frame) :
    f.bytes = [complementIf (get_Bit 30 f.previous) f.header1, complementIf (get_Bit 30 f.header1) f.header2].flatMap
        datamgr.writeWord ++ (sentWords f.header2 f.words).flatMap datamgr.writeWord := by
  rw [bytes_eq, ← List.flatMap_append]
  rfl

theorem loadData_header (f : Frame) (after : ByteStream) :
    datamgr.loadData (f.bytes ++ after) 2 [] =
      [complementIf (get_Bit 30 f.previous) f.header1, complementIf (get_Bit 30 f.header1) f.header2] := by
  rw [bytes_split, List.append_assoc]
  refine RtcmDataManager.loadData_flatMap reads_datamgr [_, _] ?_ _ []
  exact List.forall_mem_cons.2 ⟨complementIf_lt _ f.header1_lt,
    List.forall_mem_cons.2 ⟨complementIf_lt _ f.header2_lt, nofun⟩⟩

theorem assignData_header (f : Frame) :
    datamgr.assignData attrs [f.header1, f.header2] = some (unpack attrs f.headerBits, []) := by
  have hmod : [f.header1, f.header2].map (· % 2 ^ rtcm_word) = [f.header1, f.header2] := by
    rw [List.map_cons, List.map_cons, List.map_nil, Nat.mod_eq_of_lt f.header1_lt, Nat.mod_eq_of_lt f.header2_lt]
  have hcount : datamgr.countWords attrs ≤ [f.header1, f.header2].length := Nat.le_refl 2
  rw [RtcmDataManager.assignData_eq hcount]
  show some (unpack attrs (pack (List.replicate 2 rtcm_word) ([f.header1, f.header2].map (· % 2 ^ rtcm_word))), _) = _
  rw [hmod, Frame.headerBits]
  rfl

theorem length_data (f : Frame) :
    ((sentWords f.header2 f.words).flatMap datamgr.writeWord).length = datamgr.wordSize * f.words.length := by
  rw [RtcmDataManager.length_flatMap_writeWord, length_sentWords, Nat.mul_comm]

theorem length_header (f : Frame) :
    ([complementIf (get_Bit 30 f.previous) f.header1, complementIf (get_Bit 30 f.header1) f.header2].flatMap
      datamgr.writeWord).length = 10 := by
  rw [RtcmDataManager.length_flatMap_writeWord]
  rfl

/-- Where the search goes on, the preamble is erased. -/
theorem searchRound_retry {m' : RTCM2Message} (h : m.searchRound = (m', .retry)) : m'.bytes.length < m.bytes.length := by
  have hsuffix : (m.bytes.dropWhile fun b => b ≠ defaultPreamble ∧ b ≠ complPreamble).length ≤ m.bytes.length :=
    (List.dropWhile_suffix _).length_le
  have hwordSize : 2 * datamgr.wordSize = 10 := rfl
  unfold searchRound at h
  dsimp only at h
  split_ifs at h with hlength
  · cases h
  · split at h
    · split_ifs at h with hfound
      · cases h
      · obtain ⟨rfl, -⟩ := Prod.mk.inj h
        rw [hwordSize] at hlength
        dsimp only
        rw [List.length_drop]
        omega
    · cases h

/-- The search ends, for each round of it erases a byte. -/
theorem search_terminates {fuel : Nat} (hfuel : m.bytes.length < fuel) :
    ∃ m', ∀ fuel', m.bytes.length < fuel' → search fuel' m = some m' := by
  induction fuel generalizing m with
  | zero => exact absurd hfuel (Nat.not_lt_zero _)
  | succ fuel ih =>
    obtain ⟨m₁, round, hround⟩ : ∃ m₁ round, m.searchRound = (m₁, round) := ⟨_, _, rfl⟩
    cases round with
    | stop =>
      refine ⟨m₁.invalidate, fun fuel' hfuel' => ?_⟩
      obtain ⟨fuel', rfl⟩ := Nat.exists_eq_succ_of_ne_zero (Nat.ne_of_gt (Nat.zero_lt_of_lt hfuel'))
      rw [search, hround]
    | found =>
      refine ⟨m₁.loadRest, fun fuel' hfuel' => ?_⟩
      obtain ⟨fuel', rfl⟩ := Nat.exists_eq_succ_of_ne_zero (Nat.ne_of_gt (Nat.zero_lt_of_lt hfuel'))
      rw [search, hround]
    | retry =>
      have hlength := searchRound_retry hround
      obtain ⟨m', hm'⟩ := ih (Nat.lt_of_lt_of_le hlength (Nat.lt_succ_iff.1 hfuel))
      refine ⟨m', fun fuel' hfuel' => ?_⟩
      obtain ⟨fuel', rfl⟩ := Nat.exists_eq_succ_of_ne_zero (Nat.ne_of_gt (Nat.zero_lt_of_lt hfuel'))
      rw [search, hround]
      exact hm' fuel' (Nat.lt_of_lt_of_le hlength (Nat.lt_succ_iff.1 hfuel'))

theorem set_contents_terminates (bytes : ByteStream) :
    ∃ m', ∀ fuel, bytes.length < fuel → ({} : RTCM2Message).set_contents fuel bytes = some m' :=
  @search_terminates { bytes := bytes } _ (Nat.lt_succ_self _)

theorem searchRound_frame {after : ByteStream} (hvalid : m.valid = true) (hdata : m.data = [])
    (hbytes : m.bytes = f.bytes ++ after) (hfollows : m.Follows f) :
    ∃ p, m.searchRound = (m.withHeader f.headerBits (f.bytes ++ after) [] p, .found) ∧
      get_Bit 29 p = get_Bit 29 f.previous ∧ get_Bit 30 p = get_Bit 30 f.previous := by
  obtain ⟨p, hprimer, h29, h30⟩ := readPrimer_sent hfollows [complementIf (get_Bit 30 f.header1) f.header2]
  refine ⟨p, ?_, h29, h30⟩
  have hsize : ¬ 2 * datamgr.wordSize > (f.bytes ++ after).length := by
    have hwordSize : 2 * datamgr.wordSize = 10 := rfl
    rw [bytes_split, List.length_append, List.length_append, length_header, hwordSize]
    omega
  have hsecond : [f.header1, complementIf (get_Bit 30 f.header1) f.header2].set 1
      (complementIf (get_Bit 30 f.header1) (complementIf (get_Bit 30 f.header1) f.header2)) = [f.header1, f.header2] := by
    rw [complementIf_complementIf (get_Bit 30 f.header1) f.header2, List.set_cons_succ, List.set_cons_zero]
  have hfound : (m.withHeader f.headerBits (f.bytes ++ after) [] p).is_Valid = true :=
    (is_Valid_withHeader m f _ _ h29 h30).trans hvalid
  unfold searchRound
  rw [hbytes, dropWhile_preamble]
  dsimp only
  rw [if_neg hsize, hdata, loadData_header, hprimer]
  dsimp only
  rw [List.getD_cons_zero, List.getD_cons_succ, List.getD_cons_zero, hsecond, assignData_header, unpack_attrs]
  generalize f.headerBits = bits at hfound ⊢
  exact if_pos hfound

/-- The message with all of the frame. -/
def decoded (m : RTCM2Message) (f : Frame) (after : ByteStream) (primerWord : Nat) : RTCM2Message :=
  m.withHeader f.headerBits ((sentWords f.header2 f.words).flatMap datamgr.writeWord ++ after) f.words primerWord

theorem loadRest_found (f : Frame) (after : ByteStream) (p : Nat) :
    (m.withHeader f.headerBits (f.bytes ++ after) [] p).loadRest = m.decoded f after p := by
  obtain ⟨-, -, hlength, hparity⟩ := header_fields f
  have hdrop : (f.bytes ++ after).drop (datamgr.wordSize * datamgr.countWords attrs) =
      (sentWords f.header2 f.words).flatMap datamgr.writeWord ++ after := by
    rw [bytes_split, List.append_assoc]
    exact List.drop_left' (length_header f)
  have hload : datamgr.loadData ((sentWords f.header2 f.words).flatMap datamgr.writeWord ++ after) f.words.length [] =
      sentWords f.header2 f.words := by
    have h := RtcmDataManager.loadData_flatMap reads_datamgr _ (sentWords_lt f.words_lt f.header2) after []
    rwa [length_sentWords, List.nil_append] at h
  have henough : ¬ ((sentWords f.header2 f.words).flatMap datamgr.writeWord ++ after).length <
      datamgr.wordSize * f.words.length := by
    rw [List.length_append, length_data]
    exact Nat.not_lt.2 (Nat.le_add_right ..)
  have hplain : plainWords (f.header2 % 2 ^ 6) (sentWords f.header2 f.words) = f.words :=
    plainWords_sentWords (get_Bit_mod (by decide) _) f.words
  have htake : (sentWords f.header2 f.words).take f.words.length = sentWords f.header2 f.words :=
    List.take_of_length_le (length_sentWords _ _).le
  have hrest : (sentWords f.header2 f.words).drop f.words.length = [] :=
    List.drop_of_length_le (length_sentWords _ _).le
  have hwords : (m.withHeader f.headerBits (f.bytes ++ after) [] p).numberDataWords = f.words.length := hlength
  have hlast : (m.withHeader f.headerBits (f.bytes ++ after) [] p).parity2 = f.header2 % 2 ^ 6 := hparity
  have hbytes : (m.withHeader f.headerBits (f.bytes ++ after) [] p).bytes = f.bytes ++ after := rfl
  have hdata : (m.withHeader f.headerBits (f.bytes ++ after) [] p).data = [] := rfl
  unfold loadRest
  rw [hbytes, hdata, hwords, hlast, hdrop]
  dsimp only
  rw [if_neg henough, hload, htake, hrest, hplain, List.append_nil, ← hwords, ← hlast]
  exact withHeader_update ..

theorem set_contents_frame (hvalid : m.valid = true) (hdata : m.data = []) (hfollows : m.Follows f) (fuel : Nat)
    (after : ByteStream) :
    ∃ p, m.set_contents (fuel + 1) (f.bytes ++ after) = some (m.decoded f after p) ∧
      get_Bit 29 p = get_Bit 29 f.previous ∧ get_Bit 30 p = get_Bit 30 f.previous := by
  obtain ⟨p, hround, hbits⟩ := searchRound_frame (m := { m with bytes := f.bytes ++ after }) hvalid hdata rfl hfollows
  refine ⟨p, ?_, hbits⟩
  rw [set_contents, search, hround]
  exact congrArg some (loadRest_found f after p)

/-! ### The contents of a message -/

theorem get_contents_decoded (f : Frame) (after : ByteStream) (h30 : get_Bit 30 p = get_Bit 30 f.previous) :
    (m.decoded f after p).get_contents = f.bytes := by
  have hheader : (m.decoded f after p).get_Rtcm2Header = [f.header1, f.header2] := get_Rtcm2Header_eq (values_withHeader ..)
  have hwritten : (m.decoded f after p).get_contents =
      (writtenWords p (f.header1 :: f.header2 :: f.words)).flatMap datamgr.writeWord := by
    have hprimer : (m.decoded f after p).primerWord = p := rfl
    have hdata : (m.decoded f after p).data = f.words := rfl
    rw [get_contents, get_Header1, get_Header2, hheader, hprimer, hdata, writtenWords, writtenWords, List.flatMap_cons,
      List.flatMap_cons, ← List.append_assoc, List.getD_cons_zero, List.getD_cons_succ, List.getD_cons_zero]
  rw [hwritten, writtenWords_eq h30, bytes_eq]

/-- Each word of a decoded frame has the right parity behind the one before. -/
theorem check_Parity_decoded (f : Frame) (after : ByteStream) (h29 : get_Bit 29 p = get_Bit 29 f.previous)
    (h30 : get_Bit 30 p = get_Bit 30 f.previous) :
    List.IsChain (fun prev word => check_Parity word prev = true)
      (p :: f.header1 :: f.header2 :: (m.decoded f after p).data) := by
  have hwords : ∀ word ∈ f.header1 :: f.header2 :: f.words, word < 2 ^ rtcm_word :=
    List.forall_mem_cons.2 ⟨f.header1_lt, List.forall_mem_cons.2 ⟨f.header2_lt, f.words_lt⟩⟩
  have hchain : List.IsChain (fun prev word => check_Parity word prev = true)
      (f.previous :: f.header1 :: f.header2 :: f.words) :=
    f.parity.imp_of_mem_tail_imp fun prev word _ hmem hholds => (check_Parity_iff (hwords word hmem)).2 hholds
  obtain ⟨hfirst, hrest⟩ := List.isChain_cons_cons.1 hchain
  exact List.isChain_cons_cons.2 ⟨(check_Parity_congr h29 h30).trans hfirst, hrest⟩

/-- The message decodes the frame to its words, each with the right parity, and writes its bytes again. -/
def Reproduces (m : RTCM2Message) (f : Frame) : Prop :=
  ∀ (after : ByteStream) (fuel : Nat), ∃ m', m.set_contents (fuel + 1) (f.bytes ++ after) = some m' ∧
    m'.is_Valid = true ∧ m'.get_contents = f.bytes ∧ m'.get_Header1 = f.header1 ∧ m'.get_Header2 = f.header2 ∧
    m'.data = f.words ∧ List.IsChain (fun prev word => check_Parity word prev = true)
      (m'.primerWord :: m'.get_Header1 :: m'.get_Header2 :: m'.data)

theorem reproduces_of_follows (hvalid : m.valid = true) (hdata : m.data = []) (hfollows : m.Follows f) :
    m.Reproduces f := by
  intro after fuel
  obtain ⟨p, hset, h29, h30⟩ := set_contents_frame hvalid hdata hfollows fuel after
  have hheader : (m.decoded f after p).get_Rtcm2Header = [f.header1, f.header2] := get_Rtcm2Header_eq (values_withHeader ..)
  have hfirst : (m.decoded f after p).get_Header1 = f.header1 := by rw [get_Header1, hheader, List.getD_cons_zero]
  have hsecond : (m.decoded f after p).get_Header2 = f.header2 := by
    rw [get_Header2, hheader, List.getD_cons_succ, List.getD_cons_zero]
  refine ⟨_, hset, (is_Valid_withHeader m f _ _ h29 h30).trans hvalid, get_contents_decoded f after h30, hfirst, hsecond,
    rfl, ?_⟩
  rw [hfirst, hsecond]
  exact check_Parity_decoded f after h29 h30

/-- A frame is reproduced by a new message, which finds out the last bits of the word before, and by one that knows
that word. -/
theorem rtcm2_roundTrip (f : Frame) :
    ({} : RTCM2Message).Reproduces f ∧ ({ primerWord := f.previous } : RTCM2Message).Reproduces f := by
  constructor
  · exact reproduces_of_follows rfl rfl (.inl rfl)
  · exact reproduces_of_follows rfl rfl (.inr ⟨rfl, rfl⟩)

end RTCM2Message

end V2xHub.Rtcm
