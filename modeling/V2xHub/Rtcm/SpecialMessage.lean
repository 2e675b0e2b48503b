import V2xHub.Rtcm.EncodedMessage

/-!
# The text of a special message (`RTCM2.h`)

`assignMessage` puts three characters into a word through signed shifts, so that the sign of a character is set in those before
it, and puts the number of words into the header without a test, where more than 31 words run over into the fields above.
-/

namespace V2xHub.Rtcm

open BitPack

namespace RTCM2Message

/-! ### Writing -/

/-- A signed character, shifted as an `int`. -/
def shifted (c : UInt8) (n : Nat) : BitVec 32 := c.toBitVec.signExtend 32 <<< n

def textWord (a b c : UInt8) : Nat := (shifted a 22 ||| shifted b 14 ||| shifted c 6).toNat

/-- The words with their parity behind a previous word. Where characters are missing, nothing is set. -/
def textWords (prevWord : Nat) : ByteStream → List Nat
  | [] => []
  | [a] => [add_Parity (textWord a 0 0) prevWord]
  | [a, b] => [add_Parity (textWord a b 0) prevWord]
  | a :: b :: c :: message =>
    let w := add_Parity (textWord a b c) prevWord
    w :: textWords w message

def Validate (m : RTCM2Message) : RTCM2Message :=
  let m := { m with parity1 := add_Parity m.get_Header1 0 &&& bitmask 6 }
  { m with parity2 := add_Parity m.get_Header2 m.parity1 &&& bitmask 6 }

/-- The number of words for a text. -/
def numberOfWords (message : ByteStream) : Nat := message.length / 3 + if message.length % 3 = 0 then 0 else 1

def assignMessage (m : RTCM2Message) (message : ByteStream) : RTCM2Message :=
  let m := { m with data := [], numberDataWords := numberOfWords message % 2 ^ 16 }.Validate
  { m with data := textWords m.get_Header2 message }

/-! ### What is expected -/

/-- A message of this type, whose attributes are in their ranges. -/
structure HeaderFits (m : RTCM2Message) : Prop where
  preamble : m.preamble = defaultPreamble.toNat
  frameID : m.frameID = GPSSpecialMessage
  stationID : m.stationID < 2 ^ 10
  modifiedZCount : m.modifiedZCount < 2 ^ 13
  sequenceNumber : m.sequenceNumber < 2 ^ 3
  stationHealth : m.stationHealth < 2 ^ 3
  parity1 : m.parity1 < 2 ^ 6
  parity2 : m.parity2 < 2 ^ 6

/-- A new message gets the text, as far as 31 words go, the number of its words, and the other attributes. -/
def Carried (m : RTCM2Message) (message : ByteStream) : Prop :=
  ∃ fuel m', ({ frameID := GPSSpecialMessage } : RTCM2Message).set_contents fuel (m.assignMessage message).get_contents = some m' ∧
    m'.is_Valid = true ∧ specialText m'.parity2 m'.data = some (message.take 93) ∧
    m'.numberDataWords = min (numberOfWords message) 31 ∧ m'.frameID = m.frameID ∧ m'.stationID = m.stationID ∧
    m'.modifiedZCount = m.modifiedZCount ∧ m'.sequenceNumber = m.sequenceNumber ∧ m'.stationHealth = m.stationHealth

/-! ### Parity -/

variable {m : RTCM2Message} {word word' prevWord p q : Nat} {message : ByteStream}

theorem xor_bits_congr {ns : List Nat} (hns : ∀ n ∈ ns, 1 ≤ n ∧ n ≤ 24) (h : word % 2 ^ 30 / 2 ^ 6 = word' % 2 ^ 30 / 2 ^ 6) :
    xor_bits ns word = xor_bits ns word' := by
  induction ns with
  | nil => rfl
  | cons n ns ih =>
    obtain ⟨hn, hns⟩ := List.forall_mem_cons.1 hns
    have hbit (w : Nat) : get_Bit n w = (w % 2 ^ 30 / 2 ^ 6).testBit (24 - n) := by
      have hsum : 24 - n + 6 = 30 - n := by omega
      rw [get_Bit, Nat.testBit_div_two_pow, hsum, Nat.testBit_mod_two_pow, decide_eq_true (by omega), Bool.true_and]
      rfl
    rw [xor_bits, xor_bits, ih hns, hbit, hbit, h]

/-- The parity is of the data of a word, and of the last two bits of the word before. -/
theorem add_Parity_congr (h : word % 2 ^ 30 / 2 ^ 6 = word' % 2 ^ 30 / 2 ^ 6) (h29 : get_Bit 29 p = get_Bit 29 q)
    (h30 : get_Bit 30 p = get_Bit 30 q) : add_Parity word p = add_Parity word' q := by
  have hbits : parityBits word p = parityBits word' q := by
    refine List.map_congr_left fun t ht => ?_
    have hprev : get_Bit t.1 p = get_Bit t.1 q := by
      have hlast : ∀ t ∈ parityTaps, t.1 = 29 ∨ t.1 = 30 := by decide
      rcases hlast t ht with h | h
      · rw [h, h29]
      · rw [h, h30]
    have hdata : ∀ t ∈ parityTaps, ∀ n ∈ t.2, 1 ≤ n ∧ n ≤ 24 := by decide
    rw [hprev, xor_bits_congr (hdata t ht) h]
  rw [add_Parity, add_Parity, hbits]
  exact congrArg (· * 2 ^ 6 + _) h

theorem add_Parity_data (word prevWord : Nat) : add_Parity word prevWord % 2 ^ 30 / 2 ^ 6 = word % 2 ^ 30 / 2 ^ 6 ∧
    add_Parity word prevWord < 2 ^ 30 := by
  have hlt : pack (List.replicate 6 1) ((parityBits word prevWord).map Bool.toNat) < 2 ^ 6 :=
    pack_lt (fits_parity (parityBits word prevWord))
  rw [add_Parity, rtcm_word]
  omega

theorem check_Parity_add_Parity (h29 : get_Bit 29 p = get_Bit 29 q) (h30 : get_Bit 30 p = get_Bit 30 q) :
    check_Parity (add_Parity word p) q = true := by
  rw [check_Parity, decide_eq_true_iff]
  exact add_Parity_congr (add_Parity_data word p).1.symm h29 h30

/-! ### Characters -/

/-- What the sign of a character sets in one before it. -/
def fill (c : UInt8) : BitVec 8 := if c.toBitVec.msb then BitVec.allOnes 8 else 0

theorem getLsbD_fill (c : UInt8) {i : Nat} (hi : i < 8) : (fill c).getLsbD i = c.toBitVec.msb := by
  unfold fill
  split_ifs with h
  · rw [BitVec.getLsbD_allOnes, decide_eq_true hi, h]
  · exact (BitVec.getLsbD_zero).trans (Bool.eq_false_iff.2 h).symm

theorem getLsbD_shifted (c : UInt8) {n i : Nat} (hn : n ≤ i) (hi : i < 32) :
    (shifted c n).getLsbD i = if i - n < 8 then c.toBitVec.getLsbD (i - n) else c.toBitVec.msb := by
  rw [shifted, BitVec.getLsbD_shiftLeft, decide_eq_true hi, decide_eq_false (Nat.not_lt.2 hn), BitVec.getLsbD_signExtend,
    decide_eq_true (by omega)]
  rfl

theorem getLsbD_shifted_low (c : UInt8) {n i : Nat} (hn : i < n) : (shifted c n).getLsbD i = false := by
  rw [shifted, BitVec.getLsbD_shiftLeft, decide_eq_true hn, Bool.not_true, Bool.and_false, Bool.false_and]

/-- The character at a place of a word, where 16, 8 and 0 are those of the first, the second and the third one. -/
def charAt (word place : Nat) : UInt8 := UInt8.ofNat (word >>> 6 >>> place)

theorem getLsbD_charAt (word prevWord : Nat) {place i : Nat} (hplace : place ≤ 16) (hi : i < 8) :
    (charAt (add_Parity word prevWord) place).toBitVec.getLsbD i = word.testBit (place + 6 + i) := by
  have hdata := congrArg (Nat.testBit · (place + i)) (add_Parity_data word prevWord).1
  have hsum : place + i + 6 = place + 6 + i := by omega
  have hlt : place + 6 + i < 30 := by omega
  simp only [Nat.testBit_div_two_pow, Nat.testBit_mod_two_pow, hsum, decide_eq_true hlt, Bool.true_and] at hdata
  have hbits : (charAt (add_Parity word prevWord) place).toBitVec = BitVec.ofNat 8 (add_Parity word prevWord >>> 6 >>> place) := rfl
  rw [hbits, BitVec.getLsbD_ofNat, decide_eq_true hi, Bool.true_and, Nat.testBit_shiftRight, Nat.testBit_shiftRight, ← hdata]
  congr 1
  omega

theorem charAt_first (a b c : UInt8) (prevWord : Nat) :
    (charAt (add_Parity (textWord a b c) prevWord) 16).toBitVec = a.toBitVec ||| fill b ||| fill c := by
  apply BitVec.eq_of_getLsbD_eq
  intro i hi
  have hword : (textWord a b c).testBit (16 + 6 + i) = (shifted a 22 ||| shifted b 14 ||| shifted c 6).getLsbD (22 + i) := rfl
  rw [getLsbD_charAt _ _ (by decide) hi, hword, BitVec.getLsbD_or, BitVec.getLsbD_or, getLsbD_shifted a (by omega) (by omega),
    getLsbD_shifted b (by omega) (by omega), getLsbD_shifted c (by omega) (by omega), Nat.add_sub_cancel_left, if_pos hi,
    if_neg (by omega), if_neg (by omega), BitVec.getLsbD_or, BitVec.getLsbD_or, getLsbD_fill b hi, getLsbD_fill c hi]

theorem charAt_second (a b c : UInt8) (prevWord : Nat) :
    (charAt (add_Parity (textWord a b c) prevWord) 8).toBitVec = b.toBitVec ||| fill c := by
  apply BitVec.eq_of_getLsbD_eq
  intro i hi
  have hword : (textWord a b c).testBit (8 + 6 + i) = (shifted a 22 ||| shifted b 14 ||| shifted c 6).getLsbD (14 + i) := rfl
  rw [getLsbD_charAt _ _ (by decide) hi, hword, BitVec.getLsbD_or, BitVec.getLsbD_or, getLsbD_shifted_low a (by omega),
    getLsbD_shifted b (by omega) (by omega), getLsbD_shifted c (by omega) (by omega), Nat.add_sub_cancel_left, if_pos hi,
    if_neg (by omega), BitVec.getLsbD_or, getLsbD_fill c hi, Bool.false_or]

theorem charAt_third (a b c : UInt8) (prevWord : Nat) :
    (charAt (add_Parity (textWord a b c) prevWord) 0).toBitVec = c.toBitVec := by
  apply BitVec.eq_of_getLsbD_eq
  intro i hi
  have hword : (textWord a b c).testBit (0 + 6 + i) = (shifted a 22 ||| shifted b 14 ||| shifted c 6).getLsbD (6 + i) := by
    rw [Nat.zero_add]
    rfl
  rw [getLsbD_charAt _ _ (by decide) hi, hword, BitVec.getLsbD_or, BitVec.getLsbD_or, getLsbD_shifted_low a (by omega),
    getLsbD_shifted_low b (by omega), getLsbD_shifted c (by omega) (by omega), Nat.add_sub_cancel_left, if_pos hi, Bool.false_or,
    Bool.false_or]

theorem fill_eq (c : UInt8) : fill c = if 128 ≤ c then BitVec.allOnes 8 else 0 := by
  have hsign : c.toBitVec.msb = true ↔ 128 ≤ c := by
    rw [BitVec.msb_eq_decide, decide_eq_true_iff, UInt8.le_iff_toNat_le]
    rfl
  exact if_congr hsign rfl rfl

/-- A set sign of `c` sets all bits, which `a` then must have. -/
theorem or_fill_eq_iff (a : BitVec 8) (c : UInt8) : a ||| fill c = a ↔ (128 ≤ c → a = BitVec.allOnes 8) := by
  rw [fill_eq]
  split_ifs with h
  · rw [BitVec.or_allOnes]
    exact ⟨fun heq _ => heq.symm, fun heq => (heq h).symm⟩
  · exact iff_of_true BitVec.or_zero fun heq => absurd heq h

/-- No sign of a character is set in one before it in the word. -/
def SignsKept (a b c : UInt8) : Prop := (128 ≤ b → a = 255) ∧ (128 ≤ c → a = 255 ∧ b = 255)

theorem charAt_eq_iff (a b c : UInt8) (prevWord : Nat) :
    (charAt (add_Parity (textWord a b c) prevWord) 16 = a ∧ charAt (add_Parity (textWord a b c) prevWord) 8 = b ∧
      charAt (add_Parity (textWord a b c) prevWord) 0 = c) ↔ SignsKept a b c := by
  have hall (x : UInt8) : x = 255 ↔ x.toBitVec = BitVec.allOnes 8 := UInt8.toBitVec_inj.symm
  rw [← UInt8.toBitVec_inj, ← UInt8.toBitVec_inj, ← UInt8.toBitVec_inj (b := c), charAt_first, charAt_second, charAt_third,
    or_fill_eq_iff,
    SignsKept, hall, hall, eq_self_iff_true, and_true]
  by_cases hc : 128 ≤ c
  · rw [fill_eq c, if_pos hc, BitVec.or_allOnes]
    constructor
    · rintro ⟨ha, hb⟩
      exact ⟨fun _ => ha.symm, fun _ => ⟨ha.symm, hb hc⟩⟩
    · rintro ⟨-, h⟩
      exact ⟨(h hc).1.symm, fun _ => (h hc).2⟩
  · have hfill : a.toBitVec ||| fill b ||| fill c = a.toBitVec ||| fill b := by
      rw [fill_eq c, if_neg hc]
      exact BitVec.or_zero
    rw [hfill, or_fill_eq_iff]
    exact and_congr_right fun _ => iff_of_true (fun h => absurd h hc) fun h => absurd h hc

/-- The signs of a text, word by word. -/
def Plain : ByteStream → Prop
  | [] => True
  | [_] => True
  | [a, b] => SignsKept a b 0
  | a :: b :: c :: message => SignsKept a b c ∧ Plain message

theorem length_textWords (prevWord : Nat) (message : ByteStream) : (textWords prevWord message).length = numberOfWords message := by
  induction prevWord, message using textWords.induct with
  | case1 prevWord =>
    rw [textWords]
    rfl
  | case2 prevWord a =>
    rw [textWords]
    simp [numberOfWords]
  | case3 prevWord a b =>
    rw [textWords]
    simp [numberOfWords]
  | case4 prevWord a b c message w ih =>
    have hlength : (a :: b :: c :: message).length = message.length + 3 := rfl
    rw [textWords, List.length_cons, ih, numberOfWords, numberOfWords, hlength, Nat.add_mod_right, Nat.add_div_right _ (by decide)]
    omega

/-- The words of the first characters are the first words. -/
theorem take_textWords (prevWord n : Nat) (message : ByteStream) :
    (textWords prevWord message).take n = textWords prevWord (message.take (3 * n)) := by
  have hshort {l : ByteStream} {k : Nat} (hl : l.length ≤ 3) : l.take (3 * (k + 1)) = l := List.take_of_length_le (by omega)
  induction prevWord, message using textWords.induct generalizing n with
  | case1 prevWord => rw [textWords, List.take_nil, List.take_nil, textWords]
  | case2 prevWord a =>
    cases n with
    | zero => rw [Nat.mul_zero, List.take_zero, List.take_zero, textWords]
    | succ n => rw [hshort (Nat.le_of_ble_eq_true rfl : [a].length ≤ 3), textWords, List.take_succ_cons, List.take_nil]
  | case3 prevWord a b =>
    cases n with
    | zero => rw [Nat.mul_zero, List.take_zero, List.take_zero, textWords]
    | succ n => rw [hshort (Nat.le_of_ble_eq_true rfl : [a, b].length ≤ 3), textWords, List.take_succ_cons, List.take_nil]
  | case4 prevWord a b c message w ih =>
    cases n with
    | zero => rw [Nat.mul_zero, List.take_zero, List.take_zero, textWords]
    | succ n =>
      have hlength : 3 * (n + 1) = 3 * n + 1 + 1 + 1 := by omega
      rw [textWords, List.take_succ_cons, ih, hlength, List.take_succ_cons, List.take_succ_cons, List.take_succ_cons, textWords]

/-- Every word has its parity behind the one before. -/
theorem isChain_textWords (prevWord : Nat) (message : ByteStream) :
    List.IsChain (fun prev word => check_Parity word prev = true) (prevWord :: textWords prevWord message) := by
  have hcheck (word prev : Nat) : check_Parity (add_Parity word prev) prev = true := check_Parity_add_Parity rfl rfl
  induction prevWord, message using textWords.induct with
  | case1 prevWord =>
    rw [textWords]
    exact List.isChain_singleton _
  | case2 prevWord a =>
    rw [textWords]
    exact List.isChain_cons_cons.2 ⟨hcheck _ _, List.isChain_singleton _⟩
  | case3 prevWord a b =>
    rw [textWords]
    exact List.isChain_cons_cons.2 ⟨hcheck _ _, List.isChain_singleton _⟩
  | case4 prevWord a b c message w ih =>
    rw [textWords]
    exact List.isChain_cons_cons.2 ⟨hcheck _ _, ih⟩

theorem textWords_lt {prevWord : Nat} {message : ByteStream} : ∀ word ∈ textWords prevWord message, word < 2 ^ rtcm_word := by
  have hlt (word prev : Nat) : add_Parity word prev < 2 ^ rtcm_word := (add_Parity_data word prev).2
  induction prevWord, message using textWords.induct with
  | case1 prevWord =>
    rw [textWords]
    exact fun word hword => absurd hword List.not_mem_nil
  | case2 prevWord a =>
    rw [textWords]
    exact List.forall_mem_singleton.2 (hlt _ _)
  | case3 prevWord a b =>
    rw [textWords]
    exact List.forall_mem_singleton.2 (hlt _ _)
  | case4 prevWord a b c message w ih =>
    rw [textWords]
    exact List.forall_mem_cons.2 ⟨hlt _ _, ih⟩

theorem specialText_cons {words : List Nat} (hcheck : check_Parity word prevWord = true) : specialText prevWord (word :: words) =
    (specialText word words).map (charAt word 16 :: [charAt word 8, charAt word 0].filter (· ≠ 0) ++ ·) := by
  rw [specialText, if_pos hcheck]
  rfl

theorem charAt_third_eq (a b c : UInt8) (prevWord : Nat) : charAt (add_Parity (textWord a b c) prevWord) 0 = c :=
  UInt8.toBitVec_inj.1 (charAt_third a b c prevWord)

/-- A sign never clears a character. -/
theorem charAt_second_ne_zero {b : UInt8} (hb : b ≠ 0) (a c : UInt8) (prevWord : Nat) :
    charAt (add_Parity (textWord a b c) prevWord) 8 ≠ 0 := by
  intro h
  have hzero := charAt_second a b c prevWord
  rw [h] at hzero
  have hor : b.toBitVec = 0 := (BitVec.or_eq_zero_iff.1 hzero.symm).1
  exact hb (UInt8.toBitVec_inj.1 hor)

theorem signsKept_zero (a : UInt8) : SignsKept a 0 0 := ⟨fun h => absurd h (by decide), fun h => absurd h (by decide)⟩

/-- The text of the words is the text iff no sign is set where it is not. -/
theorem specialText_textWords_iff (hnul : 0 ∉ message) (prevWord : Nat) :
    specialText prevWord (textWords prevWord message) = some message ↔ Plain message := by
  have hcheck (word prev : Nat) : check_Parity (add_Parity word prev) prev = true := check_Parity_add_Parity rfl rfl
  induction prevWord, message using textWords.induct with
  | case1 prevWord =>
    rw [textWords]
    exact iff_of_true rfl trivial
  | case2 prevWord a =>
    obtain ⟨hfirst, hsecond, hthird⟩ := (charAt_eq_iff a 0 0 prevWord).2 (signsKept_zero a)
    rw [textWords, specialText_cons (hcheck _ _), hfirst, hsecond, hthird]
    exact iff_of_true rfl trivial
  | case3 prevWord a b =>
    have hb : b ≠ 0 := fun h => hnul (h ▸ List.mem_cons_of_mem a List.mem_cons_self)
    have hthird := charAt_third_eq a b 0 prevWord
    have hsecond := charAt_second_ne_zero hb a 0 prevWord
    rw [textWords, specialText_cons (hcheck _ _), Plain, ← charAt_eq_iff a b 0 prevWord, hthird,
      List.filter_cons_of_pos (by simpa using hsecond),
      List.filter_cons_of_neg (by decide)]
    simp [specialText]
  | case4 prevWord a b c message w ih =>
    have hb : b ≠ 0 := fun h => hnul (h ▸ List.mem_cons_of_mem a List.mem_cons_self)
    have hc : c ≠ 0 := fun h => hnul (h ▸ List.mem_cons_of_mem a (List.mem_cons_of_mem b List.mem_cons_self))
    have hmessage : 0 ∉ message := fun h =>
      hnul (List.mem_cons_of_mem a (List.mem_cons_of_mem b (List.mem_cons_of_mem c h)))
    have hthird := charAt_third_eq a b c prevWord
    have hsecond := charAt_second_ne_zero hb a c prevWord
    have hmore : specialText w (textWords w message) = some message ↔ Plain message := ih hmessage
    rw [textWords, specialText_cons (hcheck _ _), Plain, ← charAt_eq_iff a b c prevWord, ← hmore, hthird,
      List.filter_cons_of_pos (by simpa using hsecond), List.filter_cons_of_pos (by simpa using hc), List.filter_nil,
        Option.map_eq_some_iff]
    constructor
    · rintro ⟨text, htext, heq⟩
      obtain ⟨hfirst, hrest⟩ := List.cons.inj heq
      obtain ⟨hsecond, hrest⟩ := List.cons.inj hrest
      exact ⟨⟨hfirst, hsecond, rfl⟩, htext.trans (congrArg some (List.cons.inj hrest).2)⟩
    · rintro ⟨⟨hfirst, hsecond, -⟩, htext⟩
      refine ⟨message, htext, ?_⟩
      rw [hfirst, hsecond]
      rfl

/-! ### The header -/

/-- The attributes above the number of words, with what runs over. -/
def runOver (m : RTCM2Message) (numWords : Nat) : Nat × Nat :=
  (m.modifiedZCount ||| numWords / 256, m.sequenceNumber ||| numWords / 32 % 8)

def firstWord (m : RTCM2Message) : Nat := defaultPreamble.toNat * 2 ^ 22 + GPSSpecialMessage * 2 ^ 16 + m.stationID * 2 ^ 6

def secondWord (m : RTCM2Message) (numWords : Nat) : Nat :=
  (m.runOver numWords).1 * 2 ^ 17 + (m.runOver numWords).2 * 2 ^ 14 + numWords % 32 * 2 ^ 9 + m.stationHealth * 2 ^ 6

/-- The values of the header, each in its range. -/
def fittedValues (m : RTCM2Message) : List Nat :=
  [defaultPreamble.toNat, GPSSpecialMessage, m.stationID, m.parity1, (m.runOver m.numberDataWords).1, (m.runOver m.numberDataWords).2,
    m.numberDataWords % 32, m.stationHealth, m.parity2]

theorem runOver_lt (h : m.HeaderFits) {numWords : Nat} (hwords : numWords < 2 ^ 16) :
    (m.runOver numWords).1 < 2 ^ 13 ∧ (m.runOver numWords).2 < 2 ^ 3 :=
  ⟨Nat.or_lt_two_pow h.modifiedZCount (by omega), Nat.or_lt_two_pow h.sequenceNumber (by omega)⟩

theorem fits_fittedValues (h : m.HeaderFits) (hwords : m.numberDataWords < 2 ^ 16) : Fits attrs m.fittedValues := by
  obtain ⟨hz, hseq⟩ := runOver_lt h hwords
  exact fits_cons.2 ⟨by decide, fits_cons.2 ⟨by decide, fits_cons.2 ⟨h.stationID, fits_cons.2 ⟨h.parity1, fits_cons.2 ⟨hz,
    fits_cons.2 ⟨hseq, fits_cons.2 ⟨Nat.mod_lt _ (by decide), fits_cons.2 ⟨h.stationHealth, fits_cons.2 ⟨h.parity2, fits_nil⟩⟩⟩⟩⟩⟩⟩⟩⟩

/-- A number of words in three parts, of which the lowest one is in its place. -/
theorem split_numWords (n : Nat) : n = (n / 256) <<< 8 ||| ((n / 32 % 8) <<< 5 ||| n % 32) := by
  have hlow : (n / 32 % 8) <<< 5 ||| n % 32 = n % 256 := by
    rw [shiftLeft_or (by omega : n % 32 < 2 ^ 5)]
    omega
  rw [hlow, shiftLeft_or (by omega : n % 256 < 2 ^ 8)]
  omega

theorem extractFrom_attrs (a b c d e f g h i : Nat) : RtcmDataManager.extractFrom 0 attrs.sum attrs [a, b, c, d, e, f, g, h, i] =
    0 ||| a <<< 52 ||| b <<< 46 ||| c <<< 36 ||| d <<< 30 ||| e <<< 17 ||| f <<< 14 ||| g <<< 9 ||| h <<< 6 ||| i <<< 0 := rfl

theorem pack_attrs (a b c d e f g h i : Nat) : pack attrs [a, b, c, d, e, f, g, h, i] =
    (a * 2 ^ 22 + b * 2 ^ 16 + c * 2 ^ 6 + d) * 2 ^ 30 + (e * 2 ^ 17 + f * 2 ^ 14 + g * 2 ^ 9 + h * 2 ^ 6 + i) := by
  have hpack : pack attrs [a, b, c, d, e, f, g, h, i] = a * 2 ^ 52 + (b * 2 ^ 46 + (c * 2 ^ 36 + (d * 2 ^ 30 + (e * 2 ^ 17 +
      (f * 2 ^ 14 + (g * 2 ^ 9 + (h * 2 ^ 6 + (i * 2 ^ 0 + 0)))))))) := rfl
  rw [hpack]
  omega

theorem extractFrom_values (h : m.HeaderFits) : RtcmDataManager.extractFrom 0 attrs.sum attrs m.values =
    RtcmDataManager.extractFrom 0 attrs.sum attrs m.fittedValues := by
  have hsplit : m.numberDataWords <<< 9 =
      (m.numberDataWords / 256) <<< 17 ||| ((m.numberDataWords / 32 % 8) <<< 14 ||| (m.numberDataWords % 32) <<< 9) := by
    conv_lhs => rw [split_numWords m.numberDataWords]
    rw [Nat.shiftLeft_or_distrib, Nat.shiftLeft_or_distrib, ← Nat.shiftLeft_add, ← Nat.shiftLeft_add]
  have hz : (m.runOver m.numberDataWords).1 <<< 17 = m.modifiedZCount <<< 17 ||| (m.numberDataWords / 256) <<< 17 :=
    Nat.shiftLeft_or_distrib ..
  have hseq : (m.runOver m.numberDataWords).2 <<< 14 = m.sequenceNumber <<< 14 ||| (m.numberDataWords / 32 % 8) <<< 14 :=
    Nat.shiftLeft_or_distrib ..
  have hparts (before z z' seq seq' n : Nat) : before ||| z ||| seq ||| (z' ||| (seq' ||| n)) =
    before ||| (z ||| z') ||| (seq ||| seq') ||| n := by
    ac_rfl
  rw [values, fittedValues, extractFrom_attrs, extractFrom_attrs, h.preamble, h.frameID, hsplit, hz, hseq, hparts]

/-- The two words of the header. -/
theorem get_Rtcm2Header_special (h : m.HeaderFits) (hwords : m.numberDataWords < 2 ^ 16) :
    m.get_Rtcm2Header = [m.firstWord + m.parity1, m.secondWord m.numberDataWords + m.parity2] := by
  obtain ⟨hz, hseq⟩ := runOver_lt h hwords
  have hstation := h.stationID
  have hhealth := h.stationHealth
  have hparity1 := h.parity1
  have hparity2 := h.parity2
  have hcount : datamgr.countWords attrs = 2 := rfl
  have hpack : pack attrs m.fittedValues = (m.firstWord + m.parity1) * 2 ^ 30 + (m.secondWord m.numberDataWords + m.parity2) :=
    pack_attrs ..
  have hpreamble : defaultPreamble.toNat = 0x66 := rfl
  have hfirst : m.firstWord + m.parity1 < 2 ^ 30 := by
    rw [firstWord, hpreamble, GPSSpecialMessage]
    omega
  have hsecond : m.secondWord m.numberDataWords + m.parity2 < 2 ^ 30 := by
    rw [secondWord]
    omega
  have hfits : Fits (List.replicate 2 30) [m.firstWord + m.parity1, m.secondWord m.numberDataWords + m.parity2] :=
    fits_cons.2 ⟨hfirst, fits_cons.2 ⟨hsecond, fits_nil⟩⟩
  have hwhole : pack attrs m.fittedValues = pack (List.replicate 2 30) [m.firstWord + m.parity1,
    m.secondWord m.numberDataWords + m.parity2] := by
    rw [hpack]
    simp [pack, List.replicate]
  rw [get_Rtcm2Header, RtcmDataManager.extractWords, extractFrom_values h,
    RtcmDataManager.extractFrom_zero (fits_fittedValues h hwords),
    map_splitWord, hcount, hwhole]
  exact unpack_pack hfits

/-- The words of the header with their parity, behind a zero word. -/
def header1 (m : RTCM2Message) : Nat := add_Parity m.firstWord 0

def header2 (m : RTCM2Message) (numWords : Nat) : Nat := add_Parity (m.secondWord numWords) m.header1

theorem data_add {n p : Nat} (hp : p < 2 ^ 6) : (n * 2 ^ 6 + p) % 2 ^ 30 / 2 ^ 6 = n * 2 ^ 6 % 2 ^ 30 / 2 ^ 6 := by omega

theorem firstWord_eq (m : RTCM2Message) : m.firstWord = (0x66 * 2 ^ 16 + GPSSpecialMessage * 2 ^ 10 + m.stationID) * 2 ^ 6 := by
  have hpreamble : defaultPreamble.toNat = 0x66 := rfl
  rw [firstWord, hpreamble]
  omega

theorem secondWord_eq (m : RTCM2Message) (n : Nat) : m.secondWord n =
    ((m.runOver n).1 * 2 ^ 11 + (m.runOver n).2 * 2 ^ 8 + n % 32 * 2 ^ 3 + m.stationHealth) * 2 ^ 6 := by
  rw [secondWord]
  omega

/-- The words with their parity have the data that they had. -/
theorem header1_data (h : m.HeaderFits) : m.header1 / 2 ^ 6 = m.firstWord / 2 ^ 6 ∧ m.header1 < 2 ^ 30 := by
  obtain ⟨hdata, hlt⟩ := add_Parity_data m.firstWord 0
  have hstation := h.stationID
  have hfirst : m.firstWord < 2 ^ 30 := by
    rw [firstWord_eq, GPSSpecialMessage]
    omega
  rw [Nat.mod_eq_of_lt hlt, Nat.mod_eq_of_lt hfirst] at hdata
  exact ⟨hdata, hlt⟩

theorem header2_data (h : m.HeaderFits) {n : Nat} (hn : n < 2 ^ 16) :
    m.header2 n / 2 ^ 6 = m.secondWord n / 2 ^ 6 ∧ m.header2 n < 2 ^ 30 := by
  obtain ⟨hdata, hlt⟩ := add_Parity_data (m.secondWord n) m.header1
  obtain ⟨hz, hseq⟩ := runOver_lt h hn
  have hhealth := h.stationHealth
  have hsecond : m.secondWord n < 2 ^ 30 := by
    rw [secondWord]
    omega
  rw [Nat.mod_eq_of_lt hlt, Nat.mod_eq_of_lt hsecond] at hdata
  exact ⟨hdata, hlt⟩

theorem and_bitmask_lt (word : Nat) : word &&& bitmask 6 < 2 ^ 6 := by
  rw [and_bitmask]
  exact Nat.mod_lt _ (by decide)

/-- `Validate` gives the header its parity. -/
theorem get_Rtcm2Header_Validate (h : m.HeaderFits) (hwords : m.numberDataWords < 2 ^ 16) :
    m.Validate.get_Rtcm2Header = [m.header1, m.header2 m.numberDataWords] := by
  have hfirst : m.get_Header1 = m.firstWord + m.parity1 := by
    rw [get_Header1, get_Rtcm2Header_special h hwords, List.getD_cons_zero]
  have hheader1 : add_Parity m.get_Header1 0 = m.header1 := by
    refine add_Parity_congr ?_ rfl rfl
    rw [hfirst, firstWord_eq]
    exact data_add h.parity1
  let m1 : RTCM2Message := { m with parity1 := m.header1 &&& bitmask 6 }
  have hm1 : m1.HeaderFits := ⟨h.preamble, h.frameID, h.stationID, h.modifiedZCount, h.sequenceNumber, h.stationHealth,
    and_bitmask_lt _, h.parity2⟩
  have hsecond : m1.get_Header2 = m.secondWord m.numberDataWords + m.parity2 := by
    rw [get_Header2, get_Rtcm2Header_special hm1 hwords, List.getD_cons_succ, List.getD_cons_zero]
    rfl
  have hlast (n : Nat) (hn : rtcm_word - n < 6) : get_Bit n (m.header1 &&& bitmask 6) = get_Bit n m.header1 := by
    rw [and_bitmask]
    exact get_Bit_mod hn _
  have hheader2 : add_Parity m1.get_Header2 m1.parity1 = m.header2 m.numberDataWords := by
    refine add_Parity_congr ?_ (hlast 29 (by decide)) (hlast 30 (by decide))
    rw [hsecond, secondWord_eq]
    exact data_add h.parity2
  have hvalidate : m.Validate = { m1 with parity2 := m.header2 m.numberDataWords &&& bitmask 6 } := by
    rw [Validate, hheader1, ← hheader2]
  have hfits : m.Validate.HeaderFits := by
    rw [hvalidate]
    exact ⟨h.preamble, h.frameID, h.stationID, h.modifiedZCount, h.sequenceNumber, h.stationHealth, and_bitmask_lt _, and_bitmask_lt _⟩
  have hword1 : m.firstWord + m.Validate.parity1 = m.header1 := by
    have hparity : m.Validate.parity1 = m.header1 % 2 ^ 6 := by
      rw [hvalidate]
      exact and_bitmask _ _
    have hdata := (header1_data h).1
    rw [hparity, firstWord_eq]
    rw [firstWord_eq] at hdata
    omega
  have hword2 : m.secondWord m.numberDataWords + m.Validate.parity2 = m.header2 m.numberDataWords := by
    have hparity : m.Validate.parity2 = m.header2 m.numberDataWords % 2 ^ 6 := by
      rw [hvalidate]
      exact and_bitmask _ _
    have hdata := (header2_data h hwords).1
    rw [hparity, secondWord_eq]
    rw [secondWord_eq] at hdata
    omega
  rw [get_Rtcm2Header_special hfits (by rw [hvalidate]; exact hwords), ← hword1, ← hword2, hvalidate]
  rfl

/-! ### Reading -/

/-- The number of words that the attribute is set to. -/
def announcedWords (message : ByteStream) : Nat := numberOfWords message % 2 ^ 16

theorem announcedWords_lt (message : ByteStream) : announcedWords message < 2 ^ 16 := Nat.mod_lt _ (by decide)

/-- What the header has room for. -/
def keptWords (message : ByteStream) : Nat := announcedWords message % 32

theorem keptWords_le (message : ByteStream) : keptWords message ≤ numberOfWords message :=
  (Nat.mod_le _ _).trans (Nat.mod_le _ _)

theorem numberOfWords_le_iff : numberOfWords message ≤ 31 ↔ message.length ≤ 93 := by
  rw [numberOfWords]
  split_ifs with h
  · omega
  · omega

theorem header_assignMessage (h : m.HeaderFits) (message : ByteStream) :
    (m.assignMessage message).get_Rtcm2Header = [m.header1, m.header2 (announcedWords message)] ∧
      (m.assignMessage message).data = textWords (m.header2 (announcedWords message)) message := by
  have hreset : HeaderFits { m with data := [], numberDataWords := announcedWords message } := ⟨h.1, h.2, h.3, h.4, h.5, h.6, h.7, h.8⟩
  have hvalidate := get_Rtcm2Header_Validate hreset (announcedWords_lt message)
  refine ⟨hvalidate, ?_⟩
  have hsecond : ({ m with data := [], numberDataWords := announcedWords message } : RTCM2Message).Validate.get_Header2 =
      m.header2 (announcedWords message) := by
    rw [get_Header2, hvalidate]
    rfl
  exact congrArg (textWords · message) hsecond

/-- The words that the header announces, as a frame behind a zero word. -/
def frameOf (h : m.HeaderFits) (message : ByteStream) : Frame where
  previous := 0
  header1 := m.header1
  header2 := m.header2 (announcedWords message)
  words := (textWords (m.header2 (announcedWords message)) message).take (keptWords message)
  header1_lt := (header1_data h).2
  header2_lt := (header2_data h (announcedWords_lt message)).2
  words_lt word hword := textWords_lt word (List.mem_of_mem_take hword)
  preamble := by
    have hdata := (header1_data h).1
    have hstation := h.stationID
    rw [firstWord_eq, GPSSpecialMessage] at hdata
    omega
  length := by
    have hdata := (header2_data h (announcedWords_lt message)).1
    have hhealth := h.stationHealth
    have hkept := keptWords_le message
    rw [List.length_take, length_textWords, Nat.min_eq_left hkept, keptWords]
    rw [secondWord_eq] at hdata
    omega
  parity := by
    have hcheck (word prev : Nat) : ParityHolds prev (add_Parity word prev) :=
      (check_Parity_iff (add_Parity_data word prev).2).1 (check_Parity_add_Parity rfl rfl)
    have hkept : List.IsChain (fun prev word => check_Parity word prev = true)
        (m.header2 (announcedWords message) :: (textWords (m.header2 (announcedWords message)) message).take (keptWords message)) :=
      (isChain_textWords (m.header2 (announcedWords message)) message).take (keptWords message + 1)
    have hchain : List.IsChain ParityHolds
        (m.header2 (announcedWords message) :: (textWords (m.header2 (announcedWords message)) message).take (keptWords message)) :=
      hkept.imp_of_mem_tail_imp fun prev word _ hmem hword =>
        (check_Parity_iff (textWords_lt word (List.mem_of_mem_take hmem))).1 hword
    exact List.isChain_cons_cons.2 ⟨hcheck _ _, List.isChain_cons_cons.2 ⟨hcheck _ _, hchain⟩⟩

theorem take_sentWords (prev n : Nat) (words : List Nat) : (sentWords prev words).take n = sentWords prev (words.take n) := by
  induction words generalizing prev n with
  | nil => rw [List.take_nil, sentWords, List.take_nil]
  | cons word words ih =>
    cases n with
    | zero => rw [List.take_zero, List.take_zero, sentWords]
    | succ n => rw [sentWords, List.take_succ_cons, ih, List.take_succ_cons, sentWords]

/-- The contents begin with the frame, where the message does not know of a last bit that is set. -/
theorem get_contents_frame (h : m.HeaderFits) (message : ByteStream) (hprimer : get_Bit 30 m.primerWord = false) :
    ∃ after, (m.assignMessage message).get_contents = (frameOf h message).bytes ++ after := by
  obtain ⟨hheader, hdata⟩ := header_assignMessage h message
  have hprimerWord : (m.assignMessage message).primerWord = m.primerWord := rfl
  have hwritten : (m.assignMessage message).get_contents = (writtenWords m.primerWord
    (m.header1 :: m.header2 (announcedWords message) ::
      textWords (m.header2 (announcedWords message)) message)).flatMap datamgr.writeWord := by
    rw [get_contents, get_Header1, get_Header2, hheader, hdata, hprimerWord, writtenWords, writtenWords, List.flatMap_cons,
      List.flatMap_cons, ← List.append_assoc, List.getD_cons_zero, List.getD_cons_succ, List.getD_cons_zero]
  have hsent := take_sentWords 0 (keptWords message + 2)
    (m.header1 :: m.header2 (announcedWords message) :: textWords (m.header2 (announcedWords message)) message)
  have hplain : writtenWords m.primerWord (m.header1 :: m.header2 (announcedWords message) ::
      textWords (m.header2 (announcedWords message)) message) = sentWords 0 (m.header1 :: m.header2 (announcedWords message) ::
      textWords (m.header2 (announcedWords message)) message) := writtenWords_eq hprimer _
  rw [hwritten, hplain, bytes_eq, ← List.take_append_drop (keptWords message + 2) (sentWords 0 _), List.flatMap_append, hsent]
  exact ⟨_, rfl⟩

theorem specialText_congr (h29 : get_Bit 29 p = get_Bit 29 q) (h30 : get_Bit 30 p = get_Bit 30 q) (words : List Nat) :
    specialText p words = specialText q words := by
  cases words with
  | nil => rfl
  | cons word words => rw [specialText, specialText, check_Parity_congr h29 h30]

/-- The attributes that are read from the frame. -/
theorem frameOf_fields (h : m.HeaderFits) (message : ByteStream) :
    (frameOf h message).headerBits / 2 ^ 46 % 2 ^ 6 = m.frameID ∧ (frameOf h message).headerBits / 2 ^ 36 % 2 ^ 10 = m.stationID ∧
      (frameOf h message).headerBits / 2 ^ 17 % 2 ^ 13 = (m.runOver (announcedWords message)).1 ∧
      (frameOf h message).headerBits / 2 ^ 14 % 2 ^ 3 = (m.runOver (announcedWords message)).2 ∧
      (frameOf h message).headerBits / 2 ^ 9 % 2 ^ 5 = keptWords message ∧
      (frameOf h message).headerBits / 2 ^ 6 % 2 ^ 3 = m.stationHealth := by
  have hbits : (frameOf h message).headerBits = m.header1 * 2 ^ 30 + m.header2 (announcedWords message) := Frame.headerBits_eq _
  obtain ⟨hdata1, hlt1⟩ := header1_data h
  obtain ⟨hdata2, hlt2⟩ := header2_data h (announcedWords_lt message)
  obtain ⟨hz, hseq⟩ := runOver_lt h (announcedWords_lt message)
  have hstation := h.stationID
  have hhealth := h.stationHealth
  have hframe : m.frameID = 16 := h.frameID
  rw [firstWord_eq, GPSSpecialMessage] at hdata1
  rw [secondWord_eq] at hdata2
  rw [hbits, hframe, keptWords]
  omega

/-- The words that are read have the text, as far as they go. -/
theorem specialText_frameOf (h : m.HeaderFits) (hnul : 0 ∉ message) (hkept : keptWords message = min (numberOfWords message) 31) :
    specialText ((frameOf h message).headerBits / 2 ^ 0 % 2 ^ 6) (frameOf h message).words = some (message.take 93) ↔
      Plain (message.take 93) := by
  obtain ⟨-, -, -, hparity⟩ := header_fields (frameOf h message)
  have htake : message.take (3 * keptWords message) = message.take 93 := by
    rw [hkept]
    rcases Nat.le_total (numberOfWords message) 31 with hle | hle
    · have hlength : message.length ≤ 3 * numberOfWords message := by
        rw [numberOfWords]
        split_ifs with hmod
        · omega
        · omega
      rw [Nat.min_eq_left hle, List.take_of_length_le hlength, List.take_of_length_le (numberOfWords_le_iff.1 hle)]
    · rw [Nat.min_eq_right hle]
  have hwords : (frameOf h message).words = textWords (m.header2 (announcedWords message)) (message.take 93) :=
    (take_textWords _ _ _).trans (congrArg _ htake)
  have hnultake : 0 ∉ message.take 93 := fun hmem => hnul (List.mem_of_mem_take hmem)
  rw [hparity, specialText_congr (get_Bit_mod (by decide) _) (get_Bit_mod (by decide) _), hwords]
  exact specialText_textWords_iff hnultake _

/-- The number of words and what runs over, where the header is read back. -/
theorem kept_iff (m : RTCM2Message) (message : ByteStream) :
    (keptWords message = min (numberOfWords message) 31 ∧ m.runOver (announcedWords message) = (m.modifiedZCount, m.sequenceNumber)) ↔
      (message.length ≤ 93 ∨ numberOfWords message % 32 = 31 ∧
        m.runOver (announcedWords message) = (m.modifiedZCount, m.sequenceNumber)) := by
  have hmod : keptWords message = numberOfWords message % 32 := by
    rw [keptWords, announcedWords]
    omega
  rw [hmod, ← numberOfWords_le_iff]
  by_cases hle : numberOfWords message ≤ 31
  · have hannounced : announcedWords message = numberOfWords message := Nat.mod_eq_of_lt (by omega)
    have hz : numberOfWords message / 256 = 0 := by omega
    have hseq : numberOfWords message / 32 % 8 = 0 := by omega
    refine iff_of_true ⟨by omega, ?_⟩ (.inl hle)
    rw [hannounced, runOver, hz, hseq, Nat.or_zero, Nat.or_zero]
  · rw [Nat.min_eq_right (by omega)]
    exact (or_iff_right hle).symm

/-- Where the message is put together behind a zero bit. -/
theorem carried_iff_of_clear (h : m.HeaderFits) (hnul : 0 ∉ message) (hprimer : get_Bit 30 m.primerWord = false) :
    Carried m message ↔ Plain (message.take 93) ∧ (message.length ≤ 93 ∨ numberOfWords message % 32 = 31 ∧
      m.runOver (announcedWords message) = (m.modifiedZCount, m.sequenceNumber)) := by
  obtain ⟨after, hcontents⟩ := get_contents_frame h message hprimer
  obtain ⟨hframe, hstation, hz, hseq, hwords, hhealth⟩ := frameOf_fields h message
  have hread (fuel : Nat) := set_contents_frame (m := { frameID := GPSSpecialMessage }) (f := frameOf h message) rfl rfl
    (.inl rfl) fuel after
  rw [← kept_iff]
  constructor
  · rintro ⟨fuel, m', hset, -, htext, hnumber, -, -, hz', hseq', -⟩
    cases fuel with
    | zero => exact absurd hset (Option.some_ne_none m').symm
    | succ fuel =>
      obtain ⟨primer, hset', -, -⟩ := hread fuel
      rw [hcontents, hset'] at hset
      obtain rfl := Option.some.inj hset
      have hkept : keptWords message = min (numberOfWords message) 31 := hwords.symm.trans hnumber
      exact ⟨(specialText_frameOf h hnul hkept).1 htext, hkept, Prod.ext (hz.symm.trans hz') (hseq.symm.trans hseq')⟩
  · rintro ⟨hplain, hkept, hover⟩
    obtain ⟨primer, hset, h29, h30⟩ := hread 0
    refine ⟨1, _, (congrArg _ hcontents).trans hset, is_Valid_withHeader _ _ _ _ h29 h30, (specialText_frameOf h hnul hkept).2 hplain,
      hwords.trans hkept, hframe, hstation, hz.trans (congrArg Prod.fst hover), hseq.trans (congrArg Prod.snd hover), hhealth⟩

/-! ### Behind a complemented header -/

theorem length_readPrimer (m : RTCM2Message) (data : List Nat) : (m.readPrimer data).2.length = data.length := by
  rw [readPrimer]
  split_ifs with hzero
  · exact List.length_set
  · split
    · exact List.length_set
    · rfl

/-- The preamble is the first byte of the first word. -/
theorem assignData_preamble {words values rest : List Nat} {preamble : Nat} (hlength : words.length = 2) (x : Nat)
    (h : datamgr.assignData attrs (words.set 1 x) = some (preamble :: values, rest)) : preamble =
      words.getD 0 0 % 2 ^ 30 / 2 ^ 22 := by
  obtain ⟨word, other, rfl⟩ := List.length_eq_two.1 hlength
  have hcount : datamgr.countWords attrs ≤ [word, x].length := Nat.le_refl 2
  have hassign := (RtcmDataManager.assignData_eq hcount).symm.trans h
  have hpack : pack (List.replicate (datamgr.countWords attrs) datamgr.rtcm_word)
      (([word, x].take (datamgr.countWords attrs)).map (· % 2 ^ datamgr.rtcm_word)) =
        word % 2 ^ 30 * 2 ^ 30 + (x % 2 ^ 30 * 2 ^ 0 + 0) := rfl
  rw [hpack, unpack_attrs] at hassign
  have hfirst := (List.cons.inj (congrArg Prod.fst (Option.some.inj hassign))).1
  rw [← hfirst, List.getD_cons_zero]
  omega

/-- What a round that goes on does to the bytes, and what it found out about the preamble. -/
theorem searchRound_spec {m m' : RTCM2Message} {round : Round} (h : m.searchRound = (m', round)) :
    round = .stop ∨ round = .retry ∧ m'.bytes.length + 1 ≤ m.bytes.length ∨
      round = .found ∧ m'.is_Valid = true ∧ 10 ≤ m'.bytes.length ∧ m'.bytes <:+ m.bytes ∧
        (m.data = [] → m'.preamble = ((m.readPrimer (datamgr.loadData m'.bytes 2 [])).2.getD 0 0) % 2 ^ 30 / 2 ^ 22) := by
  have hsuffix : m.bytes.dropWhile (fun b => b ≠ defaultPreamble ∧ b ≠ complPreamble) <:+ m.bytes := List.dropWhile_suffix _
  have hwordSize : 2 * datamgr.wordSize = 10 := rfl
  unfold searchRound at h
  dsimp only at h
  generalize m.bytes.dropWhile (fun b => b ≠ defaultPreamble ∧ b ≠ complPreamble) = bytes at h hsuffix
  have hle := hsuffix.length_le
  split_ifs at h with hsize
  · exact .inl (congrArg Prod.snd h).symm
  · rw [hwordSize] at hsize
    split at h
    · rename_i hassign
      split_ifs at h with hvalid
      · obtain ⟨rfl, rfl⟩ := Prod.mk.inj h
        refine .inr (.inr ⟨rfl, hvalid, Nat.le_of_not_gt hsize, hsuffix, fun hdata => ?_⟩)
        rw [hdata] at hassign
        exact assignData_preamble (length_readPrimer _ _) _ hassign
      · obtain ⟨rfl, rfl⟩ := Prod.mk.inj h
        refine .inr (.inl ⟨rfl, ?_⟩)
        rw [List.length_drop]
        omega
    · exact .inl (congrArg Prod.snd h).symm

theorem not_valid_invalidate (m : RTCM2Message) : m.invalidate.is_Valid = false := by
  simp [is_Valid, invalidate]

/-- A message that is found is in the bytes with all its words. -/
theorem length_loadRest (h10 : 10 ≤ m.bytes.length) (h : m.loadRest.is_Valid = true) :
    10 + 5 * m.loadRest.numberDataWords ≤ m.bytes.length := by
  have hheader : datamgr.wordSize * datamgr.countWords attrs = 10 := rfl
  have hwordSize : datamgr.wordSize = 5 := rfl
  rw [loadRest, hheader, hwordSize] at h ⊢
  dsimp only at h ⊢
  split_ifs at h ⊢ with hshort
  · rw [not_valid_invalidate] at h
    exact absurd h Bool.false_ne_true
  · rw [List.length_drop] at hshort
    dsimp only
    omega

theorem length_search {fuel : Nat} {m m' : RTCM2Message} (h : search fuel m = some m') (hvalid : m'.is_Valid = true) :
    10 + 5 * m'.numberDataWords ≤ m.bytes.length := by
  induction fuel generalizing m with
  | zero => exact absurd h (Option.some_ne_none m').symm
  | succ fuel ih =>
    rcases hround : m.searchRound with ⟨m1, round⟩
    rw [search, hround] at h
    rcases searchRound_spec hround with rfl | ⟨rfl, hless⟩ | ⟨rfl, -, h10, hsuffix, -⟩
    · obtain rfl := Option.some.inj h
      rw [not_valid_invalidate] at hvalid
      exact absurd hvalid Bool.false_ne_true
    · exact (ih h).trans (by omega)
    · obtain rfl := Option.some.inj h
      exact (length_loadRest h10 hvalid).trans hsuffix.length_le

theorem header1_preamble (h : m.HeaderFits) : m.header1 / 2 ^ 22 = 0x66 ∧ (m.header1 ^^^ data_bitmask) / 2 ^ 22 = 0x99 := by
  have hpreamble : m.header1 / 2 ^ 22 = 0x66 := (frameOf h []).preamble
  refine ⟨hpreamble, ?_⟩
  rw [Nat.xor_div_two_pow, hpreamble]
  rfl

/-- No trial takes the complemented word: it has no preamble, and the plain one has its parity behind a zero bit. -/
theorem tryPrimer_complemented (h : m.HeaderFits) : tryPrimer [0, 1, 2, 3] (m.header1 ^^^ data_bitmask) 0 = (3, none) := by
  have hcheck : check_Parity m.header1 0 = true := check_Parity_add_Parity rfl rfl
  have hcomplemented (p : Nat) : ¬ ((m.header1 ^^^ data_bitmask) >>> (rtcm_word - 8) = defaultPreamble.toNat ∧
      check_Parity (m.header1 ^^^ data_bitmask) p = true) := by
    rintro ⟨hpreamble, -⟩
    change (m.header1 ^^^ data_bitmask) >>> 22 = _ at hpreamble
    rw [Nat.shiftRight_eq_div_pow, (header1_preamble h).2] at hpreamble
    exact absurd hpreamble (by decide)
  have hplain (p : Nat) (hp : get_Bit 30 p = true) : ¬ (m.header1 >>> (rtcm_word - 8) = defaultPreamble.toNat ∧
      check_Parity m.header1 p = true) := by
    rintro ⟨-, hparity⟩
    have hbit := (check_Parity_unique (header1_data h).2 hparity hcheck).2
    rw [hp] at hbit
    exact absurd hbit (by decide)
  have hback : m.header1 ^^^ data_bitmask ^^^ data_bitmask = m.header1 := complement_complement m.header1
  have hfirst : complementIf (0 ≠ 0) (m.header1 ^^^ data_bitmask) = m.header1 ^^^ data_bitmask := rfl
  have hturn (p word : Nat) (hp : p ≠ 0) : complementIf (p ≠ 0) word = word ^^^ data_bitmask := by
    rw [decide_eq_true hp]
    rfl
  rw [tryPrimer, hfirst, if_neg (hcomplemented 0), tryPrimer, hturn 1 _ (by decide), hback, if_neg (hplain 1 rfl), tryPrimer,
    hturn 2 _ (by decide), if_neg (hcomplemented 2), tryPrimer, hturn 3 _ (by decide), hback, if_neg (hplain 3 rfl), tryPrimer]

/-- What is written behind a set bit. -/
theorem get_contents_of_set (h : m.HeaderFits) (message : ByteStream) (hprimer : get_Bit 30 m.primerWord = true) :
    ∃ (hdr2 : Nat) (words : List Nat), (m.assignMessage message).get_contents =
      [m.header1 ^^^ data_bitmask, hdr2].flatMap datamgr.writeWord ++ words.flatMap datamgr.writeWord ∧
      hdr2 < 2 ^ rtcm_word ∧ words.length = numberOfWords message := by
  obtain ⟨hheader, hdata⟩ := header_assignMessage h message
  have hprimerWord : (m.assignMessage message).primerWord = m.primerWord := rfl
  let hdr2 := complementIf (get_Bit 30 (m.header1 ^^^ data_bitmask)) (m.header2 (announcedWords message))
  refine ⟨hdr2, writtenWords hdr2 (textWords (m.header2 (announcedWords message)) message), ?_,
    complementIf_lt _ (header2_data h (announcedWords_lt message)).2, ?_⟩
  · rw [get_contents, get_Header1, get_Header2, hheader, hdata, hprimerWord, hprimer, List.flatMap_cons, List.flatMap_cons,
      List.flatMap_nil, List.append_nil]
    rfl
  · have hsent : writtenWords hdr2 (textWords (m.header2 (announcedWords message)) message) =
        sentWords hdr2 (textWords (m.header2 (announcedWords message)) message) := writtenWords_eq rfl _
    rw [hsent, length_sentWords, length_textWords]

/-- Behind a set bit the first word is complemented, which its parity does not say. -/
theorem not_carried_of_set (h : m.HeaderFits) (hprimer : get_Bit 30 m.primerWord = true) (hlength : message.length ≤ 93) :
    ¬ Carried m message := by
  obtain ⟨hdr2, words, hcontents, hlt2, hwords⟩ := get_contents_of_set h message hprimer
  have hlt1 : m.header1 ^^^ data_bitmask < 2 ^ rtcm_word := complementIf_lt true (header1_data h).2
  have hsize : (m.assignMessage message).get_contents.length = 10 + 5 * numberOfWords message := by
    rw [hcontents, List.length_append, RtcmDataManager.length_flatMap_writeWord, RtcmDataManager.length_flatMap_writeWord, hwords,
      Nat.mul_comm (numberOfWords message)]
    rfl
  have hload : datamgr.loadData (m.assignMessage message).get_contents 2 [] = [m.header1 ^^^ data_bitmask, hdr2] := by
    rw [hcontents]
    exact RtcmDataManager.loadData_flatMap reads_datamgr [_, _] (List.forall_mem_cons.2 ⟨hlt1, List.forall_mem_singleton.2 hlt2⟩) _ []
  rintro ⟨fuel, m', hset, hvalid, -, hnumber, -⟩
  rw [Nat.min_eq_left (numberOfWords_le_iff.2 hlength)] at hnumber
  cases fuel with
  | zero => exact absurd hset (Option.some_ne_none m').symm
  | succ fuel =>
    rcases hround : ({ frameID := GPSSpecialMessage, bytes := (m.assignMessage message).get_contents } : RTCM2Message).searchRound with
      ⟨m1, round⟩
    rw [set_contents, search, hround] at hset
    rcases searchRound_spec hround with rfl | ⟨rfl, hless⟩ | ⟨rfl, hfound, h10, hsuffix, hpreamble⟩
    · obtain rfl := Option.some.inj hset
      rw [not_valid_invalidate] at hvalid
      exact Bool.false_ne_true hvalid
    · have hfit := length_search hset hvalid
      dsimp only at hless
      omega
    · obtain rfl := Option.some.inj hset
      have hfit := length_loadRest h10 hvalid
      have hbytes : m1.bytes = (m.assignMessage message).get_contents := hsuffix.eq_of_length_le (by dsimp only; omega)
      have hprimers : (({ frameID := GPSSpecialMessage, bytes := (m.assignMessage message).get_contents } : RTCM2Message).readPrimer
          [m.header1 ^^^ data_bitmask, hdr2]).2 = [m.header1 ^^^ data_bitmask, hdr2] := by
        rw [readPrimer, if_neg (fun hzero => hzero rfl), List.getD_cons_zero, tryPrimer_complemented h]
      have hfield : m1.preamble = 0x66 := by
        simp only [is_Valid, Bool.and_eq_true, decide_eq_true_eq] at hfound
        exact hfound.1.1.2
      have hmod : (m.header1 ^^^ data_bitmask) % 2 ^ 30 = m.header1 ^^^ data_bitmask := Nat.mod_eq_of_lt hlt1
      have hcomplemented : m1.preamble = 0x99 := by
        rw [hpreamble rfl, hbytes, hload, hprimers, List.getD_cons_zero, hmod, (header1_preamble h).2]
      exact absurd (hfield.symm.trans hcomplemented) (by decide)

/-- When the text comes through: the message does not write its header complemented, no sign is set over another character, and
the number of words fits, or it reads as 31 with nothing running over into an attribute. -/
def Carriable (m : RTCM2Message) (message : ByteStream) : Prop :=
  get_Bit 30 m.primerWord = false ∧ Plain (message.take 93) ∧ (message.length ≤ 93 ∨ numberOfWords message % 32 = 31 ∧
    m.runOver (announcedWords message) = (m.modifiedZCount, m.sequenceNumber))

/-- A text comes through as that says. For the other direction, a text that is too long is not put behind a complemented header,
where what runs over could be read as another message by chance. -/
theorem carried_iff (h : m.HeaderFits) (hnul : 0 ∉ message) : (Carriable m message → Carried m message) ∧
    ((get_Bit 30 m.primerWord = true → message.length ≤ 93) → Carried m message → Carriable m message) := by
  constructor
  · rintro ⟨hprimer, hplain⟩
    exact (carried_iff_of_clear h hnul hprimer).2 hplain
  · intro hshort hcarried
    cases hprimer : get_Bit 30 m.primerWord with
    | false => exact ⟨hprimer, (carried_iff_of_clear h hnul hprimer).1 hcarried⟩
    | true => exact absurd hcarried (not_carried_of_set h hprimer (hshort hprimer))

/-- A message of this type without other attributes. -/
theorem headerFits_special : HeaderFits { frameID := GPSSpecialMessage } :=
  ⟨rfl, rfl, by decide, by decide, by decide, by decide, by decide, by decide⟩

theorem carried_abcd : Carried { frameID := GPSSpecialMessage } [0x61, 0x62, 0x63, 0x64] ∧
    Carriable { frameID := GPSSpecialMessage } [0x61, 0x62, 0x63, 0x64] := by
  have hnul : (0 : UInt8) ∉ [0x61, 0x62, 0x63, 0x64] := by decide
  have hkept : SignsKept 0x61 0x62 0x63 := ⟨fun h => absurd h (by decide), fun h => absurd h (by decide)⟩
  have hcarriable : Carriable { frameID := GPSSpecialMessage } [0x61, 0x62, 0x63, 0x64] := ⟨rfl, ⟨hkept, trivial⟩, .inl (by decide)⟩
  have hcarried := (carried_iff headerFits_special hnul).1 hcarriable
  exact ⟨hcarried, (carried_iff headerFits_special hnul).2 (fun _ => by decide) hcarried⟩

/-- A character with its sign set is read in the place of the one before it, and of 32 words none is announced. -/
theorem not_carried_special : HeaderFits { frameID := GPSSpecialMessage } ∧
    ((0 : UInt8) ∉ [0x61, 0x80, 0x62] ∧ ¬ Carried { frameID := GPSSpecialMessage } [0x61, 0x80, 0x62]) ∧
    (0 ∉ List.replicate 94 (0x61 : UInt8) ∧ ¬ Carried { frameID := GPSSpecialMessage } (List.replicate 94 0x61)) := by
  have hnul : (0 : UInt8) ∉ [0x61, 0x80, 0x62] := by decide
  have hnul' : 0 ∉ List.replicate 94 (0x61 : UInt8) := fun h => absurd (List.eq_of_mem_replicate h) (by decide)
  refine ⟨headerFits_special, ⟨hnul, fun hcarried => ?_⟩, hnul', fun hcarried => ?_⟩
  · have hplain : Plain [0x61, 0x80, 0x62] := ((carried_iff_of_clear headerFits_special hnul rfl).1 hcarried).1
    exact absurd (hplain.1.1 (by decide)) (by decide)
  · rcases ((carried_iff_of_clear headerFits_special hnul' rfl).1 hcarried).2 with hlength | ⟨hwords, -⟩
    · rw [List.length_replicate] at hlength
      exact absurd hlength (by decide)
    · rw [numberOfWords, List.length_replicate] at hwords
      exact absurd hwords (by decide)

end RTCM2Message

end V2xHub.Rtcm
