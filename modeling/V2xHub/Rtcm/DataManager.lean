import V2xHub.Lib.BitPack
import Mathlib.Data.List.Basic

/-!
# Words of RTCM data (`RtcmDataManager.h`, `RtcmTypes.h`)

A data manager reads words from a stream of bytes into a buffer, divides the words at its front into attributes,
and puts attributes and words together again. An attribute is known here by its number of bits. An access that
throws has no result. All attributes that are read or written at once have less than 64 bits together, so nothing
is lost at the upper end of an `uintmax_t`.
-/

namespace V2xHub.Rtcm

open BitPack

abbrev ByteStream := List UInt8

/-- How one round of the search for a message ends. -/
inductive Round
  | stop
  | retry
  | found
  deriving DecidableEq

/-! ### One byte and one word -/

def bitmask (size : Nat) : Nat := 2 ^ size - 1

/-- The lower `size` bits in reverse order. -/
def rollByte (size : Nat) (byte : Nat) : Nat :=
  (List.range size).foldl (fun val i => if byte.testBit (size - i - 1) then val ||| 1 <<< i else val) 0

def combineWord (size word value : Nat) : Nat :=
  (if value > 0 then value <<< size else value) ||| (word &&& bitmask size)

def splitWord (size value pos : Nat) : Nat := (value >>> (size * pos)) &&& bitmask size

/-- The template arguments and the mask of a data manager. -/
structure RtcmDataManager where
  rtcm_word : Nat
  byteSize : Nat
  mask : UInt8
  /-- A byte can be no more than 8 bits. -/
  byteSize_le : byteSize ≤ 8

namespace RtcmDataManager

def wordSize (mgr : RtcmDataManager) : Nat := mgr.rtcm_word / mgr.byteSize

def countWords (mgr : RtcmDataManager) (attrs : List Nat) : Nat := attrs.sum / (mgr.byteSize * mgr.wordSize)

def rollIn (mgr : RtcmDataManager) (byte : UInt8) : Nat :=
  if mgr.mask > 0 ∧ byte &&& mgr.mask = mgr.mask then rollByte mgr.byteSize byte.toNat else byte.toNat

def rollOut (mgr : RtcmDataManager) (byte : Nat) : UInt8 :=
  if mgr.mask > 0 then UInt8.ofNat (rollByte mgr.byteSize byte) ||| mgr.mask else UInt8.ofNat byte

def readWord (mgr : RtcmDataManager) (bytes : ByteStream) (pos : Nat) : Nat :=
  ((bytes.drop pos).take mgr.wordSize).foldl (fun val byte => combineWord mgr.byteSize (mgr.rollIn byte) val) 0

def writeWord (mgr : RtcmDataManager) (word : Nat) : ByteStream :=
  (List.range mgr.wordSize).map fun i => mgr.rollOut (splitWord mgr.byteSize word (mgr.wordSize - i - 1))

/-! ### The data buffer -/

def loadData (mgr : RtcmDataManager) (bytes : ByteStream) (numWords : Nat) (data : List Nat) : List Nat :=
  data ++ (List.range numWords).map fun i => mgr.readWord bytes (i * mgr.wordSize)

def retrieveData (mgr : RtcmDataManager) (numWords : Nat) (data : List Nat) : Option ByteStream :=
  if numWords > data.length then none
  else some ((List.range numWords).flatMap fun w => mgr.writeWord (data.getD w 0))

/-! ### Attributes -/

def assignFrom (value bitCount : Nat) : List Nat → List Nat
  | [] => []
  | size :: attrs => ((value >>> (bitCount - size)) &&& bitmask size) :: assignFrom value (bitCount - size) attrs

def extractFrom (value bitCount : Nat) : List Nat → List Nat → Nat
  | size :: attrs, t :: ts => extractFrom (value ||| t <<< (bitCount - size)) (bitCount - size) attrs ts
  | _, _ => value

/-- The values for the attributes, and the buffer without the words that they were in. -/
def assignData (mgr : RtcmDataManager) (attrs data : List Nat) : Option (List Nat × List Nat) :=
  if mgr.countWords attrs > data.length then none
  else
    let value := (data.take (mgr.countWords attrs)).foldl (fun value word => combineWord mgr.rtcm_word word value) 0
    some (assignFrom value attrs.sum attrs, data.drop (mgr.countWords attrs))

def assignBytes (mgr : RtcmDataManager) (bytes : ByteStream) (attrs data : List Nat) : Option (List Nat × List Nat) :=
  mgr.assignData attrs (mgr.loadData bytes (mgr.countWords attrs) data)

def extractWords (mgr : RtcmDataManager) (attrs values : List Nat) : List Nat :=
  (List.range (mgr.countWords attrs)).map fun w =>
    splitWord mgr.rtcm_word (extractFrom 0 attrs.sum attrs values) (mgr.countWords attrs - w - 1)

def extractData (mgr : RtcmDataManager) (attrs values : List Nat) : ByteStream :=
  (mgr.extractWords attrs values).flatMap mgr.writeWord

def extractAllData (mgr : RtcmDataManager) (numWords : Nat) (attrs values data : List Nat) : Option ByteStream :=
  (mgr.retrieveData numWords data).map (mgr.extractData attrs values ++ ·)

end RtcmDataManager

/-! ### Packing -/

theorem and_bitmask (x size : Nat) : x &&& bitmask size = x % 2 ^ size := Nat.and_two_pow_sub_one_eq_mod x size

theorem combineWord_eq (size word value : Nat) : combineWord size word value = value * 2 ^ size + word % 2 ^ size := by
  have hshift : (if value > 0 then value <<< size else value) = value <<< size := by
    split_ifs with h
    · rfl
    · rw [Nat.eq_zero_of_not_pos h, Nat.zero_shiftLeft]
  rw [combineWord, hshift, and_bitmask, shiftLeft_or (Nat.mod_lt _ (Nat.two_pow_pos _))]

theorem splitWord_eq (size value pos : Nat) : splitWord size value pos = value / 2 ^ (size * pos) % 2 ^ size := by
  rw [splitWord, and_bitmask, Nat.shiftRight_eq_div_pow]

theorem foldl_combineWord (size a : Nat) (words : List Nat) :
    words.foldl (fun value word => combineWord size word value) a =
      a * 2 ^ (List.replicate words.length size).sum +
        pack (List.replicate words.length size) (words.map (· % 2 ^ size)) := by
  induction words generalizing a with
  | nil => simp [pack]
  | cons word words ih =>
    rw [List.foldl_cons, ih, combineWord_eq, List.length_cons, List.replicate_succ, List.map_cons, pack, List.sum_cons,
      Nat.pow_add]
    ring

theorem map_splitWord (size value n : Nat) :
    (List.range n).map (fun i => splitWord size value (n - i - 1)) = unpack (List.replicate n size) value := by
  induction n with
  | zero => rfl
  | succ n ih =>
    rw [List.range_succ_eq_map, List.map_cons, List.map_map, List.replicate_succ, unpack, ← ih]
    congr 1
    · rw [splitWord_eq, List.sum_replicate_nat, Nat.mul_comm]
      rfl
    · refine List.map_congr_left fun i _ => ?_
      show splitWord size value (n + 1 - (i + 1) - 1) = _
      rw [Nat.add_sub_add_right]

theorem assignFrom_eq (value : Nat) (attrs : List Nat) :
    RtcmDataManager.assignFrom value attrs.sum attrs = unpack attrs value := by
  induction attrs with
  | nil => rfl
  | cons size attrs ih =>
    rw [RtcmDataManager.assignFrom, List.sum_cons, Nat.add_sub_cancel_left, ih, and_bitmask, Nat.shiftRight_eq_div_pow,
      unpack]

theorem extractFrom_eq {attrs values : List Nat} (a : Nat) (h : Fits attrs values) :
    RtcmDataManager.extractFrom (a * 2 ^ attrs.sum) attrs.sum attrs values = a * 2 ^ attrs.sum + pack attrs values := by
  induction h generalizing a with
  | nil => rfl
  | @cons size t attrs ts ht _ ih =>
    have hvalue : a * 2 ^ (size + attrs.sum) ||| t <<< attrs.sum = (a * 2 ^ size + t) * 2 ^ attrs.sum := by
      rw [Nat.pow_add, ← Nat.mul_assoc, ← Nat.shiftLeft_eq, ← Nat.shiftLeft_or_distrib, ← Nat.shiftLeft_eq,
        shiftLeft_or ht, Nat.shiftLeft_eq, Nat.shiftLeft_eq a]
    rw [RtcmDataManager.extractFrom, List.sum_cons, Nat.add_sub_cancel_left, hvalue, ih, pack, Nat.pow_add]
    ring

namespace RtcmDataManager

variable {mgr : RtcmDataManager} {attrs values data : List Nat} {bytes : ByteStream} {n : Nat}

theorem extractFrom_zero (h : Fits attrs values) : extractFrom 0 attrs.sum attrs values = pack attrs values := by
  have := extractFrom_eq 0 h
  rwa [Nat.zero_mul, Nat.zero_add] at this

theorem extractWords_eq (h : Fits attrs values) :
    mgr.extractWords attrs values = unpack (List.replicate (mgr.countWords attrs) mgr.rtcm_word) (pack attrs values) := by
  rw [extractWords, extractFrom_zero h, map_splitWord]

theorem writeWord_eq (word : Nat) :
    mgr.writeWord word = (unpack (List.replicate mgr.wordSize mgr.byteSize) word).map mgr.rollOut := by
  rw [writeWord, ← map_splitWord, List.map_map]
  rfl

@[simp] theorem length_writeWord (word : Nat) : (mgr.writeWord word).length = mgr.wordSize := by
  rw [writeWord, List.length_map, List.length_range]

@[simp] theorem length_extractWords : (mgr.extractWords attrs values).length = mgr.countWords attrs := by
  rw [extractWords, List.length_map, List.length_range]

theorem length_flatMap_writeWord (words : List Nat) :
    (words.flatMap mgr.writeWord).length = words.length * mgr.wordSize := by
  induction words with
  | nil => exact (Nat.zero_mul _).symm
  | cons word words ih =>
    rw [List.flatMap_cons, List.length_append, length_writeWord, ih, List.length_cons, Nat.add_mul, Nat.one_mul,
      Nat.add_comm]

theorem length_extractData : (mgr.extractData attrs values).length = mgr.countWords attrs * mgr.wordSize := by
  rw [extractData, length_flatMap_writeWord, length_extractWords]

/-- Bytes that were rolled out roll in to what they were. -/
def Reads (mgr : RtcmDataManager) : Prop := ∀ byte < 2 ^ mgr.byteSize, mgr.rollIn (mgr.rollOut byte) % 2 ^ mgr.byteSize = byte

theorem readWord_writeWord (hmgr : mgr.Reads) {word : Nat} (hword : word < 2 ^ (mgr.wordSize * mgr.byteSize))
    (before after : ByteStream) : mgr.readWord (before ++ mgr.writeWord word ++ after) before.length = word := by
  have htake : ((before ++ mgr.writeWord word ++ after).drop before.length).take mgr.wordSize = mgr.writeWord word := by
    rw [List.append_assoc, List.drop_left, List.take_left' (length_writeWord word)]
  have hbytes : ((unpack (List.replicate mgr.wordSize mgr.byteSize) word).map mgr.rollOut).map
      (fun byte => mgr.rollIn byte % 2 ^ mgr.byteSize) = unpack (List.replicate mgr.wordSize mgr.byteSize) word := by
    rw [List.map_map]
    exact (List.map_congr_left fun byte hbyte => hmgr byte (lt_of_mem_unpack hbyte)).trans (List.map_id _)
  have hfold := foldl_combineWord mgr.byteSize 0 ((mgr.writeWord word).map mgr.rollIn)
  rw [List.foldl_map, List.map_map, List.length_map, length_writeWord, Nat.zero_mul, Nat.zero_add] at hfold
  rw [readWord, htake, hfold, writeWord_eq]
  refine (congrArg _ hbytes).trans (pack_unpack ?_)
  rwa [List.sum_replicate_nat]

/-- Words that were written are loaded. -/
theorem loadData_flatMap (hmgr : mgr.Reads) (words : List Nat)
    (hwords : ∀ word ∈ words, word < 2 ^ (mgr.wordSize * mgr.byteSize)) (after : ByteStream) (data : List Nat) :
    mgr.loadData (words.flatMap mgr.writeWord ++ after) words.length data = data ++ words := by
  rw [loadData]
  congr 1
  refine List.ext_getElem (by simp) fun i hi _ => ?_
  rw [List.length_map, List.length_range] at hi
  have hsplit : words.flatMap mgr.writeWord ++ after =
      (words.take i).flatMap mgr.writeWord ++ mgr.writeWord words[i] ++ ((words.drop (i + 1)).flatMap mgr.writeWord ++ after) := by
    conv_lhs => rw [← List.take_append_drop i words, List.drop_eq_getElem_cons hi, List.flatMap_append, List.flatMap_cons]
    rw [List.append_assoc, List.append_assoc, List.append_assoc]
  have hlength : ((words.take i).flatMap mgr.writeWord).length = i * mgr.wordSize := by
    rw [length_flatMap_writeWord, List.length_take, Nat.min_eq_left hi.le]
  rw [List.getElem_map, List.getElem_range, hsplit, ← hlength]
  exact readWord_writeWord hmgr (hwords _ (List.getElem_mem hi)) _ _

theorem retrieveData_eq (mgr : RtcmDataManager) (h : n ≤ data.length) : mgr.retrieveData n data = some ((data.take n).flatMap mgr.writeWord) := by
  have hwords : (List.range n).map (data.getD · 0) = data.take n := by
    refine List.ext_getElem (by simp [h]) fun i hi hi' => ?_
    rw [List.length_take] at hi'
    simp [List.getElem?_eq_getElem (lt_of_lt_of_le hi' (min_le_right ..))]
  rw [retrieveData, if_neg (Nat.not_lt.2 h), ← hwords, List.flatMap_map]

theorem retrieveData_isSome : (mgr.retrieveData n data).isSome ↔ n ≤ data.length := by
  rw [retrieveData]
  split_ifs with h
  · exact iff_of_false (by simp) (Nat.not_le.2 h)
  · exact iff_of_true rfl (Nat.le_of_not_lt h)

theorem assignData_eq (hlength : mgr.countWords attrs ≤ data.length) :
    mgr.assignData attrs data =
      some (unpack attrs (pack (List.replicate (mgr.countWords attrs) mgr.rtcm_word)
          ((data.take (mgr.countWords attrs)).map (· % 2 ^ mgr.rtcm_word))),
        data.drop (mgr.countWords attrs)) := by
  have hfold := foldl_combineWord mgr.rtcm_word 0 (data.take (mgr.countWords attrs))
  rw [List.length_take, Nat.min_eq_left hlength, Nat.zero_mul, Nat.zero_add] at hfold
  rw [assignData, if_neg (Nat.not_lt.2 hlength)]
  dsimp only
  rw [hfold, assignFrom_eq]

/-- What was extracted is assigned again. -/
theorem assignData_extractWords (mgr : RtcmDataManager) (hfits : Fits attrs values)
    (hsum : (List.replicate (mgr.countWords attrs) mgr.rtcm_word).sum = attrs.sum) (data : List Nat) :
    mgr.assignData attrs (mgr.extractWords attrs values ++ data) = some (values, data) := by
  have hlength : (mgr.extractWords attrs values).length = mgr.countWords attrs := length_extractWords
  have hmod : (mgr.extractWords attrs values).map (· % 2 ^ mgr.rtcm_word) = mgr.extractWords attrs values := by
    rw [extractWords_eq hfits]
    exact (List.map_congr_left fun word hword => Nat.mod_eq_of_lt (lt_of_mem_unpack hword)).trans (List.map_id _)
  rw [assignData_eq (by rw [List.length_append, hlength]; exact Nat.le_add_right ..), List.take_left' hlength,
    List.drop_left' hlength, hmod, extractWords_eq hfits, unpack_pack_unpack _ hfits hsum]

end RtcmDataManager

end V2xHub.Rtcm
