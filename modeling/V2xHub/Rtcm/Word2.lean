import V2xHub.Rtcm.DataManager

/-!
# Words of RTCM 2 (`RTCM2.h`)

A word has 24 bits of data and six of parity. The parity is taken with the last two bits of the word before, and where
the last of them is set, the data is sent complemented. The six parity bits are even parity checks (`check_Parity_iff`),
the two bits of the word before are read off from them (`check_Parity_unique`), and what the chain of complements makes
of a sequence of words is undone by the chain that starts from the same word (`plainWords_sentWords`).
-/

namespace V2xHub.Rtcm

open BitPack

namespace RTCM2Message

def rtcm_word : Nat := 30

/-- The bits of a word are numbered from 1. -/
def get_Bit (n word : Nat) : Bool := word.testBit (rtcm_word - n)

def xor_bits : List Nat → Nat → Bool
  | [], _ => false
  | n :: ns, word => get_Bit n word ^^ xor_bits ns word

/-- For each bit of parity the bit of the previous word and the bits of data that it is made of. -/
def parityTaps : List (Nat × List Nat) :=
  [(29, [1, 2, 3, 5, 6, 10, 11, 12, 13, 14, 17, 18, 20, 23]),
    (30, [2, 3, 4, 6, 7, 11, 12, 13, 14, 15, 18, 19, 21, 24]),
    (29, [1, 3, 4, 5, 7, 8, 12, 13, 14, 15, 16, 19, 20, 22]),
    (30, [2, 4, 5, 6, 8, 9, 13, 14, 15, 16, 17, 20, 21, 23]),
    (30, [1, 3, 5, 6, 7, 9, 10, 14, 15, 16, 17, 18, 21, 22, 24]),
    (29, [3, 5, 6, 8, 9, 10, 11, 13, 15, 19, 22, 23, 24])]

def parityBits (word prevWord : Nat) : List Bool :=
  parityTaps.map fun t => get_Bit t.1 prevWord ^^ xor_bits t.2 word

def add_Parity (word prevWord : Nat) : Nat :=
  word % 2 ^ rtcm_word / 2 ^ 6 * 2 ^ 6 + pack (List.replicate 6 1) ((parityBits word prevWord).map Bool.toNat)

def check_Parity (word prevWord : Nat) : Bool := word = add_Parity word prevWord

def data_bitmask : Nat := bitmask rtcm_word ^^^ bitmask 6

def complementIf (b : Bool) (word : Nat) : Nat := if b then word ^^^ data_bitmask else word

/-! ### Parity -/

/-- Each bit of parity makes the number of ones among the bits it is for even. -/
def ParityHolds (prevWord word : Nat) : Prop :=
  List.Forall₂ (fun n t => Even ((get_Bit n word :: get_Bit t.1 prevWord :: t.2.map (get_Bit · word)).count true))
    [25, 26, 27, 28, 29, 30] parityTaps

variable {word prevWord p q : Nat}

theorem xor_bits_eq (ns : List Nat) (word : Nat) :
    xor_bits ns word = decide ((ns.map (get_Bit · word)).count true % 2 = 1) := by
  induction ns with
  | nil => rfl
  | cons n ns ih =>
    rw [xor_bits, ih, List.map_cons]
    cases get_Bit n word
    · rw [List.count_cons_of_ne (by decide), Bool.false_xor]
    · rw [List.count_cons_self, Bool.true_xor, ← decide_not, decide_eq_decide]
      omega

theorem even_count_iff (b c : Bool) (ns : List Nat) (word : Nat) :
    Even ((b :: c :: ns.map (get_Bit · word)).count true) ↔ (c ^^ xor_bits ns word) = b := by
  rw [xor_bits_eq, Nat.even_iff]
  cases b <;> cases c <;> simp <;> omega

/-- The bits of a word of parity. -/
theorem unpack_parity (word : Nat) :
    unpack (List.replicate 6 1) word = ([25, 26, 27, 28, 29, 30].map (get_Bit · word)).map Bool.toNat := by
  simp only [List.replicate, unpack, List.map_cons, List.map_nil, get_Bit, rtcm_word, Nat.toNat_testBit]
  rfl

theorem fits_parity (bits : List Bool) : Fits (List.replicate bits.length 1) (bits.map Bool.toNat) := by
  induction bits with
  | nil => exact fits_nil
  | cons b bits ih => exact fits_cons.2 ⟨b.toNat_lt, ih⟩

theorem check_Parity_eq_bits (hword : word < 2 ^ rtcm_word) :
    check_Parity word prevWord = true ↔ parityBits word prevWord = [25, 26, 27, 28, 29, 30].map (get_Bit · word) := by
  have hfits : Fits (List.replicate 6 1) ((parityBits word prevWord).map Bool.toNat) :=
    fits_parity (parityBits word prevWord)
  have hlt : pack (List.replicate 6 1) ((parityBits word prevWord).map Bool.toNat) < 2 ^ 6 := pack_lt hfits
  have hmod : unpack (List.replicate 6 1) (word % 2 ^ 6) = unpack (List.replicate 6 1) word := by
    conv_rhs => rw [← Nat.div_add_mod' word (2 ^ 6)]
    exact (unpack_add _ _ _).symm
  have hinjective : ∀ a b : Bool, a.toNat = b.toNat → a = b := by decide
  rw [check_Parity, decide_eq_true_iff, add_Parity, Nat.mod_eq_of_lt hword, ← (List.map_injective_iff.2 fun a b => hinjective a b).eq_iff,
    ← unpack_parity]
  constructor
  · intro h
    have hpack : pack (List.replicate 6 1) ((parityBits word prevWord).map Bool.toNat) = word % 2 ^ 6 := by omega
    rw [← hmod, ← hpack, unpack_pack hfits]
  · intro h
    have hpack : pack (List.replicate 6 1) ((parityBits word prevWord).map Bool.toNat) = word % 2 ^ 6 := by
      rw [h, ← hmod]
      exact pack_unpack (Nat.mod_lt _ (by decide))
    rw [hpack]
    exact (Nat.div_add_mod' word (2 ^ 6)).symm

theorem check_Parity_iff (hword : word < 2 ^ rtcm_word) :
    check_Parity word prevWord = true ↔ ParityHolds prevWord word := by
  rw [check_Parity_eq_bits hword]
  simp only [ParityHolds, parityBits, parityTaps, List.map_cons, List.map_nil, List.forall₂_cons, even_count_iff,
    List.cons.injEq, List.Forall₂.nil, and_true]

/-- Only the last two bits of the previous word matter. -/
theorem check_Parity_congr (h29 : get_Bit 29 p = get_Bit 29 q) (h30 : get_Bit 30 p = get_Bit 30 q) :
    check_Parity word p = check_Parity word q := by
  have hbits : parityBits word p = parityBits word q := by
    simp only [parityBits, parityTaps, List.map_cons, List.map_nil, h29, h30]
  rw [check_Parity, check_Parity, add_Parity, add_Parity, hbits]

/-- A word has the right parity behind one pair of last bits only. -/
theorem check_Parity_unique (hword : word < 2 ^ rtcm_word) (hp : check_Parity word p = true)
    (hq : check_Parity word q = true) : get_Bit 29 p = get_Bit 29 q ∧ get_Bit 30 p = get_Bit 30 q := by
  have h := ((check_Parity_eq_bits hword).1 hp).trans ((check_Parity_eq_bits hword).1 hq).symm
  simp only [parityBits, parityTaps, List.map_cons, List.cons.injEq] at h
  exact ⟨Bool.xor_left_inj.1 h.1, Bool.xor_left_inj.1 h.2.1⟩

/-! ### Complements -/

theorem complement_complement (word : Nat) : word ^^^ data_bitmask ^^^ data_bitmask = word := Nat.xor_xor_cancel_right ..

theorem complementIf_complementIf (b : Bool) (word : Nat) : complementIf b (complementIf b word) = word := by
  cases b
  · rfl
  · exact complement_complement word

theorem complementIf_lt (b : Bool) (hword : word < 2 ^ rtcm_word) : complementIf b word < 2 ^ rtcm_word := by
  cases b
  · exact hword
  · exact Nat.xor_lt_two_pow hword (by decide)

/-- The parity is not complemented. -/
theorem complementIf_mod (b : Bool) (word : Nat) : complementIf b word % 2 ^ 6 = word % 2 ^ 6 := by
  cases b
  · rfl
  · show (word ^^^ data_bitmask) % 2 ^ 6 = _
    rw [Nat.xor_mod_two_pow]
    exact Nat.xor_zero _

theorem get_Bit_mod {n : Nat} (hn : rtcm_word - n < 6) (word : Nat) : get_Bit n (word % 2 ^ 6) = get_Bit n word := by
  rw [get_Bit, get_Bit, Nat.testBit_mod_two_pow, decide_eq_true hn, Bool.true_and]

theorem get_Bit_complementIf {n : Nat} (hn : rtcm_word - n < 6) (b : Bool) (word : Nat) :
    get_Bit n (complementIf b word) = get_Bit n word := by
  rw [← get_Bit_mod hn, complementIf_mod, get_Bit_mod hn]

/-- The words as they are sent behind a previous word. -/
def sentWords : Nat → List Nat → List Nat
  | _, [] => []
  | prev, word :: words => complementIf (get_Bit 30 prev) word :: sentWords word words

/-- The loop over the data words of a message that is read. -/
def plainWords : Nat → List Nat → List Nat
  | _, [] => []
  | lastWord, word :: words =>
    let word := complementIf (get_Bit 30 lastWord) word
    word :: plainWords word words

/-- The loop over the data words of a message that is written. -/
def writtenWords : Nat → List Nat → List Nat
  | _, [] => []
  | prev, w :: ws =>
    let w := complementIf (get_Bit 30 prev) w
    w :: writtenWords w ws

@[simp] theorem length_sentWords (prev : Nat) (words : List Nat) : (sentWords prev words).length = words.length := by
  induction words generalizing prev with
  | nil => rfl
  | cons word words ih => rw [sentWords, List.length_cons, ih, List.length_cons]

theorem sentWords_lt {words : List Nat} (hwords : ∀ word ∈ words, word < 2 ^ rtcm_word) (prev : Nat) :
    ∀ word ∈ sentWords prev words, word < 2 ^ rtcm_word := by
  induction words generalizing prev with
  | nil => nofun
  | cons word words ih =>
    obtain ⟨hword, hwords⟩ := List.forall_mem_cons.1 hwords
    exact List.forall_mem_cons.2 ⟨complementIf_lt _ hword, ih hwords word⟩

theorem plainWords_sentWords (h : get_Bit 30 p = get_Bit 30 q) (words : List Nat) : plainWords p (sentWords q words) = words := by
  induction words generalizing p q with
  | nil => rfl
  | cons word words ih =>
    rw [sentWords, plainWords, h, complementIf_complementIf]
    exact congrArg (word :: ·) (ih rfl)

/-- The written words have the last bits of the plain ones, so the next word does not tell them apart. -/
theorem writtenWords_eq (h : get_Bit 30 p = get_Bit 30 q) (words : List Nat) : writtenWords p words = sentWords q words := by
  induction words generalizing p q with
  | nil => rfl
  | cons word words ih =>
    rw [writtenWords, sentWords, h]
    exact congrArg (_ :: ·) (ih (get_Bit_complementIf (by decide) _ word))

end RTCM2Message

end V2xHub.Rtcm
