import V2xHub.Lib.Base64Text
import V2xHub.Lib.Strtol

/-!
# Base64 for signatures (`Security/include/base64.cpp`)

A text of hexadecimal digits is turned into base64 by way of a text of its bits, which is cut into six at a time. The zeros that
the last piece lacks are counted while the piece grows, so that it gets half of them, and a text that needs no `=` gets four
(`hex2base64_iff`). The way back is that of the standard (`base642hex_encode`).
-/

namespace V2xHub.Security

open Base64Text

/-! A text of the characters 0 and 1 is the list of its bits. -/

/-- `toupper` in the C locale. -/
def toupper (c : UInt8) : UInt8 := if 97 ≤ c ∧ c ≤ 122 then c - 32 else c

def hex2bin (c : UInt8) : List Bool :=
  match toupper c with
  | 48 => [false, false, false, false]
  | 49 => [false, false, false, true]
  | 50 => [false, false, true, false]
  | 51 => [false, false, true, true]
  | 52 => [false, true, false, false]
  | 53 => [false, true, false, true]
  | 54 => [false, true, true, false]
  | 55 => [false, true, true, true]
  | 56 => [true, false, false, false]
  | 57 => [true, false, false, true]
  | 65 => [true, false, true, false]
  | 66 => [true, false, true, true]
  | 67 => [true, true, false, false]
  | 68 => [true, true, false, true]
  | 69 => [true, true, true, false]
  | _ => [true, true, true, true]

def bin2hex (b : List Bool) : UInt8 :=
  let dec := value b
  if dec ≤ 9 then UInt8.ofNat (dec + 48) else UInt8.ofNat (dec + 65 - 10)

def bin2base64 (s : List Bool) : UInt8 :=
  let dec := value s
  if dec ≤ 25 then UInt8.ofNat (65 + dec)
  else if dec ≤ 51 then UInt8.ofNat (97 + dec - 26)
  else if dec ≤ 61 then UInt8.ofNat (48 + dec - 52)
  else if dec = 62 then 43
  else 47

/-- The loop of `dec2bin`. -/
def setBits (a i : Nat) (out : List Bool) : List Bool :=
  if a = 0 then out else setBits (a / 2) (i + 1) (out.set (out.length - 1 - i) (decide (a % 2 = 1)))

def dec2bin (a : Nat) : List Bool := setBits a 0 (List.replicate 6 false)

def base642bin (b64 : UInt8) : List Bool :=
  if 65 ≤ b64 ∧ b64 ≤ 90 then dec2bin (b64.toNat - 65)
  else if 97 ≤ b64 ∧ b64 ≤ 122 then dec2bin (b64.toNat - 97 + 26)
  else if 48 ≤ b64 ∧ b64 ≤ 57 then dec2bin (b64.toNat - 48 + 52)
  else if b64 = 43 then dec2bin 62
  else dec2bin 63

/-- The loop that adds zeros: its bound is that of the length so far. -/
def fill (j : Nat) (s : List Bool) : List Bool := if j < 6 - s.length then fill (j + 1) (s ++ [false]) else s
termination_by 6 - s.length
decreasing_by simp; omega

/-- The loop over `hexbin`, six at a time. -/
def sixes (hexbin : List Bool) : Str :=
  if hexbin = [] then []
  else
    let s := hexbin.take 6
    bin2base64 (if s.length < 6 then fill 0 s else s) :: sixes (hexbin.drop 6)
termination_by hexbin.length
decreasing_by
  rename_i hne
  have := List.length_pos_iff.mpr hne
  rw [List.length_drop]
  omega

def hex2base64 (hexstr base64str : Str) : Str :=
  let hexbin := hexstr.flatMap hex2bin
  let padcount := (24 - hexbin.length % 24) / 6
  base64str ++ sixes hexbin ++ List.replicate padcount pad

/-- The loop over `binstr`, four at a time. -/
def fours (binstr : List Bool) : Str :=
  if binstr = [] then [] else bin2hex (binstr.take 4) :: fours (binstr.drop 4)
termination_by binstr.length
decreasing_by
  rename_i hne
  have := List.length_pos_iff.mpr hne
  rw [List.length_drop]
  omega

/-- Where more bits are to be removed than there are, the unsigned difference is too large and none is. -/
def base642hex (base64str hexstr : Str) : Str :=
  let binstr := (base64str.filter (· ≠ pad)).flatMap base642bin
  let padcount := if pad ∈ base64str then base64str.length - base64str.idxOf pad else 0
  let binstr := if padcount * 2 ≤ binstr.length then binstr.take (binstr.length - padcount * 2) else binstr
  hexstr ++ fours binstr

/-! ### What the texts stand for -/

/-- The bytes that a text of hexadecimal digits denotes. -/
def denoted : Str → List UInt8
  | c :: d :: hexstr => UInt8.ofNat (16 * Strtol.digitValue c + Strtol.digitValue d) :: denoted hexstr
  | _ => []

def upperDigit (d : Nat) : UInt8 := if d < 10 then UInt8.ofNat (48 + d) else UInt8.ofNat (55 + d)

/-- The digits of bytes, in upper case. -/
def upperHex (bytes : List UInt8) : Str := bytes.flatMap fun b => [upperDigit (b.toNat / 16), upperDigit (b.toNat % 16)]

/-- The text that is appended is the standard one, and gives the digits back in upper case. -/
def RoundTrips (hexstr : Str) : Prop :=
  ∃ text, (∀ base64str, hex2base64 hexstr base64str = base64str ++ text) ∧ text = encode (denoted hexstr) ∧
    ∀ out, base642hex text out = out ++ hexstr.map toupper

/-- Of the last group there is one byte without its two lowest bits, or two without the four lowest. -/
def LastClear (bytes : List UInt8) : Prop :=
  bytes.length % 3 = 1 ∧ (∀ b ∈ bytes.getLast?, b.toNat % 4 = 0) ∨ bytes.length % 3 = 2 ∧ ∀ b ∈ bytes.getLast?, b.toNat % 16 = 0

variable {hexstr : Str} {bytes : List UInt8}

/-! ### Digits and characters -/

theorem hexDigit_eq {c : UInt8} (h : Strtol.digitValue c < 16) :
    hex2bin c = bitsOf 4 (Strtol.digitValue c) ∧ toupper c = upperDigit (Strtol.digitValue c) := by
  have hall : ∀ n < 256, Strtol.digitValue (UInt8.ofNat n) < 16 →
      hex2bin (UInt8.ofNat n) = bitsOf 4 (Strtol.digitValue (UInt8.ofNat n)) ∧
        toupper (UInt8.ofNat n) = upperDigit (Strtol.digitValue (UInt8.ofNat n)) := by decide +kernel
  have := hall c.toNat c.toNat_lt
  rw [UInt8.ofNat_toNat] at this
  exact this h

theorem bin2hex_bitsOf {d : Nat} (h : d < 16) : bin2hex (bitsOf 4 d) = upperDigit d := by
  have hall : ∀ d < 16, bin2hex (bitsOf 4 d) = upperDigit d := by decide
  exact hall d h

theorem bin2base64_eq (s : List Bool) (h : value s < 64) : bin2base64 s = char (value s) := by
  rw [char_eq h, bin2base64, code]
  split_ifs
  · rfl
  · exact congrArg UInt8.ofNat (by omega)
  · exact congrArg UInt8.ofNat (by omega)
  · rfl
  · rfl

theorem base642bin_char {i : Nat} (h : i < 64) : base642bin (char i) = bitsOf 6 i := by
  have hall : ∀ i < 64, base642bin (UInt8.ofNat (code i)) = bitsOf 6 i := by decide +kernel
  rw [char_eq h]
  exact hall i h

theorem hexbin_eq (heven : hexstr.length % 2 = 0) (hdigits : ∀ c ∈ hexstr, Strtol.digitValue c < 16) :
    hexstr.flatMap hex2bin = byteBits (denoted hexstr) ∧ hexstr.map toupper = upperHex (denoted hexstr) := by
  induction hexstr using denoted.induct with
  | case1 c d hexstr ih =>
    obtain ⟨hc, hd, hrest⟩ : Strtol.digitValue c < 16 ∧ Strtol.digitValue d < 16 ∧ ∀ c ∈ hexstr, Strtol.digitValue c < 16 := by
      rwa [List.forall_mem_cons, List.forall_mem_cons] at hdigits
    obtain ⟨hbits, hupper⟩ := ih (by rw [List.length_cons, List.length_cons] at heven; omega) hrest
    have hbyte : (UInt8.ofNat (16 * Strtol.digitValue c + Strtol.digitValue d)).toNat =
        16 * Strtol.digitValue c + Strtol.digitValue d :=
      Nat.mod_eq_of_lt (by omega)
    have hglue : bitsOf 8 (16 * Strtol.digitValue c + Strtol.digitValue d) =
        bitsOf 4 (Strtol.digitValue c) ++ bitsOf 4 (Strtol.digitValue d) := by
      rw [Nat.mul_comm]
      exact bitsOf_glue (w := 4) 4 _ hd
    have hdiv : (16 * Strtol.digitValue c + Strtol.digitValue d) / 16 = Strtol.digitValue c := by omega
    have hmod : (16 * Strtol.digitValue c + Strtol.digitValue d) % 16 = Strtol.digitValue d := by omega
    constructor
    · rw [denoted, byteBits, List.flatMap_cons, List.flatMap_cons, List.flatMap_cons, hbits, hbyte, hglue, (hexDigit_eq hc).1,
        (hexDigit_eq hd).1, List.append_assoc]
      rfl
    · rw [denoted, upperHex, List.flatMap_cons, List.map_cons, List.map_cons, hupper, hbyte, hdiv, hmod, (hexDigit_eq hc).2, (hexDigit_eq hd).2]
      rfl
  | case2 hexstr hne =>
    cases hexstr with
    | nil => exact ⟨rfl, rfl⟩
    | cons c hexstr =>
      cases hexstr with
      | nil => exact absurd heven (by simp)
      | cons d hexstr => exact absurd rfl (hne c d hexstr)

/-! ### Six bits at a time -/

theorem sixes_append {i : Nat} (h : i < 64) (rest : List Bool) : sixes (bitsOf 6 i ++ rest) = char i :: sixes rest := by
  have htake : (bitsOf 6 i ++ rest).take 6 = bitsOf 6 i := List.take_left' (length_bitsOf 6 i)
  have hdrop : (bitsOf 6 i ++ rest).drop 6 = rest := List.drop_left' (length_bitsOf 6 i)
  have hvalue : value (bitsOf 6 i) = i := (value_bitsOf 6 i).trans (Nat.mod_eq_of_lt h)
  rw [sixes, if_neg (by simp [bitsOf])]
  dsimp only
  rw [htake, hdrop, length_bitsOf, if_neg (lt_irrefl 6), bin2base64_eq _ (by rwa [hvalue]), hvalue]

/-- A last piece of two bits gets two zeros of the four that it lacks. -/
theorem sixes_two (a : Nat) : sixes (bitsOf 2 a) = [char (a % 4 * 4)] := by
  have hfill : ∀ x y, fill 0 [x, y] = [x, y] ++ [false, false] := by simp [fill]
  obtain ⟨x, y, hbits⟩ : ∃ x y, bitsOf 2 a = [x, y] := ⟨_, _, rfl⟩
  have hvalue : value ([x, y] ++ [false, false]) = a % 4 * 4 := by
    rw [value_append, ← hbits, value_bitsOf]
    rfl
  rw [sixes, hbits, if_neg (List.cons_ne_nil x _)]
  show bin2base64 (fill 0 [x, y]) :: sixes [] = _
  rw [hfill, bin2base64_eq _ (by omega), hvalue, sixes, if_pos rfl]

/-- A last piece of four bits gets one zero of two. -/
theorem sixes_four (a : Nat) : sixes (bitsOf 4 a) = [char (a % 16 * 2)] := by
  have hfill : ∀ x y z t, fill 0 [x, y, z, t] = [x, y, z, t] ++ [false] := by simp [fill]
  obtain ⟨x, y, z, t, hbits⟩ : ∃ x y z t, bitsOf 4 a = [x, y, z, t] := ⟨_, _, _, _, rfl⟩
  have hvalue : value ([x, y, z, t] ++ [false]) = a % 16 * 2 := by
    rw [value_append, ← hbits, value_bitsOf]
    rfl
  rw [sixes, hbits, if_neg (List.cons_ne_nil x _)]
  show bin2base64 (fill 0 [x, y, z, t]) :: sixes [] = _
  rw [hfill, bin2base64_eq _ (by omega), hvalue, sixes, if_pos rfl]

/-- What is appended for bytes. -/
def codeText (bytes : List UInt8) : Str :=
  sixes (byteBits bytes) ++ List.replicate ((24 - (byteBits bytes).length % 24) / 6) pad

theorem length_byteBits (bytes : List UInt8) : (byteBits bytes).length = 8 * bytes.length := by
  induction bytes with
  | nil => rfl
  | cons b bytes ih =>
    have hcons : byteBits (b :: bytes) = bitsOf 8 b.toNat ++ byteBits bytes := rfl
    rw [hcons, List.length_append, length_bitsOf, ih, List.length_cons]
    ring

theorem codeText_cons (a b c : UInt8) (bytes : List UInt8) : codeText (a :: b :: c :: bytes) =
    char (a.toNat / 4) :: char (a.toNat % 4 * 16 + b.toNat / 16) :: char (b.toNat % 16 * 4 + c.toNat / 64) :: char (c.toNat % 64) ::
      codeText bytes := by
  have ha := a.toNat_lt
  have hb := b.toNat_lt
  have hc := c.toNat_lt
  have hbits : byteBits (a :: b :: c :: bytes) = bitsOf 6 (a.toNat / 4) ++ (bitsOf 6 (a.toNat % 4 * 16 + b.toNat / 16) ++
      (bitsOf 6 (b.toNat % 16 * 4 + c.toNat / 64) ++ (bitsOf 6 (c.toNat % 64) ++ byteBits bytes))) := by
    have hgroup := group_bits a b c
    simp only [byteBits, List.flatMap_cons, ← List.append_assoc] at hgroup ⊢
    rw [hgroup]
  have hlength : (byteBits (a :: b :: c :: bytes)).length % 24 = (byteBits bytes).length % 24 := by
    rw [length_byteBits, length_byteBits, List.length_cons, List.length_cons, List.length_cons]
    omega
  rw [codeText, hlength, hbits, sixes_append (by omega), sixes_append (by omega), sixes_append (by omega), sixes_append (by omega)]
  rfl

theorem encode_cons (a b c : UInt8) (bytes : List UInt8) : encode (a :: b :: c :: bytes) =
    char (a.toNat / 4) :: char (a.toNat % 4 * 16 + b.toNat / 16) :: char (b.toNat % 16 * 4 + c.toNat / 64) :: char (c.toNat % 64) ::
      encode bytes := by
  rw [encode, indices, padding_cons]
  rfl

theorem lastClear_cons (a b c : UInt8) (bytes : List UInt8) : LastClear (a :: b :: c :: bytes) ↔ LastClear bytes := by
  have hlength : (a :: b :: c :: bytes).length % 3 = bytes.length % 3 := by
    rw [List.length_cons, List.length_cons, List.length_cons]
    omega
  rw [LastClear, LastClear, hlength]
  cases bytes with
  | nil => simp
  | cons d bytes => rw [List.getLast?_cons_cons, List.getLast?_cons_cons, List.getLast?_cons_cons]

/-- The code has the standard text if the last byte has none of the bits that are shifted too little. -/
theorem codeText_eq_iff (bytes : List UInt8) : codeText bytes = encode bytes ↔ LastClear bytes := by
  induction bytes using indices.induct with
  | case1 a b c bytes ih =>
    rw [codeText_cons, encode_cons, lastClear_cons, ← ih]
    simp
  | case2 a b =>
    have ha := a.toNat_lt
    have hb := b.toNat_lt
    have hbits : byteBits [a, b] = bitsOf 6 (a.toNat / 4) ++ (bitsOf 6 (a.toNat % 4 * 16 + b.toNat / 16) ++ bitsOf 4 b.toNat) := by
      rw [← List.append_assoc, pair_bits]
      simp [byteBits]
    have hcode : codeText [a, b] =
        [char (a.toNat / 4), char (a.toNat % 4 * 16 + b.toNat / 16), char (b.toNat % 16 * 2), pad] := by
      have hpadcount : (24 - 8 * [a, b].length % 24) / 6 = 1 := by simp
      rw [codeText, length_byteBits, hbits, sixes_append (by omega), sixes_append (by omega), sixes_four, hpadcount]
      rfl
    have hencode : encode [a, b] =
        [char (a.toNat / 4), char (a.toNat % 4 * 16 + b.toNat / 16), char (b.toNat % 16 * 4), pad] := rfl
    have hclear : LastClear [a, b] ↔ b.toNat % 16 = 0 := by simp [LastClear]
    rw [hcode, hencode, hclear]
    constructor
    · intro h
      have hchar : char (b.toNat % 16 * 2) = char (b.toNat % 16 * 4) := by simpa using h
      have hindex := char_inj (by omega) (by omega) hchar
      omega
    · intro h
      rw [h]
  | case3 a =>
    have ha := a.toNat_lt
    have hbits : byteBits [a] = bitsOf 6 (a.toNat / 4) ++ bitsOf 2 a.toNat := by
      rw [byteBits, List.flatMap_singleton]
      exact bitsOf_byte 6 2 rfl a
    have hcode : codeText [a] = [char (a.toNat / 4), char (a.toNat % 4 * 4), pad, pad] := by
      have hpadcount : (24 - 8 * [a].length % 24) / 6 = 2 := by simp
      rw [codeText, length_byteBits, hbits, sixes_append (by omega), sixes_two, hpadcount]
      rfl
    have hencode : encode [a] = [char (a.toNat / 4), char (a.toNat % 4 * 16), pad, pad] := rfl
    have hclear : LastClear [a] ↔ a.toNat % 4 = 0 := by simp [LastClear]
    rw [hcode, hencode, hclear]
    constructor
    · intro h
      have hchar : char (a.toNat % 4 * 4) = char (a.toNat % 4 * 16) := by simpa using h
      have hindex := char_inj (by omega) (by omega) hchar
      omega
    · intro h
      rw [h]
  | case4 =>
    refine iff_of_false ?_ (by simp [LastClear])
    rw [codeText, byteBits, List.flatMap_nil, sixes, if_pos rfl]
    decide

theorem hex2base64_eq (heven : hexstr.length % 2 = 0) (hdigits : ∀ c ∈ hexstr, Strtol.digitValue c < 16) (base64str : Str) :
    hex2base64 hexstr base64str = base64str ++ codeText (denoted hexstr) := by
  rw [hex2base64, (hexbin_eq heven hdigits).1, List.append_assoc]
  rfl

/-! ### The way back -/

theorem fours_append {d : Nat} (h : d < 16) (rest : List Bool) : fours (bitsOf 4 d ++ rest) = upperDigit d :: fours rest := by
  have htake : (bitsOf 4 d ++ rest).take 4 = bitsOf 4 d := List.take_left' (length_bitsOf 4 d)
  have hdrop : (bitsOf 4 d ++ rest).drop 4 = rest := List.drop_left' (length_bitsOf 4 d)
  rw [fours, if_neg (by simp [bitsOf]), htake, hdrop, bin2hex_bitsOf h]

theorem fours_byteBits (bytes : List UInt8) : fours (byteBits bytes) = upperHex bytes := by
  induction bytes with
  | nil => rw [byteBits, List.flatMap_nil, fours, if_pos rfl]; rfl
  | cons b bytes ih =>
    have hb := b.toNat_lt
    have hbits : byteBits (b :: bytes) = bitsOf 4 (b.toNat / 16) ++ (bitsOf 4 (b.toNat % 16) ++ byteBits bytes) := by
      have hlower : bitsOf 4 (b.toNat % 16) = bitsOf 4 b.toNat := bitsOf_mod 4 b.toNat le_rfl
      have hbyte : bitsOf 8 b.toNat = bitsOf 4 (b.toNat / 16) ++ bitsOf 4 b.toNat := bitsOf_byte 4 4 rfl b
      rw [hlower, ← List.append_assoc, ← hbyte]
      rfl
    rw [hbits, fours_append (by omega), fours_append (by omega), ih]
    rfl

/-- The standard text of bytes becomes their digits. -/
theorem base642hex_encode (bytes : List UInt8) (out : Str) : base642hex (encode bytes) out = out ++ upperHex bytes := by
  have hlt := indices_lt bytes
  have hne : ∀ c ∈ (indices bytes).map char, c ≠ pad := by
    intro c hc
    obtain ⟨i, hi, rfl⟩ := List.mem_map.mp hc
    exact char_ne_pad (hlt i hi)
  have hfilter : (encode bytes).filter (· ≠ pad) = (indices bytes).map char := by
    rw [encode, List.filter_append, List.filter_eq_self.mpr (by simpa using hne), List.filter_eq_nil_iff.mpr (by simp),
      List.append_nil]
  have hbin : ((encode bytes).filter (· ≠ pad)).flatMap base642bin = byteBits bytes ++ List.replicate (2 * padding bytes) false := by
    rw [hfilter, List.flatMap_map, List.flatMap_congr fun i hi => base642bin_char (hlt i hi), flatMap_indices]
  have hpad : (if pad ∈ encode bytes then (encode bytes).length - (encode bytes).idxOf pad else 0) = padding bytes := by
    have hnot : pad ∉ (indices bytes).map char := fun h => hne pad h rfl
    cases hk : padding bytes with
    | zero =>
      rw [encode, hk, List.replicate_zero, List.append_nil]
      exact if_neg hnot
    | succ k =>
      have hmem : pad ∈ encode bytes := by
        rw [encode, hk, List.replicate_succ]
        exact List.mem_append_right _ List.mem_cons_self
      rw [if_pos hmem, encode, hk, List.replicate_succ, List.idxOf_append_of_notMem hnot, List.idxOf_cons_self, List.length_append,
        List.length_cons, List.length_replicate]
      omega
  rw [base642hex, hbin, hpad]
  have hlength : (byteBits bytes ++ List.replicate (2 * padding bytes) false).length =
      (byteBits bytes).length + padding bytes * 2 := by
    rw [List.length_append, List.length_replicate, Nat.mul_comm]
  rw [hlength, if_pos (Nat.le_add_left _ _), Nat.add_sub_cancel, List.take_left, fours_byteBits]

/-- The text that is appended is the standard one, and becomes the digits again, exactly if the last group lacks something and
the bits that are shifted too little are clear. The standard text of any bytes becomes their digits. -/
theorem hex2base64_iff (hexstr : Str) (heven : hexstr.length % 2 = 0) (hdigits : ∀ c ∈ hexstr, Strtol.digitValue c < 16) :
    (RoundTrips hexstr ↔ LastClear (denoted hexstr)) ∧ ∀ bytes out, base642hex (encode bytes) out = out ++ upperHex bytes := by
  refine ⟨?_, base642hex_encode⟩
  rw [← codeText_eq_iff]
  constructor
  · rintro ⟨text, happend, htext, -⟩
    have hcode := (hex2base64_eq heven hdigits []).symm.trans (happend [])
    rw [List.nil_append, List.nil_append] at hcode
    exact hcode.trans htext
  · intro htext
    refine ⟨codeText (denoted hexstr), hex2base64_eq heven hdigits, htext, fun out => ?_⟩
    rw [htext, base642hex_encode, (hexbin_eq heven hdigits).2]

theorem roundTrips_digits : RoundTrips (CString.lit "cafe4C00") :=
  (hex2base64_iff (CString.lit "cafe4C00") (by decide +kernel) (by decide +kernel)).1.mpr (by unfold LastClear; decide +kernel)

/-- Three bytes have `=` behind them, and of one byte the last bits are lost. -/
theorem not_roundTrips_digits : ¬ RoundTrips (CString.lit "4d616e") ∧ ¬ RoundTrips (CString.lit "4d") ∧
    hex2base64 (CString.lit "4d616e") [] = CString.lit "TWFu====" ∧ hex2base64 (CString.lit "4d") [] = CString.lit "TE==" := by
  refine ⟨?_, ?_, by decide +kernel, by decide +kernel⟩
  · rintro ⟨text, happend, htext, -⟩
    have hcode := happend []
    rw [htext] at hcode
    exact absurd hcode (by decide +kernel)
  · rintro ⟨text, happend, htext, -⟩
    have hcode := happend []
    rw [htext] at hcode
    exact absurd hcode (by decide +kernel)

end V2xHub.Security
