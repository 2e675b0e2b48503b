import V2xHub.Lib.Base64Text

/-!
# Base64

`Base64::Encode` takes three bytes a round, `Base64::Decode` four characters, up to a character that is not one of the
alphabet. The arrays of the source hold bytes, so a sum is cut to 8 bits.
-/

namespace V2xHub.Base64

def base64_chars : Str := CString.lit "ABCDEFGHIJKLMNOPQRSTUVWXYZabcdefghijklmnopqrstuvwxyz0123456789+/"

def pad : UInt8 := 61

/-- `isalnum` in the C locale, or one of the two signs. -/
def IsBase64 (c : UInt8) : Bool :=
  (48 ≤ c && c ≤ 57) || (65 ≤ c && c ≤ 90) || (97 ≤ c && c ≤ 122) || c == 43 || c == 47

/-- `base64_chars[i]` -/
def char (i : Nat) : UInt8 := base64_chars.getD i 0

/-- `base64_chars.find(c)` -/
def find (c : UInt8) : Nat := base64_chars.idxOf c

/-- The four indices of three bytes. -/
def quad (a b c : UInt8) : List Nat :=
  [(a.toNat &&& 0xfc) >>> 2, ((a.toNat &&& 0x03) <<< 4) + ((b.toNat &&& 0xf0) >>> 4),
    ((b.toNat &&& 0x0f) <<< 2) + ((c.toNat &&& 0xc0) >>> 6), c.toNat &&& 0x3f]

def Encode : Str → Str
  | a :: b :: c :: rest => (quad a b c).map char ++ Encode rest
  | [a, b] => ((quad a b 0).take 3).map char ++ [pad]
  | [a] => ((quad a 0 0).take 2).map char ++ [pad, pad]
  | [] => []

/-- The three bytes of four indices. -/
def triple (i j k l : Nat) : Str :=
  [.ofNat ((i <<< 2) + ((j &&& 0x30) >>> 4)), .ofNat (((j &&& 0xf) <<< 4) + ((k &&& 0x3c) >>> 2)),
    .ofNat (((k &&& 0x3) <<< 6) + l)]

/-- Of a last group of fewer than four characters one byte less is kept. -/
def decodeChars : Str → Str
  | c :: d :: e :: f :: rest => triple (find c) (find d) (find e) (find f) ++ decodeChars rest
  | [c, d, e] => (triple (find c) (find d) (find e) 0).take 2
  | [c, d] => (triple (find c) (find d) 0 0).take 1
  | [_] => []
  | [] => []

def Decode (encoded_string : Str) : Str :=
  decodeChars (encoded_string.takeWhile fun c => c != pad && IsBase64 c)

/-! ### Round trip -/

theorem char_find : ∀ i < 64, (char i != pad && IsBase64 (char i)) = true ∧ find (char i) = i := by
  unfold char find base64_chars
  rw [CString.lit_ofList]
  decide +kernel

theorem quad_eq (a b c : UInt8) : quad a b c =
    [a.toNat / 4, a.toNat % 4 * 16 + b.toNat / 16, b.toNat % 16 * 4 + c.toNat / 64, c.toNat % 64] := by
  have hbits : ∀ n < 256, (n &&& 0xfc) >>> 2 = n / 4 ∧ (n &&& 0x03) <<< 4 = n % 4 * 16 ∧ (n &&& 0xf0) >>> 4 = n / 16 ∧
      (n &&& 0x0f) <<< 2 = n % 16 * 4 ∧ (n &&& 0xc0) >>> 6 = n / 64 ∧ n &&& 0x3f = n % 64 := by decide +kernel
  obtain ⟨h1, h2, -⟩ := hbits a.toNat a.toNat_lt
  obtain ⟨-, -, h3, h4, -⟩ := hbits b.toNat b.toNat_lt
  obtain ⟨-, -, -, -, h5, h6⟩ := hbits c.toNat c.toNat_lt
  rw [quad, h1, h2, h3, h4, h5, h6]

theorem triple_eq {i j k l : Nat} (hi : i < 64) (hj : j < 64) (hk : k < 64) : triple i j k l =
    [.ofNat (i * 4 + j / 16), .ofNat (j % 16 * 16 + k / 4), .ofNat (k % 4 * 64 + l)] := by
  have hbits : ∀ n < 64, n <<< 2 = n * 4 ∧ (n &&& 0x30) >>> 4 = n / 16 ∧ (n &&& 0xf) <<< 4 = n % 16 * 16 ∧
      (n &&& 0x3c) >>> 2 = n / 4 ∧ (n &&& 0x3) <<< 6 = n % 4 * 64 := by decide
  obtain ⟨h1, -⟩ := hbits i hi
  obtain ⟨-, h2, h3, -⟩ := hbits j hj
  obtain ⟨-, -, -, h4, h5⟩ := hbits k hk
  rw [triple, h1, h2, h3, h4, h5]

theorem triple_quad (a b c : UInt8) : triple (a.toNat / 4) (a.toNat % 4 * 16 + b.toNat / 16)
    (b.toNat % 16 * 4 + c.toNat / 64) (c.toNat % 64) = [a, b, c] := by
  have ha := a.toNat_lt
  have hb := b.toNat_lt
  have hc := c.toNat_lt
  rw [triple_eq (by omega) (by omega) (by omega)]
  have h1 : a.toNat / 4 * 4 + (a.toNat % 4 * 16 + b.toNat / 16) / 16 = a.toNat := by omega
  have h2 : (a.toNat % 4 * 16 + b.toNat / 16) % 16 * 16 + (b.toNat % 16 * 4 + c.toNat / 64) / 4 = b.toNat := by omega
  have h3 : (b.toNat % 16 * 4 + c.toNat / 64) % 4 * 64 + c.toNat % 64 = c.toNat := by omega
  rw [h1, h2, h3, UInt8.ofNat_toNat, UInt8.ofNat_toNat, UInt8.ofNat_toNat]

theorem quad_lt (a b c : UInt8) : ∀ i ∈ quad a b c, i < 64 := by
  have ha := a.toNat_lt
  have hb := b.toNat_lt
  have hc := c.toNat_lt
  rw [quad_eq]
  simp only [List.forall_mem_cons, List.not_mem_nil, false_imp_iff, implies_true, and_true]
  omega

theorem takeWhile_chars {is : List Nat} (h : ∀ i ∈ is, i < 64) (rest : Str) :
    (is.map char ++ rest).takeWhile (fun c => c != pad && IsBase64 c) =
      is.map char ++ rest.takeWhile (fun c => c != pad && IsBase64 c) := by
  refine List.takeWhile_append_of_pos fun c hc => ?_
  obtain ⟨i, hi, rfl⟩ := List.mem_map.1 hc
  exact (char_find i (h i hi)).1

theorem Decode_Encode : ∀ s : Str, Decode (Encode s) = s
  | a :: b :: c :: rest => by
    have ih := Decode_Encode rest
    have hlt := quad_lt a b c
    rw [Encode, Decode, takeWhile_chars hlt]
    rw [quad_eq] at hlt ⊢
    simp only [List.forall_mem_cons] at hlt
    obtain ⟨h1, h2, h3, h4, -⟩ := hlt
    simp only [List.map_cons, List.map_nil, List.cons_append, List.nil_append]
    rw [decodeChars, (char_find _ h1).2, (char_find _ h2).2, (char_find _ h3).2, (char_find _ h4).2, triple_quad]
    exact congrArg ([a, b, c] ++ ·) ih
  | [a, b] => by
    have hlt := quad_lt a b 0
    rw [Encode, Decode, takeWhile_chars fun i hi => hlt i (List.mem_of_mem_take hi)]
    rw [quad_eq] at hlt ⊢
    simp only [List.forall_mem_cons] at hlt
    obtain ⟨h1, h2, h3, -⟩ := hlt
    have htriple := congrArg (List.take 2) (triple_quad a b 0)
    simp only [List.take_succ_cons, List.take_zero, List.map_cons, List.map_nil, List.cons_append, List.nil_append]
    rw [List.takeWhile_cons_of_neg (by decide), decodeChars, (char_find _ h1).2, (char_find _ h2).2, (char_find _ h3).2]
    exact htriple
  | [a] => by
    have hlt := quad_lt a 0 0
    rw [Encode, Decode, takeWhile_chars fun i hi => hlt i (List.mem_of_mem_take hi)]
    rw [quad_eq] at hlt ⊢
    simp only [List.forall_mem_cons] at hlt
    obtain ⟨h1, h2, -⟩ := hlt
    have htriple := congrArg (List.take 1) (triple_quad a 0 0)
    simp only [List.take_succ_cons, List.take_zero, List.map_cons, List.map_nil, List.cons_append, List.nil_append]
    rw [List.takeWhile_cons_of_neg (by decide), decodeChars, (char_find _ h1).2, (char_find _ h2).2]
    exact htriple
  | [] => rfl

/-- The text is the standard one. -/
theorem Encode_eq : ∀ s : Str, Encode s = Base64Text.encode s
  | a :: b :: c :: rest => by
    rw [Encode, Encode_eq rest, quad_eq, Base64Text.encode, Base64Text.encode, Base64Text.indices, Base64Text.padding_cons]
    rfl
  | [a, b] => by
    rw [Encode, quad_eq]
    rfl
  | [a] => by
    rw [Encode, quad_eq]
    rfl
  | [] => rfl

end V2xHub.Base64
