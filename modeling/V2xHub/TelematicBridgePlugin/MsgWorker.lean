import V2xHub.Lib.Printf
import V2xHub.RouteableMessage.Payload
import Mathlib.Tactic.Ring

/-!
# The messages of the telematic bridge

`HexToBytes` and `ConvertJ2735FrameToXML`: the digits of a payload become the bytes of a J2735 frame, and what the encoder of XML
hands over piece by piece is collected in a buffer that is doubled when it is full. The decoder and the encoder are parameters,
the encoder by the pieces it hands over. The loop over the digits has no bound here; in the source its index is an `int`, for
texts of less than `2 ^ 31` characters.

A byte of the buffer that was not written is `none`. An access outside of the buffer, or to a byte that was not written, makes the
whole result `none`.
-/

namespace V2xHub.TelematicBridgePlugin

open RouteableMessage

/-! ### From digits to bytes -/

/-- The value of a hexadecimal digit. -/
def nibble (c : UInt8) : Option UInt8 :=
  if c ≤ 57 ∧ 48 ≤ c then some (c - 48)
  else if c ≤ 70 ∧ 65 ≤ c then some (c - 55)
  else if c ≤ 102 ∧ 97 ≤ c then some (c - 87)
  else none

/-- The loop from digit `i` on: whether every character was a digit, and the bytes. -/
def hexLoop : Nat → Str → ByteStream → Bool × ByteStream
  | _, [], byteBuffer => (true, byteBuffer)
  | i, c :: hexPaylod, byteBuffer =>
    match nibble c with
    | none => (false, byteBuffer)
    | some d =>
      hexLoop (i + 1) hexPaylod
        (if i % 2 ≠ 0 then byteBuffer.dropLast ++ [byteBuffer.getLastD 0 ||| d] else byteBuffer ++ [d <<< 4])

def HexToBytes (hexPaylod : Str) (byteBuffer : ByteStream) : Bool × ByteStream := hexLoop 0 hexPaylod byteBuffer

/-! ### The buffer -/

/-- `allocated_size` is the size of the array; there is none at first. -/
structure buffer_structure where
  buffer : List (Option UInt8)
  buffer_size : Nat
  allocated_size : Nat

/-- `2 ^ 64`: a `size_t` has 64 bits. -/
def size_t : Nat := 2 ^ 64

def memcpy (dest : List (Option UInt8)) (offset : Nat) (src : List (Option UInt8)) : Option (List (Option UInt8)) :=
  if offset + src.length ≤ dest.length then some (dest.take offset ++ src ++ dest.drop (offset + src.length)) else none

/-- The loop that makes room for `size` more bytes. Every round doubles the size, so that it is left before the 64th. -/
def enlarge (malloc : Nat → Bool) (size : Nat) : Nat → buffer_structure → Option (Bool × buffer_structure)
  | 0, _ => none
  | fuel + 1, xb =>
    if xb.allocated_size < (xb.buffer_size + size + 1) % size_t then
      let new_size := 2 * (if xb.allocated_size ≠ 0 then xb.allocated_size else 64) % size_t
      if malloc new_size then
        (memcpy (.replicate new_size none) 0 (xb.buffer.take xb.buffer_size)).bind fun new_buf =>
          enlarge malloc size fuel ⟨new_buf, xb.buffer_size, new_size⟩
      else some (false, xb)
    else some (true, xb)

def DynamicBufferAppend (malloc : Nat → Bool) (buffer : Str) (xb : buffer_structure) : Option (Int × buffer_structure) :=
  (enlarge malloc buffer.length 64 xb).bind fun (enough, xb) =>
    if enough then
      (memcpy xb.buffer xb.buffer_size (buffer.map some)).bind fun b =>
        let buffer_size := (xb.buffer_size + buffer.length) % size_t
        (memcpy b buffer_size [some 0]).map fun b => (0, ⟨b, buffer_size, xb.allocated_size⟩)
    else some (-1, xb)

/-- `xer_encode` hands over its pieces until one is refused. -/
def xer_encode (malloc : Nat → Bool) : List Str → buffer_structure → Option (Bool × buffer_structure)
  | [], xb => some (true, xb)
  | piece :: pieces, xb =>
    (DynamicBufferAppend malloc piece xb).bind fun (result, xb) =>
      if result < 0 then some (false, xb) else xer_encode malloc pieces xb

/-- `std::string(buffer)`: the bytes up to the first zero. -/
def readString : List (Option UInt8) → Option Str
  | [] => none
  | none :: _ => none
  | some c :: buffer => if c = 0 then some [] else (readString buffer).map (c :: ·)

/-- What `TelematicBridgeException` says of a frame. -/
def notConverted (messageId : Int) : Str :=
  CString.lit "Failed to  convert message with ID (=" ++ Printf.lld messageId ++ CString.lit ") to XML "

/-- `encodable` says whether the encoder comes to its end. -/
def ConvertJ2735FrameToXML (malloc : Nat → Bool) (messageId : Int) (pieces : List Str) (encodable : Bool) :
    Option (Except Str Str) :=
  (xer_encode malloc pieces ⟨[], 0, 0⟩).bind fun (complete, xml_buffer) =>
    if complete && encodable then (readString xml_buffer.buffer).map .ok else some (.error (notConverted messageId))

/-! ### The digits of a payload -/

theorem nibble_spec {c d : UInt8} (h : nibble c = some d) : d < 16 ∧ hexDigit d = CString.tolower c := by
  have hall : ∀ n : Fin 256,
      (nibble (.ofNat n)).all (fun d => d < 16 ∧ hexDigit d = CString.tolower (.ofNat n)) = true := by decide +kernel
  have hc := hall ⟨c.toNat, c.toNat_lt⟩
  simp only [UInt8.ofNat_toNat] at hc
  rw [h] at hc
  exact of_decide_eq_true hc

/-- The byte of two digits. -/
theorem nibbles_spec {d e : UInt8} (hd : d < 16) (he : e < 16) : (d <<< 4 ||| e) / 16 = d ∧ (d <<< 4 ||| e) % 16 = e := by
  have hall : ∀ m n : Fin 16, ((.ofNat m : UInt8) <<< 4 ||| .ofNat n) / 16 = .ofNat m ∧
      ((.ofNat m : UInt8) <<< 4 ||| .ofNat n) % 16 = .ofNat n := by decide +kernel
  simpa using hall ⟨d.toNat, hd⟩ ⟨e.toNat, he⟩

/-- Behind an odd number of digits the low half of the last byte is 0. -/
def padding (hexPaylod : Str) : Str := if hexPaylod.length % 2 = 1 then [48] else []

theorem hexLoop_even : ∀ (hexPaylod : Str) (i : Nat) (byteBuffer : ByteStream), i % 2 = 0 →
    (∀ c ∈ hexPaylod, (nibble c).isSome) → ∃ bytes, hexLoop i hexPaylod byteBuffer = (true, byteBuffer ++ bytes) ∧
      byte_stream_encode bytes = hexPaylod.map CString.tolower ++ padding hexPaylod
  | [], _, byteBuffer, _, _ => ⟨[], by rw [List.append_nil]; rfl, rfl⟩
  | [a], i, byteBuffer, hi, hdigit => by
    obtain ⟨d, hd⟩ := Option.isSome_iff_exists.1 (hdigit a (List.mem_singleton_self a))
    obtain ⟨hlt, hprint⟩ := nibble_spec hd
    obtain ⟨hhigh, hlow⟩ := nibbles_spec (e := 0) hlt (by decide)
    rw [UInt8.or_zero] at hhigh hlow
    refine ⟨[d <<< 4], ?_, ?_⟩
    · rw [hexLoop, hd]
      dsimp only
      rw [if_neg (not_not.2 hi), hexLoop]
    · rw [encode_cons, hhigh, hlow, hprint]
      rfl
  | a :: b :: hexPaylod, i, byteBuffer, hi, hdigit => by
    simp only [List.forall_mem_cons] at hdigit
    obtain ⟨ha, hb, htail⟩ := hdigit
    obtain ⟨d, hd⟩ := Option.isSome_iff_exists.1 ha
    obtain ⟨e, he⟩ := Option.isSome_iff_exists.1 hb
    obtain ⟨hdlt, hdprint⟩ := nibble_spec hd
    obtain ⟨helt, heprint⟩ := nibble_spec he
    obtain ⟨hhigh, hlow⟩ := nibbles_spec hdlt helt
    obtain ⟨bytes, hloop, hencode⟩ := hexLoop_even hexPaylod (i + 1 + 1) (byteBuffer ++ [d <<< 4 ||| e]) (by omega) htail
    refine ⟨(d <<< 4 ||| e) :: bytes, ?_, ?_⟩
    · rw [hexLoop, hd]
      dsimp only
      rw [if_neg (not_not.2 hi), hexLoop, he]
      dsimp only
      rw [if_pos (by omega), List.dropLast_concat, List.getLastD_concat, hloop, List.append_assoc, List.singleton_append]
    · have hpadding : padding (a :: b :: hexPaylod) = padding hexPaylod := by
        rw [padding, padding, List.length_cons, List.length_cons, Nat.add_assoc, Nat.add_mod_right]
      rw [encode_cons, hhigh, hlow, hdprint, heprint, hencode, hpadding]
      rfl

theorem isSome_of_hexLoop {hexPaylod : Str} {i : Nat} {byteBuffer : ByteStream} (h : (hexLoop i hexPaylod byteBuffer).1 = true) :
    ∀ c ∈ hexPaylod, (nibble c).isSome := by
  induction hexPaylod generalizing i byteBuffer with
  | nil => exact fun c hc => absurd hc List.not_mem_nil
  | cons c hexPaylod ih =>
    rw [hexLoop] at h
    cases hc : nibble c with
    | none =>
      rw [hc] at h
      nomatch h
    | some d =>
      rw [hc] at h
      exact List.forall_mem_cons.2 ⟨Option.isSome_of_eq_some hc, ih h⟩

/-- A payload is read if and only if it has nothing but digits, in either case, and then as the bytes whose digits they are. -/
theorem HexToBytes_iff (hexPaylod : Str) (bytes : ByteStream) :
    HexToBytes hexPaylod [] = (true, bytes) ↔
      (∀ c ∈ hexPaylod, (nibble c).isSome) ∧ byte_stream_encode bytes = hexPaylod.map CString.tolower ++ padding hexPaylod := by
  constructor
  · intro h
    have hdigit := isSome_of_hexLoop (congrArg Prod.fst h)
    obtain ⟨bytes', hloop, hencode⟩ := hexLoop_even hexPaylod 0 [] rfl hdigit
    obtain ⟨-, rfl⟩ := Prod.mk.inj (hloop.symm.trans h)
    exact ⟨hdigit, hencode⟩
  · rintro ⟨hdigit, hencode⟩
    obtain ⟨bytes', hloop, hencode'⟩ := hexLoop_even hexPaylod 0 [] rfl hdigit
    have hsame : some bytes' = some bytes := by rw [← decode_encode, ← decode_encode, hencode, hencode']
    rw [HexToBytes, hloop, List.nil_append, Option.some.inj hsame]

/-! ### What is in the buffer -/

variable {malloc : Nat → Bool} {xb : buffer_structure} {content piece : Str} {size fuel : Nat}

/-- The size that is doubled. -/
def buffer_structure.base (xb : buffer_structure) : Nat := if xb.allocated_size ≠ 0 then xb.allocated_size else 64

/-- The buffer has the content at its start. Its size is a power of two that was granted and is no larger than needed. -/
structure Contains (malloc : Nat → Bool) (xb : buffer_structure) (content : Str) : Prop where
  size : xb.buffer_size = content.length
  length : xb.buffer.length = xb.allocated_size
  fits : content.length ≤ xb.allocated_size
  small : xb.allocated_size < 2 ^ 63
  doubled : xb.allocated_size = 0 ∨ ∃ k, xb.allocated_size = 128 * 2 ^ k
  granted : ∀ j, 128 * 2 ^ j ≤ xb.allocated_size → malloc (128 * 2 ^ j)
  text : xb.buffer.take content.length = content.map some

theorem contains_nil (malloc : Nat → Bool) : Contains malloc ⟨[], 0, 0⟩ [] where
  size := rfl
  length := rfl
  fits := le_rfl
  small := by decide
  doubled := .inl rfl
  granted j hj := absurd hj (by have := Nat.two_pow_pos j; dsimp only; omega)
  text := rfl

theorem memcpy_of_le (dest src : List (Option UInt8)) (offset : Nat) (h : offset + src.length ≤ dest.length) :
    memcpy dest offset src = some (dest.take offset ++ src ++ dest.drop (offset + src.length)) := if_pos h

namespace Contains

theorem exists_base (h : Contains malloc xb content) : ∃ k, xb.base = 64 * 2 ^ k := by
  rw [buffer_structure.base]
  rcases h.doubled with hzero | ⟨k, hk⟩
  · exact ⟨0, by rw [if_neg (not_not.2 hzero)]; rfl⟩
  · have hpow := Nat.two_pow_pos k
    exact ⟨k + 1, by rw [if_pos (by omega), hk]; ring⟩

theorem base_bounds (h : Contains malloc xb content) :
    xb.allocated_size ≤ xb.base ∧ 64 ≤ xb.base ∧ xb.base < 2 ^ 63 := by
  have hsmall := h.small
  obtain ⟨k, hk⟩ := h.exists_base
  have hpow := Nat.two_pow_pos k
  unfold buffer_structure.base at hk ⊢
  split_ifs at hk ⊢ <;> omega

/-- A new array of the doubled size takes over the content. -/
theorem grown (h : Contains malloc xb content) (hsize : 2 * xb.base < 2 ^ 63) (hmalloc : malloc (2 * xb.base) = true) :
    ∃ new_buf, memcpy (.replicate (2 * xb.base) none) 0 (xb.buffer.take xb.buffer_size) = some new_buf ∧
      Contains malloc ⟨new_buf, xb.buffer_size, 2 * xb.base⟩ content := by
  obtain ⟨hle, hbase, -⟩ := h.base_bounds
  have hfits := h.fits
  have hlength : (xb.buffer.take xb.buffer_size).length = content.length := by
    rw [List.length_take, h.size, h.length]
    omega
  refine ⟨_, memcpy_of_le _ _ _ (by rw [hlength, List.length_replicate]; omega), h.size, ?_, by dsimp only; omega, hsize, ?_, ?_, ?_⟩
  · simp only [List.take_zero, List.nil_append, List.length_append, List.length_drop, List.length_replicate, hlength]
    omega
  · obtain ⟨k, hk⟩ := h.exists_base
    exact .inr ⟨k, by dsimp only; rw [hk]; ring⟩
  · intro j hj
    obtain ⟨k, hk⟩ := h.exists_base
    dsimp only at hj
    rcases Nat.lt_or_ge j k with hlt | hge
    · refine h.granted j ?_
      have hpow : 2 ^ (j + 1) ≤ 2 ^ k := Nat.pow_le_pow_right (by decide) hlt
      have hzero : xb.allocated_size ≠ 0 := by
        intro hzero
        rw [buffer_structure.base, if_neg (not_not.2 hzero)] at hk
        have := Nat.pow_succ 2 j
        have := Nat.two_pow_pos j
        omega
      rw [buffer_structure.base, if_pos hzero] at hk
      rw [hk]
      rw [Nat.pow_succ] at hpow
      omega
    · have hjk : j = k := by
        refine le_antisymm ?_ hge
        refine (Nat.pow_le_pow_iff_right (a := 2) (by decide)).1 ?_
        omega
      rw [hjk, show 128 * 2 ^ k = 2 * (64 * 2 ^ k) by ring, ← hk]
      exact hmalloc
  · rw [List.take_zero, List.nil_append, List.take_append_of_le_length (by omega), List.take_of_length_le (by omega), h.size,
      h.text]

/-- The loop ends with room for the next piece, or with a size that is needed and was not granted. -/
theorem enlarge (h : Contains malloc xb content) (hmalloc : ∀ n, 2 ^ 63 ≤ n → malloc n = false) (hsize : size < 2 ^ 63)
    (hfuel : 2 ^ 63 ≤ xb.base * 2 ^ fuel) :
    ∃ enough xb', TelematicBridgePlugin.enlarge malloc size fuel xb = some (enough, xb') ∧
      (enough = true → Contains malloc xb' content ∧ content.length + size + 1 ≤ xb'.allocated_size) ∧
      (enough = false → ∃ j, (j = 0 ∨ 64 * 2 ^ j ≤ content.length + size) ∧ malloc (128 * 2 ^ j) = false) := by
  obtain ⟨hle, hbase, hlt⟩ := h.base_bounds
  induction fuel generalizing xb with
  | zero => omega
  | succ fuel ih =>
    have hfits := h.fits
    have hsmall := h.small
    have hsum : (xb.buffer_size + size + 1) % size_t = content.length + size + 1 := by
      rw [h.size, size_t, Nat.mod_eq_of_lt (by omega)]
    have hnew : 2 * (if xb.allocated_size ≠ 0 then xb.allocated_size else 64) % size_t = 2 * xb.base := by
      rw [← buffer_structure.base, size_t, Nat.mod_eq_of_lt (by omega)]
    rw [TelematicBridgePlugin.enlarge, hsum]
    dsimp only
    rw [hnew]
    by_cases hfull : xb.allocated_size < content.length + size + 1
    · rw [if_pos hfull]
      cases hgranted : malloc (2 * xb.base) with
      | true =>
        have hbound : 2 * xb.base < 2 ^ 63 := by
          by_contra hbound
          rw [hmalloc _ (by omega)] at hgranted
          nomatch hgranted
        obtain ⟨new_buf, hcopy, hcontains⟩ := h.grown hbound hgranted
        rw [if_pos rfl, hcopy, Option.bind_some]
        have hdouble : buffer_structure.base ⟨new_buf, xb.buffer_size, 2 * xb.base⟩ = 2 * xb.base := if_pos (by dsimp only; omega)
        obtain ⟨hle', hbase', hlt'⟩ := hcontains.base_bounds
        refine ih hcontains ?_ hle' hbase' hlt'
        rw [hdouble]
        calc 2 ^ 63 ≤ xb.base * 2 ^ (fuel + 1) := hfuel
          _ = 2 * xb.base * 2 ^ fuel := by ring
      | false =>
        rw [if_neg (by decide)]
        refine ⟨false, xb, rfl, nofun, fun _ => ?_⟩
        obtain ⟨k, hk⟩ := h.exists_base
        refine ⟨k, ?_, by rw [show 128 * 2 ^ k = 2 * (64 * 2 ^ k) by ring, ← hk]; exact hgranted⟩
        rw [← hk, buffer_structure.base]
        split_ifs with hzero
        · right
          omega
        · left
          rw [buffer_structure.base, if_neg hzero] at hk
          have hpow : 2 ^ k = 2 ^ 0 := by omega
          exact Nat.pow_right_injective le_rfl hpow
    · rw [if_neg hfull]
      exact ⟨true, xb, rfl, fun _ => ⟨h, by omega⟩, nofun⟩

/-- One more piece. -/
theorem append (h : Contains malloc xb content) (hmalloc : ∀ n, 2 ^ 63 ≤ n → malloc n = false) (hpiece : piece.length < 2 ^ 63) :
    ∃ result xb', DynamicBufferAppend malloc piece xb = some (result, xb') ∧
      (result = 0 ∧ Contains malloc xb' (content ++ piece) ∧
          (∃ rest, xb'.buffer = (content ++ piece).map some ++ some 0 :: rest) ∨
        result = -1 ∧ ∃ j, (j = 0 ∨ 64 * 2 ^ j ≤ content.length + piece.length) ∧ malloc (128 * 2 ^ j) = false) := by
  have hfuel : 2 ^ 63 ≤ xb.base * 2 ^ 64 := by
    obtain ⟨-, hbase, -⟩ := h.base_bounds
    omega
  obtain ⟨enough, xb', henlarge, hroom, hrefused⟩ := h.enlarge hmalloc hpiece hfuel
  rw [DynamicBufferAppend, henlarge, Option.bind_some]
  dsimp only
  cases enough with
  | false => exact ⟨-1, xb', rfl, .inr ⟨rfl, hrefused rfl⟩⟩
  | true =>
    obtain ⟨hcontains, hle⟩ := hroom rfl
    have hlength := hcontains.length
    have hsmall := hcontains.small
    have hwrite := memcpy_of_le xb'.buffer (piece.map some) content.length
      (by rw [List.length_map]; omega)
    have hend : (content.length + piece.length) % size_t = content.length + piece.length := by
      rw [size_t, Nat.mod_eq_of_lt (by omega)]
    rw [if_pos rfl, hcontains.size, hwrite, Option.bind_some, hend, hcontains.text, ← List.map_append, List.length_map]
    have hzero := memcpy_of_le ((content ++ piece).map some ++ xb'.buffer.drop (content.length + piece.length)) [some 0]
      (content.length + piece.length)
      (by simp only [List.length_append, List.length_map, List.length_drop, List.length_singleton]; omega)
    have hwhole : ((content ++ piece).map some).length = content.length + piece.length := by
      rw [List.length_map, List.length_append]
    rw [hzero, Option.map_some, ← hwhole, List.take_left]
    refine ⟨0, _, rfl, .inl ⟨rfl, ⟨?_, ?_, ?_, hsmall, hcontains.doubled, hcontains.granted, ?_⟩, _, List.append_assoc _ _ _⟩⟩
    · rw [List.length_map]
    · rw [List.append_assoc, List.length_append, List.length_append, List.length_drop, List.length_append, List.length_drop,
        List.length_singleton, hwhole]
      dsimp only
      omega
    · rw [List.length_append]
      dsimp only
      omega
    · rw [List.append_assoc, ← List.length_map some, List.take_left]

/-- All pieces, and which sizes have to be granted. -/
theorem encode (h : Contains malloc xb content) (hmalloc : ∀ n, 2 ^ 63 ≤ n → malloc n = false) {pieces : List Str}
    (hpieces : ∀ piece ∈ pieces, piece.length < 2 ^ 63) :
    ∃ complete xb', xer_encode malloc pieces xb = some (complete, xb') ∧
      (complete = true → Contains malloc xb' (content ++ pieces.flatten) ∧
        (pieces ≠ [] → ∃ rest, xb'.buffer = (content ++ pieces.flatten).map some ++ some 0 :: rest)) ∧
      (complete = false → ∃ j, (j = 0 ∨ 64 * 2 ^ j ≤ content.length + pieces.flatten.length) ∧ malloc (128 * 2 ^ j) = false) := by
  induction pieces generalizing xb content with
  | nil =>
    refine ⟨true, xb, rfl, fun _ => ⟨?_, fun hne => absurd rfl hne⟩, nofun⟩
    rwa [List.flatten_nil, List.append_nil]
  | cons piece pieces ih =>
    obtain ⟨hpiece, htail⟩ := List.forall_mem_cons.1 hpieces
    obtain ⟨result, xb', happend, hresult⟩ := h.append hmalloc hpiece
    rw [xer_encode, happend, Option.bind_some, List.flatten_cons]
    dsimp only
    rcases hresult with ⟨rfl, hcontains, rest, hrest⟩ | ⟨rfl, j, hj, hrefused⟩
    · obtain ⟨complete, xb'', hencode, hcomplete, hfailed⟩ := ih hcontains htail
      rw [if_neg (by decide)]
      rw [List.append_assoc] at hcomplete
      refine ⟨complete, xb'', hencode, fun htrue => ⟨(hcomplete htrue).1, fun _ => ?_⟩, fun hfalse => ?_⟩
      · cases pieces with
        | nil =>
          obtain ⟨-, rfl⟩ := Prod.mk.inj (Option.some.inj hencode)
          exact ⟨rest, by rw [List.flatten_nil, List.append_nil]; exact hrest⟩
        | cons next pieces => exact (hcomplete htrue).2 (List.cons_ne_nil next pieces)
      · obtain ⟨j, hj, hrefused⟩ := hfailed hfalse
        refine ⟨j, hj.imp_right fun hle => ?_, hrefused⟩
        rw [List.length_append] at hle ⊢
        omega
    · rw [if_pos (by decide)]
      refine ⟨false, xb', rfl, nofun, fun _ => ⟨j, hj.imp_right fun hle => ?_, hrefused⟩⟩
      rw [List.length_append]
      omega

/-- What a finished buffer was granted. -/
theorem malloc_of_needed (h : Contains malloc xb content) {rest : List (Option UInt8)}
    (hrest : xb.buffer = content.map some ++ some 0 :: rest) {j : Nat} (hj : j = 0 ∨ 64 * 2 ^ j ≤ content.length) :
    malloc (128 * 2 ^ j) = true := by
  have hroom : content.length < xb.allocated_size := by
    rw [← h.length, hrest, List.length_append, List.length_map, List.length_cons]
    omega
  rcases h.doubled with hzero | ⟨k, hk⟩
  · omega
  · refine h.granted j ?_
    have hjk : 2 ^ j ≤ 2 ^ k := by
      rcases hj with rfl | hj
      · exact Nat.two_pow_pos k
      · refine Nat.pow_le_pow_right (by decide) (Nat.lt_succ_iff.1 ((Nat.pow_lt_pow_iff_right (a := 2) (by decide)).1 ?_))
        rw [Nat.pow_succ]
        omega
    omega

end Contains

theorem readString_terminated {rest : List (Option UInt8)} (h : 0 ∉ content) :
    readString (content.map some ++ some 0 :: rest) = some content := by
  induction content with
  | nil => rfl
  | cons c content ih =>
    obtain ⟨hc, htail⟩ := not_or.1 (mt List.mem_cons.2 h)
    rw [List.map_cons, List.cons_append, readString, if_neg (Ne.symm hc), ih htail]
    rfl

/-- The XML is what the encoder handed over, wherever the pieces were cut, if it came to its end and every size that the text needs
was granted; otherwise the frame is refused. Nothing is read or written outside of the buffer, or read before it was written. -/
theorem ConvertJ2735FrameToXML_spec (hmalloc : ∀ n, 2 ^ 63 ≤ n → malloc n = false) (messageId : Int) {pieces : List Str}
    (encodable : Bool) (hne : pieces ≠ []) (hpieces : ∀ piece ∈ pieces, piece.length < 2 ^ 63 ∧ 0 ∉ piece) :
    ((encodable = true ∧ ∀ j, j = 0 ∨ 64 * 2 ^ j ≤ pieces.flatten.length → malloc (128 * 2 ^ j) = true) →
      ConvertJ2735FrameToXML malloc messageId pieces encodable = some (.ok pieces.flatten)) ∧
    (¬ (encodable = true ∧ ∀ j, j = 0 ∨ 64 * 2 ^ j ≤ pieces.flatten.length → malloc (128 * 2 ^ j) = true) →
      ConvertJ2735FrameToXML malloc messageId pieces encodable = some (.error (notConverted messageId))) := by
  obtain ⟨complete, xb, hencode, hcomplete, hfailed⟩ :=
    (contains_nil malloc).encode hmalloc fun piece hpiece => (hpieces piece hpiece).1
  rw [ConvertJ2735FrameToXML, hencode, Option.bind_some]
  dsimp only
  simp only [List.nil_append, List.length_nil, Nat.zero_add] at hcomplete hfailed
  cases complete with
  | false =>
    obtain ⟨j, hj, hrefused⟩ := hfailed rfl
    refine ⟨fun h => ?_, fun _ => rfl⟩
    rw [h.2 j hj] at hrefused
    nomatch hrefused
  | true =>
    obtain ⟨hcontains, hrest⟩ := hcomplete rfl
    obtain ⟨rest, hrest⟩ := hrest hne
    have hzero : 0 ∉ pieces.flatten := by
      intro hmem
      obtain ⟨piece, hpiece, hmem⟩ := List.mem_flatten.1 hmem
      exact (hpieces piece hpiece).2 hmem
    cases encodable with
    | false => exact ⟨fun h => (Bool.false_ne_true h.1).elim, fun _ => rfl⟩
    | true =>
      refine ⟨fun _ => ?_, fun h => (h ⟨rfl, fun j => hcontains.malloc_of_needed hrest⟩).elim⟩
      rw [if_pos (by decide), hrest, readString_terminated hzero, Option.map_some]

/-- A frame in three pieces, for which the buffer is doubled twice. -/
def frame : List Str :=
  [CString.lit "<MessageFrame><messageId>20</messageId><value>",
    CString.lit "<BasicSafetyMessage><coreData><msgCnt>1</msgCnt></coreData></BasicSafetyMessage>",
    CString.lit "</value></MessageFrame>"]

theorem ConvertJ2735FrameToXML_frame : ConvertJ2735FrameToXML (· < 4096) 20 frame true = some (.ok frame.flatten) := by
  refine (ConvertJ2735FrameToXML_spec (fun n hn => decide_eq_false (by omega)) 20 true (List.cons_ne_nil _ _)
    (by decide +kernel)).1 ⟨rfl, fun j hj => decide_eq_true ?_⟩
  have hlength : frame.flatten.length < 256 := by decide +kernel
  rcases hj with rfl | hj
  · decide
  · have hpow : 64 * 2 ^ j < 256 := hj.trans_lt hlength
    omega

end V2xHub.TelematicBridgePlugin
