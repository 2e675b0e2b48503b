import V2xHub.IvpMessage.Envelope
import V2xHub.Lib.Strtol
import Mathlib.Data.List.TakeWhile

/-!
# Payloads of routeable messages

`set_payload` keeps a text as a JSON string of the message, `get_payload_str` prints that JSON value and takes one quote
off each end. What the printer escapes stays escaped, so a text comes back if and only if there is nothing to escape in
it (`payload_round_trip`). Byte strings travel as hexadecimal digits, and always come back.
-/

namespace V2xHub.RouteableMessage

/-! ### Texts -/

/-- The bytes before the first NUL: what `c_str()` gives a C function. -/
def c_str (s : Str) : Str := s.takeWhile (· != 0)

/-- `IVP_ENCODING_STRING` -/
def encodingString : Str := CString.lit "string"

/-- `IVP_ENCODING_BYTEARRAY` -/
def encodingByteArray : Str := CString.lit "bytearray/hexstring"

def set_encoding (msg : IvpMessage) (encoding : Str) : IvpMessage := { msg with encoding := some encoding }

/-- `set_payload(std::string)` -/
def set_payload (msg : IvpMessage) (payload : Str) : IvpMessage :=
  { set_encoding msg encodingString with payload := some (.string (c_str payload)) }

def get_payload_str (msg : IvpMessage) : Str :=
  match msg.payload with
  | none => []
  | some payload =>
    let payloadStr := payload.printUnformatted
    -- The cJSON print code may add quotation marks.
    let payloadStr := if payloadStr.head? = some 34 then payloadStr.tail else payloadStr
    if payloadStr.getLast? = some 34 then payloadStr.dropLast else payloadStr

/-! ### Bytes -/

abbrev ByteStream := List UInt8

/-- A digit of `%02x`. -/
def hexDigit (d : UInt8) : UInt8 := if d < 10 then 48 + d else 87 + d

def byte_stream_encode (bytes : ByteStream) : Str := bytes.flatMap fun b => [hexDigit (b / 16), hexDigit (b % 16)]

/-- `strtoul` in base 16, of a text too short for a prefix or an overflow. -/
def strtoul16 (buf : Str) : Int :=
  let (negative, s) := Strtol.sign (buf.dropWhile Strtol.isspace)
  let n := ((s.map CJson.hexValue).takeWhile Option.isSome).foldl (fun (n : Nat) d => 16 * n + d.getD 0) 0
  if negative then -(n : Int) else n

/-- Two characters a byte. Behind a single last character the iterator passes the end, and the loop reads on. -/
def byte_stream_decode : Str → Option ByteStream
  | [] => some []
  | [_] => none
  | a :: b :: str => (byte_stream_decode str).map (UInt8.ofInt (strtoul16 [a, b]) :: ·)

def get_payload_bytes (msg : IvpMessage) : Option ByteStream := byte_stream_decode (get_payload_str msg)

def set_payload_bytes (msg : IvpMessage) (bytes : ByteStream) : IvpMessage :=
  set_encoding (set_payload msg (byte_stream_encode bytes)) encodingByteArray

variable {libc : Libc} {msg : IvpMessage} {s : Str} {b : UInt8} {bytes : ByteStream}

/-! ### What is printed -/

theorem get_payload_str_string (h : msg.payload = some (.string s)) : get_payload_str msg = s.flatMap CJson.escape := by
  have hprint : (CJson.string s).printUnformatted = 34 :: (s.flatMap CJson.escape ++ [34]) := rfl
  unfold get_payload_str
  rw [h]
  dsimp only
  rw [hprint, List.head?_cons, if_pos rfl, List.tail_cons, List.getLast?_concat, if_pos rfl, List.dropLast_concat]

theorem escape_eq_self {c : UInt8} : CJson.escape c = [c] ↔ 31 < c.toNat ∧ c ≠ 34 ∧ c ≠ 92 := by
  constructor
  · intro h
    by_contra hc
    rw [CJson.escape, if_neg hc] at h
    have hlen := congrArg List.length h
    split_ifs at hlen <;> simp [CJson.printUnicode] at hlen
  · intro h
    rw [CJson.escape, if_pos h]

theorem escape_length (c : UInt8) : 1 ≤ (CJson.escape c).length := by
  unfold CJson.escape
  split_ifs <;> simp

/-- Every escape makes the text longer. -/
theorem flatMap_escape_eq_self : s.flatMap CJson.escape = s ↔ ∀ c ∈ s, CJson.escape c = [c] := by
  constructor
  · induction s with
    | nil => exact fun _ _ hc => absurd hc List.not_mem_nil
    | cons c s ih =>
      intro h
      have hlen := congrArg List.length h
      rw [List.flatMap_cons, List.length_append, List.length_cons] at hlen
      have hone : (CJson.escape c).length = 1 := by
        have := escape_length c
        have := CJson.length_le_flatMap s
        omega
      obtain ⟨d, hd⟩ := List.length_eq_one_iff.1 hone
      rw [List.flatMap_cons, hd, List.singleton_append, List.cons.injEq] at h
      refine List.forall_mem_cons.2 ⟨?_, ih h.2⟩
      rw [hd, h.1]
  · intro h
    rw [List.flatMap_congr h, List.flatMap_singleton']

theorem zero_not_mem_c_str (s : Str) : 0 ∉ c_str s := fun h => by
  exact absurd (List.mem_takeWhile_imp h) (by decide)

theorem c_str_eq_self (h : 0 ∉ s) : c_str s = s := by
  refine (List.takeWhile_eq_self_iff).2 fun c hc => bne_iff_ne.2 ?_
  rintro rfl
  exact h hc

/-- A text without control characters, quotes and backslashes. -/
def Plain (s : Str) : Prop := ∀ c ∈ s, 31 < c.toNat ∧ c ≠ 34 ∧ c ≠ 92

instance decidablePlain : DecidablePred Plain := fun s =>
  List.decidableBAll (fun c : UInt8 => 31 < c.toNat ∧ c ≠ 34 ∧ c ≠ 92) s

theorem get_payload_str_set_payload : get_payload_str (set_payload msg s) = s ↔ Plain s := by
  have hstr : get_payload_str (set_payload msg s) = (c_str s).flatMap CJson.escape := get_payload_str_string rfl
  rw [hstr]
  constructor
  · intro h
    -- no NUL is printed, so none was there
    have h0 : 0 ∉ s := fun h0 => by
      have hprint := CJson.printable_printString (c_str s) 0
      rw [CJson.printString, List.cons_append] at hprint
      rw [h] at hprint
      exact absurd (hprint (List.mem_cons_of_mem _ (List.mem_append_left _ h0))) (by decide)
    rw [c_str_eq_self h0] at h
    exact fun c hc => escape_eq_self.1 (flatMap_escape_eq_self.1 h c hc)
  · intro h
    have h0 : 0 ∉ s := fun h0 => absurd (h 0 h0).1 (by decide)
    rw [c_str_eq_self h0]
    exact flatMap_escape_eq_self.2 fun c hc => escape_eq_self.2 (h c hc)

/-! ### Hexadecimal digits -/

theorem encode_cons (b : UInt8) (bytes : ByteStream) :
    byte_stream_encode (b :: bytes) = hexDigit (b / 16) :: hexDigit (b % 16) :: byte_stream_encode bytes := rfl

theorem encode_append (l l' : ByteStream) : byte_stream_encode (l ++ l') = byte_stream_encode l ++ byte_stream_encode l' :=
  List.flatMap_append

theorem length_encode (bytes : ByteStream) : (byte_stream_encode bytes).length = 2 * bytes.length := by
  induction bytes with
  | nil => rfl
  | cons b bytes ih =>
    rw [encode_cons, List.length_cons, List.length_cons, ih, List.length_cons]
    omega

theorem strtoul16_hex (b : UInt8) : UInt8.ofInt (strtoul16 [hexDigit (b / 16), hexDigit (b % 16)]) = b := by
  have hall : ∀ n : Fin 256, UInt8.ofInt (strtoul16 [hexDigit (.ofNat n / 16), hexDigit (.ofNat n % 16)]) = .ofNat n := by
    decide +kernel
  simpa using hall ⟨b.toNat, b.toNat_lt⟩

theorem hexDigit_plain {d : UInt8} (h : d < 16) : 31 < (hexDigit d).toNat ∧ hexDigit d ≠ 34 ∧ hexDigit d ≠ 92 := by
  have hall : ∀ n : Fin 16, 31 < (hexDigit (.ofNat n)).toNat ∧ hexDigit (.ofNat n) ≠ 34 ∧ hexDigit (.ofNat n) ≠ 92 := by
    decide
  simpa using hall ⟨d.toNat, h⟩

theorem plain_encode (bytes : ByteStream) : Plain (byte_stream_encode bytes) := by
  intro c hc
  obtain ⟨b, -, hc⟩ := List.mem_flatMap.1 hc
  rcases List.mem_cons.1 hc with rfl | hc
  · refine hexDigit_plain (UInt8.lt_iff_toNat_lt.2 ?_)
    rw [UInt8.toNat_div]
    have := b.toNat_lt
    show b.toNat / 16 < 16
    omega
  · obtain rfl := List.mem_singleton.1 hc
    refine hexDigit_plain (UInt8.lt_iff_toNat_lt.2 ?_)
    rw [UInt8.toNat_mod]
    exact Nat.mod_lt _ (by decide)

theorem decode_encode (bytes : ByteStream) : byte_stream_decode (byte_stream_encode bytes) = some bytes := by
  induction bytes with
  | nil => rfl
  | cons b bytes ih =>
    rw [byte_stream_encode, List.flatMap_cons, List.cons_append, List.cons_append, List.nil_append, byte_stream_decode,
      strtoul16_hex]
    rw [byte_stream_encode] at ih
    rw [ih, Option.map_some]

/-! ### Through the envelope -/

/-- The header can be sent; the payload is not looked at. -/
def Header (msg : IvpMessage) : Prop := IvpMessage.Sendable { msg with payload := none }

theorem sendable_set_payload (h : Header msg) (s encoding : Str) (hencoding : 0 ∉ encoding) :
    (set_encoding (set_payload msg s) encoding).Sendable where
  __ := h
  encoding := by
    rintro t ⟨⟩
    exact hencoding
  payload := by
    rintro p ⟨⟩
    exact .string (zero_not_mem_c_str s)

/-- What arrives is what was set, also in its encoding. -/
theorem parse_set_payload (h : Header msg) (s encoding : Str) (hencoding : 0 ∉ encoding) (formatted : Bool) :
    IvpMessage.parse libc ((set_encoding (set_payload msg s) encoding).createJsonString formatted) =
      some (set_encoding (set_payload msg s) encoding) :=
  IvpMessage.Sendable.parse_eq (sendable_set_payload h s encoding hencoding) formatted

theorem get_payload_bytes_set (bytes : ByteStream) : get_payload_bytes (set_payload_bytes msg bytes) = some bytes := by
  have hstr : get_payload_str (set_payload msg (byte_stream_encode bytes)) = byte_stream_encode bytes :=
    get_payload_str_set_payload.2 (plain_encode bytes)
  have hsame : get_payload_str (set_payload_bytes msg bytes) = get_payload_str (set_payload msg (byte_stream_encode bytes)) :=
    rfl
  rw [get_payload_bytes, hsame, hstr, decode_encode]

/-- A text comes back through the envelope if and only if there is nothing to escape in it; a byte string comes back,
through the envelope or without it. -/
theorem payload_round_trip (libc : Libc) (msg : IvpMessage) (h : Header msg) (s : Str) (bytes : ByteStream) :
    ((IvpMessage.parse libc ((set_payload msg s).createJsonString false)).map get_payload_str = some s ↔ Plain s) ∧
      get_payload_bytes (set_payload_bytes msg bytes) = some bytes ∧
      (IvpMessage.parse libc ((set_payload_bytes msg bytes).createJsonString false)).bind get_payload_bytes = some bytes := by
  refine ⟨?_, get_payload_bytes_set bytes, ?_⟩
  · have hparse : IvpMessage.parse libc ((set_payload msg s).createJsonString false) = some (set_payload msg s) :=
      parse_set_payload h s encodingString (by decide) false
    rw [hparse, Option.map_some, Option.some.injEq]
    exact get_payload_str_set_payload
  · have hparse : IvpMessage.parse libc ((set_payload_bytes msg bytes).createJsonString false) =
        some (set_payload_bytes msg bytes) :=
      parse_set_payload h (byte_stream_encode bytes) encodingByteArray (by decide) false
    rw [hparse, Option.bind_some]
    exact get_payload_bytes_set bytes

/-- A message of type `t` without a payload. -/
def empty : IvpMessage := .create 1600000000000 (some (CString.lit "t")) none none 0 none

theorem header_empty : Header empty where
  type := by decide
  subtype := by decide
  source := by decide
  sourceId := by decide
  encoding := by decide
  timestamp := by decide
  dsrcMetadata := by decide
  payload := nofun

theorem payload_round_trip_plain :
    (IvpMessage.parse Libc.rounding ((set_payload empty (CString.lit "<a/>")).createJsonString false)).map get_payload_str =
      some (CString.lit "<a/>") :=
  ((payload_round_trip Libc.rounding empty header_empty (CString.lit "<a/>") [0, 255]).1).2 (by decide)

/-- A JSON text comes back with its quotes escaped. -/
theorem payload_json_text :
    (IvpMessage.parse Libc.rounding ((set_payload empty (CString.lit "\x7b\"a\":1\x7d")).createJsonString false)).map
        get_payload_str = some (CString.lit "\x7b\\\"a\\\":1\x7d") ∧
      CString.lit "\x7b\\\"a\\\":1\x7d" ≠ CString.lit "\x7b\"a\":1\x7d" := by
  decide +kernel

end V2xHub.RouteableMessage
