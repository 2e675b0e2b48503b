import V2xHub.Lib.Occurrence
import V2xHub.RouteableMessage.Payload

/-!
# The encodings of raw bytes

Which bytes `doWork` takes for encoded ones, and the message it makes of them. The test looks for the first `hexstring` of
the encoding and compares its place with a difference of sizes.
-/

namespace V2xHub.MessageManager

open RouteableMessage

def hexstring : Str := CString.lit "hexstring"

/-- `std::string::npos` -/
def npos : Nat := 2 ^ 64 - 1

def IsByteHexEncoded : Option Str → Bool
  | none => false
  | some enc => (Occurrence.find hexstring enc).getD npos == (enc.length + 2 ^ 64 - hexstring.length) % 2 ^ 64

/-- What `doWork` makes messages with. -/
structure Makers where
  /-- `J2735MessageFactory::NewMessage` -/
  newMessage : ByteStream → Option IvpMessage
  /-- `routeable_message()` -/
  fresh : IvpMessage
  /-- `set_payload` of a `tmx::message` with this text. -/
  set_json : IvpMessage → Str → IvpMessage

/-- The message for `type_RawBytes`. -/
def ofRawBytes (make : Makers) (encoding : Option Str) (bytes : ByteStream) : IvpMessage :=
  if IsByteHexEncoded encoding then
    match make.newMessage bytes with
    | some routeableMsg => routeableMsg
    | none =>
      let routeableMsg := set_payload_bytes make.fresh bytes
      match encoding with
      | some encoding => set_encoding routeableMsg encoding
      | none => routeableMsg
  else
    let encoding := encoding.getD encodingString
    let routeableMsg := set_encoding make.fresh encoding
    if CString.lit "json" <+: encoding then make.set_json routeableMsg bytes
    else set_encoding (set_payload routeableMsg bytes) encoding

/-- Where the encoding ends with `hexstring`, it has no other. -/
def OnlyLast (enc : Str) : Prop := hexstring <:+ enc → ∀ i, hexstring <+: enc.drop i → i + hexstring.length = enc.length

variable {enc : Str}

theorem hexstring_ne_nil : hexstring ≠ [] := by decide

theorem suffix_iff_prefix_drop {s text : Str} :
    s <:+ text ↔ ∃ i, i + s.length = text.length ∧ s <+: text.drop i := by
  constructor
  · rintro ⟨t, rfl⟩
    exact ⟨t.length, by rw [List.length_append], by rw [List.drop_left]⟩
  · rintro ⟨i, hlen, hat⟩
    have hdrop : s = text.drop i := hat.eq_of_length (by rw [List.length_drop]; omega)
    rw [hdrop]
    exact List.drop_suffix i text

/-- A first place in the middle is not the last one. -/
theorem find_eq_last_iff (honly : OnlyLast enc) :
    (∃ i, Occurrence.find hexstring enc = some i ∧ i + hexstring.length = enc.length) ↔ hexstring <:+ enc := by
  rw [suffix_iff_prefix_drop]
  constructor
  · rintro ⟨i, hfind, hlen⟩
    exact ⟨i, hlen, ((Occurrence.find_eq_some_iff hexstring_ne_nil).mp hfind).1⟩
  · rintro ⟨i, hlen, hat⟩
    have hsuffix : hexstring <:+ enc := suffix_iff_prefix_drop.mpr ⟨i, hlen, hat⟩
    refine ⟨i, (Occurrence.find_eq_some_iff hexstring_ne_nil).mpr ⟨hat, fun j hj hbefore => ?_⟩, hlen⟩
    have := honly hsuffix j hbefore
    omega

theorem isByteHexEncoded_iff (hlen : enc.length < 2 ^ 64) :
    IsByteHexEncoded (some enc) = true ↔
      (∃ i, Occurrence.find hexstring enc = some i ∧ i + hexstring.length = enc.length) ∨
        enc.length + 1 = hexstring.length := by
  have hhex : hexstring.length = 9 := by decide
  rw [IsByteHexEncoded, beq_iff_eq, npos, hhex]
  cases hfind : Occurrence.find hexstring enc with
  | none =>
    rw [Option.getD_none]
    constructor
    · intro h
      right
      omega
    · rintro (⟨i, hsome, -⟩ | h8)
      · cases hsome
      · omega
  | some i =>
    have hfits := ((Occurrence.find_eq_some_iff hexstring_ne_nil).mp hfind).1.length_le
    rw [List.length_drop, hhex] at hfits
    rw [Option.getD_some]
    constructor
    · intro h
      exact .inl ⟨i, rfl, by omega⟩
    · rintro (⟨j, hj, hlast⟩ | h8)
      · cases hj
        omega
      · omega

/-- Of an encoding that is not one character short, and whose `hexstring` at the end is its first, the test is right, and
a message of bytes that are no J2735 message has the whole of it for its encoding. -/
theorem isByteHexEncoded_iff_suffix (make : Makers) (enc : Str) (bytes : ByteStream) (hlen : enc.length < 2 ^ 64)
    (hshort : enc.length + 1 ≠ hexstring.length) (honly : OnlyLast enc) :
    (IsByteHexEncoded (some enc) = true ↔ hexstring <:+ enc) ∧
      (hexstring <:+ enc → make.newMessage bytes = none → (ofRawBytes make (some enc) bytes).encoding = some enc) := by
  have htest : IsByteHexEncoded (some enc) = true ↔ hexstring <:+ enc := by
    rw [isByteHexEncoded_iff hlen, or_iff_left hshort]
    exact find_eq_last_iff honly
  refine ⟨htest, fun hsuffix hnone => ?_⟩
  rw [ofRawBytes, if_pos (htest.mpr hsuffix), hnone]
  rfl

/-- A factory that knows no message. -/
def noMessages : Makers := ⟨fun _ => none, .create 0 none none none 0 none, set_payload⟩

theorem isByteHexEncoded_uper :
    (IsByteHexEncoded (some (CString.lit "asn.1-uper/hexstring")) = true ↔ hexstring <:+ CString.lit "asn.1-uper/hexstring") ∧
      (hexstring <:+ CString.lit "asn.1-uper/hexstring" → noMessages.newMessage [0] = none →
        (ofRawBytes noMessages (some (CString.lit "asn.1-uper/hexstring")) [0]).encoding =
          some (CString.lit "asn.1-uper/hexstring")) := by
  refine isByteHexEncoded_iff_suffix noMessages (CString.lit "asn.1-uper/hexstring") [0] (by decide) (by decide) ?_
  intro _ i hat
  have hle := hat.length_le
  have hlen : (CString.lit "asn.1-uper/hexstring").length = 20 := by decide
  have hhex : hexstring.length = 9 := by decide
  rw [List.length_drop, hlen, hhex] at hle
  have hi : i < 12 := by omega
  interval_cases i <;> first | rfl | exact absurd hat (by decide)

/-- Of eight characters the test is true, of two suffixes it is false, and the rest is not the name that a message gets. -/
theorem isByteHexEncoded_short :
    (IsByteHexEncoded (some (CString.lit "asn1uper")) = true ∧ ¬ hexstring <:+ CString.lit "asn1uper") ∧
    (IsByteHexEncoded (some (CString.lit "hexstringhexstring")) = false ∧
      hexstring <:+ CString.lit "hexstringhexstring") ∧
    (IsByteHexEncoded (some (CString.lit "asn.1-uper/hexstring")) = true ∧
      (ofRawBytes noMessages (some (CString.lit "asn.1-uper/hexstring")) [0]).encoding ≠
        some (CString.lit "asn.1-uper/")) := by
  decide

end V2xHub.MessageManager
