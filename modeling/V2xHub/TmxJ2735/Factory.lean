import V2xHub.TmxJ2735.Codec

/-!
# The factory of J2735 messages

`TmxJ2735ExtendedBytes` takes the extended bytes off a frame, and the id of a message is its first two bytes. Neither looks at the
length first: the header is read and erased as far as it goes, the id of less than two bytes is not initialised, and that of two bytes
is the first of them.
-/

namespace V2xHub.TmxJ2735.Factory

/-- Where a run is undefined: a byte behind the end is read or erased, or the id is used that was never set. -/
inductive Fault where
  | outside
  | uninitialised
deriving DecidableEq

@[simp] theorem ok_bind {α β : Type} (a : α) (f : α → Except Fault β) : (Except.ok a >>= f) = f a := rfl

@[simp] theorem error_bind {α β : Type} (e : Fault) (f : α → Except Fault β) : (Except.error e >>= f) = .error e := rfl

def TmxJ2735ExtendedBytes (bytes : Bytes) : Except Fault Bytes :=
  match bytes[0]? with
  | none => .error .outside
  | some b0 =>
    if b0 = 0 then .ok bytes
    else do
      let msgIdindex ←
        if b0 = 3 then
          match bytes[1]? with
          | none => .error .outside
          | some b1 =>
            if b1 = 0 then .ok 1
            else if b1 = 0x80 then
              match bytes[2]? with
              | none => .error .outside
              | some b2 => .ok (if b2 = 0x81 then 4 else if b2 = 0x82 then 5 else 3)
            else .ok 0
        else .ok 0
      if msgIdindex ≤ bytes.length then .ok (bytes.drop msgIdindex) else .error .outside

/-- `uper::decode_contentId` with `SAEJ2735_SPEC >= 63` -/
def decode_contentId : Bytes → Except Fault Int
  | b0 :: b1 :: _ :: _ => .ok (256 * b0.toNat + b1.toNat : Nat)
  | [b0, _] => .ok (b0.toNat : Nat)
  | _ => .error .uninitialised

/-- The keys of `byInt`. -/
def messageIds : List Nat := [20, 21, 22, 23, 18, 24, 25, 26, 32, 27, 28, 29, 30, 19, 31, 244, 245, 240, 241, 242, 243, 41]

/-- A new message of the class with the id, with its data and its encoding. -/
structure NewMessage where
  messageId : Nat
  data : Bytes
  encoding : Encoding
deriving DecidableEq

section
variable (der_decode_contentId : Bytes → Int)

def GetCodecAndMessageId (bytes : Bytes) : Except Fault (Encoding × Int) := do
  let id ← decode_contentId bytes
  if id < 0 then
    let id := der_decode_contentId bytes
    return (if 0 < id then .asn1 .der else .other, id)
  else return (.asn1 .uper, id)

def GetMessageId (bytes : Bytes) : Except Fault Int := Prod.snd <$> GetCodecAndMessageId der_decode_contentId bytes

/-- The class of the message with the id. -/
def allocate (id : Int) : Option Nat := if id.toNat ∈ messageIds then some id.toNat else none

/-- `J2735MessageFactory::NewMessage` -/
def newMessage (bytes : Bytes) : Except Fault (Option NewMessage) := do
  let bytes ← TmxJ2735ExtendedBytes bytes
  let (codec, id) ← GetCodecAndMessageId der_decode_contentId bytes
  if 0 < id then return (allocate id).map fun messageId => ⟨messageId, bytes, codec⟩
  else return none

end

/-! ### What is expected -/

/-- The id that a string begins with. -/
def idOf : Bytes → Option Nat
  | b0 :: b1 :: _ => some (256 * b0.toNat + b1.toNat)
  | _ => none

/-- A supported id, a length determinant and a body. -/
def Frame (f : Bytes) : Prop := 3 ≤ f.length ∧ ∃ id ∈ messageIds, idOf f = some id

/-- The extended bytes that are documented for a frame of the length. -/
def Documented (h : Bytes) (length : Nat) : Prop :=
  h = [] ∨ (h = [0x03] ∧ length < 64) ∨ (h = [0x03, 0x80, UInt8.ofNat length] ∧ 64 ≤ length ∧ length < 128) ∨
    (h = [0x03, 0x80, 0x81, UInt8.ofNat length] ∧ 128 ≤ length ∧ length < 256) ∨
    (h = [0x03, 0x80, 0x82, UInt8.ofNat (length / 256), UInt8.ofNat length] ∧ 256 ≤ length ∧ length < 65536)

structure Meets (der_decode_contentId : Bytes → Int) (b : Bytes) : Prop where
  inside : ∀ e, newMessage der_decode_contentId b ≠ .error e
  insideId : ∀ e, GetMessageId der_decode_contentId b ≠ .error e
  null : ∀ r, TmxJ2735ExtendedBytes b = .ok r → (∀ id ∈ messageIds, idOf r ≠ some id) → newMessage der_decode_contentId b = .ok none
  frame : ∀ h f, b = h ++ f → Frame f → Documented h f.length →
    newMessage der_decode_contentId b = .ok ((idOf f).map fun id => ⟨id, f, .asn1 .uper⟩)

/-- The length of the extended bytes, by the first bytes. -/
def headerLength (b : Bytes) : Nat :=
  if b[0]? = some 0x03 ∧ b[1]? = some 0x00 then 1
  else if b[0]? = some 0x03 ∧ b[1]? = some 0x80 then
    if b[2]? = some 0x81 then 4 else if b[2]? = some 0x82 then 5 else 3
  else 0

/-- Two bytes at least are behind the extended bytes, and if they are just two, the first of them is no id. -/
def Long (b : Bytes) : Prop :=
  headerLength b + 2 ≤ b.length ∧ ∀ b0 b1, b.drop (headerLength b) = [b0, b1] → b0.toNat ∉ messageIds

variable {der_decode_contentId : Bytes → Int} {b f h r : Bytes}

/-! ### The extended bytes -/

theorem exists_two (hlen : 2 ≤ b.length) : ∃ b0 b1 rest, b = b0 :: b1 :: rest := by
  rcases b with _ | ⟨b0, _ | ⟨b1, rest⟩⟩
  · simp at hlen
  · simp at hlen
  · exact ⟨b0, b1, rest, rfl⟩

theorem extendedBytes_eq (hlen : 2 ≤ b.length) : TmxJ2735ExtendedBytes b =
    if headerLength b ≤ b.length then .ok (b.drop (headerLength b)) else .error .outside := by
  obtain ⟨b0, b1, rest, rfl⟩ := exists_two hlen
  by_cases h3 : b0 = 3
  · subst h3
    by_cases h0 : b1 = 0
    · subst h0
      simp [TmxJ2735ExtendedBytes, headerLength]
    · by_cases h80 : b1 = 0x80
      · subst h80
        rcases rest with _ | ⟨b2, rest⟩
        · simp [TmxJ2735ExtendedBytes, headerLength]
        · by_cases h81 : b2 = 0x81
          · subst h81
            simp [TmxJ2735ExtendedBytes, headerLength]
          · by_cases h82 : b2 = 0x82
            · subst h82
              simp [TmxJ2735ExtendedBytes, headerLength]
            · simp [TmxJ2735ExtendedBytes, headerLength, h81, h82]
      · simp [TmxJ2735ExtendedBytes, headerLength, h0, h80]
  · by_cases h0 : b0 = 0
    · simp [TmxJ2735ExtendedBytes, headerLength, h0]
    · simp [TmxJ2735ExtendedBytes, headerLength, h0, h3]

/-- The frame begins with a zero, which no extended bytes do. -/
theorem idOf_frame (hf : Frame f) : ∃ b1 b2 rest, f = 0 :: b1 :: b2 :: rest ∧ b1.toNat ∈ messageIds := by
  obtain ⟨hlen, id, hid, heq⟩ := hf
  rcases f with _ | ⟨b0, _ | ⟨b1, _ | ⟨b2, rest⟩⟩⟩
  · simp at hlen
  · simp at hlen
  · simp at hlen
  · have hid' : id < 256 := by
      have hall : ∀ id ∈ messageIds, id < 256 := by decide
      exact hall id hid
    obtain rfl := Option.some.inj heq
    have h0 : b0 = 0 := UInt8.toNat_inj.1 (by
      show b0.toNat = 0
      omega)
    subst h0
    refine ⟨b1, b2, rest, rfl, ?_⟩
    simpa using hid

theorem headerLength_frame (hf : Frame f) (hh : Documented h f.length) : headerLength (h ++ f) = h.length := by
  obtain ⟨b1, b2, rest, hfeq, -⟩ := idOf_frame hf
  rcases hh with rfl | ⟨rfl, -⟩ | ⟨rfl, h64, h128⟩ | ⟨rfl, -⟩ | ⟨rfl, -⟩
  · simp [headerLength, hfeq]
  · simp [headerLength, hfeq]
  · have hlt : (UInt8.ofNat f.length).toNat < 128 := by
      rw [UInt8.toNat_ofNat_of_lt' (by show f.length < 256; omega)]
      exact h128
    have h81 : UInt8.ofNat f.length ≠ 0x81 := by
      intro h
      rw [h] at hlt
      exact absurd hlt (by decide)
    have h82 : UInt8.ofNat f.length ≠ 0x82 := by
      intro h
      rw [h] at hlt
      exact absurd hlt (by decide)
    simp [headerLength, h81, h82]
  · simp [headerLength]
  · simp [headerLength]

/-! ### The id -/

theorem getCodecAndMessageId_ok {id : Int} (hid : decode_contentId r = .ok id) :
    GetCodecAndMessageId der_decode_contentId r = .ok (.asn1 .uper, id) := by
  have hnonneg : ¬ id < 0 := by
    rcases r with _ | ⟨b0, _ | ⟨b1, _ | ⟨b2, rest⟩⟩⟩
    · cases hid
    · cases hid
    · cases hid
      omega
    · cases hid
      omega
  rw [GetCodecAndMessageId, hid]
  show (if id < 0 then _ else _) = _
  rw [if_neg hnonneg]
  rfl

theorem getCodecAndMessageId_short (hlen : r.length < 2) :
    GetCodecAndMessageId der_decode_contentId r = .error .uninitialised := by
  rcases r with _ | ⟨b0, _ | ⟨b1, rest⟩⟩
  · rfl
  · rfl
  · simp only [List.length_cons] at hlen
    omega

/-- What becomes of the bytes behind the extended ones. -/
theorem newMessage_eq (der_decode_contentId : Bytes → Int) (hlen : 2 ≤ b.length) (hr : headerLength b ≤ b.length) {id : Int}
    (hid : decode_contentId (b.drop (headerLength b)) = .ok id) : newMessage der_decode_contentId b =
      .ok ((allocate id).map fun messageId => ⟨messageId, b.drop (headerLength b), .asn1 .uper⟩) := by
  rw [newMessage, extendedBytes_eq hlen, if_pos hr]
  show (GetCodecAndMessageId der_decode_contentId (b.drop (headerLength b)) >>= _) = _
  rw [getCodecAndMessageId_ok hid]
  show (if 0 < id then _ else _) = _
  split_ifs with hpos
  · rfl
  · have hzero : id.toNat = 0 := by omega
    rw [allocate, hzero, if_neg (by decide)]
    rfl

theorem long_of_meets (hm : Meets der_decode_contentId b) : Long b := by
  have hlen : 2 ≤ b.length := by
    by_contra hlen
    refine hm.insideId .uninitialised ?_
    rw [GetMessageId, getCodecAndMessageId_short (by omega)]
    rfl
  have hroom : headerLength b + 2 ≤ b.length := by
    by_contra hroom
    have hfault : ∃ e, newMessage der_decode_contentId b = .error e := by
      rw [newMessage, extendedBytes_eq hlen]
      by_cases hr : headerLength b ≤ b.length
      · refine ⟨.uninitialised, ?_⟩
        rw [if_pos hr]
        show (GetCodecAndMessageId der_decode_contentId (b.drop (headerLength b)) >>= _) = _
        rw [getCodecAndMessageId_short (by rw [List.length_drop]; omega)]
        rfl
      · exact ⟨.outside, by rw [if_neg hr]; rfl⟩
    obtain ⟨e, he⟩ := hfault
    exact hm.inside e he
  refine ⟨hroom, fun b0 b1 hdrop hmem => ?_⟩
  have hnew := newMessage_eq der_decode_contentId hlen (by omega)
    (show decode_contentId (b.drop (headerLength b)) = .ok (b0.toNat : Nat) by rw [hdrop]; rfl)
  have hnull := hm.null _ (by rw [extendedBytes_eq hlen, if_pos (by omega)]) (by
    intro id hid heq
    rw [hdrop] at heq
    obtain rfl := Option.some.inj heq
    -- with the first byte an id, the two are beyond every id
    have hbounds : ∀ id ∈ messageIds, 1 ≤ id ∧ id < 256 := by decide
    have := hbounds _ hmem
    have := hbounds _ hid
    omega)
  rw [hnew, allocate, if_pos (by simpa using hmem)] at hnull
  cases hnull

theorem meets_of_long (hl : Long b) : Meets der_decode_contentId b := by
  obtain ⟨hroom, htwo⟩ := hl
  have hlen : 2 ≤ b.length := by omega
  obtain ⟨b0, b1, rest, hdrop⟩ := exists_two (b := b.drop (headerLength b)) (by
    rw [List.length_drop]
    omega)
  obtain ⟨id, hid⟩ : ∃ id, decode_contentId (b.drop (headerLength b)) = .ok id := by
    rw [hdrop]
    rcases rest with _ | ⟨b2, rest⟩ <;> exact ⟨_, rfl⟩
  have hnew := newMessage_eq der_decode_contentId hlen (by omega) hid
  refine ⟨fun e he => ?_, fun e he => ?_, fun r hr hnone => ?_, fun h f hb hf hh => ?_⟩
  · rw [hnew] at he
    cases he
  · obtain ⟨c0, c1, tail, rfl⟩ := exists_two hlen
    obtain ⟨id', hid'⟩ : ∃ id', decode_contentId (c0 :: c1 :: tail) = .ok id' := by
      rcases tail with _ | ⟨c2, tail⟩ <;> exact ⟨_, rfl⟩
    rw [GetMessageId, getCodecAndMessageId_ok hid'] at he
    cases he
  · rw [extendedBytes_eq hlen, if_pos (by omega)] at hr
    obtain rfl := Except.ok.inj hr
    rw [hnew, allocate]
    rcases rest with _ | ⟨b2, rest⟩
    · rw [hdrop] at hid
      cases hid
      rw [if_neg (by simpa using htwo b0 b1 hdrop)]
      rfl
    · rw [hdrop] at hid hnone
      cases hid
      rw [Int.toNat_natCast, if_neg fun hmem => hnone _ hmem rfl]
      rfl
  · subst hb
    have hlength := headerLength_frame hf hh
    obtain ⟨c1, c2, tail, rfl, hc⟩ := idOf_frame hf
    rw [hlength, List.drop_left] at hid hnew
    cases hid
    rw [hnew, allocate, if_pos (by simpa using hc)]
    simp [idOf]

/-- The factory is as expected just where enough bytes are behind the extended ones. -/
theorem frameDetection_iff (der_decode_contentId : Bytes → Int) (b : Bytes) : Meets der_decode_contentId b ↔ Long b :=
  ⟨long_of_meets, meets_of_long⟩

/-- A single byte. -/
theorem not_frameDetection : ¬ Meets (fun _ => -1) [0x00] := by
  intro hm
  have := (long_of_meets hm).1
  exact absurd this (by decide)

end V2xHub.TmxJ2735.Factory
