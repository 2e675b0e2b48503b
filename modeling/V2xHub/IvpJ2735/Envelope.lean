import V2xHub.RouteableMessage.Payload
import Mathlib.Data.List.TakeWhile
import Mathlib.Tactic.Ring

/-!
# J2735 messages in envelopes (`IvpJ2735.c`)

The bytes of a message are printed into a buffer on the stack, two digits and a NUL at a time, and become the text of an envelope.
So 1999 bytes have room, and of 2000 bytes the last NUL is written behind the buffer. A DER encoder that fails returns -1, which is
not the 0 that is looked for, and the buffer is read as it was found. The index of the search for the ID of a message has 16 bits.

An assertion that fails aborts, so the check behind it is not reached: a message whose ID has no subtype ends the process, and so
does one that is read with the subtype of another ID. Memory is always there.
-/

namespace V2xHub.IvpJ2735

open RouteableMessage

/-! ### Message IDs -/

/-- With `SAEJ2735_SPEC >= 63` the constants are the same. -/
def getMessageSubTypeFromMsgId : Nat → Option Str
  | 2 => some (CString.lit "BSM")
  | 3 => some (CString.lit "BSMV")
  | 4 => some (CString.lit "CSR")
  | 5 => some (CString.lit "EVA")
  | 6 => some (CString.lit "IC")
  | 7 => some (CString.lit "MAP")
  | 8 => some (CString.lit "NMEA")
  | 9 => some (CString.lit "PDM")
  | 10 => some (CString.lit "PVD")
  | 11 => some (CString.lit "RSA")
  | 12 => some (CString.lit "RTCM")
  | 13 => some (CString.lit "SPAT")
  | 14 => some (CString.lit "SRM")
  | 15 => some (CString.lit "SSM")
  | 16 => some (CString.lit "TIM")
  | _ => none

def DSRCmsgID_reserved : Nat := 0

def getMsgIdFromMessageSubType (subtype : Str) : Nat :=
  ((List.range 256).find? fun i => getMessageSubTypeFromMsgId i = some subtype).getD DSRCmsgID_reserved

/-- Where the search stands: at an index where it ends, at a read out of bounds, or still in the loop. -/
inductive Search where
  | ended (i : Nat)
  | outside
  | running
deriving DecidableEq

/-- The loop of `getMsgIdFromRaw`, for a number of iterations. -/
def search (msg : ByteStream) : Nat → Nat → Search
  | 0, _ => .running
  | n + 1, i =>
    if i + 1 < msg.length then
      match msg[i]?, msg[i + 1]? with
      | some a, some b => if a = 128 ∧ b = 1 then .ended i else search msg n ((i + 1) % 2 ^ 16)
      | _, _ => .outside
    else .ended i

/-- A search that has not ended when the index comes back to where it was does not end. -/
def getMsgIdFromRaw (msg : ByteStream) : Option Nat :=
  match search msg (2 ^ 16 + 1) 2 with
  | .ended i =>
    if i ≠ 0 ∧ i + 2 < msg.length then msg[i + 2]?.map UInt8.toNat else some DSRCmsgID_reserved
  | _ => none

/-! ### The buffer -/

def bufSize : Nat := 4000

/-- `snprintf(&buf[k], 3, "%02x", b)`; `none` if it writes behind the buffer. -/
def printByte (buf : Str) (k : Nat) (b : UInt8) : Option Str :=
  if k + 3 ≤ buf.length then some (buf.take k ++ [hexDigit (b / 16), hexDigit (b % 16), 0] ++ buf.drop (k + 3)) else none

/-- The loop, with `n` bytes left, of which `read` has the `i`-th. -/
def printBytes (read : Str → Nat → Option UInt8) : Nat → Nat → Str → Option Str
  | 0, _, buf => some buf
  | n + 1, i, buf => do
    let b ← read buf i
    let buf ← printByte buf (2 * i) b
    printBytes read n (i + 1) buf

/-- What a call does: it writes or reads behind the buffer, aborts, does not end, or returns. -/
inductive Outcome where
  | outsideWrite
  | outsideRead
  | aborted
  | endless
  | returned (results : Option IvpMessage)

section
variable (flags : IvpMsgFlags) (timestamp : Nat)

def envelope (subtype text : Str) : IvpMessage :=
  .create timestamp (some (CString.lit "J2735")) (some subtype) (some (CString.lit "asn.1-ber/hexstring")) flags
    (some (.string text))

/-- Behind the loop: what is done with the C string in the buffer. -/
def finish (results : Str → Outcome) : Option Str → Outcome
  | none => .outsideWrite
  | some buf =>
    match CString.read buf with
    | none => .outsideRead
    | some text => results text

/-- The envelope of a text, with the subtype of the ID in the message. -/
def fromRaw (msg : ByteStream) (text : Str) : Outcome :=
  match getMsgIdFromRaw msg with
  | none => .endless
  | some msgId =>
    if msgId ≠ DSRCmsgID_reserved then
      match getMessageSubTypeFromMsgId msgId with
      | none => .aborted
      | some subtype => .returned (some (envelope flags timestamp subtype text))
    else .returned none

/-- `buf` is the memory of the buffer before. -/
def createMsgFromEncoded (buf : Str) (msg : ByteStream) : Outcome :=
  finish (fromRaw flags timestamp msg) (printBytes (fun _ i => msg[i]?) msg.length 0 buf)

def createMsgFromEncodedwType (buf : Str) (msg : ByteStream) (msgType : Str) : Outcome :=
  finish (fun text => .returned (some (envelope flags timestamp msgType text)))
    (printBytes (fun _ i => msg[i]?) msg.length 0 buf)

/-- `encoded` is the result of the encoder, and `buf` the memory that it leaves; its bytes start in the middle. An ID with a type
descriptor has a subtype. -/
def createMsg (buf : Str) (encoded : Int) (subtype : Str) : Outcome :=
  if encoded = 0 then .returned none
  else finish (fun text => .returned (some (envelope flags timestamp subtype text)))
    (printBytes (fun buf i => buf[i + 2000]?) encoded.toNat 0 buf)

end

/-- `sscanf(s, "%2hhx", ..)` into a zero. -/
def scanByte (s : Str) : UInt8 := UInt8.ofInt (strtoul16 ((s.dropWhile Strtol.isspace).take 2))

structure EncodedMsg where
  msg : ByteStream
  msgId : Nat

/-- `none` if it aborts or does not end, and otherwise what is returned. -/
def getJ2735EncodedMsg (msg : IvpMessage) : Option (Option EncodedMsg) :=
  if msg.type = some (CString.lit "J2735") then
    match msg.subtype, msg.payload with
    | none, _ => none
    | some _, none => some none
    | some subtype, some (.string valuestring) =>
      let msgId := getMsgIdFromMessageSubType subtype
      if msgId = DSRCmsgID_reserved then some none
      else
        let bytes := (List.range (valuestring.length / 2)).map fun i => scanByte (valuestring.drop (2 * i))
        if getMsgIdFromRaw bytes = some msgId then some (some ⟨bytes, msgId⟩) else none
    | some _, some _ => none
  else none

/-! ### What is expected -/

/-- The message comes back with its ID, or not at all if the ID has no subtype. -/
def ComesBack (msg : ByteStream) (results : IvpMessage) : Prop :=
  ∃ msgId, getMsgIdFromRaw msg = some msgId ∧
    getJ2735EncodedMsg results = some (if (getMessageSubTypeFromMsgId msgId).isSome then some ⟨msg, msgId⟩ else none)

/-- Nothing is written outside of the buffer, the call does not end the process, and a message that is created comes back. -/
def Outcome.Meets (msg : ByteStream) : Outcome → Prop
  | .outsideWrite | .aborted | .endless => False
  | .outsideRead | .returned none => True
  | .returned (some results) => ComesBack msg results

/-- The type is the subtype of the ID, and none at all if the ID has no subtype. -/
def Typed (msgId : Nat) (msgType : Str) : Prop :=
  getMessageSubTypeFromMsgId msgId = some msgType ∨
    (getMessageSubTypeFromMsgId msgId = none ∧ ∀ k, getMessageSubTypeFromMsgId k ≠ some msgType)

/-- The search ends, within the message. -/
def SearchEnds (msg : ByteStream) : Prop := (∀ n, search msg n 2 ≠ .outside) ∧ ∃ n i, search msg n 2 = .ended i

/-- Whatever the memory was. -/
def MeetsFromEncoded (msg : ByteStream) : Prop :=
  ∀ flags timestamp buf, buf.length = bufSize → (createMsgFromEncoded flags timestamp buf msg).Meets msg

def MeetsFromEncodedwType (msg : ByteStream) (msgType : Str) : Prop :=
  ∀ flags timestamp buf, buf.length = bufSize → (createMsgFromEncodedwType flags timestamp buf msg msgType).Meets msg

/-- Of an encoder that failed there is no message, and of one that did not the message with all bytes, as they were encoded. -/
def MeetsEncoder (encoded : Int) : Prop :=
  ∀ flags timestamp buf subtype, buf.length = bufSize →
    createMsg flags timestamp buf encoded subtype = .returned (if encoded < 0 then none
      else some (envelope flags timestamp subtype (byte_stream_encode ((buf.drop 2000).take encoded.toNat))))

variable {m msg : ByteStream} {msgType s : Str} {n i k : Nat}

/-! ### The search -/

/-- The end of the message, or of the search. -/
def StopsAt (msg : ByteStream) (i : Nat) : Prop := msg.length ≤ i + 1 ∨ (msg[i]? = some 128 ∧ msg[i + 1]? = some 1)

theorem search_of_stopsAt (h : StopsAt msg i) : search msg (n + 1) i = .ended i := by
  rw [search]
  split_ifs with hi
  · rcases h with h | ⟨h0, h1⟩
    · omega
    · rw [h0, h1]
      rfl
  · rfl

theorem search_of_not_stopsAt (h : ¬ StopsAt msg i) : search msg (n + 1) i = search msg n ((i + 1) % 2 ^ 16) := by
  simp only [StopsAt, not_or, not_le] at h
  rw [search, if_pos h.1, List.getElem?_eq_getElem (by omega), List.getElem?_eq_getElem h.1]
  dsimp only
  rw [if_neg]
  rintro ⟨h0, h1⟩
  exact h.2 ⟨by rw [List.getElem?_eq_getElem (by omega), h0], by rw [List.getElem?_eq_getElem h.1, h1]⟩

theorem search_ne_outside (msg : ByteStream) : ∀ n i, search msg n i ≠ .outside
  | 0, i => by simp [search]
  | n + 1, i => by
    by_cases h : StopsAt msg i
    · simp [search_of_stopsAt h]
    · rw [search_of_not_stopsAt h]
      exact search_ne_outside msg n _

theorem search_ends_iff (hi : i < 2 ^ 16) :
    (∃ n j, search msg n i = .ended j) ↔ ∃ k, StopsAt msg ((i + k) % 2 ^ 16) := by
  constructor
  · rintro ⟨n, j, h⟩
    induction n generalizing i with
    | zero => simp [search] at h
    | succ n ih =>
      by_cases hs : StopsAt msg i
      · exact ⟨0, by rwa [Nat.add_zero, Nat.mod_eq_of_lt hi]⟩
      · rw [search_of_not_stopsAt hs] at h
        obtain ⟨k, hk⟩ := ih (Nat.mod_lt _ (by norm_num)) h
        refine ⟨k + 1, ?_⟩
        rwa [Nat.mod_add_mod, Nat.add_assoc, Nat.add_comm 1] at hk
  · rintro ⟨k, h⟩
    induction k generalizing i with
    | zero =>
      rw [Nat.add_zero, Nat.mod_eq_of_lt hi] at h
      exact ⟨1, i, search_of_stopsAt h⟩
    | succ k ih =>
      by_cases hs : StopsAt msg i
      · exact ⟨1, i, search_of_stopsAt hs⟩
      · obtain ⟨n, j, hn⟩ := ih (Nat.mod_lt (i + 1) (by norm_num))
          (by rwa [Nat.mod_add_mod, Nat.add_assoc, Nat.add_comm 1])
        exact ⟨n + 1, j, by rw [search_of_not_stopsAt hs, hn]⟩

theorem getMsgIdFromRaw_ends_iff :
    SearchEnds m ↔ m.length ≤ 2 ^ 16 ∨ ∃ i < 2 ^ 16, m[i]? = some 128 ∧ m[i + 1]? = some 1 := by
  have hends : SearchEnds m ↔ ∃ k, StopsAt m ((2 + k) % 2 ^ 16) := by
    rw [← search_ends_iff (by norm_num)]
    exact and_iff_right fun n => search_ne_outside m n 2
  rw [hends]
  constructor
  · rintro ⟨k, h⟩
    have hk := Nat.mod_lt (2 + k) (show 0 < 2 ^ 16 by norm_num)
    rcases h with h | h
    · exact .inl (by omega)
    · exact .inr ⟨_, hk, h⟩
  · rintro (h | ⟨i, hi, h⟩)
    · exact ⟨65533, .inl (by norm_num; omega)⟩
    · -- once around
      refine ⟨i + 65534, .inr ?_⟩
      rwa [show (2 + (i + 65534)) % 2 ^ 16 = i by omega]

theorem search_of_length (hlen : msg.length ≤ 2 ^ 16) (hi : i < 2 ^ 16) (h : msg.length ≤ i + n) :
    ∃ j, search msg (n + 1) i = .ended j := by
  induction n generalizing i with
  | zero => exact ⟨i, search_of_stopsAt (.inl (by omega))⟩
  | succ n ih =>
    by_cases hs : StopsAt msg i
    · exact ⟨i, search_of_stopsAt hs⟩
    · have hlt : i + 1 < 2 ^ 16 := by
        simp only [StopsAt, not_or, not_le] at hs
        omega
      rw [search_of_not_stopsAt hs, Nat.mod_eq_of_lt hlt]
      exact ih hlt (by omega)

theorem getMsgIdFromRaw_isSome (h : m.length ≤ 2 ^ 16) : ∃ msgId, getMsgIdFromRaw m = some msgId := by
  obtain ⟨j, hj⟩ := search_of_length (n := 2 ^ 16) h (show 2 < 2 ^ 16 by norm_num) (by omega)
  rw [getMsgIdFromRaw, hj]
  dsimp only
  split_ifs with hc
  · exact ⟨_, by rw [List.getElem?_eq_getElem hc.2, Option.map_some]⟩
  · exact ⟨_, rfl⟩

/-! ### Subtypes -/

theorem getMsgIdFromMessageSubType_subtype : ∀ k : Fin 17, ∀ s ∈ getMessageSubTypeFromMsgId k,
    getMsgIdFromMessageSubType s = k := by
  decide +kernel

theorem msgId_of_subtype (h : getMessageSubTypeFromMsgId k = some s) : getMsgIdFromMessageSubType s = k := by
  have hk : k < 17 := by
    by_contra hk
    rw [getMessageSubTypeFromMsgId] at h
    · cases h
    all_goals omega
  exact getMsgIdFromMessageSubType_subtype ⟨k, hk⟩ s h

theorem subtype_of_msgId (h : getMsgIdFromMessageSubType s ≠ DSRCmsgID_reserved) :
    getMessageSubTypeFromMsgId (getMsgIdFromMessageSubType s) = some s := by
  rcases hf : (List.range 256).find? fun i => getMessageSubTypeFromMsgId i = some s with _ | i
  · rw [getMsgIdFromMessageSubType, hf] at h
    exact absurd rfl h
  · have hi : getMessageSubTypeFromMsgId i = some s := of_decide_eq_true (List.find?_some (p := fun i =>
      decide (getMessageSubTypeFromMsgId i = some s)) hf)
    rwa [getMsgIdFromMessageSubType, hf]

theorem reserved_iff : getMsgIdFromMessageSubType s = DSRCmsgID_reserved ↔ ∀ k, getMessageSubTypeFromMsgId k ≠ some s := by
  constructor
  · intro h k hk
    rw [msgId_of_subtype hk] at h
    rw [h] at hk
    cases hk
  · intro h
    by_contra hne
    exact h _ (subtype_of_msgId hne)

/-! ### The text of the bytes -/

theorem scanByte_encode (b : UInt8) (m : ByteStream) : scanByte (byte_stream_encode (b :: m)) = b := by
  have hspace : ∀ n : Fin 256, Strtol.isspace (hexDigit (.ofNat n / 16)) = false := by decide +kernel
  have hb : Strtol.isspace (hexDigit (b / 16)) = false := by
    have := hspace ⟨b.toNat, b.toNat_lt⟩
    rwa [UInt8.ofNat_toNat] at this
  rw [scanByte, encode_cons, List.dropWhile_cons_of_neg (by simp [hb])]
  exact strtoul16_hex b

theorem scanned (m : ByteStream) : ((List.range ((byte_stream_encode m).length / 2)).map fun i =>
    scanByte ((byte_stream_encode m).drop (2 * i))) = m := by
  rw [length_encode, Nat.mul_div_cancel_left _ (by norm_num)]
  refine List.ext_getElem (by simp) fun i _ hi => ?_
  rw [List.getElem_map, List.getElem_range]
  have hdrop : (byte_stream_encode m).drop (2 * i) = byte_stream_encode (m.drop i) := by
    conv_lhs => rw [← List.take_append_drop i m, encode_append]
    rw [List.drop_left' (by rw [length_encode, List.length_take]; omega)]
  rw [hdrop, List.drop_eq_getElem_cons hi, scanByte_encode]

theorem getJ2735EncodedMsg_envelope (flags : IvpMsgFlags) (timestamp : Nat) (msgType : Str) (m : ByteStream) :
    getJ2735EncodedMsg (envelope flags timestamp msgType (byte_stream_encode m)) =
      if getMsgIdFromMessageSubType msgType = DSRCmsgID_reserved then some none
      else if getMsgIdFromRaw m = some (getMsgIdFromMessageSubType msgType) then
        some (some ⟨m, getMsgIdFromMessageSubType msgType⟩) else none := by
  have hscanned := scanned m
  simp only [getJ2735EncodedMsg, envelope, IvpMessage.create, if_true]
  rw [hscanned]

/-! ### The buffer -/

theorem printByte_eq (text rest : Str) (b : UInt8) : printByte (text ++ rest) text.length b =
    if 3 ≤ rest.length then some (text ++ [hexDigit (b / 16), hexDigit (b % 16)] ++ 0 :: rest.drop 3) else none := by
  rw [printByte, List.length_append]
  by_cases h : 3 ≤ rest.length
  · rw [if_pos h, if_pos (by omega), List.take_left', List.drop_append, List.drop_eq_nil_of_le (by omega)]
    · simp
    · rfl
  · rw [if_neg h, if_neg (by omega)]

/-- A read that only looks behind what is written prints its bytes, and the NUL has to have room as well. -/
theorem printBytes_eq_aux {read : Str → Nat → Option UInt8} {buf : Str}
    (hread : ∀ i b buf', m[i]? = some b → buf'.drop (2 * i + 1) = buf.drop (2 * i + 1) → read buf' i = some b)
    (done todo : ByteStream) (rest : Str) (hm : m = done ++ todo) (hrest : rest.drop 1 = buf.drop (2 * done.length + 1)) :
    printBytes read todo.length done.length (byte_stream_encode done ++ rest) =
      if todo = [] then some (byte_stream_encode done ++ rest)
      else if 2 * todo.length + 1 ≤ rest.length then
        some (byte_stream_encode m ++ 0 :: rest.drop (2 * todo.length + 1)) else none := by
  induction todo generalizing done rest with
  | nil => simp [printBytes]
  | cons b todo ih =>
    have hb : read (byte_stream_encode done ++ rest) done.length = some b := by
      refine hread _ _ _ (by rw [hm, List.getElem?_append_right le_rfl, Nat.sub_self, List.getElem?_cons_zero]) ?_
      rw [← hrest, ← length_encode, List.drop_length_add_append]
    have hprint := printByte_eq (byte_stream_encode done) rest b
    rw [length_encode] at hprint
    simp only [List.length_cons, printBytes, hb, hprint, Option.bind_eq_bind, Option.bind_some, reduceCtorEq, if_false]
    by_cases h3 : 3 ≤ rest.length
    · rw [if_pos h3, Option.bind_some]
      have henc : byte_stream_encode done ++ [hexDigit (b / 16), hexDigit (b % 16)] = byte_stream_encode (done ++ [b]) := by
        rw [encode_append]
        rfl
      have hnext := ih (done ++ [b]) (0 :: rest.drop 3) (by simp [hm]) (by
        rw [List.drop_succ_cons, List.drop_zero, List.length_append, List.length_singleton,
          show 2 * (done.length + 1) + 1 = 2 * done.length + 1 + 2 by omega, ← List.drop_drop, ← hrest, List.drop_drop])
      rw [List.length_append, List.length_singleton] at hnext
      rw [henc, hnext]
      rcases todo with _ | ⟨c, todo⟩
      · simp only [if_true, List.length_nil]
        rw [if_pos (by omega), hm]
      · simp only [reduceCtorEq, if_false, List.length_cons, List.length_drop, List.drop_succ_cons, List.drop_drop]
        by_cases hlen : 2 * (todo.length + 1 + 1) + 1 ≤ rest.length
        · rw [if_pos hlen, if_pos (by omega), show 3 + 2 * (todo.length + 1) = 2 * (todo.length + 1 + 1) + 1 by omega]
        · rw [if_neg hlen, if_neg (by omega)]
    · rw [if_neg h3, Option.bind_none, if_neg (by omega)]

theorem printBytes_eq {read : Str → Nat → Option UInt8} {buf : Str}
    (hread : ∀ i b buf', m[i]? = some b → buf'.drop (2 * i + 1) = buf.drop (2 * i + 1) → read buf' i = some b)
    (hm : m ≠ []) : printBytes read m.length 0 buf = if 2 * m.length + 1 ≤ buf.length then
      some (byte_stream_encode m ++ 0 :: buf.drop (2 * m.length + 1)) else none := by
  have h := printBytes_eq_aux hread [] m buf rfl rfl
  rwa [if_neg hm] at h

section
variable {flags : IvpMsgFlags} {timestamp : Nat} {buf : Str}

theorem finish_encode (results : Str → Outcome) (hbuf : buf.length = bufSize) (hm : m ≠ []) {read : Str → Nat → Option UInt8}
    (hread : ∀ i b buf', m[i]? = some b → buf'.drop (2 * i + 1) = buf.drop (2 * i + 1) → read buf' i = some b) :
    finish results (printBytes read m.length 0 buf) =
      if m.length ≤ 1999 then results (byte_stream_encode m) else .outsideWrite := by
  rw [printBytes_eq hread hm, hbuf]
  by_cases h : m.length ≤ 1999
  · have h0 : 0 ∉ byte_stream_encode m := fun h0 => absurd (plain_encode m 0 h0).1 (by decide)
    rw [if_pos h, if_pos (by rw [bufSize]; omega)]
    simp only [finish, CString.read_append h0]
  · rw [if_neg h, if_neg (by rw [bufSize]; omega)]
    rfl

/-! ### Messages that come back -/

theorem comesBack_iff (h : getMsgIdFromRaw m = some k) :
    ComesBack m (envelope flags timestamp msgType (byte_stream_encode m)) ↔ Typed k msgType := by
  have hexp : ComesBack m (envelope flags timestamp msgType (byte_stream_encode m)) ↔
      getJ2735EncodedMsg (envelope flags timestamp msgType (byte_stream_encode m)) =
        some (if (getMessageSubTypeFromMsgId k).isSome then some ⟨m, k⟩ else none) := by
    rw [ComesBack, h]
    simp
  rw [hexp, getJ2735EncodedMsg_envelope, h, Typed]
  by_cases hres : getMsgIdFromMessageSubType msgType = DSRCmsgID_reserved
  · have hnone := reserved_iff.1 hres
    rw [if_pos hres]
    rcases hk : getMessageSubTypeFromMsgId k with _ | s
    · simp [hnone]
    · simp only [Option.isSome_some, if_true, reduceCtorEq, Option.some.injEq, false_and, or_false, false_iff]
      rintro rfl
      exact hnone k hk
  · rw [if_neg hres]
    have hsub := subtype_of_msgId hres
    by_cases hid : k = getMsgIdFromMessageSubType msgType
    · rw [hid, hsub]
      simp
    · rw [if_neg fun h => hid (Option.some.inj h)]
      refine iff_of_false (by simp) ?_
      rintro (hk | ⟨-, hk⟩)
      · exact hid (msgId_of_subtype hk).symm
      · exact hk _ hsub

theorem msgId_nil : getMsgIdFromRaw [] = some DSRCmsgID_reserved := by
  have hs : search [] (2 ^ 16 + 1) 2 = .ended 2 := search_of_stopsAt (.inl (by simp))
  rw [getMsgIdFromRaw, hs]
  simp

theorem meetsFromEncoded_iff : MeetsFromEncoded m ↔ m.length ≤ 1999 ∧
    ∀ k, getMsgIdFromRaw m = some k → k = DSRCmsgID_reserved ∨ (getMessageSubTypeFromMsgId k).isSome := by
  rcases eq_or_ne m [] with rfl | hm
  · refine iff_of_true (fun flags timestamp buf _ => ?_) ⟨by simp, fun k hk => .inl (Option.some.inj (msgId_nil.symm.trans hk)).symm⟩
    rw [createMsgFromEncoded, List.length_nil, printBytes, finish]
    rcases CString.read buf with _ | text
    · trivial
    · simp only [fromRaw, msgId_nil, ne_eq, not_true_eq_false, if_false, Outcome.Meets]
  · have hcreate : ∀ flags timestamp (buf : Str), buf.length = bufSize → createMsgFromEncoded flags timestamp buf m =
        if m.length ≤ 1999 then fromRaw flags timestamp m (byte_stream_encode m) else .outsideWrite := fun flags timestamp buf hbuf =>
      finish_encode _ hbuf hm fun i b _ hb _ => hb
    constructor
    · intro h
      have h0 := h 0 0 (List.replicate bufSize 0) (by simp)
      rw [hcreate _ _ _ (by simp)] at h0
      split_ifs at h0 with hlen
      · refine ⟨hlen, fun k hk => ?_⟩
        rw [fromRaw, hk] at h0
        dsimp only at h0
        split_ifs at h0 with hres
        · rcases hsub : getMessageSubTypeFromMsgId k with _ | s
          · rw [hsub] at h0
            exact h0.elim
          · exact .inr rfl
        · exact .inl (not_not.1 hres)
      · exact h0.elim
    · rintro ⟨hlen, hids⟩ flags timestamp buf hbuf
      obtain ⟨k, hk⟩ := getMsgIdFromRaw_isSome (m := m) (by omega)
      rw [hcreate _ _ _ hbuf, if_pos hlen, fromRaw, hk]
      dsimp only
      split_ifs with hres
      · obtain ⟨s, hs⟩ := Option.isSome_iff_exists.1 ((hids k hk).resolve_left hres)
        rw [hs]
        exact (comesBack_iff hk).2 (.inl hs)
      · trivial

/-- Text that takes a buffer whose message is empty for one of `k`. -/
def stale (k : UInt8) : Str := byte_stream_encode [0, 0, 128, 1, k, 0] ++ 0 :: List.replicate (bufSize - 13) 0

theorem length_stale (k : UInt8) : (stale k).length = bufSize := by
  rw [stale, List.length_append, length_encode]
  simp only [List.length_cons, List.length_nil, List.length_replicate, bufSize]

theorem getMsgIdFromRaw_stale (k : UInt8) : getMsgIdFromRaw [0, 0, 128, 1, k, 0] = some k.toNat := by
  have hs : search [0, 0, 128, 1, k, 0] (2 ^ 16 + 1) 2 = .ended 2 := search_of_stopsAt (.inr ⟨rfl, rfl⟩)
  rw [getMsgIdFromRaw, hs]
  simp

theorem meetsFromEncodedwType_nil :
    MeetsFromEncodedwType [] msgType ↔ ∀ k, getMessageSubTypeFromMsgId k ≠ some msgType := by
  have hexp : ∀ results, ComesBack [] results ↔ getJ2735EncodedMsg results = some none := by
    intro results
    rw [ComesBack, msgId_nil]
    simp [DSRCmsgID_reserved, getMessageSubTypeFromMsgId]
  constructor
  · intro h k hk
    have hid := msgId_of_subtype hk
    have hlt : k < 256 := by
      by_contra hlt
      rw [getMessageSubTypeFromMsgId] at hk
      · cases hk
      all_goals omega
    have hk0 : k ≠ DSRCmsgID_reserved := by
      rintro rfl
      cases hk
    have h0 := h 0 0 (stale (UInt8.ofNat k)) (length_stale _)
    have hread : CString.read (stale (UInt8.ofNat k)) = some (byte_stream_encode [0, 0, 128, 1, UInt8.ofNat k, 0]) :=
      CString.read_append fun h0 => absurd (plain_encode _ 0 h0).1 (by decide)
    rw [createMsgFromEncodedwType, List.length_nil, printBytes, finish, hread] at h0
    have hback := (hexp _).1 h0
    rw [getJ2735EncodedMsg_envelope, hid, if_neg hk0, getMsgIdFromRaw_stale, UInt8.toNat_ofNat_of_lt' hlt, if_pos rfl] at hback
    cases hback
  · intro h flags timestamp buf _
    rw [createMsgFromEncodedwType, List.length_nil, printBytes, finish]
    rcases CString.read buf with _ | text
    · trivial
    · refine (hexp _).2 ?_
      simp only [getJ2735EncodedMsg, envelope, IvpMessage.create, if_true, reserved_iff.2 h]

theorem meetsFromEncodedwType_iff : MeetsFromEncodedwType m msgType ↔ m.length ≤ 1999 ∧
    ∀ k, getMsgIdFromRaw m = some k → Typed k msgType := by
  rcases eq_or_ne m [] with rfl | hm
  · -- the ID is reserved
    have hnone : getMessageSubTypeFromMsgId DSRCmsgID_reserved = none := rfl
    rw [meetsFromEncodedwType_nil, msgId_nil]
    simp [Typed, hnone]
  · have hcreate : ∀ flags timestamp (buf : Str), buf.length = bufSize → createMsgFromEncodedwType flags timestamp buf m msgType =
        if m.length ≤ 1999 then .returned (some (envelope flags timestamp msgType (byte_stream_encode m)))
        else .outsideWrite := fun flags timestamp buf hbuf => finish_encode _ hbuf hm fun i b _ hb _ => hb
    constructor
    · intro h
      have h0 := h 0 0 (List.replicate bufSize 0) (by simp)
      rw [hcreate _ _ _ (by simp)] at h0
      split_ifs at h0 with hlen
      · exact ⟨hlen, fun k hk => (comesBack_iff hk).1 h0⟩
      · exact h0.elim
    · rintro ⟨hlen, h⟩ flags timestamp buf hbuf
      obtain ⟨k, hk⟩ := getMsgIdFromRaw_isSome (m := m) (by omega)
      rw [hcreate _ _ _ hbuf, if_pos hlen]
      exact (comesBack_iff hk).2 (h k hk)

/-! ### The encoder -/

theorem createMsg_eq {encoded : Int} {subtype : Str} (h1 : 1 ≤ encoded) (h2 : encoded ≤ 2000) (hbuf : buf.length = bufSize) :
    createMsg flags timestamp buf encoded subtype = if encoded ≤ 1999 then
      .returned (some (envelope flags timestamp subtype (byte_stream_encode ((buf.drop 2000).take encoded.toNat))))
    else .outsideWrite := by
  obtain ⟨n, rfl⟩ := Int.eq_ofNat_of_zero_le (show 0 ≤ encoded by omega)
  rw [Int.toNat_natCast]
  have hlen : ((buf.drop 2000).take n).length = n := by
    rw [List.length_take, List.length_drop, hbuf, bufSize]
    omega
  -- the byte that is read is not yet written over
  have hread : ∀ i b (buf' : Str), ((buf.drop 2000).take n)[i]? = some b → buf'.drop (2 * i + 1) = buf.drop (2 * i + 1) →
      buf'[i + 2000]? = some b := by
    intro i b buf' hb hdrop
    have hi : i < n := by
      obtain ⟨hi, -⟩ := List.getElem?_eq_some_iff.1 hb
      rwa [hlen] at hi
    rw [List.getElem?_take_of_lt hi, List.getElem?_drop, Nat.add_comm] at hb
    have hat : ∀ l : Str, l[i + 2000]? = (l.drop (2 * i + 1))[1999 - i]? := fun l => by
      rw [List.getElem?_drop]
      congr 1
      omega
    rw [hat, hdrop, ← hat, hb]
  have hne : (buf.drop 2000).take n ≠ [] := by
    intro h
    rw [h, List.length_nil] at hlen
    omega
  have hfin := finish_encode (fun text => .returned (some (envelope flags timestamp subtype text))) hbuf hne hread
  rw [hlen] at hfin
  rw [createMsg, if_neg (by omega), Int.toNat_natCast, hfin]
  by_cases h : n ≤ 1999
  · rw [if_pos h, if_pos (by omega)]
  · rw [if_neg h, if_neg (by omega)]

theorem meetsEncoder_iff {encoded : Int} (h : encoded = -1 ∨ (1 ≤ encoded ∧ encoded ≤ 2000)) :
    MeetsEncoder encoded ↔ 1 ≤ encoded ∧ encoded ≤ 1999 := by
  rcases h with rfl | ⟨h1, h2⟩
  · -- the buffer is taken as it was found
    refine iff_of_false (fun h => ?_) (by omega)
    have h0 := h 0 0 (List.replicate bufSize 0) [] (by simp)
    have hread : CString.read (List.replicate bufSize 0) = some [] := by
      rw [bufSize, List.replicate_succ, CString.read, if_pos rfl]
    rw [createMsg, if_neg (by omega), show Int.toNat (-1) = 0 from rfl, printBytes, finish, hread, if_pos (by omega)] at h0
    cases h0
  · constructor
    · intro h
      have h0 := h 0 0 (List.replicate bufSize 0) [] (by simp)
      rw [createMsg_eq h1 h2 (by simp)] at h0
      refine ⟨h1, ?_⟩
      by_contra hlen
      rw [if_neg hlen] at h0
      cases h0
    · rintro ⟨-, hlen⟩ flags timestamp buf subtype hbuf
      rw [createMsg_eq h1 h2 hbuf, if_pos hlen, if_neg (by omega)]

end

/-- There is room for 1999 bytes, of a message as of an encoding, and an encoder that fails goes unnoticed. A message needs the
subtype of its ID, and one with a type of its own needs this one to be the type. -/
theorem envelopes_iff (m : ByteStream) (msgType : Str) (encoded : Int)
    (h : encoded = -1 ∨ (1 ≤ encoded ∧ encoded ≤ 2000)) :
    (MeetsFromEncoded m ↔ m.length ≤ 1999 ∧
      ∀ k, getMsgIdFromRaw m = some k → k = DSRCmsgID_reserved ∨ (getMessageSubTypeFromMsgId k).isSome) ∧
    (MeetsFromEncodedwType m msgType ↔ m.length ≤ 1999 ∧ ∀ k, getMsgIdFromRaw m = some k → Typed k msgType) ∧
    (SearchEnds m ↔ m.length ≤ 2 ^ 16 ∨ ∃ i < 2 ^ 16, m[i]? = some 128 ∧ m[i + 1]? = some 1) ∧
    (MeetsEncoder encoded ↔ 1 ≤ encoded ∧ encoded ≤ 1999) :=
  ⟨meetsFromEncoded_iff, meetsFromEncodedwType_iff, getMsgIdFromRaw_ends_iff, meetsEncoder_iff h⟩

theorem envelopes_failedEncoder : ¬ MeetsEncoder (-1) ∧ MeetsEncoder 1999 ∧ ¬ MeetsEncoder 2000 := by
  have hm1 := (envelopes_iff [] [] (-1) (.inl rfl)).2.2.2
  have h1999 := (envelopes_iff [] [] 1999 (.inr ⟨by norm_num, by norm_num⟩)).2.2.2
  have h2000 := (envelopes_iff [] [] 2000 (.inr ⟨by norm_num, by norm_num⟩)).2.2.2
  exact ⟨fun h => absurd (hm1.1 h).1 (by norm_num), h1999.2 (by norm_num), fun h => absurd (h2000.1 h).2 (by norm_num)⟩

/-- 2000 bytes, and three bytes without an ID that are to be a BSM. -/
theorem not_meetsFromEncoded :
    ¬ MeetsFromEncoded (List.replicate 2000 0) ∧ ¬ MeetsFromEncodedwType [1, 2, 3] (CString.lit "BSM") := by
  constructor
  · rw [meetsFromEncoded_iff, List.length_replicate]
    norm_num
  · rw [meetsFromEncodedwType_iff]
    rintro ⟨-, h⟩
    have hs : search [1, 2, 3] (2 ^ 16 + 1) 2 = .ended 2 := search_of_stopsAt (.inl (by simp))
    rcases h 0 (by rw [getMsgIdFromRaw, hs]; rfl) with hsub | ⟨-, hall⟩
    · cases hsub
    · exact hall 2 rfl

end V2xHub.IvpJ2735
