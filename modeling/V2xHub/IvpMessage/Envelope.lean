import V2xHub.IvpMessage.Basic
import V2xHub.CJson.Object
import V2xHub.MsgFramer.Stream

/-!
# Messages as text

`ivpMsg_create`, `ivpMsg_createJsonString` and `ivpMsg_parse`: a header with the members that are set, and the
payload. A message comes back from its text with every field (`envelope_round_trip`).
-/

namespace V2xHub.IvpMessage

def headerField : Str := CString.lit "header"
def payloadField : Str := CString.lit "payload"
def typeField : Str := CString.lit "type"
def subtypeField : Str := CString.lit "subtype"
def sourceField : Str := CString.lit "source"
def sourceIdField : Str := CString.lit "sourceId"
def encodingField : Str := CString.lit "encoding"
def flagsField : Str := CString.lit "flags"
def dsrcMetadataField : Str := CString.lit "dsrcMetadata"
def channelField : Str := CString.lit "channel"
def psidField : Str := CString.lit "psid"
def timestampField : Str := CString.lit "timestamp"

/-- `ivpMsg_create`, `now` being the time in milliseconds. -/
def create (now : Nat) (type subtype encoding : Option Str) (flags : IvpMsgFlags) (payload : Option CJson) : IvpMessage :=
  ⟨type, subtype, none, 0, encoding, now, flags, none, payload⟩

def dsrcMetadataFields (d : IvpDsrcMetadata) : List (Str × Option CJson) :=
  [(channelField, some (.createNumber (.ofInt d.channel))), (psidField, some (.createNumber (.ofInt d.psid)))]

def headerFields (msg : IvpMessage) : List (Str × Option CJson) :=
  [(typeField, msg.type.map .string),
    (subtypeField, msg.subtype.map .string),
    (sourceField, msg.source.map .string),
    (sourceIdField, if msg.sourceId ≠ 0 then some (.createNumber (.ofInt msg.sourceId)) else none),
    (encodingField, msg.encoding.map .string),
    (timestampField, some (.createNumber (.ofInt msg.timestamp))),
    (flagsField, some (.createNumber (.ofInt msg.flags.toNat))),
    (dsrcMetadataField, msg.dsrcMetadata.map fun d => .objectOf (dsrcMetadataFields d))]

def rootFields (msg : IvpMessage) : List (Str × Option CJson) :=
  [(headerField, some (.objectOf msg.headerFields)), (payloadField, msg.payload)]

/-- `ivpMsg_createJsonString`, with the option `IvpMsg_FormatOptions_formatted` or without. -/
def createJsonString (msg : IvpMessage) (formatted : Bool) : Str :=
  if formatted then (CJson.objectOf msg.rootFields).print else (CJson.objectOf msg.rootFields).printUnformatted

/-- `ivpMsg_parse`. The metadata keep what `malloc` gave where their numbers are missing. -/
def parse (libc : Libc) (jsonmsg : Str) : Option IvpMessage :=
  (CJson.parse libc jsonmsg).bind fun root =>
    (root.getObjectItem headerField).map fun header =>
      { type := header.tryGetStr typeField
        subtype := header.tryGetStr subtypeField
        source := header.tryGetStr sourceField
        sourceId := (header.tryGetUnsignedInt sourceIdField).getD 0
        encoding := header.tryGetStr encodingField
        timestamp := (header.tryGetInt64 timestampField).getD 0
        flags := BitVec.ofNat 32 ((header.tryGetUnsignedInt flagsField).getD 0)
        dsrcMetadata := (header.getObjectItem dsrcMetadataField).map fun d =>
          { psid := (d.tryGetInt psidField).getD libc.psid, channel := (d.tryGetInt channelField).getD libc.channel }
        payload := root.getObjectItem payloadField }

/-! ### Round trip -/

/-- The values that the fields of the structure can have, with a time below `2 ^ 53` and a payload of
integers for numbers. -/
structure Sendable (msg : IvpMessage) : Prop where
  type : ∀ s ∈ msg.type, 0 ∉ s
  subtype : ∀ s ∈ msg.subtype, 0 ∉ s
  source : ∀ s ∈ msg.source, 0 ∉ s
  sourceId : msg.sourceId < 2 ^ 32
  encoding : ∀ s ∈ msg.encoding, 0 ∉ s
  timestamp : msg.timestamp < 2 ^ 53
  dsrcMetadata : ∀ d ∈ msg.dsrcMetadata, (-2 ^ 31 ≤ d.psid ∧ d.psid < 2 ^ 31) ∧ -2 ^ 31 ≤ d.channel ∧ d.channel < 2 ^ 31
  payload : ∀ p ∈ msg.payload, p.Plain

/-- The message with the numbers of the payload as the parser makes them. -/
def normal (msg : IvpMessage) : IvpMessage := { msg with payload := msg.payload.map CJson.normal }

variable {libc : Libc} {msg : IvpMessage} {d : IvpDsrcMetadata}

theorem distinct_dsrcMetadataFields : CJson.Distinct ((dsrcMetadataFields d).map Prod.fst) := by
  show CJson.Distinct [channelField, psidField]
  decide

theorem distinct_headerFields : CJson.Distinct (msg.headerFields.map Prod.fst) := by
  show CJson.Distinct [typeField, subtypeField, sourceField, sourceIdField, encodingField, timestampField, flagsField,
    dsrcMetadataField]
  decide

theorem distinct_rootFields : CJson.Distinct (msg.rootFields.map Prod.fst) := by
  show CJson.Distinct [headerField, payloadField]
  decide

namespace Sendable

theorem dsrcMetadata_bounds (h : msg.Sendable) (hd : d ∈ msg.dsrcMetadata) :
    |d.psid| < 2 ^ 53 ∧ |d.channel| < 2 ^ 53 := by
  obtain ⟨⟨hp, hp'⟩, hc, hc'⟩ := h.dsrcMetadata d hd
  exact ⟨abs_lt.2 ⟨by omega, by omega⟩, abs_lt.2 ⟨by omega, by omega⟩⟩

theorem plain_dsrcMetadata (h : msg.Sendable) (hd : d ∈ msg.dsrcMetadata) :
    (CJson.objectOf (dsrcMetadataFields d)).Plain := by
  obtain ⟨hpsid, hchannel⟩ := h.dsrcMetadata_bounds hd
  refine CJson.plain_objectOf ?_ ?_
  · show ∀ name ∈ [channelField, psidField], 0 ∉ name
    decide
  · simp only [dsrcMetadataFields, List.forall_mem_cons, List.not_mem_nil, Option.mem_some_iff, forall_eq', false_imp_iff,
      implies_true, and_true]
    exact ⟨CJson.plain_createNumber hchannel, CJson.plain_createNumber hpsid⟩

theorem tryGetInt_dsrcMetadata (h : msg.Sendable) (hd : d ∈ msg.dsrcMetadata) :
    (CJson.objectOf (dsrcMetadataFields d)).normal.tryGetInt psidField = some d.psid ∧
    (CJson.objectOf (dsrcMetadataFields d)).normal.tryGetInt channelField = some d.channel := by
  obtain ⟨hpsid, hchannel⟩ := h.dsrcMetadata_bounds hd
  obtain ⟨⟨hp, hp'⟩, hc, hc'⟩ := h.dsrcMetadata d hd
  constructor
  · rw [CJson.tryGetInt, CJson.intItem_normal distinct_dsrcMetadataFields hpsid (by simp [dsrcMetadataFields])]
    exact congrArg some (Int.bmod_eq_of_le (by omega) (by omega))
  · rw [CJson.tryGetInt, CJson.intItem_normal distinct_dsrcMetadataFields hchannel (by simp [dsrcMetadataFields])]
    exact congrArg some (Int.bmod_eq_of_le (by omega) (by omega))

theorem number_bounds (h : msg.Sendable) : |(msg.sourceId : ℤ)| < 2 ^ 53 ∧ |(msg.timestamp : ℤ)| < 2 ^ 53 ∧
    |(msg.flags.toNat : ℤ)| < 2 ^ 53 := by
  have hid := h.sourceId
  have htime := h.timestamp
  have hflags := msg.flags.isLt
  exact ⟨abs_lt.2 ⟨by omega, by omega⟩, abs_lt.2 ⟨by omega, by omega⟩, abs_lt.2 ⟨by omega, by omega⟩⟩

theorem plain_header (h : msg.Sendable) : (CJson.objectOf msg.headerFields).Plain := by
  obtain ⟨hid, htime, hflags⟩ := h.number_bounds
  refine CJson.plain_objectOf ?_ ?_
  · show ∀ name ∈ [typeField, subtypeField, sourceField, sourceIdField, encodingField, timestampField, flagsField,
      dsrcMetadataField], 0 ∉ name
    decide
  · simp only [headerFields, List.forall_mem_cons, List.not_mem_nil, Option.mem_some_iff, forall_eq', false_imp_iff,
      implies_true, and_true]
    refine ⟨CJson.plain_map_string h.type, CJson.plain_map_string h.subtype, CJson.plain_map_string h.source,
      fun item hitem => ?_, CJson.plain_map_string h.encoding, CJson.plain_createNumber htime,
      CJson.plain_createNumber hflags, fun item hitem => ?_⟩
    · split_ifs at hitem
      · obtain rfl := Option.some.inj hitem
        exact CJson.plain_createNumber hid
      · nomatch hitem
    · obtain ⟨d, hd, rfl⟩ := Option.map_eq_some_iff.1 hitem
      exact h.plain_dsrcMetadata hd

theorem plain_root (h : msg.Sendable) : (CJson.objectOf msg.rootFields).Plain := by
  refine CJson.plain_objectOf ?_ ?_
  · show ∀ name ∈ [headerField, payloadField], 0 ∉ name
    decide
  · simp only [rootFields, List.forall_mem_cons, List.not_mem_nil, Option.mem_some_iff, forall_eq', false_imp_iff,
      implies_true, and_true]
    exact ⟨h.plain_header, h.payload⟩

/-- What the parser makes of the printed header and payload. -/
theorem parse_eq (h : msg.Sendable) (formatted : Bool) : parse libc (msg.createJsonString formatted) = some msg.normal := by
  obtain ⟨hid, htime, hflags⟩ := h.number_bounds
  have htext : CJson.parse libc (msg.createJsonString formatted) = some (CJson.objectOf msg.rootFields).normal := by
    cases formatted with
    | false => exact CJson.parse_printValue h.plain_root
    | true => exact CJson.parse_printValue h.plain_root
  have hmem : (headerField, some (.objectOf msg.headerFields)) ∈ msg.rootFields := List.mem_cons_self ..
  have hheader := CJson.getObjectItem_normal_objectOf distinct_rootFields hmem
  have hmem' : (payloadField, msg.payload) ∈ msg.rootFields := List.mem_cons_of_mem _ (List.mem_singleton_self _)
  have hpayload := CJson.getObjectItem_normal_objectOf distinct_rootFields hmem'
  have hstr : ∀ name s, (name, s.map .string) ∈ msg.headerFields →
      (CJson.objectOf msg.headerFields).normal.tryGetStr name = s :=
    fun name s hmem => CJson.tryGetStr_normal distinct_headerFields hmem
  have hsourceId : ((CJson.objectOf msg.headerFields).normal.tryGetUnsignedInt sourceIdField).getD 0 = msg.sourceId := by
    rcases eq_or_ne msg.sourceId 0 with h0 | hne
    · have hnone : (sourceIdField, none) ∈ msg.headerFields := by simp [headerFields, h0]
      rw [CJson.tryGetUnsignedInt, CJson.getObjectItem_normal_objectOf distinct_headerFields hnone, h0]
      rfl
    · rw [CJson.tryGetUnsignedInt, CJson.intItem_normal distinct_headerFields hid (by simp [headerFields, hne])]
      have := h.sourceId
      simp only [Option.map_some, Option.getD_some]
      omega
  have htimestamp : ((CJson.objectOf msg.headerFields).normal.tryGetInt64 timestampField).getD 0 = msg.timestamp := by
    rw [CJson.tryGetInt64, CJson.intItem_normal distinct_headerFields htime (by simp [headerFields])]
    have := h.timestamp
    simp only [Option.map_some, Option.getD_some]
    omega
  have hflag : BitVec.ofNat 32 (((CJson.objectOf msg.headerFields).normal.tryGetUnsignedInt flagsField).getD 0) =
      msg.flags := by
    rw [CJson.tryGetUnsignedInt, CJson.intItem_normal distinct_headerFields hflags (by simp [headerFields])]
    have hlt := msg.flags.isLt
    have hmod : ((msg.flags.toNat : ℤ) % 2 ^ 32).toNat = msg.flags.toNat := by omega
    simp only [Option.map_some, Option.getD_some, hmod, BitVec.ofNat_toNat, BitVec.setWidth_eq]
  have hdsrc : ((CJson.objectOf msg.headerFields).normal.getObjectItem dsrcMetadataField).map (fun d =>
      ({ psid := (d.tryGetInt psidField).getD libc.psid, channel := (d.tryGetInt channelField).getD libc.channel } :
        IvpDsrcMetadata)) = msg.dsrcMetadata := by
    have hfield : (dsrcMetadataField, msg.dsrcMetadata.map fun d => .objectOf (dsrcMetadataFields d)) ∈ msg.headerFields := by
      simp [headerFields]
    rw [CJson.getObjectItem_normal_objectOf distinct_headerFields hfield]
    cases hd : msg.dsrcMetadata with
    | none => rfl
    | some d =>
      obtain ⟨hpsid, hchannel⟩ := h.tryGetInt_dsrcMetadata hd
      simp only [Option.map_some, hpsid, hchannel, Option.getD_some]
  rw [parse, htext, Option.bind_some, hheader, Option.map_some, Option.map_some, hpayload, hsourceId, htimestamp, hflag, hdsrc,
    hstr typeField msg.type (by simp [headerFields]), hstr subtypeField msg.subtype (by simp [headerFields]),
    hstr sourceField msg.source (by simp [headerFields]), hstr encodingField msg.encoding (by simp [headerFields])]
  rfl

end Sendable

theorem normal_normal (msg : IvpMessage) : msg.normal.normal = msg.normal := by
  rw [normal, normal, Option.map_map, Function.comp_def]
  simp only [CJson.normal_normal]

theorem Sendable.normal (h : msg.Sendable) : msg.normal.Sendable :=
  { h with payload := Option.forall_mem_map.2 fun p hp => (h.payload p hp).normal }

theorem sendable_create {now : Nat} {type : Str} {encoding : Option Str} {payload : Option CJson} (htime : now < 2 ^ 53)
    (htype : 0 ∉ type) (hencoding : ∀ s ∈ encoding, 0 ∉ s) (hpayload : ∀ p ∈ payload, p.Plain) :
    (create now (some type) none encoding 0 payload).Sendable where
  type := by rintro s ⟨⟩; exact htype
  subtype := by rintro s ⟨⟩
  source := by rintro s ⟨⟩
  sourceId := Nat.two_pow_pos 32
  encoding := hencoding
  timestamp := htime
  dsrcMetadata := by rintro d ⟨⟩
  payload := hpayload

/-- The same message, but for the `valueint` of the numbers in the payload, which repeats their double. -/
def Same (msg msg' : IvpMessage) : Prop := msg.normal = msg'.normal

/-- A message comes back from its unformatted text with every field; the text has no byte that the framing
uses, and can be framed. -/
theorem envelope_round_trip (libc : Libc) (msg : IvpMessage) (h : msg.Sendable) :
    let text := msg.createJsonString false
    (∃ msg', parse libc text = some msg' ∧ msg'.Same msg ∧ ((∀ p ∈ msg.payload, p.normal = p) → msg' = msg)) ∧
    (0 ∉ text ∧ 0x02 ∉ text ∧ 0x03 ∉ text) ∧
    MsgFramer.createFramedMsg text text.length = some (0x02 :: text ++ [0x03]) := by
  intro text
  have hprintable : CString.Printable text := CJson.printable_printUnformatted _
  have hno : 0 ∉ text ∧ 0x02 ∉ text ∧ 0x03 ∉ text :=
    ⟨hprintable.not_mem (by decide), hprintable.not_mem (by decide), hprintable.not_mem (by decide)⟩
  refine ⟨⟨msg.normal, h.parse_eq false, ?_, fun hnormal => ?_⟩, hno, MsgFramer.createFramedMsg_spec hno.2.1 hno.2.2 hno.1⟩
  · rw [Same, normal, normal, Option.map_map]
    cases msg.payload with
    | none => rfl
    | some p => exact congrArg (fun q => { msg with payload := some q }) (CJson.normal_normal p)
  · cases hp : msg.payload with
    | none =>
      rw [normal, hp, Option.map_none, ← hp]
    | some p =>
      rw [normal, hp, Option.map_some, hnormal p hp, ← hp]

/-- A message with a quote and a line break in its payload, and a negative number. -/
def quoted : IvpMessage :=
  ⟨some (CString.lit "t"), none, none, 3, none, 1600000000000, 1, some ⟨32, -178⟩,
    some (.array [.string [34, 10], .createNumber (.ofInt (-5))])⟩

theorem quoted_sendable : quoted.Sendable := by
  refine ⟨by decide, by decide, by decide, by decide, by decide, by decide, by decide, ?_⟩
  rintro p ⟨⟩
  refine .array fun item hitem => ?_
  simp only [List.mem_cons, List.not_mem_nil, or_false] at hitem
  rcases hitem with rfl | rfl
  · exact .string (by decide)
  · exact CJson.plain_createNumber (by decide)

theorem envelope_round_trip_quoted :
    quoted.createJsonString false = CString.lit
      "\x7b\"header\":\x7b\"type\":\"t\",\"sourceId\":3,\"timestamp\":1600000000000,\"flags\":1,\"dsrcMetadata\":\x7b\"channel\":-178,\"psid\":32\x7d\x7d,\"payload\":[\"\\\"\\n\",-5]\x7d" ∧
    ∃ msg', parse Libc.rounding (quoted.createJsonString false) = some msg' ∧ msg'.Same quoted := by
  constructor
  · rw [CString.lit_ofList]
    decide +kernel
  · obtain ⟨msg', hparse, hsame, -⟩ := (envelope_round_trip Libc.rounding quoted quoted_sendable).1
    exact ⟨msg', hparse, hsame⟩

end V2xHub.IvpMessage
