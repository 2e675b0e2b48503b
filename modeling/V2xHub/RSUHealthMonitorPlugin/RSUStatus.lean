import V2xHub.JsonCpp.Build

/-!
# The status of an RSU

`getRSUStatus` asks for the fields of a table one by one and makes an object of the answers. The table has the OID of the index for
the mode of transmission as well, and the position of the RSU is read from a map that is empty if its text is no NMEA sentence.
-/

namespace V2xHub.RSUHealthMonitorPlugin

open JsonCpp (Value)
open JsonCpp.Value (assign valueAt lookup)

/-! ### The table -/

def RSU_ID_OID : String := "1.0.15628.4.1.17.4.0"
def RSU_MIB_VERSION : String := "1.0.15628.4.1.17.1.0"
def RSU_FIRMWARE_VERSION : String := "1.0.15628.4.1.17.2.0"
def RSU_MANUFACTURER : String := "1.0.15628.4.1.17.5.0"
def RSU_GPS_OUTPUT_STRING : String := "1.0.15628.4.1.8.5.0"
def RSU_IFM_INDEX : String := "1.0.15628.4.1.5.1.1.0"
def RSU_IFM_PSID : String := "1.0.15628.4.1.5.1.2.0"
def RSU_IFM_DSRC_MSG_ID : String := "1.0.15628.4.1.5.1.3.0"
def RSU_IFM_TX_MODE : String := "1.0.15628.4.1.5.1.4.0"
def RSU_IFM_TX_CHANNEL : String := "1.0.15628.4.1.5.1.5.0"
def RSU_IFM_ENABLE : String := "1.0.15628.4.1.5.1.6.0"
def RSU_IFM_STATUS : String := "1.0.15628.4.1.5.1.7.0"
def RSU_MODE : String := "1.0.15628.4.1.99.0"
def RSU_CHAN_STATUS : String := "1.0.15628.4.1.19.1.0"

inductive RSUMibVersion where
  | UNKOWN_MIB_V
  | RSUMIB_V_4_1
  | RSUMIB_V_1218
deriving DecidableEq

structure RSUFieldOIDStruct where
  field : String
  oid : String
  required : Bool

abbrev RSUStatusConfigTable := List RSUFieldOIDStruct

def constructRsuStatusConfigTable (mibVersion : RSUMibVersion) : RSUStatusConfigTable :=
  if mibVersion = .RSUMIB_V_4_1 then
    [⟨"rsuID", RSU_ID_OID, true⟩,
      ⟨"rsuMibVersion", RSU_MIB_VERSION, true⟩,
      ⟨"rsuFirmwareVersion", RSU_FIRMWARE_VERSION, true⟩,
      ⟨"rsuManufacturer", RSU_MANUFACTURER, true⟩,
      ⟨"rsuGpsOutputString", RSU_GPS_OUTPUT_STRING, true⟩,
      ⟨"rsuIFMIndex", RSU_IFM_INDEX, false⟩,
      ⟨"rsuIFMPsid", RSU_IFM_PSID, false⟩,
      ⟨"rsuIFMDsrcMsgId", RSU_IFM_DSRC_MSG_ID, false⟩,
      ⟨"rsuIFMTxMode", RSU_IFM_INDEX, false⟩,
      ⟨"rsuIFMTxChannel", RSU_IFM_TX_CHANNEL, false⟩,
      ⟨"rsuIFMEnable", RSU_IFM_ENABLE, false⟩,
      ⟨"rsuIFMStatus", RSU_IFM_STATUS, false⟩,
      ⟨"rsuMode", RSU_MODE, true⟩,
      ⟨"rsuChanStatus", RSU_CHAN_STATUS, true⟩]
  else []

/-- The map of the constructor has the table of MIB 4.1 only. -/
def GetRSUStatusConfig (mibVersion : RSUMibVersion) : RSUStatusConfigTable :=
  if mibVersion = .RSUMIB_V_4_1 then constructRsuStatusConfigTable .RSUMIB_V_4_1 else []

def validateAllRequiredFieldsPresent (configTbl : RSUStatusConfigTable) (fields : List String) : Bool :=
  configTbl.all fun config => !(config.required && !fields.contains config.field)

/-! ### The RSU -/

/-- What comes from outside: whether the session was opened, which requests fail, and what the RSU holds under an OID. `readLine` is
the fix that the NMEA parser makes of a sentence, if it does not throw an `NMEAParseError`. -/
structure RSU where
  opened : Bool
  fails : String → Bool
  held : String → Int64 ⊕ Str
  readLine : Str → Option (Double × Double)

/-- A number, printed with eight decimals and read again. -/
def eightDecimals : Double → Double
  | .finite q => .ofRat (Double.roundHalfEven (q * 10 ^ 8) / 10 ^ 8)
  | d => d

variable (rsu : RSU)

/-- The map has one element or none. -/
def ParseRSUGPS (gps_nmea_data : Str) : Option (Double × Double) :=
  (rsu.readLine gps_nmea_data).map fun fix => (eightDecimals fix.1, eightDecimals fix.2)

def iequals (a b : String) : Bool := a.toList.map Char.toLower == b.toList.map Char.toLower

/-- `none` where the first element of an empty map is read. -/
def populateJson (field : String) : Int64 ⊕ Str → Option Value
  | .inl val_int => some (Value.null.assign field (.int val_int))
  | .inr response_str =>
    if iequals field "rsuGpsOutputString" then
      (ParseRSUGPS rsu response_str).map fun gps =>
        ((Value.null.assign "rsuGpsOutputStringLatitude" (.real gps.1)).assign
          "rsuGpsOutputStringLongitude" (.real gps.2)).assign field (.string response_str)
    else some (Value.null.assign field (.string response_str))

def getMemberNames : Value → List String
  | .object members => members.map Prod.fst
  | _ => []

/-- The members of `json`, in `rsuStatuJson`. -/
def merge (rsuStatuJson json : Value) : Value :=
  (getMemberNames json).foldl (fun acc key => acc.assign key ((json.valueAt [key]).getD .null)) rsuStatuJson

/-- The loop over the table. -/
def requestFields : RSUStatusConfigTable → Value → Option Value
  | [], rsuStatuJson => some rsuStatuJson
  | config :: table, rsuStatuJson =>
    if rsu.fails config.field then
      if config.required then some .null else requestFields table rsuStatuJson
    else (populateJson rsu config.field (rsu.held config.oid)).bind fun json => requestFields table (merge rsuStatuJson json)

def getRSUStatus (mibVersion : RSUMibVersion) : Option Value :=
  let rsuStatusConfigTbl := GetRSUStatusConfig mibVersion
  if rsuStatusConfigTbl = [] then some .null
  else if rsu.opened then requestFields rsu rsuStatusConfigTbl .null
  else some .null

def getJsonKeys : Value → List String
  | .array elements => elements.flatMap getMemberNames
  | json => getMemberNames json

/-! ### What is expected -/

abbrev table : RSUStatusConfigTable := constructRsuStatusConfigTable .RSUMIB_V_4_1

/-- The constant that is named after the field. -/
def ownOid (config : RSUFieldOIDStruct) : String :=
  if config.field = "rsuIFMTxMode" then RSU_IFM_TX_MODE else config.oid

def ofHeld : Int64 ⊕ Str → Value
  | .inl n => .int n
  | .inr s => .string s

/-- The member of a field that was answered, and those of the position. -/
def Belongs (config : RSUFieldOIDStruct) (answer : Int64 ⊕ Str) (key : String) (v : Value) : Prop :=
  (key = config.field ∧ v = ofHeld answer) ∨
    (config.field = "rsuGpsOutputString" ∧ ∃ s gps, answer = .inr s ∧ ParseRSUGPS rsu s = some gps ∧
      ((key = "rsuGpsOutputStringLatitude" ∧ v = .real gps.1) ∨ (key = "rsuGpsOutputStringLongitude" ∧ v = .real gps.2)))

def RequiredFails (table : RSUStatusConfigTable) : Prop := ∃ config ∈ table, config.required = true ∧ rsu.fails config.field = true

structure Meets : Prop where
  defined : getRSUStatus rsu .RSUMIB_V_4_1 ≠ none
  null_iff : getRSUStatus rsu .RSUMIB_V_4_1 = some .null ↔ rsu.opened = false ∨ RequiredFails rsu table
  members : ∀ json, getRSUStatus rsu .RSUMIB_V_4_1 = some json → json ≠ .null → ∃ members, json = .object members ∧
    (∀ key v, lookup key members = some v ↔
      ∃ config ∈ table, rsu.fails config.field = false ∧ Belongs rsu config (rsu.held (ownOid config)) key v) ∧
    validateAllRequiredFieldsPresent table (getJsonKeys json) = true

/-- The position is not asked for with success, or its text is an NMEA sentence. -/
def Position : Prop :=
  rsu.fails "rsuGpsOutputString" = true ∨ ∀ s, rsu.held RSU_GPS_OUTPUT_STRING = .inr s → (rsu.readLine s).isSome

variable {rsu} {config : RSUFieldOIDStruct} {table' rest : RSUStatusConfigTable} {json j v w : Value} {key field : String}
  {answer : Int64 ⊕ Str}

/-! ### Members -/

theorem valueAt_object (members : List (String × Value)) : valueAt [key] (.object members) = lookup key members := by
  rw [valueAt]
  rcases lookup key members with _ | v
  · rfl
  · exact JsonCpp.Value.valueAt_nil

theorem lookup_isSome (members : List (String × Value)) : (lookup key members).isSome ↔ key ∈ members.map Prod.fst := by
  induction members with
  | nil => simp [lookup]
  | cons m members ih =>
    obtain ⟨name, w⟩ := m
    by_cases h : key = name
    · simp [lookup, h]
    · simp [lookup, h, ih]

theorem valueAt_isSome : (valueAt [key] j).isSome ↔ key ∈ getMemberNames j := by
  cases j with
  | object members => rw [valueAt_object, lookup_isSome, getMemberNames]
  | _ => simp [valueAt, getMemberNames]

theorem valueAt_foldl_assign (names : List String) (value : String → Value) : ∀ json : Value,
    valueAt [key] (names.foldl (fun acc key => acc.assign key (value key)) json) =
      if key ∈ names then some (value key) else valueAt [key] json := by
  induction names with
  | nil => simp
  | cons name names ih =>
    intro json
    rw [List.foldl_cons, ih]
    by_cases hmem : key ∈ names
    · simp [hmem]
    · rw [if_neg hmem]
      by_cases h : key = name
      · subst h
        simp
      · rw [JsonCpp.Value.valueAt_assign_of_ne h, if_neg (by simp [h, hmem])]

theorem valueAt_merge : valueAt [key] (merge json j) = (valueAt [key] j).or (valueAt [key] json) := by
  rw [merge, valueAt_foldl_assign]
  by_cases h : key ∈ getMemberNames j
  · obtain ⟨v, hv⟩ := Option.isSome_iff_exists.1 (valueAt_isSome.2 h)
    simp [h, hv]
  · rw [if_neg h, Option.not_isSome_iff_eq_none.1 (mt valueAt_isSome.1 h), Option.none_or]

/-- An object, or null. -/
def Members (v : Value) : Prop := v = .null ∨ ∃ members, v = .object members

theorem members_foldl_assign (names : List String) (value : String → Value) : ∀ json : Value, Members json →
    Members (names.foldl (fun acc key => acc.assign key (value key)) json) := by
  induction names with
  | nil => exact fun _ h => h
  | cons name names ih =>
    rintro json h
    refine ih _ (.inr ?_)
    rcases h with rfl | ⟨members, rfl⟩ <;> exact ⟨_, rfl⟩

theorem valueAt_populateJson (key : String) (v : Value)
    (hgps : iequals config.field "rsuGpsOutputString" = true → config.field = "rsuGpsOutputString")
    (h : populateJson rsu config.field answer = some j) : valueAt [key] j = some v ↔ Belongs rsu config answer key v := by
  have hone : valueAt [key] (Value.null.assign config.field (ofHeld answer)) = some v ↔
      key = config.field ∧ v = ofHeld answer := by
    by_cases hkey : key = config.field
    · subst hkey
      simp [eq_comm]
    · simp [JsonCpp.Value.valueAt_assign_of_ne hkey, hkey]
  rcases answer with n | s
  · obtain rfl := Option.some.inj h
    refine hone.trans ?_
    rw [Belongs]
    simp
  · rw [populateJson] at h
    split_ifs at h with hi
    · obtain ⟨⟨lat, lon⟩, hparse, rfl⟩ := Option.map_eq_some_iff.1 h
      have hfield := hgps hi
      rw [Belongs, hfield]
      by_cases hkey : key = "rsuGpsOutputString"
      · subst hkey
        simp [ofHeld, eq_comm]
      · rw [JsonCpp.Value.valueAt_assign_of_ne hkey]
        by_cases hlon : key = "rsuGpsOutputStringLongitude"
        · subst hlon
          simp [hparse, eq_comm]
        · rw [JsonCpp.Value.valueAt_assign_of_ne hlon]
          by_cases hlat : key = "rsuGpsOutputStringLatitude"
          · subst hlat
            simp [hparse, eq_comm]
          · simp [JsonCpp.Value.valueAt_assign_of_ne hlat, hkey, hlon, hlat]
    · obtain rfl := Option.some.inj h
      refine hone.trans ?_
      rw [Belongs]
      refine (or_iff_left ?_).symm
      rintro ⟨hfield, -⟩
      exact hi (by rw [hfield]; simp [iequals])

theorem populateJson_isSome : (populateJson rsu field answer).isSome ↔
    (iequals field "rsuGpsOutputString" = true → ∀ s, answer = .inr s → (rsu.readLine s).isSome) := by
  rcases answer with n | s
  · simp [populateJson]
  · rw [populateJson]
    split_ifs with hi <;> simp [hi, ParseRSUGPS]

/-! ### The loop -/

/-- The answer is made into members. -/
def Populates (rsu : RSU) (config : RSUFieldOIDStruct) : Prop :=
  rsu.fails config.field = false → (populateJson rsu config.field (rsu.held config.oid)).isSome

theorem requestFields_of_required (json : Value) (hstop : RequiredFails rsu table')
    (hpop : ∀ config ∈ table', Populates rsu config) (rest : RSUStatusConfigTable) : requestFields rsu (table' ++ rest) json = some .null := by
  induction table' generalizing json with
  | nil => simp [RequiredFails] at hstop
  | cons config table' ih =>
    rw [List.cons_append, requestFields]
    rcases hfails : rsu.fails config.field with _ | _
    · obtain ⟨j, hj⟩ := Option.isSome_iff_exists.1 (hpop config List.mem_cons_self hfails)
      rw [if_neg (by simp), hj, Option.bind_some]
      refine ih _ ?_ fun c hc => hpop c (List.mem_cons_of_mem _ hc)
      obtain ⟨c, hc, hreq, hf⟩ := hstop
      rcases List.mem_cons.1 hc with rfl | hc
      · simp [hfails] at hf
      · exact ⟨c, hc, hreq, hf⟩
    · rw [if_pos rfl]
      split_ifs with hreq
      · rfl
      · refine ih _ ?_ fun c hc => hpop c (List.mem_cons_of_mem _ hc)
        obtain ⟨c, hc, hr, hf⟩ := hstop
        rcases List.mem_cons.1 hc with rfl | hc
        · exact absurd hr hreq
        · exact ⟨c, hc, hr, hf⟩

theorem requestFields_append (json : Value) (rest : RSUStatusConfigTable) (hstop : ¬ RequiredFails rsu table')
    (hpop : ∀ config ∈ table', Populates rsu config) :
    ∃ json', requestFields rsu (table' ++ rest) json = requestFields rsu rest json' := by
  induction table' generalizing json with
  | nil => exact ⟨json, rfl⟩
  | cons config table' ih =>
    have hstop' : ¬ RequiredFails rsu table' := fun ⟨c, hc, h⟩ => hstop ⟨c, List.mem_cons_of_mem _ hc, h⟩
    rw [List.cons_append, requestFields]
    rcases hfails : rsu.fails config.field with _ | _
    · obtain ⟨j, hj⟩ := Option.isSome_iff_exists.1 (hpop config List.mem_cons_self hfails)
      rw [if_neg (by simp), hj, Option.bind_some]
      exact ih _ hstop' fun c hc => hpop c (List.mem_cons_of_mem _ hc)
    · rw [if_pos rfl, if_neg fun hreq => hstop ⟨config, List.mem_cons_self, hreq, hfails⟩]
      exact ih _ hstop' fun c hc => hpop c (List.mem_cons_of_mem _ hc)

/-- Where all goes well, the object has the members of the fields that were answered. No two fields have a member in common. -/
theorem requestFields_eq (hgps : ∀ config ∈ table', iequals config.field "rsuGpsOutputString" = true →
      config.field = "rsuGpsOutputString")
    (hdist : table'.Pairwise fun c d => ∀ a b key v w, Belongs rsu c a key v → ¬ Belongs rsu d b key w)
    (hstop : ¬ RequiredFails rsu table') (hpop : ∀ config ∈ table', Populates rsu config) (hjson : Members json) :
    ∃ json', requestFields rsu table' json = some json' ∧ Members json' ∧ ∀ key v, valueAt [key] json' = some v ↔
      (∃ config ∈ table', rsu.fails config.field = false ∧ Belongs rsu config (rsu.held config.oid) key v) ∨
      ((∀ config ∈ table', rsu.fails config.field = false → ∀ w, ¬ Belongs rsu config (rsu.held config.oid) key w) ∧
        valueAt [key] json = some v) := by
  induction table' generalizing json with
  | nil => exact ⟨json, rfl, hjson, fun key v => by simp⟩
  | cons config table' ih =>
    have hstop' : ¬ RequiredFails rsu table' := fun ⟨c, hc, h⟩ => hstop ⟨c, List.mem_cons_of_mem _ hc, h⟩
    have hpop' : ∀ c ∈ table', Populates rsu c := fun c hc => hpop c (List.mem_cons_of_mem _ hc)
    have hgps' := fun c (hc : c ∈ table') => hgps c (List.mem_cons_of_mem _ hc)
    rw [List.pairwise_cons] at hdist
    rw [requestFields]
    rcases hfails : rsu.fails config.field with _ | _
    · obtain ⟨j, hj⟩ := Option.isSome_iff_exists.1 (hpop config List.mem_cons_self hfails)
      have hbelongs := fun key v => valueAt_populateJson key v (hgps config List.mem_cons_self) hj
      obtain ⟨json', hjson', hmembers, hvalue⟩ := ih hgps' hdist.2 hstop' hpop'
        (members_foldl_assign (getMemberNames j) (fun key => (j.valueAt [key]).getD .null) json hjson)
      refine ⟨json', by rw [if_neg (by simp), hj, Option.bind_some]; exact hjson', hmembers, fun key v => ?_⟩
      rw [hvalue, ← merge, valueAt_merge]
      constructor
      · rintro (⟨c, hc, h⟩ | ⟨hnone, h⟩)
        · exact .inl ⟨c, List.mem_cons_of_mem _ hc, h⟩
        · rcases hat : valueAt [key] j with _ | w
          · rw [hat, Option.none_or] at h
            refine .inr ⟨fun c hc hf w hw => ?_, h⟩
            rcases List.mem_cons.1 hc with rfl | hc
            · rw [← hbelongs, hat] at hw
              cases hw
            · exact hnone c hc hf w hw
          · rw [hat, Option.some_or] at h
            exact .inl ⟨config, List.mem_cons_self, hfails, by rw [← hbelongs, hat, h]⟩
      · rintro (⟨c, hc, hf, h⟩ | ⟨hnone, h⟩)
        · rcases List.mem_cons.1 hc with rfl | hc
          · refine .inr ⟨fun d hd _ w => hdist.1 d hd _ _ _ _ _ h, ?_⟩
            rw [(hbelongs key v).2 h, Option.some_or]
          · exact .inl ⟨c, hc, hf, h⟩
        · refine .inr ⟨fun c hc => hnone c (List.mem_cons_of_mem _ hc), ?_⟩
          rcases hat : valueAt [key] j with _ | w
          · rw [Option.none_or, h]
          · exact absurd ((hbelongs key w).1 hat) (hnone config List.mem_cons_self hfails w)
    · obtain ⟨json', hjson', hmembers, hvalue⟩ := ih hgps' hdist.2 hstop' hpop' hjson
      refine ⟨json', ?_, hmembers, fun key v => ?_⟩
      · rw [if_pos rfl, if_neg fun hreq => hstop ⟨config, List.mem_cons_self, hreq, hfails⟩, hjson']
      · rw [hvalue]
        simp [hfails]

/-! ### The table of MIB 4.1 -/

/-- The names of the members that a field may have. -/
def names (config : RSUFieldOIDStruct) : List String :=
  if config.field = "rsuGpsOutputString" then
    [config.field, "rsuGpsOutputStringLatitude", "rsuGpsOutputStringLongitude"] else [config.field]

/-- The fields that are asked for before the position; they are all required. -/
def early : RSUStatusConfigTable := table.take 4

/-- The members of different fields have different names, and the position and the mode of transmission are what they are asked
for by. -/
theorem table_spec : (table.Pairwise fun c d => ∀ key ∈ names c, key ∉ names d) ∧
    (∀ config ∈ early, iequals config.field "rsuGpsOutputString" = false) ∧
    ∀ config ∈ table, (iequals config.field "rsuGpsOutputString" = true → config.field = "rsuGpsOutputString") ∧
      (config.field = "rsuGpsOutputString" → config.oid = RSU_GPS_OUTPUT_STRING) ∧
      (config.field = "rsuIFMTxMode" → config.oid = RSU_IFM_INDEX) := by
  decide +kernel

theorem mem_names (h : Belongs rsu config answer key v) : key ∈ names config := by
  rcases h with ⟨rfl, -⟩ | ⟨hfield, -, -, -, -, ⟨rfl, -⟩ | ⟨rfl, -⟩⟩
  · rw [names]
    split_ifs <;> simp
  · simp [names, hfield]
  · simp [names, hfield]

theorem table_distinct : table.Pairwise fun c d => ∀ a b key v w, Belongs rsu c a key v → ¬ Belongs rsu d b key w :=
  table_spec.1.imp fun h _ _ _ _ _ hc hd => h _ (mem_names hc) (mem_names hd)

theorem populates_of_position (h : Position rsu) : ∀ config ∈ table, Populates rsu config := by
  intro config hmem hf
  obtain ⟨hiequals, hgps, -⟩ := table_spec.2.2 config hmem
  refine populateJson_isSome.2 fun hi s hs => ?_
  have hfield := hiequals hi
  rw [hfield] at hf
  rw [hgps hfield] at hs
  rcases h with h | h
  · simp [hf] at h
  · exact h s hs

theorem populates_early : ∀ config ∈ early, Populates rsu config := by
  intro config hmem _
  refine populateJson_isSome.2 fun hi => ?_
  rw [table_spec.2.1 config hmem] at hi
  cases hi

theorem getRSUStatus_opened (h : rsu.opened = true) : getRSUStatus rsu .RSUMIB_V_4_1 = requestFields rsu table .null := by
  rw [getRSUStatus, h]
  rfl

theorem getRSUStatus_closed (h : rsu.opened = false) : getRSUStatus rsu .RSUMIB_V_4_1 = some .null := by
  rw [getRSUStatus, h]
  simp

theorem getRSUStatus_outside (hopened : rsu.opened = true) (hearly : ¬ RequiredFails rsu early) (h : ¬ Position rsu) :
    getRSUStatus rsu .RSUMIB_V_4_1 = none := by
  simp only [Position, not_or, Bool.not_eq_true, not_forall, Option.isSome_iff_ne_none, ne_eq, not_not] at h
  obtain ⟨hf, s, hs, hline⟩ := h
  obtain ⟨json', hjson'⟩ := requestFields_append .null (table.drop 4) hearly populates_early
  have hi : iequals "rsuGpsOutputString" "rsuGpsOutputString" = true := by simp [iequals]
  rw [getRSUStatus_opened hopened]
  refine hjson'.trans ?_
  rw [show table.drop 4 = ⟨"rsuGpsOutputString", RSU_GPS_OUTPUT_STRING, true⟩ :: table.drop 5 from rfl, requestFields, hf,
    if_neg (by simp), hs, populateJson, if_pos hi, ParseRSUGPS, hline]
  rfl

/-- The answer of the index, where the mode of transmission is asked for. -/
theorem belongs_own_iff (h : rsu.fails "rsuIFMTxMode" = true ∨ rsu.held RSU_IFM_INDEX = rsu.held RSU_IFM_TX_MODE) :
    (∃ config ∈ table, rsu.fails config.field = false ∧ Belongs rsu config (rsu.held (ownOid config)) key v) ↔
      ∃ config ∈ table, rsu.fails config.field = false ∧ Belongs rsu config (rsu.held config.oid) key v := by
  refine exists_congr fun config => and_congr_right fun hmem => and_congr_right fun hf => ?_
  rw [ownOid]
  split_ifs with hfield
  · rw [(table_spec.2.2 config hmem).2.2 hfield]
    rw [hfield] at hf
    rcases h with h | h
    · simp [hf] at h
    · rw [h]
  · rfl

/-- When all is as expected: the session is not opened; or a field fails before the position is asked for; or the position is
readable, and a required field fails, or the mode of transmission fails or is the index. -/
def Usable (rsu : RSU) : Prop :=
  rsu.opened = false ∨ RequiredFails rsu early ∨ (Position rsu ∧ (RequiredFails rsu table ∨ rsu.fails "rsuIFMTxMode" = true ∨
    rsu.held RSU_IFM_INDEX = rsu.held RSU_IFM_TX_MODE))

theorem meets_of_null (h : getRSUStatus rsu .RSUMIB_V_4_1 = some .null) (hnull : rsu.opened = false ∨ RequiredFails rsu table) :
    Meets rsu where
  defined := by simp [h]
  null_iff := iff_of_true h hnull
  members json hjson hne := absurd (Option.some.inj (hjson.symm.trans h)) hne

theorem requiredFails_of_early (h : RequiredFails rsu early) : RequiredFails rsu table := by
  obtain ⟨config, hmem, h⟩ := h
  exact ⟨config, List.mem_of_mem_take hmem, h⟩

/-- An object with the members of the fields that were answered. -/
theorem getRSUStatus_object (hopened : rsu.opened = true) (hpos : Position rsu) (hreq : ¬ RequiredFails rsu table) :
    ∃ members, getRSUStatus rsu .RSUMIB_V_4_1 = some (.object members) ∧ ∀ key v, lookup key members = some v ↔
      ∃ config ∈ table, rsu.fails config.field = false ∧ Belongs rsu config (rsu.held config.oid) key v := by
  obtain ⟨json', hjson', hmembers, hvalue⟩ := requestFields_eq (fun config hmem => (table_spec.2.2 config hmem).1)
    table_distinct hreq (populates_of_position hpos) (.inl rfl : Members .null)
  have hall : ∀ key v, valueAt [key] json' = some v ↔
      ∃ config ∈ table, rsu.fails config.field = false ∧ Belongs rsu config (rsu.held config.oid) key v := fun key v => by
    rw [hvalue]
    exact or_iff_left fun h => by simp [valueAt] at h
  rw [getRSUStatus_opened hopened, hjson']
  rcases hmembers with rfl | ⟨members, rfl⟩
  · -- the ID is required
    have hid : (⟨"rsuID", RSU_ID_OID, true⟩ : RSUFieldOIDStruct) ∈ table := List.mem_cons_self
    have hf : rsu.fails "rsuID" = false := by
      by_contra hf
      exact hreq ⟨_, hid, rfl, by simpa using hf⟩
    have := (hall "rsuID" _).2 ⟨_, hid, hf, .inl ⟨rfl, rfl⟩⟩
    simp [valueAt] at this
  · exact ⟨members, rfl, fun key v => by rw [← hall, valueAt_object]⟩

theorem validate_object {members : List (String × Value)} (hreq : ¬ RequiredFails rsu table)
    (h : ∀ key v, lookup key members = some v ↔
      ∃ config ∈ table, rsu.fails config.field = false ∧ Belongs rsu config (rsu.held config.oid) key v) :
    validateAllRequiredFieldsPresent table (getJsonKeys (.object members)) = true := by
  rw [validateAllRequiredFieldsPresent, List.all_eq_true]
  intro config hmem
  by_cases hr : config.required = true
  · have hf : rsu.fails config.field = false := by
      by_contra hf
      exact hreq ⟨config, hmem, hr, by simpa using hf⟩
    have hin : config.field ∈ members.map Prod.fst :=
      (lookup_isSome members).1 (Option.isSome_iff_exists.2 ⟨_, (h _ _).2 ⟨config, hmem, hf, .inl ⟨rfl, rfl⟩⟩⟩)
    simpa [hr, getJsonKeys, getMemberNames] using hin
  · simp [hr]

theorem meets_of_usable (h : Usable rsu) : Meets rsu := by
  rcases hopened : rsu.opened with _ | _
  · exact meets_of_null (getRSUStatus_closed hopened) (.inl hopened)
  · have hopen := getRSUStatus_opened hopened
    rcases h with h | h | ⟨hpos, h⟩
    · simp [hopened] at h
    · refine meets_of_null ?_ (.inr (requiredFails_of_early h))
      rw [hopen]
      exact requestFields_of_required _ h populates_early (table.drop 4)
    · by_cases hreq : RequiredFails rsu table
      · refine meets_of_null ?_ (.inr hreq)
        rw [hopen]
        simpa using requestFields_of_required .null hreq (populates_of_position hpos) []
      · obtain ⟨members, hmembers, hlookup⟩ := getRSUStatus_object hopened hpos hreq
        refine ⟨by simp [hmembers], ?_, fun json hjson _ => ?_⟩
        · rw [hmembers]
          simp [hopened, hreq]
        · obtain rfl := Option.some.inj (hmembers.symm.trans hjson)
          refine ⟨members, rfl, fun key v => ?_, validate_object hreq hlookup⟩
          rw [belongs_own_iff (h.resolve_left hreq), hlookup]

theorem ofHeld_injective : Function.Injective ofHeld := by
  rintro (a | a) (b | b) h <;> cases h <;> rfl

theorem usable_of_meets (h : Meets rsu) : Usable rsu := by
  by_contra hu
  simp only [Usable, not_or, not_and_or, Bool.not_eq_false] at hu
  obtain ⟨hopened, hearly, hu⟩ := hu
  by_cases hpos : Position rsu
  · obtain ⟨hreq, hf, hheld⟩ := hu.resolve_left (not_not.2 hpos)
    obtain ⟨members, hmembers, hlookup⟩ := getRSUStatus_object hopened hpos hreq
    obtain ⟨members', heq, hexpected, -⟩ := h.members _ hmembers (by simp)
    cases heq
    have hmem : (⟨"rsuIFMTxMode", RSU_IFM_INDEX, false⟩ : RSUFieldOIDStruct) ∈ table := by
      simp [table, constructRsuStatusConfigTable]
    rw [Bool.not_eq_true] at hf
    have hindex := (hlookup "rsuIFMTxMode" _).2 ⟨_, hmem, hf, .inl ⟨rfl, rfl⟩⟩
    have hmode := (hexpected "rsuIFMTxMode" _).2 ⟨_, hmem, hf, .inl ⟨rfl, rfl⟩⟩
    exact hheld (ofHeld_injective (Option.some.inj (hindex.symm.trans hmode)))
  · exact h.defined (getRSUStatus_outside hopened hearly hpos)

/-- The status is as expected just where the answers are usable. -/
theorem rsuStatus_iff (rsu : RSU) : Meets rsu ↔ Usable rsu := ⟨usable_of_meets, meets_of_usable⟩

/-- Everything is answered, the position with a text on which the parser throws. -/
theorem not_rsuStatus : ¬ Meets ⟨true, fun _ => false, fun _ => .inr (CString.lit "$*GPGGA,invalid"), fun _ => none⟩ := by
  intro h
  rcases usable_of_meets h with h | ⟨_, _, _, h⟩ | ⟨h | h, _⟩
  · cases h
  · cases h
  · cases h
  · exact absurd (h _ rfl) (by simp)

end V2xHub.RSUHealthMonitorPlugin
