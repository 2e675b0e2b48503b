import V2xHub.CommandPlugin.Telemetry

/-!
# The texts of the telemetry

What the frames stand for: the trees as they are written, the update of a plugin where its names and values have nothing to
be escaped but quotes (`CleanUpdate`), and a frame as a whole.
-/

namespace V2xHub.CommandPlugin.Telemetry
open PropertyTree

/-- A text that needs nothing but its quotes replaced. -/
def Unescaped (s : Str) : Prop := ∀ c ∈ s, 32 ≤ c ∧ c ≠ 92

def CleanFields (fields : Fields) : Prop := ∀ f ∈ fields, Clean f.1 ∧ Unescaped f.2

/-- What the update of a plugin sends is the same as it is written, which is never so of the system configuration. -/
def CleanUpdate : (dataType : DataType) → (old : Option (Sub dataType)) → (plugin : Str × Sub dataType) → Prop
  | .list, old, plugin | .state, old, plugin => Clean plugin.1 ∧ CleanFields (changed old plugin.2)
  | .config, old, plugin => Clean plugin.1 ∧ ∀ v ∈ changedConfigs old plugin.2, Clean v.1 ∧ CleanFields v.2
  | .status, _, plugin => Clean plugin.1 ∧ Clean plugin.2
  | .systemConfig, _, _ => False

/-! ### Trees -/

theorem value_object (members : List (Str × Str × Json)) (hne : members ≠ []) (h : ∀ m ∈ members, Value m.2.1 m.2.2) :
    Value (object (members.map fun m => (m.1, m.2.1))) (.obj (members.map fun m => (m.1, m.2.2))) := by
  have hobj := value_members (members.map fun m => ⟨m.1.flatMap escape, m.1, m.2.1, m.2.2⟩)
    (List.forall_mem_map.2 fun m hm => ⟨chars_escape m.1, h m hm⟩)
  rw [object, if_neg (by simpa using hne)]
  simpa [List.map_map, Function.comp_def, Member.text, quoted] using hobj

theorem value_fields {fields : Fields} (hne : fields ≠ []) : Value (fieldsText fields) (fieldsJson fields) := by
  have := value_object (fields.map fun f => (f.1, quoted f.2, Json.str f.2)) (by simpa using hne)
    (List.forall_mem_map.2 fun f _ => value_quoted f.2)
  simpa [List.map_map, Function.comp_def, fieldsText, fieldsJson] using this

/-- The rows of the system configuration. -/
theorem value_parameters (parameters : List Parameter) :
    Value (91 :: commas (parameters.map fun p => fieldsText p.fields) ++ [93]) (subJson .systemConfig parameters) := by
  have hne : ∀ p : Parameter, p.fields ≠ [] := by simp [Parameter.fields]
  have := Value.arr (parameters.map fun p => (fieldsText p.fields, fieldsJson p.fields))
    (List.forall_mem_map.2 fun p _ => value_fields (hne p))
  simpa [List.map_map, Function.comp_def, subJson] using this

theorem value_write {dataType : DataType} {sub : Sub dataType} (h : StoredSub dataType sub) :
    Value (write dataType sub) (subJson dataType sub) := by
  cases dataType with
  | list => exact value_fields h.1
  | state => exact value_fields h.1
  | status => exact value_quoted sub
  | config =>
    have := value_object (List.map (fun v => (v.1, fieldsText v.2, fieldsJson v.2)) sub)
      (by simpa using h.1.1) (List.forall_mem_map.2 fun v hv => value_fields (h.2 v hv).1)
    simpa [List.map_map, Function.comp_def, write, subJson] using this
  | systemConfig => exact value_parameters sub

theorem value_output {dataType : DataType} {snapshot : Snapshot dataType} (hne : snapshot ≠ []) (h : Stored snapshot) :
    Value (output snapshot) (.obj (snapshot.map fun p => (p.1, subJson dataType p.2))) := by
  have := value_object (snapshot.map fun p => (p.1, write dataType p.2, subJson dataType p.2))
    (by simpa using hne) (List.forall_mem_map.2 fun p hp => value_write (h.1.2 p hp))
  rw [output, if_neg hne]
  refine .behind (by decide) ?_
  simpa [List.map_map, Function.comp_def] using this

/-- A plugin in a remove frame. -/
def pluginMember {dataType : DataType} (plugin : Str × Sub dataType) : Member :=
  ⟨plugin.1.flatMap escape, plugin.1, write dataType plugin.2, subJson dataType plugin.2⟩

theorem pluginMember_text {dataType : DataType} (plugin : Str × Sub dataType) :
    (pluginMember plugin).text = pluginText plugin := by
  simp [pluginMember, Member.text, pluginText, quoted]

theorem pluginMember_valid {dataType : DataType} {plugin : Str × Sub dataType} (h : StoredSub dataType plugin.2) :
    (pluginMember plugin).Valid := ⟨chars_escape plugin.1, value_write h⟩

/-! ### Updates -/

theorem chars_replaceQuotes {s : Str} (h : Unescaped s) : Chars (replaceQuotes s) s := by
  induction s with
  | nil => exact .nil
  | cons c s ih =>
    obtain ⟨⟨hlow, hbackslash⟩, hs⟩ := List.forall_mem_cons.1 h
    rw [replaceQuotes, List.flatMap_cons]
    by_cases hquote : c = 34
    · rw [if_pos hquote, hquote]
      exact .escape (by decide) (ih hs)
    · rw [if_neg hquote]
      exact .literal ⟨hlow, hquote, hbackslash⟩ (ih hs)

def pairMember (f : Str × Str) : Member := ⟨f.1, f.1, 32 :: (34 :: replaceQuotes f.2 ++ [34]), .str f.2⟩

def nestedMember (name : Str) (members : List Member) : Member :=
  ⟨name, name, 32 :: (123 :: commas (members.map Member.text) ++ [125]), .obj (members.map fun m => (m.key, m.value))⟩

/-- What is between a name and its value. -/
theorem lit_string : CString.lit "\": \"" = [34, 58, 32, 34] := by decide

theorem pairs_eq (fields : Fields) : pairs fields = commas ((fields.map pairMember).map Member.text) := by
  rw [pairs, List.map_map]
  congr 1
  refine List.map_congr_left fun f _ => ?_
  simp [lit_string, pairMember, Member.text]

theorem nestedMember_text (name : Str) (members : List Member) :
    (nestedMember name members).text = nested name (commas (members.map Member.text)) := by
  have hlit : CString.lit "\": \x7b" = [34, 58, 32, 123] := by decide
  simp [hlit, nestedMember, Member.text, nested]

theorem pairMember_valid {f : Str × Str} (hkey : Clean f.1) (hvalue : Unescaped f.2) : (pairMember f).Valid :=
  ⟨.of_clean hkey, .before (by decide) (.str (chars_replaceQuotes hvalue))⟩

theorem nestedMember_valid {name : Str} {members : List Member} (hname : Clean name) (h : ∀ m ∈ members, m.Valid) :
    (nestedMember name members).Valid :=
  ⟨.of_clean hname, .before (by decide) (value_members members h)⟩

/-- The update of a plugin; that of the system configuration is not a member. -/
def updateMember : (dataType : DataType) → (old : Option (Sub dataType)) → (plugin : Str × Sub dataType) → Member
  | .list, old, plugin | .state, old, plugin => nestedMember plugin.1 ((changed old plugin.2).map pairMember)
  | .config, old, plugin =>
    nestedMember plugin.1 ((changedConfigs old plugin.2).map fun v => nestedMember v.1 (v.2.map pairMember))
  | .status, _, plugin => ⟨plugin.1, plugin.1, 32 :: (34 :: plugin.2 ++ [34]), .str plugin.2⟩
  | .systemConfig, _, plugin => ⟨plugin.1, plugin.1, write .systemConfig plugin.2, subJson .systemConfig plugin.2⟩

theorem updateMember_key {dataType : DataType} (old : Option (Sub dataType)) (plugin : Str × Sub dataType) :
    (updateMember dataType old plugin).key = plugin.1 := by
  cases dataType <;> rfl

theorem updateMember_text {dataType : DataType} (h : dataType ≠ .systemConfig) (old : Option (Sub dataType))
    (plugin : Str × Sub dataType) : (updateMember dataType old plugin).text = updateText dataType old plugin := by
  cases dataType with
  | list | state => rw [updateMember, nestedMember_text, updateText, pairs_eq]
  | config =>
    rw [updateMember, nestedMember_text, updateText, List.map_map]
    congr 2
    exact List.map_congr_left fun v _ => by rw [Function.comp_apply, nestedMember_text, pairs_eq]
  | status =>
    simp [lit_string, updateMember, updateText, Member.text]
  | systemConfig => exact absurd rfl h

theorem updateMember_valid {dataType : DataType} (h : dataType ≠ .systemConfig) {old : Option (Sub dataType)}
    {plugin : Str × Sub dataType} (hclean : CleanUpdate dataType old plugin) : (updateMember dataType old plugin).Valid := by
  cases dataType with
  | list | state =>
    exact nestedMember_valid hclean.1 (List.forall_mem_map.2 fun f hf =>
      pairMember_valid (hclean.2 f hf).1 (hclean.2 f hf).2)
  | config =>
    refine nestedMember_valid hclean.1 (List.forall_mem_map.2 fun v hv => ?_)
    obtain ⟨hname, hfields⟩ := hclean.2 v hv
    exact nestedMember_valid hname (List.forall_mem_map.2 fun f hf => pairMember_valid (hfields f hf).1 (hfields f hf).2)
  | status => exact ⟨.of_clean hclean.1, .before (by decide) (.str (.of_clean hclean.2))⟩
  | systemConfig => exact absurd rfl h

/-! ### Frames -/

def header (subtype : Str) (time : Nat) : List (Str × Str) :=
  [(CString.lit "type", CString.lit "Telemetry"), (CString.lit "subtype", subtype),
    (CString.lit "encoding", CString.lit "jsonstring"), (CString.lit "timestamp", Printf.decimal time),
    (CString.lit "flags", CString.lit "0")]

/-- What a frame stands for. -/
def message (subtype : Str) (time : Nat) (payload : Json) : Json :=
  .obj [(CString.lit "header", .obj ((header subtype time).map fun f => (f.1, .str f.2))), (CString.lit "payload", payload)]

theorem clean_decimal (n : Nat) : Clean (Printf.decimal n) := by
  have hall : ∀ n, 48 ≤ n → n ≤ 57 → Literal (UInt8.ofNat n) := by
    intro n hn hn'
    interval_cases n <;> decide
  intro c hc
  obtain ⟨hlow, hhigh⟩ := Printf.mem_decimal hc
  have := hall c.toNat hlow hhigh
  rwa [UInt8.ofNat_toNat] at this

theorem value_frame {subtype payload : Str} {time : Nat} {j : Json} (hsubtype : Clean subtype) (h : Value payload j) :
    Value (frame subtype time payload) (message subtype time j) := by
  have hclean : ∀ f ∈ header subtype time, Clean f.1 ∧ Clean f.2 := by
    simp only [header, List.forall_mem_cons]
    exact ⟨by decide, ⟨by decide, hsubtype⟩, by decide, ⟨by decide, clean_decimal time⟩,
      by decide, by simp⟩
  have hheader := value_members
    ((header subtype time).map fun f => ⟨f.1, f.1, 34 :: f.2 ++ [34], .str f.2⟩)
    (List.forall_mem_map.2 fun f hf => ⟨.of_clean (hclean f hf).1, .str (.of_clean (hclean f hf).2)⟩)
  have hlit : Clean (CString.lit "header") ∧ Clean (CString.lit "payload") := by decide
  have hframe := value_members
    ([⟨CString.lit "header", CString.lit "header", _, _⟩, ⟨CString.lit "payload", CString.lit "payload", _, j⟩])
    (List.forall_mem_cons.2 ⟨⟨.of_clean hlit.1, hheader⟩, List.forall_mem_singleton.2 ⟨.of_clean hlit.2, h⟩⟩)
  -- the literals of the frame are the names and values of the header
  have hbefore : CString.lit "\x7b\"header\":\x7b\"type\":\"Telemetry\",\"subtype\":\"" =
      123 :: 34 :: (CString.lit "header" ++ 34 :: 58 :: 123 :: 34 :: (CString.lit "type" ++ 34 :: 58 :: 34 ::
        (CString.lit "Telemetry" ++ 34 :: 44 :: 34 :: (CString.lit "subtype" ++ [34, 58, 34])))) := by decide
  have hmiddle : CString.lit "\",\"encoding\":\"jsonstring\",\"timestamp\":\"" =
      34 :: 44 :: 34 :: (CString.lit "encoding" ++ 34 :: 58 :: 34 :: (CString.lit "jsonstring" ++ 34 :: 44 :: 34 ::
        (CString.lit "timestamp" ++ [34, 58, 34]))) := by decide
  have hbehind : CString.lit "\",\"flags\":\"0\"\x7d,\"payload\":" =
      34 :: 44 :: 34 :: (CString.lit "flags" ++ 34 :: 58 :: 34 :: (CString.lit "0" ++ 34 :: 125 :: 44 :: 34 ::
        (CString.lit "payload" ++ [34, 58]))) := by decide
  rw [frame, hbefore, hmiddle, hbehind]
  simp only [List.map_cons, List.map_nil, header, Member.text, commas_cons_cons, commas_singleton, List.append_assoc,
    List.cons_append, List.nil_append] at hframe ⊢
  exact hframe

theorem message_leaf (subtype : Str) (time : Nat) (j : Json) :
    (message subtype time j).leaf [CString.lit "header", CString.lit "subtype"] = some subtype := by
  rw [message, leaf_obj (by simp only [List.map_cons, List.map_nil]; decide)]
  refine ⟨_, _, _, rfl, List.mem_cons_self, ?_⟩
  rw [leaf_obj (by simp only [header, List.map_cons, List.map_nil]; decide)]
  exact ⟨_, _, _, rfl, by simp [header], leaf_str.2 ⟨rfl, rfl⟩⟩

theorem message_payload (subtype : Str) (time : Nat) (j : Json) :
    (message subtype time j).get (CString.lit "payload") = some j := by
  rw [message, get_obj (by simp only [List.map_cons, List.map_nil]; decide)]
  simp

theorem name_injective {dataType dataType' : DataType} (h : dataType.name = dataType'.name) : dataType = dataType' := by
  revert h
  cases dataType <;> cases dataType' <;> decide

theorem clean_name (dataType : DataType) : Clean dataType.name := by
  cases dataType <;> decide

theorem receive_update (client : Client) (dataType : DataType) (time : Nat) (j : Json) (dataType' : DataType)
    (path : List Str) : client.receive (message dataType.name time j) dataType' path =
      if dataType' = dataType then (j.leaf path).or (client dataType' path) else client dataType' path := by
  have hremove : dataType.name ≠ CString.lit "Remove_List" := by cases dataType <;> decide
  simp only [Client.receive, message_leaf, message_payload, Option.bind_some]
  by_cases h : dataType' = dataType
  · rw [if_pos (by rw [h]), if_pos h]
  · rw [if_neg fun hname => h (name_injective (Option.some.inj hname)).symm, if_neg fun hlist =>
      hremove (Option.some.inj hlist.1), if_neg h]

theorem receive_remove (client : Client) (time : Nat) (j : Json) (dataType : DataType) (path : List Str) :
    client.receive (message (CString.lit "Remove_List") time j) dataType path =
      if dataType ≠ .systemConfig ∧ (path.head?.bind j.get).isSome then none else client dataType path := by
  have hremove : CString.lit "Remove_List" ≠ dataType.name := by cases dataType <;> decide
  simp only [Client.receive, message_leaf, message_payload, Option.bind_some]
  rw [if_neg fun hname => hremove (Option.some.inj hname)]
  by_cases h : dataType = .systemConfig
  · rw [if_neg fun hlist => hlist.2 h, if_neg fun hlist => hlist.1 h]
  · simp only [h, ne_eq, not_false_eq_true, and_self, true_and, if_true]

end V2xHub.CommandPlugin.Telemetry
