import V2xHub.MessageProfiler.Basic

/-!
# What the profiler counts

`Sound` says which messages and flushes the profiler gets through with its counts right: those whose message type is
known under itself or is found by the database, and the flushes that reach the database. Over such a run every count
is the number of the messages, and every flush reports it under the id of the message type (`profile_counts`).
-/

namespace V2xHub.MessageProfiler

/-! ### Keys -/

theorem collate_injective {s t : Str} (h : collate s = collate t) : s = t :=
  List.map_injective_iff.2 (fun _ _ => UInt8.toNat_inj.1) h

theorem append_separator_injective {a b x y : Str} (ha : 124 ∉ a) (hb : 124 ∉ b)
    (h : a ++ separator ++ x = b ++ separator ++ y) : a = b ∧ x = y := by
  induction a generalizing b with
  | nil =>
    cases b with
    | nil => exact ⟨rfl, List.append_cancel_left h⟩
    | cons c b =>
      have hhead : 124 = c := (List.cons.inj h).1
      exact absurd (hhead ▸ List.mem_cons_self ..) hb
  | cons c a ih =>
    cases b with
    | nil =>
      have hhead : c = 124 := (List.cons.inj h).1
      exact absurd (hhead ▸ List.mem_cons_self ..) ha
    | cons d b =>
      obtain ⟨hhead, htail⟩ := List.cons.inj h
      obtain ⟨hab, hxy⟩ := ih (fun hmem => ha (List.mem_cons_of_mem _ hmem))
        (fun hmem => hb (List.mem_cons_of_mem _ hmem)) htail
      exact ⟨by rw [hhead, hab], hxy⟩

theorem not_mem_decimal (n : Nat) : 124 ∉ Printf.decimal n := fun h => absurd (Printf.mem_decimal h).2 (by decide)

/-- The plugin id ends where the first separator is, so only message types can be taken for one another. -/
theorem text_injective {k k' : PluginIdMessageTypeKey} (h : k.text = k'.text) :
    k.pluginId = k'.pluginId ∧ k.messageType.text = k'.messageType.text := by
  have hsplit : ∀ k : PluginIdMessageTypeKey,
      k.text = Printf.decimal k.pluginId ++ separator ++ k.messageType.text := by
    intro k
    simp only [PluginIdMessageTypeKey.text, MessageTypeEntry.text, List.append_assoc]
  rw [hsplit, hsplit] at h
  obtain ⟨hid, htext⟩ := append_separator_injective (not_mem_decimal _) (not_mem_decimal _) h
  exact ⟨Printf.decimal_injective hid, htext⟩

/-! ### What is counted -/

/-- The plugin, the type and the subtype of a message that is profiled. -/
def Event.key : Event → Option (Nat × Str × Str)
  | .message msg _ _ =>
    match msg.type, msg.source with
    | some type, some source =>
      if source = [] ∨ msg.sourceId = 0 then none else some (msg.sourceId, type, msg.subtype.getD [])
    | _, _ => none
  | .flush _ _ _ => none

/-- The messages received of a plugin, type and subtype. -/
def received (es : List Event) (pluginId : Nat) (type subtype : Str) : Nat :=
  es.countP fun e => e.key = some (pluginId, type, subtype)

theorem received_concat (es : List Event) (e : Event) (pluginId : Nat) (type subtype : Str) :
    received (es ++ [e]) pluginId type subtype =
      received es pluginId type subtype + if e.key = some (pluginId, type, subtype) then 1 else 0 := by
  rw [received, List.countP_append, List.countP_singleton]
  simp only [decide_eq_true_eq, received]

/-- The profiler's count. -/
def State.count (s : State) (pluginId : Nat) (type subtype : Str) : Nat :=
  match s.mProfileData.entries.find? fun e =>
    e.2.1.pluginId = pluginId ∧ e.2.1.messageType.type = type ∧ e.2.1.messageType.subtype = subtype with
  | some e => e.2.2.messageCounts
  | none => 0

/-- A message type that is known is known under its own type and subtype, one that is not is found by the database;
the count does not reach its limit; a flush reaches the database. -/
def Sound (s : State) (e : Event) : Prop :=
  match e with
  | .message _ _ lookup =>
    ∀ pluginId type subtype, e.key = some (pluginId, type, subtype) →
      (match s.mMessageTypes.find? (collate (MessageTypeEntry.text ⟨0, type, subtype⟩)) with
        | some known => known.type = type ∧ known.subtype = subtype
        | none => lookup = .found) ∧
      s.count pluginId type subtype + 1 < uint32
  | .flush _ _ connects => connects = true

instance decidableKnown (type subtype : Str) (lookup : Lookup) : ∀ x : Option MessageTypeEntry, Decidable
    (match x with
      | some known => known.type = type ∧ known.subtype = subtype
      | none => lookup = .found)
  | some known => inferInstanceAs (Decidable (known.type = type ∧ known.subtype = subtype))
  | none => inferInstanceAs (Decidable (lookup = .found))

instance decidableSound (s : State) : ∀ e, Decidable (Sound s e)
  | .flush _ _ connects => inferInstanceAs (Decidable (connects = true))
  | .message msg rxTime lookup =>
    match hkey : (Event.message msg rxTime lookup).key with
    | none => isTrue fun _ _ _ h => nomatch hkey.symm.trans h
    | some (pluginId, type, subtype) =>
      decidable_of_iff
        ((match s.mMessageTypes.find? (collate (MessageTypeEntry.text ⟨0, type, subtype⟩)) with
          | some known => known.type = type ∧ known.subtype = subtype
          | none => lookup = .found) ∧ s.count pluginId type subtype + 1 < uint32)
        ⟨fun h _ _ _ hkey' => by cases hkey.symm.trans hkey'; exact h, fun h => h _ _ _ hkey⟩

variable {db : Database}

/-- The count of each plugin and message type, in the profile and in what a flush writes. -/
structure Profiles (db : Database) (es : List Event) (s : State) : Prop where
  running : s.aborted = false
  counts : ∀ pluginId type subtype, s.count pluginId type subtype = received es pluginId type subtype
  reported : ∀ currentTime purgeWindow pluginId type subtype, 0 < received es pluginId type subtype →
    ∃ a ∈ s.activityEntries currentTime purgeWindow,
      a.messageTypeId = db.id type subtype ∧ a.pluginId = pluginId ∧ a.count = received es pluginId type subtype
  nothing_else : ∀ currentTime purgeWindow, ∀ a ∈ s.activityEntries currentTime purgeWindow, ∃ type subtype,
    a.messageTypeId = db.id type subtype ∧ a.count = received es a.pluginId type subtype

structure Inv (db : Database) (es : List Event) (s : State) : Prop where
  running : s.aborted = false
  types : ∀ key e, s.mMessageTypes.find? key = some e → key = collate e.text ∧ e.id = db.id e.type e.subtype
  profiles : ∀ key k d, s.mProfileData.find? key = some (k, d) → key = collate k.text ∧
    s.mMessageTypes.find? (collate k.messageType.text) = some k.messageType ∧
    d.messageCounts = received es k.pluginId k.messageType.type k.messageType.subtype
  all : ∀ pluginId type subtype, 0 < received es pluginId type subtype → ∃ d,
    (collate (PluginIdMessageTypeKey.text ⟨pluginId, db.id type subtype, type, subtype⟩),
      (⟨pluginId, db.id type subtype, type, subtype⟩ : PluginIdMessageTypeKey), d) ∈ s.mProfileData.entries

variable {es : List Event} {s t : State} {rows : List (Str × Str)} {pluginId : Nat} {type subtype : Str}

/-! ### The message types -/

theorem types_insert {types : OrdMap (List Nat) MessageTypeEntry} {e : MessageTypeEntry}
    (htypes : ∀ key e, types.find? key = some e → key = collate e.text ∧ e.id = db.id e.type e.subtype)
    (he : e.id = db.id e.type e.subtype) (key : List Nat) (e' : MessageTypeEntry)
    (h : (types.insert (collate e.text) e).find? key = some e') :
    key = collate e'.text ∧ e'.id = db.id e'.type e'.subtype := by
  rw [OrdMap.find?_insert] at h
  split_ifs at h with hkey
  · obtain rfl := Option.some.inj h
    exact ⟨hkey, he⟩
  · exact htypes key e' h

theorem types_init (rows : List (Str × Str)) : ∀ key e, (getAllMessageTypes db rows).find? key = some e →
    key = collate e.text ∧ e.id = db.id e.type e.subtype := by
  induction rows using List.reverseRecOn with
  | nil => exact nofun
  | append_singleton rows row ih =>
    simp only [getAllMessageTypes, List.foldl_append, List.foldl_cons, List.foldl_nil] at ih ⊢
    rw [insertMessageType]
    split_ifs
    · exact types_insert ih rfl
    · exact ih

theorem inv_init : Inv db [] (State.init db rows) where
  running := rfl
  types := types_init rows
  profiles := nofun
  all _ _ _ h := absurd h (lt_irrefl 0)

/-- A sound message has its type with its id, and all known types stay. -/
theorem messageType_spec {lookup : Lookup} (hinv : Inv db es s)
    (hsound : match s.mMessageTypes.find? (collate (MessageTypeEntry.text ⟨0, type, subtype⟩)) with
      | some known => known.type = type ∧ known.subtype = subtype
      | none => lookup = .found) :
    ∃ types, messageType db s.mMessageTypes ⟨0, type, subtype⟩ lookup = (⟨db.id type subtype, type, subtype⟩, types) ∧
      (∀ key e, types.find? key = some e → key = collate e.text ∧ e.id = db.id e.type e.subtype) ∧
      (∀ key e, s.mMessageTypes.find? key = some e → types.find? key = some e) ∧
      types.find? (collate (MessageTypeEntry.text ⟨0, type, subtype⟩)) = some ⟨db.id type subtype, type, subtype⟩ := by
  cases hknown : s.mMessageTypes.find? (collate (MessageTypeEntry.text ⟨0, type, subtype⟩)) with
  | some known =>
    rw [hknown] at hsound
    obtain ⟨id, type', subtype'⟩ := known
    obtain ⟨rfl, rfl⟩ : type' = type ∧ subtype' = subtype := hsound
    obtain rfl : id = db.id type' subtype' := (hinv.types _ _ hknown).2
    exact ⟨_, by simp only [messageType, hknown], hinv.types, fun _ _ h => h, hknown⟩
  | none =>
    rw [hknown] at hsound
    obtain rfl : lookup = .found := hsound
    refine ⟨s.mMessageTypes.insert (collate (MessageTypeEntry.text ⟨0, type, subtype⟩))
      ⟨db.id type subtype, type, subtype⟩, by simp only [messageType, hknown]; rfl,
      types_insert (e := ⟨db.id type subtype, type, subtype⟩) hinv.types rfl, fun key e he => ?_,
      OrdMap.find?_insert_self⟩
    rw [OrdMap.find?_insert_ne (fun heq => by rw [heq, hknown] at he; exact nomatch he)]
    exact he

/-! ### The profile -/

namespace Inv

theorem count_eq (hinv : Inv db es s) (pluginId : Nat) (type subtype : Str) :
    s.count pluginId type subtype = received es pluginId type subtype := by
  rw [State.count]
  cases hfind : s.mProfileData.entries.find? fun e =>
      e.2.1.pluginId = pluginId ∧ e.2.1.messageType.type = type ∧ e.2.1.messageType.subtype = subtype with
  | some e =>
    have hkey := List.find?_some hfind
    simp only [Bool.decide_and, Bool.and_eq_true, decide_eq_true_eq] at hkey
    obtain ⟨rfl, rfl, rfl⟩ := hkey
    exact (hinv.profiles _ _ _ (OrdMap.mem_entries.1 (List.mem_of_find?_eq_some hfind))).2.2
  | none =>
    refine (Nat.eq_zero_of_not_pos fun hpos => ?_).symm
    obtain ⟨d, hd⟩ := hinv.all _ _ _ hpos
    exact absurd (List.find?_eq_none.1 hfind _ hd) (by simp)

theorem profiles_ok (hinv : Inv db es s) : Profiles db es s where
  running := hinv.running
  counts := hinv.count_eq
  reported currentTime purgeWindow pluginId type subtype hpos := by
    obtain ⟨d, hd⟩ := hinv.all _ _ _ hpos
    exact ⟨_, List.mem_map_of_mem hd, rfl, rfl, (hinv.profiles _ _ _ (OrdMap.mem_entries.1 hd)).2.2⟩
  nothing_else currentTime purgeWindow a ha := by
    obtain ⟨⟨key, k, d⟩, hmem, rfl⟩ := List.mem_map.1 ha
    obtain ⟨-, htype, hcount⟩ := hinv.profiles key k d (OrdMap.mem_entries.1 hmem)
    exact ⟨k.messageType.type, k.messageType.subtype, (hinv.types _ _ htype).2, hcount⟩

/-- Nothing is counted, and the entries stay but for the times that are averaged. -/
theorem flush (hinv : Inv db es s) {e : Event} (hkey : e.key = none) (currentTime purgeWindow : Nat) :
    Inv db (es ++ [e]) (s.flush currentTime purgeWindow true) := by
  have hreceived : ∀ pluginId type subtype,
      received (es ++ [e]) pluginId type subtype = received es pluginId type subtype := by
    intro pluginId type subtype
    rw [received_concat, hkey]
    rfl
  refine ⟨rfl, hinv.types, fun key k d h => ?_, fun pluginId type subtype hpos => ?_⟩
  · simp only [State.flush, OrdMap.find?_map, Option.map_eq_some_iff] at h
    obtain ⟨⟨k', d'⟩, hfind, heq⟩ := h
    obtain ⟨rfl, rfl⟩ := Prod.mk.inj heq
    rw [hreceived]
    exact hinv.profiles key _ d' hfind
  · rw [hreceived] at hpos
    obtain ⟨d, hd⟩ := hinv.all pluginId type subtype hpos
    exact ⟨_, List.mem_map_of_mem (f := fun e : List Nat × PluginIdMessageTypeKey × ProfileData =>
      (e.1, e.2.1, State.purge currentTime purgeWindow e.2.2)) hd⟩

/-- A message that is not profiled. -/
theorem ignored (hinv : Inv db es s) {e : Event} (hkey : e.key = none) : Inv db (es ++ [e]) s := by
  have hreceived : ∀ pluginId type subtype,
      received (es ++ [e]) pluginId type subtype = received es pluginId type subtype := by
    intro pluginId type subtype
    rw [received_concat, hkey]
    rfl
  exact ⟨hinv.running, hinv.types, fun key k d h => hreceived _ _ _ ▸ hinv.profiles key k d h,
    fun pluginId type subtype hpos => hinv.all _ _ _ (hreceived _ _ _ ▸ hpos)⟩

/-- A key with the text of this one is this one, as their message types are known under one text. -/
theorem eq_of_text (hinv : Inv db es s) {types : OrdMap (List Nat) MessageTypeEntry}
    (hstay : ∀ key e, s.mMessageTypes.find? key = some e → types.find? key = some e)
    (hfound : types.find? (collate (MessageTypeEntry.text ⟨0, type, subtype⟩)) = some ⟨db.id type subtype, type, subtype⟩)
    {k : PluginIdMessageTypeKey} {d : ProfileData} (hfind : s.mProfileData.find? (collate k.text) = some (k, d))
    (htext : k.text = PluginIdMessageTypeKey.text ⟨pluginId, db.id type subtype, type, subtype⟩) :
    k = ⟨pluginId, db.id type subtype, type, subtype⟩ := by
  obtain ⟨hid, hmt⟩ := text_injective htext
  have hknown := hstay _ _ (hinv.profiles _ _ _ hfind).2.1
  rw [hmt] at hknown
  obtain ⟨k1, k2⟩ := k
  obtain rfl : k1 = pluginId := hid
  obtain rfl : k2 = ⟨db.id type subtype, type, subtype⟩ := Option.some.inj (hknown.symm.trans hfound)
  rfl

/-- The entry counts one more than what was received. -/
theorem record_eq (hinv : Inv db es s) {rxTime : Nat}
    (hsame : ∀ k d, s.mProfileData.find? (collate k.text) = some (k, d) →
      k.text = PluginIdMessageTypeKey.text ⟨pluginId, db.id type subtype, type, subtype⟩ →
        k = ⟨pluginId, db.id type subtype, type, subtype⟩)
    (hlimit : received es pluginId type subtype + 1 < uint32) :
    ∃ d, record s.mProfileData ⟨pluginId, db.id type subtype, type, subtype⟩ rxTime =
      s.mProfileData.insert (collate (PluginIdMessageTypeKey.text ⟨pluginId, db.id type subtype, type, subtype⟩))
        (⟨pluginId, db.id type subtype, type, subtype⟩, d) ∧
      d.messageCounts = received es pluginId type subtype + 1 := by
  cases hfind : s.mProfileData.find?
      (collate (PluginIdMessageTypeKey.text ⟨pluginId, db.id type subtype, type, subtype⟩)) with
  | some x =>
    obtain ⟨k, d⟩ := x
    obtain ⟨htext, -, hcount⟩ := hinv.profiles _ _ _ hfind
    have htext := collate_injective htext
    obtain rfl := hsame k d (htext ▸ hfind) htext.symm
    refine ⟨⟨(d.messageCounts + 1) % uint32, rxTime, d.receiveTimeForAveraging ++ [rxTime]⟩,
      by simp only [record, hfind], ?_⟩
    dsimp only at hcount ⊢
    rw [hcount, Nat.mod_eq_of_lt hlimit]
  | none =>
    refine ⟨⟨1, rxTime, [rxTime]⟩, by simp only [record, hfind], ?_⟩
    refine (Nat.succ_inj.2 (Nat.eq_zero_of_not_pos fun hpos => ?_)).symm
    obtain ⟨d, hd⟩ := hinv.all _ _ _ hpos
    exact nomatch (OrdMap.mem_entries.1 hd).symm.trans hfind

/-- One more message of a key: its entry is the one that the text of the key finds. -/
theorem recorded (hinv : Inv db es s) {e : Event} {types : OrdMap (List Nat) MessageTypeEntry} {rxTime : Nat}
    (hkey : e.key = some (pluginId, type, subtype))
    (htypes : ∀ key e, types.find? key = some e → key = collate e.text ∧ e.id = db.id e.type e.subtype)
    (hstay : ∀ key e, s.mMessageTypes.find? key = some e → types.find? key = some e)
    (hfound : types.find? (collate (MessageTypeEntry.text ⟨0, type, subtype⟩)) =
      some ⟨db.id type subtype, type, subtype⟩)
    (hlimit : s.count pluginId type subtype + 1 < uint32) :
    Inv db (es ++ [e]) { s with
      mMessageTypes := types
      mProfileData := record s.mProfileData ⟨pluginId, db.id type subtype, type, subtype⟩ rxTime } := by
  rw [hinv.count_eq] at hlimit
  obtain ⟨d, hentry, hcount⟩ := hinv.record_eq (fun k d => hinv.eq_of_text hstay hfound) hlimit
  rw [hentry]
  refine ⟨hinv.running, htypes, fun key k' d' h => ?_, fun pluginId' type' subtype' hpos => ?_⟩
  · rw [OrdMap.find?_insert] at h
    rw [received_concat, hkey]
    split_ifs at h with hnew
    · obtain ⟨rfl, rfl⟩ := Prod.mk.inj (Option.some.inj h)
      refine ⟨hnew, hfound, ?_⟩
      rw [if_pos rfl, hcount]
    · obtain ⟨htext, htype, hcount'⟩ := hinv.profiles key k' d' h
      refine ⟨htext, hstay _ _ htype, ?_⟩
      rw [if_neg, hcount', Nat.add_zero]
      rintro heq
      obtain ⟨hp, hts⟩ := Prod.mk.inj (Option.some.inj heq)
      obtain ⟨ht, hs⟩ := Prod.mk.inj hts
      refine hnew (htext.trans ?_)
      simp only [PluginIdMessageTypeKey.text, ← hp, ← ht, ← hs]
  · by_cases hnew : (pluginId, type, subtype) = (pluginId', type', subtype')
    · obtain ⟨rfl, hts⟩ := Prod.mk.inj hnew
      obtain ⟨rfl, rfl⟩ := Prod.mk.inj hts
      exact ⟨d, OrdMap.mem_entries.2 OrdMap.find?_insert_self⟩
    · rw [received_concat, hkey, if_neg (fun heq => hnew (Option.some.inj heq)), Nat.add_zero] at hpos
      obtain ⟨d', hd'⟩ := hinv.all _ _ _ hpos
      refine ⟨d', OrdMap.mem_entries.2 ?_⟩
      rw [OrdMap.find?_insert_ne]
      · exact OrdMap.mem_entries.1 hd'
      · intro htext
        have hfind := OrdMap.mem_entries.1 hd'
        have heq := hinv.eq_of_text hstay hfound hfind (collate_injective htext)
        injection heq with hp hmt
        injection hmt with _ ht hs
        exact hnew (by rw [hp, ht, hs])

theorem message (hinv : Inv db es s) {msg : IvpMessage} {rxTime : Nat} {lookup : Lookup}
    (hsound : Sound s (.message msg rxTime lookup)) :
    Inv db (es ++ [.message msg rxTime lookup]) (s.onMessageReceived db msg rxTime lookup) := by
  cases htype : msg.type with
  | none => simpa only [State.onMessageReceived, htype] using hinv.ignored (by simp only [Event.key, htype])
  | some type =>
    cases hsource : msg.source with
    | none =>
      simpa only [State.onMessageReceived, htype, hsource] using hinv.ignored (by simp only [Event.key, htype, hsource])
    | some source =>
      by_cases hdropped : source = [] ∨ msg.sourceId = 0
      · simpa only [State.onMessageReceived, htype, hsource, if_pos hdropped] using
          hinv.ignored (by simp only [Event.key, htype, hsource, if_pos hdropped])
      · have hkey : (Event.message msg rxTime lookup).key = some (msg.sourceId, type, msg.subtype.getD []) := by
          simp only [Event.key, htype, hsource, if_neg hdropped]
        obtain ⟨hknown, hlimit⟩ := hsound _ _ _ hkey
        obtain ⟨types, hmessageType, htypes, hstay, hfound⟩ := messageType_spec hinv hknown
        simp only [State.onMessageReceived, htype, hsource, if_neg hdropped, hmessageType, if_neg (db.id_ne_zero _ _)]
        exact hinv.recorded hkey htypes hstay hfound hlimit

theorem step {e : Event} (hinv : Inv db es s) (hsound : Sound s e) (hstep : s.step db e = some t) :
    Inv db (es ++ [e]) t := by
  unfold State.step at hstep
  rw [if_neg (by rw [hinv.running]; exact Bool.false_ne_true)] at hstep
  cases e with
  | message msg rxTime lookup =>
    obtain rfl := Option.some.inj hstep
    exact hinv.message hsound
  | flush currentTime purgeWindow connects =>
    obtain rfl := Option.some.inj hstep
    obtain rfl : connects = true := hsound
    exact hinv.flush rfl currentTime purgeWindow

end Inv

theorem inv_run (hsound : (profiler db rows).Meets Sound (State.init db rows) es)
    (h : (profiler db rows).exec (State.init db rows) es = some s) : Inv db es s := by
  induction es using List.reverseRecOn generalizing s with
  | nil =>
    obtain rfl := Option.some.inj h
    exact inv_init
  | append_singleton es e ih =>
    obtain ⟨t, ht, hstep⟩ := Machine.exec_concat.1 h
    exact (ih hsound.prefix ht).step (hsound.append ht).1 hstep

theorem profile_counts (db : Database) (rows : List (Str × Str)) (es : List Event) (s : State)
    (hsound : (profiler db rows).Meets Sound (State.init db rows) es)
    (h : (profiler db rows).exec (State.init db rows) es = some s) : Profiles db es s :=
  (inv_run hsound h).profiles_ok

/-- A message of the plugin 3. -/
def message (type subtype : Str) : Event :=
  .message ⟨some type, some subtype, some (CString.lit "Example"), 3, none, 0, 0, none, none⟩ 1000 .found

/-- A table with two rows after the fifteen that it starts with. -/
def database : Database := ⟨fun type _ => if type = CString.lit "J2735" then 16 else 17, fun type subtype => by split <;> decide⟩

/-- Two message types, of which one comes again, before and behind a flush. -/
def traffic : List Event :=
  [message (CString.lit "J2735") (CString.lit "BSM"), message (CString.lit "Application") (CString.lit "BSM"),
    message (CString.lit "J2735") (CString.lit "BSM"), .flush 1500 1000 true,
    message (CString.lit "J2735") (CString.lit "BSM"), .flush 3000 1000 true]

theorem profile_counts_message : ∃ s, (profiler database []).exec (State.init database []) traffic = some s ∧
    Profiles database traffic s ∧ (s.activityEntries 3000 1000).map (fun a => (a.messageTypeId, a.pluginId, a.count)) =
      [(17, 3, 1), (16, 3, 3)] := by
  refine ⟨_, rfl, profile_counts database [] traffic _ ?_ rfl, ?_⟩ <;> decide +kernel

/-- Two message types with one text: the second is counted as the first. -/
theorem profile_counts_merged :
    received [message (CString.lit "a||b") (CString.lit "c"), message (CString.lit "a") (CString.lit "b||c")] 3
        (CString.lit "a") (CString.lit "b||c") = 1 ∧
      ((profiler database []).exec (State.init database [])
        [message (CString.lit "a||b") (CString.lit "c"), message (CString.lit "a") (CString.lit "b||c")]).map
          (fun s => (s.count 3 (CString.lit "a") (CString.lit "b||c"), s.count 3 (CString.lit "a||b") (CString.lit "c"))) =
        some (0, 2) := by
  decide

end V2xHub.MessageProfiler
