import V2xHub.CARMAStreetsPlugin.Consumers
import Mathlib.Data.List.ReduceOption

/-!
# Bad payloads

What a payload should add to a loop (`expected`): the messages it can be converted to, or one skipped message. The loops do
that, and go on, exactly for the payloads that are `Readable` (`consumers_survive`).
-/

namespace V2xHub.CARMAStreetsPlugin
open JsonCpp JsonCpp.Value

section
variable {β : Type} (env : Environment β)

/-- The encoded messages of a payload, if it can be converted. A schedule has at least one message. -/
def converted : Topic → Value → Option (List β)
  | .schedule, v =>
    match scheduleMessages env v with
    | .ok (m :: ms) => (m :: ms).mapM env.encodeTsm3
    | _ => none
  | .spat, v =>
    match convertJson2Spat env.valueToString v with
    | .ok spat => (env.encodeSpat spat).map fun b => [b]
    | .error _ => none
  | .ssm, v => if (toJ2735SSM v).2 then (env.encodeSSM (toJ2735SSM v).1).map fun b => [b] else none
  | .sdsm, v =>
    match convertJsonToSDSM env.valueToString env.uninitialized v with
    | .ok sdsm => (env.encodeSDSM sdsm).map fun b => [b]
    | .error _ => none

/-- All of the messages, or one that is skipped. -/
def Reaction.ofConverted : Option (List β) → Reaction β
  | some messages => ⟨0, messages⟩
  | none => skip

def expected (topic : Topic) (payload : Option Value) : Reaction β :=
  .ofConverted (payload.bind (converted env topic))

/-! ### What can be read -/

/-- An entry of a schedule, under the metadata of the payload. -/
def EntryReadable (valueToString : Double → Str) (metadata entry : Value) : Prop :=
  entry.Reads (asString valueToString) ["v_id"] ∧ entry.Reads asUInt64 ["st", "et", "dt", "dp", "access"] ∧
    metadata.Reads (asString valueToString) ["intersection_type"] ∧ metadata.Reads asUInt64 ["timestamp"] ∧
    ∀ n, (metadata.get "timestamp").asUInt64 = .ok n → (Printf.decimal n).length ≤ 19

/-- There is an entry; every entry can be read; and if there are several, every one can be encoded. -/
def ScheduleReadable (v : Value) : Prop :=
  v.Indexable ∧ ∃ entries, entries ≠ [] ∧ scheduleEntries (v.get "payload") = .ok entries ∧
    (∀ entry ∈ entries, EntryReadable env.valueToString (v.get "metadata") entry) ∧
      (entries.length = 1 ∨ ∀ entry ∈ entries, ∀ m,
        tsm3Message env.valueToString env.intersectionId (v.get "metadata") entry = .ok m → (env.encodeTsm3 m).isSome)

/-- A signal status message is read whatever it is. -/
def Readable : Topic → Value → Prop
  | .schedule, v => ScheduleReadable env v
  | .spat, v => SpatReadable env.valueToString v
  | .ssm, _ => True
  | .sdsm, v => SdsmReadable env.valueToString v

end

section
variable {β : Type} {env : Environment β} {valueToString : Double → Str} {metadata entry v : Value} {key : String}

theorem succeeds_textAt : Succeeds (textAt valueToString key v) ↔ v.Reads (asString valueToString) [key] := by
  unfold Reads
  rw [List.forall_mem_singleton]
  refine succeeds_isMember_bind.trans (and_congr_right fun hv => ?_)
  cases h : v.contains key with
  | true => exact succeeds_readAt.trans (and_iff_right hv)
  | false =>
    rw [get_of_not_contains h]
    exact iff_of_true succeeds_pure ⟨[], rfl⟩

theorem succeeds_paramAt {sep : Str} :
    Succeeds (paramAt key sep v) ↔ v.Indexable ∧ Succeeds (v.get key).asUInt64 := by
  refine succeeds_isMember_bind.trans (and_congr_right fun hv => ?_)
  cases h : v.contains key with
  | true =>
    refine (succeeds_bind_iff (Q := True) succeeds_readAt fun _ => iff_true_intro succeeds_pure).trans ?_
    rw [and_true, and_iff_right hv]
  | false =>
    rw [get_of_not_contains h]
    exact iff_of_true succeeds_pure ⟨0, rfl⟩

theorem get_of_isEmpty (h : isEmpty v) (key : String) : v.get key = null := by
  cases v with
  | object members =>
    obtain rfl := List.isEmpty_iff.1 h
    rfl
  | _ => rfl

theorem succeeds_strategyParams (hv : v.Indexable) :
    Succeeds (strategyParams v) ↔ v.Reads asUInt64 ["st", "et", "dt", "dp", "access"] := by
  unfold strategyParams
  split
  · rename_i hempty
    refine iff_of_true succeeds_pure ⟨hv, fun key _ => ?_⟩
    rw [get_of_isEmpty hempty]
    exact ⟨0, rfl⟩
  · have h : Succeeds (do
        let st ← paramAt "st" (CString.lit ",") v
        let et ← paramAt "et" (CString.lit ",") v
        let dt ← paramAt "dt" (CString.lit ",") v
        let dp ← paramAt "dp" (CString.lit ",") v
        let access ← paramAt "access" [] v
        return st ++ et ++ dt ++ dp ++ access) ↔ Succeeds (paramAt "st" (CString.lit ",") v) ∧
        Succeeds (paramAt "et" (CString.lit ",") v) ∧ Succeeds (paramAt "dt" (CString.lit ",") v) ∧
        Succeeds (paramAt "dp" (CString.lit ",") v) ∧ Succeeds (paramAt "access" [] v) ∧ True := by
      iterate 5 refine succeeds_bind_iff Iff.rfl fun _ => ?_
      exact iff_true_intro succeeds_pure
    rw [h]
    simp only [succeeds_paramAt, hv, true_and, Reads, List.forall_mem_cons, List.not_mem_nil, false_imp_iff, implies_true,
      and_true]

theorem succeeds_padTimestamp {text : Str} : Succeeds (padTimestamp text) ↔ text.length ≤ 19 := by
  unfold padTimestamp
  split
  · rename_i h
    exact iff_of_true succeeds_ok h
  · rename_i h
    exact iff_of_false not_succeeds_error h

theorem succeeds_timestamp : Succeeds (timestampText metadata >>= padTimestamp) ↔ metadata.Reads asUInt64 ["timestamp"] ∧
    ∀ n, (metadata.get "timestamp").asUInt64 = .ok n → (Printf.decimal n).length ≤ 19 := by
  unfold Reads timestampText
  rw [List.forall_mem_singleton, and_assoc]
  by_cases hmetadata : metadata.Indexable
  swap
  · refine iff_of_false (fun h => hmetadata ?_) fun h => hmetadata h.1
    obtain ⟨_, htext, -⟩ := succeeds_bind.1 h
    exact (succeeds_isMember_bind.1 ⟨_, htext⟩).1
  rw [and_iff_right hmetadata, isMember_eq hmetadata]
  cases h : metadata.contains "timestamp" with
  | true =>
    simp only [ok_bind, if_true, readAt, member_eq hmetadata]
    cases hn : (metadata.get "timestamp").asUInt64 with
    | ok n =>
      rw [ok_bind, pure_eq_ok, ok_bind, succeeds_padTimestamp]
      simp
    | error e => exact iff_of_false not_succeeds_error fun h => not_succeeds_error h.1
  | false =>
    rw [get_of_not_contains h]
    refine iff_of_true ⟨_, rfl⟩ ⟨⟨0, rfl⟩, fun n hn => ?_⟩
    obtain rfl : 0 = n := Except.ok.inj hn
    decide

theorem succeeds_tsm3Message {intersectionId : Str} :
    Succeeds (tsm3Message valueToString intersectionId metadata entry) ↔ EntryReadable valueToString metadata entry := by
  have h : Succeeds (tsm3Message valueToString intersectionId metadata entry) ↔
      Succeeds (textAt valueToString "v_id" entry) ∧ Succeeds (textAt valueToString "intersection_type" metadata) ∧
      Succeeds (strategyParams entry) ∧ Succeeds (timestampText metadata >>= padTimestamp) ∧ True := by
    iterate 4 refine succeeds_bind_iff Iff.rfl fun _ => ?_
    exact iff_true_intro succeeds_pure
  rw [h, succeeds_textAt, succeeds_textAt, succeeds_timestamp, EntryReadable]
  constructor
  · rintro ⟨hid, htype, hparams, htime, -⟩
    exact ⟨hid, (succeeds_strategyParams hid.1).1 hparams, htype, htime⟩
  · rintro ⟨hid, hparams, htype, htime⟩
    exact ⟨hid, htype, (succeeds_strategyParams hid.1).2 hparams, htime, trivial⟩

theorem succeeds_scheduleMessages : Succeeds (scheduleMessages env v) ↔ v.Indexable ∧ ∃ entries,
    scheduleEntries (v.get "payload") = .ok entries ∧
      ∀ entry ∈ entries, EntryReadable env.valueToString (v.get "metadata") entry := by
  refine succeeds_member_bind.trans (and_congr_right fun hv => ?_)
  rw [succeeds_bind, readAt, member_eq hv, ok_bind]
  simp only [succeeds_mapM_iff, succeeds_tsm3Message]

theorem encodes_iff {entries : List Value} {f : Value → Except Exception TestMessage03} {ms : List TestMessage03}
    (h : entries.mapM f = .ok ms) : (∀ entry ∈ entries, ∀ m, f entry = .ok m → (env.encodeTsm3 m).isSome) ↔
      ∀ m ∈ ms, (env.encodeTsm3 m).isSome := by
  induction entries generalizing ms with
  | nil =>
    cases h
    simp
  | cons entry entries ih =>
    rw [List.mapM_cons] at h
    obtain ⟨m, hm, h⟩ := bind_eq_ok.1 h
    obtain ⟨ms, hms, h⟩ := bind_eq_ok.1 h
    obtain rfl := Except.ok.inj h
    rw [List.forall_mem_cons, List.forall_mem_cons, ih hms, hm]
    simp

theorem length_of_mapM {entries : List Value} {f : Value → Except Exception TestMessage03} {ms : List TestMessage03}
    (h : entries.mapM f = .ok ms) : ms.length = entries.length := by
  induction entries generalizing ms with
  | nil =>
    cases h
    rfl
  | cons entry entries ih =>
    rw [List.mapM_cons] at h
    obtain ⟨m, -, h⟩ := bind_eq_ok.1 h
    obtain ⟨ms, hms, h⟩ := bind_eq_ok.1 h
    obtain rfl := Except.ok.inj h
    rw [List.length_cons, List.length_cons, ih hms]

section
variable {encode : TestMessage03 → Option β} {ms : List TestMessage03}

theorem mapM_of_all (h : ∀ m ∈ ms, (encode m).isSome) : ms.mapM encode = some (ms.map encode).reduceOption := by
  induction ms with
  | nil => rfl
  | cons m ms ih =>
    obtain ⟨hm, hms⟩ := List.forall_mem_cons.1 h
    obtain ⟨b, hb⟩ := Option.isSome_iff_exists.1 hm
    rw [List.mapM_cons, ih hms, List.map_cons, hb]
    rfl

theorem mapM_of_not_all (h : ¬ ∀ m ∈ ms, (encode m).isSome) : ms.mapM encode = none := by
  induction ms with
  | nil => exact absurd (fun m hm => absurd hm List.not_mem_nil) h
  | cons m ms ih =>
    rw [List.mapM_cons]
    cases hm : encode m with
    | none => rfl
    | some b =>
      rw [ih fun hms => h (List.forall_mem_cons.2 ⟨by rw [hm]; rfl, hms⟩)]
      rfl

theorem countP_add_length (l : List (Option β)) : l.countP Option.isNone + l.reduceOption.length = l.length := by
  induction l with
  | nil => rfl
  | cons o l ih =>
    cases o with
    | none =>
      rw [List.countP_cons_of_pos rfl, List.reduceOption_cons_of_none, List.length_cons]
      omega
    | some b =>
      rw [List.countP_cons_of_neg Bool.false_ne_true, List.reduceOption_cons_of_some, List.length_cons, List.length_cons]
      omega

theorem countP_of_all (h : ∀ m ∈ ms, (encode m).isSome) : (ms.map encode).countP Option.isNone = 0 := by
  refine List.countP_eq_zero.2 fun o ho => ?_
  obtain ⟨m, hm, rfl⟩ := List.mem_map.1 ho
  obtain ⟨b, hb⟩ := Option.isSome_iff_exists.1 (h m hm)
  rw [hb]
  exact Bool.false_ne_true

/-- One message that cannot be encoded is the one skipped message of its payload. -/
theorem ofEncoded_eq_iff : Reaction.ofEncoded (ms.map encode) = .ofConverted (ms.mapM encode) ↔
    ms.length = 1 ∨ ∀ m ∈ ms, (encode m).isSome := by
  by_cases hall : ∀ m ∈ ms, (encode m).isSome
  · refine iff_of_true ?_ (.inr hall)
    rw [mapM_of_all hall, Reaction.ofEncoded, countP_of_all hall]
    rfl
  · rw [mapM_of_not_all hall, or_iff_left hall]
    have hlength := countP_add_length (ms.map encode)
    rw [List.length_map] at hlength
    constructor
    · intro h
      have hcount : (ms.map encode).countP Option.isNone = 1 := congrArg Reaction.skipped h
      have hnil : (ms.map encode).reduceOption = [] := congrArg Reaction.broadcasts h
      rw [hcount, hnil] at hlength
      exact hlength.symm
    · intro h
      obtain ⟨m, rfl⟩ := List.length_eq_one_iff.1 h
      cases hm : encode m with
      | none =>
        rw [List.map_singleton, hm]
        rfl
      | some b =>
        refine absurd (fun m' hm' => ?_) hall
        rw [List.mem_singleton.1 hm', hm]
        rfl

end

theorem handle_schedule_iff :
    handle env .schedule v = .ok (.ofConverted (converted env .schedule v)) ↔ ScheduleReadable env v := by
  rw [handle, converted]
  cases h : scheduleMessages env v with
  | error e =>
    refine iff_of_false (fun h => by cases h) ?_
    rintro ⟨hv, entries, -, hentries, hreadable, -⟩
    have hsucceeds : Succeeds (scheduleMessages env v) := succeeds_scheduleMessages.2 ⟨hv, entries, hentries, hreadable⟩
    rw [h] at hsucceeds
    exact not_succeeds_error hsucceeds
  | ok ms =>
    obtain ⟨hv, entries, hentries, hreadable⟩ := succeeds_scheduleMessages.1 ⟨ms, h⟩
    have hms : entries.mapM (tsm3Message env.valueToString env.intersectionId (v.get "metadata")) = .ok ms := by
      rw [scheduleMessages, member_eq hv, ok_bind, readAt, member_eq hv, ok_bind, hentries, ok_bind] at h
      exact h
    have hlength := length_of_mapM hms
    have hiff : ScheduleReadable env v ↔ ms ≠ [] ∧ (ms.length = 1 ∨ ∀ m ∈ ms, (env.encodeTsm3 m).isSome) := by
      rw [← encodes_iff hms, hlength, ← List.length_pos_iff, hlength, List.length_pos_iff]
      constructor
      · rintro ⟨-, entries', hne, hentries', -, hencodes⟩
        obtain rfl := Except.ok.inj (hentries.symm.trans hentries')
        exact ⟨hne, hencodes⟩
      · rintro ⟨hne, hencodes⟩
        exact ⟨hv, entries, hne, hentries, hreadable, hencodes⟩
    rw [hiff, ok_bind, pure_eq_ok, Except.ok.injEq]
    cases ms with
    | nil =>
      refine iff_of_false (fun h => ?_) fun h => h.1 rfl
      have hskipped : 0 = 1 := congrArg Reaction.skipped h
      cases hskipped
    | cons m ms =>
      rw [and_iff_right (List.cons_ne_nil m ms)]
      exact ofEncoded_eq_iff

theorem status_of_not_read (h : (toJ2735SSM v).2 = false) : (toJ2735SSM v).1.status = [] := by
  unfold toJ2735SSM at h ⊢
  split
  · split
    · split
      · split
        · simp_all
        · rfl
      · rfl
    · rfl
  · rfl

theorem handle_iff (topic : Topic) :
    handle env topic v = .ok (.ofConverted (converted env topic v)) ↔ Readable env topic v := by
  cases topic with
  | schedule => exact handle_schedule_iff
  | spat =>
    refine Iff.trans ?_ succeeds_convertJson2Spat
    rw [handle, converted]
    cases h : convertJson2Spat env.valueToString v with
    | ok spat =>
      refine iff_of_true ?_ ⟨_, rfl⟩
      cases h : env.encodeSpat spat with
      | none => simp [h, Reaction.ofEncoded, Reaction.ofConverted, Reaction.skip]
      | some b => simp [h, Reaction.ofEncoded, Reaction.ofConverted]
    | error e => exact iff_of_false (fun h => by cases h) not_succeeds_error
  | ssm =>
    refine iff_of_true ?_ trivial
    rw [handle, converted]
    cases hread : (toJ2735SSM v).2 with
    | false =>
      rw [env.encodeSSM_nil _ (status_of_not_read hread)]
      rfl
    | true =>
      cases h : env.encodeSSM (toJ2735SSM v).1 with
      | none => simp [Reaction.ofEncoded, Reaction.ofConverted, Reaction.skip]
      | some b => simp [Reaction.ofEncoded, Reaction.ofConverted]
  | sdsm =>
    refine Iff.trans ?_ (succeeds_convertJsonToSDSM env.uninitialized)
    rw [handle, converted]
    cases h : convertJsonToSDSM env.valueToString env.uninitialized v with
    | ok sdsm =>
      refine iff_of_true ?_ ⟨_, rfl⟩
      cases h : env.encodeSDSM sdsm with
      | none => simp [h, Reaction.ofEncoded, Reaction.ofConverted, Reaction.skip]
      | some b => simp [h, Reaction.ofEncoded, Reaction.ofConverted]
    | error e => exact iff_of_false (fun h => by cases h) not_succeeds_error

theorem consume_iff {topic : Topic} {payload : Option Value} : consume env topic payload = .ok (expected env topic payload) ↔
    ∀ v, payload = some v → Readable env topic v := by
  cases payload with
  | none => exact iff_of_true rfl fun v hv => by cases hv
  | some v =>
    refine handle_iff topic |>.trans ?_
    simp

/-- A loop survives a sequence of payloads, and treats each as it should be, exactly if every payload is readable. -/
theorem consumers_survive (env : Environment β) (topic : Topic) (payloads : List (Option Value)) :
    loop env topic payloads = .ok (payloads.map (expected env topic)) ↔ ∀ v, some v ∈ payloads → Readable env topic v := by
  unfold loop
  induction payloads with
  | nil => exact iff_of_true rfl fun v hv => absurd hv List.not_mem_nil
  | cons payload payloads ih =>
    rw [List.mapM_cons, List.map_cons]
    constructor
    · intro h v hv
      obtain ⟨r, hr, h⟩ := bind_eq_ok.1 h
      obtain ⟨rs, hrs, h⟩ := bind_eq_ok.1 h
      obtain ⟨rfl, rfl⟩ := List.cons.inj (Except.ok.inj h)
      rcases List.mem_cons.1 hv with hv | hv
      · exact consume_iff.1 hr v hv.symm
      · exact ih.1 hrs v hv
    · intro h
      rw [consume_iff.2 fun v hv => h v (hv ▸ List.mem_cons_self), ih.2 fun v hv => h v (List.mem_cons_of_mem _ hv)]
      rfl

end

/-- Whatever can be encoded is encoded to its number. -/
def numbers : Environment Nat where
  valueToString := fun _ => []
  uninitialized := ⟨none, none, none, none, none, none, none⟩
  intersectionId := CString.lit "9001"
  encodeSpat := fun _ => some 0
  encodeSSM := fun m => if m.status.isEmpty then none else some 1
  encodeSDSM := fun _ => some 2
  encodeTsm3 := fun _ => some 3
  encodeSSM_nil := fun m h => by rw [h]; rfl

/-- A time stamp that is a string ends the SPaT loop. -/
theorem consumers_survive_time_stamp : ¬ ∀ (env : Environment Nat) (topic : Topic) (payloads : List (Option Value)),
    loop env topic payloads = .ok (payloads.map (expected env topic)) := by
  intro h
  have hloop : loop numbers .spat [some (object [("time_stamp", string (CString.lit "5"))]), none] =
      .error .LogicError := rfl
  have hexpected := h numbers .spat [some (object [("time_stamp", string (CString.lit "5"))]), none]
  rw [hloop] at hexpected
  cases hexpected

end V2xHub.CARMAStreetsPlugin
