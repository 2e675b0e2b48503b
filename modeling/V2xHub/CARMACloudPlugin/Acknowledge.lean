import V2xHub.CARMACloudPlugin.Basic

/-!
# Acknowledgements of traffic control messages

An acknowledgement erases at most one stored TCM, of its id and number. It is final if there is one such TCM, stored, and
those before it with the same id decode (`acknowledgement_final`).
-/

namespace V2xHub.CARMACloudPlugin

/-! ### Ids as texts -/

/-- The value of a digit in lower case. -/
def digitValue (c : UInt8) : UInt8 := if c < 58 then c - 48 else c - 87

theorem digitValue_hex (b : Fin 256) :
    16 * digitValue (CString.tolower (hexDigit (UInt8.ofFin b / 16))) +
      digitValue (CString.tolower (hexDigit (UInt8.ofFin b % 16))) = UInt8.ofFin b := by
  revert b
  decide +kernel

theorem hex_injective {a b : List UInt8} (h : (hex a).map CString.tolower = (hex b).map CString.tolower) : a = b := by
  induction a generalizing b with
  | nil =>
    cases b with
    | nil => rfl
    | cons y b => cases h
  | cons x a ih =>
    cases b with
    | nil => cases h
    | cons y b =>
      simp only [hex, List.flatMap_cons, List.cons_append, List.nil_append, List.map_cons, List.cons.injEq] at h
      obtain ⟨h1, h2, h⟩ := h
      have hx := digitValue_hex x.toFin
      have hy := digitValue_hex y.toFin
      rw [UInt8.ofFin_toFin] at hx hy
      rw [h1, h2, hy] at hx
      rw [hx, ih h]

variable {decode : Str → Option Int}

/-- A TCM with that id and number. -/
def Tcm.Is (reqid : List UInt8) (n : Int) (t : Tcm decode) : Prop := t.reqid = reqid ∧ t.msgnum = n

instance (reqid : List UInt8) (n : Int) (t : Tcm decode) : Decidable (t.Is reqid n) :=
  inferInstanceAs (Decidable (_ ∧ _))

/-- An acknowledgement for the id and the number. -/
def MobilityOperation.For (m : MobilityOperation) (reqid : List UInt8) (n : Int) : Prop :=
  m.traffic_control_id = (hex reqid).map CString.tolower ∧ stol m.msgnum = some n

theorem key_eq_iff {t : Tcm decode} {reqid : List UInt8} :
    t.tcmv01_req_id_hex = (hex reqid).map CString.tolower ↔ t.reqid = reqid := by
  constructor
  · exact hex_injective
  · rintro rfl
    rfl

/-! ### The search -/

theorem Search.cons_eq_removed {e : Entry decode} {r : Search decode} {tcms : List (Entry decode)}
    (h : r.cons e = .removed tcms) : ∃ tcms', r = .removed tcms' ∧ tcms = e :: tcms' := by
  cases r with
  | removed tcms' =>
    cases h
    exact ⟨tcms', rfl, rfl⟩
  | notFound => cases h
  | threw => cases h

/-- What was erased is the first with the id and the number of the acknowledgement, and those before it decode. -/
theorem search_removed {id : Str} {msgnum : Option Int} {l tcms : List (Entry decode)}
    (h : search id msgnum l = .removed tcms) :
    ∃ a e b, l = a ++ e :: b ∧ tcms = a ++ b ∧ e.key = id ∧ msgnum = some e.tcm.msgnum ∧
      (decode e.tcm.payload).isSome ∧
      ∀ x ∈ a, x.key = id → (decode x.tcm.payload).isSome ∧ x.tcm.msgnum ≠ e.tcm.msgnum := by
  induction l generalizing tcms with
  | nil => cases h
  | cons x l ih =>
    have hskip : (search id msgnum l).cons x = .removed tcms →
        (x.key = id → (decode x.tcm.payload).isSome ∧ msgnum ≠ some x.tcm.msgnum) →
        ∃ a e b, x :: l = a ++ e :: b ∧ tcms = a ++ b ∧ e.key = id ∧ msgnum = some e.tcm.msgnum ∧
          (decode e.tcm.payload).isSome ∧
          ∀ x ∈ a, x.key = id → (decode x.tcm.payload).isSome ∧ x.tcm.msgnum ≠ e.tcm.msgnum := by
      intro h hx
      obtain ⟨tcms', hr, rfl⟩ := Search.cons_eq_removed h
      obtain ⟨a, e, b, rfl, rfl, hkey, hn, hdec, ha⟩ := ih hr
      refine ⟨x :: a, e, b, rfl, rfl, hkey, hn, hdec, ?_⟩
      intro y hy hid
      rcases List.mem_cons.1 hy with rfl | hy
      · rw [hn, ne_eq, Option.some.injEq] at hx
        exact (hx hid).imp_right Ne.symm
      · exact ha y hy hid
    unfold search at h
    by_cases hkey : x.key = id
    · rw [if_pos hkey] at h
      cases hdec : decode x.tcm.payload with
      | none => simp only [hdec] at h; cases h
      | some k =>
        cases msgnum with
        | none => simp only [hdec] at h; cases h
        | some n =>
          simp only [hdec] at h
          have hnum := x.tcm.decodes hdec
          by_cases hk : k = n
          · rw [if_pos hk] at h
            cases h
            refine ⟨[], x, l, rfl, rfl, hkey, ?_, ?_, fun y hy => absurd hy List.not_mem_nil⟩
            · rw [← hk, hnum]
            · exact Option.isSome_of_eq_some hdec
          · rw [if_neg hk] at h
            refine hskip h fun _ => ⟨Option.isSome_of_eq_some hdec, ?_⟩
            rw [← hnum, ne_eq, Option.some.injEq]
            exact Ne.symm hk
    · rw [if_neg hkey] at h
      exact hskip h fun hid => absurd hid hkey

/-- The TCM of the number is found behind others that decode. -/
theorem search_append {id : Str} {n : Int} {a b : List (Entry decode)} {e : Entry decode}
    (ha : ∀ x ∈ a, x.key = id → (decode x.tcm.payload).isSome ∧ x.tcm.msgnum ≠ n) (hkey : e.key = id)
    (hdec : (decode e.tcm.payload).isSome) (hn : e.tcm.msgnum = n) :
    search id (some n) (a ++ e :: b) = .removed (a ++ b) := by
  induction a with
  | nil =>
    obtain ⟨k, hk⟩ := Option.isSome_iff_exists.1 hdec
    have hkn : k = n := (e.tcm.decodes hk).trans hn
    rw [List.nil_append, List.nil_append]
    unfold search
    simp only [if_pos hkey, hk, if_pos hkn]
  | cons x a ih =>
    have hrec := ih fun y hy => ha y (List.mem_cons_of_mem _ hy)
    rw [List.cons_append, List.cons_append]
    unfold search
    rw [hrec]
    by_cases hx : x.key = id
    · obtain ⟨hd, hne⟩ := ha x (List.mem_cons_self ..) hx
      obtain ⟨k, hk⟩ := Option.isSome_iff_exists.1 hd
      have hkn : k ≠ n := by
        rw [x.tcm.decodes hk]
        exact hne
      simp only [if_pos hx, hk, if_neg hkn]
      rfl
    · rw [if_neg hx]
      rfl

/-- A TCM that was erased decodes, as do those with its id before it. -/
theorem search_decodes {id : Str} {n : Int} {a b tcms : List (Entry decode)} {e : Entry decode}
    (h : search id (some n) (a ++ e :: b) = .removed tcms) (ha : ∀ x ∈ a, ¬(x.key = id ∧ x.tcm.msgnum = n))
    (he : e.key = id) : ∀ x ∈ a ++ [e], x.key = id → (decode x.tcm.payload).isSome := by
  induction a generalizing tcms with
  | nil =>
    intro x hx hkey
    rw [List.nil_append, List.mem_singleton] at hx
    subst hx
    rw [List.nil_append] at h
    unfold search at h
    rw [if_pos he] at h
    cases hdec : decode x.tcm.payload with
    | none => simp only [hdec] at h; cases h
    | some k => rfl
  | cons y a ih =>
    rw [List.cons_append] at h
    unfold search at h
    have hrec : ∀ {r}, (search id (some n) (a ++ e :: b)).cons y = .removed r →
        ∀ x ∈ a ++ [e], x.key = id → (decode x.tcm.payload).isSome := by
      intro r hr
      obtain ⟨r', hr', -⟩ := Search.cons_eq_removed hr
      exact ih hr' fun x hx => ha x (List.mem_cons_of_mem _ hx)
    intro x hx hkey
    rw [List.cons_append] at hx
    by_cases hy : y.key = id
    · rw [if_pos hy] at h
      cases hdec : decode y.tcm.payload with
      | none => simp only [hdec] at h; cases h
      | some k =>
        simp only [hdec] at h
        by_cases hk : k = n
        · exact absurd ⟨hy, (y.tcm.decodes hdec).symm.trans hk⟩ (ha y (List.mem_cons_self ..))
        · rw [if_neg hk] at h
          rcases List.mem_cons.1 hx with rfl | hx
          · rw [hdec]
            rfl
          · exact hrec h x hx hkey
    · rw [if_neg hy] at h
      rcases List.mem_cons.1 hx with rfl | hx
      · exact absurd hkey hy
      · exact hrec h x hx hkey

def Search.remaining (l : List (Entry decode)) : Search decode → List (Entry decode)
  | .removed tcms => tcms
  | .notFound => l
  | .threw => l

/-- None is left exactly if there was one at most, found behind others that decode. -/
theorem search_none_left {id : Str} {n : Int} {l : List (Entry decode)} :
    (∀ x ∈ (search id (some n) l).remaining l, ¬(x.key = id ∧ x.tcm.msgnum = n)) ↔
      ∀ a e b, l = a ++ e :: b → e.key = id ∧ e.tcm.msgnum = n →
        (∀ x ∈ a ++ b, ¬(x.key = id ∧ x.tcm.msgnum = n)) ∧
          ∀ x ∈ a ++ [e], x.key = id → (decode x.tcm.payload).isSome := by
  constructor
  · rintro h a e b rfl he
    cases hsearch : search id (some n) (a ++ e :: b) with
    | notFound =>
      rw [hsearch] at h
      exact absurd he (h e (List.mem_append_right _ (List.mem_cons_self ..)))
    | threw =>
      rw [hsearch] at h
      exact absurd he (h e (List.mem_append_right _ (List.mem_cons_self ..)))
    | removed tcms =>
      rw [hsearch] at h
      obtain ⟨a', e', b', hl, rfl, -, -⟩ := search_removed hsearch
      -- one TCM less is left, and none of those is of the id and the number
      have hcount := congrArg (List.countP fun x => decide (x.key = id ∧ x.tcm.msgnum = n)) hl
      have hzero : List.countP (fun x => decide (x.key = id ∧ x.tcm.msgnum = n)) (a' ++ b') = 0 := by
        rw [List.countP_eq_zero]
        intro x hx
        rw [decide_eq_true_eq]
        exact h x hx
      rw [List.countP_append] at hzero
      rw [List.countP_append, List.countP_append, List.countP_cons, List.countP_cons,
        if_pos (decide_eq_true he)] at hcount
      have hrest : List.countP (fun x => decide (x.key = id ∧ x.tcm.msgnum = n)) (a ++ b) = 0 := by
        rw [List.countP_append]
        split at hcount <;> omega
      rw [List.countP_eq_zero] at hrest
      have hnone : ∀ x ∈ a ++ b, ¬(x.key = id ∧ x.tcm.msgnum = n) := by
        intro x hx
        have := hrest x hx
        rwa [decide_eq_true_eq] at this
      exact ⟨hnone, search_decodes hsearch (fun x hx => hnone x (List.mem_append_left _ hx)) he.1⟩
  · intro h
    by_cases hex : ∃ e ∈ l, e.key = id ∧ e.tcm.msgnum = n
    · obtain ⟨e, hmem, he⟩ := hex
      obtain ⟨a, b, rfl⟩ := List.append_of_mem hmem
      obtain ⟨hnone, hdec⟩ := h a e b rfl he
      have ha : ∀ x ∈ a, x.key = id → (decode x.tcm.payload).isSome ∧ x.tcm.msgnum ≠ n := by
        intro x hx hkey
        refine ⟨hdec x (List.mem_append_left _ hx) hkey, fun hn => ?_⟩
        exact hnone x (List.mem_append_left _ hx) ⟨hkey, hn⟩
      rw [search_append ha he.1 (hdec e (List.mem_append_right _ (List.mem_singleton_self e)) he.1) he.2]
      exact hnone
    · have hsub : ∀ x ∈ (search id (some n) l).remaining l, x ∈ l := by
        intro x hx
        cases hsearch : search id (some n) l with
        | notFound => rwa [hsearch] at hx
        | threw => rwa [hsearch] at hx
        | removed tcms =>
          rw [hsearch] at hx
          obtain ⟨a, e, b, rfl, rfl, -⟩ := search_removed hsearch
          exact List.mem_append.2 ((List.mem_append.1 hx).imp_right (List.mem_cons_of_mem _))
      intro x hx he
      exact hex ⟨x, hsub x hx, he⟩

namespace State
variable {s t : State decode} {x : Tcm decode}

/-- A stored TCM. -/
def entries (s : State decode) : List (Entry decode) := s.visited ++ s._not_ACK_TCMs

/-- The TCM is stored or about to be. -/
def Holds (s : State decode) (x : Tcm decode) : Prop := (∃ e ∈ s.entries, e.tcm = x) ∨ s.incoming = some x

/-- The loop body keeps the TCMs, and rebroadcasts no other. -/
theorem rebroadcast_spec (s : State decode) (e : Entry decode) :
    ∃ e', e'.tcm = e.tcm ∧ (s.rebroadcast e).visited = s.visited ++ [e'] ∧
      (s.rebroadcast e)._not_ACK_TCMs = s._not_ACK_TCMs ∧ (s.rebroadcast e).incoming = s.incoming ∧
      (s.rebroadcast e).phase = s.phase ∧
      ∃ out, (s.rebroadcast e).sent = s.sent ++ out ∧ ∀ x, .rebroadcast x ∈ out → x = e.tcm := by
  unfold rebroadcast
  cases hskip : s.isSkip e.key e.tcm.payload with
  | true =>
    rw [if_pos rfl]
    exact ⟨e, rfl, rfl, rfl, rfl, rfl, [], (List.append_nil _).symm, fun x h => absurd h List.not_mem_nil⟩
  | false =>
    rw [if_neg Bool.false_ne_true]
    refine ⟨{ e with rebroadcasts := e.rebroadcasts + 1 }, rfl, rfl, rfl, rfl, rfl, _, rfl, ?_⟩
    intro x hx
    cases List.mem_singleton.1 hx
    rfl

theorem visit_spec (s : State decode) (e : Entry decode) (cur_time : Int) :
    ∃ e', e'.tcm = e.tcm ∧ (s.visit e cur_time).visited = s.visited ++ [e'] ∧
      (s.visit e cur_time)._not_ACK_TCMs = s._not_ACK_TCMs ∧ (s.visit e cur_time).incoming = s.incoming ∧
      (s.visit e cur_time).phase = s.phase ∧
      ∃ out, (s.visit e cur_time).sent = s.sent ++ out ∧ ∀ x, .rebroadcast x ∈ out → x = e.tcm := by
  unfold visit
  cases s._tcm_broadcast_starting_time e.key with
  | none => exact rebroadcast_spec _ (e.see cur_time)
  | some starting_time =>
    dsimp only
    by_cases hexp : cur_time - starting_time > s.settings._TCMRepeatedlyBroadcastTimeOut.val
    · rw [if_pos hexp]
      exact ⟨e.see cur_time, rfl, rfl, rfl, rfl, rfl, [], (List.append_nil _).symm, fun x h => absurd h List.not_mem_nil⟩
    · rw [if_neg hexp]
      exact rebroadcast_spec _ (e.see cur_time)

theorem rebroadcast_not_mem_reports (m : MobilityOperation) (x : Tcm decode) :
    Output.rebroadcast x ∉ (m.reports : List (Output decode)) := by
  unfold MobilityOperation.reports
  cases stoi m.acknnowledgement_str with
  | none => exact List.not_mem_nil
  | some ack =>
    by_cases hack : ack = 1
    · simp [hack]
    · simp [hack]

theorem rebroadcast_not_mem_noAcknowledgement (ids : List Str) (x : Tcm decode) :
    Output.rebroadcast x ∉ ids.flatMap s.noAcknowledgement := by
  rw [List.mem_flatMap]
  rintro ⟨id, -, h⟩
  simp [noAcknowledgement] at h

/-- What an acknowledgement does to the stored TCMs. -/
theorem handle_cases (s : State decode) (m : MobilityOperation) :
    ∃ tcms out, s.HandleMobilityOperationMessage m = { s with _not_ACK_TCMs := tcms, sent := s.sent ++ out } ∧
      (∀ x, .rebroadcast x ∉ out) ∧
      (tcms = s._not_ACK_TCMs ∨
        ∃ a e b, s._not_ACK_TCMs = a ++ e :: b ∧ tcms = a ++ b ∧ s.settings.isAcknowledgement m ∧
          e.key = m.traffic_control_id ∧ stol m.msgnum = some e.tcm.msgnum ∧ (decode e.tcm.payload).isSome ∧
          ∀ x ∈ a, x.key = e.key → (decode x.tcm.payload).isSome ∧ x.tcm.msgnum ≠ e.tcm.msgnum) := by
  have hsame : s = { s with _not_ACK_TCMs := s._not_ACK_TCMs, sent := s.sent ++ [] } := by rw [List.append_nil]
  unfold HandleMobilityOperationMessage
  cases hack : s.settings.isAcknowledgement m with
  | false =>
    rw [if_neg Bool.false_ne_true]
    exact ⟨_, [], hsame, fun x => List.not_mem_nil, .inl rfl⟩
  | true =>
    rw [if_pos rfl]
    cases hsearch : search m.traffic_control_id (stol m.msgnum) s._not_ACK_TCMs with
    | threw => exact ⟨_, [], hsame, fun x => List.not_mem_nil, .inl rfl⟩
    | notFound => exact ⟨_, _, rfl, rebroadcast_not_mem_reports m, .inl rfl⟩
    | removed tcms =>
      obtain ⟨a, e, b, hl, rfl, hkey, hn, hdec, ha⟩ := search_removed hsearch
      refine ⟨_, _, rfl, rebroadcast_not_mem_reports m, .inr ⟨a, e, b, hl, rfl, rfl, hkey, hn, hdec, ?_⟩⟩
      rw [hkey]
      exact ha

theorem mem_entries {e : Entry decode} : e ∈ s.entries ↔ e ∈ s.visited ∨ e ∈ s._not_ACK_TCMs := List.mem_append

/-- A step holds no new TCM but a received one, and rebroadcasts only what was stored. -/
theorem step_spec {ev : Event decode} (h : s.step ev = some t) :
    (∀ x, t.Holds x → s.Holds x ∨ ev = .receive x) ∧
      ∃ out, t.sent = s.sent ++ out ∧ ∀ x, .rebroadcast x ∈ out → s.Holds x := by
  have hquiet : ∃ out, s.sent = s.sent ++ out ∧ ∀ x, .rebroadcast x ∈ out → s.Holds x :=
    ⟨[], (List.append_nil _).symm, fun x h => absurd h List.not_mem_nil⟩
  cases step_cases h with
  | configure settings => exact ⟨fun x hx => .inl hx, hquiet⟩
  | receive y hincoming =>
    refine ⟨?_, [.broadcast y], rfl, fun x hx => ?_⟩
    · rintro x (hx | hx)
      · exact .inl (.inl hx)
      · cases hx
        exact .inr rfl
    · cases List.mem_singleton.1 hx
  | store y hincoming hphase =>
    unfold State.store
    by_cases hlen : y.tcmv01_req_id_hex.length > 0
    · rw [if_pos hlen]
      refine ⟨?_, hquiet⟩
      rintro x (⟨e, he, rfl⟩ | hx)
      · rcases mem_entries.1 he with he | he
        · exact .inl (.inl ⟨e, mem_entries.2 (.inl he), rfl⟩)
        · rcases (List.mem_orderedInsert _).1 he with rfl | he
          · exact .inl (.inr hincoming)
          · exact .inl (.inl ⟨e, mem_entries.2 (.inr he), rfl⟩)
      · cases hx
    · rw [if_neg hlen]
      refine ⟨?_, hquiet⟩
      rintro x (hx | hx)
      · exact .inl (.inl hx)
      · cases hx
  | acknowledge m hphase =>
    obtain ⟨tcms, out, heq, hout, hstored⟩ := s.handle_cases m
    rw [heq]
    refine ⟨?_, out, rfl, fun x hx => absurd hx (hout x)⟩
    rintro x (⟨e, he, rfl⟩ | hx)
    · rcases mem_entries.1 he with he | he
      · exact .inl (.inl ⟨e, mem_entries.2 (.inl he), rfl⟩)
      · refine .inl (.inl ⟨e, mem_entries.2 (.inr ?_), rfl⟩)
        rcases hstored with rfl | ⟨a, e', b, hl, rfl, -⟩
        · exact he
        · rw [hl]
          exact List.mem_append.2 ((List.mem_append.1 he).imp_right (List.mem_cons_of_mem _))
    · exact .inl (.inr hx)
  | wake hphase => exact ⟨fun x hx => .inl hx, hquiet⟩
  | clear hphase hnil => exact ⟨fun x hx => .inl hx, hquiet⟩
  | lock hphase => exact ⟨fun x hx => .inl hx, hquiet⟩
  | visit cur_time e tcms hphase hclock htcms =>
    obtain ⟨e', htcm, hvisited, hstored, hincoming, -, out, hsent, hout⟩ :=
      visit_spec { s with _not_ACK_TCMs := tcms, clock := cur_time } e cur_time
    have he : s.Holds e.tcm := .inl ⟨e, mem_entries.2 (.inr (htcms ▸ List.mem_cons_self ..)), rfl⟩
    refine ⟨?_, out, hsent, fun x hx => hout x hx ▸ he⟩
    rintro x (⟨y, hy, rfl⟩ | hx)
    · rw [mem_entries, hvisited, hstored] at hy
      rcases hy with hy | hy
      · rcases List.mem_append.1 hy with hy | hy
        · exact .inl (.inl ⟨y, mem_entries.2 (.inl hy), rfl⟩)
        · rw [List.mem_singleton.1 hy, htcm]
          exact .inl he
      · exact .inl (.inl ⟨y, mem_entries.2 (.inr (htcms ▸ List.mem_cons_of_mem _ hy)), rfl⟩)
    · rw [hincoming] at hx
      exact .inl (.inr hx)
  | expire hphase hnil =>
    refine ⟨?_, _, rfl, fun x hx => absurd hx (rebroadcast_not_mem_noAcknowledgement _ x)⟩
    rintro x (⟨e, he, rfl⟩ | hx)
    · rcases mem_entries.1 he with he | he
      · cases he
      · exact .inl (.inl ⟨e, mem_entries.2 (.inl (List.mem_of_mem_filter he)), rfl⟩)
    · exact .inl (.inr hx)

theorem handle_of_acknowledgement {m : MobilityOperation} (hack : s.settings.isAcknowledgement m) :
    (s.HandleMobilityOperationMessage m)._not_ACK_TCMs =
      (search m.traffic_control_id (stol m.msgnum) s._not_ACK_TCMs).remaining s._not_ACK_TCMs := by
  unfold HandleMobilityOperationMessage
  rw [if_pos hack]
  cases search m.traffic_control_id (stol m.msgnum) s._not_ACK_TCMs <;> rfl

/-- The loop is not between two TCMs. -/
theorem visited_eq_nil {settings : Settings} {es : List (Event decode)}
    (h : (plugin decode settings).exec (plugin decode settings).init es = some s) (hphase : s.phase ≠ .visiting) :
    s.visited = [] := by
  revert hphase
  refine Machine.invariant (I := fun s : State decode => s.phase ≠ .visiting → s.visited = []) (fun _ => rfl) ?_ h
  intro s ev t hI h hphase
  cases step_cases h with
  | configure settings => exact hI hphase
  | receive y hincoming => exact hI hphase
  | store y hincoming hne =>
    unfold State.store
    split <;> exact hI hne
  | acknowledge m hne =>
    obtain ⟨tcms, out, heq, -⟩ := s.handle_cases m
    rw [heq]
    exact hI hne
  | wake hasleep => exact hI (by rw [hasleep]; exact Phase.noConfusion)
  | clear hasleep hnil => exact hI hphase
  | lock hawake => exact absurd rfl hphase
  | visit cur_time e tcms hvisiting hclock htcms =>
    obtain ⟨e', -, -, -, -, hsame, -⟩ := visit_spec { s with _not_ACK_TCMs := tcms, clock := cur_time } e cur_time
    rw [hsame] at hphase
    exact absurd hvisiting hphase
  | expire hvisiting hnil => rfl

/-- The step from `s` to `t` rebroadcasts the TCM. -/
def Rebroadcasts (s t : State decode) (x : Tcm decode) : Prop := ∃ out, t.sent = s.sent ++ out ∧ .rebroadcast x ∈ out

/-- There is at most one TCM of the id and the number, and it is stored and found. -/
def Finds (s : State decode) (reqid : List UInt8) (n : Int) : Prop :=
  (∀ x, s.incoming = some x → ¬ x.Is reqid n) ∧
    ∀ a e b, s._not_ACK_TCMs = a ++ e :: b → e.tcm.Is reqid n →
      (∀ x ∈ a ++ b, ¬ x.tcm.Is reqid n) ∧ ∀ x ∈ a ++ [e], x.tcm.reqid = reqid → (decode x.tcm.payload).isSome

/-- No TCM of the id and the number is left behind the acknowledgement exactly if it is found. -/
theorem gone_iff {m : MobilityOperation} {reqid : List UInt8} {n : Int} (hvisited : s.visited = [])
    (hack : s.settings.isAcknowledgement m) (hfor : m.For reqid n) :
    (∀ x, x.Is reqid n → ¬ (s.HandleMobilityOperationMessage m).Holds x) ↔ s.Finds reqid n := by
  obtain ⟨hkeep, hincoming⟩ : (s.HandleMobilityOperationMessage m).visited = s.visited ∧
      (s.HandleMobilityOperationMessage m).incoming = s.incoming := by
    obtain ⟨tcms, out, heq, -⟩ := s.handle_cases m
    rw [heq]
    exact ⟨rfl, rfl⟩
  have hstored := handle_of_acknowledgement hack
  rw [hfor.2, hfor.1] at hstored
  have hleft := @search_none_left decode ((hex reqid).map CString.tolower) n s._not_ACK_TCMs
  simp only [Entry.key, key_eq_iff] at hleft
  rw [← hstored] at hleft
  unfold Finds Tcm.Is
  rw [← hleft]
  constructor
  · intro h
    refine ⟨fun x hx hIs => h x hIs (.inr (hincoming.trans hx)), fun e he hIs => ?_⟩
    exact h e.tcm hIs (.inl ⟨e, mem_entries.2 (.inr he), rfl⟩)
  · rintro ⟨hin, hl⟩ x hIs (⟨e, he, rfl⟩ | hx)
    · rw [mem_entries, hkeep, hvisited] at he
      rcases he with he | he
      · cases he
      · exact hl e he hIs
    · exact hin x (hincoming.symm.trans hx) hIs

/-- Every acknowledgement finds its TCM. -/
def AcknowledgementFinds (s : State decode) : Event decode → Prop
  | .mobilityOperation m => s.settings.isAcknowledgement m → ∀ reqid n, m.For reqid n → s.Finds reqid n
  | _ => True

/-- No TCM of the id and the number is rebroadcast until it is received again. -/
theorem not_rebroadcasts {settings : Settings} {reqid : List UInt8} {n : Int} {fs : List (Event decode)}
    {e : Event decode} {u : State decode} (h : (plugin decode settings).exec s fs = some t)
    (hs : ∀ x, x.Is reqid n → ¬ s.Holds x) (hreceive : ∀ x, .receive x ∈ fs → ¬ x.Is reqid n)
    (hstep : t.step e = some u) {x : Tcm decode} (hx : x.Is reqid n) : ¬ t.Rebroadcasts u x := by
  have ht : ∀ x, x.Is reqid n → ¬ t.Holds x := by
    induction fs generalizing s with
    | nil =>
      obtain rfl := Option.some.inj h
      exact hs
    | cons f fs ih =>
      obtain ⟨s', hs', h⟩ := Machine.exec_cons.1 h
      refine ih h ?_ fun y hy => hreceive y (List.mem_cons_of_mem _ hy)
      intro y hy hholds
      rcases (step_spec hs').1 y hholds with hholds | rfl
      · exact hs y hy hholds
      · exact hreceive y (List.mem_cons_self ..) hy
  rintro ⟨out, hout, hmem⟩
  obtain ⟨out', hout', hquiet⟩ := (step_spec hstep).2
  rw [hout, List.append_cancel_left_eq] at hout'
  exact ht x hx (hquiet x (hout' ▸ hmem))

end State

section
variable (decode) (settings : Settings)

/-- No acknowledgement of the run removes a TCM with another id or number. -/
def RemovesOnlyItsOwn (es : List (Event decode)) : Prop :=
  ∀ pre m post s t, es = pre ++ .mobilityOperation m :: post →
    (plugin decode settings).exec (plugin decode settings).init pre = some s →
    s.step (.mobilityOperation m) = some t →
    t.entries = s.entries ∨ ∃ a e b, s.entries = a ++ e :: b ∧ t.entries = a ++ b ∧
      m.For e.tcm.reqid e.tcm.msgnum

/-- No step behind an acknowledgement rebroadcasts a TCM of its id and number that was not received behind it. -/
def AcknowledgedForGood (es : List (Event decode)) : Prop :=
  ∀ pre m fs e post reqid n s t u, es = pre ++ .mobilityOperation m :: (fs ++ e :: post) →
    (plugin decode settings).exec (plugin decode settings).init pre = some s → s.settings.isAcknowledgement m →
    m.For reqid n → (∀ x, .receive x ∈ fs → ¬ x.Is reqid n) →
    (plugin decode settings).exec s (.mobilityOperation m :: fs) = some t → t.step e = some u →
    ∀ x : Tcm decode, x.Is reqid n → ¬ t.Rebroadcasts u x

end

/-- An acknowledgement removes nothing but its own TCM, and it is final in every run whose acknowledgements find the one
TCM of their id and number. -/
theorem acknowledgement_final (settings : Settings) (es : List (Event decode)) :
    RemovesOnlyItsOwn decode settings es ∧
      ((plugin decode settings).Meets State.AcknowledgementFinds (plugin decode settings).init es →
        AcknowledgedForGood decode settings es) := by
  constructor
  · intro pre m post s t _ _ ht
    cases State.step_cases ht with
    | acknowledge m hphase =>
      obtain ⟨tcms, out, heq, -, hstored⟩ := s.handle_cases m
      rw [heq]
      unfold State.entries
      rcases hstored with rfl | ⟨a, e, b, hl, rfl, -, hkey, hn, -⟩
      · exact .inl rfl
      · rw [hl]
        refine .inr ⟨s.visited ++ a, e, b, (List.append_assoc ..).symm, (List.append_assoc ..).symm, ?_, hn⟩
        exact hkey.symm
  · intro hmeets pre m fs e post reqid n s t u hes hs hack hfor hreceive ht hu x hx
    rw [hes] at hmeets
    have hm := Machine.Meets.append hmeets hs
    obtain ⟨s', hs', ht⟩ := Machine.exec_cons.1 ht
    refine State.not_rebroadcasts ht ?_ hreceive hu hx
    have hstep : s.step (.mobilityOperation m) = some s' := hs'
    cases State.step_cases hstep with
    | acknowledge m hphase =>
      exact (State.gone_iff (State.visited_eq_nil hs hphase) hack hfor).2 (hm.1 hack reqid n hfor)

/-- The payload of each TCM decodes to the number 1. -/
def one : Str → Option Int := fun _ => some 1

def tcm : Tcm one := ⟨[0, 0, 0, 0, 0, 0, 0, 1], 1, [], fun h => (Option.some.inj h).symm⟩

def defaults : Settings where
  _strategies := CString.lit "carma3/geofence_acknowledgement"
  _TCMRepeatedlyBroadcastTimeOut := 1000
  _TCMNOAcknowledgementDescription := []
  _TCMRepeatedlyBroadCastTotalTimes := 1

def acknowledgement : MobilityOperation where
  strategy := CString.lit "carma3/geofence_acknowledgement"
  operationParams := CString.lit "traffic_control_id:0000000000000001,msgnum:1,acknowledgement:1"
  hostStaticId := []

/-- The cloud delivered the TCM twice. -/
theorem acknowledgement_final_delivered_twice :
    ¬ ∀ (decode : Str → Option Int) (settings : Settings) (es : List (Event decode)),
      AcknowledgedForGood decode settings es := by
  intro h
  have hfor : acknowledgement.For tcm.reqid 1 := by
    unfold MobilityOperation.For
    decide +kernel
  have hack : defaults.isAcknowledgement acknowledgement := by decide +kernel
  refine h one defaults [.receive tcm, .store, .receive tcm, .store, .mobilityOperation acknowledgement, .wake, .lock,
    .visit 1] [.receive tcm, .store, .receive tcm, .store] acknowledgement [.wake, .lock] (.visit 1) [] tcm.reqid 1
    _ _ _ rfl rfl hack hfor ?_ rfl rfl tcm ⟨rfl, rfl⟩ ?_
  · intro x hx
    simp at hx
  · exact ⟨[.rebroadcast tcm], rfl, List.mem_singleton_self _⟩

end V2xHub.CARMACloudPlugin
