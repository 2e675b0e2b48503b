import V2xHub.CommandPlugin.EventLog

/-!
# Delivery of the events

What a poll makes of the rows that it finds (`State.GetEventTelemetry_rows`), the invariant `Inv` of the runs whose steps
are `Sound`, and that every state of such a run is `Delivered`. A second event in the second of the last poll is in no
update and in no list, and the events of a poll are in no update of a session that is serviced behind `clearlog`.
-/

namespace V2xHub.CommandPlugin.EventLog
open PropertyTree
variable {ts : Timestamps} {eventRowLimit updateIntervalMS currentTime : Nat}

/-! ### The texts -/

theorem lastQuoted_append {before text behind : Str} (htext : 34 ∉ text) (hne : text ≠ []) (hbehind : 34 ∉ behind) :
    lastQuoted (before ++ 34 :: text ++ 34 :: behind) = some text := by
  have hreverse : (before ++ 34 :: text ++ 34 :: behind).reverse =
      behind.reverse ++ 34 :: (text.reverse ++ 34 :: before.reverse) := by
    simp only [List.reverse_append, List.reverse_cons, List.append_assoc, List.cons_append, List.nil_append]
  have htext' : 34 ∉ text.reverse := fun h => htext (List.mem_reverse.1 h)
  have hbehind' : 34 ∉ behind.reverse := fun h => hbehind (List.mem_reverse.1 h)
  rw [lastQuoted, hreverse, dropWhile_ne_append hbehind']
  simp only [dropWhile_ne_append htext', takeWhile_ne_append htext']
  rw [if_neg (by simpa using hne), List.reverse_reverse]

theorem bracketed_append {before text behind : Str} (hbefore : 91 ∉ before) (hbehind : 93 ∉ behind) :
    bracketed (before ++ 91 :: text ++ 93 :: behind) = some text := by
  have hreverse : (text ++ 93 :: behind).reverse = behind.reverse ++ 93 :: text.reverse := by
    simp only [List.reverse_append, List.reverse_cons, List.append_assoc, List.singleton_append]
  have hbehind' : 93 ∉ behind.reverse := fun h => hbehind (List.mem_reverse.1 h)
  rw [bracketed, List.append_assoc, List.cons_append, dropWhile_ne_append hbefore]
  simp only [hreverse, dropWhile_ne_append hbehind', List.reverse_reverse]

theorem stamp_quoted (t : Nat) : quoted (ts.stamp t) = 34 :: ts.stamp t ++ [34] := by
  rw [quoted, flatMap_plain (ts.plain_stamp t)]

theorem quote_not_mem_stamp (t : Nat) : 34 ∉ ts.stamp t := fun h => not_plain_quote (ts.plain_stamp t _ h)

theorem json_ne_nil (e : LogEvent) : e.json ts ≠ [] := by
  simp [LogEvent.json, quoted]

theorem texts_append_singleton (ts : Timestamps) (rows : List LogEvent) (e : LogEvent) :
    ∃ before, texts ts (rows ++ [e]) = before ++ 34 :: ts.stamp e.timestamp ++ 34 :: CString.lit "\x7d" := by
  have hjson : ∃ before, e.json ts = before ++ 34 :: ts.stamp e.timestamp ++ 34 :: CString.lit "\x7d" := by
    refine ⟨CString.lit "\x7b\"id\":" ++ quoted (Printf.decimal e.id) ++ CString.lit ",\"level\":" ++ quoted e.level ++
      CString.lit ",\"source\":" ++ quoted e.source ++ CString.lit ",\"description\":" ++ quoted e.description ++
      CString.lit ",\"timestamp\":", ?_⟩
    rw [LogEvent.json, stamp_quoted]
    simp only [List.append_assoc, List.cons_append, List.nil_append]
  obtain ⟨before, hbefore⟩ := hjson
  by_cases hrows : rows = []
  · refine ⟨before, ?_⟩
    rw [hrows, texts, List.nil_append, List.map_singleton, commas_singleton, hbefore]
  · refine ⟨texts ts rows ++ [44] ++ before, ?_⟩
    rw [texts, List.map_append, List.map_singleton, commas_concat (by simpa using hrows), hbefore]
    simp only [texts, List.append_assoc]

theorem texts_eq_nil {rows : List LogEvent} : texts ts rows = [] ↔ rows = [] := by
  refine ⟨fun h => ?_, fun h => h ▸ rfl⟩
  rcases List.eq_nil_or_concat rows with hrows | ⟨rows', e, rfl⟩
  · exact hrows
  · obtain ⟨before, hbefore⟩ := texts_append_singleton ts rows' e
    rw [List.concat_eq_append, hbefore] at h
    simp at h

theorem value_json (e : LogEvent) : Value (e.json ts) (e.value ts) := by
  have hkeys : ∀ m ∈ e.members ts, Clean m.1 := by
    simp only [LogEvent.members, List.forall_mem_cons]
    exact ⟨by decide, by decide, by decide, by decide, by decide, by simp⟩
  have hvalue := value_members ((e.members ts).map fun m => ⟨m.1, m.1, quoted m.2, .str m.2⟩)
    (List.forall_mem_map.2 fun m hm => ⟨.of_clean (hkeys m hm), value_quoted m.2⟩)
  have hfirst : CString.lit "\x7b\"id\":" = 123 :: 34 :: (CString.lit "id" ++ [34, 58]) := by decide
  have hlevel : CString.lit ",\"level\":" = 44 :: 34 :: (CString.lit "level" ++ [34, 58]) := by decide
  have hsource : CString.lit ",\"source\":" = 44 :: 34 :: (CString.lit "source" ++ [34, 58]) := by decide
  have hdescription : CString.lit ",\"description\":" = 44 :: 34 :: (CString.lit "description" ++ [34, 58]) := by
    decide
  have htimestamp : CString.lit ",\"timestamp\":" = 44 :: 34 :: (CString.lit "timestamp" ++ [34, 58]) := by decide
  have hlast : CString.lit "\x7d" = [125] := by decide
  rw [LogEvent.json, hfirst, hlevel, hsource, hdescription, htimestamp, hlast]
  simp only [List.map_cons, List.map_nil, LogEvent.members, Member.text, commas_cons_cons, commas_singleton,
    List.append_assoc, List.cons_append, List.nil_append] at hvalue ⊢
  exact hvalue

theorem value_payload (events : List LogEvent) :
    Value (payload (texts ts events)) (.arr (events.map (LogEvent.value ts))) := by
  have hvalue := Value.arr (events.map fun e => (e.json ts, e.value ts)) (List.forall_mem_map.2 fun e _ => value_json e)
  simpa [List.map_map, Function.comp_def, payload, texts] using hvalue

/-- Events behind those of a buffer. -/
theorem texts_join (ts : Timestamps) {rows : List LogEvent} (hrows : rows ≠ []) (buffer : List LogEvent) :
    texts ts (buffer ++ rows) =
    (if texts ts buffer ≠ [] then texts ts buffer ++ [44] else texts ts buffer) ++ texts ts rows := by
  rw [texts, List.map_append]
  refine commas_join (by simpa using hrows) fun item hitem => ?_
  obtain ⟨e, -, rfl⟩ := List.mem_map.1 hitem
  exact json_ne_nil e

theorem output_of_ne_nil {rows : List LogEvent} (h : rows ≠ []) :
    output ts rows = CString.lit "\x7b\"EventLog\":" ++ 91 :: texts ts rows ++ 93 :: CString.lit "\x7d\n" := by
  rw [output, if_neg h]
  simp only [List.append_assoc]
  rfl

theorem bracketed_output {rows : List LogEvent} (h : rows ≠ []) : bracketed (output ts rows) = some (texts ts rows) := by
  rw [output_of_ne_nil h]
  exact bracketed_append (by decide) (by decide)

theorem lastQuoted_output (rows : List LogEvent) (e : LogEvent) :
    lastQuoted (output ts (rows ++ [e])) = some (ts.stamp e.timestamp) := by
  obtain ⟨before, hbefore⟩ := texts_append_singleton ts rows e
  have htext : output ts (rows ++ [e]) = (CString.lit "\x7b\"EventLog\":" ++ 91 :: before) ++
      34 :: ts.stamp e.timestamp ++ 34 :: CString.lit "\x7d]\x7d\n" := by
    rw [output_of_ne_nil (by simp), hbefore]
    simp only [List.append_assoc, List.cons_append]
    rfl
  rw [htext]
  exact lastQuoted_append (quote_not_mem_stamp _) (ts.stamp_ne_nil _) (by decide)

/-- A poll that fails. -/
theorem State.GetEventTelemetry_none {s : State} (h : events ts eventRowLimit s.log s.lastEventTime = none) :
    s.GetEventTelemetry ts eventRowLimit = { s with haveEvents := false } := by
  rw [State.GetEventTelemetry, h]

/-- A poll without new events. -/
theorem State.GetEventTelemetry_nil {s : State} (h : events ts eventRowLimit s.log s.lastEventTime = some []) :
    s.GetEventTelemetry ts eventRowLimit =
      { s with haveEvents := true, polled := s.logged.length, eventsUpdatesJSON := [] } := by
  rw [State.GetEventTelemetry, h]
  rfl

/-- A poll with new events. -/
theorem State.GetEventTelemetry_rows {s : State} {rows : List LogEvent} {e : LogEvent}
    (h : events ts eventRowLimit s.log s.lastEventTime = some (rows ++ [e])) :
    s.GetEventTelemetry ts eventRowLimit =
      { s with haveEvents := true, polled := s.logged.length, lastEventTime := ts.stamp e.timestamp }.store eventRowLimit
        (texts ts (rows ++ [e])) (1 + separators (output ts (rows ++ [e]))) := by
  have hne : rows ++ [e] ≠ [] := by simp
  have houtput : output ts (rows ++ [e]) ≠ [] := by
    rw [output_of_ne_nil hne]
    simp
  rw [State.GetEventTelemetry, h]
  simp only [if_neg houtput, lastQuoted_output, bracketed_output hne]

/-! ### The invariant -/

/-- The events of the two buffers. -/
structure Buffers (ts : Timestamps) (eventRowLimit : Nat) (s : State) (full next : List LogEvent) : Prop where
  fullJSON : s.eventsJSON = texts ts full
  nextJSON : s.eventsNextFullJSON = texts ts next
  full_suffix : full <:+ s.logged.take s.polled
  next_suffix : next <:+ s.logged.take s.polled
  next_nil : s.eventsFullCount < eventRowLimit → next = []
  enough : s.haveEvents = true → min (s.polled - s.cleared) eventRowLimit ≤ full.length
  start : s.lastEventTime = [] → full = []
  /-- The table was cleared of events that no poll has found. -/
  behind : s.polled < s.cleared → full = [] ∧ next = []

/-- What a session was sent. -/
structure Sent (ts : Timestamps) (s : State) (c : Connection) : Prop where
  full : c.sendFullTelemetry = true → c.received = none
  sent : c.sendFullTelemetry = false → c.lastUpdateSendTimeMS ≤ s.lastPluginsUpdateTimeMS
  complete : ∀ r ∈ c.received, r.Complete ts (s.logged.take s.polled)
  start : s.lastEventTime = [] → ∀ r ∈ c.received, since r.start (s.logged.take s.polled) = []
  behind : s.polled < s.cleared → ∀ r ∈ c.received,
    since r.start (s.logged.take s.cleared) = since r.start (s.logged.take s.polled)

structure Inv (ts : Timestamps) (eventRowLimit : Nat) (s : State) : Prop where
  ids : s.logged.Pairwise fun e e' => e.id < e'.id
  times : s.logged.Pairwise fun e e' => e.timestamp ≤ e'.timestamp
  log : s.log = s.logged.drop s.cleared
  polled : s.polled ≤ s.logged.length
  cleared : s.cleared ≤ s.logged.length
  buffers : ∃ full next, Buffers ts eventRowLimit s full next
  found : s.lastEventTime ≠ [] → s.haveEvents = true ∧ eventRowLimit ≤ 2147483647
  time : s.lastEventTime ≠ [] →
    ∀ e ∈ (s.logged.take s.polled).drop s.cleared, e.timestamp ≤ ts.parse s.lastEventTime
  /-- As it will be when it is serviced. -/
  sent : ∀ c ∈ s.connections, Sent ts s (s.update c)

variable {s t : State} {rows : List LogEvent}

/-! ### The service of a session -/

section
variable {c : Connection}

theorem update_full (h : c.sendFullTelemetry = true) : s.update c = c := if_neg (by simp [h])

theorem update_sendFullTelemetry (s : State) (c : Connection) : (s.update c).sendFullTelemetry = c.sendFullTelemetry := by
  rw [State.update]
  split_ifs with h
  · exact h.1.symm
  · rfl

/-- A session that has the update of the last poll. -/
theorem update_of_le (h : c.sendFullTelemetry = false → s.lastPluginsUpdateTimeMS ≤ c.lastUpdateSendTimeMS) :
    s.update c = c := if_neg fun hwaits => absurd (h hwaits.1) (Nat.not_le.2 hwaits.2)

theorem lastUpdate_update (h : c.sendFullTelemetry = false) :
    s.lastPluginsUpdateTimeMS ≤ (s.update c).lastUpdateSendTimeMS := by
  rw [State.update]
  split_ifs with hwaits
  · exact le_rfl
  · exact Nat.not_lt.1 fun hlt => hwaits ⟨h, hlt⟩

theorem update_update (s : State) (c : Connection) : s.update (s.update c) = s.update c :=
  update_of_le fun h => lastUpdate_update ((update_sendFullTelemetry s c).symm.trans h)

/-- Where it waits for nothing, a session is the same if there is nothing to be sent. -/
theorem update_eq (hsent : (s.update c).received = c.received) (htime : t.lastPluginsUpdateTimeMS = s.lastPluginsUpdateTimeMS)
    (h : ¬ (t.haveEvents = true ∧ t.eventsUpdatesJSON ≠ [])) : t.update c = s.update c := by
  rw [State.update, State.updates, if_neg h, htime]
  rw [State.update] at hsent ⊢
  split_ifs at hsent ⊢ with hwaits
  · exact congrArg (Connection.mk false _) hsent.symm
  · rfl

/-- Behind a poll a session with its full telemetry waits for the update. -/
theorem update_poll (hc : Sent ts s (s.update c)) (hlt : s.lastPluginsUpdateTimeMS < t.lastPluginsUpdateTimeMS)
    (hfull : c.sendFullTelemetry = false) : t.update c = ⟨false, t.lastPluginsUpdateTimeMS, t.updates c⟩ := by
  refine if_pos ⟨hfull, lt_of_le_of_lt ?_ hlt⟩
  rw [State.update] at hc
  split_ifs at hc with hwaits
  · exact hwaits.2.le
  · exact hc.sent hfull

end

/-! ### The rows of a poll -/

theorem since_append (start : Nat) (events events' : List LogEvent) :
    since start (events ++ events') = since start events ++ since start events' := List.filter_append ..

theorem since_eq_nil {start : Nat} {events : List LogEvent} (h : ∀ e ∈ events, e.id ≤ start) : since start events = [] :=
  List.filter_eq_nil_iff.2 fun e he => by simpa using h e he

/-- The events that are in the table: those of the last poll and the new ones. -/
theorem Inv.log_eq (hs : Inv ts eventRowLimit s) :
    s.log = (s.logged.take s.polled).drop s.cleared ++ s.logged.drop (max s.cleared s.polled) := by
  rw [hs.log]
  conv_lhs => rw [← List.take_append_drop s.polled s.logged]
  rw [List.drop_append, List.drop_drop, List.length_take, min_eq_left hs.polled]
  congr 2
  omega

/-- A poll behind another one finds what is new. -/
theorem Inv.rows_later (hs : Inv ts eventRowLimit s) (hG : SoundPoll ts eventRowLimit s currentTime) (hlast : s.lastEventTime ≠ [])
    (h : events ts eventRowLimit s.log s.lastEventTime = some rows) : rows = s.logged.drop (max s.cleared s.polled) := by
  rw [events, if_pos hlast, Option.some.injEq, hs.log_eq, List.filter_append] at h
  have hold : ((s.logged.take s.polled).drop s.cleared).filter (fun e => ts.parse s.lastEventTime < e.timestamp) = [] :=
    List.filter_eq_nil_iff.2 fun e he => by simpa using hs.time hlast e he
  have hnew : (s.logged.drop (max s.cleared s.polled)).filter (fun e => ts.parse s.lastEventTime < e.timestamp) =
      s.logged.drop (max s.cleared s.polled) := by
    refine List.filter_eq_self.2 fun e he => decide_eq_true (hG.found hlast e ?_ ?_)
    · exact (List.drop_suffix_drop_left s.logged (le_max_right _ _)).subset he
    · rw [hs.log]
      exact (List.drop_suffix_drop_left s.logged (le_max_left _ _)).subset he
  rw [← h, hold, hnew, List.nil_append]

/-- A poll that starts over finds the newest ones. -/
theorem rows_start (hlast : s.lastEventTime = []) (h : events ts eventRowLimit s.log s.lastEventTime = some rows) :
    rows = s.log.drop (s.log.length - eventRowLimit) ∧ eventRowLimit ≤ 2147483647 := by
  rw [events, if_neg (not_not_intro hlast)] at h
  split at h
  · exact ⟨(Option.some.inj h).symm, ‹_›⟩
  · exact absurd h (by simp)

/-- The rows are the last events. -/
theorem Inv.rows_suffix (hs : Inv ts eventRowLimit s) (hG : SoundPoll ts eventRowLimit s currentTime)
    (h : events ts eventRowLimit s.log s.lastEventTime = some rows) : rows <:+ s.logged := by
  by_cases hlast : s.lastEventTime = []
  · obtain ⟨rfl, -⟩ := rows_start hlast h
    rw [hs.log]
    exact (List.drop_suffix _ _).trans (List.drop_suffix _ _)
  · rw [hs.rows_later hG hlast h]
    exact List.drop_suffix _ _

/-- The rows go on where a buffer ends. -/
theorem Inv.append_suffix (hs : Inv ts eventRowLimit s) (hG : SoundPoll ts eventRowLimit s currentTime)
    (h : events ts eventRowLimit s.log s.lastEventTime = some rows) {buffer : List LogEvent}
    (hbuffer : buffer <:+ s.logged.take s.polled) (hbehind : s.polled < s.cleared → buffer = [])
    (hstart : s.lastEventTime = [] → s.log ≠ [] → buffer = []) : buffer ++ rows <:+ s.logged := by
  have hrows := hs.rows_suffix hG h
  by_cases hnil : buffer = []
  · rwa [hnil, List.nil_append]
  have hcleared : s.cleared ≤ s.polled := not_lt.1 fun hlt => hnil (hbehind hlt)
  -- the rows are what has come since the last poll
  have hdrop : rows = s.logged.drop s.polled := by
    by_cases hlast : s.lastEventTime = []
    · have hlog : s.log = [] := by_contra fun hlog => hnil (hstart hlast hlog)
      obtain ⟨rfl, -⟩ := rows_start hlast h
      have hall : s.logged.length ≤ s.cleared := by rwa [hs.log, List.drop_eq_nil_iff] at hlog
      rw [hlog, List.drop_nil, List.drop_eq_nil_of_le (hall.trans hcleared)]
    · rw [hs.rows_later hG hlast h, max_eq_right hcleared]
  obtain ⟨before, hbefore⟩ := hbuffer
  refine ⟨before, ?_⟩
  rw [hdrop, ← List.append_assoc, hbefore, List.take_append_drop]

/-- The rows fill the list. -/
theorem Inv.enough (hs : Inv ts eventRowLimit s) (hG : SoundPoll ts eventRowLimit s currentTime)
    (h : events ts eventRowLimit s.log s.lastEventTime = some rows) {full next : List LogEvent}
    (hb : Buffers ts eventRowLimit s full next) :
    min (s.logged.length - s.cleared) eventRowLimit ≤ (full ++ rows).length := by
  rw [List.length_append]
  by_cases hlast : s.lastEventTime = []
  · obtain ⟨rfl, -⟩ := rows_start hlast h
    have hlog : s.log.length = s.logged.length - s.cleared := by rw [hs.log, List.length_drop]
    rw [List.length_drop]
    omega
  · have hfull := hb.enough (hs.found hlast).1
    rw [hs.rows_later hG hlast h, List.length_drop]
    have := hs.polled
    omega

theorem since_suffix (start : Nat) {log : List LogEvent} (hids : log.Pairwise fun e e' => e.id < e'.id) :
    since start log <:+ log := by
  induction log with
  | nil => exact List.suffix_refl _
  | cons e log ih =>
    obtain ⟨he, hlog⟩ := List.pairwise_cons.1 hids
    by_cases hstart : start < e.id
    · have hall : since start (e :: log) = e :: log := by
        refine List.filter_eq_self.2 fun e' he' => decide_eq_true ?_
        rcases List.mem_cons.1 he' with rfl | he'
        · exact hstart
        · exact hstart.trans (he e' he')
      rw [hall]
    · have hskip : since start (e :: log) = since start log := List.filter_cons_of_neg (by simpa using hstart)
      rw [hskip]
      exact (ih hlog).trans (List.suffix_cons e log)

/-- The newest events have all that have come behind `start`, if those are few. -/
theorem since_drop (start : Nat) {log : List LogEvent} {limit : Nat} (hids : log.Pairwise fun e e' => e.id < e'.id)
    (hlen : (since start log).length ≤ limit) : since start (log.drop (log.length - limit)) = since start log := by
  have hdrop : log.drop (log.length - limit) <:+ log := List.drop_suffix _ _
  have hsub : since start log <:+ log.drop (log.length - limit) := by
    refine List.suffix_of_suffix_length_le (since_suffix start hids) hdrop ?_
    have := (since_suffix start hids).length_le
    rw [List.length_drop]
    omega
  have htwice : since start (since start log) = since start log := by simp [since]
  have hle := (hsub.filter fun e => start < e.id).length_le
  rw [← since, ← since, htwice] at hle
  exact (hdrop.filter _).eq_of_length_le hle

/-- What a session waits for is in the rows. -/
theorem Inv.since_logged (hs : Inv ts eventRowLimit s) (hG : SoundPoll ts eventRowLimit s currentTime)
    (h : events ts eventRowLimit s.log s.lastEventTime = some rows) {c : Connection} (hc : c ∈ s.connections) {r : Received}
    (hr : r ∈ c.received) :
    since r.start s.logged = since r.start (s.logged.take s.polled) ++ since r.start rows := by
  have hsent := hs.sent c hc
  rw [← hG.sent c hc] at hr
  -- nothing between the last poll and a clear behind it
  have hcleared : since r.start (s.logged.take (max s.cleared s.polled)) = since r.start (s.logged.take s.polled) := by
    rcases lt_or_ge s.polled s.cleared with hlt | hge
    · rw [max_eq_left hlt.le, hsent.behind hlt r hr]
    · rw [max_eq_right hge]
  by_cases hlast : s.lastEventTime = []
  · obtain ⟨hrows, -⟩ := rows_start hlast h
    have hlog : since r.start rows = since r.start s.log := by
      by_cases hnil : s.log = []
      · rw [hrows, hnil, List.drop_nil]
      · have hids : s.log.Pairwise fun e e' => e.id < e'.id := by
          rw [hs.log]
          exact hs.ids.sublist (List.drop_sublist _ _)
        rw [hrows]
        exact since_drop r.start hids ((hG.start hlast hnil).2 c hc r ((hG.sent c hc) ▸ hr))
    have hold : since r.start (s.logged.take s.cleared) = [] := by
      have hnone := hsent.start hlast r hr
      rw [← hcleared] at hnone
      refine List.filter_eq_nil_iff.2 fun e he => List.filter_eq_nil_iff.1 hnone e ?_
      exact (List.take_prefix_take_left (le_max_left _ _)).subset he
    rw [hsent.start hlast r hr, hlog, hs.log, List.nil_append]
    conv_lhs => rw [← List.take_append_drop s.cleared s.logged, since_append, hold, List.nil_append]
  · rw [hs.rows_later hG hlast h, ← hcleared, ← since_append, List.take_append_drop]

/-! ### A poll -/

/-- What new events change. -/
theorem store_eq (eventRowLimit : Nat) (s : State) (events : Str) (count : Nat) : ∃ full next fullCount nextCount,
    s.store eventRowLimit events count =
      { s with
        eventsJSON := full
        eventsUpdatesJSON := events
        eventsNextFullJSON := next
        eventsFullCount := fullCount
        eventsNextFullCount := nextCount } := by
  by_cases hexch : eventRowLimit * 2 % 2 ^ 64 ≤ s.eventsFullCount
  · simp only [State.store, ge_iff_le, if_pos hexch]
    exact ⟨_, _, _, _, rfl⟩
  · simp only [State.store, ge_iff_le, if_neg hexch]
    exact ⟨_, _, _, _, rfl⟩

/-- The buffers behind new rows. -/
theorem Buffers.store {full next : List LogEvent} (hpolled : s.polled = s.logged.length)
    (hcleared : s.cleared ≤ s.logged.length) (hlast : s.lastEventTime ≠ []) (hlimit : eventRowLimit ≤ 2147483647)
    (hfullJSON : s.eventsJSON = texts ts full) (hnextJSON : s.eventsNextFullJSON = texts ts next)
    (hnil : s.eventsFullCount < eventRowLimit → next = []) (hrows : rows ≠ []) (hfull : full ++ rows <:+ s.logged)
    (hnext : next ++ rows <:+ s.logged) (henough : min (s.logged.length - s.cleared) eventRowLimit ≤ (full ++ rows).length)
    (hexchange : eventRowLimit * 2 % 2 ^ 64 ≤ s.eventsFullCount → ∃ next', s.eventsNextFullJSON = texts ts next' ∧
      next' ++ rows <:+ s.logged ∧ min (s.logged.length - s.cleared) eventRowLimit ≤ (next' ++ rows).length)
    (count : Nat) : ∃ full' next', Buffers ts eventRowLimit (s.store eventRowLimit (texts ts rows) count) full' next' := by
  have htake : s.logged.take s.polled = s.logged := by rw [hpolled, List.take_length]
  have hbehind : ¬ s.polled < s.cleared := by omega
  by_cases hexch : eventRowLimit * 2 % 2 ^ 64 ≤ s.eventsFullCount
  · obtain ⟨next', hnextJSON', hsuffix, hlen⟩ := hexchange hexch
    have hover : eventRowLimit ≤ s.eventsFullCount := by omega
    refine ⟨next' ++ rows, [], ?_⟩
    simp only [State.store, ge_iff_le, if_pos hexch, if_pos hover]
    exact
      { fullJSON := by rw [texts_join ts hrows, hnextJSON']
        nextJSON := rfl
        full_suffix := by rwa [htake]
        next_suffix := List.nil_suffix
        next_nil := fun _ => rfl
        enough := fun _ => by rwa [hpolled]
        start := fun h => absurd h hlast
        behind := fun h => absurd h hbehind }
  by_cases hover : eventRowLimit ≤ s.eventsFullCount
  · refine ⟨full ++ rows, next ++ rows, ?_⟩
    simp only [State.store, ge_iff_le, if_neg hexch, if_pos hover]
    exact
      { fullJSON := by rw [texts_join ts hrows, hfullJSON]
        nextJSON := by rw [texts_join ts hrows, hnextJSON]
        full_suffix := by rwa [htake]
        next_suffix := by rwa [htake]
        next_nil := fun h => absurd h (by simp only; omega)
        enough := fun _ => by rwa [hpolled]
        start := fun h => absurd h hlast
        behind := fun h => absurd h hbehind }
  · have hnext' : next = [] := hnil (not_le.1 hover)
    refine ⟨full ++ rows, [], ?_⟩
    simp only [State.store, ge_iff_le, if_neg hexch, if_neg hover]
    exact
      { fullJSON := by rw [texts_join ts hrows, hfullJSON]
        nextJSON := by rw [hnextJSON, hnext']
        full_suffix := by rwa [htake]
        next_suffix := List.nil_suffix
        next_nil := fun _ => rfl
        enough := fun _ => by rwa [hpolled]
        start := fun h => absurd h hlast
        behind := fun h => absurd h hbehind }

/-- An update with the rows that a session waits for. -/
theorem Received.Complete.append {r : Received} {old new : List LogEvent} (h : r.Complete ts old)
    (hnew : since r.start new = since r.start old ++ since r.start rows) :
    (r.append (texts ts rows)).Complete ts new := by
  obtain ⟨updates, hframes, hsince⟩ := h
  refine ⟨updates ++ [rows], ?_, ?_⟩
  · rw [Received.append, hframes, List.map_append, List.map_singleton]
  · rw [Received.append, List.flatten_append, List.flatten_singleton, since_append, hsince, hnew]

theorem Received.Complete.congr {r : Received} {old new : List LogEvent} (h : r.Complete ts old)
    (hnew : since r.start new = since r.start old) : r.Complete ts new := by
  obtain ⟨updates, hframes, hsince⟩ := h
  exact ⟨updates, hframes, by rw [hsince, hnew]⟩

/-- A session behind a poll: it is the same if it waits for its full list, and else it has received what it is to be sent. -/
theorem Inv.sent_poll (hs : Inv ts eventRowLimit s) {c : Connection} (hc : c ∈ s.connections)
    (hlt : s.lastPluginsUpdateTimeMS < t.lastPluginsUpdateTimeMS)
    (h : c.sendFullTelemetry = false → Sent ts t ⟨false, t.lastPluginsUpdateTimeMS, t.updates c⟩) : Sent ts t (t.update c) := by
  have hsent := hs.sent c hc
  cases hfull : c.sendFullTelemetry with
  | true =>
    have hnone := hsent.full ((update_sendFullTelemetry s c).trans hfull)
    rw [update_full hfull] at hnone ⊢
    exact ⟨fun _ => hnone, fun h => absurd (hfull.symm.trans h) (by simp), by simp [hnone], by simp [hnone], by simp [hnone]⟩
  | false =>
    rw [update_poll hsent hlt hfull]
    exact h hfull

/-- A poll that fails. -/
theorem Inv.poll_none (hs : Inv ts eventRowLimit s) (hG : SoundPoll ts eventRowLimit s currentTime)
    (h : events ts eventRowLimit s.log s.lastEventTime = none) :
    Inv ts eventRowLimit { s with haveEvents := false, lastPluginsUpdateTimeMS := currentTime } := by
  have hlast : s.lastEventTime = [] := by
    by_contra hlast
    rw [events, if_pos hlast] at h
    exact absurd h (by simp)
  obtain ⟨full, next, hb⟩ := hs.buffers
  exact
    { hs with
      buffers := ⟨full, next, { hb with enough := fun h => absurd h (by simp) }⟩
      found := fun h => absurd hlast h
      sent := fun c hc => hs.sent_poll hc hG.later fun _ => by
        have hsent := hs.sent c hc
        rw [State.updates, if_neg (by simp), ← hG.sent c hc]
        exact ⟨by simp, fun _ => le_rfl, hsent.complete, hsent.start, hsent.behind⟩ }

/-- A poll without new events. -/
theorem Inv.poll_nil (hs : Inv ts eventRowLimit s) (hG : SoundPoll ts eventRowLimit s currentTime)
    (h : events ts eventRowLimit s.log s.lastEventTime = some []) :
    Inv ts eventRowLimit
      { s with
        haveEvents := true
        polled := s.logged.length
        eventsUpdatesJSON := []
        lastPluginsUpdateTimeMS := currentTime } := by
  have hbehind : ¬ s.logged.length < s.cleared := not_lt.2 hs.cleared
  obtain ⟨full, next, hb⟩ := hs.buffers
  have hfull := hs.append_suffix hG h hb.full_suffix (fun hlt => (hb.behind hlt).1) fun hlast _ => hb.start hlast
  have hnext := hs.append_suffix hG h hb.next_suffix (fun hlt => (hb.behind hlt).2) fun hlast hlog =>
    texts_eq_nil.1 (hb.nextJSON.symm.trans (hG.start hlast hlog).1)
  have henough := hs.enough hG h hb
  rw [List.append_nil] at hfull hnext henough
  have hbuffers : Buffers ts eventRowLimit
      { s with
        haveEvents := true
        polled := s.logged.length
        eventsUpdatesJSON := []
        lastPluginsUpdateTimeMS := currentTime } full next :=
    { hb with
      full_suffix := by rwa [List.take_length]
      next_suffix := by rwa [List.take_length]
      enough := fun _ => henough
      behind := fun h => absurd h hbehind }
  have hsince : ∀ c ∈ s.connections, ∀ r ∈ c.received,
      since r.start (s.logged.take s.logged.length) = since r.start (s.logged.take s.polled) := by
    intro c hc r hr
    have := hs.since_logged hG h hc hr
    rw [List.take_length]
    rwa [show since r.start [] = [] from rfl, List.append_nil] at this
  exact
    { hs with
      polled := le_rfl
      buffers := ⟨full, next, hbuffers⟩
      found := fun hlast => ⟨rfl, (hs.found hlast).2⟩
      time := by
        intro hlast e he
        have hnone := hs.rows_later hG hlast h
        have hlog := hs.log_eq
        rw [← hnone, List.append_nil, hs.log] at hlog
        rw [List.take_length, hlog] at he
        exact hs.time hlast e he
      sent := fun c hc => hs.sent_poll hc hG.later fun _ => by
        have hsent := hs.sent c hc
        have hcomplete := hsent.complete
        have hstart := hsent.start
        rw [hG.sent c hc] at hcomplete hstart
        rw [State.updates, if_neg (by simp)]
        exact ⟨by simp, fun _ => le_rfl, fun r hr => (hcomplete r hr).congr (hsince c hc r hr),
          fun hlast r hr => (hsince c hc r hr).trans (hstart hlast r hr), fun h => absurd h hbehind⟩ }

/-- A poll with new events, which each session is to be sent. -/
theorem Inv.poll_rows (hs : Inv ts eventRowLimit s) (hG : SoundPoll ts eventRowLimit s currentTime) {e : LogEvent}
    (h : events ts eventRowLimit s.log s.lastEventTime = some (rows ++ [e])) (count : Nat) :
    Inv ts eventRowLimit
      { { s with haveEvents := true, polled := s.logged.length, lastEventTime := ts.stamp e.timestamp }.store eventRowLimit
          (texts ts (rows ++ [e])) count with lastPluginsUpdateTimeMS := currentTime } := by
  have hne : rows ++ [e] ≠ [] := by simp
  have hbehind : ¬ s.logged.length < s.cleared := not_lt.2 hs.cleared
  have hlast := ts.stamp_ne_nil e.timestamp
  have hlimit : eventRowLimit ≤ 2147483647 := by
    by_cases hlast : s.lastEventTime = []
    · exact (rows_start hlast h).2
    · exact (hs.found hlast).2
  -- the last row is the last event of all
  have htime : ∀ e' ∈ s.logged, e'.timestamp ≤ e.timestamp := by
    obtain ⟨before, hbefore⟩ := hs.rows_suffix hG h
    have htimes := hs.times
    rw [← hbefore, ← List.append_assoc, List.pairwise_append] at htimes
    intro e' he'
    rw [← hbefore, ← List.append_assoc] at he'
    rcases List.mem_append.1 he' with he' | he'
    · exact htimes.2.2 e' he' e (List.mem_singleton_self e)
    · exact (List.mem_singleton.1 he') ▸ le_rfl
  obtain ⟨full, next, hb⟩ := hs.buffers
  have happend : ∀ buffer, s.eventsNextFullJSON = texts ts buffer → buffer <:+ s.logged.take s.polled →
      buffer ++ (rows ++ [e]) <:+ s.logged := fun buffer hbuffer hsuffix =>
    hs.append_suffix hG h hsuffix
      (fun hlt => texts_eq_nil.1 (hbuffer.symm.trans (hb.nextJSON.trans (by rw [(hb.behind hlt).2]; rfl))))
      fun hlast hlog => texts_eq_nil.1 (hbuffer.symm.trans (hG.start hlast hlog).1)
  have hfull := hs.append_suffix hG h hb.full_suffix (fun hlt => (hb.behind hlt).1) fun hlast _ => hb.start hlast
  obtain ⟨full', next', hb'⟩ := Buffers.store
    (s := { s with haveEvents := true, polled := s.logged.length, lastEventTime := ts.stamp e.timestamp }) rfl hs.cleared
    hlast hlimit hb.fullJSON hb.nextJSON hb.next_nil hne hfull (happend next hb.nextJSON hb.next_suffix)
    (hs.enough hG h hb)
    (fun hexch => by
      obtain ⟨buffer, hbuffer, hsuffix, hlen⟩ := hG.exchange hexch _ hne h
      exact ⟨buffer, hbuffer, happend buffer hbuffer hsuffix, hlen⟩) count
  obtain ⟨fullJSON, nextJSON, fullCount, nextCount, hstore⟩ := store_eq eventRowLimit
    { s with haveEvents := true, polled := s.logged.length, lastEventTime := ts.stamp e.timestamp }
    (texts ts (rows ++ [e])) count
  rw [hstore] at hb' ⊢
  exact
    { hs with
      polled := le_rfl
      buffers := ⟨full', next', { hb' with }⟩
      found := fun _ => ⟨rfl, hlimit⟩
      time := by
        intro _ e' he'
        rw [ts.parse_stamp]
        exact htime e' (List.mem_of_mem_take (List.mem_of_mem_drop he'))
      sent := fun c hc => hs.sent_poll hc hG.later fun _ => by
        have hcomplete := (hs.sent c hc).complete
        rw [hG.sent c hc] at hcomplete
        rw [State.updates, if_pos ⟨rfl, fun hnil => hne (texts_eq_nil.1 hnil)⟩]
        refine ⟨by simp, fun _ => le_rfl, fun r' hr' => ?_, fun h => absurd h hlast, fun h => absurd h hbehind⟩
        obtain ⟨r, hr, rfl⟩ := Option.mem_map.1 hr'
        rw [List.take_length]
        exact (hcomplete r hr).append (hs.since_logged hG h hc hr) }

theorem Inv.poll (hs : Inv ts eventRowLimit s) (hG : SoundPoll ts eventRowLimit s currentTime) :
    Inv ts eventRowLimit { s.GetEventTelemetry ts eventRowLimit with lastPluginsUpdateTimeMS := currentTime } := by
  cases hrows : events ts eventRowLimit s.log s.lastEventTime with
  | none =>
    rw [State.GetEventTelemetry_none hrows]
    exact hs.poll_none hG hrows
  | some rows =>
    rcases List.eq_nil_or_concat rows with rfl | ⟨rows, e, rfl⟩
    · rw [State.GetEventTelemetry_nil hrows]
      exact hs.poll_nil hG hrows
    · rw [List.concat_eq_append] at hrows
      rw [State.GetEventTelemetry_rows hrows]
      exact hs.poll_rows hG hrows _

/-! ### Every run -/

theorem inv_init : Inv ts eventRowLimit State.init where
  ids := List.Pairwise.nil
  times := List.Pairwise.nil
  log := rfl
  polled := le_rfl
  cleared := le_rfl
  buffers := ⟨[], [],
    { fullJSON := rfl
      nextJSON := rfl
      full_suffix := List.nil_suffix
      next_suffix := List.nil_suffix
      next_nil := fun _ => rfl
      enough := fun h => absurd h (by simp [State.init])
      start := fun _ => rfl
      behind := fun h => absurd h (by simp [State.init]) }⟩
  found := fun h => absurd rfl h
  time := fun h => absurd rfl h
  sent := fun _ hc => absurd hc List.not_mem_nil

/-- A new event is behind all that the buffers and the sessions have. -/
theorem Inv.insert (hs : Inv ts eventRowLimit s) {e : LogEvent}
    (he : ∀ e' ∈ s.logged, e'.id < e.id ∧ e'.timestamp ≤ e.timestamp) :
    Inv ts eventRowLimit { s with log := s.log ++ [e], logged := s.logged ++ [e] } := by
  have hpolled : (s.logged ++ [e]).take s.polled = s.logged.take s.polled := List.take_append_of_le_length hs.polled
  have hcleared : (s.logged ++ [e]).take s.cleared = s.logged.take s.cleared := List.take_append_of_le_length hs.cleared
  have hlength : s.logged.length ≤ (s.logged ++ [e]).length := by simp
  obtain ⟨full, next, hb⟩ := hs.buffers
  exact
    { hs with
      ids := List.pairwise_append.2 ⟨hs.ids, List.pairwise_singleton _ _, by simpa using fun e' he' => (he e' he').1⟩
      times := List.pairwise_append.2 ⟨hs.times, List.pairwise_singleton _ _, by simpa using fun e' he' => (he e' he').2⟩
      log := by
        rw [List.drop_append_of_le_length hs.cleared, hs.log]
      polled := hs.polled.trans hlength
      cleared := hs.cleared.trans hlength
      buffers := ⟨full, next,
        { hb with
          full_suffix := by rw [hpolled]; exact hb.full_suffix
          next_suffix := by rw [hpolled]; exact hb.next_suffix }⟩
      time := by
        rw [hpolled]
        exact hs.time
      sent := fun c hc =>
        { hs.sent c hc with
          complete := by rw [hpolled]; exact (hs.sent c hc).complete
          start := by rw [hpolled]; exact (hs.sent c hc).start
          behind := by rw [hpolled, hcleared]; exact (hs.sent c hc).behind } }

/-- A clear leaves nothing to be found, and nothing that a session waits for is lost. -/
theorem Inv.clearlog (hs : Inv ts eventRowLimit s)
    (hsent : s.Sent) (hG : s.polled < s.logged.length → s.eventsNextFullJSON = [] ∧ s.Served) :
    Inv ts eventRowLimit
      { s with log := [], eventsJSON := [], eventsUpdatesJSON := [], cleared := s.logged.length } := by
  obtain ⟨full, next, hb⟩ := hs.buffers
  exact
    { hs with
      log := List.drop_length.symm
      cleared := le_rfl
      buffers := ⟨[], next,
        { hb with
          fullJSON := rfl
          full_suffix := List.nil_suffix
          enough := fun _ => by simp only [List.length_nil]; have := hs.polled; omega
          start := fun _ => rfl
          behind := fun hlt => ⟨rfl, texts_eq_nil.1 (hb.nextJSON.symm.trans (hG hlt).1)⟩ }⟩
      time := by
        intro _ e he
        rw [List.drop_eq_nil_of_le (List.length_take_le' _ _)] at he
        exact absurd he List.not_mem_nil
      sent := fun c hc => by
        have hsame : State.update { s with
            log := [], eventsJSON := [], eventsUpdatesJSON := [], cleared := s.logged.length } c = s.update c :=
          update_eq (hsent c hc) rfl (by simp)
        rw [hsame]
        exact { hs.sent c hc with
          behind := by
            intro hlt r hr
            have hnone := (hG hlt).2 c hc r (hsent c hc ▸ hr)
            conv_lhs => rw [List.take_length, ← List.take_append_drop s.polled s.logged, since_append, hnone]
            rw [List.append_nil] } }

/-- The full list of a session is behind all events. -/
theorem Inv.full (hs : Inv ts eventRowLimit s) {c : Connection} (hc : c ∈ s.connections)
    (hsend : c.sendFullTelemetry = true) : Sent ts s (s.full c) := by
  have hlastId : ∀ e ∈ s.logged, e.id ≤ lastId s.logged := by
    intro e he
    rcases List.eq_nil_or_concat s.logged with hnil | ⟨logged, last, hlogged⟩
    · exact absurd he (hnil ▸ List.not_mem_nil)
    · have hids := hs.ids
      rw [List.concat_eq_append] at hlogged
      rw [hlogged] at he hids ⊢
      rw [lastId, List.getLast?_concat]
      rcases List.mem_append.1 he with he | he
      · exact ((List.pairwise_append.1 hids).2.2 e he last (List.mem_singleton_self _)).le
      · exact (List.mem_singleton.1 he) ▸ le_rfl
  have hnone : ∀ n, since (lastId s.logged) (s.logged.take n) = [] := fun n =>
    since_eq_nil fun e he => hlastId e (List.mem_of_mem_take he)
  have hreceived : c.received = none := by
    have hreceived := (hs.sent c hc).full ((update_sendFullTelemetry s c).trans hsend)
    rwa [update_full hsend] at hreceived
  refine ⟨fun h => absurd h (by simp [State.full]), fun _ => le_rfl, fun r hr => ?_, fun _ r hr => ?_, fun _ r hr => ?_⟩
  all_goals
    rw [State.full, hreceived] at hr
    dsimp only at hr
    split at hr
    case isFalse => exact absurd hr (by simp)
    obtain rfl := Option.some.inj hr
  · exact ⟨[], rfl, (hnone s.polled).symm⟩
  · exact hnone s.polled
  · exact (hnone s.cleared).trans (hnone s.polled).symm

/-- A session that is serviced has its full list, or the update that it waited for. -/
theorem Inv.service (hs : Inv ts eventRowLimit s) {k : Nat} {c : Connection} (hc : c ∈ s.connections) :
    Inv ts eventRowLimit (s.service k c) := by
  obtain ⟨full, next, hb⟩ := hs.buffers
  refine { hs with buffers := ⟨full, next, { hb with }⟩, sent := fun c' hc' => ?_ }
  rcases List.mem_or_eq_of_mem_set hc' with hc' | rfl
  · exact { hs.sent c' hc' with }
  cases hsend : c.sendFullTelemetry with
  | true =>
    have hsame : s.update (s.full c) = s.full c := update_of_le fun _ => le_rfl
    show Sent ts _ (s.update (s.full c))
    rw [hsame]
    exact { hs.full hc hsend with }
  | false =>
    show Sent ts _ (s.update (s.update c))
    rw [update_update]
    exact { hs.sent c hc with }

theorem Inv.close (hs : Inv ts eventRowLimit s) (k : Nat) : Inv ts eventRowLimit (s.close k) := by
  obtain ⟨full, next, hb⟩ := hs.buffers
  by_cases hnil : s.connections.eraseIdx k = []
  · rw [State.close, if_pos hnil]
    exact
      { hs with
        buffers := ⟨[], next,
          { hb with
            fullJSON := rfl
            full_suffix := List.nil_suffix
            enough := fun h => absurd h (by simp)
            start := fun _ => rfl
            behind := fun hlt => ⟨rfl, (hb.behind hlt).2⟩ }⟩
        found := fun h => absurd rfl h
        time := fun h => absurd rfl h
        sent := fun c hc => absurd (hnil ▸ hc) List.not_mem_nil }
  · rw [State.close, if_neg hnil]
    exact
      { hs with
        buffers := ⟨full, next, { hb with }⟩
        sent := fun c hc => { hs.sent c (List.mem_of_mem_eraseIdx hc) with } }

theorem Inv.established (hs : Inv ts eventRowLimit s) :
    Inv ts eventRowLimit { s with connections := s.connections ++ [⟨true, currentTime, none⟩] } := by
  obtain ⟨full, next, hb⟩ := hs.buffers
  refine { hs with buffers := ⟨full, next, { hb with }⟩, sent := fun c hc => ?_ }
  rcases List.mem_append.1 hc with hc | hc
  · exact { hs.sent c hc with }
  · obtain rfl := List.mem_singleton.1 hc
    rw [update_full rfl]
    exact ⟨fun _ => rfl, by simp, by simp, by simp, by simp⟩

theorem Inv.step (hs : Inv ts eventRowLimit s) {e : Event} (hG : Sound ts eventRowLimit s e)
    (h : s.step ts eventRowLimit updateIntervalMS e = some t) : Inv ts eventRowLimit t := by
  cases e with
  | insert e =>
    obtain ⟨he, ht⟩ := Option.ite_none_right_eq_some.1 h
    obtain rfl := Option.some.inj ht
    exact hs.insert he.1
  | GetEventTelemetry currentTime =>
    obtain ⟨-, ht⟩ := Option.ite_none_right_eq_some.1 h
    obtain rfl := Option.some.inj ht
    exact hs.poll hG
  | clearlog =>
    obtain rfl := Option.some.inj h
    exact hs.clearlog hG.1 hG.2
  | established currentTime =>
    obtain rfl := Option.some.inj h
    exact hs.established
  | serviced k =>
    obtain ⟨c, hc, rfl⟩ := Option.map_eq_some_iff.1 h
    exact hs.service (List.mem_of_getElem? hc)
  | closed k =>
    obtain ⟨-, ht⟩ := Option.ite_none_right_eq_some.1 h
    obtain rfl := Option.some.inj ht
    exact hs.close k

theorem Inv.delivered (hs : Inv ts eventRowLimit s) : Delivered ts eventRowLimit s where
  sessions c hc := (hs.sent c hc).complete
  full hhave := by
    obtain ⟨full, next, hb⟩ := hs.buffers
    refine ⟨full, hb.fullJSON, ?_, hb.full_suffix, hb.enough hhave⟩
    rw [hb.fullJSON]
    exact value_payload full

/-- The number that digits are read as. -/
def number (digits : Str) : Nat := digits.foldl (fun n c => n * 10 + (c.toNat - 48)) 0

theorem number_decimal (n : Nat) : number (Printf.decimal n) = n := by
  induction n using Nat.strong_induction_on with
  | _ n ih =>
    rcases Nat.lt_or_ge n 10 with hlt | hge
    · rw [Printf.decimal_of_lt hlt, number, List.foldl_cons, List.foldl_nil, Printf.toNat_digit hlt]
      omega
    · rw [Printf.decimal_of_le hge, number, List.foldl_append, List.foldl_cons, List.foldl_nil,
        Printf.toNat_digit (Nat.mod_lt _ (by decide)), ← number, ih (n / 10) (by omega)]
      omega

theorem plain_minute : ∀ c ∈ CString.lit "1970-01-01 00:00:", Plain c := by
  rw [CString.lit_ofList]
  decide +kernel

/-- The times of one minute. -/
def minute : Timestamps where
  stamp t := CString.lit "1970-01-01 00:00:" ++ Printf.decimal t
  parse s := number (s.drop (CString.lit "1970-01-01 00:00:").length)
  parse_stamp t := by rw [List.drop_left, number_decimal]
  stamp_ne_nil t := by simp [CString.lit]
  plain_stamp t c hc := by
    rcases List.mem_append.1 hc with hc | hc
    · exact plain_minute c hc
    · have hall : ∀ n, 48 ≤ n → n ≤ 57 → Plain (UInt8.ofNat n) := by
        intro n hn hn'
        interval_cases n <;> decide
      obtain ⟨hlow, hhigh⟩ := Printf.mem_decimal hc
      have := hall c.toNat hlow hhigh
      rwa [UInt8.ofNat_toNat] at this

def logEvent (id timestamp : Nat) : LogEvent :=
  ⟨id, CString.lit "Info", CString.lit "MAP", CString.lit "Plugin loaded", timestamp⟩

/-- A session that was sent the empty list. -/
def waiting : State :=
  { State.init with
    haveEvents := true
    lastPluginsUpdateTimeMS := 1000
    connections := [⟨false, 1000, some ⟨0, []⟩⟩] }

theorem exec_waiting : (eventLog minute 2 1000).exec (eventLog minute 2 1000).init
    [.established 500, .GetEventTelemetry 1000, .serviced 0] = some waiting := rfl

theorem step_insert {e : LogEvent} (h : (∀ e' ∈ s.logged, e'.id < e.id ∧ e'.timestamp ≤ e.timestamp) ∧ 0 < e.id) :
    (eventLog ts eventRowLimit updateIntervalMS).step s (.insert e) =
      some { s with log := s.log ++ [e], logged := s.logged ++ [e] } := if_pos h

theorem step_poll (h : s.connections ≠ [] ∧ s.lastPluginsUpdateTimeMS + updateIntervalMS ≤ currentTime) :
    (eventLog ts eventRowLimit updateIntervalMS).step s (.GetEventTelemetry currentTime) =
      some { s.GetEventTelemetry ts eventRowLimit with lastPluginsUpdateTimeMS := currentTime } := if_pos h

/-- Behind the first poll that finds events, which the session is still to be sent. -/
def found (rows : List LogEvent) (e : LogEvent) : State :=
  { waiting with
    log := rows ++ [e]
    logged := rows ++ [e]
    polled := (rows ++ [e]).length
    lastEventTime := minute.stamp e.timestamp
    eventsJSON := texts minute (rows ++ [e])
    eventsUpdatesJSON := texts minute (rows ++ [e])
    eventsFullCount := 1 + separators (output minute (rows ++ [e]))
    lastPluginsUpdateTimeMS := 2000 }

theorem poll_waiting (rows : List LogEvent) (e : LogEvent) (h : rows.length < 2) :
    (eventLog minute 2 1000).step { waiting with log := rows ++ [e], logged := rows ++ [e] } (.GetEventTelemetry 2000) =
      some (found rows e) := by
  have hne : texts minute (rows ++ [e]) ≠ [] := fun h => by simp [texts_eq_nil] at h
  have hevents : events minute 2 (rows ++ [e]) [] = some (rows ++ [e]) := by
    simp [events, show rows.length + 1 - 2 = 0 by omega]
  rw [step_poll (by simp [waiting]), State.GetEventTelemetry_rows hevents]
  simp [State.store, found, waiting, State.init]

/-- The session is sent the events. -/
theorem serviced_found (rows : List LogEvent) (e : LogEvent) :
    (eventLog minute 2 1000).step (found rows e) (.serviced 0) =
      some { found rows e with connections := [⟨false, 2000, some ⟨0, [payload (texts minute (rows ++ [e]))]⟩⟩] } := by
  have hne : texts minute (rows ++ [e]) ≠ [] := fun h => by simp [texts_eq_nil] at h
  have hupdates : (found rows e).updates ⟨false, 1000, some ⟨0, []⟩⟩ =
      some ⟨0, [payload (texts minute (rows ++ [e]))]⟩ := if_pos ⟨rfl, hne⟩
  exact congrArg (fun received => some { found rows e with connections := [⟨false, 2000, received⟩] }) hupdates

end V2xHub.CommandPlugin.EventLog
