import V2xHub.CommandPlugin.Uploads

/-!
# Upload authorisation

`upload_authorisation` says that every step of a run is authorised if and only if no upload is opened without an entry in the
table of requests or with one that has lost its output buffer, and no session is closed while another one has a request.
Behind such steps the entries with an output buffer are the pending requests (`Inv`).
-/

namespace V2xHub.CommandPlugin.Uploads
open TmxCtl AuthorizationLevels

variable {s t : State} {h : History} {e : Event} {es : List Event} {d d' : UploadData} {name : Str} {i k len : Nat}
  {pss : Http} {args : UploadArgs} {r r' : Str → Option UploadData}

/-- The pending request that an entry is. -/
def UploadData.pending (d : UploadData) : Option Pending := d.outputbuffer.map fun i => ⟨i, d.uploading⟩

/-- The pending requests of a table. -/
def view (r : Str → Option UploadData) (name : Str) : Option Pending := (r name).bind UploadData.pending

structure Inv (s : State × History) : Prop where
  pending : s.2.pending = view s.1.uploadRequests
  denied : ∀ k, s.2.denied k = false

theorem inv_init : Inv requests.init := ⟨rfl, fun _ => rfl⟩

/-! ### Requests -/

theorem view_update (d : Option UploadData) :
    view (Function.update r name d) = Function.update (view r) name (d.bind UploadData.pending) := by
  funext n
  unfold view
  by_cases hn : n = name
  · rw [hn, Function.update_self, Function.update_self]
  · rw [Function.update_of_ne hn, Function.update_of_ne hn]

/-- An entry that stays as it is but for its text. -/
theorem view_setRequest (hd : s.uploadRequests name = some d) (hpending : d'.pending = d.pending) :
    view (s.setRequest name d').uploadRequests = view s.uploadRequests := by
  rw [State.setRequest, view_update, Option.bind_some, hpending]
  refine Function.update_eq_self_iff.2 ?_
  rw [view, hd, Option.bind_some]

theorem view_cancel (i : Nat) : view (cancel r i) = History.cancel ⟨view r, h.denied⟩ i := by
  funext name
  change (cancel r i name).bind UploadData.pending = ((r name).bind UploadData.pending).filter _
  rw [cancel]
  cases r name with
  | none => rfl
  | some d =>
    obtain ⟨requestId, outputbuffer, destination, path, fileSize, uploading, message⟩ := d
    cases outputbuffer with
    | none => simp [UploadData.pending]
    | some j => by_cases hj : j = i <;> cases uploading <;> simp [UploadData.pending, Option.filter, hj]

theorem view_release (hall : ∀ name d j, r name = some d → d.outputbuffer = some j → j = i) :
    view (release r i) = fun name => (view r name).filter fun p => p.session ≠ i := by
  funext name
  have hnone : view (release r i) name = none := by
    rw [view, release, Option.bind_map]
    cases cancel r i name with
    | none => rfl
    | some d => rfl
  rw [hnone, eq_comm, Option.filter_eq_none_iff]
  intro p hp
  obtain ⟨d, hd, hdp⟩ := Option.bind_eq_some_iff.1 hp
  obtain ⟨j, hj, rfl⟩ := Option.map_eq_some_iff.1 hdp
  simpa using hall name d j hd hj

theorem view_uploadfile (hpending : h.pending = view s.uploadRequests) :
    view (s.uploadfile i args).uploadRequests = h.request i args := by
  rw [State.uploadfile, History.request]
  split
  · exact hpending.symm
  · next name destination path size _ =>
    have hcancel : view (cancel s.uploadRequests i) = h.cancel i := by
      rw [view_cancel (h := h), ← hpending]
    dsimp only
    cases stol size with
    | none => exact hcancel
    | some fileSize =>
      refine (view_update _).trans ?_
      rw [hcancel]
      rfl

/-! ### Files -/

/-- Nothing changes about the pending requests, and only the file is touched. -/
structure Quiet (s t : State) (name : Str) : Prop where
  requests : view t.uploadRequests = view s.uploadRequests
  ops : ∀ op ∈ t.ops, op ∈ s.ops ∨ op.name = name

/-- A callback that fails with a text. -/
theorem quiet_fail (hd : s.uploadRequests name = some d) (message : String) :
    Quiet s ((s.setRequest name { d with message }).fail k pss) name :=
  ⟨view_setRequest hd rfl, fun _ hop => .inl hop⟩

theorem Quiet.trans {u : State} (hst : Quiet s t name) (htu : Quiet t u name) : Quiet s u name :=
  ⟨htu.requests.trans hst.requests, fun op hop => (htu.ops op hop).elim (hst.ops op) .inr⟩

theorem quiet_addOp (op : FileOp) (hop : op.name = name) : Quiet s (s.addOp op) name := by
  refine ⟨rfl, fun op' hmem => ?_⟩
  rcases List.mem_append.1 hmem with hold | hnew
  · exact .inl hold
  · rw [List.mem_singleton.1 hnew]
    exact .inr hop

theorem quiet_move (hd : s.uploadRequests pss.filename = some d) (result : MoveResult) :
    Quiet s (s.move k pss d result) pss.filename := by
  rw [State.move]
  by_cases hcopied : result.copied
  · by_cases hremoved : result.removed
    · rw [if_neg (not_not.2 hcopied), if_neg (not_not.2 hremoved)]
      exact ⟨rfl, fun _ hop => .inl hop⟩
    · rw [if_neg (not_not.2 hcopied), if_pos hremoved]
      exact quiet_fail hd _
  · rw [if_pos hcopied]
    exact quiet_fail hd _

theorem quiet_finish (hd : s.uploadRequests pss.filename = some d) (result : MoveResult) :
    Quiet s (s.finish k pss d result) pss.filename := by
  rw [State.finish]
  split_ifs
  · exact quiet_fail hd _
  · refine Quiet.trans (t := s.addOp (.copied pss.filename)) (quiet_addOp _ rfl) ?_
    have hd' : (s.addOp (.copied pss.filename)).uploadRequests pss.filename = some d := hd
    exact quiet_move hd' result
  · exact ⟨rfl, fun _ hop => .inl hop⟩

theorem quiet_advance (hd : s.uploadRequests pss.filename = some d) (final : Option MoveResult) :
    Quiet s (s.advance k pss d final) pss.filename := by
  cases final with
  | none => exact ⟨rfl, fun _ hop => .inl hop⟩
  | some result => exact quiet_finish hd result

theorem quiet_content (final : Option MoveResult) (hops : s.ops = []) :
    view (s.content k pss len final).uploadRequests = view s.uploadRequests ∧
      ∀ op ∈ (s.content k pss len final).ops, (view s.uploadRequests op.name).isSome := by
  have hnew : ∀ {t}, Quiet s t pss.filename → (view s.uploadRequests pss.filename).isSome →
      view t.uploadRequests = view s.uploadRequests ∧ ∀ op ∈ t.ops, (view s.uploadRequests op.name).isSome := by
    intro t hquiet hsome
    refine ⟨hquiet.requests, fun op hop => ?_⟩
    rcases hquiet.ops op hop with hold | hname
    · rw [hops] at hold
      exact absurd hold List.not_mem_nil
    · rwa [hname]
  rw [State.content]
  cases hd : s.uploadRequests pss.filename with
  | none =>
    refine ⟨?_, fun op hop => ?_⟩
    · refine (view_update _).trans (Function.update_eq_self_iff.2 ?_)
      rw [view, hd]
      rfl
    · have hop : op ∈ s.ops := hop
      rw [hops] at hop
      exact absurd hop List.not_mem_nil
  | some d =>
    rw [Option.getD_some]
    dsimp only
    split
    · next hbuffer =>
      refine ⟨?_, fun op hop => ?_⟩
      · refine view_setRequest hd ?_
        rw [UploadData.pending, UploadData.pending, hbuffer]
        rfl
      · have hop : op ∈ s.ops := hop
        rw [hops] at hop
        exact absurd hop List.not_mem_nil
    · next i hbuffer =>
      have hsome : (view s.uploadRequests pss.filename).isSome := by
        rw [view, hd, Option.bind_some, UploadData.pending, hbuffer]
        rfl
      -- the report is not about the requests
      have hreport : ∀ sent : Option Nat,
          Quiet s (sent.elim s fun n => s.report i d.requestId (.sending n)) pss.filename ∧
            (sent.elim s fun n => s.report i d.requestId (.sending n)).uploadRequests pss.filename = some d := by
        intro sent
        cases sent with
        | none => exact ⟨⟨rfl, fun _ hop => .inl hop⟩, hd⟩
        | some n => exact ⟨⟨rfl, fun _ hop => .inl hop⟩, hd⟩
      obtain ⟨hquiet, hd'⟩ := hreport (State.percent pss d len)
      generalize (State.percent pss d len).elim s (fun n => s.report i d.requestId (.sending n)) = u at hquiet hd'
      have hwritten : (u.addOp (.written pss.filename)).uploadRequests pss.filename = some d := hd'
      split_ifs
      · exact hnew (hquiet.trans (quiet_fail hd' _)) hsome
      · refine hnew (hquiet.trans (Quiet.trans (quiet_addOp (.written pss.filename) rfl) ?_)) hsome
        refine quiet_advance ?_ final
        exact hwritten
      · exact hnew (quiet_advance hd final) hsome

theorem ops_uploadfile : (s.uploadfile i args).ops = s.ops := by
  rw [State.uploadfile]
  split
  · rfl
  · next name destination path size _ =>
    dsimp only
    cases stol size with
    | none => rfl
    | some fileSize => rfl

theorem ops_drop (hops : s.ops = []) : (s.drop k pss).ops = [] := by
  rw [State.drop]
  split_ifs
  · cases s.uploadRequests pss.filename with
    | none => exact hops
    | some d =>
      obtain ⟨requestId, outputbuffer, destination, path, fileSize, uploading, message⟩ := d
      cases outputbuffer with
      | none => exact hops
      | some i => exact hops
  · exact hops

/-- The end of an upload. -/
theorem view_drop (s : State) : view (s.drop k pss).uploadRequests =
    if pss.spa then Function.update (view s.uploadRequests) pss.filename none else view s.uploadRequests := by
  rw [State.drop]
  split_ifs
  · cases hd : s.uploadRequests pss.filename with
    | none =>
      refine (Function.update_eq_self_iff.2 ?_).symm
      rw [view, hd]
      rfl
    | some d => exact view_update none
  · rfl

/-! ### Steps -/

/-- An event that is for a connection: the callback, if the connection is there and has not failed. -/
theorem exists_of_map_filter {α β : Type} {o : Option α} {p : α → Bool} {f : α → β} {b : β}
    (hsome : (o.filter p).map f = some b) : ∃ a, o = some a ∧ b = f a := by
  obtain ⟨a, ha, rfl⟩ := Option.map_eq_some_iff.1 hsome
  exact ⟨a, (Option.filter_eq_some_iff.1 ha).1, rfl⟩

/-- A step that leaves the pending requests alone and touches only files with one. -/
theorem Inv.authorised {s t : State × History} (hinv : Inv s)
    (hops : ∀ op ∈ t.1.ops, (view s.1.uploadRequests op.name).isSome) (hdenied : ¬ Denied s e)
    (hclosed : ∀ i, e ≠ .closed i) : Authorised s e t where
  files := by rwa [hinv.pending]
  denied h := absurd h hdenied
  closed i h := absurd h (hclosed i)

theorem view_release_iff {t : State} (ht : t.uploadRequests = release r i) :
    (∀ name d j, r name = some d → d.outputbuffer = some j → j ≠ i → t.uploadRequests name = some d) ↔
      ∀ name d j, r name = some d → d.outputbuffer = some j → j = i := by
  constructor
  · intro hkept name d j hd hj
    by_contra hne
    have hsame := hkept name d j hd hj hne
    rw [ht, release] at hsame
    obtain ⟨d', -, rfl⟩ := Option.map_eq_some_iff.1 hsame
    exact nomatch hj
  · exact fun hall name d j hd hj hne => absurd (hall name d j hd hj) hne

/-- A denial leaves an entry. -/
theorem openFile_none {filename : Str} (result : OpenResult) (hd : s.uploadRequests (filename.take 63) = none) :
    (s.openFile k pss filename result).uploadRequests ≠ s.uploadRequests := by
  intro hsame
  have hentry := congrFun hsame (filename.take 63)
  rw [State.openFile, hd] at hentry
  exact nomatch (Function.update_self _ _ _).symm.trans hentry

theorem openFile_opened (k : Nat) (pss : Http) {filename : Str} (hd : s.uploadRequests (filename.take 63) = some d) :
    (s.openFile k pss filename .opened).uploadRequests =
        Function.update s.uploadRequests (filename.take 63) (some { d with uploading := true }) ∧
      (s.openFile k pss filename .opened).ops = s.ops ++ [.opened (filename.take 63)] := by
  rw [State.openFile, hd]
  exact ⟨rfl, rfl⟩

/-- A file that is not opened. -/
theorem openFile_failed (k : Nat) (pss : Http) {filename : Str} {result : OpenResult} (hd : s.uploadRequests (filename.take 63) = some d)
    (hresult : result ≠ .opened) : Quiet s (s.openFile k pss filename result) (filename.take 63) ∧
      (s.openFile k pss filename result).ops = s.ops := by
  rw [State.openFile, hd]
  cases result with
  | noFolder => exact ⟨quiet_fail hd _, rfl⟩
  | noFile => exact ⟨quiet_fail hd _, rfl⟩
  | opened => exact absurd rfl hresult

theorem openFile_iff {filename : Str} {result : OpenResult} {s t : State × History} (hinv : Inv s)
    (ht : t.1 = s.1.clearOps.openFile k pss filename result) :
    Authorised s (.openFile k filename result) t ↔ Sound s (.openFile k filename result) := by
  cases hd : s.1.uploadRequests (filename.take 63) with
  | none =>
    refine iff_of_false (fun hauthorised => ?_) fun ⟨d, hsome, _⟩ => nomatch hd.symm.trans hsome
    have hsame := hauthorised.denied (.inl hd)
    rw [ht] at hsame
    exact openFile_none (s := s.1.clearOps) result hd hsame
  | some d =>
    have hview : view s.1.uploadRequests (filename.take 63) = d.pending := by rw [view, hd, Option.bind_some]
    have hsound : Sound s (.openFile k filename result) ↔ (result = .opened → d.outputbuffer.isSome) := by
      constructor
      · rintro ⟨d', hd', hbuffer⟩
        obtain rfl := Option.some.inj (hd.symm.trans hd')
        exact hbuffer
      · exact fun hbuffer => ⟨d, hd, hbuffer⟩
    have hdenied : ¬ Denied s (.openFile k filename result) := by
      rintro (hnone | hold)
      · exact nomatch hd.symm.trans hnone
      · exact nomatch (hinv.denied k).symm.trans hold
    rw [hsound]
    by_cases hresult : result = .opened
    · subst hresult
      have hops : t.1.ops = [.opened (filename.take 63)] := ht ▸ (openFile_opened (s := s.1.clearOps) k pss hd).2
      constructor
      · intro hauthorised _
        have hpending := hauthorised.files (.opened (filename.take 63)) (hops ▸ List.mem_singleton_self _)
        rw [hinv.pending, FileOp.name, hview, UploadData.pending, Option.isSome_map] at hpending
        exact hpending
      · intro hbuffer
        refine hinv.authorised (fun op hop => ?_) hdenied nofun
        rw [hops, List.mem_singleton] at hop
        rw [hop, FileOp.name, hview, UploadData.pending, Option.isSome_map]
        exact hbuffer rfl
    · obtain ⟨-, hops⟩ := openFile_failed (s := s.1.clearOps) k pss hd hresult
      refine iff_of_true (hinv.authorised (fun op hop => ?_) hdenied nofun) fun h => absurd h hresult
      rw [ht, hops] at hop
      exact absurd hop List.not_mem_nil

/-- A step is authorised exactly if it meets the condition. -/
theorem authorised_iff {s t : State × History} (hinv : Inv s) (hstep : s.1.step e = some t.1) :
    Authorised s e t ↔ Sound s e := by
  have hnone (k : Nat) : ¬ s.2.denied k = true := fun h => nomatch (hinv.denied k).symm.trans h
  have hempty (hops : t.1.ops = []) : ∀ op ∈ t.1.ops, (view s.1.uploadRequests op.name).isSome := by
    rw [hops]
    exact fun op hop => absurd hop List.not_mem_nil
  cases e with
  | established i =>
    rw [State.step] at hstep
    split_ifs at hstep
    exact iff_of_true (hinv.authorised (hempty (Option.some.inj hstep ▸ rfl)) nofun nofun) trivial
  | authorization i session =>
    rw [State.step] at hstep
    split_ifs at hstep
    exact iff_of_true (hinv.authorised (hempty (Option.some.inj hstep ▸ rfl)) nofun nofun) trivial
  | closed i =>
    rw [State.step] at hstep
    split_ifs at hstep
    have ht := Option.some.inj hstep
    have hrelease : t.1.uploadRequests = release s.1.uploadRequests i := ht ▸ rfl
    refine Iff.trans ?_ (view_release_iff hrelease)
    constructor
    · exact fun hauthorised => hauthorised.closed i rfl
    · intro hkept
      refine ⟨by rw [hinv.pending]; exact hempty (ht ▸ rfl), nofun, fun i' hi' => ?_⟩
      obtain rfl := Event.closed.inj hi'
      exact hkept
  | uploadfile i args =>
    obtain ⟨session, -, ht⟩ := Option.map_eq_some_iff.1 hstep
    refine iff_of_true (hinv.authorised (hempty ?_) nofun nofun) trivial
    rw [← ht]
    split_ifs
    · exact ops_uploadfile
    · rfl
  | connect k =>
    rw [State.step] at hstep
    split_ifs at hstep
    exact iff_of_true (hinv.authorised (hempty (Option.some.inj hstep ▸ rfl)) nofun nofun) trivial
  | body k =>
    obtain ⟨pss, -, ht⟩ := exists_of_map_filter hstep
    refine iff_of_true (hinv.authorised (hempty ?_) (hnone k) nofun) trivial
    rw [ht, State.body]
    split_ifs <;> rfl
  | openFile k filename result =>
    obtain ⟨pss, -, ht⟩ := exists_of_map_filter hstep
    exact openFile_iff hinv ht
  | content k len final =>
    obtain ⟨pss, -, ht⟩ := exists_of_map_filter hstep
    refine iff_of_true (hinv.authorised ?_ (hnone k) nofun) trivial
    rw [ht]
    exact (quiet_content final rfl).2
  | completion k =>
    obtain ⟨pss, -, ht⟩ := exists_of_map_filter hstep
    exact iff_of_true (hinv.authorised (hempty (ht ▸ rfl)) (hnone k) nofun) trivial
  | drop k =>
    obtain ⟨pss, -, ht⟩ := Option.map_eq_some_iff.1 hstep
    refine iff_of_true (hinv.authorised (hempty ?_) (hnone k) nofun) trivial
    rw [← ht]
    exact ops_drop rfl

/-- A step that meets the condition keeps the entries with an output buffer the pending requests. -/
theorem Inv.step {s t : State × History} (hinv : Inv s) (hsound : Sound s e) (hghost : requests.step s e = some t) :
    Inv t := by
  obtain ⟨t, h⟩ := t
  obtain ⟨hstep, hhistory⟩ := Machine.step_withGhost.1 hghost
  change s.1.step e = some t at hstep
  dsimp only at hstep hhistory
  subst hhistory
  have hsame (hview : view t.uploadRequests = view s.1.uploadRequests) : Inv (t, s.2) :=
    ⟨hinv.pending.trans hview.symm, hinv.denied⟩
  cases e with
  | established i =>
    rw [State.step] at hstep
    split_ifs at hstep
    exact hsame (Option.some.inj hstep ▸ rfl)
  | authorization i session =>
    rw [State.step] at hstep
    split_ifs at hstep
    exact hsame (Option.some.inj hstep ▸ rfl)
  | closed i =>
    rw [State.step] at hstep
    split_ifs at hstep
    obtain rfl := Option.some.inj hstep
    refine ⟨?_, hinv.denied⟩
    dsimp only [History.after]
    rw [hinv.pending]
    exact (view_release hsound).symm
  | uploadfile i args =>
    obtain ⟨session, hsession, ht⟩ := Option.map_eq_some_iff.1 hstep
    rw [History.after, show s.1.sessions i = some session from hsession, Option.any_some]
    split_ifs at ht with hadministrator
    · rw [if_pos hadministrator]
      subst ht
      exact ⟨(view_uploadfile (s := s.1.clearOps) hinv.pending).symm, hinv.denied⟩
    · rw [if_neg hadministrator]
      exact hsame (ht ▸ rfl)
  | connect k =>
    rw [State.step] at hstep
    split_ifs at hstep
    exact hsame (Option.some.inj hstep ▸ rfl)
  | body k =>
    obtain ⟨pss, -, ht⟩ := exists_of_map_filter hstep
    refine hsame ?_
    rw [ht, State.body]
    split_ifs <;> rfl
  | openFile k filename result =>
    obtain ⟨pss, -, ht⟩ := exists_of_map_filter hstep
    obtain ⟨d, hd, hbuffer⟩ := hsound
    have hview : s.2.pending (filename.take 63) = d.pending := by rw [hinv.pending, view, hd, Option.bind_some]
    refine ⟨?_, ?_⟩
    · dsimp only [History.after]
      by_cases hresult : result = .opened
      · obtain ⟨i, hi⟩ := Option.isSome_iff_exists.1 (hbuffer hresult)
        rw [if_pos hresult, hview, hinv.pending, ht, hresult,
          (openFile_opened (s := s.1.clearOps) k pss hd).1, view_update, Option.bind_some,
          UploadData.pending, UploadData.pending, hi]
        rfl
      · rw [if_neg hresult, ht, hinv.pending]
        exact (openFile_failed (s := s.1.clearOps) k pss hd hresult).1.requests.symm
    · intro k'
      dsimp only [History.after]
      rw [hd]
      exact hinv.denied k'
  | content k len final =>
    obtain ⟨pss, -, ht⟩ := exists_of_map_filter hstep
    refine hsame ?_
    rw [ht]
    exact (quiet_content final rfl).1
  | completion k =>
    obtain ⟨pss, -, ht⟩ := exists_of_map_filter hstep
    exact hsame (ht ▸ rfl)
  | drop k =>
    obtain ⟨pss, hpss, ht⟩ := Option.map_eq_some_iff.1 hstep
    have hpss : s.1.http k = some pss := hpss
    refine ⟨?_, fun k' => ?_⟩
    · dsimp only [History.after]
      rw [hpss, Option.any_some, Option.map_some, Option.getD_some, hinv.pending, ← ht]
      exact (view_drop s.1.clearOps).symm
    · dsimp only [History.after]
      by_cases hk : k' = k
      · rw [hk, Function.update_self]
      · rw [Function.update_of_ne hk]
        exact hinv.denied k'

theorem upload_authorisation {s : State × History} (hexec : requests.exec requests.init es = some s) :
    requests.Meets (fun s e => ∀ t, requests.step s e = some t → Authorised s e t) requests.init es ↔
      requests.Meets Sound requests.init es := by
  refine requests.meets_iff inv_init (fun s e t hinv hsound hstep => hinv.step hsound hstep) ?_ hexec
  intro s e t hinv hstep
  rw [← authorised_iff hinv (Machine.step_withGhost.1 hstep).1]
  constructor
  · exact fun h => h t hstep
  · intro hauthorised t' ht'
    obtain rfl := Option.some.inj (hstep.symm.trans ht')
    exact hauthorised

/-- An administrator asks for an upload, and it is made. -/
def oneUpload : List Event :=
  [.established 1, .authorization 1 ⟨true, 3⟩,
    .uploadfile 1 ⟨[49], some (CString.lit "a.zip"), some [], some [], some (CString.lit "100")⟩, .connect 1, .body 1,
    .openFile 1 (CString.lit "a.zip") .opened, .content 1 100 (some ⟨true, true, true⟩), .completion 1, .drop 1]

set_option maxRecDepth 4000 in
theorem upload_authorisation_made :
    requests.Meets (fun s e => ∀ t, requests.step s e = some t → Authorised s e t) requests.init oneUpload ↔
      requests.Meets Sound requests.init oneUpload := by
  have hexec : requests.exec requests.init oneUpload = some _ := rfl
  exact upload_authorisation hexec

/-- A file that nobody has asked for: the first upload is denied, the second one opens the file. -/
theorem upload_authorisation_denied : ∃ s t u : State × History,
    requests.exec requests.init [.connect 1, .body 1] = some s ∧
    requests.step s (.openFile 1 (CString.lit "a.zip") .opened) = some t ∧
    t.1.uploadRequests (CString.lit "a.zip") ≠ s.1.uploadRequests (CString.lit "a.zip") ∧
    requests.exec t [.connect 2, .body 2, .openFile 2 (CString.lit "a.zip") .opened] = some u ∧
    u.1.ops = [.opened (CString.lit "a.zip")] ∧
    ¬ requests.Meets (fun s e => ∀ t, requests.step s e = some t → Authorised s e t) requests.init
      [.connect 1, .body 1, .openFile 1 (CString.lit "a.zip") .opened] := by
  refine ⟨_, _, _, rfl, rfl, nofun, rfl, rfl, fun hmeets => ?_⟩
  have hdenied := ((hmeets.2 _ rfl).2 _ rfl).1 _ rfl
  exact nomatch congrFun (hdenied.denied (.inl rfl)) (CString.lit "a.zip")

end V2xHub.CommandPlugin.Uploads
