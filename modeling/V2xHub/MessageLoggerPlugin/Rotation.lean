import V2xHub.MessageLoggerPlugin.Basic

/-!
# What a rotation loses

A record is lost where a file that has it is replaced by a rename, or emptied by the opening of the JSON file: the names of
the files that are put away have seconds only, the JSON file is put away only if the binary one is there, and a rename that
fails is logged and nothing more (`Free`). The size is held in an `int`, which is negative from 2 GB on (`SizeChecked`). On
the runs without these nothing is ever lost (`log_rotation`). Under one file name it is enough that the messages come in different
seconds (`kept_of_seconds`).
-/

namespace V2xHub.MessageLoggerPlugin

/-- The record is in the one file, once. -/
structure At (files : Files) (r : Record) (path : Str) : Prop where
  once : (recordsAt files path).count r = 1
  only : ∀ q, r ∈ recordsAt files q → q = path

/-- The record is in no file. -/
def Gone (files : Files) (r : Record) : Prop := ∀ q, r ∉ recordsAt files q

/-- The record was there at the start, or has been written. -/
def Known (disk : Disk) (written : List Record) (r : Record) : Prop := r ∈ written ∨ ∃ p, r ∈ recordsAt disk.files p

def Check.Ok (c : Check) : Prop := c.size < c.maxFilesizeInMB * 1048576 ∨ c.opened = true ∧ c.size = 0

structure Kept (disk : Disk) (s : State) : Prop where
  records : ∀ r, Known disk s.written r → ∃ p, At s.files r p
  checks : ∀ c ∈ s.checks, c.Ok

section
variable (localtime : Nat → Tm)

/-- No file with records is replaced or emptied when the files are opened. -/
structure Free (times : Times) (a : Answers) (s : State) : Prop where
  newFilename : (s.files s.curFilenamebin).isSome → a.renameJson = true → (s.files s.curFilename).isSome →
    recordsAt s.files (newFilename localtime s times) = []
  newbinFilename : (s.files s.curFilenamebin).isSome → a.renameBin = true →
    recordsAt s.files (newbinFilename localtime s times) = []
  curFilename : a.openJson = true → recordsAt s.files s.curFilename = [] ∨
    (s.files s.curFilenamebin).isSome ∧ a.renameJson = true

/-- The binary file is small, or it is seen that it is not and it is put away. -/
def SizeChecked (a : Answers) (s : State) : Prop :=
  sizeAt s.files s.curFilenamebin < s.maxFilesizeInMB * 1048576 ∨
    Rotates s ∧ a.directories = true ∧ (a.renameBin = true ∨ sizeAt s.files s.curFilenamebin = 0)

def Sound (s : State) : Event → Prop
  | .config fileDirectory filename maxFilesizeInMB times a =>
    jsonPath fileDirectory filename ≠ s.curFilename → a.directories = true →
      Free localtime times a (configure fileDirectory filename maxFilesizeInMB s)
  | .message times a _ =>
    s.logFileOpen = true → (Rotates s → a.directories = true → Free localtime times a s) ∧ SizeChecked a s

end

/-- The current files have the names that follow from the settings. -/
structure Current (s : State) : Prop where
  json : s.curFilename = jsonPath s.fileDirectory s.filename
  bin : s.curFilenamebin = binPath s.fileDirectory s.filename

/-- The records in the files are the ones that were written, each in one place. -/
structure Stored (disk : Disk) (files : Files) (written : List Record) : Prop where
  records : ∀ r, Known disk written r → ∃ p, At files r p
  known : ∀ p, ∀ r ∈ recordsAt files p, Known disk written r

structure Inv (disk : Disk) (s : State) : Prop where
  stored : Stored disk s.files s.written
  checks : ∀ c ∈ s.checks, c.Ok
  fresh : ∀ r, Known disk s.written r → r.number < s.next
  current : s.logFileOpen = true → Current s

variable {localtime : Nat → Tm} {disk : Disk} {s t : State} {times : Times} {a : Answers} {files : Files} {r : Record}
  {p q src dst : Str} {ok : Bool} {written : List Record} {output : Output} {e : Event}

/-! ### Names -/

theorem json_ne_bin (a b : Str) : a ++ CString.lit ".json" ≠ b ++ CString.lit ".bin" := by
  intro h
  have hrev := congrArg List.reverse h
  simp [CString.lit] at hrev

theorem jsonPath_ne_binPath {d f d' f' : Str} : jsonPath d f ≠ binPath d' f' := json_ne_bin _ _

theorem Current.json_ne_bin (h : Current s) : s.curFilename ≠ s.curFilenamebin := by
  rw [h.json, h.bin]
  exact jsonPath_ne_binPath

theorem Current.json_ne_new (h : Current s) : s.curFilename ≠ newFilename localtime s times := by
  rw [h.json]
  intro heq
  have hlen := congrArg List.length heq
  simp only [jsonPath, newFilename, List.length_append] at hlen
  have h1 : (CString.lit "/").length = 1 := rfl
  have h6 : (CString.lit "/json/").length = 6 := rfl
  omega

theorem Current.bin_ne_new (h : Current s) : s.curFilenamebin ≠ newbinFilename localtime s times := by
  rw [h.bin]
  intro heq
  have hlen := congrArg List.length heq
  simp only [binPath, newbinFilename, List.length_append] at hlen
  have h1 : (CString.lit "/").length = 1 := rfl
  have h5 : (CString.lit "/ode/").length = 5 := rfl
  omega

theorem Current.json_ne_newbin (h : Current s) : s.curFilename ≠ newbinFilename localtime s times := by
  rw [h.json]
  exact MessageLoggerPlugin.json_ne_bin _ _

theorem Current.bin_ne_newjson (h : Current s) : s.curFilenamebin ≠ newFilename localtime s times := by
  rw [h.bin]
  exact fun heq => MessageLoggerPlugin.json_ne_bin _ _ heq.symm

theorem new_ne_newbin : newFilename localtime s times ≠ newbinFilename localtime s times := json_ne_bin _ _

/-! ### What the operations on files do to the records -/

theorem recordsAt_update (v : Option (List Chunk)) : recordsAt (Function.update files p v) q =
    if q = p then (v.getD []).filterMap Chunk.record else recordsAt files q := by
  unfold recordsAt
  rw [Function.update_apply]
  split_ifs <;> rfl

theorem recordsAt_rename : recordsAt (rename ok src dst files) q =
    if ok = true ∧ (files src).isSome then
      if q = src then [] else if q = dst then recordsAt files src else recordsAt files q
    else recordsAt files q := by
  unfold rename
  split_ifs with h
  all_goals simp_all [recordsAt]

theorem recordsAt_openJson : recordsAt (openJson ok p files) q = if ok = true ∧ q = p then [] else recordsAt files q := by
  unfold openJson
  cases ok with
  | false => rfl
  | true =>
    rw [if_pos rfl, recordsAt_update]
    simp only [true_and]
    rfl

@[simp] theorem recordsAt_openBin : recordsAt (openBin ok p files) q = recordsAt files q := by
  unfold openBin
  split_ifs with h
  · rw [recordsAt_update]
    split_ifs with hq
    · rw [hq, recordsAt, h.2]
      rfl
    · rfl
  · rfl

theorem recordsAt_append {n : Nat} : recordsAt (append p ⟨some r, n⟩ files) q =
    if q = p then recordsAt files p ++ [r] else recordsAt files q := by
  rw [append, recordsAt_update]
  simp [recordsAt, List.filterMap_append]

/-! ### Records stay -/

theorem At.mem (h : At files r p) : r ∈ recordsAt files p := List.count_pos_iff.1 (Nat.lt_of_lt_of_eq Nat.zero_lt_one h.once.symm)

theorem At.not_gone (h : At files r p) : ¬ Gone files r := fun hgone => hgone p h.mem

/-- A file takes the place of one without records. -/
theorem At.rename (h : At files r p) (hne : src ≠ dst)
    (hfree : ok = true → (files src).isSome → recordsAt files dst = []) : ∃ p', At (rename ok src dst files) r p' := by
  by_cases heffect : ok = true ∧ (files src).isSome
  · have hempty := hfree heffect.1 heffect.2
    have hrecords : ∀ q, recordsAt (MessageLoggerPlugin.rename ok src dst files) q =
        if q = src then [] else if q = dst then recordsAt files src else recordsAt files q := fun q => by
      rw [recordsAt_rename, if_pos heffect]
    have hdst : p ≠ dst := fun hp => by
      have hmem := h.mem
      rw [hp, hempty] at hmem
      exact absurd hmem List.not_mem_nil
    by_cases hp : p = src
    · subst hp
      refine ⟨dst, ?_, fun q hq => ?_⟩
      · rw [hrecords, if_neg hne.symm, if_pos rfl]
        exact h.once
      · rw [hrecords] at hq
        split_ifs at hq with hqsrc hqdst
        · exact absurd hq List.not_mem_nil
        · exact hqdst
        · exact absurd (h.only q hq) hqsrc
    · refine ⟨p, ?_, fun q hq => ?_⟩
      · rw [hrecords, if_neg hp, if_neg hdst]
        exact h.once
      · rw [hrecords] at hq
        split_ifs at hq with hqsrc hqdst
        · exact absurd hq List.not_mem_nil
        · exact absurd (h.only src hq).symm hp
        · exact h.only q hq
  · rw [MessageLoggerPlugin.rename, if_neg heffect]
    exact ⟨p, h⟩

theorem At.openJson (h : At files r p) (hempty : ok = true → recordsAt files q = []) : At (openJson ok q files) r p := by
  have hp : ¬ (ok = true ∧ p = q) := fun hx => by
    have := h.mem
    rw [hx.2, hempty hx.1] at this
    exact absurd this List.not_mem_nil
  refine ⟨?_, fun x hx => h.only x ?_⟩
  · rw [recordsAt_openJson, if_neg hp]
    exact h.once
  · rw [recordsAt_openJson] at hx
    split_ifs at hx
    · exact absurd hx List.not_mem_nil
    · exact hx

theorem At.openBin (h : At files r p) : At (openBin ok q files) r p :=
  ⟨by rw [recordsAt_openBin]; exact h.once, fun x hx => h.only x (by rwa [recordsAt_openBin] at hx)⟩

theorem At.append {r' : Record} {n : Nat} (h : At files r p) (hne : r ≠ r') : At (append q ⟨some r', n⟩ files) r p := by
  refine ⟨?_, fun x hx => h.only x ?_⟩
  · rw [recordsAt_append]
    split_ifs with hp
    · rw [List.count_append, ← hp, h.once, List.count_eq_zero_of_not_mem fun hx => hne (List.mem_singleton.1 hx)]
    · exact h.once
  · rw [recordsAt_append] at hx
    split_ifs at hx with hq
    · rw [hq]
      exact (List.mem_append.1 hx).resolve_right fun hx => hne (List.mem_singleton.1 hx)
    · exact hx

/-- A record that is in no file is in one place when it has been written. -/
theorem Gone.append_self {n : Nat} (h : Gone files r) : At (append q ⟨some r, n⟩ files) r q := by
  refine ⟨?_, fun x hx => ?_⟩
  · rw [recordsAt_append, if_pos rfl, List.count_append, List.count_eq_zero_of_not_mem (h q), List.count_singleton_self]
  · rw [recordsAt_append] at hx
    split_ifs at hx with hq
    · exact hq
    · exact absurd hx (h x)

/-! ### Records do not come back -/

theorem Gone.rename (h : Gone files r) : Gone (rename ok src dst files) r := by
  intro q
  rw [recordsAt_rename]
  split_ifs
  · exact List.not_mem_nil
  · exact h src
  · exact h q
  · exact h q

theorem Gone.openJson (h : Gone files r) : Gone (openJson ok p files) r := by
  intro q
  rw [recordsAt_openJson]
  split_ifs
  · exact List.not_mem_nil
  · exact h q

theorem Gone.openBin (h : Gone files r) : Gone (openBin ok p files) r := by
  intro q
  rw [recordsAt_openBin]
  exact h q

theorem Gone.append {r' : Record} {n : Nat} (h : Gone files r) (hne : r ≠ r') : Gone (append p ⟨some r', n⟩ files) r := by
  intro q hq
  rw [recordsAt_append] at hq
  split_ifs at hq
  · rcases List.mem_append.1 hq with hq | hq
    · exact h p hq
    · exact hne (List.mem_singleton.1 hq)
  · exact h q hq

/-- What is replaced is gone. -/
theorem At.gone_rename (h : At files r dst) (hne : src ≠ dst) (hsrc : (files src).isSome) :
    Gone (MessageLoggerPlugin.rename true src dst files) r := by
  intro q hq
  rw [recordsAt_rename, if_pos ⟨rfl, hsrc⟩] at hq
  split_ifs at hq with hqsrc hqdst
  · exact absurd hq List.not_mem_nil
  · exact hne (h.only _ hq)
  · exact hqdst (h.only _ hq)

theorem At.gone_openJson (h : At files r p) : Gone (MessageLoggerPlugin.openJson true p files) r := by
  intro q hq
  rw [recordsAt_openJson] at hq
  split_ifs at hq with hqp
  · exact absurd hq List.not_mem_nil
  · exact hqp ⟨rfl, h.only _ hq⟩

/-! ### The files are opened -/

/-- The files behind `OpenMSGLogFile`, where it does not throw. -/
def opened (localtime : Nat → Tm) (times : Times) (a : Answers) (s : State) : Files :=
  openBin a.openBin s.curFilenamebin (openJson a.openJson s.curFilename (rotate localtime times a s))

theorem files_openMSGLogFile : (openMSGLogFile localtime times a s).files =
    if a.directories then opened localtime times a s else s.files := by
  unfold openMSGLogFile
  split_ifs <;> rfl

/-- The JSON file that is put away has no records under its old name. -/
theorem recordsAt_rotate_json (hcurrent : Current s) (hfree : Free localtime times a s) (hopen : a.openJson = true) :
    recordsAt (rotate localtime times a s) s.curFilename = [] := by
  unfold rotate
  by_cases hbin : (s.files s.curFilenamebin).isSome
  · rw [if_pos hbin, recordsAt_rename]
    have hjson : recordsAt (rename a.renameJson s.curFilename (newFilename localtime s times) s.files) s.curFilename = [] := by
      rw [recordsAt_rename, if_pos rfl]
      split_ifs with heffect
      · rfl
      · rcases hfree.curFilename hopen with hempty | ⟨-, hrename⟩
        · exact hempty
        · -- the rename had nothing to put away
          have hnone : s.files s.curFilename = none := by
            rw [← Option.not_isSome_iff_eq_none]
            exact fun hsome => heffect ⟨hrename, hsome⟩
          rw [recordsAt, hnone]
          rfl
    rw [if_neg hcurrent.json_ne_bin, if_neg hcurrent.json_ne_newbin, hjson, ite_self]
  · rw [if_neg hbin]
    exact (hfree.curFilename hopen).resolve_right fun h => hbin h.1

theorem At.rotate (h : At s.files r p) (hcurrent : Current s) (hfree : Free localtime times a s) :
    ∃ p', At (rotate localtime times a s) r p' := by
  unfold MessageLoggerPlugin.rotate
  by_cases hbin : (s.files s.curFilenamebin).isSome
  · rw [if_pos hbin]
    obtain ⟨p', hp'⟩ := h.rename hcurrent.json_ne_new (hfree.newFilename hbin)
    refine hp'.rename hcurrent.bin_ne_new fun hrename _ => ?_
    rw [recordsAt_rename, if_neg hcurrent.json_ne_newbin.symm, if_neg new_ne_newbin.symm, ite_self]
    exact hfree.newbinFilename hbin hrename
  · rw [if_neg hbin]
    exact ⟨p, h⟩

theorem At.opened (h : At s.files r p) (hcurrent : Current s) (hfree : Free localtime times a s) :
    ∃ p', At (opened localtime times a s) r p' := by
  obtain ⟨p', hp'⟩ := h.rotate hcurrent hfree
  exact ⟨p', (hp'.openJson (recordsAt_rotate_json hcurrent hfree)).openBin⟩

/-- Nothing comes into the files when they are opened. -/
theorem mem_opened (h : r ∈ recordsAt (opened localtime times a s) q) : ∃ p, r ∈ recordsAt s.files p := by
  by_contra hgone
  have hgone : Gone s.files r := fun p hp => hgone ⟨p, hp⟩
  have hrotate : Gone (rotate localtime times a s) r := by
    unfold rotate
    split_ifs
    · exact hgone.rename.rename
    · exact hgone
  exact hrotate.openJson.openBin q h

/-- Where the files are not free, a record is lost. -/
theorem free_of_kept (hcurrent : Current s) (hat : ∀ p, ∀ r ∈ recordsAt s.files p, At s.files r p)
    (hkept : ∀ p, ∀ r ∈ recordsAt s.files p, ¬ Gone (opened localtime times a s) r) : Free localtime times a s := by
  have hlost : ∀ p, ∀ r ∈ recordsAt s.files p, ¬ Gone (rotate localtime times a s) r := fun p r hr hgone =>
    hkept p r hr hgone.openJson.openBin
  have hnone : ∀ {path}, (∀ r ∈ recordsAt s.files path, False) → recordsAt s.files path = [] :=
    fun h => List.eq_nil_iff_forall_not_mem.2 h
  refine ⟨fun hbin hrename hjson => hnone fun r hr => ?_, fun hbin hrename => hnone fun r hr => ?_, fun hopen => ?_⟩
  · refine hlost _ r hr ?_
    rw [rotate, if_pos hbin, hrename]
    exact ((hat _ r hr).gone_rename hcurrent.json_ne_new hjson).rename
  · refine hlost _ r hr ?_
    rw [rotate, if_pos hbin, hrename]
    -- the JSON file has been put away, which changes neither the binary file nor what is replaced
    have hsame : rename a.renameJson s.curFilename (newFilename localtime s times) s.files s.curFilenamebin =
        s.files s.curFilenamebin := by
      unfold rename
      split_ifs
      · rw [Function.update_of_ne hcurrent.json_ne_bin.symm, Function.update_of_ne hcurrent.bin_ne_newjson]
      · rfl
    have hstays : At (rename a.renameJson s.curFilename (newFilename localtime s times) s.files) r
        (newbinFilename localtime s times) := by
      refine ⟨?_, fun q hq => ?_⟩
      · rw [recordsAt_rename, if_neg hcurrent.json_ne_newbin.symm, if_neg new_ne_newbin.symm, ite_self]
        exact (hat _ r hr).once
      · rw [recordsAt_rename] at hq
        split_ifs at hq
        · exact absurd hq List.not_mem_nil
        · exact absurd ((hat _ r hr).only _ hq) hcurrent.json_ne_newbin
        · exact (hat _ r hr).only _ hq
        · exact (hat _ r hr).only _ hq
    exact hstays.gone_rename hcurrent.bin_ne_new (hsame ▸ hbin)
  · by_contra hnot
    obtain ⟨hrecords, hnot⟩ := not_or.1 hnot
    refine hrecords (hnone fun r hr => hkept _ r hr ?_)
    have hstays : At (rotate localtime times a s) r s.curFilename := by
      unfold rotate
      by_cases hbin : (s.files s.curFilenamebin).isSome
      · have hrename : a.renameJson ≠ true := fun h => hnot ⟨hbin, h⟩
        rw [if_pos hbin, MessageLoggerPlugin.rename.eq_def a.renameJson, if_neg fun h => hrename h.1]
        refine ⟨?_, fun q hq => ?_⟩
        · rw [recordsAt_rename, if_neg hcurrent.json_ne_bin, if_neg hcurrent.json_ne_newbin, ite_self]
          exact (hat _ r hr).once
        · rw [recordsAt_rename] at hq
          split_ifs at hq
          · exact absurd hq List.not_mem_nil
          · exact absurd ((hat _ r hr).only _ hq).symm hcurrent.json_ne_bin
          · exact (hat _ r hr).only _ hq
          · exact (hat _ r hr).only _ hq
      · rw [if_neg hbin]
        exact hat _ r hr
    rw [opened, hopen]
    exact hstays.gone_openJson.openBin

/-! ### Sizes -/

theorem rotate_bin (hcurrent : Current s) :
    rotate localtime times a s s.curFilenamebin = if a.renameBin then none else s.files s.curFilenamebin := by
  have hsame : rename a.renameJson s.curFilename (newFilename localtime s times) s.files s.curFilenamebin =
      s.files s.curFilenamebin := by
    unfold rename
    split_ifs
    · rw [Function.update_of_ne hcurrent.json_ne_bin.symm, Function.update_of_ne hcurrent.bin_ne_newjson]
    · rfl
  unfold rotate
  by_cases hbin : (s.files s.curFilenamebin).isSome
  · rw [if_pos hbin, rename.eq_def a.renameBin, hsame]
    cases a.renameBin with
    | true => rw [if_pos ⟨rfl, hbin⟩, Function.update_self, if_pos rfl]
    | false =>
      rw [if_neg fun h => Bool.false_ne_true h.1, if_neg Bool.false_ne_true]
      exact hsame
  · rw [if_neg hbin, Option.not_isSome_iff_eq_none.1 hbin, ite_self]

theorem sizeAt_opened (hcurrent : Current s) : sizeAt (opened localtime times a s) s.curFilenamebin =
    if a.renameBin then 0 else sizeAt s.files s.curFilenamebin := by
  have hjson : openJson a.openJson s.curFilename (rotate localtime times a s) s.curFilenamebin =
      if a.renameBin then none else s.files s.curFilenamebin := by
    unfold openJson
    split_ifs <;> simp only [ne_eq, hcurrent.json_ne_bin.symm, not_false_eq_true, Function.update_of_ne,
      rotate_bin hcurrent, *, if_true, if_false, Bool.false_eq_true]
  have hsize : sizeAt (opened localtime times a s) s.curFilenamebin =
      sizeAt (openJson a.openJson s.curFilename (rotate localtime times a s)) s.curFilenamebin := by
    unfold opened openBin
    split_ifs with h
    · rw [sizeAt, Function.update_self, sizeAt, h.2]
      rfl
    · rfl
  rw [hsize, sizeAt, hjson]
  split_ifs <;> rfl

/-! ### Steps -/

theorem Stored.at (h : Stored disk files written) (hr : r ∈ recordsAt files p) : At files r p := by
  obtain ⟨p', hp'⟩ := h.records r (h.known p r hr)
  exact (hp'.only p hr) ▸ hp'

theorem Stored.opened (h : Stored disk s.files written) (hcurrent : Current s) (hfree : Free localtime times a s) :
    Stored disk (opened localtime times a s) written where
  records r hr := by
    obtain ⟨p, hp⟩ := h.records r hr
    exact hp.opened hcurrent hfree
  known q r hr := by
    obtain ⟨p, hp⟩ := mem_opened hr
    exact h.known p r hp

theorem Stored.append {n : Nat} (h : Stored disk files written) (hr : ¬ Known disk written r) :
    Stored disk (append p ⟨some r, n⟩ files) (written ++ [r]) where
  records r' hr' := by
    by_cases hsame : r' = r
    · rw [hsame]
      exact ⟨p, Gone.append_self fun q hq => hr (h.known q r hq)⟩
    · have hknown : Known disk written r' := hr'.imp_left fun hmem =>
        (List.mem_append.1 hmem).resolve_right fun hmem => hsame (List.mem_singleton.1 hmem)
      obtain ⟨q, hq⟩ := h.records r' hknown
      exact ⟨q, hq.append hsame⟩
  known q r' hr' := by
    rw [recordsAt_append] at hr'
    have hcases : (∃ q, r' ∈ recordsAt files q) ∨ r' = r := by
      split_ifs at hr'
      · exact (List.mem_append.1 hr').imp (fun h => ⟨p, h⟩) List.mem_singleton.1
      · exact .inl ⟨q, hr'⟩
    rcases hcases with ⟨q', hq'⟩ | rfl
    · exact (h.known q' r' hq').imp_left fun hmem => List.mem_append_left _ hmem
    · exact .inl (List.mem_append_right _ (List.mem_singleton_self _))

theorem Inv.kept (h : Inv disk s) : Kept disk s := ⟨h.stored.records, h.checks⟩

/-- The records of the next message have not been written. -/
theorem Inv.not_known (h : Inv disk s) (hr : r.number = s.next) : ¬ Known disk s.written r := fun hknown =>
  absurd (h.fresh r hknown) (hr ▸ Nat.lt_irrefl _)

theorem Inv.write (h : Inv disk s) : Inv disk (writeRecords output s) := by
  have hbin : Stored disk
      (if output.binOpens ∧ s.curFilenamebin ≠ [] then MessageLoggerPlugin.append s.curFilenamebin
        ⟨some ⟨.bin, s.next⟩, output.binSize⟩ s.files else s.files)
      (s.written ++ if output.binOpens ∧ s.curFilenamebin ≠ [] then [⟨.bin, s.next⟩] else []) := by
    split_ifs
    · exact h.stored.append (h.not_known rfl)
    · rw [List.append_nil]
      exact h.stored
  have hjson : ¬ Known disk (s.written ++ if output.binOpens ∧ s.curFilenamebin ≠ [] then [⟨.bin, s.next⟩] else [])
      ⟨.json, s.next⟩ := by
    rintro (hmem | hdisk)
    · rcases List.mem_append.1 hmem with hmem | hmem
      · exact h.not_known rfl (.inl hmem)
      · split_ifs at hmem
        · exact absurd (List.mem_singleton.1 hmem) (by simp)
        · exact absurd hmem List.not_mem_nil
    · exact h.not_known rfl (.inr hdisk)
  refine ⟨?_, h.checks, fun r hr => ?_, fun hopen => ⟨(h.current hopen).json, (h.current hopen).bin⟩⟩
  · unfold writeRecords
    dsimp only
    by_cases hopen : s.logFileOpen = true
    · rw [if_pos hopen, if_pos hopen]
      exact hbin.append hjson
    · rw [if_neg hopen, if_neg hopen, List.append_nil]
      exact hbin
  · have hcases : Known disk s.written r ∨ r.number = s.next := by
      rcases hr with hmem | hdisk
      · simp only [writeRecords, List.mem_append] at hmem
        rcases hmem with (hmem | hmem) | hmem
        · exact .inl (.inl hmem)
        · split_ifs at hmem
          · rw [List.mem_singleton.1 hmem]
            exact .inr rfl
          · exact absurd hmem List.not_mem_nil
        · split_ifs at hmem
          · rw [List.mem_singleton.1 hmem]
            exact .inr rfl
          · exact absurd hmem List.not_mem_nil
      · exact .inl (.inr hdisk)
    rcases hcases with hknown | hnew
    · exact Nat.lt_succ_of_lt (h.fresh r hknown)
    · exact Nat.lt_succ_of_le (Nat.le_of_eq hnew)

/-- The state behind the check of an open file. -/
theorem check_eq (hopen : s.logFileOpen = true) : checkMSGLogFileSizeAndRename localtime times a s =
    let t := if Rotates s then openMSGLogFile localtime times a s else s
    { t with
      checks := t.checks ++ [⟨s.maxFilesizeInMB, sizeAt t.files t.curFilenamebin, decide (Rotates s) && a.directories⟩] } :=
  if_pos hopen

/-- What an opening of the files leaves as it is. -/
theorem Inv.open (h : Inv disk s) (hcurrent : Current s) (hfree : a.directories = true → Free localtime times a s) :
    Inv disk (openMSGLogFile localtime times a s) := by
  unfold openMSGLogFile
  split_ifs with hdirectories
  · exact ⟨h.stored.opened hcurrent (hfree hdirectories), h.checks, h.fresh, fun _ => ⟨hcurrent.json, hcurrent.bin⟩⟩
  · exact ⟨h.stored, h.checks, h.fresh, fun hfalse => absurd hfalse Bool.false_ne_true⟩

/-- The check leaves what it is to leave exactly if it sees the size. -/
theorem check_ok (localtime : Nat → Tm) (times : Times) (hcurrent : Current s) : (⟨s.maxFilesizeInMB,
      sizeAt (if Rotates s then openMSGLogFile localtime times a s else s).files
        (if Rotates s then openMSGLogFile localtime times a s else s).curFilenamebin,
      decide (Rotates s) && a.directories⟩ : Check).Ok ↔ SizeChecked a s := by
  unfold Check.Ok SizeChecked
  by_cases hrotates : Rotates s
  · rw [if_pos hrotates, files_openMSGLogFile]
    have hname : (openMSGLogFile localtime times a s).curFilenamebin = s.curFilenamebin := by
      unfold openMSGLogFile
      split_ifs <;> rfl
    rw [hname]
    cases hdirectories : a.directories with
    | false => simp [hrotates]
    | true =>
      rw [if_pos rfl, sizeAt_opened hcurrent]
      cases a.renameBin with
      | true => simp [hrotates]
      | false => simp [hrotates]
  · simp [hrotates]

theorem Inv.check (h : Inv disk s)
    (hsound : s.logFileOpen = true → (Rotates s → a.directories = true → Free localtime times a s) ∧ SizeChecked a s) :
    Inv disk (checkMSGLogFileSizeAndRename localtime times a s) := by
  by_cases hopen : s.logFileOpen = true
  · obtain ⟨hfree, hsize⟩ := hsound hopen
    have hcurrent := h.current hopen
    rw [check_eq hopen]
    have hnext : Inv disk (if Rotates s then openMSGLogFile localtime times a s else s) := by
      split_ifs with hrotates
      · exact h.open hcurrent (hfree hrotates)
      · exact h
    refine ⟨hnext.stored, ?_, hnext.fresh, fun hopen => ⟨(hnext.current hopen).json, (hnext.current hopen).bin⟩⟩
    exact List.forall_mem_append.2 ⟨hnext.checks, List.forall_mem_singleton.2 ((check_ok localtime times hcurrent).2 hsize)⟩
  · rw [checkMSGLogFileSizeAndRename, if_neg hopen]
    exact h

/-- A handler writes behind the check, or not at all. -/
theorem handleMessage_cases (output : Option Output) :
    handleMessage localtime times a output s = checkMSGLogFileSizeAndRename localtime times a s ∨
    ∃ o, handleMessage localtime times a output s = writeRecords o (checkMSGLogFileSizeAndRename localtime times a s) := by
  unfold handleMessage
  dsimp only
  split_ifs
  · exact .inl rfl
  · cases output with
    | none => exact .inl rfl
    | some output => exact .inr ⟨output, rfl⟩

theorem current_configure {fileDirectory filename : Str} {maxFilesizeInMB : Int} :
    Current (configure fileDirectory filename maxFilesizeInMB s) := ⟨rfl, rfl⟩

theorem Inv.configure {fileDirectory filename : Str} {maxFilesizeInMB : Int} (h : Inv disk s) :
    Inv disk (configure fileDirectory filename maxFilesizeInMB s) :=
  ⟨h.stored, h.checks, h.fresh, fun _ => current_configure⟩

theorem Inv.exec (h : Inv disk s) (hsound : Sound localtime s e) : Inv disk (s.exec localtime e) := by
  cases e with
  | config fileDirectory filename maxFilesizeInMB times a =>
    change Inv disk (updateConfigSettings localtime fileDirectory filename maxFilesizeInMB times a s)
    unfold updateConfigSettings
    dsimp only
    split_ifs with hchanged
    · exact h.configure.open current_configure (hsound hchanged)
    · exact h.configure
  | message times a output =>
    have hcheck := h.check hsound
    change Inv disk (handleMessage localtime times a output s)
    rcases handleMessage_cases output with heq | ⟨o, heq⟩
    · rw [heq]
      exact hcheck
    · rw [heq]
      exact hcheck.write

theorem exec_of_step (h : (logger localtime disk).step s e = some t) : t = { s.exec localtime e with now := e.times.bin } := by
  change State.step localtime s e = some t at h
  rw [State.step] at h
  split_ifs at h
  exact (Option.some.inj h).symm

theorem Inv.step (h : Inv disk s) (hsound : Sound localtime s e) (hstep : (logger localtime disk).step s e = some t) :
    Inv disk t := by
  have hexec := h.exec hsound
  rw [exec_of_step hstep]
  exact ⟨hexec.stored, hexec.checks, hexec.fresh, fun hopen => ⟨(hexec.current hopen).json, (hexec.current hopen).bin⟩⟩

/-! ### What is lost -/

theorem Gone.write (h : Gone s.files r) (hr : r.number ≠ s.next) : Gone (writeRecords output s).files r := by
  have hbin : r ≠ ⟨.bin, s.next⟩ := fun heq => hr (congrArg Record.number heq)
  have hjson : r ≠ ⟨.json, s.next⟩ := fun heq => hr (congrArg Record.number heq)
  unfold writeRecords
  dsimp only
  split_ifs
  · exact (h.append hbin).append hjson
  · exact h.append hjson
  · exact h.append hbin
  · exact h

theorem next_check : (checkMSGLogFileSizeAndRename localtime times a s).next = s.next := by
  unfold checkMSGLogFileSizeAndRename openMSGLogFile
  split_ifs <;> rfl

theorem written_check : (checkMSGLogFileSizeAndRename localtime times a s).written = s.written := by
  unfold checkMSGLogFileSizeAndRename openMSGLogFile
  split_ifs <;> rfl

/-- What is written stays written. -/
theorem mem_written_exec (h : r ∈ s.written) : r ∈ (s.exec localtime e).written := by
  cases e with
  | config fileDirectory filename maxFilesizeInMB times a =>
    have heq : (updateConfigSettings localtime fileDirectory filename maxFilesizeInMB times a s).written = s.written := by
      unfold updateConfigSettings openMSGLogFile
      dsimp only
      split_ifs <;> rfl
    exact heq.symm ▸ h
  | message times a output =>
    change r ∈ (handleMessage localtime times a output s).written
    rcases handleMessage_cases output with heq | ⟨o, heq⟩
    · rw [heq, written_check]
      exact h
    · rw [heq]
      refine List.mem_append_left _ (List.mem_append_left _ ?_)
      rw [written_check]
      exact h

theorem files_check (hopen : s.logFileOpen = true) (hrotates : Rotates s) (hdirectories : a.directories = true) :
    (checkMSGLogFileSizeAndRename localtime times a s).files = opened localtime times a s := by
  rw [check_eq hopen, if_pos hrotates]
  exact files_openMSGLogFile.trans (if_pos hdirectories)

theorem checks_handleMessage {output : Option Output} : (handleMessage localtime times a output s).checks =
    (checkMSGLogFileSizeAndRename localtime times a s).checks := by
  rcases handleMessage_cases output with heq | ⟨o, heq⟩ <;> rw [heq]
  rfl

/-- A step that is not sound loses a record, or leaves a large file. -/
theorem sound_of_kept (h : Inv disk s) (hstep : (logger localtime disk).step s e = some t) (hkept : Kept disk t) :
    Sound localtime s e := by
  have hexec := exec_of_step hstep
  have hthere : ∀ p, ∀ r ∈ recordsAt s.files p, ¬ Gone (s.exec localtime e).files r := fun p r hr hgone => by
    have hknown : Known disk t.written r := (h.stored.known p r hr).imp_left fun hmem => by
      rw [hexec]
      exact mem_written_exec hmem
    obtain ⟨p', hp'⟩ := hkept.records r hknown
    rw [hexec] at hp'
    exact hp'.not_gone hgone
  have hat : ∀ p, ∀ r ∈ recordsAt s.files p, At s.files r p := fun p r hr => h.stored.at hr
  cases e with
  | config fileDirectory filename maxFilesizeInMB times a =>
    intro hchanged hdirectories
    refine free_of_kept current_configure hat fun p r hr hgone => hthere p r hr ?_
    change Gone (updateConfigSettings localtime fileDirectory filename maxFilesizeInMB times a s).files r
    have hchanged' : (configure fileDirectory filename maxFilesizeInMB s).curFilename ≠ s.curFilename := hchanged
    unfold updateConfigSettings
    dsimp only
    rw [if_pos hchanged', files_openMSGLogFile, if_pos hdirectories]
    exact hgone
  | message times a output =>
    intro hopen
    have hcurrent := h.current hopen
    refine ⟨fun hrotates hdirectories => ?_, ?_⟩
    · refine free_of_kept hcurrent hat fun p r hr hgone => hthere p r hr ?_
      rw [← files_check hopen hrotates hdirectories] at hgone
      have hr : r.number ≠ (checkMSGLogFileSizeAndRename localtime times a s).next := by
        rw [next_check]
        exact Nat.ne_of_lt (h.fresh r (h.stored.known p r hr))
      change Gone (handleMessage localtime times a output s).files r
      rcases handleMessage_cases output with heq | ⟨o, heq⟩
      · rw [heq]
        exact hgone
      · rw [heq]
        exact hgone.write hr
    · have hcheck := check_ok localtime times (a := a) hcurrent
      refine hcheck.1 (hkept.checks _ ?_)
      rw [hexec]
      change _ ∈ (handleMessage localtime times a output s).checks
      rw [checks_handleMessage, check_eq hopen]
      exact List.mem_append_right _ (List.mem_singleton_self _)

/-! ### Runs -/

theorem inv_init : Inv disk (logger localtime disk).init where
  stored.records r hr := by
    rcases hr with hmem | ⟨p, hp⟩
    · exact absurd hmem List.not_mem_nil
    · exact ⟨p, List.count_eq_one_of_mem (disk.once p) hp, fun q hq => disk.unique r q p hq hp⟩
  stored.known p r hr := .inr ⟨p, hr⟩
  checks c hc := absurd hc List.not_mem_nil
  fresh r hr := by
    rcases hr with hmem | ⟨p, hp⟩
    · exact absurd hmem List.not_mem_nil
    · exact disk.old p r hp
  current h := absurd h Bool.false_ne_true

/-- The file system does what it is asked. -/
def Answers.done : Answers := ⟨true, true, true, true, true⟩

/-- A current name, or one that a file of these settings was given between `start` and `now`. -/
def IsName (localtime : Nat → Tm) (start now : Nat) (s : State) (p : Str) : Prop :=
  p = s.curFilename ∨ p = s.curFilenamebin ∨ ∃ time, start ≤ time ∧ time ≤ now ∧
    (p = newFilename localtime s ⟨time, time⟩ ∨ p = newbinFilename localtime s ⟨time, time⟩)

/-- All records are in files of these settings. -/
structure PutAway (localtime : Nat → Tm) (start now : Nat) (s : State) : Prop where
  started : start ≤ now
  current : Current s
  bin : (s.files s.curFilenamebin).isSome
  names : ∀ p, recordsAt s.files p ≠ [] → IsName localtime start now s p

/-- A message comes in a later second than the event before it, and the binary file has not grown out of an `int`; a configuration
keeps the names. -/
def InTurn (s : State) : Event → Prop
  | .config fileDirectory filename _ _ _ => fileDirectory = s.fileDirectory ∧ filename = s.filename
  | .message times a _ => s.now < times.json ∧ a = .done ∧ sizeAt s.files s.curFilenamebin < 2 ^ 31

variable {start now now' : Nat}

theorem IsName.mono (h : IsName localtime start now s p) (hnow : now ≤ now') : IsName localtime start now' s p :=
  h.imp_right (.imp_right fun ⟨time, hstart, htime, hp⟩ => ⟨time, hstart, htime.trans hnow, hp⟩)

theorem isSome_openBin : (openBin true p files p).isSome := by
  unfold openBin
  split_ifs with h
  · rw [Function.update_self]
    rfl
  · exact Option.ne_none_iff_isSome.1 fun hnone => h ⟨rfl, hnone⟩

/-- The records of a file that is opened come from the same name, or have just been put away. -/
theorem names_opened (h : recordsAt (opened localtime times a s) p ≠ []) :
    recordsAt s.files p ≠ [] ∨ p = newFilename localtime s times ∨ p = newbinFilename localtime s times := by
  rw [opened, recordsAt_openBin, recordsAt_openJson] at h
  split_ifs at h
  · exact absurd rfl h
  · unfold rotate at h
    split_ifs at h
    · rw [recordsAt_rename, recordsAt_rename, recordsAt_rename] at h
      split_ifs at h <;> grind
    · exact .inl h

theorem PutAway.open (hcurrent : Current s) (hnames : ∀ p, recordsAt s.files p ≠ [] → IsName localtime start now s p)
    (hstart : start ≤ times.json) (hjson : times.json ≤ times.bin) (hnow : now ≤ times.bin) :
    PutAway localtime start times.bin (openMSGLogFile localtime times .done s) where
  started := hstart.trans hjson
  current := ⟨hcurrent.json, hcurrent.bin⟩
  bin := isSome_openBin
  names p hp := by
    rcases names_opened (a := .done) hp with hp | rfl | rfl
    · exact (hnames p hp).mono hnow
    · exact .inr (.inr ⟨times.json, hstart, hjson, .inl rfl⟩)
    · exact .inr (.inr ⟨times.bin, hstart.trans hjson, Nat.le_refl _, .inr rfl⟩)

theorem PutAway.mono (h : PutAway localtime start now s) (hnow : now ≤ now') : PutAway localtime start now' s :=
  ⟨h.started.trans hnow, h.current, h.bin, fun p hp => (h.names p hp).mono hnow⟩

theorem isSome_append {chunk : Chunk} (h : (files q).isSome) : (append p chunk files q).isSome := by
  unfold append
  rw [Function.update_apply]
  split_ifs
  · rfl
  · exact h

theorem names_write (h : recordsAt (writeRecords output s).files p ≠ []) :
    recordsAt s.files p ≠ [] ∨ p = s.curFilename ∨ p = s.curFilenamebin := by
  by_contra hno
  obtain ⟨hnone, hjson, hbin⟩ : recordsAt s.files p = [] ∧ p ≠ s.curFilename ∧ p ≠ s.curFilenamebin := by
    simpa only [not_or, not_not] using hno
  refine h ?_
  unfold writeRecords
  dsimp only
  split_ifs <;> simp only [recordsAt_append, if_neg hjson, if_neg hbin, hnone]

theorem PutAway.write (h : PutAway localtime start now s) : PutAway localtime start now (writeRecords output s) where
  started := h.started
  current := ⟨h.current.json, h.current.bin⟩
  bin := by
    unfold writeRecords
    dsimp only
    split_ifs
    · exact isSome_append (isSome_append h.bin)
    · exact isSome_append h.bin
    · exact isSome_append h.bin
    · exact h.bin
  names p hp := by
    rcases names_write hp with hp | rfl | rfl
    · exact h.names p hp
    · exact .inl rfl
    · exact .inr (.inl rfl)

/-- No file has a name of a later second. -/
theorem PutAway.free (h : PutAway localtime start s.now s) (hlocaltime : Set.InjOn (getCurDateTimeStr localtime) (Set.Ici start))
    (hnow : s.now < times.json) (hjson : times.json ≤ times.bin) : Free localtime times .done s := by
  have hlate : ∀ {time time' : Nat}, start ≤ time → time ≤ s.now → times.json ≤ time' →
      getCurDateTimeStr localtime time' ≠ getCurDateTimeStr localtime time := by
    intro time time' htime hle hlt heq
    have hsame := hlocaltime (htime.trans (hle.trans (hnow.le.trans hlt))) htime heq
    omega
  refine ⟨fun _ _ _ => ?_, fun _ _ => ?_, fun _ => .inr ⟨h.bin, rfl⟩⟩
  · by_contra hrecords
    rcases h.names _ hrecords with heq | heq | ⟨time, htime, hle, heq | heq⟩
    · exact h.current.json_ne_new heq.symm
    · exact h.current.bin_ne_newjson heq.symm
    · exact hlate htime hle (Nat.le_refl _) (by simpa [newFilename] using heq)
    · exact json_ne_bin _ _ heq
  · by_contra hrecords
    rcases h.names _ hrecords with heq | heq | ⟨time, htime, hle, heq | heq⟩
    · exact h.current.json_ne_newbin heq.symm
    · exact h.current.bin_ne_new heq.symm
    · exact json_ne_bin _ _ heq.symm
    · exact hlate htime hle hjson (by simpa [newbinFilename] using heq)

/-- A size that fits an `int` is seen. -/
theorem sizeChecked_done (hbin : (s.files s.curFilenamebin).isSome) (hsize : sizeAt s.files s.curFilenamebin < 2 ^ 31) :
    SizeChecked .done s := by
  by_cases hsmall : sizeAt s.files s.curFilenamebin < s.maxFilesizeInMB * 1048576
  · exact .inl hsmall
  · refine .inr ⟨?_, rfl, .inl rfl⟩
    have hint : ((sizeAt s.files s.curFilenamebin : Nat) : Int).bmod (2 ^ 32) = sizeAt s.files s.curFilenamebin := by
      rw [Int.bmod_eq_of_le] <;> omega
    rw [Rotates, curFilesizeInMB, if_pos hbin, hint, Int.tdiv_eq_ediv_of_nonneg (by omega)]
    omega

theorem PutAway.check (h : PutAway localtime start now s) (hstart : start ≤ times.json) (hjson : times.json ≤ times.bin)
    (hnow : now ≤ times.bin) : PutAway localtime start times.bin (checkMSGLogFileSizeAndRename localtime times .done s) := by
  by_cases hopen : s.logFileOpen = true
  · have hnext : PutAway localtime start times.bin (if Rotates s then openMSGLogFile localtime times .done s else s) := by
      split_ifs
      · exact .open h.current h.names hstart hjson hnow
      · exact h.mono hnow
    rw [check_eq hopen]
    exact ⟨hnext.started, ⟨hnext.current.json, hnext.current.bin⟩, hnext.bin, hnext.names⟩
  · rw [checkMSGLogFileSizeAndRename, if_neg hopen]
    exact h.mono hnow

theorem times_of_step (h : (logger localtime disk).step s e = some t) : s.now ≤ e.times.json ∧ e.times.json ≤ e.times.bin := by
  change State.step localtime s e = some t at h
  rw [State.step] at h
  split_ifs at h with htimes
  exact htimes

/-- A step in turn is sound. -/
theorem PutAway.step (h : PutAway localtime start s.now s) (hlocaltime : Set.InjOn (getCurDateTimeStr localtime) (Set.Ici start))
    (hturn : InTurn s e) (hstep : (logger localtime disk).step s e = some t) :
    Sound localtime s e ∧ PutAway localtime start t.now t := by
  obtain ⟨hnow, hjson⟩ := times_of_step hstep
  rw [exec_of_step hstep]
  cases e with
  | config fileDirectory filename maxFilesizeInMB times a =>
    obtain ⟨rfl, rfl⟩ := hturn
    have hsame : updateConfigSettings localtime s.fileDirectory s.filename maxFilesizeInMB times a s =
        { s with maxFilesizeInMB := maxFilesizeInMB } := by
      unfold updateConfigSettings configure
      rw [← h.current.json, ← h.current.bin]
      exact if_neg (not_not.2 rfl)
    have hlater := h.mono (hnow.trans hjson)
    refine ⟨fun hchanged => absurd h.current.json.symm hchanged, ?_⟩
    rw [State.exec, hsame]
    exact ⟨hlater.started, ⟨hlater.current.json, hlater.current.bin⟩, hlater.bin, hlater.names⟩
  | message times a output =>
    obtain ⟨hlate, rfl, hsize⟩ := hturn
    refine ⟨fun _ => ⟨fun _ _ => h.free hlocaltime hlate hjson, sizeChecked_done h.bin hsize⟩, ?_⟩
    have hcheck := h.check (h.started.trans hnow) hjson (hnow.trans hjson)
    have hnext : PutAway localtime start times.bin (handleMessage localtime times .done output s) := by
      rcases handleMessage_cases output with heq | ⟨o, heq⟩ <;> rw [heq]
      · exact hcheck
      · exact hcheck.write
    exact ⟨hnext.started, ⟨hnext.current.json, hnext.current.bin⟩, hnext.bin, hnext.names⟩

theorem jsonPath_ne_nil {d f : Str} : jsonPath d f ≠ [] := by
  intro h
  have hlen := congrArg List.length h
  simp only [jsonPath, List.length_append] at hlen
  have h1 : (CString.lit "/").length = 1 := rfl
  simp only [h1, List.length_nil] at hlen
  omega

/-- Under one file name, on a file system that does what it is asked, nothing is lost as long as no second has two messages and
different seconds have different dates. -/
theorem kept_of_seconds {fileDirectory filename : Str} {maxFilesizeInMB : Int} {es : List Event}
    (hlocaltime : Set.InjOn (getCurDateTimeStr localtime) (Set.Ici times.json)) (hempty : ∀ p, recordsAt disk.files p = [])
    (hturn : ∀ t, (logger localtime disk).step (logger localtime disk).init
      (.config fileDirectory filename maxFilesizeInMB times .done) = some t → (logger localtime disk).Meets InTurn t es)
    (h : (logger localtime disk).exec (logger localtime disk).init
      (.config fileDirectory filename maxFilesizeInMB times .done :: es) = some s) : Kept disk s := by
  obtain ⟨t, ht, hs⟩ := Machine.exec_cons.1 h
  have hsound : Sound localtime (logger localtime disk).init (.config fileDirectory filename maxFilesizeInMB times .done) :=
    fun _ _ => ⟨fun _ _ _ => hempty _, fun _ _ => hempty _, fun _ => .inl (hempty _)⟩
  have hput : PutAway localtime times.json t.now t := by
    obtain ⟨-, hjson⟩ := times_of_step ht
    have hopen : PutAway localtime times.json times.bin (updateConfigSettings localtime fileDirectory filename maxFilesizeInMB
        times .done (logger localtime disk).init) := by
      unfold updateConfigSettings
      dsimp only
      have hchanged : (configure fileDirectory filename maxFilesizeInMB (logger localtime disk).init).curFilename ≠
        (logger localtime disk).init.curFilename := jsonPath_ne_nil
      rw [if_pos hchanged]
      exact .open current_configure (fun p hp => absurd (hempty p) hp) (Nat.le_refl _) hjson (Nat.zero_le _)
    rw [exec_of_step ht]
    exact ⟨hopen.started, ⟨hopen.current.json, hopen.current.bin⟩, hopen.bin, hopen.names⟩
  refine (Machine.invariant_meets (I := fun s => Inv disk s ∧ PutAway localtime times.json s.now s) ⟨inv_init.step hsound ht, hput⟩
    (fun s e t hs he hstep => ?_) (hturn t ht) hs).1.kept
  obtain ⟨hsound, hput⟩ := hs.2.step hlocaltime he hstep
  exact ⟨hs.1.step hsound hstep, hput⟩

instance : Decidable (Free localtime times a s) :=
  decidable_of_iff
    (((s.files s.curFilenamebin).isSome → a.renameJson = true → (s.files s.curFilename).isSome →
        recordsAt s.files (newFilename localtime s times) = []) ∧
      ((s.files s.curFilenamebin).isSome → a.renameBin = true →
        recordsAt s.files (newbinFilename localtime s times) = []) ∧
      (a.openJson = true → recordsAt s.files s.curFilename = [] ∨ (s.files s.curFilenamebin).isSome ∧ a.renameJson = true))
    ⟨fun ⟨h1, h2, h3⟩ => ⟨h1, h2, h3⟩, fun h => ⟨h.newFilename, h.newbinFilename, h.curFilename⟩⟩

instance : Decidable (SizeChecked a s) := inferInstanceAs (Decidable (_ ∨ _))

instance (s : State) (e : Event) : Decidable (Sound localtime s e) := by
  cases e <;> unfold Sound <;> infer_instance

/-- The local time in January 2026, in UTC. -/
def january (time : Nat) : Tm :=
  let seconds := time - 1767225600
  ⟨seconds % 60, seconds / 60 % 60, seconds / 3600 % 24, seconds / 86400 + 1, 0, 126⟩

def emptyDisk : Disk :=
  ⟨fun _ => none, 0, fun _ _ _ h => absurd h List.not_mem_nil, fun _ => List.nodup_nil, fun _ _ h => absurd h List.not_mem_nil⟩

def readConfig (maxFilesizeInMB : Int) : Event :=
  .config (CString.lit "/var/log/tmx") (CString.lit "logTx") maxFilesizeInMB ⟨1767225600, 1767225600⟩
    ⟨true, true, true, true, true⟩

def oneMessage (time : Nat) : Event :=
  .message ⟨time, time⟩ ⟨true, true, true, true, true⟩ (some ⟨2000, 300, true⟩)

end V2xHub.MessageLoggerPlugin
