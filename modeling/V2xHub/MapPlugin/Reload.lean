import V2xHub.Lib.CString
import V2xHub.Lib.Machine
import V2xHub.Lib.OrdMap

/-!
# Loading the configured MAP files

`UpdateConfigSettings` runs on the thread of the callbacks and stores the map files under `data_lock`;
`Main` tests the flag for new files, loads them and clears the flag without a lock around the three. A change
of `MAP_Files` that comes through `OnConfigChanged` is not stored at all, and one that is stored between
`LoadMapFiles` and the clearing of the flag is not loaded. Where neither happens, nothing is lost (`reload_current`).
-/

namespace V2xHub.MapPlugin

structure MapFile where
  action : Int
  filePath : Str
  inputType : Str
  bytes : Str
deriving DecidableEq

/-- What the message library makes of a configuration value: an empty tree, an exception, or the array `MapFiles`. -/
inductive MapFilesValue where
  | empty
  | malformed
  | files (mapFiles : List MapFile)

/-- What `UpdateConfigSettings` does next. From `store` on it holds the lock. -/
inductive Update where
  | none
  | lock (value : MapFilesValue)
  | store (rest : List MapFile)
  | setFlag (rest : List MapFile)

/-- What `Main` does next; `cycle` is the rest of the loop, with the time it sleeps. -/
inductive Main where
  | test
  | empty
  | load
  | clearFlag
  | cycle
deriving DecidableEq

/-- The value of `MAP_Files` that is in force, the members of the plugin, and the list that `LoadMapFiles` was
done on last. -/
structure State where
  config : Option Str
  mapFiles : OrdMap Int MapFile
  isMapFileNew : Bool
  update : Update
  main : Main
  loaded : OrdMap Int MapFile

/-- The plugin is registered with a value for `MAP_Files`, a configuration value changes, or one of the threads
does its next step. -/
inductive Event where
  | registered (value : Str)
  | configChanged (key value : Str)
  | update
  | main

def mapFilesKey : Str := CString.lit "MAP_Files"

def cohdaKey : Str := CString.lit "Cohda R63"

/-- One round of the loop over the array, but for the flag. -/
def storeFile (mapFiles : OrdMap Int MapFile) (mapFile : MapFile) : OrdMap Int MapFile :=
  if mapFile.action < 0 then mapFiles else mapFiles.insert mapFile.action mapFile

namespace State

/-- `UpdateConfigSettings` up to the lock. -/
def beginUpdate (parse : Str → MapFilesValue) (s : State) : State :=
  match s.config.map parse with
  | none | some .empty => s
  | some value => { s with update := .lock value }

def stepUpdate (s : State) : Option State :=
  match s.update with
  | .none => none
  | .lock .empty => none
  | .lock .malformed => some { s with mapFiles := OrdMap.empty, update := .none }
  | .lock (.files mapFiles) => some { s with mapFiles := OrdMap.empty, update := .store mapFiles }
  | .store [] => some { s with update := .none }
  | .store (mapFile :: rest) =>
    some { s with
      mapFiles := storeFile s.mapFiles mapFile
      update := if mapFile.action < 0 then .store rest else .setFlag rest }
  | .setFlag rest => some { s with isMapFileNew := true, update := .store rest }

def lockFree (s : State) : Bool :=
  match s.update with
  | .none | .lock _ => true
  | .store _ | .setFlag _ => false

def stepMain (s : State) : Option State :=
  match s.main with
  | .test => some { s with main := if s.isMapFileNew then .empty else .cycle }
  | .empty =>
    if s.mapFiles.entries.isEmpty then some { s with loaded := OrdMap.empty, main := .clearFlag }
    else some { s with main := .load }
  | .load => if s.lockFree then some { s with loaded := s.mapFiles, main := .clearFlag } else none
  | .clearFlag => some { s with isMapFileNew := false, main := .cycle }
  | .cycle => some { s with main := .test }

/-- The callbacks run on one thread. `strcmp` is not 0 where the keys differ, so that every key but the one of
the special case is taken for it. -/
def step (parse : Str → MapFilesValue) (s : State) : Event → Option State
  | .registered value =>
    match s.update with
    | .none => some (beginUpdate parse { s with config := some value })
    | _ => none
  | .configChanged key value =>
    match s.update with
    | .none =>
      let s := if key = mapFilesKey then { s with config := some value } else s
      if key ≠ cohdaKey then some s else some (s.beginUpdate parse)
    | _ => none
  | .update => s.stepUpdate
  | .main => s.stepMain

end State

def machine (parse : Str → MapFilesValue) : Machine State Event where
  init := ⟨none, OrdMap.empty, false, .none, .test, OrdMap.empty⟩
  step := State.step parse

/-- The files of a configuration value. -/
def filesOf (parse : Str → MapFilesValue) (config : Option Str) : OrdMap Int MapFile :=
  match config.map parse with
  | some (.files mapFiles) => mapFiles.foldl storeFile OrdMap.empty
  | _ => OrdMap.empty

namespace State

/-- The flag is clear, `Main` has done its pass and no change is under way, and what is loaded is not what is in
force. -/
def Lost (parse : Str → MapFilesValue) (s : State) : Prop :=
  s.isMapFileNew = false ∧ s.main = .cycle ∧ (match s.update with
    | .none => True
    | _ => False) ∧ s.loaded ≠ filesOf parse s.config

/-- A change comes with the registration or changes no file, one without files comes while there are none, and the
update does not set the flag for the last time when `Main` is about to clear it. -/
def Harmless (parse : Str → MapFilesValue) (s : State) : Event → Prop
  | .registered value => filesOf parse (some value) = OrdMap.empty → s.mapFiles = OrdMap.empty ∧ s.loaded = OrdMap.empty
  | .configChanged key value => key = mapFilesKey → filesOf parse (some value) = filesOf parse s.config
  | .update => s.main = .clearFlag → ∀ rest, s.update = .setFlag rest →
    (∃ mapFile ∈ rest, 0 ≤ mapFile.action) ∨ s.loaded = filesOf parse s.config
  | .main => True

/-- The update will still set the flag. -/
def WillFlag : Update → Prop
  | .none | .lock .empty | .lock .malformed => False
  | .lock (.files rest) | .store rest => ∃ mapFile ∈ rest, 0 ≤ mapFile.action
  | .setFlag _ => True

/-- What the update will have stored in the end is what is in force. -/
def Storing (parse : Str → MapFilesValue) (s : State) : Prop :=
  match s.update with
  | .none => s.mapFiles = filesOf parse s.config
  | .lock value => s.config.map parse = some value
  | .store rest | .setFlag rest => rest.foldl storeFile s.mapFiles = filesOf parse s.config

structure Inv (parse : Str → MapFilesValue) (s : State) : Prop where
  blank : filesOf parse s.config = OrdMap.empty → s.mapFiles = OrdMap.empty ∧ s.loaded = OrdMap.empty
  storing : s.Storing parse
  clearing : s.main = .clearFlag → WillFlag s.update ∨ s.loaded = filesOf parse s.config
  idle : s.main = .test ∨ s.main = .cycle →
    s.isMapFileNew = true ∨ WillFlag s.update ∨ s.loaded = filesOf parse s.config

variable {parse : Str → MapFilesValue} {s t : State} {e : Event}

theorem foldl_storeFile_of_ne {mapFiles : OrdMap Int MapFile} {l : List MapFile} (h : mapFiles ≠ OrdMap.empty) :
    l.foldl storeFile mapFiles ≠ OrdMap.empty := by
  induction l generalizing mapFiles with
  | nil => exact h
  | cons mapFile l ih =>
    refine ih ?_
    rw [storeFile]
    split_ifs
    · exact h
    · exact OrdMap.insert_ne_empty

theorem foldl_storeFile_of_not_mem {mapFiles : OrdMap Int MapFile} {l : List MapFile}
    (h : ¬ ∃ mapFile ∈ l, 0 ≤ mapFile.action) : l.foldl storeFile mapFiles = mapFiles := by
  induction l generalizing mapFiles with
  | nil => rfl
  | cons mapFile l ih =>
    have hfile : mapFile.action < 0 := not_le.1 fun hle => h ⟨mapFile, List.mem_cons_self .., hle⟩
    have hl : ¬ ∃ f ∈ l, 0 ≤ f.action := fun ⟨f, hmem, hle⟩ => h ⟨f, List.mem_cons_of_mem _ hmem, hle⟩
    rw [List.foldl_cons, storeFile, if_pos hfile, ih hl]

theorem willFlag_lock {value : MapFilesValue} (hparse : s.config.map parse = some value)
    (hne : filesOf parse s.config ≠ OrdMap.empty) : WillFlag (.lock value) := by
  rw [filesOf, hparse] at hne
  cases value with
  | empty => exact absurd rfl hne
  | malformed => exact absurd rfl hne
  | files mapFiles =>
    by_contra hnot
    exact hne (foldl_storeFile_of_not_mem hnot)

/-- What `LoadMapFiles` finds outside the lock is what is in force, but for a change that will set the flag. -/
theorem willFlag_or_mapFiles (hstoring : s.Storing parse) (hblank : filesOf parse s.config = OrdMap.empty →
    s.mapFiles = OrdMap.empty ∧ s.loaded = OrdMap.empty) : WillFlag s.update ∨ s.mapFiles = filesOf parse s.config := by
  rw [Storing] at hstoring
  cases hupdate : s.update with
  | none =>
    rw [hupdate] at hstoring
    exact Or.inr hstoring
  | lock value =>
    rw [hupdate] at hstoring
    by_cases hempty : filesOf parse s.config = OrdMap.empty
    · exact Or.inr ((hblank hempty).1.trans hempty.symm)
    · exact Or.inl (willFlag_lock hstoring hempty)
  | setFlag rest => exact Or.inl trivial
  | store rest =>
    rw [hupdate] at hstoring
    by_cases hmem : ∃ mapFile ∈ rest, 0 ≤ mapFile.action
    · exact Or.inl hmem
    · exact Or.inr ((foldl_storeFile_of_not_mem hmem).symm.trans hstoring)

theorem inv_stepMain (hi : s.Inv parse) (hs : s.stepMain = some t) : t.Inv parse := by
  have hfiles := willFlag_or_mapFiles hi.storing hi.blank
  cases hmain : s.main with
  | test =>
    simp only [stepMain, hmain] at hs
    obtain rfl := Option.some.inj hs
    refine ⟨hi.blank, hi.storing, fun h => ?_, fun _ => hi.idle (Or.inl hmain)⟩
    dsimp only at h
    split_ifs at h
  | empty =>
    simp only [stepMain, hmain] at hs
    split_ifs at hs with hempty
    · have hmapFiles : s.mapFiles = OrdMap.empty := OrdMap.eq_empty (List.isEmpty_iff.1 hempty)
      rw [hmapFiles] at hfiles
      obtain rfl := Option.some.inj hs
      exact ⟨fun h => ⟨(hi.blank h).1, rfl⟩, hi.storing, fun _ => hfiles, by simp⟩
    · obtain rfl := Option.some.inj hs
      exact ⟨hi.blank, hi.storing, by simp, by simp⟩
  | load =>
    simp only [stepMain, hmain] at hs
    split_ifs at hs with hfree
    obtain rfl := Option.some.inj hs
    exact ⟨fun h => ⟨(hi.blank h).1, (hi.blank h).1⟩, hi.storing, fun _ => hfiles, by simp⟩
  | clearFlag =>
    simp only [stepMain, hmain] at hs
    obtain rfl := Option.some.inj hs
    exact ⟨hi.blank, hi.storing, by simp, fun _ => Or.inr (hi.clearing hmain)⟩
  | cycle =>
    simp only [stepMain, hmain] at hs
    obtain rfl := Option.some.inj hs
    exact ⟨hi.blank, hi.storing, by simp, fun _ => hi.idle (Or.inr hmain)⟩

/-- A step of the update that leaves the flag alone keeps the invariant if it keeps what is about to come. -/
theorem Inv.update {mapFiles : OrdMap Int MapFile} {update : Update} (hi : s.Inv parse)
    (hblank : filesOf parse s.config = OrdMap.empty → mapFiles = OrdMap.empty)
    (hstoring : Storing parse { s with mapFiles := mapFiles, update := update })
    (hwill : WillFlag s.update → WillFlag update) : Inv parse { s with mapFiles := mapFiles, update := update } := by
  refine ⟨fun h => ⟨hblank h, (hi.blank h).2⟩, hstoring, fun h => (hi.clearing h).imp_left hwill, fun h => ?_⟩
  exact (hi.idle h).imp_right fun h => h.imp_left hwill

theorem inv_stepUpdate (hi : s.Inv parse) (hg : s.Harmless parse .update) (hs : s.stepUpdate = some t) :
    t.Inv parse := by
  have hstoring := hi.storing
  rw [Storing] at hstoring
  cases hupdate : s.update with
  | none => simp [stepUpdate, hupdate] at hs
  | lock value =>
    rw [hupdate] at hstoring
    cases value with
    | empty => simp [stepUpdate, hupdate] at hs
    | malformed =>
      simp only [stepUpdate, hupdate] at hs
      obtain rfl := Option.some.inj hs
      refine hi.update (fun _ => rfl) ?_ (by rw [hupdate]; exact id)
      show OrdMap.empty = filesOf parse s.config
      rw [filesOf, hstoring]
    | files mapFiles =>
      simp only [stepUpdate, hupdate] at hs
      obtain rfl := Option.some.inj hs
      refine hi.update (fun _ => rfl) ?_ (by rw [hupdate]; exact id)
      show mapFiles.foldl storeFile OrdMap.empty = filesOf parse s.config
      rw [filesOf, hstoring]
  | store rest =>
    rw [hupdate] at hstoring
    cases rest with
    | nil =>
      simp only [stepUpdate, hupdate] at hs
      obtain rfl := Option.some.inj hs
      refine hi.update (fun h => (hi.blank h).1) hstoring ?_
      rw [hupdate]
      rintro ⟨_, hmem, -⟩
      exact absurd hmem List.not_mem_nil
    | cons mapFile rest =>
      simp only [stepUpdate, hupdate] at hs
      obtain rfl := Option.some.inj hs
      have hrest : rest.foldl storeFile (storeFile s.mapFiles mapFile) = filesOf parse s.config := hstoring
      by_cases haction : mapFile.action < 0
      · rw [if_pos haction]
        refine hi.update (fun h => ?_) hrest ?_
        · rw [storeFile, if_pos haction]
          exact (hi.blank h).1
        · -- A file that is passed over is not one of those the flag will be set for.
          rw [hupdate]
          rintro ⟨f, hmem, hf⟩
          rcases List.mem_cons.1 hmem with rfl | hmem
          · exact absurd haction (not_lt.2 hf)
          · exact ⟨f, hmem, hf⟩
      · rw [if_neg haction]
        refine hi.update (fun h => ?_) hrest fun _ => trivial
        rw [h, storeFile, if_neg haction] at hrest
        exact absurd hrest (foldl_storeFile_of_ne OrdMap.insert_ne_empty)
  | setFlag rest =>
    rw [hupdate] at hstoring
    simp only [stepUpdate, hupdate] at hs
    obtain rfl := Option.some.inj hs
    exact ⟨hi.blank, hstoring, fun h => hg h rest hupdate, fun _ => Or.inl rfl⟩

/-- The update of a value without files needs no flag, that of any other sets it. -/
theorem inv_beginUpdate {v : Str} (hupdate : s.update = .none) (hconfig : s.config = some v)
    (hblank : filesOf parse s.config = OrdMap.empty → s.mapFiles = OrdMap.empty ∧ s.loaded = OrdMap.empty) :
    (s.beginUpdate parse).Inv parse := by
  have hparse : s.config.map parse = some (parse v) := by rw [hconfig, Option.map_some]
  have hlock : Inv parse { s with update := .lock (parse v) } := by
    have hwill : WillFlag (.lock (parse v)) ∨ s.loaded = filesOf parse s.config := by
      by_cases hempty : filesOf parse s.config = OrdMap.empty
      · exact Or.inr ((hblank hempty).2.trans hempty.symm)
      · exact Or.inl (willFlag_lock hparse hempty)
    exact ⟨hblank, hparse, fun _ => hwill, fun _ => Or.inr hwill⟩
  cases hvalue : parse v with
  | empty =>
    have hs : s.beginUpdate parse = s := by rw [beginUpdate, hparse, hvalue]
    have hempty : filesOf parse s.config = OrdMap.empty := by rw [filesOf, hparse, hvalue]
    obtain ⟨hmapFiles, hloaded⟩ := hblank hempty
    have hcurrent : s.loaded = filesOf parse s.config := hloaded.trans hempty.symm
    rw [hs]
    refine ⟨hblank, ?_, fun _ => Or.inr hcurrent, fun _ => Or.inr (Or.inr hcurrent)⟩
    rw [Storing, hupdate]
    exact hmapFiles.trans hempty.symm
  | malformed =>
    have hs : s.beginUpdate parse = { s with update := .lock (parse v) } := by rw [beginUpdate, hparse, hvalue]
    rw [hs]
    exact hlock
  | files mapFiles =>
    have hs : s.beginUpdate parse = { s with update := .lock (parse v) } := by rw [beginUpdate, hparse, hvalue]
    rw [hs]
    exact hlock

theorem update_eq_none {value : Str} (hs : s.step parse (.registered value) = some t) : s.update = .none := by
  cases hupdate : s.update with
  | none => rfl
  | lock => simp [step, hupdate] at hs
  | store => simp [step, hupdate] at hs
  | setFlag => simp [step, hupdate] at hs

theorem update_eq_none_of_configChanged {key value : Str} (hs : s.step parse (.configChanged key value) = some t) :
    s.update = .none := by
  cases hupdate : s.update with
  | none => rfl
  | lock => simp [step, hupdate] at hs
  | store => simp [step, hupdate] at hs
  | setFlag => simp [step, hupdate] at hs

theorem Inv.config {config : Option Str} (hi : s.Inv parse) (hupdate : s.update = .none)
    (hsame : filesOf parse config = filesOf parse s.config) : Inv parse { s with config := config } := by
  obtain ⟨hblank, hstoring, hclearing, hidle⟩ := hi
  rw [Storing, hupdate] at hstoring
  rw [← hsame] at hblank hstoring hclearing hidle
  refine ⟨hblank, ?_, hclearing, hidle⟩
  rw [Storing]
  simp only [hupdate]
  exact hstoring

theorem inv_step (hi : s.Inv parse) (hg : s.Harmless parse e) (hs : s.step parse e = some t) : t.Inv parse := by
  cases e with
  | registered value =>
    have hupdate := update_eq_none hs
    simp only [step, hupdate] at hs
    obtain rfl := Option.some.inj hs
    exact inv_beginUpdate rfl rfl hg
  | configChanged key value =>
    have hupdate := update_eq_none_of_configChanged hs
    have hchanged : ∃ u : State, u.Inv parse ∧ u.update = .none ∧
        (if key ≠ cohdaKey then some u else some (u.beginUpdate parse)) = some t := by
      by_cases hkey : key = mapFilesKey
      · refine ⟨{ s with config := some value }, hi.config hupdate (hg hkey), hupdate, ?_⟩
        simpa only [step, hupdate, if_pos hkey] using hs
      · refine ⟨s, hi, hupdate, ?_⟩
        simpa only [step, hupdate, if_neg hkey] using hs
    obtain ⟨u, hu, hnone, hs⟩ := hchanged
    split_ifs at hs with hcohda
    · obtain rfl := Option.some.inj hs
      exact hu
    · obtain rfl := Option.some.inj hs
      cases hconfig : u.config with
      | none =>
        have hsame : u.beginUpdate parse = u := by rw [beginUpdate, hconfig, Option.map_none]
        rw [hsame]
        exact hu
      | some v => exact inv_beginUpdate hnone hconfig hu.blank
  | update => exact inv_stepUpdate hi hg hs
  | main => exact inv_stepMain hi hs

end State

/-- In every run whose steps are harmless, no configuration is lost: when the flag is clear, `Main` has done its
pass and no change is under way, the list that it has loaded is that of the value in force. -/
theorem reload_current (parse : Str → MapFilesValue) (es : List Event) (s : State)
    (h : (machine parse).exec (machine parse).init es = some s)
    (hg : (machine parse).Meets (State.Harmless parse) (machine parse).init es) : ¬ s.Lost parse := by
  have hinit : State.Inv parse (machine parse).init := by
    refine ⟨fun _ => ⟨rfl, rfl⟩, rfl, ?_, fun _ => Or.inr (Or.inr rfl)⟩
    intro h
    nomatch h
  have hi : s.Inv parse :=
    Machine.invariant_meets hinit (fun s e t hi hg hs => State.inv_step hi hg hs) hg h
  rintro ⟨hflag, hmain, hupdate, hlost⟩
  rcases hi.idle (Or.inr hmain) with h | h | h
  · rw [hflag] at h
    nomatch h
  · cases hu : s.update with
    | none =>
      rw [hu] at h
      exact h
    | lock => simp [hu] at hupdate
    | store => simp [hu] at hupdate
    | setFlag => simp [hu] at hupdate
  · exact hlost h

/-- One file, for action 1, under the path that the value is. -/
def pathFile (value : Str) : MapFile := ⟨1, value, CString.lit "ISD", []⟩

def onePath (value : Str) : MapFilesValue := .files [pathFile value]

def stored : List Event := [.update, .update, .update, .update]

def pass : List Event := [.main, .main, .main, .main]

theorem exec_stored (value : Str) :
    (machine onePath).exec (machine onePath).init (.registered value :: stored ++ pass) =
      some ⟨some value, OrdMap.empty.insert 1 (pathFile value), false, .none, .cycle,
        OrdMap.empty.insert 1 (pathFile value)⟩ := rfl

theorem meets_stored (value : Str) :
    (machine onePath).Meets (State.Harmless onePath) (machine onePath).init (.registered value :: stored ++ pass) := by
  refine ⟨fun h => absurd h OrdMap.insert_ne_empty, ?_⟩
  rintro _ ⟨⟩
  refine ⟨nofun, ?_⟩
  rintro _ ⟨⟩
  refine ⟨nofun, ?_⟩
  rintro _ ⟨⟩
  refine ⟨nofun, ?_⟩
  rintro _ ⟨⟩
  refine ⟨nofun, ?_⟩
  exact fun _ _ => ⟨trivial, fun _ _ => ⟨trivial, fun _ _ => ⟨trivial, fun _ _ => ⟨trivial, fun _ _ => trivial⟩⟩⟩⟩

theorem reload_current_registered :
    ¬ State.Lost onePath ⟨some (CString.lit "a.xml"), OrdMap.empty.insert 1 (pathFile (CString.lit "a.xml")), false,
      .none, .cycle, OrdMap.empty.insert 1 (pathFile (CString.lit "a.xml"))⟩ :=
  reload_current onePath _ _ (exec_stored _) (meets_stored _)

/-- `OnConfigChanged` takes every key but the one of the special case for the special case, so that a change of
`MAP_Files` is never stored. And one that is stored between the load and the clearing of the flag is not loaded. -/
theorem reload_lost :
    (∃ s, (machine onePath).exec (machine onePath).init
        (.registered (CString.lit "a.xml") :: stored ++ pass ++ [
          .configChanged mapFilesKey (CString.lit "b.xml"), .main, .main]) = some s ∧ s.Lost onePath) ∧
      ∃ s, (machine onePath).exec (machine onePath).init
        (.registered (CString.lit "a.xml") :: stored ++ [.main, .main, .main,
          .configChanged mapFilesKey (CString.lit "b.xml"), .configChanged cohdaKey (CString.lit "1")] ++ stored ++
          [.main, .main, .main]) = some s ∧ s.Lost onePath := by
  refine ⟨⟨_, rfl, rfl, rfl, trivial, ?_⟩, _, rfl, rfl, rfl, trivial, ?_⟩
  · intro h
    exact absurd (congrArg OrdMap.entries h) (by decide)
  · intro h
    exact absurd (congrArg OrdMap.entries h) (by decide)

end V2xHub.MapPlugin
