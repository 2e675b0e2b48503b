import V2xHub.Lib.Machine
import V2xHub.Lib.Printf
import Mathlib.Logic.Function.Basic

/-!
# The files of the message logger

`MessageLoggerPlugin`: the settings, the check of the size and the rotation. A path is one file; a file is the list of what has
been written to it, with the sizes in bytes. The time of each call of `time` and what the file system answers are in the
events; a rename replaces the file that has the new name. `localtime_r` is a parameter, as it depends on the time zone.
-/

namespace V2xHub.MessageLoggerPlugin

inductive Kind where
  | json
  | bin
deriving DecidableEq

/-- The records of a message are named by its number. -/
structure Record where
  kind : Kind
  number : Nat
deriving DecidableEq

/-- A record or the line at the start of a file. -/
structure Chunk where
  record : Option Record
  size : Nat

abbrev Files := Str → Option (List Chunk)

/-- The records in the file with the name. -/
def recordsAt (files : Files) (path : Str) : List Record := ((files path).getD []).filterMap Chunk.record

/-- In bytes; 0 if there is no file. -/
def sizeAt (files : Files) (path : Str) : Nat := (((files path).getD []).map Chunk.size).sum

structure Tm where
  tm_sec : Nat
  tm_min : Nat
  tm_hour : Nat
  tm_mday : Nat
  tm_mon : Nat
  tm_year : Nat

def twoDigits (n : Nat) : Str := List.replicate (2 - (Printf.decimal n).length) (Printf.digit 0) ++ Printf.decimal n

/-- `put_time` with the format `%d%m%Y%H%M%S`. -/
def putTime (tm : Tm) : Str :=
  twoDigits tm.tm_mday ++ twoDigits (tm.tm_mon + 1) ++ Printf.decimal (tm.tm_year + 1900) ++ twoDigits tm.tm_hour ++
    twoDigits tm.tm_min ++ twoDigits tm.tm_sec

def jsonPath (fileDirectory filename : Str) : Str := fileDirectory ++ CString.lit "/" ++ filename ++ CString.lit ".json"

def binPath (fileDirectory filename : Str) : Str := fileDirectory ++ CString.lit "/" ++ filename ++ CString.lit ".bin"

/-- What a check of the size has left: the configured maximum, the size of the binary file, and whether the files have been
opened. -/
structure Check where
  maxFilesizeInMB : Int
  size : Nat
  opened : Bool

structure State where
  fileDirectory : Str
  filename : Str
  maxFilesizeInMB : Int
  curFilename : Str
  curFilenamebin : Str
  /-- `_logFile.is_open()` -/
  logFileOpen : Bool
  files : Files
  now : Nat
  /-- The number of the next message. -/
  next : Nat
  written : List Record
  checks : List Check

/-- What the file system answers: whether the directories are there or can be made, and whether the renames and the opening
succeed. -/
structure Answers where
  directories : Bool
  renameJson : Bool
  renameBin : Bool
  openJson : Bool
  openBin : Bool

/-- The times of the two calls of `GetCurDateTimeStr`. -/
structure Times where
  json : Nat
  bin : Nat

section
variable (localtime : Nat → Tm)

def getCurDateTimeStr (time : Nat) : Str := putTime (localtime time)

/-- The names of the files when they are put away. -/
def newFilename (s : State) (times : Times) : Str :=
  s.fileDirectory ++ CString.lit "/json/" ++ s.filename ++ getCurDateTimeStr localtime times.json ++ CString.lit ".json"

def newbinFilename (s : State) (times : Times) : Str :=
  s.fileDirectory ++ CString.lit "/ode/" ++ s.filename ++ getCurDateTimeStr localtime times.bin ++ CString.lit ".bin"

/-- `std::rename` -/
def rename (succeeds : Bool) (src dst : Str) (files : Files) : Files :=
  if succeeds ∧ (files src).isSome then Function.update (Function.update files dst (files src)) src none else files

/-- The rotation in `OpenMSGLogFile`, which looks for the binary file only. -/
def rotate (times : Times) (a : Answers) (s : State) : Files :=
  if (s.files s.curFilenamebin).isSome then
    rename a.renameBin s.curFilenamebin (newbinFilename localtime s times)
      (rename a.renameJson s.curFilename (newFilename localtime s times) s.files)
  else s.files

/-- `_logFile.open`, which empties the file, and the line at its start. -/
def openJson (succeeds : Bool) (path : Str) (files : Files) : Files :=
  if succeeds then Function.update files path (some [⟨none, 18⟩]) else files

/-- `_logFilebin.open`, at the end of the file. -/
def openBin (succeeds : Bool) (path : Str) (files : Files) : Files :=
  if succeeds ∧ files path = none then Function.update files path (some []) else files

/-- `OpenMSGLogFile` with the files closed; where a directory cannot be made it throws. -/
def openMSGLogFile (times : Times) (a : Answers) (s : State) : State :=
  if a.directories then
    { s with
      files := openBin a.openBin s.curFilenamebin (openJson a.openJson s.curFilename (rotate localtime times a s))
      logFileOpen := a.openJson }
  else { s with logFileOpen := false }

/-- The settings as they are read, and the names that follow from them. -/
def configure (fileDirectory filename : Str) (maxFilesizeInMB : Int) (s : State) : State :=
  { s with
    fileDirectory, filename, maxFilesizeInMB
    curFilename := jsonPath fileDirectory filename
    curFilenamebin := binPath fileDirectory filename }

def updateConfigSettings (fileDirectory filename : Str) (maxFilesizeInMB : Int) (times : Times) (a : Answers) (s : State) :
    State :=
  let t := configure fileDirectory filename maxFilesizeInMB s
  if t.curFilename ≠ s.curFilename then openMSGLogFile localtime times a t else t

/-- The size as an `int`, -1 where there is no file, and in MB. -/
def curFilesizeInMB (s : State) : Int :=
  let logFilesize : Int :=
    if (s.files s.curFilenamebin).isSome then (sizeAt s.files s.curFilenamebin : Int).bmod (2 ^ 32) else -1
  logFilesize.tdiv 1048576

/-- The check asks for a rotation. -/
def Rotates (s : State) : Prop := s.maxFilesizeInMB ≤ curFilesizeInMB s

instance (s : State) : Decidable (Rotates s) := inferInstanceAs (Decidable (_ ≤ _))

def checkMSGLogFileSizeAndRename (times : Times) (a : Answers) (s : State) : State :=
  if s.logFileOpen then
    let t := if Rotates s then openMSGLogFile localtime times a s else s
    { t with
      checks := t.checks ++
        [⟨s.maxFilesizeInMB, sizeAt t.files t.curFilenamebin, decide (Rotates s) && a.directories⟩] }
  else s

/-- Write to the end of a file; a binary file is made if it is not there. -/
def append (path : Str) (chunk : Chunk) (files : Files) : Files :=
  Function.update files path (some ((files path).getD [] ++ [chunk]))

/-- The sizes of what is written for a message, and whether the binary file can be opened. -/
structure Output where
  jsonSize : Nat
  binSize : Nat
  binOpens : Bool

/-- The binary record, then the JSON one. -/
def writeRecords (output : Output) (s : State) : State :=
  let json : Record := ⟨.json, s.next⟩
  let bin : Record := ⟨.bin, s.next⟩
  let binOpen := output.binOpens ∧ s.curFilenamebin ≠ []
  let files := if binOpen then append s.curFilenamebin ⟨some bin, output.binSize⟩ s.files else s.files
  { s with
    files := if s.logFileOpen then append s.curFilename ⟨some json, output.jsonSize⟩ files else files
    written := s.written ++ (if binOpen then [bin] else []) ++ (if s.logFileOpen then [json] else [])
    next := s.next + 1 }

/-- A handler; a message that cannot be decoded has no output. It does not come so far where the check throws. -/
def handleMessage (times : Times) (a : Answers) (output : Option Output) (s : State) : State :=
  let t := checkMSGLogFileSizeAndRename localtime times a s
  if s.logFileOpen ∧ Rotates s ∧ ¬ a.directories then t
  else
    match output with
    | none => t
    | some output => writeRecords output t

inductive Event where
  | config (fileDirectory filename : Str) (maxFilesizeInMB : Int) (times : Times) (a : Answers)
  | message (times : Times) (a : Answers) (output : Option Output)

def Event.times : Event → Times
  | config _ _ _ times _ => times
  | message times _ _ => times

def State.exec (s : State) : Event → State
  | .config fileDirectory filename maxFilesizeInMB times a =>
    updateConfigSettings localtime fileDirectory filename maxFilesizeInMB times a s
  | .message times a output => handleMessage localtime times a output s

/-- The clock does not go backwards. -/
def State.step (s : State) (e : Event) : Option State :=
  if s.now ≤ e.times.json ∧ e.times.json ≤ e.times.bin then some { s.exec localtime e with now := e.times.bin } else none

/-- The files at the start: no record is in two places, or has the number of a message that is still to come. -/
structure Disk where
  files : Files
  next : Nat
  unique : ∀ r p q, r ∈ recordsAt files p → r ∈ recordsAt files q → p = q
  once : ∀ p, (recordsAt files p).Nodup
  old : ∀ p, ∀ r ∈ recordsAt files p, r.number < next

def logger (disk : Disk) : Machine State Event :=
  ⟨⟨[], [], 0, [], [], false, disk.files, 0, disk.next, [], []⟩, State.step localtime⟩

end

end V2xHub.MessageLoggerPlugin
