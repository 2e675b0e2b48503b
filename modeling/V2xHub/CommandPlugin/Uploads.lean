import V2xHub.CommandPlugin.Accounts

/-!
# Uploads

`CommandPlugin::FileUploadCB`, what `WSCallbackHTTP` does with the table of upload requests, and the command `uploadfile` and
the closing of a connection in `WSCallbackBASE64`. An output buffer is named by its session. A callback of an HTTP connection
that does not return 0 is the last one before its drop. What the file system does is in the events.

The history has the requests that are pending: accepted from the session of a system administrator, and not ended by the end
of an upload of the name, by the end of the session, or by another request of the session in front of the upload.
-/

namespace V2xHub.CommandPlugin.Uploads
open TmxCtl AuthorizationLevels

structure UploadData where
  requestId : Str
  outputbuffer : Option Nat
  destinationFileName : Str
  destinationPath : Str
  fileSize : Nat
  uploading : Bool
  message : String

/-- What `operator[]` inserts. -/
def UploadData.empty : UploadData := ⟨[], none, [], [], 0, false, ""⟩

/-- `PerSessionDataHTTP`, with whether a callback has not returned 0. -/
structure Http where
  spa : Bool
  filename : Str
  file_length : Nat
  /-- A file is open. -/
  fd : Bool
  last_percent_sent : Nat
  failed : Bool

/-- What is done for a file name. -/
inductive FileOp where
  | opened (name : Str)
  | written (name : Str)
  | copied (name : Str)

def FileOp.name : FileOp → Str
  | .opened name | .written name | .copied name => name

inductive Status where
  | sending (percent : Nat)
  | done
  | failed (message : String)

/-- The arguments of `uploadfile`, and the id of the command. -/
structure UploadArgs where
  id : Str
  uploadfilename : Option Str
  destinationfilename : Option Str
  destinationpath : Option Str
  filesize : Option Str

inductive OpenResult where
  | noFolder
  | noFile
  | opened
deriving DecidableEq

/-- Whether the folder of the destination is there, the copy succeeds, and the removal. -/
structure MoveResult where
  folder : Bool
  copied : Bool
  removed : Bool

structure State where
  sessions : Nat → Option Session
  http : Nat → Option Http
  uploadRequests : Str → Option UploadData
  /-- What the last event did to files. -/
  ops : List FileOp
  /-- The responses to the sessions. -/
  reports : List (Nat × Str × Status)

def State.init : State := ⟨fun _ => none, fun _ => none, fun _ => none, [], []⟩

inductive Event where
  | established (i : Nat)
  /-- A login or a logout. -/
  | authorization (i : Nat) (session : Session)
  | closed (i : Nat)
  | uploadfile (i : Nat) (args : UploadArgs)
  /-- An HTTP connection. -/
  | connect (k : Nat)
  | body (k : Nat)
  | openFile (k : Nat) (filename : Str) (result : OpenResult)
  /-- `LWS_UFS_CONTENT`, or with the result of the move `LWS_UFS_FINAL_CONTENT`. -/
  | content (k : Nat) (len : Nat) (final : Option MoveResult)
  | completion (k : Nat)
  | drop (k : Nat)

/-- The loop that deletes the old requests of the connection if they are not uploading. -/
def cancel (requests : Str → Option UploadData) (i : Nat) (name : Str) : Option UploadData :=
  (requests name).filter fun d => ¬ (d.outputbuffer = some i ∧ ¬ d.uploading)

/-- The loop in `LWS_CALLBACK_CLOSED`. -/
def release (requests : Str → Option UploadData) (i : Nat) (name : Str) : Option UploadData :=
  (cancel requests i name).map fun d => { d with outputbuffer := none }

/-- None if it throws. -/
def stol (s : Str) : Option Nat := if numberOf s ≤ 9223372036854775807 then some (numberOf s) else none

/-- The session is authorized to upload. -/
def Administrator (session : Session) : Bool :=
  session.authorized ∧ session.authorizationLevel ≥ SystemAdministrator

/-- Name, destination, path and size, if all of them are there and the size is a number. -/
def UploadArgs.checked (a : UploadArgs) : Except String (Str × Str × Str × Str) :=
  match a.uploadfilename, a.destinationfilename, a.destinationpath, a.filesize with
  | some name, some destination, some path, some size =>
    if isNumber size then .ok (name, destination, path, size)
    else .error "Upload file failed, invalid filesize argument"
  | _, _, _, _ => .error "Upload file failed, missing command arguments"

namespace State

def report (s : State) (i : Nat) (requestId : Str) (status : Status) : State :=
  { s with reports := s.reports ++ [(i, requestId, status)] }

def setRequest (s : State) (name : Str) (d : UploadData) : State :=
  { s with uploadRequests := Function.update s.uploadRequests name (some d) }

def setHttp (s : State) (k : Nat) (pss : Http) : State := { s with http := Function.update s.http k (some pss) }

def addOp (s : State) (op : FileOp) : State := { s with ops := s.ops ++ [op] }

/-- The callback does not return 0. -/
def fail (s : State) (k : Nat) (pss : Http) : State := s.setHttp k { pss with failed := true }

def uploadfile (s : State) (i : Nat) (a : UploadArgs) : State :=
  match a.checked with
  | .error text => s.report i a.id (.failed text)
  | .ok (name, destination, path, size) =>
    let s := { s with uploadRequests := cancel s.uploadRequests i }
    match stol size with
    -- the exception ends the command
    | none => s
    | some fileSize => (s.setRequest name ⟨a.id, some i, destination, path, fileSize, false, ""⟩).report i a.id .done

def body (s : State) (k : Nat) (pss : Http) : State :=
  if ¬ pss.spa then s.setHttp k { pss with spa := true, filename := [], file_length := 0, last_percent_sent := 0 }
  else if (s.uploadRequests pss.filename).any fun d => d.outputbuffer = none then s.fail k pss
  else s

/-- `LWS_UFS_OPEN`. The name has room for 63 characters. -/
def openFile (s : State) (k : Nat) (pss : Http) (filename : Str) (result : OpenResult) : State :=
  let name := filename.take 63
  let pss := { pss with filename := name }
  match s.uploadRequests name with
  | none => (s.setRequest name { UploadData.empty with message := "Permission denied" }).fail k pss
  | some d =>
    match result with
    | .noFolder => (s.setRequest name { d with message := "Failed to create download folder" }).fail k pss
    | .noFile =>
      (s.setRequest name { d with message := "Failed to create or open file" }).fail k { pss with fd := false }
    | .opened =>
      ((s.setRequest name { d with uploading := true }).setHttp k { pss with fd := true }).addOp (.opened name)

/-- The copy to the destination and the removal. -/
def move (s : State) (k : Nat) (pss : Http) (d : UploadData) (result : MoveResult) : State :=
  if ¬ result.copied then
    (s.setRequest pss.filename { d with
      message := "Failed to copy file to destination folder." ++
        if result.removed then " Failed to delete download file." else "" }).fail k pss
  else if ¬ result.removed then
    (s.setRequest pss.filename { d with message := "Failed to delete download file." }).fail k pss
  else s.setHttp k { pss with fd := false }

/-- The file is complete: it is moved if required. -/
def finish (s : State) (k : Nat) (pss : Http) (d : UploadData) (result : MoveResult) : State :=
  if pss.fd ∧ d.destinationFileName ≠ [] then
    if d.destinationPath ≠ [] ∧ ¬ result.folder then
      (s.setRequest pss.filename { d with message := "Failed to create destination folder" }).fail k pss
    else (s.addOp (.copied pss.filename)).move k pss d result
  else s.setHttp k { pss with fd := false }

/-- Behind the write. -/
def advance (s : State) (k : Nat) (pss : Http) (d : UploadData) : Option MoveResult → State
  | none => s.setHttp k pss
  | some result => s.finish k pss d result

/-- The percentage, if it is to be sent. -/
def percent (pss : Http) (d : UploadData) (len : Nat) : Option Nat :=
  let percent := (pss.file_length + len) * 100 / d.fileSize
  if 0 < d.fileSize ∧ percent > pss.last_percent_sent then some percent else none

def content (s : State) (k : Nat) (pss : Http) (len : Nat) (final : Option MoveResult) : State :=
  let d := (s.uploadRequests pss.filename).getD .empty
  match d.outputbuffer with
  | none =>
    (s.setRequest pss.filename { d with
      message := "Connection dropped"
      uploading := if final.isSome then false else d.uploading }).fail k { pss with fd := false }
  | some i =>
    if len ≠ 0 ∧ pss.fd then
      let sent := percent pss d len
      let s := sent.elim s fun n => s.report i d.requestId (.sending n)
      let pss := { pss with
        file_length := pss.file_length + len
        last_percent_sent := sent.getD pss.last_percent_sent }
      if pss.file_length > 100000000 then
        (s.setRequest pss.filename { d with message := "File is too large" }).fail k { pss with fd := false }
      else (s.addOp (.written pss.filename)).advance k pss d final
    else s.advance k pss d final

def drop (s : State) (k : Nat) (pss : Http) : State :=
  let ended := { s with http := Function.update s.http k none }
  if pss.spa then
    match s.uploadRequests pss.filename with
    | none => ended
    | some d =>
      let status := if d.message = "" then Status.done else .failed d.message
      let reported := d.outputbuffer.elim ended fun i => ended.report i d.requestId status
      { reported with uploadRequests := Function.update s.uploadRequests pss.filename none }
  else ended

def clearOps (s : State) : State := { s with ops := [] }

def step (s : State) (e : Event) : Option State :=
  let s := s.clearOps
  match e with
  | .established i =>
    if (s.sessions i).isNone then some { s with sessions := Function.update s.sessions i (some .start) } else none
  | .authorization i session =>
    if (s.sessions i).isSome then some { s with sessions := Function.update s.sessions i (some session) } else none
  | .closed i =>
    if (s.sessions i).isSome then
      some { s with
        sessions := Function.update s.sessions i none
        uploadRequests := release s.uploadRequests i }
    else none
  | .uploadfile i args =>
    (s.sessions i).map fun session => if Administrator session then s.uploadfile i args else s
  | .connect k => if (s.http k).isNone then some (s.setHttp k ⟨false, [], 0, false, 0, false⟩) else none
  | .body k => ((s.http k).filter fun pss => ¬ pss.failed).map fun pss => s.body k pss
  | .openFile k filename result =>
    ((s.http k).filter fun pss => pss.spa ∧ ¬ pss.failed).map fun pss => s.openFile k pss filename result
  | .content k len final =>
    ((s.http k).filter fun pss => pss.spa ∧ ¬ pss.failed).map fun pss => s.content k pss len final
  | .completion k => ((s.http k).filter fun pss => pss.spa ∧ ¬ pss.failed).map fun _ => s
  | .drop k => (s.http k).map fun pss => s.drop k pss

end State

def uploads : Machine State Event := ⟨State.init, State.step⟩

/-! ### The requests that are pending -/

structure Pending where
  session : Nat
  uploading : Bool

structure History where
  pending : Str → Option Pending
  /-- The connections whose upload was denied. -/
  denied : Nat → Bool

namespace History

def start : History := ⟨fun _ => none, fun _ => false⟩

/-- The session makes another request. -/
def cancel (h : History) (i : Nat) (name : Str) : Option Pending :=
  (h.pending name).filter fun p => ¬ (p.session = i ∧ ¬ p.uploading)

def request (h : History) (i : Nat) (a : UploadArgs) : Str → Option Pending :=
  match a.checked with
  | .error _ => h.pending
  | .ok (name, _, _, size) =>
    if (stol size).isSome then Function.update (h.cancel i) name (some ⟨i, false⟩) else h.cancel i

def after (h : History) (s : State) (e : Event) (_ : State) : History :=
  match e with
  | .closed i => { h with pending := fun name => (h.pending name).filter fun p => p.session ≠ i }
  | .uploadfile i args => if (s.sessions i).any Administrator then { h with pending := h.request i args } else h
  | .openFile k filename result =>
    let name := filename.take 63
    { pending :=
        if result = .opened then
          Function.update h.pending name ((h.pending name).map fun p => { p with uploading := true })
        else h.pending
      denied := if (s.uploadRequests name).isNone then Function.update h.denied k true else h.denied }
  | .drop k =>
    { pending := if (s.http k).any Http.spa then
          Function.update h.pending (((s.http k).map Http.filename).getD []) none else h.pending
      denied := Function.update h.denied k false }
  | _ => h

end History

def requests : Machine (State × History) Event := uploads.withGhost .start History.after

/-- The upload that the event belongs to is denied, now or before. -/
def Denied (s : State × History) : Event → Prop
  | .openFile k filename _ => s.1.uploadRequests (filename.take 63) = none ∨ s.2.denied k = true
  | .body k | .content k _ _ | .completion k | .drop k => s.2.denied k = true
  | _ => False

/-- What a step is to do. -/
structure Authorised (s : State × History) (e : Event) (t : State × History) : Prop where
  files : ∀ op ∈ t.1.ops, (s.2.pending op.name).isSome
  denied : Denied s e → t.1.uploadRequests = s.1.uploadRequests
  closed : ∀ i, e = .closed i → ∀ name d j, s.1.uploadRequests name = some d → d.outputbuffer = some j → j ≠ i →
    t.1.uploadRequests name = some d

/-- A file is opened for an entry with an output buffer, and a session is closed that has all of the output buffers. -/
def Sound (s : State × History) : Event → Prop
  | .openFile _ filename result => ∃ d, s.1.uploadRequests (filename.take 63) = some d ∧
    (result = .opened → d.outputbuffer.isSome)
  | .closed i => ∀ name d j, s.1.uploadRequests name = some d → d.outputbuffer = some j → j = i
  | _ => True

end V2xHub.CommandPlugin.Uploads
