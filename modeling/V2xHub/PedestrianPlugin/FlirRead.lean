import V2xHub.Lib.Machine
import V2xHub.Lib.Printf
import V2xHub.Lib.Strtol
import V2xHub.PropertyTree.Json

/-!
# The texts of a FLIR camera

`FLIRWebSockAsyncClnSession::on_read` and `timeStringParser`. The parser of JSON is a parameter. What does not fit an `int` is
what the hardware makes of it. The array of a PSM is stored as a whole; what stands in it behind the terminator is left out.
-/

namespace V2xHub.PedestrianPlugin.Flir

inductive Exception where
  | ptree_bad_path
  | number (e : Strtol.Error)
  /-- `pop_back` of an empty string, which is undefined. -/
  | undefined

/-- `static_cast<int>` of a floating point number. -/
def int32 : Double → Int
  | .finite q =>
    let n := if q < 0 then ⌈q⌉ else ⌊q⌋
    if -2 ^ 31 ≤ n ∧ n < 2 ^ 31 then n else -2 ^ 31
  | _ => -2 ^ 31

/-- From the frame of the camera to units of 0.0125 degrees. -/
def heading (cameraRotation : ℚ) (angle : Int) : Int :=
  let alpha := int32 (.finite (Single.round (Single.round (cameraRotation - Single.round angle) - 270)))
  let alpha := if alpha < 0 then alpha.tmod 360 + 360 else alpha
  int32 ((Double.ofInt alpha).div (Double.ofRat (125 / 10000)))

/-- `std::hex` -/
def hex (n : Nat) : Str :=
  if n = 0 then [48] else (Nat.digits 16 n).reverse.map fun d => UInt8.ofNat (if d < 10 then 48 + d else 87 + d)

/-- The zeros come behind the digits. -/
def octets (id : Int) : Str :=
  let result := hex (id % 2 ^ 32).toNat
  result ++ List.replicate (8 - result.length) 48

/-- In units of 0.02 m/s, as a float. -/
def speedUnits (speed : Double) : Double :=
  match speed.div (Double.ofRat (2 / 100)) with
  | .finite q => if |Single.round q| < 2 ^ 128 then .finite (Single.round q) else .infinity (q < 0)
  | d => d

/-- Without the points and the last character that is left. -/
def withoutPoint (s : Str) : Except Exception Str :=
  match s.filter fun c => c ≠ 46 with
  | [] => .error .undefined
  | t => .ok t.dropLast

def number {α : Type} : Except Strtol.Error α → Except Exception α
  | .ok a => .ok a
  | .error e => .error (.number e)

/-! ### A track -/

/-- What is kept from one track to the next. -/
structure Fields where
  alpha : Int
  idResult : Str
  lat : Str
  lon : Str
  speed : Double

def Fields.init : Fields := ⟨0, [], [], [], .finite 0⟩

/-- A member of a track, and what a text that is not empty does to the fields. -/
structure Member where
  name : String
  convert : Str → Except Exception (Fields → Fields)

def angle (cameraRotation : ℚ) : Member where
  name := "angle"
  convert s := (number (Strtol.stoi s)).map fun n f => { f with alpha := heading cameraRotation n }

def iD : Member where
  name := "iD"
  convert s := (number (Strtol.stoi s)).map fun n f => { f with idResult := octets n }

def latitude : Member where
  name := "latitude"
  convert s := (withoutPoint s).map fun t f => { f with lat := t }

def longitude : Member where
  name := "longitude"
  convert s := (withoutPoint s).map fun t f => { f with lon := t }

def speed : Member where
  name := "speed"
  convert s := (number (Strtof.stof s)).map fun v f => { f with speed := speedUnits v }

/-- In the order in which they are looked at. -/
def members (cameraRotation : ℚ) : List Member := [angle cameraRotation, iD, latitude, longitude, speed]

/-- A member without a text leaves the fields as they are. -/
def Member.read (m : Member) (track : Ptree) : Except Exception (Fields → Fields) :=
  match track.get m.name with
  | none => .error .ptree_bad_path
  | some s => if s = [] then .ok id else m.convert s

def readMembers (track : Ptree) : List Member → Fields → Except Exception Fields
  | [], f => .ok f
  | m :: ms, f =>
    match m.read track with
    | .error e => .error e
    | .ok update => readMembers track ms (update f)

/-! ### The time -/

/-- The text in front of the delimiter and the text behind it, which is the whole text if there is no delimiter. -/
def cut (delimiter : UInt8) (s : Str) : Str × Str :=
  (s.takeWhile fun c => c ≠ delimiter, if delimiter ∈ s then (s.dropWhile fun c => c ≠ delimiter).drop 1 else s)

/-- A single zero stays. -/
def stripZeros (s : Str) : Str := s.drop (min (s.takeWhile fun c => c = 48).length (s.length - 1))

structure DateTime where
  year : Int
  month : Int
  day : Int
  hour : Int
  mins : Int
  sec : Int
  millisecondsTotal : Int

def timeStringParser (dateTimeStr : Str) : Except Exception DateTime := do
  let stoi := fun s => number (Strtol.stoi (stripZeros s))
  let (year, dateTimeStr) := cut 45 dateTimeStr
  let (month, dateTimeStr) := cut 45 dateTimeStr
  let (day, dateTimeStr) := cut 84 dateTimeStr
  let (hour, dateTimeStr) := cut 58 dateTimeStr
  let (mins, dateTimeStr) := cut 58 dateTimeStr
  let (sec, dateTimeStr) := cut 46 dateTimeStr
  let (milliseconds, _) := cut 45 dateTimeStr
  let millisecondsTotal := ((← stoi sec) * 1000 + (← stoi milliseconds)).bmod (2 ^ 32)
  return ⟨← stoi year, ← stoi month, ← stoi day, ← stoi hour, ← stoi mins, ← stoi sec, millisecondsTotal⟩

/-! ### The session -/

/-- The last of the seven numbers stands for the second, too. -/
def psmText (dateTimeArr : DateTime) (msgCount : Nat) (f : Fields) : Str :=
  CString.lit ("<?xml version=\"1.0\" encoding=\"UTF-8\"?><PersonalSafetyMessage><basicType><aPEDESTRIAN/></basicType>" ++
    "<secMark>") ++ Printf.lld dateTimeArr.millisecondsTotal ++ CString.lit "</secMark><msgCnt>" ++ Printf.lld msgCount ++
  CString.lit "</msgCnt><id>" ++ f.idResult ++ CString.lit "</id><position><lat>" ++ f.lat ++
  CString.lit "</lat><long>" ++ f.lon ++ CString.lit ("</long></position><accuracy>" ++
    "<semiMajor>255</semiMajor><semiMinor>255</semiMinor><orientation>65535</orientation></accuracy><speed>") ++
  Printf.fixed0 f.speed ++ CString.lit "</speed><heading>" ++ Printf.lld f.alpha ++
  CString.lit "</heading><pathHistory><initialPosition><utcTime><year>" ++ Printf.lld dateTimeArr.year ++
  CString.lit "</year><month>" ++ Printf.lld dateTimeArr.month ++ CString.lit "</month><day>" ++
  Printf.lld dateTimeArr.day ++ CString.lit "</day><hour>" ++ Printf.lld dateTimeArr.hour ++
  CString.lit "</hour><minute>" ++ Printf.lld dateTimeArr.mins ++ CString.lit "</minute><second>" ++
  Printf.lld dateTimeArr.millisecondsTotal ++ CString.lit ("</second></utcTime>" ++
    "<long>0</long><lat>0</lat></initialPosition><crumbData><PathHistoryPoint><latOffset>0</latOffset>" ++
    "<lonOffset>0</lonOffset><elevationOffset>0</elevationOffset><timeOffset>1</timeOffset></PathHistoryPoint>" ++
    "</crumbData></pathHistory></PersonalSafetyMessage>")

/-- A PSM with the time and the track that it was made of. -/
structure Message where
  time : Str
  track : Ptree
  psm : Str

structure Session where
  msgCount : Nat
  /-- What has been queued. -/
  queued : List Message
  /-- `async_read` has been called. -/
  reading : Bool
  /-- What has left `on_read`. -/
  escaped : Option Exception

/-- `on_write` has called `async_read`. -/
def Session.init : Session := ⟨0, [], true, none⟩

namespace Session

def throw (s : Session) (e : Exception) : Session := { s with escaped := some e }

def async_read (s : Session) : Session := { s with reading := true }

/-- `snprintf` leaves room for the terminator. -/
def push (s : Session) (time : Str) (track : Ptree) (dateTimeArr : DateTime) (f : Fields) : Session :=
  let msgCount := if s.msgCount + 1 > 127 then 0 else s.msgCount + 1
  { s with msgCount, queued := s.queued ++ [⟨time, track, (psmText dateTimeArr msgCount f).take 9999⟩] }

section
variable (cameraRotation : ℚ) (read_json : Str → Option Ptree)

/-- The loop over the tracks. A missing member is caught behind the loop; `stoi` and `stof` throw something else. -/
def tracks (time : Str) : Session → Fields → List Ptree → Session
  | s, _, [] => s
  | s, f, track :: rest =>
    match readMembers track (members cameraRotation) f with
    | .error .ptree_bad_path => s
    | .error e => s.throw e
    | .ok f =>
      match timeStringParser time with
      | .error e => s.throw e
      | .ok dateTimeArr => tracks time (s.push time track dateTimeArr f) f rest

/-- `async_read` is called if nothing is thrown. -/
def finish (s : Session) : Session :=
  match s.escaped with
  | none => s.async_read
  | some _ => s

/-- The tree is empty if `read_json` throws, which is caught. -/
def on_read (s : Session) (text : Str) : Session :=
  let s := { s with reading := false }
  let pr := (read_json text).getD (.node [] [])
  match pr.get "messageType" with
  | none => s.throw .ptree_bad_path
  | some messageType =>
    if messageType = CString.lit "Subscription" then
      match (pr.get_child "subscription").bind (Ptree.get "returnValue") with
      | none => s.throw .ptree_bad_path
      | some _ => s.async_read
    else if messageType = CString.lit "Data" then
      match pr.get "time" with
      | none => s.throw .ptree_bad_path
      | some time =>
        match pr.get "type" with
        | none => s.throw .ptree_bad_path
        | some type =>
          if type = CString.lit "PedestrianPresenceTracking" then
            match pr.get_child "track" with
            | none => s.async_read
            | some track => (tracks cameraRotation time s .init (track.children.map Prod.snd)).finish
          else s.async_read
    else s.async_read

def step (s : Session) (text : Str) : Option Session :=
  if s.reading then some (s.on_read cameraRotation read_json text) else none

end

end Session

/-- The events are the texts that are received. -/
def session (cameraRotation : ℚ) (read_json : Str → Option Ptree) : Machine Session Str :=
  ⟨Session.init, Session.step cameraRotation read_json⟩

end V2xHub.PedestrianPlugin.Flir
