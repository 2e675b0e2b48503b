import V2xHub.CARMAStreetsPlugin.Survival

/-!
# Signal status messages from JSON

`JsonToJ2735SSMConverter::toJ2735SSM` on a structure that may have been filled before. It frees what the structure points to,
which sets no pointer back to null, and then writes what the document has. `convert` on a structure of zeros is the
`toJ2735SSM` of the consumer (`convert_fresh`). `ssm_from_json` says exactly when the message is the one of the document.
-/

namespace V2xHub.CARMAStreetsPlugin
open JsonCpp JsonCpp.Value

namespace Ssm

/-- A pointer of a structure that is used again. -/
inductive Pointer where
  | null
  | freed
  | value (n : Int64)
deriving DecidableEq

def Pointer.ofOption : Option Int64 → Pointer
  | none => null
  | some n => value n

/-- The `SignalStatusMessage` behind the shared pointer. -/
structure Held where
  timeStamp : Pointer
  second : Int64
  status : List SignalStatus

/-- `std::make_shared<SignalStatusMessage>()` -/
def Held.fresh : Held := ⟨.null, 0, []⟩

def Held.ofMessage (m : SignalStatusMessage) : Held := ⟨.ofOption m.timeStamp, m.second, m.status⟩

/-- `ASN_STRUCT_FREE_CONTENTS_ONLY`: the list of the statuses is emptied, the pointer stays as it is. Memory that is freed a
second time is undefined. -/
def Held.free (held : Held) : Option Held :=
  match held.timeStamp with
  | .null => some { held with status := [] }
  | .value _ => some { held with timeStamp := .freed, status := [] }
  | .freed => none

def Held.setSecond (held : Held) (second : Option Int64) : Held := { held with second := second.getD held.second }

def Held.setTimeStamp (held : Held) (minuteOfYear : Option Int64) : Held :=
  { held with timeStamp := minuteOfYear.elim held.timeStamp .value }

def Held.setStatus (held : Held) (status : SignalStatus) : Held := { held with status := [status] }

/-- The structure after `toJ2735SSM`, and whether the document was read to its end. -/
def convert (ssmDoc : Value) (held : Held) : Option (Held × Bool) :=
  held.free.map fun held =>
    match ssmDoc.isMember "SignalStatus" with
    | .ok true =>
      match ssmDoc.readAt "SignalStatus" (numericAt "msOfMinute") with
      | .ok second =>
        match ssmDoc.readAt "SignalStatus" (numericAt "minuteOfYear") with
        | .ok minuteOfYear =>
          match ssmDoc.readAt "SignalStatus" signalStatus with
          | .ok status => (((held.setSecond second).setTimeStamp minuteOfYear).setStatus status, true)
          | .error _ => ((held.setSecond second).setTimeStamp minuteOfYear, false)
        | .error _ => (held.setSecond second, false)
      | .error _ => (held, false)
    | _ => (held, false)

/-! ### What the message should say -/

/-- The member as a number, if it is one. -/
def number (key : String) (v : Value) : Option Int64 :=
  if (v.get key).isNumeric then (v.get key).asInt64.toOption else none

/-- The entries of the array of the requestors. -/
def requestors (json : Value) : List Value :=
  if (json.get "requestorInfo").isArray then (json.get "requestorInfo").elements else []

/-- The lane of the entry, or the approach where it names no lane. -/
inductive InboundOf (json : Value) : IntersectionAccessPoint → Prop
  | lane {n : Int64} (h : number "inBoundLaneID" json = some n) : InboundOf json (.lane n)
  | approach {n : Int64} (hlane : number "inBoundLaneID" json = none) (h : number "inBoundApproachID" json = some n) :
    InboundOf json (.approach n)
  | NOTHING (hlane : number "inBoundLaneID" json = none) (h : number "inBoundApproachID" json = none) :
    InboundOf json .NOTHING

/-- Every member of the entry is in its own field. -/
structure PackageOf (json : Value) (p : SignalStatusPackage) : Prop where
  request : p.request = (number "requestID" json).getD 0
  stationID : p.stationID = number "vehicleID" json
  sequenceNumber : p.sequenceNumber = (number "msgCount" json).getD 0
  role : p.role = number "basicVehicleRole" json
  inboundOn : InboundOf json p.inboundOn
  status : p.status = (number "priorityRequestStatus" json).getD 0
  duration : p.duration = number "ETA_Duration" json
  minute : p.minute = number "ETA_Minute" json
  second : p.second = number "ETA_Second" json

/-- The message is the one of the document, and of nothing else. -/
structure Carries (json : Value) (m : Held) : Prop where
  timeStamp : m.timeStamp = .ofOption (number "minuteOfYear" json)
  second : m.second = (number "msOfMinute" json).getD 0
  status : ∃ s, m.status = [s] ∧ s.id = (number "intersectionID" json).getD 0 ∧
    s.sequenceNumber = (number "sequenceNumber" json).getD 0 ∧ List.Forall₂ PackageOf (requestors json) s.sigStatus

/-- What was in the structure before is written over: there was no time, or a new one comes, and so for the second. -/
def Held.Overwritten (held : Held) (json : Value) : Prop :=
  (held.timeStamp = .null ∨ held.timeStamp ≠ .freed ∧ number "minuteOfYear" json ≠ none) ∧
    (held.second = 0 ∨ number "msOfMinute" json ≠ none)

variable {json ssmDoc : Value} {key : String} {o : Option Int64} {p : SignalStatusPackage} {s : SignalStatus}
  {held : Held} {β : Type} {env : Environment β}

/-! ### What is read -/

theorem numericAt_eq_ok (h : numericAt key json = .ok o) : o = number key json := by
  cases json with
  | null =>
    obtain rfl := Except.ok.inj h
    rfl
  | object members =>
    have hget : (object members).get key = (lookup key members).getD null := rfl
    unfold numericAt at h
    unfold number
    rw [isMember_object, ok_bind, member_object] at h
    rw [hget]
    cases hlookup : lookup key members with
    | none =>
      rw [hlookup] at h
      obtain rfl := Except.ok.inj h
      rfl
    | some v =>
      rw [hlookup] at h
      simp only [Option.isSome_some, if_true, Option.getD_some, ok_bind] at h ⊢
      by_cases hv : v.isNumeric
      · rw [if_pos hv] at h ⊢
        obtain ⟨n, hn, rfl⟩ := map_eq_ok.1 h
        rw [hn]
        rfl
      · rw [if_neg hv] at h ⊢
        exact (Except.ok.inj h).symm
  | _ => nomatch h

/-- The one member that is not in its own field is `ETA_Second`. -/
theorem packageOf_iff (h : populateSigStatusPackage json = .ok p) :
    PackageOf json p ↔ number "ETA_Second" json = none := by
  unfold populateSigStatusPackage at h
  obtain ⟨request, hrequest, h⟩ := bind_eq_ok.1 h
  obtain ⟨stationID, hstation, h⟩ := bind_eq_ok.1 h
  obtain ⟨sequenceNumber, hsequence, h⟩ := bind_eq_ok.1 h
  obtain ⟨role, hrole, h⟩ := bind_eq_ok.1 h
  obtain ⟨lane, hlane, h⟩ := bind_eq_ok.1 h
  obtain ⟨inboundOn, hinbound, h⟩ : ∃ inboundOn, InboundOf json inboundOn ∧ (do
      let status ← numericAt "priorityRequestStatus" json
      let duration ← numericAt "ETA_Duration" json
      let minute ← numericAt "ETA_Minute" json
      let second ← numericAt "ETA_Second" json
      return SignalStatusPackage.mk (request.getD 0) stationID (sequenceNumber.getD 0) role inboundOn (status.getD 0)
        (second.or minute) none duration) = Except.ok p := by
    have hlane := numericAt_eq_ok hlane
    cases lane with
    | some lane => exact ⟨.lane lane, .lane hlane.symm, h⟩
    | none =>
      obtain ⟨approach, happroach, h⟩ := bind_eq_ok.1 h
      have happroach := numericAt_eq_ok happroach
      cases approach with
      | some approach => exact ⟨.approach approach, .approach hlane.symm happroach.symm, h⟩
      | none => exact ⟨.NOTHING, .NOTHING hlane.symm happroach.symm, h⟩
  obtain ⟨status, hstatus, h⟩ := bind_eq_ok.1 h
  obtain ⟨duration, hduration, h⟩ := bind_eq_ok.1 h
  obtain ⟨minute, hminute, h⟩ := bind_eq_ok.1 h
  obtain ⟨second, hsecond, h⟩ := bind_eq_ok.1 h
  obtain rfl := Except.ok.inj h
  rw [numericAt_eq_ok hrequest, numericAt_eq_ok hstation, numericAt_eq_ok hsequence, numericAt_eq_ok hrole,
    numericAt_eq_ok hstatus, numericAt_eq_ok hduration, numericAt_eq_ok hminute, numericAt_eq_ok hsecond]
  constructor
  · exact fun hp => hp.second.symm
  · intro hnone
    rw [hnone]
    exact {
      request := rfl
      stationID := rfl
      sequenceNumber := rfl
      role := rfl
      inboundOn := hinbound
      status := rfl
      duration := rfl
      minute := rfl
      second := hnone.symm }

theorem forall₂_of_mapM {α γ : Type} {f : α → Except Exception γ} {l : List α} {r : List γ} (h : l.mapM f = .ok r) :
    List.Forall₂ (fun a b => f a = .ok b) l r := by
  induction l generalizing r with
  | nil =>
    obtain rfl := Except.ok.inj h
    exact .nil
  | cons a l ih =>
    rw [List.mapM_cons] at h
    obtain ⟨b, hb, h⟩ := bind_eq_ok.1 h
    obtain ⟨bs, hbs, h⟩ := bind_eq_ok.1 h
    obtain rfl := Except.ok.inj h
    exact .cons hb (ih hbs)

/-- The packages of a status are the conversions of the requestors, in their order. -/
theorem signalStatus_eq_ok (h : signalStatus json = .ok s) : s.id = (number "intersectionID" json).getD 0 ∧
    s.sequenceNumber = (number "sequenceNumber" json).getD 0 ∧
      List.Forall₂ (fun e p => populateSigStatusPackage e = .ok p) (requestors json) s.sigStatus := by
  unfold signalStatus at h
  obtain ⟨id, hid, h⟩ := bind_eq_ok.1 h
  obtain ⟨sequenceNumber, hsequence, h⟩ := bind_eq_ok.1 h
  obtain ⟨listed, hlisted, h⟩ := bind_eq_ok.1 h
  have hindexable : json.Indexable := by
    cases json <;> trivial
  rw [isMember_eq hindexable] at hlisted
  obtain rfl := Except.ok.inj hlisted
  by_cases hcontains : json.contains "requestorInfo"
  · rw [if_pos hcontains] at h
    obtain ⟨requestorInfo, hinfo, h⟩ := bind_eq_ok.1 h
    obtain rfl := Except.ok.inj h
    refine ⟨by rw [numericAt_eq_ok hid], by rw [numericAt_eq_ok hsequence], ?_⟩
    unfold requestors
    rw [arrayAt, member_eq hindexable, ok_bind] at hinfo
    by_cases harray : (json.get "requestorInfo").isArray
    · rw [if_pos harray] at hinfo ⊢
      obtain ⟨ps, hps, rfl⟩ := map_eq_ok.1 hinfo
      exact forall₂_of_mapM hps
    · rw [if_neg harray] at hinfo ⊢
      obtain rfl := Except.ok.inj hinfo
      exact .nil
  · rw [if_neg hcontains] at h
    obtain rfl := Except.ok.inj h
    refine ⟨by rw [numericAt_eq_ok hid], by rw [numericAt_eq_ok hsequence], ?_⟩
    have hnull : (json.get "requestorInfo").isArray = false := by
      rw [get_of_not_contains (Bool.eq_false_of_not_eq_true hcontains)]
      rfl
    rw [requestors, hnull]
    exact .nil

/-! ### A conversion -/

/-- The document is read to its end. -/
def Accepted (ssmDoc : Value) : Prop := (toJ2735SSM ssmDoc).2 = true

theorem convert_fresh (ssmDoc : Value) :
    convert ssmDoc .fresh = some (.ofMessage (toJ2735SSM ssmDoc).1, (toJ2735SSM ssmDoc).2) := by
  show some _ = some _
  unfold toJ2735SSM
  generalize ssmDoc.isMember "SignalStatus" = member
  generalize ssmDoc.readAt "SignalStatus" (numericAt "msOfMinute") = second
  generalize ssmDoc.readAt "SignalStatus" (numericAt "minuteOfYear") = minuteOfYear
  generalize ssmDoc.readAt "SignalStatus" signalStatus = status
  obtain _ | (_ | _) := member
  · rfl
  · rfl
  · obtain _ | second := second
    · rfl
    · obtain _ | minuteOfYear := minuteOfYear
      · rfl
      · cases status <;> cases minuteOfYear <;> rfl

/-- What an accepted document makes of any structure. -/
theorem convert_of_accepted (h : Accepted ssmDoc) : ∃ s, signalStatus (ssmDoc.get "SignalStatus") = .ok s ∧
    ∀ held, convert ssmDoc held = held.free.map fun held =>
      (((held.setSecond (number "msOfMinute" (ssmDoc.get "SignalStatus"))).setTimeStamp
        (number "minuteOfYear" (ssmDoc.get "SignalStatus"))).setStatus s, true) := by
  have hread : ∀ {α : Type} (read : Value → Except Exception α), ssmDoc.isMember "SignalStatus" = .ok true →
      ssmDoc.readAt "SignalStatus" read = read (ssmDoc.get "SignalStatus") := by
    intro α read hmember
    cases ssmDoc with
    | object members => rfl
    | _ => nomatch hmember
  unfold Accepted toJ2735SSM at h
  split at h
  · rename_i hmember
    rw [hread _ hmember, hread _ hmember, hread _ hmember] at h
    split at h
    · rename_i second hsecond
      split at h
      · rename_i timeStamp htime
        split at h
        · rename_i s hs
          refine ⟨s, hs, fun held => ?_⟩
          unfold convert
          rw [hmember]
          dsimp only
          rw [hread _ hmember, hread _ hmember, hread _ hmember, hsecond, htime, hs, numericAt_eq_ok hsecond,
            numericAt_eq_ok htime]
        · nomatch h
      · nomatch h
    · nomatch h
  · nomatch h

theorem timeStamp_free {held' : Held} (h : held.free = some held') :
    (held'.setTimeStamp o).timeStamp = .ofOption o ↔ held.timeStamp = .null ∨ held.timeStamp ≠ .freed ∧ o ≠ none := by
  obtain ⟨timeStamp, second, status⟩ := held
  cases timeStamp with
  | null =>
    obtain rfl := Option.some.inj h
    cases o <;> simp [Held.setTimeStamp, Pointer.ofOption]
  | freed => nomatch h
  | value n =>
    obtain rfl := Option.some.inj h
    cases o <;> simp [Held.setTimeStamp, Pointer.ofOption]

theorem second_free {held' : Held} (h : held.free = some held') :
    (held'.setSecond o).second = o.getD 0 ↔ held.second = 0 ∨ o ≠ none := by
  have hsame : held'.second = held.second := by
    obtain ⟨timeStamp, second, status⟩ := held
    cases timeStamp with
    | null => rw [← Option.some.inj h]
    | freed => nomatch h
    | value n => rw [← Option.some.inj h]
  cases o <;> simp [Held.setSecond, hsame]

theorem carries_iff (h : Accepted ssmDoc) (held : Held) :
    (∃ m, convert ssmDoc held = some (m, true) ∧ Carries (ssmDoc.get "SignalStatus") m) ↔
      (∀ e ∈ requestors (ssmDoc.get "SignalStatus"), number "ETA_Second" e = none) ∧
        held.Overwritten (ssmDoc.get "SignalStatus") := by
  obtain ⟨s, hs, hconvert⟩ := convert_of_accepted h
  obtain ⟨hid, hsequence, hpackages⟩ := signalStatus_eq_ok hs
  have hstatus : List.Forall₂ PackageOf (requestors (ssmDoc.get "SignalStatus")) s.sigStatus ↔
      ∀ e ∈ requestors (ssmDoc.get "SignalStatus"), number "ETA_Second" e = none :=
    forall₂_iff_forall hpackages fun _ _ hp => packageOf_iff hp
  rw [hconvert]
  cases hfree : held.free with
  | none =>
    refine iff_of_false (fun ⟨m, hm, _⟩ => nomatch hm) fun ⟨_, htime, _⟩ => ?_
    obtain ⟨timeStamp, second, status⟩ := held
    cases timeStamp with
    | freed => exact htime.elim nofun fun h => h.1 rfl
    | null => nomatch hfree
    | value n => nomatch hfree
  | some held' =>
    rw [← hstatus]
    constructor
    · rintro ⟨m, hm, hcarries⟩
      obtain ⟨rfl, -⟩ := Prod.mk.inj (Option.some.inj hm)
      obtain ⟨s', hs', -, -, hall⟩ := hcarries.status
      obtain rfl := List.singleton_inj.1 hs'
      exact ⟨hall, (timeStamp_free hfree).1 hcarries.timeStamp, (second_free hfree).1 hcarries.second⟩
    · rintro ⟨hall, htime, hsecond⟩
      exact ⟨_, rfl, (timeStamp_free hfree).2 htime, (second_free hfree).2 hsecond, s, rfl, hid, hsequence, hall⟩

theorem no_broadcast (h : ¬ Accepted ssmDoc) : ∃ r, handle env .ssm ssmDoc = .ok r ∧ r.broadcasts = [] := by
  refine ⟨_, rfl, ?_⟩
  have hnil := status_of_not_read (Bool.eq_false_of_not_eq_true h)
  rw [env.encodeSSM_nil _ hnil]
  rfl

end Ssm

open Ssm in
/-- Of any document and any structure, fresh or used before: an accepted document gives the message it says, one that is not
accepted gives no broadcast, if and only if no requestor of an accepted document has a numeric `ETA_Second` and the document
writes over what the structure held. -/
theorem ssm_from_json {β : Type} (env : Environment β) (ssmDoc : Value) (held : Held) :
    ((Accepted ssmDoc → ∃ m, convert ssmDoc held = some (m, true) ∧ Carries (ssmDoc.get "SignalStatus") m) ∧
      (¬ Accepted ssmDoc → ∃ r, handle env .ssm ssmDoc = .ok r ∧ r.broadcasts = [])) ↔
    (Accepted ssmDoc → (∀ e ∈ requestors (ssmDoc.get "SignalStatus"), number "ETA_Second" e = none) ∧
      held.Overwritten (ssmDoc.get "SignalStatus")) := by
  constructor
  · exact fun h haccepted => (carries_iff haccepted held).1 (h.1 haccepted)
  · exact fun h => ⟨fun haccepted => (carries_iff haccepted held).2 (h haccepted), no_broadcast⟩

open Ssm in
/-- A requestor with both: the second is stored as the minute. -/
theorem ssm_from_json_second :
    let json := object [("requestorInfo", .array [object [("ETA_Minute", int 1), ("ETA_Second", int 20)]])]
    let ssmDoc := object [("SignalStatus", json)]
    Accepted ssmDoc ∧ (∃ m s p, convert ssmDoc .fresh = some (m, true) ∧ m.status = [s] ∧ s.sigStatus = [p] ∧
      p.minute = some 20) ∧ ¬ ∃ m, convert ssmDoc .fresh = some (m, true) ∧ Carries json m := by
  intro json ssmDoc
  have haccepted : Accepted ssmDoc := rfl
  refine ⟨haccepted, ⟨_, _, _, rfl, rfl, rfl, rfl⟩, fun h => ?_⟩
  exact absurd ((carries_iff haccepted .fresh).1 h).1 fun hall => absurd (hall _ (List.mem_singleton_self _)) (by decide +kernel)

end V2xHub.CARMAStreetsPlugin
