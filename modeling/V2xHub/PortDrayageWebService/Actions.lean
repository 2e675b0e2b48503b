import Mathlib.Data.List.Basic

/-!
# The actions of a port area (`LoadingActions.java`, `UnloadingActions.java`, `InspectionActions.java`, and their controllers)

The loading, the unloading and the inspection of containers each have one current action, the actions that wait for it and those
that are completed. The beans are alike but for their statuses. A controller reads the current action, and where it has no ID, or
for `holding` where there is none, that is a null dereference behind which the actions are as before.
-/

namespace V2xHub.PortDrayageWebService

/-- `ContainerRequest` or `InspectionRequest`. An attribute that is not in the payload is null. -/
structure ActionRequest where
  vehicleId : Option String
  containerId : Option String
  actionId : Option String
  deriving DecidableEq

/-- `ContainerActionStatus` or `InspectionStatus`. -/
structure ActionStatus (S : Type) where
  vehicleId : Option String
  containerId : Option String
  actionId : Option String
  status : S
  requested : Nat
  completed : Option Nat := none
  deriving DecidableEq

namespace ContainerActionStatus

inductive StatusEnum
  | LOADING
  | UNLOADING
  | LOADED
  | UNLOADED
  | PENDING
  | ABORTED
  deriving DecidableEq

end ContainerActionStatus

namespace InspectionStatus

inductive StatusEnum
  | PENDING
  | PROCEED_TO_HOLDING
  | PASSED
  | FAILED
  | HOLDING
  deriving DecidableEq

end InspectionStatus

/-- `ActionStatusList` or `InspectionStatusList`, whose list is null until an item is added. -/
abbrev StatusList (S : Type) := Option (List (ActionStatus S))

/-- How a request is answered, or that it ends in a null dereference. -/
inductive Response
  | OK
  | CREATED
  | BAD_REQUEST
  | nullPointer
  deriving DecidableEq

/-- One of the beans. -/
structure Actions (S : Type) where
  pendingActions : StatusList S := none
  completedActions : StatusList S := none
  currentAction : Option (ActionStatus S) := none
  deriving DecidableEq

namespace Actions

variable {S : Type} (b : Actions S)

def requestAction (pending : S) (request : ActionRequest) (currentTimeMillis : Nat) : Actions S :=
  let requestedAction : ActionStatus S :=
    { containerId := request.containerId, vehicleId := request.vehicleId, actionId := request.actionId, status := pending,
      requested := currentTimeMillis }
  if b.currentAction.isSome then { b with pendingActions := some (b.pendingActions.getD [] ++ [requestedAction]) }
  else { b with currentAction := some requestedAction }

def getActionStatus : Option String → Option (ActionStatus S)
  | none => none
  | some actionId =>
    ((b.pendingActions.getD []).find? (·.actionId = some actionId)).or
      ((b.currentAction.filter (·.actionId = some actionId)).or
        ((b.completedActions.getD []).find? (·.actionId = some actionId)))

def setCurrentStatus (status : S) : Actions S :=
  { b with currentAction := b.currentAction.map fun cur => { cur with status } }

def completeCurrentAction (done : S) (currentTimeMillis : Nat) : Actions S :=
  match b.currentAction with
  | none => b
  | some cur =>
    let completed := some (b.completedActions.getD [] ++ [{ cur with status := done, completed := some currentTimeMillis }])
    match b.pendingActions with
    | some (next :: pending) => ⟨some pending, completed, some next⟩
    | _ => ⟨b.pendingActions, completed, none⟩

def clear : Actions S := ⟨b.pendingActions.map fun _ => [], b.completedActions.map fun _ => [], none⟩

/-! ### The controllers -/

/-- Whether the generated interface answers a request without a required attribute before the controller is called. -/
def rejects (validated : Bool) (request : ActionRequest) : Bool :=
  validated && !(request.vehicleId.isSome && request.containerId.isSome && request.actionId.isSome)

def post (validated : Bool) (pending : S) (request : ActionRequest) (currentTimeMillis : Nat) : Response × Actions S :=
  if rejects validated request then (.BAD_REQUEST, b)
  else if (b.getActionStatus request.actionId).isNone then (.CREATED, b.requestAction pending request currentTimeMillis)
  else (.BAD_REQUEST, b)

/-- `cur != null && cur.getActionId().equals(actionId)`, where there is a result. -/
def isCurrent (actionId : String) : Option Bool :=
  match b.currentAction with
  | none => some false
  | some cur => cur.actionId.map (· = actionId)

/-- The step to `b'` for the current action only. -/
def onCurrent (actionId : String) (b' : Actions S) : Response × Actions S :=
  match b.isCurrent actionId with
  | none => (.nullPointer, b)
  | some true => (.CREATED, b')
  | some false => (.BAD_REQUEST, b)

end Actions

section Loading

open ContainerActionStatus

variable (b : Actions StatusEnum)

def loadingPost (validated : Bool) (request : ActionRequest) (currentTimeMillis : Nat) : Response × Actions StatusEnum :=
  b.post validated .PENDING request currentTimeMillis

def loadingStartActionIdPost (actionId : String) : Response × Actions StatusEnum :=
  b.onCurrent actionId (b.setCurrentStatus .LOADING)

def loadingCompleteActionIdPost (actionId : String) (currentTimeMillis : Nat) : Response × Actions StatusEnum :=
  b.onCurrent actionId (b.completeCurrentAction .LOADED currentTimeMillis)

def unloadingPost (validated : Bool) (request : ActionRequest) (currentTimeMillis : Nat) : Response × Actions StatusEnum :=
  b.post validated .PENDING request currentTimeMillis

def unloadingStartActionIdPost (actionId : String) : Response × Actions StatusEnum :=
  b.onCurrent actionId (b.setCurrentStatus .UNLOADING)

def unloadingCompleteActionIdPost (actionId : String) (currentTimeMillis : Nat) : Response × Actions StatusEnum :=
  b.onCurrent actionId (b.completeCurrentAction .UNLOADED currentTimeMillis)

end Loading

section Inspection

open InspectionStatus

variable (b : Actions StatusEnum)

def inspectionPost (validated : Bool) (request : ActionRequest) (currentTimeMillis : Nat) : Response × Actions StatusEnum :=
  b.post validated .PENDING request currentTimeMillis

def inspectionHoldActionIdPost (actionId : String) : Response × Actions StatusEnum :=
  b.onCurrent actionId (b.setCurrentStatus .PROCEED_TO_HOLDING)

/-- The warning of the other branch writes the current action, where there may be none. -/
def inspectionHoldingActionIdPost (actionId : String) : Response × Actions StatusEnum :=
  match b.currentAction with
  | none => (.nullPointer, b)
  | some cur =>
    match b.isCurrent actionId with
    | none => (.nullPointer, b)
    | some named =>
      if named ∧ cur.status = .PROCEED_TO_HOLDING then (.CREATED, b.setCurrentStatus .HOLDING) else (.BAD_REQUEST, b)

def inspectionCompleteActionIdPost (actionId : String) (currentTimeMillis : Nat) : Response × Actions StatusEnum :=
  b.onCurrent actionId (b.completeCurrentAction .PASSED currentTimeMillis)

end Inspection

/-! ### What a request can do to the actions -/

/-- What a request asks of the actions of one area. -/
inductive Asked
  | nothing
  | create (request : ActionRequest)
  | change (actionId : String)
  | reset

/-- The effects of a request, with the response. -/
inductive Effect {S : Type} (b : Actions S) : Asked → Response → Actions S → Prop
  | nothing (response : Response) : Effect b .nothing response b
  | rejected {asked : Asked} {response : Response} (hresponse : response ≠ .CREATED) (hasked : asked ≠ .reset) :
      Effect b asked response b
  | created {request : ActionRequest} (pending : S) (now : Nat) (hnew : b.getActionStatus request.actionId = none) :
      Effect b (.create request) .CREATED (b.requestAction pending request now)
  | set {actionId : String} {cur : ActionStatus S} (status : S) (hcur : b.currentAction = some cur)
      (hid : cur.actionId = some actionId) : Effect b (.change actionId) .CREATED (b.setCurrentStatus status)
  | completed {actionId : String} {cur : ActionStatus S} (done : S) (now : Nat) (hcur : b.currentAction = some cur)
      (hid : cur.actionId = some actionId) : Effect b (.change actionId) .CREATED (b.completeCurrentAction done now)
  | cleared : Effect b .reset .OK b.clear

namespace Actions

variable {S : Type} {b b' : Actions S} {actionId : String} {response : Response}

theorem isCurrent_eq_true : b.isCurrent actionId = some true ↔ ∃ cur, b.currentAction = some cur ∧ cur.actionId = some actionId := by
  rw [isCurrent]
  cases b.currentAction with
  | none => simp
  | some cur => simp [Option.map_eq_some_iff]

/-- The check has no result where the current action has no ID. -/
theorem isCurrent_eq_none : b.isCurrent actionId = none ↔ ∃ cur, b.currentAction = some cur ∧ cur.actionId = none := by
  rw [isCurrent]
  cases b.currentAction with
  | none => simp
  | some cur => simp

theorem effect_post (validated : Bool) (pending : S) (request : ActionRequest) (now : Nat) :
    Effect b (.create request) (b.post validated pending request now).1 (b.post validated pending request now).2 := by
  rw [post]
  split_ifs with hrejects hnew
  · exact .rejected (by simp) (by simp)
  · exact .created pending now (Option.isNone_iff_eq_none.1 hnew)
  · exact .rejected (by simp) (by simp)

theorem effect_onCurrent
    (h : ∀ cur, b.currentAction = some cur → cur.actionId = some actionId → Effect b (.change actionId) .CREATED b') :
    Effect b (.change actionId) (b.onCurrent actionId b').1 (b.onCurrent actionId b').2 := by
  rw [onCurrent]
  rcases hcurrent : b.isCurrent actionId with _ | _ | _
  · exact .rejected (by simp) (by simp)
  · exact .rejected (by simp) (by simp)
  · obtain ⟨cur, hcur, hid⟩ := isCurrent_eq_true.1 hcurrent
    exact h cur hcur hid

theorem effect_setCurrentStatus (status : S) (actionId : String) : Effect b (.change actionId)
    (b.onCurrent actionId (b.setCurrentStatus status)).1 (b.onCurrent actionId (b.setCurrentStatus status)).2 :=
  effect_onCurrent fun _ hcur hid => .set status hcur hid

theorem effect_completeCurrentAction (done : S) (now : Nat) (actionId : String) : Effect b (.change actionId)
    (b.onCurrent actionId (b.completeCurrentAction done now)).1 (b.onCurrent actionId (b.completeCurrentAction done now)).2 :=
  effect_onCurrent fun _ hcur hid => .completed done now hcur hid

theorem onCurrent_eq_nullPointer :
    (b.onCurrent actionId b').1 = .nullPointer ↔ ∃ cur, b.currentAction = some cur ∧ cur.actionId = none := by
  rw [onCurrent, ← isCurrent_eq_none]
  rcases b.isCurrent actionId with _ | _ | _
  · simp
  · simp
  · simp

theorem post_ne_nullPointer (validated : Bool) (pending : S) (request : ActionRequest) (now : Nat) :
    (b.post validated pending request now).1 ≠ .nullPointer := by
  rw [post]
  split_ifs with hrejects hnew
  · simp
  · simp
  · simp

end Actions

section Holding

variable (b : Actions InspectionStatus.StatusEnum) (actionId : String)

theorem effect_inspectionHoldingActionIdPost :
    Effect b (.change actionId) (inspectionHoldingActionIdPost b actionId).1 (inspectionHoldingActionIdPost b actionId).2 := by
  rw [inspectionHoldingActionIdPost]
  rcases hcur : b.currentAction with _ | cur
  · exact .rejected (by simp) (by simp)
  · rcases hcurrent : b.isCurrent actionId with _ | named
    · exact .rejected (by simp) (by simp)
    · dsimp only
      split_ifs with hnamed
      · obtain ⟨cur', hcur', hid⟩ := Actions.isCurrent_eq_true.1 (hcurrent.trans (congrArg some hnamed.1))
        exact .set .HOLDING hcur' hid
      · exact .rejected (by simp) (by simp)

/-- Holding has a result where there is a current action, and it has an ID. -/
theorem inspectionHolding_eq_nullPointer : (inspectionHoldingActionIdPost b actionId).1 = .nullPointer ↔
    ∀ cur, b.currentAction = some cur → cur.actionId = none := by
  rw [inspectionHoldingActionIdPost]
  rcases hcur : b.currentAction with _ | cur
  · simp
  · have hnone : b.isCurrent actionId = none ↔ cur.actionId = none := by
      rw [Actions.isCurrent_eq_none, hcur]
      simp
    rcases hcurrent : b.isCurrent actionId with _ | named
    · simp [hnone.1 hcurrent]
    · have hid : cur.actionId ≠ none := fun hid => by simp [hnone.2 hid] at hcurrent
      dsimp only
      split_ifs with hnamed
      · simp [hid]
      · simp [hid]

end Holding

end V2xHub.PortDrayageWebService
