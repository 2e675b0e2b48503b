import V2xHub.Lib.Machine
import V2xHub.PortDrayageWebService.Actions

/-!
# The requests to the web service

Requests are handled one at a time. The actions of an area are always its accepted requests since the last reset, in their order:
those that are completed, then the current one, then those that wait (`Inv`). So all is in order behind every request, also behind
one that ends in a null dereference, and the service is right on a run where no request does (`port_actions`).
-/

namespace V2xHub.PortDrayageWebService

namespace Actions

variable {S : Type} (b : Actions S)

def pendingList : List (ActionStatus S) := b.pendingActions.getD []

def completedList : List (ActionStatus S) := b.completedActions.getD []

def pendingIds : List (Option String) := b.pendingList.map (·.actionId)

def currentIds : List (Option String) := b.currentAction.toList.map (·.actionId)

def completedIds : List (Option String) := b.completedList.map (·.actionId)

/-- All actions, where they are in the order of their requests. -/
def ids : List (Option String) := b.completedIds ++ b.currentIds ++ b.pendingIds

/-- If there is a current action, it has an ID. -/
def HasId : Prop := ∀ cur, b.currentAction = some cur → cur.actionId ≠ none

/-- The action that became the current one in the step to `b'`: none was before, or the one before is completed. -/
def newCurrent (b' : Actions S) : List (Option String) :=
  if b.currentAction.isNone ∨ b.completedList.length < b'.completedList.length then b'.currentIds else []

end Actions

/-- The IDs of the accepted requests since the last reset, and of the actions in the order in which they became current. -/
structure History where
  accepted : List (Option String) := []
  becameCurrent : List (Option String) := []

def History.after {S : Type} (h : History) (b b' : Actions S) : Asked → Response → History
  | .reset, _ => {}
  | .create request, .CREATED => ⟨h.accepted ++ [request.actionId], h.becameCurrent ++ b.newCurrent b'⟩
  | _, _ => ⟨h.accepted, h.becameCurrent ++ b.newCurrent b'⟩

section Sound

variable {S : Type} (b b' : Actions S) (h : History)

structure Ordered : Prop where
  current_of_pending : b.pendingList ≠ [] → b.currentAction.isSome
  exactly_one : ∀ actionId, some actionId ∈ h.accepted → (b.completedIds ++ b.currentIds ++ b.pendingIds).count (some actionId) = 1
  becameCurrent : h.becameCurrent <+: h.accepted
  completed : b.completedIds <+: h.accepted

/-- The step changes the status of the current action, or completes it. -/
def OnlyCurrent (cur : ActionStatus S) : Prop :=
  (∃ status, b' = { b with currentAction := some { cur with status } }) ∨
    ∃ done now, b'.completedList = b.completedList ++ [{ cur with status := done, completed := some now }] ∧
      b'.currentAction = b.pendingList.head? ∧ b'.pendingList = b.pendingList.tail

/-- What a request does to the actions of one area, as it should. -/
structure Sound (asked : Asked) (response : Response) : Prop where
  nothing : asked = .nothing → b' = b
  duplicate : ∀ request actionId, asked = .create request → request.actionId = some actionId → some actionId ∈ h.accepted → b' = b
  change : ∀ actionId, asked = .change actionId →
    b' = b ∨ ∃ cur, b.currentAction = some cur ∧ cur.actionId = some actionId ∧ OnlyCurrent b b' cur
  ordered : Ordered b' (h.after b b' asked response)

/-! ### The order of the actions -/

structure Inv : Prop where
  ids : b.ids = h.accepted
  becameCurrent : h.becameCurrent = b.completedIds ++ b.currentIds
  pending : b.currentAction = none → b.pendingList = []
  distinct : ∀ actionId, h.accepted.count (some actionId) ≤ 1

variable {b b' h} {asked : Asked} {response : Response} {cur : ActionStatus S}

theorem inv_init : Inv ({} : Actions S) {} where
  ids := rfl
  becameCurrent := rfl
  pending _ := rfl
  distinct _ := Nat.zero_le _

theorem Inv.ordered (hinv : Inv b h) : Ordered b h where
  current_of_pending hpending := Option.isSome_iff_ne_none.2 fun hnone => hpending (hinv.pending hnone)
  exactly_one actionId hmem := by
    have hids : b.completedIds ++ b.currentIds ++ b.pendingIds = h.accepted := hinv.ids
    rw [hids]
    exact Nat.le_antisymm (hinv.distinct actionId) (List.count_pos_iff.2 hmem)
  becameCurrent := by
    rw [hinv.becameCurrent, ← hinv.ids]
    exact List.prefix_append ..
  completed := by
    rw [← hinv.ids, Actions.ids, List.append_assoc]
    exact List.prefix_append ..

theorem find?_id_eq_none {l : List (ActionStatus S)} {actionId : String} :
    l.find? (·.actionId = some actionId) = none ↔ some actionId ∉ l.map (·.actionId) := by
  simp [List.find?_eq_none]

/-- The check for a duplicate finds the accepted requests. -/
theorem getActionStatus_eq_none {actionId : String} : b.getActionStatus (some actionId) = none ↔ some actionId ∉ b.ids := by
  have hcurrent : b.currentAction.filter (·.actionId = some actionId) = none ↔ some actionId ∉ b.currentIds := by
    rw [Actions.currentIds]
    cases b.currentAction with
    | none => simp
    | some cur =>
      have hfilter : (some cur).filter (·.actionId = some actionId) = none ↔ ¬ cur.actionId = some actionId := by simp
      rw [hfilter]
      simp [eq_comm]
  rw [Actions.getActionStatus, Option.or_eq_none_iff, Option.or_eq_none_iff, find?_id_eq_none, hcurrent, find?_id_eq_none, Actions.ids,
    List.mem_append, List.mem_append, not_or, not_or]
  exact ⟨fun ⟨hp, hc, hd⟩ => ⟨⟨hd, hc⟩, hp⟩, fun ⟨⟨hd, hc⟩, hp⟩ => ⟨hp, hc, hd⟩⟩

/-! ### What the effects do to the order -/

theorem ids_setCurrentStatus (status : S) : (b.setCurrentStatus status).completedIds = b.completedIds ∧
    (b.setCurrentStatus status).currentIds = b.currentIds ∧ (b.setCurrentStatus status).pendingIds = b.pendingIds := by
  refine ⟨rfl, ?_, rfl⟩
  rw [Actions.setCurrentStatus, Actions.currentIds, Actions.currentIds]
  cases b.currentAction with
  | none => rfl
  | some cur => rfl

theorem completeCurrentAction_eq (hcur : b.currentAction = some cur) (done : S) (now : Nat) :
    (b.completeCurrentAction done now).completedList = b.completedList ++ [{ cur with status := done, completed := some now }] ∧
      (b.completeCurrentAction done now).currentAction = b.pendingList.head? ∧
      (b.completeCurrentAction done now).pendingList = b.pendingList.tail := by
  rw [Actions.completeCurrentAction, hcur, Actions.pendingList]
  rcases hpending : b.pendingActions with _ | _ | ⟨next, pending⟩
  · exact ⟨rfl, rfl, by simp [Actions.pendingList]⟩
  · exact ⟨rfl, rfl, by simp [Actions.pendingList]⟩
  · exact ⟨rfl, rfl, rfl⟩

theorem ids_completeCurrentAction (hcur : b.currentAction = some cur) (done : S) (now : Nat) :
    (b.completeCurrentAction done now).completedIds = b.completedIds ++ b.currentIds ∧
      (b.completeCurrentAction done now).currentIds ++ (b.completeCurrentAction done now).pendingIds = b.pendingIds := by
  obtain ⟨hcompleted, hcurrent, hpending⟩ := completeCurrentAction_eq hcur done now
  constructor
  · rw [Actions.completedIds, hcompleted, Actions.currentIds, hcur, List.map_append, Actions.completedIds]
    rfl
  · rw [Actions.currentIds, Actions.pendingIds, hcurrent, hpending, ← List.map_append, Actions.pendingIds]
    cases b.pendingList with
    | nil => rfl
    | cons next pending => rfl

/-- An action that is requested is the current one, or behind all that wait. -/
theorem requestAction_cases (pending : S) (request : ActionRequest) (now : Nat) :
    (b.requestAction pending request now).completedList = b.completedList ∧
      (b.currentAction = none ∧ (b.requestAction pending request now).currentIds = [request.actionId] ∧
          (b.requestAction pending request now).pendingList = b.pendingList ∨
        b.currentAction.isSome ∧ (b.requestAction pending request now).currentAction = b.currentAction ∧
          (b.requestAction pending request now).pendingIds = b.pendingIds ++ [request.actionId]) := by
  rw [Actions.requestAction]
  rcases hcur : b.currentAction with _ | cur
  · exact ⟨rfl, .inl ⟨rfl, rfl, rfl⟩⟩
  · refine ⟨rfl, .inr ⟨rfl, rfl, ?_⟩⟩
    exact List.map_append

/-! ### Steps -/

/-- Nothing is a new current action where none was, nor is the current one. -/
theorem newCurrent_eq_nil (hsome : b.currentAction.isSome ∨ b'.currentAction = none)
    (hcompleted : b'.completedList.length ≤ b.completedList.length) : b.newCurrent b' = [] := by
  rw [Actions.newCurrent]
  split_ifs with hnew
  · rcases hsome with hsome | hnone
    · rcases hnew with hnew | hnew
      · rw [Option.isNone_iff_eq_none] at hnew
        rw [hnew] at hsome
        exact absurd hsome (by simp)
      · exact absurd hnew (Nat.not_lt.2 hcompleted)
    · rw [Actions.currentIds, hnone]
      rfl
  · rfl

theorem newCurrent_self : b.newCurrent b = [] := by
  refine newCurrent_eq_nil ?_ (Nat.le_refl _)
  cases b.currentAction with
  | none => exact .inr rfl
  | some cur => exact .inl rfl

/-- Where nothing becomes the current action and no request is accepted. -/
theorem after_eq_self (hnew : b.newCurrent b' = []) (hasked : asked ≠ .reset)
    (hresponse : ∀ request, asked = .create request → response ≠ .CREATED) :
    h.after b b' asked response = h := by
  obtain ⟨accepted, becameCurrent⟩ := h
  cases asked with
  | nothing => simp [History.after, hnew]
  | create request =>
    cases response with
    | CREATED => exact absurd rfl (hresponse request rfl)
    | OK => simp [History.after, hnew]
    | BAD_REQUEST => simp [History.after, hnew]
    | nullPointer => simp [History.after, hnew]
  | change actionId => simp [History.after, hnew]
  | reset => exact absurd rfl hasked

theorem Inv.created (hinv : Inv b h) {request : ActionRequest} (pending : S) (now : Nat)
    (hnew : b.getActionStatus request.actionId = none) :
    Inv (b.requestAction pending request now)
      ⟨h.accepted ++ [request.actionId], h.becameCurrent ++ b.newCurrent (b.requestAction pending request now)⟩ := by
  have hdistinct (actionId : String) : (h.accepted ++ [request.actionId]).count (some actionId) ≤ 1 := by
    rw [List.count_append]
    by_cases hsame : request.actionId = some actionId
    · rw [hsame, getActionStatus_eq_none, hinv.ids, ← List.count_eq_zero] at hnew
      have hone : [request.actionId].count (some actionId) = 1 := by rw [hsame, List.count_singleton_self]
      omega
    · have hother : some actionId ∉ [request.actionId] := fun hmem => hsame (List.mem_singleton.1 hmem).symm
      rw [List.count_eq_zero.2 hother]
      exact hinv.distinct actionId
  obtain ⟨hcompleted, hcases⟩ := requestAction_cases (b := b) pending request now
  have hcompletedIds : (b.requestAction pending request now).completedIds = b.completedIds := congrArg (List.map _) hcompleted
  rcases hcases with ⟨hnone, hcurrent, hpending⟩ | ⟨hsome, hcurrent, hpending⟩
  · have hempty : b.currentIds = [] := by
      rw [Actions.currentIds, hnone]
      rfl
    have hwaiting : (b.requestAction pending request now).pendingList = [] := hpending.trans (hinv.pending hnone)
    have hids := hinv.ids
    rw [Actions.ids, hempty, Actions.pendingIds, hinv.pending hnone] at hids
    have hbecame : b.newCurrent (b.requestAction pending request now) = [request.actionId] := by
      rw [Actions.newCurrent, hnone, if_pos (.inl rfl), hcurrent]
    refine ⟨?_, ?_, fun _ => hwaiting, hdistinct⟩
    · rw [Actions.ids, hcompletedIds, hcurrent, Actions.pendingIds, hwaiting, ← hids]
      simp
    · rw [hbecame, hinv.becameCurrent, hempty, hcompletedIds, hcurrent, List.append_nil]
  · have hcurrentIds : (b.requestAction pending request now).currentIds = b.currentIds := by
      rw [Actions.currentIds, hcurrent, Actions.currentIds]
    have hbecame : b.newCurrent (b.requestAction pending request now) = [] :=
      newCurrent_eq_nil (.inl hsome) (Nat.le_of_eq (congrArg List.length hcompleted))
    refine ⟨?_, ?_, fun hnone => ?_, hdistinct⟩
    · rw [Actions.ids, hcompletedIds, hcurrentIds, hpending, ← List.append_assoc, ← hinv.ids, Actions.ids]
    · rw [hbecame, List.append_nil, hinv.becameCurrent, hcompletedIds, hcurrentIds]
    · rw [hcurrent] at hnone
      rw [hnone] at hsome
      exact absurd hsome (by simp)

theorem Inv.set (hinv : Inv b h) (hcur : b.currentAction = some cur) (status : S) :
    Inv (b.setCurrentStatus status) ⟨h.accepted, h.becameCurrent ++ b.newCurrent (b.setCurrentStatus status)⟩ := by
  obtain ⟨hcompletedIds, hcurrentIds, hpendingIds⟩ := ids_setCurrentStatus (b := b) status
  have hsome : b.currentAction.isSome := by
    rw [hcur]
    rfl
  have hbecame : b.newCurrent (b.setCurrentStatus status) = [] := newCurrent_eq_nil (.inl hsome) (Nat.le_refl _)
  refine ⟨?_, ?_, fun hnone => ?_, hinv.distinct⟩
  · rw [Actions.ids, hcompletedIds, hcurrentIds, hpendingIds]
    exact hinv.ids
  · rw [hbecame, List.append_nil, hcompletedIds, hcurrentIds]
    exact hinv.becameCurrent
  · rw [Actions.setCurrentStatus, hcur] at hnone
    exact absurd hnone (Option.some_ne_none _)

theorem Inv.completed (hinv : Inv b h) (hcur : b.currentAction = some cur) (done : S) (now : Nat) :
    Inv (b.completeCurrentAction done now)
      ⟨h.accepted, h.becameCurrent ++ b.newCurrent (b.completeCurrentAction done now)⟩ := by
  obtain ⟨hcompletedIds, hrest⟩ := ids_completeCurrentAction hcur done now
  obtain ⟨hcompleted, hcurrent, hpending⟩ := completeCurrentAction_eq hcur done now
  have hbecame : b.newCurrent (b.completeCurrentAction done now) = (b.completeCurrentAction done now).currentIds := by
    have hlonger : b.completedList.length < (b.completeCurrentAction done now).completedList.length := by
      rw [hcompleted, List.length_append]
      exact Nat.lt_succ_self _
    rw [Actions.newCurrent, if_pos (.inr hlonger)]
  refine ⟨?_, ?_, fun hnone => ?_, hinv.distinct⟩
  · rw [Actions.ids, hcompletedIds, List.append_assoc, hrest]
    exact hinv.ids
  · rw [hbecame, hcompletedIds, hinv.becameCurrent]
  · rw [hcurrent, List.head?_eq_none_iff] at hnone
    rw [hpending, hnone, List.tail_nil]

theorem inv_clear : Inv b.clear {} := by
  have hpending : b.clear.pendingList = [] := by
    rw [Actions.pendingList, Actions.clear]
    cases b.pendingActions with
    | none => rfl
    | some l => rfl
  have hcompleted : b.clear.completedList = [] := by
    rw [Actions.completedList, Actions.clear]
    cases b.completedActions with
    | none => rfl
    | some l => rfl
  refine ⟨?_, ?_, fun _ => hpending, fun _ => Nat.zero_le _⟩
  · rw [Actions.ids, Actions.completedIds, Actions.pendingIds, hcompleted, hpending]
    rfl
  · rw [Actions.completedIds, hcompleted]
    rfl

/-- Every effect keeps the order. -/
theorem Inv.after (hinv : Inv b h) (heffect : Effect b asked response b') : Inv b' (h.after b b' asked response) := by
  cases heffect with
  | nothing response =>
    rw [after_eq_self newCurrent_self (by simp) (by simp)]
    exact hinv
  | rejected hresponse hasked =>
    rw [after_eq_self newCurrent_self hasked fun _ _ => hresponse]
    exact hinv
  | created pending now hnew => exact hinv.created pending now hnew
  | set status hcur hid => exact hinv.set hcur status
  | completed done now hcur hid => exact hinv.completed hcur done now
  | cleared => exact inv_clear

/-- Every effect is as it should be, where the actions are in order. -/
theorem Inv.sound (hinv : Inv b h) (heffect : Effect b asked response b') : Sound b b' h asked response := by
  refine ⟨?_, ?_, ?_, (hinv.after heffect).ordered⟩
  · rintro rfl
    cases heffect with
    | nothing response => rfl
    | rejected hresponse hasked => rfl
  · rintro request actionId rfl hid hmem
    cases heffect with
    | rejected hresponse hasked => rfl
    | created pending now hnew =>
      rw [hid, getActionStatus_eq_none, hinv.ids] at hnew
      exact absurd hmem hnew
  · rintro actionId rfl
    cases heffect with
    | rejected hresponse hasked => exact .inl rfl
    | @set _ cur status hcur hid =>
      refine .inr ⟨cur, hcur, hid, .inl ⟨status, ?_⟩⟩
      rw [Actions.setCurrentStatus, hcur]
      rfl
    | @completed _ cur done now hcur hid => exact .inr ⟨cur, hcur, hid, .inr ⟨done, now, completeCurrentAction_eq hcur done now⟩⟩

end Sound

/-! ### The service -/

structure WebService where
  loading : Actions ContainerActionStatus.StatusEnum := {}
  unloading : Actions ContainerActionStatus.StatusEnum := {}
  inspection : Actions InspectionStatus.StatusEnum := {}

inductive ContainerCall
  | create (request : ActionRequest) (currentTimeMillis : Nat)
  | start (actionId : String)
  | complete (actionId : String) (currentTimeMillis : Nat)

inductive InspectionCall
  | create (request : ActionRequest) (currentTimeMillis : Nat)
  | hold (actionId : String)
  | holding (actionId : String)
  | complete (actionId : String) (currentTimeMillis : Nat)

inductive Request
  | loading (request : ContainerCall)
  | unloading (request : ContainerCall)
  | inspection (request : InspectionCall)
  | uiactionReset

variable (validated : Bool)

def loadingResponse (b : Actions ContainerActionStatus.StatusEnum) :
    ContainerCall → Response × Actions ContainerActionStatus.StatusEnum
  | .create request now => loadingPost b validated request now
  | .start actionId => loadingStartActionIdPost b actionId
  | .complete actionId now => loadingCompleteActionIdPost b actionId now

def unloadingResponse (b : Actions ContainerActionStatus.StatusEnum) :
    ContainerCall → Response × Actions ContainerActionStatus.StatusEnum
  | .create request now => unloadingPost b validated request now
  | .start actionId => unloadingStartActionIdPost b actionId
  | .complete actionId now => unloadingCompleteActionIdPost b actionId now

def inspectionResponse (b : Actions InspectionStatus.StatusEnum) : InspectionCall → Response × Actions InspectionStatus.StatusEnum
  | .create request now => inspectionPost b validated request now
  | .hold actionId => inspectionHoldActionIdPost b actionId
  | .holding actionId => inspectionHoldingActionIdPost b actionId
  | .complete actionId now => inspectionCompleteActionIdPost b actionId now

/-- The response to a request, and the service behind it. What a controller throws ends its request only. -/
def respond (s : WebService) : Request → Response × WebService
  | .loading request =>
    let r := loadingResponse validated s.loading request
    (r.1, { s with loading := r.2 })
  | .unloading request =>
    let r := unloadingResponse validated s.unloading request
    (r.1, { s with unloading := r.2 })
  | .inspection request =>
    let r := inspectionResponse validated s.inspection request
    (r.1, { s with inspection := r.2 })
  | .uiactionReset => (.OK, ⟨s.loading.clear, s.unloading.clear, s.inspection.clear⟩)

def ContainerCall.asked : ContainerCall → Asked
  | .create request _ => .create request
  | .start actionId => .change actionId
  | .complete actionId _ => .change actionId

def InspectionCall.asked : InspectionCall → Asked
  | .create request _ => .create request
  | .hold actionId => .change actionId
  | .holding actionId => .change actionId
  | .complete actionId _ => .change actionId

namespace Request

def ofLoading : Request → Asked
  | .loading request => request.asked
  | .uiactionReset => .reset
  | _ => .nothing

def ofUnloading : Request → Asked
  | .unloading request => request.asked
  | .uiactionReset => .reset
  | _ => .nothing

def ofInspection : Request → Asked
  | .inspection request => request.asked
  | .uiactionReset => .reset
  | _ => .nothing

end Request

/-- The histories of the areas. -/
structure Histories where
  loading : History := {}
  unloading : History := {}
  inspection : History := {}

def Histories.after (h : Histories) (s : WebService) (e : Request) (t : WebService) : Histories where
  loading := h.loading.after s.loading t.loading e.ofLoading (respond validated s e).1
  unloading := h.unloading.after s.unloading t.unloading e.ofUnloading (respond validated s e).1
  inspection := h.inspection.after s.inspection t.inspection e.ofInspection (respond validated s e).1

def webService : Machine (WebService × Histories) Request :=
  Machine.withGhost ⟨{}, fun s e => some (respond validated s e).2⟩ {} (Histories.after validated)

/-! ### What is expected -/

/-- The request has a response, and does to the actions what it should. -/
structure Right (w : WebService × Histories) (e : Request) : Prop where
  answered : (respond validated w.1 e).1 ≠ .nullPointer
  loading : Sound w.1.loading (respond validated w.1 e).2.loading w.2.loading e.ofLoading (respond validated w.1 e).1
  unloading : Sound w.1.unloading (respond validated w.1 e).2.unloading w.2.unloading e.ofUnloading (respond validated w.1 e).1
  inspection : Sound w.1.inspection (respond validated w.1 e).2.inspection w.2.inspection e.ofInspection (respond validated w.1 e).1

/-- Where a request that changes the current action reads one, it has an ID, and `holding` has one to read. -/
def Readable (s : WebService) : Request → Prop
  | .loading (.start _) => s.loading.HasId
  | .loading (.complete ..) => s.loading.HasId
  | .unloading (.start _) => s.unloading.HasId
  | .unloading (.complete ..) => s.unloading.HasId
  | .inspection (.hold _) => s.inspection.HasId
  | .inspection (.complete ..) => s.inspection.HasId
  | .inspection (.holding _) => ∃ cur, s.inspection.currentAction = some cur ∧ cur.actionId ≠ none
  | _ => True

/-! ### Every request -/

section Effects

variable {s : WebService} {e : Request}

theorem effect_loading (s : WebService) (e : Request) :
    Effect s.loading e.ofLoading (respond validated s e).1 (respond validated s e).2.loading := by
  cases e with
  | loading request =>
    cases request with
    | create request now => exact Actions.effect_post validated _ request now
    | start actionId => exact Actions.effect_setCurrentStatus _ actionId
    | complete actionId now => exact Actions.effect_completeCurrentAction _ now actionId
  | unloading request => exact .nothing _
  | inspection request => exact .nothing _
  | uiactionReset => exact .cleared

theorem effect_unloading (s : WebService) (e : Request) :
    Effect s.unloading e.ofUnloading (respond validated s e).1 (respond validated s e).2.unloading := by
  cases e with
  | loading request => exact .nothing _
  | unloading request =>
    cases request with
    | create request now => exact Actions.effect_post validated _ request now
    | start actionId => exact Actions.effect_setCurrentStatus _ actionId
    | complete actionId now => exact Actions.effect_completeCurrentAction _ now actionId
  | inspection request => exact .nothing _
  | uiactionReset => exact .cleared

theorem effect_inspection (s : WebService) (e : Request) :
    Effect s.inspection e.ofInspection (respond validated s e).1 (respond validated s e).2.inspection := by
  cases e with
  | loading request => exact .nothing _
  | unloading request => exact .nothing _
  | inspection request =>
    cases request with
    | create request now => exact Actions.effect_post validated _ request now
    | hold actionId => exact Actions.effect_setCurrentStatus _ actionId
    | holding actionId => exact effect_inspectionHoldingActionIdPost _ actionId
    | complete actionId now => exact Actions.effect_completeCurrentAction _ now actionId
  | uiactionReset => exact .cleared

theorem onCurrent_ne_nullPointer {S : Type} {b b' : Actions S} (actionId : String) :
    (b.onCurrent actionId b').1 ≠ .nullPointer ↔ b.HasId := by
  rw [ne_eq, Actions.onCurrent_eq_nullPointer]
  simp only [not_exists, not_and, Actions.HasId, ne_eq]

theorem answered_iff (s : WebService) (e : Request) : (respond validated s e).1 ≠ .nullPointer ↔ Readable s e := by
  cases e with
  | loading request =>
    cases request with
    | create request now => exact iff_of_true (Actions.post_ne_nullPointer _ _ _ _) trivial
    | start actionId => exact onCurrent_ne_nullPointer actionId
    | complete actionId now => exact onCurrent_ne_nullPointer actionId
  | unloading request =>
    cases request with
    | create request now => exact iff_of_true (Actions.post_ne_nullPointer _ _ _ _) trivial
    | start actionId => exact onCurrent_ne_nullPointer actionId
    | complete actionId now => exact onCurrent_ne_nullPointer actionId
  | inspection request =>
    cases request with
    | create request now => exact iff_of_true (Actions.post_ne_nullPointer _ _ _ _) trivial
    | hold actionId => exact onCurrent_ne_nullPointer actionId
    | holding actionId =>
      refine (not_congr (inspectionHolding_eq_nullPointer s.inspection actionId)).trans ?_
      simp only [not_forall, exists_prop, Readable, ne_eq]
    | complete actionId now => exact onCurrent_ne_nullPointer actionId
  | uiactionReset => exact iff_of_true (by simp [respond]) trivial

end Effects

/-! ### Runs -/

structure WebServiceInv (w : WebService × Histories) : Prop where
  loading : Inv w.1.loading w.2.loading
  unloading : Inv w.1.unloading w.2.unloading
  inspection : Inv w.1.inspection w.2.inspection

variable {validated : Bool} {w w' : WebService × Histories} {e : Request}

theorem step_eq (hstep : (webService validated).step w e = some w') :
    w'.1 = (respond validated w.1 e).2 ∧ w'.2 = w.2.after validated w.1 e (respond validated w.1 e).2 := by
  obtain ⟨hservice, hhistory⟩ := Machine.step_withGhost.1 hstep
  have hservice' : w'.1 = (respond validated w.1 e).2 := (Option.some.inj hservice).symm
  rw [hservice'] at hhistory
  exact ⟨hservice', hhistory⟩

theorem WebServiceInv.step (hinv : WebServiceInv w) (hstep : (webService validated).step w e = some w') : WebServiceInv w' := by
  obtain ⟨hservice, hhistory⟩ := step_eq hstep
  obtain ⟨s, h⟩ := w'
  obtain rfl := hservice
  obtain rfl := hhistory
  exact ⟨hinv.loading.after (effect_loading validated w.1 e), hinv.unloading.after (effect_unloading validated w.1 e),
    hinv.inspection.after (effect_inspection validated w.1 e)⟩

theorem WebServiceInv.right_iff (hinv : WebServiceInv w) : Right validated w e ↔ Readable w.1 e := by
  rw [← answered_iff validated]
  exact ⟨fun hright => hright.answered, fun hanswered => ⟨hanswered, hinv.loading.sound (effect_loading validated w.1 e),
    hinv.unloading.sound (effect_unloading validated w.1 e), hinv.inspection.sound (effect_inspection validated w.1 e)⟩⟩

theorem webServiceInv_init : WebServiceInv (webService validated).init := ⟨inv_init, inv_init, inv_init⟩

/-- Every request is handled. -/
theorem exists_exec (validated : Bool) (es : List Request) (w : WebService × Histories) :
    ∃ w', (webService validated).exec w es = some w' := by
  induction es generalizing w with
  | nil => exact ⟨w, rfl⟩
  | cons e es ih =>
    obtain ⟨w', hw'⟩ := ih ((respond validated w.1 e).2, w.2.after validated w.1 e (respond validated w.1 e).2)
    exact ⟨w', Machine.exec_cons.2 ⟨_, rfl, hw'⟩⟩

/-- The service is right on a run exactly where no request reads an ID or an action that is not there. -/
theorem port_actions (validated : Bool) (es : List Request) :
    (webService validated).Meets (Right validated) (webService validated).init es ↔
      (webService validated).Meets (fun w e => Readable w.1 e) (webService validated).init es := by
  obtain ⟨w', hexec⟩ := exists_exec validated es (webService validated).init
  exact Machine.meets_iff (I := WebServiceInv) webServiceInv_init (fun _ _ _ hinv _ hstep => hinv.step hstep)
    (fun _ _ _ hinv _ => hinv.right_iff) hexec

/-- A vehicle says that it is holding where nothing is inspected, and an action without an ID is started. -/
theorem not_port_actions : ¬ (webService true).Meets (Right true) (webService true).init [.inspection (.holding "A")] ∧
    ¬ (webService false).Meets (Right false) (webService false).init
      [.loading (.create ⟨some "V", some "C", none⟩ 0), .loading (.start "A")] :=
  ⟨fun hright => hright.1.answered rfl, fun hright => (hright.2 _ rfl).1.answered rfl⟩

end V2xHub.PortDrayageWebService
