import V2xHub.Lib.CString
import Mathlib.Data.List.Induction
import Mathlib.Logic.Function.Basic

/-!
# Message handlers

`register_handler` keeps the allocator of a handler in a static variable of the function, one for each payload class and handler
class, and makes it at the first call only. The map of the handlers belongs to the plugin object. So a later registration with the
same classes puts the first one into the map, with the object and the handler of that call.
-/

namespace V2xHub.PluginClient

/-- The types of the process: plugin objects, payload classes, the classes of the handlers, and the handlers. -/
structure HandlerTypes where
  Object : Type
  PayloadClass : Type
  HandlerClass : Type
  Handler : Type
  Message : Type
  Payload : Type
  [decObject : DecidableEq Object]
  [decPayloadClass : DecidableEq PayloadClass]
  [decHandlerClass : DecidableEq HandlerClass]

namespace HandlerTypes

attribute [instance] decObject decPayloadClass decHandlerClass

variable (T : HandlerTypes)

/-- The type and the subtype. -/
abbrev Key := Str × Str

/-- The classes that the template is instantiated with. -/
abbrev TemplateArgs := T.PayloadClass × T.HandlerClass

/-- How a handler ends; what is no `std::exception` is caught nowhere. -/
inductive Ending where
  | returned
  | exception
  | otherThrow
deriving DecidableEq

/-- What is not the client's: the payload of a message as an object of a class, if there is no exception, and what handlers do. -/
structure Process where
  get_payload : T.PayloadClass → T.Message → Option T.Payload
  run : T.Object → T.Handler → T.Payload → Ending

/-- A call of `AddMessageFilter`. -/
structure Registration where
  plugin : T.Object
  args : T.TemplateArgs
  key : Key
  handler : T.Handler

structure HandlerAllocator where
  instance_ : T.Object
  fn : T.Handler

inductive Event where
  | addMessageFilter (r : T.Registration)
  | received (plugin : T.Object) (key : Key) (msg : T.Message)

/-- A call of a handler on an object. -/
structure Call where
  instance_ : T.Object
  fn : T.Handler
  msg : T.Message

/-- The static allocators, and the maps, whose pointers are named by the static variable they were copied from. -/
structure State where
  allocator : T.TemplateArgs → Option T.HandlerAllocator
  msgHandlers : T.Object → Key → Option T.TemplateArgs
  terminated : Bool

variable {T} (P : T.Process)

def State.init : T.State := ⟨fun _ => none, fun _ _ => none, false⟩

def register_handler (s : T.State) (r : T.Registration) : T.State :=
  { s with
    allocator := Function.update s.allocator r.args ((s.allocator r.args).or (some ⟨r.plugin, r.handler⟩))
    msgHandlers := Function.update s.msgHandlers r.plugin (Function.update (s.msgHandlers r.plugin) r.key (some r.args)) }

/-- The handler that `invoke_handler` comes to, with the payload it gets. -/
def invoked (s : T.State) (plugin : T.Object) (key : Key) (msg : T.Message) : Option (T.HandlerAllocator × T.Payload) := do
  let args ← s.msgHandlers plugin key
  let a ← s.allocator args
  let payload ← P.get_payload args.1 msg
  return (a, payload)

/-- The calls of an event. -/
def calls (s : T.State) : T.Event → List T.Call
  | .addMessageFilter _ => []
  | .received plugin key msg =>
    if s.terminated then [] else ((invoked P s plugin key msg).map fun x => ⟨x.1.instance_, x.1.fn, msg⟩).toList

def step (s : T.State) (e : T.Event) : T.State :=
  if s.terminated then s else
  match e with
  | .addMessageFilter r => register_handler s r
  | .received plugin key msg =>
    { s with terminated := (invoked P s plugin key msg).any fun x => P.run x.1.instance_ x.1.fn x.2 = .otherThrow }

def exec (es : List T.Event) : T.State := es.foldl (step P) State.init

/-! ### What is expected -/

def registrations (es : List T.Event) : List T.Registration :=
  es.filterMap fun
    | .addMessageFilter r => some r
    | .received _ _ _ => none

/-- The last registration of a plugin object for a type and a subtype. -/
def last (es : List T.Event) (plugin : T.Object) (key : Key) : Option T.Registration :=
  (registrations es).reverse.find? fun r => r.plugin = plugin ∧ r.key = key

/-- The first registration with the classes, of whichever object. -/
def first (es : List T.Event) (args : T.TemplateArgs) : Option T.Registration :=
  (registrations es).find? fun r => r.args = args

/-- Every message goes to the handler that was registered last, once, and on the object that received it. -/
def Dispatches (es : List T.Event) : Prop :=
  ∀ before plugin key msg rest, es = before ++ .received plugin key msg :: rest →
    calls P (exec P before) (.received plugin key msg) = ((last before plugin key).map fun r => ⟨plugin, r.handler, msg⟩).toList

/-- The handler that is expected to be called throws something else than a `std::exception`. -/
def Escapes (before : List T.Event) (plugin : T.Object) (key : Key) (msg : T.Message) : Prop :=
  ∃ r payload, last before plugin key = some r ∧ P.get_payload r.args.1 msg = some payload ∧
    P.run plugin r.handler payload = .otherThrow

/-- Where a message has a handler, the message has a payload of its class, the first registration with the same classes was of the
same object and handler, and no handler before threw something else than a `std::exception`. -/
def Distinct (es : List T.Event) : Prop :=
  ∀ before plugin key msg rest, es = before ++ .received plugin key msg :: rest →
    ∀ r, last before plugin key = some r →
      (P.get_payload r.args.1 msg).isSome ∧
      (∀ r', first before r.args = some r' → r'.plugin = plugin ∧ r'.handler = r.handler) ∧
      ∀ before' plugin' key' msg' rest', before = before' ++ .received plugin' key' msg' :: rest' →
        ¬ Escapes P before' plugin' key' msg'

variable {P} {es before : List T.Event} {e : T.Event} {plugin : T.Object} {key : Key} {msg : T.Message} {args : T.TemplateArgs}
  {r : T.Registration}

/-! ### Steps -/

section
variable {s : T.State}

theorem step_of_terminated (h : s.terminated = true) (e : T.Event) : step P s e = s := by
  simp only [step, h, if_true]

theorem step_addMessageFilter (h : s.terminated = false) (r : T.Registration) :
    step P s (.addMessageFilter r) = register_handler s r := by
  simp only [step, h, Bool.false_eq_true, if_false]

theorem step_received (h : s.terminated = false) (plugin : T.Object) (key : Key) (msg : T.Message) :
    step P s (.received plugin key msg) = { s with
      terminated := (invoked P s plugin key msg).any fun x => P.run x.1.instance_ x.1.fn x.2 = .otherThrow } := by
  simp only [step, h, Bool.false_eq_true, if_false]

end

/-! ### Histories -/

theorem exec_concat (es : List T.Event) (e : T.Event) : exec P (es ++ [e]) = step P (exec P es) e := by
  rw [exec, List.foldl_append]
  rfl

theorem registrations_concat_add (es : List T.Event) (r : T.Registration) :
    registrations (es ++ [.addMessageFilter r]) = registrations es ++ [r] := by
  simp [registrations]

theorem registrations_concat_received (es : List T.Event) (plugin : T.Object) (key : Key) (msg : T.Message) :
    registrations (es ++ [.received plugin key msg]) = registrations es := by
  simp [registrations]

theorem first_concat (es : List T.Event) (r : T.Registration) (args : T.TemplateArgs) :
    first (es ++ [.addMessageFilter r]) args = (first es args).or (if r.args = args then some r else none) := by
  rw [first, registrations_concat_add, List.find?_append, first]
  by_cases h : r.args = args <;> simp [h]

theorem last_concat (es : List T.Event) (r : T.Registration) (plugin : T.Object) (key : Key) :
    last (es ++ [.addMessageFilter r]) plugin key = if r.plugin = plugin ∧ r.key = key then some r else last es plugin key := by
  rw [last, registrations_concat_add, List.reverse_append, List.reverse_singleton, List.singleton_append, List.find?_cons]
  by_cases h : r.plugin = plugin ∧ r.key = key
  · simp [h]
  · rw [if_neg h, decide_eq_false h]
    rfl

/-- The static variable holds the first registration, and the map points to the one of the last. -/
theorem tables_exec (h : (exec P es).terminated = false) :
    (∀ args, (exec P es).allocator args = (first es args).map fun r => ⟨r.plugin, r.handler⟩) ∧
    ∀ plugin key, (exec P es).msgHandlers plugin key = (last es plugin key).map Registration.args := by
  induction es using List.reverseRecOn with
  | nil => exact ⟨fun _ => rfl, fun _ _ => rfl⟩
  | append_singleton es e ih =>
    rw [exec_concat] at h ⊢
    rcases ht : (exec P es).terminated with _ | _
    · obtain ⟨hfirst, hlast⟩ := ih ht
      rcases e with r | ⟨plugin, key, msg⟩
      · rw [step_addMessageFilter ht]
        refine ⟨fun args => ?_, fun plugin key => ?_⟩
        · rw [first_concat]
          show Function.update _ _ _ _ = _
          by_cases hargs : r.args = args
          · subst hargs
            rw [Function.update_self, hfirst, if_pos rfl]
            rcases first es r.args with _ | r' <;> rfl
          · rw [Function.update_of_ne (Ne.symm hargs), hfirst, if_neg hargs, Option.or_none]
        · rw [last_concat]
          show Function.update (exec P es).msgHandlers _ _ _ _ = _
          by_cases hplugin : plugin = r.plugin
          · subst hplugin
            by_cases hkey : key = r.key
            · subst hkey
              simp
            · rw [Function.update_self, Function.update_of_ne hkey, hlast, if_neg fun hc => hkey hc.2.symm]
          · rw [Function.update_of_ne hplugin, hlast, if_neg fun hc => hplugin hc.1.symm]
      · rw [step_received ht]
        simp only [first, last, registrations_concat_received]
        exact ⟨hfirst, hlast⟩
    · rw [step_of_terminated ht, ht] at h
      cases h

theorem invoked_exec (h : (exec P es).terminated = false) : invoked P (exec P es) plugin key msg = (last es plugin key).bind fun r =>
    (first es r.args).bind fun r' => (P.get_payload r.args.1 msg).map fun payload => (⟨r'.plugin, r'.handler⟩, payload) := by
  obtain ⟨hfirst, hlast⟩ := tables_exec h
  rw [invoked, hlast]
  rcases last es plugin key with _ | r
  · rfl
  · simp only [Option.map_some, Option.bind_eq_bind, Option.bind_some, hfirst]
    rcases first es r.args with _ | r'
    · rfl
    · simp only [Option.map_some, Option.bind_some]
      rcases P.get_payload r.args.1 msg with _ | payload <;> rfl

/-! ### What no one catches -/

theorem foldl_of_terminated (es : List T.Event) {s : T.State} (h : s.terminated = true) : es.foldl (step P) s = s := by
  induction es with
  | nil => rfl
  | cons e es ih => rw [List.foldl_cons, step_of_terminated h, ih]

/-- A process that has ended was ended by a handler that it called. -/
theorem exists_of_terminated (h : (exec P es).terminated = true) : ∃ before plugin key msg rest a payload,
    es = before ++ .received plugin key msg :: rest ∧ (exec P before).terminated = false ∧
      invoked P (exec P before) plugin key msg = some (a, payload) ∧ P.run a.instance_ a.fn payload = .otherThrow := by
  induction es using List.reverseRecOn with
  | nil => cases h
  | append_singleton es e ih =>
    rcases ht : (exec P es).terminated with _ | _
    · rw [exec_concat] at h
      rcases e with r | ⟨plugin, key, msg⟩
      · rw [step_addMessageFilter ht] at h
        exact absurd (ht.symm.trans h) (by simp)
      · rw [step_received ht] at h
        rcases hx : invoked P (exec P es) plugin key msg with _ | ⟨a, payload⟩
        · simp [hx] at h
        · rw [hx] at h
          exact ⟨es, plugin, key, msg, [], a, payload, rfl, ht, hx, of_decide_eq_true h⟩
    · obtain ⟨before, plugin, key, msg, rest, a, payload, hes, hinv⟩ := ih ht
      exact ⟨before, plugin, key, msg, rest ++ [e], a, payload, by rw [hes]; simp, hinv⟩

theorem terminated_of_invoked (rest : List T.Event) {a : T.HandlerAllocator} {payload : T.Payload}
    (hinv : invoked P (exec P before) plugin key msg = some (a, payload)) (hrun : P.run a.instance_ a.fn payload = .otherThrow) :
    (exec P (before ++ .received plugin key msg :: rest)).terminated = true := by
  have hsplit : exec P (before ++ .received plugin key msg :: rest) =
      rest.foldl (step P) (step P (exec P before) (.received plugin key msg)) := by
    rw [exec, List.foldl_append, List.foldl_cons]
    rfl
  have hstep : (step P (exec P before) (.received plugin key msg)).terminated = true := by
    rcases ht : (exec P before).terminated with _ | _
    · rw [step_received ht]
      simp [hinv, hrun]
    · rw [step_of_terminated ht, ht]
  rw [hsplit, foldl_of_terminated rest hstep, hstep]

/-! ### Dispatch -/

/-- What an event that is dispatched as expected says of the tables. -/
theorem of_calls_eq (hlast : last before plugin key = some r)
    (h : calls P (exec P before) (.received plugin key msg) = [⟨plugin, r.handler, msg⟩]) :
    (exec P before).terminated = false ∧ ∃ r' payload, first before r.args = some r' ∧ P.get_payload r.args.1 msg = some payload ∧
      r'.plugin = plugin ∧ r'.handler = r.handler := by
  rw [calls] at h
  split_ifs at h with ht
  rw [Bool.not_eq_true] at ht
  rw [invoked_exec ht, hlast, Option.bind_some] at h
  rcases hfirst : first before r.args with _ | r'
  · simp [hfirst] at h
  rcases hpayload : P.get_payload r.args.1 msg with _ | payload
  · simp [hfirst, hpayload] at h
  · simp only [hfirst, hpayload, Option.bind_some, Option.map_some, Option.toList_some, List.cons.injEq, Call.mk.injEq] at h
    exact ⟨ht, r', payload, rfl, rfl, h.1.1, h.1.2.1⟩

theorem calls_eq {r' : T.Registration} {payload : T.Payload} (ht : (exec P before).terminated = false)
    (hlast : last before plugin key = some r) (hfirst : first before r.args = some r')
    (hpayload : P.get_payload r.args.1 msg = some payload) :
    calls P (exec P before) (.received plugin key msg) = [⟨r'.plugin, r'.handler, msg⟩] := by
  rw [calls, if_neg (by simp [ht]), invoked_exec ht, hlast, Option.bind_some, hfirst, Option.bind_some, hpayload]
  rfl

/-- Something was registered with the classes of the last registration. -/
theorem first_of_last (h : last before plugin key = some r) : ∃ r', first before r.args = some r' := by
  have hmem : r ∈ registrations before := List.mem_reverse.1 (List.mem_of_find?_eq_some h)
  rw [← Option.isSome_iff_exists, first, List.find?_isSome]
  exact ⟨r, hmem, by simp⟩

theorem distinct_of_dispatches (h : Dispatches P es) : Distinct P es := by
  rintro before plugin key msg rest rfl r hlast
  have hcalls := h before plugin key msg rest rfl
  rw [hlast] at hcalls
  obtain ⟨ht, r', payload, hfirst, hpayload, hplugin, hhandler⟩ := of_calls_eq hlast hcalls
  refine ⟨by simp [hpayload], fun r'' hr'' => ?_, ?_⟩
  · obtain rfl := Option.some.inj (hfirst.symm.trans hr'')
    exact ⟨hplugin, hhandler⟩
  · rintro before' plugin' key' msg' rest' rfl ⟨r₁, payload₁, hlast₁, hpayload₁, hrun⟩
    have hcalls₁ := h before' plugin' key' msg' _ (by rw [List.append_assoc]; rfl)
    rw [hlast₁] at hcalls₁
    obtain ⟨ht₁, r₁', -, hfirst₁, -, hplugin₁, hhandler₁⟩ := of_calls_eq hlast₁ hcalls₁
    have hinv : invoked P (exec P before') plugin' key' msg' = some (⟨plugin', r₁.handler⟩, payload₁) := by
      rw [invoked_exec ht₁, hlast₁, Option.bind_some, hfirst₁, Option.bind_some, hpayload₁, hplugin₁, hhandler₁]
      rfl
    exact absurd (terminated_of_invoked rest' hinv hrun) (by simp [ht])

theorem dispatches_of_distinct (h : Distinct P es) : Dispatches P es := by
  rintro before plugin key msg rest rfl
  rcases hlast : last before plugin key with _ | r
  · rw [calls]
    split_ifs with ht
    · rfl
    · rw [Bool.not_eq_true] at ht
      rw [invoked_exec ht, hlast]
      rfl
  · obtain ⟨hpayload, hfirst, hescapes⟩ := h before plugin key msg rest rfl r hlast
    obtain ⟨payload, hpayload⟩ := Option.isSome_iff_exists.1 hpayload
    obtain ⟨r', hr'⟩ := first_of_last hlast
    have ht : (exec P before).terminated = false := by
      by_contra ht
      rw [Bool.not_eq_false] at ht
      obtain ⟨before', plugin', key', msg', rest', a, payload', rfl, ht', hinv, hrun⟩ := exists_of_terminated ht
      refine hescapes before' plugin' key' msg' rest' rfl ?_
      rw [invoked_exec ht'] at hinv
      obtain ⟨r₁, hlast₁, hinv⟩ := Option.bind_eq_some_iff.1 hinv
      obtain ⟨r₁', hfirst₁, hinv⟩ := Option.bind_eq_some_iff.1 hinv
      obtain ⟨payload₁, hpayload₁, hinv⟩ := Option.map_eq_some_iff.1 hinv
      obtain ⟨-, hfirst', -⟩ := h before' plugin' key' msg' _ (by rw [List.append_assoc]; rfl) r₁ hlast₁
      obtain ⟨hplugin₁, hhandler₁⟩ := hfirst' r₁' hfirst₁
      cases hinv
      rw [hplugin₁, hhandler₁] at hrun
      exact ⟨r₁, _, hlast₁, hpayload₁, hrun⟩
    rw [calls_eq ht hlast hr' hpayload, (hfirst r' hr').1, (hfirst r' hr').2]
    rfl

/-- Messages are dispatched as expected just where registrations with the same classes do not differ. -/
theorem dispatches_iff (T : HandlerTypes) (P : T.Process) (es : List T.Event) : Dispatches P es ↔ Distinct P es :=
  ⟨distinct_of_dispatches, dispatches_of_distinct⟩

/-- Two objects of one class and one handler. -/
def twoObjects : HandlerTypes where
  Object := Bool
  PayloadClass := Unit
  HandlerClass := Unit
  Handler := Unit
  Message := Unit
  Payload := Unit

def quiet : twoObjects.Process where
  get_payload _ _ := some ()
  run _ _ _ := .returned

/-- The message of the second object goes to the first. -/
theorem not_dispatches : ¬ Dispatches quiet [.addMessageFilter ⟨false, ((), ()), ([], []), ()⟩,
    .addMessageFilter ⟨true, ((), ()), ([], []), ()⟩, .received true ([], []) ()] := by
  intro h
  have hcalls := h [.addMessageFilter ⟨false, ((), ()), ([], []), ()⟩, .addMessageFilter ⟨true, ((), ()), ([], []), ()⟩]
    true ([], []) () [] rfl
  have hlast : last (T := twoObjects) [.addMessageFilter ⟨false, ((), ()), ([], []), ()⟩,
      .addMessageFilter ⟨true, ((), ()), ([], []), ()⟩] true ([], []) = some ⟨true, ((), ()), ([], []), ()⟩ := rfl
  rw [hlast] at hcalls
  obtain ⟨-, r', -, hfirst, -, hplugin, -⟩ := of_calls_eq hlast hcalls
  cases hfirst
  cases hplugin

end HandlerTypes

end V2xHub.PluginClient
