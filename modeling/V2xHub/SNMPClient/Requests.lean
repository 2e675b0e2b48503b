import V2xHub.Lib.Machine
import V2xHub.Lib.CString

/-!
# The requests of the SNMP client

`snmp_client::process_snmp_request` with the length of the OID buffer, the member that lives from call to call. Net-SNMP is a
parameter: what a text is as an object id, the length that is left where it is none, and what comes of the request that is
sent. `Independent` is what a call is to do by its arguments and the answer of the device alone; `requests_independent` says
which calls do.
-/

namespace V2xHub.SNMPClient

abbrev Oid := List Nat

def MAX_OID_LEN : Nat := 128

inductive RequestType where
  | GET
  | SET
  | OTHER
deriving DecidableEq

inductive ResponseType where
  | INTEGER
  | STRING
deriving DecidableEq

/-- `snmp_response_obj` -/
structure ResponseObj where
  val_int : Int
  val_string : List UInt8
  type : ResponseType
deriving DecidableEq

/-- The value of a variable, by its ASN.1 type. -/
inductive Variable where
  | integer (n : Int)
  | octets (s : List UInt8)
  | other
deriving DecidableEq

/-- A response of the device; `errstat` is 0 if there is no error. -/
structure Response where
  errstat : Nat
  vars : List Variable
deriving DecidableEq

/-- What `snmp_synch_response` returns: `STAT_SUCCESS` with a response, or none. -/
inductive Outcome where
  | answered (response : Response)
  | timeout
  | error
deriving DecidableEq

/-- A request as it is sent. -/
structure Pdu where
  command : RequestType
  vars : List (Oid × Option Int)
deriving DecidableEq

structure Call where
  input_oid : Str
  request_type : RequestType
  val : ResponseObj
  outcome : Outcome
deriving DecidableEq

/-- What a call returns and leaves in the response object; `undefined` is behind a null pointer. -/
inductive Result where
  | returned (success : Bool) (val : ResponseObj)
  | undefined
deriving DecidableEq

/-- A call that has been. -/
structure Done where
  call : Call
  sent : Option Pdu
  result : Result
deriving DecidableEq

/-- How texts are read as object ids. Where the reading fails, `left` is the length behind it, never more than the
capacity. -/
structure NetSnmp where
  parse : Str → Option Oid
  left : Str → Nat → Nat
  left_le : ∀ input OID_len, left input OID_len ≤ OID_len

def read_objid (net : NetSnmp) (input : Str) (OID_len : Nat) : Option Oid :=
  (net.parse input).filter fun oid => oid.length ≤ OID_len

/-- It looks at the type of the first variable. -/
def log_error (outcome : Outcome) (val : ResponseObj) : Result :=
  match outcome with
  | .answered response => if response.vars = [] then .undefined else .returned false val
  | .timeout => .returned false val
  | .error => .returned false val

/-- One round of the loop over the variables. -/
def ResponseObj.store (val : ResponseObj) : Variable → ResponseObj
  | .integer n => { val with type := .INTEGER, val_int := n }
  | .octets s => { val with val_string := val.val_string ++ s, type := .STRING }
  | .other => val

/-- The variables of the request. Setting a string is logged as not supported. -/
def Call.vars (c : Call) (oid : Oid) : List (Oid × Option Int) :=
  match c.request_type with
  | .GET => [(oid, none)]
  | .SET => if c.val.type = .INTEGER then [(oid, some c.val.val_int)] else []
  | .OTHER => []

/-- The check of the response, with the length behind it. -/
def Call.check (c : Call) (OID_len : Nat) : Nat × Result :=
  match c.outcome with
  | .answered response =>
    if response.errstat = 0 ∧ c.request_type = .GET then
      (MAX_OID_LEN, .returned true (response.vars.foldl ResponseObj.store c.val))
    else (OID_len, log_error c.outcome c.val)
  | _ => (OID_len, log_error c.outcome c.val)

def process_snmp_request (net : NetSnmp) (OID_len : Nat) (c : Call) : Nat × Done :=
  if c.request_type = .OTHER then (OID_len, ⟨c, none, .returned false c.val⟩)
  else
    match read_objid net c.input_oid OID_len with
    | none => (net.left c.input_oid OID_len, ⟨c, none, .returned false c.val⟩)
    | some oid =>
      let (OID_len, result) := c.check oid.length
      (OID_len, ⟨c, some ⟨c.request_type, c.vars oid⟩, result⟩)

structure State where
  OID_len : Nat
  calls : List Done

def State.init : State := ⟨MAX_OID_LEN, []⟩

/-- Nothing comes behind a null pointer. -/
def State.step (net : NetSnmp) (s : State) (c : Call) : Option State :=
  if s.calls.getLast?.any fun d => d.result = .undefined then none
  else
    let (OID_len, d) := process_snmp_request net s.OID_len c
    some ⟨OID_len, s.calls ++ [d]⟩

def client (net : NetSnmp) : Machine State Call := ⟨State.init, State.step net⟩

/-! ### What a call is to do -/

/-- The object holds the value of the variable. -/
def Variable.In (val : ResponseObj) : Variable → Prop
  | .integer n => val.type = .INTEGER ∧ val.val_int = n
  | .octets s => val.type = .STRING ∧ val.val_string = s
  | .other => False

/-- The object id that the call is about; none if the text is no object id that fits the buffer. -/
def Call.oid (net : NetSnmp) (c : Call) : Option Oid :=
  if c.request_type = .OTHER then none else read_objid net c.input_oid MAX_OID_LEN

/-- The device answered without an error. -/
def Outcome.Good (outcome : Outcome) : Prop := ∃ response, outcome = .answered response ∧ response.errstat = 0

/-- What the call leaves in its object. -/
def Leaves (c : Call) (success : Bool) (val : ResponseObj) : Prop :=
  if success = true ∧ c.request_type = .GET then
    ∃ response v, c.outcome = .answered response ∧ response.vars = [v] ∧ v.In val
  else val = c.val

structure Independent (net : NetSnmp) (d : Done) : Prop where
  addressed : (d.sent.map fun pdu => pdu.vars.map Prod.fst) = (d.call.oid net).map fun oid => [oid]
  result : ∃ success val, d.result = .returned success val ∧
    (success = true ↔ (d.call.oid net).isSome ∧ d.call.outcome.Good) ∧ Leaves d.call success val

/-- The answer is one that the call can take. -/
def Call.Answered (c : Call) : Prop :=
  match c.outcome with
  | .answered response =>
    if response.errstat = 0 then
      c.request_type = .GET ∧ ((∃ n, response.vars = [.integer n]) ∨
        c.val.val_string = [] ∧ ∃ s, response.vars = [.octets s])
    else response.vars ≠ []
  | _ => True

/-- The buffer has room for the object id; a value that is set is an integer. -/
def Sound (net : NetSnmp) (s : State) (c : Call) : Prop :=
  ∀ oid, c.oid net = some oid →
    oid.length ≤ s.OID_len ∧ (c.request_type = .SET → c.val.type = .INTEGER) ∧ c.Answered

variable {net : NetSnmp} {s t : State} {c : Call} {oid : Oid} {n : Nat}

theorem read_objid_eq_some : read_objid net c.input_oid n = some oid ↔
    net.parse c.input_oid = some oid ∧ oid.length ≤ n := by
  rw [read_objid, Option.filter_eq_some_iff, decide_eq_true_eq]

/-- A length that is never more than the buffer has. -/
theorem oid_of_read (hn : n ≤ MAX_OID_LEN) (htype : c.request_type ≠ .OTHER)
    (h : read_objid net c.input_oid n = some oid) : c.oid net = some oid := by
  rw [Call.oid, if_neg htype]
  obtain ⟨hparse, hlength⟩ := read_objid_eq_some.1 h
  exact read_objid_eq_some.2 ⟨hparse, Nat.le_trans hlength hn⟩

theorem vars_oid (htype : c.request_type ≠ .OTHER) :
    (c.vars oid).map Prod.fst = [oid] ↔ (c.request_type = .SET → c.val.type = .INTEGER) := by
  rw [Call.vars]
  cases htype' : c.request_type with
  | GET => simp
  | SET => by_cases hval : c.val.type = .INTEGER <;> simp [hval]
  | OTHER => exact absurd htype' htype

/-- What is logged is no success and leaves the object. -/
theorem log_error_returned {success : Bool} {val : ResponseObj} (h : log_error c.outcome c.val = .returned success val) :
    success = false ∧ val = c.val := by
  cases houtcome : c.outcome with
  | answered response =>
    rw [houtcome, log_error] at h
    split_ifs at h
    obtain ⟨rfl, rfl⟩ := Result.returned.inj h
    exact ⟨rfl, rfl⟩
  | timeout | error =>
    rw [houtcome] at h
    obtain ⟨rfl, rfl⟩ := Result.returned.inj h
    exact ⟨rfl, rfl⟩

theorem store_in {v : Variable} : v.In (c.val.store v) ↔
    (∃ n, v = .integer n) ∨ c.val.val_string = [] ∧ ∃ s, v = .octets s := by
  cases v with
  | integer n => simp [Variable.In, ResponseObj.store]
  | octets s => simp [Variable.In, ResponseObj.store]
  | other => simp [Variable.In]

/-- The check of the response does what it is to do exactly for an answer that the call can take. -/
theorem check_iff : (∃ success val, (c.check n).2 = .returned success val ∧
    (success = true ↔ c.outcome.Good) ∧ Leaves c success val) ↔ c.Answered := by
  have hbad : ¬ c.outcome.Good → log_error c.outcome c.val = .returned false c.val →
      ∃ success val, log_error c.outcome c.val = .returned success val ∧
        (success = true ↔ c.outcome.Good) ∧ Leaves c success val := fun hgood hlog =>
    ⟨false, c.val, hlog, ⟨(nomatch ·), fun h => absurd h hgood⟩, by rw [Leaves, if_neg fun h => nomatch h.1]⟩
  unfold Call.check Call.Answered
  cases houtcome : c.outcome with
  | answered response =>
    rw [houtcome] at hbad
    dsimp only
    by_cases herr : response.errstat = 0
    · have hgood : (Outcome.answered response).Good := ⟨response, rfl, herr⟩
      rw [if_pos herr]
      by_cases hget : c.request_type = .GET
      · rw [if_pos ⟨herr, hget⟩]
        constructor
        · rintro ⟨success, val, hreturned, hsuccess, hleaves⟩
          obtain ⟨rfl, rfl⟩ := Result.returned.inj hreturned
          rw [Leaves, if_pos ⟨rfl, hget⟩] at hleaves
          obtain ⟨response', v, hresponse, hv, hin⟩ := hleaves
          obtain rfl := Outcome.answered.inj (houtcome.symm.trans hresponse)
          rw [hv, List.foldl_cons, List.foldl_nil, store_in] at hin
          refine ⟨hget, ?_⟩
          rcases hin with ⟨n, rfl⟩ | ⟨hempty, s, rfl⟩
          · exact .inl ⟨n, hv⟩
          · exact .inr ⟨hempty, s, hv⟩
        · rintro ⟨-, htake⟩
          refine ⟨true, _, rfl, iff_of_true rfl hgood, ?_⟩
          rw [Leaves, if_pos ⟨rfl, hget⟩]
          have hv : ∃ v, response.vars = [v] ∧
              ((∃ n, v = Variable.integer n) ∨ c.val.val_string = [] ∧ ∃ s, v = Variable.octets s) := by
            rcases htake with ⟨n, hn⟩ | ⟨hempty, s, hs⟩
            · exact ⟨_, hn, .inl ⟨n, rfl⟩⟩
            · exact ⟨_, hs, .inr ⟨hempty, s, rfl⟩⟩
          obtain ⟨v, hv, htake⟩ := hv
          refine ⟨response, v, houtcome, hv, ?_⟩
          rw [hv, List.foldl_cons, List.foldl_nil, store_in]
          exact htake
      · rw [if_neg fun h => hget h.2]
        refine iff_of_false ?_ fun h => hget h.1
        rintro ⟨success, val, hreturned, hsuccess, -⟩
        rw [← houtcome] at hreturned
        exact nomatch (log_error_returned hreturned).1.symm.trans (hsuccess.2 hgood)
    · rw [if_neg herr, if_neg fun h => herr h.1]
      have hgood : ¬ (Outcome.answered response).Good := by
        rintro ⟨response', hresponse, herr'⟩
        obtain rfl := Outcome.answered.inj hresponse
        exact herr herr'
      by_cases hempty : response.vars = []
      · refine iff_of_false ?_ fun h => h hempty
        rintro ⟨success, val, hreturned, -⟩
        rw [log_error, if_pos hempty] at hreturned
        exact nomatch hreturned
      · exact iff_of_true (hbad hgood (if_neg hempty)) hempty
  | timeout =>
    rw [houtcome] at hbad
    exact iff_of_true (hbad (fun ⟨_, h, _⟩ => nomatch h) rfl) trivial
  | error =>
    rw [houtcome] at hbad
    exact iff_of_true (hbad (fun ⟨_, h, _⟩ => nomatch h) rfl) trivial

theorem sound_of_none (hoid : c.oid net = none) : Sound net s c := fun _ h => nomatch hoid.symm.trans h

/-- A call does what it is to do, in whatever state it comes, exactly if it meets the condition. -/
theorem independent_iff (hn : s.OID_len ≤ MAX_OID_LEN) :
    Independent net (process_snmp_request net s.OID_len c).2 ↔ Sound net s c := by
  have hnone : c.oid net = none → Independent net ⟨c, none, .returned false c.val⟩ := fun hoid =>
    ⟨by rw [hoid]; rfl, false, c.val, rfl, by simp [hoid], by rw [Leaves, if_neg fun h => nomatch h.1]⟩
  unfold process_snmp_request
  by_cases hother : c.request_type = .OTHER
  · rw [if_pos hother]
    have hoid : c.oid net = none := if_pos hother
    exact iff_of_true (hnone hoid) (sound_of_none hoid)
  · rw [if_neg hother]
    cases hread : read_objid net c.input_oid s.OID_len with
    | none =>
      dsimp only
      cases hoid : c.oid net with
      | none => exact iff_of_true (hnone hoid) (sound_of_none hoid)
      | some oid =>
        -- the text is an object id, but the buffer is taken to be too small
        refine iff_of_false (fun h => ?_) fun h => ?_
        · have haddressed := h.addressed
          rw [hoid] at haddressed
          exact nomatch haddressed
        · have hmax := hoid
          rw [Call.oid, if_neg hother] at hmax
          have hsome := read_objid_eq_some.2 ⟨(read_objid_eq_some.1 hmax).1, (h oid hoid).1⟩
          exact nomatch hread.symm.trans hsome
    | some oid =>
      have hoid := oid_of_read hn hother hread
      have hlength := (read_objid_eq_some.1 hread).2
      dsimp only
      constructor
      · rintro ⟨haddressed, success, val, hresult, hsuccess, hleaves⟩ oid' hoid'
        obtain rfl := Option.some.inj (hoid.symm.trans hoid')
        rw [hoid] at haddressed hsuccess
        refine ⟨hlength, (vars_oid hother).1 (Option.some.inj haddressed), ?_⟩
        exact check_iff.1 ⟨success, val, hresult, by simpa using hsuccess, hleaves⟩
      · intro h
        obtain ⟨-, hset, hanswered⟩ := h oid hoid
        obtain ⟨success, val, hresult, hsuccess, hleaves⟩ := check_iff.2 hanswered
        refine ⟨?_, success, val, hresult, by simpa [hoid] using hsuccess, hleaves⟩
        rw [hoid, Option.map_some, Option.map_some, (vars_oid hother).2 hset]

/-! ### Runs -/

/-- The buffer is never taken to be larger than it is. -/
theorem length_process (hn : n ≤ MAX_OID_LEN) : (process_snmp_request net n c).1 ≤ MAX_OID_LEN := by
  unfold process_snmp_request
  split
  · exact hn
  · split
    · exact Nat.le_trans (net.left_le _ _) hn
    · rename_i oid hread
      have hlength : oid.length ≤ MAX_OID_LEN := Nat.le_trans (read_objid_eq_some.1 hread).2 hn
      change (c.check oid.length).1 ≤ MAX_OID_LEN
      unfold Call.check
      split
      · split
        · exact Nat.le_refl _
        · exact hlength
      · exact hlength

theorem step_eq_some (hstep : s.step net c = some t) :
    t = ⟨(process_snmp_request net s.OID_len c).1, s.calls ++ [(process_snmp_request net s.OID_len c).2]⟩ := by
  unfold State.step at hstep
  split at hstep
  · exact nomatch hstep
  · exact (Option.some.inj hstep).symm

theorem calls_iff {es : List Call} (hn : s.OID_len ≤ MAX_OID_LEN) (h : (client net).exec s es = some t) :
    (∀ d ∈ t.calls, Independent net d) ↔
      (∀ d ∈ s.calls, Independent net d) ∧ (client net).Meets (Sound net) s es := by
  induction es generalizing s with
  | nil =>
    obtain rfl := Option.some.inj h
    exact (and_iff_left trivial).symm
  | cons c es ih =>
    obtain ⟨s', hs, ht⟩ := Machine.exec_cons.1 h
    obtain rfl := step_eq_some hs
    rw [ih (length_process hn) ht, Machine.meets_cons_of_step hs, ← and_assoc, ← independent_iff hn]
    simp [or_imp, forall_and]

theorem requests_independent {es : List Call} (h : (client net).exec (client net).init es = some s) :
    (∀ d ∈ s.calls, Independent net d) ↔ (client net).Meets (Sound net) (client net).init es := by
  rw [calls_iff (Nat.le_refl MAX_OID_LEN) h]
  exact and_iff_right fun d hd => absurd hd List.not_mem_nil

/-- One part of an object id, a decimal number. -/
def subidentifier (s : Str) : Option Nat :=
  if s ≠ [] ∧ s.all (fun c => 48 ≤ c ∧ c ≤ 57) then some (s.foldl (fun n c => 10 * n + (c.toNat - 48)) 0) else none

/-- Object ids with dots between their numbers; the length is left alone where there is none. -/
def numeric : NetSnmp where
  parse input := (input.splitOn 46).mapM subidentifier
  left _ OID_len := OID_len
  left_le _ _ := Nat.le_refl _

def get (input_oid : Str) (outcome : Outcome) : Call := ⟨input_oid, .GET, ⟨0, [], .STRING⟩, outcome⟩

/-- Two values, a text that is no object id, a request that times out, and one that is refused, of a shorter object id. -/
def requests : List Call :=
  [get (CString.lit "1.3.6.1.2.1.1.7.0") (.answered ⟨0, [.integer 72]⟩),
    get (CString.lit "1.3.6.1.2.1.1.5.0") (.answered ⟨0, [.octets (CString.lit "RSU")]⟩),
    get (CString.lit "1.3.x") .timeout, get (CString.lit "1.3.6.1.2.1.1.5.0") .timeout,
    get (CString.lit "1.3.6.1.2") (.answered ⟨2, [.other]⟩)]

theorem sound_of_oid (oid : Oid) (hoid : c.oid net = some oid)
    (h : oid.length ≤ s.OID_len ∧ (c.request_type = .SET → c.val.type = .INTEGER) ∧ c.Answered) : Sound net s c := by
  intro oid' hoid'
  obtain rfl := Option.some.inj (hoid.symm.trans hoid')
  exact h

theorem requests_independent_get : ∃ s, (client numeric).exec (client numeric).init requests = some s ∧
    (∀ d ∈ s.calls, Independent numeric d) ∧ s.calls.map Done.result =
      [.returned true ⟨72, [], .INTEGER⟩, .returned true ⟨0, CString.lit "RSU", .STRING⟩, .returned false ⟨0, [], .STRING⟩,
        .returned false ⟨0, [], .STRING⟩, .returned false ⟨0, [], .STRING⟩] := by
  refine ⟨_, rfl, (@requests_independent numeric _ requests rfl).2 ?_, by decide +kernel⟩
  refine ⟨sound_of_oid [1, 3, 6, 1, 2, 1, 1, 7, 0] (by decide +kernel) ⟨by decide, nofun, rfl, .inl ⟨72, rfl⟩⟩, fun t ht => ?_⟩
  obtain rfl := Option.some.inj ht
  refine ⟨sound_of_oid [1, 3, 6, 1, 2, 1, 1, 5, 0] (by decide +kernel)
    ⟨by decide +kernel, nofun, rfl, .inr ⟨rfl, CString.lit "RSU", rfl⟩⟩, fun t ht => ?_⟩
  obtain rfl := Option.some.inj ht
  have hnone : (get (CString.lit "1.3.x") .timeout).oid numeric = none := by decide +kernel
  refine ⟨sound_of_none hnone, fun t ht => ?_⟩
  obtain rfl := Option.some.inj ht
  refine ⟨sound_of_oid [1, 3, 6, 1, 2, 1, 1, 5, 0] (by decide +kernel) ⟨by decide +kernel, nofun, trivial⟩, fun t ht => ?_⟩
  obtain rfl := Option.some.inj ht
  have hrefused : (get (CString.lit "1.3.6.1.2") (.answered ⟨2, [.other]⟩)).Answered := List.cons_ne_nil _ _
  exact ⟨sound_of_oid [1, 3, 6, 1, 2] (by decide +kernel) ⟨by decide +kernel, nofun, hrefused⟩, fun _ _ => trivial⟩

/-- The device accepts the value. -/
def setFive : Call :=
  ⟨CString.lit "1.3.6", .SET, ⟨5, [], .INTEGER⟩, .answered ⟨0, [.integer 5]⟩⟩

theorem requests_independent_set : ∃ s d, (client numeric).exec (client numeric).init [setFive] = some s ∧
    s.calls = [d] ∧ d.result = .returned false ⟨5, [], .INTEGER⟩ ∧ ¬ Independent numeric d := by
  refine ⟨_, _, rfl, rfl, rfl, fun h => ?_⟩
  obtain ⟨success, val, hresult, hsuccess, -⟩ := h.result
  obtain ⟨rfl, rfl⟩ := Result.returned.inj hresult
  exact nomatch hsuccess.2 ⟨rfl, _, rfl, rfl⟩

end V2xHub.SNMPClient
