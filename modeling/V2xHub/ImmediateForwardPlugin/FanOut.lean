import V2xHub.ImmediateForwardPlugin.Ownership
import V2xHub.CJson.Text
import V2xHub.Security.Base64

/-!
# What is sent to the radios (`SendMessageToRadio`)

The entries that a message is for, each with what becomes of its signing (`routes`). The loop sends the datagrams of the entries
up to the first one that is not signed, and leaves (`sendConfigs_eq`). So the entries behind it are lost
(`fansOut_iff`).
-/

namespace V2xHub.ImmediateForwardPlugin

/-! ### The signing service -/

/-- The command that is run for an entry. -/
def signRequest (url : Str) (config : MessageConfig) (payload : Str) : Str :=
  CString.lit "curl -X POST " ++ url ++ CString.lit " -H 'Content-Type: application/json' -d '\x7b\"type\":\"" ++
  config.SendType.map CString.tolower ++ CString.lit "\",\"message\":\"" ++ Security.hex2base64 payload [] ++ CString.lit "\"\x7d'"

/-- What is made of the reply. A reply that is no JSON is a null pointer that is looked into, and so is a member that is missing; a
string made of a null pointer throws. -/
def signedReply (libc : Libc) (result : Str) : Signed :=
  match CJson.parse libc result with
  | none => .crashed
  | some root =>
    match root.getObjectItem (CString.lit "code") with
    | some _ => if (root.getObjectItem (CString.lit "message")).isSome then .refused else .crashed
    | none =>
      match root.getObjectItem (CString.lit "signedMessage") with
      | none => .crashed
      | some sd =>
        match sd.stringValue? with
        | none => .threw
        | some signedMsg => .signed (Security.base642hex signedMsg [])

/-- The outcomes for a message, by the reply to each entry, as far as it is asked for. -/
def State.signing (s : State) (libc : Libc) (url : Str) (scms : Nat → Str → Str) (payload : Str) (n : Nat) : Signed :=
  match s.messageConfigMap[n]? with
  | none => .crashed
  | some config => signedReply libc (scms n (signRequest url config (payload.map toupper)))

/-! ### Routes -/

def Signed.isSigned : Signed → Bool
  | .signed _ => true
  | _ => false

/-- An entry that the message is for, and the outcome of its signing. -/
abbrev Route := MessageConfig × Signed

def routesFrom (s : State) (subtype payload : Str) (sign : Nat → Signed) (n : Nat) (configs : List MessageConfig) : List Route :=
  ((configs.zipIdx n).filter fun e => e.1.TmxType = subtype).map fun e =>
    (e.1, if s.signState = 1 then sign e.2 else .signed payload)

/-- The routes of a message, in the order of the entries; its text is in upper case. -/
def State.routes (s : State) (subtype payload : Str) (sign : Nat → Signed) : List Route :=
  routesFrom s subtype (payload.map toupper) sign 0 s.messageConfigMap

/-- The clients of the destination. -/
def State.destination (s : State) (config : MessageConfig) : List Nat :=
  if h : config.ClientIndex < 4 then (s.udpClientList ⟨config.ClientIndex, h⟩).reduceOption else []

/-- One datagram to each client, if the entry is signed. -/
def State.datagrams (s : State) (channel : Int) (route : Route) : List (Nat × Str) :=
  match route.2 with
  | .signed payloadbyte => (s.destination route.1).map fun c => (c, radioMessage s.signState route.1 channel payloadbyte)
  | _ => []

/-- The datagrams of all routes are sent, and nothing else happens. -/
def FansOut (s : State) (subtype payload : Str) (channel : Int) (sign : Nat → Signed) : Prop :=
  sendMessageToRadio ⟨subtype, some channel, some payload⟩ channel sign s =
    .ok { s with sent := s.sent ++ (s.routes subtype payload sign).flatMap (s.datagrams channel) }

/-- The destinations are in the table, and its clients are there. -/
structure Sendable (s : State) : Prop where
  index : ∀ config ∈ s.messageConfigMap, config.ClientIndex < 4
  alive : ∀ i c, some c ∈ s.udpClientList i → s.Alive c

theorem Table.sendable {s : State} (h : Table s) : Sendable s := ⟨h.configs, fun _ _ hc => h.alive hc⟩

variable {s : State} {subtype payload message : Str} {channel : Int} {sign : Nat → Signed} {n : Nat} {configs : List MessageConfig}
  {config : MessageConfig} {row : List (Option Nat)} {routes : List Route}

/-! ### The loop -/

theorem foldlM_sendClient_eq (message : Str) (hrow : ∀ c, some c ∈ row → s.Alive c) :
    row.foldlM (sendClient message) s = .ok { s with sent := s.sent ++ row.reduceOption.map fun c => (c, message) } := by
  induction row generalizing s with
  | nil =>
    rw [List.reduceOption_nil, List.map_nil, List.append_nil]
    rfl
  | cons p row ih =>
    rw [List.foldlM_cons]
    cases p with
    | none =>
      rw [List.reduceOption_cons_of_none]
      exact ih fun c hc => hrow c (List.mem_cons_of_mem _ hc)
    | some c =>
      have hrest := ih (s := { s with sent := s.sent ++ [(c, message)] }) fun d hd => hrow d (List.mem_cons_of_mem _ hd)
      rw [sendClient, if_pos (hrow c List.mem_cons_self)]
      refine Eq.trans hrest ?_
      rw [List.reduceOption_cons_of_some, List.map_cons, List.append_assoc]
      rfl

theorem routesFrom_cons_of_ne (h : config.TmxType ≠ subtype) :
    routesFrom s subtype payload sign n (config :: configs) = routesFrom s subtype payload sign (n + 1) configs := by
  rw [routesFrom, List.zipIdx_cons, List.filter_cons_of_neg (by simpa using h)]
  rfl

theorem routesFrom_cons (h : config.TmxType = subtype) :
    routesFrom s subtype payload sign n (config :: configs) =
      (config, if s.signState = 1 then sign n else .signed payload) :: routesFrom s subtype payload sign (n + 1) configs := by
  rw [routesFrom, List.zipIdx_cons, List.filter_cons_of_pos (by simpa using h)]
  rfl

/-- The routes up to the first that is not signed. -/
def signedRoutes (routes : List Route) : List Route := routes.takeWhile fun r => r.2.isSigned

/-- The first that is not signed, and those behind it. -/
def lostRoutes (routes : List Route) : List Route := routes.dropWhile fun r => r.2.isSigned

def Signed.crashes : Signed → Bool
  | .crashed => true
  | _ => false

def Crashes (routes : List Route) : Prop := routes.head?.any fun r => r.2.crashes

instance : DecidablePred Crashes := fun _ => inferInstanceAs (Decidable (_ = true))

theorem sendConfigs_eq (h : Sendable s) (hconfigs : ∀ config ∈ configs, config.ClientIndex < 4) :
    sendConfigs ⟨subtype, some channel, some message⟩ channel payload sign n configs s =
      .ok { s with
        sent := s.sent ++ (signedRoutes (routesFrom s subtype payload sign n configs)).flatMap (s.datagrams channel)
        ending := if Crashes (lostRoutes (routesFrom s subtype payload sign n configs)) then some .aborted else s.ending } := by
  induction configs generalizing s n with
  | nil =>
    show Except.ok s = .ok { s with sent := s.sent ++ [], ending := s.ending }
    rw [List.append_nil]
  | cons config configs ih =>
    obtain ⟨hconfig, hrest⟩ := List.forall_mem_cons.1 hconfigs
    rw [sendConfigs]
    by_cases htype : config.TmxType = subtype
    · rw [if_pos htype, routesFrom_cons htype]
      cases houtcome : if s.signState = 1 then sign n else .signed payload with
      | signed payloadbyte =>
        have hrow : s.row config.ClientIndex = .ok (s.udpClientList ⟨config.ClientIndex, hconfig⟩) := dif_pos hconfig
        have hdestination : s.destination config = (s.udpClientList ⟨config.ClientIndex, hconfig⟩).reduceOption := dif_pos hconfig
        have hsent := foldlM_sendClient_eq (radioMessage s.signState config channel payloadbyte)
          fun c (hc : some c ∈ s.udpClientList ⟨config.ClientIndex, hconfig⟩) => h.alive _ _ hc
        have hloop := ih (n := n + 1) (s := { s with
          sent := s.sent ++ (s.udpClientList ⟨config.ClientIndex, hconfig⟩).reduceOption.map fun c =>
            (c, radioMessage s.signState config channel payloadbyte) }) ⟨h.index, h.alive⟩ hrest
        rw [hrow]
        change (List.foldlM _ _ _ : Except Fault State) >>= _ = _
        rw [hsent]
        refine Eq.trans hloop ?_
        rw [signedRoutes, signedRoutes, List.takeWhile_cons_of_pos rfl, List.flatMap_cons, State.datagrams, hdestination,
          List.append_assoc]
        rfl
      | refused =>
        show Except.ok s = .ok { s with sent := s.sent ++ [], ending := s.ending }
        rw [List.append_nil]
      | threw =>
        show Except.ok s = .ok { s with sent := s.sent ++ [], ending := s.ending }
        rw [List.append_nil]
      | crashed =>
        show Except.ok { s with ending := some .aborted } = .ok { s with sent := s.sent ++ [], ending := some .aborted }
        rw [List.append_nil]
    · rw [if_neg htype, routesFrom_cons_of_ne htype]
      exact ih h hrest

theorem datagrams_eq_nil {route : Route} : s.datagrams channel route = [] ↔ (route.2.isSigned → s.destination route.1 = []) := by
  obtain ⟨config, outcome⟩ := route
  cases outcome with
  | signed payloadbyte =>
    rw [State.datagrams, List.map_eq_nil_iff]
    exact ⟨fun h _ => h, fun h => h rfl⟩
  | refused => exact iff_of_true rfl fun h => nomatch h
  | threw => exact iff_of_true rfl fun h => nomatch h
  | crashed => exact iff_of_true rfl fun h => nomatch h

theorem routes_eq : s.routes subtype payload sign =
    signedRoutes (s.routes subtype payload sign) ++ lostRoutes (s.routes subtype payload sign) :=
  List.takeWhile_append_dropWhile.symm

theorem sendMessageToRadio_eq (h : Sendable s) :
    sendMessageToRadio ⟨subtype, some channel, some payload⟩ channel sign s =
      .ok { s with
        sent := s.sent ++ (signedRoutes (s.routes subtype payload sign)).flatMap (s.datagrams channel)
        ending := if Crashes (lostRoutes (s.routes subtype payload sign)) then some .aborted else s.ending } :=
  sendConfigs_eq h h.index

/-- What is not sent is nothing. -/
theorem fansOut_iff_lost (h : Sendable s) (hending : s.ending = none) : FansOut s subtype payload channel sign ↔
    ¬ Crashes (lostRoutes (s.routes subtype payload sign)) ∧
      (lostRoutes (s.routes subtype payload sign)).flatMap (s.datagrams channel) = [] := by
  have hall : (s.routes subtype payload sign).flatMap (s.datagrams channel) =
      (signedRoutes (s.routes subtype payload sign)).flatMap (s.datagrams channel) ++
        (lostRoutes (s.routes subtype payload sign)).flatMap (s.datagrams channel) := by
    rw [← List.flatMap_append, ← routes_eq]
  rw [FansOut, sendMessageToRadio_eq h, hall]
  constructor
  · intro heq
    have hstate := Except.ok.inj heq
    have hsent := List.append_cancel_left (congrArg State.sent hstate)
    have hend := congrArg State.ending hstate
    refine ⟨fun hcrash => ?_, List.append_right_eq_self.mp hsent.symm⟩
    exact nomatch ((if_pos hcrash).symm.trans hend).trans hending
  · rintro ⟨hcrash, hnil⟩
    rw [hnil, List.append_nil, if_neg hcrash]

/-- All datagrams are sent exactly if the first entry that is not signed is not one whose reply is looked into without being there,
and no signed entry behind it has a client. -/
theorem fansOut_iff (h : Sendable s) (hending : s.ending = none) (libc : Libc) (url : Str) (scms : Nat → Str → Str)
    (subtype payload : Str) (channel : Int) :
    FansOut s subtype payload channel (s.signing libc url scms payload) ↔
      ¬ Crashes (lostRoutes (s.routes subtype payload (s.signing libc url scms payload))) ∧
        ∀ route ∈ lostRoutes (s.routes subtype payload (s.signing libc url scms payload)), route.2.isSigned →
          s.destination route.1 = [] := by
  rw [fansOut_iff_lost h hending, List.flatMap_eq_nil_iff]
  exact and_congr_right fun _ => forall₂_congr fun _ _ => datagrams_eq_nil

/-- Two entries for the type, each with a client, and signing. -/
def twoEntries : State :=
  { State.init with
    udpClientList := fun i => if i.val < 2 then [some i.val] else []
    messageConfigMap := [⟨0, CString.lit "MAP-P", CString.lit "MAP", CString.lit "0x8002", CString.lit "172"⟩,
      ⟨1, CString.lit "MAP-P", CString.lit "MAP", CString.lit "0x8002", []⟩]
    signState := 1
    created := 2 }

theorem sendable_twoEntries : Sendable twoEntries := by
  refine ⟨by decide, fun i c hc => ?_⟩
  have hall : ∀ i : Fin 4, ∀ p ∈ twoEntries.udpClientList i, ∀ c ∈ p, twoEntries.Alive c := by decide
  exact hall i _ hc c rfl

/-- The reply with the text Man. -/
def signedMan : Str := CString.lit "\x7b\"signedMessage\":\"TWFu\"\x7d"

theorem fansOut_twoEntries :
    FansOut twoEntries (CString.lit "MAP-P") (CString.lit "00") 178
      (twoEntries.signing Libc.rounding [] (fun _ _ => signedMan) (CString.lit "00")) :=
  (fansOut_iff sendable_twoEntries rfl Libc.rounding [] (fun _ _ => signedMan) (CString.lit "MAP-P") (CString.lit "00") 178).mpr
    (by decide +kernel)

/-- An error for the first entry loses the second, and without a reply a null pointer is looked into. -/
theorem not_fansOut : (¬ FansOut twoEntries (CString.lit "MAP-P") (CString.lit "00") 178
      (twoEntries.signing Libc.rounding []
        (fun n _ => if n = 0 then CString.lit "\x7b\"code\":500,\"message\":\"no key\"\x7d" else signedMan) (CString.lit "00"))) ∧
    ¬ FansOut twoEntries (CString.lit "MAP-P") (CString.lit "00") 178
      (twoEntries.signing Libc.rounding [] (fun n _ => if n = 0 then [] else signedMan) (CString.lit "00")) := by
  constructor
  · intro h
    have hlost := ((fansOut_iff_lost sendable_twoEntries rfl).mp h).2
    exact absurd (congrArg List.length hlost) (by decide +kernel)
  · intro h
    exact absurd ((fansOut_iff_lost sendable_twoEntries rfl).mp h).1 (by decide +kernel)

end V2xHub.ImmediateForwardPlugin
