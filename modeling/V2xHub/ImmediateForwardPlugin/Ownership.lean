import V2xHub.ImmediateForwardPlugin.Basic
import V2xHub.Lib.Succeeds
import Mathlib.Data.List.ReduceOption

/-!
# Who owns the clients

Every client that was made is either in one place of the table or deleted, once (`Table.conserved`); what is in the table is
there, so that it can be sent to and deleted. The destructor tests a pointer of the row at the index of the row, not of the
column, and so it reads behind the end of a row that is not empty and not longer than its index
(`udp_client_ownership`).
-/

namespace V2xHub.ImmediateForwardPlugin

/-- How often the client is in the table. -/
def State.owned (s : State) (c : Nat) : Nat := ∑ i, (s.udpClientList i).count (some c)

/-- Nothing is read out of bounds, no client is used that is not there, none is deleted twice, and at the end all are
deleted. -/
structure Owned (s : State) : Prop where
  safe : ∀ f, s.ending ≠ some (.fault f)
  once : s.deleted.Nodup
  created : ∀ c ∈ s.deleted, c < s.created
  all : s.ending = some .destroyed → ∀ c < s.created, c ∈ s.deleted

/-- Where the plugin is destroyed, every row with a client has more clients than its index. -/
def Roomy (s : State) : Event → Prop
  | .destroy => ∀ i : Fin 4, s.udpClientList i = [] ∨ i < (s.udpClientList i).length
  | _ => True

instance (s : State) (e : Event) : Decidable (Roomy s e) := by
  cases e <;> unfold Roomy <;> infer_instance

/-- The table while the plugin runs. -/
structure Table (s : State) : Prop where
  conserved : ∀ c, s.owned c + s.deleted.count c = if c < s.created then 1 else 0
  nonnull : ∀ i, none ∉ s.udpClientList i
  configs : ∀ config ∈ s.messageConfigMap, config.ClientIndex < 4

structure Inv (s : State) : Prop where
  safe : ∀ f, s.ending ≠ some (.fault f)
  deleted : ∀ c, s.deleted.count c ≤ if c < s.created then 1 else 0
  table : s.ending = none → Table s
  all : s.ending = some .destroyed → ∀ c < s.created, c ∈ s.deleted

variable {s t : State} {row : List (Option Nat)} {c : Nat} {i : Fin 4} {configs : List MessageConfig}

theorem count_le_owned : (s.udpClientList i).count (some c) ≤ s.owned c :=
  Finset.single_le_sum (f := fun i => (s.udpClientList i).count (some c)) (fun _ _ => Nat.zero_le _) (Finset.mem_univ i)

theorem Table.deleted_le (h : Table s) (c : Nat) : s.deleted.count c ≤ if c < s.created then 1 else 0 := by
  rw [← h.conserved c]
  exact Nat.le_add_left _ _

/-- What is in the table is there. -/
theorem Table.alive (h : Table s) (hc : some c ∈ s.udpClientList i) : s.Alive c := by
  have hpos : 0 < s.owned c := Nat.lt_of_lt_of_le (List.count_pos_iff.2 hc) count_le_owned
  have hsum := h.conserved c
  split_ifs at hsum with hlt
  · refine ⟨hlt, fun hmem => ?_⟩
    have := List.count_pos_iff.2 hmem
    omega
  · omega

/-- The number of places of a client behind a change of one row. -/
theorem sum_update (rows : Fin 4 → List (Option Nat)) (i : Fin 4) (row : List (Option Nat)) (x : Option Nat) :
    (∑ j, (Function.update rows i row j).count x) + (rows i).count x = (∑ j, (rows j).count x) + row.count x := by
  rw [← Finset.add_sum_erase Finset.univ _ (Finset.mem_univ i), ← Finset.add_sum_erase Finset.univ (fun j => (rows j).count x)
    (Finset.mem_univ i), Function.update_self]
  have hrest : ∀ j ∈ Finset.univ.erase i, (Function.update rows i row j).count x = (rows j).count x := fun j hj => by
    rw [Function.update_of_ne (Finset.ne_of_mem_erase hj)]
  rw [Finset.sum_congr rfl hrest]
  omega

/-! ### Deleting and sending -/

theorem count_reduceOption : row.reduceOption.count c = row.count (some c) := by
  rw [List.reduceOption, List.count_filterMap, List.count_eq_countP]
  rfl

/-- The state behind the deletion of the clients of a row. -/
def State.without (s : State) (row : List (Option Nat)) : State := { s with deleted := s.deleted ++ row.reduceOption }

/-- Clients that are there, each once, can be deleted. -/
theorem deleteAll_eq (hrow : ∀ c, row.count (some c) + s.deleted.count c ≤ if c < s.created then 1 else 0) :
    deleteAll s row = .ok (s.without row) := by
  induction row generalizing s with
  | nil =>
    change Except.ok s = Except.ok (s.without [])
    rw [State.without, List.reduceOption_nil, List.append_nil]
  | cons p row ih =>
    rw [deleteAll, List.foldlM_cons]
    cases p with
    | none =>
      have hrest := ih fun c => by simpa using hrow c
      rw [State.without, List.reduceOption_cons_of_none]
      exact hrest
    | some c =>
      have hc := hrow c
      rw [List.count_cons_self] at hc
      have halive : s.Alive c := by
        split_ifs at hc with hlt
        · exact ⟨hlt, fun hmem => by have := List.count_pos_iff.2 hmem; omega⟩
        · omega
      have hrest := ih (s := { s with deleted := s.deleted ++ [c] }) fun d => by
        refine Nat.le_trans (Nat.le_of_eq ?_) (hrow d)
        rw [List.count_append]
        by_cases hcd : c = d
        · subst hcd
          rw [List.count_singleton_self, List.count_cons_self]
          omega
        · rw [List.count_cons_of_ne fun h => hcd (Option.some.inj h), List.count_eq_zero_of_not_mem fun h =>
            hcd (List.mem_singleton.1 h).symm, Nat.add_zero]
      rw [deleteClient, if_pos halive]
      refine Eq.trans hrest ?_
      simp only [State.without, List.reduceOption_cons_of_some, List.append_assoc, List.singleton_append]

theorem foldlM_sendClient (message : Str) (hrow : ∀ c, some c ∈ row → s.Alive c) :
    ∃ sent, row.foldlM (sendClient message) s = .ok { s with sent } := by
  induction row generalizing s with
  | nil => exact ⟨s.sent, rfl⟩
  | cons p row ih =>
    rw [List.foldlM_cons]
    cases p with
    | none => exact ih fun c hc => hrow c (List.mem_cons_of_mem _ hc)
    | some c =>
      rw [sendClient, if_pos (hrow c List.mem_cons_self)]
      exact ih (s := { s with sent := s.sent ++ [(c, message)] }) fun d hd => hrow d (List.mem_cons_of_mem _ hd)

/-- Nothing has changed but what has been sent, and the plugin may have been aborted. -/
def Sends (s : State) (result : Except Fault State) : Prop :=
  ∃ sent ending, result = .ok { s with sent, ending } ∧ (ending = s.ending ∨ ending = some .aborted)

theorem Sends.none : Sends s (.ok s) := ⟨s.sent, s.ending, rfl, .inl rfl⟩

theorem Sends.aborted : Sends s (.ok { s with ending := some .aborted }) := ⟨s.sent, some .aborted, rfl, .inr rfl⟩

theorem Sends.after {sent : List (Nat × Str)} {result : Except Fault State} (h : Sends { s with sent } result) :
    Sends s result := h

theorem sends_configs {msg : Message} {channel : Int} {payload : Str} {sign : Nat → Signed} {n : Nat} (h : Table s)
    (hconfigs : ∀ config ∈ configs, config.ClientIndex < 4) :
    Sends s (sendConfigs msg channel payload sign n configs s) := by
  induction configs generalizing s n with
  | nil => exact Sends.none
  | cons config configs ih =>
    obtain ⟨hconfig, hrest⟩ := List.forall_mem_cons.1 hconfigs
    rw [sendConfigs]
    by_cases htype : config.TmxType = msg.subtype
    · rw [if_pos htype]
      cases if s.signState = 1 then sign n else .signed payload with
      | signed payloadbyte =>
        have hrow : s.row config.ClientIndex = .ok (s.udpClientList ⟨config.ClientIndex, hconfig⟩) := dif_pos hconfig
        obtain ⟨sent, hsent⟩ := foldlM_sendClient (radioMessage s.signState config channel payloadbyte)
          fun c (hc : some c ∈ s.udpClientList ⟨config.ClientIndex, hconfig⟩) => h.alive hc
        have htable : Table { s with sent } := ⟨h.conserved, h.nonnull, h.configs⟩
        rw [hrow]
        change Sends s (List.foldlM _ _ _ >>= _)
        rw [hsent]
        exact (ih htable hrest).after
      | refused => exact Sends.none
      | threw => exact Sends.none
      | crashed => exact Sends.aborted
    · rw [if_neg htype]
      exact ih h hrest

theorem sends_message (msg : Message) (sign : Nat → Signed) (h : Table s) : Sends s (onMessageReceived msg sign s) := by
  unfold onMessageReceived
  cases s.configRead with
  | false => exact Sends.none
  | true =>
    cases msg.dsrcMetadata with
    | none => exact Sends.none
    | some channel =>
      cases s.muteDsrc with
      | true => exact Sends.none
      | false =>
        change Sends s (sendMessageToRadio msg channel sign s)
        unfold sendMessageToRadio
        cases msg.payload with
        | none => exact Sends.aborted
        | some payload => exact sends_configs h h.configs

/-! ### The configuration -/

theorem clientIndex_messageConfig {n : Nat} {child : Ptree} {config : MessageConfig}
    (h : messageConfig n child = some config) : config.ClientIndex = n := by
  simp only [messageConfig, Option.bind_eq_bind, Option.bind_eq_some_iff] at h
  obtain ⟨_, _, _, _, _, _, hconfig⟩ := h
  obtain rfl := Option.some.inj hconfig
  rfl

theorem clientIndex_messageConfigs {n : Nat} {children : List (Str × Ptree)} (h : messageConfigs n children = some configs) :
    ∀ config ∈ configs, config.ClientIndex = n := by
  induction children generalizing configs with
  | nil =>
    obtain rfl := Option.some.inj h
    exact fun _ hc => absurd hc List.not_mem_nil
  | cons child children ih =>
    obtain ⟨name, child⟩ := child
    rw [messageConfigs] at h
    split_ifs at h
    split at h
    · obtain rfl := Option.some.inj h
      exact fun _ hc => absurd hc List.not_mem_nil
    · next config hconfig =>
      obtain ⟨rest, hrest, rfl⟩ := Option.map_eq_some_iff.1 h
      exact List.forall_mem_cons.2 ⟨clientIndex_messageConfig hconfig, ih hrest⟩

theorem clientIndex_parse {read_json : Str → Option Ptree} {json : Str} {n : Nat} {configs' : List MessageConfig} (hn : n < 4)
    (hconfigs : ∀ config ∈ configs, config.ClientIndex < 4)
    (h : parseJsonMessageConfig read_json json n configs = some configs') : ∀ config ∈ configs', config.ClientIndex < 4 := by
  unfold parseJsonMessageConfig at h
  split_ifs at h
  · obtain rfl := Option.some.inj h
    exact hconfigs
  · have hkept : ∀ config ∈ configs.filter fun config => config.ClientIndex ≠ n, config.ClientIndex < 4 :=
      fun config hconfig => hconfigs config (List.mem_of_mem_filter hconfig)
    dsimp only at h
    split at h
    · obtain rfl := Option.some.inj h
      exact hkept
    · obtain ⟨new, hnew, rfl⟩ := Option.map_eq_some_iff.1 h
      exact List.forall_mem_append.2 ⟨hkept, fun config hconfig => (clientIndex_messageConfigs hnew config hconfig).symm ▸ hn⟩

theorem Table.push (h : Table s) : Table (s.push i) := by
  refine ⟨fun c => ?_, fun j hj => ?_, h.configs⟩
  · have hsum := h.conserved c
    have hupdate := sum_update s.udpClientList i (s.udpClientList i ++ [some s.created]) (some c)
    rw [List.count_append, List.count_singleton] at hupdate
    change (∑ j, (Function.update s.udpClientList i _ j).count (some c)) + s.deleted.count c = if c < s.created + 1 then 1 else 0
    unfold State.owned at hsum
    by_cases hc : c = s.created
    · subst hc
      rw [if_neg (Nat.lt_irrefl _)] at hsum
      rw [if_pos (Nat.lt_succ_self _)]
      simp only [beq_self_eq_true, if_true] at hupdate
      omega
    · have hne : (some s.created == some c) = false := by simpa using fun h => hc h.symm
      rw [hne, if_neg Bool.false_ne_true] at hupdate
      have hlt : c < s.created + 1 ↔ c < s.created := by omega
      simp only [hlt]
      omega
  · change none ∈ Function.update s.udpClientList i _ j at hj
    by_cases hji : j = i
    · subst hji
      rw [Function.update_self, List.mem_append] at hj
      rcases hj with hj | hj
      · exact h.nonnull j hj
      · exact nomatch List.mem_singleton.1 hj
    · rw [Function.update_of_ne hji] at hj
      exact h.nonnull j hj

theorem Table.openClients (resolves : Str → Int → Bool) (srvs : List Str) (h : Table s) :
    Table (openClients i resolves srvs s) ∧ (ImmediateForwardPlugin.openClients i resolves srvs s).ending = s.ending := by
  induction srvs generalizing s with
  | nil => exact ⟨h, rfl⟩
  | cons srv srvs ih =>
    rw [ImmediateForwardPlugin.openClients]
    split
    · split_ifs
      · exact ih h.push
      · exact ⟨h, rfl⟩
    · exact ih h

/-- The table behind the deletion of a row. -/
def State.emptied (s : State) (i : Fin 4) : State :=
  { s.without (s.udpClientList i) with udpClientList := Function.update s.udpClientList i [] }

theorem Table.deleteRow (h : Table s) : deleteAll s (s.udpClientList i) = .ok (s.without (s.udpClientList i)) := by
  refine deleteAll_eq fun c => ?_
  rw [← h.conserved c]
  exact Nat.add_le_add_right count_le_owned _

theorem Table.emptied (h : Table s) : Table (s.emptied i) := by
  refine ⟨fun c => ?_, fun j hj => ?_, h.configs⟩
  · have hupdate := sum_update s.udpClientList i [] (some c)
    have hsum := h.conserved c
    change (∑ j, (Function.update s.udpClientList i [] j).count (some c)) +
      (s.deleted ++ (s.udpClientList i).reduceOption).count c = if c < s.created then 1 else 0
    unfold State.owned at hsum
    rw [List.count_append, count_reduceOption]
    rw [List.count_nil] at hupdate
    omega
  · change none ∈ Function.update s.udpClientList i [] j at hj
    by_cases hji : j = i
    · subst hji
      rw [Function.update_self] at hj
      exact absurd hj List.not_mem_nil
    · rw [Function.update_of_ne hji] at hj
      exact h.nonnull j hj

theorem update_eq {n : Nat} (settings : ClientSettings) (h : Table s) :
    ∃ t, updateUdpClientFromConfigSettings n settings s = .ok t ∧
      (t.ending = s.ending ∧ Table t ∨ t = { s with ending := some .aborted }) := by
  unfold updateUdpClientFromConfigSettings
  by_cases hn : n < 4
  · rw [dif_pos hn]
    dsimp only
    cases hconfigs : parseJsonMessageConfig settings.read_json settings.messages n s.messageConfigMap with
    | none => exact ⟨_, rfl, .inr rfl⟩
    | some configs =>
      have htable : Table { s with messageConfigMap := configs } :=
        ⟨h.conserved, h.nonnull, clientIndex_parse hn h.configs hconfigs⟩
      have hdelete := htable.deleteRow (i := ⟨n, hn⟩)
      dsimp only at hdelete ⊢
      rw [hdelete]
      have hemptied := htable.emptied (i := ⟨n, hn⟩)
      refine ⟨_, rfl, .inl ?_⟩
      by_cases hdestinations : settings.destinations = []
      · rw [if_pos hdestinations]
        exact ⟨rfl, hemptied⟩
      · rw [if_neg hdestinations]
        obtain ⟨hopen, hending⟩ := hemptied.openClients (i := ⟨n, hn⟩) settings.resolves
          (settings.destinations.splitOnP isSeparator)
        exact ⟨hending, hopen⟩
  · rw [dif_neg hn]
    exact ⟨s, rfl, .inl ⟨rfl, h⟩⟩

/-! ### The destructor -/

/-- The clients of all rows. -/
def State.clients (s : State) : List (Option Nat) := (List.finRange 4).flatMap s.udpClientList

theorem count_clients : s.clients.count (some c) = s.owned c := by
  rw [State.clients, List.count_flatMap, State.owned, Fin.sum_univ_def]
  rfl

/-- In a row that is longer than its index the test is one of a pointer of the row. -/
theorem destroyRow_eq (hnonnull : none ∉ row) (hrow : row = [] ∨ i < row.length) : destroyRow i row s = deleteAll s row := by
  rcases hrow with rfl | hlt
  · rfl
  · have hsome : ∃ c, row[(i : Nat)]? = some (some c) := by
      rw [List.getElem?_eq_getElem hlt]
      cases hp : row[(i : Nat)] with
      | none => exact absurd (hp ▸ List.getElem_mem hlt) hnonnull
      | some c => exact ⟨c, rfl⟩
    obtain ⟨c, hc⟩ := hsome
    unfold destroyRow deleteAll
    rw [hc]

theorem not_succeeds_destroyRow (hempty : row ≠ []) (hrow : row.length ≤ i) : ¬ Succeeds (destroyRow i row s) := by
  cases row with
  | nil => exact absurd rfl hempty
  | cons p row =>
    rw [destroyRow, List.foldlM_cons, List.getElem?_eq_none hrow]
    exact not_succeeds_error

/-- The rows one after the other are the clients of all rows. -/
theorem foldlM_destroyRow {l : List (Fin 4)} (hnonnull : ∀ i ∈ l, none ∉ s.udpClientList i)
    (hroomy : ∀ i ∈ l, s.udpClientList i = [] ∨ i < (s.udpClientList i).length) :
    l.foldlM (fun t (i : Fin 4) => destroyRow i (s.udpClientList i) t) t = deleteAll t (l.flatMap s.udpClientList) := by
  induction l generalizing t with
  | nil => rfl
  | cons i l ih =>
    obtain ⟨hnull, hnonnull⟩ := List.forall_mem_cons.1 hnonnull
    obtain ⟨hi, hroomy⟩ := List.forall_mem_cons.1 hroomy
    rw [List.foldlM_cons, destroyRow_eq hnull hi, List.flatMap_cons, deleteAll, deleteAll, List.foldlM_append]
    exact congrArg _ (funext fun t => ih hnonnull hroomy)

theorem not_succeeds_foldlM_destroyRow {l : List (Fin 4)}
    (h : ∃ i ∈ l, s.udpClientList i ≠ [] ∧ (s.udpClientList i).length ≤ i) :
    ¬ Succeeds (l.foldlM (fun t (i : Fin 4) => destroyRow i (s.udpClientList i) t) t) := by
  induction l generalizing t with
  | nil =>
    obtain ⟨i, hi, -⟩ := h
    exact absurd hi List.not_mem_nil
  | cons j l ih =>
    rw [List.foldlM_cons, succeeds_bind]
    rintro ⟨t', ht', hrest⟩
    obtain ⟨i, hi, hempty, hlength⟩ := h
    rcases List.mem_cons.1 hi with rfl | hi
    · exact not_succeeds_destroyRow hempty hlength ⟨t', ht'⟩
    · exact ih ⟨i, hi, hempty, hlength⟩ hrest

theorem Table.destroy_eq (h : Table s) (hroomy : Roomy s .destroy) :
    destroy s = .ok { s.without s.clients with ending := some .destroyed } := by
  rw [destroy, foldlM_destroyRow (fun i _ => h.nonnull i) fun i _ => hroomy i]
  have hdelete : deleteAll s s.clients = .ok (s.without s.clients) := deleteAll_eq fun c => by
    rw [count_clients, h.conserved c]
  change deleteAll s s.clients >>= _ = _
  rw [hdelete]
  rfl

theorem roomy_of_destroy (h : destroy s = .ok t) : Roomy s .destroy := by
  intro i
  by_contra hi
  obtain ⟨hempty, hlength⟩ := not_or.1 hi
  rw [destroy] at h
  have hsucceeds : Succeeds ((List.finRange 4).foldlM (fun t (i : Fin 4) => destroyRow i (s.udpClientList i) t) s) := by
    obtain ⟨t', ht', -⟩ := succeeds_bind.1 ⟨t, h⟩
    exact ⟨t', ht'⟩
  exact not_succeeds_foldlM_destroyRow ⟨i, List.mem_finRange i, hempty, Nat.not_lt.1 hlength⟩ hsucceeds

/-! ### Runs -/

theorem inv_init : Inv State.init := by
  refine ⟨fun _ => nofun, fun c => by simp [State.init], fun _ => ⟨fun c => ?_, fun i => List.not_mem_nil, ?_⟩, nofun⟩
  · simp [State.owned, State.init]
  · exact fun config hconfig => absurd hconfig List.not_mem_nil

/-- A table is all there is to the invariant while the plugin runs. -/
theorem Inv.of_table (h : Table s) (hending : s.ending = none) : Inv s where
  safe _ hf := nomatch hending.symm.trans hf
  deleted := h.deleted_le
  table _ := h
  all hdestroyed := nomatch hending.symm.trans hdestroyed

theorem Inv.of_aborted (h : ∀ c, s.deleted.count c ≤ if c < s.created then 1 else 0) (hending : s.ending = some .aborted) :
    Inv s where
  safe _ hf := nomatch hending.symm.trans hf
  deleted := h
  table hnone := nomatch hending.symm.trans hnone
  all hdestroyed := nomatch hending.symm.trans hdestroyed

theorem Inv.of_sends {result : Except Fault State} (h : Table s) (hending : s.ending = none) (hsends : Sends s result)
    (ht : result = .ok t) : Inv t := by
  obtain ⟨sent, ending, heq, hcases⟩ := hsends
  obtain rfl := Except.ok.inj (heq.symm.trans ht)
  rcases hcases with rfl | rfl
  · exact Inv.of_table ⟨h.conserved, h.nonnull, h.configs⟩ hending
  · exact Inv.of_aborted h.deleted_le rfl

/-- The events that do not destroy the plugin succeed, and so does its end where the rows have room. -/
theorem Inv.exec {e : Event} (h : Inv s) (hending : s.ending = none) (hroomy : Roomy s e) :
    ∃ t, s.exec e = .ok t ∧ Inv t := by
  have htable := h.table hending
  cases e with
  | clear =>
    refine ⟨_, rfl, Inv.of_table ⟨htable.conserved, htable.nonnull, ?_⟩ hending⟩
    exact fun config hconfig => absurd hconfig List.not_mem_nil
  | updateUdpClient n settings =>
    obtain ⟨t, ht, hcases⟩ := update_eq (n := n) settings htable
    refine ⟨t, ht, ?_⟩
    rcases hcases with ⟨hsame, hnew⟩ | rfl
    · exact Inv.of_table hnew (hsame.trans hending)
    · exact Inv.of_aborted htable.deleted_le rfl
  | settings signState muteDsrc =>
    exact ⟨_, rfl, Inv.of_table ⟨htable.conserved, htable.nonnull, htable.configs⟩ hending⟩
  | message msg sign =>
    have hsends := sends_message msg sign htable
    obtain ⟨sent, ending, heq, -⟩ := id hsends
    exact ⟨_, heq, Inv.of_sends htable hending hsends heq⟩
  | destroy =>
    have hsum : ∀ c, (s.deleted ++ s.clients.reduceOption).count c = if c < s.created then 1 else 0 := fun c => by
      rw [← htable.conserved c, ← count_clients, ← count_reduceOption, Nat.add_comm, ← List.count_append]
    refine ⟨_, htable.destroy_eq hroomy, fun _ => nofun, fun c => Nat.le_of_eq (hsum c), nofun, fun _ c hc => ?_⟩
    have hone := (hsum c).trans (if_pos hc)
    exact List.count_pos_iff.1 (Nat.lt_of_lt_of_eq Nat.zero_lt_one hone.symm)

theorem Inv.owned (h : Inv s) : Owned s where
  safe := h.safe
  once := List.nodup_iff_count_le_one.2 fun c => Nat.le_trans (h.deleted c) (by split <;> omega)
  created c hc := by
    by_contra hlt
    have := h.deleted c
    rw [if_neg hlt] at this
    exact absurd (List.count_pos_iff.2 hc) (Nat.not_lt.2 this)
  all := h.all

theorem ending_of_step {e : Event} (h : plugin.step s e = some t) : s.ending = none := by
  by_contra hending
  exact nomatch h.symm.trans (if_neg hending)

theorem Inv.step {e : Event} (h : Inv s) (hroomy : Roomy s e) (hstep : plugin.step s e = some t) : Inv t := by
  have hending := ending_of_step hstep
  obtain ⟨t', ht', hinv⟩ := h.exec hending hroomy
  change State.step s e = some t at hstep
  rw [State.step, if_pos hending, ht'] at hstep
  obtain rfl := Option.some.inj hstep
  exact hinv

/-- An end that reads behind a row is one. -/
theorem roomy_of_owned {e : Event} (hstep : plugin.step s e = some t) (h : Owned t) : Roomy s e := by
  cases e with
  | destroy =>
    have hending := ending_of_step hstep
    change State.step s .destroy = some t at hstep
    rw [State.step, if_pos hending] at hstep
    cases hexec : s.exec .destroy with
    | ok t' => exact roomy_of_destroy hexec
    | error f =>
      rw [hexec] at hstep
      obtain rfl := Option.some.inj hstep
      exact absurd rfl (h.safe f)
  | _ => trivial

/-- The clients are owned in every state of a run exactly where the plugin is not destroyed with a short row. -/
theorem udp_client_ownership {es : List Event} (h : plugin.exec plugin.init es = some s) :
    (∀ tr t, tr <+: es → plugin.exec plugin.init tr = some t → Owned t) ↔ plugin.Meets Roomy plugin.init es :=
  Machine.always_iff_meets (I := fun _ s => Inv s) inv_init (fun _ _ _ _ hinv hroomy hstep => hinv.step hroomy hstep)
    (fun _ _ hinv => hinv.owned) (fun _ _ _ _ _ hstep howned => roomy_of_owned hstep howned) h

/-- Settings without messages and with the one destination, or none. -/
def clientSettings (destinations : String) : ClientSettings :=
  ⟨[], CString.lit destinations, fun _ => none, fun _ _ => true⟩

/-- A radio at the first destination, replaced by two, a message, and the end. -/
def twoRadios : List Event :=
  updateConfigSettings (fun i => clientSettings (if i.val = 0 then "10.0.0.2:1516" else "0")) 0 false ++
    updateConfigSettings (fun i => clientSettings (if i.val = 0 then "10.0.0.2:1516,10.0.0.3:1516" else "0")) 0 false ++
    [.message ⟨CString.lit "BSM", some 172, some (CString.lit "00")⟩ fun _ => .refused, .destroy]

theorem udp_client_ownership_first : ∃ s, plugin.exec plugin.init twoRadios = some s ∧ Owned s := by
  have hexec : plugin.exec plugin.init twoRadios = some _ := rfl
  exact ⟨_, hexec, (udp_client_ownership hexec).2 (by decide) twoRadios _ (List.prefix_refl _) hexec⟩

/-- A radio at the second destination only: the destructor tests the pointer behind the end of its row. -/
theorem udp_client_ownership_second : ¬ ∀ es s, plugin.exec plugin.init es = some s → Owned s := by
  intro h
  have howned := h (updateConfigSettings (fun i => clientSettings (if i.val = 1 then "10.0.0.2:1516" else "0")) 0 false ++
    [.destroy]) _ rfl
  exact howned.safe .index rfl

end V2xHub.ImmediateForwardPlugin
