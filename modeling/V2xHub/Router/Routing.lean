import V2xHub.Router.Basic
import Mathlib.Tactic.Common

/-!
# Subscription routing

What the router is for, in its own words: `Matches` says which entries a message meets, `subscription`
what a receiver has last subscribed with. The router's map holds the subscriptions (`find?_calls`), and
a broadcast goes once to every receiver with a matching entry, the sender apart (`count_broadcastMessage`).
-/

namespace V2xHub.MessageRouterBasic
variable {ρ : Type*} [LinearOrder ρ] {router : MessageRouterBasic ρ} {receiver : ρ} {sender : Option ρ}
  {msg : IvpMessage} {entry : MessageFilterEntry} {entries : List MessageFilterEntry}

/-- The message meets the filter entry: type and subtype are the entry's or a wildcard, and the flag
mask is empty or shares a bit with the message's flags. -/
structure Matches (entry : MessageFilterEntry) (msg : IvpMessage) : Prop where
  topic : entry.type = wildcard ∨
    msg.type = some entry.type ∧ (entry.subtype = wildcard ∨ msg.subtype = some entry.subtype)
  flags : entry.flagmask = 0 ∨ ∃ i : Nat, entry.flagmask.getLsbD i = true ∧ msg.flags.getLsbD i = true

/-- What the receiver is subscribed with after the calls. -/
def subscription (receiver : ρ) (calls : List (Call ρ)) : Option (List MessageFilterEntry) :=
  calls.foldl (fun current c =>
    match c with
    | .registerReceiver r filters => if r = receiver then some filters else current
    | .unregisterReceiver r => if r = receiver then none else current
    | .broadcastMessage _ _ => current) none

/-- The call changes what the receiver is subscribed with. -/
def Call.concerns (receiver : ρ) : Call ρ → Bool
  | .registerReceiver r _ | .unregisterReceiver r => r = receiver
  | .broadcastMessage _ _ => false

/-- The router after the calls. -/
def calls (router : MessageRouterBasic ρ) (cs : List (Call ρ)) : MessageRouterBasic ρ :=
  cs.foldl (fun router c => (router.call c).1) router

/-! ### One broadcast -/

theorem flagsPass_iff :
    flagsPass entry msg = true ↔
      (entry.flagmask = 0 ∨ ∃ i : Nat, entry.flagmask.getLsbD i = true ∧ msg.flags.getLsbD i = true) := by
  have hpos : 0 < entry.flagmask &&& msg.flags ↔ entry.flagmask &&& msg.flags ≠ 0 := BitVec.pos_iff_ne_zero _
  rw [flagsPass, Bool.or_eq_true, decide_eq_true_iff, decide_eq_true_iff, hpos]
  refine or_congr_right ⟨fun h => ?_, fun ⟨i, h1, h2⟩ h0 => ?_⟩
  · by_contra hno
    refine h (BitVec.eq_of_getLsbD_eq fun i _ => ?_)
    simpa using fun h1 => Bool.eq_false_iff.2 fun h2 => hno ⟨i, h1, h2⟩
  · have := congrArg (BitVec.getLsbD · i) h0
    simp [h1, h2] at this

omit [LinearOrder ρ] in
/-- An entry ends the loop with a delivery if the message meets it; otherwise the loop goes on. -/
theorem filterLoop_cons (receiver : ρ) (msg : IvpMessage) (entry : MessageFilterEntry)
    (entries : List MessageFilterEntry) :
    (Matches entry msg ∧ filterLoop receiver msg (entry :: entries) = [receiver]) ∨
      (¬ Matches entry msg ∧ filterLoop receiver msg (entry :: entries) = filterLoop receiver msg entries) := by
  rw [filterLoop]
  split_ifs with htype hflags hmsg hsub hflags
  · exact Or.inl ⟨⟨Or.inl htype, flagsPass_iff.1 hflags⟩, rfl⟩
  · exact Or.inr ⟨fun h => hflags (flagsPass_iff.2 h.flags), rfl⟩
  · exact Or.inl ⟨⟨Or.inr ⟨hmsg, by simpa using hsub⟩, flagsPass_iff.1 hflags⟩, rfl⟩
  · exact Or.inr ⟨fun h => hflags (flagsPass_iff.2 h.flags), rfl⟩
  · refine Or.inr ⟨fun h => ?_, rfl⟩
    rcases h.topic with h | ⟨-, h⟩
    · exact htype h
    · exact hsub (by simpa using h)
  · refine Or.inr ⟨fun h => ?_, rfl⟩
    rcases h.topic with h | ⟨h, -⟩
    · exact htype h
    · exact hmsg h

omit [LinearOrder ρ] in
theorem filterLoop_of_matches (h : ∃ entry ∈ entries, Matches entry msg) :
    filterLoop receiver msg entries = [receiver] := by
  induction entries with
  | nil => simp at h
  | cons entry entries ih =>
    rcases filterLoop_cons receiver msg entry entries with ⟨-, hloop⟩ | ⟨hno, hloop⟩
    · exact hloop
    · rw [hloop]
      obtain ⟨e, he, hm⟩ := h
      rcases List.mem_cons.1 he with rfl | he
      · exact absurd hm hno
      · exact ih ⟨e, he, hm⟩

omit [LinearOrder ρ] in
theorem filterLoop_of_not_matches (h : ¬ ∃ entry ∈ entries, Matches entry msg) :
    filterLoop receiver msg entries = [] := by
  induction entries with
  | nil => rfl
  | cons entry entries ih =>
    rcases filterLoop_cons receiver msg entry entries with ⟨hm, -⟩ | ⟨-, hloop⟩
    · exact absurd ⟨entry, List.mem_cons_self .., hm⟩ h
    · rw [hloop]
      exact ih fun ⟨e, he, hm⟩ => h ⟨e, List.mem_cons_of_mem _ he, hm⟩

theorem mapLoop_sublist (es : List (ρ × List MessageFilterEntry)) :
    (mapLoop sender msg es).Sublist (es.map Prod.fst) := by
  induction es with
  | nil => exact List.Sublist.slnil
  | cons e es ih =>
    obtain ⟨receiver, filters⟩ := e
    rw [mapLoop, List.map_cons]
    split_ifs with hsender
    · exact ih.cons _
    · by_cases hm : ∃ entry ∈ filters, Matches entry msg
      · rw [filterLoop_of_matches hm]
        exact ih.cons_cons _
      · rw [filterLoop_of_not_matches hm]
        exact ih.cons _

theorem mem_mapLoop {es : List (ρ × List MessageFilterEntry)} :
    receiver ∈ mapLoop sender msg es ↔
      sender ≠ some receiver ∧ ∃ filters, (receiver, filters) ∈ es ∧ ∃ entry ∈ filters, Matches entry msg := by
  induction es with
  | nil => simp [mapLoop]
  | cons e es ih =>
    obtain ⟨r, filters⟩ := e
    rw [mapLoop]
    split_ifs with hsender
    · refine ih.trans (and_congr_right fun hr => ?_)
      have hne : receiver ≠ r := fun h => hr (h ▸ hsender)
      simp [hne]
    · by_cases hm : ∃ entry ∈ filters, Matches entry msg
      · rw [filterLoop_of_matches hm]
        by_cases hr : receiver = r
        · subst hr
          simpa [hsender] using Or.inl hm
        · simp [hr, ih]
      · rw [filterLoop_of_not_matches hm]
        refine ih.trans (and_congr_right fun _ => ?_)
        by_cases hr : receiver = r
        · subst hr
          simp only [List.mem_cons, Prod.mk.injEq, true_and, or_and_right, exists_or, exists_eq_left, hm, false_or]
        · simp [hr]

theorem mem_broadcastMessage :
    receiver ∈ router.broadcastMessage sender msg ↔ sender ≠ some receiver ∧
      ∃ filters, router.receiverMessageFilterEntryMap.find? receiver = some filters ∧
        ∃ entry ∈ filters, Matches entry msg := by
  simp only [← OrdMap.mem_entries]
  exact mem_mapLoop

theorem sorted_broadcastMessage : (router.broadcastMessage sender msg).Pairwise (· < ·) :=
  (List.pairwise_map.2 router.receiverMessageFilterEntryMap.sorted).sublist (mapLoop_sublist _)

/-! ### Histories -/

theorem subscription_concat {cs : List (Call ρ)} {c : Call ρ} :
    subscription receiver (cs ++ [c]) =
      match c with
      | .registerReceiver r filters => if r = receiver then some filters else subscription receiver cs
      | .unregisterReceiver r => if r = receiver then none else subscription receiver cs
      | .broadcastMessage _ _ => subscription receiver cs := by
  rw [subscription, List.foldl_concat]
  rfl

/-- The map of the router holds the subscriptions. -/
theorem find?_calls (cs : List (Call ρ)) (receiver : ρ) :
    (init.calls cs).receiverMessageFilterEntryMap.find? receiver = subscription receiver cs := by
  induction cs using List.reverseRecOn with
  | nil => rfl
  | append_singleton cs c ih =>
    rw [subscription_concat, calls, List.foldl_concat]
    show (((init.calls cs).call c).1).receiverMessageFilterEntryMap.find? receiver = _
    cases c with
    | registerReceiver r filters =>
      rw [call, registerReceiver, OrdMap.find?_insert, ih]
      simp only [eq_comm]
    | unregisterReceiver r =>
      rw [call, unregisterReceiver, OrdMap.find?_erase, ih]
      simp only [eq_comm]
    | broadcastMessage s m => exact ih

/-- What a receiver is subscribed with depends on the calls about it only. -/
theorem subscription_filter (cs : List (Call ρ)) :
    subscription receiver (cs.filter (Call.concerns receiver)) = subscription receiver cs := by
  induction cs using List.reverseRecOn with
  | nil => rfl
  | append_singleton cs c ih =>
    rw [List.filter_append, subscription_concat]
    cases c with
    | registerReceiver r filters | unregisterReceiver r =>
      by_cases hr : r = receiver
      · simp [Call.concerns, hr, subscription_concat]
      · simp [Call.concerns, hr, ih]
    | broadcastMessage s m => simp [Call.concerns, ih]

theorem run_append (cs cs' : List (Call ρ)) : router.run (cs ++ cs') = router.run cs ++ (router.calls cs).run cs' := by
  induction cs generalizing router with
  | nil => rfl
  | cons c cs ih =>
    rw [List.cons_append, run, run, ih]
    rfl

theorem length_run (router : MessageRouterBasic ρ) (cs : List (Call ρ)) : (router.run cs).length = cs.length := by
  induction cs generalizing router with
  | nil => rfl
  | cons c cs ih => rw [run, List.length_cons, List.length_cons, ih]

theorem mem_broadcastMessage_calls {cs : List (Call ρ)} :
    receiver ∈ (init.calls cs).broadcastMessage sender msg ↔ sender ≠ some receiver ∧
      ∃ entry ∈ (subscription receiver cs).getD [], Matches entry msg := by
  rw [mem_broadcastMessage, find?_calls]
  cases subscription receiver cs <;> simp

/-- A broadcast depends only on the set of entries that each receiver is subscribed with. -/
theorem broadcastMessage_congr {cs cs' : List (Call ρ)}
    (h : ∀ r entry, entry ∈ (subscription r cs).getD [] ↔ entry ∈ (subscription r cs').getD []) :
    (init.calls cs).broadcastMessage sender msg = (init.calls cs').broadcastMessage sender msg := by
  have hmem : ∀ r, r ∈ (init.calls cs).broadcastMessage sender msg ↔
      r ∈ (init.calls cs').broadcastMessage sender msg := fun r => by
    simp only [mem_broadcastMessage_calls, h]
  have hnodup : ∀ cs : List (Call ρ), ((init.calls cs).broadcastMessage sender msg).Nodup := fun cs =>
    sorted_broadcastMessage.imp fun h => h.ne
  exact ((List.perm_ext_iff_of_nodup (hnodup cs) (hnodup cs')).2 hmem).eq_of_pairwise
    (fun a b _ _ hab hba => absurd hab hba.asymm) sorted_broadcastMessage sorted_broadcastMessage

/-- The broadcast after the calls `pre`, in any history: it is delivered once to every receiver that is
subscribed with a matching entry and is not the sender, and to nobody else. What it delivers is fixed by
the set of entries of each receiver, and so neither the order and the repetition of the entries nor the
order in which different receivers were registered has an influence. -/
theorem routing :
    (∀ (pre post : List (Call ρ)) sender msg, ∃ delivered,
      (init.run (pre ++ .broadcastMessage sender msg :: post))[pre.length]? = some delivered ∧
      delivered.Nodup ∧ ∀ r, r ∈ delivered ↔ sender ≠ some r ∧
        ∃ filters, subscription r pre = some filters ∧ ∃ entry ∈ filters, Matches entry msg) ∧
    (∀ (pre pre' post post' : List (Call ρ)) sender msg,
      (∀ r entry, entry ∈ (subscription r pre).getD [] ↔ entry ∈ (subscription r pre').getD []) →
      (init.run (pre ++ .broadcastMessage sender msg :: post))[pre.length]? =
        (init.run (pre' ++ .broadcastMessage sender msg :: post'))[pre'.length]?) ∧
    (∀ (pre pre' post post' : List (Call ρ)) sender msg,
      (∀ r, pre.filter (Call.concerns r) = pre'.filter (Call.concerns r)) →
      (init.run (pre ++ .broadcastMessage sender msg :: post))[pre.length]? =
        (init.run (pre' ++ .broadcastMessage sender msg :: post'))[pre'.length]?) := by
  have hrun : ∀ (pre post : List (Call ρ)) sender msg,
      (init.run (pre ++ .broadcastMessage sender msg :: post))[pre.length]? =
        some ((init.calls pre).broadcastMessage sender msg) := fun pre post sender msg => by
    rw [run_append, ← length_run init pre, List.getElem?_append_right (Nat.le_refl _), Nat.sub_self]
    rfl
  refine ⟨fun pre post sender msg => ⟨_, hrun pre post sender msg, ?_, fun r => ?_⟩,
    fun pre pre' post post' sender msg h => ?_, fun pre pre' post post' sender msg h => ?_⟩
  · exact sorted_broadcastMessage.imp fun h => h.ne
  · rw [mem_broadcastMessage, find?_calls]
  · rw [hrun, hrun, broadcastMessage_congr h]
  · rw [hrun, hrun, broadcastMessage_congr fun r entry => ?_]
    rw [← subscription_filter pre, h r, subscription_filter]

/-- Two receivers registered in either order, one of them with its entries swapped and one repeated. -/
theorem routing_reordered :
    let e : MessageFilterEntry := ⟨CString.lit "BSM", wildcard, 0⟩
    let f : MessageFilterEntry := ⟨wildcard, [], 1⟩
    let m : IvpMessage := ⟨some (CString.lit "BSM"), none, none, 0, none, 0, 2, none, none⟩
    (init.run ([.registerReceiver 1 [e, f], .registerReceiver 2 [f]] ++ [.broadcastMessage none m]))[2]? =
      (init.run ([.registerReceiver 2 [f], .registerReceiver 1 [f, e, f]] ++ [.broadcastMessage none m]))[2]? ∧
    (init.run ([.registerReceiver 1 [e], .registerReceiver 2 [f]] ++ [.broadcastMessage none m]))[2]? =
      (init.run ([.registerReceiver 2 [f], .registerReceiver 1 [e]] ++ [.broadcastMessage none m]))[2]? := by
  intro e f m
  refine ⟨routing.2.1 _ _ [] [] none m fun r entry => ?_, routing.2.2 _ _ [] [] none m fun r => ?_⟩
  · by_cases h1 : 1 = r
    · subst h1
      simp [subscription, or_comm]
    · simp [subscription, h1]
  · by_cases h1 : 1 = r
    · subst h1
      simp [Call.concerns]
    · simp [List.filter_cons, Call.concerns, h1]

end V2xHub.MessageRouterBasic
