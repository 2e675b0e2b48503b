import V2xHub.Router.Concurrent
import V2xHub.Router.Routing
import V2xHub.Lib.Threads

/-!
# The lock protocol of the router

`Inv`: the two locks are held by the threads between `lock` and `unlock`, `mActiveBroadcasts` counts the
threads between its increment and its decrement, and every thread is where it may be (`Pc.Valid`). One
lemma for each operation on the shared state, and `inv_run` puts them together. A broadcast that runs
among other threads delivers what `broadcastMessage` delivers by itself.
-/

namespace V2xHub.MessageRouterBasic
open Threads
variable {τ ρ : Type*} [DecidableEq τ] [LinearOrder ρ]

/-- What holds where the thread is: `n` active broadcasts, a map that does not change under a loop, and
the receivers that a loop has delivered to are those of a whole broadcast so far. -/
def Pc.Valid (n : Int) (router : MessageRouterBasic ρ) : Pc ρ → Prop
  | .loop b mapIter delivered =>
    (∀ r, mapIter = some r → ∃ filters, router.receiverMessageFilterEntryMap.find? r = some filters) ∧
      delivered ++ mapLoop b.sender b.msg (router.receiverMessageFilterEntryMap.remaining mapIter) =
        router.broadcastMessage b.sender b.msg
  | .receive b r delivered =>
    (∃ filters, router.receiverMessageFilterEntryMap.find? r = some filters) ∧
      delivered ++ r :: mapLoop b.sender b.msg
          (router.receiverMessageFilterEntryMap.remaining (router.receiverMessageFilterEntryMap.next r)) =
        router.broadcastMessage b.sender b.msg
  | .advance b r delivered =>
    (∃ filters, router.receiverMessageFilterEntryMap.find? r = some filters) ∧
      delivered ++ mapLoop b.sender b.msg
          (router.receiverMessageFilterEntryMap.remaining (router.receiverMessageFilterEntryMap.next r)) =
        router.broadcastMessage b.sender b.msg
  | .lockCountAgain b delivered | .decrement b delivered =>
    delivered = router.broadcastMessage b.sender b.msg
  | .updateMap _ => ¬ 0 < n
  | .updateUnlockMap (.unregisterReceiver r) => router.receiverMessageFilterEntryMap.find? r = none
  | .undefined => False
  | _ => True

/-- The invariant of the locks, the counter and the map. -/
structure Inv (s : Shared τ ρ) : Prop where
  map : Owned s.mapLock Pc.ownsMap s.pc
  count : Owned s.activeBroadcastsLock Pc.ownsCount s.pc
  counter : Counted s.activeBroadcasts Pc.counted s.pc
  valid : ∀ t, (s.pc t).Valid s.activeBroadcasts s.router

variable {s s' : Shared τ ρ} {t : τ} {p : Pc ρ} {router : MessageRouterBasic ρ} {b : Broadcast ρ} {r : ρ}
  {delivered : List ρ} {r' : ρ}

theorem inv_init : Inv (machine τ ρ).init :=
  ⟨Owned.none fun _ => rfl, Owned.none fun _ => rfl, Counted.zero fun _ => rfl, fun _ => trivial⟩

/-! ### One lemma for each operation -/

theorem Inv.goto (h : Inv s) (hm : p.ownsMap = (s.pc t).ownsMap) (hc : p.ownsCount = (s.pc t).ownsCount)
    (hn : p.counted = (s.pc t).counted) (hv : p.Valid s.activeBroadcasts s.router) : Inv (s.goto t p) :=
  ⟨h.map.stay hm, h.count.stay hc, h.counter.stay hn, forall_update h.valid hv⟩

theorem Inv.acquireMap (h : Inv s) (hs : s.acquireMap t p = some s') (hm : p.ownsMap = true)
    (hc : p.ownsCount = (s.pc t).ownsCount) (hn : p.counted = (s.pc t).counted)
    (hv : p.Valid s.activeBroadcasts s.router) : Inv s' := by
  unfold Shared.acquireMap at hs
  split_ifs at hs with hfree
  obtain rfl := Option.some.inj hs
  have hmap := h.map
  rw [Option.isNone_iff_eq_none.1 hfree] at hmap
  exact ⟨hmap.acquire hm, h.count.stay hc, h.counter.stay hn, forall_update h.valid hv⟩

theorem Inv.releaseMap (h : Inv s) (ht : (s.pc t).ownsMap = true) (hm : p.ownsMap = false)
    (hc : p.ownsCount = (s.pc t).ownsCount) (hn : p.counted = (s.pc t).counted)
    (hv : p.Valid s.activeBroadcasts s.router) : Inv (s.releaseMap t p) :=
  ⟨h.map.release ht hm, h.count.stay hc, h.counter.stay hn, forall_update h.valid hv⟩

theorem Inv.acquireCount (h : Inv s) (hs : s.acquireCount t p = some s') (hm : p.ownsMap = (s.pc t).ownsMap)
    (hc : p.ownsCount = true) (hn : p.counted = (s.pc t).counted)
    (hv : p.Valid s.activeBroadcasts s.router) : Inv s' := by
  unfold Shared.acquireCount at hs
  split_ifs at hs with hfree
  obtain rfl := Option.some.inj hs
  have hcount := h.count
  rw [Option.isNone_iff_eq_none.1 hfree] at hcount
  exact ⟨h.map.stay hm, hcount.acquire hc, h.counter.stay hn, forall_update h.valid hv⟩

theorem Inv.releaseCount (h : Inv s) (ht : (s.pc t).ownsCount = true) (hm : p.ownsMap = (s.pc t).ownsMap)
    (hc : p.ownsCount = false) (hn : p.counted = (s.pc t).counted)
    (hv : p.Valid s.activeBroadcasts s.router) : Inv (s.releaseCount t p) :=
  ⟨h.map.stay hm, h.count.release ht hc, h.counter.stay hn, forall_update h.valid hv⟩

/-- `Valid` knows the counter only as the guard of an update. -/
theorem Pc.Valid.change_count {n n' : Int} (h : p.Valid n router) (hp : ∀ u, p = .updateMap u → ¬ 0 < n') :
    p.Valid n' router := by
  cases p with
  | updateMap u => exact hp u rfl
  | updateUnlockMap u => cases u <;> exact h
  | _ => exact h

/-- An increment happens under the map lock, and so while no thread is about to update the map. -/
theorem Inv.increment (h : Inv s) (ht : s.pc t = .increment b) :
    Inv { s.goto t (.unlockCount b) with activeBroadcasts := s.activeBroadcasts + 1 } := by
  have hother : ∀ u v, s.pc u ≠ .updateMap v := fun u v hu => by
    have htu : t = u := h.map.unique (by rw [ht]; rfl) (by rw [hu]; rfl)
    rw [htu, hu] at ht
    cases ht
  exact ⟨h.map.stay (by rw [ht]; rfl), h.count.stay (by rw [ht]; rfl), h.counter.enter (by rw [ht]; rfl) rfl,
    forall_update (fun u => (h.valid u).change_count fun v hu => absurd hu (hother u v)) trivial⟩

theorem Inv.decrement (h : Inv s) (ht : s.pc t = .decrement b delivered) :
    Inv { s.goto t .unlockCountAgain with activeBroadcasts := s.activeBroadcasts - 1 } := by
  refine ⟨h.map.stay (by rw [ht]; rfl), h.count.stay (by rw [ht]; rfl), h.counter.leave (by rw [ht]; rfl) rfl,
    forall_update (fun u => (h.valid u).change_count fun v hu => ?_) trivial⟩
  have hv := h.valid u
  rw [hu] at hv
  have hv : ¬ 0 < s.activeBroadcasts := hv
  show ¬ 0 < s.activeBroadcasts - 1
  omega

/-- `Valid` knows the map only of a thread in a loop or behind an update. -/
theorem Pc.Valid.change_map {n : Int} {router' : MessageRouterBasic ρ} (h : p.Valid n router)
    (hc : p.counted = false) (hm : p.ownsMap = false) : p.Valid n router' := by
  cases p with
  | loop | receive | advance | lockCountAgain | decrement => exact absurd hc Bool.true_eq_false_eq_False
  | updateMap | updateUnlockMap => exact absurd hm Bool.true_eq_false_eq_False
  | undefined => exact h
  | _ => trivial

/-- A map update happens under the map lock and while no broadcast is counted. -/
theorem Inv.updateMap {u : Update ρ} (h : Inv s) (ht : s.pc t = .updateMap u) :
    Inv { s.goto t (.updateUnlockMap u) with router := u.apply s.router } := by
  have hzero : ¬ 0 < s.activeBroadcasts := by have hv := h.valid t; rwa [ht] at hv
  have howns : (s.pc t).ownsMap = true := by rw [ht]; rfl
  refine ⟨h.map.stay (by rw [ht]; rfl), h.count.stay (by rw [ht]; rfl), h.counter.stay (by rw [ht]; rfl), fun v => ?_⟩
  show Pc.Valid s.activeBroadcasts (u.apply s.router) (Function.update s.pc t (.updateUnlockMap u) v)
  rcases eq_or_ne v t with rfl | hv
  · rw [Function.update_self]
    cases u with
    | registerReceiver => trivial
    | unregisterReceiver r =>
      show (s.router.unregisterReceiver r).receiverMessageFilterEntryMap.find? r = none
      rw [unregisterReceiver, OrdMap.find?_erase, if_pos rfl]
  · rw [Function.update_of_ne hv]
    refine (h.valid v).change_map (h.counter.eq_false hzero v) ?_
    exact Bool.eq_false_iff.2 fun hown => hv (h.map.unique hown howns)

/-! ### The loop of a broadcast -/

theorem begin_valid (n : Int) (router : MessageRouterBasic ρ) (b : Broadcast ρ) :
    (Pc.loop b router.receiverMessageFilterEntryMap.begin []).Valid n router :=
  ⟨fun _ => OrdMap.find?_of_begin, by rw [OrdMap.remaining_begin, List.nil_append]; rfl⟩

omit [LinearOrder ρ] in
theorem filterLoop_of_not_isEmpty {msg : IvpMessage} {filters : List MessageFilterEntry}
    (h : (filterLoop r msg filters).isEmpty = false) : filterLoop r msg filters = [r] := by
  by_cases hm : ∃ entry ∈ filters, Matches entry msg
  · exact filterLoop_of_matches hm
  · rw [filterLoop_of_not_matches hm] at h
    cases h

theorem visit_valid {n : Int} (h : (Pc.loop b (some r) delivered).Valid n router) :
    (Shared.visit router b r delivered).Valid n router ∧
      (Shared.visit router b r delivered).iterating = true := by
  obtain ⟨hr, hrest⟩ := h
  obtain ⟨filters, hfind⟩ := hr r rfl
  have hvisit : Shared.visit router b r delivered = if b.sender = some r then .advance b r delivered
      else if (filterLoop r b.msg filters).isEmpty then .advance b r delivered
      else .receive b r delivered := by rw [Shared.visit, hfind]
  rw [OrdMap.remaining_some hfind, mapLoop] at hrest
  rw [hvisit]
  split_ifs at hrest ⊢ with hsender hempty
  · exact ⟨⟨⟨filters, hfind⟩, hrest⟩, rfl⟩
  · rw [List.isEmpty_iff.1 hempty, List.nil_append] at hrest
    exact ⟨⟨⟨filters, hfind⟩, hrest⟩, rfl⟩
  · rw [filterLoop_of_not_isEmpty (Bool.eq_false_iff.2 hempty)] at hrest
    exact ⟨⟨⟨filters, hfind⟩, hrest⟩, rfl⟩

theorem advance_valid {n : Int} (h : (Pc.advance b r delivered).Valid n router) :
    (Shared.advance router b r delivered).Valid n router ∧
      (Shared.advance router b r delivered).iterating = true := by
  obtain ⟨⟨filters, hfind⟩, hrest⟩ := h
  rw [Shared.advance, hfind]
  exact ⟨⟨fun _ => OrdMap.find?_of_next, hrest⟩, rfl⟩

omit [LinearOrder ρ] in
theorem iterating_flags (h : p.iterating = true) :
    p.ownsMap = false ∧ p.ownsCount = false ∧ p.counted = true := by
  cases p <;> first | exact ⟨rfl, rfl, rfl⟩ | cases h

theorem Inv.goto_iterating (h : Inv s) (ht : (s.pc t).iterating = true) (hp : p.iterating = true)
    (hv : p.Valid s.activeBroadcasts s.router) : Inv (s.goto t p) := by
  obtain ⟨hm, hc, hn⟩ := iterating_flags ht
  obtain ⟨hm', hc', hn'⟩ := iterating_flags hp
  exact h.goto (hm'.trans hm.symm) (hc'.trans hc.symm) (hn'.trans hn.symm) hv

/-! ### Steps and runs -/

theorem inv_run (h : Inv s) (hs : s.run t = some s') : Inv s' := by
  have hv := h.valid t
  unfold Shared.run at hs
  cases hpc : s.pc t with
  | idle | undefined => simp [hpc] at hs
  | lockMap b =>
    simp only [hpc] at hs
    exact h.acquireMap hs rfl (by rw [hpc]; rfl) (by rw [hpc]; rfl) trivial
  | lockCount b =>
    simp only [hpc] at hs
    exact h.acquireCount hs (by rw [hpc]; rfl) rfl (by rw [hpc]; rfl) trivial
  | increment b =>
    simp only [hpc, Option.some.injEq] at hs
    exact hs ▸ h.increment hpc
  | unlockCount b =>
    simp only [hpc, Option.some.injEq] at hs
    exact hs ▸ h.releaseCount (by rw [hpc]; rfl) (by rw [hpc]; rfl) rfl (by rw [hpc]; rfl) trivial
  | unlockMap b =>
    simp only [hpc, Option.some.injEq] at hs
    exact hs ▸ h.releaseMap (by rw [hpc]; rfl) rfl (by rw [hpc]; rfl) (by rw [hpc]; rfl) trivial
  | begin b =>
    simp only [hpc, Option.some.injEq] at hs
    exact hs ▸ h.goto_iterating (by rw [hpc]; rfl) rfl (begin_valid _ _ b)
  | loop b mapIter delivered =>
    rw [hpc] at hv
    cases mapIter with
    | none =>
      simp only [hpc, Option.some.injEq] at hs
      refine hs ▸ h.goto (by rw [hpc]; rfl) (by rw [hpc]; rfl) (by rw [hpc]; rfl) ?_
      obtain ⟨-, hrest⟩ := hv
      rwa [OrdMap.remaining, mapLoop, List.append_nil] at hrest
    | some r =>
      simp only [hpc, Option.some.injEq] at hs
      exact hs ▸ h.goto_iterating (by rw [hpc]; rfl) (visit_valid hv).2 (visit_valid hv).1
  | receive b r delivered =>
    rw [hpc] at hv
    simp only [hpc, Option.some.injEq] at hs
    refine hs ▸ h.goto_iterating (by rw [hpc]; rfl) rfl ⟨hv.1, ?_⟩
    rw [List.append_assoc]
    exact hv.2
  | advance b r delivered =>
    rw [hpc] at hv
    simp only [hpc, Option.some.injEq] at hs
    exact hs ▸ h.goto_iterating (by rw [hpc]; rfl) (advance_valid hv).2 (advance_valid hv).1
  | lockCountAgain b delivered =>
    rw [hpc] at hv
    simp only [hpc] at hs
    exact h.acquireCount hs (by rw [hpc]; rfl) rfl (by rw [hpc]; rfl) hv
  | decrement b delivered =>
    simp only [hpc, Option.some.injEq] at hs
    exact hs ▸ h.decrement hpc
  | unlockCountAgain =>
    simp only [hpc, Option.some.injEq] at hs
    exact hs ▸ h.releaseCount (by rw [hpc]; rfl) (by rw [hpc]; rfl) rfl (by rw [hpc]; rfl) trivial
  | updateLockMap u =>
    simp only [hpc] at hs
    exact h.acquireMap hs rfl (by rw [hpc]; rfl) (by rw [hpc]; rfl) trivial
  | updateWait u =>
    simp only [hpc, Option.some.injEq] at hs
    split_ifs at hs with hwait
    · exact hs ▸ h
    · exact hs ▸ h.goto (by rw [hpc]; rfl) (by rw [hpc]; rfl) (by rw [hpc]; rfl) hwait
  | updateMap u =>
    simp only [hpc, Option.some.injEq] at hs
    exact hs ▸ h.updateMap hpc
  | updateUnlockMap u =>
    simp only [hpc, Option.some.injEq] at hs
    exact hs ▸ h.releaseMap (by rw [hpc]; rfl) rfl (by rw [hpc]; rfl) (by rw [hpc]; rfl) trivial

theorem inv_step {e : Event τ ρ} (h : Inv s) (hs : (machine τ ρ).step s e = some s') : Inv s' := by
  cases e with
  | run t => exact inv_run h hs
  | call t c =>
    simp only [machine, Shared.step] at hs
    split at hs
    · rename_i hpc
      obtain rfl := Option.some.inj hs
      exact h.goto (by rw [hpc]; cases c <;> rfl) (by rw [hpc]; cases c <;> rfl) (by rw [hpc]; cases c <;> rfl)
        (by cases c <;> trivial)
    · cases hs

theorem inv_exec {es : List (Event τ ρ)} (h : (machine τ ρ).exec (machine τ ρ).init es = some s) : Inv s :=
  Machine.invariant inv_init (fun _ _ _ => inv_step) h

/-! ### What a step does to the map, and who receives -/

omit [DecidableEq τ] in
theorem find?_of_visit_delivers (h : (Shared.visit router b r delivered).delivers r') :
    ∃ filters, router.receiverMessageFilterEntryMap.find? r' = some filters := by
  unfold Shared.visit at h
  split at h
  · exact h.elim
  · rename_i filters hfind
    split_ifs at h
    · exact h.elim
    · exact h.elim
    · obtain rfl : r = r' := h
      exact ⟨filters, hfind⟩

/-- A step moves one thread. It calls a receiver only if the map has it, and changes the map in one
place only. -/
theorem step_effect {e : Event τ ρ} (hs : (machine τ ρ).step s e = some s') :
    ∃ t p, s'.pc = Function.update s.pc t p ∧
      (∀ r, p.delivers r → ∃ filters, s.router.receiverMessageFilterEntryMap.find? r = some filters) ∧
      (s'.router = s.router ∨ ∃ u, e = .run t ∧ s.pc t = .updateMap u ∧ s'.router = u.apply s.router) := by
  cases e with
  | call t c =>
    simp only [machine, Shared.step] at hs
    split at hs
    · exact Option.some.inj hs ▸ ⟨t, _, rfl, fun r h => by cases c <;> exact h.elim, Or.inl rfl⟩
    · cases hs
  | run t =>
    replace hs : s.run t = some s' := hs
    unfold Shared.run at hs
    cases hpc : s.pc t with
    | idle | undefined => simp [hpc] at hs
    | lockMap b | updateLockMap u =>
      simp only [hpc, Shared.acquireMap] at hs
      split_ifs at hs
      exact Option.some.inj hs ▸ ⟨t, _, rfl, fun r h => h.elim, Or.inl rfl⟩
    | lockCount b | lockCountAgain b delivered =>
      simp only [hpc, Shared.acquireCount] at hs
      split_ifs at hs
      exact Option.some.inj hs ▸ ⟨t, _, rfl, fun r h => h.elim, Or.inl rfl⟩
    | loop b mapIter delivered =>
      cases mapIter with
      | none =>
        simp only [hpc, Option.some.injEq] at hs
        exact hs ▸ ⟨t, _, rfl, fun r h => h.elim, Or.inl rfl⟩
      | some receiver =>
        simp only [hpc, Option.some.injEq] at hs
        exact hs ▸ ⟨t, _, rfl, fun r h => find?_of_visit_delivers h, Or.inl rfl⟩
    | advance b receiver delivered =>
      simp only [hpc, Option.some.injEq] at hs
      refine hs ▸ ⟨t, _, rfl, fun r h => ?_, Or.inl rfl⟩
      unfold Shared.advance at h
      split at h <;> exact h.elim
    | updateWait u =>
      simp only [hpc, Option.some.injEq] at hs
      split_ifs at hs
      · exact hs ▸ ⟨t, .updateWait u, by rw [← hpc, Function.update_eq_self], fun r h => h.elim, Or.inl rfl⟩
      · exact hs ▸ ⟨t, _, rfl, fun r h => h.elim, Or.inl rfl⟩
    | updateMap u =>
      simp only [hpc, Option.some.injEq] at hs
      exact hs ▸ ⟨t, _, rfl, fun r h => h.elim, Or.inr ⟨u, rfl, hpc, rfl⟩⟩
    | _ =>
      simp only [hpc, Option.some.injEq] at hs
      exact hs ▸ ⟨t, _, rfl, fun r h => h.elim, Or.inl rfl⟩

/-- The step puts the receiver into the map. -/
def Registers (r : ρ) (s : Shared τ ρ) (e : Event τ ρ) : Prop :=
  ∃ t filters, e = .run t ∧ s.pc t = .updateMap (.registerReceiver r filters)

/-- The receiver is not in the map, and no broadcast is calling it. -/
structure Absent (r : ρ) (s : Shared τ ρ) : Prop where
  find? : s.router.receiverMessageFilterEntryMap.find? r = none
  calls : ∀ u, ¬ (s.pc u).delivers r

theorem Absent.step {e : Event τ ρ} (h : Absent r s) (he : ¬ Registers r s e)
    (hs : (machine τ ρ).step s e = some s') : Absent r s' := by
  obtain ⟨t, p, hpc, hp, hrouter⟩ := step_effect hs
  refine ⟨?_, ?_⟩
  · rcases hrouter with hrouter | ⟨u, rfl, ht, hrouter⟩
    · rw [hrouter, h.find?]
    · rw [hrouter]
      cases u with
      | registerReceiver r' filters =>
        have hne : r ≠ r' := fun h => he ⟨t, filters, rfl, by rw [ht, h]⟩
        show (s.router.registerReceiver r' filters).receiverMessageFilterEntryMap.find? r = none
        rw [registerReceiver, OrdMap.find?_insert_ne hne, h.find?]
      | unregisterReceiver r' =>
        show (s.router.unregisterReceiver r').receiverMessageFilterEntryMap.find? r = none
        rw [unregisterReceiver, OrdMap.find?_erase, h.find?, ite_self]
  · rw [hpc]
    refine forall_update (P := fun q : Pc ρ => ¬ q.delivers r) h.calls fun hcall => ?_
    obtain ⟨filters, hfind⟩ := hp r hcall
    rw [h.find?] at hfind
    cases hfind

omit [DecidableEq τ] in
theorem Inv.absent (h : Inv s) (ht : s.pc t = .updateUnlockMap (.unregisterReceiver r)) : Absent r s := by
  have hfind : s.router.receiverMessageFilterEntryMap.find? r = none := by
    have hv := h.valid t
    rwa [ht] at hv
  refine ⟨hfind, fun u hu => ?_⟩
  have hv := h.valid u
  cases hpc : s.pc u with
  | receive b r' delivered =>
    rw [hpc] at hu hv
    obtain rfl : r' = r := hu
    obtain ⟨⟨filters, hfilters⟩, -⟩ := hv
    rw [hfind] at hfilters
    cases hfilters
  | _ =>
    rw [hpc] at hu
    exact hu.elim

/-- A broadcast among other threads, when its loop is done, has delivered what `broadcastMessage` does
with the map as it is then. -/
theorem broadcast_refines {es : List (Event τ ρ)} (h : (machine τ ρ).exec (machine τ ρ).init es = some s)
    (ht : s.pc t = .lockCountAgain b delivered) : delivered = s.router.broadcastMessage b.sender b.msg := by
  have hv := (inv_exec h).valid t
  rwa [ht] at hv

/-- The lock protocol, in every reachable state: the counter counts the broadcasts between its increment
and its decrement; a step that changes the map finds no broadcast in its loop; and once
`unregisterReceiver` has returned, the receiver gets no message until it is registered again. -/
theorem lock_protocol (τ ρ : Type*) [DecidableEq τ] [LinearOrder ρ] (es : List (Event τ ρ)) (s : Shared τ ρ)
    (hes : (machine τ ρ).exec (machine τ ρ).init es = some s) :
    (∃ inside : Finset τ, (∀ t, t ∈ inside ↔ (s.pc t).counted = true) ∧ s.activeBroadcasts = inside.card) ∧
    (∀ e s', (machine τ ρ).step s e = some s' → s'.router ≠ s.router → ∀ t, (s.pc t).iterating = false) ∧
    (∀ t r s', s.pc t = .updateUnlockMap (.unregisterReceiver r) → (machine τ ρ).step s (.run t) = some s' →
      ∀ fs s'', (machine τ ρ).exec s' fs = some s'' →
        (machine τ ρ).Meets (fun s e => ¬ Registers r s e) s' fs → ∀ u, ¬ (s''.pc u).delivers r) := by
  have h := inv_exec hes
  refine ⟨h.counter, fun e s' hs hne t => ?_, fun t r s' ht hs fs s'' hfs hmeets => ?_⟩
  · obtain ⟨u, p, -, -, hrouter⟩ := step_effect hs
    rcases hrouter with hrouter | ⟨v, -, hu, -⟩
    · exact absurd hrouter hne
    · have hzero : ¬ 0 < s.activeBroadcasts := by
        have hv := h.valid u
        rwa [hu] at hv
      refine Bool.eq_false_iff.2 fun hit => ?_
      have hcounted := (iterating_flags hit).2.2
      rw [h.counter.eq_false hzero t] at hcounted
      cases hcounted
  · have hstep : ¬ Registers r s (.run t) := by
      rintro ⟨t', filters, he, hreg⟩
      cases he
      rw [ht] at hreg
      cases hreg
    exact (Machine.invariant_meets ((h.absent ht).step hstep hs) (fun _ _ _ h he hs => h.step he hs) hmeets hfs).calls

/-- Thread 0 registers a receiver and unregisters it while thread 1 broadcasts to it. -/
theorem lock_protocol_unregister :
    let es : List (Event Nat Nat) :=
      .call 0 (.registerReceiver 7 [⟨wildcard, [], 0⟩]) :: List.replicate 4 (.run 0) ++
      .call 1 (.broadcastMessage none ⟨none, none, none, 0, none, 0, 0, none, none⟩) ::
        List.replicate 7 (.run 1) ++
      .call 0 (.unregisterReceiver 7) :: [.run 0, .run 0] ++ List.replicate 6 (.run 1) ++ [.run 0, .run 0]
    ∃ s s', (machine Nat Nat).exec (machine Nat Nat).init es = some s ∧
      (machine Nat Nat).step s (.run 0) = some s' ∧
      (∃ inside : Finset Nat, (∀ t, t ∈ inside ↔ (s.pc t).counted = true) ∧ s.activeBroadcasts = inside.card) ∧
      ∀ u, ¬ (s'.pc u).delivers 7 := by
  intro es
  refine ⟨_, _, rfl, rfl, (lock_protocol Nat Nat es _ rfl).1, ?_⟩
  exact (lock_protocol Nat Nat es _ rfl).2.2 0 7 _ rfl rfl [] _ rfl trivial

end V2xHub.MessageRouterBasic
