import V2xHub.ODEForwardPlugin.Basic
import Mathlib.Data.Nat.ModEq

/-!
# Which messages are forwarded

One counter goes round for both kinds of messages. A kind of them is sampled evenly where the counter has gone on by one,
modulo the frequency, from each of its messages to the next (`Steady`). The number of messages queued of a kind follows the
multiples of the frequency that the counter passes (`queued_along`).
-/

namespace V2xHub.ODEForwardPlugin

variable {s t u : State} {e : Event} {mid : List Event} {k : Kind} {f : UInt16} {time payload : Text} {g : Garbage}

/-! ### What is asked -/

/-- The step divides by no zero, writes inside its buffer and uses a producer that is there; nothing is queued while
forwarding is disabled. -/
def Safe (s : State) (e : Event) : Prop :=
  ∀ t, step s e = some t → t.faults = s.faults ∧ (¬ s.Enabled → t.queued = s.queued)

/-- The envelope fits, the frequency is not zero, and a message that is due finds a producer, and forwarding enabled. -/
def Sound (s : State) : Event → Prop
  | .update _ => True
  | .message k time payload =>
    (envelope k time payload).length < bufferSize ∧ s._scheduleFrequency ≠ 0 ∧
      (s.due = true → s.kafka_producer ≠ none ∧ s.Enabled)

instance (s : State) : ∀ e, Decidable (Sound s e)
  | .update _ => inferInstanceAs (Decidable True)
  | .message _ _ _ => inferInstanceAs (Decidable (_ ∧ _ ∧ (_ → _)))

/-- The counter is one further than at the last message of the kind, modulo the frequency. -/
def Steady (s : State) : Event → Prop
  | .update _ => True
  | .message k _ _ =>
    ∀ c, s.last k = some c → s._freqCounter.toNat % s._scheduleFrequency.toNat = (c.toNat + 1) % s._scheduleFrequency.toNat

instance (s : State) : ∀ e, Decidable (Steady s e)
  | .update _ => inferInstanceAs (Decidable True)
  | .message k _ _ => Option.decidableForallMem (s.last k)

/-- Forwarding is enabled with the frequency `f`. -/
def At (f : UInt16) (s : State) (_ : Event) : Prop := s.Enabled ∧ s._scheduleFrequency = f

instance (f : UInt16) (s : State) (e : Event) : Decidable (At f s e) := inferInstanceAs (Decidable (_ ∧ _))

def isMessage (k : Kind) : Event → Bool
  | .update _ => false
  | .message k' _ _ => k' = k

def State.queuedOf (s : State) (k : Kind) : List Queued := s.queued.filter fun q => q.kind = k

/-- While forwarding is enabled with a frequency that is not zero, in every part of the run with as many messages of one
kind as the frequency says, exactly one of them is queued, for the topic of its kind and in its envelope. -/
def Sampled (g : Garbage) (es : List Event) : Prop :=
  ∀ before mid after s k f, es = before ++ mid ++ after → (plugin g).exec (plugin g).init before = some s → f ≠ 0 →
    (plugin g).Meets (At f) s mid → mid.countP (isMessage k) = f.toNat → ∀ t, (plugin g).exec s mid = some t →
    ∃ first time payload rest u, mid = first ++ .message k time payload :: rest ∧ (plugin g).exec s first = some u ∧
      t.queuedOf k = s.queuedOf k ++ [⟨k, u.topic k, envelope k time payload⟩]

/-! ### Single steps -/

theorem step_update {config : Config} (h : step s (.update config) = some t) : t = UpdateConfigSettings s config := by
  rw [step] at h
  split_ifs at h
  exact (Option.some.inj h).symm

theorem step_message (h : step s (.message k time payload) = some t) : t = HandlePublish s k time payload := by
  rw [step] at h
  split_ifs at h
  exact (Option.some.inj h).symm

theorem safe_iff_sound (h : step s e = some t) : Safe s e ↔ Sound s e := by
  rw [Safe, h]
  simp only [Option.some.injEq, forall_eq']
  cases e with
  | update config =>
    rw [step_update h]
    exact iff_of_true ⟨rfl, fun _ => rfl⟩ trivial
  | message k time payload =>
    rw [step_message h, Sound, HandlePublish]
    split_ifs with hbuffer hzero hdue
    · refine iff_of_false (fun h => ?_) fun h => ?_
      · exact absurd h.1 (by simp)
      · have := h.1
        omega
    · exact iff_of_false (fun h => absurd h.1 (by simp)) fun h => h.2.1 hzero
    · have hlen : (envelope k time payload).length < bufferSize := by omega
      rw [and_iff_right hlen, and_iff_right hzero, State.QueueKafkaMessage]
      simp only [hdue, forall_true_left]
      have hproducer : (s.count k).kafka_producer = s.kafka_producer := rfl
      rw [hproducer]
      cases s.kafka_producer with
      | none => exact iff_of_false (fun h => absurd h.1 (by simp [State.count])) fun h => h.1 rfl
      | some ip =>
        simp [State.count]
    · have hlen : (envelope k time payload).length < bufferSize := by omega
      exact iff_of_true ⟨rfl, fun _ => rfl⟩ ⟨hlen, hzero, fun h => absurd h hdue⟩

theorem publish_of_sound (h : Sound s (.message k time payload)) :
    HandlePublish s k time payload =
      if s.due then { s.count k with queued := s.queued ++ [⟨k, s.topic k, envelope k time payload⟩] } else s.count k := by
  obtain ⟨hlen, hzero, hdue⟩ := h
  rw [HandlePublish, if_neg (by omega), if_neg hzero]
  split_ifs with hnow
  · rw [State.QueueKafkaMessage]
    split
    · next hnone => exact absurd hnone (hdue hnow).1
    · cases k <;> rfl
  · rfl

/-- What a step queues of a kind is a message of the kind, in its envelope. -/
theorem queuedOf_step (h : step s e = some t) :
    ∃ out, t.queuedOf k = s.queuedOf k ++ out ∧
      ∀ q ∈ out, ∃ time payload, e = .message k time payload ∧ q = ⟨k, s.topic k, envelope k time payload⟩ := by
  cases e with
  | update config =>
    refine ⟨[], ?_, fun q hq => absurd hq List.not_mem_nil⟩
    rw [step_update h, List.append_nil]
    rfl
  | message k' time payload =>
    have hsame : t.queued = s.queued ∨ t.queued = s.queued ++ [⟨k', s.topic k', envelope k' time payload⟩] := by
      rw [step_message h, HandlePublish]
      split_ifs
      · exact .inl rfl
      · exact .inl rfl
      · rw [State.QueueKafkaMessage]
        split
        · exact .inl rfl
        · exact .inr (by cases k' <;> rfl)
      · exact .inl rfl
    rw [State.queuedOf, State.queuedOf]
    rcases hsame with hsame | hsame
    · exact ⟨[], by rw [hsame, List.append_nil], fun q hq => absurd hq List.not_mem_nil⟩
    · rw [hsame, List.filter_append]
      refine ⟨_, rfl, fun q hq => ?_⟩
      obtain ⟨hmem, hkind⟩ := List.mem_filter.mp hq
      rw [List.mem_singleton] at hmem
      subst hmem
      obtain rfl := of_decide_eq_true hkind
      exact ⟨time, payload, rfl, rfl⟩

theorem length_queuedOf (hsound : Sound s (.message k time payload)) (h : step s (.message k time payload) = some t) :
    (t.queuedOf k).length = (s.queuedOf k).length + if s.due then 1 else 0 := by
  rw [step_message h, publish_of_sound hsound, State.queuedOf, State.queuedOf]
  split_ifs
  · simp
  · rfl

theorem length_queuedOf_of_not (he : isMessage k e = false) (h : step s e = some t) :
    (t.queuedOf k).length = (s.queuedOf k).length := by
  obtain ⟨out, hout, hfrom⟩ := queuedOf_step (k := k) h
  have hnil : out = [] := List.eq_nil_iff_forall_not_mem.mpr fun q hq => by
    obtain ⟨time, payload, rfl, -⟩ := hfrom q hq
    exact absurd he (by simp [isMessage])
  rw [hout, hnil, List.append_nil]

/-- The counter at the last message of a kind stays noted while the settings do. -/
theorem last_of_not (he : isMessage k e = false) (h : step s e = some t) (hsound : Sound s e)
    (hs : s.Enabled ∧ s._scheduleFrequency = f) (ht : t.Enabled ∧ t._scheduleFrequency = f) : t.last k = s.last k := by
  cases e with
  | update config =>
    have hfrequency : t._scheduleFrequency = s._scheduleFrequency := ht.2.trans hs.2.symm
    have hforward : t._forwardMSG = s._forwardMSG := ht.1.trans hs.1.symm
    rw [step_update h] at hfrequency hforward ⊢
    exact congrFun (if_pos ⟨hfrequency, hforward⟩) k
  | message k' time payload =>
    have hne : k ≠ k' := fun hk => absurd he (by simp [isMessage, hk])
    rw [step_message h, publish_of_sound hsound]
    split_ifs <;> exact Function.update_of_ne hne _ _

theorem last_message (h : step s (.message k time payload) = some t) (hsound : Sound s (.message k time payload)) :
    t.last k = some s._freqCounter := by
  rw [step_message h, publish_of_sound hsound]
  split_ifs <;> exact Function.update_self k _ _

theorem toNat_pos (hf : f ≠ 0) : 0 < f.toNat := Nat.pos_of_ne_zero fun h0 => hf (UInt16.toNat_inj.mp h0)

/-! ### Runs -/

/-- The multiples of `f` in front of `n`, zero among them. -/
def passed (f n : Nat) : Nat := (n + f - 1) / f

theorem passed_succ {f : Nat} (hf : 0 < f) (n : Nat) : passed f (n + 1) = passed f n + if n % f = 0 then 1 else 0 := by
  have hstep : n + 1 + f - 1 = n + f - 1 + 1 := by omega
  have hdvd : f ∣ n + f - 1 + 1 ↔ n % f = 0 := by
    rw [Nat.sub_add_cancel (by omega), ← Nat.dvd_add_iff_left (Nat.dvd_refl f), Nat.dvd_iff_mod_eq_zero]
  rw [passed, passed, hstep, Nat.succ_div]
  exact congrArg _ (if_congr hdvd rfl rfl)

theorem passed_add {f : Nat} (hf : 0 < f) (n : Nat) : passed f (n + f) = passed f n + 1 := by
  have hstep : n + f + f - 1 = n + f - 1 + f := by omega
  rw [passed, passed, hstep, Nat.add_div_right _ hf]

/-- A message of the kind whose number is `r`, modulo the frequency, and those behind it. -/
theorem queued_message {n r : Nat} (hf : f ≠ 0) (hsound : Sound s (.message k time payload))
    (h : step s (.message k time payload) = some u) (hfrequency : s._scheduleFrequency = f)
    (hr : s._freqCounter.toNat % f.toNat = r % f.toNat)
    (hrest : (t.queuedOf k).length + passed f.toNat (r + 1) = (u.queuedOf k).length + passed f.toNat (r + 1 + n)) :
    (t.queuedOf k).length + passed f.toNat r = (s.queuedOf k).length + passed f.toNat (r + (n + 1)) := by
  have hdue : s.due = true ↔ r % f.toNat = 0 := by rw [State.due, decide_eq_true_eq, hfrequency, hr]
  have hlen := length_queuedOf hsound h
  rw [if_congr hdue rfl rfl] at hlen
  rw [passed_succ (toNat_pos hf), hlen] at hrest
  have hnext : r + (n + 1) = r + 1 + n := by omega
  rw [hnext]
  omega

/-- Along a part of the run under one frequency the messages of a kind are counted without a gap, from `r` on. -/
theorem queued_along (hf : f ≠ 0) {r : Nat} (hsound : (plugin g).Meets Sound s mid) (hsteady : (plugin g).Meets Steady s mid)
    (hat : (plugin g).Meets (At f) s mid)
    (hlast : mid ≠ [] → ∃ c, s.last k = some c ∧ r % f.toNat = (c.toNat + 1) % f.toNat)
    (h : (plugin g).exec s mid = some t) :
    (t.queuedOf k).length + passed f.toNat r =
      (s.queuedOf k).length + passed f.toNat (r + mid.countP (isMessage k)) := by
  induction mid generalizing s r with
  | nil =>
    obtain rfl := Option.some.inj h
    rfl
  | cons e mid ih =>
    obtain ⟨u, hu, hrest⟩ := Machine.exec_cons.1 h
    obtain ⟨c, hc, hr⟩ := hlast (List.cons_ne_nil e mid)
    cases he : isMessage k e with
    | false =>
      rw [List.countP_cons_of_neg (by simp [he]), ← length_queuedOf_of_not he hu]
      refine ih (hsound.2 u hu) (hsteady.2 u hu) (hat.2 u hu) (fun hmid => ⟨c, ?_, hr⟩) hrest
      -- there is a step behind this one, which finds the settings
      obtain ⟨e', mid, rfl⟩ := List.exists_cons_of_ne_nil hmid
      rw [last_of_not he hu hsound.1 hat.1 (hat.2 u hu).1]
      exact hc
    | true =>
      cases e with
      | update config => cases he
      | message k' time payload =>
        obtain rfl := of_decide_eq_true he
        have hnow := hsteady.1 c hc
        rw [hat.1.2, ← hr] at hnow
        rw [List.countP_cons_of_pos he]
        refine queued_message hf hsound.1 hu hat.1.2 hnow (ih (hsound.2 u hu) (hsteady.2 u hu) (hat.2 u hu) (fun _ => ?_) hrest)
        exact ⟨s._freqCounter, last_message hu hsound.1, Nat.ModEq.add_right 1 hnow.symm⟩

/-- Wherever the first message of the kind stands. -/
theorem queued_window (hf : f ≠ 0) (hsound : (plugin g).Meets Sound s mid) (hsteady : (plugin g).Meets Steady s mid)
    (hat : (plugin g).Meets (At f) s mid) (h : (plugin g).exec s mid = some t) :
    ∃ r, (t.queuedOf k).length + passed f.toNat r =
      (s.queuedOf k).length + passed f.toNat (r + mid.countP (isMessage k)) := by
  induction mid generalizing s with
  | nil =>
    obtain rfl := Option.some.inj h
    exact ⟨0, rfl⟩
  | cons e mid ih =>
    obtain ⟨u, hu, hrest⟩ := Machine.exec_cons.1 h
    cases he : isMessage k e with
    | false =>
      rw [List.countP_cons_of_neg (by simp [he]), ← length_queuedOf_of_not he hu]
      exact ih (hsound.2 u hu) (hsteady.2 u hu) (hat.2 u hu) hrest
    | true =>
      cases e with
      | update config => cases he
      | message k' time payload =>
        obtain rfl := of_decide_eq_true he
        refine ⟨s._freqCounter.toNat, ?_⟩
        rw [List.countP_cons_of_pos he]
        refine queued_message hf hsound.1 hu hat.1.2 rfl ?_
        exact queued_along hf (hsound.2 u hu) (hsteady.2 u hu) (hat.2 u hu)
          (fun _ => ⟨s._freqCounter, last_message hu hsound.1, rfl⟩) hrest

theorem queuedOf_run (h : (plugin g).exec s mid = some t) :
    ∃ out, t.queuedOf k = s.queuedOf k ++ out ∧ ∀ q ∈ out, ∃ first time payload rest u,
      mid = first ++ .message k time payload :: rest ∧ (plugin g).exec s first = some u ∧
        q = ⟨k, u.topic k, envelope k time payload⟩ := by
  induction mid generalizing s with
  | nil =>
    obtain rfl := Option.some.inj h
    exact ⟨[], (List.append_nil _).symm, fun q hq => absurd hq List.not_mem_nil⟩
  | cons e mid ih =>
    obtain ⟨u, hu, hrest⟩ := Machine.exec_cons.1 h
    obtain ⟨out, hout, hfrom⟩ := queuedOf_step (k := k) hu
    obtain ⟨out', hout', hfrom'⟩ := ih hrest
    refine ⟨out ++ out', by rw [hout', hout, List.append_assoc], fun q hq => ?_⟩
    rcases List.mem_append.mp hq with hq | hq
    · obtain ⟨time, payload, rfl, hq⟩ := hfrom q hq
      exact ⟨[], time, payload, mid, s, rfl, rfl, hq⟩
    · obtain ⟨first, time, payload, rest, v, rfl, hv, hq⟩ := hfrom' q hq
      exact ⟨e :: first, time, payload, rest, v, rfl, Machine.exec_cons.2 ⟨u, hu, hv⟩, hq⟩

/-- All steps of a run are safe if and only if each is sound. Where they are steady besides, both kinds are sampled
evenly. -/
theorem safe_and_sampled (g : Garbage) (es : List Event) :
    (∀ t, (plugin g).exec (plugin g).init es = some t →
      ((plugin g).Meets Safe (plugin g).init es ↔ (plugin g).Meets Sound (plugin g).init es)) ∧
    ((plugin g).Meets Sound (plugin g).init es → (plugin g).Meets Steady (plugin g).init es → Sampled g es) := by
  constructor
  · intro t h
    exact Machine.meets_iff (I := fun _ => True) trivial (fun _ _ _ _ _ _ => trivial)
      (fun s e t _ ht => safe_iff_sound ht) h
  · rintro hsound hsteady before mid after s k f rfl hs hf hat hcount t ht
    have hsound' := (Machine.Meets.append hsound.prefix hs)
    have hsteady' := (Machine.Meets.append hsteady.prefix hs)
    obtain ⟨r, hr⟩ := queued_window (k := k) hf hsound' hsteady' hat ht
    obtain ⟨out, hout, hfrom⟩ := queuedOf_run (k := k) ht
    rw [hcount, passed_add (toNat_pos hf), hout, List.length_append] at hr
    obtain ⟨q, rfl⟩ := List.length_eq_one_iff.mp (show out.length = 1 by omega)
    obtain ⟨first, time, payload, rest, u, hmid, hu, hq⟩ := hfrom q List.mem_cons_self
    exact ⟨first, time, payload, rest, u, hmid, hu, by rw [hout, hq]⟩

/-- Every second message is asked for. -/
def everySecond : Event := .update ⟨some 2, some 1, none, none, none, none, true⟩

def never : Event := .update ⟨some 0, some 1, none, none, none, none, true⟩

def zeros : Garbage := ⟨0, 0, 0⟩

def message (k : Kind) : Event := .message k ⟨[], List.not_mem_nil⟩ ⟨[65], by decide⟩

/-- The messages of each kind have an even number of the other kind between them. -/
def pairs : List Event :=
  [everySecond, message .bsm, message .spat, message .spat, message .bsm, message .bsm, message .spat]

theorem safe_and_sampled_pairs : (plugin zeros).Meets Safe (plugin zeros).init pairs ∧ Sampled zeros pairs :=
  ⟨((safe_and_sampled zeros pairs).1 _ rfl).2 (by decide), (safe_and_sampled zeros pairs).2 (by decide) (by decide)⟩

/-- Of messages that take turns only those of one kind are queued; a frequency of zero is divided by. -/
theorem starved :
    ¬ Sampled zeros [everySecond, message .bsm, message .spat, message .bsm] ∧
      ¬ (plugin zeros).Meets Safe (plugin zeros).init [never, message .bsm] := by
  constructor
  · intro h
    obtain ⟨s, hs, hat, hnone⟩ : ∃ s, (plugin zeros).exec (plugin zeros).init [everySecond] = some s ∧
        (plugin zeros).Meets (At 2) s [message .bsm, message .spat, message .bsm] ∧
        ((plugin zeros).exec s [message .bsm, message .spat, message .bsm]).map (fun t => (t.queuedOf .bsm, s.queuedOf .bsm)) =
          some ([], []) :=
      ⟨_, rfl, by decide, by decide⟩
    obtain ⟨t, ht, hqueued⟩ := Option.map_eq_some_iff.mp hnone
    obtain ⟨first, time, payload, rest, u, -, -, hone⟩ :=
      h [everySecond] [message .bsm, message .spat, message .bsm] [] s .bsm 2 rfl hs (by decide) hat (by decide) t ht
    rw [Prod.mk.injEq] at hqueued
    rw [hqueued.1] at hone
    exact absurd hone.symm (List.append_ne_nil_of_right_ne_nil _ (List.cons_ne_nil _ _))
  · intro h
    obtain ⟨s, hs, hzero⟩ : ∃ s, (plugin zeros).exec (plugin zeros).init [never] = some s ∧
        (step s (message .bsm)).map (fun t => (t.faults, s.faults)) = some ([.division], []) :=
      ⟨_, rfl, by decide⟩
    obtain ⟨t, ht, hfaults⟩ := Option.map_eq_some_iff.mp hzero
    obtain ⟨u, hu, hend⟩ := Machine.exec_cons.1 hs
    obtain rfl := Option.some.inj hend
    have hsafe := ((h.2 u hu).1 t ht).1
    rw [Prod.mk.injEq] at hfaults
    rw [hfaults.1, hfaults.2] at hsafe
    exact List.cons_ne_nil _ _ hsafe

end V2xHub.ODEForwardPlugin
