import V2xHub.PreemptionPlugin.Worker
import Mathlib.Data.Rat.Defs

/-!
# Preemption plans and the vehicles that need them

A plan should be on while the latest message of some vehicle places it in a geofence of that plan, and off
otherwise (`State.Follows`). `preemption_map` keeps one plan for each vehicle and nothing for a plan, so this
holds as long as no message needs two plans, no vehicle goes over from one plan to another, and none lets go of
a plan that another one needs (`preemption_follows`).
-/

namespace V2xHub.PreemptionPlugin
variable {A : Arith} {c : Config A}

/-- The message places its vehicle in a geofence of the plan, with its heading between the limits. -/
def Needs (c : Config A) (bsm : Bsm) (plan : Int) : Prop :=
  ∃ it ∈ c.geofenceSet, it.preemptCall = plan ∧ it.inGeo (bsm.coordinate A) = some true ∧
    it.heads (bsm.coordinate A) = true

def oid (c : Config A) (plan : Int) : Str := c.basePreemptionOid ++ Printf.lld plan

/-- What the loop starts from and what `PreemptionPlaner` is called with. -/
def located (c : Config A) (bsm : Bsm) : Option PreemptionObject :=
  locate (bsm.coordinate A) { vehicleId := bsm.vehicleId } c.geofenceSet

theorem oid_injective {p q : Int} (h : oid c p = oid c q) : p = q :=
  Printf.lld_injective (List.append_cancel_left h)

/-- The first geofence of a message, or that there is none. -/
theorem locate_cases {coordinate : VehicleCoordinate A} {l : List (GeofenceObject A)} {po po' : PreemptionObject}
    (h : locate coordinate po l = some po') : po'.vehicleId = po.vehicleId ∧
      ((po'.approach = ingress ∧ ∃ it ∈ l, po'.preemptionPlan = Printf.lld it.preemptCall ∧
          it.inGeo coordinate = some true ∧ it.heads coordinate = true) ∨
        ((po'.approach = egress ∨ l = [] ∧ po' = po) ∧
          ∀ it ∈ l, ¬ (it.inGeo coordinate = some true ∧ it.heads coordinate = true))) := by
  induction l generalizing po with
  | nil =>
    obtain rfl := Option.some.inj h
    exact ⟨rfl, Or.inr ⟨Or.inr ⟨rfl, rfl⟩, fun it hit => absurd hit List.not_mem_nil⟩⟩
  | cons it l ih =>
    rw [locate] at h
    obtain ⟨inGeo, hgeo, h⟩ := Option.bind_eq_some_iff.1 h
    by_cases hin : inGeo = true ∧ it.heads coordinate = true
    · rw [if_pos hin.1, if_pos hin.2] at h
      obtain rfl := Option.some.inj h
      exact ⟨rfl, Or.inl ⟨rfl, it, List.mem_cons_self .., rfl, by rw [hgeo, hin.1], hin.2⟩⟩
    · have hrest : locate coordinate { po with approach := egress } l = some po' := by
        split_ifs at h with h1 h2
        · exact absurd ⟨h1, h2⟩ hin
        · exact h
        · exact h
      have hnot : ¬ (it.inGeo coordinate = some true ∧ it.heads coordinate = true) := by
        rintro ⟨h1, h2⟩
        exact hin ⟨Option.some.inj (hgeo.symm.trans h1), h2⟩
      obtain ⟨hid, ⟨happroach, g, hg, hplan⟩ | ⟨happroach, hnone⟩⟩ := ih hrest
      · exact ⟨hid, Or.inl ⟨happroach, g, List.mem_cons_of_mem _ hg, hplan⟩⟩
      · refine ⟨hid, Or.inr ⟨Or.inl ?_, List.forall_mem_cons.2 ⟨hnot, hnone⟩⟩⟩
        rcases happroach with happroach | ⟨-, rfl⟩
        · exact happroach
        · rfl

theorem located_cases {bsm : Bsm} {po : PreemptionObject} (h : located c bsm = some po) :
    po.vehicleId = bsm.vehicleId ∧
      ((po.approach = ingress ∧ ∃ plan, Needs c bsm plan ∧ po.preemptionPlan = Printf.lld plan) ∨
        ((po.approach = egress ∨ c.geofenceSet = [] ∧ po.approach = []) ∧ ∀ plan, ¬ Needs c bsm plan)) := by
  obtain ⟨hid, ⟨happroach, it, hit, hplan, hin⟩ | ⟨happroach, hnone⟩⟩ := locate_cases h
  · exact ⟨hid, Or.inl ⟨happroach, it.preemptCall, ⟨it, hit, rfl, hin⟩, hplan⟩⟩
  · refine ⟨hid, Or.inr ⟨happroach.imp_right fun ⟨hset, hpo⟩ => ⟨hset, by rw [hpo]⟩, ?_⟩⟩
    rintro plan ⟨it, hit, -, hin⟩
    exact hnone it hit hin

namespace State

/-- What the OID was last set to. -/
def lastSet (s : State) (preemptionOid : Str) : Option Str :=
  (s.sent.find? fun e => e.1 = preemptionOid).map Prod.snd

/-- The latest message of a vehicle. -/
def latest (s : State) (v : Int) : Option Bsm := s.received.find? fun bsm => bsm.vehicleId = v

def Needed (c : Config A) (s : State) (plan : Int) : Prop := ∃ v bsm, s.latest v = some bsm ∧ Needs c bsm plan

/-- A plan that is needed is on, any other was never set or is off. -/
def Follows (c : Config A) (s : State) : Prop :=
  ∀ plan, (s.Needed c plan → s.lastSet (oid c plan) = some flagOn) ∧
    (¬ s.Needed c plan → s.lastSet (oid c plan) = none ∨ s.lastSet (oid c plan) = some flagOff)

/-- No test of a corner throws, the message needs one plan at most, its vehicle does not go over from one plan
to another, and a plan that it lets go of is not needed by another vehicle. -/
structure Harmless (c : Config A) (s : State) (bsm : Bsm) : Prop where
  locates : (located c bsm).isSome
  onePlan : ∀ p q, Needs c bsm p → Needs c bsm q → p = q
  keepsPlan : ∀ before p q, s.latest bsm.vehicleId = some before → Needs c before p → Needs c bsm q → p = q
  unshared : ∀ before p, s.latest bsm.vehicleId = some before → Needs c before p → (∀ q, ¬ Needs c bsm q) →
    ∀ v other, v ≠ bsm.vehicleId → s.latest v = some other → ¬ Needs c other p

/-- The map has the plan that the latest message of a vehicle needs, where it needs one. -/
structure Inv (c : Config A) (s : State) : Prop where
  follows : s.Follows c
  entry : ∀ v po, s.preemptionMap.find? v = some po →
    ∃ bsm plan, s.latest v = some bsm ∧ Needs c bsm plan ∧ po.preemptionPlan = Printf.lld plan
  has : ∀ v bsm plan, s.latest v = some bsm → Needs c bsm plan → ∃ po, s.preemptionMap.find? v = some po
  one : ∀ v bsm p q, s.latest v = some bsm → Needs c bsm p → Needs c bsm q → p = q

variable {s t : State} {bsm : Bsm} {bsms : List Bsm}

theorem lastSet_cons (preemptionOid value o : Str) (sent : List (Str × Str)) (m : OrdMap Int PreemptionObject)
    (received : List Bsm) : lastSet ⟨m, (preemptionOid, value) :: sent, received⟩ o =
      if preemptionOid = o then some value else lastSet ⟨m, sent, received⟩ o := by
  rw [lastSet, List.find?_cons]
  split_ifs with h
  · simp [h]
  · simp [h, lastSet]

theorem latest_cons (sent : List (Str × Str)) (m : OrdMap Int PreemptionObject) (received : List Bsm) (v : Int) :
    latest ⟨m, sent, bsm :: received⟩ v =
      if bsm.vehicleId = v then some bsm else latest ⟨m, sent, received⟩ v := by
  rw [latest, List.find?_cons]
  split_ifs with h
  · simp [h]
  · simp [h, latest]

/-- Some other vehicle needs the plan. -/
def Elsewhere (c : Config A) (s : State) (id plan : Int) : Prop :=
  ∃ v bsm, v ≠ id ∧ s.latest v = some bsm ∧ Needs c bsm plan

/-- What a message does to the map and which SNMP set it sends. -/
inductive Outcome (c : Config A) (s : State) (bsm : Bsm) (t : State) : Prop where
  | on (plan : Int) (po : PreemptionObject) (hneeds : Needs c bsm plan) (hplan : po.preemptionPlan = Printf.lld plan)
    (hfind : s.preemptionMap.find? bsm.vehicleId = none)
    (ht : t = ⟨s.preemptionMap.insert bsm.vehicleId po, (oid c plan, flagOn) :: s.sent, bsm :: s.received⟩)
  | already (plan : Int) (po : PreemptionObject) (hneeds : Needs c bsm plan)
    (hfind : s.preemptionMap.find? bsm.vehicleId = some po)
    (ht : t = ⟨s.preemptionMap, s.sent, bsm :: s.received⟩)
  | absent (hneeds : ∀ plan, ¬ Needs c bsm plan)
    (hfind : s.preemptionMap.find? bsm.vehicleId = none ∨ c.geofenceSet = [])
    (ht : t = ⟨s.preemptionMap, s.sent, bsm :: s.received⟩)
  | off (po : PreemptionObject) (hneeds : ∀ plan, ¬ Needs c bsm plan)
    (hfind : s.preemptionMap.find? bsm.vehicleId = some po)
    (ht : t = ⟨s.preemptionMap.erase bsm.vehicleId, (c.basePreemptionOid ++ po.preemptionPlan, flagOff) :: s.sent,
      bsm :: s.received⟩)

theorem egress_ne_ingress : egress ≠ ingress := by decide

theorem outcome (hlocated : (located c bsm).isSome) : Outcome c s bsm (s.VehicleLocatorWorker c bsm) := by
  obtain ⟨po, hpo⟩ := Option.isSome_iff_exists.1 hlocated
  obtain ⟨hid, hcases⟩ := located_cases hpo
  have hstep : s.VehicleLocatorWorker c bsm = PreemptionPlaner c { s with received := bsm :: s.received } po := by
    rw [located] at hpo
    rw [VehicleLocatorWorker, hpo]
  rw [hstep, PreemptionPlaner, hid]
  rcases hcases with ⟨happroach, plan, hneeds, hplan⟩ | ⟨happroach, hneeds⟩
  · rw [if_pos happroach]
    cases hfind : s.preemptionMap.find? bsm.vehicleId with
    | none =>
      refine .on plan po hneeds hplan hfind ?_
      rw [TurnOnPreemption, SendOid, hid, hplan, oid]
    | some po' => exact .already plan po' hneeds hfind rfl
  · rcases happroach with happroach | ⟨hset, happroach⟩
    · rw [if_neg (by rw [happroach]; exact egress_ne_ingress), if_pos happroach]
      cases hfind : s.preemptionMap.find? bsm.vehicleId with
      | none => exact .absent hneeds (Or.inl hfind) rfl
      | some po' =>
        refine .off po' hneeds hfind ?_
        rw [TurnOffPreemption, SendOid, hid]
        simp only [hfind, Option.getD_some]
    · rw [if_neg (by rw [happroach]; decide), if_neg (by rw [happroach]; decide)]
      exact .absent hneeds (Or.inr hset) rfl

theorem received_PreemptionPlaner (po : PreemptionObject) : (s.PreemptionPlaner c po).received = s.received := by
  unfold PreemptionPlaner
  split_ifs
  · split <;> rfl
  · split <;> rfl
  · rfl

theorem received_VehicleLocatorWorker : (s.VehicleLocatorWorker c bsm).received = bsm :: s.received := by
  unfold VehicleLocatorWorker
  dsimp only
  split
  · rfl
  · exact received_PreemptionPlaner _

theorem needed_iff (id plan : Int) :
    s.Needed c plan ↔ (∃ bsm, s.latest id = some bsm ∧ Needs c bsm plan) ∨ s.Elsewhere c id plan := by
  constructor
  · rintro ⟨v, other, hlatest, hneeds⟩
    by_cases hv : v = id
    · exact Or.inl ⟨other, hv ▸ hlatest, hneeds⟩
    · exact Or.inr ⟨v, other, hv, hlatest, hneeds⟩
  · rintro (⟨other, hlatest, hneeds⟩ | ⟨v, other, -, hlatest, hneeds⟩)
    · exact ⟨id, other, hlatest, hneeds⟩
    · exact ⟨v, other, hlatest, hneeds⟩

theorem latest_self (sent : List (Str × Str)) (m : OrdMap Int PreemptionObject) (received : List Bsm) :
    latest ⟨m, sent, bsm :: received⟩ bsm.vehicleId = some bsm := by
  rw [latest_cons, if_pos rfl]

theorem latest_ne (sent : List (Str × Str)) (m : OrdMap Int PreemptionObject) {v : Int} (hv : v ≠ bsm.vehicleId) :
    latest ⟨m, sent, bsm :: s.received⟩ v = s.latest v := by
  rw [latest_cons, if_neg (Ne.symm hv)]
  rfl

theorem needed_cons (sent : List (Str × Str)) (m : OrdMap Int PreemptionObject) (plan : Int) :
    Needed c ⟨m, sent, bsm :: s.received⟩ plan ↔ Needs c bsm plan ∨ s.Elsewhere c bsm.vehicleId plan := by
  rw [needed_iff bsm.vehicleId, latest_self]
  refine or_congr ?_ ?_
  · constructor
    · rintro ⟨b, hb, hneeds⟩
      obtain rfl := Option.some.inj hb
      exact hneeds
    · intro hneeds
      exact ⟨bsm, rfl, hneeds⟩
  · constructor
    · rintro ⟨v, other, hv, hlatest, hneeds⟩
      exact ⟨v, other, hv, latest_ne sent m hv ▸ hlatest, hneeds⟩
    · rintro ⟨v, other, hv, hlatest, hneeds⟩
      exact ⟨v, other, hv, (latest_ne sent m hv).trans hlatest, hneeds⟩

/-- A plan that the vehicle of a message neither needed nor needs is needed as before. -/
theorem needed_cons_of_same (sent : List (Str × Str)) (m : OrdMap Int PreemptionObject) {plan : Int}
    (h : Needs c bsm plan ↔ ∃ before, s.latest bsm.vehicleId = some before ∧ Needs c before plan) :
    Needed c ⟨m, sent, bsm :: s.received⟩ plan ↔ s.Needed c plan := by
  rw [needed_cons, needed_iff bsm.vehicleId, h]

theorem Inv.no_entry (hi : s.Inv c) {v : Int} (hfind : s.preemptionMap.find? v = none) (plan : Int) :
    ¬ ∃ bsm, s.latest v = some bsm ∧ Needs c bsm plan := by
  rintro ⟨b, hlatest, hneeds⟩
  obtain ⟨po, hpo⟩ := hi.has v b plan hlatest hneeds
  rw [hfind] at hpo
  nomatch hpo

theorem not_needs_of_nil (hset : c.geofenceSet = []) (plan : Int) : ¬ Needs c bsm plan := by
  rintro ⟨it, hit, -⟩
  rw [hset] at hit
  exact List.not_mem_nil hit

theorem Follows.of_same (h : s.Follows c) {plan : Int} (hlast : t.lastSet (oid c plan) = s.lastSet (oid c plan))
    (hneeded : t.Needed c plan ↔ s.Needed c plan) :
    (t.Needed c plan → t.lastSet (oid c plan) = some flagOn) ∧
      (¬ t.Needed c plan → t.lastSet (oid c plan) = none ∨ t.lastSet (oid c plan) = some flagOff) := by
  rw [hlast, hneeded]
  exact h plan

theorem follows_step (hi : s.Inv c) (hg : s.Harmless c bsm) (ht : Outcome c s bsm t) : t.Follows c := by
  intro q
  cases ht with
  | on plan po hneeds hplan hfind ht =>
    subst ht
    by_cases hq : q = plan
    · subst hq
      refine ⟨fun _ => by rw [lastSet_cons, if_pos rfl], fun h => absurd ?_ h⟩
      exact (needed_cons _ _ _).2 (Or.inl hneeds)
    · refine hi.follows.of_same ?_ (needed_cons_of_same _ _ ?_)
      · rw [lastSet_cons, if_neg fun h => hq (oid_injective h).symm]
        rfl
      · exact iff_of_false (fun h => hq (hg.onePlan q plan h hneeds)) (hi.no_entry hfind q)
  | already plan po hneeds hfind ht =>
    subst ht
    obtain ⟨before, p, hlatest, hp, -⟩ := hi.entry _ po hfind
    obtain rfl := hg.keepsPlan before p plan hlatest hp hneeds
    refine hi.follows.of_same rfl (needed_cons_of_same _ _ ⟨fun h => ?_, ?_⟩)
    · obtain rfl := hg.onePlan p q hneeds h
      exact ⟨before, hlatest, hp⟩
    · rintro ⟨b, hb, hq⟩
      obtain rfl := hg.keepsPlan b q p hb hq hneeds
      exact hneeds
  | absent hneeds hfind ht =>
    subst ht
    refine hi.follows.of_same rfl (needed_cons_of_same _ _ (iff_of_false (hneeds q) ?_))
    rcases hfind with hfind | hset
    · exact hi.no_entry hfind q
    · rintro ⟨b, -, hb⟩
      exact not_needs_of_nil hset q hb
  | off po hneeds hfind ht =>
    subst ht
    obtain ⟨before, p, hlatest, hp, hpo⟩ := hi.entry _ po hfind
    have hoid : c.basePreemptionOid ++ po.preemptionPlan = oid c p := by rw [hpo, oid]
    by_cases hq : q = p
    · subst hq
      refine ⟨fun h => ?_, fun _ => Or.inr (by rw [lastSet_cons, hoid, if_pos rfl])⟩
      rcases (needed_cons _ _ _).1 h with h | ⟨v, other, hv, hother, h⟩
      · exact absurd h (hneeds q)
      · exact absurd h (hg.unshared before q hlatest hp hneeds v other hv hother)
    · refine hi.follows.of_same ?_ (needed_cons_of_same _ _ (iff_of_false (hneeds q) ?_))
      · rw [lastSet_cons, hoid, if_neg fun h => hq (oid_injective h).symm]
        rfl
      · rintro ⟨b, hb, h⟩
        obtain rfl := Option.some.inj (hlatest.symm.trans hb)
        exact hq (hi.one _ before q p hlatest h hp)

/-- The other vehicles keep their entries. -/
theorem Outcome.find?_ne (ht : Outcome c s bsm t) {v : Int} (hv : v ≠ bsm.vehicleId) :
    t.preemptionMap.find? v = s.preemptionMap.find? v := by
  cases ht with
  | on _ _ _ _ _ ht => rw [ht, OrdMap.find?_insert_ne hv]
  | already _ _ _ _ ht => rw [ht]
  | absent _ _ ht => rw [ht]
  | off _ _ _ ht => rw [ht, OrdMap.find?_erase, if_neg hv]

/-- The entry of the vehicle is for the plan that its message needs. -/
theorem Outcome.find?_self (hi : s.Inv c) (hg : s.Harmless c bsm) (ht : Outcome c s bsm t) :
    (∃ plan po, Needs c bsm plan ∧ po.preemptionPlan = Printf.lld plan ∧
        t.preemptionMap.find? bsm.vehicleId = some po) ∨
      (t.preemptionMap.find? bsm.vehicleId = none ∧ ∀ plan, ¬ Needs c bsm plan) := by
  cases ht with
  | on plan po hneeds hplan hfind ht => exact Or.inl ⟨plan, po, hneeds, hplan, by rw [ht, OrdMap.find?_insert_self]⟩
  | already plan po hneeds hfind ht =>
    obtain ⟨before, p, hlatest, hp, hpo⟩ := hi.entry _ po hfind
    obtain rfl := hg.keepsPlan before p plan hlatest hp hneeds
    exact Or.inl ⟨p, po, hneeds, hpo, by rw [ht, hfind]⟩
  | absent hneeds hfind ht =>
    refine Or.inr ⟨?_, hneeds⟩
    rcases hfind with hfind | hset
    · rw [ht, hfind]
    · cases hpo : s.preemptionMap.find? bsm.vehicleId with
      | none => rw [ht, hpo]
      | some po =>
        obtain ⟨b, p, -, hp, -⟩ := hi.entry _ po hpo
        exact absurd hp (not_needs_of_nil hset p)
  | off po hneeds hfind ht => exact Or.inr ⟨by rw [ht, OrdMap.find?_erase, if_pos rfl], hneeds⟩

theorem inv_step (hi : s.Inv c) (hg : s.Harmless c bsm) : (s.VehicleLocatorWorker c bsm).Inv c := by
  have ht := outcome (s := s) hg.locates
  have hself : (s.VehicleLocatorWorker c bsm).latest bsm.vehicleId = some bsm := by
    rw [latest, received_VehicleLocatorWorker]
    exact latest_self s.sent s.preemptionMap _
  have hother : ∀ {v : Int}, v ≠ bsm.vehicleId → (s.VehicleLocatorWorker c bsm).latest v = s.latest v := by
    intro v hv
    rw [latest, received_VehicleLocatorWorker]
    exact latest_ne s.sent s.preemptionMap hv
  refine ⟨follows_step hi hg ht, fun v po hpo => ?_, fun v b plan hb hneeds => ?_, fun v b p q hb hp hq => ?_⟩
  · by_cases hv : v = bsm.vehicleId
    · subst hv
      rcases ht.find?_self hi hg with ⟨plan, po', hneeds, hplan, hfind⟩ | ⟨hnone, -⟩
      · obtain rfl := Option.some.inj (hfind.symm.trans hpo)
        exact ⟨bsm, plan, hself, hneeds, hplan⟩
      · rw [hnone] at hpo
        nomatch hpo
    · rw [ht.find?_ne hv] at hpo
      rw [hother hv]
      exact hi.entry v po hpo
  · by_cases hv : v = bsm.vehicleId
    · subst hv
      obtain rfl := Option.some.inj (hself.symm.trans hb)
      rcases ht.find?_self hi hg with ⟨p, po', -, -, hfind⟩ | ⟨-, hnone⟩
      · exact ⟨po', hfind⟩
      · exact absurd hneeds (hnone plan)
    · rw [ht.find?_ne hv]
      exact hi.has v b plan (hother hv ▸ hb) hneeds
  · by_cases hv : v = bsm.vehicleId
    · subst hv
      obtain rfl := Option.some.inj (hself.symm.trans hb)
      exact hg.onePlan p q hp hq
    · exact hi.one v b p q (hother hv ▸ hb) hp hq

theorem inv_init : Inv c (machine c).init := by
  refine ⟨fun plan => ⟨?_, fun _ => Or.inl rfl⟩, nofun, nofun, nofun⟩
  rintro ⟨v, b, hb, -⟩
  nomatch hb

end State

/-- In every run whose messages are harmless, after each of them the plans that are on are those that the latest
message of some vehicle needs. -/
theorem preemption_follows (c : Config A) (bsms : List Bsm) (s : State)
    (h : (machine c).exec (machine c).init bsms = some s)
    (hg : (machine c).Meets (State.Harmless c) (machine c).init bsms) : s.Follows c := by
  have hi : s.Inv c := by
    refine Machine.invariant_meets State.inv_init (fun s bsm t hi hg hs => ?_) hg h
    obtain rfl := Option.some.inj hs
    exact State.inv_step hi hg
  exact hi.follows

/-- Exact arithmetic, which both formats have on the small numbers of the messages below. -/
def exact : Arith where
  Double := ℚ
  LongDouble := ℚ
  literal mantissa decimals := mantissa / 10 ^ decimals
  ofInt n := n
  sub a b := a - b
  mul a b := a * b
  div a b := a / b
  extend a := a
  extendInt n := n
  addL a b := a + b
  subL a b := a - b
  mulL a b := a * b
  divL a b := a / b
  lt a b := a < b
  le a b := a ≤ b

/-- A square of two degrees, for vehicles of any heading. -/
def square (lat : Int) (preemptCall : Int) : GeofenceObject exact where
  geox := [(lat : ℚ), (lat : ℚ), ((lat + 2 : Int) : ℚ), ((lat + 2 : Int) : ℚ)]
  geoy := [(0 : ℚ), (2 : ℚ), (2 : ℚ), (0 : ℚ)]
  preemptCall := preemptCall
  minHeading := -1
  maxHeading := 360

def twoSquares : Config exact := ⟨[square 0 2, square 10 3], CString.lit "1.3.6.1.4.1.1206."⟩

/-- A message of vehicle `id`, heading north, at a latitude of `lat` degrees. -/
def northbound (id : UInt8) (lat : Int) : Bsm := ⟨fun _ => id, lat * 10000000, 10000000, 0⟩

theorem needs_northbound (id : UInt8) (plan : Int) : Needs twoSquares (northbound id 1) plan ↔ plan = 2 := by
  have hfirst : (square 0 2).inGeo ((northbound 0 1).coordinate exact) = some true := by decide +kernel
  have hsecond : (square 10 3).inGeo ((northbound 0 1).coordinate exact) = some false := by decide +kernel
  constructor
  · rintro ⟨it, hit, hplan, hgeo, -⟩
    rcases List.mem_cons.1 hit with rfl | hit
    · exact hplan.symm
    · obtain rfl := List.mem_singleton.1 hit
      exact absurd (hsecond.symm.trans hgeo) (by decide)
  · rintro rfl
    have hheads : (square 0 2).heads ((northbound 0 1).coordinate exact) = true := by decide +kernel
    exact ⟨square 0 2, List.mem_cons_self .., rfl, hfirst, hheads⟩

theorem needed_last {c : Config exact} {s : State} {bsm : Bsm} {plan : Int} (hneeds : Needs c bsm plan) :
    (s.VehicleLocatorWorker c bsm).Needed c plan := by
  refine ⟨bsm.vehicleId, bsm, ?_, hneeds⟩
  rw [State.latest, State.received_VehicleLocatorWorker]
  exact State.latest_self s.sent s.preemptionMap _

theorem preemption_follows_two : ∃ s, (machine twoSquares).exec (machine twoSquares).init
    [northbound 1 1, northbound 2 1] = some s ∧ s.lastSet (oid twoSquares 2) = some flagOn := by
  have hone : ∀ id p q, Needs twoSquares (northbound id 1) p → Needs twoSquares (northbound id 1) q → p = q :=
    fun id p q hp hq => ((needs_northbound id p).1 hp).trans ((needs_northbound id q).1 hq).symm
  have hfirst : (located twoSquares (northbound 1 1)).isSome := by decide +kernel
  have hsecond : (located twoSquares (northbound 2 1)).isSome := by decide +kernel
  refine ⟨_, rfl, (preemption_follows twoSquares [northbound 1 1, northbound 2 1] _ rfl ?_ 2).1 ?_⟩
  · refine ⟨⟨hfirst, hone 1, nofun, nofun⟩, fun t ht => ?_⟩
    obtain rfl := Option.some.inj ht
    have hnew : State.latest (State.VehicleLocatorWorker twoSquares (machine twoSquares).init (northbound 1 1))
        (northbound 2 1).vehicleId = none := by
      rw [State.latest, State.received_VehicleLocatorWorker]
      rfl
    refine ⟨⟨hsecond, hone 2, ?_, ?_⟩, fun _ _ => trivial⟩
    · rw [hnew]
      nofun
    · rw [hnew]
      nofun
  · exact needed_last ((needs_northbound 2 2).2 rfl)

/-- A vehicle that goes over from the first square into the second keeps the plan of the first one on, and the
other plan is never set. A vehicle that leaves a square turns the plan off for the one that is still in it. -/
theorem preemption_diverges :
    (∃ s, (machine twoSquares).exec (machine twoSquares).init [northbound 1 1, northbound 1 11] = some s ∧
        ¬ s.Follows twoSquares) ∧
      ∃ s, (machine twoSquares).exec (machine twoSquares).init
        [northbound 1 1, northbound 2 1, northbound 1 5] = some s ∧ ¬ s.Follows twoSquares := by
  refine ⟨⟨_, rfl, fun h => ?_⟩, _, rfl, fun h => ?_⟩
  · have hneeds : Needs twoSquares (northbound 1 11) 3 :=
      ⟨square 10 3, by simp [twoSquares], rfl, by decide +kernel, by decide +kernel⟩
    have hon := (h 3).1 (needed_last hneeds)
    exact absurd hon (by decide +kernel)
  · have hneeds : Needs twoSquares (northbound 2 1) 2 := (needs_northbound 2 2).2 rfl
    have hon := (h 2).1 ⟨(northbound 2 1).vehicleId, northbound 2 1, ?_, hneeds⟩
    · exact absurd hon (by decide +kernel)
    · rw [State.latest, State.received_VehicleLocatorWorker, State.received_VehicleLocatorWorker]
      rfl

end V2xHub.PreemptionPlugin
