import V2xHub.Plugin.Register
import Mathlib.Tactic.Common

/-!
# The registry of client names

A plugin holds the name that it is registered with and the name that a registration under way has
reserved. `Sound`: the set of client names has exactly the names that are held. The set is sound along a
run exactly as long as no database operation of a registration fails and no plugin is registered a second
time (`registry`); `Inv` is what such a run keeps.
-/

namespace V2xHub.Plugin
variable {κ : Type*} [DecidableEq κ]

/-- What a plugin holds a name as. -/
inductive Role where
  | registered
  | registering
deriving DecidableEq

def Client.holds (client : Client) : Role → Option Str
  | .registered => if client.registered then some client.name else none
  | .registering =>
    match client.call with
    | .database info _ => some info.name
    | _ => none

namespace Registry

/-- The name that the plugin holds in the role. -/
def nameOf (s : Registry κ) (c : κ) (role : Role) : Option Str := (s.clients c).bind (·.holds role)

/-- The set has the names of the plugins that are alive and registered or about to be. -/
def Sound (s : Registry κ) : Prop := ∀ n, n ∈ s.clientNames ↔ ∃ c role, s.nameOf c role = some n

/-- A registration that has reserved the name throws. -/
def Throws (s : Registry κ) (n : Str) : Event κ → Prop
  | .database c false => s.nameOf c .registering = some n
  | .setStatus c false => s.nameOf c .registered = some n
  | _ => False

/-- What the registry is for: the set is sound, and a registration that throws gives its name back. -/
structure Keeps (s : Registry κ) (e : Event κ) : Prop where
  sound : s.Sound
  next : ∀ s', s.step e = some s' → s'.Sound ∧ ∀ n, s.Throws n e → n ∉ s'.clientNames

/-- The database operations of a registration succeed, and the plugin is registered for the first time. -/
def Undisturbed (s : Registry κ) : Event κ → Prop
  | .database _ ok => ok = true
  | .assign c => s.nameOf c .registered = none
  | .setStatus _ ok => ok = true
  | _ => True

instance (s : Registry κ) : ∀ e, Decidable (s.Undisturbed e)
  | .database _ ok | .setStatus _ ok => inferInstanceAs (Decidable (ok = true))
  | .assign c => inferInstanceAs (Decidable (s.nameOf c .registered = none))
  | .construct _ | .register _ _ | .destroy _ => isTrue trivial

end Registry

/-- What the members of a plugin satisfy by themselves. -/
structure Client.Ok (client : Client) : Prop where
  name : client.registered = false → client.name = []
  setStatus : client.call = .setStatus → client.registered = true

/-- The invariant of the runs in which nothing fails: every name is held once. -/
structure Inv (s : Registry κ) : Prop where
  sound : s.Sound
  unique : ∀ c c' role role' n, s.nameOf c role = some n → s.nameOf c' role' = some n → c = c' ∧ role = role'
  nonempty : [] ∉ s.clientNames
  ok : ∀ c client, s.clients c = some client → client.Ok

variable {s s' : Registry κ} {c c' : κ} {client : Client} {n : Str} {e : Event κ} {es : List (Event κ)}
  {info : RegistrationInformation}

namespace Registry

theorem clients_setClient_self (o : Option Client) : (s.setClient c o).clients c = o :=
  Function.update_self ..

theorem clients_setClient_of_ne (h : c' ≠ c) (o : Option Client) : (s.setClient c o).clients c' = s.clients c' :=
  Function.update_of_ne h ..

omit [DecidableEq κ] in
theorem nameOf_of (hc : s.clients c = some client) (role : Role) : s.nameOf c role = client.holds role := by
  rw [nameOf, hc]
  rfl

theorem nameOf_setClient_self (role : Role) : (s.setClient c (some client)).nameOf c role = client.holds role :=
  nameOf_of (clients_setClient_self _) role

theorem nameOf_setClient_of_ne (h : c' ≠ c) (o : Option Client) (role : Role) :
    (s.setClient c o).nameOf c' role = s.nameOf c' role := by
  rw [nameOf, clients_setClient_of_ne h]
  rfl

end Registry

open Registry

theorem inv_init : Inv (machine κ).init := by
  refine ⟨fun n => ?_, fun c c' role role' n h => ?_, Finset.notMem_empty _, fun c client h => ?_⟩
  · simp [machine, nameOf]
  · cases h
  · cases h

omit [DecidableEq κ] in
theorem Inv.mem (h : Inv s) {role : Role} (hn : s.nameOf c role = some n) : n ∈ s.clientNames :=
  (h.sound n).2 ⟨c, role, hn⟩

theorem ok_setClient (h : Inv s) (hok : client.Ok) (c' : κ) (cl : Client)
    (hc : (s.setClient c (some client)).clients c' = some cl) : cl.Ok := by
  rcases eq_or_ne c' c with rfl | hne
  · rw [clients_setClient_self] at hc
    exact Option.some.inj hc ▸ hok
  · rw [clients_setClient_of_ne hne] at hc
    exact h.ok c' cl hc

/-! ### Steps that keep who holds what -/

theorem Inv.setClient_same (h : Inv s) (hold : ∀ role, s.nameOf c role = client.holds role) (hok : client.Ok) :
    Inv (s.setClient c (some client)) := by
  have hname : ∀ c' role, (s.setClient c (some client)).nameOf c' role = s.nameOf c' role := by
    intro c' role
    rcases eq_or_ne c' c with rfl | hne
    · rw [nameOf_setClient_self, hold]
    · rw [nameOf_setClient_of_ne hne]
  refine ⟨fun n => ?_, fun c c' role role' n => ?_, h.nonempty, ok_setClient h hok⟩
  · simp only [hname]
    exact h.sound n
  · simp only [hname]
    exact h.unique c c' role role' n

/-! ### Reserving a name -/

theorem Inv.reserve (h : Inv s) (hc : s.clients c = some client) (hcall : client.call = .none)
    (hne : info.name ≠ []) (hnew : info.name ∉ s.clientNames) :
    Inv { s.setClient c (some { client with call := .database info (dbSteps info) }) with
      clientNames := insert info.name s.clientNames } := by
  set s' : Registry κ := { s.setClient c (some { client with call := .database info (dbSteps info) }) with
    clientNames := insert info.name s.clientNames } with hs'
  have hregd : s'.nameOf c .registered = s.nameOf c .registered := by
    rw [nameOf_of hc]
    exact nameOf_setClient_self .registered
  have hregg : s'.nameOf c .registering = some info.name := nameOf_setClient_self .registering
  have hold : s.nameOf c .registering = none := by rw [nameOf_of hc, Client.holds, hcall]
  have hother : ∀ c' role, (c', role) ≠ (c, Role.registering) → s'.nameOf c' role = s.nameOf c' role := by
    intro c' role hcr
    rcases eq_or_ne c' c with rfl | hne
    · cases role with
      | registered => exact hregd
      | registering => exact absurd rfl hcr
    · exact nameOf_setClient_of_ne hne _ role
  -- a name is held in the new state as in the old one, or it is the reserved name
  have hcases : ∀ c' role m, s'.nameOf c' role = some m →
      (c' = c ∧ role = .registering ∧ m = info.name) ∨ (s.nameOf c' role = some m ∧ m ≠ info.name) := by
    intro c' role m hm
    by_cases hcr : (c', role) = (c, Role.registering)
    · obtain ⟨rfl, rfl⟩ := Prod.mk.inj hcr
      rw [hregg] at hm
      exact Or.inl ⟨rfl, rfl, (Option.some.inj hm).symm⟩
    · rw [hother c' role hcr] at hm
      exact Or.inr ⟨hm, fun hmn => hnew (hmn ▸ h.mem hm)⟩
  refine ⟨fun m => ?_, fun c₁ c₂ r₁ r₂ m h₁ h₂ => ?_, ?_, fun c' cl hcl => ?_⟩
  · show m ∈ insert info.name s.clientNames ↔ _
    rw [Finset.mem_insert, h.sound m]
    constructor
    · rintro (rfl | ⟨c', role, hm⟩)
      · exact ⟨c, .registering, hregg⟩
      · refine ⟨c', role, ?_⟩
        rw [hother c' role, hm]
        intro hcr
        obtain ⟨rfl, rfl⟩ := Prod.mk.inj hcr
        rw [hold] at hm
        cases hm
    · rintro ⟨c', role, hm⟩
      rcases hcases c' role m hm with ⟨-, -, rfl⟩ | ⟨hm, -⟩
      · exact Or.inl rfl
      · exact Or.inr ⟨c', role, hm⟩
  · rcases hcases c₁ r₁ m h₁ with ⟨rfl, rfl, rfl⟩ | ⟨h₁, hm₁⟩
    · rcases hcases c₂ r₂ _ h₂ with ⟨rfl, rfl, -⟩ | ⟨-, hm₂⟩
      · exact ⟨rfl, rfl⟩
      · exact absurd rfl hm₂
    · rcases hcases c₂ r₂ m h₂ with ⟨-, -, hm₂⟩ | ⟨h₂, -⟩
      · exact absurd hm₂ hm₁
      · exact h.unique c₁ c₂ r₁ r₂ m h₁ h₂
  · show [] ∉ insert info.name s.clientNames
    rw [Finset.mem_insert, not_or]
    exact ⟨hne.symm, h.nonempty⟩
  · have hok : ({ client with call := .database info (dbSteps info) } : Client).Ok :=
      ⟨(h.ok c client hc).name, fun hst => Call.noConfusion hst⟩
    exact ok_setClient h hok c' cl hcl

/-! ### Assigning the members -/

/-- The first registration of a plugin turns the reserved name into the registered one. -/
theorem Inv.assign (h : Inv s) (hc : s.clients c = some client) (hcall : client.call = .database info [])
    (hfirst : s.nameOf c .registered = none) : Inv (s.setClient c (some ⟨true, info.name, .setStatus⟩)) := by
  set s' : Registry κ := s.setClient c (some ⟨true, info.name, .setStatus⟩) with hs'
  have hregd : s'.nameOf c .registered = some info.name := nameOf_setClient_self _
  have hregg : s'.nameOf c .registering = none := nameOf_setClient_self _
  have hold : s.nameOf c .registering = some info.name := by rw [nameOf_of hc, Client.holds, hcall]
  have hcases : ∀ c' role m, s'.nameOf c' role = some m →
      (c' = c ∧ role = .registered ∧ m = info.name) ∨ (c' ≠ c ∧ s.nameOf c' role = some m) := by
    intro c' role m hm
    rcases eq_or_ne c' c with rfl | hne
    · cases role with
      | registered =>
        rw [hregd] at hm
        exact Or.inl ⟨rfl, rfl, (Option.some.inj hm).symm⟩
      | registering =>
        rw [hregg] at hm
        cases hm
    · rw [nameOf_setClient_of_ne hne] at hm
      exact Or.inr ⟨hne, hm⟩
  refine ⟨fun m => ?_, fun c₁ c₂ r₁ r₂ m h₁ h₂ => ?_, h.nonempty, ok_setClient h ⟨fun hr => Bool.noConfusion hr, fun _ => rfl⟩⟩
  · rw [show s'.clientNames = s.clientNames from rfl, h.sound m]
    constructor
    · rintro ⟨c', role, hm⟩
      rcases eq_or_ne c' c with rfl | hne
      · cases role with
        | registered =>
          rw [hfirst] at hm
          cases hm
        | registering => exact ⟨c', .registered, by rw [hregd, ← hold, hm]⟩
      · exact ⟨c', role, by rw [nameOf_setClient_of_ne hne, hm]⟩
    · rintro ⟨c', role, hm⟩
      rcases hcases c' role m hm with ⟨rfl, rfl, rfl⟩ | ⟨-, hm⟩
      · exact ⟨c', .registering, hold⟩
      · exact ⟨c', role, hm⟩
  · rcases hcases c₁ r₁ m h₁ with ⟨hc₁, hr₁, hm₁⟩ | ⟨hne₁, h₁'⟩
    · rcases hcases c₂ r₂ m h₂ with ⟨hc₂, hr₂, -⟩ | ⟨hne₂, h₂'⟩
      · exact ⟨hc₁.trans hc₂.symm, hr₁.trans hr₂.symm⟩
      · exact absurd (h.unique _ _ _ _ _ h₂' (hm₁ ▸ hold)).1 hne₂
    · rcases hcases c₂ r₂ m h₂ with ⟨-, -, hm₂⟩ | ⟨-, h₂'⟩
      · exact absurd (h.unique _ _ _ _ _ h₁' (hm₂ ▸ hold)).1 hne₁
      · exact h.unique c₁ c₂ r₁ r₂ m h₁' h₂'

/-! ### Destroying a plugin -/

theorem Inv.destroy (h : Inv s) (hc : s.clients c = some client) (hcall : client.call = .none) :
    Inv { s.setClient c none with clientNames := s.clientNames.erase client.name } := by
  set s' : Registry κ := { s.setClient c none with clientNames := s.clientNames.erase client.name } with hs'
  have hgone : ∀ role, s'.nameOf c role = none := by
    intro role
    rw [nameOf, show s'.clients c = none from Function.update_self ..]
    rfl
  have hother : ∀ c', c' ≠ c → ∀ role, s'.nameOf c' role = s.nameOf c' role :=
    fun c' hne role => nameOf_setClient_of_ne hne _ role
  have hcases : ∀ c' role m, s'.nameOf c' role = some m → c' ≠ c ∧ s.nameOf c' role = some m := by
    intro c' role m hm
    rcases eq_or_ne c' c with rfl | hne
    · rw [hgone] at hm
      cases hm
    · exact ⟨hne, (hother c' hne role).symm.trans hm⟩
  refine ⟨fun m => ?_, fun c₁ c₂ r₁ r₂ m h₁ h₂ => ?_, ?_, fun c' cl hcl => ?_⟩
  · show m ∈ s.clientNames.erase client.name ↔ _
    rw [Finset.mem_erase, h.sound m]
    constructor
    · rintro ⟨hne, c', role, hm⟩
      refine ⟨c', role, ?_⟩
      rw [hother c' (fun hcc => ?_), hm]
      subst hcc
      rw [nameOf_of hc] at hm
      cases role with
      | registered =>
        rw [Client.holds] at hm
        split_ifs at hm
        exact hne (Option.some.inj hm).symm
      | registering =>
        rw [Client.holds, hcall] at hm
        cases hm
    · rintro ⟨c', role, hm⟩
      obtain ⟨hne, hm⟩ := hcases c' role m hm
      refine ⟨fun hmn => ?_, c', role, hm⟩
      by_cases hreg : client.registered = true
      · have hholds : s.nameOf c .registered = some m := by
          rw [nameOf_of hc, Client.holds, if_pos hreg, hmn]
        exact hne (h.unique _ _ _ _ _ hm hholds).1
      · rw [(h.ok c client hc).name (Bool.eq_false_iff.2 hreg)] at hmn
        exact h.nonempty (hmn ▸ h.mem hm)
  · exact h.unique c₁ c₂ r₁ r₂ m (hcases _ _ _ h₁).2 (hcases _ _ _ h₂).2
  · exact fun hmem => h.nonempty (Finset.mem_of_mem_erase hmem)
  · rcases eq_or_ne c' c with rfl | hne
    · rw [show s'.clients c' = none from Function.update_self ..] at hcl
      cases hcl
    · rw [show s'.clients c' = s.clients c' from Function.update_of_ne hne _ _] at hcl
      exact h.ok c' cl hcl

/-! ### Runs -/

/-- A step that the database does not disturb keeps the invariant. -/
theorem Inv.step (h : Inv s) (hu : s.Undisturbed e) (hs : s.step e = some s') : Inv s' := by
  cases e with
  | construct c =>
    simp only [Registry.step] at hs
    split_ifs at hs with hfree
    obtain rfl := Option.some.inj hs
    refine h.setClient_same (fun role => ?_) ⟨fun _ => rfl, fun hcall => Call.noConfusion hcall⟩
    rw [nameOf, Option.isNone_iff_eq_none.1 hfree]
    cases role <;> rfl
  | register c info =>
    simp only [Registry.step] at hs
    split at hs
    · rename_i registered name hc
      obtain rfl := Option.some.inj hs
      unfold Registry.register
      split_ifs with hempty hused
      · exact h
      · exact h
      · exact h.reserve hc rfl hempty hused
    · cases hs
  | database c ok =>
    obtain rfl : ok = true := hu
    simp only [Registry.step] at hs
    split at hs
    · rename_i registered name info st steps hc
      obtain rfl := Option.some.inj hs
      refine h.setClient_same (fun role => ?_) ⟨(h.ok c _ hc).name, fun hcall => Call.noConfusion hcall⟩
      rw [nameOf_of hc]
      cases role <;> rfl
    · cases hs
  | assign c =>
    simp only [Registry.step] at hs
    split at hs
    · rename_i hc
      obtain rfl := Option.some.inj hs
      exact h.assign hc rfl hu
    · cases hs
  | setStatus c ok =>
    simp only [Registry.step] at hs
    split at hs
    · rename_i hc
      obtain rfl := Option.some.inj hs
      refine h.setClient_same (fun role => ?_) ⟨(h.ok c _ hc).name, fun hcall => Call.noConfusion hcall⟩
      rw [nameOf_of hc]
      cases role <;> rfl
    · cases hs
  | destroy c =>
    simp only [Registry.step] at hs
    split at hs
    · rename_i hc
      obtain rfl := Option.some.inj hs
      exact h.destroy hc rfl
    · cases hs

/-- In a run that is not disturbed so far, a step that the registry survives is not disturbed either: the
name left behind by a failed registration is held by nobody, and so is the old name of a plugin that is
registered again. -/
theorem Inv.undisturbed (h : Inv s) (hs : s.step e = some s') (hk : s.Keeps e) : s.Undisturbed e := by
  obtain ⟨-, hnext⟩ := hk
  obtain ⟨hsound, hthrow⟩ := hnext s' hs
  cases e with
  | construct c | register c info | destroy c => trivial
  | database c ok =>
    cases ok with
    | true => rfl
    | false =>
      simp only [Registry.step] at hs
      split at hs
      · rename_i registered name info st steps hc
        have hn : s.nameOf c .registering = some info.name := nameOf_of hc _
        obtain rfl := Option.some.inj hs
        exact absurd (h.mem hn) (hthrow info.name hn)
      · cases hs
  | setStatus c ok =>
    cases ok with
    | true => rfl
    | false =>
      simp only [Registry.step] at hs
      split at hs
      · rename_i registered name hc
        have hn : s.nameOf c .registered = some name := by
          rw [nameOf_of hc, Client.holds, if_pos ((h.ok c _ hc).setStatus rfl)]
        obtain rfl := Option.some.inj hs
        exact absurd (h.mem hn) (hthrow name hn)
      · cases hs
  | assign c =>
    simp only [Registry.step] at hs
    split at hs
    · rename_i registered name info hc
      obtain rfl := Option.some.inj hs
      show s.nameOf c .registered = none
      by_contra hno
      obtain ⟨old, hold⟩ := Option.ne_none_iff_exists'.1 hno
      -- nobody holds the old name any more, but it is still in the set
      obtain ⟨c', role, hm⟩ := (hsound old).1 (h.mem hold)
      have hreserved : s.nameOf c .registering = some info.name := nameOf_of hc _
      rcases eq_or_ne c' c with rfl | hne
      · rw [nameOf_setClient_self] at hm
        cases role with
        | registered =>
          obtain rfl : info.name = old := Option.some.inj hm
          exact Role.noConfusion (h.unique _ _ _ _ _ hold hreserved).2
        | registering => cases hm
      · rw [nameOf_setClient_of_ne hne] at hm
        exact hne (h.unique _ _ _ _ _ hm hold).1
    · cases hs

theorem Inv.keeps (h : Inv s) (hu : s.Undisturbed e) : s.Keeps e := by
  refine ⟨h.sound, fun s' hs => ⟨(h.step hu hs).sound, fun n hthrow => ?_⟩⟩
  cases e with
  | database c ok | setStatus c ok =>
    obtain rfl : ok = true := hu
    exact hthrow.elim
  | _ => exact hthrow.elim

/-- The registry is kept along a run exactly if no database operation of a registration fails and no plugin
is registered a second time. Then every name is held once, and where no registration is under way the set
of client names has exactly the names of the plugins that are alive and registered. -/
theorem registry (κ : Type*) [DecidableEq κ] (es : List (Event κ)) (s : Registry κ)
    (hes : (machine κ).exec (machine κ).init es = some s) :
    ((machine κ).Meets Registry.Keeps (machine κ).init es ↔
      (machine κ).Meets Registry.Undisturbed (machine κ).init es) ∧
    ((machine κ).Meets Registry.Undisturbed (machine κ).init es →
      s.Sound ∧ (∀ c c' role role' n, s.nameOf c role = some n → s.nameOf c' role' = some n → c = c' ∧ role = role') ∧
      ((∀ c, s.nameOf c .registering = none) → ∀ n, n ∈ s.clientNames ↔
        ∃ c client, s.clients c = some client ∧ client.registered = true ∧ client.name = n)) := by
  refine ⟨Machine.meets_iff inv_init (fun _ _ _ h hu hs => h.step hu hs)
    (fun _ _ _ h hs => ⟨h.undisturbed hs, h.keeps⟩) hes, fun hu => ?_⟩
  have h : Inv s := Machine.invariant_meets inv_init (fun _ _ _ h hu hs => h.step hu hs) hu hes
  refine ⟨h.sound, h.unique, fun hquiet n => ?_⟩
  rw [h.sound n]
  constructor
  · rintro ⟨c, role, hn⟩
    cases role with
    | registering =>
      rw [hquiet c] at hn
      cases hn
    | registered =>
      obtain ⟨client, hc, hholds⟩ := Option.bind_eq_some_iff.1 hn
      rw [Client.holds] at hholds
      split_ifs at hholds with hreg
      exact ⟨c, client, hc, hreg, Option.some.inj hholds⟩
  · rintro ⟨c, client, hc, hreg, rfl⟩
    exact ⟨c, .registered, by rw [nameOf_of hc, Client.holds, if_pos hreg]⟩

/-- A plugin registers while another one has its name refused, and goes. -/
theorem registry_refused :
    let info : RegistrationInformation := ⟨CString.lit "A", []⟩
    let es : List (Event Nat) := [.construct 0, .construct 1, .register 0 info, .register 1 info,
      .database 0 true, .database 0 true, .database 0 true, .database 0 true, .assign 0, .setStatus 0 true]
    ∃ s, (machine Nat).exec (machine Nat).init es = some s ∧
      (machine Nat).Meets Registry.Keeps (machine Nat).init es ∧
      ((∀ c, s.nameOf c .registering = none) → ∀ n, n ∈ s.clientNames ↔
        ∃ c client, s.clients c = some client ∧ client.registered = true ∧ client.name = n) := by
  intro info es
  have hu : (machine Nat).Meets Registry.Undisturbed (machine Nat).init es := by decide
  exact ⟨_, rfl, (registry Nat es _ rfl).1.2 hu, ((registry Nat es _ rfl).2 hu).2.2⟩

/-- The database fails in a registration: the name is left in the set, and nobody has it. -/
theorem name_left_behind : ¬ ∀ (es : List (Event Nat)) (s : Registry Nat),
    (machine Nat).exec (machine Nat).init es = some s → (∀ c, s.nameOf c .registering = none) →
    ∀ n, n ∈ s.clientNames ↔ ∃ c client, s.clients c = some client ∧ client.registered = true ∧ client.name = n := by
  intro h
  obtain ⟨s, hs, hmem, hclients⟩ : ∃ s, (machine Nat).exec (machine Nat).init
      [.construct 0, .register 0 ⟨CString.lit "A", []⟩, .database 0 false] = some s ∧
      CString.lit "A" ∈ s.clientNames ∧ ∀ c client, s.clients c = some client → client = ⟨false, [], .none⟩ := by
    refine ⟨_, rfl, by decide, fun c client hc => ?_⟩
    rcases eq_or_ne c 0 with rfl | hne
    · exact (Option.some.inj hc).symm
    · have hlit : CString.lit "A" ≠ [] := by decide
      simp [setClient, Registry.register, machine, Function.update_of_ne hne, hlit] at hc
  have hquiet : ∀ c, s.nameOf c .registering = none := by
    intro c
    cases hc : s.clients c with
    | none => rw [nameOf, hc, Option.bind_none]
    | some client => rw [nameOf_of hc, hclients c client hc, Client.holds]
  obtain ⟨c, client, hc, hreg, -⟩ := (h _ s hs hquiet _).1 hmem
  rw [hclients c client hc] at hreg
  cases hreg

end V2xHub.Plugin
