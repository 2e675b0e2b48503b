import V2xHub.CJson.RoundTrip

/-!
# Objects with optional members

The messages put a member into an object only where there is something to put, and look members up by their
names again (`cJSONxtra_tryGet*`). What is looked up in the tree that comes out of the parser is what was put
in (`getObjectItem_objectOf`, `getObjectItem_normal`).
-/

namespace V2xHub.CJson

/-- The object to which the members that are there were added, in this order. -/
def objectOf (fields : List (Str × Option CJson)) : CJson :=
  object (fields.filterMap fun f => f.2.map fun item => (f.1, item))

/-- `cJSONxtra_tryGetStr`. -/
def tryGetStr (root : CJson) (fieldName : Str) : Option Str := (root.getObjectItem fieldName).bind stringValue?

/-- `cJSONxtra_tryGetUnsignedInt`. -/
def tryGetUnsignedInt (root : CJson) (fieldName : Str) : Option Nat :=
  ((root.getObjectItem fieldName).bind intValue?).map fun valueint => (valueint % 2 ^ 32).toNat

/-- `cJSONxtra_tryGetInt`. -/
def tryGetInt (root : CJson) (fieldName : Str) : Option Int :=
  ((root.getObjectItem fieldName).bind intValue?).map fun valueint => valueint.bmod (2 ^ 32)

/-- `cJSONxtra_tryGetInt64`. -/
def tryGetInt64 (root : CJson) (fieldName : Str) : Option Nat :=
  ((root.getObjectItem fieldName).bind intValue?).map fun valueint => (valueint % 2 ^ 64).toNat

/-- No two names are the same to `cJSON_GetObjectItem`. -/
def Distinct (names : List Str) : Prop := names.Pairwise fun a b => strcasecmp a b ≠ 0 ∧ strcasecmp b a ≠ 0

instance : DecidablePred Distinct := fun names =>
  inferInstanceAs (Decidable (names.Pairwise fun a b => strcasecmp a b ≠ 0 ∧ strcasecmp b a ≠ 0))

variable {fields : List (Str × Option CJson)} {name : Str} {item : Option CJson}

theorem getObjectItem_cons_of_ne {n : Str} (h : strcasecmp n name ≠ 0) :
    (objectOf ((n, item) :: fields)).getObjectItem name = (objectOf fields).getObjectItem name := by
  cases item with
  | none => rfl
  | some i => exact congrArg (Option.map Prod.snd) (List.find?_cons_of_neg (by simpa using h))

theorem getObjectItem_cons_self {i : CJson} :
    (objectOf ((name, some i) :: fields)).getObjectItem name = some i :=
  congrArg (Option.map Prod.snd) (List.find?_cons_of_pos (by simp))

theorem getObjectItem_of_forall_ne (h : ∀ f ∈ fields, strcasecmp f.1 name ≠ 0) :
    (objectOf fields).getObjectItem name = none := by
  induction fields with
  | nil => rfl
  | cons f fields ih =>
    rw [getObjectItem_cons_of_ne (h f (List.mem_cons_self ..))]
    exact ih fun g hg => h g (List.mem_cons_of_mem f hg)

theorem getObjectItem_objectOf (h : Distinct (fields.map Prod.fst)) (hmem : (name, item) ∈ fields) :
    (objectOf fields).getObjectItem name = item := by
  induction fields with
  | nil => exact absurd hmem List.not_mem_nil
  | cons f fields ih =>
    rw [Distinct, List.map_cons, List.pairwise_cons] at h
    obtain ⟨hf, htail⟩ := h
    rcases List.mem_cons.1 hmem with rfl | hmem
    · cases item with
      | none =>
        show (objectOf fields).getObjectItem name = none
        exact getObjectItem_of_forall_ne fun g hg => (hf g.1 (List.mem_map_of_mem hg)).2
      | some i => exact getObjectItem_cons_self
    · rw [getObjectItem_cons_of_ne (hf name (List.mem_map_of_mem hmem)).1]
      exact ih htail hmem

theorem normalMembers_eq_map (child : List (Str × CJson)) :
    normalMembers child = child.map fun m => (m.1, m.2.normal) := by
  induction child with
  | nil => rw [normalMembers, List.map_nil]
  | cons m child ih => rw [normalMembers, ih, List.map_cons, normalMember]

theorem normalItems_eq_map (child : List CJson) : normalItems child = child.map normal := by
  induction child with
  | nil => rw [normalItems, List.map_nil]
  | cons item child ih => rw [normalItems, ih, List.map_cons]

theorem getObjectItem_normal (root : CJson) (name : Str) :
    root.normal.getObjectItem name = (root.getObjectItem name).map normal := by
  cases root with
  | object child =>
    rw [normal, normalMembers_eq_map, getObjectItem, getObjectItem, List.find?_map, Option.map_map, Option.map_map]
    rfl
  | _ => rfl

theorem normal_normal (item : CJson) : item.normal.normal = item.normal := by
  induction item using CJson.induction with
  | array child ih =>
    simp only [normal, normalItems_eq_map, List.map_map]
    exact congrArg array (List.map_congr_left ih)
  | object child ih =>
    simp only [normal, normalMembers_eq_map, List.map_map]
    exact congrArg object (List.map_congr_left fun m hm => congrArg (Prod.mk m.1) (ih m hm))
  | _ => rfl

theorem Plain.normal {item : CJson} (h : item.Plain) : item.normal.Plain := by
  induction h with
  | null => exact .null
  | false => exact .false
  | true => exact .true
  | number n h =>
    obtain ⟨hn, rfl, -⟩ := h
    refine .number n ⟨hn, rfl, fun _ => Or.inl ?_⟩
    exact Double.toInt64_intCast hn
  | string hs => exact .string hs
  | array _ ih =>
    rw [CJson.normal, normalItems_eq_map]
    exact .array (List.forall_mem_map.2 ih)
  | object hname _ ih =>
    rw [CJson.normal, normalMembers_eq_map]
    exact .object (List.forall_mem_map.2 hname) (List.forall_mem_map.2 ih)

/-! ### Members behind the parser -/

/-- A member of an object, after the object has been through its text. -/
theorem getObjectItem_normal_objectOf (h : Distinct (fields.map Prod.fst)) (hmem : (name, item) ∈ fields) :
    (objectOf fields).normal.getObjectItem name = item.map normal := by
  rw [getObjectItem_normal, getObjectItem_objectOf h hmem]

theorem tryGetStr_objectOf (h : Distinct (fields.map Prod.fst)) {s : Option Str} (hmem : (name, s.map string) ∈ fields) :
    (objectOf fields).tryGetStr name = s := by
  rw [tryGetStr, getObjectItem_objectOf h hmem]
  cases s <;> rfl

theorem normal_tryGetStr (root : CJson) (name : Str) : root.normal.tryGetStr name = root.tryGetStr name := by
  rw [tryGetStr, getObjectItem_normal, tryGetStr, Option.bind_map]
  congr 1
  funext item
  cases item <;> rfl

theorem tryGetStr_normal (h : Distinct (fields.map Prod.fst)) {s : Option Str} (hmem : (name, s.map string) ∈ fields) :
    (objectOf fields).normal.tryGetStr name = s := by
  rw [normal_tryGetStr, tryGetStr_objectOf h hmem]

theorem intValue_normal {root : CJson} {n : Int} (hn : |n| < 2 ^ 53)
    (h : root.getObjectItem name = some (createNumber (.ofInt n))) :
    (root.normal.getObjectItem name).bind intValue? = some n := by
  obtain ⟨v, hv, hint⟩ := isInt_createNumber hn
  rw [getObjectItem_normal, h, hv, Option.map_some, Option.bind_some, normal, intValue?, Double.toInt64_intCast hn]

theorem intItem_normal (h : Distinct (fields.map Prod.fst)) {n : Int} (hn : |n| < 2 ^ 53)
    (hmem : (name, some (createNumber (.ofInt n))) ∈ fields) :
    ((objectOf fields).normal.getObjectItem name).bind intValue? = some n :=
  intValue_normal hn (getObjectItem_objectOf h hmem)

theorem tryGetInt_normal {root : CJson} {n : Int} (hn : |n| < 2 ^ 53)
    (h : root.getObjectItem name = some (createNumber (.ofInt n))) :
    root.normal.tryGetInt name = some (n.bmod (2 ^ 32)) := by
  rw [tryGetInt, intValue_normal hn h, Option.map_some]

theorem ofInt_bmod (n : Int) : BitVec.ofInt 32 (n.bmod (2 ^ 32)) = BitVec.ofInt 32 n := by
  apply BitVec.eq_of_toInt_eq
  rw [BitVec.toInt_ofInt, BitVec.toInt_ofInt, Int.bmod_bmod]

theorem ofInt_toNat (x : BitVec 32) : BitVec.ofInt 32 (x.toNat : Int) = x := by
  rw [BitVec.ofInt_natCast, BitVec.ofNat_toNat, BitVec.setWidth_eq]

theorem plain_createNumber {n : Int} (h : |n| < 2 ^ 53) : (createNumber (.ofInt n)).Plain := by
  obtain ⟨v, hv, hint⟩ := isInt_createNumber h
  rw [hv]
  exact .number n hint

theorem plain_map_string {o : Option Str} (h : ∀ s ∈ o, 0 ∉ s) : ∀ item ∈ o.map string, item.Plain := by
  intro item hitem
  obtain ⟨s, hs, rfl⟩ := Option.map_eq_some_iff.1 hitem
  exact .string (h s hs)

theorem abs_toNat_lt (x : BitVec 32) : |(x.toNat : Int)| < 2 ^ 53 := by
  have := x.isLt
  exact abs_lt.2 ⟨by omega, by omega⟩

theorem abs_toInt_lt (x : BitVec 32) : |x.toInt| < 2 ^ 53 := by
  have hlt := x.toInt_lt
  have hle := x.le_toInt
  exact abs_lt.2 ⟨by omega, by omega⟩

theorem plain_objectOf (hname : ∀ name ∈ fields.map Prod.fst, 0 ∉ name) (h : ∀ f ∈ fields, ∀ item ∈ f.2, item.Plain) :
    (objectOf fields).Plain := by
  refine .object (fun m hm => ?_) fun m hm => ?_
  all_goals
    obtain ⟨f, hf, hfm⟩ := List.mem_filterMap.1 hm
    obtain ⟨item, hitem, rfl⟩ := Option.map_eq_some_iff.1 hfm
  · exact hname f.1 (List.mem_map_of_mem hf)
  · exact h f hf item hitem

end V2xHub.CJson
