import V2xHub.CJson.Text

/-!
# What is printed is parsed

The text of a tree of strings, booleans, nulls, arrays, objects and integers, formatted or not, is parsed to
the same tree. The proof follows the tree; a list of items or members is taken apart the way the parser
does, into the first and the rest behind it.
-/

namespace V2xHub.CJson

/-- A tree of strings, booleans, nulls, arrays, objects and integers. -/
inductive Plain : CJson → Prop
  | null : Plain null
  | false : Plain false
  | true : Plain true
  | number {v d} (n : Int) (h : IsInt n v d) : Plain (number v d)
  | string {s} (hs : 0 ∉ s) : Plain (string s)
  | array {child} (h : ∀ item ∈ child, Plain item) : Plain (array child)
  | object {child} (hname : ∀ m ∈ child, 0 ∉ m.1) (h : ∀ m ∈ child, Plain m.2) : Plain (object child)

mutual

/-- The tree with every `valueint` taken from its `valuedouble`, as the parser takes it. -/
def normal : CJson → CJson
  | null => null
  | false => false
  | true => true
  | number _ valuedouble => number valuedouble.toInt64 valuedouble
  | string valuestring => string valuestring
  | array child => array (normalItems child)
  | object child => object (normalMembers child)

def normalItems : List CJson → List CJson
  | [] => []
  | item :: child => item.normal :: normalItems child

def normalMembers : List (Str × CJson) → List (Str × CJson)
  | [] => []
  | m :: child => normalMember m :: normalMembers child

def normalMember : Str × CJson → Str × CJson
  | (name, item) => (name, item.normal)

end

variable {libc : Libc} {fmt : Bool} {depth : Nat} {t : Str}

/-! ### White space -/

@[simp] theorem skip_nil : skip [] = [] := rfl

theorem skip_cons {c : UInt8} (h : 32 < c.toNat) (t : Str) : skip (c :: t) = c :: t :=
  List.dropWhile_cons_of_neg (by simpa using h)

def Blank (ws : Str) : Prop := ∀ c ∈ ws, c.toNat ≤ 32

instance : DecidablePred Blank := fun ws => List.decidableBAll (fun c : UInt8 => c.toNat ≤ 32) ws

theorem skip_append {ws : Str} (h : Blank ws) (t : Str) : skip (ws ++ t) = skip t := by
  induction ws with
  | nil => rfl
  | cons c ws ih =>
    rw [List.cons_append, skip, List.dropWhile_cons_of_pos (by simpa using h c (List.mem_cons_self ..))]
    exact ih fun d hd => h d (List.mem_cons_of_mem _ hd)

theorem skip_formatted {ws : Str} (h : Blank ws) (t : Str) : skip (formatted fmt ws ++ t) = skip t := by
  cases fmt with
  | false => rfl
  | true => exact skip_append h t

theorem mem_tabs {c : UInt8} (h : c ∈ tabs depth) : c.toNat ≤ 32 := by
  rw [List.eq_of_mem_replicate h]
  decide

/-! ### The first byte of a value -/

theorem head?_lld (n : Int) : ∃ c cs, Printf.lld n = c :: cs ∧ 32 < c.toNat ∧ (c = 45 ∨ isDigit c) := by
  rcases lt_or_ge n 0 with hneg | hpos
  · exact ⟨45, _, by rw [Printf.lld, Printf.signOf, if_pos hneg]; rfl, by decide, Or.inl rfl⟩
  · obtain ⟨c, hc, hle⟩ := head?_decimal_append (n := n.natAbs) (t := [])
    rw [List.append_nil] at hc
    obtain ⟨cs, hcs⟩ := List.head?_eq_some_iff.1 hc
    have hmem := (Printf.mem_decimal (hcs ▸ List.mem_cons_self ..) : 48 ≤ c.toNat ∧ c.toNat ≤ 57)
    refine ⟨c, cs, by rw [Printf.lld, Printf.signOf, if_neg (not_lt.2 hpos), List.nil_append, hcs], by omega, Or.inr ?_⟩
    rw [isDigit, Bool.and_eq_true, decide_eq_true_iff, decide_eq_true_iff]
    exact hmem

theorem printValue_eq_cons (fmt : Bool) (depth : Nat) {j : CJson} (h : j.Plain) :
    ∃ c cs, printValue fmt depth j = c :: cs ∧ 32 < c.toNat ∧ c ≠ 93 := by
  cases h with
  | null | false | true => exact ⟨_, _, rfl, by decide, by decide⟩
  | number n h =>
    obtain ⟨c, cs, hcs, hlt, hc⟩ := head?_lld n
    refine ⟨c, cs, by rw [printValue, printNumber_of_isInt h, hcs], hlt, ?_⟩
    rintro rfl
    rcases hc with hc | hc
    · exact absurd hc (by decide)
    · exact absurd hc (by decide)
  | string hs => exact ⟨34, _, rfl, by decide, by decide⟩
  | array h => exact ⟨91, _, by rw [printValue], by decide, by decide⟩
  | @object child hname h =>
    cases child with
    | nil => exact ⟨123, _, by rw [printValue]; rfl, by decide, by decide⟩
    | cons m child => exact ⟨123, _, by rw [printValue]; rfl, by decide, by decide⟩

/-! ### Behind an item -/

/-- The text behind an item of an array, the items in `child` being left. -/
def itemsTail (fmt : Bool) (depth : Nat) (child : List CJson) : Str :=
  if child = [] then [93] else 44 :: formatted fmt [32] ++ printItems fmt depth child

/-- The text behind a member of an object, the members in `child` being left. -/
def membersTail (fmt : Bool) (depth : Nat) (child : List (Str × CJson)) : Str :=
  if child = [] then formatted fmt [10] ++ formatted fmt (tabs (depth - 1)) ++ [125]
  else 44 :: formatted fmt [10] ++ printMembers fmt depth child

theorem printItems_cons (item : CJson) (child : List CJson) :
    printItems fmt depth (item :: child) = printValue fmt depth item ++ itemsTail fmt depth child := by
  cases child with
  | nil => rw [printItems, itemsTail, if_pos rfl]
  | cons item' child =>
    rw [printItems, List.append_assoc]
    · rfl
    · rintro ⟨⟩

theorem printMembers_cons (m : Str × CJson) (child : List (Str × CJson)) :
    printMembers fmt depth (m :: child) = printMember fmt depth m ++ membersTail fmt depth child := by
  cases child with
  | nil =>
    rw [printMembers, membersTail, if_pos rfl]
    simp only [List.append_assoc]
  | cons m' child =>
    rw [printMembers, List.append_assoc]
    · rfl
    · rintro ⟨⟩

theorem delimited_cons {c : UInt8} (h : isDigit c = Bool.false ∧ c ≠ 46 ∧ c ≠ 101 ∧ c ≠ 69) : Delimited (c :: t) := by
  rintro d ⟨⟩
  exact h

theorem delimited_itemsTail (child : List CJson) : Delimited (itemsTail fmt depth child ++ t) := by
  unfold itemsTail
  split_ifs
  · exact delimited_cons (by decide)
  · exact delimited_cons (by decide)

theorem delimited_membersTail (child : List (Str × CJson)) : Delimited (membersTail fmt depth child ++ t) := by
  unfold membersTail
  split_ifs
  · cases fmt <;> exact delimited_cons (by decide)
  · exact delimited_cons (by decide)

/-! ### The tree -/

/-- The text of the item, whatever stands behind it, is parsed to the item. -/
def Parses (libc : Libc) (fmt : Bool) (item : CJson) : Prop :=
  ∀ depth fuel t, (printValue fmt depth item).length < fuel → Delimited t →
    parseValue libc fuel (printValue fmt depth item ++ t) = some (item.normal, t)

/-- A value that is none of the three words is known by its first byte. -/
theorem parseValue_cons {c : UInt8} (hn : c ≠ 110) (hf : c ≠ 102) (ht : c ≠ 116) (fuel : Nat) (text : Str) :
    parseValue libc (fuel + 1) (c :: text) =
      if c = 34 then (parseString (c :: text)).map fun r => (string r.1, r.2)
      else if c = 45 ∨ c = 46 ∨ isDigit c then some (parseNumber libc (c :: text))
      else if c = 91 then
        if (skip text).head? = some 93 then some (array [], (skip text).tail)
        else do
          let (item, text) ← parseValue libc fuel (skip text)
          let (child, text) ← parseItems libc fuel (skip text)
          some (array (item :: child), text)
      else if c = 123 then
        if (skip text).head? = some 125 then some (object [], (skip text).tail)
        else do
          let (m, text) ← parseMember libc fuel (skip text)
          let (child, text) ← parseMembers libc fuel (skip text)
          some (object (m :: child), text)
      else none := by
  have hno : ∀ (d : UInt8) (word : Str), c ≠ d → ¬ d :: word <+: c :: text :=
    fun d word hne hprefix => hne (List.cons_prefix_cons.1 hprefix).1.symm
  rw [parseValue]
  exact (if_neg (hno 110 _ hn)).trans ((if_neg (hno 102 _ hf)).trans (if_neg (hno 116 _ ht)))

theorem parseValue_number {v n : Int} {d : Double} (h : IsInt n v d) (fuel : Nat) (ht : Delimited t) :
    parseValue libc (fuel + 1) (printNumber v d ++ t) = some (number n (.finite n), t) := by
  obtain ⟨c, cs, hcs, hlt, hc⟩ := head?_lld n
  have hparse : parseNumber libc _ = _ := parseNumber_printNumber h ht
  rw [printNumber_of_isInt h, hcs, List.cons_append] at hparse ⊢
  have hne : ∀ d : UInt8, ¬ (d = 45 ∨ isDigit d) → c ≠ d := by
    rintro d hd rfl
    exact hd hc
  rw [parseValue_cons (hne 110 (by decide)) (hne 102 (by decide)) (hne 116 (by decide)), if_neg (hne 34 (by decide)),
    if_pos (hc.imp_right Or.inr), hparse]

theorem parseItems_itemsTail {child : List CJson} (hplain : ∀ item ∈ child, item.Plain)
    (h : ∀ item ∈ child, Parses libc fmt item) (fuel : Nat) (hfuel : (itemsTail fmt depth child).length < fuel) :
    parseItems libc fuel (skip (itemsTail fmt depth child ++ t)) = some (normalItems child, t) := by
  induction child generalizing fuel with
  | nil =>
    obtain ⟨fuel, rfl⟩ := Nat.exists_eq_succ_of_ne_zero (Nat.ne_of_gt (Nat.zero_lt_of_lt hfuel))
    rfl
  | cons item child ih =>
    obtain ⟨fuel, rfl⟩ := Nat.exists_eq_succ_of_ne_zero (Nat.ne_of_gt (Nat.zero_lt_of_lt hfuel))
    obtain ⟨c, cs, hcs, hc, -⟩ := printValue_eq_cons fmt depth (hplain item (List.mem_cons_self ..))
    have htext : itemsTail fmt depth (item :: child) =
        44 :: formatted fmt [32] ++ (printValue fmt depth item ++ itemsTail fmt depth child) := by
      rw [← printItems_cons]
      rfl
    have hitem := h item (List.mem_cons_self ..) depth fuel (itemsTail fmt depth child ++ t)
    have hrest := ih (fun i hi => hplain i (List.mem_cons_of_mem _ hi)) (fun i hi => h i (List.mem_cons_of_mem _ hi)) fuel
    rw [htext] at hfuel ⊢
    simp only [List.length_append, List.length_cons] at hfuel
    have hskip : skip (formatted fmt [32] ++ (printValue fmt depth item ++ (itemsTail fmt depth child ++ t))) =
        printValue fmt depth item ++ (itemsTail fmt depth child ++ t) := by
      rw [skip_formatted (by decide), hcs, List.cons_append, skip_cons hc]
    simp only [List.cons_append, List.append_assoc]
    rw [skip_cons (by decide), parseItems, List.head?_cons, if_pos rfl, List.tail_cons, hskip,
      hitem (by omega) (delimited_itemsTail child)]
    dsimp only [bind, Option.bind]
    rw [hrest (by omega)]
    rfl

theorem parseMember_printMember {name : Str} {item : CJson} (hname : 0 ∉ name) (hplain : item.Plain)
    (h : Parses libc fmt item) (depth fuel : Nat) (hfuel : (printMember fmt depth (name, item)).length < fuel) (ht : Delimited t) :
    parseMember libc fuel (skip (printMember fmt depth (name, item) ++ t)) = some (normalMember (name, item), t) := by
  obtain ⟨fuel, rfl⟩ := Nat.exists_eq_succ_of_ne_zero (Nat.ne_of_gt (Nat.zero_lt_of_lt hfuel))
  obtain ⟨c, cs, hcs, hc, -⟩ := printValue_eq_cons fmt depth hplain
  rw [printMember] at hfuel ⊢
  simp only [List.length_append, List.length_cons] at hfuel
  have hskip : skip (formatted fmt (tabs depth) ++ (printString name ++
      58 :: (formatted fmt [9] ++ (printValue fmt depth item ++ t)))) =
      printString name ++ 58 :: (formatted fmt [9] ++ (printValue fmt depth item ++ t)) := by
    rw [skip_formatted fun c hc => mem_tabs hc]
    exact skip_cons (by decide) _
  have hskip' : skip (formatted fmt [9] ++ (printValue fmt depth item ++ t)) = printValue fmt depth item ++ t := by
    rw [skip_formatted (by decide), hcs, List.cons_append, skip_cons hc]
  simp only [List.cons_append, List.append_assoc]
  rw [hskip, parseMember, parseString_printString hname]
  dsimp only [bind, Option.bind]
  rw [skip_cons (by decide), List.head?_cons, if_pos rfl, List.tail_cons, hskip', h depth fuel t (by omega) ht]
  rfl

theorem parseMembers_membersTail {child : List (Str × CJson)} (hname : ∀ m ∈ child, 0 ∉ m.1)
    (hplain : ∀ m ∈ child, m.2.Plain) (h : ∀ m ∈ child, Parses libc fmt m.2) (fuel : Nat)
    (hfuel : (membersTail fmt depth child).length < fuel) :
    parseMembers libc fuel (skip (membersTail fmt depth child ++ t)) = some (normalMembers child, t) := by
  induction child generalizing fuel with
  | nil =>
    obtain ⟨fuel, rfl⟩ := Nat.exists_eq_succ_of_ne_zero (Nat.ne_of_gt (Nat.zero_lt_of_lt hfuel))
    rw [membersTail, if_pos rfl]
    simp only [List.append_assoc]
    rw [skip_formatted (by decide), skip_formatted fun c hc => mem_tabs hc]
    rfl
  | cons m child ih =>
    obtain ⟨fuel, rfl⟩ := Nat.exists_eq_succ_of_ne_zero (Nat.ne_of_gt (Nat.zero_lt_of_lt hfuel))
    obtain ⟨name, item⟩ := m
    have hself : (name, item) ∈ (name, item) :: child := List.mem_cons_self ..
    have htext : membersTail fmt depth ((name, item) :: child) =
        44 :: formatted fmt [10] ++ (printMember fmt depth (name, item) ++ membersTail fmt depth child) := by
      rw [← printMembers_cons]
      rfl
    have hmember := parseMember_printMember (hname _ hself) (hplain _ hself) (h _ hself) depth fuel
      (t := membersTail fmt depth child ++ t)
    dsimp only at hmember
    have hrest := ih (fun i hi => hname i (List.mem_cons_of_mem _ hi)) (fun i hi => hplain i (List.mem_cons_of_mem _ hi))
      (fun i hi => h i (List.mem_cons_of_mem _ hi)) fuel
    rw [htext] at hfuel ⊢
    simp only [List.length_append, List.length_cons] at hfuel
    simp only [List.cons_append, List.append_assoc]
    rw [skip_cons (by decide), parseMembers, List.head?_cons, if_pos rfl, List.tail_cons, skip_formatted (by decide),
      hmember (by omega) (delimited_membersTail child)]
    dsimp only [bind, Option.bind]
    rw [hrest (by omega)]
    rfl

theorem parses_array {child : List CJson} (hplain : ∀ item ∈ child, item.Plain)
    (h : ∀ item ∈ child, Parses libc fmt item) : Parses libc fmt (array child) := by
  intro depth fuel t hfuel ht
  obtain ⟨fuel, rfl⟩ := Nat.exists_eq_succ_of_ne_zero (Nat.ne_of_gt (Nat.zero_lt_of_lt hfuel))
  cases child with
  | nil => rfl
  | cons item child =>
    obtain ⟨c, cs, hcs, hc, hne⟩ :=
      printValue_eq_cons fmt (depth + 1) (hplain item (List.mem_cons_self ..))
    have hitem := h item (List.mem_cons_self ..) (depth + 1) fuel (itemsTail fmt (depth + 1) child ++ t)
    have hrest : (itemsTail fmt (depth + 1) child).length < fuel → _ :=
      parseItems_itemsTail (t := t) (fun i hi => hplain i (List.mem_cons_of_mem _ hi))
        (fun i hi => h i (List.mem_cons_of_mem _ hi)) fuel
    rw [printValue, printItems_cons] at hfuel ⊢
    simp only [List.length_append, List.length_cons] at hfuel
    have hskip : skip (printValue fmt (depth + 1) item ++ (itemsTail fmt (depth + 1) child ++ t)) =
        printValue fmt (depth + 1) item ++ (itemsTail fmt (depth + 1) child ++ t) := by
      rw [hcs, List.cons_append, skip_cons hc]
    have hhead : ¬ (printValue fmt (depth + 1) item ++ (itemsTail fmt (depth + 1) child ++ t)).head? = some 93 := by
      rw [hcs]
      rintro ⟨⟩
      exact hne rfl
    simp only [List.cons_append, List.append_assoc]
    rw [parseValue_cons (by decide) (by decide) (by decide), if_neg (by decide), if_neg (by decide), if_pos rfl, hskip,
      if_neg hhead, hitem (by omega) (delimited_itemsTail child)]
    dsimp only [bind, Option.bind]
    rw [hrest (by omega)]
    rfl

theorem parses_object {child : List (Str × CJson)} (hname : ∀ m ∈ child, 0 ∉ m.1) (hplain : ∀ m ∈ child, m.2.Plain)
    (h : ∀ m ∈ child, Parses libc fmt m.2) : Parses libc fmt (object child) := by
  intro depth fuel t hfuel ht
  obtain ⟨fuel, rfl⟩ := Nat.exists_eq_succ_of_ne_zero (Nat.ne_of_gt (Nat.zero_lt_of_lt hfuel))
  cases child with
  | nil =>
    have hskip : skip (formatted fmt (10 :: tabs (depth - 1)) ++ 125 :: t) = 125 :: t := by
      rw [skip_formatted]
      · exact skip_cons (by decide) _
      · intro c hc
        rcases List.mem_cons.1 hc with rfl | hc
        · decide
        · exact mem_tabs hc
    rw [printValue]
    simp only [List.cons_append, List.append_assoc, List.nil_append]
    rw [parseValue_cons (by decide) (by decide) (by decide), if_neg (by decide), if_neg (by decide), if_neg (by decide),
      if_pos rfl, hskip]
    rfl
  | cons m child =>
    obtain ⟨name, item⟩ := m
    have hself : (name, item) ∈ (name, item) :: child := List.mem_cons_self ..
    have hmember := parseMember_printMember (hname _ hself) (hplain _ hself) (h _ hself) (depth + 1) fuel
      (t := membersTail fmt (depth + 1) child ++ t)
    dsimp only at hmember
    have hrest : (membersTail fmt (depth + 1) child).length < fuel → _ :=
      parseMembers_membersTail (t := t) (fun i hi => hname i (List.mem_cons_of_mem _ hi))
        (fun i hi => hplain i (List.mem_cons_of_mem _ hi)) (fun i hi => h i (List.mem_cons_of_mem _ hi)) fuel
    rw [printValue, printMembers_cons] at hfuel ⊢
    simp only [List.length_append, List.length_cons] at hfuel
    have hhead : ¬ (skip (printMember fmt (depth + 1) (name, item) ++ (membersTail fmt (depth + 1) child ++ t))).head? =
        some 125 := by
      rw [printMember]
      simp only [List.append_assoc]
      rw [skip_formatted fun c hc => mem_tabs hc, printString, List.cons_append, List.cons_append, skip_cons (by decide)]
      rintro ⟨⟩
    simp only [List.cons_append, List.append_assoc]
    rw [parseValue_cons (by decide) (by decide) (by decide), if_neg (by decide), if_neg (by decide), if_neg (by decide),
      if_pos rfl, skip_formatted (by decide), if_neg hhead, hmember (by omega) (delimited_membersTail child)]
    dsimp only [bind, Option.bind]
    rw [hrest (by omega)]
    rfl

theorem Plain.parses {item : CJson} (h : item.Plain) : Parses libc fmt item := by
  induction h with
  | null | false | true =>
    intro depth fuel t hfuel ht
    obtain ⟨fuel, rfl⟩ := Nat.exists_eq_succ_of_ne_zero (Nat.ne_of_gt (Nat.zero_lt_of_lt hfuel))
    rfl
  | number n hint =>
    intro depth fuel t hfuel ht
    obtain ⟨fuel, rfl⟩ := Nat.exists_eq_succ_of_ne_zero (Nat.ne_of_gt (Nat.zero_lt_of_lt hfuel))
    rw [printValue, parseValue_number hint fuel ht, normal, hint.2.1, Double.toInt64_intCast hint.1]
  | string hs =>
    intro depth fuel t hfuel ht
    obtain ⟨fuel, rfl⟩ := Nat.exists_eq_succ_of_ne_zero (Nat.ne_of_gt (Nat.zero_lt_of_lt hfuel))
    rw [printValue]
    have hparse := parseString_printString hs t
    rw [printString, List.cons_append, List.cons_append] at hparse ⊢
    rw [parseValue_cons (by decide) (by decide) (by decide), if_pos rfl, hparse]
    rfl
  | array h ih => exact parses_array h ih
  | object hname h ih => exact parses_object hname h ih

/-- What is printed is parsed, formatted or not. -/
theorem parse_printValue {item : CJson} (h : item.Plain) : parse libc (printValue fmt 0 item) = some item.normal := by
  obtain ⟨c, cs, hcs, hc, -⟩ := printValue_eq_cons fmt 0 h
  have hskip : skip (printValue fmt 0 item) = printValue fmt 0 item := by rw [hcs, skip_cons hc]
  have hparses : parseValue libc _ _ = _ :=
    (h.parses : Parses libc fmt item) 0 ((printValue fmt 0 item).length + 1) [] (Nat.lt_succ_self _) fun c hc => nomatch hc
  rw [List.append_nil] at hparses
  rw [parse, hskip, hparses]
  rfl

/-! ### No control bytes -/

open CString

theorem printable_printNumber (v : Int) (d : Double) : Printable (printNumber v d) := by
  unfold printNumber
  split_ifs
  · exact Printf.printable_lld
  · exact Printf.printable_fixed0
  · exact Printf.printable_scientific6
  · exact Printf.printable_fixed6

theorem printable_printItems {child : List CJson}
    (h : ∀ item ∈ child, ∀ depth, Printable (printValue Bool.false depth item)) :
    Printable (printItems Bool.false depth child) := by
  induction child with
  | nil =>
    rw [printItems]
    decide
  | cons item child ih =>
    have hchild := ih fun i hi => h i (List.mem_cons_of_mem _ hi)
    rw [printItems_cons]
    refine (h item (List.mem_cons_self ..) depth).append ?_
    unfold itemsTail
    split_ifs
    · decide
    · exact .append (.cons (by decide) printable_nil) hchild

theorem printable_printMembers {child : List (Str × CJson)}
    (h : ∀ m ∈ child, ∀ depth, Printable (printValue Bool.false depth m.2)) :
    Printable (printMembers Bool.false depth child) := by
  induction child with
  | nil =>
    rw [printMembers]
    exact .append printable_nil (by decide)
  | cons m child ih =>
    have hchild := ih fun i hi => h i (List.mem_cons_of_mem _ hi)
    rw [printMembers_cons, printMember]
    refine .append (.append (.append (.append printable_nil (printable_printString m.1)) (by decide))
      (h m (List.mem_cons_self ..) depth)) ?_
    unfold membersTail
    split_ifs
    · exact .append printable_nil (by decide)
    · exact .append (.cons (by decide) printable_nil) hchild

/-- The unformatted text of any item has no control bytes. -/
theorem printable_printUnformatted (item : CJson) : Printable (printUnformatted item) := by
  suffices h : ∀ depth, Printable (printValue Bool.false depth item) from h 0
  induction item using CJson.induction with
  | null | false | true =>
    intro depth
    rw [printValue]
    decide
  | number v d =>
    intro depth
    rw [printValue]
    exact printable_printNumber v d
  | string s =>
    intro depth
    rw [printValue]
    exact printable_printString s
  | array child ih =>
    intro depth
    rw [printValue]
    exact .cons (by decide) (printable_printItems ih)
  | object child ih =>
    intro depth
    cases child with
    | nil =>
      rw [printValue]
      exact .append (.cons (by decide) printable_nil) (by decide)
    | cons m child =>
      rw [printValue]
      exact .append (by decide) (printable_printMembers ih)

end V2xHub.CJson
