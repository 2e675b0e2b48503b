import V2xHub.Lib.BitPack
import V2xHub.MapPlugin.Codec

/-!
# Node lists of the codec

The elements of a list have sixteen bits each, or twelve where all of them fit (`isPacked`): then an element may begin within a byte,
and so may what is read (`readElement_bytesFrom`). The loop over the nodes ends behind the last one, but where the end is taken too
late it also wants the list to end with a byte (`decode_nodelist_encode`).
-/

namespace V2xHub.MapPlugin.Codec

open FilledArray

variable {late elev : Bool} {node : Fin map_maxnodes → Node}

/-! ### Elements -/

variable {x y : Int} {l : List Int} {rest : List Nat} {packed : Bool}

theorem read16_bytes16 (hx : IsShort x) : read16 (x / 2 ^ 8 % 2 ^ 8).toNat (x % 2 ^ 8).toNat = x := by
  obtain ⟨hlow, hhigh⟩ := hx
  unfold read16 signedChar
  split_ifs with h
  · omega
  · omega

theorem read32_bytes32 (hx : IsInt x) :
    read32 (x / 2 ^ 24 % 2 ^ 8).toNat (x / 2 ^ 16 % 2 ^ 8).toNat (x / 2 ^ 8 % 2 ^ 8).toNat (x % 2 ^ 8).toNat = x := by
  obtain ⟨hlow, hhigh⟩ := hx
  unfold read32 signedChar
  split_ifs with h
  · omega
  · omega

theorem add16_bytes16 {v : Nat} (hv : v < 2 ^ 16) : add16 0 ((v : Int) / 2 ^ 8 % 2 ^ 8).toNat ((v : Int) % 2 ^ 8).toNat = v := by
  have hhigh : ((v : Int) / 2 ^ 8 % 2 ^ 8).toNat = v / 2 ^ 8 := by omega
  have hlow : ((v : Int) % 2 ^ 8).toNat = v % 2 ^ 8 := by omega
  rw [add16, hhigh, hlow, Nat.zero_or, BitPack.shiftLeft_or (Nat.mod_lt _ (by decide))]
  omega

/-- The bytes of the elements behind one that is begun. -/
def bytesFrom (packed : Bool) (begun : Option Int) (l : List Int) : List Nat := if packed then packFrom begun l else l.flatMap bytes16

/-- The element that is begun behind `y`. -/
def begunBy (packed : Bool) (begun : Option Int) (y : Int) : Option Int := if packed = true ∧ begun = none then some y else none

/-- The numbers that the format has room for. -/
def Fits (packed : Bool) (y : Int) : Prop := if packed then -2048 ≤ y ∧ y ≤ 2047 else IsShort y

theorem readElement_bytesFrom {begun : Option Int} (hy : Fits packed y) (hbegun : packed = false → begun = none) (rest : List Nat) :
    readElement packed begun.isSome (bytesFrom packed begun ([y] ++ l) ++ rest) =
      some (y, ([y].foldl (begunBy packed) begun).isSome, bytesFrom packed ([y].foldl (begunBy packed) begun) l ++ rest) := by
  cases packed with
  | false =>
    obtain rfl := hbegun rfl
    have hread := read16_bytes16 hy
    show some (read16 _ _, _, _) = _
    rw [hread]
    rfl
  | true =>
    obtain ⟨hlow, hhigh⟩ : -2048 ≤ y ∧ y ≤ 2047 := hy
    cases begun with
    | none =>
      obtain ⟨b1, bytes, hbytes, hb1⟩ : ∃ b1 bytes, packFrom (some y) l = b1 :: bytes ∧ ((b1 : Int) / 2 ^ 4 = y % 2 ^ 4) := by
        cases l with
        | nil => exact ⟨_, _, rfl, by omega⟩
        | cons z l => exact ⟨_, _, rfl, by omega⟩
      have hvalue : signedChar (y / 2 ^ 4 % 2 ^ 8).toNat * 0x10 + (b1 : Int) / 2 ^ 4 = y := by
        rw [hb1]
        unfold signedChar
        split_ifs with h
        · omega
        · omega
      show readElement true false ((y / 2 ^ 4 % 2 ^ 8).toNat :: packFrom (some y) l ++ rest) = some (y, true, packFrom (some y) l ++ rest)
      rw [hbytes]
      show some (signedChar (y / 2 ^ 4 % 2 ^ 8).toNat * 0x10 + (b1 : Int) / 2 ^ 4, true, b1 :: (bytes ++ rest)) = _
      rw [hvalue]
      rfl
    | some x =>
      have hvalue : signedChar ((x % 2 ^ 4 * 2 ^ 4 + y / 2 ^ 8 % 2 ^ 4).toNat % 2 ^ 4 * 2 ^ 4) * 0x10 + ((y % 2 ^ 8).toNat : Int) = y := by
        unfold signedChar
        split_ifs with h
        · omega
        · omega
      show some (signedChar ((x % 2 ^ 4 * 2 ^ 4 + y / 2 ^ 8 % 2 ^ 4).toNat % 2 ^ 4 * 2 ^ 4) * 0x10 + ((y % 2 ^ 8).toNat : Int), false,
        packFrom none l ++ rest) = _
      rw [hvalue]
      rfl

theorem begunBy_none {begun : Option Int} (hbegun : packed = false → begun = none) (es : List Int) :
    packed = false → es.foldl (begunBy packed) begun = none := by
  intro hpacked
  induction es generalizing begun with
  | nil => exact hbegun hpacked
  | cons y es ih =>
    refine ih fun _ => ?_
    rw [begunBy, if_neg]
    rintro ⟨htrue, -⟩
    rw [hpacked] at htrue
    exact absurd htrue (by decide)

theorem isSome_begunBy (begun : Option Int) (es : List Int) :
    (es.foldl (begunBy true) begun).isSome = (begun.isSome ^^ decide (es.length % 2 = 1)) := by
  induction es generalizing begun with
  | nil => simp
  | cons y es ih =>
    have hflip : (begunBy true begun y).isSome = !begun.isSome := by
      cases begun with
      | none => rfl
      | some x => rfl
    have hparity : decide ((y :: es).length % 2 = 1) = !decide (es.length % 2 = 1) := by
      rw [← decide_not, decide_eq_decide, List.length_cons]
      omega
    rw [List.foldl_cons, ih, hflip, hparity, Bool.not_xor, Bool.xor_not]

theorem readOptional_bytesFrom {begun : Option Int} {present : Bool} {old : Int} (hy : present = true → Fits packed y)
    (hold : present = false → old = y) (hbegun : packed = false → begun = none) (rest : List Nat) :
    readOptional present packed begun.isSome old (bytesFrom packed begun ((if present then [y] else []) ++ l) ++ rest) =
      some (y, ((if present then [y] else []).foldl (begunBy packed) begun).isSome,
        bytesFrom packed ((if present then [y] else []).foldl (begunBy packed) begun) l ++ rest) := by
  cases present with
  | true => exact readElement_bytesFrom (hy rfl) hbegun rest
  | false =>
    rw [hold rfl]
    rfl

/-- What the flags leave out was there before. -/
structure Preset (f : NodeFormat) (old x : Node) : Prop where
  elevation : f.elev = false → old.elevation = x.elevation
  width : f.width = false → old.width = x.width

theorem readNode_bytesFrom {f : NodeFormat} {begun : Option Int} {old x : Node} (hx : ∀ y ∈ x.elements f.elev f.width, Fits f.packed y)
    (hold : Preset f old x) (hbegun : f.packed = false → begun = none) (rest : List Nat) :
    readNode f begun.isSome old (bytesFrom f.packed begun (x.elements f.elev f.width ++ l) ++ rest) =
      some (x, ((x.elements f.elev f.width).foldl (begunBy f.packed) begun).isSome,
        bytesFrom f.packed ((x.elements f.elev f.width).foldl (begunBy f.packed) begun) l ++ rest) := by
  have hsplit : x.elements f.elev f.width =
      [x.eastern] ++ ([x.northern] ++ ((if f.elev then [x.elevation] else []) ++ if f.width then [x.width] else [])) := rfl
  have heastern : Fits f.packed x.eastern := hx _ (by simp [Node.elements])
  have hnorthern : Fits f.packed x.northern := hx _ (by simp [Node.elements])
  have helevation (h : f.elev = true) : Fits f.packed x.elevation := hx _ (by simp [Node.elements, h])
  have hwidth (h : f.width = true) : Fits f.packed x.width := hx _ (by simp [Node.elements, h])
  rw [hsplit, List.foldl_append, List.foldl_append, List.foldl_append, List.append_assoc, List.append_assoc, List.append_assoc]
  have hbegun1 := begunBy_none hbegun [x.eastern]
  have hbegun2 := begunBy_none hbegun1 [x.northern]
  have hbegun3 := begunBy_none hbegun2 (if f.elev then [x.elevation] else [])
  unfold readNode
  rw [readElement_bytesFrom heastern hbegun, Option.bind_some]
  dsimp only
  rw [readElement_bytesFrom hnorthern hbegun1, Option.bind_some]
  dsimp only
  rw [readOptional_bytesFrom helevation hold.elevation hbegun2, Option.bind_some]
  dsimp only
  rw [readOptional_bytesFrom hwidth hold.width hbegun3]
  rfl

/-! ### Lists of nodes -/

theorem two_le_length {packed : Bool} {begun : Option Int} (hbegun : packed = false → begun = none) {l : List Int} (hl : 2 ≤ l.length) :
    2 ≤ (bytesFrom packed begun l).length := by
  obtain ⟨y, z, l, rfl⟩ : ∃ y z l', l = y :: z :: l' := by
    match l, hl with
    | y :: z :: l, _ => exact ⟨y, z, l, rfl⟩
  cases packed with
  | false =>
    show 2 ≤ (bytes16 y ++ (bytes16 z ++ l.flatMap bytes16)).length
    simp [bytes16]
  | true =>
    cases begun with
    | none =>
      show 2 ≤ (_ :: _ :: _ :: packFrom none l).length
      simp
    | some x =>
      show 2 ≤ (_ :: _ :: packFrom none (z :: l)).length
      simp

theorem length_elements (f : NodeFormat) (x : Node) : 2 ≤ (x.elements f.elev f.width).length ∧ (x.elements f.elev f.width).length ≤ 4 := by
  cases helev : f.elev <;> cases hwidth : f.width <;> simp [Node.elements]

/-- What is left behind the last element: half of a byte, or nothing. -/
def leftover (packed : Bool) (l : List Int) : List Nat := bytesFrom packed (l.foldl (begunBy packed) none) []

theorem readNodes_bytesFrom {f : NodeFormat} {x : Fin map_maxnodes → Node} {length stop e : Nat} {rest : List Nat} (he : e ≤ 1)
    (hstop : stop = length + rest.length + e) (unused : List (Fin map_maxnodes)) :
    ∀ (used : List (Fin map_maxnodes)) (begun : Option Int) (node : Fin map_maxnodes → Node), used ≠ [] → used.Nodup →
      (∀ n ∈ used, ∀ y ∈ (x n).elements f.elev f.width, Fits f.packed y) → (∀ n ∈ used, Preset f (node n) (x n)) →
      (f.packed = false → begun = none) →
      (bytesFrom f.packed ((used.flatMap fun n => (x n).elements f.elev f.width).foldl (begunBy f.packed) begun) []).length ≤ e →
      readNodes f length stop (used ++ unused) begun.isSome node
          (bytesFrom f.packed begun (used.flatMap fun n => (x n).elements f.elev f.width) ++ rest) =
        some ((fun n => if n ∈ used then x n else node n),
          bytesFrom f.packed ((used.flatMap fun n => (x n).elements f.elev f.width).foldl (begunBy f.packed) begun) [] ++ rest) := by
  intro used
  induction used with
  | nil => exact fun _ _ h => absurd rfl h
  | cons n used ih =>
    intro begun node _ hnodup hfits hpreset hbegun hleft
    obtain ⟨hn, hnodup⟩ := List.nodup_cons.mp hnodup
    rw [List.flatMap_cons, List.foldl_append] at hleft ⊢
    rw [List.cons_append, readNodes]
    have hread := readNode_bytesFrom (l := used.flatMap fun n => (x n).elements f.elev f.width) (hfits n List.mem_cons_self)
      (hpreset n List.mem_cons_self) hbegun rest
    rw [hread, Option.bind_some]
    have hbegun' := begunBy_none hbegun ((x n).elements f.elev f.width)
    dsimp only
    rcases eq_or_ne used [] with rfl | hused
    · have hlength : ¬ (bytesFrom f.packed (((x n).elements f.elev f.width).foldl (begunBy f.packed) begun) [] ++ rest).length + length >
          stop := by
        have hleft' : (bytesFrom f.packed (((x n).elements f.elev f.width).foldl (begunBy f.packed) begun) []).length ≤ e := hleft
        rw [List.length_append]
        omega
      rw [List.flatMap_nil, if_neg hlength]
      refine congrArg some (Prod.ext (funext fun n' => ?_) rfl)
      show Function.update node n (x n) n' = if n' ∈ [n] then x n' else node n'
      by_cases h : n' = n
      · rw [h, Function.update_self, if_pos List.mem_cons_self]
      · rw [Function.update_of_ne h, if_neg (by simpa using h)]
    · obtain ⟨n₂, used₂, rfl⟩ := List.exists_cons_of_ne_nil hused
      have hmore : (bytesFrom f.packed (((x n).elements f.elev f.width).foldl (begunBy f.packed) begun)
          ((n₂ :: used₂).flatMap fun n => (x n).elements f.elev f.width) ++ rest).length + length > stop := by
        have htwo := two_le_length hbegun' (l := (n₂ :: used₂).flatMap fun n => (x n).elements f.elev f.width) (by
          rw [List.flatMap_cons, List.length_append]
          exact Nat.le_add_right_of_le (length_elements f (x n₂)).1)
        rw [List.length_append]
        omega
      rw [if_pos hmore, ih _ _ hused hnodup (fun n' h => hfits n' (List.mem_cons_of_mem _ h)) ?_ hbegun' hleft]
      · refine congrArg some (Prod.ext (funext fun n' => ?_) rfl)
        show (if n' ∈ n₂ :: used₂ then x n' else Function.update node n (x n) n') = if n' ∈ n :: n₂ :: used₂ then x n' else node n'
        by_cases h : n' = n
        · obtain rfl := h
          rw [if_neg hn, Function.update_self, if_pos List.mem_cons_self]
        · rw [Function.update_of_ne h, if_congr ((List.mem_cons (a := n')).trans (or_iff_right h)) rfl rfl]
      · intro n' h
        rw [Function.update_of_ne (ne_of_mem_of_not_mem h hn)]
        exact hpreset n' (List.mem_cons_of_mem _ h)

theorem length_packFrom_le (begun : Option Int) (l : List Int) : (packFrom begun l).length ≤ 2 * l.length + 1 := by
  fun_induction packFrom begun l with
  | case1 => exact Nat.zero_le _
  | case2 x l ih => simp only [List.length_cons]; omega
  | case3 x => exact le_rfl
  | case4 x y l ih => simp only [List.length_cons]; omega

theorem length_bytesFrom_le (packed : Bool) (l : List Int) : (bytesFrom packed none l).length ≤ 2 * l.length + 1 := by
  cases packed with
  | true => exact length_packFrom_le none l
  | false =>
    show (l.flatMap bytes16).length ≤ _
    induction l with
    | nil => exact Nat.zero_le _
    | cons x l ih =>
      rw [List.flatMap_cons, List.length_append, List.length_cons]
      exact Nat.le_trans (Nat.add_le_add_left ih 2) (by omega)

theorem length_flatMap_le {α β : Type} {c : Nat} {f : α → List β} (hf : ∀ a, (f a).length ≤ c) (l : List α) :
    (l.flatMap f).length ≤ l.length * c := by
  induction l with
  | nil => exact Nat.zero_le _
  | cons a l ih =>
    rw [List.flatMap_cons, List.length_append, List.length_cons, Nat.succ_mul, Nat.add_comm]
    exact Nat.add_le_add ih (hf a)

theorem length_nodelist_le (elev : Bool) (node : Fin map_maxnodes → Node) : (nodelist elev node).length ≤ 80 := by
  have hle := length_flatMap_le (fun n => (length_elements ⟨elev, hasWidth node, false⟩ (node n)).2)
    ((List.finRange map_maxnodes).filter fun n => (node n).northern ≠ 0 ∧ (node n).eastern ≠ 0)
  have hcount := List.length_filter_le (fun n => decide ((node n).northern ≠ 0 ∧ (node n).eastern ≠ 0)) (List.finRange map_maxnodes)
  rw [List.length_finRange] at hcount
  exact hle.trans (Nat.mul_le_mul_right 4 hcount)

theorem mem_nodelist {y : Int} (hy : y ∈ nodelist elev node) : ∃ n, y ∈ (node n).elements elev (hasWidth node) := by
  obtain ⟨n, -, h⟩ := List.mem_flatMap.mp hy
  exact ⟨n, h⟩

theorem isShort_elements {n : Node} (hn : n.InRange) (elev width : Bool) : ∀ y ∈ n.elements elev width, IsShort y := by
  intro y hy
  have hmem : y = n.eastern ∨ y = n.northern ∨ y = n.elevation ∨ y = n.width := by
    unfold Node.elements at hy
    cases elev <;> cases width <;> simp at hy <;> tauto
  obtain rfl | rfl | rfl | rfl := hmem
  · exact hn.eastern
  · exact hn.northern
  · exact hn.elevation
  · exact hn.width

theorem isShort_nodelist (hrange : ∀ n, (node n).InRange) : ∀ y ∈ nodelist elev node, IsShort y := by
  intro y hy
  obtain ⟨n, h⟩ := mem_nodelist hy
  exact isShort_elements (hrange n) _ _ y h

theorem limit_eq {x : Int} (hx : IsShort x) : limit x = x := by
  obtain ⟨hlow, hhigh⟩ := hx
  unfold limit
  split_ifs <;> omega

theorem map_limit (hrange : ∀ n, (node n).InRange) : (nodelist elev node).map limit = nodelist elev node :=
  (List.map_congr_left fun y hy => limit_eq (isShort_nodelist hrange y hy)).trans (List.map_id _)

theorem fits_nodelist (hrange : ∀ n, (node n).InRange) : ∀ y ∈ nodelist elev node, Fits (isPacked (nodelist elev node)) y := by
  intro y hy
  cases hpacked : isPacked (nodelist elev node) with
  | false => exact isShort_nodelist hrange y hy
  | true =>
    have h := List.all_eq_true.mp hpacked y hy
    simp only [decide_eq_true_eq, not_or] at h
    exact ⟨by omega, by omega⟩

theorem hasFlag_attributes (width packed : Bool) :
    hasFlag ((if width then 1 else 0) + if packed then 2 else 0) 1 = width ∧
      hasFlag ((if width then 1 else 0) + if packed then 2 else 0) 2 = packed := by
  cases width <;> cases packed <;> exact ⟨by decide, by decide⟩

theorem width_eq_zero (h : hasWidth node = false) (n : Fin map_maxnodes) : (node n).width = 0 := by
  by_contra hne
  rw [hasWidth, List.any_eq_false] at h
  exact h n (List.mem_finRange n) (decide_eq_true hne)

theorem length_leftover_le (l : List Int) : (leftover packed l).length ≤ 1 := by
  unfold leftover
  cases packed with
  | false => exact Nat.zero_le _
  | true =>
    cases l.foldl (begunBy true) none with
    | none => exact Nat.zero_le _
    | some x => exact le_rfl

theorem leftover_nil {l : List Int} (h : packed = true → l.length % 2 = 0) : leftover packed l = [] := by
  unfold leftover
  cases packed with
  | false => rfl
  | true =>
    have hnone := isSome_begunBy none l
    rw [h rfl] at hnone
    cases hbegun : l.foldl (begunBy true) none with
    | none => rfl
    | some x =>
      rw [hbegun] at hnone
      simp at hnone

theorem decode_nodelist_encode (hkept : NodesKept late elev node) (hrange : ∀ n, (node n).InRange) (rest : List Nat) :
    decode_nodelist late elev (fun _ => {}) ((encode_nodelist elev node).length % 2 ^ 8 :: encode_nodelist elev node ++ rest) =
      some (node, leftover (isPacked (nodelist elev node)) (nodelist elev node) ++ rest) := by
  set l := nodelist elev node with hl
  have hencode : encode_nodelist elev node =
      ((if hasWidth node then 1 else 0) + if isPacked l then 2 else 0) :: bytesFrom (isPacked l) none l := by
    show _ :: elementBytes (isPacked l) (l.map limit) = _
    rw [map_limit hrange]
    rfl
  have hlength : (encode_nodelist elev node).length % 2 ^ 8 = (bytesFrom (isPacked l) none l).length + 1 := by
    have hle := length_bytesFrom_le (isPacked l) l
    have hcount : l.length ≤ 80 := length_nodelist_le elev node
    rw [hencode, List.length_cons]
    exact Nat.mod_eq_of_lt (by omega)
  obtain ⟨hwidth, hpacked⟩ := hasFlag_attributes (hasWidth node) (isPacked l)
  rw [hlength, hencode, List.cons_append, List.cons_append]
  show readNodes ⟨elev, hasFlag _ 1, hasFlag _ 2⟩ _ _ _ _ _ _ = _
  rw [hwidth, hpacked]
  let used := (List.finRange map_maxnodes).filter fun n => (node n).northern ≠ 0 ∧ (node n).eastern ≠ 0
  have hmem (n : Fin map_maxnodes) : n ∈ used ↔ (node n).IsUsed := by
    simp [used, Node.IsUsed]
  have hempty : ¬ Node.IsUsed {} := fun h => h.1 rfl
  obtain ⟨unused, hslots⟩ := exists_finRange_eq_append (fun n => decide ((node n).northern ≠ 0 ∧ (node n).eastern ≠ 0))
    fun i j hij hi => decide_eq_true (p := (node j).northern ≠ 0 ∧ (node j).eastern ≠ 0)
      (hkept.filled.of_le hempty (of_decide_eq_true (p := (node i).northern ≠ 0 ∧ (node i).eastern ≠ 0) hi) hij)
  have hused : used ≠ [] := List.ne_nil_of_mem ((hmem 0).mpr hkept.first)
  have hpreset : ∀ n ∈ used, Preset ⟨elev, hasWidth node, isPacked l⟩ {} (node n) := fun n _ =>
    ⟨fun h => (hkept.elevation h n).symm, fun h => (width_eq_zero h n).symm⟩
  have hfits : ∀ n ∈ used, ∀ y ∈ (node n).elements elev (hasWidth node), Fits (isPacked l) y := fun n hn y hy =>
    fits_nodelist hrange y (List.mem_flatMap.mpr ⟨n, hn, hy⟩)
  have hleft : (leftover (isPacked l) l).length ≤ if late then 0 else 1 := by
    cases late with
    | false => exact length_leftover_le l
    | true => rw [leftover_nil (hkept.whole rfl)]; exact le_rfl
  have hstop : (bytesFrom (isPacked l) none l ++ rest).length + (if late then 1 else 2) =
      (bytesFrom (isPacked l) none l).length + 1 + rest.length + if late then 0 else 1 := by
    rw [List.length_append]
    cases late with
    | false => simp only [Bool.false_eq_true, if_false]; omega
    | true => simp only [if_true]; omega
  have hread := readNodes_bytesFrom (f := ⟨elev, hasWidth node, isPacked l⟩) (x := node) (by cases late <;> decide) hstop unused used none
    (fun _ => {}) hused ((List.nodup_finRange _).filter _) hfits hpreset (fun _ => rfl) hleft
  rw [← hslots] at hread
  refine hread.trans (congrArg some (Prod.ext (funext fun n => ?_) rfl))
  show (if n ∈ used then node n else {}) = node n
  split_ifs with h
  · rfl
  · rcases hkept.filled n with hn | hn
    · exact hn.symm
    · exact absurd ((hmem n).mpr (hn n le_rfl)) h

end V2xHub.MapPlugin.Codec
