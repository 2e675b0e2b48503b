import V2xHub.MapPlugin.Codec
import V2xHub.Lib.CyclicCode

/-!
# The integrity of blobs (`blob_initialize`)

A blob ends with its redundancy check, that of the polynomial 0x1021, with a table in place of its bits (`crc_ccitt_eq`).
`blob_initialize` takes the blob that `map_encode` made. It finds each burst of 16 bits at most, but for those in the two bytes
that say how far the check goes: with another size it checks other bytes.
-/

namespace V2xHub.MapPlugin.Codec

/-! ### The check -/

/-- The polynomial without the bit that leaves the register. -/
def ccittLow : BitVec 16 := 0x1021#16

/-- The check bit by bit. -/
def ccitt (bytes : List (BitVec 8)) : BitVec 16 := bytes.foldl (Cyclic.enter ccittLow) 0

def IsBytes (l : List Nat) : Prop := ∀ b ∈ l, b < 2 ^ 8

/-- The bytes as they are stored. -/
def stored (l : List Nat) : List (BitVec 8) := l.map (BitVec.ofNat 8)

def bits (l : List Nat) : List Bool := Cyclic.bits (stored l)

structure Bblob where
  size : Nat
  /-- The bytes that `pblob` points to, if it is not `NULL`. -/
  pblob : Option (List Nat)
  messageid : Nat
  version : Nat

/-- Behind the bytes that are there it is undefined. -/
def blob_initialize : List Nat → Option Bblob
  | 0 :: _ => some ⟨0, none, 0, 0⟩
  | messageid :: version :: b2 :: b3 :: rest =>
    let pblob := messageid :: version :: b2 :: b3 :: rest
    let size := b2 * 0x0100 + b3 + 6
    if size ≤ pblob.length then
      if crc_ccitt (pblob.take size) ≠ 0 then some ⟨size, some pblob, 0, 0⟩ else some ⟨size, some pblob, messageid, version⟩
    else none
  | _ => none

/-- The two bytes that have the size. -/
def sizeField (l : List Nat) : List Nat := (l.drop 2).take 2

/-- There is no message. -/
def Rejected (payload : Option Bblob) : Prop := ∃ p, payload = some p ∧ p.messageid = 0 ∧ p.version = 0

variable {l l' : List Nat}

theorem crc_table_eq (i : BitVec 8) : crc_table i.toNat = (Cyclic.table ccittLow i).toNat := by
  have h : ∀ n < 256, crc_table n = (Cyclic.table ccittLow (BitVec.ofNat 8 n)).toNat := by decide +kernel
  have := h i.toNat i.isLt
  rwa [BitVec.ofNat_toNat, BitVec.setWidth_eq] at this

/-- A byte enters the register by the table. -/
theorem crc_update_eq (r : BitVec 16) (c : BitVec 8) : crc_update r.toNat c.toNat = (Cyclic.enter ccittLow r c).toNat := by
  have hindex : (r.toNat >>> 8) ^^^ c.toNat = ((r >>> 8).setWidth 8 ^^^ c).toNat := by
    have hlt : r.toNat >>> 8 < 2 ^ 8 := by
      rw [Nat.shiftRight_eq_div_pow]
      have := r.isLt
      omega
    rw [BitVec.toNat_xor, BitVec.toNat_setWidth, BitVec.toNat_ushiftRight, Nat.mod_eq_of_lt hlt]
  rw [crc_update, hindex, crc_table_eq, Cyclic.enter_eq (by decide), BitVec.toNat_xor, BitVec.toNat_shiftLeft]

theorem crc_ccitt_eq (h : IsBytes l) : crc_ccitt l = (ccitt (stored l)).toNat := by
  have hfold : ∀ r : BitVec 16, l.foldl crc_update r.toNat = ((stored l).foldl (Cyclic.enter ccittLow) r).toNat := by
    induction l with
    | nil => exact fun r => rfl
    | cons b l ih =>
      intro r
      obtain ⟨hb, hl⟩ := List.forall_mem_cons.mp h
      have hstored : b = (BitVec.ofNat 8 b).toNat := by
        rw [BitVec.toNat_ofNat, Nat.mod_eq_of_lt hb]
      rw [List.foldl_cons, hstored, crc_update_eq, ih hl, ← hstored]
      rfl
  exact hfold 0

theorem bytes16_eq (r : BitVec 16) : bytes16 r.toNat = [((r >>> 8).setWidth 8).toNat, (r.setWidth 8).toNat] := by
  rw [bytes16, BitVec.toNat_setWidth, BitVec.toNat_setWidth, BitVec.toNat_ushiftRight, Nat.shiftRight_eq_div_pow]
  congr 1

theorem isBytes_bytes16 (v : Int) : IsBytes (bytes16 v) := by
  intro b hb
  simp only [bytes16, List.mem_cons, List.not_mem_nil, or_false] at hb
  omega

theorem isBytes_append : IsBytes (l ++ l') ↔ IsBytes l ∧ IsBytes l' := List.forall_mem_append

theorem isBytes_cons {b : Nat} : IsBytes (b :: l) ↔ b < 2 ^ 8 ∧ IsBytes l := List.forall_mem_cons

/-- Behind its check a message leaves nothing. -/
theorem crc_ccitt_append (h : IsBytes l) : crc_ccitt (l ++ bytes16 (crc_ccitt l)) = 0 := by
  have hupper : Cyclic.enter ccittLow (ccitt (stored l)) (((ccitt (stored l)) >>> 8).setWidth 8) = ccitt (stored l) <<< 8 :=
    Cyclic.enter_upper (by decide) ccittLow _
  have hmoved : (ccitt (stored l)).setWidth 8 = ((ccitt (stored l) <<< 8) >>> 8).setWidth 8 := by
    ext i hi
    have hlt : 8 + i < 16 := by omega
    simp [hlt, BitVec.getLsbD_eq_getElem (show i < 16 by omega)]
  have hlower : Cyclic.enter ccittLow (ccitt (stored l) <<< 8) ((ccitt (stored l)).setWidth 8) = ccitt (stored l) <<< 8 <<< 8 := by
    rw [hmoved]
    exact Cyclic.enter_upper (by decide) ccittLow _
  have hclear : ccitt (stored l) <<< 8 <<< 8 = 0 := by
    rw [← BitVec.shiftLeft_add]
    exact BitVec.shiftLeft_eq_zero (le_refl 16)
  have hsplit : crc_ccitt (l ++ bytes16 (crc_ccitt l)) = (bytes16 (crc_ccitt l)).foldl crc_update (crc_ccitt l) := List.foldl_append
  rw [hsplit, crc_ccitt_eq h, bytes16_eq, List.foldl_cons, List.foldl_cons, List.foldl_nil, crc_update_eq, hupper, crc_update_eq,
    hlower, hclear]
  rfl

/-! ### Bytes of a map -/

theorem isBytes_bytes32 (v : Int) : IsBytes (bytes32 v) := by
  intro b hb
  simp only [bytes32, List.mem_cons, List.not_mem_nil, or_false] at hb
  omega

theorem isBytes_flatMap {α : Type*} {as : List α} {f : α → List Nat} (h : ∀ a ∈ as, IsBytes (f a)) : IsBytes (as.flatMap f) := by
  intro b hb
  obtain ⟨a, ha, hmem⟩ := List.mem_flatMap.mp hb
  exact h a ha b hmem

theorem isBytes_ite {p : Prop} [Decidable p] (h : p → IsBytes l) : IsBytes (if p then l else []) := by
  split_ifs with hp
  · exact h hp
  · exact List.forall_mem_nil _

theorem isBytes_object {id : Nat} (hid : id < 2 ^ 8) (h : IsBytes l) : IsBytes (object id l) :=
  isBytes_cons.mpr ⟨hid, isBytes_cons.mpr ⟨Nat.mod_lt _ (by decide), h⟩⟩

theorem isBytes_packFrom (begun : Option Int) (xs : List Int) : IsBytes (packFrom begun xs) := by
  induction begun, xs using packFrom.induct with
  | case1 => exact List.forall_mem_nil _
  | case2 x xs ih => exact isBytes_cons.mpr ⟨by omega, ih⟩
  | case3 x => exact isBytes_cons.mpr ⟨by omega, List.forall_mem_nil _⟩
  | case4 x y xs ih => exact isBytes_cons.mpr ⟨by omega, isBytes_cons.mpr ⟨by omega, ih⟩⟩

theorem isBytes_encode_nodelist (elev : Bool) (node : Fin map_maxnodes → Node) : IsBytes (encode_nodelist elev node) := by
  refine isBytes_cons.mpr ⟨by split_ifs <;> decide, ?_⟩
  rw [elementBytes]
  split_ifs
  · exact isBytes_packFrom none _
  · exact isBytes_flatMap fun v _ => isBytes_bytes16 v

theorem isBytes_widthObject (width : Nat) : IsBytes (widthObject width) :=
  isBytes_ite fun _ => isBytes_object (by decide) (isBytes_bytes16 width)

theorem isBytes_laneObjects (elev : Bool) {l : Lane} (h : l.InRange) : IsBytes (laneObjects elev l) := by
  have hstart : IsBytes (object 5 [l.number, l.type]) :=
    isBytes_object (by decide) (isBytes_cons.mpr ⟨h.number, isBytes_cons.mpr ⟨h.type, List.forall_mem_nil _⟩⟩)
  have hconnections : IsBytes ((List.finRange map_maxconnections).flatMap fun c => connectionObject (l.connection c)) := by
    refine isBytes_flatMap fun c _ => isBytes_ite fun _ => ?_
    obtain ⟨hlanenumber, -, hid⟩ := h.connection c
    intro b hb
    simp only [List.mem_cons, List.not_mem_nil, or_false] at hb
    omega
  rw [laneObjects, isBytes_append, isBytes_append, isBytes_append, isBytes_append]
  refine ⟨⟨⟨⟨hstart, isBytes_object (by decide) (isBytes_bytes16 _)⟩, isBytes_widthObject _⟩, ?_⟩, hconnections⟩
  split_ifs
  · exact isBytes_object (by decide) (isBytes_cons.mpr ⟨h.referencelane.1, isBytes_bytes16 _⟩)
  · exact isBytes_object (by decide) (isBytes_encode_nodelist elev _)

theorem isBytes_groupObjects (elev : Bool) {d : Nat} (hd : d < 2 ^ 8) {pg : Group} (h : pg.InRange) :
    IsBytes (groupObjects elev d pg) := by
  refine isBytes_ite fun _ => ?_
  rw [isBytes_append, isBytes_append]
  refine ⟨⟨isBytes_object (by decide) (List.forall_mem_singleton.mpr hd), isBytes_widthObject _⟩, ?_⟩
  exact isBytes_flatMap fun l _ => isBytes_ite fun _ => isBytes_laneObjects elev (h.lane l)

theorem isBytes_barrierObjects (elev : Bool) (pb : Barrier) : IsBytes (barrierObjects elev pb) := by
  refine isBytes_ite fun _ => ?_
  rw [isBytes_append, isBytes_append, isBytes_append]
  exact ⟨⟨⟨isBytes_object (by decide) (List.forall_mem_singleton.mpr (by decide)), isBytes_object (by decide) (isBytes_bytes16 _)⟩,
    isBytes_widthObject _⟩, isBytes_object (by decide) (isBytes_encode_nodelist elev _)⟩

theorem isBytes_geometryObjects (elev : Bool) {geometry : Geometry} (h : geometry.InRange) :
    IsBytes (geometryObjects elev geometry) := by
  refine isBytes_ite fun _ => ?_
  rw [isBytes_append, isBytes_append, isBytes_append]
  refine ⟨⟨⟨isBytes_object (by decide) ?_, isBytes_groupObjects elev (by decide) h.approach⟩,
    isBytes_groupObjects elev (by decide) h.egress⟩, isBytes_flatMap fun b _ => isBytes_barrierObjects elev _⟩
  rw [isBytes_append, isBytes_append]
  exact ⟨⟨isBytes_bytes32 _, isBytes_bytes32 _⟩, isBytes_ite fun _ => isBytes_bytes16 _⟩

theorem isBytes_mapObjects {m : Map} (h : m.InRange) : IsBytes (mapObjects m) := by
  rw [mapObjects, isBytes_append, isBytes_append]
  refine ⟨⟨isBytes_object (by decide) (List.forall_mem_singleton.mpr ?_), isBytes_object (by decide) ?_⟩,
    isBytes_flatMap fun g _ => isBytes_geometryObjects _ (h.geometry g)⟩
  · rw [attributesValue]
    split_ifs <;> decide
  · intro b hb
    obtain ⟨j, -, rfl⟩ := List.mem_map.mp hb
    exact lt_of_le_of_lt (Nat.shiftRight_le _ _) (Nat.mod_lt _ (by decide))

/-! ### Blobs -/

theorem length_bits (l : List Nat) : (bits l).length = 8 * l.length := by
  unfold bits stored Cyclic.bits
  induction l with
  | nil => rfl
  | cons b l ih =>
    rw [List.map_cons, List.flatMap_cons, List.length_append, ih, Cyclic.wordBits, List.length_ofFn, List.length_cons]
    ring

/-- A blob with a burst is not a blob with the same check. -/
theorem crc_ccitt_burst (hl : IsBytes l) (hl' : IsBytes l') (h : Cyclic.Burst 16 (bits l) (bits l')) :
    crc_ccitt l ≠ crc_ccitt l' := by
  rw [crc_ccitt_eq hl, crc_ccitt_eq hl']
  intro heq
  exact Cyclic.foldl_enter_burst (by decide) (by decide) h (BitVec.eq_of_toNat_eq heq)

/-- What is encoded: the header with the size, and the check at the end. -/
theorem map_encode_eq {m : Map} (hm : m.InRange) {content_version : Nat} (hv : content_version < 2 ^ 8) {blob : List Nat}
    (h : map_encode m content_version = some blob) :
    IsBytes blob ∧ crc_ccitt blob = 0 ∧
      ∃ b2 b3 rest, blob = 0x87 :: content_version :: b2 :: b3 :: rest ∧ b2 * 0x0100 + b3 + 6 = blob.length := by
  rw [map_encode] at h
  split_ifs at h with hlength
  obtain rfl := Option.some.inj h
  have hobjects : IsBytes (mapObjects m ++ [255]) :=
    isBytes_append.mpr ⟨isBytes_mapObjects hm, List.forall_mem_singleton.mpr (by decide)⟩
  have hmessage : IsBytes (0x87 :: content_version :: bytes16 (mapObjects m ++ [255]).length ++ (mapObjects m ++ [255])) :=
    isBytes_append.mpr ⟨isBytes_cons.mpr ⟨by decide, isBytes_cons.mpr ⟨hv, isBytes_bytes16 _⟩⟩, hobjects⟩
  refine ⟨isBytes_append.mpr ⟨hmessage, isBytes_bytes16 _⟩, crc_ccitt_append hmessage, _, _, _, rfl, ?_⟩
  simp only [bytes16, List.length_append, List.length_cons, List.length_nil, List.cons_append] at hlength ⊢
  omega

theorem blob_initialize_eq {b0 b1 b2 b3 : Nat} {rest : List Nat} (h0 : b0 ≠ 0)
    (hlength : b2 * 0x0100 + b3 + 6 = (b0 :: b1 :: b2 :: b3 :: rest).length) :
    blob_initialize (b0 :: b1 :: b2 :: b3 :: rest) =
      some (if crc_ccitt (b0 :: b1 :: b2 :: b3 :: rest) ≠ 0 then ⟨b2 * 0x0100 + b3 + 6, some (b0 :: b1 :: b2 :: b3 :: rest), 0, 0⟩
        else ⟨b2 * 0x0100 + b3 + 6, some (b0 :: b1 :: b2 :: b3 :: rest), b0, b1⟩) := by
  cases b0 with
  | zero => exact absurd rfl h0
  | succ b0 =>
    rw [ blob_initialize, if_pos hlength.le, hlength, List.take_length]
    · split_ifs
      · rfl
      · rfl
    · exact Nat.succ_ne_zero b0

/-- The blob of a map is taken as it is. With a burst of 16 bits at most, which leaves the size alone, it is rejected. The check
by the table is the check bit by bit. -/
theorem map_encode_integrity (m : Map) (hm : m.InRange) (content_version : Nat) (hv : content_version < 2 ^ 8) (blob : List Nat)
    (h : map_encode m content_version = some blob) (l : List Nat) (hl : IsBytes l) :
    (∃ p, blob_initialize blob = some p ∧ p.size = blob.length ∧ p.messageid = 0x87 ∧ p.version = content_version) ∧
      crc_ccitt blob = 0 ∧
      (Cyclic.Burst 16 (bits blob) (bits l) → sizeField l = sizeField blob → Rejected ( blob_initialize l)) ∧
      crc_ccitt l = (ccitt (stored l)).toNat := by
  obtain ⟨hbytes, hcrc, b2, b3, rest, rfl, hlength⟩ := map_encode_eq hm hv h
  refine ⟨⟨_, blob_initialize_eq (by decide) hlength, ?_⟩, hcrc, fun hburst hsize => ?_, crc_ccitt_eq hl⟩
  · rw [if_neg (not_not.mpr hcrc)]
    exact ⟨hlength, rfl, rfl⟩
  · have hsame : l.length = (0x87 :: content_version :: b2 :: b3 :: rest).length := by
      have hbits := hburst.length_eq
      rw [length_bits, length_bits] at hbits
      omega
    match l with
    | 0 :: _ => exact ⟨_, rfl, rfl, rfl⟩
    | (b0 + 1) :: b1 :: b2' :: b3' :: rest' =>
      obtain ⟨rfl, hb3⟩ := List.cons.inj hsize
      obtain rfl := List.singleton_inj.mp hb3
      have hne : crc_ccitt ((b0 + 1) :: b1 :: b2' :: b3' :: rest') ≠ 0 := by
        rw [← hcrc]
        exact (crc_ccitt_burst hbytes hl hburst).symm
      refine ⟨_, blob_initialize_eq (Nat.succ_ne_zero b0) (hlength.trans hsame.symm), ?_⟩
      rw [if_pos hne]
      exact ⟨rfl, rfl⟩
    | [] | [_ + 1] | [_ + 1, _] | [_ + 1, _, _] => simp at hsame

/-- A map without geometries. -/
def withoutGeometries : Map := { attributes := 12, intersectionid := 2 }

theorem withoutGeometries_inRange : withoutGeometries.InRange := by
  have hnode : Node.InRange {} := ⟨⟨by decide, by decide⟩, ⟨by decide, by decide⟩, ⟨by decide, by decide⟩, ⟨by decide, by decide⟩⟩
  have hconnection :
      ({} : Connection).lanenumber < 2 ^ 8 ∧ ({} : Connection).maneuver < 2 ^ 16 ∧ ({} : Connection).connectionID < 2 ^ 8 :=
    ⟨by decide, by decide, by decide⟩
  have hlane : Lane.InRange {} :=
    ⟨by decide, by decide, by decide, by decide, fun _ => hnode, ⟨by decide, by decide, by decide⟩, fun _ => hconnection⟩
  have hbarrier : Barrier.InRange {} := ⟨by decide, by decide, fun _ => hnode⟩
  have hgroup : Group.InRange {} := ⟨by decide, fun _ => hlane⟩
  have hint : IsInt 0 := ⟨by decide, by decide⟩
  exact ⟨by decide, by decide, fun _ => ⟨hint, hint, hint, hgroup, hgroup, fun _ => hbarrier⟩⟩

theorem map_encode_withoutGeometries :
    map_encode withoutGeometries 12 = some [0x87, 12, 0, 10, 1, 1, 12, 2, 4, 0, 0, 0, 2, 255, 160, 179] := by decide +kernel

/-- With one bit of the attributes changed the blob is rejected. -/
theorem map_encode_integrity_withoutGeometries :
    Rejected ( blob_initialize [0x87, 12, 0, 10, 1, 1, 13, 2, 4, 0, 0, 0, 2, 255, 160, 179]) := by
  have hburst : Cyclic.Burst 16 (bits [0x87, 12, 0, 10, 1, 1, 12, 2, 4, 0, 0, 0, 2, 255, 160, 179])
      (bits [0x87, 12, 0, 10, 1, 1, 13, 2, 4, 0, 0, 0, 2, 255, 160, 179]) :=
    ⟨bits [0x87, 12, 0, 10, 1, 1], bits [12], bits [13], bits [2, 4, 0, 0, 0, 2, 255, 160, 179], by decide +kernel, by decide +kernel,
      by decide +kernel, by decide +kernel, by decide +kernel⟩
  have hbytes : IsBytes [0x87, 12, 0, 10, 1, 1, 13, 2, 4, 0, 0, 0, 2, 255, 160, 179] := by
    unfold IsBytes
    decide
  exact (map_encode_integrity withoutGeometries withoutGeometries_inRange 12 (by decide) _ map_encode_withoutGeometries _
    hbytes).2.2.1 hburst rfl

/-- The first fourteen bytes, with their own size in place, have no remainder. -/
theorem blob_initialize_burst :
    withoutGeometries.InRange ∧
      map_encode withoutGeometries 12 = some [0x87, 12, 0, 10, 1, 1, 12, 2, 4, 0, 0, 0, 2, 255, 160, 179] ∧
      Cyclic.Burst 16 (bits [0x87, 12, 0, 10, 1, 1, 12, 2, 4, 0, 0, 0, 2, 255, 160, 179])
        (bits [0x87, 12, 0, 8, 1, 1, 12, 2, 4, 0, 0, 0, 2, 255, 160, 179]) ∧
      ¬ Rejected ( blob_initialize [0x87, 12, 0, 8, 1, 1, 12, 2, 4, 0, 0, 0, 2, 255, 160, 179]) := by
  refine ⟨withoutGeometries_inRange, map_encode_withoutGeometries,
    ⟨bits [0x87, 12, 0], bits [10], bits [8], bits [1, 1, 12, 2, 4, 0, 0, 0, 2, 255, 160, 179], by decide +kernel, by decide +kernel,
      by decide +kernel, by decide +kernel, by decide +kernel⟩, ?_⟩
  rintro ⟨p, hp, hid, -⟩
  have hid' : ( blob_initialize [0x87, 12, 0, 8, 1, 1, 12, 2, 4, 0, 0, 0, 2, 255, 160, 179]).map Bblob.messageid = some 0x87 := by
    decide +kernel
  rw [hp, Option.map_some, hid] at hid'
  exact absurd hid' (by decide)

end V2xHub.MapPlugin.Codec
