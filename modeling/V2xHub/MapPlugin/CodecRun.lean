import V2xHub.MapPlugin.NodeList

/-!
# Runs of the decoder

From one decoder the loop comes to another behind some bytes (`Reads`), and from all that have one property to some that have another
(`Leads`): one object after the other, and one array after the other. A pointer into the map writes where it points to, and the rest
of the map stays (`setLane_setGroup`, `setGroup_setGeometry`), so the objects of a lane are read as those of its members one by one
(`atLane`).
-/

namespace V2xHub.MapPlugin.Codec

open FilledArray Decoder

variable {late : Bool} {d d' d₁ d₂ d₃ : Decoder} {bytes bytes₁ bytes₂ : List Nat} {P Q R : Decoder → Prop}

/-! ### Runs -/

/-- The loop goes on with `d'` behind `bytes`, whatever is behind them, after at most one round for each. -/
def Reads (late : Bool) (bytes : List Nat) (d d' : Decoder) : Prop :=
  ∃ k ≤ bytes.length, ∀ fuel rest, 2 ≤ rest.length → run late (fuel + k) d (bytes ++ rest) = run late fuel d' rest

theorem Reads.refl (d : Decoder) : Reads late [] d d := ⟨0, le_rfl, fun _ _ _ => rfl⟩

theorem Reads.trans (h₁ : Reads late bytes₁ d₁ d₂) (h₂ : Reads late bytes₂ d₂ d₃) : Reads late (bytes₁ ++ bytes₂) d₁ d₃ := by
  obtain ⟨k₁, hk₁, h₁⟩ := h₁
  obtain ⟨k₂, hk₂, h₂⟩ := h₂
  refine ⟨k₂ + k₁, by rw [List.length_append]; omega, fun fuel rest hrest => ?_⟩
  rw [List.append_assoc, ← Nat.add_assoc, h₁ (fuel + k₂) (bytes₂ ++ rest) (by rw [List.length_append]; omega), h₂ fuel rest hrest]

/-- One object, and what `step` leaves of it. -/
theorem Reads.step {id : Nat} {left : List Nat} (hid : id ≠ 255) (hlength : left.length ≤ bytes.length)
    (hstep : ∀ rest, d₁.step late id (bytes ++ rest) = some (d₂, left ++ rest)) (hleft : Reads late left d₂ d₃) :
    Reads late (id :: bytes) d₁ d₃ := by
  obtain ⟨k, hk, h⟩ := hleft
  refine ⟨k + 1, Nat.succ_le_succ (hk.trans hlength), fun fuel rest hrest => ?_⟩
  show run late (fuel + k + 1) d₁ (id :: (bytes ++ rest)) = _
  have hmore : id ≠ 255 ∧ (bytes ++ rest).length + 1 > 2 := ⟨hid, by rw [List.length_append]; omega⟩
  rw [run, if_pos hmore, hstep rest, Option.bind_some]
  exact h fuel rest hrest

theorem Reads.one {id : Nat} (hid : id ≠ 255) (hstep : ∀ rest, d₁.step late id (bytes ++ rest) = some (d₂, rest)) :
    Reads late (id :: bytes) d₁ d₂ :=
  Reads.step hid (Nat.zero_le _) hstep (Reads.refl d₂)

/-- Half a byte behind a list of nodes is the id of no object. -/
theorem Reads.half {b : Nat} (hb : b % 16 = 0) (d : Decoder) : Reads late [b] d d := by
  refine Reads.one (by omega) fun rest => ?_
  unfold Decoder.step
  by_cases hzero : b = 0
  · subst hzero
    rfl
  · have hne (n : Nat) (hn : n < 16) (hpos : 0 < n) : b ≠ n := by omega
    rw [if_neg (hne 1 (by decide) (by decide)), if_neg (hne 2 (by decide) (by decide)), if_neg (hne 3 (by decide) (by decide)),
      if_neg (hne 4 (by decide) (by decide)), if_neg (hne 5 (by decide) (by decide)), if_neg (hne 6 (by decide) (by decide)),
      if_neg (hne 7 (by decide) (by decide)), if_neg (hne 8 (by decide) (by decide)), if_neg (hne 9 (by decide) (by decide)),
      if_neg (hne 10 (by decide) (by decide)), if_neg (hne 11 (by decide) (by decide))]
    rfl

theorem Reads.leftover (packed : Bool) (l : List Int) (d : Decoder) : Reads late (leftover packed l) d d := by
  unfold Codec.leftover
  cases packed with
  | false => exact Reads.refl d
  | true =>
    cases l.foldl (begunBy true) none with
    | none => exact Reads.refl d
    | some x => exact Reads.half (by omega) d

/-- From each decoder in `P` the loop comes to one in `Q`. -/
def Leads (late : Bool) (bytes : List Nat) (P Q : Decoder → Prop) : Prop := ∀ d, P d → ∃ d', Reads late bytes d d' ∧ Q d'

theorem Leads.nil (h : ∀ d, P d → Q d) : Leads late [] P Q := fun d hd => ⟨d, Reads.refl d, h d hd⟩

theorem Leads.append (h₁ : Leads late bytes₁ P Q) (h₂ : Leads late bytes₂ Q R) : Leads late (bytes₁ ++ bytes₂) P R := by
  intro d hd
  obtain ⟨d₁, hread₁, hd₁⟩ := h₁ d hd
  obtain ⟨d₂, hread₂, hd₂⟩ := h₂ d₁ hd₁
  exact ⟨d₂, hread₁.trans hread₂, hd₂⟩

theorem Leads.flatMap_finRange {n : Nat} {f : Fin n → List Nat} {P : Nat → Decoder → Prop}
    (h : ∀ i : Fin n, Leads late (f i) (P i) (P (i + 1))) : Leads late ((List.finRange n).flatMap f) (P 0) (P n) := by
  suffices hk : ∀ k ≤ n, Leads late (((List.finRange n).take k).flatMap f) (P 0) (P k) by
    have hn := hk n le_rfl
    rwa [List.take_of_length_le (by rw [List.length_finRange])] at hn
  intro k
  induction k with
  | zero => exact fun _ => Leads.nil fun _ hd => hd
  | succ k ih =>
    intro hk
    have hget : (List.finRange n)[k]? = some ⟨k, hk⟩ := by
      rw [List.getElem?_eq_getElem (by rwa [List.length_finRange]), List.getElem_finRange]
      rfl
    rw [List.take_add_one, hget, List.flatMap_append]
    refine (ih (by omega)).append ?_
    have hone := h ⟨k, hk⟩
    simpa using hone

/-! ### Pointers -/

namespace Geometry

variable (geometry : Geometry) (dir : Direction) (a b : Group)

@[simp] theorem group_setGroup : (geometry.setGroup a dir).group dir = a := by
  cases dir <;> rfl

@[simp] theorem setGroup_setGroup : (geometry.setGroup a dir).setGroup b dir = geometry.setGroup b dir := by
  cases dir <;> rfl

@[simp] theorem setGroup_group : geometry.setGroup (geometry.group dir) dir = geometry := by
  cases dir <;> rfl

end Geometry

namespace Map

variable (m : Map)

@[simp] theorem attributes_setGeometry (g : Fin map_maxgeometries) (geometry : Geometry) :
    (m.setGeometry g geometry).attributes = m.attributes := rfl

@[simp] theorem geometry_setGeometry (g : Fin map_maxgeometries) (geometry : Geometry) :
    (m.setGeometry g geometry).geometry g = geometry :=
  Function.update_self ..

@[simp] theorem setGeometry_setGeometry (g : Fin map_maxgeometries) (a b : Geometry) :
    (m.setGeometry g a).setGeometry g b = m.setGeometry g b := by
  simp [setGeometry]

theorem setGroup_setGeometry (g : Fin map_maxgeometries) (dir : Direction) (geometry : Geometry) (group : Group) :
    (m.setGeometry g geometry).setGroup (g, dir) group = m.setGeometry g (geometry.setGroup group dir) := by
  simp [setGroup]

@[simp] theorem group_setGroup (p : GroupAt) (group : Group) : (m.setGroup p group).group p = group := by
  simp [setGroup, Map.group]

@[simp] theorem setGroup_setGroup (p : GroupAt) (a b : Group) : (m.setGroup p a).setGroup p b = m.setGroup p b := by
  simp [setGroup]

theorem setLane_setGroup (p : GroupAt) (l : Fin map_maxlanes) (group : Group) (lane : Lane) :
    (m.setGroup p group).setLane (p, l) lane = m.setGroup p { group with lane := Function.update group.lane l lane } := by
  simp [setLane]

@[simp] theorem lane_setLane (p : LaneAt) (lane : Lane) : (m.setLane p lane).lane p = lane := by
  simp [setLane, Map.lane]

@[simp] theorem setLane_setLane (p : LaneAt) (a b : Lane) : (m.setLane p a).setLane p b = m.setLane p b := by
  simp [setLane]

@[simp] theorem barrier_setBarrier (p : BarrierAt) (barrier : Barrier) : (m.setBarrier p barrier).barrier p = barrier := by
  simp [setBarrier, Map.barrier]

@[simp] theorem setBarrier_setBarrier (p : BarrierAt) (a b : Barrier) : (m.setBarrier p a).setBarrier p b = m.setBarrier p b := by
  simp [setBarrier]

theorem setBarrier_setGeometry (g : Fin map_maxgeometries) (b : Fin map_maxbarriers) (geometry : Geometry) (barrier : Barrier) :
    (m.setGeometry g geometry).setBarrier (g, b) barrier =
      m.setGeometry g { geometry with barrier := Function.update geometry.barrier b barrier } := by
  simp [setBarrier]

end Map

/-! ### A lane -/

theorem length_leftover_object (elev : Bool) (node : Fin map_maxnodes → Node) :
    (leftover (isPacked (nodelist elev node)) (nodelist elev node)).length ≤
      ((encode_nodelist elev node).length % 2 ^ 8 :: encode_nodelist elev node).length :=
  (length_leftover_le _).trans (Nat.succ_le_succ (Nat.zero_le _))

namespace Decoder

variable (d : Decoder)

/-- At the lane `p`, of which `x` is known. -/
def atLane (p : LaneAt) (x : Lane) : Decoder := { d with lane := some p, message := d.message.setLane p x }

variable {d}

@[simp] theorem elev_atLane (p : LaneAt) (x : Lane) : (d.atLane p x).elev = d.elev := rfl

@[simp] theorem lane_atLane (p : LaneAt) (x : Lane) : (d.atLane p x).lane = some p := rfl

@[simp] theorem message_atLane (p : LaneAt) (x : Lane) : (d.atLane p x).message.lane p = x := Map.lane_setLane ..

@[simp] theorem withLane_atLane (p : LaneAt) (x y : Lane) : (d.atLane p x).withLane p y = d.atLane p y :=
  congrArg (fun message => ({ d with lane := some p, message } : Decoder)) (Map.setLane_setLane ..)

variable {p : LaneAt} {x : Lane}

theorem reads_laneAttributes {v : Nat} (hv : v < 2 ^ 16) (hx : x.attributes = 0) :
    Reads late (object 6 (bytes16 v)) (d.atLane p x) (d.atLane p { x with attributes := v }) := by
  refine Reads.one (by decide) fun rest => ?_
  show some ((d.atLane p x).withLane p { (d.atLane p x).message.lane p with
    attributes := add16 ((d.atLane p x).message.lane p).attributes _ _ }, rest) = _
  rw [message_atLane, hx, add16_bytes16 hv, withLane_atLane]

theorem reads_laneWidth {v : Nat} (hv : v < 2 ^ 16) (hx : x.width = 0) :
    Reads late (widthObject v) (d.atLane p x) (d.atLane p { x with width := v }) := by
  unfold widthObject
  split_ifs with hzero
  · refine Reads.one (by decide) fun rest => ?_
    show some ((d.atLane p x).withLane p { (d.atLane p x).message.lane p with
      width := add16 ((d.atLane p x).message.lane p).width _ _ }, rest) = _
    rw [message_atLane, hx, add16_bytes16 hv, withLane_atLane]
  · obtain rfl := not_not.mp hzero
    rw [← hx]
    exact Reads.refl _

theorem reads_referenceLane {r : ReferenceLane} (hr : IsShort r.lateraloffset) (hx : x.type = computed) :
    Reads late (object 11 (r.lanenumber :: bytes16 r.lateraloffset)) (d.atLane p x) (d.atLane p { x with referencelane := r }) := by
  refine Reads.one (by decide) fun rest => ?_
  show (d.atLane p x).decodeReferenceLane (3 :: r.lanenumber :: _ :: _ :: rest) = _
  simp only [decodeReferenceLane, lane_atLane, message_atLane, withLane_atLane]
  rw [if_pos hx, read16_bytes16 hr]

theorem reads_laneNodes {node : Fin map_maxnodes → Node} (hkept : NodesKept late d.elev node) (hrange : ∀ n, (node n).InRange)
    (htype : x.type ≠ computed) (hx : x.node = fun _ => {}) :
    Reads late (object 9 (encode_nodelist d.elev node)) (d.atLane p x) (d.atLane p { x with node }) := by
  refine Reads.step (by decide) (length_leftover_object ..) (fun rest => ?_)
    (Reads.leftover (isPacked (nodelist d.elev node)) (nodelist d.elev node) _)
  show (d.atLane p x).decodeNodes late ((encode_nodelist d.elev node).length % 2 ^ 8 :: encode_nodelist d.elev node ++ rest) = _
  simp only [decodeNodes, lane_atLane, message_atLane, elev_atLane, hx]
  rw [if_pos htype, decode_nodelist_encode hkept hrange rest, Option.map_some]
  dsimp only
  rw [withLane_atLane]

/-- Without nodes, and without a lane that it is computed from, the object is skipped. -/
theorem reads_noReference (htype : x.type = computed) :
    Reads late (object 9 (encode_nodelist d.elev fun _ => {})) (d.atLane p x) (d.atLane p x) := by
  refine Reads.one (by decide) fun rest => ?_
  show (d.atLane p x).decodeNodes late _ = _
  simp only [decodeNodes, lane_atLane, message_atLane]
  rw [if_neg (not_not.mpr htype)]
  cases d.elev <;> rfl

theorem reads_connection {connection : Fin map_maxconnections → Connection} (htype : x.type ≠ pedestrian)
    (hfilled : FilledFrom (·.lanenumber ≠ 0) {} connection) (hmaneuver : ∀ c, (connection c).maneuver < 2 ^ 8)
    (c : Fin map_maxconnections) :
    Reads late (connectionObject (connection c)) (d.atLane p { x with connection := upTo {} connection c })
      (d.atLane p { x with connection := upTo {} connection (c + 1) }) := by
  unfold connectionObject
  split_ifs with hzero
  · refine Reads.one (by decide) fun rest => ?_
    have hfind := find?_upTo hfilled (fun h => h rfl) hzero
    simp only [not_not] at hfind
    rw [Nat.mod_eq_of_lt (hmaneuver c)]
    show (d.atLane p _).decodeConnection
      (2 :: (connection c).lanenumber :: (connection c).maneuver :: (connection c).connectionID :: rest) = _
    simp only [decodeConnection, lane_atLane, message_atLane, withLane_atLane]
    rw [if_pos htype, hfind]
    dsimp only
    rw [← update_upTo]
  · rw [upTo_succ_of_empty (hfilled.eq_empty hzero)]
    exact Reads.refl _

theorem reads_connections {connection : Fin map_maxconnections → Connection}
    (hpedestrian : x.type = pedestrian → connection = fun _ => {}) (hfilled : FilledFrom (·.lanenumber ≠ 0) {} connection)
    (hmaneuver : ∀ c, (connection c).maneuver < 2 ^ 8) (hx : x.connection = fun _ => {}) :
    Reads late ((List.finRange map_maxconnections).flatMap fun c => connectionObject (connection c)) (d.atLane p x)
      (d.atLane p { x with connection }) := by
  by_cases htype : x.type = pedestrian
  · rw [hpedestrian htype, ← hx]
    have hnone : ((List.finRange map_maxconnections).flatMap fun _ => connectionObject {}) = [] :=
      List.flatMap_eq_nil_iff.mpr fun _ _ => rfl
    rw [hx, hnone, ← hx]
    exact Reads.refl _
  · have hstep (c : Fin map_maxconnections) : Leads late (connectionObject (connection c))
        (· = d.atLane p { x with connection := upTo {} connection c })
        (· = d.atLane p { x with connection := upTo {} connection (c + 1) }) :=
      fun d' hd' => ⟨_, hd' ▸ reads_connection htype hfilled hmaneuver c, rfl⟩
    have hleads := Leads.flatMap_finRange (P := fun k d' => d' = d.atLane p { x with connection := upTo {} connection k }) hstep
    obtain ⟨d', hread, rfl⟩ := hleads (d.atLane p x) (by rw [upTo_zero, ← hx])
    rwa [upTo_all] at hread

end Decoder

end V2xHub.MapPlugin.Codec
