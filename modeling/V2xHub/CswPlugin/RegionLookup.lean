import Mathlib.Algebra.Order.Ring.Abs
import Mathlib.Data.List.Nodup
import Mathlib.Tactic.Ring
import V2xHub.CswPlugin.VehicleLocate

/-!
# Which region is found

`FindRegion` is a search in the list of all regions with their numbers, which stops at the first one that encloses the
vehicle. So it asks for nothing absent where all regions up to that one are readable, and finds a region if and only if one
encloses the vehicle; the numbers are different if and only if all regions are in one frame.
-/

namespace V2xHub.VehicleLocate

variable {K : Type} [Field K] [LinearOrder K] [IsStrictOrderedRing K] {G : Geometry K}
variable {point previous next : WGS84Point K} {points : List (WGS84Point K)} {heading n : Nat} {h b laneWidth : K}
variable {geoPath : GeographicalPath} {regions : List GeographicalPath} {frames : List TiDataFrame}
variable {l l' : List (GeographicalPath × Nat)} {o : Option Nat}

/-! ### Segments -/

/-- Once round the circle and back, for headings and bearings on it. -/
theorem within90_iff (h0 : 0 ≤ h) (h360 : h ≤ 360) (b0 : 0 ≤ b) (b360 : b < 360) :
    Within90 h b ↔ ¬ (90 < |h - b| ∧ |h - b| < 270) := by
  constructor
  · rintro ⟨k, hk⟩ ⟨hlow, hhigh⟩
    rw [abs_le] at hk
    rw [abs_lt] at hhigh
    rcases lt_trichotomy k 0 with hneg | rfl | hpos
    · have : (k : K) ≤ -1 := by exact_mod_cast Int.le_sub_one_of_lt hneg
      linarith
    · rw [lt_abs] at hlow
      rw [Int.cast_zero] at hk
      rcases hlow with hlow | hlow <;> linarith
    · have : (1 : K) ≤ k := by exact_mod_cast hpos
      linarith
  · intro hfar
    rw [not_and_or, not_lt, not_lt] at hfar
    rcases hfar with hnear | hfar
    · exact ⟨0, by rwa [Int.cast_zero, mul_zero, add_zero]⟩
    · rcases le_abs.mp hfar with hfar | hfar
      · refine ⟨-1, ?_⟩
        rw [Int.cast_neg, Int.cast_one, abs_le]
        constructor <;> linarith
      · refine ⟨1, ?_⟩
        rw [Int.cast_one, abs_le]
        constructor <;> linarith

theorem passes_iff (hheading : heading ≤ 360) :
    Passes G point (heading : K) laneWidth previous next ↔
      ¬ (|(heading : K) - G.GetBearingDegrees next previous| > 90 ∧
          |(heading : K) - G.GetBearingDegrees next previous| < 270) ∧
        G.DistanceMeters next previous > G.DistanceMeters next point ∧
        G.DistanceMeters next previous > G.DistanceMeters previous point ∧
        laneWidth / 2 >
          dist_perp G (G.DistanceMeters next previous) (G.DistanceMeters next point) (G.DistanceMeters previous point) := by
  have hcast : (heading : K) ≤ 360 := by exact_mod_cast hheading
  rw [Passes, within90_iff (Nat.cast_nonneg heading) hcast (G.bearing_nonneg next previous) (G.bearing_lt next previous)]

theorem isInPointList_iff (hheading : heading ≤ 360) :
    IsInPointList G point heading laneWidth points = true ↔
      ∃ (i : Nat) (previous next : WGS84Point K), points[i]? = some previous ∧ points[i + 1]? = some next ∧
        Passes G point (heading : K) laneWidth previous next := by
  induction points with
  | nil => simp [IsInPointList]
  | cons previous points ih =>
    cases points with
    | nil => simp [IsInPointList]
    | cons next points =>
      have hhere : IsInPointList G point heading laneWidth (previous :: next :: points) = true ↔
          Passes G point (heading : K) laneWidth previous next ∨
            IsInPointList G point heading laneWidth (next :: points) = true := by
        rw [passes_iff hheading, IsInPointList]
        dsimp only
        split_ifs with hfar hin
        · exact ⟨.inr, fun h => h.resolve_left fun h => h.1 hfar⟩
        · exact iff_of_true rfl (.inl ⟨hfar, hin⟩)
        · exact ⟨.inr, fun h => h.resolve_left fun h => hin h.2⟩
      rw [hhere, ih]
      constructor
      · rintro (hpasses | ⟨i, p, q, hp, hq, hpasses⟩)
        · exact ⟨0, previous, next, rfl, rfl, hpasses⟩
        · exact ⟨i + 1, p, q, hp, hq, hpasses⟩
      · rintro ⟨i, p, q, hp, hq, hpasses⟩
        cases i with
        | zero =>
          obtain rfl := Option.some.inj hp
          obtain rfl := Option.some.inj hq
          exact .inl hpasses
        | succ i => exact .inr ⟨i, p, q, hp, hq, hpasses⟩

/-! ### Regions -/

omit [IsStrictOrderedRing K] in
theorem pointsFrom_ok_iff (G : Geometry K) (latitude longitude : K) (x y : Int) (nodes : List NodeOffsetPointXY) :
    (∃ points, pointsFrom G latitude longitude x y nodes = .ok points) ↔
      ∀ node ∈ nodes, ∃ x y, node.choice_node_XY6 = .ok (x, y) := by
  induction nodes generalizing x y with
  | nil => exact iff_of_true ⟨[], rfl⟩ fun node hnode => absurd hnode List.not_mem_nil
  | cons node nodes ih =>
    rw [List.forall_mem_cons, pointsFrom]
    cases hnode : node.choice_node_XY6 with
    | error e =>
      refine iff_of_false ?_ ?_
      · rintro ⟨points, h⟩
        cases h
      · rintro ⟨⟨x, y, h⟩, -⟩
        cases h
    | ok offset =>
      rw [← ih (x + offset.1) (y + offset.2), and_iff_right ⟨offset.1, offset.2, rfl⟩]
      constructor
      · rintro ⟨points, h⟩
        cases hrest : pointsFrom G latitude longitude (x + offset.1) (y + offset.2) nodes with
        | error e =>
          simp only [bind, Except.bind, hrest] at h
          cases h
        | ok rest => exact ⟨rest, rfl⟩
      · rintro ⟨rest, hrest⟩
        simp only [bind, Except.bind, hrest]
        exact ⟨_, rfl⟩

omit [IsStrictOrderedRing K] in
theorem read_ok_iff : (∃ x, geoPath.read G = .ok x) ↔ geoPath.Readable := by
  rw [GeographicalPath.Readable, GeographicalPath.read]
  cases geoPath.laneWidth with
  | none => simp
  | some laneWidth =>
    cases geoPath.description with
    | none => simp
    | some description =>
      cases description with
      | nodes list =>
        cases geoPath.anchor with
        | none => simp [GetPointArray, Except.map]
        | some anchor =>
          have hpoints := pointsFrom_ok_iff G ((anchor.lat : K) / 10000000) ((anchor.Long : K) / 10000000) 0 0 list
          simp only [GetPointArray, ne_eq, reduceCtorEq, not_false_eq_true, true_and, Option.some.injEq,
            Description.nodes.injEq, exists_eq_left', ← hpoints]
          cases pointsFrom G ((anchor.lat : K) / 10000000) ((anchor.Long : K) / 10000000) 0 0 list with
          | error e => simp [Except.map]
          | ok points => simp [Except.map]
      | computed | ll | geometry | oldRegion => simp

theorem encloses_iff (hheading : heading ≤ 360) :
    Encloses G point (heading : K) geoPath ↔
      ∃ x, geoPath.read G = .ok x ∧ IsInPointList G point heading x.1 x.2 = true := by
  rw [Encloses]
  constructor
  · rintro ⟨laneWidth, points, hread, hsegment⟩
    exact ⟨(laneWidth, points), hread, (isInPointList_iff hheading).mpr hsegment⟩
  · rintro ⟨x, hread, hin⟩
    exact ⟨x.1, x.2, hread, (isInPointList_iff hheading).mp hin⟩

/-! ### The search -/

/-- Up to the first region that encloses the vehicle. -/
def search (G : Geometry K) (point : WGS84Point K) (heading : Nat) : List (GeographicalPath × Nat) → Except Fault (Option Nat)
  | [] => .ok none
  | x :: l =>
    match x.1.read G with
    | .error e => .error e
    | .ok (laneWidth, points) =>
      if IsInPointList G point heading laneWidth points then .ok (some x.2) else search G point heading l

omit [IsStrictOrderedRing K] in
theorem search_append :
    search G point heading (l ++ l') =
      match search G point heading l with
      | .error e => .error e
      | .ok (some n) => .ok (some n)
      | .ok none => search G point heading l' := by
  induction l with
  | nil => rfl
  | cons x l ih =>
    rw [List.cons_append, search, search]
    cases x.1.read G with
    | error e => rfl
    | ok read =>
      dsimp only
      split_ifs
      · rfl
      · exact ih

omit [IsStrictOrderedRing K] in
theorem FindRegionInFrame_eq_search (i : Nat) :
    FindRegionInFrame G point heading i regions = search G point heading (regions.zipIdx (i + 1)) := by
  induction regions generalizing i with
  | nil => rfl
  | cons geoPath regions ih =>
    rw [FindRegionInFrame, List.zipIdx_cons, search]
    dsimp only
    cases geoPath.read G with
    | error e => rfl
    | ok read =>
      rw [← ih (i + 1)]
      rfl

omit [IsStrictOrderedRing K] in
theorem FindRegion_eq_search : FindRegion G point heading frames = search G point heading (numbered frames) := by
  induction frames with
  | nil => rfl
  | cons frame frames ih =>
    have hcons : numbered (frame :: frames) = frame.regions.zipIdx 1 ++ numbered frames := List.flatMap_cons
    rw [hcons, search_append, FindRegion, FindRegionInFrame_eq_search, ← ih]
    cases search G point heading (frame.regions.zipIdx (0 + 1)) with
    | error e => rfl
    | ok found => cases found <;> rfl

/-- Of what holds of every element with none of `P` in front of it, the first element and the rest. -/
theorem forall_split_cons {α : Type} {P Q : α → Prop} {a : α} {as : List α} :
    (∀ before b behind, a :: as = before ++ b :: behind → (∀ r ∈ before, ¬ P r) → Q b) ↔
      Q a ∧ (¬ P a → ∀ before b behind, as = before ++ b :: behind → (∀ r ∈ before, ¬ P r) → Q b) := by
  constructor
  · intro hall
    refine ⟨hall [] a as rfl fun r hr => absurd hr List.not_mem_nil, fun ha before b behind heq hbefore => ?_⟩
    exact hall (a :: before) b behind (by rw [heq, List.cons_append]) (List.forall_mem_cons.mpr ⟨ha, hbefore⟩)
  · rintro ⟨ha, hrest⟩ before b behind heq hbefore
    cases before with
    | nil =>
      obtain ⟨rfl, -⟩ := List.cons.inj heq
      exact ha
    | cons c before =>
      obtain ⟨hhead, htail⟩ := List.cons.inj heq
      obtain ⟨hc, hbefore⟩ := List.forall_mem_cons.mp hbefore
      rw [← hhead] at hc
      exact hrest hc before b behind htail hbefore

/-- The search comes to an end if and only if all regions are readable up to the first one that encloses the vehicle. -/
theorem search_ok_iff (hheading : heading ≤ 360) :
    (∃ o, search G point heading l = .ok o) ↔
      ∀ before geoPath behind, l.map Prod.fst = before ++ geoPath :: behind →
        (∀ r ∈ before, ¬ Encloses G point (heading : K) r) → geoPath.Readable := by
  induction l with
  | nil =>
    refine iff_of_true ⟨none, rfl⟩ fun before geoPath behind heq => ?_
    exact absurd heq.symm (List.append_ne_nil_of_right_ne_nil before (List.cons_ne_nil geoPath behind))
  | cons x l ih =>
    rw [List.map_cons, forall_split_cons, ← ih, ← read_ok_iff (G := G), encloses_iff hheading, search]
    cases hread : x.1.read G with
    | error e =>
      refine iff_of_false ?_ ?_
      · rintro ⟨o, h⟩
        cases h
      · rintro ⟨⟨y, h⟩, -⟩
        cases h
    | ok read =>
      rw [and_iff_right ⟨read, rfl⟩]
      dsimp only
      split_ifs with hin
      · exact iff_of_true ⟨some x.2, rfl⟩ fun hnot => absurd ⟨read, rfl, hin⟩ hnot
      · refine ⟨fun h _ => h, fun h => h ?_⟩
        rintro ⟨y, hy, hin'⟩
        obtain rfl := Except.ok.inj hy
        exact hin hin'

/-- What it finds is the number of a region that encloses the vehicle, if there is one. -/
theorem search_found (hheading : heading ≤ 360) (h : search G point heading l = .ok o) :
    (∀ n, o = some n → ∃ x ∈ l, x.2 = n) ∧ (o ≠ none ↔ ∃ x ∈ l, Encloses G point (heading : K) x.1) := by
  induction l with
  | nil =>
    obtain rfl := Except.ok.inj h
    simp
  | cons x l ih =>
    rw [search] at h
    cases hread : x.1.read G with
    | error e =>
      rw [hread] at h
      cases h
    | ok read =>
      rw [hread] at h
      dsimp only at h
      split_ifs at h with hin
      · obtain rfl := Except.ok.inj h
        refine ⟨fun n hn => ⟨x, List.mem_cons_self, Option.some.inj hn⟩, iff_of_true (Option.some_ne_none _) ?_⟩
        exact ⟨x, List.mem_cons_self, (encloses_iff hheading).mpr ⟨read, hread, hin⟩⟩
      · have hx : ¬ Encloses G point (heading : K) x.1 := by
          rw [encloses_iff hheading]
          rintro ⟨y, hy, hin'⟩
          obtain rfl := Except.ok.inj (hread.symm.trans hy)
          exact hin hin'
        obtain ⟨hnumber, hfound⟩ := ih h
        refine ⟨fun n hn => ?_, ?_⟩
        · obtain ⟨y, hy, hyn⟩ := hnumber n hn
          exact ⟨y, List.mem_cons_of_mem x hy, hyn⟩
        · rw [hfound, List.exists_mem_cons_iff, or_iff_right hx]

/-! ### The numbers -/

theorem map_fst_numbered (frames : List TiDataFrame) : (numbered frames).map Prod.fst = frames.flatMap (·.regions) := by
  rw [numbered, List.map_flatMap]
  exact List.flatMap_congr fun frame _ => List.zipIdx_map_fst 1 frame.regions

theorem map_snd_numbered (frames : List TiDataFrame) :
    (numbered frames).map Prod.snd = frames.flatMap fun frame => List.range' 1 frame.regions.length := by
  rw [numbered, List.map_flatMap]
  exact List.flatMap_congr fun frame _ => List.zipIdx_map_snd 1 frame.regions

theorem exists_mem_map_fst {P : GeographicalPath → Prop} :
    (∃ geoPath ∈ l.map Prod.fst, P geoPath) ↔ ∃ x ∈ l, P x.1 := by
  constructor
  · rintro ⟨geoPath, hmem, h⟩
    obtain ⟨x, hx, rfl⟩ := List.mem_map.mp hmem
    exact ⟨x, hx, h⟩
  · rintro ⟨x, hx, h⟩
    exact ⟨x.1, List.mem_map_of_mem hx, h⟩

theorem number_pos {x : GeographicalPath × Nat} (hx : x ∈ numbered frames) : x.2 ≠ 0 := by
  have hmem : x.2 ∈ (numbered frames).map Prod.snd := List.mem_map_of_mem hx
  rw [map_snd_numbered] at hmem
  obtain ⟨frame, -, hrange⟩ := List.mem_flatMap.mp hmem
  have := (List.mem_range'_1.mp hrange).1
  omega

/-- The first regions of two frames have one number. -/
theorem nodup_numbers_iff :
    ((numbered frames).map Prod.snd).Nodup ↔
      frames.Pairwise fun frame frame' => frame.regions = [] ∨ frame'.regions = [] := by
  rw [map_snd_numbered, List.nodup_flatMap, and_iff_right fun frame _ => List.nodup_range']
  refine List.Pairwise.iff fun {frame frame'} => ?_
  rw [Function.onFun, List.disjoint_left]
  constructor
  · intro hdisjoint
    by_contra hboth
    rw [not_or] at hboth
    have hpos := List.length_pos_iff.mpr hboth.1
    have hpos' := List.length_pos_iff.mpr hboth.2
    exact hdisjoint (List.mem_range'_1.mpr ⟨Nat.le_refl 1, by omega⟩) (List.mem_range'_1.mpr ⟨Nat.le_refl 1, by omega⟩)
  · rintro hempty i hi hi'
    rw [List.mem_range'_1] at hi hi'
    rcases hempty with hempty | hempty
    · rw [hempty, List.length_nil] at hi
      omega
    · rw [hempty, List.length_nil] at hi'
      omega

/-! ### A vehicle -/

theorem speed_iff {speed : Nat} : ((speed / 50 : Nat) : K) * toMph = (speed : K) * (2 / 100) * toMph ↔ 50 ∣ speed := by
  have hmph : (toMph : K) ≠ 0 := by
    rw [toMph]
    norm_num
  rw [mul_left_inj' hmph]
  constructor
  · intro h
    have hmul : ((speed / 50 * 50 : Nat) : K) = (speed : K) := by
      rw [Nat.cast_mul, h]
      norm_num
      ring
    exact Dvd.intro_left _ (Nat.cast_injective hmul)
  · rintro ⟨k, rfl⟩
    rw [Nat.mul_div_cancel_left k (by decide), Nat.cast_mul]
    norm_num
    ring

theorem heading_le (bsm : BasicSafetyMessage) : bsm.heading / 80 ≤ 360 := by
  have := bsm.heading_le
  omega

/-- For a message with a known speed. -/
theorem located_iff (G : Geometry K) (bsm : BasicSafetyMessage) (tim : TravelerInformation) (hspeed : bsm.speed ≠ 8191) :
    Correct G bsm tim ↔ Sound G bsm tim := by
  rw [Correct, Sound, ProcessBsmMessage, if_pos hspeed, FindRegion_eq_search, ← nodup_numbers_iff, TravelerInformation.regions,
    ← map_fst_numbered, BasicSafetyMessage.wholeDegrees, ← search_ok_iff (heading_le bsm), ← speed_iff (K := K)]
  have hfound : ∀ o, search G (vehiclePoint bsm) (bsm.heading / 80) (numbered tim.dataFrames) = .ok o →
      (o.getD 0 ≠ 0 ↔ ∃ geoPath ∈ (numbered tim.dataFrames).map Prod.fst,
        Encloses G (vehiclePoint bsm) ((bsm.heading / 80 : Nat) : K) geoPath) := by
    intro o ho
    obtain ⟨hnumber, hsome⟩ := search_found (heading_le bsm) ho
    rw [exists_mem_map_fst, ← hsome]
    cases o with
    | none => simp
    | some n =>
      obtain ⟨x, hx, rfl⟩ := hnumber n rfl
      exact iff_of_true (number_pos hx) (Option.some_ne_none _)
  constructor
  · rintro ⟨located, hprocess, hnodup, hregion, hmph⟩
    cases ho : search G (vehiclePoint bsm) (bsm.heading / 80) (numbered tim.dataFrames) with
    | error e =>
      rw [ho] at hprocess
      cases hprocess
    | ok o =>
      rw [ho] at hprocess
      obtain rfl := Option.some.inj (Except.ok.inj hprocess)
      exact ⟨⟨o, rfl⟩, hnodup, (hfound o ho).symm.trans hregion, hmph⟩
  · rintro ⟨⟨o, ho⟩, hnodup, hregion, hmph⟩
    rw [ho]
    exact ⟨_, rfl, hnodup, (hfound o ho).trans hregion, hmph⟩

/-- One meter a second, to the north. -/
def steady : BasicSafetyMessage := ⟨(0, 0, 0, 1), 0, 0, 50, 0, by decide, by decide⟩

/-- From ten meters in front of the vehicle to ten meters behind it, three meters wide. -/
def curve : GeographicalPath :=
  ⟨some ⟨0, 0⟩, some 300, some (.nodes [.node_XY3 0 1000, .node_XY3 0 (-2000)])⟩

noncomputable def front : WGS84Point ℝ := ⟨Conversions.ConvertRadiansToDegrees ((1000 : ℤ) / radius), 0⟩

noncomputable def rear : WGS84Point ℝ := ⟨Conversions.ConvertRadiansToDegrees ((-1000 : ℤ) / radius), 0⟩

theorem read_curve : curve.read Conversions.geometry = .ok (3, [front, rear]) := by
  simp only [GeographicalPath.read, curve, GetPointArray, pointsFrom, NodeOffsetPointXY.choice_node_XY6, bind, Except.bind,
    pure, Except.pure, Except.map, Conversions.geometry, front, rear, Conversions.ConvertRadiansToDegrees]
  norm_num

theorem radians_of_degrees (radians : ℝ) :
    Conversions.ConvertDegreesToRadians (Conversions.ConvertRadiansToDegrees radians) = radians := by
  have hpi := Real.pi_ne_zero
  rw [Conversions.ConvertDegreesToRadians, Conversions.ConvertRadiansToDegrees]
  field_simp

/-- The meters are those of the sphere, the centimeters those of the ellipsoid. -/
theorem passes_curve : Passes Conversions.geometry ⟨0, 0⟩ 0 3 front rear := by
  have hpi := Real.two_le_pi
  have hzero : Conversions.ConvertDegreesToRadians 0 = 0 := zero_mul _
  have hfront : Conversions.ConvertDegreesToRadians front.Latitude = 1000 / 637813700 := by
    rw [front, radians_of_degrees, radius, Int.cast_ofNat]
  have hrear : Conversions.ConvertDegreesToRadians rear.Latitude = -1000 / 637813700 := by
    rw [rear, radians_of_degrees, radius, Int.cast_neg, Int.cast_ofNat]
  have hlane : Conversions.DistanceMeters rear front = 6371000 * (2000 / 637813700) := by
    have hlong : rear.Longitude = front.Longitude := rfl
    refine Conversions.DistanceMeters_meridian hlong (by norm_num) (by linarith) ?_
    rw [hfront, hrear]
    norm_num [abs_of_neg]
  have hnext : Conversions.DistanceMeters rear ⟨0, 0⟩ = 6371000 * (1000 / 637813700) := by
    have hlong : rear.Longitude = (⟨0, 0⟩ : WGS84Point ℝ).Longitude := rfl
    refine Conversions.DistanceMeters_meridian hlong (by norm_num) (by linarith) ?_
    rw [hrear, hzero]
    norm_num [abs_of_neg]
  have hprevious : Conversions.DistanceMeters front ⟨0, 0⟩ = 6371000 * (1000 / 637813700) := by
    have hlong : front.Longitude = (⟨0, 0⟩ : WGS84Point ℝ).Longitude := rfl
    refine Conversions.DistanceMeters_meridian hlong (by norm_num) (by linarith) ?_
    rw [hfront, hzero]
    norm_num [abs_of_pos]
  have hbearing : Conversions.GetBearingDegrees rear front = 0 := by
    have hlong : rear.Longitude = front.Longitude := rfl
    refine Conversions.GetBearingDegrees_north hlong ?_ ?_ <;> rw [hfront, hrear]
    · norm_num
    · linarith
  simp only [Passes, Conversions.geometry, hlane, hnext, hprevious, hbearing, dist_perp]
  exact ⟨⟨0, by norm_num⟩, by norm_num, by norm_num, by norm_num⟩

theorem encloses_curve : Encloses Conversions.geometry (vehiclePoint steady) (steady.degrees : ℝ) curve := by
  have hpoint : (vehiclePoint steady : WGS84Point ℝ) = ⟨0, 0⟩ := by
    simp [vehiclePoint, steady]
  have hdegrees : (steady.degrees : ℝ) = 0 := by
    simp [BasicSafetyMessage.degrees, steady]
  rw [hpoint, hdegrees]
  exact ⟨3, [front, rear], read_curve, 0, front, rear, rfl, rfl, passes_curve⟩

theorem located_iff_curve :
    (∃ geoPath ∈ TravelerInformation.regions ⟨[⟨[curve]⟩]⟩,
        Encloses Conversions.geometry (vehiclePoint steady) (steady.degrees : ℝ) geoPath) ∧
      Correct Conversions.geometry steady ⟨[⟨[curve]⟩]⟩ := by
  refine ⟨⟨curve, List.mem_singleton_self curve, encloses_curve⟩, (located_iff Conversions.geometry steady _ (by decide)).mpr ?_⟩
  have hdegrees : (steady.wholeDegrees : ℝ) = steady.degrees := by
    norm_num [BasicSafetyMessage.wholeDegrees, BasicSafetyMessage.degrees, steady]
  refine ⟨fun before geoPath behind heq _ => ?_, List.pairwise_singleton _ _, by rw [hdegrees], by decide⟩
  have hmem : geoPath ∈ [curve] := by
    change [curve] = _ at heq
    rw [heq]
    exact List.mem_append_right before List.mem_cons_self
  obtain rfl := List.mem_singleton.mp hmem
  exact read_ok_iff.mp ⟨_, read_curve⟩

/-- Half a meter a second, to the north. -/
def slow : BasicSafetyMessage := ⟨(0, 0, 0, 1), 0, 0, 25, 0, by decide, by decide⟩

/-- The speed of half a meter a second becomes zero, and a region without a lane width is asked for it. -/
theorem not_correct_slow :
    ¬ Correct Conversions.geometry slow ⟨[]⟩ ∧
      ¬ Correct Conversions.geometry slow ⟨[⟨[⟨some ⟨0, 0⟩, none, some (.nodes [])⟩]⟩]⟩ := by
  constructor
  · rintro ⟨located, hprocess, -, -, hmph⟩
    obtain rfl := Option.some.inj (Except.ok.inj hprocess)
    rw [speed_iff] at hmph
    exact absurd hmph (by decide)
  · rintro ⟨located, hprocess, -⟩
    cases hprocess

end V2xHub.VehicleLocate
