import V2xHub.PedestrianPlugin.FlirConversions

/-!
# The tracks of a FLIR camera

What `on_read` makes of the tracks of a message. The variables of the loop keep what an earlier track has left, so that an empty
field has the value of a track in front. The rest of a field depends on its own text alone.
-/

namespace V2xHub.PedestrianPlugin.Flir.Tracks

/-! ### What is sent -/

/-- The texts of a track, where they are not empty; the angle in two parts, the speed with its number. -/
structure Track where
  angle : Option (Str × Str)
  iD : Option Str
  latitude : Option Degrees
  longitude : Option Degrees
  speed : Option (Str × Double)

structure Track.Valid (t : Track) : Prop where
  angle : ∀ a ∈ t.angle, IsDigits a.1 ∧ value a.1 ≤ 359 ∧ (a.2 = [] ∨ ∃ n, a.2 = 46 :: List.replicate n 48)
  iD : ∀ s ∈ t.iD, IsDigits s ∧ value s < 2 ^ 31
  latitude : ∀ d ∈ t.latitude, d.Valid
  longitude : ∀ d ∈ t.longitude, d.Valid
  speed : ∀ x ∈ t.speed, x.1 ≠ [] ∧ Strtof.stof x.1 = .ok x.2

/-- The tree has the members of the track. -/
structure Represents (tree : Ptree) (t : Track) : Prop where
  angle : tree.get "angle" = some (t.angle.elim [] fun a => a.1 ++ a.2)
  iD : tree.get "iD" = some (t.iD.elim [] id)
  latitude : tree.get "latitude" = some (t.latitude.elim [] Degrees.text)
  longitude : tree.get "longitude" = some (t.longitude.elim [] Degrees.text)
  speed : tree.get "speed" = some (t.speed.elim [] Prod.fst)

/-! ### What is read -/

section
variable (cameraRotation : ℚ)

/-- What the loop over the tracks prints, for each of them. -/
def readings (time : Str) : Fields → List Ptree → Except Exception (List (DateTime × Fields))
  | _, [] => .ok []
  | f, track :: rest =>
    match readMembers track (members cameraRotation) f with
    | .error e => .error e
    | .ok f =>
      match timeStringParser time with
      | .error e => .error e
      | .ok dateTimeArr => (readings time f rest).map ((dateTimeArr, f) :: ·)

/-- The PSMs of the readings are queued. -/
def pushAll (time : Str) (s : Session) (l : List (Ptree × DateTime × Fields)) : Session :=
  l.foldl (fun s x => s.push time x.1 x.2.1 x.2.2) s

/-! ### What is expected -/

/-- A field that is empty is as it was before the first track. -/
structure FieldsRight (t : Track) (f : Fields) : Prop where
  heading : t.angle.elim (f.alpha = 0) fun a => HeadingRight cameraRotation (value a.1) f.alpha
  id : t.iD.elim (f.idResult = []) fun s => IdRight (value s) f.idResult
  lat : t.latitude.elim (f.lat = []) fun d => DegreesRight d f.lat
  lon : t.longitude.elim (f.lon = []) fun d => DegreesRight d f.lon
  speed : t.speed.elim (f.speed = .finite 0) fun x => f.speed = speedUnits x.2

/-- The message of the tracks. -/
def Carries (read_json : Str → Option Ptree) (text : Str) (time : Time) (trees : List Ptree) : Prop :=
  ∃ pr track, read_json text = some pr ∧ pr.get "messageType" = some (CString.lit "Data") ∧ pr.get "time" = some time.text ∧
    pr.get "type" = some (CString.lit "PedestrianPresenceTracking") ∧ pr.get_child "track" = some track ∧
    track.children.map Prod.snd = trees

/-- The tracks of the message are queued as PSMs with the right fields. -/
def Meets (read_json : Str → Option Ptree) (s : Session) (text : Str) (time : Time) (trees : List Ptree)
    (ts : List Track) : Prop :=
  ∃ rs, readings cameraRotation time.text .init trees = .ok rs ∧
    (s.on_read cameraRotation read_json text).queued = (pushAll time.text s (trees.zip rs)).queued ∧
    List.Forall₂ (fun t r => TimeRight time r.1 ∧ FieldsRight cameraRotation t r.2) ts rs

/-! ### When it is so -/

/-- The last text of a field in the tracks before. -/
def lastGiven {α : Type} (field : Track → Option α) (before : List Track) : Option α := before.reverse.findSome? field

/-- What an empty field has from the tracks before is nothing, or zero. -/
structure NotStale (before : List Track) (t : Track) : Prop where
  angle : t.angle = none → ∀ a ∈ lastGiven Track.angle before, ∃ k : Int, cameraRotation - value a.1 - 270 = 360 * k
  iD : t.iD = none → lastGiven Track.iD before = none
  latitude : t.latitude = none → lastGiven Track.latitude before = none
  longitude : t.longitude = none → lastGiven Track.longitude before = none
  speed : t.speed = none → ∀ x ∈ lastGiven Track.speed before, speedUnits x.2 = .finite 0

structure Sound (time : Time) (ts : List Track) : Prop where
  time : ts ≠ [] → time.Readable
  turned : ∀ t ∈ ts, ∀ a ∈ t.angle, Turned cameraRotation (value a.1)
  unpadded : ∀ t ∈ ts, ∀ s ∈ t.iD, Unpadded (value s)
  notStale : ∀ before t rest, ts = before ++ t :: rest → NotStale cameraRotation before t

end

variable {cameraRotation : ℚ} {t : Time} {deg : Degrees} {n : Nat}

/-! ### One track -/

section
variable {before ts : List Track} {tr : Track} {tree : Ptree} {trees : List Ptree} {dateTimeArr : DateTime}

theorem lastGiven_concat {α : Type} (field : Track → Option α) (before : List Track) (tr : Track) :
    lastGiven field (before ++ [tr]) = (field tr).or (lastGiven field before) := by
  rw [lastGiven, List.reverse_append, List.reverse_singleton, List.singleton_append, List.findSome?_cons, lastGiven]
  cases field tr <;> rfl

theorem mem_of_lastGiven {α : Type} {field : Track → Option α} {a : α} (h : lastGiven field before = some a) :
    ∃ tr ∈ before, field tr = some a := by
  obtain ⟨tr, hmem, htr⟩ := List.exists_of_findSome?_eq_some h
  exact ⟨tr, List.mem_reverse.1 hmem, htr⟩

theorem elim_or {α β : Type} (o o' : Option α) (b : β) (g : α → β) : (o.or o').elim b g = o.elim (o'.elim b g) g := by
  cases o <;> rfl

/-- Without the point and the last decimal. -/
def tenthsText (deg : Degrees) : Str := (deg.text.filter fun c => c ≠ 46).dropLast

theorem withoutPoint_eq (h : deg.Valid) :
    withoutPoint deg.text = .ok (tenthsText deg) ∧ tenthsText deg ≠ [] ∧ DegreesRight deg (tenthsText deg) := by
  obtain ⟨s, hs, hne, hright⟩ := withoutPoint_text h
  have heq : s = tenthsText deg := by
    rw [withoutPoint] at hs
    rcases hfilter : deg.text.filter fun c => c ≠ 46 with _ | ⟨c, l⟩
    · rw [hfilter] at hs
      cases hs
    · rw [hfilter] at hs
      rw [tenthsText, hfilter]
      exact (Except.ok.inj hs).symm
  exact heq ▸ ⟨hs, hne, hright⟩

/-- The fields behind the tracks, each as the last text of it has left it. -/
def fieldsAfter (cameraRotation : ℚ) (before : List Track) : Fields where
  alpha := (lastGiven Track.angle before).elim 0 fun a => heading cameraRotation (value a.1)
  idResult := (lastGiven Track.iD before).elim [] fun s => octets (value s)
  lat := (lastGiven Track.latitude before).elim [] tenthsText
  lon := (lastGiven Track.longitude before).elim [] tenthsText
  speed := (lastGiven Track.speed before).elim (.finite 0) fun x => speedUnits x.2

/-- A member with a text does to the fields what its conversion does, and one without a text does nothing. -/
theorem read_eq {α : Type} {m : Member} {o : Option α} {text : α → Str} {conv : α → Fields → Fields}
    (hget : tree.get m.name = some (o.elim [] text)) (hconv : ∀ a ∈ o, text a ≠ [] ∧ m.convert (text a) = .ok (conv a)) :
    m.read tree = .ok fun f => o.elim f fun a => conv a f := by
  rw [Member.read, hget]
  rcases o with _ | a
  · rfl
  · obtain ⟨hne, htext⟩ := hconv a rfl
    exact (if_neg hne).trans htext

theorem convert_angle {a : Str × Str} (hdigits : IsDigits a.1) (hle : value a.1 ≤ 359)
    (hfrac : a.2 = [] ∨ ∃ n, a.2 = 46 :: List.replicate n 48) : (Flir.angle cameraRotation).convert (a.1 ++ a.2) =
      .ok fun f => { f with alpha := heading cameraRotation (value a.1) } := by
  have htail : ∀ c ∈ a.2.head?, Strtol.isdigit c = false := by
    rcases hfrac with hnil | ⟨n, hn⟩
    · simp [hnil]
    · rw [hn]
      rintro c ⟨⟩
      rfl
  rw [Flir.angle]
  dsimp only
  rw [stoi_digits hdigits htail (by omega)]
  rfl

theorem convert_iD {s : Str} (hdigits : IsDigits s) (hlt : value s < 2 ^ 31) :
    iD.convert s = .ok fun f => { f with idResult := octets (value s) } := by
  have hstoi := stoi_digits (u := []) hdigits (by simp) hlt
  rw [List.append_nil] at hstoi
  rw [iD]
  dsimp only
  rw [hstoi]
  rfl

theorem convert_latitude (h : deg.Valid) : latitude.convert deg.text = .ok fun f => { f with lat := tenthsText deg } := by
  rw [latitude]
  dsimp only
  rw [(withoutPoint_eq h).1]
  rfl

theorem convert_longitude (h : deg.Valid) : longitude.convert deg.text = .ok fun f => { f with lon := tenthsText deg } := by
  rw [longitude]
  dsimp only
  rw [(withoutPoint_eq h).1]
  rfl

theorem convert_speed {x : Str × Double} (h : Strtof.stof x.1 = .ok x.2) :
    speed.convert x.1 = .ok fun f => { f with speed := speedUnits x.2 } := by
  rw [speed]
  dsimp only
  rw [h]
  rfl

theorem text_ne_nil (deg : Degrees) : deg.text ≠ [] := by simp [Degrees.text]

/-- What a track does to the fields. -/
def given (cameraRotation : ℚ) (tr : Track) (f : Fields) : Fields where
  alpha := tr.angle.elim f.alpha fun a => heading cameraRotation (value a.1)
  idResult := tr.iD.elim f.idResult fun s => octets (value s)
  lat := tr.latitude.elim f.lat tenthsText
  lon := tr.longitude.elim f.lon tenthsText
  speed := tr.speed.elim f.speed fun x => speedUnits x.2

theorem readMembers_eq_given (h : Represents tree tr) (hv : tr.Valid) (f : Fields) :
    readMembers tree (members cameraRotation) f = .ok (given cameraRotation tr f) := by
  have hangle := read_eq (m := Flir.angle cameraRotation) h.angle fun a ha =>
    have hvalid := hv.angle a ha
    ⟨by simp [hvalid.1.1], convert_angle hvalid.1 hvalid.2.1 hvalid.2.2⟩
  have hid := read_eq (m := iD) h.iD fun s hs => ⟨(hv.iD s hs).1.1, convert_iD (hv.iD s hs).1 (hv.iD s hs).2⟩
  have hlat := read_eq (m := latitude) h.latitude fun d hd => ⟨text_ne_nil d, convert_latitude (hv.latitude d hd)⟩
  have hlon := read_eq (m := longitude) h.longitude fun d hd => ⟨text_ne_nil d, convert_longitude (hv.longitude d hd)⟩
  have hspeed := read_eq (m := speed) h.speed fun x hx => ⟨(hv.speed x hx).1, convert_speed (hv.speed x hx).2⟩
  simp only [members, readMembers, hangle, hid, hlat, hlon, hspeed, given]
  rcases tr with ⟨_ | _, _ | _, _ | _, _ | _, _ | _⟩ <;> rfl

theorem readMembers_after (h : Represents tree tr) (hv : tr.Valid) (before : List Track) :
    readMembers tree (members cameraRotation) (fieldsAfter cameraRotation before) =
      .ok (fieldsAfter cameraRotation (before ++ [tr])) := by
  rw [readMembers_eq_given h hv]
  simp only [given, fieldsAfter, lastGiven_concat, elim_or]

/-! ### The loop over the tracks -/

/-- What is printed for the tracks behind `before`. -/
def rows (cameraRotation : ℚ) (dateTimeArr : DateTime) : List Track → List Track → List (DateTime × Fields)
  | _, [] => []
  | before, tr :: rest =>
    (dateTimeArr, fieldsAfter cameraRotation (before ++ [tr])) :: rows cameraRotation dateTimeArr (before ++ [tr]) rest

theorem readings_cons (time : Str) (f : Fields) (tree : Ptree) (rest : List Ptree) :
    readings cameraRotation time f (tree :: rest) =
      match readMembers tree (members cameraRotation) f with
      | .error e => .error e
      | .ok f =>
        match timeStringParser time with
        | .error e => .error e
        | .ok dateTimeArr => (readings cameraRotation time f rest).map ((dateTimeArr, f) :: ·) := by rfl

theorem readings_eq (cameraRotation : ℚ) {time : Str} (htime : timeStringParser time = .ok dateTimeArr)
    (h : List.Forall₂ Represents trees ts) (hv : ∀ tr ∈ ts, tr.Valid) (before : List Track) :
    readings cameraRotation time (fieldsAfter cameraRotation before) trees =
      .ok (rows cameraRotation dateTimeArr before ts) := by
  induction h generalizing before with
  | nil => rfl
  | cons hrep _ ih =>
    rw [readings_cons, readMembers_after hrep (hv _ (List.mem_cons_self ..)) before]
    dsimp only
    rw [htime]
    dsimp only
    rw [ih (fun tr hmem => hv tr (List.mem_cons_of_mem _ hmem))]
    rfl

theorem readings_error {time : Str} {e : Exception} (htime : timeStringParser time = .error e)
    (h : List.Forall₂ Represents trees ts) (hv : ∀ tr ∈ ts, tr.Valid) (hne : ts ≠ []) :
    readings cameraRotation time .init trees = .error e := by
  cases h with
  | nil => exact absurd rfl hne
  | cons hrep _ =>
    rw [readings_cons, show Fields.init = fieldsAfter cameraRotation [] from rfl,
      readMembers_after hrep (hv _ (List.mem_cons_self ..)) []]
    dsimp only
    rw [htime]

theorem forall₂_rows {P : Track → DateTime × Fields → Prop} (before ts : List Track) :
    List.Forall₂ P ts (rows cameraRotation dateTimeArr before ts) ↔
      ∀ front tr rest, ts = front ++ tr :: rest → P tr (dateTimeArr, fieldsAfter cameraRotation (before ++ front ++ [tr])) := by
  induction ts generalizing before with
  | nil => simp [rows]
  | cons tr ts ih =>
    rw [rows, List.forall₂_cons, ih]
    constructor
    · rintro ⟨hfirst, hrest⟩ front tr' rest heq
      rcases front with _ | ⟨x, front⟩
      · obtain ⟨rfl, -⟩ := List.cons.inj heq
        simpa using hfirst
      · obtain ⟨rfl, hts⟩ := List.cons.inj heq
        simpa using hrest front tr' rest hts
    · intro h
      refine ⟨by simpa using h [] tr ts rfl, fun front tr' rest hts => ?_⟩
      simpa using h (tr :: front) tr' rest (by rw [hts, List.cons_append])

theorem tracks_eq {time : Str} {s : Session} {f : Fields} {rs : List (DateTime × Fields)}
    (h : readings cameraRotation time f trees = .ok rs) :
    s.tracks cameraRotation time f trees = pushAll time s (trees.zip rs) := by
  induction trees generalizing s f rs with
  | nil => rfl
  | cons tree trees ih =>
    rw [readings_cons] at h
    unfold Session.tracks
    rcases hread : readMembers tree (members cameraRotation) f with e | f'
    · rw [hread] at h
      cases h
    · rw [hread] at h
      dsimp only at h ⊢
      rcases htime : timeStringParser time with e | d
      · rw [htime] at h
        cases h
      · rw [htime] at h
        dsimp only at h ⊢
        rcases hrest : readings cameraRotation time f' trees with e | rest
        · rw [hrest] at h
          cases h
        · rw [hrest] at h
          obtain rfl := Except.ok.inj h
          exact ih hrest

theorem queued_pushAll (time : Str) (s : Session) (b : Bool) (l : List (Ptree × DateTime × Fields)) :
    (pushAll time { s with reading := b } l).queued = (pushAll time s l).queued := by
  suffices h : ∀ s s' : Session, s.queued = s'.queued → s.msgCount = s'.msgCount →
      (pushAll time s l).queued = (pushAll time s' l).queued from h _ _ rfl rfl
  induction l with
  | nil => exact fun s s' h _ => h
  | cons x l ih =>
    intro s s' hqueued hcount
    exact ih _ _ (by simp only [Session.push, hqueued, hcount]) (by simp only [Session.push, hcount])

theorem queued_finish (s : Session) : s.finish.queued = s.queued := by
  unfold Session.finish
  split <;> rfl

theorem queued_on_read {read_json : Str → Option Ptree} {s : Session} {text : Str} {rs : List (DateTime × Fields)}
    (h : Carries read_json text t trees) (hrs : readings cameraRotation t.text .init trees = .ok rs) :
    (s.on_read cameraRotation read_json text).queued = (pushAll t.text s (trees.zip rs)).queued := by
  obtain ⟨pr, track, hpr, hmessage, htime, htype, htrack, rfl⟩ := h
  have hdata : CString.lit "Data" ≠ CString.lit "Subscription" := by rw [CString.lit_ofList, CString.lit_ofList]; simp
  simp only [Session.on_read, hpr, Option.getD_some, hmessage, if_neg hdata, htime, htype, htrack, if_true]
  rw [tracks_eq hrs, queued_finish, queued_pushAll]

end

/-! ### The fields of a track -/

section
variable {before ts : List Track} {tr : Track} {trees : List Ptree} {dateTimeArr : DateTime}

/-- An angle is turned to zero if it is turned by whole turns. -/
theorem heading_eq_zero_iff (h : HeadingRight cameraRotation n (heading cameraRotation n)) :
    heading cameraRotation n = 0 ↔ ∃ k : Int, cameraRotation - n - 270 = 360 * k := by
  obtain ⟨hrange, k, hk⟩ := h
  constructor
  · intro hzero
    rw [hzero] at hk
    refine ⟨-k, ?_⟩
    push_cast at hk ⊢
    linarith
  · rintro ⟨j, hj⟩
    rw [hj] at hk
    have hturns : heading cameraRotation n = 28800 * (j + k) := by
      have hcast : (heading cameraRotation n : ℚ) = ((28800 * (j + k) : Int) : ℚ) := by
        rw [hk]
        push_cast
        ring
      exact_mod_cast hcast
    omega

theorem octets_ne_nil (h : n < 2 ^ 31) : octets n ≠ [] := by
  intro hnil
  have hlen := (octets_form h).1
  rw [hnil] at hlen
  cases hlen

theorem headingField_iff (tr : Track) (hturned : ∀ tr ∈ before, ∀ a ∈ tr.angle, Turned cameraRotation (value a.1)) :
    (tr.angle.elim ((fieldsAfter cameraRotation (before ++ [tr])).alpha = 0) fun a =>
      HeadingRight cameraRotation (value a.1) (fieldsAfter cameraRotation (before ++ [tr])).alpha) ↔
      (∀ a ∈ tr.angle, Turned cameraRotation (value a.1)) ∧ (tr.angle = none → ∀ a ∈ lastGiven Track.angle before,
        ∃ k : Int, cameraRotation - value a.1 - 270 = 360 * k) := by
  simp only [fieldsAfter, lastGiven_concat, elim_or]
  rcases tr.angle with _ | a
  · rcases hlast : lastGiven Track.angle before with _ | a
    · simp
    · obtain ⟨tr', hmem, htr'⟩ := mem_of_lastGiven hlast
      have hright := (headingRight_iff cameraRotation (value a.1)).2 (hturned tr' hmem a htr')
      simpa using heading_eq_zero_iff hright
  · simpa using headingRight_iff cameraRotation (value a.1)

theorem idField_iff (cameraRotation : ℚ) (hv : tr.Valid) (hbefore : ∀ tr ∈ before, tr.Valid) :
    (tr.iD.elim ((fieldsAfter cameraRotation (before ++ [tr])).idResult = []) fun s =>
      IdRight (value s) (fieldsAfter cameraRotation (before ++ [tr])).idResult) ↔
      (∀ s ∈ tr.iD, Unpadded (value s)) ∧ (tr.iD = none → lastGiven Track.iD before = none) := by
  simp only [fieldsAfter, lastGiven_concat, elim_or]
  rcases hiD : tr.iD with _ | s
  · rcases hlast : lastGiven Track.iD before with _ | s
    · simp
    · obtain ⟨tr', hmem, htr'⟩ := mem_of_lastGiven hlast
      simpa using octets_ne_nil ((hbefore tr' hmem).iD s htr').2
  · simpa using idRight_iff (hv.iD s hiD).2

/-- The latitude, and the longitude: a text that is given is right. -/
theorem degreesField_iff (field : Track → Option Degrees) (hfield : ∀ tr, tr.Valid → ∀ d ∈ field tr, d.Valid) (hv : tr.Valid)
    (hbefore : ∀ tr ∈ before, tr.Valid) :
    ((field tr).elim (((lastGiven field (before ++ [tr])).elim [] tenthsText) = []) fun d =>
      DegreesRight d ((lastGiven field (before ++ [tr])).elim [] tenthsText)) ↔
      (field tr = none → lastGiven field before = none) := by
  rw [lastGiven_concat, elim_or]
  rcases hd : field tr with _ | d
  · rcases hlast : lastGiven field before with _ | d
    · simp
    · obtain ⟨tr', hmem, htr'⟩ := mem_of_lastGiven hlast
      simpa using (withoutPoint_eq (hfield tr' (hbefore tr' hmem) d htr')).2.1
  · simpa using (withoutPoint_eq (hfield tr hv d hd)).2.2

theorem speedField_iff (cameraRotation : ℚ) (before : List Track) (tr : Track) :
    (tr.speed.elim ((fieldsAfter cameraRotation (before ++ [tr])).speed = .finite 0) fun x =>
      (fieldsAfter cameraRotation (before ++ [tr])).speed = speedUnits x.2) ↔
      (tr.speed = none → ∀ x ∈ lastGiven Track.speed before, speedUnits x.2 = .finite 0) := by
  simp only [fieldsAfter, lastGiven_concat, elim_or]
  rcases tr.speed with _ | x
  · rcases lastGiven Track.speed before with _ | x <;> simp
  · simp

/-- The fields are right if the angles so far are turned, the id is not padded and no text of an earlier track is left. -/
theorem fieldsRight_iff (hv : tr.Valid) (hbefore : ∀ tr ∈ before, tr.Valid)
    (hturned : ∀ tr ∈ before, ∀ a ∈ tr.angle, Turned cameraRotation (value a.1)) :
    FieldsRight cameraRotation tr (fieldsAfter cameraRotation (before ++ [tr])) ↔
      (∀ a ∈ tr.angle, Turned cameraRotation (value a.1)) ∧ (∀ s ∈ tr.iD, Unpadded (value s)) ∧
        NotStale cameraRotation before tr := by
  have hheading := headingField_iff tr hturned
  have hid := idField_iff cameraRotation hv hbefore
  have hlat := degreesField_iff Track.latitude (fun _ h => h.latitude) hv hbefore
  have hlon := degreesField_iff Track.longitude (fun _ h => h.longitude) hv hbefore
  have hspeed := speedField_iff cameraRotation before tr
  constructor
  · intro h
    obtain ⟨hturn, hangle⟩ := hheading.1 h.heading
    obtain ⟨hunpadded, hid⟩ := hid.1 h.id
    exact ⟨hturn, hunpadded, hangle, hid, hlat.1 h.lat, hlon.1 h.lon, hspeed.1 h.speed⟩
  · rintro ⟨hturn, hunpadded, hstale⟩
    exact ⟨hheading.2 ⟨hturn, hstale.angle⟩, hid.2 ⟨hunpadded, hstale.iD⟩, hlat.2 hstale.latitude, hlon.2 hstale.longitude,
      hspeed.2 hstale.speed⟩

/-! ### The tracks of a message -/

/-- The tracks are right one after another: what is left of the ones in front is right if they are. -/
theorem allRight_iff (hv : ∀ tr ∈ ts, tr.Valid) :
    (∀ front tr rest, ts = front ++ tr :: rest →
      FieldsRight cameraRotation tr (fieldsAfter cameraRotation (front ++ [tr]))) ↔
      (∀ tr ∈ ts, ∀ a ∈ tr.angle, Turned cameraRotation (value a.1)) ∧ (∀ tr ∈ ts, ∀ s ∈ tr.iD, Unpadded (value s)) ∧
        ∀ front tr rest, ts = front ++ tr :: rest → NotStale cameraRotation front tr := by
  constructor
  · intro h
    have hturned : ∀ tr ∈ ts, ∀ a ∈ tr.angle, Turned cameraRotation (value a.1) := by
      intro tr hmem a ha
      obtain ⟨front, rest, hts⟩ := List.append_of_mem hmem
      have hright := (h front tr rest hts).heading
      simp only [fieldsAfter, lastGiven_concat, Option.mem_def.1 ha, Option.elim] at hright
      exact (headingRight_iff cameraRotation (value a.1)).1 hright
    have hall : ∀ front tr rest, ts = front ++ tr :: rest → (∀ a ∈ tr.angle, Turned cameraRotation (value a.1)) ∧
        (∀ s ∈ tr.iD, Unpadded (value s)) ∧ NotStale cameraRotation front tr := by
      intro front tr rest hts
      have hfront : ∀ tr' ∈ front, tr' ∈ ts := fun tr' hmem => hts ▸ List.mem_append_left _ hmem
      exact (fieldsRight_iff (hv tr (by simp [hts])) (fun tr' hmem => hv tr' (hfront tr' hmem))
        fun tr' hmem => hturned tr' (hfront tr' hmem)).1 (h front tr rest hts)
    refine ⟨hturned, fun tr hmem => ?_, fun front tr rest hts => (hall front tr rest hts).2.2⟩
    obtain ⟨front, rest, hts⟩ := List.append_of_mem hmem
    exact (hall front tr rest hts).2.1
  · rintro ⟨hturned, hunpadded, hstale⟩ front tr rest hts
    have hfront : ∀ tr' ∈ front, tr' ∈ ts := fun tr' hmem => hts ▸ List.mem_append_left _ hmem
    have hmem : tr ∈ ts := by simp [hts]
    exact (fieldsRight_iff (hv tr hmem) (fun tr' hmem => hv tr' (hfront tr' hmem))
      fun tr' hmem => hturned tr' (hfront tr' hmem)).2 ⟨hturned tr hmem, hunpadded tr hmem, hstale front tr rest hts⟩

/-- With a time that can be read, the message is queued as it should be if the fields of each track are right. -/
theorem meets_iff {read_json : Str → Option Ptree} {s : Session} {text : Str} (hcarries : Carries read_json text t trees)
    (htime : timeStringParser t.text = .ok dateTimeArr) (hrep : List.Forall₂ Represents trees ts)
    (hv : ∀ tr ∈ ts, tr.Valid) : Meets cameraRotation read_json s text t trees ts ↔
      ∀ front tr rest, ts = front ++ tr :: rest →
        TimeRight t dateTimeArr ∧ FieldsRight cameraRotation tr (fieldsAfter cameraRotation (front ++ [tr])) := by
  have hreadings := readings_eq cameraRotation htime hrep hv []
  constructor
  · rintro ⟨rs, hrs, -, hright⟩
    obtain rfl := Except.ok.inj (hreadings.symm.trans hrs)
    simpa using (forall₂_rows [] ts).1 hright
  · intro h
    exact ⟨_, hreadings, queued_on_read hcarries hreadings, (forall₂_rows [] ts).2 (by simpa using h)⟩

end

/-! ### Two tracks -/

/-- A time in the summer of Ottawa. -/
def morning : Time :=
  ⟨[50, 48, 50, 50], [48, 52], [50, 48], [49, 53], [50, 53], [53, 49], [48, 48, 49], .west [48, 52] [48, 48]⟩

/-- A track at one place, with an angle of two digits, and the tree it is sent as. -/
def walker (angle iD : Str) : Track :=
  ⟨some (angle, [46, 48]), some iD, some ⟨false, CString.lit "38", CString.lit "95499217"⟩,
    some ⟨true, CString.lit "77", CString.lit "14920953"⟩, none⟩

def walkerTree (angle iD : Str) : Ptree :=
  .node [] [(CString.lit "angle", .node (angle ++ [46, 48]) []), (CString.lit "class", .node (CString.lit "Pedestrian") []),
    (CString.lit "iD", .node iD []), (CString.lit "latitude", .node (CString.lit "38.95499217") []),
    (CString.lit "longitude", .node (CString.lit "-77.14920953") []), (CString.lit "speed", .empty)]

def morningTree (tracks : List Ptree) : Ptree :=
  .node [] [(CString.lit "dataNumber", .node (CString.lit "473085") []), (CString.lit "messageType", .node (CString.lit "Data") []),
    (CString.lit "time", .node morning.text []), (CString.lit "track", .node [] (tracks.map ([], ·))),
    (CString.lit "type", .node (CString.lit "PedestrianPresenceTracking") [])]

def walkers : List Track := [walker [49, 48] (CString.lit "268435457"), walker [53, 48] (CString.lit "134217729")]

def walkerTrees : List Ptree := [walkerTree [49, 48] (CString.lit "268435457"), walkerTree [53, 48] (CString.lit "134217729")]

def walkerText (angle iD : Str) : Str :=
  CString.lit "\x7b\"angle\": \"" ++ angle ++ CString.lit ".0\", \"class\": \"Pedestrian\", \"iD\": \"" ++ iD ++
    CString.lit "\", \"latitude\": \"38.95499217\", \"longitude\": \"-77.14920953\", \"speed\": \"\"\x7d"

def walkersText : Str :=
  walkerText [49, 48] (CString.lit "268435457") ++ CString.lit ", " ++ walkerText [53, 48] (CString.lit "134217729")

def morningText (tracks : Str) : Str :=
  CString.lit "\x7b\"dataNumber\": \"473085\", \"messageType\": \"Data\", \"time\": \"" ++ morning.text ++
    CString.lit "\", \"track\": [" ++ tracks ++ CString.lit "], \"type\": \"PedestrianPresenceTracking\"\x7d"

/-- What `read_json` makes of the text of a message, where its tracks are these. -/
def readMorning (tracks : Str) (trees : List Ptree) (text : Str) : Option Ptree :=
  if text = morningText tracks then some (morningTree trees) else none

theorem morning_valid : morning.Valid := by
  constructor
  case offset =>
    refine ⟨by nofun, ?_⟩
    rintro h m ⟨⟩
    exact ⟨isDigits_of_all (List.cons_ne_nil _ _) rfl, rfl, isDigits_of_all (List.cons_ne_nil _ _) rfl⟩
  all_goals exact ⟨isDigits_of_all (List.cons_ne_nil _ _) rfl, rfl⟩

theorem carries_morning (tracks : Str) (trees : List Ptree) :
    Carries (readMorning tracks trees) (morningText tracks) morning trees :=
  ⟨_, _, if_pos rfl, rfl, rfl, rfl, rfl, by simp [Ptree.children, List.map_map]⟩

theorem represents_walker (angle iD : Str) : Represents (walkerTree angle iD) (walker angle iD) := ⟨rfl, rfl, rfl, rfl, rfl⟩

theorem walker_valid {angle iD : Str} (hangle : IsDigits angle) (hturn : value angle ≤ 359) (h : IsDigits iD)
    (hlt : value iD < 2 ^ 31) : (walker angle iD).Valid := by
  refine ⟨?_, ?_, ?_, ?_, nofun⟩
  · rintro a ⟨⟩
    exact ⟨hangle, hturn, .inr ⟨1, rfl⟩⟩
  · rintro s ⟨⟩
    exact ⟨h, hlt⟩
  all_goals
    rintro d ⟨⟩
    exact ⟨isDigits_of_all (by decide) (by decide), isDigits_of_all (by decide) (by decide), by decide⟩

end V2xHub.PedestrianPlugin.Flir.Tracks
