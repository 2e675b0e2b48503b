import V2xHub.PedestrianPlugin.FlirRead

/-!
# What the stream survives

A track is well formed if each of its five members is a decimal number. The stream survives if nothing leaves `on_read`, the
next text is read, and what is queued is the PSM of every well-formed track, each made of that track alone and numbered in
order. It survives a text that is `Sound`: the members of the message are there, and the loop over the tracks meets
well-formed tracks whose numbers fit, up to a track without a member behind which no well-formed one follows. It survives
the sequences of these texts, and no others (`flir_stream`).
-/

namespace V2xHub.PedestrianPlugin.Flir

/-- Digits, with or without a sign in front of them and a point and digits behind them. -/
def isDecimal (s : Str) : Bool :=
  let s := if s.head? = some 45 then s.tail else s
  !(s.takeWhile Strtol.isdigit).isEmpty &&
    match s.dropWhile Strtol.isdigit with
    | [] => true
    | c :: fraction => c = 46 && !fraction.isEmpty && fraction.all Strtol.isdigit

def WellFormed (track : Ptree) : Prop :=
  ∀ name ∈ ["angle", "iD", "latitude", "longitude", "speed"], ∃ s ∈ track.get name, isDecimal s = true

instance decidableWellFormed (track : Ptree) : Decidable (WellFormed track) :=
  inferInstanceAs (Decidable (∀ name ∈ ["angle", "iD", "latitude", "longitude", "speed"], _))

/-- The well-formed tracks, with the time of their text. -/
def timedTracks (time : Str) (tracks : List Ptree) : List (Str × Ptree) :=
  (tracks.filter fun track => WellFormed track).map fun track => (time, track)

def wellFormedTracks (read_json : Str → Option Ptree) (text : Str) : List (Str × Ptree) :=
  match read_json text with
  | none => []
  | some pr =>
    if pr.get "messageType" = some (CString.lit "Data") ∧ pr.get "type" = some (CString.lit "PedestrianPresenceTracking") then
      match pr.get "time", pr.get_child "track" with
      | some time, some track => timedTracks time (track.children.map Prod.snd)
      | _, _ => []
    else []

section
variable (cameraRotation : ℚ)

/-- The PSM that is made of the track alone, after `n` others. -/
def psm? (n : Nat) (time : Str) (track : Ptree) : Option Str :=
  match readMembers track (members cameraRotation) .init, timeStringParser time with
  | .ok f, .ok dateTimeArr => some (psmText dateTimeArr ((n + 1) % 128) f)
  | _, _ => none

/-- The messages that should be queued for the tracks, after `n` others. -/
def messages : Nat → List (Str × Ptree) → Option (List Message)
  | _, [] => some []
  | n, (time, track) :: rest =>
    match psm? cameraRotation n time track, messages (n + 1) rest with
    | some psm, some ms => some (⟨time, track, psm⟩ :: ms)
    | _, _ => none

structure Survives (read_json : Str → Option Ptree) (tr : List Str) (s : Session) : Prop where
  escaped : s.escaped = none
  reading : s.reading = true
  queued : messages cameraRotation 0 (tr.flatMap (wellFormedTracks read_json)) = some s.queued

/-- One of the members is missing, and those in front of it have no text or one that can be converted. -/
def Lacks (track : Ptree) : List Member → Prop
  | [] => False
  | m :: ms =>
    match track.get m.name with
    | none => True
    | some s => (s = [] ∨ (m.convert s).isOk) ∧ Lacks track ms

def SoundTracks (time : Str) : Nat → List Ptree → Prop
  | _, [] => True
  | n, track :: rest =>
    (WellFormed track ∧ (∃ psm ∈ psm? cameraRotation n time track, psm.length < 10000) ∧ SoundTracks time (n + 1) rest) ∨
      (Lacks track (members cameraRotation) ∧ ∀ t ∈ rest, ¬ WellFormed t)

def Sound (read_json : Str → Option Ptree) (s : Session) (text : Str) : Prop :=
  match read_json text with
  | none => False
  | some pr =>
    match pr.get "messageType" with
    | none => False
    | some messageType =>
      if messageType = CString.lit "Subscription" then ((pr.get_child "subscription").bind (Ptree.get "returnValue")).isSome = true
      else if messageType = CString.lit "Data" then
        match pr.get "time", pr.get "type" with
        | some time, some type =>
          type = CString.lit "PedestrianPresenceTracking" → ∀ track ∈ pr.get_child "track",
            SoundTracks cameraRotation time s.queued.length (track.children.map Prod.snd)
        | _, _ => False
      else True

end

variable {cameraRotation : ℚ} {read_json : Str → Option Ptree} {s t : Session} {track : Ptree} {ms : List Member}
  {f : Fields} {n : Nat} {time text : Str} {tr : List Str}

/-! ### One track -/

/-- What reading the members does to the fields, whatever they are. -/
def update (track : Ptree) : List Member → Except Exception (Fields → Fields)
  | [] => .ok id
  | m :: ms =>
    match m.read track with
    | .error e => .error e
    | .ok u =>
      match update track ms with
      | .error e => .error e
      | .ok v => .ok (v ∘ u)

theorem readMembers_eq : readMembers track ms f = (update track ms).map fun u => u f := by
  induction ms generalizing f with
  | nil => rfl
  | cons m ms ih =>
    unfold readMembers update
    cases m.read track with
    | error e => rfl
    | ok u =>
      dsimp only
      rw [ih]
      cases update track ms <;> rfl

/-- No conversion throws what the loop catches. -/
theorem convert_ne_bad_path {m : Member} (hm : m ∈ members cameraRotation) (s : Str) :
    m.convert s ≠ .error .ptree_bad_path := by
  have hnumber : ∀ {α : Type} (r : Except Strtol.Error α) (g : α → Fields → Fields),
      (number r).map g ≠ .error .ptree_bad_path := by
    intro α r g
    cases r <;> nofun
  have hpoint : ∀ (g : Str → Fields → Fields), (withoutPoint s).map g ≠ .error .ptree_bad_path := by
    intro g
    unfold withoutPoint
    cases s.filter fun c => c ≠ 46 <;> nofun
  simp only [members, List.mem_cons, List.not_mem_nil, or_false] at hm
  obtain rfl | rfl | rfl | rfl | rfl := hm
  · exact hnumber _ _
  · exact hnumber _ _
  · exact hpoint _
  · exact hpoint _
  · exact hnumber _ _

theorem update_cases (track : Ptree) (h : ∀ m ∈ ms, ∀ s, m.convert s ≠ .error .ptree_bad_path) :
    ((∃ u, update track ms = .ok u) ∧ ¬ Lacks track ms) ∨
      (update track ms = .error .ptree_bad_path ∧ Lacks track ms) ∨
      ((∃ e, update track ms = .error e ∧ e ≠ .ptree_bad_path) ∧ ¬ Lacks track ms) := by
  induction ms with
  | nil => exact .inl ⟨⟨_, rfl⟩, id⟩
  | cons m ms ih =>
    have hm := h m List.mem_cons_self
    have hms := ih fun m' hm' => h m' (List.mem_cons_of_mem _ hm')
    unfold update Lacks Member.read
    cases track.get m.name with
    | none => exact .inr (.inl ⟨rfl, trivial⟩)
    | some s =>
      dsimp only
      have hread : (∃ u, (if s = [] then .ok id else m.convert s) = .ok u) ∧ (s = [] ∨ (m.convert s).isOk) ∨
          (∃ e, (if s = [] then .ok id else m.convert s) = .error e ∧ e ≠ .ptree_bad_path) ∧
            ¬ (s = [] ∨ (m.convert s).isOk) := by
        by_cases hs : s = []
        · rw [if_pos hs]
          exact .inl ⟨⟨_, rfl⟩, .inl hs⟩
        · rw [if_neg hs, or_iff_right hs]
          have hne := hm s
          cases hconvert : m.convert s with
          | ok u => exact .inl ⟨⟨u, rfl⟩, rfl⟩
          | error e => exact .inr ⟨⟨e, rfl, fun he => hne (he ▸ hconvert)⟩, Bool.false_ne_true⟩
      obtain ⟨⟨u, hu⟩, hok⟩ | ⟨⟨e, he, hne⟩, hnot⟩ := hread
      · rw [hu, and_iff_right hok]
        dsimp only
        obtain ⟨⟨v, hv⟩, hlacks⟩ | ⟨hv, hlacks⟩ | ⟨⟨e, hv, hne⟩, hlacks⟩ := hms
        · rw [hv]
          exact .inl ⟨⟨_, rfl⟩, hlacks⟩
        · rw [hv]
          exact .inr (.inl ⟨rfl, hlacks⟩)
        · rw [hv]
          exact .inr (.inr ⟨⟨e, rfl, hne⟩, hlacks⟩)
      · rw [he]
        exact .inr (.inr ⟨⟨e, rfl, hne⟩, fun hlacks => hnot hlacks.1⟩)

theorem isDecimal_nil : isDecimal [] = false := rfl

/-- A member of a well-formed track has a text. -/
theorem WellFormed.hasText (h : WellFormed track) {m : Member} (hm : m ∈ members cameraRotation) :
    ∃ s, track.get m.name = some s ∧ s ≠ [] := by
  have hname : m.name ∈ ["angle", "iD", "latitude", "longitude", "speed"] := by
    simp only [members, List.mem_cons, List.not_mem_nil, or_false] at hm
    obtain rfl | rfl | rfl | rfl | rfl := hm <;> simp [angle, iD, latitude, longitude, speed]
  obtain ⟨s, hs, hdecimal⟩ := h _ hname
  refine ⟨s, hs, ?_⟩
  rintro rfl
  rw [isDecimal_nil] at hdecimal
  exact Bool.false_ne_true hdecimal

theorem not_lacks (h : ∀ m ∈ ms, ∃ s, track.get m.name = some s ∧ s ≠ []) : ¬ Lacks track ms := by
  induction ms with
  | nil => exact id
  | cons m ms ih =>
    obtain ⟨s, hs, -⟩ := h m List.mem_cons_self
    unfold Lacks
    rw [hs]
    exact fun hlacks => ih (fun m' hm' => h m' (List.mem_cons_of_mem _ hm')) hlacks.2

theorem WellFormed.not_lacks (h : WellFormed track) : ¬ Lacks track (members cameraRotation) :=
  Flir.not_lacks fun _ hm => h.hasText hm

theorem WellFormed.read (cameraRotation : ℚ) (h : WellFormed track) {m : Member} {u : Fields → Fields}
    (hm : m ∈ members cameraRotation) (hu : m.read track = .ok u) : ∃ s, m.convert s = .ok u := by
  obtain ⟨s, hs, hne⟩ := h.hasText hm
  unfold Member.read at hu
  rw [hs] at hu
  dsimp only at hu
  rw [if_neg hne] at hu
  exact ⟨s, hu⟩

theorem map_eq_ok {α β : Type} {r : Except Exception α} {g : α → β} {b : β} (h : r.map g = .ok b) : ∃ a, g a = b := by
  cases r with
  | error e => nomatch h
  | ok a => exact ⟨a, Except.ok.inj h⟩

theorem update_cons_ok {m : Member} {u : Fields → Fields} (h : update track (m :: ms) = .ok u) :
    ∃ v w, m.read track = .ok v ∧ update track ms = .ok w ∧ u = w ∘ v := by
  unfold update at h
  cases hv : m.read track with
  | error e => rw [hv] at h; nomatch h
  | ok v =>
    rw [hv] at h
    dsimp only at h
    cases hw : update track ms with
    | error e => rw [hw] at h; nomatch h
    | ok w =>
      rw [hw] at h
      exact ⟨v, w, rfl, rfl, (Except.ok.inj h).symm⟩

/-- Nothing of the tracks before is left in the fields of a well-formed track. -/
theorem WellFormed.update_const (h : WellFormed track) {u : Fields → Fields}
    (hu : update track (members cameraRotation) = .ok u) (f g : Fields) : u f = u g := by
  obtain ⟨u1, v1, h1, hv1, rfl⟩ := update_cons_ok hu
  obtain ⟨u2, v2, h2, hv2, rfl⟩ := update_cons_ok hv1
  obtain ⟨u3, v3, h3, hv3, rfl⟩ := update_cons_ok hv2
  obtain ⟨u4, v4, h4, hv4, rfl⟩ := update_cons_ok hv3
  obtain ⟨u5, v5, h5, hv5, rfl⟩ := update_cons_ok hv4
  obtain rfl := Except.ok.inj hv5
  obtain ⟨s1, h1⟩ := h.read cameraRotation (by simp [members]) h1
  obtain ⟨s2, h2⟩ := h.read cameraRotation (by simp [members]) h2
  obtain ⟨s3, h3⟩ := h.read cameraRotation (by simp [members]) h3
  obtain ⟨s4, h4⟩ := h.read cameraRotation (by simp [members]) h4
  obtain ⟨s5, h5⟩ := h.read cameraRotation (by simp [members]) h5
  obtain ⟨a1, rfl⟩ := map_eq_ok h1
  obtain ⟨a2, rfl⟩ := map_eq_ok h2
  obtain ⟨a3, rfl⟩ := map_eq_ok h3
  obtain ⟨a4, rfl⟩ := map_eq_ok h4
  obtain ⟨a5, rfl⟩ := map_eq_ok h5
  rfl

/-! ### Messages -/

theorem messages_cons {track : Ptree} {rest : List (Str × Ptree)} {q : List Message} :
    messages cameraRotation n ((time, track) :: rest) = some q ↔ ∃ psm ms, psm? cameraRotation n time track = some psm ∧
      messages cameraRotation (n + 1) rest = some ms ∧ q = ⟨time, track, psm⟩ :: ms := by
  have hunfold : messages cameraRotation n ((time, track) :: rest) =
      match psm? cameraRotation n time track, messages cameraRotation (n + 1) rest with
      | some psm, some ms => some (⟨time, track, psm⟩ :: ms)
      | _, _ => none := rfl
  rw [hunfold]
  cases psm? cameraRotation n time track with
  | none => exact iff_of_false nofun fun ⟨_, _, h, _⟩ => nomatch h
  | some psm =>
    cases messages cameraRotation (n + 1) rest with
    | none => exact iff_of_false nofun fun ⟨_, _, _, h, _⟩ => nomatch h
    | some ms =>
      constructor
      · intro h
        exact ⟨psm, ms, rfl, rfl, (Option.some.inj h).symm⟩
      · rintro ⟨_, _, hpsm, hms, rfl⟩
        obtain rfl := Option.some.inj hpsm
        obtain rfl := Option.some.inj hms
        rfl

theorem messages_track {l : List (Str × Ptree)} {q : List Message} (h : messages cameraRotation n l = some q) {m : Message}
    (hm : m ∈ q) : (m.time, m.track) ∈ l := by
  induction l generalizing n q with
  | nil =>
    obtain rfl := Option.some.inj h
    exact absurd hm List.not_mem_nil
  | cons a l ih =>
    obtain ⟨psm, ms, -, hms, rfl⟩ := messages_cons.1 h
    obtain rfl | hm := List.mem_cons.1 hm
    · exact List.mem_cons_self
    · exact List.mem_cons_of_mem _ (ih hms hm)

/-- The messages for more tracks come behind the ones that are there. -/
theorem messages_append {l l' : List (Str × Ptree)} {q q' : List Message} (h : messages cameraRotation n l = some q) :
    messages cameraRotation n (l ++ l') = some q' ↔
      ∃ ms, messages cameraRotation (n + q.length) l' = some ms ∧ q' = q ++ ms := by
  induction l generalizing n q q' with
  | nil =>
    obtain rfl := Option.some.inj h
    simp only [List.nil_append, List.length_nil, Nat.add_zero, exists_eq_right']
  | cons a l ih =>
    obtain ⟨psm, ms, hpsm, hms, rfl⟩ := messages_cons.1 h
    rw [List.cons_append, messages_cons, hpsm, List.length_cons, ← Nat.add_assoc, Nat.add_right_comm]
    constructor
    · rintro ⟨_, ms', hpsm', hms', rfl⟩
      obtain rfl := Option.some.inj hpsm'
      obtain ⟨rest, hrest, rfl⟩ := (ih hms).1 hms'
      exact ⟨rest, hrest, rfl⟩
    · rintro ⟨rest, hrest, rfl⟩
      exact ⟨psm, ms ++ rest, rfl, (ih hms).2 ⟨rest, hrest, rfl⟩, rfl⟩

/-! ### The loop over the tracks -/

theorem tracks_append (cameraRotation : ℚ) (time : Str) (s : Session) (f : Fields) (l : List Ptree) :
    ∃ new, (s.tracks cameraRotation time f l).queued = s.queued ++ new := by
  induction l generalizing s f with
  | nil => exact ⟨[], (List.append_nil _).symm⟩
  | cons track rest ih =>
    unfold Session.tracks
    cases readMembers track (members cameraRotation) f with
    | error e => cases e <;> exact ⟨[], (List.append_nil _).symm⟩
    | ok f =>
      cases timeStringParser time with
      | error e => exact ⟨[], (List.append_nil _).symm⟩
      | ok dateTimeArr =>
        obtain ⟨new, hnew⟩ := ih (s.push time track dateTimeArr f) f
        exact ⟨_, hnew.trans (List.append_assoc _ _ _)⟩

/-- The loop leaves no exception and the messages of the well-formed tracks behind those that were there. -/
structure Through (cameraRotation : ℚ) (time : Str) (l : List Ptree) (s t : Session) : Prop where
  escaped : t.escaped = none
  queued : ∃ ms, messages cameraRotation s.queued.length (timedTracks time l) = some ms ∧ t.queued = s.queued ++ ms

theorem timedTracks_cons_of_pos {rest : List Ptree} (h : WellFormed track) :
    timedTracks time (track :: rest) = (time, track) :: timedTracks time rest := by
  unfold timedTracks
  rw [List.filter_cons_of_pos (p := fun track => decide (WellFormed track)) (decide_eq_true h), List.map_cons]

theorem timedTracks_eq_nil {l : List Ptree} : timedTracks time l = [] ↔ ∀ t ∈ l, ¬ WellFormed t := by
  unfold timedTracks
  rw [List.map_eq_nil_iff, List.filter_eq_nil_iff]
  simp only [decide_eq_true_eq]

theorem not_through_throw {l : List Ptree} {e : Exception} : ¬ Through cameraRotation time l s (s.throw e) :=
  fun h => nomatch h.escaped

theorem through_self {l : List Ptree} (h : s.escaped = none) :
    Through cameraRotation time l s s ↔ ∀ t ∈ l, ¬ WellFormed t := by
  have hnil : timedTracks time l = [] ↔ _ := timedTracks_eq_nil
  rw [← hnil]
  constructor
  · rintro ⟨-, ms, hms, hqueued⟩
    obtain rfl := List.self_eq_append_right.1 hqueued
    by_contra hne
    obtain ⟨⟨time', track⟩, rest, hcons⟩ := List.exists_cons_of_ne_nil hne
    rw [hcons] at hms
    obtain ⟨_, _, _, _, h⟩ := messages_cons.1 hms
    nomatch h
  · intro hnil
    exact ⟨h, [], by rw [hnil]; rfl, (List.append_nil _).symm⟩

/-- A message of a track that is not well formed is one too many. -/
theorem not_through_of_not_wellFormed {rest : List Ptree} {new : List Message} {m : Message} (hmessage : m.track = track)
    (hnot : ¬ WellFormed track) (hqueued : t.queued = s.queued ++ m :: new) :
    ¬ Through cameraRotation time (track :: rest) s t := by
  rintro ⟨-, ms, hms, heq⟩
  obtain rfl := List.append_cancel_left (hqueued.symm.trans heq)
  have hmem := messages_track hms List.mem_cons_self
  unfold timedTracks at hmem
  obtain ⟨track', htrack', heq⟩ := List.mem_map.1 hmem
  obtain rfl : track' = track := (Prod.mk.inj heq).2.trans hmessage
  exact hnot (of_decide_eq_true (List.mem_filter.1 htrack').2)

/-- The message of a well-formed track is the right one if it was not cut off. -/
theorem through_cons {rest : List Ptree} {psm : Str} (hwellFormed : WellFormed track)
    (hpsm : psm? cameraRotation s.queued.length time track = some psm) {u : Session}
    (hu : u.queued = s.queued ++ [⟨time, track, psm.take 9999⟩]) (ht : ∃ new, t.queued = u.queued ++ new) :
    Through cameraRotation time (track :: rest) s t ↔ psm.length < 10000 ∧ Through cameraRotation time rest u t := by
  have hlength : u.queued.length = s.queued.length + 1 := by rw [hu, List.length_append, List.length_singleton]
  obtain ⟨new, hnew⟩ := ht
  have hqueued : t.queued = s.queued ++ ⟨time, track, psm.take 9999⟩ :: new := by
    rw [hnew, hu, List.append_assoc, List.singleton_append]
  have hcut : psm.take 9999 = psm ↔ psm.length < 10000 := by
    rw [List.take_eq_self_iff]
    omega
  constructor
  · rintro ⟨hescaped, ms, hms, heq⟩
    rw [timedTracks_cons_of_pos hwellFormed] at hms
    obtain ⟨psm', rest', hpsm', hrest, rfl⟩ := messages_cons.1 hms
    obtain rfl := Option.some.inj (hpsm.symm.trans hpsm')
    obtain ⟨hhead, rfl⟩ := List.cons.inj (List.append_cancel_left (hqueued.symm.trans heq))
    exact ⟨hcut.1 (Message.mk.inj hhead).2.2, hescaped, new, hlength ▸ hrest, hnew⟩
  · rintro ⟨hshort, hescaped, ms, hms, heq⟩
    refine ⟨hescaped, ⟨time, track, psm⟩ :: ms, ?_, ?_⟩
    · rw [timedTracks_cons_of_pos hwellFormed]
      exact messages_cons.2 ⟨psm, ms, hpsm, hlength ▸ hms, rfl⟩
    · obtain rfl := List.append_cancel_left (hnew.symm.trans heq)
      rw [hqueued, hcut.2 hshort]

theorem psm?_of_error {e : Exception} (h : update track (members cameraRotation) = .error e) :
    psm? cameraRotation n time track = none := by
  unfold psm?
  rw [readMembers_eq, h]
  rfl

theorem psm?_of_time {e : Exception} (h : timeStringParser time = .error e) : psm? cameraRotation n time track = none := by
  unfold psm?
  rw [h]
  cases readMembers track (members cameraRotation) .init <;> rfl

theorem psm?_of_ok {u : Fields → Fields} {d : DateTime} (hu : update track (members cameraRotation) = .ok u)
    (hd : timeStringParser time = .ok d) :
    psm? cameraRotation n time track = some (psmText d ((n + 1) % 128) (u .init)) := by
  unfold psm?
  rw [readMembers_eq, hu, hd]
  rfl

theorem msgCount_push {d : DateTime} (h : s.msgCount = s.queued.length % 128) :
    (s.push time track d f).msgCount = (s.queued.length + 1) % 128 := by
  unfold Session.push
  dsimp only
  rw [h]
  split_ifs <;> omega

theorem queued_push {d : DateTime} (h : s.msgCount = s.queued.length % 128) :
    (s.push time track d f).queued =
      s.queued ++ [⟨time, track, (psmText d ((s.queued.length + 1) % 128) f).take 9999⟩] := by
  have hcount : (s.push time track d f).msgCount = _ := msgCount_push h
  unfold Session.push at hcount ⊢
  dsimp only at hcount ⊢
  rw [hcount]

theorem length_push {d : DateTime} : (s.push time track d f).queued.length = s.queued.length + 1 := by
  unfold Session.push
  rw [List.length_append, List.length_singleton]

/-- By induction on the tracks, with the fields that the tracks before have left. -/
theorem tracks_iff {l : List Ptree} (hescaped : s.escaped = none) (hcount : s.msgCount = s.queued.length % 128) :
    Through cameraRotation time l s (s.tracks cameraRotation time f l) ↔
      SoundTracks cameraRotation time s.queued.length l := by
  induction l generalizing s f with
  | nil => exact iff_of_true ((through_self hescaped).2 nofun) trivial
  | cons track rest ih =>
    have hcases := update_cases track fun m (hm : m ∈ members cameraRotation) s => convert_ne_bad_path hm s
    have hread : readMembers track (members cameraRotation) f = _ := readMembers_eq
    unfold Session.tracks SoundTracks
    rw [hread]
    obtain ⟨⟨u, hu⟩, hlacks⟩ | ⟨hu, hlacks⟩ | ⟨⟨e, hu, hne⟩, hlacks⟩ := hcases
    · rw [hu, or_iff_left (fun h => hlacks h.1)]
      dsimp only [Except.map]
      cases hd : timeStringParser time with
      | error e =>
        rw [psm?_of_time hd]
        exact iff_of_false not_through_throw fun ⟨_, ⟨_, h, _⟩, _⟩ => nomatch h
      | ok d =>
        dsimp only
        have hpush : (s.push time track d (u f)).queued = _ := queued_push hcount
        have happend := tracks_append cameraRotation time (s.push time track d (u f)) (u f) rest
        by_cases hwellFormed : WellFormed track
        · have hsame := hwellFormed.update_const hu f .init
          have hpsm := psm?_of_ok (n := s.queued.length) hu hd
          rw [hsame] at hpush happend ⊢
          have hnext := ih (s := s.push time track d (u .init)) (f := u .init) hescaped
            ((msgCount_push hcount).trans (by rw [length_push]))
          rw [length_push] at hnext
          rw [through_cons hwellFormed hpsm hpush happend, hnext, hpsm, and_iff_right hwellFormed]
          simp only [Option.mem_def, Option.some.injEq, exists_eq_left']
        · obtain ⟨new, hnew⟩ := happend
          rw [hpush, List.append_assoc, List.singleton_append] at hnew
          exact iff_of_false (not_through_of_not_wellFormed rfl hwellFormed hnew) fun h => hwellFormed h.1
    · rw [hu, psm?_of_error hu, and_iff_right hlacks]
      dsimp only [Except.map]
      have hnot : ¬ WellFormed track := fun h => h.not_lacks hlacks
      rw [through_self hescaped, List.forall_mem_cons, and_iff_right hnot]
      exact (or_iff_right fun ⟨_, ⟨_, h, _⟩, _⟩ => nomatch h).symm
    · rw [hu, psm?_of_error hu]
      refine iff_of_false ?_ fun h => h.elim (fun ⟨_, ⟨_, h, _⟩, _⟩ => nomatch h) fun h => hlacks h.1
      cases e with
      | ptree_bad_path => exact absurd rfl hne
      | number e => exact not_through_throw
      | undefined => exact not_through_throw

/-! ### One text -/

theorem msgCount_tracks {l : List Ptree} (hcount : s.msgCount = s.queued.length % 128) :
    (s.tracks cameraRotation time f l).msgCount = (s.tracks cameraRotation time f l).queued.length % 128 := by
  induction l generalizing s f with
  | nil => exact hcount
  | cons track rest ih =>
    unfold Session.tracks
    cases readMembers track (members cameraRotation) f with
    | error e => cases e <;> exact hcount
    | ok f =>
      cases timeStringParser time with
      | error e => exact hcount
      | ok d => exact ih ((msgCount_push hcount).trans (by rw [length_push]))

/-- What the runs keep besides: the counter. -/
structure Inv (cameraRotation : ℚ) (read_json : Str → Option Ptree) (tr : List Str) (s : Session) : Prop
    extends Survives cameraRotation read_json tr s where
  count : s.msgCount = s.queued.length % 128

theorem not_survives_throw {e : Exception} : ¬ Survives cameraRotation read_json tr (s.throw e) := fun h => nomatch h.escaped

/-- The messages of one more text. -/
theorem queued_iff {q : List Message} (h : Survives cameraRotation read_json tr s) :
    messages cameraRotation 0 ((tr ++ [text]).flatMap (wellFormedTracks read_json)) = some q ↔
      ∃ ms, messages cameraRotation s.queued.length (wellFormedTracks read_json text) = some ms ∧ q = s.queued ++ ms := by
  rw [List.flatMap_append, List.flatMap_singleton, messages_append h.queued, Nat.zero_add]

/-- A text without a well-formed track behind which the next one is read. -/
theorem Survives.silent (h : Survives cameraRotation read_json tr s) (htext : wellFormedTracks read_json text = [])
    (hescaped : t.escaped = none) (hqueued : t.queued = s.queued) :
    Survives cameraRotation read_json (tr ++ [text]) t.async_read where
  escaped := hescaped
  reading := rfl
  queued := by
    rw [queued_iff h, htext]
    exact ⟨[], rfl, hqueued.trans (List.append_nil _).symm⟩

theorem finish_iff {l : List Ptree} (h : Survives cameraRotation read_json tr s)
    (htext : wellFormedTracks read_json text = timedTracks time l) (hreading : t.reading = false) :
    Survives cameraRotation read_json (tr ++ [text]) t.finish ↔ Through cameraRotation time l s t := by
  unfold Session.finish
  cases hescaped : t.escaped with
  | some e =>
    refine iff_of_false (fun ht => ?_) fun ht => nomatch hescaped.symm.trans ht.escaped
    exact Bool.false_ne_true (hreading.symm.trans ht.reading)
  | none =>
    constructor
    · intro ht
      have hqueued := ht.queued
      rw [queued_iff h, htext] at hqueued
      exact ⟨hescaped, hqueued⟩
    · rintro ⟨-, hqueued⟩
      refine ⟨hescaped, rfl, ?_⟩
      rw [queued_iff h, htext]
      exact hqueued

theorem reading_tracks {l : List Ptree} : (s.tracks cameraRotation time f l).reading = s.reading := by
  induction l generalizing s f with
  | nil => rfl
  | cons track rest ih =>
    unfold Session.tracks
    cases readMembers track (members cameraRotation) f with
    | error e => cases e <;> rfl
    | ok f =>
      cases timeStringParser time with
      | error e => rfl
      | ok d => exact ih

theorem wellFormedTracks_of_ne {pr : Ptree} (hread : read_json text = some pr)
    (h : ¬ (pr.get "messageType" = some (CString.lit "Data") ∧
      pr.get "type" = some (CString.lit "PedestrianPresenceTracking"))) : wellFormedTracks read_json text = [] := by
  unfold wellFormedTracks
  rw [hread]
  exact if_neg h

theorem on_read_iff (h : Inv cameraRotation read_json tr s) :
    Survives cameraRotation read_json (tr ++ [text]) (s.on_read cameraRotation read_json text) ↔
      Sound cameraRotation read_json s text := by
  unfold Session.on_read Sound
  cases hread : read_json text with
  | none => exact iff_of_false not_survives_throw id
  | some pr =>
    dsimp only [Option.getD_some]
    cases hmessage : pr.get "messageType" with
    | none => exact iff_of_false not_survives_throw id
    | some messageType =>
      dsimp only
      by_cases hsubscription : messageType = CString.lit "Subscription"
      · rw [if_pos hsubscription, if_pos hsubscription]
        cases (pr.get_child "subscription").bind (Ptree.get "returnValue") with
        | none => exact iff_of_false not_survives_throw Bool.false_ne_true
        | some status =>
          refine iff_of_true (h.silent (wellFormedTracks_of_ne hread ?_) h.escaped rfl) rfl
          rw [hmessage, hsubscription]
          exact fun hdata => absurd (Option.some.inj hdata.1) (by decide)
      · rw [if_neg hsubscription, if_neg hsubscription]
        by_cases hdata : messageType = CString.lit "Data"
        · rw [if_pos hdata, if_pos hdata]
          cases htime : pr.get "time" with
          | none => exact iff_of_false not_survives_throw id
          | some time =>
            dsimp only
            cases htype : pr.get "type" with
            | none => exact iff_of_false not_survives_throw id
            | some type =>
              dsimp only
              by_cases htracking : type = CString.lit "PedestrianPresenceTracking"
              · rw [if_pos htracking, forall_prop_of_true htracking]
                have htext : wellFormedTracks read_json text = match pr.get_child "track" with
                    | some track => timedTracks time (track.children.map Prod.snd)
                    | none => [] := by
                  unfold wellFormedTracks
                  rw [hread]
                  dsimp only
                  rw [hmessage, htype, htime, hdata, htracking, if_pos ⟨rfl, rfl⟩]
                  cases pr.get_child "track" <;> rfl
                cases htrack : pr.get_child "track" with
                | none =>
                  rw [htrack] at htext
                  exact iff_of_true (h.silent htext h.escaped rfl) nofun
                | some track =>
                  rw [htrack] at htext
                  have hsame : ∀ {t : Session}, Through cameraRotation time (track.children.map Prod.snd) s t ↔
                      Through cameraRotation time (track.children.map Prod.snd) { s with reading := false } t :=
                    ⟨fun ht => ⟨ht.1, ht.2⟩, fun ht => ⟨ht.1, ht.2⟩⟩
                  simp only [Option.mem_def, Option.some.injEq, forall_eq']
                  rw [finish_iff h.toSurvives htext reading_tracks, hsame]
                  exact tracks_iff h.escaped h.count
              · rw [if_neg htracking]
                refine iff_of_true (h.silent (wellFormedTracks_of_ne hread ?_) h.escaped rfl) fun h => absurd h htracking
                rw [htype]
                exact fun hdata => htracking (Option.some.inj hdata.2)
        · rw [if_neg hdata, if_neg hdata]
          refine iff_of_true (h.silent (wellFormedTracks_of_ne hread ?_) h.escaped rfl) trivial
          rw [hmessage]
          exact fun h => hdata (Option.some.inj h.1)

theorem count_finish (h : t.msgCount = t.queued.length % 128) : t.finish.msgCount = t.finish.queued.length % 128 := by
  unfold Session.finish
  cases t.escaped <;> exact h

/-- The counter is the number of the messages in every branch. -/
theorem count_on_read (h : s.msgCount = s.queued.length % 128) :
    (s.on_read cameraRotation read_json text).msgCount = (s.on_read cameraRotation read_json text).queued.length % 128 := by
  unfold Session.on_read
  dsimp only
  generalize (read_json text).getD (.node [] []) = pr
  cases pr.get "messageType" with
  | none => exact h
  | some messageType =>
    dsimp only
    split_ifs
    · cases (pr.get_child "subscription").bind (Ptree.get "returnValue") <;> exact h
    · cases pr.get "time" with
      | none => exact h
      | some time =>
        dsimp only
        cases pr.get "type" with
        | none => exact h
        | some type =>
          dsimp only
          split_ifs
          · cases pr.get_child "track" with
            | none => exact h
            | some track => exact count_finish (msgCount_tracks h)
          · exact h
    · exact h

theorem inv_init : Inv cameraRotation read_json [] Session.init := ⟨⟨rfl, rfl, rfl⟩, rfl⟩

theorem inv_step {t : Session} (h : Inv cameraRotation read_json tr s)
    (hstep : s.step cameraRotation read_json text = some t) :
    t.msgCount = t.queued.length % 128 ∧
      (Survives cameraRotation read_json (tr ++ [text]) t ↔ Sound cameraRotation read_json s text) := by
  unfold Session.step at hstep
  rw [if_pos h.reading] at hstep
  obtain rfl := Option.some.inj hstep
  exact ⟨count_on_read h.count, on_read_iff h⟩

/-! ### Runs -/

theorem run_iff {texts : List Str} (h : (session cameraRotation read_json).exec Session.init texts = some s) :
    (∀ tr t, tr <+: texts → (session cameraRotation read_json).exec Session.init tr = some t →
        Survives cameraRotation read_json tr t) ↔
      (session cameraRotation read_json).Meets (Sound cameraRotation read_json) Session.init texts :=
  Machine.always_iff_meets (M := session cameraRotation read_json) inv_init
    (fun _ _ _ _ hinv hsound hstep => ⟨(inv_step hinv hstep).2.2 hsound, (inv_step hinv hstep).1⟩)
    (fun _ _ hinv => hinv.toSurvives) (fun _ _ _ _ hinv hstep hsurvives => (inv_step hinv hstep).2.1 hsurvives) h

/-- As long as the texts are sound the next one is read. -/
theorem exec_of_meets {texts : List Str}
    (h : (session cameraRotation read_json).Meets (Sound cameraRotation read_json) Session.init texts) :
    ∃ s, (session cameraRotation read_json).exec Session.init texts = some s := by
  induction texts using List.reverseRecOn with
  | nil => exact ⟨_, rfl⟩
  | append_singleton texts text ih =>
    obtain ⟨s, hs⟩ := ih h.prefix
    have hreading := ((run_iff hs).2 h.prefix texts s (List.prefix_refl _) hs).reading
    exact ⟨_, Machine.exec_concat.2 ⟨s, hs, if_pos hreading⟩⟩

/-- For any rotation of the camera, any parser of JSON and any sequence of texts: every text is received, and behind every one
nothing has left `on_read`, the next text is read and the PSMs are those of the well-formed tracks so far, if and only if
every text is sound. -/
theorem flir_stream (cameraRotation : ℚ) (read_json : Str → Option Ptree) (texts : List Str) :
    (∀ tr, tr <+: texts → ∃ s, (session cameraRotation read_json).exec Session.init tr = some s ∧
        Survives cameraRotation read_json tr s) ↔
      (session cameraRotation read_json).Meets (Sound cameraRotation read_json) Session.init texts := by
  constructor
  · intro hall
    obtain ⟨s, hs, -⟩ := hall texts (List.prefix_refl _)
    refine (run_iff hs).1 fun tr t htr ht => ?_
    obtain ⟨t', ht', hsurvives⟩ := hall tr htr
    obtain rfl := Option.some.inj (ht.symm.trans ht')
    exact hsurvives
  · rintro h tr ⟨rest, rfl⟩
    obtain ⟨s, hs⟩ := exec_of_meets h.prefix
    exact ⟨s, hs, (run_iff hs).2 h.prefix tr s (List.prefix_refl _) hs⟩

def leaf (name data : String) : Str × Ptree := (CString.lit name, .node (CString.lit data) [])

/-- A message with one track, of which `angle` is no number. -/
def north : Str := 123 :: CString.lit ("\"messageType\":\"Data\",\"time\":\"2022-04-20T15:25:51.001-04:00\"," ++
  "\"track\":[\x7b\"angle\":\"N\"\x7d],\"type\":\"PedestrianPresenceTracking\"\x7d")

/-- For this message, and for what does not start like it and is no JSON. -/
def readNorth (text : Str) : Option Ptree :=
  if text.head? = some 123 then
    some (.node [] [leaf "messageType" "Data", leaf "time" "2022-04-20T15:25:51.001-04:00",
      (CString.lit "track", .node [] [([], .node [] [leaf "angle" "N"])]), leaf "type" "PedestrianPresenceTracking"])
  else none

/-- What `get_child` throws for a text that is no JSON, and what `stoi` throws, is caught nowhere. -/
theorem flir_stream_fails :
    (∃ s, (session 0 readNorth).exec Session.init [CString.lit "FLIR"] = some s ∧ s.escaped = some .ptree_bad_path ∧
      s.reading = false) ∧
    ∃ s, (session 0 readNorth).exec Session.init [north] = some s ∧ s.escaped = some (.number .invalid_argument) ∧
      s.reading = false :=
  ⟨⟨_, rfl, rfl, rfl⟩, _, rfl, rfl, rfl⟩

end V2xHub.PedestrianPlugin.Flir
