import V2xHub.Lib.Machine
import V2xHub.Lib.Printf
import V2xHub.Lib.Strtol
import Mathlib.Data.List.Sort
import Mathlib.Data.List.TakeWhile

/-!
# Pedestrian detections in SPaT

`updateEncodedSpat` makes a new maneuver assist list for the first intersection if it finds a zone in the text. It looks for the
zones in a buffer without a NUL at the end, and what the memory holds behind it is taken for text as well. The list of an earlier
call stays where a text has no zone.
-/

namespace V2xHub.SpatPlugin.PedestrianDetectionForSPAT

structure ConnectionManeuverAssist where
  connectionID : Int
  pedBicycleDetect : Option Bool
deriving DecidableEq

structure Intersection where
  maneuverAssistList : Option (List ConnectionManeuverAssist)
deriving DecidableEq

/-- The intersections of the SPAT. -/
abbrev Spat := List Intersection

/-! ### `strtok_r` -/

def comma : UInt8 := 44

/-- The tokens that are complete, and the one that is not. -/
structure Scan where
  tokens : List Str
  current : Str

def flush (current : Str) : List Str := if current = [] then [] else [current]

def Scan.push (t : Scan) (c : UInt8) : Scan :=
  if c = comma then ⟨t.tokens ++ flush t.current, []⟩ else ⟨t.tokens, t.current ++ [c]⟩

def scan (current s : Str) : Scan := s.foldl Scan.push ⟨[], current⟩

/-- The tokens of a text behind the start of one. -/
def tokensFrom (current s : Str) : List Str := (scan current s).tokens ++ flush (scan current s).current

/-- The text that the program sees in a buffer, in front of the memory behind it. -/
def cstring (buffer behind : Str) : Str := (buffer ++ behind).takeWhile (· ≠ 0)

def zonesOf (s : Str) : List Int := (tokensFrom [] s).map Strtol.strtol

def detection (connectionId : Int) : ConnectionManeuverAssist where
  connectionID := connectionId
  pedBicycleDetect := some true

/-- With the memory behind the buffer, up to the first NUL. -/
def updateEncodedSpat (behind : Str) (spat : Spat) (currentPedLanes : Str) : Spat :=
  match spat with
  | [] => []
  | intersection :: others =>
    if currentPedLanes.length = 0 then spat
    else
      let zones := zonesOf (cstring currentPedLanes behind)
      if zones = [] then spat
      else { intersection with maneuverAssistList := some ((zones.insertionSort (· ≤ ·)).map detection) } :: others

example : updateEncodedSpat [] [⟨none⟩] (CString.lit "7,3,,3") = [⟨some [detection 3, detection 3, detection 7]⟩] := by decide

/-! ### What the program reads -/

theorem push_append (tokens : List Str) (t : Scan) (c : UInt8) :
    Scan.push ⟨tokens ++ t.tokens, t.current⟩ c = ⟨tokens ++ (t.push c).tokens, (t.push c).current⟩ := by
  unfold Scan.push
  split_ifs
  · rw [List.append_assoc]
  · rfl

theorem foldl_push (tokens : List Str) (t : Scan) (s : Str) :
    s.foldl Scan.push ⟨tokens ++ t.tokens, t.current⟩ = ⟨tokens ++ (s.foldl Scan.push t).tokens, (s.foldl Scan.push t).current⟩ := by
  induction s generalizing t with
  | nil => rfl
  | cons c s ih => rw [List.foldl_cons, push_append, ih, List.foldl_cons]

theorem scan_append (current s b : Str) : scan current (s ++ b) =
    ⟨(scan current s).tokens ++ (scan (scan current s).current b).tokens, (scan (scan current s).current b).current⟩ := by
  have hfold := foldl_push (scan current s).tokens ⟨[], (scan current s).current⟩ b
  rw [List.append_nil] at hfold
  exact List.foldl_append.trans hfold

theorem tokensFrom_append (current s b : Str) :
    tokensFrom current (s ++ b) = (scan current s).tokens ++ tokensFrom (scan current s).current b := by
  rw [tokensFrom, scan_append, tokensFrom, List.append_assoc]

theorem tokensFrom_comma (current s : Str) : tokensFrom current (comma :: s) = flush current ++ tokensFrom [] s := by
  rw [← List.singleton_append, tokensFrom_append]
  rfl

theorem tokensFrom_cons {c : UInt8} (hc : c ≠ comma) (current s : Str) : tokensFrom current (c :: s) =
    tokensFrom (current ++ [c]) s := by
  rw [tokensFrom, scan, List.foldl_cons, Scan.push, if_neg hc, tokensFrom, scan]

theorem tokensFrom_nil (current : Str) : tokensFrom current [] = flush current := rfl

/-- Up to the first comma the text goes on with the token. -/
theorem tokensFrom_takeWhile (current s : Str) :
    tokensFrom current s = flush (current ++ s.takeWhile (· ≠ comma)) ++ tokensFrom [] (s.dropWhile (· ≠ comma)) := by
  induction s generalizing current with
  | nil =>
    rw [List.takeWhile_nil, List.dropWhile_nil, tokensFrom_nil, tokensFrom_nil, List.append_nil]
    exact (List.append_nil _).symm
  | cons c s ih =>
    by_cases hc : c = comma
    · subst hc
      rw [List.takeWhile_cons_of_neg (by simp), List.dropWhile_cons_of_neg (by simp), List.append_nil, tokensFrom_comma,
        tokensFrom_comma]
      rfl
    · rw [List.takeWhile_cons_of_pos (by simpa using hc), List.dropWhile_cons_of_pos (by simpa using hc), tokensFrom_cons hc, ih,
        List.append_assoc, List.singleton_append]

theorem tokensFrom_ne_nil {current : Str} (h : current ≠ []) (s : Str) : tokensFrom current s ≠ [] := by
  rw [tokensFrom_takeWhile, flush, if_neg (List.append_ne_nil_of_left_ne_nil h _)]
  exact List.cons_ne_nil _ _

theorem tokensFrom_eq_nil {s : Str} : tokensFrom [] s = [] ↔ ∀ c ∈ s, c = comma := by
  induction s with
  | nil => simp [tokensFrom_nil, flush]
  | cons c s ih =>
    by_cases hc : c = comma
    · subst hc
      rw [tokensFrom_comma, List.forall_mem_cons, ← ih]
      simp [flush]
    · rw [tokensFrom_cons hc]
      refine iff_of_false (tokensFrom_ne_nil (List.cons_ne_nil _ _) _) fun h => hc (h c List.mem_cons_self)

theorem tokensFrom_append_of_not_mem {s : Str} (hs : comma ∉ s) (current t : Str) :
    tokensFrom current (s ++ t) = tokensFrom (current ++ s) t := by
  induction s generalizing current with
  | nil => rw [List.nil_append, List.append_nil]
  | cons c s ih =>
    rw [List.cons_append, tokensFrom_cons (fun hc => hs (hc ▸ List.mem_cons_self)), ih fun h => hs (List.mem_cons_of_mem c h),
      List.append_assoc, List.singleton_append]

/-! ### Lists of zones -/

theorem digitValue_digit {d : Nat} (h : d < 10) : Strtol.digitValue (Printf.digit d) = d := by
  have hd := Printf.toNat_digit h
  have hisdigit : Strtol.isdigit (Printf.digit d) = true := by
    rw [Strtol.isdigit, Bool.and_eq_true, decide_eq_true_eq, decide_eq_true_eq, UInt8.le_iff_toNat_le, UInt8.le_iff_toNat_le, hd]
    exact ⟨Nat.le_add_right 48 d, Nat.add_le_add_left (Nat.le_of_lt_succ h) 48⟩
  rw [Strtol.digitValue, if_pos hisdigit, hd, Nat.add_sub_cancel_left]

theorem foldl_decimal (n : Nat) : (Printf.decimal n).foldl (fun n c => 10 * n + Strtol.digitValue c) 0 = n := by
  induction n using Nat.strongRecOn with
  | ind n ih =>
    by_cases hn : n < 10
    · rw [Printf.decimal_of_lt hn, List.foldl_cons, List.foldl_nil, digitValue_digit hn, Nat.mul_zero, Nat.zero_add]
    · have hmod : n % 10 < 10 := Nat.mod_lt n (by decide)
      rw [Printf.decimal_of_le (Nat.not_lt.1 hn), List.foldl_append, ih (n / 10) (by omega), List.foldl_cons, List.foldl_nil,
        digitValue_digit hmod]
      omega

theorem digitsIn_decimal (n : Nat) : Strtol.digitsIn 10 (Printf.decimal n) = n := by
  have hall : (Printf.decimal n).takeWhile (fun c => Strtol.digitValue c < 10) = Printf.decimal n := by
    refine List.takeWhile_eq_self_iff.2 fun c hc => decide_eq_true ?_
    have hdigit := Printf.mem_decimal hc
    have hisdigit : Strtol.isdigit c = true := by
      rw [Strtol.isdigit, Bool.and_eq_true, decide_eq_true_eq, decide_eq_true_eq, UInt8.le_iff_toNat_le, UInt8.le_iff_toNat_le]
      exact hdigit
    rw [Strtol.digitValue, if_pos hisdigit]
    omega
  rw [Strtol.digitsIn, hall, foldl_decimal]

theorem strtol_decimal {n : Nat} (h : n < 2 ^ 63) : Strtol.strtol (Printf.decimal n) = n := by
  by_cases hn : n = 0
  · subst hn
    decide
  · obtain ⟨c, s, hdecimal, hlow, hhigh⟩ := Printf.decimal_eq_cons hn
    have hdigits := digitsIn_decimal n
    rw [hdecimal] at hdigits ⊢
    have hspace : Strtol.isspace c = false := by
      rw [Strtol.isspace, Bool.or_eq_false_iff, Bool.and_eq_false_iff]
      refine ⟨decide_eq_false fun hc => ?_, Or.inr (decide_eq_false fun hc => ?_)⟩
      · rw [hc] at hlow
        exact absurd hlow (by decide)
      · exact absurd (hlow.trans (UInt8.le_iff_toNat_le.1 hc)) (by decide)
    have hsign : Strtol.sign (c :: s) = (false, c :: s) := by
      unfold Strtol.sign
      split
      · rename_i heq
        rw [(List.cons.inj heq).1] at hlow
        exact absurd hlow (by decide)
      · rename_i heq
        rw [(List.cons.inj heq).1] at hlow
        exact absurd hlow (by decide)
      · rfl
    have hbase : Strtol.baseOf (c :: s) = (10, c :: s) := by
      unfold Strtol.baseOf
      split
      · rename_i heq
        rw [(List.cons.inj heq).1] at hlow
        exact absurd hlow (by decide)
      · rename_i heq
        rw [(List.cons.inj heq).1] at hlow
        exact absurd hlow (by decide)
      · rfl
    rw [Strtol.strtol, List.dropWhile_cons_of_neg (by rw [hspace]; exact Bool.false_ne_true), hsign]
    dsimp only
    rw [hbase]
    dsimp only
    rw [hdigits]
    simp only [Bool.false_eq_true, if_false]
    omega

/-- The text of a list of zones. -/
def textOf (zones : List Nat) : Str := List.intercalate [comma] (zones.map Printf.decimal)

theorem comma_not_mem (n : Nat) : comma ∉ Printf.decimal n := fun h => absurd (Printf.mem_decimal h).1 (by decide)

theorem flush_decimal (n : Nat) : flush (Printf.decimal n) = [Printf.decimal n] := by
  refine if_neg fun hnil => ?_
  by_cases hn : n = 0
  · subst hn
    exact absurd hnil (by decide)
  · obtain ⟨c, s, hdecimal, -⟩ := Printf.decimal_eq_cons hn
    exact List.cons_ne_nil c s (hdecimal.symm.trans hnil)

/-- What is read in the text of a list of zones is the list. -/
theorem zonesOf_textOf {zones : List Nat} (h : ∀ zone ∈ zones, zone < 2 ^ 63) :
    zonesOf (textOf zones) = zones.map fun zone : Nat => (zone : Int) := by
  induction zones with
  | nil => rfl
  | cons zone zones ih =>
    obtain ⟨hzone, hzones⟩ := List.forall_mem_cons.1 h
    have hfirst (t : Str) : tokensFrom [] (Printf.decimal zone ++ t) = tokensFrom (Printf.decimal zone) t :=
      tokensFrom_append_of_not_mem (comma_not_mem zone) [] t
    have ih := ih hzones
    rw [zonesOf] at ih ⊢
    rw [List.map_cons, textOf, List.map_cons]
    cases zones with
    | nil =>
      rw [List.map_nil, List.intercalate_singleton, ← List.append_nil (Printf.decimal zone), hfirst, tokensFrom_nil, flush_decimal,
        List.map_singleton, strtol_decimal hzone, List.map_nil]
    | cons next zones =>
      rw [List.map_cons, List.intercalate_cons_cons, ← List.map_cons, ← textOf, List.append_assoc, hfirst, List.singleton_append,
        tokensFrom_comma, flush_decimal, List.map_append, ih, List.map_singleton, strtol_decimal hzone, List.singleton_append]

/-- The last token of a text, which may go on behind it. -/
def lastToken (s : Str) : Str := (scan [] s).current

/-- What is behind the buffer goes on with the last token without a change of its number, and has commas otherwise. -/
def AddsNothing (currentPedLanes behind : Str) : Prop :=
  currentPedLanes = [] ∨ Strtol.strtol (lastToken currentPedLanes ++ behind.takeWhile (· ≠ comma)) =
      Strtol.strtol (lastToken currentPedLanes) ∧
    (lastToken currentPedLanes = [] → behind.takeWhile (· ≠ comma) = []) ∧ ∀ c ∈ behind.dropWhile (· ≠ comma), c = comma

theorem zonesOf_eq (s : Str) : zonesOf s = (scan [] s).tokens.map Strtol.strtol ++ (flush (lastToken s)).map Strtol.strtol := by
  rw [zonesOf, tokensFrom, List.map_append, lastToken]

theorem zonesOf_append (s b : Str) : zonesOf (s ++ b) = (scan [] s).tokens.map Strtol.strtol ++
    ((flush (lastToken s ++ b.takeWhile (· ≠ comma))).map Strtol.strtol ++ zonesOf (b.dropWhile (· ≠ comma))) := by
  rw [zonesOf, tokensFrom_append, tokensFrom_takeWhile, List.map_append, List.map_append, lastToken, zonesOf]

theorem zonesOf_eq_nil {s : Str} : zonesOf s = [] ↔ ∀ c ∈ s, c = comma := by
  rw [zonesOf, List.map_eq_nil_iff, tokensFrom_eq_nil]

theorem zonesOf_append_perm_iff {s b : Str} (hs : s ≠ []) : (zonesOf (s ++ b)).Perm (zonesOf s) ↔ AddsNothing s b := by
  rw [AddsNothing, or_iff_right hs, zonesOf_append, zonesOf_eq s, List.perm_append_left_iff, ← zonesOf_eq_nil]
  generalize lastToken s = last
  generalize zonesOf (b.dropWhile (· ≠ comma)) = more
  generalize b.takeWhile (· ≠ comma) = rest
  by_cases hlast : last = []
  · subst hlast
    have hflush : flush ([] ++ rest) = [] ↔ rest = [] := by
      rw [List.nil_append, flush, ite_eq_left_iff]
      exact ⟨fun h => by_contra fun hrest => List.cons_ne_nil _ _ (h hrest), fun h hrest => absurd h hrest⟩
    have hnil : (flush []).map Strtol.strtol = [] := rfl
    rw [hnil, List.perm_nil, List.append_eq_nil_iff, List.map_eq_nil_iff, hflush]
    constructor
    · rintro ⟨rfl, hmore⟩
      exact ⟨rfl, fun _ => rfl, hmore⟩
    · rintro ⟨-, hrest, hmore⟩
      exact ⟨hrest rfl, hmore⟩
  · have hmore : last ++ rest ≠ [] := List.append_ne_nil_of_left_ne_nil hlast _
    rw [flush, if_neg hmore, flush, if_neg hlast, List.map_singleton, List.map_singleton, List.perm_singleton, List.singleton_append,
      List.cons_eq_cons]
    exact and_congr_right fun _ => (and_iff_right fun h => absurd h hlast).symm

/-! ### Runs -/

/-- A call, whose text is a C string, as is what the memory holds behind the buffer. -/
structure Call where
  currentPedLanes : Str
  behind : Str
  noNul : 0 ∉ currentPedLanes ∧ 0 ∉ behind

def Call.zones (c : Call) : List Int := zonesOf c.currentPedLanes

def entries : Spat → List ConnectionManeuverAssist
  | [] => []
  | intersection :: _ => intersection.maneuverAssistList.getD []

/-- One entry per zone, in sorted order. -/
structure Shows (zones : List Int) (spat : Spat) : Prop where
  perm : ((entries spat).map ConnectionManeuverAssist.connectionID).Perm zones
  sorted : ((entries spat).map ConnectionManeuverAssist.connectionID).Pairwise (· ≤ ·)
  detected : ∀ entry ∈ entries spat, entry.pedBicycleDetect = some true

/-- The calls on an object that has an intersection. -/
def calls (intersection : Intersection) (others : List Intersection) : Machine Spat Call where
  init := intersection :: others
  step spat c := some (updateEncodedSpat c.behind spat c.currentPedLanes)

theorem cstring_eq (c : Call) : cstring c.currentPedLanes c.behind = c.currentPedLanes ++ c.behind := by
  refine List.takeWhile_eq_self_iff.2 fun x hx => ?_
  have hne : x ≠ 0 := by
    rintro rfl
    exact (List.mem_append.1 hx).elim c.noNul.1 c.noNul.2
  exact decide_eq_true hne

/-- What a call leaves: the zones of the text and of the memory behind it, or what there was. -/
theorem update_cases (c : Call) {spat : Spat} (hspat : spat ≠ []) :
    let read := if c.currentPedLanes = [] then [] else zonesOf (c.currentPedLanes ++ c.behind)
    (read = [] ∧ updateEncodedSpat c.behind spat c.currentPedLanes = spat) ∨
      read ≠ [] ∧ entries (updateEncodedSpat c.behind spat c.currentPedLanes) = (read.insertionSort (· ≤ ·)).map detection := by
  obtain ⟨intersection, others, rfl⟩ := List.exists_cons_of_ne_nil hspat
  by_cases htext : c.currentPedLanes = []
  · rw [if_pos htext, htext]
    exact Or.inl ⟨rfl, rfl⟩
  · have hlength : c.currentPedLanes.length ≠ 0 := fun h => htext (List.length_eq_zero_iff.1 h)
    rw [if_neg htext]
    by_cases hzones : zonesOf (c.currentPedLanes ++ c.behind) = []
    · refine Or.inl ⟨hzones, ?_⟩
      simp only [updateEncodedSpat, if_neg hlength, cstring_eq, if_pos hzones]
    · refine Or.inr ⟨hzones, ?_⟩
      simp only [updateEncodedSpat, if_neg hlength, cstring_eq, if_neg hzones, entries, Option.getD_some]

theorem shows_iff_perm {zones read : List Int} {spat : Spat} (h : entries spat = (read.insertionSort (· ≤ ·)).map detection) :
    Shows zones spat ↔ read.Perm zones := by
  have hids : (entries spat).map ConnectionManeuverAssist.connectionID = read.insertionSort (· ≤ ·) := by
    rw [h, List.map_map]
    exact List.map_id _
  have hperm := List.perm_insertionSort (· ≤ ·) read
  constructor
  · intro hshows
    have hzones := hshows.perm
    rw [hids] at hzones
    exact hperm.symm.trans hzones
  · intro hread
    refine ⟨?_, ?_, ?_⟩
    · rw [hids]
      exact hperm.trans hread
    · rw [hids]
      exact List.pairwise_insertionSort _ read
    · rw [h]
      intro entry hentry
      obtain ⟨z, -, rfl⟩ := List.mem_map.1 hentry
      rfl

theorem shows_nil_iff {spat : Spat} : Shows [] spat ↔ entries spat = [] := by
  constructor
  · intro h
    exact List.map_eq_nil_iff.1 (List.perm_nil.1 h.perm)
  · intro h
    refine ⟨?_, ?_, ?_⟩ <;> rw [h]
    · exact List.Perm.nil
    · exact List.Pairwise.nil
    · exact fun _ hentry => absurd hentry List.not_mem_nil

theorem shows_update_iff (c : Call) {spat : Spat} (hspat : spat ≠ []) :
    Shows c.zones (updateEncodedSpat c.behind spat c.currentPedLanes) ↔
      AddsNothing c.currentPedLanes c.behind ∧ (c.zones = [] → entries spat = []) := by
  rcases update_cases c hspat with ⟨hread, hupdate⟩ | ⟨hread, hentries⟩
  · have hzones : c.zones = [] ∧ AddsNothing c.currentPedLanes c.behind := by
      by_cases htext : c.currentPedLanes = []
      · exact ⟨by rw [Call.zones, htext]; rfl, Or.inl htext⟩
      · rw [if_neg htext] at hread
        have hzones : c.zones = [] := by
          rw [zonesOf_eq_nil] at hread
          exact zonesOf_eq_nil.2 fun x hx => hread x (List.mem_append_left _ hx)
        exact ⟨hzones, (zonesOf_append_perm_iff htext).1 (by rw [hread, ← Call.zones, hzones])⟩
    rw [hupdate, hzones.1, shows_nil_iff]
    simp only [hzones.2, true_and, forall_const]
  · have htext : c.currentPedLanes ≠ [] := fun htext => hread (if_pos htext)
    rw [if_neg htext] at hread hentries
    rw [shows_iff_perm hentries, Call.zones, zonesOf_append_perm_iff htext]
    refine (and_iff_left_of_imp fun hnothing hzones => ?_).symm
    have hperm := (zonesOf_append_perm_iff htext).2 hnothing
    rw [hzones] at hperm
    exact absurd (List.perm_nil.1 hperm) hread

theorem update_ne_nil (c : Call) {spat : Spat} (hspat : spat ≠ []) : updateEncodedSpat c.behind spat c.currentPedLanes ≠ [] := by
  obtain ⟨intersection, others, rfl⟩ := List.exists_cons_of_ne_nil hspat
  unfold updateEncodedSpat
  dsimp only
  split_ifs <;> exact List.cons_ne_nil _ _

theorem exec_calls (intersection : Intersection) (others : List Intersection) (cs : List Call) (spat : Spat) :
    ∃ spat', (calls intersection others).exec spat cs = some spat' := by
  induction cs generalizing spat with
  | nil => exact ⟨spat, rfl⟩
  | cons c cs ih =>
    obtain ⟨spat', h⟩ := ih (updateEncodedSpat c.behind spat c.currentPedLanes)
    exact ⟨spat', Machine.exec_cons.2 ⟨_, rfl, h⟩⟩

/-- After every call the list shows its zones, iff at every call the memory behind the buffer adds nothing and, where the call has
no zones, there is no entry before it. -/
theorem detections_iff (intersection : Intersection) (others : List Intersection) (cs : List Call) :
    (∀ tr spat, tr <+: cs → (calls intersection others).exec (calls intersection others).init tr = some spat →
        ∀ c ∈ tr.getLast?, Shows c.zones spat) ↔
      (calls intersection others).Meets (fun spat c => AddsNothing c.currentPedLanes c.behind ∧ (c.zones = [] → entries spat = []))
        (calls intersection others).init cs := by
  obtain ⟨spat, hexec⟩ := exec_calls intersection others cs (calls intersection others).init
  have hlast : ∀ (tr : List Call) (c : Call), (tr ++ [c]).getLast? = some c := fun tr c => List.getLast?_concat
  refine Machine.always_iff_meets (I := fun tr spat => spat ≠ [] ∧ ∀ c ∈ tr.getLast?, Shows c.zones spat)
    (P := fun tr spat => ∀ c ∈ tr.getLast?, Shows c.zones spat) ⟨List.cons_ne_nil _ _,
      fun _ h => absurd h (Option.not_mem_none _)⟩ ?_ (fun _ _ h => h.2) ?_ hexec
  · intro tr spat c spat' hI hG hstep
    obtain rfl := Option.some.inj hstep
    refine ⟨update_ne_nil c hI.1, fun d hd => ?_⟩
    obtain rfl := Option.some.inj ((hlast tr c).symm.trans hd)
    exact (shows_update_iff c hI.1).2 hG
  · intro tr spat c spat' hI hstep hP
    obtain rfl := Option.some.inj hstep
    exact (shows_update_iff c hI.1).1 (hP c (hlast tr c))

/-- One zone and then none, and a zone in front of memory that holds the digit 9. -/
theorem detections_fail : (∃ spat, (calls ⟨none⟩ []).exec [⟨none⟩] [⟨CString.lit "3", [], by decide⟩, ⟨[], [], by decide⟩] =
    some spat ∧
      entries spat = [detection 3] ∧ ¬ Shows (zonesOf []) spat) ∧
    ∃ spat, (calls ⟨none⟩ []).exec [⟨none⟩] [⟨CString.lit "7", CString.lit "9", by decide⟩] = some spat ∧
      entries spat = [detection 79] ∧ ¬ Shows (zonesOf (CString.lit "7")) spat := by
  refine ⟨⟨[⟨some [detection 3]⟩], rfl, rfl, fun h => ?_⟩, [⟨some [detection 79]⟩], rfl, rfl, fun h => ?_⟩
  · exact absurd h.perm.length_eq (by decide)
  · exact absurd (h.perm.subset (List.mem_singleton_self _)) (by decide)

end V2xHub.SpatPlugin.PedestrianDetectionForSPAT
