import V2xHub.TimPlugin.Basic

/-!
# The TIM on the air

The TIM in force is the contents of the map file or of the request that was read last. Its start time names no year. A TIM
that ends is active in the span that starts in this year or in the last (`active_iff`: in any year), a persistent one from the
start in the year in which it came into force. A run is right if the plugin goes on, every time at the inner loop sends the
TIM in force if it is active and nothing if it is not, and no new map file waits for more than one broadcast. The runs whose
steps are `Sound` are right (`tim_on_air`). What the main loop or the plugin points to is never freed (`Held`, in all runs);
what the main loop has read and not yet counted is, by the request that replaces it (`copy_stopped_iff`).
-/

namespace V2xHub.TimPlugin
open Calendar

/-! ### What should be on the air -/

structure InForce where
  tree : Ptree
  year : Int

namespace TravelerDataFrame

def start (frame : TravelerDataFrame) (secondsYearStart : Int) : Int := secondsYearStart + frame.startTime * 60

def stop (frame : TravelerDataFrame) (secondsYearStart : Int) : Int :=
  frame.start secondsYearStart + frame.duratonTime * 60

/-- The moment is in the span of the frame that starts in the year. -/
def InSpan (frame : TravelerDataFrame) (year now : Int) : Prop :=
  frame.start (yearStart year) ≤ now ∧ now ≤ frame.stop (yearStart year)

instance decidableInSpan (frame : TravelerDataFrame) (year now : Int) : Decidable (frame.InSpan year now) :=
  inferInstanceAs (Decidable (_ ∧ _))

def Active (frame : TravelerDataFrame) (year now : Int) : Prop :=
  frame.startTime < 527040 ∧
    if 32000 ≤ frame.duratonTime then frame.start (yearStart year) ≤ now
    else frame.InSpan (yearOf now) now ∨ frame.InSpan (yearOf now - 1) now

instance decidableActive (frame : TravelerDataFrame) (year now : Int) : Decidable (frame.Active year now) :=
  inferInstanceAs (Decidable (_ ∧ _))

variable {frame : TravelerDataFrame} {year now : Int}

/-- A span that ends has started in the year of the moment or the one before. -/
theorem InSpan.year_cases {y : Int} (h : frame.InSpan y now) (hstart : frame.startTime < 527040)
    (hduration : frame.duratonTime < 32000) (hbehind : yearStart y ≤ now) : y = yearOf now ∨ y = yearOf now - 1 := by
  have hstop := h.2
  unfold stop start at hstop
  have hle : y ≤ yearOf now := by
    by_contra hlt
    have hnext := lt_yearStart_yearOf now
    have := yearStart_mono (show yearOf now + 1 ≤ y by omega)
    omega
  have hge : yearOf now - 1 ≤ y := by
    by_contra hlt
    have hmono := yearStart_mono (show y + 1 + 1 ≤ yearOf now by omega)
    have h1 := yearStart_succ y
    have h2 := yearStart_succ (y + 1)
    have hyear := yearStart_yearOf now
    omega
  omega

theorem InSpan.active {y : Int} (h : frame.InSpan y now) (hstart : frame.startTime < 527040)
    (hduration : frame.duratonTime < 32000) (hbehind : yearStart y ≤ now) : frame.Active year now := by
  refine ⟨hstart, ?_⟩
  rw [if_neg (not_le.2 hduration)]
  obtain rfl | rfl := h.year_cases hstart hduration hbehind
  · exact .inl h
  · exact .inr h

/-- Whichever year a span starts in that ends, it starts in the year of the moment or the one before. -/
theorem active_iff (h0 : 0 ≤ frame.startTime) (hduration : frame.duratonTime < 32000) :
    frame.Active year now ↔ frame.startTime < 527040 ∧ ∃ y, frame.InSpan y now := by
  refine ⟨fun ⟨hstart, h⟩ => ⟨hstart, ?_⟩, fun ⟨hstart, y, h⟩ => h.active hstart hduration ?_⟩
  · rw [if_neg (not_le.2 hduration)] at h
    exact h.elim (fun h => ⟨_, h⟩) fun h => ⟨_, h⟩
  · have hlow := h.1
    unfold start at hlow
    omega

end TravelerDataFrame

section
variable {ρ : Type*} (lib : Library ρ)

/-- The data frame that `TimDuration` looks at, if there is one. -/
def Library.frame? (contents : Ptree) : Option TravelerDataFrame :=
  match lib.get_j2735_data contents with
  | .ok (some tim) => tim.dataFrames.head?
  | _ => none

def OnAir (inForce : Option InForce) (now : Int) : Prop :=
  ∃ f ∈ inForce, ∃ frame ∈ lib.frame? f.tree, frame.Active f.year now

/-- What is sent at the inner loop. -/
structure Pass where
  inForce : Option InForce
  now : Int
  sent : Option Str

def Pass.Right (p : Pass) : Prop :=
  match p.sent with
  | none => ¬ OnAir lib p.inForce p.now
  | some bytes => OnAir lib p.inForce p.now ∧ ∃ f ∈ p.inForce, lib.encoded f.tree = .ok bytes

/-- The message whose place was read and that is not counted yet. -/
def Main.read? : Main → Option Nat
  | .copy TimMsg => some TimMsg
  | _ => none

/-- The message that `TimDuration` is called with. -/
def Main.TimMsg? : Main → Option Nat
  | .TimDuration TimMsg => some TimMsg
  | _ => none

/-- The history of a run. -/
structure History where
  inForce : Option InForce
  /-- The number of broadcasts since a map file is new. -/
  waiting : Option Nat
  passes : List Pass
  /-- The message that `TimDuration` has let through, and the clock when it did. -/
  checked : Option (Nat × Int)

def History.init : History := ⟨none, none, [], none⟩

def History.pass (h : History) (now : Int) (sent : Option Str) : History :=
  { h with passes := h.passes ++ [⟨h.inForce, now, sent⟩] }

def History.force (h : History) (tree : Option Ptree) (now : Int) : History :=
  match tree with
  | none => h
  | some tree => { h with inForce := some ⟨tree, yearOf now⟩ }

/-- The history behind a step from `s` to `t`. -/
def History.after (h : History) (s : State) (e : Event) (t : State) : History :=
  match e with
  | .UpdateConfigSettings (some _) true => { h with waiting := some (h.waiting.getD 0) }
  | .TimRequestHandler body now => if body = [] then h else h.force (lib.parse body) now
  | .outer true files now =>
    if s.isMapFileNew then { h.force (s.loaded lib files) now with waiting := none } else h
  | .inner now => if s.timMsgPtr = none then h.pass now none else h
  | .TimDuration clock now =>
    match t.main with
    | .outer => h.pass now none
    | .send => { h with checked := s.main.TimMsg?.map fun p => (p, clock) }
    | _ => h
  | .BroadcastMessage now =>
    { h.pass now (t.broadcast[s.broadcast.length]?) with waiting := h.waiting.map (· + 1) }
  | _ => h

/-- What a run is right for. -/
structure Right (s : State × History) : Prop where
  alive : s.1.stopped = none
  passes : ∀ p ∈ s.2.passes, p.Right lib
  waiting : ∀ n ∈ s.2.waiting, n ≤ 1

/-! ### When it is -/

/-- No product and no sum of `TimDuration` leaves the 64 bits. -/
def TravelerDataFrame.Fits (frame : TravelerDataFrame) (secondsYearStart : Int) : Prop :=
  Int64 (frame.startTime * 60) ∧ Int64 (frame.start secondsYearStart) ∧ Int64 (frame.duratonTime * 60) ∧
    Int64 (frame.stop secondsYearStart)

/-- The moment is in the span that starts behind `secondsYearStart`. -/
def TravelerDataFrame.Current (frame : TravelerDataFrame) (secondsYearStart now : Int) : Prop :=
  frame.startTime < 527040 ∧ frame.start secondsYearStart ≤ now ∧
    (now ≤ frame.stop secondsYearStart ∨ 32000 ≤ frame.duratonTime)

instance decidableFits (frame : TravelerDataFrame) (secondsYearStart : Int) : Decidable (frame.Fits secondsYearStart) :=
  inferInstanceAs (Decidable (_ ∧ _ ∧ _ ∧ _))

instance decidableCurrent (frame : TravelerDataFrame) (secondsYearStart now : Int) :
    Decidable (frame.Current secondsYearStart now) :=
  inferInstanceAs (Decidable (_ ∧ _ ∧ (_ ∨ _)))

/-- The year of the clock is the one that counts. The local year starts with the year, and the clock has not been set back
behind it or behind the year in which the TIM came into force. A span that ends has not started in another year; a persistent
TIM that has started is one that has started this year too. -/
structure TravelerDataFrame.Counts (frame : TravelerDataFrame) (year clock now : Int) : Prop where
  local_year : lib.mktime (yearOf clock) = yearStart (yearOf clock)
  not_behind : yearStart (yearOf clock) ≤ now
  in_force : year ≤ yearOf clock
  ends : frame.duratonTime < 32000 → ∀ y ∈ [yearOf now, yearOf now - 1], frame.InSpan y now → y = yearOf clock
  persists : 32000 ≤ frame.duratonTime → frame.start (yearStart year) ≤ now → frame.start (yearStart (yearOf clock)) ≤ now

/-- `TimDuration` is called with the message that is still pointed to. It has a data frame whose times are in range and are
counted in the right year, and where a new map file has waited for a broadcast, the span is over. -/
def SoundDuration (s : State) (h : History) (TimMsg : Nat) (clock now : Int) : Prop :=
  s.timMsgPtr = some TimMsg ∧ ∃ frame ∈ lib.frame? (s.contents TimMsg),
    (527040 ≤ frame.startTime ∨
      frame.Fits (lib.mktime (yearOf clock)) ∧ ∀ f ∈ h.inForce, frame.Counts lib f.year clock now) ∧
    (h.waiting = some 1 → ¬ frame.Current (lib.mktime (yearOf clock)) now)

/-- The message is the one that `TimDuration` has let through, it can be encoded, and its span, counted from the year that
`TimDuration` has found, is not over yet. -/
def SoundBroadcast (s : State) (h : History) (TimMsg : Nat) (now : Int) : Prop :=
  (lib.encoded (s.contents TimMsg)).isOk ∧ ∃ c ∈ h.checked, c.1 = TimMsg ∧ yearStart (yearOf c.2) ≤ now ∧
    ∃ frame ∈ lib.frame? (s.contents TimMsg), frame.Current (lib.mktime (yearOf c.2)) now

/-- A request can be parsed, a new map file can be loaded if there is a message, and between the two steps in which the main
loop copies the pointer no request replaces the message. -/
def Sound (s : State × History) : Event → Prop
  | .TimRequestHandler body _ => body = [] ∨ (lib.parse body).isSome
  | .outer true files _ => s.1.isMapFileNew → s.1.timMsgPtr = none ∨ (s.1.loaded lib files).isSome
  | .copy => ∀ p ∈ s.1.main.read?, s.1.timMsgPtr = some p
  | .TimDuration clock now => ∀ p ∈ s.1.main.TimMsg?, SoundDuration lib s.1 s.2 p clock now
  | .BroadcastMessage now => ∀ p ∈ s.1.timMsgPtr, SoundBroadcast lib s.1 s.2 p now
  | _ => True

def monitored : Machine (State × History) Event := (plugin lib).withGhost .init (History.after lib)

end

/-! ### Steps -/

/-- Everything a step can do. -/
inductive Steps {ρ : Type*} (lib : Library ρ) (s : State) : Event → State → Prop
  | config {mapFile found} : s.Unlocked → Steps lib s (.UpdateConfigSettings mapFile found) (s.UpdateConfigSettings mapFile found)
  | empty {now} : Steps lib s (.TimRequestHandler [] now) (s.writeResponse .BadRequest)
  | request {body now} : body ≠ [] → s.Unlocked → Steps lib s (.TimRequestHandler body now) (s.TimRequestHandler lib body)
  | set_contents {tree} : s.handling = some tree →
      Steps lib s .set_contents { (s.set_contents tree).writeResponse .Created with handling := none }
  | unregistered {files now} : s.main = .outer → Steps lib s (.outer false files now) s
  | same {files now} : s.main = .outer → s.isMapFileNew = false → Steps lib s (.outer true files now) { s with main := .inner }
  | load {files now} : s.main = .outer → s.isMapFileNew = true → s.Unlocked →
      Steps lib s (.outer true files now) { s.LoadTim lib files with main := .inner }
  | look {now} : s.main = .inner → Steps lib s (.inner now)
      { s with main := match s.timMsgPtr with | none => .outer | some p => .copy p }
  | copy {p} : s.main = .copy p → Steps lib s .copy (s.copy p)
  | check {p t now} : s.main = .TimDuration p → s.Unlocked → Steps lib s (.TimDuration t now) (s.TimDuration lib p t now)
  | send {now} : s.main = .send → s.Unlocked → Steps lib s (.BroadcastMessage now) (s.BroadcastMessage lib)
  | error : s.main = .outer → Steps lib s .error { s with main := .returned }

variable {ρ : Type*} {lib : Library ρ} {s t : State} {g g' : History} {e : Event} {tree : Ptree} {inForce : Option InForce}
  {frame : TravelerDataFrame} {now : Int}

theorem step_cases (h : s.step lib e = some t) : s.stopped = none ∧ Steps lib s e t := by
  unfold State.step at h
  by_cases hstopped : s.stopped.isSome
  · rw [if_pos hstopped] at h
    nomatch h
  · rw [if_neg hstopped] at h
    refine ⟨Option.not_isSome_iff_eq_none.1 hstopped, ?_⟩
    cases e with
    | UpdateConfigSettings mapFile found =>
      obtain ⟨hunlocked, h⟩ := Option.ite_none_right_eq_some.1 h
      obtain rfl := Option.some.inj h
      exact .config hunlocked
    | TimRequestHandler body now =>
      dsimp only at h
      split_ifs at h with hbody hunlocked
      · obtain rfl := Option.some.inj h
        subst hbody
        exact .empty
      · obtain rfl := Option.some.inj h
        exact .request hbody hunlocked
    | set_contents =>
      obtain ⟨tree, htree, rfl⟩ := Option.map_eq_some_iff.1 h
      exact .set_contents htree
    | outer registered files now =>
      dsimp only at h
      cases hmain : s.main with
      | outer =>
        rw [hmain] at h
        dsimp only at h
        split_ifs at h with hregistered hnew hunlocked
        · obtain rfl := Option.some.inj h
          subst hregistered
          exact .unregistered hmain
        · obtain rfl := Option.some.inj h
          obtain rfl := Bool.eq_true_of_not_eq_false hregistered
          exact .same hmain hnew
        · obtain rfl := Option.some.inj h
          obtain rfl := Bool.eq_true_of_not_eq_false hregistered
          exact .load hmain (Bool.eq_true_of_not_eq_false hnew) hunlocked
      | _ => rw [hmain] at h; nomatch h
    | inner now =>
      dsimp only at h
      cases hmain : s.main with
      | inner =>
        rw [hmain] at h
        obtain rfl := Option.some.inj h
        exact .look hmain
      | _ => rw [hmain] at h; nomatch h
    | copy =>
      dsimp only at h
      cases hmain : s.main with
      | copy p =>
        rw [hmain] at h
        obtain rfl := Option.some.inj h
        exact .copy hmain
      | _ => rw [hmain] at h; nomatch h
    | TimDuration t' now =>
      dsimp only at h
      cases hmain : s.main with
      | TimDuration p =>
        rw [hmain] at h
        obtain ⟨hunlocked, h⟩ := Option.ite_none_right_eq_some.1 h
        obtain rfl := Option.some.inj h
        exact .check hmain hunlocked
      | _ => rw [hmain] at h; nomatch h
    | BroadcastMessage now =>
      dsimp only at h
      cases hmain : s.main with
      | send =>
        rw [hmain] at h
        obtain ⟨hunlocked, h⟩ := Option.ite_none_right_eq_some.1 h
        obtain rfl := Option.some.inj h
        exact .send hmain hunlocked
      | _ => rw [hmain] at h; nomatch h
    | error =>
      dsimp only at h
      cases hmain : s.main with
      | outer =>
        rw [hmain] at h
        obtain rfl := Option.some.inj h
        exact .error hmain
      | _ => rw [hmain] at h; nomatch h

/-! ### `TimDuration` -/

theorem duration_eq (frame : TravelerDataFrame) (secondsYearStart now : Int) :
    (527040 ≤ frame.startTime ∨ frame.Fits secondsYearStart) ∧
        frame.duration secondsYearStart now = .ok (decide (frame.Current secondsYearStart now)) ∨
      ¬ (527040 ≤ frame.startTime ∨ frame.Fits secondsYearStart) ∧ frame.duration secondsYearStart now = .error .overflow := by
  unfold TravelerDataFrame.duration int64
  by_cases hstart : 527040 ≤ frame.startTime
  · rw [if_pos hstart]
    refine .inl ⟨.inl hstart, congrArg Except.ok (decide_eq_false fun h => ?_).symm⟩
    exact absurd h.1 (not_lt.2 hstart)
  · rw [if_neg hstart, or_iff_right hstart]
    by_cases h1 : Int64 (frame.startTime * 60)
    · by_cases h2 : Int64 (frame.start secondsYearStart)
      · by_cases h3 : Int64 (frame.duratonTime * 60)
        · by_cases h4 : Int64 (frame.stop secondsYearStart)
          · refine .inl ⟨⟨h1, h2, h3, h4⟩, ?_⟩
            unfold TravelerDataFrame.stop TravelerDataFrame.start at h4
            unfold TravelerDataFrame.start at h2
            simp only [if_pos h1, if_pos h2, if_pos h3, if_pos h4, bind, Except.bind, pure, Except.pure,
              TravelerDataFrame.Current, TravelerDataFrame.start, TravelerDataFrame.stop, decide_eq_true_eq, ge_iff_le,
              not_le.1 hstart, true_and]
          · refine .inr ⟨fun h => h4 h.2.2.2, ?_⟩
            unfold TravelerDataFrame.stop TravelerDataFrame.start at h4
            unfold TravelerDataFrame.start at h2
            simp only [if_pos h1, if_pos h2, if_pos h3, if_neg h4, bind, Except.bind]
        · refine .inr ⟨fun h => h3 h.2.2.1, ?_⟩
          unfold TravelerDataFrame.start at h2
          simp only [if_pos h1, if_pos h2, if_neg h3, bind, Except.bind]
      · refine .inr ⟨fun h => h2 h.2.1, ?_⟩
        unfold TravelerDataFrame.start at h2
        simp only [if_pos h1, if_neg h2, bind, Except.bind]
    · refine .inr ⟨fun h => h1 h.1, ?_⟩
      simp only [if_neg h1, bind, Except.bind]

theorem TimDuration_cases (lib : Library ρ) (contents : Ptree) (t now : Int) :
    (∃ frame ∈ lib.frame? contents, (527040 ≤ frame.startTime ∨ frame.Fits (lib.mktime (yearOf t))) ∧
        lib.TimDuration contents t now = .ok (decide (frame.Current (lib.mktime (yearOf t)) now))) ∨
      (¬ ∃ frame ∈ lib.frame? contents, 527040 ≤ frame.startTime ∨ frame.Fits (lib.mktime (yearOf t))) ∧
        ∃ e, lib.TimDuration contents t now = .error e := by
  unfold Library.TimDuration Library.frame?
  generalize lib.get_j2735_data contents = data
  obtain e | _ | tim := data
  · exact .inr ⟨nofun, _, rfl⟩
  · exact .inr ⟨nofun, _, rfl⟩
  · dsimp only
    cases tim.dataFrames with
    | nil => exact .inr ⟨nofun, _, rfl⟩
    | cons frame frames =>
      obtain ⟨hfits, heq⟩ | ⟨hfits, heq⟩ := duration_eq frame (lib.mktime (yearOf t)) now
      · exact .inl ⟨frame, rfl, hfits, heq⟩
      · refine .inr ⟨?_, _, heq⟩
        rintro ⟨_, hframe, h⟩
        obtain rfl := Option.some.inj hframe
        exact hfits h

/-! ### What a step does to the history -/

@[simp] theorem passes_force {tree : Option Ptree} : (g.force tree now).passes = g.passes := by
  cases tree <;> rfl

theorem after_empty : g.after lib s (.TimRequestHandler [] now) t = g := by
  dsimp only [History.after]
  exact if_pos rfl

theorem after_same {files : Str → Option Str} (hnew : s.isMapFileNew = false) :
    g.after lib s (.outer true files now) t = g := by
  dsimp only [History.after]
  exact if_neg (Bool.eq_false_iff.1 hnew)

/-- A step that sends nothing and is not in front of the inner loop. -/
theorem Right.same (h : Right lib (s, g)) (halive : t.stopped = none) (hpasses : g'.passes = g.passes)
    (hwaiting : ∀ n ∈ g'.waiting, n ≤ 1) : Right lib (t, g') where
  alive := halive
  passes p hp := h.passes p (hpasses ▸ hp)
  waiting := hwaiting

/-- A step at the inner loop. -/
theorem Right.pass (h : Right lib (s, g)) (now : Int) (sent : Option Str) (halive : t.stopped = none)
    (hpasses : g'.passes = g.passes ++ [⟨g.inForce, now, sent⟩]) (hright : Pass.Right lib ⟨g.inForce, now, sent⟩)
    (hwaiting : ∀ n ∈ g'.waiting, n ≤ 1) : Right lib (t, g') where
  alive := halive
  passes p hp := by
    rw [hpasses] at hp
    obtain hp | hp := List.mem_append.1 hp
    · exact h.passes p hp
    · obtain rfl := List.mem_singleton.1 hp
      exact hright
  waiting := hwaiting

/-! ### The messages in the memory -/

/-- A message is counted for the plugin and for the call of `TimDuration`, and for nothing else. -/
structure Held (s : State) : Prop where
  use_count : ∀ p msg, s.messages[p]? = some msg →
    msg.use_count = (if s.timMsgPtr = some p then 1 else 0) + (if s.main.TimMsg? = some p then 1 else 0)
  pointer : ∀ p ∈ s.timMsgPtr, p < s.messages.length
  copied : ∀ p ∈ s.main.TimMsg?, p < s.messages.length
  read : ∀ p, s.main = .copy p → p < s.messages.length

theorem getElem?_release {messages : List TimMessage} {p q : Nat} :
    (release messages p)[q]? =
      messages[q]?.map fun msg => if p = q then { msg with use_count := msg.use_count - 1 } else msg :=
  List.getElem?_modify ..

@[simp] theorem length_release {messages : List TimMessage} {p : Nat} : (release messages p).length = messages.length :=
  List.length_modify ..

theorem length_reset (s : State) : s.reset.messages.length = s.messages.length := by
  unfold State.reset
  cases s.timMsgPtr with
  | none => rfl
  | some p => exact length_release

theorem length_make_shared : s.make_shared.messages.length = s.messages.length + 1 := by
  rw [State.make_shared, List.length_append, List.length_singleton, length_reset]

theorem Held.use_count_eq (h : Held s) {p : Nat} (hp : p < s.messages.length) :
    s.use_count p = (if s.timMsgPtr = some p then 1 else 0) + (if s.main.TimMsg? = some p then 1 else 0) := by
  have hmsg := List.getElem?_eq_getElem hp
  unfold State.use_count State.message
  rw [List.getD_eq_getElem?_getD, hmsg]
  exact h.use_count p _ hmsg

theorem deref_eq {p : Nat} (h : s.use_count p ≠ 0) : s.deref p = .ok (s.contents p) := if_neg h

theorem Held.deref_pointer (h : Held s) {p : Nat} (hp : s.timMsgPtr = some p) : s.deref p = .ok (s.contents p) := by
  refine deref_eq ?_
  rw [h.use_count_eq (h.pointer p hp), if_pos hp, Nat.add_comm]
  exact Nat.succ_ne_zero _

theorem Held.deref_copied (h : Held s) {p : Nat} (hp : s.main.TimMsg? = some p) : s.deref p = .ok (s.contents p) := by
  refine deref_eq ?_
  rw [h.use_count_eq (h.copied p hp), if_pos hp]
  exact Nat.succ_ne_zero _

/-- The message that was read has been freed if and only if a request has replaced it. -/
theorem Held.copy_stopped_iff (h : Held s) {p : Nat} (hmain : s.main = .copy p) (halive : s.stopped = none) :
    (s.copy p).stopped ≠ none ↔ s.timMsgPtr ≠ some p := by
  have hcount := h.use_count_eq (h.read p hmain)
  rw [hmain] at hcount
  unfold State.copy State.deref
  by_cases hptr : s.timMsgPtr = some p
  · rw [if_pos hptr] at hcount
    rw [if_neg (by omega)]
    exact iff_of_false (fun hstopped => hstopped halive) fun hne => hne hptr
  · rw [if_neg hptr, if_neg nofun] at hcount
    rw [if_pos hcount]
    exact iff_of_true nofun hptr

theorem Held.reset (h : Held s) : Held s.reset where
  use_count p msg hmsg := by
    unfold State.reset at hmsg ⊢
    dsimp only at hmsg ⊢
    cases hptr : s.timMsgPtr with
    | none =>
      rw [hptr] at hmsg
      rw [h.use_count p msg hmsg, hptr]
    | some q =>
      rw [hptr, Option.elim_some, getElem?_release] at hmsg
      obtain ⟨old, hold, rfl⟩ := Option.map_eq_some_iff.1 hmsg
      have hcount := h.use_count p old hold
      rw [hptr] at hcount
      by_cases hq : q = p
      · subst hq
        rw [if_pos rfl] at hcount ⊢
        dsimp only
        rw [if_neg nofun]
        omega
      · rw [if_neg fun heq => hq (Option.some.inj heq)] at hcount
        rw [if_neg hq, if_neg nofun]
        exact hcount
  pointer := nofun
  copied p hp := (length_reset s).symm ▸ h.copied p hp
  read p hp := (length_reset s).symm ▸ h.read p hp

theorem Held.make_shared (h : Held s) : Held s.make_shared where
  use_count p msg hmsg := by
    unfold State.make_shared at hmsg ⊢
    dsimp only at hmsg ⊢
    obtain hlt | hle := Nat.lt_or_ge p s.messages.length
    · rw [List.getElem?_append_left ((length_reset s).symm ▸ hlt)] at hmsg
      have hcount := h.reset.use_count p msg hmsg
      rw [if_neg nofun] at hcount
      rw [if_neg fun heq => absurd (Option.some.inj heq) (Nat.ne_of_gt hlt)]
      exact hcount
    · have hlength := (List.getElem?_eq_some_iff.1 hmsg).1
      rw [List.length_append, length_reset, List.length_singleton] at hlength
      obtain rfl : p = s.messages.length := by omega
      rw [List.getElem?_append_right (Nat.le_of_eq (length_reset s)), length_reset, Nat.sub_self] at hmsg
      obtain rfl := Option.some.inj hmsg
      have hcopied : s.main.TimMsg? ≠ some s.messages.length := fun heq => absurd (h.copied _ heq) (Nat.lt_irrefl _)
      rw [if_pos rfl, if_neg hcopied]
  pointer p hp := by
    obtain rfl := Option.some.inj hp
    rw [length_make_shared]
    exact Nat.lt_succ_self _
  copied p hp := by
    rw [length_make_shared]
    exact Nat.lt_succ_of_lt (h.copied p hp)
  read p hp := by
    rw [length_make_shared]
    exact Nat.lt_succ_of_lt (h.read p hp)

theorem Held.set_contents (h : Held s) : Held (s.set_contents tree) where
  use_count p msg hmsg := by
    unfold State.set_contents at hmsg
    rw [List.getElem?_modify] at hmsg
    obtain ⟨old, hold, rfl⟩ := Option.map_eq_some_iff.1 hmsg
    refine Eq.trans ?_ (h.use_count p old hold)
    split_ifs <;> rfl
  pointer p hp := (List.length_modify ..).symm ▸ h.pointer p hp
  copied p hp := (List.length_modify ..).symm ▸ h.copied p hp
  read p hp := (List.length_modify ..).symm ▸ h.read p hp

/-- A step that touches no message, and in which the main loop gets no pointer or reads the one there is. -/
theorem Held.same (h : Held s) (hmessages : t.messages = s.messages) (hptr : t.timMsgPtr = s.timMsgPtr)
    (hcopied : t.main.TimMsg? = s.main.TimMsg?)
    (hread : ∀ p, t.main = .copy p → s.main = .copy p ∨ s.timMsgPtr = some p) : Held t where
  use_count p msg hmsg := by
    rw [hptr, hcopied]
    exact h.use_count p msg (hmessages ▸ hmsg)
  pointer p hp := hmessages ▸ h.pointer p (hptr ▸ hp)
  copied p hp := hmessages ▸ h.copied p (hcopied ▸ hp)
  read p hp := hmessages ▸ (hread p hp).elim (h.read p) (h.pointer p)

theorem Held.copy (h : Held s) {p : Nat} (hmain : s.main = .copy p) : Held (s.copy p) := by
  unfold State.copy State.deref
  split_ifs
  · exact h.same rfl rfl rfl fun _ => .inl
  · refine ⟨fun q msg hmsg => ?_, fun q hq => ?_, fun q hq => ?_, nofun⟩
    · dsimp only at hmsg ⊢
      rw [List.getElem?_modify] at hmsg
      obtain ⟨old, hold, rfl⟩ := Option.map_eq_some_iff.1 hmsg
      have hcount := h.use_count q old hold
      rw [hmain, if_neg (show Main.TimMsg? (.copy p) ≠ some q from nofun)] at hcount
      by_cases hq : p = q
      · have hcopied : Main.TimMsg? (.TimDuration p) = some q := congrArg some hq
        rw [if_pos hq, if_pos hcopied]
        dsimp only
        rw [hcount]
      · have hcopied : Main.TimMsg? (.TimDuration p) ≠ some q := fun heq => hq (Option.some.inj heq)
        rw [if_neg hq, if_neg hcopied]
        exact hcount
    · exact (List.length_modify ..).symm ▸ h.pointer q hq
    · obtain rfl := Option.some.inj hq
      exact (List.length_modify ..).symm ▸ h.read p hmain

theorem Held.check (h : Held s) {p : Nat} {clock : Int} (hmain : s.main = .TimDuration p) :
    Held (s.TimDuration lib p clock now) := by
  have hcopied : s.main.TimMsg? = some p := by rw [hmain]; rfl
  unfold State.TimDuration
  split
  · exact h.same rfl rfl rfl fun _ => .inl
  · rename_i active _
    have hnone : Main.TimMsg? (if active then .send else .outer) = none := by cases active <;> rfl
    refine ⟨fun q msg hmsg => ?_, fun q hq => ?_, fun q hq => ?_, fun q hq => ?_⟩
    · dsimp only at hmsg ⊢
      rw [getElem?_release] at hmsg
      obtain ⟨old, hold, rfl⟩ := Option.map_eq_some_iff.1 hmsg
      have hcount := h.use_count q old hold
      rw [hcopied] at hcount
      rw [hnone, if_neg (show none ≠ some q from nofun)]
      by_cases hq : p = q
      · rw [if_pos (congrArg some hq)] at hcount
        rw [if_pos hq]
        dsimp only
        omega
      · rw [if_neg fun heq => hq (Option.some.inj heq)] at hcount
        rw [if_neg hq]
        exact hcount
    · rw [length_release]
      exact h.pointer q hq
    · exact nomatch hnone.symm.trans hq
    · cases active <;> exact nomatch hq

theorem held_load {files : Str → Option Str} (h : Held s) (hmain : s.main = .outer) :
    Held { s.LoadTim lib files with main := .inner } := by
  have hcopied : Main.TimMsg? .inner = s.main.TimMsg? := by rw [hmain]; rfl
  unfold State.LoadTim
  cases s.loaded lib files with
  | none => exact h.make_shared.reset.same rfl rfl hcopied nofun
  | some tree => exact h.make_shared.set_contents.same rfl rfl hcopied nofun

theorem held_broadcast (h : Held s) (hmain : s.main = .send) : Held (s.BroadcastMessage lib) := by
  have hcopied : Main.TimMsg? .inner = s.main.TimMsg? := by rw [hmain]; rfl
  unfold State.BroadcastMessage
  split
  · exact h.same rfl rfl hcopied nofun
  · split
    · exact h.same rfl rfl rfl fun _ => .inl
    · exact h.same rfl rfl hcopied nofun

theorem held_step (h : Held s) (hstep : Steps lib s e t) : Held t := by
  cases hstep with
  | @config mapFile found hunlocked => cases mapFile <;> exact h.same rfl rfl rfl fun _ => .inl
  | empty => exact h.same rfl rfl rfl fun _ => .inl
  | @request body _ hbody hunlocked =>
    unfold State.TimRequestHandler
    cases lib.parse body with
    | none => exact h.same rfl rfl rfl fun _ => .inl
    | some tree => exact h.make_shared.same rfl rfl rfl fun _ => .inl
  | set_contents htree => exact h.set_contents.same rfl rfl rfl fun _ => .inl
  | unregistered hmain => exact h
  | same hmain hnew => exact h.same rfl rfl (by rw [hmain]; rfl) nofun
  | load hmain hnew hunlocked => exact held_load h hmain
  | look hmain =>
    cases hptr : s.timMsgPtr with
    | none => exact h.same rfl hptr.symm (by rw [hmain]; rfl) nofun
    | some p => exact h.same rfl hptr.symm (by rw [hmain]; rfl) fun q hq => .inr (hptr.trans (by cases hq; rfl))
  | copy hmain => exact h.copy hmain
  | check hmain hunlocked => exact h.check hmain
  | send hmain hunlocked => exact held_broadcast h hmain
  | error hmain => exact h.same rfl rfl (by rw [hmain]; rfl) nofun

/-! ### The year that counts -/

theorem active_of_current {year y : Int} (hyear : year ≤ y) (hbehind : yearStart y ≤ now)
    (h : frame.Current (yearStart y) now) : frame.Active year now := by
  obtain ⟨hstart, hlow, hhigh⟩ := h
  by_cases hpersist : 32000 ≤ frame.duratonTime
  · refine ⟨hstart, ?_⟩
    rw [if_pos hpersist]
    have := yearStart_mono hyear
    unfold TravelerDataFrame.start at hlow ⊢
    omega
  · have hspan : frame.InSpan y now := ⟨hlow, hhigh.resolve_right hpersist⟩
    exact hspan.active hstart (not_le.1 hpersist) hbehind

theorem TravelerDataFrame.Counts.current_iff {year clock : Int} (h : frame.Counts lib year clock now) :
    frame.Current (lib.mktime (yearOf clock)) now ↔ frame.Active year now := by
  rw [h.local_year]
  refine ⟨active_of_current h.in_force h.not_behind, fun hactive => ?_⟩
  obtain ⟨hstart, hactive⟩ := hactive
  split_ifs at hactive with hpersist
  · exact ⟨hstart, h.persists hpersist hactive, .inr hpersist⟩
  · have hspan : ∃ y ∈ [yearOf now, yearOf now - 1], frame.InSpan y now :=
      hactive.elim (fun hspan => ⟨_, .head _, hspan⟩) fun hspan => ⟨_, .tail _ (.head _), hspan⟩
    obtain ⟨y, hy, hspan⟩ := hspan
    obtain rfl := h.ends (not_le.1 hpersist) y hy hspan
    exact ⟨hstart, hspan.1, .inl hspan.2⟩

/-! ### The TIM in force -/

/-- The message that is pointed to and the TIM in force, whoever has the lock, and what holds from `TimDuration` to the
broadcast. -/
structure Linked (lib : Library ρ) (s : State × History) : Prop where
  noMessage : s.1.timMsgPtr = none → s.2.inForce = none
  contents : s.1.handling = none → ∀ p, s.1.timMsgPtr = some p → ∃ f ∈ s.2.inForce, s.1.contents p = f.tree
  handling : ∀ tree, s.1.handling = some tree →
    s.1.timMsgPtr = some (s.1.messages.length - 1) ∧ s.1.messages ≠ [] ∧ ∃ f ∈ s.2.inForce, f.tree = tree
  pointer : s.1.main = .send → s.1.timMsgPtr.isSome
  checked : s.1.main = .send → ∃ p clock, s.2.checked = some (p, clock) ∧ p < s.1.messages.length ∧
    lib.mktime (yearOf clock) = yearStart (yearOf clock) ∧
    (s.1.timMsgPtr = some p → ∀ f ∈ s.2.inForce, f.year ≤ yearOf clock)
  waiting : s.1.main = .send → ∀ n ∈ s.2.waiting, n = 0

theorem contents_modify {f : TimMessage → TimMessage} {p q : Nat} (hf : ∀ msg, (f msg).contents = msg.contents)
    (hmessages : t.messages = s.messages.modify p f) : t.contents q = s.contents q := by
  unfold State.contents State.message
  rw [hmessages, List.getD_eq_getElem?_getD, List.getD_eq_getElem?_getD, List.getElem?_modify]
  cases s.messages[q]? with
  | none => rfl
  | some msg =>
    by_cases hq : p = q
    · exact (congrArg TimMessage.contents (if_pos hq)).trans (hf msg)
    · exact congrArg TimMessage.contents (if_neg hq)

theorem contents_congr (h : t.messages = s.messages) (p : Nat) : t.contents p = s.contents p := by
  unfold State.contents State.message
  rw [h]

theorem contents_set_contents (tree : Ptree) (hne : s.messages ≠ []) :
    (s.set_contents tree).contents (s.messages.length - 1) = tree := by
  have hlt : s.messages.length - 1 < s.messages.length := Nat.sub_lt (List.length_pos_iff.2 hne) Nat.one_pos
  unfold State.contents State.message State.set_contents
  rw [List.getD_eq_getElem?_getD, List.getElem?_modify_eq, List.getElem?_eq_getElem hlt]
  rfl

/-- A step that changes no contents, no pointer and not the TIM in force. -/
theorem Linked.same (h : Linked lib (s, g)) (hhandling : t.handling = s.handling) (hptr : t.timMsgPtr = s.timMsgPtr)
    (hcontents : ∀ p, t.contents p = s.contents p) (hlength : t.messages.length = s.messages.length)
    (hforce : g'.inForce = g.inForce)
    (hsend : t.main = .send → s.main = .send ∧ g'.checked = g.checked ∧ ∀ n ∈ g'.waiting, n = 0) : Linked lib (t, g') where
  noMessage hnone := hforce.trans (h.noMessage (hptr.symm.trans hnone))
  contents hnone p hp := by
    dsimp only
    rw [hcontents, hforce]
    exact h.contents (hhandling.symm.trans hnone) p (hptr.symm.trans hp)
  handling tree htree := by
    obtain ⟨hlast, hne, hinForce⟩ := h.handling tree (hhandling.symm.trans htree)
    dsimp only at hlast hne hinForce ⊢
    rw [hptr, hlength, hforce]
    exact ⟨hlast, fun hnil => hne (List.length_eq_zero_iff.1 (by rw [← hlength, hnil]; rfl)), hinForce⟩
  pointer hmain := by
    dsimp only
    rw [hptr]
    exact h.pointer (hsend hmain).1
  checked hmain := by
    dsimp only
    rw [(hsend hmain).2.1, hlength, hptr, hforce]
    exact h.checked (hsend hmain).1
  waiting hmain := (hsend hmain).2.2

/-! ### One step -/

theorem right_config {mapFile : Option Str} {found : Bool} (h : Right lib (s, g)) :
    Right lib (s.UpdateConfigSettings mapFile found,
      g.after lib s (.UpdateConfigSettings mapFile found) (s.UpdateConfigSettings mapFile found)) := by
  cases mapFile with
  | none => exact h
  | some mapFile =>
    cases found with
    | false => exact h.same h.alive rfl h.waiting
    | true =>
      refine h.same h.alive rfl fun n hn => ?_
      obtain rfl := Option.some.inj hn
      cases hwaiting : g.waiting with
      | none => exact Nat.zero_le 1
      | some n => exact h.waiting n hwaiting

theorem linked_config {mapFile : Option Str} {found : Bool} (h : Linked lib (s, g)) :
    Linked lib (s.UpdateConfigSettings mapFile found,
      g.after lib s (.UpdateConfigSettings mapFile found) (s.UpdateConfigSettings mapFile found)) := by
  cases mapFile with
  | none => exact h
  | some mapFile =>
    cases found with
    | false => exact h.same rfl rfl (contents_congr rfl) rfl rfl fun hmain => ⟨hmain, rfl, h.waiting hmain⟩
    | true =>
      refine h.same rfl rfl (contents_congr rfl) rfl rfl fun hmain => ⟨hmain, rfl, fun n hn => ?_⟩
      obtain rfl := Option.some.inj hn
      cases hwaiting : g.waiting with
      | none => rfl
      | some n => exact h.waiting hmain n hwaiting

theorem right_request {body : Str} (h : Right lib (s, g)) (hbody : body ≠ [])
    (hsound : Sound lib (s, g) (.TimRequestHandler body now)) :
    Right lib (s.TimRequestHandler lib body, g.after lib s (.TimRequestHandler body now) (s.TimRequestHandler lib body)) := by
  obtain ⟨tree, htree⟩ := Option.isSome_iff_exists.1 (hsound.resolve_left hbody)
  dsimp only [History.after]
  rw [if_neg hbody]
  unfold State.TimRequestHandler
  rw [htree]
  exact h.same h.alive rfl h.waiting

theorem linked_request {body : Str} (h : Linked lib (s, g)) (hbody : body ≠ []) :
    Linked lib (s.TimRequestHandler lib body,
      g.after lib s (.TimRequestHandler body now) (s.TimRequestHandler lib body)) := by
  dsimp only [History.after]
  rw [if_neg hbody]
  unfold State.TimRequestHandler
  cases lib.parse body with
  | none =>
    exact h.same rfl rfl (contents_congr rfl) rfl rfl fun hmain => ⟨hmain, rfl, h.waiting hmain⟩
  | some tree =>
    refine ⟨nofun, nofun, fun tree' htree => ?_, fun _ => rfl, fun hmain => ?_, h.waiting⟩
    · obtain rfl := Option.some.inj htree
      refine ⟨?_, List.append_ne_nil_of_right_ne_nil _ nofun, _, rfl, rfl⟩
      dsimp only
      rw [length_make_shared]
      rfl
    · obtain ⟨p, clock, hchecked, hlt, hzone, -⟩ := h.checked hmain
      refine ⟨p, clock, hchecked, length_make_shared ▸ Nat.lt_succ_of_lt hlt, hzone, fun hptr => ?_⟩
      exact absurd (Option.some.inj hptr) (Nat.ne_of_gt hlt)

theorem right_load {files : Str → Option Str} (h : Right lib (s, g)) (hnew : s.isMapFileNew = true) :
    Right lib ({ s.LoadTim lib files with main := .inner },
      g.after lib s (.outer true files now) { s.LoadTim lib files with main := .inner }) := by
  dsimp only [History.after]
  rw [if_pos hnew]
  refine h.same ?_ passes_force nofun
  unfold State.LoadTim
  cases s.loaded lib files with
  | none => exact h.alive
  | some tree => exact h.alive

theorem linked_load {files : Str → Option Str} (h : Linked lib (s, g)) (hnew : s.isMapFileNew = true)
    (hunlocked : s.Unlocked) (hsound : Sound lib (s, g) (.outer true files now)) :
    Linked lib ({ s.LoadTim lib files with main := .inner },
      g.after lib s (.outer true files now) { s.LoadTim lib files with main := .inner }) := by
  have hloaded := hsound hnew
  dsimp only [History.after]
  rw [if_pos hnew]
  unfold State.LoadTim
  dsimp only at hloaded
  generalize s.loaded lib files = loaded at hloaded
  cases loaded with
  | none =>
    have hnone := h.noMessage (hloaded.resolve_right nofun)
    exact ⟨fun _ => hnone, nofun, fun _ htree => (nomatch hunlocked.symm.trans htree), nofun, nofun, nofun⟩
  | some tree =>
    refine ⟨nofun, fun _ p hp => ?_, fun _ htree => (nomatch hunlocked.symm.trans htree), nofun, nofun, nofun⟩
    obtain rfl := Option.some.inj hp
    refine ⟨_, rfl, ?_⟩
    have hlast : s.make_shared.messages.length - 1 = s.messages.length := by
      rw [length_make_shared, Nat.add_sub_cancel]
    have := contents_set_contents (s := s.make_shared) tree (List.append_ne_nil_of_right_ne_nil _ nofun)
    rwa [hlast] at this

theorem right_look (h : Right lib (s, g)) (hlinked : Linked lib (s, g)) (halive : t.stopped = none) :
    Right lib (t, g.after lib s (.inner now) t) := by
  dsimp only [History.after]
  cases hptr : s.timMsgPtr with
  | none =>
    rw [if_pos rfl]
    refine h.pass now none halive rfl ?_ h.waiting
    rintro ⟨f, hf, -⟩
    exact nomatch (hlinked.noMessage hptr).symm.trans hf
  | some p =>
    rw [if_neg nofun]
    exact h.same halive rfl h.waiting

/-- What is in force where `TimDuration` is called with the message that is pointed to. -/
theorem onAir_iff {p : Nat} {clock : Int} (hlinked : Linked lib (s, g)) (hunlocked : s.Unlocked)
    (hptr : s.timMsgPtr = some p) (hframe : frame ∈ lib.frame? (s.contents p))
    (hcounts : 527040 ≤ frame.startTime ∨ ∀ f ∈ g.inForce, frame.Counts lib f.year clock now) :
    OnAir lib g.inForce now ↔ frame.Current (lib.mktime (yearOf clock)) now := by
  obtain ⟨f, hf, hcontents⟩ := hlinked.contents hunlocked p hptr
  have honAir : OnAir lib g.inForce now ↔ frame.Active f.year now := by
    constructor
    · rintro ⟨f', hf', frame', hframe', hactive⟩
      obtain rfl := Option.some.inj (hf.symm.trans hf')
      obtain rfl := Option.some.inj ((hcontents ▸ hframe).symm.trans hframe')
      exact hactive
    · exact fun hactive => ⟨f, hf, frame, hcontents ▸ hframe, hactive⟩
  obtain hstart | hcounts := hcounts
  · exact honAir.trans (iff_of_false (fun h => absurd h.1 (not_lt.2 hstart)) fun h => absurd h.1 (not_lt.2 hstart))
  · exact honAir.trans (hcounts f hf).current_iff.symm

/-- `TimDuration` does not stop, and it answers whether the TIM in force is on the air. -/
theorem check_cases {p : Nat} {clock : Int} (hlinked : Linked lib (s, g)) (hheld : Held s) (hmain : s.main = .TimDuration p)
    (hunlocked : s.Unlocked) (hsound : SoundDuration lib s g p clock now) :
    (¬ OnAir lib g.inForce now ∧
        s.TimDuration lib p clock now = { s with messages := release s.messages p, main := .outer }) ∨
      (g.waiting ≠ some 1 ∧
        (∀ f ∈ g.inForce, lib.mktime (yearOf clock) = yearStart (yearOf clock) ∧ f.year ≤ yearOf clock) ∧
        s.TimDuration lib p clock now = { s with messages := release s.messages p, main := .send }) := by
  obtain ⟨hptr, frame, hframe, hcounts, hwaiting⟩ := hsound
  have hderef := hheld.deref_copied (show s.main.TimMsg? = some p by rw [hmain]; rfl)
  have honAir := onAir_iff hlinked hunlocked hptr hframe (hcounts.imp_right And.right)
  unfold State.TimDuration
  rw [hderef]
  dsimp only [bind, Except.bind]
  obtain ⟨frame', hframe', -, heq⟩ | ⟨hnone, -⟩ := TimDuration_cases lib (s.contents p) clock now
  · obtain rfl := Option.some.inj (Option.mem_def.1 hframe |>.symm.trans hframe')
    rw [heq]
    by_cases hcurrent : frame.Current (lib.mktime (yearOf clock)) now
    · rw [decide_eq_true hcurrent]
      refine .inr ⟨fun hone => hwaiting hone hcurrent, fun f hf => ?_, rfl⟩
      obtain hstart | ⟨-, hcounts⟩ := hcounts
      · exact absurd hcurrent.1 (not_lt.2 hstart)
      · exact ⟨(hcounts f hf).local_year, (hcounts f hf).in_force⟩
    · rw [decide_eq_false hcurrent]
      exact .inl ⟨fun h => hcurrent (honAir.1 h), rfl⟩
  · exact absurd ⟨frame, hframe, hcounts.imp_right And.left⟩ hnone

theorem right_check {p : Nat} {clock : Int} (h : Right lib (s, g)) (hlinked : Linked lib (s, g)) (hheld : Held s)
    (hmain : s.main = .TimDuration p) (hunlocked : s.Unlocked) (hsound : SoundDuration lib s g p clock now) :
    Right lib (s.TimDuration lib p clock now, g.after lib s (.TimDuration clock now) (s.TimDuration lib p clock now)) := by
  obtain ⟨honAir, heq⟩ | ⟨-, -, heq⟩ := check_cases hlinked hheld hmain hunlocked hsound
  · rw [heq]
    exact h.pass now none h.alive rfl honAir h.waiting
  · rw [heq]
    exact h.same h.alive rfl h.waiting

theorem linked_check {p : Nat} {clock : Int} (h : Right lib (s, g)) (hlinked : Linked lib (s, g)) (hheld : Held s)
    (hmain : s.main = .TimDuration p) (hunlocked : s.Unlocked) (hsound : SoundDuration lib s g p clock now) :
    Linked lib (s.TimDuration lib p clock now, g.after lib s (.TimDuration clock now) (s.TimDuration lib p clock now)) := by
  have hptr := hsound.1
  have hcontents (q : Nat) (main : Main) :
      State.contents { s with messages := release s.messages p, main := main } q = s.contents q :=
    contents_modify (f := fun msg => { msg with use_count := msg.use_count - 1 }) (fun _ => rfl) rfl
  obtain ⟨-, heq⟩ | ⟨hwaiting, hyears, heq⟩ := check_cases hlinked hheld hmain hunlocked hsound
  · rw [heq]
    exact hlinked.same rfl rfl (hcontents · .outer) length_release rfl nofun
  · rw [heq]
    obtain ⟨f, hf, -⟩ := hlinked.contents hunlocked p hptr
    dsimp only [History.after]
    rw [hmain]
    refine ⟨hlinked.noMessage, fun hnone q hq => ?_, fun tree htree => (nomatch hunlocked.symm.trans htree),
      fun _ => Option.isSome_iff_exists.2 ⟨p, hptr⟩,
      fun _ => ⟨p, clock, rfl, ?_, (hyears f hf).1, fun _ f' hf' => (hyears f' hf').2⟩, fun _ n hn => ?_⟩
    · exact (hcontents q .send).symm ▸ hlinked.contents hnone q hq
    · rw [length_release]
      exact hheld.pointer p hptr
    · have hle := h.waiting n hn
      have hne : n ≠ 1 := fun hone => hwaiting (hone ▸ hn)
      omega

theorem broadcast_eq {p : Nat} (hheld : Held s) (hptr : s.timMsgPtr = some p) (hok : (lib.encoded (s.contents p)).isOk) :
    ∃ bytes, lib.encoded (s.contents p) = .ok bytes ∧
      s.BroadcastMessage lib = { s with main := .inner, broadcast := s.broadcast ++ [bytes] } := by
  unfold State.BroadcastMessage
  rw [hptr]
  dsimp only
  rw [hheld.deref_pointer hptr]
  dsimp only [bind, Except.bind]
  cases hencoded : lib.encoded (s.contents p) with
  | error e => exact absurd hok (by rw [hencoded]; exact Bool.false_ne_true)
  | ok bytes => exact ⟨bytes, rfl, rfl⟩

theorem right_send (h : Right lib (s, g)) (hlinked : Linked lib (s, g)) (hheld : Held s) (hmain : s.main = .send)
    (hunlocked : s.Unlocked) (hsound : Sound lib (s, g) (.BroadcastMessage now)) :
    Right lib (s.BroadcastMessage lib, g.after lib s (.BroadcastMessage now) (s.BroadcastMessage lib)) := by
  obtain ⟨p, hptr⟩ := Option.isSome_iff_exists.1 (hlinked.pointer hmain)
  obtain ⟨hok, ⟨_, clock⟩, hchecked, rfl, hbehind, frame, hframe, hcurrent⟩ := hsound p hptr
  obtain ⟨f, hf, hcontents⟩ := hlinked.contents hunlocked _ hptr
  have honAir : OnAir lib g.inForce now := by
    obtain ⟨p', clock', hchecked', -, hzone, hyear⟩ := hlinked.checked hmain
    obtain ⟨rfl, rfl⟩ := Prod.mk.inj (Option.some.inj (hchecked.symm.trans hchecked'))
    rw [hzone] at hcurrent
    exact ⟨f, hf, frame, hcontents ▸ hframe, active_of_current (hyear hptr f hf) hbehind hcurrent⟩
  obtain ⟨bytes, hbytes, heq⟩ := broadcast_eq hheld hptr hok
  have hsent : (s.broadcast ++ [bytes])[s.broadcast.length]? = some bytes := List.getElem?_concat_length
  rw [heq]
  refine h.pass now (some bytes) h.alive (congrArg (fun sent => g.passes ++ [⟨g.inForce, now, sent⟩]) hsent)
    ⟨honAir, f, hf, hcontents ▸ hbytes⟩ fun n hn => ?_
  obtain ⟨m, hm, rfl⟩ := Option.map_eq_some_iff.1 hn
  rw [hlinked.waiting hmain m hm]

theorem linked_send (h : Linked lib (s, g)) (hheld : Held s) (hmain : s.main = .send)
    (hsound : Sound lib (s, g) (.BroadcastMessage now)) :
    Linked lib (s.BroadcastMessage lib, g.after lib s (.BroadcastMessage now) (s.BroadcastMessage lib)) := by
  obtain ⟨p, hptr⟩ := Option.isSome_iff_exists.1 (h.pointer hmain)
  obtain ⟨bytes, -, heq⟩ := broadcast_eq hheld hptr (hsound p hptr).1
  rw [heq]
  exact h.same rfl rfl (contents_congr rfl) rfl rfl nofun

theorem Right.copy (h : Right lib (s, g)) (hheld : Held s) {p : Nat} (hmain : s.main = .copy p)
    (hptr : s.timMsgPtr = some p) : Right lib (s.copy p, g) := by
  have halive : (s.copy p).stopped = none :=
    not_not.1 fun hstopped => (hheld.copy_stopped_iff hmain h.alive).1 hstopped hptr
  exact h.same halive rfl h.waiting

theorem Linked.copy (h : Linked lib (s, g)) {p : Nat} (hmain : s.main = .copy p) : Linked lib (s.copy p, g) := by
  unfold State.copy State.deref
  split_ifs
  · exact h.same rfl rfl (contents_congr rfl) rfl rfl fun hsend => (nomatch hmain.symm.trans hsend)
  · have hcontents (q : Nat) : State.contents { s with
        messages := s.messages.modify p fun msg => { msg with use_count := msg.use_count + 1 }
        main := .TimDuration p } q = s.contents q :=
      contents_modify (f := fun msg => { msg with use_count := msg.use_count + 1 }) (fun _ => rfl) rfl
    exact h.same rfl rfl hcontents (List.length_modify ..) rfl nofun

theorem right_step (h : Right lib (s, g)) (hlinked : Linked lib (s, g)) (hheld : Held s) (hsound : Sound lib (s, g) e)
    (hstep : Steps lib s e t) : Right lib (t, g.after lib s e t) := by
  cases hstep with
  | config hunlocked => exact right_config h
  | empty =>
    rw [after_empty]
    exact h.same h.alive rfl h.waiting
  | request hbody hunlocked => exact right_request h hbody hsound
  | set_contents htree => exact h.same h.alive rfl h.waiting
  | unregistered hmain => exact h
  | same hmain hnew =>
    rw [after_same hnew]
    exact h.same h.alive rfl h.waiting
  | load hmain hnew hunlocked => exact right_load h hnew
  | look hmain => exact right_look h hlinked h.alive
  | copy hmain => exact h.copy hheld hmain (hsound _ (by rw [hmain]; rfl))
  | check hmain hunlocked => exact right_check h hlinked hheld hmain hunlocked (hsound _ (by rw [hmain]; rfl))
  | send hmain hunlocked => exact right_send h hlinked hheld hmain hunlocked hsound
  | error hmain => exact h.same h.alive rfl h.waiting

theorem linked_step (hright : Right lib (s, g)) (h : Linked lib (s, g)) (hheld : Held s) (hsound : Sound lib (s, g) e)
    (hstep : Steps lib s e t) : Linked lib (t, g.after lib s e t) := by
  cases hstep with
  | config hunlocked => exact linked_config h
  | empty =>
    rw [after_empty]
    exact h.same rfl rfl (contents_congr rfl) rfl rfl fun hmain => ⟨hmain, rfl, h.waiting hmain⟩
  | request hbody hunlocked => exact linked_request h hbody
  | @set_contents tree htree =>
    obtain ⟨hptr, hne, f, hf, rfl⟩ := h.handling _ htree
    refine ⟨fun hnone => h.noMessage hnone, fun _ p hp => ?_, nofun, h.pointer, fun hmain => ?_, h.waiting⟩
    · obtain rfl := Option.some.inj (hptr.symm.trans hp)
      exact ⟨f, hf, contents_set_contents _ hne⟩
    · obtain ⟨p, clock, hchecked, hlt, hyears⟩ := h.checked hmain
      exact ⟨p, clock, hchecked, (List.length_modify ..).symm ▸ hlt, hyears⟩
  | unregistered hmain => exact h
  | same hmain hnew =>
    rw [after_same hnew]
    exact h.same rfl rfl (contents_congr rfl) rfl rfl nofun
  | load hmain hnew hunlocked => exact linked_load h hnew hunlocked hsound
  | look hmain =>
    refine h.same rfl rfl (contents_congr rfl) rfl ?_ ?_
    · dsimp only [History.after]
      split_ifs <;> rfl
    · cases hptr : s.timMsgPtr with
      | none => exact nofun
      | some p => exact nofun
  | copy hmain => exact h.copy hmain
  | check hmain hunlocked => exact linked_check hright h hheld hmain hunlocked (hsound _ (by rw [hmain]; rfl))
  | send hmain hunlocked => exact linked_send h hheld hmain hsound
  | error hmain => exact h.same rfl rfl (contents_congr rfl) rfl rfl nofun

theorem right_init : Right lib (State.init, History.init) := ⟨rfl, fun _ hp => absurd hp List.not_mem_nil, nofun⟩

theorem linked_init : Linked lib (State.init, History.init) :=
  ⟨fun _ => rfl, nofun, nofun, nofun, nofun, nofun⟩

theorem held_init : Held State.init := ⟨nofun, nofun, nofun, nofun⟩

/-! ### Runs -/

/-- All runs whose steps are sound are right, for any parser and codec, and any interleaving of the changes of the
configuration, the requests and the main loop. -/
theorem tim_on_air (lib : Library ρ) {es : List Event} {s : State × History}
    (h : (monitored lib).exec (State.init, History.init) es = some s)
    (hsound : (monitored lib).Meets (Sound lib) (State.init, History.init) es) : Right lib s := by
  have hinv : Right lib s ∧ Linked lib s ∧ Held s.1 := by
    refine Machine.invariant_meets (M := monitored lib) (I := fun s => Right lib s ∧ Linked lib s ∧ Held s.1)
      ⟨right_init, linked_init, held_init⟩ ?_ hsound h
    rintro ⟨s, g⟩ e ⟨t, g'⟩ ⟨hright, hlinked, hheld⟩ hsound hstep
    obtain ⟨hs, hg⟩ : s.step lib e = some t ∧ g' = g.after lib s e t := Machine.step_withGhost.1 hstep
    subst hg
    have hsteps := (step_cases hs).2
    exact ⟨right_step hright hlinked hheld hsound hsteps, linked_step hright hlinked hheld hsound hsteps,
      held_step hheld hsteps⟩
  exact hinv.1

instance decidableOnAir (lib : Library ρ) (inForce : Option InForce) (now : Int) : Decidable (OnAir lib inForce now) :=
  inferInstanceAs (Decidable (∃ f ∈ inForce, ∃ frame ∈ lib.frame? f.tree, frame.Active f.year now))

instance decidableRight (lib : Library ρ) (p : Pass) : Decidable (p.Right lib) := by
  unfold Pass.Right
  cases p.sent with
  | none => exact inferInstanceAs (Decidable (¬ OnAir lib p.inForce p.now))
  | some bytes =>
    have : Decidable (∃ f ∈ p.inForce, lib.encoded f.tree = .ok bytes) :=
      match hforce : p.inForce with
      | none => .isFalse nofun
      | some f =>
        match hencoded : lib.encoded f.tree with
        | .error e => .isFalse fun ⟨_, hf, heq⟩ => by
          obtain rfl := Option.some.inj hf
          nomatch hencoded.symm.trans heq
        | .ok bytes' => decidable_of_iff (bytes' = bytes) ⟨fun heq => ⟨f, rfl, heq ▸ hencoded⟩, fun ⟨_, hf, heq⟩ => by
          obtain rfl := Option.some.inj hf
          exact Except.ok.inj (hencoded.symm.trans heq)⟩
    exact inferInstanceAs (Decidable (_ ∧ _))

instance decidableCounts (lib : Library ρ) (frame : TravelerDataFrame) (year clock now : Int) :
    Decidable (frame.Counts lib year clock now) :=
  decidable_of_iff (lib.mktime (yearOf clock) = yearStart (yearOf clock) ∧ yearStart (yearOf clock) ≤ now ∧
      year ≤ yearOf clock ∧
      (frame.duratonTime < 32000 → ∀ y ∈ [yearOf now, yearOf now - 1], frame.InSpan y now → y = yearOf clock) ∧
      (32000 ≤ frame.duratonTime → frame.start (yearStart year) ≤ now → frame.start (yearStart (yearOf clock)) ≤ now))
    ⟨fun ⟨h1, h2, h3, h4, h5⟩ => ⟨h1, h2, h3, h4, h5⟩, fun ⟨h1, h2, h3, h4, h5⟩ => ⟨h1, h2, h3, h4, h5⟩⟩

instance decidableSoundDuration (lib : Library ρ) (s : State) (h : History) (TimMsg : Nat) (clock now : Int) :
    Decidable (SoundDuration lib s h TimMsg clock now) :=
  inferInstanceAs (Decidable (_ ∧ ∃ frame ∈ lib.frame? (s.contents TimMsg),
    (527040 ≤ frame.startTime ∨
      frame.Fits (lib.mktime (yearOf clock)) ∧ ∀ f ∈ h.inForce, frame.Counts lib f.year clock now) ∧
    (h.waiting = some 1 → ¬ frame.Current (lib.mktime (yearOf clock)) now)))

instance decidableSoundBroadcast (lib : Library ρ) (s : State) (h : History) (TimMsg : Nat) (now : Int) :
    Decidable (SoundBroadcast lib s h TimMsg now) :=
  inferInstanceAs (Decidable (_ ∧ ∃ c ∈ h.checked, c.1 = TimMsg ∧ yearStart (yearOf c.2) ≤ now ∧
    ∃ frame ∈ lib.frame? (s.contents TimMsg), frame.Current (lib.mktime (yearOf c.2)) now))

instance decidableSound (lib : Library ρ) (s : State × History) (e : Event) : Decidable (Sound lib s e) :=
  match e with
  | .UpdateConfigSettings _ _ => .isTrue trivial
  | .TimRequestHandler body _ => inferInstanceAs (Decidable (body = [] ∨ (lib.parse body).isSome))
  | .set_contents => .isTrue trivial
  | .outer true files _ =>
    inferInstanceAs (Decidable (s.1.isMapFileNew → s.1.timMsgPtr = none ∨ (s.1.loaded lib files).isSome))
  | .outer false _ _ => .isTrue trivial
  | .inner _ => .isTrue trivial
  | .copy => inferInstanceAs (Decidable (∀ p ∈ s.1.main.read?, s.1.timMsgPtr = some p))
  | .TimDuration clock now =>
    inferInstanceAs (Decidable (∀ p ∈ s.1.main.TimMsg?, SoundDuration lib s.1 s.2 p clock now))
  | .BroadcastMessage now => inferInstanceAs (Decidable (∀ p ∈ s.1.timMsgPtr, SoundBroadcast lib s.1 s.2 p now))
  | .error => .isTrue trivial

def leaf (name data : String) : Str × Ptree := (CString.lit name, .node (CString.lit data) [])

def branch (name : String) (children : List (Str × Ptree)) : Str × Ptree := (CString.lit name, .node [] children)

/-- A TIM for 100 minutes from 40 minutes before the end of a leap year on. -/
def lastMinutes : Str := 60 :: CString.lit ("TravelerInformation><msgCnt>1</msgCnt><dataFrames><TravelerDataFrame>" ++
  "<sspTimRights>0</sspTimRights><frameType><advisory/></frameType><msgId><furtherInfoID>0000</furtherInfoID></msgId>" ++
  "<startTime>527000</startTime><duratonTime>100</duratonTime><priority>0</priority>" ++
  "<sspLocationRights>0</sspLocationRights><regions><GeographicalPath/></regions><sspMsgRights1>0</sspMsgRights1>" ++
  "<sspMsgRights2>0</sspMsgRights2><content><advisory><SEQUENCE><item><itis>513</itis></item></SEQUENCE></advisory>" ++
  "</content></TravelerDataFrame></dataFrames></TravelerInformation>")

def lastMinutesTree : Ptree := .node [] [branch "TravelerInformation" [leaf "msgCnt" "1", branch "dataFrames"
  [branch "TravelerDataFrame" [leaf "sspTimRights" "0", branch "frameType" [leaf "advisory" ""],
    branch "msgId" [leaf "furtherInfoID" "0000"], leaf "startTime" "527000", leaf "duratonTime" "100", leaf "priority" "0",
    leaf "sspLocationRights" "0", branch "regions" [leaf "GeographicalPath" ""], leaf "sspMsgRights1" "0",
    leaf "sspMsgRights2" "0",
    branch "content" [branch "advisory" [branch "SEQUENCE" [branch "item" [leaf "itis" "513"]]]]]]]]

/-- Texts that are this TIM or no XML, where the zone is UTC. -/
def utc : Library Unit where
  toLocal8Bit := id
  read_xml text := if text.head? = some 60 then some lastMinutesTree else none
  xer_decode tree := if tree.children.length = 1 then some ⟨[⟨527000, 100⟩], ()⟩ else none
  encode _ := some (CString.lit "001f")
  mktime := yearStart

def mapFile : List Event :=
  [.UpdateConfigSettings (some (CString.lit "/var/www/plugins/MAP/IVP_GF_TIM.xml")) true,
    .outer true (fun _ => some lastMinutes) 1735689000]

/-- The TIM is loaded, sent, replaced by a request and sent again. -/
def tenToMidnight : List Event :=
  let now := 1735689000
  mapFile ++ [.inner now, .copy, .TimDuration now now, .BroadcastMessage now,
    .TimRequestHandler lastMinutes now, .set_contents, .inner now, .copy, .TimDuration now now, .BroadcastMessage now]

theorem tim_on_air_ten_to_midnight :
    ∃ s, (monitored utc).exec (State.init, History.init) tenToMidnight = some s ∧ Right utc s := by
  have hsome : ((monitored utc).exec (State.init, History.init) tenToMidnight).isSome := by decide +kernel
  obtain ⟨s, hexec⟩ := Option.isSome_iff_exists.1 hsome
  exact ⟨s, hexec, tim_on_air utc hexec (by decide +kernel)⟩

/-- Ten minutes after the end of the year the TIM is not sent any more; a request that is no XML ends the plugin; and one that
comes while the main loop copies the pointer frees the message. -/
theorem tim_on_air_fails :
    (∃ s, (monitored utc).exec (State.init, History.init) (tenToMidnight ++ [.inner 1735690200, .copy,
      .TimDuration 1735690200 1735690200]) = some s ∧ ¬ Right utc s) ∧
    (∃ s, (monitored utc).exec (State.init, History.init) [.TimRequestHandler (CString.lit "TIM") 1735689000] = some s ∧
      s.1.stopped = some .xml_parser_error) ∧
    ∃ s, (monitored utc).exec (State.init, History.init) (mapFile ++ [.inner 1735689000,
      .TimRequestHandler lastMinutes 1735689000, .copy]) = some s ∧ s.1.stopped = some .use_after_free := by
  have hwrong : ∃ s ∈ (monitored utc).exec (State.init, History.init) (tenToMidnight ++ [.inner 1735690200, .copy,
      .TimDuration 1735690200 1735690200]), ¬ ∀ p ∈ s.2.passes, p.Right utc := by decide +kernel
  have hfreed : ∃ s ∈ (monitored utc).exec (State.init, History.init) (mapFile ++ [.inner 1735689000,
      .TimRequestHandler lastMinutes 1735689000, .copy]), s.1.stopped = some .use_after_free := by decide +kernel
  obtain ⟨s, hs, hpasses⟩ := hwrong
  exact ⟨⟨s, hs, fun h => hpasses h.passes⟩, ⟨_, rfl, rfl⟩, hfreed⟩

end V2xHub.TimPlugin
