import V2xHub.Lib.Printf

/-!
# XML

Trees of elements without attributes, and the texts that stand for them: every start tag has its end tag, and the characters
of a text are neither markup nor references. A text stands for one tree (`Content.unique`).
-/

inductive Xml where
  | text (s : Str)
  | element (name : Str) (children : List Xml)

namespace Xml

/-- A character that stands for itself: no control character, `<`, `&` or `>`. -/
def Literal (c : UInt8) : Prop := 32 ≤ c ∧ c ≠ 60 ∧ c ≠ 38 ∧ c ≠ 62

instance (c : UInt8) : Decidable (Literal c) := inferInstanceAs (Decidable (_ ∧ _))

def IsLetter (c : UInt8) : Prop := 65 ≤ c ∧ c ≤ 90 ∨ 97 ≤ c ∧ c ≤ 122

instance (c : UInt8) : Decidable (IsLetter c) := inferInstanceAs (Decidable (_ ∨ _))

/-- A name of letters and digits that starts with a letter. -/
def Name (name : Str) : Prop := ∃ c cs, name = c :: cs ∧ IsLetter c ∧ ∀ d ∈ cs, IsLetter d ∨ 48 ≤ d ∧ d ≤ 57

def startTag (name : Str) : Str := 60 :: name ++ [62]

def endTag (name : Str) : Str := 60 :: 47 :: name ++ [62]

/-- The text stands for the trees, one after the other. -/
inductive Content : Str → List Xml → Prop
  | nil : Content [] []
  | text {s t trees} : (∀ c ∈ s, Literal c) → Content t trees → Content (s ++ t) (.text s :: trees)
  | element {name c t children trees} : Name name → Content c children → Content t trees →
      Content (startTag name ++ c ++ endTag name ++ t) (.element name children :: trees)

def declaration : Str := CString.lit "<?xml version=\"1.0\" encoding=\"UTF-8\"?>"

/-- A document with the one element. -/
def Document (t : Str) (tree : Xml) : Prop := ∃ content, t = declaration ++ content ∧ Content content [tree]

variable {s t t' : Str} {name : Str} {children trees : List Xml} {tree : Xml}

theorem Content.unique (h : Content t trees) (h' : Content t' trees) : t = t' := by
  induction h generalizing t' with
  | nil =>
    cases h'
    rfl
  | text hs ht ih =>
    cases h' with
    | text _ ht' => rw [ih ht']
  | element hname hc ht ihc iht =>
    cases h' with
    | element _ hc' ht' => rw [ihc hc', iht ht']

theorem Document.unique (h : Document t tree) (h' : Document t' tree) : t = t' := by
  obtain ⟨content, rfl, hcontent⟩ := h
  obtain ⟨content', rfl, hcontent'⟩ := h'
  rw [hcontent.unique hcontent']

theorem Content.append {trees' : List Xml} (h : Content t trees) (h' : Content t' trees') :
    Content (t ++ t') (trees ++ trees') := by
  induction h with
  | nil => exact h'
  | text hs ht ih =>
    rw [List.append_assoc]
    exact .text hs ih
  | element hname hc ht ihc iht =>
    rw [List.append_assoc]
    exact .element hname hc iht

theorem Content.singleton (hname : Name name) (h : Content t children) :
    Content (startTag name ++ t ++ endTag name) [.element name children] := by
  have := Content.element hname h .nil
  rwa [List.append_nil] at this

theorem Content.leaf (hs : ∀ c ∈ s, Literal c) : Content s [.text s] := by
  have := Content.text hs .nil
  rwa [List.append_nil] at this

/-- An element with a text. -/
theorem Content.field (hname : Name name) (hs : ∀ c ∈ s, Literal c) :
    Content (startTag name ++ s ++ endTag name) [.element name [.text s]] := .singleton hname (.leaf hs)

/-- Elements made from the members of a list. -/
theorem Content.flatMap {α : Type*} {l : List α} {f : α → Str} {g : α → Xml} (h : ∀ a ∈ l, Content (f a) [g a]) :
    Content (l.flatMap f) (l.map g) := by
  induction l with
  | nil => exact .nil
  | cons a l ih =>
    obtain ⟨ha, hl⟩ := List.forall_mem_cons.1 h
    exact ha.append (ih hl)

theorem literal_digit {c : UInt8} (h : 48 ≤ c.toNat ∧ c.toNat ≤ 57) : Literal c := by
  have h48 : (48 : UInt8).toNat = 48 := rfl
  refine ⟨UInt8.le_iff_toNat_le.2 (Nat.le_trans (by decide) h.1), ?_, ?_, ?_⟩
  all_goals
    rintro rfl
    exact absurd h (by decide)

theorem literal_lld (n : Int) : ∀ c ∈ Printf.lld n, Literal c := by
  intro c hc
  rcases List.mem_append.1 hc with hc | hc
  · unfold Printf.signOf at hc
    split_ifs at hc
    · rw [List.mem_singleton.1 hc]
      decide
    · exact absurd hc List.not_mem_nil
  · exact literal_digit (Printf.mem_decimal hc)

theorem name_iff {c : UInt8} {cs : Str} : Name (c :: cs) ↔ IsLetter c ∧ ∀ d ∈ cs, IsLetter d ∨ 48 ≤ d ∧ d ≤ 57 := by
  constructor
  · rintro ⟨_, _, heq, h⟩
    obtain ⟨rfl, rfl⟩ := List.cons.inj heq
    exact h
  · exact fun h => ⟨c, cs, rfl, h⟩

instance : (name : Str) → Decidable (Name name)
  | [] => isFalse fun ⟨_, _, h, _⟩ => nomatch h
  | _ :: cs =>
    have : Decidable (∀ d ∈ cs, IsLetter d ∨ 48 ≤ d ∧ d ≤ 57) := List.decidableBAll _ cs
    decidable_of_iff' _ name_iff

end Xml
