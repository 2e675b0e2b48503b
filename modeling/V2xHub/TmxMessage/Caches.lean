import V2xHub.Lib.Machine
import V2xHub.PropertyTree.Json
import Mathlib.Logic.Function.Basic

/-!
# The caches of a message

A `tmx_message` is a tree with a version. Each attribute keeps the last value that was taken from the tree or set, and the
message the last text, each with the version it belongs to; but only `store` and `load` give the tree a new version, while other
operations change it as well, and the get of a missing attribute is one of them.

Beside each cache stands whether such an operation has left it behind since it was filled. Where none has, the versions do their
work: what is cached at the version of the tree, or a later one, is what the tree holds (`Coherent`).
-/

namespace Ptree

/-- The children with the first of this name changed, or added. -/
def updateFirst (key : Str) (f : Ptree → Ptree) : List (Str × Ptree) → List (Str × Ptree)
  | [] => [(key, f empty)]
  | (k, t) :: children => if k = key then (k, f t) :: children else (k, t) :: updateFirst key f children

/-- The tree at the path changed; what is missing of the path is made. -/
def updateAt (f : Ptree → Ptree) : List Str → Ptree → Ptree
  | [], t => f t
  | key :: path, t => node t.data (updateFirst key (updateAt f path) t.children)

/-- `get_child_optional` -/
def getAt : List Str → Ptree → Option Ptree
  | [], t => some t
  | key :: path, t => (t.children.find? fun child => child.1 = key).bind fun child => getAt path child.2

def valueAt (path : List Str) (t : Ptree) : Option Str := (getAt path t).map data

def put (t : Ptree) (path : List Str) (value : Str) : Ptree := updateAt (fun u => node value u.children) path t

/-- The element behind the others of the array; the array is made if there is none. -/
def add_array_element (t : Ptree) (path : List Str) (element : Ptree) : Ptree :=
  updateAt (fun array => node array.data (array.children ++ [([], element)])) path t

/-- `erase` takes a name, not a path. -/
def erase (key : Str) (t : Ptree) : Ptree := node t.data (t.children.filter fun child => child.1 ≠ key)

variable {key k name value text : Str} {path place : List Str} {t : Ptree} {f : Ptree → Ptree}

@[simp] theorem children_node (data : Str) (children : List (Str × Ptree)) : (node data children).children = children := rfl

theorem find?_updateFirst (children : List (Str × Ptree)) :
    (updateFirst key f children).find? (fun child => child.1 = k) =
      if key = k then some (key, f (((children.find? fun child => child.1 = k).map Prod.snd).getD empty))
      else children.find? fun child => child.1 = k := by
  induction children with
  | nil =>
    unfold updateFirst
    rw [List.find?_cons]
    split_ifs with hk
    · rw [decide_eq_true hk]
      rfl
    · rw [decide_eq_false hk]
  | cons child children ih =>
    obtain ⟨key', u⟩ := child
    unfold updateFirst
    by_cases hkey : key' = key
    · subst hkey
      rw [if_pos rfl, List.find?_cons, List.find?_cons]
      split_ifs with hk
      · rw [decide_eq_true hk]
        rfl
      · rw [decide_eq_false hk]
    · rw [if_neg hkey, List.find?_cons, List.find?_cons, ih]
      by_cases hk : key' = k
      · have hne : key ≠ k := fun h => hkey (hk.trans h.symm)
        rw [decide_eq_true hk]
        exact (if_neg hne).symm
      · rw [decide_eq_false hk]

theorem valueAt_cons (t : Ptree) :
    valueAt (k :: path) t = (t.children.find? fun child => child.1 = k).bind fun child => valueAt path child.2 := by
  rw [valueAt, getAt, Option.map_bind]
  rfl

/-- What the tree holds stays, if what the changed subtree holds stays. -/
theorem valueAt_updateAt (h : valueAt path t = some text)
    (hf : ∀ rest u, path = place ++ rest → valueAt rest u = some text → valueAt rest (f u) = some text) :
    valueAt path (updateAt f place t) = some text := by
  induction place generalizing path t with
  | nil => exact hf path t rfl h
  | cons key place ih =>
    cases path with
    | nil => exact h
    | cons k path =>
      rw [valueAt_cons] at h ⊢
      obtain ⟨⟨k', child⟩, hfind, hchild⟩ := Option.bind_eq_some_iff.1 h
      unfold updateAt
      rw [children_node, find?_updateFirst]
      split_ifs with hkey
      · subst hkey
        rw [hfind]
        exact ih hchild fun rest u hpath => hf rest u (congrArg (List.cons key) hpath)
      · exact h

theorem valueAt_put_self (path : List Str) (t : Ptree) : valueAt path (t.put path value) = some value := by
  unfold put
  induction path generalizing t with
  | nil => rfl
  | cons key path ih =>
    unfold updateAt
    rw [valueAt_cons, children_node, find?_updateFirst, if_pos rfl]
    exact ih _

theorem valueAt_put (h : valueAt path t = some text) (hne : path ≠ place) : valueAt path (t.put place value) = some text := by
  refine valueAt_updateAt h fun rest u hpath hrest => ?_
  cases rest with
  | nil => exact absurd (hpath.trans (List.append_nil place)) hne
  | cons k rest =>
    rw [valueAt_cons] at hrest ⊢
    exact hrest

theorem valueAt_add_array_element {element : Ptree} (h : valueAt path t = some text) :
    valueAt path (t.add_array_element place element) = some text := by
  refine valueAt_updateAt h fun rest u hpath hrest => ?_
  cases rest with
  | nil => exact hrest
  | cons k rest =>
    rw [valueAt_cons] at hrest ⊢
    obtain ⟨child, hfind, hchild⟩ := Option.bind_eq_some_iff.1 hrest
    rw [children_node, List.find?_append, hfind]
    exact hchild

theorem valueAt_erase (h : valueAt path t = some text) (hne : path.head? ≠ some name) :
    valueAt path (erase name t) = some text := by
  cases path with
  | nil => exact h
  | cons k path =>
    have hsame : (fun child : Str × Ptree => decide (decide (child.1 ≠ name) = true ∧ decide (child.1 = k) = true)) =
        fun child => decide (child.1 = k) := by
      funext child
      refine decide_eq_decide.2 ⟨fun h => decide_eq_true_iff.1 h.2, fun hk => ⟨?_, decide_eq_true hk⟩⟩
      exact decide_eq_true fun hname => hne (congrArg some (hk.symm.trans hname))
    rw [valueAt_cons] at h ⊢
    unfold erase
    rw [children_node, List.find?_filter, hsame]
    exact h

theorem erase_of_missing (h : ∀ child ∈ t.children, child.1 ≠ name) : erase name t = t := by
  obtain ⟨data, children⟩ := t
  exact congrArg (node data) (List.filter_eq_self.2 fun child hchild => decide_eq_true (h child hchild))

end Ptree

namespace V2xHub.TmxMessage

/-- A class of messages: its attributes with the casts of their types, and its format. -/
structure Class (α δ : Type) where
  path : α → List Str
  default_value : α → Str
  fromText : α → Str → Option δ
  toText : α → δ → Str
  read : Str → Option Ptree
  write : Ptree → Option Str

/-- `typed_attribute`. It is behind if the tree has been changed at its path since the value was cached, by an operation that
has not made the version of the attribute older than that of the tree. -/
structure Attribute (δ : Type) where
  value : Option δ
  storage_version : Int
  behind : Bool

structure Message (α δ : Type) where
  tree : Ptree
  storage_version : Int
  attributes : α → Attribute δ
  msgString : Str
  msgVersion : Int
  /-- The tree has been changed since the text was kept, without a new version. -/
  msgBehind : Bool

/-- What a call returned, with the tree that it was called on; none is an exception. -/
inductive Output (α δ : Type) where
  | value (a : α) (tree : Ptree) (returned : Option δ)
  | text (tree : Ptree) (returned : Option Str)

inductive Operation (α δ : Type) where
  | set_contents (contents : Ptree)
  | set_text (contents : Str)
  | clear
  | flush
  | set (a : α) (data : δ)
  | get (a : α)
  | add_array_element (path : List Str) (element : Ptree)
  | set_array (name : Str) (path : List Str) (elements : List Ptree)
  | erase_array (name : Str)
  | to_string
  | write

/-- The next version, an `int`. -/
def increment (version : Int) : Int := Int.bmod (version + 1) (2 ^ 32)

namespace Message
variable {α δ : Type} [DecidableEq α] (cls : Class α δ)

/-- A message with this container. -/
def ofContainer (tree : Ptree) (storage_version : Int) : Message α δ where
  tree := tree
  storage_version := storage_version
  attributes _ := ⟨none, 0, false⟩
  msgString := []
  msgVersion := -1
  msgBehind := false

def clearText (m : Message α δ) : Message α δ := { m with msgString := [], msgVersion := -1, msgBehind := false }

def setAttribute (m : Message α δ) (a : α) (c : Attribute δ) : Message α δ :=
  { m with attributes := Function.update m.attributes a c }

def set (m : Message α δ) (a : α) (data : δ) : Message α δ :=
  { m with
    tree := m.tree.put (cls.path a) (cls.toText a data)
    storage_version := increment m.storage_version }.setAttribute a ⟨some data, increment m.storage_version, false⟩

/-- `retrieve` with `set_on_missing`: the version stays. -/
def retrieve (m : Message α δ) (a : α) : Str × Ptree :=
  match m.tree.valueAt (cls.path a) with
  | some text => (text, m.tree)
  | none => (cls.default_value a, m.tree.put (cls.path a) (cls.default_value a))

/-- The value that is not invalid. -/
def cached (m : Message α δ) (a : α) : Option δ :=
  if (m.attributes a).storage_version < m.storage_version then none else (m.attributes a).value

def get (m : Message α δ) (a : α) : Option δ × Message α δ :=
  match m.cached a with
  | some data => (some data, m)
  | none =>
    let (text, tree) := m.retrieve cls a
    match cls.fromText a text with
    | some data => (some data, { m with tree := tree }.setAttribute a ⟨some data, m.storage_version, false⟩)
    | none => (none, { m with tree := tree }.setAttribute a ⟨none, (m.attributes a).storage_version, false⟩)

/-- `set_contents` of a text: what cannot be read throws. -/
def set_text (m : Message α δ) (contents : Str) : Message α δ :=
  match cls.read contents with
  | some tree =>
    { m with
      tree := tree, storage_version := increment m.storage_version
      msgString := contents, msgVersion := increment m.storage_version, msgBehind := false }
  | none => m

/-- `operator<<` -/
def print (m : Message α δ) : Option Str := if m.msgVersion = m.storage_version then some m.msgString else cls.write m.tree

/-- The text that is printed is kept. -/
def keep (m : Message α δ) (text : Str) : Message α δ :=
  if m.msgVersion = m.storage_version then m
  else { m with msgString := text, msgVersion := m.storage_version, msgBehind := false }

def apply (m : Message α δ) : Operation α δ → Message α δ × Option (Output α δ)
  | .set_contents contents => ({ m with tree := contents }.clearText, none)
  | .set_text contents => (m.set_text cls contents, none)
  | .clear => ({ m with tree := .empty }, none)
  | .flush => (m.clearText, none)
  | .set a data => (m.set cls a data, none)
  | .get a => ((m.get cls a).2, some (.value a m.tree (m.get cls a).1))
  | .add_array_element path element => ({ m with tree := m.tree.add_array_element path element }, none)
  | .set_array name path elements =>
    ({ m with tree := elements.foldl (fun tree element => tree.add_array_element path element) (m.tree.erase name) }, none)
  | .erase_array name => ({ m with tree := m.tree.erase name }, none)
  | .to_string =>
    match m.print cls with
    | some text => (m.keep text, some (.text m.tree (some text)))
    | none => (m, some (.text m.tree none))
  | .write => (m, some (.text m.tree (m.print cls)))

/-- The operation leaves the attribute behind: it changes the tree at the path, and gives it no version that is greater than
that of the attribute. -/
def leaves (m : Message α δ) (a : α) : Operation α δ → Bool
  | .set_contents _ | .clear => true
  | .set_array name _ _ | .erase_array name => (cls.path a).head? = some name
  | .set b _ => m.storage_version < (m.attributes a).storage_version ∧ cls.path a = cls.path b
  | .set_text _ => m.storage_version < (m.attributes a).storage_version
  | .flush | .get _ | .add_array_element _ _ | .to_string | .write => false

def hasChild (m : Message α δ) (name : Str) : Bool := m.tree.children.any fun child => child.1 = name

/-- The operation changes the tree, gives it no new version and keeps the text. -/
def leavesText (m : Message α δ) : Operation α δ → Bool
  | .clear => !m.tree.data.isEmpty || !m.tree.children.isEmpty
  | .get a => (m.cached a).isNone && (m.tree.valueAt (cls.path a)).isNone
  | .add_array_element _ _ => true
  | .set_array name _ elements => m.hasChild name || !elements.isEmpty
  | .erase_array name => m.hasChild name
  | _ => false

/-- What the operation will leave behind. -/
def record (m : Message α δ) (op : Operation α δ) : Message α δ :=
  { m with
    attributes a := { m.attributes a with behind := (m.attributes a).behind || m.leaves cls a op }
    msgBehind := m.msgBehind || m.leavesText cls op }

end Message

/-- The objects, and all that was returned. -/
structure State (α δ : Type) where
  objects : Nat → Option (Message α δ)
  outputs : List (Output α δ)

inductive Event (α δ : Type) where
  | construct (i : Nat)
  | constructContainer (i : Nat) (tree : Ptree) (storage_version : Int)
  | constructText (i : Nat) (contents : Str)
  | copy (i source : Nat)
  | assign (i source : Nat)
  | operation (i : Nat) (op : Operation α δ)

section
variable {α δ : Type} [DecidableEq α] (cls : Class α δ)

def State.init : State α δ := ⟨fun _ => none, []⟩

def State.store (s : State α δ) (i : Nat) (m : Message α δ) : State α δ :=
  { s with objects := Function.update s.objects i (some m) }

/-- The copy has the container, and its attributes are those of the source; the text is not copied. -/
def Message.copy (m : Message α δ) : Message α δ := m.clearText

/-- A value that is out of date is behind for whoever else gets it. -/
def Attribute.passOn (c : Attribute δ) (storage_version : Int) : Attribute δ :=
  { c with behind := c.behind || decide (c.storage_version < storage_version) }

/-- The tree is taken over and the version is kept; then the attributes are assigned. -/
def Message.assign (m source : Message α δ) : Message α δ :=
  { m with
    tree := source.tree
    attributes a := (source.attributes a).passOn source.storage_version }.clearText

def step (s : State α δ) : Event α δ → Option (State α δ)
  | .construct i => if s.objects i = none then some (s.store i (.ofContainer .empty 1)) else none
  | .constructContainer i tree version => if s.objects i = none then some (s.store i (.ofContainer tree version)) else none
  | .constructText i contents =>
    if s.objects i = none then
      match cls.read contents with
      | some _ => some (s.store i ((Message.ofContainer .empty 1).set_text cls contents))
      | none => some s
    else none
  | .copy i source =>
    if s.objects i = none then (s.objects source).map fun m => s.store i m.copy else none
  | .assign i source => do
    let m ← s.objects i
    let other ← s.objects source
    some (s.store i (m.assign other))
  | .operation i op => do
    let m ← s.objects i
    let (m', output) := (m.record cls op).apply cls op
    some { s.store i m' with outputs := s.outputs ++ output.toList }

def messageMachine : Machine (State α δ) (Event α δ) := ⟨State.init, step cls⟩

/-- A get returns the cast of what the tree holds, or else of the default; a text is what the tree is written as. -/
def Output.Transparent : Output α δ → Prop
  | .value a tree returned => returned = cls.fromText a ((tree.valueAt (cls.path a)).getD (cls.default_value a))
  | .text tree returned => returned = cls.write tree

/-- When a text that is set is the one its tree is written as. -/
def Written (contents : Str) : Prop := ∀ tree, cls.read contents = some tree → cls.write tree = some contents

/-- A value that is set comes back from its text, and a text that is set is the one its tree is written as; the version of the
tree does not overflow; and no attribute and no text is left behind at a version that is still taken for the one of the tree. -/
def Message.Sound (m : Message α δ) : Operation α δ → Prop
  | .set a data => cls.fromText a (cls.toText a data) = some data ∧ m.storage_version < 2 ^ 31 - 1
  | .set_text contents => Written cls contents ∧ m.storage_version < 2 ^ 31 - 1
  | .get a => (m.attributes a).value.isSome → ¬ (m.attributes a).storage_version < m.storage_version →
      (m.attributes a).behind = false
  | .to_string | .write => m.msgVersion = m.storage_version → m.msgBehind = false
  | _ => True

/-- The version of a container counts from 1. -/
def Sound (s : State α δ) : Event α δ → Prop
  | .constructContainer _ _ storage_version => 1 ≤ storage_version
  | .constructText _ contents => Written cls contents
  | .operation i op => ∀ m, s.objects i = some m → m.Sound cls op
  | _ => True

/-- What is cached and not left behind is what the tree holds, wherever the version is not older than that of the tree. -/
structure Message.Coherent (m : Message α δ) : Prop where
  version : 1 ≤ m.storage_version
  attributes : ∀ a data, (m.attributes a).value = some data → (m.attributes a).behind = false →
    ¬ (m.attributes a).storage_version < m.storage_version →
    ∃ text, m.tree.valueAt (cls.path a) = some text ∧ cls.fromText a text = some data
  msgVersion : m.msgVersion ≤ m.storage_version
  text : m.msgVersion = m.storage_version → m.msgBehind = false → cls.write m.tree = some m.msgString

structure Inv (s : State α δ) : Prop where
  objects : ∀ i m, s.objects i = some m → m.Coherent cls
  outputs : ∀ o ∈ s.outputs, o.Transparent cls

end

variable {α δ : Type} {cls : Class α δ} {m other : Message α δ} {s t : State α δ}

theorem increment_of_lt {version : Int} (h0 : 1 ≤ version) (h : version < 2 ^ 31 - 1) : increment version = version + 1 := by
  unfold increment
  rw [Int.bmod_eq_emod_of_lt (by omega)]
  omega

namespace Message

theorem coherent_ofContainer (tree : Ptree) {version : Int} (h : 1 ≤ version) :
    (ofContainer tree version : Message α δ).Coherent cls where
  version := h
  attributes _ _ hdata := absurd hdata nofun
  msgVersion := Int.le_trans (show -1 ≤ 1 by decide) h
  text hversion _ := by
    obtain rfl : -1 = version := hversion
    exact absurd h (by decide)

theorem Coherent.clearText (h : m.Coherent cls) : m.clearText.Coherent cls where
  version := h.version
  attributes := h.attributes
  msgVersion := Int.le_trans (show -1 ≤ 1 by decide) h.version
  text hversion _ := by
    have hone := h.version
    obtain hneg : -1 = m.storage_version := hversion
    omega

theorem Coherent.set_text (h : m.Coherent cls) {contents : Str} (hwritten : Written cls contents)
    (hversion : m.storage_version < 2 ^ 31 - 1) (hbehind : ∀ a, m.storage_version < (m.attributes a).storage_version →
      (m.attributes a).behind = true) : (m.set_text cls contents).Coherent cls := by
  have hincrement := increment_of_lt h.version hversion
  have h1 := h.version
  unfold Message.set_text
  split
  · rename_i tree hread
    refine ⟨?_, fun a data _ hfresh hnot => ?_, Int.le_refl _, fun _ _ => hwritten tree hread⟩
    · dsimp only
      omega
    · dsimp only at hfresh hnot
      rw [hbehind a (by omega)] at hfresh
      nomatch hfresh
  · exact h

theorem Coherent.keep (h : m.Coherent cls) {text : Str} (hprint : m.print cls = some text) : (m.keep text).Coherent cls := by
  unfold Message.keep
  split_ifs with hversion
  · exact h
  · refine ⟨h.version, h.attributes, Int.le_refl _, fun _ _ => ?_⟩
    rwa [print, if_neg hversion] at hprint

/-- What is retrieved is what the tree holds, or else the default. -/
theorem retrieve_fst (m : Message α δ) (a : α) :
    (m.retrieve cls a).1 = (m.tree.valueAt (cls.path a)).getD (cls.default_value a) := by
  unfold retrieve
  split
  · rename_i text htext
    rw [htext, Option.getD_some]
  · rename_i hnone
    rw [hnone, Option.getD_none]

/-- Behind a get the tree holds what was retrieved. -/
theorem valueAt_retrieve (m : Message α δ) (a : α) : (m.retrieve cls a).2.valueAt (cls.path a) = some (m.retrieve cls a).1 := by
  unfold retrieve
  split
  · rename_i text htext
    exact htext
  · exact Ptree.valueAt_put_self _ _

/-- What the tree holds elsewhere stays, as it is there already. -/
theorem valueAt_retrieve_of_some (a : α) {path : List Str} {text : Str} (h : m.tree.valueAt path = some text) :
    (m.retrieve cls a).2.valueAt path = some text := by
  unfold retrieve
  split
  · exact h
  · rename_i hnone
    exact Ptree.valueAt_put h fun hpath => nomatch (hpath ▸ h).symm.trans hnone

theorem print_eq (h : m.Coherent cls) (hsound : m.msgVersion = m.storage_version → m.msgBehind = false) :
    m.print cls = cls.write m.tree := by
  unfold print
  split_ifs with hversion
  · exact (h.text hversion (hsound hversion)).symm
  · rfl

/-- The flags of the message before the operation say what the operation will leave behind. -/
structure Recorded (cls : Class α δ) (m : Message α δ) (op : Operation α δ) : Prop where
  attributes : ∀ a, m.leaves cls a op = true → (m.attributes a).behind = true
  text : m.leavesText cls op = true → m.msgBehind = true

theorem leaves_record (m : Message α δ) (op op' : Operation α δ) (a : α) :
    (m.record cls op).leaves cls a op' = m.leaves cls a op' := by
  cases op' <;> rfl

theorem leavesText_record (m : Message α δ) (op op' : Operation α δ) :
    (m.record cls op).leavesText cls op' = m.leavesText cls op' := by
  cases op' <;> rfl

theorem recorded_record (m : Message α δ) (op : Operation α δ) : Recorded cls (m.record cls op) op where
  attributes a h := by
    rw [leaves_record] at h
    exact (congrArg _ h).trans (Bool.or_true _)
  text h := by
    rw [leavesText_record] at h
    exact (congrArg _ h).trans (Bool.or_true _)

theorem Coherent.record (h : m.Coherent cls) (op : Operation α δ) : (m.record cls op).Coherent cls where
  version := h.version
  attributes a data hdata hbehind := h.attributes a data hdata (Bool.or_eq_false_iff.1 hbehind).1
  msgVersion := h.msgVersion
  text hversion hbehind := h.text hversion (Bool.or_eq_false_iff.1 hbehind).1

/-- A change of the tree that gives no new version. -/
theorem Coherent.withTree (h : m.Coherent cls) {tree : Ptree}
    (hattributes : ∀ a text, (m.attributes a).behind = false → m.tree.valueAt (cls.path a) = some text →
      tree.valueAt (cls.path a) = some text)
    (htext : m.msgBehind = false → tree = m.tree) : Coherent cls { m with tree := tree } where
  version := h.version
  attributes a data hdata hfresh hnot := by
    obtain ⟨text, hvalue, hcast⟩ := h.attributes a data hdata hfresh hnot
    exact ⟨text, hattributes a text hfresh hvalue, hcast⟩
  msgVersion := h.msgVersion
  text hversion hfresh := (htext hfresh).symm ▸ h.text hversion hfresh

theorem valueAt_foldl_add {path place : List Str} {text : Str} {elements : List Ptree} {t : Ptree}
    (h : t.valueAt path = some text) :
    (elements.foldl (fun tree element => tree.add_array_element place element) t).valueAt path = some text := by
  induction elements generalizing t with
  | nil => exact h
  | cons element elements ih => exact ih (Ptree.valueAt_add_array_element h)

theorem erase_of_hasChild {name : Str} (h : m.hasChild name = false) : m.tree.erase name = m.tree :=
  Ptree.erase_of_missing fun child hchild hname =>
    absurd (List.any_eq_true.2 ⟨child, hchild, decide_eq_true hname⟩) (Bool.eq_false_iff.1 h)

/-- A value that is cached for the source is so for the target, at its version there or a later one. -/
theorem coherent_assign (h : m.Coherent cls) (hother : other.Coherent cls) : (m.assign other).Coherent cls where
  version := h.version
  attributes a data hdata hfresh _ := by
    obtain ⟨hfresh, hversion⟩ := Bool.or_eq_false_iff.1 hfresh
    exact hother.attributes a data hdata hfresh (of_decide_eq_false hversion)
  msgVersion := h.clearText.msgVersion
  text hversion _ := by
    have hone := h.version
    obtain hneg : -1 = m.storage_version := hversion
    omega

theorem sound_record {op : Operation α δ} (h : m.Sound cls op) : (m.record cls op).Sound cls op := by
  cases op with
  | get a => exact fun hvalue hversion => Bool.or_eq_false_iff.2 ⟨h hvalue hversion, rfl⟩
  | to_string | write => exact fun hversion => Bool.or_eq_false_iff.2 ⟨h hversion, rfl⟩
  | _ => exact h

variable [DecidableEq α]

theorem get_eq (h : m.Coherent cls) {a : α} (hsound : m.Sound cls (.get a)) :
    (m.get cls a).1 = cls.fromText a ((m.tree.valueAt (cls.path a)).getD (cls.default_value a)) := by
  unfold Message.get
  split
  · rename_i data hdata
    rw [cached] at hdata
    split_ifs at hdata with hversion
    obtain ⟨text, htext, hcast⟩ := h.attributes a data hdata (hsound (by rw [hdata]; rfl) hversion) hversion
    rw [htext, Option.getD_some, hcast]
  · dsimp only
    rw [← retrieve_fst m a]
    split
    · rename_i data hdata
      exact hdata.symm
    · rename_i hnone
      exact hnone.symm

theorem Coherent.set (h : m.Coherent cls) {a : α} {data : δ} (hsound : m.Sound cls (.set a data))
    (hrecorded : Recorded cls m (.set a data)) : (m.set cls a data).Coherent cls := by
  have hincrement := increment_of_lt h.version hsound.2
  have h1 := h.version
  have hmsg := h.msgVersion
  refine ⟨?_, fun b d hd hfresh hnot => ?_, ?_, fun hversion => ?_⟩
  · dsimp only [Message.set, setAttribute]
    omega
  · by_cases hb : b = a
    · subst hb
      simp only [Message.set, setAttribute, Function.update_self] at hd
      obtain rfl := Option.some.inj hd
      exact ⟨_, Ptree.valueAt_put_self _ _, hsound.1⟩
    · simp only [Message.set, setAttribute, Function.update_of_ne hb] at hd hfresh hnot ⊢
      have hne : cls.path b ≠ cls.path a := fun hpath => by
        rw [hrecorded.attributes b (decide_eq_true ⟨by omega, hpath⟩)] at hfresh
        nomatch hfresh
      obtain ⟨text, htext, hcast⟩ := h.attributes b d hd hfresh (by omega)
      exact ⟨text, Ptree.valueAt_put htext hne, hcast⟩
  · dsimp only [Message.set, setAttribute]
    omega
  · dsimp only [Message.set, setAttribute] at hversion
    omega

theorem Coherent.get (h : m.Coherent cls) {a : α} (hrecorded : Recorded cls m (.get a)) : (m.get cls a).2.Coherent cls := by
  unfold Message.get
  split
  · exact h
  · rename_i hcached
    have hothers (b : α) (c : Attribute δ) (hc : ∀ data, c.value = some data → cls.fromText a (m.retrieve cls a).1 = some data) :
        ({ m with tree := (m.retrieve cls a).2 }.setAttribute a c).Coherent cls := by
      refine ⟨h.version, fun b d hd hfresh hnot => ?_, h.msgVersion, fun hversion hbehind => ?_⟩
      · by_cases hb : b = a
        · subst hb
          simp only [setAttribute, Function.update_self] at hd
          exact ⟨_, valueAt_retrieve m b, hc d hd⟩
        · simp only [setAttribute, Function.update_of_ne hb] at hd hfresh hnot
          obtain ⟨text, htext, hcast⟩ := h.attributes b d hd hfresh hnot
          exact ⟨text, valueAt_retrieve_of_some a htext, hcast⟩
      · have hsome : (m.tree.valueAt (cls.path a)).isNone = false := by
          by_contra hnone
          have hleaves : m.leavesText cls (.get a) =
              ((m.cached a).isNone && (m.tree.valueAt (cls.path a)).isNone) := rfl
          rw [hcached, eq_true_of_ne_false hnone] at hleaves
          exact nomatch (hrecorded.text hleaves).symm.trans hbehind
        have hsame : (m.retrieve cls a).2 = m.tree := by
          unfold retrieve
          split
          · rfl
          · rename_i hnone
            rw [hnone] at hsome
            nomatch hsome
        dsimp only [setAttribute]
        rw [hsame]
        exact h.text hversion hbehind
    dsimp only
    split
    · rename_i data hdata
      exact hothers a _ fun d hd => by cases hd; exact hdata
    · exact hothers a _ fun d hd => absurd hd nofun

theorem Coherent.apply (h : m.Coherent cls) {op : Operation α δ} (hsound : m.Sound cls op) (hrecorded : Recorded cls m op) :
    (m.apply cls op).1.Coherent cls := by
  have hbehind (hleaves : m.leavesText cls op = true) (hfresh : m.msgBehind = false) : False :=
    nomatch (hrecorded.text hleaves).symm.trans hfresh
  have hheads (name : Str) (hop : ∀ a, m.leaves cls a op = decide ((cls.path a).head? = some name)) (a : α)
      (hfresh : (m.attributes a).behind = false) : (cls.path a).head? ≠ some name := fun hhead =>
    nomatch (hrecorded.attributes a ((hop a).trans (decide_eq_true hhead))).symm.trans hfresh
  cases op with
  | set_contents contents =>
    refine ⟨h.version, fun a _ _ hfresh _ => ?_, h.clearText.msgVersion, fun hversion _ => ?_⟩
    · exact nomatch (hrecorded.attributes a rfl).symm.trans hfresh
    · have hone := h.version
      obtain hneg : -1 = m.storage_version := hversion
      omega
  | set_text contents => exact h.set_text hsound.1 hsound.2 fun a hlater => hrecorded.attributes a (decide_eq_true hlater)
  | clear =>
    refine h.withTree (fun a _ hfresh _ => nomatch (hrecorded.attributes a rfl).symm.trans hfresh) fun hfresh => ?_
    obtain ⟨tree, version, attributes, msgString, msgVersion, msgBehind⟩ := m
    obtain ⟨data, children⟩ := tree
    cases data with
    | nil =>
      cases children with
      | nil => rfl
      | cons child children => exact (hbehind rfl hfresh).elim
    | cons c data => exact (hbehind rfl hfresh).elim
  | flush => exact h.clearText
  | set a data => exact h.set hsound hrecorded
  | get a => exact h.get hrecorded
  | add_array_element path element =>
    exact h.withTree (fun _ _ _ => Ptree.valueAt_add_array_element) fun hfresh => (hbehind rfl hfresh).elim
  | set_array name path elements =>
    refine h.withTree (fun a text hfresh hvalue => ?_) fun hfresh => ?_
    · exact valueAt_foldl_add (Ptree.valueAt_erase hvalue (hheads name (fun _ => rfl) a hfresh))
    · have hleaves : m.leavesText cls (.set_array name path elements) = (m.hasChild name || !elements.isEmpty) := rfl
      cases hchild : m.hasChild name with
      | true => exact (hbehind (by rw [hleaves, hchild]; rfl) hfresh).elim
      | false =>
        cases elements with
        | nil => exact erase_of_hasChild hchild
        | cons element elements => exact (hbehind (by rw [hleaves, hchild]; rfl) hfresh).elim
  | erase_array name =>
    refine h.withTree (fun a text hfresh hvalue => Ptree.valueAt_erase hvalue (hheads name (fun _ => rfl) a hfresh)) fun hfresh => ?_
    cases hchild : m.hasChild name with
    | true => exact (hbehind hchild hfresh).elim
    | false => exact erase_of_hasChild hchild
  | to_string =>
    simp only [Message.apply]
    split
    · rename_i text hprint
      exact h.keep hprint
    · exact h
  | write => exact h

theorem transparent_apply (h : m.Coherent cls) {op : Operation α δ} (hsound : m.Sound cls op) :
    ∀ o ∈ (m.apply cls op).2, o.Transparent cls := by
  intro o ho
  cases op with
  | get a =>
    obtain rfl := Option.some.inj ho
    exact get_eq h hsound
  | to_string =>
    have hprint := print_eq h hsound
    simp only [Message.apply] at ho
    split at ho
    all_goals
      rename_i heq
      obtain rfl := Option.some.inj ho
      exact heq.symm.trans hprint
  | write =>
    obtain rfl := Option.some.inj ho
    exact print_eq h hsound
  | set_contents | set_text | clear | flush | set | add_array_element | set_array | erase_array => exact absurd ho nofun

end Message

theorem Inv.store (h : Inv cls s) {i : Nat} (hm : m.Coherent cls) : Inv cls (s.store i m) := by
  refine ⟨fun j m' hj => ?_, h.outputs⟩
  by_cases hji : j = i
  · subst hji
    simp only [State.store, Function.update_self] at hj
    exact Option.some.inj hj ▸ hm
  · simp only [State.store, Function.update_of_ne hji] at hj
    exact h.objects j m' hj

theorem inv_init : Inv cls State.init := ⟨fun _ _ h => absurd h nofun, fun _ h => absurd h List.not_mem_nil⟩

variable [DecidableEq α]

theorem inv_step (h : Inv cls s) {e : Event α δ} (hsound : Sound cls s e) (hstep : step cls s e = some t) : Inv cls t := by
  cases e with
  | construct i =>
    obtain ⟨-, hstep⟩ := Option.ite_none_right_eq_some.1 hstep
    cases hstep
    exact h.store (Message.coherent_ofContainer _ (Int.le_refl 1))
  | constructContainer i tree version =>
    obtain ⟨-, hstep⟩ := Option.ite_none_right_eq_some.1 hstep
    cases hstep
    exact h.store (Message.coherent_ofContainer tree hsound)
  | constructText i contents =>
    obtain ⟨-, hstep⟩ := Option.ite_none_right_eq_some.1 hstep
    split at hstep
    · cases hstep
      have hempty : (Message.ofContainer .empty 1 : Message α δ).Coherent cls :=
        Message.coherent_ofContainer _ (Int.le_refl 1)
      exact h.store (hempty.set_text hsound (show (1 : Int) < 2 ^ 31 - 1 by decide) fun _ hlater =>
        absurd hlater (show ¬ (1 : Int) < 0 by decide))
    · cases hstep
      exact h
  | copy i source =>
    obtain ⟨-, hstep⟩ := Option.ite_none_right_eq_some.1 hstep
    obtain ⟨m, hm, rfl⟩ := Option.map_eq_some_iff.1 hstep
    exact h.store (h.objects _ m hm).clearText
  | assign i source =>
    simp only [step, Option.bind_eq_bind, Option.bind_eq_some_iff] at hstep
    obtain ⟨m, hm, other, hother, hstep⟩ := hstep
    cases hstep
    exact h.store (Message.coherent_assign (h.objects _ m hm) (h.objects _ other hother))
  | operation i op =>
    simp only [step, Option.bind_eq_bind, Option.bind_eq_some_iff] at hstep
    obtain ⟨m, hm, hstep⟩ := hstep
    cases hstep
    have hcoherent := (h.objects i m hm).record op
    have hrecorded : Message.Recorded cls (m.record cls op) op := Message.recorded_record m op
    have hsound' := Message.sound_record (hsound m hm)
    refine ⟨(h.store (hcoherent.apply hsound' hrecorded)).objects, List.forall_mem_append.2 ⟨h.outputs, fun o ho => ?_⟩⟩
    exact Message.transparent_apply hcoherent hsound' o (Option.mem_toList.1 ho)

/-- In every run whose steps meet the condition the caches are transparent. -/
theorem caches_transparent {es : List (Event α δ)} (hsound : (messageMachine cls).Meets (Sound cls) State.init es)
    (hexec : (messageMachine cls).exec State.init es = some s) : ∀ o ∈ s.outputs, o.Transparent cls :=
  (Machine.invariant_meets (M := messageMachine cls) inv_init (fun _ _ _ h hG hstep => inv_step h hG hstep) hsound hexec).outputs

instance decidableWritten (cls : Class α δ) (contents : Str) : Decidable (Written cls contents) :=
  match h : cls.read contents with
  | none => .isTrue fun _ hread => nomatch h.symm.trans hread
  | some tree => decidable_of_iff (cls.write tree = some contents)
      ⟨fun hwrite _ hread => Option.some.inj (h.symm.trans hread) ▸ hwrite, fun hwritten => hwritten tree h⟩

instance decidableMessageSound [DecidableEq δ] (cls : Class α δ) (m : Message α δ) : ∀ op, Decidable (m.Sound cls op)
  | .set a data => inferInstanceAs (Decidable (cls.fromText a (cls.toText a data) = some data ∧ _))
  | .set_text contents => inferInstanceAs (Decidable (Written cls contents ∧ _))
  | .get a => inferInstanceAs (Decidable ((m.attributes a).value.isSome → ¬ (m.attributes a).storage_version < m.storage_version →
      (m.attributes a).behind = false))
  | .to_string | .write => inferInstanceAs (Decidable (m.msgVersion = m.storage_version → m.msgBehind = false))
  | .set_contents _ | .clear | .flush | .add_array_element _ _ | .set_array _ _ _ | .erase_array _ => .isTrue trivial

instance decidableSound [DecidableEq δ] (cls : Class α δ) (s : State α δ) : ∀ e, Decidable (Sound cls s e)
  | .constructContainer _ _ storage_version => inferInstanceAs (Decidable (1 ≤ storage_version))
  | .constructText _ contents => inferInstanceAs (Decidable (Written cls contents))
  | .operation i op =>
    match h : s.objects i with
    | none => .isTrue fun _ hm => nomatch h.symm.trans hm
    | some m => decidable_of_iff (m.Sound cls op)
        ⟨fun hsound _ hm => Option.some.inj (h.symm.trans hm) ▸ hsound, fun hsound => hsound m h⟩
  | .construct _ | .copy _ _ | .assign _ _ => .isTrue trivial

/-! A class with one attribute, `Name`, in JSON, as far as its messages go. -/

def nameTree (name : Str) : Ptree := .node [] [(CString.lit "Name", .node name [])]

/-- A message with blanks in it. -/
def spaced : Str := CString.lit "\x7b \"Name\": \"a\" \x7d"

def nameClass : Class Unit Str where
  path _ := [CString.lit "Name"]
  default_value _ := []
  fromText _ := some
  toText _ data := data
  read text := if text = spaced then some (nameTree [97]) else none
  write t := some ([123] ++ PropertyTree.commas (t.children.map fun child =>
    PropertyTree.quoted child.1 ++ [58] ++ PropertyTree.quoted child.2.data) ++ [125])

/-- The contents change, then the attribute is set; the copy goes its own way, and the assigned message has the value with a
version that its own tree has not reached. -/
def copied : List (Event Unit Str) :=
  [.construct 0, .operation 0 (.set () [97]), .operation 0 .to_string, .copy 1 0, .operation 1 (.get ()),
    .operation 1 (.set_contents (nameTree [98])), .operation 1 (.set () [99]), .operation 1 (.get ()), .operation 1 .to_string,
    .operation 1 (.set () [100]), .operation 1 .to_string, .construct 2, .assign 2 0, .operation 2 (.get ())]

theorem caches_transparent_copied : ∃ s, (messageMachine nameClass).exec State.init copied = some s ∧
    ∀ o ∈ s.outputs, o.Transparent nameClass := by
  have hexec : (messageMachine nameClass).exec State.init copied = some _ := rfl
  exact ⟨_, hexec, caches_transparent (by decide +kernel) hexec⟩

/-- An attribute that was set stays in its cache when the contents change; a get that stores the default is not in the text
that was kept; a text that was set is not written anew. -/
theorem caches_transparent_fails :
    (∃ s, (messageMachine nameClass).exec State.init
        [.construct 0, .operation 0 (.set () [97]), .operation 0 (.set_contents (nameTree [98])), .operation 0 (.get ())] = some s ∧
      ¬ ∀ o ∈ s.outputs, o.Transparent nameClass) ∧
    (∃ s, (messageMachine nameClass).exec State.init
        [.construct 0, .operation 0 .to_string, .operation 0 (.get ()), .operation 0 .to_string] = some s ∧
      ¬ ∀ o ∈ s.outputs, o.Transparent nameClass) ∧
    ∃ s, (messageMachine nameClass).exec State.init
        [.constructText 0 spaced, .operation 0 .to_string] = some s ∧
      ¬ ∀ o ∈ s.outputs, o.Transparent nameClass := by
  refine ⟨⟨_, rfl, fun h => ?_⟩, ⟨_, rfl, fun h => ?_⟩, ⟨_, rfl, fun h => ?_⟩⟩
  · have hvalue : some ([97] : Str) = some [98] := h _ (List.mem_singleton_self _)
    exact absurd hvalue (by decide)
  · have htext : some ([123, 125] : Str) = nameClass.write (nameTree []) := h _ (List.mem_of_mem_getLast? rfl)
    exact absurd htext (by decide +kernel)
  · have htext : some spaced = nameClass.write (nameTree [97]) := h _ (List.mem_singleton_self _)
    exact absurd htext (by decide +kernel)

end V2xHub.TmxMessage
