import V2xHub.Lib.Strtol
import V2xHub.MapPlugin.Map
import Mathlib.Data.List.Nodup
import Mathlib.Data.List.Perm.Basic
import Mathlib.Data.List.TakeWhile

/-!
# What the parser of a map writes

The readers of `XmlMapParser` as the stores that they make, each at its place in the map. A reader is a loop over the children of
its element, with an index that is counted up for some of them; what is no element is skipped and left out here. No reader looks
at the limit of an array. The map is a local variable, and `map_clear` leaves the names in it: what they hold before is any bytes.
The other side is the document: an element belongs where the elements of its name in front of it tell.
-/

namespace V2xHub.MapPlugin.XmlMapParser

/-! ### The document -/

/-- What Xerces delivers of an element: its children are those that are elements. -/
inductive Element where
  | mk (tagName : Str) (attributes : List (Str × Str)) (textContent : Str) (children : List Element)

namespace Element

def tagName : Element → Str
  | mk tagName _ _ _ => tagName

def textContent : Element → Str
  | mk _ _ textContent _ => textContent

def children : Element → List Element
  | mk _ _ _ children => children

/-- The text of an attribute is empty if there is none. -/
def getAttribute (name : String) : Element → Str
  | mk _ attributes _ _ => ((attributes.find? fun a => a.1 = CString.lit name).map Prod.snd).getD []

end Element

def lower (s : Str) : Str := s.map CString.tolower

def MatchTagName (e : Element) (name : String) : Bool := lower (CString.lit name) = lower e.tagName

def MatchTextContent (e : Element) (str : String) : Bool := lower e.textContent = lower (CString.lit str)

/-! ### The map -/

inductive Field where
  | mapType | mapName | intersectionid | mapid | attributes
  | refpoint | latitude | longitude | elevation
  | approach | egress | width
  | number | laneName | type | referencelane | lanenumber | xoffset | yoffset
  | connectionID | signalGroup | maneuver
  | eastern | northern
deriving DecidableEq

/-- The arrays of a map. -/
inductive Table where
  | geometry | barrier | node | lane | connection
deriving DecidableEq

def Table.size : Table → Nat
  | geometry => map_maxgeometries
  | barrier => map_maxbarriers
  | node => map_maxnodes
  | lane => map_maxlanes
  | connection => map_maxconnections

inductive Step where
  | field (f : Field)
  | entry (t : Table) (i : Nat)
deriving DecidableEq

/-- The last step comes first. -/
abbrev Place := List Step

/-- The type of a number; a degree is stored in tenths of microdegrees. -/
inductive Kind where
  | uchar | short | ushort | int | ulong | degrees
deriving DecidableEq

inductive Store where
  | number (p : Place) (k : Kind) (text : Str)
  | name (p : Place) (text : Str)
  | choice (p : Place) (value : UInt8)
  /-- `|=` -/
  | flags (p : Place) (bits : Nat)

def Store.place : Store → Place
  | number p _ _ => p
  | name p _ => p
  | choice p _ => p
  | flags p _ => p

/-- The numbers of degrees in front of a text. -/
def degreesOf (s : Str) : Option ℚ :=
  let (negative, s) := Strtol.sign (s.dropWhile Strtol.isspace)
  (Strtof.finite? s).map fun q => if negative then -q else q

def atof (s : Str) : Double :=
  let (negative, t) := Strtol.sign (s.dropWhile Strtol.isspace)
  let letters := (t.take 3).map CString.tolower
  if letters = CString.lit "inf" then .infinity negative
  else if letters = CString.lit "nan" then .nan
  else Double.ofRat ((degreesOf s).getD 0)

/-- `(int)` of a floating point number; what does not fit is what the hardware makes of it. -/
def int32 : Double → Int
  | .finite q =>
    let n := if q < 0 then ⌈q⌉ else ⌊q⌋
    if -2 ^ 31 ≤ n ∧ n < 2 ^ 31 then n else -2 ^ 31
  | _ => -2 ^ 31

/-- What is stored of a text. -/
def Kind.value (s : Str) : Kind → Int
  | uchar => Strtol.atoi s % 2 ^ 8
  | short => (Strtol.atoi s).bmod (2 ^ 16)
  | ushort => Strtol.atoi s % 2 ^ 16
  | int => Strtol.atoi s
  | ulong => Strtol.atoi s % 2 ^ 64
  | degrees => int32 ((atof s).mul (.ofInt 10000000))

/-- `strncpy` of the whole array. -/
def strncpy (size : Nat) (s : Str) : Str := (s ++ List.replicate size 0).take size

def map_maxstringlen : Nat := 63

/-! ### The readers -/

/-- A branch of a loop over the children. -/
inductive Case where
  | each (names : List String) (read : Element → List Store)
  /-- The index is counted up. -/
  | counted (names : List String) (read : Nat → Element → List Store)

def Case.names : Case → List String
  | each names _ => names
  | counted names _ => names

def Case.matches (c : Case) (e : Element) : Bool := c.names.any fun name => MatchTagName e name

/-- The loop: the first branch that matches is taken. -/
def readChildren (cases : List Case) : Nat → List Element → List Store
  | _, [] => []
  | i, e :: rest =>
    match cases.find? fun c => c.matches e with
    | none => readChildren cases i rest
    | some (.each _ read) => read e ++ readChildren cases i rest
    | some (.counted _ read) => read i e ++ readChildren cases (i + 1) rest

/-- A number in the text of a child. -/
def numberCase (names : List String) (p : Place) (f : Field) (k : Kind) : Case :=
  .each names fun e => [.number (.field f :: p) k e.textContent]

def nodeCases (p : Place) : List Case :=
  [numberCase ["Eastern"] p .eastern .short, numberCase ["Northern", "Nothern"] p .northern .short,
    numberCase ["Elevation"] p .elevation .short, numberCase ["Width"] p .width .short]

def connectionCases (p : Place) : List Case :=
  [numberCase ["LaneNumber"] p .lanenumber .uchar, numberCase ["Maneuver"] p .maneuver .ushort,
    numberCase ["SignalGroup"] p .signalGroup .uchar, numberCase ["ConnectionID"] p .connectionID .uchar]

def referenceLaneCases (p : Place) : List Case :=
  [numberCase ["LaneNumber"] p .lanenumber .uchar, numberCase ["XOffset"] p .xoffset .short,
    numberCase ["YOffset"] p .yoffset .short]

def referencePointCases (p : Place) : List Case :=
  [numberCase ["Latitude"] p .latitude .degrees, numberCase ["Longitude"] p .longitude .degrees,
    numberCase ["Elevation"] p .elevation .int]

/-- The lane types in the order in which they are looked for. -/
def laneTypes : List (String × UInt8) :=
  [("vehicle", 1), ("computed", 2), ("pedestrian", 3), ("special", 4), ("crosswalk", 10), ("bike", 11), ("sidewalk", 12),
    ("barrier", 13), ("striping", 14), ("trackedVehicle", 15), ("parking", 16)]

def laneType (p : Place) (e : Element) : List Store :=
  match laneTypes.find? fun t => MatchTextContent e t.1 with
  | none => []
  | some t => [.choice (.field .type :: p) t.2]

/-- Anything but a roadway is an intersection. -/
def mapTypeOf (e : Element) : List Store := [.choice [.field .mapType] (if MatchTextContent e "Roadway" then 2 else 1)]

/-- How the loop over the children of an element is read: by the code, or in the order of the document. -/
abbrev Loop := List Case → List Element → List Store

section
variable (loop : Loop)

def nodesCases (p : Place) : List Case := [.counted ["Node"] fun i e => loop (nodeCases (.entry .node i :: p)) e.children]

def connectionsCases (p : Place) : List Case :=
  [.counted ["Connection"] fun i e => loop (connectionCases (.entry .connection i :: p)) e.children]

def laneCases (p : Place) : List Case :=
  [.each ["Type"] (laneType p), .each ["LaneName"] fun e => [.name (.field .laneName :: p) e.textContent],
    numberCase ["Attributes"] p .attributes .ushort, numberCase ["Width"] p .width .ushort,
    .each ["ReferenceLane"] fun e => loop (referenceLaneCases (.field .referencelane :: p)) e.children,
    .each ["Nodes"] fun e => loop (nodesCases loop p) e.children,
    .each ["Connections"] fun e => loop (connectionsCases loop p) e.children]

def lane (p : Place) (e : Element) : List Store :=
  .number (.field .number :: p) .uchar (e.getAttribute "Number") :: loop (laneCases loop p) e.children

def groupCases (p : Place) : List Case :=
  [numberCase ["Width"] p .width .ushort, .counted ["Lane"] fun i e => lane loop (.entry .lane i :: p) e]

def barrierCases (p : Place) : List Case :=
  [numberCase ["Attributes"] p .attributes .ushort, numberCase ["Width"] p .width .ushort,
    .each ["Nodes"] fun e => loop (nodesCases loop p) e.children]

def geometryCases (p : Place) : List Case :=
  [.each ["ReferencePoint"] fun e => loop (referencePointCases (.field .refpoint :: p)) e.children,
    .each ["Approach"] fun e => loop (groupCases loop (.field .approach :: p)) e.children,
    .each ["Egress"] fun e => loop (groupCases loop (.field .egress :: p)) e.children,
    .counted ["Barrier"] fun i e => loop (barrierCases loop (.entry .barrier i :: p)) e.children]

def rootCases : List Case :=
  [numberCase ["IntersectionID"] [] .intersectionid .ulong, numberCase ["MapId"] [] .mapid .ulong, .each ["MapType"] mapTypeOf,
    .each ["MapName"] fun e => [.name [.field .mapName] e.textContent],
    .each ["Elevation"] fun e => if MatchTextContent e "true" then [.flags [.field .attributes] 1] else [],
    .each ["Resolution"] fun e => if MatchTextContent e "decimeter" then [.flags [.field .attributes] 2] else [],
    .counted ["Geometry"] fun i e => loop (geometryCases loop [.entry .geometry i]) e.children]

end

/-- The loops of the code start to count at 0. -/
def counting : Loop := fun cases children => readChildren cases 0 children

/-- What is stored behind `map_initialize`. -/
def ReadRoot (root : Element) : List Store := .flags [.field .attributes] 12 :: counting (rootCases counting) root.children

/-! ### What is expected -/

/-- The elements of each name, with the number of those in front. -/
def placed : Loop := fun cases children =>
  cases.flatMap fun c =>
    match c with
    | .each _ read => (children.filter fun e => c.matches e).flatMap read
    | .counted _ read => (children.filter fun e => c.matches e).zipIdx.flatMap fun x => read x.2 x.1

/-- What the document has, with the places where it belongs. -/
def contents (root : Element) : List Store := .flags [.field .attributes] 12 :: placed (rootCases placed) root.children

def Place.InBounds (p : Place) : Prop := ∀ t i, Step.entry t i ∈ p → i < t.size

/-- The number of a text in the unit of its field, if it is a whole one. -/
def Kind.number (s : Str) : Kind → Option Int
  | degrees => (degreesOf s).bind fun q => if (q * 10000000).den = 1 then some (q * 10000000).num else none
  | _ => Strtol.number s

def Kind.Fits (n : Int) : Kind → Prop
  | uchar => 0 ≤ n ∧ n < 2 ^ 8
  | short => -2 ^ 15 ≤ n ∧ n < 2 ^ 15
  | ushort => 0 ≤ n ∧ n < 2 ^ 16
  | int => -2 ^ 31 ≤ n ∧ n < 2 ^ 31
  | ulong => 0 ≤ n ∧ n < 2 ^ 64
  | degrees => -2 ^ 31 ≤ n ∧ n < 2 ^ 31

/-- A number that fits its field is stored unchanged. -/
def Unchanged : Store → Prop
  | .number _ k s => ∀ n ∈ k.number s, k.Fits n → k.value s = n
  | _ => True

/-- A name ends inside its array. -/
def Terminated : Store → Prop
  | .name _ s => 0 ∈ strncpy map_maxstringlen s
  | _ => True

def isFlags : Store → Bool
  | .flags _ _ => true
  | _ => false

/-- The names of what is read: that of the map, and those of the lanes, each of which has its number stored. -/
def namePlaces (stores : List Store) : List Place :=
  [.field .mapName] :: stores.filterMap fun st =>
    match st with
    | .number (.field .number :: p) _ _ => some (.field .laneName :: p)
    | _ => none

def Store.nameAt (p : Place) : Store → Option Str
  | name q s => if q = p then some s else none
  | _ => none

/-- The array of a name in the end: the last name that is stored in it, or what has been there before. -/
def nameHeld (before : Place → Str) (stores : List Store) (p : Place) : Str :=
  ((stores.reverse.findSome? (Store.nameAt p)).map (strncpy map_maxstringlen)).getD (before p)

/-- What the map holds at a place: of the stores, the last one. -/
def memory (stores : List Store) (p : Place) : Option Store := stores.reverse.find? fun st => !isFlags st && st.place = p

def Element.count (e : Element) (name : String) : Nat := (e.children.filter fun x => MatchTagName x name).length

def Element.named (e : Element) (name : String) : List Element := e.children.filter fun x => MatchTagName x name

structure CountedLane (l : Element) : Prop where
  nodes : l.count "Nodes" = 1
  connections : l.count "Connections" = 1
  node : ∀ x ∈ l.named "Nodes", x.count "Node" ≤ map_maxnodes
  connection : ∀ x ∈ l.named "Connections", x.count "Connection" ≤ map_maxconnections

structure CountedGeometry (g : Element) : Prop where
  approach : g.count "Approach" = 1
  egress : g.count "Egress" = 1
  barrier : g.count "Barrier" ≤ map_maxbarriers
  node : ∀ b ∈ g.named "Barrier", ∀ x ∈ b.named "Nodes", x.count "Node" ≤ map_maxnodes
  lane : ∀ x ∈ g.named "Approach" ++ g.named "Egress", x.count "Lane" ≤ map_maxlanes
  lanes : ∀ x ∈ g.named "Approach" ++ g.named "Egress", ∀ l ∈ x.named "Lane", CountedLane l

/-- All counts are within the limits, and what there has to be once is there once. -/
structure Counted (root : Element) : Prop where
  geometry : root.count "Geometry" ≤ map_maxgeometries
  geometries : ∀ g ∈ root.named "Geometry", CountedGeometry g

/-- Nothing is stored outside of an array, the names end where they are stored and in the end, whatever the arrays have held
before, and what the document has is stored once, each at its place, where the map holds it, and each number unchanged. -/
structure Meets (root : Element) : Prop where
  inBounds : ∀ st ∈ ReadRoot root, st.place.InBounds
  terminated : ∀ st ∈ ReadRoot root, Terminated st
  ends : ∀ before : Place → Str, (∀ p, (before p).length = map_maxstringlen) →
    ∀ p ∈ namePlaces (ReadRoot root), 0 ∈ nameHeld before (ReadRoot root) p
  held : Counted root → (ReadRoot root).Perm (contents root) ∧
    (((ReadRoot root).filter fun st => !isFlags st).map Store.place).Nodup ∧
    (∀ st ∈ contents root, isFlags st = false → memory (ReadRoot root) st.place = some st) ∧ ∀ st ∈ ReadRoot root, Unchanged st

/-! ### When it is so -/

/-- A number with 64 bits fits an `int` or is the greatest one, and degrees are what is left of them in double precision. -/
def Sound.Number : Store → Prop
  | .number _ .ulong s => ∀ n ∈ Strtol.number s, Kind.ulong.Fits n → n < 2 ^ 31 ∨ 2 ^ 64 - 1 ≤ n
  | .number _ .degrees s => ∀ n ∈ Kind.degrees.number s, Kind.degrees.Fits n → int32 ((atof s).mul (.ofInt 10000000)) = n
  | _ => True

structure Sound (root : Element) : Prop where
  /-- In front of an element in an array there are less elements of its name than the array has entries. -/
  inBounds : ∀ st ∈ contents root, st.place.InBounds
  names : ∀ p s, Store.name p s ∈ contents root → (s.takeWhile (· ≠ 0)).length < map_maxstringlen
  /-- The map and each lane are given a name. -/
  named : ∀ p ∈ namePlaces (contents root), ∃ s, Store.name p s ∈ contents root
  /-- No two elements have one place. -/
  once : Counted root → (((contents root).filter fun st => !isFlags st).map Store.place).Nodup
  numbers : Counted root → ∀ st ∈ contents root, Sound.Number st

variable {c c' : Case} {cases cases' : List Case} {children rest : List Element} {e root : Element} {p : Place} {i : Nat} {st : Store}

/-! ### A loop -/

def Case.isCounted : Case → Bool
  | .each _ _ => false
  | .counted _ _ => true

/-- The names of a branch, and whether it is counted. -/
def Case.shape (c : Case) : List Str × Bool := (c.names.map fun name => lower (CString.lit name), c.isCounted)

/-- No name is in two branches, and at most one is counted. -/
def apart : List (List Str × Bool) → Bool
  | [] => true
  | s :: rest => (rest.all fun r => (s.1.all fun name => !r.1.contains name) && !(s.2 && r.2)) && apart rest

/-- What a branch reads, with the index that the count starts at. -/
def Case.readFrom (i : Nat) (children : List Element) (c : Case) : List Store :=
  match c with
  | .each _ read => (children.filter fun e => c.matches e).flatMap read
  | .counted _ read => ((children.filter fun e => c.matches e).zipIdx i).flatMap fun x => read x.2 x.1

/-- What the loop does with a child: what is stored, and the index behind it. -/
def taken (cases : List Case) (i : Nat) (e : Element) : List Store × Nat :=
  match cases.find? fun c => c.matches e with
  | none => ([], i)
  | some (.each _ read) => (read e, i)
  | some (.counted _ read) => (read i e, i + 1)

theorem readChildren_cons : readChildren cases i (e :: rest) =
    (taken cases i e).1 ++ readChildren cases (taken cases i e).2 rest := by
  rw [readChildren, taken]
  split <;> rfl

theorem matches_iff : c.matches e = true ↔ lower e.tagName ∈ c.shape.1 := by
  simp only [Case.matches, List.any_eq_true, MatchTagName, decide_eq_true_eq, Case.shape, List.mem_map]

theorem not_matches_of_apart (h : apart ((c :: cases).map Case.shape) = true) (hc : c.matches e = true) :
    ∀ c' ∈ cases, c'.matches e = false := by
  intro c' hmem
  simp only [List.map_cons, apart, Bool.and_eq_true, List.all_map, List.all_eq_true, Function.comp_apply] at h
  have hname := (h.1 c' hmem).1 _ (matches_iff.1 hc)
  refine Bool.eq_false_iff.2 fun hmatch => ?_
  simp only [Bool.not_eq_true', List.contains_iff_mem, ← Bool.not_eq_true] at hname
  exact hname (matches_iff.1 hmatch)

theorem not_counted_of_apart (h : apart ((c :: cases).map Case.shape) = true) (hmem : c' ∈ cases) :
    c.isCounted = false ∨ c'.isCounted = false := by
  simp only [List.map_cons, apart, Bool.and_eq_true, List.all_map, List.all_eq_true, Function.comp_apply] at h
  have hcounted := (h.1 c' hmem).2
  simp only [Case.shape, Bool.not_eq_true', Bool.and_eq_false_iff] at hcounted
  exact hcounted

theorem readFrom_of_not_matches (h : c.matches e = false) : c.readFrom i (e :: rest) = c.readFrom i rest := by
  cases c <;> simp [Case.readFrom, h]

theorem readFrom_of_not_counted (h : c.isCounted = false) (i j : Nat) : c.readFrom i rest = c.readFrom j rest := by
  cases c with
  | each _ _ => rfl
  | counted _ _ => cases h

/-- One child: it goes to the one branch that matches, and moves the index of the branch that is counted. -/
theorem taken_perm (h : apart (cases.map Case.shape) = true) (i : Nat) (e : Element) (rest : List Element) :
    (cases.flatMap (Case.readFrom i (e :: rest))).Perm
      ((taken cases i e).1 ++ cases.flatMap (Case.readFrom (taken cases i e).2 rest)) := by
  induction cases with
  | nil => exact .refl _
  | cons c cases ih =>
    have hrest : apart (cases.map Case.shape) = true := by
      simp only [List.map_cons, apart, Bool.and_eq_true] at h
      exact h.2
    rcases hc : c.matches e with _ | _
    · have htaken : taken (c :: cases) i e = taken cases i e := by
        rw [taken, taken, List.find?_cons_of_neg (by simp [hc])]
      have hindex : c.readFrom i rest = c.readFrom (taken cases i e).2 rest := by
        rcases hfind : cases.find? fun c => c.matches e with _ | c'
        · rw [taken, hfind]
        · cases c' with
          | each _ _ => rw [taken, hfind]
          | counted _ _ =>
            refine readFrom_of_not_counted ?_ _ _
            exact (not_counted_of_apart h (List.mem_of_find?_eq_some hfind)).resolve_right (by simp [Case.isCounted])
      rw [htaken, List.flatMap_cons, List.flatMap_cons, readFrom_of_not_matches hc, hindex]
      exact ((ih hrest).append_left _).trans (List.perm_append_comm_assoc _ _ _)
    · have hothers := not_matches_of_apart h hc
      have hflat : ∀ j, cases.flatMap (Case.readFrom j (e :: rest)) = cases.flatMap (Case.readFrom j rest) := fun j =>
        List.flatMap_congr fun c' hmem => readFrom_of_not_matches (hothers c' hmem)
      rw [taken, List.find?_cons_of_pos (by simp [hc]), List.flatMap_cons, List.flatMap_cons, hflat]
      cases c with
      | each names read =>
        dsimp only
        rw [show Case.readFrom i (e :: rest) (.each names read) = read e ++ Case.readFrom i rest (.each names read) by
          simp [Case.readFrom, hc], List.append_assoc]
      | counted names read =>
        dsimp only
        have hindex : cases.flatMap (Case.readFrom i rest) = cases.flatMap (Case.readFrom (i + 1) rest) :=
          List.flatMap_congr fun c' hmem => readFrom_of_not_counted
            ((not_counted_of_apart h hmem).resolve_left (by simp [Case.isCounted])) _ _
        rw [show Case.readFrom i (e :: rest) (.counted names read) =
          read i e ++ Case.readFrom (i + 1) rest (.counted names read) by
            simp [Case.readFrom, hc, List.zipIdx_cons], List.append_assoc, hindex]

theorem readChildren_perm (h : apart (cases.map Case.shape) = true) (i : Nat) (children : List Element) :
    (readChildren cases i children).Perm (cases.flatMap (Case.readFrom i children)) := by
  induction children generalizing i with
  | nil =>
    rw [readChildren, List.nil_perm, List.flatMap_eq_nil_iff]
    intro c _
    cases c <;> rfl
  | cons e rest ih =>
    rw [readChildren_cons]
    exact ((ih _).append_left _).trans (taken_perm h i e rest).symm

/-! ### The loops in the loops -/

/-- Branches of the same names that read the same, in whatever order. -/
inductive Case.Similar : Case → Case → Prop
  | each (names : List String) {read read' : Element → List Store} :
      (∀ e, (read e).Perm (read' e)) → Similar (.each names read) (.each names read')
  | counted (names : List String) {read read' : Nat → Element → List Store} :
      (∀ i e, (read i e).Perm (read' i e)) → Similar (.counted names read) (.counted names read')

theorem Case.Similar.refl (c : Case) : Similar c c := by
  cases c with
  | each names _ => exact .each names fun _ => .refl _
  | counted names _ => exact .counted names fun _ _ => .refl _

theorem Case.Similar.perm (h : Similar c c') (i : Nat) (children : List Element) :
    (c.readFrom i children).Perm (c'.readFrom i children) := by
  cases h with
  | each names hread => exact List.Perm.flatMap_left _ fun e _ => hread e
  | counted names hread => exact List.Perm.flatMap_left _ fun x _ => hread x.2 x.1

theorem placed_eq (cases : List Case) (children : List Element) : placed cases children = cases.flatMap (Case.readFrom 0 children) :=
  List.flatMap_congr fun c _ => by cases c <;> rfl

theorem counting_perm (hapart : apart (cases.map Case.shape) = true) (h : List.Forall₂ Case.Similar cases cases')
    (children : List Element) : (counting cases children).Perm (placed cases' children) := by
  rw [placed_eq]
  refine (readChildren_perm hapart 0 children).trans ?_
  clear hapart
  induction h with
  | nil => exact .refl _
  | cons hc _ ih =>
    rw [List.flatMap_cons, List.flatMap_cons]
    exact (hc.perm 0 children).append ih

/-- The names of the branches of all the loops. -/
def shapes : List (List (List String × Bool)) :=
  [[(["Eastern"], false), (["Northern", "Nothern"], false), (["Elevation"], false), (["Width"], false)],
    [(["LaneNumber"], false), (["Maneuver"], false), (["SignalGroup"], false), (["ConnectionID"], false)],
    [(["LaneNumber"], false), (["XOffset"], false), (["YOffset"], false)],
    [(["Latitude"], false), (["Longitude"], false), (["Elevation"], false)],
    [(["Node"], true)], [(["Connection"], true)],
    [(["Type"], false), (["LaneName"], false), (["Attributes"], false), (["Width"], false), (["ReferenceLane"], false),
      (["Nodes"], false), (["Connections"], false)],
    [(["Width"], false), (["Lane"], true)],
    [(["Attributes"], false), (["Width"], false), (["Nodes"], false)],
    [(["ReferencePoint"], false), (["Approach"], false), (["Egress"], false), (["Barrier"], true)],
    [(["IntersectionID"], false), (["MapId"], false), (["MapType"], false), (["MapName"], false), (["Elevation"], false),
      (["Resolution"], false), (["Geometry"], true)]]

theorem shapes_apart : (shapes.all fun s => apart (s.map fun c => (c.1.map fun name => lower (CString.lit name), c.2))) = true := by
  decide +kernel

theorem apart_of_get (k : Nat) (h : shapes[k]? = some (cases.map fun c => (c.names, c.isCounted))) :
    apart (cases.map Case.shape) = true := by
  have hapart := List.all_eq_true.1 shapes_apart _ (List.mem_of_getElem? h)
  rw [List.map_map] at hapart
  exact hapart

theorem node_perm (p : Place) (children : List Element) :
    (counting (nodeCases p) children).Perm (placed (nodeCases p) children) :=
  counting_perm (apart_of_get 0 rfl) (List.forall₂_same.2 fun c _ => .refl c) children

theorem connection_perm (p : Place) (children : List Element) :
    (counting (connectionCases p) children).Perm (placed (connectionCases p) children) :=
  counting_perm (apart_of_get 1 rfl) (List.forall₂_same.2 fun c _ => .refl c) children

theorem referenceLane_perm (p : Place) (children : List Element) :
    (counting (referenceLaneCases p) children).Perm (placed (referenceLaneCases p) children) :=
  counting_perm (apart_of_get 2 rfl) (List.forall₂_same.2 fun c _ => .refl c) children

theorem referencePoint_perm (p : Place) (children : List Element) :
    (counting (referencePointCases p) children).Perm (placed (referencePointCases p) children) :=
  counting_perm (apart_of_get 3 rfl) (List.forall₂_same.2 fun c _ => .refl c) children

theorem nodes_perm (p : Place) (children : List Element) :
    (counting (nodesCases counting p) children).Perm (placed (nodesCases placed p) children) :=
  counting_perm (apart_of_get 4 rfl) (.cons (.counted _ fun _ e => node_perm _ e.children) .nil) children

theorem connections_perm (p : Place) (children : List Element) :
    (counting (connectionsCases counting p) children).Perm (placed (connectionsCases placed p) children) :=
  counting_perm (apart_of_get 5 rfl) (.cons (.counted _ fun _ e => connection_perm _ e.children) .nil) children

theorem lane_perm (p : Place) (e : Element) : (lane counting p e).Perm (lane placed p e) := by
  refine .cons _ (counting_perm (apart_of_get 6 rfl) ?_ e.children)
  exact .cons (.refl _) (.cons (.refl _) (.cons (.refl _) (.cons (.refl _)
    (.cons (.each _ fun e => referenceLane_perm _ e.children) (.cons (.each _ fun e => nodes_perm _ e.children)
      (.cons (.each _ fun e => connections_perm _ e.children) .nil))))))

theorem group_perm (p : Place) (children : List Element) :
    (counting (groupCases counting p) children).Perm (placed (groupCases placed p) children) :=
  counting_perm (apart_of_get 7 rfl) (.cons (.refl _) (.cons (.counted _ fun _ e => lane_perm _ e) .nil)) children

theorem barrier_perm (p : Place) (children : List Element) :
    (counting (barrierCases counting p) children).Perm (placed (barrierCases placed p) children) :=
  counting_perm (apart_of_get 8 rfl)
    (.cons (.refl _) (.cons (.refl _) (.cons (.each _ fun e => nodes_perm _ e.children) .nil))) children

theorem geometry_perm (p : Place) (children : List Element) :
    (counting (geometryCases counting p) children).Perm (placed (geometryCases placed p) children) :=
  counting_perm (apart_of_get 9 rfl)
    (.cons (.each _ fun e => referencePoint_perm _ e.children) (.cons (.each _ fun e => group_perm _ e.children)
      (.cons (.each _ fun e => group_perm _ e.children) (.cons (.counted _ fun _ e => barrier_perm _ e.children) .nil)))) children

/-- What is stored is what the document has, each at its place. -/
theorem readRoot_perm (root : Element) : (ReadRoot root).Perm (contents root) := by
  refine .cons _ (counting_perm (apart_of_get 10 rfl) ?_ root.children)
  exact .cons (.refl _) (.cons (.refl _) (.cons (.refl _) (.cons (.refl _) (.cons (.refl _) (.cons (.refl _)
    (.cons (.counted _ fun _ e => geometry_perm _ e.children) .nil))))))

/-! ### The numbers and the names -/

theorem atoi_of_number {s : Str} {n : Int} (h : Strtol.number s = some n) (hlow : -2 ^ 31 ≤ n) (hhigh : n < 2 ^ 31) :
    Strtol.atoi s = n := by
  rw [Strtol.atoi, h, Option.getD_some, min_eq_right (by omega), max_eq_right (by omega)]
  exact Int.bmod_eq_of_le (by omega) (by omega)

/-- Only the greatest number of all is read back from what does not fit an `int`. -/
theorem atoi_ulong {s : Str} {n : Int} (h : Strtol.number s = some n) (hfits : Kind.ulong.Fits n) :
    Strtol.atoi s % 2 ^ 64 = n ↔ n < 2 ^ 31 ∨ 2 ^ 64 - 1 ≤ n := by
  obtain ⟨hlow, hhigh⟩ := hfits
  rw [Strtol.atoi, h, Option.getD_some, max_eq_right (by omega)]
  rcases lt_or_ge n (2 ^ 63) with hlong | hlong
  · rw [min_eq_right (by omega)]
    have hle := Int.le_bmod (x := n) (m := 2 ^ 32) (by decide)
    have hlt := Int.bmod_lt (x := n) (m := 2 ^ 32) (by decide)
    have hself : n < 2 ^ 31 → n.bmod (2 ^ 32) = n := fun hint => Int.bmod_eq_of_le (by omega) (by omega)
    omega
  · rw [min_eq_left (by omega), show Int.bmod (2 ^ 63 - 1) (2 ^ 32) = -1 from rfl]
    omega

theorem unchanged_iff (st : Store) : Unchanged st ↔ Sound.Number st := by
  cases st with
  | number p k s =>
    have hatoi : ∀ n ∈ Strtol.number s, -2 ^ 31 ≤ n → n < 2 ^ 31 → Strtol.atoi s = n := fun n hn => atoi_of_number hn
    cases k with
    | uchar =>
      refine iff_of_true (fun n hn hfits => ?_) trivial
      obtain ⟨hlow, hhigh⟩ := hfits
      rw [Kind.value, hatoi n hn (by omega) (by omega)]
      omega
    | short =>
      refine iff_of_true (fun n hn hfits => ?_) trivial
      obtain ⟨hlow, hhigh⟩ := hfits
      rw [Kind.value, hatoi n hn (by omega) (by omega), Int.bmod_eq_of_le (by omega) (by omega)]
    | ushort =>
      refine iff_of_true (fun n hn hfits => ?_) trivial
      obtain ⟨hlow, hhigh⟩ := hfits
      rw [Kind.value, hatoi n hn (by omega) (by omega)]
      omega
    | int => exact iff_of_true (fun n hn hfits => hatoi n hn hfits.1 hfits.2) trivial
    | ulong => exact forall₂_congr fun n hn => forall_congr' fun hfits => atoi_ulong hn hfits
    | degrees => exact Iff.rfl
  | name _ _ => exact Iff.rfl
  | choice _ _ => exact Iff.rfl
  | flags _ _ => exact Iff.rfl

/-- The copy ends inside the array if the text is shorter than the array. -/
theorem zero_mem_strncpy (size : Nat) (s : Str) : 0 ∈ strncpy size s ↔ (s.takeWhile (· ≠ 0)).length < size := by
  have hsplit := List.takeWhile_append_dropWhile (p := (· ≠ (0 : UInt8))) (l := s)
  have hfront : 0 ∉ s.takeWhile (· ≠ 0) := fun hmem => absurd (List.mem_takeWhile_imp hmem) (by simp)
  have htake : strncpy size s = (s.takeWhile (· ≠ 0)).take size ++
      (s.dropWhile (· ≠ 0) ++ List.replicate size 0).take (size - (s.takeWhile (· ≠ 0)).length) := by
    rw [← List.take_append, ← List.append_assoc, hsplit, strncpy]
  rw [htake, List.mem_append]
  constructor
  · rintro (hmem | hmem)
    · exact absurd (List.mem_of_mem_take hmem) hfront
    · by_contra hle
      rw [Nat.sub_eq_zero_of_le (not_lt.1 hle), List.take_zero] at hmem
      cases hmem
  · intro hlt
    right
    obtain ⟨k, hk⟩ := Nat.exists_eq_succ_of_ne_zero (Nat.sub_ne_zero_of_lt hlt)
    rw [hk]
    rcases hdrop : s.dropWhile (· ≠ 0) with _ | ⟨c, rest⟩
    · obtain ⟨n, rfl⟩ := Nat.exists_eq_succ_of_ne_zero (Nat.ne_of_gt (Nat.zero_lt_of_lt hlt))
      rw [hdrop, List.nil_append, List.replicate_succ, List.take_succ_cons]
      exact List.mem_cons_self
    · have hhead := List.head_dropWhile_not (p := (· ≠ (0 : UInt8))) (l := s) (hdrop ▸ List.cons_ne_nil _ _)
      simp only [hdrop, List.head_cons, decide_eq_false_iff_not, not_not] at hhead
      rw [hdrop, hhead, List.cons_append, List.take_succ_cons]
      exact List.mem_cons_self

/-- If nothing is stored where something has been stored, the map holds all of it. -/
theorem memory_eq {stores : List Store} (h : ((stores.filter fun st => !isFlags st).map Store.place).Nodup) (hst : st ∈ stores)
    (hflags : isFlags st = false) : memory stores st.place = some st := by
  have hfound : (memory stores st.place).isSome = true := by
    rw [memory, List.find?_isSome]
    exact ⟨st, List.mem_reverse.2 hst, by simp [hflags]⟩
  obtain ⟨st', hst'⟩ := Option.isSome_iff_exists.1 hfound
  have hmem := List.mem_reverse.1 (List.mem_of_find?_eq_some hst')
  have hprop := List.find?_some hst'
  simp only [Bool.and_eq_true, Bool.not_eq_true', decide_eq_true_eq] at hprop
  have heq := List.inj_on_of_nodup_map h (List.mem_filter.2 ⟨hmem, by simp [hprop.1]⟩)
    (List.mem_filter.2 ⟨hst, by simp [hflags]⟩) hprop.2
  rw [hst', heq]

theorem mem_of_nameAt {s : Str} (hst : st.nameAt p = some s) : st = .name p s := by
  cases st with
  | name q s' =>
    rw [Store.nameAt] at hst
    split_ifs at hst with hq
    obtain rfl := Option.some.inj hst
    rw [hq]
  | number _ _ _ => cases hst
  | choice _ _ => cases hst
  | flags _ _ => cases hst

/-- A name that is given ends if all that are stored do. -/
theorem ends_of_named {stores : List Store} (hterminated : ∀ st ∈ stores, Terminated st) {s : Str} (h : .name p s ∈ stores)
    (before : Place → Str) : 0 ∈ nameHeld before stores p := by
  have hsome : (stores.reverse.findSome? (Store.nameAt p)).isSome = true := by
    rw [List.findSome?_isSome_iff]
    exact ⟨.name p s, List.mem_reverse.2 h, by rw [Store.nameAt, if_pos rfl]; rfl⟩
  obtain ⟨s', hs'⟩ := Option.isSome_iff_exists.1 hsome
  obtain ⟨st, hst, hname⟩ := List.exists_of_findSome?_eq_some hs'
  obtain rfl := mem_of_nameAt hname
  rw [nameHeld, hs', Option.map_some, Option.getD_some]
  exact hterminated _ (List.mem_reverse.1 hst)

/-- One that is not given may not end. -/
theorem named_of_ends {stores : List Store} (h : ∀ before : Place → Str, (∀ p, (before p).length = map_maxstringlen) →
    0 ∈ nameHeld before stores p) : ∃ s, Store.name p s ∈ stores := by
  have hends := h (fun _ => List.replicate map_maxstringlen 1) fun _ => List.length_replicate
  cases hfound : stores.reverse.findSome? (Store.nameAt p) with
  | none =>
    rw [nameHeld, hfound, Option.map_none, Option.getD_none] at hends
    exact absurd (List.eq_of_mem_replicate hends) (by decide)
  | some s =>
    obtain ⟨st, hst, hname⟩ := List.exists_of_findSome?_eq_some hfound
    obtain rfl := mem_of_nameAt hname
    exact ⟨s, List.mem_reverse.1 hst⟩

theorem namePlaces_perm {stores stores' : List Store} (h : stores.Perm stores') :
    (namePlaces stores).Perm (namePlaces stores') := (h.filterMap _).cons _

/-- What is stored is as it should be if and only if each element has a place in its array, the names are there and short, no
two elements have one place, and the numbers are not too large for an `int` nor lost in double precision. -/
theorem readRoot_iff (root : Element) : Meets root ↔ Sound root := by
  have hperm := readRoot_perm root
  have hmem : ∀ P : Store → Prop, (∀ st ∈ ReadRoot root, P st) ↔ ∀ st ∈ contents root, P st := fun P =>
    forall_congr' fun st => by rw [hperm.mem_iff]
  have hnames : (∀ st ∈ contents root, Terminated st) ↔
      ∀ p s, Store.name p s ∈ contents root → (s.takeWhile (· ≠ 0)).length < map_maxstringlen := by
    constructor
    · exact fun h p s hst => (zero_mem_strncpy _ s).1 (h _ hst)
    · intro h st hst
      cases st with
      | name p s => exact (zero_mem_strncpy _ s).2 (h p s hst)
      | number _ _ _ => trivial
      | choice _ _ => trivial
      | flags _ _ => trivial
  have honce := ((hperm.filter fun st => !isFlags st).map Store.place).nodup_iff
  have hnumbers : (∀ st ∈ ReadRoot root, Unchanged st) ↔ ∀ st ∈ contents root, Sound.Number st := by
    rw [hmem]
    exact forall₂_congr fun st _ => unchanged_iff st
  constructor
  · intro h
    refine ⟨(hmem _).1 h.inBounds, hnames.1 ((hmem _).1 h.terminated), fun p hp => ?_, fun hc => honce.1 (h.held hc).2.1,
      fun hc => hnumbers.1 (h.held hc).2.2.2⟩
    obtain ⟨s, hs⟩ := named_of_ends fun before hbefore => h.ends before hbefore p ((namePlaces_perm hperm).mem_iff.2 hp)
    exact ⟨s, hperm.mem_iff.1 hs⟩
  · intro h
    have hterminated := (hmem _).2 (hnames.2 h.names)
    refine ⟨(hmem _).2 h.inBounds, hterminated, fun before _ p hp => ?_, fun hc => ?_⟩
    · obtain ⟨s, hs⟩ := h.named p ((namePlaces_perm hperm).mem_iff.1 hp)
      exact ends_of_named hterminated (hperm.mem_iff.2 hs) before
    have hnodup := honce.2 (h.once hc)
    exact ⟨hperm, hnodup, fun st hst hflags => memory_eq hnodup (hperm.mem_iff.2 hst) hflags, hnumbers.2 (h.numbers hc)⟩

/-- A document with a name. -/
def namedMap (name : Str) : Element := .mk (CString.lit "Map") [] [] [.mk (CString.lit "MapName") [] name []]

/-- A name of 63 characters fills its array and has no end, and without a name there is what has been in the memory. -/
theorem not_readRoot : ¬ Meets (namedMap (List.replicate 63 97)) ∧ ¬ Meets (.mk (CString.lit "Map") [] [] []) := by
  constructor
  · intro h
    have hread : ReadRoot (namedMap (List.replicate 63 97)) =
        [.flags [.field .attributes] 12, .name [.field .mapName] (List.replicate 63 97)] := rfl
    have hends : Terminated (.name [.field .mapName] (List.replicate 63 97)) :=
      h.terminated _ (hread ▸ List.mem_cons_of_mem _ List.mem_cons_self)
    have hshort := (zero_mem_strncpy _ _).1 hends
    revert hshort
    decide
  · intro h
    have hread : ReadRoot (.mk (CString.lit "Map") [] [] []) = [.flags [.field .attributes] 12] := rfl
    obtain ⟨s, hs⟩ := named_of_ends (p := [.field .mapName]) fun before hbefore => h.ends before hbefore _ List.mem_cons_self
    rw [hread, List.mem_singleton] at hs
    cases hs

end V2xHub.MapPlugin.XmlMapParser
