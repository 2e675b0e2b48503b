import Mathlib.Data.List.Induction

/-!
# Lexical path resolution

A path is cut at its slashes; empty components and `.` are dropped, and `..` takes the component before it
away. `descend` is the resolution inside a directory, which has no result where the path leaves it.
-/

namespace LexicalPath

def slash : UInt8 := 47

def dot : List UInt8 := [46]

def dotdot : List UInt8 := [46, 46]

def components (path : List UInt8) : List (List UInt8) := (path.splitOn slash).filter (· ≠ [])

/-- One component further; the root has nothing before it. -/
def push (dir : List (List UInt8)) (c : List UInt8) : List (List UInt8) :=
  if c = dot then dir else if c = dotdot then dir.dropLast else dir ++ [c]

def resolve (path : List UInt8) : List (List UInt8) := (components path).foldl push []

/-- What lies below the directory in the end. -/
def descend : List (List UInt8) → List (List UInt8) → Option (List (List UInt8))
  | below, [] => some below
  | below, c :: cs =>
    if c = dot then descend below cs
    else if c = dotdot then if below = [] then none else descend below.dropLast cs
    else descend (below ++ [c]) cs

variable {dir below rest cs : List (List UInt8)} {a b : List UInt8}

theorem foldl_push_of_descend (dir : List (List UInt8)) (h : descend below cs = some rest) :
    cs.foldl push (dir ++ below) = dir ++ rest := by
  induction cs generalizing below with
  | nil =>
    obtain rfl := Option.some.inj h
    rfl
  | cons c cs ih =>
    rw [descend] at h
    rw [List.foldl_cons, push]
    split_ifs at h ⊢ with hdot hdotdot hbelow
    · exact ih h
    · rw [List.dropLast_append_of_ne_nil hbelow]
      exact ih h
    · rw [List.append_assoc]
      exact ih h

theorem foldl_push_filter : (cs.filter (· ≠ dot)).foldl push dir = cs.foldl push dir := by
  induction cs generalizing dir with
  | nil => rfl
  | cons c cs ih =>
    by_cases hc : c = dot
    · rw [List.filter_cons_of_neg (by simpa using hc), List.foldl_cons, push, if_pos hc, ih]
    · rw [List.filter_cons_of_pos (by simpa using hc), List.foldl_cons, List.foldl_cons, ih]

theorem components_append_slash : components (a ++ slash :: b) = components a ++ components b := by
  rw [components, List.splitOn_append_cons_self, List.filter_append]
  rfl

theorem components_of_not_mem (h : slash ∉ a) : components a = [a].filter (· ≠ []) := by
  rw [components, List.splitOn_eq_singleton h]

/-- A path that is put together from components. -/
theorem components_append_flatMap (h : ∀ c ∈ cs, slash ∉ c) :
    components (a ++ cs.flatMap (slash :: ·)) = components a ++ cs.filter (· ≠ []) := by
  induction cs using List.reverseRecOn with
  | nil => simp
  | append_singleton cs c ih =>
    have hc : slash ∉ c := h c (by simp)
    rw [List.flatMap_append, List.flatMap_singleton, ← List.append_assoc, components_append_slash,
      ih fun d hd => h d (List.mem_append_left _ hd), components_of_not_mem hc, List.filter_append, List.append_assoc]

end LexicalPath
