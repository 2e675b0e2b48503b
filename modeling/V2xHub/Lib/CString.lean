import Mathlib.Algebra.Group.Int.Defs
import Mathlib.Algebra.Group.Nat.Defs
import Mathlib.Data.List.Basic

/-!
# C strings in memory

A `Str` is the bytes of a C string, without the terminator. Memory is a list of bytes. A C string is
read from its start up to the first NUL byte; a read that meets no NUL runs off the end of the list
and has no result (`none`). `strchr` is the search for one byte, the terminator being the end of the
search.
-/

abbrev Str := List UInt8

instance : LawfulBEq Str := inferInstance

namespace CString

/-- A string constant. -/
def lit (s : String) : Str := s.toList.map fun c => UInt8.ofNat c.toNat

/-- `tolower` in the C locale. -/
def tolower (c : UInt8) : UInt8 := if 65 ≤ c ∧ c ≤ 90 then c + 32 else c

/-- The string that starts at the head of the memory. -/
def read : List UInt8 → Option (List UInt8)
  | [] => none
  | b :: bs => if b = 0 then some [] else (read bs).map (b :: ·)

/-- The offset of the first `c` in the string that starts at the head of the memory. -/
def strchr (c : UInt8) : List UInt8 → Option (Option Nat)
  | [] => none
  | b :: bs =>
    if b = c then some (some 0)
    else if b = 0 then some none
    else (strchr c bs).map (·.map (· + 1))

variable {s t : List UInt8} {c : UInt8}

/-- The characters of a constant are at hand, where `String.toList` decodes them one by one. -/
theorem lit_ofList (l : List Char) : lit (String.ofList l) = l.map fun c => UInt8.ofNat c.toNat := by
  rw [lit, String.toList_ofList]

theorem read_append (h : 0 ∉ s) : read (s ++ 0 :: t) = some s := by
  induction s with
  | nil => simp [read]
  | cons b s ih =>
    simp only [List.mem_cons, not_or] at h
    simp [read, Ne.symm h.1, ih h.2]

/-- A byte that the string holds is found where it first occurs. -/
theorem strchr_of_mem {a b : List UInt8} (ha : c ∉ a) (h0 : 0 ∉ a) :
    strchr c (a ++ c :: b) = some (some a.length) := by
  induction a with
  | nil => simp [strchr]
  | cons x a ih =>
    simp only [List.mem_cons, not_or] at ha h0
    simp [strchr, Ne.symm ha.1, Ne.symm h0.1, ih ha.2 h0.2]

theorem strchr_of_not_mem (hc : c ≠ 0) (hs : c ∉ s) (h0 : 0 ∉ s) :
    strchr c (s ++ 0 :: t) = some none := by
  induction s with
  | nil => simp [strchr, Ne.symm hc]
  | cons x s ih =>
    simp only [List.mem_cons, not_or] at hs h0
    simp [strchr, Ne.symm hs.1, Ne.symm h0.1, ih hs.2 h0.2]

/-! ### No control bytes -/

def Printable (s : Str) : Prop := ∀ c ∈ s, 31 < c.toNat

instance : DecidablePred Printable := fun s => List.decidableBAll (fun c : UInt8 => 31 < c.toNat) s

theorem printable_nil : Printable [] := fun _ h => absurd h List.not_mem_nil

theorem Printable.cons (hc : 31 < c.toNat) (hs : Printable s) : Printable (c :: s) := by
  intro d hd
  rcases List.mem_cons.1 hd with rfl | hd
  · exact hc
  · exact hs d hd

theorem Printable.append (hs : Printable s) (ht : Printable t) : Printable (s ++ t) :=
  fun c hc => (List.mem_append.1 hc).elim (hs c) (ht c)

theorem Printable.not_mem (hs : Printable s) (hc : c.toNat ≤ 31) : c ∉ s := fun h => absurd (hs c h) (by omega)

end CString
