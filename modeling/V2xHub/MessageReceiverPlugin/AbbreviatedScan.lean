import Mathlib.Data.List.Basic
import Mathlib.Data.UInt
import Mathlib.Tactic.Ring

/-!
# Abbreviated messages (`MessageReceiverPlugin.cpp`)

A payload of bytes is searched for the id of a message. What follows the id is copied, and its first eight bytes are a header.
With an id the search and the copy stay within the payload, and with eight bytes behind it the header does
(`passedOn_of_isFirst`); the iterator is moved by the two bytes of the id in any case, so without one it is moved over the end
(`passedOn_of_no_id`).
-/

namespace V2xHub.MessageReceiverPlugin

/-- The search, at the iterator `cnt`. None is a read behind the payload. -/
def search (bytesFull : List UInt8) (cnt : Nat) : Option Nat :=
  if h : cnt < bytesFull.length then
    if bytesFull[cnt] = 0x00 then
      match bytesFull[cnt + 1]? with
      | none => none
      | some next => if next = 0x14 ∨ next = 0x12 ∨ next = 0x13 then some cnt else search bytesFull (cnt + 1)
    else search bytesFull (cnt + 1)
  else some cnt
termination_by bytesFull.length - cnt

/-- The copy, from the iterator on. -/
def copyBytes (bytesFull : List UInt8) (cnt : Nat) (bytes : List UInt8) : Option (List UInt8) :=
  if cnt = bytesFull.length then some bytes
  else if h : cnt < bytesFull.length then copyBytes bytesFull (cnt + 1) (bytes ++ [bytesFull[cnt]])
  else none
termination_by bytesFull.length - cnt

/-- `bytes` -/
def passedOn (bytesFull : List UInt8) : Option (List UInt8) := (search bytesFull 0).bind fun cnt => copyBytes bytesFull (cnt + 2) []

structure Header where
  msgType : Nat
  msgVersion : Nat
  id : Nat
  dataLength : Nat
deriving DecidableEq

/-- `ntohs` of the two bytes at `i`. -/
def readShort (bytes : List UInt8) (i : Nat) : Option Nat :=
  bytes[i]?.bind fun upper => bytes[i + 1]?.map fun lower => upper.toNat * 2 ^ 8 + lower.toNat

/-- The version is stored in a byte. -/
def readHeader (bytes : List UInt8) : Option Header :=
  (readShort bytes 0).bind fun msgType => (readShort bytes 2).bind fun msgVersion => (readShort bytes 4).bind fun id =>
    (readShort bytes 6).map fun dataLength => ⟨msgType, msgVersion % 2 ^ 8, id, dataLength⟩

/-- At `p` there is an id. -/
def IsId (payload : List UInt8) (p : Nat) : Prop :=
  payload[p]? = some 0x00 ∧ (payload[p + 1]? = some 0x14 ∨ payload[p + 1]? = some 0x12 ∨ payload[p + 1]? = some 0x13)

instance (payload : List UInt8) (p : Nat) : Decidable (IsId payload p) := by
  unfold IsId
  infer_instance

/-- The first id is at `p`. -/
def IsFirst (payload : List UInt8) (p : Nat) : Prop := IsId payload p ∧ ∀ q < p, ¬ IsId payload q

instance (payload : List UInt8) (p : Nat) : Decidable (IsFirst payload p) := by
  unfold IsFirst
  infer_instance

/-- No read is behind the payload, and what is passed on is the payload from its first id on. -/
def Scans (payload : List UInt8) : Prop := ∃ bytes, passedOn payload = some bytes ∧ ∀ p, IsFirst payload p → bytes = payload.drop p

variable {payload bytes : List UInt8} {p cnt : Nat}

theorem IsId.lt (h : IsId payload p) : p + 1 < payload.length := by
  by_contra hge
  rw [IsId, List.getElem?_eq_none (not_lt.mp hge)] at h
  simp at h

theorem search_of_not_isId (hlt : cnt + 1 < payload.length) (h : ¬ IsId payload cnt) :
    search payload cnt = search payload (cnt + 1) := by
  have hcnt : cnt < payload.length := by omega
  rw [search, dif_pos hcnt]
  by_cases hzero : payload[cnt] = 0x00
  · have hnext : ¬ (payload[cnt + 1] = 0x14 ∨ payload[cnt + 1] = 0x12 ∨ payload[cnt + 1] = 0x13) := by
      intro hor
      refine h ⟨by rw [List.getElem?_eq_getElem hcnt, hzero], ?_⟩
      rw [List.getElem?_eq_getElem hlt]
      simpa using hor
    rw [if_pos hzero, List.getElem?_eq_getElem hlt]
    exact if_neg hnext
  · rw [if_neg hzero]

theorem search_of_isId (h : IsId payload p) : search payload p = some p := by
  have hlt := h.lt
  obtain ⟨hzero, hnext⟩ := h
  rw [List.getElem?_eq_getElem (by omega), Option.some.injEq] at hzero
  rw [List.getElem?_eq_getElem hlt] at hnext
  rw [search, dif_pos (by omega), if_pos hzero, List.getElem?_eq_getElem hlt]
  exact if_pos (by simpa using hnext)

/-- It stops at the first id from the iterator on. -/
theorem search_of_isFirst (hle : cnt ≤ p) (hid : IsId payload p) (hbefore : ∀ q, cnt ≤ q → q < p → ¬ IsId payload q) :
    search payload cnt = some p := by
  induction hk : p - cnt generalizing cnt with
  | zero =>
    obtain rfl : cnt = p := by omega
    exact search_of_isId hid
  | succ k ih =>
    have hlt := hid.lt
    rw [search_of_not_isId (by omega) (hbefore cnt le_rfl (by omega))]
    exact ih (by omega) (fun q hq => hbefore q (by omega)) (by omega)

theorem copyBytes_eq (hle : cnt ≤ payload.length) : copyBytes payload cnt bytes = some (bytes ++ payload.drop cnt) := by
  fun_induction copyBytes payload cnt bytes with
  | case1 bytes => rw [List.drop_length, List.append_nil]
  | case2 cnt bytes hne hlt ih =>
    rw [ih (by omega), List.drop_eq_getElem_cons hlt, List.append_assoc, List.singleton_append]
  | case3 cnt bytes hne hge => omega

theorem copyBytes_of_lt (hlt : payload.length < cnt) : copyBytes payload cnt bytes = none := by
  rw [copyBytes, if_neg (by omega), dif_neg (by omega)]

/-- A search without an id ends at the end, or behind it if the last byte could start an id. -/
theorem search_of_no_id (h : ∀ q, ¬ IsId payload q) (hle : cnt ≤ payload.length) :
    search payload cnt = none ∨ search payload cnt = some payload.length := by
  induction hk : payload.length - cnt generalizing cnt with
  | zero =>
    obtain rfl : cnt = payload.length := by omega
    refine Or.inr ?_
    rw [search, dif_neg (lt_irrefl _)]
  | succ k ih =>
    by_cases hlast : cnt + 1 < payload.length
    · rw [search_of_not_isId hlast (h cnt)]
      exact ih (by omega) (by omega)
    · rw [search, dif_pos (by omega)]
      split_ifs with hzero
      · rw [List.getElem?_eq_none (by omega)]
        exact Or.inl rfl
      · exact ih (by omega) (by omega)

/-- Without an id the payload is left. -/
theorem passedOn_of_no_id (h : ∀ q, ¬ IsId payload q) : passedOn payload = none := by
  rw [passedOn]
  rcases search_of_no_id h (Nat.zero_le _) with hnone | hend
  · rw [hnone]
    rfl
  · rw [hend]
    exact copyBytes_of_lt (by omega)

theorem readShort_isSome (i : Nat) : (readShort bytes i).isSome ↔ i + 1 < bytes.length := by
  by_cases h : i + 1 < bytes.length
  · simp [readShort, h, Nat.lt_of_succ_lt h]
  · simp [readShort, h]

/-- The header is within what is passed on if this has eight bytes. -/
theorem readHeader_isSome : (readHeader bytes).isSome ↔ 8 ≤ bytes.length := by
  have hread : (readHeader bytes).isSome ↔ (readShort bytes 0).isSome ∧ (readShort bytes 2).isSome ∧ (readShort bytes 4).isSome ∧
      (readShort bytes 6).isSome := by
    rw [readHeader]
    cases readShort bytes 0 <;> cases readShort bytes 2 <;> cases readShort bytes 4 <;> cases readShort bytes 6 <;> simp
  rw [hread, readShort_isSome, readShort_isSome, readShort_isSome, readShort_isSome]
  omega

/-- With an id the search and the copy are within the payload, what follows the two bytes of the first one is passed on, and
the header is read within it if and only if eight bytes follow. -/
theorem passedOn_of_isFirst (payload : List UInt8) (p : Nat) (h : IsFirst payload p) :
    passedOn payload = some (payload.drop (p + 2)) ∧
      ((readHeader (payload.drop (p + 2))).isSome ↔ p + 10 ≤ payload.length) := by
  have hlt := h.1.lt
  constructor
  · rw [passedOn, search_of_isFirst (Nat.zero_le p) h.1 fun q _ => h.2 q, Option.bind_some, copyBytes_eq (by omega),
      List.nil_append]
  · rw [readHeader_isSome, List.length_drop]
    omega

theorem passedOn_of_isFirst_one :
    passedOn [0x30, 0x00, 0x14, 0x03, 0xE8, 0x00, 0x00, 0x00, 0x01, 0x00, 0x18] =
        some [0x03, 0xE8, 0x00, 0x00, 0x00, 0x01, 0x00, 0x18] ∧
      ((readHeader [0x03, 0xE8, 0x00, 0x00, 0x00, 0x01, 0x00, 0x18]).isSome ↔ 11 ≤ 11) :=
  passedOn_of_isFirst [0x30, 0x00, 0x14, 0x03, 0xE8, 0x00, 0x00, 0x00, 0x01, 0x00, 0x18] 1 (by decide)

/-- The id is not passed on, and a payload without one is left. -/
theorem not_scans : ¬ Scans [0x30, 0x00, 0x14, 0x03, 0xE8, 0x00, 0x00, 0x00, 0x01, 0x00, 0x00] ∧
    ¬ Scans [0x30, 0x30, 0x30, 0x30, 0x30, 0x30, 0x30, 0x30, 0x30] := by
  constructor
  · rintro ⟨bytes, hbytes, hall⟩
    have hdrop := hall 1 (by decide)
    rw [hdrop] at hbytes
    exact absurd hbytes (by decide +kernel)
  · rintro ⟨bytes, hbytes, -⟩
    have hnone : passedOn [0x30, 0x30, 0x30, 0x30, 0x30, 0x30, 0x30, 0x30, 0x30] = none := by decide +kernel
    rw [hnone] at hbytes
    exact Option.some_ne_none bytes hbytes.symm

end V2xHub.MessageReceiverPlugin
