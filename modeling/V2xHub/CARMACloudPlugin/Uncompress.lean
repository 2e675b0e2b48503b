import V2xHub.Lib.CString
import Mathlib.Data.List.TakeWhile
import Mathlib.Tactic.Ring

/-!
# Decompression (`CARMACloudPlugin::UncompressBytes`)

The loop calls `inflate` with an empty buffer until it says that the stream is at its end, and appends the buffer as a C string.
zlib is a parameter, with what it is documented to do (`Contract`). Data that is cut off or corrupted has no end, so the loop
goes on (`loop_of_none`); of the rest the data comes back that fits into one buffer with a byte to spare and has no NUL
(`uncompresses_iff`).
-/

namespace V2xHub.CARMACloudPlugin

def Z_OK : Int := 0

def Z_STREAM_END : Int := 1

def Z_BUF_ERROR : Int := -5

def BUFFER_SIZE : Nat := 4092

/-- What is called of zlib. `inflate` has the room in the buffer, and gives its return code and what it wrote. -/
structure Zlib where
  Stream : Type
  /-- For data of gzip. -/
  inflateInit2 : List UInt8 → Int × Stream
  /-- With `Z_FINISH`. -/
  inflate : Stream → Nat → Int × List UInt8 × Stream

/-- `rest` is what a stream has still to write, if its input goes on to the end of a gzip member. -/
structure Contract (z : Zlib) (member : List UInt8 → Option (List UInt8)) (rest : z.Stream → Option (List UInt8)) : Prop where
  init : ∀ compressedBytes, (z.inflateInit2 compressedBytes).1 = Z_OK ∧
    rest (z.inflateInit2 compressedBytes).2 = member compressedBytes
  /-- No more than the buffer has room for. -/
  room : ∀ strm avail_out, (z.inflate strm avail_out).2.1.length ≤ avail_out
  /-- What fits with room to spare is written, to the end of the stream. -/
  fits : ∀ strm avail_out data, rest strm = some data → data.length < avail_out →
    (z.inflate strm avail_out).1 = Z_STREAM_END ∧ (z.inflate strm avail_out).2.1 = data
  /-- Of more the buffer is filled, and the rest is left. -/
  fills : ∀ strm avail_out data, rest strm = some data → avail_out ≤ data.length →
    (z.inflate strm avail_out).2.1 = data.take avail_out ∧ rest (z.inflate strm avail_out).2.2 = some (data.drop avail_out)
  /-- Without the end of a member there is progress or an error, and then no end either. -/
  broken : ∀ strm avail_out, rest strm = none →
    (z.inflate strm avail_out).1 ≠ Z_STREAM_END ∧ rest (z.inflate strm avail_out).2.2 = none

/-- Where the loop is: returned, at a read behind the buffer, or still in a call. -/
inductive Run where
  | returned (outBuf : List UInt8)
  | outside
  | running
deriving DecidableEq

/-- `QByteArray::append(const char *)` of the buffer, which was cleared. -/
def appended (written : List UInt8) : Option (List UInt8) := CString.read (written ++ List.replicate (BUFFER_SIZE - written.length) 0)

/-- The loop, for a number of iterations. -/
def loop (z : Zlib) : Nat → z.Stream → List UInt8 → Run
  | 0, _, _ => .running
  | n + 1, strm, outBuf =>
    let (isDone, written, strm) := z.inflate strm BUFFER_SIZE
    match appended written with
    | none => .outside
    | some str => if Z_STREAM_END ≠ isDone then loop z n strm (outBuf ++ str) else .returned (outBuf ++ str)

def UncompressBytes (z : Zlib) (n : Nat) (compressedBytes : List UInt8) : Run :=
  let (err, strm) := z.inflateInit2 compressedBytes
  if err = Z_OK then loop z n strm [] else .returned []

/-- It returns, and with the data of the member if there is one. -/
def Uncompresses (z : Zlib) (member : List UInt8 → Option (List UInt8)) (compressedBytes : List UInt8) : Prop :=
  ∃ n outBuf, UncompressBytes z n compressedBytes = .returned outBuf ∧ ∀ data ∈ member compressedBytes, outBuf = data

variable {z : Zlib} {member : List UInt8 → Option (List UInt8)} {rest : z.Stream → Option (List UInt8)} {strm : z.Stream}
  {written str outBuf data : List UInt8} {n : Nat}

theorem zero_not_mem_read {memory : List UInt8} (h : CString.read memory = some str) : 0 ∉ str := by
  induction memory generalizing str with
  | nil => exact absurd h.symm (Option.some_ne_none str)
  | cons b memory ih =>
    rw [CString.read] at h
    split_ifs at h with hb
    · rw [← Option.some.inj h]
      exact List.not_mem_nil
    · obtain ⟨s, hs, rfl⟩ := Option.map_eq_some_iff.mp h
      exact List.not_mem_cons_of_ne_of_not_mem (Ne.symm hb) (ih hs)

theorem appended_eq (h0 : 0 ∉ written) (h : written.length < BUFFER_SIZE) : appended written = some written := by
  obtain ⟨k, hk⟩ : ∃ k, BUFFER_SIZE - written.length = k + 1 := ⟨BUFFER_SIZE - written.length - 1, by omega⟩
  rw [appended, hk, List.replicate_succ]
  exact CString.read_append h0

/-- A full buffer has no terminator. -/
theorem appended_full (h0 : 0 ∉ written) (h : BUFFER_SIZE ≤ written.length) : appended written = none := by
  have hnone : ∀ memory : List UInt8, 0 ∉ memory → CString.read memory = none := by
    intro memory
    induction memory with
    | nil => exact fun _ => rfl
    | cons b memory ih =>
      intro hmem
      rw [List.mem_cons, not_or] at hmem
      rw [CString.read, if_neg (Ne.symm hmem.1), ih hmem.2]
      rfl
  rw [appended, Nat.sub_eq_zero_of_le h, List.replicate_zero, List.append_nil]
  exact hnone written h0

/-- Without an end the loop does not return. -/
theorem loop_of_none (h : Contract z member rest) (hnone : rest strm = none) : loop z n strm outBuf ≠ .returned data := by
  induction n generalizing strm outBuf with
  | zero => exact fun heq => Run.noConfusion heq
  | succ n ih =>
    obtain ⟨hcode, hrest⟩ := h.broken strm BUFFER_SIZE hnone
    rw [loop]
    dsimp only
    cases appended (z.inflate strm BUFFER_SIZE).2.1 with
    | none => exact fun heq => Run.noConfusion heq
    | some str =>
      dsimp only
      rw [if_pos hcode.symm]
      exact ih hrest

/-- Of data that fills the buffer the read of the first piece leaves it. -/
theorem loop_of_full (h : Contract z member rest) (hrest : rest strm = some data) (hfull : BUFFER_SIZE ≤ data.length) (h0 : 0 ∉ data) :
    loop z n strm outBuf ≠ .returned str := by
  have hwritten := (h.fills strm BUFFER_SIZE data hrest hfull).1
  have hlength : BUFFER_SIZE ≤ (data.take BUFFER_SIZE).length := by
    rw [List.length_take, min_eq_left hfull]
  cases n with
  | zero => exact fun heq => Run.noConfusion heq
  | succ n =>
    rw [loop]
    dsimp only
    rw [hwritten, appended_full (fun hmem => h0 (List.mem_of_mem_take hmem)) hlength]
    exact fun heq => Run.noConfusion heq

/-- What was appended has no NUL. -/
theorem zero_not_mem_loop (h : loop z n strm outBuf = .returned data) (h0 : 0 ∉ outBuf) : 0 ∉ data := by
  induction n generalizing strm outBuf with
  | zero => exact Run.noConfusion h
  | succ n ih =>
    rw [loop] at h
    dsimp only at h
    cases hstr : appended (z.inflate strm BUFFER_SIZE).2.1 with
    | none =>
      rw [hstr] at h
      exact Run.noConfusion h
    | some str =>
      have happend : 0 ∉ outBuf ++ str := List.not_mem_append h0 (zero_not_mem_read hstr)
      rw [hstr] at h
      dsimp only at h
      split_ifs at h
      · exact ih h happend
      · rwa [← Run.returned.inj h]

theorem UncompressBytes_eq (h : Contract z member rest) (n : Nat) (compressedBytes : List UInt8) :
    UncompressBytes z n compressedBytes = loop z n (z.inflateInit2 compressedBytes).2 [] := by
  rw [UncompressBytes]
  exact if_pos (h.init compressedBytes).1

/-- The data comes back exactly if the bytes are a member, of data that is shorter than the buffer and has no NUL. -/
theorem uncompresses_iff (z : Zlib) (member : List UInt8 → Option (List UInt8)) (rest : z.Stream → Option (List UInt8))
    (h : Contract z member rest) (compressedBytes : List UInt8) :
    Uncompresses z member compressedBytes ↔ ∃ data, member compressedBytes = some data ∧ data.length < BUFFER_SIZE ∧ 0 ∉ data := by
  have hinit := (h.init compressedBytes).2
  constructor
  · rintro ⟨n, outBuf, hreturned, hall⟩
    rw [UncompressBytes_eq h] at hreturned
    cases hmember : member compressedBytes with
    | none => exact absurd hreturned (loop_of_none h (hinit.trans hmember))
    | some data =>
      obtain rfl := hall data hmember
      have h0 := zero_not_mem_loop hreturned List.not_mem_nil
      exact ⟨outBuf, rfl, not_le.mp fun hfull => loop_of_full h (hinit.trans hmember) hfull h0 hreturned, h0⟩
  · rintro ⟨data, hmember, hshort, h0⟩
    obtain ⟨hend, hwritten⟩ := h.fits _ _ _ (hinit.trans hmember) hshort
    refine ⟨1, data, ?_, fun d hd => Option.some.inj (hmember.symm.trans hd)⟩
    rw [UncompressBytes_eq h, loop]
    dsimp only
    rw [hwritten, appended_eq h0 hshort]
    dsimp only
    rw [if_neg (not_not.mpr hend.symm), List.nil_append]

/-- A stream that has its data. -/
def storedZlib (member : List UInt8 → Option (List UInt8)) : Zlib where
  Stream := Option (List UInt8)
  inflateInit2 compressedBytes := (Z_OK, member compressedBytes)
  inflate strm avail_out :=
    match strm with
    | none => (Z_BUF_ERROR, [], none)
    | some data =>
      if data.length < avail_out then (Z_STREAM_END, data, some []) else (Z_BUF_ERROR, data.take avail_out, some (data.drop avail_out))

theorem storedZlib_contract (member : List UInt8 → Option (List UInt8)) : Contract (storedZlib member) member id where
  init _ := ⟨rfl, rfl⟩
  room strm avail_out := by
    cases strm with
    | none => exact Nat.zero_le _
    | some data =>
      by_cases hlt : data.length < avail_out
      · have heq : (storedZlib member).inflate (some data) avail_out = (Z_STREAM_END, data, some []) := if_pos hlt
        rw [heq]
        exact hlt.le
      · have heq : (storedZlib member).inflate (some data) avail_out =
            (Z_BUF_ERROR, data.take avail_out, some (data.drop avail_out)) := if_neg hlt
        rw [heq]
        exact List.length_take_le _ _
  fits strm avail_out data hrest hlt := by
    obtain rfl : strm = some data := hrest
    have heq : (storedZlib member).inflate (some data) avail_out = (Z_STREAM_END, data, some []) := if_pos hlt
    rw [heq]
    exact ⟨rfl, rfl⟩
  fills strm avail_out data hrest hle := by
    obtain rfl : strm = some data := hrest
    have heq : (storedZlib member).inflate (some data) avail_out =
        (Z_BUF_ERROR, data.take avail_out, some (data.drop avail_out)) := if_neg (not_lt.mpr hle)
    rw [heq]
    exact ⟨rfl, rfl⟩
  broken strm avail_out hrest := by
    obtain rfl : strm = none := hrest
    refine ⟨?_, rfl⟩
    show Z_BUF_ERROR ≠ Z_STREAM_END
    decide

/-- A member whose data is the letter A. -/
def letterA : List UInt8 :=
  [0x1F, 0x8B, 0x08, 0x00, 0x00, 0x00, 0x00, 0x00, 0x02, 0xFF, 0x73, 0x04, 0x00, 0x8B, 0x9E, 0xD9, 0xD3, 0x01, 0x00, 0x00, 0x00]

/-- A member whose data is the letter A and a NUL. -/
def letterNul : List UInt8 :=
  [0x1F, 0x8B, 0x08, 0x00, 0x00, 0x00, 0x00, 0x00, 0x02, 0xFF, 0x73, 0x64, 0x00, 0x00, 0xBB, 0x6C, 0xBB, 0xA8, 0x02, 0x00, 0x00, 0x00]

def letters (compressedBytes : List UInt8) : Option (List UInt8) :=
  if compressedBytes = letterA then some [65] else if compressedBytes = letterNul then some [65, 0] else none

theorem uncompresses_letterA : Uncompresses (storedZlib letters) letters letterA :=
  (uncompresses_iff (storedZlib letters) letters id (storedZlib_contract letters) letterA).mpr
    ⟨[65], by decide, by decide, by decide⟩

/-- The loop does not return for a member that is cut off, nor for no bytes at all, and the NUL is lost. -/
theorem not_uncompresses : ¬ Uncompresses (storedZlib letters) letters (letterA.take 12) ∧
    ¬ Uncompresses (storedZlib letters) letters [] ∧ ¬ Uncompresses (storedZlib letters) letters letterNul := by
  refine ⟨?_, ?_, ?_⟩
  · rintro ⟨n, outBuf, hreturned, -⟩
    rw [UncompressBytes_eq (storedZlib_contract letters)] at hreturned
    have hnone : letters (letterA.take 12) = none := by decide
    exact loop_of_none (storedZlib_contract letters) hnone hreturned
  · rintro ⟨n, outBuf, hreturned, -⟩
    rw [UncompressBytes_eq (storedZlib_contract letters)] at hreturned
    have hnone : letters [] = none := by decide
    exact loop_of_none (storedZlib_contract letters) hnone hreturned
  · rintro ⟨n, outBuf, hreturned, hall⟩
    obtain rfl := hall [65, 0] (by decide)
    rw [UncompressBytes_eq (storedZlib_contract letters)] at hreturned
    exact zero_not_mem_loop hreturned List.not_mem_nil (by decide)

end V2xHub.CARMACloudPlugin
