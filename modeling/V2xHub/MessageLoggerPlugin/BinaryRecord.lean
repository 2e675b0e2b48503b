import V2xHub.CJson.StringText
import Mathlib.Data.Nat.Digits.Defs

/-!
# Binary records

A record is printed as a text of hexadecimal bytes, which are read as numbers again. The loop over the payload goes one round too far:
it prints the terminator and the byte behind it, so every record is one byte longer than its layout.
-/

namespace V2xHub.MessageLoggerPlugin.Binary

/-! ### Texts -/

/-- `std::setfill('0') << std::setw(width) << std::hex` -/
def setw (width n : Nat) : Str :=
  let digits := if n = 0 then [48] else (Nat.digits 16 n).reverse.map CJson.hexDigit
  List.replicate (width - digits.length) 48 ++ digits

/-- `str()[k]`, which is a NUL at the end. -/
def charAt (s : Str) (k : Nat) : UInt8 := s[k]?.getD 0

/-- The first byte of a text. -/
def byte1 (s : Str) : Str := [charAt s 0, charAt s 1]

def byte2 (s : Str) : Str := byte1 s ++ [32, charAt s 2, charAt s 3]

def byte4 (s : Str) : Str := byte2 s ++ [32, charAt s 4, charAt s 5, 32, charAt s 6, charAt s 7]

def bswap16 (n : Nat) : Nat := n % 256 * 256 + n / 256 % 256

def bswap32 (n : Nat) : Nat := bswap16 (n % 65536) * 65536 + bswap16 (n / 65536)

def space : Str := [32]

/-! ### Messages -/

/-- The BSM as it is logged, with the two times that are taken, in milliseconds, and the payload. -/
structure Bsm where
  lat : Int32
  long : Int32
  elev : Int32
  speed : UInt16
  heading : UInt16
  now : Nat
  nowMillis : Nat
  payload : Str

/-- The SPaT likewise; `status` is the C string that its bits are taken for. -/
structure Spat where
  intersectionId : UInt16
  status : Str
  now : Nat
  nowMillis : Nat
  payload : Str

/-- The bits of an `Int32`. -/
def bits (n : Int32) : Nat := n.toBitVec.toNat

def receivetime (now : Nat) : Nat := now / 1000 % 2 ^ 32

/-- In the 32 bits of an integer. -/
def millis (now nowMillis : Nat) : Nat := ((nowMillis - (receivetime now * 1000 % 2 ^ 32 : Nat) : Int) % 2 ^ 32).toNat

def header_size (payload : Str) : Nat := if payload.length % 4 = 0 then payload.length / 2 else payload.length / 2 + 1

/-- `"01"` -/
def direction_hex : Str := [48, 49]

/-- `"00"` -/
def signStatus_hex : Str := [48, 48]

/-- `"03 80 81"` -/
def header_hex : Str := [48, 51, 32, 56, 48, 32, 56, 49]

/-- Behind the elevation there are two blanks. -/
def Bsm.position (m : Bsm) : Str :=
  direction_hex ++ space ++ byte4 (setw 8 (bswap32 (bits m.lat))) ++ space ++ byte4 (setw 8 (bswap32 (bits m.long))) ++ space ++
    (byte4 (setw 8 (bswap32 (bits m.elev))) ++ space) ++ space

def Bsm.metadata (m : Bsm) : Str :=
  m.position ++ byte2 (setw 4 (bswap16 m.speed.toNat)) ++ space ++
    byte2 (setw 4 (bswap16 m.heading.toNat)) ++ space ++ byte4 (setw 8 (bswap32 (receivetime m.now))) ++ space ++
    byte2 (setw 4 (bswap16 (millis m.now m.nowMillis % 2 ^ 16))) ++ space ++ signStatus_hex ++ space ++
    byte2 (setw 4 (bswap16 ((header_size m.payload + 4) % 2 ^ 16))) ++ space ++ header_hex ++ space ++
    byte1 (setw 0 (header_size m.payload))

/-- `std::bitset<8>` of a C string, as the decimal number of its text; `none` if it throws. -/
def interstatus (status : Str) : Option Nat :=
  if (status.take 8).all fun c => c = 48 ∨ c = 49 then
    some ((status.take 8).foldl (fun n c => 10 * n + (if c = 49 then 1 else 0)) 0)
  else none

/-- The milliseconds are not swapped. -/
def Spat.metadata (m : Spat) (status : Nat) : Str :=
  direction_hex ++ space ++ byte2 (setw 4 (bswap16 m.intersectionId.toNat)) ++ space ++ byte1 (setw 2 status) ++ space ++
    byte4 (setw 8 (bswap32 (receivetime m.now))) ++ space ++ byte2 (setw 4 (millis m.now m.nowMillis)) ++ space ++
    signStatus_hex ++ space ++ signStatus_hex ++ space ++ byte2 (setw 4 (bswap16 (header_size m.payload % 2 ^ 16)))

/-- What memory holds that was never written: the byte behind the terminator of a payload, and the elements of an array. -/
structure Memory where
  beyond : UInt8
  garbage : Nat → UInt8

variable (mem : Memory)

/-- The loop over the payload, which is followed by a NUL and whatever comes then. -/
def payloadText (payload : Str) : Str :=
  (List.range (payload.length / 2 + 1)).flatMap fun k =>
    [32, charAt (payload ++ [0, mem.beyond]) (2 * k), charAt (payload ++ [0, mem.beyond]) (2 * k + 1)]

/-- `>> std::hex` until the stream fails or ends. -/
def extract : Nat → Str → List Nat
  | 0, _ => []
  | n + 1, s =>
    let t := s.dropWhile (· = 32)
    let digits := t.takeWhile fun c => (CJson.hexValue c).isSome
    if digits = [] then [0]
    else
      digits.foldl (fun n c => 16 * n + (CJson.hexValue c).getD 0) 0 ::
        if t.drop digits.length = [] then [] else extract n (t.drop digits.length)

def binary_output (text : Str) : List UInt8 :=
  (List.range ((text.length + 1) / 3)).map fun k => ((extract text.length text)[k]?.map UInt8.ofNat).getD (mem.garbage k)

inductive Message where
  | bsm (m : Bsm)
  | spat (m : Spat)

/-- What is appended to the file. -/
def Message.write : Message → List UInt8
  | bsm m => binary_output mem (m.metadata ++ payloadText mem m.payload)
  | spat m =>
    match interstatus m.status with
    | none => []
    | some status => binary_output mem (m.metadata status ++ payloadText mem m.payload)

/-! ### The layout -/

inductive Kind where
  | bsm
  | spat

def Message.kind : Message → Kind
  | bsm _ => .bsm
  | spat _ => .spat

/-- The widths of the fields, the last of which is the length. -/
def Kind.widths : Kind → List Nat
  | bsm => [1, 4, 4, 4, 2, 2, 4, 2, 1, 2, 3, 1]
  | spat => [1, 2, 1, 4, 2, 1, 1, 2]

structure Record where
  fields : List Nat
  payload : List UInt8

def littleEndian (bytes : List UInt8) : Nat := bytes.foldr (fun b n => b.toNat + 256 * n) 0

def parseFields : List Nat → List UInt8 → Option (List Nat × List UInt8)
  | [], bytes => some ([], bytes)
  | w :: widths, bytes =>
    if w ≤ bytes.length then (parseFields widths (bytes.drop w)).map fun r => (littleEndian (bytes.take w) :: r.1, r.2) else none

def parseRecord (kind : Kind) (bytes : List UInt8) : Option (Record × List UInt8) :=
  (parseFields kind.widths bytes).bind fun r =>
    let length := r.1.getLastD 0
    if length ≤ r.2.length then some (⟨r.1, r.2.take length⟩, r.2.drop length) else none

def parseRecords : List Kind → List UInt8 → Option (List Record)
  | [], bytes => if bytes = [] then some [] else none
  | kind :: kinds, bytes => (parseRecord kind bytes).bind fun r => (parseRecords kinds r.2).map (r.1 :: ·)

/-! ### What is expected -/

/-- The bytes of a text of hexadecimal digits. -/
def payloadBytes : Str → List UInt8
  | a :: b :: rest => UInt8.ofNat (16 * (CJson.hexValue a).getD 0 + (CJson.hexValue b).getD 0) :: payloadBytes rest
  | _ => []

def Message.record : Message → Record
  | bsm m =>
    let length := (payloadBytes m.payload).length
    ⟨[1, bits m.lat, bits m.long, bits m.elev, m.speed.toNat, m.heading.toNat, receivetime m.now, m.nowMillis % 1000, 0, length + 4,
      0x818003, length], payloadBytes m.payload⟩
  | spat m =>
    let length := (payloadBytes m.payload).length
    ⟨[1, m.intersectionId.toNat, (charAt m.status 0).toNat, receivetime m.now, m.nowMillis % 1000, 0, 0, length], payloadBytes m.payload⟩

/-- The record comes back, with nothing behind it. -/
def RecordMeets (m : Message) : Prop := parseRecord m.kind (m.write mem) = some (m.record, [])

def Meets (ms : List Message) : Prop :=
  (∀ m ∈ ms, RecordMeets mem m) ∧ parseRecords (ms.map Message.kind) (ms.flatMap (Message.write mem)) = some (ms.map Message.record)

variable {mem}

/-! ### Lengths -/

theorem length_parseFields {widths fields : List Nat} {bytes rest : List UInt8} (h : parseFields widths bytes = some (fields, rest)) :
    bytes.length = widths.sum + rest.length := by
  induction widths generalizing bytes fields with
  | nil =>
    cases h
    simp
  | cons w widths ih =>
    rw [parseFields] at h
    split_ifs at h with hw
    obtain ⟨⟨fields', rest'⟩, hr, heq⟩ := Option.map_eq_some_iff.1 h
    cases heq
    have := ih hr
    rw [List.length_drop] at this
    rw [List.sum_cons]
    omega

theorem length_parseRecord {kind : Kind} {bytes rest : List UInt8} {r : Record} (h : parseRecord kind bytes = some (r, rest)) :
    bytes.length = kind.widths.sum + r.payload.length + rest.length := by
  obtain ⟨⟨fields, behind⟩, hfields, h⟩ := Option.bind_eq_some_iff.1 h
  have hlen := length_parseFields hfields
  dsimp only at h
  split_ifs at h with hroom
  cases h
  rw [List.length_take, List.length_drop]
  omega

theorem length_payloadBytes (payload : Str) : (payloadBytes payload).length = payload.length / 2 := by
  induction payload using payloadBytes.induct with
  | case1 a b rest ih =>
    rw [payloadBytes, List.length_cons, ih, List.length_cons, List.length_cons]
    omega
  | case2 l h =>
    rcases l with _ | ⟨a, _ | ⟨b, l⟩⟩
    · rfl
    · simp [payloadBytes]
    · exact absurd rfl (h a b l)

theorem length_payloadText (payload : Str) : (payloadText mem payload).length = 3 * (payload.length / 2 + 1) := by
  rw [payloadText, List.length_flatMap]
  simp [Nat.mul_comm]

theorem length_binary_output (text : Str) : (binary_output mem text).length = (text.length + 1) / 3 := by
  rw [binary_output, List.length_map, List.length_range]

@[simp] theorem length_byte1 (s : Str) : (byte1 s).length = 2 := rfl

@[simp] theorem length_byte2 (s : Str) : (byte2 s).length = 5 := rfl

@[simp] theorem length_byte4 (s : Str) : (byte4 s).length = 11 := rfl

@[simp] theorem length_space : space.length = 1 := rfl

@[simp] theorem length_direction_hex : direction_hex.length = 2 := rfl

@[simp] theorem length_signStatus_hex : signStatus_hex.length = 2 := rfl

@[simp] theorem length_header_hex : header_hex.length = 8 := rfl

theorem length_position (m : Bsm) : m.position.length = 40 := by
  simp [Bsm.position]

theorem length_bsm (m : Bsm) : m.metadata.length = 90 := by
  simp [Bsm.metadata, length_position]

theorem length_spat (m : Spat) (status : Nat) : (m.metadata status).length = 41 := by
  simp [Spat.metadata]

theorem length_record (m : Message) : m.record.payload.length =
    (match m with | .bsm m => m.payload.length / 2 | .spat m => m.payload.length / 2) := by
  cases m <;> exact length_payloadBytes _

/-- No record comes back: it has one byte too many, or was not written. -/
theorem not_recordMeets (m : Message) : ¬ RecordMeets mem m := by
  intro h
  have hlen := length_parseRecord h
  rw [length_record] at hlen
  cases m with
  | bsm m =>
    rw [Message.write, length_binary_output, List.length_append, length_bsm, length_payloadText] at hlen
    simp [Message.kind, Kind.widths] at hlen
    omega
  | spat m =>
    rw [Message.write] at hlen
    rcases hstatus : interstatus m.status with _ | status
    · rw [hstatus] at hlen
      simp [Message.kind, Kind.widths] at hlen
      omega
    · rw [hstatus] at hlen
      dsimp only at hlen
      rw [length_binary_output, List.length_append, length_spat, length_payloadText] at hlen
      simp [Message.kind, Kind.widths] at hlen
      omega

/-- Only of no records is what was written read back. -/
theorem records_iff (mem : Memory) (ms : List Message) : Meets mem ms ↔ ms = [] := by
  constructor
  · rintro ⟨h, -⟩
    rcases ms with _ | ⟨m, ms⟩
    · rfl
    · exact absurd (h m List.mem_cons_self) (not_recordMeets m)
  · rintro rfl
    exact ⟨fun m hm => absurd hm List.not_mem_nil, rfl⟩

/-- A BSM of forty bytes. -/
theorem not_records : ¬ Meets ⟨0, fun _ => 0⟩
    [.bsm ⟨389566700, -771499120, 430, 100, 7200, 1650468351001, 1650468351001,
      CString.lit "001425004043030280ffdbfba868b3584ec40824646400320032000c888fc834e37fff0aaa960fa0"⟩] := by
  rintro ⟨h, -⟩
  exact not_recordMeets _ (h _ List.mem_cons_self)

end V2xHub.MessageLoggerPlugin.Binary
