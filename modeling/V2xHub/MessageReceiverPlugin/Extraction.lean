import V2xHub.Lib.Occurrence
import V2xHub.RouteableMessage.Payload

/-!
# Extraction of verified messages (`MessageReceiverPlugin.cpp`)

A datagram with a valid signature is searched as a text of hexadecimal digits: of the configured IDs the first one that stands
within the first 60 digits is taken, from where it stands first, and the digits behind it are the length. A message frame is
extracted exactly if its ID, with the digits as they are printed, is configured, no ID that comes before it in the configuration
stands there, the frame is where its ID stands first, at whatever digit this is, and it has less than 4096 bytes
(`extract_frame_iff`).
-/

namespace V2xHub.MessageReceiverPlugin

open RouteableMessage

def IDCHECKLIMIT : Nat := 60

/-- `getline` up to each comma. -/
def getmessageid (messageidstr : Str) : List Str := messageidstr.splitOn 44

/-- `std::string::substr`, for a position within the text. -/
def substr (msg : Str) (pos n : Nat) : Str := (msg.drop pos).take n

/-- `strtol` in base 16, of a text that has digits only. -/
def hexNumber (s : Str) : Nat := Strtol.digitsIn 16 s

/-- `extractedmsg`. The digit 8 stands for a length of two bytes. -/
def extractedmsg (msg : Str) (idloc : Nat) : Str :=
  if msg[idloc + 4]? = some 56 then
    let mlen := (hexNumber (substr msg (idloc + 5) 3) + 4) * 2
    substr msg idloc mlen
  else
    let mlen := (hexNumber (substr msg (idloc + 4) 2) + 3) * 2
    substr msg idloc mlen

/-- `extractedpayload` -/
def packBytes : Str → ByteStream
  | [] => []
  | [a] => [UInt8.ofNat (hexNumber [a])]
  | a :: b :: s => UInt8.ofNat (hexNumber [a, b]) :: packBytes s

/-- The loop over the IDs. Without one the datagram is dropped. -/
def extractFrom (msg : Str) : List Str → Option ByteStream
  | [] => none
  | id :: messageid =>
    match Occurrence.find id msg with
    | some idloc => if idloc < IDCHECKLIMIT then some (packBytes (extractedmsg msg idloc)) else extractFrom msg messageid
    | none => extractFrom msg messageid

/-- What is passed on of a datagram whose signature is valid. The buffer that datagrams are received in, of 4000 bytes, is not
in the model: no frame that comes through it has the 4096 bytes of content that are read wrong. -/
def extract (messageid : List Str) (incoming : ByteStream) : Option ByteStream := extractFrom (byte_stream_encode incoming) messageid

/-! ### Message frames -/

/-- The length of a message frame before its content. -/
def determinant (n : Nat) : ByteStream := if n < 128 then [UInt8.ofNat n] else [UInt8.ofNat (128 + n / 256), UInt8.ofNat n]

structure MessageFrame where
  id : UInt8 × UInt8
  content : ByteStream
  length_lt : content.length < 2 ^ 14

namespace MessageFrame

variable (frame : MessageFrame)

def bytes : ByteStream := frame.id.1 :: frame.id.2 :: (determinant frame.content.length ++ frame.content)

/-- The digits of the ID. -/
def idText : Str := byte_stream_encode [frame.id.1, frame.id.2]

end MessageFrame

variable {msg s : Str} {messageid : List Str} {frame : MessageFrame} {bytes : ByteStream} {idloc : Nat}

/-! ### Digits -/

/-- A character of `byte_stream_encode`. -/
def IsDigit (c : UInt8) : Prop := ∃ d < 16, c = hexDigit (UInt8.ofNat d)

theorem upper_lt (b : UInt8) : (b / 16).toNat < 16 := by
  have := b.toNat_lt
  rw [UInt8.toNat_div]
  show b.toNat / 16 < 16
  omega

theorem lower_lt (b : UInt8) : (b % 16).toNat < 16 := by
  rw [UInt8.toNat_mod]
  exact Nat.mod_lt _ (by decide)

theorem isDigit_upper (b : UInt8) : IsDigit (hexDigit (b / 16)) := ⟨(b / 16).toNat, upper_lt b, by rw [UInt8.ofNat_toNat]⟩

theorem isDigit_lower (b : UInt8) : IsDigit (hexDigit (b % 16)) := ⟨(b % 16).toNat, lower_lt b, by rw [UInt8.ofNat_toNat]⟩

theorem isDigit_encode (bytes : ByteStream) : ∀ c ∈ byte_stream_encode bytes, IsDigit c := by
  induction bytes with
  | nil => exact List.forall_mem_nil _
  | cons b bytes ih =>
    rw [encode_cons, List.forall_mem_cons, List.forall_mem_cons]
    exact ⟨isDigit_upper b, isDigit_lower b, ih⟩

theorem digitValue_hexDigit {d : Nat} (h : d < 16) : Strtol.digitValue (hexDigit (UInt8.ofNat d)) = d := by
  have hall : ∀ d < 16, Strtol.digitValue (hexDigit (UInt8.ofNat d)) = d := by decide
  exact hall d h

theorem hexNumber_eq (h : ∀ c ∈ s, IsDigit c) : hexNumber s = s.foldl (fun n c => 16 * n + Strtol.digitValue c) 0 := by
  have htake : (s.takeWhile fun c => decide (Strtol.digitValue c < 16)) = s := by
    rw [List.takeWhile_eq_self_iff]
    intro c hc
    obtain ⟨d, hd, rfl⟩ := h c hc
    rw [digitValue_hexDigit hd]
    exact decide_eq_true hd
  rw [hexNumber, Strtol.digitsIn, htake]

theorem digitValue_upper (b : UInt8) : Strtol.digitValue (hexDigit (b / 16)) = b.toNat / 16 := by
  have h := digitValue_hexDigit (upper_lt b)
  rw [UInt8.ofNat_toNat] at h
  exact h.trans (UInt8.toNat_div b 16)

theorem digitValue_lower (b : UInt8) : Strtol.digitValue (hexDigit (b % 16)) = b.toNat % 16 := by
  have h := digitValue_hexDigit (lower_lt b)
  rw [UInt8.ofNat_toNat] at h
  exact h.trans (UInt8.toNat_mod b 16)

theorem hexDigit_eq_eight (b : UInt8) : hexDigit (b / 16) = 56 ↔ b.toNat / 16 = 8 := by
  constructor
  · intro h
    exact (digitValue_upper b).symm.trans (congrArg Strtol.digitValue h)
  · intro h
    have heq : b / 16 = 8 := UInt8.toNat_inj.mp ((UInt8.toNat_div b 16).trans h)
    rw [heq]
    rfl

theorem hexNumber_byte (b : UInt8) : hexNumber [hexDigit (b / 16), hexDigit (b % 16)] = b.toNat := by
  have hdigits : ∀ d ∈ [hexDigit (b / 16), hexDigit (b % 16)], IsDigit d :=
    List.forall_mem_cons.mpr ⟨isDigit_upper b, List.forall_mem_singleton.mpr (isDigit_lower b)⟩
  rw [hexNumber_eq hdigits, List.foldl_cons, List.foldl_cons, List.foldl_nil, digitValue_upper, digitValue_lower]
  omega

theorem hexNumber_three (b c : UInt8) :
    hexNumber [hexDigit (b % 16), hexDigit (c / 16), hexDigit (c % 16)] = b.toNat % 16 * 256 + c.toNat := by
  have hdigits : ∀ d ∈ [hexDigit (b % 16), hexDigit (c / 16), hexDigit (c % 16)], IsDigit d :=
    List.forall_mem_cons.mpr
      ⟨isDigit_lower b, List.forall_mem_cons.mpr ⟨isDigit_upper c, List.forall_mem_singleton.mpr (isDigit_lower c)⟩⟩
  rw [hexNumber_eq hdigits, List.foldl_cons, List.foldl_cons, List.foldl_cons, List.foldl_nil, digitValue_lower, digitValue_upper,
    digitValue_lower]
  omega

/-- The two digits of a byte that was read. -/
theorem encode_pair {a b : UInt8} (ha : IsDigit a) (hb : IsDigit b) :
    byte_stream_encode [UInt8.ofNat (hexNumber [a, b])] = [a, b] := by
  have hnumber : hexNumber [a, b] = 16 * Strtol.digitValue a + Strtol.digitValue b := by
    rw [hexNumber_eq (List.forall_mem_cons.mpr ⟨ha, List.forall_mem_singleton.mpr hb⟩), List.foldl_cons, List.foldl_cons,
      List.foldl_nil, Nat.mul_zero, Nat.zero_add]
  obtain ⟨d, hd, rfl⟩ := ha
  obtain ⟨e, he, rfl⟩ := hb
  rw [hnumber, digitValue_hexDigit hd, digitValue_hexDigit he, encode_cons]
  have hsum : (UInt8.ofNat (16 * d + e)).toNat = 16 * d + e := Nat.mod_eq_of_lt (by omega)
  have hdigit : ∀ n < 16, (UInt8.ofNat n).toNat = n := fun n hn => Nat.mod_eq_of_lt (by omega)
  have hupper : UInt8.ofNat (16 * d + e) / 16 = UInt8.ofNat d := by
    refine UInt8.toNat_inj.mp ((UInt8.toNat_div _ 16).trans ?_)
    rw [hsum, hdigit d hd]
    show (16 * d + e) / 16 = d
    omega
  have hlower : UInt8.ofNat (16 * d + e) % 16 = UInt8.ofNat e := by
    refine UInt8.toNat_inj.mp ((UInt8.toNat_mod _ 16).trans ?_)
    rw [hsum, hdigit e he]
    show (16 * d + e) % 16 = e
    omega
  rw [hupper, hlower]
  rfl

theorem packBytes_encode (bytes : ByteStream) : packBytes (byte_stream_encode bytes) = bytes := by
  induction bytes with
  | nil => rfl
  | cons b bytes ih => rw [encode_cons, packBytes, ih, hexNumber_byte, UInt8.ofNat_toNat]

theorem length_packBytes (s : Str) : (packBytes s).length = (s.length + 1) / 2 := by
  induction s using packBytes.induct with
  | case1 => rfl
  | case2 a => rw [packBytes, List.length_singleton, List.length_singleton]
  | case3 a b s ih =>
    rw [packBytes, List.length_cons, ih, List.length_cons, List.length_cons]
    omega

/-- What was packed has its digits, but for a single last one. -/
theorem take_encode_packBytes (h : ∀ c ∈ s, IsDigit c) (k : Nat) (hk : 2 * k ≤ s.length) :
    (byte_stream_encode (packBytes s)).take (2 * k) = s.take (2 * k) := by
  induction s using packBytes.induct generalizing k with
  | case1 => rfl
  | case2 a =>
    obtain rfl : k = 0 := by
      rw [List.length_singleton] at hk
      omega
    rfl
  | case3 a b s ih =>
    obtain ⟨ha, hb, hs⟩ : IsDigit a ∧ IsDigit b ∧ ∀ c ∈ s, IsDigit c := by
      rwa [List.forall_mem_cons, List.forall_mem_cons] at h
    cases k with
    | zero => rfl
    | succ k =>
      have hpair : byte_stream_encode (packBytes (a :: b :: s)) = [a, b] ++ byte_stream_encode (packBytes s) :=
        calc byte_stream_encode (packBytes (a :: b :: s))
            = byte_stream_encode ([UInt8.ofNat (hexNumber [a, b])] ++ packBytes s) := by rw [packBytes, List.singleton_append]
          _ = [a, b] ++ byte_stream_encode (packBytes s) := by rw [encode_append, encode_pair ha hb]
      have htwo : 2 * (k + 1) = 2 * k + 1 + 1 := by ring
      rw [List.length_cons, List.length_cons] at hk
      rw [hpair, htwo, List.cons_append, List.cons_append, List.take_succ_cons, List.take_succ_cons, List.take_succ_cons,
        List.take_succ_cons, List.nil_append, ih hs k (by omega)]

/-! ### The search -/

/-- The first ID that stands within the limit decides. -/
theorem extractFrom_eq_some (h4 : ∀ id ∈ messageid, id.length = 4) :
    extractFrom msg messageid = some bytes ↔ ∃ before id after, messageid = before ++ id :: after ∧
      (∀ s ∈ before, ∀ j < IDCHECKLIMIT, ¬ s <+: msg.drop j) ∧
      ∃ idloc < IDCHECKLIMIT, Occurrence.FirstAt id msg idloc ∧ packBytes (extractedmsg msg idloc) = bytes := by
  induction messageid with
  | nil => simp [extractFrom]
  | cons id messageid ih =>
    obtain ⟨hid, hrest⟩ := List.forall_mem_cons.mp h4
    have hne : id ≠ [] := by
      rintro rfl
      exact absurd hid (by decide)
    have hskip (hno : ∀ j < IDCHECKLIMIT, ¬ id <+: msg.drop j) :
        (∃ before id' after, messageid = before ++ id' :: after ∧ (∀ s ∈ before, ∀ j < IDCHECKLIMIT, ¬ s <+: msg.drop j) ∧
          ∃ idloc < IDCHECKLIMIT, Occurrence.FirstAt id' msg idloc ∧ packBytes (extractedmsg msg idloc) = bytes) ↔
        ∃ before id' after, id :: messageid = before ++ id' :: after ∧
          (∀ s ∈ before, ∀ j < IDCHECKLIMIT, ¬ s <+: msg.drop j) ∧
          ∃ idloc < IDCHECKLIMIT, Occurrence.FirstAt id' msg idloc ∧ packBytes (extractedmsg msg idloc) = bytes := by
      constructor
      · rintro ⟨before, id', after, rfl, hbefore, hat⟩
        exact ⟨id :: before, id', after, rfl, List.forall_mem_cons.mpr ⟨hno, hbefore⟩, hat⟩
      · rintro ⟨before, id', after, hlist, hbefore, idloc, hlt, hfirst, hbytes⟩
        cases before with
        | nil =>
          obtain ⟨rfl, -⟩ := List.cons.inj hlist
          exact absurd hfirst.1 (hno idloc hlt)
        | cons s before =>
          obtain ⟨rfl, rfl⟩ := List.cons.inj hlist
          exact ⟨before, id', after, rfl, (List.forall_mem_cons.mp hbefore).2, idloc, hlt, hfirst, hbytes⟩
    rw [extractFrom]
    cases hfind : Occurrence.find id msg with
    | none => exact (ih hrest).trans (hskip fun j _ => (Occurrence.find_eq_none_iff hne).mp hfind j)
    | some idloc =>
      have hfirst := (Occurrence.find_eq_some_iff hne).mp hfind
      dsimp only
      split_ifs with hlt
      · constructor
        · intro hbytes
          exact ⟨[], id, messageid, rfl, List.forall_mem_nil _, idloc, hlt, hfirst, Option.some.inj hbytes⟩
        · rintro ⟨before, id', after, hlist, hbefore, idloc', -, hfirst', hbytes⟩
          cases before with
          | nil =>
            obtain ⟨rfl, -⟩ := List.cons.inj hlist
            have hsame := ((Occurrence.find_eq_some_iff hne).mpr hfirst').symm.trans hfind
            rw [← Option.some.inj hsame, hbytes]
          | cons s before =>
            obtain ⟨rfl, -⟩ := List.cons.inj hlist
            exact absurd hfirst.1 (hbefore id List.mem_cons_self idloc hlt)
      · exact (ih hrest).trans (hskip fun j hj hat => hfirst.2 j (by omega) hat)

/-! ### The length -/

/-- How many digits are extracted from where the ID stands. -/
def mlen (found : Str) : Nat :=
  if found[4]? = some 56 then (hexNumber ((found.drop 5).take 3) + 4) * 2 else (hexNumber ((found.drop 4).take 2) + 3) * 2

theorem extractedmsg_eq (msg : Str) (idloc : Nat) : extractedmsg msg idloc = (msg.drop idloc).take (mlen (msg.drop idloc)) := by
  unfold extractedmsg mlen substr
  rw [List.getElem?_drop, List.drop_drop, List.drop_drop]
  split_ifs
  · rfl
  · rfl

theorem even_mlen (found : Str) : 2 ∣ mlen found := by
  rw [mlen]
  split_ifs
  · exact Nat.dvd_mul_left 2 _
  · exact Nat.dvd_mul_left 2 _

namespace MessageFrame

theorem length_bytes : frame.bytes.length = frame.content.length + if frame.content.length < 128 then 3 else 4 := by
  rw [bytes, List.length_cons, List.length_cons, List.length_append, determinant]
  split_ifs
  · rw [List.length_singleton]
    omega
  · rw [List.length_cons, List.length_singleton]
    omega

theorem encode_bytes : byte_stream_encode frame.bytes =
    frame.idText ++ (byte_stream_encode (determinant frame.content.length) ++ byte_stream_encode frame.content) := by
  rw [← encode_append]
  exact encode_append [frame.id.1, frame.id.2] _

theorem length_idText : frame.idText.length = 4 := rfl

/-- Where the frame is, all of it is extracted unless the first digit of its length is greater than 8. -/
theorem mlen_eq (rest : Str) :
    mlen (byte_stream_encode frame.bytes ++ rest) =
      if frame.content.length < 4096 then 2 * frame.bytes.length else 2 * (131 + frame.content.length / 256) := by
  have hlt := frame.length_lt
  rw [length_bytes, encode_bytes, List.append_assoc, List.append_assoc]
  by_cases hshort : frame.content.length < 128
  · have hnat : (UInt8.ofNat frame.content.length).toNat = frame.content.length := Nat.mod_eq_of_lt (by omega)
    have hdigit : hexDigit (UInt8.ofNat frame.content.length / 16) ≠ 56 := by
      rw [Ne, hexDigit_eq_eight, hnat]
      omega
    rw [determinant, if_pos hshort, if_pos hshort, encode_cons, mlen]
    show (if some (hexDigit (UInt8.ofNat frame.content.length / 16)) = some 56 then _
      else (hexNumber [hexDigit (UInt8.ofNat frame.content.length / 16),
        hexDigit (UInt8.ofNat frame.content.length % 16)] + 3) * 2) = _
    rw [if_neg fun h => hdigit (Option.some.inj h), hexNumber_byte, hnat, if_pos (by omega)]
    omega
  · have hupper : (UInt8.ofNat (128 + frame.content.length / 256)).toNat = 128 + frame.content.length / 256 :=
      Nat.mod_eq_of_lt (by omega)
    have hlower : (UInt8.ofNat frame.content.length).toNat = frame.content.length % 256 := rfl
    rw [determinant, if_neg hshort, if_neg hshort, encode_cons, encode_cons, mlen]
    show (if some (hexDigit (UInt8.ofNat (128 + frame.content.length / 256) / 16)) = some 56 then
        (hexNumber [hexDigit (UInt8.ofNat (128 + frame.content.length / 256) % 16), hexDigit (UInt8.ofNat frame.content.length / 16),
          hexDigit (UInt8.ofNat frame.content.length % 16)] + 4) * 2
      else (hexNumber [hexDigit (UInt8.ofNat (128 + frame.content.length / 256) / 16),
        hexDigit (UInt8.ofNat (128 + frame.content.length / 256) % 16)] + 3) * 2) = _
    have height : some (hexDigit (UInt8.ofNat (128 + frame.content.length / 256) / 16)) = some 56 ↔ frame.content.length < 4096 := by
      rw [Option.some.injEq, hexDigit_eq_eight, hupper]
      omega
    rw [hexNumber_byte, hexNumber_three, hupper, hlower]
    by_cases h4096 : frame.content.length < 4096
    · rw [if_pos (height.mpr h4096), if_pos h4096]
      omega
    · rw [if_neg fun h => h4096 (height.mp h), if_neg h4096]
      omega

end MessageFrame

/-! ### Extraction -/

/-- The digits from where the frame is extracted are those of the frame. -/
theorem prefix_of_extracted {found : Str} (hdigits : ∀ c ∈ found, IsDigit c) (hlong : 2 * frame.bytes.length ≤ found.length)
    (h : packBytes (found.take (mlen found)) = frame.bytes) : byte_stream_encode frame.bytes <+: found := by
  obtain ⟨k, hk⟩ := even_mlen found
  have hlength := congrArg List.length h
  rw [length_packBytes, List.length_take] at hlength
  have hall : (found.take (mlen found)).length = 2 * frame.bytes.length := by
    rw [List.length_take]
    omega
  have htake := take_encode_packBytes (fun c hc => hdigits c (List.mem_of_mem_take hc)) frame.bytes.length hall.ge
  rw [h, ← length_encode, List.take_length, length_encode, ← hall, List.take_length] at htake
  rw [htake]
  exact List.take_prefix _ _

/-- The ID that is found is that of the frame. -/
theorem idText_of_extracted {found id : Str} (hdigits : ∀ c ∈ found, IsDigit c) (hid : id.length = 4) (hstands : id <+: found)
    (h : packBytes (found.take (mlen found)) = frame.bytes) : id = frame.idText := by
  have hlength := congrArg List.length h
  have hbytes := frame.length_bytes
  rw [length_packBytes] at hlength
  have hlong : 2 * 2 ≤ (found.take (mlen found)).length := by
    split_ifs at hbytes
    all_goals omega
  have htake := take_encode_packBytes (fun c hc => hdigits c (List.mem_of_mem_take hc)) 2 hlong
  obtain ⟨rest, rfl⟩ := hstands
  have hmin : 2 * 2 ≤ mlen (id ++ rest) := le_trans hlong (List.length_take_le _ _)
  rw [h, MessageFrame.encode_bytes, List.take_take, min_eq_left hmin, List.take_left' hid,
    List.take_left' MessageFrame.length_idText] at htake
  exact htake.symm

/-- Of 4096 bytes or more only the start is extracted. -/
theorem content_lt_of_extracted {found : Str} (hstands : byte_stream_encode frame.bytes <+: found)
    (h : packBytes (found.take (mlen found)) = frame.bytes) : frame.content.length < 4096 := by
  by_contra hge
  obtain ⟨rest, rfl⟩ := hstands
  have hlength := congrArg List.length h
  have hbytes := frame.length_bytes
  rw [length_packBytes, List.length_take, frame.mlen_eq, if_neg hge] at hlength
  split_ifs at hbytes
  all_goals omega

/-- A message frame that starts within the first 30 bytes is extracted, and nothing else, exactly if it has less than 4096
bytes, its ID is configured as it is printed, no ID before this one stands within the limit, and the frame is where its ID
stands first. -/
theorem extract_frame_iff (messageid : List Str) (h4 : ∀ id ∈ messageid, id.length = 4) (header trailer : ByteStream)
    (hheader : header.length < 30) (frame : MessageFrame) :
    extract messageid (header ++ frame.bytes ++ trailer) = some frame.bytes ↔
      frame.content.length < 4096 ∧ ∃ before after, messageid = before ++ frame.idText :: after ∧
        (∀ id ∈ before, ∀ j < IDCHECKLIMIT, ¬ id <+: (byte_stream_encode (header ++ frame.bytes ++ trailer)).drop j) ∧
        ∃ idloc, byte_stream_encode frame.bytes <+: (byte_stream_encode (header ++ frame.bytes ++ trailer)).drop idloc ∧
          ∀ j < idloc, ¬ frame.idText <+: (byte_stream_encode (header ++ frame.bytes ++ trailer)).drop j := by
  have hmsg : byte_stream_encode (header ++ frame.bytes ++ trailer) =
      byte_stream_encode header ++ (byte_stream_encode frame.bytes ++ byte_stream_encode trailer) := by
    rw [encode_append, encode_append, List.append_assoc]
  have hdigits := isDigit_encode (header ++ frame.bytes ++ trailer)
  have hidText : frame.idText <+: byte_stream_encode frame.bytes := by
    rw [MessageFrame.encode_bytes]
    exact List.prefix_append _ _
  -- the ID stands at least where the frame starts
  have hstart : frame.idText <+: (byte_stream_encode (header ++ frame.bytes ++ trailer)).drop (2 * header.length) := by
    rw [hmsg, ← length_encode, List.drop_left]
    exact hidText.trans (List.prefix_append _ _)
  rw [extract, extractFrom_eq_some h4]
  constructor
  · rintro ⟨before, id, after, hlist, hbefore, idloc, hlt, hfirst, hbytes⟩
    rw [extractedmsg_eq] at hbytes
    have hfound : ∀ c ∈ (byte_stream_encode (header ++ frame.bytes ++ trailer)).drop idloc, IsDigit c :=
      fun c hc => hdigits c (List.mem_of_mem_drop hc)
    obtain rfl := idText_of_extracted hfound (h4 id (by rw [hlist]; simp)) hfirst.1 hbytes
    have hle : idloc ≤ 2 * header.length := not_lt.mp fun h => hfirst.2 _ h hstart
    have hlong : 2 * frame.bytes.length ≤ ((byte_stream_encode (header ++ frame.bytes ++ trailer)).drop idloc).length := by
      rw [List.length_drop, length_encode, List.length_append, List.length_append]
      omega
    have hstands := prefix_of_extracted hfound hlong hbytes
    exact ⟨content_lt_of_extracted hstands hbytes, before, after, hlist, hbefore, idloc, hstands, hfirst.2⟩
  · rintro ⟨hshort, before, after, hlist, hbefore, idloc, hstands, hfirst⟩
    have hle : idloc ≤ 2 * header.length := not_lt.mp fun h => hfirst _ h hstart
    refine ⟨before, frame.idText, after, hlist, hbefore, idloc, ?_, ⟨hidText.trans hstands, hfirst⟩, ?_⟩
    · rw [IDCHECKLIMIT]
      omega
    · obtain ⟨rest, hrest⟩ := hstands
      rw [extractedmsg_eq, ← hrest, frame.mlen_eq rest, if_pos hshort, ← length_encode, List.take_left, packBytes_encode]

/-- The IDs of the manifest. -/
def manifestIds : Str := CString.lit "0012,0013,0014,001D,00F0,00F1,00F2,00F3,00F4,00F5,00F6,00F7"

/-- A basic safety message of two bytes. -/
def safetyMessage : MessageFrame := ⟨(0x00, 0x14), [0xAB, 0xCD], by decide⟩

theorem extract_safetyMessage :
    extract (getmessageid manifestIds) ([0x03, 0x81] ++ safetyMessage.bytes ++ [0x40]) = some safetyMessage.bytes := by
  refine (extract_frame_iff (getmessageid manifestIds) (by decide +kernel) [0x03, 0x81] [0x40] (by decide) safetyMessage).mpr
    ⟨by decide, [CString.lit "0012", CString.lit "0013"], (getmessageid manifestIds).drop 3, by decide +kernel, by decide +kernel, 4,
      by decide +kernel, by decide +kernel⟩

/-- The digits 0012 are in the middle of the bytes of a header. -/
theorem not_extract_safetyMessage :
    extract (getmessageid manifestIds) ([0x30, 0x01, 0x2F] ++ safetyMessage.bytes ++ []) ≠ some safetyMessage.bytes ∧
      extract (getmessageid manifestIds) ((⟨(0x00, 0x1D), [0xAB], by decide⟩ : MessageFrame).bytes) = none := by
  decide +kernel

end V2xHub.MessageReceiverPlugin
