import V2xHub.Rtcm.Rtcm3
import Mathlib.Data.List.TakeWhile

/-!
# The search for a frame

What `RTCM3Message::set_contents` does to any bytes. The search ends in its first round, except where the first preamble starts a
complete frame with another parity: then the bytes of the parity, which were never taken out, are inserted once more and only the
preamble is erased, so that the buffer is two bytes longer and the search may go on forever.
-/

namespace V2xHub.Rtcm

open BitPack

namespace RTCM3Message

/-! ### Frames in the bytes -/

/-- The length of the payload behind a preamble. -/
def announced (b : ByteStream) : Nat := (b.getD 1 0).toNat % 4 * 256 + (b.getD 2 0).toNat

/-- The three bytes behind the payload. -/
def parityOf (b : ByteStream) : Nat :=
  (b.getD (announced b + 3) 0).toNat * 2 ^ 16 + (b.getD (announced b + 4) 0).toNat * 2 ^ 8 + (b.getD (announced b + 5) 0).toNat

def Complete (b : ByteStream) : Prop := b.head? = some defaultPreamble ∧ announced b + 6 ≤ b.length

def Matching (b : ByteStream) : Prop := parityOf b = (crc24q (b.take (announced b + 3))).toNat

instance decidableMatching (b : ByteStream) : Decidable (Matching b) := inferInstanceAs (Decidable (_ = _))

/-- A complete frame with the right parity, of a payload of any length. -/
def StartsFrame (b : ByteStream) : Prop := Complete b ∧ Matching b

def ContainsFrame (bytes : ByteStream) : Prop := ∃ b, b <:+ bytes ∧ StartsFrame b

/-- The message after some rounds that all end with a retry. -/
def afterRetries : Nat → RTCM3Message → Option RTCM3Message
  | 0, m => some m
  | k + 1, m =>
    match m.searchRound with
    | (m, .retry) => afterRetries k m
    | _ => none

/-- The search ends, with a buffer that was never longer than the bytes, and with a valid message iff there is a frame. While a
round is tried again the buffer is one byte longer than after it, since the preamble is erased behind the insertion. -/
structure SearchEnds (bytes : ByteStream) : Prop where
  terminates : ∃ fuel m, ({} : RTCM3Message).set_contents fuel bytes = some m
  bounded : ∀ k m m' round, afterRetries k { bytes := bytes } = some m → m.searchRound = (m', round) →
    m'.bytes.length + (if round = .retry then 1 else 0) ≤ bytes.length
  valid_iff : ∀ fuel m, ({} : RTCM3Message).set_contents fuel bytes = some m → (m.is_Valid = true ↔ ContainsFrame bytes)

/-- The bytes from the first preamble on. -/
def fromPreamble (bytes : ByteStream) : ByteStream := bytes.dropWhile (· ≠ defaultPreamble)

/-! ### One round -/

variable {m : RTCM3Message} {b bytes : ByteStream}

/-- The attributes in three bytes. -/
theorem assignBytes_three {attrs : List Nat} (hcount : datamgr.countWords attrs = 3) (x y z : UInt8) (rest : ByteStream) :
    datamgr.assignBytes (x :: y :: z :: rest) attrs [] =
      some (unpack attrs (x.toNat * 2 ^ 16 + y.toNat * 2 ^ 8 + z.toNat), []) := by
  have hload : datamgr.loadData (x :: y :: z :: rest) 3 [] = [x.toNat, y.toNat, z.toNat] := loadData_append [x, y, z] rest []
  have henough : datamgr.countWords attrs ≤ [x.toNat, y.toNat, z.toNat].length := Nat.le_of_eq hcount
  have hassign := RtcmDataManager.assignData_eq henough
  have hpack : pack (List.replicate 3 datamgr.rtcm_word) ([x.toNat, y.toNat, z.toNat].map (· % 2 ^ datamgr.rtcm_word)) =
      x.toNat * 2 ^ 16 + y.toNat * 2 ^ 8 + z.toNat := by
    have hx := x.toNat_lt
    have hy := y.toNat_lt
    have hz := z.toNat_lt
    have hword : datamgr.rtcm_word = 8 := rfl
    simp only [hword, List.replicate, pack, List.map_cons, List.map_nil, List.sum_cons, List.sum_nil]
    omega
  rw [hcount] at hassign
  rw [RtcmDataManager.assignBytes, hcount, hload, hassign]
  exact congrArg (fun value => some (unpack attrs value, _)) hpack

theorem assignBytes_header_three (x y z : UInt8) (rest : ByteStream) :
    datamgr.assignBytes (x :: y :: z :: rest) headerAttrs [] =
      some ([x.toNat, y.toNat / 4, announced (x :: y :: z :: rest)], []) := by
  have hx := x.toNat_lt
  have hy := y.toNat_lt
  have hz := z.toNat_lt
  rw [assignBytes_three rfl]
  simp only [headerAttrs, unpack, List.sum_cons, List.sum_nil, announced, List.getD_cons_succ, List.getD_cons_zero, Option.some.injEq,
    Prod.mk.injEq, List.cons.injEq, and_true]
  refine ⟨?_, ?_, ?_⟩
  · omega
  · omega
  · omega

theorem exists_three (h : 3 ≤ b.length) : ∃ x y z rest, b = x :: y :: z :: rest := by
  rcases b with _ | ⟨x, _ | ⟨y, _ | ⟨z, rest⟩⟩⟩
  · exact absurd h (by decide : ¬ 3 ≤ 0)
  · exact absurd h (by decide : ¬ 3 ≤ 1)
  · exact absurd h (by decide : ¬ 3 ≤ 2)
  · exact ⟨x, y, z, rest, rfl⟩

theorem getD_drop (b : ByteStream) (n k : Nat) : b.getD (n + k) 0 = (b.drop n).getD k 0 := by
  rw [List.getD_eq_getElem?_getD, List.getD_eq_getElem?_getD, List.getElem?_drop]

theorem parityOf_eq {x y z : UInt8} {rest : ByteStream} (hdrop : b.drop (announced b + 3) = x :: y :: z :: rest) :
    parityOf b = x.toNat * 2 ^ 16 + y.toNat * 2 ^ 8 + z.toNat := by
  rw [parityOf, ← Nat.add_zero (announced b + 3), getD_drop b _ 0, getD_drop b (announced b + 3) 1,
    getD_drop b (announced b + 3) 2, hdrop]
  rfl

theorem assignBytes_parity (hlength : announced b + 6 ≤ b.length) :
    datamgr.assignBytes ((b.drop (announced b + 3)).take 3) crcAttrs [] = some ([parityOf b], []) := by
  obtain ⟨x, y, z, rest, hdrop⟩ : ∃ x y z rest, b.drop (announced b + 3) = x :: y :: z :: rest := by
    refine exists_three ?_
    rw [List.length_drop]
    omega
  have hlt : x.toNat * 2 ^ 16 + y.toNat * 2 ^ 8 + z.toNat < 2 ^ 24 := by
    have hx := x.toNat_lt
    have hy := y.toNat_lt
    have hz := z.toNat_lt
    omega
  have htake : (b.drop (announced b + 3)).take 3 = [x, y, z] := by
    rw [hdrop]
    rfl
  rw [htake, assignBytes_three rfl, parityOf_eq hdrop]
  simp only [crcAttrs, unpack, List.sum_nil, Nat.pow_zero, Nat.div_one, Nat.mod_eq_of_lt hlt]

theorem fromPreamble_cons {x : UInt8} (h : fromPreamble bytes = x :: b) : x = defaultPreamble := by
  have hhead := List.head?_dropWhile_not (· ≠ defaultPreamble) bytes
  rw [← fromPreamble, h] at hhead
  exact not_not.1 (of_decide_eq_false hhead)

/-- The message after the header and the parity of the frame were assigned. -/
def assigned (m : RTCM3Message) (b : ByteStream) : RTCM3Message :=
  { m with
    preamble := defaultPreamble.toNat
    reserved := (b.getD 1 0).toNat / 4
    messageLength := announced b
    crc := parityOf b
    bytes := b
    data := [] }

/-- A round without a complete frame. -/
theorem searchRound_short (hdata : m.data = []) (hshort : ¬ announced (fromPreamble m.bytes) + 6 ≤ (fromPreamble m.bytes).length) :
    ∃ m', m.searchRound = (m', .stop) ∧ m'.bytes = fromPreamble m.bytes := by
  have hheaderBytes : headerBytes = 3 := rfl
  have hcrcBytes : crcBytes = 3 := rfl
  have hconsumed : datamgr.wordSize * datamgr.countWords headerAttrs = 3 := rfl
  by_cases hheader : 3 ≤ (fromPreamble m.bytes).length
  · obtain ⟨x, y, z, rest, hb⟩ := exists_three hheader
    rw [hb] at hshort hheader
    have hdrop : m.bytes.dropWhile (· ≠ defaultPreamble) = x :: y :: z :: rest := hb
    refine ⟨{ m.assigned (x :: y :: z :: rest) with preamble := x.toNat, crc := m.crc }, ?_, hb.symm⟩
    unfold searchRound
    rw [hdrop]
    dsimp only
    rw [hheaderBytes, if_neg (Nat.not_lt.2 hheader), hdata, assignBytes_header_three]
    dsimp only
    rw [hconsumed, hcrcBytes, if_pos (by omega)]
    rfl
  · refine ⟨{ m with bytes := fromPreamble m.bytes }, ?_, rfl⟩
    unfold searchRound
    rw [hheaderBytes]
    exact if_pos (Nat.not_le.1 hheader)

/-- The bytes of the parity inserted before themselves, and the preamble erased. -/
def inserted (b : ByteStream) : ByteStream :=
  (b.take (announced b + 3) ++ (b.drop (announced b + 3)).take 3 ++ b.drop (announced b + 3)).drop 1

theorem check_Parity_assigned (hlength : announced b + 6 ≤ b.length) : (m.assigned b).check_Parity b = decide (Matching b) := by
  have hsize : (m.assigned b).size = announced b + 6 := Nat.add_comm ..
  have hcrcBytes : crcBytes = 3 := rfl
  rw [check_Parity, hsize, if_neg (Nat.not_lt.2 hlength), get_Parity, hsize, if_pos hlength, hcrcBytes, crc24q_hash_eq]
  rfl

/-- A round with a complete frame. -/
theorem searchRound_complete (hdata : m.data = []) (hcomplete : Complete (fromPreamble m.bytes)) :
    m.searchRound = if Matching (fromPreamble m.bytes) then (m.assigned (fromPreamble m.bytes), .found)
      else ({ m.assigned (fromPreamble m.bytes) with bytes := inserted (fromPreamble m.bytes) }, .retry) := by
  have hheaderBytes : headerBytes = 3 := rfl
  have hcrcBytes : crcBytes = 3 := rfl
  have hconsumed : datamgr.wordSize * datamgr.countWords headerAttrs = 3 := rfl
  obtain ⟨hhead, hlength⟩ := hcomplete
  obtain ⟨x, y, z, rest, hb⟩ := exists_three (by omega : 3 ≤ (fromPreamble m.bytes).length)
  obtain rfl := fromPreamble_cons hb
  have hparity := assignBytes_parity hlength
  have hcheck := check_Parity_assigned (m := m) hlength
  have hdrop : m.bytes.dropWhile (· ≠ defaultPreamble) = defaultPreamble :: y :: z :: rest := hb
  rw [hb] at hlength hparity hcheck ⊢
  unfold searchRound
  rw [hdrop]
  dsimp only
  rw [hheaderBytes, if_neg (by omega), hdata, assignBytes_header_three]
  dsimp only
  rw [hconsumed, hcrcBytes, if_neg (by omega), Nat.add_comm 3 (announced _), hparity]
  dsimp only
  refine ite_congr (propext ?_) (fun _ => rfl) fun _ => rfl
  exact (and_iff_right rfl).trans ((Bool.eq_iff_iff.1 hcheck).trans decide_eq_true_iff)

/-! ### What the first round finds -/

/-- A complete frame that has a message number is a frame. -/
theorem exists_frame (h : StartsFrame b) (hle : 3 ≤ announced b) : ∃ (f : Frame) (after : ByteStream), b = f.bytes ++ after := by
  obtain ⟨⟨hhead, hlength⟩, hmatching⟩ := h
  obtain ⟨x, y, z, rest, rfl⟩ := exists_three (by omega : 3 ≤ b.length)
  obtain rfl := Option.some.inj hhead
  obtain ⟨n, hn⟩ : ∃ n, announced (defaultPreamble :: y :: z :: rest) = n := ⟨_, rfl⟩
  have hy := y.toNat_lt
  have hz := z.toNat_lt
  have hsum : y.toNat % 4 * 256 + z.toNat = n := hn
  rw [Matching, hn] at hmatching
  rw [hn] at hle hlength
  rw [List.length_cons, List.length_cons, List.length_cons] at hlength
  obtain ⟨u, v, w, after, hdrop⟩ : ∃ u v w after, rest.drop n = u :: v :: w :: after := by
    refine exists_three ?_
    rw [List.length_drop]
    omega
  have hpayload : (rest.take n).length = n := by
    rw [List.length_take]
    omega
  let f : Frame := ⟨y.toNat / 4, rest.take n, by omega, by omega, by omega⟩
  have hheader : f.header = [defaultPreamble, y, z] := by
    have hreserved : y.toNat / 4 * 4 + n / 256 = y.toNat := by omega
    have hlow : UInt8.ofNat n = z := by
      apply UInt8.toNat_inj.1
      rw [UInt8.toNat_ofNat']
      omega
    show [0xD3, UInt8.ofNat (y.toNat / 4 * 4 + (rest.take n).length / 256), UInt8.ofNat (rest.take n).length] = _
    rw [hpayload, hreserved, hlow, UInt8.ofNat_toNat]
    rfl
  have hparity : f.parity.toNat = u.toNat * 2 ^ 16 + v.toNat * 2 ^ 8 + w.toNat := by
    have hbody : f.header ++ f.payload = (defaultPreamble :: y :: z :: rest).take (n + 3) := by
      rw [hheader]
      rfl
    rw [Frame.parity, hbody, ← hmatching, parityOf_eq (by rw [hn]; exact hdrop)]
  have htrailer : f.trailer = [u, v, w] := by
    have hu := u.toNat_lt
    have hv := v.toNat_lt
    have hw := w.toNat_lt
    rw [Frame.trailer, hparity]
    refine congrArg₂ _ ?_ (congrArg₂ _ ?_ (congrArg₂ _ ?_ rfl)) <;> apply UInt8.toNat_inj.1 <;> rw [UInt8.toNat_ofNat'] <;> omega
  refine ⟨f, after, ?_⟩
  rw [Frame.bytes, hheader, htrailer, List.append_assoc, List.append_assoc]
  show _ = defaultPreamble :: y :: z :: (rest.take n ++ (u :: v :: w :: after))
  rw [← hdrop, List.take_append_drop]

theorem loadRest_short (hdata : m.data = []) (hlength : m.messageLength < 3) : m.loadRest.valid = false := by
  have hcount : datamgr.countWords typeAttrs = 3 := rfl
  have hnone : datamgr.assignData typeAttrs (datamgr.loadData (m.bytes.drop headerBytes) m.messageLength m.data) = none := by
    rw [RtcmDataManager.assignData, RtcmDataManager.loadData, hdata, hcount, if_pos]
    rw [List.nil_append, List.length_map, List.length_range]
    exact hlength
  unfold loadRest
  dsimp only
  rw [hnone]
  rfl

theorem length_fromPreamble (bytes : ByteStream) : (fromPreamble bytes).length ≤ bytes.length :=
  (List.dropWhile_suffix _).length_le

theorem complete_iff : Complete (fromPreamble bytes) ↔ announced (fromPreamble bytes) + 6 ≤ (fromPreamble bytes).length := by
  refine ⟨fun h => h.2, fun h => ⟨?_, h⟩⟩
  obtain ⟨x, y, z, rest, hb⟩ := exists_three (by omega : 3 ≤ (fromPreamble bytes).length)
  rw [hb, fromPreamble_cons hb]
  rfl

theorem not_valid_of_stop {m' : RTCM3Message} (h : m'.valid = false) : ¬ m'.is_Valid = true := by
  rw [is_Valid, h, Bool.false_and]
  exact Bool.false_ne_true

/-- A search that ends in its first round. -/
theorem searchEnds_of_round {m' result : RTCM3Message} {round : Round}
    (hround : ({ bytes := bytes } : RTCM3Message).searchRound = (m', round)) (hne : round ≠ .retry)
    (hlength : m'.bytes.length ≤ bytes.length) (hset : ∀ fuel, ({} : RTCM3Message).set_contents (fuel + 1) bytes = some result)
    (hvalid : result.is_Valid = true ↔ ContainsFrame bytes) : SearchEnds bytes := by
  refine ⟨⟨1, result, hset 0⟩, ?_, ?_⟩
  · intro k m m'' round' hafter hsearch
    cases k with
    | zero =>
      obtain rfl := Option.some.inj hafter
      obtain ⟨rfl, rfl⟩ := Prod.mk.inj (hround.symm.trans hsearch)
      rw [if_neg hne]
      exact hlength
    | succ k =>
      rw [afterRetries, hround] at hafter
      cases round with
      | stop => exact absurd hafter.symm (Option.some_ne_none m)
      | found => exact absurd hafter.symm (Option.some_ne_none m)
      | retry => exact absurd rfl hne
  · intro fuel m hm
    cases fuel with
    | zero => exact absurd hm.symm (Option.some_ne_none m)
    | succ fuel =>
      obtain rfl := Option.some.inj ((hset fuel).symm.trans hm)
      exact hvalid

/-! ### All searches -/

/-- The first preamble starts a complete frame with the right parity and a message number; or it starts no complete frame, and
there is none with the right parity anywhere. -/
def FoundAtOnce (bytes : ByteStream) : Prop :=
  (StartsFrame (fromPreamble bytes) ∧ 3 ≤ announced (fromPreamble bytes)) ∨ ¬ Complete (fromPreamble bytes) ∧ ¬ ContainsFrame bytes

/-- The first preamble starts a complete frame with another parity, behind at least three bytes that are skipped. -/
def TriedAgain (bytes : ByteStream) : Prop :=
  Complete (fromPreamble bytes) ∧ ¬ Matching (fromPreamble bytes) ∧ (fromPreamble bytes).length + 3 ≤ bytes.length

theorem containsFrame_fromPreamble (h : StartsFrame (fromPreamble bytes)) : ContainsFrame bytes := ⟨_, List.dropWhile_suffix _, h⟩

/-- A search that stops in its first round. -/
theorem set_contents_stop (h : ¬ Complete (fromPreamble bytes)) : ∃ m' result : RTCM3Message,
    ({ bytes := bytes } : RTCM3Message).searchRound = (m', .stop) ∧ m'.bytes = fromPreamble bytes ∧ result.valid = false ∧
      ∀ fuel, ({} : RTCM3Message).set_contents (fuel + 1) bytes = some result := by
  obtain ⟨m', hround, hbytes⟩ := searchRound_short (m := { bytes := bytes }) rfl fun hle => h (complete_iff.2 hle)
  refine ⟨m', m'.invalidate, hround, hbytes, rfl, fun fuel => ?_⟩
  have hset : ({} : RTCM3Message).set_contents (fuel + 1) bytes = search (fuel + 1) { bytes := bytes } := rfl
  rw [hset, search, hround]

/-- A search that finds the parity in its first round. -/
theorem set_contents_found (h : StartsFrame (fromPreamble bytes)) :
    ({ bytes := bytes } : RTCM3Message).searchRound = (({ bytes := bytes } : RTCM3Message).assigned (fromPreamble bytes), .found) ∧
      ∀ fuel, ({} : RTCM3Message).set_contents (fuel + 1) bytes =
        some (({ bytes := bytes } : RTCM3Message).assigned (fromPreamble bytes)).loadRest := by
  have hround := searchRound_complete (m := { bytes := bytes }) rfl h.1
  rw [if_pos h.2] at hround
  refine ⟨hround, fun fuel => ?_⟩
  have hset : ({} : RTCM3Message).set_contents (fuel + 1) bytes = search (fuel + 1) { bytes := bytes } := rfl
  rw [hset, search, hround]

theorem FoundAtOnce.searchEnds (h : FoundAtOnce bytes) : SearchEnds bytes := by
  rcases h with ⟨hstarts, hnumber⟩ | ⟨hincomplete, hnone⟩
  · obtain ⟨hround, -⟩ := set_contents_found hstarts
    obtain ⟨f, after, hb⟩ := exists_frame hstarts hnumber
    have hbefore : defaultPreamble ∉ bytes.takeWhile (· ≠ defaultPreamble) := fun hmem => by
      have hne := List.mem_takeWhile_imp hmem
      exact of_decide_eq_true hne rfl
    have hsplit : bytes = bytes.takeWhile (· ≠ defaultPreamble) ++ f.bytes ++ after := by
      rw [List.append_assoc, ← hb]
      exact (List.takeWhile_append_dropWhile).symm
    have hset (fuel : Nat) : ({} : RTCM3Message).set_contents (fuel + 1) bytes = some (({} : RTCM3Message).decoded f after) := by
      rw [hsplit]
      exact set_contents_frame rfl hbefore fuel after
    refine searchEnds_of_round hround (by decide) (length_fromPreamble bytes) hset ?_
    rw [is_Valid_decoded]
    exact iff_of_true rfl (containsFrame_fromPreamble hstarts)
  · obtain ⟨m', result, hround, hbytes, hvalid, hset⟩ := set_contents_stop hincomplete
    refine searchEnds_of_round hround (by decide) (hbytes ▸ length_fromPreamble bytes) hset ?_
    exact iff_of_false (not_valid_of_stop hvalid) hnone

theorem length_inserted (hlength : announced b + 6 ≤ b.length) : (inserted b).length = b.length + 2 := by
  rw [inserted, List.length_drop, List.length_append, List.length_append, List.length_take, List.length_take, List.length_drop]
  omega

/-- The search for a frame ends as it should where its first round decides and decides rightly; and where it does, that is
so, or the search was tried again behind at least three skipped bytes. -/
theorem searchEnds_iff (bytes : ByteStream) :
    (FoundAtOnce bytes → SearchEnds bytes) ∧ (SearchEnds bytes → FoundAtOnce bytes ∨ TriedAgain bytes) := by
  refine ⟨FoundAtOnce.searchEnds, fun h => ?_⟩
  by_cases hcomplete : Complete (fromPreamble bytes)
  · by_cases hmatching : Matching (fromPreamble bytes)
    · refine Or.inl (Or.inl ⟨⟨hcomplete, hmatching⟩, Nat.le_of_not_lt fun hshort => ?_⟩)
      obtain ⟨-, hset⟩ := set_contents_found ⟨hcomplete, hmatching⟩
      have hvalid := (h.valid_iff 1 _ (hset 0)).2 (containsFrame_fromPreamble ⟨hcomplete, hmatching⟩)
      exact not_valid_of_stop (loadRest_short rfl hshort) hvalid
    · have hround := searchRound_complete (m := { bytes := bytes }) rfl hcomplete
      rw [if_neg hmatching] at hround
      have hbound := h.bounded 0 _ _ _ rfl hround
      rw [if_pos rfl] at hbound
      dsimp only at hbound
      rw [length_inserted hcomplete.2] at hbound
      exact Or.inr ⟨hcomplete, hmatching, hbound⟩
  · refine Or.inl (Or.inr ⟨hcomplete, fun hcontains => ?_⟩)
    obtain ⟨m', result, -, -, hvalid, hset⟩ := set_contents_stop hcomplete
    exact not_valid_of_stop hvalid ((h.valid_iff 1 _ (hset 0)).2 hcontains)

/-! ### Searches that go wrong -/

/-- A preamble in the place of the parity of an empty frame. -/
def falsePreambles : ByteStream := [0xD3, 0, 0, 0xD3, 0, 0]

/-- The message after the first round, and after every other one. -/
def again : RTCM3Message where
  crc := 0xD30000
  bytes := 0 :: 0 :: falsePreambles

theorem searchRound_again : again.searchRound = (again, .retry) := by decide

theorem search_again (fuel : Nat) : search fuel again = none := by
  induction fuel with
  | zero => rfl
  | succ fuel ih =>
    rw [search, searchRound_again]
    exact ih

theorem search_falsePreambles (fuel : Nat) : ({} : RTCM3Message).set_contents fuel falsePreambles = none := by
  cases fuel with
  | zero => rfl
  | succ fuel =>
    have hround : ({ bytes := falsePreambles } : RTCM3Message).searchRound = (again, .retry) := by decide
    have hset : ({} : RTCM3Message).set_contents (fuel + 1) falsePreambles = search (fuel + 1) { bytes := falsePreambles } := rfl
    rw [hset, search, hround]
    exact search_again fuel

/-- A complete frame without a message number. -/
def emptyFrame : ByteStream := [0xD3, 0, 0, 0x47, 0xEA, 0x4B]

theorem startsFrame_emptyFrame : StartsFrame emptyFrame := by
  refine ⟨⟨rfl, by decide⟩, ?_⟩
  rw [Matching, ← crc24q_hash_eq]
  decide

/-- A search that never ends, a frame behind a preamble that announces more bytes than there are, and a frame without a message
number. -/
theorem searchEnds_fails : (¬ SearchEnds falsePreambles ∧ ∀ fuel, ({} : RTCM3Message).set_contents fuel falsePreambles = none) ∧
    ¬ SearchEnds (0xD3 :: 0 :: 255 :: emptyFrame) ∧ ¬ SearchEnds emptyFrame := by
  refine ⟨⟨fun h => ?_, search_falsePreambles⟩, fun h => ?_, fun h => ?_⟩
  · obtain ⟨fuel, m, hset⟩ := h.terminates
    exact Option.some_ne_none m (hset.symm.trans (search_falsePreambles fuel))
  · have hincomplete : ¬ Complete (fromPreamble (0xD3 :: 0 :: 255 :: emptyFrame)) := fun hcomplete => absurd hcomplete.2 (by decide)
    obtain ⟨m', result, -, -, hvalid, hset⟩ := set_contents_stop hincomplete
    exact not_valid_of_stop hvalid ((h.valid_iff 1 _ (hset 0)).2 ⟨emptyFrame, ⟨[0xD3, 0, 255], rfl⟩, startsFrame_emptyFrame⟩)
  · have hstarts : StartsFrame (fromPreamble emptyFrame) := startsFrame_emptyFrame
    obtain ⟨-, hset⟩ := set_contents_found hstarts
    exact not_valid_of_stop (loadRest_short rfl (by decide)) ((h.valid_iff 1 _ (hset 0)).2 (containsFrame_fromPreamble hstarts))

end RTCM3Message

end V2xHub.Rtcm
