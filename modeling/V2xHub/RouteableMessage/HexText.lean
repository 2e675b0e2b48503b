import V2xHub.RouteableMessage.Payload

/-!
# Texts of hexadecimal digits (`byte_stream.hpp`)

`operator>>` takes two characters a round. It has an iterator of its own, which it moves within the round, and ends where the
iterator is the end of the text. Behind a last character without another one the iterator is one too far and never the end, so
the loop goes on behind the text (`readStream_odd`): a text is read within its bounds exactly if its length is even (`hexText`).
-/

namespace V2xHub.RouteableMessage

/-- Where the loop is after some rounds: at its end, at a read outside of the text, or not through yet. -/
inductive ReadState where
  | done (bytes : ByteStream)
  | outside (i : Nat)
  | running
deriving DecidableEq

/-- `operator>>`, for a number of rounds. `i` is the iterator. -/
def readStream (str : Str) : Nat → Nat → ByteStream → ReadState
  | 0, _, _ => .running
  | rounds + 1, i, bytes =>
    if i = str.length then .done bytes
    else
      match str[i]? with
      | none => .outside i
      | some c =>
        let d := if i + 1 = str.length then 48 else str.getD (i + 1) 0
        readStream str rounds (i + 2) (bytes ++ [UInt8.ofInt (strtoul16 [c, d])])

/-- It ends, after reads within the text, and a single last digit is read as if a zero followed. -/
def ReadsWithin (str : Str) : Prop :=
  ∃ rounds bytes, readStream str rounds 0 [] = .done bytes ∧ (str.length % 2 = 1 → byte_stream_decode (str ++ [48]) = some bytes)

variable {str : Str} {rounds i : Nat} {bytes acc : ByteStream}

theorem readStream_spec (rest : Str) : ∀ (pre : Str) (acc : ByteStream) (rounds : Nat), rest.length / 2 + 2 ≤ rounds →
    readStream (pre ++ rest) rounds pre.length acc =
      (byte_stream_decode rest).elim (.outside ((pre ++ rest).length + 1)) fun bytes => .done (acc ++ bytes) := by
  induction rest using byte_stream_decode.induct with
  | case1 =>
    intro pre acc rounds hrounds
    obtain ⟨rounds, rfl⟩ : ∃ k, rounds = k + 1 := ⟨rounds - 1, by omega⟩
    rw [List.append_nil, readStream, if_pos rfl, byte_stream_decode, Option.elim_some, List.append_nil]
  | case2 c =>
    intro pre acc rounds hrounds
    obtain ⟨rounds, rfl⟩ : ∃ k, rounds = k + 1 + 1 := ⟨rounds - 2, by omega⟩
    have hlength : (pre ++ [c]).length = pre.length + 1 := List.length_append ..
    have hget : (pre ++ [c])[pre.length]? = some c := List.getElem?_concat_length
    have hbehind : (pre ++ [c])[pre.length + 2]? = none := List.getElem?_eq_none (by omega)
    rw [byte_stream_decode, Option.elim_none, readStream, if_neg (by omega), hget]
    dsimp only
    rw [readStream, if_neg (by omega), hbehind]
    dsimp only
    rw [hlength]
  | case3 a b rest ih =>
    intro pre acc rounds hrounds
    obtain ⟨rounds, rfl⟩ : ∃ k, rounds = k + 1 := ⟨rounds - 1, by omega⟩
    have hlength : (pre ++ a :: b :: rest).length = pre.length + (rest.length + 2) := List.length_append ..
    have hfirst : (pre ++ a :: b :: rest)[pre.length]? = some a := by
      rw [List.getElem?_append_right (le_refl _), Nat.sub_self]
      rfl
    have hsecond : (if pre.length + 1 = (pre ++ a :: b :: rest).length then 48
        else (pre ++ a :: b :: rest).getD (pre.length + 1) 0) = b := by
      rw [if_neg (by omega), List.getD_eq_getElem?_getD, List.getElem?_append_right (Nat.le_add_right _ 1), Nat.add_sub_cancel_left]
      rfl
    have hih := ih (pre ++ [a, b]) (acc ++ [UInt8.ofInt (strtoul16 [a, b])]) rounds (by
      rw [List.length_cons, List.length_cons] at hrounds
      omega)
    have hlist : pre ++ [a, b] ++ rest = pre ++ a :: b :: rest := by rw [List.append_assoc]; rfl
    have hindex : (pre ++ [a, b]).length = pre.length + 2 := List.length_append ..
    rw [hlist, hindex] at hih
    rw [readStream, if_neg (by omega), hfirst]
    dsimp only
    rw [hsecond, hih, byte_stream_decode]
    cases byte_stream_decode rest with
    | none => rfl
    | some bytes =>
      show ReadState.done _ = ReadState.done _
      rw [List.append_assoc]
      rfl

theorem readStream_eq (str : Str) {rounds : Nat} (hrounds : str.length / 2 + 2 ≤ rounds) :
    readStream str rounds 0 [] = (byte_stream_decode str).elim (.outside (str.length + 1)) .done :=
  readStream_spec str [] [] rounds hrounds

/-- What the loop came to stays. -/
theorem readStream_add (k : Nat) (h : readStream str rounds i acc = .done bytes) :
    readStream str (rounds + k) i acc = .done bytes := by
  induction rounds generalizing i acc with
  | zero => exact ReadState.noConfusion h
  | succ rounds ih =>
    rw [Nat.add_right_comm, readStream]
    rw [readStream] at h
    by_cases hend : i = str.length
    · rw [if_pos hend] at h ⊢
      exact h
    · rw [if_neg hend] at h ⊢
      cases hget : str[i]? with
      | none =>
        rw [hget] at h
        exact ReadState.noConfusion h
      | some c =>
        rw [hget] at h
        exact ih h

theorem readStream_done (h : readStream str rounds 0 [] = .done bytes) : byte_stream_decode str = some bytes := by
  have hlater := readStream_add (str.length / 2 + 2) h
  rw [readStream_eq str (Nat.le_add_left _ _)] at hlater
  cases hdecode : byte_stream_decode str with
  | none =>
    rw [hdecode] at hlater
    exact ReadState.noConfusion hlater
  | some decoded =>
    rw [hdecode] at hlater
    exact congrArg some (ReadState.done.inj hlater)

theorem byte_stream_decode_isSome (str : Str) : (byte_stream_decode str).isSome ↔ str.length % 2 = 0 := by
  induction str using byte_stream_decode.induct with
  | case1 => exact iff_of_true rfl rfl
  | case2 c => exact iff_of_false Bool.false_ne_true (by decide : ¬ 1 % 2 = 0)
  | case3 a b rest ih =>
    rw [byte_stream_decode, Option.isSome_map, ih, List.length_cons, List.length_cons]
    omega

/-- The end of the loop is passed. -/
theorem readStream_odd (h : str.length % 2 = 1) (hrounds : str.length / 2 + 2 ≤ rounds) :
    readStream str rounds 0 [] = .outside (str.length + 1) := by
  have hnone : byte_stream_decode str = none := by
    rw [← Option.not_isSome_iff_eq_none, byte_stream_decode_isSome]
    omega
  rw [readStream_eq str hrounds, hnone, Option.elim_none]

/-- The digits of each byte string are read as that byte string; a text is read within its bounds if and only if its length is
even, and otherwise the loop reads behind it. -/
theorem hexText (bytes : ByteStream) (str : Str) : (∃ rounds, readStream (byte_stream_encode bytes) rounds 0 [] = .done bytes) ∧
    (ReadsWithin str ↔ str.length % 2 = 0) ∧
      (¬ str.length % 2 = 0 → ∃ rounds, readStream str rounds 0 [] = .outside (str.length + 1)) := by
  refine ⟨?_, ⟨?_, fun heven => ?_⟩, fun hodd => ⟨_, readStream_odd (by omega) le_rfl⟩⟩
  · exact ⟨_, (readStream_eq (byte_stream_encode bytes) le_rfl).trans (by rw [decode_encode]; rfl)⟩
  · rintro ⟨rounds, bytes, hdone, -⟩
    rw [← byte_stream_decode_isSome, readStream_done hdone]
    rfl
  · obtain ⟨bytes, hbytes⟩ := Option.isSome_iff_exists.mp ((byte_stream_decode_isSome str).mpr heven)
    exact ⟨_, bytes, (readStream_eq str le_rfl).trans (by rw [hbytes]; rfl), fun hodd => by omega⟩

/-- One digit. -/
theorem not_readsWithin : readStream (CString.lit "f") 2 0 [] = .outside 2 ∧ ¬ ReadsWithin (CString.lit "f") := by
  refine ⟨by decide, ?_⟩
  rintro ⟨rounds, bytes, hdone, -⟩
  have hnone : byte_stream_decode (CString.lit "f") = none := by decide
  rw [readStream_done hdone] at hnone
  exact Option.some_ne_none bytes hnone

end V2xHub.RouteableMessage
