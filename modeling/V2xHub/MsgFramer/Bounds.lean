import V2xHub.MsgFramer.Stream

/-!
# The framer on any bytes

`strstr` ends at the first NUL, and `bufpos` does not. A search that ends early finds nothing, or finds a place before the NUL,
which is within the unread bytes all the same (`strchr_within`). So each call moves within them, a call that finds a message
leaves fewer of them, and one that finds none leaves the framer idle, with room for the next `recv` (`getNextMsg_total`).
-/

namespace V2xHub.MsgFramer
variable {n : Nat} {f : MsgFramer n} {c p : List UInt8} {fuel : Nat}

/-- What is found is in front of the terminator, and of every NUL. -/
theorem strchr_within (ch : UInt8) (hch : ch ≠ 0) (s t : List UInt8) :
    CString.strchr ch (s ++ 0 :: t) = some none ∨
      ∃ a b, s = a ++ ch :: b ∧ ch ∉ a ∧ 0 ∉ a ∧ CString.strchr ch (s ++ 0 :: t) = some (some a.length) := by
  induction s with
  | nil =>
    left
    rw [List.nil_append, CString.strchr, if_neg hch.symm, if_pos rfl]
  | cons x s ih =>
    rw [List.cons_append, CString.strchr]
    split_ifs with hx h0
    · exact Or.inr ⟨[], s, by rw [hx, List.nil_append], List.not_mem_nil, List.not_mem_nil, rfl⟩
    · exact Or.inl rfl
    · rcases ih with hnone | ⟨a, b, rfl, ha, ha0, hsome⟩
      · left
        rw [hnone]
        rfl
      · right
        refine ⟨x :: a, b, rfl, ?_, ?_, by rw [hsome]; rfl⟩
        · rw [List.mem_cons, not_or]
          exact ⟨fun h => hx h.symm, ha⟩
        · rw [List.mem_cons, not_or]
          exact ⟨fun h => h0 h.symm, ha0⟩

/-- One call: a message, and fewer bytes are left, or none, and the framer is idle. -/
theorem getNextMsg_total (hn : 0 < n) (hf : Holds f c) (hc : c.length ≤ n) :
    (∃ f' m rest, f.getNextMsg = some (some 1, f') ∧ CString.read (f'.buf.drop 1) = some m ∧ Holds f' rest ∧
      rest.length < c.length) ∨
    ∃ f' p, f.getNextMsg = some (none, f') ∧ Idle f' p := by
  obtain ⟨f₁, hconsume, hf₁⟩ := consume_spec hf
  obtain ⟨stale, hbuf, hreadpos, -⟩ := id hf₁
  rcases strchr_within 0x02 (by decide) c stale with hnone | ⟨a, t, rfl, h2, h0, -⟩
  · right
    have hfind : f₁.findMsg = some (none, { f₁ with bufpos := 0 }) := by
      rw [← hbuf] at hnone
      rw [findMsg, hnone]
      rfl
    refine ⟨{ f₁ with bufpos := 0 }, [], ?_, hreadpos, rfl, hn, List.nil_prefix⟩
    rw [getNextMsg_eq hconsume hfind, if_neg]
    rintro ⟨hfull, -⟩
    have hzero : (0 : Int) = n := hfull
    omega
  · rw [List.length_append, List.length_cons] at hc
    obtain ⟨f₂, hfind, hf₂⟩ := findMsg_start hf₁ h2 h0
    obtain ⟨stale₂, hbuf₂, hreadpos₂, hbufpos₂⟩ := id hf₂
    rcases strchr_within 0x03 (by decide) (0x02 :: t) stale₂ with hnone | ⟨b, r, hsplit, h3, h0b, -⟩
    · right
      have hend : f₂.findEnd = some (none, f₂) := by
        rw [← hbuf₂] at hnone
        rw [findEnd, hnone]
        rfl
      rw [List.length_cons] at hbufpos₂
      by_cases hfull : t.length + 1 = n
      · refine ⟨{ f₂ with bufpos := 0, readpos := 0 }, [], ?_, rfl, rfl, hn, List.nil_prefix⟩
        rw [getNextMsg_eq hconsume (hfind.trans hend), if_pos ⟨by omega, rfl⟩]
      · refine ⟨f₂, 0x02 :: t, ?_, hreadpos₂, hbufpos₂, ?_, hbuf₂ ▸ List.prefix_append _ _⟩
        · rw [getNextMsg_eq hconsume (hfind.trans hend), if_neg]
          rintro ⟨hbufpos, -⟩
          omega
        · rw [List.length_cons]
          omega
    · left
      -- the message starts behind the STX
      cases b with
      | nil => exact absurd (List.cons.inj hsplit).1 (by decide)
      | cons x m =>
        obtain ⟨rfl, htail⟩ := List.cons.inj hsplit
        obtain rfl : t = m ++ 0x03 :: r := htail
        rw [List.mem_cons, not_or] at h3 h0b
        obtain ⟨f', hend, hread, hf'⟩ := findEnd_message hf₂ h3.2 h0b.2
        refine ⟨f', m, r, ?_, hread, hf', ?_⟩
        · rw [getNextMsg_eq hconsume (hfind.trans hend), if_neg (by simp)]
        · simp only [List.length_append, List.length_cons]
          omega

/-- The calls come to an end, after one call more than there are unread bytes at most. -/
theorem drain_total (hn : 0 < n) (hfuel : c.length < fuel) (hf : Holds f c) (hc : c.length ≤ n) :
    ∃ msgs f' p, f.drain fuel = some (msgs, f') ∧ Idle f' p := by
  induction fuel generalizing f c with
  | zero => exact absurd hfuel (Nat.not_lt_zero _)
  | succ fuel ih =>
    rcases getNextMsg_total hn hf hc with ⟨f₁, m, rest, hcall, hread, hf₁, hless⟩ | ⟨f', p, hcall, hidle⟩
    · obtain ⟨msgs, f', p, hdrain, hidle⟩ := ih (by omega) hf₁ (by omega)
      refine ⟨m :: msgs, f', p, ?_, hidle⟩
      rw [drain, hcall]
      show (CString.read (f₁.buf.drop 1)).bind _ = _
      rw [hread]
      show (drain fuel f₁).bind _ = _
      rw [hdrain]
      rfl
    · refine ⟨[], f', p, ?_, hidle⟩
      rw [drain, hcall]
      rfl

theorem receive_total (hn : 0 < n) (hfuel : n < fuel) {chunk : List UInt8} (hf : Idle f p) (hc : chunk.length ≤ f.getBufLength) :
    ∃ msgs f' p', f.receive fuel chunk = some (msgs, f') ∧ Idle f' p' := by
  obtain ⟨f₁, f₂, hrecv, hinc, hf₂, hlen⟩ := recv_incrementBufPos hf hc
  obtain ⟨msgs, f', p', hdrain, hidle⟩ := drain_total hn (Nat.lt_of_le_of_lt hlen hfuel) hf₂ hlen
  refine ⟨msgs, f', p', ?_, hidle⟩
  rw [receive, hrecv]
  show (f₁.incrementBufPos chunk.length).bind _ = _
  rw [hinc]
  exact hdrain

theorem receiveAll_total (hn : 0 < n) (hfuel : n < fuel) {chunks : List (List UInt8)} (hf : Idle f p)
    (hr : f.Respects fuel chunks) : ∃ msgs f' p', f.receiveAll fuel chunks = some (msgs, f') ∧ Idle f' p' := by
  induction chunks generalizing f p with
  | nil => exact ⟨[], f, p, rfl, hf⟩
  | cons chunk chunks ih =>
    obtain ⟨-, hlen, hr⟩ := hr
    obtain ⟨msgs, f₁, p₁, hreceive, hf₁⟩ := receive_total hn hfuel hf hlen
    obtain ⟨msgs', f', p', hall, hidle⟩ := ih hf₁ (hr _ _ hreceive)
    refine ⟨msgs ++ msgs', f', p', ?_, hidle⟩
    rw [receiveAll, hreceive]
    show (receiveAll fuel f₁ chunks).bind _ = _
    rw [hall]
    rfl

/-- Whatever the bytes, no call reads or writes outside of the buffer, each run of calls ends, and after it there is room. -/
theorem stream_bounds {chunks : List (List UInt8)} (hn : 0 < n) (hfuel : n < fuel)
    (hr : (MSG_FRAMER_INITIALIZER n).Respects fuel chunks) :
    ∃ msgs f, (MSG_FRAMER_INITIALIZER n).receiveAll fuel chunks = some (msgs, f) ∧ f.readpos = 0 ∧ 0 ≤ f.bufpos ∧ f.bufpos < n ∧
      0 < f.getBufLength := by
  obtain ⟨msgs, f, p, hall, hidle⟩ := receiveAll_total hn hfuel (idle_init hn) hr
  have hbufpos := hidle.bufpos
  have hroom := hidle.room
  refine ⟨msgs, f, hall, hidle.readpos, by omega, by omega, ?_⟩
  rw [getBufLength]
  omega

/-- A message with a NUL in it, which hides its end. -/
theorem stream_bounds_nul : ∃ msgs f, (MSG_FRAMER_INITIALIZER MSG_FRAMER_MAX_BUF_SIZE).receiveAll 20001
    [[0x02, 0x41, 0, 0x03, 0x02, 0x03]] = some (msgs, f) ∧ f.readpos = 0 ∧ 0 ≤ f.bufpos ∧ f.bufpos < MSG_FRAMER_MAX_BUF_SIZE ∧
      0 < f.getBufLength :=
  stream_bounds (by decide) (by decide) ⟨by decide, by decide, fun _ _ _ => trivial⟩

end V2xHub.MsgFramer
