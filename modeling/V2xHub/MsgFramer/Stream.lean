import V2xHub.MsgFramer.Scan
import Mathlib.Tactic.Common

/-!
# The framer delivers the scan of the stream

`Holds f c`: the unread bytes of the buffer are `c`. `Idle f p`: the bytes `p` wait for the rest of
their message. A chunk takes an idle framer to a holding one (`receive_spec`), each call of
`getNextMsg` is a `Next` (`getNextMsg_spec`), and the calls end with an idle framer (`drain_spec`).
-/

namespace V2xHub.MsgFramer
variable {n : Nat} {f : MsgFramer n} {c p rest : List UInt8}

/-- The unread bytes of the buffer are `c`; the terminator follows them. -/
def Holds (f : MsgFramer n) (c : List UInt8) : Prop :=
  ∃ pre stale, f.buf = pre ++ (c ++ 0 :: stale) ∧ f.readpos = pre.length ∧
    f.bufpos = pre.length + c.length

/-- `Holds`, at the start of the buffer. -/
def Clean (f : MsgFramer n) (c : List UInt8) : Prop :=
  ∃ stale, f.buf = c ++ 0 :: stale ∧ f.readpos = 0 ∧ f.bufpos = c.length

/-- Between two `recv`: the bytes `p` are at the start of the buffer, with room behind them. -/
structure Idle (f : MsgFramer n) (p : List UInt8) : Prop where
  readpos : f.readpos = 0
  bufpos : f.bufpos = p.length
  room : p.length < n
  bytes : p <+: f.buf

theorem Clean.holds (h : Clean f c) : Holds f c := by
  obtain ⟨stale, hb, hr, hp⟩ := h
  exact ⟨[], stale, hb, hr, by simpa using hp⟩

theorem idle_init (hn : 0 < n) : Idle (MSG_FRAMER_INITIALIZER n) [] :=
  ⟨rfl, rfl, hn, List.nil_prefix⟩

/-! ### Memory -/

theorem load_natCast {i : Nat} (hi : i < f.buf.length) : f.load i = some f.buf[i] := by
  simp [load, hi]

theorem store_natCast {i : Nat} (hi : i ≤ n) (b : UInt8) :
    ∃ f', f.store i b = some f' ∧ f'.buf = f.buf.set i b ∧ f'.bufpos = f.bufpos ∧
      f'.readpos = f.readpos := by
  refine ⟨_, if_pos ⟨by omega, by exact_mod_cast hi⟩, by simp, rfl, rfl⟩

/-- The loop moves `k` bytes down by `s`; a byte it writes is not read again. -/
theorem shiftLoop_spec (s k i : Nat) (f : MsgFramer n) (h : i + s + k ≤ n + 1) :
    ∃ f', f.shiftLoop s k i = some f' ∧
      f'.buf = f.buf.take i ++ ((f.buf.drop (i + s)).take k ++ f.buf.drop (i + k)) ∧
      f'.bufpos = f.bufpos ∧ f'.readpos = f.readpos := by
  induction k generalizing i f with
  | zero => exact ⟨f, rfl, by simp, rfl, rfl⟩
  | succ k ih =>
    have hi : i + s < f.buf.length := by rw [f.size]; omega
    obtain ⟨f₁, hstore, hbuf, hp, hr⟩ := f.store_natCast (by omega : i ≤ n) f.buf[i + s]
    obtain ⟨f', hloop, hbuf', hp', hr'⟩ := ih (i + 1) f₁ (by omega)
    refine ⟨f', ?_, ?_, hp'.trans hp, hr'.trans hr⟩
    · have hl : f.load ((i : Int) + s) = some f.buf[i + s] := by
        exact_mod_cast f.load_natCast hi
      rw [shiftLoop, hl, Option.bind_eq_bind, Option.bind_some, hstore]
      exact_mod_cast hloop
    · have htake : (f.buf.set i f.buf[i + s]).take (i + 1) = f.buf.take i ++ [f.buf[i + s]] := by
        have hi' : i < (f.buf.set i f.buf[i + s]).length := by rw [List.length_set]; omega
        rw [List.take_succ_eq_append_getElem hi', List.getElem_set_self, List.take_set_of_le (Nat.le_refl i)]
      rw [hbuf', hbuf, htake, List.drop_set_of_lt (by omega), List.drop_set_of_lt (by omega),
        List.drop_eq_getElem_cons hi, List.take_succ_cons, List.append_assoc]
      simp [Nat.add_assoc, Nat.add_comm, Nat.add_left_comm]

/-- Moving down over `pre` brings the bytes `c` and the terminator to the start. -/
theorem shiftDown_spec {pre stale : List UInt8} (hb : f.buf = pre ++ (c ++ 0 :: stale))
    (hp : f.bufpos = pre.length + c.length) :
    ∃ f' stale', f.shiftDown pre.length = some f' ∧ f'.buf = c ++ 0 :: stale' ∧
      f'.bufpos = c.length ∧ f'.readpos = f.readpos := by
  have hsize := congrArg List.length hb
  simp only [f.size, List.length_append, List.length_cons] at hsize
  obtain ⟨f', hloop, hbuf, hp', hr⟩ := f.shiftLoop_spec pre.length (c.length + 1) 0 (by omega)
  have hk : (f.bufpos + 1 - pre.length).toNat = c.length + 1 := by omega
  refine ⟨{ f' with bufpos := c.length }, f.buf.drop (c.length + 1), ?_, ?_, rfl, hr⟩
  · have hd : f'.bufpos - pre.length = c.length := by omega
    have hloop' : f.shiftLoop pre.length (c.length + 1) 0 = some f' := hloop
    rw [shiftDown, hk, hloop', Option.bind_eq_bind, Option.bind_some, hd]
  · show f'.buf = _
    rw [hbuf, hb, show pre ++ (c ++ 0 :: stale) = pre ++ ((c ++ [0]) ++ stale) by simp]
    simp [List.take_append, List.take_of_length_le]

/-! ### The calls of `getNextMsg` -/

theorem consume_spec (h : Holds f c) : ∃ f', f.consume = some f' ∧ Clean f' c := by
  obtain ⟨pre, stale, hb, hr, hp⟩ := h
  by_cases h0 : pre = []
  · subst h0
    exact ⟨f, if_neg (by simpa using hr), stale, hb, hr, by simpa using hp⟩
  · have hr0 : f.readpos ≠ 0 := by rw [hr]; exact_mod_cast mt List.eq_nil_of_length_eq_zero h0
    obtain ⟨f', stale', hs, hb', hp', -⟩ := shiftDown_spec hb hp
    refine ⟨{ f' with readpos := 0 }, ?_, stale', hb', rfl, hp'⟩
    rw [consume, if_pos hr0, hr, hs]
    rfl

/-- At an STX: the message up to the next ETX, whose place the terminator takes. -/
theorem findEnd_message {m r : List UInt8} (hf : Clean f (0x02 :: (m ++ 0x03 :: r))) (h3 : 0x03 ∉ m)
    (h0 : 0 ∉ m) :
    ∃ f', f.findEnd = some (some 1, f') ∧ CString.read (f'.buf.drop 1) = some m ∧ Holds f' r := by
  obtain ⟨stale, hb, -, hp⟩ := hf
  have hb' : f.buf = (0x02 :: m) ++ 0x03 :: (r ++ 0 :: stale) := by rw [hb]; simp
  have hfind : CString.strchr 0x03 f.buf = some (some (m.length + 1)) := by
    rw [hb', CString.strchr_of_mem (by simpa using h3) (by simpa using h0)]
    rfl
  have hsize := congrArg List.length hb'
  simp only [f.size, List.length_append, List.length_cons] at hsize
  obtain ⟨f₁, hstore, hbuf, hp₁, -⟩ := f.store_natCast (by omega : m.length + 1 ≤ n) 0
  have hbuf₁ : f₁.buf = 0x02 :: (m ++ 0 :: (r ++ 0 :: stale)) := by
    rw [hbuf, hb', List.set_append_right _ _ (by simp)]
    simp
  refine ⟨{ f₁ with readpos := (m.length + 1 : Nat) + 1 }, ?_, ?_, 0x02 :: (m ++ [0]), stale, ?_, ?_, ?_⟩
  · rw [findEnd, hfind]
    show (f.store (m.length + 1 : Nat) 0).bind _ = _
    rw [hstore]
    rfl
  · show CString.read (f₁.buf.drop 1) = some m
    rw [hbuf₁]
    exact CString.read_append h0
  · show f₁.buf = _
    rw [hbuf₁]
    simp
  · simp only [List.length_cons, List.length_append, List.length_nil]
    omega
  · show f₁.bufpos = _
    rw [hp₁, hp]
    simp only [List.length_cons, List.length_append, List.length_nil]
    omega

theorem findEnd_none {t : List UInt8} (hf : Clean f (0x02 :: t)) (h3 : 0x03 ∉ t) (h0 : 0 ∉ t) :
    f.findEnd = some (none, f) := by
  obtain ⟨stale, hb, -, -⟩ := hf
  have hfind : CString.strchr 0x03 f.buf = some none := by
    rw [hb, CString.strchr_of_not_mem (by decide) (by simpa using h3) (by simpa using h0)]
  rw [findEnd, hfind]
  rfl

theorem findMsg_noStart (hf : Clean f c) (h2 : 0x02 ∉ c) (h0 : 0 ∉ c) :
    f.findMsg = some (none, { f with bufpos := 0 }) := by
  obtain ⟨stale, hb, -, -⟩ := hf
  have hfind : CString.strchr 0x02 f.buf = some none := by
    rw [hb, CString.strchr_of_not_mem (by decide) h2 h0]
  rw [findMsg, hfind]
  rfl

/-- The first STX is moved to the start of the buffer. -/
theorem findMsg_start {a t : List UInt8} (hf : Clean f (a ++ 0x02 :: t)) (h2 : 0x02 ∉ a) (h0 : 0 ∉ a) :
    ∃ f', f.findMsg = f'.findEnd ∧ Clean f' (0x02 :: t) := by
  obtain ⟨stale, hb, hr, hp⟩ := hf
  have hfind : CString.strchr 0x02 f.buf = some (some a.length) := by
    rw [hb, List.append_assoc, List.cons_append, CString.strchr_of_mem h2 h0]
  by_cases ha : a = []
  · subst ha
    exact ⟨f, by rw [findMsg, hfind]; rfl, stale, hb, hr, hp⟩
  · have ha0 : a.length ≠ 0 := mt List.eq_nil_of_length_eq_zero ha
    rw [List.append_assoc] at hb
    obtain ⟨f', stale', hs, hb', hp', hr'⟩ := shiftDown_spec hb (by rw [hp]; simp)
    refine ⟨f', ?_, stale', hb', hr'.trans hr, hp'⟩
    rw [findMsg, hfind]
    show (f.align a.length).bind _ = _
    rw [align, if_pos ha0, hs]
    rfl

theorem getNextMsg_eq {f₁ f₂ : MsgFramer n} {r : Option Int} (h₁ : f.consume = some f₁)
    (h₂ : f₁.findMsg = some (r, f₂)) :
    f.getNextMsg = if f₂.bufpos = n ∧ r = none then
      some (r, { f₂ with bufpos := 0, readpos := 0 }) else some (r, f₂) := by
  rw [getNextMsg, h₁]
  show (f₁.findMsg).bind _ = _
  rw [h₂]
  rfl

/-- A call that finds a message. -/
theorem getNextMsg_message {m : List UInt8} (hf : Holds f c) (h0 : 0 ∉ c) (h : Next n c (some m) rest) :
    ∃ f', f.getNextMsg = some (some 1, f') ∧ CString.read (f'.buf.drop 1) = some m ∧ Holds f' rest := by
  obtain ⟨f₁, hc, hf₁⟩ := consume_spec hf
  cases h with
  | message h2 h3 =>
    simp only [List.mem_append, List.mem_cons, not_or] at h0
    obtain ⟨f₂, hfind, hf₂⟩ := findMsg_start hf₁ h2 h0.1
    obtain ⟨f', hend, hread, hf'⟩ := findEnd_message hf₂ h3 h0.2.2.1
    refine ⟨f', ?_, hread, hf'⟩
    rw [getNextMsg_eq hc (hfind.trans hend), if_neg (by simp)]

/-- A call that returns `NULL`. -/
theorem getNextMsg_null (hn : 0 < n) (hf : Holds f c) (h0 : 0 ∉ c) (h : Next n c none rest) :
    ∃ f', f.getNextMsg = some (none, f') ∧ Idle f' rest := by
  obtain ⟨f₁, hc, hf₁⟩ := consume_spec hf
  cases h with
  | noStart h2 =>
    refine ⟨{ f₁ with bufpos := 0 }, ?_, ?_⟩
    · rw [getNextMsg_eq hc (findMsg_noStart hf₁ h2 h0), if_neg]
      rintro ⟨h, -⟩
      have h : (0 : Int) = n := h
      omega
    · obtain ⟨-, -, hr, -⟩ := hf₁
      exact ⟨hr, rfl, hn, List.nil_prefix⟩
  | @full a t h2 h3 hlen =>
    simp only [List.mem_append, List.mem_cons, not_or] at h0
    obtain ⟨f₂, hfind, hf₂⟩ := findMsg_start hf₁ h2 h0.1
    have hend := findEnd_none hf₂ h3 h0.2.2
    obtain ⟨stale, hb, hr, hp⟩ := hf₂
    refine ⟨{ f₂ with bufpos := 0, readpos := 0 }, ?_, rfl, rfl, hn, List.nil_prefix⟩
    have hfull : f₂.bufpos = n := by rw [hp, List.length_cons, hlen]
    rw [getNextMsg_eq hc (hfind.trans hend), if_pos ⟨hfull, rfl⟩]
  | @wait a t h2 h3 hlen =>
    simp only [List.mem_append, List.mem_cons, not_or] at h0
    obtain ⟨f₂, hfind, hf₂⟩ := findMsg_start hf₁ h2 h0.1
    have hend := findEnd_none hf₂ h3 h0.2.2
    obtain ⟨stale, hb, hr, hp⟩ := hf₂
    refine ⟨f₂, ?_, hr, hp, hlen, hb ▸ List.prefix_append _ _⟩
    rw [getNextMsg_eq hc (hfind.trans hend), if_neg]
    rintro ⟨h, -⟩
    rw [hp, List.length_cons] at h
    omega

/-! ### The receive loop -/

theorem recv_spec (chunk : List UInt8) (i : Nat) (f : MsgFramer n) (h : i + chunk.length ≤ n) :
    ∃ f', f.recv chunk i = some f' ∧
      f'.buf = f.buf.take i ++ (chunk ++ f.buf.drop (i + chunk.length)) ∧
      f'.bufpos = f.bufpos ∧ f'.readpos = f.readpos := by
  induction chunk generalizing i f with
  | nil => exact ⟨f, rfl, by simp, rfl, rfl⟩
  | cons b chunk ih =>
    simp only [List.length_cons] at h
    obtain ⟨f₁, hstore, hbuf, hp, hr⟩ := f.store_natCast (by omega : i ≤ n) b
    obtain ⟨f', hrecv, hbuf', hp', hr'⟩ := ih (i + 1) f₁ (by omega)
    refine ⟨f', ?_, ?_, hp'.trans hp, hr'.trans hr⟩
    · rw [recv, hstore]
      exact_mod_cast hrecv
    · have hi : i < (f.buf.set i b).length := by rw [List.length_set, f.size]; omega
      have htake : (f.buf.set i b).take (i + 1) = f.buf.take i ++ [b] := by
        rw [List.take_succ_eq_append_getElem hi, List.getElem_set_self, List.take_set_of_le (Nat.le_refl i)]
      rw [hbuf', hbuf, htake, List.drop_set_of_lt (by omega)]
      simp [Nat.add_comm, Nat.add_left_comm]

/-- A chunk that fits is appended to what waits, with a new terminator. -/
theorem recv_incrementBufPos {chunk : List UInt8} (hf : Idle f p) (hc : chunk.length ≤ f.getBufLength) :
    ∃ f₁ f', f.recv chunk f.getBuf = some f₁ ∧ f₁.incrementBufPos chunk.length = some f' ∧
      Holds f' (p ++ chunk) ∧ (p ++ chunk).length ≤ n := by
  have hlen : p.length + chunk.length ≤ n := by
    rw [getBufLength, hf.bufpos] at hc; omega
  obtain ⟨f₁, hrecv, hbuf, hp, hr⟩ := f.recv_spec chunk p.length hlen
  set f₂ : MsgFramer n := { f₁ with bufpos := (p.length + chunk.length : Nat) } with hf₂
  obtain ⟨f', hstore, hbuf', hp', hr'⟩ := f₂.store_natCast hlen 0
  have hinc : f₁.bufpos + chunk.length = (p.length + chunk.length : Nat) := by
    rw [hp, hf.bufpos]; push_cast; rfl
  refine ⟨f₁, f', ?_, ?_, Clean.holds ⟨f.buf.drop (p.length + chunk.length + 1), ?_, ?_, ?_⟩, by simpa⟩
  · rw [getBuf, hf.bufpos, hrecv]
  · have hle : ((p.length + chunk.length : Nat) : Int) ≤ n := by exact_mod_cast hlen
    simp only [incrementBufPos, hinc]
    rw [if_neg (by simpa using hle), if_neg (by omega), ← hf₂, hstore]
  · obtain ⟨t, ht⟩ := hf.bytes
    have hsize := congrArg List.length ht
    rw [List.length_append, f.size] at hsize
    have hd : p.length + chunk.length < f.buf.length := by rw [f.size]; omega
    have htake : f.buf.take p.length = p := by rw [← ht, List.take_left]
    rw [hbuf', hf₂]
    show f₁.buf.set _ _ = _
    rw [hbuf, htake, List.drop_eq_getElem_cons hd, ← List.append_assoc,
      List.set_append_right _ _ (by simp)]
    simp only [List.length_append, Nat.sub_self, List.set_cons_zero]
  · rw [hr', ← hf.readpos]; exact hr
  · rw [hp', hf₂]; simp

/-- The calls after a chunk: the messages they return are what the scan takes out of the unread
bytes, and the framer is idle again. -/
theorem drain_spec (hn : 0 < n) {fuel : Nat} (hfuel : c.length < fuel) (hf : Holds f c) (h0 : 0 ∉ c)
    (hc : c.length ≤ n) :
    ∃ msgs f' p, f.drain fuel = some (msgs, f') ∧ Idle f' p ∧ 0 ∉ p ∧ scan n p = [] ∧
      ∀ s, scan n (c ++ s) = msgs ++ scan n (p ++ s) := by
  induction fuel generalizing f c with
  | zero => omega
  | succ fuel ih =>
    obtain ⟨res, rest, hnext⟩ := Next.total hc
    have hscan := hnext.scan_append hn hc
    cases res with
    | none =>
      obtain ⟨f', hcall, hidle⟩ := getNextMsg_null hn hf h0 hnext
      refine ⟨[], f', rest, ?_, hidle, ?_, ?_, by simpa using hscan⟩
      · rw [drain, hcall]; rfl
      · cases hnext with
        | noStart | full => simp
        | wait => exact fun h => h0 (by simpa using Or.inr h)
      · cases hnext with
        | noStart | full => rfl
        | wait _ h3 hlen => exact scan_wait hn h3 hlen
    | some m =>
      obtain ⟨f₁, hcall, hread, hf₁⟩ := getNextMsg_message hf h0 hnext
      have hrest : rest.length < c.length ∧ 0 ∉ rest := by
        cases hnext with
        | message =>
          simp only [List.mem_append, List.mem_cons, not_or] at h0
          exact ⟨by simp; omega, h0.2.2.2.2⟩
      obtain ⟨msgs, f', p, hdrain, hidle, hp0, hp, hs⟩ := ih (by omega) hf₁ hrest.2 (by omega)
      refine ⟨m :: msgs, f', p, ?_, hidle, hp0, hp, fun s => ?_⟩
      · rw [drain, hcall]
        show (CString.read (f₁.buf.drop 1)).bind _ = _
        rw [hread]
        show (drain fuel f₁).bind _ = _
        rw [hdrain]
        rfl
      · rw [hscan, hs]
        rfl

theorem receive_spec (hn : 0 < n) {fuel : Nat} (hfuel : n < fuel) {chunk : List UInt8} (hf : Idle f p)
    (hp0 : 0 ∉ p) (hc0 : 0 ∉ chunk) (hc : chunk.length ≤ f.getBufLength) :
    ∃ msgs f' p', f.receive fuel chunk = some (msgs, f') ∧ Idle f' p' ∧ 0 ∉ p' ∧ scan n p' = [] ∧
      ∀ s, scan n (p ++ (chunk ++ s)) = msgs ++ scan n (p' ++ s) := by
  obtain ⟨f₁, f₂, hrecv, hinc, hf₂, hlen⟩ := recv_incrementBufPos hf hc
  obtain ⟨msgs, f', p', hdrain, hidle, hp', hscan', hs⟩ :=
    drain_spec hn (Nat.lt_of_le_of_lt hlen hfuel) hf₂ (by simp [hp0, hc0]) hlen
  refine ⟨msgs, f', p', ?_, hidle, hp', hscan', fun s => by rw [← List.append_assoc, hs]⟩
  rw [receive, hrecv]
  show (f₁.incrementBufPos chunk.length).bind _ = _
  rw [hinc]
  exact hdrain

/-- The whole stream, from any idle framer whose waiting bytes hold no message yet. -/
theorem receiveAll_spec (hn : 0 < n) {fuel : Nat} (hfuel : n < fuel) {chunks : List (List UInt8)}
    (hf : Idle f p) (hp0 : 0 ∉ p) (hp : scan n p = []) (hc0 : 0 ∉ chunks.flatten)
    (hr : f.Respects fuel chunks) :
    ∃ f', f.receiveAll fuel chunks = some (scan n (p ++ chunks.flatten), f') := by
  induction chunks generalizing f p with
  | nil => exact ⟨f, by simp [receiveAll, hp]⟩
  | cons chunk chunks ih =>
    simp only [List.flatten_cons, List.mem_append, not_or] at hc0
    obtain ⟨-, hlen, hr⟩ := hr
    obtain ⟨msgs, f₁, p', hrec, hf₁, hp0', hp', hs⟩ := receive_spec hn hfuel hf hp0 hc0.1 hlen
    obtain ⟨f', hall⟩ := ih hf₁ hp0' hp' hc0.2 (hr _ _ hrec)
    refine ⟨f', ?_⟩
    rw [receiveAll, hrec]
    show (receiveAll fuel f₁ chunks).bind _ = _
    rw [hall, List.flatten_cons, hs]
    rfl

/-- There is always room for a byte: a stream can be received at least byte by byte. -/
theorem respects_singletons (hn : 0 < n) {fuel : Nat} (hfuel : n < fuel) (hf : Idle f p) (hp0 : 0 ∉ p)
    {s : List UInt8} (hs0 : 0 ∉ s) : f.Respects fuel (s.map fun b => [b]) := by
  induction s generalizing f p with
  | nil => trivial
  | cons b s ih =>
    simp only [List.mem_cons, not_or] at hs0
    have hlen : (([b] : List UInt8).length : Int) ≤ f.getBufLength := by
      have := hf.room
      rw [getBufLength, hf.bufpos, List.length_singleton]
      omega
    refine ⟨Nat.le_refl _, hlen, fun msgs f' h => ?_⟩
    obtain ⟨msgs', f'', p', hrec, hf', hp', -, -⟩ :=
      receive_spec hn hfuel hf hp0 (by simpa using hs0.1) hlen
    obtain ⟨-, rfl⟩ := Prod.mk.inj (Option.some.inj (hrec.symm.trans h))
    exact ih hf' hp' hs0.2

theorem createFramedMsg_spec {m : List UInt8} (h2 : 0x02 ∉ m) (h3 : 0x03 ∉ m) (h0 : 0 ∉ m) :
    createFramedMsg m m.length = some (frame m) := by
  have e2 : CString.strchr 0x02 (m ++ [0]) = some none := CString.strchr_of_not_mem (by decide) h2 h0
  have e3 : CString.strchr 0x03 (m ++ [0]) = some none := CString.strchr_of_not_mem (by decide) h3 h0
  rw [createFramedMsg, e2, e3, List.take_length]
  rfl

theorem mapM_createFramedMsg {ms : List (List UInt8)} (h : ∀ m ∈ ms, 0x02 ∉ m ∧ 0x03 ∉ m ∧ 0 ∉ m) :
    (ms.mapM fun m => createFramedMsg m m.length) = some (ms.map frame) := by
  induction ms with
  | nil => rfl
  | cons m ms ih =>
    obtain ⟨h2, h3, h0⟩ := h m (by simp)
    rw [List.mapM_cons, createFramedMsg_spec h2 h3 h0, ih fun m hm => h m (by simp [hm])]
    rfl

/-- What a client of the framer gets: the reference scan of the stream, however it arrives, and so
the same messages for every two ways of cutting it. Messages framed by `msgFramer_createFramedMsg`
come out as they went in, if all of them fit. -/
theorem stream_contract :
    (∀ fuel chunks, MSG_FRAMER_MAX_BUF_SIZE < fuel → 0 ∉ chunks.flatten →
      (MSG_FRAMER_INITIALIZER MSG_FRAMER_MAX_BUF_SIZE).Respects fuel chunks →
      ∃ f, (MSG_FRAMER_INITIALIZER MSG_FRAMER_MAX_BUF_SIZE).receiveAll fuel chunks =
        some (scan MSG_FRAMER_MAX_BUF_SIZE chunks.flatten, f)) ∧
    (∀ ms, (∀ m ∈ ms, 0x02 ∉ m ∧ 0x03 ∉ m ∧ 0 ∉ m ∧ m.length + 2 ≤ MSG_FRAMER_MAX_BUF_SIZE) →
      ∃ framed, (ms.mapM fun m => createFramedMsg m m.length) = some framed ∧
        ∀ fuel chunks, MSG_FRAMER_MAX_BUF_SIZE < fuel → chunks.flatten = framed.flatten →
          (MSG_FRAMER_INITIALIZER MSG_FRAMER_MAX_BUF_SIZE).Respects fuel chunks →
          ∃ f, (MSG_FRAMER_INITIALIZER MSG_FRAMER_MAX_BUF_SIZE).receiveAll fuel chunks = some (ms, f)) := by
  have hn : 0 < MSG_FRAMER_MAX_BUF_SIZE := by decide
  have hscan : ∀ fuel chunks, MSG_FRAMER_MAX_BUF_SIZE < fuel → 0 ∉ chunks.flatten →
      (MSG_FRAMER_INITIALIZER MSG_FRAMER_MAX_BUF_SIZE).Respects fuel chunks →
      ∃ f, (MSG_FRAMER_INITIALIZER MSG_FRAMER_MAX_BUF_SIZE).receiveAll fuel chunks =
        some (scan MSG_FRAMER_MAX_BUF_SIZE chunks.flatten, f) :=
    fun fuel chunks hfuel h0 hr =>
      receiveAll_spec hn hfuel (idle_init hn) List.not_mem_nil (scan_noStart hn List.not_mem_nil) h0 hr
  refine ⟨hscan, fun ms hms => ⟨ms.map frame, ?_, fun fuel chunks hfuel hflat hr => ?_⟩⟩
  · exact mapM_createFramedMsg fun m hm => ⟨(hms m hm).1, (hms m hm).2.1, (hms m hm).2.2.1⟩
  · rw [← List.flatMap_def] at hflat
    have h0 : 0 ∉ chunks.flatten := by
      rw [hflat, List.mem_flatMap]
      rintro ⟨m, hm, h0⟩
      exact (hms m hm).2.2.1 (by simpa [frame] using h0)
    obtain ⟨f, hf⟩ := hscan fuel chunks hfuel h0 hr
    rw [hflat, scan_frames hn ms fun m hm => ⟨(hms m hm).2.1, (length_frame m).symm ▸ (hms m hm).2.2.2⟩] at hf
    exact ⟨f, hf⟩

/-- A stream received byte by byte: noise, a message with an STX in it, and the start of another. -/
theorem stream_contract_bytes :
    (∃ f, (MSG_FRAMER_INITIALIZER MSG_FRAMER_MAX_BUF_SIZE).receiveAll 20001
      ([0x41, 0x02, 0x42, 0x02, 0x03, 0x02].map fun b => [b]) = some ([[0x42, 0x02]], f)) ∧
    ∃ framed, (([[0x42]] : List (List UInt8)).mapM fun m => createFramedMsg m m.length) = some framed ∧
      ∃ f, (MSG_FRAMER_INITIALIZER MSG_FRAMER_MAX_BUF_SIZE).receiveAll 20001
        ([0x02, 0x42, 0x03].map fun b => [b]) = some ([[0x42]], f) := by
  have hn : 0 < MSG_FRAMER_MAX_BUF_SIZE := by decide
  have hfuel : MSG_FRAMER_MAX_BUF_SIZE < 20001 := by decide
  refine ⟨stream_contract.1 20001 _ hfuel (by decide)
    (respects_singletons hn hfuel (idle_init hn) List.not_mem_nil (by decide)), ?_⟩
  obtain ⟨framed, hframed, h⟩ := stream_contract.2 [[0x42]] (by decide)
  refine ⟨framed, hframed, h 20001 _ hfuel ?_
    (respects_singletons hn hfuel (idle_init hn) List.not_mem_nil (by decide))⟩
  obtain rfl := Option.some.inj hframed
  rfl

end V2xHub.MsgFramer
