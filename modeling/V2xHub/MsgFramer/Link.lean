import V2xHub.MsgFramer.Stream

/-!
# One direction of a connection

The bytes between a `send` or `write` and the framer of the thread that receives them. The socket takes the bytes of a call in
pieces, as it has room for them, and where two calls overlap it takes pieces of both.

`Link.Carries l ts`: the messages `ts` are on their way, in a call, the wire or the buffer, whatever is sent behind them. Where
no call is in progress a sent message goes to the end (`Carries.send`), a piece of the call changes nothing (`Carries.write`),
and a `recv` of any length takes messages off the front (`Carries.receive`).
-/

namespace V2xHub

/-- `writes` are the calls in progress, with what is left of their bytes. -/
structure Link (ω : Type*) where
  wire : List UInt8
  writes : List (ω × List UInt8)
  framer : MsgFramer MSG_FRAMER_MAX_BUF_SIZE

namespace Link
variable {ω : Type*}

def init : Link ω := ⟨[], [], .MSG_FRAMER_INITIALIZER MSG_FRAMER_MAX_BUF_SIZE⟩

/-- `msgFramer_createFramedMsg` and the call of `send` or `write`. -/
def send (l : Link ω) (writer : ω) (text : Str) : Option (Link ω) :=
  (MsgFramer.createFramedMsg text text.length).map fun framedMsg => { l with writes := l.writes ++ [(writer, framedMsg)] }

/-- The socket takes `n` bytes of a call. -/
def write (l : Link ω) (i n : Nat) : Option (Link ω) :=
  match l.writes[i]? with
  | none => none
  | some (writer, rest) =>
    if 1 ≤ n ∧ n ≤ rest.length then
      some { l with
        wire := l.wire ++ rest.take n
        writes := if n = rest.length then l.writes.eraseIdx i else l.writes.set i (writer, rest.drop n) }
    else none

/-- What the calls in progress have not handed over. -/
def unwritten (l : Link ω) : List UInt8 := l.writes.flatMap Prod.snd

/-- `recv` returns `k` bytes, and the loop takes out the messages. -/
def receive (l : Link ω) (k : Nat) : Option (List Str × Link ω) :=
  if 1 ≤ k ∧ k ≤ l.wire.length ∧ k ≤ l.framer.getBufLength then
    (l.framer.receive (MSG_FRAMER_MAX_BUF_SIZE + 1) (l.wire.take k)).map fun r => (r.1, ⟨l.wire.drop k, l.writes, r.2⟩)
  else none

/-- The messages that are on their way, where calls do not overlap. -/
def Carries (l : Link ω) (ts : List Str) : Prop :=
  ∃ p, MsgFramer.Idle l.framer p ∧ 0 ∉ p ∧ MsgFramer.scan MSG_FRAMER_MAX_BUF_SIZE p = [] ∧ 0 ∉ l.wire ++ l.unwritten ∧
    (l.writes.length ≤ 1 ∧ ∀ w ∈ l.writes, w.2 ≠ []) ∧
    ∀ s, MsgFramer.scan MSG_FRAMER_MAX_BUF_SIZE (p ++ (l.wire ++ l.unwritten ++ s)) =
      ts ++ MsgFramer.scan MSG_FRAMER_MAX_BUF_SIZE s

/-- A text that the framing can carry. -/
def Fits (text : Str) : Prop := (MsgFramer.frame text).length ≤ MSG_FRAMER_MAX_BUF_SIZE

instance : DecidablePred Fits := fun text =>
  inferInstanceAs (Decidable ((MsgFramer.frame text).length ≤ MSG_FRAMER_MAX_BUF_SIZE))

variable {l l' : Link ω} {ts : List Str} {text : Str} {i k n : Nat}

theorem bufSize_pos : 0 < MSG_FRAMER_MAX_BUF_SIZE := by decide

theorem carries_init : (init : Link ω).Carries [] :=
  ⟨[], MsgFramer.idle_init bufSize_pos, List.not_mem_nil, MsgFramer.scan_noStart bufSize_pos List.not_mem_nil,
    List.not_mem_nil, ⟨Nat.zero_le 1, fun _ hw => absurd hw List.not_mem_nil⟩, fun _ => rfl⟩

theorem send_eq (h : CString.Printable text) (writer : ω) :
    l.send writer text = some { l with writes := l.writes ++ [(writer, MsgFramer.frame text)] } := by
  rw [send, MsgFramer.createFramedMsg_spec (h.not_mem (by decide)) (h.not_mem (by decide)) (h.not_mem (by decide))]
  rfl

theorem receive_guard {r : List Str × Link ω} (h : l.receive k = some r) :
    1 ≤ k ∧ k ≤ l.wire.length ∧ k ≤ l.framer.getBufLength := by
  by_contra hno
  rw [receive, if_neg hno] at h
  nomatch h

theorem length_receive {msgs : List Str} (h : l.receive k = some (msgs, l')) :
    l'.wire.length < l.wire.length ∧ l'.writes = l.writes := by
  have hk := receive_guard h
  rw [receive, if_pos hk, Option.map_eq_some_iff] at h
  obtain ⟨r, -, hr⟩ := h
  obtain ⟨-, rfl⟩ := Prod.mk.inj hr
  refine ⟨?_, rfl⟩
  rw [List.length_drop]
  omega

theorem unwritten_singleton (writer : ω) (rest : List UInt8) (hwrites : l.writes = [(writer, rest)]) : l.unwritten = rest := by
  rw [unwritten, hwrites, List.flatMap_singleton]

/-- A piece of the only call in progress. -/
theorem write_eq {writer : ω} {rest : List UInt8} (hwrites : l.writes = [(writer, rest)]) (h : l.write i n = some l') :
    1 ≤ n ∧ n ≤ rest.length ∧
      l' = { l with wire := l.wire ++ rest.take n, writes := if n = rest.length then [] else [(writer, rest.drop n)] } := by
  rw [write, hwrites] at h
  cases i with
  | zero =>
    obtain ⟨⟨hpos, hle⟩, h⟩ := Option.ite_none_right_eq_some.1 h
    refine ⟨hpos, hle, (Option.some.inj h).symm.trans ?_⟩
    split_ifs <;> rfl
  | succ i => nomatch h

namespace Carries

/-- Where no call is in progress, a message that fits goes behind those that are on their way. -/
theorem send (h : l.Carries ts) (hidle : l.writes = []) (writer : ω) (htext : CString.Printable text) (hfits : Fits text) :
    ∃ l', l.send writer text = some l' ∧ l'.Carries (ts ++ [text]) ∧ l'.wire = l.wire ∧
      l'.unwritten.length ≤ MSG_FRAMER_MAX_BUF_SIZE := by
  obtain ⟨p, hbuf, hp, hnone, hwire, -, hscan⟩ := h
  have hold : l.unwritten = [] := by rw [unwritten, hidle, List.flatMap_nil]
  have hnew : ({ l with writes := l.writes ++ [(writer, MsgFramer.frame text)] } : Link ω).unwritten = MsgFramer.frame text :=
    unwritten_singleton writer _ (by rw [hidle, List.nil_append])
  have h0 : 0 ∉ MsgFramer.frame text := by simpa [MsgFramer.frame] using htext.not_mem (by decide)
  rw [hold, List.append_nil] at hwire hscan
  refine ⟨_, send_eq htext writer, ⟨p, hbuf, hp, hnone, ?_, ⟨?_, ?_⟩, fun s => ?_⟩, rfl, ?_⟩
  · rw [hnew]
    exact fun hmem => (List.mem_append.1 hmem).elim hwire h0
  · rw [hidle]
    exact Nat.le_refl 1
  · rw [hidle]
    exact List.forall_mem_singleton.2 (List.cons_ne_nil _ _)
  · have hframe : MsgFramer.frame text ++ s = 0x02 :: (text ++ 0x03 :: s) := by simp [MsgFramer.frame]
    have hlen : text.length + 2 ≤ MSG_FRAMER_MAX_BUF_SIZE := MsgFramer.length_frame text ▸ hfits
    rw [hnew, List.append_assoc, hscan, hframe, MsgFramer.scan_message bufSize_pos (htext.not_mem (by decide)) hlen]
    simp
  · rw [hnew]
    exact hfits

/-- The bytes of a call come onto the wire in their order. -/
theorem write (h : l.Carries ts) (hwrite : l.write i n = some l') :
    l'.Carries ts ∧ l'.wire.length + l'.unwritten.length = l.wire.length + l.unwritten.length ∧
      l'.unwritten.length < l.unwritten.length := by
  obtain ⟨p, hbuf, hp, hnone, hwire, ⟨hone, hne⟩, hscan⟩ := h
  obtain ⟨⟨writer, rest⟩, hwrites⟩ : ∃ w, l.writes = [w] := by
    rcases hl : l.writes with _ | ⟨w, _ | ⟨w', writes⟩⟩
    · rw [Link.write, hl] at hwrite
      nomatch hwrite
    · exact ⟨w, rfl⟩
    · rw [hl] at hone
      simp at hone
  obtain ⟨hpos, hle, rfl⟩ := write_eq hwrites hwrite
  have hold : l.unwritten = rest := unwritten_singleton writer rest hwrites
  have hnew : ({ l with wire := l.wire ++ rest.take n, writes := if n = rest.length then [] else [(writer, rest.drop n)] } :
      Link ω).unwritten = rest.drop n := by
    by_cases hall : n = rest.length
    · rw [unwritten, if_pos hall, hall, List.drop_length, List.flatMap_nil]
    · exact unwritten_singleton writer _ (if_neg hall)
  have hsame : (l.wire ++ rest.take n) ++ rest.drop n = l.wire ++ l.unwritten := by
    rw [List.append_assoc, List.take_append_drop, hold]
  have hleft : (if n = rest.length then [] else [(writer, rest.drop n)]).length ≤ 1 ∧
      ∀ w ∈ (if n = rest.length then [] else [(writer, rest.drop n)]), w.2 ≠ [] := by
    split_ifs with hall
    · exact ⟨Nat.zero_le 1, fun _ hw => absurd hw List.not_mem_nil⟩
    · refine ⟨Nat.le_refl 1, List.forall_mem_singleton.2 fun hnil => hall ?_⟩
      exact Nat.le_antisymm hle (List.drop_eq_nil_iff.1 hnil)
  refine ⟨⟨p, hbuf, hp, hnone, ?_, hleft, fun s => ?_⟩, ?_, ?_⟩
  · rw [hnew, hsame]
    exact hwire
  · rw [hnew, hsame]
    exact hscan s
  · rw [hnew, ← List.length_append, hsame, List.length_append]
  · rw [hnew, hold, List.length_drop]
    omega

/-- What a `recv` takes off, and what is left. -/
theorem receive (h : l.Carries ts) (h1 : 1 ≤ k) (hk : k ≤ l.wire.length) (hbuf : k ≤ l.framer.getBufLength) :
    ∃ msgs l' ts', l.receive k = some (msgs, l') ∧ ts = msgs ++ ts' ∧ l'.Carries ts' := by
  obtain ⟨p, hidle, hp, -, hwire, hwrites, hscan⟩ := h
  have htake : 0 ∉ l.wire.take k := fun h => hwire (List.mem_append_left _ (List.mem_of_mem_take h))
  have hlen : ((l.wire.take k).length : Int) ≤ l.framer.getBufLength := by rwa [List.length_take, Nat.min_eq_left hk]
  obtain ⟨msgs, f', p', hrec, hidle', hp', hnone', hs⟩ :=
    MsgFramer.receive_spec bufSize_pos (Nat.lt_succ_self _) hidle hp htake hlen
  have hsplit : ∀ s, ts ++ MsgFramer.scan MSG_FRAMER_MAX_BUF_SIZE s =
      msgs ++ MsgFramer.scan MSG_FRAMER_MAX_BUF_SIZE (p' ++ (l.wire.drop k ++ l.unwritten ++ s)) := by
    intro s
    rw [← hscan, ← hs, ← List.append_assoc (l.wire.take k), ← List.append_assoc (l.wire.take k), List.take_append_drop]
  have hts : ts = msgs ++ MsgFramer.scan MSG_FRAMER_MAX_BUF_SIZE (p' ++ (l.wire.drop k ++ l.unwritten)) := by
    have hnil := hsplit []
    rwa [MsgFramer.scan_noStart bufSize_pos List.not_mem_nil, List.append_nil, List.append_nil] at hnil
  have hleft : 0 ∉ l.wire.drop k ++ l.unwritten := fun h =>
    hwire (List.mem_append.2 ((List.mem_append.1 h).imp_left List.mem_of_mem_drop))
  refine ⟨msgs, ⟨l.wire.drop k, l.writes, f'⟩, _, ?_, hts, p', hidle', hp', hnone', hleft, hwrites, fun s => ?_⟩
  · rw [Link.receive, if_pos ⟨h1, hk, hbuf⟩, hrec]
    rfl
  · have hcancel := hsplit s
    rw [hts, List.append_assoc] at hcancel
    exact (List.append_cancel_left hcancel).symm

/-- There is room for at least one byte. -/
theorem receive_one (h : l.Carries ts) (hwire : l.wire ≠ []) : ∃ r, l.receive 1 = some r := by
  have hroom : ((1 : Nat) : Int) ≤ l.framer.getBufLength := by
    obtain ⟨p, hidle, -⟩ := h
    have hlt := hidle.room
    rw [MsgFramer.getBufLength, hidle.bufpos]
    omega
  obtain ⟨msgs, l', ts', hrec, -⟩ := h.receive (Nat.le_refl 1) (List.length_pos_of_ne_nil hwire) hroom
  exact ⟨_, hrec⟩

theorem receive_of_some {msgs : List Str} (h : l.Carries ts) (hrec : l.receive k = some (msgs, l')) :
    ∃ ts', ts = msgs ++ ts' ∧ l'.Carries ts' := by
  have hk := receive_guard hrec
  obtain ⟨msgs', l'', ts', hrec', hts, hl⟩ := h.receive hk.1 hk.2.1 hk.2.2
  obtain ⟨rfl, rfl⟩ := Prod.mk.inj (Option.some.inj (hrec'.symm.trans hrec))
  exact ⟨ts', hts, hl⟩

/-- The socket can take a byte of a call in progress. -/
theorem write_one (h : l.Carries ts) (hwrites : l.writes ≠ []) : ∃ l', l.write 0 1 = some l' := by
  obtain ⟨p, -, -, -, -, ⟨-, hne⟩, -⟩ := h
  obtain ⟨⟨writer, rest⟩, writes, hl⟩ := List.exists_cons_of_ne_nil hwrites
  have hrest : rest ≠ [] := hne (writer, rest) (hl ▸ List.mem_cons_self)
  rw [Link.write, hl]
  exact ⟨_, if_pos ⟨Nat.le_refl 1, List.length_pos_of_ne_nil hrest⟩⟩

/-- Nothing is on its way where the wire is empty and no call is in progress. -/
theorem eq_nil (h : l.Carries ts) (hwire : l.wire = []) (hwrites : l.writes = []) : ts = [] := by
  obtain ⟨p, -, -, hnone, -, -, hscan⟩ := h
  have hs := hscan []
  rw [hwire, unwritten, hwrites, List.flatMap_nil, List.append_nil, List.append_nil, List.append_nil, hnone] at hs
  exact (List.append_eq_nil_iff.1 hs.symm).1

end Carries
end Link
end V2xHub
