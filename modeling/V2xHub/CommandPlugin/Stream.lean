import V2xHub.Lib.Machine
import V2xHub.TmxUtils.Base64
import Mathlib.Data.List.TakeWhile

/-!
# The stream of an admin session

`CommandPlugin::WSCallbackBASE64` reads messages between 0x02 and 0x03 from the websocket texts of a session, and `SendData`
sends the output buffer of the session in websocket texts. Both ways the bytes are in base64.
-/

namespace V2xHub.CommandPlugin

def READ_BUFFER_SIZE : Nat := 5000

def MAX_SEND_BYTES : Nat := 5000

/-! ### Incoming -/

/-- What a message is executed as, as far as the stream is concerned: an upload request that is accepted empties the text that is
being read. -/
inductive Executed where
  | logout
  | uploadfile
  | other
deriving DecidableEq

/-- The first `bufferLength` bytes of the buffer, and the number of messages that were processed. -/
structure Reader where
  buffer : Str
  count : Nat

def Reader.init : Reader := ⟨[], 0⟩

/-- `executed n` is the message that is processed behind `n` others. -/
def Reader.read (executed : Nat → Executed) (r : Reader) (c : UInt8) : Reader × Option Str :=
  if c = 2 then ({ r with buffer := [] }, none)
  else if c = 3 then
    if r.buffer.length > 0 then
      if r.buffer.length ≥ READ_BUFFER_SIZE then (r, none)
      -- the buffer is read as a C string, and stays as it is
      else (⟨if executed r.count = .logout then [] else r.buffer, r.count + 1⟩, some (r.buffer.takeWhile (· ≠ 0)))
    else (r, none)
  else if r.buffer.length ≥ READ_BUFFER_SIZE then (r, none)
  else ({ r with buffer := r.buffer ++ [c] }, none)

/-- The byte ends an upload request that is accepted. -/
def Reader.Empties (executed : Nat → Executed) (r : Reader) (c : UInt8) : Prop :=
  (r.read executed c).2.isSome ∧ executed r.count = .uploadfile

instance (executed : Nat → Executed) (r : Reader) (c : UInt8) : Decidable (r.Empties executed c) :=
  inferInstanceAs (Decidable (_ ∧ _))

/-- What is processed at each byte of a text; what is behind an upload request is not read. -/
def Reader.readAll (executed : Nat → Executed) (r : Reader) : Str → Reader × List (Option Str)
  | [] => (r, [])
  | c :: cs =>
    let (r', processed) := r.read executed c
    if r.Empties executed c then (r', processed :: cs.map fun _ => none)
    else
      let (r'', rest) := r'.readAll executed cs
      (r'', processed :: rest)

/-- `LWS_CALLBACK_RECEIVE`, one text after the other: what is processed at each byte. -/
def receive (executed : Nat → Executed) : Reader → List Str → List (Option Str)
  | _, [] => []
  | r, text :: texts =>
    let (r', processed) := r.readAll executed (Base64.Decode text)
    processed ++ receive executed r' texts

/-- The body that a message has so far, if the last delimiter is a 0x02. -/
def opened (body : Option Str) (c : UInt8) : Option Str :=
  if c = 2 then some [] else if c = 3 then none else body.map (· ++ [c])

/-- A body to process. -/
def Fits (body : Str) : Prop := 0 < body.length ∧ body.length ≤ READ_BUFFER_SIZE - 1

instance (body : Str) : Decidable (Fits body) := inferInstanceAs (Decidable (_ ∧ _))

/-- What is to be processed at each byte: at a 0x03 the body behind the last 0x02, if there is no other 0x03 in between. -/
def bodies : Option Str → Str → List (Option Str)
  | _, [] => []
  | body, c :: cs => (if c = 3 then body.filter fun b => Fits b else none) :: bodies (opened body c) cs

/-- The buffer has nothing that a 0x03 processes. -/
def Reader.Idle (r : Reader) : Prop := r.buffer.length = 0 ∨ READ_BUFFER_SIZE ≤ r.buffer.length

/-- The 0x03 does not process anything again, and no body holds a zero byte. A body that started in a text that was emptied is not
to be processed, and nothing is in its place, if the buffer does not happen to have the same bytes. -/
def CleanEnd (r : Reader) (lost : Bool) : Option Str → Prop
  | none => r.Idle
  | some b =>
    if lost then if Fits b then r.buffer.length < READ_BUFFER_SIZE ∧ r.buffer.takeWhile (· ≠ 0) = b else r.Idle
    else Fits b → 0 ∉ b

/-- The bytes of a text are clean, and so is what comes behind it; where the text is emptied, nothing is to be processed in the
rest of it. `lost` says that a body started in such a rest. -/
def CleanText (executed : Nat → Executed) (next : Reader → Option Str → Bool → Prop) :
    Reader → Option Str → Bool → Str → Prop
  | r, body, lost, [] => next r body lost
  | r, body, lost, c :: cs => (c = 3 → CleanEnd r lost body) ∧
    if r.Empties executed c then (∀ b ∈ bodies none cs, b = none) ∧ next (r.read executed c).1 (cs.foldl opened none) true
    else CleanText executed next (r.read executed c).1 (opened body c) (lost && decide (c ≠ 2)) cs

def Clean (executed : Nat → Executed) : Reader → Option Str → Bool → List Str → Prop
  | _, _, _, [] => True
  | r, body, lost, text :: texts =>
    CleanText executed (fun r body lost => Clean executed r body lost texts) r body lost text

variable {executed : Nat → Executed} {r : Reader} {body : Option Str} {lost : Bool} {b : Str} {c : UInt8} {cs : Str}

/-- Between a 0x02 and the next delimiter the buffer is the body, as far as it has room. -/
def Follows (r : Reader) (body : Option Str) : Prop := ∀ b, body = some b → r.buffer = b.take READ_BUFFER_SIZE

theorem read_start : r.read executed 2 = ({ r with buffer := [] }, none) := rfl

theorem read_end (hlength : 0 < r.buffer.length) (hsize : r.buffer.length < READ_BUFFER_SIZE) : r.read executed 3 =
    (⟨if executed r.count = .logout then [] else r.buffer, r.count + 1⟩, some (r.buffer.takeWhile (· ≠ 0))) := by
  rw [Reader.read, if_neg (by decide), if_pos rfl, if_pos hlength, if_neg (by omega)]

theorem read_end_idle (h : r.Idle) : r.read executed 3 = (r, none) := by
  rw [Reader.read, if_neg (by decide), if_pos rfl]
  rcases h with hlength | hsize
  · rw [if_neg (by omega)]
  · by_cases hlength : r.buffer.length > 0
    · rw [if_pos hlength, if_pos hsize]
    · rw [if_neg hlength]

theorem read_byte (h2 : c ≠ 2) (h3 : c ≠ 3) : r.read executed c =
    (if r.buffer.length ≥ READ_BUFFER_SIZE then r else { r with buffer := r.buffer ++ [c] }, none) := by
  rw [Reader.read, if_neg h2, if_neg h3]
  split_ifs <;> rfl

theorem not_idle : ¬ r.Idle ↔ 0 < r.buffer.length ∧ r.buffer.length < READ_BUFFER_SIZE := by
  rw [Reader.Idle]
  omega

theorem read_none (h3 : c ≠ 3) : (r.read executed c).2 = none := by
  by_cases h2 : c = 2
  · rw [h2, read_start]
  · rw [read_byte h2 h3]

theorem Follows.read (h : Follows r body) : Follows (r.read executed c).1 (opened body c) := by
  intro b hb
  rw [opened] at hb
  split_ifs at hb with h2 h3
  · obtain rfl := Option.some.inj hb
    rw [h2, read_start, List.take_nil]
  · obtain ⟨b', hb', rfl⟩ := Option.map_eq_some_iff.1 hb
    have hbuffer := h b' hb'
    rw [read_byte h2 h3]
    have hlength : r.buffer.length = min READ_BUFFER_SIZE b'.length := by rw [hbuffer, List.length_take]
    split_ifs with hfull
    · rw [hbuffer, List.take_append_of_le_length (by omega)]
    · have hroom : b'.length < READ_BUFFER_SIZE := by omega
      have htake : b'.take READ_BUFFER_SIZE = b' := List.take_of_length_le (Nat.le_of_lt hroom)
      have htake' : (b' ++ [c]).take READ_BUFFER_SIZE = b' ++ [c] := by
        refine List.take_of_length_le ?_
        rw [List.length_append, List.length_singleton]
        exact hroom
      rw [htake', hbuffer, htake]

/-- A body that starts is in the buffer, whatever was lost before. -/
theorem follows_read (h : lost = false → Follows r body) (hlost : (lost && decide (c ≠ 2)) = false) :
    Follows (r.read executed c).1 (opened body c) := by
  cases hl : lost with
  | false => exact (h hl).read
  | true =>
    obtain rfl : c = 2 := by simpa [hl] using hlost
    intro b hb
    obtain rfl := Option.some.inj hb
    rw [read_start, List.take_nil]

/-- The body between two delimiters, in the buffer. -/
theorem Follows.fits_iff (h : Follows r (some b)) :
    Fits b ↔ 0 < r.buffer.length ∧ r.buffer.length < READ_BUFFER_SIZE := by
  have hbuffer := h b rfl
  have hlength : r.buffer.length = min READ_BUFFER_SIZE b.length := by rw [hbuffer, List.length_take]
  rw [Fits, hlength]
  unfold READ_BUFFER_SIZE
  omega

theorem Follows.eq_of_fits (h : Follows r (some b)) (hfits : Fits b) : r.buffer = b := by
  have hlength : b.length ≤ READ_BUFFER_SIZE := Nat.le_trans hfits.2 (Nat.sub_le _ _)
  rw [h b rfl, List.take_of_length_le hlength]

theorem takeWhile_eq_iff : b.takeWhile (· ≠ 0) = b ↔ 0 ∉ b := by
  rw [List.takeWhile_eq_self_iff]
  simp only [ne_eq, decide_not, Bool.not_eq_true', decide_eq_false_iff_not]
  exact ⟨fun h h0 => h 0 h0 rfl, fun h c hc h0 => h (h0 ▸ hc)⟩

/-- Nothing is processed exactly if the buffer is idle. -/
theorem read_end_none : (r.read executed 3).2 = none ↔ r.Idle := by
  by_cases hidle : r.Idle
  · exact iff_of_true (by rw [read_end_idle hidle]) hidle
  · obtain ⟨hlength, hsize⟩ := not_idle.1 hidle
    rw [read_end hlength hsize]
    exact iff_of_false (by simp) hidle

/-- A body is processed exactly if it is what the buffer has as a C string. -/
theorem read_end_some (hfits : Fits b) :
    (r.read executed 3).2 = some b ↔ r.buffer.length < READ_BUFFER_SIZE ∧ r.buffer.takeWhile (· ≠ 0) = b := by
  by_cases hidle : r.Idle
  · rw [read_end_idle hidle]
    refine iff_of_false (by simp) fun ⟨hsize, hbody⟩ => ?_
    have hempty : r.buffer = [] := List.length_eq_zero_iff.1 (hidle.resolve_right (Nat.not_le.2 hsize))
    rw [hempty, List.takeWhile_nil] at hbody
    exact absurd hfits.1 (by simp [← hbody])
  · obtain ⟨hlength, hsize⟩ := not_idle.1 hidle
    rw [read_end hlength hsize, Option.some.injEq]
    exact (and_iff_right hsize).symm

/-- At a byte the right thing is processed exactly if it is clean. -/
theorem read_iff (h : lost = false → Follows r body) :
    (r.read executed c).2 = (if c = 3 then body.filter fun b => Fits b else none) ↔ (c = 3 → CleanEnd r lost body) := by
  by_cases h3 : c = 3
  · subst h3
    rw [if_pos rfl, forall_prop_of_true rfl]
    cases body with
    | none => exact read_end_none
    | some b =>
      by_cases hfits : Fits b
      · rw [Option.filter_some_pos (by simpa using hfits), read_end_some hfits, CleanEnd]
        cases hlost : lost with
        | true => rw [if_pos rfl, if_pos hfits]
        | false =>
          have hsync := h hlost
          have hbuffer := hsync.eq_of_fits hfits
          rw [if_neg Bool.false_ne_true, forall_prop_of_true hfits, hbuffer, takeWhile_eq_iff]
          exact and_iff_right (hbuffer ▸ (hsync.fits_iff.1 hfits).2)
      · rw [Option.filter_some_neg (by simpa using hfits), read_end_none, CleanEnd]
        cases hlost : lost with
        | true => rw [if_pos rfl, if_neg hfits]
        | false =>
          rw [if_neg Bool.false_ne_true]
          exact iff_of_true (by_contra fun hidle => hfits ((h hlost).fits_iff.2 (not_idle.1 hidle))) fun hf => absurd hf hfits
  · rw [if_neg h3, read_none h3]
    exact iff_of_true rfl fun hc => absurd hc h3

theorem length_bodies (body : Option Str) (cs : Str) : (bodies body cs).length = cs.length := by
  induction cs generalizing body with
  | nil => rfl
  | cons c cs ih => rw [bodies, List.length_cons, ih, List.length_cons]

theorem bodies_append (body : Option Str) (cs ds : Str) :
    bodies body (cs ++ ds) = bodies body cs ++ bodies (cs.foldl opened body) ds := by
  induction cs generalizing body with
  | nil => rfl
  | cons c cs ih => rw [List.cons_append, bodies, bodies, ih, List.foldl_cons, List.cons_append]

/-- The rest of a text that was emptied. -/
theorem none_eq_bodies : (cs.map fun _ => none) = bodies none cs ↔ ∀ b ∈ bodies none cs, b = none := by
  rw [List.map_const', eq_comm, List.eq_replicate_iff]
  exact and_iff_right (length_bodies none cs)

/-- The right things are processed in a text and behind it exactly if they are clean. -/
theorem readAll_iff {rest : Reader → List (Option Str)} {ds : Str} {next : Reader → Option Str → Bool → Prop}
    (hnext : ∀ r body lost, (lost = false → Follows r body) → (rest r = bodies body ds ↔ next r body lost))
    (h : lost = false → Follows r body) :
    (r.readAll executed cs).2 ++ rest (r.readAll executed cs).1 = bodies body (cs ++ ds) ↔
      CleanText executed next r body lost cs := by
  induction cs generalizing r body lost with
  | nil => exact hnext r body lost h
  | cons c cs ih =>
    have hread : (r.read executed c).2 = _ ↔ _ := read_iff h
    rw [CleanText, ← hread, List.cons_append, bodies, Reader.readAll]
    dsimp only
    split_ifs with hempties h3 h3
    · subst h3
      have hopened : opened body 3 = none := rfl
      have hlength : (cs.map fun _ => (none : Option Str)).length = (bodies none cs).length := by rw [List.length_map, length_bodies]
      rw [hopened, List.cons_append, List.cons_eq_cons, bodies_append, ← none_eq_bodies,
        ← hnext _ (cs.foldl opened none) true fun h => absurd h (by simp)]
      exact and_congr_right fun _ => ⟨fun h => List.append_inj h hlength, fun h => congrArg₂ _ h.1 h.2⟩
    · exact absurd hempties.1 (by rw [read_none h3]; simp)
    · rw [List.cons_append, List.cons_eq_cons, ih fun hlost => follows_read h hlost]
    · rw [List.cons_append, List.cons_eq_cons, ih fun hlost => follows_read h hlost]

/-- However the stream is cut into texts. -/
theorem receive_iff (chunks : List Str) (h : lost = false → Follows r body) :
    receive executed r (chunks.map Base64.Encode) = bodies body chunks.flatten ↔ Clean executed r body lost chunks := by
  induction chunks generalizing r body lost with
  | nil => exact iff_of_true rfl trivial
  | cons chunk chunks ih =>
    rw [List.map_cons, receive, Base64.Decode_Encode, List.flatten_cons, Clean]
    exact readAll_iff (fun r body lost h => ih h) h

/-! ### Outgoing -/

/-- The output buffer of a session, with the texts sent and the frames appended since it was opened or logged out. -/
structure Writer where
  outputbuffer : Str
  sent : List Str
  appended : List Str

def Writer.init : Writer := ⟨[], [], []⟩

/-- `choked n` is the answer to the `n`th call of `lws_send_pipe_choked`. -/
def chokeCount (choked : Nat → Bool) : Nat → Nat → Nat
  | 0, count => count
  | rounds + 1, count => if choked count then chokeCount choked rounds (count + 1) else count

/-- The chunk is cut off the buffer before the pipe is looked at. -/
def Writer.SendData (w : Writer) (choked : Nat → Bool) : Writer :=
  if w.outputbuffer.length = 0 then w
  else
    let chunk := if w.outputbuffer.length > MAX_SEND_BYTES then w.outputbuffer.take MAX_SEND_BYTES else w.outputbuffer
    let rest := if w.outputbuffer.length > MAX_SEND_BYTES then w.outputbuffer.drop MAX_SEND_BYTES else []
    { w with
      outputbuffer := rest
      sent := if chokeCount choked 4 0 < 4 then w.sent ++ [Base64.Encode chunk] else w.sent }

inductive Output where
  | append (frame : Str)
  | SendData (choked : Nat → Bool)
  /-- The buffer is cleared. -/
  | logout

def Writer.step (w : Writer) : Output → Option Writer
  | .append frame => some { w with outputbuffer := w.outputbuffer ++ frame, appended := w.appended ++ [frame] }
  | .SendData choked => some (w.SendData choked)
  | .logout => some .init

def writer : Machine Writer Output := ⟨Writer.init, Writer.step⟩

/-- What was sent and what is left are the frames. -/
def Writer.InSync (w : Writer) : Prop := (w.sent.map Base64.Decode).flatten ++ w.outputbuffer = w.appended.flatten

/-- One of four answers is that the pipe is not choked, or there is nothing to send. -/
def Flows (w : Writer) : Output → Prop
  | .SendData choked => w.outputbuffer = [] ∨ ∃ n < 4, choked n = false
  | _ => True

theorem chokeCount_lt {choked : Nat → Bool} {rounds count : Nat} :
    chokeCount choked rounds count < count + rounds ↔ ∃ n, count ≤ n ∧ n < count + rounds ∧ choked n = false := by
  induction rounds generalizing count with
  | zero => exact iff_of_false (Nat.lt_irrefl _) fun ⟨n, h1, h2, _⟩ => absurd h2 (Nat.not_lt.2 h1)
  | succ rounds ih =>
    rw [chokeCount]
    split_ifs with hchoked
    · rw [show count + (rounds + 1) = count + 1 + rounds by omega, ih]
      constructor
      · rintro ⟨n, h1, h2, h⟩
        exact ⟨n, by omega, h2, h⟩
      · rintro ⟨n, h1, h2, h⟩
        refine ⟨n, Nat.lt_of_le_of_ne h1 fun heq => ?_, h2, h⟩
        subst heq
        exact nomatch hchoked.symm.trans h
    · exact iff_of_true (by omega) ⟨count, Nat.le_refl _, by omega, Bool.eq_false_iff.2 hchoked⟩

/-- What a call of `SendData` takes off the buffer. -/
theorem chunk_rest {l : Str} (hl : l ≠ []) : ∃ chunk rest, chunk ≠ [] ∧ chunk ++ rest = l ∧
    chunk = (if l.length > MAX_SEND_BYTES then l.take MAX_SEND_BYTES else l) ∧
    rest = (if l.length > MAX_SEND_BYTES then l.drop MAX_SEND_BYTES else []) := by
  refine ⟨_, _, ?_, ?_, rfl, rfl⟩
  · split_ifs with hlength
    · intro h
      have htake := congrArg List.length h
      rw [List.length_take, List.length_nil] at htake
      unfold MAX_SEND_BYTES at *
      omega
    · exact hl
  · split_ifs
    · exact List.take_append_drop _ _
    · exact List.append_nil _

theorem inSync_send {w : Writer} {choked : Nat → Bool} (h : w.InSync) :
    (w.SendData choked).InSync ↔ Flows w (.SendData choked) := by
  rw [Writer.SendData, Flows]
  by_cases hempty : w.outputbuffer = []
  · rw [if_pos (List.length_eq_zero_iff.2 hempty)]
    exact iff_of_true h (.inl hempty)
  · rw [if_neg fun h => hempty (List.length_eq_zero_iff.1 h), or_iff_right hempty]
    have hcount : chokeCount choked 4 0 < 4 ↔ ∃ n < 4, choked n = false := by
      rw [show (4 : Nat) = 0 + 4 by rfl, chokeCount_lt]
      simp
    obtain ⟨chunk, rest, hne, happend, hchunk, hrest⟩ := chunk_rest hempty
    dsimp only
    rw [← hchunk, ← hrest, ← hcount]
    unfold Writer.InSync at h ⊢
    dsimp only
    split_ifs with hlt
    · refine iff_of_true ?_ hlt
      rw [List.map_append, List.flatten_append, List.map_singleton, List.flatten_singleton, Base64.Decode_Encode,
        List.append_assoc, happend, h]
    · -- the chunk is lost
      refine iff_of_false (fun hlost => hne ?_) hlt
      have hlength := congrArg List.length (hlost.trans h.symm)
      rw [← happend] at hlength
      simp only [List.length_append] at hlength
      exact List.length_eq_zero_iff.1 (by omega)

theorem inSync_step {w w' : Writer} {e : Output} (h : w.InSync) (hstep : w.step e = some w') : w'.InSync ↔ Flows w e := by
  cases e with
  | append frame =>
    obtain rfl := Option.some.inj hstep
    refine iff_of_true ?_ trivial
    unfold Writer.InSync at h ⊢
    rw [List.flatten_append, List.flatten_singleton, ← h, List.append_assoc]
  | SendData choked =>
    obtain rfl := Option.some.inj hstep
    exact inSync_send h
  | logout =>
    obtain rfl := Option.some.inj hstep
    exact iff_of_true rfl trivial

/-! ### Both ways -/

theorem admin_stream (executed : Nat → Executed) (chunks : List Str) (es : List Output) (w : Writer)
    (h : writer.exec writer.init es = some w) :
    (receive executed .init (chunks.map Base64.Encode) = bodies none chunks.flatten ↔
      Clean executed .init none false chunks) ∧
    ((∀ es' w', es' <+: es → writer.exec writer.init es' = some w' → w'.InSync) ↔ writer.Meets Flows writer.init es) := by
  constructor
  · exact receive_iff chunks fun _ b hb => absurd hb (by simp)
  · exact writer.always_iff_meets (I := fun _ w => w.InSync) (P := fun _ w => w.InSync) rfl
      (fun _ _ _ _ hsync hflows hstep => (inSync_step hsync hstep).2 hflows) (fun _ _ hsync => hsync)
      (fun _ _ _ _ hsync hstep hnext => (inSync_step hsync hstep).1 hnext) h

/-- The first message is an upload request. -/
def uploads (n : Nat) : Executed := if n = 0 then .uploadfile else .other

/-- An upload request at the end of its text and a message that is cut are processed; a frame is appended and sent. -/
theorem admin_stream_frame :
    receive uploads .init ([[2, 97, 3], [2, 98], [3]].map Base64.Encode) = bodies none [[2, 97, 3], [2, 98], [3]].flatten ∧
    ((∀ es' w', es' <+: [.append [2, 97, 3], .SendData fun _ => false] →
        writer.exec writer.init es' = some w' → w'.InSync) ↔
      writer.Meets Flows writer.init [.append [2, 97, 3], .SendData fun _ => false]) := by
  have hstream := admin_stream uploads [[2, 97, 3], [2, 98], [3]] [.append [2, 97, 3], .SendData fun _ => false]
    ((writer.exec writer.init [.append [2, 97, 3], .SendData fun _ => false]).get rfl) rfl
  have hclean : Clean uploads .init none false [[2, 97, 3], [2, 98], [3]] :=
    ⟨fun h => absurd h (by decide), fun h => absurd h (by decide), fun _ _ => by decide, by decide,
      fun h => absurd h (by decide), fun h => absurd h (by decide), fun _ _ => by decide, trivial⟩
  exact ⟨hstream.1.2 hclean, hstream.2⟩

/-- A second 0x03 processes the message again; and what is behind an upload request in its text is never processed. -/
theorem admin_stream_again :
    (receive (fun _ => .other) .init [Base64.Encode [2, 97, 3, 3]] = [none, none, some [97], some [97]] ∧
      bodies none [2, 97, 3, 3] = [none, none, some [97], none]) ∧
    receive uploads .init [Base64.Encode [2, 97, 3, 2, 98, 3]] = [none, none, some [97], none, none, none] ∧
      bodies none [2, 97, 3, 2, 98, 3] = [none, none, some [97], none, none, some [98]] := by
  simp only [receive, Base64.Decode_Encode]
  decide

end V2xHub.CommandPlugin
