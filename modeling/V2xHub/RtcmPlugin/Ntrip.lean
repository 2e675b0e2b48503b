import V2xHub.Lib.CString
import V2xHub.Rtcm.EncodedMessage

/-!
# The corrections of a caster

`RtcmPlugin::Main` reads chunks of bytes from the socket of an NTRIP caster. A chunk that comes while the plugin is not connected
is taken for the header of the response and nothing else, and any other chunk is decoded on its own: what is behind the header in
its chunk is lost, and so is a frame that is cut. What is logged and the messages that are routed on are left out.
-/

namespace V2xHub.RtcmPlugin

open Rtcm RTCM3Message

/-- What ends `Main`: an exception, an index outside of its string, or a search without an end. -/
inductive Failure where
  | escaped
  | undefined
  | unfinished
deriving DecidableEq

structure State where
  connected : Bool
  broadcasts : List ByteStream
  failure : Option Failure
deriving DecidableEq

def State.init : State := ⟨false, [], none⟩

/-- The lines that `getline` reads; what is behind the last line feed is a line if there is anything. -/
def getlines : Str → Str → List Str
  | line, [] => if line = [] then [] else [line]
  | line, c :: rest => if c = 10 then line :: getlines [] rest else getlines (line ++ [c]) rest

/-- A line without its carriage return; the last byte of an empty line is outside of it. -/
def trim (line : Str) : Option Str := if line = [] then none else some (if line.getLast? = some 13 then line.dropLast else line)

/-- The lines of the response. -/
def response (chunk : Str) : Option (List Str) := (getlines [] chunk).mapM trim

def okText : Str := CString.lit "200 OK"

/-- A chunk that is read while the plugin is not connected. -/
def State.header (chunk : Str) (s : State) : State :=
  match response chunk with
  | none => { s with failure := some .undefined }
  | some (first :: _ :: _) =>
    -- The position of `substr` wraps around where the line is too short.
    if first.length < 6 then { s with failure := some .escaped }
    else { s with connected := decide (first.drop (first.length - 6) = okText) }
  | some _ => s

/-- `BroadcastRTCMMessage`: the octet string of the message has 1 to 1023 bytes. -/
def broadcastRTCMMessage (msg : TmxRtcmMessage) : Option ByteStream :=
  msg.get_contents.filter fun contents => 1 ≤ contents.length ∧ contents.length ≤ 1023

/-- A chunk that is read while the plugin is connected, which is the payload of a message of its own. -/
def State.corrections (search fuel : Nat) (ver : RTCM_VERSION) (chunk : Str) (s : State) : State :=
  match get_container search fuel ver chunk with
  | none => { s with failure := some .unfinished }
  | some (.error .tmxException) => { s with failure := some .escaped }
  | some (.error .undefined) => { s with failure := some .undefined }
  | some (.ok msgs) => { s with broadcasts := s.broadcasts ++ msgs.filterMap broadcastRTCMMessage }

/-- A pass of the loop of `Main`. -/
def State.receive (search fuel : Nat) (ver : RTCM_VERSION) (s : State) (chunk : Str) : State :=
  if s.failure ≠ none then s
  else if chunk = [] then { s with connected := false }
  else if s.connected then s.corrections search fuel ver chunk
  else s.header chunk

/-- `Main` on the chunks that the socket gives, with the fuel of the decoder. -/
def main (search fuel : Nat) (ver : RTCM_VERSION) (chunks : List Str) : State :=
  chunks.foldl (State.receive search fuel ver) State.init

/-! ### The response -/

/-- No line of the chunk is empty; and it is one line, or its first line has the six characters of the status. -/
def Readable (chunk : Str) : Prop :=
  ∃ lines, response chunk = some lines ∧ ∀ first second rest, lines = first :: second :: rest → 6 ≤ first.length

/-- The chunk is not the header of an accepted response. -/
def Refused (chunk : Str) : Prop :=
  ∀ first second rest, response chunk = some (first :: second :: rest) → first.drop (first.length - 6) ≠ okText

/-- The chunk is the header of an accepted response: at least two lines, and the status is OK. -/
def Accepted (chunk : Str) : Prop :=
  ∃ first second rest, response chunk = some (first :: second :: rest) ∧ 6 ≤ first.length ∧
    first.drop (first.length - 6) = okText

variable {search fuel : Nat} {ver : RTCM_VERSION} {s : State} {chunk : Str} {chunks : List Str} {left : ByteStream}

theorem header_accepted (h : Accepted chunk) : s.header chunk = { s with connected := true } := by
  obtain ⟨first, second, rest, hresponse, hlength, hok⟩ := h
  unfold State.header
  rw [hresponse]
  dsimp only
  rw [if_neg (Nat.not_lt.2 hlength), decide_eq_true hok]

theorem ne_nil_of_accepted (h : Accepted chunk) : chunk ≠ [] := by
  rintro rfl
  obtain ⟨first, second, rest, hresponse, -⟩ := h
  nomatch hresponse

/-- A chunk of a response leaves the plugin alive and unconnected if and only if it can be read and is refused. -/
theorem header_iff (hs : s.connected = false) (hfailure : s.failure = none) :
    ((s.header chunk).failure = none ∧ (s.header chunk).connected = false) ↔ Readable chunk ∧ Refused chunk := by
  unfold State.header Readable Refused
  cases hresponse : response chunk with
  | none =>
    refine iff_of_false (fun h => ?_) fun h => ?_
    · nomatch h.1
    · obtain ⟨lines, hlines, -⟩ := h.1
      nomatch hlines
  | some lines =>
    match lines with
    | [] => exact iff_of_true ⟨hfailure, hs⟩ ⟨⟨_, rfl, nofun⟩, nofun⟩
    | [_] => exact iff_of_true ⟨hfailure, hs⟩ ⟨⟨_, rfl, nofun⟩, nofun⟩
    | first :: second :: rest =>
      dsimp only
      split_ifs with hshort
      · refine iff_of_false (fun h => ?_) fun h => ?_
        · nomatch h.1
        · obtain ⟨lines, hlines, hlength⟩ := h.1
          exact absurd (hlength first second rest (Option.some.inj hlines).symm) (Nat.not_le.2 hshort)
      · rw [decide_eq_false_iff_not]
        constructor
        · rintro ⟨-, hrefused⟩
          refine ⟨⟨_, rfl, ?_⟩, ?_⟩
          · rintro first' second' rest' heq
            obtain ⟨rfl, -⟩ := List.cons.inj heq
            exact Nat.not_lt.1 hshort
          · rintro first' second' rest' heq
            obtain ⟨rfl, -⟩ := List.cons.inj (Option.some.inj heq)
            exact hrefused
        · rintro ⟨-, hrefused⟩
          exact ⟨hfailure, hrefused first second rest rfl⟩

theorem receive_unconnected (hs : s.connected = false) (hfailure : s.failure = none) (hne : chunk ≠ []) :
    State.receive search fuel ver s chunk = s.header chunk := by
  unfold State.receive
  rw [if_neg (not_not.2 hfailure), if_neg hne, hs]
  rfl

/-- Chunks that can be read and are refused change nothing. -/
theorem receive_refused (hs : s.connected = false) (hfailure : s.failure = none)
    (h : ∀ chunk ∈ chunks, chunk ≠ [] ∧ Readable chunk ∧ Refused chunk) :
    chunks.foldl (State.receive search fuel ver) s = s := by
  induction chunks with
  | nil => rfl
  | cons chunk chunks ih =>
    obtain ⟨⟨hne, ⟨lines, hresponse, hlength⟩, hrefused⟩, hrest⟩ := List.forall_mem_cons.1 h
    rw [List.foldl_cons, receive_unconnected hs hfailure hne]
    have hheader : s.header chunk = s := by
      unfold State.header
      rw [hresponse]
      match lines with
      | [] => rfl
      | [_] => rfl
      | first :: second :: rest =>
        dsimp only
        rw [if_neg (Nat.not_lt.2 (hlength first second rest rfl)),
          decide_eq_false (hrefused first second rest hresponse), ← hs]
    rw [hheader]
    exact ih hrest

/-- No exception escapes, no index leaves its string and the plugin is never connected if and only if every chunk of the response
can be read and is refused. -/
theorem response_iff (hs : s.connected = false) (hfailure : s.failure = none) (hchunks : ∀ chunk ∈ chunks, chunk ≠ []) :
    (∀ pre, pre <+: chunks → (pre.foldl (State.receive search fuel ver) s).failure = none ∧
      (pre.foldl (State.receive search fuel ver) s).connected = false) ↔
      ∀ chunk ∈ chunks, Readable chunk ∧ Refused chunk := by
  induction chunks generalizing s with
  | nil =>
    refine iff_of_true (fun pre hpre => ?_) nofun
    obtain rfl := List.prefix_nil.1 hpre
    exact ⟨hfailure, hs⟩
  | cons chunk chunks ih =>
    obtain ⟨hne, hrest⟩ := List.forall_mem_cons.1 hchunks
    have hreceive : State.receive search fuel ver s chunk = s.header chunk := receive_unconnected hs hfailure hne
    rw [List.forall_mem_cons, ← header_iff hs hfailure]
    constructor
    · intro h
      have hhead := h [chunk] (List.cons_prefix_cons.2 ⟨rfl, List.nil_prefix⟩)
      rw [List.foldl_cons, List.foldl_nil, hreceive] at hhead
      refine ⟨hhead, (ih hhead.2 hhead.1 hrest).1 fun pre hpre => ?_⟩
      have hnext := h (chunk :: pre) (List.cons_prefix_cons.2 ⟨rfl, hpre⟩)
      rwa [List.foldl_cons, hreceive] at hnext
    · rintro ⟨hhead, htail⟩ pre hpre
      cases pre with
      | nil => exact ⟨hfailure, hs⟩
      | cons first pre =>
        obtain ⟨rfl, hpre'⟩ := List.cons_prefix_cons.1 hpre
        rw [List.foldl_cons, hreceive]
        exact (ih hhead.2 hhead.1 hrest).2 htail pre hpre'

/-! ### The corrections -/

/-- A chunk of whole frames with what else is in it, such as the end of the header. -/
structure Chunk where
  pieces : List (ByteStream × Frame)
  tail : ByteStream

def Chunk.bytes (c : Chunk) : ByteStream := streamBytes c.pieces c.tail

def Chunk.frames (c : Chunk) : List Frame := c.pieces.map Prod.snd

/-- The copy of the chunk is clear before each of its frames, and each of them can be put into a message. -/
structure Chunk.Whole (ver : RTCM_VERSION) (c : Chunk) : Prop where
  clear : Clear [] c.pieces c.tail
  empty : c.pieces = [] → ver = .UNKNOWN → NoMessage2 c.tail
  ne_nil : c.bytes ≠ []
  short : ∀ f ∈ c.frames, f.payload.length ≤ 1017

/-- The fuel is enough for the chunk. -/
def Chunk.Fuelled (search fuel : Nat) (c : Chunk) : Prop := c.bytes.length ≤ search ∧ c.frames.length < fuel

instance (c : Chunk) : Decidable (c.Fuelled search fuel) := inferInstanceAs (Decidable (_ ∧ _))

theorem get_container_whole {c : Chunk} (h : c.Whole ver) (hver : ver ≠ .SC10402_3) (hfuel : c.Fuelled search fuel) :
    ∃ msgs, get_container (search + 1) fuel ver c.bytes = some (.ok msgs) ∧
      msgs.map TmxRtcmMessage.get_contents = c.frames.map fun f => some f.bytes := by
  obtain ⟨hsearch, hframes⟩ := hfuel
  rw [Chunk.frames, List.length_map] at hframes
  rw [Chunk.frames, List.map_map]
  exact get_container_stream c.pieces c.tail h.clear h.empty hver hsearch hframes

theorem filterMap_broadcast {msgs : List TmxRtcmMessage} {frames : List Frame}
    (hmsgs : msgs.map TmxRtcmMessage.get_contents = frames.map fun f => some f.bytes)
    (hshort : ∀ f ∈ frames, f.payload.length ≤ 1017) : msgs.filterMap broadcastRTCMMessage = frames.map Frame.bytes := by
  induction msgs generalizing frames with
  | nil =>
    obtain rfl := List.map_eq_nil_iff.1 hmsgs.symm
    rfl
  | cons msg msgs ih =>
    cases frames with
    | nil => nomatch hmsgs
    | cons f frames =>
      obtain ⟨hf, hrest⟩ := List.forall_mem_cons.1 hshort
      obtain ⟨hcontents, hmsgs⟩ := List.cons.inj hmsgs
      have hsend : broadcastRTCMMessage msg = some f.bytes := by
        rw [broadcastRTCMMessage, hcontents]
        refine Option.filter_some_pos (decide_eq_true ?_)
        rw [Frame.length_bytes]
        omega
      rw [List.filterMap_cons_some hsend, ih hmsgs hrest, List.map_cons]

/-- A chunk of whole frames is broadcast frame by frame. -/
theorem receive_whole {c : Chunk} (h : c.Whole ver) (hver : ver ≠ .SC10402_3) (hfuel : c.Fuelled search fuel)
    (hconnected : s.connected = true) (hfailure : s.failure = none) :
    State.receive (search + 1) fuel ver s c.bytes = { s with broadcasts := s.broadcasts ++ c.frames.map Frame.bytes } := by
  obtain ⟨msgs, hmsgs, hcontents⟩ : ∃ msgs, get_container (search + 1) fuel ver c.bytes = some (.ok msgs) ∧ _ :=
    get_container_whole h hver hfuel
  unfold State.receive
  rw [if_neg (not_not.2 hfailure), if_neg h.ne_nil, if_pos hconnected, State.corrections, hmsgs]
  dsimp only
  rw [filterMap_broadcast hcontents h.short]

theorem receive_chunks {cs : List Chunk} (h : ∀ c ∈ cs, c.Whole ver) (hver : ver ≠ .SC10402_3)
    (hfuel : ∀ c ∈ cs, c.Fuelled search fuel) (hconnected : s.connected = true) (hfailure : s.failure = none) :
    (cs.map Chunk.bytes).foldl (State.receive (search + 1) fuel ver) s =
      { s with broadcasts := s.broadcasts ++ (cs.flatMap Chunk.frames).map Frame.bytes } := by
  induction cs generalizing s with
  | nil => rw [List.map_nil, List.foldl_nil, List.flatMap_nil, List.map_nil, List.append_nil]
  | cons c cs ih =>
    obtain ⟨hc, hcs⟩ := List.forall_mem_cons.1 h
    obtain ⟨hfc, hfcs⟩ := List.forall_mem_cons.1 hfuel
    rw [List.map_cons, List.foldl_cons, receive_whole hc hver hfc hconnected hfailure,
      ih (s := { s with broadcasts := s.broadcasts ++ c.frames.map Frame.bytes }) hcs hfcs hconnected hfailure,
      List.flatMap_cons, List.map_append, List.append_assoc]

/-- Behind any chunks that can be read and are refused, a chunk with the header of an accepted response, and chunks of whole
frames with what is left of the header: each frame is broadcast once, byte for byte and in order. The chunks of another response
leave the plugin alive and unconnected if and only if each of them can be read and is refused, and then nothing is broadcast. -/
theorem ntrip_corrections (search fuel : Nat) (ver : RTCM_VERSION) :
    (∀ (refused : List Str) (header : Str) (cs : List Chunk), ver ≠ .SC10402_3 →
      (∀ chunk ∈ refused, chunk ≠ [] ∧ Readable chunk ∧ Refused chunk) → Accepted header →
      (∀ c ∈ cs, c.Whole ver ∧ c.Fuelled search fuel) →
      main (search + 1) fuel ver (refused ++ header :: cs.map Chunk.bytes) =
        ⟨true, (cs.flatMap Chunk.frames).map Frame.bytes, none⟩) ∧
    ∀ chunks : List Str, (∀ chunk ∈ chunks, chunk ≠ []) →
      ((∀ pre, pre <+: chunks → (main search fuel ver pre).failure = none ∧ (main search fuel ver pre).connected = false) ↔
        ∀ chunk ∈ chunks, Readable chunk ∧ Refused chunk) ∧
      ((∀ chunk ∈ chunks, Readable chunk ∧ Refused chunk) → main search fuel ver chunks = ⟨false, [], none⟩) := by
  refine ⟨fun refused header cs hver hrefused hheader hcs => ?_, fun chunks hchunks =>
    ⟨response_iff rfl rfl hchunks, fun h => receive_refused rfl rfl fun chunk hchunk => ⟨hchunks chunk hchunk, h chunk hchunk⟩⟩⟩
  have hfirst : State.receive (search + 1) fuel ver State.init header = { State.init with connected := true } :=
    (receive_unconnected rfl rfl (ne_nil_of_accepted hheader)).trans (header_accepted hheader)
  rw [main, List.foldl_append, receive_refused rfl rfl hrefused, List.foldl_cons, hfirst,
    receive_chunks (fun c hc => (hcs c hc).1) hver (fun c hc => (hcs c hc).2) rfl rfl]
  rfl

/-- A header of version 2. -/
def headerText : Str := CString.lit "HTTP/1.1 200 OK\r\nContent-Type: gnss/data\r\n\r\n"

/-- The end of a header and two frames in one chunk. -/
def twoFrames : Chunk := ⟨[(CString.lit "\r\n", smallFrame), ([], smallFrame)], []⟩

/-- The header is cut behind its first letter and before its last line. -/
theorem ntrip_corrections_two_frames :
    main 21 3 .UNKNOWN [CString.lit "H", CString.lit "TTP/1.1 200 OK\r\nContent-Type: gnss/data\r\n", twoFrames.bytes] =
      ⟨true, [smallFrame.bytes, smallFrame.bytes], none⟩ ∧
    (main 21 3 .UNKNOWN [CString.lit "ICY 401 Unauthorized\r\n\r\n"]).connected = false := by
  have hwhole : twoFrames.Whole .UNKNOWN := ⟨by decide +kernel, fun h => absurd h (List.cons_ne_nil _ _), by decide, by decide⟩
  constructor
  · refine (ntrip_corrections 20 3 .UNKNOWN).1 [CString.lit "H"] _ [twoFrames] (by decide) ?_
      ⟨_, _, _, rfl, by decide, by decide⟩ (List.forall_mem_singleton.2 ⟨hwhole, by decide +kernel⟩)
    refine List.forall_mem_singleton.2 ⟨by decide, ⟨_, rfl, fun first second rest heq => ?_⟩, fun first second rest heq => ?_⟩
    · cases heq
    · cases heq
  · refine ((((ntrip_corrections 21 3 .UNKNOWN).2 [_] (by decide)).1).2 ?_ _ (List.prefix_refl _)).2
    refine List.forall_mem_singleton.2 ⟨⟨_, rfl, fun first second rest heq => ?_⟩, fun first second rest heq => ?_⟩
    · cases heq
      decide
    · cases heq
      decide

/-- The frame in the chunk of the header is lost, and so is one that is cut; an empty line is read outside of it; and the
exception of a short first line escapes. -/
theorem ntrip_corrections_fails :
    main 1 3 .UNKNOWN [headerText ++ smallFrame.bytes] = ⟨true, [], none⟩ ∧
    main 5 5 .UNKNOWN [headerText, smallFrame.bytes.take 5, smallFrame.bytes.drop 5] = ⟨true, [], none⟩ ∧
    (main 1 3 .UNKNOWN [CString.lit "\n"]).failure = some .undefined ∧
    (main 1 3 .UNKNOWN [CString.lit "no\nno\n"]).failure = some .escaped := by
  decide +kernel

end V2xHub.RtcmPlugin
