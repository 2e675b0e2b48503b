import V2xHub.TmxJ2735.Codec

/-!
# Decoded messages

Every message that points to a structure is one of its holders, so that the structure is there until the last of them goes. A
decoded message is there until one of the encoded messages that point to it is done with it; where no message is copied that
has one, each has a single owner (`Owned`).
-/

namespace V2xHub.TmxJ2735

section
variable {σ : Type} (codec : Codec σ)

def Output.Right : Output σ → Prop
  | .decoded bytes returned => returned = (codec.decoding bytes).map some
  | .data m returned => returned = m.contents codec

/-- Nothing is released twice or used after its release, and what is returned is right. -/
structure Sane (s : State σ) : Prop where
  decoded : s.decoded.fault = false
  structs : s.structs.fault = false
  outputs : ∀ o ∈ s.outputs, o.Right codec

/-- The structure comes back from its XML text, and from that of its tree. -/
def RoundTrip (v : σ) : Prop :=
  ∀ tree, codec.read_xml (codec.as_string v) = some tree →
    tree.isEmpty = false ∧ codec.xer_decode (codec.as_string v) = some v ∧ codec.xer_decode (codec.write_xml tree) = some v

/-- A message that is copied has not been decoded. Where a message is decoded that has not been before, or not since `set_data`,
it has the encoding of the codec, and its frame a message of the class; where it has been, its payload was not set since. A
structure that is set comes back, and the contents were not set since a structure was there that a get returns. -/
def Sound (s : State σ) : Event σ → Prop
  | .copy _ j => ∀ e, s.encoded j = some e → e.decoded = none
  | .decode i _ => ∀ e, s.encoded i = some e →
    if e.decoded = none then
      e.encoding = .asn1 codec.default ∧
        (codec.isFrame codec.default e.bytes = true → codec.decodeFrame codec.default e.bytes ≠ some none)
    else e.changed = false
  | .set_j2735_data _ (some v) => RoundTrip codec v
  | .get_j2735_data k => ∀ m, s.messages k = some m → m.j2735_data ≠ none → m.origin ≠ none
  | _ => True

/-- Every decoded message that is pointed to is there, for one encoded message only, and it was decoded from its bytes unless
they were set since. -/
structure Owned (s : State σ) : Prop where
  live : ∀ i e d, s.encoded i = some e → e.decoded = some d → s.decoded.Live d
  decodedFrom : ∀ i e d, s.encoded i = some e → e.decoded = some d → e.changed = false → s.decodedFrom d = some e.bytes
  unique : ∀ i j e e' d, s.encoded i = some e → s.encoded j = some e' → e.decoded = some d → e'.decoded = some d → i = j

/-- A message without a decoded one has the encoding of the codec, and its frame a message of the class; a decoded message is
there, and the bytes are those that it was decoded from. -/
def Decodable (s : State σ) (e : Encoded) : Prop :=
  match e.decoded with
  | none => e.encoding = .asn1 codec.default ∧
      (codec.isFrame codec.default e.bytes = true → codec.decodeFrame codec.default e.bytes ≠ some none)
  | some d => s.decoded.Live d ∧ s.decodedFrom d = some e.bytes

/-- The pointer of a message is held, and its structure is what the contents are; where there is none the tree decodes to it. -/
structure Good (s : State σ) (h : Holder) (m : Message σ) : Prop where
  data : ∀ p, m.j2735_data = some p → h ∈ s.holders p ∧ ∃ a, s.structs.cell p = some a ∧ ∀ v, m.origin = some v → a.value = v
  null : m.j2735_data = none → ∀ v, m.origin = some v →
    m.tree.isEmpty = false ∧ codec.xer_decode (m.to_string codec) = some v ∧ codec.xer_decode (codec.write_xml m.tree) = some v

/-- The invariant, but for one holder. -/
structure InvBut (skip : Option Holder) (s : State σ) : Prop where
  decodedFault : s.decoded.fault = false
  structsFault : s.structs.fault = false
  messages : ∀ k m, s.messages k = some m → skip ≠ some (.client k) → Good codec s (.client k) m
  decoded : ∀ d m, s.decoded.cell d = some m → d < s.next ∧ (skip ≠ some (.decoded d) → Good codec s (.decoded d) m)
  origin : ∀ d m b, s.decoded.cell d = some m → s.decodedFrom d = some b →
    ∃ v, m.origin = some v ∧ m.j2735_data ≠ none ∧ codec.decoding b = some v
  fresh : ∀ p, s.structs.Live p → p < s.next
  outputs : ∀ o ∈ s.outputs, o.Right codec

end

/-- Everything a step can do. -/
inductive Steps {σ : Type} (codec : Codec σ) (s : State σ) : Event σ → State σ → Prop
  | construct {i bytes encoding} : s.encoded i = none →
      Steps codec s (.construct i bytes encoding) (s.setEncoded i ⟨bytes, encoding, none, false⟩)
  | copy {i j e} : s.encoded i = none → s.encoded j = some e → Steps codec s (.copy i j) (s.setEncoded i e)
  | set_data {i e} (data : Bytes) : s.encoded i = some e → Steps codec s (.set_data i data) (s.set_data i e data)
  | set_payload_bytes {i e} (bytes : Bytes) : s.encoded i = some e →
      Steps codec s (.set_payload_bytes i bytes) (s.setEncoded i { e with bytes := bytes, encoding := .other, changed := true })
  | set_contents {i e} (bytes : Bytes) (encoding : Encoding) : s.encoded i = some e → Steps codec s (.set_contents i bytes encoding)
      (s.setEncoded i { e with bytes := bytes, encoding := encoding, changed := true })
  | encode {i k e m} : s.encoded i = some e → s.messages k = some m →
      Steps codec s (.encode i k) (s.encode_j2735_message codec i k e m)
  | decode {i k e} : s.messages k = none → s.encoded i = some e →
      Steps codec s (.decode i k) (s.decode_j2735_message codec i k e)
  | destroy {i e} : s.encoded i = some e →
      Steps codec s (.destroy i) { s.reset e with encoded := Function.update s.encoded i none }
  | copyMessage {k l m} : s.messages k = none → s.messages l = some m → Steps codec s (.copyMessage k l) (s.copyTo k m)
  | assignSelf {k m} : s.messages k = some m → Steps codec s (.assignMessage k k) s
  | assignMessage {k l m other} : k ≠ l → s.messages k = some m → s.messages l = some other →
      Steps codec s (.assignMessage k l) ((s.drop (.client k) m.j2735_data).copyTo k other)
  | set_tree {k m} (contents : Ptree) : s.messages k = some m →
      Steps codec s (.set_tree k contents) (s.setMessage k { m with tree := contents, text := none, origin := none })
  | set_text {k m contents tree} : s.messages k = some m → codec.read_xml contents = some tree →
      Steps codec s (.set_text k contents) (s.setMessage k { m with tree := tree, text := some contents, origin := none })
  | unreadable {k m contents} : s.messages k = some m → codec.read_xml contents = none → Steps codec s (.set_text k contents) s
  | set_j2735_data {k m} (data : Option σ) : s.messages k = some m →
      Steps codec s (.set_j2735_data k data) (s.set_j2735_data codec k m data)
  | get_j2735_data {k m} : s.messages k = some m → Steps codec s (.get_j2735_data k) ((s.get_j2735_data codec k m).1.emit
      (.data m ((s.get_j2735_data codec k m).2.map (s.get_j2735_data codec k m).1.read)))
  | destroyMessage {k m} : s.messages k = some m →
      Steps codec s (.destroyMessage k) ((s.drop (.client k) m.j2735_data).removeMessage k)

abbrev Inv {σ : Type} (codec : Codec σ) : State σ → Prop := InvBut codec none

variable {σ : Type} {codec : Codec σ} {s t : State σ} {h h' : Holder} {m m' : Message σ} {skip : Option Holder} {k : Nat}
  {data : Option Nat} {e : Encoded}

/-! ### Steps -/

theorem step_cases {ev : Event σ} (hstep : step codec s ev = some t) : Steps codec s ev t := by
  cases ev with
  | construct i bytes encoding =>
    obtain ⟨hi, hstep⟩ := Option.ite_none_right_eq_some.1 hstep
    obtain rfl := Option.some.inj hstep
    exact .construct (Option.isNone_iff_eq_none.1 hi)
  | copy i j =>
    obtain ⟨hi, hstep⟩ := Option.ite_none_right_eq_some.1 hstep
    obtain ⟨e, he, rfl⟩ := Option.map_eq_some_iff.1 hstep
    exact .copy (Option.isNone_iff_eq_none.1 hi) he
  | set_data i data =>
    obtain ⟨e, he, rfl⟩ := Option.map_eq_some_iff.1 hstep
    exact .set_data data he
  | set_payload_bytes i bytes =>
    obtain ⟨e, he, rfl⟩ := Option.map_eq_some_iff.1 hstep
    exact .set_payload_bytes bytes he
  | set_contents i bytes encoding =>
    obtain ⟨e, he, rfl⟩ := Option.map_eq_some_iff.1 hstep
    exact .set_contents bytes encoding he
  | encode i k =>
    obtain ⟨e, he, hstep⟩ := Option.bind_eq_some_iff.1 hstep
    obtain ⟨m, hk, rfl⟩ := Option.map_eq_some_iff.1 hstep
    exact .encode he hk
  | decode i k =>
    obtain ⟨hk, hstep⟩ := Option.ite_none_right_eq_some.1 hstep
    obtain ⟨e, he, rfl⟩ := Option.map_eq_some_iff.1 hstep
    exact .decode (Option.isNone_iff_eq_none.1 hk) he
  | destroy i =>
    obtain ⟨e, he, rfl⟩ := Option.map_eq_some_iff.1 hstep
    exact .destroy he
  | copyMessage k l =>
    obtain ⟨hk, hstep⟩ := Option.ite_none_right_eq_some.1 hstep
    obtain ⟨m, hl, rfl⟩ := Option.map_eq_some_iff.1 hstep
    exact .copyMessage (Option.isNone_iff_eq_none.1 hk) hl
  | assignMessage k l =>
    obtain ⟨m, hk, hstep⟩ := Option.bind_eq_some_iff.1 hstep
    obtain ⟨other, hl, rfl⟩ := Option.map_eq_some_iff.1 hstep
    split_ifs with hkl
    · subst hkl
      exact .assignSelf hk
    · exact .assignMessage hkl hk hl
  | set_tree k contents =>
    obtain ⟨m, hk, rfl⟩ := Option.map_eq_some_iff.1 hstep
    exact .set_tree contents hk
  | set_text k contents =>
    obtain ⟨m, hk, rfl⟩ := Option.map_eq_some_iff.1 hstep
    cases htree : codec.read_xml contents with
    | some tree => exact .set_text hk htree
    | none => exact .unreadable hk htree
  | set_j2735_data k data =>
    obtain ⟨m, hk, rfl⟩ := Option.map_eq_some_iff.1 hstep
    exact .set_j2735_data data hk
  | get_j2735_data k =>
    obtain ⟨m, hk, rfl⟩ := Option.map_eq_some_iff.1 hstep
    exact .get_j2735_data hk
  | destroyMessage k =>
    obtain ⟨m, hk, rfl⟩ := Option.map_eq_some_iff.1 hstep
    exact .destroyMessage hk

/-! ### Holders -/

theorem Good.live (hm : Good codec s h m) {p : Nat} (hp : m.j2735_data = some p) : s.structs.Live p := by
  obtain ⟨-, a, ha, -⟩ := hm.data p hp
  exact Heap.live_of_eq_some ha

theorem Good.hold (hm : Good codec s h m) (h' : Holder) (data : Option Nat) : Good codec (s.hold h' data) h m := by
  rcases data with _ | q
  · exact hm
  · refine ⟨fun p hp => ?_, hm.null⟩
    obtain ⟨hmem, ha⟩ := hm.data p hp
    refine ⟨?_, ha⟩
    by_cases hpq : p = q
    · subst hpq
      simp only [State.hold, Function.update_self]
      exact List.mem_cons_of_mem _ hmem
    · simp only [State.hold, Function.update_of_ne hpq]
      exact hmem

/-- With other contents it is not said any more what they decode to. -/
theorem Good.forget (hm : Good codec s h m) (tree : Ptree) (text : Option Str) :
    Good codec s h { m with tree := tree, text := text, origin := none } := by
  refine ⟨fun p hp => ?_, fun _ v hv => absurd hv nofun⟩
  obtain ⟨hmem, a, ha, -⟩ := hm.data p hp
  exact ⟨hmem, a, ha, fun v hv => absurd hv nofun⟩

/-- Another holder goes. -/
theorem Good.drop (hm : Good codec s h m) (hne : h ≠ h') (data : Option Nat) : Good codec (s.drop h' data) h m := by
  rcases data with _ | q
  · exact hm
  · refine ⟨fun p hp => ?_, hm.null⟩
    obtain ⟨hmem, a, ha, hvalue⟩ := hm.data p hp
    by_cases hpq : p = q
    · subst hpq
      have hleft : h ∈ (s.holders p).erase h' := (List.mem_erase_of_ne hne).2 hmem
      have hnot : ¬ ((s.holders p).erase h' = [] ∧ ((s.structs.cell p).elim true Asn1.deletes) = true) :=
        fun hnil => List.ne_nil_of_mem hleft hnil.1
      simp only [State.drop, Function.update_self, if_neg hnot]
      exact ⟨hleft, a, ha, hvalue⟩
    · simp only [State.drop, Function.update_of_ne hpq]
      refine ⟨hmem, a, ?_, hvalue⟩
      split_ifs
      · rw [Heap.free_of_ne hpq, ha]
      · exact ha

theorem Good.make (hm : Good codec s h m) (hfresh : ∀ p, s.structs.Live p → p < s.next) (h' : Holder) (v : σ) (deletes : Bool) :
    Good codec (s.make h' v deletes) h m := by
  refine ⟨fun p hp => ?_, hm.null⟩
  have hlt := hfresh p (hm.live hp)
  obtain ⟨hmem, a, ha, hvalue⟩ := hm.data p hp
  have hne : p ≠ s.next := Nat.ne_of_lt hlt
  simp only [State.make, State.hold, Function.update_of_ne hne]
  exact ⟨hmem, a, (Heap.set_of_ne hne).trans ha, hvalue⟩

namespace InvBut

theorem weaken (hs : Inv codec s) (skip : Option Holder) : InvBut codec skip s :=
  ⟨hs.decodedFault, hs.structsFault, fun k m hk _ => hs.messages k m hk nofun,
    fun d m hd => ⟨(hs.decoded d m hd).1, fun _ => (hs.decoded d m hd).2 nofun⟩, hs.origin, hs.fresh, hs.outputs⟩

theorem hold (hs : InvBut codec skip s) (h : Holder) (data : Option Nat) : InvBut codec skip (s.hold h data) := by
  rcases data with _ | p
  · exact hs
  · exact ⟨hs.decodedFault, hs.structsFault, fun k m hk hskip => (hs.messages k m hk hskip).hold h (some p),
      fun d m hd => ⟨(hs.decoded d m hd).1, fun hskip => ((hs.decoded d m hd).2 hskip).hold h (some p)⟩, hs.origin, hs.fresh,
      hs.outputs⟩

theorem make (hs : InvBut codec skip s) (h : Holder) (v : σ) (deletes : Bool) : InvBut codec skip (s.make h v deletes) := by
  refine ⟨hs.decodedFault, hs.structsFault, fun k m hk hskip => (hs.messages k m hk hskip).make hs.fresh h v deletes,
    fun d m hd => ⟨Nat.lt_succ_of_lt (hs.decoded d m hd).1, fun hskip => ((hs.decoded d m hd).2 hskip).make hs.fresh h v deletes⟩,
    hs.origin, fun p hp => ?_, hs.outputs⟩
  show p < s.next + 1
  by_cases hpn : p = s.next
  · rw [hpn]
    exact Nat.lt_succ_self _
  · have hlive : s.structs.Live p := by
      have hold : (s.structs.set s.next ⟨v, deletes⟩).Live p := hp
      rwa [Heap.Live, Heap.set_of_ne hpn] at hold
    exact Nat.lt_succ_of_lt (hs.fresh p hlive)

/-- One holder goes: all is well but for its message. -/
theorem drop (hs : Inv codec s) (hlive : ∀ p, data = some p → s.structs.Live p) (h : Holder) :
    InvBut codec (some h) (s.drop h data) := by
  rcases data with _ | p
  · exact weaken hs _
  · have hkept : ∀ q, (s.drop h (some p)).structs.Live q → s.structs.Live q := by
      intro q hq
      simp only [State.drop] at hq
      split_ifs at hq
      · by_cases hqp : q = p
        · rw [hqp]
          exact hlive p rfl
        · rwa [Heap.Live, Heap.free_of_ne hqp] at hq
      · exact hq
    have hfault : (s.drop h (some p)).structs.fault = false := by
      simp only [State.drop]
      split_ifs
      · rw [(hlive p rfl).free_fault]
        exact hs.structsFault
      · exact hs.structsFault
    refine ⟨hs.decodedFault, hfault, fun k m hk hskip => ?_, fun d m hd => ⟨(hs.decoded d m hd).1, fun hskip => ?_⟩, hs.origin,
      fun q hq => hs.fresh q (hkept q hq), hs.outputs⟩
    · exact (hs.messages k m hk (Option.some_ne_none _).symm).drop (fun heq => hskip (congrArg some heq.symm)) _
    · exact ((hs.decoded d m hd).2 (Option.some_ne_none _).symm).drop (fun heq => hskip (congrArg some heq.symm)) _

theorem setMessage (hs : InvBut codec (some (.client k)) s) (hm : Good codec s (.client k) m) : Inv codec (s.setMessage k m) := by
  refine ⟨hs.decodedFault, hs.structsFault, fun j m' hj _ => ?_, fun d m' hd => ⟨(hs.decoded d m' hd).1, fun _ => ?_⟩, hs.origin,
    hs.fresh, hs.outputs⟩
  · by_cases hjk : j = k
    · subst hjk
      simp only [State.setMessage, Function.update_self, Option.some.injEq] at hj
      subst hj
      exact ⟨hm.data, hm.null⟩
    · simp only [State.setMessage, Function.update_of_ne hjk] at hj
      have hgood := hs.messages j m' hj (by simpa using fun heq => hjk heq.symm)
      exact ⟨hgood.data, hgood.null⟩
  · have hgood := (hs.decoded d m' hd).2 nofun
    exact ⟨hgood.data, hgood.null⟩

theorem removeMessage (hs : InvBut codec (some (.client k)) s) :
    Inv codec (s.removeMessage k) := by
  refine ⟨hs.decodedFault, hs.structsFault, fun j m' hj _ => ?_, fun d m' hd => ⟨(hs.decoded d m' hd).1, fun _ => ?_⟩, hs.origin,
    hs.fresh, hs.outputs⟩
  · by_cases hjk : j = k
    · subst hjk
      simp [State.removeMessage] at hj
    · simp only [State.removeMessage, Function.update_of_ne hjk] at hj
      have hgood := hs.messages j m' hj (by simpa using fun heq => hjk heq.symm)
      exact ⟨hgood.data, hgood.null⟩
  · have hgood := (hs.decoded d m' hd).2 nofun
    exact ⟨hgood.data, hgood.null⟩

theorem emit (hs : Inv codec s) {o : Output σ} (ho : o.Right codec) : Inv codec (s.emit o) :=
  ⟨hs.decodedFault, hs.structsFault, fun k m hk _ => ⟨(hs.messages k m hk nofun).data, (hs.messages k m hk nofun).null⟩,
    fun d m hd => ⟨(hs.decoded d m hd).1, fun _ => ⟨((hs.decoded d m hd).2 nofun).data, ((hs.decoded d m hd).2 nofun).null⟩⟩,
    hs.origin, hs.fresh, List.forall_mem_append.2 ⟨hs.outputs, List.forall_mem_singleton.2 ho⟩⟩

/-- The encoded messages do not matter. -/
theorem withEncoded (hs : Inv codec s) (encoded : Nat → Option Encoded) : Inv codec { s with encoded := encoded } :=
  ⟨hs.decodedFault, hs.structsFault, fun k m hk _ => ⟨(hs.messages k m hk nofun).data, (hs.messages k m hk nofun).null⟩,
    fun d m hd => ⟨(hs.decoded d m hd).1, fun _ => ⟨((hs.decoded d m hd).2 nofun).data, ((hs.decoded d m hd).2 nofun).null⟩⟩,
    hs.origin, hs.fresh, hs.outputs⟩

end InvBut

/-- A copy of a message that is in order. -/
theorem inv_copyTo (hs : InvBut codec (some (.client k)) s) (hm : Good codec s h m) : Inv codec (s.copyTo k m) := by
  refine (hs.hold (.client k) m.j2735_data).setMessage ⟨fun p hp => ?_, fun hp v hv => ?_⟩
  · obtain ⟨-, ha⟩ := hm.data p hp
    rw [show m.j2735_data = some p from hp]
    refine ⟨?_, ha⟩
    simp only [State.hold, Function.update_self]
    exact List.mem_cons_self
  · obtain ⟨hne, -, htree⟩ := hm.null hp v hv
    exact ⟨hne, htree, htree⟩

/-- The unique pointer is reset while its message is there. -/
theorem inv_reset (hs : Inv codec s) (hlive : ∀ d, e.decoded = some d → s.decoded.Live d) : Inv codec (s.reset e) := by
  unfold State.reset
  split
  · exact hs
  · rename_i d hd
    obtain ⟨m, hm⟩ := Option.isSome_iff_exists.1 (hlive d hd)
    rw [hm]
    dsimp only
    have hgood := (hs.decoded d m hm).2 nofun
    have hdropped := InvBut.drop hs (fun p hp => hgood.live hp) (.decoded d)
    have hsame : ({ s with decoded := s.decoded.free d } : State σ).drop (.decoded d) m.j2735_data =
        { s.drop (.decoded d) m.j2735_data with decoded := s.decoded.free d } := by
      unfold State.drop
      split <;> rfl
    have hdecoded : (s.drop (.decoded d) m.j2735_data).decoded = s.decoded := by
      unfold State.drop
      split <;> rfl
    have hcell : ∀ d' m', (s.decoded.free d).cell d' = some m' →
        d' ≠ d ∧ (s.drop (.decoded d) m.j2735_data).decoded.cell d' = some m' := by
      intro d' m' hd'
      by_cases hdd : d' = d
      · rw [hdd, Heap.free_self] at hd'
        cases hd'
      · rw [hdecoded]
        rw [Heap.free_of_ne hdd] at hd'
        exact ⟨hdd, hd'⟩
    rw [hsame]
    refine ⟨?_, hdropped.structsFault, fun k m' hk _ => ?_, fun d' m' hd' => ?_, fun d' m' b hd' hb => ?_, hdropped.fresh,
      hdropped.outputs⟩
    · exact (hlive d hd).free_fault.trans hs.decodedFault
    · have hother := hdropped.messages k m' hk nofun
      exact ⟨hother.data, hother.null⟩
    · obtain ⟨hne, hd'⟩ := hcell d' m' hd'
      refine ⟨(hdropped.decoded d' m' hd').1, fun _ => ?_⟩
      have hother := (hdropped.decoded d' m' hd').2 (by simpa using fun heq => hne heq.symm)
      exact ⟨hother.data, hother.null⟩
    · exact hdropped.origin d' m' b (hcell d' m' hd').2 hb

/-! ### Decoding -/

namespace InvBut

/-- A new decoded message, which is still to be put in order. -/
theorem keep (hs : Inv codec s) (i : Nat) (e : Encoded) {from' : Option Bytes}
    (hfrom : ∀ b, from' = some b → ∃ v, m.origin = some v ∧ m.j2735_data ≠ none ∧ codec.decoding b = some v) :
    InvBut codec (some (.decoded s.next)) (s.keep i e m from') := by
  refine ⟨hs.decodedFault, hs.structsFault, fun k m' hk _ => ⟨(hs.messages k m' hk nofun).data, (hs.messages k m' hk nofun).null⟩,
    fun d m' hd => ?_, fun d m' b hd hb => ?_, fun p hp => Nat.lt_succ_of_lt (hs.fresh p hp), hs.outputs⟩
  · show d < s.next + 1 ∧ _
    by_cases hdn : d = s.next
    · subst hdn
      exact ⟨Nat.lt_succ_self _, fun hskip => absurd rfl hskip⟩
    · have hold : s.decoded.cell d = some m' := (Heap.set_of_ne hdn).symm.trans hd
      obtain ⟨hlt, hgood⟩ := hs.decoded d m' hold
      exact ⟨Nat.lt_succ_of_lt hlt, fun _ => ⟨(hgood nofun).data, (hgood nofun).null⟩⟩
  · by_cases hdn : d = s.next
    · subst hdn
      obtain rfl := Option.some.inj (Heap.set_self.symm.trans hd)
      simp only [State.keep, State.setEncoded, Function.update_self] at hb
      exact hfrom b hb
    · have hold : s.decoded.cell d = some m' := (Heap.set_of_ne hdn).symm.trans hd
      simp only [State.keep, State.setEncoded, Function.update_of_ne hdn] at hb
      exact hs.origin d m' b hold hb

theorem close {d : Nat} (hs : InvBut codec (some (.decoded d)) s)
    (hd : ∀ m, s.decoded.cell d = some m → Good codec s (.decoded d) m) : Inv codec s := by
  refine ⟨hs.decodedFault, hs.structsFault, fun k m hk _ => hs.messages k m hk nofun, fun d' m hd' => ⟨(hs.decoded d' m hd').1,
    fun _ => ?_⟩, hs.origin, hs.fresh, hs.outputs⟩
  by_cases hdd : d' = d
  · subst hdd
    exact hd m hd'
  · exact (hs.decoded d' m hd').2 (by simpa using fun heq => hdd heq.symm)

end InvBut

/-- The state in which a structure was decoded. -/
def State.withDecoded (s : State σ) (i : Nat) (e : Encoded) (v : σ) (deletes : Bool) : State σ :=
  (s.keep i e (.ofStruct (s.next + 1) v) (some e.bytes)).make (.decoded s.next) v deletes

theorem inv_withDecoded (hs : Inv codec s) (i : Nat) {v : σ} (hv : codec.decoding e.bytes = some v) (deletes : Bool) :
    Inv codec (s.withDecoded i e v deletes) ∧
      Good codec (s.withDecoded i e v deletes) (.decoded s.next) (.ofStruct (s.next + 1) v) := by
  have hgood : Good codec (s.withDecoded i e v deletes) (.decoded s.next) (.ofStruct (s.next + 1) v) := by
    refine ⟨fun p hp => ?_, fun hp => absurd hp nofun⟩
    obtain rfl := Option.some.inj hp
    refine ⟨?_, ⟨v, deletes⟩, Heap.set_self, fun w hw => Option.some.inj hw⟩
    show _ ∈ Function.update s.holders (s.next + 1) _ (s.next + 1)
    rw [Function.update_self]
    exact List.mem_cons_self
  refine ⟨InvBut.close ((InvBut.keep hs i e (m := .ofStruct (s.next + 1) v) fun b hb => ?_).make (.decoded s.next) v deletes)
    fun m hm => ?_, hgood⟩
  · obtain rfl := Option.some.inj hb
    exact ⟨v, rfl, nofun, hv⟩
  · have hcell : (s.withDecoded i e v deletes).decoded.cell s.next = some (.ofStruct (s.next + 1) v) := Heap.set_self
    obtain rfl := Option.some.inj (hcell.symm.trans hm)
    exact hgood

/-- Without a decoded message: it throws if the bytes have no decoding, and else makes a structure. -/
theorem decodeNew_spec (i : Nat) (hencoding : e.encoding = .asn1 codec.default)
    (hframe : codec.isFrame codec.default e.bytes = true → codec.decodeFrame codec.default e.bytes ≠ some none) :
    (s.decodeNew codec i e = none ∧ codec.decoding e.bytes = none) ∨
      ∃ v deletes, s.decodeNew codec i e = some (s.withDecoded i e v deletes, .ofStruct (s.next + 1) v) ∧
        codec.decoding e.bytes = some v := by
  rw [State.decodeNew, if_neg (not_not_intro hencoding), Codec.decoding]
  by_cases hf : codec.isFrame codec.default e.bytes = true
  · rw [if_pos hf, if_pos hf]
    rcases hv : codec.decodeFrame codec.default e.bytes with _ | _ | v
    · exact Or.inl ⟨rfl, rfl⟩
    · exact absurd hv (hframe hf)
    · exact Or.inr ⟨v, false, rfl, rfl⟩
  · rw [if_neg hf, if_neg hf]
    rcases hv : codec.decode codec.default e.bytes with _ | v
    · exact Or.inl ⟨rfl, rfl⟩
    · exact Or.inr ⟨v, true, rfl, rfl⟩

theorem Good.read (hm : Good codec s h m) {v : σ} (hdata : m.j2735_data ≠ none) (hv : m.origin = some v) :
    s.read m.j2735_data = some v := by
  obtain ⟨p, hp⟩ := Option.ne_none_iff_exists'.1 hdata
  obtain ⟨-, a, ha, hvalue⟩ := hm.data p hp
  rw [State.read, hp, Option.bind_some, ha, Option.map_some, hvalue v hv]

theorem inv_decode (hs : Inv codec s) (i k : Nat) (hdec : Decodable codec s e) : Inv codec (s.decode_j2735_message codec i k e) := by
  unfold State.decode_j2735_message
  unfold Decodable at hdec
  split
  · rename_i hnone
    rw [hnone] at hdec
    rcases decodeNew_spec i hdec.1 hdec.2 with ⟨hnew, hv⟩ | ⟨v, deletes, hnew, hv⟩
    · rw [hnew]
      exact hs.emit (by rw [Output.Right, hv]; rfl)
    · rw [hnew]
      obtain ⟨hinv, hgood⟩ := inv_withDecoded hs i hv deletes
      refine (inv_copyTo (hinv.weaken _) hgood).emit ?_
      rw [Output.Right, hv, hgood.read nofun rfl]
      rfl
  · rename_i d hd
    rw [hd] at hdec
    obtain ⟨m, hm⟩ := Option.isSome_iff_exists.1 hdec.1
    rw [hm]
    obtain ⟨v, horigin, hdata, hv⟩ := hs.origin d m e.bytes hm hdec.2
    have hgood := (hs.decoded d m hm).2 nofun
    refine (inv_copyTo (hs.weaken _) hgood).emit ?_
    rw [Output.Right, hv, hgood.read hdata horigin]
    rfl

/-! ### Messages of the client -/

/-- What a get gives where the contents were not set since the structure was there. -/
theorem get_spec (hs : Inv codec s) (hk : s.messages k = some m) : Inv codec (s.get_j2735_data codec k m).1 ∧
    ((m.j2735_data ≠ none → m.origin ≠ none) →
      (s.get_j2735_data codec k m).2.map (s.get_j2735_data codec k m).1.read = m.contents codec) := by
  have hgood := hs.messages k m hk nofun
  rcases hdata : m.j2735_data with _ | p
  · rcases hempty : m.tree.isEmpty with _ | _
    · rcases hxer : codec.xer_decode (m.to_string codec) with _ | v
      · have hnever : ∀ v, m.origin ≠ some v := by
          intro v hv
          rw [(hgood.null hdata v hv).2.1] at hxer
          exact absurd hxer nofun
        have hget : s.get_j2735_data codec k m = (s.setMessage k { m with text := some (m.to_string codec) }, none) := by
          simp only [State.get_j2735_data, hdata, hempty, hxer, Bool.false_eq_true, if_false]
        rw [hget]
        refine ⟨(hs.weaken _).setMessage ⟨hgood.data, fun _ v hv => absurd hv (hnever v)⟩, fun _ => ?_⟩
        rw [Message.contents, Option.eq_none_iff_forall_ne_some.2 hnever]
        simp [hempty, hxer]
      · have hget : s.get_j2735_data codec k m = ((s.make (.client k) v true).setMessage k
            ⟨m.tree, some (m.to_string codec), some s.next, some v⟩, some (some s.next)) := by
          simp only [State.get_j2735_data, hdata, hempty, hxer, Bool.false_eq_true, if_false]
        rw [hget]
        have hcell : (s.make (.client k) v true).structs.cell s.next = some ⟨v, true⟩ := Heap.set_self
        refine ⟨(((hs.weaken _).make _ v true).setMessage ⟨fun p hp => ?_, fun hp => absurd hp nofun⟩), fun _ => ?_⟩
        · obtain rfl := Option.some.inj hp
          refine ⟨?_, _, hcell, fun w hw => Option.some.inj hw⟩
          simp only [State.make, State.hold, Function.update_self]
          exact List.mem_cons_self
        · have hread : ((s.make (.client k) v true).setMessage k ⟨m.tree, some (m.to_string codec), some s.next, some v⟩).read
              (some s.next) = some v := congrArg (Option.map Asn1.value) hcell
          rw [Option.map_some, hread, Message.contents]
          rcases horigin : m.origin with _ | w
          · simp [hempty, hxer]
          · rw [(hgood.null hdata w horigin).2.1] at hxer
            rw [Option.some.inj hxer]
    · have hnever : ∀ v, m.origin ≠ some v := by
        intro v hv
        rw [(hgood.null hdata v hv).1] at hempty
        exact absurd hempty Bool.false_ne_true
      have hget : s.get_j2735_data codec k m = (s, some none) := by
        simp only [State.get_j2735_data, hdata, hempty, if_true]
      rw [hget]
      refine ⟨hs, fun _ => ?_⟩
      rw [Message.contents, Option.eq_none_iff_forall_ne_some.2 hnever]
      simp [hempty, State.read]
  · have hget : s.get_j2735_data codec k m = (s, some (some p)) := by
      simp only [State.get_j2735_data, hdata, (hgood.live hdata).touch]
    rw [hget]
    refine ⟨hs, fun hsound => ?_⟩
    obtain ⟨v, hv⟩ := Option.ne_none_iff_exists'.1 (hsound (Option.some_ne_none p))
    have hread := hgood.read (by rw [hdata]; exact Option.some_ne_none p) hv
    rw [hdata] at hread
    rw [Option.map_some, hread, Message.contents, hv]

theorem inv_set_j2735_data (hs : Inv codec s) (hk : s.messages k = some m) {data : Option σ}
    (htrip : ∀ v, data = some v → RoundTrip codec v) : Inv codec (s.set_j2735_data codec k m data) := by
  have hgood := hs.messages k m hk nofun
  refine (InvBut.drop hs (fun p hp => hgood.live hp) (.client k)).setMessage ?_
  have hcleared : Good codec (s.drop (.client k) m.j2735_data) (.client k)
      { m with tree := .empty, j2735_data := none, origin := none } :=
    ⟨fun _ hp => absurd hp nofun, fun _ _ hv => absurd hv nofun⟩
  rcases data with _ | v
  · exact hcleared
  · dsimp only
    split
    · exact hcleared
    · rename_i tree htree
      refine ⟨fun _ hp => absurd hp nofun, fun _ w hw => ?_⟩
      obtain rfl := Option.some.inj hw
      exact htrip v rfl tree htree

theorem inv_set_data (hs : Inv codec s) (i : Nat) (data : Bytes) (hlive : ∀ d, e.decoded = some d → s.decoded.Live d) :
    Inv codec (s.set_data i e data) :=
  (inv_reset hs hlive).withEncoded _

theorem get_decoded (codec : Codec σ) (s : State σ) (k : Nat) (m : Message σ) :
    (s.get_j2735_data codec k m).1.decoded = s.decoded := by
  unfold State.get_j2735_data
  split
  · rfl
  · split_ifs
    · rfl
    · split <;> rfl

theorem inv_encode (hs : Inv codec s) (i : Nat) (hk : s.messages k = some m)
    (hlive : ∀ d, e.decoded = some d → s.decoded.Live d) : Inv codec (s.encode_j2735_message codec i k e m) := by
  have hget := (get_spec hs hk).1
  have hdecoded := get_decoded codec s k m
  unfold State.encode_j2735_message
  split
  · exact hs
  · rcases hr : s.get_j2735_data codec k m with ⟨s', _ | data⟩
    · rw [hr] at hget
      exact hget
    · rw [hr] at hget hdecoded
      dsimp only
      split
      · exact hget
      · refine inv_set_data hget i _ fun d hd => ?_
        rw [hdecoded]
        exact hlive d hd

/-! ### Owners -/

/-- Nothing happens to the encoded messages and to those that they have decoded. -/
structure Aside (s t : State σ) : Prop where
  encoded : t.encoded = s.encoded
  decoded : t.decoded = s.decoded
  decodedFrom : t.decodedFrom = s.decodedFrom

theorem Aside.trans {u : State σ} (h : Aside s t) (h' : Aside t u) : Aside s u :=
  ⟨h'.encoded.trans h.encoded, h'.decoded.trans h.decoded, h'.decodedFrom.trans h.decodedFrom⟩

theorem aside_hold (s : State σ) (h : Holder) (data : Option Nat) : Aside s (s.hold h data) := by
  cases data <;> exact ⟨rfl, rfl, rfl⟩

theorem aside_drop (s : State σ) (h : Holder) (data : Option Nat) : Aside s (s.drop h data) := by
  cases data <;> exact ⟨rfl, rfl, rfl⟩

theorem aside_copyTo (s : State σ) (k : Nat) (m : Message σ) : Aside s (s.copyTo k m) :=
  (aside_hold s _ _).trans ⟨rfl, rfl, rfl⟩

theorem aside_get (codec : Codec σ) (s : State σ) (k : Nat) (m : Message σ) : Aside s (s.get_j2735_data codec k m).1 := by
  unfold State.get_j2735_data
  split
  · exact ⟨rfl, rfl, rfl⟩
  · split_ifs
    · exact ⟨rfl, rfl, rfl⟩
    · split <;> exact ⟨rfl, rfl, rfl⟩

/-- All messages but one have what they had. -/
theorem Owned.others (ho : Owned s) {i : Nat} {w : Option Encoded} (hencoded : t.encoded = Function.update s.encoded i w)
    (hothers : ∀ j e d, j ≠ i → s.encoded j = some e → e.decoded = some d →
      t.decoded.cell d = s.decoded.cell d ∧ t.decodedFrom d = s.decodedFrom d)
    (hnew : ∀ e d, w = some e → e.decoded = some d → t.decoded.Live d ∧ (e.changed = false → t.decodedFrom d = some e.bytes) ∧
      ∀ j e₀, j ≠ i → s.encoded j = some e₀ → e₀.decoded ≠ some d) : Owned t := by
  have hcases {j : Nat} {e : Encoded} (hj : t.encoded j = some e) : j = i ∧ w = some e ∨ j ≠ i ∧ s.encoded j = some e := by
    rw [hencoded] at hj
    by_cases hji : j = i
    · subst hji
      rw [Function.update_self] at hj
      exact .inl ⟨rfl, hj⟩
    · rw [Function.update_of_ne hji] at hj
      exact .inr ⟨hji, hj⟩
  refine ⟨fun j e d hj hd => ?_, fun j e d hj hd hchanged => ?_, fun j k e e₀ d hj hk hd hd₀ => ?_⟩
  · obtain ⟨-, he⟩ | ⟨hji, hj⟩ := hcases hj
    · exact (hnew e d he hd).1
    · rw [Heap.Live, (hothers j e d hji hj hd).1]
      exact ho.live j e d hj hd
  · obtain ⟨-, he⟩ | ⟨hji, hj⟩ := hcases hj
    · exact (hnew e d he hd).2.1 hchanged
    · rw [(hothers j e d hji hj hd).2]
      exact ho.decodedFrom j e d hj hd hchanged
  · obtain ⟨rfl, he⟩ | ⟨hji, hj⟩ := hcases hj
    · obtain ⟨rfl, -⟩ | ⟨hki, hk⟩ := hcases hk
      · rfl
      · exact absurd hd₀ ((hnew e d he hd).2.2 k e₀ hki hk)
    · obtain ⟨rfl, he₀⟩ | ⟨hki, hk⟩ := hcases hk
      · exact absurd hd ((hnew e₀ d he₀ hd₀).2.2 j e hji hj)
      · exact ho.unique j k e e₀ d hj hk hd hd₀

theorem Owned.aside (ho : Owned s) (h : Aside s t) : Owned t := by
  obtain ⟨hencoded, hdecoded, hfrom⟩ := h
  refine ⟨?_, ?_, ?_⟩
  · rw [hencoded, hdecoded]
    exact ho.live
  · rw [hencoded, hfrom]
    exact ho.decodedFrom
  · rw [hencoded]
    exact ho.unique

theorem reset_eq (s : State σ) (e : Encoded) : (s.reset e).encoded = s.encoded ∧ (s.reset e).decodedFrom = s.decodedFrom ∧
    ∀ d, e.decoded ≠ some d → (s.reset e).decoded.cell d = s.decoded.cell d := by
  unfold State.reset
  split
  · exact ⟨rfl, rfl, fun _ _ => rfl⟩
  · rename_i d hd
    have hfree {d' : Nat} (hne : e.decoded ≠ some d') : (s.decoded.free d).cell d' = s.decoded.cell d' :=
      Heap.free_of_ne fun heq => hne (hd.trans (congrArg some heq.symm))
    split
    · exact ⟨rfl, rfl, fun _ hne => hfree hne⟩
    · rename_i m _
      have haside := aside_drop { s with decoded := s.decoded.free d } (.decoded d) m.j2735_data
      refine ⟨haside.encoded, haside.decodedFrom, fun d' hne => ?_⟩
      rw [haside.decoded]
      exact hfree hne

/-- The unique pointer is reset, and the message goes or has none any more. -/
theorem Owned.reset (ho : Owned s) {i : Nat} (hi : s.encoded i = some e) {w : Option Encoded}
    (hw : ∀ x, w = some x → x.decoded = none) : Owned { s.reset e with encoded := Function.update s.encoded i w } := by
  obtain ⟨-, hfrom, hcell⟩ := reset_eq s e
  refine ho.others (i := i) (w := w) rfl (fun j e₀ d hji hj hd => ⟨hcell d fun hed => ?_, congrFun hfrom d⟩)
    fun x d hx hd => nomatch (hw x hx).symm.trans hd
  exact hji (ho.unique j i e₀ e d hj hi hd hed)

theorem Owned.set_data (ho : Owned s) {i : Nat} (hi : s.encoded i = some e) (data : Bytes) : Owned (s.set_data i e data) := by
  have hreset := ho.reset hi (w := some ⟨data, if data.head? = some 48 then .asn1 .der else e.encoding, none, false⟩)
    fun x hx => by cases hx; rfl
  unfold State.set_data State.setEncoded
  rw [(reset_eq s e).1]
  exact hreset

theorem Owned.encode (ho : Owned s) {i : Nat} (hi : s.encoded i = some e) (k : Nat) (m : Message σ) :
    Owned (s.encode_j2735_message codec i k e m) := by
  have haside := aside_get codec s k m
  unfold State.encode_j2735_message
  split
  · exact ho
  · rcases hr : s.get_j2735_data codec k m with ⟨s', _ | data⟩
    · rw [hr] at haside
      exact ho.aside haside
    · rw [hr] at haside
      dsimp only
      split
      · exact ho.aside haside
      · exact (ho.aside haside).set_data ((congrFun haside.encoded i).trans hi) _

theorem Owned.decode (ho : Owned s) (hs : Inv codec s) (i k : Nat) (hdec : Decodable codec s e) :
    Owned (s.decode_j2735_message codec i k e) := by
  unfold State.decode_j2735_message
  unfold Decodable at hdec
  split
  · rename_i hnone
    rw [hnone] at hdec
    rcases decodeNew_spec i hdec.1 hdec.2 with ⟨hnew, -⟩ | ⟨v, deletes, hnew, -⟩
    · rw [hnew]
      exact ho.aside ⟨rfl, rfl, rfl⟩
    · rw [hnew]
      have hfresh {j : Nat} {e₀ : Encoded} {d : Nat} (hj : s.encoded j = some e₀) (hd : e₀.decoded = some d) : d ≠ s.next := by
        obtain ⟨m, hm⟩ := Option.isSome_iff_exists.1 (ho.live j e₀ d hj hd)
        exact Nat.ne_of_lt (hs.decoded d m hm).1
      have hmade : Owned (s.withDecoded i e v deletes) := by
        refine ho.others (i := i) (w := some { e with decoded := some s.next, changed := false }) rfl
          (fun j e₀ d _ hj hd => ?_) fun x d hx hd => ?_
        · exact ⟨Heap.set_of_ne (hfresh hj hd), Function.update_of_ne (hfresh hj hd) _ _⟩
        · cases hx
          obtain rfl := Option.some.inj hd
          exact ⟨Heap.live_of_eq_some Heap.set_self, fun _ => Function.update_self _ _ _,
            fun j e₀ _ hj hd₀ => hfresh hj hd₀ rfl⟩
      exact hmade.aside ((aside_copyTo _ k _).trans ⟨rfl, rfl, rfl⟩)
  · rename_i d hd
    rw [hd] at hdec
    obtain ⟨m, hm⟩ := Option.isSome_iff_exists.1 hdec.1
    rw [hm]
    exact ho.aside ((aside_copyTo s k m).trans ⟨rfl, rfl, rfl⟩)

/-- What may be decoded, is. -/
theorem Owned.decodable (ho : Owned s) {i k : Nat} (hi : s.encoded i = some e) (hsound : Sound codec s (.decode i k)) :
    Decodable codec s e := by
  have h := hsound e hi
  unfold Decodable
  cases hd : e.decoded with
  | none =>
    rw [if_pos hd] at h
    exact h
  | some d =>
    rw [if_neg (by rw [hd]; exact Option.some_ne_none d)] at h
    exact ⟨ho.live i e d hi hd, ho.decodedFrom i e d hi hd h⟩

theorem Owned.changed (ho : Owned s) {i : Nat} (hi : s.encoded i = some e) (bytes : Bytes) (encoding : Encoding) :
    Owned (s.setEncoded i { e with bytes := bytes, encoding := encoding, changed := true }) := by
  refine ho.others rfl (fun _ _ _ _ _ _ => ⟨rfl, rfl⟩) fun x d hx hd => ?_
  cases hx
  refine ⟨ho.live i e d hi hd, nofun, fun j e₀ hji hj hd₀ => ?_⟩
  exact hji (ho.unique j i e₀ e d hj hi hd₀ hd)

theorem owned_step (ho : Owned s) (hs : Inv codec s) {ev : Event σ} (hsound : Sound codec s ev)
    (hstep : Steps codec s ev t) : Owned t := by
  cases hstep with
  | construct hi => exact ho.others rfl (fun _ _ _ _ _ _ => ⟨rfl, rfl⟩) fun x d hx hd => by cases hx; nomatch hd
  | @copy i j e hi hj =>
    exact ho.others rfl (fun _ _ _ _ _ _ => ⟨rfl, rfl⟩) fun x d hx hd => by cases hx; nomatch (hsound e hj).symm.trans hd
  | set_data data hi => exact ho.set_data hi data
  | set_payload_bytes bytes hi => exact ho.changed hi bytes .other
  | set_contents bytes encoding hi => exact ho.changed hi bytes encoding
  | @encode i k e m hi hk => exact ho.encode hi k m
  | @decode i k e hk hi => exact ho.decode hs i k (ho.decodable hi hsound)
  | destroy hi => exact ho.reset hi nofun
  | @copyMessage k l m hk hl => exact ho.aside (aside_copyTo s k m)
  | assignSelf hk => exact ho
  | @assignMessage k l m other hkl hk hl => exact ho.aside ((aside_drop s _ _).trans (aside_copyTo _ k other))
  | set_tree contents hk => exact ho.aside ⟨rfl, rfl, rfl⟩
  | set_text hk htree => exact ho.aside ⟨rfl, rfl, rfl⟩
  | unreadable hk htree => exact ho
  | set_j2735_data data hk => exact ho.aside ((aside_drop s _ _).trans ⟨rfl, rfl, rfl⟩)
  | @get_j2735_data k m hk => exact ho.aside ((aside_get codec s k m).trans ⟨rfl, rfl, rfl⟩)
  | destroyMessage hk => exact ho.aside ((aside_drop s _ _).trans ⟨rfl, rfl, rfl⟩)

/-! ### Runs -/

theorem inv_init : Inv codec (State.init : State σ) :=
  ⟨rfl, rfl, fun _ _ h => absurd h nofun, fun _ _ h => absurd h nofun, fun _ _ _ h => absurd h nofun,
    fun _ h => absurd h Bool.false_ne_true, fun _ h => absurd h List.not_mem_nil⟩

theorem owned_init : Owned (State.init : State σ) := ⟨nofun, nofun, nofun⟩

theorem inv_step (hs : Inv codec s) (ho : Owned s) {ev : Event σ} (hsound : Sound codec s ev)
    (hstep : Steps codec s ev t) : Inv codec t := by
  cases hstep with
  | construct hi => exact hs.withEncoded _
  | copy hi hj => exact hs.withEncoded _
  | @set_data i e data hi => exact inv_set_data hs i data fun d hd => ho.live i e d hi hd
  | set_payload_bytes bytes hi => exact hs.withEncoded _
  | set_contents bytes encoding hi => exact hs.withEncoded _
  | @encode i k e m hi hk => exact inv_encode hs i hk fun d hd => ho.live i e d hi hd
  | @decode i k e hk hi => exact inv_decode hs i k (ho.decodable hi hsound)
  | @destroy i e hi => exact (inv_reset hs fun d hd => ho.live i e d hi hd).withEncoded _
  | @copyMessage k l m hk hl => exact inv_copyTo (hs.weaken _) (hs.messages l m hl nofun)
  | assignSelf hk => exact hs
  | @assignMessage k l m other hkl hk hl =>
    have hgood := hs.messages k m hk nofun
    have hne : Holder.client l ≠ .client k := by simpa using fun heq => hkl heq.symm
    have hother := (hs.messages l other hl nofun).drop hne m.j2735_data
    exact inv_copyTo (InvBut.drop hs (fun p hp => hgood.live hp) _) hother
  | @set_tree k m contents hk => exact (hs.weaken _).setMessage ((hs.messages k m hk nofun).forget _ _)
  | @set_text k m contents tree hk htree => exact (hs.weaken _).setMessage ((hs.messages k m hk nofun).forget _ _)
  | unreadable hk htree => exact hs
  | set_j2735_data data hk =>
    refine inv_set_j2735_data hs hk fun v hv => ?_
    subst hv
    exact hsound
  | @get_j2735_data k m hk =>
    obtain ⟨hget, hvalue⟩ := get_spec hs hk
    exact hget.emit (hvalue (hsound m hk))
  | @destroyMessage k m hk =>
    have hgood := hs.messages k m hk nofun
    exact (InvBut.drop hs (fun p hp => hgood.live hp) _).removeMessage

/-- In every run whose steps meet the condition nothing is released twice or used after it, and what is returned is right. -/
theorem decoded_cache {es : List (Event σ)} (hsound : (machine codec).Meets (Sound codec) State.init es)
    (hexec : (machine codec).exec State.init es = some s) : Sane codec s := by
  have hinv : Inv codec s ∧ Owned s :=
    Machine.invariant_meets (M := machine codec) (I := fun s => Inv codec s ∧ Owned s) ⟨inv_init, owned_init⟩
      (fun _ _ _ h hG hstep => ⟨inv_step h.1 h.2 hG (step_cases hstep), owned_step h.2 h.1 hG (step_cases hstep)⟩) hsound hexec
  exact ⟨hinv.1.decodedFault, hinv.1.structsFault, hinv.1.outputs⟩

/-! A class of messages that are one integer, a byte in UPER. -/

def integerTree (digits : Str) : Ptree := .node [] [(CString.lit "INTEGER", .node digits [])]

/-- The text of the integer 7, with the declaration or without. -/
def seven : Str := CString.lit "<INTEGER>7</INTEGER>"

def declaration : Str := CString.lit "<?xml version=\"1.0\" encoding=\"utf-8\"?>\n"

def byteCodec : Codec UInt8 where
  default := .uper
  isFrame _ _ := false
  decode _ bytes := if bytes.length = 1 then bytes.head? else none
  decodeFrame _ _ := none
  encode _ v := some [v]
  encodeFrame _ _ := none
  read_xml text := if text = seven then some (integerTree [55]) else none
  write_xml t := declaration ++
    t.children.flatMap fun c => [60] ++ c.1 ++ [62] ++ c.2.data ++ [60, 47] ++ c.1 ++ [62]
  xer_decode text := if text = seven ∨ text = declaration ++ seven then some 7 else none
  as_string v := CString.lit "<INTEGER>" ++ CString.lit (toString v.toNat) ++ CString.lit "</INTEGER>"

instance decidableRoundTrip [DecidableEq σ] (codec : Codec σ) (v : σ) : Decidable (RoundTrip codec v) :=
  match h : codec.read_xml (codec.as_string v) with
  | none => .isTrue fun _ htree => nomatch h.symm.trans htree
  | some tree => decidable_of_iff (tree.isEmpty = false ∧ codec.xer_decode (codec.as_string v) = some v ∧
      codec.xer_decode (codec.write_xml tree) = some v)
      ⟨fun hback _ htree => Option.some.inj (h.symm.trans htree) ▸ hback, fun hback => hback tree h⟩

/-- What is said of the object, if there is one. -/
instance decidableOfObject {α : Type} (x : Option α) (P : α → Prop) [∀ a, Decidable (P a)] : Decidable (∀ a, x = some a → P a) :=
  match x with
  | none => .isTrue nofun
  | some a => decidable_of_iff (P a) ⟨fun h _ heq => Option.some.inj heq ▸ h, fun h => h a rfl⟩

instance decidableSound [DecidableEq σ] (codec : Codec σ) (s : State σ) : ∀ ev, Decidable (Sound codec s ev)
  | .copy _ j => inferInstanceAs (Decidable (∀ e, s.encoded j = some e → e.decoded = none))
  | .decode i _ => inferInstanceAs (Decidable (∀ e, s.encoded i = some e → if e.decoded = none then
      e.encoding = .asn1 codec.default ∧
        (codec.isFrame codec.default e.bytes = true → codec.decodeFrame codec.default e.bytes ≠ some none)
      else e.changed = false))
  | .set_j2735_data _ (some v) => inferInstanceAs (Decidable (RoundTrip codec v))
  | .get_j2735_data k => inferInstanceAs (Decidable (∀ m, s.messages k = some m → m.j2735_data ≠ none → m.origin ≠ none))
  | .set_j2735_data _ none | .construct _ _ _ | .set_data _ _ | .set_payload_bytes _ _ | .set_contents _ _ _ | .encode _ _
  | .destroy _ | .copyMessage _ _ | .assignMessage _ _ | .set_tree _ _ | .set_text _ _ | .destroyMessage _ => .isTrue trivial

/-- A message and a copy of it are decoded, before and behind `set_data`, and go. -/
def decodedTwice : List (Event UInt8) :=
  [.construct 0 [5] (.asn1 .uper), .copy 1 0, .decode 0 0, .decode 0 1, .set_data 0 [6], .decode 0 2, .get_j2735_data 0,
    .decode 1 3, .destroy 0, .destroy 1, .get_j2735_data 2]

theorem decoded_cache_set_data : ∃ s, (machine byteCodec).exec State.init decodedTwice = some s ∧ Sane byteCodec s := by
  have hexec : (machine byteCodec).exec State.init decodedTwice = some _ := rfl
  exact ⟨_, hexec, decoded_cache (by decide +kernel) hexec⟩

/-- The decoded message of a copy is deleted twice; a payload that was set in another way is not decoded anew; and a structure
stays when the contents are set. -/
theorem decoded_cache_fails :
    (∃ s, (machine byteCodec).exec State.init
        [.construct 0 [5] (.asn1 .uper), .decode 0 0, .copy 1 0, .destroy 0, .destroy 1] = some s ∧ ¬ Sane byteCodec s) ∧
    (∃ s, (machine byteCodec).exec State.init
        [.construct 0 [5] (.asn1 .uper), .decode 0 0, .set_contents 0 [6] (.asn1 .uper), .decode 0 1] = some s ∧
      ¬ Sane byteCodec s) ∧
    ∃ s, (machine byteCodec).exec State.init
        [.construct 0 [5] (.asn1 .uper), .decode 0 0, .set_tree 0 (integerTree [55]), .get_j2735_data 0] = some s ∧
      ¬ Sane byteCodec s := by
  refine ⟨⟨_, rfl, fun h => ?_⟩, ⟨_, rfl, fun h => ?_⟩, ⟨_, rfl, fun h => ?_⟩⟩
  · exact absurd h.decoded (by decide)
  · have hvalue : some (some (5 : UInt8)) = (byteCodec.decoding [6]).map some := h.outputs _ (List.mem_of_mem_getLast? rfl)
    exact absurd hvalue (by decide)
  · have hvalue : some (some (5 : UInt8)) = Message.contents byteCodec ⟨integerTree [55], none, some 2, none⟩ :=
      h.outputs _ (List.mem_of_mem_getLast? rfl)
    exact absurd hvalue (by decide +kernel)

end V2xHub.TmxJ2735
