import V2xHub.Lib.Heap
import V2xHub.Lib.Machine
import V2xHub.PropertyTree.Json

/-!
# Encoded J2735 messages

A `TmxJ2735EncodedMessage` keeps the message it decoded in a unique pointer, which its copy constructor copies; `set_data` resets
it, but `set_payload_bytes` and `set_contents` do not. A `TmxJ2735Message` has an XML tree and a shared pointer to the ASN.1
structure, which is made from the tree only if there is none.

The ASN.1 codec and the XML parser are parameters. A structure knows the holders of its shared pointer: the last to go releases
it, if its deleter does so at all. Beside each decoded message stand the bytes that it was decoded from, beside each encoded one
whether its payload was set since, and beside each message the structure that its contents are, unless they are just the tree.
-/

namespace V2xHub.TmxJ2735

abbrev Bytes := List UInt8

/-- The encoding rules. -/
inductive Rules where
  | uper | der
deriving DecidableEq

/-- The encoding of a message: by one of the rules, or any other text. -/
inductive Encoding where
  | asn1 (rules : Rules)
  | other
deriving DecidableEq

/-- What a class of messages is coded by. -/
structure Codec (σ : Type) where
  /-- `ASN1_CODEC` -/
  default : Rules
  /-- The message id is above that of a frame. -/
  isFrame : Rules → Bytes → Bool
  decode : Rules → Bytes → Option σ
  /-- A frame may have a message of another class; then the structure is null. -/
  decodeFrame : Rules → Bytes → Option (Option σ)
  encode : Rules → σ → Option Bytes
  encodeFrame : Rules → σ → Option Bytes
  read_xml : Str → Option Ptree
  write_xml : Ptree → Str
  xer_decode : Str → Option σ
  as_string : σ → Str

/-- `TmxJ2735Message` -/
structure Message (σ : Type) where
  tree : Ptree
  /-- The text of the tree that is kept. -/
  text : Option Str
  j2735_data : Option Nat
  /-- The contents, where they are a structure. -/
  origin : Option σ

/-- An ASN.1 structure; the deleter of its shared pointer may leave it. -/
structure Asn1 (σ : Type) where
  value : σ
  deletes : Bool

/-- A shared pointer: that of a message of the client, or of a decoded message. -/
inductive Holder where
  | client (k : Nat)
  | decoded (d : Nat)
deriving DecidableEq

/-- `TmxJ2735EncodedMessage` -/
structure Encoded where
  bytes : Bytes
  encoding : Encoding
  decoded : Option Nat
  /-- The payload was set otherwise than by `set_data` since it was decoded. -/
  changed : Bool

inductive Output (σ : Type) where
  /-- `decode_j2735_message`: the structure of what is returned, or none if it throws. -/
  | decoded (bytes : Bytes) (returned : Option (Option σ))
  /-- `get_j2735_data` of the message, which returns a structure or null, or throws. -/
  | data (m : Message σ) (returned : Option (Option σ))

structure State (σ : Type) where
  encoded : Nat → Option Encoded
  messages : Nat → Option (Message σ)
  decoded : Heap Nat (Message σ)
  decodedFrom : Nat → Option Bytes
  structs : Heap Nat (Asn1 σ)
  holders : Nat → List Holder
  next : Nat
  outputs : List (Output σ)

namespace Message
variable {σ : Type} (codec : Codec σ)

/-- `TmxJ2735Message()` -/
def empty : Message σ := ⟨.empty, none, none, none⟩

/-- The message of a structure. -/
def ofStruct (p : Nat) (v : σ) : Message σ := ⟨.empty, none, some p, some v⟩

def to_string (m : Message σ) : Str := m.text.getD (codec.write_xml m.tree)

/-- The copy constructor: the text is not copied. -/
def copy (m : Message σ) : Message σ := { m with text := none }

end Message

section
variable {σ : Type} (codec : Codec σ)

namespace State

def init : State σ := ⟨fun _ => none, fun _ => none, .empty, fun _ => none, .empty, fun _ => [], 0, []⟩

/-! ### Shared pointers -/

def hold (s : State σ) (h : Holder) (data : Option Nat) : State σ :=
  match data with
  | none => s
  | some p => { s with holders := Function.update s.holders p (h :: s.holders p) }

/-- The holder goes; the structure is released if there is no other. -/
def drop (s : State σ) (h : Holder) (data : Option Nat) : State σ :=
  match data with
  | none => s
  | some p => { s with
      holders := Function.update s.holders p ((s.holders p).erase h)
      structs :=
        if (s.holders p).erase h = [] ∧ ((s.structs.cell p).elim true Asn1.deletes) = true then s.structs.free p else s.structs }

/-- A new structure with one holder. -/
def make (s : State σ) (h : Holder) (v : σ) (deletes : Bool) : State σ :=
  { s with structs := s.structs.set s.next ⟨v, deletes⟩, next := s.next + 1 }.hold h (some s.next)

def setMessage (s : State σ) (k : Nat) (m : Message σ) : State σ := { s with messages := Function.update s.messages k (some m) }

def removeMessage (s : State σ) (k : Nat) : State σ := { s with messages := Function.update s.messages k none }

def emit (s : State σ) (o : Output σ) : State σ := { s with outputs := s.outputs ++ [o] }

/-! ### Decoded messages -/

/-- `_decoded.reset()` -/
def reset (s : State σ) (e : Encoded) : State σ :=
  match e.decoded with
  | none => s
  | some d =>
    match s.decoded.cell d with
    | none => { s with decoded := s.decoded.free d }
    | some m => { s with decoded := s.decoded.free d }.drop (.decoded d) m.j2735_data

def setEncoded (s : State σ) (i : Nat) (e : Encoded) : State σ := { s with encoded := Function.update s.encoded i (some e) }

/-- `TmxJ2735EncodedMessage::set_data` -/
def set_data (s : State σ) (i : Nat) (e : Encoded) (data : Bytes) : State σ :=
  (s.reset e).setEncoded i ⟨data, if data.head? = some 48 then .asn1 .der else e.encoding, none, false⟩

/-- The message is kept as the one that was decoded. -/
def keep (s : State σ) (i : Nat) (e : Encoded) (m : Message σ) (from' : Option Bytes) : State σ :=
  { s with
    decoded := s.decoded.set s.next m, decodedFrom := Function.update s.decodedFrom s.next from'
    next := s.next + 1 }.setEncoded i { e with decoded := some s.next, changed := false }

/-- The decoding that a message without a decoded one does; none if it throws. -/
def decodeNew (s : State σ) (i : Nat) (e : Encoded) : Option (State σ × Message σ) :=
  if e.encoding ≠ .asn1 codec.default then some (s.keep i e .empty none, .empty)
  else if codec.isFrame codec.default e.bytes then
    (codec.decodeFrame codec.default e.bytes).map fun v =>
      match v with
      | none => (s.keep i e .empty none, .empty)
      -- The frame stays, and so does what is in it.
      | some v => ((s.keep i e (.ofStruct (s.next + 1) v) (some e.bytes)).make (.decoded s.next) v false, .ofStruct (s.next + 1) v)
  else
    (codec.decode codec.default e.bytes).map fun v =>
      ((s.keep i e (.ofStruct (s.next + 1) v) (some e.bytes)).make (.decoded s.next) v true, .ofStruct (s.next + 1) v)

/-- A copy of a message for the client. -/
def copyTo (s : State σ) (k : Nat) (m : Message σ) : State σ := (s.hold (.client k) m.j2735_data).setMessage k m.copy

/-- The structure that is read through the pointer. -/
def read (s : State σ) (data : Option Nat) : Option σ := (data.bind s.structs.cell).map Asn1.value

/-- `decode_j2735_message`, with what it returns in the message `k`. -/
def decode_j2735_message (s : State σ) (i k : Nat) (e : Encoded) : State σ :=
  match e.decoded with
  | none =>
    match s.decodeNew codec i e with
    | none => s.emit (.decoded e.bytes none)
    | some (s, m) => (s.copyTo k m).emit (.decoded e.bytes (some (s.read m.j2735_data)))
  | some d =>
    match s.decoded.cell d with
    | none => { s with decoded := s.decoded.touch d }
    | some m => (s.copyTo k m).emit (.decoded e.bytes (some (s.read m.j2735_data)))

/-! ### Messages of the client -/

/-- `get_j2735_data`: the state after it, and the pointer unless it throws. -/
def get_j2735_data (s : State σ) (k : Nat) (m : Message σ) : State σ × Option (Option Nat) :=
  match m.j2735_data with
  | some p => ({ s with structs := s.structs.touch p }, some (some p))
  | none =>
    if m.tree.isEmpty then (s, some none)
    else
      match codec.xer_decode (m.to_string codec) with
      | none => (s.setMessage k { m with text := some (m.to_string codec) }, none)
      | some v =>
        ((s.make (.client k) v true).setMessage k ⟨m.tree, some (m.to_string codec), some s.next, some v⟩, some (some s.next))

/-- `set_j2735_data` -/
def set_j2735_data (s : State σ) (k : Nat) (m : Message σ) (data : Option σ) : State σ :=
  let cleared : Message σ := { m with tree := .empty, j2735_data := none, origin := none }
  (s.drop (.client k) m.j2735_data).setMessage k <|
    match data with
    | none => cleared
    | some v =>
      match codec.read_xml (codec.as_string v) with
      | none => cleared
      | some tree => ⟨tree, some (codec.as_string v), none, some v⟩

/-- `encode_j2735_message`: the bytes, unless it throws. -/
def encodeBytes (s : State σ) (e : Encoded) (data : Option Nat) : Option Bytes :=
  match e.encoding, s.read data with
  | .asn1 rules, some v => if codec.isFrame rules e.bytes then codec.encodeFrame rules v else codec.encode rules v
  | _, _ => none

def encode_j2735_message (s : State σ) (i k : Nat) (e : Encoded) (m : Message σ) : State σ :=
  match e.encoding with
  | .other => s
  | .asn1 _ =>
    match s.get_j2735_data codec k m with
    | (s, none) => s
    | (s, some data) =>
      match s.encodeBytes codec e data with
      | none => s
      | some bytes => s.set_data i e bytes

end State

inductive Event (σ : Type) where
  | construct (i : Nat) (bytes : Bytes) (encoding : Encoding)
  | copy (i j : Nat)
  | set_data (i : Nat) (data : Bytes)
  | set_payload_bytes (i : Nat) (bytes : Bytes)
  | set_contents (i : Nat) (bytes : Bytes) (encoding : Encoding)
  | encode (i k : Nat)
  | decode (i k : Nat)
  | destroy (i : Nat)
  | copyMessage (k l : Nat)
  | assignMessage (k l : Nat)
  | set_tree (k : Nat) (contents : Ptree)
  | set_text (k : Nat) (contents : Str)
  | set_j2735_data (k : Nat) (data : Option σ)
  | get_j2735_data (k : Nat)
  | destroyMessage (k : Nat)

def step (s : State σ) : Event σ → Option (State σ)
  | .construct i bytes encoding => if (s.encoded i).isNone then some (s.setEncoded i ⟨bytes, encoding, none, false⟩) else none
  | .copy i j => if (s.encoded i).isNone then (s.encoded j).map fun e => s.setEncoded i e else none
  | .set_data i data => (s.encoded i).map fun e => s.set_data i e data
  | .set_payload_bytes i bytes => (s.encoded i).map fun e =>
    s.setEncoded i { e with bytes := bytes, encoding := .other, changed := true }
  | .set_contents i bytes encoding => (s.encoded i).map fun e =>
    s.setEncoded i { e with bytes := bytes, encoding := encoding, changed := true }
  | .encode i k => (s.encoded i).bind fun e => (s.messages k).map fun m => s.encode_j2735_message codec i k e m
  | .decode i k => if (s.messages k).isNone then (s.encoded i).map fun e => s.decode_j2735_message codec i k e else none
  | .destroy i => (s.encoded i).map fun e => { s.reset e with encoded := Function.update s.encoded i none }
  | .copyMessage k l => if (s.messages k).isNone then (s.messages l).map fun m => s.copyTo k m else none
  | .assignMessage k l =>
    (s.messages k).bind fun m => (s.messages l).map fun other =>
      if k = l then s else (s.drop (.client k) m.j2735_data).copyTo k other
  | .set_tree k contents => (s.messages k).map fun m => s.setMessage k { m with tree := contents, text := none, origin := none }
  | .set_text k contents => (s.messages k).map fun m =>
    match codec.read_xml contents with
    | some tree => s.setMessage k { m with tree := tree, text := some contents, origin := none }
    | none => s
  | .set_j2735_data k data => (s.messages k).map fun m => s.set_j2735_data codec k m data
  | .get_j2735_data k => (s.messages k).map fun m =>
    (s.get_j2735_data codec k m).1.emit
      (.data m ((s.get_j2735_data codec k m).2.map (s.get_j2735_data codec k m).1.read))
  | .destroyMessage k => (s.messages k).map fun m =>
    (s.drop (.client k) m.j2735_data).removeMessage k

def machine : Machine (State σ) (Event σ) := ⟨State.init, step codec⟩

/-- The decoding of the bytes; a frame with a message of another class has none. -/
def Codec.decoding (b : Bytes) : Option σ :=
  if codec.isFrame codec.default b then (codec.decodeFrame codec.default b).join else codec.decode codec.default b

/-- The structure of the contents: null if there are none, and none if the tree cannot be decoded. -/
def Message.contents (m : Message σ) : Option (Option σ) :=
  match m.origin with
  | some v => some (some v)
  | none => if m.tree.isEmpty then some none else (codec.xer_decode (m.to_string codec)).map some

end

end V2xHub.TmxJ2735
