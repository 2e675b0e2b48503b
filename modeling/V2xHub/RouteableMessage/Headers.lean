import V2xHub.IvpMessage.Envelope
import V2xHub.Lib.Heap
import V2xHub.Lib.Machine
import V2xHub.RouteableMessage.Payload

/-!
# Headers of routeable messages

A `tmx_routeable_message` owns an `IvpMessage`, and its header attributes are bound to the fields of that structure. The
allocator of a text attribute frees the text that it put there last, as does `ivpMsg_destroy`; and the attributes of the DSRC
metadata stay bound where a structure without metadata takes the place of one that had some. A field that is null or zero counts
as unset: a get fills it from the container.

The objects are in JSON. Each has the part of the heap that was allocated by it, and beside it stand the header and the payload
that it should have. Of the container only the header is kept; its typed attributes read what it holds, since it changes by `store`
and `load` alone. The `set_contents` that `message` has for a tree and for a container is left out: it swaps the tree behind the
attributes and leaves the structure as it is.
-/

namespace V2xHub.RouteableMessage

inductive TextField where
  | type | subtype | source | encoding
deriving DecidableEq

inductive NumberField where
  | sourceId | timestamp | flags
deriving DecidableEq

inductive DsrcField where
  | channel | psid
deriving DecidableEq

def TextField.all : List TextField := [.type, .subtype, .source, .encoding]

def TextField.default_value : TextField → Str
  | .type | .subtype => CString.lit "Unknown"
  | .source | .encoding => []

/-- An `IvpMessage` with texts `τ` and metadata `δ`. -/
structure Fields (τ δ : Type) where
  text : TextField → Option τ
  number : NumberField → Int
  dsrcMetadata : Option δ
  payload : Option CJson

abbrev Metadata := DsrcField → Int

/-- What a structure says. -/
abbrev Contents := Fields Str Metadata

/-- The address of a text. -/
abbrev TextPtr := Nat × TextField

/-- The structure in memory. -/
abbrev Struct := Fields TextPtr Nat

def contents (msg : IvpMessage) : Contents where
  text
    | .type => msg.type
    | .subtype => msg.subtype
    | .source => msg.source
    | .encoding => msg.encoding
  number
    | .sourceId => msg.sourceId
    | .timestamp => msg.timestamp
    | .flags => msg.flags.toNat
  dsrcMetadata := msg.dsrcMetadata.map fun d => fun
    | .channel => d.channel
    | .psid => d.psid
  payload := msg.payload

/-- What the getters return. -/
structure Headers where
  text : TextField → Str
  number : NumberField → Int
  dsrc : Metadata

def noMetadata : Metadata := fun _ => -1

def Fields.header (c : Contents) : Headers :=
  ⟨fun f => (c.text f).getD f.default_value, c.number, c.dsrcMetadata.getD noMetadata⟩

/-- The header in the tree: a number may be there and yet be none. -/
structure Container where
  text : TextField → Option Str
  number : NumberField → Option (Option Int)
  dsrc : DsrcField → Option (Option Int)
  isEmpty : Bool

def Container.empty : Container := ⟨fun _ => none, fun _ => none, fun _ => none, true⟩

namespace Container

def putText (k : Container) (f : TextField) (v : Str) : Container :=
  { k with text := Function.update k.text f (some v), isEmpty := false }

def putNumber (k : Container) (f : NumberField) (n : Int) : Container :=
  { k with number := Function.update k.number f (some (some n)), isEmpty := false }

def putDsrc (k : Container) (f : DsrcField) (n : Int) : Container :=
  { k with dsrc := Function.update k.dsrc f (some (some n)), isEmpty := false }

end Container

structure Routeable where
  texts : Heap TextPtr Str
  messages : Heap Nat Struct
  metadata : Heap Nat Metadata
  next : Nat
  ivpMsg : Option Nat
  container : Container
  /-- `_str` of the allocators. -/
  str : TextField → Option TextPtr
  /-- The metadata that the DSRC attributes are bound to; else they have cells of their own. -/
  dsrcBound : Option Nat
  internal : DsrcField → Option Int
  /-- The object whose memory the pointers lead to. -/
  home : Nat
  header : Headers
  payload : Option CJson

namespace Routeable

def fault (r : Routeable) : Bool := r.texts.fault || r.messages.fault || r.metadata.fault

/-- Before the body of a constructor. -/
def fresh (home : Nat) (container : Container) : Routeable where
  texts := .empty
  messages := .empty
  metadata := .empty
  next := 0
  ivpMsg := none
  container := container
  str _ := none
  dsrcBound := none
  internal _ := none
  home := home
  header := ⟨TextField.default_value, fun _ => 0, noMetadata⟩
  payload := none

def struct (r : Routeable) : Option (Nat × Struct) :=
  r.ivpMsg.bind fun p => (r.messages.cell p).map fun c => (p, c)

/-- A structure is used that is not there. -/
def stray (r : Routeable) : Routeable := { r with messages := { r.messages with fault := true } }

/-! ### The structure -/

def ivpMsg_copy (r : Routeable) (c : Contents) : Routeable := { r with
  texts := { r.texts with cell := fun q => if q.1 = r.next then c.text q.2 else r.texts.cell q }
  metadata := match c.dsrcMetadata with
    | some d => r.metadata.set r.next d
    | none => r.metadata
  messages := r.messages.set r.next
    ⟨fun f => (c.text f).map fun _ => (r.next, f), c.number, c.dsrcMetadata.map fun _ => r.next, c.payload⟩
  ivpMsg := some r.next
  next := r.next + 1 }

def ivpMsg_destroy (r : Routeable) : Routeable :=
  match r.ivpMsg with
  | none => r
  | some p =>
    match r.messages.cell p with
    | none => { r with messages := r.messages.free p }
    | some c => { r with
        texts := r.texts.freeAll (TextField.all.filterMap c.text)
        metadata := match c.dsrcMetadata with
          | some b => r.metadata.free b
          | none => r.metadata
        messages := r.messages.free p }

/-- `get_message`; none if something is read that is not there. -/
def get_message (r : Routeable) : Option Contents :=
  r.struct.bind fun (_, c) =>
    if (∀ f ∈ TextField.all, ∀ q ∈ c.text f, r.texts.Live q) ∧ ∀ b ∈ c.dsrcMetadata, r.metadata.Live b then
      some ⟨fun f => (c.text f).bind r.texts.cell, c.number, c.dsrcMetadata.bind r.metadata.cell, c.payload⟩
    else none

/-! ### The attributes -/

/-- `set` of a text: the allocator frees its last text, and remembers the new one. -/
def assignText (r : Routeable) (f : TextField) (data : Str) : Routeable :=
  match r.struct with
  | none => r.stray
  | some (p, c) => { r with
      texts := ((r.str f).elim r.texts r.texts.free).set (r.next, f) (c_str data)
      str := Function.update r.str f (some (r.next, f))
      messages := r.messages.set p { c with text := Function.update c.text f (some (r.next, f)) }
      next := r.next + 1
      container := r.container.putText f (c_str data) }

def assignNumber (r : Routeable) (f : NumberField) (n : Int) : Routeable :=
  match r.struct with
  | none => r.stray
  | some (p, c) => { r with
      messages := r.messages.set p { c with number := Function.update c.number f n }
      container := r.container.putNumber f n }

def assignDsrc (r : Routeable) (f : DsrcField) (n : Int) : Routeable :=
  match r.dsrcBound with
  | some b =>
    match r.metadata.cell b with
    | some d => { r with metadata := r.metadata.set b (Function.update d f n), container := r.container.putDsrc f n }
    | none => { r with metadata := r.metadata.touch b }
  | none => { r with internal := Function.update r.internal f (some n), container := r.container.putDsrc f n }

/-- `get`, which is none if it throws or reads what is not there. -/
def getText (r : Routeable) (f : TextField) : Option Str × Routeable :=
  match r.struct with
  | none => (none, r.stray)
  | some (_, c) =>
    match c.text f with
    | some q =>
      match r.texts.cell q with
      | some v => (some v, { r with container := r.container.putText f v })
      | none => (none, { r with texts := r.texts.touch q })
    | none =>
      let data := (r.container.text f).getD f.default_value
      (some (c_str data), r.assignText f data)

def getNumber (r : Routeable) (f : NumberField) : Option Int × Routeable :=
  match r.struct with
  | none => (none, r.stray)
  | some (_, c) =>
    if c.number f ≠ 0 then (some (c.number f), { r with container := r.container.putNumber f (c.number f) })
    else
      match (r.container.number f).getD (some 0) with
      | some n => (some n, r.assignNumber f n)
      | none => (none, r)

/-- The value of an attribute that is not blank. -/
def getDsrcOf (r : Routeable) (f : DsrcField) (v : Option Int) : Option Int × Routeable :=
  match v.filter (· ≠ 0) with
  | some n => (some n, { r with container := r.container.putDsrc f n })
  | none =>
    match (r.container.dsrc f).getD (some (-1)) with
    | some n => (some n, r.assignDsrc f n)
    | none => (none, r)

def getDsrc (r : Routeable) (f : DsrcField) : Option Int × Routeable :=
  match r.dsrcBound with
  | some b =>
    match r.metadata.cell b with
    | some d => r.getDsrcOf f (some (d f))
    | none => (none, { r with metadata := r.metadata.touch b })
  | none => r.getDsrcOf f (r.internal f)

/-! ### Contents -/

/-- `init_attributes`, and whether none of the gets threw. -/
def init_attributes (r : Routeable) : Bool × Routeable :=
  let r := (((r.getText .type).2.getText .subtype).2.getText .encoding).2
  match r.getNumber .timestamp with
  | (none, r) => (false, r)
  | (some _, r) =>
    match r.getNumber .flags with
    | (none, r) => (false, r)
    | (some _, r) => (true, r)

/-- The copy of the structure and the attributes bound to it. -/
def replace (r : Routeable) (c : Contents) : Routeable :=
  let r := r.ivpMsg_destroy.ivpMsg_copy c
  let r := match c.dsrcMetadata with
    | some _ => { r with dsrcBound := r.ivpMsg, internal := fun _ => none }
    | none => r
  { r with header := c.header, payload := c.payload }

/-- `set_contents` of a structure -/
def set_contents (r : Routeable) (c : Contents) : Bool × Routeable := (r.replace c).init_attributes

def setText (r : Routeable) (f : TextField) (data : Str) : Routeable :=
  { r.assignText f data with header := { r.header with text := Function.update r.header.text f data } }

def setNumber (r : Routeable) (f : NumberField) (n : Int) : Routeable :=
  { r.assignNumber f n with header := { r.header with number := Function.update r.header.number f n } }

def setDsrc (r : Routeable) (f : DsrcField) (n : Int) : Routeable :=
  { r.assignDsrc f n with header := { r.header with dsrc := Function.update r.header.dsrc f n } }

/-- The forms of `set_payload`: the encoding, then the payload. -/
def set_payload (r : Routeable) (encoding : Str) (payload : Option CJson) : Routeable :=
  let r := r.setText .encoding encoding
  match r.struct with
  | none => r.stray
  | some (p, c) => { r with messages := r.messages.set p { c with payload := payload }, payload := payload }

def addDsrcMetadata (r : Routeable) (d : Metadata) : Routeable :=
  match r.struct with
  | none => r.stray
  | some (p, c) =>
    let b := c.dsrcMetadata.getD r.next
    { r with
      metadata := r.metadata.set b d
      messages := r.messages.set p { c with dsrcMetadata := some b }
      next := r.next + 1
      dsrcBound := some b
      internal := fun _ => none
      header := { r.header with dsrc := d } }

end Routeable

structure State where
  objects : Nat → Option Routeable
  /-- A destroyed object had a fault. -/
  fault : Bool
  /-- Two objects share their pointers; the run is followed no further. -/
  shared : Bool

inductive Event where
  | construct (i : Nat) (msg : Option IvpMessage) (now : Nat)
  | constructText (i : Nat) (text : Str) (now : Nat)
  | copy (i j : Nat)
  | assign (i j : Nat)
  | set_contents (i : Nat) (msg : Option IvpMessage) (now : Nat)
  /-- With the structure of an object. -/
  | set_contentsOf (i j : Nat)
  /-- The container alone is loaded. -/
  | set_text (i : Nat) (text : Str)
  /-- With what `to_string` gives. -/
  | reinit (i : Nat) (text : Str) (now : Nat)
  | getText (i : Nat) (f : TextField)
  | getNumber (i : Nat) (f : NumberField)
  | getDsrc (i : Nat) (f : DsrcField)
  | setText (i : Nat) (f : TextField) (data : Str)
  | setNumber (i : Nat) (f : NumberField) (n : Int)
  | setDsrc (i : Nat) (f : DsrcField) (n : Int)
  | set_payload (i : Nat) (encoding : Str) (payload : Option CJson)
  | addDsrcMetadata (i : Nat) (d : Metadata)
  | destroy (i : Nat)

/-- The parsers of a text, for the container and for the structure. -/
structure Parsers where
  load : Str → Option Container
  libc : Libc

/-- `ivpMsg_create` where there is no message. -/
def contentsOr (now : Nat) (msg : Option IvpMessage) : Contents :=
  contents (msg.getD (IvpMessage.create now none none none 0 none))

namespace State

def init : State := ⟨fun _ => none, false, false⟩

def store (s : State) (i : Nat) (r : Routeable) : State := { s with objects := Function.update s.objects i (some r) }

/-- A constructor that throws leaves no object. -/
def built (s : State) (i : Nat) : Bool × Routeable → State
  | (true, r) => s.store i r
  | (false, r) => { s with fault := s.fault || r.fault }

def on (s : State) (i : Nat) (f : Routeable → Routeable) : Option State := (s.objects i).map fun r => s.store i (f r)

end State

/-- The container that `reinit` leaves. -/
def reloaded (p : Parsers) (r : Routeable) (text : Str) : Option Container :=
  if r.container.isEmpty then p.load text else some r.container

def step (p : Parsers) (s : State) (e : Event) : Option State :=
  if s.shared then none
  else
    match e with
    | .construct i msg now =>
      if s.objects i = none then some (s.built i ((Routeable.fresh i .empty).set_contents (contentsOr now msg))) else none
    | .constructText i text now =>
      if s.objects i = none then
        match p.load text with
        -- An empty container has `ivpMsg_createJsonString` assert on a null pointer.
        | some k =>
          if k.isEmpty then none
          else some (s.built i ((Routeable.fresh i k).set_contents (contentsOr now (IvpMessage.parse p.libc text))))
        | none => some s
      else none
    | .copy i j =>
      if s.objects i = none then
        (s.objects j).map fun r =>
          match r.get_message with
          | none => { s with fault := true }
          | some c =>
            match (Routeable.fresh i r.container).set_contents c with
            | (true, r) => s.built i (r.set_contents c)
            | (false, r) => s.built i (false, r)
      else none
    | .assign i j =>
      (s.objects i).bind fun _ => (s.objects j).map fun r => if i = j then s else { s.store i r with shared := true }
    | .set_contents i msg now => s.on i fun r => (r.set_contents (contentsOr now msg)).2
    | .set_contentsOf i j =>
      (s.objects i).bind fun r => (s.objects j).map fun r' =>
        -- The old structure goes first.
        match (if i = j then r.ivpMsg_destroy else r').get_message with
        | some c => s.store i (r.set_contents c).2
        | none => { s with fault := true }
    | .set_text i text => s.on i fun r => { r with container := (p.load text).getD r.container }
    | .reinit i text now => s.on i fun r =>
      match reloaded p r text with
      | some k => ({ r with container := k }.set_contents (contentsOr now (IvpMessage.parse p.libc text))).2
      | none => r
    | .getText i f => s.on i fun r => (r.getText f).2
    | .getNumber i f => s.on i fun r => (r.getNumber f).2
    | .getDsrc i f => s.on i fun r => (r.getDsrc f).2
    | .setText i f data => s.on i fun r => r.setText f data
    | .setNumber i f n => s.on i fun r => r.setNumber f n
    | .setDsrc i f n => s.on i fun r => r.setDsrc f n
    | .set_payload i encoding payload => s.on i fun r => r.set_payload encoding payload
    | .addDsrcMetadata i d => s.on i fun r => r.addDsrcMetadata d
    | .destroy i => (s.objects i).map fun r =>
      { s with objects := Function.update s.objects i none, fault := s.fault || r.ivpMsg_destroy.fault }

def machine (p : Parsers) : Machine State Event := ⟨State.init, step p⟩

end V2xHub.RouteableMessage
