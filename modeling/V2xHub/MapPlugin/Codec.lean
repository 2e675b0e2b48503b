import V2xHub.Lib.FilledArray
import V2xHub.MapPlugin.Map
import Mathlib.Tactic.Ring

/-!
# The GID codec of maps (`map.cpp`, `common.cpp`)

`map_encode` writes a map as objects, each with its id and, mostly, its length. `map_decode` walks over the objects and keeps where it
is: the last geometry, the group or the barrier that is open, and the last lane, which stays when a barrier opens. What the two do not
look at is not among the members. Bytes are numbers below 256, and the members have the numbers of their types (`InRange`). A map
that has what the two keep (`MapKept`) comes back if its objects have room in the blob (`Map.size`).
-/

namespace V2xHub.MapPlugin.Codec

open FilledArray

instance : NeZero map_maxgeometries := ⟨by decide⟩

instance : NeZero map_maxbarriers := ⟨by decide⟩

instance : NeZero map_maxnodes := ⟨by decide⟩

instance : NeZero map_maxlanes := ⟨by decide⟩

instance : NeZero map_maxconnections := ⟨by decide⟩

/-! The types of lanes that the codec tells apart, as numbers. -/

def vehicle : Nat := MapPlugin.vehicle.toNat

def computed : Nat := MapPlugin.computed.toNat

def pedestrian : Nat := MapPlugin.pedestrian.toNat

structure Node where
  eastern : Int := 0
  northern : Int := 0
  elevation : Int := 0
  width : Int := 0

structure ReferenceLane where
  lanenumber : Nat := 0
  lateraloffset : Int := 0

structure Connection where
  lanenumber : Nat := 0
  maneuver : Nat := 0
  connectionID : Nat := 0

/-- The defaults are what `map_clear` leaves. -/
structure Lane where
  number : Nat := 0
  type : Nat := vehicle
  attributes : Nat := 0
  width : Nat := 0
  node : Fin map_maxnodes → Node := fun _ => {}
  referencelane : ReferenceLane := {}
  connection : Fin map_maxconnections → Connection := fun _ => {}

structure Group where
  width : Nat := 0
  lane : Fin map_maxlanes → Lane := fun _ => {}

structure Barrier where
  attributes : Nat := 0
  width : Nat := 0
  node : Fin map_maxnodes → Node := fun _ => {}

structure ReferencePoint where
  latitude : Int := 0
  longitude : Int := 0
  elevation : Int := 0

structure Geometry where
  refpoint : ReferencePoint := {}
  approach : Group := {}
  egress : Group := {}
  barrier : Fin map_maxbarriers → Barrier := fun _ => {}

structure Map where
  intersectionid : Nat := 0
  attributes : Nat := 0
  geometry : Fin map_maxgeometries → Geometry := fun _ => {}

/-! ### Encoding -/

/-- `(v & (0xff00 >> (8*j))) >> (8*(1-j))` for both `j`, of an `int`. -/
def bytes16 (v : Int) : List Nat := [(v / 2 ^ 8 % 2 ^ 8).toNat, (v % 2 ^ 8).toNat]

/-- `(unsigned char) (v >> (8 * (3-j)))` for all `j`. -/
def bytes32 (v : Int) : List Nat :=
  [(v / 2 ^ 24 % 2 ^ 8).toNat, (v / 2 ^ 16 % 2 ^ 8).toNat, (v / 2 ^ 8 % 2 ^ 8).toNat, (v % 2 ^ 8).toNat]

def hasFlag (attributes flag : Nat) : Bool := attributes &&& flag ≠ 0

def elevation : Nat := 1

/-- Two coordinates, and what the flags ask for. -/
def Node.elements (elev width : Bool) (n : Node) : List Int :=
  [n.eastern, n.northern] ++ (if elev then [n.elevation] else []) ++ if width then [n.width] else []

def hasWidth (node : Fin map_maxnodes → Node) : Bool := (List.finRange map_maxnodes).any fun n => (node n).width ≠ 0

def nodelist (elev : Bool) (node : Fin map_maxnodes → Node) : List Int :=
  ((List.finRange map_maxnodes).filter fun n => (node n).northern ≠ 0 ∧ (node n).eastern ≠ 0).flatMap fun n =>
    (node n).elements elev (hasWidth node)

def isPacked (l : List Int) : Bool := l.all fun x => ¬ (x > 2047 ∨ x < -2048)

def limit (x : Int) : Int := if (if x > 32767 then 32767 else x) < -32768 then -32768 else if x > 32767 then 32767 else x

/-- Twelve bits each, behind the lower four bits of an element that is begun. -/
def packFrom : Option Int → List Int → List Nat
  | none, [] => []
  | none, x :: l => (x / 2 ^ 4 % 2 ^ 8).toNat :: packFrom (some x) l
  | some x, [] => [(x % 2 ^ 4 * 2 ^ 4).toNat]
  | some x, y :: l => (x % 2 ^ 4 * 2 ^ 4 + y / 2 ^ 8 % 2 ^ 4).toNat :: (y % 2 ^ 8).toNat :: packFrom none l

def elementBytes (packed : Bool) (l : List Int) : List Nat := if packed then packFrom none l else l.flatMap bytes16

def encode_nodelist (elev : Bool) (node : Fin map_maxnodes → Node) : List Nat :=
  let l := nodelist elev node
  ((if hasWidth node then 1 else 0) + if isPacked l then 2 else 0) :: elementBytes (isPacked l) (l.map limit)

/-- An object with its id and its length. -/
def object (id : Nat) (bytes : List Nat) : List Nat := id :: bytes.length % 2 ^ 8 :: bytes

def widthObject (width : Nat) : List Nat := if width ≠ 0 then object 8 (bytes16 width) else []

/-- The length that is written is 2. -/
def connectionObject (c : Connection) : List Nat :=
  if c.lanenumber ≠ 0 then [10, 2, c.lanenumber, c.maneuver % 2 ^ 8, c.connectionID] else []

def laneObjects (elev : Bool) (l : Lane) : List Nat :=
  object 5 [l.number, l.type] ++ object 6 (bytes16 l.attributes) ++ widthObject l.width ++
    (if l.referencelane.lanenumber ≠ 0 then object 11 (l.referencelane.lanenumber :: bytes16 l.referencelane.lateraloffset)
      else object 9 (encode_nodelist elev l.node)) ++
    (List.finRange map_maxconnections).flatMap fun c => connectionObject (l.connection c)

def groupObjects (elev : Bool) (d : Nat) (pg : Group) : List Nat :=
  if (pg.lane 0).number ≠ 0 then
    object 4 [d] ++ widthObject pg.width ++
      (List.finRange map_maxlanes).flatMap fun l => if (pg.lane l).number ≠ 0 then laneObjects elev (pg.lane l) else []
  else []

def barrierObjects (elev : Bool) (pb : Barrier) : List Nat :=
  if (pb.node 0).northern ≠ 0 ∧ (pb.node 0).eastern ≠ 0 then
    object 4 [3] ++ object 7 (bytes16 pb.attributes) ++ widthObject pb.width ++ object 9 (encode_nodelist elev pb.node)
  else []

def refpointObject (elev : Bool) (r : ReferencePoint) : List Nat :=
  object 3 (bytes32 r.latitude ++ bytes32 r.longitude ++ if elev then bytes16 r.elevation else [])

def geometryObjects (elev : Bool) (geometry : Geometry) : List Nat :=
  if geometry.refpoint.latitude ≠ 0 then
    refpointObject elev geometry.refpoint ++ groupObjects elev 1 geometry.approach ++ groupObjects elev 2 geometry.egress ++
      (List.finRange map_maxbarriers).flatMap fun b => barrierObjects elev (geometry.barrier b)
  else []

def attributesValue (attributes : Nat) : Nat :=
  (if hasFlag attributes 1 then 0x01 else 0) ||| (if hasFlag attributes 2 then 0x02 else 0) |||
    (if hasFlag attributes 4 then 0x04 else 0) ||| if hasFlag attributes 8 then 0x08 else 0

/-- The cast is of the masked number, before it is shifted. -/
def intersectionidBytes (id : Nat) : List Nat :=
  [0, 1, 2, 3].map fun j => ((id &&& (0xff000000 >>> (8 * j))) % 2 ^ 8) >>> (8 * (3 - j))

def mapObjects (m : Map) : List Nat :=
  object 1 [attributesValue m.attributes] ++ object 2 (intersectionidBytes m.intersectionid) ++
    (List.finRange map_maxgeometries).flatMap fun g => geometryObjects (hasFlag m.attributes elevation) (m.geometry g)

def crc_table (i : Nat) : Nat :=
  ((List.range 8).foldl (fun (crc, c) _ =>
    (if (crc ^^^ c) &&& 0x8000 ≠ 0 then (crc <<< 1 % 2 ^ 16) ^^^ 0x1021 else crc <<< 1 % 2 ^ 16, c <<< 1 % 2 ^ 16)) (0, i <<< 8)).1

def crc_update (crc c : Nat) : Nat := (crc <<< 8 % 2 ^ 16) ^^^ crc_table ((crc >>> 8) ^^^ c)

def crc_ccitt (bytes : List Nat) : Nat := bytes.foldl crc_update 0

/-- Behind the 1024 bytes that are allocated it is undefined. -/
def map_encode (m : Map) (content_version : Nat) : Option (List Nat) :=
  let objects := mapObjects m ++ [255]
  let message := 0x87 :: content_version :: bytes16 objects.length ++ objects
  let blob := message ++ bytes16 (crc_ccitt message)
  if blob.length ≤ 1024 then some blob else none

/-! How many bytes that is. -/

def nodelistSize (elev : Bool) (node : Fin map_maxnodes → Node) : Nat :=
  let l := nodelist elev node
  3 + if isPacked l then (3 * l.length + 1) / 2 else 2 * l.length

def widthSize (width : Nat) : Nat := if width ≠ 0 then 4 else 0

def Lane.size (elev : Bool) (l : Lane) : Nat :=
  8 + widthSize l.width + (if l.referencelane.lanenumber ≠ 0 then 5 else nodelistSize elev l.node) +
    ((List.finRange map_maxconnections).map fun c => if (l.connection c).lanenumber ≠ 0 then 5 else 0).sum

def Group.size (elev : Bool) (pg : Group) : Nat :=
  if (pg.lane 0).number ≠ 0 then
    3 + widthSize pg.width +
      ((List.finRange map_maxlanes).map fun l => if (pg.lane l).number ≠ 0 then (pg.lane l).size elev else 0).sum
  else 0

def Barrier.size (elev : Bool) (pb : Barrier) : Nat :=
  if (pb.node 0).northern ≠ 0 ∧ (pb.node 0).eastern ≠ 0 then 7 + widthSize pb.width + nodelistSize elev pb.node else 0

def Geometry.size (elev : Bool) (geometry : Geometry) : Nat :=
  if geometry.refpoint.latitude ≠ 0 then
    (if elev then 12 else 10) + geometry.approach.size elev + geometry.egress.size elev +
      ((List.finRange map_maxbarriers).map fun b => (geometry.barrier b).size elev).sum
  else 0

/-- With the header of four bytes, the attributes, the intersection ID, the end mark and the CRC. -/
def Map.size (m : Map) : Nat :=
  16 + ((List.finRange map_maxgeometries).map fun g => (m.geometry g).size (hasFlag m.attributes elevation)).sum

/-! ### Decoding -/

def signedChar (b : Nat) : Int := if b < 128 then b else b - 256

/-- `((signed char)b0 * 0x100) | b1`, whose parts do not overlap. -/
def read16 (b0 b1 : Nat) : Int := signedChar b0 * 0x100 + b1

def read32 (b0 b1 b2 b3 : Nat) : Int := signedChar b0 * 0x1000000 + b1 * 2 ^ 16 + b2 * 2 ^ 8 + b3

/-- A member that bytes are added to. -/
def add16 (v b0 b1 : Nat) : Nat := v ||| b0 <<< 8 ||| b1

structure NodeFormat where
  elev : Bool
  width : Bool
  packed : Bool

/-- An element, and whether the next one begins within a byte. -/
def readElement (packed half : Bool) : List Nat → Option (Int × Bool × List Nat)
  | b0 :: b1 :: rest =>
    if packed then
      if half then some (signedChar (b0 % 2 ^ 4 * 2 ^ 4) * 0x10 + b1, false, rest)
      else some (signedChar b0 * 0x10 + b1 / 2 ^ 4, true, b1 :: rest)
    else some (read16 b0 b1, false, rest)
  | _ => none

/-- An element that is there, or what was before. -/
def readOptional (present packed half : Bool) (old : Int) (rest : List Nat) : Option (Int × Bool × List Nat) :=
  if present then readElement packed half rest else some (old, half, rest)

def readNode (f : NodeFormat) (half : Bool) (old : Node) (rest : List Nat) : Option (Node × Bool × List Nat) :=
  (readElement f.packed half rest).bind fun (eastern, half, rest) =>
    (readElement f.packed half rest).bind fun (northern, half, rest) =>
      (readOptional f.elev f.packed half old.elevation rest).bind fun (elevation, half, rest) =>
        (readOptional f.width f.packed half old.width rest).map fun (width, half, rest) =>
          (⟨eastern, northern, elevation, width⟩, half, rest)

/-- The loop over the nodes of a list, as long as there are more than `stop` bytes with those of `length`. Behind the last node of the
array it is undefined. -/
def readNodes (f : NodeFormat) (length stop : Nat) :
    List (Fin map_maxnodes) → Bool → (Fin map_maxnodes → Node) → List Nat → Option ((Fin map_maxnodes → Node) × List Nat)
  | [], _, _, _ => none
  | n :: slots, half, node, rest =>
    (readNode f half (node n) rest).bind fun (x, half, rest) =>
      let node := Function.update node n x
      if rest.length + length > stop then readNodes f length stop slots half node rest else some (node, rest)

/-- The order in which `i + pblob[i++]` reads `i` is left to the compiler. -/
def decode_nodelist (late elev : Bool) (node : Fin map_maxnodes → Node) : List Nat → Option ((Fin map_maxnodes → Node) × List Nat)
  | length :: node_attributes :: rest =>
    readNodes ⟨elev, hasFlag node_attributes 1, hasFlag node_attributes 2⟩ length (rest.length + if late then 1 else 2)
      (List.finRange map_maxnodes) false node rest
  | _ => none

inductive Direction
  | approach
  | egress
  deriving DecidableEq

def Geometry.group (geometry : Geometry) : Direction → Group
  | .approach => geometry.approach
  | .egress => geometry.egress

def Geometry.setGroup (geometry : Geometry) (group : Group) : Direction → Geometry
  | .approach => { geometry with approach := group }
  | .egress => { geometry with egress := group }

/-- Pointers into the map. -/
abbrev GroupAt : Type := Fin map_maxgeometries × Direction

abbrev LaneAt : Type := GroupAt × Fin map_maxlanes

abbrev BarrierAt : Type := Fin map_maxgeometries × Fin map_maxbarriers

namespace Map

variable (m : Map)

def setGeometry (g : Fin map_maxgeometries) (geometry : Geometry) : Map :=
  { m with geometry := Function.update m.geometry g geometry }

def group (p : GroupAt) : Group := (m.geometry p.1).group p.2

def setGroup (p : GroupAt) (group : Group) : Map := m.setGeometry p.1 ((m.geometry p.1).setGroup group p.2)

def lane (p : LaneAt) : Lane := (m.group p.1).lane p.2

def setLane (p : LaneAt) (lane : Lane) : Map :=
  m.setGroup p.1 { m.group p.1 with lane := Function.update (m.group p.1).lane p.2 lane }

def barrier (p : BarrierAt) : Barrier := (m.geometry p.1).barrier p.2

def setBarrier (p : BarrierAt) (barrier : Barrier) : Map :=
  m.setGeometry p.1 { m.geometry p.1 with barrier := Function.update (m.geometry p.1).barrier p.2 barrier }

end Map

structure Decoder where
  message : Map := {}
  g : Nat := 0
  b : Nat := 0
  geometry : Option (Fin map_maxgeometries) := none
  group : Option GroupAt := none
  barrier : Option BarrierAt := none
  lane : Option LaneAt := none

namespace Decoder

variable (late : Bool) (d : Decoder)

def elev : Bool := hasFlag d.message.attributes elevation

/-- `i += pblob[i++]` -/
def skip : List Nat → Option (Decoder × List Nat)
  | length :: rest => some (d, rest.drop length)
  | [] => none

def withLane (p : LaneAt) (lane : Lane) : Decoder := { d with message := d.message.setLane p lane }

def withBarrier (p : BarrierAt) (barrier : Barrier) : Decoder := { d with message := d.message.setBarrier p barrier }

def decodeAttributes : List Nat → Option (Decoder × List Nat)
  | _ :: a :: rest => some ({ d with message := { d.message with attributes := a } }, rest)
  | _ => none

/-- Of a byte whose first bit is set, `pblob[i++] << 24` is negative. -/
def decodeIntersectionid : List Nat → Option (Decoder × List Nat)
  | _ :: b0 :: b1 :: b2 :: b3 :: rest =>
    let high := if b0 < 128 then b0 <<< 24 else b0 <<< 24 + (2 ^ 64 - 2 ^ 32)
    some ({ d with message := { d.message with intersectionid := d.message.intersectionid ||| high ||| b1 <<< 16 ||| b2 <<< 8 ||| b3 } },
      rest)
  | _ => none

def decodeRefpoint : List Nat → Option (Decoder × List Nat)
  | _ :: a0 :: a1 :: a2 :: a3 :: b0 :: b1 :: b2 :: b3 :: rest =>
    if h : d.g < map_maxgeometries then
      let g : Fin map_maxgeometries := ⟨d.g, h⟩
      let geometry := d.message.geometry g
      let point (elevation : Int) : Decoder :=
        { d with
          message := d.message.setGeometry g { geometry with refpoint := ⟨read32 a0 a1 a2 a3, read32 b0 b1 b2 b3, elevation⟩ }
          g := d.g + 1
          geometry := some g }
      if d.elev then
        match rest with
        | c0 :: c1 :: rest => some (point (read16 c0 c1), rest)
        | _ => none
      else some (point geometry.refpoint.elevation, rest)
    else none
  | _ => none

/-- A pointer that is null is not dereferenced here but by the object that uses it, so it may as well end here. -/
def decodeFlag : List Nat → Option (Decoder × List Nat)
  | _ :: flag :: rest =>
    if flag = 1 then d.geometry.map fun g => ({ d with group := some (g, .approach), barrier := none }, rest)
    else if flag = 2 then d.geometry.map fun g => ({ d with group := some (g, .egress), barrier := none }, rest)
    else if flag = 3 then
      if h : d.b < map_maxbarriers then
        d.geometry.map fun g => ({ d with barrier := some (g, ⟨d.b, h⟩), b := d.b + 1, group := none }, rest)
      else none
    else some (d, rest)
  | _ => none

def decodeLane (bytes : List Nat) : Option (Decoder × List Nat) :=
  match d.group with
  | none => some ({ d with lane := none }, bytes)
  | some p =>
    match (List.finRange map_maxlanes).find? fun l => ((d.message.group p).lane l).number = 0 with
    | none => { d with lane := none }.skip bytes
    | some l =>
      match bytes with
      | _ :: number :: type :: rest =>
        some ({ d with lane := some (p, l) }.withLane (p, l) { (d.message.group p).lane l with number, type }, rest)
      | _ => none

def decodeLaneAttributes (bytes : List Nat) : Option (Decoder × List Nat) :=
  match d.lane with
  | none => d.skip bytes
  | some p =>
    match bytes with
    | _ :: b0 :: b1 :: rest =>
      some (d.withLane p { d.message.lane p with attributes := add16 (d.message.lane p).attributes b0 b1 }, rest)
    | _ => none

def decodeBarrierAttributes (bytes : List Nat) : Option (Decoder × List Nat) :=
  match d.barrier with
  | none => d.skip bytes
  | some p =>
    match bytes with
    | _ :: b0 :: b1 :: rest =>
      some (d.withBarrier p { d.message.barrier p with attributes := add16 (d.message.barrier p).attributes b0 b1 }, rest)
    | _ => none

def decodeWidth (bytes : List Nat) : Option (Decoder × List Nat) :=
  match d.lane, d.barrier with
  | some p, _ =>
    match bytes with
    | _ :: b0 :: b1 :: rest => some (d.withLane p { d.message.lane p with width := add16 (d.message.lane p).width b0 b1 }, rest)
    | _ => none
  | none, some p =>
    match bytes with
    | _ :: b0 :: b1 :: rest =>
      some (d.withBarrier p { d.message.barrier p with width := add16 (d.message.barrier p).width b0 b1 }, rest)
    | _ => none
  | none, none => d.skip bytes

def decodeNodes (bytes : List Nat) : Option (Decoder × List Nat) :=
  match d.lane, d.barrier with
  | some p, _ =>
    if (d.message.lane p).type ≠ computed then
      (decode_nodelist late d.elev (d.message.lane p).node bytes).map fun (node, rest) =>
        (d.withLane p { d.message.lane p with node }, rest)
    else d.skip bytes
  | none, some p =>
    (decode_nodelist late d.elev (d.message.barrier p).node bytes).map fun (node, rest) =>
      (d.withBarrier p { d.message.barrier p with node }, rest)
  | none, none => d.skip bytes

def decodeConnection (bytes : List Nat) : Option (Decoder × List Nat) :=
  match d.lane with
  | none => d.skip bytes
  | some p =>
    let lane := d.message.lane p
    if lane.type ≠ pedestrian then
      match (List.finRange map_maxconnections).find? fun c => (lane.connection c).lanenumber = 0 with
      | none => d.skip bytes
      | some c =>
        match bytes with
        | _ :: lanenumber :: maneuver :: connectionID :: rest =>
          some (d.withLane p { lane with connection := Function.update lane.connection c ⟨lanenumber, maneuver, connectionID⟩ }, rest)
        | _ => none
    else d.skip bytes

def decodeReferenceLane (bytes : List Nat) : Option (Decoder × List Nat) :=
  match d.lane with
  | none => d.skip bytes
  | some p =>
    if (d.message.lane p).type = computed then
      match bytes with
      | _ :: lanenumber :: b0 :: b1 :: rest =>
        some (d.withLane p { d.message.lane p with referencelane := ⟨lanenumber, read16 b0 b1⟩ }, rest)
      | _ => none
    else d.skip bytes

/-- One object behind its id. -/
def step (id : Nat) (bytes : List Nat) : Option (Decoder × List Nat) :=
  if id = 1 then d.decodeAttributes bytes
  else if id = 2 then d.decodeIntersectionid bytes
  else if id = 3 then d.decodeRefpoint bytes
  else if id = 4 then d.decodeFlag bytes
  else if id = 5 then d.decodeLane bytes
  else if id = 6 then d.decodeLaneAttributes bytes
  else if id = 7 then d.decodeBarrierAttributes bytes
  else if id = 8 then d.decodeWidth bytes
  else if id = 9 then d.decodeNodes late bytes
  else if id = 10 then d.decodeConnection bytes
  else if id = 11 then d.decodeReferenceLane bytes
  else some (d, bytes)

/-- The loop, up to the end mark or the last two bytes. A read behind the bytes has no result. -/
def run : Nat → Decoder → List Nat → Option Map
  | 0, _, _ => none
  | _ + 1, _, [] => none
  | fuel + 1, d, id :: bytes =>
    if id ≠ 255 ∧ bytes.length + 1 > 2 then (d.step late id bytes).bind fun (d, bytes) => run fuel d bytes
    else some d.message

end Decoder

/-- Each round reads a byte. -/
def map_decode (late : Bool) (blob : List Nat) : Option Map := Decoder.run late blob.length {} (blob.drop 4)

/-! ### Maps that come back -/

def IsShort (x : Int) : Prop := -2 ^ 15 ≤ x ∧ x < 2 ^ 15

def IsInt (x : Int) : Prop := -2 ^ 31 ≤ x ∧ x < 2 ^ 31

structure Node.InRange (n : Node) : Prop where
  eastern : IsShort n.eastern
  northern : IsShort n.northern
  elevation : IsShort n.elevation
  width : IsShort n.width

structure Lane.InRange (l : Lane) : Prop where
  number : l.number < 2 ^ 8
  type : l.type < 2 ^ 8
  attributes : l.attributes < 2 ^ 16
  width : l.width < 2 ^ 16
  node : ∀ n, (l.node n).InRange
  referencelane : l.referencelane.lanenumber < 2 ^ 8 ∧ IsShort l.referencelane.lateraloffset
  connection : ∀ c, (l.connection c).lanenumber < 2 ^ 8 ∧ (l.connection c).maneuver < 2 ^ 16 ∧ (l.connection c).connectionID < 2 ^ 8

structure Group.InRange (group : Group) : Prop where
  width : group.width < 2 ^ 16
  lane : ∀ l, (group.lane l).InRange

structure Barrier.InRange (b : Barrier) : Prop where
  attributes : b.attributes < 2 ^ 16
  width : b.width < 2 ^ 16
  node : ∀ n, (b.node n).InRange

structure Geometry.InRange (geometry : Geometry) : Prop where
  latitude : IsInt geometry.refpoint.latitude
  longitude : IsInt geometry.refpoint.longitude
  elevation : IsInt geometry.refpoint.elevation
  approach : geometry.approach.InRange
  egress : geometry.egress.InRange
  barrier : ∀ b, (geometry.barrier b).InRange

/-- The members have the numbers of their types. -/
structure Map.InRange (m : Map) : Prop where
  attributes : m.attributes < 2 ^ 8
  intersectionid : m.intersectionid < 2 ^ 64
  geometry : ∀ g, (m.geometry g).InRange

/-- There is a blob, and decoding it gives the map again. -/
def RoundTrips (late : Bool) (m : Map) : Prop :=
  ∀ content_version, ∃ blob, map_encode m content_version = some blob ∧ map_decode late blob = some m

section Kept

def Node.IsUsed (n : Node) : Prop := n.northern ≠ 0 ∧ n.eastern ≠ 0

def Barrier.IsUsed (b : Barrier) : Prop := (b.node 0).IsUsed

variable (late elev : Bool)

/-- A list of nodes that comes back: it has a node, both coordinates of each are not zero, and if the end of the list is one too far,
then it does not end within a byte. -/
structure NodesKept (node : Fin map_maxnodes → Node) : Prop where
  first : (node 0).IsUsed
  filled : FilledFrom Node.IsUsed {} node
  elevation : elev = false → ∀ n, (node n).elevation = 0
  whole : late = true → isPacked (nodelist elev node) = true → (nodelist elev node).length % 2 = 0

structure LaneKept (l : Lane) : Prop where
  reference : l.type = computed ∧ (l.referencelane.lanenumber ≠ 0 ∨ l.referencelane = {}) ∧ l.node = (fun _ => {}) ∨
    l.type ≠ computed ∧ l.referencelane = {} ∧ NodesKept late elev l.node
  connections : FilledFrom (·.lanenumber ≠ 0) {} l.connection
  pedestrian : l.type = pedestrian → l.connection = fun _ => {}
  maneuver : ∀ c, (l.connection c).maneuver < 2 ^ 8

structure GroupKept (group : Group) : Prop where
  width : group.width = 0
  filled : FilledFrom (·.number ≠ 0) {} group.lane
  lanes : ∀ l, (group.lane l).number ≠ 0 → LaneKept late elev (group.lane l)

def Geometry.NoLanes (geometry : Geometry) : Prop := (geometry.approach.lane 0).number = 0 ∧ (geometry.egress.lane 0).number = 0

structure GeometryKept (geometry : Geometry) : Prop where
  elevation : elev = false → geometry.refpoint.elevation = 0
  short : IsShort geometry.refpoint.elevation
  approach : GroupKept late elev geometry.approach
  egress : GroupKept late elev geometry.egress
  filled : FilledFrom Barrier.IsUsed {} geometry.barrier
  barriers : ∀ b, (geometry.barrier b).IsUsed → NodesKept late elev (geometry.barrier b).node

/-- A map that comes back. Barriers are only in one geometry, and no lane is before them. -/
structure MapKept (m : Map) : Prop where
  attributes : m.attributes < 2 ^ 4
  intersectionid : m.intersectionid < 2 ^ 8
  filled : FilledFrom (·.refpoint.latitude ≠ 0) {} m.geometry
  geometries : ∀ g, (m.geometry g).refpoint.latitude ≠ 0 → GeometryKept late (hasFlag m.attributes elevation) (m.geometry g)
  barriers : ∀ g, ((m.geometry g).barrier 0).IsUsed →
    (∀ g' ≤ g, (m.geometry g').NoLanes) ∧ ∀ g' < g, ¬ ((m.geometry g').barrier 0).IsUsed

end Kept

end V2xHub.MapPlugin.Codec
