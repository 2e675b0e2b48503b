import V2xHub.Lib.CString

/-!
# The message framer

`MsgFramer.c`: one buffer, filled by `recv` at `bufpos` and emptied in place by
`msgFramer_getNextMsg`. The buffer size is a parameter `n`, `MSG_FRAMER_MAX_BUF_SIZE` in the code. An
access outside the buffer and a failed assertion have no result (`none`).
-/

namespace V2xHub

def MSG_FRAMER_MAX_BUF_SIZE : Nat := 20000

structure MsgFramer (n : Nat) where
  buf : List UInt8
  bufpos : Int
  readpos : Int
  size : buf.length = n + 1

namespace MsgFramer
variable {n : Nat}

/-- `MSG_FRAMER_INITIALIZER`: the members that it does not name are zero too. -/
def MSG_FRAMER_INITIALIZER (n : Nat) : MsgFramer n :=
  ⟨List.replicate (n + 1) 0, 0, 0, List.length_replicate⟩

def load (f : MsgFramer n) (i : Int) : Option UInt8 :=
  if 0 ≤ i then f.buf[i.toNat]? else none

def store (f : MsgFramer n) (i : Int) (c : UInt8) : Option (MsgFramer n) :=
  if 0 ≤ i ∧ i ≤ n then
    some { f with buf := f.buf.set i.toNat c, size := by rw [List.length_set, f.size] }
  else none

/-- The offset of the pointer that `msgFramer_getBuf` returns. -/
def getBuf (f : MsgFramer n) : Int := f.bufpos

def getBufLength (f : MsgFramer n) : Int := n - f.bufpos

def incrementBufPos (f : MsgFramer n) (incLength : Int) : Option (MsgFramer n) :=
  let f := { f with bufpos := f.bufpos + incLength }
  if ¬ f.bufpos ≤ (n : Int) then none
  else if f.bufpos > (n : Int) then some { f with bufpos := 0, readpos := 0 }
  else f.store f.bufpos 0

/-- `for (; i < ...; i++) buf[i] = buf[i + shift]`, with `k` rounds left. -/
def shiftLoop (shift : Int) : Nat → Int → MsgFramer n → Option (MsgFramer n)
  | 0, _, f => some f
  | k + 1, i, f => do
    let c ← f.load (i + shift)
    let f ← f.store i c
    shiftLoop shift k (i + 1) f

/-- Move the bytes from `shift` up to the terminator to the start of the buffer. -/
def shiftDown (f : MsgFramer n) (shift : Int) : Option (MsgFramer n) := do
  let f ← f.shiftLoop shift (f.bufpos + 1 - shift).toNat 0
  some { f with bufpos := f.bufpos - shift }

/-- Drop the message that the last call returned. -/
def consume (f : MsgFramer n) : Option (MsgFramer n) :=
  if f.readpos ≠ 0 then do
    let f ← f.shiftDown f.readpos
    some { f with readpos := 0 }
  else some f

/-- Move the start of the message to the start of the buffer. -/
def align (f : MsgFramer n) (msgStart : Nat) : Option (MsgFramer n) :=
  if msgStart ≠ 0 then f.shiftDown msgStart else some f

/-- Look for the end of the message at the start of the buffer. -/
def findEnd (f : MsgFramer n) : Option (Option Int × MsgFramer n) := do
  match ← CString.strchr 0x03 f.buf with
  | some msgEnd =>
    let f ← f.store msgEnd 0
    some (some 1, { f with readpos := msgEnd + 1 })
  | none => some (none, f)

/-- The results of `msgFramer_getNextMsg` before it checks for a full buffer. -/
def findMsg (f : MsgFramer n) : Option (Option Int × MsgFramer n) := do
  match ← CString.strchr 0x02 f.buf with
  | none => some (none, { f with bufpos := 0 })
  | some msgStart =>
    let f ← f.align msgStart
    f.findEnd

/-- The offset of the message in the buffer, `none` for `NULL`. -/
def getNextMsg (f : MsgFramer n) : Option (Option Int × MsgFramer n) := do
  let f ← f.consume
  let (results, f) ← f.findMsg
  if f.bufpos = n ∧ results = none then
    some (results, { f with bufpos := 0, readpos := 0 })
  else some (results, f)

/-- `msgFramer_createFramedMsg`, the memory of `msg` being its bytes and a terminator. -/
def createFramedMsg (msg : List UInt8) (msgLength : Nat) : Option (List UInt8) := do
  if (← CString.strchr 0x02 (msg ++ [0])) ≠ none then none
  else if (← CString.strchr 0x03 (msg ++ [0])) ≠ none then none
  else some (0x02 :: msg.take msgLength ++ [0x03])

/-! ### The receive loop

`PluginConnection::receiverThread` and `ivp_receive`: each received chunk is written at
`msgFramer_getBuf`, then the messages are taken out until `msgFramer_getNextMsg` returns `NULL`. -/

/-- `recv` writes the bytes of `chunk` from the offset `i` on. -/
def recv : List UInt8 → Int → MsgFramer n → Option (MsgFramer n)
  | [], _, f => some f
  | c :: chunk, i, f => do
    let f ← f.store i c
    recv chunk (i + 1) f

/-- Take out messages until there is none; at most `fuel` calls. -/
def drain : Nat → MsgFramer n → Option (List (List UInt8) × MsgFramer n)
  | 0, _ => none
  | fuel + 1, f => do
    match ← f.getNextMsg with
    | (none, f) => some ([], f)
    | (some results, f) =>
      let rawMessage ← CString.read (f.buf.drop results.toNat)
      let (msgs, f) ← drain fuel f
      some (rawMessage :: msgs, f)

def receive (fuel : Nat) (f : MsgFramer n) (chunk : List UInt8) :
    Option (List (List UInt8) × MsgFramer n) := do
  let f ← f.recv chunk f.getBuf
  let f ← f.incrementBufPos chunk.length
  f.drain fuel

def receiveAll (fuel : Nat) : MsgFramer n → List (List UInt8) → Option (List (List UInt8) × MsgFramer n)
  | f, [] => some ([], f)
  | f, chunk :: chunks => do
    let (msgs, f) ← f.receive fuel chunk
    let (msgs', f) ← receiveAll fuel f chunks
    some (msgs ++ msgs', f)

/-- Every chunk has the length that `recv` can return: at least one byte, at most
`msgFramer_getBufLength`. -/
def Respects (fuel : Nat) : MsgFramer n → List (List UInt8) → Prop
  | _, [] => True
  | f, chunk :: chunks => 1 ≤ chunk.length ∧ chunk.length ≤ f.getBufLength ∧
    ∀ msgs f', f.receive fuel chunk = some (msgs, f') → f'.Respects fuel chunks

end MsgFramer
end V2xHub
