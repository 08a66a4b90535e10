import LineKv.Transport.ChunkQueue
import LineKv.Fault

/-!
In-memory pipes: two ends joined by a bounded buffer in each direction, used the way a non-
blocking socket is.
-/

namespace LineKv.Transport

/-- The two ends of a pipe. -/
inductive Side where
  | fst
  | snd
  deriving DecidableEq, Repr, Inhabited

def Side.other : Side → Side
  | .fst => .snd
  | .snd => .fst

/-- A readiness signal for one end. -/
inductive Signal where
  | readable (side : Side)
  | writable (side : Side)
  deriving DecidableEq, Repr

/-- One direction of a pipe: its buffer, whether its writer has closed, and who waits on it. -/
structure Half where
  buf : Bytes
  eof : Bool
  readWant : Bool
  writeWant : Bool
  deriving Repr, Inhabited

def Half.empty : Half := ⟨[], false, false, false⟩

def defaultCapacity : Nat := 65536

/-- A pipe: the capacity of each direction, the two directions named by their writer, and which
ends listen for signals. -/
structure Pipe where
  capacity : Nat
  fromFst : Half
  fromSnd : Half
  fstListens : Bool
  sndListens : Bool
  deriving Repr, Inhabited

namespace Pipe

def create (capacity : Int) : Pipe :=
  ⟨if capacity ≤ 0 then defaultCapacity else capacity.toNat, .empty, .empty, false, false⟩

def outbound (p : Pipe) : Side → Half
  | .fst => p.fromFst
  | .snd => p.fromSnd

def inbound (p : Pipe) (s : Side) : Half := p.outbound s.other

def setOutbound (p : Pipe) (s : Side) (h : Half) : Pipe :=
  match s with
  | .fst => { p with fromFst := h }
  | .snd => { p with fromSnd := h }

def setInbound (p : Pipe) (s : Side) (h : Half) : Pipe := p.setOutbound s.other h

def listens (p : Pipe) : Side → Bool
  | .fst => p.fstListens
  | .snd => p.sndListens

def setListens (p : Pipe) (s : Side) (b : Bool) : Pipe :=
  match s with
  | .fst => { p with fstListens := b }
  | .snd => { p with sndListens := b }

end Pipe

/-- A pipe and the signals raised on it so far. -/
structure Wire where
  pipe : Pipe
  signals : List Signal
  deriving Repr, Inhabited

abbrev WireM := StateM Wire

def pipeNow : WireM Pipe := return (← get).pipe

def setPipe (p : Pipe) : WireM Unit := modify fun w => { w with pipe := p }

def raise (sig : Signal) : WireM Unit := do
  let side := match sig with
    | .readable s => s
    | .writable s => s
  if (← pipeNow).listens side then modify fun w => { w with signals := w.signals ++ [sig] }

/-- How a read went. -/
inductive ReadStatus where
  | consumed
  | wouldBlock
  | closed
  | error
  deriving DecidableEq, Repr, Inhabited

/-- How a write went. -/
inductive WriteStatus where
  | progressed
  | wouldBlock
  | closed
  | error
  deriving DecidableEq, Repr, Inhabited

def ReadStatus.name : ReadStatus → String
  | .consumed => "consumed" | .wouldBlock => "would_block" | .closed => "closed" | .error => "error"

def WriteStatus.name : WriteStatus → String
  | .progressed => "progressed" | .wouldBlock => "would_block" | .closed => "closed"
  | .error => "error"

/-- Why a connection's byte path failed. -/
inductive LinkError where
  | closed
  | peerClosed
  | sendQExceeded
  | socket
  /-- A layer chain that cannot be assembled, and why. -/
  | invalidChain (detail : String)
  | notAttached
  /-- A compressed frame announced over the limit. -/
  | frameTooLarge (size limit : Nat)
  /-- A frame that decodes to more than the limit. -/
  | decodedTooLarge (limit : Nat)
  /-- A frame that does not decode, and the decoder's reason. -/
  | corruptFrame (detail : String)
  deriving DecidableEq, Repr

/-- The failure a link error reports. -/
def LinkError.toFault : LinkError → Fault
  | .closed => .of .transportClosed (Bytes.ofString "transport: closed")
  | .peerClosed => .of .peerClosed (Bytes.ofString "transport: connection closed by peer")
  | .sendQExceeded => .of .sendQExceeded (Bytes.ofString "transport: SendQ exceeded")
  | .socket => .of .socket (Bytes.ofString "transport: socket error")
  | .invalidChain d => .of .invalidChain (Bytes.ofString ("transport: invalid middleware chain: " ++ d))
  | .notAttached => .of .notAttached (Bytes.ofString "deflate: layer not attached")
  | .frameTooLarge n m => .of .frameTooLarge (Bytes.ofString s!"deflate: frame exceeds limit: {n} > {m}")
  | .decodedTooLarge m =>
    .of .frameTooLarge (Bytes.ofString s!"deflate: frame exceeds limit: decoded size over {m}")
  | .corruptFrame d => .of .corruptFrame (Bytes.ofString ("deflate: corrupt frame: " ++ d))

def defaultMaxIovecs : Nat := 64

/-- One end of a pipe as a terminal layer: which end, whether it was closed, and how many chunks
one write takes at most (non-positive: the default). -/
structure Socket where
  side : Side
  closed : Bool
  maxIovecs : Int
  deriving Repr, Inhabited

namespace Socket

def create (side : Side) (maxIovecs : Int) : Socket := ⟨side, false, maxIovecs⟩

def iovecs (s : Socket) : Nat := if s.maxIovecs ≤ 0 then defaultMaxIovecs else s.maxIovecs.toNat

def attach (s : Socket) : WireM Unit := do setPipe ((← pipeNow).setListens s.side true)

/-- Drain everything buffered for this end. A writer that was waiting for room is signalled. -/
def read (s : Socket) : WireM (ReadStatus × Option LinkError × Bytes) := do
  if s.closed then return (.error, some .closed, [])
  let p ← pipeNow
  let inb := p.inbound s.side
  if inb.buf.isEmpty then
    if inb.eof then return (.closed, none, [])
    setPipe (p.setInbound s.side { inb with readWant := true })
    return (.wouldBlock, none, [])
  setPipe (p.setInbound s.side { inb with buf := [], writeWant := false })
  if inb.writeWant then raise (.writable s.side.other)
  return (.consumed, none, inb.buf)

def fit (chunks : List Bytes) (space : Nat) : Nat :=
  match chunks with
  | [] => 0
  | c :: rest => if space = 0 then 0 else min c.length space + fit rest (space - min c.length space)

/-- Write as much of `src` as fits. A reader waiting for data is signalled; a write that stopped at
the chunk limit with room left signals this end to write again. -/
def write (s : Socket) (src : ChunkQueue) : WireM (WriteStatus × Option LinkError × ChunkQueue) := do
  if s.closed then return (.error, some .closed, src)
  if src.len = 0 then return (.progressed, none, src)
  let p ← pipeNow
  let out := p.outbound s.side
  if out.eof then return (.closed, none, src)
  let space := p.capacity - out.buf.length
  let wrote := fit (src.peek s.iovecs) space
  let data := (src.peek s.iovecs).flatten.take wrote
  let src := src.consume wrote
  let blocked := src.len > 0
  let notify := wrote > 0 && out.readWant
  setPipe (p.setOutbound s.side
    { out with
      buf := out.buf ++ data
      readWant := out.readWant && !notify
      writeWant := out.writeWant || blocked })
  if notify then raise (.readable s.side.other)
  if blocked then
    if space - wrote > 0 then raise (.writable s.side)
    return (.wouldBlock, none, src)
  return (.progressed, none, src)

def close (s : Socket) : WireM Socket := do
  if s.closed then return s
  let p ← pipeNow
  let p := p.setOutbound s.side { p.outbound s.side with eof := true }
  let p := p.setInbound s.side { p.inbound s.side with eof := true, buf := [] }
  setPipe (p.setListens s.side false)
  raise (.readable s.side.other)
  raise (.writable s.side.other)
  return { s with closed := true }

end Socket

end LineKv.Transport
