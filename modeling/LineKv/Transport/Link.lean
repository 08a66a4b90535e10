import LineKv.Transport.Compressor

/-!
A connection's byte path: a receive buffer, a queue of outbound chunks, and a chain of layers
ending in a pipe socket. The chain is checked when the link is made: it is not empty, holds no
missing layer, and every layer but the last passes bytes through while the last one is terminal.
-/

namespace LineKv.Transport

/-- A layer as a chain is given: a compression layer, a socket, or a missing layer. -/
inductive LayerSpec where
  | compressor (c : Compressor)
  | socket (s : Socket)
  | missing

def LayerSpec.isTerminal : LayerSpec → Bool
  | .socket _ => true
  | _ => false

def kindName (terminal : Bool) : String := if terminal then "terminal" else "pass-through"

/-- Check a chain, outermost layer first: its pass-through layers and its terminal socket. -/
def checkChain (layers : List LayerSpec) : Except LinkError (List Compressor × Socket) :=
  if layers.isEmpty then .error (.invalidChain "empty chain")
  else go 0 layers []
where
  /-- Check the layers from index `i` on, collecting the pass-through ones. -/
  go : Nat → List LayerSpec → List Compressor → Except LinkError (List Compressor × Socket)
    | _, [], _ => .error (.invalidChain "empty chain")
    | i, l :: rest, acc =>
      match l with
      | .missing => .error (.invalidChain s!"nil layer at {i}")
      | _ =>
        let want := rest.isEmpty
        if l.isTerminal ≠ want then
          .error (.invalidChain s!"layer {i} is {kindName l.isTerminal}, want {kindName want}")
        else
          match l, rest with
          | .socket s, [] => .ok (acc.reverse, s)
          | .compressor c, _ => go (i + 1) rest (c :: acc)
          | _, _ => .error (.invalidChain "empty chain")

/-- Per-link bounds. -/
structure Limits where
  maxReadPerEvent : Nat
  maxSendQ : Nat
  deriving Repr, Inhabited

def Limits.ofConfig (maxReadPerEvent maxSendQ : Int) : Limits :=
  ⟨if maxReadPerEvent ≤ 0 then 65536 else maxReadPerEvent.toNat,
    if maxSendQ ≤ 0 then 1048576 else maxSendQ.toNat⟩

def readChain (sock : Socket) :
    Nat → List Compressor → WireM (ReadStatus × Option LinkError × Bytes × List Compressor)
  | 0, cs => return (.wouldBlock, none, [], cs)
  | _ + 1, [] => do
    let (st, e, d) ← sock.read
    return (st, e, d, [])
  | k + 1, c :: cs => do
    let (st, e, d, c, cs) ← c.readWith (fun below => readChain sock k below) cs
    return (st, e, d, c :: cs)

/-- Push `src` through the pass-through layers `cs` and the socket below them. -/
def writeChain (sock : Socket) :
    Nat → List Compressor → ChunkQueue →
      WireM (WriteStatus × Option LinkError × ChunkQueue × List Compressor)
  | 0, cs, src => return (.wouldBlock, none, src, cs)
  | _ + 1, [], src => do
    let (st, e, src) ← sock.write src
    return (st, e, src, [])
  | k + 1, c :: cs, src => do
    let (st, e, src, c, cs) ← c.writeWith src (fun q below => writeChain sock k below q) cs
    return (st, e, src, c :: cs)

/-- A connection's byte path. -/
structure Link where
  layers : List Compressor
  socket : Socket
  limits : Limits
  recv : Bytes
  sendq : ChunkQueue
  closing : Bool
  closed : Bool
  err : Option LinkError
  deriving Inhabited

namespace Link

def notify (l : Link) (readable : Bool) : WireM Unit :=
  modify fun w =>
    { w with signals := w.signals ++ [if readable then .readable l.socket.side else .writable l.socket.side] }

/-- Check a chain and attach its layers, innermost first. -/
def create (layers : List LayerSpec) (limits : Limits) : WireM (Except LinkError Link) := do
  match checkChain layers with
  | .error e => return .error e
  | .ok (cs, sock) =>
    sock.attach
    return .ok
      { layers := cs.map fun c => { c with attached := true }
        socket := sock
        limits := limits
        recv := []
        sendq := .empty
        closing := false
        closed := false
        err := none }

def pending (l : Link) : Int := l.sendq.len + (l.layers.map (·.pending)).foldl (· + ·) 0

def closedErr (l : Link) : LinkError := l.err.getD .closed

def close (l : Link) : WireM Link := do
  if l.closed then return l
  let sock ← l.socket.close
  return { l with
    closed := true
    layers := l.layers.map (·.close)
    socket := sock
    recv := []
    sendq := .empty }

def fail (l : Link) (e : LinkError) : WireM (LinkError × Link) := do
  let l := { l with err := some (l.err.getD e) }
  let l ← l.close
  return (l.closedErr, l)

def write (l : Link) (p : Bytes) : WireM Link := do
  if l.closed || l.closing || p.isEmpty then return l
  let l := { l with sendq := l.sendq.push p }
  if l.pending > l.limits.maxSendQ then
    let (_, l) ← l.fail .sendQExceeded
    return l
  l.notify false
  return l

/-- Pull bytes through the chain into the receive buffer. -/
def handleReadable (l : Link) : WireM (Option LinkError × Link) := do
  if l.closed then return (some l.closedErr, l)
  let start := l.recv.length
  go (l.limits.maxReadPerEvent + 1) start l
where
  /-- Read until the chain would block or the bound is reached. -/
  go : Nat → Nat → Link → WireM (Option LinkError × Link)
    | 0, _, l => do
      l.notify true
      return (none, l)
    | fuel + 1, start, l => do
      if l.recv.length - start ≥ l.limits.maxReadPerEvent then
        l.notify true
        return (none, l)
      let (st, e, data, cs) ← readChain l.socket (l.layers.length + 1) l.layers
      let l := { l with layers := cs, recv := l.recv ++ data }
      match st with
      | .consumed => if data.isEmpty then return (none, l) else go fuel start l
      | .wouldBlock => return (none, l)
      | .closed =>
        if l.recv.length > start then
          l.notify true
          return (none, l)
        let (e, l) ← l.fail .peerClosed
        return (some e, l)
      | .error =>
        let (e, l) ← l.fail (e.getD .socket)
        return (some e, l)

/-- Push queued output through the chain; close once drained in drain-then-close mode. -/
def flush (l : Link) : WireM (Option LinkError × Link) := do
  if l.closed then return (some l.closedErr, l)
  let (st, e, q, cs) ← writeChain l.socket (l.layers.length + 1) l.layers l.sendq
  let l := { l with sendq := q, layers := cs }
  match st with
  | .closed =>
    let (e, l) ← l.fail .peerClosed
    return (some e, l)
  | .error =>
    let (e, l) ← l.fail (e.getD .socket)
    return (some e, l)
  | _ =>
    if l.closing && l.pending = 0 then return (none, ← l.close)
    return (none, l)

def closeAfterFlush (l : Link) : WireM Link := do
  if l.closed then return l
  let l := { l with closing := true }
  if l.pending = 0 then l.close
  else
    l.notify false
    return l

def takeRecv (l : Link) : Bytes × Link := (l.recv, { l with recv := [] })

end Link

end LineKv.Transport
