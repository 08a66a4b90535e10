import LineKv.Script.Value
import LineKv.Server.Loop
import LineKv.Account.File

/-!
Scripts that run a whole node over in-memory connections. Each connection has a client end on the
other side of its pipe, with its own compression layer when the connection compresses.
-/

namespace LineKv.Script

open Transport Server

def sessionStart : Int := 1704067200000

def defaultPasswordHash : Bytes :=
  Bytes.ofString "$2a$04$eATNYyg1m5cG0Qoa5IH9cOov198YwsANpRz8ShqO7.zWGrm3mOrNW"

/-- The accounts of a scripted node unless the script gives its own: `alice` (read, write,
publish), `reader` (the default, read), `writer`, `watcher` (monitor, publish), the administrator
`root` with no letters, and the disabled `ghost`. -/
def defaultAccounts : Except AccountError Accounts :=
  let entry := fun (name : String) (caps : Option String) (admin disabled : Bool) =>
    ({ name := Bytes.ofString name
       passwordHash := defaultPasswordHash
       capabilities := caps.map Bytes.ofString
       admin := admin
       disabled := disabled } : AccountEntry)
  Accounts.build bcrypt (some (Bytes.ofString "r"))
    [entry "alice" (some "rwp") false false, entry "reader" none false false,
      entry "writer" (some "w") false false, entry "watcher" (some "mp") false false,
      entry "root" (some "") true false, entry "ghost" (some "rwpme") false true]

def fieldString (v : Value) (key : String) : String :=
  String.fromUTF8! (ByteArray.mk (v.text key).toArray)

def accountsOf (cfg : Value) : Except Fault (Option Accounts) :=
  if cfg.flag "no_accounts" then .ok none
  else if cfg.hasText "accounts" then
    ((Accounts.parse "load accounts" (fieldString cfg "accounts")).mapError (·.toFault)).map some
  else (defaultAccounts.mapError (·.toFault)).map some

def aliasesOf (cfg : Value) : List (Bytes × Bytes) :=
  match cfg.get "aliases" with
  | .obj fields =>
    let pairs := fields.map fun (k, v) => (Bytes.ofString k, v.bytes?.getD [])
    pairs.mergeSort fun a b => !Bytes.lt b.1 a.1
  | _ => []

/-- The loop settings of a script's configuration. -/
def loopConfigOf (cfg : Value) : Server.Config :=
  { maxLine := (cfg.int "max_line" 4096).toNat
    limits := Limits.ofConfig (cfg.int "max_read_per_event" 0) (cfg.int "max_sendq" 0)
    maxPending := cfg.int "max_pending" 256
    floodRate := cfg.rat "flood_rate" 0
    floodBurst := cfg.int "flood_burst" 20
    keepAlive := cfg.int "keepalive_ms" 90000
    pingTimeout := cfg.int "ping_timeout_ms" 30000
    registrationTimeout := cfg.int "registration_timeout_ms" 30000
    shutdownGrace := cfg.int "shutdown_grace_ms" 5000 }

def poolOf (cfg : Value) : Option WorkerPool :=
  match cfg.get "workers" with
  | .obj _ => some (WorkerPool.create ((cfg.get "workers").int "count" 0) ((cfg.get "workers").int "queue" 0))
  | _ => none

def switchOn (cfg : Value) (key : String) : Bool :=
  match cfg.get key with
  | .bool b => b
  | _ => true

/-- The node a script's configuration describes, or why it cannot start. -/
def nodeOf (cfg : Value) : Except Fault Node := do
  let accounts ← accountsOf cfg
  let dispatcher ← (dispatcherWith (aliasesOf cfg)).mapError (·.toFault)
  let services : Services :=
    { store := Store.Memory.empty
      broker := if cfg.flag "no_broker" then none
        else some (Broker.empty (cfg.int "max_subscriptions" 128).toNat)
      accounts := accounts
      hasher := bcrypt
      reloads := 0
      monitor := if switchOn cfg "monitor" then some Hub.empty else none
      statsOn := switchOn cfg "stats"
      keysLimit := (cfg.int "keys_limit" 1000).toNat }
  return Node.start (loopConfigOf cfg) dispatcher services Draws.counter (poolOf cfg) sessionStart

/-- The client end of a scripted connection. -/
structure Client where
  name : Bytes
  /-- The node's id for the connection. -/
  id : Bytes
  pipe : Nat
  link : Link
  /-- Reads only on a `read` step. -/
  manualRead : Bool
  /-- Closed by the script. -/
  closed : Bool
  eof : Bool
  /-- Bytes for the socket itself, below any compression layer. -/
  raw : ChunkQueue
  /-- Received bytes not yet reported as complete lines. -/
  received : Bytes
  deriving Inhabited

/-- A running script: the node and its clients in connect order. -/
structure SessionBench where
  node : Node
  clients : List Client

namespace SessionBench

def onClient {α : Type} (b : SessionBench) (name : Bytes) (op : Client → WireM (α × Client)) :
    Option α × SessionBench :=
  match b.clients.find? (·.name == name) with
  | none => (none, b)
  | some c =>
    let ((a, c), wire) := (op c).run ⟨b.node.pipe c.pipe, []⟩
    let node := (b.node.setPipe c.pipe wire.pipe).deliver c.pipe wire.signals
    (some a, { b with node := node, clients := b.clients.map fun x => if x.name == name then c else x })

def nameOf (b : SessionBench) (id : Bytes) : Bytes :=
  ((b.clients.find? (·.id == id)).map (·.name)).getD []

end SessionBench

def Client.readable (c : Client) (p : Pipe) : Nat :=
  (p.inbound c.link.socket.side).buf.length + (c.link.layers.map (·.inbox.length)).foldl (· + ·) 0

/-- Read until a read adds nothing, moving what arrives into the client's buffer; a read that
finds the node gone marks end of stream. -/
def Client.drain (c : Client) : Nat → WireM Client
  | 0 => return c
  | fuel + 1 => do
    let (err, l) ← c.link.handleReadable
    let (got, l) := l.takeRecv
    let c := { c with link := l, received := c.received ++ got }
    let c := match err with
      | some .peerClosed => { c with eof := true }
      | _ => c
    if got.isEmpty then return c else c.drain fuel

def Client.readAll (c : Client) : WireM Client := do
  let p ← pipeNow
  c.drain (c.readable p + 2)

def Client.pass (c : Client) : WireM (Unit × Client) := do
  if c.closed || c.eof then return ((), c)
  let c ← if c.raw.len = 0 then pure c else do
    let (_, _, rest) ← c.link.socket.write c.raw
    pure { c with raw := rest }
  let c ← if c.manualRead then pure c else c.readAll
  let (_, l) ← c.link.flush
  return ((), { c with link := l })

/-- Split received bytes into complete lines and the unterminated tail. -/
def splitLines (s : Bytes) : List Bytes × Bytes :=
  go s.length [] s
where
  /-- Take lines off `rest` while a CR LF remains. -/
  go : Nat → List Bytes → Bytes → List Bytes × Bytes
    | 0, acc, rest => (acc.reverse, rest)
    | fuel + 1, acc, rest =>
      match findCrLf 0 rest with
      | some i => go fuel (rest.take i :: acc) (rest.drop (i + 2))
      | none => (acc.reverse, rest)
  /-- The index of the first CR LF. -/
  findCrLf : Nat → Bytes → Option Nat
    | i, 13 :: 10 :: _ => some i
    | i, _ :: rest => findCrLf (i + 1) rest
    | _, [] => none

namespace SessionBench

def clientPass (b : SessionBench) : SessionBench :=
  (b.clients.map (·.name)).foldl (fun b name => (b.onClient name Client.pass).2) b

def polls (b : SessionBench) : Nat → SessionBench
  | 0 => b
  | 1 => { b with node := b.node.poll }
  | n + 2 => polls ({ b with node := b.node.poll }).clientPass (n + 1)

def live (b : SessionBench) : List Bytes := b.node.connectionInfo.map fun i => b.nameOf i.id

end SessionBench

def snapshotValue (st : Snapshot) : Value :=
  .obj [("started_ms", .ofInt st.startedAt), ("uptime", .ofString st.uptime),
    ("connections", .ofNat st.connections), ("registered", .ofNat st.registered),
    ("pending", .ofNat st.pending), ("accepted", .ofNat st.accepted), ("closed", .ofNat st.closed),
    ("dispatched", .ofNat st.dispatched), ("replayed", .ofNat st.replayed),
    ("keepalive", .ofNat st.keepAlive), ("queued", .ofNat st.queued),
    ("rejected", .ofNat st.rejected), ("ticks", .ofNat st.ticks)]

def connInfoValue (name : Bytes) (i : ConnInfo) : Value :=
  .obj [("conn", .str name), ("id", .str i.id), ("remote", .str i.remote),
    ("listener", .str i.listener), ("account", .str i.account), ("database", .str i.database),
    ("connected_ms", .ofInt i.connectedAt), ("idle", .ofString i.idle),
    ("transaction", .ofString i.transaction), ("pending", .ofNat i.pending),
    ("buffered", .ofNat i.buffered), ("sendq", .ofInt i.sendq), ("locked", .bool i.locked),
    ("monitor", .bool i.monitor)]

def connStateValue (c : Connection) (clientError : Bytes) : Value :=
  .obj [("closed", .bool c.closed), ("registered", .bool c.session.registered),
    ("target", .str c.session.target), ("transaction", .ofString c.queue.state.name),
    ("pending", .ofNat c.queue.pending.length), ("buffered", .ofNat c.queue.buffer.length),
    ("sendq", .ofInt c.link.pending), ("ping_token", .str c.session.pingToken),
    ("next_keepalive_ms", .ofOption Value.ofInt c.session.nextKeepAlive),
    ("last_activity_ms", .ofInt c.session.lastActivity), ("database", .str c.session.database),
    ("client_error", .str clientError)]

def clientError (c : Client) : Bytes :=
  match c.link.err with
  | some .peerClosed | none => []
  | some e => e.toFault.message

def chainOf (names : List Value) (deflate : Compressor) (sock : Socket) : List LayerSpec :=
  names.map fun v =>
    match v.bytes? with
    | some n =>
      if n == Bytes.ofString "deflate" then .compressor deflate
      else if n == Bytes.ofString "socket" then .socket sock
      else .missing
    | none => .missing

def defaultCompressor (maxFrame : Int) : Compressor :=
  (Compressor.create flate (-1) maxFrame 0).toOption.getD default

/-- Connect a client: attach the node's end, then open the client's. -/
def connect (cfg : Value) (b : SessionBench) (op : Value) : List (String × Value) × SessionBench :=
  let name := op.text "conn"
  let deflate := op.flag "deflate"
  let (pipe, node) := b.node.openPipe (op.int "capacity" 0)
  let serverSock := Socket.create serverSide (op.int "max_iovecs" 0)
  let serverDeflate := defaultCompressor (cfg.int "max_frame" 0)
  let layers :=
    if op.has "chain" then chainOf (op.list "chain") serverDeflate serverSock
    else (if deflate then [LayerSpec.compressor serverDeflate] else []) ++ [.socket serverSock]
  let remote := op.textOr "remote" (Bytes.ofString "mem:" ++ name)
  let listener := op.textOr "listener" (Bytes.ofString "mem")
  match node.attach layers pipe remote listener none with
  | (.error e, node) => ([("err", faultValue e)], { b with node := node })
  | (.ok id, node) =>
    let clientLayers :=
      (if deflate then [LayerSpec.compressor (defaultCompressor 0)] else []) ++
        [.socket (Socket.create serverSide.other (op.int "client_max_iovecs" 0))]
    let (made, wire) := (Link.create clientLayers (Limits.ofConfig 0 0)).run ⟨node.pipe pipe, []⟩
    let node := (node.setPipe pipe wire.pipe).deliver pipe wire.signals
    match made with
    | .error e => ([("err", faultValue e.toFault)], { b with node := node })
    | .ok link =>
      let client : Client :=
        { name := name, id := id, pipe := pipe, link := link, manualRead := op.flag "manual_read"
          closed := false, eof := false, raw := .empty, received := [] }
      let clients :=
        if b.clients.any (·.name == name) then b.clients.map fun c => if c.name == name then client else c
        else b.clients ++ [client]
      ([("id", .str id)], { node := node, clients := clients })

def chunksOf (op : Value) : List Bytes :=
  if op.has "chunks" then op.texts "chunks" else [op.text "data"]

def Client.send (chunks : List Bytes) (c : Client) : WireM (Option Bytes × Client) := do
  if c.link.closed then return (some (Bytes.ofString "client closed"), c)
  let l ← chunks.foldlM (fun l p => l.write p) c.link
  let (err, l) ← l.flush
  return (err.map (·.toFault.message), { c with link := l })

def reloadAccounts (text : String) (s : Node) : Option Fault × Node :=
  s.reloadAccounts (Accounts.load tomlAccounts s.services.hasher "load accounts") text

/-- One step: its own answer fields and the bench after it. -/
def sessionStep (cfg : Value) (b : SessionBench) (op : Value) : List (String × Value) × SessionBench :=
  let kind := op.text "do"
  let is := fun (s : String) => kind == Bytes.ofString s
  let name := op.text "conn"
  let idOf := fun (b : SessionBench) => ((b.clients.find? (·.name == name)).map (·.id)).getD []
  if is "connect" then connect cfg b op
  else if is "send" then
    match b.onClient name (Client.send (chunksOf op)) with
    | (some (some e), b) => ([("err", faultValue (Fault.plain e))], b)
    | (_, b) => ([], b)
  else if is "send_raw" then
    ([], (b.onClient name fun c => return ((), { c with raw := c.raw.push (op.text "data") })).2)
  else if is "read" then
    ([], (b.onClient name fun c => do
      if c.closed || c.eof then return ((), c)
      return ((), ← c.readAll)).2)
  else if is "close" then
    ([], (b.onClient name fun c => do
      let l ← c.link.close
      return ((), { c with link := l, closed := true })).2)
  else if is "submit" then ([], { b with node := b.node.submit (idOf b) (op.text "data") })
  else if is "enqueue" then
    let (r, node) := b.node.enqueue (idOf b) (op.text "name") (op.texts "params")
    ([("err", errorOrNull id r)], { b with node := node })
  else if is "poll" then ([], b.polls (op.int "n" 1).toNat)
  else if is "tick" then
    let (worked, node) := b.node.tick
    ([("worked", .ofNat worked)], { b with node := node })
  else if is "advance" then ([], { b with node := { b.node with now := b.node.now + op.int "ms" 0 } })
  else if is "housekeep" then ([], { b with node := b.node.housekeep b.node.now })
  else if is "stats" then ([("stats", snapshotValue b.node.snapshot)], b)
  else if is "conns" then
    ([("conns", .arr (b.node.connectionInfo.map fun i => connInfoValue (b.nameOf i.id) i))], b)
  else if is "conn_state" then
    let err := ((b.clients.find? (·.name == name)).map clientError).getD []
    ([("state", .ofOption (fun c => connStateValue c err) (b.node.connection? (idOf b)))], b)
  else if is "close_store" then
    ([("err", .null)], { b with node := b.node.setStore b.node.services.store.close })
  else if is "reload_accounts" then
    let (err, node) := reloadAccounts (fieldString op "toml") b.node
    let names := (node.services.accounts.map (·.names)).getD []
    ([("err", .ofOption faultValue err), ("accounts", .ofTexts names),
      ("reloads", .ofNat node.services.reloads)], { b with node := node })
  else ([], b)

/-- What the clients received during a step: complete lines, tails, and new ends of stream. -/
def report (before : List Client) (b : SessionBench) : List (String × Value) × SessionBench :=
  let split := b.clients.map fun c => (c, splitLines c.received)
  let out := split.filterMap fun (c, lines, _) =>
    if lines.isEmpty then none else some (c.name, Value.ofTexts lines)
  let partials := split.filterMap fun (c, _, rest) =>
    if rest.isEmpty then none else some (c.name, Value.str rest)
  let wasEof := fun (c : Client) => (before.find? (·.name == c.name)).any (·.eof)
  let eofs := (b.clients.filter fun c => c.eof && !wasEof c).map (·.name)
  let field := fun (key : String) (entries : List (Bytes × Value)) =>
    if entries.isEmpty then []
    else [(key, Value.obj (entries.map fun (n, v) => (String.fromUTF8! (ByteArray.mk n.toArray), v)))]
  let fields := field "out" out ++ field "partial" partials ++
    (if eofs.isEmpty then [] else [("eof", .ofTexts eofs)])
  (fields, { b with clients := split.map fun (c, _, rest) => { c with received := rest } })

/-- Run a session script. -/
def runSession (req : Value) : Value :=
  let cfg := req.get "config"
  match nodeOf cfg with
  | .error f => faultValue f
  | .ok node =>
    let (answers, _) := (req.list "steps").foldl
      (fun (acc : List Value × SessionBench) op =>
        let (answers, b) := acc
        let before := b.clients
        let (fields, b) := sessionStep cfg b op
        let b := b.clientPass
        let (seen, b) := report before b
        let answer := Value.obj ([("do", Value.str (op.text "do"))] ++ fields ++ seen ++
          [("live", .ofTexts b.live)])
        (answers ++ [answer], b))
      ([], ⟨node, []⟩)
    .obj [("steps", .arr answers)]

end LineKv.Script
