import LineKv.Server.Handlers
import LineKv.Line.Message

/-!
The event loop of a node: attaching connections, framing input, one turn (`poll`: posted events,
one tick, the events that tick posted, then removal of the connections torn down), housekeeping,
the worker pool's moves, and shutdown.
-/

namespace LineKv.Server

open Transport Command Line

namespace Node

/-- A node with no connections and zeroed counters, started at `now`. -/
def start (config : Config) (dispatcher : Dispatcher Builtin) (services : Services) (draws : Draws)
    (pool : Option WorkerPool) (now : Int) : Node :=
  { config := config
    dispatcher := dispatcher
    conns := []
    index := []
    culled := []
    retired := []
    posted := []
    counters := ⟨0, 0, 0, 0, 0, 0, 0, 0⟩
    started := now
    now := now
    sessions := 0
    draws := draws
    draining := false
    released := []
    pool := pool
    jobs := []
    jobsMade := 0
    net := #[]
    services := services
    parked := [] }

def connection? (s : Node) (id : Bytes) : Option Connection :=
  match s.conn? id with
  | some c => some c
  | none => s.retired.reverse.find? (·.id == id)

def openPipe (s : Node) (capacity : Int) : Nat × Node := (s.net.size, { s with net := s.net.push (Pipe.create capacity) })

def closeLayers : List LayerSpec → WireM Unit
  | [] => pure ()
  | .socket sock :: rest => do
    let _ ← sock.close
    closeLayers rest
  | _ :: rest => closeLayers rest

def refuse (s : Node) (layers : List LayerSpec) (pipe : Nat) (release : Option Nat) : Node :=
  let wire := ((closeLayers layers).run ⟨s.pipe pipe, []⟩).2
  { (s.setPipe pipe wire.pipe).deliver pipe wire.signals with released := s.released ++ release.toList }

/-- The record of a connection accepted as session number `n` over `link` on `pipe`, holding the
acceptor's slot `release`: open, unlocked, with a fresh session and an empty queue. -/
def fresh (s : Node) (n : Nat) (remote listener : Bytes) (link : Link) (pipe : Nat) (release : Option Nat) :
    Connection :=
  { session := Session.create (s.draws.id n) remote listener s.now
    queue := Queue.create s.config.maxPending s.config.floodRate s.config.floodBurst (s.draws.limiter n)
    link := link
    pipe := pipe
    locked := 0
    quitting := false
    quitAt := 0
    dead := false
    reason := []
    release := release
    readPosted := false
    writePosted := false }

def accept (s : Node) (c : Connection) (p : Pipe) : Node :=
  { s.setPipe c.pipe p with
    conns := s.conns ++ [c]
    index := s.index.insert c.id
    counters := { s.counters with accepted := s.counters.accepted + 1 } }

/-- A connection over `layers` (outermost first, the socket on `pipe` last), holding the acceptor's
slot `release`: its id, or why it was refused. A draining node refuses every chain; otherwise a
session number is used up whether the chain is accepted or not. -/
def attach (s : Node) (layers : List LayerSpec) (pipe : Nat) (remote listener : Bytes)
    (release : Option Nat) : Except Fault Bytes × Node :=
  if s.draining then (.error (.of .connClosed (Bytes.ofString "server: connection closed")), s.refuse layers pipe release)
  else
    let s := { s with sessions := s.sessions + 1 }
    let (made, wire) := (Link.create layers s.config.limits).run ⟨s.pipe pipe, []⟩
    match made with
    | .error e => (.error e.toFault, s.refuse layers pipe release)
    | .ok link =>
      let c := s.fresh s.sessions remote listener link pipe release
      (.ok c.id, ((s.accept c wire.pipe).deliver pipe wire.signals).readable c.id)

def reject (s : Node) : Node := { s with counters := { s.counters with rejected := s.counters.rejected + 1 } }

/-- Queue one decoded command. A flood rejection is counted; a full queue closes the connection. -/
def enqueue (s : Node) (id : Bytes) (name : Bytes) (params : List Bytes) : Except Fault Unit × Node :=
  match s.conn? id with
  | none => (.error (.of .connClosed (Bytes.ofString "server: connection closed")), s)
  | some c =>
    if c.closed then (.error (.of .connClosed (Bytes.ofString "server: connection closed")), s)
    else
      let keepAlive := ((s.dispatcher.lookup name).map (·.keepAlive)).getD false
      let (q, err) := c.queue.enqueue name params keepAlive
      let s := s.modifyQueue id fun _ => q
      match err with
      | none => (.ok (), s)
      | some .flood => (.error (QueueError.flood).toFault, s.reject)
      | some e => (.error e.toFault, s.closeLink id (Bytes.ofString "RecvQ exceeded"))

/-- Frame the receive buffer into commands; every round takes at least one byte. -/
def drain (s : Node) (id : Bytes) : Nat → Node
  | 0 => s
  | fuel + 1 =>
    match s.conn? id with
    | none => s
    | some c =>
      if c.closed then s
      else
        let setRecv := fun (s : Node) (rest : Bytes) =>
          s.modifyConn id fun c => { c with link := { c.link with recv := rest } }
        match next s.config.maxLine c.link.recv with
        | .exceeded _ => (s.reject).closeLink id (Bytes.ofString "RecvQ exceeded")
        | .overlong _ _ rest => drain (setRecv s rest).reject id fuel
        | .incomplete => s
        | .line text rest =>
          let s := setRecv s rest
          if text.isEmpty then drain s id fuel
          else
            match decode text with
            | .error _ => drain s.reject id fuel
            | .ok msg =>
              match s.enqueue id msg.command msg.params with
              | (.ok (), s) => drain s id fuel
              | (.error f, s) => if f.cls = some .flood then drain s id fuel else s

def drainInput (s : Node) (id : Bytes) : Node :=
  match s.conn? id with
  | none => s
  | some c => s.drain id (c.link.recv.length + 1)

def submit (s : Node) (id : Bytes) (raw : Bytes) : Node :=
  match s.conn? id with
  | none => s
  | some c =>
    if c.closed then s
    else (s.modifyConn id fun c => { c with link := { c.link with recv := c.link.recv ++ raw } }).drainInput id

def onReadable (s : Node) (id : Bytes) : Node :=
  match s.conn? id with
  | none => s
  | some c =>
    if c.closed then s
    else
      match s.onLink id fun l => l.handleReadable with
      | (some (some e), s) => s.cull id (causeOf (some e))
      | (_, s) => s.drainInput id

/-- A writable event: flush; a drained connection that closed is torn down. -/
def onWritable (s : Node) (id : Bytes) : Node :=
  match s.conn? id with
  | none => s
  | some c =>
    if c.dead then s
    else
      match s.onLink id fun l => l.flush with
      | (some (some e), s) => s.cull id (causeOf (some e))
      | (_, s) =>
        match s.conn? id with
        | some c => if c.link.closed then s.cull id c.reason else s
        | none => s

def runPost (s : Node) : Post → Node
  | .readable id => (s.modifyConn id fun c => { c with readPosted := false }).onReadable id
  | .writable id => (s.modifyConn id fun c => { c with writePosted := false }).onWritable id
  | .completion job found => s.applyWork job.conn found

def runPosted (s : Node) : Node := s.posted.foldl runPost { s with posted := [] }

def runner (id : Bytes) : Runner Node where
  queue := fun s => s.queueOf id
  setQueue := fun q s => s.modifyQueue id fun _ => q
  execute := fun name params s => s.execute id name params
  reply := fun code params text s => s.reply id code params text

def count (s : Node) : StepOutcome → Bool × Node
  | .idle | .locked => (false, s)
  | .keepAlive => (true, { s with counters := { s.counters with keepAlive := s.counters.keepAlive + 1 } })
  | .replayed => (true, { s with counters := { s.counters with replayed := s.counters.replayed + 1 } })
  | .queued => (true, { s with counters := { s.counters with queued := s.counters.queued + 1 } })
  | .dispatched => (true, { s with counters := { s.counters with dispatched := s.counters.dispatched + 1 } })
  | .rejected => (true, s)

/-- One tick: at most one unit of work per connection; how many did work. -/
def tick (s : Node) : Nat × Node :=
  let s := { s with counters := { s.counters with ticks := s.counters.ticks + 1 } }
  (s.conns.map (·.id)).foldl
    (fun (acc : Nat × Node) id =>
      let (worked, s) := acc
      match s.conn? id with
      | none => acc
      | some c =>
        if c.closed then acc
        else
          let (out, s) := (runner id).step (c.locked > 0) s
          let (did, s) := s.count out
          (if did then worked + 1 else worked, s))
    (0, s)

/-- Remove the connections torn down: each one leaves the connection map, has its queue dropped
and its acceptor slot given back, and its clean-up runs (its subscriptions and its monitor sink
go). -/
def reap (s : Node) : Node :=
  if s.culled.isEmpty then s
  else
    let s := s.culled.foldl
      (fun s id =>
        let s := { s.modifyQueue id (·.discard) with
          index := s.index.erase id
          released := s.released ++ ((s.conn? id).bind (·.release)).toList }
        let s := s.modifyServices fun sv =>
          { sv with
            broker := sv.broker.map fun b => (b.unsubscribe id []).2
            monitor := sv.monitor.map (·.remove id) }
        { s with counters := { s.counters with closed := s.counters.closed + 1 } })
      s
    { s with
      culled := []
      conns := s.conns.filter (!·.dead)
      retired := s.retired ++ s.conns.filter (·.dead) }

/-- One turn of the loop. -/
def poll (s : Node) : Node :=
  let s := s.runPosted
  let s := s.tick.2
  let s := s.runPosted
  s.reap

def nanoText (ms : Int) : Bytes := Bytes.ofInt (ms * 1000000)

/-- Timers for one connection at `now`. -/
def housekeepOne (s : Node) (now : Int) (id : Bytes) : Node :=
  match s.conn? id with
  | none => s
  | some c =>
    let cfg := s.config
    let ss := c.session
    if c.dead then s
    else if c.quitting then
      if now - c.quitAt ≥ cfg.shutdownGrace then s.cull id c.reason else s
    else if !ss.registered && cfg.registrationTimeout > 0 && now - ss.connectedAt ≥ cfg.registrationTimeout then
      s.closeLink id (Bytes.ofString "Registration timeout")
    else if !ss.pingToken.isEmpty then
      if cfg.pingTimeout > 0 && now - ss.pingSent ≥ cfg.pingTimeout then
        s.closeLink id (Bytes.ofString "Ping timeout")
      else s
    else if cfg.keepAlive ≤ 0 then s
    else
      let due := ss.nextKeepAlive.getD (ss.connectedAt + cfg.keepAlive)
      let s := s.modifySession id fun ss => { ss with nextKeepAlive := some due }
      if now < due then s
      else
        let token := nanoText now
        let s := s.modifySession id fun ss => { ss with pingToken := token, pingSent := now }
        s.send id (serverLine (Bytes.ofString "PING") [] token)

def housekeep (s : Node) (now : Int) : Node :=
  ((s.conns.map (·.id)).foldl (fun s id => s.housekeepOne now id) s).reap

/-! ## The worker pool -/

def startPool (s : Node) : Node := { s with pool := s.pool.map (·.start.1) }

def stopPool (s : Node) : Node := { s with pool := s.pool.map (·.stop) }

def takeJob (s : Node) : Node :=
  match s.pool with
  | some p =>
    match p.take with
    | some (_, p) => { s with pool := some p }
    | none => s
  | none => s

/-- A worker finishes a job in progress: the command's work runs against the store and the accounts
as they are now, and its completion is posted to the loop. -/
def finishJob (s : Node) (j : Job) : Node :=
  match s.pool with
  | some p =>
    if j ∈ p.running then
      let s := { s with pool := some (p.finish j) }
      match s.jobs.lookup j.id with
      | some pj =>
        let (found, store) := pj.work.run s.services.hasher s.services.store s.services.accounts
        { s with
          services := { s.services with store := store }
          jobs := s.jobs.filter (·.1 != j.id)
          posted := s.posted ++ [.completion pj found] }
      | none => s
    else s
  | none => s

/-! ## Shutdown -/

def shutdownReason : Bytes := Bytes.ofString "Server shutting down"

def closeIfOpen (s : Node) (id reason : Bytes) : Node :=
  match s.conn? id with
  | some c => if c.closed then s else s.closeLink id reason
  | none => s

def closeOpen (s : Node) (reason : Bytes) : Node :=
  (s.conns.map (·.id)).foldl (fun s id => s.closeIfOpen id reason) s

def cullAll (s : Node) (reason : Bytes) : Node :=
  (s.conns.map (·.id)).foldl (fun s id => s.cull id reason) s

def beginShutdown (s : Node) : Node := { s with draining := true }.runPosted.closeOpen shutdownReason

def shutdownRound (s : Node) : Node := s.runPosted.reap

def endShutdown (s : Node) : Node := (s.cullAll shutdownReason).reap

end Node

end LineKv.Server
