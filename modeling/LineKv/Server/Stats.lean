import LineKv.Server.Node
import LineKv.Text.Duration

/-!
Views of a node for operators: counters with the uptime, one record per live connection, and the
lines the STATS command answers with. Uptime is truncated to whole seconds and idleness to whole
milliseconds before they are written.
-/

namespace LineKv.Server

/-- A point-in-time view of the loop. -/
structure Snapshot where
  startedAt : Int
  uptime : String
  connections : Nat
  registered : Nat
  pending : Nat
  accepted : Nat
  closed : Nat
  dispatched : Nat
  replayed : Nat
  keepAlive : Nat
  queued : Nat
  rejected : Nat
  ticks : Nat
  deriving Repr

/-- One live connection as operators see it. -/
structure ConnInfo where
  id : Bytes
  remote : Bytes
  listener : Bytes
  /-- The account, empty before login. -/
  account : Bytes
  database : Bytes
  connectedAt : Int
  idle : String
  transaction : String
  pending : Nat
  buffered : Nat
  sendq : Int
  locked : Bool
  monitor : Bool
  deriving Repr

namespace Node

/-- The counters, the uptime, and totals over the connections. -/
def snapshot (s : Node) : Snapshot :=
  { startedAt := s.started
    uptime := Text.durationText (Text.truncateTo ((s.now - s.started) * 1000000) 1000000000)
    connections := s.conns.length
    registered := (s.conns.filter (·.session.registered)).length
    pending := (s.conns.map (·.queue.pending.length)).foldl (· + ·) 0
    accepted := s.counters.accepted
    closed := s.counters.closed
    dispatched := s.counters.dispatched
    replayed := s.counters.replayed
    keepAlive := s.counters.keepAlive
    queued := s.counters.queued
    rejected := s.counters.rejected
    ticks := s.counters.ticks }

/-- A connection's record. -/
def info (s : Node) (c : Connection) : ConnInfo :=
  { id := c.id
    remote := c.session.remote
    listener := c.session.listener
    account := if c.session.registered then c.session.identity.account else []
    database := c.session.database
    connectedAt := c.session.connectedAt
    idle := Text.durationText (Text.truncateTo (c.session.idle s.now * 1000000) 1000000)
    transaction := c.queue.state.name
    pending := c.queue.pending.length
    buffered := c.queue.buffer.length
    sendq := c.link.pending
    locked := c.locked > 0
    monitor := c.session.monitor }

def connectionInfo (s : Node) : List ConnInfo :=
  (s.conns.filter (!·.dead)).map s.info

/-- The STATS lines: name and value. -/
def statLines (s : Node) : List (Bytes × Bytes) :=
  let st := s.snapshot
  let line := fun (n : String) (v : Nat) => (Bytes.ofString n, Bytes.ofNat v)
  [(Bytes.ofString "uptime", Bytes.ofString st.uptime), line "connections" st.connections,
    line "registered" st.registered, line "pending" st.pending, line "accepted" st.accepted,
    line "closed" st.closed, line "dispatched" st.dispatched, line "replayed" st.replayed,
    line "rejected" st.rejected] ++
  match s.pool with
  | some p => [line "workers" p.workers, line "worker_queue" p.queue.length, line "worker_failed" p.failed]
  | none => []

end Node

end LineKv.Server
