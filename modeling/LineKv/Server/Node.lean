import LineKv.Server.Commands
import LineKv.Transport.Link
import LineKv.Session
import LineKv.Monitor
import LineKv.Broker
import LineKv.Store.Memory
import LineKv.Account.Basic
import LineKv.Line.Frame
import LineKv.Queue
import LineKv.WorkerPool
import LineKv.Server.Work

/-!
A server node: its connections (in attach order, and the map of their ids), the events waiting for
the loop, its counters and clock, its worker pool, the in-memory network its sockets live on, and
the services commands use.
-/

namespace LineKv.Server

open Transport Command

/-- The loop's settings; times in milliseconds, zero turns a timer off. -/
structure Config where
  maxLine : Nat
  limits : Limits
  maxPending : Int
  floodRate : Rat
  floodBurst : Int
  keepAlive : Int
  pingTimeout : Int
  registrationTimeout : Int
  shutdownGrace : Int
  deriving Repr, Inhabited

/-- An event for the loop: a connection became readable or writable, or a worker finished an
offloaded command's work. -/
inductive Post where
  | readable (id : Bytes)
  | writable (id : Bytes)
  | completion (job : PoolJob) (found : Finish)

def Post.isCompletion : Post → Bool
  | .completion _ _ => true
  | _ => false

/-- One client connection. -/
structure Connection where
  session : Session
  queue : Queue
  link : Link
  pipe : Nat
  /-- Offloaded commands whose completion has not run yet. -/
  locked : Nat
  quitting : Bool
  quitAt : Int
  dead : Bool
  reason : Bytes
  /-- The acceptor's slot to give back once the connection is gone, if any. -/
  release : Option Nat
  readPosted : Bool
  writePosted : Bool
  deriving Inhabited

def Connection.id (c : Connection) : Bytes := c.session.id

def Connection.closed (c : Connection) : Bool := c.dead || c.quitting

/-- The loop's counters. -/
structure Counters where
  accepted : Nat
  closed : Nat
  dispatched : Nat
  replayed : Nat
  keepAlive : Nat
  queued : Nat
  ticks : Nat
  rejected : Nat
  deriving Repr, Inhabited

/-- The services commands use. A missing broker, account store or monitor turns the matching
commands off. -/
structure Services where
  store : Store.Memory
  broker : Option Broker
  accounts : Option Accounts
  hasher : Hasher
  reloads : Nat
  monitor : Option Hub
  statsOn : Bool
  keysLimit : Nat
  deriving Inhabited

/-- What a node takes from outside the loop for the session of each number: its id (a random
UUID) and, under flood control, the limiter its queue gets for a rate and a burst. -/
structure Draws where
  id : Nat → Bytes
  limiter : Nat → Rat → Nat → Limiter

/-- A server node. -/
structure Node where
  config : Config
  dispatcher : Dispatcher Builtin
  conns : List Connection
  /-- The ids the connection map holds. -/
  index : List Bytes
  culled : List Bytes
  retired : List Connection
  posted : List Post
  counters : Counters
  started : Int
  now : Int
  /-- Sessions opened so far, which numbers their ids. -/
  sessions : Nat
  draws : Draws
  /-- Shutdown has begun: no more connections are attached. -/
  draining : Bool
  /-- The acceptor slots given back, in order. -/
  released : List Nat
  /-- The worker pool offloaded work goes to; without one it runs inline. -/
  pool : Option WorkerPool
  /-- The offloaded commands submitted to the pool and not finished, by job number. -/
  jobs : List (Nat × PoolJob)
  /-- Jobs submitted so far, which numbers them. -/
  jobsMade : Nat
  net : Array Pipe
  services : Services
  parked : Parked

def serverSide : Side := .fst

def Draws.counter : Draws := ⟨sessionId, fun _ _ burst => Limiter.burstOnly burst⟩

namespace Node

def conn? (s : Node) (id : Bytes) : Option Connection := s.conns.find? (·.id == id)

def modifyConn (s : Node) (id : Bytes) (f : Connection → Connection) : Node :=
  { s with conns := s.conns.map fun c => if c.id == id then f c else c }

def lock (s : Node) (id : Bytes) : Node := s.modifyConn id fun c => { c with locked := c.locked + 1 }

def unlock (s : Node) (id : Bytes) : Node := s.modifyConn id fun c => { c with locked := c.locked - 1 }

def inline (s : Node) : Bool :=
  match s.pool with
  | none => true
  | some p => !p.started

def pipe (s : Node) (i : Nat) : Pipe := s.net.getD i default

def setPipe (s : Node) (i : Nat) (p : Pipe) : Node := { s with net := s.net.setIfInBounds i p }

def readable (s : Node) (id : Bytes) : Node :=
  match s.conn? id with
  | some c =>
    if c.readPosted then s
    else { s.modifyConn id (fun c => { c with readPosted := true }) with posted := s.posted ++ [.readable id] }
  | none => s

def writable (s : Node) (id : Bytes) : Node :=
  match s.conn? id with
  | some c =>
    if c.writePosted then s
    else { s.modifyConn id (fun c => { c with writePosted := true }) with posted := s.posted ++ [.writable id] }
  | none => s

/-- Turn signals raised on a pipe into events for the connection holding its server end. -/
def deliver (s : Node) (pipe : Nat) (signals : List Signal) : Node :=
  match s.conns.find? (·.pipe == pipe) with
  | none => s
  | some c =>
    signals.foldl
      (fun s sig =>
        match sig with
        | .readable side => if side = serverSide then s.readable c.id else s
        | .writable side => if side = serverSide then s.writable c.id else s)
      s

def onLink {α : Type} (s : Node) (id : Bytes) (op : Link → WireM (α × Link)) : Option α × Node :=
  match s.conn? id with
  | none => (none, s)
  | some c =>
    let ((a, link), wire) := (op c.link).run ⟨s.pipe c.pipe, []⟩
    let s := (s.setPipe c.pipe wire.pipe).modifyConn id fun c => { c with link := link }
    (some a, s.deliver c.pipe wire.signals)

def causeOf : Option LinkError → Bytes
  | some .peerClosed => Bytes.ofString "Connection closed"
  | some .sendQExceeded => Bytes.ofString "SendQ exceeded"
  | some e => Bytes.ofString "Read error: " ++ e.toFault.message
  | none => Bytes.ofString "Read error: <nil>"

/-- Tear a connection down now; it is removed at the end of the loop's turn. The first reason
given stays. -/
def cull (s : Node) (id : Bytes) (reason : Bytes) : Node :=
  match s.conn? id with
  | none => s
  | some c =>
    if c.dead then s
    else
      let s := s.modifyConn id fun c =>
        { c with dead := true, reason := if c.reason.isEmpty then reason else c.reason }
      let (_, s) := s.onLink id fun l => do return ((), ← l.close)
      { s with culled := s.culled ++ [id] }

/-- Queue one line for a connection. An overflowing send queue tears the connection down. -/
def send (s : Node) (id : Bytes) (line : Bytes) : Node :=
  match s.conn? id with
  | none => s
  | some c =>
    if c.dead || c.link.closing then s
    else
      let (_, s) := s.onLink id fun l => do return ((), ← l.write line)
      match s.conn? id with
      | some c => if c.link.closed then s.cull id (causeOf c.link.err) else s
      | none => s

def target (s : Node) (id : Bytes) : Bytes :=
  ((s.conn? id).map (·.session.target)).getD (Bytes.ofString "*")

def reply (s : Node) (id : Bytes) (code : Line.Code) (params : List Bytes) (text : Bytes) : Node :=
  s.send id (Line.reply code (s.target id) params text)

/-- Stop running commands, drop what is queued, flush what is written, then close. -/
def quit (s : Node) (id : Bytes) (reason : Bytes) : Node :=
  match s.conn? id with
  | none => s
  | some c =>
    if c.closed then s
    else
      let s := s.modifyConn id fun c =>
        { c with quitting := true, quitAt := s.now, reason := reason, queue := c.queue.discard }
      let (_, s) := s.onLink id fun l => do return ((), ← l.closeAfterFlush)
      match s.conn? id with
      | some c => if c.link.closed then s.cull id reason else s
      | none => s

def closeLink (s : Node) (id : Bytes) (reason : Bytes) : Node :=
  let s := s.send id (Line.serverLine (Bytes.ofString "ERROR") [] (Bytes.ofString "Closing link: " ++ reason))
  s.quit id reason

def modifySession (s : Node) (id : Bytes) (f : Session → Session) : Node :=
  s.modifyConn id fun c => { c with session := f c.session }

def modifyServices (s : Node) (f : Services → Services) : Node := { s with services := f s.services }

def reloadAccounts (s : Node) (load : String → Except AccountError Accounts) (text : String) :
    Option Fault × Node :=
  match load text with
  | .error e => (some e.toFault, s)
  | .ok accts =>
    (none, s.modifyServices fun sv => { sv with accounts := sv.accounts.map fun _ => accts, reloads := sv.reloads + 1 })

end Node

end LineKv.Server
