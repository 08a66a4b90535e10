import LineKv.Server.Stats

/-!
What each built-in command does on a node, and the dispatcher host that runs commands for one
connection. Commands that touch the store or check a login are offloaded (`Node.offload`): their
work runs inline or on the worker pool, and its completion answers and reports the final outcome.
-/

namespace LineKv.Server

open Command Line

namespace Node

/-- The identity whose capabilities count for a connection: none before login; with an account
store, the account as it stands now, and none if it is gone or disabled. -/
def identityNow (s : Node) (id : Bytes) : Option Identity :=
  match s.conn? id with
  | none => none
  | some c =>
    if !c.session.registered then none
    else
      match s.services.accounts with
      | none => some c.session.identity
      | some accts =>
        match accts.lookup c.session.identity.account with
        | some a => if a.disabled then none else some ⟨a.name, a.capabilities, a.admin⟩
        | none => none

def permitted (s : Node) (id : Bytes) (cap : UInt8) : Bool :=
  match s.identityNow id with
  | some i => i.has cap || i.admin
  | none => false

def observe (s : Node) (ev : Event) : Node :=
  match s.services.monitor with
  | none => s
  | some hub =>
    let line := Hub.format ev (s.target ev.client)
    (hub.audience ev.client).foldl (fun s sink => s.send sink line) s

/-- The dispatcher host for one connection, running handlers with `invoke`. -/
def hostWith (id : Bytes) (invoke : Builtin → List Bytes → Node → Invocation × Node) :
    Host Node Builtin where
  clientId := fun _ => id
  registered := fun s => ((s.conn? id).map (·.session.registered)).getD false
  permitted := fun cap s => s.permitted id cap
  now := fun s => s.now
  reply := fun code params text s => s.reply id code params text
  touch := fun t keepAlive s => s.modifySession id (·.touch t keepAlive s.config.keepAlive)
  notify := fun pre ev s => if pre then s else s.observe ev
  invoke := invoke
  parked := fun s => s.parked
  setParked := fun p s => { s with parked := p }

def complete (s : Node) (id : Bytes) (result : Outcome) : Node :=
  Dispatcher.complete (hostWith id fun _ _ s => (.returned .invalid, s)) result s

def storeFailure (s : Node) (id : Bytes) (name : String) (key : Bytes) (e : Store.StoreError) :
    Outcome × Node :=
  let n := Bytes.ofString name
  match e with
  | .notInteger _ =>
    (.invalid, s.reply id Code.invalidArgument [n, key] (Bytes.ofString "Value is not an integer"))
  | .invalidKey _ | .invalidDatabase _ =>
    (.invalid, s.reply id Code.invalidArgument [n, key] (Bytes.ofString "Invalid key"))
  | .closed => (.failed, s.reply id Code.backend [n] (Bytes.ofString "Storage error"))

def registered (s : Node) (id : Bytes) : Bool := ((s.conn? id).map (·.session.registered)).getD false

def alreadyIn (s : Node) (id : Bytes) : Outcome × Node :=
  (.invalid, s.reply id Code.alreadyLoggedIn [Bytes.ofString "LOGIN"] (Bytes.ofString "You are already logged in"))

/-- Answer from what an offloaded command's work found: its outcome. -/
def finish (s : Node) (id : Bytes) : Finish → Outcome × Node
  | .replies rs => (.success, rs.foldl (fun s r => s.reply id r.1 r.2.1 r.2.2) s)
  | .storeFailed name key e => s.storeFailure id name key e
  | .login none => (.failed, s.reply id Code.loginFailed [Bytes.ofString "LOGIN"] (Bytes.ofString "Login failed"))
  | .login (some acct) =>
    if s.registered id then s.alreadyIn id
    else
      let s := s.modifySession id (·.register ⟨acct.name, acct.capabilities, acct.admin⟩)
      let caps := if acct.capabilities.isEmpty then Bytes.ofString "-" else acct.capabilities
      (.success, s.reply id Code.loggedIn [caps] (Bytes.ofString "Welcome " ++ acct.name))

def answer (s : Node) (id : Bytes) (found : Finish) : Outcome × Node :=
  match s.conn? id with
  | some c => if c.dead then (.failed, s) else s.finish id found
  | none => (.failed, s)

def answerWork (s : Node) (id : Bytes) (found : Finish) : Node :=
  let r := s.answer id found
  r.2.complete id r.1

def applyWork (s : Node) (id : Bytes) (found : Finish) : Node := (s.unlock id).answerWork id found

def busy (s : Node) (id : Bytes) (name : String) : Outcome × Node :=
  (.failed, s.reply id Code.serverBusy [Bytes.ofString name] (Bytes.ofString "Server busy, try again"))

/-- Offload `work` for a connection. It is refused when the connection is closing, and when the
pool does not take it; without a pool it runs at once and is applied; else it waits in the pool,
holding the connection's lock. -/
def offload (s : Node) (id : Bytes) (name : String) (work : Work) : Outcome × Node :=
  match s.conn? id with
  | none => s.busy id name
  | some c =>
    if c.closed then s.busy id name
    else
      let s := s.lock id
      match s.pool with
      | none =>
        let (found, store) := work.run s.services.hasher s.services.store s.services.accounts
        (.deferred, { s with services := { s.services with store := store } }.applyWork id found)
      | some p =>
        let j : Job := ⟨s.jobsMade, .completes true, true⟩
        match p.submit j with
        | (p, some _) => ({ s with pool := some p }.unlock id).busy id name
        | (p, none) =>
          (.deferred, { s with pool := some p, jobs := s.jobs ++ [(j.id, ⟨id, name, work⟩)], jobsMade := s.jobsMade + 1 })

def database (s : Node) (id : Bytes) : Bytes :=
  ((s.conn? id).map (·.session.database)).getD defaultDatabase

def storeCommand (s : Node) (id : Bytes) (name : String) (key : Bytes) (work : Bytes → Work) :
    Outcome × Node :=
  if !Store.validKey key then s.storeFailure id name key (.invalidKey key)
  else s.offload id name (work (s.database id))

def setStore (s : Node) (m : Store.Memory) : Node := s.modifyServices fun sv => { sv with store := m }

def login (s : Node) (id : Bytes) (name password : Bytes) : Outcome × Node :=
  if s.registered id then s.alreadyIn id
  else if s.services.accounts.isNone then
    (.failed, s.reply id Code.loginFailed [Bytes.ofString "LOGIN"] (Bytes.ofString "Login disabled"))
  else s.offload id "LOGIN" (.verify name password)

/-- Subscribe to a channel or a pattern. -/
def addSubscription (s : Node) (id : Bytes) (name : String) (target : Bytes) (pattern : Bool) :
    Outcome × Node :=
  let n := Bytes.ofString name
  match s.services.broker with
  | none => (.failed, s.reply id Code.handlerFailed [n] (Bytes.ofString "Pub/sub disabled"))
  | some b =>
    let ((count, err), b) := if pattern then b.psubscribe id target else b.subscribe id target
    let s := s.modifyServices fun sv => { sv with broker := some b }
    match err with
    | some .tooMany =>
      (.invalid, s.reply id Code.invalidArgument [n, target] (Bytes.ofString "Too many subscriptions"))
    | some _ => (.invalid, s.reply id Code.invalidArgument [n, target] (Bytes.ofString "Invalid channel"))
    | none => (.success, s.reply id Code.subscribed [target, Bytes.ofNat count] (Bytes.ofString "Subscribed"))

/-- PUBLISH channel message: deliver, then report how many deliveries there were. -/
def publish (s : Node) (id : Bytes) (channel message : Bytes) : Outcome × Node :=
  match s.services.broker with
  | none => (.failed, s.reply id Code.handlerFailed [Bytes.ofString "PUBLISH"] (Bytes.ofString "Pub/sub disabled"))
  | some b =>
    match b.publish channel message with
    | .error _ =>
      (.invalid, s.reply id Code.invalidArgument [Bytes.ofString "PUBLISH", channel] (Bytes.ofString "Invalid channel"))
    | .ok ds =>
      let s := ds.foldl
        (fun s d =>
          if d.pattern.isEmpty then s.send d.recipient (serverLine (Bytes.ofString "MESSAGE") [d.channel] d.message)
          else s.send d.recipient (serverLine (Bytes.ofString "PMESSAGE") [d.pattern, d.channel] d.message))
        s
      (.success, s.reply id Code.published [channel, Bytes.ofNat ds.length] (Bytes.ofString "Published"))

def modifyQueue (s : Node) (id : Bytes) (f : Queue → Queue) : Node :=
  s.modifyConn id fun c => { c with queue := f c.queue }

def queueOf (s : Node) (id : Bytes) : Queue := ((s.conn? id).map (·.queue)).getD default

/-- Run a built-in command for a connection with its normalized parameters. -/
def handle (s : Node) (id : Bytes) (h : Builtin) (args : List Bytes) : Outcome × Node :=
  let p0 := args.headD []
  let p1 := (args.drop 1).headD []
  let reply := fun (s : Node) (code : Code) (params : List String) (text : String) =>
    s.reply id code (params.map Bytes.ofString) (Bytes.ofString text)
  match h with
  | .login => s.login id p0 p1
  | .ping => (.success, s.send id (serverLine (Bytes.ofString "PONG") [] p0))
  | .pong => (.success, s)
  | .quit =>
    let reason :=
      if !args.isEmpty && !(Text.trimSpace p0).isEmpty then Bytes.ofString "Quit: " ++ p0
      else Bytes.ofString "Client quit"
    let s := s.send id (serverLine (Bytes.ofString "ERROR") [] (Bytes.ofString "Closing link: " ++ reason))
    (.success, s.quit id reason)
  | .whoami =>
    match s.conn? id with
    | none => (.failed, s)
    | some c =>
      let ident := c.session.identity
      let caps := if ident.capabilities.isEmpty then Bytes.ofString "-" else ident.capabilities
      let role := Bytes.ofString (if ident.admin then "admin" else "user")
      (.success, s.reply id Code.whoami [caps, role, c.session.database] c.session.id)
  | .use =>
    if !Store.validDatabase p0 then
      (.invalid, s.reply id Code.invalidArgument [Bytes.ofString "USE", p0] (Bytes.ofString "Invalid database name"))
    else
      let s := s.modifySession id fun ss => { ss with database := p0 }
      (.success, s.reply id Code.ok [Bytes.ofString "USE", p0] (Bytes.ofString "OK"))
  | .set => s.storeCommand id "SET" p0 fun db => .set db p0 p1
  | .get => s.storeCommand id "GET" p0 fun db => .get db p0
  | .del => s.storeCommand id "DEL" p0 fun db => .del db p0
  | .exists_ => s.storeCommand id "EXISTS" p0 fun db => .exists_ db p0
  | .incr =>
    if !Store.validKey p0 then s.storeFailure id "INCR" p0 (.invalidKey p0)
    else
      match (if args.length > 1 then Text.parseInt64? p1 else some 1) with
      | none =>
        (.invalid, s.reply id Code.invalidArgument [Bytes.ofString "INCR", p1]
          (Bytes.ofString "Delta is not an integer"))
      | some delta => s.storeCommand id "INCR" p0 fun db => .incr db p0 delta
  | .keys => s.offload id "KEYS" (.keys (s.database id) p0 s.services.keysLimit)
  | .publish => s.publish id p0 p1
  | .subscribe => s.addSubscription id "SUBSCRIBE" p0 false
  | .psubscribe => s.addSubscription id "PSUBSCRIBE" p0 true
  | .unsubscribe =>
    match s.services.broker with
    | none => (.failed, reply s Code.handlerFailed ["UNSUBSCRIBE"] "Pub/sub disabled")
    | some b =>
      let (n, b) := b.unsubscribe id p0
      let s := s.modifyServices fun sv => { sv with broker := some b }
      (.success, s.reply id Code.unsubscribed [p0, Bytes.ofNat n] (Bytes.ofString "Unsubscribed"))
  | .multi =>
    match (s.queueOf id).begin with
    | .error _ => (.invalid, reply s Code.multiActive ["MULTI"] "Transaction already active")
    | .ok q => (.success, reply (s.modifyQueue id fun _ => q) Code.multiStarted ["MULTI"] "OK")
  | .multiRun =>
    match (s.queueOf id).run with
    | .error _ => (.invalid, reply s Code.noMulti ["MRUN"] "No transaction in progress")
    | .ok (n, q) =>
      (.success, (s.modifyQueue id fun _ => q).reply id Code.multiRunning
        [Bytes.ofString "MRUN", Bytes.ofNat n] (Bytes.ofString "Running"))
  | .multiReset =>
    let (n, q) := (s.queueOf id).reset
    (.success, (s.modifyQueue id fun _ => q).reply id Code.multiReset
      [Bytes.ofString "MULTIRESET", Bytes.ofNat n] (Bytes.ofString "Discarded"))
  | .monitor =>
    match s.services.monitor with
    | none => (.failed, reply s Code.handlerFailed ["MONITOR"] "Monitor disabled")
    | some hub =>
      let s := s.modifyServices fun sv => { sv with monitor := some (hub.add id) }
      let s := s.modifySession id fun ss => { ss with monitor := true }
      (.success, reply s Code.monitoring ["MONITOR"] "Monitoring")
  | .flushdb => s.offload id "FLUSHDB" (.flush (s.database id))
  | .stats =>
    let lines := if s.services.statsOn then s.statLines else []
    let s := lines.foldl (fun s (n, v) => s.reply id Code.stats [n] v) s
    (.success, s.reply id Code.done [Bytes.ofString "STATS", Bytes.ofNat lines.length] (Bytes.ofString "End of STATS"))

def host (id : Bytes) : Host Node Builtin :=
  hostWith id fun h args s =>
    let (r, s) := s.handle id h args
    (.returned r, s)

def execute (s : Node) (id : Bytes) (name : Bytes) (params : List Bytes) : Node :=
  (s.dispatcher.execute (host id) name params s).2

end Node

end LineKv.Server
