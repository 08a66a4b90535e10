import LineKv.Bytes

/-!
Per-connection session state: who the client is once logged in, which database it uses, and the
keep-alive bookkeeping. Times are milliseconds on the server's clock. Activity is recorded when a
command runs.
-/

namespace LineKv

/-- What a login establishes. -/
structure Identity where
  account : Bytes
  capabilities : Bytes
  admin : Bool
  deriving Repr, Inhabited, DecidableEq

def Identity.has (id : Identity) (flag : UInt8) : Bool := id.capabilities.contains flag

def defaultDatabase : Bytes := Bytes.ofString "0"

/-- A session. -/
structure Session where
  id : Bytes
  remote : Bytes
  listener : Bytes
  connectedAt : Int
  identity : Identity
  registered : Bool
  lastActivity : Int
  /-- When the server next pings an idle client; unset until first needed. -/
  nextKeepAlive : Option Int
  /-- The outstanding server ping, empty when none is pending. -/
  pingToken : Bytes
  pingSent : Int
  database : Bytes
  monitor : Bool
  deriving Repr, Inhabited

def sessionId (k : Nat) : Bytes :=
  Bytes.toHex (Bytes.be32 k) ++ Bytes.ofString "-0000-4000-8000-000000000000"

namespace Session

/-- A fresh session opened at `now`. -/
def create (id remote listener : Bytes) (now : Int) : Session :=
  { id := id
    remote := remote
    listener := listener
    connectedAt := now
    identity := ⟨[], [], false⟩
    registered := false
    lastActivity := now
    nextKeepAlive := none
    pingToken := []
    pingSent := 0
    database := defaultDatabase
    monitor := false }

def register (s : Session) (id : Identity) : Session := { s with identity := id, registered := true }

def target (s : Session) : Bytes :=
  if !s.registered || s.identity.account.isEmpty then Bytes.ofString "*" else s.identity.account

def touch (s : Session) (now : Int) (keepAlive : Bool) (interval : Int) : Session :=
  { s with
    lastActivity := if keepAlive then s.lastActivity else now
    pingToken := []
    nextKeepAlive := if interval > 0 then some (now + interval) else s.nextKeepAlive }

def idle (s : Session) (now : Int) : Int := now - s.lastActivity

end Session

end LineKv
