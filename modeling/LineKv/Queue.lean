import LineKv.Fault
import LineKv.Line.Reply
import LineKv.Text.Case

/-!
Per-connection command queues: pending commands with keep-alives ahead, flood control through a
limiter, and the transaction buffer; a step does at most one unit of work, through a `Runner`.
-/

namespace LineKv

open Line

def multiName : Bytes := Bytes.ofString "MULTI"
def multiRunName : Bytes := Bytes.ofString "MRUN"
def multiResetName : Bytes := Bytes.ofString "MULTIRESET"

def isControl (name : Bytes) : Bool :=
  let n := Text.toUpper name
  n == multiName || n == multiRunName || n == multiResetName

/-- The transaction state of a connection. -/
inductive TxState where
  | idle
  | collecting
  | running
  deriving DecidableEq, Repr, Inhabited

def TxState.name : TxState → String
  | .idle => "idle" | .collecting => "collecting" | .running => "running"

/-- An accepted command: its upper-cased name and its parameters. -/
structure Pending where
  name : Bytes
  params : List Bytes
  deriving Repr, Inhabited

/-- A queued command, whether it is keep-alive traffic, and whether it only awaits its flood
rejection. -/
structure Entry where
  cmd : Pending
  keepAlive : Bool
  flooded : Bool
  deriving Repr, Inhabited

/-- Why the queue refused something. -/
inductive QueueError where
  /-- The queue is full; fatal for the connection. -/
  | recvQ (pending : Nat)
  | flood
  | multiActive (state : TxState)
  | noMulti (state : TxState)
  deriving Repr, DecidableEq

def QueueError.toFault : QueueError → Fault
  | .recvQ n => .of .queueFull (Bytes.ofString ("queue: RecvQ exceeded: " ++ toString n ++ " commands pending"))
  | .flood => .of .flood (Bytes.ofString "queue: excess flood")
  | .multiActive s => .of .multiActive (Bytes.ofString ("queue: transaction already active: state " ++ s.name))
  | .noMulti s => .of .noMulti (Bytes.ofString ("queue: no transaction collecting: state " ++ s.name))

/-- What a step did. -/
inductive StepOutcome where
  | idle
  | keepAlive
  | locked
  | replayed
  | queued
  | dispatched
  | rejected
  deriving DecidableEq, Repr

def StepOutcome.name : StepOutcome → String
  | .idle => "idle" | .keepAlive => "keepalive" | .locked => "locked" | .replayed => "replayed"
  | .queued => "queued" | .dispatched => "dispatched" | .rejected => "rejected"

/-- A flood limiter (`rate.Limiter`), asked once about each ordinary command. Its answers follow
the wall clock between calls, which the loop does not see, so a limiter is given by the answer
each call gets in turn. -/
structure Limiter where
  asked : Nat
  answer : Nat → Bool

def Limiter.allow (l : Limiter) : Bool × Limiter := (l.answer l.asked, { l with asked := l.asked + 1 })

def Limiter.burstOnly (burst : Nat) : Limiter := ⟨0, fun k => decide (k < burst)⟩

def Limiter.wait (l : Limiter) (answer : Nat → Bool) : Limiter := { l with answer := answer }

/-- A connection's queue. -/
structure Queue where
  maxPending : Nat
  /-- The flood limiter; `none` when flood control is off. -/
  limiter : Option Limiter
  pending : List Entry
  buffer : List Pending
  state : TxState
  deriving Inhabited

/-- What a step needs from the world `W` that holds the queue. -/
structure Runner (W : Type) where
  queue : W → Queue
  setQueue : Queue → W → W
  execute : Bytes → List Bytes → W → W
  reply : Code → List Bytes → Bytes → W → W

namespace Queue

def create (maxPending : Int) (floodRate : Rat) (burst : Int) (newLimiter : Rat → Nat → Limiter) :
    Queue :=
  { maxPending := if maxPending ≤ 0 then 256 else maxPending.toNat,
    limiter := if floodRate > 0 then some (newLimiter floodRate (if burst ≤ 0 then 1 else burst.toNat))
      else none,
    pending := [], buffer := [], state := .idle }

/-- Accept a command, or refuse it. A flooded command still takes its place in the queue. -/
def enqueue (q : Queue) (name : Bytes) (params : List Bytes) (keepAlive : Bool) :
    Queue × Option QueueError :=
  if q.pending.length ≥ q.maxPending then (q, some (.recvQ q.pending.length))
  else
    let name := Text.toUpper name
    if keepAlive then
      let ahead := q.pending.takeWhile (·.keepAlive)
      let behind := q.pending.dropWhile (·.keepAlive)
      ({ q with pending := ahead ++ ⟨⟨name, params⟩, true, false⟩ :: behind }, none)
    else
      match q.limiter with
      | none => ({ q with pending := q.pending ++ [⟨⟨name, params⟩, false, false⟩] }, none)
      | some l =>
        if l.allow.1 then
          ({ q with limiter := some l.allow.2, pending := q.pending ++ [⟨⟨name, params⟩, false, false⟩] }, none)
        else ({ q with limiter := some l.allow.2, pending := q.pending ++ [⟨⟨name, []⟩, false, true⟩] }, some .flood)

def elapse (q : Queue) (answer : Nat → Bool) : Queue := { q with limiter := q.limiter.map (·.wait answer) }

def begin (q : Queue) : Except QueueError Queue :=
  if q.state = .idle then .ok { q with state := .collecting } else .error (.multiActive q.state)

def run (q : Queue) : Except QueueError (Nat × Queue) :=
  if q.state ≠ .collecting then .error (.noMulti q.state)
  else if q.buffer.isEmpty then .ok (0, { q with state := .idle })
  else .ok (q.buffer.length, { q with state := .running })

def reset (q : Queue) : Nat × Queue := (q.buffer.length, { q with buffer := [], state := .idle })

def discard (q : Queue) : Queue := { q with pending := [], buffer := [], state := .idle }

def snapshot (q : Queue) : List Pending := (q.pending.filter (!·.flooded)).map (·.cmd)

def replaying (q : Queue) : Bool := q.state = .running && !q.buffer.isEmpty

end Queue

variable {W : Type}

/-- Take the next pending command in order: reject it, buffer it, or run it. -/
def Runner.dispatchNext (r : Runner W) (q : Queue) (w : W) : StepOutcome × W :=
  let q := if q.state = .running then { q with state := .idle } else q
  match q.pending with
  | [] => (.idle, r.setQueue q w)
  | e :: rest =>
    let q := { q with pending := rest }
    if e.flooded then
      (.rejected, r.reply Code.flood [e.cmd.name] (Bytes.ofString "Excess flood") (r.setQueue q w))
    else if q.state = .collecting && !isControl e.cmd.name then
      (.queued, r.reply Code.queued [e.cmd.name] (Bytes.ofString "QUEUED")
        (r.setQueue { q with buffer := q.buffer ++ [e.cmd] } w))
    else (.dispatched, r.execute e.cmd.name e.cmd.params (r.setQueue q w))

def Runner.ordered (r : Runner W) (locked : Bool) (q : Queue) (w : W) : StepOutcome × W :=
  if locked then (.locked, w)
  else if q.replaying then
    match q.buffer with
    | c :: more =>
      let q := { q with buffer := more, state := if more.isEmpty then .idle else q.state }
      (.replayed, r.execute c.name c.params (r.setQueue q w))
    | [] => r.dispatchNext q w
  else r.dispatchNext q w

/-- Perform at most one unit of work for the connection. -/
def Runner.step (r : Runner W) (locked : Bool) (w : W) : StepOutcome × W :=
  let q := r.queue w
  if q.pending.isEmpty && !q.replaying then
    (.idle, r.setQueue (if q.state = .running then { q with state := .idle } else q) w)
  else
    match q.pending with
    | e :: rest =>
      if e.keepAlive then
        (.keepAlive, r.execute e.cmd.name e.cmd.params (r.setQueue { q with pending := rest } w))
      else r.ordered locked q w
    | [] => r.ordered locked q w

end LineKv
