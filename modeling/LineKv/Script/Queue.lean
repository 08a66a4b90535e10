import LineKv.Script.Value
import LineKv.Queue
import LineKv.Text.Space

/-!
Scripts over one command queue. The bench executor records each command it runs as its name and
parameters joined by spaces, and drives the transaction state for the three control commands,
answering as the server does.
-/

namespace LineKv.Script

open Line

/-- The queue bench: the queue, and what the current operation ran and replied. -/
structure QueueBench where
  queue : Queue
  ran : List Bytes
  replies : List Bytes

def benchReply (code : Code) (params : List Bytes) (text : Bytes) : Bytes :=
  (reply code [] params text).dropLast.dropLast

/-- Run a command on the bench: record it, and drive the transaction for control commands. -/
def queueExecute (name : Bytes) (params : List Bytes) (b : QueueBench) : QueueBench :=
  let b := { b with ran := b.ran ++ [Text.trimSpace (Bytes.joinWith [32] (name :: params))] }
  let say := fun (line : Bytes) (b : QueueBench) => { b with replies := b.replies ++ [line] }
  if name == multiName then
    match b.queue.begin with
    | .ok q => { b with queue := q }
    | .error e => say (benchReply Code.multiActive [multiName] (QueueError.toFault e).message) b
  else if name == multiRunName then
    match b.queue.run with
    | .ok (n, q) => say (benchReply Code.multiRunning [multiRunName, Bytes.ofNat n] (Bytes.ofString "Running"))
        { b with queue := q }
    | .error e => say (benchReply Code.noMulti [multiRunName] (QueueError.toFault e).message) b
  else if name == multiResetName then
    let (n, q) := b.queue.reset
    say (benchReply Code.multiReset [multiResetName, Bytes.ofNat n] (Bytes.ofString "Discarded"))
      { b with queue := q }
  else b

def queueRunner : Runner QueueBench where
  queue b := b.queue
  setQueue q b := { b with queue := q }
  execute := queueExecute
  reply code params text b := { b with replies := b.replies ++ [benchReply code params text] }

/-- One queue operation: its own answer fields and the bench after it. -/
def queueStep (b : QueueBench) (op : Value) : List (String × Value) × QueueBench :=
  let kind := op.text "do"
  let is := fun (s : String) => kind == Bytes.ofString s
  let err := fun (e : Option QueueError) => Value.ofOption (fun x => faultValue (QueueError.toFault x)) e
  if is "enqueue" then
    let (q, e) := b.queue.enqueue (op.text "name") (op.texts "params") (op.flag "keepalive")
    ([("err", err e)], { b with queue := q })
  else if is "step" then
    let (outcome, b) := queueRunner.step (op.flag "locked") b
    ([("outcome", .ofString outcome.name)], b)
  else if is "begin" then
    match b.queue.begin with
    | .ok q => ([("err", .null)], { b with queue := q })
    | .error e => ([("err", err (some e))], b)
  else if is "run" then
    match b.queue.run with
    | .ok (n, q) => ([("n", .ofNat n), ("err", .null)], { b with queue := q })
    | .error e => ([("n", .ofNat 0), ("err", err (some e))], b)
  else if is "reset" then
    let (n, q) := b.queue.reset
    ([("n", .ofNat n)], { b with queue := q })
  else if is "discard" then ([], { b with queue := b.queue.discard })
  else if is "snapshot" then
    ([("pending", .arr (b.queue.snapshot.map fun p => .obj [("name", .str p.name), ("params", .ofTexts p.params)]))], b)
  else if is "is_control" then ([("control", .bool (isControl (op.text "name")))], b)
  else ([], b)

def runQueue (req : Value) : Value :=
  let q := Queue.create (req.int "max_pending" 0) (req.rat "flood_rate" 0) (req.int "flood_burst" 0)
    fun _ burst => Limiter.burstOnly burst
  let (steps, _) := (req.list "ops").foldl (fun (acc : List Value × QueueBench) op =>
    let (fields, b) := queueStep { acc.2 with ran := [], replies := [] } op
    (acc.1 ++ [.obj (fields ++ [("ran", .ofTexts b.ran), ("replies", .ofTexts b.replies),
      ("state", .ofString b.queue.state.name), ("len", .ofNat b.queue.pending.length),
      ("buffered", .ofNat b.queue.buffer.length)])], b)) ([], ⟨q, [], []⟩)
  .obj [("steps", .arr steps)]

end LineKv.Script
