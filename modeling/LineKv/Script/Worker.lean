import LineKv.Script.Value
import LineKv.WorkerPool

/-!
Scripts over a worker pool. Job `i` is submitted by operation `i`; it posts `job<i> applied`, or
`job<i> failed: <error>` when it panics with `job exploded`.
-/

namespace LineKv.Script

def completionText : Completion → Bytes
  | .applied i => Bytes.ofString ("job" ++ toString i ++ " applied")
  | .failed i err => Bytes.ofString ("job" ++ toString i ++ " failed: ") ++ err.message

def jobRun (kind : Bytes) : JobRun :=
  if kind == Bytes.ofString "nil" then .completes false
  else if kind == Bytes.ofString "panic" then .panics (Bytes.ofString "job exploded")
  else if kind == Bytes.ofString "block" then .blocks
  else .completes true

/-- One pool operation, numbered `i`: its answer and the pool after it. Every job has a failure
handler. -/
def poolStep (b : PoolBench) (i : Nat) (op : Value) : Value × PoolBench :=
  let kind := op.text "do"
  let is := fun (s : String) => kind == Bytes.ofString s
  let err := fun (e : Option PoolError) => Value.ofOption (fun x => faultValue (PoolError.toFault x)) e
  if is "start" then
    let (b, e) := b.start
    (.obj [("err", err e)], b)
  else if is "submit" then
    let (b, e) := b.submit ⟨i, jobRun (op.text "job"), true⟩
    (.obj [("err", err e)], b)
  else if is "release" then (.obj [], b.release)
  else if is "stop" then
    let (b, e) := b.stop
    (.obj [("err", err e), ("posted", .ofTexts (Bytes.sort (b.pool.posted.map completionText)))], b)
  else if is "stats" then
    let s := b.pool.stats
    (.obj [("stats", .obj [("workers", .ofNat s.workers), ("queue_size", .ofNat s.queueSize),
      ("queue_depth", .ofNat s.queueDepth), ("submitted", .ofNat s.submitted),
      ("dropped", .ofNat s.dropped)])], b)
  else (.obj [], b)

def runWorker (req : Value) : Value :=
  if req.flag "nil_post" then faultValue PoolError.nilPost.toFault
  else
    let pool := PoolBench.create (req.int "workers" 1) (req.int "queue" 1)
    let (steps, _, _) := (req.list "ops").foldl (fun (acc : List Value × PoolBench × Nat) op =>
      let (answer, p) := poolStep acc.2.1 acc.2.2 op
      (acc.1 ++ [answer], p, acc.2.2 + 1)) ([], pool, 0)
    .obj [("steps", .arr steps)]

end LineKv.Script
