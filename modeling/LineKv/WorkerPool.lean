import LineKv.Fault

/-!
A worker pool: a fixed number of workers taking jobs from a bounded queue, as a transition system
of atomic steps. The caller's calls are steps: starting the workers, submitting a job, stopping,
and cancelling the context the workers watch.
-/

namespace LineKv

/-- How a job runs. -/
inductive JobRun where
  /-- Completes, returning a completion or nothing. -/
  | completes (posts : Bool)
  /-- Panics with a value. -/
  | panics (message : Bytes)
  /-- Holds its worker until the jobs are released, then completes with a completion. -/
  | blocks
  deriving Repr, DecidableEq, Inhabited

/-- A submitted job: its number, how it runs, and whether it has a failure handler. -/
structure Job where
  id : Nat
  run : JobRun
  handlesFailure : Bool
  deriving Repr, DecidableEq, Inhabited

/-- What a finished job posts back. -/
inductive Completion where
  | applied (job : Nat)
  | failed (job : Nat) (err : Fault)
  deriving Repr, DecidableEq

/-- Why the pool refused a call. -/
inductive PoolError where
  | notStarted
  | stopped
  | alreadyStarted
  | queueFull
  | nilPost
  | stopTimeout
  deriving Repr, DecidableEq

def PoolError.toFault : PoolError → Fault
  | .notStarted => .of .poolNotStarted (Bytes.ofString "worker: pool not started")
  | .stopped => .of .poolStopped (Bytes.ofString "worker: pool stopped")
  | .alreadyStarted => .of .poolAlreadyStarted (Bytes.ofString "worker: pool already started")
  | .queueFull => .of .poolQueueFull (Bytes.ofString "worker: queue full")
  | .nilPost => .of .nilPost (Bytes.ofString "worker: completion sink is nil")
  | .stopTimeout => .of .stopTimeout (Bytes.ofString "worker: timeout waiting for workers to stop")

def panicFault (v : Bytes) : Fault := .of .jobPanic (Bytes.ofString "worker: job panicked: " ++ v)

namespace Job

def result (j : Job) : Option Completion × Option Fault :=
  match j.run with
  | .completes true | .blocks => (some (.applied j.id), none)
  | .completes false => (none, none)
  | .panics v => (none, some (panicFault v))

def posts (j : Job) : List Completion :=
  match j.result with
  | (_, some err) => if j.handlesFailure then [.failed j.id err] else []
  | (c, none) => c.toList

def panics (j : Job) : Bool := j.result.2.isSome

end Job

/-- A worker pool: its sizes, lifecycle flags, queue, workers and counters. -/
structure WorkerPool where
  workers : Nat
  queueSize : Nat
  started : Bool
  /-- Stopped, and its queue closed. -/
  stopped : Bool
  /-- The context the workers watch is cancelled. -/
  cancelled : Bool
  /-- A Stop that closed the queue waits for the workers to exit. -/
  stopping : Bool
  /-- Jobs waiting in the queue, oldest first. -/
  queue : List Job
  /-- Workers waiting for a job. -/
  idle : Nat
  /-- Jobs in progress, each on a worker of its own. -/
  running : List Job
  posted : List Completion
  submitted : Nat
  processed : Nat
  failed : Nat
  dropped : Nat
  deriving Repr, DecidableEq

/-- A snapshot of the pool's sizes and counters. -/
structure PoolStats where
  workers : Nat
  queueSize : Nat
  queueDepth : Nat
  submitted : Nat
  processed : Nat
  failed : Nat
  dropped : Nat
  deriving Repr, DecidableEq

/-- A step of the pool, with what the call returned where it is a call. -/
inductive PoolEvent where
  /-- The caller starts the workers. -/
  | start (answer : Option PoolError)
  /-- The caller submits a job. -/
  | submit (job : Job) (answer : Option PoolError)
  /-- The locked part of a Stop: it returns at once unless it closes the queue. -/
  | stop
  /-- A Stop that closed the queue returns. -/
  | stopReturns (answer : Option PoolError)
  /-- The caller cancels the workers' context. -/
  | cancel
  /-- An idle worker takes a queued job. -/
  | take (job : Job)
  /-- A worker finishes a job in progress. -/
  | finish (job : Job)
  /-- An idle worker returns. -/
  | exit
  deriving Repr, DecidableEq

namespace WorkerPool

def create (workers queueSize : Int) : WorkerPool :=
  { workers := if workers ≤ 0 then 4 else workers.toNat,
    queueSize := if queueSize ≤ 0 then 256 else queueSize.toNat,
    started := false, stopped := false, cancelled := false, stopping := false, queue := [], idle := 0,
    running := [], posted := [], submitted := 0, processed := 0, failed := 0, dropped := 0 }

def start (p : WorkerPool) : WorkerPool × Option PoolError :=
  if p.started then (p, some .alreadyStarted) else ({ p with started := true, idle := p.workers }, none)

def submit (p : WorkerPool) (j : Job) : WorkerPool × Option PoolError :=
  if !p.started then (p, some .notStarted)
  else if p.stopped then (p, some .stopped)
  else if p.queue.length < p.queueSize then ({ p with queue := p.queue ++ [j], submitted := p.submitted + 1 }, none)
  else ({ p with dropped := p.dropped + 1 }, some .queueFull)

def stop (p : WorkerPool) : WorkerPool :=
  if !p.started || p.stopped then p else { p with stopped := true, stopping := true }

def drained (p : WorkerPool) : Bool := p.idle == 0 && p.running.isEmpty

def take (p : WorkerPool) : Option (Job × WorkerPool) :=
  match p.queue with
  | [] => none
  | j :: rest =>
    if 0 < p.idle then some (j, { p with idle := p.idle - 1, queue := rest, running := p.running ++ [j] })
    else none

def finish (p : WorkerPool) (j : Job) : WorkerPool :=
  { p with
    running := p.running.erase j, idle := p.idle + 1, processed := p.processed + 1,
    failed := if j.panics then p.failed + 1 else p.failed, posted := p.posted ++ j.posts }

def mayExit (p : WorkerPool) : Bool := 0 < p.idle && (p.cancelled || p.stopped && p.queue.isEmpty)

/-- The pool after one step, or `none` when the step cannot happen: the call returned otherwise, or
the worker's move is not open. -/
def step (p : WorkerPool) : PoolEvent → Option WorkerPool
  | .start a => if (p.start).2 = a then some p.start.1 else none
  | .submit j a => if (p.submit j).2 = a then some (p.submit j).1 else none
  | .stop => some p.stop
  | .stopReturns a =>
    -- the timer may fire first at any time; the workers' exit is seen only once all have exited
    if p.stopping && (a == some .stopTimeout || a == none && p.drained) then some { p with stopping := false }
    else none
  | .cancel => some { p with cancelled := true }
  | .take j =>
    match p.take with
    | some (j', p') => if j' = j then some p' else none
    | none => none
  | .finish j => if j ∈ p.running then some (p.finish j) else none
  | .exit => if p.mayExit then some { p with idle := p.idle - 1 } else none

/-- Steps from `p` one after another, ending in `r`. -/
inductive Run : WorkerPool → List PoolEvent → WorkerPool → Prop where
  | nil (p : WorkerPool) : Run p [] p
  | cons {p q r : WorkerPool} {e : PoolEvent} {es : List PoolEvent} :
      p.step e = some q → Run q es r → Run p (e :: es) r

def replay (p : WorkerPool) : List PoolEvent → Option WorkerPool
  | [] => some p
  | e :: es => (p.step e).bind fun q => q.replay es

theorem run_iff_replay {p r : WorkerPool} {es : List PoolEvent} : Run p es r ↔ p.replay es = some r := by
  induction es generalizing p with
  | nil =>
    constructor
    · rintro ⟨⟩
      rfl
    · intro h
      cases h
      exact .nil _
  | cons e es ih =>
    constructor
    · rintro (_ | ⟨hs, hr⟩)
      simp [replay, hs, ih.1 hr]
    · intro h
      obtain ⟨q, hs, hq⟩ := Option.bind_eq_some_iff.1 h
      exact .cons hs (ih.2 hq)

instance (p : WorkerPool) (es : List PoolEvent) (r : WorkerPool) : Decidable (Run p es r) :=
  decidable_of_iff _ run_iff_replay.symm

def stats (p : WorkerPool) : PoolStats :=
  ⟨p.workers, p.queueSize, p.queue.length, p.submitted, p.processed, p.failed, p.dropped⟩

def settleQueue (holds : Job → Bool) : Nat → WorkerPool → WorkerPool
  | 0, p => p
  | n + 1, p =>
    match p.take with
    | none => p
    | some (j, p') => settleQueue holds n (if holds j then p' else p'.finish j)

def exitIdle (p : WorkerPool) : WorkerPool :=
  if p.stopped && p.queue.isEmpty then { p with idle := 0 } else p

end WorkerPool

/-- The scripted pool: the pool, and whether the jobs that block have been released. -/
structure PoolBench where
  pool : WorkerPool
  released : Bool
  deriving Repr

namespace PoolBench

def create (workers queueSize : Int) : PoolBench := ⟨WorkerPool.create workers queueSize, false⟩

def holds (b : PoolBench) (j : Job) : Bool := j.run == .blocks && !b.released

def settle (b : PoolBench) (p : WorkerPool) : PoolBench :=
  { b with pool := (p.settleQueue b.holds p.queue.length).exitIdle }

def start (b : PoolBench) : PoolBench × Option PoolError :=
  (b.settle b.pool.start.1, b.pool.start.2)

def submit (b : PoolBench) (j : Job) : PoolBench × Option PoolError :=
  (b.settle (b.pool.submit j).1, (b.pool.submit j).2)

def release (b : PoolBench) : PoolBench :=
  let b := { b with released := true }
  b.settle (b.pool.running.foldl WorkerPool.finish b.pool)

def stop (b : PoolBench) : PoolBench × Option PoolError :=
  if !b.pool.started || b.pool.stopped then (b, none)
  else
    let b := b.settle b.pool.stop
    ({ b with pool := { b.pool with stopping := false } }, if b.pool.drained then none else some .stopTimeout)

end PoolBench

end LineKv
