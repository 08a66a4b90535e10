import Mathlib
import LineKv.Proofs.PoolRuns

/-!
What every run of the worker pool keeps, read off its steps. Main statement:
`pool_runs_keep_books`.
-/

namespace LineKv

namespace PoolEvent

/-- The job a Submit accepted. -/
def acceptedJob? : PoolEvent → Option Job
  | .submit j none => some j
  | _ => none

/-- The job a worker took. -/
def takenJob? : PoolEvent → Option Job
  | .take j => some j
  | _ => none

/-- The job a worker finished. -/
def finishedJob? : PoolEvent → Option Job
  | .finish j => some j
  | _ => none

/-- A Submit refused because the queue was full. -/
def refusedFull : PoolEvent → Bool
  | .submit _ (some .queueFull) => true
  | _ => false

def accepted (l : List PoolEvent) : List Job := l.filterMap acceptedJob?

def taken (l : List PoolEvent) : List Job := l.filterMap takenJob?

def finished (l : List PoolEvent) : List Job := l.filterMap finishedJob?

def refusals (l : List PoolEvent) : Nat := l.countP refusedFull

variable {l l' : List PoolEvent} {e : PoolEvent}

@[simp] theorem accepted_nil : accepted [] = [] := rfl
@[simp] theorem taken_nil : taken [] = [] := rfl
@[simp] theorem finished_nil : finished [] = [] := rfl
@[simp] theorem refusals_nil : refusals [] = 0 := rfl

@[simp] theorem accepted_append : accepted (l ++ l') = accepted l ++ accepted l' := List.filterMap_append
@[simp] theorem taken_append : taken (l ++ l') = taken l ++ taken l' := List.filterMap_append
@[simp] theorem finished_append : finished (l ++ l') = finished l ++ finished l' := List.filterMap_append
@[simp] theorem refusals_append : refusals (l ++ l') = refusals l + refusals l' := List.countP_append

@[simp] theorem accepted_singleton : accepted [e] = (acceptedJob? e).toList := by
  simp only [accepted, List.filterMap_cons, List.filterMap_nil]
  cases acceptedJob? e <;> rfl

@[simp] theorem taken_singleton : taken [e] = (takenJob? e).toList := by
  simp only [taken, List.filterMap_cons, List.filterMap_nil]
  cases takenJob? e <;> rfl

@[simp] theorem finished_singleton : finished [e] = (finishedJob? e).toList := by
  simp only [finished, List.filterMap_cons, List.filterMap_nil]
  cases finishedJob? e <;> rfl

@[simp] theorem refusals_singleton : refusals [e] = if refusedFull e then 1 else 0 := by
  simp only [refusals, List.countP_cons, List.countP_nil, Nat.zero_add]

end PoolEvent

open PoolEvent

theorem pair_sublist_snoc {α : Type} {x y e : α} {l : List α} :
    [x, y].Sublist (l ++ [e]) ↔ [x, y].Sublist l ∨ (e = y ∧ x ∈ l) := by
  rw [List.sublist_append_iff]
  constructor
  · rintro ⟨l₁, l₂, hl, h₁, h₂⟩
    rcases List.sublist_singleton.1 h₂ with rfl | rfl
    · rw [List.append_nil] at hl
      exact .inl (hl ▸ h₁)
    · -- the pair ends in the last step, so that step is `y` and `x` came before it
      have hl' : [x] ++ [y] = l₁ ++ [e] := hl
      obtain ⟨rfl, hy⟩ := List.append_inj' hl' rfl
      exact .inr ⟨(List.singleton_inj.1 hy).symm, List.singleton_sublist.1 h₁⟩
  · rintro (h | ⟨rfl, hx⟩)
    · exact ⟨[x, y], [], by simp, h, List.nil_sublist _⟩
    · exact ⟨[x], [e], rfl, List.singleton_sublist.2 hx, List.Sublist.refl _⟩

namespace WorkerPool

/-- The jobs of a run `l` as the pool holds them: queued, in progress, posted and counted. -/
structure Flow (l : List PoolEvent) (p : WorkerPool) : Prop where
  /-- The taken jobs, then the queued ones, are the accepted ones. -/
  queue : taken l ++ p.queue = accepted l
  /-- The finished jobs and those in progress are the taken ones, each once. -/
  running : (finished l ++ p.running).Perm (taken l)
  posted : p.posted = (finished l).flatMap Job.posts
  submitted : p.submitted = (accepted l).length
  processed : p.processed = (finished l).length
  failed : p.failed = ((finished l).filter Job.panics).length
  dropped : p.dropped = refusals l

/-- What the pool shows of a run `l`, against a queue of `size`: its jobs, and a lifecycle that
follows the calls. -/
structure Books (size : Nat) (l : List PoolEvent) (p : WorkerPool) : Prop extends Flow l p where
  queueSize : p.queueSize = size
  bound : p.queue.length ≤ p.queueSize
  started : p.started = true ↔ PoolEvent.start none ∈ l
  stopped : p.stopped = true ↔ [PoolEvent.start none, .stop].Sublist l

variable {s : Nat} {l : List PoolEvent} {p p' : WorkerPool} {e : PoolEvent} {j : Job}
  {a : Option PoolError}

/-! ### Jobs, step by step -/

theorem Flow.withLifecycle (hf : Flow l p) (st sp c x : Bool) (k : Nat) :
    Flow l { p with started := st, stopped := sp, cancelled := c, stopping := x, idle := k } :=
  ⟨hf.1, hf.2, hf.3, hf.4, hf.5, hf.6, hf.7⟩

theorem Flow.uncounted (hf : Flow l p) (ha : acceptedJob? e = none) (hk : takenJob? e = none)
    (hn : finishedJob? e = none) (hr : refusedFull e = false) : Flow (l ++ [e]) p where
  queue := by simp [ha, hk, hf.queue]
  running := by simpa [hk, hn] using hf.running
  posted := by simp [hn, hf.posted]
  submitted := by simp [ha, hf.submitted]
  processed := by simp [hn, hf.processed]
  failed := by simp [hn, hf.failed]
  dropped := by simp [hr, hf.dropped]

theorem Flow.accept (hf : Flow l p) :
    Flow (l ++ [.submit j none]) { p with queue := p.queue ++ [j], submitted := p.submitted + 1 } where
  queue := by simp [acceptedJob?, takenJob?, ← hf.queue]
  running := by simpa [takenJob?, finishedJob?] using hf.running
  posted := by simp [finishedJob?, hf.posted]
  submitted := by simp [acceptedJob?, hf.submitted]
  processed := by simp [finishedJob?, hf.processed]
  failed := by simp [finishedJob?, hf.failed]
  dropped := by simp [refusedFull, hf.dropped]

theorem Flow.refuseFull (hf : Flow l p) :
    Flow (l ++ [.submit j (some .queueFull)]) { p with dropped := p.dropped + 1 } where
  queue := by simp [acceptedJob?, takenJob?, hf.queue]
  running := by simpa [takenJob?, finishedJob?] using hf.running
  posted := by simp [finishedJob?, hf.posted]
  submitted := by simp [acceptedJob?, hf.submitted]
  processed := by simp [finishedJob?, hf.processed]
  failed := by simp [finishedJob?, hf.failed]
  dropped := by simp [refusedFull, hf.dropped]

theorem Flow.take (hf : Flow l p) {rest : List Job} (hq : p.queue = j :: rest) (k : Nat) :
    Flow (l ++ [.take j]) { p with idle := k, queue := rest, running := p.running ++ [j] } where
  queue := by simp [acceptedJob?, takenJob?, ← hf.queue, hq]
  running := by simpa [takenJob?, finishedJob?, ← List.append_assoc] using hf.running.append_right [j]
  posted := by simp [finishedJob?, hf.posted]
  submitted := by simp [acceptedJob?, hf.submitted]
  processed := by simp [finishedJob?, hf.processed]
  failed := by simp [finishedJob?, hf.failed]
  dropped := by simp [refusedFull, hf.dropped]

theorem Flow.finish (hf : Flow l p) (hj : j ∈ p.running) : Flow (l ++ [.finish j]) (p.finish j) where
  queue := by simp [acceptedJob?, takenJob?, WorkerPool.finish, hf.queue]
  running := by
    have hperm : (finished l ++ j :: p.running.erase j).Perm (finished l ++ p.running) :=
      (List.perm_cons_erase hj).symm.append_left _
    simpa [takenJob?, finishedJob?, WorkerPool.finish] using hperm.trans hf.running
  posted := by simp [finishedJob?, WorkerPool.finish, hf.posted]
  submitted := by simp [acceptedJob?, WorkerPool.finish, hf.submitted]
  processed := by simp [finishedJob?, WorkerPool.finish, hf.processed]
  failed := by
    by_cases hp : j.panics <;> simp [finishedJob?, WorkerPool.finish, hf.failed, hp]
  dropped := by simp [refusedFull, WorkerPool.finish, hf.dropped]

/-! ### The lifecycle, step by step -/

theorem books_create (w q : Int) : Books (create w q).queueSize [] (create w q) where
  queue := rfl
  running := by simp [create]
  posted := rfl
  submitted := rfl
  processed := rfl
  failed := rfl
  dropped := rfl
  queueSize := rfl
  bound := by simp [create]
  started := by simp [create]
  stopped := by simp [create]

theorem Books.started_of_stopped (hb : Books s l p) (h : p.stopped = true) : p.started = true :=
  hb.started.2 ((hb.stopped.1 h).subset (by simp))

theorem Books.ofFlow (hb : Books s l p) (hs : e ≠ .start none) (ht : e ≠ .stop) (hf : Flow (l ++ [e]) p')
    (hq : p'.queueSize = p.queueSize) (hbound : p'.queue.length ≤ p'.queueSize)
    (hst : p'.started = p.started) (hsp : p'.stopped = p.stopped) : Books s (l ++ [e]) p' where
  toFlow := hf
  queueSize := hq.trans hb.queueSize
  bound := hbound
  started := by simp [hst, hb.started, Ne.symm hs]
  stopped := by simp [pair_sublist_snoc, hsp, hb.stopped, ht]

theorem Books.start (hb : Books s l p) (hs : p.step (.start a) = some p') : Books s (l ++ [.start a]) p' := by
  obtain ⟨rfl, rfl⟩ := step_start.1 hs
  unfold WorkerPool.start
  by_cases hp : p.started
  · simp only [hp, if_true]
    exact hb.ofFlow (by simp) (by simp) (hb.toFlow.uncounted rfl rfl rfl rfl) rfl hb.bound rfl rfl
  · -- the first successful Start: nothing had stopped before it
    have hstop : p.stopped = false := by
      cases h : p.stopped
      · rfl
      · exact absurd (hb.started_of_stopped h) hp
    simp only [hp, Bool.false_eq_true, if_false]
    exact
      { toFlow := (hb.toFlow.uncounted rfl rfl rfl rfl).withLifecycle true p.stopped p.cancelled p.stopping p.workers
        queueSize := hb.queueSize
        bound := hb.bound
        started := by simp
        stopped := by simp [pair_sublist_snoc, hstop, ← hb.stopped] }

theorem Books.submit (hb : Books s l p) (hs : p.step (.submit j a) = some p') :
    Books s (l ++ [.submit j a]) p' := by
  obtain ⟨rfl, rfl⟩ := step_submit.1 hs
  unfold WorkerPool.submit
  by_cases hst : p.started
  · by_cases hsp : p.stopped
    · rw [if_neg (by simp [hst]), if_pos hsp]
      exact hb.ofFlow (by simp) (by simp) (hb.toFlow.uncounted rfl rfl rfl rfl) rfl hb.bound rfl rfl
    · by_cases hroom : p.queue.length < p.queueSize
      · rw [if_neg (by simp [hst]), if_neg hsp, if_pos hroom]
        exact hb.ofFlow (by simp) (by simp) hb.toFlow.accept rfl (by simpa using hroom) rfl rfl
      · rw [if_neg (by simp [hst]), if_neg hsp, if_neg hroom]
        exact hb.ofFlow (by simp) (by simp) hb.toFlow.refuseFull rfl hb.bound rfl rfl
  · rw [if_pos (by simp [hst])]
    exact hb.ofFlow (by simp) (by simp) (hb.toFlow.uncounted rfl rfl rfl rfl) rfl hb.bound rfl rfl

theorem Books.stop (hb : Books s l p) (hs : p.step .stop = some p') : Books s (l ++ [.stop]) p' := by
  obtain rfl := step_stop.1 hs
  have hf : Flow (l ++ [.stop]) p := hb.toFlow.uncounted rfl rfl rfl rfl
  unfold WorkerPool.stop
  by_cases hquiet : (!p.started || p.stopped) = true
  · -- before a successful Start, or once stopped, a Stop changes nothing
    simp only [hquiet, if_true]
    refine { toFlow := hf, queueSize := hb.queueSize, bound := hb.bound,
             started := by simp [hb.started], stopped := ?_ }
    rcases Bool.or_eq_true_iff.1 hquiet with hns | hsp
    · have hnot : PoolEvent.start none ∉ l := fun h => by simp [hb.started.2 h] at hns
      simp [pair_sublist_snoc, hb.stopped, hnot]
    · simp [hsp, ← hb.stopped]
  · simp only [hquiet, Bool.false_eq_true, if_false]
    have hst : p.started = true := by simp_all
    exact
      { toFlow := hf.withLifecycle p.started true p.cancelled true p.idle
        queueSize := hb.queueSize
        bound := hb.bound
        started := by simp [hb.started]
        stopped := by simp [pair_sublist_snoc, hb.started.1 hst] }

/-- A step that only changes the idle workers, the context or a waiting Stop, and that the books
do not count. -/
theorem Books.workersOnly (hb : Books s l p) (hs : e ≠ .start none) (ht : e ≠ .stop)
    (ha : acceptedJob? e = none) (hk : takenJob? e = none) (hn : finishedJob? e = none)
    (hr : refusedFull e = false) (c x : Bool) (k : Nat) :
    Books s (l ++ [e]) { p with cancelled := c, stopping := x, idle := k } :=
  hb.ofFlow hs ht ((hb.toFlow.uncounted ha hk hn hr).withLifecycle p.started p.stopped c x k) rfl hb.bound rfl rfl

theorem Books.step (hb : Books s l p) (hs : p.step e = some p') : Books s (l ++ [e]) p' := by
  cases e with
  | start a => exact hb.start hs
  | submit j a => exact hb.submit hs
  | stop => exact hb.stop hs
  | stopReturns a =>
    obtain ⟨-, rfl⟩ := step_stopReturns.1 hs
    exact hb.workersOnly (by simp) (by simp) rfl rfl rfl rfl _ _ _
  | cancel =>
    obtain rfl := step_cancel.1 hs
    exact hb.workersOnly (by simp) (by simp) rfl rfl rfl rfl _ _ _
  | take j =>
    obtain ⟨rest, hq, -, rfl⟩ := take_eq_some.1 (step_take.1 hs)
    have hbound := hb.bound
    rw [hq] at hbound
    exact hb.ofFlow (by simp) (by simp) (hb.toFlow.take hq _) rfl (by simp at hbound ⊢; omega) rfl rfl
  | finish j =>
    obtain ⟨hj, rfl⟩ := step_finish.1 hs
    exact hb.ofFlow (by simp) (by simp) (hb.toFlow.finish hj) rfl hb.bound rfl rfl
  | exit =>
    obtain ⟨-, rfl⟩ := step_exit.1 hs
    exact hb.workersOnly (by simp) (by simp) rfl rfl rfl rfl _ _ _

theorem Books.run (hb : Books s l p) {l' : List PoolEvent} {r : WorkerPool} (h : Run p l' r) :
    Books s (l ++ l') r := by
  induction h generalizing l with
  | nil => simpa using hb
  | cons hs _ ih => simpa using ih (hb.step hs)

/-! ### What the books say -/

theorem Books.balance (hb : Books s l p) : p.processed + p.queue.length + p.running.length = p.submitted := by
  have hqueue := congrArg List.length hb.queue
  have hrunning := hb.running.length_eq
  simp only [List.length_append] at hqueue hrunning
  rw [hb.processed, hb.submitted]
  omega

end WorkerPool

/-- What a Submit after the steps `l` returns, against a queue of `size`: refused before a
successful Start, refused once a Stop followed one, refused while `size` accepted jobs wait
untaken, and accepted otherwise. -/
def submitVerdict (size : Nat) (l : List PoolEvent) : Option PoolError :=
  if PoolEvent.start none ∉ l then some .notStarted
  else if [PoolEvent.start none, .stop].Sublist l then some .stopped
  else if (accepted l).length = (taken l).length + size then some .queueFull
  else none

/-- What a finished run posts: the completion it returned, if any; when it panicked, one failure
wrapping the panic error, to a job with a failure handler; nothing else. -/
def runPosts (j : Job) : List Completion :=
  match j.run with
  | .completes true | .blocks => [.applied j.id]
  | .completes false => []
  | .panics v =>
    if j.handlesFailure then [.failed j.id ⟨some .jobPanic, Bytes.ofString "worker: job panicked: " ++ v⟩]
    else []

/-- Whether a run panics. -/
def runPanics (j : Job) : Bool :=
  match j.run with
  | .panics _ => true
  | _ => false

theorem Job.posts_eq_runPosts (j : Job) : j.posts = runPosts j := by
  obtain ⟨id, run, handles⟩ := j
  cases run with
  | completes c => cases c <;> rfl
  | panics v => rfl
  | blocks => rfl

theorem Job.panics_eq_runPanics (j : Job) : j.panics = runPanics j := by
  obtain ⟨id, run, handles⟩ := j
  cases run with
  | completes c => cases c <;> rfl
  | panics v => rfl
  | blocks => rfl

namespace WorkerPool

variable {s : Nat} {l : List PoolEvent} {p : WorkerPool}

theorem Books.submit_answer (hb : Books s l p) (j : Job) : (p.submit j).2 = submitVerdict s l := by
  have hlen : (accepted l).length = (taken l).length + p.queue.length := by
    rw [← hb.queue, List.length_append]
  have hbound := hb.bound
  rw [hb.queueSize] at hbound
  unfold WorkerPool.submit submitVerdict
  by_cases hst : p.started
  · have hmem : PoolEvent.start none ∈ l := hb.started.1 hst
    by_cases hsp : p.stopped
    · rw [if_neg (by simp [hst]), if_pos hsp, if_neg (not_not.2 hmem), if_pos (hb.stopped.1 hsp)]
    · have hns : ¬ [PoolEvent.start none, .stop].Sublist l := fun h => hsp (hb.stopped.2 h)
      rw [if_neg (by simp [hst]), if_neg hsp, if_neg (not_not.2 hmem), if_neg hns, hb.queueSize]
      -- the queue never holds more than its size, so it is full exactly when it holds that many
      by_cases hroom : p.queue.length < s
      · rw [if_pos hroom, if_neg (by omega)]
      · rw [if_neg hroom, if_pos (by omega)]
  · rw [if_pos (by simp [hst]), if_pos (fun h => hst (hb.started.2 h))]

end WorkerPool

open WorkerPool

/-- What every run of a pool with a queue of `size` shows, in the words of its steps alone. -/
structure PoolAudit (size : Nat) (l : List PoolEvent) (p : WorkerPool) : Prop where
  /-- Every Submit returned what the steps before it call for. -/
  answers : ∀ pre j a post, l = pre ++ .submit j a :: post → a = submitVerdict size pre
  /-- Workers took the accepted jobs in the order they were accepted; the others still wait. -/
  takenInOrder : taken l ++ p.queue = accepted l
  /-- Every taken job finished once or is still in progress, never more. -/
  runOnce : (finished l ++ p.running).Perm (taken l)
  /-- The posts are those of the finished runs, in the order they finished. -/
  posts : p.posted = (finished l).flatMap runPosts
  submitted : p.stats.submitted = (accepted l).length
  dropped : p.stats.dropped = refusals l
  failed : p.stats.failed = ((finished l).filter runPanics).length
  /-- Every accepted job is processed, queued or in progress. -/
  balance : p.stats.processed + p.stats.queueDepth + p.running.length = p.stats.submitted

/-- Every run of a fresh pool, over every interleaving of the caller's calls and the workers'
moves, keeps the books the steps call for. -/
theorem pool_runs_keep_books (w q : Int) {l : List PoolEvent} {p : WorkerPool}
    (h : (WorkerPool.create w q).Run l p) : PoolAudit (WorkerPool.create w q).queueSize l p := by
  have hb : Books (create w q).queueSize l p := by simpa using (books_create w q).run h
  refine ⟨?_, hb.queue, hb.running, ?_, hb.submitted, hb.dropped, ?_, hb.balance⟩
  · -- a Submit step leaves from the pool its prefix reached, whose books give its answer
    rintro pre j a post rfl
    obtain ⟨r, hpre, hrest⟩ := h.split
    cases hrest with
    | cons hs _ =>
      rw [← (step_submit.1 hs).1]
      exact (by simpa using (books_create w q).run hpre : Books _ pre r).submit_answer j
  · rw [hb.posted]
    exact congrArg (List.flatMap · (finished l)) (funext Job.posts_eq_runPosts)
  · rw [stats, hb.failed]
    exact congrArg (fun f => ((finished l).filter f).length) (funext Job.panics_eq_runPanics)

/-- One worker and a queue of one: the worker takes a panicking job, a second job waits, a third is
refused for the full queue; a Stop then refuses a fourth, and the worker drains the queue before it
returns. -/
def drainRun : List PoolEvent :=
  [.start none, .submit ⟨0, .panics [120], true⟩ none, .take ⟨0, .panics [120], true⟩,
    .submit ⟨1, .completes true, true⟩ none, .submit ⟨2, .completes true, true⟩ (some .queueFull), .stop,
    .submit ⟨3, .completes true, true⟩ (some .stopped), .finish ⟨0, .panics [120], true⟩,
    .take ⟨1, .completes true, true⟩, .finish ⟨1, .completes true, true⟩, .exit, .stopReturns none]

def drainEnd : WorkerPool := ((WorkerPool.create 1 1).replay drainRun).getD (WorkerPool.create 1 1)

theorem pool_runs_keep_books_on_drain :
    (WorkerPool.create 1 1).Run drainRun drainEnd ∧
      PoolAudit (WorkerPool.create 1 1).queueSize drainRun drainEnd := by
  have h : (WorkerPool.create 1 1).Run drainRun drainEnd := by decide +kernel
  exact ⟨h, pool_runs_keep_books 1 1 h⟩

/-- A Stop before the first Start returns at once and stops nothing: a Submit after a later Start
is accepted. -/
theorem submit_accepted_after_early_stop :
    ((WorkerPool.create 1 1).replay [.stop, .start none, .submit ⟨2, .completes true, true⟩ none]).isSome := by
  decide

end LineKv
