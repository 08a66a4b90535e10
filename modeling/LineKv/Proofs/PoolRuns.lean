import Mathlib
import LineKv.WorkerPool

/-!
Steps and runs of the worker pool. One lemma per kind of step says when it can happen and what it
leaves (`step_submit`, `step_take`, `step_finish`, …), so that nothing later unfolds `step`; runs
join and split anywhere (`Run.append`, `Run.split`).
-/

namespace LineKv

namespace WorkerPool

variable {p q r : WorkerPool} {j : Job} {a : Option PoolError} {l l₁ l₂ : List PoolEvent}

@[simp] theorem step_start : p.step (.start a) = some q ↔ p.start.2 = a ∧ p.start.1 = q := by
  simp [step]

@[simp] theorem step_submit : p.step (.submit j a) = some q ↔ (p.submit j).2 = a ∧ (p.submit j).1 = q := by
  simp [step]

@[simp] theorem step_stop : p.step .stop = some q ↔ p.stop = q := by
  simp [step]

@[simp] theorem step_stopReturns :
    p.step (.stopReturns a) = some q ↔
      (p.stopping && (a == some .stopTimeout || a == none && p.drained)) = true ∧ { p with stopping := false } = q := by
  simp only [step]
  split <;> simp_all

@[simp] theorem step_cancel : p.step .cancel = some q ↔ { p with cancelled := true } = q := by
  simp [step]

@[simp] theorem step_take : p.step (.take j) = some q ↔ p.take = some (j, q) := by
  simp only [step]
  split
  · rename_i j' p' h
    rw [h]
    by_cases hj : j' = j <;> simp [hj]
  · rename_i h
    simp [h]

@[simp] theorem step_finish : p.step (.finish j) = some q ↔ j ∈ p.running ∧ p.finish j = q := by
  simp [step]

@[simp] theorem step_exit : p.step .exit = some q ↔ p.mayExit = true ∧ { p with idle := p.idle - 1 } = q := by
  simp [step]

/-- A worker takes the head of the queue, and only while one is idle. -/
theorem take_eq_some :
    p.take = some (j, q) ↔
      ∃ rest, p.queue = j :: rest ∧ 0 < p.idle ∧
        q = { p with idle := p.idle - 1, queue := rest, running := p.running ++ [j] } := by
  unfold take
  split
  · rename_i h
    simp [h]
  · rename_i j' rest h
    by_cases hi : 0 < p.idle
    · simp only [hi, if_true, Option.some.injEq, Prod.mk.injEq, h, List.cons.injEq, true_and]
      constructor
      · rintro ⟨rfl, rfl⟩
        exact ⟨rest, ⟨rfl, rfl⟩, rfl⟩
      · rintro ⟨rest', ⟨rfl, rfl⟩, rfl⟩
        exact ⟨rfl, rfl⟩
    · simp [hi]

theorem running_of_take (h : p.take = some (j, q)) : j ∈ q.running := by
  obtain ⟨_, _, _, rfl⟩ := take_eq_some.1 h
  simp

theorem Run.single {e : PoolEvent} (h : p.step e = some q) : Run p [e] q := .cons h (.nil q)

theorem Run.append (h₁ : Run p l₁ q) (h₂ : Run q l₂ r) : Run p (l₁ ++ l₂) r := by
  induction h₁ with
  | nil => exact h₂
  | cons hs _ ih => exact .cons hs (ih h₂)

/-- A run splits at any point into two runs through the pool it passes there. -/
theorem Run.split (h : Run p (l₁ ++ l₂) r) : ∃ q, Run p l₁ q ∧ Run q l₂ r := by
  induction l₁ generalizing p with
  | nil => exact ⟨p, .nil p, h⟩
  | cons e l₁ ih =>
    cases h with
    | cons hs hr =>
      obtain ⟨q, h₁, h₂⟩ := ih hr
      exact ⟨q, .cons hs h₁, h₂⟩

/-! ### The scripted schedule -/

theorem settleQueue_run (holds : Job → Bool) (n : Nat) (p : WorkerPool) :
    ∃ l, Run p l (p.settleQueue holds n) := by
  induction n generalizing p with
  | zero => exact ⟨[], .nil p⟩
  | succ n ih =>
    unfold settleQueue
    split
    · exact ⟨[], .nil p⟩
    · rename_i j p' htake
      have hstep : p.step (.take j) = some p' := step_take.2 htake
      by_cases hj : holds j
      · obtain ⟨l, hl⟩ := ih p'
        exact ⟨.take j :: l, by simpa [hj] using Run.cons hstep hl⟩
      · obtain ⟨l, hl⟩ := ih (p'.finish j)
        have hfin : p'.step (.finish j) = some (p'.finish j) := step_finish.2 ⟨running_of_take htake, rfl⟩
        exact ⟨.take j :: .finish j :: l, by simpa [hj] using Run.cons hstep (Run.cons hfin hl)⟩

theorem exits_run (k : Nat) :
    ∀ p : WorkerPool, (p.stopped && p.queue.isEmpty) = true → k ≤ p.idle →
      Run p (List.replicate k .exit) { p with idle := p.idle - k } := by
  induction k with
  | zero => intro p _ _; exact .nil p
  | succ k ih =>
    intro p hq hk
    have hexit : p.step .exit = some { p with idle := p.idle - 1 } := by
      simp only [step_exit, mayExit, and_true]
      simp_all only [Bool.and_eq_true, Bool.or_true, Bool.and_true, decide_eq_true_eq]
      omega
    -- the first worker returns from `p`, the other `k` from the pool it leaves
    have hrest := ih { p with idle := p.idle - 1 } hq (by simp only; omega)
    simp only [Nat.sub_sub, Nat.add_comm 1 k] at hrest
    exact .cons hexit hrest

theorem exitIdle_run (p : WorkerPool) : ∃ l, Run p l p.exitIdle := by
  unfold exitIdle
  split
  · rename_i hq
    exact ⟨List.replicate p.idle .exit, by simpa using exits_run p.idle p hq le_rfl⟩
  · exact ⟨[], .nil p⟩

theorem finishAll_run (l : List Job) : ∀ p : WorkerPool, p.running = l → Run p (l.map .finish) (l.foldl finish p) := by
  induction l with
  | nil => intro p _; exact .nil p
  | cons j l ih =>
    intro p hl
    have hstep : p.step (.finish j) = some (p.finish j) := step_finish.2 ⟨by simp [hl], rfl⟩
    -- the oldest job in progress leaves first, so the next is the oldest of the rest
    have hrest : (p.finish j).running = l := by simp [finish, hl]
    exact .cons hstep (ih (p.finish j) hrest)

theorem stopping_settleQueue (holds : Job → Bool) (n : Nat) (p : WorkerPool) :
    (p.settleQueue holds n).stopping = p.stopping := by
  induction n generalizing p with
  | zero => rfl
  | succ n ih =>
    unfold settleQueue
    split
    · rfl
    · rename_i j p' htake
      obtain ⟨_, _, _, rfl⟩ := take_eq_some.1 htake
      split <;> simp [ih, finish]

theorem stopping_exitIdle (p : WorkerPool) : p.exitIdle.stopping = p.stopping := by
  unfold exitIdle
  split <;> rfl

end WorkerPool

namespace PoolBench

open WorkerPool

variable {b : PoolBench} {w q : Int}

theorem settle_run (b : PoolBench) (p : WorkerPool) : ∃ l, Run p l (b.settle p).pool := by
  obtain ⟨l₁, h₁⟩ := settleQueue_run b.holds p.queue.length p
  obtain ⟨l₂, h₂⟩ := exitIdle_run (p.settleQueue b.holds p.queue.length)
  exact ⟨l₁ ++ l₂, h₁.append h₂⟩

theorem start_run (b : PoolBench) : ∃ l, Run b.pool (.start b.start.2 :: l) b.start.1.pool := by
  obtain ⟨l, hl⟩ := settle_run b b.pool.start.1
  exact ⟨l, .cons (step_start.2 ⟨rfl, rfl⟩) hl⟩

theorem submit_run (b : PoolBench) (j : Job) : ∃ l, Run b.pool (.submit j (b.submit j).2 :: l) (b.submit j).1.pool := by
  obtain ⟨l, hl⟩ := settle_run b (b.pool.submit j).1
  exact ⟨l, .cons (step_submit.2 ⟨rfl, rfl⟩) hl⟩

theorem release_run (b : PoolBench) : ∃ l, Run b.pool l b.release.pool := by
  obtain ⟨l, hl⟩ := settle_run { b with released := true } (b.pool.running.foldl finish b.pool)
  exact ⟨_, (finishAll_run b.pool.running b.pool rfl).append hl⟩

theorem stop_run (b : PoolBench) : ∃ l, Run b.pool (.stop :: l) b.stop.1.pool := by
  unfold stop
  split
  · rename_i hidle
    refine ⟨[], .single (step_stop.2 ?_)⟩
    simp [WorkerPool.stop, hidle]
  · rename_i hopen
    obtain ⟨l, hl⟩ := settle_run b b.pool.stop
    have hstopping : (b.settle b.pool.stop).pool.stopping = true := by
      simp only [settle, stopping_exitIdle, stopping_settleQueue]
      simp [WorkerPool.stop, hopen]
    have hret : (b.settle b.pool.stop).pool.step (.stopReturns
        (if (b.settle b.pool.stop).pool.drained then none else some .stopTimeout)) =
          some { (b.settle b.pool.stop).pool with stopping := false } := by
      refine step_stopReturns.2 ⟨?_, rfl⟩
      split <;> simp_all
    exact ⟨l ++ [_], .cons (step_stop.2 rfl) (hl.append (.single hret))⟩

/-- The pools a script reaches from a fresh one. -/
inductive Reachable (w q : Int) : PoolBench → Prop where
  | create : Reachable w q (PoolBench.create w q)
  | start {b : PoolBench} : Reachable w q b → Reachable w q b.start.1
  | submit {b : PoolBench} (j : Job) : Reachable w q b → Reachable w q (b.submit j).1
  | release {b : PoolBench} : Reachable w q b → Reachable w q b.release
  | stop {b : PoolBench} : Reachable w q b → Reachable w q b.stop.1

theorem Reachable.run (h : Reachable w q b) : ∃ l, Run (WorkerPool.create w q) l b.pool := by
  induction h with
  | create => exact ⟨[], .nil _⟩
  | start _ ih =>
    obtain ⟨l, hl⟩ := ih
    obtain ⟨l', hl'⟩ := start_run _
    exact ⟨_, hl.append hl'⟩
  | submit j _ ih =>
    obtain ⟨l, hl⟩ := ih
    obtain ⟨l', hl'⟩ := submit_run _ j
    exact ⟨_, hl.append hl'⟩
  | release _ ih =>
    obtain ⟨l, hl⟩ := ih
    obtain ⟨l', hl'⟩ := release_run _
    exact ⟨_, hl.append hl'⟩
  | stop _ ih =>
    obtain ⟨l, hl⟩ := ih
    obtain ⟨l', hl'⟩ := stop_run _
    exact ⟨_, hl.append hl'⟩

end PoolBench

end LineKv
