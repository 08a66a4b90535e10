import LineKv.Proofs.QueueTurn

/-!
The contract of a connection's queue over whole runs of Enqueue calls and steps under any pattern
of the lock, against a lawful executor of MULTI, MRUN and MULTIRESET. Main statement:
`Runner.queue_contract`.
-/

namespace LineKv

open Line

/-- A call on a connection's queue: accept a command, or step. -/
inductive QueueOp where
  | enqueue (name : Bytes) (params : List Bytes) (keepAlive : Bool)
  | step (locked : Bool)

/-- What a call showed: Enqueue's error, or a step's outcome and what it ran and answered. -/
inductive Shown where
  | enqueued (name : Bytes) (params : List Bytes) (keepAlive : Bool) (err : Option QueueError)
  | stepped (locked : Bool) (outcome : StepOutcome) (acts : List Act)

variable {W : Type}

/-- Make one call on the queue of the world `w`. -/
def Runner.perform (r : Runner W) (w : W) : QueueOp → Shown × W
  | .enqueue n ps ka =>
    (.enqueued n ps ka ((r.queue w).enqueue n ps ka).2, r.setQueue ((r.queue w).enqueue n ps ka).1 w)
  | .step locked =>
    let t := r.traced.step locked (w, [])
    (.stepped locked t.1 t.2.2, t.2.1)

/-- Make calls in turn: what each showed, and the world they leave. -/
def Runner.performAll (r : Runner W) : List QueueOp → W → List Shown × W
  | [], w => ([], w)
  | op :: ops, w =>
    let (s, w) := r.perform w op
    let (H, w) := r.performAll ops w
    (s :: H, w)

namespace Queue

/-- One call on a bare queue under the transaction contract. -/
def perform (q : Queue) : QueueOp → Shown × Queue
  | .enqueue n ps ka => (.enqueued n ps ka (q.enqueue n ps ka).2, (q.enqueue n ps ka).1)
  | .step locked => (.stepped locked (q.turn locked).1 (q.turn locked).2.1, (q.turn locked).2.2)

/-- Calls in turn on a bare queue. -/
def performAll (q : Queue) : List QueueOp → List Shown × Queue
  | [] => ([], q)
  | op :: ops =>
    let (s, q) := q.perform op
    let (H, q) := q.performAll ops
    (s :: H, q)

end Queue

theorem Runner.perform_queue {r : Runner W} (hr : r.Lawful) (w : W) (op : QueueOp) :
    (r.queue w).perform op = ((r.perform w op).1, r.queue (r.perform w op).2) := by
  cases op with
  | enqueue n ps ka => simp [Queue.perform, Runner.perform, hr.queue_setQueue]
  | step locked => simp only [Queue.perform, Runner.perform, Runner.turn_traced hr]

theorem Runner.performAll_queue {r : Runner W} (hr : r.Lawful) (ops : List QueueOp) (w : W) :
    (r.queue w).performAll ops = ((r.performAll ops w).1, r.queue (r.performAll ops w).2) := by
  induction ops generalizing w with
  | nil => rfl
  | cons op ops ih =>
    simp only [Queue.performAll, Runner.performAll, Runner.perform_queue hr w op, ih]

/-! ## The transaction automaton -/

/-- A transaction as its commands see it: none, collecting the commands answered QUEUED, or
replaying those left. -/
inductive Txn where
  | idle
  | collecting (queued : List Pending)
  | running (left : List Pending)

/-- The transaction a queue holds. -/
def Txn.of (q : Queue) : Txn :=
  match q.state with
  | .idle => .idle
  | .collecting => .collecting q.buffer
  | .running => .running q.buffer

/-- What a transaction sees: a command run in its own right, with the count MRUN would report on
the queue the command found; a command answered QUEUED; a command replayed. -/
inductive TxEvent where
  | ran (name : Bytes) (count : Option Nat)
  | queued (cmd : Pending)
  | replayed (cmd : Pending)

/-- The transaction contract. MULTI opens a transaction and changes nothing inside one; MRUN
replays what was answered QUEUED since MULTI and reports how many, ends an empty transaction at
once, and is refused outside a collecting one; MULTIRESET drops everything; the other commands
leave the transaction alone; the buffer replays in order, one command at a time. -/
inductive TxStep : Txn → TxEvent → Txn → Prop
  | begin {n c} : Text.toUpper n = multiName → TxStep .idle (.ran n c) (.collecting [])
  | beginActive {t n c} : Text.toUpper n = multiName → t ≠ .idle → TxStep t (.ran n c) t
  | run {Q n} : Text.toUpper n = multiRunName → Q ≠ [] →
      TxStep (.collecting Q) (.ran n (some Q.length)) (.running Q)
  | runEmpty {n} : Text.toUpper n = multiRunName → TxStep (.collecting []) (.ran n (some 0)) .idle
  | runRefused {t n} : Text.toUpper n = multiRunName → (∀ Q, t ≠ .collecting Q) →
      TxStep t (.ran n none) t
  | reset {t n c} : Text.toUpper n = multiResetName → TxStep t (.ran n c) .idle
  | other {t n c} : isControl n = false → TxStep t (.ran n c) t
  | queue {Q p} : TxStep (.collecting Q) (.queued p) (.collecting (Q ++ [p]))
  | replay {p R} : R ≠ [] → TxStep (.running (p :: R)) (.replayed p) (.running R)
  | replayLast {p} : TxStep (.running [p]) (.replayed p) .idle

/-- Runs of the transaction automaton. -/
inductive TxTrace : Txn → List TxEvent → Txn → Prop
  | nil {t} : TxTrace t [] t
  | snoc {t evs t' e t''} : TxTrace t evs t' → TxStep t' e t'' → TxTrace t (evs ++ [e]) t''

theorem TxTrace.single {t e t'} (h : TxStep t e t') : TxTrace t [e] t' := by
  have h' := TxTrace.snoc TxTrace.nil h
  rwa [List.nil_append] at h'


theorem TxTrace.append {t evs t' evs' t''} (h : TxTrace t evs t') (h' : TxTrace t' evs' t'') :
    TxTrace t (evs ++ evs') t'' := by
  induction h' with
  | nil => simpa using h
  | snoc _ hs ih => simpa [List.append_assoc] using ih.snoc hs

namespace Queue

theorem Txn.of_eq_idle {q : Queue} : Txn.of q = .idle ↔ q.state = .idle := by
  unfold Txn.of
  split <;> simp_all

theorem control_txStep {q : Queue} (hq : q.Wf) (n : Bytes) :
    TxStep (Txn.of q) (.ran n (q.run.toOption.map (·.1))) (Txn.of (control n q)) := by
  rcases control_cases n with h | h | h | h
  · rw [control_multi h]
    by_cases hs : q.state = .idle
    · have hb := hq.idle_buffer hs
      simp only [hs, if_true]
      rw [Txn.of_eq_idle.2 hs]
      simp only [Txn.of, hb]
      exact TxStep.begin h
    · rw [if_neg hs]
      exact TxStep.beginActive h (mt Txn.of_eq_idle.1 hs)
  · rw [control_run h]
    by_cases hs : q.state = .collecting
    · cases hb : q.buffer with
      | nil =>
        simp only [Txn.of, run, hs, hb, if_true, List.isEmpty_nil, ne_eq, not_true_eq_false,
          if_false, Except.toOption, Option.map_some]
        exact TxStep.runEmpty h
      | cons c more =>
        simp only [Txn.of, run, hs, hb, if_true, List.isEmpty_cons, ne_eq, not_true_eq_false,
          if_false, Bool.false_eq_true, Except.toOption, Option.map_some]
        exact TxStep.run h (List.cons_ne_nil c more)
    · have hr : q.run = .error (.noMulti q.state) := by simp [run, hs]
      rw [if_neg hs, hr]
      refine TxStep.runRefused h fun Q hQ => hs ?_
      unfold Txn.of at hQ
      split at hQ <;> simp_all
  · rw [control_reset h]
    exact TxStep.reset h
  · rw [control_plain h]
    exact TxStep.other h

end Queue

/-! ## Reading a history -/

/-- The steps that take an ordinary command off the line. -/
def StepOutcome.takesOrdinary : StepOutcome → Bool
  | .queued | .dispatched | .rejected => true
  | _ => false

/-- The transaction event of a command a step ran: a replay, or a command run in its own right. -/
def Act.event (replay : Bool) : Act → Option TxEvent
  | .exec n ps found =>
    some (if replay then .replayed ⟨n, ps⟩ else .ran n (found.run.toOption.map (·.1)))
  | .reply .. => none

/-- The transaction events of one step, given the line of ordinary commands it takes from. -/
def stepEvents (line : List Entry) (o : StepOutcome) (acts : List Act) : List TxEvent :=
  if o = .queued then (line.head?.map fun e => TxEvent.queued e.cmd).toList
  else acts.filterMap (Act.event (o == .replayed))

/-- What an observer knows after a history: the ordinary commands accepted and not yet taken,
the keep-alive commands accepted and not yet run, and the transaction events so far. -/
structure Reading where
  line : List Entry
  keepAlives : List Pending
  events : List TxEvent

/-- Read one more call. -/
def Reading.read (rd : Reading) : Shown → Reading
  | .enqueued n ps ka err =>
    { rd with
      line := rd.line ++ (Queue.takenOrdinary n ps ka err).toList,
      keepAlives := rd.keepAlives ++ ((Queue.takenKeepAlive n ps ka err).map (·.cmd)).toList }
  | .stepped _ o acts =>
    { line := if o.takesOrdinary then rd.line.tail else rd.line,
      keepAlives := if o = .keepAlive then rd.keepAlives.tail else rd.keepAlives,
      events := rd.events ++ stepEvents rd.line o acts }

def Reading.of (H : List Shown) : Reading := H.foldl Reading.read ⟨[], [], []⟩

@[simp] theorem Reading.of_snoc (H : List Shown) (s : Shown) :
    Reading.of (H ++ [s]) = (Reading.of H).read s := by
  simp [Reading.of]

/-- How a step answers the ordinary command it takes: 510 for a flood rejection; otherwise it runs
the command, or buffers it and answers QUEUED. -/
def Consumes (e : Entry) (o : StepOutcome) (acts : List Act) : Prop :=
  if e.flooded then
    o = .rejected ∧ acts = [.reply Code.flood [e.cmd.name] (Bytes.ofString "Excess flood")]
  else
    (o = .dispatched ∧ ∃ f, acts = [.exec e.cmd.name e.cmd.params f]) ∨
      (o = .queued ∧ acts = [.reply Code.queued [e.cmd.name] (Bytes.ofString "QUEUED")])

def TakesOldest (rd : Reading) (o : StepOutcome) (acts : List Act) : Prop :=
  o.takesOrdinary = true → ∃ e ∈ rd.line.head?, Consumes e o acts

/-- A step runs the oldest waiting keep-alive whenever one waits, and none when none does. -/
def KeepAliveFirst (rd : Reading) (o : StepOutcome) (acts : List Act) : Prop :=
  match rd.keepAlives with
  | k :: _ => o = .keepAlive ∧ ∃ f, acts = [.exec k.name k.params f]
  | [] => o ≠ .keepAlive

def EveryStep (P : Reading → StepOutcome → List Act → Prop) (H : List Shown) : Prop :=
  ∀ H₁ l o acts H₂, H = H₁ ++ .stepped l o acts :: H₂ → P (Reading.of H₁) o acts

theorem EveryStep.nil (P : Reading → StepOutcome → List Act → Prop) : EveryStep P [] := by
  intro H₁ l o acts H₂ h
  cases H₁ <;> simp at h

theorem EveryStep.snoc {P : Reading → StepOutcome → List Act → Prop} {H : List Shown} {s : Shown}
    (h : EveryStep P H) (hs : ∀ l o acts, s = .stepped l o acts → P (Reading.of H) o acts) :
    EveryStep P (H ++ [s]) := by
  intro H₁ l o acts H₂ he
  rcases List.eq_nil_or_concat H₂ with rfl | ⟨H₂, x, rfl⟩
  · -- the step is the last call
    obtain ⟨rfl, hx⟩ := List.append_inj' he rfl
    exact hs l o acts (List.singleton_inj.1 hx)
  · -- the step comes before the last call
    have he' : H ++ [s] = (H₁ ++ .stepped l o acts :: H₂) ++ [x] := by simpa using he
    exact h H₁ l o acts H₂ (List.append_inj' he' rfl).1

/-! ## The reading tracks the queue -/

/-- What an observer's reading says of the queue it watches. -/
structure Reading.Tracks (rd : Reading) (q : Queue) : Prop where
  wf : q.Wf
  line : rd.line = q.ordinary
  keepAlives : rd.keepAlives = q.keepAlives.map (·.cmd)
  txn : TxTrace .idle rd.events (Txn.of q)

namespace Queue

section Step

variable {locked : Bool} {q : Queue} {o : StepOutcome} {acts : List Act} {q' : Queue}

@[simp] theorem ordinary_replayFrom (q : Queue) (more : List Pending) :
    (q.replayFrom more).ordinary = q.ordinary := rfl

@[simp] theorem keepAlives_replayFrom (q : Queue) (more : List Pending) :
    (q.replayFrom more).keepAlives = q.keepAlives := rfl

theorem Turn.views (h : Turn locked q o acts q') :
    q'.ordinary = (if o.takesOrdinary then q.ordinary.tail else q.ordinary) ∧
      q'.keepAlives = (if o = .keepAlive then q.keepAlives.tail else q.keepAlives) := by
  cases h with
  | idle | locked => simp [StepOutcome.takesOrdinary]
  | keepAlive hp hk =>
    obtain ⟨h1, h2⟩ := views_pop_keepAlive hp hk
    simp [StepOutcome.takesOrdinary, h1, h2]
  | replay => simp [StepOutcome.takesOrdinary]
  | reject hp hk | dispatch hp hk =>
    obtain ⟨h1, h2⟩ := views_pop_ordinary hp hk
    simp [StepOutcome.takesOrdinary, h1, h2]
  | queue hp hk =>
    obtain ⟨h1, h2⟩ := views_pop_ordinary hp hk
    exact ⟨by rw [h2]; rfl, h1⟩

theorem Turn.txTrace (h : Turn locked q o acts q') (hq : q.Wf) :
    TxTrace (Txn.of q) (stepEvents q.ordinary o acts) (Txn.of q') := by
  cases h with
  | idle | locked => exact TxTrace.nil
  | keepAlive hp hk | dispatch hp hk =>
    exact TxTrace.single (control_txStep (hq.pop hp) _)
  | reject => exact TxTrace.nil
  | @replay _ c more _ hs hb =>
    rw [control_plain (hq.buffer_plain c (by simp [hb]))]
    have ht : Txn.of q = .running (c :: more) := by simp [Txn.of, hs, hb]
    have he : stepEvents q.ordinary .replayed [.exec c.name c.params (q.replayFrom more)] =
        [.replayed c] := rfl
    rw [he, ht]
    cases more with
    | nil => exact TxTrace.single TxStep.replayLast
    | cons c' more =>
      have ht' : Txn.of (q.replayFrom (c' :: more)) = .running (c' :: more) := by
        simp [Txn.of, replayFrom, hs]
      rw [ht']
      exact TxTrace.single (TxStep.replay (List.cons_ne_nil c' more))
  | queue hp hk hs =>
    have ho := (hq.keepAlives_eq_nil hp hk).2
    simp only [stepEvents, ho, Txn.of, hs]
    exact TxTrace.single TxStep.queue

theorem Wf.ordinary_head (hq : q.Wf) {e : Entry} {rest : List Entry} (hp : q.pending = e :: rest)
    (hk : e.keepAlive = false) : q.ordinary.head? = some e := by
  simp [(hq.keepAlives_eq_nil hp hk).2]

theorem Turn.takesOldest (h : Turn locked q o acts q') (hq : q.Wf) {rd : Reading}
    (hl : rd.line = q.ordinary) : TakesOldest rd o acts := by
  intro ho
  rw [hl]
  cases h with
  | idle | keepAlive | locked | replay => simp [StepOutcome.takesOrdinary] at ho
  | @reject _ e _ hp hk _ hf => exact ⟨e, hq.ordinary_head hp hk, by simp [Consumes, hf]⟩
  | @queue _ e _ hp hk _ hf => exact ⟨e, hq.ordinary_head hp hk, by simp [Consumes, hf]⟩
  | @dispatch _ e _ hp hk _ hf => exact ⟨e, hq.ordinary_head hp hk, by simp [Consumes, hf]⟩

theorem Turn.keepAliveFirst (h : Turn locked q o acts q') (hq : q.Wf) {rd : Reading}
    (hk : rd.keepAlives = q.keepAlives.map (·.cmd)) : KeepAliveFirst rd o acts := by
  unfold KeepAliveFirst
  rw [hk]
  cases hks : q.keepAlives with
  | nil =>
    cases h with
    | @keepAlive _ _ e _ hp hke =>
      -- the keep-alive it ran was waiting
      have he : e ∈ q.keepAlives := by simp [keepAlives, hp, hke]
      simp [hks] at he
    | _ => simp
  | cons k ks =>
    obtain ⟨hp, hkk⟩ := hq.keepAlive_head hks
    cases h with
    | keepAlive hp' =>
      rw [hp, List.cons.injEq] at hp'
      rw [← hp'.1]
      exact ⟨rfl, _, rfl⟩
    | idle hp' => simp [hp] at hp'
    | locked _ hk' | replay hk' => simp [hp, hkk] at hk'
    | reject hp' hke | queue hp' hke | dispatch hp' hke =>
      rw [hp, List.cons.injEq] at hp'
      rw [← hp'.1, hkk] at hke
      cases hke

end Step

theorem Txn.of_congr {q q' : Queue} (hs : q'.state = q.state) (hb : q'.buffer = q.buffer) :
    Txn.of q' = Txn.of q := by
  unfold Txn.of
  rw [hs, hb]

theorem create_wf (m : Int) (rate : Rat) (b : Int) (newLimiter : Rat → Nat → Limiter) :
    (create m rate b newLimiter).Wf :=
  ⟨rfl, fun _ => rfl, fun h => by simp [create] at h, by simp [create]⟩

end Queue

namespace Reading.Tracks

variable {rd : Reading} {q q' : Queue}

theorem turn (ht : rd.Tracks q) {locked : Bool} {o : StepOutcome} {acts : List Act}
    (h : Queue.Turn locked q o acts q') : (rd.read (.stepped locked o acts)).Tracks q' := by
  obtain ⟨h1, h2⟩ := h.views
  refine ⟨h.wf ht.wf, ?_, ?_, ?_⟩
  · simp only [Reading.read, ht.line, h1]
  · simp only [Reading.read, ht.keepAlives, h2]
    split <;> simp [List.map_tail]
  · simp only [Reading.read]
    rw [ht.line]
    exact ht.txn.append (h.txTrace ht.wf)

theorem arrival (ht : rd.Tracks q) {n : Bytes} {ps : List Bytes} {ka : Bool}
    {err : Option QueueError} (h : Queue.Arrival q n ps ka err q') :
    (rd.read (.enqueued n ps ka err)).Tracks q' := by
  obtain ⟨hwf, hs, hb⟩ := h.wf ht.wf
  obtain ⟨ho, hk⟩ := h.views ht.wf
  refine ⟨hwf, ?_, ?_, ?_⟩
  · simp only [Reading.read, ht.line, ho]
  · simp only [Reading.read, ht.keepAlives, hk, List.map_append]
    cases Queue.takenKeepAlive n ps ka err <;> rfl
  · simp only [Reading.read]
    rw [Queue.Txn.of_congr hs hb]
    exact ht.txn

/-- One call keeps the reading true, and the step it may be meets both step contracts. -/
theorem perform (ht : rd.Tracks q) (op : QueueOp) :
    (rd.read (q.perform op).1).Tracks (q.perform op).2 ∧
      ∀ l o acts, (q.perform op).1 = .stepped l o acts →
        TakesOldest rd o acts ∧ KeepAliveFirst rd o acts := by
  cases op with
  | enqueue n ps ka =>
    refine ⟨ht.arrival (Queue.enqueue_spec q n ps ka), fun l o acts h => ?_⟩
    cases h
  | step locked =>
    have hturn := Queue.turn_spec ht.wf locked
    refine ⟨ht.turn hturn, ?_⟩
    rintro l o acts ⟨⟩
    exact ⟨hturn.takesOldest ht.wf ht.line, hturn.keepAliveFirst ht.wf ht.keepAlives⟩

/-- Calls in turn keep the reading true, and every step meets both step contracts. -/
theorem performAll {H : List Shown} (ht : (Reading.of H).Tracks q)
    (hH : EveryStep TakesOldest H ∧ EveryStep KeepAliveFirst H) (ops : List QueueOp) :
    (Reading.of (H ++ (q.performAll ops).1)).Tracks (q.performAll ops).2 ∧
      EveryStep TakesOldest (H ++ (q.performAll ops).1) ∧
      EveryStep KeepAliveFirst (H ++ (q.performAll ops).1) := by
  -- induction over the calls, the history read so far growing by one call each time
  induction ops generalizing H q with
  | nil => simpa [Queue.performAll] using ⟨ht, hH⟩
  | cons op ops ih =>
    obtain ⟨ht', hs⟩ := ht.perform op
    have ht'' : (Reading.of (H ++ [(q.perform op).1])).Tracks (q.perform op).2 := by
      rwa [Reading.of_snoc]
    have h := ih ht''
      ⟨hH.1.snoc fun l o acts e => (hs l o acts e).1, hH.2.snoc fun l o acts e => (hs l o acts e).2⟩
    simpa [Queue.performAll, List.append_assoc] using h

end Reading.Tracks

/-- The queue contract over whole runs from a fresh queue, for any executor whose MULTI, MRUN
and MULTIRESET call `begin`, `run` and `reset` and whose other commands leave the queue alone:
the ordinary commands are taken in acceptance order, each once, and all of them by the time the
queue is empty; the transaction events follow the transaction contract; keep-alives go first. -/
theorem Runner.queue_contract {r : Runner W} (hr : r.Lawful) {w₀ : W} {m b : Int} {rate : Rat}
    {newLimiter : Rat → Nat → Limiter} (h₀ : r.queue w₀ = Queue.create m rate b newLimiter)
    (ops : List QueueOp) :
    let H := (r.performAll ops w₀).1
    let q := r.queue (r.performAll ops w₀).2
    (EveryStep TakesOldest H ∧ (q.pending = [] → (Reading.of H).line = [])) ∧
      TxTrace .idle (Reading.of H).events (Txn.of q) ∧ EveryStep KeepAliveFirst H := by
  intro H q
  have hrun := Runner.performAll_queue hr ops w₀
  rw [h₀] at hrun
  have hstart : (Reading.of []).Tracks (Queue.create m rate b newLimiter) :=
    ⟨Queue.create_wf m rate b newLimiter, rfl, rfl, .nil⟩
  obtain ⟨ht, h1, h2⟩ := hstart.performAll ⟨EveryStep.nil _, EveryStep.nil _⟩ ops
  simp only [List.nil_append, hrun] at ht h1 h2
  refine ⟨⟨h1, fun hp => ?_⟩, ht.txn, h2⟩
  rw [ht.line, Queue.ordinary, hp, List.filter_nil]

/-- The contract on the bare-queue executor, for a one-command transaction with a keep-alive
arriving while MRUN waits. -/
theorem queue_contract_on_tape :
    let q₀ := Queue.create 0 1 1 fun _ burst => Limiter.burstOnly burst
    Tape.runner.Lawful ∧ Tape.runner.queue ⟨q₀, []⟩ = q₀ ∧
      let ops := [.enqueue (Bytes.ofString "MULTI") [] false,
        .enqueue (Bytes.ofString "SET") [Bytes.ofString "a", Bytes.ofString "1"] false,
        .enqueue (Bytes.ofString "MRUN") [] false, .step false, .step false,
        .enqueue (Bytes.ofString "PONG") [Bytes.ofString "t"] true, .step true, .step false,
        .step false, .step false]
      let H := (Tape.runner.performAll ops ⟨q₀, []⟩).1
      let q := Tape.runner.queue (Tape.runner.performAll ops ⟨q₀, []⟩).2
      (EveryStep TakesOldest H ∧ (q.pending = [] → (Reading.of H).line = [])) ∧
        TxTrace .idle (Reading.of H).events (Txn.of q) ∧ EveryStep KeepAliveFirst H :=
  ⟨Tape.lawful, rfl,
    @Runner.queue_contract _ _ Tape.lawful _ 0 1 1 (fun _ burst => Limiter.burstOnly burst) rfl _⟩

end LineKv
