import LineKv.Queue

/-!
One step of a connection's queue, said once. The transaction contract assumes an executor whose
MULTI, MRUN and MULTIRESET call `begin`, `run` and `reset` on the queue and whose other commands
leave it alone (`Runner.Lawful`).
-/

namespace LineKv

open Line

/-- What a step does outside its queue: run a command (against the queue as the command finds it),
or answer a command itself. -/
inductive Act where
  | exec (name : Bytes) (params : List Bytes) (found : Queue)
  | reply (code : Code) (params : List Bytes) (text : Bytes)

namespace Queue

/-- What running a command does to its own connection's queue: MULTI, MRUN and MULTIRESET call
`begin`, `run` and `reset`, and every other command leaves the queue alone. -/
def control (name : Bytes) (q : Queue) : Queue :=
  let n := Text.toUpper name
  if n == multiName then
    match q.begin with
    | .ok q' => q'
    | .error _ => q
  else if n == multiRunName then
    match q.run with
    | .ok (_, q') => q'
    | .error _ => q
  else if n == multiResetName then q.reset.2
  else q

def keepAlives (q : Queue) : List Entry := q.pending.filter (·.keepAlive)

def ordinary (q : Queue) : List Entry := q.pending.filter (!·.keepAlive)

def replayFrom (q : Queue) (more : List Pending) : Queue :=
  { q with buffer := more, state := if more.isEmpty then .idle else q.state }

/-- What every queue reached by arrivals and steps satisfies. -/
structure Wf (q : Queue) : Prop where
  split : q.pending = q.keepAlives ++ q.ordinary
  idle_buffer : q.state = .idle → q.buffer = []
  running_buffer : q.state = .running → q.buffer ≠ []
  buffer_plain : ∀ p ∈ q.buffer, isControl p.name = false

theorem multiRunName_ne : multiRunName ≠ multiName := by decide +kernel

theorem multiResetName_ne : multiResetName ≠ multiName ∧ multiResetName ≠ multiRunName :=
  ⟨by decide +kernel, by decide +kernel⟩

theorem control_multi {n : Bytes} (h : Text.toUpper n = multiName) (q : Queue) :
    control n q = if q.state = .idle then { q with state := .collecting } else q := by
  by_cases hs : q.state = .idle <;> simp [control, h, begin, hs]

theorem control_run {n : Bytes} (h : Text.toUpper n = multiRunName) (q : Queue) :
    control n q =
      if q.state = .collecting then { q with state := if q.buffer.isEmpty then .idle else .running }
      else q := by
  by_cases hs : q.state = .collecting
  · by_cases hb : q.buffer.isEmpty <;> simp [control, h, multiRunName_ne, run, hs, hb]
  · simp [control, h, multiRunName_ne, run, hs]

theorem control_reset {n : Bytes} (h : Text.toUpper n = multiResetName) (q : Queue) :
    control n q = { q with buffer := [], state := .idle } := by
  simp [control, h, multiResetName_ne, reset]

theorem control_plain {n : Bytes} (h : isControl n = false) (q : Queue) : control n q = q := by
  simp only [isControl, Bool.or_eq_false_iff] at h
  simp [control, h.1.1, h.1.2, h.2]

theorem control_cases (n : Bytes) :
    Text.toUpper n = multiName ∨ Text.toUpper n = multiRunName ∨ Text.toUpper n = multiResetName ∨
      isControl n = false := by
  cases h : isControl n
  · exact .inr (.inr (.inr rfl))
  · simp only [isControl, Bool.or_eq_true, beq_iff_eq] at h
    rcases h with (h | h) | h
    · exact .inl h
    · exact .inr (.inl h)
    · exact .inr (.inr (.inl h))

@[simp] theorem control_pending (n : Bytes) (q : Queue) : (control n q).pending = q.pending := by
  rcases control_cases n with h | h | h | h
  · rw [control_multi h]; split <;> rfl
  · rw [control_run h]; split <;> rfl
  · rw [control_reset h]
  · rw [control_plain h]

theorem Wf.control {q : Queue} (hq : q.Wf) (n : Bytes) : (control n q).Wf := by
  rcases control_cases n with h | h | h | h
  · rw [control_multi h]
    split
    · rename_i hs
      exact ⟨hq.split, by simp, by simp, hq.buffer_plain⟩
    · exact hq
  · rw [control_run h]
    split
    · cases hb : q.buffer.isEmpty
      · exact ⟨hq.split, by simp, fun _ => by simpa using hb, hq.buffer_plain⟩
      · exact ⟨hq.split, fun _ => by simpa using hb, by simp, hq.buffer_plain⟩
    · exact hq
  · rw [control_reset h]
    exact ⟨hq.split, by simp, by simp, by simp⟩
  · rw [control_plain h]
    exact hq

theorem Wf.pop_keepAlive {q : Queue} (hq : q.Wf) {e : Entry} {rest : List Entry}
    (hp : q.pending = e :: rest) (hk : e.keepAlive = true) :
    q.keepAlives = e :: rest.filter (·.keepAlive) ∧
      rest = rest.filter (·.keepAlive) ++ rest.filter (!·.keepAlive) := by
  have h := hq.split
  simp only [keepAlives, ordinary, hp, List.filter_cons, hk] at h ⊢
  simpa using h

theorem Wf.keepAlives_eq_nil {q : Queue} (hq : q.Wf) {e : Entry} {rest : List Entry}
    (hp : q.pending = e :: rest) (hk : e.keepAlive = false) :
    q.keepAlives = [] ∧ q.ordinary = e :: rest.filter (!·.keepAlive) := by
  have h := hq.split
  have hka : q.keepAlives = [] := by
    cases hks : q.keepAlives with
    | nil => rfl
    | cons k ks =>
      -- the first waiting keep-alive would stand first, where `e` stands
      have hmem : k ∈ q.keepAlives := by simp [hks]
      rw [hks, hp] at h
      simp only [List.cons_append, List.cons.injEq] at h
      simp only [keepAlives, List.mem_filter] at hmem
      rw [h.1, hmem.2] at hk
      cases hk
  refine ⟨hka, ?_⟩
  simp [ordinary, hp, hk]

theorem Wf.pop {q : Queue} (hq : q.Wf) {e : Entry} {rest : List Entry} (hp : q.pending = e :: rest) :
    ({ q with pending := rest } : Queue).Wf := by
  refine ⟨?_, hq.idle_buffer, hq.running_buffer, hq.buffer_plain⟩
  cases hk : e.keepAlive
  · have h := hq.split
    obtain ⟨hka, hord⟩ := hq.keepAlives_eq_nil hp hk
    rw [hka, hord, hp] at h
    simp only [List.nil_append, List.cons.injEq] at h
    have hnil : rest.filter (·.keepAlive) = [] := by
      rw [List.filter_eq_nil_iff]
      intro a ha
      rw [h.2] at ha
      simpa using (List.mem_filter.1 ha).2
    simp only [keepAlives, ordinary, hnil, List.nil_append]
    exact h.2
  · exact (hq.pop_keepAlive hp hk).2

end Queue

variable {W : Type}

/-- A runner whose commands touch the queue only as `Queue.control` says: setting the queue sets
it, and an answer leaves it alone. -/
structure Runner.Lawful (r : Runner W) : Prop where
  queue_setQueue : ∀ q w, r.queue (r.setQueue q w) = q
  queue_reply : ∀ c ps t w, r.queue (r.reply c ps t w) = r.queue w
  queue_execute : ∀ n ps w, r.queue (r.execute n ps w) = Queue.control n (r.queue w)

/-- `r`, also writing down every command it runs and every answer it writes. -/
def Runner.traced (r : Runner W) : Runner (W × List Act) where
  queue w := r.queue w.1
  setQueue q w := (r.setQueue q w.1, w.2)
  execute n ps w := (r.execute n ps w.1, w.2 ++ [.exec n ps (r.queue w.1)])
  reply c ps t w := (r.reply c ps t w.1, w.2 ++ [.reply c ps t])

/-- A bare queue and the record of what its steps ran and answered. -/
structure Tape where
  queue : Queue
  log : List Act

/-- The executor of the transaction contract on a bare queue. -/
def Tape.runner : Runner Tape where
  queue t := t.queue
  setQueue q t := { t with queue := q }
  execute n ps t := ⟨Queue.control n t.queue, t.log ++ [.exec n ps t.queue]⟩
  reply c ps txt t := { t with log := t.log ++ [.reply c ps txt] }

theorem Tape.lawful : Tape.runner.Lawful :=
  ⟨fun _ _ => rfl, fun _ _ _ _ => rfl, fun _ _ _ => rfl⟩

section Map

/-! A map of worlds that commutes with two runners' four operations commutes with their steps. -/

variable {V : Type} (r : Runner W) (s : Runner V) (f : W → V)
  (hq : ∀ w, s.queue (f w) = r.queue w)
  (hs : ∀ q w, s.setQueue q (f w) = f (r.setQueue q w))
  (he : ∀ n ps w, s.execute n ps (f w) = f (r.execute n ps w))
  (hr : ∀ c ps t w, s.reply c ps t (f w) = f (r.reply c ps t w))

include hs he hr in
theorem Runner.dispatchNext_map (q : Queue) (w : W) :
    s.dispatchNext q (f w) = ((r.dispatchNext q w).1, f (r.dispatchNext q w).2) := by
  simp only [Runner.dispatchNext]
  generalize (if q.state = .running then { q with state := .idle } else q) = q
  cases q.pending with
  | nil => simp [hs]
  | cons e rest =>
    simp only
    split
    · simp [hs, hr]
    · split <;> simp [hs, he, hr]

include hs he hr in
theorem Runner.ordered_map (locked : Bool) (q : Queue) (w : W) :
    s.ordered locked q (f w) = ((r.ordered locked q w).1, f (r.ordered locked q w).2) := by
  unfold Runner.ordered
  split
  · rfl
  · split
    · split
      · simp [hs, he]
      · exact Runner.dispatchNext_map r s f hs he hr q w
    · exact Runner.dispatchNext_map r s f hs he hr q w

include hq hs he hr in
theorem Runner.step_map (locked : Bool) (w : W) :
    s.step locked (f w) = ((r.step locked w).1, f (r.step locked w).2) := by
  unfold Runner.step
  rw [hq]
  dsimp only
  generalize r.queue w = q
  split
  · simp [hs]
  · split
    · split
      · simp [hs, he]
      · exact Runner.ordered_map r s f hs he hr locked _ w
    · exact Runner.ordered_map r s f hs he hr locked _ w

end Map

namespace Queue

/-- What a step from `q` does under the contract: its outcome, what it ran and answered, and the
queue it leaves. -/
def turn (q : Queue) (locked : Bool) : StepOutcome × List Act × Queue :=
  let (o, t) := Tape.runner.step locked ⟨q, []⟩
  (o, t.log, t.queue)

end Queue

/-- Any lawful runner steps as `Queue.turn` says, whatever else its world holds. -/
theorem Runner.turn_traced {r : Runner W} (hr : r.Lawful) (locked : Bool) (w : W) :
    (r.queue w).turn locked =
      ((r.traced.step locked (w, [])).1, (r.traced.step locked (w, [])).2.2,
        r.queue (r.traced.step locked (w, [])).2.1) := by
  have h := Runner.step_map r.traced Tape.runner (fun x => ⟨r.queue x.1, x.2⟩) (fun _ => rfl)
    (fun q x => by simp [Runner.traced, Tape.runner, hr.queue_setQueue])
    (fun n ps x => by simp [Runner.traced, Tape.runner, hr.queue_execute])
    (fun c ps t x => by simp [Runner.traced, Tape.runner, hr.queue_reply]) locked (w, [])
  simp only [Queue.turn, h]

section Outcome

/-! What a step reports is decided before anything runs, so it depends on the queue alone. -/

variable {V : Type}

theorem Runner.dispatchNext_fst (r : Runner W) (s : Runner V) (q : Queue) (w : W) (v : V) :
    (r.dispatchNext q w).1 = (s.dispatchNext q v).1 := by
  unfold Runner.dispatchNext
  dsimp only
  split
  · rfl
  · simp only [apply_ite Prod.fst]

theorem Runner.ordered_fst (r : Runner W) (s : Runner V) (locked : Bool) (q : Queue) (w : W)
    (v : V) : (r.ordered locked q w).1 = (s.ordered locked q v).1 := by
  unfold Runner.ordered
  split
  · rfl
  · split
    · split
      · rfl
      · exact Runner.dispatchNext_fst r s q w v
    · exact Runner.dispatchNext_fst r s q w v

theorem Runner.step_fst_eq (r : Runner W) (s : Runner V) (locked : Bool) (w : W) (v : V)
    (h : r.queue w = s.queue v) : (r.step locked w).1 = (s.step locked v).1 := by
  unfold Runner.step
  rw [h]
  dsimp only
  generalize s.queue v = q
  split
  · rfl
  · split
    · split
      · rfl
      · exact Runner.ordered_fst r s locked q w v
    · exact Runner.ordered_fst r s locked q w v

theorem Runner.step_fst (r : Runner W) (locked : Bool) (w : W) :
    (r.step locked w).1 = ((r.queue w).turn locked).1 :=
  Runner.step_fst_eq r Tape.runner locked w ⟨r.queue w, []⟩ rfl

end Outcome

namespace Queue

/-- What one step can do, from a well-formed queue: nothing when no work is left; run the oldest
keep-alive whatever the lock; under a lock, nothing more; else replay the next buffered command of
a running transaction, or take the next command in order and answer it 510 if it was a flood
rejection, buffer it and answer QUEUED while a transaction collects, or run it. -/
inductive Turn : Bool → Queue → StepOutcome → List Act → Queue → Prop
  | idle {locked q} : q.pending = [] → q.state ≠ .running → Turn locked q .idle [] q
  | keepAlive {locked q e rest} : q.pending = e :: rest → e.keepAlive = true →
      Turn locked q .keepAlive [.exec e.cmd.name e.cmd.params { q with pending := rest }]
        (control e.cmd.name { q with pending := rest })
  | locked {q} : q.pending ≠ [] ∨ q.state = .running → (∀ e ∈ q.pending.head?, e.keepAlive = false) →
      Turn true q .locked [] q
  | replay {q c more} : (∀ e ∈ q.pending.head?, e.keepAlive = false) → q.state = .running →
      q.buffer = c :: more →
      Turn false q .replayed [.exec c.name c.params (q.replayFrom more)]
        (control c.name (q.replayFrom more))
  | reject {q e rest} : q.pending = e :: rest → e.keepAlive = false → q.state ≠ .running →
      e.flooded = true →
      Turn false q .rejected [.reply Code.flood [e.cmd.name] (Bytes.ofString "Excess flood")]
        { q with pending := rest }
  | queue {q e rest} : q.pending = e :: rest → e.keepAlive = false → q.state = .collecting →
      e.flooded = false → isControl e.cmd.name = false →
      Turn false q .queued [.reply Code.queued [e.cmd.name] (Bytes.ofString "QUEUED")]
        { q with pending := rest, buffer := q.buffer ++ [e.cmd] }
  | dispatch {q e rest} : q.pending = e :: rest → e.keepAlive = false → q.state ≠ .running →
      e.flooded = false → (q.state = .collecting → isControl e.cmd.name = true) →
      Turn false q .dispatched [.exec e.cmd.name e.cmd.params { q with pending := rest }]
        (control e.cmd.name { q with pending := rest })

theorem Wf.replaying_iff {q : Queue} (hq : q.Wf) : q.replaying = true ↔ q.state = .running := by
  constructor
  · intro h
    simp only [replaying, Bool.and_eq_true, decide_eq_true_eq] at h
    exact h.1
  · intro h
    simp [replaying, h, hq.running_buffer h]

section Cases

variable {q : Queue} {e : Entry} {rest : List Entry}

theorem turn_keepAlive (hp : q.pending = e :: rest) (hk : e.keepAlive = true) (locked : Bool) :
    q.turn locked = (.keepAlive, [.exec e.cmd.name e.cmd.params { q with pending := rest }],
      control e.cmd.name { q with pending := rest }) := by
  simp [turn, Runner.step, Tape.runner, hp, hk]

theorem turn_idle (hq : q.Wf) (hp : q.pending = []) (hs : q.state ≠ .running) (locked : Bool) :
    q.turn locked = (.idle, [], q) := by
  have hr : q.replaying = false := Bool.eq_false_iff.2 fun h => hs (hq.replaying_iff.1 h)
  simp [turn, Runner.step, Tape.runner, hp, hr, hs]

theorem turn_locked (hw : q.pending ≠ [] ∨ q.replaying = true)
    (hk : ∀ e ∈ q.pending.head?, e.keepAlive = false) : q.turn true = (.locked, [], q) := by
  have hnot : (q.pending.isEmpty && !q.replaying) = false := by
    rcases hw with h | h
    · simp [List.isEmpty_iff, h]
    · simp [h]
  cases hp : q.pending with
  | nil => simp [turn, Runner.step, Runner.ordered, Tape.runner, hnot]; simp [hp]
  | cons e rest =>
    have hke : e.keepAlive = false := hk e (by simp [hp])
    simp [turn, Runner.step, Runner.ordered, Tape.runner, hnot]
    simp [hp, hke]

theorem turn_replay (hq : q.Wf) (hk : ∀ e ∈ q.pending.head?, e.keepAlive = false)
    (hs : q.state = .running) {c : Pending} {more : List Pending} (hb : q.buffer = c :: more) :
    q.turn false = (.replayed, [.exec c.name c.params (q.replayFrom more)],
      control c.name (q.replayFrom more)) := by
  have hr : q.replaying = true := hq.replaying_iff.2 hs
  cases hp : q.pending with
  | nil => simp [turn, Runner.step, Runner.ordered, Tape.runner, hp, hr, hb, replayFrom]
  | cons e rest =>
    have hke : e.keepAlive = false := hk e (by simp [hp])
    simp [turn, Runner.step, Runner.ordered, Tape.runner, hp, hke, hr, hb, replayFrom]

/-- The queue the next command in order finds, when no transaction replays. -/
theorem turn_inOrder (hq : q.Wf) (hp : q.pending = e :: rest) (hk : e.keepAlive = false)
    (hs : q.state ≠ .running) :
    q.turn false =
      if e.flooded then
        (.rejected, [.reply Code.flood [e.cmd.name] (Bytes.ofString "Excess flood")],
          { q with pending := rest })
      else if q.state = .collecting ∧ isControl e.cmd.name = false then
        (.queued, [.reply Code.queued [e.cmd.name] (Bytes.ofString "QUEUED")],
          { q with pending := rest, buffer := q.buffer ++ [e.cmd] })
      else
        (.dispatched, [.exec e.cmd.name e.cmd.params { q with pending := rest }],
          control e.cmd.name { q with pending := rest }) := by
  have hr : q.replaying = false := Bool.eq_false_iff.2 fun h => hs (hq.replaying_iff.1 h)
  simp only [turn, Runner.step, Runner.ordered, Runner.dispatchNext, Tape.runner, hp, hk, hr, hs,
    List.isEmpty_cons, Bool.false_and, Bool.false_eq_true, if_false, Bool.not_false]
  by_cases hf : e.flooded <;> by_cases hc : q.state = .collecting <;>
    cases isControl e.cmd.name <;> simp [hf, hc]

end Cases

theorem turn_spec {q : Queue} (hq : q.Wf) (locked : Bool) :
    Turn locked q (q.turn locked).1 (q.turn locked).2.1 (q.turn locked).2.2 := by
  have hrep := hq.replaying_iff
  -- the lock matters only once no keep-alive stands first and some work is left
  rcases hp : q.pending with _ | ⟨e, rest⟩
  · by_cases hs : q.state = .running
    · obtain ⟨c, more, hb⟩ := List.exists_cons_of_ne_nil (hq.running_buffer hs)
      cases locked
      · rw [turn_replay hq (by simp [hp]) hs hb]
        exact Turn.replay (by simp [hp]) hs hb
      · rw [turn_locked (.inr (hrep.2 hs)) (by simp [hp])]
        exact Turn.locked (.inr hs) (by simp [hp])
    · rw [turn_idle hq hp hs]
      exact Turn.idle hp hs
  · cases hk : e.keepAlive
    · cases locked
      · by_cases hs : q.state = .running
        · obtain ⟨c, more, hb⟩ := List.exists_cons_of_ne_nil (hq.running_buffer hs)
          rw [turn_replay hq (by simp [hp, hk]) hs hb]
          exact Turn.replay (by simp [hp, hk]) hs hb
        · rw [turn_inOrder hq hp hk hs]
          cases hf : e.flooded
          · rw [if_neg Bool.false_ne_true]
            by_cases hc : q.state = .collecting ∧ isControl e.cmd.name = false
            · rw [if_pos hc]
              exact Turn.queue hp hk hc.1 hf hc.2
            · rw [if_neg hc]
              refine Turn.dispatch hp hk hs hf fun h1 => ?_
              cases h2 : isControl e.cmd.name
              · exact absurd ⟨h1, h2⟩ hc
              · rfl
          · rw [if_pos rfl]
            exact Turn.reject hp hk hs hf
      · rw [turn_locked (.inl (by simp [hp])) (by simp [hp, hk])]
        exact Turn.locked (.inl (by simp [hp])) (by simp [hp, hk])
    · rw [turn_keepAlive hp hk]
      exact Turn.keepAlive hp hk

end Queue

namespace Queue

section Views

variable {q : Queue} {e : Entry} {rest : List Entry}

@[simp] theorem keepAlives_control (n : Bytes) (q : Queue) : (control n q).keepAlives = q.keepAlives := by
  simp [keepAlives]

@[simp] theorem ordinary_control (n : Bytes) (q : Queue) : (control n q).ordinary = q.ordinary := by
  simp [ordinary]

theorem views_pop_keepAlive (hp : q.pending = e :: rest) (hk : e.keepAlive = true) :
    q.keepAlives = e :: ({ q with pending := rest } : Queue).keepAlives ∧
      ({ q with pending := rest } : Queue).ordinary = q.ordinary := by
  simp [keepAlives, ordinary, hp, hk]

theorem views_pop_ordinary (hp : q.pending = e :: rest) (hk : e.keepAlive = false) :
    ({ q with pending := rest } : Queue).keepAlives = q.keepAlives ∧
      q.ordinary = e :: ({ q with pending := rest } : Queue).ordinary := by
  simp [keepAlives, ordinary, hp, hk]

theorem Wf.keepAlive_head (hq : q.Wf) {k : Entry} {ks : List Entry} (hks : q.keepAlives = k :: ks) :
    q.pending = k :: (ks ++ q.ordinary) ∧ k.keepAlive = true := by
  refine ⟨by rw [hq.split, hks]; rfl, ?_⟩
  have hk : k ∈ q.keepAlives := by simp [hks]
  simp only [keepAlives, List.mem_filter] at hk
  exact hk.2

end Views

theorem Wf.replayFrom {q : Queue} (hq : q.Wf) {c : Pending} {more : List Pending}
    (hb : q.buffer = c :: more) : (q.replayFrom more).Wf := by
  refine ⟨hq.split, fun hs => ?_, fun hs => ?_, fun p hp => hq.buffer_plain p ?_⟩
  · cases hm : more.isEmpty
    · simp only [Queue.replayFrom, hm] at hs
      simp [hq.idle_buffer hs] at hb
    · simpa [Queue.replayFrom] using hm
  · cases hm : more.isEmpty
    · simpa [Queue.replayFrom] using hm
    · simp [Queue.replayFrom, hm] at hs
  · simp only [Queue.replayFrom] at hp
    simp [hb, hp]

theorem Turn.wf {locked : Bool} {q : Queue} {o : StepOutcome} {acts : List Act} {q' : Queue}
    (h : Turn locked q o acts q') (hq : q.Wf) : q'.Wf := by
  cases h with
  | idle => exact hq
  | keepAlive hp => exact (hq.pop hp).control _
  | locked => exact hq
  | replay _ _ hb => exact (hq.replayFrom hb).control _
  | reject hp => exact hq.pop hp
  | dispatch hp => exact (hq.pop hp).control _
  | queue hp _ hs _ hc =>
    have hpop := hq.pop hp
    refine ⟨hpop.split, fun h => by simp [hs] at h, fun h => by simp [hs] at h, fun p hp' => ?_⟩
    rcases List.mem_append.1 hp' with h | h
    · exact hq.buffer_plain p h
    · rw [List.mem_singleton.1 h]
      exact hc

theorem limiter_enqueue_of_none {q : Queue} (h : q.limiter = none) (n : Bytes) (ps : List Bytes)
    (ka : Bool) : (q.enqueue n ps ka).1.limiter = none := by
  unfold enqueue
  split
  · exact h
  · cases ka
    · simp [h]
    · exact h

theorem elapse_of_none {q : Queue} (h : q.limiter = none) (answer : Nat → Bool) : q.elapse answer = q := by
  cases q
  simp_all [elapse]

/-- What Enqueue can do: refuse a full queue; take a flood rejection (the limiter said no) or
another ordinary command at the end of the line, asking the limiter if there is one; take a
keep-alive behind the keep-alives already waiting. -/
inductive Arrival : Queue → Bytes → List Bytes → Bool → Option QueueError → Queue → Prop
  | full {q n ps ka} : q.maxPending ≤ q.pending.length →
      Arrival q n ps ka (some (.recvQ q.pending.length)) q
  | flooded {q n ps l} : q.pending.length < q.maxPending → q.limiter = some l → l.allow.1 = false →
      Arrival q n ps false (some .flood)
        { q with limiter := some l.allow.2, pending := q.pending ++ [⟨⟨Text.toUpper n, []⟩, false, true⟩] }
  | ordinary {q n ps} : q.pending.length < q.maxPending → (∀ l, q.limiter = some l → l.allow.1 = true) →
      Arrival q n ps false none
        { q with limiter := q.limiter.map (·.allow.2),
                 pending := q.pending ++ [⟨⟨Text.toUpper n, ps⟩, false, false⟩] }
  | keepAlive {q n ps} : q.pending.length < q.maxPending →
      Arrival q n ps true none
        { q with pending := q.pending.takeWhile (·.keepAlive) ++
            ⟨⟨Text.toUpper n, ps⟩, true, false⟩ :: q.pending.dropWhile (·.keepAlive) }

theorem enqueue_spec (q : Queue) (n : Bytes) (ps : List Bytes) (ka : Bool) :
    Arrival q n ps ka (q.enqueue n ps ka).2 (q.enqueue n ps ka).1 := by
  unfold enqueue
  split
  · exact Arrival.full (by omega)
  · have hl : q.pending.length < q.maxPending := by omega
    cases ka with
    | true => exact Arrival.keepAlive hl
    | false =>
      -- an ordinary command asks the limiter, when there is one
      cases hlim : q.limiter with
      | none => simpa [hlim] using @Arrival.ordinary q n ps hl fun _ h => by simp [hlim] at h
      | some l =>
        cases hal : l.allow.1
        · simpa [hal] using Arrival.flooded hl hlim hal
        · simpa [hal, hlim] using Arrival.ordinary hl fun l' h => (Option.some.inj (hlim.symm.trans h)) ▸ hal

theorem Wf.splice {q : Queue} (hq : q.Wf) (x : Entry) :
    q.pending.takeWhile (·.keepAlive) ++ x :: q.pending.dropWhile (·.keepAlive) =
      q.keepAlives ++ x :: q.ordinary := by
  have hk : ∀ a ∈ q.keepAlives, a.keepAlive = true := fun a ha => by
    simp only [keepAlives, List.mem_filter] at ha
    exact ha.2
  have ho : q.ordinary.takeWhile (·.keepAlive) = [] ∧ q.ordinary.dropWhile (·.keepAlive) = q.ordinary := by
    cases h : q.ordinary with
    | nil => simp
    | cons o os =>
      have ho : o ∈ q.ordinary := by simp [h]
      simp only [ordinary, List.mem_filter, Bool.not_eq_true'] at ho
      simp [ho.2]
  rw [hq.split, List.takeWhile_append_of_pos hk, List.dropWhile_append_of_pos hk, ho.1, ho.2,
    List.append_nil]

theorem views_snoc (q q' : Queue) {x : Entry} (hp : q'.pending = q.pending ++ [x])
    (hx : x.keepAlive = false) : q'.keepAlives = q.keepAlives ∧ q'.ordinary = q.ordinary ++ [x] := by
  simp [keepAlives, ordinary, hp, hx]

theorem views_splice (q q' : Queue) {x : Entry} (hp : q'.pending = q.keepAlives ++ x :: q.ordinary)
    (hx : x.keepAlive = true) : q'.keepAlives = q.keepAlives ++ [x] ∧ q'.ordinary = q.ordinary := by
  have hk : q.keepAlives.filter (·.keepAlive) = q.keepAlives :=
    List.filter_eq_self.2 fun a ha => (List.mem_filter.1 ha).2
  have ho : q.ordinary.filter (·.keepAlive) = [] :=
    List.filter_eq_nil_iff.2 fun a ha => by simpa using (List.mem_filter.1 ha).2
  have hk' : q.keepAlives.filter (!·.keepAlive) = [] :=
    List.filter_eq_nil_iff.2 fun a ha => by simpa using (List.mem_filter.1 ha).2
  have ho' : q.ordinary.filter (!·.keepAlive) = q.ordinary :=
    List.filter_eq_self.2 fun a ha => (List.mem_filter.1 ha).2
  constructor
  · rw [keepAlives, hp, List.filter_append, hk, List.filter_cons, hx, if_pos rfl, ho]
  · rw [ordinary, hp, List.filter_append, hk', List.filter_cons, hx, ho']
    rfl

/-- The ordinary command Enqueue took, given its arguments and its error, as the queue keeps it:
a flood rejection keeps its place but not its parameters. -/
def takenOrdinary (n : Bytes) (ps : List Bytes) : Bool → Option QueueError → Option Entry
  | false, none => some ⟨⟨Text.toUpper n, ps⟩, false, false⟩
  | false, some .flood => some ⟨⟨Text.toUpper n, []⟩, false, true⟩
  | _, _ => none

/-- The keep-alive command Enqueue took, given its arguments and its error. -/
def takenKeepAlive (n : Bytes) (ps : List Bytes) : Bool → Option QueueError → Option Entry
  | true, none => some ⟨⟨Text.toUpper n, ps⟩, true, false⟩
  | _, _ => none

/-- An arrival puts the command it took behind the others of its kind and leaves the rest alone. -/
theorem Arrival.views {q : Queue} {n : Bytes} {ps : List Bytes} {ka : Bool} {err : Option QueueError}
    {q' : Queue} (h : Arrival q n ps ka err q') (hq : q.Wf) :
    q'.ordinary = q.ordinary ++ (takenOrdinary n ps ka err).toList ∧
      q'.keepAlives = q.keepAlives ++ (takenKeepAlive n ps ka err).toList := by
  cases h with
  | full => cases ka <;> simp [takenOrdinary, takenKeepAlive]
  | @flooded l _ _ _ =>
    obtain ⟨h1, h2⟩ := views_snoc q
      { q with limiter := some l.allow.2, pending := q.pending ++ [⟨⟨Text.toUpper n, []⟩, false, true⟩] } rfl rfl
    simp [h1, h2, takenOrdinary, takenKeepAlive]
  | ordinary =>
    obtain ⟨h1, h2⟩ := views_snoc q
      { q with limiter := q.limiter.map (·.allow.2),
               pending := q.pending ++ [⟨⟨Text.toUpper n, ps⟩, false, false⟩] } rfl rfl
    simp [h1, h2, takenOrdinary, takenKeepAlive]
  | keepAlive =>
    obtain ⟨h1, h2⟩ := views_splice q
      { q with pending := q.keepAlives ++ ⟨⟨Text.toUpper n, ps⟩, true, false⟩ :: q.ordinary } rfl rfl
    rw [hq.splice]
    simp [h1, h2, takenOrdinary, takenKeepAlive]

theorem Arrival.wf {q : Queue} {n : Bytes} {ps : List Bytes} {ka : Bool} {err : Option QueueError}
    {q' : Queue} (h : Arrival q n ps ka err q') (hq : q.Wf) :
    q'.Wf ∧ q'.state = q.state ∧ q'.buffer = q.buffer := by
  obtain ⟨ho, hk⟩ := h.views hq
  cases h with
  | full => exact ⟨hq, rfl, rfl⟩
  | flooded | ordinary =>
    refine ⟨⟨?_, hq.idle_buffer, hq.running_buffer, hq.buffer_plain⟩, rfl, rfl⟩
    simp only [takenOrdinary, takenKeepAlive, Option.toList, List.append_nil] at ho hk
    rw [hk, ho, ← List.append_assoc, ← hq.split]
  | keepAlive =>
    refine ⟨⟨?_, hq.idle_buffer, hq.running_buffer, hq.buffer_plain⟩, rfl, rfl⟩
    simp only [takenOrdinary, takenKeepAlive, Option.toList, List.append_nil] at ho hk
    rw [hk, ho, hq.splice]
    simp

end Queue

end LineKv
