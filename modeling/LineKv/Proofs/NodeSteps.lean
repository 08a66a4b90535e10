import LineKv.Server.Loop

/-!
What each operation of the loop on one connection can do, guards included. Queueing a line, a quit
and a write event end alike: a record whose link the operation closed is torn down
(`Node.cullClosed`).
-/

namespace LineKv.WorkerPool

/-! Only starting the pool sets its lifecycle flag; no other move of it clears the flag. -/

@[simp] theorem submit_started (p : WorkerPool) (j : Job) : (p.submit j).1.started = p.started := by
  unfold submit
  split
  · rfl
  · split
    · rfl
    · split <;> rfl

@[simp] theorem stop_started (p : WorkerPool) : p.stop.started = p.started := by
  unfold stop
  split <;> rfl

@[simp] theorem finish_started (p : WorkerPool) (j : Job) : (p.finish j).started = p.started := rfl

@[simp] theorem start_started (p : WorkerPool) : p.start.1.started = true := by
  unfold start
  split
  · assumption
  · rfl

theorem take_started {p p' : WorkerPool} {j : Job} (h : p.take = some (j, p')) : p'.started = p.started := by
  unfold take at h
  split at h
  · cases h
  · split at h
    · cases h
      rfl
    · cases h

end LineKv.WorkerPool

namespace LineKv.Server

open Transport

namespace Node

/-- Tearing a connection down: nothing for a missing record or one torn down already; otherwise the
record is marked dead, keeping the first reason given, its link is closed, and its id joins the
teardown list. -/
theorem cull_cases (s : Node) (id reason : Bytes) :
    (s.cull id reason = s ∧ ∀ c, s.conn? id = some c → c.dead = true) ∨
      ∃ c, s.conn? id = some c ∧ c.dead = false ∧
        s.cull id reason =
          { ((s.modifyConn id fun c =>
                { c with dead := true, reason := if c.reason.isEmpty then reason else c.reason }).onLink id
              fun l => do return ((), ← l.close)).2 with
            culled := ((s.modifyConn id fun c =>
                { c with dead := true, reason := if c.reason.isEmpty then reason else c.reason }).onLink id
              fun l => do return ((), ← l.close)).2.culled ++ [id] } := by
  unfold cull
  cases hc : s.conn? id with
  | none => exact .inl ⟨rfl, fun _ => nofun⟩
  | some c =>
    dsimp only
    by_cases hd : c.dead = true
    · exact .inl ⟨if_pos hd, fun _ h => Option.some.inj h ▸ hd⟩
    · exact .inr ⟨c, rfl, by simpa using hd, if_neg hd⟩

/-- Tear the connection `id` down when its link has closed, with a reason read off its record. -/
def cullClosed (s : Node) (id : Bytes) (reason : Connection → Bytes) : Node :=
  match s.conn? id with
  | some c => if c.link.closed then s.cull id (reason c) else s
  | none => s

theorem cullClosed_cases (s : Node) (id : Bytes) (reason : Connection → Bytes) :
    (s.cullClosed id reason = s ∧ ∀ c, s.conn? id = some c → c.link.closed = false) ∨
      ∃ c, s.conn? id = some c ∧ c.link.closed = true ∧ s.cullClosed id reason = s.cull id (reason c) := by
  unfold cullClosed
  cases hc : s.conn? id with
  | none => exact .inl ⟨rfl, fun _ => nofun⟩
  | some c =>
    dsimp only
    cases hcl : c.link.closed
    · exact .inl ⟨if_neg Bool.false_ne_true, fun _ h => Option.some.inj h ▸ hcl⟩
    · exact .inr ⟨c, rfl, hcl, if_pos rfl⟩

theorem cullClosed_of {P : Node → Prop} {s : Node} {id : Bytes} (reason : Connection → Bytes) (hs : P s)
    (hcull : ∀ r, P (s.cull id r)) : P (s.cullClosed id reason) := by
  rcases cullClosed_cases s id reason with ⟨h, -⟩ | ⟨c, -, -, h⟩ <;> rw [h]
  · exact hs
  · exact hcull _

/-- Queueing a line: nothing for a missing record, a torn-down one or one draining its link;
otherwise the line is written to the link, and a link the write closed (its send queue overflowed)
has its connection torn down. -/
theorem send_cases (s : Node) (id line : Bytes) :
    (s.send id line = s ∧ ∀ c, s.conn? id = some c → (c.dead || c.link.closing) = true) ∨
      ∃ c, s.conn? id = some c ∧ c.dead = false ∧ c.link.closing = false ∧
        s.send id line = (s.onLink id fun l => do return ((), ← l.write line)).2.cullClosed id
          fun c => causeOf c.link.err := by
  unfold send
  cases hc : s.conn? id with
  | none => exact .inl ⟨rfl, fun _ => nofun⟩
  | some c =>
    dsimp only
    by_cases hg : (c.dead || c.link.closing) = true
    · exact .inl ⟨if_pos hg, fun _ h => Option.some.inj h ▸ hg⟩
    · obtain ⟨hd, hcl⟩ : c.dead = false ∧ c.link.closing = false := by simpa using hg
      exact .inr ⟨c, rfl, hd, hcl, if_neg hg⟩

/-- A quit: nothing for a missing record or one already stopped; otherwise the record is marked
draining with its queue dropped, its link is told to close once drained, and a link that closed at
once has its connection torn down. -/
theorem quit_cases (s : Node) (id reason : Bytes) :
    (s.quit id reason = s ∧ ∀ c, s.conn? id = some c → c.closed = true) ∨
      ∃ c, s.conn? id = some c ∧ c.closed = false ∧
        s.quit id reason = ((s.modifyConn id fun c =>
            { c with quitting := true, quitAt := s.now, reason := reason, queue := c.queue.discard }).onLink id
          fun l => do return ((), ← l.closeAfterFlush)).2.cullClosed id fun _ => reason := by
  unfold quit
  cases hc : s.conn? id with
  | none => exact .inl ⟨rfl, fun _ => nofun⟩
  | some c =>
    dsimp only
    by_cases hg : c.closed = true
    · exact .inl ⟨if_pos hg, fun _ h => Option.some.inj h ▸ hg⟩
    · exact .inr ⟨c, rfl, by simpa using hg, if_neg hg⟩

theorem quit_of_closed {s : Node} {k : Bytes} {c : Connection} (hc : s.conn? k = some c) (hcl : c.closed = true)
    (reason : Bytes) : s.quit k reason = s := by
  unfold quit
  rw [hc]
  exact if_pos hcl

/-- A read event: nothing for a missing record or a stopped one; otherwise the link reads, a read
failure tears the connection down, and else the input read is framed. -/
theorem onReadable_cases (s : Node) (id : Bytes) :
    (s.onReadable id = s ∧ ∀ c, s.conn? id = some c → c.closed = true) ∨
      ∃ c, s.conn? id = some c ∧ c.closed = false ∧
        ((∃ e, (s.onLink id fun l => l.handleReadable).1 = some (some e) ∧
            s.onReadable id = (s.onLink id fun l => l.handleReadable).2.cull id (causeOf (some e))) ∨
          ((∀ e, (s.onLink id fun l => l.handleReadable).1 ≠ some (some e)) ∧
            s.onReadable id = (s.onLink id fun l => l.handleReadable).2.drainInput id)) := by
  unfold onReadable
  cases hc : s.conn? id with
  | none => exact .inl ⟨rfl, fun _ => nofun⟩
  | some c =>
    dsimp only
    by_cases hg : c.closed = true
    · exact .inl ⟨if_pos hg, fun _ h => Option.some.inj h ▸ hg⟩
    refine .inr ⟨c, rfl, by simpa using hg, ?_⟩
    rw [if_neg hg]
    -- the read's report: a failure, or none
    rcases s.onLink id (fun l => l.handleReadable) with ⟨_ | _ | e, t⟩
    · exact .inr ⟨fun _ => nofun, rfl⟩
    · exact .inr ⟨fun _ => nofun, rfl⟩
    · exact .inl ⟨e, rfl, rfl⟩

/-- A write event: nothing for a missing record or a torn-down one; otherwise the link flushes, a
flush failure tears the connection down, and else a link the flush closed (drained in
drain-then-close mode) has its connection torn down. -/
theorem onWritable_cases (s : Node) (id : Bytes) :
    (s.onWritable id = s ∧ ∀ c, s.conn? id = some c → c.dead = true) ∨
      ∃ c, s.conn? id = some c ∧ c.dead = false ∧
        ((∃ e, (s.onLink id fun l => l.flush).1 = some (some e) ∧
            s.onWritable id = (s.onLink id fun l => l.flush).2.cull id (causeOf (some e))) ∨
          ((∀ e, (s.onLink id fun l => l.flush).1 ≠ some (some e)) ∧
            s.onWritable id = (s.onLink id fun l => l.flush).2.cullClosed id (·.reason))) := by
  unfold onWritable
  cases hc : s.conn? id with
  | none => exact .inl ⟨rfl, fun _ => nofun⟩
  | some c =>
    dsimp only
    by_cases hg : c.dead = true
    · exact .inl ⟨if_pos hg, fun _ h => Option.some.inj h ▸ hg⟩
    refine .inr ⟨c, rfl, by simpa using hg, ?_⟩
    rw [if_neg hg]
    -- the flush's report: a failure, or none
    rcases s.onLink id (fun l => l.flush) with ⟨_ | _ | e, t⟩
    · exact .inr ⟨fun _ => nofun, rfl⟩
    · exact .inr ⟨fun _ => nofun, rfl⟩
    · exact .inl ⟨e, rfl, rfl⟩

theorem closeLayers_run_socket (sock : Socket) (rest : List LayerSpec) (w : Wire) :
    (closeLayers (.socket sock :: rest)).run w = (closeLayers rest).run (sock.close.run w).2 := by
  simp only [closeLayers, StateT.run_bind]
  rfl

/-- Attaching: a draining node refuses the chain; otherwise a session number is used up, and either
the chain is refused or a fresh connection under the id drawn for that number is accepted over the
link made, and its first read is posted. -/
theorem attach_cases (s : Node) (layers : List LayerSpec) (pipe : Nat) (remote listener : Bytes)
    (release : Option Nat) :
    (s.draining = true ∧ s.attach layers pipe remote listener release =
        (.error (.of .connClosed (Bytes.ofString "server: connection closed")), s.refuse layers pipe release)) ∨
      (s.draining = false ∧ ∃ e, s.attach layers pipe remote listener release =
        (.error e, { s with sessions := s.sessions + 1 }.refuse layers pipe release)) ∨
      (s.draining = false ∧ ∃ link wire,
        (Link.create layers s.config.limits).run ⟨s.pipe pipe, []⟩ = (.ok link, wire) ∧
        s.attach layers pipe remote listener release =
          (.ok (s.draws.id (s.sessions + 1)),
            (({ s with sessions := s.sessions + 1 }.accept
                ({ s with sessions := s.sessions + 1 }.fresh (s.sessions + 1) remote listener link pipe release)
                wire.pipe).deliver pipe wire.signals).readable (s.draws.id (s.sessions + 1)))) := by
  unfold attach
  by_cases hd : s.draining = true
  · exact .inl ⟨hd, if_pos hd⟩
  · refine .inr ?_
    rw [if_neg hd]
    have hp : ({ s with sessions := s.sessions + 1 } : Node).pipe pipe = s.pipe pipe := rfl
    dsimp only
    rw [hp]
    rcases hmade : (Link.create layers s.config.limits).run ⟨s.pipe pipe, []⟩ with ⟨_ | link, wire⟩
    · exact .inl ⟨by simpa using hd, _, rfl⟩
    · exact .inr ⟨by simpa using hd, link, wire, rfl, rfl⟩

@[simp] theorem conns_accept (s : Node) (c : Connection) (p : Pipe) : (s.accept c p).conns = s.conns ++ [c] :=
  rfl

@[simp] theorem draws_accept (s : Node) (c : Connection) (p : Pipe) : (s.accept c p).draws = s.draws := rfl

@[simp] theorem sessions_accept (s : Node) (c : Connection) (p : Pipe) : (s.accept c p).sessions = s.sessions :=
  rfl

@[simp] theorem id_fresh (s : Node) (n : Nat) (remote listener : Bytes) (link : Link) (pipe : Nat)
    (release : Option Nat) : (s.fresh n remote listener link pipe release).id = s.draws.id n := rfl

@[simp] theorem pipe_fresh (s : Node) (n : Nat) (remote listener : Bytes) (link : Link) (pipe : Nat)
    (release : Option Nat) : (s.fresh n remote listener link pipe release).pipe = pipe := rfl

theorem inline_of_started {s : Node} {p : Option WorkerPool} (h : p.map (·.started) = s.pool.map (·.started))
    (jobs : List (Nat × PoolJob)) (made : Nat) :
    ({ s with pool := p, jobs := jobs, jobsMade := made } : Node).inline = s.inline := by
  unfold inline
  cases p <;> cases hs : s.pool <;> simp_all

theorem inline_startPool {s : Node} (h : s.startPool.inline = true) : s.pool = none := by
  unfold startPool inline at h
  cases hp : s.pool with
  | none => rfl
  | some p => simp [hp] at h

theorem conns_takeJob (s : Node) : s.takeJob.conns = s.conns := by
  unfold takeJob
  split
  · split <;> rfl
  · rfl

theorem conns_finishJob (s : Node) (j : Job) : (s.finishJob j).conns = s.conns := by
  unfold finishJob
  split
  · dsimp only
    split
    · split <;> rfl
    · rfl
  · rfl

@[simp] theorem pool_lock (s : Node) (id : Bytes) : (s.lock id).pool = s.pool := rfl

@[simp] theorem pool_unlock (s : Node) (id : Bytes) : (s.unlock id).pool = s.pool := rfl

theorem unlock_lock (s : Node) (id : Bytes) : (s.lock id).unlock id = s := by
  have hback : ∀ c ∈ s.conns,
      ((fun c : Connection => if c.id == id then { c with locked := c.locked - 1 } else c) ∘
        fun c : Connection => if c.id == id then { c with locked := c.locked + 1 } else c) c = c := by
    intro c _
    have hid : ({ c with locked := c.locked + 1 } : Connection).id = c.id := rfl
    by_cases hc : c.id = id <;> simp [hc, hid]
  simp only [unlock, lock, modifyConn, List.map_map]
  rw [List.map_congr_left hback, List.map_id']

theorem unlock_lock_conns (s : Node) (id : Bytes) :
    (s.lock id).conns.map (fun c => if c.id == id then { c with locked := c.locked - 1 } else c) =
      s.conns :=
  congrArg Node.conns (unlock_lock s id)

/-- Offloading: refused with a busy reply when the connection is missing or closing. Otherwise its
lock is taken; without a pool the work runs and is answered at once, the lock given back; with
one, the job is refused (the pool not started or stopped, or its queue full), the lock given back,
or it waits in the pool holding the lock. -/
theorem offload_cases (s : Node) (id : Bytes) (name : String) (w : Work) :
    (s.offload id name w = s.busy id name ∧ ∀ c, s.conn? id = some c → c.closed = true) ∨
      ∃ c, s.conn? id = some c ∧ c.closed = false ∧
        ((s.pool = none ∧ s.offload id name w = (.deferred,
            { s with services := { s.services with store := (w.run s.services.hasher s.services.store s.services.accounts).2 } }.answerWork
              id (w.run s.services.hasher s.services.store s.services.accounts).1)) ∨
          (∃ p p' e, s.pool = some p ∧ p.submit ⟨s.jobsMade, .completes true, true⟩ = (p', some e) ∧
            s.offload id name w = { s with pool := some p' }.busy id name) ∨
          (∃ p p', s.pool = some p ∧ p.submit ⟨s.jobsMade, .completes true, true⟩ = (p', none) ∧
            s.offload id name w = (.deferred, { s.lock id with
              pool := some p'
              jobs := s.jobs ++ [(s.jobsMade, ⟨id, name, w⟩)]
              jobsMade := s.jobsMade + 1 }))) := by
  unfold offload
  cases hc : s.conn? id with
  | none => exact .inl ⟨rfl, fun _ h => by cases h⟩
  | some c =>
    dsimp only
    by_cases hcl : c.closed = true
    · exact .inl ⟨if_pos hcl, fun _ h => Option.some.inj h ▸ hcl⟩
    refine .inr ⟨c, rfl, by simpa using hcl, ?_⟩
    rw [if_neg hcl]
    have hpool : (s.lock id).pool = s.pool := rfl
    rw [hpool]
    cases hp : s.pool with
    | none =>
      refine .inl ⟨rfl, ?_⟩
      simp only [applyWork, unlock, modifyConn, unlock_lock_conns]
      rfl
    | some p =>
      have hmade : (s.lock id).jobsMade = s.jobsMade := rfl
      dsimp only
      rw [hmade]
      rcases hsub : p.submit ⟨s.jobsMade, .completes true, true⟩ with ⟨p', _ | e⟩
      · exact .inr (.inr ⟨p, p', rfl, hsub, rfl⟩)
      · refine .inr (.inl ⟨p, p', e, rfl, hsub, ?_⟩)
        simp only [unlock, modifyConn, unlock_lock_conns]
        rfl

/-- A pool that was never started refuses every job, so offloading never leaves work waiting. -/
theorem offload_inline {s : Node} (hin : s.inline = true) (id : Bytes) (name : String) (w : Work) :
    (s.offload id name w = s.busy id name ∧ ∀ c, s.conn? id = some c → c.closed = true) ∨
      ∃ c, s.conn? id = some c ∧ c.closed = false ∧
        ((s.pool = none ∧ s.offload id name w = (.deferred,
            { s with services := { s.services with store := (w.run s.services.hasher s.services.store s.services.accounts).2 } }.answerWork
              id (w.run s.services.hasher s.services.store s.services.accounts).1)) ∨
          (∃ p, s.pool = some p ∧ p.started = false ∧ s.offload id name w = s.busy id name)) := by
  rcases offload_cases s id name w with h | ⟨c, hc, hcl, h | ⟨p, p', e, hp, hsub, h⟩ | ⟨p, p', hp, hsub, -⟩⟩
  · exact .inl h
  · exact .inr ⟨c, hc, hcl, .inl h⟩
  · -- an unstarted pool refuses the job and stays as it was
    have hst : p.started = false := by simpa [inline, hp] using hin
    have hp' : p' = p := by
      simp only [WorkerPool.submit, hst] at hsub
      exact (Prod.mk.inj hsub).1.symm
    subst hp'
    refine .inr ⟨c, hc, hcl, .inr ⟨p', hp, hst, ?_⟩⟩
    rw [h, ← hp]
  · have hst : p.started = false := by simpa [inline, hp] using hin
    simp [WorkerPool.submit, hst] at hsub

end Node

end LineKv.Server
