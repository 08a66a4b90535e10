import LineKv.Proofs.RecvFrame
import LineKv.Proofs.HandlerEffects

/-!
What is done for one connection, said once: a property that each primitive change of a
connection's operations keeps (`Node.Own`, and for commands `Node.Acts`, `Node.Calm`) is kept by
the whole operation.
-/

namespace LineKv.Server

open Command Transport

def Connection.unflagged (c : Connection) : Connection := { c with readPosted := false, writePosted := false }

namespace Node

/-- A property of nodes that the changes made for connection `id` itself keep: changes of its
record that keep its id and its session's timers, writes of pipes, readiness posted for any
connection, and the lists of posted events and culled connections and the counters. -/
structure Own (id : Bytes) (P : Node → Prop) : Prop where
  modifyConn : ∀ (s : Node) (f : Connection → Connection), (∀ c, (f c).id = c.id) →
    (∀ c, (f c).session.timers = c.session.timers) → P s → P (s.modifyConn id f)
  setPipe : ∀ (s : Node) (i : Nat) (p : Pipe), P s → P (s.setPipe i p)
  posting : ∀ (s : Node) (k : Bytes) (r w : Connection → Bool), P s →
    P (s.modifyConn k fun c => { c with readPosted := r c, writePosted := w c })
  posted : ∀ (s : Node) (l : List Post), P s → P { s with posted := l }
  culled : ∀ (s : Node) (l : List Bytes), P s → P { s with culled := l }
  counters : ∀ (s : Node) (n : Counters), P s → P { s with counters := n }

/-- A property of nodes that everything a command of connection `id` does keeps, save touching
its session: its own changes, lines to any connection, and changes of the services, of the pool
with its jobs, and of the parked events. -/
structure Acts (id : Bytes) (P : Node → Prop) : Prop extends Own id P where
  sendTo : ∀ (s : Node) (k line : Bytes), P s → P (s.send k line)
  services : ∀ (s : Node) (sv : Services), P s → P { s with services := sv }
  pool : ∀ (s : Node) (p : Option WorkerPool) (jobs : List (Nat × PoolJob)) (made : Nat),
    p.map (·.started) = s.pool.map (·.started) → P s → P { s with pool := p, jobs := jobs, jobsMade := made }
  parked : ∀ (s : Node) (p : Parked), P s → P { s with parked := p }

/-- A property of nodes that everything a command of connection `id` does keeps, in the terms its
handlers are written in, save touching its session: changes of its session that keep its timers
and of its queue, taking its lock, lines to any connection, closing its link with a reason, and
changes of the counters, the services, the pool with its jobs and the parked events. -/
structure Calm (id : Bytes) (P : Node → Prop) : Prop where
  modifySession : ∀ (s : Node) (g : Session → Session), (∀ ss, (g ss).id = ss.id) →
    (∀ ss, (g ss).timers = ss.timers) → P s → P (s.modifySession id g)
  modifyQueue : ∀ (s : Node) (f : Queue → Queue), P s → P (s.modifyQueue id f)
  lock : ∀ (s : Node), P s → P (s.lock id)
  sendTo : ∀ (s : Node) (k line : Bytes), P s → P (s.send k line)
  closeLink : ∀ (s : Node) (reason : Bytes), reason ≠ [] → P s → P (s.closeLink id reason)
  counters : ∀ (s : Node) (n : Counters), P s → P { s with counters := n }
  services : ∀ (s : Node) (sv : Services), P s → P { s with services := sv }
  pool : ∀ (s : Node) (p : Option WorkerPool) (jobs : List (Nat × PoolJob)) (made : Nat),
    p.map (·.started) = s.pool.map (·.started) → P s → P { s with pool := p, jobs := jobs, jobsMade := made }
  parked : ∀ (s : Node) (p : Parked), P s → P { s with parked := p }

/-- A property of nodes that framing connection `id`'s input keeps: changes of its receive buffer
and of its queue, the counters, and closing its link with any reason. -/
structure Frames (id : Bytes) (P : Node → Prop) : Prop where
  recv : ∀ (s : Node) (g : Bytes → Bytes), P s →
    P (s.modifyConn id fun c => { c with link := { c.link with recv := g c.link.recv } })
  modifyQueue : ∀ (s : Node) (f : Queue → Queue), P s → P (s.modifyQueue id f)
  counters : ∀ (s : Node) (n : Counters), P s → P { s with counters := n }
  closeLink : ∀ (s : Node) (reason : Bytes), P s → P (s.closeLink id reason)

variable {id : Bytes} {P : Node → Prop}

namespace Frames

variable (hf : Frames id P)
include hf

theorem reject (s : Node) (hs : P s) : P s.reject :=
  hf.counters s _ hs

theorem enqueue (s : Node) (name : Bytes) (params : List Bytes) (hs : P s) :
    P (s.enqueue id name params).2 := by
  unfold Node.enqueue
  split
  · exact hs
  · split
    · exact hs
    · dsimp only
      split <;> dsimp only
      · exact hf.modifyQueue s _ hs
      · exact hf.reject _ (hf.modifyQueue s _ hs)
      · exact hf.closeLink _ _ (hf.modifyQueue s _ hs)

theorem drain (s : Node) (fuel : Nat) (hs : P s) : P (s.drain id fuel) := by
  induction fuel generalizing s with
  | zero => exact hs
  | succ fuel ih =>
    -- every round frames one line and recurs on what the line left
    have hrecv : ∀ (t : Node) rest, P t →
        P (t.modifyConn id fun c => { c with link := { c.link with recv := rest } }) :=
      fun t rest ht => hf.recv t (fun _ => rest) ht
    unfold Node.drain
    split
    · exact hs
    · split
      · exact hs
      · dsimp only
        split
        · exact hf.closeLink _ _ (hf.reject _ hs)
        · exact ih _ (hf.reject _ (hrecv _ _ hs))
        · exact hs
        · split
          · exact ih _ (hrecv _ _ hs)
          · split
            · exact ih _ (hf.reject _ (hrecv _ _ hs))
            · rename_i text rest _ _ _ msg _
              have he := hf.enqueue _ msg.command msg.params (hrecv s rest hs)
              split <;> rename_i heq' <;> rw [heq'] at he
              · exact ih _ he
              · split
                · exact ih _ he
                · exact he

theorem drainInput (s : Node) (hs : P s) : P (s.drainInput id) := by
  unfold Node.drainInput
  split
  · exact hs
  · exact hf.drain _ _ hs

theorem submit (s : Node) (raw : Bytes) (hs : P s) : P (s.submit id raw) := by
  unfold Node.submit
  split
  · exact hs
  · split
    · exact hs
    · exact hf.drainInput _ (hf.recv s (· ++ raw) hs)

end Frames

namespace Own

variable (ho : Own id P)
include ho

theorem readable (s : Node) (k : Bytes) (hs : P s) : P (s.readable k) := by
  unfold Node.readable
  split
  · split
    · exact hs
    · exact ho.posted _ _ (ho.posting s k (fun _ => true) (·.writePosted) hs)
  · exact hs

theorem writable (s : Node) (k : Bytes) (hs : P s) : P (s.writable k) := by
  unfold Node.writable
  split
  · split
    · exact hs
    · exact ho.posted _ _ (ho.posting s k (·.readPosted) (fun _ => true) hs)
  · exact hs

theorem deliver (s : Node) (pipe : Nat) (signals : List Signal) (hs : P s) :
    P (s.deliver pipe signals) := by
  unfold Node.deliver
  split
  · exact hs
  · -- each signal posts readiness for the connection holding the pipe's server end
    refine foldl_preserves P (fun t sig ht => ?_) signals s hs
    cases sig <;> dsimp only <;> split
    · exact ho.readable t _ ht
    · exact ht
    · exact ho.writable t _ ht
    · exact ht

theorem onLink {β : Type} (s : Node) (op : Link → WireM (β × Link)) (hs : P s) :
    P (s.onLink id op).2 := by
  unfold Node.onLink
  split
  · exact hs
  · split
    exact ho.deliver _ _ _ (ho.modifyConn _ _ (fun _ => rfl) (fun _ => rfl) (ho.setPipe _ _ _ hs))

theorem cull (s : Node) (reason : Bytes) (hs : P s) : P (s.cull id reason) := by
  rcases cull_cases s id reason with ⟨h, -⟩ | ⟨c, -, -, h⟩ <;> rw [h]
  · exact hs
  · have hl := ho.onLink _ (fun l => do return ((), ← l.close))
      (ho.modifyConn s (fun c => { c with dead := true, reason := if c.reason.isEmpty then reason else c.reason })
        (fun _ => rfl) (fun _ => rfl) hs)
    exact ho.culled _ _ hl

theorem cullClosed (s : Node) (reason : Connection → Bytes) (hs : P s) : P (s.cullClosed id reason) :=
  cullClosed_of reason hs fun r => ho.cull s r hs

theorem send (s : Node) (line : Bytes) (hs : P s) : P (s.send id line) := by
  rcases send_cases s id line with ⟨h, -⟩ | ⟨c, -, -, -, h⟩ <;> rw [h]
  · exact hs
  · exact ho.cullClosed _ _ (ho.onLink s _ hs)

theorem reply (s : Node) (code : Line.Code) (params : List Bytes) (text : Bytes) (hs : P s) :
    P (s.reply id code params text) :=
  ho.send s _ hs

theorem quit (s : Node) (reason : Bytes) (hs : P s) : P (s.quit id reason) := by
  rcases quit_cases s id reason with ⟨h, -⟩ | ⟨c, -, -, h⟩ <;> rw [h]
  · exact hs
  · -- the connection drains: flagged, then its link closes after the output
    have hq := ho.modifyConn s
      (fun c => { c with quitting := true, quitAt := s.now, reason := reason, queue := c.queue.discard })
      (fun _ => rfl) (fun _ => rfl) hs
    exact ho.cullClosed _ _ (ho.onLink _ _ hq)

theorem closeLink (s : Node) (reason : Bytes) (hs : P s) : P (s.closeLink id reason) :=
  ho.quit _ _ (ho.send s _ hs)

theorem modifySession (s : Node) {g : Session → Session} (hid : ∀ ss, (g ss).id = ss.id)
    (ht : ∀ ss, (g ss).timers = ss.timers) (hs : P s) : P (s.modifySession id g) :=
  ho.modifyConn s _ (fun c => hid c.session) (fun c => ht c.session) hs

theorem modifyQueue (s : Node) (f : Queue → Queue) (hs : P s) : P (s.modifyQueue id f) :=
  ho.modifyConn s _ (fun _ => rfl) (fun _ => rfl) hs

theorem reject (s : Node) (hs : P s) : P s.reject :=
  ho.counters s _ hs

theorem count (s : Node) (out : StepOutcome) (hs : P s) : P (s.count out).2 := by
  cases out
  case idle | locked | rejected => exact hs
  all_goals exact ho.counters s _ hs

theorem frames : Frames id P where
  recv s _ hs := ho.modifyConn s _ (fun _ => rfl) (fun _ => rfl) hs
  modifyQueue := ho.modifyQueue
  counters := ho.counters
  closeLink := ho.closeLink

theorem enqueue (s : Node) (name : Bytes) (params : List Bytes) (hs : P s) :
    P (s.enqueue id name params).2 :=
  ho.frames.enqueue s name params hs

theorem drain (s : Node) (fuel : Nat) (hs : P s) : P (s.drain id fuel) :=
  ho.frames.drain s fuel hs

theorem drainInput (s : Node) (hs : P s) : P (s.drainInput id) :=
  ho.frames.drainInput s hs

theorem submit (s : Node) (raw : Bytes) (hs : P s) : P (s.submit id raw) :=
  ho.frames.submit s raw hs

theorem onReadable (s : Node) (hs : P s) : P (s.onReadable id) := by
  rcases onReadable_cases s id with ⟨h, -⟩ | ⟨c, -, -, ⟨e, -, h⟩ | ⟨-, h⟩⟩ <;> rw [h]
  · exact hs
  · exact ho.cull _ _ (ho.onLink s _ hs)
  · exact ho.drainInput _ (ho.onLink s _ hs)

theorem onWritable (s : Node) (hs : P s) : P (s.onWritable id) := by
  rcases onWritable_cases s id with ⟨h, -⟩ | ⟨c, -, -, ⟨e, -, h⟩ | ⟨-, h⟩⟩ <;> rw [h]
  · exact hs
  · exact ho.cull _ _ (ho.onLink s _ hs)
  · exact ho.cullClosed _ _ (ho.onLink s _ hs)

theorem closeIfOpen (s : Node) (reason : Bytes) (hs : P s) : P (s.closeIfOpen id reason) := by
  unfold Node.closeIfOpen
  split
  · split
    · exact hs
    · exact ho.closeLink s reason hs
  · exact hs

end Own

theorem closeOpen_preserves (ho : ∀ j, Own j P) (s : Node) (reason : Bytes) (hs : P s) :
    P (s.closeOpen reason) :=
  foldl_preserves P (fun t j ht => (ho j).closeIfOpen t reason ht) _ s hs

theorem cullAll_preserves (ho : ∀ j, Own j P) (s : Node) (reason : Bytes) (hs : P s) :
    P (s.cullAll reason) :=
  foldl_preserves P (fun t j ht => (ho j).cull t reason ht) _ s hs

namespace Calm

variable (hc : Calm id P)
include hc

theorem handles : Handles id P where
  modifySession := hc.modifySession
  modifyQueue := hc.modifyQueue
  lock := hc.lock
  sendTo := hc.sendTo
  closeLink := hc.closeLink
  services := hc.services
  pool := hc.pool
  parked := hc.parked

section Touch

variable (htouch : ∀ (s : Node) t k, P s → P (s.modifySession id (·.touch t k s.config.keepAlive)))
include htouch

theorem step (locked : Bool) (s : Node) (hs : P s) : P ((runner id).step locked s).2 :=
  hc.handles.step htouch locked s hs

end Touch

end Calm

namespace Acts

variable (ha : Acts id P)
include ha

theorem calm : Calm id P where
  modifySession s _ hid ht hs := ha.toOwn.modifySession s hid ht hs
  modifyQueue s f hs := ha.toOwn.modifyQueue s f hs
  lock s hs := ha.toOwn.modifyConn s _ (fun _ => rfl) (fun _ => rfl) hs
  sendTo := ha.sendTo
  closeLink s reason _ hs := ha.toOwn.closeLink s reason hs
  counters := ha.toOwn.counters
  services := ha.services
  pool := ha.pool
  parked := ha.parked

theorem notify (pre : Bool) (ev : Event) {inv : Builtin → List Bytes → Node → Invocation × Node}
    (s : Node) (hs : P s) : P ((Node.hostWith id inv).notify pre ev s) :=
  ha.calm.handles.answers.notify pre ev s hs

theorem handle (s : Node) (h : Builtin) (args : List Bytes) (hs : P s) :
    P (s.handle id h args).2 :=
  ha.calm.handles.handle s h args hs

theorem applyWork (s : Node) (found : Finish) (hs : P s) : P (s.applyWork id found) :=
  ha.calm.handles.answers.answerWork _ found (ha.toOwn.modifyConn s _ (fun _ => rfl) (fun _ => rfl) hs)

/-! The pool's moves other than starting it are changes of the pool, its jobs, the store and the
posted events. -/

theorem stopPool (s : Node) (hs : P s) : P s.stopPool :=
  ha.pool s _ s.jobs s.jobsMade (by cases s.pool <;> simp) hs

theorem takeJob (s : Node) (hs : P s) : P s.takeJob := by
  unfold Node.takeJob
  cases hp : s.pool with
  | none => exact hs
  | some p =>
    dsimp only
    cases ht : p.take with
    | none => exact hs
    | some jp =>
      obtain ⟨j, p'⟩ := jp
      exact ha.pool s _ s.jobs s.jobsMade (by simp [hp, WorkerPool.take_started ht]) hs

theorem finishJob (s : Node) (j : Job) (hs : P s) : P (s.finishJob j) := by
  unfold Node.finishJob
  cases hp : s.pool with
  | none => exact hs
  | some p =>
    dsimp only
    have hpool : ∀ jobs, P { s with pool := some (p.finish j), jobs := jobs } :=
      fun jobs => ha.pool s _ jobs s.jobsMade (by simp [hp]) hs
    split
    · split
      · exact ha.posted _ _ (ha.services _ _ (hpool _))
      · exact hpool s.jobs
    · exact hs

section Touch

variable (htouch : ∀ (s : Node) t k, P s → P (s.modifySession id (·.touch t k s.config.keepAlive)))
include htouch

theorem step (locked : Bool) (s : Node) (hs : P s) : P ((runner id).step locked s).2 :=
  ha.calm.step htouch locked s hs

end Touch

end Acts

theorem conn?_modifyConn_other (s : Node) {j k : Bytes} (hjk : j ≠ k) {f : Connection → Connection}
    (hf : ∀ c, (f c).id = c.id) : (s.modifyConn j f).conn? k = s.conn? k := by
  rw [conn?_modifyConn_any s j k hf]
  cases h : s.conn? k with
  | none => rfl
  | some c =>
    have hc : c.id = k := by simpa using List.find?_some h
    simp [hc, Ne.symm hjk]

theorem own_other {j k : Bytes} (hjk : j ≠ k) (v : Option Connection) :
    Own j (fun t => (t.conn? k).map Connection.unflagged = v) where
  modifyConn t _ hid _ ht := by rw [conn?_modifyConn_other t hjk hid]; exact ht
  setPipe _ _ _ ht := ht
  posting t k' r w ht := by
    rw [conn?_modifyConn_any t k' k, Option.map_map, ← ht]
    · congr 1
      funext c
      by_cases h : (c.id == k') = true
      · simp only [Function.comp_apply, h, if_true]
        rfl
      · simp only [Function.comp_apply, h, if_false, Bool.false_eq_true]
    · intro c
      rfl
  posted _ _ ht := ht
  culled _ _ ht := ht
  counters _ _ ht := ht

end Node

end LineKv.Server
