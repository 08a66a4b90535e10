import LineKv.Proofs.NodeFrame

/-!
What a command does, said once: a built-in handler changes a node only through the operations of
`Node.Handles`, so whatever each of them keeps is kept by every handler, command and step of the
connection (`Handles.handle`, `Handles.execute`, `Handles.step`).
-/

namespace LineKv

/-- A fold keeps whatever each of its steps keeps. -/
theorem foldl_preserves {β γ : Type} (P : β → Prop) {f : β → γ → β}
    (hf : ∀ b x, P b → P (f b x)) : ∀ (l : List γ) (b : β), P b → P (l.foldl f b)
  | [], _, hb => hb
  | x :: l, b, hb => foldl_preserves P hf l (f b x) (hf b x hb)

/-- The keep-alive bookkeeping of a session: when it connected, the outstanding ping (empty when
none is) and when it was sent, and when the next ping is due. -/
structure Timers where
  connectedAt : Int
  pingToken : Bytes
  pingSent : Int
  nextKeepAlive : Option Int

def Session.timers (ss : Session) : Timers :=
  ⟨ss.connectedAt, ss.pingToken, ss.pingSent, ss.nextKeepAlive⟩

end LineKv

namespace LineKv.Server

open Command Transport

namespace Node

/-- A property of nodes that answering a command of connection `id` keeps: changes of its session
that keep its id and timers, lines to any connection, and changes of the parked events. -/
structure Answers (id : Bytes) (P : Node → Prop) : Prop where
  modifySession : ∀ (s : Node) (g : Session → Session), (∀ ss, (g ss).id = ss.id) →
    (∀ ss, (g ss).timers = ss.timers) → P s → P (s.modifySession id g)
  sendTo : ∀ (s : Node) (k line : Bytes), P s → P (s.send k line)
  parked : ∀ (s : Node) (p : Parked), P s → P { s with parked := p }

/-- A property of nodes that everything a handler of connection `id` does keeps, save touching its
session: changes of its session that keep its id and timers, changes of its queue, taking its
lock, lines to any connection, closing its link with a reason, and changes of the services, of the
pool with its jobs, and of the parked events. -/
structure Handles (id : Bytes) (P : Node → Prop) : Prop where
  modifySession : ∀ (s : Node) (g : Session → Session), (∀ ss, (g ss).id = ss.id) →
    (∀ ss, (g ss).timers = ss.timers) → P s → P (s.modifySession id g)
  modifyQueue : ∀ (s : Node) (f : Queue → Queue), P s → P (s.modifyQueue id f)
  lock : ∀ (s : Node), P s → P (s.lock id)
  sendTo : ∀ (s : Node) (k line : Bytes), P s → P (s.send k line)
  closeLink : ∀ (s : Node) (reason : Bytes), reason ≠ [] → P s → P (s.closeLink id reason)
  services : ∀ (s : Node) (sv : Services), P s → P { s with services := sv }
  pool : ∀ (s : Node) (p : Option WorkerPool) (jobs : List (Nat × PoolJob)) (made : Nat),
    p.map (·.started) = s.pool.map (·.started) → P s → P { s with pool := p, jobs := jobs, jobsMade := made }
  parked : ∀ (s : Node) (p : Parked), P s → P { s with parked := p }

variable {id : Bytes} {P : Node → Prop}

namespace Answers

variable (ha : Answers id P)
include ha

theorem reply (s : Node) (code : Line.Code) (params : List Bytes) (text : Bytes) (hs : P s) :
    P (s.reply id code params text) :=
  ha.sendTo s id _ hs

theorem observe (s : Node) (ev : Event) (hs : P s) : P (s.observe ev) := by
  unfold Node.observe
  split
  · exact hs
  · -- the line goes to each sink in turn
    exact foldl_preserves P (fun t k ht => ha.sendTo t k _ ht) _ s hs

theorem notify (pre : Bool) (ev : Event) {inv : Builtin → List Bytes → Node → Invocation × Node}
    (s : Node) (hs : P s) : P ((Node.hostWith id inv).notify pre ev s) := by
  cases pre
  · exact ha.observe s ev hs
  · exact hs

theorem complete (s : Node) (r : Outcome) (hs : P s) : P (s.complete id r) :=
  Dispatcher.complete_preserves (fun pre ev t ht => ha.notify pre ev t ht)
    (fun p t ht => ha.parked t p ht) r hs

theorem storeFailure (s : Node) (name : String) (key : Bytes) (e : Store.StoreError) (hs : P s) :
    P (s.storeFailure id name key e).2 := by
  unfold Node.storeFailure
  cases e <;> exact ha.reply s _ _ _ hs

theorem finish (s : Node) (found : Finish) (hs : P s) : P (s.finish id found).2 := by
  cases found with
  | replies rs => exact foldl_preserves P (fun t _ ht => ha.reply t _ _ _ ht) rs s hs
  | storeFailed name key e => exact ha.storeFailure s name key e hs
  | login acct =>
    cases acct with
    | none => exact ha.reply s _ _ _ hs
    | some acct =>
      dsimp only [Node.finish]
      split
      · exact ha.reply s _ _ _ hs
      · exact ha.reply _ _ _ _ (ha.modifySession s _ (fun _ => rfl) (fun _ => rfl) hs)

theorem answerWork (s : Node) (found : Finish) (hs : P s) : P (s.answerWork id found) := by
  have ha' : P (s.answer id found).2 := by
    unfold Node.answer
    split
    · split
      · exact hs
      · exact ha.finish s found hs
    · exact hs
  exact ha.complete _ _ ha'

end Answers

namespace Handles

variable (hc : Handles id P)
include hc

theorem answers : Answers id P := ⟨hc.modifySession, hc.sendTo, hc.parked⟩

/-- The host a connection's commands run with keeps the property, when its handlers and the touch
of its session do. -/
theorem hostWith {inv : Builtin → List Bytes → Node → Invocation × Node}
    (hinv : ∀ x args s, P s → P (inv x args s).2)
    (htouch : ∀ (s : Node) t k, P s → P (s.modifySession id (·.touch t k s.config.keepAlive))) :
    (Node.hostWith id inv).Preserves P where
  reply _ _ _ s hs := hc.answers.reply s _ _ _ hs
  touch t k s hs := htouch s t k hs
  notify pre ev s hs := hc.answers.notify pre ev s hs
  invoke := hinv
  setParked p s hs := hc.parked s p hs

theorem offload (s : Node) (name : String) (w : Work) (hs : P s) : P (s.offload id name w).2 := by
  rcases offload_cases s id name w with
    ⟨h, -⟩ | ⟨c, -, -, ⟨-, h⟩ | ⟨p, p', e, hp, hsub, h⟩ | ⟨p, p', hp, hsub, h⟩⟩ <;> rw [h]
  · exact hc.answers.reply s _ _ _ hs
  · exact hc.answers.answerWork _ _ (hc.services s _ hs)
  · -- a pool that refuses a job keeps its lifecycle flag
    have hst : p'.started = p.started := by rw [← WorkerPool.submit_started p, hsub]
    exact hc.answers.reply _ _ _ _ (hc.pool s _ s.jobs s.jobsMade (by simp [hp, hst]) hs)
  · have hst : p'.started = p.started := by rw [← WorkerPool.submit_started p, hsub]
    exact hc.pool _ _ _ _ (by simp [hp, hst]) (hc.lock s hs)

theorem storeCommand (s : Node) (name : String) (key : Bytes) (work : Bytes → Work) (hs : P s) :
    P (s.storeCommand id name key work).2 := by
  unfold Node.storeCommand
  split
  · exact hc.answers.storeFailure s _ _ _ hs
  · exact hc.offload s name _ hs

theorem setStore (s : Node) (m : Store.Memory) (hs : P s) : P (s.setStore m) :=
  hc.services s _ hs

theorem addSubscription (s : Node) (name : String) (target : Bytes) (pattern : Bool) (hs : P s) :
    P (s.addSubscription id name target pattern).2 := by
  unfold Node.addSubscription
  split
  · exact hc.answers.reply s _ _ _ hs
  · dsimp only
    split <;> (try split) <;> exact hc.answers.reply _ _ _ _ (hc.services s _ hs)

theorem publish (s : Node) (channel message : Bytes) (hs : P s) :
    P (s.publish id channel message).2 := by
  unfold Node.publish
  split
  · exact hc.answers.reply s _ _ _ hs
  · split
    · exact hc.answers.reply s _ _ _ hs
    · refine hc.answers.reply _ _ _ _ ?_
      -- each delivery is a line to its recipient
      refine foldl_preserves P (fun t d ht => ?_) _ s hs
      split <;> exact hc.sendTo t _ _ ht

theorem login (s : Node) (name password : Bytes) (hs : P s) : P (s.login id name password).2 := by
  dsimp only [Node.login]
  split
  · exact hc.answers.reply s _ _ _ hs
  · split
    · exact hc.answers.reply s _ _ _ hs
    · exact hc.offload s "LOGIN" _ hs

/-- Every built-in handler keeps the property. -/
theorem handle (s : Node) (h : Builtin) (args : List Bytes) (hs : P s) :
    P (s.handle id h args).2 := by
  have hr : ∀ t code ps text, P t → P (t.reply id code ps text) :=
    fun t _ _ _ ht => hc.answers.reply t _ _ _ ht
  cases h <;> dsimp only [Node.handle]
  case login => exact hc.login s _ _ hs
  case ping => exact hc.sendTo s id _ hs
  case pong => exact hs
  case quit =>
    -- QUIT closes the link itself: the closing line, then the quit, with a reason never empty
    refine hc.closeLink s _ ?_ hs
    split
    · exact List.append_ne_nil_of_left_ne_nil (by decide +kernel) _
    · decide +kernel
  case whoami =>
    split
    · exact hs
    · exact hr s _ _ _ hs
  case use =>
    split
    · exact hr s _ _ _ hs
    · exact hr _ _ _ _ (hc.modifySession s _ (fun _ => rfl) (fun _ => rfl) hs)
  case set | get | del | exists_ => exact hc.storeCommand s _ _ _ hs
  case incr =>
    split
    · exact hc.answers.storeFailure s _ _ _ hs
    · split
      · exact hr s _ _ _ hs
      · exact hc.storeCommand s _ _ _ hs
  case keys | flushdb => exact hc.offload s _ _ hs
  case publish => exact hc.publish s _ _ hs
  case subscribe => exact hc.addSubscription s _ _ _ hs
  case psubscribe => exact hc.addSubscription s _ _ _ hs
  case unsubscribe =>
    split
    · exact hr s _ _ _ hs
    · exact hr _ _ _ _ (hc.services s _ hs)
  case multi =>
    split
    · exact hr s _ _ _ hs
    · exact hr _ _ _ _ (hc.modifyQueue s _ hs)
  case multiRun =>
    split
    · exact hr s _ _ _ hs
    · exact hr _ _ _ _ (hc.modifyQueue s _ hs)
  case multiReset => exact hr _ _ _ _ (hc.modifyQueue s _ hs)
  case monitor =>
    split
    · exact hr s _ _ _ hs
    · exact hr _ _ _ _ (hc.modifySession _ _ (fun _ => rfl) (fun _ => rfl) (hc.services s _ hs))
  case stats =>
    exact hr _ _ _ _ (foldl_preserves P (fun t l ht => hr t _ _ _ ht) _ s hs)

section Touch

variable (htouch : ∀ (s : Node) t k, P s → P (s.modifySession id (·.touch t k s.config.keepAlive)))
include htouch

/-- A command of the connection keeps the property, when touching its session does. -/
theorem execute (s : Node) (n : Bytes) (ps : List Bytes) (hs : P s) : P (s.execute id n ps) :=
  Dispatcher.execute_preserves (hc.hostWith (fun x args t ht => hc.handle t x args ht) htouch)
    s.dispatcher n ps hs

/-- A step of the connection keeps the property, when touching its session does. -/
theorem step (locked : Bool) (s : Node) (hs : P s) : P ((runner id).step locked s).2 :=
  Runner.step_keeps
    { setQueue := fun q t ht => hc.modifyQueue t (fun _ => q) ht
      execute := fun n ps t ht => hc.execute htouch t n ps ht
      reply := fun code ps text t ht => hc.answers.reply t code ps text ht } locked hs

end Touch

end Handles

end Node

end LineKv.Server
