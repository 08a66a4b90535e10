import LineKv.Proofs.NodeFrame
import LineKv.Proofs.HandlerEffects

/-!
Measures of a node that the loop's primitive changes keep (`Node.KeepsLink`, and with teardown
`Node.Keeps`), and so every operation but attaching and reaping: `Keeps.tick`, `Keeps.submit`,
`Keeps.runPosted`, `Keeps.housekeepOne`.
-/

namespace LineKv.Server

open Command Transport

namespace Node

/-- A measure of a node that every primitive change other than tearing a connection down keeps:
changes of connections that keep their ids and teardown flags, writes of the pipes, the posted
events, the services and the parked events, counting other than of connections accepted and
closed, moves of the pool and its jobs that keep the pool's lifecycle flag, and the draining
flag. -/
structure KeepsLink {α : Type} (m : Node → α) : Prop where
  modifyConn : ∀ (s : Node) (id : Bytes) (f : Connection → Connection), (∀ c, (f c).id = c.id) →
    (∀ c, (f c).dead = c.dead) → m (s.modifyConn id f) = m s
  setPipe : ∀ (s : Node) (i : Nat) (p : Pipe), m (s.setPipe i p) = m s
  posted : ∀ (s : Node) (l : List Post), m { s with posted := l } = m s
  counters : ∀ (s : Node) (n : Counters), n.accepted = s.counters.accepted →
    n.closed = s.counters.closed → m { s with counters := n } = m s
  services : ∀ (s : Node) (sv : Services), m { s with services := sv } = m s
  pool : ∀ (s : Node) (p : Option WorkerPool) (jobs : List (Nat × PoolJob)) (made : Nat),
    p.map (·.started) = s.pool.map (·.started) → m { s with pool := p, jobs := jobs, jobsMade := made } = m s
  parked : ∀ (s : Node) (p : Parked), m { s with parked := p } = m s
  draining : ∀ (s : Node) (b : Bool), m { s with draining := b } = m s

/-- A measure of a node that every primitive change keeps, tearing a connection down included. -/
structure Keeps {α : Type} (m : Node → α) : Prop extends KeepsLink m where
  cull : ∀ (s : Node) (id reason : Bytes), m (s.cull id reason) = m s

variable {α : Type} {m : Node → α}

namespace KeepsLink

theorem of_congr {β : Type} {m' : Node → β} (hk : KeepsLink m)
    (h : ∀ s t : Node, m t = m s → m' t = m' s) : KeepsLink m' where
  modifyConn s id f hid hd := h _ _ (hk.modifyConn s id f hid hd)
  setPipe s i p := h _ _ (hk.setPipe s i p)
  posted s l := h _ _ (hk.posted s l)
  counters s n ha hc := h _ _ (hk.counters s n ha hc)
  services s sv := h _ _ (hk.services s sv)
  pool s p jobs made hp := h _ _ (hk.pool s p jobs made hp)
  parked s p := h _ _ (hk.parked s p)
  draining s b := h _ _ (hk.draining s b)

variable (hk : KeepsLink m)
include hk

theorem modifySession (s : Node) (id : Bytes) {f : Session → Session} (hf : ∀ ss, (f ss).id = ss.id) :
    m (s.modifySession id f) = m s :=
  hk.modifyConn s id _ (fun c => hf c.session) (fun _ => rfl)

theorem modifyQueue (s : Node) (id : Bytes) (f : Queue → Queue) : m (s.modifyQueue id f) = m s :=
  hk.modifyConn s id _ (fun _ => rfl) (fun _ => rfl)

theorem modifyServices (s : Node) (f : Services → Services) : m (s.modifyServices f) = m s :=
  hk.services s _

theorem setStore (s : Node) (st : Store.Memory) : m (s.setStore st) = m s :=
  hk.services s _

theorem lock (s : Node) (id : Bytes) : m (s.lock id) = m s :=
  hk.modifyConn s id _ (fun _ => rfl) (fun _ => rfl)

theorem unlock (s : Node) (id : Bytes) : m (s.unlock id) = m s :=
  hk.modifyConn s id _ (fun _ => rfl) (fun _ => rfl)

theorem reject (s : Node) : m s.reject = m s :=
  hk.counters s _ rfl rfl

theorem count (s : Node) (out : StepOutcome) : m (s.count out).2 = m s := by
  cases out
  case idle | locked | rejected => rfl
  all_goals exact hk.counters s _ rfl rfl

theorem readable (s : Node) (id : Bytes) : m (s.readable id) = m s := by
  unfold Node.readable
  split
  · split
    · rfl
    · exact (hk.posted _ _).trans (hk.modifyConn s id _ (fun _ => rfl) (fun _ => rfl))
  · rfl

theorem writable (s : Node) (id : Bytes) : m (s.writable id) = m s := by
  unfold Node.writable
  split
  · split
    · rfl
    · exact (hk.posted _ _).trans (hk.modifyConn s id _ (fun _ => rfl) (fun _ => rfl))
  · rfl

theorem deliver (s : Node) (pipe : Nat) (signals : List Signal) : m (s.deliver pipe signals) = m s := by
  unfold Node.deliver
  split
  · rfl
  · refine foldl_keeps m (fun t sig => ?_) signals s
    cases sig <;> dsimp only <;> split <;> simp only [hk.readable, hk.writable]

theorem onLink {β : Type} (s : Node) (id : Bytes) (op : Link → WireM (β × Link)) :
    m (s.onLink id op).2 = m s := by
  unfold Node.onLink
  split
  · rfl
  · split
    rw [hk.deliver, hk.modifyConn, hk.setPipe] <;> intro <;> rfl

end KeepsLink

namespace Keeps

variable (hk : Keeps m)
include hk

theorem cullClosed (s : Node) (id : Bytes) (reason : Connection → Bytes) :
    m (s.cullClosed id reason) = m s :=
  cullClosed_of (P := fun t => m t = m s) reason rfl fun r => hk.cull s id r

theorem send (s : Node) (id line : Bytes) : m (s.send id line) = m s := by
  rcases send_cases s id line with ⟨h, -⟩ | ⟨c, -, -, -, h⟩ <;> rw [h]
  rw [hk.cullClosed, hk.toKeepsLink.onLink]

theorem reply (s : Node) (id : Bytes) (code : Line.Code) (params : List Bytes) (text : Bytes) :
    m (s.reply id code params text) = m s :=
  hk.send ..

theorem quit (s : Node) (id reason : Bytes) : m (s.quit id reason) = m s := by
  rcases quit_cases s id reason with ⟨h, -⟩ | ⟨c, -, -, h⟩ <;> rw [h]
  rw [hk.cullClosed, hk.toKeepsLink.onLink]
  exact hk.modifyConn s id _ (fun _ => rfl) (fun _ => rfl)

theorem closeLink (s : Node) (id reason : Bytes) : m (s.closeLink id reason) = m s := by
  simp only [Node.closeLink, hk.quit, hk.send]

theorem handles (id : Bytes) (s : Node) : Handles id (fun t => m t = m s) where
  modifySession t _ hid _ ht := (hk.modifySession t id hid).trans ht
  modifyQueue t f ht := (hk.modifyQueue t id f).trans ht
  lock t ht := (hk.lock t id).trans ht
  sendTo t k line ht := (hk.send t k line).trans ht
  closeLink t reason _ ht := (hk.closeLink t id reason).trans ht
  services t sv ht := (hk.services t sv).trans ht
  pool t p jobs made hp ht := (hk.pool t p jobs made hp).trans ht
  parked t p ht := (hk.parked t p).trans ht

theorem touch (s : Node) (id : Bytes) (t : Int) (k : Bool) :
    m (s.modifySession id (·.touch t k s.config.keepAlive)) = m s :=
  hk.modifySession s id (by intro; rfl)

theorem execute (s : Node) (id n : Bytes) (ps : List Bytes) : m (s.execute id n ps) = m s :=
  (hk.handles id s).execute (fun t _ _ ht => (hk.touch t id _ _).trans ht) s n ps rfl

theorem step (id : Bytes) (locked : Bool) (s : Node) : m ((runner id).step locked s).2 = m s :=
  (hk.handles id s).step (fun t _ _ ht => (hk.touch t id _ _).trans ht) locked s rfl

/-- A tick steps connections and counts their work, which keeps the measure. -/
theorem tick (s : Node) : m s.tick.2 = m s := by
  unfold Node.tick
  refine (foldl_keeps (fun acc : Nat × Node => m acc.2) (fun acc id => ?_) _ _).trans
    (hk.counters s _ rfl rfl)
  obtain ⟨worked, t⟩ := acc
  dsimp only
  split
  · rfl
  · split
    · rfl
    · exact (hk.count ..).trans (hk.step ..)

theorem enqueue (s : Node) (id name : Bytes) (params : List Bytes) :
    m (s.enqueue id name params).2 = m s := by
  unfold Node.enqueue
  split
  · rfl
  · split
    · rfl
    · dsimp only
      split <;> dsimp only
      · exact hk.modifyQueue s id _
      · exact (hk.reject _).trans (hk.modifyQueue s id _)
      · exact (hk.closeLink ..).trans (hk.modifyQueue s id _)

theorem drain (s : Node) (id : Bytes) (fuel : Nat) : m (s.drain id fuel) = m s := by
  induction fuel generalizing s with
  | zero => rfl
  | succ fuel ih =>
    -- every round frames one line and recurs on what the line left
    have hrecv : ∀ (t : Node) rest,
        m (t.modifyConn id fun c => { c with link := { c.link with recv := rest } }) = m t :=
      fun t _ => hk.modifyConn t id _ (fun _ => rfl) (fun _ => rfl)
    unfold Node.drain
    split
    · rfl
    · split
      · rfl
      · dsimp only
        split
        · exact (hk.closeLink ..).trans (hk.reject _)
        · rw [ih, hk.reject, hrecv]
        · rfl
        · split
          · rw [ih, hrecv]
          · split
            · rw [ih, hk.reject, hrecv]
            · split
              · rename_i heq
                have he := congrArg (fun r => m r.2) heq
                simp only [hk.enqueue, hrecv] at he
                rw [ih, ← he]
              · rename_i heq
                have he := congrArg (fun r => m r.2) heq
                simp only [hk.enqueue, hrecv] at he
                split
                · rw [ih, ← he]
                · exact he.symm

theorem drainInput (s : Node) (id : Bytes) : m (s.drainInput id) = m s := by
  unfold Node.drainInput
  split
  · rfl
  · exact hk.drain ..

theorem submit (s : Node) (id raw : Bytes) : m (s.submit id raw) = m s := by
  unfold Node.submit
  split
  · rfl
  · split
    · rfl
    · exact (hk.drainInput ..).trans (hk.modifyConn s id _ (fun _ => rfl) (fun _ => rfl))

theorem onReadable (s : Node) (id : Bytes) : m (s.onReadable id) = m s := by
  rcases onReadable_cases s id with ⟨h, -⟩ | ⟨c, -, -, ⟨e, -, h⟩ | ⟨-, h⟩⟩ <;> rw [h]
  · rw [hk.cull, hk.toKeepsLink.onLink]
  · rw [hk.drainInput, hk.toKeepsLink.onLink]

theorem onWritable (s : Node) (id : Bytes) : m (s.onWritable id) = m s := by
  rcases onWritable_cases s id with ⟨h, -⟩ | ⟨c, -, -, ⟨e, -, h⟩ | ⟨-, h⟩⟩ <;> rw [h]
  · rw [hk.cull, hk.toKeepsLink.onLink]
  · rw [hk.cullClosed, hk.toKeepsLink.onLink]

theorem answerWork (s : Node) (id : Bytes) (found : Finish) : m (s.answerWork id found) = m s :=
  (hk.handles id s).answers.answerWork s found rfl

theorem runPost (s : Node) (p : Post) : m (s.runPost p) = m s := by
  cases p with
  | readable id => exact (hk.onReadable ..).trans (hk.modifyConn s _ _ (fun _ => rfl) (fun _ => rfl))
  | writable id => exact (hk.onWritable ..).trans (hk.modifyConn s _ _ (fun _ => rfl) (fun _ => rfl))
  | completion job found => exact (hk.answerWork ..).trans (hk.unlock ..)

theorem runPosted (s : Node) : m s.runPosted = m s := by
  unfold Node.runPosted
  exact (foldl_keeps m (fun t p => hk.runPost t p) _ _).trans (hk.posted s [])

theorem housekeepOne (s : Node) (now : Int) (id : Bytes) : m (s.housekeepOne now id) = m s := by
  unfold Node.housekeepOne
  split
  · rfl
  · dsimp only
    split
    · rfl
    · split
      · split
        · exact hk.cull ..
        · rfl
      · split
        · exact hk.closeLink ..
        · split
          · split
            · exact hk.closeLink ..
            · rfl
          · split
            · rfl
            · -- the keep-alive deadline is recorded, then maybe a ping sent
              split
              · exact hk.modifySession s id fun _ => rfl
              · rw [hk.send]
                refine (hk.modifySession _ id ?_).trans (hk.modifySession s id ?_) <;>
                  exact fun _ => rfl

theorem beforeReap (s : Node) : m s.runPosted.tick.2.runPosted = m s :=
  (hk.runPosted _).trans ((hk.tick _).trans (hk.runPosted _))

theorem housekeepRound (s : Node) (now : Int) :
    m ((s.conns.map (·.id)).foldl (fun s id => s.housekeepOne now id) s) = m s :=
  foldl_keeps m (fun t id => hk.housekeepOne t now id) _ s

theorem closeIfOpen (s : Node) (id reason : Bytes) : m (s.closeIfOpen id reason) = m s := by
  unfold Node.closeIfOpen
  split
  · split
    · rfl
    · exact hk.closeLink ..
  · rfl

theorem closeOpen (s : Node) (reason : Bytes) : m (s.closeOpen reason) = m s :=
  foldl_keeps m (fun t id => hk.closeIfOpen t id reason) _ s

theorem cullAll (s : Node) (reason : Bytes) : m (s.cullAll reason) = m s :=
  foldl_keeps m (fun t id => hk.cull t id reason) _ s

theorem beginShutdown (s : Node) : m s.beginShutdown = m s :=
  (hk.closeOpen ..).trans ((hk.runPosted _).trans (hk.draining s true))

end Keeps

namespace KeepsLink

variable (hk : KeepsLink m)
include hk

/-! The pool's moves other than starting it keep its lifecycle flag. -/

theorem stopPool (s : Node) : m s.stopPool = m s :=
  hk.pool s _ s.jobs s.jobsMade (by cases s.pool <;> simp)

theorem takeJob (s : Node) : m s.takeJob = m s := by
  unfold Node.takeJob
  cases hp : s.pool with
  | none => rfl
  | some p =>
    dsimp only
    cases ht : p.take with
    | none => rfl
    | some jp =>
      obtain ⟨j, p'⟩ := jp
      exact hk.pool s _ s.jobs s.jobsMade (by simp [hp, WorkerPool.take_started ht])

theorem finishJob (s : Node) (j : Job) : m (s.finishJob j) = m s := by
  unfold Node.finishJob
  cases hp : s.pool with
  | none => rfl
  | some p =>
    dsimp only
    have hpool : ∀ jobs, m { s with pool := some (p.finish j), jobs := jobs } = m s :=
      fun jobs => hk.pool s _ jobs s.jobsMade (by simp [hp])
    split
    · split
      · exact (hk.posted _ _).trans ((hk.services _ _).trans (hpool _))
      · exact hpool s.jobs
    · rfl

end KeepsLink

theorem KeepsLink.refuse (hk : KeepsLink m) (hrel : ∀ (s : Node) l, m { s with released := l } = m s)
    (s : Node) (layers : List LayerSpec) (pipe : Nat) (release : Option Nat) :
    m (s.refuse layers pipe release) = m s :=
  (hrel _ _).trans ((hk.deliver ..).trans (hk.setPipe ..))

theorem KeepsLink.keeps (hk : KeepsLink m) (hculled : ∀ (s : Node) l, m { s with culled := l } = m s)
    (hmod : ∀ (s : Node) id (f : Connection → Connection), (∀ c, (f c).id = c.id) → m (s.modifyConn id f) = m s) :
    Keeps m where
  toKeepsLink := hk
  cull s id reason := by
    rcases cull_cases s id reason with ⟨h, -⟩ | ⟨c, -, -, h⟩ <;> rw [h]
    rw [hculled, hk.onLink]
    exact hmod _ _ _ fun _ => rfl

theorem keeps_of_ids
    (h : ∀ s t : Node, t.conns.map (·.id) = s.conns.map (·.id) → t.sessions = s.sessions →
      t.draws = s.draws → t.inline = s.inline → m t = m s) : Keeps m :=
  KeepsLink.keeps
    { modifyConn := fun s _ _ hid _ => h _ _ (ids_modifyConn s _ hid) rfl rfl rfl
      setPipe := fun _ _ _ => h _ _ rfl rfl rfl rfl
      posted := fun _ _ => h _ _ rfl rfl rfl rfl
      counters := fun _ _ _ _ => h _ _ rfl rfl rfl rfl
      services := fun _ _ => h _ _ rfl rfl rfl rfl
      pool := fun _ _ jobs made hp => h _ _ rfl rfl rfl (inline_of_started hp jobs made)
      parked := fun _ _ => h _ _ rfl rfl rfl rfl
      draining := fun _ _ => h _ _ rfl rfl rfl rfl }
    (fun _ _ => h _ _ rfl rfl rfl rfl) (fun s _ _ hid => h _ _ (ids_modifyConn s _ hid) rfl rfl rfl)

def lineup (s : Node) : List Bytes × Nat × Draws := (s.conns.map (·.id), s.sessions, s.draws)

theorem keeps_lineup : Keeps lineup :=
  keeps_of_ids fun _ _ hi hn hd _ => Prod.ext hi (Prod.ext hn hd)

theorem keeps_inline : Keeps Node.inline :=
  keeps_of_ids fun _ _ _ _ _ hi => hi

theorem ids_eq_of_lineup {s t : Node} (h : t.lineup = s.lineup) : t.conns.map (·.id) = s.conns.map (·.id) :=
  congrArg Prod.fst h

theorem sessions_eq_of_lineup {s t : Node} (h : t.lineup = s.lineup) : t.sessions = s.sessions :=
  congrArg (·.2.1) h

theorem draws_eq_of_lineup {s t : Node} (h : t.lineup = s.lineup) : t.draws = s.draws :=
  congrArg (·.2.2) h

theorem lineup_readable_deliver (s : Node) (pipe : Nat) (signals : List Signal) (id : Bytes) :
    ((s.deliver pipe signals).readable id).lineup = s.lineup :=
  (keeps_lineup.readable ..).trans (keeps_lineup.deliver ..)

theorem lineup_of_frame {s t : Node} (h : t.frame = s.frame) (hd : t.draws = s.draws) :
    t.lineup = s.lineup :=
  Prod.ext (ids_of_frame h) (Prod.ext (congrArg Prod.snd (roster_of_frame h)) hd)

end Node

end LineKv.Server
