import LineKv.Proofs.ConnectionActs
import LineKv.Proofs.TeardownBooks

/-!
The keep-alive timers of a node's sessions, and what changes them: a command that passes the
dispatcher's checks (`tick_timers`) and housekeeping (`housekeep_eq`); everything else keeps them
(`acts_timersKept`).
-/

namespace LineKv.Command

namespace Dispatcher

variable {W H : Type}

/-- Whether a call passes the dispatcher's checks and runs: its upper-cased name resolves, its
normalized parameters reach the minimum, the client holds the capability the command needs and is
registered unless the command may run before login, and the command has a handler (building a
table refuses a descriptor without one). -/
def admits (d : Dispatcher H) (host : Host W H) (name : Bytes) (params : List Bytes) (w : W) : Bool :=
  match d.lookup (Text.toUpper name) with
  | none => false
  | some desc =>
    decide (desc.minParams ≤ ((desc.normalize params).length : Int)) &&
      desc.permission.all (host.permitted · w) && (desc.preRegistration || host.registered w) &&
      desc.handler.isSome

theorem proceed_of_admitted {host : Host W H} {desc : Descriptor H} {x : H} (args : List Bytes)
    {w : W} (hreg : (desc.preRegistration || host.registered w) = true) (hx : desc.handler = some x) :
    proceed host desc args w = run host desc x args w := by
  have hpass : (!desc.preRegistration && !host.registered w) = false := by
    cases hp : desc.preRegistration <;> cases hr : host.registered w <;> simp_all
  unfold proceed
  rw [if_neg (by simp [hpass]), hx]

theorem proceed_refuses {host : Host W H} {desc : Descriptor H} (args : List Bytes) {w : W}
    (h : (desc.preRegistration || host.registered w) = false ∨ desc.handler = none) :
    Refuses host w (proceed host desc args w) := by
  unfold proceed
  split
  · exact reject_refuses ..
  · rename_i hr
    rcases h with h | h
    · exact absurd (by cases hp : desc.preRegistration <;> simp_all) hr
    · rw [h]
      exact ⟨rfl, .inl rfl⟩

/-- A call that passes runs the handler its name resolves to. -/
theorem execute_of_admits {d : Dispatcher H} {host : Host W H} {n : Bytes} {ps : List Bytes} {w : W}
    (h : d.admits host n ps w = true) :
    ∃ desc x, d.lookup (Text.toUpper n) = some desc ∧ desc.handler = some x ∧
      d.execute host n ps w = run host desc x (desc.normalize ps) w := by
  unfold admits at h
  unfold execute
  dsimp only
  cases hd : d.lookup (Text.toUpper n) with
  | none =>
    rw [hd] at h
    cases h
  | some desc =>
    rw [hd] at h
    simp only [Bool.and_eq_true, decide_eq_true_eq] at h
    obtain ⟨⟨⟨hmin, hperm⟩, hreg⟩, hh⟩ := h
    obtain ⟨x, hx⟩ := Option.isSome_iff_exists.1 hh
    refine ⟨desc, x, rfl, hx, ?_⟩
    dsimp only
    rw [if_neg (not_lt.2 hmin)]
    cases hc : desc.permission with
    | none => exact proceed_of_admitted _ hreg hx
    | some c =>
      rw [hc] at hperm
      dsimp only
      rw [if_pos (by simpa using hperm)]
      exact proceed_of_admitted _ hreg hx

theorem execute_of_not_admits {d : Dispatcher H} {host : Host W H} {n : Bytes} {ps : List Bytes}
    {w : W} (h : d.admits host n ps w = false) : Refuses host w (d.execute host n ps w) := by
  unfold admits at h
  unfold execute
  dsimp only
  cases hd : d.lookup (Text.toUpper n) with
  | none => exact reject_refuses ..
  | some desc =>
    rw [hd] at h
    dsimp only at h ⊢
    split
    · exact reject_refuses ..
    · rename_i hmin
      -- the first check that fails answers; past the count, the capability, then registration
      have hrest : (desc.preRegistration || host.registered w) = false ∨ desc.handler = none →
          Refuses host w (proceed host desc (desc.normalize ps) w) := proceed_refuses _
      cases hc : desc.permission with
      | none =>
        rw [hc] at h
        refine hrest ?_
        cases hr : (desc.preRegistration || host.registered w) <;> cases hx : desc.handler <;>
          simp_all
      | some c =>
        rw [hc] at h
        dsimp only
        split
        · refine hrest ?_
          cases hr : (desc.preRegistration || host.registered w) <;> cases hx : desc.handler <;>
            simp_all
        · exact reject_refuses ..

end Dispatcher

end LineKv.Command

namespace LineKv

namespace Queue

/-- The next command in order, when a step would run it: not when nothing is pending, and not
when the head only awaits its flood rejection or a collecting transaction buffers it. -/
def nextInOrder (q : Queue) : Option Pending :=
  let q := if q.state = .running then { q with state := .idle } else q
  match q.pending with
  | [] => none
  | e :: _ =>
    if e.flooded then none
    else if q.state = .collecting && !isControl e.cmd.name then none
    else some e.cmd

/-- The command a step in order runs: none under a lock, the next buffered command of a
replaying transaction, else the next command in order. -/
def nextOrdered (q : Queue) (locked : Bool) : Option Pending :=
  if locked then none
  else if q.replaying then
    match q.buffer with
    | c :: _ => some c
    | [] => q.nextInOrder
  else q.nextInOrder

/-- The command a step of `q` runs, if it runs one: the keep-alive at the head whatever the lock,
else what a step in order runs, and none when no work is left. -/
def nextRun (q : Queue) (locked : Bool) : Option Pending :=
  if q.pending.isEmpty && !q.replaying then none
  else
    match q.pending with
    | e :: _ => if e.keepAlive then some e.cmd else q.nextOrdered locked
    | [] => q.nextOrdered locked

end Queue

variable {W : Type}

/-- What a step did to its world, given the command it ran if it ran one: nothing; set the queue
and perhaps answered; or set the queue and ran the command. -/
inductive Runner.Ran (r : Runner W) (w : W) : Option Pending → W → Prop
  | stay : r.Ran w none w
  | set (q : Queue) : r.Ran w none (r.setQueue q w)
  | answer (q : Queue) (code : Line.Code) (ps : List Bytes) (text : Bytes) :
      r.Ran w none (r.reply code ps text (r.setQueue q w))
  | run (q : Queue) (c : Pending) : r.Ran w (some c) (r.execute c.name c.params (r.setQueue q w))

theorem Runner.dispatchNext_ran (r : Runner W) (q : Queue) (w : W) :
    r.Ran w q.nextInOrder (r.dispatchNext q w).2 := by
  unfold Runner.dispatchNext Queue.nextInOrder
  generalize (if q.state = .running then { q with state := .idle } else q) = q
  dsimp only
  cases q.pending with
  | nil => exact .set _
  | cons e rest =>
    dsimp only
    by_cases hf : e.flooded = true
    · simp only [hf, if_true]
      exact .answer ..
    · by_cases hb : (q.state = .collecting && !isControl e.cmd.name) = true
      · simp only [hf, hb, if_true, if_false, Bool.false_eq_true]
        exact .answer ..
      · simp only [hf, hb, if_false, Bool.false_eq_true]
        exact .run ..

theorem Runner.ordered_ran (r : Runner W) (locked : Bool) (q : Queue) (w : W) :
    r.Ran w (q.nextOrdered locked) (r.ordered locked q w).2 := by
  unfold Runner.ordered Queue.nextOrdered
  by_cases hl : locked = true
  · simp only [hl, if_true]
    exact .stay
  · simp only [hl, if_false, Bool.false_eq_true]
    by_cases hr : q.replaying = true
    · simp only [hr, if_true]
      cases q.buffer with
      | nil => exact Runner.dispatchNext_ran r q w
      | cons c more => exact .run ..
    · simp only [hr, if_false, Bool.false_eq_true]
      exact Runner.dispatchNext_ran r q w

theorem Runner.step_ran (r : Runner W) (locked : Bool) (w : W) :
    r.Ran w ((r.queue w).nextRun locked) (r.step locked w).2 := by
  unfold Runner.step Queue.nextRun
  generalize r.queue w = q
  dsimp only
  by_cases hi : (q.pending.isEmpty && !q.replaying) = true
  · simp only [hi, if_true]
    exact .set _
  · simp only [hi, if_false, Bool.false_eq_true]
    cases q.pending with
    | nil => exact Runner.ordered_ran r locked q w
    | cons e rest =>
      dsimp only
      by_cases hk : e.keepAlive = true
      · simp only [hk, if_true]
        exact .run ..
      · simp only [hk, if_false, Bool.false_eq_true]
        exact Runner.ordered_ran r locked q w

end LineKv

namespace LineKv

def Timers.touch (t : Timers) (now k : Int) : Timers :=
  { t with pingToken := [], nextKeepAlive := if k > 0 then some (now + k) else t.nextKeepAlive }

@[simp] theorem Session.timers_touch (ss : Session) (now : Int) (keepAlive : Bool) (k : Int) :
    (ss.touch now keepAlive k).timers = ss.timers.touch now k := rfl

end LineKv

namespace LineKv.Server

open Command Transport Line

namespace Node

def TimersBy (g : Bytes → Timers → Timers) (s t : Node) : Prop :=
  ∀ c' ∈ t.conns, ∃ c ∈ s.conns, c'.id = c.id ∧ c'.session.timers = g c.id c.session.timers

def TimersKept (s t : Node) : Prop := TimersBy (fun _ x => x) s t

theorem TimersKept.refl (s : Node) : TimersKept s s := fun c hc => ⟨c, hc, rfl, rfl⟩

theorem TimersBy.comp {g h : Bytes → Timers → Timers} {s t u : Node} (hg : TimersBy g s t)
    (hh : TimersBy h t u) : TimersBy (fun k x => h k (g k x)) s u := by
  intro c'' hc''
  obtain ⟨c', hc', hid', ht'⟩ := hh c'' hc''
  obtain ⟨c, hc, hid, ht⟩ := hg c' hc'
  exact ⟨c, hc, hid'.trans hid, by rw [ht', ht, hid]⟩

theorem TimersBy.congr {g g' : Bytes → Timers → Timers} {s t : Node} (h : TimersBy g s t)
    (hg : ∀ c ∈ s.conns, g c.id c.session.timers = g' c.id c.session.timers) : TimersBy g' s t := by
  intro c' hc'
  obtain ⟨c, hc, hid, ht⟩ := h c' hc'
  exact ⟨c, hc, hid, ht.trans (hg c hc)⟩

theorem TimersBy.kept {g : Bytes → Timers → Timers} {s t u : Node} (hg : TimersBy g s t)
    (hk : TimersKept t u) : TimersBy g s u :=
  hg.comp hk

theorem TimersKept.by {g : Bytes → Timers → Timers} {s t u : Node} (hk : TimersKept s t)
    (hg : TimersBy g t u) : TimersBy g s u :=
  hk.comp hg

/-- Changing connection `j` changes the timers of `j` alone, as the change says. -/
theorem timersBy_modifyConn (s : Node) (j : Bytes) {f : Connection → Connection}
    (hid : ∀ c, (f c).id = c.id) (G : Timers → Timers)
    (hG : ∀ c, (f c).session.timers = G c.session.timers) :
    TimersBy (fun k x => if k = j then G x else x) s (s.modifyConn j f) := by
  intro c' hc'
  obtain ⟨c, hc, rfl⟩ := List.mem_map.1 hc'
  refine ⟨c, hc, ?_, ?_⟩
  · by_cases h : c.id = j <;> simp [h, hid]
  · by_cases h : c.id = j <;> simp [h, hG]

theorem TimersKept.modifyConn {s t : Node} (h : TimersKept s t) (j : Bytes)
    {f : Connection → Connection} (hid : ∀ c, (f c).id = c.id)
    (ht : ∀ c, (f c).session.timers = c.session.timers) : TimersKept s (t.modifyConn j f) :=
  (h.comp (timersBy_modifyConn t j hid id ht)).congr fun c _ => by
    by_cases hc : c.id = j <;> simp [hc]

theorem own_timersKept (j : Bytes) (s : Node) : Own j (TimersKept s) where
  modifyConn _ _ hid ht h := h.modifyConn j hid ht
  setPipe _ _ _ h := h
  posting _ k _ _ h := h.modifyConn k (fun _ => rfl) (fun _ => rfl)
  posted _ _ h := h
  culled _ _ h := h
  counters _ _ h := h

/-- Everything a command does, touching its session apart, keeps every session's timers. -/
theorem acts_timersKept (j : Bytes) (s : Node) : Acts j (TimersKept s) where
  toOwn := own_timersKept j s
  sendTo t k _ h := (own_timersKept k s).send t _ h
  services _ _ h := h
  pool _ _ _ _ _ h := h
  parked _ _ h := h

theorem own_clock (j : Bytes) (s : Node) : Own j (fun t => t.now = s.now ∧ t.config = s.config) where
  modifyConn _ _ _ _ h := h
  setPipe _ _ _ h := h
  posting _ _ _ _ h := h
  posted _ _ h := h
  culled _ _ h := h
  counters _ _ h := h

theorem acts_clock (j : Bytes) (s : Node) : Acts j (fun t => t.now = s.now ∧ t.config = s.config) where
  toOwn := own_clock j s
  sendTo t k _ h := (own_clock k s).send t _ h
  services _ _ h := h
  pool _ _ _ _ _ h := h
  parked _ _ h := h

theorem reap_timersKept (t : Node) : TimersKept t t.reap := by
  unfold reap
  split
  · exact TimersKept.refl t
  · -- each culled connection's queue is dropped; then the culled ones are removed
    intro c' hc'
    obtain ⟨hmem, -⟩ := List.mem_filter.1 hc'
    refine foldl_preserves (TimersKept t) (fun u id hu => ?_) t.culled t (TimersKept.refl t) c' hmem
    exact (acts_timersKept id t).toOwn.counters _ _ ((acts_timersKept id t).services _ _
      ((acts_timersKept id t).toOwn.modifyQueue u _ hu))

theorem reap_clock (t : Node) : t.reap.now = t.now ∧ t.reap.config = t.config := by
  unfold reap
  split
  · exact ⟨rfl, rfl⟩
  · exact foldl_preserves (fun u : Node => u.now = t.now ∧ u.config = t.config)
      (by intro _ _ h; exact h) t.culled t ⟨rfl, rfl⟩

theorem runPosted_preserves {P : Node → Prop} (ha : ∀ j, Acts j P) (s : Node) (hs : P s) :
    P s.runPosted := by
  unfold runPosted
  refine foldl_preserves P (fun t p ht => ?_) _ _ ((ha []).posted s [] hs)
  cases p with
  | readable j => exact (ha j).onReadable _ ((ha j).posting t j (fun _ => false) (·.writePosted) ht)
  | writable j => exact (ha j).onWritable _ ((ha j).posting t j (·.readPosted) (fun _ => false) ht)
  | completion job found => exact (ha job.conn).applyWork t found ht

/-! ## A tick touches the sessions whose command passed -/

/-- Who is registered and what capabilities they hold is all the checks read of a node. -/
theorem admits_congr {s t : Node} {id : Bytes}
    (hc : (t.conn? id).map (·.session) = (s.conn? id).map (·.session)) (hsv : t.services = s.services)
    (d : Dispatcher Builtin) (n : Bytes) (ps : List Bytes) :
    d.admits (host id) n ps t = d.admits (host id) n ps s := by
  have hreg : (host id).registered t = (host id).registered s := by
    have e : ∀ u : Node, (u.conn? id).map (·.session.registered) =
        ((u.conn? id).map (·.session)).map (·.registered) := fun u => by
      rw [Option.map_map]
      rfl
    show ((t.conn? id).map (·.session.registered)).getD false =
      ((s.conn? id).map (·.session.registered)).getD false
    rw [e t, e s, hc]
  have hid : t.identityNow id = s.identityNow id := by
    unfold identityNow
    rw [hsv]
    cases ht : t.conn? id <;> cases hs : s.conn? id <;> rw [ht, hs] at hc <;>
      simp only [Option.map_none, Option.map_some, reduceCtorEq, Option.some.injEq] at hc ⊢
    rw [hc]
  have hperm : ∀ c, (host id).permitted c t = (host id).permitted c s := fun c => by
    show t.permitted id c = s.permitted id c
    unfold permitted
    rw [hid]
  unfold Dispatcher.admits
  simp only [hreg, hperm]

def runsAdmitted (s : Node) (id : Bytes) (locked : Bool) : Bool :=
  ((s.queueOf id).nextRun locked).any fun c => s.dispatcher.admits (host id) c.name c.params s

theorem step_timers (id : Bytes) (locked : Bool) (s : Node) :
    TimersBy (fun k x => if k = id ∧ s.runsAdmitted id locked = true then
      x.touch s.now s.config.keepAlive else x) s ((runner id).step locked s).2 := by
  have hran := Runner.step_ran (runner id) locked s
  change (runner id).Ran s ((s.queueOf id).nextRun locked) _ at hran
  unfold runsAdmitted
  generalize (s.queueOf id).nextRun locked = next at hran ⊢
  generalize ((runner id).step locked s).2 = t at hran ⊢
  have ha := acts_timersKept id s
  -- a step that runs nothing that passes keeps every session's timers
  have hkept : ∀ {b : Bool} (u : Node), b = false → TimersKept s u →
      TimersBy (fun k x => if k = id ∧ b = true then x.touch s.now s.config.keepAlive else x) s u :=
    fun u hb hu => hu.congr fun c _ => by simp [hb]
  cases hran with
  | stay => exact hkept s rfl (TimersKept.refl s)
  | set q => exact hkept _ rfl (ha.toOwn.modifyQueue s _ (TimersKept.refl s))
  | answer q code ps text =>
    exact hkept _ rfl (ha.toOwn.reply _ _ _ _ (ha.toOwn.modifyQueue s _ (TimersKept.refl s)))
  | run q c =>
    -- the command runs on the node with the queue set, whose checks read the same
    have h0 : TimersKept s (s.modifyQueue id fun _ => q) :=
      ha.toOwn.modifyQueue s _ (TimersKept.refl s)
    have hsame : s.dispatcher.admits (host id) c.name c.params (s.modifyQueue id fun _ => q) =
        s.dispatcher.admits (host id) c.name c.params s := by
      refine @admits_congr s (s.modifyQueue id fun _ => q) id ?_ rfl s.dispatcher c.name c.params
      rw [conn?_modifyQueue, Option.map_map]
      rfl
    have hclk : (s.modifyQueue id fun _ => q).now = s.now ∧
        (s.modifyQueue id fun _ => q).config = s.config := ⟨rfl, rfl⟩
    show TimersBy _ s (s.dispatcher.execute (host id) c.name c.params (s.modifyQueue id fun _ => q)).2
    generalize s.modifyQueue id (fun _ => q) = u at h0 hsame hclk ⊢
    cases hadm : s.dispatcher.admits (host id) c.name c.params s with
    | false =>
      rcases (Dispatcher.execute_of_not_admits (hsame.trans hadm)).2 with he | ⟨code, name, text, he⟩
      · rw [he]
        exact hkept _ hadm h0
      · rw [he]
        exact hkept _ hadm (ha.toOwn.reply _ _ _ _ h0)
    | true =>
      obtain ⟨desc, x, -, -, he⟩ := Dispatcher.execute_of_admits (hsame.trans hadm)
      rw [he, Dispatcher.run_eq]
      -- the touch is the only change of timers: then the handler and the settling keep them
      have hp : TimersBy (fun k x => if k = id then x.touch s.now s.config.keepAlive else x) u
          (Dispatcher.prepare (host id) desc (desc.normalize c.params) u).2.2 := by
        intro c' hc'
        exact timersBy_modifyConn u id
          (f := fun c => { c with session := c.session.touch u.now desc.keepAlive u.config.keepAlive })
          (fun _ => rfl) (fun x => x.touch s.now s.config.keepAlive)
          (fun _ => by rw [Session.timers_touch, hclk.1, hclk.2]) c' hc'
      set p := (Dispatcher.prepare (host id) desc (desc.normalize c.params) u).2.2
      have hp' := acts_timersKept id p
      have hi : TimersKept p ((host id).invoke x (desc.normalize c.params) p).2 :=
        hp'.handle p x _ (TimersKept.refl p)
      have hs := Dispatcher.settle_preserves (fun _ _ _ w h => hp'.toOwn.reply w _ _ _ h)
        (fun pre ev w h => (hp'.notify pre ev w h : TimersKept p ((host id).notify pre ev w)))
        (fun q w h => hp'.parked w q h) desc
        (Dispatcher.prepare (host id) desc (desc.normalize c.params) u).1
        (Dispatcher.prepare (host id) desc (desc.normalize c.params) u).2.1 hi
      exact ((h0.by hp).kept hs).congr fun c _ => by simp [hadm]

@[simp] theorem Timers.touch_touch (x : Timers) (now k : Int) :
    (x.touch now k).touch now k = x.touch now k := by
  unfold Timers.touch
  split <;> rfl

end Node

def StepCall.admitted (e : StepCall) : Bool := e.before.runsAdmitted e.id e.locked

def admittedOf (log : List StepCall) : List Bytes := (log.filter StepCall.admitted).map (·.id)

theorem mem_admittedOf_append {k : Bytes} {log : List StepCall} {e : StepCall} :
    k ∈ admittedOf (log ++ [e]) ↔ k ∈ admittedOf log ∨ (k = e.id ∧ e.admitted = true) := by
  unfold admittedOf
  rw [List.filter_append, List.map_append, List.mem_append]
  cases h : e.admitted <;> simp [h]

namespace Node

def tickAdmitted (s : Node) : List Bytes := admittedOf s.tickLog.2

/-- What the turns of a tick so far did to the timers: the clock and the configuration stand, and
the sessions whose command passed were touched at the tick's clock. -/
structure TickTimers (s : Node) (log : List StepCall) (t : Node) : Prop where
  now : t.now = s.now
  config : t.config = s.config
  timers : TimersBy (fun k x => if k ∈ admittedOf log then x.touch s.now s.config.keepAlive else x) s t

theorem visitLogged_timers (s : Node) (acc : (Nat × Node) × List StepCall) (id : Bytes)
    (h : TickTimers s acc.2 acc.1.2) : TickTimers s (visitLogged acc id).2 (visitLogged acc id).1.2 := by
  obtain ⟨⟨worked, t⟩, log⟩ := acc
  obtain ⟨hnow, hcfg, ht⟩ := h
  dsimp only at hnow hcfg ht
  dsimp only [visitLogged]
  split
  · exact ⟨hnow, hcfg, ht⟩
  · rename_i c _
    split
    · exact ⟨hnow, hcfg, ht⟩
    · -- the step touches this session if its command passed; counting keeps everything
      have hclk := (own_clock id t).count _ ((runner id).step (decide (c.locked > 0)) t).1
        ((acts_clock id t).step (fun _ _ _ h => h) (decide (c.locked > 0)) t ⟨rfl, rfl⟩)
      have hstep := step_timers id (decide (c.locked > 0)) t
      have hcount := (own_timersKept id ((runner id).step (decide (c.locked > 0)) t).2).count _
        ((runner id).step (decide (c.locked > 0)) t).1 (TimersKept.refl _)
      refine ⟨hclk.1.trans hnow, hclk.2.trans hcfg, ((ht.comp hstep).kept hcount).congr ?_⟩
      intro c' _
      simp only [mem_admittedOf_append, StepCall.admitted, hnow, hcfg]
      by_cases hk : c'.id = id ∧ t.runsAdmitted id (decide (c.locked > 0)) = true
      · -- touched now, and perhaps at an earlier turn: a touch at one clock is idempotent
        rw [if_pos hk, if_pos (Or.inr hk)]
        split <;> simp
      · rw [if_neg hk]
        by_cases hm : c'.id ∈ admittedOf log
        · rw [if_pos hm, if_pos (Or.inl hm)]
        · rw [if_neg hm, if_neg (by tauto)]

/-- A tick keeps the clock and the configuration, touches at its clock the sessions whose command
passed at their turn, and keeps every other session's timers. -/
theorem tick_timers (s : Node) : TickTimers s s.tickLog.2 s.tick.2 := by
  rw [← tickLog_fst]
  unfold tickLog
  refine foldl_preserves (fun acc : (Nat × Node) × List StepCall => TickTimers s acc.2 acc.1.2)
    (fun acc id h => visitLogged_timers s acc id h) _ _ ⟨rfl, rfl, ?_⟩
  -- before the first turn nothing is touched: counting the tick keeps every connection
  intro c hc
  exact ⟨c, hc, rfl, by simp [admittedOf]⟩

theorem timersBy_modifySession (s : Node) (j : Bytes) {g : Session → Session}
    (hid : ∀ ss, (g ss).id = ss.id) (G : Timers → Timers) (hG : ∀ ss, (g ss).timers = G ss.timers) :
    TimersBy (fun k x => if k = j then G x else x) s (s.modifySession j g) :=
  timersBy_modifyConn s j (f := fun c => { c with session := g c.session }) (fun c => hid c.session) G
    fun c => hG c.session

end Node

/-- What a housekeeping round does to one connection. -/
inductive TimerAction where
  /-- Nothing: the connection is torn down, within its grace, or not due. -/
  | skip
  /-- Tear down a quitting connection whose grace is over. -/
  | cull
  /-- Close the link, giving a reason. -/
  | close (reason : Bytes)
  /-- Record when the next ping is due, which is later. -/
  | schedule (due : Int)
  /-- Record when the ping was due, and ping. -/
  | ping (due : Int)
  deriving DecidableEq

namespace Node

/-- What housekeeping at `now` does to connection `c`, in the order of its checks: a torn-down
connection is left alone, a quitting one is culled once its grace is over; then registration
timeout, an outstanding ping and its timeout, and last the keep-alive deadline. -/
def timerAction (cfg : Config) (now : Int) (c : Connection) : TimerAction :=
  let ss := c.session
  if c.dead then .skip
  else if c.quitting then
    if now - c.quitAt ≥ cfg.shutdownGrace then .cull else .skip
  else if !ss.registered && cfg.registrationTimeout > 0 && now - ss.connectedAt ≥ cfg.registrationTimeout then
    .close (Bytes.ofString "Registration timeout")
  else if !ss.pingToken.isEmpty then
    if cfg.pingTimeout > 0 && now - ss.pingSent ≥ cfg.pingTimeout then
      .close (Bytes.ofString "Ping timeout")
    else .skip
  else if cfg.keepAlive ≤ 0 then .skip
  else
    let due := ss.nextKeepAlive.getD (ss.connectedAt + cfg.keepAlive)
    if now < due then .schedule due else .ping due

end Node

namespace TimerAction

/-- Do a housekeeping action at `now` to connection `c` of `s`. -/
def perform (a : TimerAction) (s : Node) (now : Int) (c : Connection) : Node :=
  match a with
  | .skip => s
  | .cull => s.cull c.id c.reason
  | .close reason => s.closeLink c.id reason
  | .schedule due => s.modifySession c.id fun ss => { ss with nextKeepAlive := some due }
  | .ping due =>
    let s := s.modifySession c.id fun ss => { ss with nextKeepAlive := some due }
    let s := s.modifySession c.id fun ss => { ss with pingToken := Node.nanoText now, pingSent := now }
    s.send c.id (serverLine (Bytes.ofString "PING") [] (Node.nanoText now))

/-- The timers an action at `now` leaves its connection. -/
def timers (now : Int) : TimerAction → Timers → Timers
  | .skip, x => x
  | .cull, x => x
  | .close _, x => x
  | .schedule due, x => { x with nextKeepAlive := some due }
  | .ping due, x => { x with nextKeepAlive := some due, pingToken := Node.nanoText now, pingSent := now }

section

variable (a : TimerAction) (s : Node) (now : Int) (c : Connection)

theorem perform_unflagged : a.perform s now c.unflagged = a.perform s now c := by
  cases a <;> rfl

theorem perform_clock : (a.perform s now c).now = s.now ∧ (a.perform s now c).config = s.config := by
  have ho := Node.own_clock c.id s
  cases a with
  | skip => exact ⟨rfl, rfl⟩
  | cull => exact ho.cull s _ ⟨rfl, rfl⟩
  | close reason => exact ho.closeLink s _ ⟨rfl, rfl⟩
  | schedule due => exact ⟨rfl, rfl⟩
  | ping due => exact ho.send _ _ ⟨rfl, rfl⟩

theorem perform_other {k : Bytes} (hk : c.id ≠ k) :
    ((a.perform s now c).conn? k).map Connection.unflagged = (s.conn? k).map Connection.unflagged := by
  have ho := Node.own_other hk ((s.conn? k).map Connection.unflagged)
  have hm : ∀ (t : Node) (g : Session → Session), (∀ ss, (g ss).id = ss.id) →
      (t.modifySession c.id g).conn? k = t.conn? k := fun t g hg =>
    Node.conn?_modifyConn_other t hk fun c => hg c.session
  cases a with
  | skip => rfl
  | cull => exact ho.cull s _ rfl
  | close reason => exact ho.closeLink s _ rfl
  | schedule due => exact congrArg _ (hm s _ (by intro; rfl))
  | ping due =>
    refine ho.send _ _ ?_
    exact congrArg _ ((hm _ _ (by intro; rfl)).trans (hm s _ (by intro; rfl)))

theorem perform_timers :
    Node.TimersBy (fun k x => if k = c.id then a.timers now x else x) s (a.perform s now c) := by
  -- culling and closing keep every session's timers
  have hkept : (∀ x, a.timers now x = x) → ∀ t, Node.TimersKept s t →
      Node.TimersBy (fun k x => if k = c.id then a.timers now x else x) s t := fun ha t h =>
    h.congr fun d _ => by simp [ha]
  cases a with
  | skip => exact hkept (fun _ => rfl) s (Node.TimersKept.refl s)
  | cull => exact hkept (fun _ => rfl) _ ((Node.own_timersKept c.id s).cull s _ (Node.TimersKept.refl s))
  | close reason =>
    exact hkept (fun _ => rfl) _ ((Node.own_timersKept c.id s).closeLink s _ (Node.TimersKept.refl s))
  | schedule due => exact Node.timersBy_modifySession s c.id (by intro; rfl) _ (by intro; rfl)
  | ping due =>
    -- the due time is recorded, then the ping; sending it keeps every timer
    let u := s.modifySession c.id fun ss => { ss with nextKeepAlive := some due }
    let v := u.modifySession c.id fun ss => { ss with pingToken := Node.nanoText now, pingSent := now }
    have h1 := Node.timersBy_modifySession s c.id
      (g := fun ss => { ss with nextKeepAlive := some due }) (by intro; rfl)
      (fun x => { x with nextKeepAlive := some due }) (by intro; rfl)
    have h2 := Node.timersBy_modifySession u c.id
      (g := fun ss => { ss with pingToken := Node.nanoText now, pingSent := now }) (by intro; rfl)
      (fun x => { x with pingToken := Node.nanoText now, pingSent := now }) (by intro; rfl)
    have h3 := (Node.own_timersKept c.id v).send v
      (serverLine (Bytes.ofString "PING") [] (Node.nanoText now)) (Node.TimersKept.refl v)
    refine ((h1.comp h2).kept h3).congr fun d _ => ?_
    by_cases hd : d.id = c.id <;> simp [hd, timers]

end

end TimerAction

namespace Node

theorem timerAction_unflagged (cfg : Config) (now : Int) (c : Connection) :
    timerAction cfg now c.unflagged = timerAction cfg now c := rfl

theorem housekeepOne_eq {s : Node} {id : Bytes} {c : Connection} (now : Int) (hc : s.conn? id = some c) :
    s.housekeepOne now id = (timerAction s.config now c).perform s now c := by
  have hid : c.id = id := by simpa using List.find?_some hc
  subst hid
  unfold housekeepOne timerAction
  rw [hc]
  dsimp only
  -- one chain of tests on both sides: doing the chosen action is, branch by branch, what the round does
  simp only [apply_ite (fun a => TimerAction.perform a s now c)]
  rfl

/-- A round over connections of distinct ids, each found as listed save its readiness flags, does
to each one its `timerAction`. -/
theorem foldl_housekeepOne (cfg : Config) (now : Int) : ∀ (cs : List Connection) (t : Node),
    (cs.map (·.id)).Nodup → t.config = cfg →
    (∀ c ∈ cs, (t.conn? c.id).map Connection.unflagged = some c.unflagged) →
    (cs.map (·.id)).foldl (fun t id => t.housekeepOne now id) t =
      cs.foldl (fun t c => (timerAction cfg now c).perform t now c) t
  | [], _, _, _, _ => rfl
  | c :: cs, t, hu, hcfg, hcs => by
    obtain ⟨hc, hu⟩ := List.nodup_cons.1 hu
    obtain ⟨c', hc', hcc⟩ := Option.map_eq_some_iff.1 (hcs c (by simp))
    have hstep : t.housekeepOne now c.id = (timerAction cfg now c).perform t now c :=
      calc t.housekeepOne now c.id
          _ = (timerAction t.config now c'.unflagged).perform t now c'.unflagged := by
            rw [housekeepOne_eq now hc', timerAction_unflagged, TimerAction.perform_unflagged]
          _ = (timerAction cfg now c).perform t now c := by
            rw [hcc, timerAction_unflagged, TimerAction.perform_unflagged, hcfg]
    rw [List.map_cons, List.foldl_cons, List.foldl_cons, hstep]
    -- the others are found as before: the action touched only `c`
    refine foldl_housekeepOne cfg now cs _ hu ((TimerAction.perform_clock _ t now c).2.trans hcfg)
      fun d hd => ?_
    have hne : c.id ≠ d.id := fun h => hc (List.mem_map.2 ⟨d, hd, h.symm⟩)
    rw [TimerAction.perform_other _ _ _ _ hne]
    exact hcs d (List.mem_cons_of_mem _ hd)

/-- The timers a round over connections of distinct ids leaves: each connection's as its action
says. -/
theorem foldl_perform_timers (cfg : Config) (now : Int) (act : Bytes → TimerAction) :
    ∀ (cs : List Connection) (t : Node), (cs.map (·.id)).Nodup →
      (∀ c ∈ cs, act c.id = timerAction cfg now c) →
      TimersBy (fun k x => if k ∈ cs.map (·.id) then (act k).timers now x else x) t
        (cs.foldl (fun t c => (timerAction cfg now c).perform t now c) t)
  | [], t, _, _ => (TimersKept.refl t).congr fun _ _ => by simp
  | c :: cs, t, hu, hact => by
    obtain ⟨hc, hu⟩ := List.nodup_cons.1 hu
    have h1 := TimerAction.perform_timers (timerAction cfg now c) t now c
    have h2 := foldl_perform_timers cfg now act cs ((timerAction cfg now c).perform t now c) hu
      fun d hd => hact d (List.mem_cons_of_mem _ hd)
    refine (h1.comp h2).congr fun d _ => ?_
    by_cases hd : d.id = c.id
    · -- `c` comes once: the rest of the round leaves its timers
      rw [if_pos hd, if_neg (hd ▸ hc), if_pos (by simp [hd]), hd, hact c (by simp)]
    · rw [if_neg hd]
      simp [hd]

/-- A housekeeping round does to each connection its `timerAction`, as the connection stood when
the round began, one after the other, and then removes the torn-down ones. -/
theorem housekeep_eq (s : Node) (now : Int) (hu : (s.conns.map (·.id)).Nodup) :
    s.housekeep now =
      (s.conns.foldl (fun t c => (timerAction s.config now c).perform t now c) s).reap := by
  unfold housekeep
  rw [foldl_housekeepOne s.config now s.conns s hu rfl fun c hc => by
    rw [(conn?_eq_some_iff hu).2 ⟨hc, rfl⟩]; rfl]

def timerActionOf (s : Node) (now : Int) (k : Bytes) : TimerAction :=
  ((s.conn? k).map (timerAction s.config now)).getD .skip

theorem housekeep_timers (s : Node) (now : Int) (hu : (s.conns.map (·.id)).Nodup) :
    TimersBy (fun k x => (s.timerActionOf now k).timers now x) s (s.housekeep now) := by
  rw [housekeep_eq s now hu]
  have hact : ∀ c ∈ s.conns, s.timerActionOf now c.id = timerAction s.config now c := fun c hc => by
    unfold timerActionOf
    rw [(conn?_eq_some_iff hu).2 ⟨hc, rfl⟩]
    rfl
  refine ((foldl_perform_timers s.config now (s.timerActionOf now) s.conns s hu hact).kept
    (reap_timersKept _)).congr fun c hc => ?_
  rw [if_pos (List.mem_map_of_mem hc)]

theorem housekeep_clock (s : Node) (now : Int) :
    (s.housekeep now).now = s.now ∧ (s.housekeep now).config = s.config := by
  unfold housekeep
  obtain ⟨hn, hc⟩ := reap_clock ((s.conns.map (·.id)).foldl (fun s id => s.housekeepOne now id) s)
  rw [hn, hc]
  refine foldl_preserves (fun t : Node => t.now = s.now ∧ t.config = s.config)
    (fun t id h => ?_) _ s ⟨rfl, rfl⟩
  cases hc : t.conn? id with
  | none =>
    unfold housekeepOne
    rw [hc]
    exact h
  | some c =>
    rw [housekeepOne_eq now hc]
    obtain ⟨hn, hcf⟩ := TimerAction.perform_clock (timerAction t.config now c) t now c
    exact ⟨hn.trans h.1, hcf.trans h.2⟩

end Node

end LineKv.Server
