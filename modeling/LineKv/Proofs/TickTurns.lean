import Mathlib
import LineKv.Proofs.NodeMeasures

/-!
How a tick shares the loop among connections over every run of the node: each connection is
stepped at most once, in attach order, and gives its lock back. Main statement:
`tick_steps_live_connections_once`.
-/

namespace LineKv

theorem Bytes.hexDigit_inj : ∀ m n : Fin 16, Bytes.hexDigit m = Bytes.hexDigit n → m = n := by
  decide

/-- Hex text spells its bytes: two digits each. -/
theorem Bytes.toHex_inj : ∀ {s t : Bytes}, Bytes.toHex s = Bytes.toHex t → s = t
  | [], [], _ => rfl
  | [], _ :: _, h => by simp [Bytes.toHex] at h
  | _ :: _, [], h => by simp [Bytes.toHex] at h
  | a :: s, b :: t, h => by
    simp only [Bytes.toHex, List.flatMap_cons, List.cons_append, List.nil_append, List.cons.injEq] at h
    obtain ⟨h1, h2, h⟩ := h
    have ha := a.toNat_lt
    have hb := b.toNat_lt
    have e1 := Bytes.hexDigit_inj ⟨a.toNat / 16, by omega⟩ ⟨b.toNat / 16, by omega⟩ h1
    have e2 := Bytes.hexDigit_inj ⟨a.toNat % 16, by omega⟩ ⟨b.toNat % 16, by omega⟩ h2
    simp only [Fin.mk.injEq] at e1 e2
    have hab : a = b := UInt8.toNat.inj (by omega)
    rw [hab, Bytes.toHex_inj h]

theorem Bytes.be32_inj {a b : Nat} (ha : a < 2 ^ 32) (hb : b < 2 ^ 32)
    (h : Bytes.be32 a = Bytes.be32 b) : a = b := by
  simp only [Bytes.be32, List.cons.injEq, and_true] at h
  obtain ⟨h1, h2, h3, h4⟩ := h
  have e1 := congrArg UInt8.toNat h1
  have e2 := congrArg UInt8.toNat h2
  have e3 := congrArg UInt8.toNat h3
  have e4 := congrArg UInt8.toNat h4
  simp only [Nat.toUInt8_eq, UInt8.toNat_ofNat'] at e1 e2 e3 e4
  omega

theorem sessionId_inj {a b : Nat} (ha : a < 2 ^ 32) (hb : b < 2 ^ 32)
    (h : sessionId a = sessionId b) : a = b :=
  Bytes.be32_inj ha hb (Bytes.toHex_inj (List.append_cancel_right h))

end LineKv

namespace LineKv.Server

open Command Transport

def Draws.Distinct (d : Draws) (n : Nat) : Prop := ∀ a b, a ≤ n → b ≤ n → d.id a = d.id b → a = b

theorem Draws.Distinct.mono {d : Draws} {m n : Nat} (h : d.Distinct n) (hmn : m ≤ n) : d.Distinct m :=
  fun a b ha hb => h a b (Nat.le_trans ha hmn) (Nat.le_trans hb hmn)

theorem Draws.counter_distinct {n : Nat} (hn : n < 2 ^ 32) : Draws.counter.Distinct n :=
  fun _ _ ha hb h => sessionId_inj (by omega) (by omega) h

/-- One call of a connection's step during a tick: whose it was, the node as the connection's
turn began, the lock flag the step was given, and what the step returned. -/
structure StepCall where
  id : Bytes
  before : Node
  locked : Bool
  outcome : StepOutcome
  after : Node

/-- A step call made at a connection's turn, with roster `R` before it: the connection was there
and open, the step was given the connection's lock flag, and after the step the roster is still
`R` and nothing is parked. -/
structure StepCall.Sound (R : List (Bytes × Nat) × Nat) (e : StepCall) : Prop where
  live : ∃ c, e.before.conn? e.id = some c ∧ c.closed = false ∧ e.locked = decide (c.locked > 0)
  step : (Node.runner e.id).step e.locked e.before = (e.outcome, e.after)
  before : e.before.roster = R
  after : e.after.roster = R
  settled : e.after.parked = []

namespace Node

/-- A connection's turn in a tick, writing down the step call if there is one. -/
def visitLogged (acc : (Nat × Node) × List StepCall) (id : Bytes) : (Nat × Node) × List StepCall :=
  let ((worked, s), log) := acc
  match s.conn? id with
  | none => acc
  | some c =>
    if c.closed then acc
    else
      let (out, s') := (runner id).step (c.locked > 0) s
      let (did, s'') := s'.count out
      ((if did then worked + 1 else worked, s''), log ++ [⟨id, s, c.locked > 0, out, s'⟩])

/-- A tick that also lists its step calls, in the order they were made. -/
def tickLog (s : Node) : (Nat × Node) × List StepCall :=
  let s := { s with counters := { s.counters with ticks := s.counters.ticks + 1 } }
  (s.conns.map (·.id)).foldl visitLogged ((0, s), [])

theorem tickLog_fst (s : Node) : s.tickLog.1 = s.tick := by
  unfold tickLog tick
  refine (List.foldl_hom Prod.fst fun acc id => ?_).symm
  obtain ⟨⟨worked, t⟩, log⟩ := acc
  dsimp only [visitLogged]
  cases t.conn? id with
  | none => rfl
  | some c =>
    dsimp only
    by_cases hcl : c.closed = true
    · rw [if_pos hcl, if_pos hcl]
    · rw [if_neg hcl, if_neg hcl]

/-- Where offloaded work stays on the loop, one turn keeps the roster and the empty parked list,
and writes down at most one sound call of the connection whose turn it is. -/
theorem visitLogged_spec {R : List (Bytes × Nat) × Nat} (acc : (Nat × Node) × List StepCall)
    (id : Bytes) (hr : acc.1.2.roster = R ∧ acc.1.2.inline = true) (hp : acc.1.2.parked = []) :
    ((visitLogged acc id).1.2.roster = R ∧ (visitLogged acc id).1.2.inline = true) ∧
      (visitLogged acc id).1.2.parked = [] ∧
      ((visitLogged acc id).2 = acc.2 ∨
        ∃ e, (visitLogged acc id).2 = acc.2 ++ [e] ∧ e.id = id ∧ e.Sound R) := by
  obtain ⟨⟨worked, s⟩, log⟩ := acc
  dsimp only at hr hp
  dsimp only [visitLogged]
  split
  · exact ⟨hr, hp, .inl rfl⟩
  · rename_i c hc
    split
    · exact ⟨hr, hp, .inl rfl⟩
    · rename_i hcl
      have hsr := step_roster hr.2 id (decide (c.locked > 0))
      have hsp := step_parked hr.2 id (decide (c.locked > 0)) hp
      refine ⟨onLoop_of_frame (frame_count ..) ⟨hsr.1.trans hr.1, hsr.2⟩,
        (parked_of_frame (frame_count ..)).trans hsp,
        .inr ⟨_, rfl, rfl, ⟨⟨c, hc, by simpa using hcl, rfl⟩, rfl, hr.1, hsr.1.trans hr.1, hsp⟩⟩⟩

/-- Over a whole walk the roster and the empty parked list stay, and the calls written down are
sound and follow the walk's order, at most one per turn. -/
theorem foldl_visitLogged {R : List (Bytes × Nat) × Nat} :
    ∀ (ids : List Bytes) (acc : (Nat × Node) × List StepCall),
      acc.1.2.roster = R ∧ acc.1.2.inline = true → acc.1.2.parked = [] →
      ((ids.foldl visitLogged acc).1.2.roster = R ∧ (ids.foldl visitLogged acc).1.2.inline = true) ∧
        (ids.foldl visitLogged acc).1.2.parked = [] ∧
        ∃ calls, (ids.foldl visitLogged acc).2 = acc.2 ++ calls ∧
          (calls.map (·.id)).Sublist ids ∧ ∀ e ∈ calls, e.Sound R
  | [], acc, hr, hp => ⟨hr, hp, [], by simp, by simp, by simp⟩
  | id :: ids, acc, hr, hp => by
    obtain ⟨hr', hp', hlog⟩ := visitLogged_spec acc id hr hp
    obtain ⟨hr'', hp'', calls, hcalls, hsub, hsound⟩ := foldl_visitLogged ids _ hr' hp'
    refine ⟨hr'', hp'', ?_⟩
    rcases hlog with hlog | ⟨e, hlog, hid, he⟩
    · -- the connection was passed over
      refine ⟨calls, by rw [List.foldl_cons, hcalls, hlog], hsub.cons id, hsound⟩
    · -- the connection was stepped once
      refine ⟨e :: calls, by rw [List.foldl_cons, hcalls, hlog, List.append_assoc]; rfl, ?_, ?_⟩
      · rw [List.map_cons, hid]
        exact hsub.cons_cons id
      · intro e' he'
        rcases List.mem_cons.1 he' with rfl | he'
        · exact he
        · exact hsound e' he'

/-- The nodes a run reaches from a fresh start: the loop's operations, the worker pool's moves and
shutdown, and what its clients (on their ends of the pipes), its clock and its operators (reloading
accounts, closing the store) do, in any order. -/
inductive Reachable : Node → Prop
  | start (config : Config) (dispatcher : Dispatcher Builtin) (services : Services) (draws : Draws)
      (pool : Option WorkerPool) (now : Int) :
      Reachable (Node.start config dispatcher services draws pool now)
  | openPipe {s : Node} (capacity : Int) : Reachable s → Reachable (s.openPipe capacity).2
  | attach {s : Node} (layers : List LayerSpec) (pipe : Nat) (remote listener : Bytes) (release : Option Nat) :
      Reachable s → Reachable (s.attach layers pipe remote listener release).2
  | submit {s : Node} (id raw : Bytes) : Reachable s → Reachable (s.submit id raw)
  | enqueue {s : Node} (id name : Bytes) (params : List Bytes) :
      Reachable s → Reachable (s.enqueue id name params).2
  | tick {s : Node} : Reachable s → Reachable s.tick.2
  | poll {s : Node} : Reachable s → Reachable s.poll
  | housekeep {s : Node} (now : Int) : Reachable s → Reachable (s.housekeep now)
  | peer {s : Node} (pipe : Nat) (p : Pipe) (signals : List Signal) :
      Reachable s → Reachable ((s.setPipe pipe p).deliver pipe signals)
  | clock {s : Node} (now : Int) : Reachable s → Reachable { s with now := now }
  | services {s : Node} (f : Services → Services) : Reachable s → Reachable (s.modifyServices f)
  | startPool {s : Node} : Reachable s → Reachable s.startPool
  | stopPool {s : Node} : Reachable s → Reachable s.stopPool
  | takeJob {s : Node} : Reachable s → Reachable s.takeJob
  | finishJob {s : Node} (j : Job) : Reachable s → Reachable (s.finishJob j)
  | beginShutdown {s : Node} : Reachable s → Reachable s.beginShutdown
  | shutdownRound {s : Node} : Reachable s → Reachable s.shutdownRound
  | endShutdown {s : Node} : Reachable s → Reachable s.endShutdown

def Numbered (s : Node) : Prop :=
  ∃ ks : List Nat, s.conns.map (·.id) = ks.map s.draws.id ∧ ks.Pairwise (· < ·) ∧ ∀ k ∈ ks, k ≤ s.sessions

theorem Numbered.of_sublist {s t u : Node} (hs : s.Numbered) (hu : u.lineup = s.lineup)
    (hd : t.draws = s.draws) (ht : (t.conns.map (·.id)).Sublist (u.conns.map (·.id)))
    (hn : s.sessions ≤ t.sessions) : t.Numbered := by
  obtain ⟨ks, hks, hpair, hle⟩ := hs
  have hsub : (t.conns.map (·.id)).Sublist (ks.map s.draws.id) := by
    rw [← hks, ← ids_eq_of_lineup hu]
    exact ht
  obtain ⟨ks', hks', heq⟩ := List.sublist_map_iff.1 hsub
  exact ⟨ks', by rw [hd, heq], hpair.sublist hks', fun k hk => Nat.le_trans (hle k (hks'.subset hk)) hn⟩

theorem Numbered.of_lineup {s t : Node} (hs : s.Numbered) (h : t.lineup = s.lineup) : t.Numbered :=
  hs.of_sublist h (draws_eq_of_lineup h) (List.Sublist.refl _) (sessions_eq_of_lineup h).ge

theorem Numbered.fresh {s : Node} (hs : s.Numbered) (hd : s.draws.Distinct (s.sessions + 1)) :
    ∀ c ∈ s.conns, c.id ≠ s.draws.id (s.sessions + 1) := by
  obtain ⟨ks, hks, -, hle⟩ := hs
  intro c hc he
  have hm : c.id ∈ ks.map s.draws.id := by
    rw [← hks]
    exact List.mem_map_of_mem hc
  obtain ⟨k, hk, hkc⟩ := List.mem_map.1 hm
  have hkn := hle k hk
  have := hd k (s.sessions + 1) (Nat.le_succ_of_le hkn) (Nat.le_refl _) (hkc.trans he)
  omega

theorem Numbered.ids_nodup {s : Node} (hs : s.Numbered) (hd : s.draws.Distinct s.sessions) :
    (s.conns.map (·.id)).Nodup := by
  obtain ⟨ks, hks, hpair, hle⟩ := hs
  rw [hks]
  exact hpair.nodup.map_on fun a ha b hb h => hd a b (hle a ha) (hle b hb) h

theorem reap_sublist (s : Node) : ∃ u : Node, u.frame = s.frame ∧ u.lineup = s.lineup ∧
    s.reap.conns.Sublist u.conns ∧ s.reap.sessions = u.sessions ∧ s.reap.draws = u.draws ∧
      s.reap.parked = u.parked := by
  unfold reap
  split
  · exact ⟨s, rfl, rfl, List.Sublist.refl _, rfl, rfl, rfl⟩
  · -- a removal changes the connections' queues, and what neither the frame nor the lineup shows
    refine ⟨_, foldl_keeps frame (fun t id => ?_) _ s, foldl_keeps lineup (fun t id => ?_) _ s,
      List.filter_sublist, rfl, rfl, rfl⟩
    · exact frame_modifyQueue t id (·.discard)
    · exact keeps_lineup.modifyQueue t id (·.discard)

theorem Numbered.reap {s : Node} (hs : s.Numbered) : s.reap.Numbered := by
  obtain ⟨u, -, hu, hsub, hn, hd, -⟩ := reap_sublist s
  exact hs.of_sublist hu (hd.trans (draws_eq_of_lineup hu)) (hsub.map _)
    (hn.trans (sessions_eq_of_lineup hu)).ge

theorem Numbered.accept {s : Node} (hs : s.Numbered) (remote listener : Bytes) (link : Link) (pipe : Nat)
    (release : Option Nat) (p : Pipe) :
    ({ s with sessions := s.sessions + 1 }.accept
      ({ s with sessions := s.sessions + 1 }.fresh (s.sessions + 1) remote listener link pipe release) p).Numbered := by
  obtain ⟨ks, hks, hpair, hle⟩ := hs
  refine ⟨ks ++ [s.sessions + 1], by simp [hks], ?_, ?_⟩
  · exact List.pairwise_append.2 ⟨hpair, List.pairwise_singleton _ _,
      fun a ha b hb => by rw [List.mem_singleton.1 hb]; exact Nat.lt_succ_of_le (hle a ha)⟩
  · intro k hk
    rcases List.mem_append.1 hk with hk | hk
    · exact Nat.le_trans (hle k hk) (Nat.le_succ _)
    · exact Nat.le_of_eq (List.mem_singleton.1 hk)

theorem Numbered.attach {s : Node} (hs : s.Numbered) (layers : List LayerSpec) (pipe : Nat)
    (remote listener : Bytes) (release : Option Nat) :
    (s.attach layers pipe remote listener release).2.Numbered := by
  have hrel : ∀ (t : Node) l, ({ t with released := l } : Node).lineup = t.lineup := fun _ _ => rfl
  rcases attach_cases s layers pipe remote listener release with
    ⟨-, h⟩ | ⟨-, e, h⟩ | ⟨-, link, wire, -, h⟩ <;> rw [h]
  · exact hs.of_lineup (keeps_lineup.refuse hrel ..)
  · -- the chain was refused: a session number is used up all the same
    obtain ⟨ks, hks, hpair, hle⟩ := hs
    have hl := keeps_lineup.toKeepsLink.refuse hrel { s with sessions := s.sessions + 1 } layers pipe release
    refine ⟨ks, ?_, hpair, fun k hk => ?_⟩
    · rw [ids_eq_of_lineup hl, draws_eq_of_lineup hl]
      exact hks
    · rw [sessions_eq_of_lineup hl]
      exact Nat.le_succ_of_le (hle k hk)
  · exact (hs.accept remote listener link pipe release wire.pipe).of_lineup
      ((keeps_lineup.readable ..).trans (keeps_lineup.deliver ..))

theorem reap_inline (s : Node) : s.reap.inline = s.inline := by
  unfold reap
  split
  · rfl
  · -- no removal touches the pool
    refine foldl_keeps Node.inline (fun t id => ?_) _ s
    rfl

theorem Reachable.numbered {s : Node} (h : s.Reachable) : s.Numbered := by
  induction h with
  | start => exact ⟨[], rfl, .nil, by simp⟩
  | openPipe _ _ ih => exact ih.of_lineup rfl
  | attach layers pipe remote listener release _ ih => exact ih.attach layers pipe remote listener release
  | submit _ _ _ ih => exact ih.of_lineup (keeps_lineup.submit ..)
  | enqueue _ _ _ _ ih => exact ih.of_lineup (keeps_lineup.enqueue ..)
  | tick _ ih => exact ih.of_lineup (keeps_lineup.tick _)
  | poll _ ih => exact (ih.of_lineup (keeps_lineup.beforeReap _)).reap
  | housekeep now _ ih => exact (ih.of_lineup (keeps_lineup.housekeepRound _ now)).reap
  | peer _ _ _ _ ih => exact ih.of_lineup ((keeps_lineup.deliver ..).trans (keeps_lineup.setPipe ..))
  | clock _ _ ih => exact ih.of_lineup rfl
  | services _ _ ih => exact ih.of_lineup (keeps_lineup.modifyServices ..)
  | startPool _ ih | stopPool _ ih => exact ih.of_lineup rfl
  | @takeJob s _ ih =>
    unfold Node.takeJob
    split
    · split
      · exact ih.of_lineup rfl
      · exact ih
    · exact ih
  | @finishJob s j _ ih =>
    unfold Node.finishJob
    split
    · split
      · dsimp only
        split
        · exact ih.of_lineup rfl
        · exact ih.of_lineup rfl
      · exact ih
    · exact ih
  | beginShutdown _ ih => exact ih.of_lineup (keeps_lineup.beginShutdown _)
  | shutdownRound _ ih => exact (ih.of_lineup (keeps_lineup.runPosted _)).reap
  | endShutdown _ ih => exact (ih.of_lineup (keeps_lineup.cullAll ..)).reap

theorem Reachable.ids_nodup {s : Node} (h : s.Reachable) (hd : s.draws.Distinct s.sessions) :
    (s.conns.map (·.id)).Nodup :=
  h.numbered.ids_nodup hd

/-! ## Offloaded work on the loop -/

/-- What holds of every reachable node whose offloaded work stays on the loop: its connections
are numbered, none is locked, and no event is parked. -/
structure Sound (s : Node) : Prop where
  numbered : s.Numbered
  unlocked : ∀ c ∈ s.conns, c.locked = 0
  settled : s.parked = []

theorem locked_of_roster {s t : Node} (h : t.roster = s.roster) (hs : ∀ c ∈ s.conns, c.locked = 0) :
    ∀ c ∈ t.conns, c.locked = 0 := by
  intro c hc
  have hl : t.conns.map (fun c => (c.id, c.locked)) = s.conns.map (fun c => (c.id, c.locked)) :=
    congrArg Prod.fst h
  have hm : (c.id, c.locked) ∈ s.conns.map fun c => (c.id, c.locked) := by
    rw [← hl]
    exact List.mem_map_of_mem hc
  obtain ⟨c', hc', he⟩ := List.mem_map.1 hm
  rw [← (Prod.mk.inj he).2]
  exact hs c' hc'

theorem Sound.of_frame {s t : Node} (hs : s.Sound) (h : t.frame = s.frame) (hd : t.draws = s.draws) :
    t.Sound :=
  ⟨hs.numbered.of_lineup (lineup_of_frame h hd), locked_of_roster (roster_of_frame h) hs.unlocked,
    (parked_of_frame h).trans hs.settled⟩

theorem frame_unlock_of_unlocked {s : Node} (h : ∀ c ∈ s.conns, c.locked = 0) (id : Bytes) :
    (s.unlock id).frame = s.frame := by
  have hmap : (s.unlock id).conns.map (fun c => (c.id, c.locked)) = s.conns.map fun c => (c.id, c.locked) := by
    simp only [unlock, modifyConn, List.map_map]
    apply List.map_congr_left
    intro c hc
    by_cases hc' : c.id = id
    · rw [Function.comp_apply, if_pos (by simpa using hc')]
      exact Prod.ext rfl (by show c.locked - 1 = c.locked; rw [h c hc])
    · rw [Function.comp_apply, if_neg (by simpa using hc')]
  simp only [frame, hmap]
  rfl

theorem Sound.runPost {s : Node} (hs : s.Sound) (p : Post) : (s.runPost p).Sound := by
  have hd := draws_eq_of_lineup (keeps_lineup.runPost s p)
  cases p with
  | readable id => exact hs.of_frame (frame_runPost_event s rfl) hd
  | writable id => exact hs.of_frame (frame_runPost_event s rfl) hd
  | completion job found =>
    have hu := frame_unlock_of_unlocked hs.unlocked job.conn
    obtain ⟨hr, -, hp⟩ := answerWork_spec (s.unlock job.conn) job.conn found
    refine ⟨hs.numbered.of_lineup (keeps_lineup.runPost ..), locked_of_roster (hr.trans (roster_of_frame hu))
      hs.unlocked, ?_⟩
    rw [Node.runPost, Node.applyWork, hp, parked_of_frame hu, hs.settled]
    rfl

theorem Sound.runPosted {s : Node} (hs : s.Sound) : s.runPosted.Sound := by
  unfold Node.runPosted
  exact foldl_preserves Sound (fun t p ht => ht.runPost p) _ _ (hs.of_frame rfl rfl)

theorem Sound.tick {s : Node} (hs : s.Sound) (hin : s.inline = true) : s.tick.2.Sound := by
  obtain ⟨⟨hr, -⟩, hp, -⟩ := foldl_visitLogged (s.conns.map (·.id))
    ((0, { s with counters := { s.counters with ticks := s.counters.ticks + 1 } }), []) ⟨rfl, hin⟩ hs.settled
  rw [← tickLog_fst]
  refine ⟨hs.numbered.of_lineup ?_, locked_of_roster hr hs.unlocked, hp⟩
  rw [tickLog_fst]
  exact keeps_lineup.tick s

theorem Sound.reap {s : Node} (hs : s.Sound) : s.reap.Sound := by
  obtain ⟨u, hu, -, hsub, -, -, hp⟩ := reap_sublist s
  exact ⟨hs.numbered.reap, fun c hc => locked_of_roster (roster_of_frame hu) hs.unlocked c (hsub.subset hc),
    hp.trans ((parked_of_frame hu).trans hs.settled)⟩

theorem Sound.attach {s : Node} (hs : s.Sound) (layers : List LayerSpec) (pipe : Nat)
    (remote listener : Bytes) (release : Option Nat) : (s.attach layers pipe remote listener release).2.Sound := by
  refine ⟨hs.numbered.attach layers pipe remote listener release, ?_, ?_⟩ <;>
    rcases attach_cases s layers pipe remote listener release with
      ⟨-, h⟩ | ⟨-, e, h⟩ | ⟨-, link, wire, -, h⟩ <;> rw [h]
  · exact locked_of_roster (roster_of_frame (frame_refuse ..)) hs.unlocked
  · exact locked_of_roster (roster_of_frame (frame_refuse ..)) hs.unlocked
  · refine locked_of_roster (roster_of_frame ((frame_readable ..).trans (frame_deliver ..))) fun c hc => ?_
    -- the one connection added is fresh, so unlocked
    have hc : c ∈ s.conns ++ [_] := hc
    rcases List.mem_append.1 hc with hc | hc
    · exact hs.unlocked c hc
    · rw [List.mem_singleton.1 hc]
      rfl
  · exact (parked_of_frame (frame_refuse ..)).trans hs.settled
  · exact (parked_of_frame (frame_refuse ..)).trans hs.settled
  · exact (parked_of_frame ((frame_readable ..).trans (frame_deliver ..))).trans hs.settled

theorem inline_attach (s : Node) (layers : List LayerSpec) (pipe : Nat) (remote listener : Bytes)
    (release : Option Nat) : (s.attach layers pipe remote listener release).2.inline = s.inline := by
  rcases attach_cases s layers pipe remote listener release with
    ⟨-, h⟩ | ⟨-, e, h⟩ | ⟨-, link, wire, -, h⟩ <;> rw [h]
  · exact (inline_of_frame (frame_refuse ..)).trans rfl
  · exact (inline_of_frame (frame_refuse ..)).trans rfl
  · exact (inline_of_frame ((frame_readable ..).trans (frame_deliver ..))).trans rfl

theorem draws_attach (s : Node) (layers : List LayerSpec) (pipe : Nat) (remote listener : Bytes)
    (release : Option Nat) : (s.attach layers pipe remote listener release).2.draws = s.draws := by
  rcases attach_cases s layers pipe remote listener release with
    ⟨-, h⟩ | ⟨-, e, h⟩ | ⟨-, link, wire, -, h⟩ <;> rw [h]
  · exact (draws_eq_of_lineup (keeps_lineup.toKeepsLink.refuse (fun _ _ => rfl) ..)).trans rfl
  · exact (draws_eq_of_lineup (keeps_lineup.toKeepsLink.refuse (fun _ _ => rfl) ..)).trans rfl
  · exact (draws_eq_of_lineup ((keeps_lineup.readable ..).trans (keeps_lineup.deliver ..))).trans rfl

theorem Sound.poll {s : Node} (hs : s.Sound) (hin : s.inline = true) : s.poll.Sound :=
  ((hs.runPosted.tick (by rw [keeps_inline.runPosted]; exact hin)).runPosted).reap

theorem Sound.housekeep {s : Node} (hs : s.Sound) (now : Int) : (s.housekeep now).Sound :=
  (hs.of_frame (foldl_keeps frame (fun t id => frame_housekeepOne t now id) _ s)
    (draws_eq_of_lineup (keeps_lineup.housekeepRound s now))).reap

theorem Sound.beginShutdown {s : Node} (hs : s.Sound) : s.beginShutdown.Sound :=
  ((hs.of_frame (t := { s with draining := true }) rfl rfl).runPosted).of_frame (frame_closeOpen ..)
    (draws_eq_of_lineup (keeps_lineup.closeOpen ..))

theorem Sound.endShutdown {s : Node} (hs : s.Sound) : s.endShutdown.Sound :=
  (hs.of_frame (frame_cullAll ..) (draws_eq_of_lineup (keeps_lineup.cullAll ..))).reap

theorem Reachable.sound {s : Node} (h : s.Reachable) (hin : s.inline = true) : s.Sound := by
  induction h with
  | start => exact ⟨⟨[], rfl, .nil, by simp⟩, by simp [Node.start], rfl⟩
  | openPipe _ _ ih => exact (ih hin).of_frame (frame_openPipe ..) rfl
  | attach layers pipe remote listener release _ ih =>
    exact (ih (by rwa [inline_attach] at hin)).attach layers pipe remote listener release
  | submit _ _ _ ih =>
    exact (ih (by rwa [keeps_inline.submit] at hin)).of_frame (frame_submit ..)
      (draws_eq_of_lineup (keeps_lineup.submit ..))
  | enqueue _ _ _ _ ih =>
    exact (ih (by rwa [keeps_inline.enqueue] at hin)).of_frame (frame_enqueue ..)
      (draws_eq_of_lineup (keeps_lineup.enqueue ..))
  | @tick t _ ih =>
    have hin' : t.inline = true := by rwa [keeps_inline.tick] at hin
    exact (ih hin').tick hin'
  | @poll t _ ih =>
    have hin' : t.inline = true := by rwa [Node.poll, reap_inline, keeps_inline.beforeReap] at hin
    exact (ih hin').poll hin'
  | housekeep now _ ih =>
    exact (ih (by rwa [Node.housekeep, reap_inline, keeps_inline.housekeepRound] at hin)).housekeep now
  | peer _ _ _ _ ih =>
    exact (ih (by rwa [keeps_inline.deliver, keeps_inline.setPipe] at hin)).of_frame (frame_deliver ..)
      (draws_eq_of_lineup ((keeps_lineup.deliver ..).trans (keeps_lineup.setPipe ..)))
  | clock _ _ ih => exact (ih hin).of_frame rfl rfl
  | services _ _ ih => exact (ih hin).of_frame (frame_modifyServices ..) rfl
  | @startPool s _ ih =>
    -- a pool that has just started would take work off the loop
    have hp := inline_startPool hin
    have hs : s.startPool = s := by
      cases s
      cases hp
      rfl
    rw [hs] at hin ⊢
    exact ih hin
  | stopPool _ ih =>
    exact (ih (by rwa [keeps_inline.stopPool] at hin)).of_frame (frame_stopPool _) rfl
  | takeJob _ ih =>
    exact (ih (by rwa [keeps_inline.takeJob] at hin)).of_frame (frame_takeJob _)
      (draws_eq_of_lineup (keeps_lineup.takeJob _))
  | finishJob j _ ih =>
    exact (ih (by rwa [keeps_inline.finishJob] at hin)).of_frame (frame_finishJob ..)
      (draws_eq_of_lineup (keeps_lineup.finishJob ..))
  | beginShutdown _ ih => exact (ih (by rwa [keeps_inline.beginShutdown] at hin)).beginShutdown
  | shutdownRound _ ih =>
    exact (ih (by rwa [Node.shutdownRound, reap_inline, keeps_inline.runPosted] at hin)).runPosted.reap
  | endShutdown _ ih =>
    exact (ih (by rwa [Node.endShutdown, reap_inline, keeps_inline.cullAll] at hin)).endShutdown

end Node

end LineKv.Server
