import LineKv.Proofs.SessionTimers
import LineKv.Proofs.ReplyLines

/-!
Keep-alive and timeouts over a run: a node's timers answer to the history of its sessions
(`Timed`, `Agrees`), so every housekeeping action is justified by that history. Main statement:
`Timed.housekeep_justified`.
-/

namespace LineKv.Server

open Command Transport

/-- What a session's timers answer to, with the clock at the time: it attached, a command of it
passed the dispatcher's checks, or it was pinged. -/
inductive Mark where
  | attached (id : Bytes) (time : Int)
  | validated (id : Bytes) (time : Int)
  | pinged (id : Bytes) (time : Int)
  deriving DecidableEq

namespace Mark

def id : Mark → Bytes
  | attached k _ | validated k _ | pinged k _ => k

def attachTime (k : Bytes) : Mark → Option Int
  | attached j t => if j = k then some t else none
  | _ => none

/-- Attaching counts as activity, as a command that passed does; a ping does not. -/
def activeTime (k : Bytes) : Mark → Option Int
  | attached j t | validated j t => if j = k then some t else none
  | pinged _ _ => none

def pingTime (k : Bytes) : Mark → Option Int
  | pinged j t => if j = k then some t else none
  | _ => none

theorem attachTime_of_ne {m : Mark} {k : Bytes} (h : m.id ≠ k) : m.attachTime k = none := by
  cases m <;> simp_all [id, attachTime]

theorem activeTime_of_ne {m : Mark} {k : Bytes} (h : m.id ≠ k) : m.activeTime k = none := by
  cases m <;> simp_all [id, activeTime]

end Mark

def attachedAt (L : List Mark) (k : Bytes) : Option Int := L.findSome? (Mark.attachTime k)

def activeAt (L : List Mark) (k : Bytes) : Option Int := L.findSome? (Mark.activeTime k)

def pingOut (L : List Mark) (k : Bytes) : Option Int := (L.find? (·.id == k)).bind (Mark.pingTime k)

/-- Two histories say the same of session `k`. -/
structure SameFor (k : Bytes) (L L' : List Mark) : Prop where
  attached : attachedAt L k = attachedAt L' k
  active : activeAt L k = activeAt L' k
  ping : pingOut L k = pingOut L' k

theorem sameFor_append_other {k : Bytes} {M : List Mark} (L : List Mark) (h : ∀ m ∈ M, m.id ≠ k) :
    SameFor k (M ++ L) L where
  attached := by
    rw [attachedAt, List.findSome?_append,
      List.findSome?_eq_none_iff.2 fun m hm => Mark.attachTime_of_ne (h m hm), Option.none_or]
    rfl
  active := by
    rw [activeAt, List.findSome?_append,
      List.findSome?_eq_none_iff.2 fun m hm => Mark.activeTime_of_ne (h m hm), Option.none_or]
    rfl
  ping := by
    rw [pingOut, List.find?_append, List.find?_eq_none.2 fun m hm => by simpa using h m hm,
      Option.none_or]
    rfl

/-- The first hit of a search through marks that hit only `m0`, which is among them. -/
theorem findSome?_of_only {α : Type} {f : Mark → Option α} {m0 : Mark} :
    ∀ {M : List Mark}, m0 ∈ M → (∀ m ∈ M, f m ≠ none → m = m0) → M.findSome? f = f m0
  | m :: M, h0, h => by
    rw [List.findSome?_cons]
    by_cases hm0 : m = m0
    · subst hm0
      cases hm : f m with
      | some b => rfl
      | none =>
        -- `m0` hits nothing, so no other mark does either
        show M.findSome? f = none
        rw [List.findSome?_eq_none_iff]
        intro m' hm'
        by_contra hne
        exact hne (h m' (by simp [hm']) hne ▸ hm)
    · have hm : f m = none := by
        by_contra hne
        exact hm0 (h m (by simp) hne)
      have h0' : m0 ∈ M := by
        rcases List.mem_cons.1 h0 with h0 | h0
        · exact absurd h0.symm hm0
        · exact h0
      rw [hm]
      exact findSome?_of_only h0' fun m' hm' => h m' (by simp [hm'])

theorem find?_of_only {p : Mark → Bool} {m0 : Mark} (hp : p m0 = true) :
    ∀ {M : List Mark}, m0 ∈ M → (∀ m ∈ M, p m = true → m = m0) → M.find? p = some m0
  | m :: M, h0, h => by
    rw [List.find?_cons]
    by_cases hm : p m = true
    · rw [hm, h m (by simp) hm]
    · rw [Bool.not_eq_true] at hm
      have hne : m ≠ m0 := fun e => by rw [e, hp] at hm; cases hm
      have h0' : m0 ∈ M := by
        rcases List.mem_cons.1 h0 with h0 | h0
        · exact absurd h0.symm hne
        · exact h0
      rw [hm]
      exact find?_of_only hp h0' fun m' hm' => h m' (by simp [hm'])

theorem sameFor_append_one {k : Bytes} {M : List Mark} {m0 : Mark} (L : List Mark) (h0 : m0 ∈ M)
    (hk : m0.id = k) (h : ∀ m ∈ M, m.id = k → m = m0) : SameFor k (M ++ L) (m0 :: L) := by
  -- a search of `k`'s times hits only marks of `k`
  have hof : ∀ f : Mark → Option Int, (∀ m, m.id ≠ k → f m = none) →
      (M ++ L).findSome? f = (m0 :: L).findSome? f := fun f hf => by
    rw [List.findSome?_append, List.findSome?_cons,
      findSome?_of_only h0 fun m hm hfm => h m hm (by by_contra hne; exact hfm (hf m hne))]
    cases f m0 <;> rfl
  refine ⟨hof _ fun _ => Mark.attachTime_of_ne, hof _ fun _ => Mark.activeTime_of_ne, ?_⟩
  have hfind := find?_of_only (p := (·.id == k)) (by simpa using hk) h0
    fun m hm hmk => h m hm (by simpa using hmk)
  rw [pingOut, pingOut, List.find?_append, hfind, List.find?_cons, show (m0.id == k) = true by simpa using hk]
  rfl

/-- The timers `x` of session `id` agree with history `L` and keep-alive interval `k`: the session
connected when it attached; a ping is outstanding exactly when its last mark is a ping, sent then;
and with keep-alive on, the next ping is due an interval past its last activity. -/
structure Agrees (k : Int) (L : List Mark) (id : Bytes) (x : Timers) : Prop where
  connected : attachedAt L id = some x.connectedAt
  pinged : pingOut L id = if x.pingToken.isEmpty then none else some x.pingSent
  due : 0 < k → ∃ t, activeAt L id = some t ∧ x.nextKeepAlive.getD (x.connectedAt + k) = t + k

namespace Agrees

variable {k : Int} {L : List Mark} {id : Bytes} {x : Timers}

theorem of_sameFor {L' : List Mark} (h : Agrees k L id x) (hs : SameFor id L' L) : Agrees k L' id x :=
  ⟨hs.attached ▸ h.connected, hs.ping ▸ h.pinged, hs.active ▸ h.due⟩

theorem create (k : Int) (L : List Mark) (id remote listener : Bytes) (now : Int) :
    Agrees k (.attached id now :: L) id (Session.create id remote listener now).timers where
  connected := by simp [attachedAt, Mark.attachTime, Session.create, Session.timers]
  pinged := by simp [pingOut, Mark.id, Mark.pingTime, Session.create, Session.timers]
  due _ := ⟨now, by simp [activeAt, Mark.activeTime], rfl⟩

theorem touch (h : Agrees k L id x) (now : Int) :
    Agrees k (.validated id now :: L) id (x.touch now k) where
  connected := by
    rw [attachedAt, List.findSome?_cons]
    exact h.connected
  pinged := by simp [pingOut, Mark.id, Mark.pingTime, Timers.touch]
  due hk := ⟨now, by simp [activeAt, Mark.activeTime], by simp [Timers.touch, hk]⟩

theorem schedule (h : Agrees k L id x) :
    Agrees k L id { x with nextKeepAlive := some (x.nextKeepAlive.getD (x.connectedAt + k)) } :=
  ⟨h.connected, h.pinged, fun hk => by simpa using h.due hk⟩

/-- A ping at `now` with a nonempty token agrees with its mark. -/
theorem ping (h : Agrees k L id x) (now : Int) {p : Bytes} (hp : p ≠ []) :
    Agrees k (.pinged id now :: L) id
      { x with
        nextKeepAlive := some (x.nextKeepAlive.getD (x.connectedAt + k))
        pingToken := p
        pingSent := now } where
  connected := by
    rw [attachedAt, List.findSome?_cons]
    exact h.connected
  pinged := by simp [pingOut, Mark.id, Mark.pingTime, hp]
  due hk := by
    obtain ⟨t, ht, hdue⟩ := h.due hk
    refine ⟨t, ?_, by simpa using hdue⟩
    rw [activeAt, List.findSome?_cons]
    exact ht

end Agrees

namespace TimerAction

def isPing : TimerAction → Bool
  | .ping _ => true
  | _ => false

/-- The action a housekeeping round chooses for connection `c` at `now`, branch by branch: nothing
for a torn-down connection; for a quitting one, a cull once its grace is over; for a live one, a
close on a registration timeout, then on a ping outstanding past the ping timeout; with no ping
outstanding and keep-alive on, a ping once its due time has come, else the due time recorded. -/
inductive Chosen (cfg : Config) (now : Int) (c : Connection) : TimerAction → Prop
  | dead : c.dead = true → Chosen cfg now c .skip
  | cull : c.dead = false → c.quitting = true → cfg.shutdownGrace ≤ now - c.quitAt → Chosen cfg now c .cull
  | grace : c.dead = false → c.quitting = true → now - c.quitAt < cfg.shutdownGrace → Chosen cfg now c .skip
  | registration : c.dead = false → c.quitting = false → c.session.registered = false →
      0 < cfg.registrationTimeout → cfg.registrationTimeout ≤ now - c.session.connectedAt →
      Chosen cfg now c (.close (Bytes.ofString "Registration timeout"))
  | pingTimeout : c.dead = false → c.quitting = false →
      ¬(c.session.registered = false ∧ 0 < cfg.registrationTimeout ∧
        cfg.registrationTimeout ≤ now - c.session.connectedAt) →
      c.session.pingToken ≠ [] → 0 < cfg.pingTimeout → cfg.pingTimeout ≤ now - c.session.pingSent →
      Chosen cfg now c (.close (Bytes.ofString "Ping timeout"))
  | pingOut : c.dead = false → c.quitting = false →
      ¬(c.session.registered = false ∧ 0 < cfg.registrationTimeout ∧
        cfg.registrationTimeout ≤ now - c.session.connectedAt) →
      c.session.pingToken ≠ [] → ¬(0 < cfg.pingTimeout ∧ cfg.pingTimeout ≤ now - c.session.pingSent) →
      Chosen cfg now c .skip
  | off : c.dead = false → c.quitting = false →
      ¬(c.session.registered = false ∧ 0 < cfg.registrationTimeout ∧
        cfg.registrationTimeout ≤ now - c.session.connectedAt) →
      c.session.pingToken = [] → cfg.keepAlive ≤ 0 → Chosen cfg now c .skip
  | schedule : c.dead = false → c.quitting = false →
      ¬(c.session.registered = false ∧ 0 < cfg.registrationTimeout ∧
        cfg.registrationTimeout ≤ now - c.session.connectedAt) →
      c.session.pingToken = [] → 0 < cfg.keepAlive →
      now < c.session.nextKeepAlive.getD (c.session.connectedAt + cfg.keepAlive) →
      Chosen cfg now c (.schedule (c.session.nextKeepAlive.getD (c.session.connectedAt + cfg.keepAlive)))
  | ping : c.dead = false → c.quitting = false →
      ¬(c.session.registered = false ∧ 0 < cfg.registrationTimeout ∧
        cfg.registrationTimeout ≤ now - c.session.connectedAt) →
      c.session.pingToken = [] → 0 < cfg.keepAlive →
      c.session.nextKeepAlive.getD (c.session.connectedAt + cfg.keepAlive) ≤ now →
      Chosen cfg now c (.ping (c.session.nextKeepAlive.getD (c.session.connectedAt + cfg.keepAlive)))

end TimerAction

namespace Node

def tickMarks (s : Node) : List Mark := s.tickAdmitted.map fun k => .validated k s.now

/-- The mark of an attach that made its chain: the new session, at the clock. -/
def attachMarks (s : Node) (layers : List LayerSpec) (pipe : Nat) (remote listener : Bytes)
    (release : Option Nat) : List Mark :=
  match (s.attach layers pipe remote listener release).1 with
  | .ok id => [.attached id s.now]
  | .error _ => []

def pingMarks (s : Node) (now : Int) : List Mark :=
  (s.conns.filter fun c => (timerAction s.config now c).isPing).map fun c => .pinged c.id now

/-- A run of the node, the steps of `Reachable`, with the history of its sessions' timers. -/
inductive Timed : Node → List Mark → Prop
  | start (config : Config) (dispatcher : Dispatcher Builtin) (services : Services) (draws : Draws)
      (pool : Option WorkerPool) (now : Int) :
      Timed (Node.start config dispatcher services draws pool now) []
  | openPipe {s : Node} {L : List Mark} (capacity : Int) : Timed s L → Timed (s.openPipe capacity).2 L
  | attach {s : Node} {L : List Mark} (layers : List LayerSpec) (pipe : Nat) (remote listener : Bytes)
      (release : Option Nat) : Timed s L →
        Timed (s.attach layers pipe remote listener release).2
          (s.attachMarks layers pipe remote listener release ++ L)
  | submit {s : Node} {L : List Mark} (id raw : Bytes) : Timed s L → Timed (s.submit id raw) L
  | enqueue {s : Node} {L : List Mark} (id name : Bytes) (params : List Bytes) :
      Timed s L → Timed (s.enqueue id name params).2 L
  | tick {s : Node} {L : List Mark} : Timed s L → Timed s.tick.2 (s.tickMarks ++ L)
  | poll {s : Node} {L : List Mark} : Timed s L → Timed s.poll (s.runPosted.tickMarks ++ L)
  | housekeep {s : Node} {L : List Mark} (now : Int) :
      Timed s L → Timed (s.housekeep now) (s.pingMarks now ++ L)
  | peer {s : Node} {L : List Mark} (pipe : Nat) (p : Pipe) (signals : List Signal) :
      Timed s L → Timed ((s.setPipe pipe p).deliver pipe signals) L
  | clock {s : Node} {L : List Mark} (now : Int) : Timed s L → Timed { s with now := now } L
  | services {s : Node} {L : List Mark} (f : Services → Services) :
      Timed s L → Timed (s.modifyServices f) L
  | startPool {s : Node} {L : List Mark} : Timed s L → Timed s.startPool L
  | stopPool {s : Node} {L : List Mark} : Timed s L → Timed s.stopPool L
  | takeJob {s : Node} {L : List Mark} : Timed s L → Timed s.takeJob L
  | finishJob {s : Node} {L : List Mark} (j : Job) : Timed s L → Timed (s.finishJob j) L
  | beginShutdown {s : Node} {L : List Mark} : Timed s L → Timed s.beginShutdown L
  | shutdownRound {s : Node} {L : List Mark} : Timed s L → Timed s.shutdownRound L
  | endShutdown {s : Node} {L : List Mark} : Timed s L → Timed s.endShutdown L

theorem Timed.reachable {s : Node} {L : List Mark} (h : Timed s L) : s.Reachable := by
  induction h with
  | start config dispatcher services draws pool now => exact .start config dispatcher services draws pool now
  | openPipe capacity _ ih => exact .openPipe capacity ih
  | attach layers pipe remote listener release _ ih => exact .attach layers pipe remote listener release ih
  | submit id raw _ ih => exact .submit id raw ih
  | enqueue id name params _ ih => exact .enqueue id name params ih
  | tick _ ih => exact .tick ih
  | poll _ ih => exact .poll ih
  | housekeep now _ ih => exact .housekeep now ih
  | peer pipe p signals _ ih => exact .peer pipe p signals ih
  | clock now _ ih => exact .clock now ih
  | services f _ ih => exact .services f ih
  | startPool _ ih => exact .startPool ih
  | stopPool _ ih => exact .stopPool ih
  | takeJob _ ih => exact .takeJob ih
  | finishJob j _ ih => exact .finishJob j ih
  | beginShutdown _ ih => exact .beginShutdown ih
  | shutdownRound _ ih => exact .shutdownRound ih
  | endShutdown _ ih => exact .endShutdown ih

theorem nanoText_ne_nil (ms : Int) : nanoText ms ≠ [] := by
  unfold nanoText Bytes.ofInt
  split
  · exact List.cons_ne_nil _ _
  · exact Bytes.ofNat_ne_nil _

theorem timerAction_chosen (cfg : Config) (now : Int) (c : Connection) :
    TimerAction.Chosen cfg now c (timerAction cfg now c) := by
  unfold timerAction
  dsimp only
  split_ifs with hd hq hg hreg hp hpt hk hnow
  · exact .dead hd
  all_goals replace hd : c.dead = false := by simpa using hd
  · exact .cull hd hq hg
  · exact .grace hd hq (by omega)
  all_goals replace hq : c.quitting = false := by simpa using hq
  · simp only [Bool.and_eq_true, Bool.not_eq_eq_eq_not, Bool.not_true, decide_eq_true_eq] at hreg
    exact .registration hd hq hreg.1.1 hreg.1.2 hreg.2
  -- the branches past the registration check share its failure
  all_goals
    replace hreg : ¬(c.session.registered = false ∧ 0 < cfg.registrationTimeout ∧
        cfg.registrationTimeout ≤ now - c.session.connectedAt) := fun ⟨h₁, h₂, h₃⟩ =>
      hreg (by simp [h₁, h₂, h₃])
  · simp only [Bool.and_eq_true, decide_eq_true_eq] at hpt
    exact .pingTimeout hd hq hreg (by simpa using hp) hpt.1 hpt.2
  · exact .pingOut hd hq hreg (by simpa using hp) fun ⟨h₁, h₂⟩ => hpt (by simp [h₁, h₂])
  · exact .off hd hq hreg (by simpa using hp) hk
  · exact .schedule hd hq hreg (by simpa using hp) (by omega) hnow
  · exact .ping hd hq hreg (by simpa using hp) (by omega) (by omega)

theorem timerAction_due {cfg : Config} {now : Int} {c : Connection} {due : Int}
    (h : timerAction cfg now c = .ping due ∨ timerAction cfg now c = .schedule due) :
    0 < cfg.keepAlive ∧ due = c.session.nextKeepAlive.getD (c.session.connectedAt + cfg.keepAlive) := by
  have hc := timerAction_chosen cfg now c
  rcases h with h | h <;> rw [h] at hc
  · cases hc with
    | ping _ _ _ _ hk _ => exact ⟨hk, rfl⟩
  · cases hc with
    | schedule _ _ _ _ hk _ => exact ⟨hk, rfl⟩

/-- A round closes a connection only while it is live: for a registration timeout, or for a ping
outstanding past the ping timeout. -/
theorem timerAction_close {cfg : Config} {now : Int} {c : Connection} {reason : Bytes}
    (h : timerAction cfg now c = .close reason) :
    c.dead = false ∧ c.quitting = false ∧
      ((reason = Bytes.ofString "Registration timeout" ∧ c.session.registered = false ∧
          0 < cfg.registrationTimeout ∧ cfg.registrationTimeout ≤ now - c.session.connectedAt) ∨
        (reason = Bytes.ofString "Ping timeout" ∧ c.session.pingToken ≠ [] ∧ 0 < cfg.pingTimeout ∧
          cfg.pingTimeout ≤ now - c.session.pingSent)) := by
  have hc := timerAction_chosen cfg now c
  rw [h] at hc
  cases hc with
  | registration hd hq hr h₁ h₂ => exact ⟨hd, hq, .inl ⟨rfl, hr, h₁, h₂⟩⟩
  | pingTimeout hd hq _ hp h₁ h₂ => exact ⟨hd, hq, .inr ⟨rfl, hp, h₁, h₂⟩⟩

/-- A round pings a connection only while it is live, with no ping outstanding, keep-alive on and
the due time its timers hold passed. -/
theorem timerAction_ping {cfg : Config} {now : Int} {c : Connection} {due : Int}
    (h : timerAction cfg now c = .ping due) :
    c.dead = false ∧ c.quitting = false ∧ c.session.pingToken = [] ∧ 0 < cfg.keepAlive ∧
      due = c.session.nextKeepAlive.getD (c.session.connectedAt + cfg.keepAlive) ∧ due ≤ now := by
  have hc := timerAction_chosen cfg now c
  rw [h] at hc
  cases hc with
  | ping hd hq _ hp hk hle => exact ⟨hd, hq, hp, hk, rfl, hle⟩

theorem timerAction_cull {cfg : Config} {now : Int} {c : Connection} :
    timerAction cfg now c = .cull ↔
      c.quitting = true ∧ c.dead = false ∧ cfg.shutdownGrace ≤ now - c.quitAt := by
  constructor
  · intro h
    have hc := timerAction_chosen cfg now c
    rw [h] at hc
    cases hc with
    | cull hd hq hg => exact ⟨hq, hd, hg⟩
  · rintro ⟨hq, hd, hg⟩
    unfold timerAction
    dsimp only
    rw [if_neg (by simp [hd]), if_pos hq, if_pos hg]

def TimersAgree (s : Node) (L : List Mark) : Prop :=
  ∀ c ∈ s.conns, Agrees s.config.keepAlive L c.id c.session.timers

theorem TimersBy.agree {g : Bytes → Timers → Timers} {s t : Node} {L L' : List Mark}
    (h : TimersBy g s t) (hcfg : t.config = s.config)
    (hg : ∀ c ∈ s.conns, Agrees s.config.keepAlive L c.id c.session.timers →
      Agrees s.config.keepAlive L' c.id (g c.id c.session.timers))
    (hs : s.TimersAgree L) : t.TimersAgree L' := by
  intro c' hc'
  obtain ⟨c, hc, hid, ht⟩ := h c' hc'
  rw [hcfg, hid, ht]
  exact hg c hc (hs c hc)

namespace TimersAgree

variable {s : Node} {L : List Mark}

theorem kept {t : Node} (hs : s.TimersAgree L) (h : TimersKept s t) (hcfg : t.config = s.config) :
    t.TimersAgree L :=
  h.agree hcfg (fun _ _ ha => ha) hs

theorem own {t : Node} (hs : s.TimersAgree L) (j : Bytes)
    (h : ∀ {P : Node → Prop}, Own j P → P s → P t) : t.TimersAgree L :=
  hs.kept (h (own_timersKept j s) (TimersKept.refl s)) (h (own_clock j s) ⟨rfl, rfl⟩).2

theorem all {t : Node} (hs : s.TimersAgree L) (h : ∀ {P : Node → Prop}, (∀ j, Own j P) → P s → P t) :
    t.TimersAgree L :=
  hs.kept (h (fun j => own_timersKept j s) (TimersKept.refl s)) (h (fun j => own_clock j s) ⟨rfl, rfl⟩).2

theorem acts {t : Node} (hs : s.TimersAgree L) (h : ∀ {P : Node → Prop}, (∀ j, Acts j P) → P s → P t) :
    t.TimersAgree L :=
  hs.kept (h (fun j => acts_timersKept j s) (TimersKept.refl s)) (h (fun j => acts_clock j s) ⟨rfl, rfl⟩).2

theorem runPosted (hs : s.TimersAgree L) : s.runPosted.TimersAgree L :=
  hs.acts fun ha h => runPosted_preserves ha _ h

theorem beginShutdown (hs : s.TimersAgree L) : s.beginShutdown.TimersAgree L :=
  (show ({ s with draining := true } : Node).TimersAgree L from hs).runPosted.all fun ho h =>
    closeOpen_preserves ho _ _ h


theorem reap (hs : s.TimersAgree L) : s.reap.TimersAgree L :=
  hs.kept (reap_timersKept s) (reap_clock s).2

theorem endShutdown (hs : s.TimersAgree L) : s.endShutdown.TimersAgree L :=
  (hs.all fun ho h => cullAll_preserves ho _ _ h).reap

theorem tick (hs : s.TimersAgree L) : s.tick.2.TimersAgree (s.tickMarks ++ L) := by
  have ht := tick_timers s
  refine ht.timers.agree ht.config (fun c _ ha => ?_) hs
  by_cases hk : c.id ∈ s.tickAdmitted
  · rw [if_pos (show c.id ∈ admittedOf s.tickLog.2 from hk)]
    refine (ha.touch s.now).of_sameFor (sameFor_append_one L (List.mem_map.2 ⟨c.id, hk, rfl⟩) rfl ?_)
    intro m hm hmk
    obtain ⟨j, -, rfl⟩ := List.mem_map.1 hm
    simp only [Mark.id] at hmk
    rw [hmk]
  · rw [if_neg (show c.id ∉ admittedOf s.tickLog.2 from hk)]
    refine ha.of_sameFor (sameFor_append_other L fun m hm hmk => hk ?_)
    obtain ⟨j, hj, rfl⟩ := List.mem_map.1 hm
    simp only [Mark.id] at hmk
    rwa [← hmk]

theorem poll (hs : s.TimersAgree L) : s.poll.TimersAgree (s.runPosted.tickMarks ++ L) :=
  hs.runPosted.tick.runPosted.reap

theorem refuse (hs : s.TimersAgree L) (layers : List LayerSpec) (pipe : Nat) (release : Option Nat) :
    (s.refuse layers pipe release).TimersAgree L :=
  hs.kept ((own_timersKept [] s).deliver _ _ _ ((own_timersKept [] s).setPipe _ _ _ (TimersKept.refl s)))
    ((own_clock [] s).deliver _ _ _ ((own_clock [] s).setPipe _ _ _ ⟨rfl, rfl⟩)).2

/-- An attach that made its chain marks the new session, whose fresh timers agree with the mark;
the other sessions, whose ids differ from the new one, are left as they were. -/
theorem attach (hs : s.TimersAgree L) (hnum : s.Numbered) (layers : List LayerSpec) (pipe : Nat)
    (remote listener : Bytes) (release : Option Nat)
    (hd : (s.attach layers pipe remote listener release).2.draws.Distinct
      (s.attach layers pipe remote listener release).2.sessions) :
    (s.attach layers pipe remote listener release).2.TimersAgree
      (s.attachMarks layers pipe remote listener release ++ L) := by
  unfold attachMarks
  rcases attach_cases s layers pipe remote listener release with
    ⟨-, h⟩ | ⟨-, e, h⟩ | ⟨-, link, wire, -, h⟩ <;> rw [h] at hd ⊢
  · exact hs.refuse layers pipe release
  · exact (show ({ s with sessions := s.sessions + 1 } : Node).TimersAgree L from hs).refuse layers pipe release
  · rw [draws_eq_of_lineup (lineup_readable_deliver ..), sessions_eq_of_lineup (lineup_readable_deliver ..)] at hd
    have hfresh := hnum.fresh hd
    -- the connection is added, then its pipe's signals are delivered, which keeps every timer
    refine TimersAgree.kept ?_ ((own_timersKept [] _).readable _ _
      ((own_timersKept [] _).deliver _ _ _ (TimersKept.refl _)))
      ((own_clock [] _).readable _ _ ((own_clock [] _).deliver _ _ _ ⟨rfl, rfl⟩)).2
    intro d hd
    simp only [conns_accept, List.mem_append, List.mem_singleton] at hd
    rcases hd with hd | rfl
    · refine (hs d hd).of_sameFor (sameFor_append_other L fun m hm hmd => ?_)
      rw [List.mem_singleton] at hm
      subst hm
      exact hfresh d hd hmd.symm
    · exact Agrees.create _ L _ remote listener s.now

theorem housekeep (hs : s.TimersAgree L) (hu : (s.conns.map (·.id)).Nodup) (now : Int) :
    (s.housekeep now).TimersAgree (s.pingMarks now ++ L) := by
  refine (housekeep_timers s now hu).agree (housekeep_clock s now).2 (fun c hc ha => ?_) hs
  have hact : s.timerActionOf now c.id = timerAction s.config now c := by
    unfold timerActionOf
    rw [(conn?_eq_some_iff hu).2 ⟨hc, rfl⟩]
    rfl
  -- ids are distinct, so the round marks `c` only with its own ping
  have hmarks : ∀ m ∈ s.pingMarks now, m.id = c.id →
      m = .pinged c.id now ∧ (timerAction s.config now c).isPing = true := by
    intro m hm hmc
    obtain ⟨d, hd, rfl⟩ := List.mem_map.1 hm
    obtain ⟨hd, hp⟩ := List.mem_filter.1 hd
    have hdc : d = c := by
      have h1 := (conn?_eq_some_iff hu).2 ⟨hd, hmc⟩
      rw [(conn?_eq_some_iff hu).2 ⟨hc, rfl⟩] at h1
      exact (Option.some.inj h1).symm
    subst hdc
    exact ⟨rfl, hp⟩
  have hother : (timerAction s.config now c).isPing = false →
      SameFor c.id (s.pingMarks now ++ L) L := fun hp =>
    sameFor_append_other L fun m hm hmc => by
      rw [(hmarks m hm hmc).2] at hp
      cases hp
  rw [hact]
  cases ht : timerAction s.config now c with
  | ping due =>
    obtain ⟨-, rfl⟩ := timerAction_due (Or.inl ht)
    refine (ha.ping now (nanoText_ne_nil now)).of_sameFor
      (sameFor_append_one L ?_ rfl fun m hm hmc => (hmarks m hm hmc).1)
    exact List.mem_map.2 ⟨c, List.mem_filter.2 ⟨hc, by rw [ht]; rfl⟩, rfl⟩
  | schedule due =>
    obtain ⟨-, rfl⟩ := timerAction_due (Or.inr ht)
    exact ha.schedule.of_sameFor (hother (by rw [ht]; rfl))
  | skip => exact ha.of_sameFor (hother (by rw [ht]; rfl))
  | cull => exact ha.of_sameFor (hother (by rw [ht]; rfl))
  | close reason => exact ha.of_sameFor (hother (by rw [ht]; rfl))

end TimersAgree

theorem Timed.timersAgree {s : Node} {L : List Mark} (h : Timed s L) :
    s.draws.Distinct s.sessions → s.TimersAgree L := by
  induction h with
  | start => exact fun _ c hc => absurd hc List.not_mem_nil
  | openPipe capacity _ ih => exact ih
  | @attach s L layers pipe remote listener release hs ih =>
    intro hd
    have hd' : s.draws.Distinct s.sessions := by
      rw [draws_attach] at hd
      exact hd.mono (sessions_le_attach ..)
    exact (ih hd').attach hs.reachable.numbered layers pipe remote listener release hd
  | @submit s L id raw _ ih =>
    exact fun hd => (ih (distinct_of_lineup (keeps_lineup.submit ..) hd)).own id fun ho h => ho.submit s raw h
  | @enqueue s L id name params _ ih =>
    exact fun hd => (ih (distinct_of_lineup (keeps_lineup.enqueue ..) hd)).own id fun ho h =>
      ho.enqueue s name params h
  | @tick s L _ ih => exact fun hd => (ih (distinct_of_lineup (keeps_lineup.tick _) hd)).tick
  | @poll s L _ ih => exact fun hd => (ih (distinct_of_reap (keeps_lineup.beforeReap s) hd)).poll
  | @housekeep s L now hs ih =>
    intro hd
    have hd' := distinct_of_reap (keeps_lineup.housekeepRound s now) hd
    exact (ih hd').housekeep (hs.reachable.ids_nodup hd') now
  | @peer s L pipe p signals _ ih =>
    exact fun hd => (ih (distinct_of_lineup ((keeps_lineup.deliver ..).trans (keeps_lineup.setPipe ..)) hd)).own []
      fun ho h => ho.deliver _ pipe signals (ho.setPipe s pipe p h)
  | clock now _ ih => exact ih
  | services f _ ih => exact ih
  | startPool _ ih => exact ih
  | @stopPool s L _ ih => exact fun hd => (ih hd).acts fun ha h => (ha []).stopPool s h
  | @takeJob s L _ ih =>
    exact fun hd => (ih (distinct_of_lineup (keeps_lineup.takeJob _) hd)).acts fun ha h => (ha []).takeJob s h
  | @finishJob s L j _ ih =>
    exact fun hd => (ih (distinct_of_lineup (keeps_lineup.finishJob ..) hd)).acts fun ha h =>
      (ha []).finishJob s j h
  | @beginShutdown s L _ ih =>
    exact fun hd => (ih (distinct_of_lineup (keeps_lineup.beginShutdown _) hd)).beginShutdown
  | @shutdownRound s L _ ih =>
    exact fun hd => (ih (distinct_of_reap (keeps_lineup.runPosted s) hd)).runPosted.reap
  | @endShutdown s L _ ih => exact fun hd => (ih (distinct_of_reap (keeps_lineup.cullAll s _) hd)).endShutdown

end Node

/-- What housekeeping at `now` may do to connection `c` with history `L`: close it only while it
is live, and then only for a registration timeout run out since it attached or for a ping timeout
run out since a ping no command has answered; ping it only while it is live, with keep-alive on,
no ping outstanding and an interval passed since its last activity; and cull it exactly when it is
quitting, not yet torn down, and its grace is over. -/
structure Justified (cfg : Config) (L : List Mark) (now : Int) (c : Connection) (a : TimerAction) :
    Prop where
  close : ∀ reason, a = .close reason → c.dead = false ∧ c.quitting = false ∧
    ((reason = Bytes.ofString "Registration timeout" ∧ c.session.registered = false ∧
        0 < cfg.registrationTimeout ∧ ∃ t, attachedAt L c.id = some t ∧ cfg.registrationTimeout ≤ now - t) ∨
      (reason = Bytes.ofString "Ping timeout" ∧ 0 < cfg.pingTimeout ∧
        ∃ t, pingOut L c.id = some t ∧ cfg.pingTimeout ≤ now - t))
  ping : ∀ due, a = .ping due → c.dead = false ∧ c.quitting = false ∧ 0 < cfg.keepAlive ∧
    pingOut L c.id = none ∧ ∃ t, activeAt L c.id = some t ∧ due = t + cfg.keepAlive ∧ due ≤ now
  cull : a = .cull ↔ c.quitting = true ∧ c.dead = false ∧ cfg.shutdownGrace ≤ now - c.quitAt

theorem Agrees.justified {cfg : Config} {L : List Mark} {c : Connection}
    (h : Agrees cfg.keepAlive L c.id c.session.timers) (now : Int) :
    Justified cfg L now c (Node.timerAction cfg now c) where
  close reason ha := by
    obtain ⟨hd, hq, hreg | hping⟩ := Node.timerAction_close ha
    · obtain ⟨hr, hunreg, hpos, hle⟩ := hreg
      exact ⟨hd, hq, .inl ⟨hr, hunreg, hpos, _, h.connected, hle⟩⟩
    · -- the token is set, so the history's last mark of `c` is the ping
      obtain ⟨hr, hne, hpos, hle⟩ := hping
      have hout : pingOut L c.id = some c.session.pingSent := by
        rw [h.pinged]
        simp [Session.timers, hne]
      exact ⟨hd, hq, .inr ⟨hr, hpos, _, hout, hle⟩⟩
  ping due ha := by
    obtain ⟨hd, hq, hnil, hk, hdue, hle⟩ := Node.timerAction_ping ha
    obtain ⟨t, ht, hget⟩ := h.due hk
    have hout : pingOut L c.id = none := by
      rw [h.pinged]
      simp [Session.timers, hnil]
    exact ⟨hd, hq, hk, hout, t, ht, hdue.trans hget, hle⟩
  cull := Node.timerAction_cull

namespace Node

/-- Along every run whose draws give distinct ids, a housekeeping round at any clock does to each
connection its `timerAction`, as the connection stood when the round began, and each of those
actions is justified by the run's history. -/
theorem Timed.housekeep_justified {s : Node} {L : List Mark} (h : Timed s L)
    (hd : s.draws.Distinct s.sessions) (now : Int) :
    s.housekeep now =
        (s.conns.foldl (fun t c => (timerAction s.config now c).perform t now c) s).reap ∧
      ∀ c ∈ s.conns, Justified s.config L now c (timerAction s.config now c) :=
  ⟨housekeep_eq s now (h.reachable.ids_nodup hd), fun c hc => (h.timersAgree hd c hc).justified now⟩

/-- Keep-alive every second, a ping answered within half a second, a grace of 300 ms. -/
def timedConfig : Config :=
  { (default : Config) with
    maxLine := 512
    limits := Limits.ofConfig 0 0
    keepAlive := 1000
    pingTimeout := 500
    registrationTimeout := 10000
    shutdownGrace := 300 }

/-- Two connections attached at time 0, the second of which sent QUIT, after the tick that ran it:
a round at 1500 pings the first, idle past its interval, and culls the second, past its grace; a
round at 2100, after that one, closes the first for a ping left unanswered. -/
theorem housekeep_justified_after_attach :
    let s₀ := (((Node.start timedConfig ⟨builtinTable, []⟩ default .counter none 0).openPipe 0).2.openPipe 0).2
    let s₁ := (s₀.attach [.socket (Socket.create serverSide 0)] 0 (Bytes.ofString "mem:a")
      (Bytes.ofString "mem") none).2
    let s₂ := (s₁.attach [.socket (Socket.create serverSide 0)] 1 (Bytes.ofString "mem:b")
      (Bytes.ofString "mem") none).2.submit (sessionId 2) (Bytes.ofString "QUIT\r\n")
    let s := s₂.tick.2
    let L := s₂.tickMarks ++ (s₁.attachMarks [.socket (Socket.create serverSide 0)] 1 (Bytes.ofString "mem:b")
      (Bytes.ofString "mem") none ++ (s₀.attachMarks [.socket (Socket.create serverSide 0)] 0
        (Bytes.ofString "mem:a") (Bytes.ofString "mem") none ++ []))
    let t := s.housekeep 1500
    Timed s L ∧ s.draws.Distinct s.sessions ∧
      (s.housekeep 1500 =
          (s.conns.foldl (fun u c => (timerAction s.config 1500 c).perform u 1500 c) s).reap ∧
        ∀ c ∈ s.conns, Justified s.config L 1500 c (timerAction s.config 1500 c)) ∧
      s.conns.map (timerAction s.config 1500) = [.ping 1000, .cull] ∧
      (t.housekeep 2100 =
          (t.conns.foldl (fun u c => (timerAction t.config 2100 c).perform u 2100 c) t).reap ∧
        ∀ c ∈ t.conns, Justified t.config (s.pingMarks 1500 ++ L) 2100 c (timerAction t.config 2100 c)) ∧
      t.conns.map (timerAction t.config 2100) = [.close (Bytes.ofString "Ping timeout")] := by
  intro s₀ s₁ s₂ s L t
  have hs : Timed s L := .tick (.submit _ _ (.attach _ _ _ _ _ (.attach _ _ _ _ _ (.openPipe _ (.openPipe _
    (.start _ _ _ _ _ _))))))
  have hd : s.draws.Distinct s.sessions := by
    rw [draws_eq_of_lineup (keeps_lineup.tick _), draws_eq_of_lineup (keeps_lineup.submit ..), draws_attach,
      draws_attach]
    exact Draws.counter_distinct (by decide +kernel)
  have ht : Timed t (s.pingMarks 1500 ++ L) := .housekeep 1500 hs
  have hdt : t.draws.Distinct t.sessions := by
    show (s.housekeep 1500).draws.Distinct (s.housekeep 1500).sessions
    unfold Node.housekeep
    rw [reap_draws, reap_sessions, draws_eq_of_lineup (keeps_lineup.housekeepRound s 1500),
      sessions_eq_of_lineup (keeps_lineup.housekeepRound s 1500)]
    exact hd
  exact ⟨hs, hd, hs.housekeep_justified hd 1500, by decide +kernel, ht.housekeep_justified hdt 2100,
    by decide +kernel⟩

end Node

end LineKv.Server
