import LineKv.Command.Dispatch

/-!
What observers see of a dispatcher's calls. Every call that passes validation shows its pre-event;
a command that does not defer shows its post-event in the same call, and a deferred one leaves its
event parked under its client for the completion that answers it.
-/

namespace LineKv.Command

open Line

variable {W H O : Type}

/-- `h` with observers that keep a state of their own: every event is also shown to `obs`. -/
def Host.observed (h : Host W H) (obs : Bool → Event → O → O) : Host (W × O) H where
  clientId w := h.clientId w.1
  registered w := h.registered w.1
  permitted c w := h.permitted c w.1
  now w := h.now w.1
  reply c ps t w := (h.reply c ps t w.1, w.2)
  touch t k w := (h.touch t k w.1, w.2)
  notify pre ev w := (h.notify pre ev w.1, obs pre ev w.2)
  invoke x args w := ((h.invoke x args w.1).1, ((h.invoke x args w.1).2, w.2))
  parked w := h.parked w.1
  setParked p w := (h.setParked p w.1, w.2)

section Observed

variable (h : Host W H) (obs : Bool → Event → O → O) (w : W) (o : O)

@[simp] theorem Host.observed_clientId : (h.observed obs).clientId (w, o) = h.clientId w := rfl
@[simp] theorem Host.observed_registered : (h.observed obs).registered (w, o) = h.registered w := rfl
@[simp] theorem Host.observed_permitted (c : UInt8) :
    (h.observed obs).permitted c (w, o) = h.permitted c w := rfl
@[simp] theorem Host.observed_now : (h.observed obs).now (w, o) = h.now w := rfl
@[simp] theorem Host.observed_parked : (h.observed obs).parked (w, o) = h.parked w := rfl

end Observed

def Host.traced (h : Host W H) : Host (W × List (Bool × Event)) H :=
  h.observed fun pre ev log => log ++ [(pre, ev)]

/-! ## The parked map, client by client -/

theorem Parked.get?_cons (e : Bytes × Event) (p : Parked) (c : Bytes) :
    Parked.get? (e :: p) c = if e.1 = c then some e.2 else p.get? c := by
  by_cases h : e.1 = c <;> simp [Parked.get?, h]

theorem Parked.get?_eq_none (p : Parked) (c : Bytes) : p.get? c = none ↔ ∀ e ∈ p, e.1 ≠ c := by
  induction p with
  | nil => simp [Parked.get?]
  | cons e p ih => by_cases h : e.1 = c <;> simp [Parked.get?_cons, h, ih]

theorem Parked.get?_replace (p : Parked) (id : Bytes) (ev : Event) (c : Bytes) :
    Parked.get? (p.map fun e => if e.1 == id then (id, ev) else e) c =
      if c = id then (p.get? id).map fun _ => ev else p.get? c := by
  induction p with
  | nil => simp [Parked.get?]
  | cons e p ih =>
    rw [List.map_cons, Parked.get?_cons, ih, Parked.get?_cons, Parked.get?_cons]
    by_cases hc : c = id
    · subst hc
      by_cases he : e.1 = c <;> simp [he]
    · have hc' : id ≠ c := Ne.symm hc
      by_cases he : e.1 = id <;> simp [he, hc, hc']

theorem Parked.get?_append_single (p : Parked) (id : Bytes) (ev : Event) (c : Bytes)
    (hn : p.get? id = none) : Parked.get? (p ++ [(id, ev)]) c = if c = id then some ev else p.get? c := by
  induction p with
  | nil =>
    by_cases hc : c = id
    · simp [Parked.get?_cons, hc]
    · simp [hc, Ne.symm hc, Parked.get?]
  | cons e p ih =>
    rw [Parked.get?_cons] at hn
    have he : e.1 ≠ id := fun h => by simp [h] at hn
    rw [if_neg he] at hn
    rw [List.cons_append, Parked.get?_cons, ih hn, Parked.get?_cons]
    by_cases hc : c = id
    · subst hc
      simp [he]
    · simp [hc]

theorem Parked.get?_put (p : Parked) (id : Bytes) (ev : Event) (c : Bytes) :
    (p.put id ev).get? c = if c = id then some ev else p.get? c := by
  unfold Parked.put
  split
  · rename_i hany
    rw [Parked.get?_replace]
    obtain ⟨e, hep, hei⟩ := List.any_eq_true.1 hany
    have hs : p.get? id ≠ none := by
      rw [Ne, Parked.get?_eq_none]
      exact fun h => h e hep (by simpa using hei)
    obtain ⟨x, hx⟩ := Option.ne_none_iff_exists'.1 hs
    simp [hx]
  · rename_i hany
    have hn : p.get? id = none := by
      rw [Parked.get?_eq_none]
      intro e he h
      exact hany (List.any_eq_true.2 ⟨e, he, by simp [h]⟩)
    exact Parked.get?_append_single p id ev c hn

theorem Parked.get?_drop (p : Parked) (id : Bytes) (c : Bytes) :
    (p.drop id).get? c = if c = id then none else p.get? c := by
  induction p with
  | nil => simp [Parked.drop, Parked.get?]
  | cons e p ih =>
    unfold Parked.drop at ih ⊢
    by_cases he : e.1 = id
    · rw [List.filter_cons_of_neg (by simp [he]), ih, Parked.get?_cons]
      by_cases hc : c = id
      · simp [hc]
      · simp [he, hc, Ne.symm hc]
    · rw [List.filter_cons_of_pos (by simp [he]), Parked.get?_cons, ih, Parked.get?_cons]
      by_cases hc : c = id
      · subst hc
        simp [he]
      · simp [hc]

namespace Dispatcher

/-- What `run` does before the handler runs: the call's event, the event its client had parked,
and the world the handler finds. -/
def prepare (host : Host W H) (desc : Descriptor H) (args : List Bytes) (w : W) :
    Event × Option Event × W :=
  let started := host.now w
  let w := host.touch started desc.keepAlive w
  let id := host.clientId w
  let ev : Event := ⟨id, desc.name, args, .success, none, started, 0⟩
  let w := host.notify true ev w
  let prev := (host.parked w).get? id
  (ev, prev, host.setParked ((host.parked w).put id ev) w)

/-- What `run` does once the handler has returned. -/
def settle (host : Host W H) (desc : Descriptor H) (ev : Event) (prev : Option Event)
    (r : Invocation × W) : Verdict × W :=
  let id := ev.client
  let (inv, w) := r
  let (result, err, w) : Outcome × Option CommandError × W := match inv with
    | .returned r => (r, if r = .failed then some (.handlerFailure desc.name none) else none, w)
    | .panicked msg =>
      (.failed, some (.handlerFailure desc.name (some msg)), host.reply Code.handlerFailed [desc.name]
        (Bytes.ofString "Internal error") w)
  if result = .deferred then ((result, err), w)
  else
    let p := (host.parked w).drop id
    let p := match prev with
      | some e => p.put id e
      | none => p
    let w := host.setParked p w
    ((result, err), finish host ev result err w)

theorem run_eq (host : Host W H) (desc : Descriptor H) (x : H) (args : List Bytes) (w : W) :
    run host desc x args w =
      settle host desc (prepare host desc args w).1 (prepare host desc args w).2.1
        (host.invoke x args (prepare host desc args w).2.2) := rfl

theorem prepare_observed (h : Host W H) (obs : Bool → Event → O → O) (desc : Descriptor H)
    (args : List Bytes) (w : W) (o : O) :
    prepare (h.observed obs) desc args (w, o) =
      ((prepare h desc args w).1, (prepare h desc args w).2.1,
        ((prepare h desc args w).2.2, obs true (prepare h desc args w).1 o)) := rfl

theorem settle_observed (h : Host W H) (obs : Bool → Event → O → O) (desc : Descriptor H)
    (ev : Event) (prev : Option Event) (inv : Invocation) (w : W) (o : O) :
    Prod.map id Prod.fst (settle (h.observed obs) desc ev prev (inv, (w, o))) =
      settle h desc ev prev (inv, w) := by
  cases inv with
  | returned r => by_cases hd : r = .deferred <;> simp [settle, finish, Host.observed, hd]
  | panicked msg => simp [settle, finish, Host.observed]

theorem run_observed (h : Host W H) (obs : Bool → Event → O → O) (desc : Descriptor H) (x : H)
    (args : List Bytes) (w : W) (o : O) :
    Prod.map id Prod.fst (run (h.observed obs) desc x args (w, o)) = run h desc x args w := by
  rw [run_eq, run_eq, prepare_observed]
  exact settle_observed h obs desc _ _ _ _ _

theorem proceed_observed (h : Host W H) (obs : Bool → Event → O → O) (desc : Descriptor H)
    (args : List Bytes) (w : W) (o : O) :
    Prod.map id Prod.fst (proceed (h.observed obs) desc args (w, o)) = proceed h desc args w := by
  unfold proceed
  by_cases hr : (!desc.preRegistration && !h.registered w) = true
  · rw [if_pos hr, if_pos (by simpa using hr)]
    rfl
  · rw [if_neg hr, if_neg (by simpa using hr)]
    cases desc.handler with
    | some x => exact run_observed h obs desc x args w o
    | none => rfl

theorem execute_observed (d : Dispatcher H) (h : Host W H) (obs : Bool → Event → O → O)
    (n : Bytes) (ps : List Bytes) (w : W) (o : O) :
    Prod.map id Prod.fst (d.execute (h.observed obs) n ps (w, o)) = d.execute h n ps w := by
  unfold execute
  dsimp only
  cases d.lookup (Text.toUpper n) with
  | none => rfl
  | some desc =>
    dsimp only
    by_cases hl : ((desc.normalize ps).length : Int) < desc.minParams
    · rw [if_pos hl, if_pos hl]
      rfl
    · rw [if_neg hl, if_neg hl]
      cases desc.permission with
      | none => exact proceed_observed h obs desc _ w o
      | some c =>
        dsimp only
        by_cases hp : h.permitted c w = true
        · rw [if_pos hp, if_pos (by simpa using hp)]
          exact proceed_observed h obs desc _ w o
        · rw [if_neg hp, if_neg (by simpa using hp)]
          rfl

end Dispatcher

/-! ## What observers see, call by call -/

abbrev Outstanding := Bytes → Option Event

def Outstanding.set (o : Outstanding) (c : Bytes) (v : Option Event) : Outstanding :=
  fun x => if x = c then v else o x

/-- A call on a dispatcher: run a command, or report the final outcome of the caller's deferred
one. -/
inductive DispatchCall where
  | execute (name : Bytes) (params : List Bytes)
  | complete (result : Outcome)

/-- What a call showed: Execute's verdict, and the events the observers saw, pre-events flagged. -/
structure Seen where
  verdict : Option Dispatcher.Verdict
  events : List (Bool × Event)

def Event.opens (ev : Event) (c : Bytes) (desc : Descriptor H) (ps : List Bytes) : Prop :=
  ev.client = c ∧ ev.name = desc.name ∧ ev.params = desc.normalize ps

/-- `post` reports the command `ev` opened, with the final result `r`. -/
def Event.reports (post ev : Event) (r : Outcome) : Prop :=
  post.client = ev.client ∧ post.name = ev.name ∧ post.params = ev.params ∧
    post.started = ev.started ∧ post.result = r

/-- What one call by client `c` shows, against what each client had outstanding before and after.
Every command that passes validation shows its pre-event first; one that does not defer shows its
post-event in the same call, one that defers stays outstanding until a completion reports it. A
command deferred while its client has one outstanding takes that one's place (`displaced`). -/
inductive Answer (d : Dispatcher H) : Outstanding → Bytes → DispatchCall → Seen → Outstanding → Prop
  | refused {o c n ps e} : Answer d o c (.execute n ps) ⟨some (.invalid, e), []⟩ o
  | ran {o c n ps desc ev post r e} : d.lookup (Text.toUpper n) = some desc → ev.opens c desc ps →
      r ≠ .deferred → post.reports ev r →
      Answer d o c (.execute n ps) ⟨some (r, e), [(true, ev), (false, post)]⟩ o
  | deferred {o c n ps desc ev e} : d.lookup (Text.toUpper n) = some desc → ev.opens c desc ps →
      o c = none → Answer d o c (.execute n ps) ⟨some (.deferred, e), [(true, ev)]⟩ (o.set c (some ev))
  | displaced {o c n ps desc ev old e} : d.lookup (Text.toUpper n) = some desc →
      ev.opens c desc ps → o c = some old →
      Answer d o c (.execute n ps) ⟨some (.deferred, e), [(true, ev)]⟩ (o.set c (some ev))
  | completed {o c r ev post} : o c = some ev → post.reports ev r →
      Answer d o c (.complete r) ⟨none, [(false, post)]⟩ (o.set c none)
  | unanswered {o c r} : o c = none → Answer d o c (.complete r) ⟨none, []⟩ o

theorem Answer.completed_of {d : Dispatcher H} {o o' : Outstanding} {c : Bytes} {r : Outcome}
    {ev post : Event} (hg : o c = some ev) (hp : post.reports ev r) (ho : o' = o.set c none) :
    Answer d o c (.complete r) ⟨none, [(false, post)]⟩ o' :=
  ho ▸ .completed hg hp

/-- Runs of `Answer` over a history of calls. -/
inductive Answered (d : Dispatcher H) :
    Outstanding → List (Bytes × DispatchCall × Seen) → Outstanding → Prop
  | nil {o} : Answered d o [] o
  | snoc {o H o' c call seen o''} : Answered d o H o' → Answer d o' c call seen o'' →
      Answered d o (H ++ [(c, call, seen)]) o''

/-- The hosts of a world's clients, sharing its parked map `parked`, none of whose operations but
`setParked` touches that map: in particular no handler reports a completion itself. -/
structure Host.Lawful (hosts : Bytes → Host W H) (parked : W → Parked) : Prop where
  clientId : ∀ c w, (hosts c).clientId w = c
  parked_eq : ∀ c w, (hosts c).parked w = parked w
  setParked : ∀ c p w, parked ((hosts c).setParked p w) = p
  reply : ∀ c code ps t w, parked ((hosts c).reply code ps t w) = parked w
  touch : ∀ c t k w, parked ((hosts c).touch t k w) = parked w
  notify : ∀ c pre ev w, parked ((hosts c).notify pre ev w) = parked w
  invoke : ∀ c x args w, parked ((hosts c).invoke x args w).2 = parked w

namespace Dispatcher

/-- Make one call with host `h`, recording what it showed. -/
def call (d : Dispatcher H) (h : Host W H) (w : W) : DispatchCall → Seen × W
  | .execute n ps =>
    let r := d.execute h.traced n ps (w, [])
    (⟨some r.1, r.2.2⟩, r.2.1)
  | .complete res =>
    let r := complete h.traced res (w, [])
    (⟨none, r.2⟩, r.1)

/-- Make calls in turn, each by its client's host. -/
def callAll (d : Dispatcher H) (hosts : Bytes → Host W H) :
    List (Bytes × DispatchCall) → W → List (Bytes × DispatchCall × Seen) × W
  | [], w => ([], w)
  | (c, call) :: calls, w =>
    let (s, w) := d.call (hosts c) w call
    let (H, w) := d.callAll hosts calls w
    ((c, call, s) :: H, w)

def Refuses (h : Host W H) (w : W) (r : Verdict × W) : Prop :=
  r.1.1 = .invalid ∧ (r.2 = w ∨ ∃ code name text, r.2 = h.reply code [name] text w)

theorem reject_refuses (h : Host W H) (code : Code) (name text : Bytes) (e : CommandError) (w : W) :
    Refuses h w (reject h code name text e w) :=
  ⟨rfl, .inr ⟨code, name, text, rfl⟩⟩

theorem proceed_cases (h : Host W H) (desc : Descriptor H) (args : List Bytes) (w : W) :
    Refuses h w (proceed h desc args w) ∨
      ∃ x, desc.handler = some x ∧ proceed h desc args w = run h desc x args w := by
  unfold proceed
  split
  · exact .inl (reject_refuses ..)
  · cases desc.handler with
    | none => exact .inl ⟨rfl, .inl rfl⟩
    | some x => exact .inr ⟨x, rfl, rfl⟩

/-- Execute either refuses a call or runs the handler the upper-cased name resolves to, on the
normalized parameters. -/
theorem execute_cases (d : Dispatcher H) (h : Host W H) (n : Bytes) (ps : List Bytes) (w : W) :
    Refuses h w (d.execute h n ps w) ∨
      ∃ desc x, d.lookup (Text.toUpper n) = some desc ∧ desc.handler = some x ∧
        d.execute h n ps w = run h desc x (desc.normalize ps) w := by
  unfold execute
  dsimp only
  cases hd : d.lookup (Text.toUpper n) with
  | none => exact .inl (reject_refuses ..)
  | some desc =>
    -- past the lookup, only `proceed` runs anything
    have hp := proceed_cases h desc (desc.normalize ps) w
    dsimp only
    split
    · exact .inl (reject_refuses ..)
    · split
      · split
        · rcases hp with hp | ⟨x, hx, hr⟩
          · exact .inl hp
          · exact .inr ⟨desc, x, rfl, hx, hr⟩
        · exact .inl (reject_refuses ..)
      · rcases hp with hp | ⟨x, hx, hr⟩
        · exact .inl hp
        · exact .inr ⟨desc, x, rfl, hx, hr⟩

section Lawful

variable {hosts : Bytes → Host W H} {P : W → Parked}

theorem prepare_lawful (hl : Host.Lawful hosts P) (c : Bytes) (desc : Descriptor H)
    (args : List Bytes) (w : W) :
    (prepare (hosts c) desc args w).1 = ⟨c, desc.name, args, .success, none, (hosts c).now w, 0⟩ ∧
      (prepare (hosts c) desc args w).2.1 = (P w).get? c ∧
      P (prepare (hosts c) desc args w).2.2 = (P w).put c (prepare (hosts c) desc args w).1 := by
  simp [prepare, hl.clientId, hl.parked_eq, hl.notify, hl.touch, hl.setParked]

theorem settle_traced (hl : Host.Lawful hosts P) (c : Bytes) (desc : Descriptor H) (ev : Event)
    (hc : ev.client = c) (prev : Option Event) (inv : Invocation) (w : W)
    (log : List (Bool × Event)) :
    let r := settle (hosts c).traced desc ev prev (inv, (w, log))
    (r.1.1 = .deferred ∧ r.2.2 = log ∧ P r.2.1 = P w) ∨
      (r.1.1 ≠ .deferred ∧ (∃ post, r.2.2 = log ++ [(false, post)] ∧ post.reports ev r.1.1) ∧
        ∀ x, (P r.2.1).get? x = if x = c then prev else (P w).get? x) := by
  intro r
  -- the parked map after a command that did not defer: its client's earlier event is put back
  have hback : ∀ (p : Parked) x, ((match prev with
      | some e => (p.drop c).put c e
      | none => p.drop c) : Parked).get? x = if x = c then prev else p.get? x := by
    intro p x
    cases prev with
    | some e => by_cases hx : x = c <;> simp [Parked.get?_put, Parked.get?_drop, hx]
    | none => by_cases hx : x = c <;> simp [Parked.get?_drop, hx]
  cases inv with
  | returned res =>
    by_cases hd : res = .deferred
    · left
      simp [r, settle, hd]
    · right
      refine ⟨by simp [r, settle, hd], ⟨?post, ?log, ?reports⟩, fun x => ?_⟩
      case log =>
        simp [r, settle, hd, finish, Host.traced, Host.observed]
        rfl
      case reports => simp [r, settle, hd, Event.reports]
      simp [r, settle, hd, finish, Host.traced, Host.observed, hl.notify, hl.setParked,
        hl.parked_eq, hc, hback]
  | panicked msg =>
    right
    refine ⟨by simp [r, settle], ⟨?post', ?log', ?reports'⟩, fun x => ?_⟩
    case log' =>
      simp [r, settle, finish, Host.traced, Host.observed]
      rfl
    case reports' => simp [r, settle, Event.reports]
    simp [r, settle, finish, Host.traced, Host.observed, hl.notify, hl.setParked, hl.parked_eq,
      hl.reply, hc, hback]

theorem prepare_traced (h : Host W H) (desc : Descriptor H) (args : List Bytes) (w : W)
    (log : List (Bool × Event)) :
    prepare h.traced desc args (w, log) =
      ((prepare h desc args w).1, (prepare h desc args w).2.1,
        ((prepare h desc args w).2.2, log ++ [(true, (prepare h desc args w).1)])) := rfl

/-- A call that runs its handler shows its pre-event, then its post-event unless the command
deferred; a deferred one stays parked in place of whatever its client had parked. -/
theorem run_answer (hl : Host.Lawful hosts P) (d : Dispatcher H) (c : Bytes) {n : Bytes}
    {ps : List Bytes} {desc : Descriptor H} (hd : d.lookup (Text.toUpper n) = some desc) (x : H)
    (w : W) :
    Answer d (P w).get? c (.execute n ps)
      ⟨some (run (hosts c).traced desc x (desc.normalize ps) (w, [])).1,
        (run (hosts c).traced desc x (desc.normalize ps) (w, [])).2.2⟩
      (P (run (hosts c).traced desc x (desc.normalize ps) (w, [])).2.1).get? := by
  rw [run_eq, prepare_traced]
  obtain ⟨hev, hprev, hput⟩ := prepare_lawful hl c desc (desc.normalize ps) w
  generalize prepare (hosts c) desc (desc.normalize ps) w = t at hev hprev hput
  obtain ⟨ev, prev, w₂⟩ := t
  simp only at hev hprev hput ⊢
  subst hprev
  have hc : ev.client = c := by rw [hev]
  have hopen : ev.opens c desc ps := by rw [hev]; exact ⟨rfl, rfl, rfl⟩
  -- the traced host runs the handler on the world alone and passes the log through
  have hinvoke : (hosts c).traced.invoke x (desc.normalize ps) (w₂, [] ++ [(true, ev)]) =
      (((hosts c).invoke x (desc.normalize ps) w₂).1,
        (((hosts c).invoke x (desc.normalize ps) w₂).2, [] ++ [(true, ev)])) := rfl
  have hinv : P ((hosts c).invoke x (desc.normalize ps) w₂).2 = (P w).put c ev := by
    rw [hl.invoke, hput]
  rw [hinvoke]
  generalize (hosts c).invoke x (desc.normalize ps) w₂ = ir at hinv
  obtain ⟨inv, w₃⟩ := ir
  rcases settle_traced hl c desc ev hc ((P w).get? c) inv w₃ ([] ++ [(true, ev)]) with
    ⟨hdef, hlog, hp⟩ | ⟨hdef, ⟨post, hlog, hrep⟩, hp⟩
  all_goals
    generalize settle (hosts c).traced desc ev ((P w).get? c) _ = r at *
    obtain ⟨⟨res, e⟩, w', log⟩ := r
    simp only [List.nil_append] at *
  · -- deferred: the event stays parked in place of whatever its client had
    subst hdef hlog
    have ho : (P w').get? = Outstanding.set (P w).get? c (some ev) := by
      funext y
      rw [hp, hinv, Parked.get?_put]
      rfl
    rw [ho]
    cases hg : (P w).get? c with
    | none => exact Answer.deferred hd hopen hg
    | some old => exact Answer.displaced hd hopen hg
  · -- not deferred: the post-event follows and the parked map is as before
    subst hlog
    have ho : (P w').get? = (P w).get? := by
      funext y
      rw [hp, hinv, Parked.get?_put]
      by_cases hy : y = c
      · rw [if_pos hy, hy]
      · rw [if_neg hy, if_neg hy]
    rw [ho]
    exact Answer.ran hd hopen hdef hrep

theorem execute_answer (hl : Host.Lawful hosts P) (d : Dispatcher H) (c n : Bytes)
    (ps : List Bytes) (w : W) :
    Answer d (P w).get? c (.execute n ps)
      ⟨some (d.execute (hosts c).traced n ps (w, [])).1, (d.execute (hosts c).traced n ps (w, [])).2.2⟩
      (P (d.execute (hosts c).traced n ps (w, [])).2.1).get? := by
  rcases execute_cases d (hosts c).traced n ps (w, []) with ⟨hv, hw⟩ | ⟨desc, x, hd, -, hr⟩
  · -- a refusal shows nothing and leaves the parked map alone
    generalize d.execute (hosts c).traced n ps (w, []) = r at hv hw ⊢
    obtain ⟨⟨res, e⟩, w', log⟩ := r
    simp only at hv
    subst hv
    rcases hw with hw | ⟨code, name, text, hw⟩
    · cases hw
      exact Answer.refused
    · cases hw
      rw [show P ((hosts c).reply code [name] text w) = P w from hl.reply ..]
      exact Answer.refused
  · rw [hr]
    exact run_answer hl d c hd x w

theorem complete_answer (hl : Host.Lawful hosts P) (d : Dispatcher H) (c : Bytes) (res : Outcome)
    (w : W) :
    Answer d (P w).get? c (.complete res) ⟨none, (complete (hosts c).traced res (w, [])).2⟩
      (P (complete (hosts c).traced res (w, [])).1).get? := by
  have hg' : ((hosts c).traced.parked (w, [])).get? ((hosts c).traced.clientId (w, [])) =
      (P w).get? c := by
    simp [Host.traced, Host.observed, hl.clientId, hl.parked_eq]
  unfold complete
  dsimp only
  rw [hg']
  cases hg : (P w).get? c with
  | none => exact Answer.unanswered hg
  | some ev =>
    -- the parked event is reported and dropped
    refine Answer.completed_of hg ⟨rfl, rfl, rfl, rfl, rfl⟩ ?_
    funext y
    simp [finish, Host.traced, Host.observed, hl.notify, hl.setParked, hl.parked_eq, hl.clientId,
      Parked.get?_drop, Outstanding.set]

theorem call_answer (hl : Host.Lawful hosts P) (d : Dispatcher H) (c : Bytes) (call : DispatchCall)
    (w : W) : Answer d (P w).get? c call (d.call (hosts c) w call).1
      (P (d.call (hosts c) w call).2).get? := by
  cases call with
  | execute n ps => exact execute_answer hl d c n ps w
  | complete res => exact complete_answer hl d c res w

/-- Calls in turn keep a history answering as `Answer` says. -/
theorem callAll_answer (hl : Host.Lawful hosts P) (d : Dispatcher H) {o : Outstanding}
    {past : List (Bytes × DispatchCall × Seen)} {w : W} (h : Answered d o past (P w).get?)
    (calls : List (Bytes × DispatchCall)) :
    Answered d o (past ++ (d.callAll hosts calls w).1) (P (d.callAll hosts calls w).2).get? := by
  -- induction over the calls, the history so far growing by one call each time
  induction calls generalizing past w with
  | nil => simpa [callAll] using h
  | cons cc calls ih =>
    obtain ⟨c, call⟩ := cc
    have h' := ih (h.snoc (call_answer hl d c call w))
    simpa [callAll, List.append_assoc] using h'

end Lawful

/-- Every run of calls on a dispatcher with nothing parked, with hosts whose handlers leave the
parked map alone, answers as `Answer` says; and observers that keep a state of their own never
change what Execute returns. -/
theorem calls_answer (d : Dispatcher H) {hosts : Bytes → Host W H} {P : W → Parked}
    (hl : Host.Lawful hosts P) {w : W} (hw : P w = []) (calls : List (Bytes × DispatchCall)) :
    Answered d (fun _ => none) (d.callAll hosts calls w).1 (P (d.callAll hosts calls w).2).get? ∧
      ∀ {O : Type} (obs : Bool → Event → O → O) (c n : Bytes) (ps : List Bytes) (w' : W) (o : O),
        (d.execute ((hosts c).observed obs) n ps (w', o)).1 = (d.execute (hosts c) n ps w').1 := by
  refine ⟨?_, fun obs c n ps w' o => congrArg Prod.fst (execute_observed d (hosts c) obs n ps w' o)⟩
  have h₀ : Answered d (fun _ => none) [] (P w).get? := by
    rw [hw]
    exact Answered.nil
  simpa using callAll_answer hl d h₀ calls

end Dispatcher

/-- A bench for dispatchers: the parked map and a clock. -/
structure Bench where
  parked : Parked
  clock : Int

/-- The host of client `c` on a bench whose handlers end as `ends` says and do nothing else. -/
def Bench.host (ends : H → Invocation) (c : Bytes) : Host Bench H where
  clientId _ := c
  registered _ := true
  permitted _ _ := true
  now b := b.clock
  reply _ _ _ b := b
  touch _ _ b := b
  notify _ _ b := b
  invoke x _ b := (ends x, b)
  parked b := b.parked
  setParked p b := { b with parked := p }

theorem Bench.lawful (ends : H → Invocation) : Host.Lawful (Bench.host ends) Bench.parked :=
  ⟨fun _ _ => rfl, fun _ _ => rfl, fun _ _ _ => rfl, fun _ _ _ _ _ => rfl, fun _ _ _ _ => rfl,
    fun _ _ _ _ => rfl, fun _ _ _ _ => rfl⟩

def laterDispatcher : Dispatcher Unit :=
  ⟨⟨[⟨Bytes.ofString "LATER", 0, some 0, none, true, false, false, some ()⟩]⟩, []⟩

def deferring : Unit → Invocation := fun _ => .returned .deferred

/-- The calls of one client that defers `LATER` twice, then completes twice. -/
def deferTwice : List (Bytes × DispatchCall) :=
  [(Bytes.ofString "c1", .execute (Bytes.ofString "later") []),
    (Bytes.ofString "c1", .execute (Bytes.ofString "later") []),
    (Bytes.ofString "c1", .complete .success), (Bytes.ofString "c1", .complete .success)]

/-- The dispatcher contract on a bench whose handlers defer. -/
theorem calls_answer_on_bench :
    Host.Lawful (Bench.host deferring) Bench.parked ∧ Bench.parked ⟨[], 0⟩ = [] ∧
      (Answered laterDispatcher (fun _ => none)
          (laterDispatcher.callAll (Bench.host deferring) deferTwice ⟨[], 0⟩).1
          (Bench.parked (laterDispatcher.callAll (Bench.host deferring) deferTwice ⟨[], 0⟩).2).get? ∧
        ∀ {O : Type} (obs : Bool → Event → O → O) (c n : Bytes) (ps : List Bytes) (w' : Bench)
          (o : O),
          (laterDispatcher.execute ((Bench.host deferring c).observed obs) n ps (w', o)).1 =
            (laterDispatcher.execute (Bench.host deferring c) n ps w').1) :=
  ⟨Bench.lawful deferring, rfl,
    Dispatcher.calls_answer laterDispatcher (Bench.lawful deferring) rfl deferTwice⟩

/-- Two deferred calls of one client, then two completions: the observers see two pre-events and a
single post-event. -/
theorem deferred_twice_loses_a_post :
    let events := (laterDispatcher.callAll (Bench.host deferring) deferTwice ⟨[], 0⟩).1.flatMap
      fun s => s.2.2.events
    events.countP (·.1) = 2 ∧ events.countP (!·.1) = 1 := by
  decide +kernel

end LineKv.Command
