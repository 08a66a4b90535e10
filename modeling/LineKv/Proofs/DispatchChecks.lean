import LineKv.Proofs.DispatchEvents

/-!
The checks a call goes through, in order, and what a call does through its host. Main statement:
`Dispatcher.execute_checks_in_order`.
-/

namespace LineKv.Command

open Line

variable {W H : Type}

/-- Something the dispatcher asks its host to do; an invocation also records how the handler
ended. -/
inductive Effect (H : Type) where
  | reply (code : Code) (params : List Bytes) (text : Bytes)
  | touch (time : Int) (keepAlive : Bool)
  | notify (pre : Bool) (ev : Event)
  | invoke (handler : H) (args : List Bytes) (ended : Invocation)
  | park (p : Parked)

/-- The effects that settle a call after its handler returned: changing the parked events, and
showing a post-event. -/
def Effect.Settles : Effect H → Prop
  | .park _ => True
  | .notify pre _ => pre = false
  | _ => False

/-- `h`, also writing down every effect it is asked for, in order. -/
def Host.logged (h : Host W H) : Host (W × List (Effect H)) H where
  clientId w := h.clientId w.1
  registered w := h.registered w.1
  permitted c w := h.permitted c w.1
  now w := h.now w.1
  reply c ps t w := (h.reply c ps t w.1, w.2 ++ [.reply c ps t])
  touch t k w := (h.touch t k w.1, w.2 ++ [.touch t k])
  notify pre ev w := (h.notify pre ev w.1, w.2 ++ [.notify pre ev])
  invoke x args w := ((h.invoke x args w.1).1,
    ((h.invoke x args w.1).2, w.2 ++ [.invoke x args (h.invoke x args w.1).1]))
  parked w := h.parked w.1
  setParked p w := (h.setParked p w.1, w.2 ++ [.park p])

theorem Descriptor.handler_of_check {d : Descriptor H} (h : d.check = none) : d.handler.isSome := by
  cases hx : d.handler with
  | some _ => rfl
  | none =>
    -- without a handler every branch of the check reports an error
    have hm : d.missingHandler = some (.nilHandler (Text.trimSpace d.name)) := by
      simp [Descriptor.missingHandler, hx]
    unfold Descriptor.check at h
    dsimp only at h
    split at h
    · cases h
    · split at h
      · cases h
      · split at h
        · split at h
          · cases h
          · rw [hm] at h
            cases h
        · rw [hm] at h
          cases h

@[simp] theorem Host.logged_invoke (h : Host W H) (x : H) (args : List Bytes) (w : W) (l : List (Effect H)) :
    h.logged.invoke x args (w, l) =
      ((h.invoke x args w).1, ((h.invoke x args w).2, l ++ [.invoke x args (h.invoke x args w).1])) := rfl

namespace Builder

theorem register_handlers {b b' : Builder H} {d : Descriptor H} (hb : ∀ x ∈ b.items, x.handler.isSome)
    (h : b.register d = .ok b') : ∀ x ∈ b'.items, x.handler.isSome := by
  unfold register at h
  split at h
  · cases h
  · split at h
    · cases h
    · rename_i hc
      dsimp only at h
      split at h
      · cases h
      · cases h
        intro x hx
        rcases List.mem_append.1 hx with hx | hx
        · exact hb x hx
        · rw [List.mem_singleton.1 hx]
          exact (Descriptor.handler_of_check hc : d.handler.isSome)

theorem foldlM_handlers {ds : List (Descriptor H)} {b b' : Builder H} (hb : ∀ x ∈ b.items, x.handler.isSome)
    (h : ds.foldlM (fun b d => b.register d) b = .ok b') : ∀ x ∈ b'.items, x.handler.isSome := by
  induction ds generalizing b with
  | nil =>
    cases h
    exact hb
  | cons d ds ih =>
    rw [List.foldlM_cons] at h
    cases hr : b.register d with
    | error e =>
      rw [hr] at h
      cases h
    | ok b₁ =>
      rw [hr] at h
      exact ih (register_handlers hb hr) h

end Builder

namespace Dispatcher

section Checks

variable (d : Dispatcher H) (h : Host W H) (n : Bytes) (ps : List Bytes) (w : W)

theorem execute_unknown (hl : d.lookup (Text.toUpper n) = none) :
    d.execute h n ps w = reject h Code.unknownCommand (Text.toUpper n) (Bytes.ofString "Unknown command")
      (.unknown (Text.toUpper n)) w := by
  simp only [execute, hl]

variable {desc : Descriptor H} (hl : d.lookup (Text.toUpper n) = some desc)
include hl

theorem execute_short (hs : ((desc.normalize ps).length : Int) < desc.minParams) :
    d.execute h n ps w = reject h Code.needMoreParams desc.name (Bytes.ofString "Not enough parameters")
      (.missingParams desc.name desc.minParams (desc.normalize ps).length) w := by
  simp only [execute, hl, if_pos hs]

theorem execute_denied (hs : desc.minParams ≤ (desc.normalize ps).length) {c : UInt8}
    (hc : desc.permission = some c) (hp : h.permitted c w = false) :
    d.execute h n ps w = reject h Code.noPrivileges desc.name
      (Bytes.ofString "Permission denied: requires capability " ++ Text.quote (capabilityText c))
      (.denied desc.name c) w := by
  simp only [execute, hl, if_neg (Int.not_lt.2 hs), hc, hp]
  rfl

theorem execute_proceeds (hs : desc.minParams ≤ (desc.normalize ps).length)
    (hp : ∀ c, desc.permission = some c → h.permitted c w = true) :
    d.execute h n ps w = proceed h desc (desc.normalize ps) w := by
  simp only [execute, hl, if_neg (Int.not_lt.2 hs)]
  cases hc : desc.permission with
  | none => rfl
  | some c => simp [hp c hc]

end Checks

theorem proceed_unregistered (h : Host W H) (desc : Descriptor H) (args : List Bytes) (w : W)
    (hpre : desc.preRegistration = false) (hr : h.registered w = false) :
    proceed h desc args w = reject h Code.notRegistered desc.name (Bytes.ofString "You have not logged in")
      (.notRegistered desc.name) w := by
  simp [proceed, hpre, hr]

theorem proceed_runs (h : Host W H) (desc : Descriptor H) (args : List Bytes) (w : W) {x : H}
    (hx : desc.handler = some x) (hr : desc.preRegistration = true ∨ h.registered w = true) :
    proceed h desc args w = run h desc x args w := by
  have hg : (!desc.preRegistration && !h.registered w) = false := by
    rcases hr with hr | hr <;> simp [hr]
  simp only [proceed, hg, hx]
  rfl

theorem handler_of_lookup {d : Dispatcher H} (hd : ∀ x ∈ d.table.items, x.handler.isSome)
    {name : Bytes} {desc : Descriptor H} (hl : d.lookup name = some desc) : desc.handler.isSome := by
  unfold lookup at hl
  dsimp only at hl
  split at hl
  · cases hl
    exact hd _ (List.mem_of_find?_eq_some ‹_›)
  · split at hl
    · split at hl
      · cases hl
        assumption
      · cases hl
    · cases hl

/-! ## What the logged host sees -/

section Logged

variable (h : Host W H) (desc : Descriptor H)

/-- Before the handler, a run touches the client, shows the pre-event and parks it. -/
theorem prepare_logged (args : List Bytes) (w : W) :
    ∃ p, prepare h.logged desc args (w, []) = ((prepare h desc args w).1, (prepare h desc args w).2.1,
      ((prepare h desc args w).2.2,
        [.touch (h.now w) desc.keepAlive, .notify true (prepare h desc args w).1, .park p])) := by
  exact ⟨_, by unfold prepare; rfl⟩

theorem settle_logged (ev : Event) (prev : Option Event) (inv : Invocation) (w : W) (l : List (Effect H)) :
    let r := settle h.logged desc ev prev (inv, (w, l))
    ∃ rest, (∀ e ∈ rest, e.Settles) ∧
      ((∃ msg, inv = .panicked msg ∧ r.1 = (.failed, some (.handlerFailure desc.name (some msg))) ∧
          r.2.2 = l ++ .reply Code.handlerFailed [desc.name] (Bytes.ofString "Internal error") :: rest) ∨
        ∃ res, inv = .returned res ∧ r.1.1 = res ∧ r.2.2 = l ++ rest) := by
  dsimp only
  cases inv with
  | returned res =>
    by_cases hd : res = .deferred
    · refine ⟨[], by simp, .inr ⟨res, rfl, ?_, ?_⟩⟩ <;> unfold settle <;> simp [hd]
    · exact ⟨[.park _, .notify false _], by simp [Effect.Settles], .inr ⟨res, rfl,
        by unfold settle; simp [hd],
        by unfold settle; simp only [hd, if_false, finish, Host.logged, List.append_assoc]; rfl⟩⟩
  | panicked msg =>
    exact ⟨[.park _, .notify false _], by simp [Effect.Settles], .inl ⟨msg, rfl,
      by unfold settle; simp,
      by unfold settle; simp only [finish, Host.logged, List.append_assoc, List.cons_append]; rfl⟩⟩

end Logged

/-- A rejection as the logged host shows it: the invalid verdict with its error, the world with one
reply written, and that reply alone in the log. -/
def Rejected (h : Host W H) (w : W) (code : Code) (name text : Bytes) (e : CommandError)
    (r : Verdict × W × List (Effect H)) : Prop :=
  r = ((.invalid, some e), h.reply code [name] text w, [.reply code [name] text])

/-- A run as the logged host shows it: the client touched with the command's keep-alive flag, the
pre-event of the command on its arguments, the event parked, the handler run once on the
arguments; then a 505 reply and the failed verdict if the handler panicked, the handler's own
outcome otherwise, and nothing after that but settling. -/
def Ran (h : Host W H) (desc : Descriptor H) (args : List Bytes) (w : W)
    (r : Verdict × W × List (Effect H)) : Prop :=
  ∃ x ev p rest, desc.handler = some x ∧ ev.name = desc.name ∧ ev.params = args ∧
    ev.started = h.now w ∧ (∀ e ∈ rest, e.Settles) ∧
    ((∃ msg, r.1 = (.failed, some (.handlerFailure desc.name (some msg))) ∧
        r.2.2 = [.touch (h.now w) desc.keepAlive, .notify true ev, .park p, .invoke x args (.panicked msg),
          .reply Code.handlerFailed [desc.name] (Bytes.ofString "Internal error")] ++ rest) ∨
      ∃ res, r.1.1 = res ∧
        r.2.2 = [.touch (h.now w) desc.keepAlive, .notify true ev, .park p, .invoke x args (.returned res)] ++
          rest)

theorem run_ran (h : Host W H) (desc : Descriptor H) {x : H} (hx : desc.handler = some x)
    (args : List Bytes) (w : W) : Ran h desc args w (run h.logged desc x args (w, [])) := by
  obtain ⟨p, hp⟩ := prepare_logged h desc args w
  obtain ⟨rest, hrest, hr⟩ := settle_logged h desc (prepare h desc args w).1 (prepare h desc args w).2.1
    (h.invoke x args (prepare h desc args w).2.2).1 (h.invoke x args (prepare h desc args w).2.2).2
    [.touch (h.now w) desc.keepAlive, .notify true (prepare h desc args w).1, .park p,
      .invoke x args (h.invoke x args (prepare h desc args w).2.2).1]
  refine ⟨x, (prepare h desc args w).1, p, rest, hx, rfl, rfl, rfl, hrest, ?_⟩
  rw [run_eq, hp]
  rcases hr with ⟨msg, hi, hv, hl⟩ | ⟨res, hi, hv, hl⟩
  · refine .inl ⟨msg, hv, ?_⟩
    rw [← hi]
    simpa using hl
  · refine .inr ⟨res, hv, ?_⟩
    rw [← hi]
    simpa using hl

section World

variable (h : Host W H) (desc : Descriptor H)

theorem prepare_logged_world (args : List Bytes) (w : W) (l : List (Effect H)) :
    ∃ l', prepare h.logged desc args (w, l) =
      ((prepare h desc args w).1, (prepare h desc args w).2.1, ((prepare h desc args w).2.2, l')) :=
  ⟨_, rfl⟩

theorem settle_logged_world (ev : Event) (prev : Option Event) (inv : Invocation) (w : W)
    (l : List (Effect H)) :
    Prod.map id Prod.fst (settle h.logged desc ev prev (inv, (w, l))) = settle h desc ev prev (inv, w) := by
  unfold settle
  cases inv with
  | returned res => by_cases hd : res = .deferred <;> simp [hd, finish, Host.logged]
  | panicked msg => simp [finish, Host.logged]

theorem run_logged_world (x : H) (args : List Bytes) (w : W) (l : List (Effect H)) :
    Prod.map id Prod.fst (run h.logged desc x args (w, l)) = run h desc x args w := by
  obtain ⟨l', hp⟩ := prepare_logged_world h desc args w l
  rw [run_eq, run_eq, hp, Host.logged_invoke]
  exact settle_logged_world h desc _ _ _ _ _

theorem proceed_logged_world (args : List Bytes) (w : W) (l : List (Effect H)) :
    Prod.map id Prod.fst (proceed h.logged desc args (w, l)) = proceed h desc args w := by
  unfold proceed
  by_cases hr : (!desc.preRegistration && !h.registered w) = true
  · rw [if_pos hr, if_pos (by simpa [Host.logged] using hr)]
    rfl
  · rw [if_neg hr, if_neg (by simpa [Host.logged] using hr)]
    cases desc.handler with
    | some x => exact run_logged_world h desc x args w l
    | none => rfl

end World

theorem execute_logged (d : Dispatcher H) (h : Host W H) (n : Bytes) (ps : List Bytes) (w : W)
    (l : List (Effect H)) :
    Prod.map id Prod.fst (d.execute h.logged n ps (w, l)) = d.execute h n ps w := by
  cases hl : d.lookup (Text.toUpper n) with
  | none => rw [execute_unknown d _ n ps _ hl, execute_unknown d _ n ps _ hl]; rfl
  | some desc =>
    by_cases hs : ((desc.normalize ps).length : Int) < desc.minParams
    · rw [execute_short d _ n ps _ hl hs, execute_short d _ n ps _ hl hs]
      rfl
    · have hs' : desc.minParams ≤ (desc.normalize ps).length := Int.not_lt.1 hs
      by_cases hp : ∀ c, desc.permission = some c → h.permitted c w = true
      · rw [execute_proceeds d h.logged n ps (w, l) hl hs' hp, execute_proceeds d h n ps w hl hs' hp]
        exact proceed_logged_world h desc _ w l
      · obtain ⟨c, hc, hpc⟩ : ∃ c, desc.permission = some c ∧ h.permitted c w = false := by
          simpa using hp
        rw [execute_denied d h.logged n ps (w, l) hl hs' hc hpc, execute_denied d h n ps w hl hs' hc hpc]
        rfl

/-- Every call of every dispatcher whose table holds handlers only, for every host (its
permissions, its client's state, its handlers) and every name and parameters: the logged host
shows the verdict and the world of the host itself, and the call is rejected at the first check
it fails, in the order name, parameter count, capability, registration, with one reply written and
nothing else asked of the host, or else runs as `Ran` says. -/
theorem execute_checks_in_order (d : Dispatcher H) (hd : ∀ x ∈ d.table.items, x.handler.isSome)
    (h : Host W H) (n : Bytes) (ps : List Bytes) (w : W) :
    let r := d.execute h.logged n ps (w, [])
    (r.1, r.2.1) = d.execute h n ps w ∧
      (d.lookup (Text.toUpper n) = none →
        Rejected h w Code.unknownCommand (Text.toUpper n) (Bytes.ofString "Unknown command")
          (.unknown (Text.toUpper n)) r) ∧
      ∀ desc, d.lookup (Text.toUpper n) = some desc →
        ((((desc.normalize ps).length : Int) < desc.minParams →
          Rejected h w Code.needMoreParams desc.name (Bytes.ofString "Not enough parameters")
            (.missingParams desc.name desc.minParams (desc.normalize ps).length) r) ∧
        (desc.minParams ≤ (desc.normalize ps).length → ∀ c, desc.permission = some c →
          h.permitted c w = false →
          Rejected h w Code.noPrivileges desc.name
            (Bytes.ofString "Permission denied: requires capability " ++ Text.quote (capabilityText c))
            (.denied desc.name c) r) ∧
        (desc.minParams ≤ (desc.normalize ps).length →
          (∀ c, desc.permission = some c → h.permitted c w = true) →
          desc.preRegistration = false → h.registered w = false →
          Rejected h w Code.notRegistered desc.name (Bytes.ofString "You have not logged in")
            (.notRegistered desc.name) r) ∧
        (desc.minParams ≤ (desc.normalize ps).length →
          (∀ c, desc.permission = some c → h.permitted c w = true) →
          (desc.preRegistration = true ∨ h.registered w = true) → Ran h desc (desc.normalize ps) w r)) := by
  dsimp only
  refine ⟨execute_logged d h n ps w [], fun hl => ?_, fun desc hl => ⟨fun hs => ?_, fun hs c hc hp => ?_,
    fun hs hp hpre hr => ?_, fun hs hp hr => ?_⟩⟩
  · exact execute_unknown d _ n ps _ hl
  · exact execute_short d _ n ps _ hl hs
  · exact execute_denied d h.logged n ps (w, []) hl hs hc hp
  · rw [Rejected, execute_proceeds d h.logged n ps (w, []) hl hs hp]
    exact proceed_unregistered h.logged desc _ _ hpre hr
  · obtain ⟨x, hx⟩ := Option.isSome_iff_exists.1 (handler_of_lookup hd hl)
    rw [execute_proceeds d h.logged n ps (w, []) hl hs hp, proceed_runs h.logged desc _ (w, []) hx hr]
    exact run_ran h desc hx _ w

/-- The table built by registering one command, `GET`, which takes one key and needs the read
capability; empty if the registration is refused. -/
def getDispatcher : Dispatcher Unit :=
  match [(⟨Bytes.ofString "get", 1, some 1, some 114, false, false, false, some ()⟩ : Descriptor Unit)].foldlM
      (fun b d => b.register d) Builder.empty with
  | .ok b => ⟨b.build.2, []⟩
  | .error _ => ⟨⟨[]⟩, []⟩

theorem getDispatcher_handlers : ∀ x ∈ getDispatcher.table.items, x.handler.isSome := by
  unfold getDispatcher
  split
  · rename_i b hb
    exact Builder.foldlM_handlers (b := Builder.empty) (fun x hx => by cases hx) hb
  · intro x hx
    cases hx

/-- The checks of a `get k` call on a bench whose handler succeeds. -/
theorem execute_checks_in_order_on_get :
    (∀ x ∈ getDispatcher.table.items, x.handler.isSome) ∧
      let h := Bench.host (fun _ => .returned .success) (Bytes.ofString "c1")
      let n := Bytes.ofString "get"
      let ps := [Bytes.ofString "k"]
      let w : Bench := ⟨[], 0⟩
      let r := getDispatcher.execute h.logged n ps (w, [])
      (r.1, r.2.1) = getDispatcher.execute h n ps w ∧
        (getDispatcher.lookup (Text.toUpper n) = none →
          Rejected h w Code.unknownCommand (Text.toUpper n) (Bytes.ofString "Unknown command")
            (.unknown (Text.toUpper n)) r) ∧
        ∀ desc, getDispatcher.lookup (Text.toUpper n) = some desc →
          ((((desc.normalize ps).length : Int) < desc.minParams →
            Rejected h w Code.needMoreParams desc.name (Bytes.ofString "Not enough parameters")
              (.missingParams desc.name desc.minParams (desc.normalize ps).length) r) ∧
          (desc.minParams ≤ (desc.normalize ps).length → ∀ c, desc.permission = some c →
            h.permitted c w = false →
            Rejected h w Code.noPrivileges desc.name
              (Bytes.ofString "Permission denied: requires capability " ++ Text.quote (capabilityText c))
              (.denied desc.name c) r) ∧
          (desc.minParams ≤ (desc.normalize ps).length →
            (∀ c, desc.permission = some c → h.permitted c w = true) →
            desc.preRegistration = false → h.registered w = false →
            Rejected h w Code.notRegistered desc.name (Bytes.ofString "You have not logged in")
              (.notRegistered desc.name) r) ∧
          (desc.minParams ≤ (desc.normalize ps).length →
            (∀ c, desc.permission = some c → h.permitted c w = true) →
            (desc.preRegistration = true ∨ h.registered w = true) →
            Ran h desc (desc.normalize ps) w r)) :=
  ⟨getDispatcher_handlers, execute_checks_in_order getDispatcher getDispatcher_handlers _ _ _ _⟩

end Dispatcher

end LineKv.Command
