import LineKv.Proofs.NodeSteps
import LineKv.Proofs.DispatchEvents

/-!
What a node's operations leave in place: the ids and lock counts of its connections and the
sessions opened (`Node.roster`), and the events parked for deferred commands.
-/

namespace LineKv

/-- A fold keeps whatever each of its steps keeps. -/
theorem foldl_keeps {β γ δ : Type} (m : β → δ) {f : β → γ → β}
    (hf : ∀ b x, m (f b x) = m b) : ∀ (l : List γ) (b : β), m (l.foldl f b) = m b
  | [], _ => rfl
  | x :: l, b => (foldl_keeps m hf l (f b x)).trans (hf b x)

end LineKv

namespace LineKv.Command

variable {W H α : Type}

/-- A property of the world that each of the host's operations keeps. -/
structure Host.Preserves (host : Host W H) (P : W → Prop) : Prop where
  reply : ∀ code ps text w, P w → P (host.reply code ps text w)
  touch : ∀ t k w, P w → P (host.touch t k w)
  notify : ∀ pre ev w, P w → P (host.notify pre ev w)
  invoke : ∀ x args w, P w → P (host.invoke x args w).2
  setParked : ∀ p w, P w → P (host.setParked p w)

namespace Dispatcher

variable {host : Host W H} {P : W → Prop}

theorem prepare_preserves (hp : host.Preserves P) (desc : Descriptor H) (args : List Bytes) {w : W}
    (hw : P w) : P (prepare host desc args w).2.2 :=
  hp.setParked _ _ (hp.notify _ _ _ (hp.touch _ _ _ hw))

/-- Settling a call only answers a panic, unparks and reports, so it needs no more of the host. -/
theorem settle_preserves (hr : ∀ code ps text w, P w → P (host.reply code ps text w))
    (hn : ∀ pre ev w, P w → P (host.notify pre ev w)) (hsp : ∀ p w, P w → P (host.setParked p w))
    (desc : Descriptor H) (ev : Event) (prev : Option Event) {r : Invocation × W} (hw : P r.2) :
    P (settle host desc ev prev r).2 := by
  obtain ⟨inv, w⟩ := r
  -- a panic is answered first; then the call is either left deferred or unparked and finished
  cases inv with
  | returned r =>
    unfold settle
    dsimp only
    split
    · exact hw
    · exact hn _ _ _ (hsp _ _ hw)
  | panicked msg =>
    unfold settle
    dsimp only
    split
    · exact hr _ _ _ _ hw
    · exact hn _ _ _ (hsp _ _ (hr _ _ _ _ hw))

theorem execute_preserves (hp : host.Preserves P) (d : Dispatcher H) (n : Bytes) (ps : List Bytes)
    {w : W} (hw : P w) : P (d.execute host n ps w).2 := by
  rcases execute_cases d host n ps w with ⟨-, h | ⟨code, name, text, h⟩⟩ | ⟨desc, x, -, -, h⟩
  · rw [h]
    exact hw
  · rw [h]
    exact hp.reply _ _ _ _ hw
  · rw [h, run_eq]
    exact settle_preserves hp.reply hp.notify hp.setParked _ _ _
      (hp.invoke _ _ _ (prepare_preserves hp _ _ hw))

theorem complete_preserves (hn : ∀ pre ev w, P w → P (host.notify pre ev w))
    (hsp : ∀ p w, P w → P (host.setParked p w)) (r : Outcome) {w : W} (hw : P w) :
    P (complete host r w) := by
  unfold complete
  dsimp only
  cases (host.parked w).get? (host.clientId w) with
  | none => exact hw
  | some ev => exact hn _ _ _ (hsp _ _ hw)

end Dispatcher

/-- A measure `m` of the world that none of the host's operations changes. -/
structure Host.Keeps (host : Host W H) (m : W → α) : Prop where
  reply : ∀ code ps text w, m (host.reply code ps text w) = m w
  touch : ∀ t k w, m (host.touch t k w) = m w
  notify : ∀ pre ev w, m (host.notify pre ev w) = m w
  invoke : ∀ x args w, m (host.invoke x args w).2 = m w
  setParked : ∀ p w, m (host.setParked p w) = m w

theorem Host.Keeps.preserves {host : Host W H} {m : W → α} (hk : host.Keeps m) (w₀ : W) :
    host.Preserves (fun w => m w = m w₀) where
  reply code ps text w h := (hk.reply code ps text w).trans h
  touch t k w h := (hk.touch t k w).trans h
  notify pre ev w h := (hk.notify pre ev w).trans h
  invoke x args w h := (hk.invoke x args w).trans h
  setParked p w h := (hk.setParked p w).trans h

/-- A host for client `c` whose handlers, in worlds where `P` holds, answer for their own deferred
calls: a handler that defers has already reported the call's completion, which took the client's
parked event away, and any other handler leaves the parked events alone. -/
structure Host.Settles (host : Host W H) (c : Bytes) (P : W → Prop) : Prop where
  clientId : ∀ w, host.clientId w = c
  setParked : ∀ p w, host.parked (host.setParked p w) = p
  reply : ∀ code ps text w, host.parked (host.reply code ps text w) = host.parked w
  touch : ∀ t k w, host.parked (host.touch t k w) = host.parked w
  notify : ∀ pre ev w, host.parked (host.notify pre ev w) = host.parked w
  deferred : ∀ x args w, P w → (host.invoke x args w).1 = .returned .deferred →
    host.parked (host.invoke x args w).2 = (host.parked w).drop c
  answered : ∀ x args w, P w → (host.invoke x args w).1 ≠ .returned .deferred →
    host.parked (host.invoke x args w).2 = host.parked w

theorem Parked.drop_put (p : Parked) (id : Bytes) (ev : Event) : (p.put id ev).drop id = p.drop id := by
  unfold Parked.put Parked.drop
  split
  · -- the replaced entries are exactly the ones the drop removes
    rename_i hany
    clear hany
    induction p with
    | nil => rfl
    | cons e p ih => by_cases he : e.1 = id <;> simpa [he] using ih
  · simp

theorem Parked.drop_of_get?_eq_none {p : Parked} {id : Bytes} (h : p.get? id = none) :
    p.drop id = p :=
  List.filter_eq_self.2 fun e he => by simpa using (Parked.get?_eq_none p id).1 h e he

namespace Dispatcher

section Keeps

variable {host : Host W H} {m : W → α}

theorem complete_keeps (hk : host.Keeps m) (r : Outcome) (w : W) : m (complete host r w) = m w :=
  complete_preserves (hk.preserves w).notify (hk.preserves w).setParked r rfl

end Keeps

section Settles

variable {host : Host W H} {c : Bytes} {P : W → Prop}

theorem prepare_parked (hs : host.Settles c P) (desc : Descriptor H) (args : List Bytes) (w : W) :
    (prepare host desc args w).1.client = c ∧ (prepare host desc args w).2.1 = (host.parked w).get? c ∧
      host.parked (prepare host desc args w).2.2 = (host.parked w).put c (prepare host desc args w).1 := by
  simp [prepare, hs.clientId, hs.setParked, hs.notify, hs.touch]

theorem settle_parked (hs : host.Settles c P) (desc : Descriptor H) {ev : Event} (hc : ev.client = c)
    (x : H) (args : List Bytes) {w : W} (hw : P w) :
    host.parked (settle host desc ev none (host.invoke x args w)).2 = (host.parked w).drop c := by
  have hdef := hs.deferred x args w hw
  have hans := hs.answered x args w hw
  generalize host.invoke x args w = r at hdef hans ⊢
  obtain ⟨inv, w'⟩ := r
  by_cases hd : inv = .returned .deferred
  · -- the handler completed the call itself
    subst hd
    simpa [settle] using hdef rfl
  · have hp := hans hd
    cases inv with
    | returned r =>
      have hr : r ≠ .deferred := fun h => hd (h ▸ rfl)
      simp [settle, finish, hr, hs.notify, hs.setParked, hc, hp]
    | panicked msg => simp [settle, finish, hs.notify, hs.setParked, hs.reply, hc, hp]

theorem execute_parked (hs : host.Settles c P) (hp : host.Preserves P) (d : Dispatcher H) (n : Bytes)
    (ps : List Bytes) {w : W} (hP : P w) (hw : (host.parked w).get? c = none) :
    host.parked (d.execute host n ps w).2 = host.parked w := by
  rcases execute_cases d host n ps w with ⟨-, h | ⟨code, name, text, h⟩⟩ | ⟨desc, x, -, -, h⟩
  · rw [h]
  · rw [h, hs.reply]
  · obtain ⟨hev, hprev, hput⟩ := prepare_parked hs desc (desc.normalize ps) w
    rw [h, run_eq, hprev, hw, settle_parked hs desc hev x _ (prepare_preserves hp desc _ hP), hput,
      Parked.drop_put, Parked.drop_of_get?_eq_none hw]

end Settles

end Dispatcher

end LineKv.Command

namespace LineKv

variable {W : Type}

/-- A property of the world that each of the queue runner's operations keeps. -/
structure Runner.Keeps (r : Runner W) (P : W → Prop) : Prop where
  setQueue : ∀ q w, P w → P (r.setQueue q w)
  execute : ∀ n ps w, P w → P (r.execute n ps w)
  reply : ∀ code ps text w, P w → P (r.reply code ps text w)

section Keeps

variable {r : Runner W} {P : W → Prop}

theorem Runner.dispatchNext_keeps (hk : r.Keeps P) (q : Queue) {w : W} (hw : P w) :
    P (r.dispatchNext q w).2 := by
  unfold Runner.dispatchNext
  generalize (if q.state = .running then { q with state := .idle } else q) = q
  dsimp only
  split
  · exact hk.setQueue _ _ hw
  · split
    · exact hk.reply _ _ _ _ (hk.setQueue _ _ hw)
    · split
      · exact hk.reply _ _ _ _ (hk.setQueue _ _ hw)
      · exact hk.execute _ _ _ (hk.setQueue _ _ hw)

theorem Runner.ordered_keeps (hk : r.Keeps P) (locked : Bool) (q : Queue) {w : W} (hw : P w) :
    P (r.ordered locked q w).2 := by
  unfold Runner.ordered
  split
  · exact hw
  · split
    · split
      · exact hk.execute _ _ _ (hk.setQueue _ _ hw)
      · exact Runner.dispatchNext_keeps hk q hw
    · exact Runner.dispatchNext_keeps hk q hw

theorem Runner.step_keeps (hk : r.Keeps P) (locked : Bool) {w : W} (hw : P w) :
    P (r.step locked w).2 := by
  unfold Runner.step
  dsimp only
  split
  · exact hk.setQueue _ _ hw
  · split
    · split
      · exact hk.execute _ _ _ (hk.setQueue _ _ hw)
      · exact Runner.ordered_keeps hk locked _ hw
    · exact Runner.ordered_keeps hk locked _ hw

end Keeps

end LineKv

namespace LineKv.Server

open Command Transport

namespace Node

def frame (s : Node) : (List (Bytes × Nat) × Nat) × Parked × Bool :=
  ((s.conns.map fun c => (c.id, c.locked), s.sessions), s.parked, s.inline)

/-- The frame without the parked events: what no command changes. -/
def roster (s : Node) : List (Bytes × Nat) × Nat := s.frame.1

theorem roster_of_frame {s t : Node} (h : t.frame = s.frame) : t.roster = s.roster :=
  congrArg Prod.fst h

theorem parked_of_frame {s t : Node} (h : t.frame = s.frame) : t.parked = s.parked :=
  congrArg (·.2.1) h

theorem inline_of_frame {s t : Node} (h : t.frame = s.frame) : t.inline = s.inline :=
  congrArg (·.2.2) h

theorem ids_of_frame {s t : Node} (h : t.frame = s.frame) : t.conns.map (·.id) = s.conns.map (·.id) := by
  have hm := congrArg (fun r => r.1.map Prod.fst) (roster_of_frame h)
  simp only [roster, frame, List.map_map] at hm
  exact hm

theorem standing_of_frame {s t : Node} (h : t.frame = s.frame) :
    (t.roster, t.inline) = (s.roster, s.inline) :=
  Prod.ext (roster_of_frame h) (inline_of_frame h)

theorem onLoop_of_frame {s t : Node} (h : t.frame = s.frame) {R : List (Bytes × Nat) × Nat}
    (hs : s.roster = R ∧ s.inline = true) : t.roster = R ∧ t.inline = true :=
  ⟨(roster_of_frame h).trans hs.1, (inline_of_frame h).trans hs.2⟩

theorem ids_modifyConn (s : Node) (id : Bytes) {f : Connection → Connection}
    (hf : ∀ c, (f c).id = c.id) : (s.modifyConn id f).conns.map (·.id) = s.conns.map (·.id) := by
  simp only [modifyConn, List.map_map]
  apply List.map_congr_left
  intro c _
  by_cases h : c.id = id <;> simp [h, hf]

theorem frame_modifyConn (s : Node) (id : Bytes) {f : Connection → Connection}
    (hid : ∀ c, (f c).id = c.id) (hl : ∀ c, (f c).locked = c.locked) :
    (s.modifyConn id f).frame = s.frame := by
  have hmap : (s.modifyConn id f).conns.map (fun c => (c.id, c.locked)) = s.conns.map fun c => (c.id, c.locked) := by
    simp only [modifyConn, List.map_map]
    apply List.map_congr_left
    intro c _
    by_cases h : c.id = id <;> simp [h, hid, hl]
  simp only [frame, hmap]
  rfl

theorem frame_modifySession (s : Node) (id : Bytes) {f : Session → Session}
    (hf : ∀ ss, (f ss).id = ss.id) : (s.modifySession id f).frame = s.frame :=
  frame_modifyConn s id (fun c => hf c.session) (fun _ => rfl)

theorem frame_modifyQueue (s : Node) (id : Bytes) (f : Queue → Queue) :
    (s.modifyQueue id f).frame = s.frame :=
  frame_modifyConn s id (fun _ => rfl) (fun _ => rfl)

theorem frame_readable (s : Node) (id : Bytes) : (s.readable id).frame = s.frame := by
  unfold readable
  split
  · split
    · rfl
    · exact frame_modifyConn s id (fun _ => rfl) (fun _ => rfl)
  · rfl

theorem frame_writable (s : Node) (id : Bytes) : (s.writable id).frame = s.frame := by
  unfold writable
  split
  · split
    · rfl
    · exact frame_modifyConn s id (fun _ => rfl) (fun _ => rfl)
  · rfl

theorem frame_deliver (s : Node) (pipe : Nat) (signals : List Signal) :
    (s.deliver pipe signals).frame = s.frame := by
  unfold deliver
  split
  · rfl
  · refine foldl_keeps frame (fun s sig => ?_) signals s
    cases sig <;> dsimp only <;> split <;> simp only [frame_readable, frame_writable]

theorem readable_rest (s : Node) (id : Bytes) :
    { s.readable id with conns := [], posted := [] } = { s with conns := [], posted := [] } := by
  unfold readable
  split
  · split <;> rfl
  · rfl

theorem writable_rest (s : Node) (id : Bytes) :
    { s.writable id with conns := [], posted := [] } = { s with conns := [], posted := [] } := by
  unfold writable
  split
  · split <;> rfl
  · rfl

theorem deliver_rest (s : Node) (pipe : Nat) (signals : List Signal) :
    { s.deliver pipe signals with conns := [], posted := [] } = { s with conns := [], posted := [] } := by
  unfold deliver
  split
  · rfl
  · refine foldl_keeps (fun t : Node => { t with conns := [], posted := [] }) (fun s sig => ?_) signals s
    cases sig <;> dsimp only <;> split <;> simp only [readable_rest, writable_rest]

theorem net_deliver (s : Node) (i : Nat) (sigs : List Signal) : (s.deliver i sigs).net = s.net :=
  (congrArg Node.net (deliver_rest s i sigs) :)

theorem net_pipe_deliver (s : Node) (i : Nat) (sigs : List Signal) : (s.deliver i sigs).pipe = s.pipe := by
  unfold Node.pipe
  rw [net_deliver]

theorem size_setPipe (s : Node) (i : Nat) (p : Pipe) : (s.setPipe i p).net.size = s.net.size :=
  Array.size_setIfInBounds ..

theorem pipe_setPipe (s : Node) {i : Nat} (hi : i < s.net.size) (p : Pipe) (j : Nat) :
    (s.setPipe i p).pipe j = if j = i then p else s.pipe j := by
  unfold Node.pipe Node.setPipe
  by_cases hj : j = i
  · subst hj
    simp [Array.getD, hi]
  · simp only [Array.getD, Array.size_setIfInBounds, hj, if_false]
    split
    · exact Array.getElem_setIfInBounds_ne _ (Ne.symm hj)
    · rfl

theorem frame_onLink {β : Type} (s : Node) (id : Bytes) (op : Link → WireM (β × Link)) :
    (s.onLink id op).2.frame = s.frame := by
  unfold onLink
  split
  · rfl
  · split
    simp only [frame_deliver]
    exact frame_modifyConn _ id (fun _ => rfl) (fun _ => rfl)

theorem frame_cull (s : Node) (id reason : Bytes) : (s.cull id reason).frame = s.frame := by
  rcases cull_cases s id reason with ⟨h, -⟩ | ⟨c, -, -, h⟩ <;> rw [h]
  -- the culled list is not part of the frame
  have hculled : ∀ (t : Node) l, ({ t with culled := l } : Node).frame = t.frame := fun _ _ => rfl
  simp only [hculled, frame_onLink]
  exact frame_modifyConn s id (fun _ => rfl) (fun _ => rfl)

theorem frame_cullClosed (s : Node) (id : Bytes) (reason : Connection → Bytes) :
    (s.cullClosed id reason).frame = s.frame :=
  cullClosed_of (P := fun t => t.frame = s.frame) reason rfl fun r => frame_cull s id r

theorem frame_send (s : Node) (id line : Bytes) : (s.send id line).frame = s.frame := by
  rcases send_cases s id line with ⟨h, -⟩ | ⟨-, -, -, -, h⟩ <;> rw [h]
  rw [frame_cullClosed, frame_onLink]

theorem frame_reply (s : Node) (id : Bytes) (code : Line.Code) (params : List Bytes) (text : Bytes) :
    (s.reply id code params text).frame = s.frame :=
  frame_send ..

theorem frame_quit (s : Node) (id reason : Bytes) : (s.quit id reason).frame = s.frame := by
  rcases quit_cases s id reason with ⟨h, -⟩ | ⟨-, -, -, h⟩ <;> rw [h]
  rw [frame_cullClosed, frame_onLink]
  exact frame_modifyConn s id (fun _ => rfl) (fun _ => rfl)

theorem frame_closeLink (s : Node) (id reason : Bytes) : (s.closeLink id reason).frame = s.frame := by
  simp only [closeLink, frame_quit, frame_send]

theorem frame_touch (s : Node) (id : Bytes) (t : Int) (k : Bool) :
    (s.modifySession id (·.touch t k s.config.keepAlive)).frame = s.frame :=
  frame_modifySession s id fun _ => rfl

theorem frame_modifyServices (s : Node) (f : Services → Services) :
    (s.modifyServices f).frame = s.frame := rfl

theorem frame_observe (s : Node) (ev : Event) : (s.observe ev).frame = s.frame := by
  unfold observe
  split
  · rfl
  · exact foldl_keeps frame (fun s sink => frame_send s sink _) _ s

theorem frame_storeFailure (s : Node) (id : Bytes) (name : String) (key : Bytes)
    (e : Store.StoreError) : (s.storeFailure id name key e).2.frame = s.frame := by
  unfold storeFailure
  cases e <;> exact frame_reply ..

/-- How a handler's run for connection `id` from `s` ended: the roster is unchanged and offloaded
work still stays on the loop; a call that deferred has been completed already, so the
connection's parked event is gone; any other call left the parked events alone. -/
structure Handled (id : Bytes) (s : Node) (r : Outcome × Node) : Prop where
  roster : r.2.roster = s.roster
  inline : r.2.inline = s.inline
  deferred : r.1 = .deferred → r.2.parked = s.parked.drop id
  answered : r.1 ≠ .deferred → r.2.parked = s.parked

theorem Handled.of_frame {id : Bytes} {s : Node} {r : Outcome × Node} (hr : r.1 ≠ .deferred)
    (hf : r.2.frame = s.frame) : Handled id s r :=
  ⟨roster_of_frame hf, inline_of_frame hf, fun h => absurd h hr, fun _ => parked_of_frame hf⟩

theorem hostWith_keeps (id : Bytes) (inv : Builtin → List Bytes → Node → Invocation × Node)
    (hinv : ∀ x args s, ((inv x args s).2.roster, (inv x args s).2.inline) = (s.roster, s.inline)) :
    (hostWith id inv).Keeps fun t => (t.roster, t.inline) where
  reply _ _ _ s := standing_of_frame (frame_reply s id ..)
  touch t k s := standing_of_frame (frame_touch s id t k)
  notify pre ev s := by
    cases pre
    · exact standing_of_frame (frame_observe s ev)
    · rfl
  invoke := hinv
  setParked _ _ := rfl

theorem complete_spec (s : Node) (id : Bytes) (r : Outcome) :
    (s.complete id r).roster = s.roster ∧ (s.complete id r).inline = s.inline ∧
      (s.complete id r).parked = s.parked.drop id := by
  have hk := Dispatcher.complete_keeps (hostWith_keeps id (fun _ _ s => (.returned .invalid, s)) fun _ _ _ => rfl) r s
  obtain ⟨hr, hi⟩ := Prod.mk.inj hk
  refine ⟨hr, hi, ?_⟩
  unfold complete Dispatcher.complete
  dsimp only [hostWith]
  cases h : s.parked.get? id with
  | none => exact (Parked.drop_of_get?_eq_none h).symm
  | some ev =>
    simp only [Dispatcher.finish]
    split
    · rfl
    · exact parked_of_frame (frame_observe _ _)

theorem frame_busy (s : Node) (id : Bytes) (name : String) : (s.busy id name).2.frame = s.frame :=
  frame_reply ..

theorem frame_finish (s : Node) (id : Bytes) (found : Finish) : (s.finish id found).2.frame = s.frame := by
  cases found with
  | replies rs => exact foldl_keeps frame (fun t r => frame_reply t id _ _ _) rs s
  | storeFailed name key e => exact frame_storeFailure ..
  | login acct =>
    cases acct with
    | none => exact frame_reply ..
    | some acct =>
      dsimp only [finish]
      split
      · exact frame_reply ..
      · exact (frame_reply ..).trans (frame_modifySession s id fun _ => rfl)

theorem answerWork_spec (s : Node) (id : Bytes) (found : Finish) :
    (s.answerWork id found).roster = s.roster ∧ (s.answerWork id found).inline = s.inline ∧
      (s.answerWork id found).parked = s.parked.drop id := by
  -- the answer, if any, keeps the frame; the report then unparks
  have hf : (s.answer id found).2.frame = s.frame := by
    unfold answer
    split
    · split
      · rfl
      · exact frame_finish ..
    · rfl
  obtain ⟨hr, hi, hp⟩ := complete_spec (s.answer id found).2 id (s.answer id found).1
  exact ⟨hr.trans (roster_of_frame hf), hi.trans (inline_of_frame hf), hp.trans (by rw [parked_of_frame hf])⟩

theorem offload_handled {s : Node} (hin : s.inline = true) (id : Bytes) (name : String) (w : Work) :
    Handled id s (s.offload id name w) := by
  rcases offload_inline hin id name w with ⟨h, -⟩ | ⟨c, -, -, ⟨-, h⟩ | ⟨p, -, -, h⟩⟩ <;> rw [h]
  · exact Handled.of_frame (by simp [busy]) (frame_busy ..)
  · -- the work changed only the store; its answer unparked the connection's event
    obtain ⟨hr, hi, hp⟩ := answerWork_spec { s with services := { s.services with store :=
      (w.run s.services.hasher s.services.store s.services.accounts).2 } } id (w.run s.services.hasher s.services.store s.services.accounts).1
    exact ⟨hr, hi, fun _ => hp, fun h => absurd rfl h⟩
  · exact Handled.of_frame (by simp [busy]) (frame_busy ..)

theorem storeCommand_handled {s : Node} (hin : s.inline = true) (id : Bytes) (name : String) (key : Bytes)
    (work : Bytes → Work) : Handled id s (s.storeCommand id name key work) := by
  unfold storeCommand
  split
  · exact Handled.of_frame (by cases (Store.StoreError.invalidKey key) <;> simp [storeFailure])
      (frame_storeFailure ..)
  · exact offload_handled hin ..

theorem storeFailure_handled (s : Node) (id : Bytes) (name : String) (key : Bytes)
    (e : Store.StoreError) : Handled id s (s.storeFailure id name key e) := by
  cases e <;> exact Handled.of_frame (by simp [storeFailure]) (frame_reply ..)

theorem addSubscription_handled (s : Node) (id : Bytes) (name : String) (target : Bytes)
    (pattern : Bool) : Handled id s (s.addSubscription id name target pattern) := by
  unfold addSubscription
  split
  · exact Handled.of_frame (by simp) (frame_reply ..)
  · dsimp only
    split <;> (try split) <;> exact Handled.of_frame (by simp) (frame_reply ..)

theorem publish_handled (s : Node) (id channel message : Bytes) :
    Handled id s (s.publish id channel message) := by
  unfold publish
  split
  · exact Handled.of_frame (by simp) (frame_reply ..)
  · split
    · exact Handled.of_frame (by simp) (frame_reply ..)
    · refine Handled.of_frame (by simp) ?_
      simp only [frame_reply]
      refine foldl_keeps frame (fun s d => ?_) _ s
      split <;> exact frame_send ..

theorem login_handled {s : Node} (hin : s.inline = true) (id name password : Bytes) :
    Handled id s (s.login id name password) := by
  unfold login
  split
  · exact Handled.of_frame (by simp [alreadyIn]) (frame_reply ..)
  · split
    · exact Handled.of_frame (by simp) (frame_reply ..)
    · exact offload_handled hin ..

theorem handle_handled {s : Node} (hin : s.inline = true) (id : Bytes) (h : Builtin) (args : List Bytes) :
    Handled id s (s.handle id h args) := by
  cases h <;> dsimp only [handle]
  case login => exact login_handled hin ..
  case ping => exact Handled.of_frame (by simp) (frame_send ..)
  case pong => exact Handled.of_frame (by simp) rfl
  case quit => exact Handled.of_frame (by simp) ((frame_quit ..).trans (frame_send ..))
  case whoami =>
    split
    · exact Handled.of_frame (by simp) rfl
    · exact Handled.of_frame (by simp) (frame_reply ..)
  case use =>
    split
    · exact Handled.of_frame (by simp) (frame_reply ..)
    · exact Handled.of_frame (by simp) ((frame_reply ..).trans (frame_modifySession s id fun _ => rfl))
  case set => exact storeCommand_handled hin ..
  case get => exact storeCommand_handled hin ..
  case del => exact storeCommand_handled hin ..
  case exists_ => exact storeCommand_handled hin ..
  case incr =>
    split
    · exact storeFailure_handled ..
    · split
      · exact Handled.of_frame (by simp) (frame_reply ..)
      · exact storeCommand_handled hin ..
  case keys => exact offload_handled hin ..
  case publish => exact publish_handled ..
  case subscribe => exact addSubscription_handled ..
  case psubscribe => exact addSubscription_handled ..
  case unsubscribe =>
    split
    · exact Handled.of_frame (by simp) (frame_reply ..)
    · exact Handled.of_frame (by simp) (frame_reply ..)
  case multi =>
    split
    · exact Handled.of_frame (by simp) (frame_reply ..)
    · exact Handled.of_frame (by simp) ((frame_reply ..).trans (frame_modifyQueue ..))
  case multiRun =>
    split
    · exact Handled.of_frame (by simp) (frame_reply ..)
    · exact Handled.of_frame (by simp) ((frame_reply ..).trans (frame_modifyQueue ..))
  case multiReset => exact Handled.of_frame (by simp) ((frame_reply ..).trans (frame_modifyQueue ..))
  case monitor =>
    split
    · exact Handled.of_frame (by simp) (frame_reply ..)
    · exact Handled.of_frame (by simp)
        ((frame_reply ..).trans (frame_modifySession _ id fun _ => rfl))
  case flushdb => exact offload_handled hin ..
  case stats =>
    refine Handled.of_frame (by simp) ?_
    simp only [frame_reply]
    exact foldl_keeps frame (fun t l => frame_reply t id _ _ _) _ s

theorem host_inline (id : Bytes) (R : List (Bytes × Nat) × Nat) :
    (host id).Preserves fun t => t.roster = R ∧ t.inline = true where
  reply _ _ _ s h := onLoop_of_frame (frame_reply s id ..) h
  touch t k s h := onLoop_of_frame (frame_touch s id t k) h
  notify pre ev s h := by
    cases pre
    · exact onLoop_of_frame (frame_observe s ev) h
    · exact h
  invoke x args s h := ⟨(handle_handled h.2 id x args).roster.trans h.1, (handle_handled h.2 id x args).inline.trans h.2⟩
  setParked _ _ h := h

theorem host_settles (id : Bytes) (R : List (Bytes × Nat) × Nat) :
    (host id).Settles id fun t => t.roster = R ∧ t.inline = true where
  clientId _ := rfl
  setParked _ _ := rfl
  reply _ _ _ s := parked_of_frame (frame_reply s id ..)
  touch _ _ s := parked_of_frame (frame_modifySession s id fun _ => rfl)
  notify pre ev s := by
    cases pre
    · exact parked_of_frame (frame_observe s ev)
    · rfl
  deferred x args s hin h := (handle_handled hin.2 id x args).deferred (Invocation.returned.inj h)
  answered x args s hin h := (handle_handled hin.2 id x args).answered fun hr => h (congrArg _ hr)

theorem execute_roster {s : Node} (hin : s.inline = true) (id n : Bytes) (ps : List Bytes) :
    (s.execute id n ps).roster = s.roster ∧ (s.execute id n ps).inline = true :=
  Dispatcher.execute_preserves (host_inline id s.roster) s.dispatcher n ps ⟨rfl, hin⟩

theorem execute_parked {s : Node} (hin : s.inline = true) (id n : Bytes) (ps : List Bytes)
    (h : s.parked.get? id = none) : (s.execute id n ps).parked = s.parked :=
  Dispatcher.execute_parked (host_settles id s.roster) (host_inline id s.roster) s.dispatcher n ps ⟨rfl, hin⟩ h

theorem runner_keeps_roster (id : Bytes) (R : List (Bytes × Nat) × Nat) :
    (runner id).Keeps fun s => s.roster = R ∧ s.inline = true where
  setQueue q s h := onLoop_of_frame (frame_modifyQueue s id fun _ => q) h
  execute n ps _ h := ⟨(execute_roster h.2 id n ps).1.trans h.1, (execute_roster h.2 id n ps).2⟩
  reply code ps text s h := onLoop_of_frame (frame_reply s id code ps text) h

theorem runner_keeps_settled (id : Bytes) : (runner id).Keeps fun s => s.parked = [] ∧ s.inline = true where
  setQueue q s h := ⟨(parked_of_frame (frame_modifyQueue s id fun _ => q)).trans h.1, h.2⟩
  execute n ps s h := ⟨(execute_parked h.2 id n ps (by rw [h.1]; rfl)).trans h.1, (execute_roster h.2 id n ps).2⟩
  reply code ps text s h :=
    ⟨(parked_of_frame (frame_reply s id code ps text)).trans h.1, (inline_of_frame (frame_reply s id code ps text)).trans h.2⟩

theorem step_roster {s : Node} (hin : s.inline = true) (id : Bytes) (locked : Bool) :
    ((runner id).step locked s).2.roster = s.roster ∧ ((runner id).step locked s).2.inline = true :=
  Runner.step_keeps (runner_keeps_roster id s.roster) locked ⟨rfl, hin⟩

theorem step_parked {s : Node} (hin : s.inline = true) (id : Bytes) (locked : Bool) (h : s.parked = []) :
    ((runner id).step locked s).2.parked = [] :=
  (Runner.step_keeps (runner_keeps_settled id) locked ⟨h, hin⟩).1

theorem frame_count (s : Node) (out : StepOutcome) : (s.count out).2.frame = s.frame := by
  cases out <;> rfl

/-! The loop's other operations keep the whole frame. -/

theorem frame_openPipe (s : Node) (capacity : Int) : (s.openPipe capacity).2.frame = s.frame := rfl

theorem frame_reject (s : Node) : s.reject.frame = s.frame := rfl

theorem frame_enqueue (s : Node) (id name : Bytes) (params : List Bytes) :
    (s.enqueue id name params).2.frame = s.frame := by
  unfold enqueue
  split
  · rfl
  · split
    · rfl
    · dsimp only
      split
      · exact frame_modifyQueue ..
      · exact (frame_reject _).trans (frame_modifyQueue ..)
      · exact (frame_closeLink ..).trans (frame_modifyQueue ..)

theorem frame_drain (s : Node) (id : Bytes) (fuel : Nat) : (s.drain id fuel).frame = s.frame := by
  induction fuel generalizing s with
  | zero => rfl
  | succ fuel ih =>
    -- every round frames one line and recurs on what the line left
    have hrecv : ∀ (t : Node) rest,
        (t.modifyConn id fun c => { c with link := { c.link with recv := rest } }).frame = t.frame :=
      fun t _ => frame_modifyConn t id (fun _ => rfl) (fun _ => rfl)
    unfold drain
    split
    · rfl
    · split
      · rfl
      · dsimp only
        split
        · exact frame_closeLink ..
        · rw [ih, frame_reject, hrecv]
        · rfl
        · split
          · rw [ih, hrecv]
          · split
            · rw [ih, frame_reject, hrecv]
            · split
              · rename_i heq
                have he := congrArg (fun r => r.2.frame) heq
                simp only [frame_enqueue, hrecv] at he
                rw [ih, ← he]
              · rename_i heq
                have he := congrArg (fun r => r.2.frame) heq
                simp only [frame_enqueue, hrecv] at he
                split
                · rw [ih, ← he]
                · exact he.symm

theorem frame_drainInput (s : Node) (id : Bytes) : (s.drainInput id).frame = s.frame := by
  unfold drainInput
  split
  · rfl
  · exact frame_drain ..

theorem frame_submit (s : Node) (id raw : Bytes) : (s.submit id raw).frame = s.frame := by
  unfold submit
  split
  · rfl
  · split
    · rfl
    · exact (frame_drainInput ..).trans (frame_modifyConn s id (fun _ => rfl) (fun _ => rfl))

theorem frame_onReadable (s : Node) (id : Bytes) : (s.onReadable id).frame = s.frame := by
  rcases onReadable_cases s id with ⟨h, -⟩ | ⟨c, -, -, ⟨e, -, h⟩ | ⟨-, h⟩⟩ <;> rw [h]
  · rw [frame_cull, frame_onLink]
  · rw [frame_drainInput, frame_onLink]

theorem frame_onWritable (s : Node) (id : Bytes) : (s.onWritable id).frame = s.frame := by
  rcases onWritable_cases s id with ⟨h, -⟩ | ⟨c, -, -, ⟨e, -, h⟩ | ⟨-, h⟩⟩ <;> rw [h]
  · rw [frame_cull, frame_onLink]
  · rw [frame_cullClosed, frame_onLink]

theorem frame_runPost_event (s : Node) {p : Post} (hp : p.isCompletion = false) : (s.runPost p).frame = s.frame := by
  cases p with
  | readable id => exact (frame_onReadable ..).trans (frame_modifyConn s _ (fun _ => rfl) (fun _ => rfl))
  | writable id => exact (frame_onWritable ..).trans (frame_modifyConn s _ (fun _ => rfl) (fun _ => rfl))
  | completion job found => cases hp

theorem frame_housekeepOne (s : Node) (now : Int) (id : Bytes) :
    (s.housekeepOne now id).frame = s.frame := by
  unfold housekeepOne
  split
  · rfl
  · dsimp only
    split
    · rfl
    · split
      · split
        · exact frame_cull ..
        · rfl
      · split
        · exact frame_closeLink ..
        · split
          · split
            · exact frame_closeLink ..
            · rfl
          · split
            · rfl
            · -- the keep-alive deadline is recorded, then maybe a ping sent
              split
              · exact frame_modifySession s id fun _ => rfl
              · rw [frame_send]
                refine (frame_modifySession _ id ?_).trans (frame_modifySession s id ?_) <;>
                  exact fun _ => rfl

theorem frame_closeIfOpen (s : Node) (id reason : Bytes) : (s.closeIfOpen id reason).frame = s.frame := by
  unfold closeIfOpen
  split
  · split
    · rfl
    · exact frame_closeLink ..
  · rfl

theorem frame_closeOpen (s : Node) (reason : Bytes) : (s.closeOpen reason).frame = s.frame :=
  foldl_keeps frame (fun t id => frame_closeIfOpen t id reason) _ s

theorem frame_cullAll (s : Node) (reason : Bytes) : (s.cullAll reason).frame = s.frame :=
  foldl_keeps frame (fun t id => frame_cull t id reason) _ s

theorem frame_pool {s : Node} {p : Option WorkerPool} (h : p.map (·.started) = s.pool.map (·.started))
    (jobs : List (Nat × PoolJob)) (made : Nat) :
    ({ s with pool := p, jobs := jobs, jobsMade := made } : Node).frame = s.frame := by
  unfold frame
  rw [inline_of_started h]

theorem frame_stopPool (s : Node) : s.stopPool.frame = s.frame :=
  frame_pool (by cases s.pool <;> simp) s.jobs s.jobsMade

theorem frame_takeJob (s : Node) : s.takeJob.frame = s.frame := by
  unfold takeJob
  cases hp : s.pool with
  | none => rfl
  | some p =>
    dsimp only
    cases ht : p.take with
    | none => rfl
    | some jp =>
      obtain ⟨j, p'⟩ := jp
      exact frame_pool (by simp [hp, WorkerPool.take_started ht]) s.jobs s.jobsMade

theorem frame_finishJob (s : Node) (j : Job) : (s.finishJob j).frame = s.frame := by
  unfold finishJob
  cases hp : s.pool with
  | none => rfl
  | some p =>
    dsimp only
    have hpool : ∀ jobs, ({ s with pool := some (p.finish j), jobs := jobs } : Node).frame = s.frame :=
      fun jobs => frame_pool (by simp [hp]) jobs s.jobsMade
    split
    · split
      · exact hpool s.jobs
      · exact hpool s.jobs
    · rfl

theorem frame_refuse (s : Node) (layers : List LayerSpec) (pipe : Nat) (release : Option Nat) :
    (s.refuse layers pipe release).frame = s.frame :=
  frame_deliver ..

end Node

end LineKv.Server
