import Mathlib
import LineKv.Proofs.RecvFrame

/-!
Where a connection stands: torn down, draining, and the commands it still holds. Posting events
and running the link leave that alone; culling tears the connection down; quitting drains it and
drops its commands. Main statement: `closeLink_standing`.
-/

namespace LineKv.Server

open Transport

def Connection.standing (c : Connection) : Bool × Bool × Queue := (c.dead, c.quitting, c.queue)

namespace Node

theorem standing_modifyConn (s : Node) (id id' : Bytes) {g : Connection → Connection}
    (hg : ∀ c, (g c).id = c.id) (hs : ∀ c, (g c).standing = c.standing) :
    ((s.modifyConn id' g).conn? id).map Connection.standing = (s.conn? id).map Connection.standing := by
  rw [conn?_modifyConn_any _ _ _ hg, Option.map_map]
  congr 1
  funext c
  simp only [Function.comp_apply]
  split
  · exact hs c
  · rfl

theorem standing_readable (s : Node) (id id' : Bytes) :
    ((s.readable id').conn? id).map Connection.standing = (s.conn? id).map Connection.standing := by
  unfold readable
  split
  · split
    · rfl
    · exact standing_modifyConn s id id' (fun _ => rfl) fun _ => rfl
  · rfl

theorem standing_writable (s : Node) (id id' : Bytes) :
    ((s.writable id').conn? id).map Connection.standing = (s.conn? id).map Connection.standing := by
  unfold writable
  split
  · split
    · rfl
    · exact standing_modifyConn s id id' (fun _ => rfl) fun _ => rfl
  · rfl

theorem standing_deliver (s : Node) (id : Bytes) (pipe : Nat) (signals : List Signal) :
    ((s.deliver pipe signals).conn? id).map Connection.standing =
      (s.conn? id).map Connection.standing := by
  unfold deliver
  split
  · rfl
  · refine foldl_keeps (fun t => (t.conn? id).map Connection.standing) (fun t sig => ?_) signals s
    cases sig <;> dsimp only <;> split <;> simp only [standing_readable, standing_writable]

theorem standing_onLink {β : Type} (s : Node) (id id' : Bytes) (op : Link → WireM (β × Link)) :
    ((s.onLink id' op).2.conn? id).map Connection.standing = (s.conn? id).map Connection.standing := by
  unfold onLink
  split
  · rfl
  · split
    rw [standing_deliver]
    exact standing_modifyConn _ id id' (fun _ => rfl) fun _ => rfl

theorem standing_cull (s : Node) (id reason : Bytes) :
    ((s.cull id reason).conn? id).map Connection.standing =
      (s.conn? id).map fun c => (true, c.quitting, c.queue) := by
  rcases cull_cases s id reason with ⟨h, hdead⟩ | ⟨c, hc, -, h⟩ <;> rw [h]
  · cases hc : s.conn? id with
    | none => rfl
    | some c => simp [Connection.standing, hdead c hc]
  · have hl := standing_onLink (s.modifyConn id fun c =>
        { c with dead := true, reason := if c.reason.isEmpty then reason else c.reason }) id id
        (fun l => do return ((), ← l.close))
    have hid : ∀ c : Connection,
        ({ c with dead := true, reason := if c.reason.isEmpty then reason else c.reason } :
          Connection).id = c.id := fun _ => rfl
    change Option.map Connection.standing (((s.modifyConn id fun c =>
        { c with dead := true, reason := if c.reason.isEmpty then reason else c.reason }).onLink id
        fun l => do return ((), ← l.close)).2.conn? id) = _
    rw [hl, conn?_modifyConn _ _ hid, hc]
    rfl

theorem standing_cullClosed (t : Node) (id : Bytes) (reason : Connection → Bytes) :
    ((t.cullClosed id reason).conn? id).map Connection.standing =
      (t.conn? id).map fun c => (c.dead || c.link.closed, c.quitting, c.queue) := by
  rcases cullClosed_cases t id reason with ⟨h, hopen⟩ | ⟨c, hc, hcl, h⟩ <;> rw [h]
  · cases hc : t.conn? id with
    | none => rfl
    | some c => simp [Connection.standing, hopen c hc]
  · rw [standing_cull, hc]
    simp [hcl]

theorem standing_send (s : Node) (id line : Bytes) :
    ∃ b : Bool, ((s.send id line).conn? id).map Connection.standing =
      (s.conn? id).map fun c => (c.dead || b, c.quitting, c.queue) := by
  rcases send_cases s id line with ⟨h, -⟩ | ⟨c, hc, -, -, h⟩
  · refine ⟨false, ?_⟩
    rw [h]
    cases s.conn? id <;> simp [Connection.standing]
  -- the write leaves where the connection stands; a link it closed tears the connection down
  have hl := standing_onLink s id id fun l => do return ((), ← l.write line)
  rw [hc] at hl
  obtain ⟨c₁, hc₁, hs₁⟩ := Option.map_eq_some_iff.1 hl
  simp only [Connection.standing, Prod.mk.injEq] at hs₁
  refine ⟨c₁.link.closed, ?_⟩
  rw [h, standing_cullClosed, hc₁, hc]
  simp [hs₁]

theorem standing_quit {s : Node} {id : Bytes} {c : Connection} (hc : s.conn? id = some c)
    (hlive : c.closed = false) (reason : Bytes) :
    ∃ b : Bool, ((s.quit id reason).conn? id).map Connection.standing = some (b, true, c.queue.discard) := by
  have hid : ∀ c : Connection,
      ({ c with quitting := true, quitAt := s.now, reason := reason, queue := c.queue.discard } :
        Connection).id = c.id := fun _ => rfl
  rcases quit_cases s id reason with ⟨-, hst⟩ | ⟨c₀, hc₀, -, h⟩
  · exact absurd (hst c hc) (by simp [hlive])
  obtain rfl := Option.some.inj (hc₀.symm.trans hc)
  -- draining marks the record and leaves the rest to the link, which may close at once
  have hl := standing_onLink (s.modifyConn id fun c =>
      { c with quitting := true, quitAt := s.now, reason := reason, queue := c.queue.discard }) id id
      (fun l => do return ((), ← l.closeAfterFlush))
  rw [conn?_modifyConn _ _ hid, hc₀] at hl
  obtain ⟨c₁, hc₁, hs₁⟩ := Option.map_eq_some_iff.1 hl
  simp only [Connection.standing, Prod.mk.injEq] at hs₁
  refine ⟨c₁.dead || c₁.link.closed, ?_⟩
  rw [h, standing_cullClosed, hc₁]
  simp [hs₁]

/-- Closing the link of a live connection leaves it torn down with its commands (when the closing
line overflows its send queue), or draining with its commands dropped. -/
theorem closeLink_standing {s : Node} {id : Bytes} {c : Connection} (hc : s.conn? id = some c)
    (hlive : c.closed = false) (reason : Bytes) :
    ∃ c', (s.closeLink id reason).conn? id = some c' ∧
      ((c'.dead = true ∧ c'.queue = c.queue) ∨ (c'.quitting = true ∧ c'.queue = c.queue.discard)) := by
  have hflags : c.dead = false ∧ c.quitting = false := by
    simpa [Connection.closed] using hlive
  obtain ⟨b, hb⟩ := standing_send s id
    (Line.serverLine (Bytes.ofString "ERROR") [] (Bytes.ofString "Closing link: " ++ reason))
  rw [hc] at hb
  unfold closeLink
  generalize s.send id
    (Line.serverLine (Bytes.ofString "ERROR") [] (Bytes.ofString "Closing link: " ++ reason)) = t at hb ⊢
  obtain ⟨c₁, hc₁, hs₁⟩ : ∃ c₁, t.conn? id = some c₁ ∧ c₁.standing = (b, false, c.queue) := by
    cases ht : t.conn? id with
    | none => rw [ht] at hb; cases hb
    | some c₁ =>
      rw [ht] at hb
      simp only [Option.map_some, Option.some.injEq, hflags, Bool.false_or] at hb
      exact ⟨c₁, rfl, hb⟩
  simp only [Connection.standing, Prod.mk.injEq] at hs₁
  cases b with
  | true =>
    -- torn down by the overflow: quitting changes nothing
    refine ⟨c₁, ?_, .inl ⟨hs₁.1, hs₁.2.2⟩⟩
    rw [quit_of_closed hc₁ (by simp [Connection.closed, hs₁.1])]
    exact hc₁
  | false =>
    have hlive₁ : c₁.closed = false := by simp [Connection.closed, hs₁.1, hs₁.2.1]
    obtain ⟨b', hb'⟩ := standing_quit hc₁ hlive₁ reason
    cases hq : (t.quit id reason).conn? id with
    | none => rw [hq] at hb'; cases hb'
    | some c' =>
      rw [hq] at hb'
      simp only [Option.map_some, Option.some.injEq, Connection.standing, Prod.mk.injEq] at hb'
      exact ⟨c', rfl, .inr ⟨hb'.2.1, by rw [hb'.2.2, hs₁.2.2]⟩⟩

end Node

end LineKv.Server
