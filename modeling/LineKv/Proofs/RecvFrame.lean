import Mathlib
import LineKv.Proofs.InputIntake

/-!
What closing a connection does with the bytes it has buffered but not framed. Main statement:
`closeLink_appendRecv`.
-/

namespace LineKv.Transport.Link

def addRecv (l : Link) (x : Bytes) : Link := { l with recv := l.recv ++ x }

def Kept (x d : Bytes) : Prop := d = x ∨ d = []

theorem Kept.refl (x : Bytes) : Kept x x := .inl rfl

theorem Kept.nil (x : Bytes) : Kept x [] := .inr rfl

theorem Kept.trans {x d e : Bytes} (hd : Kept x d) (he : Kept d e) : Kept x e := by
  rcases he with rfl | rfl
  · exact hd
  · exact Kept.nil x

/-- A link operation that never reads the receive buffer: with more bytes buffered it does the
same, and they are still buffered afterwards unless it dropped the buffer. -/
def RecvBlind (f : Link → WireM Link) : Prop :=
  ∀ l x w, ∃ d, Kept x d ∧
    (f (l.addRecv x)).run w = (((f l).run w).1.addRecv d, ((f l).run w).2)

theorem close_blind : RecvBlind Link.close := by
  intro l x w
  cases l with
  | mk layers socket limits recv sendq closing closed err =>
  cases closed
  · -- closing drops the buffer
    refine ⟨[], Kept.nil x, ?_⟩
    simp [Link.close, addRecv]
    rfl
  · exact ⟨x, Kept.refl x, rfl⟩

theorem write_blind (p : Bytes) : RecvBlind (Link.write · p) := by
  intro l x w
  cases l with
  | mk layers socket limits recv sendq closing closed err =>
  by_cases h : (closed || closing || p.isEmpty) = true
  · refine ⟨x, Kept.refl x, ?_⟩
    simp only [Link.write, addRecv, h, if_true]
    rfl
  · obtain ⟨⟨rfl, rfl⟩, hpe⟩ : (closed = false ∧ closing = false) ∧ p.isEmpty = false := by
      simpa [not_or] using h
    -- the send queue overflows, failing the link, or the chunk waits for a flush
    by_cases hp : (sendq.push p).len + (layers.map (·.pending)).foldl (· + ·) 0 > limits.maxSendQ
    · refine ⟨[], Kept.nil x, ?_⟩
      simp [Link.write, addRecv, hpe, hp, Link.pending, Link.fail, Link.close]
      rfl
    · refine ⟨x, Kept.refl x, ?_⟩
      simp [Link.write, addRecv, hpe, hp, Link.pending, Link.notify]
      rfl

theorem closeAfterFlush_blind : RecvBlind Link.closeAfterFlush := by
  intro l x w
  cases l with
  | mk layers socket limits recv sendq closing closed err =>
  cases closed
  · -- with nothing pending the link closes at once
    by_cases hp : sendq.len + (layers.map (·.pending)).foldl (· + ·) 0 = 0
    · refine ⟨[], Kept.nil x, ?_⟩
      simp [Link.closeAfterFlush, addRecv, hp, Link.pending, Link.close]
      rfl
    · refine ⟨x, Kept.refl x, ?_⟩
      simp [Link.closeAfterFlush, addRecv, hp, Link.pending, Link.notify]
      rfl
  · exact ⟨x, Kept.refl x, rfl⟩

end LineKv.Transport.Link

namespace LineKv.Server.Node

open Transport

def appendRecv (s : Node) (id x : Bytes) : Node :=
  s.modifyConn id fun c => { c with link := c.link.addRecv x }

theorem addRecv_id (x : Bytes) (c : Connection) : ({ c with link := c.link.addRecv x } : Connection).id = c.id :=
  rfl

theorem modifyConn_comm (s : Node) (id id' : Bytes) {f g : Connection → Connection}
    (hf : ∀ c, (f c).id = c.id) (hg : ∀ c, (g c).id = c.id) (hfg : ∀ c, f (g c) = g (f c)) :
    (s.modifyConn id g).modifyConn id' f = (s.modifyConn id' f).modifyConn id g := by
  simp only [modifyConn, List.map_map]
  congr 1
  apply List.map_congr_left
  intro c _
  simp only [Function.comp_apply]
  by_cases h : (c.id == id) = true <;> by_cases h' : (c.id == id') = true <;>
    simp only [h, h', hf, hg, hfg, if_true, if_false, Bool.false_eq_true]

theorem conn?_modifyConn_any (s : Node) (id id' : Bytes) {g : Connection → Connection}
    (hg : ∀ c, (g c).id = c.id) :
    (s.modifyConn id g).conn? id' = (s.conn? id').map fun c => if c.id == id then g c else c := by
  simp only [conn?, modifyConn, List.find?_map]
  have hp : ((fun c : Connection => c.id == id') ∘ fun c => if c.id == id then g c else c) =
      fun c => c.id == id' := by
    funext c
    by_cases h : c.id = id <;> simp [h, hg]
  rw [hp]

theorem appendRecv_nil (s : Node) (id : Bytes) : s.appendRecv id [] = s := by
  simp [appendRecv, modifyConn, Link.addRecv]

theorem conn?_appendRecv (s : Node) (id x id' : Bytes) :
    (s.appendRecv id x).conn? id' =
      (s.conn? id').map fun c => if c.id == id then { c with link := c.link.addRecv x } else c :=
  conn?_modifyConn_any s id id' fun _ => rfl

theorem conn?_appendRecv_self (s : Node) (id x : Bytes) :
    (s.appendRecv id x).conn? id = (s.conn? id).map fun c => { c with link := c.link.addRecv x } :=
  conn?_modifyConn s id (addRecv_id x)

/-! Posting events reads no receive buffer. -/

theorem readable_appendRecv (s : Node) (id x id' : Bytes) :
    (s.appendRecv id x).readable id' = (s.readable id').appendRecv id x := by
  have hf : ∀ c : Connection, ({ c with readPosted := true } : Connection).id = c.id := fun _ => rfl
  unfold readable
  rw [conn?_appendRecv]
  cases s.conn? id' with
  | none => rfl
  | some c =>
    have hrp : (if c.id == id then { c with link := c.link.addRecv x } else c).readPosted =
        c.readPosted := by
      split <;> rfl
    simp only [Option.map_some, hrp]
    split
    · rfl
    · unfold appendRecv
      rw [modifyConn_comm _ _ _ hf (addRecv_id x) fun _ => rfl]
      rfl

theorem writable_appendRecv (s : Node) (id x id' : Bytes) :
    (s.appendRecv id x).writable id' = (s.writable id').appendRecv id x := by
  have hf : ∀ c : Connection, ({ c with writePosted := true } : Connection).id = c.id := fun _ => rfl
  unfold writable
  rw [conn?_appendRecv]
  cases s.conn? id' with
  | none => rfl
  | some c =>
    have hwp : (if c.id == id then { c with link := c.link.addRecv x } else c).writePosted =
        c.writePosted := by
      split <;> rfl
    simp only [Option.map_some, hwp]
    split
    · rfl
    · unfold appendRecv
      rw [modifyConn_comm _ _ _ hf (addRecv_id x) fun _ => rfl]
      rfl

theorem deliver_appendRecv (s : Node) (id x : Bytes) (pipe : Nat) (signals : List Signal) :
    (s.appendRecv id x).deliver pipe signals = (s.deliver pipe signals).appendRecv id x := by
  -- the connection on the pipe is found with the same id
  have hfind : (s.appendRecv id x).conns.find? (·.pipe == pipe) =
      (s.conns.find? (·.pipe == pipe)).map fun c => if c.id == id then { c with link := c.link.addRecv x } else c := by
    simp only [appendRecv, modifyConn, List.find?_map]
    congr 2
    funext c
    by_cases h : c.id = id <;> simp [h]
  unfold deliver
  rw [hfind]
  cases s.conns.find? (·.pipe == pipe) with
  | none => rfl
  | some c =>
    have hid : (if c.id == id then { c with link := c.link.addRecv x } else c).id = c.id := by
      split <;> rfl
    simp only [Option.map_some, hid]
    refine List.foldl_hom (fun t : Node => t.appendRecv id x) fun t sig => ?_
    cases sig <;> dsimp only <;> split <;>
      simp only [readable_appendRecv, writable_appendRecv]

theorem onLink_appendRecv {f : Link → WireM Link} (hf : Link.RecvBlind f) (s : Node) (id x : Bytes) :
    ∃ d, Link.Kept x d ∧
      (s.appendRecv id x).onLink id (fun l => do return ((), ← f l)) =
        ((s.onLink id fun l => do return ((), ← f l)).1,
          (s.onLink id fun l => do return ((), ← f l)).2.appendRecv id d) := by
  unfold onLink
  rw [conn?_appendRecv_self]
  cases hc : s.conn? id with
  | none => exact ⟨x, Link.Kept.refl x, rfl⟩
  | some c =>
    obtain ⟨d, hd, hrun⟩ := hf c.link x ⟨s.pipe c.pipe, []⟩
    refine ⟨d, hd, ?_⟩
    have hl : ∀ l : Link, ((do return ((), ← f l)) : WireM (Unit × Link)).run ⟨s.pipe c.pipe, []⟩ =
        (((), ((f l).run ⟨s.pipe c.pipe, []⟩).1), ((f l).run ⟨s.pipe c.pipe, []⟩).2) := fun _ => rfl
    have hp : (s.appendRecv id x).pipe c.pipe = s.pipe c.pipe := rfl
    have hset : ∀ (L : Link) (P : Pipe),
        ((s.appendRecv id x).setPipe c.pipe P).modifyConn id (fun c => { c with link := L.addRecv d }) =
          ((s.setPipe c.pipe P).modifyConn id fun c => { c with link := L }).appendRecv id d := by
      intro L P
      have hL : ∀ c : Connection, ({ c with link := L } : Connection).id = c.id := fun _ => rfl
      unfold appendRecv
      rw [modifyConn_modifyConn _ _ _ hL]
      exact modifyConn_modifyConn (s.setPipe c.pipe P) id _ (addRecv_id x)
    simp only [Option.map_some]
    rw [hp, hl, hl, hrun]
    dsimp only
    rw [hset, deliver_appendRecv]

/-! Closing a connection reads no receive buffer. -/

theorem cull_appendRecv (s : Node) (id x reason : Bytes) :
    ∃ d, Link.Kept x d ∧ (s.appendRecv id x).cull id reason = (s.cull id reason).appendRecv id d := by
  have hf : ∀ c : Connection,
      ({ c with dead := true, reason := if c.reason.isEmpty then reason else c.reason } : Connection).id =
        c.id := fun _ => rfl
  unfold cull
  rw [conn?_appendRecv_self]
  cases s.conn? id with
  | none => exact ⟨x, Link.Kept.refl x, rfl⟩
  | some c =>
    simp only [Option.map_some]
    by_cases hd : c.dead = true
    · exact ⟨x, Link.Kept.refl x, by simp [hd]⟩
    · have hcomm : (s.appendRecv id x).modifyConn id
            (fun c => { c with dead := true, reason := if c.reason.isEmpty then reason else c.reason }) =
          (s.modifyConn id fun c =>
            { c with dead := true, reason := if c.reason.isEmpty then reason else c.reason }).appendRecv id x :=
        modifyConn_comm s id id hf (addRecv_id x) fun _ => rfl
      obtain ⟨d, hdx, hlink⟩ := onLink_appendRecv Link.close_blind
        (s.modifyConn id fun c => { c with dead := true, reason := if c.reason.isEmpty then reason else c.reason })
        id x
      refine ⟨d, hdx, ?_⟩
      simp only [hd, Bool.false_eq_true, if_false]
      rw [hcomm, hlink]
      rfl

/-- Tearing a connection down once its link has closed keeps the extra bytes or drops them. -/
theorem cullIfClosed_appendRecv (t : Node) (id : Bytes) {x d : Bytes} (hd : Link.Kept x d)
    (why : Option LinkError → Bytes) :
    ∃ e, Link.Kept x e ∧
      (match (t.appendRecv id d).conn? id with
        | some c => if c.link.closed then (t.appendRecv id d).cull id (why c.link.err) else t.appendRecv id d
        | none => t.appendRecv id d) =
      (match t.conn? id with
        | some c => if c.link.closed then t.cull id (why c.link.err) else t
        | none => t).appendRecv id e := by
  rw [conn?_appendRecv_self]
  cases t.conn? id with
  | none => exact ⟨d, hd, rfl⟩
  | some c =>
    simp only [Option.map_some, Link.addRecv]
    split
    · obtain ⟨e, he, hcull⟩ := cull_appendRecv t id d (why c.link.err)
      exact ⟨e, hd.trans he, hcull⟩
    · exact ⟨d, hd, rfl⟩

theorem send_appendRecv (s : Node) (id x line : Bytes) :
    ∃ d, Link.Kept x d ∧ (s.appendRecv id x).send id line = (s.send id line).appendRecv id d := by
  unfold send
  rw [conn?_appendRecv_self]
  cases s.conn? id with
  | none => exact ⟨x, Link.Kept.refl x, rfl⟩
  | some c =>
    simp only [Option.map_some]
    by_cases hc : (c.dead || c.link.closing) = true
    · exact ⟨x, Link.Kept.refl x, by simp only [Link.addRecv] at hc ⊢; simp [hc]⟩
    · obtain ⟨d, hd, hlink⟩ := onLink_appendRecv (Link.write_blind line) s id x
      simp only [Bool.not_eq_true] at hc
      simp only [Link.addRecv, hc, Bool.false_eq_true, if_false]
      rw [hlink]
      -- the link may have failed writing the line, and the connection is torn down
      generalize (s.onLink id fun l => do return ((), ← l.write line)).2 = t
      exact cullIfClosed_appendRecv t id hd causeOf

theorem quit_appendRecv (s : Node) (id x reason : Bytes) :
    ∃ d, Link.Kept x d ∧ (s.appendRecv id x).quit id reason = (s.quit id reason).appendRecv id d := by
  have hf : ∀ c : Connection,
      ({ c with quitting := true, quitAt := s.now, reason := reason, queue := c.queue.discard } :
        Connection).id = c.id := fun _ => rfl
  unfold quit
  rw [conn?_appendRecv_self]
  cases s.conn? id with
  | none => exact ⟨x, Link.Kept.refl x, rfl⟩
  | some c =>
    simp only [Option.map_some]
    by_cases hc : c.closed = true
    · exact ⟨x, Link.Kept.refl x, by simp [Connection.closed] at hc ⊢; simp [hc]⟩
    · have hcomm : (s.appendRecv id x).modifyConn id
            (fun c => { c with quitting := true, quitAt := s.now, reason := reason, queue := c.queue.discard }) =
          (s.modifyConn id fun c =>
            { c with quitting := true, quitAt := s.now, reason := reason, queue := c.queue.discard }).appendRecv
            id x :=
        modifyConn_comm s id id hf (addRecv_id x) fun _ => rfl
      obtain ⟨d, hd, hlink⟩ := onLink_appendRecv Link.closeAfterFlush_blind
        (s.modifyConn id fun c =>
          { c with quitting := true, quitAt := s.now, reason := reason, queue := c.queue.discard }) id x
      have hnow : (s.appendRecv id x).now = s.now := rfl
      simp only [Connection.closed] at hc ⊢
      simp only [hc, Bool.false_eq_true, if_false]
      rw [hnow, hcomm, hlink]
      -- draining may have closed the link at once, and the connection is torn down
      exact cullIfClosed_appendRecv _ id hd fun _ => reason

/-- Closing a link with a reason reads none of the bytes the connection has buffered: with more
buffered it does the same, and keeps them unless the link closed. -/
theorem closeLink_appendRecv (s : Node) (id x reason : Bytes) :
    ∃ d, Link.Kept x d ∧ (s.appendRecv id x).closeLink id reason = (s.closeLink id reason).appendRecv id d := by
  obtain ⟨d, hd, hsend⟩ := send_appendRecv s id x
    (Line.serverLine (Bytes.ofString "ERROR") [] (Bytes.ofString "Closing link: " ++ reason))
  obtain ⟨e, he, hquit⟩ := quit_appendRecv (s.send id
    (Line.serverLine (Bytes.ofString "ERROR") [] (Bytes.ofString "Closing link: " ++ reason))) id d reason
  refine ⟨e, hd.trans he, ?_⟩
  unfold closeLink
  rw [hsend, hquit]

end LineKv.Server.Node
