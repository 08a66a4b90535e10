import Mathlib
import LineKv.Proofs.SessionTimers
import LineKv.Proofs.ChainWakeups

/-!
Connections that stop. A connection stops when it starts draining (`quit`) or is torn down
(`cull`); closing its link with a reason (`closeLink`) sends the client one last line first. Main
statement: `stopped_connection_stays_quiet`.
-/

namespace LineKv.Transport

theorem ChunkQueue.consume_suffix (q : ChunkQueue) (n : Int) : (q.consume n).bytes <:+ q.bytes := by
  simp only [ChunkQueue.consume, ChunkQueue.bytes, ChunkQueue.flatten_dropBytes]
  exact List.drop_suffix _ _

theorem Socket.write_rest (s : Socket) (src : ChunkQueue) (w : Wire) :
    ((s.write src).run w).1.2.2.bytes <:+ src.bytes := by
  by_cases h : s.closed = false ∧ src.len ≠ 0 ∧ (w.pipe.outbound s.side).eof = false
  · obtain ⟨sigs, hw, -⟩ := Socket.write_run_open s h.1 h.2.1 w h.2.2
    rw [hw]
    exact ChunkQueue.consume_suffix _ _
  · obtain ⟨st, e, hw, -⟩ := Socket.write_run_idle s src w h
    rw [hw]

theorem writeChain_rest (sock : Socket) {n : Nat} {cs : List Compressor} {src : ChunkQueue} {w : Wire}
    {st : WriteStatus} {e : Option LinkError} {src' : ChunkQueue} {cs' : List Compressor} {w' : Wire}
    (h : (writeChain sock n cs src).run w = ((st, e, src', cs'), w')) : src'.bytes <:+ src.bytes := by
  match n, cs with
  | 0, cs =>
    simp only [writeChain, StateT.run_pure] at h
    obtain ⟨⟨-, -, rfl, -⟩, -⟩ := h
    exact List.suffix_refl _
  | n + 1, [] =>
    simp only [writeChain, StateT.run_bind] at h
    rcases hr : (sock.write src).run w with ⟨⟨st₁, e₁, q⟩, w₁⟩
    have hq := Socket.write_rest sock src w
    rw [hr] at hq
    rw [hr, pair_bind] at h
    simp only [StateT.run_pure] at h
    obtain ⟨⟨-, -, rfl, -⟩, -⟩ := h
    exact hq
  | n + 1, c :: cs =>
    -- the layer hands on its own frames; the queue it reports is the one it was given or empty
    simp only [writeChain, StateT.run_bind, Compressor.writeWith] at h
    by_cases ha : c.attached = true
    · rw [if_neg (by simp [ha])] at h
      obtain ⟨c₁, src₁, hsplit, hsrc₁⟩ : ∃ c₁ src₁,
          (if src.len > 0 then (({ c with out := c.out.push (c.frame src.bytes) } : Compressor), ChunkQueue.empty)
            else (c, src)) = (c₁, src₁) ∧ src₁.bytes <:+ src.bytes := by
        by_cases hp : src.len > 0
        · exact ⟨_, _, if_pos hp, List.nil_suffix⟩
        · exact ⟨_, _, if_neg hp, List.suffix_refl _⟩
      rw [hsplit] at h
      simp only [StateT.run_bind] at h
      rcases hr : (writeChain sock n cs c₁.out).run w with ⟨⟨st₁, e₁, out₁, cs₁⟩, w₁⟩
      rw [hr, pair_bind] at h
      dsimp only at h
      cases st₁ <;> simp only [StateT.run_pure] at h <;> obtain ⟨⟨-, -, rfl, -⟩, -⟩ := h <;> exact hsrc₁
    · rw [if_pos (by simpa using ha)] at h
      simp only [StateT.run_pure] at h
      obtain ⟨⟨-, -, rfl, -⟩, -⟩ := h
      exact List.suffix_refl _

namespace Link

/-- What a link keeps through what is still done to it once it takes no more output: it stays
closing and stays closed, its receive buffer stays or is dropped, and its send queue only loses
bytes from its front. -/
structure Drains (l l' : Link) : Prop where
  closing : l.closing = true → l'.closing = true
  closed : l.closed = true → l'.closed = true
  recv : l'.recv = l.recv ∨ l'.recv = []
  sendq : l'.sendq.bytes <:+ l.sendq.bytes

theorem Drains.refl (l : Link) : l.Drains l := ⟨id, id, .inl rfl, List.suffix_refl _⟩

theorem Drains.trans {l₁ l₂ l₃ : Link} (h₁ : l₁.Drains l₂) (h₂ : l₂.Drains l₃) : l₁.Drains l₃ where
  closing h := h₂.closing (h₁.closing h)
  closed h := h₂.closed (h₁.closed h)
  recv := by
    rcases h₂.recv with h | h
    · rw [h]
      exact h₁.recv
    · exact .inr h
  sendq := h₂.sendq.trans h₁.sendq

variable (l : Link) (w : Wire)

theorem close_closing : (l.close.run w).1.closing = l.closing := by
  cases hc : l.closed
  · rw [close_open hc]
  · rw [close_of_closed l w hc]

theorem close_sendq (hopen : l.closed = false) : (l.close.run w).1.sendq = .empty := by
  rw [close_open hopen]

theorem close_drains : l.Drains (l.close.run w).1 := by
  cases hc : l.closed
  · rw [close_open hc]
    exact ⟨id, fun _ => rfl, .inr rfl, List.nil_suffix⟩
  · rw [close_of_closed l w hc]
    exact Drains.refl l

theorem fail_closing (e : LinkError) : ((l.fail e).run w).1.2.closing = l.closing := by
  simp only [Link.fail, StateT.run_bind]
  exact close_closing _ _

theorem fail_drains (e : LinkError) : l.Drains ((l.fail e).run w).1.2 := by
  have h := close_drains { l with err := some (l.err.getD e) } w
  exact ⟨h.closing, h.closed, h.recv, h.sendq⟩

theorem fail_sendq (hopen : l.closed = false) (e : LinkError) : ((l.fail e).run w).1.2.sendq = .empty := by
  simp only [Link.fail, StateT.run_bind]
  exact close_sendq _ _ hopen

theorem write_keeps {l : Link} {p : Bytes} {w : Wire} {l' : Link} {w' : Wire}
    (h : (l.write p).run w = (l', w')) : l'.closing = l.closing ∧ (l'.closed = true ∨ l'.closed = l.closed) := by
  rcases write_inv h with ⟨-, rfl, -⟩ | ⟨-, -, -, -, e, hf⟩ | ⟨-, -, -, -, rfl, -⟩
  · exact ⟨rfl, .inr rfl⟩
  · -- the send queue overflows: the link fails
    have hc := fail_closed ({ l with sendq := l.sendq.push p } : Link) .sendQExceeded w
    have hcl := fail_closing ({ l with sendq := l.sendq.push p } : Link) w .sendQExceeded
    rw [hf] at hc hcl
    exact ⟨hcl, .inl hc⟩
  · exact ⟨rfl, .inr rfl⟩

theorem write_queues {l : Link} (hopen : l.closed = false) (hcl : l.closing = false) {p : Bytes}
    (hp : p ≠ []) {w : Wire} {l' : Link} {w' : Wire} (h : (l.write p).run w = (l', w')) :
    (l'.closed = true ∧ l'.sendq.bytes = []) ∨ (l'.closed = false ∧ l'.sendq.bytes = l.sendq.bytes ++ p) := by
  rcases write_inv h with ⟨hskip, -, -⟩ | ⟨-, -, -, -, e, hf⟩ | ⟨-, -, -, -, rfl, -⟩
  · exact absurd hskip (by simp [hopen, hcl, hp])
  · -- the failure closes a link that was open, so the queue goes
    have hc := fail_closed ({ l with sendq := l.sendq.push p } : Link) .sendQExceeded w
    have hq := fail_sendq ({ l with sendq := l.sendq.push p } : Link) w hopen .sendQExceeded
    rw [hf] at hc hq
    exact .inl ⟨hc, by rw [hq]; rfl⟩
  · exact .inr ⟨hopen, ChunkQueue.bytes_push _ _⟩

theorem handleReadable_go_keeps (fuel start : Nat) {l : Link} {w : Wire} {r : Option LinkError}
    {l' : Link} {w' : Wire} (h : (handleReadable.go fuel start l).run w = ((r, l'), w')) :
    l'.closing = l.closing ∧ (r = none → l'.closed = l.closed) := by
  induction fuel generalizing l w with
  | zero =>
    rw [go_zero_run] at h
    obtain ⟨⟨-, rfl⟩, -⟩ := h
    exact ⟨rfl, fun _ => rfl⟩
  | succ fuel ih =>
    rcases go_succ_inv h with ⟨-, -, rfl, -⟩ | ⟨-, st, e, data, cs, w₁, -, hround⟩
    · exact ⟨rfl, fun _ => rfl⟩
    -- a round changes only the layers and the receive buffer, or fails and reports it
    rcases hround with ⟨-, -, hgo⟩ | ⟨-, -, rfl, -⟩ | ⟨-, -, -, rfl, -⟩ | ⟨-, e', e₁, hf, rfl⟩
    · exact ih (l := { l with layers := cs, recv := l.recv ++ data }) hgo
    · exact ⟨rfl, fun _ => rfl⟩
    · exact ⟨rfl, fun _ => rfl⟩
    · have hcl := fail_closing { l with layers := cs, recv := l.recv ++ data } w₁ e'
      rw [hf] at hcl
      exact ⟨hcl, fun h => absurd h (Option.some_ne_none _)⟩

theorem handleReadable_keeps {l : Link} {w : Wire} {r : Option LinkError} {l' : Link} {w' : Wire}
    (h : l.handleReadable.run w = ((r, l'), w')) :
    l'.closing = l.closing ∧ (r = none → l'.closed = l.closed) := by
  by_cases hc : l.closed = true
  · rw [handleReadable_closed hc] at h
    obtain ⟨⟨rfl, rfl⟩, -⟩ := h
    exact ⟨rfl, fun _ => rfl⟩
  · rw [handleReadable_run (by simpa using hc)] at h
    exact handleReadable_go_keeps _ _ h

theorem closeAfterFlush_closes {l : Link} (hopen : l.closed = false) {w : Wire} {l' : Link} {w' : Wire}
    (h : l.closeAfterFlush.run w = (l', w')) :
    l'.closing = true ∧ ((l'.closed = true ∧ l'.sendq.bytes = []) ∨ (l'.closed = false ∧ l'.sendq = l.sendq)) := by
  rcases closeAfterFlush_inv hopen h with ⟨-, h⟩ | ⟨-, rfl, -⟩
  · -- nothing pending: the link closes at once
    have hc := close_closed ({ l with closing := true } : Link) w
    have hcl := close_closing ({ l with closing := true } : Link) w
    have hq := close_sendq ({ l with closing := true } : Link) w hopen
    rw [h] at hc hcl hq
    exact ⟨hcl, .inl ⟨hc, by rw [hq]; rfl⟩⟩
  · exact ⟨rfl, .inr ⟨hopen, rfl⟩⟩

theorem write_settles (l : Link) (p : Bytes) (w : Wire) :
    ((l.write p).run w).1.closing = l.closing ∧ (l.closed = true → ((l.write p).run w).1.closed = true) := by
  rcases hr : (l.write p).run w with ⟨l', w'⟩
  obtain ⟨hcl, hc⟩ := write_keeps hr
  exact ⟨hcl, fun h => hc.elim id fun e => e.trans h⟩

theorem handleReadable_settles (l : Link) (w : Wire) :
    (l.handleReadable.run w).1.2.closing = l.closing ∧
      (l.closed = true → (l.handleReadable.run w).1.2.closed = true) := by
  rcases hr : l.handleReadable.run w with ⟨⟨r, l'⟩, w'⟩
  refine ⟨(handleReadable_keeps hr).1, fun hc => ?_⟩
  rw [handleReadable_closed hc] at hr
  obtain ⟨⟨-, rfl⟩, -⟩ := hr
  exact hc

/-- Draining an open link, as a function of the wire. -/
theorem closeAfterFlush_result {l : Link} (hopen : l.closed = false) (w : Wire) :
    (l.closeAfterFlush.run w).1.closing = true ∧
      (((l.closeAfterFlush.run w).1.closed = true ∧ (l.closeAfterFlush.run w).1.sendq.bytes = []) ∨
        ((l.closeAfterFlush.run w).1.closed = false ∧ (l.closeAfterFlush.run w).1.sendq = l.sendq)) := by
  rcases hr : l.closeAfterFlush.run w with ⟨l', w'⟩
  exact closeAfterFlush_closes hopen hr

theorem closeAfterFlush_closing {l : Link} (hopen : l.closed = false) (w : Wire) :
    (l.closeAfterFlush.run w).1.closing = true := by
  rcases hr : l.closeAfterFlush.run w with ⟨l', w'⟩
  exact (closeAfterFlush_closes hopen hr).1

theorem flush_drains {l : Link} {w : Wire} {r : Option LinkError} {l' : Link} {w' : Wire}
    (h : l.flush.run w = ((r, l'), w')) :
    l.Drains l' ∧ l'.closing = l.closing ∧ (r = none → l.closed = false) := by
  by_cases hc : l.closed = true
  · rw [flush_closed hc] at h
    obtain ⟨⟨rfl, rfl⟩, -⟩ := h
    exact ⟨Drains.refl l, rfl, fun h => absurd h (Option.some_ne_none _)⟩
  have hopen : l.closed = false := by simpa using hc
  obtain ⟨st, e, q, cs, w₁, hr, hround⟩ := flush_inv hopen h
  -- the link with the rest of its queue, before anything closes it
  have h₁ : l.Drains { l with sendq := q, layers := cs } :=
    ⟨id, id, .inl rfl, writeChain_rest l.socket hr⟩
  rcases hround with ⟨-, e', e₁, hf, -⟩ | ⟨-, -, ⟨-, hc⟩ | ⟨-, rfl, rfl⟩⟩
  · -- a failure closes that link
    have hd := fail_drains { l with sendq := q, layers := cs } w₁ e'
    have hcl := fail_closing { l with sendq := q, layers := cs } w₁ e'
    rw [hf] at hd hcl
    exact ⟨h₁.trans hd, hcl, fun _ => hopen⟩
  · -- drained in drain-then-close mode: the link closes
    have hd := close_drains ({ l with sendq := q, layers := cs } : Link) w₁
    have hcl := close_closing ({ l with sendq := q, layers := cs } : Link) w₁
    rw [hc] at hd hcl
    exact ⟨h₁.trans hd, hcl, fun _ => hopen⟩
  · exact ⟨h₁, rfl, fun _ => hopen⟩

theorem flush_settles (l : Link) (w : Wire) :
    (l.flush.run w).1.2.closing = l.closing ∧ (l.closed = true → (l.flush.run w).1.2.closed = true) := by
  rcases hr : l.flush.run w with ⟨⟨r, l'⟩, w'⟩
  obtain ⟨hd, hcl, -⟩ := flush_drains hr
  exact ⟨hcl, hd.closed⟩

end Link

end LineKv.Transport

namespace LineKv.Server

open Command Transport

/-- What a connection that was `c₀` when it stopped still is: stopped, with a link that takes no
more output (closing or closed), a queue holding only what `c₀`'s held, and a link that has only
drained since. -/
structure Connection.Stopped (c₀ c : Connection) : Prop where
  closed : c.closed = true
  mute : c.link.closing = true ∨ c.link.closed = true
  pending : c.queue.pending.Sublist c₀.queue.pending
  buffer : c.queue.buffer.Sublist c₀.queue.buffer
  drains : c₀.link.Drains c.link

def Connection.Sane (c : Connection) : Prop := c.closed = (c.link.closing || c.link.closed)

namespace Node

def Holds (k : Bytes) (Q : Connection → Prop) (s : Node) : Prop := ∀ c, s.conn? k = some c → Q c

theorem unflagged_modifyConn (s : Node) (j k : Bytes) {g : Connection → Connection}
    (hg : ∀ c, (g c).unflagged = c.unflagged) (hid : ∀ c, (g c).id = c.id) :
    ((s.modifyConn j g).conn? k).map Connection.unflagged = (s.conn? k).map Connection.unflagged := by
  rw [conn?_modifyConn_any _ _ _ hid, Option.map_map]
  congr 1
  funext c
  simp only [Function.comp_apply]
  split
  · exact hg c
  · rfl

theorem unflagged_readable (s : Node) (j k : Bytes) :
    ((s.readable j).conn? k).map Connection.unflagged = (s.conn? k).map Connection.unflagged := by
  unfold readable
  split
  · split
    · rfl
    · exact unflagged_modifyConn s j k (fun _ => rfl) fun _ => rfl
  · rfl

theorem unflagged_writable (s : Node) (j k : Bytes) :
    ((s.writable j).conn? k).map Connection.unflagged = (s.conn? k).map Connection.unflagged := by
  unfold writable
  split
  · split
    · rfl
    · exact unflagged_modifyConn s j k (fun _ => rfl) fun _ => rfl
  · rfl

theorem unflagged_deliver (s : Node) (pipe : Nat) (signals : List Signal) (k : Bytes) :
    ((s.deliver pipe signals).conn? k).map Connection.unflagged = (s.conn? k).map Connection.unflagged := by
  unfold deliver
  split
  · rfl
  · refine foldl_keeps (fun t => (t.conn? k).map Connection.unflagged) (fun t sig => ?_) signals s
    cases sig <;> dsimp only <;> split <;> simp only [unflagged_readable, unflagged_writable]

/-- Running an operation on a connection's link gives back the operation's result and leaves the
connection holding the link the operation returned, flags aside. -/
theorem onLink_self {β : Type} {s : Node} {k : Bytes} {c : Connection} (hc : s.conn? k = some c)
    (op : Link → WireM (β × Link)) :
    (s.onLink k op).1 = some ((op c.link).run ⟨s.pipe c.pipe, []⟩).1.1 ∧
      ((s.onLink k op).2.conn? k).map Connection.unflagged =
        some ({ c with link := ((op c.link).run ⟨s.pipe c.pipe, []⟩).1.2 } : Connection).unflagged := by
  unfold onLink
  rw [hc]
  dsimp only
  split
  rename_i a l' w' heq
  rw [heq]
  refine ⟨rfl, ?_⟩
  rw [unflagged_deliver, conn?_modifyConn _ _ (by intro; rfl)]
  change ((s.conn? k).map fun c => { c with link := l' }).map _ = _
  rw [hc]
  rfl

section Holds

variable {k : Bytes} {Q : Connection → Prop}

theorem Holds.of_conn? {s t : Node} (h : t.conn? k = s.conn? k) (hs : Holds k Q s) : Holds k Q t :=
  fun c hc => hs c (h ▸ hc)

theorem Holds.of_unflagged (hQ : ∀ c c', c.unflagged = c'.unflagged → Q c → Q c') {s t : Node}
    (h : (t.conn? k).map Connection.unflagged = (s.conn? k).map Connection.unflagged)
    (hs : Holds k Q s) : Holds k Q t := by
  intro c hc
  rw [hc] at h
  obtain ⟨c', hc', hu⟩ := Option.map_eq_some_iff.1 h.symm
  exact hQ c' c hu (hs c' hc')

theorem Holds.modifyConn_self {s : Node} {f : Connection → Connection} (hid : ∀ c, (f c).id = c.id)
    (hf : ∀ c, Q c → Q (f c)) (hs : Holds k Q s) : Holds k Q (s.modifyConn k f) := by
  intro c hc
  rw [conn?_modifyConn _ _ hid] at hc
  obtain ⟨c', hc', rfl⟩ := Option.map_eq_some_iff.1 hc
  exact hf c' (hs c' hc')

theorem Holds.modifyConn_other {s : Node} {j : Bytes} (hjk : j ≠ k) {f : Connection → Connection}
    (hid : ∀ c, (f c).id = c.id) (hs : Holds k Q s) : Holds k Q (s.modifyConn j f) :=
  hs.of_conn? (conn?_modifyConn_other s hjk hid)

theorem Holds.onLink_self (hQ : ∀ c c', c.unflagged = c'.unflagged → Q c → Q c') {β : Type} {s : Node}
    (op : Link → WireM (β × Link))
    (hop : ∀ c, s.conn? k = some c → Q { c with link := ((op c.link).run ⟨s.pipe c.pipe, []⟩).1.2 }) :
    Holds k Q (s.onLink k op).2 := by
  intro c' hc'
  cases hc : s.conn? k with
  | none =>
    have hn : (s.onLink k op).2 = s := by
      unfold onLink
      rw [hc]
    rw [hn, hc] at hc'
    cases hc'
  | some c =>
    have h := (Node.onLink_self hc op).2
    rw [hc'] at h
    exact hQ _ _ (Option.some.inj h).symm (hop c hc)

/-- Tearing `k` down leads from `Q` to `Q'` when a torn-down record with `Q` has `Q'`, and a record
that is not torn down yet gets `Q'` on being marked dead, given a reason and its link closed. -/
theorem Holds.cull_self {Q' : Connection → Prop} (hQ : ∀ c c', c.unflagged = c'.unflagged → Q' c → Q' c')
    {s : Node} (hdead : ∀ c, Q c → c.dead = true → Q' c)
    (hcull : ∀ c r w, Q c → c.dead = false →
      Q' { c with dead := true, reason := r, link := (c.link.close.run w).1 })
    (hs : Holds k Q s) (reason : Bytes) : Holds k Q' (s.cull k reason) := by
  rcases cull_cases s k reason with ⟨h, hdead'⟩ | ⟨c, hc, hd, h⟩ <;> rw [h]
  · exact fun c hc => hdead c (hs c hc) (hdead' c hc)
  have hid : ∀ c : Connection,
      ({ c with dead := true, reason := if c.reason.isEmpty then reason else c.reason } : Connection).id =
        c.id := fun _ => rfl
  have hm : (s.modifyConn k fun c =>
      { c with dead := true, reason := if c.reason.isEmpty then reason else c.reason }).conn? k =
      some { c with dead := true, reason := if c.reason.isEmpty then reason else c.reason } := by
    rw [conn?_modifyConn _ _ hid, hc]
    rfl
  have hl := Holds.onLink_self hQ (s := s.modifyConn k fun c =>
      { c with dead := true, reason := if c.reason.isEmpty then reason else c.reason })
    (fun l => do return ((), ← l.close)) (fun c' hc' => by
      rw [hm] at hc'
      cases hc'
      exact hcull c _ _ (hs c hc) hd)
  exact fun c' hc' => hl c' hc'

/-- The tail of a line, a quit or a flush: `Q'` holds of the record under `k` once a record whose
link closed is torn down, when it holds of a record left open and a torn-down record gets it. -/
theorem Holds.cullClosed {Q' : Connection → Prop} (hQ : ∀ c c', c.unflagged = c'.unflagged → Q' c → Q' c')
    {t : Node} (reason : Connection → Bytes) (ht : Holds k Q t)
    (hopen : ∀ c, Q c → c.link.closed = false → Q' c)
    (hdead : ∀ c, Q c → c.link.closed = true → c.dead = true → Q' c)
    (hcull : ∀ c r w, Q c → c.link.closed = true → c.dead = false →
      Q' { c with dead := true, reason := r, link := (c.link.close.run w).1 }) :
    Holds k Q' (t.cullClosed k reason) := by
  rcases cullClosed_cases t k reason with ⟨h, hopen'⟩ | ⟨c, hc, hcl, h⟩ <;> rw [h]
  · exact fun c hc => hopen c (ht c hc) (hopen' c hc)
  · -- the record torn down is the one found closed
    refine Holds.cull_self (Q := fun c' => Q c' ∧ c'.link.closed = true) hQ
      (fun c' h hd => hdead c' h.1 h.2 hd) (fun c' r w h hd => hcull c' r w h.1 h.2 hd)
      (fun c' hc' => ?_) (reason c)
    rw [hc] at hc'
    cases hc'
    exact ⟨ht c hc, hcl⟩

end Holds

theorem own_holds {j k : Bytes} {Q : Connection → Prop} (hQ : ∀ c c', c.unflagged = c'.unflagged → Q c → Q c')
    (hjk : j ≠ k) : Own j (Holds k Q) where
  modifyConn _ _ hid _ hs := hs.modifyConn_other hjk hid
  setPipe _ _ _ hs := hs.of_conn? rfl
  posting s k' _ _ hs := hs.of_unflagged hQ (unflagged_modifyConn s k' k (by intro; rfl) (by intro; rfl))
  posted _ _ hs := hs.of_conn? rfl
  culled _ _ hs := hs.of_conn? rfl
  counters _ _ hs := hs.of_conn? rfl

theorem conn?_count (s : Node) (out : StepOutcome) (k : Bytes) : (s.count out).2.conn? k = s.conn? k := by
  cases out <;> rfl

theorem conn?_of_filter {t u : Node} (hu : (t.conns.map (·.id)).Nodup) {p : Connection → Bool}
    (hc : u.conns = t.conns.filter p) {k : Bytes} {c : Connection} (h : u.conn? k = some c) :
    t.conn? k = some c := by
  have hm : c ∈ u.conns := List.mem_of_find?_eq_some h
  have hid : c.id = k := by simpa using List.find?_some h
  rw [hc] at hm
  exact (conn?_eq_some_iff hu).2 ⟨(List.mem_filter.1 hm).1, hid⟩

theorem create_open {layers : List LayerSpec} {limits : Limits} {w : Wire} {l : Link} {w' : Wire}
    (h : (Link.create layers limits).run w = (.ok l, w')) : l.closing = false ∧ l.closed = false := by
  unfold Link.create at h
  split at h
  · simp only [StateT.run_pure] at h
    cases (Prod.mk.inj h).1
  · simp only [StateT.run_bind, Socket.attach, StateT.run_pure] at h
    cases (Prod.mk.inj h).1
    exact ⟨rfl, rfl⟩

/-- One operation of a run: a loop operation, a move of the worker pool, a step of shutdown, or
what a client, the clock or an operator does, as `Reachable` lists them. -/
inductive Next : Node → Node → Prop
  | openPipe (s : Node) (capacity : Int) : Next s (s.openPipe capacity).2
  | attach (s : Node) (layers : List LayerSpec) (pipe : Nat) (remote listener : Bytes) (release : Option Nat) :
      Next s (s.attach layers pipe remote listener release).2
  | submit (s : Node) (id raw : Bytes) : Next s (s.submit id raw)
  | enqueue (s : Node) (id name : Bytes) (params : List Bytes) : Next s (s.enqueue id name params).2
  | tick (s : Node) : Next s s.tick.2
  | poll (s : Node) : Next s s.poll
  | housekeep (s : Node) (now : Int) : Next s (s.housekeep now)
  | peer (s : Node) (pipe : Nat) (p : Pipe) (signals : List Signal) :
      Next s ((s.setPipe pipe p).deliver pipe signals)
  | clock (s : Node) (now : Int) : Next s { s with now := now }
  | services (s : Node) (f : Services → Services) : Next s (s.modifyServices f)
  | startPool (s : Node) : Next s s.startPool
  | stopPool (s : Node) : Next s s.stopPool
  | takeJob (s : Node) : Next s s.takeJob
  | finishJob (s : Node) (j : Job) : Next s (s.finishJob j)
  | beginShutdown (s : Node) : Next s s.beginShutdown
  | shutdownRound (s : Node) : Next s s.shutdownRound
  | endShutdown (s : Node) : Next s s.endShutdown

theorem Reachable.next {s t : Node} (hs : s.Reachable) (h : Next s t) : t.Reachable := by
  cases h with
  | openPipe capacity => exact .openPipe capacity hs
  | attach layers pipe remote listener release => exact .attach layers pipe remote listener release hs
  | submit id raw => exact .submit id raw hs
  | enqueue id name params => exact .enqueue id name params hs
  | tick => exact .tick hs
  | poll => exact .poll hs
  | housekeep now => exact .housekeep now hs
  | peer pipe p signals => exact .peer pipe p signals hs
  | clock now => exact .clock now hs
  | services f => exact .services f hs
  | startPool => exact .startPool hs
  | stopPool => exact .stopPool hs
  | takeJob => exact .takeJob hs
  | finishJob j => exact .finishJob j hs
  | beginShutdown => exact .beginShutdown hs
  | shutdownRound => exact .shutdownRound hs
  | endShutdown => exact .endShutdown hs

theorem Reachable.follow {s t : Node} (hs : s.Reachable) (h : Relation.ReflTransGen Next s t) :
    t.Reachable := by
  induction h with
  | refl => exact hs
  | tail _ hut ih => exact ih.next hut

theorem draws_sessions_of_lineup {s t : Node} (hl : t.lineup = s.lineup) :
    t.draws = s.draws ∧ s.sessions ≤ t.sessions :=
  ⟨draws_eq_of_lineup hl, (sessions_eq_of_lineup hl).ge⟩

theorem draws_sessions_of_reap {s t : Node} (hl : t.lineup = s.lineup) :
    t.reap.draws = s.draws ∧ s.sessions ≤ t.reap.sessions := by
  rw [reap_draws, reap_sessions]
  exact draws_sessions_of_lineup hl

theorem Next.draws_sessions {s t : Node} (h : Next s t) : t.draws = s.draws ∧ s.sessions ≤ t.sessions := by
  cases h with
  | attach layers pipe remote listener release => exact ⟨draws_attach .., sessions_le_attach ..⟩
  | submit id raw => exact draws_sessions_of_lineup (keeps_lineup.submit ..)
  | enqueue id name params => exact draws_sessions_of_lineup (keeps_lineup.enqueue ..)
  | tick => exact draws_sessions_of_lineup (keeps_lineup.tick _)
  | poll => exact draws_sessions_of_reap (keeps_lineup.beforeReap s)
  | housekeep now => exact draws_sessions_of_reap (keeps_lineup.housekeepRound s now)
  | peer pipe p signals => exact draws_sessions_of_lineup ((keeps_lineup.deliver ..).trans (keeps_lineup.setPipe ..))
  | takeJob => exact draws_sessions_of_lineup (keeps_lineup.takeJob _)
  | finishJob j => exact draws_sessions_of_lineup (keeps_lineup.finishJob ..)
  | beginShutdown => exact draws_sessions_of_lineup (keeps_lineup.beginShutdown _)
  | shutdownRound => exact draws_sessions_of_reap (keeps_lineup.runPosted s)
  | endShutdown => exact draws_sessions_of_reap (keeps_lineup.cullAll s _)
  | openPipe | clock | services | startPool | stopPool => exact ⟨rfl, Nat.le_refl _⟩

theorem draws_sessions_of_follow {s t : Node} (h : Relation.ReflTransGen Next s t) :
    t.draws = s.draws ∧ s.sessions ≤ t.sessions := by
  induction h with
  | refl => exact ⟨rfl, Nat.le_refl _⟩
  | tail _ hut ih => exact ⟨hut.draws_sessions.1.trans ih.1, Nat.le_trans ih.2 hut.draws_sessions.2⟩

theorem distinct_of_follow {s t : Node} (h : Relation.ReflTransGen Next s t)
    (hd : t.draws.Distinct t.sessions) : s.draws.Distinct s.sessions := by
  obtain ⟨hdr, hle⟩ := draws_sessions_of_follow h
  rw [hdr] at hd
  exact hd.mono hle

/-- What a property of the record under `k` needs for every operation of a run to keep it: it is
blind to readiness flags, dropping the record's queue keeps it, and so do the operations the loop
runs for `k` itself, the answer to its offloaded work and shutdown's closing and tearing down
included. What is done for any other connection leaves the record alone. -/
structure Guard (k : Bytes) (Q : Connection → Prop) : Prop where
  flags : ∀ c c', c.unflagged = c'.unflagged → Q c → Q c'
  discard : ∀ c, Q c → Q { c with queue := c.queue.discard }
  send : ∀ s line, Holds k Q s → Holds k Q (s.send k line)
  submit : ∀ s raw, Holds k Q s → Holds k Q (s.submit k raw)
  enqueue : ∀ s name params, Holds k Q s → Holds k Q (s.enqueue k name params).2
  onReadable : ∀ s, Holds k Q s → Holds k Q (s.onReadable k)
  onWritable : ∀ s, Holds k Q s → Holds k Q (s.onWritable k)
  step : ∀ s c locked, s.conn? k = some c → c.closed = false → Holds k Q s →
    Holds k Q ((runner k).step locked s).2
  applyWork : ∀ s found, Holds k Q s → Holds k Q (s.applyWork k found)
  housekeepOne : ∀ s now, Holds k Q s → Holds k Q (s.housekeepOne now k)
  closeIfOpen : ∀ s reason, Holds k Q s → Holds k Q (s.closeIfOpen k reason)
  cull : ∀ s reason, Holds k Q s → Holds k Q (s.cull k reason)

namespace Guard

variable {k : Bytes} {Q : Connection → Prop} (hg : Guard k Q)
include hg

theorem own {j : Bytes} (hjk : j ≠ k) : Own j (Holds k Q) :=
  own_holds hg.flags hjk

theorem acts {j : Bytes} (hjk : j ≠ k) : Acts j (Holds k Q) where
  toOwn := hg.own hjk
  sendTo s k' line hs := by
    by_cases h : k' = k
    · subst h
      exact hg.send s line hs
    · exact (hg.own h).send s line hs
  services _ _ hs := hs.of_conn? rfl
  pool _ _ _ _ _ hs := hs.of_conn? rfl
  parked _ _ hs := hs.of_conn? rfl

theorem visit (acc : (Nat × Node) × List StepCall) (j : Bytes) (hs : Holds k Q acc.1.2) :
    Holds k Q (visitLogged acc j).1.2 := by
  obtain ⟨⟨worked, s⟩, log⟩ := acc
  dsimp only [visitLogged]
  split
  · exact hs
  · rename_i c hc
    split
    · exact hs
    · rename_i hcl
      have hstep : Holds k Q ((runner j).step (decide (c.locked > 0)) s).2 := by
        by_cases hjk : j = k
        · subst hjk
          exact hg.step s c _ hc (by simpa using hcl) hs
        · exact (hg.acts hjk).step (fun t _ _ ht => ht.modifyConn_other hjk (by intro; rfl)) _ s hs
      exact hstep.of_conn? (conn?_count _ _ k)

theorem tick (s : Node) (hs : Holds k Q s) : Holds k Q s.tick.2 := by
  rw [← tickLog_fst, tickLog]
  refine foldl_preserves (fun acc : (Nat × Node) × List StepCall => Holds k Q acc.1.2)
    (fun acc j h => hg.visit acc j h) _ _ ?_
  exact hs.of_conn? rfl

theorem runPosted (s : Node) (hs : Holds k Q s) : Holds k Q s.runPosted := by
  unfold Node.runPosted
  refine foldl_preserves (Holds k Q) (fun t p ht => ?_) _ _ (hs.of_conn? rfl)
  cases p with
  | readable j =>
    have h₁ : Holds k Q (t.modifyConn j fun c => { c with readPosted := false }) :=
      ht.of_unflagged hg.flags (unflagged_modifyConn t j k (by intro; rfl) (by intro; rfl))
    by_cases hjk : j = k
    · subst hjk
      exact hg.onReadable _ h₁
    · exact (hg.own hjk).onReadable _ h₁
  | writable j =>
    have h₁ : Holds k Q (t.modifyConn j fun c => { c with writePosted := false }) :=
      ht.of_unflagged hg.flags (unflagged_modifyConn t j k (by intro; rfl) (by intro; rfl))
    by_cases hjk : j = k
    · subst hjk
      exact hg.onWritable _ h₁
    · exact (hg.own hjk).onWritable _ h₁
  | completion job found =>
    by_cases hjk : job.conn = k
    · rw [Node.runPost, hjk]
      exact hg.applyWork t found ht
    · exact (hg.acts hjk).applyWork t found ht

theorem housekeepOne_any (s : Node) (now : Int) (j : Bytes) (hs : Holds k Q s) :
    Holds k Q (s.housekeepOne now j) := by
  by_cases hjk : j = k
  · subst hjk
    exact hg.housekeepOne s now hs
  cases hc : s.conn? j with
  | none =>
    have hn : s.housekeepOne now j = s := by
      unfold Node.housekeepOne
      rw [hc]
    rw [hn]
    exact hs
  | some c =>
    have hid : c.id = j := by simpa using List.find?_some hc
    rw [housekeepOne_eq now hc]
    exact hs.of_unflagged hg.flags (TimerAction.perform_other _ s now c (hid ▸ hjk))

theorem closeOpen (s : Node) (reason : Bytes) (hs : Holds k Q s) : Holds k Q (s.closeOpen reason) := by
  refine foldl_preserves (Holds k Q) (fun t j ht => ?_) _ s hs
  by_cases hjk : j = k
  · subst hjk
    exact hg.closeIfOpen t reason ht
  · exact (hg.own hjk).closeIfOpen t reason ht

theorem cullAll (s : Node) (reason : Bytes) (hs : Holds k Q s) : Holds k Q (s.cullAll reason) := by
  refine foldl_preserves (Holds k Q) (fun t j ht => ?_) _ s hs
  by_cases hjk : j = k
  · subst hjk
    exact hg.cull t reason ht
  · exact (hg.own hjk).cull t reason ht

theorem reap (s : Node) (hu : (s.conns.map (·.id)).Nodup) (hs : Holds k Q s) : Holds k Q s.reap := by
  rw [reap_eq]
  split
  · exact hs
  · -- each removal drops a queue and runs a close hook
    have hfold : Holds k Q (s.culled.foldl reapOne s) := by
      refine foldl_preserves (Holds k Q) (fun t j ht => ?_) _ _ hs
      have hq : Holds k Q (t.modifyQueue j (·.discard)) := by
        by_cases hjk : j = k
        · subst hjk
          exact ht.modifyConn_self (by intro; rfl) hg.discard
        · exact ht.modifyConn_other hjk (by intro; rfl)
      exact hq.of_conn? rfl
    have hids : ((s.culled.foldl reapOne s).conns.map (·.id)) = s.conns.map (·.id) :=
      ids_of_frame (foldl_keeps frame (f := reapOne) (fun t j => frame_modifyQueue t j (·.discard)) s.culled s)
    intro c hc
    exact hfold c (conn?_of_filter (hids ▸ hu) rfl hc)

theorem refuse (s : Node) (layers : List LayerSpec) (pipe : Nat) (release : Option Nat) (hs : Holds k Q s) :
    Holds k Q (s.refuse layers pipe release) :=
  Holds.of_unflagged hg.flags (unflagged_deliver _ _ _ k) (hs.of_conn? rfl)

/-- Attaching keeps the property when the new connection's id is not `k`, or when the property
holds of a fresh record: open, with a link neither closing nor closed. -/
theorem attach (s : Node) (layers : List LayerSpec) (pipe : Nat) (remote listener : Bytes)
    (release : Option Nat)
    (hnew : s.sessions < (s.attach layers pipe remote listener release).2.sessions →
      s.draws.id (s.sessions + 1) = k → ∀ c : Connection, c.closed = false →
      c.link.closing = false → c.link.closed = false → Q c)
    (hs : Holds k Q s) : Holds k Q (s.attach layers pipe remote listener release).2 := by
  rcases attach_cases s layers pipe remote listener release with
    ⟨-, h⟩ | ⟨-, e, h⟩ | ⟨-, link, wire, hmade, h⟩ <;> rw [h] at hnew ⊢
  · exact hg.refuse s layers pipe release hs
  · exact hg.refuse _ layers pipe release (hs.of_conn? rfl)
  · obtain ⟨hclosing, hclosed⟩ := create_open hmade
    have hmore : s.sessions < (((({ s with sessions := s.sessions + 1 } : Node).accept
        (({ s with sessions := s.sessions + 1 } : Node).fresh (s.sessions + 1) remote listener link pipe release)
        wire.pipe).deliver pipe wire.signals).readable (s.draws.id (s.sessions + 1))).sessions := by
      rw [sessions_eq_of_lineup (lineup_readable_deliver ..)]
      exact Nat.lt_succ_self _
    refine Holds.of_unflagged hg.flags (unflagged_readable _ _ k) ?_
    refine Holds.of_unflagged hg.flags (unflagged_deliver _ _ _ k) ?_
    -- the connections already there are found first; the new one is found only by its own id
    intro c hc
    simp only [conn?, conns_accept, List.find?_append] at hc
    cases h₁ : s.conns.find? (·.id == k) with
    | some c' =>
      rw [h₁] at hc
      cases hc
      exact hs c h₁
    | none =>
      rw [h₁, Option.none_or, List.find?_cons, List.find?_nil] at hc
      split at hc
      · rename_i hid
        cases hc
        exact hnew hmore (beq_iff_eq.1 hid) _ rfl hclosing hclosed
      · cases hc

/-- One operation of a run from a reachable node keeps the property, the draws being distinct
after it. -/
theorem next {s t : Node} (hs : s.Reachable) (hd : t.draws.Distinct t.sessions) (h : Next s t)
    (hnew : s.sessions < t.sessions → s.draws.id (s.sessions + 1) = k → ∀ c : Connection,
      c.closed = false → c.link.closing = false → c.link.closed = false → Q c)
    (hq : Holds k Q s) : Holds k Q t := by
  cases h with
  | openPipe capacity => exact hq.of_conn? rfl
  | attach layers pipe remote listener release => exact hg.attach s layers pipe remote listener release hnew hq
  | submit j raw =>
    by_cases hjk : j = k
    · subst hjk
      exact hg.submit s raw hq
    · exact (hg.own hjk).submit s raw hq
  | enqueue j name params =>
    by_cases hjk : j = k
    · subst hjk
      exact hg.enqueue s name params hq
    · exact (hg.own hjk).enqueue s name params hq
  | tick => exact hg.tick s hq
  | poll =>
    -- the reap at the end of the turn needs distinct ids, which the turn keeps
    exact hg.reap _ (reap_nodup hs (keeps_lineup.beforeReap s) hd)
      (hg.runPosted _ (hg.tick _ (hg.runPosted s hq)))
  | housekeep now =>
    exact hg.reap _ (reap_nodup hs (keeps_lineup.housekeepRound s now) hd)
      (foldl_preserves (Holds k Q) (fun t j ht => hg.housekeepOne_any t now j ht) _ s hq)
  | peer pipe p signals => exact hq.of_unflagged hg.flags (unflagged_deliver _ _ _ k)
  | clock now => exact hq.of_conn? rfl
  | services f => exact hq.of_conn? rfl
  | startPool => exact hq.of_conn? rfl
  | stopPool => exact hq.of_conn? rfl
  | takeJob => exact hq.of_conn? (by unfold conn?; rw [conns_takeJob])
  | finishJob j => exact hq.of_conn? (by unfold conn?; rw [conns_finishJob])
  | beginShutdown => exact hg.closeOpen _ _ (hg.runPosted _ (hq.of_conn? rfl))
  | shutdownRound => exact hg.reap _ (reap_nodup hs (keeps_lineup.runPosted s) hd) (hg.runPosted s hq)
  | endShutdown => exact hg.reap _ (reap_nodup hs (keeps_lineup.cullAll s _) hd) (hg.cullAll s _ hq)

/-- Every run from a reachable node keeps the property, the draws being distinct after it, when
every session it opens is fresh to it or the property holds of a fresh record. -/
theorem run {s t : Node} (hs : s.Reachable) (h : Relation.ReflTransGen Next s t)
    (hd : t.draws.Distinct t.sessions)
    (hnew : ∀ u : Node, s.sessions ≤ u.sessions → u.draws = s.draws → u.sessions < t.sessions →
      u.draws.id (u.sessions + 1) = k →
      ∀ c : Connection, c.closed = false → c.link.closing = false → c.link.closed = false → Q c)
    (hq : Holds k Q s) : Holds k Q t := by
  induction h with
  | refl => exact hq
  | @tail u v hsu huv ih =>
    obtain ⟨hdr, hle⟩ := huv.draws_sessions
    have hdu : u.draws.Distinct u.sessions := by
      rw [hdr] at hd
      exact hd.mono hle
    obtain ⟨hdu', hleu⟩ := draws_sessions_of_follow hsu
    exact hg.next (hs.follow hsu) hd huv
      (fun hlt => hnew u hleu hdu' hlt)
      (ih hdu (fun w hw hdw hlt => hnew w hw hdw (Nat.lt_of_lt_of_le hlt hle)))

end Guard

/-! ## Nothing more for a stopped connection -/

section Closed

variable {s : Node} {k : Bytes}

theorem submit_of_stopped (h : ∀ c, s.conn? k = some c → c.closed = true) (raw : Bytes) :
    s.submit k raw = s := by
  unfold Node.submit
  cases hc : s.conn? k with
  | none => rfl
  | some c => exact if_pos (h c hc)

theorem enqueue_of_stopped (h : ∀ c, s.conn? k = some c → c.closed = true) (name : Bytes)
    (params : List Bytes) : (s.enqueue k name params).2 = s := by
  unfold Node.enqueue
  cases hc : s.conn? k with
  | none => rfl
  | some c =>
    dsimp only
    rw [if_pos (h c hc)]

theorem onReadable_of_stopped (h : ∀ c, s.conn? k = some c → c.closed = true) : s.onReadable k = s := by
  unfold Node.onReadable
  cases hc : s.conn? k with
  | none => rfl
  | some c => exact if_pos (h c hc)

end Closed

end Node

namespace Connection

variable {c₀ c c' : Connection}

theorem eq_of_unflagged (hu : c.unflagged = c'.unflagged) :
    c'.dead = c.dead ∧ c'.closed = c.closed ∧ c'.link = c.link ∧ c'.queue = c.queue ∧ c'.quitting = c.quitting := by
  have hd : c'.dead = c.dead := congrArg (·.dead) hu.symm
  have hq : c'.quitting = c.quitting := congrArg (·.quitting) hu.symm
  exact ⟨hd, by rw [Connection.closed, Connection.closed, hd, hq], congrArg (·.link) hu.symm,
    congrArg (·.queue) hu.symm, hq⟩

theorem blind {R : Bool → Bool → Link → Prop} (c c' : Connection) (hu : c.unflagged = c'.unflagged)
    (h : R c.dead c.quitting c.link) : R c'.dead c'.quitting c'.link := by
  obtain ⟨hd, -, hl, -, hq⟩ := eq_of_unflagged hu
  rw [hd, hq, hl]
  exact h

theorem Stopped.of_unflagged (h : c₀.Stopped c) (hu : c.unflagged = c'.unflagged) : c₀.Stopped c' := by
  obtain ⟨-, hc, hl, hq, -⟩ := eq_of_unflagged hu
  exact ⟨hc ▸ h.closed, hl ▸ h.mute, hq ▸ h.pending, hq ▸ h.buffer, hl ▸ h.drains⟩

theorem Stopped.drain (h : c₀.Stopped c) {l : Link} (hd : c.link.Drains l) : c₀.Stopped { c with link := l } where
  closed := h.closed
  mute := h.mute.imp hd.closing hd.closed
  pending := h.pending
  buffer := h.buffer
  drains := h.drains.trans hd

theorem Stopped.cull (h : c₀.Stopped c) (r : Bytes) (w : Wire) :
    c₀.Stopped { c with dead := true, reason := r, link := (c.link.close.run w).1 } :=
  have hd := h.drain (Link.close_drains c.link w)
  ⟨by simp [Connection.closed], hd.mute, hd.pending, hd.buffer, hd.drains⟩

theorem Stopped.discard (h : c₀.Stopped c) : c₀.Stopped { c with queue := c.queue.discard } :=
  ⟨h.closed, h.mute, List.nil_sublist _, List.nil_sublist _, h.drains⟩

def Settling (c : Connection) : Prop := c.Sane ∨ (c.dead = false ∧ c.link.closed = true)

theorem Sane.of_unflagged (h : c.Sane) (hu : c.unflagged = c'.unflagged) : c'.Sane := by
  obtain ⟨-, hc, hl, -, -⟩ := eq_of_unflagged hu
  unfold Sane at h ⊢
  rw [hc, hl]
  exact h

theorem Settling.of_unflagged (h : c.Settling) (hu : c.unflagged = c'.unflagged) : c'.Settling := by
  obtain ⟨hd, -, hl, -, -⟩ := eq_of_unflagged hu
  rcases h with h | ⟨hd', hc⟩
  · exact .inl (h.of_unflagged hu)
  · exact .inr ⟨hd ▸ hd', hl ▸ hc⟩

theorem Settling.sane (h : c.Settling) (hopen : c.link.closed = false) : c.Sane := by
  rcases h with h | ⟨-, hc⟩
  · exact h
  · rw [hopen] at hc
    cases hc

theorem Sane.open (h : c.Sane) (hlive : c.closed = false) : c.link.closing = false ∧ c.link.closed = false := by
  unfold Sane at h
  rw [hlive] at h
  simpa using h.symm

theorem Settling.sane_of_dead (h : c.Settling) (hd : c.dead = true) : c.Sane := by
  rcases h with h | ⟨hd', -⟩
  · exact h
  · rw [hd] at hd'
    cases hd'

theorem sane_of_quitting (hq : c.quitting = true) (hcl : c.link.closing = true) : c.Sane := by
  simp [Sane, Connection.closed, hq, hcl]

theorem sane_of_dead (hd : c.dead = true) (hc : c.link.closed = true) : c.Sane := by
  simp [Sane, Connection.closed, hd, hc]

theorem Settling.link (h : c.Settling) {l : Link} (hcl : l.closing = c.link.closing)
    (hc : c.link.closed = true → l.closed = true) : ({ c with link := l } : Connection).Settling := by
  rcases h with h | ⟨hd, hc'⟩
  · by_cases hl : l.closed = true
    · -- the link closed: torn down already, or to be torn down next
      cases c.dead
      · exact .inr ⟨rfl, hl⟩
      · exact .inl (Connection.sane_of_dead rfl hl)
    · -- still open, and it was open before
      have hopen : c.link.closed = false := by
        cases h' : c.link.closed
        · rfl
        · exact absurd (hc h') hl
      left
      show c.closed = (l.closing || l.closed)
      unfold Sane at h
      rw [h, hopen, hcl, show l.closed = false by simpa using hl]
  · exact .inr ⟨hd, hc hc'⟩

theorem Stopped.refl (hcl : c.closed = true) (hmute : c.link.closing = true ∨ c.link.closed = true) :
    c.Stopped c :=
  ⟨hcl, hmute, List.Sublist.refl _, List.Sublist.refl _, Link.Drains.refl _⟩

end Connection

namespace Node

section Stopped

variable {c₀ : Connection} {k : Bytes}

theorem Holds.closed {s : Node} (hs : Holds k c₀.Stopped s) : ∀ c, s.conn? k = some c → c.closed = true :=
  fun c hc => (hs c hc).closed

theorem cull_stopped (s : Node) (reason : Bytes) (hs : Holds k c₀.Stopped s) :
    Holds k c₀.Stopped (s.cull k reason) :=
  Holds.cull_self (fun _ _ hu h => h.of_unflagged hu) (fun _ h _ => h) (fun _ r w h _ => h.cull r w) hs reason

theorem cullClosed_stopped (s : Node) (reason : Connection → Bytes) (hs : Holds k c₀.Stopped s) :
    Holds k c₀.Stopped (s.cullClosed k reason) :=
  cullClosed_of reason hs fun r => cull_stopped s r hs

theorem send_stopped (s : Node) (line : Bytes) (hs : Holds k c₀.Stopped s) :
    Holds k c₀.Stopped (s.send k line) := by
  rcases send_cases s k line with ⟨h, -⟩ | ⟨c, hc, -, hcl, h⟩ <;> rw [h]
  · exact hs
  have hst := hs c hc
  have hclosed : c.link.closed = true := hst.mute.resolve_left (by simp [hcl])
  have hl : Holds k c₀.Stopped (s.onLink k fun l => do return ((), ← l.write line)).2 :=
    Holds.onLink_self (fun _ _ hu h => h.of_unflagged hu) _ fun c' hc' => by
      rw [hc] at hc'
      cases hc'
      refine hst.drain ?_
      simp only [StateT.run_bind, Link.write_closed hclosed, StateT.run_pure]
      exact Link.Drains.refl _
  exact cullClosed_stopped _ _ hl

theorem onWritable_stopped (s : Node) (hs : Holds k c₀.Stopped s) : Holds k c₀.Stopped (s.onWritable k) := by
  rcases onWritable_cases s k with ⟨h, -⟩ | ⟨c, hc, -, hcase⟩
  · rw [h]
    exact hs
  -- the flush only drains the link
  have hl : Holds k c₀.Stopped (s.onLink k fun l => l.flush).2 :=
    Holds.onLink_self (fun _ _ hu h => h.of_unflagged hu) _ fun c' hc' => by
      rw [hc] at hc'
      cases hc'
      rcases hr : c.link.flush.run ⟨s.pipe c.pipe, []⟩ with ⟨⟨r, l'⟩, w'⟩
      exact (hs c hc).drain (Link.flush_drains hr).1
  rcases hcase with ⟨e, -, h⟩ | ⟨-, h⟩ <;> rw [h]
  · exact cull_stopped _ _ hl
  · exact cullClosed_stopped _ _ hl

theorem housekeepOne_stopped (s : Node) (now : Int) (hs : Holds k c₀.Stopped s) :
    Holds k c₀.Stopped (s.housekeepOne now k) := by
  cases hc : s.conn? k with
  | none =>
    have hn : s.housekeepOne now k = s := by
      unfold Node.housekeepOne
      rw [hc]
    rw [hn]
    exact hs
  | some c =>
    have hid : c.id = k := by simpa using List.find?_some hc
    have hcl := (hs c hc).closed
    rw [housekeepOne_eq now hc]
    unfold timerAction
    by_cases hd : c.dead = true
    · simp only [hd, if_true]
      exact hs
    · have hq : c.quitting = true := by simpa [Connection.closed, hd] using hcl
      simp only [hd, hq, Bool.false_eq_true, if_false, if_true]
      split
      · rw [TimerAction.perform, hid]
        exact cull_stopped _ _ hs
      · exact hs

theorem answers_stopped (k : Bytes) (c₀ : Connection) : Answers k (Holds k c₀.Stopped) where
  modifySession _ _ hid _ hs := hs.modifyConn_self (fun c => hid c.session) fun _ h =>
    ⟨h.closed, h.mute, h.pending, h.buffer, h.drains⟩
  sendTo s j line hs := by
    by_cases h : j = k
    · subst h
      exact send_stopped s line hs
    · exact (own_holds (fun _ _ hu h => Connection.Stopped.of_unflagged h hu) h).send s line hs
  parked _ _ hs := hs.of_conn? rfl

theorem guard_stopped (k : Bytes) (c₀ : Connection) : Guard k c₀.Stopped where
  flags _ _ hu h := h.of_unflagged hu
  discard _ h := h.discard
  send := send_stopped
  submit s raw hs := by rw [submit_of_stopped hs.closed]; exact hs
  enqueue s name params hs := by rw [enqueue_of_stopped hs.closed]; exact hs
  onReadable s hs := by rw [onReadable_of_stopped hs.closed]; exact hs
  onWritable := onWritable_stopped
  step s c _ hc hcl hs := absurd (hs c hc).closed (by simp [hcl])
  applyWork s found hs := (answers_stopped k c₀).answerWork _ found
    (hs.modifyConn_self (fun _ => rfl) fun _ h => ⟨h.closed, h.mute, h.pending, h.buffer, h.drains⟩)
  housekeepOne := housekeepOne_stopped
  closeIfOpen s reason hs := by
    unfold Node.closeIfOpen
    split
    · rename_i c hc
      rw [if_pos (hs c hc).closed]
      exact hs
    · exact hs
  cull := cull_stopped

end Stopped

/-! ## A connection is stopped exactly when its link is closing or closed -/

section Sane

variable {k : Bytes}

theorem Holds.settling {s : Node} (hs : Holds k Connection.Sane s) : Holds k Connection.Settling s :=
  fun c hc => .inl (hs c hc)

theorem Holds.sane_of_open {t : Node} (ht : Holds k Connection.Settling t)
    (hopen : ∀ c, t.conn? k = some c → c.link.closed = false) : Holds k Connection.Sane t :=
  fun c hc => (ht c hc).sane (hopen c hc)

theorem Holds.reject {Q : Connection → Prop} {t : Node} (ht : Holds k Q t) : Holds k Q t.reject :=
  ht.of_conn? rfl

theorem Holds.of_none {Q : Connection → Prop} {t : Node} (hc : t.conn? k = none) : Holds k Q t := by
  intro c h
  rw [hc] at h
  cases h

theorem onLink_settling {β : Type} (s : Node) (op : Link → WireM (β × Link))
    (hop : ∀ l w, ((op l).run w).1.2.closing = l.closing ∧ (l.closed = true → ((op l).run w).1.2.closed = true))
    (hs : Holds k Connection.Settling s) : Holds k Connection.Settling (s.onLink k op).2 :=
  Holds.onLink_self (fun _ _ hu h => h.of_unflagged hu) op fun c hc => (hs c hc).link (hop _ _).1 (hop _ _).2

theorem cull_sane (s : Node) (reason : Bytes) (hs : Holds k Connection.Settling s) :
    Holds k Connection.Sane (s.cull k reason) :=
  Holds.cull_self (fun _ _ hu h => h.of_unflagged hu) (fun _ h hd => h.sane_of_dead hd)
    (fun c _ w _ _ => Connection.sane_of_dead rfl (Link.close_closed c.link w)) hs reason

theorem cullClosed_sane (t : Node) (reason : Connection → Bytes) (ht : Holds k Connection.Settling t) :
    Holds k Connection.Sane (t.cullClosed k reason) := by
  rcases cullClosed_cases t k reason with ⟨h, hopen⟩ | ⟨c, -, -, h⟩ <;> rw [h]
  · exact ht.sane_of_open hopen
  · exact cull_sane _ _ ht

theorem send_sane (s : Node) (line : Bytes) (hs : Holds k Connection.Sane s) :
    Holds k Connection.Sane (s.send k line) := by
  rcases send_cases s k line with ⟨h, -⟩ | ⟨c, -, -, -, h⟩ <;> rw [h]
  · exact hs
  · exact cullClosed_sane _ _
      (onLink_settling s _ (fun l w => Link.write_settles l line w) hs.settling)

theorem quit_sane (s : Node) (reason : Bytes) (hs : Holds k Connection.Sane s) :
    Holds k Connection.Sane (s.quit k reason) := by
  rcases quit_cases s k reason with ⟨h, -⟩ | ⟨c, hc, hlive, h⟩ <;> rw [h]
  · exact hs
  have hopen := (hs c hc).open hlive
  have hm : (s.modifyConn k fun c =>
      { c with quitting := true, quitAt := s.now, reason := reason, queue := c.queue.discard }).conn? k =
      some { c with quitting := true, quitAt := s.now, reason := reason, queue := c.queue.discard } := by
    rw [conn?_modifyConn _ _ (by intro; rfl), hc]
    rfl
  have hl : Holds k Connection.Sane ((s.modifyConn k fun c =>
      { c with quitting := true, quitAt := s.now, reason := reason, queue := c.queue.discard }).onLink k
      fun l => do return ((), ← l.closeAfterFlush)).2 :=
    Holds.onLink_self (fun _ _ hu h => h.of_unflagged hu) _ fun c' hc' => by
      rw [hm] at hc'
      cases hc'
      exact Connection.sane_of_quitting rfl (Link.closeAfterFlush_closing hopen.2 _)
  exact cullClosed_sane _ _ hl.settling

theorem closeLink_sane (s : Node) (reason : Bytes) (hs : Holds k Connection.Sane s) :
    Holds k Connection.Sane (s.closeLink k reason) :=
  quit_sane _ _ (send_sane s _ hs)

theorem modify_sane (s : Node) {f : Connection → Connection} (hid : ∀ c, (f c).id = c.id)
    (hf : ∀ c, (f c).closed = c.closed ∧ (f c).link.closing = c.link.closing ∧ (f c).link.closed = c.link.closed)
    (hs : Holds k Connection.Sane s) : Holds k Connection.Sane (s.modifyConn k f) :=
  hs.modifyConn_self hid fun c h => by
    obtain ⟨h₁, h₂, h₃⟩ := hf c
    unfold Connection.Sane at h ⊢
    rw [h₁, h₂, h₃]
    exact h

theorem enqueue_sane (s : Node) (name : Bytes) (params : List Bytes) (hs : Holds k Connection.Sane s) :
    Holds k Connection.Sane (s.enqueue k name params).2 := by
  have hq : ∀ f : Queue → Queue, Holds k Connection.Sane (s.modifyQueue k f) := fun f =>
    modify_sane s (by intro; rfl) (fun _ => ⟨rfl, rfl, rfl⟩) hs
  unfold enqueue
  split
  · exact hs
  · split
    · exact hs
    · dsimp only
      split <;> dsimp only
      · exact hq _
      · exact (hq _).reject
      · exact closeLink_sane _ _ (hq _)

theorem drain_sane (s : Node) (fuel : Nat) (hs : Holds k Connection.Sane s) :
    Holds k Connection.Sane (s.drain k fuel) := by
  induction fuel generalizing s with
  | zero => exact hs
  | succ fuel ih =>
    -- every round frames one line and recurs on what the line left
    have hrecv : ∀ (t : Node) rest, Holds k Connection.Sane t →
        Holds k Connection.Sane (t.modifyConn k fun c => { c with link := { c.link with recv := rest } }) :=
      fun t _ ht => modify_sane t (by intro; rfl) (fun _ => ⟨rfl, rfl, rfl⟩) ht
    have hrej : ∀ t : Node, Holds k Connection.Sane t → Holds k Connection.Sane t.reject :=
      fun _ ht => ht.reject
    unfold Node.drain
    split
    · exact hs
    · split
      · exact hs
      · dsimp only
        split
        · exact closeLink_sane _ _ (hrej _ hs)
        · exact ih _ (hrej _ (hrecv _ _ hs))
        · exact hs
        · split
          · exact ih _ (hrecv _ _ hs)
          · split
            · exact ih _ (hrej _ (hrecv _ _ hs))
            · rename_i text rest _ _ _ msg _
              have he := enqueue_sane _ msg.command msg.params (hrecv s rest hs)
              split <;> rename_i heq' <;> rw [heq'] at he
              · exact ih _ he
              · split
                · exact ih _ he
                · exact he

theorem drainInput_sane (s : Node) (hs : Holds k Connection.Sane s) :
    Holds k Connection.Sane (s.drainInput k) := by
  unfold drainInput
  split
  · exact hs
  · exact drain_sane _ _ hs

theorem submit_sane (s : Node) (raw : Bytes) (hs : Holds k Connection.Sane s) :
    Holds k Connection.Sane (s.submit k raw) := by
  unfold submit
  split
  · exact hs
  · split
    · exact hs
    · exact drainInput_sane _ (modify_sane s (by intro; rfl) (fun _ => ⟨rfl, rfl, rfl⟩) hs)

theorem onReadable_sane (s : Node) (hs : Holds k Connection.Sane s) :
    Holds k Connection.Sane (s.onReadable k) := by
  rcases onReadable_cases s k with ⟨h, -⟩ | ⟨c, hc, hlive, hcase⟩
  · rw [h]
    exact hs
  have hopen := (hs c hc).open hlive
  have hl := onLink_settling s (fun l => l.handleReadable) (fun l w => Link.handleReadable_settles l w)
    hs.settling
  rcases hcase with ⟨e, -, h⟩ | ⟨hnone, h⟩ <;> rw [h]
  · exact cull_sane _ _ hl
  -- no failure: the link is as open as it was
  obtain ⟨hv, hrec⟩ := onLink_self hc fun l => l.handleReadable
  rcases hrun : c.link.handleReadable.run ⟨s.pipe c.pipe, []⟩ with ⟨⟨r, l'⟩, w'⟩
  rw [hrun] at hv hrec
  dsimp only at hv hrec
  have hr : r = none := by
    cases r with
    | none => rfl
    | some e => exact absurd hv (hnone e)
  subst hr
  have hclosed : l'.closed = false := ((Link.handleReadable_keeps hrun).2 rfl).trans hopen.2
  refine drainInput_sane _ (hl.sane_of_open fun c' hc' => ?_)
  rw [hc'] at hrec
  rw [(Connection.eq_of_unflagged (Option.some.inj hrec).symm).2.2.1]
  exact hclosed

theorem onWritable_sane (s : Node) (hs : Holds k Connection.Sane s) :
    Holds k Connection.Sane (s.onWritable k) := by
  rcases onWritable_cases s k with ⟨h, -⟩ | ⟨c, -, -, hcase⟩
  · rw [h]
    exact hs
  have hl := onLink_settling s (fun l => l.flush) (fun l w => Link.flush_settles l w) hs.settling
  rcases hcase with ⟨e, -, h⟩ | ⟨-, h⟩ <;> rw [h]
  · exact cull_sane _ _ hl
  · exact cullClosed_sane _ _ hl

theorem housekeepOne_sane (s : Node) (now : Int) (hs : Holds k Connection.Sane s) :
    Holds k Connection.Sane (s.housekeepOne now k) := by
  cases hc : s.conn? k with
  | none =>
    have hn : s.housekeepOne now k = s := by
      unfold Node.housekeepOne
      rw [hc]
    rw [hn]
    exact hs
  | some c =>
    have hid : c.id = k := by simpa using List.find?_some hc
    subst hid
    have hsess : ∀ (t : Node) (g : Session → Session), (∀ ss, (g ss).id = ss.id) →
        Holds c.id Connection.Sane t → Holds c.id Connection.Sane (t.modifySession c.id g) :=
      fun t g hg ht => modify_sane t (fun c => hg c.session) (fun _ => ⟨rfl, rfl, rfl⟩) ht
    rw [housekeepOne_eq now hc]
    generalize timerAction s.config now c = a
    cases a with
    | skip => exact hs
    | cull => exact cull_sane s c.reason hs.settling
    | close reason => exact closeLink_sane s reason hs
    | schedule due => exact hsess s _ (by intro; rfl) hs
    | ping due => exact send_sane _ _ (hsess _ _ (by intro; rfl) (hsess s _ (by intro; rfl) hs))

theorem calm_sane (k : Bytes) : Calm k (Holds k Connection.Sane) where
  modifySession s _ hid _ hs := modify_sane s (fun c => hid c.session) (fun _ => ⟨rfl, rfl, rfl⟩) hs
  modifyQueue s _ hs := modify_sane s (by intro; rfl) (fun _ => ⟨rfl, rfl, rfl⟩) hs
  lock s hs := modify_sane s (by intro; rfl) (fun _ => ⟨rfl, rfl, rfl⟩) hs
  sendTo s k' line hs := by
    by_cases h : k' = k
    · subst h
      exact send_sane s line hs
    · exact (own_holds (fun _ _ hu h => Connection.Sane.of_unflagged h hu) h).send s line hs
  closeLink s reason _ hs := closeLink_sane s reason hs
  counters _ _ hs := hs.of_conn? rfl
  services _ _ hs := hs.of_conn? rfl
  pool _ _ _ _ _ hs := hs.of_conn? rfl
  parked _ _ hs := hs.of_conn? rfl

theorem guard_sane (k : Bytes) : Guard k Connection.Sane where
  flags _ _ hu h := h.of_unflagged hu
  discard _ h := h
  send := send_sane
  submit := submit_sane
  enqueue := enqueue_sane
  onReadable := onReadable_sane
  onWritable := onWritable_sane
  step s _ locked _ _ hs := (calm_sane k).step
    (fun t _ _ ht => modify_sane t (by intro; rfl) (fun _ => ⟨rfl, rfl, rfl⟩) ht) locked s hs
  applyWork s found hs := (calm_sane k).handles.answers.answerWork _ found
    (modify_sane s (by intro; rfl) (fun _ => ⟨rfl, rfl, rfl⟩) hs)
  housekeepOne := housekeepOne_sane
  closeIfOpen s reason hs := by
    unfold Node.closeIfOpen
    split
    · split
      · exact hs
      · exact closeLink_sane s reason hs
    · exact hs
  cull s reason hs := cull_sane s reason hs.settling

theorem sane_next {u t : Node} (hu : u.Reachable) (h : Next u t)
    (ih : u.draws.Distinct u.sessions → ∀ k, Holds k Connection.Sane u) :
    t.draws.Distinct t.sessions → ∀ k, Holds k Connection.Sane t :=
  fun hd k => (guard_sane k).next hu hd h
    (fun _ _ c hcl hc hc' => by unfold Connection.Sane; rw [hcl, hc, hc']; rfl)
    (ih (distinct_of_follow (.single h) hd) k)

theorem Reachable.sane {s : Node} (hs : s.Reachable) :
    s.draws.Distinct s.sessions → ∀ k, Holds k Connection.Sane s := by
  induction hs with
  | start => exact fun _ _ => Holds.of_none rfl
  | openPipe capacity hu ih => exact sane_next hu (.openPipe _ capacity) ih
  | attach layers pipe remote listener release hu ih =>
    exact sane_next hu (.attach _ layers pipe remote listener release) ih
  | submit id raw hu ih => exact sane_next hu (.submit _ id raw) ih
  | enqueue id name params hu ih => exact sane_next hu (.enqueue _ id name params) ih
  | tick hu ih => exact sane_next hu (.tick _) ih
  | poll hu ih => exact sane_next hu (.poll _) ih
  | housekeep now hu ih => exact sane_next hu (.housekeep _ now) ih
  | peer pipe p signals hu ih => exact sane_next hu (.peer _ pipe p signals) ih
  | clock now hu ih => exact sane_next hu (.clock _ now) ih
  | services f hu ih => exact sane_next hu (.services _ f) ih
  | startPool hu ih => exact sane_next hu (.startPool _) ih
  | stopPool hu ih => exact sane_next hu (.stopPool _) ih
  | takeJob hu ih => exact sane_next hu (.takeJob _) ih
  | finishJob j hu ih => exact sane_next hu (.finishJob _ j) ih
  | beginShutdown hu ih => exact sane_next hu (.beginShutdown _) ih
  | shutdownRound hu ih => exact sane_next hu (.shutdownRound _) ih
  | endShutdown hu ih => exact sane_next hu (.endShutdown _) ih

end Sane

/-! ## The closing line -/

def closingLine (reason : Bytes) : Bytes :=
  Line.serverLine (Bytes.ofString "ERROR") [] (Bytes.ofString "Closing link: " ++ reason)

theorem closingLine_ne_nil (reason : Bytes) : closingLine reason ≠ [] := by
  simp [closingLine, Line.serverLine, Line.tail]

theorem closeLink_eq (s : Node) (k reason : Bytes) :
    s.closeLink k reason = (s.send k (closingLine reason)).quit k reason := rfl

/-- The QUIT command closes the link with the client's reason, or with `Client quit`. -/
theorem handle_quit (s : Node) (k : Bytes) (args : List Bytes) :
    (s.handle k .quit args).2 = s.closeLink k
      (if !args.isEmpty && !(Text.trimSpace (args.headD [])).isEmpty then Bytes.ofString "Quit: " ++ args.headD []
        else Bytes.ofString "Client quit") := rfl

theorem conn?_isSome_of_frame {s t : Node} (h : t.frame = s.frame) (k : Bytes) :
    (t.conn? k).isSome = (s.conn? k).isSome := by
  have hids := ids_of_frame h
  have hfind : ∀ u : Node, (u.conn? k).isSome = ((u.conns.map (·.id)).find? (· == k)).isSome := fun u => by
    rw [List.find?_map, Option.isSome_map]
    rfl
  rw [hfind, hfind, hids]

/-- A line for a live record whose link is open and not closing is queued at the end of its send
queue; when it overflows the queue, the link fails and the connection is torn down with its queue
dropped. -/
theorem send_open {s : Node} {k : Bytes} {c : Connection} (hc : s.conn? k = some c) (hd : c.dead = false)
    (hcl : c.link.closing = false) (hopen : c.link.closed = false) {line : Bytes} (hline : line ≠ []) :
    Holds k (fun c' => c'.quitting = c.quitting ∧ ((c'.dead = true ∧ c'.link.sendq.bytes = []) ∨
      (c'.dead = false ∧ c'.link.closing = false ∧ c'.link.closed = false ∧
        c'.link.sendq.bytes = c.link.sendq.bytes ++ line))) (s.send k line) := by
  have hP := Connection.blind (R := fun d q l => q = c.quitting ∧ ((d = true ∧ l.sendq.bytes = []) ∨
      (d = false ∧ l.closing = false ∧ l.closed = false ∧ l.sendq.bytes = c.link.sendq.bytes ++ line)))
  rcases send_cases s k line with ⟨-, hg⟩ | ⟨c₀, hc₀, -, -, h⟩
  · exact absurd (hg c hc) (by simp [hd, hcl])
  obtain rfl := Option.some.inj (hc.symm.trans hc₀)
  rw [h]
  -- the record once the line is written: queued, or its link failed and closed with the queue
  have hl : Holds k (fun c' => c'.dead = false ∧ c'.quitting = c.quitting ∧ c'.link.closing = false ∧
      ((c'.link.closed = true ∧ c'.link.sendq.bytes = []) ∨
        (c'.link.closed = false ∧ c'.link.sendq.bytes = c.link.sendq.bytes ++ line)))
      (s.onLink k fun l => do return ((), ← l.write line)).2 :=
    Holds.onLink_self (Connection.blind (R := fun d q l => d = false ∧ q = c.quitting ∧ l.closing = false ∧
        ((l.closed = true ∧ l.sendq.bytes = []) ∨
          (l.closed = false ∧ l.sendq.bytes = c.link.sendq.bytes ++ line))))
      _ fun c' hc' => by
      rw [hc₀] at hc'
      cases hc'
      have hq := Link.write_queues hopen hcl hline (w := ⟨s.pipe c.pipe, []⟩) Prod.mk.eta.symm
      have hk := (Link.write_keeps (l := c.link) (p := line) (w := ⟨s.pipe c.pipe, []⟩) Prod.mk.eta.symm).1
      exact ⟨hd, rfl, hk.trans hcl, hq⟩
  refine hl.cullClosed hP _ (fun c' h hopen' => ?_) (fun c' h _ hd' => ?_) (fun c' r w h hclosed _ => ?_)
  · -- queued
    rcases h.2.2.2 with h' | h'
    · exact absurd h'.1 (by simp [hopen'])
    · exact ⟨h.2.1, .inr ⟨h.1, h.2.2.1, hopen', h'.2⟩⟩
  · rw [h.1] at hd'
    cases hd'
  · -- the line overflowed the queue: the failed link is closed, the connection torn down
    refine ⟨h.2.1, .inl ⟨rfl, ?_⟩⟩
    show (c'.link.close.run w).1.sendq.bytes = []
    rw [Link.close_of_closed _ _ hclosed]
    rcases h.2.2.2 with h' | h'
    · exact h'.2
    · rw [hclosed] at h'
      cases h'.1

/-- Quitting a live record whose link is open leaves it draining with its link closing and its send
queue as it was; when nothing is pending, the link closes at once and the connection is torn down
with its queue dropped. -/
theorem quit_open {s : Node} {k : Bytes} {c : Connection} (hc : s.conn? k = some c) (hlive : c.closed = false)
    (hopen : c.link.closed = false) (reason : Bytes) :
    Holds k (fun c' => c'.closed = true ∧ ((c'.dead = true ∧ c'.link.sendq.bytes = []) ∨
      (c'.link.closing = true ∧ c'.link.sendq.bytes = c.link.sendq.bytes))) (s.quit k reason) := by
  have hP := Connection.blind (R := fun d q l => (d || q) = true ∧ ((d = true ∧ l.sendq.bytes = []) ∨
      (l.closing = true ∧ l.sendq.bytes = c.link.sendq.bytes)))
  have hdq : c.dead = false ∧ c.quitting = false := by simpa [Connection.closed] using hlive
  rcases quit_cases s k reason with ⟨-, hst⟩ | ⟨c₀, hc₀, -, h⟩
  · exact absurd (hst c hc) (by simp [hlive])
  obtain rfl := Option.some.inj (hc.symm.trans hc₀)
  rw [h]
  have hm : (s.modifyConn k fun c =>
      { c with quitting := true, quitAt := s.now, reason := reason, queue := c.queue.discard }).conn? k =
      some { c with quitting := true, quitAt := s.now, reason := reason, queue := c.queue.discard } := by
    rw [conn?_modifyConn _ _ (by intro; rfl), hc₀]
    rfl
  -- the record after the link is told to close once drained
  have hl : Holds k (fun c' => c'.dead = false ∧ c'.quitting = true ∧ c'.link.closing = true ∧
      ((c'.link.closed = true ∧ c'.link.sendq.bytes = []) ∨
        (c'.link.closed = false ∧ c'.link.sendq.bytes = c.link.sendq.bytes)))
      ((s.modifyConn k fun c =>
        { c with quitting := true, quitAt := s.now, reason := reason, queue := c.queue.discard }).onLink k
        fun l => do return ((), ← l.closeAfterFlush)).2 :=
    Holds.onLink_self (Connection.blind (R := fun d q l => d = false ∧ q = true ∧ l.closing = true ∧
        ((l.closed = true ∧ l.sendq.bytes = []) ∨ (l.closed = false ∧ l.sendq.bytes = c.link.sendq.bytes))))
      _ fun c' hc' => by
      rw [hm] at hc'
      cases hc'
      obtain ⟨hcl₂, h₂⟩ := Link.closeAfterFlush_result hopen _
      exact ⟨hdq.1, rfl, hcl₂, h₂.imp id fun h => ⟨h.1, congrArg ChunkQueue.bytes h.2⟩⟩
  refine hl.cullClosed hP _ (fun c' h hopen₂ => ?_) (fun c' h _ hd' => ?_) (fun c' r w h hclosed _ => ?_)
  · refine ⟨by simp [h.2.1], .inr ⟨h.2.2.1, ?_⟩⟩
    rcases h.2.2.2 with h' | h'
    · exact absurd h'.1 (by simp [hopen₂])
    · exact h'.2
  · rw [h.1] at hd'
    cases hd'
  · -- nothing was pending: the link closed, the connection is torn down
    refine ⟨by simp, .inl ⟨rfl, ?_⟩⟩
    show (c'.link.close.run w).1.sendq.bytes = []
    rw [Link.close_of_closed _ _ hclosed]
    rcases h.2.2.2 with h' | h'
    · exact h'.2
    · rw [hclosed] at h'
      exact Bool.noConfusion h'.1

/-- Closing the link of a live sane connection leaves it stopped with the closing line at the end of
its send queue and its link closing; or, when the line overflows the send queue or nothing is left
to send once it is queued, torn down with its send queue dropped. -/
theorem closeLink_queues_last {s : Node} {k : Bytes} {c : Connection} (hc : s.conn? k = some c)
    (hsane : c.Sane) (hlive : c.closed = false) (reason : Bytes) :
    ∃ c', (s.closeLink k reason).conn? k = some c' ∧ c'.closed = true ∧
      ((c'.dead = true ∧ c'.link.sendq.bytes = []) ∨
        (c'.link.closing = true ∧ c'.link.sendq.bytes = c.link.sendq.bytes ++ closingLine reason)) := by
  have hdq : c.dead = false ∧ c.quitting = false := by simpa [Connection.closed] using hlive
  obtain ⟨hcl, hopen⟩ := hsane.open hlive
  have hsend := send_open hc hdq.1 hcl hopen (closingLine_ne_nil reason)
  -- the connection is still there after the line, and after the quit
  obtain ⟨c₁, hc₁⟩ : ∃ c₁, (s.send k (closingLine reason)).conn? k = some c₁ := by
    apply Option.isSome_iff_exists.1
    rw [conn?_isSome_of_frame (frame_send ..), hc]
    rfl
  obtain ⟨c₂, hc₂⟩ : ∃ c₂, (s.closeLink k reason).conn? k = some c₂ := by
    apply Option.isSome_iff_exists.1
    rw [conn?_isSome_of_frame (frame_closeLink ..), hc]
    rfl
  refine ⟨c₂, hc₂, ?_⟩
  obtain ⟨hq₁, h₁⟩ := hsend c₁ hc₁
  rw [closeLink_eq] at hc₂
  rcases h₁ with ⟨hd₁, hb₁⟩ | ⟨hd₁, hcl₁, hopen₁, hb₁⟩
  · -- torn down by the overflow: the quit does nothing
    rw [quit_of_closed hc₁ (by simp [Connection.closed, hd₁]), hc₁] at hc₂
    cases hc₂
    exact ⟨by simp [Connection.closed, hd₁], .inl ⟨hd₁, hb₁⟩⟩
  · have hlive₁ : c₁.closed = false := by simp [Connection.closed, hd₁, hq₁, hdq.2]
    obtain ⟨hcl₂, h₂⟩ := quit_open hc₁ hlive₁ hopen₁ reason c₂ hc₂
    refine ⟨hcl₂, h₂.imp id fun h => ⟨h.1, h.2.trans hb₁⟩⟩

theorem tickLog_stopped {t : Node} {k : Bytes} {c₀ : Connection} (ht : Holds k c₀.Stopped t) :
    k ∉ t.tickLog.2.map (·.id) := by
  -- over the walk the record stays stopped, and no call of `k` is written down
  suffices h : ∀ (ids : List Bytes) (acc : (Nat × Node) × List StepCall), Holds k c₀.Stopped acc.1.2 →
      k ∉ acc.2.map (·.id) → k ∉ (ids.foldl visitLogged acc).2.map (·.id) from
    h _ _ (ht.of_conn? rfl) (by simp)
  intro ids
  induction ids with
  | nil => exact fun _ _ h => h
  | cons j ids ih =>
    intro acc hs hlog
    refine ih _ ((guard_stopped k c₀).visit acc j hs) ?_
    obtain ⟨⟨worked, s⟩, log⟩ := acc
    dsimp only [visitLogged]
    split
    · exact hlog
    · rename_i c hc
      split
      · exact hlog
      · -- a call is written down for `j` only when `j` is live, so `j` is not `k`
        rename_i hcl
        have hjk : k ≠ j := fun h => by
          subst h
          exact hcl (hs c hc).closed
        simpa [hjk] using hlog

/-! ## Every run -/

/-- Nothing more is done for the connection under `k` that stopped as `c₀`: its record, while it is
there, is still stopped and holds no more than `c₀` did; a tick, alone or within a poll, takes no
step of it; and its input, its commands and its read readiness are all turned away. -/
structure Quiet (s : Node) (k : Bytes) (c₀ : Connection) : Prop where
  stopped : Holds k c₀.Stopped s
  unstepped : k ∉ s.tickLog.2.map (·.id)
  unstepped_polled : k ∉ s.runPosted.tickLog.2.map (·.id)
  unfed : ∀ raw, s.submit k raw = s
  unqueued : ∀ name params, (s.enqueue k name params).2 = s
  unread : s.onReadable k = s

theorem Quiet.of_stopped {s : Node} {k : Bytes} {c₀ : Connection} (h : Holds k c₀.Stopped s) :
    s.Quiet k c₀ where
  stopped := h
  unstepped := tickLog_stopped h
  unstepped_polled := tickLog_stopped ((guard_stopped k c₀).runPosted s h)
  unfed := submit_of_stopped h.closed
  unqueued := enqueue_of_stopped h.closed
  unread := onReadable_of_stopped h.closed

theorem drawn_ne_held {s : Node} (hs : s.Numbered) {k : Bytes} {c : Connection} (hc : s.conn? k = some c)
    {n : Nat} (hlt : s.sessions < n) (hd : s.draws.Distinct n) : s.draws.id n ≠ k := by
  intro he
  have hid : c.id = k := by simpa using List.find?_some hc
  obtain ⟨ks, hks, -, hle⟩ := hs
  have hm : c.id ∈ ks.map s.draws.id := by
    rw [← hks]
    exact List.mem_map_of_mem (List.mem_of_find?_eq_some hc)
  obtain ⟨j, hj, hjc⟩ := List.mem_map.1 hm
  have hjn := hle j hj
  have := hd j n (by omega) (Nat.le_refl _) (hjc.trans (hid.trans he.symm))
  omega

/-- Once a connection of a reachable node is stopped, its link is closing or closed and nothing more
is done for it on any run whose draws give distinct ids, whatever the run does: the pool started,
its jobs finished and their answers posted, shutdown begun and ended. None of its commands runs,
none of its input is read, framed or queued, and its send queue only loses bytes from its front.
Closing the link of a live connection queues the closing line last, and QUIT closes it so. -/
theorem stopped_connection_stays_quiet {s t : Node} {k : Bytes} {c₀ : Connection} (hs : s.Reachable)
    (hc : s.conn? k = some c₀) (hcl : c₀.closed = true) (hrun : Relation.ReflTransGen Next s t)
    (hd : t.draws.Distinct t.sessions) :
    (c₀.link.closing = true ∨ c₀.link.closed = true) ∧ t.Quiet k c₀ ∧
      (∀ (u : Node) (j : Bytes) (c : Connection) (reason : Bytes), u.conn? j = some c → c.Sane →
        c.closed = false → ∃ c', (u.closeLink j reason).conn? j = some c' ∧ c'.closed = true ∧
          ((c'.dead = true ∧ c'.link.sendq.bytes = []) ∨
            (c'.link.closing = true ∧ c'.link.sendq.bytes = c.link.sendq.bytes ++ closingLine reason))) ∧
      ∀ (u : Node) (j : Bytes) (args : List Bytes), ∃ reason, (u.handle j .quit args).2 = u.closeLink j reason := by
  obtain ⟨hdraws, -⟩ := draws_sessions_of_follow hrun
  have hsane : c₀.Sane := hs.sane (distinct_of_follow hrun hd) k c₀ hc
  have hmute : c₀.link.closing = true ∨ c₀.link.closed = true := by
    rw [Connection.Sane, hcl] at hsane
    simpa using hsane.symm
  -- every session the run opens is numbered above the ones held now, so none of them is `k`
  have hstop : Holds k c₀.Stopped t := by
    refine (guard_stopped k c₀).run hs hrun hd (fun u hle hdu hlt he => absurd he ?_) fun c h => ?_
    · rw [hdu]
      exact drawn_ne_held hs.numbered hc (by omega) ((hdraws ▸ hd).mono hlt)
    · rw [hc] at h
      cases h
      exact Connection.Stopped.refl hcl hmute
  exact ⟨hmute, .of_stopped hstop, fun u j c reason hc hsane hlive => closeLink_queues_last hc hsane hlive reason,
    fun u j args => ⟨_, handle_quit u j args⟩⟩

def shortRegistration : Config :=
  { (default : Config) with maxLine := 512, limits := Limits.ofConfig 0 0, registrationTimeout := 100 }

def noAccounts : Services := { (default : Services) with accounts := some Accounts.empty }

/-- A client sends LOGIN to a node whose pool has started, so the password check waits in the pool
holding the connection's lock; a housekeeping round past the registration timeout then closes the
link. The worker then takes the job and finishes it, and a poll runs its completion after the quit:
the connection stays stopped and quiet throughout. -/
theorem quit_connection_stays_quiet :
    let s := ((((Node.start shortRegistration ⟨builtinTable, []⟩ noAccounts .counter
      (some (WorkerPool.create 1 4)) 0).startPool.openPipe 0).2.attach [.socket (Socket.create serverSide 0)] 0
      (Bytes.ofString "mem:a") (Bytes.ofString "mem") none).2.submit (sessionId 1)
      (Bytes.ofString "LOGIN bob pw\r\n")).tick.2.housekeep 200
    let t := (s.takeJob.finishJob ⟨0, .completes true, true⟩).poll
    ∃ c₀, s.conn? (sessionId 1) = some c₀ ∧ c₀.closed = true ∧ c₀.locked = 1 ∧ t.draws.Distinct t.sessions ∧
      (c₀.link.closing = true ∨ c₀.link.closed = true) ∧ t.Quiet (sessionId 1) c₀ := by
  intro s t
  have hpre : Relation.ReflTransGen Next
      (Node.start shortRegistration ⟨builtinTable, []⟩ noAccounts .counter (some (WorkerPool.create 1 4)) 0) s :=
    .tail (.tail (.tail (.tail (.tail (.single (.startPool _)) (.openPipe _ _)) (.attach _ _ _ _ _ _))
      (.submit _ _ _)) (.tick _)) (.housekeep _ _)
  have hrun : Relation.ReflTransGen Next s t := .tail (.tail (.single (.takeJob _)) (.finishJob _ _)) (.poll _)
  have hd : t.draws.Distinct t.sessions := by
    rw [(draws_sessions_of_follow (hpre.trans hrun)).1]
    exact Draws.counter_distinct (by decide +kernel)
  have hstop : (s.conn? (sessionId 1)).map (fun c => (c.closed, c.locked)) = some (true, 1) := by
    decide +kernel
  obtain ⟨c₀, hc, hcl⟩ := Option.map_eq_some_iff.1 hstop
  obtain ⟨hmute, hquiet, -, -⟩ :=
    stopped_connection_stays_quiet ((Reachable.start ..).follow hpre) hc (congrArg Prod.fst hcl) hrun hd
  exact ⟨c₀, hc, congrArg Prod.fst hcl, congrArg Prod.snd hcl, hd, hmute, hquiet⟩

end Node

end LineKv.Server
