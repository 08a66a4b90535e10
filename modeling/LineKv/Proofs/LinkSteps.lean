import Mathlib
import LineKv.Transport.Link

/-!
What one operation of a link whose chain is its socket alone does to the pipe under it, stated as
the exact wire state it leaves (`Link.write_run`, `Link.flush_run`, `Link.readLoop_run`).
-/

namespace LineKv.Transport

/-! ## Chunk queues as byte strings -/

namespace ChunkQueue

def Counted (q : ChunkQueue) : Prop := q.size = q.bytes.length

instance (q : ChunkQueue) : Decidable q.Counted := inferInstanceAs (Decidable (q.size = q.bytes.length))

@[simp] theorem bytes_empty : empty.bytes = [] := rfl

@[simp] theorem len_empty : empty.len = 0 := rfl

theorem counted_empty : empty.Counted := rfl

theorem bytes_push (q : ChunkQueue) (p : Bytes) : (q.push p).bytes = q.bytes ++ p := by
  unfold push
  split
  · rename_i h
    rw [List.isEmpty_iff.1 h, List.append_nil]
  · simp [bytes]

theorem Counted.push {q : ChunkQueue} (hq : q.Counted) (p : Bytes) : (q.push p).Counted := by
  unfold Counted at hq ⊢
  rw [bytes_push, List.length_append, Nat.cast_add, ← hq]
  unfold ChunkQueue.push
  split
  · rename_i h
    simp [List.isEmpty_iff.1 h]
  · rfl

theorem flatten_dropBytes (n : Nat) (cs : List Bytes) : (dropBytes n cs).flatten = cs.flatten.drop n := by
  fun_induction dropBytes n cs with
  | case1 n => simp
  | case2 c cs => simp
  | case3 n c cs hn hlt => simp [List.drop_append, Nat.sub_eq_zero_of_le hlt.le]
  | case4 n c cs hn hlt ih =>
    have hc : c.drop n = [] := List.drop_eq_nil_of_le (by omega)
    rw [ih, List.flatten_cons, List.drop_append, hc, List.nil_append]

theorem bytes_consume {q : ChunkQueue} (hq : q.Counted) {n : Nat} (hn : n ≤ q.bytes.length) :
    (q.consume n).bytes = q.bytes.drop n := by
  have hle : ¬ (n : Int) > q.size := by rw [hq]; omega
  simp only [consume, hle, if_false, bytes, Int.toNat_natCast]
  exact flatten_dropBytes n q.chunks

theorem Counted.consume {q : ChunkQueue} (hq : q.Counted) {n : Nat} (hn : n ≤ q.bytes.length) :
    (q.consume n).Counted := by
  have hle : ¬ (n : Int) > q.size := by rw [hq]; omega
  have hb := bytes_consume hq hn
  unfold Counted at hq ⊢
  rw [hb, List.length_drop]
  simp only [ChunkQueue.consume, hq]
  omega

theorem len_eq {q : ChunkQueue} (hq : q.Counted) : q.len = q.bytes.length := hq

theorem peek_prefix (q : ChunkQueue) (k : Nat) : (q.peek k).flatten <+: q.bytes := by
  refine ⟨(q.chunks.drop k).flatten, ?_⟩
  rw [peek, bytes, ← List.flatten_append, List.take_append_drop]

end ChunkQueue

/-! ## Pipes -/

namespace Pipe

@[simp] theorem other_other (s : Side) : s.other.other = s := by cases s <;> rfl

@[simp] theorem other_ne (s : Side) : s.other ≠ s := by cases s <;> decide

@[simp] theorem outbound_setOutbound (p : Pipe) (s : Side) (h : Half) : (p.setOutbound s h).outbound s = h := by
  cases s <;> rfl

@[simp] theorem outbound_setOutbound_other (p : Pipe) (s : Side) (h : Half) :
    (p.setOutbound s h).outbound s.other = p.outbound s.other := by
  cases s <;> rfl

@[simp] theorem capacity_setOutbound (p : Pipe) (s : Side) (h : Half) : (p.setOutbound s h).capacity = p.capacity := by
  cases s <;> rfl

@[simp] theorem capacity_setListens (p : Pipe) (s : Side) (b : Bool) : (p.setListens s b).capacity = p.capacity := by
  cases s <;> rfl

@[simp] theorem outbound_setListens (p : Pipe) (s s' : Side) (b : Bool) :
    (p.setListens s b).outbound s' = p.outbound s' := by
  cases s <;> cases s' <;> rfl

theorem setOutbound_self (p : Pipe) (s : Side) : p.setOutbound s (p.outbound s) = p := by
  cases s <;> rfl

@[simp] theorem inbound_eq (p : Pipe) (s : Side) : p.inbound s = p.outbound s.other := rfl

@[simp] theorem setOutbound_setOutbound (p : Pipe) (s : Side) (h h' : Half) :
    (p.setOutbound s h).setOutbound s h' = p.setOutbound s h' := by
  cases s <;> rfl

@[simp] theorem outbound_setOutbound_of_other (p : Pipe) (s : Side) (h : Half) :
    (p.setOutbound s.other h).outbound s = p.outbound s := by
  cases s <;> rfl

@[simp] theorem setInbound_eq (p : Pipe) (s : Side) (h : Half) : p.setInbound s h = p.setOutbound s.other h := rfl

end Pipe

/-! ## Signals leave the pipe alone -/

def raisedSignals (sig : Signal) (w : Wire) : List Signal := ((raise sig).run w).2.signals

theorem raise_run (sig : Signal) (w : Wire) : (raise sig).run w = ((), ⟨w.pipe, raisedSignals sig w⟩) := by
  unfold raisedSignals raise pipeNow
  simp only [StateT.run_bind, StateT.run_get, pure_bind, StateT.run_pure]
  split <;> (try split) <;> rfl

namespace Socket

theorem fit_le_space (chunks : List Bytes) (space : Nat) : fit chunks space ≤ space := by
  induction chunks generalizing space with
  | nil => simp [fit]
  | cons c rest ih =>
    unfold fit
    split
    · omega
    · have := ih (space - min c.length space)
      omega

theorem fit_le_length (chunks : List Bytes) (space : Nat) : fit chunks space ≤ chunks.flatten.length := by
  induction chunks generalizing space with
  | nil => simp [fit]
  | cons c rest ih =>
    unfold fit
    split
    · omega
    · have := ih (space - min c.length space)
      simp only [List.flatten_cons, List.length_append]
      omega

theorem take_peek (q : ChunkQueue) (k n : Nat) (hn : n ≤ (q.peek k).flatten.length) :
    (q.peek k).flatten.take n = q.bytes.take n := by
  rw [List.prefix_iff_eq_take.1 (q.peek_prefix k), List.take_take, Nat.min_eq_left hn]

/-- What a write does on an open socket with something queued and a peer still reading: it takes
the first `k` bytes of the queue, as many as fit in the pipe, and appends them to the pipe. -/
theorem write_run (s : Socket) (src : ChunkQueue) (w : Wire) (hs : s.closed = false) (hl : src.len ≠ 0)
    (he : (w.pipe.outbound s.side).eof = false) :
    let k := fit (src.peek s.iovecs) (w.pipe.capacity - (w.pipe.outbound s.side).buf.length)
    ∃ st h sigs, (s.write src).run w = ((st, none, src.consume k), ⟨w.pipe.setOutbound s.side h, sigs⟩) ∧
      h.buf = (w.pipe.outbound s.side).buf ++ src.bytes.take k ∧ h.eof = false ∧
      (st = .progressed ∨ st = .wouldBlock) := by
  intro k
  have hk : (src.peek s.iovecs).flatten.take k = src.bytes.take k :=
    take_peek src _ k (fit_le_length _ _)
  unfold Socket.write pipeNow setPipe
  simp only [hs, hl, he, StateT.run_bind, StateT.run_get, pure_bind, StateT.run_pure, StateT.run_modify,
    Bool.false_eq_true, if_false]
  split <;> (try split) <;> (try split) <;> (try simp only [StateT.run_bind, raise_run]) <;>
    exact ⟨_, _, _, rfl, by simp [k, hk], rfl, by simp⟩

/-- What a read does on an open socket: it takes everything buffered towards it, or finds
nothing and would block, or finds the stream ended. -/
theorem read_run (s : Socket) (w : Wire) (hs : s.closed = false) :
    ∃ st data h sigs, s.read.run w = ((st, none, data), ⟨w.pipe.setOutbound s.side.other h, sigs⟩) ∧
      data ++ h.buf = (w.pipe.outbound s.side.other).buf ∧ h.eof = (w.pipe.outbound s.side.other).eof ∧
      (st = .consumed ∧ data ≠ [] ∨ st = .wouldBlock ∧ data = [] ∨ st = .closed ∧ data = []) := by
  unfold Socket.read pipeNow setPipe
  simp only [hs, StateT.run_bind, StateT.run_get, pure_bind, StateT.run_pure,
    Bool.false_eq_true, if_false, Pipe.inbound_eq, Pipe.setInbound_eq]
  by_cases hempty : (w.pipe.outbound s.side.other).buf.isEmpty = true
  · have hnil : (w.pipe.outbound s.side.other).buf = [] := List.isEmpty_iff.1 hempty
    by_cases heof : (w.pipe.outbound s.side.other).eof = true
    · -- the peer has gone and nothing is left: the stream ended, the pipe is untouched
      simp only [hempty, heof, if_true, StateT.run_pure]
      exact ⟨_, [], w.pipe.outbound s.side.other, _, by rw [Pipe.setOutbound_self]; rfl, by simp [hnil],
        heof, by simp⟩
    · simp only [hempty, heof, if_true, Bool.false_eq_true, if_false, StateT.run_bind, StateT.run_modify,
        StateT.run_pure]
      exact ⟨_, [], _, _, rfl, by simp [hnil], rfl, by simp⟩
  · have hne : (w.pipe.outbound s.side.other).buf ≠ [] := fun h => hempty (List.isEmpty_iff.2 h)
    simp only [hempty, Bool.false_eq_true, if_false, StateT.run_bind, StateT.run_modify, pure_bind]
    by_cases hw : (w.pipe.outbound s.side.other).writeWant = true
    · -- a writer waiting for room is signalled
      simp only [hw, if_true, StateT.run_bind, raise_run, StateT.run_pure]
      exact ⟨_, _, _, _, rfl, by simp, rfl, by simp [hne]⟩
    · simp only [hw, Bool.false_eq_true, if_false, StateT.run_pure]
      exact ⟨_, _, _, _, rfl, by simp, rfl, by simp [hne]⟩

theorem close_run (s : Socket) (w : Wire) (hs : s.closed = false) :
    ∃ sigs, s.close.run w = ({ s with closed := true },
      ⟨((w.pipe.setOutbound s.side { w.pipe.outbound s.side with eof := true }).setOutbound s.side.other
        { w.pipe.outbound s.side.other with eof := true, buf := [] }).setListens s.side false, sigs⟩) := by
  unfold Socket.close pipeNow setPipe
  simp only [hs, StateT.run_bind, StateT.run_get, pure_bind, StateT.run_pure, StateT.run_modify,
    Bool.false_eq_true, if_false, raise_run, Pipe.inbound_eq, Pipe.setInbound_eq,
    Pipe.outbound_setOutbound_other]
  exact ⟨_, rfl⟩

end Socket

/-- What closing a socket does to its pipe: both directions end, what was on its way to the socket
is dropped, and the socket's end stops listening. -/
def Pipe.shut (p : Pipe) (side : Side) : Pipe :=
  ((p.setOutbound side { p.outbound side with eof := true }).setOutbound side.other
    { p.outbound side.other with eof := true, buf := [] }).setListens side false

def Pipe.Within (p : Pipe) : Prop := ∀ side, (p.outbound side).buf.length ≤ p.capacity

theorem Pipe.Within.setOutbound {p : Pipe} (hp : p.Within) (side : Side) {h : Half}
    (hh : h.buf.length ≤ p.capacity) : (p.setOutbound side h).Within := by
  intro s
  rw [Pipe.capacity_setOutbound]
  rcases side with _ | _ <;> rcases s with _ | _ <;> simp [Pipe.setOutbound, Pipe.outbound] <;>
    first | exact hh | exact hp .fst | exact hp .snd

theorem Pipe.Within.shut {p : Pipe} (hp : p.Within) (side : Side) : (p.shut side).Within := by
  intro s
  unfold Pipe.shut
  simp only [Pipe.outbound_setListens, Pipe.capacity_setListens, Pipe.capacity_setOutbound]
  rcases side with _ | _ <;> rcases s with _ | _ <;> simp [Pipe.setOutbound, Pipe.outbound, Side.other] <;>
    first | exact hp .fst | exact hp .snd

namespace Link

/-- A link whose chain is its socket alone, on a given end of its pipe, and that is not draining;
its send queue counts its bytes and stays within `maxSendQ`, and while it is open it has not failed
and its socket is open. -/
structure Sound (l : Link) (side : Side) : Prop where
  layers : l.layers = []
  side : l.socket.side = side
  closing : l.closing = false
  counted : l.sendq.Counted
  bounded : l.pending ≤ l.limits.maxSendQ
  clean : l.closed = false → l.err = none ∧ l.socket.closed = false

theorem pending_of_layers {l : Link} (h : l.layers = []) : l.pending = l.sendq.len := by
  simp [pending, h]

/-- A link as closing leaves it: closed, its socket closed, both buffers dropped. -/
def shut (l : Link) : Link :=
  { l with
    closed := true
    socket := { l.socket with closed := true }
    recv := []
    sendq := .empty }

variable {l : Link} {side : Side}

theorem Sound.shut (hl : l.Sound side) : l.shut.Sound side where
  layers := hl.layers
  side := hl.side
  closing := hl.closing
  counted := ChunkQueue.counted_empty
  bounded := by simp [Link.shut, pending, hl.layers]
  clean := by simp [Link.shut]

theorem close_run (hlay : l.layers = []) (hside : l.socket.side = side) (hsock : l.socket.closed = false)
    (hopen : l.closed = false) (w : Wire) :
    ∃ sigs, l.close.run w = (l.shut, ⟨w.pipe.shut side, sigs⟩) := by
  obtain ⟨sigs, hs⟩ := Socket.close_run l.socket w hsock
  refine ⟨sigs, ?_⟩
  obtain ⟨layers, ⟨sside, sclosed, siov⟩, limits, recv, sendq, closing, closed, err⟩ := l
  cases hlay
  cases hside
  cases hopen
  simp only [Link.close, Bool.false_eq_true, if_false, StateT.run_bind, hs, StateT.run_pure, List.map_nil]
  rfl

theorem fail_run (hlay : l.layers = []) (hside : l.socket.side = side) (hsock : l.socket.closed = false)
    (herr : l.err = none) (hopen : l.closed = false) (e : LinkError) (w : Wire) :
    ∃ sigs, (l.fail e).run w = ((e, { l.shut with err := some e }), ⟨w.pipe.shut side, sigs⟩) := by
  obtain ⟨sigs, hs⟩ := close_run (l := { l with err := some e }) hlay hside hsock hopen w
  refine ⟨sigs, ?_⟩
  simp only [Link.fail, herr, Option.getD_none, StateT.run_bind, hs, StateT.run_pure]
  rfl

theorem Sound.fail_run (hl : l.Sound side) (hopen : l.closed = false) (e : LinkError) (w : Wire) :
    ∃ sigs, (l.fail e).run w = ((e, { l.shut with err := some e }), ⟨w.pipe.shut side, sigs⟩) :=
  Link.fail_run hl.layers hl.side (hl.clean hopen).2 (hl.clean hopen).1 hopen e w

theorem notify_run (l : Link) (readable : Bool) (w : Wire) :
    (l.notify readable).run w =
      ((), ⟨w.pipe, w.signals ++ [if readable then .readable l.socket.side else .writable l.socket.side]⟩) :=
  rfl

theorem len_push {q : ChunkQueue} (hq : q.Counted) (p : Bytes) : (q.push p).len = q.len + p.length := by
  have hc := hq.push p
  unfold ChunkQueue.Counted at hc
  rw [ChunkQueue.len, hc, ChunkQueue.bytes_push, List.length_append, ChunkQueue.len_eq hq]
  push_cast
  rfl

theorem pending_push (hl : l.Sound side) (p : Bytes) :
    ({ l with sendq := l.sendq.push p } : Link).pending = l.sendq.len + p.length := by
  rw [pending_of_layers (l := { l with sendq := l.sendq.push p }) hl.layers]
  exact len_push hl.counted p

theorem Sound.push (hl : l.Sound side) (p : Bytes) (hp : l.sendq.len + p.length ≤ l.limits.maxSendQ) :
    ({ l with sendq := l.sendq.push p } : Link).Sound side :=
  { hl with
    counted := hl.counted.push p
    bounded := by rw [pending_push hl p]; exact hp }

theorem Sound.recv (hl : l.Sound side) (r : Bytes) : ({ l with recv := r } : Link).Sound side :=
  { hl with }

theorem Sound.failed (hl : l.Sound side) (e : LinkError) :
    ({ l.shut with err := some e } : Link).Sound side :=
  { hl.shut with clean := by simp [Link.shut] }

theorem Sound.consume (hl : l.Sound side) {k : Nat}
    (hk : k ≤ l.sendq.bytes.length) : ({ l with sendq := l.sendq.consume k } : Link).Sound side :=
  { hl with
    counted := hl.counted.consume hk
    bounded := by
      have hb := hl.bounded
      rw [pending_of_layers hl.layers, ChunkQueue.len_eq hl.counted] at hb
      rw [pending_of_layers (l := { l with sendq := l.sendq.consume k }) hl.layers]
      show (l.sendq.consume k).len ≤ (l.limits.maxSendQ : Int)
      rw [ChunkQueue.len_eq (hl.counted.consume hk), ChunkQueue.bytes_consume hl.counted hk, List.length_drop]
      omega }

/-- Writing on a sound open link queues the chunk, unless the send queue would pass `maxSendQ`:
then the link fails with `sendQExceeded` and closes. -/
theorem write_run (hl : l.Sound side) (hopen : l.closed = false) (p : Bytes) (w : Wire) :
    (l.sendq.len + p.length ≤ l.limits.maxSendQ ∧
      ∃ sigs, (l.write p).run w = ({ l with sendq := l.sendq.push p }, ⟨w.pipe, sigs⟩)) ∨
    (l.limits.maxSendQ < l.sendq.len + p.length ∧
      ∃ sigs, (l.write p).run w = ({ l.shut with err := some .sendQExceeded }, ⟨w.pipe.shut side, sigs⟩)) := by
  have hpend := pending_push hl p
  obtain ⟨sigs, hf⟩ := Link.fail_run (l := { l with sendq := l.sendq.push p }) hl.layers hl.side
    (hl.clean hopen).2 (hl.clean hopen).1 hopen .sendQExceeded w
  have hbound := hl.bounded
  rw [pending_of_layers hl.layers] at hbound
  obtain ⟨layers, socket, limits, recv, sendq, closing, closed, err⟩ := l
  have hclosing : closing = false := hl.closing
  subst hopen hclosing
  by_cases hp : p.isEmpty = true
  · -- an empty chunk is dropped
    have hnil : p = [] := List.isEmpty_iff.1 hp
    subst hnil
    refine .inl ⟨by simpa using hbound, w.signals, ?_⟩
    simp [Link.write, ChunkQueue.push]
    rfl
  · by_cases hover : limits.maxSendQ < sendq.len + p.length
    · -- the queue overflows: the link fails
      refine .inr ⟨hover, sigs, ?_⟩
      simp only [Link.write, hp, Bool.or_self, Bool.false_eq_true, if_false, hpend, gt_iff_lt, hover,
        if_true, StateT.run_bind, hf, StateT.run_pure]
      rfl
    · refine .inl ⟨by dsimp only; omega, ?_⟩
      simp only [Link.write, hp, Bool.or_self, Bool.false_eq_true, if_false, hpend, gt_iff_lt, hover,
        StateT.run_bind, notify_run, StateT.run_pure]
      exact ⟨_, rfl⟩

theorem consume_zero {q : ChunkQueue} (hq : q.Counted) : q.consume 0 = q := by
  have hsize : ¬ (0 : Int) > q.size := by rw [hq]; omega
  obtain ⟨chunks, size⟩ := q
  simp only [ChunkQueue.consume, hsize, if_false, Int.toNat_zero, Int.sub_zero]
  cases chunks <;> rfl

/-- Flushing a sound open link hands the first `k` queued bytes to the pipe, as many as fit, or
fails the link when the peer has gone. -/
theorem flush_run (hl : l.Sound side) (hopen : l.closed = false) (w : Wire) :
    let out := w.pipe.outbound side
    let k := Socket.fit (l.sendq.peek l.socket.iovecs) (w.pipe.capacity - out.buf.length)
    (∃ h sigs, l.flush.run w = ((none, { l with sendq := l.sendq.consume k }),
        ⟨w.pipe.setOutbound side h, sigs⟩) ∧
      h.buf = out.buf ++ l.sendq.bytes.take k ∧ h.eof = out.eof) ∨
    (∃ e sigs, l.flush.run w = ((some e, { l.shut with err := some e }), ⟨w.pipe.shut side, sigs⟩)) := by
  intro out k
  have hsock := (hl.clean hopen).2
  obtain ⟨sigsF, hf⟩ := hl.fail_run hopen .peerClosed w
  obtain ⟨layers, socket, limits, recv, sendq, closing, closed, err⟩ := l
  obtain ⟨hlay, hside, hclosing, hc, -, -⟩ := hl
  dsimp only at hlay hside hclosing hc hsock k
  subst hopen hlay hclosing hside
  by_cases hlen : sendq.len = 0
  · -- nothing queued: nothing moves
    have hk : k = 0 := by
      have := Socket.fit_le_length (sendq.peek socket.iovecs) (w.pipe.capacity - out.buf.length)
      have hpre := (sendq.peek_prefix socket.iovecs).length_le
      rw [ChunkQueue.len_eq hc] at hlen
      simp only [k]
      omega
    refine .inl ⟨out, w.signals, ?_, by simp [hk], rfl⟩
    simp only [Link.flush, Bool.false_eq_true, if_false, writeChain, Socket.write, hsock, hlen, if_true,
      StateT.run_pure, pure_bind, hk, Nat.cast_zero, consume_zero hc, out, Pipe.setOutbound_self,
      Bool.false_and]
    rfl
  · by_cases heof : (w.pipe.outbound socket.side).eof = true
    · -- the peer closed: the link fails
      refine .inr ⟨.peerClosed, sigsF, ?_⟩
      simp only [Link.flush, Bool.false_eq_true, if_false, writeChain, Socket.write, hsock, hlen, heof,
        if_true, StateT.run_bind, StateT.run_pure, pure_bind, pipeNow, StateT.run_get, hf]
      rfl
    · have heof₀ : (w.pipe.outbound socket.side).eof = false := by simpa using heof
      obtain ⟨st, h, sigs, hw, hbuf, heof', hst⟩ := Socket.write_run socket sendq w hsock hlen heof₀
      refine .inl ⟨h, sigs, ?_, hbuf, by rw [heof']; exact heof₀.symm⟩
      simp only [Link.flush, Bool.false_eq_true, if_false, writeChain, StateT.run_bind, hw,
        StateT.run_pure, Bool.false_and]
      rcases hst with rfl | rfl <;> rfl

/-- The read loop of a sound open link moves bytes from the pipe into the receive buffer, in order,
or fails the link when the peer has gone with nothing new read. -/
theorem readLoop_run (fuel start : Nat) (hl : l.Sound side) (hopen : l.closed = false) (w : Wire) :
    (∃ data h sigs, (handleReadable.go fuel start l).run w =
        ((none, { l with recv := l.recv ++ data }), ⟨w.pipe.setOutbound side.other h, sigs⟩) ∧
      data ++ h.buf = (w.pipe.outbound side.other).buf ∧ h.eof = (w.pipe.outbound side.other).eof) ∨
    (∃ e h sigs, (handleReadable.go fuel start l).run w =
        ((some e, { l.shut with err := some e }), ⟨(w.pipe.setOutbound side.other h).shut side, sigs⟩) ∧
      h.buf <:+ (w.pipe.outbound side.other).buf) := by
  induction fuel generalizing l w with
  | zero =>
    refine .inl ⟨[], w.pipe.outbound side.other, w.signals ++ [.readable l.socket.side], ?_, by simp, rfl⟩
    simp only [handleReadable.go, StateT.run_bind, notify_run, StateT.run_pure, Pipe.setOutbound_self,
      List.append_nil]
    rfl
  | succ fuel ih =>
    have hsock : l.socket.closed = false := (hl.clean hopen).2
    obtain ⟨layers, socket, limits, recv, sendq, closing, closed, err⟩ := l
    obtain ⟨hlay, hside, hclosing, hc, hb, hclean⟩ := hl
    dsimp only at hlay hside hsock
    subst hlay hside hopen
    by_cases hmax : recv.length - start ≥ limits.maxReadPerEvent
    · -- the per-event bound is reached: the link asks to be called again
      refine .inl ⟨[], w.pipe.outbound socket.side.other, w.signals ++ [.readable socket.side], ?_, by simp, rfl⟩
      simp only [handleReadable.go, hmax, if_true, StateT.run_bind, notify_run, StateT.run_pure,
        Pipe.setOutbound_self, List.append_nil]
      rfl
    · obtain ⟨st, data, h, sigs, hr, hdata, heof, hst⟩ := Socket.read_run socket w hsock
      have hl₁ : Sound ⟨[], socket, limits, recv ++ data, sendq, closing, false, err⟩ socket.side :=
        ⟨rfl, rfl, hclosing, hc, hb, hclean⟩
      rcases hst with ⟨rfl, hne⟩ | ⟨rfl, rfl⟩ | ⟨rfl, rfl⟩
      · -- bytes came: read on
        have hne' : data.isEmpty = false := by simpa using hne
        have hgo : (handleReadable.go (fuel + 1) start
            ⟨[], socket, limits, recv, sendq, closing, false, err⟩).run w =
            (if data.isEmpty then pure (none, (⟨[], socket, limits, recv ++ data, sendq, closing, false, err⟩ : Link))
              else handleReadable.go fuel start ⟨[], socket, limits, recv ++ data, sendq, closing, false, err⟩).run
              ⟨w.pipe.setOutbound socket.side.other h, sigs⟩ := by
          simp only [handleReadable.go, hmax, if_false, readChain, StateT.run_bind, hr]
          rfl
        rw [hgo]
        simp only [hne', Bool.false_eq_true, if_false]
        rcases ih hl₁ rfl ⟨w.pipe.setOutbound socket.side.other h, sigs⟩ with
          ⟨data₂, h₂, sigs₂, hr₂, hd₂, he₂⟩ | ⟨e, h₂, sigs₂, hr₂, hs₂⟩
        · refine .inl ⟨data ++ data₂, h₂, sigs₂, ?_, ?_, ?_⟩
          · rw [hr₂]
            simp
          · simp only [Pipe.outbound_setOutbound] at hd₂
            rw [List.append_assoc, hd₂, hdata]
          · simp only [Pipe.outbound_setOutbound] at he₂
            rw [he₂, heof]
        · refine .inr ⟨e, h₂, sigs₂, ?_, ?_⟩
          · rw [hr₂]
            simp
            rfl
          · simp only [Pipe.outbound_setOutbound] at hs₂
            exact hs₂.trans ⟨data, hdata⟩
      · -- nothing buffered: the read would block
        refine .inl ⟨[], h, sigs, ?_, by simpa using hdata, heof⟩
        simp only [handleReadable.go, hmax, if_false, readChain, StateT.run_bind, hr]
        rfl
      · -- the peer has gone: what was read before is kept, or else the link fails
        have hgo : (handleReadable.go (fuel + 1) start
            ⟨[], socket, limits, recv, sendq, closing, false, err⟩).run w =
            (if (recv ++ []).length > start then
              (Link.notify ⟨[], socket, limits, recv ++ [], sendq, closing, false, err⟩ true >>= fun _ =>
                pure (none, (⟨[], socket, limits, recv ++ [], sendq, closing, false, err⟩ : Link)))
            else
              (Link.fail ⟨[], socket, limits, recv ++ [], sendq, closing, false, err⟩ .peerClosed >>= fun r =>
                pure (some r.1, r.2))).run ⟨w.pipe.setOutbound socket.side.other h, sigs⟩ := by
          simp only [handleReadable.go, hmax, if_false, readChain, StateT.run_bind, hr]
          rfl
        rw [hgo]
        by_cases hgrew : (recv ++ []).length > start
        · refine .inl ⟨[], h, sigs ++ [.readable socket.side], ?_, by simpa using hdata, heof⟩
          simp only [hgrew, if_true, StateT.run_bind, notify_run, StateT.run_pure]
          rfl
        · obtain ⟨sigsF, hf⟩ := fail_run (l := ⟨[], socket, limits, recv ++ [], sendq, closing, false, err⟩)
            rfl rfl hsock (hclean rfl).1 rfl .peerClosed ⟨w.pipe.setOutbound socket.side.other h, sigs⟩
          refine .inr ⟨.peerClosed, h, sigsF, ?_, ⟨[], hdata⟩⟩
          simp only [hgrew, if_false, StateT.run_bind, hf, StateT.run_pure]
          rfl

theorem handleReadable_run (hopen : l.closed = false) (w : Wire) :
    l.handleReadable.run w = (handleReadable.go (l.limits.maxReadPerEvent + 1) l.recv.length l).run w := by
  simp only [Link.handleReadable, hopen, Bool.false_eq_true, if_false]

theorem write_closed (hc : l.closed = true) (p : Bytes) (w : Wire) : (l.write p).run w = (l, w) := by
  simp [Link.write, hc]
  rfl

theorem flush_closed (hc : l.closed = true) (w : Wire) : l.flush.run w = ((some l.closedErr, l), w) := by
  simp [Link.flush, hc]
  rfl

theorem handleReadable_closed (hc : l.closed = true) (w : Wire) :
    l.handleReadable.run w = ((some l.closedErr, l), w) := by
  simp [Link.handleReadable, hc]
  rfl

theorem closeAfterFlush_closed (hc : l.closed = true) (w : Wire) : l.closeAfterFlush.run w = (l, w) := by
  simp [Link.closeAfterFlush, hc]
  rfl

end Link

end LineKv.Transport
