import Mathlib
import LineKv.Proofs.LinkSteps

/-!
What reading and writing through a layer chain tell the pipe end under it. A chain is pass-through
compression layers over a socket on one end of an in-memory pipe; the socket's end is told, by
signals, when it can go on.
-/

namespace LineKv.Transport

theorem pair_bind {α β γ : Type} (a : α) (b : β) (f : α × β → Id γ) :
    @Bind.bind Id _ (α × β) γ (a, b) f = f (a, b) := rfl

@[simp] theorem Pipe.listens_setOutbound (p : Pipe) (s s' : Side) (h : Half) :
    (p.setOutbound s h).listens s' = p.listens s' := by
  cases s <;> cases s' <;> rfl

@[simp] theorem Pipe.listens_setListens_other (p : Pipe) (s : Side) (b : Bool) :
    (p.setListens s b).listens s.other = p.listens s.other := by
  cases s <;> rfl

/-! ## Signals -/

theorem raisedSignals_readable (side : Side) (w : Wire) :
    raisedSignals (.readable side) w =
      if w.pipe.listens side then w.signals ++ [.readable side] else w.signals := by
  unfold raisedSignals raise pipeNow
  by_cases h : w.pipe.listens side = true <;>
    simp only [h, StateT.run_bind, StateT.run_get, StateT.run_pure, pure_bind, if_true, if_false,
      Bool.false_eq_true, StateT.run_modify] <;> rfl

theorem raisedSignals_writable (side : Side) (w : Wire) :
    raisedSignals (.writable side) w =
      if w.pipe.listens side then w.signals ++ [.writable side] else w.signals := by
  unfold raisedSignals raise pipeNow
  by_cases h : w.pipe.listens side = true <;>
    simp only [h, StateT.run_bind, StateT.run_get, StateT.run_pure, pure_bind, if_true, if_false,
      Bool.false_eq_true, StateT.run_modify] <;> rfl

theorem prefix_raisedSignals (sig : Signal) (p : Pipe) (l : List Signal) :
    l <+: raisedSignals sig ⟨p, l⟩ := by
  cases sig with
  | readable side =>
    rw [raisedSignals_readable]
    split
    · exact List.prefix_append _ _
    · exact List.prefix_refl _
  | writable side =>
    rw [raisedSignals_writable]
    split
    · exact List.prefix_append _ _
    · exact List.prefix_refl _

/-- A wire step that changes only the direction towards one end: what reading at that end does.
The capacity, the direction the end writes to and who listens stay; signals are only added. -/
structure Wire.Inward (side : Side) (w w' : Wire) : Prop where
  capacity : w'.pipe.capacity = w.pipe.capacity
  outbound : w'.pipe.outbound side = w.pipe.outbound side
  listens : ∀ x, w'.pipe.listens x = w.pipe.listens x
  signals : w.signals <+: w'.signals

theorem Wire.Inward.refl (side : Side) (w : Wire) : Wire.Inward side w w :=
  ⟨rfl, rfl, fun _ => rfl, List.prefix_refl _⟩

theorem Wire.Inward.trans {side : Side} {w₁ w₂ w₃ : Wire} (h₁ : Wire.Inward side w₁ w₂)
    (h₂ : Wire.Inward side w₂ w₃) : Wire.Inward side w₁ w₃ :=
  ⟨h₂.capacity.trans h₁.capacity, h₂.outbound.trans h₁.outbound,
    fun x => (h₂.listens x).trans (h₁.listens x), h₁.signals.trans h₂.signals⟩

theorem Wire.Inward.signal (side : Side) (w : Wire) (sigs : List Signal) :
    Wire.Inward side w ⟨w.pipe, w.signals ++ sigs⟩ :=
  ⟨rfl, rfl, fun _ => rfl, List.prefix_append _ _⟩

/-- A wire step that changes only the direction away from one end: what writing at that end
does. -/
structure Wire.Outward (side : Side) (w w' : Wire) : Prop where
  capacity : w'.pipe.capacity = w.pipe.capacity
  inbound : w'.pipe.inbound side = w.pipe.inbound side
  listens : ∀ x, w'.pipe.listens x = w.pipe.listens x
  signals : w.signals <+: w'.signals

theorem Wire.Outward.refl (side : Side) (w : Wire) : Wire.Outward side w w :=
  ⟨rfl, rfl, fun _ => rfl, List.prefix_refl _⟩

theorem Wire.Outward.trans {side : Side} {w₁ w₂ w₃ : Wire} (h₁ : Wire.Outward side w₁ w₂)
    (h₂ : Wire.Outward side w₂ w₃) : Wire.Outward side w₁ w₃ :=
  ⟨h₂.capacity.trans h₁.capacity, h₂.inbound.trans h₁.inbound,
    fun x => (h₂.listens x).trans (h₁.listens x), h₁.signals.trans h₂.signals⟩

/-! ## Byte counts of queues -/

theorem ChunkQueue.len_consume_nonneg {q : ChunkQueue} (hq : 0 ≤ q.len) (n : Nat) :
    0 ≤ (q.consume n).len := by
  have hsize : 0 ≤ q.size := hq
  simp only [ChunkQueue.consume, ChunkQueue.len]
  split <;> omega

theorem ChunkQueue.len_push_nonneg {q : ChunkQueue} (hq : 0 ≤ q.len) (p : Bytes) :
    0 ≤ (q.push p).len := by
  have hsize : 0 ≤ q.size := hq
  simp only [ChunkQueue.push, ChunkQueue.len]
  split
  · exact hsize
  · dsimp only
    omega

/-! ## One end of a pipe -/

def Half.Waiting (h : Half) : Prop := h.readWant = true ∧ h.buf = [] ∧ h.eof = false

namespace Socket

theorem iovecs_pos (s : Socket) : 0 < s.iovecs := by
  unfold Socket.iovecs defaultMaxIovecs
  split <;> omega

def wrote (s : Socket) (src : ChunkQueue) (p : Pipe) : Nat :=
  fit (src.peek s.iovecs) (p.capacity - (p.outbound s.side).buf.length)

/-- A write that cannot go on (the end is closed, nothing is queued, or the reader has gone) leaves
the wire and the queue as they were, and does not report blocking. -/
theorem write_run_idle (s : Socket) (src : ChunkQueue) (w : Wire)
    (h : ¬(s.closed = false ∧ src.len ≠ 0 ∧ (w.pipe.outbound s.side).eof = false)) :
    ∃ st e, (s.write src).run w = ((st, e, src), w) ∧ (st = .progressed → src.len = 0) ∧
      st ≠ .wouldBlock := by
  unfold Socket.write pipeNow
  by_cases hc : s.closed = true
  · simp only [hc, if_true, StateT.run_pure]
    exact ⟨_, _, rfl, nofun, nofun⟩
  by_cases hz : src.len = 0
  · simp only [hc, Bool.false_eq_true, if_false]
    rw [if_pos hz]
    exact ⟨_, _, rfl, fun _ => hz, nofun⟩
  have he : (w.pipe.outbound s.side).eof = true := by simpa [hc, hz] using h
  simp only [hc, hz, he, Bool.false_eq_true, if_false, if_true, StateT.run_bind, StateT.run_get,
    StateT.run_pure, pure_bind]
  exact ⟨_, _, rfl, nofun, nofun⟩

/-- A write at an open end of a queue that is not empty, while the reader is there: the bytes
that fit are appended, a waiting reader is signalled, the rest stays queued with write interest
registered, and a write stopped by the chunk limit with room left signals its own end. -/
theorem write_run_open (s : Socket) (hs : s.closed = false) {src : ChunkQueue} (hz : src.len ≠ 0)
    (w : Wire) (he : (w.pipe.outbound s.side).eof = false) :
    ∃ sigs, (s.write src).run w =
        ((if (src.consume (s.wrote src w.pipe)).len > 0 then .wouldBlock else .progressed, none,
          src.consume (s.wrote src w.pipe)),
        ⟨w.pipe.setOutbound s.side { w.pipe.outbound s.side with
            buf := (w.pipe.outbound s.side).buf ++ (src.peek s.iovecs).flatten.take (s.wrote src w.pipe)
            readWant := (w.pipe.outbound s.side).readWant &&
              !(decide (s.wrote src w.pipe > 0) && (w.pipe.outbound s.side).readWant)
            writeWant := (w.pipe.outbound s.side).writeWant ||
              decide ((src.consume (s.wrote src w.pipe)).len > 0) }, sigs⟩) ∧
      w.signals <+: sigs ∧
      (0 < s.wrote src w.pipe → (w.pipe.outbound s.side).readWant = true →
        w.pipe.listens s.side.other = true → .readable s.side.other ∈ sigs) ∧
      (0 < (src.consume (s.wrote src w.pipe)).len →
        s.wrote src w.pipe < w.pipe.capacity - (w.pipe.outbound s.side).buf.length →
        w.pipe.listens s.side = true → .writable s.side ∈ sigs) := by
  unfold Socket.write wrote pipeNow setPipe
  simp only [hs, hz, he, Bool.false_eq_true, if_false, StateT.run_bind, StateT.run_get,
    StateT.run_pure, StateT.run_modify, pure_bind]
  -- the signals the write raises, each added only if its end listens
  have hraise : ∀ (sig : Signal) (w₁ : Wire), w.signals <+: w₁.signals →
      w.signals <+: raisedSignals sig w₁ :=
    fun sig w₁ hp => hp.trans (prefix_raisedSignals sig w₁.pipe w₁.signals)
  have hkeep : ∀ (x sig : Signal) (w₁ : Wire), x ∈ w₁.signals → x ∈ raisedSignals sig w₁ :=
    fun x sig w₁ hx => (prefix_raisedSignals sig w₁.pipe w₁.signals).subset hx
  have hR : ∀ (w₁ : Wire), w₁.pipe.listens s.side.other = true →
      .readable s.side.other ∈ raisedSignals (.readable s.side.other) w₁ := fun w₁ hl => by
    simp [raisedSignals_readable, hl]
  have hW : ∀ (w₁ : Wire), w₁.pipe.listens s.side = true →
      .writable s.side ∈ raisedSignals (.writable s.side) w₁ := fun w₁ hl => by
    simp [raisedSignals_writable, hl]
  by_cases hb : (src.consume (fit (src.peek s.iovecs)
      (w.pipe.capacity - (w.pipe.outbound s.side).buf.length))).len > 0
  · by_cases hsp : w.pipe.capacity - (w.pipe.outbound s.side).buf.length -
        fit (src.peek s.iovecs) (w.pipe.capacity - (w.pipe.outbound s.side).buf.length) > 0
    · -- bytes are left and the pipe has room: the chunk limit stopped the write
      by_cases hn : (decide (fit (src.peek s.iovecs) (w.pipe.capacity - (w.pipe.outbound s.side).buf.length) > 0) &&
          (w.pipe.outbound s.side).readWant) = true <;>
      simp only [hn, hb, hsp, Bool.false_eq_true, if_false, if_true, StateT.run_bind, StateT.run_pure,
        pair_bind, raise_run] <;>
      refine ⟨_, rfl, ?_, ?_, fun _ _ hl => hW _ (by simpa using hl)⟩
      · exact hraise _ _ (hraise _ _ (List.prefix_refl _))
      · exact fun _ _ hl => hkeep _ _ _ (hR _ (by simpa using hl))
      · exact hraise _ _ (List.prefix_refl _)
      · exact fun hw hr _ => absurd (by simp [hw, hr]) hn
    · -- bytes are left and the pipe is full
      by_cases hn : (decide (fit (src.peek s.iovecs) (w.pipe.capacity - (w.pipe.outbound s.side).buf.length) > 0) &&
          (w.pipe.outbound s.side).readWant) = true <;>
      simp only [hn, hb, hsp, Bool.false_eq_true, if_false, if_true, StateT.run_bind, StateT.run_pure,
        pair_bind, raise_run] <;>
      refine ⟨_, rfl, ?_, ?_, fun _ hlt _ => absurd (by omega) hsp⟩
      · exact hraise _ _ (List.prefix_refl _)
      · exact fun _ _ hl => hR _ (by simpa using hl)
      · exact List.prefix_refl _
      · exact fun hw hr _ => absurd (by simp [hw, hr]) hn
  · -- everything queued was written
    by_cases hn : (decide (fit (src.peek s.iovecs) (w.pipe.capacity - (w.pipe.outbound s.side).buf.length) > 0) &&
        (w.pipe.outbound s.side).readWant) = true <;>
    simp only [hn, hb, Bool.false_eq_true, if_false, if_true, StateT.run_bind, StateT.run_pure,
      pair_bind, raise_run] <;>
    refine ⟨_, rfl, ?_, ?_, fun hpos => hpos.elim⟩
    · exact hraise _ _ (List.prefix_refl _)
    · exact fun _ _ hl => hR _ (by simpa using hl)
    · exact List.prefix_refl _
    · exact fun hw hr _ => absurd (by simp [hw, hr]) hn

theorem write_outward (s : Socket) (src : ChunkQueue) (w : Wire) :
    Wire.Outward s.side w ((s.write src).run w).2 := by
  by_cases hgo : s.closed = false ∧ src.len ≠ 0 ∧ (w.pipe.outbound s.side).eof = false
  · obtain ⟨sigs, hrun, hpre, -⟩ := write_run_open s hgo.1 hgo.2.1 w hgo.2.2
    rw [hrun]
    exact ⟨by simp, by simp, fun _ => by simp, hpre⟩
  · obtain ⟨st, e, hrun, -⟩ := write_run_idle s src w hgo
    rw [hrun]
    exact Wire.Outward.refl _ _

/-- A write at an open, listening end keeps a count that is not negative, and what it leaves
unsent has write interest registered and either its end signalled or the pipe full. -/
theorem write_blocked (s : Socket) (hs : s.closed = false) {src : ChunkQueue} (hsrc : 0 ≤ src.len)
    {w w' : Wire} {st : WriteStatus} {e : Option LinkError} {src' : ChunkQueue}
    (h : (s.write src).run w = ((st, e, src'), w')) (hl : w.pipe.listens s.side = true) :
    0 ≤ src'.len ∧
      ((st = .progressed ∨ st = .wouldBlock) → 0 < src'.len →
        (w'.pipe.outbound s.side).writeWant = true ∧
          (.writable s.side ∈ w'.signals ∨ w'.pipe.capacity ≤ (w'.pipe.outbound s.side).buf.length)) := by
  by_cases hgo : s.closed = false ∧ src.len ≠ 0 ∧ (w.pipe.outbound s.side).eof = false
  · obtain ⟨sigs, hrun, -, -, hW⟩ := write_run_open s hs hgo.2.1 w hgo.2.2
    rw [hrun] at h
    obtain ⟨h₁, rfl⟩ := Prod.mk.inj h
    simp only [Prod.mk.injEq] at h₁
    obtain ⟨rfl, rfl, rfl⟩ := h₁
    refine ⟨ChunkQueue.len_consume_nonneg hsrc _, fun _ hpos => ⟨by simp [hpos], ?_⟩⟩
    by_cases hroom : s.wrote src w.pipe < w.pipe.capacity - (w.pipe.outbound s.side).buf.length
    · exact .inl (hW hpos hroom hl)
    · -- nothing was left of the room: the write filled the pipe
      right
      have hle : s.wrote src w.pipe ≤ w.pipe.capacity - (w.pipe.outbound s.side).buf.length :=
        fit_le_space _ _
      have hdata : ((src.peek s.iovecs).flatten.take (s.wrote src w.pipe)).length = s.wrote src w.pipe :=
        List.length_take_of_le (fit_le_length _ _)
      rw [Pipe.capacity_setOutbound, Pipe.outbound_setOutbound, List.length_append, hdata]
      omega
  · obtain ⟨st₀, e₀, hrun, hprog, hwb⟩ := write_run_idle s src w hgo
    rw [hrun] at h
    obtain ⟨h₁, rfl⟩ := Prod.mk.inj h
    simp only [Prod.mk.injEq] at h₁
    obtain ⟨rfl, rfl, rfl⟩ := h₁
    refine ⟨hsrc, fun hst hpos => ?_⟩
    rcases hst with rfl | rfl
    · exact absurd (hprog rfl) (by omega)
    · exact absurd rfl hwb

/-- A write wakes a reader waiting across the pipe, or leaves it waiting. -/
theorem write_wakes_reader (s : Socket) (src : ChunkQueue) (w : Wire)
    (hwait : (w.pipe.outbound s.side).Waiting) (hl : w.pipe.listens s.side.other = true) :
    (((s.write src).run w).2.pipe.outbound s.side).Waiting ∨
      .readable s.side.other ∈ ((s.write src).run w).2.signals := by
  by_cases hgo : s.closed = false ∧ src.len ≠ 0 ∧ (w.pipe.outbound s.side).eof = false
  · obtain ⟨sigs, hrun, -, hR, -⟩ := write_run_open s hgo.1 hgo.2.1 w hgo.2.2
    rw [hrun]
    by_cases hpos : 0 < s.wrote src w.pipe
    · exact .inr (hR hpos hwait.1 hl)
    · -- nothing fitted: the direction is as it was
      have hz : s.wrote src w.pipe = 0 := by omega
      left
      simpa [Half.Waiting, hz] using hwait
  · obtain ⟨st, e, hrun, -⟩ := write_run_idle s src w hgo
    rw [hrun]
    exact .inl hwait

theorem push_empty {b : Bytes} (hb : b ≠ []) : ChunkQueue.empty.push b = ⟨[b], b.length⟩ := by
  simp [ChunkQueue.push, ChunkQueue.empty, hb]

theorem push_len_ne_zero {b : Bytes} (hb : b ≠ []) : (ChunkQueue.empty.push b).len ≠ 0 := by
  have hlen : (b.length : Int) ≠ 0 := by
    have := List.length_pos_of_ne_nil hb
    omega
  simpa [push_empty hb, ChunkQueue.len] using hlen

theorem peek_push_empty (s : Socket) {b : Bytes} (hb : b ≠ []) :
    (ChunkQueue.empty.push b).peek s.iovecs = [b] := by
  rw [push_empty hb, ChunkQueue.peek, List.take_of_length_le s.iovecs_pos]

theorem wrote_chunk_pos (s : Socket) {b : Bytes} (hb : b ≠ []) {p : Pipe}
    (hempty : (p.outbound s.side).buf = []) (hcap : 0 < p.capacity) :
    0 < s.wrote (ChunkQueue.empty.push b) p := by
  unfold wrote
  rw [peek_push_empty s hb, hempty, List.length_nil, Nat.sub_zero, fit, if_neg (by omega)]
  have := List.length_pos_of_ne_nil hb
  omega

/-- A write of one chunk by an open end into an empty direction with room, the stream not ended,
leaves bytes buffered there. -/
theorem write_chunk_fills (s : Socket) (hs : s.closed = false) {b : Bytes} (hb : b ≠ []) (w : Wire)
    (hempty : (w.pipe.outbound s.side).buf = []) (heof : (w.pipe.outbound s.side).eof = false)
    (hcap : 0 < w.pipe.capacity) :
    (((s.write (ChunkQueue.empty.push b)).run w).2.pipe.outbound s.side).buf ≠ [] := by
  obtain ⟨sigs, hrun, -⟩ := write_run_open s hs (push_len_ne_zero hb) w heof
  rw [hrun]
  have hpos := wrote_chunk_pos s hb hempty hcap
  simp only [Pipe.outbound_setOutbound, hempty, List.nil_append, peek_push_empty s hb, List.flatten_singleton,
    ne_eq, List.take_eq_nil_iff, not_or]
  exact ⟨by omega, hb⟩

/-- What a read at an open end leaves: only the direction towards it changes; it fails never;
bytes it brings empty the pipe; a read that would block leaves the end waiting; an empty pipe
brings nothing; a writer waiting for room across the pipe is signalled; and bytes buffered are all
taken. -/
structure Reading (side : Side) (w : Wire) (st : ReadStatus) (data : Bytes) (w' : Wire) : Prop where
  inward : Wire.Inward side w w'
  notError : st ≠ .error
  consumed : st = .consumed → data ≠ [] ∧ (w'.pipe.inbound side).buf = []
  wouldBlock : st = .wouldBlock → (w'.pipe.inbound side).Waiting
  drained : (w.pipe.inbound side).buf = [] → st ≠ .consumed
  writer : (w.pipe.inbound side).buf ≠ [] → (w.pipe.inbound side).writeWant = true →
    w.pipe.listens side.other = true → .writable side.other ∈ w'.signals
  emptied : (w.pipe.inbound side).buf ≠ [] → (w'.pipe.inbound side).buf = []

theorem read_reading (s : Socket) (hs : s.closed = false) {w w' : Wire} {st : ReadStatus}
    {e : Option LinkError} {data : Bytes} (h : s.read.run w = ((st, e, data), w')) :
    Reading s.side w st data w' := by
  unfold Socket.read pipeNow setPipe at h
  simp only [hs, StateT.run_bind, StateT.run_get, pure_bind, StateT.run_pure,
    Bool.false_eq_true, if_false, Pipe.inbound_eq, Pipe.setInbound_eq] at h
  by_cases hempty : (w.pipe.outbound s.side.other).buf.isEmpty = true
  · have hnil : (w.pipe.outbound s.side.other).buf = [] := List.isEmpty_iff.1 hempty
    by_cases heof : (w.pipe.outbound s.side.other).eof = true
    · -- the stream ended with nothing left: nothing changes
      simp only [hempty, heof, if_true, StateT.run_pure] at h
      obtain ⟨h₁, rfl⟩ := Prod.mk.inj h
      simp only [Prod.mk.injEq] at h₁
      obtain ⟨rfl, rfl, rfl⟩ := h₁
      exact ⟨Wire.Inward.refl _ _, nofun, nofun, nofun, fun _ => nofun, fun hne => absurd hnil hne,
        fun hne => absurd hnil hne⟩
    · -- nothing buffered: read interest is registered
      simp only [hempty, heof, if_true, Bool.false_eq_true, if_false, StateT.run_bind, StateT.run_modify,
        pure_bind, StateT.run_pure] at h
      obtain ⟨h₁, rfl⟩ := Prod.mk.inj h
      simp only [Prod.mk.injEq] at h₁
      obtain ⟨rfl, rfl, rfl⟩ := h₁
      exact ⟨⟨by simp, by simp, fun _ => by simp, List.prefix_refl _⟩, nofun, nofun,
        fun _ => by simp [Half.Waiting, hnil], fun _ => nofun, fun hne => absurd hnil hne,
        fun hne => absurd hnil hne⟩
  · have hne : (w.pipe.outbound s.side.other).buf ≠ [] := fun h => hempty (List.isEmpty_iff.2 h)
    simp only [hempty, Bool.false_eq_true, if_false, StateT.run_bind, StateT.run_modify, pure_bind] at h
    -- everything buffered is taken, and a writer waiting for room is signalled
    have hin : ∀ sigs : List Signal, w.signals <+: sigs →
        Wire.Inward s.side w ⟨w.pipe.setOutbound s.side.other
          { w.pipe.outbound s.side.other with buf := [], writeWant := false }, sigs⟩ :=
      fun sigs hp => ⟨by simp, by simp, fun _ => by simp, hp⟩
    by_cases hw : (w.pipe.outbound s.side.other).writeWant = true
    · simp only [hw, if_true, StateT.run_bind, raise_run, pair_bind, StateT.run_pure] at h
      obtain ⟨⟨rfl, rfl, rfl⟩, rfl⟩ := h
      exact ⟨hin _ (prefix_raisedSignals _ _ _), nofun, fun _ => ⟨hne, by simp⟩, nofun,
        fun h => absurd h hne, fun _ _ hl => by simp [raisedSignals_writable, hl], fun _ => by simp⟩
    · simp only [hw, Bool.false_eq_true, if_false, StateT.run_pure] at h
      obtain ⟨⟨rfl, rfl, rfl⟩, rfl⟩ := h
      exact ⟨hin _ (List.prefix_refl _), nofun, fun _ => ⟨hne, by simp⟩, nofun,
        fun h => absurd h hne, fun _ hw' _ => absurd (by simpa using hw') hw, fun _ => by simp⟩

theorem close_run_closed {s : Socket} (hs : s.closed = true) (w : Wire) : s.close.run w = (s, w) := by
  simp only [Socket.close, hs, if_true]
  rfl

/-- Closing an open end signals the other end readable and writable, when it listens, and keeps
the capacity and whether the other end listens. -/
theorem close_wakes (s : Socket) (hs : s.closed = false) {w : Wire} (hl : w.pipe.listens s.side.other = true)
    {s' : Socket} {w' : Wire} (h : s.close.run w = (s', w')) :
    w'.pipe.capacity = w.pipe.capacity ∧ w'.pipe.listens s.side.other = true ∧
      .readable s.side.other ∈ w'.signals ∧ .writable s.side.other ∈ w'.signals := by
  unfold Socket.close pipeNow setPipe at h
  simp only [hs, Bool.false_eq_true, if_false, StateT.run_bind, StateT.run_get, pure_bind,
    StateT.run_modify, raise_run, pair_bind, StateT.run_pure] at h
  obtain ⟨-, rfl⟩ := Prod.mk.inj h
  refine ⟨by simp, by simpa using hl, ?_, by simp [raisedSignals_writable, hl]⟩
  exact (prefix_raisedSignals _ _ _).subset (by simp [raisedSignals_readable, hl])

theorem close_fst (s : Socket) (w : Wire) : (s.close.run w).1 = { s with closed := true } := by
  by_cases hs : s.closed = true
  · rw [close_run_closed hs]
    obtain ⟨side, closed, m⟩ := s
    cases hs
    rfl
  · unfold Socket.close pipeNow setPipe
    simp only [hs, Bool.false_eq_true, if_false, StateT.run_bind, StateT.run_get, pure_bind,
      StateT.run_modify, raise_run, pair_bind, StateT.run_pure]
    rfl

theorem close_capacity (s : Socket) (w : Wire) : (s.close.run w).2.pipe.capacity = w.pipe.capacity := by
  by_cases hs : s.closed = true
  · rw [close_run_closed hs]
  · obtain ⟨sigs, h⟩ := close_run s w (by simpa using hs)
    rw [h]
    simp

end Socket

/-! ## Compression layers -/

namespace Compressor

/-- A layer with no whole frame waiting in its inbox and no oversized header: decoding gives
nothing and changes nothing. -/
def Idle (c : Compressor) : Prop :=
  c.inbox.length < headerLen ∨
    Bytes.beValue (c.inbox.take headerLen) ≤ c.maxFrame ∧
      c.inbox.length < headerLen + Bytes.beValue (c.inbox.take headerLen)

def shell (c : Compressor) : Compressor := { c with inbox := [] }

theorem decodeFrames_of_idle {c : Compressor} (hc : c.Idle) (fuel : Nat) :
    c.decodeFrames fuel = ([], 0, none, c) := by
  cases fuel with
  | zero => rfl
  | succ fuel =>
    unfold decodeFrames
    by_cases hshort : c.inbox.length < headerLen
    · rw [if_pos hshort]
    · obtain ⟨hsize, hpart⟩ := hc.resolve_left hshort
      rw [if_neg hshort]
      dsimp only
      rw [if_neg (by omega), if_pos hpart]

theorem decodeFrames_spec (fuel : Nat) (c : Compressor) (hfuel : c.inbox.length < headerLen * fuel) :
    let r := c.decodeFrames fuel
    r.2.2.2.shell = c.shell ∧ (r.2.2.1 = none → r.2.1 = r.1.length ∧ r.2.2.2.Idle) := by
  induction fuel generalizing c with
  | zero => simp at hfuel
  | succ fuel ih =>
    unfold decodeFrames
    by_cases hshort : c.inbox.length < headerLen
    · rw [if_pos hshort]
      exact ⟨rfl, fun _ => ⟨rfl, .inl hshort⟩⟩
    rw [if_neg hshort]
    dsimp only
    by_cases hbig : Bytes.beValue (c.inbox.take headerLen) > c.maxFrame
    · rw [if_pos hbig]
      exact ⟨rfl, fun h => absurd h (by simp)⟩
    rw [if_neg hbig]
    by_cases hpart : c.inbox.length < headerLen + Bytes.beValue (c.inbox.take headerLen)
    · rw [if_pos hpart]
      exact ⟨rfl, fun _ => ⟨rfl, .inr ⟨Nat.le_of_not_gt hbig, hpart⟩⟩⟩
    rw [if_neg hpart]
    -- one whole frame comes off the front; the rest has less than `fuel` frames' worth of headers
    set c₁ : Compressor := { c with inbox := c.inbox.drop (headerLen + Bytes.beValue (c.inbox.take headerLen)) }
    have hshell : c₁.shell = c.shell := rfl
    have hfuel₁ : c₁.inbox.length < headerLen * fuel := by
      simp only [c₁, List.length_drop, Nat.mul_succ] at hfuel ⊢
      omega
    split
    · exact ⟨hshell, fun h => absurd h (by simp)⟩
    · obtain ⟨ih₁, ih₂⟩ := ih c₁ hfuel₁
      refine ⟨ih₁.trans hshell, fun h => ?_⟩
      obtain ⟨hn, hidle⟩ := ih₂ h
      exact ⟨by simp [hn], hidle⟩

theorem attached_of_shells {cs cs' : List Compressor}
    (h : cs'.map Compressor.shell = cs.map Compressor.shell) (hcs : ∀ c ∈ cs, c.attached = true) :
    ∀ c ∈ cs', c.attached = true := by
  intro c hc
  obtain ⟨d, hd, he⟩ := List.mem_map.1 (h ▸ List.mem_map_of_mem (f := Compressor.shell) hc)
  exact (congrArg Compressor.attached he).symm.trans (hcs d hd)

end Compressor

/-! ## Chains of layers -/

/-- What a pull through layers `cs` over the socket at `side`, from wire `w`, leaves when it returns
status `st`, bytes `data`, layers `cs'` and wire `w'`. -/
structure Pulled (side : Side) (w : Wire) (cs : List Compressor) (st : ReadStatus) (data : Bytes)
    (cs' : List Compressor) (w' : Wire) : Prop where
  inward : Wire.Inward side w w'
  shells : cs'.map Compressor.shell = cs.map Compressor.shell
  idle : st ≠ .error → ∀ c ∈ cs', c.Idle
  consumed : st = .consumed → data ≠ [] ∧ (w'.pipe.inbound side).buf = []
  wouldBlock : st = .wouldBlock → (w'.pipe.inbound side).Waiting

/-- A pull through `n` layers, started with every layer attached and idle, leaves what `Pulled`
says and brings nothing from an empty pipe. -/
def Pulls (side : Side) (n : Nat)
    (inner : List Compressor → WireM (ReadStatus × Option LinkError × Bytes × List Compressor)) : Prop :=
  ∀ (cs : List Compressor) (w : Wire) st e data cs' (w' : Wire), cs.length = n →
    (∀ c ∈ cs, c.attached = true ∧ c.Idle) → (inner cs).run w = ((st, e, data, cs'), w') →
    Pulled side w cs st data cs' w' ∧ ((w.pipe.inbound side).buf = [] → st ≠ .consumed)

section Rounds

variable {side : Side} {n : Nat}
  {inner : List Compressor → WireM (ReadStatus × Option LinkError × Bytes × List Compressor)}

/-- A second round of a layer, after a pull that emptied the pipe: another pull cannot bring
bytes, so the round ends. -/
theorem go_drained (hi : Pulls side n inner) (fuel : Nat) {c : Compressor} (hc : c.attached = true)
    {cs : List Compressor} (hn : cs.length = n) (hcs : ∀ x ∈ cs, x.attached = true ∧ x.Idle)
    (acc : Bytes) {w : Wire} (hw : (w.pipe.inbound side).buf = []) {st : ReadStatus}
    {e : Option LinkError} {data : Bytes} {c' : Compressor} {cs' : List Compressor} {w' : Wire}
    (h : (Compressor.readWith.go inner (fuel + 1) c cs acc).run w = ((st, e, data, c', cs'), w')) :
    Pulled side w (c :: cs) st data (c' :: cs') w' := by
  rw [Compressor.readWith.go, if_neg (by simp [hc])] at h
  obtain ⟨hshell, hnone⟩ := Compressor.decodeFrames_spec (c.inbox.length / headerLen + 1) c (by
    unfold headerLen; omega)
  rcases hdec : c.decodeFrames (c.inbox.length / headerLen + 1) with ⟨got, k, err, c₁⟩
  rw [hdec] at h hshell hnone
  dsimp only at h hshell hnone
  have hshells : ∀ cs₁ : List Compressor, cs₁.map Compressor.shell = cs.map Compressor.shell →
      (c₁ :: cs₁).map Compressor.shell = (c :: cs).map Compressor.shell := fun cs₁ h₁ => by
    simp only [List.map_cons, hshell, h₁]
  cases err with
  | some e =>
    -- a frame failed to decode
    simp only [StateT.run_pure] at h
    obtain ⟨⟨rfl, rfl, rfl, rfl, rfl⟩, rfl⟩ := h
    exact ⟨Wire.Inward.refl _ _, hshells cs rfl, fun h => absurd rfl h, nofun, nofun⟩
  | none =>
    obtain ⟨hk, hidle₁⟩ := hnone rfl
    dsimp only at h
    by_cases hpos : k > 0
    · -- whole frames were there: their plaintext comes out
      simp only [hpos, if_true, StateT.run_pure] at h
      obtain ⟨⟨rfl, rfl, rfl, rfl, rfl⟩, rfl⟩ := h
      refine ⟨Wire.Inward.refl _ _, hshells cs rfl, fun _ x hx => ?_, fun _ => ⟨?_, hw⟩, nofun⟩
      · rcases List.mem_cons.1 hx with rfl | hx
        · exact hidle₁
        · exact (hcs x hx).2
      · intro hnil
        have : got = [] := (List.append_eq_nil_iff.1 hnil).2
        subst this
        simp at hk
        omega
    · -- nothing decoded: pull once more from the drained pipe
      simp only [hpos, if_false, StateT.run_bind] at h
      rcases hr : (inner cs).run w with ⟨⟨st₁, e₁, d₁, cs₁⟩, w₁⟩
      obtain ⟨hp, hdr⟩ := hi cs w st₁ e₁ d₁ cs₁ w₁ hn hcs hr
      rw [hr, pair_bind] at h
      dsimp only at h
      have hidle : st₁ ≠ .error → ∀ x ∈ c₁ :: cs₁, x.Idle := fun hst x hx => by
        rcases List.mem_cons.1 hx with rfl | hx
        · exact hidle₁
        · exact hp.idle hst x hx
      cases st₁ with
      | consumed => exact absurd rfl (hdr hw)
      | wouldBlock =>
        simp only [StateT.run_pure] at h
        obtain ⟨⟨rfl, rfl, rfl, rfl, rfl⟩, rfl⟩ := h
        exact ⟨hp.inward, hshells _ hp.shells, hidle, nofun, fun _ => hp.wouldBlock rfl⟩
      | closed =>
        simp only [StateT.run_pure] at h
        obtain ⟨⟨rfl, rfl, rfl, rfl, rfl⟩, rfl⟩ := h
        exact ⟨hp.inward, hshells _ hp.shells, hidle, nofun, nofun⟩
      | error =>
        simp only [StateT.run_pure] at h
        obtain ⟨⟨rfl, rfl, rfl, rfl, rfl⟩, rfl⟩ := h
        exact ⟨hp.inward, hshells _ hp.shells, hidle, nofun, nofun⟩

/-- A first round of an idle layer pulls from below, and at most one more round follows. -/
theorem go_idle (hi : Pulls side n inner) (fuel : Nat) {c : Compressor} (hc : c.attached = true)
    (hidle : c.Idle) {cs : List Compressor} (hn : cs.length = n)
    (hcs : ∀ x ∈ cs, x.attached = true ∧ x.Idle) (acc : Bytes) {w : Wire} {st : ReadStatus}
    {e : Option LinkError} {data : Bytes} {c' : Compressor} {cs' : List Compressor} {w' : Wire}
    (h : (Compressor.readWith.go inner (fuel + 2) c cs acc).run w = ((st, e, data, c', cs'), w')) :
    Pulled side w (c :: cs) st data (c' :: cs') w' ∧ ((w.pipe.inbound side).buf = [] → st ≠ .consumed) := by
  rw [Compressor.readWith.go, if_neg (by simp [hc]), Compressor.decodeFrames_of_idle hidle] at h
  simp only [List.append_nil, gt_iff_lt, Nat.lt_irrefl, if_false, StateT.run_bind] at h
  -- nothing to decode: pull from below
  rcases hr : (inner cs).run w with ⟨⟨st₁, e₁, d₁, cs₁⟩, w₁⟩
  obtain ⟨hp, hdr⟩ := hi cs w st₁ e₁ d₁ cs₁ w₁ hn hcs hr
  rw [hr, pair_bind] at h
  dsimp only at h
  have hshells : ∀ c₁ : Compressor, c₁.shell = c.shell →
      (c₁ :: cs₁).map Compressor.shell = (c :: cs).map Compressor.shell := fun c₁ h₁ => by
    simp only [List.map_cons, h₁, hp.shells]
  have hidle₁ : st₁ ≠ .error → ∀ x ∈ c :: cs₁, x.Idle := fun hst x hx => by
    rcases List.mem_cons.1 hx with rfl | hx
    · exact hidle
    · exact hp.idle hst x hx
  cases st₁ with
  | consumed =>
    -- bytes came: decode them, pulling once more if no whole frame is there
    obtain ⟨hne, hbuf⟩ := hp.consumed rfl
    rw [if_neg (by simpa using hne)] at h
    have hlen : cs₁.length = n := by rw [← hn, ← List.length_map (f := Compressor.shell), hp.shells,
      List.length_map]
    have hcs₁ : ∀ x ∈ cs₁, x.attached = true ∧ x.Idle := fun x hx =>
      ⟨Compressor.attached_of_shells hp.shells (fun y hy => (hcs y hy).1) x hx, hp.idle nofun x hx⟩
    have h₂ := go_drained hi fuel (c := { c with inbox := c.inbox ++ d₁ }) hc hlen hcs₁ acc hbuf h
    refine ⟨⟨hp.inward.trans h₂.inward, h₂.shells.trans (hshells _ rfl), h₂.idle, h₂.consumed,
      h₂.wouldBlock⟩, fun hw => absurd rfl (hdr hw)⟩
  | wouldBlock =>
    simp only [StateT.run_pure] at h
    obtain ⟨⟨rfl, rfl, rfl, rfl, rfl⟩, rfl⟩ := h
    exact ⟨⟨hp.inward, hshells _ rfl, hidle₁, nofun, fun _ => hp.wouldBlock rfl⟩, fun _ => nofun⟩
  | closed =>
    simp only [StateT.run_pure] at h
    obtain ⟨⟨rfl, rfl, rfl, rfl, rfl⟩, rfl⟩ := h
    exact ⟨⟨hp.inward, hshells _ rfl, hidle₁, nofun, nofun⟩, fun _ => nofun⟩
  | error =>
    simp only [StateT.run_pure] at h
    obtain ⟨⟨rfl, rfl, rfl, rfl, rfl⟩, rfl⟩ := h
    exact ⟨⟨hp.inward, hshells _ rfl, hidle₁, nofun, nofun⟩, fun _ => nofun⟩

end Rounds

theorem readChain_pulls (sock : Socket) (hs : sock.closed = false) (n : Nat) :
    Pulls sock.side n (readChain sock (n + 1)) := by
  induction n with
  | zero =>
    -- the socket alone
    intro cs w st e data cs' w' hn _ h
    rw [List.length_eq_zero_iff.1 hn] at h
    simp only [readChain, StateT.run_bind] at h
    rcases hr : sock.read.run w with ⟨⟨st₁, e₁, d₁⟩, w₁⟩
    have hrd := Socket.read_reading sock hs hr
    rw [hr, pair_bind] at h
    simp only [StateT.run_pure] at h
    obtain ⟨⟨rfl, rfl, rfl, rfl⟩, rfl⟩ := h
    rw [List.length_eq_zero_iff.1 hn]
    exact ⟨⟨hrd.inward, rfl, fun _ _ hx => absurd hx List.not_mem_nil, hrd.consumed, hrd.wouldBlock⟩,
      hrd.drained⟩
  | succ n ih =>
    -- a layer over the chain below it
    intro cs w st e data cs' w' hn hcs h
    obtain ⟨c, cs₀, rfl⟩ := List.exists_cons_of_length_eq_add_one hn
    simp only [readChain, StateT.run_bind, Compressor.readWith] at h
    rcases hr : (Compressor.readWith.go (readChain sock (n + 1)) 3 c cs₀ []).run w with
      ⟨⟨st₁, e₁, d₁, c₁, cs₁⟩, w₁⟩
    have hlen : cs₀.length = n := by simpa using hn
    obtain ⟨hp, hdr⟩ := go_idle ih 1 (hcs c (by simp)).1 (hcs c (by simp)).2 hlen
      (fun x hx => hcs x (by simp [hx])) [] hr
    rw [hr, pair_bind] at h
    simp only [StateT.run_pure] at h
    obtain ⟨⟨rfl, rfl, rfl, rfl⟩, rfl⟩ := h
    exact ⟨hp, hdr⟩

def Compressor.hull (c : Compressor) : Compressor := { c with out := .empty }

/-- What a push of `src` through layers `cs` over the socket at `side`, from wire `w`, leaves when it
returns status `st`, the unsent rest `src'`, layers `cs'` and wire `w'`. -/
structure Pushed (side : Side) (w : Wire) (cs : List Compressor) (st : WriteStatus) (src' : ChunkQueue)
    (cs' : List Compressor) (w' : Wire) : Prop where
  outward : Wire.Outward side w w'
  hulls : cs'.map Compressor.hull = cs.map Compressor.hull
  held : ∀ c ∈ cs', 0 ≤ c.out.len
  rest : 0 ≤ src'.len
  blocked : (st = .progressed ∨ st = .wouldBlock) → 0 < src'.len + (cs'.map (·.pending)).sum →
    (w'.pipe.outbound side).writeWant = true ∧
      (.writable side ∈ w'.signals ∨ w'.pipe.capacity ≤ (w'.pipe.outbound side).buf.length)

theorem writeChain_pushed (sock : Socket) (hs : sock.closed = false) (n : Nat) :
    ∀ (cs : List Compressor) (src : ChunkQueue) (w : Wire) st e src' cs' (w' : Wire), cs.length = n →
      (∀ c ∈ cs, c.attached = true ∧ 0 ≤ c.out.len) → 0 ≤ src.len → w.pipe.listens sock.side = true →
      (writeChain sock (n + 1) cs src).run w = ((st, e, src', cs'), w') →
      Pushed sock.side w cs st src' cs' w' := by
  induction n with
  | zero =>
    -- the socket alone
    intro cs src w st e src' cs' w' hn _ hsrc hl h
    rw [List.length_eq_zero_iff.1 hn] at h ⊢
    simp only [writeChain, StateT.run_bind] at h
    rcases hr : (sock.write src).run w with ⟨⟨st₁, e₁, src₁⟩, w₁⟩
    have hout := Socket.write_outward sock src w
    obtain ⟨hrest, hblk⟩ := Socket.write_blocked sock hs hsrc hr hl
    rw [hr] at hout
    rw [hr, pair_bind] at h
    simp only [StateT.run_pure] at h
    obtain ⟨⟨rfl, rfl, rfl, rfl⟩, rfl⟩ := h
    exact ⟨hout, rfl, fun _ hc => absurd hc List.not_mem_nil, hrest, fun hst hpos => hblk hst (by simpa using hpos)⟩
  | succ n ih =>
    -- a layer frames what it is given and pushes its frames down
    intro cs src w st e src' cs' w' hn hcs hsrc hl h
    obtain ⟨c, cs₀, rfl⟩ := List.exists_cons_of_length_eq_add_one hn
    have hc := hcs c (by simp)
    have hcs₀ : ∀ x ∈ cs₀, x.attached = true ∧ 0 ≤ x.out.len := fun x hx => hcs x (by simp [hx])
    simp only [writeChain, StateT.run_bind, Compressor.writeWith] at h
    rw [if_neg (by simp [hc.1])] at h
    -- what the layer hands down: its frames, with everything queued framed first
    obtain ⟨c₁, src₁, hsplit, hhull, hout₁, hrest₁⟩ : ∃ c₁ src₁,
        (if src.len > 0 then (({ c with out := c.out.push (c.frame src.bytes) } : Compressor), ChunkQueue.empty)
          else (c, src)) = (c₁, src₁) ∧ c₁.hull = c.hull ∧ 0 ≤ c₁.out.len ∧ src₁.len = 0 := by
      by_cases hp : src.len > 0
      · exact ⟨_, _, if_pos hp, rfl, ChunkQueue.len_push_nonneg hc.2 _, rfl⟩
      · exact ⟨_, _, if_neg hp, rfl, hc.2, by omega⟩
    rw [hsplit] at h
    simp only [StateT.run_bind] at h
    rcases hr : (writeChain sock (n + 1) cs₀ c₁.out).run w with ⟨⟨st₁, e₁, out₁, cs₁⟩, w₁⟩
    have hp := ih cs₀ c₁.out w st₁ e₁ out₁ cs₁ w₁ (by simpa using hn) hcs₀ hout₁ hl hr
    rw [hr, pair_bind] at h
    dsimp only at h
    have hhulls : ({ c₁ with out := out₁ } :: cs₁).map Compressor.hull = (c :: cs₀).map Compressor.hull := by
      simp only [List.map_cons, hp.hulls, ← hhull]
      rfl
    have hheld : ∀ x ∈ { c₁ with out := out₁ } :: cs₁, 0 ≤ x.out.len := fun x hx => by
      rcases List.mem_cons.1 hx with rfl | hx
      · exact hp.rest
      · exact hp.held x hx
    -- the rest the layer reports is empty, so what stays pending is what the layers below hold
    have hblk : (st₁ = .progressed ∨ st₁ = .wouldBlock) →
        0 < src₁.len + ((({ c₁ with out := out₁ } : Compressor) :: cs₁).map (·.pending)).sum →
        (w₁.pipe.outbound sock.side).writeWant = true ∧
          (.writable sock.side ∈ w₁.signals ∨ w₁.pipe.capacity ≤ (w₁.pipe.outbound sock.side).buf.length) :=
      fun hst hpos => hp.blocked hst (by simpa [hrest₁, Compressor.pending] using hpos)
    cases st₁ <;> simp only [StateT.run_pure] at h <;>
      obtain ⟨⟨rfl, rfl, rfl, rfl⟩, rfl⟩ := h
    · exact ⟨hp.outward, hhulls, hheld, hrest₁ ▸ le_refl _, hblk⟩
    · exact ⟨hp.outward, hhulls, hheld, hrest₁ ▸ le_refl _, hblk⟩
    · exact ⟨hp.outward, hhulls, hheld, hrest₁ ▸ le_refl _, fun h => by rcases h with h | h <;> cases h⟩
    · exact ⟨hp.outward, hhulls, hheld, hrest₁ ▸ le_refl _, fun h => by rcases h with h | h <;> cases h⟩

/-! ## Links -/

namespace Link

def shape (l : Link) : Link := { l with recv := [], layers := l.layers.map Compressor.shell }

theorem pending_shape (l : Link) : l.shape.pending = l.pending := by
  simp only [pending, shape, List.map_map]
  rfl

theorem close_of_closed (l : Link) (w : Wire) (hc : l.closed = true) : (l.close.run w).1 = l := by
  simp only [Link.close, hc, if_true, StateT.run_pure]
  rfl

/-- Closing an open link closes its socket, drops both buffers and empties its layers. -/
theorem close_open {l : Link} (hopen : l.closed = false) (w : Wire) :
    (l.close.run w).1 =
      { l with
        closed := true
        layers := l.layers.map (·.close)
        socket := { l.socket with closed := true }
        recv := []
        sendq := .empty } := by
  unfold Link.close
  rw [if_neg (by simp [hopen]), StateT.run_bind]
  rcases hs : l.socket.close.run w with ⟨s', w'⟩
  have hfst := Socket.close_fst l.socket w
  rw [hs] at hfst
  subst hfst
  rfl

theorem close_closed (l : Link) (w : Wire) : (l.close.run w).1.closed = true := by
  cases hc : l.closed
  · rw [close_open hc]
  · rw [close_of_closed l w hc, hc]

theorem fail_closed (l : Link) (e : LinkError) (w : Wire) : ((l.fail e).run w).1.2.closed = true := by
  simp only [Link.fail, StateT.run_bind]
  exact close_closed _ _

/-! ## One round of each operation -/

theorem fail_report_run (l : Link) (e : LinkError) (w : Wire) :
    (l.fail e >>= fun x => pure (some x.1, x.2)).run w =
      ((some ((l.fail e).run w).1.1, ((l.fail e).run w).1.2), ((l.fail e).run w).2) := rfl

theorem close_report_run (l : Link) (w : Wire) :
    (l.close >>= fun l₁ => pure ((none : Option LinkError), l₁)).run w =
      ((none, (l.close.run w).1), (l.close.run w).2) := rfl

theorem go_zero_run (start : Nat) (l : Link) (w : Wire) :
    (handleReadable.go 0 start l).run w = ((none, l), ⟨w.pipe, w.signals ++ [.readable l.socket.side]⟩) :=
  rfl

/-- What one round of the read loop can do. At its per-event bound it signals the link's end
readable and stops. Below it, it pulls once through the chain, appends what came to the receive
buffer, and then reads on after bytes, stops when the chain gave nothing or would block, keeps what
this event read before the peer's close (signalling the end), or fails. -/
theorem go_succ_inv {fuel start : Nat} {l : Link} {w : Wire} {r : Option LinkError} {l' : Link}
    {w' : Wire} (h : (handleReadable.go (fuel + 1) start l).run w = ((r, l'), w')) :
    (l.limits.maxReadPerEvent ≤ l.recv.length - start ∧ r = none ∧ l' = l ∧
      w' = ⟨w.pipe, w.signals ++ [.readable l.socket.side]⟩) ∨
    (l.recv.length - start < l.limits.maxReadPerEvent ∧ ∃ st e data cs w₁,
      (readChain l.socket (l.layers.length + 1) l.layers).run w = ((st, e, data, cs), w₁) ∧
      ((st = .consumed ∧ data ≠ [] ∧
          (handleReadable.go fuel start { l with layers := cs, recv := l.recv ++ data }).run w₁ =
            ((r, l'), w')) ∨
        ((st = .consumed ∧ data = [] ∨ st = .wouldBlock) ∧ r = none ∧
          l' = { l with layers := cs, recv := l.recv ++ data } ∧ w' = w₁) ∨
        (st = .closed ∧ start < (l.recv ++ data).length ∧ r = none ∧
          l' = { l with layers := cs, recv := l.recv ++ data } ∧
          w' = ⟨w₁.pipe, w₁.signals ++ [.readable l.socket.side]⟩) ∨
        ((st = .closed ∧ (l.recv ++ data).length ≤ start ∨ st = .error) ∧ ∃ e' e₁,
          (Link.fail { l with layers := cs, recv := l.recv ++ data } e').run w₁ = ((e₁, l'), w') ∧
            r = some e₁))) := by
  rw [handleReadable.go] at h
  by_cases hmax : l.recv.length - start ≥ l.limits.maxReadPerEvent
  · rw [if_pos hmax] at h
    obtain ⟨⟨rfl, rfl⟩, rfl⟩ := h
    exact .inl ⟨hmax, rfl, rfl, rfl⟩
  rw [if_neg hmax, StateT.run_bind] at h
  rcases hr : (readChain l.socket (l.layers.length + 1) l.layers).run w with ⟨⟨st, e, data, cs⟩, w₁⟩
  rw [hr, pair_bind] at h
  dsimp only at h
  refine .inr ⟨by omega, st, e, data, cs, w₁, rfl, ?_⟩
  -- a failure runs `fail` and reports its error
  have hfail : ∀ e', (Link.fail { l with layers := cs, recv := l.recv ++ data } e' >>=
      fun x => pure (some x.1, x.2)).run w₁ = ((r, l'), w') →
      ∃ e' e₁, (Link.fail { l with layers := cs, recv := l.recv ++ data } e').run w₁ = ((e₁, l'), w') ∧
        r = some e₁ := fun e' hf => by
    rw [fail_report_run] at hf
    obtain ⟨⟨rfl, rfl⟩, rfl⟩ := hf
    exact ⟨e', _, rfl, rfl⟩
  cases st with
  | consumed =>
    by_cases hnil : data = []
    · subst hnil
      obtain ⟨⟨rfl, rfl⟩, rfl⟩ := h
      exact .inr (.inl ⟨.inl ⟨rfl, rfl⟩, rfl, rfl, rfl⟩)
    · rw [if_neg (by simpa using hnil)] at h
      exact .inl ⟨rfl, hnil, h⟩
  | wouldBlock =>
    obtain ⟨⟨rfl, rfl⟩, rfl⟩ := h
    exact .inr (.inl ⟨.inr rfl, rfl, rfl, rfl⟩)
  | closed =>
    by_cases hgrew : (l.recv ++ data).length > start
    · rw [if_pos hgrew] at h
      obtain ⟨⟨rfl, rfl⟩, rfl⟩ := h
      exact .inr (.inr (.inl ⟨rfl, hgrew, rfl, rfl, rfl⟩))
    · rw [if_neg hgrew] at h
      exact .inr (.inr (.inr ⟨.inl ⟨rfl, by omega⟩, hfail _ h⟩))
  | error => exact .inr (.inr (.inr ⟨.inr rfl, hfail _ h⟩))

/-- What flushing an open link can do: push its send queue down its chain, then fail when the
chain reports the peer gone or an error, or else close once drained in drain-then-close mode, or
keep the link with what the chain left. -/
theorem flush_inv {l : Link} (hopen : l.closed = false) {w : Wire} {r : Option LinkError} {l' : Link}
    {w' : Wire} (h : l.flush.run w = ((r, l'), w')) :
    ∃ st e q cs w₁, (writeChain l.socket (l.layers.length + 1) l.layers l.sendq).run w =
        ((st, e, q, cs), w₁) ∧
      (((st = .closed ∨ st = .error) ∧ ∃ e' e₁,
          (Link.fail { l with sendq := q, layers := cs } e').run w₁ = ((e₁, l'), w') ∧ r = some e₁) ∨
        ((st = .progressed ∨ st = .wouldBlock) ∧ r = none ∧
          (((l.closing = true ∧ ({ l with sendq := q, layers := cs } : Link).pending = 0) ∧
              ({ l with sendq := q, layers := cs } : Link).close.run w₁ = (l', w')) ∨
            (¬(l.closing = true ∧ ({ l with sendq := q, layers := cs } : Link).pending = 0) ∧
              l' = { l with sendq := q, layers := cs } ∧ w' = w₁)))) := by
  unfold Link.flush at h
  rw [if_neg (by simp [hopen]), StateT.run_bind] at h
  rcases hr : (writeChain l.socket (l.layers.length + 1) l.layers l.sendq).run w with
    ⟨⟨st, e, q, cs⟩, w₁⟩
  rw [hr, pair_bind] at h
  dsimp only at h
  refine ⟨st, e, q, cs, w₁, rfl, ?_⟩
  -- a failure runs `fail` and reports its error
  have hfail : ∀ e', (Link.fail { l with sendq := q, layers := cs } e' >>=
      fun x => pure (some x.1, x.2)).run w₁ = ((r, l'), w') →
      ∃ e' e₁, (Link.fail { l with sendq := q, layers := cs } e').run w₁ = ((e₁, l'), w') ∧
        r = some e₁ := fun e' hf => by
    rw [fail_report_run] at hf
    obtain ⟨⟨rfl, rfl⟩, rfl⟩ := hf
    exact ⟨e', _, rfl, rfl⟩
  -- otherwise the link stays, or closes once drained in drain-then-close mode
  have hdone : (if (l.closing && decide (({ l with sendq := q, layers := cs } : Link).pending = 0)) = true
        then (({ l with sendq := q, layers := cs } : Link).close >>= fun l₁ => pure (none, l₁))
        else pure (none, { l with sendq := q, layers := cs })).run w₁ = ((r, l'), w') →
      r = none ∧ (((l.closing = true ∧ ({ l with sendq := q, layers := cs } : Link).pending = 0) ∧
          ({ l with sendq := q, layers := cs } : Link).close.run w₁ = (l', w')) ∨
        (¬(l.closing = true ∧ ({ l with sendq := q, layers := cs } : Link).pending = 0) ∧
          l' = { l with sendq := q, layers := cs } ∧ w' = w₁)) := fun hd => by
    split at hd
    · rename_i hdrain
      rw [close_report_run] at hd
      obtain ⟨⟨rfl, rfl⟩, rfl⟩ := hd
      exact ⟨rfl, .inl ⟨by simpa using hdrain, rfl⟩⟩
    · rename_i hkeep
      obtain ⟨⟨rfl, rfl⟩, rfl⟩ := hd
      exact ⟨rfl, .inr ⟨by simpa using hkeep, rfl, rfl⟩⟩
  cases st with
  | progressed => exact .inr ⟨.inl rfl, hdone h⟩
  | wouldBlock => exact .inr ⟨.inr rfl, hdone h⟩
  | closed => exact .inl ⟨.inl rfl, hfail _ h⟩
  | error => exact .inl ⟨.inr rfl, hfail _ h⟩

/-- What writing a chunk can do: drop it after close, while draining, or when it is empty; queue
it and fail the link when the send queue passes `maxSendQ`; or queue it and ask for a flush. -/
theorem write_inv {l : Link} {p : Bytes} {w : Wire} {l' : Link} {w' : Wire}
    (h : (l.write p).run w = (l', w')) :
    ((l.closed = true ∨ l.closing = true ∨ p = []) ∧ l' = l ∧ w' = w) ∨
    (l.closed = false ∧ l.closing = false ∧ p ≠ [] ∧
      ({ l with sendq := l.sendq.push p } : Link).pending > l.limits.maxSendQ ∧ ∃ e,
        (({ l with sendq := l.sendq.push p } : Link).fail .sendQExceeded).run w = ((e, l'), w')) ∨
    (l.closed = false ∧ l.closing = false ∧ p ≠ [] ∧
      ¬({ l with sendq := l.sendq.push p } : Link).pending > l.limits.maxSendQ ∧
      l' = { l with sendq := l.sendq.push p } ∧ w' = ⟨w.pipe, w.signals ++ [.writable l.socket.side]⟩) := by
  unfold Link.write at h
  by_cases hskip : (l.closed || l.closing || p.isEmpty) = true
  · rw [if_pos hskip] at h
    obtain ⟨rfl, rfl⟩ := Prod.mk.inj h
    exact .inl ⟨by simpa [or_assoc] using hskip, rfl, rfl⟩
  rw [if_neg hskip] at h
  obtain ⟨⟨hopen, hcl⟩, hp⟩ : (l.closed = false ∧ l.closing = false) ∧ p ≠ [] := by simpa using hskip
  by_cases hover : ({ l with sendq := l.sendq.push p } : Link).pending > l.limits.maxSendQ
  · rw [if_pos hover, StateT.run_bind] at h
    rcases hf : (({ l with sendq := l.sendq.push p } : Link).fail .sendQExceeded).run w with ⟨⟨e, l₂⟩, w₂⟩
    rw [hf, pair_bind, StateT.run_pure] at h
    obtain ⟨rfl, rfl⟩ := Prod.mk.inj h
    exact .inr (.inl ⟨hopen, hcl, hp, hover, e, rfl⟩)
  · rw [if_neg hover] at h
    obtain ⟨rfl, rfl⟩ := Prod.mk.inj h
    exact .inr (.inr ⟨hopen, hcl, hp, hover, rfl, rfl⟩)

theorem closeAfterFlush_inv {l : Link} (hopen : l.closed = false) {w : Wire} {l' : Link} {w' : Wire}
    (h : l.closeAfterFlush.run w = (l', w')) :
    (({ l with closing := true } : Link).pending = 0 ∧
        ({ l with closing := true } : Link).close.run w = (l', w')) ∨
      (({ l with closing := true } : Link).pending ≠ 0 ∧ l' = { l with closing := true } ∧
        w' = ⟨w.pipe, w.signals ++ [.writable l.socket.side]⟩) := by
  unfold Link.closeAfterFlush at h
  rw [if_neg (by simp [hopen])] at h
  dsimp only at h
  split at h
  · exact .inl ⟨‹_›, h⟩
  · obtain ⟨rfl, rfl⟩ := Prod.mk.inj h
    exact .inr ⟨‹_›, rfl, rfl⟩

/-! ## Wired links -/

/-- A link as its operations keep it, on the given end of its pipe: its socket sits on that end and
is closed exactly when the link is, its layers are attached, hold no whole inbound frame and count
their held bytes from zero, its send queue counts from zero, and a closed link holds nothing. -/
structure Wired (l : Link) (side : Side) : Prop where
  side : l.socket.side = side
  socket : l.socket.closed = l.closed
  layers : ∀ c ∈ l.layers, c.attached = true ∧ c.Idle ∧ 0 ≤ c.out.len
  sendq : 0 ≤ l.sendq.len
  drained : l.closed = true → l.pending = 0

theorem pending_closed (l : Link) :
    ({ l with
        closed := true
        layers := l.layers.map (·.close)
        socket := { l.socket with closed := true }
        recv := []
        sendq := .empty } : Link).pending = 0 := by
  simp only [pending, ← List.sum_eq_foldl, List.map_map]
  simp [Function.comp_def, Compressor.pending, Compressor.close, ChunkQueue.empty, ChunkQueue.len]

theorem close_capacity (l : Link) (w : Wire) : (l.close.run w).2.pipe.capacity = w.pipe.capacity := by
  unfold Link.close
  by_cases hc : l.closed = true
  · simp [hc]
    rfl
  · rw [if_neg hc, StateT.run_bind]
    rcases hs : l.socket.close.run w with ⟨s', w'⟩
    have hcap := Socket.close_capacity l.socket w
    rw [hs] at hcap
    exact hcap

theorem fail_capacity (l : Link) (e : LinkError) (w : Wire) :
    ((l.fail e).run w).2.pipe.capacity = w.pipe.capacity := by
  simp only [Link.fail, StateT.run_bind]
  exact close_capacity _ _

theorem close_wired {l : Link} {side : Side} (hopen : l.closed = false) (hside : l.socket.side = side)
    (hatt : ∀ c ∈ l.layers, c.attached = true) (w : Wire) : (l.close.run w).1.Wired side := by
  rw [close_open hopen w]
  refine ⟨hside, rfl, fun c hc => ?_, by simp [ChunkQueue.len, ChunkQueue.empty], fun _ => pending_closed l⟩
  obtain ⟨d, hd, rfl⟩ := List.mem_map.1 hc
  exact ⟨hatt d hd, .inl (by simp [Compressor.close, headerLen]),
    by simp [Compressor.close, ChunkQueue.len, ChunkQueue.empty]⟩

theorem Wired.close {l : Link} {side : Side} (hw : l.Wired side) (w : Wire) : (l.close.run w).1.Wired side := by
  cases hc : l.closed
  · exact close_wired hc hw.side (fun c h => (hw.layers c h).1) w
  · rw [close_of_closed l w hc]
    exact hw

theorem fail_wired {l : Link} {side : Side} (hopen : l.closed = false) (hside : l.socket.side = side)
    (hatt : ∀ c ∈ l.layers, c.attached = true) (e : LinkError) (w : Wire) :
    ((l.fail e).run w).1.2.Wired side := by
  simp only [Link.fail, StateT.run_bind]
  exact close_wired (l := { l with err := some (l.err.getD e) }) hopen hside hatt _

theorem Wired.of_shape {l l' : Link} {side : Side} (hw : l.Wired side) (hs : l'.shape = l.shape)
    (hidle : ∀ c ∈ l'.layers, c.Idle) : l'.Wired side := by
  -- the shape keeps the socket, the send queue, whether the link is closed, and the layers' shells
  have hsock : l'.socket = l.socket := (congrArg Link.socket hs :)
  have hq : l'.sendq = l.sendq := (congrArg Link.sendq hs :)
  have hcl : l'.closed = l.closed := (congrArg Link.closed hs :)
  have hshells : l'.layers.map Compressor.shell = l.layers.map Compressor.shell :=
    (congrArg Link.layers hs :)
  have hpend : l'.pending = l.pending := by rw [← pending_shape, hs, pending_shape]
  refine ⟨hsock ▸ hw.side, by rw [hsock, hcl]; exact hw.socket, fun c hc => ?_, hq ▸ hw.sendq,
    fun h => hpend.trans (hw.drained (hcl ▸ h))⟩
  obtain ⟨d, hd, he⟩ := List.mem_map.1 (hshells ▸ List.mem_map_of_mem (f := Compressor.shell) hc)
  have hatt : c.attached = d.attached := (congrArg Compressor.attached he).symm
  have hout : c.out = d.out := (congrArg Compressor.out he).symm
  exact ⟨hatt.trans (hw.layers d hd).1, hidle c hc, hout ▸ (hw.layers d hd).2.2⟩

/-- Pushing keeps a link wired when it keeps its layers' hulls and counts what is left from zero. -/
theorem Wired.of_hulls {l : Link} {side : Side} (hw : l.Wired side) (hopen : l.closed = false)
    {q : ChunkQueue} {cs : List Compressor} (hh : cs.map Compressor.hull = l.layers.map Compressor.hull)
    (hheld : ∀ c ∈ cs, 0 ≤ c.out.len) (hq : 0 ≤ q.len) :
    ({ l with sendq := q, layers := cs } : Link).Wired side := by
  refine ⟨hw.side, hw.socket, fun c hc => ?_, hq, fun h => absurd (hopen.symm.trans h) (by decide)⟩
  obtain ⟨d, hd, he⟩ := List.mem_map.1 (hh ▸ List.mem_map_of_mem (f := Compressor.hull) hc)
  have hatt : c.attached = d.attached := (congrArg Compressor.attached he).symm
  have hin : c.inbox = d.inbox := (congrArg Compressor.inbox he).symm
  have hmax : c.maxFrame = d.maxFrame := (congrArg Compressor.maxFrame he).symm
  have hidle : c.Idle := by
    unfold Compressor.Idle
    rw [hin, hmax]
    exact (hw.layers d hd).2.1
  exact ⟨hatt.trans (hw.layers d hd).1, hidle, hheld c hc⟩

/-! ## What each link operation leaves -/

/-- What reading on an open wired link leaves: the link stays wired; a failure closes it;
otherwise only the receive buffer and the layers' inbound bytes change, only the direction towards
the link's end changes, and that end is signalled readable or left waiting. -/
theorem handleReadable_go (fuel start : Nat) {l : Link} {side : Side} (hw : l.Wired side)
    (hopen : l.closed = false) {w : Wire} {r : Option LinkError} {l' : Link} {w' : Wire}
    (h : (handleReadable.go fuel start l).run w = ((r, l'), w')) :
    l'.Wired side ∧ w'.pipe.capacity = w.pipe.capacity ∧ ((r.isSome ∧ l'.closed = true) ∨
      (r = none ∧ l'.shape = l.shape ∧ Wire.Inward side w w' ∧
        (.readable side ∈ w'.signals ∨ (w'.pipe.inbound side).Waiting))) := by
  obtain rfl := hw.side
  induction fuel generalizing l w with
  | zero =>
    rw [go_zero_run] at h
    obtain ⟨⟨rfl, rfl⟩, rfl⟩ := h
    exact ⟨hw, rfl, .inr ⟨rfl, rfl, .signal _ _ _, .inl (by simp)⟩⟩
  | succ fuel ih =>
    rcases go_succ_inv h with ⟨-, rfl, rfl, rfl⟩ | ⟨-, st, e, data, cs, w₁, hr, hround⟩
    · -- the per-event bound is reached
      exact ⟨hw, rfl, .inr ⟨rfl, rfl, .signal _ _ _, .inl (by simp)⟩⟩
    have hl : ∀ c ∈ l.layers, c.attached = true ∧ c.Idle := fun c hc =>
      ⟨(hw.layers c hc).1, (hw.layers c hc).2.1⟩
    obtain ⟨hp, -⟩ := readChain_pulls l.socket (hw.socket.trans hopen) l.layers.length l.layers w st e data cs
      w₁ rfl hl hr
    -- the link after the pull: new layers, the bytes appended
    have hshape : ({ l with layers := cs, recv := l.recv ++ data } : Link).shape = l.shape := by
      simp only [shape, hp.shells]
    have hw₁ : st ≠ .error → ({ l with layers := cs, recv := l.recv ++ data } : Link).Wired l.socket.side :=
      fun hst => hw.of_shape hshape (hp.idle hst)
    rcases hround with ⟨rfl, -, hgo⟩ | ⟨⟨rfl, rfl⟩ | rfl, rfl, rfl, rfl⟩ | ⟨rfl, -, rfl, rfl, rfl⟩ |
      ⟨-, e', e₁, hf, rfl⟩
    · -- bytes came: read on
      obtain ⟨hw', hcap, hrest⟩ := ih (l := { l with layers := cs, recv := l.recv ++ data }) hopen hgo
        (hw₁ (fun h => ReadStatus.noConfusion h))
      refine ⟨hw', hcap.trans hp.inward.capacity, ?_⟩
      rcases hrest with hclosed | ⟨h₀, h₁, h₃, h₄⟩
      · exact .inl hclosed
      · exact .inr ⟨h₀, h₁.trans hshape, hp.inward.trans h₃, h₄⟩
    · -- a pull that consumed brought bytes
      exact absurd rfl (hp.consumed rfl).1
    · -- the chain would block: the end is left waiting
      exact ⟨hw₁ (fun h => ReadStatus.noConfusion h), hp.inward.capacity,
        .inr ⟨rfl, hshape, hp.inward, .inr (hp.wouldBlock rfl)⟩⟩
    · -- the stream ended after bytes of this event: they count, and the end is signalled
      exact ⟨hw₁ (fun h => ReadStatus.noConfusion h), hp.inward.capacity,
        .inr ⟨rfl, hshape, hp.inward.trans (.signal _ _ _), .inl (by simp)⟩⟩
    · -- a failure closes the link
      have hatt : ∀ c ∈ cs, c.attached = true :=
        Compressor.attached_of_shells hp.shells (fun y hy => (hl y hy).1)
      have hc := fail_closed { l with layers := cs, recv := l.recv ++ data } e' w₁
      have hwired := fail_wired (l := { l with layers := cs, recv := l.recv ++ data }) hopen rfl hatt e' w₁
      have hcap := fail_capacity { l with layers := cs, recv := l.recv ++ data } e' w₁
      rw [hf] at hc hwired hcap
      exact ⟨hwired, hcap.trans hp.inward.capacity, .inl ⟨rfl, hc⟩⟩

theorem handleReadable_wakes {l : Link} {side : Side} (hw : l.Wired side) (hopen : l.closed = false)
    {w : Wire} {r : Option LinkError} {l' : Link} {w' : Wire} (h : l.handleReadable.run w = ((r, l'), w')) :
    l'.Wired side ∧ w'.pipe.capacity = w.pipe.capacity ∧ ((r.isSome ∧ l'.closed = true) ∨
      (r = none ∧ l'.shape = l.shape ∧ Wire.Inward side w w' ∧
        (.readable side ∈ w'.signals ∨ (w'.pipe.inbound side).Waiting))) := by
  rw [handleReadable_run hopen] at h
  exact handleReadable_go _ _ hw hopen h

/-- What flushing an open wired link leaves, when its end listens: the link stays wired; it is
closed, or only the direction away from its end changed and whatever it still holds has write
interest registered, with a signal for its end or a full pipe. -/
theorem flush_wakes {l : Link} {side : Side} (hw : l.Wired side) (hopen : l.closed = false) {w : Wire}
    (hlis : w.pipe.listens side = true) {r : Option LinkError} {l' : Link} {w' : Wire}
    (h : l.flush.run w = ((r, l'), w')) :
    l'.Wired side ∧ w'.pipe.capacity = w.pipe.capacity ∧ (l'.closed = true ∨
      (l'.closed = false ∧ Wire.Outward side w w' ∧
        (0 < l'.pending → (w'.pipe.outbound side).writeWant = true ∧
          (.writable side ∈ w'.signals ∨ w'.pipe.capacity ≤ (w'.pipe.outbound side).buf.length)))) := by
  obtain rfl := hw.side
  obtain ⟨st, e, q, cs, w₁, hr, hround⟩ := flush_inv hopen h
  have hp := writeChain_pushed l.socket (hw.socket.trans hopen) l.layers.length l.layers l.sendq w st e q cs
    w₁ rfl (fun c hc => ⟨(hw.layers c hc).1, (hw.layers c hc).2.2⟩) hw.sendq hlis hr
  -- the link after the push
  have hw₁ := hw.of_hulls hopen hp.hulls hp.held hp.rest
  rcases hround with ⟨-, e', e₁, hf, -⟩ | ⟨hst, -, ⟨-, hc⟩ | ⟨-, rfl, rfl⟩⟩
  · -- a failure closes the link
    have hatt : ∀ c ∈ cs, c.attached = true := fun c hc => (hw₁.layers c hc).1
    have hclosed := fail_closed ({ l with sendq := q, layers := cs } : Link) e' w₁
    have hwired := fail_wired (l := { l with sendq := q, layers := cs }) hopen rfl hatt e' w₁
    have hcap := fail_capacity ({ l with sendq := q, layers := cs } : Link) e' w₁
    rw [hf] at hclosed hwired hcap
    exact ⟨hwired, hcap.trans hp.outward.capacity, .inl hclosed⟩
  · -- drained in drain-then-close mode: the link closes
    have hclosed := close_closed ({ l with sendq := q, layers := cs } : Link) w₁
    have hwired := hw₁.close w₁
    have hcap := close_capacity ({ l with sendq := q, layers := cs } : Link) w₁
    rw [hc] at hclosed hwired hcap
    exact ⟨hwired, hcap.trans hp.outward.capacity, .inl hclosed⟩
  · exact ⟨hw₁, hp.outward.capacity, .inr ⟨hopen, hp.outward, fun hpos => hp.blocked hst (by
      simpa [pending, List.sum_eq_foldl] using hpos)⟩⟩

/-- What writing a chunk to a wired link leaves: the link stays wired; the chunk is dropped and
nothing changes, or the link fails and closes, or the link is open and stays so, the chunk is
queued and the link's end is signalled writable, the pipe untouched. -/
theorem write_wakes {l : Link} {side : Side} (hw : l.Wired side) (p : Bytes) {w : Wire} {l' : Link}
    {w' : Wire} (h : (l.write p).run w = (l', w')) :
    l'.Wired side ∧ w'.pipe.capacity = w.pipe.capacity ∧ ((l' = l ∧ w' = w) ∨ l'.closed = true ∨
      (l.closed = false ∧ l'.closed = false ∧ w'.pipe = w.pipe ∧ .writable side ∈ w'.signals)) := by
  obtain rfl := hw.side
  rcases write_inv h with ⟨-, rfl, rfl⟩ | ⟨hopen, -, -, -, e, hf⟩ | ⟨hopen, -, -, -, rfl, rfl⟩
  · -- dropped
    exact ⟨hw, rfl, .inl ⟨rfl, rfl⟩⟩
  · -- the send queue overflows: the link fails
    have hc := fail_closed ({ l with sendq := l.sendq.push p } : Link) .sendQExceeded w
    have hwired := fail_wired (l := { l with sendq := l.sendq.push p }) hopen rfl
      (fun c hc => (hw.layers c hc).1) .sendQExceeded w
    have hcap := fail_capacity ({ l with sendq := l.sendq.push p } : Link) .sendQExceeded w
    rw [hf] at hc hwired hcap
    exact ⟨hwired, hcap, .inr (.inl hc)⟩
  · -- queued, and a flush asked for
    exact ⟨⟨hw.side, hw.socket, hw.layers, ChunkQueue.len_push_nonneg hw.sendq p, fun h => absurd h (by simp [hopen])⟩,
      rfl, .inr (.inr ⟨hopen, hopen, rfl, by simp⟩)⟩

/-- What asking an open wired link to close once drained leaves: the link stays wired; it closes
at once, or it is marked closing and its end is signalled writable, the pipe untouched. -/
theorem closeAfterFlush_wakes {l : Link} {side : Side} (hw : l.Wired side) (hopen : l.closed = false)
    {w : Wire} {l' : Link} {w' : Wire} (h : l.closeAfterFlush.run w = (l', w')) :
    l'.Wired side ∧ w'.pipe.capacity = w.pipe.capacity ∧ (l'.closed = true ∨
      (l' = { l with closing := true } ∧ w'.pipe = w.pipe ∧ .writable side ∈ w'.signals)) := by
  obtain rfl := hw.side
  rcases closeAfterFlush_inv hopen h with ⟨-, hc⟩ | ⟨-, rfl, rfl⟩
  · -- nothing pending: the link closes at once
    have hclosed := close_closed ({ l with closing := true } : Link) w
    have hwired := close_wired (l := { l with closing := true }) hopen rfl (fun c hc => (hw.layers c hc).1) w
    have hcap := close_capacity ({ l with closing := true } : Link) w
    rw [hc] at hclosed hwired hcap
    exact ⟨hwired, hcap, .inl hclosed⟩
  · exact ⟨⟨hw.side, hw.socket, hw.layers, hw.sendq, hw.drained⟩, rfl, .inr ⟨rfl, rfl, by simp⟩⟩

end Link

end LineKv.Transport
