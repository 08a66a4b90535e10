import Mathlib
import LineKv.Proofs.LinkSteps

/-!
Two links over the two ends of one pipe, driven in any order by their owners: each writes,
flushes, reads and takes bytes from what it received. Main statement: `Duplex.Run.safe`.
-/

namespace LineKv.Transport

/-- Two links over the two ends of one pipe, each driven by its own owner. -/
structure Duplex where
  pipe : Pipe
  fst : Link
  snd : Link

namespace Duplex

/-- The link at an end. -/
def link (d : Duplex) : Side → Link
  | .fst => d.fst
  | .snd => d.snd

/-- Replace the link at an end. -/
def setLink (d : Duplex) : Side → Link → Duplex
  | .fst, l => { d with fst := l }
  | .snd, l => { d with snd := l }

@[simp] theorem link_setLink (d : Duplex) (s : Side) (l : Link) : (d.setLink s l).link s = l := by
  cases s <;> rfl

@[simp] theorem link_setLink_other (d : Duplex) (s : Side) (l : Link) :
    (d.setLink s l).link s.other = d.link s.other := by
  cases s <;> rfl

@[simp] theorem pipe_setLink (d : Duplex) (s : Side) (l : Link) : (d.setLink s l).pipe = d.pipe := by
  cases s <;> rfl

/-- Run an operation of one end's link on the pipe. The readiness signals it raises are for the
owners, who drive both ends themselves. -/
def onEnd {α : Type} (d : Duplex) (side : Side) (op : Link → WireM (α × Link)) : Duplex :=
  let ((_, l), w) := (op (d.link side)).run ⟨d.pipe, []⟩
  { d.setLink side l with pipe := w.pipe }

def write (d : Duplex) (side : Side) (p : Bytes) : Duplex := d.onEnd side fun l => do return ((), ← l.write p)

def flush (d : Duplex) (side : Side) : Duplex := d.onEnd side Link.flush

def readable (d : Duplex) (side : Side) : Duplex := d.onEnd side Link.handleReadable

def take (d : Duplex) (side : Side) (n : Nat) : Duplex :=
  d.setLink side { d.link side with recv := (d.link side).recv.drop n }

/-- Two links made over a fresh pipe of the given capacity, each end's chain its socket alone. -/
def start (capacity : Int) (fstLimits sndLimits : Limits) (fstIovecs sndIovecs : Int) : Duplex :=
  let (r₁, w₁) := (Link.create [.socket (Socket.create .fst fstIovecs)] fstLimits).run ⟨Pipe.create capacity, []⟩
  let (r₂, w₂) := (Link.create [.socket (Socket.create .snd sndIovecs)] sndLimits).run w₁
  ⟨w₂.pipe, r₁.toOption.getD default, r₂.toOption.getD default⟩

/-- What the owners did: for each end, the bytes given to its link's `write` and the bytes taken
from its receive buffer. -/
structure Tally where
  wrote : Side → Bytes
  took : Side → Bytes

def Tally.zero : Tally := ⟨fun _ => [], fun _ => []⟩

def Tally.write (t : Tally) (side : Side) (p : Bytes) : Tally :=
  { t with wrote := Function.update t.wrote side (t.wrote side ++ p) }

def Tally.take (t : Tally) (side : Side) (x : Bytes) : Tally :=
  { t with took := Function.update t.took side (t.took side ++ x) }

/-- The states two links over one pipe reach from `d₀` when their owners write, flush, read and
take received bytes in any order, with what the owners did. -/
inductive Run (d₀ : Duplex) : Duplex → Tally → Prop
  | start : Run d₀ d₀ .zero
  | write {d : Duplex} {t : Tally} (side : Side) (p : Bytes) :
      Run d₀ d t → Run d₀ (d.write side p) (t.write side p)
  | flush {d : Duplex} {t : Tally} (side : Side) : Run d₀ d t → Run d₀ (d.flush side) t
  | readable {d : Duplex} {t : Tally} (side : Side) : Run d₀ d t → Run d₀ (d.readable side) t
  | take {d : Duplex} {t : Tally} (side : Side) (n : Nat) :
      Run d₀ d t → Run d₀ (d.take side n) (t.take side ((d.link side).recv.take n))

def Open (d : Duplex) : Prop := ∀ side, (d.link side).closed = false

/-- Each link is sound on its own end and the pipe, of capacity `cap`, holds at most that in each
direction. -/
structure Sound (d : Duplex) (cap : Nat) : Prop where
  links : ∀ side, (d.link side).Sound side
  capacity : d.pipe.capacity = cap
  within : d.pipe.Within

/-- In each direction, what the sender's owner wrote is what the receiver's owner took, then what
the receiver holds, then what is in the pipe, then what the sender still queues. -/
def Conserves (d : Duplex) (t : Tally) : Prop :=
  ∀ side, t.wrote side =
    t.took side.other ++ (d.link side.other).recv ++ (d.pipe.outbound side).buf ++ (d.link side).sendq.bytes

theorem side_cases (s s' : Side) : s' = s ∨ s' = s.other := by
  cases s <;> cases s' <;> simp [Side.other]

@[simp] theorem link_withPipe (d : Duplex) (p : Pipe) (s : Side) : ({ d with pipe := p } : Duplex).link s = d.link s := by
  cases s <;> rfl

@[simp] theorem setLink_link (d : Duplex) (s : Side) : d.setLink s (d.link s) = d := by
  cases s <;> rfl

theorem write_eq (d : Duplex) (side : Side) (p : Bytes) :
    d.write side p = { d.setLink side (((d.link side).write p).run ⟨d.pipe, []⟩).1 with
      pipe := (((d.link side).write p).run ⟨d.pipe, []⟩).2.pipe } := rfl

theorem flush_eq (d : Duplex) (side : Side) :
    d.flush side = { d.setLink side ((d.link side).flush.run ⟨d.pipe, []⟩).1.2 with
      pipe := ((d.link side).flush.run ⟨d.pipe, []⟩).2.pipe } := rfl

theorem readable_eq (d : Duplex) (side : Side) :
    d.readable side = { d.setLink side ((d.link side).handleReadable.run ⟨d.pipe, []⟩).1.2 with
      pipe := ((d.link side).handleReadable.run ⟨d.pipe, []⟩).2.pipe } := rfl

@[simp] theorem capacity_shut (p : Pipe) (side : Side) : (p.shut side).capacity = p.capacity := by
  simp [Pipe.shut]

variable {d : Duplex} {cap : Nat}

theorem Sound.setLink (hd : d.Sound cap) {side : Side} {l : Link} (hl : l.Sound side) {p : Pipe}
    (hcap : p.capacity = cap) (hw : p.Within) : ({ d.setLink side l with pipe := p } : Duplex).Sound cap where
  links s := by
    rcases side_cases side s with rfl | rfl
    · simpa using hl
    · simpa using hd.links side.other
  capacity := hcap
  within := hw

theorem Sound.write (hd : d.Sound cap) (side : Side) (p : Bytes) : (d.write side p).Sound cap := by
  have hl := hd.links side
  cases hc : (d.link side).closed
  · rcases Link.write_run hl hc p ⟨d.pipe, []⟩ with ⟨hfit, sigs, hr⟩ | ⟨-, sigs, hr⟩
    · rw [write_eq, hr]
      exact hd.setLink (hl.push p hfit) hd.capacity hd.within
    · -- the send queue overflowed and the link failed
      rw [write_eq, hr]
      exact hd.setLink (hl.failed _) (by simp [hd.capacity]) (hd.within.shut side)
  · rw [write_eq, Link.write_closed hc]
    simpa using hd

theorem Sound.flush (hd : d.Sound cap) (side : Side) : (d.flush side).Sound cap := by
  have hl := hd.links side
  cases hc : (d.link side).closed
  · rcases Link.flush_run hl hc ⟨d.pipe, []⟩ with ⟨h, sigs, hr, hbuf, -⟩ | ⟨e, sigs, hr⟩
    · rw [flush_eq, hr]
      have hk := Socket.fit_le_space ((d.link side).sendq.peek (d.link side).socket.iovecs)
        (d.pipe.capacity - (d.pipe.outbound side).buf.length)
      have hin := hd.within side
      refine hd.setLink (hl.consume ?_) (by simp [hd.capacity]) (hd.within.setOutbound side ?_)
      · exact (Socket.fit_le_length _ _).trans ((ChunkQueue.peek_prefix _ _).length_le)
      · dsimp only at hbuf
        rw [hbuf, List.length_append, List.length_take]
        omega
    · rw [flush_eq, hr]
      exact hd.setLink (hl.failed _) (by simp [hd.capacity]) (hd.within.shut side)
  · rw [flush_eq, Link.flush_closed hc]
    simpa using hd

theorem Sound.readable (hd : d.Sound cap) (side : Side) : (d.readable side).Sound cap := by
  have hl := hd.links side
  cases hc : (d.link side).closed
  · have hlen : ∀ h : Half, h.buf <:+ (d.pipe.outbound side.other).buf →
        h.buf.length ≤ d.pipe.capacity :=
      fun h hs => hs.length_le.trans (hd.within side.other)
    rcases Link.readLoop_run _ _ hl hc ⟨d.pipe, []⟩ with ⟨data, h, sigs, hr, hdata, -⟩ | ⟨e, h, sigs, hr, hs⟩
    · rw [readable_eq, Link.handleReadable_run hc, hr]
      exact hd.setLink (hl.recv _) (by simp [hd.capacity])
        (hd.within.setOutbound side.other (hlen h ⟨data, hdata⟩))
    · rw [readable_eq, Link.handleReadable_run hc, hr]
      exact hd.setLink (hl.failed _) (by simp [hd.capacity])
        ((hd.within.setOutbound side.other (hlen h hs)).shut side)
  · rw [readable_eq, Link.handleReadable_closed hc]
    simpa using hd

theorem Sound.take (hd : d.Sound cap) (side : Side) (n : Nat) : (d.take side n).Sound cap where
  links s := by
    rcases side_cases side s with rfl | rfl
    · simpa [Duplex.take] using (hd.links s).recv _
    · simpa [Duplex.take] using hd.links side.other
  capacity := by simpa [Duplex.take] using hd.capacity
  within := by simpa [Duplex.take] using hd.within

theorem open_iff (side : Side) : d.Open ↔ (d.link side).closed = false ∧ (d.link side.other).closed = false := by
  constructor
  · intro h
    exact ⟨h side, h side.other⟩
  · rintro ⟨h, h'⟩ s
    rcases side_cases side s with rfl | rfl
    · exact h
    · exact h'

@[simp] theorem open_setLink {side : Side} {l : Link} {p : Pipe} :
    ({ d.setLink side l with pipe := p } : Duplex).Open ↔ l.closed = false ∧ (d.link side.other).closed = false := by
  rw [open_iff side]
  simp

theorem write_open (hd : d.Sound cap) {side : Side} {p : Bytes} (ho : (d.write side p).Open) :
    d.Open ∧ d.write side p =
      { d.setLink side { d.link side with sendq := (d.link side).sendq.push p } with pipe := d.pipe } := by
  rw [write_eq] at ho ⊢
  cases hc : (d.link side).closed
  · rcases Link.write_run (hd.links side) hc p ⟨d.pipe, []⟩ with ⟨-, sigs, hr⟩ | ⟨-, sigs, hr⟩
    · rw [hr] at ho ⊢
      exact ⟨(open_iff side).2 ⟨hc, (open_setLink.1 ho).2⟩, rfl⟩
    · rw [hr] at ho
      simp [Link.shut] at ho
  · rw [Link.write_closed hc] at ho
    exact absurd (open_setLink.1 ho).1 (by simp [hc])

/-- A flush that leaves both links open moved the first `k` queued bytes to the end of the pipe's
buffer in its direction, on a pair that was open before. -/
theorem flush_open (hd : d.Sound cap) {side : Side} (ho : (d.flush side).Open) :
    d.Open ∧ ∃ (k : Nat) (h : Half), k ≤ (d.link side).sendq.bytes.length ∧
      h.buf = (d.pipe.outbound side).buf ++ (d.link side).sendq.bytes.take k ∧
      d.flush side = { d.setLink side { d.link side with sendq := (d.link side).sendq.consume k } with
        pipe := d.pipe.setOutbound side h } := by
  rw [flush_eq] at ho ⊢
  cases hc : (d.link side).closed
  · rcases Link.flush_run (hd.links side) hc ⟨d.pipe, []⟩ with ⟨h, sigs, hr, hbuf, -⟩ | ⟨e, sigs, hr⟩
    · rw [hr] at ho ⊢
      refine ⟨(open_iff side).2 ⟨hc, (open_setLink.1 ho).2⟩, _, h, ?_, hbuf, rfl⟩
      exact (Socket.fit_le_length _ _).trans ((ChunkQueue.peek_prefix _ _).length_le)
    · rw [hr] at ho
      simp [Link.shut] at ho
  · rw [Link.flush_closed hc] at ho
    exact absurd (open_setLink.1 ho).1 (by simp [hc])

theorem readable_open (hd : d.Sound cap) {side : Side} (ho : (d.readable side).Open) :
    d.Open ∧ ∃ (data : Bytes) (h : Half), data ++ h.buf = (d.pipe.outbound side.other).buf ∧
      d.readable side = { d.setLink side { d.link side with recv := (d.link side).recv ++ data } with
        pipe := d.pipe.setOutbound side.other h } := by
  rw [readable_eq] at ho ⊢
  cases hc : (d.link side).closed
  · rcases Link.readLoop_run _ _ (hd.links side) hc ⟨d.pipe, []⟩ with
      ⟨data, h, sigs, hr, hdata, -⟩ | ⟨e, h, sigs, hr, -⟩
    · rw [Link.handleReadable_run hc, hr] at ho ⊢
      exact ⟨(open_iff side).2 ⟨hc, (open_setLink.1 ho).2⟩, data, h, hdata, rfl⟩
    · rw [Link.handleReadable_run hc, hr] at ho
      simp [Link.shut] at ho
  · rw [Link.handleReadable_closed hc] at ho
    exact absurd (open_setLink.1 ho).1 (by simp [hc])

theorem take_open {side : Side} {n : Nat} (ho : (d.take side n).Open) : d.Open := by
  intro s
  rcases side_cases side s with rfl | rfl
  · simpa [Duplex.take] using ho s
  · simpa [Duplex.take] using ho side.other

variable {t : Tally}

@[simp] theorem Tally.wrote_write (t : Tally) (side : Side) (p : Bytes) :
    (t.write side p).wrote side = t.wrote side ++ p := by
  simp [Tally.write]

@[simp] theorem Tally.wrote_write_other (t : Tally) (side : Side) (p : Bytes) :
    (t.write side p).wrote side.other = t.wrote side.other := by
  simp [Tally.write]

@[simp] theorem Tally.took_write (t : Tally) (side s : Side) (p : Bytes) :
    (t.write side p).took s = t.took s := rfl

@[simp] theorem Tally.took_take (t : Tally) (side : Side) (x : Bytes) :
    (t.take side x).took side = t.took side ++ x := by
  simp [Tally.take]

@[simp] theorem Tally.took_take_other (t : Tally) (side : Side) (x : Bytes) :
    (t.take side x).took side.other = t.took side.other := by
  simp [Tally.take]

@[simp] theorem Tally.wrote_take (t : Tally) (side s : Side) (x : Bytes) :
    (t.take side x).wrote s = t.wrote s := rfl

theorem Conserves.write (hc : d.Conserves t) (hd : d.Sound cap) {side : Side} {p : Bytes}
    (ho : (d.write side p).Open) : (d.write side p).Conserves (t.write side p) := by
  rw [(write_open hd ho).2]
  intro s
  rcases side_cases side s with rfl | rfl
  · simp [hc s, ChunkQueue.bytes_push]
  · simp [hc side.other]

theorem Conserves.flush (hc : d.Conserves t) (hd : d.Sound cap) {side : Side}
    (ho : (d.flush side).Open) : (d.flush side).Conserves t := by
  obtain ⟨-, k, h, hk, hbuf, he⟩ := flush_open hd ho
  rw [he]
  intro s
  rcases side_cases side s with rfl | rfl
  · simp [hc s, hbuf, ChunkQueue.bytes_consume (hd.links s).counted hk]
  · simp [hc side.other]

theorem Conserves.readable (hc : d.Conserves t) (hd : d.Sound cap) {side : Side}
    (ho : (d.readable side).Open) : (d.readable side).Conserves t := by
  obtain ⟨-, data, h, hdata, he⟩ := readable_open hd ho
  rw [he]
  intro s
  rcases side_cases side s with rfl | rfl
  · simp [hc s]
  · simp [hc side.other, ← hdata]

theorem Conserves.take (hc : d.Conserves t) {side : Side} {n : Nat} :
    (d.take side n).Conserves (t.take side ((d.link side).recv.take n)) := by
  intro s
  rcases side_cases side s with rfl | rfl
  · simp [Duplex.take, hc s]
  · simp [Duplex.take, hc side.other]

/-- On an open link, a write is accepted exactly when the pending output stays within `maxSendQ`;
otherwise it fails the link with `sendQExceeded`. -/
theorem write_link (hd : d.Sound cap) {side : Side} (hc : (d.link side).closed = false) (p : Bytes) :
    (((d.write side p).link side).closed = false ↔
        (d.link side).pending + p.length ≤ (d.link side).limits.maxSendQ) ∧
      (((d.write side p).link side).closed = true →
        ((d.write side p).link side).err = some .sendQExceeded) := by
  rw [Link.pending_of_layers (hd.links side).layers, write_eq]
  rcases Link.write_run (hd.links side) hc p ⟨d.pipe, []⟩ with ⟨hfit, sigs, hr⟩ | ⟨hover, sigs, hr⟩
  · rw [hr]
    simp [hc, hfit]
  · rw [hr]
    simp only [link_withPipe, link_setLink, Link.shut, Bool.true_eq_false, false_iff, not_le,
      forall_const, and_true]
    exact hover

section Runs

variable {d₀ : Duplex}

theorem Run.sound (hr : Run d₀ d t) (h₀ : d₀.Sound cap) : d.Sound cap := by
  induction hr with
  | start => exact h₀
  | write side p _ ih => exact ih.write side p
  | flush side _ ih => exact ih.flush side
  | readable side _ ih => exact ih.readable side
  | take side n _ ih => exact ih.take side n

theorem Run.conserves (hr : Run d₀ d t) (h₀ : d₀.Sound cap) (hc₀ : d₀.Conserves .zero) (ho : d.Open) :
    d.Conserves t := by
  induction hr with
  | start => exact hc₀
  | write side p hr ih =>
    have hd := hr.sound h₀
    exact (ih (write_open hd ho).1).write hd ho
  | flush side hr ih =>
    have hd := hr.sound h₀
    exact (ih (flush_open hd ho).1).flush hd ho
  | readable side hr ih =>
    have hd := hr.sound h₀
    exact (ih (readable_open hd ho).1).readable hd ho
  | take side n _ ih => exact (ih (take_open ho)).take

end Runs

section Start

variable {capacity : Int} {lim₁ lim₂ : Limits} {iov₁ iov₂ : Int}

theorem start_link (side : Side) :
    (start capacity lim₁ lim₂ iov₁ iov₂).link side =
      { layers := []
        socket := Socket.create side (if side = .fst then iov₁ else iov₂)
        limits := if side = .fst then lim₁ else lim₂
        recv := []
        sendq := .empty
        closing := false
        closed := false
        err := none } := by
  cases side <;> rfl

theorem start_pipe : (start capacity lim₁ lim₂ iov₁ iov₂).pipe =
    ((Pipe.create capacity).setListens .fst true).setListens .snd true := rfl

theorem start_sound : (start capacity lim₁ lim₂ iov₁ iov₂).Sound (Pipe.create capacity).capacity where
  links side := by
    rw [start_link]
    exact
      { layers := rfl
        side := rfl
        closing := rfl
        counted := ChunkQueue.counted_empty
        bounded := by simp [Link.pending]
        clean := fun _ => ⟨rfl, rfl⟩ }
  capacity := by simp [start_pipe]
  within side := by cases side <;> simp [start_pipe, Pipe.create, Pipe.outbound, Pipe.setListens, Half.empty]

theorem start_conserves : (start capacity lim₁ lim₂ iov₁ iov₂).Conserves .zero := by
  intro side
  cases side <;> simp [start_link, start_pipe, Tally.zero, Pipe.create, Pipe.outbound, Pipe.setListens,
    Half.empty]

end Start

/-- What holds of two links over one pipe of capacity `cap` at a point of a run: in each direction,
while both links are open, what was written is what was taken, then received, then buffered in the
pipe, then queued; the pipe holds at most `cap` bytes each way; and each link's pending output is
within its `maxSendQ`, a write on an open link being accepted exactly when it stays so and failing
the link with `sendQExceeded` otherwise. -/
structure Safe (d : Duplex) (t : Tally) (cap : Nat) : Prop where
  conserves : d.Open → d.Conserves t
  within : ∀ side, (d.pipe.outbound side).buf.length ≤ cap
  bounded : ∀ side, (d.link side).pending ≤ (d.link side).limits.maxSendQ
  overflow : ∀ side p, (d.link side).closed = false →
    (((d.write side p).link side).closed = false ↔
        (d.link side).pending + p.length ≤ (d.link side).limits.maxSendQ) ∧
      (((d.write side p).link side).closed = true →
        ((d.write side p).link side).err = some .sendQExceeded)

theorem Run.safe {capacity : Int} {lim₁ lim₂ : Limits} {iov₁ iov₂ : Int}
    (hr : Run (Duplex.start capacity lim₁ lim₂ iov₁ iov₂) d t) : d.Safe t (Pipe.create capacity).capacity := by
  have hd := hr.sound start_sound
  exact
    { conserves := hr.conserves start_sound start_conserves
      within := fun side => hd.capacity ▸ hd.within side
      bounded := fun side => (hd.links side).bounded
      overflow := fun _ p hc => write_link hd hc p }

theorem Run.safe_of_partial_flush :
    Run (Duplex.start 1 ⟨16, 8⟩ ⟨16, 8⟩ 1 1)
        ((((Duplex.start 1 ⟨16, 8⟩ ⟨16, 8⟩ 1 1).write .fst [104, 105]).flush .fst).readable .snd)
        (Tally.zero.write .fst [104, 105]) ∧
      Safe ((((Duplex.start 1 ⟨16, 8⟩ ⟨16, 8⟩ 1 1).write .fst [104, 105]).flush .fst).readable .snd)
        (Tally.zero.write .fst [104, 105]) (Pipe.create 1).capacity :=
  have hr := Run.readable .snd (Run.flush .fst (Run.write .fst [104, 105] .start))
  ⟨hr, Run.safe hr⟩

end Duplex

end LineKv.Transport
