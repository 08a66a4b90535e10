import LineKv.Fault

/-!
Framing: cutting a receive buffer into lines. A line ends at a line feed, loses one carriage return
before it and reads NUL as space; a complete line over the limit is refused and an unterminated tail
over it is fatal (`next_rest`, `frames`).
-/

namespace LineKv.Line

def defaultMaxLine : Nat := 4096

def effectiveMax (configured : Int) : Nat :=
  if configured ≤ 0 then defaultMaxLine else configured.toNat

/-- The outcome of asking a buffer for its next line. -/
inductive Next where
  /-- A line, and the buffer after its line feed. -/
  | line (text : Bytes) (rest : Bytes)
  /-- A complete line of `len` bytes over the limit, consumed; the buffer after it. -/
  | overlong (len limit : Nat) (rest : Bytes)
  /-- No line feed yet and the buffer within the limit. -/
  | incomplete
  /-- No line feed and `len` buffered bytes, more than the limit. -/
  | exceeded (len : Nat)
  deriving Repr, Inhabited

def dropCR (raw : Bytes) : Bytes :=
  if raw.getLast? = some 13 then raw.dropLast else raw

def next (max : Nat) (buf : Bytes) : Next :=
  match Bytes.cut buf 10 with
  | (_, none) => if buf.length > max then .exceeded buf.length else .incomplete
  | (raw, some rest) =>
    let body := dropCR raw
    if body.length > max then .overlong body.length max rest
    else .line (Bytes.replaceByte body 0 32) rest

def Next.remaining (buf : Bytes) : Next → Bytes
  | .line _ rest => rest
  | .overlong _ _ rest => rest
  | .incomplete => buf
  | .exceeded _ => buf

/-- What `next` consumes is a prefix that ends with the first line feed, or nothing. -/
theorem next_rest (max : Nat) (buf : Bytes) :
    (∃ raw, 10 ∉ raw ∧ buf = raw ++ 10 :: (next max buf).remaining buf) ∨
      (10 ∉ buf ∧ (next max buf).remaining buf = buf) := by
  have hs := Bytes.cut_some buf 10
  have hr := Bytes.cut_fst_not_mem buf 10
  have hn := Bytes.cut_none_iff buf 10
  unfold next
  cases h : Bytes.cut buf 10 with
  | mk raw after =>
    rw [h] at hs hr hn
    cases after with
    | none =>
      right
      refine ⟨hn.mp rfl, ?_⟩
      simp only
      split <;> rfl
    | some rest =>
      left
      refine ⟨raw, hr, ?_⟩
      simp only
      split <;> exact hs rest rfl

/-- Why a framing step refused input. -/
inductive FrameError where
  /-- A complete line over the limit. -/
  | overlong (len limit : Nat)
  /-- Too many bytes without a line feed. -/
  | exceeded (len : Nat)
  deriving Repr

def FrameError.toFault : FrameError → Fault
  | .overlong len limit => .of .framing (Bytes.ofString s!"protocol: framing error: line of {len} bytes exceeds {limit}")
  | .exceeded len => .of .recvQExceeded (Bytes.ofString s!"protocol: RecvQ exceeded: {len} bytes without a line delimiter")

/-- Ask a buffer for lines until it yields none, at most `fuel` times: each line or framing error
in order, and the buffer left. An incomplete tail ends the run quietly; one over the limit ends it
with its fatal error. -/
def frames (max : Nat) : Nat → Bytes → List (Except FrameError Bytes) × Bytes
  | 0, buf => ([], buf)
  | fuel + 1, buf =>
    match next max buf with
    | .line text rest =>
      let (found, left) := frames max fuel rest
      (.ok text :: found, left)
    | .overlong len limit rest =>
      let (found, left) := frames max fuel rest
      (.error (.overlong len limit) :: found, left)
    | .incomplete => ([], buf)
    | .exceeded len => ([.error (.exceeded len)], buf)

end LineKv.Line
