import LineKv.Bytes

/-!
Outbound chunk queues. A queue holds the chunks pushed to it, in order and never merged; the first
one is trimmed by what has already been consumed, and an empty chunk is never held. Beside the
chunks it keeps a byte count.
-/

namespace LineKv.Transport

/-- A queue of outbound chunks and its byte count. -/
structure ChunkQueue where
  chunks : List Bytes
  size : Int
  deriving Repr, Inhabited

namespace ChunkQueue

def empty : ChunkQueue := ⟨[], 0⟩

def len (q : ChunkQueue) : Int := q.size

def count (q : ChunkQueue) : Nat := q.chunks.length

def push (q : ChunkQueue) (p : Bytes) : ChunkQueue :=
  if p.isEmpty then q else ⟨q.chunks ++ [p], q.size + p.length⟩

def peek (q : ChunkQueue) (max : Nat) : List Bytes := q.chunks.take max

def front (q : ChunkQueue) : Bytes := q.chunks.headD []

def dropBytes (n : Nat) : List Bytes → List Bytes
  | [] => []
  | c :: cs =>
    if n = 0 then c :: cs
    else if n < c.length then c.drop n :: cs
    else dropBytes (n - c.length) cs

def consume (q : ChunkQueue) (n : Int) : ChunkQueue :=
  let n := if n > q.size then q.size else n
  ⟨dropBytes n.toNat q.chunks, q.size - n⟩

def pop (q : ChunkQueue) : Bytes × ChunkQueue :=
  match q.chunks with
  | [] => ([], q)
  | c :: _ => (c, q.consume c.length)

def moveTo (q dst : ChunkQueue) : ChunkQueue × ChunkQueue :=
  (empty, q.chunks.foldl push dst)

def reset (_ : ChunkQueue) : ChunkQueue := empty

def bytes (q : ChunkQueue) : Bytes := q.chunks.flatten

end ChunkQueue

end LineKv.Transport
