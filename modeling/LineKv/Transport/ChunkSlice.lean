import LineKv.Bytes

/-!
Chunk queues as they are laid out. The chunks sit in a slice: `head` indexes the first one still
queued and `off` counts the bytes of it already consumed; the slots before `head` are cleared, not
removed. A byte count is kept beside them.
-/

namespace LineKv.Transport

/-- A chunk queue as laid out: its slots, the first queued slot, the bytes consumed of it, and the
byte count. -/
structure ChunkSlice where
  slots : List Bytes
  head : Nat
  off : Nat
  size : Int
  deriving Repr, Inhabited

namespace ChunkSlice

def empty : ChunkSlice := ⟨[], 0, 0, 0⟩

def chunks (q : ChunkSlice) : List Bytes :=
  match q.slots.drop q.head with
  | [] => []
  | c :: cs => c.drop q.off :: cs

def len (q : ChunkSlice) : Int := q.size

def count (q : ChunkSlice) : Nat := q.slots.length - q.head

def push (q : ChunkSlice) (p : Bytes) : ChunkSlice :=
  if p.isEmpty then q else { q with slots := q.slots ++ [p], size := q.size + p.length }

def fill (max : Int) : List Bytes → List Bytes → List Bytes
  | [], dst => dst
  | c :: cs, dst => if (dst.length : Int) < max then fill max cs (dst ++ [c]) else dst

def peek (q : ChunkSlice) (dst : List Bytes) (max : Int) : List Bytes := fill max q.chunks dst

def front? (q : ChunkSlice) : Option Bytes := q.slots[q.head]?.map (·.drop q.off)

def front (q : ChunkSlice) : Bytes := q.front?.getD []

def compact (q : ChunkSlice) : ChunkSlice :=
  if q.head = q.slots.length then { q with slots := [], head := 0 }
  else if 32 < q.head ∧ q.slots.length < q.head * 2 then { q with slots := q.slots.drop q.head, head := 0 }
  else q

def skip (q : ChunkSlice) (n : Nat) : ChunkSlice := { q with off := q.off + n }

def advance (q : ChunkSlice) : ChunkSlice := { q with slots := q.slots.set q.head [], head := q.head + 1, off := 0 }

def consumeLoop (n : Nat) (q : ChunkSlice) : List Bytes → ChunkSlice × Bool
  | [] => (q, false)
  | c :: cs =>
    if n = 0 then (q, false)
    else if n < c.length - q.off then (q.skip n, true)
    else consumeLoop (n - (c.length - q.off)) q.advance cs

def consume (q : ChunkSlice) (n : Int) : ChunkSlice :=
  let n := if n > q.size then q.size else n
  let q := { q with size := q.size - n }
  let r := consumeLoop n.toNat q (q.slots.drop q.head)
  if r.2 then r.1 else r.1.compact

def pop (q : ChunkSlice) : Bytes × ChunkSlice :=
  match q.front? with
  | none => ([], q)
  | some c => (c, q.consume c.length)

def moveLoop : Nat → ChunkSlice → ChunkSlice → ChunkSlice × ChunkSlice
  | 0, q, dst => (q, dst)
  | fuel + 1, q, dst => if q.size > 0 then moveLoop fuel q.pop.2 (dst.push q.pop.1) else (q, dst)

def moveTo (q dst : ChunkSlice) : ChunkSlice × ChunkSlice := moveLoop q.count q dst

def reset (_ : ChunkSlice) : ChunkSlice := empty

def gauge (q : ChunkSlice) : Int × Nat := (q.len, q.count)

end ChunkSlice

/-- An operation on a chunk queue; `moveTo` moves everything into a second queue. -/
inductive ChunkOp where
  | push (p : Bytes)
  | consume (n : Int)
  | pop
  | front
  | peek (dst : List Bytes) (max : Int)
  | moveTo
  | reset
  deriving Repr

/-- What an operation reads off the queue. -/
inductive ChunkRead where
  | nothing
  | chunk (c : Bytes)
  | chunks (cs : List Bytes)
  deriving Repr, DecidableEq

def ChunkOp.apply : ChunkOp → ChunkSlice × ChunkSlice → ChunkRead × ChunkSlice × ChunkSlice
  | .push p, (q, d) => (.nothing, q.push p, d)
  | .consume n, (q, d) => (.nothing, q.consume n, d)
  | .pop, (q, d) => (.chunk q.pop.1, q.pop.2, d)
  | .front, (q, d) => (.chunk q.front, q, d)
  | .peek dst max, (q, d) => (.chunks (q.peek dst max), q, d)
  | .moveTo, (q, d) => (.nothing, q.moveTo d)
  | .reset, (q, d) => (.nothing, q.reset, d)

end LineKv.Transport
