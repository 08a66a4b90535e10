import LineKv.Deflate.Huffman

/-!
Decoding a raw DEFLATE stream (RFC 1951) the way a streaming decoder does, with its exact failure
points.
-/

namespace LineKv.Deflate

/-- How decoding ended. -/
inductive Ending where
  /-- The last block ended, or the input ran out inside extra bits. -/
  | finished
  /-- The input ran out anywhere else. -/
  | unexpectedEof
  /-- The input is invalid; the offset is the decoder's count of consumed bytes. -/
  | corrupt (offset : Nat)
  /-- The output passed the cap. -/
  | overCap
  deriving Repr, DecidableEq, Inhabited

def Ending.message : Ending → String
  | .unexpectedEof => "unexpected EOF"
  | .corrupt n => s!"flate: corrupt input before offset {n}"
  | .finished => "EOF"
  | .overCap => "EOF"

/-- Decoder state: input and bit buffer, the output so far and its last hand-over. -/
structure Inflater where
  input : Array UInt8
  /-- Bytes taken from the input. -/
  pos : Nat
  /-- The decoder's count of consumed bytes (see the stored-block quirk). -/
  roffset : Nat
  bits : Nat
  nbits : Nat
  out : Array UInt8
  flushed : Nat
  cap : Nat
  deriving Inhabited

abbrev Decode := EStateM Ending Inflater

def windowSize : Nat := 32768

namespace Inflater

def start (input : Array UInt8) (cap : Nat) : Inflater := ⟨input, 0, 0, 0, 0, #[], 0, cap⟩

def corrupt {α : Type} : Decode α := do
  throw (.corrupt (← get).roffset)

/-- Take one more byte into the bit buffer, or end with `onEof`. -/
def more (onEof : Ending) : Decode Unit := do
  let s ← get
  match s.input[s.pos]? with
  | some c =>
    set
      { s with
        pos := s.pos + 1
        roffset := s.roffset + 1
        bits := s.bits + c.toNat * Nat.pow 2 s.nbits
        nbits := s.nbits + 8 }
  | none => throw onEof

def need (n : Nat) (onEof : Ending) : Decode Unit := do
  for _ in [0:5] do
    if (← get).nbits < n then more onEof

def take (n : Nat) : Decode Nat := do
  let s ← get
  set { s with bits := s.bits / Nat.pow 2 n, nbits := s.nbits - n }
  return s.bits % Nat.pow 2 n

/-- Decode one symbol of a table: hold `maxRead` bits, look up, and take more bits while the
entry found is longer than what is held. -/
def symbol (t : Table) : Decode Nat :=
  let rec go : Nat → Nat → Decode Nat
    | 0, _ => corrupt
    | k + 1, n => do
      need n .unexpectedEof
      let s ← get
      let e := t.entry s.bits
      let len := e % 16
      if len ≤ s.nbits then
        if len = 0 then corrupt
        else
          let _ ← take len
          return e / 16
      else go k len
  go 8 t.maxRead

/-- Extend the output with `f`, recording hand-overs and checking the cap. The output array is
taken out of the state first, so that extending it does not copy it. -/
def grow (f : Array UInt8 → Array UInt8) : Decode Unit := do
  let s ← get
  let before := s.out.size
  let out := s.out
  let s := { s with out := #[] }
  let out := f out
  let filled := out.size / windowSize * windowSize
  let s := { s with out := out, flushed := if filled > before then max s.flushed filled else s.flushed }
  set s
  if s.out.size > s.cap then throw .overCap

def copyBack (dist len : Nat) : Decode Unit :=
  grow fun out =>
    (List.range len).foldl (fun (acc : Array UInt8) _ => acc.push (acc.getD (acc.size - dist) 0)) out

def lengthBase (v : Nat) : Nat × Nat :=
  let table : List (Nat × Nat) :=
    [(3, 0), (4, 0), (5, 0), (6, 0), (7, 0), (8, 0), (9, 0), (10, 0), (11, 1), (13, 1), (15, 1),
      (17, 1), (19, 2), (23, 2), (27, 2), (31, 2), (35, 3), (43, 3), (51, 3), (59, 3), (67, 4),
      (83, 4), (99, 4), (115, 4), (131, 5), (163, 5), (195, 5), (227, 5), (258, 0)]
  table.getD (v - 257) (0, 0)

/-- Decode a length symbol's extra bits and the distance that follows: `(length, distance)`.
Running out of input inside extra bits ends the stream as finished. -/
def reference (v : Nat) (dists : Option Table) : Decode (Nat × Nat) := do
  let (base, extra) := lengthBase v
  need extra .finished
  let length := base + (← take extra)
  let code ← match dists with
    | none => do
      need 5 .finished
      pure (reverseBits (← take 5) 5)
    | some t => symbol t
  if code < 4 then return (length, code + 1)
  else if code < 30 then
    let nb := (code - 2) / 2
    need nb .finished
    let x ← take nb
    return (length, Nat.pow 2 (nb + 1) + 1 + (code % 2) * Nat.pow 2 nb + x)
  else corrupt

/-- Decode the symbols of a compressed block up to its end-of-block symbol. Every symbol takes
at least one bit, which bounds the loop by the input's size in bits. -/
def codes (lits : Table) (dists : Option Table) : Nat → Decode Unit
  | 0 => throw .unexpectedEof
  | fuel + 1 => do
    let v ← symbol lits
    if v < 256 then
      grow (·.push v.toUInt8)
      codes lits dists fuel
    else if v = 256 then return ()
    else if v < 286 then
      let (length, dist) ← reference v dists
      if dist > min (← get).out.size windowSize then corrupt
      else
        copyBack dist length
        codes lits dists fuel
    else corrupt

/-- A stored block: its length and complement, then its bytes. The whole bytes left in the bit
buffer serve as the first header bytes, and are counted as consumed a second time. -/
def stored : Decode Unit := do
  let s ← get
  let left := s.nbits % 8
  let bits := s.bits / Nat.pow 2 left
  let held := (s.nbits - left) / 8
  let buffered := (List.range held).map fun i => bits / Nat.pow 256 i % 256
  let want := 4 - held
  let got := (s.input.extract s.pos (s.pos + want)).toList.map (·.toNat)
  let s :=
    { s with
      bits := 0
      nbits := 0
      pos := s.pos + got.length
      roffset := s.roffset + held + got.length }
  set s
  if got.length < want then throw .unexpectedEof
  let hdr := buffered ++ got
  let n := hdr.getD 0 0 + hdr.getD 1 0 * 256
  let nn := hdr.getD 2 0 + hdr.getD 3 0 * 256
  if nn ≠ 65535 - n then corrupt
  else if n = 0 then set { s with flushed := s.out.size }
  else
    let data := s.input.extract s.pos (s.pos + n)
    set { s with pos := s.pos + data.size, roffset := s.roffset + data.size }
    grow (· ++ data)
    if data.size < n then throw .unexpectedEof

def codeOrder : List Nat := [16, 17, 18, 0, 8, 7, 9, 6, 10, 5, 11, 4, 12, 3, 13, 2, 14, 1, 15]

/-- Read `count` code lengths with the code length code; each round adds at least one. -/
def lengths (clen : Table) (count : Nat) : Nat → Array Nat → Decode (Array Nat)
  | 0, acc => return acc
  | fuel + 1, acc => do
    if acc.size ≥ count then return acc
    let x ← symbol clen
    if x < 16 then lengths clen count fuel (acc.push x)
    else
      let (rep, nb, b) :=
        if x = 16 then (3, 2, acc.back?.getD 0) else if x = 17 then (3, 3, 0) else (11, 7, 0)
      if x = 16 ∧ acc.isEmpty then corrupt
      else
        need nb .unexpectedEof
        let rep := rep + (← take nb)
        if acc.size + rep > count then corrupt
        else lengths clen count fuel (acc ++ Array.replicate rep b)

def clenLengths (nclen : Nat) : Decode (List Nat) := do
  let mut given : List (Nat × Nat) := []
  for sym in codeOrder.take nclen do
    need 3 .unexpectedEof
    given := given ++ [(sym, ← take 3)]
  return (List.range 19).map fun sym => ((given.find? (·.1 = sym)).map (·.2)).getD 0

/-- Read a dynamic block's header: the literal/length table and the distance table. A block that
is not the last one holds ten more bits before its first look-up. -/
def header (final : Bool) : Decode (Table × Table) := do
  need 14 .unexpectedEof
  let nlit := (← get).bits % 32 + 257
  if nlit > 286 then corrupt
  let ndist := (← get).bits / 32 % 32 + 1
  if ndist > 30 then corrupt
  let _ ← take 10
  let nclen := (← take 4) + 4
  let clens ← clenLengths nclen
  match Table.build? clens with
  | none => corrupt
  | some clen =>
    let all ← lengths clen (nlit + ndist) (nlit + ndist + 1) #[]
    let lit := (all.extract 0 nlit).toList
    let dist := (all.extract nlit (nlit + ndist)).toList
    match Table.build? lit, Table.build? dist with
    | some lt, some dt =>
      let eob := lit.getD 256 0
      let lt := if lt.maxRead < eob then { lt with maxRead := eob } else lt
      let lt := if final then lt else { lt with maxRead := lt.maxRead + 10 }
      return (lt, dt)
    | _, _ => corrupt

def budget : Decode Nat := do
  let s ← get
  return 8 * (s.input.size - s.pos) + s.nbits + 1

/-- Decode one block; whether it was the last. -/
def block : Decode Bool := do
  need 3 .unexpectedEof
  let final := (← take 1) = 1
  let kind ← take 2
  if kind = 0 then stored
  else if kind = 1 then codes fixedTable none (← budget)
  else if kind = 2 then
    let (lt, dt) ← header final
    codes lt (some dt) (← budget)
  else corrupt
  return final

def blocks : Nat → Decode Unit
  | 0 => throw .unexpectedEof
  | fuel + 1 => do
    if ← block then return () else blocks fuel

end Inflater

/-- What decoding a stream gave: how it ended, the output (which stops at most one copy past the
cap), and the output position of the last hand-over. -/
structure Inflated where
  ending : Ending
  out : Array UInt8
  flushed : Nat

def inflate (input : Array UInt8) (cap : Nat) : Inflated :=
  match (Inflater.blocks (8 * input.size + 1)).run (Inflater.start input cap) with
  | .ok () s => ⟨.finished, s.out, s.flushed⟩
  | .error e s => ⟨e, s.out, s.flushed⟩

end LineKv.Deflate
