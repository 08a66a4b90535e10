import LineKv.Deflate.Tokens

/-!
What the fast copy finders share: hashes of the bytes at a position, loads, how far two places
agree, and the history of a frame. A hash keeps the top `bits` bits of the product of a prime with
the first four, five, six or seven bytes at a position.
-/

namespace LineKv.Deflate

def load64 (src : Array UInt8) (i : Nat) : UInt64 :=
  (List.range 8).foldl (fun acc k => acc ||| ((src.getD (i + k) 0).toUInt64 <<< (8 * k).toUInt64)) 0

def load32 (src : Array UInt8) (i : Nat) : UInt32 :=
  (List.range 4).foldl (fun acc k => acc ||| ((src.getD (i + k) 0).toUInt32 <<< (8 * k).toUInt32)) 0

def hash4 (bits : Nat) (u : UInt64) : Nat := ((u.toUInt32 * 2654435761) >>> (32 - bits).toUInt32).toNat

def hash5 (bits : Nat) (u : UInt64) : Nat := (((u <<< 24) * 889523592379) >>> (64 - bits).toUInt64).toNat

def hash7 (bits : Nat) (u : UInt64) : Nat := (((u <<< 8) * 58295818150454627) >>> (64 - bits).toUInt64).toNat

def agree (src : Array UInt8) (stop : Nat) : Nat → Nat → Nat → Nat → Nat
  | 0, _, _, n => n
  | fuel + 1, a, b, n =>
    if a < stop && src.getD a 0 == src.getD b 0 then agree src stop fuel (a + 1) (b + 1) (n + 1) else n

def agreeUpTo (src : Array UInt8) (a b most : Nat) : Nat := agree src (min (a + most) src.size) most a b 0

def agreeAll (src : Array UInt8) (a b : Nat) : Nat := agree src src.size (src.size - a) a b 0

def reach (window s : Nat) (t : Int) : Bool := 0 ≤ t && (s : Int) - t < window

def reachAtMost (window s : Nat) (t : Int) : Bool := 0 ≤ t && (s : Int) - t ≤ window

def extendBack (src : Array UInt8) (nextEmit : Nat) : Nat → Nat → Nat → Nat → Nat × Nat × Nat
  | 0, s, t, l => (s, t, l)
  | fuel + 1, s, t, l =>
    if t > 0 && s > nextEmit && src.getD (t - 1) 0 == src.getD (s - 1) 0 then
      extendBack src nextEmit fuel (s - 1) (t - 1) (l + 1)
    else (s, t, l)

def remainder (src : Array UInt8) (ts : TokenStream) (nextEmit : Nat) : TokenStream :=
  if nextEmit < src.size && !ts.tokens.isEmpty then ts.literals src nextEmit src.size else ts

/-- The blocks of a frame seen so far, and the base added to positions in the tables. -/
structure History where
  bytes : Array UInt8
  base : Int

namespace History

def room : Nat := 327675

def fresh : History := ⟨#[], 65535⟩

def add (h : History) (window : Nat) (block : Array UInt8) : History × Nat :=
  let h :=
    if h.bytes.size + block.size > room then
      let offset := h.bytes.size - window
      ⟨h.bytes.extract offset h.bytes.size, h.base + offset⟩
    else h
  (⟨h.bytes ++ block, h.base⟩, h.bytes.size)

end History

abbrev Places := Array Int

/-- A table keeping the last two places of each key. -/
structure PlacePairs where
  cur : Places
  prev : Places

namespace PlacePairs

def empty (size : Nat) : PlacePairs := ⟨Array.replicate size 0, Array.replicate size 0⟩

def note (p : PlacePairs) (slot : Nat) (pos : Int) : PlacePairs :=
  match p with
  | ⟨cur, prev⟩ =>
    let old := cur.getD slot 0
    ⟨cur.setIfInBounds slot pos, prev.setIfInBounds slot old⟩

end PlacePairs

end LineKv.Deflate
