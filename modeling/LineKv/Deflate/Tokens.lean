import LineKv.Deflate.Code

/-!
The LZ77 output of one block: literal bytes and copies, with how often each symbol of the two
alphabets is used. A copy longer than 258 bytes is cut into pieces of 258, the last two pieces
sharing out the rest so that none is shorter than three.
-/

namespace LineKv.Deflate

/-- A piece of LZ77 output: a literal byte, or a copy of `len` bytes from `dist` back. -/
inductive Token where
  | literal (b : UInt8)
  | copy (len dist : Nat)
  deriving Repr, DecidableEq

def lengthBase : Array Nat :=
  #[0, 1, 2, 3, 4, 5, 6, 7, 8, 10, 12, 14, 16, 20, 24, 28, 32, 40, 48, 56, 64, 80, 96, 112, 128,
    160, 192, 224, 255]

def lengthExtra : Array Nat :=
  #[0, 0, 0, 0, 0, 0, 0, 0, 1, 1, 1, 1, 2, 2, 2, 2, 3, 3, 3, 3, 4, 4, 4, 4, 5, 5, 5, 5, 0]

def distanceBase : Array Nat :=
  #[0, 1, 2, 3, 4, 6, 8, 12, 16, 24, 32, 48, 64, 96, 128, 192, 256, 384, 512, 768, 1024, 1536,
    2048, 3072, 4096, 6144, 8192, 12288, 16384, 24576]

def distanceExtra : Array Nat :=
  #[0, 0, 0, 0, 1, 1, 2, 2, 3, 3, 4, 4, 5, 5, 6, 6, 7, 7, 8, 8, 9, 9, 10, 10, 11, 11, 12, 12, 13, 13]

def lastAtMost (bases : Array Nat) (x : Nat) : Nat :=
  bases.zipIdx.foldl (fun acc (b, i) => if b ≤ x then i else acc) 0

def lengthCode (x : Nat) : Nat := if x ≥ 255 then 28 else lastAtMost (lengthBase.extract 0 28) x

def distanceCode (x : Nat) : Nat := lastAtMost distanceBase x

/-- The tokens of a block and the uses of each symbol. -/
structure TokenStream where
  tokens : Array Token
  /-- Uses of the literal/length symbols 0 … 287; symbol 256 ends the block. -/
  litLen : Array Nat
  /-- Uses of the distance symbols 0 … 31. -/
  dist : Array Nat
  /-- Whether the end-of-block symbol follows the tokens. -/
  ended : Bool

namespace TokenStream

def empty : TokenStream := ⟨#[], Array.replicate 288 0, Array.replicate 32 0, false⟩

def count (ts : TokenStream) : Nat := ts.tokens.size + (if ts.ended then 1 else 0)

def literal (ts : TokenStream) (b : UInt8) : TokenStream :=
  match ts with
  | ⟨tokens, litLen, dist, ended⟩ => ⟨tokens.push (.literal b), litLen.modify b.toNat (· + 1), dist, ended⟩

def literals (ts : TokenStream) (src : Array UInt8) (lo hi : Nat) : TokenStream :=
  (List.range (hi - lo)).foldl (fun ts k => ts.literal (src.getD (lo + k) 0)) ts

def endBlock (ts : TokenStream) : TokenStream :=
  match ts with
  | ⟨tokens, litLen, dist, _⟩ => ⟨tokens, litLen.modify 256 (· + 1), dist, true⟩

def piece (ts : TokenStream) (len dist : Nat) : TokenStream :=
  match ts with
  | ⟨tokens, litLen, dists, ended⟩ =>
    ⟨tokens.push (.copy len dist), litLen.modify (257 + lengthCode (len - 3)) (· + 1),
      dists.modify (distanceCode (dist - 1)) (· + 1), ended⟩

/-- Add a copy of `len` bytes (at least three) from `dist` back, in pieces of at most 258 bytes:
while more than 261 bytes remain a piece takes 258, and 259 … 261 bytes become 255 and the rest. -/
def copy (ts : TokenStream) (len dist : Nat) : TokenStream :=
  go ts len (len / 255 + 1)
where
  /-- Cut off pieces while bytes remain. -/
  go (ts : TokenStream) (remaining : Nat) : Nat → TokenStream
    | 0 => ts
    | fuel + 1 =>
      if remaining = 0 then ts
      else
        let n := if remaining > 258 then (if remaining > 261 then 258 else 255) else remaining
        go (ts.piece n dist) (remaining - n) fuel

def extraBits (litLen dist : Array Nat) : Nat :=
  (List.range 29).foldl (fun acc c => acc + litLen.getD (257 + c) 0 * lengthExtra.getD c 0) 0 +
    (List.range 30).foldl (fun acc c => acc + dist.getD c 0 * distanceExtra.getD c 0) 0

/-- Write the tokens in the given codes, then the end of the block if it is there. -/
def write (ts : TokenStream) (w : BitWriter) (lit dist : Code) : BitWriter :=
  let w := ts.tokens.foldl
    (fun w t =>
      match t with
      | .literal b => lit.put w b.toNat
      | .copy len d =>
        let lc := lengthCode (len - 3)
        let w := (lit.put w (257 + lc)).bits (len - 3 - lengthBase.getD lc 0) (lengthExtra.getD lc 0)
        let dc := distanceCode (d - 1)
        (dist.put w dc).bits (d - 1 - distanceBase.getD dc 0) (distanceExtra.getD dc 0))
    w
  if ts.ended then lit.put w 256 else w

def fastLog2 (x : Float32) : Float32 :=
  let bits := x.toBits
  let expo : Float32 := Float32.ofInt ((((bits >>> 23) &&& 255).toNat : Int) - 128)
  let mantissa := Float32.ofBits ((bits &&& 0x807FFFFF) + 0x3F800000)
  let a := Float32.ofBits 0xBEB08FF9
  let b := Float32.ofBits 0x40019420
  let c := Float32.ofBits 0x3F2CC4C7
  expo + ((a * mantissa + b) * mantissa - c)

def symbolBits (inv : Float32) (v : Nat) : Float32 :=
  let n := v.toFloat32
  let e := -fastLog2 (n * inv)
  (if e < 1 then 1 else e) * n

/-- The estimated size in bits of the block with a code made for it. -/
def estimatedBits (ts : TokenStream) : Nat := Id.run do
  let total := ts.count
  let mut shannon : Float32 := 0
  let mut bits := 0
  let mut copies := 0
  if total > 0 then
    let inv : Float32 := 1 / total.toFloat32
    for i in [0:256] do
      let v := ts.litLen.getD i 0
      if v > 0 then shannon := shannon + symbolBits inv v
    shannon := shannon + 15
    for c in [0:29] do
      let v := ts.litLen.getD (257 + c) 0
      if v > 0 then
        shannon := shannon + symbolBits inv v
        bits := bits + lengthExtra.getD c 0 * v
        copies := copies + v
  if copies > 0 then
    let inv : Float32 := 1 / copies.toFloat32
    for c in [0:30] do
      let v := ts.dist.getD c 0
      if v > 0 then
        shannon := shannon + symbolBits inv v
        bits := bits + distanceExtra.getD c 0 * v
  return shannon.toUInt64.toNat + bits

end TokenStream

end LineKv.Deflate
