import LineKv.Deflate.Bits

/-!
Prefix codes for writing DEFLATE blocks, built from how often each symbol is used. With at most
two symbols used, each gets a one-bit code in symbol order.
-/

namespace LineKv.Deflate

/-- A code for writing: each symbol's value (first bit most significant) and length; length 0
when the symbol has no code. -/
structure Code where
  entries : Array (Nat × Nat)
  deriving Inhabited

namespace Code

def len (c : Code) (sym : Nat) : Nat := (c.entries.getD sym (0, 0)).2

def put (c : Code) (w : BitWriter) (sym : Nat) : BitWriter :=
  let (v, n) := c.entries.getD sym (0, 0)
  w.code v n

def cost (c : Code) (freq : Array Nat) : Nat :=
  freq.zipIdx.foldl (fun acc (f, i) => acc + f * c.len i) 0

def covers (c : Code) (freq : Array Nat) : Bool :=
  freq.zipIdx.all fun (f, i) => f == 0 || c.len i != 0

def unusable : Nat := 2147483647

def costIfCovers (c : Code) (freq : Array Nat) : Nat :=
  if c.covers freq then c.cost freq else unusable

def never : Nat := 2147483647

/-- How many codes of each length 1 … `maxBits` (index 0 unused) a length-limited Huffman code
gives `freqs`, which are increasing and at least three. Each level records the frequency of its
last node, of its next unused symbol and of the next pair offered from below, how many nodes it
still needs, and for its chain how many symbols stand left of each level's ancestor. -/
def lengthCounts (freqs : Array Nat) (maxBits : Nat) : Array Nat := Id.run do
  let n := freqs.size
  let top := min maxBits (n - 1)
  let freqAt := fun (i : Nat) => if i < n then freqs.getD i 0 else never
  let mut lastFreq : Array Nat := Array.replicate 17 0
  let mut nextChar : Array Nat := Array.replicate 17 0
  let mut nextPair : Array Nat := Array.replicate 17 0
  let mut needed : Array Nat := Array.replicate 17 0
  let mut leaves : Array (Array Nat) := Array.replicate 17 (Array.replicate 17 0)
  for level in [1:top + 1] do
    lastFreq := lastFreq.setIfInBounds level (freqAt 1)
    nextChar := nextChar.setIfInBounds level (freqAt 2)
    nextPair := nextPair.setIfInBounds level (if level == 1 then never else freqAt 0 + freqAt 1)
    leaves := leaves.modify level (·.setIfInBounds level 2)
  needed := needed.setIfInBounds top (2 * n - 4)
  let mut level := top
  for _ in [0:64 * (n + 2)] do
    if level ≥ 16 then break
    if nextPair.getD level 0 == never && nextChar.getD level 0 == never then
      needed := needed.setIfInBounds level 0
      nextPair := nextPair.setIfInBounds (level + 1) never
      level := level + 1
      continue
    let prevFreq := lastFreq.getD level 0
    if nextChar.getD level 0 < nextPair.getD level 0 then
      let k := (leaves.getD level #[]).getD level 0 + 1
      lastFreq := lastFreq.setIfInBounds level (nextChar.getD level 0)
      leaves := leaves.modify level (·.setIfInBounds level k)
      nextChar := nextChar.setIfInBounds level (freqAt k)
    else
      lastFreq := lastFreq.setIfInBounds level (nextPair.getD level 0)
      let save := (leaves.getD level #[]).getD level 0
      leaves := leaves.setIfInBounds level ((leaves.getD (level - 1) #[]).setIfInBounds level save)
      needed := needed.setIfInBounds (level - 1) 2
    needed := needed.modify level (· - 1)
    if needed.getD level 0 == 0 then
      if level == top then break
      nextPair := nextPair.setIfInBounds (level + 1) (prevFreq + lastFreq.getD level 0)
      level := level + 1
    else
      for _ in [0:16] do
        if needed.getD (level - 1) 0 > 0 then level := level - 1 else break
  let counts := leaves.getD top #[]
  let mut out : Array Nat := Array.replicate (top + 1) 0
  for bits in [1:top + 1] do
    let lv := top + 1 - bits
    out := out.setIfInBounds bits (counts.getD lv 0 - counts.getD (lv - 1) 0)
  return out

/-- The code for symbols used as often as `freq` says, no code longer than `maxBits`. -/
def build (freq : Array Nat) (maxBits : Nat) : Code := Id.run do
  let used := (freq.zipIdx.toList.filter (·.1 != 0)).map fun (f, i) => (i, f)
  let mut entries : Array (Nat × Nat) := Array.replicate freq.size (0, 0)
  if used.length ≤ 2 then
    for (node, k) in used.zipIdx do
      entries := entries.setIfInBounds node.1 (k, 1)
    return ⟨entries⟩
  let ranked := used.mergeSort fun a b => a.2 < b.2 || (a.2 == b.2 && a.1 ≤ b.1)
  let counts := lengthCounts (ranked.map (·.2)).toArray maxBits
  let mut rest := ranked.reverse
  let mut value := 0
  for n in [0:counts.size] do
    value := value * 2
    let k := counts.getD n 0
    if n == 0 || k == 0 then continue
    for node in (rest.take k).mergeSort (fun a b => a.1 ≤ b.1) do
      entries := entries.setIfInBounds node.1 (value, n)
      value := value + 1
    rest := rest.drop k
  return ⟨entries⟩

def fixedLiterals : Code :=
  ⟨(Array.range 286).map fun s =>
    if s < 144 then (0x30 + s, 8)
    else if s < 256 then (0x190 + (s - 144), 9)
    else if s < 280 then (s - 256, 7)
    else (0xC0 + (s - 280), 8)⟩

def fixedDistances : Code := ⟨(Array.range 30).map fun s => (s, 5)⟩

end Code

def lengthOrder : List Nat := [16, 17, 18, 0, 8, 7, 9, 6, 10, 5, 11, 4, 12, 3, 13, 2, 14, 1, 15]

def repeatSymbols (size count : Nat) : List (Nat × Nat) :=
  if count ≥ 3 then (16, min 6 count - 3) :: repeatSymbols size (count - min 6 count)
  else List.replicate count (size, 0)
termination_by count
decreasing_by omega

def zeroSymbols (count : Nat) : List (Nat × Nat) :=
  if count ≥ 11 then (18, min 138 count - 11) :: zeroSymbols (count - min 138 count)
  else if count ≥ 3 then [(17, count - 3)]
  else List.replicate count (0, 0)
termination_by count
decreasing_by omega

def lengthRuns : List Nat → List (Nat × Nat)
  | [] => []
  | x :: rest =>
    match lengthRuns rest with
    | (y, c) :: more => if x == y then (y, c + 1) :: more else (x, 1) :: (y, c) :: more
    | [] => [(x, 1)]

def lengthSymbols (lens : List Nat) : List (Nat × Nat) :=
  (lengthRuns lens).flatMap fun (size, count) =>
    if size ≠ 0 then (size, 0) :: repeatSymbols size (count - 1) else zeroSymbols count

/-- The header of a dynamic block: the code-length symbols, how often each is used, their code,
and how many code-length-code lengths are sent (at least four, up to the last one used). -/
structure Header where
  symbols : List (Nat × Nat)
  freq : Array Nat
  code : Code
  sent : Nat

namespace Header

def ofLengths (lens : List Nat) : Header :=
  let symbols := lengthSymbols lens
  let freq := symbols.foldl (fun f (s, _) => f.modify s (· + 1)) (Array.replicate 19 0)
  let sent := lengthOrder.zipIdx.foldl (fun acc (s, i) => if i ≥ 4 && freq.getD s 0 != 0 then i + 1 else acc) 4
  ⟨symbols, freq, Code.build freq 7, sent⟩

def size (h : Header) : Nat :=
  3 + 5 + 5 + 4 + 3 * h.sent + h.code.cost h.freq + h.freq.getD 16 0 * 2 + h.freq.getD 17 0 * 3 +
    h.freq.getD 18 0 * 7

/-- Write the block type and the header, for `numLit` literal/length and `numDist` distance
lengths. -/
def write (h : Header) (w : BitWriter) (numLit numDist : Nat) (final : Bool) : BitWriter :=
  let w := w.bits (if final then 5 else 4) 3
  let w := ((w.bits (numLit - 257) 5).bits (numDist - 1) 5).bits (h.sent - 4) 4
  let w := (lengthOrder.take h.sent).foldl (fun w s => w.bits (h.code.len s) 3) w
  h.symbols.foldl
    (fun w (s, extra) =>
      let w := h.code.put w s
      if s == 16 then w.bits extra 2
      else if s == 17 then w.bits extra 3
      else if s == 18 then w.bits extra 7
      else w)
    w

end Header

end LineKv.Deflate
