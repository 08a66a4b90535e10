import LineKv.Bytes

/-!
Canonical Huffman codes of the DEFLATE format (RFC 1951, section 3.2.2), as decoding tables. A
code is given by its code lengths, one per symbol (zero: the symbol is absent).
-/

namespace LineKv.Deflate

def chunkBits : Nat := 9

def numChunks : Nat := 512

def reverseBits (x n : Nat) : Nat :=
  (List.range n).foldl (fun acc i => acc * 2 + x / Nat.pow 2 i % 2) 0

/-- A decoding table. -/
structure Table where
  chunks : Array Nat
  links : Array (Array Nat)
  linkMask : Nat
  /-- How many bits to hold before the first look-up: the shortest code length, or more. -/
  maxRead : Nat
  deriving Inhabited

namespace Table

def setAt (a : Array Nat) (i v : Nat) : Array Nat := a.setIfInBounds i v

def fill (a : Array Nat) (start step size entry : Nat) : Array Nat :=
  (List.range' start ((size - start + step - 1) / step) step).foldl (fun acc off => setAt acc off entry) a

def counts (lengths : List Nat) : Array Nat :=
  lengths.foldl (fun acc n => if n = 0 then acc else acc.modify (n % 16) (· + 1)) (Array.replicate 16 0)

def firstCodes (count : Array Nat) (lo hi : Nat) : Array Nat × Nat :=
  (List.range (hi + 1 - lo)).foldl
    (fun (acc : Array Nat × Nat) k =>
      let i := lo + k
      let code := acc.2 * 2
      (acc.1.setIfInBounds (i % 16) code, code + count.getD (i % 16) 0))
    (Array.replicate 16 0, 0)

/-- The table with link tables reserved for every code longer than 9 bits. -/
def withLinks (next : Array Nat) (hi : Nat) : Table :=
  let empty : Table := ⟨Array.replicate numChunks 0, #[], 0, 0⟩
  if hi ≤ chunkBits then empty
  else
    let numLinks := Nat.pow 2 (hi - chunkBits)
    let link := next.getD (chunkBits + 1) 0 / 2
    let chunks := (List.range (numChunks - link)).foldl
      (fun acc off => setAt acc (reverseBits (link + off) chunkBits) (off * 16 + chunkBits + 1))
      empty.chunks
    ⟨chunks, Array.replicate (numChunks - link) (Array.replicate numLinks 0), numLinks - 1, 0⟩

/-- Enter the code of one symbol. -/
def place (t : Table) (sym n code : Nat) : Table :=
  let entry := sym * 16 + n
  let rev := reverseBits code n
  if n ≤ chunkBits then { t with chunks := fill t.chunks rev (Nat.pow 2 n) numChunks entry }
  else
    let j := rev % numChunks
    let value := t.chunks.getD j 0 / 16
    let tab := t.links.getD value #[]
    let tab := fill tab (rev / numChunks) (Nat.pow 2 (n - chunkBits)) tab.size entry
    { t with links := t.links.setIfInBounds value tab }

/-- The decoding table of a code given by its lengths; `none` when the code is over-subscribed or
incomplete. -/
def build? (lengths : List Nat) : Option Table :=
  let nonzero := lengths.filter (· ≠ 0)
  let lo := nonzero.foldl min (nonzero.headD 0)
  let hi := nonzero.foldl max 0
  if hi = 0 then some ⟨Array.replicate numChunks 0, #[], 0, 0⟩
  else
    let count := counts lengths
    let (next, code) := firstCodes count lo hi
    if code ≠ Nat.pow 2 hi ∧ ¬(code = 1 ∧ hi = 1) then none
    else
      let base := { withLinks next hi with maxRead := lo }
      let (t, _) := lengths.zipIdx.foldl
        (fun (acc : Table × Array Nat) (n, sym) =>
          if n = 0 then acc
          else
            let code := acc.2.getD n 0
            (place acc.1 sym n code, acc.2.setIfInBounds n (code + 1)))
        (base, next)
      some t

def entry (t : Table) (b : Nat) : Nat :=
  let c := t.chunks.getD (b % numChunks) 0
  if c % 16 > chunkBits then
    (t.links.getD (c / 16) #[]).getD (b / numChunks % (t.linkMask + 1)) 0
  else c

end Table

def fixedEntry (j : Nat) : Nat :=
  let r := reverseBits j chunkBits
  if r / 4 < 24 then (256 + r / 4) * 16 + 7
  else if r / 2 < 192 then (r / 2 - 48) * 16 + 8
  else if r / 2 < 200 then (r / 2 - 192 + 280) * 16 + 8
  else (r - 400 + 144) * 16 + 9

def fixedTable : Table := ⟨⟨(List.range numChunks).map fixedEntry⟩, #[], 0, 7⟩

end LineKv.Deflate
