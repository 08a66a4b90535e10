import LineKv.Deflate.Block
import LineKv.Deflate.Match

/-!
The copy finder of levels 7 to 9: hash chains over a window of 64 KiB, with lazy matching. Every
position with four bytes ahead is put at the head of the chain of its four-byte hash.
-/

namespace LineKv.Deflate

/-- How hard a lazy level looks: held copies at least `lazy` long are written at once, a copy of
`nice` bytes ends the search, and at most `chain` places are tried. -/
structure LazyParams where
  lazy : Nat
  nice : Nat
  chain : Nat

def LazyParams.ofLevel (level : Int) : LazyParams :=
  if level == 7 then ⟨12, 16, 24⟩ else if level == 8 then ⟨30, 40, 64⟩ else ⟨258, 258, 1024⟩

def chainBits : Nat := 17

def lazyWindow : Nat := 32768

def blockTokens : Nat := 32768

/-- The state of a lazy level over a frame. -/
structure LazyState where
  params : LazyParams
  /-- The window; its size is where the data in it ends. -/
  window : Array UInt8
  /-- The next position to look at. -/
  index : Nat
  /-- Added to positions in the chains, growing as the window moves. -/
  hashOffset : Nat
  /-- The last place of each hash, plus the offset; 0 when none. -/
  head : Array Nat
  /-- For each place (modulo the window span), the place before it in its chain, plus the offset. -/
  prev : Array Nat
  /-- The head of the chain at the last position put in. -/
  chainHead : Int
  /-- The copy found at the last position: its length (3 when none) and distance. -/
  length : Nat
  offset : Nat
  /-- Whether the byte before `index` still waits to be written. -/
  byteAvailable : Bool
  /-- Literals written in a row, modulo 65536. -/
  run : Nat
  /-- The last position with four bytes ahead, plus one. -/
  maxInsert : Int
  /-- Where the data of the block being gathered starts; none once it left the window. -/
  blockStart : Option Nat
  tokens : TokenStream
  /-- The bits of each byte in a literal code made for the data ahead. -/
  rawBits : Array Nat
  out : BlockWriter
  /-- Whether the data has ended and everything is to be written. -/
  sync : Bool

namespace LazyState

def fresh (params : LazyParams) : LazyState :=
  ⟨params, #[], 0, 1, Array.replicate (Nat.pow 2 chainBits) 0, Array.replicate lazyWindow 0, -1, 3, 0,
    false, 0, 0, some 0, TokenStream.empty, Array.replicate 256 0, BlockWriter.create 8, false⟩

def hashAt (st : LazyState) (i : Nat) : Nat := hash4 chainBits (load64 st.window i)

def insert (st : LazyState) (i : Nat) : LazyState :=
  let h := st.hashAt i
  let old := st.head.getD h 0
  { st with chainHead := old, prev := st.prev.setIfInBounds (i % lazyWindow) old,
            head := st.head.setIfInBounds h (i + st.hashOffset) }

def writeBlock (st : LazyState) (index : Nat) : LazyState :=
  if index > 0 then
    let input := st.blockStart.bind fun b => if b ≤ index then some (st.window.extract b index) else none
    { st with out := st.out.dynamic st.tokens false input st.sync, blockStart := some index,
              tokens := TokenStream.empty }
  else st

def writeIfFull (st : LazyState) (index : Nat) : LazyState :=
  if st.tokens.count == blockTokens then st.writeBlock index else st

def literalBefore (st : LazyState) : LazyState :=
  { st with tokens := st.tokens.literal (st.window.getD (st.index - 1) 0) }

def rawCost (st : LazyState) (i n : Nat) : Nat :=
  (List.range n).foldl (fun acc k => acc + st.rawBits.getD (st.window.getD (i + k) 0).toNat 0) 0

/-- Follow the chain from `i` for a copy at `pos` longer than `length` (a copy must gain more
than `gain` when gains count): the best length and distance found. -/
def chainSearch (st : LazyState) (pos look nice minIndex : Nat) (gains : Bool) :
    Nat → Int → Nat → Nat → Int → Option (Nat × Nat) → Option (Nat × Nat)
  | 0, _, _, _, _, best => best
  | tries + 1, i, length, wEndAt, gain, best =>
    let iN := i.toNat
    let (length, wEndAt, gain, best, stop) :=
      if st.window.getD (pos + wEndAt) 0 == st.window.getD (iN + length) 0 then
        let n := agreeUpTo st.window pos iN look
        if n > length then
          if gains then
            let newGain : Int := (st.rawCost pos n : Int) - distanceExtra.getD (distanceCode (pos - iN)) 0 - 3 -
              lengthExtra.getD (lengthCode (n - 3)) 0
            if newGain > gain then (n, n, newGain, some (n, pos - iN), decide (nice ≤ n))
            else (length, wEndAt, gain, best, false)
          else (n, n, gain, some (n, pos - iN), decide (nice ≤ n))
        else (length, wEndAt, gain, best, false)
      else (length, wEndAt, gain, best, false)
    if stop || i ≤ minIndex then best
    else
      let next : Int := (st.prev.getD (iN % lazyWindow) 0 : Int) - st.hashOffset
      if next < minIndex then best else chainSearch st pos look nice minIndex gains tries next length wEndAt gain best

def findMatch (st : LazyState) (pos : Nat) (head : Int) (lookahead : Nat) : Option (Nat × Nat) :=
  let look := min 258 lookahead
  let nice := min look st.params.nice
  let minIndex := pos - lazyWindow
  chainSearch st pos look nice minIndex (st.params.chain ≥ 100) st.params.chain head 3 3 4 none

def insertRange (st : LazyState) (lo hi : Int) : LazyState :=
  (List.range (hi - lo).toNat).foldl
    (fun (st : LazyState) (k : Nat) =>
      let i := (lo + (k : Int)).toNat
      let h := st.hashAt i
      let old := st.head.getD h 0
      { st with prev := st.prev.setIfInBounds (i % lazyWindow) old, head := st.head.setIfInBounds h (i + st.hashOffset) })
    st

/-- Before writing the copy held from `index - 1` (`prevLength` long, `prevOffset` back): a
longer copy found from where its end was last seen, starting up to two bytes later; the bytes it
skips are written as literals. -/
def betterAtEnd (st : LazyState) (prevLength prevOffset lookahead minIndex : Nat) : LazyState × Nat × Nat :=
  let prevIndex := st.index - 1
  if prevLength < 256 && ((prevIndex + prevLength : Nat) : Int) < st.maxInsert then
    let stop := prevIndex + min lookahead 260
    let ch2 : Int := (st.head.getD (st.hashAt (prevIndex + prevLength)) 0 : Int) - st.hashOffset - prevLength
    if (prevIndex : Int) - ch2 != prevOffset && ch2 > minIndex + 2 then
      let c := ch2.toNat
      let length := agree st.window stop (stop - (prevIndex + 2)) (prevIndex + 2) (c + 2) 0
      if length > prevLength then
        let back := fun (i : Nat) (len : Nat) => len ≥ 258 || st.window.getD (prevIndex + i) 0 != st.window.getD (c + i) 0
        let owe :=
          if back 1 length then some 1
          else if back 0 (length + 1) then some 0
          else none
        match owe with
        | none => (st, length + 2, prevIndex - c)
        | some i =>
          let len := if i == 1 then length else length + 1
          let st := (List.range (i + 1)).foldl
            (fun st j =>
              let st := { st with tokens := st.tokens.literal (st.window.getD (prevIndex + j) 0) }
              let st := st.writeIfFull st.index
              let st := { st with index := st.index + 1 }
              if (st.index : Int) < st.maxInsert then st.insert st.index else st)
            st
          (st, len, prevIndex - c)
      else (st, prevLength, prevOffset)
    else (st, prevLength, prevOffset)
  else (st, prevLength, prevOffset)

def skipAhead (st : LazyState) : Nat → LazyState
  | 0 => st
  | n + 1 =>
    if st.index + 1 ≥ st.window.size then st
    else
      let st := st.literalBefore.writeIfFull st.index
      let st := if (st.index : Int) < st.maxInsert then st.insert st.index else st
      skipAhead { st with index := st.index + 1 } n

/-- Write the copy held from the position before: perhaps improved at its end, then its
positions put in the chains. -/
def emitHeld (st : LazyState) (prevLength prevOffset lookahead minIndex : Nat) : LazyState :=
  let (st, prevLength, prevOffset) :=
    if prevLength < 256 then st.betterAtEnd prevLength prevOffset lookahead minIndex
    else (st, prevLength, prevOffset)
  let st := { st with tokens := st.tokens.piece prevLength prevOffset }
  let newIndex := st.index + prevLength - 1
  let stop : Int := min (newIndex : Int) st.maxInsert
  let start : Int := min ((st.index + 1 : Nat) : Int) st.maxInsert
  let st := st.insertRange start stop
  let st := { st with index := newIndex, byteAvailable := false, length := 3 }
  let st := st.writeIfFull st.index
  { st with run := 0 }

/-- Move on without writing a copy: write the byte waiting, if any, and speed up after a long
run of literals. -/
def passOn (st : LazyState) : LazyState :=
  let st := if st.length ≥ 4 then { st with run := 0 } else st
  if st.byteAvailable then
    let st := { st with run := (st.run + 1) % 65536 }
    let st := st.literalBefore.writeIfFull st.index
    let st := { st with index := st.index + 1 }
    if st.run > st.params.chain then
      let st := st.skipAhead (1 + (st.run - st.params.chain) / 64)
      let st := { st.literalBefore with byteAvailable := false }
      st.writeIfFull st.index
    else st
  else { st with index := st.index + 1, byteAvailable := true }

def lookHere (st : LazyState) (lookahead prevLength : Nat) : LazyState :=
  let st := { st with length := 3, offset := 0 }
  if st.chainHead - st.hashOffset ≥ ((st.index - lazyWindow : Nat) : Int) && lookahead > prevLength &&
      prevLength < st.params.lazy then
    match st.findMatch st.index (st.chainHead - st.hashOffset) lookahead with
    | some (n, o) => { st with length := n, offset := o }
    | none => st
  else st

def advance (st : LazyState) (lookahead : Nat) : LazyState :=
  let st := if (st.index : Int) < st.maxInsert then st.insert st.index else st
  let prevLength := st.length
  let prevOffset := st.offset
  let minIndex := st.index - lazyWindow
  let st := st.lookHere lookahead prevLength
  if prevLength ≥ 4 && st.length ≤ prevLength then st.emitHeld prevLength prevOffset lookahead minIndex
  else st.passOn

def search : Nat → LazyState → LazyState
  | 0, st => st
  | fuel + 1, st =>
    let lookahead := st.window.size - st.index
    if lookahead < 262 && !st.sync then st
    else if lookahead == 0 then
      let st := if st.byteAvailable then { st.literalBefore with byteAvailable := false } else st
      if st.tokens.count > 0 then st.writeBlock st.index else st
    else search fuel (st.advance lookahead)

/-- Search what the window holds: once it is full, or when the data has ended. -/
def step (st : LazyState) : LazyState :=
  if st.window.size - st.index < 262 && !st.sync then st
  else
    let st :=
      if st.window.size != st.index && st.params.chain > 100 then
        let counts := (st.window.extract st.index st.window.size).foldl
          (fun h b => h.modify b.toNat (fun c => (c + 1) % 65536)) (Array.replicate 256 0)
        let code := Code.build counts 15
        { st with rawBits := (Array.range 256).map code.len }
      else st
    let st := { st with maxInsert := (st.window.size : Int) - 3 }
    search (st.window.size + 8) st

def fill (st : LazyState) (data : Array UInt8) : LazyState × Array UInt8 :=
  let st :=
    if st.index ≥ 2 * lazyWindow - 262 then
      { st with window := st.window.extract lazyWindow st.window.size, index := st.index - lazyWindow,
                blockStart := st.blockStart.bind fun b => if b ≥ lazyWindow then some (b - lazyWindow) else none,
                hashOffset := st.hashOffset + lazyWindow }
    else st
  let n := min data.size (2 * lazyWindow - st.window.size)
  ({ st with window := st.window ++ data.extract 0 n }, data.extract n data.size)

def feed : Nat → LazyState → Array UInt8 → LazyState
  | 0, st, _ => st
  | fuel + 1, st, data =>
    if data.isEmpty then st
    else
      let st := if st.window.size == 2 * lazyWindow then st.step else st
      let (st, rest) := st.fill data
      feed fuel st rest

end LazyState

def lazyCompress (params : LazyParams) (data : Array UInt8) : BlockWriter :=
  let st := (LazyState.fresh params).feed (data.size + 1) data
  ({ st with sync := true }).step.out

end LineKv.Deflate
