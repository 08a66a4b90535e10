import LineKv.Deflate.Match

/-!
The copy finder of level 4: two tables, one keyed by the four bytes at a position and one by the
seven bytes there, each remembering the last place of a key. The search moves one position at a
time at first and faster the longer it goes without a copy (one more per 64 passed).
-/

namespace LineKv.Deflate

/-- The state of the level-4 finder over a frame: its history and tables. -/
structure Level4 where
  history : History
  short : Places
  long : Places

namespace Level4

def bits : Nat := 15

def window : Nat := 32768

def fresh : Level4 := ⟨History.fresh, Array.replicate (Nat.pow 2 bits) 0, Array.replicate (Nat.pow 2 bits) 0⟩

def agreesAt (src : Array UInt8) (s : Nat) (t : Int) (here : UInt32) : Bool :=
  reach window s t && here == load32 src t.toNat

/-- Search for a copy from `s` on (`cv` holds the bytes at `s`), remembering each position tried:
where it starts, where from, and the position the search would have tried next; none when the
search passes `sLimit`. -/
def search (src : Array UInt8) (sLimit nextEmit : Nat) (base : Int) :
    Nat → Places → Places → Nat → UInt64 → Places × Places × Option (Nat × Nat × Nat)
  | 0, short, long, _, _ => (short, long, none)
  | fuel + 1, short, long, s, cv =>
    let hs := hash4 bits cv
    let hl := hash7 bits cv
    let nextS := s + 1 + (s - nextEmit) / 64
    if nextS > sLimit then (short, long, none)
    else
      let sCand := short.getD hs 0 - base
      let lCand := long.getD hl 0 - base
      let next := load64 src nextS
      let short := short.setIfInBounds hs (s + base)
      let long := long.setIfInBounds hl (s + base)
      let here := cv.toUInt32
      if agreesAt src s lCand here then (short, long, some (s, lCand.toNat, nextS))
      else if agreesAt src s sCand here then
        let nCand := long.getD (hash7 bits next) 0 - base
        if agreesAt src nextS nCand next.toUInt32 then
          let l1 := agreeAll src (s + 4) (sCand.toNat + 4)
          let l2 := agreeAll src (nextS + 4) (nCand.toNat + 4)
          if l2 > l1 then (short, long, some (nextS, nCand.toNat, nextS))
          else (short, long, some (s, sCand.toNat, nextS))
        else (short, long, some (s, sCand.toNat, nextS))
      else search src sLimit nextEmit base fuel short long nextS next

/-- Remember every third position from `i` on, before `s - 1`: the seven-byte keys of it and of
the position after it, and the four-byte key of the position after it. -/
def noteInside (src : Array UInt8) (base : Int) : Nat → Places → Places → Nat → Nat → Places × Places
  | 0, short, long, _, _ => (short, long)
  | fuel + 1, short, long, i, s =>
    if i + 1 < s then
      let cv := load64 src i
      let long := long.setIfInBounds (hash7 bits cv) (i + base)
      let long := long.setIfInBounds (hash7 bits (cv >>> 8)) (i + 1 + base)
      let short := short.setIfInBounds (hash4 bits (cv >>> 8)) (i + 1 + base)
      noteInside src base fuel short long (i + 3) s
    else (short, long)

/-- Find copy after copy from `s` on, literals in between. -/
def scan (src : Array UInt8) (sLimit : Nat) (base : Int) :
    Nat → Places → Places → TokenStream → Nat → Nat → UInt64 → Places × Places × TokenStream
  | 0, short, long, ts, nextEmit, _, _ => (short, long, remainder src ts nextEmit)
  | fuel + 1, short, long, ts, nextEmit, s, cv =>
    match search src sLimit nextEmit base (src.size + 1) short long s cv with
    | (short, long, none) => (short, long, remainder src ts nextEmit)
    | (short, long, some (s, t, nextS)) =>
      let l := agreeAll src (s + 4) (t + 4) + 4
      let (s, t, l) := extendBack src nextEmit s s t l
      let ts := (ts.literals src nextEmit s).copy l (s - t)
      let nextEmit := s + l
      let s := if nextS ≥ nextEmit then nextS + 1 else nextEmit
      if s ≥ sLimit then
        let (short, long) :=
          if s + 8 < src.size then
            let cv := load64 src s
            (short.setIfInBounds (hash4 bits cv) (s + base), long.setIfInBounds (hash7 bits cv) (s + base))
          else (short, long)
        (short, long, remainder src ts nextEmit)
      else
        let (short, long) := noteInside src base s short long nextS s
        let x := load64 src (s - 1)
        let short := short.setIfInBounds (hash4 bits x) (s - 1 + base)
        let long := long.setIfInBounds (hash7 bits x) (s - 1 + base)
        scan src sLimit base fuel short long ts nextEmit s (x >>> 8)

/-- The tokens of the next block of a frame. -/
def encode (m : Level4) (block : Array UInt8) : Level4 × TokenStream :=
  match m with
  | ⟨history, short, long⟩ =>
    let (history, start) := history.add window block
    let src := history.bytes
    if block.size < 13 then (⟨history, short, long⟩, TokenStream.empty.literals block 0 block.size)
    else
      let (short, long, ts) :=
        scan src (src.size - 11) history.base (src.size + 1) short long TokenStream.empty start start
          (load64 src start)
      (⟨history, short, long⟩, ts)

end Level4

end LineKv.Deflate
