import LineKv.Deflate.Match

/-!
The copy finder of level 6: like level 5, a table keyed by the four bytes at a position and one
keyed by the seven bytes there that keeps the last two places of each key, searched more patiently
(one more byte per 128 passed without a copy).
-/

namespace LineKv.Deflate

/-- The state of the level-6 finder over a frame: its history and tables. -/
structure Level6 where
  history : History
  short : Places
  long : PlacePairs

namespace Level6

def bits : Nat := 15

def window : Nat := 32768

def fresh : Level6 := ⟨History.fresh, Array.replicate (Nat.pow 2 bits) 0, PlacePairs.empty (Nat.pow 2 bits)⟩

/-- A copy found at `s` from `t`, with `len` bytes known to agree (0 when only the first four are
known to), and the position the search would have tried next. -/
structure Found where
  s : Nat
  t : Nat
  len : Nat
  next : Nat

/-- The copy the seven-byte places `lCur` and `lPrev` offer at `s`: the most recent if its first
four bytes agree (the earlier one instead if it agrees and goes further), else the earlier. -/
def longOffer (src : Array UInt8) (s : Nat) (here : UInt32) (lCur lPrev : Int) : Option (Nat × Nat) :=
  if reach window s lCur then
    if here == load32 src lCur.toNat then
      if reach window s lPrev && here == load32 src lPrev.toNat then
        let l := agreeUpTo src (s + 4) (lCur.toNat + 4) 254 + 4
        let l1 := agreeUpTo src (s + 4) (lPrev.toNat + 4) 254 + 4
        if l1 > l then some (lPrev.toNat, l1) else some (lCur.toNat, l)
      else some (lCur.toNat, 0)
    else if reach window s lPrev && here == load32 src lPrev.toNat then some (lPrev.toNat, 0)
    else none
  else none

def nextOffer (src : Array UInt8) (nextS : Nat) (nextHere : UInt32) (l : Nat) (t : Int) : Option (Nat × Nat × Nat) :=
  if load32 src t.toNat == nextHere then
    let ml := agreeUpTo src (nextS + 4) (t.toNat + 4) 254 + 4
    if ml > l then some (nextS, t.toNat, ml) else none
  else none

/-- The copy the four-byte place `sCand` offers at `s`: replaced by a copy at the distance of the
last one a byte later, or else by one from a seven-byte place of the next position (`nCur`, then
`nPrev`), when that goes further. -/
def shortOffer (src : Array UInt8) (s nextS repeatDist : Nat) (cv : UInt64) (nextHere : UInt32)
    (sCand nCur nPrev : Int) : Option (Nat × Nat × Nat) :=
  if reach window s sCand && cv.toUInt32 == load32 src sCand.toNat then
    let t := sCand.toNat
    let l := agreeUpTo src (s + 4) (t + 4) 254 + 4
    let t2 := s + 1 - repeatDist
    let rep :=
      if load32 src t2 == (cv >>> 8).toUInt32 then
        let ml := agreeUpTo src (s + 5) (t2 + 4) 254 + 4
        if ml > l then some (s + 1, t2, ml) else none
      else none
    match rep with
    | some f => some f
    | none =>
      if reach window nextS nCur then
        let best := (nextOffer src nextS nextHere l nCur).getD (s, t, l)
        if reach window nextS nPrev then (nextOffer src nextS nextHere best.2.2 nPrev).getD best |> some
        else some best
      else some (s, t, l)
  else none

/-- Search for a copy from `s` on (`cv` holds the bytes at `s`), remembering each position tried;
none when the search passes `sLimit`. -/
def search (src : Array UInt8) (sLimit nextEmit repeatDist : Nat) (base : Int) :
    Nat → Places → PlacePairs → Nat → UInt64 → Places × PlacePairs × Option Found
  | 0, short, long, _, _ => (short, long, none)
  | fuel + 1, short, long, s, cv =>
    let hs := hash4 bits cv
    let hl := hash7 bits cv
    let nextS := s + 1 + (s - nextEmit) / 128
    if nextS > sLimit then (short, long, none)
    else
      let sCand := short.getD hs 0 - base
      let lCur := long.cur.getD hl 0 - base
      let lPrev := long.prev.getD hl 0 - base
      let next := load64 src nextS
      let hs2 := hash4 bits next
      let hl2 := hash7 bits next
      let (nCur, nPrev) :=
        if hl2 == hl then ((s : Int), lCur) else (long.cur.getD hl2 0 - base, long.prev.getD hl2 0 - base)
      let found := match longOffer src s cv.toUInt32 lCur lPrev with
        | some (t, l) => some (s, t, l)
        | none => shortOffer src s nextS repeatDist cv next.toUInt32 sCand nCur nPrev
      let short := short.setIfInBounds hs (s + base)
      let long := long.note hl (s + base)
      match found with
      | some (s', t, l) =>
        (short.setIfInBounds hs2 (nextS + base), long.note hl2 (nextS + base), some ⟨s', t, l, nextS⟩)
      | none => search src sLimit nextEmit repeatDist base fuel short long nextS next

/-- A longer copy that starts two bytes later and ends where the seven bytes after the copy were
seen (the most recent place, then the one before). -/
def improve (src : Array UInt8) (sLimit : Nat) (base : Int) (long : PlacePairs) (s t l : Nat) :
    Nat × Nat × Nat :=
  if s + l < sLimit then
    let h := hash7 bits (load64 src (s + l))
    let s2 := s + 2
    let t2 : Int := long.cur.getD h 0 - base - l + 2
    let off : Int := s2 - t2
    if off < window then
      let (s, t, l) :=
        if off > 0 && t2 ≥ 0 then
          let l2 := agreeAll src s2 t2.toNat
          if l2 > l then (s2, t2.toNat, l2) else (s, t, l)
        else (s, t, l)
      let t3 : Int := long.prev.getD h 0 - base - l + 2
      let off3 : Int := s2 - t3
      if off3 > 0 && off3 < window && t3 ≥ 0 then
        let l3 := agreeAll src s2 t3.toNat
        if l3 > l then (s2, t3.toNat, l3) else (s, t, l)
      else (s, t, l)
    else (s, t, l)
  else (s, t, l)

/-- Remember every second position from `i` on, before `stop`: its keys, and the seven-byte key of
the position after it. -/
def noteEverySecond (src : Array UInt8) (base : Int) (stop : Nat) (alsoNext : Bool) :
    Nat → Places → PlacePairs → Nat → Places × PlacePairs
  | 0, short, long, _ => (short, long)
  | fuel + 1, short, long, i =>
    if i < stop then
      let cv := load64 src i
      let short := short.setIfInBounds (hash4 bits cv) (i + base)
      let long := long.note (hash7 bits cv) (i + base)
      let long := if alsoNext then long.note (hash7 bits (cv >>> 8)) (i + 1 + base) else long
      noteEverySecond src base stop alsoNext fuel short long (i + 2)
    else (short, long)

/-- Find copy after copy from `s` on, literals in between; `repeatDist` is the distance of the
last copy. -/
def scan (src : Array UInt8) (sLimit : Nat) (base : Int) :
    Nat → Places → PlacePairs → TokenStream → Nat → Nat → Nat → UInt64 → Places × PlacePairs × TokenStream
  | 0, short, long, ts, nextEmit, _, _, _ => (short, long, remainder src ts nextEmit)
  | fuel + 1, short, long, ts, nextEmit, repeatDist, s, cv =>
    match search src sLimit nextEmit repeatDist base (src.size + 1) short long s cv with
    | (short, long, none) => (short, long, remainder src ts nextEmit)
    | (short, long, some f) =>
      let l :=
        if f.len == 0 then agreeAll src (f.s + 4) (f.t + 4) + 4
        else if f.len == 258 then 258 + agreeAll src (f.s + 258) (f.t + 258)
        else f.len
      let (s, t, l) := improve src sLimit base long f.s f.t l
      let (s, t, l) := extendBack src nextEmit s s t l
      let ts := (ts.literals src nextEmit s).copy l (s - t)
      let repeatDist := s - t
      let nextEmit := s + l
      let s := if f.next ≥ nextEmit then f.next + 1 else nextEmit
      if s ≥ sLimit then
        let (short, long) := noteEverySecond src base (src.size - 8) false src.size short long (f.next + 1)
        (short, long, remainder src ts nextEmit)
      else
        let (short, long) := noteEverySecond src base (s - 1) true src.size short long (f.next + 1)
        scan src sLimit base fuel short long ts nextEmit repeatDist s (load64 src s)

/-- The tokens of the next block of a frame. -/
def encode (m : Level6) (block : Array UInt8) : Level6 × TokenStream :=
  match m with
  | ⟨history, short, long⟩ =>
    let (history, start) := history.add window block
    let src := history.bytes
    if block.size < 13 then (⟨history, short, long⟩, TokenStream.empty.literals block 0 block.size)
    else
      let (short, long, ts) :=
        scan src (src.size - 11) history.base (src.size + 1) short long TokenStream.empty start 1 start
          (load64 src start)
      (⟨history, short, long⟩, ts)

end Level6

end LineKv.Deflate
