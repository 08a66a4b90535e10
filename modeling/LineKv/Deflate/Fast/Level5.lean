import LineKv.Deflate.Match

/-!
The copy finder of level 5, also used with a window of its own size. Two tables remember where
prefixes were last seen: one keyed by the four bytes at a position, one by the seven bytes there,
which keeps the last two places of each key.
-/

namespace LineKv.Deflate

/-- The state of the level-5 finder over a frame: its history, tables and window. -/
structure Level5 where
  history : History
  short : Places
  long : PlacePairs
  window : Nat

namespace Level5

def bits : Nat := 15

def fresh (window : Nat) : Level5 :=
  ⟨History.fresh, Array.replicate (Nat.pow 2 bits) 0, PlacePairs.empty (Nat.pow 2 bits), window⟩

/-- A copy found at `s` from `t`, with `len` bytes known to agree (0 when only the first four are
known to), and the position the search would have tried next. -/
structure Found where
  s : Nat
  t : Nat
  len : Nat
  next : Nat

/-- The copy the seven-byte places `lCur` and `lPrev` offer at `s`: the most recent if its first
four bytes agree (the earlier one instead if it agrees and goes further), else the earlier. -/
def longOffer (src : Array UInt8) (window s : Nat) (here : UInt32) (lCur lPrev : Int) : Option (Nat × Nat) :=
  if reach window s lCur then
    if here == load32 src lCur.toNat then
      if reach window s lPrev && here == load32 src lPrev.toNat then
        let l := agreeUpTo src (s + 4) (lCur.toNat + 4) 254 + 4
        let l1 := agreeUpTo src (s + 4) (lPrev.toNat + 4) 254 + 4
        if l1 > l then some (lPrev.toNat, l1) else some (lCur.toNat, l)
      else some (lCur.toNat, 0)
    else if reach window s lPrev && here == load32 src lPrev.toNat then some (lPrev.toNat, 0)
    else none
  else none

def nextOffer (src : Array UInt8) (nextS : Nat) (nextHere : UInt32) (l : Nat) (t : Int) : Option (Nat × Nat × Nat) :=
  if load32 src t.toNat == nextHere then
    let ml := agreeUpTo src (nextS + 4) (t.toNat + 4) 254 + 4
    if ml > l then some (nextS, t.toNat, ml) else none
  else none

/-- The copy the four-byte place `sCand` offers at `s`, unless a seven-byte place of the next
position (`nCur`, then `nPrev`) gives a longer one there. -/
def shortOffer (src : Array UInt8) (window s nextS : Nat) (here nextHere : UInt32)
    (sCand nCur nPrev : Int) : Option (Nat × Nat × Nat) :=
  if reach window s sCand && here == load32 src sCand.toNat then
    let t := sCand.toNat
    let l := agreeUpTo src (s + 4) (t + 4) 254 + 4
    let better :=
      if reach window nextS nCur then
        match nextOffer src nextS nextHere l nCur with
        | some f => some f
        | none => if reach window nextS nPrev then nextOffer src nextS nextHere l nPrev else none
      else none
    some (better.getD (s, t, l))
  else none

/-- Search for a copy from `s` on (`cv` holds the bytes at `s`), remembering each position tried;
none when the search passes `sLimit`. -/
def search (src : Array UInt8) (window sLimit nextEmit : Nat) (base : Int) :
    Nat → Places → PlacePairs → Nat → UInt64 → Places × PlacePairs × Option Found
  | 0, short, long, _, _ => (short, long, none)
  | fuel + 1, short, long, s, cv =>
    let hs := hash4 bits cv
    let hl := hash7 bits cv
    let nextS := s + 1 + (s - nextEmit) / 64
    if nextS > sLimit then (short, long, none)
    else
      let sCand := short.getD hs 0 - base
      let lCur := long.cur.getD hl 0 - base
      let lPrev := long.prev.getD hl 0 - base
      let next := load64 src nextS
      let hs2 := hash4 bits next
      let hl2 := hash7 bits next
      let (nCur, nPrev) :=
        if hl2 == hl then ((s : Int), lCur) else (long.cur.getD hl2 0 - base, long.prev.getD hl2 0 - base)
      let here := cv.toUInt32
      let found := match longOffer src window s here lCur lPrev with
        | some (t, l) => some (s, t, l)
        | none => shortOffer src window s nextS here next.toUInt32 sCand nCur nPrev
      let short := short.setIfInBounds hs (s + base)
      let long := long.note hl (s + base)
      match found with
      | some (s', t, l) =>
        (short.setIfInBounds hs2 (nextS + base), long.note hl2 (nextS + base), some ⟨s', t, l, nextS⟩)
      | none => search src window sLimit nextEmit base fuel short long nextS next

/-- A longer copy that starts two bytes later and ends where the seven bytes after the copy were
last seen, if there is one; only for copies shorter than 30. -/
def improve (src : Array UInt8) (window sLimit : Nat) (base : Int) (long : PlacePairs) (s t l : Nat) :
    Nat × Nat × Nat :=
  if l < 30 && s + l < sLimit then
    let t2 : Int := long.cur.getD (hash7 bits (load64 src (s + l))) 0 - base - l + 2
    let s2 := s + 2
    let off : Int := s2 - t2
    if t2 ≥ 0 && off < window && off > 0 then
      let l2 := agreeAll src s2 t2.toNat
      if l2 > l then (s2, t2.toNat, l2) else (s, t, l)
    else (s, t, l)
  else (s, t, l)

/-- Remember every third position from `i` on, before `s - 1`: its seven-byte key and the
four-byte key of the position after it. -/
def noteEveryThird (src : Array UInt8) (base : Int) :
    Nat → Places → PlacePairs → Nat → Nat → Places × PlacePairs
  | 0, short, long, _, _ => (short, long)
  | fuel + 1, short, long, i, s =>
    if i + 1 < s then
      let cv := load64 src i
      let long := long.note (hash7 bits cv) (i + base)
      let short := short.setIfInBounds (hash4 bits (cv >>> 8)) (i + 1 + base)
      noteEveryThird src base fuel short long (i + 3) s
    else (short, long)

/-- Remember positions inside a copy: from `i` on, before `s - 1`. -/
def noteInside (src : Array UInt8) (base : Int) (short : Places) (long : PlacePairs) (i s : Nat) :
    Places × PlacePairs :=
  if i + 1 < s then
    let cv := load64 src i
    let short := short.setIfInBounds (hash4 bits cv) (i + base)
    let long := long.note (hash7 bits cv) (i + base)
    let long := long.note (hash7 bits (cv >>> 8)) (i + 1 + base)
    let short := short.setIfInBounds (hash4 bits (cv >>> 16)) (i + 2 + base)
    noteEveryThird src base s short long (i + 4) s
  else (short, long)

/-- Find copy after copy from `s` on, literals in between. -/
def scan (src : Array UInt8) (window sLimit : Nat) (base : Int) :
    Nat → Places → PlacePairs → TokenStream → Nat → Nat → UInt64 → Places × PlacePairs × TokenStream
  | 0, short, long, ts, nextEmit, _, _ => (short, long, remainder src ts nextEmit)
  | fuel + 1, short, long, ts, nextEmit, s, cv =>
    match search src window sLimit nextEmit base (src.size + 1) short long s cv with
    | (short, long, none) => (short, long, remainder src ts nextEmit)
    | (short, long, some f) =>
      let l :=
        if f.len == 0 then agreeAll src (f.s + 4) (f.t + 4) + 4
        else if f.len == 258 then 258 + agreeAll src (f.s + 258) (f.t + 258)
        else f.len
      let (s, t, l) := improve src window sLimit base long f.s f.t l
      let (s, t, l) := extendBack src nextEmit s s t l
      let ts := (ts.literals src nextEmit s).copy l (s - t)
      let nextEmit := s + l
      let s := if f.next ≥ nextEmit then f.next + 1 else nextEmit
      if s ≥ sLimit then (short, long, remainder src ts nextEmit)
      else
        let (short, long) := noteInside src base short long (s - l + 1) s
        let x := load64 src (s - 1)
        let short := short.setIfInBounds (hash4 bits x) (s - 1 + base)
        let long := long.note (hash7 bits x) (s - 1 + base)
        scan src window sLimit base fuel short long ts nextEmit s (x >>> 8)

/-- The tokens of the next block of a frame. -/
def encode (m : Level5) (block : Array UInt8) : Level5 × TokenStream :=
  match m with
  | ⟨history, short, long, window⟩ =>
    let (history, start) := history.add window block
    let src := history.bytes
    if block.size < 13 then
      (⟨history, short, long, window⟩, TokenStream.empty.literals block 0 block.size)
    else
      let (short, long, ts) :=
        scan src window (src.size - 11) history.base (src.size + 1) short long TokenStream.empty start start
          (load64 src start)
      (⟨history, short, long, window⟩, ts)

end Level5

end LineKv.Deflate
