import LineKv.Deflate.Match

/-!
The copy finder of level 3: one table keyed by the five bytes at a position, keeping the last two
places of each key. The search moves one position at a time at first and faster the longer it goes
without a copy (one more per 128 passed).
-/

namespace LineKv.Deflate

/-- The state of the level-3 finder over a frame: its history and table. -/
structure Level3 where
  history : History
  table : PlacePairs

namespace Level3

def bits : Nat := 16

def window : Nat := 32768

def fresh : Level3 := ⟨History.fresh, PlacePairs.empty (Nat.pow 2 bits)⟩

def lowest (base : Int) (s : Nat) : Int := base + s - (window - 4 : Nat)

def agreesAt (src : Array UInt8) (base p : Int) (here : UInt32) : Bool := here == load32 src (p - base).toNat

/-- Search for a copy from `s` on (`cv` holds the bytes at `s`), remembering each position tried:
where it starts, where from (plus the base), and the position the search would have tried next;
none when the search passes `sLimit`. -/
def search (src : Array UInt8) (sLimit nextEmit : Nat) (base : Int) :
    Nat → PlacePairs → Nat → UInt64 → PlacePairs × Option (Nat × Int × Nat)
  | 0, table, _, _ => (table, none)
  | fuel + 1, table, s, cv =>
    let h := hash5 bits cv
    let nextS := s + 1 + (s - nextEmit) / 128
    if nextS > sLimit then (table, none)
    else
      let cur := table.cur.getD h 0
      let prev := table.prev.getD h 0
      let now := load64 src nextS
      let minOffset := lowest base s
      let table := table.note h (s + base)
      let here := cv.toUInt32
      if cur < minOffset then search src sLimit nextEmit base fuel table nextS now
      else if agreesAt src base cur here then
        if prev < minOffset || !agreesAt src base prev here then (table, some (s, cur, nextS))
        else
          let l1 := agreeAll src (s + 4) ((cur - base).toNat + 4)
          let l2 := agreeAll src (s + 4) ((prev - base).toNat + 4)
          (table, some (s, if l2 > l1 then prev else cur, nextS))
      else if prev > minOffset && agreesAt src base prev here then (table, some (s, prev, nextS))
      else search src sLimit nextEmit base fuel table nextS now

def noteInside (src : Array UInt8) (base : Int) : Nat → PlacePairs → Nat → Nat → PlacePairs
  | 0, table, _, _ => table
  | fuel + 1, table, i, s =>
    if i + 5 < s then noteInside src base fuel (table.note (hash5 bits (load64 src i)) (base + i)) (i + 6) s
    else table

/-- Write the copy found at `s` from the place `p` and those following it at once; the search
goes on from the position returned, or the block is done. -/
def copies (src : Array UInt8) (sLimit : Nat) (base : Int) :
    Nat → PlacePairs → TokenStream → Nat → Nat → Int → Nat → PlacePairs × TokenStream × Option (Nat × Nat × UInt64)
  | 0, table, ts, nextEmit, _, _, _ => (table, remainder src ts nextEmit, none)
  | fuel + 1, table, ts, nextEmit, s, p, nextS =>
    let t := (p - base).toNat
    let l := agreeAll src (s + 4) (t + 4) + 4
    let (s, t, l) := extendBack src nextEmit s s t l
    let ts := (ts.literals src nextEmit s).copy l (s - t)
    let nextEmit := s + l
    let s := if nextS ≥ nextEmit then nextS + 1 else nextEmit
    if s ≥ sLimit then
      let t := t + l
      let table := if t + 8 < src.size && t > 0 then table.note (hash5 bits (load64 src t)) (base + t) else table
      (table, remainder src ts nextEmit, none)
    else
      let table := noteInside src base s table (s - l + 2) s
      let x := load64 src (s - 2)
      let table := table.note (hash5 bits x) (base + (s - 2 : Nat))
      let table := table.note (hash5 bits (x >>> 8)) (base + (s - 1 : Nat))
      let x := x >>> 16
      let h := hash5 bits x
      let cur := table.cur.getD h 0
      let prev := table.prev.getD h 0
      let table := table.note h (s + base)
      let minOffset := lowest base s
      let here := x.toUInt32
      if cur > minOffset && agreesAt src base cur here then
        copies src sLimit base fuel table ts nextEmit s cur nextS
      else if cur > minOffset && prev > minOffset && agreesAt src base prev here then
        copies src sLimit base fuel table ts nextEmit s prev nextS
      else (table, ts, some (nextEmit, s + 1, x >>> 8))

/-- Find copy after copy from `s` on, literals in between. -/
def scan (src : Array UInt8) (sLimit : Nat) (base : Int) :
    Nat → PlacePairs → TokenStream → Nat → Nat → UInt64 → PlacePairs × TokenStream
  | 0, table, ts, nextEmit, _, _ => (table, remainder src ts nextEmit)
  | fuel + 1, table, ts, nextEmit, s, cv =>
    match search src sLimit nextEmit base (src.size + 1) table s cv with
    | (table, none) => (table, remainder src ts nextEmit)
    | (table, some (s, p, nextS)) =>
      match copies src sLimit base (src.size + 1) table ts nextEmit s p nextS with
      | (table, ts, none) => (table, ts)
      | (table, ts, some (nextEmit, s, cv)) => scan src sLimit base fuel table ts nextEmit s cv

/-- The tokens of the next block of a frame. -/
def encode (m : Level3) (block : Array UInt8) : Level3 × TokenStream :=
  match m with
  | ⟨history, table⟩ =>
    let (history, start) := history.add window block
    let src := history.bytes
    if block.size < 13 then (⟨history, table⟩, TokenStream.empty.literals block 0 block.size)
    else
      let (table, ts) :=
        scan src (src.size - 11) history.base (src.size + 1) table TokenStream.empty start start (load64 src start)
      (⟨history, table⟩, ts)

end Level3

end LineKv.Deflate
