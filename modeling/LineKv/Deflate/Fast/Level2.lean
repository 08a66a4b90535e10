import LineKv.Deflate.Match

/-!
The copy finder of level 2: one large table keyed by the five bytes at a position, remembering the
last place of each key. The search takes two positions per step at first and more the longer it
goes without a copy (one more per 32 passed), trying both positions of a step.
-/

namespace LineKv.Deflate

/-- The state of the level-2 finder over a frame: its history and table. -/
structure Level2 where
  history : History
  table : Places

namespace Level2

def bits : Nat := 17

def window : Nat := 32768

def fresh : Level2 := ⟨History.fresh, Array.replicate (Nat.pow 2 bits) 0⟩

def agreesAt (src : Array UInt8) (s : Nat) (t : Int) (here : UInt32) : Bool :=
  reach window s t && here == load32 src t.toNat

/-- Search for a copy from `s` on (`cv` holds the bytes at `s`), remembering each position tried:
where it starts, where from, and the position the search would have tried next; none when the
search passes `sLimit`. -/
def search (src : Array UInt8) (sLimit nextEmit : Nat) (base : Int) :
    Nat → Places → Nat → UInt64 → Places × Option (Nat × Nat × Nat)
  | 0, table, _, _ => (table, none)
  | fuel + 1, table, s, cv =>
    let h := hash5 bits cv
    let nextS := s + 2 + (s - nextEmit) / 32
    if nextS > sLimit then (table, none)
    else
      let candidate := table.getD h 0 - base
      let now := load64 src nextS
      let table := table.setIfInBounds h (s + base)
      let h2 := hash5 bits now
      if agreesAt src s candidate cv.toUInt32 then
        (table.setIfInBounds h2 (nextS + base), some (s, candidate.toNat, nextS))
      else
        let candidate := table.getD h2 0 - base
        let table := table.setIfInBounds h2 (nextS + base)
        if agreesAt src nextS candidate now.toUInt32 then (table, some (nextS, candidate.toNat, nextS + 1))
        else search src sLimit nextEmit base fuel table (nextS + 1) (now >>> 8)

/-- Remember three of every seven positions from `i` on, before `s - 5`. -/
def noteInside (src : Array UInt8) (base : Int) : Nat → Places → Nat → Nat → Places
  | 0, table, _, _ => table
  | fuel + 1, table, i, s =>
    if i + 5 < s then
      let x := load64 src i
      let table := table.setIfInBounds (hash5 bits x) (base + i)
      let table := table.setIfInBounds (hash5 bits (x >>> 16)) (base + (i + 2 : Nat))
      let table := table.setIfInBounds (hash5 bits (x >>> 32)) (base + (i + 4 : Nat))
      noteInside src base fuel table (i + 7) s
    else table

/-- Write the copy found at `s` from `t` and those following it at once; the search goes on
from the position returned, or the block is done. -/
def copies (src : Array UInt8) (sLimit : Nat) (base : Int) :
    Nat → Places → TokenStream → Nat → Nat → Nat → Nat → Places × TokenStream × Option (Nat × Nat × UInt64)
  | 0, table, ts, nextEmit, _, _, _ => (table, remainder src ts nextEmit, none)
  | fuel + 1, table, ts, nextEmit, s, t, nextS =>
    let l := agreeAll src (s + 4) (t + 4) + 4
    let (s, t, l) := extendBack src nextEmit s s t l
    let ts := (ts.literals src nextEmit s).copy l (s - t)
    let nextEmit := s + l
    let s := if nextS ≥ nextEmit then nextS + 1 else nextEmit
    if s ≥ sLimit then
      let table := if s + l + 8 < src.size then table.setIfInBounds (hash5 bits (load64 src s)) (s + base) else table
      (table, remainder src ts nextEmit, none)
    else
      let table := noteInside src base s table (s - l + 2) s
      let x := load64 src (s - 2)
      let o : Int := base + (s - 2 : Nat)
      let table := table.setIfInBounds (hash5 bits x) o
      let table := table.setIfInBounds (hash5 bits (x >>> 8)) (o + 1)
      let h := hash5 bits (x >>> 16)
      let candidate := table.getD h 0 - base
      let table := table.setIfInBounds h (o + 2)
      if reachAtMost window s candidate && (x >>> 16).toUInt32 == load32 src candidate.toNat then
        copies src sLimit base fuel table ts nextEmit s candidate.toNat nextS
      else (table, ts, some (nextEmit, s + 1, x >>> 24))

/-- Find copy after copy from `s` on, literals in between. -/
def scan (src : Array UInt8) (sLimit : Nat) (base : Int) :
    Nat → Places → TokenStream → Nat → Nat → UInt64 → Places × TokenStream
  | 0, table, ts, nextEmit, _, _ => (table, remainder src ts nextEmit)
  | fuel + 1, table, ts, nextEmit, s, cv =>
    match search src sLimit nextEmit base (src.size + 1) table s cv with
    | (table, none) => (table, remainder src ts nextEmit)
    | (table, some (s, t, nextS)) =>
      match copies src sLimit base (src.size + 1) table ts nextEmit s t nextS with
      | (table, ts, none) => (table, ts)
      | (table, ts, some (nextEmit, s, cv)) => scan src sLimit base fuel table ts nextEmit s cv

/-- The tokens of the next block of a frame. -/
def encode (m : Level2) (block : Array UInt8) : Level2 × TokenStream :=
  match m with
  | ⟨history, table⟩ =>
    let (history, start) := history.add window block
    let src := history.bytes
    if block.size < 13 then (⟨history, table⟩, TokenStream.empty.literals block 0 block.size)
    else
      let (table, ts) :=
        scan src (src.size - 11) history.base (src.size + 1) table TokenStream.empty start start (load64 src start)
      (⟨history, table⟩, ts)

end Level2

end LineKv.Deflate
