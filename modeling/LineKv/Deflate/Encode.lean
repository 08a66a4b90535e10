import LineKv.Deflate.Block
import LineKv.Deflate.Fast.Level1
import LineKv.Deflate.Fast.Level2
import LineKv.Deflate.Fast.Level3
import LineKv.Deflate.Fast.Level4
import LineKv.Deflate.Fast.Level5
import LineKv.Deflate.Fast.Level6
import LineKv.Deflate.Lazy

/-!
Compressing a frame into one raw DEFLATE stream (RFC 1951), the way each compression level does.
The data is cut into windows and each window becomes a block, none of them the last; an empty last
block with the fixed code (ten bits) then ends the stream. Level 0 stores windows of 65535 bytes.
-/

namespace LineKv.Deflate

def levelError (level : Int) : String :=
  s!"flate: invalid compression level {level}: want value in range [-2, 9]"

def validLevel (level : Int) : Bool := (-2 ≤ level && level ≤ 9) || (-32768 ≤ level && level ≤ -32)

/-- The copy finder of a fast level. -/
inductive FastFinder where
  | one (m : Level1)
  | two (m : Level2)
  | three (m : Level3)
  | four (m : Level4)
  | five (m : Level5)
  | six (m : Level6)

namespace FastFinder

def ofLevel (level : Int) : FastFinder :=
  if level ≤ -32 then .five (Level5.fresh level.natAbs)
  else if level == 1 then .one Level1.fresh
  else if level == 2 then .two Level2.fresh
  else if level == 3 then .three Level3.fresh
  else if level == 4 then .four Level4.fresh
  else if level == 6 then .six Level6.fresh
  else .five (Level5.fresh 32768)

def encode (f : FastFinder) (block : Array UInt8) : FastFinder × TokenStream :=
  match f with
  | .one m => let (m, ts) := m.encode block; (.one m, ts)
  | .two m => let (m, ts) := m.encode block; (.two m, ts)
  | .three m => let (m, ts) := m.encode block; (.three m, ts)
  | .four m => let (m, ts) := m.encode block; (.four m, ts)
  | .five m => let (m, ts) := m.encode block; (.five m, ts)
  | .six m => let (m, ts) := m.encode block; (.six m, ts)

end FastFinder

def windows (data : Array UInt8) (size : Nat) : List (Array UInt8) :=
  (List.range ((data.size + size - 1) / size)).map fun k => data.extract (k * size) ((k + 1) * size)

/-- One window of a fast level; `sync` when it is the last, flushed one. -/
def fastWindow (bw : BlockWriter) (f : FastFinder) (window : Array UInt8) (sync : Bool) :
    BlockWriter × FastFinder :=
  if sync && window.size < 128 then
    if window.size == 0 then (bw, f)
    else if window.size ≤ 32 then (bw.stored window false, f)
    else (bw.literals false window true, f)
  else
    let (f, ts) := f.encode window
    if ts.count == 0 then (bw.stored window false, f)
    else if ts.count > window.size - window.size / 16 then (bw.literals false window sync, f)
    else (bw.dynamic ts false (some window) sync, f)

def fastWindows (bw : BlockWriter) (f : FastFinder) : List (Array UInt8) → BlockWriter
  | [] => bw
  | [w] => (fastWindow bw f w true).1
  | w :: rest =>
    let (bw, f) := fastWindow bw f w false
    fastWindows bw f rest

/-- One complete raw DEFLATE stream holding `data`, at a valid level. -/
def compress (level : Int) (data : Array UInt8) : Bytes :=
  let bw :=
    if level == 0 then
      (windows data 65535).foldl (fun bw w => bw.stored w false) (BlockWriter.create 0)
    else if 7 ≤ level then lazyCompress (LazyParams.ofLevel level) data
    else if level == -2 then
      let ws := windows data 32768
      ws.zipIdx.foldl (fun bw (w, i) => bw.literals false w (i + 1 == ws.length)) (BlockWriter.create 10)
    else
      fastWindows (BlockWriter.create 7) (FastFinder.ofLevel level) (windows data 65535)
  bw.finish

end LineKv.Deflate
