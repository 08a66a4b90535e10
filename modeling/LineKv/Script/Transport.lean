import LineKv.Script.Value
import LineKv.Transport.ChunkSlice

/-!
Scripts over the transport: a list of operations against one chunk queue, with a second queue to
move into.
-/

namespace LineKv.Script

open Transport

/-- The chunk queue operation a script step names, if any; a peek starts from no chunks. -/
def chunkOpOf (op : Value) : Option ChunkOp :=
  let kind := op.text "do"
  let is := fun (s : String) => kind == Bytes.ofString s
  if is "push" then some (.push (op.text "data"))
  else if is "consume" then some (.consume (op.int "n" 0))
  else if is "pop" then some .pop
  else if is "front" then some .front
  else if is "peek" then some (.peek [] (op.int "max" 0))
  else if is "reset" then some .reset
  else if is "move" then some .moveTo
  else none

def chunkFields : ChunkOp → ChunkRead → ChunkSlice → List (String × Value)
  | .moveTo, _, other => [("other_len", .ofInt other.len), ("other_chunks", .ofNat other.count)]
  | _, .chunk c, _ => [("got", .str c)]
  | _, .chunks cs, _ => [("got", .ofTexts cs)]
  | _, .nothing, _ => []

def chunkStep (q other : ChunkSlice) (op : Value) : List (String × Value) × ChunkSlice × ChunkSlice :=
  match chunkOpOf op with
  | none => ([], q, other)
  | some o =>
    let r := o.apply (q, other)
    (chunkFields o r.1 r.2.2, r.2.1, r.2.2)

def runChunkQueue (req : Value) : Value :=
  let (steps, _) := (req.list "ops").foldl
    (fun (acc : List Value × ChunkSlice × ChunkSlice) op =>
      let (fields, q, other) := chunkStep acc.2.1 acc.2.2 op
      (acc.1 ++ [.obj ([("len", .ofInt q.len), ("chunks", .ofNat q.count)] ++ fields)], q, other))
    ([], ChunkSlice.empty, ChunkSlice.empty)
  .obj [("steps", .arr steps)]

end LineKv.Script
