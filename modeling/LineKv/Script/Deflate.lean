import LineKv.Script.Value
import LineKv.Transport.Compressor

/-!
Scripts over one compression layer sitting on the first end of a pipe. The other end has a layer
with the default settings, and the script can also write raw bytes from that end, read through
either layer, write through the first one, and close either socket or the layer.
-/

namespace LineKv.Script

open Transport

/-- The layer under test, its socket, the far end's layer and socket, and the pipe. -/
structure DeflateBench where
  layer : Compressor
  socket : Socket
  peer : Compressor
  peerSocket : Socket
  pipe : Pipe

namespace DeflateBench

def onPipe {α : Type} (b : DeflateBench) (op : WireM α) : α × DeflateBench :=
  let (a, wire) := op.run ⟨b.pipe, []⟩
  (a, { b with pipe := wire.pipe })

def readThrough (c : Compressor) (s : Socket) :
    WireM (ReadStatus × Option LinkError × Bytes × Compressor × Unit) :=
  c.readWith (fun _ => do
    let (st, e, d) ← s.read
    return (st, e, d, ())) ()

def writeThrough (c : Compressor) (s : Socket) (chunks : List Bytes) :
    WireM (WriteStatus × Option LinkError × ChunkQueue × Compressor × Unit) :=
  c.writeWith (chunks.foldl ChunkQueue.push .empty) (fun q _ => do
    let (st, e, q) ← s.write q
    return (st, e, q, ())) ()

end DeflateBench

def readFields (st : ReadStatus) (e : Option LinkError) (data : Bytes) : List (String × Value) :=
  [("status", .ofString st.name), ("err", .ofOption (fun (x : LinkError) => faultValue x.toFault) e),
    ("data", .str data)]

def writeFields (st : WriteStatus) (e : Option LinkError) : List (String × Value) :=
  [("status", .ofString st.name), ("err", .ofOption (fun (x : LinkError) => faultValue x.toFault) e)]

/-- One step on the bench: its own answer fields and the bench after it. -/
def deflateStep (b : DeflateBench) (op : Value) : List (String × Value) × DeflateBench :=
  let kind := op.text "do"
  let is := fun (s : String) => kind == Bytes.ofString s
  if is "inbound" then
    let ((st, e, _), b) := b.onPipe (b.peerSocket.write (ChunkQueue.empty.push (op.text "data")))
    (writeFields st e, b)
  else if is "read" then
    let ((st, e, data, c, _), b) := b.onPipe (DeflateBench.readThrough b.layer b.socket)
    (readFields st e data, { b with layer := c })
  else if is "write" then
    let ((st, e, _, c, _), b) := b.onPipe (DeflateBench.writeThrough b.layer b.socket (op.texts "chunks"))
    (writeFields st e, { b with layer := c })
  else if is "peer_read" then
    let ((st, e, data, c, _), b) := b.onPipe (DeflateBench.readThrough b.peer b.peerSocket)
    (readFields st e data, { b with peer := c })
  else if is "close_peer" then
    let (s, b) := b.onPipe b.peerSocket.close
    ([], { b with peerSocket := s })
  else if is "close" then ([], { b with layer := b.layer.close })
  else if is "close_sock" then
    let (s, b) := b.onPipe b.socket.close
    ([], { b with socket := s })
  else ([], b)

/-- Run a compression-layer script. -/
def runDeflate (req : Value) : Value :=
  match Compressor.create flate (req.int "level" (-1)) (req.int "max_frame" 0) (req.int "max_decoded" 0) with
  | .error msg => faultValue (Fault.plain (Bytes.ofString msg))
  | .ok layer =>
    if req.flag "attach_nil" then
      .obj [("attach", faultValue (LinkError.invalidChain "deflate needs an inner layer").toFault)]
    else
      let peer := (Compressor.create flate (-1) 0 0).toOption.getD default
      let bench : DeflateBench :=
        { layer := { layer with attached := !req.flag "unattached" }
          socket := Socket.create .fst 0
          peer := { peer with attached := true }
          peerSocket := Socket.create .snd 0
          pipe := Pipe.create (req.int "capacity" 0) }
      let (answers, _) := (req.list "ops").foldl
        (fun (acc : List Value × DeflateBench) op =>
          let (answers, b) := acc
          let (fields, b) := deflateStep b op
          (answers ++ [Value.obj (fields ++ [("pending", .ofInt b.layer.pending)])], b))
        ([], bench)
      .obj [("steps", .arr answers)]

end LineKv.Script
