import LineKv.Transport.Pipe
import LineKv.Deflate.Inflate
import LineKv.Deflate.Encode

/-!
The compression layer of a connection. Each outbound flush becomes one self-contained frame: a
four-byte big-endian length, then a complete raw DEFLATE stream of everything queued. Frames the
socket has not taken yet are kept and count as pending output.
-/

namespace LineKv.Transport

open Deflate

def headerLen : Nat := 4

/-- What the layer takes from a DEFLATE library: the error for a level it does not support, raw
compression at a level, and inflation that stops once its output passes a cap. -/
structure Codec where
  levelError : Int → Option String
  compress : Int → Array UInt8 → Bytes
  inflate : Array UInt8 → Nat → Inflated

def flate : Codec := ⟨fun level => if validLevel level then none else some (levelError level), compress, inflate⟩

instance : Inhabited Codec := ⟨flate⟩

/-- A compression layer: its codec, level and limits, whether it sits on a socket, the frames not
yet handed to the socket, and inbound bytes not yet decoded. -/
structure Compressor where
  codec : Codec
  level : Int
  maxFrame : Nat
  maxDecoded : Nat
  attached : Bool
  out : ChunkQueue
  inbox : Bytes
  deriving Inhabited

namespace Compressor

def create (codec : Codec) (level maxFrame maxDecoded : Int) : Except String Compressor :=
  match codec.levelError level with
  | some e => .error ("deflate: writer: " ++ e)
  | none =>
    .ok { codec := codec
          level := level
          maxFrame := if maxFrame ≤ 0 then 262144 else maxFrame.toNat
          maxDecoded := if maxDecoded ≤ 0 then 1048576 else maxDecoded.toNat
          attached := false
          out := .empty
          inbox := [] }

def frame (c : Compressor) (plain : Bytes) : Bytes :=
  let body := c.codec.compress c.level plain.toArray
  Bytes.be32 body.length ++ body

def pending (c : Compressor) : Int := c.out.len

/-- Frame everything queued in `src` and push the kept frames inward with `inner`, which writes
into the layer below and carries that layer's state `σ`. -/
def writeWith {σ : Type} (c : Compressor) (src : ChunkQueue)
    (inner : ChunkQueue → σ → WireM (WriteStatus × Option LinkError × ChunkQueue × σ)) (below : σ) :
    WireM (WriteStatus × Option LinkError × ChunkQueue × Compressor × σ) := do
  if !c.attached then return (.error, some .notAttached, src, c, below)
  let (c, src) :=
    if src.len > 0 then ({ c with out := c.out.push (c.frame src.bytes) }, ChunkQueue.empty)
    else (c, src)
  let (st, err, out, below) ← inner c.out below
  let c := { c with out := out }
  match st with
  | .error => return (.error, err, src, c, below)
  | st => return (st, none, src, c, below)

/-- Decode one whole frame: the plaintext handed on and the failure, if any. -/
def decodeFrame (c : Compressor) (body : Bytes) : Bytes × Option LinkError :=
  let limit := c.maxDecoded + 1
  let r := c.codec.inflate body.toArray limit
  let got := (r.out.extract 0 limit).toList
  let total := r.out.size
  match r.ending with
  | .finished => (got, if total > c.maxDecoded then some (.decodedTooLarge c.maxDecoded) else none)
  | .overCap => (got, some (.decodedTooLarge c.maxDecoded))
  | e =>
    if total < limit ∨ (total = limit ∧ r.flushed < total) then (got, some (.corruptFrame e.message))
    else (got, some (.decodedTooLarge c.maxDecoded))

/-- Decode every whole frame in the inbox: the plaintext, its size when no frame failed, and the
first failure. -/
def decodeFrames (c : Compressor) : Nat → Bytes × Nat × Option LinkError × Compressor
  | 0 => ([], 0, none, c)
  | fuel + 1 =>
    if c.inbox.length < headerLen then ([], 0, none, c)
    else
      let size := Bytes.beValue (c.inbox.take headerLen)
      if size > c.maxFrame then ([], 0, some (.frameTooLarge size c.maxFrame), c)
      else if c.inbox.length < headerLen + size then ([], 0, none, c)
      else
        let body := (c.inbox.drop headerLen).take size
        let c := { c with inbox := c.inbox.drop (headerLen + size) }
        match c.decodeFrame body with
        | (got, some e) => (got, 0, some e, c)
        | (got, none) =>
          let (more, n, err, c) := decodeFrames c fuel
          (got ++ more, got.length + n, err, c)

/-- Decode what is there, pulling with `inner` from the layer below (whose state is `σ`) until
some plaintext came out or that layer has nothing more. -/
def readWith {σ : Type} (c : Compressor)
    (inner : σ → WireM (ReadStatus × Option LinkError × Bytes × σ)) (below : σ) :
    WireM (ReadStatus × Option LinkError × Bytes × Compressor × σ) :=
  go 3 c below []
where
  /-- One round: decode, and if nothing came out, pull once more. A pull that brings bytes
  empties the pipe, so the second pull ends the loop. -/
  go : Nat → Compressor → σ → Bytes → WireM (ReadStatus × Option LinkError × Bytes × Compressor × σ)
    | 0, c, below, acc => return (.wouldBlock, none, acc, c, below)
    | fuel + 1, c, below, acc => do
      if !c.attached then return (.error, some .notAttached, acc, c, below)
      let (got, n, err, c) := c.decodeFrames (c.inbox.length / headerLen + 1)
      let acc := acc ++ got
      if let some e := err then return (.error, some e, acc, c, below)
      if n > 0 then return (.consumed, none, acc, c, below)
      let (st, err, data, below) ← inner below
      match st with
      | .consumed =>
        if data.isEmpty then return (.wouldBlock, none, acc, c, below)
        go fuel { c with inbox := c.inbox ++ data } below acc
      | .wouldBlock => return (.wouldBlock, none, acc, c, below)
      | .closed => return (.closed, none, acc, c, below)
      | .error => return (.error, err, acc, c, below)

def close (c : Compressor) : Compressor := { c with out := .empty, inbox := [] }

end Compressor

end LineKv.Transport
