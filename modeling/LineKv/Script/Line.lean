import LineKv.Script.Value
import LineKv.Line.Frame
import LineKv.Line.Message
import LineKv.Line.Reply

/-!
Scripts over the line protocol: decoding one line, framing a buffer until it yields no more lines,
and formatting replies and server lines.
-/

namespace LineKv.Script

open Line

def runDecode (req : Value) : Value :=
  ofExcept DecodeError.toFault (fun (m : Message) =>
    .obj [("command", .str m.command), ("params", .ofTexts m.params),
      ("tags", .ofOption (fun (ts : Tags) => .arr (ts.map fun (k, v) => .arr [.str k, .str v])) m.tags)])
    (decode (req.text "line"))

def frameItem : Except FrameError Bytes → Value
  | .ok text => .obj [("line", .str text)]
  | .error (.overlong len limit) => faultValue (FrameError.overlong len limit).toFault
  | .error (.exceeded len) => .obj [("fatal", faultValue (FrameError.exceeded len).toFault)]

def frameAll (max fuel : Nat) (buf : Bytes) : List Value × Bytes :=
  ((frames max fuel buf).1.map frameItem, (frames max fuel buf).2)

def runFrame (req : Value) : Value :=
  let max := if req.has "raw_max_line" then effectiveMax (req.int "raw_max_line" 0)
    else effectiveMax (req.int "max_line" 0)
  let buf := req.text "data"
  let (items, rest) := frameAll max (buf.length + 1) buf
  .obj [("items", .arr items), ("rest", .str rest)]

def runReply (req : Value) : Value :=
  let params := req.texts "params"
  if req.text "kind" == Bytes.ofString "line" then
    .obj [("out", .str (serverLine (req.text "command") params (req.text "text")))]
  else
    let code : Code := ⟨req.int "code" 200⟩
    .obj [("out", .str (reply code (req.text "target") params (req.text "text"))),
      ("is_error", .bool code.isError), ("code", .str (Bytes.ofInt code.val))]

end LineKv.Script
