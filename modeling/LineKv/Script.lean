import LineKv.Script.Line
import LineKv.Script.Settings
import LineKv.Script.Store
import LineKv.Script.Broker
import LineKv.Script.Transport
import LineKv.Script.Dispatch
import LineKv.Script.Queue
import LineKv.Script.Worker
import LineKv.Script.Account
import LineKv.Script.Session
import LineKv.Script.Deflate

/-!
The scripting interface: one request in, one answer out. A request names its operation under `op`;
an unknown operation is answered as bad input.
-/

namespace LineKv.Script

def operations : List (String × (Value → Value)) :=
  [("decode", runDecode), ("frame", runFrame), ("reply", runReply), ("template", runTemplate),
    ("security", runSecurity), ("backoff", runBackoff), ("level", runLevel),
    ("validate", runValidate), ("store", runStore), ("broker", runBroker),
    ("chunkqueue", runChunkQueue), ("dispatch", runDispatch),
    ("queue", runQueue), ("worker", runWorker),
    ("accounts", runAccounts), ("hash_password", runHashPassword),
    ("session", runSession), ("deflate", runDeflate), ("config", runConfig)]

def answer (req : Value) : Value :=
  match (req.get "op").bytes? with
  | some op =>
    match operations.find? (fun e => Bytes.ofString e.1 == op) with
    | some (_, run) => run req
    | none => .obj [("error", .ofString "bad_input"), ("message", .ofString "unknown op")]
  | none => .obj [("error", .ofString "bad_input"), ("message", .ofString "missing op")]

end LineKv.Script
