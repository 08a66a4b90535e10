import LineKv.Script.Value
import LineKv.Store.Memory
import LineKv.Text.Decimal

/-!
Scripts over the store: checking names, and running a list of operations against one fresh store,
each step answering for itself.
-/

namespace LineKv.Script

open Store

def runValidate (req : Value) : Value :=
  let keyCheck := fun (k : Bytes) => if validKey k then .ok () else .error (StoreError.invalidKey k)
  .obj [("keys", .arr ((req.texts "keys").map fun k => errorOrNull StoreError.toFault (keyCheck k))),
    ("dbs", .arr ((req.texts "dbs").map fun d => errorOrNull StoreError.toFault (checkDatabase d)))]

/-- The store call an operation names, if it names one. -/
def storeCall (op : Value) : Option Call :=
  let db := op.textOr "db" (Bytes.ofString "0")
  let key := op.text "key"
  let kind := op.text "do"
  let is := fun (s : String) => kind == Bytes.ofString s
  if is "get" then some (.get db key)
  else if is "set" then some (.set db key (op.text "value"))
  else if is "del" then some (.delete db key)
  else if is "exists" then some (.exists_ db key)
  else if is "incr" then
    some (.incr db key ((Text.parseInt64? (op.textOr "delta" (Bytes.ofString "1"))).getD 0))
  else if is "keys" then some (.keys db (op.text "prefix") (op.int "limit" 0))
  else if is "flush" then some (.flush db)
  else if is "close" then some .close
  else none

/-- How the answer to a call is reported; a refused write reports its error as its outcome. -/
def answerValue : Call → Answer → Value
  | .set .., .failed e => .obj [("ok", faultValue e.toFault)]
  | _, .failed e => faultValue e.toFault
  | _, .value none => .obj [("found", .bool false)]
  | _, .value (some v) => .obj [("found", .bool true), ("value", .str v)]
  | _, .stored => .obj [("ok", .null)]
  | _, .existed b => .obj [("existed", .bool b)]
  | _, .present b => .obj [("exists", .bool b)]
  | _, .counter n => .obj [("value", .str (Bytes.ofInt n))]
  | _, .names ks => .obj [("keys", .ofTexts ks)]
  | _, .removed n => .obj [("removed", .ofNat n)]
  | _, .closed => .obj [("ok", .null)]

def storeStep (m : Memory) (op : Value) : Value × Memory :=
  match storeCall op with
  | some c => (answerValue c (m.perform c).1, (m.perform c).2)
  | none => (.obj [("error", .ofString "bad_input"), ("message", .ofString "unknown store op")], m)

def runStore (req : Value) : Value :=
  let (steps, _) := (req.list "ops").foldl (fun (acc : List Value × Memory) op =>
    let (answer, m) := storeStep acc.2 op
    (acc.1 ++ [answer], m)) ([], Memory.empty)
  .obj [("steps", .arr steps)]

end LineKv.Script
