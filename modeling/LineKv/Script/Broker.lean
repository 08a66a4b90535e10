import LineKv.Script.Value
import LineKv.Broker

/-!
Scripts over the pub/sub broker: a list of subscriptions, publications and queries against one
broker, each step listing the deliveries it made.
-/

namespace LineKv.Script

def deliveryValue (d : Delivery) : Value :=
  .obj [("to", .str d.recipient), ("channel", .str d.channel), ("pattern", .str d.pattern),
    ("message", .str d.message)]

def countAnswer (n : Nat) (err : Option BrokerError) : List (String × Value) :=
  [("n", .ofNat n), ("err", .ofOption (fun e => faultValue (BrokerError.toFault e)) err)]

/-- One broker operation: its answer fields, its deliveries and the broker after it. -/
def brokerStep (b : Broker) (op : Value) : List (String × Value) × List Delivery × Broker :=
  let kind := op.text "do"
  let is := fun (s : String) => kind == Bytes.ofString s
  let id := op.text "id"
  let name := op.text "name"
  if is "sub" then
    let ((n, err), b') := b.subscribe id name
    (countAnswer n err, [], b')
  else if is "psub" then
    let ((n, err), b') := b.psubscribe id name
    (countAnswer n err, [], b')
  else if is "unsub" then
    let (n, b') := b.unsubscribe id name
    ([("n", .ofNat n)], [], b')
  else if is "pub" then
    match b.publish name (op.text "message") with
    | .ok ds => (countAnswer ds.length none, ds, b)
    | .error e => (countAnswer 0 (some e), [], b)
  else if is "count" then ([("n", .ofNat (b.count id))], [], b)
  else if is "stats" then
    let (c, p, s) := b.stats
    ([("stats", .obj [("channels", .ofNat c), ("patterns", .ofNat p), ("subscribers", .ofNat s)])], [], b)
  else ([("error", .ofString "bad_input")], [], b)

def runBroker (req : Value) : Value :=
  let (steps, _) := (req.list "ops").foldl (fun (acc : List Value × Broker) op =>
    let (fields, ds, b) := brokerStep acc.2 op
    (acc.1 ++ [.obj (fields ++ [("deliveries", .arr (ds.map deliveryValue))])], b))
    ([], Broker.empty (req.int "max" 0).toNat)
  .obj [("steps", .arr steps)]

end LineKv.Script
