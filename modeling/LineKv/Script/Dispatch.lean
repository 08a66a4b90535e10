import LineKv.Script.Value
import LineKv.Command.Dispatch

/-!
Scripts over the dispatcher. A bench world holds one client, a clock that moves one millisecond
after every call, and what each call did: the parameters its handler saw, the replies written, the
touches and the observer events.
-/

namespace LineKv.Script

open Command Line

/-- How a bench handler ends. -/
inductive BenchEnd where
  | returns (r : Outcome)
  | panics
  deriving Inhabited

/-- A bench handler: the descriptor's name as given, and how it ends. -/
structure BenchHandler where
  given : Bytes
  ending : BenchEnd
  deriving Inhabited

/-- The bench world: the client, the clock, and the record of the current call. -/
structure Bench where
  target : Bytes
  registered : Bool
  caps : Bytes
  admin : Bool
  noPerms : Bool
  clock : Int
  parked : Parked
  handled : List (List Bytes)
  replies : List Bytes
  touches : List (Int × Bool)
  events : List (Bool × Event)

def benchEpoch : Int := 1704067200000000000

/-- The bench as a dispatch host. -/
def benchHost : Host Bench BenchHandler where
  clientId _ := Bytes.ofString "c1"
  registered b := b.registered
  permitted c b := !b.noPerms && (b.caps.contains c || b.admin)
  now b := b.clock
  reply code params text b :=
    { b with replies := b.replies ++ [(reply code b.target params text).dropLast.dropLast] }
  touch t k b := { b with touches := b.touches ++ [(t, k)] }
  notify pre ev b := { b with events := b.events ++ [(pre, ev)] }
  invoke h args b :=
    let b := { b with handled := b.handled ++ [args] }
    let b := { b with replies := b.replies ++
      [(reply Code.ok b.target (h.given :: args) (Bytes.ofString "handled")).dropLast.dropLast] }
    match h.ending with
    | .returns r => (.returned r, b)
    | .panics => (.panicked (Bytes.ofString "boom"), b)
  parked b := b.parked
  setParked p b := { b with parked := p }

def outcomeOf (s : Bytes) : Outcome :=
  if s == Bytes.ofString "failed" then .failed
  else if s == Bytes.ofString "invalid" then .invalid
  else if s == Bytes.ofString "deferred" then .deferred
  else .success

def benchDescriptor (v : Value) : Descriptor BenchHandler :=
  let max := v.int "max" 0
  let ending := if v.text "result" == Bytes.ofString "panic" then BenchEnd.panics
    else .returns (outcomeOf (v.text "result"))
  { name := v.text "name", minParams := v.int "min" 0,
    maxParams := if v.flag "unlimited" || max = -1 then none else some max,
    permission := (v.text "perm").head?, preRegistration := v.flag "prereg",
    trailingEmpty := v.flag "trailing", keepAlive := v.flag "keepalive",
    handler := if v.flag "nil_handler" then none else some ⟨v.text "name", ending⟩ }

def eventValue (pre : Bool) (ev : Event) : Value :=
  .obj ([("kind", .ofString (if pre then "pre" else "post")), ("name", .str ev.name),
    ("params", .ofTexts ev.params), ("result", .ofString ev.result.name),
    ("started_ms", .ofInt (ev.started / 1000000)), ("duration_ns", .ofInt ev.duration)] ++
    match ev.err with
    | some e => [("err", faultValue e.toFault)]
    | none => [])

def benchRecord (b : Bench) : List (String × Value) × Bench :=
  ([("handled", .arr (b.handled.map .ofTexts)), ("replies", .ofTexts b.replies),
    ("touches", .arr (b.touches.map fun (t, k) => .obj [("ms", .ofInt (t / 1000000)), ("keepalive", .bool k)])),
    ("events", .arr (b.events.map fun (pre, ev) => eventValue pre ev))],
    { b with handled := [], replies := [], touches := [], events := [] })

/-- One scripted call: an execution, or the completion of a deferred one. -/
def benchCall (d : Dispatcher BenchHandler) (b : Bench) (call : Value) : Value × Bench :=
  if call.text "do" == Bytes.ofString "complete" then
    let b := Dispatcher.complete benchHost (outcomeOf (call.text "result")) b
    let (fields, b) := benchRecord b
    (.obj fields, { b with clock := b.clock + 1000000 })
  else
    let ((result, err), b) := d.execute benchHost (call.text "name") (call.texts "params") b
    let (fields, b) := benchRecord b
    (.obj ([("result", .ofString result.name),
      ("err", .ofOption (fun (e : CommandError) => faultValue e.toFault) err)] ++ fields),
      { b with clock := b.clock + 1000000 })

/-- Build a table from the script's descriptors, resolve its aliases, and run its calls. -/
def runDispatch (req : Value) : Value :=
  let step := fun (acc : List Value × Builder BenchHandler) (v : Value) =>
    match acc.2.register (benchDescriptor v) with
    | .ok b => (acc.1 ++ [.null], b)
    | .error e => (acc.1 ++ [faultValue e.toFault], acc.2)
  let (registered, builder) := (req.list "descriptors").foldl step ([], Builder.empty)
  let (sealedBuilder, table) := builder.build
  let sealed := match sealedBuilder.register (benchDescriptor (.obj [("name", .ofString "LATE")])) with
    | .ok _ => Value.null
    | .error e => faultValue e.toFault
  let aliasPairs := match req.get "aliases" with
    | .obj kvs => kvs.map fun (k, v) => (Bytes.ofString k, v.bytes?.getD [])
    | _ => []
  match table.aliases aliasPairs with
  | .error e => .obj [("registered", .arr registered), ("aliases", faultValue e.toFault)]
  | .ok fallback =>
    let d : Dispatcher BenchHandler := ⟨table, fallback⟩
    let bench : Bench :=
      { target := req.textOr "target" (Bytes.ofString "*"), registered := req.flag "registered",
        caps := req.text "caps", admin := req.flag "admin", noPerms := req.flag "no_perms",
        clock := benchEpoch, parked := [], handled := [], replies := [], touches := [], events := [] }
    let (calls, _) := (req.list "calls").foldl (fun (acc : List Value × Bench) call =>
      let (answer, b) := benchCall d acc.2 call
      (acc.1 ++ [answer], b)) ([], bench)
    .obj [("registered", .arr registered), ("sealed", sealed), ("names", .ofTexts table.names),
      ("len", .ofNat table.size), ("calls", .arr calls),
      ("lookup", .arr ((req.texts "lookup").map fun n => .ofOption (fun (desc : Descriptor BenchHandler) =>
        Value.str desc.name) (d.lookup n)))]

end LineKv.Script
