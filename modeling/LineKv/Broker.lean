import LineKv.Fault
import LineKv.Text.Glob
import LineKv.Text.Quoted

/-!
Publish/subscribe. Each subscriber holds a set of channels and a set of glob patterns, at most
`maxPerSubscriber` of them together when that is positive; a subscriber with none is forgotten.
-/

namespace LineKv

/-- What one subscriber listens to. -/
structure Subscriptions where
  channels : List Bytes
  patterns : List Bytes
  deriving Repr, Inhabited

def Subscriptions.count (s : Subscriptions) : Nat := s.channels.length + s.patterns.length

def Subscriptions.names (s : Subscriptions) (pattern : Bool) : List Bytes :=
  if pattern then s.patterns else s.channels

def Subscriptions.setNames (s : Subscriptions) (pattern : Bool) (names : List Bytes) : Subscriptions :=
  if pattern then { s with patterns := names } else { s with channels := names }

abbrev Index := List (Bytes × List Bytes)

namespace Index

def listed (ix : Index) (name : Bytes) : List Bytes := (ix.lookup name).getD []

def enlist (ix : Index) (name id : Bytes) : Index :=
  if ix.any (·.1 == name) then
    ix.map fun e => if e.1 == name then (name, if e.2.contains id then e.2 else e.2 ++ [id]) else e
  else ix ++ [(name, [id])]

def delist (ix : Index) (name id : Bytes) : Index :=
  let rest := (ix.listed name).filter (· != id)
  if rest.isEmpty then ix.filter (·.1 != name)
  else ix.map fun e => if e.1 == name then (name, rest) else e

end Index

/-- The broker: the channel index, the pattern index, the subscribers' records in order of first
subscription, and the per-subscriber cap. -/
structure Broker where
  maxPerSubscriber : Nat
  exact : Index
  patterns : Index
  bySub : List (Bytes × Subscriptions)
  deriving Repr, Inhabited

/-- One delivery: the subscriber, the channel, the matching pattern (`""` for the channel itself)
and the message. -/
structure Delivery where
  recipient : Bytes
  channel : Bytes
  pattern : Bytes
  message : Bytes
  deriving Repr

/-- Why a subscription or a publication was refused. -/
inductive BrokerError where
  | invalidChannel (name : Bytes)
  | invalidPattern (name : Bytes)
  | badPattern (name : Bytes)
  | tooMany
  deriving Repr, DecidableEq

def BrokerError.toFault : BrokerError → Fault
  | .invalidChannel n => .of .invalidChannel (Bytes.ofString "pubsub: invalid channel: " ++ Text.quote n)
  | .invalidPattern n => .of .invalidPattern (Bytes.ofString "pubsub: invalid pattern: " ++ Text.quote n)
  | .badPattern n =>
    .of .invalidPattern (Bytes.ofString "pubsub: invalid pattern: " ++ Text.quote n ++
      Bytes.ofString ": syntax error in pattern")
  | .tooMany => .of .tooManySubscriptions (Bytes.ofString "pubsub: too many subscriptions")

namespace Broker

def empty (cap : Nat) : Broker := ⟨cap, [], [], []⟩

def validName (n : Bytes) : Bool :=
  !n.isEmpty && !n.any fun b => b == 32 || b == 9 || b == 13 || b == 10

def record (b : Broker) (id : Bytes) : Subscriptions := (b.bySub.lookup id).getD ⟨[], []⟩

def count (b : Broker) (id : Bytes) : Nat := (b.record id).count

def ensure (b : Broker) (id : Bytes) : Broker :=
  if b.bySub.any (·.1 == id) then b else { b with bySub := b.bySub ++ [(id, ⟨[], []⟩)] }

def setRecord (b : Broker) (id : Bytes) (s : Subscriptions) : Broker :=
  { b with bySub := b.bySub.map fun e => if e.1 == id then (id, s) else e }

def forget (b : Broker) (id : Bytes) : Broker := { b with bySub := b.bySub.filter (·.1 != id) }

def index (b : Broker) (pattern : Bool) : Index := if pattern then b.patterns else b.exact

def setIndex (b : Broker) (pattern : Bool) (ix : Index) : Broker :=
  if pattern then { b with patterns := ix } else { b with exact := ix }

def add (b : Broker) (id name : Bytes) (pattern : Bool) : (Nat × Option BrokerError) × Broker :=
  let b := b.ensure id
  let s := b.record id
  let set := s.names pattern
  if set.contains name then ((s.count, none), b)
  else if b.maxPerSubscriber > 0 ∧ s.count ≥ b.maxPerSubscriber then ((s.count, some .tooMany), b)
  else
    let s' := s.setNames pattern (set ++ [name])
    ((s'.count, none), (b.setRecord id s').setIndex pattern ((b.index pattern).enlist name id))

def subscribe (b : Broker) (id channel : Bytes) : (Nat × Option BrokerError) × Broker :=
  if validName channel then b.add id channel false else ((0, some (.invalidChannel channel)), b)

def psubscribe (b : Broker) (id pattern : Bytes) : (Nat × Option BrokerError) × Broker :=
  if !validName pattern then ((0, some (.invalidPattern pattern)), b)
  else
    match Text.Glob.matches? pattern [] with
    | .error _ => ((0, some (.badPattern pattern)), b)
    | .ok _ => b.add id pattern true

/-- Drop one channel or pattern named `name` (both, when it is both), or everything when `name`
is empty: the count left. Each name dropped from the record is delisted from its index, and a
subscriber left with nothing is forgotten. -/
def unsubscribe (b : Broker) (id name : Bytes) : Nat × Broker :=
  match b.bySub.lookup id with
  | none => (0, b)
  | some s =>
    if name.isEmpty then
      let exact := s.channels.foldl (fun ix ch => ix.delist ch id) b.exact
      let patterns := s.patterns.foldl (fun ix p => ix.delist p id) b.patterns
      (0, { b with exact := exact, patterns := patterns }.forget id)
    else
      let s' : Subscriptions := ⟨s.channels.filter (· != name), s.patterns.filter (· != name)⟩
      let exact := if s.channels.contains name then b.exact.delist name id else b.exact
      let patterns := if s.patterns.contains name then b.patterns.delist name id else b.patterns
      let b' := { b with exact := exact, patterns := patterns }
      (s'.count, if s'.count = 0 then b'.forget id else b'.setRecord id s')

def before (x y : Delivery) : Bool :=
  Bytes.lt x.recipient y.recipient || (x.recipient == y.recipient && Bytes.lt x.pattern y.pattern)

def deliveries (b : Broker) (channel message : Bytes) : List Delivery :=
  let direct := (b.exact.listed channel).map fun id => ⟨id, channel, [], message⟩
  let matched := b.patterns.flatMap fun (p, ids) =>
    if (Text.Glob.matches? p channel).toOption == some true then
      ids.map fun id => ⟨id, channel, p, message⟩
    else []
  (direct ++ matched).mergeSort fun x y => !before y x

def publish (b : Broker) (channel message : Bytes) : Except BrokerError (List Delivery) :=
  if validName channel then .ok (b.deliveries channel message) else .error (.invalidChannel channel)

def stats (b : Broker) : Nat × Nat × Nat := (b.exact.length, b.patterns.length, b.bySub.length)

end Broker

end LineKv
