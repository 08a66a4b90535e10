import LineKv.Command.Table
import LineKv.Line.Reply

/-!
Running commands. A call names a command and passes parameters. The name is upper-cased and looked
up in the table, then among the fallback names.
-/

namespace LineKv.Command

open Line

/-- Why a call was rejected or failed. -/
inductive CommandError where
  | unknown (folded : Bytes)
  | missingParams (name : Bytes) (want got : Int)
  | denied (name : Bytes) (capability : UInt8)
  | notRegistered (name : Bytes)
  /-- The handler failed, or stopped with the given panic message. -/
  | handlerFailure (name : Bytes) (panic : Option Bytes)
  deriving Repr, DecidableEq

/-- The failure a command error reports. -/
def CommandError.toFault : CommandError → Fault
  | .unknown n => .of .unknownCommand (Bytes.ofString "command: unknown command: " ++ n)
  | .missingParams n want got =>
    .of .missingParameters (Bytes.ofString "command: not enough parameters: " ++ n ++
      Bytes.ofString " wants " ++ Bytes.ofInt want ++ Bytes.ofString ", got " ++ Bytes.ofInt got)
  | .denied n c => .of .accessDenied (Bytes.ofString "command: access denied: " ++ n ++ Bytes.ofString " needs " ++
    Utf8.encode (Char.ofNat c.toNat))
  | .notRegistered n => .of .notRegistered (Bytes.ofString "command: not registered: " ++ n)
  | .handlerFailure n none => .of .handlerFailure (Bytes.ofString "command: handler failure: " ++ n)
  | .handlerFailure n (some p) =>
    .of .handlerFailure (Bytes.ofString "command: handler failure: " ++ n ++ Bytes.ofString ": panic: " ++ p)

/-- What observers see of one call. Times are nanoseconds. -/
structure Event where
  client : Bytes
  name : Bytes
  params : List Bytes
  result : Outcome
  err : Option CommandError
  started : Int
  duration : Int
  deriving Repr

abbrev Parked := List (Bytes × Event)

def Parked.put (p : Parked) (id : Bytes) (ev : Event) : Parked :=
  if p.any (·.1 == id) then p.map fun e => if e.1 == id then (id, ev) else e else p ++ [(id, ev)]

def Parked.get? (p : Parked) (id : Bytes) : Option Event := (p.find? (·.1 == id)).map (·.2)

def Parked.drop (p : Parked) (id : Bytes) : Parked := p.filter (·.1 != id)

/-- How a handler run ended. -/
inductive Invocation where
  | returned (r : Outcome)
  | panicked (message : Bytes)

/-- What the dispatcher needs from the world `W` it runs in, for handlers of type `H`. -/
structure Host (W H : Type) where
  clientId : W → Bytes
  registered : W → Bool
  /-- Whether the client holds a capability or is an administrator (false without a provider). -/
  permitted : UInt8 → W → Bool
  now : W → Int
  reply : Code → List Bytes → Bytes → W → W
  touch : Int → Bool → W → W
  /-- Show an event to the observers: a pre-event when the flag is set, else a post-event. -/
  notify : Bool → Event → W → W
  invoke : H → List Bytes → W → Invocation × W
  parked : W → Parked
  setParked : Parked → W → W

/-- A dispatcher: the sealed table and the fallback names. -/
structure Dispatcher (H : Type) where
  table : Table H
  fallback : Fallback H

namespace Dispatcher

variable {W H : Type}

def lookup (d : Dispatcher H) (name : Bytes) : Option (Descriptor H) :=
  let folded := Text.toUpper name
  match d.table.lookup folded with
  | some desc => some desc
  | none =>
    match (d.fallback.find? (·.1 == folded)).map (·.2) with
    | some desc => if desc.handler.isSome then some desc else none
    | none => none

abbrev Verdict := Outcome × Option CommandError

def finish (host : Host W H) (ev : Event) (result : Outcome) (err : Option CommandError) (w : W) : W :=
  host.notify false { ev with result := result, err := err, duration := host.now w - ev.started } w

/-- Run a call that passed validation. -/
def run (host : Host W H) (desc : Descriptor H) (h : H) (args : List Bytes) (w : W) : Verdict × W :=
  let started := host.now w
  let w := host.touch started desc.keepAlive w
  let id := host.clientId w
  let ev : Event := ⟨id, desc.name, args, .success, none, started, 0⟩
  let w := host.notify true ev w
  let prev := (host.parked w).get? id
  let w := host.setParked ((host.parked w).put id ev) w
  let (inv, w) := host.invoke h args w
  let (result, err, w) : Outcome × Option CommandError × W := match inv with
    | .returned r => (r, if r = .failed then some (.handlerFailure desc.name none) else none, w)
    | .panicked msg =>
      (.failed, some (.handlerFailure desc.name (some msg)), host.reply Code.handlerFailed [desc.name]
        (Bytes.ofString "Internal error") w)
  if result = .deferred then ((result, err), w)
  else
    let p := (host.parked w).drop id
    let p := match prev with
      | some e => p.put id e
      | none => p
    let w := host.setParked p w
    ((result, err), finish host ev result err w)

def reject (host : Host W H) (code : Code) (name : Bytes) (text : Bytes) (e : CommandError) (w : W) :
    Verdict × W :=
  ((.invalid, some e), host.reply code [name] text w)

def capabilityText (c : UInt8) : Bytes := Utf8.encode (Char.ofNat c.toNat)

def proceed (host : Host W H) (desc : Descriptor H) (args : List Bytes) (w : W) : Verdict × W :=
  if !desc.preRegistration && !host.registered w then
    reject host Code.notRegistered desc.name (Bytes.ofString "You have not logged in")
      (.notRegistered desc.name) w
  else
    match desc.handler with
    | some h => run host desc h args w
    | none => ((.invalid, none), w)

/-- Validate and run one call. -/
def execute (d : Dispatcher H) (host : Host W H) (name : Bytes) (params : List Bytes) (w : W) :
    Verdict × W :=
  let folded := Text.toUpper name
  match d.lookup folded with
  | none => reject host Code.unknownCommand folded (Bytes.ofString "Unknown command") (.unknown folded) w
  | some desc =>
    let args := desc.normalize params
    if (args.length : Int) < desc.minParams then
      reject host Code.needMoreParams desc.name (Bytes.ofString "Not enough parameters")
        (.missingParams desc.name desc.minParams args.length) w
    else
      match desc.permission with
      | some c =>
        if host.permitted c w then proceed host desc args w
        else
          reject host Code.noPrivileges desc.name
            (Bytes.ofString "Permission denied: requires capability " ++ Text.quote (capabilityText c))
            (.denied desc.name c) w
      | none => proceed host desc args w

def complete (host : Host W H) (result : Outcome) (w : W) : W :=
  let id := host.clientId w
  match (host.parked w).get? id with
  | none => w
  | some ev =>
    let w := host.setParked ((host.parked w).drop id) w
    let err := if result = .failed then some (.handlerFailure ev.name none) else none
    finish host ev result err w

end Dispatcher

end LineKv.Command
