import LineKv.Fault
import LineKv.Text.Case
import LineKv.Text.Space
import LineKv.Text.Quoted

/-!
Command descriptors. A descriptor names a command and fixes what a call of it needs: bounds on its
parameter count, an optional capability letter, whether it may run before login, whether a
trailing empty parameter counts, whether it is keep-alive traffic, and its handler.
-/

namespace LineKv.Command

/-- What a handler reports for one call. -/
inductive Outcome where
  | success
  | failed
  | invalid
  /-- The work continues elsewhere; the final outcome arrives later. -/
  | deferred
  deriving DecidableEq, Repr, Inhabited

def Outcome.name : Outcome → String
  | .success => "success" | .failed => "failed" | .invalid => "invalid" | .deferred => "deferred"

/-- A command descriptor over handlers of type `H`. -/
structure Descriptor (H : Type) where
  name : Bytes
  minParams : Int
  /-- The most parameters a call keeps; `none` keeps them all. -/
  maxParams : Option Int
  /-- The capability letter a caller needs, if any. -/
  permission : Option UInt8
  preRegistration : Bool
  trailingEmpty : Bool
  keepAlive : Bool
  /-- The handler; a descriptor without one is refused by the table. -/
  handler : Option H

/-- Why a descriptor was refused, or a registration failed. -/
inductive TableError where
  | sealed
  | invalidName (raw : Bytes)
  | negativeMin (name : Bytes)
  | maxBelowMin (name : Bytes) (max min : Int)
  | nilHandler (name : Bytes)
  | exists_ (name : Bytes)
  /-- An alias names a command of the table. -/
  | aliasShadows (name : Bytes)
  /-- An alias targets no command of the table. -/
  | aliasUnknown (name target : Bytes)
  deriving Repr, DecidableEq

/-- The failure a table error reports. -/
def TableError.toFault : TableError → Fault
  | .sealed => .of .tableSealed (Bytes.ofString "command: table already built")
  | .invalidName raw =>
    .of .invalidDescriptor (Bytes.ofString "command: invalid descriptor: invalid name " ++ Text.quote raw)
  | .negativeMin n =>
    .of .invalidDescriptor (Bytes.ofString "command: invalid descriptor: " ++ n ++
      Bytes.ofString ": negative min params")
  | .maxBelowMin n max min =>
    .of .invalidDescriptor (Bytes.ofString "command: invalid descriptor: " ++ n ++
      Bytes.ofString ": max params " ++ Bytes.ofInt max ++ Bytes.ofString " below min " ++ Bytes.ofInt min)
  | .nilHandler n =>
    .of .invalidDescriptor (Bytes.ofString "command: invalid descriptor: " ++ n ++ Bytes.ofString ": nil handler")
  | .exists_ n => .of .descriptorExists (Bytes.ofString "command: descriptor already registered: " ++ n)
  | .aliasShadows a =>
    .of .descriptorExists (Bytes.ofString "command: descriptor already registered: alias " ++ a ++
      Bytes.ofString " shadows a command")
  | .aliasUnknown a t =>
    .of .unknownCommand (Bytes.ofString "command: unknown command: alias " ++ a ++ Bytes.ofString " -> " ++ t)

def isNameByte (c : UInt8) : Bool :=
  (65 ≤ c && c ≤ 90) || (97 ≤ c && c ≤ 122) || (48 ≤ c && c ≤ 57) || c == 95 || c == 45

namespace Descriptor

variable {H : Type}

def missingHandler (d : Descriptor H) : Option TableError :=
  if d.handler.isNone then some (.nilHandler (Text.trimSpace d.name)) else none

def check (d : Descriptor H) : Option TableError :=
  let name := Text.trimSpace d.name
  if name.isEmpty || !name.all isNameByte then some (.invalidName d.name)
  else if d.minParams < 0 then some (.negativeMin name)
  else
    match d.maxParams with
    | some max => if max < d.minParams then some (.maxBelowMin name max d.minParams) else d.missingHandler
    | none => d.missingHandler

def key (d : Descriptor H) : Bytes := Text.toUpper (Text.trimSpace d.name)

/-- The parameters a call passes on: a trailing empty one dropped unless kept, and any past the
maximum merged into the last allowed one with single spaces. -/
def normalize (d : Descriptor H) (params : List Bytes) : List Bytes :=
  let args := if !d.trailingEmpty && params.getLast? == some [] then params.dropLast else params
  match d.maxParams with
  | none => args
  | some max =>
    if (args.length : Int) ≤ max then args
    else if max = 0 then []
    else
      let keep := (max - 1).toNat
      args.take keep ++ [Bytes.joinWith [32] (args.drop keep)]

end Descriptor

end LineKv.Command
