import LineKv.Account.Basic
import LineKv.Toml.Tree

/-!
Reading an accounts file. The file is TOML: an optional `default_capabilities` string and an array
`account` of tables with `name`, `password_hash`, `capabilities` (strings) and `admin`, `disabled`
(booleans).
-/

namespace LineKv

open Toml

def fieldFor (fields : List String) (key : String) : Option String :=
  if fields.contains key then some key else fields.find? (Text.equalFold · key)

def decodeError (doc : Document) (path : List String) (what : String) : String :=
  let k := quoteText (keyText path)
  match doc.lineOf? path with
  | some l => if l > 0 then "toml: line " ++ toString l ++ " (last key " ++ k ++ "): " ++ what
    else "toml: (last key " ++ k ++ "): " ++ what
  | none => "toml: (last key " ++ k ++ "): " ++ what

def kindMismatch {α : Type} (doc : Document) (path : List String) (v : Value) (dest : String) :
    Except String α :=
  .error (decodeError doc path
    ("incompatible types: TOML value has type " ++ v.kindName ++ "; destination has type " ++ dest))

def stringValue (doc : Document) (path : List String) : Value → Except String Bytes
  | .str s => .ok (Bytes.ofString s)
  | v => kindMismatch doc path v "string"

def boolValue (doc : Document) (path : List String) : Value → Except String Bool
  | .bool b => .ok b
  | v => kindMismatch doc path v "boolean"

def entryFields : List String := ["name", "password_hash", "capabilities", "admin", "disabled"]

def AccountEntry.blank : AccountEntry := ⟨[], [], none, false, false⟩

/-- Set the field of an entry that a key names. -/
def setEntryField (doc : Document) (path : List String) (e : AccountEntry) (key : String) (v : Value) :
    Except String AccountEntry :=
  let here := path ++ [key]
  match fieldFor entryFields key with
  | some "name" => do return { e with name := ← stringValue doc here v }
  | some "password_hash" => do return { e with passwordHash := ← stringValue doc here v }
  | some "capabilities" => do return { e with capabilities := some (← stringValue doc here v) }
  | some "admin" => do return { e with admin := ← boolValue doc here v }
  | some "disabled" => do return { e with disabled := ← boolValue doc here v }
  | _ => .ok e

def decodeEntry (doc : Document) (path : List String) (e : AccountEntry) : Value → Except String AccountEntry
  | .table t => t.foldlM (fun e (k, v) => setEntryField doc path e k v) e
  | v => .error (decodeError doc path
      ("type mismatch for auth.fileAccount: expected table but found " ++ v.kindName))

/-- The account array as decoding fills it: the entries held, and how many are in use. -/
structure EntrySlots where
  slots : List AccountEntry
  used : Nat

/-- Decode an array into the entries: the first entries are reused when there is room for all the
elements, else fresh entries are made. -/
def decodeEntries (doc : Document) (path : List String) (held : EntrySlots) (v : Value) :
    Except String EntrySlots := do
  let elems ← match v with
    | .array items => pure items
    | .tables items => pure (items.map Value.table)
    | other => kindMismatch doc path other "slice"
  let n := elems.length
  let slots := if held.slots.length < n then List.replicate n AccountEntry.blank else held.slots
  let filled ← (elems.zip (slots.take n)).mapM fun (x, e) => decodeEntry doc path e x
  return ⟨filled ++ slots.drop n, n⟩

/-- The default capabilities (when the file defines them) and the entries of a document. -/
def decodeAccounts (doc : Document) : Except String (Option Bytes × List AccountEntry) := do
  let step := fun (acc : Bytes × EntrySlots) (kv : String × Value) => do
    let (defaults, held) := acc
    let (k, v) := kv
    match fieldFor ["default_capabilities", "account"] k with
    | some "default_capabilities" => return (← stringValue doc [k] v, held)
    | some "account" => return (defaults, ← decodeEntries doc [k] held v)
    | _ => return (defaults, held)
  let (defaults, held) ← doc.root.foldlM step ([], ⟨[], 0⟩)
  let given := (doc.root.get? "default_capabilities").isSome
  return (if given then some defaults else none, held.slots.take held.used)

abbrev AccountsDecoder := String → Except String (Option Bytes × List AccountEntry)

def Accounts.load (decode : AccountsDecoder) (hasher : Hasher) (pfx : String) (text : String) :
    Except AccountError Accounts := do
  let (defaults, entries) ← (decode text).mapError fun m => AccountError.malformed (Bytes.ofString (pfx ++ ": " ++ m))
  Accounts.build hasher defaults entries

def tomlAccounts : AccountsDecoder := fun text => do
  let doc ← (Document.ofText text).mapError (·.message)
  decodeAccounts doc

def Accounts.parse (pfx : String) (text : String) : Except AccountError Accounts :=
  Accounts.load tomlAccounts bcrypt pfx text

end LineKv
