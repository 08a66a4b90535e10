import LineKv.Crypto.Bcrypt
import LineKv.Text.Case
import LineKv.Text.Space

/-!
Accounts. An accounts file lists accounts, each with a name, a bcrypt password hash, capability
letters (the file's defaults when absent), and admin and disabled flags.
-/

namespace LineKv

def capabilityLetters : Bytes := Bytes.ofString "rwpme"

/-- What accounts take from a password-hashing library: the cost a stored hash was made at (an
error when the hash is malformed), the check of a password against a hash, and hashing a new
password at a cost. -/
structure Hasher where
  cost : Bytes → Except Crypto.HashError Nat
  compare : Bytes → Bytes → Except Crypto.HashError Unit
  hash : Bytes → Int → Except Crypto.HashError Bytes

def bcrypt : Hasher := ⟨Crypto.hashCost, Crypto.compareHash, Crypto.hashPassword⟩

instance : Inhabited Hasher := ⟨bcrypt⟩

/-- One account. -/
structure Account where
  name : Bytes
  passwordHash : Bytes
  capabilities : Bytes
  admin : Bool
  disabled : Bool
  deriving Repr, Inhabited, DecidableEq

/-- A snapshot of the accounts file: accounts under their lower-cased names, in file order. -/
structure Accounts where
  entries : List (Bytes × Account)
  deriving Repr, Inhabited, DecidableEq

/-- Why accounts could not be read, or a login failed. -/
inductive AccountError where
  /-- The file is not TOML, or its values have the wrong types; the text says why. -/
  | malformed (message : Bytes)
  | unknownCapability (c : UInt8) (account : Option Bytes)
  | badName (index : Nat) (raw : Bytes)
  | duplicate (name : Bytes)
  | badHash (name : Bytes) (e : Crypto.HashError)
  | unauthorized
  | emptyPassword
  deriving Repr

/-- The failure an account error reports. -/
def AccountError.toFault : AccountError → Fault
  | .malformed m => .plain m
  | .unknownCapability c none =>
    .of .invalidAccount (Bytes.ofString "auth: invalid account: unknown capability " ++ Text.quoteChar c.toNat)
  | .unknownCapability c (some n) =>
    .of .invalidAccount (Bytes.ofString "auth: invalid account: unknown capability " ++ Text.quoteChar c.toNat ++
      Bytes.ofString ": " ++ Text.quote n)
  | .badName i raw =>
    .of .invalidAccount (Bytes.ofString ("auth: invalid account: entry " ++ toString i ++ " name ") ++ Text.quote raw)
  | .duplicate n => .of .duplicateAccount (Bytes.ofString "auth: duplicate account: " ++ Text.quote n)
  | .badHash n e =>
    .of .invalidAccount (Bytes.ofString "auth: invalid account: " ++ Text.quote n ++
      Bytes.ofString " password_hash: " ++ (Crypto.HashError.toFault e).message)
  | .unauthorized => .of .unauthorized (Bytes.ofString "auth: unauthorized")
  | .emptyPassword => .of .invalidAccount (Bytes.ofString "auth: invalid account: empty password")

def checkCapabilities (caps : Bytes) : Option UInt8 := caps.find? fun c => !capabilityLetters.contains c

/-- One entry of an accounts file as written. -/
structure AccountEntry where
  name : Bytes
  passwordHash : Bytes
  capabilities : Option Bytes
  admin : Bool
  disabled : Bool
  deriving Repr

namespace Accounts

def empty : Accounts := ⟨[]⟩

/-- Build a snapshot from the file's default capabilities (if given) and its entries, checking
each stored hash with `hasher`. -/
def build (hasher : Hasher) (defaults : Option Bytes) (entries : List AccountEntry) : Except AccountError Accounts := do
  let defaults := (defaults.map Text.trimSpace).getD (Bytes.ofString "r")
  if let some c := checkCapabilities defaults then throw (.unknownCapability c none)
  let step := fun (acc : Except AccountError (List (Bytes × Account) × Nat)) (e : AccountEntry) => do
    let (out, i) ← acc
    let name := Text.trimSpace e.name
    if name.isEmpty || name.any (fun c => c == 32 || c == 9 || c == 58 || c == 42) then
      throw (.badName i e.name)
    let key := Text.toLower name
    if out.any (·.1 == key) then throw (.duplicate name)
    let hash := Text.trimSpace e.passwordHash
    if let .error err := hasher.cost hash then throw (.badHash name err)
    let caps := (e.capabilities.map Text.trimSpace).getD defaults
    if let some c := checkCapabilities caps then throw (.unknownCapability c (some name))
    pure (out ++ [(key, ⟨name, hash, caps, e.admin, e.disabled⟩)], i + 1)
  let (out, _) ← entries.foldl step (.ok ([], 0))
  return ⟨out⟩

def lookup (a : Accounts) (name : Bytes) : Option Account :=
  let key := Text.toLower (Text.trimSpace name)
  (a.entries.find? (·.1 == key)).map (·.2)

def size (a : Accounts) : Nat := a.entries.length

def names (a : Accounts) : List Bytes := Bytes.sort (a.entries.map (·.2.name))

def verify (hasher : Hasher) (a : Accounts) (name password : Bytes) : Except AccountError Account :=
  match a.lookup name with
  | none => .error .unauthorized
  | some acct =>
    match hasher.compare acct.passwordHash password with
    | .error _ => .error .unauthorized
    | .ok () => if acct.disabled then .error .unauthorized else .ok acct

end Accounts

def hashNewPassword (hasher : Hasher) (password : Bytes) (cost : Int) : Except Fault Bytes :=
  if password.isEmpty then .error AccountError.emptyPassword.toFault
  else (hasher.hash password (if cost = 0 then 10 else cost)).mapError Crypto.HashError.toFault

end LineKv
