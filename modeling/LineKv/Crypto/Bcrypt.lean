import LineKv.Crypto.Blowfish
import LineKv.Fault
import LineKv.Text.Quoted

/-!
Bcrypt password hashes. A hash reads `$<major>[<minor>]$<cost>$<salt><digest>`: the cost is two
decimal digits between 4 and 31, the salt 22 characters and the digest 31 characters of the bcrypt
base-64 alphabet.
-/

namespace LineKv.Crypto

def bcryptAlphabet : Bytes := Bytes.ofString "./ABCDEFGHIJKLMNOPQRSTUVWXYZabcdefghijklmnopqrstuvwxyz0123456789"

/-- Base-64 text of bytes, without padding. -/
def base64Encode (b : Bytes) : Bytes :=
  let sym := fun (n : Nat) => bcryptAlphabet.getD n 0
  let rec go : Bytes → Bytes
    | [] => []
    | [a] => [sym (a.toNat / 4), sym (a.toNat % 4 * 16)]
    | [a, b] => [sym (a.toNat / 4), sym (a.toNat % 4 * 16 + b.toNat / 16), sym (b.toNat % 16 * 4)]
    | a :: b :: c :: rest =>
      sym (a.toNat / 4) :: sym (a.toNat % 4 * 16 + b.toNat / 16) ::
        sym (b.toNat % 16 * 4 + c.toNat / 64) :: sym (c.toNat % 64) :: go rest
  go b

/-- Why a hash cannot be used. -/
inductive HashError where
  | tooShort
  | badPrefix (b : UInt8)
  | versionTooNew (b : UInt8)
  | costSyntax (text : Bytes)
  | costRange (cost : Int)
  | saltSyntax (offset : Nat)
  | passwordTooLong
  | mismatch
  deriving Repr, DecidableEq

def byteChar (b : UInt8) : Bytes := Utf8.encode (Char.ofNat b.toNat)

/-- The failure a hash error reports. -/
def HashError.toFault : HashError → Fault
  | .tooShort => .plain (Bytes.ofString "crypto/bcrypt: hashedSecret too short to be a bcrypted password")
  | .badPrefix b =>
    .plain (Bytes.ofString "crypto/bcrypt: bcrypt hashes must start with '$', but hashedSecret started with '" ++
      byteChar b ++ Bytes.ofString "'")
  | .versionTooNew b =>
    .plain (Bytes.ofString "crypto/bcrypt: bcrypt algorithm version '" ++ byteChar b ++
      Bytes.ofString "' requested is newer than current version '2'")
  | .costSyntax t => .plain (Bytes.ofString "strconv.Atoi: parsing " ++ Text.quote t ++ Bytes.ofString ": invalid syntax")
  | .costRange c =>
    .plain (Bytes.ofString ("crypto/bcrypt: cost " ++ toString c ++ " is outside allowed range (4,31)"))
  | .saltSyntax n => .plain (Bytes.ofString ("illegal base64 data at input byte " ++ toString n))
  | .passwordTooLong => .plain (Bytes.ofString "bcrypt: password length exceeds 72 bytes")
  | .mismatch =>
    .plain (Bytes.ofString "crypto/bcrypt: hashedPassword is not the hash of the given password")

/-- A hash read apart. -/
structure Hashed where
  /-- Everything before the cost: `$`, the version and `$`. -/
  version : Bytes
  cost : Nat
  salt : Bytes
  digest : Bytes
  deriving Repr

def costValue? (t : Bytes) : Option Int :=
  let digits := fun (s : Bytes) => if !s.isEmpty && s.all (fun c => 48 ≤ c && c ≤ 57) then some (Bytes.digitsValue s : Int) else none
  match t with
  | 43 :: rest => digits rest
  | 45 :: rest => (digits rest).map (- ·)
  | _ => digits t

/-- Read a hash apart. -/
def Hashed.parse (h : Bytes) : Except HashError Hashed :=
  if h.length < 59 then .error .tooShort
  else
    match h with
    | a :: b :: c :: rest =>
      if a ≠ 36 then .error (.badPrefix a)
      else if b > 50 then .error (.versionTooNew b)
      else
        let (version, afterVersion) := if c ≠ 36 then ([a, b, c] ++ rest.take 1, rest.drop 1) else ([a, b, c], rest)
        let costText := afterVersion.take 2
        match costValue? costText with
        | none => .error (.costSyntax costText)
        | some cost =>
          if cost < 4 ∨ cost > 31 then .error (.costRange cost)
          else
            let afterCost := afterVersion.drop 3
            .ok ⟨version, cost.toNat, afterCost.take 22, afterCost.drop 22⟩
    | _ => .error .tooShort

/-- Decode base-64 text of the bcrypt alphabet, padded to a multiple of four. -/
def base64Decode (t : Bytes) : Except HashError Bytes :=
  let padded := t ++ List.replicate (4 - t.length % 4) 61
  let value := fun (c : UInt8) => bcryptAlphabet.idxOf? c
  let rec go (pos : Nat) : Bytes → Except HashError Bytes
    | a :: b :: c :: d :: rest =>
      match value a, value b with
      | some x, some y =>
        let first := (x * 4 + y / 16).toUInt8
        if c == 61 then
          if d == 61 && rest.isEmpty then .ok [first]
          else .error (.saltSyntax (pos + 2))
        else
          match value c with
          | none => .error (.saltSyntax (pos + 2))
          | some z =>
            let second := (y % 16 * 16 + z / 4).toUInt8
            if d == 61 then
              if rest.isEmpty then .ok [first, second] else .error (.saltSyntax (pos + 3))
            else
              match value d with
              | none => .error (.saltSyntax (pos + 3))
              | some w => (go (pos + 4) rest).map fun r => first :: second :: (z % 4 * 64 + w).toUInt8 :: r
      | none, _ => .error (.saltSyntax pos)
      | _, none => .error (.saltSyntax (pos + 1))
    | [] => .ok []
    | _ => .error (.saltSyntax pos)
  go 0 padded

def magic : Bytes := Bytes.ofString "OrpheanBeholderScryDoubt"

def encrypt64 (c : Blowfish) (b : Bytes) : Bytes := Id.run do
  let mut x := b
  for _ in [0:64] do
    x := c.encryptBlock x
  return x

def digest (password : Bytes) (cost : Nat) (salt : Bytes) : Except HashError Bytes := do
  let rawSalt := (← base64Decode salt).toArray
  let key := (password ++ [0]).toArray
  let mut c := Blowfish.salted key rawSalt
  for _ in [0:Nat.pow 2 cost] do
    c := (c.expandKey key).expandKey rawSalt
  let data := encrypt64 c (magic.take 8) ++ encrypt64 c ((magic.drop 8).take 8) ++ encrypt64 c (magic.drop 16)
  return base64Encode (data.take 23)

def twoDigits (n : Nat) : Bytes := Bytes.ofString (if n < 10 then "0" ++ toString n else toString n)

def hashCost (h : Bytes) : Except HashError Nat := (Hashed.parse h).map (·.cost)

def compareHash (h password : Bytes) : Except HashError Unit := do
  let p ← Hashed.parse h
  let d ← digest password p.cost p.salt
  if p.digest.take 31 == d ∧ p.digest.length ≥ 31 then pure () else throw .mismatch

def fixedSalt : Bytes := base64Encode (List.replicate 16 0x5a)

def hashPassword (password : Bytes) (cost : Int) : Except HashError Bytes := do
  if password.length > 72 then throw .passwordTooLong
  let cost := if cost < 4 then 10 else cost
  if cost > 31 then throw (.costRange cost)
  let d ← digest password cost.toNat fixedSalt
  return Bytes.ofString "$2a$" ++ twoDigits cost.toNat ++ Bytes.ofString "$" ++ fixedSalt ++ d

end LineKv.Crypto
