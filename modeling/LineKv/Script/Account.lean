import LineKv.Script.Value
import LineKv.Account.File

/-!
Scripts over accounts: reading an accounts file, looking names up and checking logins, and hashing
new passwords.
-/

namespace LineKv.Script

def accountValue (a : Account) : Value :=
  .obj [("name", .str a.name), ("caps", .str a.capabilities), ("admin", .bool a.admin),
    ("disabled", .bool a.disabled)]

/-- Read an accounts file, then answer its lookups and logins. -/
def runAccounts (req : Value) : Value :=
  match Accounts.parse "parse accounts" (String.fromUTF8! (ByteArray.mk (req.text "toml").toArray)) with
  | .error e => faultValue e.toFault
  | .ok accts =>
    let sorted := accts.entries.map (·.2) |>.mergeSort fun a b => !Bytes.lt b.name a.name
    .obj [("len", .ofNat accts.size), ("accounts", .arr (sorted.map accountValue)),
      ("lookup", .arr ((req.texts "lookup").map fun n =>
        .ofOption (fun (a : Account) => Value.str a.name) (accts.lookup n))),
      ("verify", .arr ((req.list "verify").map fun v =>
        match accts.verify bcrypt (v.text "name") (v.text "password") with
        | .ok a => .obj [("name", .str a.name), ("caps", .str a.capabilities), ("admin", .bool a.admin)]
        | .error e => faultValue e.toFault))]

def runHashPassword (req : Value) : Value :=
  let password := req.text "password"
  match hashNewPassword bcrypt password (req.int "cost" 4) with
  | .error f => faultValue f
  | .ok h =>
    .obj [("prefix", .str (h.take 7)), ("len", .ofNat h.length),
      ("verifies", .bool ((bcrypt.compare h password).toBool))]

end LineKv.Script
