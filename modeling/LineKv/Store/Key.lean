import LineKv.Fault
import LineKv.Text.Quoted

/-!
Names in the store. A key is 1 to 512 bytes without a NUL; a database name is 1 to 64 letters,
digits, `-` and `_`.
-/

namespace LineKv.Store

def maxKeyLen : Nat := 512

def validKey (key : Bytes) : Bool :=
  !key.isEmpty && key.length ≤ maxKeyLen && !key.contains 0

def isDatabaseByte (c : UInt8) : Bool :=
  (65 ≤ c && c ≤ 90) || (97 ≤ c && c ≤ 122) || (48 ≤ c && c ≤ 57) || c == 45 || c == 95

def validDatabase (db : Bytes) : Bool :=
  !db.isEmpty && db.length ≤ 64 && db.all isDatabaseByte

/-- Why a store call failed. -/
inductive StoreError where
  | invalidKey (key : Bytes)
  | invalidDatabase (db : Bytes)
  | notInteger (key : Bytes)
  | closed
  deriving Repr, DecidableEq

def StoreError.toFault : StoreError → Fault
  | .invalidKey k => .of .invalidKey (Bytes.ofString "storage: invalid key: " ++ Text.quote k)
  | .invalidDatabase d =>
    .of .invalidDatabase (Bytes.ofString "storage: invalid database name: " ++ Text.quote d)
  | .notInteger k => .of .notInteger (Bytes.ofString "storage: value is not an integer: " ++ Text.quote k)
  | .closed => .of .storeClosed (Bytes.ofString "storage: store closed")

def checkDatabase (db : Bytes) : Except StoreError Unit :=
  if validDatabase db then .ok () else .error (.invalidDatabase db)

def checkName (db key : Bytes) : Except StoreError Unit :=
  if !validDatabase db then .error (.invalidDatabase db)
  else if !validKey key then .error (.invalidKey key)
  else .ok ()

end LineKv.Store
