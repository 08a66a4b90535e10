import LineKv.Store.Memory
import LineKv.Account.Basic
import LineKv.Line.Reply

/-!
The blocking part of an offloaded command (a store call or a password check) and what it found. A
worker, or the loop itself when there is no pool, runs the work against the store and the accounts
as they are then; the loop answers from what it found later.
-/

namespace LineKv.Server

open Line

def flag (b : Bool) : Bytes := Bytes.ofString (if b then "1" else "0")

/-- The work of an offloaded command, with what it was dispatched with. -/
inductive Work where
  | set (db key value : Bytes)
  | get (db key : Bytes)
  | del (db key : Bytes)
  | exists_ (db key : Bytes)
  | incr (db key : Bytes) (delta : Int)
  | keys (db pattern : Bytes) (limit : Nat)
  | flush (db : Bytes)
  | verify (name password : Bytes)
  deriving Repr, Inhabited

/-- What a piece of work found, for the loop to answer with. -/
inductive Finish where
  /-- The store call went through: the replies (code, parameters, text), in order. -/
  | replies (rs : List (Code × List Bytes × Bytes))
  /-- The store call failed. -/
  | storeFailed (name : String) (key : Bytes) (e : Store.StoreError)
  /-- The account a password check found, if the login is good. -/
  | login (acct : Option Account)
  deriving Repr, Inhabited

/-- An offloaded command: its connection, its name and its work. -/
structure PoolJob where
  conn : Bytes
  name : String
  work : Work
  deriving Repr, Inhabited

namespace Work

/-- Run the work against a store and the accounts (none when logins are off): what it found, and
the store after it. -/
def run (hasher : Hasher) (store : Store.Memory) (accounts : Option Accounts) : Work → Finish × Store.Memory
  | .set db k v =>
    match store.set db k v with
    | .error e => (.storeFailed "SET" k e, store)
    | .ok m => (.replies [(Code.ok, [Bytes.ofString "SET", k], Bytes.ofString "OK")], m)
  | .get db k =>
    match store.get db k with
    | .error e => (.storeFailed "GET" k e, store)
    | .ok none => (.replies [(Code.nil, [k], Bytes.ofString "nil")], store)
    | .ok (some v) => (.replies [(Code.value, [k], v)], store)
  | .del db k =>
    match store.delete db k with
    | .error e => (.storeFailed "DEL" k e, store)
    | .ok (existed, m) => (.replies [(Code.value, [k], flag existed)], m)
  | .exists_ db k =>
    match store.exists_ db k with
    | .error e => (.storeFailed "EXISTS" k e, store)
    | .ok found => (.replies [(Code.value, [k], flag found)], store)
  | .incr db k delta =>
    match store.incr db k delta with
    | .error e => (.storeFailed "INCR" k e, store)
    | .ok (n, m) => (.replies [(Code.value, [k], Bytes.ofInt n)], m)
  | .keys db pat limit =>
    match store.keys db pat limit with
    | .error e => (.storeFailed "KEYS" pat e, store)
    | .ok ks =>
      (.replies (ks.map (fun k => (Code.item, [db], k)) ++
        [(Code.done, [Bytes.ofString "KEYS", Bytes.ofNat ks.length], Bytes.ofString "End of KEYS")]), store)
  | .flush db =>
    match store.flush db with
    | .error e => (.storeFailed "FLUSHDB" db e, store)
    | .ok (n, m) => (.replies [(Code.value, [Bytes.ofString "FLUSHDB", db], Bytes.ofNat n)], m)
  | .verify name password =>
    (.login ((accounts.getD Accounts.empty).verify hasher name password).toOption, store)

end Work

end LineKv.Server
