import LineKv.Store.Call
import LineKv.Text.Decimal

/-!
The key–value store: a finite map from a database name and a key to a value, kept as a list of
bindings with each name once. Every call checks its names first; after `close` every call with
well-formed names fails.
-/

namespace LineKv.Store

abbrev Name := Bytes × Bytes

/-- The store's contents and whether it has been closed. -/
structure Memory where
  bindings : List (Name × Bytes)
  closed : Bool
  deriving Repr, Inhabited

namespace Memory

def empty : Memory := ⟨[], false⟩

def find? (m : Memory) (n : Name) : Option Bytes := (m.bindings.find? (·.1 == n)).map (·.2)

def eraseName (bs : List (Name × Bytes)) (n : Name) : List (Name × Bytes) :=
  bs.filter (·.1 != n)

def bind (m : Memory) (n : Name) (v : Bytes) : Memory :=
  { m with bindings := eraseName m.bindings n ++ [(n, v)] }

def guard (m : Memory) (db key : Bytes) : Except StoreError Unit := do
  checkName db key
  if m.closed then .error .closed else .ok ()

def get (m : Memory) (db key : Bytes) : Except StoreError (Option Bytes) := do
  m.guard db key
  return m.find? (db, key)

def set (m : Memory) (db key v : Bytes) : Except StoreError Memory := do
  m.guard db key
  return m.bind (db, key) v

def delete (m : Memory) (db key : Bytes) : Except StoreError (Bool × Memory) := do
  m.guard db key
  return ((m.find? (db, key)).isSome, { m with bindings := eraseName m.bindings (db, key) })

def exists_ (m : Memory) (db key : Bytes) : Except StoreError Bool := do
  return (← m.get db key).isSome

/-- Add `delta` to the counter at a key: the new value. -/
def incr (m : Memory) (db key : Bytes) (delta : Int) : Except StoreError (Int × Memory) := do
  m.guard db key
  let cur ← match m.find? (db, key) with
    | none => pure 0
    | some raw =>
      match Text.parseInt64? raw with
      | some v => pure v
      | none => throw (.notInteger key)
  let next := Text.wrap64 (cur + delta)
  return (next, m.bind (db, key) (Bytes.ofInt next))

def keys (m : Memory) (db pfx : Bytes) (limit : Int) : Except StoreError (List Bytes) := do
  checkDatabase db
  if m.closed then throw .closed
  let ks := Bytes.sort ((m.bindings.filter fun b => b.1.1 == db && Bytes.startsWith b.1.2 pfx).map (·.1.2))
  return if limit > 0 then ks.take limit.toNat else ks

def flush (m : Memory) (db : Bytes) : Except StoreError (Nat × Memory) := do
  checkDatabase db
  if m.closed then throw .closed
  let (gone, kept) := m.bindings.partition (·.1.1 == db)
  return (gone.length, { m with bindings := kept })

/-- Close the store, dropping its contents. -/
def close (_ : Memory) : Memory := ⟨[], true⟩

def perform (m : Memory) : Call → Answer × Memory
  | .get db key => Answer.settle m (m.get db key) fun v => (.value v, m)
  | .set db key v => Answer.settle m (m.set db key v) fun m' => (.stored, m')
  | .delete db key => Answer.settle m (m.delete db key) fun r => (.existed r.1, r.2)
  | .exists_ db key => Answer.settle m (m.exists_ db key) fun b => (.present b, m)
  | .incr db key delta => Answer.settle m (m.incr db key delta) fun r => (.counter r.1, r.2)
  | .keys db pfx limit => Answer.settle m (m.keys db pfx limit) fun ks => (.names ks, m)
  | .flush db => Answer.settle m (m.flush db) fun r => (.removed r.1, r.2)
  | .close => (.closed, m.close)

end Memory

end LineKv.Store
