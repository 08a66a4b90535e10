import LineKv.Store.Call
import LineKv.Text.Decimal

/-!
The store over an embedded ordered key–value engine.
-/

namespace LineKv.Store

/-- The operations the store uses of its engine, over engine states `D`. -/
structure Engine (D : Type) where
  /-- A fresh, empty engine. -/
  fresh : D
  /-- The value stored under a key, read in a transaction. -/
  get : D → Bytes → Option Bytes
  /-- Store a value under a key. -/
  set : D → Bytes → Bytes → D
  /-- Remove a key. -/
  delete : D → Bytes → D
  /-- The keys an iterator visits when given a prefix, in the order it visits them. -/
  scan : D → Bytes → List Bytes
  /-- Remove every key with a prefix. -/
  dropPrefix : D → Bytes → D

/-- What the store relies on of its engine: a fresh engine is empty; a write, a removal and a
prefix drop change exactly the keys they name; and an iterator given a prefix visits exactly the
keys bound with that prefix, in ascending byte order, each once. -/
structure Engine.Lawful {D : Type} (E : Engine D) : Prop where
  get_fresh : ∀ k, E.get E.fresh k = none
  get_set : ∀ d k v k', E.get (E.set d k v) k' = if k' = k then some v else E.get d k'
  get_delete : ∀ d k k', E.get (E.delete d k) k' = if k' = k then none else E.get d k'
  get_dropPrefix : ∀ d p k, E.get (E.dropPrefix d p) k = if p <+: k then none else E.get d k
  scan_sorted : ∀ d p, (E.scan d p).Pairwise (· < ·)
  mem_scan : ∀ d p k, k ∈ E.scan d p ↔ p <+: k ∧ (E.get d k).isSome

def dbKey (db key : Bytes) : Bytes := db ++ 0 :: key

/-- The store: its engine and whether it has been closed. -/
structure Badger (D : Type) where
  data : D
  closed : Bool

namespace Badger

variable {D : Type} (E : Engine D)

def open_ : Badger D := ⟨E.fresh, false⟩

def guard (b : Badger D) (db key : Bytes) : Except StoreError Unit := do
  checkName db key
  if b.closed then .error .closed else .ok ()

def get (b : Badger D) (db key : Bytes) : Except StoreError (Option Bytes) := do
  b.guard db key
  return E.get b.data (dbKey db key)

def set (b : Badger D) (db key v : Bytes) : Except StoreError (Badger D) := do
  b.guard db key
  return { b with data := E.set b.data (dbKey db key) v }

def delete (b : Badger D) (db key : Bytes) : Except StoreError (Bool × Badger D) := do
  b.guard db key
  match E.get b.data (dbKey db key) with
  | none => return (false, b)
  | some _ => return (true, { b with data := E.delete b.data (dbKey db key) })

def exists_ (b : Badger D) (db key : Bytes) : Except StoreError Bool := do
  return (← get E b db key).isSome

/-- Add `delta` to the counter at a key: the new value. -/
def incr (b : Badger D) (db key : Bytes) (delta : Int) : Except StoreError (Int × Badger D) := do
  b.guard db key
  let cur ← match E.get b.data (dbKey db key) with
    | none => pure 0
    | some raw =>
      match Text.parseInt64? raw with
      | some v => pure v
      | none => throw (.notInteger key)
  let next := Text.wrap64 (cur + delta)
  return (next, { b with data := E.set b.data (dbKey db key) (Bytes.ofInt next) })

def keys (b : Badger D) (db pfx : Bytes) (limit : Int) : Except StoreError (List Bytes) := do
  checkDatabase db
  if b.closed then throw .closed
  let found := (E.scan b.data (dbKey db pfx)).map (·.drop (db.length + 1))
  return if limit > 0 then found.take limit.toNat else found

def flush (b : Badger D) (db : Bytes) : Except StoreError (Nat × Badger D) := do
  let ks ← keys E b db [] 0
  return (ks.length, { b with data := E.dropPrefix b.data (dbKey db []) })

def perform (b : Badger D) : Call → Answer × Badger D
  | .get db key => Answer.settle b (get E b db key) fun v => (.value v, b)
  | .set db key v => Answer.settle b (set E b db key v) fun b' => (.stored, b')
  | .delete db key => Answer.settle b (delete E b db key) fun r => (.existed r.1, r.2)
  | .exists_ db key => Answer.settle b (exists_ E b db key) fun x => (.present x, b)
  | .incr db key delta => Answer.settle b (incr E b db key delta) fun r => (.counter r.1, r.2)
  | .keys db pfx limit => Answer.settle b (keys E b db pfx limit) fun ks => (.names ks, b)
  | .flush db => Answer.settle b (flush E b db) fun r => (.removed r.1, r.2)
  | .close => (.closed, { b with closed := true })

end Badger

end LineKv.Store
