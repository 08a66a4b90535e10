import LineKv.Store.Key

/-!
The calls a store answers, whatever keeps its data: reading, writing, removing and testing a key,
adding to a counter, listing keys by prefix, dropping a database, and closing. A store is a state
with a function that answers one call; `answers` runs a sequence of calls from one state.
-/

namespace LineKv.Store

/-- A call on a store. -/
inductive Call where
  | get (db key : Bytes)
  | set (db key value : Bytes)
  | delete (db key : Bytes)
  | exists_ (db key : Bytes)
  | incr (db key : Bytes) (delta : Int)
  | keys (db pfx : Bytes) (limit : Int)
  | flush (db : Bytes)
  | close
  deriving Repr, DecidableEq

/-- What a call answers. -/
inductive Answer where
  | value (v : Option Bytes)
  | stored
  | existed (b : Bool)
  | present (b : Bool)
  | counter (n : Int)
  | names (ks : List Bytes)
  | removed (n : Nat)
  | closed
  | failed (e : StoreError)
  deriving Repr, DecidableEq

def Answer.settle {σ α : Type} (s : σ) (r : Except StoreError α) (k : α → Answer × σ) : Answer × σ :=
  match r with
  | .ok a => k a
  | .error e => (.failed e, s)

/-- The answers to a sequence of calls, each made on the state the one before it left. -/
def answers {σ : Type} (perform : σ → Call → Answer × σ) : σ → List Call → List Answer
  | _, [] => []
  | s, c :: cs => (perform s c).1 :: answers perform (perform s c).2 cs

end LineKv.Store
