import LineKv.Toml.Stream

/-!
Which keys a stream-read document has defined, and how, so that a key is defined once and a table
is opened by a header once. Every key path seen is recorded with its kind (a value, a table, an
array of tables) and whether a header opened it.
-/

namespace LineKv.Toml

/-- What a key was defined as. -/
inductive KeyKind where
  | value
  | table
  | arrayTable
  deriving DecidableEq, Repr

def KeyKind.name : KeyKind → String
  | .value => "value"
  | .table => "table"
  | .arrayTable => "array table"

/-- A key path seen, its kind, and whether a header opened it. -/
structure SeenKey where
  path : List Bytes
  kind : KeyKind
  explicit : Bool
  deriving Repr

/-- The keys seen so far and the path of the table the last header opened. -/
structure Seen where
  keys : List SeenKey
  current : List Bytes
  deriving Repr, Inhabited

namespace Seen

def empty : Seen := ⟨[], []⟩

def find? (s : Seen) (path : List Bytes) : Option SeenKey := s.keys.find? (·.path == path)

def add (s : Seen) (path : List Bytes) (kind : KeyKind) (explicit : Bool) : Seen :=
  { s with keys := s.keys ++ [⟨path, kind, explicit⟩] }

def modify (s : Seen) (path : List Bytes) (f : SeenKey → SeenKey) : Seen :=
  { s with keys := s.keys.map fun k => if k.path == path then f k else k }

def below (top path : List Bytes) : Bool := top.isPrefixOf path && top.length < path.length

def clear (s : Seen) (top : List Bytes) : Seen := { s with keys := s.keys.filter (!below top ·.path) }

def markOpened (s : Seen) (top : List Bytes) : Seen :=
  { s with keys := s.keys.map fun k =>
      if below top k.path && k.kind == .table then { k with explicit := true } else k }

def partText (k : Bytes) : String := String.fromUTF8! (ByteArray.mk k.toArray)

def enter (s : Seen) : List Bytes → List Bytes → Except String (Seen × List Bytes)
  | parent, [] => .ok (s, parent)
  | parent, k :: ks =>
    let path := parent ++ [k]
    match s.find? path with
    | none => enter (s.add path .table false) path ks
    | some e =>
      if e.kind == .value then .error ("expected " ++ partText k ++ " to be a table, not a " ++ e.kind.name)
      else enter s path ks

/-- Check a pair's key below `parent`, marking its end a value. -/
def pairKey (s : Seen) : List Bytes → List Bytes → Except String Seen
  | _, [] => .ok s
  | parent, [k] =>
    let path := parent ++ [k]
    match s.find? path with
    | some _ => .error ("key " ++ partText k ++ " is already defined")
    | none => .ok (s.add path .value false)
  | parent, k :: ks =>
    let path := parent ++ [k]
    match s.find? path with
    | none => pairKey (s.add path .table false) path ks
    | some e =>
      if e.kind != .table then .error ("expected " ++ partText k ++ " to be a table, not a " ++ e.kind.name)
      else if e.explicit then
        .error ("cannot redefine table " ++ partText k ++ " that has already been explicitly defined")
      else pairKey s path ks

/-- Check the inline tables within a value, each on its own. -/
def inner : Term → Except String Unit
  | .inline entries => do
    let _ ← entries.foldlM (fun s e => do
        let s ← pairKey s [] e.1
        inner e.2
        pure s) empty
    pure ()
  | .array items => items.attach.forM fun ⟨v, _⟩ => inner v
  | _ => .ok ()
termination_by t => sizeOf t
decreasing_by
  all_goals
    rename_i h
    have := List.sizeOf_lt_of_mem h
    simp only [Term.inline.sizeOf_spec, Term.array.sizeOf_spec]
  · cases e
    simp_all
    omega
  · omega

def pair (s : Seen) (key : List Bytes) (v : Term) : Except String Seen := do
  let s ← pairKey s s.current key
  inner v
  return s

/-- Check a `[table]` header and make it current. -/
def table (s : Seen) (key : List Bytes) : Except String Seen := do
  let s := s.markOpened s.current
  let (s, parent) ← s.enter [] key.dropLast
  match key.getLast? with
  | none => return s
  | some k =>
    let path := parent ++ [k]
    match s.find? path with
    | some e =>
      if e.kind != .table then throw ("key " ++ partText k ++ " should be a table, not a " ++ e.kind.name)
      else if e.explicit then throw ("table " ++ partText k ++ " already exists")
      else return { (s.modify path fun e => { e with explicit := true }) with current := path }
    | none => return { (s.add path .table true) with current := path }

/-- Check a `[[table]]` header and make it current: whether this is its first element. -/
def arrayTable (s : Seen) (key : List Bytes) : Except String (Bool × Seen) := do
  let s := s.markOpened s.current
  let (s, parent) ← s.enter [] key.dropLast
  match key.getLast? with
  | none => return (false, s)
  | some k =>
    let path := parent ++ [k]
    match s.find? path with
    | some e =>
      if e.kind != .arrayTable then
        throw ("key " ++ partText k ++ " already exists as a " ++ e.kind.name ++ ",  but should be an array table")
      else return (false, { (s.clear path) with current := path })
    | none => return (true, { (s.add path .arrayTable true) with current := path })

def check (s : Seen) : Expr → Except String (Bool × Seen)
  | .keyValue k v => do return (false, ← s.pair k v)
  | .table k => do return (false, ← s.table k)
  | .arrayTable k => s.arrayTable k

end Seen

end LineKv.Toml
