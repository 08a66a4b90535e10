import LineKv.Command.Descriptor

/-!
Command tables. Descriptors are registered into a builder under their trimmed, upper-cased names,
each name once; building seals the builder and yields the table, after which registration is
refused.
-/

namespace LineKv.Command

/-- The immutable table of descriptors, in registration order. -/
structure Table (H : Type) where
  items : List (Descriptor H)

/-- Descriptors being collected, and whether the table was built already. -/
structure Builder (H : Type) where
  items : List (Descriptor H)
  sealed : Bool

abbrev Fallback (H : Type) := List (Bytes × Descriptor H)

namespace Builder

variable {H : Type}

def empty : Builder H := ⟨[], false⟩

def register (b : Builder H) (d : Descriptor H) : Except TableError (Builder H) :=
  if b.sealed then .error .sealed
  else
    match d.check with
    | some e => .error e
    | none =>
      let d := { d with name := d.key }
      if b.items.any (·.name == d.name) then .error (.exists_ d.name)
      else .ok { b with items := b.items ++ [d] }

def build (b : Builder H) : Builder H × Table H := ({ b with sealed := true }, ⟨b.items⟩)

end Builder

namespace Table

variable {H : Type}

def lookup (t : Table H) (name : Bytes) : Option (Descriptor H) := t.items.find? (·.name == name)

def names (t : Table H) : List Bytes := Bytes.sort (t.items.map (·.name))

def size (t : Table H) : Nat := t.items.length

/-- Resolve an alias map against the table: each alias and target is trimmed and upper-cased; a
later alias of the same name replaces an earlier one. -/
def aliases (t : Table H) : List (Bytes × Bytes) → Except TableError (Fallback H)
  | [] => .ok []
  | (name, target) :: rest =>
    let a := Text.toUpper (Text.trimSpace name)
    let g := Text.toUpper (Text.trimSpace target)
    if (t.lookup a).isSome then .error (.aliasShadows a)
    else
      match t.lookup g with
      | none => .error (.aliasUnknown a g)
      | some d =>
        match t.aliases rest with
        | .error e => .error e
        | .ok fb => .ok (if fb.any (·.1 == a) then fb else (a, d) :: fb)

end Table

end LineKv.Command
