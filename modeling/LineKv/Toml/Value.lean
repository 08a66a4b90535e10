/-!
Values of a TOML document as the tree builder holds them. A table maps keys to values; an array
written in brackets holds any values, while an array made by `[[…]]` headers holds only tables,
and the two are kept apart because only the latter may grow by later headers.
-/

namespace LineKv.Toml

/-- A TOML value. -/
inductive Value where
  | str (s : String)
  | int (i : Int)
  | float (text : String)
  | bool (b : Bool)
  | datetime (text : String)
  | array (items : List Value)
  | tables (items : List (List (String × Value)))
  | table (entries : List (String × Value))
  deriving Inhabited

abbrev Table := List (String × Value)

def Table.get? (t : Table) (k : String) : Option Value := (t.find? (·.1 == k)).map (·.2)

def Table.set (t : Table) (k : String) (v : Value) : Table :=
  if t.any (·.1 == k) then t.map fun e => if e.1 == k then (k, v) else e else t ++ [(k, v)]

def Value.kindName : Value → String
  | .str _ => "string" | .int _ => "int64" | .float _ => "float64" | .bool _ => "bool"
  | .datetime _ => "time.Time" | .array _ => "[]any" | .tables _ => "[]map[string]any"
  | .table _ => "map[string]any"

end LineKv.Toml
