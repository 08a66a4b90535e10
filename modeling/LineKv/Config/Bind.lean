import LineKv.Config.Schema
import LineKv.Config.Span
import LineKv.Toml.Seen
import LineKv.Toml.Temporal
import LineKv.Text.Space

/-!
Reading a settings file into the schema: the file's expressions are applied in order to the
default settings, each checked against the keys seen first; the first failure stops the reading,
with the field a value of the wrong kind was meant for.
-/

namespace LineKv.Config

open Toml

/-- Why a settings file could not be read. -/
inductive BindError where
  /-- A decoding failure, reported after `toml: `. -/
  | decode (message : String)
  /-- A failure reported as it is. -/
  | bare (message : String)
  /-- The reader panicked with this message. -/
  | panicked (message : String)
  deriving Repr, Inhabited

/-- The field a value is being read into, as type errors name it. -/
structure Slot where
  record : String
  field : String
  ty : Ty
  deriving Repr

def mismatch (what : String) (ty : Ty) : Option Slot → BindError
  | some s =>
    .decode ("cannot decode TOML " ++ what ++ " into struct field config." ++ s.record ++ "." ++ s.field ++
      " of type " ++ s.ty.typeName)
  | none => .decode ("cannot decode TOML " ++ what ++ " into a Go value of type " ++ ty.typeName)

def decodeFailure {α : Type} : Except String α → Except BindError α
  | .ok a => .ok a
  | .error e => .error (.decode e)

def findField (record : String) (key : Bytes) : Option FieldSpec :=
  let k := Text.toLower key
  (fieldsOf record).find? fun f => Bytes.ofString f.key == key || Bytes.ofString f.key == k

def setEntry (m : List (Bytes × Bytes)) (k v : Bytes) : List (Bytes × Bytes) :=
  if m.any (·.1 == k) then m.map fun (a, b) => if a == k then (a, v) else (a, b) else m ++ [(k, v)]

def fieldsOfDatum : Datum → List (String × Datum)
  | .record fs => fs
  | _ => []

def storeTemporal {α : Type} (text : Bytes) (ty : Ty) : Except BindError α :=
  let kind := Temporal.ofText text
  match Temporal.check text kind with
  | .error e => .error (.decode e)
  | .ok () =>
    .error (.panicked ("reflect.Set: value of type " ++ kind.typeName ++ " is not assignable to type " ++
      ty.typeName))

mutual

/-- Read a value into a setting of type `ty` that holds `d`; the slot as it stands afterwards. -/
def bindTerm : Nat → Term → Ty → Datum → Option Slot → Except BindError (Datum × Option Slot)
  | 0, _, _, d, slot => .ok (d, slot)
  | fuel + 1, t, ty, d, slot =>
    if ty == .span then
      match parseSpan (Text.trimSpace t.data) with
      | .ok ns => .ok (.span ns, slot)
      | .error e => .error (.decode e)
    else
      match t with
      | .str s =>
        match ty with
        | .text _ => .ok (.text s, slot)
        | _ => .error (mismatch "string" ty slot)
      | .int text =>
        if ty == .float then
          match Number.readFloat text with
          | .ok x => .ok (.float x, slot)
          | .error e => .error (.decode e)
        else
          match Number.readInteger text with
          | .error e => .error (.decode e)
          | .ok i => if ty == .int then .ok (.int i, slot) else .error (mismatch "integer" ty slot)
      | .float text =>
        match Number.readFloat text with
        | .error e => .error (.decode e)
        | .ok x =>
          if ty == .float then .ok (.float x, slot)
          else .error (.decode ("float cannot be assigned to " ++ ty.kindName))
      | .bool b =>
        if ty == .flag then .ok (.flag b, slot)
        else .error (.decode ("cannot assign boolean to a " ++ (if b then "true" else "false")))
      | .datetime text => storeTemporal text ty
      | .array items =>
        match ty with
        | .texts =>
          match bindItems fuel items (.text "string") slot [] with
          | .ok (vs, slot) => .ok (.texts (some (vs.map Datum.textOf)), slot)
          | .error e => .error e
        | .records n =>
          match bindItems fuel items (.record n) slot [] with
          | .ok (vs, slot) => .ok (.records (some (vs.map fieldsOfDatum)), slot)
          | .error e => .error e
        | _ => .error (mismatch "array" ty slot)
      | .inline entries =>
        match ty with
        | .record _ => bindEntries fuel ty entries d slot
        | .textMap =>
          let start := match d with
            | .textMap (some m) => Datum.textMap (some m)
            | _ => .textMap (some [])
          bindEntries fuel ty entries start slot
        | _ => .error (.decode ("cannot store inline table in Go type " ++ ty.kindName))

def bindItems : Nat → List Term → Ty → Option Slot → List Datum →
    Except BindError (List Datum × Option Slot)
  | 0, _, _, slot, acc => .ok (acc.reverse, slot)
  | _ + 1, [], _, slot, acc => .ok (acc.reverse, slot)
  | fuel + 1, t :: rest, ty, slot, acc =>
    match bindTerm fuel t ty (zeroOf schemaDepth ty) slot with
    | .ok (v, slot) => bindItems fuel rest ty slot (v :: acc)
    | .error e => .error e

def bindEntries : Nat → Ty → List (List Bytes × Term) → Datum → Option Slot →
    Except BindError (Datum × Option Slot)
  | 0, _, _, d, slot => .ok (d, slot)
  | _ + 1, _, [], d, slot => .ok (d, slot)
  | fuel + 1, ty, (k, t) :: rest, d, slot =>
    match assign fuel ty d k t slot with
    | .ok (d, slot) => bindEntries fuel ty rest d slot
    | .error e => .error e

/-- Set the setting a key names below `d` (of type `ty`) to a value. Reaching a record field
makes it the slot; once the field is set the slot is empty again. A key part below a value that
is no record or map fails. -/
def assign : Nat → Ty → Datum → List Bytes → Term → Option Slot →
    Except BindError (Datum × Option Slot)
  | 0, _, d, _, _, slot => .ok (d, slot)
  | fuel + 1, .record n, d, k :: ks, t, slot =>
    match findField n k with
    | none => .ok (d, slot)
    | some f =>
      let here := some ⟨n, f.name, f.ty⟩
      let child := d.field f.name
      let r := if ks.isEmpty then bindTerm fuel t f.ty child here else assign fuel f.ty child ks t here
      match r with
      | .ok (child, _) => .ok (d.setField f.name child, none)
      | .error e => .error e
  | fuel + 1, .textMap, d, [k], t, slot =>
    match bindTerm fuel t (.text "string") (.text []) slot with
    | .ok (v, slot) =>
      let m := match d with
        | .textMap (some m) => m
        | _ => []
      .ok (.textMap (some (setEntry m k v.textOf)), slot)
    | .error e => .error e
  | _ + 1, .textMap, _, _ :: _, _, _ => .error (.bare "unhandled kv part: string")
  | _ + 1, .span, d, _, _, slot => .ok (d, slot)
  | _ + 1, _, d, [], _, slot => .ok (d, slot)
  | _ + 1, ty, _, _ :: _, _, _ => .error (.bare ("unhandled kv part: " ++ ty.kindName))

end

mutual

/-- Whether reading a value into a setting of type `ty` meets a key that names no field. -/
def termMisses : Nat → Ty → Term → Bool
  | 0, _, _ => false
  | fuel + 1, ty, t =>
    if ty == .span then false
    else
      match t, ty with
      | .array items, .records n => itemsMiss fuel (.record n) items
      | .inline entries, .record _ => entriesMiss fuel ty entries
      | .inline entries, .textMap => entriesMiss fuel ty entries
      | _, _ => false

def itemsMiss : Nat → Ty → List Term → Bool
  | 0, _, _ => false
  | _ + 1, _, [] => false
  | fuel + 1, ty, t :: rest => termMisses fuel ty t || itemsMiss fuel ty rest

def entriesMiss : Nat → Ty → List (List Bytes × Term) → Bool
  | 0, _, _ => false
  | _ + 1, _, [] => false
  | fuel + 1, ty, (k, t) :: rest => keyMisses fuel ty k t || entriesMiss fuel ty rest

def keyMisses : Nat → Ty → List Bytes → Term → Bool
  | 0, _, _, _ => false
  | fuel + 1, .record n, k :: ks, t =>
    match findField n k with
    | none => true
    | some f => if ks.isEmpty then termMisses fuel f.ty t else keyMisses fuel f.ty ks t
  | fuel + 1, .textMap, [_], t => termMisses fuel (.text "string") t
  | _ + 1, .span, _ :: _, _ => true
  | _ + 1, _, _, _ => false

end

/-- A step from a setting to one inside it: a record field, the last item of a list, or a map
entry. -/
inductive Step where
  | field (name : String)
  | last
  | entry (key : Bytes)
  deriving Repr

/-- The type a path of steps leads to from `ty`. -/
def Ty.along : Ty → List Step → Ty
  | ty, [] => ty
  | .record n, .field name :: rest =>
    match (fieldsOf n).find? (·.name == name) with
    | some f => f.ty.along rest
    | none => .record ""
  | .records n, .last :: rest => (Ty.record n).along rest
  | .texts, .last :: rest => (Ty.text "string").along rest
  | .textMap, .entry _ :: rest => (Ty.text "string").along rest
  | ty, _ :: _ => ty

/-- Change the setting a path of steps leads to; a missing map, or map entry, is made empty. -/
def Datum.modifyAt {α : Type} (d : Datum) :
    List Step → (Datum → Except BindError (Datum × α)) → Except BindError (Datum × α)
  | [], f => f d
  | .field name :: rest, f => do
    let (v, a) ← (d.field name).modifyAt rest f
    pure (d.setField name v, a)
  | .last :: rest, f =>
    match d with
    | .records (some items) =>
      match items.getLast? with
      | some last => do
        let (v, a) ← (Datum.record last).modifyAt rest f
        pure (.records (some (items.dropLast ++ [fieldsOfDatum v])), a)
      | none => .error (.decode "cannot store a table in a slice")
    | .texts (some items) =>
      match items.getLast? with
      | some last => do
        let (v, a) ← (Datum.text last).modifyAt rest f
        pure (.texts (some (items.dropLast ++ [v.textOf])), a)
      | none => .error (.decode "cannot store a table in a slice")
    | _ => .error (.decode "cannot store a table in a slice")
  | .entry k :: rest, f =>
    let m := match d with
      | .textMap (some m) => m
      | _ => []
    let cur := ((m.find? (·.1 == k)).map (·.2)).getD []
    do
      let (v, a) ← (Datum.text cur).modifyAt rest f
      pure (.textMap (some (setEntry m k v.textOf)), a)

/-- Where a header leads: the steps to the table its pairs go to, or nowhere when a key part
names no field; with the slot of the last record field passed. -/
inductive Landing where
  | skip
  | reached (steps : List Step) (slot : Option Slot)
  /-- The list at these steps, of this type, gets a new item. -/
  | append (steps : List Step) (ty : Ty) (slot : Option Slot)

/-- Walk a `[t]` header from a setting of type `ty` holding `d`: a list is entered at its last
item before anything else. -/
def tableWalk : Nat → Ty → Datum → List Bytes → List Step → Option Slot → Except BindError Landing
  | 0, _, _, _, _, _ => .ok .skip
  | fuel + 1, ty, d, keys, steps, slot =>
    let lastOf := fun (items : List Datum) (elemTy : Ty) =>
      match items.getLast? with
      | some x => tableWalk fuel elemTy x keys (steps ++ [.last]) slot
      | none => .error (.decode "cannot store a table in a slice")
    match ty, d with
    | .records n, .records (some items) => lastOf (items.map Datum.record) (.record n)
    | .records _, _ => .error (.decode "cannot store a table in a slice")
    | .texts, .texts (some items) => lastOf (items.map Datum.text) (.text "string")
    | .texts, _ => .error (.decode "cannot store a table in a slice")
    | _, _ =>
      match keys with
      | [] => .ok (.reached steps slot)
      | k :: ks =>
        match ty with
        | .record n =>
          match findField n k with
          | none => .ok .skip
          | some f => tableWalk fuel f.ty (d.field f.name) ks (steps ++ [.field f.name]) (some ⟨n, f.name, f.ty⟩)
        | .textMap =>
          let cur := match d with
            | .textMap (some m) => ((m.find? (·.1 == k)).map (·.2)).getD []
            | _ => []
          tableWalk fuel (.text "string") (.text cur) ks (steps ++ [.entry k]) slot
        | .span => .ok .skip
        | ty => .error (.panicked ("unhandled part: " ++ ty.kindName))

/-- Walk a `[[t]]` header from a setting of type `ty` holding `d`, the key parts still to go being
`k :: ks`: the last part must name a list. -/
def arrayWalk : Nat → Ty → Datum → Bytes → List Bytes → List Step → Option Slot →
    Except BindError Landing
  | 0, _, _, _, _, _, _ => .ok .skip
  | fuel + 1, ty, d, k, ks, steps, slot =>
    let enter := fun (cty : Ty) (cd : Datum) (csteps : List Step) (cslot : Option Slot) =>
      match ks with
      | [] =>
        match cty with
        | .records _ | .texts => Except.ok (Landing.append csteps cty cslot)
        | _ => .error (mismatch "array table" cty cslot)
      | k' :: ks' =>
        match cty, cd with
        | .records n, .records (some items) =>
          match items.getLast? with
          | some x => arrayWalk fuel (.record n) (.record x) k' ks' (csteps ++ [.last]) cslot
          | none => .error (.panicked "reflect: slice index out of range")
        | .records _, _ => .error (.panicked "reflect: slice index out of range")
        | .texts, .texts (some items) =>
          match items.getLast? with
          | some x => arrayWalk fuel (.text "string") (.text x) k' ks' (csteps ++ [.last]) cslot
          | none => .error (.panicked "reflect: slice index out of range")
        | .texts, _ => .error (.panicked "reflect: slice index out of range")
        | _, _ => arrayWalk fuel cty cd k' ks' csteps cslot
    match ty with
    | .record n =>
      match findField n k with
      | none => .ok .skip
      | some f => enter f.ty (d.field f.name) (steps ++ [.field f.name]) (some ⟨n, f.name, f.ty⟩)
    | .textMap =>
      let cur := match d with
        | .textMap (some m) => ((m.find? (·.1 == k)).map (·.2)).getD []
        | _ => []
      enter (.text "string") (.text cur) (steps ++ [.entry k]) slot
    | .span => .ok .skip
    | ty => .error (.panicked ("unhandled part: " ++ ty.kindName))

/-- The state of reading a settings file. -/
structure Binder where
  settings : Datum
  /-- The steps from the top to the current table. -/
  current : List Step
  /-- Pairs are passed over until the next header: the header named no field, or a pair before
  any header met a key naming none. -/
  skipping : Bool
  seen : Seen
  slot : Option Slot
  /-- Steps a value may take to read: one per byte of the document is always enough. -/
  fuel : Nat

def Binder.open (b : Binder) (steps : List Step) : Except BindError Binder := do
  let (settings, ()) ← b.settings.modifyAt steps fun d => .ok (d, ())
  return { b with settings := settings }

/-- Apply one expression. -/
def Binder.apply (b : Binder) (e : Expr) : Except BindError Binder :=
  match e with
  | .keyValue key t =>
    if b.skipping then .ok b
    else do
      let (_, seen) ← decodeFailure (b.seen.check e)
      let ty := (Ty.record "Config").along b.current
      let (settings, slot) ← b.settings.modifyAt b.current fun d => assign b.fuel ty d key t b.slot
      let skipping := b.current.isEmpty && keyMisses b.fuel ty key t
      return { b with settings := settings, seen := seen, slot := slot, skipping := skipping }
  | .table key => do
    let (_, seen) ← decodeFailure (b.seen.check e)
    let b := { b with seen := seen, skipping := false }
    match ← tableWalk b.fuel (.record "Config") b.settings key [] none with
    | .reached steps slot =>
      let b ← b.open steps
      return { b with current := steps, slot := slot }
    | _ => return { b with skipping := true, slot := none }
  | .arrayTable key => do
    let (first, seen) ← decodeFailure (b.seen.check e)
    let b := { b with seen := seen, skipping := false }
    match key with
    | [] => return { b with skipping := true, slot := none }
    | k :: ks =>
      match ← arrayWalk b.fuel (.record "Config") b.settings k ks [] none with
      | .append steps ty slot =>
        let fresh := zeroOf schemaDepth (match ty with
          | .records n => .record n
          | _ => .text "string")
        let (settings, ()) ← b.settings.modifyAt steps fun d =>
          match d with
          | .records items =>
            let items := if first then [] else items.getD []
            .ok (.records (some (items ++ [fieldsOfDatum fresh])), ())
          | .texts items =>
            let items := if first then [] else items.getD []
            .ok (.texts (some (items ++ [[]])), ())
          | d => .ok (d, ())
        return { b with settings := settings, current := steps ++ [.last], slot := slot }
      | _ => return { b with skipping := true, slot := none }

def Binder.applyAll (b : Binder) : List Expr → Except BindError Binder
  | [] => .ok b
  | e :: rest =>
    match b.apply e with
    | .ok b => b.applyAll rest
    | .error err => .error err

def bindSettings (text : Bytes) : Except BindError Datum :=
  let (exprs, syntaxError) := readStream text
  let start : Binder := ⟨defaultSettings, [], false, Seen.empty, none, text.length + 1⟩
  match start.applyAll exprs with
  | .error e => .error e
  | .ok b =>
    match syntaxError with
    | some e => .error (.decode e)
    | none => .ok b.settings

end LineKv.Config
