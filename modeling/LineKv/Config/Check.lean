import LineKv.Config.Bind
import LineKv.Config.Address
import LineKv.Config.Security
import LineKv.Text.Case
import LineKv.Fault

/-!
Checking settings once they are read. Text settings are tidied first: names, addresses and the
store backend lose surrounding space, the mode, backend and log level are lower-cased, and alias
names and targets are trimmed and upper-cased.
-/

namespace LineKv.Config

/-- Whether a setting counts as given: text not empty, a number not zero, a flag set, a list or
map present (even empty). -/
def Datum.isGiven : Datum → Bool
  | .text s => !s.isEmpty
  | .int i => i != 0
  | .float x => !x.isZero
  | .flag b => b
  | .span ns => ns != 0
  | .texts xs => xs.isSome
  | .textMap m => m.isSome
  | .record fs => !fs.isEmpty
  | .records xs => xs.isSome

def isAlnum (c : UInt8) : Bool := (48 ≤ c && c ≤ 57) || (65 ≤ c && c ≤ 90) || (97 ≤ c && c ≤ 122)

def Datum.count : Datum → Nat
  | .text s => (Utf8.pieces s).length
  | .texts xs => (xs.getD []).length
  | .textMap m => (m.getD []).length
  | .records xs => (xs.getD []).length
  | _ => 0

/-- Whether a setting satisfies a rule, given its record. -/
def Rule.holds (r : Rule) (d : Datum) (record : Datum) : Bool :=
  match r with
  | .required => d.isGiven
  | .alphanum => match d with
    | .text s => !s.isEmpty && s.all isAlnum
    | _ => false
  | .minItems n => d.count ≥ n
  | .gte n => match d with
    | .int i => i ≥ n
    | .float x => x.atLeast n
    | .span ns => ns ≥ n
    | other => (other.count : Int) ≥ n
  | .lte n => match d with
    | .int i => i ≤ n
    | .float x => x.atMost n
    | .span ns => ns ≤ n
    | other => (other.count : Int) ≤ n
  | .oneOf words => match d with
    | .text s => words.any fun w => Bytes.ofString w == s
    | .int i => words.any fun w => w == toString i
    | _ => false
  | .requiredIf field value =>
    if (record.field field).textOf == Bytes.ofString value then d.isGiven else true
  | .omitEmpty => true
  | .dive => true

def firstBroken (d : Datum) (record : Datum) : List Rule → Option Rule
  | [] => none
  | .omitEmpty :: rest => if d.isGiven then firstBroken d record rest else none
  | r :: rest => if r.holds d record then firstBroken d record rest else some r

def ruleReport (ns field tag : String) : String :=
  "Key: '" ++ ns ++ "' Error:Field validation for '" ++ field ++ "' failed on the '" ++ tag ++ "' tag"

/-- The reports of the fields of a record named `n` at namespace `ns`, nested records included
down to `depth` levels. -/
def recordReports : Nat → String → String → Datum → List String
  | 0, _, _, _ => []
  | depth + 1, n, ns, d =>
    (fieldsOf n).flatMap fun f =>
      let v := d.field f.name
      let here := ns ++ "." ++ f.name
      match firstBroken v d f.rules with
      | some r => [ruleReport here f.name r.tag]
      | none =>
        match f.ty with
        | .record m => recordReports depth m here v
        | .records m =>
          if f.rules.any (fun r => r.tag == "dive") then
            (v.itemsOf.zipIdx).flatMap fun (item, i) =>
              recordReports depth m (here ++ "[" ++ toString i ++ "]") item
          else []
        | _ => []

def Datum.mapText (d : Datum) (name : String) (f : Bytes → Bytes) : Datum :=
  d.setField name (.text (f (d.field name).textOf))

def Datum.mapField (d : Datum) (name : String) (f : Datum → Datum) : Datum :=
  d.setField name (f (d.field name))

/-- Tidy the text settings. -/
def tidy (d : Datum) : Datum :=
  let d := d.mapText "Name" Text.trimSpace
  let d := d.mapText "SecurityMode" normalizeMode
  let d := d.mapField "Storage" fun s => s.mapText "Backend" fun b => Text.toLower (Text.trimSpace b)
  let d := d.mapField "Logging" fun l => l.mapText "Level" fun v => Text.toLower (Text.trimSpace v)
  let d := d.mapField "Listeners" fun
    | .records (some items) =>
      .records (some (items.map fun fs =>
        fieldsOfDatum (((Datum.record fs).mapText "Name" Text.trimSpace).mapText "Addr" Text.trimSpace)))
    | other => other
  d.mapField "Aliases" fun
    | .textMap (some m) =>
      if m.isEmpty then .textMap (some m)
      else .textMap (some (m.foldl (fun acc (k, v) =>
        setEntry acc (Text.toUpper (Text.trimSpace k)) (Text.toUpper (Text.trimSpace v))) []))
    | other => other

def listenerTls (l : Datum) : ListenerTls :=
  let t := l.field "TLS"
  ⟨(t.field "Enabled").flagOf, (t.field "Mutual").flagOf, (t.field "CertFile").textOf,
    (t.field "KeyFile").textOf, (t.field "CAFile").textOf⟩

def addressFault (addr : Bytes) (e : AddressError) : Fault :=
  .of .invalidAddr (Bytes.ofString "config: invalid listen address: " ++ Text.quote addr ++
    Bytes.ofString ": " ++ addressMessage addr e)

/-- The first listener rule broken: a repeated name, an address that does not split, TLS
settings that do not suit the mode. -/
def listenerFault (mode : Bytes) : List Bytes → List (Nat × Datum) → Option Fault
  | _, [] => none
  | seen, (i, l) :: rest =>
    let name := (l.field "Name").textOf
    let addr := (l.field "Addr").textOf
    let label := Bytes.ofString ("listener[" ++ toString i ++ "] ") ++ Text.quote name
    if seen.contains name then
      some (.of .duplicateListener (Bytes.ofString "config: duplicate listener: " ++ Text.quote name))
    else
      match splitHostPort addr with
      | .error e => some ((addressFault addr e).wrap label)
      | .ok _ =>
        match checkListener mode (listenerTls l) with
        | some e => some ((SecurityError.toFault e).wrap label)
        | none => listenerFault mode (name :: seen) rest

def timeoutNames : List (String × String) :=
  [("keepalive_interval", "KeepAliveInterval"), ("ping_timeout", "PingTimeout"),
    ("registration_timeout", "RegistrationTimeout"), ("shutdown_grace", "ShutdownGrace"),
    ("housekeeping", "Housekeeping")]

/-- The first rule across fields that tidied settings break. -/
def crossFault (d : Datum) : Option Fault :=
  let mode := (d.field "SecurityMode").textOf
  if !(mode == Bytes.ofString "development" || mode == Bytes.ofString "production") then
    some (SecurityError.toFault (.invalidMode mode))
  else
    match listenerFault mode [] ((d.field "Listeners").itemsOf.zipIdx.map fun (l, i) => (i, l)) with
    | some f => some f
    | none =>
      let admin := ((d.field "Admin").field "Addr").textOf
      let adminFault := if admin.isEmpty then none
        else match splitHostPort admin with
          | .error e => some ((addressFault admin e).wrap (Bytes.ofString "admin"))
          | .ok _ => none
      match adminFault with
      | some f => some f
      | none =>
        let t := d.field "Timeouts"
        (timeoutNames.find? fun (_, n) => (t.field n).spanOf < 0).map fun (key, _) =>
          .plain (Bytes.ofString ("config invalid: timeouts." ++ key ++ " is negative"))

/-- Why a settings file could not be loaded: a failure it reports, or a panic of its reader. -/
inductive LoadFailure where
  | fault (f : Fault)
  | panicked (message : String)
  deriving Repr, Inhabited

/-- Read, tidy and check a settings file: the settings, or the first failure. -/
def loadSettings (text : Bytes) : Except LoadFailure Datum :=
  let parseFault := fun (m : String) => LoadFailure.fault (.plain (Bytes.ofString ("config parse failed: " ++ m)))
  match bindSettings text with
  | .error (.decode m) => .error (parseFault ("toml: " ++ m))
  | .error (.bare m) => .error (parseFault m)
  | .error (.panicked m) => .error (.panicked m)
  | .ok d =>
    let d := tidy d
    match recordReports schemaDepth "Config" "Config" d with
    | [] =>
      match crossFault d with
      | some f => .error (.fault f)
      | none => .ok d
    | reports => .error (.fault (.plain (Bytes.ofString ("config invalid: " ++ "\n".intercalate reports))))

end LineKv.Config
