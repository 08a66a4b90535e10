import LineKv.Toml.Number

/-!
The shape of the daemon's settings file. Settings are grouped in records; each field has the key
it is written under, the name it is reported by, a type and the rules its value must satisfy.
Records refer to other records by name, so the schema is a flat catalogue (`fieldsOf`).
-/

namespace LineKv.Config

/-- The type of a setting. -/
inductive Ty where
  /-- Text; the name is the type's name in reports. -/
  | text (name : String)
  | int
  | float
  | flag
  /-- A span of time, written as text such as `90s`. -/
  | span
  | texts
  | textMap
  | record (name : String)
  | records (name : String)
  deriving DecidableEq, Repr, Inhabited

/-- The type's full name, as reports show it. -/
def Ty.typeName : Ty → String
  | .text n => n
  | .int => "int"
  | .float => "float64"
  | .flag => "bool"
  | .span => "config.Duration"
  | .texts => "[]string"
  | .textMap => "map[string]string"
  | .record n => "config." ++ n
  | .records n => "[]config." ++ n

/-- The kind of the type (what it is made of), as reports show it. -/
def Ty.kindName : Ty → String
  | .text _ => "string"
  | .int => "int"
  | .float => "float64"
  | .flag => "bool"
  | .span => "struct"
  | .texts => "slice"
  | .textMap => "map"
  | .record _ => "struct"
  | .records _ => "slice"

/-- A rule a setting must satisfy, named by its tag in reports. -/
inductive Rule where
  /-- Given: text not empty, a number not zero, a list or map present. -/
  | required
  /-- Only ASCII letters and digits, at least one. -/
  | alphanum
  /-- At least this many items. -/
  | minItems (n : Nat)
  | gte (n : Int)
  | lte (n : Int)
  | oneOf (words : List String)
  /-- Given whenever the sibling field holds the value. -/
  | requiredIf (field : String) (value : String)
  /-- An empty value passes the rules after this one. -/
  | omitEmpty
  /-- Each item of the list is checked as a record. -/
  | dive
  deriving Repr

/-- The tag a rule is reported by. -/
def Rule.tag : Rule → String
  | .required => "required"
  | .alphanum => "alphanum"
  | .minItems _ => "min"
  | .gte _ => "gte"
  | .lte _ => "lte"
  | .oneOf _ => "oneof"
  | .requiredIf _ _ => "required_if"
  | .omitEmpty => "omitempty"
  | .dive => "dive"

/-- A field of a record. -/
structure FieldSpec where
  key : String
  name : String
  ty : Ty
  rules : List Rule
  deriving Repr

/-- The fields of each record, in order. -/
def fieldsOf : String → List FieldSpec
  | "Config" =>
    [⟨"name", "Name", .text "string", [.required]⟩,
     ⟨"security_mode", "SecurityMode", .text "config.SecurityMode", []⟩,
     ⟨"listener", "Listeners", .records "ListenerConfig", [.required, .minItems 1, .dive]⟩,
     ⟨"limits", "Limits", .record "LimitsConfig", []⟩,
     ⟨"timeouts", "Timeouts", .record "TimeoutsConfig", []⟩,
     ⟨"storage", "Storage", .record "StorageConfig", []⟩,
     ⟨"auth", "Auth", .record "AuthConfig", []⟩,
     ⟨"workers", "Workers", .record "WorkersConfig", []⟩,
     ⟨"admin", "Admin", .record "AdminConfig", []⟩,
     ⟨"aliases", "Aliases", .textMap, []⟩,
     ⟨"logging", "Logging", .record "LoggingConfig", []⟩,
     ⟨"tracing", "Tracing", .record "TracingConfig", []⟩]
  | "ListenerConfig" =>
    [⟨"name", "Name", .text "string", [.required, .alphanum]⟩,
     ⟨"addr", "Addr", .text "string", [.required]⟩,
     ⟨"max_conns", "MaxConns", .int, [.gte 0]⟩,
     ⟨"compress", "Compress", .flag, []⟩,
     ⟨"tls", "TLS", .record "TLSConfig", []⟩]
  | "TLSConfig" =>
    [⟨"enabled", "Enabled", .flag, []⟩,
     ⟨"mutual", "Mutual", .flag, []⟩,
     ⟨"cert_file", "CertFile", .text "string", []⟩,
     ⟨"key_file", "KeyFile", .text "string", []⟩,
     ⟨"ca_file", "CAFile", .text "string", []⟩]
  | "LimitsConfig" =>
    [⟨"max_line", "MaxLine", .int, [.gte 64, .lte 1048576]⟩,
     ⟨"max_pending", "MaxPending", .int, [.gte 1]⟩,
     ⟨"max_sendq", "MaxSendQ", .int, [.gte 1024]⟩,
     ⟨"max_read_per_event", "MaxReadPerEvent", .int, [.gte 512]⟩,
     ⟨"max_iovecs", "MaxIovecs", .int, [.gte 1, .lte 1024]⟩,
     ⟨"flood_rate", "FloodRate", .float, [.gte 0]⟩,
     ⟨"flood_burst", "FloodBurst", .int, [.gte 0]⟩,
     ⟨"max_subscriptions", "MaxSubscriptions", .int, [.gte 0]⟩,
     ⟨"keys_limit", "KeysLimit", .int, [.gte 1]⟩,
     ⟨"max_frame", "MaxFrame", .int, [.gte 1024]⟩]
  | "TimeoutsConfig" =>
    [⟨"keepalive_interval", "KeepAliveInterval", .span, []⟩,
     ⟨"ping_timeout", "PingTimeout", .span, []⟩,
     ⟨"registration_timeout", "RegistrationTimeout", .span, []⟩,
     ⟨"shutdown_grace", "ShutdownGrace", .span, []⟩,
     ⟨"housekeeping", "Housekeeping", .span, []⟩]
  | "StorageConfig" =>
    [⟨"backend", "Backend", .text "string", [.oneOf ["badger", "memory"]]⟩,
     ⟨"path", "Path", .text "string", [.requiredIf "Backend" "badger"]⟩,
     ⟨"sync_writes", "SyncWrites", .flag, []⟩,
     ⟨"gc_interval", "GCInterval", .span, []⟩]
  | "AuthConfig" =>
    [⟨"accounts_file", "AccountsFile", .text "string", [.required]⟩,
     ⟨"watch", "Watch", .flag, []⟩]
  | "WorkersConfig" =>
    [⟨"count", "Count", .int, [.gte 1, .lte 1024]⟩,
     ⟨"queue_size", "QueueSize", .int, [.gte 1]⟩]
  | "AdminConfig" =>
    [⟨"addr", "Addr", .text "string", []⟩,
     ⟨"cors_origins", "CorsOrigins", .texts, []⟩]
  | "LoggingConfig" =>
    [⟨"level", "Level", .text "string", [.omitEmpty, .oneOf ["trace", "debug", "info", "warn", "error"]]⟩,
     ⟨"json", "JSON", .flag, []⟩]
  | "TracingConfig" =>
    [⟨"enabled", "Enabled", .flag, []⟩,
     ⟨"pretty", "Pretty", .flag, []⟩]
  | _ => []

def schemaDepth : Nat := 4

/-- A decoded setting. -/
inductive Datum where
  | text (s : Bytes)
  | int (i : Int)
  | float (x : Toml.Decimal)
  | flag (b : Bool)
  /-- A span in nanoseconds. -/
  | span (ns : Int)
  | texts (items : Option (List Bytes))
  | textMap (entries : Option (List (Bytes × Bytes)))
  /-- Field values by field name. -/
  | record (fields : List (String × Datum))
  | records (items : Option (List (List (String × Datum))))
  deriving Repr, Inhabited

namespace Datum

def field (d : Datum) (name : String) : Datum :=
  match d with
  | .record fs => ((fs.find? (·.1 == name)).map (·.2)).getD (.record [])
  | _ => .record []

def setField (d : Datum) (name : String) (v : Datum) : Datum :=
  match d with
  | .record fs => .record (fs.map fun (n, x) => if n == name then (n, v) else (n, x))
  | d => d

def textOf : Datum → Bytes
  | .text s => s
  | _ => []

def intOf : Datum → Int
  | .int i => i
  | _ => 0

def flagOf : Datum → Bool
  | .flag b => b
  | _ => false

def spanOf : Datum → Int
  | .span ns => ns
  | _ => 0

def itemsOf : Datum → List Datum
  | .records (some items) => items.map Datum.record
  | _ => []

end Datum

/-- The empty value of a type: empty text, zero, false, absent lists and maps, and records of
empty values (down to `depth` levels). -/
def zeroOf : Nat → Ty → Datum
  | _, .text _ => .text []
  | _, .int => .int 0
  | _, .float => .float (.finite 0 0)
  | _, .flag => .flag false
  | _, .span => .span 0
  | _, .texts => .texts none
  | _, .textMap => .textMap none
  | 0, .record _ => .record []
  | depth + 1, .record n => .record ((fieldsOf n).map fun f => (f.name, zeroOf depth f.ty))
  | _, .records _ => .records none

def seconds (n : Nat) : Int := n * 1000000000

/-- The settings a file starts from: the name `edgekv`, development mode, no listener, the
default limits and timeouts, a persistent store under `data`, accounts in `accounts.toml`, four
workers and `info` logging. -/
def defaultSettings : Datum :=
  .record
    [("Name", .text (Bytes.ofString "edgekv")),
     ("SecurityMode", .text (Bytes.ofString "development")),
     ("Listeners", .records none),
     ("Limits", .record
       [("MaxLine", .int 4096), ("MaxPending", .int 256), ("MaxSendQ", .int 1048576),
        ("MaxReadPerEvent", .int 65536), ("MaxIovecs", .int 64), ("FloodRate", .float (.finite 0 0)),
        ("FloodBurst", .int 20), ("MaxSubscriptions", .int 128), ("KeysLimit", .int 1000),
        ("MaxFrame", .int 262144)]),
     ("Timeouts", .record
       [("KeepAliveInterval", .span (seconds 90)), ("PingTimeout", .span (seconds 30)),
        ("RegistrationTimeout", .span (seconds 30)), ("ShutdownGrace", .span (seconds 5)),
        ("Housekeeping", .span (seconds 1))]),
     ("Storage", .record
       [("Backend", .text (Bytes.ofString "badger")), ("Path", .text (Bytes.ofString "data")),
        ("SyncWrites", .flag true), ("GCInterval", .span (seconds 300))]),
     ("Auth", .record [("AccountsFile", .text (Bytes.ofString "accounts.toml")), ("Watch", .flag true)]),
     ("Workers", .record [("Count", .int 4), ("QueueSize", .int 256)]),
     ("Admin", .record [("Addr", .text []), ("CorsOrigins", .texts none)]),
     ("Aliases", .textMap none),
     ("Logging", .record [("Level", .text (Bytes.ofString "info")), ("JSON", .flag false)]),
     ("Tracing", .record [("Enabled", .flag false), ("Pretty", .flag false)])]

end LineKv.Config
