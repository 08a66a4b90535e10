import LineKv.Script.Value
import LineKv.Backoff
import LineKv.LogLevel
import LineKv.Config.Template
import LineKv.Config.Security
import LineKv.Config.Check
import LineKv.Text.Duration

/-!
Scripts over settings: reading a daemon settings file, configuration templates, the TLS rules of a
security mode, retry delays and log level names. Settings read back as an object keyed by field
name: spans as text (`1m30s`), absent lists and maps as null.
-/

namespace LineKv.Script

open Config

/-- A double given as its shortest decimal, as an answer: written with an exponent from `10^21`
up, else as a plain decimal without trailing zeros; infinities and not-a-number have no answer
form. -/
def decimalValue : Toml.Decimal → Value
  | .finite m e =>
    let (m, e) := trim m e m.natAbs
    if m != 0 && (toString m.natAbs).length + e > 21 then .sci m e
    else if e ≥ 0 then .num (m * Int.pow 10 e.toNat) 0 else .num m (-e).toNat
  | _ => .null
where
  /-- Drop trailing zeros of the mantissa into the exponent while it is negative. -/
  trim (m e : Int) : Nat → Int × Int
    | 0 => (m, e)
    | fuel + 1 => if e < 0 && m != 0 && m % 10 == 0 then trim (m / 10) (e + 1) fuel else (m, e)

/-- Settings as an answer, following their type down to `depth` levels of records. -/
def settingValue : Nat → Ty → Datum → Value
  | _, .text _, d => .str d.textOf
  | _, .int, d => .ofInt d.intOf
  | _, .float, d => match d with
    | .float x => decimalValue x
    | _ => .num 0 0
  | _, .flag, d => .bool d.flagOf
  | _, .span, d => .ofString (Text.durationText d.spanOf)
  | _, .texts, d => match d with
    | .texts (some xs) => .arr (xs.map .str)
    | _ => .null
  | _, .textMap, d => match d with
    | .textMap (some m) => .obj (m.map fun (k, v) => (String.fromUTF8! (ByteArray.mk k.toArray), .str v))
    | _ => .null
  | 0, _, _ => .null
  | depth + 1, .record n, d =>
    .obj ((fieldsOf n).map fun f => (f.name, settingValue depth f.ty (d.field f.name)))
  | depth + 1, .records n, d => match d with
    | .records (some items) => .arr (items.map fun fs => settingValue depth (.record n) (.record fs))
    | _ => .null

def runConfig (req : Value) : Value :=
  match loadSettings (req.text "toml") with
  | .ok d => .obj [("config", settingValue schemaDepth (.record "Config") d)]
  | .error (.fault f) => faultValue f
  | .error (.panicked m) => .obj [("error", .ofString "panic"), ("message", .ofString m)]

def runTemplate (req : Value) : Value :=
  match template (req.text "kind") with
  | .ok text => .obj [("text", .ofString text)]
  | .error f => faultValue f

/-- The normalized mode and the first TLS rule the listener or client settings break. -/
def runSecurity (req : Value) : Value :=
  let mode := req.text "mode"
  let broken :=
    if req.text "side" == Bytes.ofString "client" then
      checkClient mode ⟨req.flag "enabled", req.flag "mutual", req.text "cert_file", req.text "key_file",
        req.text "ca_file", req.text "server_name", req.flag "insecure"⟩
    else
      checkListener mode ⟨req.flag "enabled", req.flag "mutual", req.text "cert_file", req.text "key_file",
        req.text "ca_file"⟩
  .obj [("normalized", .str (normalizeMode mode)),
    ("result", .ofOption (fun e => faultValue (SecurityError.toFault e)) broken)]

def runBackoff (req : Value) : Value :=
  let b : Backoff :=
    if req.flag "default" then Backoff.standard
    else ⟨req.int "initial_ns" 0, req.float "multiplier" 0, req.int "max_ns" 0, req.flag "jitter"⟩
  let attempts := (req.list "attempts").filterMap Value.toInt?
  .obj [("delays_ns", .arr (attempts.map fun a => .ofInt (b.delay a)))]

def runLevel (req : Value) : Value :=
  .obj [("levels", .arr ((req.texts "names").map fun n =>
    let (l, ok) := LogLevel.parse n
    .obj [("level", .ofString l.name), ("ok", .bool ok)]))]

end LineKv.Script
