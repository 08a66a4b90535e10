import LineKv.Text.Case
import LineKv.Text.Space

/-!
Log levels by name. Names are read case-insensitively with surrounding space removed; several
spellings name one level, and an unknown or empty name is refused in favour of `info`.
-/

namespace LineKv

/-- The log levels, least severe first, and the level that disables logging. -/
inductive LogLevel where
  | trace | debug | info | warn | error | fatal | panic | disabled
  deriving DecidableEq, Repr

namespace LogLevel

def name : LogLevel → String
  | .trace => "trace" | .debug => "debug" | .info => "info" | .warn => "warn"
  | .error => "error" | .fatal => "fatal" | .panic => "panic" | .disabled => "disabled"

/-- The level a name stands for, or none. -/
def ofName? (raw : Bytes) : Option LogLevel :=
  let n := Text.toLower (Text.trimSpace raw)
  let is := fun (s : String) => n == Bytes.ofString s
  if is "trace" || is "diagnostics" then some .trace
  else if is "debug" then some .debug
  else if is "info" then some .info
  else if is "warn" || is "warning" then some .warn
  else if is "error" then some .error
  else if is "disabled" || is "disable" || is "off" || is "none" || is "inactive" then some .disabled
  else none

def parse (raw : Bytes) : LogLevel × Bool :=
  match ofName? raw with
  | some l => (l, true)
  | none => (.info, false)

end LogLevel

end LineKv
