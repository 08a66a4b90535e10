import LineKv.Fault
import LineKv.Text.Case
import LineKv.Text.Space
import LineKv.Text.Quoted

/-!
Security modes and the TLS rules they impose. A mode is read case-insensitively without
surrounding space, an empty one meaning development.
-/

namespace LineKv.Config

def normalizeMode (mode : Bytes) : Bytes :=
  let m := Text.trimSpace mode
  if m.isEmpty then Bytes.ofString "development" else Text.toLower m

def isProduction (mode : Bytes) : Bool := normalizeMode mode == Bytes.ofString "production"

/-- TLS settings of a listener. -/
structure ListenerTls where
  enabled : Bool
  mtls : Bool
  certFile : Bytes
  keyFile : Bytes
  caFile : Bytes
  deriving Repr, Inhabited

/-- TLS settings of a client. -/
structure ClientTls where
  enabled : Bool
  mtls : Bool
  certFile : Bytes
  keyFile : Bytes
  caFile : Bytes
  serverName : Bytes
  insecureSkipVerify : Bool
  deriving Repr, Inhabited

/-- A broken security rule. -/
inductive SecurityError where
  | invalidMode (normalized : Bytes)
  | tlsRequired
  | mtlsRequired
  | certFileRequired
  | keyFileRequired
  | caFileRequired
  | insecureSkipNotAllowed
  deriving Repr, DecidableEq

def SecurityError.toFault : SecurityError → Fault
  | .invalidMode m => .of .invalidSecurityMode (Bytes.ofString "config: invalid security mode: " ++ Text.quote m)
  | .tlsRequired => .of .tlsRequired (Bytes.ofString "config: tls required")
  | .mtlsRequired => .of .mtlsRequired (Bytes.ofString "config: mtls required")
  | .certFileRequired => .of .tlsCertFileRequired (Bytes.ofString "config: tls cert file required")
  | .keyFileRequired => .of .tlsKeyFileRequired (Bytes.ofString "config: tls key file required")
  | .caFileRequired => .of .tlsCAFileRequired (Bytes.ofString "config: tls ca file required")
  | .insecureSkipNotAllowed =>
    .of .tlsInsecureSkipNotAllowed (Bytes.ofString "config: insecure skip verify not allowed")

def checkListener (mode : Bytes) (t : ListenerTls) : Option SecurityError :=
  if isProduction mode ∧ !t.enabled then some .tlsRequired
  else if isProduction mode ∧ !t.mtls then some .mtlsRequired
  else if t.mtls ∧ !t.enabled then some .tlsRequired
  else if t.enabled ∧ (Text.trimSpace t.certFile).isEmpty then some .certFileRequired
  else if t.enabled ∧ (Text.trimSpace t.keyFile).isEmpty then some .keyFileRequired
  else if t.mtls ∧ (Text.trimSpace t.caFile).isEmpty then some .caFileRequired
  else none

/-- The first rule a client's TLS settings break under a mode. -/
def checkClient (mode : Bytes) (c : ClientTls) : Option SecurityError :=
  let m := normalizeMode mode
  let prod := m == Bytes.ofString "production"
  if !(prod || m == Bytes.ofString "development") then some (.invalidMode m)
  else if prod ∧ !c.enabled then some .tlsRequired
  else if prod ∧ !c.mtls then some .mtlsRequired
  else if prod ∧ c.insecureSkipVerify then some .insecureSkipNotAllowed
  else if c.mtls ∧ !c.enabled then some .tlsRequired
  else if c.enabled ∧ (Text.trimSpace c.caFile).isEmpty ∧ !c.insecureSkipVerify then some .caFileRequired
  else if c.mtls ∧ (Text.trimSpace c.certFile).isEmpty then some .certFileRequired
  else if c.mtls ∧ (Text.trimSpace c.keyFile).isEmpty then some .keyFileRequired
  else none

end LineKv.Config
