import LineKv.Fault

/-!
Values of the scripting interface: requests that drive the library and the answers it gives are
JSON-shaped trees whose strings are raw bytes. Numbers are exact decimals, `mantissa ·
10^-exponent`, or large doubles written with an exponent.
-/

namespace LineKv.Script

/-- A request or an answer. -/
inductive Value where
  | null
  | bool (b : Bool)
  | num (mantissa : Int) (exponent : Nat)
  /-- A floating-point number `mantissa · 10^exponent` that answers write with an exponent, as
  they write doubles of `10^21` and more. -/
  | sci (mantissa : Int) (exponent : Int)
  | str (s : Bytes)
  | arr (items : List Value)
  | obj (fields : List (String × Value))
  deriving Repr, Inhabited

namespace Value

def get (v : Value) (key : String) : Value :=
  match v with
  | .obj fields => (fields.find? (·.1 == key)).map (·.2) |>.getD .null
  | _ => .null

def has (v : Value) (key : String) : Bool :=
  match v with
  | .obj fields => fields.any (·.1 == key)
  | _ => false

def toInt? : Value → Option Int
  | .num m e => some (m.tdiv (Nat.pow 10 e : Nat))
  | _ => none

def int (v : Value) (key : String) (dflt : Int) : Int := (v.get key).toInt?.getD dflt

def toFloat? : Value → Option Float
  | .num m e =>
    let x := Float.ofScientific m.natAbs true e
    some (if m < 0 then -x else x)
  | _ => none

def float (v : Value) (key : String) (dflt : Float) : Float := (v.get key).toFloat?.getD dflt

def toRat? : Value → Option Rat
  | .num m e => some ((m : Rat) / (Nat.pow 10 e : Nat))
  | _ => none

def rat (v : Value) (key : String) (dflt : Rat) : Rat := (v.get key).toRat?.getD dflt

def flag (v : Value) (key : String) : Bool :=
  match v.get key with
  | .bool b => b
  | _ => false

def list (v : Value) (key : String) : List Value :=
  match v.get key with
  | .arr xs => xs
  | _ => []

def bytes? : Value → Option Bytes
  | .str s => some s
  | _ => none

def text (v : Value) (key : String) : Bytes :=
  match v.get (key ++ "_hex") with
  | .str h => (Bytes.ofHex? h).getD []
  | _ => (v.get key).bytes?.getD []

def hasText (v : Value) (key : String) : Bool :=
  v.has key || v.has (key ++ "_hex")

def textOr (v : Value) (key : String) (dflt : Bytes) : Bytes :=
  if v.hasText key then v.text key else dflt

def texts (v : Value) (key : String) : List Bytes := (v.list key).filterMap bytes?

def ofBytes (s : Bytes) : Value := .str s

def ofString (s : String) : Value := .str (Bytes.ofString s)

def ofInt (i : Int) : Value := .num i 0

def ofNat (n : Nat) : Value := .num n 0

def ofOption {α : Type} (f : α → Value) : Option α → Value
  | some a => f a
  | none => .null

def ofTexts (xs : List Bytes) : Value := .arr (xs.map .str)

end Value

/-- The protocol name of a failure class. -/
def className : FaultClass → String
  | .framing => "protocol.ErrFraming"
  | .decode => "protocol.ErrDecode"
  | .recvQExceeded => "protocol.ErrRecvQExceeded"
  | .unknownCommand => "command.ErrUnknownCommand"
  | .missingParameters => "command.ErrMissingParameters"
  | .accessDenied => "command.ErrAccessDenied"
  | .notRegistered => "command.ErrNotRegistered"
  | .handlerFailure => "command.ErrHandlerFailure"
  | .descriptorExists => "command.ErrDescriptorExists"
  | .invalidDescriptor => "command.ErrInvalidDescriptor"
  | .tableSealed => "command.ErrTableSealed"
  | .multiActive => "queue.ErrMultiActive"
  | .noMulti => "queue.ErrNoMulti"
  | .queueFull => "queue.ErrRecvQ"
  | .flood => "queue.ErrFlood"
  | .connClosed => "server.ErrConnClosed"
  | .notInteger => "storage.ErrNotInteger"
  | .invalidKey => "storage.ErrInvalidKey"
  | .invalidDatabase => "storage.ErrInvalidDatabase"
  | .storeClosed => "storage.ErrClosed"
  | .invalidChannel => "pubsub.ErrInvalidChannel"
  | .invalidPattern => "pubsub.ErrInvalidPattern"
  | .tooManySubscriptions => "pubsub.ErrTooMany"
  | .unauthorized => "auth.ErrUnauthorized"
  | .invalidAccount => "auth.ErrInvalidAccount"
  | .duplicateAccount => "auth.ErrDuplicate"
  | .invalidSecurityMode => "config.ErrInvalidSecurityMode"
  | .tlsRequired => "config.ErrTLSRequired"
  | .mtlsRequired => "config.ErrMTLSRequired"
  | .tlsCertFileRequired => "config.ErrTLSCertFileRequired"
  | .tlsKeyFileRequired => "config.ErrTLSKeyFileRequired"
  | .tlsCAFileRequired => "config.ErrTLSCAFileRequired"
  | .invalidAddr => "config.ErrInvalidAddr"
  | .duplicateListener => "config.ErrDuplicateListener"
  | .tlsInsecureSkipNotAllowed => "config.ErrTLSInsecureSkipNotAllowed"
  | .frameTooLarge => "deflate.ErrFrameTooLarge"
  | .corruptFrame => "deflate.ErrCorruptFrame"
  | .invalidChain => "transport.ErrInvalidChain"
  | .transportClosed => "transport.ErrClosed"
  | .peerClosed => "transport.ErrPeerClosed"
  | .sendQExceeded => "transport.ErrSendQExceeded"
  | .socket => "transport.ErrSocket"
  | .notAttached => "deflate.ErrNotAttached"
  | .poolNotStarted => "worker.ErrNotStarted"
  | .poolStopped => "worker.ErrStopped"
  | .poolAlreadyStarted => "worker.ErrAlreadyStarted"
  | .poolQueueFull => "worker.ErrQueueFull"
  | .nilPost => "worker.ErrNilPost"
  | .stopTimeout => "worker.ErrStopTimeout"
  | .jobPanic => "worker.ErrJobPanic"

def faultValue (f : Fault) : Value :=
  .obj [("error", .ofString ((f.cls.map className).getD "error")), ("message", .str f.message)]

def ofExcept {ε α : Type} (toFault : ε → Fault) (f : α → Value) : Except ε α → Value
  | .ok a => f a
  | .error e => faultValue (toFault e)

def errorOrNull {ε : Type} (toFault : ε → Fault) : Except ε Unit → Value
  | .ok () => .null
  | .error e => faultValue (toFault e)

end LineKv.Script
