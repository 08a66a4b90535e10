import LineKv.Bytes

/-!
Failures as callers see them. Every error of the library belongs to at most one class that callers
test for (a framing error, an unknown command, a full queue, …) and carries a message. Modules
keep their own error types with the causes spelled out; `Fault` is what they all reduce to.
-/

namespace LineKv

/-- The classes of failure that callers distinguish. -/
inductive FaultClass where
  | framing | decode | recvQExceeded
  | unknownCommand | missingParameters | accessDenied | notRegistered | handlerFailure
  | descriptorExists | invalidDescriptor | tableSealed
  | multiActive | noMulti | queueFull | flood
  | connClosed
  | notInteger | invalidKey | invalidDatabase | storeClosed
  | invalidChannel | invalidPattern | tooManySubscriptions
  | unauthorized | invalidAccount | duplicateAccount
  | invalidSecurityMode | tlsRequired | mtlsRequired | tlsCertFileRequired | tlsKeyFileRequired
  | tlsCAFileRequired | invalidAddr | duplicateListener | tlsInsecureSkipNotAllowed
  | frameTooLarge | corruptFrame
  | invalidChain | transportClosed | peerClosed | sendQExceeded | socket | notAttached
  | poolNotStarted | poolStopped | poolAlreadyStarted | poolQueueFull | nilPost | stopTimeout
  | jobPanic
  deriving DecidableEq, Repr, Inhabited

/-- A failure: the class it belongs to, if any, and its message. -/
structure Fault where
  cls : Option FaultClass
  message : Bytes
  deriving Repr, Inhabited, DecidableEq

namespace Fault

def of (c : FaultClass) (msg : Bytes) : Fault := ⟨some c, msg⟩

def plain (msg : Bytes) : Fault := ⟨none, msg⟩

def wrap (pre : Bytes) (f : Fault) : Fault := ⟨f.cls, pre ++ Bytes.ofString ": " ++ f.message⟩

end Fault

end LineKv
