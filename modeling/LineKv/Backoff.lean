/-!
Reconnect backoff.
-/

namespace LineKv

/-- How reconnect delays grow, in nanoseconds. -/
structure Backoff where
  initial : Int
  multiplier : Float
  maxDelay : Int
  jitter : Bool

namespace Backoff

def standard : Backoff := ⟨250000000, 2.0, 5000000000, true⟩

/-- Repeated squaring: `a1 · 2^ae` times `(x1 · 2^xe)^i`, as a mantissa and an exponent. An
exponent beyond ±4096 stops the loop, leaving the overflow to the final scaling. -/
def powLoop (i : Nat) (a1 x1 : Float) (ae xe : Int) : Float × Int :=
  if i = 0 then (a1, ae)
  else if xe < -4096 ∨ 4096 < xe then (a1, ae + xe)
  else
    let (a1', ae') := if i % 2 = 1 then (a1 * x1, ae + xe) else (a1, ae)
    let x2 := x1 * x1
    let (x1', xe') := if x2 < 0.5 then (x2 + x2, xe * 2 - 1) else (x2, xe * 2)
    powLoop (i / 2) a1' x1' ae' xe'
termination_by i
decreasing_by omega

def pow (x : Float) (n : Nat) : Float :=
  if n = 0 ∨ x = 1 then 1
  else if n = 1 then x
  else
    let (m, e) := x.frExp
    let (a1, ae) := powLoop n 1 m 0 e
    a1.scaleB ae

def truncate64 (x : Float) : Int :=
  if x < 9223372036854775808.0 ∧ -9223372036854775808.0 ≤ x then x.toInt64.toInt
  else -9223372036854775808

def delay (b : Backoff) (attempt : Int) : Int :=
  if attempt ≤ 1 then b.initial
  else if b.initial ≤ 0 then 0
  else
    let m := if b.multiplier < 1.0 then 1.0 else b.multiplier
    let d := Float.ofInt b.initial * pow m (attempt - 1).toNat
    let d := if b.maxDelay > 0 ∧ d > Float.ofInt b.maxDelay then Float.ofInt b.maxDelay else d
    let d := if b.jitter then d * 0.5 else d
    truncate64 d

end Backoff

end LineKv
