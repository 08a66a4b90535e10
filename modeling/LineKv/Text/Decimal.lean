import LineKv.Bytes

/-!
Decimal integers as text: an optional `+` or `-` sign and one or more decimal digits, nothing
else, with a value in the signed 64-bit range. Sums of such integers wrap modulo 2^64.
-/

namespace LineKv.Text

def int64Min : Int := -9223372036854775808

def int64Max : Int := 9223372036854775807

def inInt64 (i : Int) : Bool := int64Min ≤ i && i ≤ int64Max

def wrap64 (i : Int) : Int := Int.bmod i 18446744073709551616

def parseInt64? (s : Bytes) : Option Int :=
  let (neg, digits) := match s with
    | 45 :: rest => (true, rest)
    | 43 :: rest => (false, rest)
    | _ => (false, s)
  if Bytes.allDigits digits then
    let v : Int := if neg then -(Bytes.digitsValue digits : Int) else Bytes.digitsValue digits
    if inInt64 v then some v else none
  else none

end LineKv.Text
