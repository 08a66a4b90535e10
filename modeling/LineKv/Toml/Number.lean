import LineKv.Toml.Stream
import LineKv.Text.Quoted
import LineKv.Text.Case
import LineKv.Text.Binary64

/-!
Numbers of a stream-read document, read when a setting needs them. An integer is decimal, or
hexadecimal, octal or binary after `0x`, `0o`, `0b`; underscores may separate digits; a decimal
integer has no leading zero; it must fit in 64 bits.
-/

namespace LineKv.Toml

/-- A decimal number `mantissa · 10^exponent`, an infinity, or not a number. -/
inductive Decimal where
  | finite (mantissa : Int) (exponent : Int)
  | infinite (negative : Bool)
  | nan
  deriving DecidableEq, Repr, Inhabited

namespace Decimal

def isZero : Decimal → Bool
  | .finite m _ => m == 0
  | _ => false

def atLeast (r : Decimal) (n : Int) : Bool :=
  match r with
  | .finite m e => if e ≥ 0 then m * Int.pow 10 e.toNat ≥ n else m ≥ n * Int.pow 10 (-e).toNat
  | .infinite neg => !neg
  | .nan => false

def atMost (r : Decimal) (n : Int) : Bool :=
  match r with
  | .finite m e => if e ≥ 0 then m * Int.pow 10 e.toNat ≤ n else m ≤ n * Int.pow 10 (-e).toNat
  | .infinite neg => neg
  | .nan => false

end Decimal

namespace Number

def text (b : Bytes) : String := String.fromUTF8! (ByteArray.mk b.toArray)

def failure (fn : String) (s : Bytes) (why : String) : String :=
  "strconv." ++ fn ++ ": parsing " ++ text (Text.quote s) ++ ": " ++ why

def digitIn (base : Nat) (c : UInt8) : Option Nat :=
  let d :=
    if 48 ≤ c && c ≤ 57 then some (c.toNat - 48)
    else if 97 ≤ c && c ≤ 122 then some (c.toNat - 87)
    else if 65 ≤ c && c ≤ 90 then some (c.toNat - 55)
    else none
  match d with
  | some v => if v < base then some v else none
  | none => none

def unsigned (base : Nat) : Bytes → Nat → Except Bool Nat
  | [], n => .ok n
  | c :: rest, n =>
    match digitIn base c with
    | none => .error false
    | some d =>
      let m := n * base + d
      if m ≥ Nat.pow 2 64 then .error true else unsigned base rest m

/-- A signed 64-bit integer in a base, with the standard messages. -/
def parseIntIn (s : Bytes) (base : Nat) : Except String Int :=
  let (neg, digits) := match s with
    | 43 :: rest => (false, rest)
    | 45 :: rest => (true, rest)
    | _ => (false, s)
  if s.isEmpty || digits.isEmpty then .error (failure "ParseInt" s "invalid syntax")
  else
    match unsigned base digits 0 with
    | .error false => .error (failure "ParseInt" s "invalid syntax")
    | .error true => .error (failure "ParseInt" s "value out of range")
    | .ok n =>
      if !neg && n ≥ Nat.pow 2 63 then .error (failure "ParseInt" s "value out of range")
      else if neg && n > Nat.pow 2 63 then .error (failure "ParseInt" s "value out of range")
      else .ok (if neg then -(n : Int) else n)

/-- Remove the underscores between digits of an integer, refusing misplaced ones. -/
def integerDigits (b : Bytes) : Except String Bytes :=
  let start := match b with
    | 43 :: _ | 45 :: _ => 1
    | _ => 0
  let body := b.drop start
  match body with
  | [] => .ok b
  | 95 :: _ => .error "number cannot start with underscore"
  | _ =>
    if b.getLast? == some 95 then .error "number cannot end with underscore"
    else if !b.contains 95 then .ok b
    else
      let pre := b.takeWhile (· != 95)
      let rest := (b.drop pre.length).drop 1
      go rest false pre.reverse
where
  /-- Copy the digits after the first underscore, one digit needed between underscores. -/
  go : Bytes → Bool → Bytes → Except String Bytes
    | [], _, acc => .ok acc.reverse
    | 95 :: rest, before, acc =>
      if !before then .error "number must have at least one digit between underscores" else go rest false acc
    | c :: rest, _, acc => go rest true (c :: acc)

/-- An integer as written. -/
def readInteger (b : Bytes) : Except String Int :=
  match b with
  | 48 :: p :: digits =>
    if p == 120 || p == 111 || p == 98 then
      let (base, name) :=
        if p == 120 then (16, "hexadecimal") else if p == 111 then (8, "octal") else (2, "binary")
      match integerDigits digits with
      | .error e => .error e
      | .ok cleaned =>
        match parseIntIn cleaned base with
        | .ok v => .ok v
        | .error e => .error ("couldn't parse " ++ name ++ " number: " ++ e)
    else decimal b
  | _ => decimal b
where
  /-- A decimal integer: no leading zero. -/
  decimal (b : Bytes) : Except String Int :=
    match integerDigits b with
    | .error e => .error e
    | .ok cleaned =>
      let digits := match cleaned with
        | 43 :: rest | 45 :: rest => rest
        | _ => cleaned
      if digits.length > 1 && digits.head? == some (48 : UInt8) then .error "leading zero not allowed on decimal number"
      else
        match parseIntIn cleaned 10 with
        | .ok v => .ok v
        | .error e => .error ("couldn't parse decimal number: " ++ e)

/-- Remove the underscores between digits of a float, refusing misplaced ones. -/
def floatDigits (b : Bytes) : Except String Bytes :=
  match b with
  | 95 :: _ => .error "number cannot start with underscore"
  | _ =>
    if b.getLast? == some 95 then .error "number cannot end with underscore"
    else if !b.contains 95 then .ok b
    else go b none false []
where
  /-- Copy, checking what stands around each underscore. -/
  go : Bytes → Option UInt8 → Bool → Bytes → Except String Bytes
    | [], _, _, acc => .ok acc.reverse
    | c :: rest, prev, before, acc =>
      let next := rest.head?
      if c == 95 then
        if !before then .error "number must have at least one digit between underscores"
        else if next == some 101 || next == some 69 then .error "cannot have underscore before exponent"
        else go rest (some c) false acc
      else if c == 43 || c == 45 then go rest (some c) false (c :: acc)
      else if c == 101 || c == 69 then
        if next == some 95 then .error "cannot have underscore after exponent" else go rest (some c) before (c :: acc)
      else if c == 46 then
        if next == some 95 then .error "cannot have underscore after decimal point"
        else if prev == some 95 then .error "cannot have underscore before decimal point"
        else go rest (some c) before (c :: acc)
      else go rest (some c) true (c :: acc)

def isDigit (c : UInt8) : Bool := 48 ≤ c && c ≤ 57

def digitsValue (b : Bytes) : Nat := b.foldl (fun n c => n * 10 + (c.toNat - 48)) 0

def checkPoints : Bytes → Option UInt8 → Bool → Except String Unit
  | [], _, _ => .ok ()
  | 46 :: rest, prev, seen =>
    if seen then .error "float can have at most one decimal point"
    else if !(prev.map isDigit).getD false then .error "float decimal point must be preceded by a digit"
    else if !((rest.head?).map isDigit).getD false then .error "float decimal point must be followed by a digit"
    else checkPoints rest (some 46) true
  | c :: rest, _, seen => checkPoints rest (some c) seen

/-- The decimal a float text stands for, by the usual float grammar: sign, digits with at most
one point, an optional exponent; or an infinity or not-a-number word. -/
def floatValue (s : Bytes) : Option Decimal :=
  let (neg, body) := match s with
    | 43 :: rest => (false, rest)
    | 45 :: rest => (true, rest)
    | _ => (false, s)
  let word := Text.toLower body
  if word == Bytes.ofString "inf" || word == Bytes.ofString "infinity" then some (.infinite neg)
  else if word == Bytes.ofString "nan" then some .nan
  else
    let intPart := body.takeWhile isDigit
    let afterInt := body.drop intPart.length
    let (frac, afterFrac) := match afterInt with
      | 46 :: rest => (rest.takeWhile isDigit, rest.drop (rest.takeWhile isDigit).length)
      | _ => ([], afterInt)
    if intPart.isEmpty && frac.isEmpty then none
    else
      let expo : Option Int := match afterFrac with
        | [] => some 0
        | e :: rest =>
          if e == 101 || e == 69 then
            let (eneg, edigits) := match rest with
              | 43 :: more => (false, more)
              | 45 :: more => (true, more)
              | _ => (false, rest)
            if edigits.isEmpty || !edigits.all isDigit then none
            else some (if eneg then -(digitsValue edigits : Int) else digitsValue edigits)
          else none
      match expo with
      | none => none
      | some x =>
        let m : Int := digitsValue (intPart ++ frac)
        some (.finite (if neg then -m else m) (x - frac.length))

/-- A float as written. -/
def readFloat (b : Bytes) : Except String Decimal :=
  if b == Bytes.ofString "+nan" || b == Bytes.ofString "-nan" then .ok .nan
  else
    match floatDigits b with
    | .error e => .error e
    | .ok cleaned =>
      if cleaned.head? == some 46 then .error "float cannot start with a dot"
      else if cleaned.getLast? == some 46 then .error "float cannot end with a dot"
      else
        match checkPoints cleaned none false with
        | .error e => .error e
        | .ok () =>
          let digits := match cleaned with
            | 43 :: rest | 45 :: rest => rest
            | _ => cleaned
          if digits.head? == some (48 : UInt8) && ((digits.drop 1).head?.map isDigit).getD false then
            .error "float integer part cannot have leading zeroes"
          else
            match floatValue cleaned with
            | none => .error ("unable to parse float: " ++ failure "ParseFloat" cleaned "invalid syntax")
            | some (.finite m e) =>
              match Text.nearestDouble? m.natAbs e with
              | none => .error ("unable to parse float: " ++ failure "ParseFloat" cleaned "value out of range")
              | some (q, x) =>
                let (c, ce) := Text.shortestDecimal q x
                .ok (.finite (if m < 0 then -(c : Int) else c) ce)
            | some d => .ok d

end Number

end LineKv.Toml
