/-!
Decimal float text and doubles. Float text is an optional sign, then an infinity word, a not-a-
number word or a decimal: digits with at most one point and at least one digit, and an optional
exponent.
-/

namespace LineKv.Text

/-- Float text: a decimal `digits · 10^exponent` with its sign, an infinity, or not a number. -/
inductive FloatText where
  | finite (negative : Bool) (digits : Nat) (exponent : Int)
  | infinite (negative : Bool)
  | nan
  deriving DecidableEq, Repr, Inhabited

namespace FloatText

def digitValue (ds : List Char) : Nat := ds.foldl (fun n c => n * 10 + (c.toNat - 48)) 0

def isDigitChar (c : Char) : Bool := '0' ≤ c && c ≤ '9'

/-- The exponent part: `e` or `E`, an optional sign, and at least one digit, ending the text. -/
def exponent? : List Char → Option Int
  | [] => some 0
  | e :: rest =>
    if e == 'e' || e == 'E' then
      let (neg, ds) := match rest with
        | '+' :: more => (false, more)
        | '-' :: more => (true, more)
        | _ => (false, rest)
      if ds.isEmpty || !ds.all isDigitChar then none
      else some (if neg then -(digitValue ds : Int) else digitValue ds)
    else none

/-- Read float text; none when it is not float text. Case does not matter in `inf`, `infinity`
and `nan`, and `nan` takes no sign. -/
def read? (s : String) : Option FloatText :=
  let cs := s.toList
  let (neg, signed, body) := match cs with
    | '+' :: rest => (false, true, rest)
    | '-' :: rest => (true, true, rest)
    | _ => (false, false, cs)
  let word := String.ofList (body.map Char.toLower)
  if word == "inf" || word == "infinity" then some (.infinite neg)
  else if word == "nan" then (if signed then none else some .nan)
  else
    let intPart := body.takeWhile isDigitChar
    let afterInt := body.drop intPart.length
    let (frac, afterFrac) := match afterInt with
      | '.' :: rest => (rest.takeWhile isDigitChar, rest.drop (rest.takeWhile isDigitChar).length)
      | _ => ([], afterInt)
    if intPart.isEmpty && frac.isEmpty then none
    else (exponent? afterFrac).map fun x => .finite neg (digitValue (intPart ++ frac)) (x - frac.length)

end FloatText

def overflowsDouble (digits : Nat) (exponent : Int) : Bool :=
  let limit := Nat.pow 2 1024 - Nat.pow 2 970
  let top : Int := (toString digits).length + exponent
  if digits == 0 then false
  else if top ≥ 310 then true
  else if top ≤ 308 then false
  else if exponent ≥ 0 then digits * Nat.pow 10 exponent.toNat ≥ limit
  else digits ≥ limit * Nat.pow 10 (-exponent).toNat

def decimalWidth (n : Nat) : Nat := (toString n).length

/-- The double nearest to `digits · 10^exponent`, as `m · 2^q` with `m < 2^53` and `q` at least
`-1074`, ties going to the even `m`; none when it rounds to infinity. Values below `10^-330` are
zero and values of `10^310` and more overflow without being computed. -/
def nearestDouble? (digits : Nat) (exponent : Int) : Option (Nat × Int) :=
  let top : Int := decimalWidth digits + exponent
  if digits == 0 || top < -330 then some (0, 0)
  else if top > 310 then none
  else
    let (num, den) : Nat × Nat :=
      if exponent ≥ 0 then (digits * Nat.pow 10 exponent.toNat, 1) else (digits, Nat.pow 10 (-exponent).toNat)
    let k0 : Int := (num.log2 : Int) - den.log2
    let above := fun (k : Int) =>
      if k ≥ 0 then num ≥ den * Nat.pow 2 k.toNat else num * Nat.pow 2 (-k).toNat ≥ den
    let k := if above k0 then k0 else k0 - 1
    let e := max (k - 52) (-1074)
    let (n', d') : Nat × Nat :=
      if e ≥ 0 then (num, den * Nat.pow 2 e.toNat) else (num * Nat.pow 2 (-e).toNat, den)
    let q := n' / d'
    let r := n' % d'
    let q := if 2 * r > d' || (2 * r == d' && q % 2 == 1) then q + 1 else q
    let (q, e) := if q == Nat.pow 2 53 then (Nat.pow 2 52, e + 1) else (q, e)
    if e > 971 then none else some (q, e)

def trimZeros (digits : Nat) (exponent : Int) : Nat × Int :=
  go digits exponent (decimalWidth digits)
where
  /-- Drop at most `fuel` zeros. -/
  go (d : Nat) (e : Int) : Nat → Nat × Int
    | 0 => (d, e)
    | fuel + 1 => if d != 0 && d % 10 == 0 then go (d / 10) (e + 1) fuel else (d, e)

/-- The shortest decimal that reads back as the double `m · 2^q`, and among the shortest the
nearest: for each length the rounded digits are tried, then the digits cut and raised by one. -/
def shortestDecimal (m : Nat) (q : Int) : Nat × Int :=
  if m == 0 then (0, 0)
  else
    let (v, scale) : Nat × Int :=
      if q ≥ 0 then (m * Nat.pow 2 q.toNat, 0) else (m * Nat.pow 5 (-q).toNat, q)
    let width := decimalWidth v
    let attempt := fun (p : Nat) =>
      if width ≤ p then [(v, scale)]
      else
        let drop := width - p
        let base := Nat.pow 10 drop
        let t := v / base
        let r := v % base
        let near := if 2 * r > base || (2 * r == base && t % 2 == 1) then t + 1 else t
        [near, t, t + 1].map fun c => (c, scale + drop)
    let found := (List.range 17).findSome? fun i =>
      (attempt (i + 1)).find? fun (c, e) => nearestDouble? c e == some (m, q)
    let (c, e) := found.getD (v, scale)
    trimZeros c e

end LineKv.Text
