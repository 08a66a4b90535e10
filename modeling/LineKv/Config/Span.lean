import LineKv.Text.Quoted

/-!
Spans of time written in text, as settings give them: an optional sign, then one or more decimal
numbers each followed by a unit (`ns`, `us` or `µs`, `ms`, `s`, `m`, `h`), such as `90s`,
`1h2m3.5s` or `-1.5ms`; a bare `0` is zero. The value is a whole number of nanoseconds.
-/

namespace LineKv.Config

def spanLimit : Nat := Nat.pow 2 63

def spanQuote (s : Bytes) : String :=
  let body := (Utf8.pieces s).flatMap fun p =>
    let c := p.char
    if c.toNat ≥ 0x80 || c.toNat < 0x20 then
      p.raw.flatMap fun b => Bytes.ofString "\\x" ++ Text.hexWidth 2 b.toNat
    else if c = '"' ∨ c = '\\' then [92] ++ p.raw
    else p.raw
  "\"" ++ String.fromUTF8! (ByteArray.mk body.toArray) ++ "\""

def unitScale (u : Bytes) : Option Nat :=
  if u == Bytes.ofString "ns" then some 1
  else if u == Bytes.ofString "us" || u == Bytes.ofString "µs" || u == Bytes.ofString "μs" then some 1000
  else if u == Bytes.ofString "ms" then some 1000000
  else if u == Bytes.ofString "s" then some 1000000000
  else if u == Bytes.ofString "m" then some 60000000000
  else if u == Bytes.ofString "h" then some 3600000000000
  else none

def isDigitByte (c : UInt8) : Bool := 48 ≤ c && c ≤ 57

def leadingInt : Bytes → Nat → Option Nat × Bytes
  | c :: rest, x =>
    if isDigitByte c then
      if x > spanLimit / 10 then (none, c :: rest)
      else
        let y := x * 10 + (c.toNat - 48)
        if y > spanLimit then (none, c :: rest) else leadingInt rest y
    else (some x, c :: rest)
  | [], x => (some x, [])

/-- Leading digits after a point: their value and its scale (ten to the digits kept), digits past
the precision skipped; and the rest. -/
def leadingFraction : Bytes → Nat → Float → Bool → Nat × Float × Bytes
  | c :: rest, x, scale, skipping =>
    if isDigitByte c then
      if skipping then leadingFraction rest x scale true
      else if x > (spanLimit - 1) / 10 then leadingFraction rest x scale true
      else
        let y := x * 10 + (c.toNat - 48)
        if y > spanLimit then leadingFraction rest x scale true
        else leadingFraction rest y (scale * 10) false
    else (x, scale, c :: rest)
  | [], x, scale, _ => (x, scale, [])

/-- The terms of a span after its sign: their total in nanoseconds. -/
def spanTerms (orig : Bytes) : Nat → Bytes → Nat → Except String Nat
  | 0, _, d => .ok d
  | _ + 1, [], d => .ok d
  | fuel + 1, s, d =>
    let invalid : Except String Nat := .error ("time: invalid duration " ++ spanQuote orig)
    match s with
    | [] => .ok d
    | c :: _ =>
      if !(c == 46 || isDigitByte c) then invalid
      else
        let before := s.length
        match leadingInt s 0 with
        | (none, _) => invalid
        | (some v, s) =>
          let pre := before != s.length
          let (f, scale, post, s) :=
            match s with
            | 46 :: more =>
              let (f, scale, rest) := leadingFraction more 0 1 false
              (f, scale, more.length != rest.length, rest)
            | _ => (0, 1, false, s)
          if !pre && !post then invalid
          else
            let u := s.takeWhile fun c => !(c == 46 || isDigitByte c)
            let s := s.drop u.length
            if u.isEmpty then .error ("time: missing unit in duration " ++ spanQuote orig)
            else
              match unitScale u with
              | none => .error ("time: unknown unit " ++ spanQuote u ++ " in duration " ++ spanQuote orig)
              | some unit =>
                if v > spanLimit / unit then invalid
                else
                  let v := v * unit
                  let v := if f > 0 then v + (Float.ofNat f * (Float.ofNat unit / scale)).toUInt64.toNat else v
                  if v > spanLimit then invalid
                  else if d + v > spanLimit then invalid
                  else spanTerms orig fuel s (d + v)

/-- Read a span of time: nanoseconds, or why the text is no span. -/
def parseSpan (orig : Bytes) : Except String Int :=
  let (neg, s) := match orig with
    | 45 :: rest => (true, rest)
    | 43 :: rest => (false, rest)
    | s => (false, s)
  if s == Bytes.ofString "0" then .ok 0
  else if s.isEmpty then .error ("time: invalid duration " ++ spanQuote orig)
  else
    match spanTerms orig (s.length + 1) s 0 with
    | .error e => .error e
    | .ok d =>
      if neg then .ok (-(d : Int))
      else if d > spanLimit - 1 then .error ("time: invalid duration " ++ spanQuote orig)
      else .ok d

end LineKv.Config
