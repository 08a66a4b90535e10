/-!
Date-time values. A date-time is read by trying seven layouts in turn: offset date-time, local
date-time, local date and local time, each with seconds, and then offset date-time, local date-
time and local time without seconds.
-/

namespace LineKv.Toml

/-- One element of a date-time layout. -/
inductive Field where
  | lit (c : Char)
  | year | month | day | hour | minute | second | fraction | offset
  deriving DecidableEq, Repr

/-- A layout: its elements and the text that spells it. -/
structure Layout where
  fields : List Field
  spelled : String

def dateFields : List Field := [.year, .lit '-', .month, .lit '-', .day]

/-- The layouts, in the order they are tried. -/
def layouts : List Layout := [
  ⟨dateFields ++ [.lit 'T', .hour, .lit ':', .minute, .lit ':', .second, .fraction, .offset],
    "2006-01-02T15:04:05.999999999Z07:00"⟩,
  ⟨dateFields ++ [.lit 'T', .hour, .lit ':', .minute, .lit ':', .second, .fraction],
    "2006-01-02T15:04:05.999999999"⟩,
  ⟨dateFields, "2006-01-02"⟩,
  ⟨[.hour, .lit ':', .minute, .lit ':', .second, .fraction], "15:04:05.999999999"⟩,
  ⟨dateFields ++ [.lit 'T', .hour, .lit ':', .minute, .offset], "2006-01-02T15:04Z07:00"⟩,
  ⟨dateFields ++ [.lit 'T', .hour, .lit ':', .minute], "2006-01-02T15:04"⟩,
  ⟨[.hour, .lit ':', .minute], "15:04"⟩]

def isDigitAt (cs : List Char) (i : Nat) : Bool :=
  match cs[i]? with
  | some c => '0' ≤ c && c ≤ '9'
  | none => false

def digitOf (c : Char) : Nat := c.toNat - 48

def number? (cs : List Char) (fixed : Bool) : Option (Nat × List Char) :=
  match cs with
  | a :: b :: rest =>
    if !isDigitAt cs 0 then none
    else if isDigitAt cs 1 then some (digitOf a * 10 + digitOf b, rest)
    else if fixed then none
    else some (digitOf a, b :: rest)
  | [a] => if isDigitAt cs 0 && !fixed then some (digitOf a, []) else none
  | [] => none

/-- What a layout read: year, month and day when given. -/
structure Stamp where
  year : Nat := 0
  month : Nat := 1
  day : Nat := 1

def isLeap (y : Nat) : Bool := y % 4 == 0 && (y % 100 != 0 || y % 400 == 0)

def daysIn (month year : Nat) : Nat :=
  if month == 2 then (if isLeap year then 29 else 28)
  else if month == 4 || month == 6 || month == 9 || month == 11 then 30 else 31

/-- Read one field from the text, updating the stamp; none when it does not fit. -/
def readField (st : Stamp) (cs : List Char) : Field → Option (Stamp × List Char)
  | .lit c => match cs with
    | d :: rest => if c == d then some (st, rest) else none
    | [] => none
  | .year =>
    if cs.length ≥ 4 && (List.range 4).all (isDigitAt cs) then
      some ({ st with year := (cs.take 4).foldl (fun n c => n * 10 + digitOf c) 0 }, cs.drop 4)
    else none
  | .month => (number? cs true).bind fun (m, rest) =>
    if 1 ≤ m && m ≤ 12 then some ({ st with month := m }, rest) else none
  | .day => (number? cs true).map fun (d, rest) => ({ st with day := d }, rest)
  | .hour => (number? cs false).bind fun (h, rest) => if h < 24 then some (st, rest) else none
  | .minute => (number? cs true).bind fun (m, rest) => if m < 60 then some (st, rest) else none
  | .second => (number? cs true).bind fun (s, rest) => if s < 60 then some (st, rest) else none
  | .fraction =>
    match cs with
    | c :: d :: rest =>
      if (c == '.' || c == ',') && '0' ≤ d && d ≤ '9' then
        some (st, rest.dropWhile fun x => '0' ≤ x && x ≤ '9')
      else some (st, cs)
    | _ => some (st, cs)
  | .offset =>
    match cs with
    | 'Z' :: rest => some (st, rest)
    | sign :: h1 :: h2 :: colon :: m1 :: m2 :: rest =>
      if colon != ':' then none
      else
        match number? [h1, h2] true, number? [m1, m2] true with
        | some (h, _), some (m, _) =>
          if (sign == '+' || sign == '-') && h ≤ 24 && m ≤ 60 then some (st, rest) else none
        | _, _ => none
    | _ => none

def fits (layout : Layout) (cs : List Char) : Bool :=
  let r := layout.fields.foldl (fun acc f => acc.bind fun (st, rest) => readField st rest f)
    (some (({} : Stamp), cs))
  match r with
  | some (st, []) => 1 ≤ st.day && st.day ≤ daysIn st.month st.year
  | _ => false

def misplaced (cs : List Char) (spelled : String) : Bool :=
  let ls := (spelled.toList.takeWhile fun c => c != '.' && c != 'Z').zipIdx
  ls.any fun (c, i) => !('0' ≤ c && c ≤ '9') && cs[i]? != some c

def datetimeValid (text : String) : Bool :=
  let cs := text.toList
  match layouts.find? (fits · cs) with
  | some l => !misplaced cs l.spelled
  | none => false

def datetimeText (text : String) : String :=
  String.ofList (text.toList.map fun c => if c == 'z' then 'Z' else if c == 't' || c == ' ' then 'T' else c)

end LineKv.Toml
