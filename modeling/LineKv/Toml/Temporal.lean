import LineKv.Bytes

/-!
Date-times of a stream-read document. Their kind is told by their characters: a `-` makes a date,
a `T`, `:`, `.` or a space before a digit a time, and a `Z`, a `+`, or a `-` from the ninth
character on an offset; a space before a digit passes over the digit and the byte after it.
-/

namespace LineKv.Toml

/-- The kinds of date-time. -/
inductive Temporal where
  | offsetDateTime | localDateTime | localDate | localTime
  deriving DecidableEq, Repr

namespace Temporal

def typeName : Temporal → String
  | .offsetDateTime => "time.Time"
  | .localDateTime => "toml.LocalDateTime"
  | .localDate => "toml.LocalDate"
  | .localTime => "toml.LocalTime"

def isDigitByte (c : UInt8) : Bool := 48 ≤ c && c ≤ 57

/-- The kind of a date-time's text. -/
def ofText (b : Bytes) : Temporal :=
  let (date, time, zone) := go b 0 false false false false b.length
  if time then (if date then (if zone then .offsetDateTime else .localDateTime) else .localTime)
  else .localDate
where
  /-- Scan the bytes, noting a date, a time and an offset. -/
  go : Bytes → Nat → Bool → Bool → Bool → Bool → Nat → Bool × Bool × Bool
    | [], _, date, time, zone, _, _ => (date, time, zone)
    | _, _, date, time, zone, _, 0 => (date, time, zone)
    | c :: rest, i, date, time, zone, spaced, fuel + 1 =>
      if isDigitByte c then go rest (i + 1) date time zone spaced fuel
      else if c == 45 then go rest (i + 1) true time (zone || i ≥ 8) spaced fuel
      else if c == 84 || c == 116 || c == 58 || c == 46 then go rest (i + 1) date true zone spaced fuel
      else if c == 43 then go rest (i + 1) date time true spaced fuel
      else if c == 90 || c == 122 then (date, time, true)
      else if c == 32 && !spaced && (rest.head?.map isDigitByte).getD false then
        go (rest.drop 2) (i + 3) date true zone true fuel
      else (date, time, zone)

def digitsOf (b : Bytes) : Except String Nat :=
  if b.all isDigitByte then .ok (b.foldl (fun n c => n * 10 + (c.toNat - 48)) 0)
  else .error "expected digit (0-9)"

def monthDays (month year : Nat) : Nat :=
  if month == 2 then (if year % 4 == 0 && (year % 100 != 0 || year % 400 == 0) then 29 else 28)
  else if month == 4 || month == 6 || month == 9 || month == 11 then 30 else 31

def checkDate (b : Bytes) : Except String Unit := do
  if b.length != 10 || b[4]? != some 45 || b[7]? != some 45 then
    throw "dates are expected to have the format YYYY-MM-DD"
  let y ← digitsOf (b.take 4)
  let m ← digitsOf ((b.drop 5).take 2)
  let d ← digitsOf ((b.drop 8).take 2)
  if !(1 ≤ m && m ≤ 12 && 1 ≤ d && d ≤ monthDays m y) then throw "impossible date"

/-- Check a time `HH:MM:SS[.fraction]`; what follows it. -/
def checkTime (b : Bytes) : Except String Bytes := do
  if b.length < 8 then throw "times are expected to have the format HH:MM:SS[.NNNNNN]"
  let h ← digitsOf (b.take 2)
  if h > 23 then throw "hour cannot be greater 23"
  if b[2]? != some 58 then throw "expecting colon between hours and minutes"
  let m ← digitsOf ((b.drop 3).take 2)
  if m > 59 then throw "minutes cannot be greater 59"
  if b[5]? != some 58 then throw "expecting colon between minutes and seconds"
  let s ← digitsOf ((b.drop 6).take 2)
  if s > 60 then throw "seconds cannot be greater 60"
  let rest := b.drop 8
  match rest with
  | 46 :: more =>
    let digits := more.takeWhile isDigitByte
    if more.isEmpty then throw "nanoseconds need at least one digit"
    if digits.isEmpty then throw "need at least one digit after fraction point"
    pure (more.drop digits.length)
  | _ => pure rest

def checkDateTime (b : Bytes) : Except String Bytes := do
  if b.length < 11 then
    throw "local datetimes are expected to have the format YYYY-MM-DDTHH:MM:SS[.NNNNNNNNN]"
  checkDate (b.take 10)
  let sep := b[10]?
  if !(sep == some 84 || sep == some 32 || sep == some 116) then
    throw "datetime separator is expected to be T or a space"
  checkTime (b.drop 11)

/-- Check an offset after a date-time. -/
def checkOffset (b : Bytes) : Except String Unit := do
  match b with
  | c :: rest =>
    if c == 90 || c == 122 then
      if !rest.isEmpty then throw "extra bytes at the end of the timezone"
    else
      if b.length != 6 then throw "invalid date-time timezone"
      if !(c == 45 || c == 43) then throw "invalid timezone offset character"
      if b[3]? != some 58 then throw "expected a : separator"
      let h ← digitsOf ((b.drop 1).take 2)
      if h > 23 then throw "invalid timezone offset hours"
      let m ← digitsOf ((b.drop 4).take 2)
      if m > 59 then throw "invalid timezone offset minutes"
  | [] => throw "invalid date-time timezone"

/-- Check a date-time's text against its kind. -/
def check (b : Bytes) : Temporal → Except String Unit
  | .localDate => checkDate b
  | .localTime => do
    let rest ← checkTime b
    if !rest.isEmpty then throw "extra characters at the end of a local time"
  | .localDateTime => do
    let rest ← checkDateTime b
    if !rest.isEmpty then throw "extra characters at the end of a local date time"
  | .offsetDateTime => do
    let rest ← checkDateTime b
    checkOffset rest

end Temporal

end LineKv.Toml
