import LineKv.Toml.Token

/-!
Splitting a TOML document into tokens. The scanner is a state machine over the characters of the
text: each mode reads a little, may emit a token, and names the next mode, while a stack of modes
says where to return after a value, a key or a comment.
-/

namespace LineKv.Toml

/-- The modes of the scanner. -/
inductive Mode where
  | top | topEnd | tableStart | tableEnd | arrayTableEnd | tableNameStart | tableNameEnd
  | bareName | quotedName | keyStart | keyNameStart | keyEnd | value
  | arrayValue | arrayValueEnd | arrayEnd | inlineValue | inlineValueEnd | inlineEnd
  | basicString | multilineString | rawString | multilineRaw | multilineEscape | stringEscape
  | hexEscape | shortUnicode | longUnicode
  | numberOrDateStart | numberOrDate | datetime | hexInteger | octalInteger | binaryInteger
  | decimalNumber | decimalNumberStart | baseNumberOrDate | float | bool
  | commentStart | comment
  deriving DecidableEq, Repr, Inhabited

def endMark : Char := '\x00'

def badMark : Char := '�'

def isBlank (c : Char) : Bool := c == ' ' || c == '\t'

def isNewline (c : Char) : Bool := c == '\n' || c == '\r'

def isDecimal (c : Char) : Bool := '0' ≤ c && c ≤ '9'

def isHexDigit (c : Char) : Bool := isDecimal c || ('a' ≤ c && c ≤ 'f') || ('A' ≤ c && c ≤ 'F')

def isOctalDigit (c : Char) : Bool := '0' ≤ c && c ≤ '7'

def isBinaryDigit (c : Char) : Bool := c == '0' || c == '1'

def isBareChar (c : Char) : Bool :=
  ('a' ≤ c && c ≤ 'z') || ('A' ≤ c && c ≤ 'Z') || isDecimal c || c == '_' || c == '-'

def isControlChar (c : Char) : Bool :=
  c != '\t' && c != '\n' && c != '\r' && (c.toNat ≤ 0x1F || c.toNat == 0x7F)

/-- The scanner: the text, where the current token starts, where reading is, the line, whether the
end was read, whether the current string had an escape, the mode stack, and the output. -/
structure Scanner where
  input : Array Char
  start : Nat
  pos : Nat
  line : Nat
  atEnd : Bool
  escaped : Bool
  stack : List Mode
  tokens : Array Token
  failure : Option (ScanError × Nat)

namespace Scanner

def init (text : String) : Scanner :=
  ⟨text.toList.toArray, 0, 0, 1, false, false, [], #[], none⟩

def charAt (s : Scanner) (i : Nat) : Char := s.input.getD i endMark

def failAt (s : Scanner) (e : ScanError) (line : Nat) : Scanner :=
  if s.failure.isSome then s else { s with failure := some (e, line) }

def next (s : Scanner) : Scanner × Char :=
  if s.pos ≥ s.input.size then ({ s with atEnd := true }, endMark)
  else
    let c := s.charAt s.pos
    let s := if c == '\n' then { s with line := s.line + 1 } else s
    if isControlChar c || (c == '\r' && s.charAt (s.pos + 1) != '\n') then
      (s.failAt (.control c) s.line, badMark)
    else ({ s with pos := s.pos + 1 }, c)

def backup (s : Scanner) : Scanner :=
  if s.atEnd then { s with atEnd := false }
  else
    let pos := s.pos - 1
    { s with pos := pos, line := if s.charAt pos == '\n' then s.line - 1 else s.line }

def accept (s : Scanner) (c : Char) : Scanner × Bool :=
  let (s', r) := s.next
  if r == c then (s', true) else (s'.backup, false)

def peek (s : Scanner) : Scanner × Char :=
  let (s', r) := s.next
  (s'.backup, r)

def ignore (s : Scanner) : Scanner := { s with start := s.pos }

def current (s : Scanner) : String := String.ofList (s.input.extract s.start s.pos).toList

def skipWhile (s : Scanner) (p : Char → Bool) : Scanner :=
  go s (s.input.size + 1)
where
  /-- Skip with a bound on the characters read. -/
  go (s : Scanner) : Nat → Scanner
    | 0 => s
    | fuel + 1 =>
      let (s', r) := s.next
      if p r && s'.failure.isNone then go s' fuel else s'.backup.ignore

def emitWith (s : Scanner) (k : TokenKind) (text : String) : Scanner :=
  if s.failure.isSome then s
  else { s with tokens := s.tokens.push ⟨k, text, s.line⟩, start := s.pos }

def emit (s : Scanner) (k : TokenKind) : Scanner :=
  if s.start > s.pos then
    s.failAt (.badByte ((Utf8.encode (s.charAt s.pos)).headD 0).toNat) s.line
  else s.emitWith k s.current

def emitTrim (s : Scanner) (k : TokenKind) : Scanner := s.emitWith k s.current.trimAscii.copy

def push (s : Scanner) (m : Mode) : Scanner := { s with stack := m :: s.stack }

def stop (s : Scanner) (e : ScanError) (line : Nat) : Scanner × Option Mode := (s.failAt e line, none)

def error (s : Scanner) (e : ScanError) : Scanner × Option Mode :=
  s.stop e (if s.atEnd then s.line - 1 else s.line)

def errorf (s : Scanner) (e : ScanError) : Scanner × Option Mode :=
  s.stop e (if s.atEnd && s.pos ≥ 1 && s.charAt (s.pos - 1) == '\n' then s.line - 1 else s.line)

def errorPrevLine (s : Scanner) (e : ScanError) : Scanner × Option Mode := s.stop e (s.line - 1)

def pop (s : Scanner) : Scanner × Option Mode :=
  match s.stack with
  | m :: rest => ({ s with stack := rest }, some m)
  | [] => s.errorf .noState

def goto (s : Scanner) (m : Mode) : Scanner × Option Mode := (s, some m)

def hexDigits (s : Scanner) (e : String → ScanError) : Nat → Scanner × Option Mode
  | 0 => s.pop
  | n + 1 =>
    let (s, r) := s.next
    if isHexDigit r then s.hexDigits e n else s.errorf (e s.current)

def escape (s : Scanner) : Scanner × Option Mode :=
  let (s, r) := { s with escaped := true }.next
  if ['e', 'b', 't', 'n', 'f', 'r', '"', ' ', '\t', '\\'].contains r then s.pop
  else if r == 'x' then s.goto .hexEscape
  else if r == 'u' then s.goto .shortUnicode
  else if r == 'U' then s.goto .longUnicode
  else s.error (.badEscape r)

def letters (s : Scanner) : Scanner × String :=
  go s "" (s.input.size + 1)
where
  /-- Read letters with a bound. -/
  go (s : Scanner) (acc : String) : Nat → Scanner × String
    | 0 => (s, acc)
    | fuel + 1 =>
      let (s', r) := s.next
      if Text.isLetter r && s'.failure.isNone then go s' (acc.push r) fuel else (s'.backup, acc)

def notSpecial (s : Scanner) (r : Char) : Scanner × Option Mode :=
  if Text.isLetter r then s.backup.goto .bool
  else if r == endMark then s.errorf .eofValue
  else if r == '\n' then s.errorPrevLine (.expectedValue r)
  else s.errorf (.expectedValue r)

def openString (s : Scanner) (q : Char) (single multi : Mode) : Scanner × Option Mode :=
  let (s1, a) := s.accept q
  if a then
    let (s2, b) := s1.accept q
    if b then s2.ignore.goto multi else s2.backup.ignore.goto single
  else s1.ignore.goto single

/-- After a quote inside a multi-line string: three end it, more than five are an error. -/
def closeMultiline (s : Scanner) (q : Char) (here : Mode) (kind : TokenKind) (tooMany : ScanError)
    (allowed : String → Bool) : Scanner × Option Mode :=
  let (s1, a) := s.accept q
  if a then
    let (s2, b) := s1.accept q
    if b then
      let (s3, p) := s2.peek
      if p == q then
        if allowed s3.current then s3.backup.backup.goto here else s3.errorf tooMany
      else
        let s4 := { s3.backup.backup.backup with escaped := false }.emit kind
        let s5 := s4.next.1.next.1.next.1
        s5.ignore.pop
    else s2.backup.goto here
  else s1.goto here

def basePrefix (s : Scanner) (ok : Char → Bool) (e : String → ScanError) (m : Mode) :
    Scanner × Option Mode :=
  let (s, p) := s.peek
  if ok p then s.goto m else s.errorf (e (s.current.push p))

/-- One step in mode `m`: the scanner after it and the next mode, none when scanning stops. -/
def step (s : Scanner) : Mode → Scanner × Option Mode
  | .top =>
    let (s, r) := s.next
    if isBlank r || isNewline r then s.ignore.goto .top
    else if r == '#' then (s.push .top).goto .commentStart
    else if r == '[' then s.goto .tableStart
    else if r == endMark then
      if s.pos > s.start then s.errorf .unexpectedEof else (s.emit .eof, none)
    else (s.backup.push .topEnd).goto .keyStart
  | .topEnd =>
    let (s, r) := s.next
    if r == '#' then (s.push .top).goto .commentStart
    else if isBlank r then s.goto .topEnd
    else if isNewline r then s.ignore.goto .top
    else if r == endMark then (s.emit .eof, none)
    else s.errorf (.itemEnd r)
  | .tableStart =>
    let (s, r) := s.peek
    if r == '[' then ((s.next.1.emit .arrayTableStart).push .arrayTableEnd).goto .tableNameStart
    else ((s.emit .tableStart).push .tableEnd).goto .tableNameStart
  | .tableEnd => (s.emit .tableEnd).goto .topEnd
  | .arrayTableEnd =>
    let (s, r) := s.next
    if r != ']' then s.errorf (.arrayTableEnd r) else (s.emit .arrayTableEnd).goto .topEnd
  | .tableNameStart =>
    let (s, r) := (s.skipWhile isBlank).peek
    if r == ']' || r == endMark then s.errorf .emptyTableName
    else if r == '.' then s.errorf .emptyTablePart
    else if r == '"' || r == '\'' then (s.ignore.push .tableNameEnd).goto .quotedName
    else (s.push .tableNameEnd).goto .bareName
  | .tableNameEnd =>
    let (s, r) := (s.skipWhile isBlank).next
    if isBlank r then s.goto .tableNameEnd
    else if r == '.' then s.ignore.goto .tableNameStart
    else if r == ']' then s.pop
    else s.errorf (.tableNameEnd r)
  | .bareName =>
    let (s, r) := s.next
    if isBareChar r then s.goto .bareName else (s.backup.emit .text).pop
  | .quotedName =>
    let (s, r) := s.next
    if isBlank r then s.ignore.goto .value
    else if r == '"' then s.ignore.goto .basicString
    else if r == '\'' then s.ignore.goto .rawString
    else if r == endMark then s.errorf .eofValue
    else s.errorf (.expectedValue r)
  | .keyStart =>
    let (s, r) := (s.skipWhile isBlank).peek
    if r == '=' || r == endMark then s.errorf .blankKey
    else if r == '.' then s.errorf .keyStartsDot
    else
      let s := if r == '"' || r == '\'' then s.ignore else s
      (s.emit .keyStart).goto .keyNameStart
  | .keyNameStart =>
    let (s, r) := (s.skipWhile isBlank).peek
    if r == '=' || r == endMark then s.errorf .keyPartEquals
    else if r == '.' then s.errorf .keyPartDot
    else if r == '"' || r == '\'' then (s.ignore.push .keyEnd).goto .quotedName
    else (s.push .keyEnd).goto .bareName
  | .keyEnd =>
    let (s, r) := (s.skipWhile isBlank).next
    if isBlank r then s.ignore.goto .keyEnd
    else if r == endMark then s.errorf .eofKeySep
    else if r == '.' then s.ignore.goto .keyNameStart
    else if r == '=' then (s.emit .keyEnd).ignore.goto .value
    else if r == '\n' then s.errorPrevLine (.keySep r)
    else s.errorf (.keySep r)
  | .value =>
    let (s, r) := s.next
    if isBlank r then s.ignore.goto .value
    else if isDecimal r then s.backup.goto .numberOrDateStart
    else if r == '[' then (s.ignore.emit .arrayStart).goto .arrayValue
    else if r == '{' then (s.ignore.emit .inlineTableStart).goto .inlineValue
    else if r == '"' then s.openString '"' .basicString .multilineString
    else if r == '\'' then s.openString '\'' .rawString .multilineRaw
    else if r == '.' then s.errorf .floatStartsDot
    else if r == 'i' || r == 'n' then
      let (s1, a) := s.accept 'n'
      let (s2, ok) := if a then s1.accept 'f' else (s1, false)
      let (s3, ok) :=
        if ok then (s2, true)
        else
          let (s3, b) := s2.accept 'a'
          if b then s3.accept 'n' else (s3, false)
      if ok then (s3.emit .float).pop else s3.notSpecial r
    else if r == '-' || r == '+' then s.goto .decimalNumberStart
    else s.notSpecial r
  | .arrayValue =>
    let (s, r) := s.next
    if isBlank r || isNewline r then s.ignore.goto .arrayValue
    else if r == '#' then (s.push .arrayValue).goto .commentStart
    else if r == ',' then s.errorf .unexpectedComma
    else if r == ']' then s.goto .arrayEnd
    else (s.backup.push .arrayValueEnd).goto .value
  | .arrayValueEnd =>
    let (s, r) := s.next
    if isBlank r || isNewline r then s.ignore.goto .arrayValueEnd
    else if r == '#' then (s.push .arrayValueEnd).goto .commentStart
    else if r == ',' then s.ignore.goto .arrayValue
    else if r == ']' then s.goto .arrayEnd
    else s.errorf (.arraySeparator (if r == endMark then none else some r))
  | .arrayEnd => (s.ignore.emit .arrayEnd).pop
  | .inlineValue =>
    let (s, r) := s.next
    if isBlank r || isNewline r then s.ignore.goto .inlineValue
    else if r == '#' then (s.push .inlineValue).goto .commentStart
    else if r == ',' then s.errorf .unexpectedComma
    else if r == '}' then s.goto .inlineEnd
    else (s.backup.push .inlineValueEnd).goto .keyStart
  | .inlineValueEnd =>
    let (s, r) := s.next
    if isBlank r || isNewline r then s.ignore.goto .inlineValueEnd
    else if r == '#' then (s.push .inlineValueEnd).goto .commentStart
    else if r == ',' then
      let (s, p) := (s.ignore.skipWhile isBlank).peek
      if p == '}' then s.goto .inlineValueEnd else s.goto .inlineValue
    else if r == '}' then s.goto .inlineEnd
    else s.errorf (.inlineTableSeparator (if r == endMark then none else some r))
  | .inlineEnd => (s.ignore.emit .inlineTableEnd).pop
  | .basicString =>
    let (s, r) := s.next
    if r == endMark then s.errorf .eofString
    else if isNewline r then s.errorPrevLine .stringNewline
    else if r == '\\' then (s.push .basicString).goto .stringEscape
    else if r == '"' then
      let s := s.backup
      let s := if s.escaped then { s with escaped := false }.emit .stringEsc else s.emit .string
      s.next.1.ignore.pop
    else s.goto .basicString
  | .multilineString =>
    let (s, r) := s.next
    if r == endMark then s.errorf .eofMultilineString
    else if r == '\\' then s.goto .multilineEscape
    else if r == '"' then
      s.closeMultiline '"' .multilineString .multilineString .sixQuotes fun cur =>
        !(cur.endsWith "\"\"\"\"\"" && !cur.endsWith "\\\"\"\"\"\"")
    else s.goto .multilineString
  | .rawString =>
    let (s, r) := s.next
    if r == endMark then s.errorf .eofRawString
    else if isNewline r then s.errorPrevLine .stringNewline
    else if r == '\'' then ((s.backup.emit .rawString).next.1.ignore).pop
    else s.goto .rawString
  | .multilineRaw =>
    let (s, r) := s.next
    if r == endMark then s.errorf .eofMultilineRaw
    else if r == '\'' then
      s.closeMultiline '\'' .multilineRaw .rawMultilineString .sixApostrophes fun cur =>
        !cur.endsWith "'''''"
    else s.goto .multilineRaw
  | .multilineEscape =>
    let (s, r) := s.next
    if isNewline r then s.goto .multilineString else (s.backup.push .multilineString).escape
  | .stringEscape => s.escape
  | .hexEscape => s.hexDigits .hexEscape 2
  | .shortUnicode => s.hexDigits .shortUnicode 4
  | .longUnicode => s.hexDigits .longUnicode 8
  | .numberOrDateStart =>
    let (s, r) := s.next
    if r == '0' then s.goto .baseNumberOrDate
    else if !isDecimal r then s.errorf (.expectedDigit r)
    else s.goto .numberOrDate
  | .numberOrDate =>
    let (s, r) := s.next
    if isDecimal r then s.goto .numberOrDate
    else if r == '-' || r == ':' then s.goto .datetime
    else if r == '_' then s.goto .decimalNumber
    else if r == '.' || r == 'e' || r == 'E' then s.goto .float
    else (s.backup.emit .integer).pop
  | .datetime =>
    let (s, r) := s.next
    if isDecimal r || ['-', ':', 'T', 't', ' ', '.', 'Z', 'z', '+'].contains r then s.goto .datetime
    else (s.backup.emitTrim .datetime).pop
  | .hexInteger =>
    let (s, r) := s.next
    if isHexDigit r || r == '_' then s.goto .hexInteger else (s.backup.emit .integer).pop
  | .octalInteger =>
    let (s, r) := s.next
    if isOctalDigit r || r == '_' then s.goto .octalInteger else (s.backup.emit .integer).pop
  | .binaryInteger =>
    let (s, r) := s.next
    if isBinaryDigit r || r == '_' then s.goto .binaryInteger else (s.backup.emit .integer).pop
  | .decimalNumber =>
    let (s, r) := s.next
    if isDecimal r || r == '_' then s.goto .decimalNumber
    else if r == '.' || r == 'e' || r == 'E' then s.goto .float
    else (s.backup.emit .integer).pop
  | .decimalNumberStart =>
    let (s, r) := s.next
    if r == 'i' || r == 'n' then
      let (a, b) := if r == 'i' then ('n', 'f') else ('a', 'n')
      let (s1, ok1) := s.accept a
      let (s2, ok2) := if ok1 then s1.accept b else (s1, false)
      if ok2 then (s2.emit .float).pop else s2.errorf (.badSpecial s2.current)
    else if r == '.' then s.errorf .floatStartsDot
    else
      let (s, p) := if r == '0' then s.peek else (s, endMark)
      if p == 'b' || p == 'o' || p == 'x' then s.errorf (.signedBase (s.current.push p))
      else if isDecimal r then s.goto .decimalNumber
      else s.errorf (.expectedDigit r)
  | .baseNumberOrDate =>
    let (s, r) := s.next
    if isDecimal r then s.goto .numberOrDate
    else if r == '_' then s.goto .decimalNumber
    else if r == '.' || r == 'e' || r == 'E' then s.goto .float
    else if r == 'b' then s.basePrefix isBinaryDigit .notBinary .binaryInteger
    else if r == 'o' then s.basePrefix isOctalDigit .notOctal .octalInteger
    else if r == 'x' then s.basePrefix isHexDigit .notHex .hexInteger
    else (s.backup.emit .integer).pop
  | .float =>
    let (s, r) := s.next
    if isDecimal r || ['_', '.', '-', '+', 'e', 'E'].contains r then s.goto .float
    else (s.backup.emit .float).pop
  | .bool =>
    let (s, w) := s.letters
    if w == "true" || w == "false" then (s.emit .bool).pop else s.errorf (.expectedWord w)
  | .commentStart => (s.ignore.emit .commentStart).goto .comment
  | .comment =>
    let (s, r) := s.next
    if isNewline r || r == endMark then (s.backup.emit .text).pop else s.goto .comment

def run : Nat → Scanner → Mode → Scanner
  | 0, s, _ => s
  | fuel + 1, s, m =>
    let (s, next) := s.step m
    if s.failure.isSome then s
    else
      match next with
      | none => s
      | some m => run fuel s m

end Scanner

def Scanned.ofText (text : String) : Scanned :=
  let s := Scanner.run (64 * (text.length + 4)) (Scanner.init text) .top
  ⟨s.tokens, s.failure⟩

end LineKv.Toml
