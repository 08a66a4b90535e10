import LineKv.Text.Quoted

/-!
TOML read as a stream of expressions: a key/value pair, a `[table]` header or an `[[array]]`
header, one per line, blank lines and comments skipped.
-/

namespace LineKv.Toml

/-- A value of a stream-read document. -/
inductive Term where
  | str (data : Bytes)
  | int (text : Bytes)
  | float (text : Bytes)
  | bool (b : Bool)
  | datetime (text : Bytes)
  | array (items : List Term)
  | inline (entries : List (List Bytes × Term))
  deriving Repr, Inhabited

def Term.data : Term → Bytes
  | .str d => d
  | .int t => t
  | .float t => t
  | .bool b => Bytes.ofString (if b then "true" else "false")
  | .datetime t => t
  | .array _ => []
  | .inline _ => []

/-- A top-level expression. -/
inductive Expr where
  | keyValue (key : List Bytes) (value : Term)
  | table (key : List Bytes)
  | arrayTable (key : List Bytes)
  deriving Repr, Inhabited

namespace Stream

def isWs (c : UInt8) : Bool := c == 32 || c == 9

def skipWs (b : Bytes) : Bytes := b.dropWhile isWs

def isDigit (c : UInt8) : Bool := 48 ≤ c && c ≤ 57

def isKeyChar (c : UInt8) : Bool :=
  (65 ≤ c && c ≤ 90) || (97 ≤ c && c ≤ 122) || isDigit c || c == 95 || c == 45

def isTextByte (c : UInt8) : Bool := c == 9 || (32 ≤ c && c != 127)

def byteChar (c : UInt8) : Char := Char.ofNat c.toNat

def runeText (c : UInt8) : String :=
  let code := String.fromUTF8! (ByteArray.mk (Text.hexWidth 4 c.toNat).toArray)
  let shown := if Text.isPrintable (byteChar c) then " '" ++ (byteChar c).toString ++ "'" else ""
  "U+" ++ code.toUpper ++ shown

def commentEnd : Bytes → Except String Bytes
  | [] => .ok []
  | 10 :: rest => .ok (10 :: rest)
  | 13 :: 10 :: rest => .ok (10 :: rest)
  | 13 :: _ => .error "invalid character in comment"
  | c :: rest => if isTextByte c || c ≥ 128 then commentEnd rest else .error "invalid character in comment"

def newline : Bytes → Except String Bytes
  | [] => .ok []
  | 10 :: rest => .ok rest
  | [13] => .error "windows new line expected"
  | 13 :: 10 :: rest => .ok rest
  | 13 :: _ => .error "windows new line should be \\r\\n"
  | c :: _ => .error ("expected newline but got " ++ runeText c)

def expect (x : Char) (b : Bytes) : Except String Bytes :=
  match b with
  | [] => .error ("expected character " ++ x.toString ++ " but the document ended here")
  | c :: rest => if c == Bytes.ascii x then .ok rest else .error ("expected character " ++ x.toString)

def scanBasic : Bytes → Bytes → Bool → Except String ((Bytes × Bool) × Bytes)
  | [], _, _ => .error "basic string not terminated by \""
  | 34 :: rest, acc, esc => .ok ((acc.reverse, esc), rest)
  | 10 :: _, _, _ => .error "basic strings cannot have new lines"
  | 13 :: _, _, _ => .error "basic strings cannot have new lines"
  | [92], _, _ => .error "need a character after \\"
  | 92 :: c :: rest, acc, _ => scanBasic rest (c :: 92 :: acc) true
  | c :: rest, acc, esc => scanBasic rest (c :: acc) esc

def hexValue? (c : UInt8) : Option Nat :=
  if isDigit c then some (c.toNat - 48)
  else if 97 ≤ c && c ≤ 102 then some (c.toNat - 87)
  else if 65 ≤ c && c ≤ 70 then some (c.toNat - 55)
  else none

/-- A code point written with `len` hex digits at the start of `b` (which still holds the
closing quote), encoded. -/
def codePoint (len : Nat) (b : Bytes) : Except String Bytes :=
  if b.length < len then
    .error ("unicode point needs " ++ toString len ++ " character, not " ++ toString b.length)
  else
    match (b.take len).mapM hexValue? with
    | none => .error "non-hex character"
    | some ds =>
      let r := ds.foldl (fun acc d => acc * 16 + d) 0
      if r > 0x10FFFF || (0xD800 ≤ r && r < 0xE000) then .error "escape sequence is invalid Unicode code point"
      else .ok (Utf8.encode (Char.ofNat r))

def escapeByte? (c : UInt8) : Option UInt8 :=
  match c with
  | 34 => some 34 | 92 => some 92 | 98 => some 8 | 102 => some 12 | 110 => some 10
  | 114 => some 13 | 116 => some 9 | 101 => some 27
  | _ => none

/-- Decode escapes in a string body (`tail` is what follows the body, for `\u` at its end). When
`multiline`, a backslash ending a line drops the line break and the blanks after it. -/
def unescape (multiline : Bool) : Nat → Bytes → Bytes → Except String Bytes
  | 0, _, acc => .ok acc.reverse
  | _ + 1, [], acc => .ok acc.reverse
  | fuel + 1, 92 :: rest, acc =>
    let blanks := rest.takeWhile fun c => c == 32 || c == 9 || c == 13
    let afterBlanks := rest.drop blanks.length
    if multiline && afterBlanks.head? == some 10 then
      unescape multiline fuel (rest.dropWhile fun c => c == 10 || c == 13 || c == 32 || c == 9) acc
    else
      match rest with
      | [] => .ok acc.reverse
      | c :: more =>
        match escapeByte? c with
        | some x => unescape multiline fuel more (x :: acc)
        | none =>
          if c == 117 then
            match codePoint 4 (more ++ [34]) with
            | .ok enc => unescape multiline fuel (more.drop 4) (enc.reverse ++ acc)
            | .error e => .error e
          else if c == 85 then
            match codePoint 8 (more ++ [34]) with
            | .ok enc => unescape multiline fuel (more.drop 8) (enc.reverse ++ acc)
            | .error e => .error e
          else .error ("invalid escaped character " ++ runeText c)
  | fuel + 1, c :: rest, acc =>
    if isTextByte c || c ≥ 128 || (multiline && (c == 10 || c == 13)) then unescape multiline fuel rest (c :: acc)
    else .error ("invalid character " ++ runeText c)

def plainBody (multiline : Bool) (body : Bytes) : Except String Bytes :=
  if body.all fun c => isTextByte c || c ≥ 128 || (multiline && (c == 10 || c == 13)) then .ok body
  else .error "invalid UTF-8"

def basicString (b : Bytes) : Except String (Bytes × Bytes) := do
  let ((body, esc), rest) ← scanBasic (b.drop 1) [] false
  let text ← if esc then unescape false (body.length + 1) body [] else plainBody false body
  return (text, rest)

def scanLiteral : Bytes → Bytes → Except String (Bytes × Bytes)
  | [], _ => .error "unterminated literal string"
  | 39 :: rest, acc => .ok (acc.reverse, rest)
  | 10 :: _, _ => .error "literal strings cannot have new lines"
  | 13 :: _, _ => .error "literal strings cannot have new lines"
  | c :: rest, acc => if isTextByte c || c ≥ 128 then scanLiteral rest (c :: acc) else .error "invalid character"

/-- Except String (a × Bytes) multi-line basic string after its opening delimiter. Up to two quotes right before
the closing delimiter belong to the text. -/
def scanMultiBasic : Bytes → Bytes → Bool → Except String ((Bytes × Bool) × Bytes)
  | 34 :: 34 :: 34 :: rest, acc, esc =>
    match rest with
    | 34 :: 34 :: 34 :: _ => .error "\"\"\" not allowed in multiline basic string"
    | 34 :: 34 :: more => .ok ((acc.reverse ++ [34, 34], esc), more)
    | 34 :: more => .ok ((acc.reverse ++ [34], esc), more)
    | _ => .ok ((acc.reverse, esc), rest)
  | [92], _, _ => .error "need a character after \\"
  | 92 :: c :: rest, acc, _ => scanMultiBasic rest (c :: 92 :: acc) true
  | 13 :: 10 :: rest, acc, esc => scanMultiBasic rest (10 :: 13 :: acc) esc
  | 13 :: _, _, _ => .error "need a \\n after \\r"
  | [], _, _ => .error "multiline basic string not terminated by \"\"\""
  | c :: rest, acc, esc => scanMultiBasic rest (c :: acc) esc

/-- Except String (a × Bytes) multi-line literal string after its opening delimiter. -/
def scanMultiLiteral : Bytes → Bytes → Except String (Bytes × Bytes)
  | 39 :: 39 :: 39 :: rest, acc =>
    match rest with
    | 39 :: 39 :: 39 :: _ => .error "''' not allowed in multiline literal string"
    | 39 :: 39 :: more => .ok (acc.reverse ++ [39, 39], more)
    | 39 :: more => .ok (acc.reverse ++ [39], more)
    | _ => .ok (acc.reverse, rest)
  | 13 :: 10 :: rest, acc => scanMultiLiteral rest (10 :: 13 :: acc)
  | 13 :: _, _ => .error "need a \\n after \\r"
  | [], _ => .error "multiline literal string not terminated by '''"
  | c :: rest, acc =>
    if isTextByte c || c ≥ 128 || c == 10 then scanMultiLiteral rest (c :: acc) else .error "invalid character"

def dropLeadingBreak : Bytes → Bytes
  | 10 :: rest => rest
  | 13 :: 10 :: rest => rest
  | b => b

/-- A string value starting at its first quote. -/
def stringValue (b : Bytes) : Except String (Term × Bytes) :=
  match b with
  | 34 :: 34 :: 34 :: rest => do
    let ((body, esc), rest) ← scanMultiBasic rest [] false
    let body := dropLeadingBreak body
    let text ← if esc then unescape true (body.length + 1) body [] else plainBody true body
    return (.str text, rest)
  | 34 :: _ => do
    let (text, rest) ← basicString b
    return (.str text, rest)
  | 39 :: 39 :: 39 :: rest => do
    let (body, rest) ← scanMultiLiteral rest []
    return (.str (dropLeadingBreak body), rest)
  | _ => do
    let (text, rest) ← scanLiteral (b.drop 1) []
    return (.str text, rest)

def simpleKey (b : Bytes) : Except String (Bytes × Bytes) :=
  match b with
  | [] => .error "expected key but found none"
  | 39 :: rest => scanLiteral rest []
  | 34 :: _ => basicString b
  | c :: _ =>
    if isKeyChar c then .ok (b.takeWhile isKeyChar, b.dropWhile isKeyChar)
    else .error ("invalid character at start of key: " ++ (byteChar c).toString)

def keyParts : Nat → Bytes → List Bytes → Except String ((List Bytes) × Bytes)
  | 0, b, acc => .ok (acc.reverse, b)
  | fuel + 1, b, acc =>
    match skipWs b with
    | 46 :: rest => do
      let (part, rest) ← simpleKey (skipWs rest)
      keyParts fuel rest (part :: acc)
    | b => .ok (acc.reverse, b)

def key (b : Bytes) : Except String ((List Bytes) × Bytes) := do
  let (first, rest) ← simpleKey b
  keyParts (rest.length + 1) rest [first]

def follows (b : Bytes) (word : String) : Bool := (Bytes.ofString word).isPrefixOf b

/-- A number or date-time: its kind is told by the first bytes, its text runs while the bytes
can belong to it. -/
def numberOrDate (b : Bytes) : Except String (Term × Bytes) :=
  match b with
  | [] => .error "incomplete number"
  | c :: _ =>
    if c == 105 then
      if follows b "inf" then .ok (.float (b.take 3), b.drop 3) else .error "expected 'inf'"
    else if c == 110 then
      if follows b "nan" then .ok (.float (b.take 3), b.drop 3) else .error "expected 'nan'"
    else if c != 43 && c != 45 && b.length ≥ 3 && dateShaped b then dateTime b
    else intOrFloat b
where
  /-- Digits then `:` at index 2 or `-` at index 4 within the first five bytes. -/
  dateShaped (b : Bytes) : Bool :=
    let head := b.take 5
    let digits := head.takeWhile isDigit
    match head.drop digits.length with
    | 58 :: _ => digits.length == 2
    | 45 :: _ => digits.length == 4
    | _ => false
  /-- A date, time or date-time: digits and `-:.+TtZz`, and one space before a digit, which
takes the digit and the byte after it whatever that byte is. -/
  dateTime (b : Bytes) : Except String (Term × Bytes) :=
    let n := dateLength b 0 false b.length
    .ok (.datetime (b.take n), b.drop n)
  /-- How many bytes a date-time runs. -/
  dateLength : Bytes → Nat → Bool → Nat → Nat
    | _, i, _, 0 => i
    | [], i, _, _ + 1 => i
    | c :: rest, i, spaced, fuel + 1 =>
      if isDigit c || c == 45 || c == 84 || c == 116 || c == 58 || c == 46 || c == 43 then
        dateLength rest (i + 1) spaced fuel
      else if c == 90 || c == 122 then i + 1
      else if c == 32 && !spaced && (rest.head?.map isDigit).getD false then
        dateLength (rest.drop 2) (i + 1 + min 2 rest.length) true fuel
      else i
  /-- An integer (decimal, or `0x`, `0o`, `0b` prefixed) or a float. -/
  intOrFloat (b : Bytes) : Except String (Term × Bytes) :=
    match b with
    | 48 :: c :: _ :: _ =>
      if c == 46 || c == 101 || c == 69 then decimal b
      else
        let valid : Option (UInt8 → Bool) :=
          if c == 120 then some fun x => (hexValue? x).isSome || x == 95
          else if c == 111 then some fun x => (48 ≤ x && x ≤ 55) || x == 95
          else if c == 98 then some fun x => x == 48 || x == 49 || x == 95
          else none
        match valid with
        | some ok =>
          let n := 2 + ((b.drop 2).takeWhile ok).length
          .ok (.int (b.take n), b.drop n)
        | none => .ok (.int (b.take 1), b.drop 1)
    | _ => decimal b
  /-- Digits, signs and underscores, with `.`, `e` or `E` making a float, possibly ending in
  `inf` or `nan`. -/
  decimal (b : Bytes) : Except String (Term × Bytes) :=
    let body := b.takeWhile fun c => isDigit c || c == 43 || c == 45 || c == 95 || c == 46 || c == 101 || c == 69
    let isFloat := body.any fun c => c == 46 || c == 101 || c == 69
    let rest := b.drop body.length
    match rest with
    | 105 :: _ =>
      if follows rest "inf" then .ok (.float (b.take (body.length + 3)), rest.drop 3)
      else .error "unexpected character 'i' while scanning for a number"
    | 110 :: _ =>
      if follows rest "nan" then .ok (.float (b.take (body.length + 3)), rest.drop 3)
      else .error "unexpected character 'n' while scanning for a number"
    | _ =>
      if body.isEmpty then .error "incomplete number"
      else .ok ((if isFloat then Term.float body else Term.int body), rest)

/-- Blanks, comments and line breaks between array items. -/
def gap : Nat → Bytes → Except String Bytes
  | 0, b => .ok b
  | fuel + 1, b =>
    let b := skipWs b
    let b? : Except String Bytes := match b with
      | 35 :: _ => commentEnd b
      | _ => .ok b
    match b? with
    | .error e => .error e
    | .ok b =>
      match b with
      | 10 :: _ | 13 :: _ => match newline b with
        | .ok rest => gap fuel rest
        | .error e => .error e
      | _ => .ok b

mutual

/-- A value. -/
def value : Nat → Bytes → Except String (Term × Bytes)
  | 0, _ => .error "expected value, not eof"
  | fuel + 1, b =>
    match b with
    | [] => .error "expected value, not eof"
    | 34 :: _ | 39 :: _ => stringValue b
    | 116 :: _ => if follows b "true" then .ok (.bool true, b.drop 4) else .error "expected 'true'"
    | 102 :: _ => if follows b "false" then .ok (.bool false, b.drop 5) else .error "expected 'false'"
    | 91 :: rest => do
      let (items, rest) ← arrayItems fuel rest true []
      return (.array items, rest)
    | 123 :: rest => do
      let (entries, rest) ← inlineEntries fuel rest true []
      return (.inline entries, rest)
    | _ => numberOrDate b

/-- The items of an array after its `[`, up to and past its `]`. -/
def arrayItems : Nat → Bytes → Bool → List Term → Except String ((List Term) × Bytes)
  | 0, _, _, _ => .error "array is incomplete"
  | _ + 1, [], _, _ => .error "expected character ] but the document ended here"
  | fuel + 1, b, first, acc => do
    let b ← gap (b.length + 1) b
    match b with
    | [] => .error "array is incomplete"
    | 93 :: rest => .ok (acc.reverse, rest)
    | 44 :: rest =>
      if first then .error "array cannot start with comma"
      else
        let b ← gap (rest.length + 1) rest
        match b with
        | 93 :: rest => .ok (acc.reverse, rest)
        | _ => do
          let (v, rest) ← value fuel b
          let rest ← gap (rest.length + 1) rest
          arrayItems fuel rest false (v :: acc)
    | _ =>
      if !first then .error "array elements must be separated by commas"
      else do
        let (v, rest) ← value fuel b
        let rest ← gap (rest.length + 1) rest
        arrayItems fuel rest false (v :: acc)

/-- The pairs of an inline table after its `{`, up to and past its `}`. -/
def inlineEntries : Nat → Bytes → Bool → List (List Bytes × Term) → Except String ((List (List Bytes × Term)) × Bytes)
  | 0, _, _, _ => .error "inline table is incomplete"
  | _ + 1, [], _, _ => .error "expected character \x7d but the document ended here"
  | fuel + 1, b, first, acc => do
    let b := skipWs b
    match b with
    | [] => .error "inline table is incomplete"
    | 125 :: rest => .ok (acc.reverse, rest)
    | _ => do
      let b ← if first then pure b else do
        let b ← expect ',' b
        pure (skipWs b)
      let ((k, v), rest) ← pair fuel b
      inlineEntries fuel rest false ((k, v) :: acc)

def pair : Nat → Bytes → Except String ((List Bytes × Term) × Bytes)
  | 0, _ => .error "expected key but found none"
  | fuel + 1, b => do
    let (k, rest) ← key b
    let rest := skipWs rest
    if rest.isEmpty then throw "expected = after a key, but the document ends there"
    let rest ← expect '=' rest
    let (v, rest) ← value fuel (skipWs rest)
    return ((k, v), rest)

end

/-- A table or array-table header starting at its `[`. -/
def header (b : Bytes) : Except String (Expr × Bytes) :=
  match b with
  | 91 :: 91 :: rest => do
    let (k, rest) ← key (skipWs rest)
    let rest ← expect ']' (skipWs rest)
    let rest ← expect ']' rest
    return (.arrayTable k, rest)
  | _ => do
    let (k, rest) ← key (skipWs (b.drop 1))
    let rest ← expect ']' (skipWs rest)
    return (.table k, rest)

/-- One line's expression, if it has one, with a trailing comment dropped. -/
def expression (b : Bytes) : Except String ((Option Expr) × Bytes) := do
  let b := skipWs b
  match b with
  | [] => return (none, [])
  | 35 :: _ => return (none, ← commentEnd b)
  | 10 :: _ | 13 :: _ => return (none, b)
  | _ =>
    let (e, rest) ← match b with
      | 91 :: _ => header b
      | _ => do
        let ((k, v), rest) ← pair (b.length + 1) b
        pure (Expr.keyValue k v, rest)
    let rest := skipWs rest
    match rest with
    | 35 :: _ => return (some e, ← commentEnd rest)
    | _ => return (some e, rest)

/-- Expressions until the end of the text or the first error. An expression is kept only once
the line break after it was read. -/
def exprs : Nat → Bytes → List Expr → List Expr × Option String
  | 0, _, acc => (acc.reverse, none)
  | fuel + 1, b, acc =>
    if b.isEmpty then (acc.reverse, none)
    else
      match expression b with
      | .error e => (acc.reverse, some e)
      | .ok (e, rest) =>
        match (if rest.isEmpty then Except.ok rest else newline rest) with
        | .error err => (acc.reverse, some err)
        | .ok rest => exprs fuel rest (e.toList ++ acc)

end Stream

def readStream (text : Bytes) : List Expr × Option String :=
  Stream.exprs (text.length + 1) text []

end LineKv.Toml
