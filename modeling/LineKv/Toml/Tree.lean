import LineKv.Toml.Token.Scan
import LineKv.Toml.Value
import LineKv.Toml.Datetime
import LineKv.Text.Binary64

/-!
Building the tree of a TOML document from its tokens.
-/

namespace LineKv.Toml

def keyCharText (c : Char) : String :=
  match c with
  | '"' => "\\\"" | '\\' => "\\\\" | '\x08' => "\\b" | '\t' => "\\t" | '\n' => "\\n"
  | '\x0c' => "\\f" | '\r' => "\\r"
  | _ => if c.toNat < 0x20 || c.toNat == 0x7F then "\\u00" ++ hex2 c.toNat else String.singleton c

def keyPartText (k : String) : String :=
  if k.isEmpty then "\"\""
  else if k.all isBareChar then k
  else "\"" ++ String.join (k.toList.map keyCharText) ++ "\""

def keyText (key : List String) : String := ".".intercalate (key.map keyPartText)

/-- The kind of value set at a key path. -/
inductive Kind where
  | integer | float | datetime | string | bool | array | hash | arrayHash
  deriving DecidableEq, Repr, Inhabited

/-- What is known of a key path: the kind of its value and the line where it was set. -/
structure KeyInfo where
  kind : Kind
  line : Nat
  deriving Repr, Inhabited

/-- Why a document could not be read. -/
inductive Problem where
  | scan (e : ScanError)
  | nullBytes
  | hashClash (key : String)
  | notArray (key : String)
  | redefined (key : String)
  | notTable (context : String)
  | intUnderscores (text : String)
  | intLeadingZero (text : String)
  | outOfRange (text : String) (size : String)
  | floatUnderscores (text : String)
  | floatLeadingZero (text : String)
  | floatPoint (text : String)
  | floatValue (text : String)
  | badDatetime (text : String)
  | blankEscape (c : Char)
  | badCodePoint (hex : String)
  /-- A state the scanner never leaves the builder in. -/
  | impossible (what : String)
  deriving Repr, Inhabited

/-- The message of a problem. -/
def Problem.message : Problem → String
  | .scan e => e.message
  | .nullBytes => "files cannot contain NULL bytes; probably using UTF-16; TOML files must be UTF-8"
  | .hashClash k => "Key '" ++ k ++ "' was already created as a hash."
  | .notArray k => "Key '" ++ k ++ "' was already created and cannot be used as an array."
  | .redefined k => "Key '" ++ k ++ "' has already been defined."
  | .notTable c => quoteText c ++ " is not a table"
  | .intUnderscores t => "Invalid integer " ++ quoteText t ++ ": underscores must be surrounded by digits"
  | .intLeadingZero t => "Invalid integer " ++ quoteText t ++ ": cannot have leading zeroes"
  | .outOfRange t size => t ++ " is out of range for " ++ size
  | .floatUnderscores t => "Invalid float " ++ quoteText t ++ ": underscores must be surrounded by digits"
  | .floatLeadingZero t => "Invalid float " ++ quoteText t ++ ": cannot have leading zeroes"
  | .floatPoint t => "Invalid float " ++ quoteText t ++ ": '.' must be followed by one or more digits"
  | .floatValue t => "Invalid float value: " ++ quoteText t
  | .badDatetime t => "invalid datetime: " ++ quoteText t
  | .blankEscape c => "invalid escape: '\\" ++ String.singleton c ++ "'"
  | .badCodePoint h => "Escaped character '\\u" ++ h ++ "' is not valid UTF-8."
  | .impossible w => "BUG: " ++ w

/-- A failure to read a document: the line, the last key read (empty when none) and why. -/
structure ParseError where
  line : Nat
  lastKey : String
  problem : Problem
  deriving Repr, Inhabited

def ParseError.message (e : ParseError) : String :=
  "toml: line " ++ toString e.line ++
    (if e.lastKey.isEmpty then "" else " (last key " ++ quoteText e.lastKey ++ ")") ++
    ": " ++ e.problem.message

/-- A document read: its root table and what is known of each key path. -/
structure Document where
  root : Table
  info : List (String × KeyInfo)
  deriving Inhabited

def Document.lineOf? (d : Document) (key : List String) : Option Nat :=
  (d.info.find? (·.1 == keyText key)).map (·.2.line)

/-- Why a path through the tree stops: a missing part, or a part holding no table. -/
inductive Blocked where
  | missing (path : List String)
  | notTable (path : List String)

namespace Table

/-- Apply `f` to the table that `path` leads to; through an array of tables the path goes into
its last table. `done` is the part of the path already walked. -/
def modifyAt {ε α : Type} (lift : Blocked → ε) (f : Table → Except ε (Table × α)) :
    Table → List String → List String → Except ε (Table × α)
  | t, [], _ => f t
  | t, k :: rest, done =>
    let here := done ++ [k]
    match t.get? k with
    | some (.table inner) => do
      let (inner', a) ← modifyAt lift f inner rest here
      pure (t.set k (.table inner'), a)
    | some (.tables items) =>
      match items.getLast? with
      | some last => do
        let (last', a) ← modifyAt lift f last rest here
        pure (t.set k (.tables (items.dropLast ++ [last'])), a)
      | none => .error (lift (.notTable here))
    | some _ => .error (lift (.notTable here))
    | none => .error (lift (.missing here))

/-- Walk `path`, making an empty table for each missing part; the paths made, or the first part
that holds no table. -/
def openPath : Table → List String → List String → Except (List String) (Table × List (List String))
  | t, [], _ => .ok (t, [])
  | t, k :: rest, done =>
    let here := done ++ [k]
    let (t, made) := if (t.get? k).isSome then (t, []) else (t.set k (.table []), [here])
    match t.get? k with
    | some (.table inner) => do
      let (inner', m) ← openPath inner rest here
      pure (t.set k (.table inner'), made ++ m)
    | some (.tables items) =>
      match items.getLast? with
      | some last => do
        let (last', m) ← openPath last rest here
        pure (t.set k (.tables (items.dropLast ++ [last'])), made ++ m)
      | none => .error here
    | _ => .error here

def insertPath : Table → List String → String → Value → Option Table
  | t, [], k, v => some (t.set k v)
  | t, c :: rest, k, v =>
    let inner := match t.get? c with
      | none => some []
      | some (.table x) => some x
      | some _ => none
    inner.bind fun x => (insertPath x rest k v).map fun x' => t.set c (.table x')

end Table

/-- The builder's state. -/
structure Builder where
  tokens : Array Token
  failure : Option (ScanError × Nat)
  index : Nat
  root : Table
  context : List String
  currentKey : String
  implicits : List String
  info : List (String × KeyInfo)
  line : Nat

def Builder.lastKey (b : Builder) : String :=
  if b.currentKey.isEmpty then keyText b.context
  else if b.context.isEmpty then b.currentKey
  else keyText b.context ++ "." ++ b.currentKey

def Builder.isArray (b : Builder) (key : List String) : Bool :=
  (b.info.find? (·.1 == keyText key)).any (·.2.kind == .array)

def Builder.isImplicit (b : Builder) (key : List String) : Bool := b.implicits.contains (keyText key)

abbrev Build := StateT Builder (Except ParseError)

namespace Build

def failOn {α : Type} (line : Nat) (p : Problem) : Build α := do
  throw ⟨line, (← get).lastKey, p⟩

def fail {α : Type} (p : Problem) : Build α := do
  failOn (← get).line p

/-- The next token; past the last one, the scanner's error. -/
def next : Build Token := do
  let b ← get
  match b.tokens[b.index]? with
  | some t =>
    set { b with index := b.index + 1 }
    pure t
  | none =>
    match b.failure with
    | some (e, line) => failOn line (.scan e)
    | none => fail (.impossible "no more tokens")

def nextPos : Build Token := do
  let t ← next
  modify fun b => { b with line := t.line }
  pure t

def expect (k : TokenKind) : Build Unit := do
  let t ← next
  if t.kind != k then fail (.impossible ("Expected '" ++ reprStr k ++ "' but got '" ++ reprStr t.kind ++ "'."))

def addImplicit (key : List String) : Build Unit :=
  modify fun b => if b.isImplicit key then b else { b with implicits := keyText key :: b.implicits }

def setKind (key : String) (k : Kind) (line : Nat) : Build Unit :=
  modify fun b =>
    let path := b.context ++ (if key.isEmpty then [] else [key])
    let text := keyText (if path.isEmpty then [""] else path)
    { b with info := (text, ⟨k, line⟩) :: b.info.filter (·.1 != text) }

/-- Bind `key` in the context table. A bound key may be bound again only if it holds an array or is
an implicit table (which then stays as it is); either way it is no longer implicit. -/
def setValue (key : String) (v : Value) : Build Unit := do
  let b ← get
  let path := b.context ++ [key]
  let array := b.isArray path
  let implicit := b.isImplicit path
  let lift : Blocked → Problem := fun
    | .missing p => .impossible ("Context for key '" ++ keyText p ++ "' has not been established.")
    | .notTable p => .redefined (keyText p)
  let bind : Table → Except Problem (Table × Bool) := fun t =>
    match t.get? key with
    | none => .ok (t.set key v, false)
    | some _ =>
      if array then .ok (t.set key v, true)
      else if implicit then .ok (t, true)
      else .error (.redefined (keyText path))
  match Table.modifyAt lift bind b.root b.context [] with
  | .error p => fail p
  | .ok (root, existed) =>
    set { b with root := root,
                 implicits := if existed then b.implicits.filter (· != keyText path) else b.implicits }

/-- Make `key` the context: its parents are opened (made as implicit tables when missing), and the
key itself becomes a table, or a new last table of an array of tables. -/
def addContext (key : List String) (array : Bool) : Build Unit := do
  let parents := key.dropLast
  let last := key.getLast?.getD ""
  let b ← get
  match Table.openPath b.root parents [] with
  | .error p => fail (.hashClash (keyText p))
  | .ok (root, made) =>
    set { b with root := root, implicits := made.map keyText ++ b.implicits, context := parents }
    if array then
      let b ← get
      let lift : Blocked → Problem := fun
        | .missing p => .impossible ("Context for key '" ++ keyText p ++ "' has not been established.")
        | .notTable p => .hashClash (keyText p)
      let grow : Table → Except Problem (Table × Unit) := fun t =>
        match t.get? last with
        | none => .ok (t.set last (.tables [[]]), ())
        | some (.tables items) => .ok (t.set last (.tables (items ++ [[]])), ())
        | some _ => .error (.notArray (keyText key))
      match Table.modifyAt lift grow b.root parents [] with
      | .error p => fail p
      | .ok (root, ()) => set { b with root := root }
    else setValue last (.table [])
    modify fun b => { b with context := parents ++ [last] }

def addImplicitContext (key : List String) : Build Unit := do
  addImplicit key
  addContext key false

def stripFirstNewline : List Char → List Char
  | '\n' :: rest => rest
  | '\r' :: '\n' :: rest => rest
  | cs => cs

/-- Remove each backslash that ends a line, with the white space and newlines after it. -/
def stripEscapedNewlines : List Char → List Char
  | [] => []
  | '\\' :: '\\' :: rest => '\\' :: '\\' :: stripEscapedNewlines rest
  | '\\' :: rest =>
    let ws := rest.takeWhile fun c => c == ' ' || c == '\t' || c == '\r' || c == '\n'
    if ws.isEmpty || !ws.contains '\n' then '\\' :: stripEscapedNewlines rest
    else stripEscapedNewlines (rest.drop ws.length)
  | c :: rest => c :: stripEscapedNewlines rest
termination_by cs => cs.length
decreasing_by
  all_goals simp only [List.length_cons, List.length_drop]
  all_goals omega

def hexValue (cs : List Char) : Nat :=
  cs.foldl (fun n c =>
    n * 16 + (if isDecimal c then c.toNat - 48 else if 'a' ≤ c && c ≤ 'f' then c.toNat - 87
      else c.toNat - 55)) 0

def codePoint (digits : List Char) : Except Problem Char :=
  let n := hexValue digits
  if h : n.isValidChar then .ok (Char.ofNatAux n h) else .error (.badCodePoint (String.ofList digits))

/-- Replace the escapes of a basic string's text. -/
def unescape : List Char → Except Problem (List Char)
  | [] => .ok []
  | '\\' :: c :: rest =>
    let simple := fun (r : Char) => do
      let tail ← unescape rest
      pure (r :: tail)
    let hex := fun (k : Nat) => do
      let r ← codePoint (rest.take k)
      let tail ← unescape (rest.drop k)
      pure (r :: tail)
    match c with
    | ' ' | '\t' => .error (.blankEscape c)
    | 'b' => simple '\x08'
    | 't' => simple '\t'
    | 'n' => simple '\n'
    | 'f' => simple '\x0c'
    | 'r' => simple '\r'
    | 'e' => simple '\x1b'
    | '"' => simple '"'
    | '\\' => simple '\\'
    | 'x' => hex 2
    | 'u' => hex 4
    | 'U' => hex 8
    | _ => .error (.impossible "Expected valid escape code after \\")
  | ['\\'] => .error (.impossible "Escape sequence at end of string.")
  | c :: rest => do
    let tail ← unescape rest
    pure (c :: tail)
termination_by cs => cs.length
decreasing_by
  all_goals simp only [List.length_cons, List.length_drop]
  all_goals omega

/-- The string a string token stands for. -/
def stringOf (t : Token) : Build String :=
  let raw := fun (cs : List Char) =>
    match unescape cs with
    | .ok r => pure (String.ofList r)
    | .error p => failOn t.line p
  match t.kind with
  | .stringEsc => raw t.text.toList
  | .multilineString => raw (stripEscapedNewlines (stripFirstNewline t.text.toList))
  | .rawMultilineString => pure (String.ofList (stripFirstNewline t.text.toList))
  | _ => pure t.text

def underscoresOk (s : String) : Bool :=
  ["nan", "+nan", "-nan", "inf", "-inf", "+inf"].contains s ||
    go s.toList false
where
  /-- Scan the characters, knowing whether the previous one was a hex digit. -/
  go : List Char → Bool → Bool
    | [], accept => accept
    | c :: rest, accept => if c == '_' && !accept then false else go rest (isHexDigit c)

def leadingZero (s : String) : Bool :=
  match s.toList with
  | '0' :: c :: _ => !(c == 'b' || c == 'o' || c == 'x')
  | s0 :: '0' :: _ :: _ => s0 == '-' || s0 == '+'
  | _ => false

def pointsOk (s : String) : Bool :=
  go s.toList false
where
  /-- Scan the characters, knowing whether the previous one was a point. -/
  go : List Char → Bool → Bool
    | [], point => !point
    | c :: rest, point => if point && !isDecimal c then false else go rest (c == '.')

/-- The value of integer text with an optional sign and base prefix (a lone leading zero means
octal); underscores are skipped; none when a digit is wrong or there are none. -/
def integerText? (s : String) : Option Int :=
  let (neg, body) := match s.toList with
    | '-' :: rest => (true, rest)
    | '+' :: rest => (false, rest)
    | cs => (false, cs)
  let (base, digits) := match body with
    | '0' :: p :: rest =>
      if p == 'x' || p == 'X' then (16, rest)
      else if p == 'o' || p == 'O' then (8, rest)
      else if p == 'b' || p == 'B' then (2, rest)
      else (8, p :: rest)
    | '0' :: [] => (8, [])
    | cs => (10, cs)
  let digits := if body == ['0'] then ['0'] else digits
  let ds := digits.filter (· != '_')
  let vals := ds.map fun c =>
    if isDecimal c then c.toNat - 48 else if 'a' ≤ c && c ≤ 'z' then c.toNat - 87
    else if 'A' ≤ c && c ≤ 'Z' then c.toNat - 55 else 99
  if ds.isEmpty || vals.any (· ≥ base) then none
  else
    let n := vals.foldl (fun acc d => acc * base + d) 0
    some (if neg then -(n : Int) else n)

def integerOf (t : Token) : Build (Value × Kind) := do
  let s := t.text
  if !underscoresOk s then failOn t.line (.intUnderscores s)
  if leadingZero s then failOn t.line (.intLeadingZero s)
  match integerText? s with
  | none => fail (.impossible ("Expected integer value, but got '" ++ s ++ "'."))
  | some i =>
    if i < -9223372036854775808 || i > 9223372036854775807 then failOn t.line (.outOfRange s "int64")
    pure (.int i, .integer)

/-- A float token's value. -/
def floatOf (t : Token) : Build (Value × Kind) := do
  let s := t.text
  let parts := (s.split fun c => c == '.' || c == 'e' || c == 'E').toList.map (·.copy)
    |>.filter (!·.isEmpty)
  if parts.any (!underscoresOk ·) then failOn t.line (.floatUnderscores s)
  if (parts.head?.map leadingZero).getD false then failOn t.line (.floatLeadingZero s)
  if !pointsOk s then failOn t.line (.floatPoint s)
  let v := String.ofList (s.toList.filter (· != '_'))
  let v := if v == "+nan" || v == "-nan" then "nan" else v
  match Text.FloatText.read? v with
  | none => failOn t.line (.floatValue s)
  | some (.finite _ d e) =>
    if Text.overflowsDouble d e then failOn t.line (.outOfRange s "float64")
    pure (.float s, .float)
  | some _ => pure (.float s, .float)

def datetimeOf (t : Token) : Build (Value × Kind) := do
  let s := datetimeText t.text
  if datetimeValid s then pure (.datetime s, .datetime) else failOn t.line (.badDatetime s)

def keyPart (t : Token) : Build String :=
  if t.kind == .text then pure t.text else stringOf t

def keyRest (stop : TokenKind) : Nat → Token → List String → Build (List String)
  | 0, _, _ => fail (.impossible "key too long")
  | n + 1, t, acc =>
    if t.kind == stop then pure acc.reverse
    else if t.kind == .eof then fail (.impossible ("Expected '" ++ reprStr stop ++ "' but got 'EOF'."))
    else do
      let part ← keyPart t
      keyRest stop n (← next) (part :: acc)

def keyParts (stop : TokenKind) : Build (List String) := do
  let first ← nextPos
  keyRest stop ((← get).tokens.size + 1) first []

def openParents : List String → Build Unit
  | [] => pure ()
  | part :: rest => do
    addImplicitContext ((← get).context ++ [part])
    openParents rest

mutual

/-- The value a token starts; `inArray` when it is an element of an array. -/
def value : Nat → Bool → Token → Build (Value × Kind)
  | 0, _, _ => fail (.impossible "nesting too deep")
  | n + 1, inArray, t =>
    match t.kind with
    | .string | .stringEsc | .multilineString | .rawString | .rawMultilineString => do
      pure (.str (← stringOf t), .string)
    | .integer => integerOf t
    | .float => floatOf t
    | .bool => pure (.bool (t.text == "true"), .bool)
    | .datetime => datetimeOf t
    | .arrayStart => do
      setKind (← get).currentKey .array t.line
      let items ← arrayItems n []
      pure (.array items, .array)
    | .inlineTableStart => inlineTable n inArray
    | _ => fail (.impossible ("Unexpected value type: " ++ reprStr t.kind))

/-- The rest of an array's elements, after those in `acc` (latest first). -/
def arrayItems : Nat → List Value → Build (List Value)
  | 0, _ => fail (.impossible "array too long")
  | n + 1, acc => do
    let t ← next
    if t.kind == .arrayEnd then pure acc.reverse
    else if t.kind == .commentStart then
      expect .text
      arrayItems n acc
    else
      let (v, _) ← value n true t
      arrayItems n (v :: acc)

/-- An inline table, after its opening brace: built below the key being defined, which becomes
the context while its pairs are read. -/
def inlineTable : Nat → Bool → Build (Value × Kind)
  | 0, _ => fail (.impossible "nesting too deep")
  | n + 1, inArray => do
    let b ← get
    let outer := b.context
    let outerKey := b.currentKey
    let here := b.context ++ [b.currentKey]
    set { b with context := here, currentKey := "" }
    addImplicit here
    addContext here inArray
    let table ← inlinePairs n here []
    modify fun b => { b with context := outer, currentKey := outerKey }
    pure (.table table, .hash)

/-- The rest of an inline table's pairs, added to `acc`. -/
def inlinePairs : Nat → List String → Table → Build Table
  | 0, _, _ => fail (.impossible "inline table too long")
  | n + 1, here, acc => do
    let t ← next
    if t.kind == .inlineTableEnd then pure acc
    else if t.kind == .commentStart then
      expect .text
      inlinePairs n here acc
    else
      let key ← keyParts .keyEnd
      let cur := key.getLast?.getD ""
      modify fun b => { b with currentKey := cur }
      openParents key.dropLast
      let (v, kind) ← value n false (← next)
      setValue cur v
      setKind cur kind t.line
      let acc ← match acc.insertPath key.dropLast cur v with
        | some a => pure a
        | none => fail (.notTable (keyText (← get).context))
      modify fun b => { b with context := here }
      inlinePairs n here acc

end

/-- One top-level item: a comment, a table header, an array-of-tables header or a key/value pair. -/
def topLevel (fuel : Nat) (t : Token) : Build Unit :=
  match t.kind with
  | .commentStart => expect .text
  | .tableStart => do
    let key ← keyParts .tableEnd
    addContext key false
    setKind "" .hash t.line
  | .arrayTableStart => do
    let key ← keyParts .arrayTableEnd
    addContext key true
    setKind "" .arrayHash t.line
  | .keyStart => do
    let outer := (← get).context
    let key ← keyParts .keyEnd
    let cur := key.getLast?.getD ""
    modify fun b => { b with currentKey := cur }
    openParents key.dropLast
    let vt ← next
    let (v, kind) ← value fuel false vt
    setValue cur v
    setKind cur kind vt.line
    modify fun b => { b with context := outer, currentKey := "" }
  | _ => fail (.impossible ("Unexpected type at top level: " ++ reprStr t.kind))

def items (fuel : Nat) : Nat → Build Unit
  | 0 => pure ()
  | n + 1 => do
    let t ← next
    if t.kind == .eof then pure ()
    else
      topLevel fuel t
      items fuel n

end Build

/-- Read a document. A byte order mark at the start is skipped; a zero byte among the first six
bytes means the text is not UTF-8. -/
def Document.ofText (text : String) : Except ParseError Document :=
  let text := if text.startsWith "﻿" then String.ofList (text.toList.drop 1) else text
  if (text.toUTF8.toList.take 6).contains 0 then .error ⟨1, "", .nullBytes⟩
  else
    let scanned := Scanned.ofText text
    let fuel := 2 * scanned.tokens.size + 4
    let start : Builder := ⟨scanned.tokens, scanned.failure, 0, [], [], "", [], [], 0⟩
    match (Build.items fuel fuel).run start with
    | .ok ((), b) => .ok ⟨b.root, b.info⟩
    | .error e => .error e

end LineKv.Toml
