import LineKv.Text.Quoted
import LineKv.Text.Letter

/-!
Tokens of a TOML document, as the scanner hands them to the tree builder, and the reasons the
scanner stops early. Each token records its kind, its text and the line it ends on; the messages
of scan errors quote characters and text the way the reader reports them.
-/

namespace LineKv.Toml

/-- The kind of a token. -/
inductive TokenKind where
  | eof | text
  | string | stringEsc | rawString | multilineString | rawMultilineString
  | bool | integer | float | datetime
  | arrayStart | arrayEnd
  | tableStart | tableEnd | arrayTableStart | arrayTableEnd
  | keyStart | keyEnd | commentStart
  | inlineTableStart | inlineTableEnd
  deriving DecidableEq, Repr, Inhabited

/-- A token: its kind, its text and its line. -/
structure Token where
  kind : TokenKind
  text : String
  line : Nat
  deriving Repr, Inhabited

def quoteText (s : String) : String :=
  String.fromUTF8! (ByteArray.mk (Text.quote (Bytes.ofString s)).toArray)

def quoteRune (c : Char) : String :=
  String.fromUTF8! (ByteArray.mk (Text.quoteChar c.toNat).toArray)

def runeOrEnd (c : Option Char) : String :=
  match c with
  | some r => "'" ++ String.singleton r ++ "'"
  | none => "end of file"

def hex2 (n : Nat) : String :=
  String.fromUTF8! (ByteArray.mk (Text.hexWidth (max 2 (Nat.toDigits 16 n).length) n).toArray)

/-- Why the scanner stopped before the end of the text. -/
inductive ScanError where
  | control (c : Char)
  | badByte (b : Nat)
  | unexpectedEof
  | itemEnd (c : Char)
  | arrayTableEnd (c : Char)
  | emptyTableName
  | emptyTablePart
  | tableNameEnd (c : Char)
  | eofValue
  | expectedValue (c : Char)
  | expectedWord (w : String)
  | blankKey
  | keyStartsDot
  | keyPartEquals
  | keyPartDot
  | eofKeySep
  | keySep (c : Char)
  | floatStartsDot
  | unexpectedComma
  | arraySeparator (c : Option Char)
  | inlineTableSeparator (c : Option Char)
  | eofString
  | stringNewline
  | eofMultilineString
  | sixQuotes
  | eofRawString
  | eofMultilineRaw
  | sixApostrophes
  | badEscape (c : Char)
  | hexEscape (text : String)
  | shortUnicode (text : String)
  | longUnicode (text : String)
  | expectedDigit (c : Char)
  | badSpecial (text : String)
  | signedBase (text : String)
  | notBinary (text : String)
  | notOctal (text : String)
  | notHex (text : String)
  | noState
  deriving Repr, Inhabited

/-- The message of a scan error. -/
def ScanError.message : ScanError → String
  | .control c => "TOML files cannot contain control characters: '0x" ++ hex2 c.toNat ++ "'"
  | .badByte b => "invalid UTF-8 byte: 0x" ++ hex2 b
  | .unexpectedEof => "unexpected EOF"
  | .itemEnd c =>
    "expected a top-level item to end with a newline, comment, or EOF, but got " ++ quoteRune c ++
      " instead"
  | .arrayTableEnd c =>
    "expected end of table array name delimiter ']', but got " ++ quoteRune c ++ " instead"
  | .emptyTableName => "unexpected end of table name (table names cannot be empty)"
  | .emptyTablePart => "unexpected table separator (table names cannot be empty)"
  | .tableNameEnd c => "expected '.' or ']' to end table name, but got " ++ quoteRune c ++ " instead"
  | .eofValue => "unexpected EOF; expected value"
  | .expectedValue c => "expected value but found " ++ quoteRune c ++ " instead"
  | .expectedWord w => "expected value but found " ++ quoteText w ++ " instead"
  | .blankKey => "unexpected '=': key name appears blank"
  | .keyStartsDot => "unexpected '.': keys cannot start with a '.'"
  | .keyPartEquals => "unexpected '='"
  | .keyPartDot => "unexpected '.'"
  | .eofKeySep => "unexpected EOF; expected key separator '='"
  | .keySep c => "expected '.' or '=', but got " ++ quoteRune c ++ " instead"
  | .floatStartsDot => "floats must start with a digit, not '.'"
  | .unexpectedComma => "unexpected comma"
  | .arraySeparator c => "expected a comma (',') or array terminator (']'), but got " ++ runeOrEnd c
  | .inlineTableSeparator c =>
    "expected a comma or an inline table terminator '\x7d', but got " ++ runeOrEnd c ++ " instead"
  | .eofString => "unexpected EOF; expected '\"'"
  | .stringNewline => "strings cannot contain newlines"
  | .eofMultilineString => "unexpected EOF; expected '\"\"\"'"
  | .sixQuotes => "unexpected '\"\"\"\"\"\"'"
  | .eofRawString => "unexpected EOF; expected \"'\""
  | .eofMultilineRaw => "unexpected EOF; expected \"'''\""
  | .sixApostrophes => "unexpected \"''''''\""
  | .badEscape c => "invalid escape in string '\\" ++ String.singleton c ++ "'"
  | .hexEscape t => "expected two hexadecimal digits after '\\x', but got " ++ quoteText t ++ " instead"
  | .shortUnicode t =>
    "expected four hexadecimal digits after '\\u', but got " ++ quoteText t ++ " instead"
  | .longUnicode t =>
    "expected eight hexadecimal digits after '\\U', but got " ++ quoteText t ++ " instead"
  | .expectedDigit c => "expected a digit but got " ++ quoteRune c
  | .badSpecial t => "invalid float: '" ++ t ++ "'"
  | .signedBase t => "cannot use sign with non-decimal numbers: '" ++ t ++ "'"
  | .notBinary t => "not a binary number: '" ++ t ++ "'"
  | .notOctal t => "not an octal number: '" ++ t ++ "'"
  | .notHex t => "not a hexadecimal number: '" ++ t ++ "'"
  | .noState => "BUG in lexer: no states to pop"

/-- The scanner's output: the tokens read, and the error that stopped it with its line, if any.
Without an error the last token is the end of the document. -/
structure Scanned where
  tokens : Array Token
  failure : Option (ScanError × Nat)
  deriving Inhabited

end LineKv.Toml
