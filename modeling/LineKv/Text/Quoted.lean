import LineKv.Text.Printable

/-!
Quoted text, as error messages show names and keys: between double quotes, printable characters
as they are and every other character or stray byte escaped; a single character is quoted the
same way between single quotes.
-/

namespace LineKv.Text

def hexWidth (width n : Nat) : Bytes :=
  (List.range width).reverse.map fun i => Bytes.hexDigit (n / Nat.pow 16 i % 16)

/-- One character inside quotes delimited by `q`. -/
def escapeChar (q : Char) (c : Char) : Bytes :=
  if c = q ∨ c = '\\' then Bytes.ascii '\\' :: Utf8.encode c
  else if isPrintable c then Utf8.encode c
  else
    match c with
    | '\x07' => Bytes.ofString "\\a"
    | '\x08' => Bytes.ofString "\\b"
    | '\x0c' => Bytes.ofString "\\f"
    | '\n' => Bytes.ofString "\\n"
    | '\r' => Bytes.ofString "\\r"
    | '\t' => Bytes.ofString "\\t"
    | '\x0b' => Bytes.ofString "\\v"
    | _ =>
      if c.toNat < 0x20 ∨ c.toNat = 0x7F then Bytes.ofString "\\x" ++ hexWidth 2 c.toNat
      else if c.toNat < 0x10000 then Bytes.ofString "\\u" ++ hexWidth 4 c.toNat
      else Bytes.ofString "\\U" ++ hexWidth 8 c.toNat

def quote (s : Bytes) : Bytes :=
  let body := (Utf8.pieces s).flatMap fun
    | .scalar c _ => escapeChar '"' c
    | .stray b => Bytes.ofString "\\x" ++ hexWidth 2 b.toNat
  Bytes.ascii '"' :: body ++ [Bytes.ascii '"']

def quoteChar (n : Nat) : Bytes :=
  let c := if h : n.isValidChar then Char.ofNatAux n h else Utf8.replacement
  Bytes.ascii '\'' :: escapeChar '\'' c ++ [Bytes.ascii '\'']

end LineKv.Text
