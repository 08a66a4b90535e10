import LineKv.Text.Utf8

/-!
White space: the ASCII blanks tab, line feed, vertical tab, form feed, carriage return and space,
the Latin-1 next-line and no-break space, and the Unicode `White_Space` characters above Latin-1.
Trimming removes such characters from both ends of a byte string; a stray byte is never space.
-/

namespace LineKv.Text

def isSpace (c : Char) : Bool :=
  let n := c.toNat
  n = 0x20 || (0x09 ≤ n && n ≤ 0x0D) || n = 0x85 || n = 0xA0 || n = 0x1680 ||
    (0x2000 ≤ n && n ≤ 0x200A) || n = 0x2028 || n = 0x2029 || n = 0x202F || n = 0x205F ||
    n = 0x3000

def trimSpace (s : Bytes) : Bytes := Utf8.trim isSpace s

def isBlank (s : Bytes) : Bool := (trimSpace s).isEmpty

end LineKv.Text
