import LineKv.Bytes

/-!
Reading bytes as UTF-8: a byte string splits into well-formed scalar values and single stray
bytes, whose bytes concatenate back to the input (`flatMap_raw_pieces`); mapping over the scalars
reads a stray byte as U+FFFD.
-/

namespace LineKv.Utf8

/-- One unit of a byte string read as UTF-8. -/
inductive Piece where
  /-- A well-formed scalar value and the bytes that encode it. -/
  | scalar (c : Char) (raw : Bytes)
  /-- A byte that starts no well-formed sequence here. -/
  | stray (b : UInt8)
  deriving Repr, Inhabited

def Piece.raw : Piece → Bytes
  | .scalar _ raw => raw
  | .stray b => [b]

def replacement : Char := '�'

def Piece.char : Piece → Char
  | .scalar c _ => c
  | .stray _ => replacement

def isTail (b : UInt8) : Bool := 0x80 ≤ b && b ≤ 0xBF

def shape (a : UInt8) : Option (Nat × UInt8 × UInt8 × Nat) :=
  if 0xC2 ≤ a ∧ a ≤ 0xDF then some (1, 0x80, 0xBF, a.toNat - 0xC0)
  else if a = 0xE0 then some (2, 0xA0, 0xBF, 0)
  else if (0xE1 ≤ a ∧ a ≤ 0xEC) ∨ a = 0xEE ∨ a = 0xEF then some (2, 0x80, 0xBF, a.toNat - 0xE0)
  else if a = 0xED then some (2, 0x80, 0x9F, 0xD)
  else if a = 0xF0 then some (3, 0x90, 0xBF, 0)
  else if 0xF1 ≤ a ∧ a ≤ 0xF3 then some (3, 0x80, 0xBF, a.toNat - 0xF0)
  else if a = 0xF4 then some (3, 0x80, 0x8F, 4)
  else none

def tails : Nat → Nat → Bytes → Option Nat
  | 0, acc, _ => some acc
  | _ + 1, _, [] => none
  | n + 1, acc, b :: s => if isTail b then tails n (acc * 64 + (b.toNat - 0x80)) s else none

/-- The first piece of `a :: rest` and the number of bytes of `rest` it also takes. -/
def lead (a : UInt8) (rest : Bytes) : Piece × Nat :=
  if a < 0x80 then (.scalar (Char.ofNat a.toNat) [a], 0)
  else
    match shape a, rest with
    | some (n, lo, hi, payload), b :: more =>
      if lo ≤ b ∧ b ≤ hi then
        match tails (n - 1) (payload * 64 + (b.toNat - 0x80)) more with
        | some v => (.scalar (Char.ofNat v) (a :: rest.take n), n)
        | none => (.stray a, 0)
      else (.stray a, 0)
    | _, _ => (.stray a, 0)

def pieces : Bytes → List Piece
  | [] => []
  | a :: rest => (lead a rest).1 :: pieces (rest.drop (lead a rest).2)
termination_by s => s.length
decreasing_by simp only [List.length_drop, List.length_cons]; omega

theorem lead_raw (a : UInt8) (rest : Bytes) :
    (lead a rest).1.raw = a :: rest.take (lead a rest).2 := by
  unfold lead
  split
  · rfl
  · split
    · split
      · split <;> rfl
      · rfl
    · rfl

/-- Reading loses nothing: the pieces' bytes are the input. -/
theorem flatMap_raw_pieces (s : Bytes) : (pieces s).flatMap Piece.raw = s := by
  induction s using pieces.induct with
  | case1 => simp [pieces]
  | case2 a rest ih =>
    rw [pieces, List.flatMap_cons, ih, lead_raw]
    simp

def encode (c : Char) : Bytes :=
  let n := c.toNat
  if n < 0x80 then [n.toUInt8]
  else if n < 0x800 then [(0xC0 + n / 64).toUInt8, (0x80 + n % 64).toUInt8]
  else if n < 0x10000 then
    [(0xE0 + n / 4096).toUInt8, (0x80 + n / 64 % 64).toUInt8, (0x80 + n % 64).toUInt8]
  else
    [(0xF0 + n / 262144).toUInt8, (0x80 + n / 4096 % 64).toUInt8, (0x80 + n / 64 % 64).toUInt8,
      (0x80 + n % 64).toUInt8]

def isValid (s : Bytes) : Bool :=
  (pieces s).all fun
    | .scalar _ _ => true
    | .stray _ => false

def mapChars (f : Char → Char) (s : Bytes) : Bytes :=
  (pieces s).flatMap fun p => encode (f p.char)

def scrub (s : Bytes) : Bytes := mapChars id s

def dropLastWhile (p : Char → Bool) (ps : List Piece) : List Piece :=
  (ps.reverse.dropWhile fun q => p q.char && q matches .scalar _ _).reverse

def trim (p : Char → Bool) (s : Bytes) : Bytes :=
  let keep := fun (q : Piece) => p q.char && q matches .scalar _ _
  (dropLastWhile p ((pieces s).dropWhile keep)).flatMap Piece.raw

def trimStart (p : Char → Bool) (s : Bytes) : Bytes :=
  ((pieces s).dropWhile fun q => p q.char && q matches .scalar _ _).flatMap Piece.raw

end LineKv.Utf8
