/-!
Byte strings. Everything the server reads from a peer, stores or writes back is a list of bytes:
nothing forces it to be UTF-8, so the library never assumes it is.
-/

namespace LineKv

abbrev Bytes := List UInt8

namespace Bytes

def ofString (s : String) : Bytes := s.toUTF8.toList

def ascii (c : Char) : UInt8 := c.toNat.toUInt8

def indexOf? (s : Bytes) (b : UInt8) : Option Nat := s.findIdx? (· == b)

def cut (s : Bytes) (sep : UInt8) : Bytes × Option Bytes :=
  match s with
  | [] => ([], none)
  | c :: rest =>
    if c = sep then ([], some rest)
    else
      let (before, after) := cut rest sep
      (c :: before, after)

def splitOn (s : Bytes) (sep : UInt8) : List Bytes :=
  match s with
  | [] => [[]]
  | c :: rest =>
    if c = sep then [] :: splitOn rest sep
    else
      match splitOn rest sep with
      | [] => [[c]]
      | p :: ps => (c :: p) :: ps

def joinWith (sep : Bytes) : List Bytes → Bytes
  | [] => []
  | [p] => p
  | p :: ps => p ++ sep ++ joinWith sep ps

def dropWhileEq (s : Bytes) (b : UInt8) : Bytes := s.dropWhile (· == b)

def startsWith (s p : Bytes) : Bool := p.isPrefixOf s

def has (s : Bytes) (b : UInt8) : Bool := s.contains b

def replaceByte (s : Bytes) (a b : UInt8) : Bytes := s.map fun c => if c = a then b else c

def lt : Bytes → Bytes → Bool
  | [], [] => false
  | [], _ :: _ => true
  | _ :: _, [] => false
  | a :: as, b :: bs => if a < b then true else if b < a then false else lt as bs

def sort (xs : List Bytes) : List Bytes := xs.mergeSort fun a b => !lt b a

def ofNat (n : Nat) : Bytes := ofString (toString n)

def ofInt (i : Int) : Bytes :=
  if i < 0 then ascii '-' :: ofNat i.natAbs else ofNat i.natAbs

def hexDigit (n : Nat) : UInt8 :=
  if n < 10 then (48 + n).toUInt8 else (87 + n).toUInt8

def toHex (s : Bytes) : Bytes :=
  s.flatMap fun b => [hexDigit (b.toNat / 16), hexDigit (b.toNat % 16)]

def hexValue? (c : UInt8) : Option Nat :=
  if 48 ≤ c ∧ c ≤ 57 then some (c.toNat - 48)
  else if 97 ≤ c ∧ c ≤ 102 then some (c.toNat - 87)
  else if 65 ≤ c ∧ c ≤ 70 then some (c.toNat - 55)
  else none

def ofHex? : Bytes → Option Bytes
  | [] => some []
  | [_] => none
  | a :: b :: rest =>
    match hexValue? a, hexValue? b, ofHex? rest with
    | some x, some y, some r => some ((x * 16 + y).toUInt8 :: r)
    | _, _, _ => none

def allDigits (s : Bytes) : Bool := !s.isEmpty && s.all fun c => 48 ≤ c && c ≤ 57

def digitsValue (s : Bytes) : Nat := s.foldl (fun acc c => acc * 10 + (c.toNat - 48)) 0

def beValue (s : Bytes) : Nat := s.foldl (fun acc b => acc * 256 + b.toNat) 0

def be32 (n : Nat) : Bytes :=
  [(n / 16777216 % 256).toUInt8, (n / 65536 % 256).toUInt8, (n / 256 % 256).toUInt8,
    (n % 256).toUInt8]

theorem cut_none_iff (s : Bytes) (sep : UInt8) : (cut s sep).2 = none ↔ sep ∉ s := by
  induction s with
  | nil => simp [cut]
  | cons c rest ih =>
    by_cases h : c = sep
    · subst h; simp [cut]
    · simp only [cut, h, if_false, List.mem_cons]
      constructor
      · intro hn hm
        rcases hm with hm | hm
        · exact h hm.symm
        · exact (ih.mp hn) hm
      · intro hn
        exact ih.mpr fun hm => hn (Or.inr hm)

theorem cut_some (s : Bytes) (sep : UInt8) (after : Bytes) (h : (cut s sep).2 = some after) :
    s = (cut s sep).1 ++ sep :: after := by
  induction s with
  | nil => simp [cut] at h
  | cons c rest ih =>
    by_cases hc : c = sep
    · subst hc; simp [cut] at h ⊢; exact h
    · have hcut : cut (c :: rest) sep = (c :: (cut rest sep).1, (cut rest sep).2) := by
        simp [cut, hc]
      rw [hcut] at h ⊢
      exact congrArg (c :: ·) (ih h)

theorem cut_fst_not_mem (s : Bytes) (sep : UInt8) : sep ∉ (cut s sep).1 := by
  induction s with
  | nil => simp [cut]
  | cons c rest ih =>
    by_cases hc : c = sep
    · simp [cut, hc]
    · have hcut : cut (c :: rest) sep = (c :: (cut rest sep).1, (cut rest sep).2) := by
        simp [cut, hc]
      rw [hcut]
      simp only [List.mem_cons, not_or]
      exact ⟨fun h => hc h.symm, ih⟩

end Bytes

end LineKv
