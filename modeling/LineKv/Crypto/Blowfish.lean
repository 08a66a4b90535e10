import LineKv.Crypto.Pi

/-!
The Blowfish block cipher with its salted, repeatable key schedule, as password hashing uses it.
The state is one array of 1042 words: the eighteen subkeys, then four substitution boxes of 256.
-/

namespace LineKv.Crypto

/-- A keyed Blowfish state: subkeys at 0–17, boxes at 18, 274, 530 and 786. -/
structure Blowfish where
  state : Array UInt32

namespace Blowfish

def initial : Blowfish := ⟨piWords⟩

def mix (s : Array UInt32) (x : UInt32) : UInt32 :=
  ((s[18 + (x >>> 24).toNat]! + s[274 + ((x >>> 16) &&& 0xff).toNat]!) ^^^
    s[530 + ((x >>> 8) &&& 0xff).toNat]!) + s[786 + (x &&& 0xff).toNat]!

def encryptHalves (s : Array UInt32) (l r : UInt32) : UInt32 × UInt32 := Id.run do
  let mut xl := l ^^^ s[0]!
  let mut xr := r
  for i in [0:8] do
    xr := xr ^^^ (mix s xl ^^^ s[2 * i + 1]!)
    xl := xl ^^^ (mix s xr ^^^ s[2 * i + 2]!)
  xr := xr ^^^ s[17]!
  return (xr, xl)

def cycleWord (b : Array UInt8) (j : Nat) : UInt32 × Nat := Id.run do
  let mut w : UInt32 := 0
  let mut k := j
  for _ in [0:4] do
    w := (w <<< 8) ||| (b[k]!).toUInt32
    k := if k + 1 ≥ b.size then 0 else k + 1
  return (w, k)

def xorKey (s : Array UInt32) (key : Array UInt8) : Array UInt32 := Id.run do
  let mut s := s
  let mut j := 0
  for i in [0:18] do
    let (w, j') := cycleWord key j
    s := s.set! i (s[i]! ^^^ w)
    j := j'
  return s

/-- Refill the whole state by encrypting a running block, xored first with the next two salt
words when a salt is given. -/
def refill (s : Array UInt32) (salt : Option (Array UInt8)) : Array UInt32 := Id.run do
  let mut s := s
  let mut l : UInt32 := 0
  let mut r : UInt32 := 0
  let mut j := 0
  for i in [0:521] do
    match salt with
    | some b =>
      let (w1, j1) := cycleWord b j
      let (w2, j2) := cycleWord b j1
      l := l ^^^ w1
      r := r ^^^ w2
      j := j2
    | none => pure ()
    let (l', r') := encryptHalves s l r
    l := l'
    r := r'
    s := s.set! (2 * i) l
    s := s.set! (2 * i + 1) r
  return s

def expandKey (c : Blowfish) (key : Array UInt8) : Blowfish := ⟨refill (xorKey c.state key) none⟩

def salted (key salt : Array UInt8) : Blowfish :=
  ⟨refill (xorKey initial.state key) (if salt.isEmpty then none else some salt)⟩

def encryptBlock (c : Blowfish) (b : List UInt8) : List UInt8 :=
  let word := fun (xs : List UInt8) => xs.foldl (fun (acc : UInt32) (x : UInt8) => (acc <<< 8) ||| x.toUInt32) 0
  let bytes := fun (w : UInt32) => [(w >>> 24).toUInt8, (w >>> 16).toUInt8, (w >>> 8).toUInt8, w.toUInt8]
  let (l, r) := encryptHalves c.state (word (b.take 4)) (word (b.drop 4))
  bytes l ++ bytes r

end Blowfish

end LineKv.Crypto
