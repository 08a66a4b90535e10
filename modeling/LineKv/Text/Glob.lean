import LineKv.Text.Utf8

/-!
Glob patterns over names: `*` matches any run of bytes without `/`, `?` one character other than
`/`, `[…]` one character of a class (ranges `a-z`, negation `[^…]`, escapes with `\`), `\c` the
byte `c`, and every other byte itself.
-/

namespace LineKv.Text.Glob

/-- A pattern that is not well formed. -/
structure SyntaxError where
  deriving Repr

/-- The chunk body: bytes up to the first star outside a class, and what follows. -/
def scanBody : Bytes → Bool → Bytes × Bytes
  | [], _ => ([], [])
  | [92], _ => ([92], [])
  | 92 :: c :: rest, inRange =>
    let (chunk, r) := scanBody rest inRange
    (92 :: c :: chunk, r)
  | 91 :: rest, _ =>
    let (chunk, r) := scanBody rest true
    (91 :: chunk, r)
  | 93 :: rest, _ =>
    let (chunk, r) := scanBody rest false
    (93 :: chunk, r)
  | c :: rest, inRange =>
    if c = 42 ∧ !inRange then ([], c :: rest)
    else
      let (chunk, r) := scanBody rest inRange
      (c :: chunk, r)

def scanChunk (p : Bytes) : Bool × Bytes × Bytes :=
  let body := p.dropWhile (· == 42)
  let (chunk, rest) := scanBody body false
  (body.length < p.length, chunk, rest)

def firstChar (s : Bytes) : Nat × Nat :=
  match s with
  | [] => (0, 0)
  | a :: rest =>
    let (p, n) := Utf8.lead a rest
    (p.char.toNat, n + 1)

def classCharAt (a : UInt8) (more : Bytes) :
    Except SyntaxError (Nat × { x : Bytes // x.length ≤ more.length }) :=
  match Utf8.lead a more with
  | (.stray _, _) => .error ⟨⟩
  | (.scalar ch _, n) =>
    if more.length ≤ n then .error ⟨⟩ else .ok (ch.toNat, ⟨more.drop n, by simp⟩)

/-- A possibly escaped character of a class: its code point and the (shorter) class text after
it. -/
def classChar (chunk : Bytes) : Except SyntaxError (Nat × { a : Bytes // a.length < chunk.length }) :=
  match chunk with
  | [] => .error ⟨⟩
  | 45 :: _ => .error ⟨⟩
  | 93 :: _ => .error ⟨⟩
  | [92] => .error ⟨⟩
  | 92 :: a :: more =>
    match classCharAt a more with
    | .error e => .error e
    | .ok (r, x) => .ok (r, ⟨x.1, by have := x.2; simp; omega⟩)
  | a :: more =>
    match classCharAt a more with
    | .error e => .error e
    | .ok (r, x) => .ok (r, ⟨x.1, by have := x.2; simp; omega⟩)

/-- The ranges of a class up to its closing bracket: whether `r` is in one, and the (shorter)
text after the bracket. -/
def classRanges (r : Nat) (chunk : Bytes) (seen : Nat) (found : Bool) :
    Except SyntaxError (Bool × { a : Bytes // a.length < chunk.length }) :=
  if h : seen > 0 ∧ chunk.head? = some 93 then
    .ok (found, ⟨chunk.tail, by cases chunk <;> simp_all⟩)
  else
    match classChar chunk with
    | .error e => .error e
    | .ok (lo, ⟨after, h1⟩) =>
      if after.head? = some 45 then
        match classChar after.tail with
        | .error e => .error e
        | .ok (hi, ⟨after2, h3⟩) =>
          have : after2.length < chunk.length := by
            have : after.tail.length ≤ after.length := by simp
            omega
          match classRanges r after2 (seen + 1) (found || (decide (lo ≤ r) && decide (r ≤ hi))) with
          | .error e => .error e
          | .ok (f, a) => .ok (f, ⟨a.1, by have := a.2; omega⟩)
      else
        match classRanges r after (seen + 1) (found || (decide (lo ≤ r) && decide (r ≤ lo))) with
        | .error e => .error e
        | .ok (f, a) => .ok (f, ⟨a.1, by have := a.2; omega⟩)
termination_by chunk.length

/-- Match a chunk at the start of `s`: the rest of `s` when it matches, none when it does not.
Once the match has failed the chunk is still read to the end, for its syntax. -/
def matchChunk (chunk s : Bytes) (failed : Bool) : Except SyntaxError (Option Bytes) :=
  let before := failed
  let failed := failed || s.isEmpty
  let (r, n) := if failed then (0, 0) else firstChar s
  match chunk with
  | [] => .ok (if before then none else some s)
  | 91 :: 94 :: rest =>
    match classRanges r rest 0 false with
    | .error e => .error e
    | .ok (found, after) =>
      have := after.2
      matchChunk after.1 (s.drop n) (failed || found)
  | 91 :: rest =>
    match classRanges r rest 0 false with
    | .error e => .error e
    | .ok (found, after) =>
      have := after.2
      matchChunk after.1 (s.drop n) (failed || !found)
  | 63 :: rest =>
    if failed then matchChunk rest s failed
    else matchChunk rest (s.drop n) (s.head? == some 47)
  | [92] => .error ⟨⟩
  | 92 :: c :: rest =>
    if failed then matchChunk rest s failed
    else matchChunk rest (s.drop 1) (s.head? != some c)
  | c :: rest =>
    if failed then matchChunk rest s failed
    else matchChunk rest (s.drop 1) (s.head? != some c)
termination_by chunk.length

/-- Whether the chunks of a pattern are all well formed. -/
def checkRest (pattern : Bytes) (fuel : Nat) : Except SyntaxError Unit :=
  match fuel with
  | 0 => .ok ()
  | fuel + 1 =>
    if pattern.isEmpty then .ok ()
    else
      let (_, chunk, rest) := scanChunk pattern
      match matchChunk chunk [] false with
      | .error e => .error e
      | .ok _ => checkRest rest fuel

def skipAhead (chunk : Bytes) (last : Bool) : Bytes → Except SyntaxError (Option Bytes)
  | [] => .ok none
  | c :: rest =>
    if c = 47 then .ok none
    else
      match matchChunk chunk rest false with
      | .error e => .error e
      | .ok (some t) => if last ∧ !t.isEmpty then skipAhead chunk last rest else .ok (some t)
      | .ok none => skipAhead chunk last rest

/-- Whether `name` matches `pattern` (at most `fuel` chunks are examined). -/
def matchFuel (pattern name : Bytes) (fuel : Nat) : Except SyntaxError Bool :=
  match fuel with
  | 0 => .ok name.isEmpty
  | fuel + 1 =>
    if pattern.isEmpty then .ok name.isEmpty
    else
      let (star, chunk, rest) := scanChunk pattern
      if star ∧ chunk.isEmpty then .ok (!name.contains 47)
      else
        match matchChunk chunk name false with
        | .error e => .error e
        | .ok result =>
          match result with
          | some t =>
            if t.isEmpty ∨ !rest.isEmpty then matchFuel rest t fuel
            else fallback star chunk rest fuel
          | none => fallback star chunk rest fuel
where
  fallback (star : Bool) (chunk rest : Bytes) (fuel : Nat) : Except SyntaxError Bool :=
    let skipped := if star then skipAhead chunk rest.isEmpty name else .ok none
    match skipped with
    | .error e => .error e
    | .ok (some t) => matchFuel rest t fuel
    | .ok none =>
      match checkRest rest (rest.length + 1) with
      | .error e => .error e
      | .ok () => .ok false

def matches? (pattern name : Bytes) : Except SyntaxError Bool :=
  matchFuel pattern name (pattern.length + 1)

end LineKv.Text.Glob
