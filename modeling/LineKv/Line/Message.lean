import LineKv.Fault
import LineKv.Text.Quoted

/-!
The command-line grammar: optional tags after an `@` up to the first space, a command of letters,
digits, `_` and `-`, then parameters separated by spaces; a parameter starting with `:`, or the
one that would be the 32nd, takes the rest of the line.
-/

namespace LineKv.Line

def maxParams : Nat := 32

abbrev Tags := List (Bytes × Bytes)

def Tags.set (tags : Tags) (k v : Bytes) : Tags :=
  match tags with
  | [] => [(k, v)]
  | (k', v') :: rest =>
    if k = k' then (k, v) :: rest
    else if Bytes.lt k k' then (k, v) :: (k', v') :: rest
    else (k', v') :: Tags.set rest k v

/-- A decoded line. -/
structure Message where
  /-- The tags, or none when the line has no `@` prefix. -/
  tags : Option Tags
  command : Bytes
  params : List Bytes
  deriving Repr, Inhabited

/-- Why a line does not decode. -/
inductive DecodeError where
  | empty
  | tagsWithoutCommand
  | invalidCommand (cmd : Bytes)
  deriving Repr

def isCommandByte (c : UInt8) : Bool :=
  (65 ≤ c && c ≤ 90) || (97 ≤ c && c ≤ 122) || (48 ≤ c && c ≤ 57) || c == 95 || c == 45

def isCommand (cmd : Bytes) : Bool := !cmd.isEmpty && cmd.all isCommandByte

def unescapeTag : Bytes → Bytes
  | [] => []
  | 92 :: 58 :: rest => 59 :: unescapeTag rest
  | 92 :: 115 :: rest => 32 :: unescapeTag rest
  | 92 :: 92 :: rest => 92 :: unescapeTag rest
  | 92 :: 114 :: rest => 13 :: unescapeTag rest
  | 92 :: 110 :: rest => 10 :: unescapeTag rest
  | c :: rest => c :: unescapeTag rest

def parseTags (raw : Bytes) : Tags :=
  let add := fun (tags : Tags) (part : Bytes) =>
    let (k, v) := Bytes.cut part 61
    if part.isEmpty || k.isEmpty then tags else tags.set k (unescapeTag (v.getD []))
  (Bytes.splitOn raw 59).foldl add []

/-- Parameters of the text after the command: at most `room` more are split off before the last
one takes the rest. -/
def parseParams (room : Nat) (rest : Bytes) : List Bytes :=
  match room with
  | 0 =>
    match rest.dropWhile (· == 32) with
    | [] => []
    | r@(c :: tail) => [if c = 58 then tail else r]
  | room + 1 =>
    match rest.dropWhile (· == 32) with
    | [] => []
    | 58 :: tail => [tail]
    | r@(_ :: _) =>
      let (p, after) := Bytes.cut r 32
      p :: parseParams room (after.getD [])

/-- Decode one framed line. -/
def decode (raw : Bytes) : Except DecodeError Message :=
  let rest := raw.dropWhile (· == 32)
  if rest.isEmpty then .error .empty
  else
    let tagged : Except DecodeError (Option Tags × Bytes) :=
      match rest with
      | 64 :: afterAt =>
        match Bytes.cut afterAt 32 with
        | (_, none) => .error .tagsWithoutCommand
        | (tags, some after) => .ok (some (parseTags tags), after.dropWhile (· == 32))
      | _ => .ok (none, rest)
    match tagged with
    | .error e => .error e
    | .ok (tags, body) =>
      let (cmd, after) := Bytes.cut body 32
      if isCommand cmd then
        .ok { tags, command := cmd, params := parseParams (maxParams - 1) (after.getD []) }
      else .error (.invalidCommand cmd)

def DecodeError.toFault : DecodeError → Fault
  | .empty => .of .decode (Bytes.ofString "protocol: decode error: empty line")
  | .tagsWithoutCommand => .of .decode (Bytes.ofString "protocol: decode error: tags without command")
  | .invalidCommand cmd =>
    .of .decode (Bytes.ofString "protocol: decode error: invalid command " ++ Text.quote cmd)

end LineKv.Line
