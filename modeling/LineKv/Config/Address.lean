import LineKv.Bytes

/-!
Listen addresses: `host:port`, where the port follows the last colon and a host holding colons (an
IPv6 address) is written in brackets, as in `[::1]:80`. Host and port may be empty (`:7379`
listens on every interface). A refusal reads `address <addr>: <reason>`.
-/

namespace LineKv.Config

/-- Why an address does not split into host and port. -/
inductive AddressError where
  | missingPort
  | tooManyColons
  | missingBracket
  | unexpectedOpen
  | unexpectedClose
  deriving DecidableEq, Repr

def AddressError.reason : AddressError → String
  | .missingPort => "missing port in address"
  | .tooManyColons => "too many colons in address"
  | .missingBracket => "missing ']' in address"
  | .unexpectedOpen => "unexpected '[' in address"
  | .unexpectedClose => "unexpected ']' in address"

def lastIndexOf? (s : Bytes) (b : UInt8) : Option Nat :=
  ((List.range s.length).filter fun i => s.getD i 0 == b).getLast?

/-- Split `host:port`: the host (without brackets) and the port. -/
def splitHostPort (addr : Bytes) : Except AddressError (Bytes × Bytes) :=
  match lastIndexOf? addr 58 with
  | none => .error .missingPort
  | some i =>
    let bracketed : Except AddressError (Bytes × Nat × Nat) :=
      if addr.head? == some 91 then
        match Bytes.indexOf? addr 93 with
        | none => .error .missingBracket
        | some e =>
          if e + 1 == addr.length then .error .missingPort
          else if e + 1 == i then .ok ((addr.drop 1).take (e - 1), 1, e + 1)
          else if addr.getD (e + 1) 0 == 58 then .error .tooManyColons
          else .error .missingPort
      else
        let host := addr.take i
        if host.contains 58 then .error .tooManyColons else .ok (host, 0, 0)
    match bracketed with
    | .error e => .error e
    | .ok (host, j, k) =>
      if (addr.drop j).contains 91 then .error .unexpectedOpen
      else if (addr.drop k).contains 93 then .error .unexpectedClose
      else .ok (host, addr.drop (i + 1))

def addressMessage (addr : Bytes) (e : AddressError) : Bytes :=
  if addr.isEmpty then Bytes.ofString e.reason
  else Bytes.ofString "address " ++ addr ++ Bytes.ofString (": " ++ e.reason)

end LineKv.Config
