import LineKv.Text.Utf8

/-!
Replies and server lines. A numeric reply is `<code> <target> <params…> :<text>` and a server line
`<command> <params…> :<trailing>`, each ending in CR LF. Every parameter becomes one space-free
token: empty is `*`, leading colons are dropped and space, CR, LF and NUL become `_`.
-/

namespace LineKv.Line

/-- A numeric reply code. Codes from 500 up report a refusal. -/
structure Code where
  val : Int
  deriving DecidableEq, Repr, Inhabited

namespace Code

def ok : Code := ⟨200⟩
def value : Code := ⟨201⟩
def nil : Code := ⟨202⟩
def item : Code := ⟨203⟩
def done : Code := ⟨204⟩
def queued : Code := ⟨210⟩
def multiStarted : Code := ⟨211⟩
def multiRunning : Code := ⟨212⟩
def multiReset : Code := ⟨213⟩
def loggedIn : Code := ⟨220⟩
def whoami : Code := ⟨221⟩
def stats : Code := ⟨230⟩
def subscribed : Code := ⟨240⟩
def unsubscribed : Code := ⟨241⟩
def published : Code := ⟨242⟩
def monitoring : Code := ⟨250⟩
def unknownCommand : Code := ⟨501⟩
def needMoreParams : Code := ⟨502⟩
def noPrivileges : Code := ⟨503⟩
def notRegistered : Code := ⟨504⟩
def handlerFailed : Code := ⟨505⟩
def multiActive : Code := ⟨506⟩
def noMulti : Code := ⟨507⟩
def inputTooLong : Code := ⟨508⟩
def loginFailed : Code := ⟨509⟩
def flood : Code := ⟨510⟩
def alreadyLoggedIn : Code := ⟨511⟩
def serverBusy : Code := ⟨512⟩
def invalidArgument : Code := ⟨513⟩
def backend : Code := ⟨514⟩

def isError (c : Code) : Bool := c.val ≥ 500

end Code

def paramToken (p : Bytes) : Bytes :=
  if p.isEmpty then [42]
  else Utf8.mapChars (fun c => if c = ' ' ∨ c = '\r' ∨ c = '\n' ∨ c = '\x00' then '_' else c)
    (p.dropWhile (· == 58))

def trailingText (s : Bytes) : Bytes :=
  if s.any (fun b => b == 13 || b == 10 || b == 0) then
    Utf8.mapChars (fun c => if c = '\r' ∨ c = '\n' ∨ c = '\x00' then ' ' else c) s
  else s

def tail (params : List Bytes) (text : Bytes) : Bytes :=
  params.flatMap (fun p => 32 :: paramToken p) ++ [32, 58] ++ trailingText text ++ [13, 10]

def reply (code : Code) (target : Bytes) (params : List Bytes) (text : Bytes) : Bytes :=
  Bytes.ofInt code.val ++ 32 :: (if target.isEmpty then [42] else target) ++ tail params text

def serverLine (command : Bytes) (params : List Bytes) (trailing : Bytes) : Bytes :=
  command ++ tail params trailing

end LineKv.Line
