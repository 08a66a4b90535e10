import LineKv.Command.Dispatch

/-!
The server's commands: their names, how many parameters each takes, the capability each needs,
which may run before login, which keep a trailing empty parameter and which are keep-alive
traffic.
-/

namespace LineKv.Server

open Command

/-- The built-in commands. -/
inductive Builtin where
  | login | ping | pong | quit | whoami | use
  | set | get | del | exists_ | incr | keys
  | publish | subscribe | psubscribe | unsubscribe
  | multi | multiRun | multiReset
  | monitor | flushdb | stats
  deriving DecidableEq, Repr, Inhabited

/-- A descriptor: name, parameter bounds, capability, and the three flags (may run before login,
keeps a trailing empty parameter, is keep-alive traffic). -/
def describe (name : String) (lo hi : Int) (cap : Option Char) (pre trailing keepAlive : Bool)
    (h : Builtin) : Descriptor Builtin :=
  { name := Bytes.ofString name
    minParams := lo
    maxParams := some hi
    permission := cap.map Bytes.ascii
    preRegistration := pre
    trailingEmpty := trailing
    keepAlive := keepAlive
    handler := some h }

/-- Every built-in command, in registration order. -/
def builtins : List (Descriptor Builtin) :=
  [ describe "LOGIN" 2 2 none true false false .login,
    describe "PING" 0 1 none true false false .ping,
    describe "PONG" 0 1 none true false true .pong,
    describe "QUIT" 0 1 none true false false .quit,
    describe "WHOAMI" 0 0 none false false false .whoami,
    describe "USE" 1 1 none false false false .use,
    describe "SET" 2 2 (some 'w') false true false .set,
    describe "GET" 1 1 (some 'r') false false false .get,
    describe "DEL" 1 1 (some 'w') false false false .del,
    describe "EXISTS" 1 1 (some 'r') false false false .exists_,
    describe "INCR" 1 2 (some 'w') false false false .incr,
    describe "KEYS" 0 1 (some 'r') false false false .keys,
    describe "PUBLISH" 2 2 (some 'p') false true false .publish,
    describe "SUBSCRIBE" 1 1 (some 'p') false false false .subscribe,
    describe "PSUBSCRIBE" 1 1 (some 'p') false false false .psubscribe,
    describe "UNSUBSCRIBE" 0 1 (some 'p') false false false .unsubscribe,
    describe "MULTI" 0 0 none false false false .multi,
    describe "MRUN" 0 0 none false false false .multiRun,
    describe "MULTIRESET" 0 0 none false false false .multiReset,
    describe "MONITOR" 0 0 (some 'm') false false false .monitor,
    describe "FLUSHDB" 0 0 (some 'e') false false false .flushdb,
    describe "STATS" 0 0 none false false false .stats ]

def builtinTable : Table Builtin :=
  match builtins.foldlM (fun b d => b.register d) Builder.empty with
  | .ok b => (b.build).2
  | .error _ => ⟨builtins⟩

def dispatcherWith (aliases : List (Bytes × Bytes)) : Except TableError (Dispatcher Builtin) := do
  let fallback ← builtinTable.aliases aliases
  return ⟨builtinTable, fallback⟩

end LineKv.Server
