import LineKv.Command.Dispatch

/-!
The command monitor. After every command that passed validation each sink except the command's
own client receives one line, `MONITOR <started> <target> <command> <result> <µs> :<params>`, in
ascending order of sink id; LOGIN's parameters read `<N params redacted>`.
-/

namespace LineKv

open Command

def redacted : List Bytes := [Bytes.ofString "LOGIN"]

/-- The monitor's sinks, by connection id. -/
structure Hub where
  sinks : List Bytes
  deriving Repr, Inhabited

namespace Hub

def empty : Hub := ⟨[]⟩

def add (h : Hub) (id : Bytes) : Hub := if h.sinks.contains id then h else ⟨h.sinks ++ [id]⟩

def remove (h : Hub) (id : Bytes) : Hub := ⟨h.sinks.filter (· != id)⟩

def audience (h : Hub) (client : Bytes) : List Bytes := Bytes.sort (h.sinks.filter (· != client))

def paramsText (ev : Event) : Bytes :=
  if redacted.contains ev.name && !ev.params.isEmpty then
    Bytes.ofString s!"<{ev.params.length} params redacted>"
  else Bytes.joinWith [32] ev.params

def format (ev : Event) (target : Bytes) : Bytes :=
  Line.serverLine (Bytes.ofString "MONITOR")
    [Bytes.ofInt ev.started, target, ev.name, Bytes.ofString ev.result.name,
      Bytes.ofInt (ev.duration * 1000)]
    (paramsText ev)

end Hub

end LineKv
