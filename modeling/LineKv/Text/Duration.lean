import LineKv.Bytes

/-!
The text of a span of time given in nanoseconds, in the usual compact form: `0s`; below a second
one unit with a fraction (`1.5ms`, `250µs`, `7ns`); from a second on hours, minutes and seconds
with a fraction of a second (`1h0m0.5s`, `1m30s`, `2s`), larger units only when non-zero.
-/

namespace LineKv.Text

def fraction (v prec : Nat) : String × Nat :=
  let digits := (List.range prec).reverse.map fun i => Char.ofNat (48 + v / Nat.pow 10 i % 10)
  let kept := (digits.reverse.dropWhile (· = '0')).reverse
  ((if kept.isEmpty then "" else "." ++ String.ofList kept), v / Nat.pow 10 prec)

/-- The text of a span of `ns` nanoseconds. -/
def durationText (ns : Int) : String :=
  let u := ns.natAbs
  let sign := if ns < 0 then "-" else ""
  if u = 0 then "0s"
  else if u < 1000000000 then
    let (prec, unit) :=
      if u < 1000 then (0, "ns") else if u < 1000000 then (3, "µs") else (6, "ms")
    let (frac, whole) := fraction u prec
    sign ++ toString whole ++ frac ++ unit
  else
    let (frac, secs) := fraction u 9
    let mins := secs / 60
    let hours := mins / 60
    let body :=
      if mins = 0 then toString (secs % 60) ++ frac ++ "s"
      else if hours = 0 then toString mins ++ "m" ++ toString (secs % 60) ++ frac ++ "s"
      else toString hours ++ "h" ++ toString (mins % 60) ++ "m" ++ toString (secs % 60) ++ frac ++ "s"
    sign ++ body

def truncateTo (ns unit : Int) : Int := if unit ≤ 0 then ns else ns.tdiv unit * unit

end LineKv.Text
