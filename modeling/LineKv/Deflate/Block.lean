import LineKv.Deflate.Tokens

/-!
Writing DEFLATE blocks, choosing for each the cheapest of the ways to send it. A block of tokens
is sent with a code made for it, with the fixed code, or stored as it is.
-/

namespace LineKv.Deflate

def storedLimit : Nat := 65535

def storedCost : Option (Array UInt8) → Option Nat
  | some input => if input.size ≤ storedLimit then some ((input.size + 5) * 8) else none
  | none => none

def histogram (input : Array UInt8) : Array Nat :=
  input.foldl (fun h b => h.modify b.toNat (· + 1)) (Array.replicate 257 0)

def looksRandom (freq : Array Nat) (size : Nat) : Bool :=
  let avg := size.toFloat / 256
  let limit := (size * 2).toFloat
  let spread := (freq.extract 0 256).foldl (fun acc v => let d := v.toFloat - avg; acc + d * d) 0
  spread < limit

def usedPrefix (freq : Array Nat) : Nat :=
  freq.zipIdx.foldl (fun acc (f, i) => if f != 0 then i + 1 else acc) 0

/-- The state of the block writer: the bits written, the header size of the block left open (0
when none is), whether that block's code is a literal code, the codes of that block, and the
penalty exponent for new codes. -/
structure BlockWriter where
  out : BitWriter
  openHeader : Nat
  literalsOnly : Bool
  literal : Code
  distance : Code
  penalty : Nat

namespace BlockWriter

def create (penalty : Nat) : BlockWriter := ⟨BitWriter.empty, 0, false, ⟨#[]⟩, ⟨#[]⟩, penalty⟩

def closeOpen (bw : BlockWriter) : BlockWriter :=
  if bw.openHeader > 0 then { bw with out := bw.literal.put bw.out 256, openHeader := 0 } else bw

def flush (bw : BlockWriter) : BlockWriter :=
  let bw := bw.closeOpen
  { bw with out := bw.out.align }

def storedHeader (bw : BlockWriter) (length : Nat) (final : Bool) : BlockWriter :=
  let bw := bw.closeOpen
  if length == 0 && final then { bw with out := (bw.out.bits 3 3).bits 0 7 }.flush
  else
    let bw := { bw with out := bw.out.bits (if final then 1 else 0) 3 }.flush
    { bw with out := (bw.out.bits length 16).bits (65535 - length) 16 }

def stored (bw : BlockWriter) (input : Array UInt8) (final : Bool) : BlockWriter :=
  let bw := bw.storedHeader input.size final
  { bw with out := bw.out.raw input }

/-- Send a block of literals once storing is ruled out: in the open block's code when that is
no dearer than `est`, the estimate for a new code `fresh`, else in `fresh` with a new header. -/
def sendLiterals (bw : BlockWriter) (final : Bool) (input : Array UInt8) (sync : Bool)
    (freq : Array Nat) (fresh : Code) (est : Nat) : BlockWriter :=
  let bw :=
    if bw.openHeader > 0 && est < bw.literal.costIfCovers (freq.extract 0 256) then bw.closeOpen else bw
  let bw :=
    if bw.openHeader == 0 then
      let header := Header.ofLengths ((List.range 257).map fresh.len ++ [1])
      { bw with out := header.write bw.out 257 1 final, literal := fresh, literalsOnly := true,
                openHeader := header.size }
    else bw
  let bw := { bw with out := input.foldl (fun w b => bw.literal.put w b.toNat) bw.out }
  if final || sync then
    { bw with out := bw.literal.put bw.out 256, openHeader := 0, literalsOnly := false }
  else bw

/-- A block of literals in a literal code: a new one (with the one-symbol distance code) or the
open block's, whichever is estimated cheaper, unless storing is no dearer. -/
def literals (bw : BlockWriter) (final : Bool) (input : Array UInt8) (sync : Bool) : BlockWriter :=
  let counts := histogram input
  let storedBits := storedCost (some input)
  if storedBits.isSome && input.size > 1024 && looksRandom counts input.size then bw.stored input final
  else
    let freq := counts.set! 256 1
    let fresh := Code.build freq 15
    let est := fresh.costIfCovers freq
    let est :=
      if est < Code.unusable then
        let e := est + bw.openHeader + (if bw.openHeader == 0 then 560 else 0)
        e + e / Nat.pow 2 bw.penalty
      else est
    match storedBits with
    | some s => if s ≤ est then bw.stored input final else bw.sendLiterals final input sync freq fresh est
    | none => bw.sendLiterals final input sync freq fresh est

def canReuse (bw : BlockWriter) (ts : TokenStream) : Bool :=
  (List.range 30).all (fun i => ts.dist.getD i 0 == 0 || bw.distance.len i != 0) &&
    (List.range 286).all (fun i => ts.litLen.getD i 0 == 0 || bw.literal.len i != 0)

def fixedCost (litFreq distFreq : Array Nat) (extra : Nat) : Nat :=
  3 + Code.fixedLiterals.cost litFreq + Code.fixedDistances.cost distFreq + extra

def fixedBlock (bw : BlockWriter) (ts : TokenStream) (final : Bool) : BlockWriter :=
  let ts := if ts.ended then ts else ts.endBlock
  let out := bw.out.bits (if final then 3 else 2) 3
  { bw with out := ts.write out Code.fixedLiterals Code.fixedDistances }

/-- Send a block of tokens a cheaper way when there is one, given the size `size` the chosen
code would take: the fixed code for a short block, or storing. -/
def cheaper (bw : BlockWriter) (ts : TokenStream) (final : Bool) (input : Option (Array UInt8))
    (litFreq distFreq : Array Nat) (extra size : Nat) : Option BlockWriter :=
  let storedBits := storedCost input
  let fixedBits := fixedCost litFreq distFreq extra + 7
  if ts.count < 250 && fixedBits < size then
    match storedBits, input with
    | some s, some data => if s ≤ fixedBits then some (bw.stored data final) else some (bw.fixedBlock ts final)
    | _, _ => some (bw.fixedBlock ts final)
  else
    match storedBits, input with
    | some s, some data => if s ≤ size then some (bw.stored data final) else none
    | _, _ => none

/-- A block of tokens: in the open block's codes when that is estimated cheaper than a new code,
else with a new code, unless the fixed code or storing is cheaper. A block flushed (`sync`) or last
ends with its end-of-block code; any other stays open. `input` is the data the tokens stand for,
when it is at hand. -/
def dynamic (bw : BlockWriter) (ts : TokenStream) (final : Bool) (input : Option (Array UInt8))
    (sync : Bool) : BlockWriter :=
  let sync := sync || final
  let ts := if sync then ts.endBlock else ts
  let bw :=
    if (bw.literalsOnly || final) && bw.openHeader > 0 then { bw.closeOpen with literalsOnly := false }
    else bw
  let bw := if bw.openHeader > 0 && !bw.canReuse ts then bw.closeOpen else bw
  let litFreq := ts.litLen
  let used := usedPrefix ts.dist
  let (numLit, numDist, distFreq) :=
    if ts.count == 0 then (0, 0, ts.dist)
    else if !sync then (286, 30, ts.dist)
    else if used == 0 then (usedPrefix litFreq, 1, ts.dist.set! 0 1)
    else (usedPrefix litFreq, used, ts.dist)
  let extra :=
    if (storedCost input).isSome || bw.openHeader > 0 then TokenStream.extraBits litFreq distFreq else 0
  let reused :=
    if bw.openHeader > 0 then
      let newSize := bw.openHeader + ts.estimatedBits
      let newSize := newSize + bw.literal.len 256 + newSize / Nat.pow 2 bw.penalty
      let reuseSize := bw.literal.cost litFreq + bw.distance.cost distFreq + extra
      if newSize < reuseSize then
        let bw := bw.closeOpen
        match bw.cheaper ts final input litFreq distFreq extra newSize with
        | some done => Sum.inl done
        | none => Sum.inr bw
      else
        match bw.cheaper ts final input litFreq distFreq extra reuseSize with
        | some done => Sum.inl done
        | none => Sum.inr bw
    else Sum.inr bw
  match reused with
  | .inl done => done
  | .inr bw =>
    let bw :=
      if bw.openHeader == 0 then
        let litFreq := litFreq.set! 256 1
        let literal := Code.build (litFreq.extract 0 286) 15
        let distance := Code.build (distFreq.extract 0 30) 15
        let header := Header.ofLengths
          ((List.range numLit).map literal.len ++ (List.range numDist).map distance.len)
        let size := header.size + literal.cost litFreq + distance.cost distFreq + extra
        match bw.cheaper ts final input litFreq distFreq extra size with
        | some done => Sum.inl done
        | none =>
          Sum.inr { bw with out := header.write bw.out numLit numDist final, literal := literal,
                            distance := distance, literalsOnly := false,
                            openHeader := if sync then 0 else header.size }
      else Sum.inr bw
    match bw with
    | .inl done => done
    | .inr bw =>
      let bw := if sync then { bw with openHeader := 0 } else bw
      { bw with out := ts.write bw.out bw.literal bw.distance }

def finish (bw : BlockWriter) : Bytes := (bw.storedHeader 0 true).out.bytes.toList

end BlockWriter

end LineKv.Deflate
