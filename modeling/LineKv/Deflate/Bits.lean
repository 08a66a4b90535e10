import LineKv.Bytes

/-!
Writing a bit stream the way DEFLATE packs it: bits go into bytes least significant first, and
Huffman codes, whose first bit is their most significant, are therefore sent bit-reversed.
-/

namespace LineKv.Deflate

/-- A bit sink: finished bytes and the pending bits. -/
structure BitWriter where
  bytes : Array UInt8
  acc : Nat
  nacc : Nat

namespace BitWriter

def empty : BitWriter := ⟨#[], 0, 0⟩

def bits (w : BitWriter) (v n : Nat) : BitWriter :=
  let acc := w.acc + (v % Nat.pow 2 n) * Nat.pow 2 w.nacc
  let nacc := w.nacc + n
  let full := nacc / 8
  let out := (List.range full).foldl (fun (b : Array UInt8) i => b.push (acc / Nat.pow 256 i % 256).toUInt8) w.bytes
  ⟨out, acc / Nat.pow 256 full, nacc % 8⟩

def align (w : BitWriter) : BitWriter := if w.nacc = 0 then w else w.bits 0 (8 - w.nacc)

def code (w : BitWriter) (c len : Nat) : BitWriter :=
  w.bits ((List.range len).foldl (fun acc i => acc * 2 + c / Nat.pow 2 i % 2) 0) len

def raw (w : BitWriter) (data : Array UInt8) : BitWriter := { w with bytes := w.bytes ++ data }

def finish (w : BitWriter) : Bytes := w.align.bytes.toList

end BitWriter

end LineKv.Deflate
