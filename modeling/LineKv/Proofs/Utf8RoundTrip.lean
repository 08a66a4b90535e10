import Mathlib
import LineKv.Text.Utf8

/-!
Reading and writing UTF-8 agree.
-/

namespace LineKv.Utf8

theorem toNat_ofNat_of_valid {n : Nat} (h : n < 0xD800 ∨ (0xDFFF < n ∧ n < 0x110000)) :
    (Char.ofNat n).toNat = n := by
  have hv : n.isValidChar := by unfold Nat.isValidChar; omega
  simp [Char.ofNat, hv, Char.ofNatAux, Char.toNat]

theorem toNat_lt_of_char (c : Char) : c.toNat < 0x110000 := by
  have := c.valid
  simp only [UInt32.isValidChar, Nat.isValidChar] at this
  simp only [Char.toNat]
  omega

theorem toUInt8_eq_iff {n : Nat} {b : UInt8} : n.toUInt8 = b ↔ n % 256 = b.toNat := by
  rw [UInt8.ext_iff]
  simp only [Nat.toUInt8_eq, UInt8.toNat_ofNat']

theorem encode_of_lt {c : Char} (h : c.toNat < 0x80) : encode c = [c.toNat.toUInt8] := by
  simp [encode, h]

theorem encode_ascii {c : Char} {b : UInt8} (hb : b ∈ encode c) (hlt : b.toNat < 128) :
    c.toNat = b.toNat := by
  have hc := toNat_lt_of_char c
  unfold encode at hb
  simp only at hb
  split_ifs at hb <;> simp only [List.mem_cons, List.mem_nil_iff, or_false] at hb <;>
    rcases hb with rfl | rfl | rfl | rfl <;>
    simp only [Nat.toUInt8_eq, UInt8.toNat_ofNat'] at hlt ⊢ <;> omega

/-! ## The writer's spelling of a value read from two, three or four bytes -/

theorem encode_ofNat_two {v : Nat} (h1 : 0x80 ≤ v) (h2 : v < 0x800) :
    encode (Char.ofNat v) = [(0xC0 + v / 64).toUInt8, (0x80 + v % 64).toUInt8] := by
  have hv := toNat_ofNat_of_valid (n := v) (by omega)
  simp only [encode, hv, show ¬ v < 0x80 by omega, if_false, show v < 0x800 from h2, if_true]

theorem encode_ofNat_three {v : Nat} (h1 : 0x800 ≤ v) (h2 : v < 0x10000)
    (hs : v < 0xD800 ∨ 0xDFFF < v) :
    encode (Char.ofNat v) =
      [(0xE0 + v / 4096).toUInt8, (0x80 + v / 64 % 64).toUInt8, (0x80 + v % 64).toUInt8] := by
  have hv := toNat_ofNat_of_valid (n := v) (by omega)
  simp only [encode, hv, show ¬ v < 0x80 by omega, show ¬ v < 0x800 by omega, if_false,
    show v < 0x10000 from h2, if_true]

theorem encode_ofNat_four {v : Nat} (h1 : 0x10000 ≤ v) (h2 : v < 0x110000) :
    encode (Char.ofNat v) =
      [(0xF0 + v / 262144).toUInt8, (0x80 + v / 4096 % 64).toUInt8, (0x80 + v / 64 % 64).toUInt8,
        (0x80 + v % 64).toUInt8] := by
  have hv := toNat_ofNat_of_valid (n := v) (by omega)
  simp only [encode, hv, show ¬ v < 0x80 by omega, show ¬ v < 0x800 by omega,
    show ¬ v < 0x10000 by omega, if_false]

theorem encode_two {a b : UInt8} {v : Nat} (ha : 0xC2 ≤ a.toNat ∧ a.toNat ≤ 0xDF)
    (hb : 0x80 ≤ b.toNat ∧ b.toNat ≤ 0xBF) (hv : v = (a.toNat - 0xC0) * 64 + (b.toNat - 0x80)) :
    encode (Char.ofNat v) = [a, b] := by
  rw [encode_ofNat_two (by omega) (by omega)]
  simp only [List.cons.injEq, toUInt8_eq_iff, and_true]
  omega

theorem encode_three {a b c : UInt8} {v : Nat} (ha : 0xE0 ≤ a.toNat ∧ a.toNat ≤ 0xEF)
    (hb : 0x80 ≤ b.toNat ∧ b.toNat ≤ 0xBF) (hc : 0x80 ≤ c.toNat ∧ c.toNat ≤ 0xBF)
    (hv : v = ((a.toNat - 0xE0) * 64 + (b.toNat - 0x80)) * 64 + (c.toNat - 0x80))
    (hlow : 0x800 ≤ v) (hs : v < 0xD800 ∨ 0xDFFF < v) :
    encode (Char.ofNat v) = [a, b, c] := by
  rw [encode_ofNat_three hlow (by omega) hs]
  simp only [List.cons.injEq, toUInt8_eq_iff, and_true]
  omega

theorem encode_four {a b c d : UInt8} {v : Nat} (ha : 0xF0 ≤ a.toNat ∧ a.toNat ≤ 0xF4)
    (hb : 0x80 ≤ b.toNat ∧ b.toNat ≤ 0xBF) (hc : 0x80 ≤ c.toNat ∧ c.toNat ≤ 0xBF)
    (hd : 0x80 ≤ d.toNat ∧ d.toNat ≤ 0xBF)
    (hv : v = (((a.toNat - 0xF0) * 64 + (b.toNat - 0x80)) * 64 + (c.toNat - 0x80)) * 64 +
      (d.toNat - 0x80))
    (hlow : 0x10000 ≤ v) (hhigh : v < 0x110000) :
    encode (Char.ofNat v) = [a, b, c, d] := by
  rw [encode_ofNat_four hlow hhigh]
  simp only [List.cons.injEq, toUInt8_eq_iff, and_true]
  omega

/-! ## The reader's side -/

theorem tails_succ {k acc : Nat} {s : Bytes} {v : Nat} (h : tails (k + 1) acc s = some v) :
    ∃ c more, s = c :: more ∧ 0x80 ≤ c.toNat ∧ c.toNat ≤ 0xBF ∧
      tails k (acc * 64 + (c.toNat - 0x80)) more = some v := by
  cases s with
  | nil => simp [tails] at h
  | cons c more =>
    simp only [tails] at h
    by_cases hc : isTail c = true
    · rw [if_pos hc] at h
      simp only [isTail, Bool.and_eq_true, decide_eq_true_eq, UInt8.le_iff_toNat_le,
        UInt8.reduceToNat] at hc
      exact ⟨c, more, rfl, hc.1, hc.2, h⟩
    · rw [if_neg hc] at h
      exact absurd h (by simp)

/-- What a lead byte announces: its number of continuation bytes, its payload bits, and bounds on
the first continuation byte that keep the value a scalar spelled in the fewest bytes. -/
theorem shape_cases {a lo hi : UInt8} {n payload : Nat} (h : shape a = some (n, lo, hi, payload)) :
    0x80 ≤ lo.toNat ∧ hi.toNat ≤ 0xBF ∧
      ((n = 1 ∧ 0xC2 ≤ a.toNat ∧ a.toNat ≤ 0xDF ∧ payload = a.toNat - 0xC0) ∨
       (n = 2 ∧ 0xE0 ≤ a.toNat ∧ a.toNat ≤ 0xEF ∧ payload = a.toNat - 0xE0 ∧
          32 ≤ payload * 64 + (lo.toNat - 0x80) ∧
          (payload * 64 + (hi.toNat - 0x80) < 0x360 ∨ 0x380 ≤ payload * 64 + (lo.toNat - 0x80))) ∨
       (n = 3 ∧ 0xF0 ≤ a.toNat ∧ a.toNat ≤ 0xF4 ∧ payload = a.toNat - 0xF0 ∧
          16 ≤ payload * 64 + (lo.toNat - 0x80) ∧ payload * 64 + (hi.toNat - 0x80) < 272)) := by
  unfold shape at h
  split_ifs at h <;> simp only [Option.some.injEq, Prod.mk.injEq] at h <;>
    obtain ⟨rfl, rfl, rfl, rfl⟩ := h <;>
    simp only [UInt8.le_iff_toNat_le, UInt8.ext_iff, UInt8.reduceToNat, true_and, and_true] at * <;>
    omega

/-- A multi-byte sequence the reader accepts is the writer's spelling of its value. -/
theorem encode_of_shape {a b : UInt8} {more : Bytes} {n : Nat} {lo hi : UInt8} {payload v : Nat}
    (hs : shape a = some (n, lo, hi, payload)) (hlo : lo ≤ b) (hhi : b ≤ hi)
    (ht : tails (n - 1) (payload * 64 + (b.toNat - 0x80)) more = some v) :
    encode (Char.ofNat v) = a :: (b :: more).take n := by
  rw [UInt8.le_iff_toNat_le] at hlo hhi
  obtain ⟨hlo', hhi', h1 | h2 | h3⟩ := shape_cases hs
  · -- one continuation byte
    obtain ⟨rfl, ha1, ha2, hp⟩ := h1
    rw [Nat.sub_self, tails, Option.some.injEq, hp] at ht
    exact encode_two ⟨ha1, ha2⟩ (by omega) (by omega)
  · -- two continuation bytes
    obtain ⟨rfl, ha1, ha2, hp, hmin, hsur⟩ := h2
    obtain ⟨c, more, rfl, hc1, hc2, ht⟩ := tails_succ ht
    rw [tails, Option.some.injEq] at ht
    exact encode_three ⟨ha1, ha2⟩ (by omega) ⟨hc1, hc2⟩ (by omega) (by omega) (by omega)
  · -- three continuation bytes
    obtain ⟨rfl, ha1, ha2, hp, hmin, hmax⟩ := h3
    obtain ⟨c, more, rfl, hc1, hc2, ht⟩ := tails_succ ht
    obtain ⟨d, more, rfl, hd1, hd2, ht⟩ := tails_succ ht
    rw [tails, Option.some.injEq] at ht
    exact encode_four ⟨ha1, ha2⟩ (by omega) ⟨hc1, hc2⟩ ⟨hd1, hd2⟩ (by omega) (by omega) (by omega)

theorem encode_lead {a : UInt8} {rest raw : Bytes} {c : Char}
    (h : (lead a rest).1 = .scalar c raw) : encode c = raw := by
  unfold lead at h
  split at h
  · -- an ASCII byte is its own character
    rename_i ha
    simp only [Piece.scalar.injEq] at h
    obtain ⟨rfl, rfl⟩ := h
    have hlt : a.toNat < 0x80 := UInt8.lt_iff_toNat_lt.1 ha
    rw [encode_of_lt (by rw [toNat_ofNat_of_valid (by omega)]; exact hlt),
      toNat_ofNat_of_valid (by omega), List.cons.injEq, toUInt8_eq_iff, Nat.mod_eq_of_lt (by omega)]
    exact ⟨rfl, rfl⟩
  · split at h
    · rename_i n lo hi payload b more hs
      split at h
      · rename_i hb
        split at h
        · rename_i v hv
          simp only [Piece.scalar.injEq] at h
          obtain ⟨rfl, rfl⟩ := h
          exact encode_of_shape hs hb.1 hb.2 hv
        · simp at h
      · simp at h
    · simp at h

theorem encode_of_mem_pieces {s raw : Bytes} {c : Char} (h : Piece.scalar c raw ∈ pieces s) :
    encode c = raw := by
  induction s using pieces.induct with
  | case1 => simp [pieces] at h
  | case2 a rest ih =>
    rw [pieces, List.mem_cons] at h
    rcases h with h | h
    · exact encode_lead h.symm
    · exact ih h

/-! ## Rewriting characters -/

/-- A string read as UTF-8 with every character that `bad` picks rewritten to the byte `b`: every
other well-formed character keeps its bytes, and every stray byte becomes U+FFFD. -/
def rewrite (bad : Char → Bool) (b : UInt8) (s : Bytes) : Bytes :=
  (pieces s).flatMap fun
    | .scalar c raw => if bad c then [b] else raw
    | .stray _ => encode replacement

theorem mapChars_eq_rewrite {f : Char → Char} {bad : Char → Bool} {b : UInt8} (hb : b.toNat < 0x80)
    (hf : ∀ c, f c = if bad c then Char.ofNat b.toNat else c) (hr : bad replacement = false)
    (s : Bytes) : mapChars f s = rewrite bad b s := by
  unfold mapChars rewrite
  refine List.flatMap_congr fun p hp => ?_
  cases p with
  | scalar c raw =>
    dsimp only
    rw [Piece.char, hf c]
    split
    · rw [encode_of_lt (by rw [toNat_ofNat_of_valid (by omega)]; exact hb),
        toNat_ofNat_of_valid (by omega), toUInt8_eq_iff.2 (Nat.mod_eq_of_lt (by omega))]
    · exact encode_of_mem_pieces hp
  | stray x => rw [Piece.char, hf, hr, if_neg Bool.false_ne_true]

theorem mem_rewrite_ascii {bad : Char → Bool} {b x : UInt8} {s : Bytes} (hx : x ∈ rewrite bad b s)
    (hlt : x.toNat < 0x80) : x = b ∨ bad (Char.ofNat x.toNat) = false := by
  obtain ⟨p, hp, hxp⟩ := List.mem_flatMap.1 hx
  cases p with
  | scalar c raw =>
    simp only at hxp
    split at hxp
    · exact .inl (List.mem_singleton.1 hxp)
    · rename_i hc
      rw [← encode_of_mem_pieces hp] at hxp
      rw [← encode_ascii hxp hlt, Char.ofNat_toNat]
      exact .inr (by simpa using hc)
  | stray y =>
    simp only at hxp
    have := encode_ascii hxp hlt
    simp [replacement] at this
    omega

theorem rewrite_cons (bad : Char → Bool) (b a : UInt8) (rest : Bytes) :
    ∃ t, rewrite bad b (a :: rest) = b :: t ∨ rewrite bad b (a :: rest) = a :: t ∨
      rewrite bad b (a :: rest) = 0xEF :: t := by
  unfold rewrite
  rw [pieces, List.flatMap_cons]
  have hraw := lead_raw a rest
  generalize (lead a rest).1 = p at hraw ⊢
  cases p with
  | scalar c raw =>
    simp only [Piece.raw] at hraw
    subst hraw
    by_cases hc : bad c = true
    · exact ⟨_, .inl (by simp only [if_pos hc]; rfl)⟩
    · exact ⟨_, .inr (.inl (by simp only [if_neg hc]; rfl))⟩
  | stray y => exact ⟨_, .inr (.inr rfl)⟩

theorem rewrite_eq_nil {bad : Char → Bool} {b : UInt8} {s : Bytes} :
    rewrite bad b s = [] ↔ s = [] := by
  constructor
  · intro h
    cases s with
    | nil => rfl
    | cons a rest =>
      obtain ⟨t, ht | ht | ht⟩ := rewrite_cons bad b a rest <;> rw [ht] at h <;> cases h
  · rintro rfl
    simp [rewrite, pieces]

theorem rewrite_of_isValid {bad : Char → Bool} (hbad : ∀ c, bad c = true → c.toNat < 0x80)
    (b : UInt8) {s : Bytes} (hs : isValid s = true) :
    rewrite bad b s = s.map fun x => if x.toNat < 0x80 ∧ bad (Char.ofNat x.toNat) = true then b else x := by
  conv_rhs => rw [← flatMap_raw_pieces s]
  rw [rewrite, List.map_flatMap]
  refine List.flatMap_congr fun p hp => ?_
  cases p with
  | scalar c raw =>
    have henc := encode_of_mem_pieces hp
    simp only [Piece.raw]
    split
    · -- a rewritten character is one ASCII byte
      rename_i hc
      have hlt := hbad c hc
      rw [← henc, encode_of_lt hlt]
      have hx : (c.toNat.toUInt8).toNat = c.toNat := by
        simp only [Nat.toUInt8_eq, UInt8.toNat_ofNat']
        omega
      simp [hx, hlt, hc]
    · -- every byte of a character left alone is kept
      rename_i hc
      refine ((List.map_congr_left fun x hx => ?_).trans (List.map_id raw)).symm
      rw [← henc] at hx
      by_cases hlt : x.toNat < 0x80
      · rw [← encode_ascii hx hlt, Char.ofNat_toNat]
        simp [hc]
      · simp [hlt]
  | stray y =>
    simp only [isValid, List.all_eq_true] at hs
    exact absurd (hs _ hp) (by simp)

end LineKv.Utf8
