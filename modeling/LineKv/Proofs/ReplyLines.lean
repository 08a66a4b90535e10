import Mathlib
import LineKv.Proofs.Utf8RoundTrip
import LineKv.Line.Message
import LineKv.Line.Reply
import LineKv.Account.File

/-!
Replies read back. A numeric reply and a server line are each one line, and the command-line
grammar reads them back into their parts: the code's decimal text (or the command), then the
target and the parameters as written, then the text after ` :`.
-/

namespace LineKv

theorem Bytes.toList_loop (bs : ByteArray) (i : Nat) (r : List UInt8) :
    ByteArray.toList.loop bs i r = r.reverse ++ bs.data.toList.drop i := by
  induction i, r using ByteArray.toList.loop.induct bs with
  | case1 i r hi ih =>
    have hlen : i < bs.data.toList.length := by simpa using hi
    have hget : bs.get! i = bs.data.toList[i] := by
      simp only [ByteArray.get!, Array.getElem_toList]
      exact getElem!_pos bs.data i (by simpa using hi)
    rw [ByteArray.toList.loop, if_pos hi, ih, List.drop_eq_getElem_cons hlen, hget]
    simp
  | case2 i r hi =>
    have hlen : bs.data.toList.length ≤ i := by simpa using hi
    rw [ByteArray.toList.loop, if_neg hi]
    simp [List.drop_eq_nil_of_le hlen]

theorem Bytes.ofString_ofList (l : List Char) :
    Bytes.ofString (String.ofList l) = l.flatMap String.utf8EncodeChar := by
  simp [Bytes.ofString, List.utf8Encode, ByteArray.toList, Bytes.toList_loop]

theorem Bytes.ofNat_digit {n : Nat} {b : UInt8} (hb : b ∈ Bytes.ofNat n) :
    48 ≤ b.toNat ∧ b.toNat ≤ 57 := by
  rw [Bytes.ofNat, show toString n = String.ofList (Nat.toDigits 10 n) from rfl,
    Bytes.ofString_ofList, List.mem_flatMap] at hb
  obtain ⟨c, hc, hb⟩ := hb
  have hd := Nat.isDigit_of_mem_toDigits (by decide) (by decide) hc
  simp only [Char.isDigit, Bool.and_eq_true, decide_eq_true_eq] at hd
  have hdigit : 48 ≤ c.toNat ∧ c.toNat ≤ 57 := ⟨hd.1, hd.2⟩
  rw [show String.utf8EncodeChar c = [c.toNat.toUInt8] by
      simp [String.utf8EncodeChar, show ¬ 127 < c.toNat by omega],
    List.mem_singleton] at hb
  subst hb
  simp only [Nat.toUInt8_eq, UInt8.toNat_ofNat']
  omega

theorem Bytes.ofNat_ne_nil (n : Nat) : Bytes.ofNat n ≠ [] := by
  rw [Bytes.ofNat, show toString n = String.ofList (Nat.toDigits 10 n) from rfl,
    Bytes.ofString_ofList, ne_eq, List.flatMap_eq_nil_iff]
  intro h
  obtain ⟨c, hc⟩ := List.exists_mem_of_ne_nil _ Nat.toDigits_ne_nil
  exact String.utf8EncodeChar_ne_nil (h c hc)

theorem Bytes.cut_append_of_not_mem {a : Bytes} {sep : UInt8} (h : sep ∉ a) (b : Bytes) :
    Bytes.cut (a ++ sep :: b) sep = (a, some b) := by
  induction a with
  | nil => simp [Bytes.cut]
  | cons c a ih =>
    simp only [List.mem_cons, not_or] at h
    simp [Bytes.cut, Ne.symm h.1, ih h.2]

/-- A fold that stops at the first error keeps what each successful step keeps. -/
theorem foldl_except_inv {ε α β : Type} {step : Except ε α → β → Except ε α} (P : α → Prop)
    (herr : ∀ e b, step (.error e) b = .error e)
    (hstep : ∀ a b a', step (.ok a) b = .ok a' → P a → P a') :
    ∀ (l : List β) (a a' : α), P a → l.foldl step (.ok a) = .ok a' → P a'
  | [], a, a', ha, h => by
    simp only [List.foldl_nil, Except.ok.injEq] at h
    exact h ▸ ha
  | b :: l, a, a', ha, h => by
    rw [List.foldl_cons] at h
    cases hs : step (.ok a) b with
    | error e =>
      -- an error is carried to the end
      have hcarry : ∀ l : List β, l.foldl step (.error e) = .error e := fun l => by
        induction l with
        | nil => rfl
        | cons b l ih => rw [List.foldl_cons, herr, ih]
      rw [hs, hcarry] at h
      cases h
    | ok a'' => exact foldl_except_inv P herr hstep l a'' a' (hstep a b a'' hs ha) (hs ▸ h)

def Account.NameOk (n : Bytes) : Prop := n ≠ [] ∧ ∀ b ∈ n, b ≠ 32 ∧ b ≠ 9 ∧ b ≠ 58 ∧ b ≠ 42

theorem Accounts.build_names {hasher : Hasher} {defaults : Option Bytes} {entries : List AccountEntry}
    {accts : Accounts} (h : Accounts.build hasher defaults entries = .ok accts) : ∀ e ∈ accts.entries, Account.NameOk e.2.name := by
  unfold Accounts.build at h
  simp only [bind, Except.bind, pure, Except.pure, throw, throwThe, MonadExceptOf.throw] at h
  split at h
  · simp at h
  · split at h
    · simp at h
    · rename_i v heq
      simp only [Except.ok.injEq] at h
      subst h
      refine foldl_except_inv (fun v => ∀ x ∈ v.1, Account.NameOk x.2.name) (fun _ _ => rfl) ?_
        entries _ v (by simp) heq
      -- each entry that passes the checks is added with its trimmed, checked name
      rintro ⟨out, i⟩ e a' hs hout
      simp only at hs
      split_ifs at hs with hbad
      split at hs
      · simp at hs
      · split at hs
        · simp at hs
        · simp only [Except.ok.injEq] at hs
          subst hs
          intro x hx
          rcases List.mem_append.1 hx with hx | hx
          · exact hout x hx
          · simp only [List.mem_singleton] at hx
            subst hx
            simp only [Bool.or_eq_true, List.isEmpty_iff, List.any_eq_true, beq_iff_eq, not_or,
              not_exists, not_and] at hbad
            refine ⟨hbad.1, fun b hb => ?_⟩
            have hb' := hbad.2 b hb
            exact ⟨hb'.1.1.1, hb'.1.1.2, hb'.1.2, hb'.2⟩

theorem Accounts.parse_names {pfx text : String} {accts : Accounts}
    (h : Accounts.parse pfx text = .ok accts) : ∀ e ∈ accts.entries, Account.NameOk e.2.name := by
  unfold Accounts.parse Accounts.load at h
  simp only [bind, Except.bind] at h
  split at h
  · simp at h
  · exact Accounts.build_names h

namespace Line

def IsToken (t : Bytes) : Prop := t ≠ [] ∧ 32 ∉ t ∧ t.head? ≠ some 58

theorem isCommand_ofInt (i : Int) : isCommand (Bytes.ofInt i) = true := by
  have hdigits : ∀ b ∈ Bytes.ofNat i.natAbs, isCommandByte b = true := fun b hb => by
    have := Bytes.ofNat_digit hb
    simp only [isCommandByte, UInt8.le_iff_toNat_le, UInt8.reduceToNat, Bool.or_eq_true,
      Bool.and_eq_true, decide_eq_true_eq, beq_iff_eq]
    omega
  simp only [isCommand, Bool.and_eq_true, Bool.not_eq_true', List.isEmpty_eq_false_iff,
    List.all_eq_true]
  unfold Bytes.ofInt
  split
  · refine ⟨List.cons_ne_nil _ _, fun b hb => ?_⟩
    rcases List.mem_cons.1 hb with rfl | hb
    · decide
    · exact hdigits b hb
  · exact ⟨Bytes.ofNat_ne_nil _, hdigits⟩

theorem parseParams_space (room : Nat) (s : Bytes) : parseParams room (32 :: s) = parseParams room s := by
  cases room <;> simp [parseParams]

/-- Words written after single spaces, then ` :` and a text, are read back as those words and
that text, as long as the room for separate parameters is not exceeded. -/
theorem parseParams_tokens (t : Bytes) :
    ∀ (toks : List Bytes) (room : Nat), (∀ x ∈ toks, IsToken x) → toks.length ≤ room →
      parseParams room (toks.flatMap (32 :: ·) ++ 32 :: 58 :: t) = toks ++ [t]
  | [], room, _, _ => by
    rw [List.flatMap_nil, List.nil_append, parseParams_space]
    cases room <;> simp [parseParams]
  | x :: toks, room + 1, htoks, hlen => by
    obtain ⟨hne, hsp, hcolon⟩ := htoks x List.mem_cons_self
    have ih := parseParams_tokens t toks room (fun y hy => htoks y (List.mem_cons_of_mem _ hy))
      (by simpa using hlen)
    -- the rest always starts with the space before the next word or before ` :`
    obtain ⟨rest, hrest⟩ : ∃ rest, toks.flatMap (32 :: ·) ++ 32 :: 58 :: t = 32 :: rest := by
      cases toks <;> exact ⟨_, rfl⟩
    obtain ⟨c, x', rfl⟩ := List.exists_cons_of_ne_nil hne
    have hc32 : c ≠ 32 := fun h => hsp (h ▸ List.mem_cons_self)
    have hc58 : c ≠ 58 := fun h => hcolon (by simp [h])
    simp only [List.flatMap_cons, List.cons_append, List.append_assoc]
    rw [parseParams_space, hrest, parseParams]
    -- the word's first byte is no colon, so the grammar does not take the rest as one text
    simp only [List.dropWhile_cons, beq_iff_eq, hc32, if_false]
    rw [show (c :: (x' ++ 32 :: rest)) = (c :: x') ++ 32 :: rest from rfl,
      Bytes.cut_append_of_not_mem hsp]
    simp only [Option.getD_some, List.cons.injEq, true_and]
    rw [← parseParams_space, ← hrest, ih]
  | _ :: _, 0, _, hlen => by simp at hlen

/-- A line that starts with neither a space nor `@` has no tags: its command runs up to the
first space. -/
theorem decode_untagged {c : UInt8} {l : Bytes} (h32 : c ≠ 32) (h64 : c ≠ 64) :
    decode (c :: l) = if isCommand (Bytes.cut (c :: l) 32).1 then
      .ok ⟨none, (Bytes.cut (c :: l) 32).1, parseParams (maxParams - 1) ((Bytes.cut (c :: l) 32).2.getD [])⟩
      else .error (.invalidCommand (Bytes.cut (c :: l) 32).1) := by
  unfold decode
  simp only [List.dropWhile_cons, beq_iff_eq, h32, Bool.false_eq_true, if_false, List.isEmpty_cons]
  split
  · rename_i e heq
    split at heq
    · rename_i after hc
      simp only [List.cons.injEq] at hc
      exact absurd hc.1 h64
    · simp at heq
  · rename_i tags body heq
    split at heq
    · rename_i after hc
      simp only [List.cons.injEq] at hc
      exact absurd hc.1 h64
    · simp only [Except.ok.injEq, Prod.mk.injEq] at heq
      obtain ⟨rfl, rfl⟩ := heq
      rfl

theorem decode_tokens {cmd : Bytes} (hcmd : isCommand cmd = true) (toks : List Bytes) (t : Bytes)
    (htoks : ∀ x ∈ toks, IsToken x) (hlen : toks.length ≤ maxParams - 1) :
    decode (cmd ++ (toks.flatMap (32 :: ·) ++ 32 :: 58 :: t)) = .ok ⟨none, cmd, toks ++ [t]⟩ := by
  have hcmd' := hcmd
  simp only [isCommand, Bool.and_eq_true, Bool.not_eq_true', List.isEmpty_eq_false_iff,
    List.all_eq_true] at hcmd'
  obtain ⟨hne, hbytes⟩ := hcmd'
  have h32 : (32 : UInt8) ∉ cmd := fun h => by simpa [isCommandByte] using hbytes 32 h
  obtain ⟨c, cmd', rfl⟩ := List.exists_cons_of_ne_nil hne
  have hc := hbytes c List.mem_cons_self
  have hc32 : c ≠ 32 := by rintro rfl; simp [isCommandByte] at hc
  have hc64 : c ≠ 64 := by rintro rfl; simp [isCommandByte] at hc
  -- the command ends at the space that starts the words, or ` :` when there are none
  obtain ⟨rest, hrest⟩ : ∃ rest, toks.flatMap (32 :: ·) ++ 32 :: 58 :: t = 32 :: rest := by
    cases toks <;> exact ⟨_, rfl⟩
  rw [hrest, List.cons_append, decode_untagged hc32 hc64,
    show (c :: (cmd' ++ 32 :: rest)) = (c :: cmd') ++ 32 :: rest from rfl,
    Bytes.cut_append_of_not_mem h32, if_pos hcmd, Option.getD_some, ← parseParams_space, ← hrest,
    parseParams_tokens t toks _ htoks hlen]

/-! ## What parameters and texts become -/

def breaksParam (c : Char) : Bool := c = ' ' || c = '\r' || c = '\n' || c = '\x00'

def breaksText (c : Char) : Bool := c = '\r' || c = '\n' || c = '\x00'

def sanitizedParam (p : Bytes) : Bytes :=
  if p = [] then [42] else Utf8.rewrite breaksParam 95 (p.dropWhile (· == 58))

def sanitizedText (t : Bytes) : Bytes :=
  if 13 ∈ t ∨ 10 ∈ t ∨ 0 ∈ t then Utf8.rewrite breaksText 32 t else t

theorem paramToken_eq (p : Bytes) : paramToken p = sanitizedParam p := by
  unfold paramToken sanitizedParam
  by_cases hp : p = []
  · simp [hp]
  · rw [if_neg (by simpa using hp), if_neg hp]
    refine Utf8.mapChars_eq_rewrite (by decide) (fun c => ?_) (by decide) _
    by_cases h : breaksParam c = true <;> simp only [breaksParam, Bool.or_eq_true, decide_eq_true_eq] at h
    · simp only [breaksParam]
      rcases h with ((rfl | rfl) | rfl) | rfl <;> decide
    · simp only [breaksParam, Bool.or_eq_true, decide_eq_true_eq, h, if_false]
      rw [if_neg (by tauto)]

theorem trailingText_eq (t : Bytes) : trailingText t = sanitizedText t := by
  unfold trailingText sanitizedText
  have hany : t.any (fun b => b == 13 || b == 10 || b == 0) = true ↔ 13 ∈ t ∨ 10 ∈ t ∨ 0 ∈ t := by
    simp only [List.any_eq_true, Bool.or_eq_true, beq_iff_eq]
    constructor
    · rintro ⟨b, hb, (rfl | rfl) | rfl⟩ <;> simp_all
    · rintro (h | h | h) <;> exact ⟨_, h, by simp⟩
  by_cases h : 13 ∈ t ∨ 10 ∈ t ∨ 0 ∈ t
  · rw [if_pos (hany.2 h), if_pos h]
    refine Utf8.mapChars_eq_rewrite (by decide) (fun c => ?_) (by decide) _
    by_cases hc : breaksText c = true <;> simp only [breaksText, Bool.or_eq_true, decide_eq_true_eq] at hc
    · simp only [breaksText]
      rcases hc with (rfl | rfl) | rfl <;> decide
    · simp only [breaksText, Bool.or_eq_true, decide_eq_true_eq, hc, if_false]
      rw [if_neg (by tauto)]
  · rw [if_neg (fun h' => h (hany.1 h')), if_neg h]

theorem sanitizedParam_isToken {p : Bytes} (hp : p = [] ∨ ∃ b ∈ p, b ≠ 58) :
    IsToken (sanitizedParam p) ∧ 10 ∉ sanitizedParam p := by
  unfold sanitizedParam
  by_cases he : p = []
  · simp [he, IsToken]
  rw [if_neg he]
  -- what is left after the colons starts with a byte other than a colon
  obtain ⟨a, rest, hdrop, ha⟩ : ∃ a rest, p.dropWhile (· == 58) = a :: rest ∧ a ≠ 58 := by
    obtain ⟨b, hb, hb58⟩ := hp.resolve_left he
    cases h : p.dropWhile (· == 58) with
    | nil =>
      have := List.dropWhile_eq_nil_iff.1 h b hb
      simp only [beq_iff_eq] at this
      exact absurd this hb58
    | cons a rest =>
      have := @List.head_dropWhile_not _ (· == 58) p (by simp [h])
      simp only [h, List.head_cons] at this
      exact ⟨a, rest, rfl, by simpa using this⟩
  rw [hdrop]
  have hascii : ∀ x ∈ Utf8.rewrite breaksParam 95 (a :: rest), x.toNat < 0x80 →
      x = 95 ∨ breaksParam (Char.ofNat x.toNat) = false := fun x hx hlt =>
    Utf8.mem_rewrite_ascii hx hlt
  refine ⟨⟨fun h => ?_, fun h => ?_, ?_⟩, fun h => ?_⟩
  · exact (List.cons_ne_nil a rest) (Utf8.rewrite_eq_nil.1 h)
  · rcases hascii 32 h (by decide) with h' | h' <;> revert h' <;> decide
  · obtain ⟨t, ht | ht | ht⟩ := Utf8.rewrite_cons breaksParam 95 a rest <;> rw [ht] <;> simp [ha]
  · rcases hascii 10 h (by decide) with h' | h' <;> revert h' <;> decide

theorem lf_not_mem_sanitizedText (t : Bytes) : 10 ∉ sanitizedText t := by
  unfold sanitizedText
  split
  · intro h
    rcases Utf8.mem_rewrite_ascii h (by decide) with h' | h' <;> revert h' <;> decide
  · rename_i h
    exact fun h' => h (.inr (.inl h'))

/-- On valid UTF-8 a text is only cleared of its line breaks and NULs, each becoming a space: what
the rewrite changes beyond that are stray bytes. -/
theorem sanitizedText_of_isValid {t : Bytes} (ht : Utf8.isValid t = true) :
    sanitizedText t = t.map fun b => if b = 13 ∨ b = 10 ∨ b = 0 then 32 else b := by
  unfold sanitizedText
  split
  · -- the characters rewritten are ASCII, so the rewrite is a map over the bytes
    have hbad : ∀ c, breaksText c = true → c.toNat < 0x80 := fun c hc => by
      simp only [breaksText, Bool.or_eq_true, decide_eq_true_eq] at hc
      rcases hc with (rfl | rfl) | rfl <;> decide
    have hbyte : ∀ b : UInt8, (if b.toNat < 0x80 ∧ breaksText (Char.ofNat b.toNat) = true then 32 else b) =
        if b = 13 ∨ b = 10 ∨ b = 0 then 32 else b := by
      decide +kernel
    rw [Utf8.rewrite_of_isValid hbad 32 ht]
    exact List.map_congr_left fun b _ => hbyte b
  · -- no byte is rewritten
    rename_i h
    have hkeep : ∀ b ∈ t, ¬(b = 13 ∨ b = 10 ∨ b = 0) := by
      rintro b hb (rfl | rfl | rfl)
      · exact h (.inl hb)
      · exact h (.inr (.inl hb))
      · exact h (.inr (.inr hb))
    conv_lhs => rw [← List.map_id t]
    exact List.map_congr_left fun b hb => (if_neg (hkeep b hb)).symm

/-! ## One line, read back -/

theorem tail_eq (params : List Bytes) (text : Bytes) :
    tail params text =
      (params.map sanitizedParam).flatMap (32 :: ·) ++ 32 :: 58 :: sanitizedText text ++ [13, 10] := by
  simp [tail, List.flatMap_map, paramToken_eq, trailingText_eq]

theorem lf_not_mem_flatMap {toks : List Bytes} (h : ∀ x ∈ toks, 10 ∉ x) : 10 ∉ toks.flatMap (32 :: ·) := by
  simp only [List.mem_flatMap, List.mem_cons, not_exists, not_and]
  intro x hx h'
  rcases h' with h' | h'
  · exact absurd h' (by decide)
  · exact h x hx h'

theorem sanitizedParams_tokens {params : List Bytes} (hp : ∀ p ∈ params, p = [] ∨ ∃ b ∈ p, b ≠ 58) :
    ∀ x ∈ params.map sanitizedParam, IsToken x ∧ 10 ∉ x := fun x hx => by
  obtain ⟨p, hp', rfl⟩ := List.mem_map.1 hx
  exact sanitizedParam_isToken (hp p hp')

theorem lf_not_mem_of_isCommand {cmd : Bytes} (h : isCommand cmd = true) : 10 ∉ cmd := fun h10 => by
  simp only [isCommand, Bool.and_eq_true, List.all_eq_true] at h
  simpa [isCommandByte] using h.2 10 h10

/-- The target of a reply is a word of its own: `*`, or an account's name. -/
theorem replyTarget_isToken {target : Bytes}
    (h : target = [] ∨ ∃ pfx src accts, Accounts.parse pfx src = .ok accts ∧
      target ∈ accts.entries.map (·.2.name)) :
    IsToken (if target.isEmpty then [42] else target) := by
  rcases h with rfl | ⟨pfx, src, accts, hparse, hmem⟩
  · simp [IsToken]
  · obtain ⟨e, he, rfl⟩ := List.mem_map.1 hmem
    obtain ⟨hne, hbytes⟩ := Accounts.parse_names hparse e he
    rw [if_neg (by simpa using hne)]
    refine ⟨hne, fun h => (hbytes 32 h).1 rfl, fun h => ?_⟩
    obtain ⟨c, cs, hc⟩ := List.exists_cons_of_ne_nil hne
    simp only [hc, List.head?_cons, Option.some.injEq] at h
    exact (hbytes 58 (by simp [hc, h])).2.2.1 rfl

theorem reply_decodes (code : Code) {target : Bytes} (params : List Bytes) (text : Bytes)
    (htarget : target = [] ∨ ∃ pfx src accts, Accounts.parse pfx src = .ok accts ∧
      target ∈ accts.entries.map (·.2.name))
    (hlf : 10 ∉ target) (hp : ∀ p ∈ params, p = [] ∨ ∃ b ∈ p, b ≠ 58)
    (hlen : params.length < maxParams - 1) :
    ∃ body, reply code target params text = body ++ [13, 10] ∧ 10 ∉ body ∧
      decode body = .ok ⟨none, Bytes.ofInt code.val,
        (if target.isEmpty then [42] else target) :: params.map sanitizedParam ++ [sanitizedText text]⟩ := by
  have hparams := sanitizedParams_tokens hp
  have hlf' : 10 ∉ (if target.isEmpty then [42] else target) := by
    split <;> simp_all
  refine ⟨Bytes.ofInt code.val ++ (((if target.isEmpty then [42] else target) ::
    params.map sanitizedParam).flatMap (32 :: ·) ++ 32 :: 58 :: sanitizedText text), ?_, ?_, ?_⟩
  · simp [reply, tail_eq]
  · -- neither the code, the words nor the text holds a line feed
    simp only [List.mem_append, List.mem_cons, not_or]
    refine ⟨lf_not_mem_of_isCommand (isCommand_ofInt _), lf_not_mem_flatMap ?_, by decide, by decide,
      lf_not_mem_sanitizedText text⟩
    intro x hx
    rcases List.mem_cons.1 hx with rfl | hx
    · exact hlf'
    · exact (hparams x hx).2
  · rw [decode_tokens (isCommand_ofInt _) _ _ ?_ (by simp [maxParams] at hlen ⊢; omega)]
    intro x hx
    rcases List.mem_cons.1 hx with rfl | hx
    · exact replyTarget_isToken htarget
    · exact (hparams x hx).1

theorem serverLine_decodes {command : Bytes} (params : List Bytes) (trailing : Bytes)
    (hc : isCommand command = true) (hp : ∀ p ∈ params, p = [] ∨ ∃ b ∈ p, b ≠ 58)
    (hlen : params.length < maxParams) :
    ∃ body, serverLine command params trailing = body ++ [13, 10] ∧ 10 ∉ body ∧
      decode body = .ok ⟨none, command, params.map sanitizedParam ++ [sanitizedText trailing]⟩ := by
  have hparams := sanitizedParams_tokens hp
  refine ⟨command ++ ((params.map sanitizedParam).flatMap (32 :: ·) ++ 32 :: 58 :: sanitizedText trailing),
    ?_, ?_, ?_⟩
  · simp [serverLine, tail_eq]
  · simp only [List.mem_append, List.mem_cons, not_or]
    exact ⟨lf_not_mem_of_isCommand hc, lf_not_mem_flatMap fun x hx => (hparams x hx).2, by decide,
      by decide, lf_not_mem_sanitizedText trailing⟩
  · exact decode_tokens hc _ _ (fun x hx => (hparams x hx).1) (by simp [maxParams] at hlen ⊢; omega)

/-- Every reply and every server line is one line, and reads back as its code (or command), its
target, its parameters as written and its text as written; the target must be empty or the name
of an account, and without a line feed, and no parameter may be made only of colons. -/
theorem reply_and_serverLine_decode :
    (∀ (code : Code) (target : Bytes) (params : List Bytes) (text : Bytes),
      (target = [] ∨ ∃ pfx src accts, Accounts.parse pfx src = .ok accts ∧
        target ∈ accts.entries.map (·.2.name)) →
      10 ∉ target → (∀ p ∈ params, p = [] ∨ ∃ b ∈ p, b ≠ 58) → params.length < maxParams - 1 →
      ∃ body, reply code target params text = body ++ [13, 10] ∧ 10 ∉ body ∧
        decode body = .ok ⟨none, Bytes.ofInt code.val,
          (if target.isEmpty then [42] else target) :: params.map sanitizedParam ++
            [sanitizedText text]⟩) ∧
    (∀ (command : Bytes) (params : List Bytes) (trailing : Bytes),
      isCommand command = true → (∀ p ∈ params, p = [] ∨ ∃ b ∈ p, b ≠ 58) →
      params.length < maxParams →
      ∃ body, serverLine command params trailing = body ++ [13, 10] ∧ 10 ∉ body ∧
        decode body = .ok ⟨none, command, params.map sanitizedParam ++ [sanitizedText trailing]⟩) :=
  ⟨fun code _ params text htarget hlf hp hlen => reply_decodes code params text htarget hlf hp hlen,
    fun _ params trailing hc hp hlen => serverLine_decodes params trailing hc hp hlen⟩

/-- A reply to no one with one parameter, and a ping line with a token. -/
theorem reply_and_serverLine_decode_at_ping :
    let params := [Bytes.ofString "my key", []]
    let text := Bytes.ofString "line1\nline2"
    ((∀ p ∈ params, p = [] ∨ ∃ b ∈ p, b ≠ 58) ∧ params.length < maxParams - 1 ∧
      ∃ body, reply Code.value [] params text = body ++ [13, 10] ∧ 10 ∉ body ∧
        decode body = .ok ⟨none, Bytes.ofInt 201, [42] :: params.map sanitizedParam ++
          [sanitizedText text]⟩) ∧
    (isCommand (Bytes.ofString "PING") = true ∧
      ∃ body, serverLine (Bytes.ofString "PING") [] (Bytes.ofString "tok") = body ++ [13, 10] ∧
        10 ∉ body ∧ decode body = .ok ⟨none, Bytes.ofString "PING", [sanitizedText (Bytes.ofString "tok")]⟩) := by
  intro params text
  have hp : ∀ p ∈ params, p = [] ∨ ∃ b ∈ p, b ≠ 58 := by decide +kernel
  have hc : isCommand (Bytes.ofString "PING") = true := by decide +kernel
  exact ⟨⟨hp, by decide, reply_and_serverLine_decode.1 Code.value [] params text (.inl rfl) (by decide) hp
    (by decide)⟩, ⟨hc, reply_and_serverLine_decode.2 _ [] _ hc (by simp) (by decide)⟩⟩

/-- A stray byte in a text that holds a carriage return comes back as U+FFFD, not as itself. -/
theorem reply_rewrites_stray_byte :
    reply ⟨200⟩ [] [] [0xFF, 13] = Bytes.ofString "200 * :" ++ [0xEF, 0xBF, 0xBD, 32, 13, 10] ∧
      (decode (Bytes.ofString "200 * :" ++ [0xEF, 0xBF, 0xBD, 32])).toOption.map (·.params) =
        some [[42], [0xEF, 0xBF, 0xBD, 32]] := by
  constructor <;> decide +kernel

end Line

end LineKv
