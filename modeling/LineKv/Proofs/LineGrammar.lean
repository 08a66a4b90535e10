import LineKv.Proofs.ReplyLines
import LineKv.Proofs.StoreContract
import LineKv.Proofs.BrokerIndexes

/-!
The command-line grammar, stated on its own and matched against the decoder. Main statement:
`Line.decode_reads_grammar`.
-/

namespace LineKv

theorem Bytes.cut_of_not_mem {s : Bytes} {sep : UInt8} (h : sep ∉ s) : Bytes.cut s sep = (s, none) := by
  induction s with
  | nil => rfl
  | cons c s ih =>
    have hc : c ≠ sep := fun hc => h (hc ▸ List.mem_cons_self)
    simp [Bytes.cut, hc, ih (fun hs => h (List.mem_cons_of_mem c hs))]

theorem Bytes.cut_fst_eq (s : Bytes) (sep : UInt8) : (Bytes.cut s sep).1 = s.takeWhile (· != sep) := by
  induction s with
  | nil => rfl
  | cons c s ih =>
    by_cases hc : c = sep
    · simp [Bytes.cut, hc]
    · simp [Bytes.cut, hc, ih]

theorem Bytes.cut_snd_getD (s : Bytes) (sep : UInt8) :
    (Bytes.cut s sep).2.getD [] = (s.dropWhile (· != sep)).drop 1 := by
  induction s with
  | nil => rfl
  | cons c s ih =>
    by_cases hc : c = sep
    · simp [Bytes.cut, hc]
    · simp [Bytes.cut, hc, ih]

theorem Bytes.splitOn_eq (s : Bytes) (sep : UInt8) : Bytes.splitOn s sep = List.splitOn sep s := by
  induction s with
  | nil => rfl
  | cons c s ih =>
    have ih' : Bytes.splitOn s sep = List.splitOnP (· == sep) s := ih
    show _ = List.splitOnP (· == sep) (c :: s)
    rw [List.splitOnP_cons_eq_if_modifyHead]
    by_cases hc : c = sep
    · simp [Bytes.splitOn, hc, ih']
    -- the library's split is never empty, so its first piece takes `c`
    · obtain ⟨p, ps, hps⟩ := List.exists_cons_of_ne_nil (List.splitOnP_ne_nil (· == sep) s)
      simp [Bytes.splitOn, hc, ih', hps]

theorem Bytes.lt_or_gt_of_ne {a b : Bytes} (h : a ≠ b) : a < b ∨ b < a := by
  by_cases hab : a < b
  · exact .inl hab
  · rcases List.le_iff_lt_or_eq.1 (List.not_lt.1 hab) with h' | h'
    · exact .inr h'
    · exact absurd h'.symm h

namespace Line

def Blank (s : Bytes) : Prop := ∀ c ∈ s, c = 32

theorem blank_cons {c : UInt8} {s : Bytes} : Blank (c :: s) ↔ c = 32 ∧ Blank s := by
  simp [Blank]

theorem blank_takeWhile (s : Bytes) : Blank (s.takeWhile (· == 32)) := fun c hc => by
  simpa using List.mem_takeWhile_imp hc

theorem blank_append_dropWhile (s : Bytes) : s.takeWhile (· == 32) ++ s.dropWhile (· == 32) = s :=
  List.takeWhile_append_dropWhile

theorem ne_space_of_dropWhile {s t : Bytes} {c : UInt8} (h : s.dropWhile (· == 32) = c :: t) :
    c ≠ 32 := by
  have hc := List.head_dropWhile_not (· == 32) (l := s) (by simp [h])
  simpa [h] using hc

theorem dropWhile_blank_append {sp : Bytes} (h : Blank sp) (s : Bytes) :
    (sp ++ s).dropWhile (· == 32) = s.dropWhile (· == 32) :=
  List.dropWhile_append_of_pos fun c hc => by simp [h c hc]

theorem space_cases (body : Bytes) : 32 ∉ body ∨ ∃ w r, body = w ++ 32 :: r ∧ 32 ∉ w := by
  cases hcut : (Bytes.cut body 32).2 with
  | none => exact .inl ((Bytes.cut_none_iff _ _).1 hcut)
  | some r => exact .inr ⟨_, r, Bytes.cut_some body 32 r hcut, Bytes.cut_fst_not_mem body 32⟩

/-! ## Parameters -/

/-- How the text after a command reads as parameters when `room` more words may be split off
before the last parameter takes the rest of the line. -/
inductive ParamText : Nat → Bytes → List Bytes → Prop
  /-- Nothing but spaces is left. -/
  | done {room : Nat} {sp : Bytes} : Blank sp → ParamText room sp []
  /-- A `:` after the spaces: the rest of the line without it is the last parameter. -/
  | trailing {room : Nat} {sp t : Bytes} : Blank sp → ParamText room (sp ++ 58 :: t) [t]
  /-- No room is left: the rest of the line from its first byte that is no space is the last
  parameter. -/
  | full {sp : Bytes} {c : UInt8} {t : Bytes} : Blank sp → c ≠ 32 → c ≠ 58 →
      ParamText 0 (sp ++ c :: t) [c :: t]
  /-- A word ends the line. -/
  | last {room : Nat} {sp w : Bytes} : Blank sp → IsToken w → ParamText (room + 1) (sp ++ w) [w]
  /-- A word, a space, and the parameters of what follows. -/
  | word {room : Nat} {sp w rest : Bytes} {ps : List Bytes} : Blank sp → IsToken w →
      ParamText room rest ps → ParamText (room + 1) (sp ++ w ++ 32 :: rest) (w :: ps)

theorem parseParams_blank_append (room : Nat) {sp : Bytes} (h : Blank sp) (s : Bytes) :
    parseParams room (sp ++ s) = parseParams room s := by
  induction sp with
  | nil => rfl
  | cons c sp ih =>
    obtain ⟨rfl, hsp⟩ := blank_cons.1 h
    rw [List.cons_append, parseParams_space, ih hsp]

theorem parseParams_nil (room : Nat) : parseParams room [] = [] := by
  cases room <;> rfl

theorem parseParams_colon (room : Nat) (t : Bytes) : parseParams room (58 :: t) = [t] := by
  cases room <;> simp [parseParams]

theorem parseParams_full {c : UInt8} (h32 : c ≠ 32) (h58 : c ≠ 58) (t : Bytes) :
    parseParams 0 (c :: t) = [c :: t] := by
  simp [parseParams, h32, h58]

theorem parseParams_word {w : Bytes} (hw : IsToken w) (room : Nat) (rest : Bytes) :
    parseParams (room + 1) (w ++ 32 :: rest) = w :: parseParams room rest := by
  obtain ⟨hne, hsp, hcolon⟩ := hw
  obtain ⟨c, w', rfl⟩ := List.exists_cons_of_ne_nil hne
  have hc32 : c ≠ 32 := fun h => hsp (h ▸ List.mem_cons_self)
  have hc58 : c ≠ 58 := fun h => hcolon (by simp [h])
  rw [List.cons_append, parseParams]
  simp only [List.dropWhile_cons, beq_iff_eq, hc32, if_false]
  rw [show (c :: (w' ++ 32 :: rest)) = (c :: w') ++ 32 :: rest from rfl,
    Bytes.cut_append_of_not_mem hsp]
  rfl

theorem parseParams_last {w : Bytes} (hw : IsToken w) (room : Nat) :
    parseParams (room + 1) w = [w] := by
  obtain ⟨hne, hsp, hcolon⟩ := hw
  obtain ⟨c, w', rfl⟩ := List.exists_cons_of_ne_nil hne
  have hc32 : c ≠ 32 := fun h => hsp (h ▸ List.mem_cons_self)
  have hc58 : c ≠ 58 := fun h => hcolon (by simp [h])
  rw [parseParams]
  simp only [List.dropWhile_cons, beq_iff_eq, hc32, if_false]
  rw [Bytes.cut_of_not_mem hsp]
  simp [parseParams_nil]

theorem word_or_word_space {c : UInt8} (hc32 : c ≠ 32) (hc58 : c ≠ 58) (t : Bytes) :
    IsToken (c :: t) ∨ ∃ w after, IsToken w ∧ c :: t = w ++ 32 :: after := by
  rcases space_cases (c :: t) with h | ⟨w, after, heq, hw⟩
  · exact .inl ⟨List.cons_ne_nil c t, h, by simp [hc58]⟩
  -- the word is not empty and starts with `c`, since `c` is no space
  · cases w with
    | nil => exact absurd (List.cons.inj heq).1 hc32
    | cons c' w' =>
      obtain ⟨rfl, -⟩ := List.cons.inj heq
      exact .inr ⟨c :: w', after, ⟨List.cons_ne_nil c w', hw, by simp [hc58]⟩, heq⟩

theorem paramText_parseParams (room : Nat) (r : Bytes) : ParamText room r (parseParams room r) := by
  have hsp := blank_takeWhile r
  rw [← blank_append_dropWhile r, parseParams_blank_append _ hsp]
  cases hd : r.dropWhile (· == 32) with
  | nil => rw [parseParams_nil, List.append_nil]; exact .done hsp
  | cons c t =>
    have h32 := ne_space_of_dropWhile hd
    by_cases h58 : c = 58
    · rw [h58, parseParams_colon]; exact .trailing hsp
    -- a word byte: the rest is the last parameter when no room is left, otherwise a word
    cases room with
    | zero => rw [parseParams_full h32 h58]; exact .full hsp h32 h58
    | succ room =>
      rcases word_or_word_space h32 h58 t with hw | ⟨w, after, hw, heq⟩
      · rw [parseParams_last hw]; exact .last hsp hw
      · rw [heq, parseParams_word hw, ← List.append_assoc]
        exact .word hsp hw (paramText_parseParams room after)

theorem parseParams_of_paramText {room : Nat} {r : Bytes} {ps : List Bytes} (h : ParamText room r ps) :
    parseParams room r = ps := by
  induction h with
  | @done room sp hsp => rw [← List.append_nil sp, parseParams_blank_append _ hsp, parseParams_nil]
  | trailing hsp => rw [parseParams_blank_append _ hsp, parseParams_colon]
  | full hsp h32 h58 => rw [parseParams_blank_append _ hsp, parseParams_full h32 h58]
  | last hsp hw => rw [parseParams_blank_append _ hsp, parseParams_last hw]
  | word hsp hw _ ih => rw [List.append_assoc, parseParams_blank_append _ hsp, parseParams_word hw, ih]

theorem ParamText.length_le {room : Nat} {r : Bytes} {ps : List Bytes} (h : ParamText room r ps) :
    ps.length ≤ room + 1 := by
  induction h with
  | word _ _ _ ih => simp only [List.length_cons]; omega
  | _ => simp

theorem ParamText.words {room : Nat} {r : Bytes} {ps : List Bytes} (h : ParamText room r ps) :
    ∀ p ∈ ps.dropLast, IsToken p := by
  induction h with
  | @word room sp w rest ps _ hw _ ih =>
    cases ps with
    | nil => simp
    | cons p ps =>
      rw [List.dropLast_cons_of_ne_nil (List.cons_ne_nil p ps)]
      rintro q (_ | ⟨_, hq⟩)
      · exact hw
      · exact ih q hq
  | _ => simp

/-! ## Tags -/

def tagKey (part : Bytes) : Bytes := part.takeWhile (· != 61)

def tagVal (part : Bytes) : Bytes := unescapeTag ((part.dropWhile (· != 61)).drop 1)

def tagBinding (part : Bytes) : Option (Bytes × Bytes) :=
  if tagKey part = [] then none else some (tagKey part, tagVal part)

def Tags.Ascending (ts : Tags) : Prop := ts.Pairwise fun a b => a.1 < b.1

/-- The tags an `@` item `t` gives: in ascending key order, each key bound as by the last of the
`;`-separated items that binds it. -/
structure TagsOf (t : Bytes) (ts : Tags) : Prop where
  ascending : ts.Ascending
  lookup : ∀ k, ts.lookup k = ((List.splitOn 59 t).filterMap tagBinding).reverse.lookup k

theorem Tags.lookup_set (ts : Tags) (k v j : Bytes) :
    (ts.set k v).lookup j = if j = k then some v else ts.lookup j := by
  induction ts with
  | nil => simp [Tags.set]
  | cons p ts ih =>
    obtain ⟨k', v'⟩ := p
    unfold Tags.set
    by_cases hk : k = k'
    · subst hk; by_cases hj : j = k <;> simp [lookup_cons_eq, hj]
    · by_cases hlt : Bytes.lt k k' = true
      · simp only [hk, hlt, if_false, if_true]
        by_cases hj : j = k <;> simp [lookup_cons_eq, hj]
      · simp only [hk, hlt, if_false, Bool.false_eq_true]
        by_cases hj : j = k'
        · subst hj; simp [Ne.symm hk]
        · simp [lookup_cons_eq, hj, ih]

theorem Tags.mem_set {ts : Tags} {k v : Bytes} {p : Bytes × Bytes} (h : p ∈ ts.set k v) :
    p = (k, v) ∨ p ∈ ts := by
  induction ts with
  | nil => simpa [Tags.set] using h
  | cons q ts ih =>
    unfold Tags.set at h
    split_ifs at h
    · rcases List.mem_cons.1 h with h | h
      · exact .inl h
      · exact .inr (List.mem_cons_of_mem q h)
    · rcases List.mem_cons.1 h with h | h
      · exact .inl h
      · exact .inr h
    · rcases List.mem_cons.1 h with h | h
      · exact .inr (h ▸ List.mem_cons_self)
      · rcases ih h with h | h
        · exact .inl h
        · exact .inr (List.mem_cons_of_mem q h)

theorem Tags.Ascending.below {k' v' : Bytes} {ts : Tags} (h : Tags.Ascending ((k', v') :: ts))
    {k : Bytes} (hk : k < k') : ∀ p ∈ (k', v') :: ts, k < p.1 := by
  rintro p (_ | ⟨_, hp⟩)
  · exact hk
  · exact List.lt_trans hk (List.rel_of_pairwise_cons h hp)

theorem Tags.Ascending.set {ts : Tags} (h : ts.Ascending) (k v : Bytes) : (ts.set k v).Ascending := by
  induction ts with
  | nil => simp [Tags.set, Tags.Ascending]
  | cons q ts ih =>
    obtain ⟨k', v'⟩ := q
    obtain ⟨hlt, hts⟩ := List.pairwise_cons.1 h
    unfold Tags.set
    by_cases hk : k = k'
    · subst hk
      rw [if_pos rfl]
      exact List.Pairwise.cons (fun p hp => hlt p hp) hts
    by_cases hb : Bytes.lt k k' = true
    · -- the new key goes first: it is below `k'` and so below every later key
      have hkk : k < k' := (Bytes.lt_eq_true_iff k k').1 hb
      rw [if_neg hk, if_pos hb]
      exact List.Pairwise.cons (h.below hkk) h
    · -- otherwise the new key is above `k'`
      have hkk : k' < k :=
        (Bytes.lt_or_gt_of_ne hk).resolve_left fun h' => hb ((Bytes.lt_eq_true_iff k k').2 h')
      rw [if_neg hk, if_neg hb]
      refine List.Pairwise.cons ?_ (ih hts)
      intro p hp
      rcases Tags.mem_set hp with rfl | hp
      · exact hkk
      · exact hlt p hp

theorem Tags.lookup_eq_none_of_lt {ts : Tags} {k : Bytes} (h : ∀ p ∈ ts, k < p.1) :
    ts.lookup k = none :=
  List.lookup_eq_none_iff.2 fun p hp => by
    simpa using fun heq : k = p.1 => List.lt_irrefl k (heq ▸ h p hp)

theorem Tags.eq_of_lookup {ts ts' : Tags} (h : ts.Ascending) (h' : ts'.Ascending)
    (hl : ∀ k, ts.lookup k = ts'.lookup k) : ts = ts' := by
  induction ts generalizing ts' with
  | nil =>
    cases ts' with
    | nil => rfl
    | cons q ts' => simpa using (hl q.1).symm
  | cons q ts ih =>
    cases ts' with
    | nil => simpa using hl q.1
    | cons q' ts' =>
      obtain ⟨k, v⟩ := q
      obtain ⟨k', v'⟩ := q'
      obtain ⟨hlt, hts⟩ := List.pairwise_cons.1 h
      obtain ⟨hlt', hts'⟩ := List.pairwise_cons.1 h'
      -- the least keys agree: a smaller one would be bound on one side only
      have hk : k = k' := by
        by_contra hne
        rcases Bytes.lt_or_gt_of_ne hne with hkk | hkk
        · have hk := hl k
          rw [lookup_cons_eq, if_pos rfl, Tags.lookup_eq_none_of_lt (h'.below hkk)] at hk
          exact Option.some_ne_none v hk
        · have hk' := hl k'
          rw [lookup_cons_eq ts' k' k' v', if_pos rfl, Tags.lookup_eq_none_of_lt (h.below hkk)] at hk'
          exact Option.some_ne_none v' hk'.symm
      subst hk
      have hv : v = v' := by simpa [lookup_cons_eq] using hl k
      subst hv
      congr 1
      refine ih hts hts' fun j => ?_
      by_cases hj : j = k
      · subst hj
        rw [Tags.lookup_eq_none_of_lt hlt, Tags.lookup_eq_none_of_lt hlt']
      · simpa [lookup_cons_eq, hj] using hl j

/-- Reading one tag item: an item with a key sets it. -/
def tagStep (ts : Tags) (part : Bytes) : Tags :=
  match tagBinding part with
  | none => ts
  | some (k, v) => ts.set k v

theorem parseTags_eq (t : Bytes) : parseTags t = (List.splitOn 59 t).foldl tagStep [] := by
  unfold parseTags
  rw [Bytes.splitOn_eq]
  dsimp only
  congr 1
  funext ts part
  have hk := Bytes.cut_fst_eq part 61
  have hv := Bytes.cut_snd_getD part 61
  generalize Bytes.cut part 61 = kv at hk hv
  obtain ⟨k, v⟩ := kv
  simp only at hk hv ⊢
  unfold tagStep tagBinding tagKey tagVal
  rw [← hk, ← hv]
  by_cases hk0 : k = []
  · simp [hk0]
  · -- a non-empty key comes from a non-empty item
    have hp : part ≠ [] := by rintro rfl; exact hk0 (by simpa using hk)
    simp [hk0, hp]

theorem lookup_foldl_tagStep (parts : List Bytes) (ts : Tags) (k : Bytes) :
    (parts.foldl tagStep ts).lookup k = ((parts.filterMap tagBinding).reverse ++ ts).lookup k := by
  induction parts generalizing ts with
  | nil => rfl
  | cons part parts ih =>
    rw [List.foldl_cons, ih, List.filterMap_cons]
    unfold tagStep
    cases tagBinding part with
    | none => rfl
    | some b =>
      obtain ⟨k', v'⟩ := b
      simp only [List.reverse_cons, List.append_assoc, List.singleton_append, List.lookup_append,
        Tags.lookup_set, lookup_cons_eq]

theorem Tags.Ascending.foldl_tagStep {ts : Tags} (h : ts.Ascending) (parts : List Bytes) :
    (parts.foldl tagStep ts).Ascending := by
  induction parts generalizing ts with
  | nil => exact h
  | cons part parts ih =>
    rw [List.foldl_cons]
    apply ih
    unfold tagStep
    cases tagBinding part with
    | none => exact h
    | some b => exact h.set b.1 b.2

theorem tagsOf_parseTags (t : Bytes) : TagsOf t (parseTags t) where
  ascending := by
    rw [parseTags_eq]
    exact Tags.Ascending.foldl_tagStep List.Pairwise.nil _
  lookup k := by
    rw [parseTags_eq, lookup_foldl_tagStep, List.append_nil]

theorem tagsOf_iff {t : Bytes} {ts : Tags} : TagsOf t ts ↔ ts = parseTags t := by
  refine ⟨fun h => Tags.eq_of_lookup h.ascending (tagsOf_parseTags t).ascending fun k => ?_,
    fun h => h ▸ tagsOf_parseTags t⟩
  rw [h.lookup, (tagsOf_parseTags t).lookup]

/-! ## Lines -/

def CommandWord (cmd : Bytes) : Prop := cmd ≠ [] ∧ ∀ c ∈ cmd, isCommandByte c = true

theorem isCommand_iff (cmd : Bytes) : isCommand cmd = true ↔ CommandWord cmd := by
  simp [isCommand, CommandWord, List.isEmpty_eq_false_iff]

theorem CommandWord.head {cmd : Bytes} (h : CommandWord cmd) :
    ∃ c rest, cmd = c :: rest ∧ c ≠ 32 ∧ c ≠ 64 := by
  obtain ⟨c, rest, rfl⟩ := List.exists_cons_of_ne_nil h.1
  have hc := h.2 c List.mem_cons_self
  refine ⟨c, rest, rfl, ?_, ?_⟩ <;> rintro rfl <;> simp [isCommandByte] at hc

theorem CommandWord.space_not_mem {cmd : Bytes} (h : CommandWord cmd) : 32 ∉ cmd := fun h32 => by
  simpa [isCommandByte] using h.2 32 h32

/-- What follows a command: nothing, or one space and the parameters' text. -/
inductive AfterCommand : Bytes → List Bytes → Prop
  | bare : AfterCommand [] []
  | params {r : Bytes} {ps : List Bytes} : ParamText (maxParams - 1) r ps → AfterCommand (32 :: r) ps

/-- The lines of the grammar and the message each reads as: leading spaces, an optional `@` item
with a space and more spaces behind it, a command, and what follows it. -/
inductive Reads : Bytes → Message → Prop
  | untagged {sp cmd tail : Bytes} {ps : List Bytes} : Blank sp → CommandWord cmd →
      AfterCommand tail ps → Reads (sp ++ cmd ++ tail) ⟨none, cmd, ps⟩
  | tagged {sp t sp' cmd tail : Bytes} {ts : Tags} {ps : List Bytes} : Blank sp → 32 ∉ t →
      TagsOf t ts → Blank sp' → CommandWord cmd → AfterCommand tail ps →
      Reads (sp ++ 64 :: t ++ 32 :: sp' ++ cmd ++ tail) ⟨some ts, cmd, ps⟩

/-- Where the command starts in a line without its leading spaces: after the `@` item and the
spaces behind it, when the line has one. -/
def commandStart : Bytes → Bytes
  | 64 :: t => (t.dropWhile (· != 32)).dropWhile (· == 32)
  | s => s

/-- The lines that decode: something is left after the leading spaces, an `@` item has a space
behind it, and a command word stands where the command starts. -/
def Decodable (raw : Bytes) : Prop :=
  let s := raw.dropWhile (· == 32)
  s ≠ [] ∧ (s.head? = some 64 → 32 ∈ s) ∧ CommandWord ((commandStart s).takeWhile (· != 32))

/-- The decoder from where the command starts, given the tags read before it. -/
def readCommand (tags : Option Tags) (body : Bytes) : Except DecodeError Message :=
  if isCommand (Bytes.cut body 32).1 then
    .ok ⟨tags, (Bytes.cut body 32).1, parseParams (maxParams - 1) ((Bytes.cut body 32).2.getD [])⟩
  else .error (.invalidCommand (Bytes.cut body 32).1)

theorem head_cases (s : Bytes) :
    s = [] ∨ (∃ t, s = 64 :: t ∧ 32 ∉ t) ∨ (∃ c t, s = c :: t ∧ c ≠ 64) ∨
      ∃ tg after, s = 64 :: (tg ++ 32 :: after) ∧ 32 ∉ tg := by
  rcases s with _ | ⟨c, t⟩
  · exact .inl rfl
  by_cases hc : c = 64
  · subst hc
    rcases space_cases t with ht | ⟨tg, after, rfl, htg⟩
    · exact .inr (.inl ⟨t, rfl, ht⟩)
    · exact .inr (.inr (.inr ⟨tg, after, rfl, htg⟩))
  · exact .inr (.inr (.inl ⟨c, t, rfl, hc⟩))

theorem decode_of_empty {raw : Bytes} (hs : raw.dropWhile (· == 32) = []) :
    decode raw = .error .empty := by
  simp [decode, hs]

theorem decode_of_bare_tags {raw t : Bytes} (hs : raw.dropWhile (· == 32) = 64 :: t) (ht : 32 ∉ t) :
    decode raw = .error .tagsWithoutCommand := by
  simp [decode, hs, Bytes.cut_of_not_mem ht]

theorem decode_of_untagged {raw t : Bytes} {c : UInt8} (hs : raw.dropWhile (· == 32) = c :: t)
    (hc : c ≠ 64) : decode raw = readCommand none (c :: t) := by
  unfold decode readCommand
  simp only [hs, List.isEmpty_cons, Bool.false_eq_true, if_false]
  -- the line does not start with `@`: no tags, and the command starts at once
  split
  · rename_i heq
    split at heq
    · rename_i after hcons
      exact absurd (List.cons.inj hcons).1 hc
    · simp at heq
  · rename_i tags body heq
    split at heq
    · rename_i after hcons
      exact absurd (List.cons.inj hcons).1 hc
    · simp only [Except.ok.injEq, Prod.mk.injEq] at heq
      obtain ⟨rfl, rfl⟩ := heq
      rfl

theorem decode_of_tagged {raw tg after : Bytes} (hs : raw.dropWhile (· == 32) = 64 :: (tg ++ 32 :: after))
    (htg : 32 ∉ tg) :
    decode raw = readCommand (some (parseTags tg)) (after.dropWhile (· == 32)) := by
  simp only [decode, readCommand, hs, List.isEmpty_cons, Bool.false_eq_true, if_false,
    Bytes.cut_append_of_not_mem htg]

theorem commandStart_untagged {c : UInt8} (hc : c ≠ 64) (t : Bytes) :
    commandStart (c :: t) = c :: t := by
  simp [commandStart, hc]

theorem commandStart_tagged {tg : Bytes} (htg : 32 ∉ tg) (after : Bytes) :
    commandStart (64 :: (tg ++ 32 :: after)) = after.dropWhile (· == 32) := by
  have hpos : ∀ c ∈ tg, (c != 32) = true := fun c hc => by
    simpa using fun h : c = 32 => htg (h ▸ hc)
  simp [commandStart, List.dropWhile_append_of_pos hpos]

theorem dropWhile_command {cmd : Bytes} (h : CommandWord cmd) (tail : Bytes) :
    (cmd ++ tail).dropWhile (· == 32) = cmd ++ tail := by
  obtain ⟨c, rest, rfl, h32, -⟩ := h.head
  exact List.dropWhile_cons_of_neg (by simpa using h32)

theorem readCommand_of_not_mem {body : Bytes} (h : 32 ∉ body) (tags : Option Tags) :
    readCommand tags body =
      if isCommand body then .ok ⟨tags, body, []⟩ else .error (.invalidCommand body) := by
  simp [readCommand, Bytes.cut_of_not_mem h, parseParams_nil]

theorem readCommand_of_space {cmd : Bytes} (h : 32 ∉ cmd) (r : Bytes) (tags : Option Tags) :
    readCommand tags (cmd ++ 32 :: r) =
      if isCommand cmd then .ok ⟨tags, cmd, parseParams (maxParams - 1) r⟩
      else .error (.invalidCommand cmd) := by
  simp [readCommand, Bytes.cut_append_of_not_mem h]

theorem readCommand_eq_ok_iff {tags : Option Tags} {body : Bytes} {m : Message} :
    readCommand tags body = .ok m ↔ ∃ cmd tail ps, body = cmd ++ tail ∧ CommandWord cmd ∧
      AfterCommand tail ps ∧ m = ⟨tags, cmd, ps⟩ := by
  constructor
  · intro hm
    rcases space_cases body with h | ⟨cmd, r, rfl, h⟩
    · rw [readCommand_of_not_mem h] at hm
      split at hm
      · rename_i hcmd
        cases hm
        exact ⟨body, [], [], (List.append_nil body).symm, (isCommand_iff body).1 hcmd, .bare, rfl⟩
      · cases hm
    · rw [readCommand_of_space h] at hm
      split at hm
      · rename_i hcmd
        cases hm
        exact ⟨cmd, 32 :: r, _, rfl, (isCommand_iff cmd).1 hcmd, .params (paramText_parseParams _ r), rfl⟩
      · cases hm
  · rintro ⟨cmd, tail, ps, rfl, hcmd, htail, rfl⟩
    cases htail with
    | bare =>
      rw [List.append_nil, readCommand_of_not_mem hcmd.space_not_mem, if_pos ((isCommand_iff cmd).2 hcmd)]
    | params hp =>
      rw [readCommand_of_space hcmd.space_not_mem, if_pos ((isCommand_iff cmd).2 hcmd),
        parseParams_of_paramText hp]

theorem readCommand_isOk_iff (tags : Option Tags) (body : Bytes) :
    (∃ m, readCommand tags body = .ok m) ↔ CommandWord (body.takeWhile (· != 32)) := by
  rw [← isCommand_iff, ← Bytes.cut_fst_eq]
  by_cases h : isCommand (Bytes.cut body 32).1 = true
  · simp [readCommand, h]
  · simp [readCommand, h]

theorem readCommand_command {tags : Option Tags} {body : Bytes} {m : Message}
    (h : readCommand tags body = .ok m) : m.command = body.takeWhile (· != 32) := by
  unfold readCommand at h
  split at h
  · cases h; exact Bytes.cut_fst_eq body 32
  · cases h

theorem decode_eq_readCommand {raw : Bytes} (hne : raw.dropWhile (· == 32) ≠ [])
    (htag : (raw.dropWhile (· == 32)).head? = some 64 → 32 ∈ raw.dropWhile (· == 32)) :
    ∃ tags, decode raw = readCommand tags (commandStart (raw.dropWhile (· == 32))) := by
  rcases head_cases (raw.dropWhile (· == 32)) with hs | ⟨t, hs, ht⟩ | ⟨c, t, hs, hc⟩ | ⟨tg, after, hs, htg⟩
  · exact absurd hs hne
  · rw [hs] at htag
    exact absurd (htag rfl) (by simpa using ht)
  · exact ⟨none, by rw [decode_of_untagged hs hc, hs, commandStart_untagged hc]⟩
  · exact ⟨_, by rw [decode_of_tagged hs htg, hs, commandStart_tagged htg]⟩

/-- An empty line, or an `@` item with no space behind it, does not decode. -/
theorem decode_error_of_head {raw : Bytes}
    (h : ¬(raw.dropWhile (· == 32) ≠ [] ∧
      ((raw.dropWhile (· == 32)).head? = some 64 → 32 ∈ raw.dropWhile (· == 32)))) :
    ∃ e, decode raw = .error e := by
  rcases head_cases (raw.dropWhile (· == 32)) with hs | ⟨t, hs, ht⟩ | ⟨c, t, hs, hc⟩ | ⟨tg, after, hs, htg⟩
  · exact ⟨_, decode_of_empty hs⟩
  · exact ⟨_, decode_of_bare_tags hs ht⟩
  · rw [hs] at h
    exact absurd ⟨List.cons_ne_nil c t, fun h64 => absurd (Option.some.inj h64) hc⟩ h
  · rw [hs] at h
    exact absurd ⟨List.cons_ne_nil _ _, fun _ => by simp⟩ h

theorem decode_isOk_iff (raw : Bytes) : (∃ m, decode raw = .ok m) ↔ Decodable raw := by
  unfold Decodable
  by_cases hhead : raw.dropWhile (· == 32) ≠ [] ∧
      ((raw.dropWhile (· == 32)).head? = some 64 → 32 ∈ raw.dropWhile (· == 32))
  · obtain ⟨tags, htags⟩ := decode_eq_readCommand hhead.1 hhead.2
    rw [htags, readCommand_isOk_iff]
    exact ⟨fun h => ⟨hhead.1, hhead.2, h⟩, fun h => h.2.2⟩
  · obtain ⟨e, he⟩ := decode_error_of_head hhead
    rw [he]
    constructor
    · rintro ⟨_, h⟩
      cases h
    · intro h
      exact absurd ⟨h.1, h.2.1⟩ hhead

theorem decode_command {raw : Bytes} {m : Message} (h : decode raw = .ok m) :
    m.command = (commandStart (raw.dropWhile (· == 32))).takeWhile (· != 32) := by
  by_cases hhead : raw.dropWhile (· == 32) ≠ [] ∧
      ((raw.dropWhile (· == 32)).head? = some 64 → 32 ∈ raw.dropWhile (· == 32))
  · obtain ⟨tags, htags⟩ := decode_eq_readCommand hhead.1 hhead.2
    exact readCommand_command (htags ▸ h)
  · obtain ⟨e, he⟩ := decode_error_of_head hhead
    rw [he] at h
    cases h

theorem reads_of_decode {raw : Bytes} {m : Message} (h : decode raw = .ok m) : Reads raw m := by
  have hsp := blank_takeWhile raw
  have hraw := blank_append_dropWhile raw
  rcases head_cases (raw.dropWhile (· == 32)) with hs | ⟨t, hs, ht⟩ | ⟨c, t, hs, hc⟩ | ⟨tg, after, hs, htg⟩
  · rw [decode_of_empty hs] at h; cases h
  · rw [decode_of_bare_tags hs ht] at h; cases h
  · rw [decode_of_untagged hs hc, readCommand_eq_ok_iff] at h
    obtain ⟨cmd, tail, ps, hbody, hcmd, htail, rfl⟩ := h
    rw [hs, hbody, ← List.append_assoc] at hraw
    exact hraw ▸ .untagged hsp hcmd htail
  · rw [decode_of_tagged hs htg, readCommand_eq_ok_iff] at h
    obtain ⟨cmd, tail, ps, hbody, hcmd, htail, rfl⟩ := h
    -- the spaces behind the `@` item are the leading spaces of what follows it
    have hafter := blank_append_dropWhile after
    rw [hbody] at hafter
    rw [hs, ← hafter] at hraw
    have hshape : raw.takeWhile (· == 32) ++ 64 :: (tg ++ 32 :: (after.takeWhile (· == 32) ++ (cmd ++ tail))) =
        raw.takeWhile (· == 32) ++ 64 :: tg ++ 32 :: after.takeWhile (· == 32) ++ cmd ++ tail := by
      simp
    rw [hshape] at hraw
    exact hraw ▸ .tagged hsp htg (tagsOf_parseTags tg) (blank_takeWhile after) hcmd htail

theorem decode_of_reads {raw : Bytes} {m : Message} (h : Reads raw m) : decode raw = .ok m := by
  cases h with
  | @untagged sp cmd tail ps hsp hcmd htail =>
    obtain ⟨c, rest, hcr, -, h64⟩ := hcmd.head
    have hs : (sp ++ cmd ++ tail).dropWhile (· == 32) = c :: (rest ++ tail) := by
      rw [List.append_assoc, dropWhile_blank_append hsp, dropWhile_command hcmd, hcr, List.cons_append]
    rw [decode_of_untagged hs h64, ← List.cons_append, ← hcr, readCommand_eq_ok_iff]
    exact ⟨cmd, tail, ps, rfl, hcmd, htail, rfl⟩
  | @tagged sp t sp' cmd tail ts ps hsp ht htags hsp' hcmd htail =>
    have hs : (sp ++ 64 :: t ++ 32 :: sp' ++ cmd ++ tail).dropWhile (· == 32) =
        64 :: (t ++ 32 :: (sp' ++ (cmd ++ tail))) := by
      simp only [List.append_assoc, List.cons_append, dropWhile_blank_append hsp]
      rfl
    rw [decode_of_tagged hs ht, dropWhile_blank_append hsp', dropWhile_command hcmd,
      readCommand_eq_ok_iff, tagsOf_iff.1 htags]
    exact ⟨cmd, tail, ps, rfl, hcmd, htail, rfl⟩

theorem AfterCommand.params_bound {tail : Bytes} {ps : List Bytes} (h : AfterCommand tail ps) :
    ps.length ≤ maxParams ∧ ∀ p ∈ ps.dropLast, IsToken p := by
  cases h with
  | bare => simp
  | params hp => exact ⟨hp.length_le, hp.words⟩

theorem Reads.params_bound {raw : Bytes} {m : Message} (h : Reads raw m) :
    m.params.length ≤ maxParams ∧ ∀ p ∈ m.params.dropLast, IsToken p := by
  cases h with
  | untagged _ _ htail => exact htail.params_bound
  | tagged _ _ _ _ _ htail => exact htail.params_bound

/-- The decoder reads the command-line grammar. It accepts a line exactly when something is left
after the leading spaces, an `@` item at the front has a space behind it, and a command word
stands after that item and its spaces; what it returns is the one reading the grammar gives: that
word as the command, no tags without an `@` item and otherwise the item's bindings (the last
binding of each key wins), and the parameters of the text behind the command. So there are at
most 32 parameters, and every one but the last is a word. -/
theorem decode_reads_grammar (raw : Bytes) :
    ((∃ m, decode raw = .ok m) ↔ Decodable raw) ∧ (∀ m, decode raw = .ok m ↔ Reads raw m) ∧
      ∀ m, decode raw = .ok m →
        m.command = (commandStart (raw.dropWhile (· == 32))).takeWhile (· != 32) ∧
        m.params.length ≤ maxParams ∧ ∀ p ∈ m.params.dropLast, IsToken p :=
  ⟨decode_isOk_iff raw, fun _ => ⟨reads_of_decode, decode_of_reads⟩,
    fun _ h => ⟨decode_command h, (reads_of_decode h).params_bound⟩⟩

end Line

end LineKv
