import Mathlib
import LineKv.Command.Dispatch
import LineKv.Config.Check

/-!
Alias maps do not come in an order: the alias table of a settings file and the map handed to the
alias resolution are maps, read in whatever order their iteration takes. Main statement:
`Command.Table.alias_map_order_free`.
-/

namespace LineKv

def lastWith {α : Type} (key : α → Bytes) (l : List α) (k : Bytes) : Option α :=
  l.reverse.find? (key · == k)

section LastWith

variable {α : Type} (key : α → Bytes)

theorem lastWith_cons (x : α) (l : List α) (k : Bytes) :
    lastWith key (x :: l) k = (lastWith key l k).or (if key x = k then some x else none) := by
  unfold lastWith
  rw [List.reverse_cons, List.find?_append]
  by_cases h : key x = k <;> simp [h]

theorem lastWith_eq_none_iff {l : List α} {k : Bytes} :
    lastWith key l k = none ↔ ∀ x ∈ l, key x ≠ k := by
  simp [lastWith, List.find?_eq_none]

theorem lastWith_spec {l : List α} {k : Bytes} {x : α} (h : lastWith key l k = some x) :
    x ∈ l ∧ key x = k := by
  have hm := List.mem_of_find?_eq_some h
  have hk := List.find?_some h
  exact ⟨List.mem_reverse.1 hm, by simpa using hk⟩

theorem lastWith_append_self (l : List α) (x : α) : lastWith key (l ++ [x]) (key x) = some x := by
  simp [lastWith]

theorem lastWith_perm {γ : Type} (v : α → γ) {l l' : List α} (hp : l.Perm l')
    (hc : ∀ x ∈ l, ∀ y ∈ l, key x = key y → v x = v y) (k : Bytes) :
    (lastWith key l k).map v = (lastWith key l' k).map v := by
  cases h : lastWith key l k with
  | none =>
    have h' : lastWith key l' k = none :=
      (lastWith_eq_none_iff key).2 fun x hx => (lastWith_eq_none_iff key).1 h x (hp.mem_iff.2 hx)
    rw [h']
  | some x =>
    obtain ⟨hx, hxk⟩ := lastWith_spec key h
    cases h' : lastWith key l' k with
    | none => exact absurd (hp.mem_iff.1 hx) fun hx' => (lastWith_eq_none_iff key).1 h' x hx' hxk
    | some y =>
      -- both orders keep an entry of key `k`, and such entries agree
      obtain ⟨hy, hyk⟩ := lastWith_spec key h'
      simp only [Option.map_some]
      rw [hc x hx y (hp.mem_iff.2 hy) (hxk.trans hyk.symm)]

end LastWith

namespace Command

def aliasName (x : Bytes × Bytes) : Bytes := Text.toUpper (Text.trimSpace x.1)

def aliasTarget (x : Bytes × Bytes) : Bytes := Text.toUpper (Text.trimSpace x.2)

def Fallback.resolve {H : Type} (fb : Fallback H) (n : Bytes) : Option (Descriptor H) :=
  (fb.find? (·.1 == n)).map (·.2)

namespace Table

variable {H : Type} (t : Table H)

/-- The fault of one alias entry on its own: its alias names a command of the table, or its target
names none. -/
def aliasFault (x : Bytes × Bytes) : Option TableError :=
  if (t.lookup (aliasName x)).isSome then some (.aliasShadows (aliasName x))
  else if (t.lookup (aliasTarget x)).isNone then some (.aliasUnknown (aliasName x) (aliasTarget x))
  else none

/-- Two outcomes of alias resolution alike in what a caller can tell: errors of one kind, or
fallbacks that resolve every name to the same descriptor. -/
def SameOutcome (r r' : Except TableError (Fallback H)) : Prop :=
  (∃ e e', r = .error e ∧ r' = .error e' ∧ e.toFault.cls = e'.toFault.cls) ∨
    ∃ fb fb', r = .ok fb ∧ r' = .ok fb' ∧ ∀ n, fb.resolve n = fb'.resolve n

theorem aliasFault_eq_none {x : Bytes × Bytes} (h : t.aliasFault x = none) :
    t.lookup (aliasName x) = none ∧ ∃ d, t.lookup (aliasTarget x) = some d := by
  unfold aliasFault at h
  cases ha : t.lookup (aliasName x) with
  | some _ => simp [ha] at h
  | none =>
    cases hg : t.lookup (aliasTarget x) with
    | none => simp [ha, hg] at h
    | some d => exact ⟨rfl, d, rfl⟩

theorem aliases_error {l : List (Bytes × Bytes)} {e : TableError}
    (h : l.findSome? t.aliasFault = some e) : t.aliases l = .error e := by
  induction l with
  | nil => simp at h
  | cons x rest ih =>
    rw [List.findSome?_cons] at h
    unfold aliases
    cases hx : t.aliasFault x with
    | some e' =>
      rw [hx] at h
      cases h
      unfold aliasFault at hx
      by_cases ha : (t.lookup (aliasName x)).isSome
      · simp only [ha, if_true, Option.some.injEq] at hx
        simp only [aliasName] at ha hx
        simp [ha, hx]
      · cases hg : t.lookup (aliasTarget x) with
        | some d => simp [ha, hg] at hx
        | none =>
          simp only [ha, hg, Option.isNone_none, if_true, if_false, Bool.false_eq_true,
            Option.some.injEq] at hx
          simp only [aliasName, aliasTarget] at ha hg hx
          simp [ha, hg, hx]
    | none =>
      rw [hx] at h
      obtain ⟨ha, d, hg⟩ := t.aliasFault_eq_none hx
      simp only [aliasName, aliasTarget] at ha hg
      simp [ha, hg, ih h]

theorem aliases_ok {l : List (Bytes × Bytes)} (h : l.findSome? t.aliasFault = none) :
    ∃ fb, t.aliases l = .ok fb ∧
      ∀ n, fb.resolve n = (lastWith aliasName l n).bind fun x => t.lookup (aliasTarget x) := by
  induction l with
  | nil => exact ⟨[], rfl, fun n => by simp [Fallback.resolve, lastWith]⟩
  | cons x rest ih =>
    rw [List.findSome?_cons] at h
    cases hx : t.aliasFault x with
    | some e => simp [hx] at h
    | none =>
      rw [hx] at h
      obtain ⟨fb, hfb, hres⟩ := ih h
      obtain ⟨ha, d, hg⟩ := t.aliasFault_eq_none hx
      refine ⟨if fb.any (·.1 == aliasName x) then fb else (aliasName x, d) :: fb, ?_, fun n => ?_⟩
      · unfold aliases
        simp only [aliasName, aliasTarget] at ha hg
        simp [ha, hg, hfb, aliasName]
        rfl
      · rw [lastWith_cons]
        -- a later entry of the same alias wins over this one
        by_cases hn : aliasName x = n
        · subst hn
          by_cases hany : fb.any (·.1 == aliasName x) = true
          · have hsome : (fb.resolve (aliasName x)).isSome := by
              obtain ⟨p, hp, hpk⟩ := List.any_eq_true.1 hany
              simp only [Fallback.resolve, Option.isSome_map]
              exact List.find?_isSome.2 ⟨p, hp, hpk⟩
            rw [hres] at hsome
            cases hl : lastWith aliasName rest (aliasName x) with
            | none => simp [hl] at hsome
            | some y => simp [hany, hres, hl]
          · have hnone : fb.resolve (aliasName x) = none := by
              simp only [Bool.not_eq_true, List.any_eq_false, beq_iff_eq] at hany
              simpa [Fallback.resolve, List.find?_eq_none] using fun a b hab => hany (a, b) hab
            rw [hres] at hnone
            have hlast : lastWith aliasName rest (aliasName x) = none := by
              cases hl : lastWith aliasName rest (aliasName x) with
              | none => rfl
              | some y =>
                obtain ⟨hy, hyk⟩ := lastWith_spec aliasName hl
                -- an entry of the alias in the rest is fault-free, so it resolves
                obtain ⟨-, d', hd'⟩ := t.aliasFault_eq_none
                  (List.findSome?_eq_none_iff.1 h y hy)
                simp [hl, hd'] at hnone
            simp [hany, Fallback.resolve, hlast, hg]
        · by_cases hany : fb.any (·.1 == aliasName x) = true
          · simp [hany, hres, hn]
          · simp [hany, Fallback.resolve, hn]
            simpa [Fallback.resolve] using hres n

end Table

end Command

namespace Config

def foldAliases (m : List (Bytes × Bytes)) : List (Bytes × Bytes) :=
  m.foldl (fun acc x => setEntry acc (Command.aliasName x) (Command.aliasTarget x)) []

theorem lookup_cons_of_ne {β : Type} {j a : Bytes} (h : j ≠ a) (b : β) (l : List (Bytes × β)) :
    ((a, b) :: l).lookup j = l.lookup j := by
  simp [List.lookup_cons, beq_false_of_ne h]

theorem lookup_map_set (m : List (Bytes × Bytes)) (k v j : Bytes) :
    (m.map fun x => if x.1 = k then (x.1, v) else x).lookup j =
      if j = k ∧ m.any (·.1 == k) = true then some v else m.lookup j := by
  induction m with
  | nil => simp
  | cons p m ih =>
    obtain ⟨a, b⟩ := p
    by_cases ha : a = k
    · subst ha
      by_cases hj : j = a
      · subst hj
        simp
      · simp [lookup_cons_of_ne hj, ih, hj]
    · by_cases hj : j = a
      · subst hj
        simp [ha]
      · simp only [List.map_cons, ha, if_false, List.any_cons, Bool.or_eq_true, beq_iff_eq,
          false_or]
        rw [lookup_cons_of_ne hj, ih, lookup_cons_of_ne hj]

theorem lookup_setEntry (m : List (Bytes × Bytes)) (k v j : Bytes) :
    (setEntry m k v).lookup j = if j = k then some v else m.lookup j := by
  unfold setEntry
  split
  · rename_i hk
    simp only [beq_iff_eq, Prod.mk.eta]
    rw [lookup_map_set]
    by_cases hj : j = k <;> simp [hj, hk]
  · rename_i hk
    rw [List.lookup_append]
    by_cases hj : j = k
    · subst hj
      have hnone : m.lookup j = none := by
        rw [List.lookup_eq_none_iff]
        intro p hp
        have hp1 : p.1 ≠ j := by simpa using (List.any_eq_false.1 (Bool.eq_false_iff.2 hk)) p hp
        simpa [bne] using Ne.symm hp1
      rw [hnone, if_pos rfl, List.lookup_cons_self]
      rfl
    · rw [if_neg hj, lookup_cons_of_ne hj]
      simp
theorem lookup_foldAliases (m : List (Bytes × Bytes)) (k : Bytes) :
    (foldAliases m).lookup k = (lastWith Command.aliasName m k).map Command.aliasTarget := by
  -- the fold from any start: the last entry of `k` in what is left, else what the start says
  suffices h : ∀ acc : List (Bytes × Bytes),
      (m.foldl (fun acc x => setEntry acc (Command.aliasName x) (Command.aliasTarget x)) acc).lookup k =
        ((lastWith Command.aliasName m k).map Command.aliasTarget).or (acc.lookup k) by
    simpa [List.lookup, foldAliases] using h []
  induction m with
  | nil => simp [lastWith]
  | cons x m ih =>
    intro acc
    rw [List.foldl_cons, ih, lookup_setEntry, lastWith_cons]
    cases hl : lastWith Command.aliasName m k with
    | some y => simp
    | none =>
      by_cases hk : Command.aliasName x = k
      · simp [hk]
      · have hk' : k ≠ Command.aliasName x := Ne.symm hk
        simp [hk, hk']

namespace Datum

theorem find?_name_map {g : String × Datum → String × Datum} (hg : ∀ x, (g x).1 = x.1)
    (fs : List (String × Datum)) (k : String) :
    (fs.map g).find? (·.1 == k) = (fs.find? (·.1 == k)).map g := by
  rw [List.find?_map]
  congr 2
  funext x
  simp [hg]

theorem field_setField_of_ne (d : Datum) {n n' : String} (h : n ≠ n') (v : Datum) :
    (d.setField n v).field n' = d.field n' := by
  cases d with
  | record fs =>
    simp only [setField, field]
    rw [find?_name_map (fun x => by split <;> rfl)]
    cases hf : fs.find? (·.1 == n') with
    | none => rfl
    | some y =>
      have hy : y.1 = n' := by simpa using List.find?_some hf
      have hyn : y.1 ≠ n := hy ▸ Ne.symm h
      simp [hyn]
  | _ => rfl

theorem field_mapField_self (d : Datum) (n : String) {f : Datum → Datum} (hf : f (.record []) = .record []) :
    (d.mapField n f).field n = f (d.field n) := by
  unfold mapField
  cases d with
  | record fs =>
    simp only [setField, field]
    rw [find?_name_map (fun x => by split <;> rfl)]
    cases hfs : fs.find? (·.1 == n) with
    | none => simp [hf]
    | some y =>
      have hy := List.find?_some hfs
      simp only [beq_iff_eq] at hy
      simp [hy]
  | _ => exact hf.symm

end Datum

theorem field_tidy_aliases {d : Datum} {m : List (Bytes × Bytes)}
    (h : d.field "Aliases" = .textMap (some m)) :
    (tidy d).field "Aliases" = .textMap (some (foldAliases m)) := by
  unfold tidy
  dsimp only
  rw [Datum.field_mapField_self _ _ rfl]
  simp only [Datum.mapText, Datum.mapField]
  rw [Datum.field_setField_of_ne _ (by decide), Datum.field_setField_of_ne _ (by decide),
    Datum.field_setField_of_ne _ (by decide), Datum.field_setField_of_ne _ (by decide),
    Datum.field_setField_of_ne _ (by decide), h]
  cases m with
  | nil => rfl
  | cons x m => rfl
end Config

namespace Command.Table

variable {H : Type} (t : Table H)

theorem SameOutcome.error_right {r : Except TableError (Fallback H)} {e : TableError}
    (h : SameOutcome r (.error e)) : ∃ e₀, r = .error e₀ ∧ e₀.toFault.cls = e.toFault.cls := by
  rcases h with ⟨e₀, e', hr, he, hc⟩ | ⟨_, _, _, he, _⟩
  · cases he
    exact ⟨e₀, hr, hc⟩
  · cases he

theorem SameOutcome.ok_right {r : Except TableError (Fallback H)} {fb : Fallback H}
    (h : SameOutcome r (.ok fb)) : ∃ fb₀, r = .ok fb₀ ∧ ∀ n, fb₀.resolve n = fb.resolve n := by
  rcases h with ⟨_, _, _, he, _⟩ | ⟨fb₀, fb', hr, he, hres⟩
  · cases he
  · cases he
    exact ⟨fb₀, hr, hres⟩

theorem aliases_append_self {l : List (Bytes × Bytes)} (hl : l.findSome? t.aliasFault = none)
    (x : Bytes × Bytes) (hx : t.aliasFault x = none) :
    ∃ fb, t.aliases (l ++ [x]) = .ok fb ∧ fb.resolve (aliasName x) = t.lookup (aliasTarget x) := by
  have h : (l ++ [x]).findSome? t.aliasFault = none := by
    rw [List.findSome?_append, hl]
    simp [hx]
  obtain ⟨fb, hfb, hres⟩ := t.aliases_ok h
  exact ⟨fb, hfb, by rw [hres, lastWith_append_self]; rfl⟩

/-- When the faulty entries fail in one way and, with none faulty, entries of one alias target
one descriptor, every order of the entries resolves alike. -/
theorem aliases_perm {l l' : List (Bytes × Bytes)} (hp : l.Perm l')
    (hk : ∀ x ∈ l, ∀ y ∈ l, ∀ e e', t.aliasFault x = some e → t.aliasFault y = some e' →
      e.toFault.cls = e'.toFault.cls)
    (hc : (∀ x ∈ l, t.aliasFault x = none) → ∀ x ∈ l, ∀ y ∈ l, aliasName x = aliasName y →
      t.lookup (aliasTarget x) = t.lookup (aliasTarget y)) :
    SameOutcome (t.aliases l) (t.aliases l') := by
  cases hf : l.findSome? t.aliasFault with
  | some e =>
    -- some entry is faulty, in either order; each order stops at one
    obtain ⟨x, hx, hxe⟩ := List.exists_of_findSome?_eq_some hf
    cases hf' : l'.findSome? t.aliasFault with
    | none => simp [List.findSome?_eq_none_iff.1 hf' x (hp.mem_iff.1 hx)] at hxe
    | some e' =>
      obtain ⟨y, hy, hye⟩ := List.exists_of_findSome?_eq_some hf'
      exact .inl ⟨e, e', t.aliases_error hf, t.aliases_error hf',
        hk x hx y (hp.mem_iff.2 hy) e e' hxe hye⟩
  | none =>
    have hf' : l'.findSome? t.aliasFault = none := List.findSome?_eq_none_iff.2 fun y hy =>
      List.findSome?_eq_none_iff.1 hf y (hp.mem_iff.2 hy)
    obtain ⟨fb, hfb, hres⟩ := t.aliases_ok hf
    obtain ⟨fb', hfb', hres'⟩ := t.aliases_ok hf'
    refine .inr ⟨fb, fb', hfb, hfb', fun n => ?_⟩
    have hv := lastWith_perm aliasName (fun x => t.lookup (aliasTarget x)) hp
      (hc (List.findSome?_eq_none_iff.1 hf)) n
    -- a fallback resolves through the kept entry's target, so `bind` is `map` then `join`
    have hbind : ∀ o : Option (Bytes × Bytes), o.bind (fun x => t.lookup (aliasTarget x)) =
        (o.map fun x => t.lookup (aliasTarget x)).join := fun o => by cases o <;> rfl
    rw [hres, hres', hbind, hbind, hv]

/-- Two faulty entries that fail in different ways: each order that starts with one of them gives
its kind of error. -/
theorem aliases_fault_kinds_of_order_free {l : List (Bytes × Bytes)}
    (H : ∀ l', l.Perm l' → SameOutcome (t.aliases l) (t.aliases l')) :
    ∀ x ∈ l, ∀ y ∈ l, ∀ e e', t.aliasFault x = some e → t.aliasFault y = some e' →
      e.toFault.cls = e'.toFault.cls := by
  intro x hx y hy e e' hxe hye
  have first : ∀ z ∈ l, ∀ ez, t.aliasFault z = some ez →
      ∃ e₀, t.aliases l = .error e₀ ∧ e₀.toFault.cls = ez.toFault.cls := by
    intro z hz ez hze
    have hrun : t.aliases (z :: l.erase z) = .error ez :=
      t.aliases_error (by rw [List.findSome?_cons, hze])
    exact (hrun ▸ H _ (List.perm_cons_erase hz)).error_right
  obtain ⟨e₀, h₀, hc₀⟩ := first x hx e hxe
  obtain ⟨e₁, h₁, hc₁⟩ := first y hy e' hye
  rw [h₀] at h₁
  cases h₁
  exact hc₀.symm.trans hc₁

/-- Two fault-free entries of one alias with different targets: each order that ends with one of
them resolves the alias its way. -/
theorem aliases_targets_of_order_free {l : List (Bytes × Bytes)}
    (H : ∀ l', l.Perm l' → SameOutcome (t.aliases l) (t.aliases l'))
    (hl : ∀ x ∈ l, t.aliasFault x = none) :
    ∀ x ∈ l, ∀ y ∈ l, aliasName x = aliasName y →
      t.lookup (aliasTarget x) = t.lookup (aliasTarget y) := by
  have hf : l.findSome? t.aliasFault = none := List.findSome?_eq_none_iff.2 hl
  have last : ∀ z ∈ l, ∃ fb₀, t.aliases l = .ok fb₀ ∧
      fb₀.resolve (aliasName z) = t.lookup (aliasTarget z) := by
    intro z hz
    have hrest : (l.erase z).findSome? t.aliasFault = none :=
      List.findSome?_eq_none_iff.2 fun w hw => hl w (List.mem_of_mem_erase hw)
    obtain ⟨fb, hfb, hres⟩ := t.aliases_append_self hrest z (hl z hz)
    have hp : l.Perm (l.erase z ++ [z]) :=
      (List.perm_cons_erase hz).trans (List.perm_append_singleton z _).symm
    obtain ⟨fb₀, h₀, hres₀⟩ := (hfb ▸ H _ hp).ok_right
    exact ⟨fb₀, h₀, (hres₀ _).trans hres⟩
  intro x hx y hy hxy
  obtain ⟨fb₀, h₀, hx₀⟩ := last x hx
  obtain ⟨fb₁, h₁, hy₁⟩ := last y hy
  rw [h₀] at h₁
  cases h₁
  rw [← hx₀, ← hy₁, hxy]

theorem foldAliases_perm {l l' : List (Bytes × Bytes)} (hp : l.Perm l')
    (hc : ∀ x ∈ l, ∀ y ∈ l, aliasName x = aliasName y → aliasTarget x = aliasTarget y) (k : Bytes) :
    (Config.foldAliases l).lookup k = (Config.foldAliases l').lookup k := by
  rw [Config.lookup_foldAliases, Config.lookup_foldAliases]
  exact lastWith_perm aliasName aliasTarget hp hc k

def aliasRecord (l : List (Bytes × Bytes)) : Config.Datum := .record [("Aliases", .textMap (some l))]

theorem field_aliasRecord (l : List (Bytes × Bytes)) :
    (aliasRecord l).field "Aliases" = .textMap (some l) := by
  simp [aliasRecord, Config.Datum.field]

/-- Two entries of one folded alias with different folded targets: each order that ends with one
of them normalizes the alias its way. -/
theorem foldAliases_targets_of_order_free {l : List (Bytes × Bytes)}
    (H : ∀ l', l.Perm l' → ∀ d d' : Config.Datum, d.field "Aliases" = .textMap (some l) →
      d'.field "Aliases" = .textMap (some l') →
      ∃ n n', (Config.tidy d).field "Aliases" = .textMap (some n) ∧
        (Config.tidy d').field "Aliases" = .textMap (some n') ∧ ∀ k, n.lookup k = n'.lookup k) :
    ∀ x ∈ l, ∀ y ∈ l, aliasName x = aliasName y → aliasTarget x = aliasTarget y := by
  have last : ∀ z ∈ l, (Config.foldAliases l).lookup (aliasName z) = some (aliasTarget z) := by
    intro z hz
    have hp : l.Perm (l.erase z ++ [z]) :=
      (List.perm_cons_erase hz).trans (List.perm_append_singleton z _).symm
    obtain ⟨n, n', hn, hn', hk⟩ := H _ hp (aliasRecord l) (aliasRecord _) (field_aliasRecord l)
      (field_aliasRecord _)
    rw [Config.field_tidy_aliases (field_aliasRecord l)] at hn
    rw [Config.field_tidy_aliases (field_aliasRecord _)] at hn'
    cases hn
    cases hn'
    rw [hk, Config.lookup_foldAliases, lastWith_append_self]
    rfl
  intro x hx y hy hxy
  have h := (last x hx).symm.trans (hxy ▸ last y hy)
  exact Option.some.inj h

/-- Alias maps and their order. The alias resolution gives errors of one kind, or fallbacks that
resolve every name alike, for every order of a map's entries exactly when its faulty entries all
fail in one way and, when none is faulty, entries of one folded alias target one descriptor; the
normalization of a settings file's alias table gives the same map for every order exactly when
entries of one folded alias have one folded target. -/
theorem alias_map_order_free (l : List (Bytes × Bytes)) :
    ((∀ l', l.Perm l' → SameOutcome (t.aliases l) (t.aliases l')) ↔
      (∀ x ∈ l, ∀ y ∈ l, ∀ e e', t.aliasFault x = some e → t.aliasFault y = some e' →
          e.toFault.cls = e'.toFault.cls) ∧
        ((∀ x ∈ l, t.aliasFault x = none) → ∀ x ∈ l, ∀ y ∈ l, aliasName x = aliasName y →
          t.lookup (aliasTarget x) = t.lookup (aliasTarget y))) ∧
    ((∀ l', l.Perm l' → ∀ d d' : Config.Datum, d.field "Aliases" = .textMap (some l) →
        d'.field "Aliases" = .textMap (some l') →
        ∃ n n', (Config.tidy d).field "Aliases" = .textMap (some n) ∧
          (Config.tidy d').field "Aliases" = .textMap (some n') ∧ ∀ k, n.lookup k = n'.lookup k) ↔
      ∀ x ∈ l, ∀ y ∈ l, aliasName x = aliasName y → aliasTarget x = aliasTarget y) := by
  refine ⟨⟨fun H => ⟨t.aliases_fault_kinds_of_order_free H, t.aliases_targets_of_order_free H⟩,
    fun ⟨hk, hc⟩ l' hp => t.aliases_perm hp hk hc⟩,
    ⟨foldAliases_targets_of_order_free, fun hc l' hp d d' hd hd' => ?_⟩⟩
  exact ⟨_, _, Config.field_tidy_aliases hd, Config.field_tidy_aliases hd',
    foldAliases_perm hp hc⟩

/-- Two commands that take any parameters, `ECHO` and `ANY`. -/
def echoAnyTable : Table Unit :=
  ⟨[⟨Bytes.ofString "ECHO", 0, none, none, true, false, false, some ()⟩,
    ⟨Bytes.ofString "ANY", 0, none, none, true, false, false, some ()⟩]⟩

/-- Two entries that differ only in case, `RM = "any"` and `rm = "echo"`: the order that reads
`rm` last resolves `RM` to `ECHO` and normalizes it to `ECHO`, the other order to `ANY`. -/
theorem case_twins_depend_on_order :
    let l := [(Bytes.ofString "RM", Bytes.ofString "any"), (Bytes.ofString "rm", Bytes.ofString "echo")]
    ((echoAnyTable.aliases l).toOption.bind (·.resolve (Bytes.ofString "RM"))).map (·.name) =
        some (Bytes.ofString "ECHO") ∧
      ((echoAnyTable.aliases l.reverse).toOption.bind (·.resolve (Bytes.ofString "RM"))).map
        (·.name) = some (Bytes.ofString "ANY") ∧
      (Config.tidy (aliasRecord l)).field "Aliases" =
        .textMap (some [(Bytes.ofString "RM", Bytes.ofString "ECHO")]) ∧
      (Config.tidy (aliasRecord l.reverse)).field "Aliases" =
        .textMap (some [(Bytes.ofString "RM", Bytes.ofString "ANY")]) := by
  intro l
  rw [Config.field_tidy_aliases (field_aliasRecord l),
    Config.field_tidy_aliases (field_aliasRecord l.reverse)]
  simp only [Config.Datum.textMap.injEq, Option.some.injEq]
  decide +kernel

end Command.Table

end LineKv
