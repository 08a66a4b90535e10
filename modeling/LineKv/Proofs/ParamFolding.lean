import Mathlib
import LineKv.Command.Descriptor

/-!
What normalization leaves of a call's parameters. One trailing empty parameter is dropped unless
the descriptor keeps it (`Descriptor.trimmed`); then, past the maximum, the overflow is folded
into the last kept parameter with single spaces.
-/

namespace LineKv

namespace Bytes

theorem joinWith_cons_of_ne_nil (sep p : Bytes) {ps : List Bytes} (h : ps ≠ []) :
    joinWith sep (p :: ps) = p ++ sep ++ joinWith sep ps := by
  cases ps with
  | nil => exact absurd rfl h
  | cons q qs => rfl

theorem joinWith_append (sep : Bytes) {xs ys : List Bytes} (hx : xs ≠ []) (hy : ys ≠ []) :
    joinWith sep (xs ++ ys) = joinWith sep xs ++ sep ++ joinWith sep ys := by
  induction xs with
  | nil => exact absurd rfl hx
  | cons x xs ih =>
    rw [List.cons_append, joinWith_cons_of_ne_nil sep x (List.append_ne_nil_of_right_ne_nil xs hy)]
    by_cases hxs : xs = []
    · subst hxs
      rfl
    · rw [ih hxs, joinWith_cons_of_ne_nil sep x hxs]
      simp

theorem joinWith_ne_nil {sep : Bytes} (hsep : sep ≠ []) {ps : List Bytes} (hps : 2 ≤ ps.length) :
    joinWith sep ps ≠ [] := by
  match ps, hps with
  | p :: q :: rest, _ =>
    rw [joinWith_cons_of_ne_nil sep p (List.cons_ne_nil q rest)]
    simp [hsep]

end Bytes

namespace Command.Descriptor

variable {H : Type} {d : Descriptor H} {p : List Bytes}

/-- The parameters less one trailing empty parameter, unless the descriptor keeps it. -/
def trimmed (d : Descriptor H) (params : List Bytes) : List Bytes :=
  if !d.trailingEmpty && params.getLast? == some [] then params.dropLast else params

/-- What normalization promises of `d.normalize p`, against the trimmed parameters. -/
structure FoldsOverflow (d : Descriptor H) (p : List Bytes) : Prop where
  /-- Without a maximum, or within it, the trimmed parameters pass unchanged. -/
  fits : (∀ m, d.maxParams = some m → ((d.trimmed p).length : Int) ≤ m) → d.normalize p = d.trimmed p
  /-- Past a maximum `m`, exactly `m` parameters remain: the first `m - 1` as they were, and the
  rest joined by single spaces as the last. -/
  folds : ∀ m : Nat, d.maxParams = some m → m < (d.trimmed p).length →
    (d.normalize p).length = m ∧ (d.normalize p).take (m - 1) = (d.trimmed p).take (m - 1) ∧
      (0 < m → (d.normalize p).getLast? = some (Bytes.joinWith [32] ((d.trimmed p).drop (m - 1))))
  /-- Unless the maximum is 0, the parameters joined by spaces spell what the trimmed ones do. -/
  joined : d.maxParams ≠ some 0 → Bytes.joinWith [32] (d.normalize p) = Bytes.joinWith [32] (d.trimmed p)
  /-- Where trailing empties are dropped, an empty last parameter is passed on only unfolded, from a
  call that ended in two empty parameters. -/
  lastEmpty : d.trailingEmpty = false → (d.normalize p).getLast? = some [] →
    d.normalize p = d.trimmed p ∧ ∃ r, p = r ++ [[], []]

theorem normalize_of_fits (h : ∀ m, d.maxParams = some m → ((d.trimmed p).length : Int) ≤ m) :
    d.normalize p = d.trimmed p := by
  rw [normalize, ← trimmed]
  dsimp only
  split
  · rfl
  · rename_i m hm
    rw [if_pos (h m hm)]

theorem normalize_of_zero (hm : d.maxParams = some 0) (hlen : 0 < (d.trimmed p).length) :
    d.normalize p = [] := by
  rw [normalize, ← trimmed]
  dsimp only
  rw [hm]
  have : ¬ (((d.trimmed p).length : Int) ≤ 0) := by omega
  exact (if_neg this).trans (if_pos rfl)

theorem normalize_of_lt {k : Nat} (hm : d.maxParams = some ((k + 1 : Nat) : Int)) (hlen : k + 1 < (d.trimmed p).length) :
    d.normalize p = (d.trimmed p).take k ++ [Bytes.joinWith [32] ((d.trimmed p).drop k)] := by
  rw [normalize, ← trimmed]
  dsimp only
  rw [hm]
  have hle : ¬ (((d.trimmed p).length : Int) ≤ ((k + 1 : Nat) : Int)) := by omega
  have hne : ((k + 1 : Nat) : Int) ≠ 0 := by omega
  have hkeep : (((k + 1 : Nat) : Int) - 1).toNat = k := by omega
  simp only [if_neg hle, if_neg hne, hkeep]

theorem ends_twice_empty_of_trimmed (hte : d.trailingEmpty = false) (h : (d.trimmed p).getLast? = some []) :
    ∃ r, p = r ++ [[], []] := by
  unfold trimmed at h
  split at h
  · rename_i hc
    simp only [hte, Bool.not_false, Bool.true_and, beq_iff_eq] at hc
    obtain ⟨r, hr⟩ := List.getLast?_eq_some_iff.1 hc
    subst hr
    obtain ⟨r', hr'⟩ := List.getLast?_eq_some_iff.1 (by simpa using h)
    exact ⟨r', by simp [hr']⟩
  · rename_i hc
    simp [hte, h] at hc

theorem foldsOverflow_of_fits (h : ∀ m, d.maxParams = some m → ((d.trimmed p).length : Int) ≤ m) :
    d.FoldsOverflow p where
  fits _ := normalize_of_fits h
  folds m hm hlt := absurd (h m hm) (by omega)
  joined _ := by rw [normalize_of_fits h]
  lastEmpty hte hl := by
    rw [normalize_of_fits h] at hl ⊢
    exact ⟨rfl, ends_twice_empty_of_trimmed hte hl⟩

theorem foldsOverflow_of_zero (hm : d.maxParams = some 0) (hlen : 0 < (d.trimmed p).length) :
    d.FoldsOverflow p where
  fits h := absurd (h 0 hm) (by omega)
  folds m hm' _ := by
    have hm0 : m = 0 := by
      rw [hm] at hm'
      exact_mod_cast (Option.some.inj hm').symm
    subst hm0
    simp [normalize_of_zero hm hlen]
  joined h := absurd hm h
  lastEmpty _ hl := by simp [normalize_of_zero hm hlen] at hl

theorem foldsOverflow_of_lt {k : Nat} (hm : d.maxParams = some ((k + 1 : Nat) : Int)) (hlen : k + 1 < (d.trimmed p).length) :
    d.FoldsOverflow p where
  fits h := absurd (h _ hm) (by omega)
  folds m hm' _ := by
    have hmk : m = k + 1 := by
      rw [hm] at hm'
      exact_mod_cast (Option.some.inj hm').symm
    subst hmk
    rw [normalize_of_lt hm hlen]
    refine ⟨?_, ?_, fun _ => by simp⟩
    · simp only [List.length_append, List.length_take, List.length_singleton]
      omega
    · simp only [Nat.add_sub_cancel]
      rw [List.take_append_of_le_length (by simp; omega), List.take_take, min_self]
  joined _ := by
    rw [normalize_of_lt hm hlen]
    -- the folded parameter sits after the `k` kept ones, one separator apart, as in the original
    rcases Nat.eq_zero_or_pos k with rfl | hk
    · rfl
    · have htake : (d.trimmed p).take k ≠ [] := List.ne_nil_of_length_pos (by rw [List.length_take]; omega)
      have hdrop : (d.trimmed p).drop k ≠ [] := List.ne_nil_of_length_pos (by rw [List.length_drop]; omega)
      calc Bytes.joinWith [32] ((d.trimmed p).take k ++ [Bytes.joinWith [32] ((d.trimmed p).drop k)])
          = Bytes.joinWith [32] ((d.trimmed p).take k) ++ [32] ++ Bytes.joinWith [32] ((d.trimmed p).drop k) :=
            Bytes.joinWith_append [32] htake (List.cons_ne_nil _ _)
        _ = Bytes.joinWith [32] ((d.trimmed p).take k ++ (d.trimmed p).drop k) :=
            (Bytes.joinWith_append [32] htake hdrop).symm
        _ = Bytes.joinWith [32] (d.trimmed p) := by rw [List.take_append_drop]
  lastEmpty _ hl := by
    rw [normalize_of_lt hm hlen] at hl
    have hne : Bytes.joinWith [32] ((d.trimmed p).drop k) ≠ [] :=
      Bytes.joinWith_ne_nil (List.cons_ne_nil _ _) (by simp; omega)
    simp [hne] at hl

/-- Normalization keeps the trimmed parameters within the maximum, folds the overflow into the last
kept one, never changes their text joined by spaces, and passes on an empty last parameter to a
descriptor that trims only from a call ending in two empty ones. -/
theorem normalize_folds_overflow (d : Descriptor H) (p : List Bytes)
    (hmax : ∀ m, d.maxParams = some m → 0 ≤ m) : d.FoldsOverflow p := by
  rcases hmp : d.maxParams with _ | m
  · exact foldsOverflow_of_fits (by simp [hmp])
  · obtain ⟨k, rfl⟩ := Int.eq_ofNat_of_zero_le (hmax m hmp)
    by_cases hle : (d.trimmed p).length ≤ k
    · exact foldsOverflow_of_fits (by simp [hmp]; omega)
    · rcases k with _ | k
      · exact foldsOverflow_of_zero hmp (by omega)
      · exact foldsOverflow_of_lt hmp (by omega)

theorem maxParams_nonneg_of_check (h : d.check = none) : ∀ m, d.maxParams = some m → 0 ≤ m := by
  intro m hm
  unfold check at h
  simp only at h
  split at h
  · exact absurd h (by simp)
  · split at h
    · exact absurd h (by simp)
    · rename_i hmin
      rw [hm] at h
      simp only at h
      split at h
      · exact absurd h (by simp)
      · omega

def setDescriptor : Descriptor Unit :=
  ⟨Bytes.ofString "set", 1, some 2, none, false, false, false, some ()⟩

theorem normalize_folds_overflow_on_set :
    (∀ m, setDescriptor.maxParams = some m → 0 ≤ m) ∧
      setDescriptor.FoldsOverflow [[97], [98], [99], [100]] :=
  ⟨maxParams_nonneg_of_check (by decide +kernel),
    normalize_folds_overflow setDescriptor _ (maxParams_nonneg_of_check (by decide +kernel))⟩

/-- Trimming runs once: a call ending in two empty parameters passes an empty last one on to a
descriptor that drops trailing empties. -/
theorem empty_last_after_two_trailing :
    setDescriptor.trailingEmpty = false ∧ setDescriptor.normalize [[97], [], []] = [[97], []] := by decide

end Command.Descriptor

end LineKv
