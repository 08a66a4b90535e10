import Mathlib
import LineKv.Store.Memory
import LineKv.Proofs.ReplyLines

/-!
The memory store against its contract. Main statement: `Memory.answers_contract`.
-/

namespace LineKv

theorem Bytes.lt_eq_true_iff (a b : Bytes) : Bytes.lt a b = true ↔ a < b := by
  induction a generalizing b with
  | nil => cases b <;> simp [Bytes.lt]
  | cons x xs ih =>
    cases b with
    | nil => simp [Bytes.lt]
    | cons y ys =>
      rw [List.cons_lt_cons_iff]
      unfold Bytes.lt
      by_cases hxy : x < y
      · simp [hxy]
      · by_cases hyx : y < x
        · have hne : x ≠ y := fun h => by subst h; exact hxy hyx
          simp [hyx, hne]
        · have heq : x = y := by
            simp only [UInt8.lt_iff_toNat_lt] at hxy hyx
            exact UInt8.toNat_inj.1 (by omega)
          simp [heq, ih]

theorem Bytes.sort_eq_mergeSort (xs : List Bytes) :
    Bytes.sort xs = xs.mergeSort fun a b => decide (a ≤ b) := by
  unfold Bytes.sort
  congr
  funext a b
  have h := Bytes.lt_eq_true_iff b a
  cases hb : Bytes.lt b a <;> simp_all [← List.not_lt]

theorem Bytes.sort_eq_sort {xs : List Bytes} {s : Finset Bytes} (hxs : xs.Nodup)
    (h : ∀ k, k ∈ xs ↔ k ∈ s) : Bytes.sort xs = s.sort (· ≤ ·) := by
  rw [Bytes.sort_eq_mergeSort]
  have hperm : List.Perm (xs.mergeSort fun a b => decide (a ≤ b)) (s.sort (· ≤ ·)) := by
    refine (List.mergeSort_perm _ _).trans ((List.perm_ext_iff_of_nodup hxs (Finset.sort_nodup _ _)).2 ?_)
    intro k
    rw [h, Finset.mem_sort]
  exact hperm.eq_of_pairwise' (List.pairwise_mergeSort' _ xs) (Finset.pairwise_sort _ _)

@[simp] theorem Bytes.mem_sort {xs : List Bytes} {k : Bytes} : k ∈ Bytes.sort xs ↔ k ∈ xs := by
  rw [Bytes.sort_eq_mergeSort, (List.mergeSort_perm _ _).mem_iff]

theorem Bytes.sort_strictly_ascending {xs : List Bytes} (h : xs.Nodup) :
    (Bytes.sort xs).Pairwise (· < ·) := by
  rw [Bytes.sort_eq_mergeSort]
  have hnd : (xs.mergeSort fun a b => decide (a ≤ b)).Nodup := (List.mergeSort_perm _ _).nodup_iff.2 h
  exact ((List.pairwise_mergeSort' _ _).and hnd).imp fun h => Std.lt_of_le_of_ne h.1 h.2

theorem Bytes.ofString_append (s t : String) :
    Bytes.ofString (s ++ t) = Bytes.ofString s ++ Bytes.ofString t := by
  simp [Bytes.ofString, ByteArray.toList, Bytes.toList_loop]

theorem Bytes.ofInt_eq_toString (i : Int) : Bytes.ofInt i = Bytes.ofString (toString i) := by
  cases i with
  | ofNat n => simp [Bytes.ofInt, Bytes.ofNat]; rfl
  | negSucc n =>
    have hminus : Bytes.ofString "-" = [Bytes.ascii '-'] := by
      simp [Bytes.ofString, ByteArray.toList, Bytes.toList_loop]; rfl
    have hrepr : toString (Int.negSucc n) = "-" ++ toString (n + 1) := rfl
    simp [Bytes.ofInt, Bytes.ofNat, hrepr, Bytes.ofString_append, hminus]

theorem Text.wrap64_eq_bmod (i : Int) : Text.wrap64 i = i.bmod (2 ^ 64) := rfl

end LineKv

namespace LineKv.Store

abbrev Table := Finmap fun _ : Name => Bytes

/-- The store as its contract describes it: a table, and whether the store has been closed. -/
structure Contract where
  table : Table
  closed : Bool

namespace Contract

def empty : Contract := ⟨∅, false⟩

/-- Why a call is refused: a bad database name first, then a bad key (for a call on one key), then
a closed store. -/
def refusal (closed : Bool) (db : Bytes) : Option Bytes → Option StoreError
  | some key =>
    if !validDatabase db then some (.invalidDatabase db)
    else if !validKey key then some (.invalidKey key)
    else if closed then some .closed else none
  | none =>
    if !validDatabase db then some (.invalidDatabase db)
    else if closed then some .closed else none

/-- Answer `k` unless the call is refused; a refused call changes nothing. -/
def checked (r : Contract) (db : Bytes) (key : Option Bytes) (k : Answer × Contract) :
    Answer × Contract :=
  match refusal r.closed db key with
  | some e => (.failed e, r)
  | none => k

def keysWith (t : Table) (db pfx : Bytes) : List Bytes :=
  ((t.keys.filter fun n => n.1 = db ∧ pfx <+: n.2).image Prod.snd).sort (· ≤ ·)

def namesIn (t : Table) (db : Bytes) : Finset Name := t.keys.filter (·.1 = db)

def eraseFrom (n : Name) (t : Table) : Table := t.erase n

instance : LeftCommutative eraseFrom := ⟨fun _ _ _ => Finmap.erase_erase⟩

def without (t : Table) (gone : Finset Name) : Table := gone.val.foldr eraseFrom t

/-- Store the sum `cur + delta`, wrapped to 64 bits, as decimal text and answer it. -/
def bump (r : Contract) (db key : Bytes) (cur delta : Int) : Answer × Contract :=
  let n := (cur + delta).bmod (2 ^ 64)
  (.counter n, { r with table := r.table.insert (db, key) (Bytes.ofString (toString n)) })

/-- Answer one call as the contract says. -/
def perform (r : Contract) : Call → Answer × Contract
  | .get db key => r.checked db (some key) (.value (r.table.lookup (db, key)), r)
  | .set db key v => r.checked db (some key) (.stored, { r with table := r.table.insert (db, key) v })
  | .delete db key =>
    r.checked db (some key) (.existed (decide ((db, key) ∈ r.table)),
      { r with table := r.table.erase (db, key) })
  | .exists_ db key => r.checked db (some key) (.present (decide ((db, key) ∈ r.table)), r)
  | .incr db key delta =>
    r.checked db (some key) <|
      match r.table.lookup (db, key) with
      | none => r.bump db key 0 delta
      | some raw =>
        match Text.parseInt64? raw with
        | some cur => r.bump db key cur delta
        | none => (.failed (.notInteger key), r)
  | .keys db pfx limit =>
    r.checked db none
      (.names (if 0 < limit then (keysWith r.table db pfx).take limit.toNat
        else keysWith r.table db pfx), r)
  | .flush db =>
    r.checked db none
      (.removed (namesIn r.table db).card, { r with table := without r.table (namesIn r.table db) })
  | .close => (.closed, ⟨∅, true⟩)

theorem lookup_foldr_eraseFrom (t : Table) (s : Multiset Name) (n : Name) :
    (s.foldr eraseFrom t).lookup n = if n ∈ s then none else t.lookup n := by
  induction s using Multiset.induction_on with
  | empty => simp
  | cons a s ih =>
    rw [Multiset.foldr_cons, eraseFrom]
    by_cases hna : n = a
    · subst hna; simp [Finmap.lookup_erase]
    · simp [Finmap.lookup_erase_ne hna, ih, hna]

theorem lookup_without (t : Table) (gone : Finset Name) (n : Name) :
    (without t gone).lookup n = if n ∈ gone then none else t.lookup n :=
  lookup_foldr_eraseFrom t gone.val n

theorem mem_namesIn {t : Table} {db : Bytes} {n : Name} : n ∈ namesIn t db ↔ n.1 = db ∧ n ∈ t := by
  simp [namesIn, Finmap.mem_keys, and_comm]

theorem mem_keysWith {t : Table} {db pfx k : Bytes} :
    k ∈ keysWith t db pfx ↔ (db, k) ∈ t ∧ pfx <+: k := by
  simp [keysWith, Finmap.mem_keys]

theorem eq_keysWith {t : Table} {db pfx : Bytes} {ks : List Bytes} (hks : ks.Pairwise (· < ·))
    (h : ∀ k, k ∈ ks ↔ (db, k) ∈ t ∧ pfx <+: k) : ks = keysWith t db pfx := by
  have hperm : List.Perm ks (keysWith t db pfx) := by
    refine (List.perm_ext_iff_of_nodup hks.nodup (Finset.sort_nodup _ _)).2 fun k => ?_
    exact (h k).trans mem_keysWith.symm
  exact hperm.eq_of_pairwise' (hks.imp List.le_of_lt) (Finset.pairwise_sort _ _)

theorem length_keysWith_nil (t : Table) (db : Bytes) :
    (keysWith t db []).length = (namesIn t db).card := by
  rw [keysWith, Finset.length_sort, Finset.card_image_of_injOn]
  · simp [namesIn]
  · rintro ⟨d, k⟩ hn ⟨d', k'⟩ hn' (hk : k = k')
    rw [Finset.mem_coe, Finset.mem_filter] at hn hn'
    have hd : d = d' := hn.2.1.trans hn'.2.1.symm
    rw [hd, hk]

theorem refusal_eq_none_iff {closed : Bool} {db key : Bytes} :
    refusal closed db (some key) = none ↔
      validDatabase db = true ∧ validKey key = true ∧ closed = false := by
  simp only [refusal]
  cases validDatabase db <;> cases validKey key <;> cases closed <;> simp

theorem refusal_none_eq_none_iff {closed : Bool} {db : Bytes} :
    refusal closed db none = none ↔ validDatabase db = true ∧ closed = false := by
  simp only [refusal]
  cases validDatabase db <;> cases closed <;> simp

end Contract

/-- A call on a whole database checks its name, then that the store is open. -/
theorem opened_eq {α : Type} (closed : Bool) (db : Bytes) (y : Except StoreError α) :
    (checkDatabase db >>= fun _ =>
        if closed = true then (throw StoreError.closed >>= fun (_ : PUnit) => y) else y) =
      match Contract.refusal closed db none with
      | some e => .error e
      | none => y := by
  simp only [checkDatabase, Contract.refusal]
  cases validDatabase db <;> cases closed <;> rfl

theorem isSome_lookup (t : Table) (n : Name) : (t.lookup n).isSome = decide (n ∈ t) := by
  rw [Bool.eq_iff_iff, decide_eq_true_iff]
  exact Finmap.lookup_isSome

/-! ## The memory store holds a table -/

namespace Memory

/-- A memory store holds a contract's state: the same closed flag, each name bound at most once,
and exactly the table's bindings. -/
structure Holds (m : Memory) (r : Contract) : Prop where
  closed : m.closed = r.closed
  nodup : (m.bindings.map Prod.fst).Nodup
  mem : ∀ n v, (n, v) ∈ m.bindings ↔ r.table.lookup n = some v

theorem find?_eq_some_iff {bs : List (Name × Bytes)} (h : (bs.map Prod.fst).Nodup) (n : Name)
    (v : Bytes) : ((bs.find? (·.1 == n)).map (·.2)) = some v ↔ (n, v) ∈ bs := by
  induction bs with
  | nil => simp
  | cons b bs ih =>
    obtain ⟨n', v'⟩ := b
    rw [List.map_cons, List.nodup_cons] at h
    by_cases hn : n' = n
    · subst hn
      have hout : ∀ w, (n', w) ∉ bs := fun w hw => h.1 (List.mem_map.2 ⟨_, hw, rfl⟩)
      simp [hout, eq_comm]
    · have hne : (n, v) ≠ (n', v') := fun he => hn (Prod.mk.inj he).1.symm
      simp [hn, ih h.2, hne]

theorem Holds.find {m : Memory} {r : Contract} (h : m.Holds r) (n : Name) :
    m.find? n = r.table.lookup n := by
  apply Option.ext
  intro v
  rw [← h.mem]
  exact find?_eq_some_iff h.nodup n v

theorem Holds.bind {m : Memory} {r : Contract} (h : m.Holds r) (n : Name) (v : Bytes) :
    (m.bind n v).Holds { r with table := r.table.insert n v } where
  closed := h.closed
  nodup := by
    simp only [Memory.bind, eraseName, List.map_append, List.map_singleton]
    refine List.nodup_append.2 ⟨(h.nodup.sublist (List.filter_sublist.map _)), by simp, ?_⟩
    intro a ha b hb
    simp only [List.mem_singleton] at hb
    obtain ⟨⟨a', w⟩, hw, rfl⟩ := List.mem_map.1 ha
    simp only [List.mem_filter, bne_iff_ne] at hw
    simpa [hb] using hw.2
  mem := by
    intro n' v'
    simp only [Memory.bind, eraseName, List.mem_append, List.mem_filter, List.mem_singleton,
      bne_iff_ne, ne_eq, Prod.mk.injEq]
    by_cases hn : n' = n
    · subst hn; simp [Finmap.lookup_insert, eq_comm]
    · simp [hn, Finmap.lookup_insert_of_ne _ hn, h.mem]

theorem Holds.erase {m : Memory} {r : Contract} (h : m.Holds r) (n : Name) :
    Holds { m with bindings := eraseName m.bindings n } { r with table := r.table.erase n } where
  closed := h.closed
  nodup := h.nodup.sublist (List.filter_sublist.map _)
  mem := by
    intro n' v'
    simp only [eraseName, List.mem_filter, bne_iff_ne, ne_eq]
    by_cases hn : n' = n
    · subst hn; simp [Finmap.lookup_erase]
    · simp [hn, Finmap.lookup_erase_ne hn, h.mem]

theorem Holds.keys {m : Memory} {r : Contract} (h : m.Holds r) (db pfx : Bytes) :
    Bytes.sort ((m.bindings.filter fun b => b.1.1 == db && Bytes.startsWith b.1.2 pfx).map (·.1.2)) =
      Contract.keysWith r.table db pfx := by
  apply Bytes.sort_eq_sort
  · -- within one database a key names one binding
    have hs : (m.bindings.filter fun b => b.1.1 == db && Bytes.startsWith b.1.2 pfx).Nodup :=
      (h.nodup.of_map _).filter _
    refine hs.map_on ?_
    intro x hx y hy hxy
    simp only [List.mem_filter, Bool.and_eq_true, beq_iff_eq] at hx hy
    exact List.inj_on_of_nodup_map h.nodup hx.1 hy.1 (Prod.ext (hx.2.1.trans hy.2.1.symm) hxy)
  · intro k
    simp only [List.mem_map, List.mem_filter, Bool.and_eq_true, beq_iff_eq, Bytes.startsWith,
      List.isPrefixOf_iff_prefix]
    rw [Finset.mem_image]
    constructor
    · rintro ⟨⟨⟨d, k'⟩, v⟩, ⟨hm, rfl, hp⟩, rfl⟩
      exact ⟨(d, k'), by simp [Finmap.mem_keys, Finmap.mem_iff, ← h.mem, hp]; exact ⟨v, hm⟩, rfl⟩
    · rintro ⟨⟨d, k'⟩, hk, rfl⟩
      simp only [Finset.mem_filter, Finmap.mem_keys, Finmap.mem_iff, ← h.mem] at hk
      obtain ⟨⟨v, hm⟩, rfl, hp⟩ := hk
      exact ⟨((d, k'), v), ⟨hm, rfl, hp⟩, rfl⟩

theorem Holds.flushed {m : Memory} {r : Contract} (h : m.Holds r) (db : Bytes) :
    Holds { m with bindings := m.bindings.filter fun b => !(b.1.1 == db) }
      { r with table := Contract.without r.table (Contract.namesIn r.table db) } where
  closed := h.closed
  nodup := h.nodup.sublist (List.filter_sublist.map _)
  mem := by
    intro n v
    simp only [List.mem_filter, Bool.not_eq_true', beq_eq_false_iff_ne, Contract.lookup_without,
      Contract.mem_namesIn, h.mem]
    by_cases hn : n.1 = db
    · simpa [hn] using fun hn' hv => hn' (Finmap.mem_of_lookup_eq_some hv)
    · simp [hn]

theorem Holds.flushedCount {m : Memory} {r : Contract} (h : m.Holds r) (db : Bytes) :
    (m.bindings.filter fun b => b.1.1 == db).length = (Contract.namesIn r.table db).card := by
  have hnd : ((m.bindings.filter fun b => b.1.1 == db).map Prod.fst).Nodup :=
    h.nodup.sublist (List.filter_sublist.map _)
  rw [← List.length_map (f := Prod.fst), ← List.toFinset_card_of_nodup hnd]
  congr 1
  ext n
  simp only [List.mem_toFinset, List.mem_map, List.mem_filter, beq_iff_eq, Contract.mem_namesIn,
    Finmap.mem_iff, ← h.mem]
  constructor
  · rintro ⟨⟨n', v⟩, ⟨hm, hd⟩, rfl⟩
    exact ⟨hd, v, hm⟩
  · rintro ⟨hd, v, hm⟩
    exact ⟨(n, v), ⟨hm, hd⟩, rfl⟩

theorem Holds.close (m : Memory) : m.close.Holds ⟨∅, true⟩ where
  closed := rfl
  nodup := List.nodup_nil
  mem := by simp [Memory.close, Finmap.lookup_empty]

theorem Holds.empty : Memory.empty.Holds Contract.empty where
  closed := rfl
  nodup := List.nodup_nil
  mem := by simp [Memory.empty, Contract.empty, Finmap.lookup_empty]

/-! ## Each call, against the contract -/

theorem guard_eq (m : Memory) (db key : Bytes) :
    m.guard db key = match Contract.refusal m.closed db (some key) with
      | some e => .error e
      | none => .ok () := by
  simp only [guard, checkName, Contract.refusal]
  cases validDatabase db <;> cases validKey key <;> cases m.closed <;> rfl

theorem Holds.bump {m : Memory} {r : Contract} (h : m.Holds r) (db key : Bytes) (cur delta : Int) :
    Answer.counter (Text.wrap64 (cur + delta)) = (r.bump db key cur delta).1 ∧
      (m.bind (db, key) (Bytes.ofInt (Text.wrap64 (cur + delta)))).Holds (r.bump db key cur delta).2 := by
  rw [Text.wrap64_eq_bmod]
  constructor
  · rfl
  · rw [Bytes.ofInt_eq_toString]
    exact h.bind _ _

theorem Holds.refusal {m : Memory} {r : Contract} (h : m.Holds r) (db : Bytes) (key : Option Bytes) :
    Contract.refusal m.closed db key = Contract.refusal r.closed db key := by
  rw [h.closed]

theorem Holds.perform {m : Memory} {r : Contract} (h : m.Holds r) (c : Call) :
    (m.perform c).1 = (r.perform c).1 ∧ (m.perform c).2.Holds (r.perform c).2 := by
  cases c with
  | get db key =>
    simp only [Memory.perform, Memory.get, Contract.perform, Contract.checked, guard_eq, h.refusal]
    cases Contract.refusal r.closed db (some key) with
    | some e => exact ⟨rfl, h⟩
    | none => exact ⟨by simp [Answer.settle, h.find], h⟩
  | set db key v =>
    simp only [Memory.perform, Memory.set, Contract.perform, Contract.checked, guard_eq, h.refusal]
    cases Contract.refusal r.closed db (some key) with
    | some e => exact ⟨rfl, h⟩
    | none => exact ⟨rfl, h.bind _ _⟩
  | delete db key =>
    simp only [Memory.perform, Memory.delete, Contract.perform, Contract.checked, guard_eq, h.refusal]
    cases Contract.refusal r.closed db (some key) with
    | some e => exact ⟨rfl, h⟩
    | none => exact ⟨by simp [Answer.settle, h.find, isSome_lookup], h.erase _⟩
  | exists_ db key =>
    simp only [Memory.perform, Memory.exists_, Memory.get, Contract.perform, Contract.checked,
      guard_eq, h.refusal]
    cases Contract.refusal r.closed db (some key) with
    | some e => exact ⟨rfl, h⟩
    | none => exact ⟨by simp [Answer.settle, h.find, isSome_lookup], h⟩
  | incr db key delta =>
    simp only [Memory.perform, Memory.incr, Contract.perform, Contract.checked, guard_eq, h.refusal,
      h.find]
    cases Contract.refusal r.closed db (some key) with
    | some e => exact ⟨rfl, h⟩
    | none =>
      -- an absent counter counts from zero; a stored one must parse
      cases Finmap.lookup (db, key) r.table with
      | none => exact h.bump db key 0 delta
      | some raw =>
        dsimp only
        cases Text.parseInt64? raw with
        | some cur => exact h.bump db key cur delta
        | none => exact ⟨rfl, h⟩
  | keys db pfx limit =>
    simp only [Memory.perform, Memory.keys, Contract.perform, Contract.checked, opened_eq, h.refusal]
    cases Contract.refusal r.closed db none with
    | some e => exact ⟨rfl, h⟩
    | none => exact ⟨by simp only [Answer.settle, h.keys]; rfl, h⟩
  | flush db =>
    simp only [Memory.perform, Memory.flush, Contract.perform, Contract.checked, opened_eq, h.refusal,
      List.partition_eq_filter_filter]
    cases Contract.refusal r.closed db none with
    | some e => exact ⟨rfl, h⟩
    | none => exact ⟨by simp only [Answer.settle, h.flushedCount]; rfl, h.flushed db⟩
  | close => exact ⟨rfl, Holds.close m⟩

end Memory

/-! ## Runs -/

/-- Two stores answer a sequence of calls alike when a relation holds between them at the start and
every allowed call, answered alike, keeps it. -/
theorem answers_eq_of_step {σ τ : Type} {p : σ → Call → Answer × σ} {q : τ → Call → Answer × τ}
    (R : σ → τ → Prop) (P : Call → Prop)
    (step : ∀ s t c, P c → R s t → (p s c).1 = (q t c).1 ∧ R (p s c).2 (q t c).2) :
    ∀ (cs : List Call) (s : σ) (t : τ), (∀ c ∈ cs, P c) → R s t → answers p s cs = answers q t cs := by
  intro cs
  induction cs with
  | nil => intro _ _ _ _; rfl
  | cons c cs ih =>
    intro s t hP hR
    obtain ⟨hc, hR'⟩ := step s t c (hP c List.mem_cons_self) hR
    simp only [answers, hc, ih _ _ (fun c' hc' => hP c' (List.mem_cons_of_mem c hc')) hR']

theorem Memory.answers_eq_contract {m : Memory} {r : Contract} (h : m.Holds r) (calls : List Call) :
    answers Memory.perform m calls = answers Contract.perform r calls :=
  answers_eq_of_step Memory.Holds (fun _ => True) (fun _ _ c _ h => h.perform c) calls _ _
    (fun _ _ => trivial) h

/-- From an empty store, every sequence of calls is answered as the contract answers it. -/
theorem Memory.answers_contract (calls : List Call) :
    answers Memory.perform Memory.empty calls = answers Contract.perform Contract.empty calls :=
  Memory.answers_eq_contract Memory.Holds.empty calls

example : answers Memory.perform Memory.empty
    [.set [48] [107] [52, 49], .incr [48] [107] 1, .keys [48] [] 0, .close, .get [48] [107]] =
      [.stored, .counter 42, .names [[107]], .closed, .failed .closed] := by
  decide +kernel

end LineKv.Store
