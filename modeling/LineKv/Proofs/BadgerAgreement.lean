import Mathlib
import LineKv.Store.Badger
import LineKv.Proofs.StoreContract

/-!
The engine-backed store against the same contract as the memory store. Main statement:
`Badger.answers_memory`.
-/

namespace LineKv.Store

/-! ## Keys in the shared keyspace -/

theorem zero_not_mem_of_validDatabase {db : Bytes} (h : validDatabase db = true) : (0 : UInt8) ∉ db := by
  intro h0
  have hall : db.all isDatabaseByte = true := by
    simp only [validDatabase, Bool.and_eq_true] at h
    exact h.2
  have := List.all_eq_true.1 hall 0 h0
  exact absurd this (by decide)

theorem append_zero_inj {a a' k k' : Bytes} (ha : (0 : UInt8) ∉ a) (ha' : (0 : UInt8) ∉ a')
    (h : a ++ 0 :: k = a' ++ 0 :: k') : a = a' ∧ k = k' := by
  induction a generalizing a' with
  | nil =>
    cases a' with
    | nil => simpa using h
    | cons x a' =>
      have hx : (0 : UInt8) = x := (List.cons.inj h).1
      exact absurd (hx ▸ List.mem_cons_self) ha'
  | cons x a ih =>
    cases a' with
    | nil =>
      have hx : x = 0 := (List.cons.inj h).1
      exact absurd (hx ▸ List.mem_cons_self) ha
    | cons y a' =>
      obtain ⟨hxy, h⟩ := List.cons.inj h
      obtain ⟨rfl, rfl⟩ := ih (fun h0 => ha (List.mem_cons_of_mem x h0))
        (fun h0 => ha' (List.mem_cons_of_mem y h0)) h
      exact ⟨by rw [hxy], rfl⟩

theorem dbKey_inj {db db' key key' : Bytes} (hdb : validDatabase db = true)
    (hdb' : validDatabase db' = true) (h : dbKey db key = dbKey db' key') : db = db' ∧ key = key' :=
  append_zero_inj (zero_not_mem_of_validDatabase hdb) (zero_not_mem_of_validDatabase hdb') h

theorem dbKey_prefix_dbKey {db db' p key : Bytes} (hdb : validDatabase db = true)
    (hdb' : validDatabase db' = true) : dbKey db p <+: dbKey db' key ↔ db = db' ∧ p <+: key := by
  constructor
  · rintro ⟨t, ht⟩
    rw [dbKey, dbKey, List.append_assoc, List.cons_append] at ht
    obtain ⟨rfl, rfl⟩ := dbKey_inj hdb hdb' ht
    exact ⟨rfl, List.prefix_append _ _⟩
  · rintro ⟨rfl, hp⟩
    exact (List.prefix_append_right_inj db).2 (List.cons_prefix_cons.2 ⟨rfl, hp⟩)

theorem drop_dbKey (db key : Bytes) : (dbKey db key).drop (db.length + 1) = key := by
  simp [dbKey]

theorem Bytes.append_lt_append_iff (c a b : Bytes) : c ++ a < c ++ b ↔ a < b := by
  induction c with
  | nil => rfl
  | cons x c ih => simp [ih]

theorem dbKey_lt_dbKey (db a b : Bytes) : dbKey db a < dbKey db b ↔ a < b := by
  have h : ∀ x, dbKey db x = (db ++ [0]) ++ x := fun x => by simp [dbKey]
  rw [h, h, Bytes.append_lt_append_iff]

theorem dbKey_append (db p t : Bytes) : dbKey db p ++ t = dbKey db (p ++ t) := by
  simp [dbKey]

/-! ## The engine-backed store holds a table -/

namespace Badger

variable {D : Type} {E : Engine D}

/-- An engine-backed store holds a contract's state: the same closed flag, every valid name read
from the engine as the table binds it, every engine key bound the key of a valid name, and every
name of the table valid. -/
structure Holds (E : Engine D) (b : Badger D) (r : Contract) : Prop where
  closed : b.closed = r.closed
  get : ∀ db key, validDatabase db = true → validKey key = true →
    E.get b.data (dbKey db key) = r.table.lookup (db, key)
  bound : ∀ k, (E.get b.data k).isSome →
    ∃ db key, validDatabase db = true ∧ validKey key = true ∧ k = dbKey db key
  named : ∀ n ∈ r.table, validDatabase n.1 = true ∧ validKey n.2 = true

theorem Holds.open_ (hE : E.Lawful) : Holds E (Badger.open_ E) Contract.empty where
  closed := rfl
  get _ _ _ _ := by simp [Badger.open_, Contract.empty, hE.get_fresh, Finmap.lookup_empty]
  bound k hk := by simp [Badger.open_, hE.get_fresh] at hk
  named n hn := absurd hn (Finmap.notMem_empty)

theorem Holds.write (hE : E.Lawful) {b : Badger D} {r : Contract} (h : Holds E b r) {db key : Bytes}
    (hdb : validDatabase db = true) (hkey : validKey key = true) (v : Bytes) :
    Holds E { b with data := E.set b.data (dbKey db key) v }
      { r with table := r.table.insert (db, key) v } where
  closed := h.closed
  get db' key' hdb' hkey' := by
    simp only [hE.get_set]
    by_cases hn : (db', key') = (db, key)
    · obtain ⟨rfl, rfl⟩ := Prod.mk.inj hn
      simp [Finmap.lookup_insert]
    · have hk : dbKey db' key' ≠ dbKey db key := fun he => hn (by
        obtain ⟨rfl, rfl⟩ := dbKey_inj hdb' hdb he; rfl)
      simp [hk, Finmap.lookup_insert_of_ne _ hn, h.get _ _ hdb' hkey']
  bound k hk := by
    simp only [hE.get_set] at hk
    by_cases he : k = dbKey db key
    · exact ⟨db, key, hdb, hkey, he⟩
    · simp only [he, if_false] at hk
      exact h.bound k hk
  named n hn := by
    rcases Finmap.mem_insert.1 hn with rfl | hn
    · exact ⟨hdb, hkey⟩
    · exact h.named n hn

theorem Holds.remove (hE : E.Lawful) {b : Badger D} {r : Contract} (h : Holds E b r) {db key : Bytes}
    (hdb : validDatabase db = true) :
    Holds E { b with data := E.delete b.data (dbKey db key) }
      { r with table := r.table.erase (db, key) } where
  closed := h.closed
  get db' key' hdb' hkey' := by
    simp only [hE.get_delete]
    by_cases hn : (db', key') = (db, key)
    · obtain ⟨rfl, rfl⟩ := Prod.mk.inj hn
      simp [Finmap.lookup_erase]
    · have hk : dbKey db' key' ≠ dbKey db key := fun he => hn (by
        obtain ⟨rfl, rfl⟩ := dbKey_inj hdb' hdb he; rfl)
      simp [hk, Finmap.lookup_erase_ne hn, h.get _ _ hdb' hkey']
  bound k hk := by
    simp only [hE.get_delete] at hk
    by_cases he : k = dbKey db key
    · simp [he] at hk
    · simp only [he, if_false] at hk
      exact h.bound k hk
  named n hn := h.named n (Finmap.mem_erase.1 hn).2

theorem Holds.erase_unbound {b : Badger D} {r : Contract} (h : Holds E b r) {n : Name}
    (hn : r.table.lookup n = none) : Holds E b { r with table := r.table.erase n } where
  closed := h.closed
  get db key hdb hkey := by
    rw [h.get _ _ hdb hkey]
    by_cases he : (db, key) = n
    · subst he; rw [hn, Finmap.lookup_erase]
    · rw [Finmap.lookup_erase_ne he]
  bound := h.bound
  named n hn := h.named n (Finmap.mem_erase.1 hn).2

theorem Holds.scan (hE : E.Lawful) {b : Badger D} {r : Contract} (h : Holds E b r) {db : Bytes}
    (hdb : validDatabase db = true) (pfx : Bytes) :
    (E.scan b.data (dbKey db pfx)).map (·.drop (db.length + 1)) = Contract.keysWith r.table db pfx := by
  apply Contract.eq_keysWith
  · -- every engine key visited carries the same database part, so stripping it keeps the order
    rw [List.pairwise_map]
    refine (hE.scan_sorted _ _).imp_of_mem fun ha hb hab => ?_
    obtain ⟨ta, hta⟩ := ((hE.mem_scan _ _ _).1 ha).1
    obtain ⟨tb, htb⟩ := ((hE.mem_scan _ _ _).1 hb).1
    rw [← hta, ← htb, dbKey_append, dbKey_append] at hab ⊢
    rw [drop_dbKey, drop_dbKey]
    exact (dbKey_lt_dbKey db _ _).1 hab
  · intro k
    simp only [List.mem_map, hE.mem_scan]
    constructor
    · rintro ⟨K, ⟨hp, hK⟩, rfl⟩
      obtain ⟨db', key', hdb', hkey', rfl⟩ := h.bound K hK
      obtain ⟨rfl, hpk⟩ := (dbKey_prefix_dbKey hdb hdb').1 hp
      rw [h.get _ _ hdb' hkey', Finmap.lookup_isSome] at hK
      rw [drop_dbKey]
      exact ⟨hK, hpk⟩
    · rintro ⟨hk, hpk⟩
      have hkey := (h.named _ hk).2
      refine ⟨dbKey db k, ⟨(dbKey_prefix_dbKey hdb hdb).2 ⟨rfl, hpk⟩, ?_⟩, drop_dbKey db k⟩
      rw [h.get _ _ hdb hkey, Finmap.lookup_isSome]
      exact hk

theorem Holds.dropDatabase (hE : E.Lawful) {b : Badger D} {r : Contract} (h : Holds E b r) {db : Bytes}
    (hdb : validDatabase db = true) :
    Holds E { b with data := E.dropPrefix b.data (dbKey db []) }
      { r with table := Contract.without r.table (Contract.namesIn r.table db) } where
  closed := h.closed
  get db' key' hdb' hkey' := by
    simp only [hE.get_dropPrefix, dbKey_prefix_dbKey hdb hdb', List.nil_prefix, and_true,
      Contract.lookup_without, Contract.mem_namesIn]
    by_cases he : db = db'
    · subst he
      simp only [true_and, if_true]
      split_ifs with hin
      · rfl
      · exact (Finmap.lookup_eq_none.2 hin).symm
    · simp [he, Ne.symm he, h.get _ _ hdb' hkey']
  bound k hk := by
    simp only [hE.get_dropPrefix] at hk
    split_ifs at hk with hp
    · simp at hk
    · exact h.bound k hk
  named n hn := by
    rw [Finmap.mem_iff] at hn
    obtain ⟨v, hv⟩ := hn
    rw [Contract.lookup_without] at hv
    split_ifs at hv
    exact h.named n (Finmap.mem_of_lookup_eq_some hv)

/-! ## Each data call, against the contract -/

theorem guard_eq (b : Badger D) (db key : Bytes) :
    b.guard db key = match Contract.refusal b.closed db (some key) with
      | some e => .error e
      | none => .ok () := by
  simp only [guard, checkName, Contract.refusal]
  cases validDatabase db <;> cases validKey key <;> cases b.closed <;> rfl

theorem Holds.refusal {b : Badger D} {r : Contract} (h : Holds E b r) (db : Bytes) (key : Option Bytes) :
    Contract.refusal b.closed db key = Contract.refusal r.closed db key := by
  rw [h.closed]

theorem Holds.bump (hE : E.Lawful) {b : Badger D} {r : Contract} (h : Holds E b r) {db key : Bytes}
    (hdb : validDatabase db = true) (hkey : validKey key = true) (cur delta : Int) :
    Answer.counter (Text.wrap64 (cur + delta)) = (r.bump db key cur delta).1 ∧
      Holds E { b with data := E.set b.data (dbKey db key) (Bytes.ofInt (Text.wrap64 (cur + delta))) }
        (r.bump db key cur delta).2 := by
  rw [Text.wrap64_eq_bmod]
  constructor
  · rfl
  · rw [Bytes.ofInt_eq_toString]
    exact h.write hE hdb hkey _

theorem Holds.perform (hE : E.Lawful) {b : Badger D} {r : Contract} (h : Holds E b r) (c : Call)
    (hc : c ≠ .close) :
    (Badger.perform E b c).1 = (r.perform c).1 ∧ Holds E (Badger.perform E b c).2 (r.perform c).2 := by
  cases c with
  | get db key =>
    simp only [Badger.perform, Badger.get, Contract.perform, Contract.checked, guard_eq, h.refusal]
    cases hr : Contract.refusal r.closed db (some key) with
    | some e => exact ⟨rfl, h⟩
    | none =>
      obtain ⟨hdb, hkey, -⟩ := Contract.refusal_eq_none_iff.1 hr
      exact ⟨by simp [Answer.settle, h.get _ _ hdb hkey], h⟩
  | set db key v =>
    simp only [Badger.perform, Badger.set, Contract.perform, Contract.checked, guard_eq, h.refusal]
    cases hr : Contract.refusal r.closed db (some key) with
    | some e => exact ⟨rfl, h⟩
    | none =>
      obtain ⟨hdb, hkey, -⟩ := Contract.refusal_eq_none_iff.1 hr
      exact ⟨rfl, h.write hE hdb hkey v⟩
  | delete db key =>
    simp only [Badger.perform, Badger.delete, Contract.perform, Contract.checked, guard_eq, h.refusal]
    cases hr : Contract.refusal r.closed db (some key) with
    | some e => exact ⟨rfl, h⟩
    | none =>
      obtain ⟨hdb, hkey, -⟩ := Contract.refusal_eq_none_iff.1 hr
      rw [h.get _ _ hdb hkey, ← isSome_lookup]
      -- the engine removes the key only where it finds it
      cases hl : r.table.lookup (db, key) with
      | none => exact ⟨rfl, h.erase_unbound hl⟩
      | some v => exact ⟨rfl, h.remove hE hdb⟩
  | exists_ db key =>
    simp only [Badger.perform, Badger.exists_, Badger.get, Contract.perform, Contract.checked,
      guard_eq, h.refusal]
    cases hr : Contract.refusal r.closed db (some key) with
    | some e => exact ⟨rfl, h⟩
    | none =>
      obtain ⟨hdb, hkey, -⟩ := Contract.refusal_eq_none_iff.1 hr
      exact ⟨by simp [Answer.settle, h.get _ _ hdb hkey, isSome_lookup], h⟩
  | incr db key delta =>
    simp only [Badger.perform, Badger.incr, Contract.perform, Contract.checked, guard_eq, h.refusal]
    cases hr : Contract.refusal r.closed db (some key) with
    | some e => exact ⟨rfl, h⟩
    | none =>
      obtain ⟨hdb, hkey, -⟩ := Contract.refusal_eq_none_iff.1 hr
      rw [h.get _ _ hdb hkey]
      cases Finmap.lookup (db, key) r.table with
      | none => exact h.bump hE hdb hkey 0 delta
      | some raw =>
        dsimp only
        cases Text.parseInt64? raw with
        | some cur => exact h.bump hE hdb hkey cur delta
        | none => exact ⟨rfl, h⟩
  | keys db pfx limit =>
    simp only [Badger.perform, Badger.keys, Contract.perform, Contract.checked, opened_eq, h.refusal]
    cases hr : Contract.refusal r.closed db none with
    | some e => exact ⟨rfl, h⟩
    | none =>
      obtain ⟨hdb, -⟩ := Contract.refusal_none_eq_none_iff.1 hr
      exact ⟨by simp only [Answer.settle, h.scan hE hdb]; rfl, h⟩
  | flush db =>
    simp only [Badger.perform, Badger.flush, Badger.keys, Contract.perform, Contract.checked, opened_eq,
      h.refusal]
    cases hr : Contract.refusal r.closed db none with
    | some e => exact ⟨rfl, h⟩
    | none =>
      obtain ⟨hdb, -⟩ := Contract.refusal_none_eq_none_iff.1 hr
      refine ⟨?_, h.dropDatabase hE hdb⟩
      simp only [gt_iff_lt, lt_self_iff_false, if_false, h.scan hE hdb]
      rw [← Contract.length_keysWith_nil]
      rfl
  | close => exact absurd rfl hc

theorem answers_eq_contract (hE : E.Lawful) {b : Badger D} {r : Contract} (h : Holds E b r)
    (calls : List Call) (hcalls : ∀ c ∈ calls, c ≠ .close) :
    answers (Badger.perform E) b calls = answers Contract.perform r calls :=
  answers_eq_of_step (Holds E) (· ≠ .close) (fun _ _ c hc h => h.perform hE c hc) calls _ _ hcalls h

/-- Over any engine with the documented laws, the engine-backed store and the memory store, both
fresh, answer every sequence of data calls alike: the same values, presence flags, counters, key
lists, counts and errors. -/
theorem answers_memory (E : Engine D) (hE : E.Lawful) (calls : List Call)
    (hcalls : ∀ c ∈ calls, c ≠ .close) :
    answers (Badger.perform E) (Badger.open_ E) calls = answers Memory.perform Memory.empty calls := by
  rw [answers_eq_contract hE (Holds.open_ hE) calls hcalls,
    Memory.answers_eq_contract Memory.Holds.empty calls]

end Badger

/-! ## An engine that has the laws -/

/-- An engine kept as a list of bindings, newest first: a key's value is its first binding. -/
def listEngine : Engine (List (Bytes × Bytes)) where
  fresh := []
  get d k := (d.find? (·.1 == k)).map (·.2)
  set d k v := (k, v) :: d
  delete d k := d.filter (·.1 != k)
  scan d p := Bytes.sort ((d.map (·.1)).dedup.filter p.isPrefixOf)
  dropPrefix d p := d.filter fun e => !p.isPrefixOf e.1

theorem listEngine_lawful : listEngine.Lawful where
  get_fresh _ := rfl
  get_set d k v k' := by
    by_cases hk : k' = k
    · subst hk; simp [listEngine]
    · simp [listEngine, hk, Ne.symm hk]
  get_delete d k k' := by
    simp only [listEngine, List.find?_filter]
    by_cases hk : k' = k
    · subst hk
      simp
    · simp only [hk, if_false]
      congr 2
      funext e
      by_cases he : e.1 = k' <;> simp [he, hk]
  get_dropPrefix d p k := by
    simp only [listEngine, List.find?_filter]
    by_cases hp : p <+: k
    · -- the only bindings of `k` are the dropped ones
      rw [if_pos hp, List.find?_eq_none.2, Option.map_none]
      intro e _ hsel
      simp only [Bool.not_eq_true', decide_eq_true_eq, beq_iff_eq] at hsel
      rw [hsel.2, List.isPrefixOf_iff_prefix.2 hp] at hsel
      exact Bool.false_ne_true hsel.1.symm
    · have hpk : p.isPrefixOf k = false := Bool.eq_false_iff.2 (mt List.isPrefixOf_iff_prefix.1 hp)
      rw [if_neg hp]
      congr 2
      funext e
      by_cases he : e.1 = k
      · simp [he, hpk]
      · simp [he]
  scan_sorted d p := by
    simp only [listEngine, Bytes.sort_eq_mergeSort]
    have hnd : (((d.map (·.1)).dedup.filter p.isPrefixOf).mergeSort fun a b => decide (a ≤ b)).Nodup :=
      (List.mergeSort_perm _ _).nodup_iff.2 ((List.nodup_dedup _).filter _)
    exact ((List.pairwise_mergeSort' _ _).and hnd).imp fun h => Std.lt_of_le_of_ne h.1 h.2
  mem_scan d p k := by
    simp only [listEngine, Bytes.sort_eq_mergeSort, (List.mergeSort_perm _ _).mem_iff,
      List.mem_filter, List.mem_dedup, List.mem_map, List.isPrefixOf_iff_prefix, Option.isSome_map,
      List.find?_isSome, beq_iff_eq]
    constructor
    · rintro ⟨⟨e, he, rfl⟩, hp⟩
      exact ⟨hp, e, he, rfl⟩
    · rintro ⟨hp, e, he, rfl⟩
      exact ⟨⟨e, he, rfl⟩, hp⟩

/-- Over the list engine, the two stores answer writes in two databases, a counter, a listing, a
flush and a removal alike. -/
theorem Badger.answers_memory_over_list :
    listEngine.Lawful ∧
      (∀ c ∈ [Call.set [97] [107] [49], .set [98] [107] [50], .incr [97] [107] 5, .keys [97] [] 0,
          .flush [98], .get [98] [107], .delete [97] [107]], c ≠ .close) ∧
      answers (Badger.perform listEngine) (Badger.open_ listEngine)
          [.set [97] [107] [49], .set [98] [107] [50], .incr [97] [107] 5, .keys [97] [] 0,
            .flush [98], .get [98] [107], .delete [97] [107]] =
        answers Memory.perform Memory.empty
          [.set [97] [107] [49], .set [98] [107] [50], .incr [97] [107] 5, .keys [97] [] 0,
            .flush [98], .get [98] [107], .delete [97] [107]] :=
  ⟨listEngine_lawful, by decide, Badger.answers_memory listEngine listEngine_lawful _ (by decide)⟩

end LineKv.Store
