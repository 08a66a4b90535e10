import Mathlib
import LineKv.Broker

/-!
The broker's two indexes stay in step with its records. Main statement:
`subscriptions_keep_indexes`.
-/

namespace LineKv

/-! ### Lists of entries keyed by name -/

section Lookup

variable {α : Type} (l : List (Bytes × α))

theorem lookup_cons_eq (k m : Bytes) (v : α) :
    ((k, v) :: l).lookup m = if m = k then some v else l.lookup m := by
  by_cases h : m = k
  · subst h
    simp
  · simp [List.lookup_cons, beq_false_of_ne h, h]

theorem lookup_eq_none_of_any {k : Bytes} (hk : l.any (·.1 == k) = false) : l.lookup k = none := by
  rw [← Option.not_isSome_iff_eq_none, List.lookup_isSome_iff]
  rintro ⟨p, hp, hpk⟩
  have : l.any (·.1 == k) = true :=
    List.any_eq_true.2 ⟨p, hp, by rw [beq_iff_eq] at hpk ⊢; exact hpk.symm⟩
  simp [this] at hk

theorem mem_of_lookup {k : Bytes} {v : α} (h : l.lookup k = some v) : (k, v) ∈ l := by
  obtain ⟨l₁, l₂, rfl, -⟩ := List.lookup_eq_some_iff.1 h
  simp

theorem lookup_of_mem {l : List (Bytes × α)} (hk : (l.map (·.1)).Nodup) {k : Bytes} {v : α}
    (h : (k, v) ∈ l) : l.lookup k = some v := by
  induction l with
  | nil => simp at h
  | cons e l ih =>
    obtain ⟨k', v'⟩ := e
    rw [List.map_cons, List.nodup_cons] at hk
    rw [lookup_cons_eq]
    rcases List.mem_cons.1 h with h | h
    · cases h
      simp
    · have hkl : k ∈ l.map (·.1) := List.mem_map_of_mem h
      rw [if_neg fun hkk : k = k' => hk.1 (hkk ▸ hkl)]
      exact ih hk.2 h

theorem lookup_map_update (k m : Bytes) (g : α → α) :
    (l.map fun e => if e.1 == k then (k, g e.2) else e).lookup m =
      if m = k then (l.lookup k).map g else l.lookup m := by
  induction l with
  | nil => simp
  | cons e l ih =>
    obtain ⟨k', v⟩ := e
    rw [List.map_cons]
    dsimp only
    by_cases hk : k' = k
    · subst hk
      rw [if_pos (beq_self_eq_true k'), lookup_cons_eq, ih, lookup_cons_eq, lookup_cons_eq]
      by_cases hm : m = k' <;> simp [hm]
    · rw [if_neg (by simpa using hk), lookup_cons_eq, ih, lookup_cons_eq, lookup_cons_eq,
        if_neg (Ne.symm hk)]
      by_cases hm : m = k'
      · subst hm
        simp [hk]
      · simp [hm]

theorem lookup_filter_ne (k m : Bytes) :
    (l.filter (·.1 != k)).lookup m = if m = k then none else l.lookup m := by
  induction l with
  | nil => simp
  | cons e l ih =>
    obtain ⟨k', v⟩ := e
    by_cases hk : k' = k
    · subst hk
      rw [List.filter_cons_of_neg (by simp), ih, lookup_cons_eq]
      by_cases hm : m = k' <;> simp [hm]
    · rw [List.filter_cons_of_pos (by simpa using hk), lookup_cons_eq, ih, lookup_cons_eq]
      by_cases hm : m = k'
      · subst hm
        simp [hk]
      · simp [hm]

theorem lookup_append_absent {k : Bytes} (hk : l.any (·.1 == k) = false) (v : α) (m : Bytes) :
    (l ++ [(k, v)]).lookup m = if m = k then some v else l.lookup m := by
  rw [List.lookup_append, lookup_cons_eq, List.lookup_nil]
  by_cases hm : m = k
  · subst hm
    simp [lookup_eq_none_of_any l hk]
  · simp [hm]

end Lookup

namespace Index

/-! ### What an index lists under a name -/

@[simp] theorem listed_nil (n : Bytes) : listed [] n = [] := rfl

theorem listed_cons (k n : Bytes) (ids : List Bytes) (ix : Index) :
    listed ((k, ids) :: ix) n = if n = k then ids else listed ix n := by
  rw [listed, lookup_cons_eq]
  split_ifs <;> rfl

theorem listed_eq_nil_or_mem (ix : Index) (n : Bytes) : ix.listed n = [] ∨ (n, ix.listed n) ∈ ix := by
  induction ix with
  | nil => simp
  | cons e ix ih =>
    obtain ⟨k, ids⟩ := e
    rw [listed_cons]
    split_ifs with h
    · subst h
      exact .inr List.mem_cons_self
    · exact ih.imp id (List.mem_cons_of_mem _)

theorem listed_of_mem {ix : Index} (hk : (ix.map (·.1)).Nodup) {n : Bytes} {ids : List Bytes}
    (h : (n, ids) ∈ ix) : ix.listed n = ids := by
  rw [listed, lookup_of_mem hk h]
  rfl

theorem listed_eq_nil_of_any {ix : Index} {n : Bytes} (h : ix.any (·.1 == n) = false) :
    ix.listed n = [] := by
  rw [listed, lookup_eq_none_of_any ix h]
  rfl

theorem any_of_listed_ne_nil {ix : Index} {n : Bytes} (h : ix.listed n ≠ []) :
    ix.any (·.1 == n) = true :=
  Bool.not_eq_false _ ▸ fun hno => h (listed_eq_nil_of_any hno)

/-- Rewriting the lists of the entries named `n` changes what is listed under `n` only, and only
when `n` has an entry. -/
theorem listed_map_update (ix : Index) (n m : Bytes) (f : List Bytes → List Bytes)
    (hn : ix.any (·.1 == n) = true) :
    listed (ix.map fun e => if e.1 == n then (n, f e.2) else e) m =
      if m = n then f (ix.listed n) else ix.listed m := by
  obtain ⟨ids, hids⟩ := Option.isSome_iff_exists.1 (List.lookup_isSome_iff.2 (by
    obtain ⟨e, he, hen⟩ := List.any_eq_true.1 hn
    exact ⟨e, he, by rw [beq_iff_eq] at hen ⊢; exact hen.symm⟩))
  rw [listed, lookup_map_update]
  split_ifs with hm
  · simp [hids, listed]
  · rfl

/-! ### Listing and delisting -/

theorem listed_enlist (ix : Index) (n id m : Bytes) :
    (ix.enlist n id).listed m =
      if m = n ∧ id ∉ ix.listed n then ix.listed n ++ [id] else ix.listed m := by
  unfold enlist
  split_ifs with hany h1 h2
  · rw [listed_map_update ix n m (fun l => if l.contains id then l else l ++ [id]) hany,
      if_pos h1.1]
    simp [h1.2]
  · rw [listed_map_update ix n m (fun l => if l.contains id then l else l ++ [id]) hany]
    by_cases hm : m = n
    · subst hm
      have hid : id ∈ ix.listed m := by simpa using h1
      simp [hid]
    · simp [hm]
  · have hno := Bool.eq_false_iff.2 hany
    rw [listed, lookup_append_absent ix hno, if_pos h2.1, listed_eq_nil_of_any hno]
    rfl
  · have hno := Bool.eq_false_iff.2 hany
    rw [listed, lookup_append_absent ix hno]
    by_cases hm : m = n
    · simp [hm, listed_eq_nil_of_any hno] at h2
    · simp [hm, listed]

theorem mem_listed_enlist {ix : Index} {n id m id' : Bytes} :
    id' ∈ (ix.enlist n id).listed m ↔ id' ∈ ix.listed m ∨ (m = n ∧ id' = id) := by
  rw [listed_enlist]
  split_ifs with h
  · obtain ⟨rfl, -⟩ := h
    simp [or_comm]
  · constructor
    · exact .inl
    · rintro (h' | ⟨rfl, rfl⟩)
      · exact h'
      · exact not_not.1 fun hid => h ⟨rfl, hid⟩

theorem listed_delist (ix : Index) (n id m : Bytes) :
    (ix.delist n id).listed m = if m = n then (ix.listed n).filter (· != id) else ix.listed m := by
  unfold delist
  dsimp only
  split_ifs with hrest hm hm
  · rw [listed, lookup_filter_ne, if_pos hm]
    exact (List.isEmpty_iff.1 hrest).symm
  · rw [listed, lookup_filter_ne, if_neg hm]
    rfl
  · have hany : ix.any (·.1 == n) = true := any_of_listed_ne_nil fun h0 => by simp [h0] at hrest
    rw [listed_map_update ix n m (fun _ => (ix.listed n).filter (· != id)) hany, if_pos hm]
  · have hany : ix.any (·.1 == n) = true := any_of_listed_ne_nil fun h0 => by simp [h0] at hrest
    rw [listed_map_update ix n m (fun _ => (ix.listed n).filter (· != id)) hany, if_neg hm]

theorem mem_listed_delist {ix : Index} {n id m id' : Bytes} :
    id' ∈ (ix.delist n id).listed m ↔ id' ∈ ix.listed m ∧ ¬(m = n ∧ id' = id) := by
  rw [listed_delist]
  split_ifs with hm
  · subst hm
    simp
  · simp [hm]

theorem mem_listed_delistAll (l : List Bytes) (ix : Index) {id m id' : Bytes} :
    id' ∈ listed (l.foldl (fun ix ch => ix.delist ch id) ix) m ↔
      id' ∈ ix.listed m ∧ ¬(m ∈ l ∧ id' = id) := by
  induction l generalizing ix with
  | nil => simp
  | cons c l ih =>
    rw [List.foldl_cons, ih, mem_listed_delist, List.mem_cons]
    tauto

/-! ### Well-formed indexes -/

/-- An index is well formed: one entry per name, and each entry lists somebody, nobody twice. -/
structure WF (ix : Index) : Prop where
  keys : (ix.map (·.1)).Nodup
  full : ∀ e ∈ ix, e.2 ≠ []
  lists : ∀ e ∈ ix, e.2.Nodup

theorem WF.nil : WF [] := ⟨List.nodup_nil, by simp, by simp⟩

theorem WF.listed_nodup {ix : Index} (h : ix.WF) (n : Bytes) : (ix.listed n).Nodup :=
  (listed_eq_nil_or_mem ix n).elim (fun h0 => h0 ▸ List.nodup_nil) (h.lists _)

theorem WF.mem_keys_iff {ix : Index} (h : ix.WF) (n : Bytes) :
    n ∈ ix.map (·.1) ↔ ix.listed n ≠ [] := by
  constructor
  · intro hn
    obtain ⟨⟨k, ids⟩, he, rfl⟩ := List.mem_map.1 hn
    rw [listed_of_mem h.keys he]
    exact h.full _ he
  · intro hn
    exact List.mem_map_of_mem ((listed_eq_nil_or_mem ix n).resolve_left hn)

theorem WF.map_update {ix : Index} {n : Bytes} {f : List Bytes → List Bytes} (h : ix.WF)
    (hf : ∀ e ∈ ix, e.1 = n → f e.2 ≠ [] ∧ (f e.2).Nodup) :
    WF (ix.map fun e => if e.1 == n then (n, f e.2) else e) := by
  have hkeys : (ix.map fun e => if e.1 == n then (n, f e.2) else e).map (·.1) = ix.map (·.1) := by
    rw [List.map_map]
    congr 1
    funext e
    by_cases hn : e.1 = n <;> simp [hn]
  refine ⟨hkeys ▸ h.keys, ?_, ?_⟩ <;>
  · intro e he
    obtain ⟨e', he', rfl⟩ := List.mem_map.1 he
    by_cases hn : e'.1 = n
    · simp only [hn, beq_self_eq_true, if_true]
      first
      | exact (hf e' he' hn).1
      | exact (hf e' he' hn).2
    · simp only [beq_false_of_ne hn, Bool.false_eq_true, if_false]
      first
      | exact h.full e' he'
      | exact h.lists e' he'

theorem WF.enlist {ix : Index} (h : ix.WF) (n id : Bytes) : (ix.enlist n id).WF := by
  unfold Index.enlist
  split_ifs with hany
  · refine h.map_update (f := fun l => if l.contains id then l else l ++ [id]) fun e he _ => ?_
    by_cases hid : id ∈ e.2
    · simp only [List.contains_iff_mem, hid, if_true]
      exact ⟨h.full e he, h.lists e he⟩
    · simp only [List.contains_iff_mem, hid, if_false]
      refine ⟨by simp, List.nodup_append.2 ⟨h.lists e he, List.nodup_singleton _, ?_⟩⟩
      intro a ha b hb hab
      rw [List.mem_singleton] at hb
      exact hid (hb ▸ hab ▸ ha)
  · have hn : n ∉ ix.map (·.1) := fun hn => by
      obtain ⟨e, he, rfl⟩ := List.mem_map.1 hn
      exact hany (List.any_eq_true.2 ⟨e, he, beq_self_eq_true _⟩)
    refine ⟨?_, ?_, ?_⟩
    · rw [List.map_append]
      refine List.nodup_append.2 ⟨h.keys, List.nodup_singleton _, fun a ha b hb => ?_⟩
      simp only [List.map_cons, List.map_nil, List.mem_singleton] at hb
      subst hb
      exact fun hab => hn (hab ▸ ha)
    · intro e he
      rcases List.mem_append.1 he with he | he
      · exact h.full e he
      · simp_all
    · intro e he
      rcases List.mem_append.1 he with he | he
      · exact h.lists e he
      · simp_all

theorem WF.delist {ix : Index} (h : ix.WF) (n id : Bytes) : (ix.delist n id).WF := by
  unfold Index.delist
  dsimp only
  split_ifs with hrest
  · refine ⟨(List.filter_sublist.map _).nodup h.keys, ?_, ?_⟩
    · exact fun e he => h.full e (List.mem_of_mem_filter he)
    · exact fun e he => h.lists e (List.mem_of_mem_filter he)
  · refine h.map_update (f := fun _ => (ix.listed n).filter (· != id))
      fun _ _ _ => ⟨?_, (h.listed_nodup n).filter _⟩
    simpa using hrest

theorem WF.delistAll (l : List Bytes) {ix : Index} (h : ix.WF) (id : Bytes) :
    (l.foldl (fun ix ch => ix.delist ch id) ix).WF := by
  induction l generalizing ix with
  | nil => exact h
  | cons c l ih => exact ih (h.delist c id)

/-! ### Indexes that mirror the records -/

def Mirrors (ix : Index) (holds : Bytes → List Bytes) : Prop := ∀ n id, id ∈ ix.listed n ↔ n ∈ holds id

section Mirrors

variable {ix : Index} {holds holds' : Bytes → List Bytes}

theorem Mirrors.congr (h : ix.Mirrors holds) (h' : ∀ m id', m ∈ holds' id' ↔ m ∈ holds id') :
    ix.Mirrors holds' := fun m id' => by rw [h, h']

theorem Mirrors.enlist {n id : Bytes} (h : ix.Mirrors holds)
    (h' : ∀ m id', m ∈ holds' id' ↔ m ∈ holds id' ∨ (m = n ∧ id' = id)) :
    (ix.enlist n id).Mirrors holds' := fun m id' => by rw [mem_listed_enlist, h, h']

theorem Mirrors.delist {n id : Bytes} (h : ix.Mirrors holds)
    (h' : ∀ m id', m ∈ holds' id' ↔ m ∈ holds id' ∧ ¬(m = n ∧ id' = id)) :
    (ix.delist n id).Mirrors holds' := fun m id' => by rw [mem_listed_delist, h, h']

theorem Mirrors.delistAll {l : List Bytes} {id : Bytes} (h : ix.Mirrors holds)
    (h' : ∀ m id', m ∈ holds' id' ↔ m ∈ holds id' ∧ ¬(m ∈ l ∧ id' = id)) :
    Mirrors (l.foldl (fun ix ch => ix.delist ch id) ix) holds' := fun m id' => by
  rw [mem_listed_delistAll, h, h']

end Mirrors

end Index

/-! ### Records and their two sets -/

namespace Subscriptions

theorem names_setNames (s : Subscriptions) (q q' : Bool) (l : List Bytes) :
    (s.setNames q l).names q' = if q' = q then l else s.names q' := by
  cases q <;> cases q' <;> rfl

@[simp] theorem names_empty (q : Bool) : (⟨[], []⟩ : Subscriptions).names q = [] := by
  cases q <;> rfl

theorem count_eq_names (s : Subscriptions) : s.count = (s.names false).length + (s.names true).length :=
  rfl

theorem count_setNames_append (s : Subscriptions) (q : Bool) (n : Bytes) :
    (s.setNames q (s.names q ++ [n])).count = s.count + 1 := by
  cases q <;> simp [setNames, names, count] <;> omega

/-- A record the broker keeps under a cap: not empty, within the cap when that is positive, and
each name once in each set. -/
structure Fits (s : Subscriptions) (cap : Nat) : Prop where
  pos : 0 < s.count
  capped : 0 < cap → s.count ≤ cap
  nodup : ∀ q, (s.names q).Nodup

end Subscriptions

namespace Broker

/-! ### Steps on the records and the indexes -/

section Parts

variable (b : Broker) (id : Bytes)

theorem record_of_lookup {s : Subscriptions} (h : b.bySub.lookup id = some s) : b.record id = s := by
  simp [record, h]

theorem record_of_lookup_none (h : b.bySub.lookup id = none) : b.record id = ⟨[], []⟩ := by
  simp [record, h]

theorem lookup_isSome_of_pos {b : Broker} {id : Bytes} (h : 0 < (b.record id).count) :
    (b.bySub.lookup id).isSome := by
  cases hl : b.bySub.lookup id with
  | none => simp [record_of_lookup_none b id hl, Subscriptions.count] at h
  | some _ => rfl

theorem ensure_of_isSome {b : Broker} {id : Bytes} (h : (b.bySub.lookup id).isSome) :
    b.ensure id = b := by
  obtain ⟨p, hp, hpid⟩ := List.lookup_isSome_iff.1 h
  rw [ensure, if_pos (List.any_eq_true.2 ⟨p, hp, by rw [beq_iff_eq] at hpid ⊢; exact hpid.symm⟩)]

theorem record_ensure (id' : Bytes) : (b.ensure id).record id' = b.record id' := by
  unfold ensure
  split_ifs with h
  · rfl
  · have hno := Bool.eq_false_iff.2 h
    simp only [record, lookup_append_absent _ hno]
    split_ifs with hm
    · subst hm
      simp [lookup_eq_none_of_any _ hno]
    · rfl

theorem isSome_ensure : ((b.ensure id).bySub.lookup id).isSome := by
  unfold ensure
  split_ifs with h
  · obtain ⟨p, hp, hpid⟩ := List.any_eq_true.1 h
    exact List.lookup_isSome_iff.2 ⟨p, hp, by rw [beq_iff_eq] at hpid ⊢; exact hpid.symm⟩
  · simp [lookup_append_absent _ (Bool.eq_false_iff.2 h)]

theorem keys_ensure (h : (b.bySub.map (·.1)).Nodup) : ((b.ensure id).bySub.map (·.1)).Nodup := by
  unfold ensure
  split_ifs with hany
  · exact h
  · rw [List.map_append]
    refine List.nodup_append.2 ⟨h, List.nodup_singleton _, fun a ha c hc hac => ?_⟩
    simp only [List.map_cons, List.map_nil, List.mem_singleton] at hc
    obtain ⟨e, he, rfl⟩ := List.mem_map.1 ha
    exact hany (List.any_eq_true.2 ⟨e, he, by simp [hac, hc]⟩)

theorem mem_ensure {e : Bytes × Subscriptions} (he : e ∈ (b.ensure id).bySub) :
    e ∈ b.bySub ∨ e = (id, ⟨[], []⟩) := by
  unfold ensure at he
  split_ifs at he
  · exact .inl he
  · simpa using he

theorem record_setRecord {b : Broker} {id : Bytes} (h : (b.bySub.lookup id).isSome)
    (s : Subscriptions) (id' : Bytes) :
    (b.setRecord id s).record id' = if id' = id then s else b.record id' := by
  obtain ⟨s₀, hs₀⟩ := Option.isSome_iff_exists.1 h
  simp only [record, setRecord, lookup_map_update _ id id' (fun _ => s)]
  split_ifs <;> simp [hs₀]

theorem keys_setRecord (s : Subscriptions) : (b.setRecord id s).bySub.map (·.1) = b.bySub.map (·.1) := by
  simp only [setRecord, List.map_map]
  congr 1
  funext e
  by_cases he : e.1 = id <;> simp [he]

theorem mem_setRecord {s : Subscriptions} {e : Bytes × Subscriptions} (he : e ∈ (b.setRecord id s).bySub) :
    (e ∈ b.bySub ∧ e.1 ≠ id) ∨ e = (id, s) := by
  obtain ⟨e', he', rfl⟩ := List.mem_map.1 he
  by_cases hid : e'.1 = id
  · simp [hid]
  · simp [hid, he']

theorem record_forget (id' : Bytes) :
    (b.forget id).record id' = if id' = id then ⟨[], []⟩ else b.record id' := by
  simp only [record, forget, lookup_filter_ne]
  split_ifs <;> rfl

@[simp] theorem index_ensure (q : Bool) : (b.ensure id).index q = b.index q := by
  unfold ensure; split_ifs <;> rfl

@[simp] theorem maxPerSubscriber_ensure : (b.ensure id).maxPerSubscriber = b.maxPerSubscriber := by
  unfold ensure; split_ifs <;> rfl

@[simp] theorem index_setRecord (s : Subscriptions) (q : Bool) : (b.setRecord id s).index q = b.index q :=
  rfl

@[simp] theorem index_forget (q : Bool) : (b.forget id).index q = b.index q := rfl

@[simp] theorem maxPerSubscriber_setRecord (s : Subscriptions) :
    (b.setRecord id s).maxPerSubscriber = b.maxPerSubscriber := rfl

@[simp] theorem maxPerSubscriber_forget : (b.forget id).maxPerSubscriber = b.maxPerSubscriber := rfl

theorem index_setIndex (q q' : Bool) (ix : Index) :
    (b.setIndex q ix).index q' = if q' = q then ix else b.index q' := by
  cases q <;> cases q' <;> rfl

@[simp] theorem bySub_setIndex (q : Bool) (ix : Index) : (b.setIndex q ix).bySub = b.bySub := by
  cases q <;> rfl

@[simp] theorem record_setIndex (q : Bool) (ix : Index) (id' : Bytes) :
    (b.setIndex q ix).record id' = b.record id' := by
  cases q <;> rfl

@[simp] theorem maxPerSubscriber_setIndex (q : Bool) (ix : Index) :
    (b.setIndex q ix).maxPerSubscriber = b.maxPerSubscriber := by
  cases q <;> rfl

end Parts

/-! ### What one call does -/

/-- What `add` does: a name the record holds already, or a record at the cap, leaves the broker as
it was (the record `add` makes first only ever comes to an empty record, which holds nothing and
is under every cap); otherwise the name joins the record and its index. -/
theorem add_eq (b : Broker) (id name : Bytes) (q : Bool) :
    b.add id name q =
      if name ∈ (b.record id).names q then (((b.record id).count, none), b)
      else if 0 < b.maxPerSubscriber ∧ b.maxPerSubscriber ≤ (b.record id).count then
        (((b.record id).count, some .tooMany), b)
      else
        (((b.record id).count + 1, none),
          ((b.ensure id).setRecord id ((b.record id).setNames q ((b.record id).names q ++ [name]))).setIndex
            q ((b.index q).enlist name id)) := by
  unfold add
  simp only [record_ensure, index_ensure, maxPerSubscriber_ensure, List.contains_iff_mem, gt_iff_lt,
    ge_iff_le, Subscriptions.count_setNames_append]
  split_ifs with hdup hcap
  · have hpos : 0 < (b.record id).count := by
      rw [Subscriptions.count_eq_names]
      cases q
      · have := List.length_pos_of_mem hdup; omega
      · have := List.length_pos_of_mem hdup; omega
    rw [ensure_of_isSome (lookup_isSome_of_pos hpos)]
  · rw [ensure_of_isSome (lookup_isSome_of_pos (by omega))]
  · rfl

theorem subscribe_refused (b : Broker) (id channel : Bytes) (h : (b.subscribe id channel).1.2.isSome) :
    (b.subscribe id channel).2 = b := by
  unfold subscribe at h ⊢
  split_ifs at h ⊢
  · rw [add_eq] at h ⊢
    split_ifs at h ⊢ <;> simp_all
  · rfl

theorem psubscribe_refused (b : Broker) (id pattern : Bytes) (h : (b.psubscribe id pattern).1.2.isSome) :
    (b.psubscribe id pattern).2 = b := by
  unfold psubscribe at h ⊢
  split_ifs at h ⊢
  · rfl
  · cases hm : Text.Glob.matches? pattern [] with
    | error e => rfl
    | ok r =>
      simp only [hm] at h ⊢
      rw [add_eq] at h ⊢
      split_ifs at h ⊢ <;> simp_all

/-! ### The invariant -/

/-- What every broker reached by subscription calls satisfies: each index is well formed and lists
a subscriber under a name exactly when the subscriber's record holds that name, each subscriber has
one record, and every record fits the cap. -/
structure Consistent (b : Broker) : Prop where
  wf : ∀ q, (b.index q).WF
  mirrors : ∀ q, (b.index q).Mirrors fun id => (b.record id).names q
  keys : (b.bySub.map (·.1)).Nodup
  records : ∀ e ∈ b.bySub, e.2.Fits b.maxPerSubscriber

namespace Consistent

variable {b : Broker} (h : b.Consistent)
include h

theorem record_nodup (id : Bytes) (q : Bool) : ((b.record id).names q).Nodup := by
  cases hl : b.bySub.lookup id with
  | none =>
    rw [record_of_lookup_none b id hl]
    cases q <;> exact List.nodup_nil
  | some s =>
    rw [record_of_lookup b id hl]
    exact (h.records _ (mem_of_lookup _ hl)).nodup q

theorem count_le (hcap : 0 < b.maxPerSubscriber) (id : Bytes) :
    (b.record id).count ≤ b.maxPerSubscriber := by
  cases hl : b.bySub.lookup id with
  | none =>
    rw [record_of_lookup_none b id hl]
    exact Nat.zero_le _
  | some s =>
    rw [record_of_lookup b id hl]
    exact (h.records _ (mem_of_lookup _ hl)).capped hcap

theorem record_of_mem {e : Bytes × Subscriptions} (he : e ∈ b.bySub) : b.record e.1 = e.2 :=
  record_of_lookup b e.1 (lookup_of_mem h.keys he)

end Consistent

theorem consistent_empty (cap : Nat) : (empty cap).Consistent where
  wf q := by cases q <;> exact Index.WF.nil
  mirrors q n id := by cases q <;> simp [empty, index, record, Subscriptions.names]
  keys := List.nodup_nil
  records := by simp [empty]

theorem Consistent.add {b : Broker} (h : b.Consistent) (id name : Bytes) (q : Bool) :
    (b.add id name q).2.Consistent := by
  rw [add_eq]
  split_ifs with hdup hcap
  · exact h
  · exact h
  -- the name joins the record and the index `q`; nothing else changes
  dsimp only
  set s := b.record id
  set s' := s.setNames q (s.names q ++ [name])
  have hrec : ∀ id', (((b.ensure id).setRecord id s').setIndex q ((b.index q).enlist name id)).record id' =
      if id' = id then s' else b.record id' := by
    intro id'
    rw [record_setIndex, record_setRecord (isSome_ensure b id), record_ensure]
  have hfits : s'.Fits b.maxPerSubscriber := by
    refine ⟨?_, ?_, ?_⟩
    · rw [Subscriptions.count_setNames_append]
      omega
    · intro hpos
      rw [Subscriptions.count_setNames_append]
      omega
    · intro q'
      rw [Subscriptions.names_setNames]
      split_ifs with hq
      · subst hq
        refine List.nodup_append.2 ⟨h.record_nodup id q', List.nodup_singleton _, ?_⟩
        intro a ha c hc hac
        rw [List.mem_singleton] at hc
        exact hdup (hc ▸ hac ▸ ha)
      · exact h.record_nodup id q'
  refine ⟨fun q' => ?_, fun q' => ?_, ?_, ?_⟩
  · rw [index_setIndex]
    split_ifs
    · exact (h.wf q).enlist name id
    · rw [index_setRecord, index_ensure]
      exact h.wf q'
  · rw [index_setIndex]
    split_ifs with hq
    · subst hq
      refine (h.mirrors q').enlist fun m id' => ?_
      rw [hrec]
      split_ifs with hid
      · subst hid
        simp [s', s, Subscriptions.names_setNames]
      · simp [hid]
    · rw [index_setRecord, index_ensure]
      refine (h.mirrors q').congr fun m id' => ?_
      rw [hrec]
      split_ifs with hid
      · subst hid
        simp [s', s, Subscriptions.names_setNames, hq]
      · rfl
  · rw [bySub_setIndex, keys_setRecord]
    exact keys_ensure b id h.keys
  · intro e he
    rw [bySub_setIndex] at he
    rw [maxPerSubscriber_setIndex, maxPerSubscriber_setRecord, maxPerSubscriber_ensure]
    rcases mem_setRecord _ id he with ⟨he, hne⟩ | rfl
    · rcases mem_ensure b id he with he | rfl
      · exact h.records e he
      · exact absurd rfl hne
    · exact hfits

theorem Consistent.subscribe {b : Broker} (h : b.Consistent) (id channel : Bytes) :
    (b.subscribe id channel).2.Consistent := by
  unfold Broker.subscribe
  split_ifs
  · exact h.add id channel false
  · exact h

theorem Consistent.psubscribe {b : Broker} (h : b.Consistent) (id pattern : Bytes) :
    (b.psubscribe id pattern).2.Consistent := by
  unfold Broker.psubscribe
  split_ifs
  · exact h
  · split
    · exact h
    · exact h.add id pattern true

theorem Consistent.unsubscribeAll {b : Broker} (h : b.Consistent) {id : Bytes} {s : Subscriptions}
    (hs : b.bySub.lookup id = some s) :
    ({ b with exact := s.channels.foldl (fun ix ch => ix.delist ch id) b.exact
              patterns := s.patterns.foldl (fun ix p => ix.delist p id) b.patterns } : Broker).forget id
      |>.Consistent := by
  set b' : Broker := { b with exact := s.channels.foldl (fun ix ch => ix.delist ch id) b.exact
                              patterns := s.patterns.foldl (fun ix p => ix.delist p id) b.patterns }
  have hix : ∀ q, b'.index q = (s.names q).foldl (fun ix ch => ix.delist ch id) (b.index q) := by
    intro q
    cases q <;> rfl
  have hrec : ∀ id', (b'.forget id).record id' = if id' = id then ⟨[], []⟩ else b.record id' :=
    record_forget b' id
  refine ⟨fun q => ?_, fun q => ?_, ?_, ?_⟩
  · rw [index_forget, hix]
    exact Index.WF.delistAll _ (h.wf q) id
  · rw [index_forget, hix]
    refine (h.mirrors q).delistAll fun m id' => ?_
    rw [hrec]
    split_ifs with hid
    · subst hid
      simp [record_of_lookup b id' hs]
    · simp [hid]
  · exact (List.filter_sublist.map _).nodup h.keys
  · exact fun e he => h.records e (List.mem_of_mem_filter he)

theorem Consistent.unsubscribeOne {b : Broker} (h : b.Consistent) {id : Bytes} {s : Subscriptions}
    (hs : b.bySub.lookup id = some s) (name : Bytes) :
    let s' : Subscriptions := ⟨s.channels.filter (· != name), s.patterns.filter (· != name)⟩
    let b' : Broker :=
      { b with exact := if s.channels.contains name then b.exact.delist name id else b.exact
               patterns := if s.patterns.contains name then b.patterns.delist name id else b.patterns }
    (if s'.count = 0 then b'.forget id else b'.setRecord id s').Consistent := by
  intro s' b'
  have hnames : ∀ q, s'.names q = (s.names q).filter (· != name) := by
    intro q
    cases q <;> rfl
  have hix : ∀ q, b'.index q =
      if (s.names q).contains name then (b.index q).delist name id else b.index q := by
    intro q
    cases q <;> rfl
  have hfits : s.Fits b.maxPerSubscriber := h.records _ (mem_of_lookup _ hs)
  -- the record view after the call, whether the record is kept or forgotten
  have hrec : ∀ id', (if s'.count = 0 then b'.forget id else b'.setRecord id s').record id' =
      if id' = id then s' else b.record id' := by
    intro id'
    split_ifs with hz hid hid
    · rw [record_forget, if_pos hid]
      simp only [Subscriptions.count, Nat.add_eq_zero_iff, List.length_eq_zero_iff] at hz
      obtain ⟨h1, h2⟩ := hz
      simp only [s'] at h1 h2 ⊢
      rw [h1, h2]
    · rw [record_forget, if_neg hid]
      rfl
    · rw [record_setRecord (by simp [b', hs]) s' id', if_pos hid]
    · rw [record_setRecord (by simp [b', hs]) s' id', if_neg hid]
      rfl
  have hindex : ∀ q, (if s'.count = 0 then b'.forget id else b'.setRecord id s').index q = b'.index q := by
    intro q
    split_ifs <;> rfl
  refine ⟨fun q => ?_, fun q => ?_, ?_, ?_⟩
  · rw [hindex, hix]
    by_cases hin : (s.names q).contains name
    · rw [if_pos hin]
      exact (h.wf q).delist name id
    · rw [if_neg hin]
      exact h.wf q
  · rw [hindex, hix]
    by_cases hin : (s.names q).contains name
    · rw [if_pos hin]
      refine (h.mirrors q).delist fun m id' => ?_
      rw [hrec]
      split_ifs with hid
      · subst hid
        simp [hnames, record_of_lookup b id' hs, and_comm]
      · simp [hid]
    · rw [if_neg hin]
      refine (h.mirrors q).congr fun m id' => ?_
      rw [hrec]
      split_ifs with hid
      · subst hid
        rw [hnames, record_of_lookup b id' hs, List.mem_filter]
        constructor
        · exact fun hm => hm.1
        · intro hm
          refine ⟨hm, bne_iff_ne.2 fun hmn => hin ?_⟩
          simpa [hmn] using hm
      · rfl
  · split_ifs
    · exact (List.filter_sublist.map _).nodup h.keys
    · rw [keys_setRecord]
      exact h.keys
  · split_ifs with hz
    · exact fun e he => h.records e (List.mem_of_mem_filter he)
    · intro e he
      rcases mem_setRecord _ id he with ⟨he, -⟩ | rfl
      · exact h.records e he
      · have hle : s'.count ≤ s.count := by
          simp only [Subscriptions.count, s']
          have := List.length_filter_le (· != name) s.channels
          have := List.length_filter_le (· != name) s.patterns
          omega
        refine ⟨Nat.pos_of_ne_zero hz, fun hcap => hle.trans (hfits.capped hcap), fun q => ?_⟩
        rw [hnames]
        exact (hfits.nodup q).filter _

theorem Consistent.unsubscribe {b : Broker} (h : b.Consistent) (id name : Bytes) :
    (b.unsubscribe id name).2.Consistent := by
  unfold Broker.unsubscribe
  cases hl : b.bySub.lookup id with
  | none => exact h
  | some s =>
    dsimp only
    by_cases hname : name.isEmpty
    · rw [if_pos hname]
      exact h.unsubscribeAll hl
    · rw [if_neg hname]
      exact h.unsubscribeOne hl name

/-! ### Runs of subscription calls -/

/-- A subscription call. -/
inductive Call where
  | subscribe (id channel : Bytes)
  | psubscribe (id pattern : Bytes)
  | unsubscribe (id name : Bytes)
  deriving Repr, DecidableEq

/-- The broker after one call. -/
def step (b : Broker) : Call → Broker
  | .subscribe id channel => (b.subscribe id channel).2
  | .psubscribe id pattern => (b.psubscribe id pattern).2
  | .unsubscribe id name => (b.unsubscribe id name).2

def run (b : Broker) (calls : List Call) : Broker := calls.foldl step b

theorem Consistent.step {b : Broker} (h : b.Consistent) : ∀ c, (b.step c).Consistent
  | .subscribe id channel => h.subscribe id channel
  | .psubscribe id pattern => h.psubscribe id pattern
  | .unsubscribe id name => h.unsubscribe id name

theorem Consistent.run {b : Broker} (h : b.Consistent) (calls : List Call) : (b.run calls).Consistent := by
  induction calls generalizing b with
  | nil => exact h
  | cons c calls ih => exact ih (h.step c)

theorem maxPerSubscriber_add (b : Broker) (id name : Bytes) (q : Bool) :
    (b.add id name q).2.maxPerSubscriber = b.maxPerSubscriber := by
  rw [add_eq]
  split_ifs <;> simp

theorem maxPerSubscriber_step (b : Broker) (c : Call) : (b.step c).maxPerSubscriber = b.maxPerSubscriber := by
  cases c with
  | subscribe id channel =>
    simp only [step, Broker.subscribe]
    split_ifs
    · exact maxPerSubscriber_add b id channel false
    · rfl
  | psubscribe id pattern =>
    simp only [step, Broker.psubscribe]
    split_ifs
    · rfl
    · split
      · rfl
      · exact maxPerSubscriber_add b id pattern true
  | unsubscribe id name =>
    simp only [step, Broker.unsubscribe]
    split
    · rfl
    · split_ifs <;> rfl

theorem maxPerSubscriber_run (b : Broker) (calls : List Call) :
    (b.run calls).maxPerSubscriber = b.maxPerSubscriber := by
  induction calls generalizing b with
  | nil => rfl
  | cons c calls ih => exact (ih (b.step c)).trans (maxPerSubscriber_step b c)

/-! ### What the invariant gives `count` and `stats` -/

theorem Consistent.count_eq_card {b : Broker} (h : b.Consistent) (id : Bytes) :
    b.count id = ((b.record id).names false).toFinset.card + ((b.record id).names true).toFinset.card := by
  rw [count, Subscriptions.count_eq_names, List.toFinset_card_of_nodup (h.record_nodup id false),
    List.toFinset_card_of_nodup (h.record_nodup id true)]

theorem Consistent.length_index {b : Broker} (h : b.Consistent) (q : Bool) :
    (b.index q).length = (b.bySub.flatMap (·.2.names q)).toFinset.card := by
  rw [← List.length_map (f := (·.1)), ← List.toFinset_card_of_nodup (h.wf q).keys]
  congr 1
  ext n
  rw [List.mem_toFinset, List.mem_toFinset, (h.wf q).mem_keys_iff, List.mem_flatMap]
  constructor
  · intro hn
    obtain ⟨id, hid⟩ := List.exists_mem_of_ne_nil _ hn
    rw [h.mirrors q] at hid
    dsimp only at hid
    cases hl : b.bySub.lookup id with
    | none => simp [record_of_lookup_none b id hl] at hid
    | some s => exact ⟨(id, s), mem_of_lookup _ hl, by rwa [record_of_lookup b id hl] at hid⟩
  · rintro ⟨e, he, hn⟩
    have hheld : n ∈ (b.record e.1).names q := by rw [h.record_of_mem he]; exact hn
    have hlisted : e.1 ∈ (b.index q).listed n := (h.mirrors q n e.1).2 hheld
    exact List.ne_nil_of_mem hlisted

theorem Consistent.length_bySub {b : Broker} (h : b.Consistent) :
    b.bySub.length = ((b.bySub.filter (0 < ·.2.count)).map (·.1)).toFinset.card := by
  have hall : b.bySub.filter (0 < ·.2.count) = b.bySub :=
    List.filter_eq_self.2 fun e he => decide_eq_true (h.records e he).pos
  rw [hall, List.toFinset_card_of_nodup h.keys, List.length_map]

/-! ### Main statement -/

/-- Whatever subscription calls a broker with cap `cap` has answered since it was empty, its two
indexes agree with its records: a subscriber is listed under a channel (a pattern) exactly when
its record holds it, no index entry and no record is empty, and no record passes a positive cap.
Hence a subscriber's count is the number of distinct names it holds, and `stats` counts the
distinct channels and patterns that some subscriber holds and the subscribers holding anything.
A refused subscription leaves the broker as it was. -/
theorem subscriptions_keep_indexes (cap : Nat) (calls : List Call) :
    let b := (empty cap).run calls
    (∀ n id, id ∈ b.exact.listed n ↔ n ∈ (b.record id).channels) ∧
      (∀ n id, id ∈ b.patterns.listed n ↔ n ∈ (b.record id).patterns) ∧
      (∀ e ∈ b.exact, e.2 ≠ []) ∧ (∀ e ∈ b.patterns, e.2 ≠ []) ∧ (∀ e ∈ b.bySub, 0 < e.2.count) ∧
      (0 < cap → ∀ id, b.count id ≤ cap) ∧
      (∀ id, b.count id =
        (b.record id).channels.toFinset.card + (b.record id).patterns.toFinset.card) ∧
      b.stats = ((b.bySub.flatMap (·.2.channels)).toFinset.card,
        (b.bySub.flatMap (·.2.patterns)).toFinset.card,
        ((b.bySub.filter (0 < ·.2.count)).map (·.1)).toFinset.card) ∧
      (∀ id channel, (b.subscribe id channel).1.2.isSome → (b.subscribe id channel).2 = b) ∧
      (∀ id pattern, (b.psubscribe id pattern).1.2.isSome → (b.psubscribe id pattern).2 = b) := by
  intro b
  have h : b.Consistent := (consistent_empty cap).run calls
  have hcap : b.maxPerSubscriber = cap := maxPerSubscriber_run _ calls
  have hstats : b.stats = (b.exact.length, b.patterns.length, b.bySub.length) := rfl
  refine ⟨h.mirrors false, h.mirrors true, (h.wf false).full, (h.wf true).full,
    fun e he => (h.records e he).pos, fun hpos id => hcap ▸ h.count_le (hcap ▸ hpos) id,
    h.count_eq_card, ?_, subscribe_refused b, psubscribe_refused b⟩
  rw [hstats, h.length_bySub]
  exact Prod.ext (h.length_index false) (Prod.ext (h.length_index true) rfl)

/-- `a` takes `n` and `s`, `b` takes `n`, then `a` drops `n`: two channels stay listed and both
subscribers keep a record. -/
example : ((empty 2).run [.subscribe [97] [110], .subscribe [97] [115], .subscribe [98] [110],
    .unsubscribe [97] [110]]).stats = (2, 0, 2) := by
  decide

end Broker

end LineKv
