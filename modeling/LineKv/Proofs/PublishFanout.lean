import Mathlib
import LineKv.Proofs.BrokerIndexes
import LineKv.Proofs.StoreContract

/-!
What a publication delivers. Main statement: `Broker.publish_fans_out`.
-/

namespace LineKv

namespace Text.Glob

def hits (pattern name : Bytes) : Bool := (matches? pattern name).toOption == some true

theorem hits_nil (name : Bytes) : hits [] name = name.isEmpty := by
  cases name <;> simp [hits, matches?, matchFuel, Except.toOption]

end Text.Glob

namespace Delivery

def Precedes (x y : Delivery) : Prop :=
  x.recipient < y.recipient ∨ x.recipient = y.recipient ∧ x.pattern < y.pattern

def key (d : Delivery) : Bytes × Bytes := (d.recipient, d.pattern)

theorem before_iff (x y : Delivery) : Broker.before x y = true ↔ Precedes x y := by
  simp [Broker.before, Precedes, Bytes.lt_eq_true_iff]

theorem precedes_irrefl (x : Delivery) : ¬ Precedes x x := by
  rintro (h | ⟨-, h⟩) <;> exact List.lt_irrefl _ h

theorem precedes_trans {x y z : Delivery} (h₁ : Precedes x y) (h₂ : Precedes y z) : Precedes x z := by
  rcases h₁ with h₁ | ⟨e₁, h₁⟩ <;> rcases h₂ with h₂ | ⟨e₂, h₂⟩
  · exact .inl (List.lt_trans h₁ h₂)
  · exact .inl (e₂ ▸ h₁)
  · exact .inl (e₁ ▸ h₂)
  · exact .inr ⟨e₁.trans e₂, List.lt_trans h₁ h₂⟩

theorem precedes_of_key_ne {x y : Delivery} (h : x.key ≠ y.key) : Precedes x y ∨ Precedes y x := by
  rcases Std.lt_trichotomy x.recipient y.recipient with hr | hr | hr
  · exact .inl (.inl hr)
  · rcases Std.lt_trichotomy x.pattern y.pattern with hp | hp | hp
    · exact .inl (.inr ⟨hr, hp⟩)
    · exact absurd (Prod.ext hr hp) h
    · exact .inr (.inr ⟨hr.symm, hp⟩)
  · exact .inr (.inl hr)

theorem precedes_of_key_eq {x y z : Delivery} (h : x.key = y.key) (hz : Precedes z x) : Precedes z y := by
  obtain ⟨hr, hp⟩ := Prod.ext_iff.1 h
  simp only [key] at hr hp
  rcases hz with hz | ⟨e, hz⟩
  · exact .inl (hr ▸ hz)
  · exact .inr ⟨e.trans hr, hp ▸ hz⟩

theorem not_precedes_trans {x y z : Delivery} (h₁ : ¬ Precedes y x) (h₂ : ¬ Precedes z y) :
    ¬ Precedes z x := by
  intro hzx
  by_cases hk : x.key = y.key
  · exact h₂ (precedes_of_key_eq hk hzx)
  · have hxy : Precedes x y := (precedes_of_key_ne hk).resolve_right h₁
    exact h₂ (precedes_trans hzx hxy)

theorem precedes_asymm {x y : Delivery} (h : Precedes x y) : ¬ Precedes y x :=
  fun h' => precedes_irrefl x (precedes_trans h h')

end Delivery

namespace Broker

open Text.Glob

theorem sorted_deliveries (l : List Delivery) :
    (l.mergeSort fun x y => !before y x).Pairwise fun x y => ¬ Delivery.Precedes y x := by
  have hle : ∀ x y : Delivery, (!before y x) = true ↔ ¬ Delivery.Precedes y x := by
    intro x y
    rw [Bool.not_eq_true', ← Bool.not_eq_true, Delivery.before_iff]
  refine (List.pairwise_mergeSort ?_ ?_ l).imp fun hxy => (hle _ _).1 hxy
  · intro a b c hab hbc
    exact (hle a c).2 (Delivery.not_precedes_trans ((hle a b).1 hab) ((hle b c).1 hbc))
  · intro a b
    rw [Bool.or_eq_true, hle, hle, ← not_and_or]
    exact fun ⟨hba, hab⟩ => Delivery.precedes_asymm hab hba

theorem validName_eq_false_iff (n : Bytes) :
    validName n = false ↔ n = [] ∨ ∃ x ∈ n, x = 32 ∨ x = 9 ∨ x = 13 ∨ x = 10 := by
  simp only [validName, Bool.and_eq_false_iff, Bool.not_eq_false', List.isEmpty_iff, List.any_eq_true,
    Bool.or_eq_true, beq_iff_eq, or_assoc]

theorem Consistent.mem_exact {b : Broker} (hb : b.Consistent) (n id : Bytes) :
    id ∈ b.exact.listed n ↔ n ∈ (b.record id).channels :=
  hb.mirrors false n id

theorem Consistent.mem_patterns {b : Broker} (hb : b.Consistent) (n id : Bytes) :
    id ∈ b.patterns.listed n ↔ n ∈ (b.record id).patterns :=
  hb.mirrors true n id

/-- The deliveries before they are sorted: the channel's subscribers, then the subscribers of each
pattern that matches it. -/
def gathered (b : Broker) (ch m : Bytes) : List Delivery :=
  (b.exact.listed ch).map (fun id => ⟨id, ch, [], m⟩) ++
    b.patterns.flatMap fun e => if hits e.1 ch then e.2.map fun id => ⟨id, ch, e.1, m⟩ else []

theorem deliveries_eq (b : Broker) (ch m : Bytes) :
    b.deliveries ch m = (b.gathered ch m).mergeSort fun x y => !before y x := rfl

theorem pattern_of_mem_matched {q ch m : Bytes} {ids : List Bytes} {k : Bytes × Bytes}
    (h : k ∈ (if hits q ch then ids.map fun id => (⟨id, ch, q, m⟩ : Delivery) else []).map Delivery.key) :
    k.2 = q ∧ hits q ch = true := by
  split at h
  · obtain ⟨id, -, rfl⟩ := List.mem_map.1 (List.map_map ▸ h)
    exact ⟨rfl, ‹_›⟩
  · simp at h

section Gathered

variable {b : Broker} (hb : b.Consistent) (ch m : Bytes)
include hb

theorem mem_gathered (d : Delivery) :
    d ∈ b.gathered ch m ↔ d.channel = ch ∧ d.message = m ∧
      (d.pattern = [] ∧ ch ∈ (b.record d.recipient).channels ∨
        d.pattern ∈ (b.record d.recipient).patterns ∧ hits d.pattern ch = true) := by
  obtain ⟨r, c, p, msg⟩ := d
  simp only [gathered, List.mem_append, List.mem_map, List.mem_flatMap]
  constructor
  · rintro (⟨id, hid, he⟩ | ⟨⟨q, ids⟩, he, hd⟩)
    · cases he
      exact ⟨rfl, rfl, .inl ⟨rfl, (hb.mem_exact ch r).1 hid⟩⟩
    · split at hd
      · obtain ⟨id, hid, he'⟩ := List.mem_map.1 hd
        cases he'
        have hl : b.patterns.listed q = ids := Index.listed_of_mem (hb.wf true).keys he
        exact ⟨rfl, rfl, .inr ⟨(hb.mem_patterns q r).1 (hl ▸ hid), ‹_›⟩⟩
      · simp at hd
  · rintro ⟨rfl, rfl, ⟨rfl, hr⟩ | ⟨hp, hh⟩⟩
    · exact .inl ⟨r, (hb.mem_exact c r).2 hr, rfl⟩
    · have hl := (hb.mem_patterns p r).2 hp
      refine .inr ⟨(p, b.patterns.listed p), ?_, ?_⟩
      · exact (Index.listed_eq_nil_or_mem _ p).resolve_left (List.ne_nil_of_mem hl)
      · simp [hh, hl]

theorem gathered_keys_nodup (hch : ch ≠ []) : ((b.gathered ch m).map Delivery.key).Nodup := by
  rw [gathered, List.map_append, List.nodup_append]
  refine ⟨?_, ?_, ?_⟩
  · rw [List.map_map]
    exact ((hb.wf false).listed_nodup ch).map fun x y h => by simpa [Delivery.key] using h
  · rw [List.map_flatMap]
    refine List.nodup_flatMap.2 ⟨fun e he => ?_, ?_⟩
    · split
      · rw [List.map_map]
        exact ((hb.wf true).lists e he).map fun x y h => by simpa [Delivery.key] using h
      · exact List.nodup_nil
    · have hk := (hb.wf true).keys
      rw [List.Nodup, List.pairwise_map] at hk
      refine hk.imp fun hne k hk hk' => hne ?_
      exact (pattern_of_mem_matched hk).1.symm.trans (pattern_of_mem_matched hk').1
  · -- the channel's own deliveries have the empty pattern, which matches no channel
    intro k hk k' hk' he
    rw [List.map_map] at hk
    obtain ⟨id, -, rfl⟩ := List.mem_map.1 hk
    obtain ⟨e, -, he'⟩ := List.mem_flatMap.1 (List.map_flatMap ▸ hk')
    obtain ⟨hq, hh⟩ := pattern_of_mem_matched he'
    subst he
    rw [← hq] at hh
    simp [Delivery.key, hits_nil, hch] at hh

end Gathered

def Matching (b : Broker) (ch : Bytes) (k : Bytes × Bytes) : Prop :=
  k.2 = [] ∧ ch ∈ (b.record k.1).channels ∨ k.2 ∈ (b.record k.1).patterns ∧ hits k.2 ch = true

/-- Each record's matching subscriptions, record by record. -/
def matchingPairs (b : Broker) (ch : Bytes) : List (Bytes × Bytes) :=
  b.bySub.flatMap fun e =>
    (if ch ∈ e.2.channels then [(e.1, [])] else []) ++ (e.2.patterns.filter (hits · ch)).map (e.1, ·)

/-- What publishing `m` on `ch` hands out: one delivery for each matching subscription, in strictly
ascending order of subscriber, then pattern, as many as the records hold matching subscriptions. -/
structure Fanned (b : Broker) (ch m : Bytes) (ds : List Delivery) : Prop where
  mem : ∀ d, d ∈ ds ↔ d.channel = ch ∧ d.message = m ∧ b.Matching ch d.key
  ascending : ds.Pairwise Delivery.Precedes
  count : ds.length = (b.bySub.map fun e =>
    (if ch ∈ e.2.channels then 1 else 0) + (e.2.patterns.filter (hits · ch)).length).sum

theorem length_matchingPairs (b : Broker) (ch : Bytes) : (b.matchingPairs ch).length = (b.bySub.map fun e =>
    (if ch ∈ e.2.channels then 1 else 0) + (e.2.patterns.filter (hits · ch)).length).sum := by
  rw [matchingPairs, List.length_flatMap]
  congr 1
  refine List.map_congr_left fun e _ => ?_
  split <;> simp [Nat.add_comm]

section Count

variable {b : Broker} (hb : b.Consistent) (ch : Bytes)
include hb

theorem mem_matchingPairs (k : Bytes × Bytes) : k ∈ b.matchingPairs ch ↔ b.Matching ch k := by
  obtain ⟨r, p⟩ := k
  simp only [matchingPairs, List.mem_flatMap, List.mem_append, List.mem_map, List.mem_filter, Matching]
  constructor
  · rintro ⟨e, he, hk | ⟨q, ⟨hq, hh⟩, hk⟩⟩
    · split at hk
      · obtain ⟨rfl, rfl⟩ := Prod.ext_iff.1 (List.mem_singleton.1 hk)
        exact .inl ⟨rfl, hb.record_of_mem he ▸ ‹_›⟩
      · simp at hk
    · cases hk
      exact .inr ⟨hb.record_of_mem he ▸ hq, hh⟩
  · -- a subscriber holding something has a record, and it is the one `record` reads
    have hrec : ∀ {n}, n ∈ (b.record r).channels ∨ n ∈ (b.record r).patterns →
        ∃ e ∈ b.bySub, e.1 = r ∧ e.2 = b.record r := by
      intro n hn
      have hpos : 0 < (b.record r).count := by
        rcases hn with hn | hn <;> simp only [Subscriptions.count] <;>
          have := List.length_pos_of_mem hn <;> omega
      obtain ⟨s, hs⟩ := Option.isSome_iff_exists.1 (lookup_isSome_of_pos hpos)
      exact ⟨(r, s), mem_of_lookup _ hs, rfl, (record_of_lookup b r hs).symm⟩
    rintro (⟨rfl, hc⟩ | ⟨hp, hh⟩)
    · obtain ⟨e, he, rfl, hs⟩ := hrec (.inl hc)
      exact ⟨e, he, .inl (by rw [if_pos (hs ▸ hc)]; exact List.mem_singleton_self _)⟩
    · obtain ⟨e, he, rfl, hs⟩ := hrec (.inr hp)
      exact ⟨e, he, .inr ⟨p, ⟨hs ▸ hp, hh⟩, rfl⟩⟩

theorem matchingPairs_nodup (hch : ch ≠ []) : (b.matchingPairs ch).Nodup := by
  refine List.nodup_flatMap.2 ⟨fun e he => ?_, ?_⟩
  · have hnd : e.2.patterns.Nodup := by
      simpa [Subscriptions.names] using (hb.records e he).nodup true
    refine List.nodup_append.2 ⟨?_, ((hnd.filter _).map fun x y h => (Prod.ext_iff.1 h).2), ?_⟩
    · split <;> simp
    · -- a matching pattern is not empty, as the channel is not
      intro k hk k' hk' he'
      split at hk
      · obtain ⟨q, hq, rfl⟩ := List.mem_map.1 hk'
        cases List.mem_singleton.1 hk
        cases he'
        simp [hits_nil, hch] at hq
      · simp at hk
  · have hk := hb.keys
    rw [List.Nodup, List.pairwise_map] at hk
    refine hk.imp fun hne k h₁ h₂ => hne ?_
    -- every pair a record contributes is under its subscriber
    have hfst : ∀ e : Bytes × Subscriptions, ∀ k ∈ ((if ch ∈ e.2.channels then [(e.1, [])] else []) ++
        (e.2.patterns.filter (hits · ch)).map (e.1, ·)), k.1 = e.1 := by
      intro e k hk
      rcases List.mem_append.1 hk with hk | hk
      · split at hk
        · rw [List.mem_singleton.1 hk]
        · simp at hk
      · obtain ⟨q, -, rfl⟩ := List.mem_map.1 hk
        rfl
    exact (hfst _ k h₁).symm.trans (hfst _ k h₂)

end Count

theorem Consistent.fanned {b : Broker} (hb : b.Consistent) (ch m : Bytes) (hch : ch ≠ []) :
    b.Fanned ch m (b.deliveries ch m) := by
  have hperm := List.mergeSort_perm (b.gathered ch m) fun x y => !before y x
  have hmem : ∀ d, d ∈ b.deliveries ch m ↔ d.channel = ch ∧ d.message = m ∧ b.Matching ch d.key := by
    intro d
    rw [deliveries_eq, hperm.mem_iff]
    exact mem_gathered hb ch m d
  have hkeys : ((b.deliveries ch m).map Delivery.key).Nodup := by
    rw [deliveries_eq]
    exact (hperm.map _).nodup_iff.2 (gathered_keys_nodup hb ch m hch)
  refine ⟨hmem, ?_, ?_⟩
  · have hne := hkeys
    rw [List.Nodup, List.pairwise_map] at hne
    rw [deliveries_eq] at hne ⊢
    exact (sorted_deliveries _ |>.and hne).imp fun ⟨hle, hk⟩ =>
      (Delivery.precedes_of_key_ne hk).resolve_right hle
  · -- the keys handed out are exactly the matching subscriptions, each once
    have hp : ((b.deliveries ch m).map Delivery.key).Perm (b.matchingPairs ch) := by
      refine (List.perm_ext_iff_of_nodup hkeys (matchingPairs_nodup hb ch hch)).2 fun k => ?_
      rw [mem_matchingPairs hb ch k, List.mem_map]
      constructor
      · rintro ⟨d, hd, rfl⟩
        exact ((hmem d).1 hd).2.2
      · intro hk
        exact ⟨⟨k.1, ch, k.2, m⟩, (hmem _).2 ⟨rfl, rfl, hk⟩, rfl⟩
    rw [← List.length_map (f := Delivery.key), hp.length_eq, length_matchingPairs b ch]

/-- Whatever subscription calls a broker has answered since it was empty, publishing `m` on `ch`
fails with the invalid-channel error exactly when `ch` is empty or holds a space, tab, CR or LF,
and otherwise hands out one delivery for each matching subscription, in strictly ascending order
of subscriber, then pattern, as many as the subscribers hold matching subscriptions. -/
theorem publish_fans_out (cap : Nat) (calls : List Call) (ch m : Bytes) :
    let b := (empty cap).run calls
    (b.publish ch m = .error (.invalidChannel ch) ↔
        ch = [] ∨ ∃ x ∈ ch, x = 32 ∨ x = 9 ∨ x = 13 ∨ x = 10) ∧
      (b.publish ch m = .error (.invalidChannel ch) ∨
        ∃ ds, b.publish ch m = .ok ds ∧ b.Fanned ch m ds) := by
  intro b
  have hb : b.Consistent := (consistent_empty cap).run calls
  rw [← validName_eq_false_iff]
  unfold publish
  cases hv : validName ch
  · exact ⟨by simp, .inl rfl⟩
  · have hch : ch ≠ [] := by
      rintro rfl
      simp [validName] at hv
    exact ⟨by simp, .inr ⟨_, rfl, hb.fanned ch m hch⟩⟩

end Broker

end LineKv
