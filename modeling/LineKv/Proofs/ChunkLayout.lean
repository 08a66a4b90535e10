import Mathlib
import LineKv.Transport.ChunkSlice
import LineKv.Proofs.LinkSteps

/-!
The layout of a chunk queue against the list of its chunks: a well-formed layout
(`ChunkSlice.Wf`) stands for the chunk queue of its queued chunks, and every run of operations
reports what the plain list does. Main statement: `Transport.ChunkSlice.runs_as_chunk_lists`.
-/

namespace LineKv.Transport

namespace ChunkQueue

theorem dropBytes_of_length_le {n : Nat} {cs : List Bytes} (hne : ∀ c ∈ cs, c ≠ [])
    (h : cs.flatten.length ≤ n) : dropBytes n cs = [] := by
  induction cs generalizing n with
  | nil => rfl
  | cons c cs ih =>
    have hc : 0 < c.length := List.length_pos_of_ne_nil (hne c List.mem_cons_self)
    simp only [List.flatten_cons, List.length_append] at h
    rw [dropBytes, if_neg (by omega), if_neg (by omega)]
    exact ih (fun c' h' => hne c' (List.mem_cons_of_mem c h')) (by omega)

theorem foldl_push {cs : List Bytes} (hne : ∀ c ∈ cs, c ≠ []) (q : ChunkQueue) :
    cs.foldl push q = ⟨q.chunks ++ cs, q.size + cs.flatten.length⟩ := by
  induction cs generalizing q with
  | nil => simp
  | cons c cs ih =>
    have hc : c.isEmpty = false := by
      simpa [List.isEmpty_iff] using hne c List.mem_cons_self
    rw [List.foldl_cons, ih (fun d hd => hne d (List.mem_cons_of_mem c hd))]
    simp only [push, hc, Bool.false_eq_true, if_false, List.append_assoc, List.cons_append,
      List.nil_append, List.flatten_cons, List.length_append, Nat.cast_add, add_assoc]

theorem consume_of_le {q : ChunkQueue} {n : Nat} (hn : (n : Int) ≤ q.size) :
    q.consume n = ⟨dropBytes n q.chunks, q.size - n⟩ := by
  have hle : ¬ ((n : Int) > q.size) := by omega
  simp only [consume, if_neg hle, Int.toNat_natCast]

theorem pop_cons {q : ChunkQueue} {c : Bytes} {L : List Bytes} (hc : q.chunks = c :: L) :
    q.pop = (c, q.consume c.length) := by
  simp only [pop, hc]

theorem consume_of_gt {q : ChunkQueue} {n : Int} (hn : q.size < n) :
    q.consume n = ⟨dropBytes q.size.toNat q.chunks, 0⟩ := by
  simp only [consume, if_pos hn, sub_self]

theorem dropBytes_length_cons {c : Bytes} (hne : c ≠ []) (L : List Bytes) :
    dropBytes c.length (c :: L) = L := by
  have hlen : 0 < c.length := List.length_pos_of_ne_nil hne
  rw [dropBytes, if_neg (by omega), if_neg (lt_irrefl _), Nat.sub_self]
  cases L <;> rfl

end ChunkQueue

namespace ChunkSlice

variable {q d : ChunkSlice}

/-- The layout's invariant: `head` within the slice, the offset inside the first queued chunk and
0 when none is queued, and no queued chunk empty. -/
structure Wf (q : ChunkSlice) : Prop where
  head_le : q.head ≤ q.slots.length
  off_lt : ∀ c, q.slots[q.head]? = some c → q.off < c.length
  off_zero : q.head = q.slots.length → q.off = 0
  filled : ∀ c ∈ q.slots.drop q.head, c ≠ []

def toQueue (q : ChunkSlice) : ChunkQueue := ⟨q.chunks, q.size⟩

@[simp] theorem toQueue_chunks (q : ChunkSlice) : q.toQueue.chunks = q.chunks := rfl

@[simp] theorem toQueue_size (q : ChunkSlice) : q.toQueue.size = q.size := rfl

theorem wf_empty : empty.Wf :=
  ⟨le_rfl, fun c h => by simp [empty] at h, fun _ => rfl, fun c h => by simp [empty] at h⟩

@[simp] theorem toQueue_empty : empty.toQueue = ChunkQueue.empty := rfl

theorem chunks_of_drop_nil (h : q.slots.drop q.head = []) : q.chunks = [] := by
  simp [chunks, h]

theorem chunks_of_drop_cons {c : Bytes} {cs : List Bytes} (h : q.slots.drop q.head = c :: cs) :
    q.chunks = c.drop q.off :: cs := by
  simp [chunks, h]

theorem getElem?_head_of_drop {c : Bytes} {cs : List Bytes} (h : q.slots.drop q.head = c :: cs) :
    q.slots[q.head]? = some c := by
  rw [← List.head?_drop, h, List.head?_cons]

theorem count_eq (q : ChunkSlice) : q.count = q.chunks.length := by
  rcases h : q.slots.drop q.head with _ | ⟨c, cs⟩
  · rw [chunks_of_drop_nil h, count, ← List.length_drop, h]
  · rw [chunks_of_drop_cons h, count, ← List.length_drop, h]
    rfl

theorem Wf.chunks_ne_nil (hq : q.Wf) : ∀ c ∈ q.chunks, c ≠ [] := by
  rcases h : q.slots.drop q.head with _ | ⟨c, cs⟩
  · simp [chunks_of_drop_nil h]
  · rw [chunks_of_drop_cons h]
    intro x hx
    rcases List.mem_cons.1 hx with rfl | hx
    · have := hq.off_lt c (getElem?_head_of_drop h)
      exact List.ne_nil_of_length_pos (by rw [List.length_drop]; omega)
    · exact hq.filled x (by rw [h]; exact List.mem_cons_of_mem c hx)

/-! ## Reading the front -/

theorem front?_eq (q : ChunkSlice) : q.front? = q.chunks.head? := by
  rcases h : q.slots.drop q.head with _ | ⟨c, cs⟩
  · rw [chunks_of_drop_nil h, front?, ← List.head?_drop, h]
    rfl
  · rw [chunks_of_drop_cons h, front?, getElem?_head_of_drop h]
    rfl

theorem front_eq (q : ChunkSlice) : q.front = q.toQueue.front := by
  rw [front, front?_eq, ChunkQueue.front, List.headD_eq_head?_getD]
  rfl

theorem fill_eq (max : Int) (cs dst : List Bytes) :
    fill max cs dst = dst ++ cs.take (max - dst.length).toNat := by
  induction cs generalizing dst with
  | nil => simp [fill]
  | cons c cs ih =>
    rw [fill]
    split
    · rename_i hlt
      obtain ⟨k, hk⟩ : ∃ k, (max - dst.length).toNat = k + 1 := ⟨(max - dst.length).toNat - 1, by omega⟩
      have hk' : (max - (dst ++ [c]).length).toNat = k := by
        rw [List.length_append, List.length_singleton]
        omega
      rw [ih, hk', hk, List.take_succ_cons, List.append_assoc, List.singleton_append]
    · rename_i hge
      have hk : (max - dst.length).toNat = 0 := by omega
      rw [hk, List.take_zero, List.append_nil]

theorem peek_eq (q : ChunkSlice) (dst : List Bytes) (max : Int) :
    q.peek dst max = dst ++ q.chunks.take (max - dst.length).toNat :=
  fill_eq max q.chunks dst

/-! ## Pushing -/

theorem push_of_isEmpty {p : Bytes} (hp : p.isEmpty = true) : q.push p = q := by
  simp [push, hp]

theorem push_of_ne {p : Bytes} (hp : p.isEmpty = false) :
    q.push p = { q with slots := q.slots ++ [p], size := q.size + p.length } := by
  simp [push, hp]

theorem Wf.drop_append (hq : q.Wf) (ps : List Bytes) :
    (q.slots ++ ps).drop q.head = q.slots.drop q.head ++ ps :=
  List.drop_append_of_le_length hq.head_le

theorem Wf.chunks_push (hq : q.Wf) {p : Bytes} (hp : p.isEmpty = false) :
    (q.push p).chunks = q.chunks ++ [p] := by
  rw [push_of_ne hp]
  rcases h : q.slots.drop q.head with _ | ⟨c, cs⟩
  · -- nothing was queued: `head` is the slice's end, so the offset is 0
    have hend : q.head = q.slots.length := le_antisymm hq.head_le (List.drop_eq_nil_iff.1 h)
    rw [chunks_of_drop_nil h, chunks, hq.drop_append, h, hq.off_zero hend]
    simp
  · rw [chunks_of_drop_cons h, chunks]
    simp only [hq.drop_append, h, List.cons_append]

theorem Wf.push (hq : q.Wf) (p : Bytes) : (q.push p).Wf := by
  cases hp : p.isEmpty
  · rw [push_of_ne hp]
    have hne : p ≠ [] := by simpa [List.isEmpty_iff] using hp
    refine ⟨?_, fun c hc => ?_, fun h => ?_, fun c hc => ?_⟩
    · simp only [List.length_append, List.length_singleton]
      exact Nat.le_succ_of_le hq.head_le
    · rcases Nat.lt_or_ge q.head q.slots.length with hlt | hge
      · rw [List.getElem?_append_left hlt] at hc
        exact hq.off_lt c hc
      · have hend : q.head = q.slots.length := le_antisymm hq.head_le hge
        rw [List.getElem?_append_right hge, hend, Nat.sub_self] at hc
        cases hc
        rw [hq.off_zero hend]
        exact List.length_pos_of_ne_nil hne
    · simp only [List.length_append, List.length_singleton] at h
      exact absurd hq.head_le (by omega)
    · rw [hq.drop_append] at hc
      rcases List.mem_append.1 hc with hc | hc
      · exact hq.filled c hc
      · rw [List.mem_singleton.1 hc]
        exact hne
  · rw [push_of_isEmpty hp]
    exact hq

theorem Wf.toQueue_push (hq : q.Wf) (p : Bytes) : (q.push p).toQueue = q.toQueue.push p := by
  cases hp : p.isEmpty
  · rw [ChunkQueue.push, if_neg (by simp [hp]), toQueue, hq.chunks_push hp, push_of_ne hp]
    rfl
  · rw [push_of_isEmpty hp, ChunkQueue.push, if_pos hp]

/-! ## Consuming -/

theorem drop_succ_of_drop {c : Bytes} {cs : List Bytes} (h : q.slots.drop q.head = c :: cs) :
    q.slots.drop (q.head + 1) = cs := by
  rw [List.drop_add_one_eq_tail_drop, h, List.tail_cons]

theorem head_lt_of_drop {c : Bytes} {cs : List Bytes} (h : q.slots.drop q.head = c :: cs) :
    q.head < q.slots.length := by
  by_contra hge
  rw [List.drop_eq_nil_of_le (by omega)] at h
  cases h

theorem Wf.skip (hq : q.Wf) {c : Bytes} {cs : List Bytes} (h : q.slots.drop q.head = c :: cs) {n : Nat}
    (hn : n < c.length - q.off) : (q.skip n).Wf ∧ (q.skip n).chunks = (c.drop q.off).drop n :: cs := by
  refine ⟨⟨hq.head_le, fun c' hc' => ?_, fun hend => ?_, hq.filled⟩, ?_⟩
  · rw [show (q.skip n).slots = q.slots from rfl, show (q.skip n).head = q.head from rfl,
      getElem?_head_of_drop h] at hc'
    cases hc'
    show q.off + n < c.length
    omega
  · exact absurd hend (Nat.ne_of_lt (head_lt_of_drop h))
  · rw [@chunks_of_drop_cons (q.skip n) c cs h, List.drop_drop]
    rfl

theorem Wf.advance (hq : q.Wf) {c : Bytes} {cs : List Bytes} (h : q.slots.drop q.head = c :: cs) :
    q.advance.Wf ∧ q.advance.slots.drop q.advance.head = cs ∧ q.advance.chunks = cs := by
  have hlt := head_lt_of_drop h
  have hrest : q.advance.slots.drop q.advance.head = cs := by
    show (q.slots.set q.head []).drop (q.head + 1) = cs
    rw [List.drop_set_of_lt (Nat.lt_succ_self _), drop_succ_of_drop h]
  have hfilled : ∀ x ∈ cs, x ≠ [] := fun x hx => hq.filled x (by rw [h]; exact List.mem_cons_of_mem c hx)
  refine ⟨⟨?_, fun x hx => ?_, fun _ => rfl, fun x hx => hfilled x (by rwa [hrest] at hx)⟩, hrest, ?_⟩
  · show q.head + 1 ≤ (q.slots.set q.head []).length
    rw [List.length_set]
    exact hlt
  · rw [← List.head?_drop, hrest] at hx
    exact List.length_pos_of_ne_nil (hfilled x (List.mem_of_mem_head? hx))
  · rcases cs with _ | ⟨c', cs'⟩
    · exact chunks_of_drop_nil hrest
    · rw [chunks_of_drop_cons hrest]
      rfl

/-- The loop drops `n` bytes from the queued chunks and keeps the layout well formed and the count
as it was. It runs over the queued slots, so the induction is on them, for every `n` and layout. -/
theorem consumeLoop_spec (rest : List Bytes) :
    ∀ (n : Nat) (q : ChunkSlice), q.Wf → q.slots.drop q.head = rest →
      (consumeLoop n q rest).1.chunks = ChunkQueue.dropBytes n q.chunks ∧
        (consumeLoop n q rest).1.Wf ∧ (consumeLoop n q rest).1.size = q.size := by
  induction rest with
  | nil =>
    intro n q hq h
    rw [consumeLoop, chunks_of_drop_nil h]
    exact ⟨by cases n <;> rfl, hq, rfl⟩
  | cons c cs ih =>
    intro n q hq h
    rw [consumeLoop]
    split
    · rename_i hn
      subst hn
      exact ⟨by cases q.chunks <;> rfl, hq, rfl⟩
    · rename_i hn
      have hlen : (c.drop q.off).length = c.length - q.off := List.length_drop
      split
      · -- the loop stops inside the first chunk, `n` bytes further in
        rename_i hlt
        obtain ⟨s1, s2⟩ := hq.skip h hlt
        refine ⟨?_, s1, rfl⟩
        rw [s2, chunks_of_drop_cons h, ChunkQueue.dropBytes, if_neg hn, if_pos (by omega)]
      · -- the first chunk is used up: the loop goes on from the next slot
        rename_i hge
        obtain ⟨a1, a2, a3⟩ := hq.advance h
        obtain ⟨h1, h2, h3⟩ := ih (n - (c.length - q.off)) q.advance a1 a2
        refine ⟨?_, h2, h3⟩
        rw [h1, a3, chunks_of_drop_cons h, ChunkQueue.dropBytes, if_neg hn, if_neg (by omega), hlen]

theorem Wf.compact_spec (hq : q.Wf) : q.compact.chunks = q.chunks ∧ q.compact.Wf ∧ q.compact.size = q.size := by
  unfold compact
  split
  · -- the slice is used up: nothing is queued, and the offset is already 0
    rename_i hend
    have hnil : q.slots.drop q.head = [] := List.drop_eq_nil_of_le (by omega)
    refine ⟨?_, ⟨le_rfl, fun c hc => by simp at hc, fun _ => hq.off_zero hend, fun c hc => by simp at hc⟩, rfl⟩
    rw [chunks_of_drop_nil hnil]
    rfl
  · rename_i hend
    split
    · -- the queued slots move to the front of the slice
      refine ⟨?_, ⟨Nat.zero_le _, fun c hc => ?_, fun h => ?_, fun c hc => ?_⟩, rfl⟩
      · simp only [chunks, List.drop_zero]
      · simp only [List.getElem?_drop, Nat.add_zero] at hc
        exact hq.off_lt c hc
      · simp only [List.length_drop] at h
        exact absurd hq.head_le (by omega)
      · simp only [List.drop_zero] at hc
        exact hq.filled c hc
    · exact ⟨rfl, hq, rfl⟩

theorem Wf.consume_spec (hq : q.Wf) (n : Int) :
    (q.consume n).toQueue = q.toQueue.consume n ∧ (q.consume n).Wf := by
  dsimp only [consume]
  generalize hm : (if n > q.size then q.size else n) = m
  let q₁ : ChunkSlice := { q with size := q.size - m }
  have hq₁ : q₁.Wf := ⟨hq.head_le, hq.off_lt, hq.off_zero, hq.filled⟩
  obtain ⟨h1, h2, h3⟩ := consumeLoop_spec _ m.toNat q₁ hq₁ rfl
  have hview : ChunkQueue.consume q.toQueue n = ⟨ChunkQueue.dropBytes m.toNat q.chunks, q.size - m⟩ := by
    rw [← hm]
    rfl
  rw [hview]
  split
  · exact ⟨by rw [toQueue, h1, h3]; rfl, h2⟩
  · obtain ⟨c1, c2, c3⟩ := h2.compact_spec
    exact ⟨by rw [toQueue, c1, c3, h1, h3]; rfl, c2⟩

/-! ## Popping and moving -/

theorem Wf.pop_spec (hq : q.Wf) :
    q.pop.1 = q.toQueue.pop.1 ∧ q.pop.2.toQueue = q.toQueue.pop.2 ∧ q.pop.2.Wf := by
  rcases h : q.chunks with _ | ⟨c, cs⟩
  · have hf : q.front? = none := by rw [front?_eq, h]; rfl
    simp only [pop, hf, ChunkQueue.pop, toQueue_chunks, h, true_and]
    exact hq
  · have hf : q.front? = some c := by rw [front?_eq, h]; rfl
    obtain ⟨c1, c2⟩ := hq.consume_spec c.length
    rw [ChunkQueue.pop_cons (by rw [toQueue_chunks, h])]
    simp only [pop, hf, true_and]
    exact ⟨c1, c2⟩

/-- The move loop, given one round per queued chunk of a counted layout, moves them all in order
and leaves the layout empty. Induction on the queued chunks, for every layout and destination. -/
theorem moveLoop_spec (L : List Bytes) :
    ∀ q d : ChunkSlice, q.Wf → d.Wf → q.chunks = L → q.size = L.flatten.length →
      (moveLoop L.length q d).1.toQueue = ChunkQueue.empty ∧
        (moveLoop L.length q d).2.toQueue = ⟨d.chunks ++ L, d.size + L.flatten.length⟩ ∧
        (moveLoop L.length q d).1.Wf ∧ (moveLoop L.length q d).2.Wf := by
  induction L with
  | nil =>
    intro q d hq hd hc hs
    simp only [List.flatten_nil, List.length_nil, Nat.cast_zero] at hs ⊢
    rw [moveLoop]
    refine ⟨?_, by simp [toQueue], hq, hd⟩
    rw [toQueue, hc, hs]
    rfl
  | cons c L ih =>
    intro q d hq hd hc hs
    have hne : c ≠ [] := hq.chunks_ne_nil c (by rw [hc]; exact List.mem_cons_self)
    have hlen : 0 < c.length := List.length_pos_of_ne_nil hne
    have hpos : q.size > 0 := by
      rw [hs, List.flatten_cons, List.length_append]
      omega
    obtain ⟨p1, p2, p3⟩ := hq.pop_spec
    -- the pop takes the whole first chunk, leaving the rest counted
    have hpop1 : q.pop.1 = c := by rw [p1, ChunkQueue.pop, toQueue_chunks, hc]
    have hpop2 : q.pop.2.toQueue = ⟨L, L.flatten.length⟩ := by
      have hsize : q.size = c.length + L.flatten.length := by
        rw [hs, List.flatten_cons, List.length_append, Nat.cast_add]
      rw [p2, ChunkQueue.pop_cons (by rw [toQueue_chunks, hc]), ChunkQueue.consume_of_le (by simp; omega),
        toQueue_chunks, hc, ChunkQueue.dropBytes_length_cons hne, toQueue_size, hsize]
      simp only [add_sub_cancel_left]
    have hd' : (d.push c).toQueue = ⟨d.chunks ++ [c], d.size + c.length⟩ := by
      have hc' : c.isEmpty = false := by simpa [List.isEmpty_iff] using hne
      rw [hd.toQueue_push, ChunkQueue.push, if_neg (by simp [hc'])]
      rfl
    obtain ⟨r1, r2, r3, r4⟩ := ih q.pop.2 (d.push c) p3 (hd.push c)
      (congrArg ChunkQueue.chunks hpop2) (congrArg ChunkQueue.size hpop2)
    rw [List.length_cons, moveLoop, if_pos hpos, hpop1]
    refine ⟨r1, ?_, r3, r4⟩
    rw [r2, show (d.push c).chunks = (d.push c).toQueue.chunks from rfl,
      show (d.push c).size = (d.push c).toQueue.size from rfl, hd']
    simp only [List.append_assoc, List.singleton_append, List.flatten_cons, List.length_append,
      Nat.cast_add, add_assoc]

theorem Wf.moveTo_spec (hq : q.Wf) (hd : d.Wf) (hc : q.toQueue.Counted) :
    (q.moveTo d).1.toQueue = (q.toQueue.moveTo d.toQueue).1 ∧
      (q.moveTo d).2.toQueue = (q.toQueue.moveTo d.toQueue).2 ∧ (q.moveTo d).1.Wf ∧ (q.moveTo d).2.Wf := by
  obtain ⟨r1, r2, r3, r4⟩ := moveLoop_spec q.chunks q d hq hd rfl hc
  rw [moveTo, count_eq]
  refine ⟨r1, ?_, r3, r4⟩
  rw [r2, ChunkQueue.moveTo, toQueue_chunks, ChunkQueue.foldl_push hq.chunks_ne_nil]
  rfl

/-! ## Runs against the list of chunks -/

variable {L M : List Bytes}

/-- A layout holds the chunk list `L`: it is well formed, queues exactly `L`, and counts its bytes. -/
structure Holds (q : ChunkSlice) (L : List Bytes) : Prop where
  wf : q.Wf
  chunks_eq : q.chunks = L
  size_eq : q.size = L.flatten.length

theorem holds_empty : empty.Holds [] := ⟨wf_empty, rfl, rfl⟩

theorem holds_of_toQueue (hw : q.Wf) (h : q.toQueue = ⟨L, L.flatten.length⟩) : q.Holds L :=
  ⟨hw, congrArg ChunkQueue.chunks h, congrArg ChunkQueue.size h⟩

theorem Holds.toQueue_eq (h : q.Holds L) : q.toQueue = ⟨L, L.flatten.length⟩ := by
  rw [toQueue, h.chunks_eq, h.size_eq]

theorem Holds.ne_nil (h : q.Holds L) : ∀ c ∈ L, c ≠ [] := h.chunks_eq ▸ h.wf.chunks_ne_nil

theorem Holds.gauge (h : q.Holds L) : q.gauge = ((L.flatten.length : Int), L.length) := by
  rw [ChunkSlice.gauge, len, count_eq, h.chunks_eq, h.size_eq]

theorem Holds.push (h : q.Holds L) (p : Bytes) : (q.push p).Holds (if p = [] then L else L ++ [p]) := by
  refine holds_of_toQueue (h.wf.push p) ?_
  rw [h.wf.toQueue_push, h.toQueue_eq, ChunkQueue.push]
  by_cases hp : p = []
  · simp [hp]
  · simp [hp, List.isEmpty_iff]

theorem Holds.consume (h : q.Holds L) {n : Int} (hn : 0 ≤ n) :
    (q.consume n).Holds (ChunkQueue.dropBytes n.toNat L) := by
  obtain ⟨k, rfl⟩ := Int.eq_ofNat_of_zero_le hn
  refine holds_of_toQueue (h.wf.consume_spec _).2 ?_
  rw [(h.wf.consume_spec _).1, h.toQueue_eq, Int.toNat_natCast]
  by_cases hk : k ≤ L.flatten.length
  · -- within the count: exactly `k` bytes go, chunk by chunk
    rw [ChunkQueue.consume_of_le (show (k : Int) ≤ (L.flatten.length : Int) by omega)]
    simp only [ChunkQueue.mk.injEq, true_and]
    rw [ChunkQueue.flatten_dropBytes, List.length_drop]
    omega
  · -- past the count: everything goes
    rw [ChunkQueue.consume_of_gt (show (L.flatten.length : Int) < (k : Int) by omega), Int.toNat_natCast,
      ChunkQueue.dropBytes_of_length_le h.ne_nil le_rfl, ChunkQueue.dropBytes_of_length_le h.ne_nil (by omega)]
    rfl

theorem Holds.pop (h : q.Holds L) : q.pop.1 = L.headD [] ∧ q.pop.2.Holds L.tail := by
  obtain ⟨p1, p2, p3⟩ := h.wf.pop_spec
  rcases hL : L with _ | ⟨c, L'⟩
  · have hq : q.toQueue.chunks = [] := by rw [toQueue_chunks, h.chunks_eq, hL]
    refine ⟨by rw [p1, ChunkQueue.pop, hq]; rfl, holds_of_toQueue p3 ?_⟩
    rw [p2, ChunkQueue.pop, hq, h.toQueue_eq, hL]
    rfl
  · have hq : q.toQueue.chunks = c :: L' := by rw [toQueue_chunks, h.chunks_eq, hL]
    have hne : c ≠ [] := h.ne_nil c (by rw [hL]; exact List.mem_cons_self)
    have hsize : q.toQueue.size = c.length + L'.flatten.length := by
      rw [toQueue_size, h.size_eq, hL, List.flatten_cons, List.length_append, Nat.cast_add]
    refine ⟨by rw [p1, ChunkQueue.pop_cons hq]; rfl, holds_of_toQueue p3 ?_⟩
    rw [p2, ChunkQueue.pop_cons hq, ChunkQueue.consume_of_le (by omega), hq,
      ChunkQueue.dropBytes_length_cons hne, hsize]
    simp only [add_sub_cancel_left, List.tail_cons]

theorem Holds.front (h : q.Holds L) : q.front = L.headD [] := by
  rw [front_eq, ChunkQueue.front, toQueue_chunks, h.chunks_eq]

theorem Holds.peek (h : q.Holds L) (dst : List Bytes) (max : Int) :
    q.peek dst max = dst ++ L.take (max - dst.length).toNat := by
  rw [peek_eq, h.chunks_eq]

theorem Holds.moveTo (h : q.Holds L) (hd : d.Holds M) :
    (q.moveTo d).1.Holds [] ∧ (q.moveTo d).2.Holds (M ++ L) := by
  have hc : q.toQueue.Counted := by
    unfold ChunkQueue.Counted ChunkQueue.bytes
    rw [toQueue_chunks, toQueue_size, h.chunks_eq, h.size_eq]
  obtain ⟨m1, m2, m3, m4⟩ := h.wf.moveTo_spec hd.wf hc
  refine ⟨holds_of_toQueue m3 (by rw [m1]; rfl), holds_of_toQueue m4 ?_⟩
  rw [m2, ChunkQueue.moveTo, toQueue_chunks, h.chunks_eq, ChunkQueue.foldl_push h.ne_nil, hd.toQueue_eq]
  simp only [List.flatten_append, List.length_append, Nat.cast_add]

theorem holds_reset (q : ChunkSlice) : q.reset.Holds [] := holds_empty

end ChunkSlice

open ChunkSlice

/-- What an operation is meant to do to the chunk lists of the queue and of the queue `moveTo`
moves into, and what it reads: the list semantics the layout is held to. -/
def ChunkOp.expect : ChunkOp → List Bytes × List Bytes → ChunkRead × List Bytes × List Bytes
  | .push p, (L, M) => (.nothing, if p = [] then L else L ++ [p], M)
  | .consume n, (L, M) => (.nothing, ChunkQueue.dropBytes n.toNat L, M)
  | .pop, (L, M) => (.chunk (L.headD []), L.tail, M)
  | .front, (L, M) => (.chunk (L.headD []), L, M)
  | .peek dst max, (L, M) => (.chunks (dst ++ L.take (max - dst.length).toNat), L, M)
  | .moveTo, (L, M) => (.nothing, [], M ++ L)
  | .reset, (_, M) => (.nothing, [], M)

def listGauge (L : List Bytes) : Int × Nat := ((L.flatten.length : Int), L.length)

/-- What each operation of a run reads, with the gauges of both queues after it. -/
def ChunkOp.reports : List ChunkOp → ChunkSlice × ChunkSlice → List (ChunkRead × (Int × Nat) × (Int × Nat))
  | [], _ => []
  | op :: ops, s => ((op.apply s).1, (op.apply s).2.1.gauge, (op.apply s).2.2.gauge) :: reports ops (op.apply s).2

/-- The same reports by the list semantics. -/
def ChunkOp.expectedReports : List ChunkOp → List Bytes × List Bytes → List (ChunkRead × (Int × Nat) × (Int × Nat))
  | [], _ => []
  | op :: ops, t =>
    ((op.expect t).1, listGauge (op.expect t).2.1, listGauge (op.expect t).2.2) :: expectedReports ops (op.expect t).2

def ChunkOp.runAll (ops : List ChunkOp) (s : ChunkSlice × ChunkSlice) : ChunkSlice × ChunkSlice :=
  ops.foldl (fun s op => (op.apply s).2) s

def ChunkOp.expectAll (ops : List ChunkOp) (t : List Bytes × List Bytes) : List Bytes × List Bytes :=
  ops.foldl (fun t op => (op.expect t).2) t

/-- A run of `ops` from the layouts `s` reports what the list semantics from `t` does, and ends
with layouts holding the lists it ends with. -/
structure ChunkOp.RunsAs (ops : List ChunkOp) (s : ChunkSlice × ChunkSlice) (t : List Bytes × List Bytes) :
    Prop where
  reports : ChunkOp.reports ops s = ChunkOp.expectedReports ops t
  queue : (ChunkOp.runAll ops s).1.Holds (ChunkOp.expectAll ops t).1
  dest : (ChunkOp.runAll ops s).2.Holds (ChunkOp.expectAll ops t).2

namespace ChunkSlice

variable {q d : ChunkSlice} {L M : List Bytes}

theorem Holds.apply {op : ChunkOp} (hop : ∀ n, op = .consume n → 0 ≤ n) (hq : q.Holds L) (hd : d.Holds M) :
    (op.apply (q, d)).1 = (op.expect (L, M)).1 ∧ (op.apply (q, d)).2.1.Holds (op.expect (L, M)).2.1 ∧
      (op.apply (q, d)).2.2.Holds (op.expect (L, M)).2.2 := by
  cases op with
  | push p => exact ⟨rfl, hq.push p, hd⟩
  | consume n => exact ⟨rfl, hq.consume (hop n rfl), hd⟩
  | pop => exact ⟨congrArg ChunkRead.chunk hq.pop.1, hq.pop.2, hd⟩
  | front => exact ⟨congrArg ChunkRead.chunk hq.front, hq, hd⟩
  | peek dst max => exact ⟨congrArg ChunkRead.chunks (hq.peek dst max), hq, hd⟩
  | moveTo => exact ⟨rfl, (hq.moveTo hd).1, (hq.moveTo hd).2⟩
  | reset => exact ⟨rfl, holds_reset q, hd⟩

theorem Holds.runsAs (ops : List ChunkOp) (hops : ∀ n, ChunkOp.consume n ∈ ops → 0 ≤ n) :
    ∀ {q d : ChunkSlice} {L M : List Bytes}, q.Holds L → d.Holds M → ChunkOp.RunsAs ops (q, d) (L, M) := by
  induction ops with
  | nil => exact fun hq hd => ⟨rfl, hq, hd⟩
  | cons op ops ih =>
    intro q d L M hq hd
    obtain ⟨r1, r2, r3⟩ := hq.apply (fun n h => hops n (h ▸ List.mem_cons_self)) hd
    have hrest := ih (fun n h => hops n (List.mem_cons_of_mem op h)) r2 r3
    refine ⟨?_, hrest.queue, hrest.dest⟩
    rw [ChunkOp.reports, ChunkOp.expectedReports, r1, r2.gauge, r3.gauge, hrest.reports]
    rfl

/-- The chunk queue behaves as the list of its chunks: from layouts holding any chunk lists, every
run of operations that consumes no negative amount reports what the list semantics does (the
length is the bytes held and the chunk count their number, front and pop give the oldest chunk's
unconsumed part, a peek fills the caller's list up to `max`, a consume drops bytes from the front,
a move appends every chunk to the other queue in order and empties this one) and ends holding the
lists it ends with; and compaction never changes what a well-formed layout holds. -/
theorem runs_as_chunk_lists (ops : List ChunkOp) (hops : ∀ n, ChunkOp.consume n ∈ ops → 0 ≤ n)
    (hq : q.Holds L) (hd : d.Holds M) :
    ChunkOp.RunsAs ops (q, d) (L, M) ∧ ∀ r : ChunkSlice, r.Wf → r.compact.toQueue = r.toQueue ∧ r.compact.Wf :=
  ⟨Holds.runsAs ops hops hq hd, fun r hr => by
    obtain ⟨c1, c2, c3⟩ := hr.compact_spec
    exact ⟨by rw [toQueue, c1, c3]; rfl, c2⟩⟩

/-- The partial-consume example: two chunks and an empty one pushed, three bytes consumed, a peek,
five more consumed, the front read, the rest moved. -/
def partialConsume : List ChunkOp :=
  [.push (Bytes.ofString "hello "), .push (Bytes.ofString "world"), .push [], .consume 3, .peek [] 8, .consume 5,
    .front, .moveTo]

theorem runs_as_chunk_lists_on_partial_consume :
    (∀ n, ChunkOp.consume n ∈ partialConsume → 0 ≤ n) ∧ empty.Holds [] ∧ empty.Holds [] ∧
      (ChunkOp.RunsAs partialConsume (empty, empty) ([], []) ∧
        ∀ r : ChunkSlice, r.Wf → r.compact.toQueue = r.toQueue ∧ r.compact.Wf) :=
  have hops : ∀ n, ChunkOp.consume n ∈ partialConsume → 0 ≤ n := by
    intro n hn
    simp only [partialConsume, List.mem_cons, ChunkOp.consume.injEq, List.not_mem_nil, reduceCtorEq,
      false_or, or_false] at hn
    omega
  ⟨hops, holds_empty, holds_empty, runs_as_chunk_lists _ hops holds_empty holds_empty⟩

/-- A peek counts the chunks already in the caller's list against `max`, and a negative consume
raises the count while dropping nothing. -/
theorem peek_counts_dst_and_negative_consume_overcounts :
    (empty.push [97]).peek [[120]] 1 = [[120]] ∧
      ((empty.push [97, 98]).consume (-3)).chunks = [[97, 98]] ∧ ((empty.push [97, 98]).consume (-3)).len = 5 := by
  decide

end ChunkSlice

end LineKv.Transport
