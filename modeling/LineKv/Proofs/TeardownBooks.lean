import Mathlib
import LineKv.Server.Stats
import LineKv.Proofs.LinkSteps
import LineKv.Proofs.NodeMeasures
import LineKv.Proofs.TickTurns

/-!
The loop's books on connections torn down, over every run (`Reachable.teardownBooks`): the
teardown list, the counts, the connection map beside the order, what a reap removes and gives
back, and what a refused chain leaves.
-/

namespace LineKv.Transport

end LineKv.Transport

namespace LineKv.Server

open Command Transport

namespace Node

def deadIds (s : Node) : List Bytes := (s.conns.filter (·.dead)).map (·.id)

def teardownView (s : Node) : List (Bytes × Bool) × List Bytes × List Bytes × Nat × Nat :=
  (s.conns.map fun c => (c.id, c.dead), s.culled, s.index, s.counters.accepted, s.counters.closed)

/-- The loop's books on connections: their ids, the connection map, the counts accepted and
closed, and whether the teardown list holds the dead connections, each once, when no two
connections share an id. -/
def books (s : Node) : (List Bytes × List Bytes × Nat × Nat) × Prop :=
  ((s.conns.map (·.id), s.index, s.counters.accepted, s.counters.closed),
    (s.conns.map (·.id)).Nodup → s.culled.Perm s.deadIds)

theorem map_modifyConn {β : Type} (s : Node) (id : Bytes) {f : Connection → Connection}
    (g : Connection → β) (hg : ∀ c, g (f c) = g c) :
    (s.modifyConn id f).conns.map g = s.conns.map g := by
  simp only [modifyConn, List.map_map]
  apply List.map_congr_left
  intro c _
  by_cases h : c.id = id <;> simp [h, hg]

theorem deadIds_eq (s : Node) :
    s.deadIds = ((s.conns.map fun c => (c.id, c.dead)).filter (·.2)).map (·.1) := by
  simp only [deadIds, List.filter_map, List.map_map]
  rfl

theorem ids_of_teardownView {s t : Node} (h : t.teardownView = s.teardownView) :
    t.conns.map (·.id) = s.conns.map (·.id) := by
  have h1 := congrArg (List.map (·.1)) (congrArg Prod.fst h)
  simp only [teardownView, List.map_map] at h1
  exact h1

theorem books_of_teardownView {s t : Node} (h : t.teardownView = s.teardownView) :
    t.books = s.books := by
  have hids := ids_of_teardownView h
  simp only [teardownView, Prod.mk.injEq] at h
  obtain ⟨hc, hl, hi, ha, hd⟩ := h
  simp only [books, hids, hi, ha, hd, hl, deadIds_eq, hc]

theorem keepsLink_teardownView : KeepsLink teardownView where
  modifyConn s id f hid hdead := by
    simp only [teardownView, map_modifyConn s id (fun c => (c.id, c.dead)) fun c => by rw [hid, hdead]]
    rfl
  setPipe _ _ _ := rfl
  posted _ _ := rfl
  counters s n ha hc := by simp [teardownView, ha, hc]
  services _ _ := rfl
  pool _ _ _ _ _ := rfl
  parked _ _ := rfl
  draining _ _ := rfl

theorem map_modify_of_not_mem {xs : List Connection} {id : Bytes} {f : Connection → Connection}
    (h : id ∉ xs.map (·.id)) : (xs.map fun y => if y.id == id then f y else y) = xs := by
  conv => rhs; rw [← List.map_id xs]
  refine List.map_congr_left fun y hy => ?_
  have hne : y.id ≠ id := fun he => h (he ▸ List.mem_map_of_mem hy)
  simp [hne]

/-- Tearing down the one connection with a given id adds that id to the dead ones. -/
theorem deadIds_kill {cs : List Connection} {id : Bytes} {f : Connection → Connection}
    (hf : ∀ c, (f c).id = c.id ∧ (f c).dead = true) (hu : (cs.map (·.id)).Nodup) {c : Connection}
    (hc : c ∈ cs) (hcid : c.id = id) (hlive : c.dead = false) :
    (((cs.map fun x => if x.id == id then f x else x).filter (·.dead)).map (·.id)).Perm
      (id :: (cs.filter (·.dead)).map (·.id)) := by
  induction cs with
  | nil => cases hc
  | cons x xs ih =>
    rw [List.map_cons, List.nodup_cons] at hu
    by_cases hx : x.id = id
    · -- the connection torn down is the first one, and no other has its id
      have hcx : c = x := by
        rcases List.mem_cons.1 hc with h | h
        · exact h
        · exact absurd (hx ▸ hcid ▸ List.mem_map_of_mem h) hu.1
      subst hcx
      rw [List.map_cons, map_modify_of_not_mem (hcid ▸ hu.1)]
      simp [hcid, (hf c).1, (hf c).2, hlive]
    · have hcxs : c ∈ xs := by
        rcases List.mem_cons.1 hc with h | h
        · exact absurd (h ▸ hcid) hx
        · exact h
      have hperm := ih hu.2 hcxs
      cases hd : x.dead
      · simpa [hx, hd] using hperm
      · simpa [hx, hd] using (hperm.cons x.id).trans (List.Perm.swap id x.id _)

/-- Marking a live connection dead, running its link, and listing its id keeps the books. -/
theorem books_kill (s : Node) {id : Bytes} {c : Connection} (hc : s.conn? id = some c)
    (hlive : c.dead = false) {f : Connection → Connection}
    (hf : ∀ x, (f x).id = x.id ∧ (f x).dead = true) (op : Link → WireM (Unit × Link)) :
    ({ ((s.modifyConn id f).onLink id op).2 with
        culled := ((s.modifyConn id f).onLink id op).2.culled ++ [id] } : Node).books = s.books := by
  have hv := keepsLink_teardownView.onLink (s.modifyConn id f) id op
  generalize ((s.modifyConn id f).onLink id op).2 = t at hv ⊢
  have hids : t.conns.map (·.id) = s.conns.map (·.id) :=
    (ids_of_teardownView hv).trans (map_modifyConn s id _ fun x => (hf x).1)
  simp only [teardownView, Prod.mk.injEq] at hv
  obtain ⟨hc', hl, hi, ha, hd⟩ := hv
  have hdead : t.deadIds = (s.modifyConn id f).deadIds := by
    rw [deadIds_eq, deadIds_eq, hc']
  have hmem : c ∈ s.conns ∧ c.id = id :=
    ⟨List.mem_of_find?_eq_some hc, by simpa using List.find?_some hc⟩
  simp only [books, Prod.mk.injEq]
  refine ⟨⟨hids, hi, ha, hd⟩, propext (imp_congr_ctx ?_ fun hu => ?_)⟩
  · rw [hids]
  · -- the id joins the teardown list as it joins the dead ones
    have hk : (s.modifyConn id f).deadIds.Perm (id :: s.deadIds) :=
      deadIds_kill hf hu hmem.1 hmem.2 hlive
    change (t.culled ++ [id]).Perm t.deadIds ↔ _
    rw [hl, hdead]
    calc (s.culled ++ [id]).Perm (s.modifyConn id f).deadIds
        ↔ (id :: s.culled).Perm (id :: s.deadIds) :=
          ⟨fun h => (List.perm_append_singleton id s.culled).symm.trans (h.trans hk),
            fun h => (List.perm_append_singleton id s.culled).trans (h.trans hk.symm)⟩
      _ ↔ s.culled.Perm s.deadIds := List.perm_cons id

theorem books_cull (s : Node) (id reason : Bytes) : (s.cull id reason).books = s.books := by
  rcases cull_cases s id reason with ⟨h, -⟩ | ⟨c, hc, hlive, h⟩ <;> rw [h]
  refine books_kill s hc hlive (fun _ => ?_) _
  exact ⟨rfl, rfl⟩

theorem keeps_books : Keeps books where
  toKeepsLink := keepsLink_teardownView.of_congr fun _ _ h => books_of_teardownView h
  cull := books_cull

/-! ## The books of a node -/

/-- The teardown list holds exactly the dead connections, every connection accepted has been
closed or is present, and the connection map holds the ids in the order. -/
structure Books (s : Node) : Prop where
  listed : s.culled.Perm s.deadIds
  counted : s.counters.accepted = s.counters.closed + s.conns.length
  indexed : s.index.Perm (s.conns.map (·.id))

theorem Books.of_teardownView {s t : Node} (hs : s.Books) (h : t.teardownView = s.teardownView) :
    t.Books := by
  have hids := ids_of_teardownView h
  simp only [teardownView, Prod.mk.injEq] at h
  obtain ⟨hc, hl, hi, ha, hd⟩ := h
  have hlen : t.conns.length = s.conns.length := by
    simpa using congrArg List.length hc
  refine ⟨?_, by rw [ha, hd, hlen]; exact hs.counted, by rw [hi, hids]; exact hs.indexed⟩
  rw [hl, deadIds_eq, hc, ← deadIds_eq]
  exact hs.listed

theorem Books.of_books {s t : Node} (hs : s.Books) (h : t.books = s.books)
    (hu : (t.conns.map (·.id)).Nodup) : t.Books := by
  simp only [books, Prod.mk.injEq] at h
  obtain ⟨⟨hids, hi, ha, hc⟩, hp⟩ := h
  have hlen : t.conns.length = s.conns.length := by
    simpa using congrArg List.length hids
  exact ⟨Eq.mpr hp (fun _ => hs.listed) hu, by rw [ha, hc, hlen]; exact hs.counted,
    by rw [hi, hids]; exact hs.indexed⟩

theorem Books.start (config : Config) (dispatcher : Dispatcher Builtin) (services : Services)
    (draws : Draws) (pool : Option WorkerPool) (now : Int) :
    (Node.start config dispatcher services draws pool now).Books :=
  ⟨List.Perm.refl _, rfl, List.Perm.refl _⟩

theorem Books.accept {s : Node} (hs : s.Books) {c : Connection} (hc : c.dead = false) {p : Pipe}
    (hu : ((s.accept c p).conns.map (·.id)).Nodup) : (s.accept c p).Books := by
  rw [conns_accept, List.map_append, List.map_singleton] at hu
  have hnew : c.id ∉ s.index := fun hm =>
    List.disjoint_of_nodup_append hu (hs.indexed.subset hm) (List.mem_singleton_self _)
  refine ⟨by simpa [deadIds, Node.accept, Node.setPipe, hc] using hs.listed, ?_, ?_⟩
  · simp only [Node.accept, Node.setPipe, List.length_append, List.length_singleton]
    rw [hs.counted]
    omega
  · simp only [Node.accept, Node.setPipe, List.insert_of_not_mem hnew, List.map_append, List.map_singleton]
    exact (hs.indexed.cons c.id).trans (List.perm_append_singleton c.id _).symm

theorem Books.readable_deliver {s : Node} (hs : s.Books) (pipe : Nat) (signals : List Signal) (id : Bytes) :
    ((s.deliver pipe signals).readable id).Books :=
  hs.of_teardownView ((keepsLink_teardownView.readable ..).trans (keepsLink_teardownView.deliver ..))

/-- Attaching keeps the books: a refused chain changes none of them, and an accepted one is counted
and added to the order and the map, once no two connections share an id. -/
theorem Books.attach {s : Node} (hs : s.Books) (layers : List LayerSpec) (pipe : Nat)
    (remote listener : Bytes) (release : Option Nat)
    (hu : ((s.attach layers pipe remote listener release).2.conns.map (·.id)).Nodup) :
    (s.attach layers pipe remote listener release).2.Books := by
  rcases attach_cases s layers pipe remote listener release with
    ⟨-, h⟩ | ⟨-, e, h⟩ | ⟨-, link, wire, -, h⟩ <;> rw [h] at hu ⊢
  · exact hs.of_teardownView (keepsLink_teardownView.refuse (fun _ _ => rfl) ..)
  · exact hs.of_teardownView ((keepsLink_teardownView.refuse (fun _ _ => rfl) ..).trans rfl)
  · rw [ids_eq_of_lineup (lineup_readable_deliver ..)] at hu
    have hs' : ({ s with sessions := s.sessions + 1 } : Node).Books := ⟨hs.listed, hs.counted, hs.indexed⟩
    exact (hs'.accept rfl hu).readable_deliver ..

/-! ## Reaping -/

/-- The clean-up run when a connection is removed: it leaves the channels it subscribed to and
stops being one of the monitor's sinks. -/
def closeHook (id : Bytes) (sv : Services) : Services :=
  { sv with
    broker := sv.broker.map fun b => (b.unsubscribe id []).2
    monitor := sv.monitor.map (·.remove id) }

/-- One removal: the connection's queue dropped, its id out of the map, its acceptor slot given
back, its close hook run, and one more closed. -/
def reapOne (s : Node) (id : Bytes) : Node :=
  let t := { s.modifyQueue id (·.discard) with
    index := s.index.erase id
    released := s.released ++ ((s.conn? id).bind (·.release)).toList }
  let t := t.modifyServices (closeHook id)
  { t with counters := { t.counters with closed := t.counters.closed + 1 } }

theorem reap_eq (s : Node) :
    s.reap = if s.culled.isEmpty then s else
      { s.culled.foldl reapOne s with
        culled := []
        conns := (s.culled.foldl reapOne s).conns.filter (!·.dead)
        retired := (s.culled.foldl reapOne s).retired ++ (s.culled.foldl reapOne s).conns.filter (·.dead) } :=
  rfl

theorem discard_discard (q : Queue) : q.discard.discard = q.discard := rfl

theorem release_modifyConn (s : Node) (id : Bytes) {f : Connection → Connection}
    (hid : ∀ c, (f c).id = c.id) (hrel : ∀ c, (f c).release = c.release) (k : Bytes) :
    ((s.modifyConn id f).conn? k).bind (·.release) = (s.conn? k).bind (·.release) := by
  simp only [conn?, modifyConn, List.find?_map]
  have hp : ((fun c : Connection => c.id == k) ∘ fun c => if c.id == id then f c else c) =
      fun c => c.id == k := by
    funext c
    by_cases h : c.id = id <;> simp [h, hid]
  rw [hp]
  cases s.conns.find? (·.id == k) with
  | none => rfl
  | some c => by_cases h : c.id = id <;> simp [h, hrel]

theorem foldl_reapOne (l : List Bytes) (s : Node) :
    (l.foldl reapOne s).conns =
        s.conns.map (fun c => if c.id ∈ l then { c with queue := c.queue.discard } else c) ∧
      (l.foldl reapOne s).services = l.foldl (fun sv id => closeHook id sv) s.services ∧
      (l.foldl reapOne s).counters = { s.counters with closed := s.counters.closed + l.length } ∧
      (l.foldl reapOne s).index = s.index.diff l ∧
      (l.foldl reapOne s).released =
        s.released ++ l.flatMap (fun id => ((s.conn? id).bind (·.release)).toList) ∧
      (l.foldl reapOne s).retired = s.retired ∧ (l.foldl reapOne s).sessions = s.sessions ∧
      (l.foldl reapOne s).draws = s.draws := by
  induction l generalizing s with
  | nil => simp
  | cons id l ih =>
    obtain ⟨hc, hsv, hn, hi, hrel, hr, hss, hd⟩ := ih (reapOne s id)
    have hslot : ∀ k, ((reapOne s id).conn? k).bind (·.release) = (s.conn? k).bind (·.release) :=
      release_modifyConn s id (fun _ => rfl) (fun _ => rfl)
    refine ⟨?_, hsv, ?_, ?_, ?_, hr, hss, hd⟩
    · rw [List.foldl_cons, hc]
      simp only [reapOne, modifyServices, modifyQueue, modifyConn, List.map_map]
      apply List.map_congr_left
      intro c _
      by_cases h : c.id = id <;> by_cases hl : c.id ∈ l <;> simp [h, hl, discard_discard]
    · rw [List.foldl_cons, hn]
      simp only [reapOne, modifyServices, modifyQueue, modifyConn, List.length_cons]
      congr 1
      omega
    · rw [List.foldl_cons, hi, List.diff_cons]
      rfl
    · rw [List.foldl_cons, hrel, List.flatMap_cons, ← List.append_assoc]
      simp only [hslot]
      rfl

theorem filter_map_comm {g : Connection → Connection} {p : Connection → Bool}
    (hp : ∀ c, p (g c) = p c) (l : List Connection) : (l.map g).filter p = (l.filter p).map g := by
  rw [List.filter_map, show p ∘ g = p from funext hp]

theorem conn?_eq_some_iff {s : Node} (hu : (s.conns.map (·.id)).Nodup) {id : Bytes}
    {c : Connection} : s.conn? id = some c ↔ c ∈ s.conns ∧ c.id = id := by
  unfold conn?
  constructor
  · intro h
    exact ⟨List.mem_of_find?_eq_some h, by simpa using List.find?_some h⟩
  · rintro ⟨hc, rfl⟩
    obtain ⟨c', hc'⟩ : ∃ c', s.conns.find? (·.id == c.id) = some c' :=
      Option.isSome_iff_exists.1 (List.find?_isSome.2 ⟨c, hc, by simp⟩)
    have hid : c'.id = c.id := by simpa using List.find?_some hc'
    rw [hc', List.inj_on_of_nodup_map hu (List.mem_of_find?_eq_some hc') hc hid]

theorem mem_culled_iff {s : Node} (hb : s.Books) (hu : (s.conns.map (·.id)).Nodup) {c : Connection}
    (hc : c ∈ s.conns) : c.id ∈ s.culled ↔ c.dead = true := by
  rw [hb.listed.mem_iff, deadIds, List.mem_map]
  constructor
  · rintro ⟨d, hd, hid⟩
    rw [List.mem_filter] at hd
    have hdc : d = c := List.inj_on_of_nodup_map hu hd.1 hc hid
    exact hdc ▸ hd.2
  · intro hdead
    exact ⟨c, List.mem_filter.2 ⟨hc, hdead⟩, rfl⟩

theorem index_diff_culled {s : Node} (hb : s.Books) (hu : (s.conns.map (·.id)).Nodup) :
    (s.index.diff s.culled).Perm ((s.conns.filter (!·.dead)).map (·.id)) := by
  refine (hb.indexed.diff_right s.culled).trans (List.Perm.of_eq ?_)
  rw [hu.sdiff_eq_filter, List.filter_map]
  congr 1
  refine List.filter_congr fun c hc => ?_
  by_cases hd : c.dead <;> simp [hd, mem_culled_iff hb hu hc]

theorem released_culled {s : Node} (hb : s.Books) (hu : (s.conns.map (·.id)).Nodup) :
    (s.culled.flatMap fun id => ((s.conn? id).bind (·.release)).toList).Perm
      ((s.conns.filter (·.dead)).flatMap (·.release.toList)) := by
  refine (hb.listed.flatMap_right _).trans ?_
  rw [deadIds, List.flatMap_map]
  refine List.Perm.flatMap_left _ fun c hc => List.Perm.of_eq ?_
  rw [(conn?_eq_some_iff hu).2 ⟨(List.mem_filter.1 hc).1, rfl⟩]
  rfl

/-- Reaping removes the dead connections, each once: their queues dropped, their ids out of the
map, their slots given back and their close hooks run; they go to the removed ones, and each is
counted closed. -/
theorem reap_spec {s : Node} (hb : s.Books) (hu : (s.conns.map (·.id)).Nodup) :
    s.reap.conns = s.conns.filter (!·.dead) ∧ s.reap.culled = [] ∧
      s.reap.index.Perm (s.reap.conns.map (·.id)) ∧
      s.reap.retired = s.retired ++
        (s.conns.filter (·.dead)).map (fun c => { c with queue := c.queue.discard }) ∧
      s.reap.released.Perm (s.released ++ (s.conns.filter (·.dead)).flatMap (·.release.toList)) ∧
      s.reap.services = s.culled.foldl (fun sv id => closeHook id sv) s.services ∧
      s.reap.counters.closed = s.counters.closed + s.culled.length ∧
      s.reap.counters.accepted = s.counters.accepted ∧ s.reap.sessions = s.sessions := by
  rw [reap_eq]
  split
  · -- nothing was torn down: no connection is dead
    rename_i he
    have hnil : s.culled = [] := List.isEmpty_iff.1 he
    have hdead : s.conns.filter (·.dead) = [] := by
      have h := hb.listed
      rw [hnil, List.nil_perm, deadIds, List.map_eq_nil_iff] at h
      exact h
    have hlive : s.conns.filter (!·.dead) = s.conns := by
      rw [List.filter_eq_self]
      intro c hc
      have : c ∉ s.conns.filter (·.dead) := by simp [hdead]
      simpa [List.mem_filter, hc] using this
    exact ⟨hlive.symm, hnil, hlive.symm ▸ hb.indexed, by simp [hdead], by simp [hdead], by simp [hnil],
      by simp [hnil], rfl, rfl⟩
  · obtain ⟨hc, hsv, hn, hi, hrel, hr, hss, -⟩ := foldl_reapOne s.culled s
    -- on the connections, dropping the queues of the listed ids is dropping those of the dead
    have hmap : ∀ c ∈ s.conns, (if c.id ∈ s.culled then { c with queue := c.queue.discard } else c) =
        if c.dead then { c with queue := c.queue.discard } else c := by
      intro c hcm
      by_cases hd : c.dead <;> simp [hd, mem_culled_iff hb hu hcm]
    rw [List.map_congr_left hmap] at hc
    have hlive : (s.culled.foldl reapOne s).conns.filter (!·.dead) = s.conns.filter (!·.dead) := by
      -- the live connections are left as they were
      rw [hc, filter_map_comm]
      · conv => rhs; rw [← List.map_id (s.conns.filter (!·.dead))]
        refine List.map_congr_left fun c hcm => ?_
        simp only [List.mem_filter, Bool.not_eq_eq_eq_not, Bool.not_true] at hcm
        simp [hcm.2]
      · intro c
        split <;> rfl
    dsimp only
    refine ⟨hlive, rfl, ?_, ?_, ?_, hsv, by rw [hn], by rw [hn], hss⟩
    · rw [hlive, hi]
      exact index_diff_culled hb hu
    · rw [hr, hc, filter_map_comm]
      · congr 1
        refine List.map_congr_left fun c hcm => ?_
        simp only [List.mem_filter] at hcm
        simp [hcm.2]
      · intro c
        split <;> rfl
    · rw [hrel]
      exact (released_culled hb hu).append_left s.released

theorem Books.reap {s : Node} (hb : s.Books) (hu : (s.conns.map (·.id)).Nodup) : s.reap.Books := by
  obtain ⟨hc, hl, hi, -, -, -, hn, ha, -⟩ := reap_spec hb hu
  have hsplit := List.length_eq_length_filter_add (l := s.conns) (·.dead)
  have hdead : s.culled.length = (s.conns.filter (·.dead)).length := by
    rw [hb.listed.length_eq, deadIds, List.length_map]
  refine ⟨?_, ?_, hi⟩
  · rw [hl, deadIds, hc, List.filter_filter]
    simp
  · rw [ha, hn, hc, hb.counted, hsplit, hdead]
    omega

theorem reap_sessions (s : Node) : s.reap.sessions = s.sessions := by
  rw [reap_eq]
  split
  · rfl
  · exact (foldl_reapOne s.culled s).2.2.2.2.2.2.1

theorem reap_draws (s : Node) : s.reap.draws = s.draws := by
  rw [reap_eq]
  split
  · rfl
  · exact (foldl_reapOne s.culled s).2.2.2.2.2.2.2

/-! ## Refused chains -/

theorem sessions_le_attach (s : Node) (layers : List LayerSpec) (pipe : Nat) (remote listener : Bytes)
    (release : Option Nat) : s.sessions ≤ (s.attach layers pipe remote listener release).2.sessions := by
  rcases attach_cases s layers pipe remote listener release with
    ⟨-, h⟩ | ⟨-, e, h⟩ | ⟨-, link, wire, -, h⟩ <;> rw [h]
  · exact (sessions_eq_of_lineup (keeps_lineup.toKeepsLink.refuse (fun _ _ => rfl) ..)).ge
  · dsimp only
    rw [sessions_eq_of_lineup (keeps_lineup.toKeepsLink.refuse (fun _ _ => rfl) ..)]
    exact Nat.le_succ _
  · dsimp only
    rw [sessions_eq_of_lineup (lineup_readable_deliver ..)]
    exact Nat.le_succ _

theorem sessions_attach {s : Node} (hdr : s.draining = false) (layers : List LayerSpec) (pipe : Nat)
    (remote listener : Bytes) (release : Option Nat) :
    (s.attach layers pipe remote listener release).2.sessions = s.sessions + 1 := by
  rcases attach_cases s layers pipe remote listener release with
    ⟨hd, -⟩ | ⟨-, e, h⟩ | ⟨-, link, wire, -, h⟩
  · rw [hdr] at hd
    cases hd
  · rw [h]
    exact sessions_eq_of_lineup (keeps_lineup.toKeepsLink.refuse (fun _ _ => rfl) ..)
  · rw [h]
    exact sessions_eq_of_lineup (lineup_readable_deliver ..)

/-! ## Every reachable node -/

theorem distinct_of_lineup {s t : Node} (hl : t.lineup = s.lineup) (hd : t.draws.Distinct t.sessions) :
    s.draws.Distinct s.sessions := by
  rwa [draws_eq_of_lineup hl, sessions_eq_of_lineup hl] at hd

theorem distinct_of_reap {s t : Node} (hl : t.lineup = s.lineup)
    (hd : t.reap.draws.Distinct t.reap.sessions) : s.draws.Distinct s.sessions := by
  rw [reap_draws, reap_sessions] at hd
  exact distinct_of_lineup hl hd

theorem reap_nodup {s t : Node} (hs : s.Reachable) (hl : t.lineup = s.lineup)
    (hd : t.reap.draws.Distinct t.reap.sessions) : (t.conns.map (·.id)).Nodup := by
  rw [reap_draws, reap_sessions] at hd
  exact (hs.numbered.of_lineup hl).ids_nodup hd

theorem Books.step {s t : Node} (hs : s.Reachable) (ih : s.draws.Distinct s.sessions → s.Books)
    (hbooks : t.books = s.books) (hl : t.lineup = s.lineup) : t.draws.Distinct t.sessions → t.Books :=
  fun hd => (ih (distinct_of_lineup hl hd)).of_books hbooks ((hs.numbered.of_lineup hl).ids_nodup hd)

theorem Books.reapStep {s t : Node} (hs : s.Reachable) (ih : s.draws.Distinct s.sessions → s.Books)
    (hbooks : t.books = s.books) (hl : t.lineup = s.lineup) :
    t.reap.draws.Distinct t.reap.sessions → t.reap.Books := fun hd => by
  rw [reap_draws, reap_sessions] at hd
  exact (Books.step hs ih hbooks hl hd).reap ((hs.numbered.of_lineup hl).ids_nodup hd)

theorem Reachable.books {s : Node} (h : s.Reachable) : s.draws.Distinct s.sessions → s.Books := by
  induction h with
  | start => exact fun _ => Books.start ..
  | openPipe capacity hs ih => exact Books.step hs ih rfl rfl
  | @attach s layers pipe remote listener release hs ih =>
    intro hd
    have hd' : s.draws.Distinct s.sessions := by
      rw [draws_attach] at hd
      exact hd.mono (sessions_le_attach ..)
    exact (ih hd').attach layers pipe remote listener release
      ((Reachable.attach layers pipe remote listener release hs).numbered.ids_nodup hd)
  | submit id raw hs ih => exact Books.step hs ih (keeps_books.submit ..) (keeps_lineup.submit ..)
  | enqueue id name params hs ih => exact Books.step hs ih (keeps_books.enqueue ..) (keeps_lineup.enqueue ..)
  | tick hs ih => exact Books.step hs ih (keeps_books.tick _) (keeps_lineup.tick _)
  | @poll s hs ih => exact Books.reapStep hs ih (keeps_books.beforeReap s) (keeps_lineup.beforeReap s)
  | @housekeep s now hs ih =>
    exact Books.reapStep hs ih (keeps_books.housekeepRound s now) (keeps_lineup.housekeepRound s now)
  | peer pipe p signals hs ih =>
    exact Books.step hs ih ((keeps_books.deliver ..).trans (keeps_books.setPipe ..))
      ((keeps_lineup.deliver ..).trans (keeps_lineup.setPipe ..))
  | clock now hs ih => exact Books.step hs ih rfl rfl
  | services f hs ih => exact Books.step hs ih (keeps_books.modifyServices ..) (keeps_lineup.modifyServices ..)
  | startPool hs ih => exact Books.step hs ih rfl rfl
  | stopPool hs ih => exact Books.step hs ih (keeps_books.stopPool _) (keeps_lineup.stopPool _)
  | takeJob hs ih => exact Books.step hs ih (keeps_books.takeJob _) (keeps_lineup.takeJob _)
  | finishJob j hs ih => exact Books.step hs ih (keeps_books.finishJob ..) (keeps_lineup.finishJob ..)
  | beginShutdown hs ih => exact Books.step hs ih (keeps_books.beginShutdown _) (keeps_lineup.beginShutdown _)
  | @shutdownRound s hs ih => exact Books.reapStep hs ih (keeps_books.runPosted s) (keeps_lineup.runPosted s)
  | @endShutdown s hs ih =>
    exact Books.reapStep hs ih (keeps_books.cullAll s _) (keeps_lineup.cullAll s _)

/-! ## The end of a turn -/

end Node

end LineKv.Server
