import Mathlib
import LineKv.Proofs.StoppedConnections
import LineKv.Proofs.KeepAlive

/-!
No readiness is lost: over every run of in-memory connections, each live connection has its
events queued or waits so that its client's next move posts them (`Node.Wakeful`). Main statement:
`readiness_never_lost`.
-/

namespace LineKv.Transport

/-- A layer as a new connection's chain starts with it: a compression layer holding nothing, or an
open socket at the server's end of its pipe. -/
def LayerSpec.Fresh : LayerSpec → Prop
  | .compressor c => c.out.len = 0 ∧ c.inbox = []
  | .socket s => s.side = Server.serverSide ∧ s.closed = false
  | .missing => True

/-- A chain of fresh layers that checks gives fresh compression layers over a fresh socket. -/
theorem checkChain_go_fresh (i : Nat) (layers : List LayerSpec) (acc : List Compressor) {cs : List Compressor} {sock : Socket}
    (h : checkChain.go i layers acc = .ok (cs, sock)) (hl : ∀ l ∈ layers, l.Fresh)
    (hacc : ∀ c ∈ acc, c.out.len = 0 ∧ c.inbox = []) :
    (∀ c ∈ cs, c.out.len = 0 ∧ c.inbox = []) ∧ sock.side = Server.serverSide ∧ sock.closed = false := by
  induction layers generalizing i acc with
  | nil => simp [checkChain.go] at h
  | cons l rest ih =>
    cases l with
    | missing => simp [checkChain.go] at h
    | socket s =>
      cases rest with
      | nil =>
        simp only [checkChain.go, LayerSpec.isTerminal, List.isEmpty_nil, ne_eq, not_true_eq_false,
          if_false, Except.ok.injEq, Prod.mk.injEq] at h
        obtain ⟨rfl, rfl⟩ := h
        exact ⟨fun c hc => hacc c (List.mem_reverse.1 hc), hl _ (List.mem_singleton_self _)⟩
      | cons l' rest' => simp [checkChain.go, LayerSpec.isTerminal] at h
    | compressor c =>
      cases rest with
      | nil => simp [checkChain.go, LayerSpec.isTerminal] at h
      | cons l' rest' =>
        unfold checkChain.go at h
        simp only [LayerSpec.isTerminal, List.isEmpty_cons, ne_eq, not_true_eq_false, if_false] at h
        refine ih _ _ h (fun l hl' => hl l (List.mem_cons_of_mem _ hl')) fun c' hc' => ?_
        rcases List.mem_cons.1 hc' with rfl | hm
        · exact hl _ List.mem_cons_self
        · exact hacc c' hm

theorem checkChain_fresh {layers : List LayerSpec} (hl : ∀ l ∈ layers, l.Fresh) {cs : List Compressor}
    {sock : Socket} (h : checkChain layers = .ok (cs, sock)) :
    (∀ c ∈ cs, c.out.len = 0 ∧ c.inbox = []) ∧ sock.side = Server.serverSide ∧ sock.closed = false := by
  unfold checkChain at h
  split at h
  · cases h
  · exact checkChain_go_fresh 0 layers [] h hl fun _ hc => absurd hc List.not_mem_nil

/-- A link made over fresh layers is wired to the server's end, open, and holds nothing; making it
only starts its end listening. -/
theorem Link.create_fresh {layers : List LayerSpec} (hfresh : ∀ l ∈ layers, l.Fresh) {limits : Limits}
    {w w' : Wire} {l : Link} (h : (Link.create layers limits).run w = (.ok l, w')) :
    l.Wired Server.serverSide ∧ l.closed = false ∧ l.pending = 0 ∧
      w'.pipe = w.pipe.setListens Server.serverSide true ∧ w'.signals = w.signals := by
  unfold Link.create at h
  split at h
  · simp only [StateT.run_pure] at h
    cases (Prod.mk.inj h).1
  · rename_i cs sock hcheck
    simp only [StateT.run_bind, Socket.attach, pipeNow, setPipe, StateT.run_pure, StateT.run_get, StateT.run_modify] at h
    obtain ⟨hcs, hside, hopen⟩ := checkChain_fresh hfresh hcheck
    have h₁ := (Prod.mk.inj h).1
    have h₂ := (Prod.mk.inj h).2
    cases h₁
    subst h₂
    refine ⟨⟨hside, hopen, fun c hc => ?_, le_refl _, fun h => absurd h Bool.false_ne_true⟩, rfl, ?_,
      by rw [hside]; rfl, rfl⟩
    · obtain ⟨c₀, hc₀, rfl⟩ := List.mem_map.1 hc
      obtain ⟨hout, hinbox⟩ := hcs c₀ hc₀
      refine ⟨rfl, .inl ?_, hout.ge⟩
      simp [hinbox, headerLen]
    · simp only [Link.pending, ChunkQueue.empty, ChunkQueue.len, List.map_map]
      rw [← List.sum_eq_foldl, zero_add]
      refine List.sum_eq_zero fun x hx => ?_
      obtain ⟨c, hc, rfl⟩ := List.mem_map.1 hx
      exact (hcs c hc).1

@[simp] theorem Pipe.listens_setListens (p : Pipe) (side : Side) (b : Bool) :
    (p.setListens side b).listens side = b := by
  cases side <;> rfl

end LineKv.Transport

namespace LineKv.Server

open Command Transport

/-! ## What a connection keeps ready -/

namespace Connection

/-- A live connection that is not draining, with its link open, is flagged for reading, has a
readable signal raised among `sigs`, or waits on the pipe. -/
def ReadWake (c : Connection) (p : Pipe) (sigs : List Signal) : Prop :=
  c.dead = false → c.quitting = false → c.link.closed = false →
    c.readPosted = true ∨ .readable serverSide ∈ sigs ∨ (p.inbound serverSide).Waiting

/-- A live connection with output pending is flagged for writing, has a writable signal raised
among `sigs`, or has write interest registered on a full pipe. -/
def WriteWake (c : Connection) (p : Pipe) (sigs : List Signal) : Prop :=
  c.dead = false → 0 < c.link.pending →
    c.writePosted = true ∨ .writable serverSide ∈ sigs ∨
      ((p.outbound serverSide).writeWant = true ∧ p.capacity ≤ (p.outbound serverSide).buf.length)

/-- What connection `c` keeps ready on pipe `p`, whose server end has raised the signals `sigs`
not yet delivered: while its link is open its end listens, and it wakes for reading and for
writing. -/
structure Wakes (c : Connection) (p : Pipe) (sigs : List Signal) : Prop where
  listening : c.link.closed = false → p.listens serverSide = true
  read : c.ReadWake p sigs
  write : c.WriteWake p sigs

variable {c : Connection} {p : Pipe} {sigs sigs' : List Signal}

theorem Wakes.of_closed (hw : c.link.Wired serverSide) (hcl : c.link.closed = true) (p : Pipe)
    (sigs : List Signal) : c.Wakes p sigs where
  listening h := absurd (hcl.symm.trans h) Bool.noConfusion
  read _ _ h := absurd (hcl.symm.trans h) Bool.noConfusion
  write _ hpos := absurd hpos (by rw [hw.drained hcl]; exact lt_irrefl 0)

theorem ReadWake.mono (h : c.ReadWake p sigs) (hs : sigs ⊆ sigs') : c.ReadWake p sigs' :=
  fun hd hq hopen => (h hd hq hopen).imp_right (Or.imp_left (@hs _))

theorem WriteWake.mono (h : c.WriteWake p sigs) (hs : sigs ⊆ sigs') : c.WriteWake p sigs' :=
  fun hd hpos => (h hd hpos).imp_right (Or.imp_left (@hs _))

theorem Wakes.mono (h : c.Wakes p sigs) (hs : sigs ⊆ sigs') : c.Wakes p sigs' :=
  ⟨h.listening, h.read.mono hs, h.write.mono hs⟩

theorem Wakes.tail {sig : Signal} (h : c.Wakes p (sig :: sigs))
    (hr : sig = .readable serverSide → c.readPosted = true)
    (hw : sig = .writable serverSide → c.writePosted = true) : c.Wakes p sigs where
  listening := h.listening
  read hd hq hopen := by
    rcases h.read hd hq hopen with hp | hsig | hwait
    · exact .inl hp
    · rcases List.mem_cons.1 hsig with he | hmem
      · exact .inl (hr he.symm)
      · exact .inr (.inl hmem)
    · exact .inr (.inr hwait)
  write hd hpos := by
    rcases h.write hd hpos with hp | hsig | hfull
    · exact .inl hp
    · rcases List.mem_cons.1 hsig with he | hmem
      · exact .inl (hw he.symm)
      · exact .inr (.inl hmem)
    · exact .inr (.inr hfull)

theorem Wakes.setRead (h : c.Wakes p sigs) : ({ c with readPosted := true }).Wakes p sigs :=
  ⟨h.listening, fun _ _ _ => .inl rfl, h.write⟩

theorem Wakes.setWrite (h : c.Wakes p sigs) : ({ c with writePosted := true }).Wakes p sigs :=
  ⟨h.listening, h.read, fun _ _ => .inl rfl⟩

theorem WriteWake.inward {w w' : Wire} {l : Link} (h : c.WriteWake w.pipe w.signals)
    (hi : Wire.Inward serverSide w w') (hp : l.pending = c.link.pending) :
    ({ c with link := l } : Connection).WriteWake w'.pipe w'.signals := fun hd hpos => by
  rcases h hd (hp ▸ hpos) with hw | hs | ⟨hwant, hfull⟩
  · exact .inl hw
  · exact .inr (.inl (hi.signals.subset hs))
  · exact .inr (.inr ⟨hi.outbound ▸ hwant, by rw [hi.capacity, hi.outbound]; exact hfull⟩)

theorem ReadWake.outward {w w' : Wire} {l : Link} (h : c.ReadWake w.pipe w.signals)
    (ho : Wire.Outward serverSide w w') (hcl : l.closed = c.link.closed) :
    ({ c with link := l } : Connection).ReadWake w'.pipe w'.signals := fun hd hq hopen => by
  rcases h hd hq (hcl ▸ hopen) with hr | hs | hwait
  · exact .inl hr
  · exact .inr (.inl (ho.signals.subset hs))
  · exact .inr (.inr (ho.inbound ▸ hwait))

end Connection

/-! ## What a client does at its end -/

def client (m : Int) : Socket := ⟨serverSide.other, false, m⟩

theorem inbound_client (m : Int) (p : Pipe) : p.inbound (client m).side = p.outbound serverSide := by
  simp [client]

theorem Socket.attach_run (so : Socket) (w : Wire) :
    so.attach.run w = ((), ⟨w.pipe.setListens so.side true, w.signals⟩) := rfl

/-- What a client may do at its end of a pipe, one socket operation after another: read, write,
close, or start listening. -/
inductive ClientRun : Wire → Wire → Prop
  | refl (w : Wire) : ClientRun w w
  | read {w w' : Wire} (m : Int) : ClientRun w w' → ClientRun w ((client m).read.run w').2
  | write {w w' : Wire} (m : Int) (src : ChunkQueue) :
      ClientRun w w' → ClientRun w (((client m).write src).run w').2
  | close {w w' : Wire} (m : Int) : ClientRun w w' → ClientRun w ((client m).close.run w').2
  | attach {w w' : Wire} (m : Int) : ClientRun w w' → ClientRun w ((client m).attach.run w').2

theorem ClientRun.capacity {w₀ w : Wire} (h : ClientRun w₀ w) : w.pipe.capacity = w₀.pipe.capacity := by
  induction h with
  | refl => rfl
  | @read w' m _ ih =>
    rcases hrun : (client m).read.run w' with ⟨⟨st, e, data⟩, w''⟩
    exact (Socket.read_reading (client m) rfl hrun).inward.capacity.trans ih
  | write m src _ ih => exact (Socket.write_outward _ src _).capacity.trans ih
  | close m _ ih => exact (Socket.close_capacity _ _).trans ih
  | attach m _ ih => exact (Pipe.capacity_setListens _ _ _).trans ih

namespace Connection

variable {c : Connection} {w : Wire}

theorem Wakes.client_read (hwired : c.link.Wired serverSide) (h : c.Wakes w.pipe w.signals)
    (hcap : 0 < w.pipe.capacity) (m : Int) :
    c.Wakes ((client m).read.run w).2.pipe ((client m).read.run w).2.signals := by
  rcases hrun : (client m).read.run w with ⟨⟨st, e, data⟩, w'⟩
  have hr := Socket.read_reading (client m) rfl hrun
  have hout : w'.pipe.outbound serverSide.other = w.pipe.outbound serverSide.other := hr.inward.outbound
  refine ⟨fun hopen => (hr.inward.listens serverSide).trans (h.listening hopen), fun hd hq hopen => ?_,
    fun hd hpos => ?_⟩
  · rcases h.read hd hq hopen with hp | hs | hwait
    · exact .inl hp
    · exact .inr (.inl (hr.inward.signals.subset hs))
    · exact .inr (.inr (by simpa [hout] using hwait))
  · rcases h.write hd hpos with hp | hs | ⟨hwant, hfull⟩
    · exact .inl hp
    · exact .inr (.inl (hr.inward.signals.subset hs))
    · -- the pipe was full, so the read takes bytes and signals the writer
      have hopen : c.link.closed = false := by
        cases hcl : c.link.closed
        · rfl
        · rw [hwired.drained hcl] at hpos
          exact absurd hpos (lt_irrefl 0)
      have hne : (w.pipe.inbound (client m).side).buf ≠ [] := by
        rw [inbound_client]
        intro hnil
        rw [hnil] at hfull
        simp at hfull
        omega
      have hsig := hr.writer hne (by rwa [inbound_client]) (by simpa [client] using h.listening hopen)
      exact .inr (.inl (by simpa [client] using hsig))

theorem Wakes.client_write (h : c.Wakes w.pipe w.signals) (m : Int) (src : ChunkQueue) :
    c.Wakes (((client m).write src).run w).2.pipe (((client m).write src).run w).2.signals := by
  have ho := Socket.write_outward (client m) src w
  have hin : ∀ x : Wire, x.pipe.inbound (client m).side = x.pipe.outbound serverSide := fun x =>
    inbound_client m x.pipe
  refine ⟨fun hopen => (ho.listens serverSide).trans (h.listening hopen), fun hd hq hopen => ?_,
    fun hd hpos => ?_⟩
  · rcases h.read hd hq hopen with hp | hs | hwait
    · exact .inl hp
    · exact .inr (.inl (ho.signals.subset hs))
    · have hw := Socket.write_wakes_reader (client m) src w (by simpa [client] using hwait)
        (by simpa [client] using h.listening hopen)
      rcases hw with hwait' | hsig
      · exact .inr (.inr (by simpa [client] using hwait'))
      · exact .inr (.inl (by simpa [client] using hsig))
  · rcases h.write hd hpos with hp | hs | ⟨hwant, hfull⟩
    · exact .inl hp
    · exact .inr (.inl (ho.signals.subset hs))
    · have hsame := (hin _).symm.trans (ho.inbound.trans (hin w))
      exact .inr (.inr ⟨hsame ▸ hwant, by rw [ho.capacity, hsame]; exact hfull⟩)

theorem Wakes.client_close (hwired : c.link.Wired serverSide) (h : c.Wakes w.pipe w.signals) (m : Int) :
    c.Wakes ((client m).close.run w).2.pipe ((client m).close.run w).2.signals := by
  cases hcl : c.link.closed
  · rcases hrun : (client m).close.run w with ⟨so, w'⟩
    obtain ⟨-, hl, hR, hW⟩ := Socket.close_wakes (client m) rfl (by simpa [client] using h.listening hcl) hrun
    exact ⟨fun _ => by simpa [client] using hl, fun _ _ _ => .inr (.inl (by simpa [client] using hR)),
      fun _ _ => .inr (.inl (by simpa [client] using hW))⟩
  · exact .of_closed hwired hcl _ _

theorem Wakes.client_attach (h : c.Wakes w.pipe w.signals) (m : Int) :
    c.Wakes ((client m).attach.run w).2.pipe ((client m).attach.run w).2.signals := by
  rw [Socket.attach_run]
  have hl : (w.pipe.setListens (client m).side true).listens serverSide = w.pipe.listens serverSide := by
    simpa [client] using Pipe.listens_setListens_other w.pipe serverSide.other true
  refine ⟨fun hopen => hl.trans (h.listening hopen), fun hd hq hopen => ?_, fun hd hpos => ?_⟩
  · simpa [Connection.ReadWake] using h.read hd hq hopen
  · simpa [Connection.WriteWake] using h.write hd hpos

theorem Wakes.client {w₀ w : Wire} (hrun : ClientRun w₀ w) (hwired : c.link.Wired serverSide)
    (hcap : 0 < w₀.pipe.capacity) (h : c.Wakes w₀.pipe w₀.signals) : c.Wakes w.pipe w.signals := by
  induction hrun with
  | refl => exact h
  | read m hr ih => exact (ih).client_read hwired (hr.capacity ▸ hcap) m
  | write m src _ ih => exact ih.client_write m src
  | close m _ ih => exact ih.client_close hwired m
  | attach m _ ih => exact ih.client_attach m

end Connection

namespace Node

/-! ## The invariant -/

/-- What the node keeps of a connection for its events: its link is wired to the server's end,
its pipe is one of the network's, and each event it is flagged for is queued, in `q` (what is
left of a batch being run) or in the node's list. -/
structure Kept (q : List Post) (s : Node) (c : Connection) : Prop where
  wired : c.link.Wired serverSide
  bound : c.pipe < s.net.size
  readFlag : c.readPosted = true → .readable c.id ∈ q ++ s.posted
  writeFlag : c.writePosted = true → .writable c.id ∈ q ++ s.posted

/-- How a node lays its connections out: every pipe has room, connections hold distinct pipes
and have distinct ids, and each is kept. -/
structure Laid (q : List Post) (s : Node) : Prop where
  capacity : ∀ i < s.net.size, 0 < (s.pipe i).capacity
  pipes : (s.conns.map (·.pipe)).Nodup
  ids : (s.conns.map (·.id)).Nodup
  kept : ∀ c ∈ s.conns, Kept q s c

/-- A node that loses no readiness, with the events `q` of a batch still to run. -/
structure Wakeful (q : List Post) (s : Node) : Prop extends Laid q s where
  wakes : ∀ c ∈ s.conns, c.Wakes (s.pipe c.pipe) []

/-- The same, while the signals `sigs` raised on pipe `i` wait to be delivered. -/
structure Awaiting (q : List Post) (i : Nat) (sigs : List Signal) (s : Node) : Prop
    extends Laid q s where
  wakes : ∀ c ∈ s.conns, c.Wakes (s.pipe c.pipe) (if c.pipe = i then sigs else [])

variable {q : List Post} {s : Node}

/-! ## Pipes and records -/

@[simp] theorem pipe_modifyConn (s : Node) (k : Bytes) (f : Connection → Connection) :
    (s.modifyConn k f).pipe = s.pipe := rfl

theorem forall_mem_modifyConn (s : Node) (k : Bytes) {f : Connection → Connection}
    {P : Connection → Prop} (hf : ∀ c ∈ s.conns, c.id = k → P (f c))
    (ho : ∀ c ∈ s.conns, c.id ≠ k → P c) : ∀ c ∈ (s.modifyConn k f).conns, P c := by
  intro c' hc'
  obtain ⟨c, hc, rfl⟩ := List.mem_map.1 hc'
  by_cases h : c.id = k
  · simp only [h, beq_self_eq_true, if_true]
    exact hf c hc h
  · simp only [beq_iff_eq, h, if_false]
    exact ho c hc h

theorem Kept.frame {t : Node} {c : Connection} (h : Kept q s c) (hsize : s.net.size ≤ t.net.size)
    (hpost : s.posted ⊆ t.posted) : Kept q t c where
  wired := h.wired
  bound := Nat.lt_of_lt_of_le h.bound hsize
  readFlag hr := List.mem_append.2 ((List.mem_append.1 (h.readFlag hr)).imp_right (@hpost _))
  writeFlag hw := List.mem_append.2 ((List.mem_append.1 (h.writeFlag hw)).imp_right (@hpost _))

theorem Kept.pop {e : Post} {c : Connection} (h : Kept (e :: q) s c)
    (hr : c.readPosted = true → e ≠ .readable c.id) (hw : c.writePosted = true → e ≠ .writable c.id) :
    Kept q s c where
  wired := h.wired
  bound := h.bound
  readFlag h' := by
    rcases List.mem_cons.1 (h.readFlag h') with he | hm
    · exact absurd he.symm (hr h')
    · exact hm
  writeFlag h' := by
    rcases List.mem_cons.1 (h.writeFlag h') with he | hm
    · exact absurd he.symm (hw h')
    · exact hm

theorem Awaiting.wakeful {i : Nat} (h : Awaiting q i [] s) : Wakeful q s :=
  ⟨h.toLaid, fun c hc => by simpa using h.wakes c hc⟩

theorem Laid.frame {t : Node} (h : Laid q s) (hnet : t.net = s.net) (hconns : t.conns = s.conns)
    (hpost : s.posted ⊆ t.posted) : Laid q t where
  capacity i hi := by
    have h' := h.capacity i (hnet ▸ hi)
    unfold Node.pipe at h' ⊢
    rwa [hnet]
  pipes := hconns ▸ h.pipes
  ids := hconns ▸ h.ids
  kept c hc := (h.kept c (hconns ▸ hc)).frame (by rw [hnet]) hpost

theorem Laid.modifyConn (h : Laid q s) (k : Bytes) {f : Connection → Connection}
    (hid : ∀ c, (f c).id = c.id) (hpipe : ∀ c, (f c).pipe = c.pipe)
    (hf : ∀ c ∈ s.conns, c.id = k → Kept q s (f c)) : Laid q (s.modifyConn k f) where
  capacity := h.capacity
  pipes := by rw [map_modifyConn s k _ hpipe]; exact h.pipes
  ids := by rw [map_modifyConn s k _ hid]; exact h.ids
  kept := forall_mem_modifyConn s k (fun c hc hck => (hf c hc hck).frame (Nat.le_refl _) (fun _ => id))
    fun c hc _ => (h.kept c hc).frame (Nat.le_refl _) (fun _ => id)

theorem Wakeful.modifyConn (h : Wakeful q s) (k : Bytes) {f : Connection → Connection}
    (hid : ∀ c, (f c).id = c.id) (hpipe : ∀ c, (f c).pipe = c.pipe)
    (hf : ∀ c ∈ s.conns, c.id = k → Kept q s (f c) ∧ (f c).Wakes (s.pipe c.pipe) []) :
    Wakeful q (s.modifyConn k f) where
  toLaid := h.toLaid.modifyConn k hid hpipe fun c hc hck => (hf c hc hck).1
  wakes := forall_mem_modifyConn s k (fun c hc hck => by rw [hpipe]; exact (hf c hc hck).2)
    fun c hc _ => h.wakes c hc

theorem Wakeful.sublist {t : Node} (h : Wakeful q s) (hnet : t.net = s.net) (hconns : t.conns.Sublist s.conns)
    (hpost : s.posted ⊆ t.posted) : Wakeful q t where
  capacity i hi := by
    have h' := h.capacity i (hnet ▸ hi)
    unfold Node.pipe at h' ⊢
    rwa [hnet]
  pipes := h.pipes.sublist (hconns.map _)
  ids := h.ids.sublist (hconns.map _)
  kept c hc := (h.kept c (hconns.subset hc)).frame (by rw [hnet]) hpost
  wakes c hc := by
    have hw := h.wakes c (hconns.subset hc)
    unfold Node.pipe at hw ⊢
    rwa [hnet]

theorem Wakeful.frame {t : Node} (h : Wakeful q s) (hnet : t.net = s.net) (hconns : t.conns = s.conns)
    (hpost : s.posted ⊆ t.posted) : Wakeful q t :=
  h.sublist hnet (hconns ▸ List.Sublist.refl _) hpost

theorem Laid.setPipe (h : Laid q s) {i : Nat} (hi : i < s.net.size) {p : Pipe}
    (hcap : p.capacity = (s.pipe i).capacity) : Laid q (s.setPipe i p) where
  capacity j hj := by
    rw [size_setPipe] at hj
    rw [pipe_setPipe s hi]
    split
    · rename_i hji
      subst hji
      rw [hcap]
      exact h.capacity _ hj
    · exact h.capacity j hj
  pipes := h.pipes
  ids := h.ids
  kept c hc := (h.kept c hc).frame (by rw [size_setPipe]) (fun _ => id)

/-! ## Events from signals -/

/-- A signal raised on pipe `i` can be dropped when the record on the pipe, if any, already has
the flag it would set. -/
theorem Awaiting.drop {i : Nat} {sig : Signal} {rest : List Signal} (h : Awaiting q i (sig :: rest) s)
    (hsig : ∀ c ∈ s.conns, c.pipe = i →
      (sig = .readable serverSide → c.readPosted = true) ∧ (sig = .writable serverSide → c.writePosted = true)) :
    Awaiting q i rest s where
  toLaid := h.toLaid
  wakes c hc := by
    have hw := h.wakes c hc
    by_cases hci : c.pipe = i
    · rw [if_pos hci] at hw ⊢
      exact hw.tail (hsig c hc hci).1 (hsig c hc hci).2
    · rwa [if_neg hci] at hw ⊢

theorem on_pipe {i : Nat} {k : Bytes} {c : Connection} (hu : (s.conns.map (·.id)).Nodup)
    (hk : ∀ x ∈ s.conns, x.pipe = i → x.id = k) (hc : s.conn? k = some c) :
    ∀ x ∈ s.conns, x.pipe = i → x = c := fun x hx hxi =>
  have hcm := (conn?_eq_some_iff hu).1 hc
  List.inj_on_of_nodup_map hu hx hcm.1 ((hk x hx hxi).trans hcm.2.symm)

theorem not_on_pipe {i : Nat} {k : Bytes} (hk : ∀ x ∈ s.conns, x.pipe = i → x.id = k)
    (hc : s.conn? k = none) (x : Connection) (hx : x ∈ s.conns) (hxi : x.pipe = i) : False := by
  have := List.find?_eq_none.1 hc x hx
  simp [hk x hx hxi] at this

theorem Awaiting.readable {i : Nat} {rest : List Signal} {k : Bytes}
    (h : Awaiting q i (.readable serverSide :: rest) s) (hk : ∀ c ∈ s.conns, c.pipe = i → c.id = k) :
    Awaiting q i rest (s.readable k) := by
  unfold Node.readable
  split
  · rename_i c hc
    have hon := on_pipe h.ids hk hc
    split
    · rename_i hr
      exact h.drop fun x hx hxi => ⟨fun _ => hon x hx hxi ▸ hr, by intro he; cases he⟩
    · -- the record is flagged and the event posted
      have hl : Laid q { s with posted := s.posted ++ [.readable k] } :=
        h.toLaid.frame rfl rfl (List.subset_append_left _ _)
      refine ⟨hl.modifyConn k (fun _ => rfl) (fun _ => rfl) fun x hx hxk => ?_,
        forall_mem_modifyConn s k (fun x hx _ => ?_) fun x hx hxk => ?_⟩
      · have hkx := (h.kept x hx).frame (t := { s with posted := s.posted ++ [.readable k] })
          (Nat.le_refl _) (List.subset_append_left _ _)
        exact ⟨hkx.wired, hkx.bound, fun _ => by show Post.readable x.id ∈ _; simp [hxk], hkx.writeFlag⟩
      · have hw := (h.wakes x hx).setRead
        by_cases hxi : x.pipe = i
        · rw [if_pos hxi] at hw
          rw [if_pos hxi]
          exact hw.tail (fun _ => rfl) (by intro he; cases he)
        · rw [if_neg hxi] at hw
          rw [if_neg hxi]
          exact hw
      · have hxi : x.pipe ≠ i := fun hxi => hxk (hk x hx hxi)
        have hw := h.wakes x hx
        rwa [if_neg hxi] at hw ⊢
  · rename_i hc
    exact h.drop fun x hx hxi => (not_on_pipe hk hc x hx hxi).elim

theorem Awaiting.writable {i : Nat} {rest : List Signal} {k : Bytes}
    (h : Awaiting q i (.writable serverSide :: rest) s) (hk : ∀ c ∈ s.conns, c.pipe = i → c.id = k) :
    Awaiting q i rest (s.writable k) := by
  unfold Node.writable
  split
  · rename_i c hc
    have hon := on_pipe h.ids hk hc
    split
    · rename_i hw
      exact h.drop fun x hx hxi => ⟨(by intro he; cases he), fun _ => hon x hx hxi ▸ hw⟩
    · -- the record is flagged and the event posted
      have hl : Laid q { s with posted := s.posted ++ [.writable k] } :=
        h.toLaid.frame rfl rfl (List.subset_append_left _ _)
      refine ⟨hl.modifyConn k (fun _ => rfl) (fun _ => rfl) fun x hx hxk => ?_,
        forall_mem_modifyConn s k (fun x hx _ => ?_) fun x hx hxk => ?_⟩
      · have hkx := (h.kept x hx).frame (t := { s with posted := s.posted ++ [.writable k] })
          (Nat.le_refl _) (List.subset_append_left _ _)
        exact ⟨hkx.wired, hkx.bound, hkx.readFlag, fun _ => by show Post.writable x.id ∈ _; simp [hxk]⟩
      · have hw := (h.wakes x hx).setWrite
        by_cases hxi : x.pipe = i
        · rw [if_pos hxi] at hw
          rw [if_pos hxi]
          exact hw.tail (by intro he; cases he) (fun _ => rfl)
        · rw [if_neg hxi] at hw
          rw [if_neg hxi]
          exact hw
      · have hxi : x.pipe ≠ i := fun hxi => hxk (hk x hx hxi)
        have hw := h.wakes x hx
        rwa [if_neg hxi] at hw ⊢
  · rename_i hc
    exact h.drop fun x hx hxi => (not_on_pipe hk hc x hx hxi).elim

theorem keys_readable (s : Node) (k : Bytes) :
    (s.readable k).conns.map (fun x => (x.pipe, x.id)) = s.conns.map (fun x => (x.pipe, x.id)) := by
  unfold Node.readable
  split
  · split
    · rfl
    · exact map_modifyConn s k _ fun _ => rfl
  · rfl

theorem keys_writable (s : Node) (k : Bytes) :
    (s.writable k).conns.map (fun x => (x.pipe, x.id)) = s.conns.map (fun x => (x.pipe, x.id)) := by
  unfold Node.writable
  split
  · split
    · rfl
    · exact map_modifyConn s k _ fun _ => rfl
  · rfl

theorem on_pipe_of_keys {t : Node} {i : Nat} {k : Bytes}
    (hkeys : t.conns.map (fun x => (x.pipe, x.id)) = s.conns.map (fun x => (x.pipe, x.id)))
    (hk : ∀ x ∈ s.conns, x.pipe = i → x.id = k) : ∀ x ∈ t.conns, x.pipe = i → x.id = k := by
  intro x hx hxi
  have hm : (x.pipe, x.id) ∈ s.conns.map (fun x => (x.pipe, x.id)) := hkeys ▸ List.mem_map_of_mem hx
  obtain ⟨y, hy, hyx⟩ := List.mem_map.1 hm
  obtain ⟨hp, hid⟩ := Prod.mk.inj hyx
  exact hid ▸ hk y hy (hp.trans hxi)

theorem Awaiting.deliver {i : Nat} {sigs rest : List Signal} (h : Awaiting q i (sigs ++ rest) s) :
    Awaiting q i rest (s.deliver i sigs) := by
  unfold Node.deliver
  split
  · -- nobody holds the pipe: the signals go nowhere
    rename_i hnone
    have hoff : ∀ x ∈ s.conns, x.pipe ≠ i := fun x hx hxi => by
      have := List.find?_eq_none.1 hnone x hx
      simp [hxi] at this
    refine ⟨h.toLaid, fun x hx => ?_⟩
    have hw := h.wakes x hx
    rwa [if_neg (hoff x hx)] at hw ⊢
  · rename_i c hfind
    -- each signal is delivered in turn to `c`'s record, which keeps its id and pipe
    have hci : c.pipe = i := by simpa using List.find?_some hfind
    have hk : ∀ x ∈ s.conns, x.pipe = i → x.id = c.id := fun x hx hxi =>
      congrArg Connection.id (List.inj_on_of_nodup_map h.pipes hx (List.mem_of_find?_eq_some hfind)
        (hxi.trans hci.symm))
    clear hfind hci
    induction sigs generalizing s with
    | nil => exact h
    | cons sig sigs ih =>
      rw [List.foldl_cons]
      cases sig with
      | readable side =>
        by_cases hside : side = serverSide
        · subst hside
          dsimp only
          rw [if_pos rfl]
          exact ih (h.readable hk) (on_pipe_of_keys (keys_readable s c.id) hk)
        · dsimp only
          rw [if_neg hside]
          exact ih (h.drop fun _ _ _ => ⟨fun he => absurd (Signal.readable.inj he) hside, by intro he; cases he⟩) hk
      | writable side =>
        by_cases hside : side = serverSide
        · subst hside
          dsimp only
          rw [if_pos rfl]
          exact ih (h.writable hk) (on_pipe_of_keys (keys_writable s c.id) hk)
        · dsimp only
          rw [if_neg hside]
          exact ih (h.drop fun _ _ _ => ⟨(by intro he; cases he), fun he => absurd (Signal.writable.inj he) hside⟩) hk

/-! ## Link operations -/

theorem run_link {m : WireM Link} {w w' : Wire} {a : Unit} {l : Link}
    (h : (do return ((), ← m) : WireM (Unit × Link)).run w = ((a, l), w')) : m.run w = (l, w') := by
  simp only [StateT.run_bind, StateT.run_pure] at h
  obtain ⟨⟨-, rfl⟩, rfl⟩ := Prod.mk.inj h
  rfl

/-- An operation on the link of connection `k` keeps the invariant when it leaves the link wired,
the pipe's capacity as it was, and the connection awake on the wire it leaves, given the others
awake. -/
theorem Laid.onLink {β : Type} {k : Bytes} {c : Connection} (h : Laid q s)
    (hwk : ∀ x ∈ s.conns, x.id ≠ k → x.Wakes (s.pipe x.pipe) []) (hc : s.conn? k = some c)
    (op : Link → WireM (β × Link))
    (hop : ∀ a l w, (op c.link).run ⟨s.pipe c.pipe, []⟩ = ((a, l), w) → l.Wired serverSide ∧
      w.pipe.capacity = (s.pipe c.pipe).capacity ∧ ({ c with link := l } : Connection).Wakes w.pipe w.signals) :
    Wakeful q (s.onLink k op).2 := by
  obtain ⟨hcm, hck⟩ := (conn?_eq_some_iff h.ids).1 hc
  have hone : ∀ x ∈ s.conns, x.id = k → x = c := fun x hx hxk =>
    List.inj_on_of_nodup_map h.ids hx hcm (hxk.trans hck.symm)
  have hbound := (h.kept c hcm).bound
  unfold Node.onLink
  rw [hc]
  dsimp only
  split
  rename_i a l w heq
  obtain ⟨hwired, hcap, hwakes⟩ := hop a l w heq
  -- the pipe and the link replaced, the wire's signals still to deliver
  have ha : Awaiting q c.pipe (w.signals ++ [])
      ((s.setPipe c.pipe w.pipe).modifyConn k fun c => { c with link := l }) := by
    refine ⟨(h.setPipe hbound hcap).modifyConn k (fun _ => rfl) (fun _ => rfl) fun x hx hxk => ?_,
      forall_mem_modifyConn _ k (fun x hx hxk => ?_) fun x hx hxk => ?_⟩
    · obtain rfl := hone x hx hxk
      have hkx := h.kept x hx
      exact ⟨hwired, by rw [size_setPipe]; exact hkx.bound, hkx.readFlag, hkx.writeFlag⟩
    · obtain rfl := hone x hx hxk
      dsimp only
      rw [pipe_modifyConn, pipe_setPipe s hbound, if_pos rfl, if_pos rfl, List.append_nil]
      exact hwakes
    · have hxc : x.pipe ≠ c.pipe := fun he =>
        hxk ((congrArg Connection.id (List.inj_on_of_nodup_map h.pipes hx hcm he)).trans hck)
      rw [pipe_modifyConn, pipe_setPipe s hbound, if_neg hxc, if_neg hxc]
      exact hwk x hx hxk
  exact ha.deliver.wakeful

theorem close_hop {c : Connection} (hw : c.link.Wired serverSide) {w₀ w : Wire} {l : Link}
    (h : c.link.close.run w₀ = (l, w)) : l.Wired serverSide ∧ w.pipe.capacity = w₀.pipe.capacity ∧
      ({ c with link := l } : Connection).Wakes w.pipe w.signals := by
  have hl : (c.link.close.run w₀).1 = l := by rw [h]
  have hw' : (c.link.close.run w₀).2 = w := by rw [h]
  subst hl hw'
  exact ⟨hw.close w₀, Link.close_capacity _ w₀, .of_closed (hw.close w₀) (Link.close_closed _ w₀) _ _⟩

theorem Wakeful.cull (h : Wakeful q s) (k reason : Bytes) : Wakeful q (s.cull k reason) := by
  rcases cull_cases s k reason with ⟨he, -⟩ | ⟨c, hc, -, he⟩ <;> rw [he]
  · exact h
  -- torn down: nothing is owed but listening, and the link closes
  have h₁ := h.modifyConn k (f := fun c =>
      { c with dead := true, reason := if c.reason.isEmpty then reason else c.reason })
    (fun _ => rfl) (fun _ => rfl) fun x hx _ =>
      ⟨let hk := h.kept x hx; ⟨hk.wired, hk.bound, hk.readFlag, hk.writeFlag⟩,
        ⟨(h.wakes x hx).listening, (fun hd => by cases hd), fun hd => by cases hd⟩⟩
  have hc₁ : (s.modifyConn k fun c =>
      { c with dead := true, reason := if c.reason.isEmpty then reason else c.reason }).conn? k =
      some { c with dead := true, reason := if c.reason.isEmpty then reason else c.reason } := by
    rw [conn?_modifyConn _ _ (by intro; rfl), hc]
    rfl
  have hkc := h₁.kept _ ((conn?_eq_some_iff h₁.ids).1 hc₁).1
  have hl := h₁.toLaid.onLink (fun x hx _ => h₁.wakes x hx) hc₁
    (fun l => do return ((), ← l.close)) fun a l w heq => close_hop hkc.wired (run_link heq)
  exact hl.frame rfl rfl fun _ => id

theorem Wakeful.cullClosed (h : Wakeful q s) (k : Bytes) (reason : Connection → Bytes) :
    Wakeful q (s.cullClosed k reason) :=
  cullClosed_of reason h fun r => h.cull k r

theorem Wakeful.send (h : Wakeful q s) (k line : Bytes) : Wakeful q (s.send k line) := by
  rcases send_cases s k line with ⟨he, -⟩ | ⟨c, hc, -, -, he⟩ <;> rw [he]
  · exact h
  have hcm := ((conn?_eq_some_iff h.ids).1 hc).1
  have hwc := h.wakes c hcm
  have hl := h.toLaid.onLink (fun x hx _ => h.wakes x hx) hc
      (fun l => do return ((), ← l.write line)) fun a l w heq => by
    obtain ⟨hwired, hcap, hcase⟩ := Link.write_wakes (h.kept c hcm).wired line (run_link heq)
    refine ⟨hwired, hcap, ?_⟩
    rcases hcase with ⟨rfl, rfl⟩ | hcl | ⟨hopen, -, hpipe, hsig⟩
    · exact hwc
    · exact .of_closed hwired hcl _ _
    · -- the line is queued and the end signalled writable
      refine ⟨fun _ => hpipe ▸ hwc.listening hopen, fun hd hq _ => ?_, fun _ _ => .inr (.inl hsig)⟩
      rcases hwc.read hd hq hopen with hp | hnil | hwait
      · exact .inl hp
      · cases hnil
      · exact .inr (.inr (hpipe ▸ hwait))
  exact hl.cullClosed k _

theorem Wakeful.quit (h : Wakeful q s) (k reason : Bytes) : Wakeful q (s.quit k reason) := by
  rcases quit_cases s k reason with ⟨he, -⟩ | ⟨c, hc, -, he⟩ <;> rw [he]
  · exact h
  -- draining: no read is owed any more
  have h₁ := h.modifyConn k (f := fun c =>
      { c with quitting := true, quitAt := s.now, reason := reason, queue := c.queue.discard })
    (fun _ => rfl) (fun _ => rfl) fun x hx _ =>
      ⟨let hk := h.kept x hx; ⟨hk.wired, hk.bound, hk.readFlag, hk.writeFlag⟩,
        let hw := h.wakes x hx; ⟨hw.listening, (fun _ hq => by cases hq), hw.write⟩⟩
  have hc₁ : (s.modifyConn k fun c =>
      { c with quitting := true, quitAt := s.now, reason := reason, queue := c.queue.discard }).conn? k =
      some { c with quitting := true, quitAt := s.now, reason := reason, queue := c.queue.discard } := by
    rw [conn?_modifyConn _ _ (by intro; rfl), hc]
    rfl
  have hcm := ((conn?_eq_some_iff h₁.ids).1 hc₁).1
  have hkc := h₁.kept _ hcm
  have hwc := h₁.wakes _ hcm
  have hl := h₁.toLaid.onLink (fun x hx _ => h₁.wakes x hx) hc₁
      (fun l => do return ((), ← l.closeAfterFlush)) fun a l w heq => by
    have hrun := run_link heq
    by_cases hcl : c.link.closed = true
    · rw [Link.closeAfterFlush_closed hcl] at hrun
      obtain ⟨rfl, rfl⟩ := Prod.mk.inj hrun
      exact ⟨hkc.wired, rfl, .of_closed hkc.wired hcl _ _⟩
    · obtain ⟨hwired, hcap, hcase⟩ := Link.closeAfterFlush_wakes hkc.wired (by simpa using hcl) hrun
      refine ⟨hwired, hcap, ?_⟩
      rcases hcase with hcl' | ⟨rfl, hpipe, hsig⟩
      · exact .of_closed hwired hcl' _ _
      · exact ⟨fun hopen => hpipe ▸ hwc.listening hopen, (fun _ hq => by cases hq),
          fun _ _ => .inr (.inl hsig)⟩
  exact hl.cullClosed k _

theorem Wakeful.closeLink (h : Wakeful q s) (k reason : Bytes) : Wakeful q (s.closeLink k reason) :=
  (h.send k _).quit k reason

/-! ## Framing input, events and ticks -/

theorem frames_wakeful (k : Bytes) : Frames k (Wakeful q) where
  recv _ _ h := h.modifyConn k (fun _ => rfl) (fun _ => rfl) fun x hx _ =>
    let hk := h.kept x hx
    let hw := h.wakes x hx
    ⟨⟨⟨hk.wired.side, hk.wired.socket, hk.wired.layers, hk.wired.sendq, hk.wired.drained⟩, hk.bound,
      hk.readFlag, hk.writeFlag⟩, ⟨hw.listening, hw.read, hw.write⟩⟩
  modifyQueue _ _ h := h.modifyConn k (fun _ => rfl) (fun _ => rfl) fun x hx _ =>
    let hk := h.kept x hx
    let hw := h.wakes x hx
    ⟨⟨hk.wired, hk.bound, hk.readFlag, hk.writeFlag⟩, ⟨hw.listening, hw.read, hw.write⟩⟩
  counters _ _ h := h.frame rfl rfl fun _ => id
  closeLink _ reason h := h.closeLink k reason

theorem Laid.wakeful_of_others (h : Laid q s) {k : Bytes}
    (hwk : ∀ x ∈ s.conns, x.id ≠ k → x.Wakes (s.pipe x.pipe) [])
    (hk : ∀ c, s.conn? k = some c → c.Wakes (s.pipe c.pipe) []) : Wakeful q s := by
  refine ⟨h, fun x hx => ?_⟩
  by_cases hxk : x.id = k
  · exact hk x ((conn?_eq_some_iff h.ids).2 ⟨hx, hxk⟩)
  · exact hwk x hx hxk

/-- A read event for `k` keeps the invariant, run where `k`'s record owes no read: every other
record is awake, and `k`'s listens and owes its write. -/
theorem Laid.onReadable {k : Bytes} (h : Laid q s) (hwk : ∀ x ∈ s.conns, x.id ≠ k → x.Wakes (s.pipe x.pipe) [])
    (hk : ∀ x ∈ s.conns, x.id = k →
      (x.link.closed = false → (s.pipe x.pipe).listens serverSide = true) ∧ x.WriteWake (s.pipe x.pipe) []) :
    Wakeful q (s.onReadable k) := by
  rcases onReadable_cases s k with ⟨he, hst⟩ | ⟨c, hc, -, hcase⟩
  · -- no record, or a draining or torn-down one: no read is owed
    rw [he]
    refine h.wakeful_of_others hwk fun x hx => ?_
    obtain ⟨hxm, hxk⟩ := (conn?_eq_some_iff h.ids).1 hx
    obtain ⟨hlis, hwr⟩ := hk x hxm hxk
    refine ⟨hlis, fun hd hq _ => ?_, hwr⟩
    have hcl := hst x hx
    simp [Connection.closed, hd, hq] at hcl
  obtain ⟨hcm, hck⟩ := (conn?_eq_some_iff h.ids).1 hc
  obtain ⟨hlis, hwr⟩ := hk c hcm hck
  have hkc := h.kept c hcm
  have hl := h.onLink hwk hc (fun l => l.handleReadable) fun a l w heq => by
    by_cases hcl : c.link.closed = true
    · rw [Link.handleReadable_closed hcl] at heq
      obtain ⟨⟨-, rfl⟩, rfl⟩ := Prod.mk.inj heq
      exact ⟨hkc.wired, rfl, .of_closed hkc.wired hcl _ _⟩
    obtain ⟨hwired, hcap, hcase⟩ := Link.handleReadable_wakes hkc.wired (by simpa using hcl) heq
    refine ⟨hwired, hcap, ?_⟩
    rcases hcase with ⟨-, hcl'⟩ | ⟨-, hshape, hin, hread⟩
    · exact .of_closed hwired hcl' _ _
    · -- read until it would block: the end is signalled or waits
      have hclosed : l.closed = c.link.closed := (congrArg Link.closed hshape :)
      refine ⟨fun hopen => (hin.listens serverSide).trans (hlis (hclosed ▸ hopen)),
        fun _ _ _ => .inr hread, hwr.inward hin ?_⟩
      rw [← Link.pending_shape, hshape, Link.pending_shape]
  rcases hcase with ⟨e, -, he⟩ | ⟨-, he⟩ <;> rw [he]
  · exact hl.cull _ _
  · exact (frames_wakeful k).drainInput _ hl

/-- A write event for `k` keeps the invariant, run where `k`'s record owes no write: every other
record is awake, and `k`'s listens and owes its read. -/
theorem Laid.onWritable {k : Bytes} (h : Laid q s) (hwk : ∀ x ∈ s.conns, x.id ≠ k → x.Wakes (s.pipe x.pipe) [])
    (hk : ∀ x ∈ s.conns, x.id = k →
      (x.link.closed = false → (s.pipe x.pipe).listens serverSide = true) ∧ x.ReadWake (s.pipe x.pipe) []) :
    Wakeful q (s.onWritable k) := by
  rcases onWritable_cases s k with ⟨he, hdead⟩ | ⟨c, hc, -, hcase⟩
  · -- no record, or a torn-down one: no write is owed
    rw [he]
    refine h.wakeful_of_others hwk fun x hx => ?_
    obtain ⟨hxm, hxk⟩ := (conn?_eq_some_iff h.ids).1 hx
    obtain ⟨hlis, hrd⟩ := hk x hxm hxk
    exact ⟨hlis, hrd, fun hd' => absurd (hd'.symm.trans (hdead x hx)) Bool.noConfusion⟩
  obtain ⟨hcm, hck⟩ := (conn?_eq_some_iff h.ids).1 hc
  obtain ⟨hlis, hrd⟩ := hk c hcm hck
  have hkc := h.kept c hcm
  have hl := h.onLink hwk hc (fun l => l.flush) fun a l w heq => by
    by_cases hcl : c.link.closed = true
    · rw [Link.flush_closed hcl] at heq
      obtain ⟨⟨-, rfl⟩, rfl⟩ := Prod.mk.inj heq
      exact ⟨hkc.wired, rfl, .of_closed hkc.wired hcl _ _⟩
    have hopen : c.link.closed = false := by simpa using hcl
    obtain ⟨hwired, hcap, hcase⟩ := Link.flush_wakes hkc.wired hopen (hlis hopen) heq
    refine ⟨hwired, hcap, ?_⟩
    rcases hcase with hcl' | ⟨hopen', hout, hblocked⟩
    · exact .of_closed hwired hcl' _ _
    · -- what is left unsent has write interest, with a signal or a full pipe
      refine ⟨fun _ => (hout.listens serverSide).trans (hlis hopen), hrd.outward hout (hopen'.trans hopen.symm),
        fun _ hpos => ?_⟩
      obtain ⟨hwant, hsig | hfull⟩ := hblocked hpos
      · exact .inr (.inl hsig)
      · exact .inr (.inr ⟨hwant, hfull⟩)
  rcases hcase with ⟨e, -, he⟩ | ⟨-, he⟩ <;> rw [he]
  · exact hl.cull _ _
  · exact hl.cullClosed k _

theorem Wakeful.modifySession (h : Wakeful q s) (k : Bytes) {g : Session → Session}
    (hid : ∀ ss, (g ss).id = ss.id) : Wakeful q (s.modifySession k g) :=
  h.modifyConn k (fun c => hid c.session) (fun _ => rfl) fun x hx _ =>
    let hk := h.kept x hx
    let hw := h.wakes x hx
    ⟨⟨hk.wired, hk.bound, fun hr => by show Post.readable (g x.session).id ∈ _; rw [hid]; exact hk.readFlag hr,
      fun hw' => by show Post.writable (g x.session).id ∈ _; rw [hid]; exact hk.writeFlag hw'⟩,
      ⟨hw.listening, hw.read, hw.write⟩⟩

theorem Wakeful.modifyLocked (h : Wakeful q s) (k : Bytes) (g : Nat → Nat) :
    Wakeful q (s.modifyConn k fun c => { c with locked := g c.locked }) :=
  h.modifyConn k (fun _ => rfl) (fun _ => rfl) fun x hx _ =>
    let hk := h.kept x hx
    let hw := h.wakes x hx
    ⟨⟨hk.wired, hk.bound, hk.readFlag, hk.writeFlag⟩, ⟨hw.listening, hw.read, hw.write⟩⟩

theorem calm_wakeful (k : Bytes) : Calm k (Wakeful q) where
  modifySession _ _ hid _ h := h.modifySession k hid
  modifyQueue s f h := (frames_wakeful k).modifyQueue s f h
  lock _ h := h.modifyLocked k (· + 1)
  sendTo _ j line h := h.send j line
  closeLink _ reason _ h := h.closeLink k reason
  counters _ _ h := h.frame rfl rfl fun _ => id
  services _ _ h := h.frame rfl rfl fun _ => id
  pool _ _ _ _ _ h := h.frame rfl rfl fun _ => id
  parked _ _ h := h.frame rfl rfl fun _ => id

theorem Wakeful.count (h : Wakeful q s) (out : StepOutcome) : Wakeful q (s.count out).2 := by
  cases out <;> exact h.frame rfl rfl fun _ => id

theorem Wakeful.tick (h : Wakeful q s) : Wakeful q s.tick.2 := by
  unfold Node.tick
  refine foldl_preserves (fun acc : Nat × Node => Wakeful q acc.2) (fun acc j hacc => ?_) _ _
    (h.frame rfl rfl fun _ => id)
  obtain ⟨worked, t⟩ := acc
  dsimp only
  split
  · exact hacc
  · split
    · exact hacc
    · exact ((calm_wakeful j).step (fun u _ _ hu => hu.modifySession j fun _ => rfl) _ t hacc).count _

theorem Laid.pop {e : Post} (h : Laid (e :: q) s)
    (he : ∀ c ∈ s.conns, (c.readPosted = true → e ≠ .readable c.id) ∧ (c.writePosted = true → e ≠ .writable c.id)) :
    Laid q s :=
  ⟨h.capacity, h.pipes, h.ids, fun c hc => (h.kept c hc).pop (he c hc).1 (he c hc).2⟩

theorem Wakeful.clearRead {j : Bytes} {rest : List Post} (h : Wakeful (.readable j :: rest) s) :
    Laid rest (s.modifyConn j fun c => { c with readPosted := false }) ∧
      (∀ x ∈ (s.modifyConn j fun c => { c with readPosted := false }).conns, x.id ≠ j →
        x.Wakes (s.pipe x.pipe) []) ∧
      ∀ x ∈ (s.modifyConn j fun c => { c with readPosted := false }).conns, x.id = j →
        (x.link.closed = false → (s.pipe x.pipe).listens serverSide = true) ∧ x.WriteWake (s.pipe x.pipe) [] := by
  have hl := h.toLaid.modifyConn j (f := fun c => { c with readPosted := false }) (fun _ => rfl) (fun _ => rfl)
    fun x hx _ =>
      let hk := h.kept x hx
      ⟨hk.wired, hk.bound, fun hr => absurd hr Bool.false_ne_true, hk.writeFlag⟩
  refine ⟨hl.pop (forall_mem_modifyConn s j (fun _ _ _ => ⟨fun hr => absurd hr Bool.false_ne_true, fun _ he => Post.noConfusion he⟩)
      fun _ _ hxj => ⟨fun _ he => hxj (Post.readable.inj he).symm, fun _ he => Post.noConfusion he⟩),
    forall_mem_modifyConn s j (fun _ _ hxj hne => absurd hxj hne) fun x hx _ _ => h.wakes x hx,
    forall_mem_modifyConn s j (fun x hx _ _ => ⟨(h.wakes x hx).listening, (h.wakes x hx).write⟩)
      fun _ _ hxj hxj' => absurd hxj' hxj⟩

theorem Wakeful.clearWrite {j : Bytes} {rest : List Post} (h : Wakeful (.writable j :: rest) s) :
    Laid rest (s.modifyConn j fun c => { c with writePosted := false }) ∧
      (∀ x ∈ (s.modifyConn j fun c => { c with writePosted := false }).conns, x.id ≠ j →
        x.Wakes (s.pipe x.pipe) []) ∧
      ∀ x ∈ (s.modifyConn j fun c => { c with writePosted := false }).conns, x.id = j →
        (x.link.closed = false → (s.pipe x.pipe).listens serverSide = true) ∧ x.ReadWake (s.pipe x.pipe) [] := by
  have hl := h.toLaid.modifyConn j (f := fun c => { c with writePosted := false }) (fun _ => rfl) (fun _ => rfl)
    fun x hx _ =>
      let hk := h.kept x hx
      ⟨hk.wired, hk.bound, hk.readFlag, fun hw => absurd hw Bool.false_ne_true⟩
  refine ⟨hl.pop (forall_mem_modifyConn s j (fun _ _ _ => ⟨fun _ he => Post.noConfusion he, fun hw => absurd hw Bool.false_ne_true⟩)
      fun _ _ hxj => ⟨fun _ he => Post.noConfusion he, fun _ he => hxj (Post.writable.inj he).symm⟩),
    forall_mem_modifyConn s j (fun _ _ hxj hne => absurd hxj hne) fun x hx _ _ => h.wakes x hx,
    forall_mem_modifyConn s j (fun x hx _ _ => ⟨(h.wakes x hx).listening, (h.wakes x hx).read⟩)
      fun _ _ hxj hxj' => absurd hxj' hxj⟩

theorem Wakeful.runPosted (h : Wakeful [] s) : Wakeful [] s.runPosted := by
  unfold Node.runPosted
  have h₀ : Wakeful s.posted { s with posted := [] } :=
    ⟨⟨h.capacity, h.pipes, h.ids, fun c hc =>
      let hk := h.kept c hc
      ⟨hk.wired, hk.bound, fun hr => by simpa using hk.readFlag hr, fun hw => by simpa using hk.writeFlag hw⟩⟩,
      h.wakes⟩
  generalize s.posted = batch at h₀
  generalize ({ s with posted := [] } : Node) = t at h₀
  induction batch generalizing t with
  | nil => exact h₀
  | cons e rest ih =>
    rw [List.foldl_cons]
    apply ih
    cases e with
    | readable j =>
      obtain ⟨hl, hwk, hk⟩ := h₀.clearRead
      exact hl.onReadable hwk hk
    | writable j =>
      obtain ⟨hl, hwk, hk⟩ := h₀.clearWrite
      exact hl.onWritable hwk hk
    | completion job found =>
      -- no flag counts on a completion; the job's lock is released, then its command is answered
      have hrest : Wakeful rest t :=
        ⟨h₀.toLaid.pop fun _ _ => ⟨fun _ he => Post.noConfusion he, fun _ he => Post.noConfusion he⟩, h₀.wakes⟩
      exact (calm_wakeful job.conn).handles.answers.answerWork _ found (hrest.modifyLocked job.conn (· - 1))

theorem Wakeful.reap (h : Wakeful q s) : Wakeful q s.reap := by
  rw [reap_eq]
  split
  · exact h
  · -- each removal drops a queue and runs a close hook; then the torn-down records go
    have hfold : Wakeful q (s.culled.foldl reapOne s) :=
      foldl_preserves (Wakeful q) (f := reapOne) (fun t j ht =>
        ((frames_wakeful j).modifyQueue t _ ht).frame rfl rfl fun _ => id) _ _ h
    exact hfold.sublist rfl List.filter_sublist fun _ => id

theorem Wakeful.poll (h : Wakeful [] s) : Wakeful [] s.poll :=
  h.runPosted.tick.runPosted.reap

theorem Wakeful.housekeepOne (h : Wakeful q s) (now : Int) (j : Bytes) : Wakeful q (s.housekeepOne now j) := by
  cases hc : s.conn? j with
  | none =>
    unfold Node.housekeepOne
    rw [hc]
    exact h
  | some c =>
    rw [housekeepOne_eq now hc]
    cases timerAction s.config now c with
    | skip => exact h
    | cull => exact h.cull _ _
    | close reason => exact h.closeLink _ _
    | schedule due => exact h.modifySession c.id (g := fun ss => { ss with nextKeepAlive := some due }) fun _ => rfl
    | ping due => exact ((h.modifySession _ (by intro; rfl)).modifySession _ (by intro; rfl)).send _ _

theorem Wakeful.housekeep (h : Wakeful q s) (now : Int) : Wakeful q (s.housekeep now) :=
  (foldl_preserves (Wakeful q) (fun _ j ht => ht.housekeepOne now j) _ _ h).reap

/-! ## New pipes and connections, and the rest of a run -/

theorem capacity_create (capacity : Int) : 0 < (Pipe.create capacity).capacity := by
  unfold Pipe.create
  split
  · decide
  · simp only
    omega

theorem Wakeful.openPipe (h : Wakeful q s) (capacity : Int) : Wakeful q (s.openPipe capacity).2 := by
  -- the pipes already there are as they were
  have hold : ∀ i < s.net.size, (s.openPipe capacity).2.pipe i = s.pipe i := fun i hi => by
    show (s.net.push (Pipe.create capacity)).getD i default = s.net.getD i default
    simp [Array.getD_eq_getD_getElem?, Array.getElem?_push, hi, Nat.ne_of_lt hi]
  have hnew : (s.openPipe capacity).2.pipe s.net.size = Pipe.create capacity := by
    show (s.net.push (Pipe.create capacity)).getD s.net.size default = _
    simp [Array.getD_eq_getD_getElem?]
  have hsize : (s.openPipe capacity).2.net.size = s.net.size + 1 := by simp [Node.openPipe]
  refine ⟨⟨fun i hi => ?_, h.pipes, h.ids, fun c hc => (h.kept c hc).frame (by omega) fun _ => id⟩,
    fun c hc => ?_⟩
  · rw [hsize] at hi
    rcases Nat.lt_succ_iff_lt_or_eq.1 hi with hi | rfl
    · rw [hold i hi]
      exact h.capacity i hi
    · rw [hnew]
      exact capacity_create capacity
  · rw [hold _ (h.kept c hc).bound]
    exact h.wakes c hc

theorem deliver_nil (s : Node) (i : Nat) : s.deliver i [] = s := by
  unfold Node.deliver
  split <;> rfl

/-- Closing a chain's layers keeps its pipe's capacity. -/
theorem closeLayers_capacity : ∀ (layers : List LayerSpec) (w : Wire),
    ((closeLayers layers).run w).2.pipe.capacity = w.pipe.capacity
  | [], _ => rfl
  | .socket sock :: rest, w => by
    rw [closeLayers_run_socket, closeLayers_capacity rest, Socket.close_capacity]
  | .compressor _ :: rest, w => closeLayers_capacity rest w
  | .missing :: rest, w => closeLayers_capacity rest w

theorem Wakeful.setFree (h : Wakeful q s) {i : Nat} (hi : i < s.net.size) (hfree : ∀ c ∈ s.conns, c.pipe ≠ i)
    {p : Pipe} (hcap : p.capacity = (s.pipe i).capacity) (sigs : List Signal) :
    Wakeful q ((s.setPipe i p).deliver i sigs) := by
  have ha : Awaiting q i (sigs ++ []) (s.setPipe i p) := ⟨h.toLaid.setPipe hi hcap, fun x hx => by
    show x.Wakes ((s.setPipe i p).pipe x.pipe) _
    rw [pipe_setPipe s hi, if_neg (hfree x hx), if_neg (hfree x hx)]
    exact h.wakes x hx⟩
  exact ha.deliver.wakeful

theorem Wakeful.refuse (h : Wakeful q s) {pipe : Nat} (hpipe : pipe < s.net.size)
    (hfree : ∀ c ∈ s.conns, c.pipe ≠ pipe) (layers : List LayerSpec) (release : Option Nat) :
    Wakeful q (s.refuse layers pipe release) :=
  (h.setFree hpipe hfree (closeLayers_capacity layers _) _).frame rfl rfl fun _ => id

/-- A connection accepted with a value of `f` no connection has keeps the values distinct. -/
theorem nodup_map_accept {β : Type} (f : Connection → β) {s : Node} {c : Connection} {p : Pipe}
    (h : (s.conns.map f).Nodup) (hc : ∀ x ∈ s.conns, f x ≠ f c) : ((s.accept c p).conns.map f).Nodup := by
  rw [conns_accept, List.map_append, List.map_singleton]
  refine h.append (List.nodup_singleton _) (List.disjoint_singleton.2 fun hm => ?_)
  obtain ⟨x, hx, hfx⟩ := List.mem_map.1 hm
  exact hc x hx hfx

/-- Attaching a connection over fresh layers, on a pipe of the network no other connection holds,
with an id none has, keeps the invariant: its read event is posted at once. -/
theorem Wakeful.attach (h : Wakeful q s) {layers : List LayerSpec} (hfresh : ∀ l ∈ layers, l.Fresh)
    {pipe : Nat} (hpipe : pipe < s.net.size) (hfree : ∀ c ∈ s.conns, c.pipe ≠ pipe)
    (hnew : s.draining = false → ∀ c ∈ s.conns, c.id ≠ s.draws.id (s.sessions + 1)) (remote listener : Bytes)
    (release : Option Nat) : Wakeful q (s.attach layers pipe remote listener release).2 := by
  rcases attach_cases s layers pipe remote listener release with
    ⟨-, he⟩ | ⟨-, e, he⟩ | ⟨hdr, link, wire, hmade, he⟩ <;> rw [he]
  · exact h.refuse hpipe hfree layers release
  · exact (h.frame (t := { s with sessions := s.sessions + 1 }) rfl rfl fun _ => id).refuse hpipe hfree layers release
  · -- the fresh record sits alone on its pipe, which raised no signal yet
    obtain ⟨hwired, -, hpend, hwpipe, hsig⟩ := Link.create_fresh hfresh hmade
    rw [show wire.signals = [] from hsig, deliver_nil]
    have hl : Laid q (({ s with sessions := s.sessions + 1 } : Node).setPipe pipe wire.pipe) :=
      (h.toLaid.frame (t := { s with sessions := s.sessions + 1 }) rfl rfl fun _ => id).setPipe hpipe
        (by rw [hwpipe, Pipe.capacity_setListens]; rfl)
    apply Awaiting.wakeful (i := pipe)
    apply Awaiting.readable
    · refine ⟨⟨hl.capacity, ?_, ?_, fun x hx => ?_⟩, fun x hx => ?_⟩
      · exact nodup_map_accept (·.pipe) h.pipes hfree
      · exact nodup_map_accept (·.id) h.ids (hnew hdr)
      · rcases List.mem_append.1 hx with hx | hx
        · exact (h.kept x hx).frame (by simp [Node.accept, Node.setPipe]) fun _ => id
        · rw [List.mem_singleton.1 hx]
          exact ⟨hwired, by simpa [Node.accept, Node.setPipe] using hpipe, fun h => absurd h Bool.false_ne_true,
            fun h => absurd h Bool.false_ne_true⟩
      · rcases List.mem_append.1 hx with hx | hx
        · have hw := h.wakes x hx
          show x.Wakes ((({ s with sessions := s.sessions + 1 } : Node).setPipe pipe wire.pipe).pipe x.pipe) _
          rw [pipe_setPipe ({ s with sessions := s.sessions + 1 } : Node) hpipe, if_neg (hfree x hx),
            if_neg (hfree x hx)]
          exact hw
        · rw [List.mem_singleton.1 hx]
          show Connection.Wakes _ ((({ s with sessions := s.sessions + 1 } : Node).setPipe pipe wire.pipe).pipe pipe) _
          rw [pipe_setPipe ({ s with sessions := s.sessions + 1 } : Node) hpipe, pipe_fresh, if_pos rfl, if_pos rfl,
            hwpipe]
          exact ⟨fun _ => by simp, fun _ _ _ => .inr (.inl (List.mem_singleton_self _)),
            fun _ hpos => absurd hpos (by show ¬0 < link.pending; rw [hpend]; exact lt_irrefl 0)⟩
    · intro x hx hxi
      rcases List.mem_append.1 hx with hx | hx
      · exact absurd hxi (hfree x hx)
      · rw [List.mem_singleton.1 hx]
        rfl

/-! ## Clients, and runs -/

def clientDoes (s : Node) (i : Nat) (w : Wire) : Node := (s.setPipe i w.pipe).deliver i w.signals

theorem setPipe_of_le (s : Node) {i : Nat} (hi : s.net.size ≤ i) (p : Pipe) : s.setPipe i p = s := by
  simp [Node.setPipe, Array.setIfInBounds, Nat.not_lt.2 hi]

theorem Wakeful.clientDoes (h : Wakeful q s) {i : Nat} {w : Wire} (hrun : ClientRun ⟨s.pipe i, []⟩ w) :
    Wakeful q (s.clientDoes i w) := by
  unfold Node.clientDoes
  by_cases hi : i < s.net.size
  · -- the connection on the pipe, if any, is awake on the wire the client leaves
    have ha : Awaiting q i (w.signals ++ []) (s.setPipe i w.pipe) := by
      refine ⟨h.toLaid.setPipe hi hrun.capacity, fun x hx => ?_⟩
      rw [pipe_setPipe s hi, List.append_nil]
      by_cases hxi : x.pipe = i
      · rw [if_pos hxi, if_pos hxi]
        have hw := h.wakes x hx
        rw [hxi] at hw
        exact hw.client hrun (h.kept x hx).wired (h.capacity i hi)
      · rw [if_neg hxi, if_neg hxi]
        exact h.wakes x hx
    exact ha.deliver.wakeful
  · -- a pipe outside the network: nothing changes and no connection hears the signals
    rw [setPipe_of_le s (Nat.le_of_not_lt hi)]
    have ha : Awaiting q i (w.signals ++ []) s := ⟨h.toLaid, fun x hx => by
      have hxi : x.pipe ≠ i := fun he => hi (he ▸ (h.kept x hx).bound)
      rw [if_neg hxi]
      exact h.wakes x hx⟩
    exact ha.deliver.wakeful

theorem Wakeful.takeJob (h : Wakeful q s) : Wakeful q s.takeJob := by
  unfold Node.takeJob
  split
  · split
    · exact h.frame rfl rfl fun _ => id
    · exact h
  · exact h

theorem Wakeful.finishJob (h : Wakeful q s) (j : Job) : Wakeful q (s.finishJob j) := by
  unfold Node.finishJob
  split
  · dsimp only
    split
    · split
      · exact h.frame rfl rfl (List.subset_append_left _ _)
      · exact h.frame rfl rfl fun _ => id
    · exact h
  · exact h

theorem Wakeful.closeOpen (h : Wakeful q s) (reason : Bytes) : Wakeful q (s.closeOpen reason) := by
  refine foldl_preserves (Wakeful q) (fun t j ht => ?_) _ _ h
  unfold Node.closeIfOpen
  split
  · split
    · exact ht
    · exact ht.closeLink j reason
  · exact ht

theorem Wakeful.beginShutdown (h : Wakeful [] s) : Wakeful [] s.beginShutdown :=
  (Wakeful.runPosted (h.frame (t := { s with draining := true }) rfl rfl fun _ => id)).closeOpen _

theorem Wakeful.endShutdown (h : Wakeful q s) : Wakeful q s.endShutdown :=
  (foldl_preserves (Wakeful q) (fun _ j ht => ht.cull j shutdownReason) _ _ h).reap

/-- One operation of a run whose connections are in-memory socket chains: the loop's operations,
the pool's and shutdown's, a pipe opened, a connection attached over fresh layers on a pipe of the
network that no connection holds, what a client does at its end of a pipe, the clock, or an
operator changing the services. -/
inductive MemStep : Node → Node → Prop
  | openPipe (s : Node) (capacity : Int) : MemStep s (s.openPipe capacity).2
  | attach (s : Node) (layers : List LayerSpec) (pipe : Nat) (remote listener : Bytes) (release : Option Nat)
      (hfresh : ∀ l ∈ layers, l.Fresh) (hpipe : pipe < s.net.size) (hfree : ∀ c ∈ s.conns, c.pipe ≠ pipe) :
      MemStep s (s.attach layers pipe remote listener release).2
  | submit (s : Node) (id raw : Bytes) : MemStep s (s.submit id raw)
  | enqueue (s : Node) (id name : Bytes) (params : List Bytes) : MemStep s (s.enqueue id name params).2
  | tick (s : Node) : MemStep s s.tick.2
  | poll (s : Node) : MemStep s s.poll
  | housekeep (s : Node) (now : Int) : MemStep s (s.housekeep now)
  | client (s : Node) (pipe : Nat) {w : Wire} (hrun : ClientRun ⟨s.pipe pipe, []⟩ w) :
      MemStep s (s.clientDoes pipe w)
  | clock (s : Node) (now : Int) : MemStep s { s with now := now }
  | services (s : Node) (f : Services → Services) : MemStep s (s.modifyServices f)
  | startPool (s : Node) : MemStep s s.startPool
  | stopPool (s : Node) : MemStep s s.stopPool
  | takeJob (s : Node) : MemStep s s.takeJob
  | finishJob (s : Node) (j : Job) : MemStep s (s.finishJob j)
  | beginShutdown (s : Node) : MemStep s s.beginShutdown
  | shutdownRound (s : Node) : MemStep s s.shutdownRound
  | endShutdown (s : Node) : MemStep s s.endShutdown

theorem MemStep.next {s t : Node} (h : MemStep s t) : Next s t := by
  cases h with
  | openPipe capacity => exact .openPipe s capacity
  | attach layers pipe remote listener release => exact .attach s layers pipe remote listener release
  | submit id raw => exact .submit s id raw
  | enqueue id name params => exact .enqueue s id name params
  | tick => exact .tick s
  | poll => exact .poll s
  | housekeep now => exact .housekeep s now
  | @client pipe w _ => exact .peer s pipe w.pipe w.signals
  | clock now => exact .clock s now
  | services f => exact .services s f
  | startPool => exact .startPool s
  | stopPool => exact .stopPool s
  | takeJob => exact .takeJob s
  | finishJob j => exact .finishJob s j
  | beginShutdown => exact .beginShutdown s
  | shutdownRound => exact .shutdownRound s
  | endShutdown => exact .endShutdown s

theorem MemStep.wakeful {s t : Node} (hs : s.Reachable) (hd : t.draws.Distinct t.sessions) (h : MemStep s t)
    (hw : Wakeful [] s) : Wakeful [] t := by
  cases h with
  | openPipe capacity => exact hw.openPipe capacity
  | attach layers pipe remote listener release hfresh hpipe hfree =>
    -- an accepted chain gets the id drawn for the next session number, which no connection has
    refine hw.attach hfresh hpipe hfree (fun hdr => hs.numbered.fresh ?_) remote listener release
    rwa [draws_attach, sessions_attach hdr] at hd
  | submit id raw => exact (frames_wakeful id).submit s raw hw
  | enqueue id name params => exact (frames_wakeful id).enqueue s name params hw
  | tick => exact hw.tick
  | poll => exact hw.poll
  | housekeep now => exact hw.housekeep now
  | client pipe hrun => exact hw.clientDoes hrun
  | clock now => exact hw.frame rfl rfl fun _ => id
  | services f => exact hw.frame rfl rfl fun _ => id
  | startPool => exact hw.frame rfl rfl fun _ => id
  | stopPool => exact hw.frame rfl rfl fun _ => id
  | takeJob => exact hw.takeJob
  | finishJob j => exact hw.finishJob j
  | beginShutdown => exact hw.beginShutdown
  | shutdownRound => exact hw.runPosted.reap
  | endShutdown => exact hw.endShutdown

theorem start_wakeful (config : Config) (dispatcher : Dispatcher Builtin) (services : Services) (draws : Draws)
    (pool : Option WorkerPool) (now : Int) : Wakeful [] (Node.start config dispatcher services draws pool now) := by
  -- no pipes and no connections yet
  refine ⟨⟨fun i hi => ?_, by simp [Node.start], by simp [Node.start], fun c hc => ?_⟩, fun c hc => ?_⟩
  · simp [Node.start] at hi
  · simp [Node.start] at hc
  · simp [Node.start] at hc

/-- Every node of such a run from a fresh node, while the draws give distinct ids, is reachable and
loses no readiness. -/
theorem MemStep.run_wakeful {config : Config} {dispatcher : Dispatcher Builtin} {services : Services}
    {draws : Draws} {pool : Option WorkerPool} {now : Int} {s : Node}
    (hrun : Relation.ReflTransGen MemStep (Node.start config dispatcher services draws pool now) s)
    (hd : s.draws.Distinct s.sessions) : s.Reachable ∧ Wakeful [] s := by
  induction hrun with
  | refl => exact ⟨.start .., start_wakeful ..⟩
  | tail _ hstep ih =>
    obtain ⟨hr, hw⟩ := ih (distinct_of_follow (.single hstep.next) hd)
    exact ⟨hr.next hstep.next, hstep.wakeful hr hd hw⟩

/-! ## No readiness is lost -/

/-- After a client's operation the connection is found with the same record, its flags aside, on
the wire the client left, and the node still loses nothing. -/
theorem Wakeful.after_client (h : Wakeful [] s) {c : Connection} (hc : c ∈ s.conns) {w : Wire}
    (hrun : ClientRun ⟨s.pipe c.pipe, []⟩ w) :
    ∃ c' ∈ (s.clientDoes c.pipe w).conns, c'.unflagged = c.unflagged ∧ c'.id = c.id ∧
      (s.clientDoes c.pipe w).pipe c'.pipe = w.pipe ∧ Wakeful [] (s.clientDoes c.pipe w) := by
  have ht := h.clientDoes hrun
  have hfound : ((s.clientDoes c.pipe w).conn? c.id).map Connection.unflagged = some c.unflagged := by
    rw [Node.clientDoes, unflagged_deliver]
    show (s.conn? c.id).map Connection.unflagged = _
    rw [(conn?_eq_some_iff h.ids).2 ⟨hc, rfl⟩]
    rfl
  obtain ⟨c', hc', hu⟩ := Option.map_eq_some_iff.1 hfound
  obtain ⟨hm, hid⟩ := (conn?_eq_some_iff ht.ids).1 hc'
  have hpipe : c'.pipe = c.pipe := congrArg (·.pipe) hu
  refine ⟨c', hm, hu, hid, ?_, ht⟩
  rw [hpipe, Node.clientDoes, net_pipe_deliver, pipe_setPipe s (h.kept c hc).bound, if_pos rfl]

/-- Connection `c` of node `s` has lost no readiness: live and not draining, it has a read event
queued, or waits on an empty pipe with read interest registered, so that any write of bytes by its
client posts the event; live with output pending, it has a write event queued, or has write
interest registered on a full pipe, so that any read by its client posts the event. -/
def Ready (s : Node) (c : Connection) : Prop :=
  (c.dead = false → c.quitting = false →
    .readable c.id ∈ s.posted ∨
      (((s.pipe c.pipe).inbound serverSide).Waiting ∧ ∀ (m : Int) (b : Bytes), b ≠ [] →
        .readable c.id ∈ (s.clientDoes c.pipe
          (((client m).write (ChunkQueue.empty.push b)).run ⟨s.pipe c.pipe, []⟩).2).posted)) ∧
  (c.dead = false → 0 < c.link.pending →
    .writable c.id ∈ s.posted ∨
      (((s.pipe c.pipe).outbound serverSide).writeWant = true ∧
        (s.pipe c.pipe).capacity ≤ ((s.pipe c.pipe).outbound serverSide).buf.length ∧
        ∀ m : Int, .writable c.id ∈ (s.clientDoes c.pipe ((client m).read.run ⟨s.pipe c.pipe, []⟩).2).posted))

/-- In a node that loses nothing, a live connection that is not draining, its link open, has its
read event queued, or waits so that a write of bytes by its client posts the event. -/
theorem Wakeful.read_ready (h : Wakeful [] s) {c : Connection} (hc : c ∈ s.conns) (hd : c.dead = false)
    (hq : c.quitting = false) (hopen : c.link.closed = false) :
    .readable c.id ∈ s.posted ∨
      (((s.pipe c.pipe).inbound serverSide).Waiting ∧ ∀ (m : Int) (b : Bytes), b ≠ [] →
        .readable c.id ∈ (s.clientDoes c.pipe
          (((client m).write (ChunkQueue.empty.push b)).run ⟨s.pipe c.pipe, []⟩).2).posted) := by
  have hkc := h.kept c hc
  rcases (h.wakes c hc).read hd hq hopen with hp | hnil | hwait
  · exact .inl (by simpa using hkc.readFlag hp)
  · cases hnil
  · refine .inr ⟨hwait, fun m b hb => ?_⟩
    obtain ⟨c', hc', hu, hid, hpipe', ht⟩ := h.after_client hc (.write m _ (.refl _))
    obtain ⟨hd', -, hl', -, hq'⟩ := Connection.eq_of_unflagged hu
    -- the bytes written are buffered, so the connection no longer waits: its flag is set
    have hfull := Socket.write_chunk_fills (client m) rfl hb ⟨s.pipe c.pipe, []⟩ hwait.2.1 hwait.2.2
      (h.capacity _ hkc.bound)
    rcases (ht.wakes c' hc').read (hd'.symm.trans hd) (hq'.symm.trans hq) (by rw [← hl']; exact hopen) with
      hp | hnil | hwait'
    · rw [← hid]
      simpa using (ht.kept c' hc').readFlag hp
    · cases hnil
    · rw [hpipe'] at hwait'
      exact absurd hwait'.2.1 hfull

/-- In a node that loses nothing, a live connection with output pending has its write event
queued, or waits on a full pipe so that a read by its client posts the event. -/
theorem Wakeful.write_ready (h : Wakeful [] s) {c : Connection} (hc : c ∈ s.conns) (hd : c.dead = false)
    (hpos : 0 < c.link.pending) :
    .writable c.id ∈ s.posted ∨
      (((s.pipe c.pipe).outbound serverSide).writeWant = true ∧
        (s.pipe c.pipe).capacity ≤ ((s.pipe c.pipe).outbound serverSide).buf.length ∧
        ∀ m : Int, .writable c.id ∈ (s.clientDoes c.pipe ((client m).read.run ⟨s.pipe c.pipe, []⟩).2).posted) := by
  have hkc := h.kept c hc
  rcases (h.wakes c hc).write hd hpos with hp | hnil | ⟨hwant, hfull⟩
  · exact .inl (by simpa using hkc.writeFlag hp)
  · cases hnil
  · refine .inr ⟨hwant, hfull, fun m => ?_⟩
    obtain ⟨c', hc', hu, hid, hpipe', ht⟩ := h.after_client hc (.read m (.refl _))
    obtain ⟨hd', -, hl', -, -⟩ := Connection.eq_of_unflagged hu
    -- the read takes every byte buffered, so the pipe is no longer full: the flag is set
    generalize hrd : (client m).read.run ⟨s.pipe c.pipe, []⟩ = r at hc' hpipe' ht ⊢
    obtain ⟨⟨st, e, data⟩, w'⟩ := r
    have hreading := Socket.read_reading (client m) rfl hrd
    have hne : ((s.pipe c.pipe).outbound serverSide).buf ≠ [] := fun hnil => by
      have hcap := h.capacity _ hkc.bound
      rw [hnil] at hfull
      simp at hfull
      omega
    have hemp := hreading.emptied (by rwa [inbound_client])
    rw [inbound_client] at hemp
    rcases (ht.wakes c' hc').write (hd'.symm.trans hd) (by rw [← hl']; exact hpos) with hp | hnil | ⟨-, hfull'⟩
    · rw [← hid]
      simpa using (ht.kept c' hc').writeFlag hp
    · cases hnil
    · have hcap := h.capacity _ hkc.bound
      rw [hpipe', hemp, hreading.inward.capacity] at hfull'
      simp at hfull'
      omega

/-- No readiness is lost: in every node of a run from a fresh node whose connections are in-memory
socket chains, whatever the loop, the pool, shutdown and the clients do and in whatever order,
every connection is `Ready`, while the draws give distinct ids. -/
theorem readiness_never_lost {config : Config} {dispatcher : Dispatcher Builtin} {services : Services}
    {draws : Draws} {pool : Option WorkerPool} {now : Int} {s : Node}
    (hrun : Relation.ReflTransGen MemStep (Node.start config dispatcher services draws pool now) s)
    (hd : s.draws.Distinct s.sessions) {c : Connection} (hc : c ∈ s.conns) : s.Ready c := by
  obtain ⟨hr, hw⟩ := MemStep.run_wakeful hrun hd
  -- a live connection that is not draining has its link open
  have hsane := hr.sane hd c.id c ((conn?_eq_some_iff hw.ids).2 ⟨hc, rfl⟩)
  exact ⟨fun hd hq => hw.read_ready hc hd hq (hsane.open (by simp [Connection.closed, hd, hq])).2,
    fun hd hpos => hw.write_ready hc hd hpos⟩

/-- A client attached on a fresh pipe of a node whose pool has started sends a command, and the loop
takes a turn: its connection is live and has lost no readiness. -/
theorem readiness_after_ping :
    let s₀ := Node.start { (default : Config) with maxLine := 512, limits := ⟨65536, 1048576⟩, maxPending := 256 }
      ⟨builtinTable, []⟩ default .counter (some (WorkerPool.create 1 4)) 0
    let s₁ := ((s₀.startPool.openPipe 0).2.attach [.socket (Socket.create serverSide 0)] 0 (Bytes.ofString "mem:a")
      (Bytes.ofString "mem") (some 0)).2
    let s := (s₁.clientDoes 0 (((client 0).write (ChunkQueue.empty.push (Bytes.ofString "PING x\r\n"))).run
      ⟨s₁.pipe 0, []⟩).2).poll
    Relation.ReflTransGen MemStep s₀ s ∧ s.draws.Distinct s.sessions ∧
      ∃ c ∈ s.conns, c.dead = false ∧ c.quitting = false ∧ s.Ready c := by
  intro s₀ s₁ s
  have hattach : MemStep (s₀.startPool.openPipe 0).2 s₁ :=
    .attach _ _ 0 _ _ _ (by simp [LayerSpec.Fresh, Socket.create]) (by decide)
      (by simp [Node.openPipe, Node.startPool, s₀, Node.start])
  have hrun : Relation.ReflTransGen MemStep s₀ s :=
    .tail (.tail (.tail (.tail (.single (.startPool s₀)) (.openPipe _ 0)) hattach)
      (.client s₁ 0 (.write 0 _ (.refl _)))) (.poll _)
  have hd : s.draws.Distinct s.sessions := by
    rw [(draws_sessions_of_follow (Relation.ReflTransGen.mono (fun _ _ h => MemStep.next h) _ _ hrun)).1]
    exact Draws.counter_distinct (by decide +kernel)
  obtain ⟨c, hc, hlive⟩ : ∃ c ∈ s.conns, c.dead = false ∧ c.quitting = false := by decide +kernel
  exact ⟨hrun, hd, c, hc, hlive.1, hlive.2, readiness_never_lost hrun hd hc⟩

end Node

end LineKv.Server
