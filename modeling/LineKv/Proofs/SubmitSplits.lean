import Mathlib
import LineKv.Proofs.Teardown
import LineKv.Proofs.QueueTurn

/-!
Feeding a connection without flood control its input in pieces, however much time passes between
them: framing resumes where it stopped, so the pieces end where the whole string does
(`submit_pieces_as_whole`), unless a piece leaves an unterminated tail over the line limit.
-/

namespace LineKv.Server.Node

open Line Transport Command

/-! ## Writing intakes back -/

@[simp] theorem config_takeInput (s : Node) (id : Bytes) (q : Queue) (rest : Bytes) (k : Nat) :
    (s.takeInput id q rest k).config = s.config := rfl

@[simp] theorem keepAliveOf_takeInput (s : Node) (id : Bytes) (q : Queue) (rest : Bytes) (k : Nat) :
    (s.takeInput id q rest k).keepAliveOf = s.keepAliveOf := rfl

theorem absorb_absorb {s : Node} {id : Bytes} {r : Intake} (hr : r.halt = .starved) (r' : Intake) :
    (s.absorb id r).absorb id r' = s.absorb id { r' with rejected := r.rejected + r'.rejected } := by
  rw [absorb_of_starved hr, absorb_congr r.rejected (fun q rest k => takeInput_takeInput ..) r', Nat.add_comm]

theorem takeInput_append (s : Node) (id : Bytes) (q : Queue) (rest x : Bytes) (k : Nat) :
    s.takeInput id q (rest ++ x) k = (s.takeInput id q rest k).appendRecv id x := by
  have hcount : ∀ (t : Node) (n : Counters) (f : Connection → Connection),
      ({ t with counters := n } : Node).modifyConn id f = { t.modifyConn id f with counters := n } :=
    fun _ _ _ => rfl
  unfold takeInput appendRecv
  conv_rhs => rw [hcount]
  rw [modifyConn_modifyConn]
  · rfl
  · intro c
    rfl

theorem submit_of_closed {s : Node} {id : Bytes} {c : Connection} (hc : s.conn? id = some c)
    (hcl : c.closed = true) (raw : Bytes) : s.submit id raw = s := by
  simp [submit, hc, hcl]

/-! ## A queue without a limiter -/

theorem limiter_of_enqueue {q q' : Queue} {n : Bytes} {ps : List Bytes} {ka : Bool} {e : Option QueueError}
    (h : q.limiter = none) (he : q.enqueue n ps ka = (q', e)) : q'.limiter = none := by
  have hq := Queue.limiter_enqueue_of_none h n ps ka
  rwa [he] at hq

theorem intake_limiter {max : Nat} {keep : Bytes → Bool} {q : Queue} {buf : Bytes} (h : q.limiter = none) :
    (intake max keep q buf).queue.limiter = none := by
  fun_induction intake max keep q buf
  case case1 | case2 => exact h
  case case3 ih | case4 ih | case5 ih => exact ih h
  -- each enqueue keeps the queue without a limiter
  case case6 henq ih | case7 henq ih => exact ih (limiter_of_enqueue h henq)
  case case8 henq => exact limiter_of_enqueue h henq

theorem elapse_of_none {s : Node} {id : Bytes} {c : Connection} (hc : s.conn? id = some c)
    (hu : (s.conns.map (·.id)).Nodup) (hoff : c.queue.limiter = none) (answer : Nat → Bool) :
    s.modifyQueue id (·.elapse answer) = s :=
  modifyConn_eq_self hc hu (by simp only [Queue.elapse_of_none hoff])

/-- Once a connection without a limiter is closed, neither time nor input changes anything. -/
theorem foldl_submit_of_closed {s : Node} {id : Bytes} {c : Connection} (hc : s.conn? id = some c)
    (hcl : c.closed = true) (hu : (s.conns.map (·.id)).Nodup) (hoff : c.queue.limiter = none)
    (pieces : List (Bytes × (Nat → Bool))) :
    pieces.foldl (fun t p => (t.modifyQueue id (·.elapse p.2)).submit id p.1) s = s :=
  List.foldl_fixed' (fun p => by rw [elapse_of_none hc hu hoff, submit_of_closed hc hcl]) pieces

/-! ## Submitting in pieces -/

/-- Submitting the pieces of a byte string one at a time to a live connection without flood
control, with any time passing before each, ends in the node that submitting the string at once
reaches, the bytes of later pieces apart, provided that after each piece but the last the bytes
buffered past the last line feed are within the line limit. Those bytes are dropped only from a
connection that has been closed: a full queue closed its link, and later pieces are not buffered. -/
theorem submit_pieces_as_whole {s : Node} {id : Bytes} {c : Connection} (hc : s.conn? id = some c)
    (hlive : c.closed = false) (hu : (s.conns.map (·.id)).Nodup) (hoff : c.queue.limiter = none)
    (pieces : List (Bytes × (Nat → Bool))) (hne : pieces ≠ [])
    (htails : ∀ k, 0 < k → k < pieces.length →
      (openTail (c.link.recv ++ ((pieces.take k).map (·.1)).flatten)).length ≤ s.config.maxLine) :
    ∃ dropped, s.submit id (pieces.map (·.1)).flatten =
        (pieces.foldl (fun t p => (t.modifyQueue id (·.elapse p.2)).submit id p.1) s).appendRecv id dropped ∧
      (dropped = [] ∨ ∃ c', (pieces.foldl (fun t p => (t.modifyQueue id (·.elapse p.2)).submit id p.1) s).conn? id =
        some c' ∧ c'.closed = true) := by
  -- on the pieces: the first one is framed, and the rest see the connection it left
  induction pieces generalizing s c with
  | nil => exact absurd rfl hne
  | cons pa rest ih =>
    obtain ⟨p, a⟩ := pa
    by_cases hrest : rest = []
    · subst hrest
      refine ⟨[], ?_, .inl rfl⟩
      simp [appendRecv_nil, elapse_of_none hc hu hoff]
    have hlen : 0 < rest.length := List.length_pos_iff.2 hrest
    -- the first boundary leaves a tail within the limit, so the first piece does not fail
    have htail : (openTail (c.link.recv ++ p)).length ≤ s.config.maxLine := by
      simpa using htails 1 Nat.one_pos (by simp; omega)
    have hex : (intake s.config.maxLine s.keepAliveOf c.queue (c.link.recv ++ p)).halt ≠ .exceeded :=
      intake_ne_exceeded c.queue htail
    have hwhole : s.submit id ((p, a) :: rest |>.map (·.1)).flatten = s.absorb id
        ((intake s.config.maxLine s.keepAliveOf c.queue (c.link.recv ++ p)).resume (rest.map (·.1)).flatten
          (intake s.config.maxLine s.keepAliveOf)) := by
      rw [List.map_cons, List.flatten_cons, submit_eq_absorb hc hlive hu, ← List.append_assoc,
        intake_append _ _ _ hex]
    have hfold : ((p, a) :: rest).foldl (fun t p => (t.modifyQueue id (·.elapse p.2)).submit id p.1) s =
        rest.foldl (fun t p => (t.modifyQueue id (·.elapse p.2)).submit id p.1)
          (s.absorb id (intake s.config.maxLine s.keepAliveOf c.queue (c.link.recv ++ p))) := by
      rw [List.foldl_cons, elapse_of_none hc hu hoff, submit_eq_absorb hc hlive hu]
    have hlim := @intake_limiter s.config.maxLine s.keepAliveOf c.queue (c.link.recv ++ p) hoff
    rw [hwhole, hfold]
    generalize hr : intake s.config.maxLine s.keepAliveOf c.queue (c.link.recv ++ p) = r at hex htail hlim ⊢
    cases hh : r.halt with
    | exceeded => exact absurd hh hex
    | starved =>
      -- the connection is still live, holding the tail of what it was given
      have hrest₁ : r.rest = openTail (c.link.recv ++ p) := by
        rw [← hr]
        exact (intake_tail c.queue _ (by rw [hr, hh]; decide)).1
      have hs₁ : s.absorb id r = s.takeInput id r.queue r.rest r.rejected := absorb_of_starved hh
      have hc₁ := conn?_takeInput hc r.queue r.rest r.rejected
      have hu₁ := (ids_takeInput s id r.queue r.rest r.rejected).symm ▸ hu
      have htails₁ : ∀ k, 0 < k → k < rest.length →
          (openTail (r.rest ++ ((rest.take k).map (·.1)).flatten)).length ≤
            (s.takeInput id r.queue r.rest r.rejected).config.maxLine := by
        intro k hk hkl
        have h := htails (k + 1) (Nat.succ_pos k) (by simp; omega)
        rw [hrest₁, openTail_openTail_append, List.append_assoc, config_takeInput]
        simpa using h
      obtain ⟨d, hd, hcl⟩ := ih hc₁ hlive hu₁ hlim hrest htails₁
      refine ⟨d, ?_, hs₁ ▸ hcl⟩
      rw [hs₁, ← hd, submit_eq_absorb hc₁ hlive hu₁, config_takeInput, keepAliveOf_takeInput, ← hs₁,
        absorb_absorb hh]
      unfold Intake.resume
      rw [hh]
    | full =>
      -- the queue filled: the link closes with the bytes after the refused line still buffered,
      -- and every later piece is ignored
      have hlive₁ : ({ c with queue := r.queue, link := { c.link with recv := r.rest } } : Connection).closed =
          false := hlive
      obtain ⟨c', hc', hst⟩ := closeLink_standing (conn?_takeInput hc r.queue r.rest r.rejected) hlive₁
        (Bytes.ofString "RecvQ exceeded")
      have hcl' : c'.closed = true := by
        rcases hst with ⟨h, -⟩ | ⟨h, -⟩ <;> simp [Connection.closed, h]
      -- closing keeps the commands or drops them, and either way no limiter
      have hoff' : c'.queue.limiter = none := by
        rcases hst with ⟨-, h⟩ | ⟨-, h⟩ <;> rw [h] <;> exact hlim
      have hs₁ : s.absorb id r =
          (s.takeInput id r.queue r.rest r.rejected).closeLink id (Bytes.ofString "RecvQ exceeded") :=
        absorb_of_stopped (by rw [hh]; decide)
      have hu₂ : ((s.absorb id r).conns.map (·.id)).Nodup := by
        rw [hs₁, ids_of_frame (frame_closeLink ..), ids_takeInput]
        exact hu
      obtain ⟨d, -, hd⟩ := closeLink_appendRecv (s.takeInput id r.queue r.rest r.rejected) id
        (rest.map (·.1)).flatten (Bytes.ofString "RecvQ exceeded")
      refine ⟨d, ?_, .inr ⟨c', ?_, hcl'⟩⟩
      · rw [foldl_submit_of_closed (hs₁ ▸ hc') hcl' hu₂ hoff', hs₁, ← hd, ← takeInput_append]
        unfold Intake.resume absorb
        rw [hh]
      · rw [foldl_submit_of_closed (hs₁ ▸ hc') hcl' hu₂ hoff', hs₁]
        exact hc'

/-- A PING in two pieces, on a node with a line limit of four bytes, with time passing before the
second that would have made a limiter refuse everything: the split keeps every tail within the
limit. -/
theorem submit_pieces_as_whole_on_ping :
    let s := ((Node.start { (default : Config) with maxLine := 4, limits := ⟨65536, 1048576⟩, maxPending := 256 }
      ⟨builtinTable, []⟩ default .counter none 0).openPipe 0).2.attach
      [.socket (Socket.create serverSide 0)] 0 (Bytes.ofString "mem:a") (Bytes.ofString "mem") none |>.2
    let pieces : List (Bytes × (Nat → Bool)) := [(Bytes.ofString "PI", fun _ => true), (Bytes.ofString "NG\r\n", fun _ => false)]
    ∃ dropped, s.submit (sessionId 1) (pieces.map (·.1)).flatten =
        (pieces.foldl (fun t p => (t.modifyQueue (sessionId 1) (·.elapse p.2)).submit (sessionId 1) p.1) s).appendRecv
          (sessionId 1) dropped ∧
      (dropped = [] ∨ ∃ c', (pieces.foldl (fun t p => (t.modifyQueue (sessionId 1) (·.elapse p.2)).submit
        (sessionId 1) p.1) s).conn? (sessionId 1) = some c' ∧ c'.closed = true) := by
  intro s pieces
  obtain ⟨c, hc⟩ : ∃ c, s.conn? (sessionId 1) = some c := Option.isSome_iff_exists.1 (by decide +kernel)
  have hview : (s.conn? (sessionId 1)).map (fun c => (c.closed, c.link.recv, c.queue.limiter.isNone)) =
      some (false, [], true) := by
    decide +kernel
  simp only [hc, Option.map_some, Option.some.injEq, Prod.mk.injEq, Option.isNone_iff_eq_none] at hview
  refine submit_pieces_as_whole hc hview.1 (by decide +kernel) hview.2.2 pieces (by simp [pieces]) ?_
  intro k hk hkl
  obtain rfl : k = 1 := by simp [pieces] at hkl; omega
  rw [hview.2.1]
  decide +kernel

/-- The split the tails condition rules out: with a line limit of four bytes, "PING\r\n" sent at
once queues a PING, while "PING\r" then "\n" leaves an unterminated five-byte tail after the
first piece, and the connection is closed with nothing queued. -/
theorem crlf_split_at_line_limit_closes_link :
    let s := ((Node.start { (default : Config) with maxLine := 4, limits := ⟨65536, 1048576⟩, maxPending := 256 }
      ⟨builtinTable, []⟩ default .counter none 0).openPipe 0).2.attach
      [.socket (Socket.create serverSide 0)] 0 (Bytes.ofString "mem:a") (Bytes.ofString "mem") none |>.2
    ((s.submit (sessionId 1) (Bytes.ofString "PING\r\n")).conn? (sessionId 1)).map
        (fun c => (c.closed, c.queue.pending.length, c.reason)) = some (false, 1, []) ∧
      (((s.submit (sessionId 1) (Bytes.ofString "PING\r")).submit (sessionId 1) (Bytes.ofString "\n")).conn?
        (sessionId 1)).map (fun c => (c.closed, c.queue.pending.length, c.reason)) =
        some (true, 0, Bytes.ofString "RecvQ exceeded") := by
  decide +kernel

end LineKv.Server.Node
