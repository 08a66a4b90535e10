import Mathlib
import LineKv.Proofs.ReplyLines
import LineKv.Proofs.NodeFrame

/-!
Draining a receive buffer, as a function of the connection alone. Main statement:
`drain_eq_absorb`.
-/

namespace LineKv

theorem Bytes.cut_append {buf raw rest : Bytes} {sep : UInt8} (h : Bytes.cut buf sep = (raw, some rest))
    (x : Bytes) : Bytes.cut (buf ++ x) sep = (raw, some (rest ++ x)) := by
  have hbuf := Bytes.cut_some buf sep rest (by rw [h])
  have hraw := Bytes.cut_fst_not_mem buf sep
  rw [h] at hbuf hraw
  rw [hbuf, List.append_assoc, List.cons_append]
  exact Bytes.cut_append_of_not_mem hraw _

end LineKv

namespace LineKv.Line

/-! ## One framing step -/

theorem next_of_cut {buf raw rest : Bytes} (h : Bytes.cut buf 10 = (raw, some rest)) (max : Nat) :
    next max buf = if (dropCR raw).length > max then .overlong (dropCR raw).length max rest
      else .line (Bytes.replaceByte (dropCR raw) 0 32) rest := by
  unfold next
  rw [h]

theorem next_of_not_mem {buf : Bytes} (h : 10 ∉ buf) (max : Nat) :
    next max buf = if buf.length > max then .exceeded buf.length else .incomplete := by
  have hn := (Bytes.cut_none_iff buf 10).2 h
  unfold next
  cases hc : Bytes.cut buf 10 with
  | mk raw after =>
    rw [hc] at hn
    cases hn
    rfl

theorem next_of_lf_free {buf : Bytes} (h : 10 ∉ buf) (max : Nat) :
    next max buf = .incomplete ∨ next max buf = .exceeded buf.length := by
  rw [next_of_not_mem h]
  split
  · exact .inr rfl
  · exact .inl rfl

theorem cut_of_taken (max : Nat) (buf : Bytes) (h : next max buf ≠ .incomplete)
    (h' : ∀ n, next max buf ≠ .exceeded n) :
    ∃ raw, Bytes.cut buf 10 = (raw, some ((next max buf).remaining buf)) := by
  rcases next_rest max buf with ⟨raw, hraw, hb⟩ | ⟨hn, -⟩
  · refine ⟨raw, ?_⟩
    conv => lhs; rw [hb]
    exact Bytes.cut_append_of_not_mem hraw _
  · rcases next_of_lf_free hn max with h2 | h2
    · exact absurd h2 h
    · exact absurd h2 (h' _)

theorem next_line_append {max : Nat} {buf text rest : Bytes} (h : next max buf = .line text rest)
    (x : Bytes) : next max (buf ++ x) = .line text (rest ++ x) := by
  obtain ⟨raw, hc⟩ := cut_of_taken max buf (by simp [h]) (by simp [h])
  simp only [h, Next.remaining] at hc
  rw [next_of_cut hc] at h
  rw [next_of_cut (Bytes.cut_append hc x)]
  split at h
  · cases h
  · cases h
    rw [if_neg ‹_›]

theorem next_overlong_append {max len limit : Nat} {buf rest : Bytes}
    (h : next max buf = .overlong len limit rest) (x : Bytes) :
    next max (buf ++ x) = .overlong len limit (rest ++ x) := by
  obtain ⟨raw, hc⟩ := cut_of_taken max buf (by simp [h]) (by simp [h])
  simp only [h, Next.remaining] at hc
  rw [next_of_cut hc] at h
  rw [next_of_cut (Bytes.cut_append hc x)]
  split at h
  · cases h
    rw [if_pos ‹_›]
  · cases h

theorem remaining_length_lt {max : Nat} {buf : Bytes} (h : ∀ n, next max buf ≠ .exceeded n)
    (h' : next max buf ≠ .incomplete) : ((next max buf).remaining buf).length < buf.length := by
  obtain ⟨raw, hc⟩ := cut_of_taken max buf h' h
  have hb := Bytes.cut_some buf 10 _ (by rw [hc])
  rw [hc] at hb
  conv => rhs; rw [hb]
  simp only [List.length_append, List.length_cons]
  omega

theorem next_line_length {max : Nat} {buf text rest : Bytes} (h : next max buf = .line text rest) :
    rest.length < buf.length := by
  have hl := @remaining_length_lt max buf (by simp [h]) (by simp [h])
  rwa [h] at hl

theorem next_overlong_length {max len limit : Nat} {buf rest : Bytes}
    (h : next max buf = .overlong len limit rest) : rest.length < buf.length := by
  have hl := @remaining_length_lt max buf (by simp [h]) (by simp [h])
  rwa [h] at hl

theorem next_incomplete {max : Nat} {buf : Bytes} (h : next max buf = .incomplete) :
    10 ∉ buf ∧ buf.length ≤ max := by
  rcases next_rest max buf with ⟨raw, -, hb⟩ | ⟨hn, -⟩
  · rw [h] at hb
    simp only [Next.remaining] at hb
    have := congrArg List.length hb
    simp at this
    omega
  · rw [next_of_not_mem hn] at h
    split at h
    · cases h
    · exact ⟨hn, by omega⟩

theorem next_exceeded {max len : Nat} {buf : Bytes} (h : next max buf = .exceeded len) :
    10 ∉ buf ∧ max < buf.length := by
  rcases next_rest max buf with ⟨raw, -, hb⟩ | ⟨hn, -⟩
  · rw [h] at hb
    simp only [Next.remaining] at hb
    have := congrArg List.length hb
    simp at this
    omega
  · rw [next_of_not_mem hn] at h
    split at h
    · exact ⟨hn, by omega⟩
    · cases h

def openTail (b : Bytes) : Bytes := (b.reverse.takeWhile (· != 10)).reverse

theorem lf_not_mem_openTail (b : Bytes) : 10 ∉ openTail b := by
  intro h
  rw [openTail, List.mem_reverse] at h
  simpa using List.mem_takeWhile_imp h

theorem openTail_of_lf_free {b : Bytes} (h : 10 ∉ b) : openTail b = b := by
  have hall : ∀ x ∈ b.reverse, (x != 10) = true := fun x hx => by
    rw [List.mem_reverse] at hx
    simpa using ne_of_mem_of_not_mem hx h
  rw [openTail, List.takeWhile_eq_self_iff.2 hall, List.reverse_reverse]

theorem openTail_append_lf (raw rest : Bytes) : openTail (raw ++ 10 :: rest) = openTail rest := by
  have hr : (raw ++ 10 :: rest).reverse = rest.reverse ++ 10 :: raw.reverse := by simp
  rw [openTail, openTail, hr, List.takeWhile_append]
  split
  · rename_i hlen
    rw [(List.takeWhile_prefix _).eq_of_length hlen]
    simp
  · rfl

theorem openTail_append (b x : Bytes) :
    openTail (b ++ x) = if 10 ∈ x then openTail x else openTail b ++ x := by
  split
  · rename_i h
    obtain ⟨x₁, x₂, rfl⟩ := List.append_of_mem h
    rw [← List.append_assoc, openTail_append_lf, openTail_append_lf]
  · rename_i h
    have hall : ∀ a ∈ x.reverse, (a != 10) = true := fun a ha => by
      rw [List.mem_reverse] at ha
      simpa using ne_of_mem_of_not_mem ha h
    rw [openTail, List.reverse_append, List.takeWhile_append_of_pos hall, List.reverse_append,
      List.reverse_reverse, openTail]

theorem openTail_openTail_append (b x : Bytes) : openTail (openTail b ++ x) = openTail (b ++ x) := by
  rw [openTail_append, openTail_append, openTail_of_lf_free (lf_not_mem_openTail b)]

theorem openTail_remaining (max : Nat) (buf : Bytes) :
    openTail ((next max buf).remaining buf) = openTail buf := by
  rcases next_rest max buf with ⟨raw, -, hb⟩ | ⟨-, hb⟩
  · conv => rhs; rw [hb]
    rw [openTail_append_lf]
  · rw [hb]

theorem openTail_of_line {max : Nat} {buf text rest : Bytes} (h : next max buf = .line text rest) :
    openTail rest = openTail buf := by
  simpa [h, Next.remaining] using openTail_remaining max buf

theorem openTail_of_overlong {max len limit : Nat} {buf rest : Bytes}
    (h : next max buf = .overlong len limit rest) : openTail rest = openTail buf := by
  simpa [h, Next.remaining] using openTail_remaining max buf

end LineKv.Line

namespace LineKv.Server

open Line

/-! ## Framing a buffer into a queue -/

/-- Why framing a receive buffer into a queue stopped. -/
inductive Halt where
  /-- No complete line is left, and the unterminated tail is within the limit. -/
  | starved
  /-- The unterminated tail is over the limit. -/
  | exceeded
  /-- The queue refused a command for being full. -/
  | full
  deriving DecidableEq, Repr

/-- What framing a receive buffer into a queue leaves: the queue, how many lines it refused, the
bytes still buffered, and why it stopped. -/
structure Intake where
  queue : Queue
  rejected : Nat
  rest : Bytes
  halt : Halt

def Intake.refuse (r : Intake) : Intake := { r with rejected := r.rejected + 1 }

/-- Frame `buf` line by line into `q`, with the line limit `max` and the keep-alive flag `keep`
gives each command name: an over-long line is refused, an empty one passed over, an undecodable
one refused, and a command enqueued, a flood rejection counting as refused; a full queue, or an
unterminated tail over the limit, stops it. -/
def intake (max : Nat) (keep : Bytes → Bool) (q : Queue) (buf : Bytes) : Intake :=
  match _h : next max buf with
  | .exceeded _ => ⟨q, 1, buf, .exceeded⟩
  | .incomplete => ⟨q, 0, buf, .starved⟩
  | .overlong _ _ rest => (intake max keep q rest).refuse
  | .line text rest =>
    if text.isEmpty then intake max keep q rest
    else
      match decode text with
      | .error _ => (intake max keep q rest).refuse
      | .ok msg =>
        match q.enqueue msg.command msg.params (keep msg.command) with
        | (q', none) => intake max keep q' rest
        | (q', some .flood) => (intake max keep q' rest).refuse
        | (q', some _) => ⟨q', 0, rest, .full⟩
termination_by buf.length
decreasing_by
  · exact next_overlong_length _h
  all_goals exact next_line_length _h

section Steps

variable {max : Nat} {keep : Bytes → Bool} {q : Queue} {buf rest : Bytes}

theorem intake_exceeded {n : Nat} (h : next max buf = .exceeded n) :
    intake max keep q buf = ⟨q, 1, buf, .exceeded⟩ := by
  rw [intake]
  split <;> simp_all

theorem intake_incomplete (h : next max buf = .incomplete) :
    intake max keep q buf = ⟨q, 0, buf, .starved⟩ := by
  rw [intake]
  split <;> simp_all

theorem intake_overlong {len limit : Nat} (h : next max buf = .overlong len limit rest) :
    intake max keep q buf = (intake max keep q rest).refuse := by
  rw [intake]
  split <;> simp_all

theorem intake_line {text : Bytes} (h : next max buf = .line text rest) :
    intake max keep q buf =
      if text.isEmpty then intake max keep q rest
      else
        match decode text with
        | .error _ => (intake max keep q rest).refuse
        | .ok msg =>
          match q.enqueue msg.command msg.params (keep msg.command) with
          | (q', none) => intake max keep q' rest
          | (q', some .flood) => (intake max keep q' rest).refuse
          | (q', some _) => ⟨q', 0, rest, .full⟩ := by
  rw [intake]
  split <;> simp_all

end Steps

/-- The intake of `buf ++ x` told from the intake `r` of `buf`: after a stop on a full queue, `x`
waits behind the bytes left; when the buffer ran dry, framing goes on over the tail and `x` with
the queue as left. -/
def Intake.resume (r : Intake) (x : Bytes) (go : Queue → Bytes → Intake) : Intake :=
  match r.halt with
  | .starved =>
    let r' := go r.queue (r.rest ++ x)
    { r' with rejected := r.rejected + r'.rejected }
  | _ => { r with rest := r.rest ++ x }

@[simp] theorem Intake.refuse_halt (r : Intake) : r.refuse.halt = r.halt := rfl

@[simp] theorem Intake.refuse_rest (r : Intake) : r.refuse.rest = r.rest := rfl

@[simp] theorem Intake.refuse_queue (r : Intake) : r.refuse.queue = r.queue := rfl

theorem Intake.refuse_resume (r : Intake) (x : Bytes) (go : Queue → Bytes → Intake) :
    r.refuse.resume x go = (r.resume x go).refuse := by
  unfold Intake.resume Intake.refuse
  cases r.halt <;> simp only [Nat.add_right_comm]

theorem intake_append {max : Nat} {keep : Bytes → Bool} (q : Queue) (buf x : Bytes)
    (h : (intake max keep q buf).halt ≠ .exceeded) :
    intake max keep q (buf ++ x) = (intake max keep q buf).resume x (intake max keep) := by
  -- on the buffer's length: each line taken leaves a shorter buffer, framed the same way with
  -- `x` behind it
  induction hn : buf.length using Nat.strong_induction_on generalizing q buf with
  | _ n ih =>
  subst hn
  rcases hnext : next max buf with ⟨text, rest⟩ | ⟨len, limit, rest⟩ | _ | len
  · have hlt := next_line_length hnext
    rw [intake_line hnext] at h ⊢
    rw [intake_line (next_line_append hnext x)]
    by_cases he : text.isEmpty
    · simp only [he, if_true] at h ⊢
      exact ih _ hlt q rest h rfl
    · simp only [he, Bool.false_eq_true, if_false] at h ⊢
      cases hd : decode text with
      | error e =>
        simp only [hd] at h ⊢
        rw [Intake.refuse_resume, ih _ hlt q rest h rfl]
      | ok msg =>
        simp only [hd] at h ⊢
        rcases hq : q.enqueue msg.command msg.params (keep msg.command) with ⟨q', _ | ⟨_ | _ | _ | _⟩⟩
        · simp only [hq] at h ⊢
          exact ih _ hlt q' rest h rfl
        · rfl
        · simp only [hq] at h ⊢
          rw [Intake.refuse_resume, ih _ hlt q' rest h rfl]
        · rfl
        · rfl
  · rw [intake_overlong hnext] at h ⊢
    rw [intake_overlong (next_overlong_append hnext x), Intake.refuse_resume,
      ih _ (next_overlong_length hnext) q rest h rfl]
  · rw [intake_incomplete hnext]
    simp [Intake.resume]
  · rw [intake_exceeded hnext] at h
    exact absurd rfl h

/-- Unless the queue filled, framing stops on the unterminated tail of the buffer, and stops
there for good exactly when the tail is over the limit. -/
theorem intake_tail {max : Nat} {keep : Bytes → Bool} (q : Queue) (buf : Bytes)
    (h : (intake max keep q buf).halt ≠ .full) :
    (intake max keep q buf).rest = openTail buf ∧
      ((intake max keep q buf).halt = .exceeded ↔ max < (openTail buf).length) := by
  -- every line taken keeps the tail, so each step hands the question to the rest
  fun_induction intake max keep q buf with
  | case1 q buf len hn =>
    have ⟨hlf, hlong⟩ := next_exceeded hn
    simp [openTail_of_lf_free hlf, hlong]
  | case2 q buf hn =>
    have ⟨hlf, hshort⟩ := next_incomplete hn
    simp [openTail_of_lf_free hlf, hshort]
  | case3 q buf len limit rest hn ih =>
    simpa [openTail_of_overlong hn] using ih h
  | case4 q buf text rest hn he ih =>
    simpa [openTail_of_line hn] using ih h
  | case5 q buf text rest hn he e hd ih =>
    simpa [openTail_of_line hn] using ih h
  | case6 q buf text rest hn he msg hd q' hq ih =>
    simpa [openTail_of_line hn] using ih h
  | case7 q buf text rest hn he msg hd q' hq ih =>
    simpa [openTail_of_line hn] using ih h
  | case8 => exact absurd rfl h

theorem intake_ne_exceeded {max : Nat} {keep : Bytes → Bool} (q : Queue) {buf : Bytes}
    (h : (openTail buf).length ≤ max) : (intake max keep q buf).halt ≠ .exceeded := by
  intro he
  have hlong := ((intake_tail q buf (by rw [he]; decide)).2.1 he)
  exact absurd h (Nat.not_le.2 hlong)

/-! ## The loop's drain is the intake -/

namespace Node

theorem conn?_modifyConn (s : Node) (id : Bytes) {f : Connection → Connection}
    (hf : ∀ c, (f c).id = c.id) : (s.modifyConn id f).conn? id = (s.conn? id).map f := by
  simp only [conn?, modifyConn, List.find?_map]
  -- the change keeps ids, so the same connection is found
  have hp : ((fun c : Connection => c.id == id) ∘ fun c => if c.id == id then f c else c) =
      fun c => c.id == id := by
    funext c
    by_cases h : c.id = id <;> simp [h, hf]
  rw [hp]
  cases hfind : s.conns.find? (·.id == id) with
  | none => rfl
  | some c =>
    have hid : c.id = id := by simpa using List.find?_some hfind
    simp [hid]

theorem modifyConn_modifyConn (s : Node) (id : Bytes) (f : Connection → Connection)
    {g : Connection → Connection} (hg : ∀ c, (g c).id = c.id) :
    (s.modifyConn id g).modifyConn id f = s.modifyConn id (f ∘ g) := by
  simp only [modifyConn, List.map_map]
  congr 1
  apply List.map_congr_left
  intro c _
  by_cases h : c.id = id <;> simp [h, hg]

theorem modifyConn_eq_self {s : Node} {id : Bytes} {c : Connection} (hc : s.conn? id = some c)
    (hu : (s.conns.map (·.id)).Nodup) {f : Connection → Connection} (hf : f c = c) :
    s.modifyConn id f = s := by
  have hmem := List.mem_of_find?_eq_some hc
  have hid : c.id = id := by simpa using List.find?_some hc
  have hone : ∀ c' ∈ s.conns, c'.id = id → c' = c := fun c' hc' h' =>
    List.inj_on_of_nodup_map hu hc' hmem (h'.trans hid.symm)
  suffices s.conns.map (fun c' => if c'.id == id then f c' else c') = s.conns by
    simp only [modifyConn, this]
  conv => rhs; rw [← List.map_id s.conns]
  apply List.map_congr_left
  intro c' hc'
  by_cases h : c'.id = id
  · rw [hone c' hc' h]
    simp [hid, hf]
  · simp [h]

def keepAliveOf (s : Node) (name : Bytes) : Bool :=
  ((s.dispatcher.lookup name).map (·.keepAlive)).getD false

/-- The node with a connection's queue and receive buffer replaced, and `k` more lines counted as
rejected. -/
def takeInput (s : Node) (id : Bytes) (q : Queue) (rest : Bytes) (k : Nat) : Node :=
  { s.modifyConn id (fun c => { c with queue := q, link := { c.link with recv := rest } }) with
    counters := { s.counters with rejected := s.counters.rejected + k } }

/-- An intake written back into the node: the connection takes its queue and buffer, the refused
lines are counted, and a stop other than on a dry buffer closes the link with `RecvQ exceeded`. -/
def absorb (s : Node) (id : Bytes) (r : Intake) : Node :=
  match r.halt with
  | .starved => s.takeInput id r.queue r.rest r.rejected
  | _ => (s.takeInput id r.queue r.rest r.rejected).closeLink id (Bytes.ofString "RecvQ exceeded")

theorem absorb_of_starved {s : Node} {id : Bytes} {r : Intake} (h : r.halt = .starved) :
    s.absorb id r = s.takeInput id r.queue r.rest r.rejected := by
  unfold absorb
  rw [h]

theorem absorb_of_stopped {s : Node} {id : Bytes} {r : Intake} (h : r.halt ≠ .starved) :
    s.absorb id r =
      (s.takeInput id r.queue r.rest r.rejected).closeLink id (Bytes.ofString "RecvQ exceeded") := by
  unfold absorb
  split
  · contradiction
  · rfl

theorem absorb_congr {s t : Node} {id : Bytes} (j : Nat)
    (h : ∀ q rest k, t.takeInput id q rest k = s.takeInput id q rest (k + j)) (r : Intake) :
    t.absorb id r = s.absorb id { r with rejected := r.rejected + j } := by
  unfold absorb
  cases r.halt <;> simp only [h]

section TakeInput

variable (s : Node) (id : Bytes) (q : Queue) (rest : Bytes) (k : Nat)

theorem takeInput_modifyConn {g : Connection → Connection} (hg : ∀ c, (g c).id = c.id)
    (hq : ∀ c, ({ g c with queue := q, link := { (g c).link with recv := rest } } : Connection) =
      { c with queue := q, link := { c.link with recv := rest } }) :
    (s.modifyConn id g).takeInput id q rest k = s.takeInput id q rest k := by
  have hfg : (fun c : Connection => ({ c with queue := q, link := { c.link with recv := rest } } :
      Connection)) ∘ g = fun c => { c with queue := q, link := { c.link with recv := rest } } :=
    funext hq
  unfold takeInput
  rw [modifyConn_modifyConn _ _ _ hg, hfg]
  rfl

theorem takeInput_setRecv (rest' : Bytes) :
    (s.modifyConn id fun c => { c with link := { c.link with recv := rest' } }).takeInput id q rest k =
      s.takeInput id q rest k :=
  takeInput_modifyConn s id q rest k (fun _ => rfl) (fun _ => rfl)

theorem takeInput_modifyQueue (f : Queue → Queue) :
    (s.modifyQueue id f).takeInput id q rest k = s.takeInput id q rest k :=
  takeInput_modifyConn s id q rest k (fun _ => rfl) (fun _ => rfl)

theorem takeInput_self {c : Connection} (hc : s.conn? id = some c) (hu : (s.conns.map (·.id)).Nodup) :
    s.takeInput id c.queue c.link.recv k =
      { s with counters := { s.counters with rejected := s.counters.rejected + k } } := by
  unfold takeInput
  rw [modifyConn_eq_self hc hu rfl]

theorem modifyQueue_setRecv :
    (s.modifyConn id fun c => { c with link := { c.link with recv := rest } }).modifyQueue id
      (fun _ => q) = s.takeInput id q rest 0 := by
  have hid : ∀ c : Connection, ({ c with link := { c.link with recv := rest } } : Connection).id =
      c.id := fun _ => rfl
  unfold takeInput modifyQueue
  rw [modifyConn_modifyConn _ _ _ hid]
  rfl

theorem takeInput_reject : s.reject.takeInput id q rest k = s.takeInput id q rest (k + 1) := by
  simp only [takeInput, reject, modifyConn, Nat.add_assoc, Nat.add_comm 1 k]

end TakeInput

theorem conn?_modifyQueue (s : Node) (id : Bytes) (f : Queue → Queue) :
    (s.modifyQueue id f).conn? id = (s.conn? id).map fun c => { c with queue := f c.queue } :=
  conn?_modifyConn s id fun _ => rfl

theorem ids_modifyQueue (s : Node) (id : Bytes) (f : Queue → Queue) :
    (s.modifyQueue id f).conns.map (·.id) = s.conns.map (·.id) :=
  ids_modifyConn s id fun _ => rfl

@[simp] theorem keepAliveOf_modifyConn (s : Node) (id : Bytes) (f : Connection → Connection) :
    (s.modifyConn id f).keepAliveOf = s.keepAliveOf := rfl

/-- Enqueue on a live connection: the queue's answer, a flood rejection counted, and any other
refusal closing the link. -/
theorem enqueue_of_live {s : Node} {id : Bytes} {c : Connection} (hc : s.conn? id = some c)
    (hlive : c.closed = false) (name : Bytes) (params : List Bytes) :
    s.enqueue id name params =
      let (q, err) := c.queue.enqueue name params (s.keepAliveOf name)
      match err with
      | none => (.ok (), s.modifyQueue id fun _ => q)
      | some .flood => (.error QueueError.flood.toFault, (s.modifyQueue id fun _ => q).reject)
      | some e =>
        (.error e.toFault, (s.modifyQueue id fun _ => q).closeLink id (Bytes.ofString "RecvQ exceeded")) := by
  rw [enqueue, hc]
  dsimp only
  rw [hlive]
  rfl

/-- The loop's drain, given a round for every buffered byte, is the intake of the connection's
buffer into its queue, written back into the node. -/
theorem drain_eq_absorb {s : Node} {id : Bytes} {c : Connection} (hc : s.conn? id = some c)
    (hlive : c.closed = false) (hu : (s.conns.map (·.id)).Nodup) {fuel : Nat}
    (hf : c.link.recv.length < fuel) :
    s.drain id fuel = s.absorb id (intake s.config.maxLine s.keepAliveOf c.queue c.link.recv) := by
  induction fuel generalizing s c with
  | zero => exact absurd hf (Nat.not_lt_zero _)
  | succ fuel ih =>
    -- the node once a line is off the buffer: the same connection, still live, ids unchanged
    have hset : ∀ rest, rest.length < c.link.recv.length →
        (s.modifyConn id fun c => { c with link := { c.link with recv := rest } }).conn? id =
          some { c with link := { c.link with recv := rest } } ∧
        ((s.modifyConn id fun c => { c with link := { c.link with recv := rest } }).conns.map
          (·.id)).Nodup ∧ rest.length < fuel := by
      intro rest hlt
      have hid : ∀ c : Connection, ({ c with link := { c.link with recv := rest } } : Connection).id =
          c.id := fun _ => rfl
      refine ⟨?_, ?_, by omega⟩
      · rw [conn?_modifyConn _ _ hid, hc]
        rfl
      · rwa [ids_modifyConn _ _ hid]
    -- counting a rejected line changes nothing the drain reads
    have ihr : ∀ {t : Node} {c' : Connection}, t.conn? id = some c' → c'.closed = false →
        (t.conns.map (·.id)).Nodup → c'.link.recv.length < fuel →
        t.reject.drain id fuel = t.reject.absorb id (intake t.config.maxLine t.keepAliveOf c'.queue c'.link.recv) :=
      fun {t c'} h1 h2 h3 h4 => @ih t.reject c' h1 h2 h3 h4
    simp only [drain, hc, hlive, Bool.false_eq_true, if_false]
    rcases hn : next s.config.maxLine c.link.recv with ⟨text, rest⟩ | ⟨len, limit, rest⟩ | _ | len
    · obtain ⟨hc₁, hu₁, hf₁⟩ := hset rest (next_line_length hn)
      rw [intake_line hn]
      by_cases he : text.isEmpty
      · simp only [he, if_true]
        exact (ih hc₁ hlive hu₁ hf₁).trans (absorb_congr 0 (fun _ _ _ => takeInput_setRecv ..) _)
      · simp only [he, Bool.false_eq_true, if_false]
        cases hd : decode text with
        | error e =>
          exact (ihr hc₁ hlive hu₁ hf₁).trans (absorb_congr 1 (fun _ _ _ =>
            (takeInput_reject ..).trans (takeInput_setRecv ..)) _)
        | ok msg =>
          dsimp only
          rw [enqueue_of_live hc₁ hlive, keepAliveOf_modifyConn]
          dsimp only
          -- the queue after the command: the same connection with it, still live
          have hq₁ : ∀ q' : Queue, ((s.modifyConn id fun c => { c with link := { c.link with recv := rest } }).modifyQueue
              id fun _ => q').conn? id = some { c with link := { c.link with recv := rest }, queue := q' } ∧
              (((s.modifyConn id fun c => { c with link := { c.link with recv := rest } }).modifyQueue
                id fun _ => q').conns.map (·.id)).Nodup := fun q' =>
            ⟨by rw [conn?_modifyQueue, hc₁]; rfl, by rwa [ids_modifyQueue]⟩
          rcases hq : c.queue.enqueue msg.command msg.params (s.keepAliveOf msg.command) with
            ⟨q', _ | ⟨n | _ | st | st⟩⟩
          all_goals dsimp only
          · obtain ⟨hc₂, hu₂⟩ := hq₁ q'
            exact (ih hc₂ hlive hu₂ hf₁).trans (absorb_congr 0 (fun _ _ _ =>
              (takeInput_modifyQueue ..).trans (takeInput_setRecv ..)) _)
          · rw [if_neg (by simp [QueueError.toFault, Fault.of])]
            exact congrArg (closeLink · id _) (modifyQueue_setRecv ..)
          · obtain ⟨hc₂, hu₂⟩ := hq₁ q'
            rw [if_pos (show QueueError.flood.toFault.cls = some .flood from rfl)]
            exact (ihr hc₂ hlive hu₂ hf₁).trans (absorb_congr 1 (fun _ _ _ =>
              (takeInput_reject ..).trans ((takeInput_modifyQueue ..).trans (takeInput_setRecv ..))) _)
          · rw [if_neg (by simp [QueueError.toFault, Fault.of])]
            exact congrArg (closeLink · id _) (modifyQueue_setRecv ..)
          · rw [if_neg (by simp [QueueError.toFault, Fault.of])]
            exact congrArg (closeLink · id _) (modifyQueue_setRecv ..)
    · obtain ⟨hc₁, hu₁, hf₁⟩ := hset rest (next_overlong_length hn)
      rw [intake_overlong hn]
      exact (ihr hc₁ hlive hu₁ hf₁).trans (absorb_congr 1 (fun _ _ _ =>
        (takeInput_reject ..).trans (takeInput_setRecv ..)) _)
    · rw [intake_incomplete hn]
      simp only [absorb]
      rw [takeInput_self _ _ _ hc hu]
      rfl
    · rw [intake_exceeded hn]
      simp only [absorb]
      rw [takeInput_self _ _ _ hc hu]
      rfl

/-- Submitting to a live connection is the intake of its buffer with the new bytes behind it. -/
theorem submit_eq_absorb {s : Node} {id : Bytes} {c : Connection} (hc : s.conn? id = some c)
    (hlive : c.closed = false) (hu : (s.conns.map (·.id)).Nodup) (raw : Bytes) :
    s.submit id raw =
      s.absorb id (intake s.config.maxLine s.keepAliveOf c.queue (c.link.recv ++ raw)) := by
  have hid : ∀ c : Connection, ({ c with link := { c.link with recv := c.link.recv ++ raw } } :
      Connection).id = c.id := fun _ => rfl
  have hc₁ : (s.modifyConn id fun c => { c with link := { c.link with recv := c.link.recv ++ raw } }).conn?
      id = some { c with link := { c.link with recv := c.link.recv ++ raw } } := by
    rw [conn?_modifyConn _ _ hid, hc]
    rfl
  simp only [submit, hc, hlive, Bool.false_eq_true, if_false, drainInput, hc₁]
  refine (drain_eq_absorb hc₁ hlive (by rwa [ids_modifyConn _ _ hid]) (Nat.lt_succ_self _)).trans ?_
  exact absorb_congr 0 (fun _ _ _ => takeInput_modifyConn _ _ _ _ _ hid fun _ => rfl) _

theorem conn?_takeInput {s : Node} {id : Bytes} {c : Connection} (hc : s.conn? id = some c)
    (q : Queue) (rest : Bytes) (k : Nat) :
    (s.takeInput id q rest k).conn? id = some { c with queue := q, link := { c.link with recv := rest } } := by
  have hid : ∀ c : Connection, ({ c with queue := q, link := { c.link with recv := rest } } :
      Connection).id = c.id := fun _ => rfl
  change (s.modifyConn id _).conn? id = _
  rw [conn?_modifyConn _ _ hid, hc]
  rfl

theorem ids_takeInput (s : Node) (id : Bytes) (q : Queue) (rest : Bytes) (k : Nat) :
    (s.takeInput id q rest k).conns.map (·.id) = s.conns.map (·.id) :=
  ids_modifyConn s id fun _ => rfl

theorem takeInput_takeInput (s : Node) (id : Bytes) (q q' : Queue) (rest rest' : Bytes) (k k' : Nat) :
    (s.takeInput id q rest k).takeInput id q' rest' k' = s.takeInput id q' rest' (k' + k) := by
  have hid : ∀ c : Connection, ({ c with queue := q, link := { c.link with recv := rest } } :
      Connection).id = c.id := fun _ => rfl
  have hcount : ∀ (t : Node) (n : Counters) (f : Connection → Connection),
      ({ t with counters := n } : Node).modifyConn id f = { t.modifyConn id f with counters := n } :=
    fun _ _ _ => rfl
  unfold takeInput
  rw [hcount, modifyConn_modifyConn _ _ _ hid]
  simp only [Nat.add_assoc, Nat.add_comm k k']
  rfl

end Node

end LineKv.Server
