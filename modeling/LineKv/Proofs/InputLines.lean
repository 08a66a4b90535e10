import Mathlib
import LineKv.Proofs.QueueTurn
import LineKv.Proofs.Teardown

/-!
A submit read off the lines of the receive buffer. Framing yields the buffer's complete lines in
order (`Line.lines`, an over-long line marked), and each non-empty line that decodes carries a
command (`Line.commands`). Main statement: `submit_queues_commands`.
-/

namespace LineKv.Line

/-- The complete lines framing takes from a buffer, in order: a line's text, or `none` for a line
over the limit. -/
def lines (max : Nat) (buf : Bytes) : List (Option Bytes) :=
  match _h : next max buf with
  | .line text rest => some text :: lines max rest
  | .overlong _ _ rest => none :: lines max rest
  | _ => []
termination_by buf.length
decreasing_by
  · exact next_line_length _h
  · exact next_overlong_length _h

/-- The command a framed line carries: none for a line over the limit, an empty line or a line
that does not decode. -/
def command? : Option Bytes → Option Message
  | some text => if text.isEmpty then none else (decode text).toOption
  | none => none

/-- The commands a buffer carries, in order. -/
def commands (max : Nat) (buf : Bytes) : List Message := (lines max buf).filterMap command?

section Commands

variable {max : Nat} {buf rest : Bytes}

theorem lines_line {text : Bytes} (h : next max buf = .line text rest) :
    lines max buf = some text :: lines max rest := by
  rw [lines]
  split <;> simp_all

theorem lines_overlong {len limit : Nat} (h : next max buf = .overlong len limit rest) :
    lines max buf = none :: lines max rest := by
  rw [lines]
  split <;> simp_all

theorem commands_line {text : Bytes} (h : next max buf = .line text rest) :
    commands max buf = (command? (some text)).toList ++ commands max rest := by
  rw [commands, lines_line h, List.filterMap_cons]
  cases command? (some text) <;> rfl

theorem commands_overlong {len limit : Nat} (h : next max buf = .overlong len limit rest) :
    commands max buf = commands max rest := by
  rw [commands, lines_overlong h, List.filterMap_cons]
  rfl

theorem commands_of_skipped {text : Bytes} (h : next max buf = .line text rest)
    (hs : command? (some text) = none) : commands max buf = commands max rest := by
  rw [commands_line h, hs]
  rfl

theorem commands_of_decoded {text : Bytes} {msg : Message} (h : next max buf = .line text rest)
    (he : text.isEmpty = false) (hd : decode text = .ok msg) :
    commands max buf = msg :: commands max rest := by
  rw [commands_line h]
  simp [command?, he, hd, Except.toOption]

theorem commands_of_lf_free (h : 10 ∉ buf) : commands max buf = [] := by
  rw [commands, lines]
  split
  · rcases next_of_lf_free h max with h' | h' <;> simp_all
  · rcases next_of_lf_free h max with h' | h' <;> simp_all
  · rfl

theorem remaining_suffix (max : Nat) (buf : Bytes) : (next max buf).remaining buf <:+ buf := by
  rcases next_rest max buf with ⟨raw, -, hb⟩ | ⟨-, hb⟩
  · conv => rhs; rw [hb]
    exact List.suffix_append_of_suffix (List.suffix_cons 10 _)
  · rw [hb]

theorem rest_suffix_of_line {text : Bytes} (h : next max buf = .line text rest) : rest <:+ buf := by
  simpa [h, Next.remaining] using remaining_suffix max buf

theorem rest_suffix_of_overlong {len limit : Nat} (h : next max buf = .overlong len limit rest) :
    rest <:+ buf := by
  simpa [h, Next.remaining] using remaining_suffix max buf

end Commands

end LineKv.Line

namespace LineKv.Queue

open Line

def accept (keep : Bytes → Bool) (q : Queue) (m : Message) : Queue :=
  (q.enqueue m.command m.params (keep m.command)).1

/-- Commands into the queue one at a time while it has room: the queue, and the commands from the
first one refused on. -/
def acceptAll (keep : Bytes → Bool) : Queue → List Message → Queue × List Message
  | q, [] => (q, [])
  | q, m :: ms =>
    if q.pending.length < q.maxPending then acceptAll keep (q.accept keep m) ms else (q, m :: ms)

theorem enqueue_of_full {q : Queue} (h : q.maxPending ≤ q.pending.length) (name : Bytes)
    (params : List Bytes) (keepAlive : Bool) :
    q.enqueue name params keepAlive = (q, some (.recvQ q.pending.length)) := by
  unfold enqueue
  rw [if_pos h]

theorem room_of_enqueue {q q' : Queue} {name : Bytes} {params : List Bytes} {keepAlive : Bool}
    {e : Option QueueError} (h : q.enqueue name params keepAlive = (q', e))
    (he : e = none ∨ e = some .flood) : q.pending.length < q.maxPending := by
  by_contra hf
  rw [enqueue_of_full (Nat.not_lt.1 hf)] at h
  cases h
  rcases he with he | he <;> cases he

theorem enqueue_of_room {q : Queue} (h : q.pending.length < q.maxPending) (name : Bytes)
    (params : List Bytes) (keepAlive : Bool) :
    (q.enqueue name params keepAlive).2 = none ∨ (q.enqueue name params keepAlive).2 = some .flood := by
  rcases hq : q.enqueue name params keepAlive with ⟨q', e⟩
  have ha := enqueue_spec q name params keepAlive
  rw [hq] at ha
  dsimp only at ha ⊢
  cases ha with
  | full hf => exact absurd h (Nat.not_lt.2 hf)
  | flooded => exact .inr rfl
  | ordinary => exact .inl rfl
  | keepAlive => exact .inl rfl

theorem acceptAll_cons_of_room {keep : Bytes → Bool} {q : Queue} (h : q.pending.length < q.maxPending)
    (m : Message) (ms : List Message) : acceptAll keep q (m :: ms) = acceptAll keep (q.accept keep m) ms := by
  rw [acceptAll, if_pos h]

theorem acceptAll_cons_of_full {keep : Bytes → Bool} {q : Queue} (h : q.maxPending ≤ q.pending.length)
    (m : Message) (ms : List Message) : acceptAll keep q (m :: ms) = (q, m :: ms) := by
  rw [acceptAll, if_neg (Nat.not_lt.2 h)]

end LineKv.Queue

namespace LineKv.Server

open Line

/-- Framing a buffer into a queue takes the buffer's commands for as long as the queue has room:
it ends with the queue `acceptAll` reaches, stops on a full queue exactly when a command was
refused, and leaves the part of the buffer that carries the commands after the refused one. -/
theorem intake_accepts (max : Nat) (keep : Bytes → Bool) (q : Queue) (buf : Bytes) :
    (intake max keep q buf).queue = (Queue.acceptAll keep q (commands max buf)).1 ∧
      (intake max keep q buf).rest <:+ buf ∧
      commands max (intake max keep q buf).rest = (Queue.acceptAll keep q (commands max buf)).2.tail ∧
      ((intake max keep q buf).halt = .full ↔ (Queue.acceptAll keep q (commands max buf)).2 ≠ []) := by
  -- one case per step of the intake; the commands of the buffer unfold along with it
  fun_induction intake max keep q buf with
  | case1 q buf len hn =>
    simp [commands_of_lf_free (next_exceeded hn).1, Queue.acceptAll]
  | case2 q buf hn =>
    simp [commands_of_lf_free (next_incomplete hn).1, Queue.acceptAll]
  | case3 q buf len limit rest hn ih =>
    obtain ⟨hq, hs, hc, hh⟩ := ih
    rw [commands_overlong hn]
    exact ⟨hq, hs.trans (rest_suffix_of_overlong hn), hc, hh⟩
  | case4 q buf text rest hn he ih =>
    obtain ⟨hq, hs, hc, hh⟩ := ih
    rw [commands_of_skipped hn (by simp [command?, he])]
    exact ⟨hq, hs.trans (rest_suffix_of_line hn), hc, hh⟩
  | case5 q buf text rest hn he e hd ih =>
    obtain ⟨hq, hs, hc, hh⟩ := ih
    rw [commands_of_skipped hn (by simp [command?, he, hd, Except.toOption])]
    exact ⟨hq, hs.trans (rest_suffix_of_line hn), hc, hh⟩
  | case6 q buf text rest hn he msg hd q' hq ih =>
    -- the command was taken, so the queue had room for it
    obtain ⟨hq', hs, hc, hh⟩ := ih
    have haccept : q.accept keep msg = q' := by rw [Queue.accept, hq]
    rw [commands_of_decoded hn (by simpa using he) hd,
      Queue.acceptAll_cons_of_room (Queue.room_of_enqueue hq (.inl rfl)), haccept]
    exact ⟨hq', hs.trans (rest_suffix_of_line hn), hc, hh⟩
  | case7 q buf text rest hn he msg hd q' hq ih =>
    obtain ⟨hq', hs, hc, hh⟩ := ih
    have haccept : q.accept keep msg = q' := by rw [Queue.accept, hq]
    rw [commands_of_decoded hn (by simpa using he) hd,
      Queue.acceptAll_cons_of_room (Queue.room_of_enqueue hq (.inr rfl)), haccept]
    exact ⟨hq', hs.trans (rest_suffix_of_line hn), hc, hh⟩
  | case8 q buf text rest hn he msg hd q' e hflood hq =>
    -- refused for another reason than a flood: the queue was full, and it is left as it was
    have hfull : q.maxPending ≤ q.pending.length := by
      by_contra hroom
      rcases Queue.enqueue_of_room (Nat.not_le.1 hroom) msg.command msg.params (keep msg.command)
        with h | h <;> rw [hq] at h <;> cases h
      exact hflood rfl
    rw [Queue.enqueue_of_full hfull] at hq
    cases hq
    rw [commands_of_decoded hn (by simpa using he) hd, Queue.acceptAll_cons_of_full hfull]
    exact ⟨rfl, rest_suffix_of_line hn, rfl, by simp⟩

namespace Node

/-- A submit to a live connection, read off the commands its buffer carries. Either the queue
took every command and the unterminated tail is within the line limit: the connection stays live,
its queue the one `acceptAll` reaches, its buffer the tail, with no line feed; nothing else changes
but the count of refused lines. Or a command found the queue full, or the tail is over the limit:
the link is closed with `RecvQ exceeded` over the queue as it was then, leaving the connection torn
down or draining with its commands dropped, and the buffer keeps the lines after the refused
command, unprocessed. -/
theorem submit_queues_commands {s : Node} {id : Bytes} {c : Connection} (hc : s.conn? id = some c)
    (hlive : c.closed = false) (hu : (s.conns.map (·.id)).Nodup) (raw : Bytes) :
    let buf := c.link.recv ++ raw
    let accepted := Queue.acceptAll s.keepAliveOf c.queue (commands s.config.maxLine buf)
    ∃ rest k, rest <:+ buf ∧ commands s.config.maxLine rest = accepted.2.tail ∧
      ((accepted.2 = [] ∧ (openTail buf).length ≤ s.config.maxLine ∧ rest = openTail buf ∧ 10 ∉ rest ∧
          s.submit id raw = s.takeInput id accepted.1 rest k) ∨
        ((accepted.2 ≠ [] ∨ s.config.maxLine < (openTail buf).length) ∧
          s.submit id raw =
            (s.takeInput id accepted.1 rest k).closeLink id (Bytes.ofString "RecvQ exceeded") ∧
          ∃ c', (s.submit id raw).conn? id = some c' ∧
            (c'.dead = true ∨ c'.quitting = true ∧ c'.queue = accepted.1.discard))) := by
  intro buf accepted
  have hsub := submit_eq_absorb hc hlive hu raw
  have htail := @intake_tail s.config.maxLine s.keepAliveOf c.queue buf
  obtain ⟨hq, hs, hcmd, hfull⟩ := intake_accepts s.config.maxLine s.keepAliveOf c.queue buf
  generalize intake s.config.maxLine s.keepAliveOf c.queue buf = r at hsub htail hq hs hcmd hfull
  refine ⟨r.rest, r.rejected, hs, hcmd, ?_⟩
  by_cases hst : r.halt = .starved
  · -- the buffer ran dry: every command was taken and the tail is within the limit
    obtain ⟨hrest, hex⟩ := htail (by rw [hst]; decide)
    have hall : accepted.2 = [] := by
      by_contra h
      exact absurd (hfull.2 h) (by rw [hst]; decide)
    have hlen : (openTail buf).length ≤ s.config.maxLine := by
      by_contra h
      exact absurd (hex.2 (Nat.not_le.1 h)) (by rw [hst]; decide)
    refine .inl ⟨hall, hlen, hrest, hrest ▸ lf_not_mem_openTail buf, ?_⟩
    rw [hsub, absorb_of_starved hst, hq]
  · -- framing stopped: on a full queue, or on a tail over the limit
    have hwhy : accepted.2 ≠ [] ∨ s.config.maxLine < (openTail buf).length := by
      by_cases hf : r.halt = .full
      · exact .inl (hfull.1 hf)
      · have hex : r.halt = .exceeded := by
          cases h : r.halt <;> simp_all
        exact .inr ((htail hf).2.1 hex)
    have hclose := @absorb_of_stopped s id r hst
    rw [hq] at hclose
    obtain ⟨c', hc', hend⟩ := closeLink_standing (conn?_takeInput hc accepted.1 r.rest r.rejected) hlive
      (Bytes.ofString "RecvQ exceeded")
    refine .inr ⟨hwhy, hsub.trans hclose, c', hsub.trans hclose ▸ hc', hend.imp_left (·.1)⟩

/-- A PING and a SET submitted at once to a fresh connection, on a node with a line limit of
four bytes: the SET line is over the limit and skipped. -/
theorem submit_queues_commands_on_ping :
    let s := ((Node.start { (default : Config) with maxLine := 4, limits := ⟨65536, 1048576⟩, maxPending := 256 }
      ⟨builtinTable, []⟩ default .counter none 0).openPipe 0).2.attach
      [.socket (Transport.Socket.create serverSide 0)] 0 (Bytes.ofString "mem:a")
      (Bytes.ofString "mem") none |>.2
    let raw := Bytes.ofString "PING\r\nSET k 1\r\n"
    ∃ c, s.conn? (sessionId 1) = some c ∧ c.closed = false ∧ (s.conns.map (·.id)).Nodup ∧
      let buf := c.link.recv ++ raw
      let accepted := Queue.acceptAll s.keepAliveOf c.queue (commands s.config.maxLine buf)
      ∃ rest k, rest <:+ buf ∧ commands s.config.maxLine rest = accepted.2.tail ∧
        ((accepted.2 = [] ∧ (openTail buf).length ≤ s.config.maxLine ∧ rest = openTail buf ∧ 10 ∉ rest ∧
            s.submit (sessionId 1) raw = s.takeInput (sessionId 1) accepted.1 rest k) ∨
          ((accepted.2 ≠ [] ∨ s.config.maxLine < (openTail buf).length) ∧
            s.submit (sessionId 1) raw =
              (s.takeInput (sessionId 1) accepted.1 rest k).closeLink (sessionId 1)
                (Bytes.ofString "RecvQ exceeded") ∧
            ∃ c', (s.submit (sessionId 1) raw).conn? (sessionId 1) = some c' ∧
              (c'.dead = true ∨ c'.quitting = true ∧ c'.queue = accepted.1.discard))) := by
  intro s raw
  obtain ⟨c, hc⟩ : ∃ c, s.conn? (sessionId 1) = some c := Option.isSome_iff_exists.1 (by decide +kernel)
  have hlive : c.closed = false := by
    have h : (s.conn? (sessionId 1)).map (·.closed) = some false := by decide +kernel
    simpa [hc] using h
  have hu : (s.conns.map (·.id)).Nodup := by decide +kernel
  exact ⟨c, hc, hlive, hu, submit_queues_commands hc hlive hu raw⟩

end Node

end LineKv.Server
