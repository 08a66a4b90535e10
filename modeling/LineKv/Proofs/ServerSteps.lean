import LineKv.Server.Loop
import LineKv.Proofs.QueueTurn

/-!
How a node steps its connections' queues: a step decides what to do with the next command from
the queue alone, so an alias of a control command is buffered like any other command.
-/

namespace LineKv

open Server

variable {W : Type}

/-- While a transaction collects, whatever runs the commands, a step buffers the next ordinary
command and answers QUEUED exactly when the command's own name is none of MULTI, MRUN and
MULTIRESET. -/
theorem Runner.step_queues_unless_control (r : Runner W) (w : W) (hq : (r.queue w).Wf)
    {e : Entry} {rest : List Entry} (hp : (r.queue w).pending = e :: rest)
    (hk : e.keepAlive = false) (hf : e.flooded = false) (hs : (r.queue w).state = .collecting) :
    (r.step false w).1 = .queued ↔ isControl e.cmd.name = false := by
  have hr : (r.queue w).state ≠ .running := by simp [hs]
  rw [Runner.step_fst, Queue.turn_inOrder hq hp hk hr]
  cases isControl e.cmd.name <;> simp [hf, hs]

/-- A collecting transaction with one buffered command and `RUN` next. -/
theorem step_queues_unless_control_on_tape :
    let t : Tape := ⟨⟨256, none, [⟨⟨Bytes.ofString "RUN", []⟩, false, false⟩],
      [⟨Bytes.ofString "SET", [Bytes.ofString "k", Bytes.ofString "1"]⟩], .collecting⟩, []⟩
    (Tape.runner.queue t).Wf ∧
      ((Tape.runner.step false t).1 = .queued ↔ isControl (Bytes.ofString "RUN") = false) := by
  intro t
  have hq : (Tape.runner.queue t).Wf := by
    refine ⟨rfl, fun h => ?_, fun h => ?_, fun p hp => ?_⟩
    · cases h
    · cases h
    · rw [List.mem_singleton.1 hp]
      decide +kernel
  exact ⟨hq, Runner.step_queues_unless_control Tape.runner t hq rfl rfl rfl rfl⟩

/-- With `RUN` configured as an alias of `MRUN`, both names resolve to MRUN's handler; yet a
collecting transaction buffers `RUN` and answers QUEUED, where it runs `MRUN`. -/
theorem alias_of_multiRun_is_buffered :
    (match dispatcherWith [(Bytes.ofString "RUN", Bytes.ofString "MRUN")] with
      | .ok d =>
        (d.lookup (Bytes.ofString "RUN")).bind (·.handler) == some Builtin.multiRun &&
          (d.lookup (Bytes.ofString "MRUN")).bind (·.handler) == some Builtin.multiRun
      | .error _ => false) = true ∧
    (Queue.turn ⟨256, none, [⟨⟨Bytes.ofString "RUN", []⟩, false, false⟩],
      [⟨Bytes.ofString "SET", [Bytes.ofString "k", Bytes.ofString "1"]⟩], .collecting⟩ false).1 =
      .queued ∧
    (Queue.turn ⟨256, none, [⟨⟨Bytes.ofString "MRUN", []⟩, false, false⟩],
      [⟨Bytes.ofString "SET", [Bytes.ofString "k", Bytes.ofString "1"]⟩], .collecting⟩ false).1 =
      .dispatched :=
  ⟨by decide +kernel, by decide +kernel, by decide +kernel⟩

end LineKv
