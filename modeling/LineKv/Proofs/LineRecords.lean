import LineKv.Proofs.InputIntake
import LineKv.Script.Line

/-!
Framing a whole buffer of complete lines and an unterminated tail: `Line.frames_records` reads
each line in order, then weighs the tail, and the frame script reports exactly that
(`Script.frame_reports_records`).
-/

namespace LineKv.Line

/-- A complete line with more input behind it is framed on its own: `next` reads up to its line
feed and no further. -/
theorem next_record {r : Bytes} (hr : 10 ∉ r) (max : Nat) (rest : Bytes) :
    next max (r ++ 10 :: rest) =
      if (dropCR r).length > max then .overlong (dropCR r).length max rest
      else .line (Bytes.replaceByte (dropCR r) 0 32) rest :=
  next_of_cut (Bytes.cut_append_of_not_mem hr rest) max

theorem effectiveMax_eq (m : Int) : effectiveMax m = if m ≤ 0 then 4096 else m.toNat := rfl

/-- What framing reads of one complete line `r`, its line feed left off, under the limit `max`:
the line without its carriage return and with every NUL read as a space, or the framing error of
a line over the limit. -/
def record (max : Nat) (r : Bytes) : Except FrameError Bytes :=
  if (dropCR r).length ≤ max then .ok (Bytes.replaceByte (dropCR r) 0 32)
  else .error (.overlong (dropCR r).length max)

def tailFrames (max : Nat) (tail : Bytes) : List (Except FrameError Bytes) :=
  if max < tail.length then [.error (.exceeded tail.length)] else []

def recordsText (rs : List Bytes) (tail : Bytes) : Bytes := rs.flatMap (· ++ [10]) ++ tail

@[simp] theorem recordsText_nil (tail : Bytes) : recordsText [] tail = tail := rfl

@[simp] theorem recordsText_cons (r : Bytes) (rs : List Bytes) (tail : Bytes) :
    recordsText (r :: rs) tail = r ++ 10 :: recordsText rs tail := by
  simp [recordsText]

theorem frames_tail {tail : Bytes} (ht : 10 ∉ tail) (max fuel : Nat) :
    frames max (fuel + 1) tail = (tailFrames max tail, tail) := by
  rw [frames, next_of_not_mem ht, tailFrames]
  by_cases hl : max < tail.length
  · rw [if_pos hl, if_pos hl]
  · rw [if_neg hl, if_neg hl]

theorem frames_record {r : Bytes} (hr : 10 ∉ r) (max fuel : Nat) (rest : Bytes) :
    frames max (fuel + 1) (r ++ 10 :: rest) =
      (record max r :: (frames max fuel rest).1, (frames max fuel rest).2) := by
  rw [frames, next_record hr, record]
  by_cases hl : (dropCR r).length ≤ max
  · rw [if_neg (Nat.not_lt.2 hl), if_pos hl]
  · rw [if_pos (Nat.lt_of_not_le hl), if_neg hl]

/-- The framing law: asking a buffer of complete lines `rs` and a tail for lines, with an ask for
each line and one more, reads every line in order, then weighs the tail, and leaves exactly the
tail. -/
theorem frames_records (max : Nat) {rs : List Bytes} {tail : Bytes} (hrs : ∀ r ∈ rs, 10 ∉ r)
    (ht : 10 ∉ tail) (fuel : Nat) (hfuel : rs.length < fuel) :
    frames max fuel (recordsText rs tail) = (rs.map (record max) ++ tailFrames max tail, tail) := by
  -- one complete line per round: each ask spends one unit of fuel on the line at the front
  induction rs generalizing fuel with
  | nil =>
    obtain ⟨k, rfl⟩ : ∃ k, fuel = k + 1 := Nat.exists_eq_add_one.2 hfuel
    exact frames_tail ht max k
  | cons r rs ih =>
    obtain ⟨k, rfl⟩ : ∃ k, fuel = k + 1 := Nat.exists_eq_add_one.2 (Nat.zero_lt_of_lt hfuel)
    have hrest : ∀ r' ∈ rs, 10 ∉ r' := fun r' h => hrs r' (List.mem_cons_of_mem r h)
    rw [recordsText_cons, frames_record (hrs r List.mem_cons_self),
      ih hrest k (Nat.lt_of_succ_lt_succ hfuel)]
    rfl

end LineKv.Line

namespace LineKv.Script

open Line

/-- How the frame script writes the `record` of one complete line: a line object, or the fault of
the framing error. -/
def recordItem (max : Nat) (r : Bytes) : Value :=
  if (dropCR r).length ≤ max then .obj [("line", .str (Bytes.replaceByte (dropCR r) 0 32))]
  else faultValue (FrameError.overlong (dropCR r).length max).toFault

/-- What framing reports of the unterminated tail: the fatal overflow when the tail is over the
limit, nothing otherwise. -/
def tailItems (max : Nat) (tail : Bytes) : List Value :=
  if max < tail.length then [.obj [("fatal", faultValue (FrameError.exceeded tail.length).toFault)]]
  else []

theorem frameItem_record (max : Nat) (r : Bytes) : frameItem (record max r) = recordItem max r := by
  unfold record recordItem
  split <;> rfl

theorem frameItem_tailFrames (max : Nat) (tail : Bytes) :
    (tailFrames max tail).map frameItem = tailItems max tail := by
  unfold tailFrames tailItems
  split <;> rfl

/-- Framing a buffer until it yields no line, under a configured limit `m`: for a buffer written
as complete lines `rs`, each closed by a line feed, then a tail without one, each line is reported
in order (its text, or a framing error when over the limit), then the tail is weighed, a fatal
overflow exactly when it is over the limit, and exactly the tail is left. The loop makes one call
per line and one more, so any fuel beyond the number of lines gives this answer. -/
theorem frame_reports_records (m : Int) (rs : List Bytes) (tail : Bytes) (hrs : ∀ r ∈ rs, 10 ∉ r)
    (ht : 10 ∉ tail) (fuel : Nat) (hfuel : rs.length < fuel) :
    let limit := if m ≤ 0 then 4096 else m.toNat
    frameAll (effectiveMax m) fuel (rs.flatMap (· ++ [10]) ++ tail) =
      (rs.map (recordItem limit) ++ tailItems limit tail, tail) := by
  intro limit
  -- the script reports what the framing law reads
  have hlaw := frames_records limit hrs ht fuel hfuel
  rw [effectiveMax_eq, frameAll, show rs.flatMap (· ++ [10]) ++ tail = recordsText rs tail from rfl, hlaw,
    List.map_append, List.map_map, frameItem_tailFrames]
  congr 2
  exact List.map_congr_left fun r _ => frameItem_record limit r

/-- Two lines, one with a carriage return and one with a NUL, under the limit 1: the first is
reported, the second refused, and the two-byte tail is fatal. -/
theorem frame_reports_records_at_limit_one :
    (∀ r ∈ [[97, 13], [0, 98]], (10 : UInt8) ∉ r) ∧ (10 : UInt8) ∉ [99, 100] ∧
      [[97, 13], [0, 98]].length < 3 ∧
      frameAll (effectiveMax 1) 3 ([[97, 13], [0, 98]].flatMap (· ++ [10]) ++ [99, 100]) =
        ([[97, 13], [0, 98]].map (recordItem 1) ++ tailItems 1 [99, 100], [99, 100]) :=
  ⟨by decide, by decide, by decide,
    frame_reports_records 1 [[97, 13], [0, 98]] [99, 100] (by decide) (by decide) 3 (by decide)⟩

end LineKv.Script
