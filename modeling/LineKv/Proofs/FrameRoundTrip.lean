import Mathlib
import LineKv.Proofs.LinkSteps

/-!
A compression layer's frames read back by a layer of the same configuration. Main statements:
`Compressor.flushes_read_back` and `Compressor.own_frame_refused_past_maxFrame`.
-/

namespace LineKv.Transport.Compressor

open Deflate

/-! ## Inner layers that pass bytes on unchanged -/

def passOn (q : ChunkQueue) (sent : Bytes) : WireM (WriteStatus × Option LinkError × ChunkQueue × Bytes) :=
  pure (.progressed, none, .empty, sent ++ q.bytes)

def pieceOf (buffered : Bytes) : WireM (ReadStatus × Option LinkError × Bytes × Bytes) :=
  pure (if buffered.isEmpty then .wouldBlock else .consumed, none, buffered, [])

/-- The layer flushes each queue in turn over an inner layer that passes everything on: the bytes
passed on. -/
def flushAll (c : Compressor) (w : Wire) : List ChunkQueue → Bytes
  | [] => []
  | src :: rest =>
    let r := (c.writeWith src passOn []).run w
    r.1.2.2.2.2 ++ flushAll r.1.2.2.2.1 r.2 rest

/-- The layer reads once per piece of a stream, each piece buffered below it when it reads: the
status, failure and plaintext of each read, and the layer after them. -/
def readAll (c : Compressor) (w : Wire) :
    List Bytes → List (ReadStatus × Option LinkError × Bytes) × Compressor
  | [] => ([], c)
  | piece :: rest =>
    let r := (c.readWith pieceOf piece).run w
    let next := readAll r.1.2.2.2.1 r.2 rest
    ((r.1.1, r.1.2.1, r.1.2.2.1) :: next.1, next.2)

/-! ## Frames -/

def framesOf (c : Compressor) (ps : List Bytes) : Bytes := (ps.map c.frame).flatten

/-- What a layer of `c`'s configuration needs to read the frame of `p` back: the compressed body
within `maxFrame` and a four-byte length, the plaintext within `maxDecoded`, and the codec decoding
the body to the plaintext. -/
structure Fits (c : Compressor) (p : Bytes) : Prop where
  body : (c.codec.compress c.level p.toArray).length ≤ c.maxFrame
  header : (c.codec.compress c.level p.toArray).length < 2 ^ 32
  decoded : p.length ≤ c.maxDecoded
  finished : (c.codec.inflate (c.codec.compress c.level p.toArray).toArray (c.maxDecoded + 1)).ending = .finished
  restores : (c.codec.inflate (c.codec.compress c.level p.toArray).toArray (c.maxDecoded + 1)).out = p.toArray

/-- Bytes that begin the frames of `bs` without holding the first of them whole. -/
def Partial (c : Compressor) : List Bytes → Bytes → Prop
  | [], x => x = []
  | b :: _, x => x <+: c.frame b ∧ x.length < (c.frame b).length

@[simp] theorem framesOf_nil (c : Compressor) : c.framesOf [] = [] := rfl

@[simp] theorem framesOf_cons (c : Compressor) (p : Bytes) (ps : List Bytes) :
    c.framesOf (p :: ps) = c.frame p ++ c.framesOf ps := rfl

@[simp] theorem framesOf_append (c : Compressor) (ps qs : List Bytes) :
    c.framesOf (ps ++ qs) = c.framesOf ps ++ c.framesOf qs := by
  simp [framesOf]

@[simp] theorem framesOf_inbox (c : Compressor) (x : Bytes) :
    ({ c with inbox := x } : Compressor).framesOf = c.framesOf := rfl

theorem length_frame (c : Compressor) (p : Bytes) :
    (c.frame p).length = headerLen + (c.codec.compress c.level p.toArray).length := by
  simp [frame, Bytes.be32, headerLen]
  omega

theorem length_framesOf (c : Compressor) (ps : List Bytes) : headerLen * ps.length ≤ (c.framesOf ps).length := by
  induction ps with
  | nil => simp
  | cons p ps ih =>
    simp only [framesOf_cons, List.length_append, length_frame, List.length_cons]
    rw [Nat.mul_succ]
    omega

theorem partial_nil (c : Compressor) (bs : List Bytes) : c.Partial bs [] := by
  cases bs with
  | nil => rfl
  | cons b _ => exact ⟨List.nil_prefix, by simp [length_frame, headerLen]⟩

theorem eq_nil_of_partial {c : Compressor} {as bs : List Bytes} {x x' : Bytes}
    (hx : c.Partial (as ++ bs) x) (he : x = c.framesOf as ++ x') : as = [] := by
  cases as with
  | nil => rfl
  | cons a as =>
    obtain ⟨-, hlt⟩ := hx
    have := congrArg List.length he
    simp only [framesOf_cons, List.length_append] at this
    omega

/-- Any beginning of a run of frames is some whole frames, then a partial one. -/
theorem split_prefix (c : Compressor) :
    ∀ (qs : List Bytes) (y : Bytes), y <+: c.framesOf qs →
      ∃ as bs x, qs = as ++ bs ∧ y = c.framesOf as ++ x ∧ c.Partial bs x
  | [], y, hy => ⟨[], [], y, rfl, rfl, List.prefix_nil.1 hy⟩
  | q :: qs, y, hy => by
    by_cases hlt : y.length < (c.frame q).length
    · -- the first frame is not whole yet
      have hq : y <+: c.frame q := by
        rw [framesOf_cons] at hy
        exact List.prefix_of_prefix_length_le hy (List.prefix_append _ _) hlt.le
      exact ⟨[], q :: qs, y, rfl, rfl, hq, hlt⟩
    · -- the first frame is whole: go on behind it
      obtain ⟨y', rfl⟩ : c.frame q <+: y := by
        rw [framesOf_cons] at hy
        exact List.prefix_of_prefix_length_le (List.prefix_append _ _) hy (by omega)
      rw [framesOf_cons] at hy
      obtain ⟨as, bs, x, rfl, rfl, hx⟩ := split_prefix c qs y' ((List.prefix_append_right_inj _).1 hy)
      exact ⟨q :: as, bs, x, rfl, by simp, hx⟩

/-! ## Decoding whole frames -/

theorem beValue_be32 {n : Nat} (hn : n < 2 ^ 32) : Bytes.beValue (Bytes.be32 n) = n := by
  simp only [Bytes.beValue, Bytes.be32, List.foldl_cons, List.foldl_nil, Nat.toUInt8_eq,
    UInt8.toNat_ofNat']
  omega

@[simp] theorem decodeFrame_inbox (c : Compressor) (x : Bytes) :
    ({ c with inbox := x } : Compressor).decodeFrame = c.decodeFrame := rfl

theorem decodeFrame_fits {c : Compressor} {p : Bytes} (hp : c.Fits p) :
    c.decodeFrame (c.codec.compress c.level p.toArray) = (p, none) := by
  have hlen : p.toArray.size ≤ c.maxDecoded + 1 := by
    have := hp.decoded
    simp only [List.size_toArray]
    omega
  simp only [decodeFrame, hp.finished, hp.restores, gt_iff_lt]
  simp [Array.extract_eq_self_of_le hlen, Nat.not_lt.2 hp.decoded]

theorem beValue_take_header {c : Compressor} {p y r : Bytes} (hp : c.Fits p) (hy : y <+: c.frame p ++ r)
    (hlen : headerLen ≤ y.length) : Bytes.beValue (y.take headerLen) = (c.codec.compress c.level p.toArray).length := by
  obtain ⟨t, ht⟩ := hy
  have hy' : y.take headerLen = (c.frame p ++ r).take headerLen := by
    rw [← ht, List.take_append_of_le_length hlen]
  have hhead : (c.frame p).take headerLen = Bytes.be32 (c.codec.compress c.level p.toArray).length := by
    simp [frame, headerLen, Bytes.be32]
  rw [hy', List.take_append_of_le_length (by simp [length_frame]), hhead, beValue_be32 hp.header]

theorem decodeFrames_frame {c : Compressor} {p : Bytes} (hp : c.Fits p) (rest : Bytes) (fuel : Nat) :
    ({ c with inbox := c.frame p ++ rest } : Compressor).decodeFrames (fuel + 1) =
      let r := ({ c with inbox := rest } : Compressor).decodeFrames fuel
      (p ++ r.1, p.length + r.2.1, r.2.2.1, r.2.2.2) := by
  have hframe := length_frame c p
  have hsize := beValue_take_header hp (List.prefix_refl (c.frame p ++ rest)) (by simp; omega)
  have hbody : ((c.frame p ++ rest).drop headerLen).take (c.codec.compress c.level p.toArray).length =
      c.codec.compress c.level p.toArray := by
    simp [frame, headerLen, Bytes.be32]
  have hrest : (c.frame p ++ rest).drop (headerLen + (c.codec.compress c.level p.toArray).length) = rest := by
    rw [← hframe, List.drop_left]
  rw [decodeFrames]
  simp only [List.length_append, hframe, hsize, gt_iff_lt, Nat.not_lt.2 hp.body, hbody, hrest,
    decodeFrame_inbox, decodeFrame_fits hp, if_false]
  rw [if_neg (by omega), if_neg (by omega)]

theorem decodeFrames_partial {c : Compressor} {bs : List Bytes} {x : Bytes} (hx : c.Partial bs x)
    (hfits : ∀ b ∈ bs, c.Fits b) (fuel : Nat) :
    ({ c with inbox := x } : Compressor).decodeFrames (fuel + 1) = ([], 0, none, { c with inbox := x }) := by
  cases bs with
  | nil =>
    cases hx
    simp [decodeFrames, headerLen]
  | cons b bs =>
    obtain ⟨hpre, hlt⟩ := hx
    by_cases hshort : x.length < headerLen
    · simp [decodeFrames, hshort]
    · -- the header is whole: it announces the body of `b`, which is not all there
      have hb := hfits b (by simp)
      have hsize := beValue_take_header (r := []) hb (by simpa using hpre) (by omega)
      rw [length_frame] at hlt
      rw [decodeFrames]
      simp [hshort, hsize, Nat.not_lt.2 hb.body, hlt]

/-- Whole frames, then a partial one, decode to the frames' plaintexts and leave the partial
frame, given a round for each whole frame and one more. -/
theorem decodeFrames_frames {c : Compressor} {bs : List Bytes} {x : Bytes} (hx : c.Partial bs x)
    (hbs : ∀ b ∈ bs, c.Fits b) :
    ∀ (as : List Bytes) (fuel : Nat), (∀ a ∈ as, c.Fits a) → as.length < fuel →
      ({ c with inbox := c.framesOf as ++ x } : Compressor).decodeFrames fuel =
        (as.flatten, as.flatten.length, none, { c with inbox := x })
  | _, 0, _, hlt => absurd hlt (Nat.not_lt_zero _)
  | [], fuel + 1, _, _ => by simpa using decodeFrames_partial hx hbs fuel
  | a :: as, fuel + 1, has, hlt => by
    have hrest := decodeFrames_frames hx hbs as fuel (fun a' h => has a' (by simp [h]))
      (by simp only [List.length_cons] at hlt; omega)
    rw [framesOf_cons, List.append_assoc, decodeFrames_frame (has a (by simp)), hrest]
    simp

/-! ## Reading piece by piece -/

theorem go_decoded {c c' : Compressor} (hc : c.attached = true) {got : Bytes} {n : Nat}
    (hd : c.decodeFrames (c.inbox.length / headerLen + 1) = (got, n, none, c')) (hn : 0 < n)
    (fuel : Nat) (below acc : Bytes) (w : Wire) :
    (readWith.go pieceOf (fuel + 1) c below acc).run w = ((.consumed, none, acc ++ got, c', below), w) := by
  rw [readWith.go]
  simp only [hc, Bool.not_true, Bool.false_eq_true, if_false, hd, hn, if_true]
  rfl

theorem go_idle_empty {c c' : Compressor} (hc : c.attached = true) {got : Bytes}
    (hd : c.decodeFrames (c.inbox.length / headerLen + 1) = (got, 0, none, c'))
    (fuel : Nat) (acc : Bytes) (w : Wire) :
    (readWith.go pieceOf (fuel + 1) c [] acc).run w = ((.wouldBlock, none, acc ++ got, c', []), w) := by
  rw [readWith.go]
  simp only [hc, Bool.not_true, Bool.false_eq_true, if_false, hd, gt_iff_lt, lt_self_iff_false]
  rfl

theorem go_idle_piece {c c' : Compressor} (hc : c.attached = true) {got : Bytes}
    (hd : c.decodeFrames (c.inbox.length / headerLen + 1) = (got, 0, none, c'))
    (fuel : Nat) {s : Bytes} (hs : s ≠ []) (acc : Bytes) (w : Wire) :
    (readWith.go pieceOf (fuel + 1) c s acc).run w =
      (readWith.go pieceOf fuel { c' with inbox := c'.inbox ++ s } [] (acc ++ got)).run w := by
  rw [readWith.go]
  have he : s.isEmpty = false := by simpa using hs
  simp only [hc, Bool.not_true, Bool.false_eq_true, if_false, hd, gt_iff_lt, lt_self_iff_false, pieceOf, he,
    pure_bind]

/-- One read of a piece: the frames the piece completes are decoded and handed on, and what is
left of the next frame stays in the inbox. -/
theorem readWith_piece {c : Compressor} (hc : c.attached = true) {as bs : List Bytes} {x x' s : Bytes}
    (hfits : ∀ p ∈ as ++ bs, c.Fits p) (hx : c.Partial (as ++ bs) x) (hs : x ++ s = c.framesOf as ++ x')
    (hx' : c.Partial bs x') (w : Wire) :
    (({ c with inbox := x } : Compressor).readWith pieceOf s).run w =
      ((if 0 < as.flatten.length then .consumed else .wouldBlock, none, as.flatten,
        { c with inbox := x' }, []), w) := by
  have hbs : ∀ b ∈ bs, c.Fits b := fun b hb => hfits b (by simp [hb])
  have has : ∀ a ∈ as, c.Fits a := fun a ha => hfits a (by simp [ha])
  have hcx : ({ c with inbox := x } : Compressor).attached = true := hc
  -- the inbox holds no whole frame, so the first round pulls the piece
  have hidle := decodeFrames_partial hx hfits (x.length / headerLen)
  by_cases hs0 : s = []
  · -- nothing new: the read would block
    subst hs0
    obtain rfl : as = [] := eq_nil_of_partial hx (by simpa using hs)
    obtain rfl : x' = x := by simpa using hs.symm
    rw [readWith, go_idle_empty hcx hidle]
    simp
  · rw [readWith, go_idle_piece hcx hidle 2 hs0]
    dsimp only [List.nil_append]
    have hcs : ({ c with inbox := x ++ s } : Compressor).attached = true := hc
    -- the second round decodes the frames the piece completed
    have hfuel : as.length < (c.framesOf as ++ x').length / headerLen + 1 := by
      have := length_framesOf c as
      simp only [List.length_append, headerLen] at this ⊢
      omega
    have hdec := decodeFrames_frames hx' hbs as _ has hfuel
    rw [← hs] at hdec
    by_cases hn : 0 < as.flatten.length
    · rw [go_decoded hcs hdec hn, if_pos hn]
      rfl
    · have h0 : as.flatten.length = 0 := by omega
      rw [h0] at hdec
      rw [go_idle_empty hcs hdec, if_neg hn]
      rfl

/-- Reading the pieces of a beginning of a run of frames hands on, over all the reads, the
plaintexts of the frames it holds whole, and keeps what it holds of the next; no read fails. -/
theorem readAll_prefix {c : Compressor} (hc : c.attached = true) (w : Wire) :
    ∀ (pieces bs : List Bytes) (x : Bytes), (∀ p ∈ bs, c.Fits p) → c.Partial bs x →
      x ++ pieces.flatten <+: c.framesOf bs →
      ∃ as bs' x', bs = as ++ bs' ∧ x ++ pieces.flatten = c.framesOf as ++ x' ∧ c.Partial bs' x' ∧
        (readAll { c with inbox := x } w pieces).2 = { c with inbox := x' } ∧
        ((readAll { c with inbox := x } w pieces).1.map (·.2.2)).flatten = as.flatten ∧
        ∀ a ∈ (readAll { c with inbox := x } w pieces).1, a.2.1 = none ∧ a.1 ≠ .error
  | [], bs, x, _, hx, _ => ⟨[], bs, x, rfl, by simp, hx, rfl, rfl, by simp [readAll]⟩
  | s :: rest, bs, x, hfits, hx, hpre => by
    -- the piece completes some frames and leaves part of the next
    have hs : x ++ s <+: c.framesOf bs :=
      (List.prefix_append (x ++ s) rest.flatten).trans (by simpa using hpre)
    obtain ⟨as₁, bs₁, x₁, rfl, he₁, hx₁⟩ := split_prefix c bs (x ++ s) hs
    have hread := readWith_piece hc hfits hx he₁ hx₁ w
    have hpre₁ : x₁ ++ rest.flatten <+: c.framesOf bs₁ := by
      rw [List.flatten_cons, ← List.append_assoc, he₁, framesOf_append, List.append_assoc] at hpre
      exact (List.prefix_append_right_inj _).1 hpre
    obtain ⟨as₂, bs₂, x₂, rfl, he₂, hx₂, hlast, hout, hok⟩ :=
      readAll_prefix hc w rest bs₁ x₁ (fun p hp => hfits p (by simp [hp])) hx₁ hpre₁
    have hstep : readAll { c with inbox := x } w (s :: rest) =
        ((if 0 < as₁.flatten.length then .consumed else .wouldBlock, none, as₁.flatten) ::
          (readAll { c with inbox := x₁ } w rest).1, (readAll { c with inbox := x₁ } w rest).2) := by
      simp only [readAll, hread]
    refine ⟨as₁ ++ as₂, bs₂, x₂, by simp, ?_, hx₂, ?_, ?_, ?_⟩
    · rw [List.flatten_cons, ← List.append_assoc, he₁, List.append_assoc, he₂]
      simp
    · rw [hstep, hlast]
    · rw [hstep, List.map_cons, List.flatten_cons, hout, List.flatten_append]
    · rw [hstep]
      intro a ha
      rcases List.mem_cons.1 ha with rfl | ha
      · refine ⟨rfl, ?_⟩
        split <;> simp
      · exact hok a ha

/-! ## Writing -/

/-- A flush over an inner layer that passes everything on passes on what the layer still held,
then the frame of what was queued, if anything was. -/
theorem writeWith_passOn {c : Compressor} (hc : c.attached = true) {src : ChunkQueue} (hsrc : src.Counted)
    (sent : Bytes) (w : Wire) :
    (c.writeWith src passOn sent).run w =
      ((.progressed, none, if src.bytes = [] then src else .empty, { c with out := .empty },
        sent ++ c.out.bytes ++ if src.bytes = [] then [] else c.frame src.bytes), w) := by
  have hlen : src.len = src.bytes.length := hsrc
  by_cases hb : src.bytes = []
  · have h0 : ¬ src.len > 0 := by simp [hlen, hb]
    simp only [writeWith, hc, Bool.not_true, Bool.false_eq_true, if_false, h0, hb, if_true, passOn,
      List.append_nil]
    rfl
  · have hpos : src.len > 0 := by
      rw [hlen]
      exact_mod_cast List.length_pos_iff.2 hb
    simp only [writeWith, hc, Bool.not_true, Bool.false_eq_true, if_false, hpos, if_true, hb, passOn,
      ChunkQueue.bytes_push, List.append_assoc, pure_bind]
    rfl

/-- Flushing queues one after the other passes on the frames of those that held something. -/
theorem flushAll_eq {c : Compressor} (hc : c.attached = true) (hout : c.out = .empty) :
    ∀ (srcs : List ChunkQueue) (w : Wire), (∀ src ∈ srcs, src.Counted) →
      c.flushAll w srcs = c.framesOf ((srcs.map (·.bytes)).filter fun p => !p.isEmpty)
  | [], _, _ => rfl
  | src :: rest, w, hsrc => by
    have hsame : ({ c with out := .empty } : Compressor) = c := by
      cases c
      simp only at hout
      rw [hout]
    have hrest := flushAll_eq hc hout rest w (fun q hq => hsrc q (by simp [hq]))
    simp only [flushAll, writeWith_passOn hc (hsrc src (by simp)), hsame, hrest, hout,
      ChunkQueue.bytes_empty, List.nil_append, List.map_cons]
    by_cases hb : src.bytes = []
    · simp [hb]
    · simp [hb]

/-! ## Round trip -/

theorem create_empty {codec : Codec} {level maxFrame maxDecoded : Int} {c : Compressor}
    (hc : create codec level maxFrame maxDecoded = .ok c) : c.out = .empty ∧ c.inbox = [] := by
  unfold create at hc
  split at hc
  · cases hc
  · cases hc
    exact ⟨rfl, rfl⟩

theorem Fits.attach {c : Compressor} {p : Bytes} (h : c.Fits p) :
    ({ c with attached := true } : Compressor).Fits p :=
  ⟨h.body, h.header, h.decoded, h.finished, h.restores⟩

/-- Flushes that fit the configuration read back: split what the layer passed on into pieces of
any sizes, and a layer of the same configuration reading them one piece at a time hands on exactly
the flushed bytes, in order, and no read fails. -/
theorem flushes_read_back {codec : Codec} {level maxFrame maxDecoded : Int} {c : Compressor}
    (hc : create codec level maxFrame maxDecoded = .ok c) (srcs : List ChunkQueue)
    (hsrc : ∀ src ∈ srcs, src.Counted) (hfits : ∀ src ∈ srcs, src.bytes ≠ [] → c.Fits src.bytes)
    (w w' : Wire) (pieces : List Bytes)
    (hsplit : pieces.flatten = flushAll { c with attached := true } w srcs) :
    ((readAll { c with attached := true } w' pieces).1.map (·.2.2)).flatten = (srcs.map (·.bytes)).flatten ∧
      ∀ a ∈ (readAll { c with attached := true } w' pieces).1, a.2.1 = none ∧ a.1 ≠ .error := by
  obtain ⟨hout, hin⟩ := create_empty hc
  have hrc : ({ c with attached := true } : Compressor).attached = true := rfl
  -- the frames passed on are those of the flushes that held something
  have hps : ∀ p ∈ (srcs.map (·.bytes)).filter (fun p => !p.isEmpty),
      ({ c with attached := true } : Compressor).Fits p := by
    intro p hp
    obtain ⟨hmem, hne⟩ := List.mem_filter.1 hp
    obtain ⟨src, hsrc', rfl⟩ := List.mem_map.1 hmem
    exact (hfits src hsrc' (by simpa using hne)).attach
  rw [flushAll_eq hrc hout srcs w hsrc] at hsplit
  obtain ⟨as, bs, x, hsplit', he, hx, -, hdata, hok⟩ :=
    readAll_prefix hrc w' pieces _ [] hps (partial_nil _ _) (by simp [hsplit])
  -- every piece is in, so no frame is left partial
  have hx' : x = ({ c with attached := true } : Compressor).framesOf bs := by
    rw [List.nil_append, hsplit, hsplit', framesOf_append] at he
    exact (List.append_cancel_left he).symm
  have hx₀ : ({ c with attached := true } : Compressor).Partial (bs ++ []) x := by
    rw [List.append_nil]
    exact hx
  have hx₁ : x = ({ c with attached := true } : Compressor).framesOf bs ++ [] := by
    rw [List.append_nil]
    exact hx'
  obtain rfl : bs = [] := eq_nil_of_partial hx₀ hx₁
  -- the reader starts from the layer as created, with nothing in its inbox
  dsimp only at hdata hok ⊢
  rw [hin]
  refine ⟨?_, hok⟩
  rw [hdata, ← List.append_nil as, ← hsplit', List.flatten_filter_not_isEmpty]

theorem flushes_read_back_on_ping :
    let c : Compressor := ⟨flate, 0, 262144, 1048576, false, .empty, []⟩
    let srcs := [(ChunkQueue.empty.push [80, 73, 78, 71, 32]).push [97, 13, 10], ChunkQueue.empty]
    let stream := flushAll { c with attached := true } default srcs
    let pieces := [stream.take 3, (stream.drop 3).take 9, stream.drop 12]
    ((readAll { c with attached := true } default pieces).1.map (·.2.2)).flatten =
        (srcs.map (·.bytes)).flatten ∧
      ∀ a ∈ (readAll { c with attached := true } default pieces).1, a.2.1 = none ∧ a.1 ≠ .error := by
  intro c srcs stream pieces
  have hc : create flate 0 0 0 = .ok c := rfl
  refine flushes_read_back hc srcs (by decide) ?_ default default pieces ?_
  · intro src hsrc hne
    simp only [srcs, List.mem_cons, List.not_mem_nil, or_false] at hsrc
    rcases hsrc with rfl | rfl
    · exact ⟨by decide, by decide, by decide, by decide +kernel, by decide +kernel⟩
    · exact absurd rfl hne
  · have h12 : stream.drop 12 = (stream.drop 3).drop 9 := by rw [List.drop_drop]
    simp only [pieces, List.flatten_cons, List.flatten_nil, List.append_nil, h12, List.take_append_drop]
    rfl

/-- The writer does not hold a flush to `maxFrame`: at level 0 with `maxFrame` 8, the frame of
`hello world!` has a 19-byte body, and a layer of the same configuration refuses it. -/
theorem own_frame_refused_past_maxFrame :
    create flate 0 8 0 = .ok ⟨flate, 0, 8, 1048576, false, .empty, []⟩ ∧
      (readAll ⟨flate, 0, 8, 1048576, true, .empty, []⟩ default
          [flushAll ⟨flate, 0, 8, 1048576, true, .empty, []⟩ default
            [ChunkQueue.empty.push [104, 101, 108, 108, 111, 32, 119, 111, 114, 108, 100, 33]]]).1 =
        [(.error, some (.frameTooLarge 19 8), [])] :=
  ⟨rfl, by decide +kernel⟩

end LineKv.Transport.Compressor
