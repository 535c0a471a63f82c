import LibreAgent.Wire.Framing

/-!
# The streaming frame reader

`pump` reads what the socket has, then cuts whole frames off the front of the buffer.  Each pump
call sees some answers of `recvmsg`; the stream it reads from is the frames of `sendFrame`.

* `drain`, `extract`, `pump` : the reader;
* `pump_fits` : one call delivers the frames that it completes, if what it finds fits the two
  limits;
* `run_reassembles` : the calls together deliver all frames, and exactly under that condition;
  `sent_frames_reassembled` : the same from `sendFrame` on;
* `extract_exact` : what is cut off the front of any buffer.
-/

namespace LibreAgent.Wire

open UnitStream List

variable {Fd : Type}

inductive PumpStatus where
  | ok
  | peerClosed
  | error (e : FrameError)
  deriving DecidableEq

structure PumpResult (Fd : Type) where
  frames : List (Frame Fd)
  status : PumpStatus

/-- the accumulated bytes and the descriptors of no frame yet -/
structure FrameReassembler (Fd : Type) where
  buffer : Bytes
  fds : List Fd

namespace FrameReassembler

def kMaxPendingFds : Nat := 2 * kMaxFrameFds

def kMaxBufferBytes : Nat := kFrameHeaderBytes + kMaxFrameBytes

/-- what one `receiveWithFds` answers; no bytes is the end of the stream -/
inductive RecvAnswer (Fd : Type) where
  | got (bytes : Bytes) (fds : List Fd) (ancillaryTruncated : Bool)
  | interrupted
  | wouldBlock
  | failed

/-- the read loop of `pump` -/
def drain (s : FrameReassembler Fd) : List (RecvAnswer Fd) → FrameReassembler Fd × PumpStatus
  | [] => (s, .ok)
  | .interrupted :: answers => drain s answers
  | .wouldBlock :: _ => (s, .ok)
  | .failed :: _ => (s, .error .io)
  | .got bytes fds ancillaryTruncated :: answers =>
    if bytes = [] then (s, .peerClosed)
    else
      -- the descriptors are owned before the verdicts
      let owned := { s with fds := s.fds ++ fds }
      if ancillaryTruncated then (owned, .error .io)
      else if kMaxPendingFds < owned.fds.length then (owned, .error .tooManyFds)
      else
        let filled := { owned with buffer := s.buffer ++ bytes }
        if kMaxBufferBytes < filled.buffer.length then (filled, .error .oversize)
        else drain filled answers

/-- whole frames off the front of the buffer, each with its declared number of descriptors -/
def extract (status : PumpStatus) (s : FrameReassembler Fd) : PumpResult Fd × FrameReassembler Fd :=
  if h : kFrameHeaderBytes ≤ s.buffer.length then
    let bodyLen := (getU32Le s.buffer (by unfold kFrameHeaderBytes at h; omega)).toNat
    let fdCount := (getU32Le (s.buffer.drop 4)
      (by unfold kFrameHeaderBytes at h; rw [List.length_drop]; omega)).toNat
    if kMaxFrameBytes < bodyLen then (⟨[], .error .oversize⟩, s)
    else if kMaxFrameFds < fdCount then (⟨[], .error .tooManyFds⟩, s)
    else if s.buffer.length < kFrameHeaderBytes + bodyLen then (⟨[], status⟩, s)
    else if s.fds.length < fdCount then (⟨[], .error .fdMismatch⟩, s)
    else
      let f : Frame Fd := ⟨(s.buffer.drop kFrameHeaderBytes).take bodyLen, s.fds.take fdCount⟩
      let out := extract status
        ⟨s.buffer.drop (kFrameHeaderBytes + bodyLen), s.fds.drop fdCount⟩
      (⟨f :: out.1.frames, out.1.status⟩, out.2)
  else (⟨[], status⟩, s)
termination_by s.buffer.length
decreasing_by
  simp only [List.length_drop, kFrameHeaderBytes] at h ⊢
  omega

def pump (s : FrameReassembler Fd) (answers : List (RecvAnswer Fd)) :
    PumpResult Fd × FrameReassembler Fd :=
  match drain s answers with
  | (s, .error e) => (⟨[], .error e⟩, s)
  | (s, status) => extract status s

def init : FrameReassembler Fd := ⟨[], []⟩

def run (s : FrameReassembler Fd) : List (List (RecvAnswer Fd)) → List (PumpResult Fd)
  | [] => []
  | answers :: calls => (pump s answers).1 :: run (pump s answers).2 calls

/-! ## What the kernel may answer -/

/-- the size of the array that `recvmsg` fills -/
def kChunkBytes : Nat := 4096

/-- a piece of the stream as one `recvmsg` hands it over: at least a byte, at most the array, and
no more descriptors than the ancillary buffer has room for -/
structure Chunk (Fd : Type) where
  cells : List (Cell Fd)
  nonempty : cells ≠ []
  fits : cells.length ≤ kChunkBytes
  fdsFit : (cellFds cells).length ≤ kMaxFrameFds

inductive Read (Fd : Type) where
  | chunk (c : Chunk Fd)
  | interrupted

inductive Drained where
  | wouldBlock
  | closed

structure PumpCall (Fd : Type) where
  reads : List (Read Fd)
  last : Drained

def Read.cells : Read Fd → List (Cell Fd)
  | .chunk c => c.cells
  | .interrupted => []

def Read.answer : Read Fd → RecvAnswer Fd
  | .chunk c => .got (cellBytes c.cells) (cellFds c.cells) false
  | .interrupted => .interrupted

def Drained.answer : Drained → RecvAnswer Fd
  | .wouldBlock => .wouldBlock
  | .closed => .got [] [] false

def Drained.status : Drained → PumpStatus
  | .wouldBlock => .ok
  | .closed => .peerClosed

def PumpCall.cells (c : PumpCall Fd) : List (Cell Fd) :=
  c.reads.flatMap Read.cells

def PumpCall.answers (c : PumpCall Fd) : List (RecvAnswer Fd) :=
  c.reads.map Read.answer ++ [c.last.answer]

/-! ## Cutting frames off a stream -/

def holding (cells : List (Cell Fd)) : FrameReassembler Fd :=
  ⟨cellBytes cells, cellFds cells⟩

lemma toNat_toUInt32 {n : Nat} (h : n < 2 ^ 32) : n.toUInt32.toNat = n := Nat.mod_eq_of_lt h

variable (status : PumpStatus)

lemma extract_short {s : FrameReassembler Fd}
    (h : s.buffer.length < kFrameHeaderBytes) : extract status s = (⟨[], status⟩, s) := by
  rw [extract, dif_neg (Nat.not_le.mpr h)]

def header (f : Frame Fd) (tail : Bytes) : Bytes :=
  putU32Le f.body.length.toUInt32 ++ (putU32Le f.fds.length.toUInt32 ++ tail)

lemma drop_header (f : Frame Fd) (tail : Bytes) (k : Nat) :
    (header f tail).drop (kFrameHeaderBytes + k) = tail.drop k := by
  rw [Nat.add_comm]
  rfl

lemma length_header (f : Frame Fd) (tail : Bytes) : (header f tail).length = kFrameHeaderBytes +
    tail.length := by
  rw [Nat.add_comm]
  rfl

variable {f : Frame Fd} {fs : List (Frame Fd)}

/-- the reader at the header of a legal frame waits for the body or delivers the frame -/
lemma extract_header (hf : f.Legal) (tail : Bytes) (fds : List Fd) :
    extract status ⟨header f tail, f.fds ++ fds⟩
      = if tail.length < f.body.length then (⟨[], status⟩, ⟨header f tail, f.fds ++ fds⟩)
        else
          (⟨⟨tail.take f.body.length, f.fds⟩
              :: (extract status ⟨tail.drop f.body.length, fds⟩).1.frames,
            (extract status ⟨tail.drop f.body.length, fds⟩).1.status⟩,
            (extract status ⟨tail.drop f.body.length, fds⟩).2) := by
  have hl : kFrameHeaderBytes ≤ (header f tail).length := by
    rw [length_header]
    exact Nat.le_add_right _ _
  have hb : ∀ h, (getU32Le (header f tail) h).toNat = f.body.length := by
    intro h
    have hw : getU32Le (header f tail) h = f.body.length.toUInt32 := getU32Le_putU32Le _ _ h
    rw [hw]
    exact toNat_toUInt32 (Nat.lt_of_le_of_lt hf.body (by decide))
  have hfd : ∀ h, (getU32Le ((header f tail).drop 4) h).toNat = f.fds.length := by
    intro h
    have hw : getU32Le ((header f tail).drop 4) h = f.fds.length.toUInt32 :=
      getU32Le_putU32Le _ tail h
    rw [hw]
    exact toNat_toUInt32 (Nat.lt_of_le_of_lt hf.fds (by decide))
  have hwa : (header f tail).length < kFrameHeaderBytes + f.body.length ↔
    tail.length < f.body.length := by
    rw [length_header]
    omega
  have he : ¬ (f.fds ++ fds).length < f.fds.length := by
    rw [length_append]
    omega
  have hn : (header f tail).drop kFrameHeaderBytes = tail := drop_header f tail 0
  rw [extract, dif_pos hl]
  simp only [hb, hfd, hwa, hn, drop_header, if_neg (Nat.not_lt.mpr hf.body),
    if_neg (Nat.not_lt.mpr hf.fds), if_neg he, take_left, drop_left]

lemma length_frameCells (f : Frame Fd) : (frameCells f).length = kFrameHeaderBytes +
    f.body.length := by
  rw [frameCells, length_attach, length_encodeFrame]

lemma frameCells_ne_nil (f : Frame Fd) : frameCells f ≠ [] := by
  intro h
  have hl := length_frameCells f
  rw [h, length_nil, kFrameHeaderBytes] at hl
  omega

lemma cellFds_frameCells (f : Frame Fd) : cellFds (frameCells f) = f.fds :=
  cellFds_attach _ (cons_ne_nil _ _)

lemma extract_frame (hf : f.Legal) (t : List (Cell Fd)) :
    extract status (holding (frameCells f ++ t))
      = (⟨f :: (extract status (holding t)).1.frames, (extract status (holding t)).1.status⟩,
          (extract status (holding t)).2) := by
  have hb : cellBytes (frameCells f ++ t) = header f (f.body ++ cellBytes t) := by
    rw [cellBytes_append, frameCells, cellBytes_attach, encodeFrame, header, append_assoc,
      append_assoc]
  have hl : ¬ (f.body ++ cellBytes t).length < f.body.length := by
    rw [length_append]
    omega
  rw [holding, hb, cellFds_append, cellFds_frameCells, extract_header status hf, if_neg hl,
      take_left, drop_left]
  rfl

lemma extract_partial (hf : f.Legal) {m : Nat} (hm : m < (frameCells f).length) :
    extract status (holding ((frameCells f).take m))
      = (⟨[], status⟩, holding ((frameCells f).take m)) := by
  rw [length_frameCells] at hm
  rw [frameCells, take_attach, holding, cellBytes_attach]
  by_cases hh : m < kFrameHeaderBytes
  · apply extract_short
    show ((encodeFrame f.body f.fds.length.toUInt32).take m).length < _
    rw [length_take, length_encodeFrame]
    omega
  · obtain ⟨k, rfl⟩ := Nat.exists_eq_add_of_le (Nat.le_of_not_lt hh)
    have hhe : (encodeFrame f.body f.fds.length.toUInt32).take (kFrameHeaderBytes + k) =
      header f (f.body.take k) := by
      rw [Nat.add_comm]
      rfl
    have hw : (f.body.take k).length < f.body.length := by
      rw [length_take]
      omega
    have h := extract_header status hf (f.body.take k) []
    rw [append_nil, if_pos hw] at h
    have hfd : cellFds (attach f.fds (header f (f.body.take k))) = f.fds :=
      cellFds_attach _ (cons_ne_nil _ _)
    rw [hhe, hfd]
    exact h

/-- **On a beginning of a stream of legal frames** the whole frames are delivered and the cut one
is kept. -/
lemma extract_take (hfs : ∀ f ∈ fs, f.Legal) (m : Nat) :
    extract status (holding ((flat frameCells fs).take m))
      = (⟨whole frameCells fs m, status⟩, holding (cut frameCells fs m)) := by
  induction fs generalizing m with
  | nil =>
    rw [flat_nil, take_nil]
    exact extract_short status (Nat.zero_lt_succ 7)
  | cons f fs ih =>
    have hf : f.Legal := hfs f mem_cons_self
    have ih' := ih (fun g hg => hfs g (mem_cons_of_mem _ hg))
    rw [flat_cons, whole, cut]
    by_cases hm : (frameCells f).length ≤ m
    · rw [if_pos hm, if_pos hm, take_append, take_of_length_le hm, extract_frame status hf,
        ih' (m - (frameCells f).length)]
    · have hlt : m < (frameCells f).length := Nat.lt_of_not_le hm
      rw [if_neg hm, if_neg hm, take_append_of_le_length (Nat.le_of_lt hlt),
        extract_partial status hf hlt]

/-! ## The read loop -/

def Fits (cells : List (Cell Fd)) : Prop :=
  cells.length ≤ kMaxBufferBytes ∧ (cellFds cells).length ≤ kMaxPendingFds

instance (cells : List (Cell Fd)) : Decidable (Fits cells) :=
  inferInstanceAs (Decidable (_ ∧ _))

lemma Fits.left {a b : List (Cell Fd)} (h : Fits (a ++ b)) : Fits a := by
  obtain ⟨h1, h2⟩ := h
  rw [length_append] at h1
  rw [cellFds_append, length_append] at h2
  exact ⟨by omega, by omega⟩

lemma fits_cut (hfs : ∀ f ∈ fs, f.Legal) (n : Nat) : Fits (cut frameCells fs n) := by
  induction fs generalizing n with
  | nil => exact ⟨Nat.zero_le _, Nat.zero_le _⟩
  | cons f fs ih =>
    have hf : f.Legal := hfs f mem_cons_self
    rw [cut]
    split
    · exact ih (fun g hg => hfs g (mem_cons_of_mem _ hg)) _
    · have ha : Fits (frameCells f) := by
        constructor
        · rw [length_frameCells]
          exact Nat.add_le_add_left hf.body _
        · rw [cellFds_frameCells]
          exact Nat.le_trans hf.fds (by decide)
      rw [← take_append_drop n (frameCells f)] at ha
      exact ha.left

/-- one chunk: it is taken over when it fits, and ends the call with an error when it does not -/
lemma drain_chunk (held : List (Cell Fd)) (c : Chunk Fd) (answers : List (RecvAnswer Fd)) :
    (Fits (held ++ c.cells) →
      drain (holding held) ((Read.chunk c).answer :: answers)
        = drain (holding (held ++ c.cells)) answers) ∧ (¬ Fits (held ++ c.cells) →
      ∃ s e, drain (holding held) ((Read.chunk c).answer :: answers) = (s, .error e)) := by
  have hne : cellBytes c.cells ≠ [] := by
    intro h
    exact c.nonempty (map_eq_nil_iff.mp h)
  have hl : (cellBytes held ++ cellBytes c.cells).length = (held ++ c.cells).length := by
    rw [← cellBytes_append, cellBytes, length_map]
  have hf : (cellFds held ++ cellFds c.cells).length = (cellFds (held ++ c.cells)).length := by
    rw [cellFds_append]
  rw [Read.answer, drain, if_neg hne, if_neg Bool.false_ne_true]
  simp only [holding, hl, hf]
  constructor
  · intro h
    rw [if_neg (Nat.not_lt.mpr h.2), if_neg (Nat.not_lt.mpr h.1), cellBytes_append, cellFds_append]
  · intro h
    by_cases h2 : kMaxPendingFds < (cellFds (held ++ c.cells)).length
    · rw [if_pos h2]
      exact ⟨_, _, rfl⟩
    · have h1 : kMaxBufferBytes < (held ++ c.cells).length := by
        by_contra h1
        exact h ⟨Nat.le_of_not_lt h1, Nat.le_of_not_lt h2⟩
      rw [if_neg h2, if_pos h1]
      exact ⟨_, _, rfl⟩

lemma drain_reads {held : List (Cell Fd)} (hh : Fits held) (reads : List (Read Fd))
    (last : Drained) :
    (Fits (held ++ reads.flatMap Read.cells) →
      drain (holding held) (reads.map Read.answer ++ [last.answer])
      = (holding (held ++ reads.flatMap Read.cells), last.status)) ∧
        (¬ Fits (held ++ reads.flatMap Read.cells) →
      ∃ s e, drain (holding held) (reads.map Read.answer ++ [last.answer]) = (s, .error e)) := by
  induction reads generalizing held with
  | nil =>
    rw [List.flatMap_nil, append_nil]
    refine ⟨fun _ => ?_, absurd hh⟩
    cases last <;> rfl
  | cons r reads ih =>
    cases r with
    | interrupted => exact ih hh
    | chunk c =>
      rw [List.flatMap_cons, Read.cells, ← append_assoc, map_cons, cons_append]
      by_cases hc : Fits (held ++ c.cells)
      · rw [(drain_chunk held c _).1 hc]
        exact ih hc
      · exact ⟨fun h => absurd h.left hc, fun _ => (drain_chunk held c _).2 hc⟩

/-! ## Runs -/

lemma pump_fits (hfs : ∀ f ∈ fs, f.Legal) {seen rest : List (Cell Fd)}
    (c : PumpCall Fd) (hs : flat frameCells fs = seen ++ (c.cells ++ rest))
    (h : Fits (cut frameCells fs seen.length ++ c.cells)) :
    pump (holding (cut frameCells fs seen.length)) c.answers
      = (⟨whole frameCells (later frameCells fs seen.length)
            ((cut frameCells fs seen.length).length + c.cells.length), c.last.status⟩,
          holding (cut frameCells fs (seen.length + c.cells.length))) := by
  have hd := (drain_reads (fits_cut hfs seen.length) c.reads c.last).1 h
  have hc := cut_append frameCells hs
  have hl : ∀ f ∈ later frameCells fs seen.length, f.Legal := by
    intro f hf
    exact hfs f (mem_of_mem_later frameCells hf)
  have he := extract_take c.last.status hl ((cut frameCells fs seen.length).length + c.cells.length)
  rw [← hc, ← cut_add] at he
  rw [pump, PumpCall.answers, hd]
  cases hla : c.last with
  | wouldBlock | closed => rw [hla] at he; exact he

lemma pump_exceeds (hfs : ∀ f ∈ fs, f.Legal) (n : Nat) (c : PumpCall Fd)
    (h : ¬ Fits (cut frameCells fs n ++ c.cells)) :
    ∃ e, (pump (holding (cut frameCells fs n)) c.answers).1.status = .error e := by
  obtain ⟨s, e, hd⟩ := (drain_reads (fits_cut hfs n) c.reads c.last).2 h
  refine ⟨e, ?_⟩
  rw [pump, PumpCall.answers, hd]

/-- what a call reads always fits the buffer, beside what is left of the frame before it -/
def AllFit (fs : List (Frame Fd)) : Nat → List (PumpCall Fd) → Prop
  | _, [] => True
  | n, c :: calls => Fits (cut frameCells fs n ++ c.cells) ∧ AllFit fs (n + c.cells.length) calls

/-- no call ends with an error, and the calls together deliver the frames `fs` -/
def Reassembled (fs : List (Frame Fd)) (results : List (PumpResult Fd)) : Prop :=
  (∀ r ∈ results, ∀ e, r.status ≠ .error e) ∧ results.flatMap PumpResult.frames = fs

lemma run_calls (hfs : ∀ f ∈ fs, f.Legal) (calls : List (PumpCall Fd)) (seen : List (Cell Fd))
    (hs : flat frameCells fs = seen ++ calls.flatMap PumpCall.cells) :
    (AllFit fs seen.length calls →
      (∀ r ∈ run (holding (cut frameCells fs seen.length)) (calls.map PumpCall.answers), ∀ e,
        r.status ≠ .error e) ∧
        whole frameCells fs seen.length ++ (run (holding (cut frameCells fs seen.length))
            (calls.map PumpCall.answers)).flatMap PumpResult.frames = fs) ∧
      (¬ AllFit fs seen.length calls →
        ∃ r ∈ run (holding (cut frameCells fs seen.length)) (calls.map PumpCall.answers), ∃ e,
          r.status = .error e) := by
  induction calls generalizing seen with
  | nil =>
    rw [List.flatMap_nil, append_nil] at hs
    have hw := whole_flat frameCells fs
    rw [hs] at hw
    refine ⟨fun _ => ⟨fun r hr => absurd hr not_mem_nil, ?_⟩, absurd trivial⟩
    rw [map_nil, run, List.flatMap_nil, append_nil]
    exact hw
  | cons c calls ih =>
    rw [List.flatMap_cons] at hs
    rw [map_cons, run]
    by_cases hc : Fits (cut frameCells fs seen.length ++ c.cells)
    · obtain ⟨hgood, hbad⟩ := ih (seen ++ c.cells) (by rw [hs, append_assoc])
      rw [length_append] at hgood hbad
      rw [pump_fits hfs c hs hc]
      refine ⟨fun h => ?_, fun h => ?_⟩
      · obtain ⟨he, hf⟩ := hgood h.2
        refine ⟨fun r hr e => ?_, ?_⟩
        · rcases mem_cons.mp hr with rfl | hr
          · cases c.last <;> exact fun h => by cases h
          · exact he r hr e
        · rw [List.flatMap_cons, ← append_assoc, ← whole_add]
          exact hf
      · obtain ⟨r, hr, he⟩ := hbad fun hre => h ⟨hc, hre⟩
        exact ⟨r, mem_cons_of_mem _ hr, he⟩
    · exact ⟨fun h => absurd h.1 hc, fun _ => ⟨_, mem_cons_self, pump_exceeds hfs _ c hc⟩⟩

lemma reassembled_iff_allFit (hfs : ∀ f ∈ fs, f.Legal) {calls : List (PumpCall Fd)}
    (hs : calls.flatMap PumpCall.cells = flat frameCells fs) :
    Reassembled fs (run init (calls.map PumpCall.answers)) ↔ AllFit fs 0 calls := by
  have hi : holding (cut frameCells fs 0) = init := by
    rw [cut_zero frameCells frameCells_ne_nil]
    rfl
  have hw : whole frameCells fs 0 = [] := by
    cases fs with
    | nil => rfl
    | cons f fs =>
      have hf : ¬ (frameCells f).length ≤ 0 := by
        rw [length_frameCells, kFrameHeaderBytes]
        omega
      rw [whole, if_neg hf]
  obtain ⟨hgood, hbad⟩ := run_calls hfs calls [] hs.symm
  rw [← hi]
  constructor
  · intro h
    by_contra hn
    obtain ⟨r, hr, e, he⟩ := hbad hn
    exact h.1 r hr e he
  · intro h
    obtain ⟨her, hfr⟩ := hgood h
    rw [length_nil, hw, nil_append] at hfr
    exact ⟨her, hfr⟩

/-- **Reassembly**: the frames come out as they were sent, whatever the chunks and the calls,
exactly when no call finds more than one frame's bytes and two frames' descriptors in the socket. -/
theorem run_reassembles (fs : List (Frame Fd)) (hfs : ∀ f ∈ fs, f.Legal)
    (calls : List (PumpCall Fd)) (hs : calls.flatMap PumpCall.cells = flat frameCells fs) :
    Reassembled fs (run init (calls.map PumpCall.answers)) ↔ AllFit fs 0 calls :=
  reassembled_iff_allFit hfs hs

/-- From one end of the socket to the other: the frames of the sends that succeeded, with any
partial writes, are the frames that the reader delivers. -/
theorem sent_frames_reassembled {sends : List (Sending Fd)} (hsent : ∀ s ∈ sends, s.Succeeds)
    {calls : List (PumpCall Fd)} (hs : calls.flatMap PumpCall.cells = sends.flatMap Sending.cells) :
    Reassembled (sends.map Sending.frame) (run init (calls.map PumpCall.answers)) ↔
      AllFit (sends.map Sending.frame) 0 calls := by
  apply reassembled_iff_allFit
  · intro f hf
    obtain ⟨s, hm, rfl⟩ := mem_map.mp hf
    exact (hsent s hm).written.1
  · rw [hs, flat, List.flatMap_map]
    exact List.flatMap_congr fun s hm => (hsent s hm).written.2

def shortFrame : Frame Nat :=
  ⟨[1, 2], [7]⟩

def shortCalls : List (PumpCall Nat) :=
  [⟨[.chunk ⟨(frameCells shortFrame).take 5, by decide, by decide, by decide⟩], .wouldBlock⟩,
    ⟨[.interrupted, .chunk ⟨(frameCells shortFrame).drop 5, by decide, by decide, by decide⟩],
      .closed⟩]

theorem run_reassembles_shortFrame : Reassembled [shortFrame]
    (run init (shortCalls.map PumpCall.answers)) := by
  have hl : ∀ f ∈ [shortFrame], f.Legal := by
    intro f hf
    rw [mem_singleton.mp hf]
    exact ⟨by decide, by decide⟩
  exact (run_reassembles [shortFrame] hl shortCalls rfl).mpr
    ⟨⟨by decide, by decide⟩, ⟨by decide, by decide⟩, trivial⟩

def fullFrame (first : Nat) : Frame Nat :=
  ⟨[], List.range' first 16⟩

lemma fullFrame_legal (first : Nat) : (fullFrame first).Legal :=
  ⟨Nat.zero_le _, Nat.le_of_eq length_range'⟩

def fullChunk (first : Nat) : Chunk Nat where
  cells := frameCells (fullFrame first)
  nonempty := frameCells_ne_nil _
  fits := by
    rw [length_frameCells]
    exact Nat.le_of_ble_eq_true rfl
  fdsFit := by
    rw [cellFds_frameCells]
    exact (fullFrame_legal first).fds

/-- three such frames are in the socket when `pump` is called -/
def crowdedCall : PumpCall Nat :=
  ⟨[.chunk (fullChunk 0), .chunk (fullChunk 16), .chunk (fullChunk 32)], .wouldBlock⟩

/-- three legal frames in one call are refused -/
theorem run_reassembles_fails : (∀ f ∈ [fullFrame 0, fullFrame 16, fullFrame 32], f.Legal) ∧
    [crowdedCall].flatMap PumpCall.cells
      = flat frameCells [fullFrame 0, fullFrame 16, fullFrame 32] ∧
    run init [crowdedCall.answers] = [⟨[], .error .tooManyFds⟩] := by
  refine ⟨?_, rfl, rfl⟩
  intro f hf
  simp only [mem_cons, not_mem_nil, or_false] at hf
  rcases hf with rfl | rfl | rfl <;> exact fullFrame_legal _

/-! ## Hostile input -/

/-- one step of the loop: it stops where it is, or a frame is cut off the front -/
lemma extract_cases (status : PumpStatus) (s : FrameReassembler Fd) :
    (∃ st, extract status s = (⟨[], st⟩, s)) ∨
      ∃ (f : Frame Fd) (rest : FrameReassembler Fd), f.Legal ∧
        s.buffer = encodeFrame f.body f.fds.length.toUInt32 ++ rest.buffer ∧
          s.fds = f.fds ++ rest.fds ∧
        extract status s = (⟨f :: (extract status rest).1.frames, (extract status rest).1.status⟩,
          (extract status rest).2) := by
  rw [extract]
  split
  · next h =>
    have h8 : 8 ≤ s.buffer.length := h
    have hw := putU32Le_getU32Le s.buffer (by omega)
    have hw' := putU32Le_getU32Le (s.buffer.drop 4) (by rw [length_drop]; omega)
    generalize getU32Le s.buffer _ = bodyLen at *
    generalize getU32Le (s.buffer.drop 4) _ = fdCount at *
    dsimp only
    split_ifs with h1 h2 h3 h4
    iterate 4 exact Or.inl ⟨_, rfl⟩
    · rw [kFrameHeaderBytes] at h3
      have hb : ((s.buffer.drop kFrameHeaderBytes).take bodyLen.toNat).length = bodyLen.toNat := by
        rw [length_take, length_drop, kFrameHeaderBytes]
        omega
      have hf : (s.fds.take fdCount.toNat).length = fdCount.toNat := by
        rw [length_take]
        omega
      refine Or.inr ⟨⟨_, _⟩, ⟨s.buffer.drop (kFrameHeaderBytes + bodyLen.toNat),
        s.fds.drop fdCount.toNat⟩, ⟨?_, ?_⟩, ?_,
        (take_append_drop _ _).symm, rfl⟩
      · rw [hb]
        omega
      · rw [hf]
        omega
      · show s.buffer = encodeFrame ((s.buffer.drop kFrameHeaderBytes).take bodyLen.toNat)
          (s.fds.take fdCount.toNat).length.toUInt32
          ++ s.buffer.drop (kFrameHeaderBytes + bodyLen.toNat)
        rw [encodeFrame, hb, hf, show bodyLen.toNat.toUInt32 = bodyLen from UInt32.ofNat_toNat,
          show fdCount.toNat.toUInt32 = fdCount from UInt32.ofNat_toNat, append_assoc, append_assoc,
            ← drop_drop, take_append_drop]
        rw [drop_drop] at hw'
        show s.buffer = putU32Le bodyLen ++ (putU32Le fdCount ++ s.buffer.drop (4 + 4))
        rw [hw', hw]
  · exact Or.inl ⟨_, rfl⟩

/-- the word at an offset; `none` is a read outside the buffer -/
def readU32Le (buffer : Bytes) (pos : Nat) : Option UInt32 :=
  if h : 4 ≤ (buffer.drop pos).length then some (getU32Le (buffer.drop pos) h) else none

def copyRange (buffer : Bytes) (pos len : Nat) : Option Bytes :=
  if pos + len ≤ buffer.length then some ((buffer.drop pos).take len) else none

/-- the loop as the source has it, at a position in the one buffer and with every read checked -/
def extractFrom (status : PumpStatus) (buffer : Bytes) (pos : Nat) (fds : List Fd) :
    Option (PumpResult Fd × FrameReassembler Fd) :=
  let stop (st : PumpStatus) := some (⟨[], st⟩, ⟨buffer.drop pos, fds⟩)
  if kFrameHeaderBytes ≤ buffer.length - pos then
    match readU32Le buffer pos, readU32Le buffer (pos + 4) with
    | some bodyLen, some fdCount =>
      if kMaxFrameBytes < bodyLen.toNat then stop (.error .oversize)
      else if kMaxFrameFds < fdCount.toNat then stop (.error .tooManyFds)
      else if buffer.length - pos < kFrameHeaderBytes + bodyLen.toNat then stop status
      else if fds.length < fdCount.toNat then stop (.error .fdMismatch)
      else
        match copyRange buffer (pos + kFrameHeaderBytes) bodyLen.toNat,
          extractFrom status buffer (pos + (kFrameHeaderBytes + bodyLen.toNat))
            (fds.drop fdCount.toNat) with
        | some body, some out =>
          some (⟨⟨body, fds.take fdCount.toNat⟩ :: out.1.frames, out.1.status⟩, out.2)
        | _, _ => none
    | _, _ => none
  else stop status
termination_by buffer.length - pos
decreasing_by
  rw [kFrameHeaderBytes] at *
  omega

lemma extractFrom_eq (status : PumpStatus) (buffer : Bytes) (pos : Nat) (fds : List Fd) :
    extractFrom status buffer pos fds = some (extract status ⟨buffer.drop pos, fds⟩) := by
  induction hn : buffer.length - pos using Nat.strong_induction_on generalizing pos fds with
  | _ n ih =>
    subst hn
    rw [extractFrom, extract]
    simp only [length_drop]
    by_cases h : kFrameHeaderBytes ≤ buffer.length - pos
    · rw [if_pos h, dif_pos h]
      rw [kFrameHeaderBytes] at h
      have h1 : readU32Le buffer pos = some _ := dif_pos (by rw [length_drop]; omega)
      have h2 : readU32Le buffer (pos + 4) = some _ := dif_pos (by rw [length_drop]; omega)
      simp only [h1, h2, ← drop_drop]
      generalize getU32Le (buffer.drop pos) _ = bodyLen
      generalize getU32Le ((buffer.drop pos).drop 4) _ = fdCount
      split_ifs with h3 h4 h5 h6
      iterate 4 rfl
      · rw [kFrameHeaderBytes] at h5
        have h7 : copyRange buffer (pos + kFrameHeaderBytes) bodyLen.toNat = some _ :=
          if_pos (by rw [kFrameHeaderBytes]; omega)
        rw [h7, ih _ (by rw [kFrameHeaderBytes]; omega) _ _ rfl]
        simp only [drop_drop, Nat.add_assoc]
    · rw [if_neg h, dif_neg h]

/-- **Extraction**, whatever bytes and descriptors are there: no read leaves the buffer; what is
taken off its front are whole frames, each legal and with the declared number of descriptors off the
front of the queue, and the rest stays as it is; a second extraction stops at once. -/
theorem extract_exact (status : PumpStatus) (s : FrameReassembler Fd) :
    extractFrom status s.buffer 0 s.fds = some (extract status s) ∧
      s.buffer = (extract status s).1.frames.flatMap
        (fun f => encodeFrame f.body f.fds.length.toUInt32)
        ++ (extract status s).2.buffer ∧
      s.fds = (extract status s).1.frames.flatMap Frame.fds ++ (extract status s).2.fds ∧
      (∀ f ∈ (extract status s).1.frames, f.Legal) ∧
      extract status (extract status s).2 =
        (⟨[], (extract status s).1.status⟩, (extract status s).2) := by
  refine ⟨extractFrom_eq status s.buffer 0 s.fds, ?_⟩
  induction hn : s.buffer.length using Nat.strong_induction_on generalizing s with
  | _ n ih =>
    subst hn
    rcases extract_cases status s with ⟨st, h⟩ | ⟨f, rest, hf, hb, hd, h⟩
    · simp [h]
    · have hl : rest.buffer.length < s.buffer.length := by
        rw [hb, length_append, length_encodeFrame, kFrameHeaderBytes]
        omega
      obtain ⟨h1, h2, h3, h4⟩ := ih _ hl rest rfl
      simp only [h, flatMap_cons, append_assoc]
      exact ⟨hb.trans (congrArg _ h1), hd.trans (congrArg _ h2), forall_mem_cons.mpr ⟨hf, h3⟩, h4⟩

end FrameReassembler

end LibreAgent.Wire
