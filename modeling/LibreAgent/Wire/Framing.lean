import LibreAgent.Lib.Bytes
import LibreAgent.Lib.UnitStream
import Mathlib.Tactic.IntervalCases

/-!
# Frames on the socket

A frame is a little-endian body length, a little-endian descriptor count and the body; the
descriptors ride on the first byte (`SCM_RIGHTS`).  The stream between the two ends is a list of
cells, a byte and the descriptors that are delivered with it.

* `encodeFrame`, `sendFrame` : the sender, with any answers of `sendmsg`/`send`;
* `getU32Le_putU32Le`, `putU32Le_getU32Le` : the two header words are read back.
-/

namespace LibreAgent.Wire

open List

variable {Fd : Type}

def kFrameHeaderBytes : Nat := 8

def kMaxFrameBytes : Nat := 1 <<< 20

def kMaxFrameFds : Nat := 16

inductive FrameError where
  | peerClosed
  | oversize
  | io
  | tooManyFds
  | fdMismatch
  | wouldBlock
  deriving DecidableEq

structure Frame (Fd : Type) where
  body : Bytes
  fds : List Fd
  deriving DecidableEq

/-! ## The header words -/

def putU32Le (v : UInt32) : Bytes :=
  [(v &&& 0xFF).toUInt8, ((v >>> 8) &&& 0xFF).toUInt8, ((v >>> 16) &&& 0xFF).toUInt8,
    ((v >>> 24) &&& 0xFF).toUInt8]

def getU32Le (p : Bytes) (h : 4 ≤ p.length) : UInt32 :=
  p[0].toUInt32 ||| (p[1].toUInt32 <<< 8) ||| (p[2].toUInt32 <<< 16) ||| (p[3].toUInt32 <<< 24)

@[simp] lemma length_putU32Le (v : UInt32) : (putU32Le v).length = 4 := rfl

lemma toUInt32_toUInt8_and (w : UInt32) : (w &&& 0xFF).toUInt8.toUInt32 = w &&& 0xFF := by
  apply UInt32.toNat_inj.mp
  have h : w.toNat &&& 255 < 256 := Nat.lt_succ_of_le Nat.and_le_right
  show ((w.toNat &&& 255) % 256) = w.toNat &&& 255
  exact Nat.mod_eq_of_lt h

lemma or_bytes (v m : UInt32) (hm : m = 0xFF) : (v &&& m) ||| (((v >>> 8) &&& m) <<< 8) |||
    (((v >>> 16) &&& m) <<< 16)
      ||| (((v >>> 24) &&& m) <<< 24) = v := by
  subst hm
  apply UInt32.eq_of_toBitVec_eq
  apply BitVec.eq_of_getLsbD_eq
  intro i hi
  simp only [UInt32.toBitVec_or, UInt32.toBitVec_and, UInt32.toBitVec_shiftLeft,
    UInt32.toBitVec_shiftRight, BitVec.getLsbD_or, BitVec.getLsbD_and]
  interval_cases i <;> simp

lemma getU32Le_putU32Le (v : UInt32) (t : Bytes) (h : 4 ≤ (putU32Le v ++ t).length) :
    getU32Le (putU32Le v ++ t) h = v := by
  show (v &&& 0xFF).toUInt8.toUInt32 ||| (((v >>> 8) &&& 0xFF).toUInt8.toUInt32 <<< 8)
    ||| (((v >>> 16) &&& 0xFF).toUInt8.toUInt32 <<< 16)
    ||| (((v >>> 24) &&& 0xFF).toUInt8.toUInt32 <<< 24) = v
  rw [toUInt32_toUInt8_and, toUInt32_toUInt8_and, toUInt32_toUInt8_and, toUInt32_toUInt8_and]
  exact or_bytes v 0xFF rfl

lemma putU32Le_getU32Le (p : Bytes) (h : 4 ≤ p.length) :
    putU32Le (getU32Le p h) ++ p.drop 4 = p := by
  obtain ⟨a, b, c, d, t, rfl⟩ : ∃ a b c d t, p = a :: b :: c :: d :: t := by
    match p, h with
    | a :: b :: c :: d :: t, _ => exact ⟨a, b, c, d, t, rfl⟩
  have hb : ∀ x y : UInt8, x.toBitVec = y.toBitVec → x = y := fun _ _ => UInt8.eq_of_toBitVec_eq
  simp only [putU32Le, getU32Le, drop_succ_cons, drop_zero, cons_append, nil_append,
      getElem_cons_zero, getElem_cons_succ, cons.injEq,
    and_true]
  refine ⟨hb _ _ ?_, hb _ _ ?_, hb _ _ ?_, hb _ _ ?_⟩ <;> apply BitVec.eq_of_getLsbD_eq <;>
    intro i hi <;>
    interval_cases i <;> simp

def encodeFrame (body : Bytes) (fdCount : UInt32) : Bytes :=
  putU32Le body.length.toUInt32 ++ (putU32Le fdCount ++ body)

lemma length_encodeFrame (body : Bytes) (fdCount : UInt32) :
    (encodeFrame body fdCount).length = kFrameHeaderBytes + body.length := by
  rw [encodeFrame, length_append, length_append, length_putU32Le, length_putU32Le,
      kFrameHeaderBytes, ← Nat.add_assoc]

/-! ## The stream -/

/-- a byte of the stream and the descriptors delivered with it -/
structure Cell (Fd : Type) where
  byte : UInt8
  fds : List Fd

def cellBytes (cells : List (Cell Fd)) : Bytes :=
  cells.map Cell.byte

def cellFds (cells : List (Cell Fd)) : List Fd :=
  cells.flatMap Cell.fds

def attach (fds : List Fd) : Bytes → List (Cell Fd)
  | [] => []
  | b :: bs => ⟨b, fds⟩ :: bs.map fun b => ⟨b, []⟩

def frameCells (f : Frame Fd) : List (Cell Fd) :=
  attach f.fds (encodeFrame f.body f.fds.length.toUInt32)

@[simp] lemma cellBytes_append (a b : List (Cell Fd)) : cellBytes (a ++ b) = cellBytes a ++
    cellBytes b := map_append

@[simp] lemma cellFds_append (a b : List (Cell Fd)) : cellFds (a ++ b) = cellFds a ++ cellFds b :=
  List.flatMap_append

lemma attach_nil (bs : Bytes) : attach ([] : List Fd) bs = bs.map fun b => ⟨b, []⟩ := by
  cases bs <;> rfl

variable (fds : List Fd)

@[simp] lemma cellBytes_attach (bs : Bytes) : cellBytes (attach fds bs) = bs := by
  cases bs with
  | nil => rfl
  | cons b bs => simp [attach, cellBytes, Function.comp_def]

lemma cellFds_attach {bs : Bytes} (h : bs ≠ []) : cellFds (attach fds bs) = fds := by
  cases bs with
  | nil => exact absurd rfl h
  | cons b bs => simp [attach, cellFds, List.flatMap_map]

@[simp] lemma length_attach (bs : Bytes) : (attach fds bs).length = bs.length := by
  cases bs <;> simp [attach]

lemma take_attach (bs : Bytes) (m : Nat) : (attach fds bs).take m = attach fds (bs.take m) := by
  cases bs with
  | nil => rw [take_nil, attach, take_nil]
  | cons b bs =>
    cases m with
    | zero => rfl
    | succ m => rw [take_succ_cons, attach, attach, take_succ_cons, map_take]

/-! ## The sender -/

/-- what one `sendmsg` or `send` answers -/
inductive SendAnswer where
  | wrote (w : Nat)
  | interrupted
  | failed

/-- the loop of `sendFrame` over the bytes that are left: the cells it writes and its result, none
while the answers run out -/
def sendLoop (passFds : List Fd) :
    Bool → Bytes → List SendAnswer → List (Cell Fd) × Option (Except FrameError Unit)
  | _, [], _ => ([], some (.ok ()))
  | _, _ :: _, [] => ([], none)
  | ancillarySent, b :: bs, .interrupted :: answers =>
    sendLoop passFds ancillarySent (b :: bs) answers
  | _, _ :: _, .failed :: _ => ([], some (.error .io))
  | ancillarySent, b :: bs, .wrote w :: answers =>
    -- the descriptors go with the first send only, also when it is partial
    let out := sendLoop passFds true ((b :: bs).drop w) answers
    (attach (if ancillarySent then [] else passFds) ((b :: bs).take w) ++ out.1, out.2)

def sendFrame (body : Bytes) (passFds : List Fd) (answers : List SendAnswer) :
    List (Cell Fd) × Option (Except FrameError Unit) :=
  if kMaxFrameBytes < body.length then ([], some (.error .oversize))
  else if kMaxFrameFds < passFds.length then ([], some (.error .tooManyFds))
  else sendLoop passFds false (encodeFrame body passFds.length.toUInt32) answers

/-- a frame that `sendFrame` does not refuse -/
structure Frame.Legal (f : Frame Fd) : Prop where
  body : f.body.length ≤ kMaxFrameBytes
  fds : f.fds.length ≤ kMaxFrameFds

lemma attach_take_drop {w : Nat} (hw : 0 < w) (bs : Bytes) :
    attach fds (bs.take w) ++ attach [] (bs.drop w) = attach fds bs := by
  cases bs with
  | nil => rw [take_nil, drop_nil]; rfl
  | cons b bs =>
    obtain ⟨w, rfl⟩ := Nat.exists_eq_succ_of_ne_zero (Nat.ne_of_gt hw)
    rw [take_succ_cons, drop_succ_cons, attach_nil, attach, attach, cons_append, ← map_append,
      take_append_drop]

lemma sendLoop_written (passFds : List Fd) (answers : List SendAnswer)
    (hw : ∀ w, .wrote w ∈ answers → 0 < w) (ancillarySent : Bool) (left : Bytes)
    (h : (sendLoop passFds ancillarySent left answers).2 = some (.ok ())) :
    (sendLoop passFds ancillarySent left answers).1
      = attach (if ancillarySent then [] else passFds) left := by
  induction answers generalizing ancillarySent left with
  | nil =>
    cases left with
    | nil => rfl
    | cons b bs => cases h
  | cons a answers ih =>
    have hw' : ∀ w, .wrote w ∈ answers → 0 < w := fun w h => hw w (mem_cons_of_mem _ h)
    cases left with
    | nil => cases a <;> rfl
    | cons b bs =>
      cases a with
      | interrupted => exact ih hw' ancillarySent (b :: bs) h
      | failed => cases h
      | wrote w =>
        have hr := ih hw' true ((b :: bs).drop w) h
        show attach _ ((b :: bs).take w) ++ (sendLoop passFds true ((b :: bs).drop w) answers).1 = _
        rw [hr]
        exact attach_take_drop _ (hw w mem_cons_self) (b :: bs)

/-- **A send that succeeds has written its frame**, however the writes were split. -/
lemma sendFrame_written {body : Bytes} {passFds : List Fd} {answers : List SendAnswer}
    (hw : ∀ w, .wrote w ∈ answers → 0 < w)
    (h : (sendFrame body passFds answers).2 = some (.ok ())) :
    (Frame.mk body passFds).Legal ∧
      (sendFrame body passFds answers).1 = frameCells ⟨body, passFds⟩ := by
  rw [sendFrame] at h ⊢
  by_cases h1 : kMaxFrameBytes < body.length
  · rw [if_pos h1] at h
    cases h
  · rw [if_neg h1] at h ⊢
    by_cases h2 : kMaxFrameFds < passFds.length
    · rw [if_pos h2] at h
      cases h
    · rw [if_neg h2] at h ⊢
      exact ⟨⟨Nat.le_of_not_lt h1, Nat.le_of_not_lt h2⟩,
        sendLoop_written passFds answers hw false _ h⟩

/-- a call of `sendFrame` with the answers it gets -/
structure Sending (Fd : Type) where
  frame : Frame Fd
  answers : List SendAnswer

namespace Sending

def cells (s : Sending Fd) : List (Cell Fd) :=
  (sendFrame s.frame.body s.frame.fds s.answers).1

/-- every write takes at least a byte, and the call returns a success -/
structure Succeeds (s : Sending Fd) : Prop where
  wrote : ∀ w, .wrote w ∈ s.answers → 0 < w
  returned : (sendFrame s.frame.body s.frame.fds s.answers).2 = some (.ok ())

lemma Succeeds.written {s : Sending Fd} (h : s.Succeeds) : s.frame.Legal ∧
    s.cells = frameCells s.frame :=
  sendFrame_written h.wrote h.returned

end Sending

end LibreAgent.Wire
