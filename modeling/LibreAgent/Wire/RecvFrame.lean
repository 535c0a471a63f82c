import LibreAgent.Wire.FrameReassembler

/-!
# The blocking receive

`recvFrame` reads a header and a body, each by as many `recvmsg` as it takes, and keeps the
descriptors that come with them.  It keeps no more than a frame may have: what comes beyond is
closed and not counted. So the comparison with the declared count sees any number too few or too
many, except that a frame that declares the whole allowance is accepted with more.

* `recvExact`, `recvFrame` : the receiver, with what it closes;
* `Enforced`, `Flooded`, `recvFrame_enforced` : when the count is enforced.
-/

namespace LibreAgent.Wire

open List

open FrameReassembler (RecvAnswer)

variable {Fd : Type}

/-! ## The receiver -/

def FrameReassembler.RecvAnswer.size : RecvAnswer Fd → Nat
  | .got bytes _ _ => bytes.length
  | _ => 0

/-- a call of `recvmsg`, for a number of bytes -/
abbrev Recvmsg (Fd : Type) := (n : Nat) → { a : RecvAnswer Fd // a.size ≤ n }

structure Harvest (Fd : Type) where
  fds : List Fd := []
  /-- those there was no room for -/
  closed : List Fd := []
  /-- all that came, and whether control data was cut, for the specification -/
  delivered : List Fd := []
  truncated : Bool := false

def Harvest.push (r : Harvest Fd) (harvested : Fd) : Harvest Fd :=
  if r.fds.length < kMaxFrameFds then
    { r with fds := r.fds ++ [harvested], delivered := r.delivered ++ [harvested] }
  else { r with closed := r.closed ++ [harvested], delivered := r.delivered ++ [harvested] }

abbrev ReadOutcome (Fd : Type) (n : Nat) :=
  Except FrameError { b : Bytes // n ≤ b.length } × Harvest Fd × List (Recvmsg Fd)

/-- read exactly `n` bytes; none while the calls run out -/
def recvExact (n : Nat) (got : Bytes) (r : Harvest Fd) : List (Recvmsg Fd) →
    Option (ReadOutcome Fd n)
  | [] => if h : n ≤ got.length then some (.ok ⟨got, h⟩, r, []) else none
  | call :: calls =>
    if h : n ≤ got.length then some (.ok ⟨got, h⟩, r, call :: calls)
    else match (call (n - got.length)).val with
      | .interrupted => recvExact n got r calls
      | .wouldBlock => some (.error .wouldBlock, r, calls)
      | .failed => some (.error .io, r, calls)
      | .got bytes fds ancillaryTruncated =>
        if bytes = [] then some (.error .peerClosed, r, calls)
        else
          -- harvested also when the control data is cut, so that they are closed
          let r := fds.foldl Harvest.push r
          if ancillaryTruncated then some (.error .io, { r with truncated := true }, calls)
          else recvExact n (got ++ bytes) r calls

structure Received (Fd : Type) where
  result : Except FrameError (Frame Fd)
  closed : List Fd
  /-- all that came, whether control data was cut, and the count in the header, for the
  specification -/
  delivered : List Fd
  truncated : Bool
  declared : Option UInt32

def refused (e : FrameError) (r : Harvest Fd) (declared : Option UInt32) : Received Fd :=
  ⟨.error e, r.closed ++ r.fds, r.delivered, r.truncated, declared⟩

variable (header : { b : Bytes // kFrameHeaderBytes ≤ b.length })

def bodyLen : Nat :=
  (getU32Le header.val (Nat.le_trans (by decide) header.property)).toNat

def fdCount : UInt32 :=
  getU32Le (header.val.drop 4) (by
    have h : 8 ≤ header.val.length := header.property
    rw [List.length_drop]
    omega)

def afterBody : ReadOutcome Fd (bodyLen header) → Received Fd
  | (.error e, r, _) => refused e r (fdCount header)
  | (.ok body, r, _) =>
    if r.fds.length ≠ (fdCount header).toNat then refused .fdMismatch r (fdCount header)
    else ⟨.ok ⟨body.val, r.fds⟩, r.closed, r.delivered, r.truncated, fdCount header⟩

def afterHeader : ReadOutcome Fd kFrameHeaderBytes → Option (Received Fd)
  | (.error e, r, _) => some (refused e r none)
  | (.ok header, r, calls) =>
    if kMaxFrameBytes < bodyLen header then some (refused .oversize r (fdCount header))
    else if kMaxFrameFds < (fdCount header).toNat then some (refused .tooManyFds r (fdCount header))
    else (recvExact (bodyLen header) [] r calls).map (afterBody header)

def recvFrame (calls : List (Recvmsg Fd)) : Option (Received Fd) :=
  (recvExact kFrameHeaderBytes [] {} calls).bind afterHeader

/-! ## What the kernel hands over -/

/-- the bytes and all descriptors of a read, if it is neither cut short nor its control data -/
def transfer (n : Nat) (got : Bytes) (fds : List Fd) :
    List (Recvmsg Fd) → Option ({ b : Bytes // n ≤ b.length } × List Fd × List (Recvmsg Fd))
  | [] => if h : n ≤ got.length then some (⟨got, h⟩, fds, []) else none
  | call :: calls =>
    if h : n ≤ got.length then some (⟨got, h⟩, fds, call :: calls)
    else match (call (n - got.length)).val with
      | .interrupted => transfer n got fds calls
      | .got bytes more false =>
        if bytes = [] then none else transfer n (got ++ bytes) (fds ++ more) calls
      | _ => none

/-- a frame has exactly the descriptors that its header declares; without a frame all are closed -/
def Enforced (o : Received Fd) : Prop :=
  match o.result with
  | .ok frame =>
    o.declared.map UInt32.toNat = some o.delivered.length ∧ o.truncated = false ∧
      frame.fds = o.delivered ∧ o.closed = []
  | .error _ => o.closed.Perm o.delivered

/-- the header declares as many descriptors as are kept, and more come -/
def FloodedBody (fds : List Fd) (calls : List (Recvmsg Fd)) : Prop :=
  (fdCount header).toNat = kMaxFrameFds ∧
    ∃ body all rest, transfer (bodyLen header) [] fds calls = some (body, all, rest) ∧
      kMaxFrameFds < all.length

/-- a frame within the limit is flooded with descriptors -/
def Flooded (calls : List (Recvmsg Fd)) : Prop :=
  ∃ header fds rest, transfer kFrameHeaderBytes [] [] calls = some (header, fds, rest) ∧
    bodyLen header ≤ kMaxFrameBytes ∧ FloodedBody header fds rest

/-! ## What is kept -/

def capped (all : List Fd) : Harvest Fd :=
  { fds := all.take kMaxFrameFds, closed := all.drop kMaxFrameFds, delivered := all }

lemma push_capped (all : List Fd) (fd : Fd) : (capped all).push fd = capped (all ++ [fd]) := by
  rw [Harvest.push, capped, capped]
  dsimp only
  by_cases h : all.length < kMaxFrameFds
  · have ht : (all.take kMaxFrameFds).length < kMaxFrameFds := by
      rw [length_take]
      omega
    rw [if_pos ht, take_of_length_le (Nat.le_of_lt h), take_of_length_le,
      drop_of_length_le (Nat.le_of_lt h), drop_of_length_le]
    · rw [length_append, length_singleton]
      omega
    · rw [length_append, length_singleton]
      omega
  · have ht : ¬ (all.take kMaxFrameFds).length < kMaxFrameFds := by
      rw [length_take]
      omega
    rw [if_neg ht, take_append_of_le_length (Nat.not_lt.mp h),
      drop_append_of_le_length (Nat.not_lt.mp h)]

lemma harvest_capped (fds all : List Fd) : fds.foldl Harvest.push (capped all) =
    capped (all ++ fds) := by
  induction fds generalizing all with
  | nil => rw [append_nil]; rfl
  | cons fd fds ih => rw [foldl_cons, push_capped, ih, append_assoc, singleton_append]

lemma perm_capped (all : List Fd) : ((capped all).closed ++ (capped all).fds).Perm
    (capped all).delivered := by
  show (all.drop kMaxFrameFds ++ all.take kMaxFrameFds).Perm all
  exact perm_append_comm.trans (by rw [take_append_drop])

variable {all : List Fd} {calls : List (Recvmsg Fd)}

/-- a read keeps the first descriptors; it ends well exactly if the kernel hands the bytes over -/
lemma recvExact_capped {n : Nat} {got : Bytes}
    {out : ReadOutcome Fd n} (h : recvExact n got (capped all) calls = some out) :
    ∃ all' cut, out.2.1 = { capped all' with truncated := cut } ∧
      (cut = true → out.1.toOption = none) ∧
      transfer n got all calls = out.1.toOption.map fun b => (b, all', out.2.2) := by
  induction calls generalizing got all with
  | nil =>
    rw [recvExact] at h
    rw [transfer]
    split at h
    · rename_i hn
      cases h
      exact ⟨all, false, rfl, nofun, dif_pos hn⟩
    · cases h
  | cons call calls ih =>
    rw [recvExact] at h
    rw [transfer]
    split at h
    · rename_i hn
      cases h
      exact ⟨all, false, rfl, nofun, dif_pos hn⟩
    rename_i hn
    rw [dif_neg hn]
    cases ha : (call (n - got.length)).val with
    | interrupted =>
      rw [ha] at h
      exact ih h
    | wouldBlock | failed =>
      rw [ha] at h
      cases h
      exact ⟨all, false, rfl, nofun, rfl⟩
    | got bytes fds ancillaryTruncated =>
      rw [ha] at h
      dsimp only at h
      rw [harvest_capped] at h
      split at h
      · rename_i he
        cases h
        refine ⟨all, false, rfl, nofun, ?_⟩
        cases ancillaryTruncated with
        | false => exact if_pos he
        | true => rfl
      rename_i hb
      cases ancillaryTruncated with
      | true =>
        cases h
        exact ⟨all ++ fds, true, rfl, fun _ => rfl, rfl⟩
      | false =>
        obtain ⟨all', cut, hk, hc, ht⟩ := ih h
        exact ⟨all', cut, hk, hc, (if_neg hb).trans ht⟩

lemma capped_empty : (capped [] : Harvest Fd) = {} := rfl

lemma enforced_refused (e : FrameError) (all : List Fd) (cut : Bool) (declared : Option UInt32) :
    Enforced (refused e { capped all with truncated := cut } declared) :=
  perm_capped all

/-! ## When the count is enforced -/

/-- a frame is taken with its first descriptors; it has them all, unless they are too many -/
lemma enforced_taken (body : Bytes) {count : UInt32} (hc : (capped all).fds.length = count.toNat) :
    Enforced ⟨.ok ⟨body, (capped all).fds⟩, (capped all).closed, (capped all).delivered,
      false, some count⟩
      ↔ ¬ (count.toNat = kMaxFrameFds ∧ kMaxFrameFds < all.length) := by
  have hl : (capped all).fds.length = min kMaxFrameFds all.length := length_take
  show (some count.toNat = some all.length ∧ false = false ∧ all.take kMaxFrameFds = all ∧
      all.drop kMaxFrameFds = []) ↔ _
  constructor
  · rintro ⟨hd, -⟩ ⟨hf, hm⟩
    have := Option.some.inj hd
    omega
  · intro h
    have hle : all.length ≤ kMaxFrameFds := by
      rw [hl] at hc
      omega
    rw [hl, Nat.min_eq_right hle] at hc
    exact ⟨congrArg some hc.symm, rfl, take_of_length_le hle, drop_of_length_le hle⟩

lemma enforced_afterBody {header : { b : Bytes // kFrameHeaderBytes ≤ b.length }} {fds : List Fd}
    {out : ReadOutcome Fd (bodyLen header)}
    (h : recvExact (bodyLen header) [] (capped fds) calls = some out) :
    Enforced (afterBody header out) ↔ ¬ FloodedBody header fds calls := by
  obtain ⟨all, cut, hk, hcu, ht⟩ := recvExact_capped h
  obtain ⟨result, r, rest⟩ := out
  obtain rfl : r = { capped all with truncated := cut } := hk
  rw [FloodedBody, ht]
  cases result with
  | error e =>
    refine iff_of_true (enforced_refused e all cut _) ?_
    rintro ⟨-, body, all', rest', hn, -⟩
    cases hn
  | ok body =>
    obtain rfl : cut = false := Bool.eq_false_iff.mpr fun hc => nomatch hcu hc
    have hf : (∃ body' all' rest', some (body, all, rest) = some (body', all', rest') ∧
        kMaxFrameFds < all'.length) ↔ kMaxFrameFds < all.length := by
      constructor
      · rintro ⟨body', all', rest', hs, hm⟩
        cases hs
        exact hm
      · exact fun hm => ⟨body, all, rest, rfl, hm⟩
    show Enforced (if _ then _ else _) ↔ ¬ (_ ∧ ∃ body' all' rest', some _ = _ ∧ _)
    rw [hf]
    by_cases hco : (capped all).fds.length = (fdCount header).toNat
    · rw [if_neg (not_not.mpr hco)]
      exact enforced_taken body.val hco
    · rw [if_pos hco]
      refine iff_of_true (enforced_refused _ all false _) ?_
      rintro ⟨hfu, hm⟩
      apply hco
      show (all.take kMaxFrameFds).length = _
      rw [length_take, hfu, Nat.min_eq_left (Nat.le_of_lt hm)]

theorem recvFrame_enforced {calls : List (Recvmsg Fd)} {o : Received Fd}
    (h : recvFrame calls = some o) : Enforced o ↔ ¬ Flooded calls := by
  obtain ⟨⟨result, r, calls'⟩, hh, h⟩ := Option.bind_eq_some_iff.mp h
  rw [← capped_empty] at hh
  obtain ⟨fds, cut, hk, hcu, ht⟩ := recvExact_capped hh
  obtain rfl : r = { capped fds with truncated := cut } := hk
  rw [Flooded, ht]
  cases result with
  | error e =>
    cases h
    refine iff_of_true (enforced_refused e fds cut none) ?_
    rintro ⟨header, fds', rest, hn, -⟩
    cases hn
  | ok header =>
    obtain rfl : cut = false := Bool.eq_false_iff.mpr fun hc => nomatch hcu hc
    have hfl : (∃ header' fds' rest', some (header, fds, calls') = some (header', fds', rest') ∧
        bodyLen header' ≤ kMaxFrameBytes ∧ FloodedBody header' fds' rest') ↔
        bodyLen header ≤ kMaxFrameBytes ∧ FloodedBody header fds calls' := by
      constructor
      · rintro ⟨header', fds', rest', hs, hfl⟩
        cases hs
        exact hfl
      · exact fun hfl => ⟨header, fds, calls', rfl, hfl⟩
    show Enforced o ↔ ¬ ∃ header' fds' rest', some _ = _ ∧ _
    rw [hfl]
    rw [afterHeader] at h
    split at h
    · rename_i ho
      cases h
      exact iff_of_true (enforced_refused _ fds false _) fun hf => absurd hf.1 (Nat.not_le.mpr ho)
    rename_i hl
    split at h
    · rename_i ho
      cases h
      exact iff_of_true (enforced_refused _ fds false _) fun hf => absurd hf.2.1 (Nat.ne_of_gt ho)
    · obtain ⟨out, hb, rfl⟩ := Option.map_eq_some_iff.mp h
      rw [enforced_afterBody hb, and_iff_right (Nat.not_lt.mp hl)]

/-! ## Two frames -/

def ready (bytes : Bytes) (fds : List Fd) : Recvmsg Fd :=
  fun n => ⟨.got (bytes.take n) fds false, List.length_take_le n bytes⟩

def plainCalls : List (Recvmsg Nat) :=
  [ready (putU32Le 1 ++ putU32Le 1) [], ready [0xa0] [7]]

theorem recvFrame_enforced_plain :
    ∃ o, recvFrame plainCalls = some o ∧ o.result = .ok ⟨[0xa0], [7]⟩ ∧ Enforced o ∧
      ¬ Flooded plainCalls := by
  have hr : recvFrame plainCalls = some ⟨.ok ⟨[0xa0], [7]⟩, [], [7], false, some 1⟩ := rfl
  have he : Enforced (⟨.ok ⟨[0xa0], [7]⟩, [], [7], false, some 1⟩ : Received Nat) :=
    ⟨rfl, rfl, rfl, rfl⟩
  exact ⟨_, hr, rfl, he, (recvFrame_enforced hr).mp he⟩

def floodedCalls : List (Recvmsg Nat) :=
  [ready (putU32Le 0) (List.range 10), ready (putU32Le 16) (List.range 7)]

/-- seventeen come, and the frame is taken with sixteen -/
theorem recvFrame_unenforced : ∃ o, recvFrame floodedCalls = some o ∧ o.declared = some 16 ∧
    o.delivered.length = 17 ∧
      o.result.toOption.isSome = true ∧ ¬ Enforced o := by
  refine ⟨_, rfl, rfl, rfl, rfl, ?_⟩
  rintro ⟨hc, -⟩
  exact absurd hc (by decide)

end LibreAgent.Wire
