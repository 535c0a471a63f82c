import LibreAgent.Operations.OperationBase

/-!
# The end of an operation

The block under the `once_flag` writes the mirrors of the outcome, publishes the outcome, and marks
the operation as finished, in this order and once.  Whatever the other threads do meanwhile is
beside it.

* `done_absorbing` : if the worker does not report while somebody finishes the operation, or after
  it, nothing is reported after the outcome.
-/

set_option linter.unusedSectionVars false

namespace LibreAgent.Operations

open Runs List OperationPhase

variable {Tid : Type*} [DecidableEq Tid]

/-! ## The record of the block -/

def BaseEvent.ofBlock : BaseEvent → Bool
  | .began | .wroteStatus _ | .wroteCode _ | .completed | .finished _ | .elided | .marked => true
  | _ => false

def FinishStage.record : FinishStage → List BaseEvent
  | .latch _ | .exchange _ | .notify _ | .status _ => [.began]
  | .errorCode o => [.wroteStatus o.status, .began]
  | .completed o => [.wroteCode o.code, .wroteStatus o.status, .began]
  | .gate o | .emit o => [.completed, .wroteCode o.code, .wroteStatus o.status, .began]
  | .store o emitted =>
    [if emitted then .finished o else .elided, .completed, .wroteCode o.code,
      .wroteStatus o.status, .began]
  | .wake o emitted =>
    [.marked, if emitted then .finished o else .elided, .completed, .wroteCode o.code,
      .wroteStatus o.status, .began]

def Once.record : Once Tid → List BaseEvent
  | .fresh => []
  | .inside _ stage => stage.record
  | .passed o emitted => (FinishStage.wake o emitted).record

def FinishStage.outcome : FinishStage → Option Completion
  | .latch _ => none
  | .exchange o | .notify o | .status o | .errorCode o | .completed o | .gate o | .emit o
  | .store o _ | .wake o _ => some o

def Once.outcome : Once Tid → Option Completion
  | .fresh => none
  | .inside _ stage => stage.outcome
  | .passed o _ => some o

/-! ## Steps -/

/-- the worker is in `setPhase` and may still emit, or in `groupReady` -/
def RunPc.isReporting : RunPc → Bool
  | .exchanging _ | .notifying _ | .grouping => true
  | _ => false

def RunPc.isFinishing : RunPc → Bool
  | .finishing _ _ => true
  | _ => false

def BaseEvent.isReport : BaseEvent → Bool
  | .propertiesChanged | .group => true
  | _ => false

/-- the block is where it was, and what it has written is left alone; only the worker reports -/
structure Beside (s s' : Operation Tid) : Prop where
  once : s'.once = s.once
  mirrors : s'.terminalStatus = s.terminalStatus ∧ s'.terminalErrorCode = s.terminalErrorCode ∧
    s'.completed = s.completed ∧ s'.finished = s.finished
  shutdown : s.shutdown = true → s'.shutdown = true
  fired : s.watchdogFired = true → s'.watchdogFired = true
  phase : s'.phase = s.phase ∨ s.worker.isReporting = true
  reporting : s'.worker.isReporting = true → s.worker.isReporting = true
  log : ∃ new, s'.log = new ++ s.log ∧ ∀ e ∈ new, e.ofBlock = false ∧
    (e = .latched → s'.watchdogFired = true) ∧
    (e.isReport = true → s.worker.isReporting = true)

namespace Beside
variable {s s' s'' : Operation Tid}

lemma refl (s : Operation Tid) : Beside s s :=
  ⟨rfl, ⟨rfl, rfl, rfl, rfl⟩, fun h => h, fun h => h, .inl rfl, fun h => h, [], rfl,
      forall_mem_nil _⟩

lemma other (h : Beside s s') {cancelled token watchdogArmed : Bool}
    {watchdogArmAttempts nextTimer : Nat} {watchdog : Option Nat} {timers : Nat → TimerPc}
    {stops : Nat → Bool} {worker : RunPc} {others : Tid → OtherPc}
    (hw : worker.isReporting = true → s'.worker.isReporting = true) :
    Beside s { s' with cancelled, token, watchdogArmed, watchdogArmAttempts, nextTimer, watchdog,
                       timers, stops, worker,
                       others } :=
  ⟨h.once, h.mirrors, h.shutdown, h.fired, h.phase, fun hr => h.reporting (hw hr), h.log⟩

lemma setWorker (h : Beside s s') (pc : RunPc) (hpc : pc.isReporting = false) :
    Beside s { s' with worker := pc } := by
  refine h.other ?_
  rw [hpc]
  exact fun hf => absurd hf Bool.false_ne_true

lemma say (h : Beside s s') {events : List BaseEvent}
    (hev : ∀ e ∈ events, e.ofBlock = false ∧ (e = .latched → s'.watchdogFired = true) ∧
      (e.isReport = true → s.worker.isReporting = true)) : Beside s (s'.say events) := by
  obtain ⟨new, hl, hn⟩ := h.log
  refine ⟨h.once, h.mirrors, h.shutdown, h.fired, h.phase, h.reporting, events ++ new, ?_,
      fun e he => ?_⟩
  · show events ++ s'.log = _
    rw [hl, append_assoc]
  · rcases mem_append.mp he with he | he
    · exact hev e he
    · exact hn e he

variable {e : BaseEvent}

lemma tell (h : Beside s s') (hre : e.isReport = false ∨ s.worker.isReporting = true)
    (he : e.ofBlock = false) (hl : e ≠ .latched) : Beside s (s'.say [e]) := by
  refine h.say fun e' he' => ?_
  rw [mem_singleton.mp he']
  refine ⟨he, fun heq => absurd heq hl, fun hr => ?_⟩
  rcases hre with hn | hw
  · rw [hn] at hr
    exact absurd hr Bool.false_ne_true
  · exact hw

lemma tellIf (h : Beside s s') {c : Prop} [Decidable c]
    (hr : e.isReport = false ∨ s.worker.isReporting = true) (he : e.ofBlock = false)
    (hl : e ≠ .latched) : Beside s (s'.say (if c then [e] else [])) := by
  split
  · exact h.tell hr he hl
  · exact h.say (forall_mem_nil _)

lemma returnPhase (h : Beside s s') (p : UInt32) : Beside s (s'.returnPhase p) :=
  (h.setWorker .working rfl).tell (.inl rfl) rfl nofun

lemma joined (h : Beside s s') (why : Joining) : Beside s (s'.joined why) := by
  cases why with
  | consent => exact h.returnPhase _
  | quiesce => exact h.setWorker .returned rfl

lemma requestCancel (setup : Setup) (s : Operation Tid) (stage : CancelStage) :
    Beside s (s.requestCancel setup stage).1 := by
  cases stage with
  | load => exact .refl s
  | store | trip => exact (Beside.refl s).other id
  | dismiss previous => exact (Beside.refl s).tellIf (.inl rfl) rfl nofun

lemma setTimer (h : Beside s s') (n : Nat) (pc : TimerPc) : Beside s (s'.setTimer n pc) :=
  h.other id

lemma setOther (h : Beside s s') (t : Tid) (pc : OtherPc) : Beside s (s'.setOther t pc) :=
  h.other id

lemma setWatchdog (h : Beside s s') (watchdog : Option Nat) :
    Beside s { s' with watchdog := watchdog } := h.other id

end Beside

/-- the call of `finish` that an action goes on with -/
def Operation.finishes (s : Operation Tid) : BaseAction Tid → Option (Caller Tid × Completion)
  | .work =>
    match s.worker with
    | .finishing o _ => some (.worker, o)
    | _ => none
  | .timer n => if s.timers n = .finishing then some (.timer n, .watchdogTimeout) else none
  | .other t =>
    match s.others t with
    | .finishing => some (.other t, .cardRemoved)
    | _ => none
  | _ => none

section Cases
variable (setup : Setup) (s : Operation Tid)

lemma Operation.timer_cancelling (n : Nat) (stage : CancelStage) :
    ∃ pc, s.timer setup n (.cancelling stage) = (s.requestCancel setup stage).1.setTimer n pc := by
  cases stage <;> exact ⟨_, rfl⟩

lemma Operation.other_cancelling (t : Tid) (stage : CancelStage) (removed : Bool) :
    ∃ pc, s.other setup t (.cancelling stage removed) =
      (s.requestCancel setup stage).1.setOther t pc := by
  cases stage <;> exact ⟨_, rfl⟩

variable {who : Caller Tid} {o : Completion}

lemma Operation.finish_passed {s' : Operation Tid} (h : s.finish setup who o = (s', true)) :
    s' = s := by
  unfold finish at h
  split at h
  · cases h
  · split at h <;> cases h
  · cases h
    rfl

lemma Operation.finish_cases {s' : Operation Tid} (h : s.finish setup who o = (s', false)) :
    s.once = .fresh ∧ s' = { s with once := .inside who (.latch o) }.say [.began] ∨
      (∃ stage, s.once = .inside who stage ∧ s' = s.finishBlock setup who stage) ∨ s' = s := by
  unfold finish at h
  split at h
  · rename_i ho
    cases h
    exact .inl ⟨ho, rfl⟩
  · rename_i who' stage ho
    split at h
    · rename_i heq
      cases h
      exact .inr (.inl ⟨stage, heq ▸ ho, rfl⟩)
    · cases h
      exact .inr (.inr rfl)
  · cases h

lemma Beside.work (hpc : s.worker.isFinishing = false) : Beside s (s.work setup s.worker) := by
  have hs := Beside.refl s
  cases hw : s.worker with
  | queued => exact hs.setWorker .working rfl
  | working | returned => exact hs
  | exchanging p =>
    have hr : s.worker.isReporting = true := by rw [hw]; rfl
    simp only [Operation.work]
    split
    · exact hs.setWorker .working rfl
    · refine Beside.tell ?_ (.inl rfl) rfl nofun
      exact ⟨rfl, ⟨rfl, rfl, rfl, rfl⟩, fun h => h, fun h => h, .inr hr, fun _ => hr, [], rfl,
        forall_mem_nil _⟩
  | notifying p =>
    have hr : s.worker.isReporting = true := by rw [hw]; rfl
    refine (hs.setWorker _ ?_).tellIf (.inr hr) rfl nofun
    split <;> rfl
  | arming p =>
    simp only [Operation.work]
    split
    · exact (hs.setWorker (.swapping p) rfl).other id
    · exact hs.returnPhase p
  | swapping p =>
    simp only [Operation.work]
    split
    · exact hs.returnPhase p
    · exact (hs.setWorker (.timing p) rfl).other id
  | timing p =>
    simp only [Operation.work]
    split
    · exact hs.returnPhase p
    · exact hs.setWorker (.spawning p) rfl
  | spawning p =>
    have hb : Beside s { s with
        nextTimer := s.nextTimer + 1,
        worker := .assigning p s.nextTimer } :=
      (hs.setWorker (.assigning p s.nextTimer) rfl).other id
    exact (hb.setTimer s.nextTimer .waiting).tell (.inl rfl) rfl nofun
  | assigning p n =>
    simp only [Operation.work]
    split
    · exact (hs.setWatchdog (some n)).returnPhase p
    · split
      · exact (hs.setWatchdog (some n)).returnPhase p
      · exact hs.other id
  | disarming =>
    simp only [Operation.work]
    split
    · exact (hs.setWorker (.stopping .consent) rfl).other id
    · exact hs.returnPhase _
  | stopping why =>
    simp only [Operation.work]
    split
    · exact hs.joined why
    · exact (hs.setWorker (.joining _ why) rfl).other id
  | joining n why =>
    simp only [Operation.work]
    split
    · exact (hs.setWatchdog none).joined why
    · exact hs
  | grouping =>
    have hr : s.worker.isReporting = true := by rw [hw]; rfl
    exact (hs.setWorker .working rfl).tellIf (.inr hr) rfl nofun
  | finishing o leaves =>
    rw [hw] at hpc
    cases hpc

lemma Beside.timer (n : Nat) (hpc : s.timers n ≠ .finishing) :
    Beside s (s.timer setup n (s.timers n)) := by
  have hs := Beside.refl s
  cases ht : s.timers n with
  | unborn | gone => exact hs
  | waiting =>
    simp only [Operation.timer]
    split <;> exact hs.setTimer n _
  | latching =>
    have hf : Beside s { s with watchdogFired := true } :=
      ⟨rfl, ⟨rfl, rfl, rfl, rfl⟩, fun h => h, fun _ => rfl, .inl rfl, fun h => h, [], rfl,
        forall_mem_nil _⟩
    refine (hf.setTimer n (.cancelling .load)).say fun e he => ?_
    rw [mem_singleton.mp he]
    exact ⟨rfl, fun _ => rfl, fun hr => absurd hr Bool.false_ne_true⟩
  | cancelling stage =>
    obtain ⟨pc, heq⟩ := s.timer_cancelling setup n stage
    rw [heq]
    exact (Beside.requestCancel setup s stage).setTimer n pc
  | finishing => exact absurd ht hpc

lemma Beside.cancels (t : Tid) (stage : CancelStage) (removed : Bool) :
    Beside s (s.other setup t (.cancelling stage removed)) := by
  obtain ⟨pc, heq⟩ := s.other_cancelling setup t stage removed
  rw [heq]
  exact (Beside.requestCancel setup s stage).setOther t pc

lemma Beside.begin (t : Tid) (removed : Bool) (pc : OtherPc) : Beside s (s.begin t removed pc) := by
  cases pc with
  | idle => exact (Beside.refl s).setOther t _
  | cancelling | finishing => exact .refl s

/-- `doWork` makes a call, or a call of `finish` goes on, or the step is beside the block -/
lemma Operation.step_cases (a : BaseAction Tid) :
    (∃ c, a = .call c ∧ s.worker = .working ∧ s.step setup a = { s with worker := c.start }) ∨
      (∃ who o, s.finishes a = some (who, o) ∧ s.finish setup who o = (s.step setup a, false)) ∨
      Beside s (s.step setup a) := by
  cases a with
  | call c =>
    cases hpc : s.worker with
    | working =>
      refine .inl ⟨c, rfl, rfl, ?_⟩
      simp [step, hpc, startCall]
    | _ =>
      refine .inr (.inr ?_)
      simp only [step, hpc, startCall]
      exact .refl s
  | work =>
    refine .inr ?_
    cases hpc : s.worker with
    | finishing o leaves =>
      simp only [step, work, finishes, hpc]
      split
      · next s' heq => exact .inl ⟨_, _, rfl, heq⟩
      · rename_i s' heq
        rw [finish_passed setup s heq]
        refine .inr ((Beside.refl s).setWorker _ ?_)
        split <;> rfl
    | _ =>
      refine .inr (.work setup s ?_)
      rw [hpc]
      rfl
  | timer n =>
    refine .inr ?_
    by_cases hpc : s.timers n = .finishing
    · simp only [step, timer, finishes, hpc, if_true]
      split
      · next s' heq => exact .inl ⟨_, _, rfl, heq⟩
      · rename_i s' heq
        rw [finish_passed setup s heq]
        exact .inr ((Beside.refl s).setTimer n _)
    · exact .inr (.timer setup s n hpc)
  | requestCancel t | finishCardRemoved t => exact .inr (.inr (.begin s t _ _))
  | other t =>
    refine .inr ?_
    cases hpc : s.others t with
    | finishing =>
      simp only [step, other, finishes, hpc]
      split
      · next s' heq => exact .inl ⟨_, _, rfl, heq⟩
      · rename_i s' heq
        rw [finish_passed setup s heq]
        exact .inr ((Beside.refl s).setOther t _)
    | idle =>
      simp only [step, hpc]
      exact .inr (.refl s)
    | cancelling stage removed =>
      simp only [step, hpc]
      exact .inr (.cancels setup s t stage removed)
  | shutdown =>
    refine .inr (.inr ?_)
    exact ⟨rfl, ⟨rfl, rfl, rfl, rfl⟩, fun _ => rfl, fun h => h, .inl rfl, fun h => h, [], rfl,
      forall_mem_nil _⟩

end Cases

/-! ## The invariant -/

/-- what is to be seen of an event, ever after -/
def BaseEvent.Shows (setup : Setup) (s : Operation Tid) : BaseEvent → Prop
  | .wroteStatus status => s.terminalStatus = status
  | .wroteCode code => s.terminalErrorCode = code
  | .elided => s.shutdown = true ∨ setup.hasChannel = false
  | .latched => s.watchdogFired = true
  | _ => True

structure Block (setup : Setup) (s : Operation Tid) : Prop where
  record : s.log.filter BaseEvent.ofBlock = s.once.record
  shown : ∀ e ∈ s.log, e.Shows setup s
  completed : s.completed = true → .completed ∈ s.log
  marked : s.finished = true → .marked ∈ s.log
  verdict : Then .latched .began s.log → ∀ o ∈ s.once.outcome, o = .watchdogTimeout

section Invariant
variable {setup : Setup} {s s' : Operation Tid}

lemma block_start : Block setup ({} : Operation Tid) :=
  ⟨rfl, forall_mem_nil _, nofun, nofun, fun h => absurd h.mem not_mem_nil⟩

variable {e : BaseEvent} {stage : FinishStage}

lemma Block.mem_iff (h : Block setup s) (he : e.ofBlock = true) :
    e ∈ s.log ↔ e ∈ s.once.record := by
  rw [← h.record, mem_filter]
  exact (and_iff_left he).symm

lemma BaseEvent.Shows.mono (h : e.Shows setup s) (hst : s'.terminalStatus = s.terminalStatus)
    (hco : s'.terminalErrorCode = s.terminalErrorCode) (hs : s.shutdown = true → s'.shutdown = true)
    (hf : s.watchdogFired = true → s'.watchdogFired = true) : e.Shows setup s' := by
  cases e with
  | latched => exact hf h
  | wroteStatus => exact hst.trans h
  | wroteCode => exact hco.trans h
  | elided => exact h.imp_left hs
  | _ => trivial

section
variable (h : Block setup s)
include h

lemma Block.move {new : List BaseEvent} (hlo : s'.log = new ++ s.log)
    (hne : ∀ e ∈ new, e.ofBlock = false ∧ (e = .latched → s'.watchdogFired = true))
    (hr : s'.once.record = s.once.record) (ho : s'.once.outcome = s.once.outcome)
    (hm : s'.terminalStatus = s.terminalStatus ∧ s'.terminalErrorCode = s.terminalErrorCode ∧
      s'.completed = s.completed ∧ s'.finished = s.finished)
    (hs : s.shutdown = true → s'.shutdown = true)
    (hf : s.watchdogFired = true → s'.watchdogFired = true) : Block setup s' := by
  have hb : .began ∉ new := fun hin => Bool.false_ne_true ((hne _ hin).1.symm)
  obtain ⟨hst, hco, hcm, hfi⟩ := hm
  refine ⟨?_, fun e he => ?_, fun hc => ?_, fun hc => ?_, ?_⟩
  · have hn : new.filter BaseEvent.ofBlock = [] := by
      refine filter_eq_nil_iff.mpr fun e he => ?_
      rw [(hne e he).1]
      exact Bool.false_ne_true
    rw [hr, ← h.record, hlo, filter_append, hn, nil_append]
  · rw [hlo] at he
    rcases mem_append.mp he with hin | hin
    · obtain ⟨hn, hl⟩ := hne e hin
      cases e with
      | latched => exact hl rfl
      | wroteStatus | wroteCode | elided => cases hn
      | _ => trivial
    · exact (h.shown e hin).mono hst hco hs hf
  · exact hlo ▸ mem_append_right _ (h.completed (hcm ▸ hc))
  · exact hlo ▸ mem_append_right _ (h.marked (hfi ▸ hc))
  · rw [hlo, ho]
    exact fun ht => h.verdict (ht.of_append hb)

lemma Block.beside (hb : Beside s s') : Block setup s' := by
  obtain ⟨new, hl, hn⟩ := hb.log
  exact h.move hl (fun e he => ⟨(hn e he).1, (hn e he).2.1⟩) (by rw [hb.once]) (by rw [hb.once])
    hb.mirrors hb.shutdown hb.fired

/-- the block is entered: the verdict of a timer that came before will be seen -/
lemma Block.begin (hon : s.once = .fresh) (who : Caller Tid) (o : Completion) :
    Block setup ({ s with once := .inside who (.latch o) }.say [.began]) := by
  have hr := h.record
  rw [hon] at hr
  refine ⟨?_, forall_mem_cons.mpr ⟨trivial, h.shown⟩, fun hc => mem_cons_of_mem _ (h.completed hc),
    fun hc => mem_cons_of_mem _ (h.marked hc), fun _ o' ho' => absurd ho' (Option.not_mem_none o')⟩
  show .began :: s.log.filter BaseEvent.ofBlock = _
  rw [hr]
  rfl

lemma Block.note {who : Caller Tid} (hon : s.once = .inside who stage)
    (hlo : s'.log = e :: s.log) (hr : s'.once.record = e :: stage.record)
    (ho : s'.once.outcome = stage.outcome) (he : e.ofBlock = true ∧ e ≠ .began)
    (hs : e.Shows setup s' ∧ ∀ e' ∈ s.log, e'.Shows setup s → e'.Shows setup s')
    (hc : s'.completed = true → s.completed = true ∨ e = .completed)
    (hf : s'.finished = true → s.finished = true ∨ e = .marked) : Block setup s' := by
  have hre := h.record
  have hve := h.verdict
  rw [hon] at hre hve
  refine ⟨?_, ?_, fun hco => ?_, fun hfi => ?_, fun ht => ?_⟩
  · rw [hlo, filter_cons_of_pos he.1, hre, hr]
    rfl
  · rw [hlo]
    exact forall_mem_cons.mpr ⟨hs.1, fun e' he' => hs.2 e' he' (h.shown e' he')⟩
  · rw [hlo]
    exact mem_cons.mpr ((hc hco).symm.imp Eq.symm h.completed)
  · rw [hlo]
    exact mem_cons.mpr ((hf hfi).symm.imp Eq.symm h.marked)
  · rw [hlo] at ht
    rw [ho]
    rcases then_cons_iff.mp ht with ⟨heq, -⟩ | hold
    · exact absurd heq he.2
    · exact hve hold

lemma Block.finishBlock {who : Caller Tid}
    (hon : s.once = .inside who stage) : Block setup (s.finishBlock setup who stage) := by
  have hr : s.once.record = stage.record := by rw [hon]; rfl
  have hou : s.once.outcome = stage.outcome := by rw [hon]; rfl
  cases stage with
  | latch o =>
    -- the one stage that decides on the outcome
    refine ⟨h.record.trans hr, h.shown, h.completed, h.marked, fun ht o' ho' => ?_⟩
    cases ho'
    exact if_pos (h.shown _ ht.mem)
  | exchange o =>
    simp only [Operation.finishBlock]
    split
    · exact h.move (nil_append _).symm (forall_mem_nil _) hr.symm hou.symm
        ⟨rfl, rfl, rfl, rfl⟩ id id
    · exact h.move singleton_append.symm (forall_mem_singleton.mpr ⟨rfl, nofun⟩) hr.symm hou.symm
        ⟨rfl, rfl, rfl, rfl⟩ id id
  | notify o =>
    refine h.move rfl (fun e he => ?_) hr.symm hou.symm ⟨rfl, rfl, rfl, rfl⟩ id id
    split at he
    · rw [mem_singleton.mp he]
      exact ⟨rfl, nofun⟩
    · cases he
  | status o =>
    refine h.note hon rfl rfl rfl ⟨rfl, nofun⟩ ⟨rfl, fun e he hs => ?_⟩ .inl .inl
    cases e with
    | wroteStatus => cases mem_singleton.mp (hr ▸ (h.mem_iff rfl).mp he)
    | _ => exact hs
  | errorCode o =>
    refine h.note hon rfl rfl rfl ⟨rfl, nofun⟩ ⟨rfl, fun e he hs => ?_⟩ .inl .inl
    cases e with
    | wroteCode => cases mem_pair.mp (hr ▸ (h.mem_iff rfl).mp he) <;> contradiction
    | _ => exact hs
  | completed o =>
    exact h.note hon rfl rfl rfl ⟨rfl, nofun⟩ ⟨trivial, fun _ _ hs => hs.mono rfl rfl id id⟩
      (fun _ => .inr rfl) .inl
  | gate o =>
    simp only [Operation.finishBlock]
    split
    · exact h.move (nil_append _).symm (forall_mem_nil _) hr.symm hou.symm
        ⟨rfl, rfl, rfl, rfl⟩ id id
    · rename_i hg
      refine h.note hon rfl rfl rfl ⟨rfl, nofun⟩ ⟨?_, fun _ _ hs => hs.mono rfl rfl id id⟩ .inl .inl
      show s.shutdown = true ∨ setup.hasChannel = false
      cases hs : s.shutdown with
      | true => exact .inl rfl
      | false => exact .inr (Bool.eq_false_iff.mpr fun hc => hg ⟨hc, hs⟩)
  | emit o =>
    exact h.note hon rfl rfl rfl ⟨rfl, nofun⟩
      ⟨trivial, fun _ _ hs => hs.mono rfl rfl id id⟩ .inl .inl
  | store o emitted =>
    exact h.note hon rfl rfl rfl ⟨rfl, nofun⟩ ⟨trivial, fun _ _ hs => hs.mono rfl rfl id id⟩ .inl
      fun _ => .inr rfl
  | wake o emitted =>
    exact h.move (nil_append _).symm (forall_mem_nil _) hr.symm hou.symm ⟨rfl, rfl, rfl, rfl⟩ id id

lemma Block.step (a : BaseAction Tid) : Block setup (s.step setup a) := by
  rcases Operation.step_cases setup s a with ⟨c, -, -, heq⟩ | ⟨who, o, -, hf⟩ | hb
  · rw [heq]
    exact { h with }
  · rcases Operation.finish_cases setup s hf with ⟨ho, heq⟩ | ⟨stage, ho, heq⟩ | heq <;> rw [heq]
    · exact h.begin ho who o
    · exact h.finishBlock ho
    · exact h
  · exact h.beside hb

end

end Invariant

/-! ## Nothing is reported after the outcome -/

def Once.isFresh : Once Tid → Bool
  | .fresh => true
  | _ => false

/-- the phase has been set to `Done` -/
def FinishStage.isPhaseSet : FinishStage → Bool
  | .latch _ | .exchange _ => false
  | _ => true

def Once.isPhaseSet : Once Tid → Bool
  | .fresh => false
  | .inside _ stage => stage.isPhaseSet
  | .passed _ _ => true

/-- the worker reports nothing once the finishing block is entered, and is not reporting when it is
-/
def Apart (s : Operation Tid) : BaseAction Tid → Prop
  | .call (.setPhase _) | .call .groupReady => s.once.isFresh = true
  | a => (s.finishes a).isSome = true → s.once.isFresh = true → s.worker.isReporting = false

instance (s : Operation Tid) : ∀ a, Decidable (Apart s a)
  | .call (.setPhase _) | .call .groupReady => inferInstanceAs (Decidable (_ = _))
  | .call (.finish o) =>
    inferInstanceAs (Decidable ((s.finishes (.call (.finish o))).isSome = true → _ → _ = false))
  | .call .leave =>
    inferInstanceAs (Decidable ((s.finishes (.call .leave)).isSome = true → _ → _ = false))
  | .call (.throw what) =>
    inferInstanceAs (Decidable ((s.finishes (.call (.throw what))).isSome = true → _ → _ = false))
  | .work => inferInstanceAs (Decidable ((s.finishes .work).isSome = true → _ → _ = false))
  | .timer n => inferInstanceAs (Decidable ((s.finishes (.timer n)).isSome = true → _ → _ = false))
  | .other t => inferInstanceAs (Decidable ((s.finishes (.other t)).isSome = true → _ → _ = false))
  | .requestCancel t =>
    inferInstanceAs (Decidable ((s.finishes (.requestCancel t)).isSome = true → _ → _ = false))
  | .finishCardRemoved t =>
    inferInstanceAs (Decidable ((s.finishes (.finishCardRemoved t)).isSome = true → _ → _ = false))
  | .shutdown => inferInstanceAs (Decidable ((s.finishes .shutdown).isSome = true → _ → _ = false))

def Unreported (past : List BaseEvent) (e : BaseEvent) : Prop :=
  e.isReport = true → ∀ o, .finished o ∉ past

structure Absorbed (s : Operation Tid) : Prop where
  still : s.once.isFresh = false → s.worker.isReporting = false
  done : s.once.isPhaseSet = true → s.phase = done.number
  log : Throughout Unreported s.log

section Absorbing
variable {setup : Setup} {s s' : Operation Tid}

lemma absorbed_start : Absorbed ({} : Operation Tid) :=
  ⟨fun _ => rfl, fun h => absurd h Bool.false_ne_true, trivial⟩

lemma Block.phaseSet_of_finished (h : Block setup s) {o : Completion} (ho : .finished o ∈ s.log) :
    s.once.isPhaseSet = true := by
  have hr := (h.mem_iff rfl).mp ho
  cases hon : s.once with
  | fresh =>
    rw [hon] at hr
    cases hr
  | passed o' emitted => rfl
  | inside who stage =>
    rw [hon] at hr
    cases stage with
    | latch | exchange => cases mem_singleton.mp hr
    | _ => rfl

variable {new : List BaseEvent} {a : BaseAction Tid}

lemma Throughout.unreported_append {past : List BaseEvent} (h : Throughout Unreported past)
    (hn : ∀ e ∈ new, e.ofBlock = false ∧ (e.isReport = true → ∀ o, .finished o ∉ past)) :
    Throughout Unreported (new ++ past) := by
  induction new with
  | nil => exact h
  | cons e new ih =>
    refine ⟨fun hr o hin => ?_, ih fun e' he' => hn e' (mem_cons_of_mem _ he')⟩
    rcases mem_append.mp hin with hin | hin
    · exact Bool.false_ne_true ((hn _ (mem_cons_of_mem _ hin)).1.symm)
    · exact (hn e mem_cons_self).2 hr o hin

lemma Absorbed.beside (h : Absorbed s) (hbl : Block setup s) (hb : Beside s s') : Absorbed s' := by
  obtain ⟨new, hl, hn⟩ := hb.log
  -- while the worker reports, nobody has entered the block
  have hf : s.worker.isReporting = true → s.once = .fresh := by
    intro hr
    cases hon : s.once with
    | fresh => rfl
    | _ =>
      have hs := h.still (by rw [hon]; rfl)
      rw [hr] at hs
      cases hs
  refine ⟨?_, ?_, ?_⟩
  · rw [hb.once]
    intro hon
    refine Bool.eq_false_iff.mpr fun hr => ?_
    rw [hf (hb.reporting hr)] at hon
    cases hon
  · rw [hb.once]
    intro hse
    rcases hb.phase with hp | hr
    · exact hp.trans (h.done hse)
    · rw [hf hr] at hse
      cases hse
  · rw [hl]
    refine Throughout.unreported_append h.log fun e he => ⟨(hn e he).1, fun hre o ho => ?_⟩
    have hse := hbl.phaseSet_of_finished ho
    rw [hf ((hn e he).2.2 hre)] at hse
    cases hse

lemma Absorbed.move (h : Absorbed s) (hl : s'.log = new ++ s.log)
    (hn : ∀ e ∈ new, e.isReport = false) (hw : s'.worker = s.worker) (ho : s.once.isFresh = false)
    (hd : s'.once.isPhaseSet = true → s'.phase = OperationPhase.done.number) : Absorbed s' := by
  refine ⟨fun _ => ?_, hd, ?_⟩
  · rw [hw]
    exact h.still ho
  · rw [hl]
    refine h.log.append fun e he past hr => ?_
    rw [hn e he] at hr
    cases hr

lemma Absorbed.finishBlock (h : Absorbed s) (hb : Block setup s) {who : Caller Tid}
    {stage : FinishStage}
    (hon : s.once = .inside who stage) : Absorbed (s.finishBlock setup who stage) := by
  have hf : s.once.isFresh = false := by rw [hon]; rfl
  have hd : stage.isPhaseSet = true → s.phase = OperationPhase.done.number := by
    intro hs
    refine h.done ?_
    rw [hon]
    exact hs
  cases stage with
  | latch o =>
    refine h.move (nil_append _).symm (forall_mem_nil _) rfl hf fun hs => ?_
    cases hs
  | exchange o =>
    simp only [Operation.finishBlock]
    split
    · next hp => exact h.move (nil_append _).symm (forall_mem_nil _) rfl hf fun _ => hp
    · exact h.move singleton_append.symm (forall_mem_singleton.mpr rfl) rfl hf fun _ => rfl
  | notify o =>
    -- the one report of the block comes before the outcome
    refine ⟨fun _ => h.still hf, fun _ => hd rfl, ?_⟩
    refine Throughout.unreported_append h.log fun e he => ?_
    split at he
    · rw [mem_singleton.mp he]
      refine ⟨rfl, fun _ o' ho' => ?_⟩
      have hr := (hb.mem_iff rfl).mp ho'
      rw [hon] at hr
      cases mem_singleton.mp hr
    · cases he
  | gate o =>
    simp only [Operation.finishBlock]
    split
    · exact h.move (nil_append _).symm (forall_mem_nil _) rfl hf fun _ => hd rfl
    · exact h.move singleton_append.symm (forall_mem_singleton.mpr rfl) rfl hf fun _ => hd rfl
  | status o | errorCode o | completed o | emit o | store o =>
    exact h.move singleton_append.symm (forall_mem_singleton.mpr rfl) rfl hf fun _ => hd rfl
  | wake o emitted => exact h.move (nil_append _).symm (forall_mem_nil _) rfl hf fun _ => hd rfl

lemma Apart.still (h : Apart s a) (hf : (s.finishes a).isSome = true)
    (hfr : s.once.isFresh = true) : s.worker.isReporting = false := by
  cases a with
  | call c => cases hf
  | _ => exact h hf hfr

lemma Apart.start {c : WorkCall} (h : Apart s (.call c)) (ho : s.once.isFresh = false) :
    c.start.isReporting = false := by
  cases c with
  | setPhase | groupReady =>
    have hf : s.once.isFresh = true := h
    rw [hf] at ho
    cases ho
  | _ => rfl

lemma Absorbed.step (h : Absorbed s) (hbl : Block setup s) (ha : Apart s a) :
    Absorbed (s.step setup a) := by
  rcases Operation.step_cases setup s a with ⟨c, rfl, -, heq⟩ | ⟨who, o, hf, hfi⟩ | hb
  · rw [heq]
    exact ⟨ha.start, h.done, h.log⟩
  · rcases Operation.finish_cases setup s hfi with ⟨ho, heq⟩ | ⟨stage, ho, heq⟩ | heq <;> rw [heq]
    · refine ⟨fun _ => ?_, fun hs => ?_, ?_⟩
      · refine ha.still ?_ ?_
        · rw [hf]
          rfl
        · rw [ho]
          rfl
      · cases hs
      · exact ⟨fun hr => absurd hr Bool.false_ne_true, h.log⟩
    · exact h.finishBlock hbl ho
    · exact h
  · exact h.beside hbl hb

end Absorbing

/-- once the outcome is published, the phase is `Done`, and nothing is reported any more -/
theorem done_absorbing (setup : Setup) (actions : List (BaseAction Tid))
    (h : Along (Operation.step setup) Apart {} actions) (o : Completion) :
    (.finished o ∈ (run (Operation.step setup) {} actions).log →
      (run (Operation.step setup) {} actions).phase = done.number) ∧
    ¬ Then (.finished o) .propertiesChanged (run (Operation.step setup) {} actions).log ∧
    ¬ Then (.finished o) .group (run (Operation.step setup) {} actions).log := by
  have hk : ∀ (s : Operation Tid) (a : BaseAction Tid), Apart s a → Block setup s ∧ Absorbed s →
      Block setup (s.step setup a) ∧ Absorbed (s.step setup a) := fun s a ha hs =>
    ⟨hs.1.step a, hs.2.step hs.1 ha⟩
  obtain ⟨hb, hab⟩ := run_invariant_along hk ⟨block_start, absorbed_start⟩ h
  have hn : ∀ e : BaseEvent, e.isReport = true →
    ¬ Then (.finished o) e (run (Operation.step setup) {} actions).log := by
    rintro e he ⟨newer, older, hl, ho⟩
    have ht := hab.log
    rw [hl] at ht
    exact ht.at he o ho
  refine ⟨fun ho => hab.done (hb.phaseSet_of_finished ho), hn _ rfl, hn _ rfl⟩

/-- a phase is set and a timer started; the timer runs out and finishes the operation; if `late`,
the worker goes on to report -/
def timeoutRun (late : Bool) : List (BaseAction (Fin 1)) :=
  List.flatten [[.work, .call (.setPhase reading.number)], List.replicate 7 .work,
    List.replicate 17 (.timer 0),
    if late then [.call (.setPhase signing.number), .work, .work, .work, .call .groupReady, .work]
      else []]

theorem done_absorbing_timeout : Along (Operation.step {}) Apart {} (timeoutRun false) ∧
      .finished .watchdogTimeout ∈ (run (Operation.step {}) {} (timeoutRun false)).log ∧
      (run (Operation.step {}) {} (timeoutRun false)).phase = done.number := by
  have ha : Along (Operation.step {}) Apart {} (timeoutRun false) := by decide +kernel
  have hf : .finished .watchdogTimeout ∈ (run (Operation.step {}) {} (timeoutRun false)).log := by
    decide +kernel
  exact ⟨ha, hf, (done_absorbing {} _ ha .watchdogTimeout).1 hf⟩

theorem done_absorbing_fails :
    Then (.finished .watchdogTimeout) .propertiesChanged
      (run (Operation.step {}) {} (timeoutRun true)).log ∧
      Then (.finished .watchdogTimeout) .group (run (Operation.step {}) {} (timeoutRun true)).log ∧
      (run (Operation.step {}) {} (timeoutRun true)).phase = signing.number := by
  decide +kernel

end LibreAgent.Operations
