import LibreAgent.Operations.Finishing

/-!
# The timers of an operation

Only the worker starts a timer and stops it: `armWatchdogIfNeeded` starts one on the entry into a
phase in which the machine works, unless one has been started since the last prompt; the entry into
`AwaitingConsent` stops the timer and joins it.

* `RunPc.Holds` : what the worker knows about the timer at each place;
* `terminal_protocol` : the end of an operation, whoever comes first, and its timers.
-/

set_option linter.unusedSectionVars false

namespace LibreAgent.Operations

open Runs OperationPhase Operation FinishStage

variable {Tid : Type*} [DecidableEq Tid]

attribute [local simp] FinishStage.record

/-! ## Phases and places -/

def MachinePhase (p : UInt32) : Prop :=
  p = authenticating.number ∨ p = reading.number

def BaseEvent.EntersMachine : BaseEvent → Prop
  | .changed p => MachinePhase p
  | _ => False

def BaseEvent.EntersConsent : BaseEvent → Prop
  | .changed p => p = awaitingConsent.number
  | _ => False

/-- the change to `AwaitingConsent` has returned, and the machine has not been at work since -/
def Consenting (past : List BaseEvent) : Prop :=
  Since BaseEvent.EntersMachine (.returned awaitingConsent.number) past

/-- a timer has been started since the last change to `AwaitingConsent` -/
def TimerStarted (past : List BaseEvent) : Prop :=
  ∃ n, Since BaseEvent.EntersConsent (.started n) past

def TimerPc.isLive : TimerPc → Bool
  | .unborn | .gone => false
  | _ => true

/-- between the change to `AwaitingConsent` and the end of the timer -/
def RunPc.isEnding : RunPc → Bool
  | .stopping .consent | .joining _ .consent => true
  | _ => false

def RunPc.isAssigning : RunPc → Bool
  | .assigning _ _ => true
  | _ => false

def RunPc.isUncovered : RunPc → Bool
  | .notifying p => p = awaitingConsent.number
  | .disarming | .timing _ | .spawning _ => true
  | _ => false

def RunPc.Holds (armed : Bool) (watchdog : Option Nat) (log : List BaseEvent) : RunPc → Prop
  | .notifying p => MachinePhase p → ¬ Consenting log
  | .arming p => p ≠ awaitingConsent.number ∧ (MachinePhase p → ¬ Consenting log)
  | .swapping p => MachinePhase p ∧ ¬ Consenting log
  | .timing p | .spawning p | .assigning p _ =>
    MachinePhase p ∧ ¬ Consenting log ∧ armed = true ∧ watchdog = none
  | .stopping .consent => armed = false
  | .joining n .consent => armed = false ∧ watchdog = some n
  | .joining n .quiesce => watchdog = some n
  | _ => True

/-! ## The invariant -/

def Timed (setup : Setup) (past : List BaseEvent) : BaseEvent → Prop
  | .latched => ¬ Consenting past
  | .returned p => MachinePhase p → 0 < setup.watchdogTimeoutSec → TimerStarted past
  | _ => True

structure Timers (setup : Setup) (s : Operation Tid) : Prop where
  unborn : ∀ n, s.nextTimer ≤ n → s.timers n = .unborn
  live : ∀ n, (s.timers n).isLive = true → s.watchdog = some n ∨ ∃ p, s.worker = .assigning p n
  holds : s.worker.Holds s.watchdogArmed s.watchdog s.log
  disarmed : s.watchdogArmed = false → s.worker.isEnding = false → s.watchdog = none
  quiet : Consenting s.log → s.watchdogArmed = false ∧ s.watchdog = none
  covered : 0 < setup.watchdogTimeoutSec → s.watchdogArmed = true → s.worker.isUncovered = false →
    TimerStarted s.log
  log : Throughout (Timed setup) s.log

section Rules
variable {setup : Setup} {s s' : Operation Tid}

lemma timers_start : Timers setup ({} : Operation Tid) := by
  refine ⟨fun _ _ => rfl, fun _ h => absurd h Bool.false_ne_true, trivial, fun _ _ => rfl, fun _ =>
      ⟨rfl, rfl⟩, ?_, trivial⟩
  exact fun _ h => absurd h Bool.false_ne_true

def BaseEvent.isUntimed : BaseEvent → Bool
  | .latched | .returned _ | .started _ | .changed _ => false
  | _ => true

variable {e : BaseEvent} {past : List BaseEvent} {p : UInt32} {n : Nat} {why : Joining}
  {o : Completion}

lemma Consenting.of_cons (h : Consenting (e :: past))
    (he : ∀ p, e ≠ .returned p) : Consenting past ∧ ¬ e.EntersMachine := by
  rcases since_cons_iff.mp h with heq | ⟨hr, hold⟩
  · exact absurd heq (he _)
  · exact ⟨hold, hr⟩

lemma TimerStarted.cons (h : TimerStarted past) (he : ¬ e.EntersConsent) :
    TimerStarted (e :: past) := by
  obtain ⟨n, hn⟩ := h
  exact ⟨n, hn.cons he⟩

lemma RunPc.Holds.log {pc : RunPc} {armed : Bool} {watchdog : Option Nat} {past' : List BaseEvent}
    (h : pc.Holds armed watchdog past) (hl : Consenting past' → Consenting past) :
    pc.Holds armed watchdog past' := by
  cases pc with
  | notifying p => exact fun hp hc => h hp (hl hc)
  | arming p => exact ⟨h.1, fun hp hc => h.2 hp (hl hc)⟩
  | swapping p => exact ⟨h.1, fun hc => h.2 (hl hc)⟩
  | timing p | spawning p | assigning p n => exact ⟨h.1, fun hc => h.2.1 (hl hc), h.2.2⟩
  | stopping why => cases why <;> exact h
  | joining n why => cases why <;> exact h
  | _ => trivial

lemma Timers.tell (h : Timers setup s) (he : e.isUntimed = true ∨ ∃ p, e = .changed p ∧
    ¬ MachinePhase p ∧ p ≠ awaitingConsent.number) : Timers setup (s.say [e]) := by
  have hm : ¬ e.EntersMachine := by
    rcases he with he | ⟨p, rfl, hp, -⟩
    · cases e <;> first | exact absurd he Bool.false_ne_true | exact not_false
    · exact hp
  have hco : ¬ e.EntersConsent := by
    rcases he with he | ⟨p, rfl, -, hp⟩
    · cases e <;> first | exact absurd he Bool.false_ne_true | exact not_false
    · exact hp
  have hr : ∀ p, e ≠ .returned p := by
    rintro p rfl
    rcases he with he | ⟨p', heq, -⟩
    · cases he
    · cases heq
  have hb : Consenting (e :: s.log) → Consenting s.log := fun hc => (hc.of_cons hr).1
  refine ⟨h.unborn, h.live, h.holds.log hb, h.disarmed, fun hc => h.quiet (hb hc), ?_, ?_, h.log⟩
  · exact fun hpo ha hpc => (h.covered hpo ha hpc).cons hco
  · cases e with
    | latched =>
      rcases he with he | ⟨p, heq, -⟩
      · cases he
      · cases heq
    | returned p => exact absurd rfl (hr p)
    | _ => trivial

lemma Timers.tellIf (h : Timers setup s) {c : Prop} [Decidable c] (he : e.isUntimed = true) :
    Timers setup (s.say (if c then [e] else [])) := by
  split
  · exact h.tell (.inl he)
  · exact h

lemma Timers.other (h : Timers setup s) {phase : UInt32}
    {cancelled completed token shutdown finished fired : Bool} {terminalStatus : OperationStatus}
    {terminalErrorCode : ErrorCode} {once : Once Tid} {watchdogArmAttempts : Nat}
    {stops : Nat → Bool} {others : Tid → OtherPc} :
    Timers setup { s with
        phase, cancelled, completed, terminalStatus, terminalErrorCode, token,
        shutdown, once, finished,
        watchdogFired := fired, watchdogArmAttempts, stops, others } :=
  { h with }

section At
variable {pc : RunPc} (h : Timers setup s) (hpc : s.worker = pc)

/-! The invariant, at a place that the worker is at. -/

include h hpc

lemma Timers.holds_at : pc.Holds s.watchdogArmed s.watchdog s.log := hpc ▸ h.holds

lemma Timers.live_at (ha : pc.isAssigning = false) {n : Nat} (hn : (s.timers n).isLive = true) :
    s.watchdog = some n := by
  rcases h.live n hn with hw | ⟨p, hp⟩
  · exact hw
  · rw [← hpc, hp] at ha
    cases ha

lemma Timers.disarmed_at (he : pc.isEnding = false) (ha : s.watchdogArmed = false) :
    s.watchdog = none :=
  h.disarmed ha (hpc ▸ he)

lemma Timers.covered_at (hun : pc.isUncovered = false) (hp : 0 < setup.watchdogTimeoutSec)
    (ha : s.watchdogArmed = true) : TimerStarted s.log :=
  h.covered hp ha (hpc ▸ hun)

lemma Timers.setWorker {next : RunPc} (ha : pc.isAssigning = false)
    (hc : next.isUncovered = true ∨ pc.isUncovered = false)
    (hh : next.Holds s.watchdogArmed s.watchdog s.log)
    (hd : s.watchdogArmed = false → next.isEnding = false → s.watchdog = none) :
    Timers setup { s with worker := next } := by
  refine ⟨h.unborn, fun n hn => .inl (h.live_at hpc ha hn), hh, hd, h.quiet, ?_, h.log⟩
  intro hp har hne
  rcases hc with hun | hold
  · exact absurd (hun.symm.trans hne) (by decide)
  · exact h.covered_at hpc hold hp har

end At

lemma Timers.returnPhase (hu : ∀ n, s.nextTimer ≤ n → s.timers n = .unborn)
    (hl : ∀ n, (s.timers n).isLive = true → s.watchdog = some n)
    (hd : s.watchdogArmed = false → s.watchdog = none)
    (hq : Consenting s.log ∨ p = awaitingConsent.number →
      s.watchdogArmed = false ∧ s.watchdog = none)
    (hco : 0 < setup.watchdogTimeoutSec → s.watchdogArmed = true ∨ MachinePhase p →
      TimerStarted s.log)
    (hlo : Throughout (Timed setup) s.log) : Timers setup (s.returnPhase p) := by
  refine ⟨hu, fun n hn => .inl (hl n hn), trivial, fun ha _ => hd ha, ?_, ?_, ?_, hlo⟩
  · intro hc
    rcases since_cons_iff.mp hc with heq | ⟨-, hold⟩
    · refine hq (.inr ?_)
      cases heq
      rfl
    · exact hq (.inl hold)
  · exact fun hpo ha _ => (hco hpo (.inl ha)).cons not_false
  · exact fun hp hpo => hco hpo (.inr hp)

lemma not_machine_awaiting : ¬ MachinePhase awaitingConsent.number := by
  unfold MachinePhase
  decide

lemma Timers.returnArm (h : Timers setup s) {pc : RunPc} (hpc : s.worker = pc)
    (ha : pc.isAssigning = false) (he : pc.isEnding = false) (hp : p ≠ awaitingConsent.number)
    (hco : 0 < setup.watchdogTimeoutSec → s.watchdogArmed = true ∨ MachinePhase p →
      TimerStarted s.log) :
    Timers setup (s.returnPhase p) :=
  .returnPhase h.unborn (fun _ hn => h.live_at hpc ha hn) (h.disarmed_at hpc he)
    (fun hc => h.quiet (hc.resolve_right hp)) hco h.log

lemma MachinePhase.ne_awaiting (h : MachinePhase p) : p ≠ awaitingConsent.number :=
  fun heq => not_machine_awaiting (heq ▸ h)

section
variable (h : Timers setup s)
include h

lemma Timers.arm (hpc : s.worker = .arming p) : Timers setup (s.work setup (.arming p)) := by
  have hh := h.holds_at hpc
  simp only [work]
  split
  · rename_i hp
    have hs : Timers setup { s with worker := .swapping p } :=
      h.setWorker hpc rfl (.inr rfl) ⟨hp, hh.2 hp⟩ fun ha _ => h.disarmed_at hpc rfl ha
    exact hs.other
  · rename_i hp
    refine h.returnArm hpc rfl rfl hh.1 ?_
    rintro hpo (ha | hm)
    · exact h.covered_at hpc rfl hpo ha
    · exact absurd hm hp

lemma Timers.swap (hpc : s.worker = .swapping p) : Timers setup (s.work setup (.swapping p)) := by
  have hh := h.holds_at hpc
  simp only [work]
  split
  · next ha => exact h.returnArm hpc rfl rfl hh.1.ne_awaiting fun hp _ => h.covered_at hpc rfl hp ha
  · rename_i ha
    have hno : s.watchdog = none := h.disarmed_at hpc rfl (Bool.eq_false_iff.mpr ha)
    refine ⟨h.unborn, fun n hn => .inl (h.live_at hpc rfl hn), ⟨hh.1, hh.2, rfl, hno⟩, ?_,
      ?_, ?_, h.log⟩
    · exact fun hnot => absurd hnot.symm Bool.false_ne_true
    · exact fun hc => absurd hc hh.2
    · exact fun _ _ hun => absurd hun.symm Bool.false_ne_true

lemma Timers.time (hpc : s.worker = .timing p) : Timers setup (s.work setup (.timing p)) := by
  have hh := h.holds_at hpc
  simp only [work]
  split
  · next hz => exact h.returnArm hpc rfl rfl hh.1.ne_awaiting fun hp => absurd hz (Nat.ne_of_gt hp)
  · exact h.setWorker hpc rfl (.inl rfl) hh fun _ _ => hh.2.2.2

lemma Timers.spawn (hpc : s.worker = .spawning p) : Timers setup (s.work setup (.spawning p)) := by
  obtain ⟨hm, hq, ha, hno⟩ := h.holds_at hpc
  -- no timer is live before
  have hd : ∀ n, (s.timers n).isLive = true → False := fun n hn =>
    Option.some_ne_none n ((h.live_at hpc rfl hn).symm.trans hno)
  have hb : Consenting (.started s.nextTimer :: s.log) → Consenting s.log := fun hc =>
    (hc.of_cons fun _ heq => by cases heq).1
  refine ⟨?_, ?_, ⟨hm, fun hc => hq (hb hc), ha, hno⟩, ?_, ?_, ?_, trivial, h.log⟩
  · intro n hn
    have hne : n ≠ s.nextTimer := Nat.ne_of_gt hn
    show (Function.update s.timers s.nextTimer .waiting) n = _
    rw [Function.update_of_ne hne]
    exact h.unborn n (Nat.le_of_succ_le hn)
  · intro n hn
    by_cases hne : n = s.nextTimer
    · exact .inr ⟨p, by rw [hne]; rfl⟩
    · have hold : ((Function.update s.timers s.nextTimer .waiting) n).isLive = true := hn
      rw [Function.update_of_ne hne] at hold
      exact (hd n hold).elim
  · exact fun _ _ => hno
  · exact fun hc => absurd (hb hc) hq
  · exact fun _ _ _ => ⟨s.nextTimer, since_now _ _ _⟩

lemma Timers.assign (hpc : s.worker = .assigning p n) :
    Timers setup (s.work setup (.assigning p n)) := by
  obtain ⟨hma, hq, ha, hn⟩ := h.holds_at hpc
  simp only [work, hn]
  refine .returnPhase h.unborn ?_ ?_ ?_ ?_ h.log
  · intro m hm
    rcases h.live m hm with hw | ⟨p', hp'⟩
    · rw [hn] at hw
      cases hw
    · rw [hpc] at hp'
      cases hp'
      rfl
  · intro hno
    have hno' : s.watchdogArmed = false := hno
    rw [ha] at hno'
    cases hno'
  · exact fun hc => hc.elim (absurd · hq) (absurd · hma.ne_awaiting)
  · exact fun hpo _ => h.covered_at hpc rfl hpo ha

lemma Timers.exchange (hpc : s.worker = .exchanging p) :
    Timers setup (s.work setup (.exchanging p)) := by
  simp only [work]
  split
  · exact h.setWorker hpc rfl (.inr rfl) trivial fun ha _ => h.disarmed_at hpc rfl ha
  · have hb : Consenting (.changed p :: s.log) → Consenting s.log ∧ ¬ MachinePhase p := fun hc =>
      hc.of_cons fun _ heq => by cases heq
    refine ⟨h.unborn, fun n hn => .inl (h.live_at hpc rfl hn), ?_, fun ha _ =>
      h.disarmed_at hpc rfl ha, ?_, ?_,
      trivial, h.log⟩
    · exact fun hp hc => (hb hc).2 hp
    · exact fun hc => h.quiet (hb hc).1
    · intro hpo ha hun
      have hp : p ≠ awaitingConsent.number := of_decide_eq_false hun
      exact TimerStarted.cons (h.covered_at hpc rfl hpo ha) hp

lemma Timers.notify (hpc : s.worker = .notifying p) :
    Timers setup (s.work setup (.notifying p)) := by
  have hd : s.watchdogArmed = false → s.watchdog = none := h.disarmed_at hpc rfl
  simp only [work]
  refine Timers.tellIf ?_ rfl
  split
  · exact h.setWorker hpc rfl (.inl rfl) trivial fun ha _ => hd ha
  · next hp =>
      exact h.setWorker hpc rfl (.inr (decide_eq_false hp)) ⟨hp, h.holds_at hpc⟩ fun ha _ => hd ha

end

lemma Timers.joined (hu : ∀ n, s.nextTimer ≤ n → s.timers n = .unborn)
    (hd : ∀ n, (s.timers n).isLive = false) (hno : s.watchdog = none)
    (ha : why = .consent → s.watchdogArmed = false) (hco : 0 < setup.watchdogTimeoutSec →
      s.watchdogArmed = true → TimerStarted s.log) (hq : Consenting s.log → s.watchdogArmed = false)
    (hlo : Throughout (Timed setup) s.log) : Timers setup (s.joined why) := by
  have hl : ∀ n, (s.timers n).isLive = true → s.watchdog = some n := by
    intro n hn
    rw [hd n] at hn
    cases hn
  cases why with
  | consent =>
    refine .returnPhase hu hl (fun _ => hno) (fun _ => ⟨ha rfl, hno⟩) ?_ hlo
    rintro hp (hs | hm)
    · exact hco hp hs
    · exact absurd hm not_machine_awaiting
  | quiesce =>
    exact ⟨hu, fun n hn => .inl (hl n hn), trivial, fun _ _ => hno, fun hc => ⟨hq hc, hno⟩,
      fun hp hs _ => hco hp hs, hlo⟩

section
variable (h : Timers setup s)
include h

lemma Timers.disarm (hpc : s.worker = .disarming) : Timers setup (s.work setup .disarming) := by
  simp only [work]
  split
  · refine ⟨h.unborn, fun n hn => .inl (h.live_at hpc rfl hn), rfl, ?_, fun hc =>
      ⟨rfl, (h.quiet hc).2⟩, ?_, h.log⟩
    · exact fun _ he => absurd he.symm Bool.false_ne_true
    · exact fun _ ha => absurd ha Bool.false_ne_true
  · rename_i hnot
    have ha : s.watchdogArmed = false := Bool.eq_false_iff.mpr hnot
    have hno : s.watchdog = none := h.disarmed_at hpc rfl ha
    refine .returnPhase h.unborn (fun n hn => h.live_at hpc rfl hn) (fun _ => hno)
      (fun _ => ⟨ha, hno⟩) ?_ h.log
    rintro hp (hs | hm)
    · exact absurd hs hnot
    · exact absurd hm not_machine_awaiting

lemma Timers.stop (hpc : s.worker = .stopping why) :
    Timers setup (s.work setup (.stopping why)) := by
  have hh := h.holds_at hpc
  have ha : why = .consent → s.watchdogArmed = false := by
    rintro rfl
    exact hh
  simp only [work]
  split
  · rename_i hno
    refine .joined h.unborn (fun n => ?_) hno ha (h.covered_at hpc rfl)
      (fun hc => (h.quiet hc).1) h.log
    exact Bool.eq_false_iff.mpr fun hn =>
      Option.some_ne_none n ((h.live_at hpc rfl hn).symm.trans hno)
  · rename_i n hs
    have hse : Timers setup { s with worker := .joining n why } := by
      refine h.setWorker hpc rfl (.inr rfl) ?_ fun hnot he => h.disarmed_at hpc ?_ hnot
      · cases why with
        | consent => exact ⟨hh, hs⟩
        | quiesce => exact hs
      · cases why with
        | consent => cases he
        | quiesce => rfl
    exact hse.other

lemma Timers.join (hpc : s.worker = .joining n why) :
    Timers setup (s.work setup (.joining n why)) := by
  have hh := h.holds_at hpc
  have hs : s.watchdog = some n := by
    cases why with
    | consent => exact hh.2
    | quiesce => exact hh
  have ha : why = .consent → s.watchdogArmed = false := by
    rintro rfl
    exact hh.1
  simp only [work]
  split
  · rename_i hg
    refine .joined h.unborn (fun m => ?_) rfl ha (h.covered_at hpc rfl)
      (fun hc => (h.quiet hc).1) h.log
    refine Bool.eq_false_iff.mpr fun hm => ?_
    cases hs.symm.trans (h.live_at hpc rfl hm)
    have hm' : (s.timers n).isLive = true := hm
    rw [hg] at hm'
    cases hm'
  · exact h

lemma Timers.work (hpc : s.worker.isFinishing = false) : Timers setup (s.work setup s.worker) := by
  cases hw : s.worker with
  | queued => exact h.setWorker hw rfl (.inr rfl) trivial fun ha _ => h.disarmed_at hw rfl ha
  | working | returned => exact h
  | exchanging p => exact h.exchange hw
  | notifying p => exact h.notify hw
  | arming p => exact h.arm hw
  | swapping p => exact h.swap hw
  | timing p => exact h.time hw
  | spawning p => exact h.spawn hw
  | assigning p n => exact h.assign hw
  | disarming => exact h.disarm hw
  | stopping why => exact h.stop hw
  | joining n why => exact h.join hw
  | grouping =>
    have hs : Timers setup { s with worker := .working } :=
      h.setWorker hw rfl (.inr rfl) trivial fun ha _ => h.disarmed_at hw rfl ha
    exact hs.tellIf rfl
  | finishing o leaves =>
    rw [hw] at hpc
    cases hpc

lemma Timers.setTimer (hn : (s.timers n).isLive = true) (pc : TimerPc) :
    Timers setup (s.setTimer n pc) := by
  refine ⟨?_, ?_, h.holds, h.disarmed, h.quiet, h.covered, h.log⟩
  · intro m hm
    have hne : m ≠ n := by
      rintro rfl
      rw [h.unborn m hm] at hn
      cases hn
    rw [setTimer_timers_of_ne _ hne]
    exact h.unborn m hm
  · intro m hm
    by_cases hne : m = n
    · subst hne
      exact h.live m hn
    · rw [setTimer_timers_of_ne _ hne] at hm
      exact h.live m hm

lemma Timers.latch (hn : (s.timers n).isLive = true) : Timers setup (s.say [.latched]) := by
  have hb : Consenting (.latched :: s.log) → Consenting s.log := fun hc =>
    (hc.of_cons fun _ heq => by cases heq).1
  have hno : ¬ Consenting s.log := by
    intro hc
    rcases h.live n hn with hs | ⟨p, hp⟩
    · rw [(h.quiet hc).2] at hs
      cases hs
    · have hh := h.holds
      rw [hp] at hh
      exact hh.2.1 hc
  refine ⟨h.unborn, h.live, h.holds.log hb, h.disarmed, fun hc => h.quiet (hb hc), ?_, hno, h.log⟩
  exact fun hpo ha hun => (h.covered hpo ha hun).cons not_false

lemma Timers.requestCancel (stage : CancelStage) :
    Timers setup (s.requestCancel setup stage).1 ∧ (s.requestCancel setup stage).1.timers =
      s.timers := by
  cases stage with
  | load => exact ⟨h, rfl⟩
  | store | trip => exact ⟨h.other, rfl⟩
  | dismiss previous => exact ⟨h.tellIf rfl, rfl⟩

lemma Timers.timer (hpc : s.timers n ≠ .finishing) :
    Timers setup (s.timer setup n (s.timers n)) := by
  cases ht : s.timers n with
  | unborn | gone => exact h
  | waiting =>
    have hl : (s.timers n).isLive = true := by rw [ht]; rfl
    simp only [Operation.timer]
    split <;> exact h.setTimer hl _
  | latching =>
    have hl : (s.timers n).isLive = true := by rw [ht]; rfl
    exact ((h.setTimer hl (.cancelling .load)).latch (n := n)
      (by rw [Operation.setTimer_timers_self]; rfl)).other
  | cancelling stage =>
    obtain ⟨hc, hti⟩ := h.requestCancel stage
    have hl : ((s.requestCancel setup stage).1.timers n).isLive = true := by rw [hti, ht]; rfl
    obtain ⟨pc, heq⟩ := s.timer_cancelling setup n stage
    rw [heq]
    exact hc.setTimer hl pc
  | finishing => exact absurd ht hpc

lemma Timers.finishBlock (who : Caller Tid) (stage : FinishStage) :
    Timers setup (s.finishBlock setup who stage) := by
  have hm : ∀ once, Timers setup { s with once := once } := fun once => h.other
  cases stage with
  | latch | wake => exact hm _
  | exchange o =>
    simp only [Operation.finishBlock]
    split
    · exact hm _
    · have hs : Timers setup { s with
          phase := OperationPhase.done.number,
          once := .inside who (.notify o) } := h.other
      refine hs.tell (.inr ⟨_, rfl, ?_, by decide⟩)
      unfold MachinePhase
      decide
  | notify o => exact (hm _).tellIf rfl
  | status o =>
    have hs : Timers setup { s with
        terminalStatus := o.status,
        once := .inside who (.errorCode o) } := h.other
    exact hs.tell (.inl rfl)
  | errorCode o =>
    have hs : Timers setup { s with
        terminalErrorCode := o.code,
        once := .inside who (.completed o) } := h.other
    exact hs.tell (.inl rfl)
  | completed o =>
    have hs : Timers setup { s with completed := true, once := .inside who (.gate o) } := h.other
    exact hs.tell (.inl rfl)
  | gate o =>
    simp only [Operation.finishBlock]
    split
    · exact hm _
    · exact (hm _).tell (.inl rfl)
  | emit o => exact (hm _).tell (.inl rfl)
  | store o emitted =>
    have hs : Timers setup { s with finished := true, once := .inside who (.wake o emitted) } :=
      h.other
    exact hs.tell (.inl rfl)

lemma Timers.finish {who : Caller Tid}
    (hf : s.finish setup who o = (s', false)) : Timers setup s' := by
  rcases finish_cases setup s hf with ⟨-, heq⟩ | ⟨stage, -, heq⟩ | heq <;> rw [heq]
  · have hs : Timers setup { s with once := .inside who (.latch o) } := h.other
    exact hs.tell (.inl rfl)
  · exact h.finishBlock who stage
  · exact h

lemma Timers.begin (t : Tid) (removed : Bool) (pc : OtherPc) :
    Timers setup (s.begin t removed pc) := by
  cases pc with
  | idle => exact h.other
  | cancelling | finishing => exact h

lemma Timers.finished {leaves : Bool} (hpc : s.worker = .finishing o leaves) (pc : RunPc)
    (hh : pc.Holds s.watchdogArmed s.watchdog s.log) : Timers setup { s with worker := pc } :=
  h.setWorker hpc rfl (.inr rfl) hh fun ha _ => h.disarmed_at hpc rfl ha

lemma Timers.step (a : BaseAction Tid) : Timers setup (s.step setup a) := by
  cases a with
  | call c =>
    cases hpc : s.worker with
    | working =>
      simp only [Operation.step, Operation.startCall, hpc]
      refine h.setWorker hpc rfl (.inr rfl) ?_ fun ha _ => h.disarmed_at hpc rfl ha
      cases c <;> trivial
    | _ =>
      simp only [Operation.step, Operation.startCall, hpc]
      exact h
  | work =>
    cases hpc : s.worker with
    | finishing o leaves =>
      simp only [Operation.step, Operation.work, hpc]
      split
      · next heq => exact h.finish heq
      · rename_i heq
        rw [Operation.finish_passed setup s heq]
        refine h.finished hpc _ ?_
        split <;> trivial
    | _ => exact h.work (by rw [hpc]; rfl)
  | timer n =>
    by_cases hpc : s.timers n = .finishing
    · simp only [Operation.step, Operation.timer, hpc]
      split
      · next heq => exact h.finish heq
      · rename_i heq
        rw [Operation.finish_passed setup s heq]
        exact h.setTimer (by rw [hpc]; rfl) _
    · exact h.timer hpc
  | requestCancel t | finishCardRemoved t => exact h.begin t _ _
  | other t =>
    cases hpc : s.others t with
    | idle =>
      simp only [Operation.step, hpc]
      exact h
    | cancelling stage removed =>
      obtain ⟨pc, heq⟩ := s.other_cancelling setup t stage removed
      simp only [Operation.step, hpc]
      rw [heq]
      exact (h.requestCancel stage).1.other
    | finishing =>
      simp only [Operation.step, Operation.other, hpc]
      split
      · next heq => exact h.finish heq
      · rename_i heq
        rw [Operation.finish_passed setup s heq]
        exact h.other
  | shutdown => exact h.other

lemma Timers.single {m : Nat} (hn : (s.timers n).isLive = true)
    (hm : (s.timers m).isLive = true) : n = m := by
  have hh := h.holds
  rcases h.live n hn with hs | ⟨p, hp⟩
  · rcases h.live m hm with hs' | ⟨p', hp'⟩
    · rw [hs] at hs'
      cases hs'
      rfl
    · rw [hp', hs] at hh
      cases hh.2.2.2
  · rcases h.live m hm with hs' | ⟨p', hp'⟩
    · rw [hp, hs'] at hh
      cases hh.2.2.2
    · rw [hp] at hp'
      cases hp'
      rfl

end

end Rules

/-! ## The protocol -/

def BaseEvent.isFinished : BaseEvent → Bool
  | .finished _ => true
  | _ => false

def BaseEvent.isStatusWrite : BaseEvent → Bool
  | .wroteStatus _ => true
  | _ => false

def BaseEvent.isCodeWrite : BaseEvent → Bool
  | .wroteCode _ => true
  | _ => false

structure TerminalProtocol (setup : Setup) (s : Operation Tid) : Prop where
  /-- the outcome is published once -/
  once : s.log.countP BaseEvent.isFinished ≤ 1
  /-- the mirrors are written once -/
  written : s.log.countP BaseEvent.isStatusWrite ≤ 1 ∧ s.log.countP BaseEvent.isCodeWrite ≤ 1
  /-- they equal what is published -/
  equal : ∀ o, .finished o ∈ s.log → s.terminalStatus = o.status ∧ s.terminalErrorCode = o.code
  /-- and are there before `completed` -/
  readable : s.completed = true → .wroteStatus s.terminalStatus ∈ s.log ∧
    .wroteCode s.terminalErrorCode ∈ s.log
  /-- the operation is finished after the outcome is published, or suppressed -/
  published : s.finished = true →
    (∃ o, .finished o ∈ s.log) ∨ .elided ∈ s.log ∧ (s.shutdown = true ∨ setup.hasChannel = false)
  /-- the verdict of a timer that comes before the block is the outcome -/
  verdict : Then .latched .began s.log →
    (∀ o, .finished o ∈ s.log → o = .watchdogTimeout) ∧
    (∀ status, .wroteStatus status ∈ s.log → status = Completion.watchdogTimeout.status) ∧
    ∀ code, .wroteCode code ∈ s.log → code = Completion.watchdogTimeout.code
  single : ∀ n m, (s.timers n).isLive = true → (s.timers m).isLive = true → n = m
  /-- no timer speaks between the return of the change to `AwaitingConsent` and the next phase of
  the machine -/
  quiet : ∀ newer older, s.log = newer ++ .latched :: older → ¬ Consenting older
  /-- a change to a phase of the machine returns with a timer started since the last prompt -/
  covered : ∀ newer older p, s.log = newer ++ .returned p :: older → MachinePhase p →
    0 < setup.watchdogTimeoutSec →
    TimerStarted older

section Protocol
variable {setup : Setup} {s : Operation Tid}
variable {P : BaseEvent → Bool}

lemma Block.countP_eq (h : Block setup s) (hP : ∀ e, P e = true → e.ofBlock = true) :
    s.log.countP P = s.once.record.countP P := by
  rw [← h.record, List.countP_filter]
  refine List.countP_congr fun e _ => ?_
  constructor
  · intro he
    rw [he, hP e he]
    rfl
  · intro he
    exact (Bool.and_eq_true _ _ ▸ he).1

lemma Once.record_suffix (once : Once Tid) :
    ∃ o emitted, once.record <:+ (wake o emitted).record ∧
      (once.outcome = some o ∨ o = .watchdogTimeout) := by
  have hd : ∀ o emitted k, (wake o emitted).record.drop k <:+ (wake o emitted).record :=
    fun o emitted k => List.drop_suffix k _
  cases once with
  | fresh => exact ⟨.watchdogTimeout, true, List.nil_suffix, .inr rfl⟩
  | passed o emitted => exact ⟨o, emitted, List.suffix_rfl, .inl rfl⟩
  | inside who stage =>
    cases stage with
    | latch o => exact ⟨.watchdogTimeout, true, hd .watchdogTimeout true 5, .inr rfl⟩
    | exchange o | notify o | status o => exact ⟨o, true, hd o true 5, .inl rfl⟩
    | errorCode o => exact ⟨o, true, hd o true 4, .inl rfl⟩
    | completed o => exact ⟨o, true, hd o true 3, .inl rfl⟩
    | gate o | emit o => exact ⟨o, true, hd o true 2, .inl rfl⟩
    | store o emitted => exact ⟨o, emitted, hd o emitted 1, .inl rfl⟩
    | wake o emitted => exact ⟨o, emitted, List.suffix_rfl, .inl rfl⟩

lemma Block.countP_le_one (h : Block setup s) (hP : ∀ e, P e = true → e.ofBlock = true)
    (hf : ∀ o emitted, (wake o emitted).record.countP P ≤ 1) : s.log.countP P ≤ 1 := by
  obtain ⟨o, emitted, hs, -⟩ := s.once.record_suffix
  rw [h.countP_eq hP]
  exact Nat.le_trans hs.sublist.countP_le (hf o emitted)

lemma Block.finished_once (h : Block setup s) : s.log.countP BaseEvent.isFinished ≤ 1 := by
  refine h.countP_le_one (fun e he => ?_) fun o emitted => ?_
  · cases e <;> first | rfl | exact absurd he Bool.false_ne_true
  · cases emitted with
    | false => exact Nat.zero_le 1
    | true => exact Nat.le_refl 1

lemma Block.written_once (h : Block setup s) :
    s.log.countP BaseEvent.isStatusWrite ≤ 1 ∧ s.log.countP BaseEvent.isCodeWrite ≤ 1 := by
  constructor
  all_goals
    refine h.countP_le_one (fun e he => ?_) fun o emitted => ?_
    · cases e <;> first | rfl | exact absurd he Bool.false_ne_true
    · cases emitted <;> exact Nat.le_refl 1

/-- the mirrors are written before `completed`, and what is published comes after it -/
lemma Once.record_completed {once : Once Tid} (h : .completed ∈ once.record) :
    ∃ o, .wroteStatus o.status ∈ once.record ∧ .wroteCode o.code ∈ once.record ∧
      ∀ o', .finished o' ∈ once.record → o' = o := by
  cases once with
  | fresh => cases h
  | passed o emitted => cases emitted <;> exact ⟨o, by simp [Once.record]⟩
  | inside who stage =>
    cases stage with
    | gate o | emit o => exact ⟨o, by simp [Once.record]⟩
    | store o emitted | wake o emitted => cases emitted <;> exact ⟨o, by simp [Once.record]⟩
    | _ => simp [Once.record] at h

lemma Once.completed_of_finished {once : Once Tid} {o : Completion}
    (h : .finished o ∈ once.record) : .completed ∈ once.record := by
  cases once with
  | fresh => cases h
  | passed => simp [Once.record]
  | inside who stage => cases stage <;> simp_all [Once.record]

lemma Once.published_of_marked {once : Once Tid} (h : .marked ∈ once.record) :
    (∃ o, .finished o ∈ once.record) ∨ .elided ∈ once.record := by
  cases once with
  | fresh => cases h
  | passed o emitted => cases emitted <;> simp [Once.record]
  | inside who stage =>
    cases stage with
    | store o emitted | wake o emitted => cases emitted <;> simp_all [Once.record]
    | _ => simp [Once.record] at h

section
variable (h : Block setup s)
include h

lemma Block.mirrors (hc : .completed ∈ s.log) :
    ∃ o, s.terminalStatus = o.status ∧ s.terminalErrorCode = o.code ∧
    .wroteStatus o.status ∈ s.log ∧ .wroteCode o.code ∈ s.log ∧
      ∀ o', .finished o' ∈ s.log → o' = o := by
  obtain ⟨o, hs, hco, hf⟩ := Once.record_completed ((h.mem_iff rfl).mp hc)
  rw [← h.mem_iff rfl] at hs hco
  exact ⟨o, h.shown _ hs, h.shown _ hco, hs, hco, fun o' ho' => hf o' ((h.mem_iff rfl).mp ho')⟩

lemma Block.mirrors_of_finished {o : Completion} (ho : .finished o ∈ s.log) :
    s.terminalStatus = o.status ∧ s.terminalErrorCode = o.code := by
  obtain ⟨o', hs, hc, -, -, hf⟩ :=
    h.mirrors ((h.mem_iff rfl).mpr (Once.completed_of_finished ((h.mem_iff rfl).mp ho)))
  rw [hf o ho]
  exact ⟨hs, hc⟩

lemma Block.mirrors_of_completed (hc : s.completed = true) :
    .wroteStatus s.terminalStatus ∈ s.log ∧ .wroteCode s.terminalErrorCode ∈ s.log := by
  obtain ⟨o, hs, hco, hws, hwc, -⟩ := h.mirrors (h.completed hc)
  rw [hs, hco]
  exact ⟨hws, hwc⟩

lemma Block.published (hf : s.finished = true) :
    (∃ o, .finished o ∈ s.log) ∨ .elided ∈ s.log ∧
      (s.shutdown = true ∨ setup.hasChannel = false) := by
  rcases Once.published_of_marked ((h.mem_iff rfl).mp (h.marked hf)) with ⟨o, ho⟩ | he
  · exact .inl ⟨o, (h.mem_iff rfl).mpr ho⟩
  · rw [← h.mem_iff rfl] at he
    exact .inr ⟨he, h.shown _ he⟩

lemma Block.timeout (ht : Then .latched .began s.log) :
    (∀ o, .finished o ∈ s.log → o = .watchdogTimeout) ∧
    (∀ status, .wroteStatus status ∈ s.log → status = Completion.watchdogTimeout.status) ∧
    ∀ code, .wroteCode code ∈ s.log → code = Completion.watchdogTimeout.code := by
  obtain ⟨o, emitted, hsu, hou⟩ := s.once.record_suffix
  have hti : o = .watchdogTimeout := by
    rcases hou with hso | heq
    · exact h.verdict ht o hso
    · exact heq
  subst hti
  have hf : ∀ e : BaseEvent, e.ofBlock = true → e ∈ s.log →
    e ∈ (FinishStage.wake .watchdogTimeout emitted).record :=
    fun e he hin => hsu.subset ((h.mem_iff he).mp hin)
  refine ⟨fun o ho => ?_, fun status hs => ?_, fun code hc => ?_⟩
  · have hin := hf _ rfl ho
    cases emitted with
    | false => simp at hin
    | true => simpa using hin
  · have hin := hf _ rfl hs
    cases emitted <;> simpa using hin
  · have hin := hf _ rfl hc
    cases emitted <;> simpa using hin

end

end Protocol

/-- whatever `doWork` calls and whoever finishes the operation first -/
theorem terminal_protocol (setup : Setup) (actions : List (BaseAction Tid)) :
    TerminalProtocol setup (run (step setup) {} actions) := by
  have hb : Block setup (run (step setup) ({} : Operation Tid) actions) :=
    run_invariant (fun s a hs => hs.step a) block_start actions
  have ht : Timers setup (run (step setup) ({} : Operation Tid) actions) :=
    run_invariant (fun s a hs => hs.step a) timers_start actions
  refine ⟨hb.finished_once, hb.written_once, fun o ho => hb.mirrors_of_finished ho,
    hb.mirrors_of_completed, hb.published, hb.timeout, fun n m => ht.single, ?_, ?_⟩
  · intro newer older hl
    have hth := ht.log
    rw [hl] at hth
    exact hth.at
  · intro newer older p hl
    have hth := ht.log
    rw [hl] at hth
    exact hth.at

end LibreAgent.Operations
