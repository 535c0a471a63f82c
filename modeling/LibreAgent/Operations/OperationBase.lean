import Mathlib.Logic.Function.Basic
import LibreAgent.Lib.Runs

/-!
# One operation and its threads

An operation is run by a worker, which reports phases and groups of fields as it goes.  In the
phases in which the machine works a timer watches over it.  The worker, a timer that runs out, a
cancel and the drain after a card removal may all come to the end of the operation; the first one
publishes it.

* `Once`, `FinishStage` : the block under the `once_flag`, and who is in it;
* `RunPc` : where the worker is in `runOnWorker`; what `doWork` calls next is up to `doWork`;
* `TimerPc`, `OtherPc` : the threads of the timers, and those that cancel the operation or drain it;
* `Operation.step` : one step of one thread; every access to an atomic is a step.

The state is always there (`m_state`); creating a thread succeeds.  The fields of a group and the
result of an operation are not part of the model.
-/

set_option linter.unusedSectionVars false

namespace LibreAgent.Operations

/-! ## Phases and outcomes -/

inductive OperationPhase where
  | created
  | connecting
  | awaitingConsent
  | authenticating
  | reading
  | signing
  | timestamping
  | done
  deriving DecidableEq

def OperationPhase.number : OperationPhase → UInt32
  | .created => 0
  | .connecting => 1
  | .awaitingConsent => 2
  | .authenticating => 3
  | .reading => 4
  | .signing => 5
  | .timestamping => 6
  | .done => 7

inductive OperationStatus where
  | ok
  | cancelled
  | error
  deriving DecidableEq

inductive ErrorCode where
  | none
  | cardRemoved
  | credentialWrong
  | credentialBlocked
  | communicationError
  | parseError
  | unsupportedCard
  | authFailed
  | prompterError
  | capabilityMissing
  | watchdogTimeout
  | keyNotFound
  | keyAmbiguous
  | certExpiredBlocked
  | chainIncomplete
  | tsaUnreachable
  | signingEngineError
  | rateLimited
  | engineUnavailable
  | invalidDocument
  | entryExpired
  deriving DecidableEq

/-- what `finish` is called with -/
structure Completion where
  status : OperationStatus
  code : ErrorCode
  msgKey : String
  msgFallback : String
  deriving DecidableEq

namespace Completion

def watchdogTimeout : Completion :=
  ⟨.error, .watchdogTimeout, "op.watchdog_timeout", "Operation exceeded the watchdog timeout"⟩

def cardRemoved : Completion :=
  ⟨.error, .cardRemoved, "op.card_removed", "Card removed"⟩

/-- `doWork` has thrown -/
def thrown (what : String) : Completion :=
  ⟨.error, .communicationError, "op.internal", what⟩

end Completion

/-! ## State -/

inductive Caller (Tid : Type*) where
  | worker
  | timer (n : Nat)
  | other (t : Tid)
  deriving DecidableEq

/-- the block under the `once_flag` -/
inductive FinishStage where
  | latch (o : Completion)
  | exchange (o : Completion)
  | notify (o : Completion)
  | status (o : Completion)
  | errorCode (o : Completion)
  | completed (o : Completion)
  | gate (o : Completion)
  | emit (o : Completion)
  /-- `emitted`: the signal has not been suppressed -/
  | store (o : Completion) (emitted : Bool)
  | wake (o : Completion) (emitted : Bool)

inductive Once (Tid : Type*) where
  | fresh
  | inside (who : Caller Tid) (stage : FinishStage)
  | passed (o : Completion) (emitted : Bool)

/-- the stages of `requestCancel`, with the phase that it has seen -/
inductive CancelStage where
  | load
  | store (previous : UInt32)
  | trip (previous : UInt32)
  | dismiss (previous : UInt32)
  deriving DecidableEq

inductive Joining where
  | consent
  | quiesce

inductive RunPc where
  | queued
  -- in `doWork`, between two calls
  | working
  | exchanging (p : UInt32)
  | notifying (p : UInt32)
  | arming (p : UInt32)
  | swapping (p : UInt32)
  | timing (p : UInt32)
  | spawning (p : UInt32)
  | assigning (p : UInt32) (n : Nat)
  | disarming
  | stopping (why : Joining)
  | joining (n : Nat) (why : Joining)
  | grouping
  /-- `leaves`: `doWork` has thrown -/
  | finishing (o : Completion) (leaves : Bool)
  | returned

inductive TimerPc where
  | unborn
  | waiting
  | latching
  | cancelling (stage : CancelStage)
  | finishing
  | gone
  deriving DecidableEq

inductive OtherPc where
  | idle
  /-- `removed`: called by `finishCardRemoved` -/
  | cancelling (stage : CancelStage) (removed : Bool)
  | finishing

inductive BaseEvent where
  | propertiesChanged
  | group
  | changed (p : UInt32)
  -- the worker's call of `setPhase` that has changed the phase returns
  | returned (p : UInt32)
  | started (n : Nat)
  | latched
  | dismissed
  -- the events of the block under the `once_flag`
  | began
  | wroteStatus (status : OperationStatus)
  | wroteCode (code : ErrorCode)
  | completed
  | finished (o : Completion)
  | elided
  | marked
  deriving DecidableEq

structure Setup where
  hasChannel : Bool := true
  hasPrompterCancel : Bool := true
  watchdogTimeoutSec : Nat := 60

structure Operation (Tid : Type*) where
  phase : UInt32 := OperationPhase.created.number
  cancelled : Bool := false
  completed : Bool := false
  terminalStatus : OperationStatus := .ok
  terminalErrorCode : ErrorCode := .none
  /-- the token of the operation -/
  token : Bool := false
  shutdown : Bool := false
  once : Once Tid := .fresh
  finished : Bool := false
  watchdogArmed : Bool := false
  watchdogFired : Bool := false
  watchdogArmAttempts : Nat := 0
  /-- the timer that can be joined -/
  watchdog : Option Nat := none
  timers : Nat → TimerPc := fun _ => .unborn
  stops : Nat → Bool := fun _ => false
  nextTimer : Nat := 0
  worker : RunPc := .queued
  others : Tid → OtherPc := fun _ => .idle
  log : List BaseEvent := []

variable {Tid : Type*} [DecidableEq Tid]

namespace Operation

variable (s : Operation Tid)

def say (events : List BaseEvent) : Operation Tid :=
  { s with log := events ++ s.log }

def setTimer (n : Nat) (pc : TimerPc) : Operation Tid :=
  { s with timers := Function.update s.timers n pc }

def setOther (t : Tid) (pc : OtherPc) : Operation Tid :=
  { s with others := Function.update s.others t pc }

def requestStop (n : Nat) : Operation Tid :=
  { s with stops := Function.update s.stops n true }

/-! ## Finishing and cancelling -/

variable (setup : Setup)

/-- one step of the block; `armWatchdogIfNeeded` does nothing in the phase `Done` -/
def finishBlock (s : Operation Tid) (who : Caller Tid) : FinishStage → Operation Tid
  | .latch o =>
    { s with once := .inside who (.exchange (if s.watchdogFired then .watchdogTimeout else o)) }
  | .exchange o =>
    if s.phase = OperationPhase.done.number then { s with once := .inside who (.status o) }
    else
      { s with phase := OperationPhase.done.number, once := .inside who (.notify o) }.say
        [.changed OperationPhase.done.number]
  | .notify o =>
    { s with once := .inside who (.status o) }.say
      (if setup.hasChannel then [.propertiesChanged] else [])
  | .status o =>
    { s with terminalStatus := o.status, once := .inside who (.errorCode o) }.say
      [.wroteStatus o.status]
  | .errorCode o =>
    { s with terminalErrorCode := o.code, once := .inside who (.completed o) }.say
      [.wroteCode o.code]
  | .completed o => { s with completed := true, once := .inside who (.gate o) }.say [.completed]
  | .gate o =>
    if setup.hasChannel ∧ s.shutdown = false then { s with once := .inside who (.emit o) }
    else { s with once := .inside who (.store o false) }.say [.elided]
  | .emit o => { s with once := .inside who (.store o true) }.say [.finished o]
  | .store o emitted =>
    { s with finished := true, once := .inside who (.wake o emitted) }.say [.marked]
  | .wake o emitted => { s with once := .passed o emitted }

/-- one step of `finish`, and whether it returns; who is not in the block waits until it is passed
-/
def finish (s : Operation Tid) (who : Caller Tid) (o : Completion) : Operation Tid × Bool :=
  match s.once with
  | .fresh => ({ s with once := .inside who (.latch o) }.say [.began], false)
  | .inside who' stage => if who' = who then (s.finishBlock setup who stage, false) else (s, false)
  | .passed _ _ => (s, true)

/-- one step of `requestCancel`, and what is left of it -/
def requestCancel (s : Operation Tid) : CancelStage → Operation Tid × Option CancelStage
  | .load => (s, some (.store s.phase))
  | .store previous => ({ s with cancelled := true }, some (.trip previous))
  | .trip previous => ({ s with token := true }, some (.dismiss previous))
  | .dismiss previous =>
    (s.say (if previous = OperationPhase.awaitingConsent.number ∧
      setup.hasPrompterCancel then [.dismissed] else []),
      none)

/-! ## The worker -/

/-- `setPhase` returns to `doWork` -/
def returnPhase (p : UInt32) : Operation Tid :=
  { s with worker := .working }.say [.returned p]

def joined : Joining → Operation Tid
  | .consent => s.returnPhase OperationPhase.awaitingConsent.number
  | .quiesce => { s with worker := .returned }

def work (s : Operation Tid) : RunPc → Operation Tid
  | .queued => { s with worker := .working }
  | .working => s
  | .exchanging p =>
    if s.phase = p then { s with worker := .working }
    else { s with phase := p, worker := .notifying p }.say [.changed p]
  | .notifying p =>
    { s with worker := if p = OperationPhase.awaitingConsent.number then .disarming
               else .arming p }.say
      (if setup.hasChannel then [.propertiesChanged] else [])
  | .arming p =>
    if p = OperationPhase.authenticating.number ∨ p = OperationPhase.reading.number then
      { s with watchdogArmAttempts := s.watchdogArmAttempts + 1, worker := .swapping p }
    else s.returnPhase p
  | .swapping p =>
    if s.watchdogArmed then s.returnPhase p
      else { s with watchdogArmed := true, worker := .timing p }
  | .timing p =>
    if setup.watchdogTimeoutSec = 0 then s.returnPhase p else { s with worker := .spawning p }
  | .spawning p =>
    ({ s with nextTimer := s.nextTimer + 1, worker := .assigning p s.nextTimer }.setTimer
      s.nextTimer .waiting).say
      [.started s.nextTimer]
  -- the assignment stops and joins the timer that is there
  | .assigning p n =>
    match s.watchdog with
    | none => { s with watchdog := some n }.returnPhase p
    | some m =>
      if s.timers m = .gone then { s with watchdog := some n }.returnPhase p else s.requestStop m
  | .disarming =>
    if s.watchdogArmed then { s with watchdogArmed := false, worker := .stopping .consent }
    else s.returnPhase OperationPhase.awaitingConsent.number
  | .stopping why =>
    match s.watchdog with
    | none => s.joined why
    | some n => { s with worker := .joining n why }.requestStop n
  | .joining n why => if s.timers n = .gone then { s with watchdog := none }.joined why else s
  | .grouping => { s with worker := .working }.say (if setup.hasChannel then [.group] else [])
  | .finishing o leaves =>
    match s.finish setup .worker o with
    | (s', false) => s'
    | (s', true) => { s' with worker := if leaves then .stopping .quiesce else .working }
  | .returned => s

/-! ## The other threads -/

def timer (s : Operation Tid) (n : Nat) : TimerPc → Operation Tid
  | .unborn | .gone => s
  | .waiting => if s.stops n ∨ s.finished then s.setTimer n .gone else s.setTimer n .latching
  | .latching => ({ s with watchdogFired := true }.setTimer n (.cancelling .load)).say [.latched]
  | .cancelling stage =>
    match s.requestCancel setup stage with
    | (s', some rest) => s'.setTimer n (.cancelling rest)
    | (s', none) => s'.setTimer n .finishing
  | .finishing =>
    match s.finish setup (.timer n) .watchdogTimeout with
    | (s', false) => s'
    | (s', true) => s'.setTimer n .gone

def other (s : Operation Tid) (t : Tid) : OtherPc → Operation Tid
  | .idle => s
  | .cancelling stage removed =>
    match s.requestCancel setup stage with
    | (s', some rest) => s'.setOther t (.cancelling rest removed)
    | (s', none) => s'.setOther t (if removed then .finishing else .idle)
  | .finishing =>
    match s.finish setup (.other t) .cardRemoved with
    | (s', false) => s'
    | (s', true) => s'.setOther t .idle

section Access
variable (s : Operation Tid)

@[simp] lemma setTimer_timers_self (n : Nat) (pc : TimerPc) : (s.setTimer n pc).timers n = pc := by
  unfold setTimer
  exact Function.update_self n pc s.timers

lemma setTimer_timers_of_ne {n m : Nat} (h : m ≠ n) (pc : TimerPc) : (s.setTimer n pc).timers m =
    s.timers m := by
  unfold setTimer
  exact Function.update_of_ne h pc s.timers

end Access

end Operation

/-! ## Actions -/

/-- what `doWork` does next -/
inductive WorkCall where
  | setPhase (p : UInt32)
  | groupReady
  | finish (o : Completion)
  | leave
  | throw (what : String)

def WorkCall.start : WorkCall → RunPc
  | .setPhase p => .exchanging p
  | .groupReady => .grouping
  | .finish o => .finishing o false
  | .leave => .stopping .quiesce
  | .throw what => .finishing (.thrown what) true

inductive BaseAction (Tid : Type*) where
  | call (c : WorkCall)
  | work
  | timer (n : Nat)
  | requestCancel (t : Tid)
  | finishCardRemoved (t : Tid)
  | other (t : Tid)
  /-- the token of the agent; the callback of the operation trips its own -/
  | shutdown

namespace Operation

def begin (s : Operation Tid) (t : Tid) (removed : Bool) : OtherPc → Operation Tid
  | .idle => s.setOther t (.cancelling .load removed)
  | _ => s

def startCall (s : Operation Tid) (c : WorkCall) : RunPc → Operation Tid
  | .working => { s with worker := c.start }
  | _ => s

def step (setup : Setup) (s : Operation Tid) : BaseAction Tid → Operation Tid
  | .call c => s.startCall c s.worker
  | .work => s.work setup s.worker
  | .timer n => s.timer setup n (s.timers n)
  | .requestCancel t => s.begin t false (s.others t)
  | .finishCardRemoved t => s.begin t true (s.others t)
  | .other t => s.other setup t (s.others t)
  | .shutdown => { s with shutdown := true, cancelled := true, token := true }

end Operation

end LibreAgent.Operations
