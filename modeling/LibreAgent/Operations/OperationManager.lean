import Mathlib.Logic.Function.Basic
import LibreAgent.Lib.Runs

/-!
# The operation manager and its threads

An operation is published on the queue of its reader's worker, run there, kept for a grace period,
and destroyed.  Requests come in on any number of threads; each reader has a worker thread of its
own.  Every section under a lock is one step, and so is every atomic access outside of the locks.

* `Thread` : where a thread stands in `publish`, `removeReader` or the destructor (`abandonOrJoin`),
  `sweepFinished`, or `dispatchClientDisconnect`;
* `World.step` : one step of one thread.

An operation is where its `unique_ptr` is: with the thread that publishes it, on a queue, with a
worker, with a drain, or on the finished list.  The log says what has happened to the operations and
to the workers, the newest first; no step reads it but `finish`, which publishes once, and the
worker that waits for its operation.

The sessions of the readers are not part of the model, nor are the untracked jobs of
`enqueueOnReaderWorker`. `doWork` ends with `finish`: the shutdown of the agent, which suppresses
the signal, is not part of it either.
-/

set_option linter.unusedSectionVars false

namespace LibreAgent.Operations

open Function

/-! ## State -/

abbrev OperationId := Nat

abbrev WorkerId := Nat

def kMaxQueuedOpsPerReader : Nat := 32

/-- the two sections of `forgetOpById` -/
inductive Erase where
  | fromIds (id : OperationId)
  | fromSenders (id : OperationId)
  deriving DecidableEq

structure Drain where
  erases : List Erase
  /-- still to be finished, in order -/
  unfinished : List OperationId
  doomed : List OperationId

inductive PublishStage (Reader Client : Type*) where
  | minted (reader : Reader) (caller : Option Client)
  | holding (w : WorkerId) (caller : Option Client)
  | built (w : WorkerId) (caller : Option Client)
  | recorded (w : WorkerId)
  | tracked (w : WorkerId)
  | pushed (w : WorkerId)
  | refused (w : WorkerId)

/-- the stages of `abandonOrJoin`; the polls of the grace period only read, and are left out -/
inductive TearStage where
  | stop
  | takeQueue
  | drain (inFlight : Option OperationId) (d : Drain)
  | decide (op : OperationId)
  -- decided to detach the worker, the flag not yet set
  | forget (op : OperationId) (erases : List Erase)
  | detach
  | park
  | drop

inductive Thread (Reader Client : Type*) where
  | idle
  | publishing (id : OperationId) (stage : PublishStage Reader Client)
  /-- `rest`: the workers that the destructor has yet to tear down -/
  | tearing (w : WorkerId) (rest : List WorkerId) (stage : TearStage)
  | sweeping (d : Drain)
  | cancelling (client : Client) (ids : List OperationId)

inductive WorkerPc where
  | waiting
  | running (op : OperationId)
  -- the in-flight pointer is cleared
  | returned (op : OperationId)
  -- not abandoned: on to the finished list
  | passing (op : OperationId)
  -- abandoned
  | quitting (op : OperationId)
  | draining (d : Drain)
  | exited

/-- the copies of the `shared_ptr` to a worker -/
inductive Holder (Tid : Type*) where
  | table
  | thread (t : Tid)
  | zombies
  deriving DecidableEq

structure ReaderWorker (Tid : Type*) where
  queue : List OperationId := []
  stop : Bool := false
  abandoned : Bool := false
  detached : Bool := false
  holders : List (Holder Tid) := []
  pc : WorkerPc := .waiting

def ReaderWorker.inFlight {Tid : Type*} (worker : ReaderWorker Tid) : Option OperationId :=
  match worker.pc with
  | .running op => some op
  | _ => none

variable {op : OperationId}

lemma ReaderWorker.running_of_inFlight {Tid : Type*} {worker : ReaderWorker Tid}
    (h : worker.inFlight = some op) : worker.pc = .running op := by
  unfold inFlight at h
  split at h
  · cases h
    assumption
  · cases h

inductive OpEvent (Client : Type*) where
  | recorded (id : OperationId) (client : Client)
  | returned (id : OperationId)
  | cancelRequested (id : OperationId)
  | finished (id : OperationId)
  | destroyed (id : OperationId)
  | disconnected (client : Client)
  -- the worker's thread touches a member of the manager
  | accessed (w : WorkerId)
  | detached (w : WorkerId)
  -- `abandonOrJoin` has returned, with the worker detached
  | abandoned (w : WorkerId)
  deriving DecidableEq

structure World (Tid Reader Client : Type*) where
  /-- 64 bits in the source, taken not to wrap -/
  counter : Nat := 0
  nextWorker : WorkerId := 0
  workers : List (Reader × WorkerId) := []
  worker : WorkerId → ReaderWorker Tid := fun _ => {}
  byId : List OperationId := []
  senderToOps : Client → List OperationId := fun _ => []
  opToSender : OperationId → Option Client := fun _ => none
  finishedOps : List OperationId := []
  threads : Tid → Thread Reader Client := fun _ => .idle
  log : List (OpEvent Client) := []

variable {Tid Reader Client : Type*} [DecidableEq Tid] [DecidableEq Reader] [DecidableEq Client]

namespace World

variable (s : World Tid Reader Client)

def setThread (t : Tid) (thread : Thread Reader Client) : World Tid Reader Client :=
  { s with threads := update s.threads t thread }

def setWorker (w : WorkerId) (worker : ReaderWorker Tid) : World Tid Reader Client :=
  { s with worker := update s.worker w worker }

def say (events : List (OpEvent Client)) : World Tid Reader Client :=
  { s with log := events ++ s.log }

section Access
variable (s : World Tid Reader Client)

@[simp] lemma setThread_threads_self (t : Tid) (thread : Thread Reader Client) :
    (s.setThread t thread).threads t = thread := by
  unfold setThread
  exact update_self t thread s.threads

lemma setThread_threads_of_ne {t t' : Tid} (h : t' ≠ t) (thread : Thread Reader Client) :
    (s.setThread t thread).threads t' = s.threads t' := by
  unfold setThread
  exact update_of_ne h thread s.threads

@[simp] lemma setWorker_worker_self (w : WorkerId) (worker : ReaderWorker Tid) :
    (s.setWorker w worker).worker w = worker := by
  unfold setWorker
  exact update_self w worker s.worker

variable {w : WorkerId}

lemma setWorker_worker_of_ne {w' : WorkerId} (h : w' ≠ w) (worker : ReaderWorker Tid) :
    (s.setWorker w worker).worker w' = s.worker w' := by
  unfold setWorker
  exact update_of_ne h worker s.worker

@[elab_as_elim]
lemma setThread_cases {t : Tid} {thread : Thread Reader Client}
    {P : Tid → Thread Reader Client → Prop} (t' : Tid) (hs : P t thread)
    (ho : t' ≠ t → P t' (s.threads t')) : P t' ((s.setThread t thread).threads t') := by
  by_cases hne : t' = t
  · rw [hne, s.setThread_threads_self]
    exact hs
  · rw [s.setThread_threads_of_ne hne]
    exact ho hne

@[elab_as_elim]
lemma setWorker_cases {worker : ReaderWorker Tid} {P : WorkerId → ReaderWorker Tid → Prop}
    (w' : WorkerId) (hs : P w worker) (ho : w' ≠ w → P w' (s.worker w')) :
    P w' ((s.setWorker w worker).worker w') := by
  by_cases hne : w' = w
  · rw [hne, s.setWorker_worker_self]
    exact hs
  · rw [s.setWorker_worker_of_ne hne]
    exact ho hne

end Access

/-! ## Operations and tables -/

def requestCancel (id : OperationId) : World Tid Reader Client :=
  s.say [.cancelRequested id]

def finish (id : OperationId) : World Tid Reader Client :=
  if .finished id ∈ s.log then s else s.say [.finished id]

def finishCardRemoved (id : OperationId) : World Tid Reader Client :=
  (s.requestCancel id).finish id

def destroy (ids : List OperationId) : World Tid Reader Client :=
  s.say (ids.map .destroyed)

def cancel (id : OperationId) : World Tid Reader Client :=
  if id ∈ s.byId then s.requestCancel id else s

def recordSender (id : OperationId) (client : Client) : World Tid Reader Client :=
  { s with
    senderToOps := update s.senderToOps client (id :: s.senderToOps client)
    opToSender := update s.opToSender id (some client)
    log := .recorded id client :: s.log }

def erase : Erase → World Tid Reader Client
  | .fromIds id => { s with byId := s.byId.filter (· ≠ id) }
  | .fromSenders id =>
    match s.opToSender id with
    | none => s
    | some client =>
      { s with
        senderToOps := update s.senderToOps client ((s.senderToOps client).filter (· ≠ id))
        opToSender := update s.opToSender id none }

end World

def forgetOpById (id : OperationId) : List Erase :=
  if id = 0 then [] else [.fromIds id, .fromSenders id]

def Drain.unqueued (ids : List OperationId) : Drain :=
  ⟨ids.flatMap forgetOpById, ids, ids⟩

def Drain.expired (ids : List OperationId) : Drain :=
  ⟨ids.flatMap forgetOpById, [], ids⟩

namespace World

variable (s : World Tid Reader Client)

/-- one step of a drain; the operations are destroyed together, in its last one -/
def drain : Drain → World Tid Reader Client × Option Drain
  | ⟨e :: erases, unfinished, doomed⟩ => (s.erase e, some ⟨erases, unfinished, doomed⟩)
  | ⟨[], id :: unfinished, doomed⟩ => (s.finishCardRemoved id, some ⟨[], unfinished, doomed⟩)
  | ⟨[], [], doomed⟩ => (s.destroy doomed, none)

/-! ## Handles of workers -/

/-- a thread lets go of a worker and goes on; the last one has to wait for the worker's thread, and
destroys what is left on its queue -/
def release (t : Tid) (w : WorkerId) (next : Thread Reader Client)
    (events : List (OpEvent Client)) : World Tid Reader Client :=
  if (s.worker w).holders.erase (.thread t) ≠ [] then
    ((s.setWorker w { s.worker w with holders := (s.worker w).holders.erase (.thread t) }).setThread
      t
      next).say events
  else
    match (s.worker w).pc with
    | .exited =>
      (((s.setWorker w { s.worker w with holders := [], queue := [] }).destroy
        (s.worker w).queue).setThread t
        next).say events
    | _ => s.setWorker w { s.worker w with stop := true }

def workerFor (t : Tid) (reader : Reader)
    (next : WorkerId → Thread Reader Client) : World Tid Reader Client :=
  match s.workers.lookup reader with
  | some w =>
    (s.setWorker w { s.worker w with holders := .thread t :: (s.worker w).holders }).setThread t
      (next w)
  | none =>
    (({ s with nextWorker := s.nextWorker + 1, workers := (reader, s.nextWorker) ::
                 s.workers }).setWorker
      s.nextWorker { holders := [.table, .thread t] }).setThread t (next s.nextWorker)

/-! ## The steps of the threads -/

def goPublish (t : Tid) (id : OperationId) : PublishStage Reader Client → World Tid Reader Client
  | .minted reader caller => s.workerFor t reader fun w => .publishing id (.holding w caller)
  | .holding w caller =>
    if kMaxQueuedOpsPerReader ≤ (s.worker w).queue.length then s.setThread t
      (.publishing id (.refused w))
    else s.setThread t (.publishing id (.built w caller))
  | .built w none => s.setThread t (.publishing id (.recorded w))
  | .built w (some client) => (s.recordSender id client).setThread t (.publishing id (.recorded w))
  | .recorded w => ({ s with byId := id :: s.byId }).setThread t (.publishing id (.tracked w))
  | .tracked w =>
    (s.setWorker w { s.worker w with queue := (s.worker w).queue ++ [id] }).setThread t
      (.publishing id (.pushed w))
  | .pushed w => s.release t w .idle [.returned id]
  | .refused w => s.release t w .idle []

def tearNext : List WorkerId → Thread Reader Client
  | [] => .idle
  | w :: rest => .tearing w rest .stop

def takeQueue (w : WorkerId) : World Tid Reader Client :=
  (s.setWorker w { s.worker w with queue := [] }).say
    ((s.worker w).inFlight.toList.map .cancelRequested)

def goTear (t : Tid) (w : WorkerId) (rest : List WorkerId) : TearStage → World Tid Reader Client
  | .stop =>
    (s.setWorker w { s.worker w with stop := true }).setThread t (.tearing w rest .takeQueue)
  | .takeQueue =>
    (s.takeQueue w).setThread t
      (.tearing w rest (.drain (s.worker w).inFlight (.unqueued (s.worker w).queue)))
  | .drain inFlight d =>
    match (s.drain d).2, inFlight with
    | some d', _ => (s.drain d).1.setThread t (.tearing w rest (.drain inFlight d'))
    | none, none => (s.drain d).1.setThread t (.tearing w rest .drop)
    | none, some op => (s.drain d).1.setThread t (.tearing w rest (.decide op))
  | .decide op =>
    match (s.worker w).inFlight with
    | some _ => s.setThread t (.tearing w rest (.forget op (forgetOpById op)))
    | none => s.setThread t (.tearing w rest .drop)
  | .forget op (e :: erases) => (s.erase e).setThread t (.tearing w rest (.forget op erases))
  | .forget _ [] =>
    (s.setWorker w { s.worker w with abandoned := true }).setThread t (.tearing w rest .detach)
  | .detach =>
    ((s.setWorker w { s.worker w with detached := true }).setThread t (.tearing w rest .park)).say
      [.detached w]
  | .park =>
    ((s.setWorker w { s.worker w with
        holders := .zombies :: (s.worker w).holders.erase (.thread t) }).setThread t
      (tearNext rest)).say [.abandoned w]
  | .drop => s.release t w (tearNext rest) []

def goThread (t : Tid) : Thread Reader Client → World Tid Reader Client
  | .idle => s
  | .publishing id stage => s.goPublish t id stage
  | .tearing w rest stage => s.goTear t w rest stage
  | .sweeping d =>
    match (s.drain d).2 with
    | some d' => (s.drain d).1.setThread t (.sweeping d')
    | none => (s.drain d).1.setThread t .idle
  | .cancelling client (id :: ids) => (s.cancel id).setThread t (.cancelling client ids)
  | .cancelling _ [] => s.setThread t .idle

/-! ## The steps of the workers -/

def workDrain (w : WorkerId) (d : Drain) : World Tid Reader Client :=
  match (s.drain d).2 with
  | some d' =>
    ((s.drain d).1.setWorker w { s.worker w with pc := .draining d' }).say
      (if d.erases = [] then [] else [.accessed w])
  | none => (s.drain d).1.setWorker w { s.worker w with pc := .exited }

def workPc (w : WorkerId) : WorkerPc → World Tid Reader Client
  | .waiting =>
    if (s.worker w).stop then
      s.setWorker w { s.worker w with queue := [], pc := .draining (.unqueued (s.worker w).queue) }
    else
      match (s.worker w).queue with
      | [] => s
      | op :: queue =>
        s.setWorker w { s.worker w with queue := queue, pc := .running op }
  -- `doWork` publishes, and some time later returns
  | .running op =>
    if .finished op ∈ s.log then s.setWorker w { s.worker w with pc := .returned op }
    else s.finish op
  | .returned op =>
    if (s.worker w).abandoned then s.setWorker w { s.worker w with pc := .quitting op }
    else s.setWorker w { s.worker w with pc := .passing op }
  | .passing op =>
    (({ s with finishedOps := s.finishedOps ++ [op] }).setWorker w
      { s.worker w with pc := .waiting }).say
      [.accessed w]
  | .quitting op => (s.setWorker w { s.worker w with pc := .exited }).destroy [op]
  | .draining d => s.workDrain w d
  | .exited => s

end World

/-! ## Actions -/

/-- a request comes in on a thread, or a thread or a worker goes on -/
inductive OpAction (Tid Reader Client : Type*) where
  | publish (t : Tid) (reader : Reader) (caller : Option Client)
  | removeReader (t : Tid) (reader : Reader)
  | destruct (t : Tid)
  /-- `aged`: how many of the finished operations have outlived the grace -/
  | sweep (t : Tid) (aged : Nat)
  | disconnect (t : Tid) (client : Client)
  | cancel (id : OperationId)
  | go (t : Tid)
  | work (w : WorkerId)

namespace World

def hand (s : World Tid Reader Client) (t : Tid) (w : WorkerId) : World Tid Reader Client :=
  s.setWorker w { s.worker w with holders := .thread t :: (s.worker w).holders.erase .table }

def handAll (s : World Tid Reader Client) (t : Tid) (ws : List WorkerId) :
    World Tid Reader Client :=
  ws.foldl (fun s w => s.hand t w) s

def start (s : World Tid Reader Client) : OpAction Tid Reader Client → World Tid Reader Client
  | .publish t reader caller =>
    ({ s with counter := s.counter + 1 }).setThread t
      (.publishing (s.counter + 1) (.minted reader caller))
  | .removeReader t reader =>
    match s.workers.lookup reader with
    | none => s
    | some w =>
      (({ s with workers := s.workers.filter fun e => e.1 ≠ reader }).hand t w).setThread t
        (.tearing w [] .stop)
  | .destruct t =>
    ({ s with workers := [] }.handAll t (s.workers.map Prod.snd)).setThread t
      (tearNext (s.workers.map Prod.snd))
  | .sweep t aged =>
    ({ s with finishedOps := s.finishedOps.drop aged }).setThread t
      (.sweeping (.expired (s.finishedOps.take aged)))
  | .disconnect t client =>
    (({ s with
      senderToOps := update s.senderToOps client []
      opToSender := fun id => if id ∈ s.senderToOps client then none
        else s.opToSender id }).setThread t
      (.cancelling client (s.senderToOps client))).say [.disconnected client]
  | _ => s

end World

def Thread.isIdle : Thread Reader Client → Bool
  | .idle => true
  | _ => false

lemma Thread.eq_idle {thread : Thread Reader Client} (h : thread.isIdle = true) :
    thread = .idle := by
  cases thread with
  | idle => rfl
  | _ => cases h

def World.step (s : World Tid Reader Client) (a : OpAction Tid Reader Client) :
    World Tid Reader Client :=
  match a with
  | .cancel id => s.cancel id
  | .go t => s.goThread t (s.threads t)
  | .work w => if w < s.nextWorker then s.workPc w (s.worker w).pc else s
  | .publish t _ _ | .removeReader t _ | .destruct t | .sweep t _ | .disconnect t _ =>
    if (s.threads t).isIdle then s.start a else s

def OpAction.requester : OpAction Tid Reader Client → Option Tid
  | .publish t _ _ | .removeReader t _ | .destruct t | .sweep t _ | .disconnect t _ => some t
  | _ => none

lemma World.step_cases (s : World Tid Reader Client) (a : OpAction Tid Reader Client) :
    s.step a = s ∨ (∃ id, a = .cancel id ∧ s.step a = s.cancel id) ∨
      (∃ t, a = .go t ∧ s.step a = s.goThread t (s.threads t)) ∨
      (∃ w, a = .work w ∧ w < s.nextWorker ∧ s.step a = s.workPc w (s.worker w).pc) ∨
      ∃ t, a.requester = some t ∧ (s.threads t).isIdle = true ∧ s.step a = s.start a := by
  have hr : ∀ t, a.requester = some t → (s.step a = if (s.threads t).isIdle then s.start a else s) →
      s.step a = s ∨ (s.threads t).isIdle = true ∧ s.step a = s.start a := by
    intro t _ heq
    split at heq
    · next hi => exact .inr ⟨hi, heq⟩
    · exact .inl heq
  cases a with
  | cancel id => exact .inr (.inl ⟨id, rfl, rfl⟩)
  | go t => exact .inr (.inr (.inl ⟨t, rfl, rfl⟩))
  | work w =>
    by_cases hw : w < s.nextWorker
    · exact .inr (.inr (.inr (.inl ⟨w, rfl, hw, if_pos hw⟩)))
    · exact .inl (if_neg hw)
  | publish t | removeReader t | destruct t | sweep t | disconnect t =>
    rcases hr t rfl rfl with heq | hs
    · exact .inl heq
    · exact .inr (.inr (.inr (.inr ⟨t, rfl, hs⟩)))

end LibreAgent.Operations
