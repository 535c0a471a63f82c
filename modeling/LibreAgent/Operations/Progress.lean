import Mathlib.Data.List.GetD
import Mathlib.Data.Nat.Pairing
import LibreAgent.Lib.Fairness
import LibreAgent.Operations.Tracking

/-!
# What becomes of an operation that has been published

Once it has been pushed, an operation waits: on the queue of a worker, in a drain, or with the
worker that runs it.  At each of these places somebody has to act next, and every action of theirs
brings the operation nearer to its end; the actions of the others leave it where it is, or move it
to a drain.

* `operations_tracked` : the tables, the destruction and the end of the operations, in every run.
-/

set_option linter.unusedSectionVars false

namespace LibreAgent.Operations

open Runs List

variable {Tid Reader Client : Type*} [DecidableEq Tid] [DecidableEq Reader] [DecidableEq Client]

/-! ## Steps and what they leave alone -/

variable (s : World Tid Reader Client)

def Pushed (op : OperationId) : Prop :=
  .returned op ∈ s.log ∨ ∃ t w, s.threads t = .publishing op (.pushed w)

def Thread.pushed : Thread Reader Client → Option OperationId
  | .publishing op (.pushed _) => some op
  | _ => none

/-- the log grows; threads and workers that do not move stay as they are, queues only grow, and no
operation is pushed but those that are named -/
structure Frame (T : Tid → Prop) (W : WorkerId → Prop) (L : OperationId → Prop)
    (s s' : World Tid Reader Client) :
    Prop where
  log : ∀ e ∈ s.log, e ∈ s'.log
  threads : ∀ t, ¬ T t → s'.threads t = s.threads t
  workers : ∀ w < s.nextWorker, ¬ W w →
    (s'.worker w).pc = (s.worker w).pc ∧ (s.worker w).queue <+: (s'.worker w).queue
  pushed : ∀ op, Pushed s' op → Pushed s op ∨ L op

namespace Frame
variable {T : Tid → Prop} {W : WorkerId → Prop} {L : OperationId → Prop}
  {s s' s'' : World Tid Reader Client}

lemma refl (s : World Tid Reader Client) : Frame T W L s s :=
  ⟨fun _ he => he, fun _ _ => rfl, fun _ _ _ => ⟨rfl, prefix_rfl⟩, fun _ hp => .inl hp⟩

variable {t : Tid} {w : WorkerId} {worker : ReaderWorker Tid}

section
variable (h : Frame T W L s s')
include h

lemma setThread (ht : T t) {thread : Thread Reader Client}
    (hth : ∀ op, thread.pushed = some op → L op) : Frame T W L s (s'.setThread t thread) := by
  refine ⟨h.log, fun t' ht' => ?_, h.workers, ?_⟩
  · have hne : t' ≠ t := fun heq => ht' (heq ▸ ht)
    rw [World.setThread_threads_of_ne _ hne]
    exact h.threads t' ht'
  · rintro op (hr | ⟨t', w, ht'⟩)
    · exact h.pushed op (.inl hr)
    · revert ht'
      exact s'.setThread_cases t' (fun heq => .inr (hth op (by rw [heq]; rfl))) fun _ heq =>
        h.pushed op (.inr ⟨t', w, heq⟩)

lemma quiet (ht : T t) {thread : Thread Reader Client}
    (hth : thread.pushed = none) : Frame T W L s (s'.setThread t thread) := by
  refine h.setThread ht fun op hp => ?_
  rw [hth] at hp
  cases hp

lemma setWorker
    (hw : w < s.nextWorker → ¬ W w → worker.pc = (s.worker w).pc ∧
      (s.worker w).queue <+: worker.queue) :
    Frame T W L s (s'.setWorker w worker) := by
  refine ⟨h.log, h.threads, fun w' => ?_, h.pushed⟩
  exact s'.setWorker_cases w' hw fun _ => h.workers w'

lemma setWorker_same (hw : worker.pc = (s.worker w).pc ∧ worker.queue = (s.worker w).queue) :
    Frame T W L s (s'.setWorker w worker) := by
  refine h.setWorker fun _ _ => ⟨hw.1, ?_⟩
  rw [hw.2]

lemma say {events : List (OpEvent Client)}
    (hev : ∀ op, .returned op ∈ events → Pushed s op) : Frame T W L s (s'.say events) := by
  refine ⟨fun e he => mem_append_right _ (h.log e he), h.threads, h.workers, ?_⟩
  rintro op (hr | ht)
  · rcases mem_append.mp hr with hn | hold
    · exact .inl (hev op hn)
    · exact h.pushed op (.inl hold)
  · exact h.pushed op (.inr ht)

lemma other (heq : s''.threads = s'.threads ∧ s''.worker = s'.worker ∧ s''.log = s'.log) :
    Frame T W L s s'' := by
  obtain ⟨ht, hw, hl⟩ := heq
  refine ⟨?_, ?_, ?_, ?_⟩
  · rw [hl]
    exact h.log
  · rw [ht]
    exact h.threads
  · rw [hw]
    exact h.workers
  · unfold Pushed
    rw [ht, hl]
    exact h.pushed

end

lemma cancel (s : World Tid Reader Client) (op : OperationId) : Frame T W L s (s.cancel op) := by
  unfold World.cancel
  split
  · exact (refl s).say (by simp)
  · exact .refl s

lemma erase (s : World Tid Reader Client) (e : Erase) : Frame T W L s (s.erase e) :=
  (refl s).other ⟨(OnTables.erase s e).threads, (OnTables.erase s e).worker, erase_log e⟩

lemma finish (h : Frame T W L s s') (op : OperationId) : Frame T W L s (s'.finish op) := by
  unfold World.finish
  split
  · exact h
  · exact h.say (by simp)

lemma drain (s : World Tid Reader Client) (d : Drain) : Frame T W L s (s.drain d).1 := by
  match d with
  | ⟨e :: _, _, _⟩ => exact erase s e
  | ⟨[], op :: _, _⟩ =>
    have hr : Frame T W L s (s.requestCancel op) := (refl s).say (by simp)
    exact hr.finish op
  | ⟨[], [], doomed⟩ => exact (refl s).say (by simp)

lemma goPublish (hh : Handles s) (ht : T t) {op : OperationId} {stage : PublishStage Reader Client}
    (hs : s.threads t = .publishing op stage) (hp : ∀ w, stage = .tracked w → L op) :
    Frame T W L s (s.goPublish t op stage) := by
  have hr : ∀ w, stage.handle = some w → ∀ events : List (OpEvent Client),
      (∀ op', .returned op' ∈ events → Pushed s op') →
        Frame T W L s (s.release t w .idle events) := by
    intro w hw events he
    have hon : (s.threads t).publishesOn w = true := by
      rw [hs]
      exact decide_eq_true hw
    rw [hh.release_published hon]
    refine Frame.say (.quiet (.setWorker_same (.refl s) ?_) ht rfl) he
    exact ⟨rfl, rfl⟩
  cases stage with
  | minted reader caller =>
    simp only [World.goPublish, World.workerFor]
    split
    · refine .quiet (.setWorker_same (.refl s) ?_) ht rfl
      exact ⟨rfl, rfl⟩
    · refine .quiet (.setWorker (.other (.refl s) ?_) ?_) ht rfl
      · exact ⟨rfl, rfl, rfl⟩
      · exact fun hlt => absurd hlt (Nat.lt_irrefl _)
  | holding w caller =>
    simp only [World.goPublish]
    split <;> exact .quiet (.refl s) ht rfl
  | built w caller =>
    cases caller with
    | none => exact .quiet (.refl s) ht rfl
    | some client =>
      have hsa : Frame T W L s (s.say [.recorded op client]) := (refl s).say (by simp)
      have hre : Frame T W L s (s.recordSender op client) := hsa.other ⟨rfl, rfl, rfl⟩
      exact hre.quiet ht rfl
  | recorded w =>
    have hi : Frame T W L s { s with byId := op :: s.byId } := .other (.refl s) ⟨rfl, rfl, rfl⟩
    exact hi.quiet ht rfl
  | tracked w =>
    refine .setThread (.setWorker (.refl s) ?_) ht ?_
    · exact fun _ _ => ⟨rfl, prefix_append _ _⟩
    · intro op' heq
      cases heq
      exact hp w rfl
  | pushed w =>
    refine hr w rfl _ fun op' hret => ?_
    cases mem_singleton.mp hret
    exact .inr ⟨t, w, hs⟩
  | refused w => exact hr w rfl _ (by simp)

lemma tearNext_pushed (ws : List WorkerId) :
    (World.tearNext ws : Thread Reader Client).pushed = none := by
  cases ws <;> rfl

lemma goTear (hh : Handles s) (ht : T t) {rest : List WorkerId} {stage : TearStage}
    (hth : s.threads t = .tearing w rest stage) (hs : stage ≠ .takeQueue) :
    Frame T W L s (s.goTear t w rest stage) := by
  cases stage with
  | stop =>
    refine .quiet (.setWorker_same (.refl s) ?_) ht rfl
    exact ⟨rfl, rfl⟩
  | takeQueue => exact absurd rfl hs
  | drain inFlight d =>
    simp only [World.goTear]
    split <;> exact .quiet (.drain s d) ht rfl
  | decide op =>
    simp only [World.goTear]
    split <;> exact .quiet (.refl s) ht rfl
  | forget op erases =>
    cases erases with
    | nil =>
      refine .quiet (.setWorker_same (.refl s) ?_) ht rfl
      exact ⟨rfl, rfl⟩
    | cons e erases => exact .quiet (.erase s e) ht rfl
  | detach =>
    refine .say (.quiet (.setWorker_same (.refl s) ?_) ht rfl) (by simp)
    exact ⟨rfl, rfl⟩
  | park =>
    refine .say (.quiet (.setWorker_same (.refl s) ?_) ht (tearNext_pushed rest)) (by simp)
    exact ⟨rfl, rfl⟩
  | drop =>
    have he : (s.worker w).queue = [] := (hh.torn t w rest .drop hth).emptied rfl
    simp only [World.goTear, World.release]
    split
    · refine .say (.quiet (.setWorker_same (.refl s) ?_) ht (tearNext_pushed rest)) (by simp)
      exact ⟨rfl, rfl⟩
    · split
      · refine .say (.quiet (.say (.setWorker_same (.refl s) ?_) (by simp)) ht
          (tearNext_pushed rest)) (by simp)
        exact ⟨rfl, he.symm⟩
      · refine .setWorker_same (.refl s) ?_
        exact ⟨rfl, rfl⟩

lemma handAll (h : Frame T W L s s') (hs : ∀ w, (s'.worker w).pc = (s.worker w).pc ∧
    (s'.worker w).queue = (s.worker w).queue) (t : Tid) (ws : List WorkerId) :
      Frame T W L s (s'.handAll t ws) := by
  induction ws generalizing s' with
  | nil => exact h
  | cons w ws ih =>
    have hh : Frame T W L s (s'.hand t w) := h.setWorker_same (hs w)
    refine ih hh fun w' => ?_
    exact s'.setWorker_cases w' (hs w) fun _ => hs w'

lemma start {a : OpAction Tid Reader Client} (ha : a.requester = some t) (ht : T t) :
    Frame T W L s (s.start a) := by
  cases a with
  | publish t' reader caller =>
    cases ha
    have hc : Frame T W L s { s with counter := s.counter + 1 } := .other (.refl s) ⟨rfl, rfl, rfl⟩
    exact hc.quiet ht rfl
  | removeReader t' reader =>
    cases ha
    simp only [World.start]
    split
    · exact .refl s
    · have hu : Frame T W L s { s with workers := s.workers.filter fun e => e.1 ≠ reader } :=
        .other (.refl s) ⟨rfl, rfl, rfl⟩
      refine .quiet (hu.setWorker_same ?_) ht rfl
      exact ⟨rfl, rfl⟩
  | destruct t' =>
    cases ha
    have hu : Frame T W L s { s with workers := [] } := .other (.refl s) ⟨rfl, rfl, rfl⟩
    exact .quiet (hu.handAll (fun _ => ⟨rfl, rfl⟩) t _) ht (tearNext_pushed _)
  | sweep t' aged =>
    cases ha
    have hta : Frame T W L s { s with finishedOps := s.finishedOps.drop aged } :=
      .other (.refl s) ⟨rfl, rfl, rfl⟩
    exact hta.quiet ht rfl
  | disconnect t' client =>
    cases ha
    refine .say (.quiet (.other (.refl s) ?_) ht rfl) (by simp)
    exact ⟨rfl, rfl, rfl⟩
  | cancel | go | work => cases ha

lemma work (s : World Tid Reader Client) (hw : W w) (pc : WorkerPc) :
    Frame T W L s (s.workPc w pc) := by
  have hs : ∀ worker, Frame T W L s (s.setWorker w worker) := fun worker =>
    .setWorker (.refl s) fun _ hn => absurd hw hn
  cases pc with
  | waiting =>
    simp only [World.workPc]
    split
    · exact hs _
    · split
      · exact .refl s
      · exact hs _
  | running op =>
    simp only [World.workPc]
    split
    · exact hs _
    · exact .finish (.refl s) op
  | returned op =>
    simp only [World.workPc]
    split <;> exact hs _
  | passing op =>
    have hl : Frame T W L s { s with finishedOps := s.finishedOps ++ [op] } :=
      .other (.refl s) ⟨rfl, rfl, rfl⟩
    exact (hl.setWorker fun _ hn => absurd hw hn).say (by simp)
  | quitting op => exact (hs _).say (by simp)
  | draining d =>
    have hd : ∀ worker, Frame T W L s ((s.drain d).1.setWorker w worker) := fun worker =>
      .setWorker (.drain s d) fun _ hn => absurd hw hn
    simp only [World.workPc, World.workDrain]
    split
    · refine (hd _).say ?_
      split <;> simp
    · exact hd _
  | exited => exact .refl s

end Frame

def World.moves (b : OpAction Tid Reader Client) (t : Tid) : Prop :=
  b = .go t ∨ b.requester = some t ∧ (s.threads t).isIdle = true

def World.takes (b : OpAction Tid Reader Client) (w : WorkerId) : Prop :=
  b = .work w ∨ ∃ t rest, b = .go t ∧ s.threads t = .tearing w rest .takeQueue

def World.pushes (b : OpAction Tid Reader Client) (op : OperationId) : Prop :=
  ∃ t w, b = .go t ∧ s.threads t = .publishing op (.tracked w)

variable {s : World Tid Reader Client}

lemma Frame.go (hh : Handles s) (t : Tid) :
    Frame (s.moves (.go t)) (s.takes (.go t)) (s.pushes (.go t)) s
      (s.goThread t (s.threads t)) := by
  have hs : s.moves (.go t) t := .inl rfl
  cases ht : s.threads t with
  | idle => exact .refl s
  | publishing op stage =>
    refine .goPublish hh hs ht fun w hst => ⟨t, w, rfl, ?_⟩
    rw [ht, hst]
  | tearing w rest stage =>
    by_cases hst : stage = .takeQueue
    · subst hst
      refine .quiet (.say (.setWorker (.refl s) ?_) ?_) hs rfl
      · exact fun _ hn => absurd (.inr ⟨t, rest, rfl, ht⟩) hn
      · simp
    · exact .goTear hh hs ht hst
  | sweeping d =>
    simp only [World.goThread]
    split <;> exact .quiet (.drain s d) hs rfl
  | cancelling client ids =>
    cases ids with
    | nil => exact .quiet (.refl s) hs rfl
    | cons op ids => exact .quiet (.cancel s op) hs rfl

lemma Frame.step (hh : Handles s) (b : OpAction Tid Reader Client) :
    Frame (s.moves b) (s.takes b) (s.pushes b) s (s.step b) := by
  rcases World.step_cases s b with heq | ⟨op, -, heq⟩ | ⟨t, rfl, heq⟩ | ⟨w, rfl, -, heq⟩ | ⟨t, hr,
      hi, heq⟩ <;> rw [heq]
  · exact .refl s
  · exact .cancel s op
  · exact .go hh t
  · exact .work s (.inl rfl) _
  · exact .start hr (.inr ⟨hr, hi⟩)

/-! ## Waiting -/

def WorkerPc.busy (log : List (OpEvent Client)) : WorkerPc → Nat
  | .running op => if log.contains (.finished op) then 3 else 4
  | .returned _ => 2
  | .passing _ => 1
  | _ => 0

/-- the operation is not finished: how far it is, and who has to act -/
inductive Awaits (s : World Tid Reader Client) (op : OperationId) : Nat × Nat →
    OpAction Tid Reader Client → Prop
  | queued (w : WorkerId) : op ∈ (s.worker w).queue →
      Awaits s op (2, 5 * (s.worker w).queue.idxOf op + (s.worker w).pc.busy s.log) (.work w)
  | drained (t : Tid) (d : Drain) : (s.threads t).drain = some d → op ∈ d.unfinished →
      Awaits s op (1, d.erases.length + d.unfinished.length) (.go t)
  | draining (w : WorkerId) (d : Drain) : (s.worker w).pc = .draining d → op ∈ d.unfinished →
      Awaits s op (1, d.erases.length + d.unfinished.length) (.work w)
  | running (w : WorkerId) : (s.worker w).pc = .running op → Awaits s op (0, 0) (.work w)

/-- the operation is finished, or nearer to its end, or it waits on for another than `b` -/
def Nearer (s : World Tid Reader Client) (op : OperationId) (k : Nat × Nat)
    (a b : OpAction Tid Reader Client) : Prop :=
  .finished op ∈ s.log ∨ (∃ k' a', Prod.Lex (· < ·) (· < ·) k' k ∧ Awaits s op k' a') ∨ b ≠ a ∧
    Awaits s op k a

section Waiting
variable {s s' : World Tid Reader Client} {op : OperationId} {k : Nat × Nat}
  {a b : OpAction Tid Reader Client}

lemma busy_mono {log log' : List (OpEvent Client)} (h : ∀ e ∈ log, e ∈ log') (pc : WorkerPc) :
    pc.busy log' ≤ pc.busy log := by
  cases pc with
  | running op =>
    by_cases hold : .finished op ∈ log
    · simp only [WorkerPc.busy, if_pos (contains_iff_mem.mpr hold),
        if_pos (contains_iff_mem.mpr (h _ hold)), Nat.le_refl]
    · simp only [WorkerPc.busy, if_neg (mt contains_iff_mem.mp hold)]
      split <;> decide
  | _ => exact Nat.le_refl _

variable {w : WorkerId} {d d' : Drain} {t : Tid}

lemma Awaits.lt_nextWorker (h : Awaits s op k a) (hh : Handles s) (ha : a = .work w) :
    w < s.nextWorker := by
  by_contra hle
  have hu := hh.unmade w (Nat.not_lt.mp hle)
  cases h with
  | queued w' hop =>
    cases ha
    rw [hu] at hop
    cases hop
  | drained t d => cases ha
  | draining _ _ hpc | running _ hpc =>
    cases ha
    rw [hu] at hpc
    cases hpc

lemma Awaits.aside (h : Awaits s op k a) (hh : Handles s) (hb : b ≠ a)
    (hW : ∀ w, a = .work w → ¬ s.takes b w) : Nearer (s.step b) op k a b := by
  have hf := Frame.step hh b
  -- nobody waits for a thread that is idle
  have hT : ∀ t, a = .go t → ¬ s.moves b t := by
    rintro t rfl (heq | ⟨-, hi⟩)
    · exact hb heq
    · cases h with
      | drained _ d hd =>
        rw [Thread.eq_idle hi] at hd
        cases hd
  have hw : ∀ w, a = .work w →
      ((s.step b).worker w).pc = (s.worker w).pc ∧
        (s.worker w).queue <+: ((s.step b).worker w).queue := fun w ha =>
    hf.workers w (h.lt_nextWorker hh ha) (hW w ha)
  cases h with
  | queued w hop =>
    obtain ⟨hpc, more, hm⟩ := hw w rfl
    have hin : ((s.step b).worker w).queue.idxOf op = (s.worker w).queue.idxOf op := by
      rw [← hm]
      exact idxOf_append_of_mem hop
    have hq : Awaits (s.step b) op (2, 5 * (s.worker w).queue.idxOf op + (s.worker w).pc.busy
      (s.step b).log) (.work w) := by
      rw [← hin, ← hpc]
      refine .queued w ?_
      rw [← hm]
      exact mem_append_left _ hop
    rcases Nat.lt_or_eq_of_le (busy_mono hf.log (s.worker w).pc) with hlt | heq
    · exact .inr (.inl ⟨_, _, .right _ (Nat.add_lt_add_left hlt _), hq⟩)
    · rw [heq] at hq
      exact .inr (.inr ⟨hb, hq⟩)
  | drained t d hd hop =>
    refine .inr (.inr ⟨hb, .drained t d ?_ hop⟩)
    rw [hf.threads t (hT t rfl)]
    exact hd
  | draining w d hpc hop =>
    refine .inr (.inr ⟨hb, .draining w d ?_ hop⟩)
    rw [(hw w rfl).1]
    exact hpc
  | running w hpc =>
    refine .inr (.inr ⟨hb, .running w ?_⟩)
    rw [(hw w rfl).1]
    exact hpc

lemma finished_or_rest (hop : op ∈ d.unfinished) (hr : (s.drain d).2 = some d') :
    .finished op ∈ (s.drain d).1.log ∨ op ∈ d'.unfinished ∧
      d'.erases.length + d'.unfinished.length < d.erases.length + d.unfinished.length := by
  match d with
  | ⟨e :: erases, unfinished, doomed⟩ =>
    cases hr
    refine .inr ⟨hop, ?_⟩
    exact Nat.add_lt_add_right (Nat.lt_succ_self _) _
  | ⟨[], o :: unfinished, doomed⟩ =>
    cases hr
    rcases mem_cons.mp hop with rfl | hl
    · exact .inl (mem_finish_log op)
    · exact .inr ⟨hl, Nat.add_lt_add_left (Nat.lt_succ_self _) _⟩
  | ⟨[], [], doomed⟩ => cases hr

lemma rest_isSome (hop : op ∈ d.unfinished) : ∃ d', (s.drain d).2 = some d' := by
  match d with
  | ⟨e :: erases, unfinished, doomed⟩ => exact ⟨_, rfl⟩
  | ⟨[], o :: unfinished, doomed⟩ => exact ⟨_, rfl⟩
  | ⟨[], [], doomed⟩ => cases hop

lemma Nearer.drained (h : (s.threads t).drain = some d') (hop : op ∈ d'.unfinished)
    (hlt : d'.erases.length + d'.unfinished.length < d.erases.length + d.unfinished.length) :
    Nearer s op (1, d.erases.length + d.unfinished.length) a b :=
  .inr (.inl ⟨_, _, .right _ hlt, .drained t d' h hop⟩)

lemma Awaits.goDrain (hd : (s.threads t).drain = some d) (hop : op ∈ d.unfinished) :
    Nearer (s.goThread t (s.threads t)) op (1, d.erases.length + d.unfinished.length) a b := by
  obtain ⟨d', hr⟩ := rest_isSome (s := s) hop
  have hn : ∀ thread : Thread Reader Client, thread.drain = some d' →
      Nearer ((s.drain d).1.setThread t thread) op
        (1, d.erases.length + d.unfinished.length) a b := by
    intro thread hth
    rcases finished_or_rest hop hr with hf | ⟨hin, hlt⟩
    · exact .inl hf
    · refine Nearer.drained (t := t) ?_ hin hlt
      rw [World.setThread_threads_self]
      exact hth
  cases ht : s.threads t with
  | tearing w rest stage =>
    rw [ht] at hd
    cases stage with
    | drain inFlight d₀ =>
      cases hd
      simp only [World.goThread, World.goTear, hr]
      exact hn _ rfl
    | _ => cases hd
  | sweeping d₀ =>
    rw [ht] at hd
    cases hd
    simp only [World.goThread, hr]
    exact hn _ rfl
  | _ =>
    rw [ht] at hd
    cases hd

lemma Awaits.takeQueue (h : Awaits s op k a) {rest : List WorkerId} (ha : a = .work w)
    (hb : b ≠ a) : Nearer (s.goTear t w rest .takeQueue) op k a b := by
  subst ha
  have hpc : ((s.goTear t w rest .takeQueue).worker w).pc = (s.worker w).pc := by
    show ((s.setWorker w _).worker w).pc = _
    rw [World.setWorker_worker_self]
  cases h with
  | queued w' hop =>
    refine .inr (.inl ⟨_, _, .left _ _ (by decide),
      .drained t (.unqueued (s.worker w).queue) ?_ hop⟩)
    show ((World.setThread _ t _).threads t).drain = _
    rw [World.setThread_threads_self]
    rfl
  | draining w' d hd hop => exact .inr (.inr ⟨hb, .draining w d (hpc.trans hd) hop⟩)
  | running w' hr => exact .inr (.inr ⟨hb, .running w (hpc.trans hr)⟩)

lemma Awaits.workQueue (hh : Handles s) (hop : op ∈ (s.worker w).queue) :
    Nearer (s.workPc w (s.worker w).pc) op
      (2, 5 * (s.worker w).queue.idxOf op + (s.worker w).pc.busy s.log) a b := by
  have hs : ¬ ((s.worker w).pc.isLeaving = true ∨ (s.worker w).abandoned = true) := by
    intro hl
    rw [(hh.leaving w hl).2] at hop
    cases hop
  -- the queue is as before, and the worker nearer to it
  have hc : ∀ (s' : World Tid Reader Client), (s'.worker w).queue = (s.worker w).queue →
      (s'.worker w).pc.busy s'.log < (s.worker w).pc.busy s.log →
      Nearer s' op (2, 5 * (s.worker w).queue.idxOf op + (s.worker w).pc.busy s.log) a b := by
    intro s' hq hlt
    have hqu : Awaits s' op (2, 5 * (s.worker w).queue.idxOf op + (s'.worker w).pc.busy s'.log)
      (.work w) := by
      rw [← hq]
      refine .queued w ?_
      rw [hq]
      exact hop
    exact .inr (.inl ⟨_, _, .right _ (Nat.add_lt_add_left hlt _), hqu⟩)
  cases hpc : (s.worker w).pc with
  | waiting =>
    simp only [World.workPc]
    split
    · refine .inr (.inl ⟨_, _, .left _ _ (by decide),
        .draining w (.unqueued (s.worker w).queue) ?_ hop⟩)
      rw [World.setWorker_worker_self]
    · split
      · rename_i hn
        rw [hn] at hop
        cases hop
      · rename_i o queue hq
        by_cases ho : o = op
        · subst ho
          refine .inr (.inl ⟨_, _, .left _ _ (by decide), .running w ?_⟩)
          rw [World.setWorker_worker_self]
        · have hin : op ∈ queue := by
            rw [hq] at hop
            exact (mem_cons.mp hop).resolve_left (Ne.symm ho)
          rw [hq, idxOf_cons_ne _ ho]
          refine .inr (.inl ⟨_, _, .right _ ?_, .queued w ?_⟩)
          · rw [World.setWorker_worker_self]
            show 5 * queue.idxOf op + (if _ then 3 else 4) < 5 * (queue.idxOf op + 1) + 0
            split <;> omega
          · rw [World.setWorker_worker_self]
            exact hin
  | running o =>
    rw [hpc] at hc
    simp only [World.workPc]
    split
    · rename_i hf
      refine hc _ ?_ ?_
      · rw [World.setWorker_worker_self]
      · rw [World.setWorker_worker_self]
        simp only [WorkerPc.busy, if_pos (contains_iff_mem.mpr hf)]
        decide
    · rename_i hu
      have ht := OnTables.finish s o
      refine hc _ ?_ ?_
      · rw [ht.worker]
      · rw [ht.worker, hpc]
        simp only [WorkerPc.busy, if_neg (mt contains_iff_mem.mp hu),
          if_pos (contains_iff_mem.mpr (mem_finish_log o))]
        decide
  | returned o =>
    rw [hpc] at hc
    simp only [World.workPc]
    split
    · next hfl => exact absurd (.inr hfl) hs
    · refine hc _ ?_ ?_
      · rw [World.setWorker_worker_self]
      · rw [World.setWorker_worker_self]
        exact Nat.lt_succ_self 1
  | passing o =>
    rw [hpc] at hc
    refine hc _ ?_ ?_
    · show ((World.setWorker _ w _).worker w).queue = _
      rw [World.setWorker_worker_self]
    · show ((World.setWorker _ w _).worker w).pc.busy _ < _
      rw [World.setWorker_worker_self]
      exact Nat.lt_succ_self 0
  | quitting | draining | exited =>
    rw [hpc] at hs
    exact absurd (.inl rfl) hs

lemma Awaits.act (h : Awaits s op k a) (hh : Handles s) : Nearer (s.step a) op k a a := by
  have hlt : ∀ w, a = .work w → s.step (.work w) = s.workPc w (s.worker w).pc := fun w ha =>
    if_pos (h.lt_nextWorker hh ha)
  cases h with
  | queued w hop =>
    rw [hlt w rfl]
    exact Awaits.workQueue hh hop
  | drained t d hd hop => exact Awaits.goDrain hd hop
  | draining w d hpc hop =>
    rw [hlt w rfl, hpc]
    obtain ⟨d', hr⟩ := rest_isSome (s := s) hop
    simp only [World.workPc, World.workDrain, hr]
    rcases finished_or_rest hop hr with hf | ⟨hin, hl⟩
    · exact .inl (mem_append_right _ hf)
    · refine .inr (.inl ⟨_, _, .right _ hl, .draining w d' ?_ hin⟩)
      show ((World.setWorker _ w _).worker w).pc = _
      rw [World.setWorker_worker_self]
  | running w hpc =>
    rw [hlt w rfl, hpc]
    simp only [World.workPc]
    split
    · next hf => exact .inl hf
    · exact .inl (mem_finish_log op)

lemma Awaits.step (h : Awaits s op k a) (hh : Handles s) (b : OpAction Tid Reader Client) :
    Nearer (s.step b) op k a b := by
  by_cases hb : b = a
  · subst hb
    exact h.act hh
  · by_cases hta : ∃ w, a = .work w ∧ s.takes b w
    · obtain ⟨w, ha, hs | ⟨t, rest, rfl, ht⟩⟩ := hta
      · exact absurd (hs.trans ha.symm) hb
      · show Nearer (s.goThread t (s.threads t)) op k a _
        rw [ht]
        exact h.takeQueue ha hb
    · exact h.aside hh hb fun w ha htak => hta ⟨w, ha, htak⟩

end Waiting

/-! ## Runs -/

/-- the invariant: whatever has been pushed is finished, or waits for somebody -/
structure Underway (s : World Tid Reader Client) : Prop where
  handles : Handles s
  tracked : Tracked s
  awaited : ∀ op, Pushed s op → .finished op ∈ s.log ∨ ∃ k a, Awaits s op k a

lemma underway_start : Underway ({} : World Tid Reader Client) := by
  refine ⟨handles_start, tracked_start, ?_⟩
  rintro op (hr | ⟨t, w, ht⟩)
  · cases hr
  · cases ht

lemma Underway.step (h : Underway s) {b : OpAction Tid Reader Client} (hc : Calm s b) :
    Underway (s.step b) := by
  refine ⟨h.handles.step hc, h.tracked.step h.handles b, fun op hp => ?_⟩
  have hf := Frame.step h.handles b
  rcases hf.pushed op hp with hold | ⟨t, w, rfl, ht⟩
  · rcases h.awaited op hold with hfi | ⟨k, a, ha⟩
    · exact .inl (hf.log _ hfi)
    · rcases ha.step h.handles b with hfi | ⟨k', a', -, hn⟩ | ⟨-, hs⟩
      · exact .inl hfi
      · exact .inr ⟨k', a', hn⟩
      · exact .inr ⟨k, a, hs⟩
  · refine .inr ⟨_, _, .queued w ?_⟩
    show op ∈ ((s.goThread t (s.threads t)).worker w).queue
    rw [ht]
    show op ∈ ((s.setWorker w _).worker w).queue
    rw [World.setWorker_worker_self]
    exact mem_append_right _ mem_cons_self

/-- a thread that is busy goes on some time, and so does every worker -/
structure Fair (schedule : Nat → OpAction Tid Reader Client) : Prop where
  threads : ∀ n t, ((stateAt World.step {} schedule n).threads t).isIdle = false → ∃ m, n ≤ m ∧
    schedule m = .go t
  workers : ∀ n w, w < (stateAt World.step {} schedule n).nextWorker → ∃ m, n ≤ m ∧
    schedule m = .work w

variable {n : Nat}

lemma Fair.scheduled {schedule : Nat → OpAction Tid Reader Client} (hf : Fair schedule)
    (hh : Handles (stateAt World.step {} schedule n)) {op : OperationId} {k : Nat × Nat}
    {a : OpAction Tid Reader Client} (h : Awaits (stateAt World.step {} schedule n) op k a) :
    ∃ m, n ≤ m ∧ schedule m = a := by
  have hw : ∀ w, a = .work w → ∃ m, n ≤ m ∧ schedule m = .work w := fun w ha =>
    hf.workers n w (h.lt_nextWorker hh ha)
  cases h with
  | queued w => exact hw w rfl
  | drained t d hd =>
    refine hf.threads n t ?_
    cases ht : (stateAt World.step {} schedule n).threads t with
    | idle =>
      rw [ht] at hd
      cases hd
    | _ => rfl
  | draining w => exact hw w rfl
  | running w => exact hw w rfl

/-- in every run in which readers are removed calmly: an id in the table is that of an operation
that has not been destroyed, whatever is destroyed has been finished before, and if the run is fair,
an operation is finished some time after its `publish` has returned -/
theorem operations_tracked (schedule : Nat → OpAction Tid Reader Client)
    (h : ∀ n, Calm (stateAt World.step {} schedule n) (schedule n)) :
    (∀ n, ∀ op ∈ (stateAt World.step {} schedule n).byId,
      .destroyed op ∉ (stateAt World.step {} schedule n).log) ∧
      (∀ n op newer older, (stateAt World.step {} schedule n).log = newer ++
        .destroyed op :: older →
        .finished op ∈ older) ∧
      (Fair schedule → ∀ n op, .returned op ∈ (stateAt World.step {} schedule n).log →
        ∃ m, n ≤ m ∧ .finished op ∈ (stateAt World.step {} schedule m).log) := by
  have hu : ∀ n, Underway (stateAt World.step {} schedule n) :=
    stateAt_invariant (fun s a hc hs => hs.step hc) underway_start h
  refine ⟨fun n op hin hd => ((hu n).tracked.destroyed op hd).2 hin, ?_, ?_⟩
  · intro n op newer older hl
    have ht := (hu n).tracked.log
    rw [hl] at ht
    exact ht.at
  · intro hf n op hr
    rcases (hu n).awaited op (.inl hr) with hfi | ⟨k, a, ha⟩
    · exact ⟨n, Nat.le_refl n, hfi⟩
    · have hn : ∀ m k' a', Awaits (stateAt World.step {} schedule m) op k' a' →
          Nearer (stateAt World.step {} schedule (m + 1)) op k' a' (schedule m) := fun m k' a' hm =>
        hm.step (hu m).handles (schedule m)
      have hsc : ∀ m k' a', Awaits (stateAt World.step {} schedule m) op k' a' → ∃ l, m ≤ l ∧
        schedule l = a' :=
        fun m k' a' hm => hf.scheduled (hu m).handles hm
      exact eventually_of_rank (Prod.lex Nat.lt_wfRel Nat.lt_wfRel).wf hn hsc ha

def calmScript : List (OpAction Unit Unit Unit) :=
  .publish () () none :: replicate 6 (.go ()) ++ [.removeReader () ()]

def calmSchedule (n : Nat) : OpAction Unit Unit Unit :=
  calmScript.getD n (if n % 2 = 1 then .go () else .work (n / 2).unpair.1)

lemma calmSchedule_later (hn : 8 ≤ n) : calmSchedule n = if n % 2 = 1 then .go ()
    else .work (n / 2).unpair.1 :=
  getD_eq_default _ _ hn

lemma calmSchedule_fair : Fair calmSchedule := by
  refine ⟨fun n _ _ => ⟨2 * n + 9, by omega, ?_⟩, fun n w _ => ?_⟩
  · rw [calmSchedule_later (by omega), if_pos (by omega)]
  · have hle := Nat.right_le_pair w (n + 4)
    refine ⟨2 * Nat.pair w (n + 4), by omega, ?_⟩
    rw [calmSchedule_later (by omega), if_neg (by omega), Nat.mul_div_cancel_left _ (by decide),
      Nat.unpair_pair]

theorem operations_tracked_removal :
    (∀ n, Calm (stateAt World.step {} calmSchedule n) (calmSchedule n)) ∧ Fair calmSchedule ∧
      .returned 1 ∈ (stateAt World.step {} calmSchedule 8).log ∧
      ∃ m, 8 ≤ m ∧ .finished 1 ∈ (stateAt World.step {} calmSchedule m).log := by
  have hc : ∀ n, Calm (stateAt World.step {} calmSchedule n) (calmSchedule n) := by
    intro n
    by_cases hn : n < 8
    · have hs : ∀ n < 8, Calm (stateAt World.step {} calmSchedule n) (calmSchedule n) := by
        decide +kernel
      exact hs n hn
    · rw [calmSchedule_later (Nat.not_lt.mp hn)]
      split <;> trivial
  have hr : .returned 1 ∈ (stateAt World.step {} calmSchedule 8).log := by decide +kernel
  exact ⟨hc, calmSchedule_fair, hr, (operations_tracked calmSchedule hc).2.2
      calmSchedule_fair 8 1 hr⟩

attribute [local instance] Runs.neZero_two

/-- the reader is removed while `publish` holds its worker and has yet to push -/
def pushLateRun : List (OpAction (Fin 2) Nat Nat) :=
  flatten [[.publish 0 7 none, .go 0], .removeReader 1 7 :: replicate 4 (.go 1),
      replicate 2 (.work 0),
    replicate 5 (.go 0)]

theorem operations_tracked_fails :
    1 ∈ (run World.step {} pushLateRun).byId ∧ .returned 1 ∈ (run World.step {} pushLateRun).log ∧
      .destroyed 1 ∈ (run World.step {} pushLateRun).log ∧
        .finished 1 ∉ (run World.step {} pushLateRun).log := by
  decide +kernel

end LibreAgent.Operations
