import LibreAgent.Operations.Handles

/-!
# Operations in the tables, and operations that are destroyed

An operation is destroyed by a drain, or by a worker that has been abandoned.  Either way its id has
been erased from the table before, and its `Finished` has been published.  The id does not come
back: `publish` inserts an id once, before the operation is on any queue.

* `Launched` : an operation has been pushed; only such ones are in other hands than their
  publisher's;
* `Follows` : what is known of launched operations stays known.
-/

set_option linter.unusedSectionVars false

namespace LibreAgent.Operations

open Runs List World

variable {Tid Reader Client : Type*} [DecidableEq Tid] [DecidableEq Reader] [DecidableEq Client]

/-! ## Where operations are -/

def PublishStage.isUnpushed : PublishStage Reader Client → Bool
  | .pushed _ | .refused _ => false
  | _ => true

def Thread.publishes (op : OperationId) : Thread Reader Client → Bool
  | .publishing id stage => id = op ∧ stage.isUnpushed
  | _ => false

def WorkerPc.isAtWork : WorkerPc → Bool
  | .running _ | .returned _ => true
  | _ => false

def Thread.drain : Thread Reader Client → Option Drain
  | .tearing _ _ (.drain _ d) => some d
  | .sweeping d => some d
  | _ => none

structure Launched (s : World Tid Reader Client) (op : OperationId) : Prop where
  pos : 0 < op
  minted : op ≤ s.counter
  pushed : ∀ t, ¬ (s.threads t).publishes op = true

/-! ## The invariant -/

/-- ids are erased, and operations finished, before they are destroyed -/
structure Drain.Sound (s : World Tid Reader Client) (d : Drain) : Prop where
  launched : ∀ op ∈ d.doomed, Launched s op
  erased : ∀ op ∈ d.doomed, op ∈ s.byId → .fromIds op ∈ d.erases
  finished : ∀ op ∈ d.doomed, .finished op ∈ s.log ∨ op ∈ d.unfinished

/-- the operation that `abandonOrJoin` has seen is the one that the worker is in -/
def TearStage.Sound (s : World Tid Reader Client) (pc : WorkerPc) : TearStage → Prop
  | .drain inFlight d =>
    d.Sound s ∧ ∀ op ∈ inFlight, Launched s op ∧ ∀ op', pc = .running op' → op' = op
  | .decide op => Launched s op ∧ ∀ op', pc = .running op' → op' = op
  | .forget op erases =>
    Launched s op ∧ (∀ op', pc = .running op' ∨ pc = .returned op' → op' = op) ∧
      (op ∈ s.byId → .fromIds op ∈ erases)
  | _ => True

def Thread.Sound (s : World Tid Reader Client) (worker : WorkerId → ReaderWorker Tid) :
    Thread Reader Client → Prop
  | .tearing w _ stage => stage.Sound s (worker w).pc
  | .sweeping d => d.Sound s
  | _ => True

def WorkerPc.Sound (s : World Tid Reader Client) (abandoned : Bool) : WorkerPc → Prop
  | .running op => Launched s op ∧ (abandoned = true → op ∉ s.byId)
  | .returned op => Launched s op ∧ .finished op ∈ s.log ∧ (abandoned = true → op ∉ s.byId)
  | .passing op => Launched s op ∧ .finished op ∈ s.log
  | .quitting op => Launched s op ∧ .finished op ∈ s.log ∧ op ∉ s.byId
  | .draining d => d.Sound s
  | .waiting | .exited => True

structure ReaderWorker.Sound (s : World Tid Reader Client) (worker : ReaderWorker Tid) : Prop where
  queue : ∀ op ∈ worker.queue, Launched s op
  pc : worker.pc.Sound s worker.abandoned

def FinishedFirst (past : List (OpEvent Client)) : OpEvent Client → Prop
  | .destroyed op => .finished op ∈ past
  | _ => True

structure Tracked (s : World Tid Reader Client) : Prop where
  single : ∀ t t' op, (s.threads t).publishes op = true → (s.threads t').publishes op =
    true → t = t'
  minted : ∀ t op, (s.threads t).publishes op = true → 0 < op ∧ op ≤ s.counter
  threads : ∀ t, (s.threads t).Sound s s.worker
  workers : ∀ w, (s.worker w).Sound s
  kept : ∀ op ∈ s.finishedOps, Launched s op ∧ .finished op ∈ s.log
  destroyed : ∀ op, .destroyed op ∈ s.log → Launched s op ∧ op ∉ s.byId
  log : Throughout FinishedFirst s.log

section Rules
variable {s s' : World Tid Reader Client} {op : OperationId}

/-! ## What stays known -/

structure Follows (s s' : World Tid Reader Client) : Prop where
  launched : ∀ {op}, Launched s op → Launched s' op
  byId : ∀ {op}, Launched s op → op ∈ s'.byId → op ∈ s.byId
  log : ∀ e ∈ s.log, e ∈ s'.log

lemma follows_of (hc : s'.counter = s.counter) (ht : s'.threads = s.threads)
    (hi : ∀ op ∈ s'.byId, op ∈ s.byId) (hl : ∀ e ∈ s.log, e ∈ s'.log) : Follows s s' := by
  refine ⟨fun h => ⟨h.pos, hc ▸ h.minted, ?_⟩, fun _ => hi _, hl⟩
  rw [ht]
  exact h.pushed

variable {t : Tid} {thread : Thread Reader Client} {w : WorkerId} {worker : ReaderWorker Tid}
  {pc pc' : WorkerPc} {d : Drain}
  {stage : TearStage} {abandoned : Bool} {ids : List OperationId} {events : List (OpEvent Client)}

namespace Follows

section
variable (h : Follows s s')
include h

lemma drain (hd : d.Sound s) : d.Sound s' where
  launched op hop := h.launched (hd.launched op hop)
  erased op hop hin := hd.erased op hop (h.byId (hd.launched op hop) hin)
  finished op hop := (hd.finished op hop).imp_left (h.log _)

lemma tear (hs : stage.Sound s pc) : stage.Sound s' pc := by
  cases stage with
  | drain inFlight d =>
    exact ⟨h.drain hs.1, fun op hop => ⟨h.launched (hs.2 op hop).1, (hs.2 op hop).2⟩⟩
  | decide op => exact ⟨h.launched hs.1, hs.2⟩
  | forget op erases => exact ⟨h.launched hs.1, hs.2.1, fun hin => hs.2.2 (h.byId hs.1 hin)⟩
  | _ => trivial

lemma ofThread {worker : WorkerId → ReaderWorker Tid}
    (hs : thread.Sound s worker) : thread.Sound s' worker := by
  cases thread with
  | tearing w rest stage => exact h.tear hs
  | sweeping d => exact h.drain hs
  | _ => trivial

lemma ofPc (hs : pc.Sound s abandoned) : pc.Sound s' abandoned := by
  cases pc with
  | running op => exact ⟨h.launched hs.1, fun ha hin => hs.2 ha (h.byId hs.1 hin)⟩
  | returned op =>
    exact ⟨h.launched hs.1, h.log _ hs.2.1, fun ha hin => hs.2.2 ha (h.byId hs.1 hin)⟩
  | passing op => exact ⟨h.launched hs.1, h.log _ hs.2⟩
  | quitting op => exact ⟨h.launched hs.1, h.log _ hs.2.1, fun hin => hs.2.2 (h.byId hs.1 hin)⟩
  | draining d => exact h.drain hs
  | waiting | exited => trivial

lemma ofWorker (hs : worker.Sound s) : worker.Sound s' :=
  ⟨fun op hop => h.launched (hs.queue op hop), h.ofPc hs.pc⟩

lemma kept (hs : Launched s op ∧ .finished op ∈ s.log) : Launched s' op ∧
    .finished op ∈ s'.log :=
  ⟨h.launched hs.1, h.log _ hs.2⟩

end

end Follows

lemma TearStage.Sound.ofPc (h : stage.Sound s pc) (hr : ∀ op, pc' = .running op → pc = .running op)
    (hre : ∀ op, pc' = .returned op → pc = .running op ∨ pc = .returned op) :
    stage.Sound s pc' := by
  cases stage with
  | drain inFlight d =>
    exact ⟨h.1, fun op hop => ⟨(h.2 op hop).1, fun op' heq => (h.2 op hop).2 op' (hr op' heq)⟩⟩
  | decide op => exact ⟨h.1, fun op' heq => h.2 op' (hr op' heq)⟩
  | forget op erases =>
    refine ⟨h.1, ?_, h.2.2⟩
    rintro op' (heq | heq)
    · exact h.2.1 op' (.inl (hr op' heq))
    · exact h.2.1 op' (hre op' heq)
  | _ => trivial

/-! ## Rules -/

section
variable (h : Tracked s)
include h

lemma Tracked.follow (hf : Follows s s') (ht : s'.threads = s.threads) (hw : s'.worker = s.worker)
    (hc : s.counter ≤ s'.counter) (hk : ∀ op ∈ s'.finishedOps, Launched s op ∧ .finished op ∈ s.log)
    (hd : ∀ op, .destroyed op ∈ s'.log → Launched s op ∧ op ∉ s'.byId)
    (hl : Throughout FinishedFirst s'.log) : Tracked s' := by
  refine ⟨?_, fun t op hp => ?_, fun t => hf.ofThread ?_, fun w => hf.ofWorker ?_, fun op hop =>
      hf.kept (hk op hop),
    fun op hop => ⟨hf.launched (hd op hop).1, (hd op hop).2⟩, hl⟩
  · rw [ht]
    exact h.single
  · obtain ⟨hpo, hle⟩ := h.minted t op (ht ▸ hp)
    exact ⟨hpo, hle.trans hc⟩
  · rw [ht, hw]
    exact h.threads t
  · rw [hw]
    exact h.workers w

lemma Tracked.other {nextWorker : WorkerId} {workers : List (Reader × WorkerId)}
    {senderToOps : Client → List OperationId} {opToSender : OperationId → Option Client} :
    Tracked { s with nextWorker, workers, senderToOps, opToSender } :=
  h.follow (follows_of rfl rfl (fun _ => id) fun _ => id) rfl rfl le_rfl h.kept h.destroyed h.log

lemma Tracked.setThread (hpu : ∀ op, thread.publishes op = true → (s.threads t).publishes op = true)
    (hs : thread.Sound s s.worker) : Tracked (s.setThread t thread) := by
  have hb : ∀ t' op, ((s.setThread t thread).threads t').publishes op = true →
    (s.threads t').publishes op = true := by
    exact fun t' => s.setThread_cases t' hpu fun _ _ hp => hp
  have hf : Follows s (s.setThread t thread) :=
    ⟨fun hl => ⟨hl.pos, hl.minted, fun t' hp => hl.pushed t' (hb t' _ hp)⟩, fun _ =>
      id, fun _ => id⟩
  refine ⟨fun t₁ t₂ op h₁ h₂ => h.single t₁ t₂ op (hb t₁ op h₁) (hb t₂ op h₂), fun t' op hp =>
      h.minted t' op (hb t' op hp),
    fun t' => hf.ofThread ?_, fun w => hf.ofWorker (h.workers w), fun op hop =>
      hf.kept (h.kept op hop),
    fun op hop => ⟨hf.launched (h.destroyed op hop).1, (h.destroyed op hop).2⟩, h.log⟩
  exact s.setThread_cases t' hs fun _ => h.threads t'

/-- the thread goes on to a point where it publishes nothing -/
lemma Tracked.quiet (hq : ∀ op, thread.publishes op = false)
    (hs : thread.Sound s s.worker) : Tracked (s.setThread t thread) := by
  refine h.setThread (fun op hp => ?_) hs
  rw [hq] at hp
  cases hp

lemma Tracked.setWorker (hs : worker.Sound s)
    (ht : ∀ t rest stage, s.threads t = .tearing w rest stage → stage.Sound s worker.pc) :
    Tracked (s.setWorker w worker) := by
  have hf : Follows s (s.setWorker w worker) := follows_of rfl rfl (fun _ => id) fun _ => id
  refine ⟨h.single, h.minted, fun t => hf.ofThread ?_, fun w' => hf.ofWorker ?_, fun op hop =>
      hf.kept (h.kept op hop),
    fun op hop => ⟨hf.launched (h.destroyed op hop).1, (h.destroyed op hop).2⟩, h.log⟩
  · have hth := h.threads t
    show (s.threads t).Sound s (s.setWorker w worker).worker
    cases hte : s.threads t with
    | tearing w' rest stage =>
      rw [hte] at hth
      show stage.Sound s ((s.setWorker w worker).worker w').pc
      revert hte
      exact s.setWorker_cases w' (ht t rest stage) fun _ _ => hth
    | sweeping d => rwa [hte] at hth
    | _ => trivial
  · exact s.setWorker_cases w' hs fun _ => h.workers w'

lemma Tracked.sound_stage {rest : List WorkerId}
    (ht : s.threads t = .tearing w rest stage) : stage.Sound s (s.worker w).pc := by
  have hs := h.threads t
  rwa [ht] at hs

/-- the worker goes on to a point that no thread looks for -/
lemma Tracked.setPc (hs : worker.Sound s)
    (hr : ∀ op, worker.pc = .running op → (s.worker w).pc = .running op)
    (hre : ∀ op, worker.pc = .returned op → (s.worker w).pc = .running op ∨ (s.worker w).pc =
      .returned op) :
    Tracked (s.setWorker w worker) :=
  h.setWorker hs fun _ _ _ ht => (h.sound_stage ht).ofPc hr hre

lemma Tracked.rests (hs : worker.Sound s) (hn : worker.pc.isAtWork = false) :
    Tracked (s.setWorker w worker) := by
  refine h.setPc hs (fun op heq => ?_) fun op heq => ?_
  all_goals
    rw [heq] at hn
    cases hn

lemma Tracked.setWorker_same
    (hs : worker.pc = (s.worker w).pc ∧ worker.abandoned = (s.worker w).abandoned)
    (hq : ∀ op ∈ worker.queue, Launched s op) : Tracked (s.setWorker w worker) := by
  obtain ⟨hpc, ha⟩ := hs
  refine h.setPc ⟨hq, ?_⟩ (fun _ => hpc.symm.trans) fun _ heq => .inr (hpc.symm.trans heq)
  rw [hpc, ha]
  exact (h.workers w).pc

/-- something happens: what is destroyed is out of the table, and has been finished -/
lemma Tracked.say (hev : ∀ op, .destroyed op ∈ events → Launched s op ∧
      op ∉ s.byId ∧ .finished op ∈ s.log) :
    Tracked (s.say events) := by
  refine h.follow (follows_of rfl rfl (fun _ => id) fun e he => mem_append_right _ he) rfl rfl
    le_rfl h.kept (fun op hop => ?_) ?_
  · rcases mem_append.mp hop with hin | hin
    · exact ⟨(hev op hin).1, (hev op hin).2.1⟩
    · exact h.destroyed op hin
  · -- one event after the other: each comes after the whole past
    have ha : ∀ new : List (OpEvent Client), (∀ op, .destroyed op ∈ new → .finished op ∈ s.log) →
        Throughout FinishedFirst (new ++ s.log) := by
      intro new hn
      induction new with
      | nil => exact h.log
      | cons e new ih =>
        refine ⟨?_, ih fun op hop => hn op (mem_cons_of_mem _ hop)⟩
        cases e with
        | destroyed op => exact mem_append_right _ (hn op mem_cons_self)
        | _ => trivial
    exact ha events fun op hop => (hev op hop).2.2

lemma Tracked.say_other (he : ∀ op, .destroyed op ∉ events) : Tracked (s.say events) :=
  h.say fun op hin => absurd hin (he op)

lemma Tracked.destroy (hi : ∀ op ∈ ids, Launched s op ∧ op ∉ s.byId ∧ .finished op ∈ s.log) :
    Tracked (s.destroy ids) := by
  refine h.say fun op hin => ?_
  obtain ⟨op', hop', heq⟩ := mem_map.mp hin
  cases heq
  exact hi _ hop'

lemma Tracked.finish (op : OperationId) : Tracked (s.finish op) := by
  unfold World.finish
  split
  · exact h
  · exact h.say_other (by simp)

lemma Tracked.cancel (op : OperationId) : Tracked (s.cancel op) := by
  unfold World.cancel
  split
  · exact h.say_other (by simp)
  · exact h

lemma Tracked.setIds (hi : ∀ op, Launched s op → op ∈ ids → op ∈ s.byId) :
    Tracked { s with byId := ids } := by
  refine h.follow ⟨fun hl => ⟨hl.pos, hl.minted, hl.pushed⟩, fun hl => hi _ hl, fun _ => id⟩ rfl rfl
    le_rfl h.kept (fun op hop => ?_) h.log
  obtain ⟨hl, hn⟩ := h.destroyed op hop
  exact ⟨hl, fun hin => hn (hi op hl hin)⟩

lemma Tracked.erase (e : Erase) : Tracked (s.erase e) := by
  cases e with
  | fromIds op => exact h.setIds fun op' _ hop' => (mem_filter.mp hop').1
  | fromSenders op =>
    simp only [World.erase]
    split
    · exact h
    · exact h.other

lemma Tracked.setKept (hk : ∀ op ∈ ids, Launched s op ∧ .finished op ∈ s.log) :
    Tracked { s with finishedOps := ids } :=
  h.follow (follows_of rfl rfl (fun _ => id) fun _ => id) rfl rfl le_rfl hk h.destroyed h.log

end

/-! ## Drains -/

lemma mem_forgetOpById (h : Launched s op) : .fromIds op ∈ forgetOpById op := by
  unfold forgetOpById
  rw [if_neg h.pos.ne']
  exact mem_cons_self

lemma erased_of_launched (hi : ∀ op ∈ ids, Launched s op) (hop : op ∈ ids) :
    .fromIds op ∈ ids.flatMap forgetOpById :=
  mem_flatMap.mpr ⟨op, hop, mem_forgetOpById (hi op hop)⟩

lemma sound_unqueued (hi : ∀ op ∈ ids, Launched s op) : (Drain.unqueued ids).Sound s :=
  ⟨hi, fun _ hop _ => erased_of_launched hi hop, fun _ hop => .inr hop⟩

lemma sound_expired (hi : ∀ op ∈ ids, Launched s op ∧ .finished op ∈ s.log) :
    (Drain.expired ids).Sound s :=
  ⟨fun op hop => (hi op hop).1, fun _ hop _ => erased_of_launched (fun op hop => (hi op hop).1) hop,
      fun op hop => .inl (hi op hop).2⟩

lemma mem_erase_byId {e : Erase} (h : op ∈ (s.erase e).byId) : op ∈ s.byId ∧ e ≠ .fromIds op := by
  cases e with
  | fromIds op' =>
    obtain ⟨hin, hne⟩ := mem_filter.mp h
    refine ⟨hin, fun heq => ?_⟩
    cases heq
    exact of_decide_eq_true hne rfl
  | fromSenders op' =>
    refine ⟨?_, by simp⟩
    simp only [erase] at h
    split at h <;> exact h

lemma erase_log (e : Erase) : (s.erase e).log = s.log := by
  cases e with
  | fromIds op => rfl
  | fromSenders op =>
    simp only [erase]
    split <;> rfl

lemma mem_finish_log (op : OperationId) : .finished op ∈ (s.finish op).log := by
  unfold finish
  split
  · assumption
  · exact mem_cons_self

lemma follows_erase (e : Erase) : Follows s (s.erase e) := by
  refine follows_of ?_ (OnTables.erase s e).threads (fun op hin => (mem_erase_byId hin).1)
    (by rw [erase_log]; exact fun _ => id)
  cases e with
  | fromIds op => rfl
  | fromSenders op =>
    simp only [erase]
    split <;> rfl

lemma follows_finishCardRemoved (op : OperationId) : Follows s (s.finishCardRemoved op) := by
  unfold finishCardRemoved finish
  split
  · exact follows_of rfl rfl (fun _ => id) fun _ => mem_cons_of_mem _
  · exact follows_of rfl rfl (fun _ => id) fun _ he => mem_cons_of_mem _ (mem_cons_of_mem _ he)

lemma follows_drain (d : Drain) : Follows s (s.drain d).1 := by
  match d with
  | ⟨e :: _, _, _⟩ => exact follows_erase e
  | ⟨[], op :: _, _⟩ => exact follows_finishCardRemoved op
  | ⟨[], [], _⟩ => exact follows_of rfl rfl (fun _ => id) fun _ he => mem_append_right _ he

lemma Tracked.drain (h : Tracked s) (hd : d.Sound s) : Tracked (s.drain d).1 := by
  match d with
  | ⟨e :: erases, unfinished, doomed⟩ => exact h.erase e
  | ⟨[], op :: unfinished, doomed⟩ =>
    have hc : Tracked (s.requestCancel op) := h.say_other (by simp)
    exact hc.finish op
  | ⟨[], [], doomed⟩ =>
    refine h.destroy fun op hop => ⟨hd.launched op hop, fun hin => ?_,
      (hd.finished op hop).resolve_right not_mem_nil⟩
    cases hd.erased op hop hin

lemma Drain.Sound.rest {d' : Drain} (hd : d.Sound s) (hr : (s.drain d).2 = some d') :
    d'.Sound (s.drain d).1 := by
  have hf := (follows_drain d).drain hd
  match d with
  | ⟨e :: erases, unfinished, doomed⟩ =>
    cases hr
    refine ⟨hf.launched, fun op hop hin => ?_, hf.finished⟩
    obtain ⟨hold, hne⟩ := mem_erase_byId hin
    exact (mem_cons.mp (hd.erased op hop hold)).resolve_left hne.symm
  | ⟨[], op :: unfinished, doomed⟩ =>
    cases hr
    refine ⟨hf.launched, hf.erased, fun op' hop' => ?_⟩
    rcases hf.finished op' hop' with hfi | hu
    · exact .inl hfi
    · rcases mem_cons.mp hu with rfl | hl
      · exact .inl (mem_finish_log op')
      · exact .inr hl
  | ⟨[], [], doomed⟩ => cases hr

/-! ## Steps -/

lemma Tracked.goPublish (h : Tracked s) (hh : Handles s) {stage : PublishStage Reader Client}
    (ht : s.threads t = .publishing op stage) : Tracked (s.goPublish t op stage) := by
  -- the next stage publishes what this one does
  have hn : stage.isUnpushed = true → ∀ (next : PublishStage Reader Client) op',
      (Thread.publishing op next).publishes op' = true → (s.threads t).publishes op' = true := by
    intro hs next op' hp
    rw [ht]
    have heq : op = op' := (of_decide_eq_true hp).1
    exact decide_eq_true ⟨heq, hs⟩
  have hq : ∀ w, ∀ op' ∈ (s.worker w).queue, Launched s op' := fun w => (h.workers w).queue
  have hr : ∀ w, stage.handle = some w → ∀ events : List (OpEvent Client),
    (∀ o, .destroyed o ∉ events) →
      Tracked (s.release t w .idle events) := by
    intro w hw events he
    have hon : (s.threads t).publishesOn w = true := by
      rw [ht]
      exact decide_eq_true hw
    rw [hh.release_published hon]
    have hset : Tracked (s.setWorker w { s.worker w with
        holders := (s.worker w).holders.erase (.thread t) }) :=
      h.setWorker_same ⟨rfl, rfl⟩ (hq w)
    have hidle : Tracked (World.setThread _ t .idle) := hset.quiet (fun _ => rfl) trivial
    exact hidle.say_other he
  cases stage with
  | minted reader caller =>
    simp only [World.goPublish, World.workerFor]
    split
    · rename_i w _
      have hset : Tracked (s.setWorker w { s.worker w with
          holders := .thread t :: (s.worker w).holders }) :=
        h.setWorker_same ⟨rfl, rfl⟩ (hq w)
      exact hset.setThread (hn rfl _) trivial
    · have hm : Tracked { s with
          nextWorker := s.nextWorker + 1,
          workers := (reader, s.nextWorker) :: s.workers } := h.other
      have hf := hh.unmade s.nextWorker (Nat.le_refl _)
      refine Tracked.setThread (hm.setWorker_same ?_ ?_) (hn rfl _) trivial
      · rw [hf]
        exact ⟨rfl, rfl⟩
      · exact forall_mem_nil _
  | holding w caller =>
    simp only [World.goPublish]
    split <;> exact h.setThread (hn rfl _) trivial
  | built w caller =>
    cases caller with
    | none => exact h.setThread (hn rfl _) trivial
    | some client =>
      have hsa : Tracked (s.say [.recorded op client]) := h.say_other (by simp)
      have hre : Tracked (s.recordSender op client) := hsa.other
      exact hre.setThread (hn rfl _) trivial
  | recorded w =>
    have hin : Tracked { s with byId := op :: s.byId } := by
      refine h.setIds fun op' hl hop' => (mem_cons.mp hop').resolve_left ?_
      rintro rfl
      refine hl.pushed t ?_
      rw [ht]
      exact decide_eq_true ⟨rfl, rfl⟩
    exact hin.setThread (hn rfl _) trivial
  | tracked w =>
    have hse : (s.threads t).publishes op = true := by
      rw [ht]
      exact decide_eq_true ⟨rfl, rfl⟩
    have hset : Tracked (s.setThread t (.publishing op (.pushed w))) :=
      h.setThread (hn rfl _) trivial
    -- the operation is launched from now on: nobody else publishes it
    have hl : Launched (s.setThread t (.publishing op (.pushed w))) op := by
      obtain ⟨hpo, hle⟩ := h.minted t op hse
      refine ⟨hpo, hle, fun t' => ?_⟩
      exact s.setThread_cases t' (fun hp => absurd (of_decide_eq_true hp).2 Bool.false_ne_true)
        fun hne hp => hne (h.single t' t op hp hse)
    refine hset.setWorker_same ⟨rfl, rfl⟩ fun op' hop' => ?_
    rcases mem_append.mp hop' with hold | hnew
    · exact (hset.workers w).queue op' hold
    · rw [mem_singleton.mp hnew]
      exact hl
  | pushed w | refused w => exact hr w rfl _ (by simp)

variable {rest : List WorkerId}

section
variable (h : Tracked s)
include h

lemma Tracked.tearNext (ws : List WorkerId) : Tracked (s.setThread t (tearNext ws)) := by
  cases ws with
  | nil | cons => exact h.quiet (fun _ => rfl) trivial

lemma Tracked.dropTorn (hh : Handles s) (ht : s.threads t = .tearing w rest .drop) :
    Tracked (s.release t w (World.tearNext rest) []) := by
  have he : (s.worker w).queue = [] := (hh.torn t w rest .drop ht).emptied rfl
  have hq := (h.workers w).queue
  unfold World.release
  split
  · have hs : Tracked (s.setWorker w { s.worker w with
        holders := (s.worker w).holders.erase (.thread t) }) :=
      h.setWorker_same ⟨rfl, rfl⟩ hq
    exact (hs.tearNext rest).say_other (by simp)
  · split
    · have hs : Tracked (s.setWorker w { s.worker w with holders := [], queue := [] }) :=
        h.setWorker_same ⟨rfl, rfl⟩ (forall_mem_nil _)
      rw [he]
      have hn : Tracked (World.destroy _ []) := hs.destroy (forall_mem_nil _)
      exact (hn.tearNext rest).say_other (by simp)
    · exact h.setWorker_same ⟨rfl, rfl⟩ hq

lemma Tracked.goTear (hh : Handles s)
    (ht : s.threads t = .tearing w rest stage) : Tracked (s.goTear t w rest stage) := by
  have hs := h.sound_stage ht
  have hq := (h.workers w).queue
  cases stage with
  | stop =>
    have hse : Tracked (s.setWorker w { s.worker w with stop := true }) :=
      h.setWorker_same ⟨rfl, rfl⟩ hq
    exact hse.quiet (fun _ => rfl) trivial
  | takeQueue =>
    have hse : Tracked (s.setThread t
        (.tearing w rest (.drain (s.worker w).inFlight (.unqueued (s.worker w).queue)))) := by
      refine h.quiet (fun _ => rfl) ⟨sound_unqueued hq, fun op hf => ?_⟩
      have hru := ReaderWorker.running_of_inFlight hf
      have hpc := (h.workers w).pc
      rw [hru] at hpc
      refine ⟨hpc.1, fun op' hpc => ?_⟩
      rw [hru] at hpc
      cases hpc
      rfl
    show Tracked ((World.setWorker (s.setThread t
      (.tearing w rest (.drain (s.worker w).inFlight (.unqueued (s.worker w).queue)))) w
        { s.worker w with queue := [] }).say ((s.worker w).inFlight.toList.map .cancelRequested))
    refine Tracked.say_other ?_ ?_
    · exact hse.setWorker_same ⟨rfl, rfl⟩ (forall_mem_nil _)
    · intro op hin
      obtain ⟨op', -, heq⟩ := mem_map.mp hin
      cases heq
  | drain inFlight d =>
    obtain ⟨hd, hf⟩ := hs
    have hdr := h.drain hd
    have hfl : ∀ op ∈ inFlight, Launched (s.drain d).1 op ∧ ∀ op', ((s.drain d).1.worker w).pc =
      .running op' → op' = op := by
      rw [(OnTables.drain s d).worker]
      exact fun op hop => ⟨(follows_drain d).launched (hf op hop).1, (hf op hop).2⟩
    simp only [World.goTear]
    split
    · next hr => exact hdr.quiet (fun _ => rfl) ⟨hd.rest hr, hfl⟩
    · exact hdr.quiet (fun _ => rfl) trivial
    · exact hdr.quiet (fun _ => rfl) (hfl _ rfl)
  | decide op =>
    simp only [World.goTear]
    split
    · rename_i op' hf
      refine h.quiet (fun _ => rfl) ⟨hs.1, ?_, fun _ => mem_forgetOpById hs.1⟩
      rintro op'' (hpc | hpc)
      · exact hs.2 op'' hpc
      · rw [ReaderWorker.running_of_inFlight hf] at hpc
        cases hpc
    · exact h.quiet (fun _ => rfl) trivial
  | forget op erases =>
    obtain ⟨hl, hru, hin⟩ := hs
    cases erases with
    | cons e erases =>
      refine (h.erase e).quiet (fun _ => rfl) ⟨(follows_erase e).launched hl, ?_, fun hm => ?_⟩
      · rw [(OnTables.erase s e).worker]
        exact hru
      · obtain ⟨hold, hne⟩ := mem_erase_byId hm
        exact (mem_cons.mp (hin hold)).resolve_left hne.symm
    | nil =>
      have hse : Tracked (s.setWorker w { s.worker w with abandoned := true }) := by
        refine h.setPc ⟨hq, ?_⟩ (fun _ => id) fun _ => .inr
        have hpc := (h.workers w).pc
        have hno : op ∉ s.byId := fun hm => absurd (hin hm) not_mem_nil
        show (s.worker w).pc.Sound s true
        cases hp : (s.worker w).pc with
        | running op' =>
          rw [hp] at hpc
          exact ⟨hpc.1, fun _ => hru op' (.inl hp) ▸ hno⟩
        | returned op' =>
          rw [hp] at hpc
          exact ⟨hpc.1, hpc.2.1, fun _ => hru op' (.inr hp) ▸ hno⟩
        | _ => rwa [hp] at hpc
      exact hse.quiet (fun _ => rfl) trivial
  | detach =>
    have hse : Tracked (s.setWorker w { s.worker w with detached := true }) :=
      h.setWorker_same ⟨rfl, rfl⟩ hq
    refine Tracked.say_other ?_ (by simp)
    exact hse.quiet (fun _ => rfl) trivial
  | park =>
    have hse : Tracked (s.setWorker w
        { s.worker w with holders := .zombies :: (s.worker w).holders.erase (.thread t) }) :=
      h.setWorker_same ⟨rfl, rfl⟩ hq
    exact (hse.tearNext rest).say_other (by simp)
  | drop => exact h.dropTorn hh ht

lemma Tracked.go (hh : Handles s) (t : Tid) : Tracked (s.goThread t (s.threads t)) := by
  have hs := h.threads t
  cases ht : s.threads t with
  | idle => exact h
  | publishing op stage => exact h.goPublish hh ht
  | tearing w rest stage => exact h.goTear hh ht
  | sweeping d =>
    rw [ht] at hs
    simp only [goThread]
    split
    · next hr => exact (h.drain hs).quiet (fun _ => rfl) (Drain.Sound.rest hs hr)
    · exact (h.drain hs).quiet (fun _ => rfl) trivial
  | cancelling client ids =>
    cases ids with
    | nil => exact h.quiet (fun _ => rfl) trivial
    | cons op ids => exact (h.cancel op).quiet (fun _ => rfl) trivial

lemma Tracked.workDrain (hpc : (s.worker w).pc = .draining d) : Tracked (s.workDrain w d) := by
  obtain ⟨hq, hd⟩ := h.workers w
  rw [hpc] at hd
  have hdr := h.drain hd
  have hq (op) (hop : op ∈ (s.worker w).queue) := (follows_drain d).launched (hq op hop)
  unfold World.workDrain
  split
  · rename_i d' hr
    refine Tracked.say_other (hdr.rests ⟨hq, Drain.Sound.rest hd hr⟩ rfl) fun op hin => ?_
    split at hin
    · cases hin
    · cases mem_singleton.mp hin
  · exact hdr.rests ⟨hq, trivial⟩ rfl

lemma Tracked.work (hh : Handles s) (w : WorkerId) : Tracked (s.workPc w (s.worker w).pc) := by
  obtain ⟨hqu, hs⟩ := h.workers w
  cases hpc : (s.worker w).pc with
  | waiting =>
    simp only [workPc]
    split
    · exact h.rests ⟨forall_mem_nil _, sound_unqueued hqu⟩ rfl
    · rename_i hs
      split
      · exact h
      · rename_i op queue hq
        rw [hq] at hqu
        refine h.setWorker ⟨fun op' hop' => hqu op' (mem_cons_of_mem _ hop'), hqu op mem_cons_self,
          fun hfl => ?_⟩
          fun t rest stage ht => ?_
        · exact absurd (hh.leaving w (.inr hfl)).1 hs
        · -- nothing is taken from the queue of a worker that has been stopped
          have hf : stage = .stop := by
            by_contra hne
            exact hs ((hh.torn t w rest stage ht).stop hne)
          rw [hf]
          trivial
  | running op =>
    rw [hpc] at hs
    simp only [workPc]
    split
    · rename_i hfi
      refine h.setPc ⟨hqu, hs.1, hfi, hs.2⟩ (by simp) fun op' heq => .inl ?_
      cases heq
      exact hpc
    · exact h.finish op
  | returned op =>
    rw [hpc] at hs
    simp only [workPc]
    split
    · next hfl => exact h.rests ⟨hqu, hs.1, hs.2.1, hs.2.2 hfl⟩ rfl
    · exact h.rests ⟨hqu, hs.1, hs.2.1⟩ rfl
  | passing op =>
    rw [hpc] at hs
    have hl : Tracked { s with finishedOps := s.finishedOps ++ [op] } :=
      h.setKept (forall_mem_append.mpr ⟨h.kept, forall_mem_singleton.mpr hs⟩)
    have hse : Tracked ({ s with finishedOps := s.finishedOps ++ [op] }.setWorker w
      { s.worker w with pc := .waiting }) :=
      hl.rests ⟨(hl.workers w).queue, trivial⟩ rfl
    exact hse.say_other (by simp)
  | quitting op =>
    rw [hpc] at hs
    obtain ⟨hla, hfi, hno⟩ := hs
    have hse : Tracked (s.setWorker w { s.worker w with pc := .exited }) :=
      h.rests ⟨hqu, trivial⟩ rfl
    exact hse.destroy (forall_mem_singleton.mpr ⟨⟨hla.pos, hla.minted, hla.pushed⟩, hno, hfi⟩)
  | draining d => exact h.workDrain hpc
  | exited => exact h

lemma Tracked.mint (stage : PublishStage Reader Client) :
    Tracked (({ s with counter := s.counter + 1 }).setThread t
      (.publishing (s.counter + 1) stage)) := by
  have hpu : ∀ t' op, ((s.setThread t (.publishing (s.counter + 1) stage)).threads t').publishes
    op = true →
      t' = t ∧ op = s.counter + 1 ∨ t' ≠ t ∧ (s.threads t').publishes op = true := fun t' op =>
    s.setThread_cases t' (fun hp => .inl ⟨rfl, (of_decide_eq_true hp).1.symm⟩) fun hne hp =>
      .inr ⟨hne, hp⟩
  have hn : ∀ t', (s.threads t').publishes (s.counter + 1) = true → False := fun t' hp =>
    Nat.not_succ_le_self _ (h.minted t' _ hp).2
  have hf : Follows s (({ s with counter := s.counter + 1 }).setThread t
      (.publishing (s.counter + 1) stage)) := by
    refine ⟨fun hl => ⟨hl.pos, Nat.le_succ_of_le hl.minted, fun t' hp => ?_⟩, fun _ =>
      id, fun _ => id⟩
    rcases hpu t' _ hp with ⟨-, rfl⟩ | ⟨-, hold⟩
    · exact Nat.not_succ_le_self _ hl.minted
    · exact hl.pushed t' hold
  refine ⟨?_, ?_, fun t' => hf.ofThread ?_, fun w => hf.ofWorker (h.workers w), fun op hop =>
      hf.kept (h.kept op hop),
    fun op hop => ⟨hf.launched (h.destroyed op hop).1, (h.destroyed op hop).2⟩, h.log⟩
  · intro t₁ t₂ op h₁ h₂
    rcases hpu t₁ op h₁ with ⟨rfl, rfl⟩ | ⟨-, hold₁⟩
    · rcases hpu t₂ _ h₂ with ⟨rfl, -⟩ | ⟨-, hold₂⟩
      · rfl
      · exact (hn t₂ hold₂).elim
    · rcases hpu t₂ op h₂ with ⟨-, rfl⟩ | ⟨-, hold₂⟩
      · exact (hn t₁ hold₁).elim
      · exact h.single t₁ t₂ op hold₁ hold₂
  · intro t' op hp
    rcases hpu t' op hp with ⟨-, rfl⟩ | ⟨-, hold⟩
    · exact ⟨Nat.succ_pos _, Nat.le_refl _⟩
    · obtain ⟨hpo, hle⟩ := h.minted t' op hold
      exact ⟨hpo, Nat.le_succ_of_le hle⟩
  · exact s.setThread_cases t' trivial fun _ => h.threads t'

lemma Tracked.hand (t : Tid) (w : WorkerId) : Tracked (s.hand t w) :=
  h.setWorker_same ⟨rfl, rfl⟩ (h.workers w).queue

lemma Tracked.handAll (t : Tid) (ws : List WorkerId) :
    Tracked (s.handAll t ws) := by
  induction ws generalizing s with
  | nil => exact h
  | cons w ws ih => exact ih (h.hand t w)

lemma Tracked.start (a : OpAction Tid Reader Client) : Tracked (s.start a) := by
  cases a with
  | publish t reader caller => exact h.mint (.minted reader caller)
  | removeReader t reader =>
    simp only [World.start]
    split
    · exact h
    · rename_i w _
      have hu : Tracked { s with workers := s.workers.filter fun e => e.1 ≠ reader } := h.other
      exact (hu.hand t w).tearNext [w]
  | destruct t =>
    have hu : Tracked { s with workers := [] } := h.other
    exact (hu.handAll t _).tearNext _
  | sweep t aged =>
    have hr : Tracked { s with finishedOps := s.finishedOps.drop aged } :=
      h.setKept fun op hop => h.kept op (mem_of_mem_drop hop)
    refine hr.quiet (fun _ => rfl) (sound_expired fun op hop => ?_)
    obtain ⟨hl, hf⟩ := h.kept op (mem_of_mem_take hop)
    exact ⟨⟨hl.pos, hl.minted, hl.pushed⟩, hf⟩
  | disconnect t client =>
    have hf : Tracked { s with
        senderToOps := Function.update s.senderToOps client []
        opToSender := fun id => if id ∈ s.senderToOps client then none else s.opToSender id } :=
          h.other
    refine Tracked.say_other ?_ (by simp)
    exact hf.quiet (fun _ => rfl) trivial
  | cancel | go | work => exact h

lemma Tracked.step (hh : Handles s) (a : OpAction Tid Reader Client) : Tracked (s.step a) := by
  rcases step_cases s a with heq | ⟨op, -, heq⟩ | ⟨t, -, heq⟩ | ⟨w, -, -, heq⟩ | ⟨t, -, -, heq⟩ <;>
    rw [heq]
  · exact h
  · exact h.cancel op
  · exact h.go hh t
  · exact h.work hh w
  · exact h.start a

end

lemma tracked_start : Tracked ({} : World Tid Reader Client) :=
  ⟨nofun, nofun, fun _ => trivial, fun _ => ⟨nofun, trivial⟩, nofun, nofun, trivial⟩

end Rules

end LibreAgent.Operations
