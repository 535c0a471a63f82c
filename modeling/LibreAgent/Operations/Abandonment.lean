import Mathlib.Data.Fintype.Basic
import LibreAgent.Operations.OperationManager

/-!
# Workers that are detached

`abandonOrJoin` looks whether the worker's operation is still in flight, and if it is, forgets the
operation, sets the flag `abandoned`, and detaches the thread.  The worker looks at the flag when
its operation has returned.  If the operation returns between the first look and the flag, the
worker is detached and goes on to the manager's members.

* `Aside` : a step that has nothing to do with it;
* `detached_worker_silent` : a detached worker never touches its manager.
-/

set_option linter.unusedSectionVars false

namespace LibreAgent.Operations

open Runs List World

variable {Tid Reader Client : Type*} [DecidableEq Tid] [DecidableEq Reader] [DecidableEq Client]

/-! ## Steps aside -/

def SameFate (a b : ReaderWorker Tid) : Prop :=
  b.pc = a.pc ∧ b.abandoned = a.abandoned ∧ b.detached = a.detached

def Thread.detaches : Thread Reader Client → Prop
  | .tearing _ _ (.forget _ _) | .tearing _ _ .detach | .tearing _ _ .park => True
  | _ => False

def OpEvent.aboutOp : OpEvent Client → Prop
  | .accessed _ | .detached _ | .abandoned _ => False
  | _ => True

structure Aside (s s' : World Tid Reader Client) : Prop where
  worker : ∀ w, SameFate (s.worker w) (s'.worker w)
  nextWorker : s.nextWorker ≤ s'.nextWorker
  threads : ∀ t, s'.threads t = s.threads t ∨ ¬ (s'.threads t).detaches
  log : ∃ new, s'.log = new ++ s.log ∧ ∀ e ∈ new, e.aboutOp

namespace Aside
variable {s s' s'' : World Tid Reader Client}

lemma refl (s : World Tid Reader Client) : Aside s s :=
  ⟨fun _ => ⟨rfl, rfl, rfl⟩, Nat.le_refl _, fun _ => .inl rfl, [], rfl, nofun⟩

lemma trans (h : Aside s s') (h' : Aside s' s'') : Aside s s'' := by
  refine ⟨fun w => ?_, Nat.le_trans h.nextWorker h'.nextWorker, fun t => ?_, ?_⟩
  · obtain ⟨hpc, ha, hd⟩ := h.worker w
    obtain ⟨hpc', ha', hd'⟩ := h'.worker w
    exact ⟨hpc'.trans hpc, ha'.trans ha, hd'.trans hd⟩
  · rcases h'.threads t with ht | ht
    · rw [ht]
      exact h.threads t
    · exact .inr ht
  · obtain ⟨new, hl, hn⟩ := h.log
    obtain ⟨new', hl', hn'⟩ := h'.log
    refine ⟨new' ++ new, by rw [hl', hl, append_assoc], fun e he => ?_⟩
    rcases mem_append.mp he with he | he
    · exact hn' e he
    · exact hn e he

lemma setThread (h : Aside s s') {t : Tid} {thread : Thread Reader Client}
    (hd : ¬ thread.detaches) : Aside s (s'.setThread t thread) := by
  refine h.trans ⟨fun _ => ⟨rfl, rfl, rfl⟩, Nat.le_refl _, fun t' => ?_, [], rfl, nofun⟩
  exact s'.setThread_cases t' (.inr hd) fun _ => .inl rfl

lemma setWorker (h : Aside s s') {w : WorkerId} {worker : ReaderWorker Tid}
    (hw : SameFate (s'.worker w) worker) : Aside s (s'.setWorker w worker) := by
  refine h.trans ⟨fun w' => ?_, Nat.le_refl _, fun _ => .inl rfl, [], rfl, nofun⟩
  exact s'.setWorker_cases w' hw fun _ => ⟨rfl, rfl, rfl⟩

variable {events : List (OpEvent Client)}

section
variable (h : Aside s s')
include h

lemma say (he : ∀ e ∈ events, e.aboutOp) : Aside s (s'.say events) :=
  h.trans ⟨fun _ => ⟨rfl, rfl, rfl⟩, Nat.le_refl _, fun _ => .inl rfl, events, rfl, he⟩

lemma tables (heq : s''.worker = s'.worker ∧ s''.nextWorker = s'.nextWorker ∧
    s''.threads = s'.threads ∧ s''.log = s'.log) : Aside s s'' := by
  obtain ⟨hw, hn, ht, hl⟩ := heq
  refine h.trans ⟨fun w => ?_, Nat.le_of_eq hn.symm, fun t => .inl (by rw [ht]), [], hl, nofun⟩
  rw [hw]
  exact ⟨rfl, rfl, rfl⟩

lemma requestCancel (id : OperationId) : Aside s (s'.requestCancel id) :=
  h.say (by simp [OpEvent.aboutOp])

lemma finish (id : OperationId) : Aside s (s'.finish id) := by
  unfold World.finish
  split
  · exact h
  · exact h.say (by simp [OpEvent.aboutOp])

lemma cancel (id : OperationId) : Aside s (s'.cancel id) := by
  unfold World.cancel
  split
  · exact h.requestCancel id
  · exact h

lemma erase (e : Erase) : Aside s (s'.erase e) := by
  cases e with
  | fromIds id => exact h.tables ⟨rfl, rfl, rfl, rfl⟩
  | fromSenders id =>
    cases hs : s'.opToSender id with
    | none => simpa only [World.erase, hs] using h
    | some client =>
      simp only [World.erase, hs]
      exact h.tables ⟨rfl, rfl, rfl, rfl⟩

lemma destroy (ids : List OperationId) : Aside s (s'.destroy ids) := by
  refine h.say fun e he => ?_
  obtain ⟨id, -, rfl⟩ := mem_map.mp he
  trivial

end

lemma drain (s : World Tid Reader Client) (d : Drain) : Aside s (s.drain d).1 := by
  match d with
  | ⟨e :: _, _, _⟩ => exact (refl s).erase e
  | ⟨[], id :: _, _⟩ => exact ((refl s).requestCancel id).finish id
  | ⟨[], [], doomed⟩ => exact (refl s).destroy doomed

lemma release (s : World Tid Reader Client) (t : Tid) (w : WorkerId) {next : Thread Reader Client}
    (hn : ¬ next.detaches) (he : ∀ e ∈ events, e.aboutOp) :
    Aside s (s.release t w next events) := by
  unfold World.release
  split
  · refine .say (.setThread (.setWorker (.refl s) ?_) hn) he
    exact ⟨rfl, rfl, rfl⟩
  · split
    · refine .say (.setThread (.destroy (.setWorker (.refl s) ?_) _) hn) he
      exact ⟨rfl, rfl, rfl⟩
    · exact .setWorker (.refl s) ⟨rfl, rfl, rfl⟩

lemma handAll (h : Aside s s') (t : Tid) (ws : List WorkerId) : Aside s (s'.handAll t ws) := by
  induction ws generalizing s' with
  | nil => exact h
  | cons w ws ih =>
    have hh : Aside s (s'.hand t w) := .setWorker h ⟨rfl, rfl, rfl⟩
    exact ih hh

lemma not_detaches_tearNext (ws : List WorkerId) :
    ¬ (tearNext ws : Thread Reader Client).detaches := by
  cases ws <;> exact id

lemma start (s : World Tid Reader Client) (a : OpAction Tid Reader Client) :
    Aside s (s.start a) := by
  cases a with
  | publish | sweep =>
    refine .setThread (.tables (.refl s) ?_) not_false
    exact ⟨rfl, rfl, rfl, rfl⟩
  | removeReader t reader =>
    cases hw : s.workers.lookup reader with
    | none => simpa only [World.start, hw] using refl s
    | some w =>
      simp only [World.start, hw]
      refine .setThread (.setWorker (.tables (.refl s) ?_) ?_) not_false
      · exact ⟨rfl, rfl, rfl, rfl⟩
      · exact ⟨rfl, rfl, rfl⟩
  | destruct t =>
    refine .setThread (.handAll (.tables (.refl s) ?_) t _) (not_detaches_tearNext _)
    · exact ⟨rfl, rfl, rfl, rfl⟩
  | disconnect t client =>
    refine .say (.setThread (.tables (.refl s) ?_) ?_) ?_
    · exact ⟨rfl, rfl, rfl, rfl⟩
    · exact not_false
    · simp [OpEvent.aboutOp]
  | cancel | go | work => exact refl s

end Aside

/-! ## The invariant -/

def WorkerPc.leaves : WorkerPc → Prop
  | .running _ | .returned _ | .quitting _ | .exited => True
  | _ => False

def BeforeDetach (past : List (OpEvent Client)) : OpEvent Client → Prop
  | .accessed w => .detached w ∉ past ∧ .abandoned w ∉ past
  | _ => True

structure Guarded (s : World Tid Reader Client) : Prop where
  unmade : ∀ w, s.nextWorker ≤ w → SameFate {} (s.worker w)
  forgetting : ∀ t w rest op erases, s.threads t = .tearing w rest (.forget op erases) →
    ∃ op', (s.worker w).pc = .running op'
  detaching : ∀ t w rest, s.threads t = .tearing w rest .detach → (s.worker w).abandoned = true
  parking : ∀ t w rest, s.threads t = .tearing w rest .park → (s.worker w).detached = true
  abandoned : ∀ w, (s.worker w).abandoned = true → (s.worker w).pc.leaves
  detached : ∀ w, (s.worker w).detached = true → (s.worker w).abandoned = true
  logged : ∀ w, .detached w ∈ s.log ∨ .abandoned w ∈ s.log → (s.worker w).detached = true
  silent : Throughout BeforeDetach s.log

lemma Throughout.silent_append {new past : List (OpEvent Client)} (h : Throughout BeforeDetach past)
    (hn : ∀ e ∈ new, e.aboutOp) : Throughout BeforeDetach (new ++ past) := by
  refine h.append fun e he past => ?_
  cases e with
  | accessed w => exact absurd (hn _ he) id
  | _ => trivial

lemma Guarded.aside {s s' : World Tid Reader Client} (h : Guarded s) (hs : Aside s s') :
    Guarded s' := by
  obtain ⟨new, hl, hn⟩ := hs.log
  -- a thread that has decided is one that had decided before
  have hth : ∀ t {thread}, thread.detaches → s'.threads t = thread → s.threads t = thread := by
    intro t thread hd ht
    rcases hs.threads t with heq | hno
    · rw [← heq, ht]
    · rw [ht] at hno
      exact absurd hd hno
  refine ⟨?_, ?_, ?_, ?_, ?_, ?_, ?_, ?_⟩
  · intro w hw
    obtain ⟨hpc, ha, hde⟩ := h.unmade w (Nat.le_trans hs.nextWorker hw)
    obtain ⟨hpc', ha', hde'⟩ := hs.worker w
    exact ⟨hpc'.trans hpc, ha'.trans ha, hde'.trans hde⟩
  · intro t w rest op erases ht
    rw [(hs.worker w).1]
    exact h.forgetting t w rest op erases (hth t trivial ht)
  · intro t w rest ht
    rw [(hs.worker w).2.1]
    exact h.detaching t w rest (hth t trivial ht)
  · intro t w rest ht
    rw [(hs.worker w).2.2]
    exact h.parking t w rest (hth t trivial ht)
  · intro w
    rw [(hs.worker w).1, (hs.worker w).2.1]
    exact h.abandoned w
  · intro w
    rw [(hs.worker w).2.1, (hs.worker w).2.2]
    exact h.detached w
  · intro w hw
    rw [(hs.worker w).2.2]
    rw [hl, mem_append, mem_append] at hw
    exact h.logged w (hw.imp (·.resolve_left (hn _)) (·.resolve_left (hn _)))
  · rw [hl]
    exact Throughout.silent_append h.silent hn

section Steps
variable {s : World Tid Reader Client}
variable {t : Tid} {w : WorkerId} {worker : ReaderWorker Tid}

lemma Guarded.setThread (h : Guarded s) {thread : Thread Reader Client}
    (hf : ∀ w rest op erases, thread = .tearing w rest (.forget op erases) →
      ∃ op', (s.worker w).pc = .running op')
    (hd : ∀ w rest, thread = .tearing w rest .detach → (s.worker w).abandoned = true)
    (hp : ∀ w rest, thread = .tearing w rest .park → (s.worker w).detached = true) :
    Guarded (s.setThread t thread) := by
  refine ⟨h.unmade, fun t' => ?_, fun t' => ?_, fun t' => ?_, h.abandoned, h.detached,
      h.logged, h.silent⟩
  · exact s.setThread_cases t' hf fun _ => h.forgetting t'
  · exact s.setThread_cases t' hd fun _ => h.detaching t'
  · exact s.setThread_cases t' hp fun _ => h.parking t'

lemma Guarded.setWorker (h : Guarded s) (hw : w < s.nextWorker)
    (hf : ∀ t rest op erases, s.threads t = .tearing w rest (.forget op erases) →
      ∃ op', worker.pc = .running op') (ha : (s.worker w).abandoned = true →
        worker.abandoned = true)
    (hd : (s.worker w).detached = true → worker.detached = true)
    (hl : worker.abandoned = true → worker.pc.leaves)
    (hfl : worker.detached = true → worker.abandoned = true) :
    Guarded (s.setWorker w worker) := by
  refine ⟨fun w' => ?_, fun t w' rest op erases => ?_, fun t w' rest => ?_, fun t w' rest => ?_,
      fun w' => ?_,
    fun w' => ?_, fun w' => ?_, h.silent⟩
  · exact s.setWorker_cases w' (fun hw' => absurd hw (Nat.not_lt.mpr hw')) fun _ => h.unmade w'
  · exact s.setWorker_cases w' (hf t rest op erases) fun _ => h.forgetting t w' rest op erases
  · exact s.setWorker_cases w' (fun ht => ha (h.detaching t w rest ht)) fun _ =>
      h.detaching t w' rest
  · exact s.setWorker_cases w' (fun ht => hd (h.parking t w rest ht)) fun _ => h.parking t w' rest
  · exact s.setWorker_cases w' hl fun _ => h.abandoned w'
  · exact s.setWorker_cases w' hfl fun _ => h.detached w'
  · exact s.setWorker_cases w' (fun hlo => hd (h.logged w hlo)) fun _ => h.logged w'

lemma Guarded.say (h : Guarded s) {e : OpEvent Client}
    (hl : ∀ w, e = .detached w ∨ e = .abandoned w → (s.worker w).detached = true)
    (hs : ∀ w, e = .accessed w → (s.worker w).detached = false) : Guarded (s.say [e]) := by
  refine ⟨h.unmade, h.forgetting, h.detaching, h.parking, h.abandoned, h.detached, ?_, ?_, h.silent⟩
  · rintro w (hw | hw) <;> rcases mem_cons.mp hw with heq | hold
    · exact hl w (.inl heq.symm)
    · exact h.logged w (.inl hold)
    · exact hl w (.inr heq.symm)
    · exact h.logged w (.inr hold)
  · cases e with
    | accessed w =>
      have hn := ne_true_of_eq_false (hs w rfl)
      exact ⟨fun hin => hn (h.logged w (.inl hin)), fun hin => hn (h.logged w (.inr hin))⟩
    | _ => trivial

/-! ## Steps and runs -/

def Thread.forgets (w : WorkerId) : Thread Reader Client → Bool
  | .tearing w' _ (.forget _ _) => w' = w
  | _ => false

/-- an operation does not return between the decision to forget its worker and the detaching -/
def ReturnsLate (s : World Tid Reader Client) : OpAction Tid Reader Client → Prop
  | .work w =>
    ∀ t, (s.threads t).forgets w = true → ∀ op ∈ (s.worker w).inFlight, .finished op ∉ s.log
  | _ => True

instance [Fintype Tid] (s : World Tid Reader Client) : ∀ a, Decidable (ReturnsLate s a)
  | .work w => inferInstanceAs (Decidable (∀ t, (s.threads t).forgets w = true →
      ∀ op ∈ (s.worker w).inFlight, .finished op ∉ s.log))
  | .publish _ _ _ | .removeReader _ _ | .destruct _ | .sweep _ _ | .disconnect _ _
  | .cancel _ | .go _ =>
    .isTrue trivial

lemma Aside.workerFor (s : World Tid Reader Client) (hu : SameFate {} (s.worker s.nextWorker))
    (t : Tid) (reader : Reader) {next : WorkerId → Thread Reader Client}
    (hn : ∀ w, ¬ (next w).detaches) : Aside s (s.workerFor t reader next) := by
  unfold World.workerFor
  split
  · rename_i w _
    refine .setThread (.setWorker (.refl s) ?_) (hn w)
    exact ⟨rfl, rfl, rfl⟩
  · refine .setThread (.setWorker ?_ ?_) (hn _)
    · exact ⟨fun _ => ⟨rfl, rfl, rfl⟩, Nat.le_succ _, fun _ => .inl rfl, [], rfl, nofun⟩
    · exact ⟨hu.1.symm, hu.2.1.symm, hu.2.2.symm⟩

lemma Aside.goPublish (s : World Tid Reader Client) (hu : SameFate {} (s.worker s.nextWorker))
    (t : Tid)
    (op : OperationId) (stage : PublishStage Reader Client) : Aside s (s.goPublish t op stage) := by
  cases stage with
  | minted reader caller => exact workerFor s hu t reader fun w => not_false
  | holding w caller =>
    simp only [World.goPublish]
    split <;> exact .setThread (.refl s) not_false
  | built w caller =>
    cases caller with
    | none => exact .setThread (.refl s) not_false
    | some client =>
      have hr : Aside s (s.recordSender op client) :=
        ⟨fun _ => ⟨rfl, rfl, rfl⟩, Nat.le_refl _, fun _ => .inl rfl, [.recorded op client],
          rfl, by simp [OpEvent.aboutOp]⟩
      exact hr.setThread not_false
  | recorded w =>
    have hi : Aside s { s with byId := op :: s.byId } := .tables (.refl s) ⟨rfl, rfl, rfl, rfl⟩
    exact hi.setThread not_false
  | tracked w =>
    refine .setThread (.setWorker (.refl s) ?_) not_false
    exact ⟨rfl, rfl, rfl⟩
  | pushed w => exact release s t w not_false (by simp [OpEvent.aboutOp])
  | refused w => exact release s t w not_false nofun

section
variable (h : Guarded s)
include h

/-- a thread goes on; only `abandonOrJoin` has more to show than that the step is aside -/
lemma Guarded.goTear {rest : List WorkerId} {stage : TearStage}
    (ht : s.threads t = .tearing w rest stage) : Guarded (s.goTear t w rest stage) := by
  cases stage with
  | stop =>
    refine h.aside (.setThread (.setWorker (.refl s) ?_) not_false)
    exact ⟨rfl, rfl, rfl⟩
  | takeQueue =>
    refine h.aside (.setThread (.say (.setWorker (.refl s) ?_) ?_) not_false)
    · exact ⟨rfl, rfl, rfl⟩
    · intro e he
      obtain ⟨op, -, rfl⟩ := List.mem_map.mp he
      trivial
  | drain inFlight d =>
    simp only [World.goTear]
    split <;> exact h.aside (.setThread (.drain s d) not_false)
  | decide op =>
    simp only [World.goTear]
    split
    · rename_i op' hf
      refine h.setThread ?_ nofun nofun
      intro w' rest' op'' erases heq
      cases heq
      exact ⟨op', ReaderWorker.running_of_inFlight hf⟩
    · exact h.aside (.setThread (.refl s) not_false)
  | forget op erases =>
    obtain ⟨op', hpc⟩ := h.forgetting t w rest op erases ht
    cases erases with
    | cons e erases =>
      have her := h.aside (.erase (.refl s) e)
      refine her.setThread ?_ nofun nofun
      intro w' rest' op'' erases' heq
      cases heq
      refine ⟨op', ?_⟩
      rw [((Aside.refl s).erase e |>.worker w).1]
      exact hpc
    | nil =>
      have hw : w < s.nextWorker := by
        by_contra hn
        have hfr := (h.unmade w (Nat.not_lt.mp hn)).1
        rw [hpc] at hfr
        cases hfr
      have hl : (s.worker w).pc.leaves := by
        rw [hpc]
        trivial
      refine Guarded.setThread (h.setWorker hw ?_ ?_ ?_ ?_ ?_) nofun ?_ nofun
      · exact fun _ _ _ _ _ => ⟨op', hpc⟩
      · exact fun _ => rfl
      · exact fun hd => hd
      · exact fun _ => hl
      · exact fun _ => rfl
      · intro w' rest' heq
        cases heq
        rw [World.setWorker_worker_self]
  | detach =>
    have hab := h.detaching t w rest ht
    have hl := h.abandoned w hab
    have hw : w < s.nextWorker := by
      by_contra hn
      have hfr := (h.unmade w (Nat.not_lt.mp hn)).2.1
      rw [hab] at hfr
      cases hfr
    refine Guarded.say (Guarded.setThread (h.setWorker hw ?_ ?_ ?_ ?_ ?_) ?_ ?_ ?_) ?_ ?_
    · exact fun t' => h.forgetting t' w
    · exact fun ha => ha
    · exact fun _ => rfl
    · exact fun _ => hl
    · exact fun _ => hab
    · exact nofun
    · exact nofun
    · intro w' rest' heq
      cases heq
      rw [World.setWorker_worker_self]
    · rintro w' (heq | heq) <;> cases heq
      exact congrArg _ (s.setWorker_worker_self w _)
    · exact nofun
  | park =>
    have hde := h.parking t w rest ht
    refine Guarded.say (h.aside (.setThread (.setWorker (.refl s) ?_)
      (Aside.not_detaches_tearNext rest))) ?_ nofun
    · exact ⟨rfl, rfl, rfl⟩
    · rintro w' (heq | heq) <;> cases heq
      exact (congrArg _ (s.setWorker_worker_self w _)).trans hde
  | drop => exact h.aside (.release s t w (Aside.not_detaches_tearNext rest) nofun)

lemma Guarded.go (t : Tid) : Guarded (s.goThread t (s.threads t)) := by
  cases ht : s.threads t with
  | idle => exact h
  | publishing op stage => exact h.aside (.goPublish s (h.unmade _ (Nat.le_refl _)) t op stage)
  | tearing w rest stage => exact h.goTear ht
  | sweeping d =>
    simp only [goThread]
    split <;> exact h.aside (.setThread (.drain s d) not_false)
  | cancelling client ids =>
    cases ids with
    | nil => exact h.aside (.setThread (.refl s) not_false)
    | cons op ids => exact h.aside (.setThread (.cancel (.refl s) op) not_false)

/-- the worker's thread goes on, from a point where nobody is about to detach it -/
lemma Guarded.setPc (hw : w < s.nextWorker)
    (hf : ∀ t rest op erases, s.threads t ≠ .tearing w rest (.forget op erases))
    (hfl : worker.abandoned = (s.worker w).abandoned ∧ worker.detached = (s.worker w).detached)
    (hl : (s.worker w).abandoned = true → worker.pc.leaves) : Guarded (s.setWorker w worker) := by
  obtain ⟨ha, hd⟩ := hfl
  refine h.setWorker hw (fun t rest op erases ht => absurd ht (hf t rest op erases)) ?_ ?_ ?_ ?_
  · exact ha.trans
  · exact hd.trans
  · rwa [ha]
  · rw [ha, hd]
    exact h.detached w

lemma Guarded.not_detached (hpc : ¬ (s.worker w).pc.leaves) : (s.worker w).detached = false := by
  by_contra hd
  exact hpc (h.abandoned w (h.detached w (Bool.not_eq_false _ ▸ hd)))

lemma Guarded.not_forgetting (hpc : ∀ op, (s.worker w).pc ≠ .running op) (t : Tid)
    (rest : List WorkerId) (op : OperationId) (erases : List Erase) :
    s.threads t ≠ .tearing w rest (.forget op erases) := by
  intro ht
  obtain ⟨op', hr⟩ := h.forgetting t w rest op erases ht
  exact hpc op' hr

lemma Guarded.workDrain (hw : w < s.nextWorker) {d : Drain}
    (hpc : (s.worker w).pc = .draining d) : Guarded (s.workDrain w d) := by
  have hl : ¬ (s.worker w).pc.leaves := by
    rw [hpc]
    exact not_false
  have hd := Aside.drain s d
  have hr : ∀ worker : ReaderWorker Tid,
      worker.abandoned = (s.worker w).abandoned ∧ worker.detached = (s.worker w).detached →
      Guarded ((s.drain d).1.setWorker w worker) := by
    intro worker hf
    refine (h.aside hd).setPc (Nat.lt_of_lt_of_le hw hd.nextWorker) ?_ ?_ ?_
    · refine (h.aside hd).not_forgetting fun op => ?_
      rw [(hd.worker w).1, hpc]
      exact nofun
    · rw [(hd.worker w).2.1, (hd.worker w).2.2]
      exact hf
    · rw [(hd.worker w).2.1]
      exact fun ha => absurd (h.abandoned w ha) hl
  unfold World.workDrain
  split
  · rename_i d' _
    have hs := hr { s.worker w with pc := .draining d' } ⟨rfl, rfl⟩
    split
    · exact hs
    · refine hs.say nofun fun w' heq => ?_
      cases heq
      rw [World.setWorker_worker_self]
      exact h.not_detached hl
  · exact hr { s.worker w with pc := .exited } ⟨rfl, rfl⟩

lemma Guarded.work (hw : w < s.nextWorker) (hc : ReturnsLate s (.work w)) :
    Guarded (s.workPc w (s.worker w).pc) := by
  cases hpc : (s.worker w).pc with
  | waiting =>
    have hf := h.not_forgetting (w := w) (by rw [hpc]; exact nofun)
    have hle : (s.worker w).abandoned = true → False := by
      intro ha
      have hl := h.abandoned w ha
      rw [hpc] at hl
      exact hl
    simp only [workPc]
    split
    · refine h.setPc hw hf ?_ ?_
      · exact ⟨rfl, rfl⟩
      · exact fun ha => (hle ha).elim
    · split
      · exact h
      · refine h.setPc hw hf ?_ ?_
        · exact ⟨rfl, rfl⟩
        · exact fun ha => (hle ha).elim
  | running op =>
    simp only [workPc]
    split
    · rename_i hfi
      refine h.setPc hw ?_ ⟨rfl, rfl⟩ fun _ => trivial
      intro t rest op' erases ht
      have hfo : (s.threads t).forgets w = true := by
        rw [ht]
        exact decide_eq_true rfl
      have hfl : op ∈ (s.worker w).inFlight := by
        unfold ReaderWorker.inFlight
        rw [hpc]
        rfl
      exact hc t hfo op hfl hfi
    · exact h.aside (.finish (.refl s) op)
  | returned op =>
    have hf := h.not_forgetting (w := w) (by rw [hpc]; exact nofun)
    simp only [workPc]
    split
    · exact h.setPc hw hf ⟨rfl, rfl⟩ fun _ => trivial
    · next hfla => exact h.setPc hw hf ⟨rfl, rfl⟩ fun ha => absurd ha hfla
  | passing op =>
    have hf := h.not_forgetting (w := w) (by rw [hpc]; exact nofun)
    have hle : ¬ (s.worker w).pc.leaves := by
      rw [hpc]
      exact not_false
    have hta : Guarded { s with finishedOps := s.finishedOps ++ [op] } :=
      h.aside (.tables (.refl s) ⟨rfl, rfl, rfl, rfl⟩)
    have hs : Guarded (({ s with finishedOps := s.finishedOps ++ [op] }).setWorker w
        { s.worker w with pc := .waiting }) :=
      hta.setPc hw hf ⟨rfl, rfl⟩ fun ha => absurd (h.abandoned w ha) hle
    refine hs.say nofun fun w' heq => ?_
    cases heq
    rw [setWorker_worker_self]
    exact h.not_detached hle
  | quitting op =>
    have hf := h.not_forgetting (w := w) (by rw [hpc]; exact nofun)
    refine Guarded.aside (h.setPc hw hf ?_ ?_) (.destroy (.refl _) _)
    · exact ⟨rfl, rfl⟩
    · exact fun _ => trivial
  | draining d => exact h.workDrain hw hpc
  | exited => exact h

lemma Guarded.step {a : OpAction Tid Reader Client} (hc : ReturnsLate s a) :
    Guarded (s.step a) := by
  rcases step_cases s a with heq | ⟨op, -, heq⟩ | ⟨t, -, heq⟩ | ⟨w, rfl, hw, heq⟩ | ⟨t, -, -,
      heq⟩ <;> rw [heq]
  · exact h
  · exact h.aside (.cancel (.refl s) op)
  · exact h.go t
  · exact h.work hw hc
  · exact h.aside (.start s a)

end

end Steps

lemma guarded_start : Guarded ({} : World Tid Reader Client) := by
  refine ⟨fun _ _ => ⟨rfl, rfl, rfl⟩, nofun, nofun, nofun, nofun, nofun, ?_, trivial⟩
  rintro w (hw | hw) <;> cases hw

/-- a worker's thread that has been detached does not touch the members of the manager -/
theorem detached_worker_silent (actions : List (OpAction Tid Reader Client))
    (h : Along step ReturnsLate {} actions) (w : WorkerId) (newer older : List (OpEvent Client))
    (hlog : (run step {} actions).log = newer ++ .accessed w :: older) :
    .detached w ∉ older ∧ .abandoned w ∉ older := by
  have hg : Guarded (run step ({} : World Tid Reader Client) actions) :=
    run_invariant_along (fun s a hc hs => hs.step hc) guarded_start h
  have hsi := hg.silent
  rw [hlog] at hsi
  exact hsi.at

attribute [local instance] Runs.neZero_two

/-- a whole call of `publish` on thread 0 -/
def publishCall : List (OpAction (Fin 2) Nat Nat) :=
  .publish 0 0 none :: replicate 6 (.go 0)

/-- one operation is published and run, and a second one is run while thread 1 removes the reader;
it returns before the flag is set if `early`, and after it if not -/
def removalRun (early : Bool) : List (OpAction (Fin 2) Nat Nat) :=
  flatten [publishCall, replicate 5 (.work 0), publishCall, [.work 0],
    .removeReader 1 0 :: replicate 4 (.go 1), replicate (if early then 3 else 0) (.work 0),
    replicate 5 (.go 1), [.work 0]]

theorem detached_worker_silent_removal : Along step ReturnsLate {} (removalRun false) ∧
      ∃ newer older, (run step {} (removalRun false)).log = newer ++ .accessed 0 :: older ∧
        .detached 0 ∉ older ∧ .abandoned 0 ∉ older := by
  have hl : Along step ReturnsLate {} (removalRun false) := by decide +kernel
  have ha : .accessed 0 ∈ (run step {} (removalRun false)).log := by decide +kernel
  obtain ⟨newer, older, hlo⟩ := append_of_mem ha
  exact ⟨hl, newer, older, hlo, detached_worker_silent _ hl 0 newer older hlo⟩

/-- the operation returns just after the decision: the worker is detached, and goes on to the
finished list -/
theorem detached_worker_silent_fails :
    ∃ newer older, (run step {} (removalRun true)).log = newer ++ .accessed 0 :: older ∧
      .detached 0 ∈ older ∧ .abandoned 0 ∈ older :=
  ⟨[], (run step {} (removalRun true)).log.tail, by decide +kernel⟩

end LibreAgent.Operations
