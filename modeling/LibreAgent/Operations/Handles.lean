import Mathlib.Data.Fintype.Basic
import LibreAgent.Operations.OperationManager

/-!
# Who holds a worker

`publish` takes the handle of a worker from the table, and pushes its operation on that worker's
queue some steps later. `removeReader` takes the worker out of the table, stops it and empties its
queue.  If it does so in between, the operation is pushed on the queue of a worker that is gone.
-/

set_option linter.unusedSectionVars false

namespace LibreAgent.Operations

open List World

variable {Tid Reader Client : Type*} [DecidableEq Tid] [DecidableEq Reader] [DecidableEq Client]

/-- the handle that `publish` holds at a stage -/
def PublishStage.handle : PublishStage Reader Client → Option WorkerId
  | .minted _ _ => none
  | .holding w _ | .built w _ | .recorded w | .tracked w | .pushed w | .refused w => some w

def Thread.publishesOn (w : WorkerId) : Thread Reader Client → Bool
  | .publishing _ stage => stage.handle = some w
  | _ => false

def Thread.isPlain : Thread Reader Client → Bool
  | .publishing _ _ | .tearing _ _ _ => false
  | _ => true

def TearStage.emptied : TearStage → Bool
  | .stop | .takeQueue => false
  | _ => true

/-- readers are removed, and the manager is destroyed, only while no `publish` holds a worker
concerned -/
def Calm (s : World Tid Reader Client) : OpAction Tid Reader Client → Prop
  | .removeReader _ reader =>
    ∀ e ∈ s.workers, e.1 = reader → ∀ t, (s.threads t).publishesOn e.2 = false
  | .destruct _ => ∀ e ∈ s.workers, ∀ t, (s.threads t).publishesOn e.2 = false
  | _ => True

instance [Fintype Tid] (s : World Tid Reader Client) : ∀ a, Decidable (Calm s a)
  | .removeReader _ reader => inferInstanceAs (Decidable (∀ e ∈ s.workers, e.1 = reader →
      ∀ t, (s.threads t).publishesOn e.2 = false))
  | .destruct _ => inferInstanceAs (Decidable (∀ _ ∈ _, _))
  | .publish _ _ _ | .sweep _ _ | .disconnect _ _ | .cancel _ | .go _ | .work _ => .isTrue trivial

def WorkerPc.isLeaving : WorkerPc → Bool
  | .quitting _ | .draining _ | .exited => true
  | _ => false

structure TornDown (s : World Tid Reader Client) (w : WorkerId) (rest : List WorkerId)
    (stage : TearStage) :
    Prop where
  apart : ∀ w' ∈ w :: rest, w' < s.nextWorker ∧ ∀ r, (r, w') ∉ s.workers
  stop : stage ≠ .stop → (s.worker w).stop = true
  emptied : stage.emptied = true → (s.worker w).queue = []

structure Handles (s : World Tid Reader Client) : Prop where
  unmade : ∀ w, s.nextWorker ≤ w → s.worker w = {}
  table : ∀ r w, (r, w) ∈ s.workers →
    w < s.nextWorker ∧ .table ∈ (s.worker w).holders ∧ (s.worker w).stop = false
  single : (s.workers.map Prod.snd).Nodup
  held : ∀ t w, (s.threads t).publishesOn w = true → ∃ r, (r, w) ∈ s.workers
  torn : ∀ t w rest stage, s.threads t = .tearing w rest stage → TornDown s w rest stage
  leaving : ∀ w, (s.worker w).pc.isLeaving = true ∨ (s.worker w).abandoned = true →
    (s.worker w).stop = true ∧ (s.worker w).queue = []

/-! ## Steps on the tables of the operations -/

/-- nothing but the tables of the operations and the log has changed -/
structure OnTables (s s' : World Tid Reader Client) : Prop where
  worker : s'.worker = s.worker
  nextWorker : s'.nextWorker = s.nextWorker
  threads : s'.threads = s.threads
  workers : s'.workers = s.workers

namespace OnTables
variable (s : World Tid Reader Client)

lemma erase (e : Erase) : OnTables s (s.erase e) := by
  cases e with
  | fromIds op => exact ⟨rfl, rfl, rfl, rfl⟩
  | fromSenders op =>
    cases hs : s.opToSender op with
    | none | some =>
      simp only [World.erase, hs]
      exact ⟨rfl, rfl, rfl, rfl⟩

lemma finish (op : OperationId) : OnTables s (s.finish op) := by
  unfold World.finish
  split <;> exact ⟨rfl, rfl, rfl, rfl⟩

lemma cancel (op : OperationId) : OnTables s (s.cancel op) := by
  unfold World.cancel
  split <;> exact ⟨rfl, rfl, rfl, rfl⟩

lemma finishCardRemoved (op : OperationId) : OnTables s (s.finishCardRemoved op) := by
  obtain ⟨hw, hn, ht, hwo⟩ := finish (s.requestCancel op) op
  exact ⟨hw, hn, ht, hwo⟩

lemma drain (d : Drain) : OnTables s (s.drain d).1 := by
  match d with
  | ⟨e :: _, _, _⟩ => exact erase s e
  | ⟨[], op :: _, _⟩ => exact finishCardRemoved s op
  | ⟨[], [], _⟩ => exact ⟨rfl, rfl, rfl, rfl⟩

end OnTables

section Rules
variable {s s' : World Tid Reader Client}

lemma Handles.onTables (h : Handles s) (heq : OnTables s s') : Handles s' := by
  obtain ⟨counter, nextWorker, workers, worker, byId, senderToOps, opToSender, finishedOps,
      threads, log⟩ := s'
  obtain ⟨rfl, rfl, rfl, rfl⟩ := heq
  refine ⟨h.unmade, h.table, h.single, h.held, fun t w rest stage ht => ?_, h.leaving⟩
  obtain ⟨ha, hs, he⟩ := h.torn t w rest stage ht
  exact ⟨ha, hs, he⟩

variable {t : Tid} {thread : Thread Reader Client} {w : WorkerId} {worker : ReaderWorker Tid}
  {op : OperationId} {stage : PublishStage Reader Client} {rest ws : List WorkerId}
  {a : OpAction Tid Reader Client}

section
variable (h : Handles s)
include h

lemma Handles.setThread (hh : ∀ w, thread.publishesOn w = true → ∃ r, (r, w) ∈ s.workers)
    (hto : ∀ w rest stage, thread = .tearing w rest stage → TornDown s w rest stage) :
    Handles (s.setThread t thread) := by
  refine ⟨h.unmade, h.table, h.single, fun t' => ?_, fun t' w rest stage ht' => ?_, h.leaving⟩
  · exact s.setThread_cases t' hh fun _ => h.held t'
  · have hto' : TornDown s w rest stage := by
      revert ht'
      exact s.setThread_cases t' (hto w rest stage) fun _ => h.torn t' w rest stage
    obtain ⟨ha, hs, he⟩ := hto'
    exact ⟨ha, hs, he⟩

/-- a worker in the table keeps that handle and is not stopped; one that is torn down stays stopped
and empty -/
lemma Handles.setWorker (hw : w < s.nextWorker)
    (hta : ∀ r, (r, w) ∈ s.workers → .table ∈ worker.holders ∧ worker.stop = false)
    (hs : (s.worker w).stop = true → worker.stop = true)
    (hq : (s.worker w).stop = true → (s.worker w).queue = [] → worker.queue = [])
    (hl : worker.pc.isLeaving = true ∨ worker.abandoned = true →
      worker.stop = true ∧ worker.queue = []) : Handles (s.setWorker w worker) := by
  refine ⟨fun w' => ?_, fun r w' => ?_, h.single, h.held, fun t w' rest stage ht => ?_,
      fun w' => ?_⟩
  · exact s.setWorker_cases w' (fun hw' => absurd hw (Nat.not_lt.mpr hw')) fun _ => h.unmade w'
  · exact s.setWorker_cases w' (fun hr => ⟨hw, hta r hr⟩) fun _ => h.table r w'
  · have hto := h.torn t w' rest stage ht
    refine ⟨hto.apart, ?_, ?_⟩
    · revert hto
      exact s.setWorker_cases w' (fun hto hst => hs (hto.stop hst)) fun _ hto => hto.stop
    · revert hto
      refine s.setWorker_cases w' (fun hto hst => hq (hto.stop ?_) (hto.emptied hst)) fun _ hto =>
        hto.emptied
      rintro rfl
      cases hst
  · exact s.setWorker_cases w' hl fun _ => h.leaving w'

lemma Handles.setWorker_same (hw : w < s.nextWorker)
    (hh : .table ∈ (s.worker w).holders → .table ∈ worker.holders)
    (hs : worker.stop = (s.worker w).stop ∧ worker.queue = (s.worker w).queue)
    (hle : worker.pc.isLeaving = true ∨ worker.abandoned = true →
      (s.worker w).pc.isLeaving = true ∨ (s.worker w).abandoned = true) :
        Handles (s.setWorker w worker) := by
  refine h.setWorker hw ?_ ?_ ?_ ?_
  · intro r hr
    obtain ⟨-, ht, hst⟩ := h.table r w hr
    exact ⟨hh ht, hs.1.trans hst⟩
  · rw [hs.1]
    exact fun hst => hst
  · intro _ he
    exact hs.2.trans he
  · intro hl
    obtain ⟨hst, he⟩ := h.leaving w (hle hl)
    exact ⟨hs.1.trans hst, hs.2.trans he⟩

lemma Handles.setPc (hw : w < s.nextWorker) (pc : WorkerPc)
    (hl : pc.isLeaving = true → (s.worker w).pc.isLeaving = true ∨ (s.worker w).abandoned = true) :
    Handles (s.setWorker w { s.worker w with pc := pc }) :=
  h.setWorker_same hw id ⟨rfl, rfl⟩ fun hle => hle.elim hl .inr

lemma Handles.lt_of_published (ht : (s.threads t).publishesOn w = true) : w < s.nextWorker := by
  obtain ⟨r, hr⟩ := h.held t w ht
  exact (h.table r w hr).1

lemma Handles.alive (ht : (s.threads t).publishesOn w = true) :
    (s.worker w).stop = false ∧ (s.worker w).pc.isLeaving = false ∧
      (s.worker w).abandoned = false := by
  obtain ⟨r, hr⟩ := h.held t w ht
  have hs := (h.table r w hr).2.2
  refine ⟨hs, ?_, ?_⟩
  · by_contra hl
    rw [(h.leaving w (.inl (Bool.not_eq_false _ ▸ hl))).1] at hs
    cases hs
  · by_contra ha
    rw [(h.leaving w (.inr (Bool.not_eq_false _ ▸ ha))).1] at hs
    cases hs

/-! ## Steps -/

lemma Handles.say (events : List (OpEvent Client)) : Handles (s.say events) :=
  h.onTables ⟨rfl, rfl, rfl, rfl⟩

lemma Handles.destroy (ids : List OperationId) : Handles (s.destroy ids) := h.say _

end

lemma mem_workers_of_lookup {reader : Reader} (h : s.workers.lookup reader = some w) :
    (reader, w) ∈ s.workers := by
  obtain ⟨before, after, hs, -⟩ := lookup_eq_some_iff.mp h
  rw [hs]
  exact mem_append_right _ mem_cons_self

lemma Handles.setThread_plain (h : Handles s) (hp : thread.isPlain = true) :
    Handles (s.setThread t thread) := by
  refine h.setThread ?_ ?_
  · intro w hw
    cases thread with
    | publishing op stage => cases hp
    | _ => cases hw
  · rintro w rest stage rfl
    cases hp

lemma Handles.setStage (h : Handles s) (ht : (s.threads t).publishesOn w = true)
    (hs : stage.handle = some w) : Handles (s.setThread t (.publishing op stage)) := by
  refine h.setThread ?_ nofun
  intro w' hw'
  have heq : stage.handle = some w' := of_decide_eq_true hw'
  rw [hs] at heq
  cases heq
  exact h.held t w ht

lemma table_ne_thread (t : Tid) : (.table : Holder Tid) ≠ .thread t :=
  nofun

section
variable (h : Handles s)
include h

lemma Handles.release_published
    (ht : (s.threads t).publishesOn w = true) (events : List (OpEvent Client)) :
    s.release t w .idle events
      = ((s.setWorker w { s.worker w with
          holders := (s.worker w).holders.erase (.thread t) }).setThread t
        .idle).say events := by
  obtain ⟨r, hr⟩ := h.held t w ht
  have hm : .table ∈ (s.worker w).holders.erase (.thread t) :=
    (mem_erase_of_ne (table_ne_thread t)).mpr (h.table r w hr).2.1
  unfold release
  exact if_pos (ne_nil_of_mem hm)

lemma Handles.dropHandle (ht : (s.threads t).publishesOn w = true)
    (events : List (OpEvent Client)) : Handles (s.release t w .idle events) := by
  rw [h.release_published ht]
  refine Handles.say (Handles.setThread_plain
      (h.setWorker_same (h.lt_of_published ht) ?_ ?_ ?_) rfl) events
  · exact (mem_erase_of_ne (table_ne_thread t)).mpr
  · exact ⟨rfl, rfl⟩
  · exact fun hl => hl

lemma Handles.makeWorker (t : Tid) (reader : Reader) :
    Handles (({ s with
        nextWorker := s.nextWorker + 1, workers := (reader, s.nextWorker) :: s.workers }).setWorker
      s.nextWorker { holders := [.table, .thread t] }) := by
  have ho : ∀ w, w ≠ s.nextWorker →
      (({ s with nextWorker := s.nextWorker + 1, workers := (reader, s.nextWorker) ::
                   s.workers }).setWorker
        s.nextWorker { holders := [.table, .thread t] }).worker w = s.worker w := fun w hne =>
    setWorker_worker_of_ne _ hne _
  have hlt : ∀ r w, (r, w) ∈ s.workers → w ≠ s.nextWorker :=
    fun r w hr => Nat.ne_of_lt (h.table r w hr).1
  refine ⟨?_, ?_, ?_, ?_, ?_, ?_⟩
  · intro w hw
    rw [ho w (Nat.ne_of_gt hw)]
    exact h.unmade w (Nat.le_of_succ_le hw)
  · intro r w hr
    rcases mem_cons.mp hr with heq | hold
    · cases heq
      rw [setWorker_worker_self]
      exact ⟨Nat.lt_succ_self _, mem_cons_self, rfl⟩
    · rw [ho w (hlt r w hold)]
      obtain ⟨hw, hre⟩ := h.table r w hold
      exact ⟨Nat.lt_succ_of_lt hw, hre⟩
  · refine nodup_cons.mpr ⟨?_, h.single⟩
    intro hm
    obtain ⟨⟨r, w⟩, hr, hw⟩ := mem_map.mp hm
    exact hlt r w hr hw
  · intro t' w ht'
    obtain ⟨r, hr⟩ := h.held t' w ht'
    exact ⟨r, mem_cons_of_mem _ hr⟩
  · intro t' w rest stage ht'
    obtain ⟨hap, hs, he⟩ := h.torn t' w rest stage ht'
    have hne : w ≠ s.nextWorker := Nat.ne_of_lt (hap w mem_cons_self).1
    refine ⟨?_, ?_, ?_⟩
    · intro w' hw'
      obtain ⟨hlt', hn⟩ := hap w' hw'
      refine ⟨Nat.lt_succ_of_lt hlt', fun r hr => ?_⟩
      rcases mem_cons.mp hr with heq | hold
      · cases heq
        exact absurd hlt' (Nat.lt_irrefl _)
      · exact hn r hold
    · rw [ho w hne]
      exact hs
    · rw [ho w hne]
      exact he
  · intro w
    by_cases hne : w = s.nextWorker
    · subst hne
      rw [setWorker_worker_self]
      rintro (hl | ha)
      · cases hl
      · cases ha
    · rw [ho w hne]
      exact h.leaving w

lemma Handles.workerFor (t : Tid) (reader : Reader) (op : OperationId) (caller : Option Client) :
    Handles (s.workerFor t reader fun w => .publishing op (.holding w caller)) := by
  unfold World.workerFor
  split
  · rename_i w hlo
    have hr : (reader, w) ∈ s.workers := mem_workers_of_lookup hlo
    refine Handles.setThread (h.setWorker_same (h.table reader w hr).1 ?_ ?_ ?_) ?_ nofun
    · exact mem_cons_of_mem _
    · exact ⟨rfl, rfl⟩
    · exact fun hl => hl
    · intro w' hw'
      have heq : some w = some w' := of_decide_eq_true hw'
      cases heq
      exact ⟨reader, hr⟩
  · refine Handles.setThread (h.makeWorker t reader) ?_ nofun
    intro w' hw'
    have heq : some s.nextWorker = some w' := of_decide_eq_true hw'
    cases heq
    exact ⟨reader, mem_cons_self⟩

lemma Handles.goPublish (ht : s.threads t = .publishing op stage) :
    Handles (s.goPublish t op stage) := by
  have hh : ∀ w, stage.handle = some w → (s.threads t).publishesOn w = true := by
    intro w hw
    rw [ht]
    exact decide_eq_true hw
  cases stage with
  | minted reader caller => exact h.workerFor t reader op caller
  | holding w caller =>
    simp only [goPublish]
    split <;> exact h.setStage (hh w rfl) rfl
  | built w caller =>
    cases caller with
    | none => exact h.setStage (hh w rfl) rfl
    | some client =>
      have hre : Handles (s.recordSender op client) := h.onTables ⟨rfl, rfl, rfl, rfl⟩
      exact hre.setStage (hh w rfl) rfl
  | recorded w =>
    have hi : Handles { s with byId := op :: s.byId } := h.onTables ⟨rfl, rfl, rfl, rfl⟩
    exact hi.setStage (hh w rfl) rfl
  | tracked w =>
    obtain ⟨hst, hle, hab⟩ := h.alive (hh w rfl)
    have hp : Handles (s.setWorker w { s.worker w with queue := (s.worker w).queue ++ [op] }) := by
      refine h.setWorker (h.lt_of_published (hh w rfl)) ?_ ?_ ?_ ?_
      · intro r hr
        exact (h.table r w hr).2
      · exact fun hs => hs
      · intro hs
        rw [hst] at hs
        cases hs
      · rintro (hl | ha)
        · rw [hle] at hl
          cases hl
        · rw [hab] at ha
          cases ha
    exact hp.setStage (hh w rfl) rfl
  | pushed w | refused w => exact h.dropHandle (hh w rfl) _

lemma Handles.setTear {stage next : TearStage} (ht : s.threads t = .tearing w rest stage)
    (hs : (s.worker w).stop = true) (he : next.emptied = true → (s.worker w).queue = []) :
    Handles (s.setThread t (.tearing w rest next)) := by
  refine h.setThread nofun ?_
  intro w' rest' stage' heq
  cases heq
  exact ⟨(h.torn t w rest stage ht).apart, fun _ => hs, he⟩

lemma Handles.tearNext (hws : ∀ w ∈ ws, w < s.nextWorker ∧ ∀ r, (r, w) ∉ s.workers) :
    Handles (s.setThread t (tearNext ws)) := by
  cases ws with
  | nil => exact h.setThread_plain rfl
  | cons w rest =>
    refine h.setThread nofun ?_
    intro w' rest' stage' heq
    cases heq
    exact ⟨hws, absurd rfl, nofun⟩

lemma Handles.dropTorn (ht : s.threads t = .tearing w rest .drop) :
    Handles (s.release t w (World.tearNext rest) []) := by
  obtain ⟨ha, hst, hem⟩ := h.torn t w rest .drop ht
  obtain ⟨hw, hn⟩ := ha w mem_cons_self
  have hre : ∀ w' ∈ rest, w' < s.nextWorker ∧ ∀ r, (r, w') ∉ s.workers := fun w' hw' =>
    ha w' (mem_cons_of_mem _ hw')
  unfold World.release
  split
  · have hse : Handles (s.setWorker w { s.worker w with
        holders := (s.worker w).holders.erase (.thread t) }) :=
      h.setWorker_same hw (mem_erase_of_ne (table_ne_thread t)).mpr ⟨rfl, rfl⟩ fun hl => hl
    exact (hse.tearNext hre).say _
  · split
    · have hse : Handles (s.setWorker w { s.worker w with holders := [], queue := [] }) := by
        refine h.setWorker hw (fun r hr => absurd hr (hn r)) (fun hs => hs) (fun _ _ => rfl) ?_
        intro hl
        exact ⟨(h.leaving w hl).1, rfl⟩
      exact ((hse.destroy _).tearNext hre).say _
    · refine h.setWorker hw (fun r hr => absurd hr (hn r)) (fun _ => rfl) (fun _ he => he) ?_
      intro hl
      exact ⟨rfl, (h.leaving w hl).2⟩

/-- the worker that is torn down is stopped, and stays empty once it is -/
lemma Handles.tearOn {stage : TearStage} (ht : s.threads t = .tearing w rest stage)
    (worker : ReaderWorker Tid) (next : TearStage) (hs : worker.stop = true)
    (hq : (s.worker w).queue = [] → worker.queue = [])
    (hl : worker.pc.isLeaving = true ∨ worker.abandoned = true → worker.queue = [])
    (he : next.emptied = true → worker.queue = []) (events : List (OpEvent Client)) :
    Handles (((s.setWorker w worker).say events).setThread t (.tearing w rest next)) := by
  obtain ⟨hw, hn⟩ := (h.torn t w rest stage ht).apart w mem_cons_self
  have hse :=
    h.setWorker hw (fun r hr => absurd hr (hn r)) (fun _ => hs) (fun _ => hq) fun hle =>
      ⟨hs, hl hle⟩
  have hwo : ((s.setWorker w worker).say events).worker w = worker := setWorker_worker_self ..
  refine (hse.say events).setTear ht ?_ ?_
  · rw [hwo]
    exact hs
  · rw [hwo]
    exact he

lemma Handles.goTear {stage : TearStage}
    (ht : s.threads t = .tearing w rest stage) : Handles (s.goTear t w rest stage) := by
  obtain ⟨ha, hst, hem⟩ := h.torn t w rest stage ht
  have hle : (s.worker w).pc.isLeaving = true ∨ (s.worker w).abandoned = true →
    (s.worker w).queue = [] := fun hl =>
    (h.leaving w hl).2
  have hta (hst : (s.worker w).stop = true) (hem : (s.worker w).queue = [])
    {s' : World Tid Reader Client}
      (hot : OnTables s s') (next : TearStage) :
        Handles (s'.setThread t (.tearing w rest next)) := by
    refine (h.onTables hot).setTear (hot.threads ▸ ht) ?_ fun _ => ?_
    · rw [hot.worker]
      exact hst
    · rw [hot.worker]
      exact hem
  cases stage with
  | stop => exact h.tearOn ht { s.worker w with stop := true } .takeQueue rfl id hle nofun []
  | takeQueue =>
    exact h.tearOn ht { s.worker w with queue := [] } (.drain _ _) (hst nofun) (fun _ => rfl)
      (fun _ => rfl) (fun _ => rfl) _
  | drain inFlight d =>
    simp only [World.goTear]
    split <;> exact hta (hst nofun) (hem rfl) (.drain s d) _
  | decide op =>
    simp only [World.goTear]
    split <;> exact hta (hst nofun) (hem rfl) ⟨rfl, rfl, rfl, rfl⟩ _
  | forget op erases =>
    cases erases with
    | cons e erases => exact hta (hst nofun) (hem rfl) (.erase s e) _
    | nil =>
      exact h.tearOn ht { s.worker w with abandoned := true } .detach (hst nofun) id
        (fun _ => hem rfl) (fun _ => hem rfl) []
  | detach =>
    exact h.tearOn ht { s.worker w with detached := true } .park (hst nofun) id hle
      (fun _ => hem rfl) _
  | park =>
    have hse : Handles (s.setWorker w
        { s.worker w with holders := .zombies :: (s.worker w).holders.erase (.thread t) }) :=
      h.setWorker_same (ha w mem_cons_self).1
        (fun hta => mem_cons_of_mem _ ((mem_erase_of_ne (table_ne_thread t)).mpr hta))
          ⟨rfl, rfl⟩ fun hl => hl
    exact (hse.tearNext fun w' hw' => ha w' (mem_cons_of_mem _ hw')).say _
  | drop => exact h.dropTorn ht

lemma Handles.go (t : Tid) : Handles (s.goThread t (s.threads t)) := by
  cases ht : s.threads t with
  | idle => exact h
  | publishing op stage => exact h.goPublish ht
  | tearing w rest stage => exact h.goTear ht
  | sweeping d =>
    simp only [goThread]
    split <;> exact (h.onTables (.drain s d)).setThread_plain rfl
  | cancelling client ids =>
    cases ids with
    | nil => exact h.setThread_plain rfl
    | cons op ids => exact (h.onTables (.cancel s op)).setThread_plain rfl

lemma Handles.work (hw : w < s.nextWorker) :
    Handles (s.workPc w (s.worker w).pc) := by
  cases hpc : (s.worker w).pc with
  | waiting =>
    simp only [workPc]
    split
    · rename_i hst
      refine h.setWorker hw ?_ ?_ ?_ ?_
      · intro r hr
        have hn := (h.table r w hr).2.2
        rw [hst] at hn
        cases hn
      · exact fun hs => hs
      · exact fun _ _ => rfl
      · exact fun _ => ⟨hst, rfl⟩
    · rename_i hst
      split
      · exact h
      · refine h.setWorker hw ?_ ?_ ?_ ?_
        · exact fun r hr => (h.table r w hr).2
        · exact fun hs => hs
        · exact fun hs => absurd hs hst
        · rintro (hl | ha)
          · cases hl
          · exact absurd (h.leaving w (.inr ha)).1 hst
  | running op =>
    simp only [workPc]
    split
    · exact h.setPc hw _ nofun
    · exact h.onTables (.finish s op)
  | returned op =>
    simp only [workPc]
    split
    · next hf => exact h.setPc hw _ fun _ => .inr hf
    · exact h.setPc hw _ nofun
  | passing op =>
    have hli : Handles { s with finishedOps := s.finishedOps ++ [op] } :=
      h.onTables ⟨rfl, rfl, rfl, rfl⟩
    exact (hli.setPc hw .waiting nofun).say _
  | quitting op => exact (h.setPc hw _ fun _ => .inl (by rw [hpc]; rfl)).destroy _
  | draining d =>
    have hd := OnTables.drain s d
    have hse : ∀ pc, Handles ((s.drain d).1.setWorker w { s.worker w with pc := pc }) := by
      intro pc
      have hp := (h.onTables hd).setPc (hd.nextWorker ▸ hw) pc
      rw [hd.worker, hpc] at hp
      exact hp fun _ => .inl rfl
    simp only [workPc, workDrain]
    split
    · exact (hse _).say _
    · exact hse _
  | exited => exact h

lemma Handles.hand (hw : w < s.nextWorker ∧ ∀ r, (r, w) ∉ s.workers) : Handles (s.hand t w) := by
  refine h.setWorker hw.1 (fun r hr => absurd hr (hw.2 r)) (fun hs => hs) (fun _ he => he) ?_
  exact h.leaving w

lemma Handles.handAll
    (hws : ∀ w ∈ ws, w < s.nextWorker ∧ ∀ r, (r, w) ∉ s.workers) : Handles (s.handAll t ws) := by
  induction ws generalizing s with
  | nil => exact h
  | cons w ws ih =>
    exact ih (h.hand (hws w mem_cons_self)) fun w' hw' => hws w' (mem_cons_of_mem _ hw')

end

lemma handAll_workers (t : Tid) (ws : List WorkerId) (s : World Tid Reader Client) :
    (s.handAll t ws).workers = s.workers ∧ (s.handAll t ws).nextWorker = s.nextWorker := by
  induction ws generalizing s with
  | nil => exact ⟨rfl, rfl⟩
  | cons w ws ih => exact ih (s.hand t w)

lemma Handles.unlist (h : Handles s) {workers : List (Reader × WorkerId)}
    (hsu : workers.Sublist s.workers)
    (hc : ∀ e ∈ s.workers, e ∉ workers → ∀ t, (s.threads t).publishesOn e.2 = false) :
    Handles { s with workers := workers } := by
  refine ⟨h.unmade, fun r w hr => h.table r w (hsu.subset hr), h.single.sublist (hsu.map _), ?_,
      ?_, h.leaving⟩
  · intro t w ht
    obtain ⟨r, hr⟩ := h.held t w ht
    by_cases hin : (r, w) ∈ workers
    · exact ⟨r, hin⟩
    · have hn := hc (r, w) hr hin t
      rw [ht] at hn
      cases hn
  · intro t w rest stage ht
    obtain ⟨ha, hs, he⟩ := h.torn t w rest stage ht
    refine ⟨?_, hs, he⟩
    intro w' hw'
    exact ⟨(ha w' hw').1, fun r hr => (ha w' hw').2 r (hsu.subset hr)⟩

lemma Handles.reader_eq (h : Handles s) {r r' : Reader} (hr : (r, w) ∈ s.workers)
    (hr' : (r', w) ∈ s.workers) : r = r' := by
  have hi := inj_on_of_nodup_map h.single hr hr' rfl
  cases hi
  rfl

lemma Handles.start (h : Handles s) (hc : Calm s a) : Handles (s.start a) := by
  cases a with
  | publish t reader caller =>
    have hco : Handles { s with counter := s.counter + 1 } := h.onTables ⟨rfl, rfl, rfl, rfl⟩
    exact hco.setThread nofun nofun
  | removeReader t reader =>
    simp only [start]
    split
    · exact h
    · rename_i w hl
      have hr := mem_workers_of_lookup hl
      have hu : Handles { s with workers := s.workers.filter fun e => e.1 ≠ reader } := by
        refine h.unlist filter_sublist ?_
        intro e he hn t'
        refine hc e he ?_ t'
        by_contra hne
        exact hn (mem_filter.mpr ⟨he, decide_eq_true hne⟩)
      have hg : w < s.nextWorker ∧ ∀ r, (r, w) ∉ s.workers.filter fun e => e.1 ≠ reader := by
        refine ⟨(h.table reader w hr).1, fun r hin => ?_⟩
        obtain ⟨hold, hne⟩ := mem_filter.mp hin
        exact of_decide_eq_true hne (h.reader_eq hold hr)
      refine (hu.hand (t := t) hg).setThread nofun ?_
      intro w' rest stage heq
      cases heq
      refine ⟨?_, absurd rfl, nofun⟩
      intro w' hw'
      rw [mem_singleton.mp hw']
      exact hg
  | destruct t =>
    have hu : Handles { s with workers := [] } := h.unlist (nil_sublist _) fun e he _ => hc e he
    have hws : ∀ w ∈ s.workers.map Prod.snd, w < s.nextWorker ∧
      ∀ r, (r, w) ∉ ([] : List (Reader × WorkerId)) := by
      intro w hw
      obtain ⟨⟨r, w'⟩, hr, rfl⟩ := mem_map.mp hw
      exact ⟨(h.table r w' hr).1, fun _ => not_mem_nil⟩
    refine (hu.handAll (t := t) hws).tearNext ?_
    rw [(handAll_workers t _ _).1, (handAll_workers t _ _).2]
    exact hws
  | sweep t aged =>
    have ht : Handles { s with finishedOps := s.finishedOps.drop aged } :=
      h.onTables ⟨rfl, rfl, rfl, rfl⟩
    exact ht.setThread_plain rfl
  | disconnect t client =>
    refine Handles.say (Handles.setThread_plain (h.onTables ?_) rfl) _
    exact ⟨rfl, rfl, rfl, rfl⟩
  | cancel | go | work => exact h

lemma Handles.step (h : Handles s) (hc : Calm s a) : Handles (s.step a) := by
  rcases step_cases s a with heq | ⟨op, -, heq⟩ | ⟨t, -, heq⟩ | ⟨w, -, hw, heq⟩ | ⟨t, -, -, heq⟩ <;>
    rw [heq]
  · exact h
  · exact h.onTables (.cancel s op)
  · exact h.go t
  · exact h.work hw
  · exact h.start hc

end Rules

lemma handles_start : Handles ({} : World Tid Reader Client) :=
  ⟨fun _ _ => rfl, nofun, nodup_nil, nofun, nofun, nofun⟩

end LibreAgent.Operations
