import LibreAgent.Operations.Handles

/-!
# Clients that go away

`publish` records the sender of an operation in one section and puts the operation into the table of
ids in the next. `dispatchClientDisconnect` takes the ids of the client from the first table, and
then cancels them through the second.  An id that it looks up between the two sections is not there
yet, and is not recorded for the client any more either.

* `client_loss_cancels` : an operation is cancelled if its client goes away.
-/

set_option linter.unusedSectionVars false

namespace LibreAgent.Operations

open Runs List World Function

variable {Tid Reader Client : Type*} [DecidableEq Tid] [DecidableEq Reader] [DecidableEq Client]

/-! ## Conditions -/

/-- `publish` has recorded the sender of the operation, and has not yet put it into the table of ids
-/
def Thread.inserts (op : OperationId) : Thread Reader Client → Bool
  | .publishing id (.recorded _) => id = op
  | _ => false

def Thread.dispatchesFor (client : Client) : Thread Reader Client → Bool
  | .cancelling c _ => c = client
  | _ => false

def Thread.nextCancel : Thread Reader Client → Option OperationId
  | .cancelling _ (op :: _) => some op
  | _ => none

/-- an operation is in the table of ids before the loss of its client reaches it; no reader is
removed and the manager is not destroyed -/
def InsertedFirst (s : World Tid Reader Client) : OpAction Tid Reader Client → Prop
  | .go t => ∀ op ∈ (s.threads t).nextCancel, ∀ t', (s.threads t').inserts op = false
  | .removeReader _ _ | .destruct _ | .sweep _ _ => False
  | _ => True

instance [Fintype Tid] (s : World Tid Reader Client) : ∀ a, Decidable (InsertedFirst s a)
  | .go t =>
    inferInstanceAs (Decidable (∀ op ∈ (s.threads t).nextCancel, ∀ t', (s.threads t').inserts op =
      false))
  | .removeReader _ _ | .destruct _ | .sweep _ _ => .isFalse id
  | .publish _ _ _ | .disconnect _ _ | .cancel _ | .work _ => .isTrue trivial

lemma InsertedFirst.calm {s : World Tid Reader Client} {a : OpAction Tid Reader Client}
    (h : InsertedFirst s a) : Calm s a := by
  cases a with
  | removeReader | destruct => exact h.elim
  | _ => trivial

/-! ## The invariant -/

def Pending (s : World Tid Reader Client) (op : OperationId) (client : Client) : Prop :=
  .cancelRequested op ∈ s.log ∨ ∃ t ids, s.threads t = .cancelling client ids ∧ op ∈ ids

def Thread.isOrdinary : Thread Reader Client → Bool
  | .tearing _ _ _ | .sweeping _ => false
  | _ => true

def Thread.isEarly : Thread Reader Client → Bool
  | .publishing _ (.recorded _) | .cancelling _ _ => false
  | _ => true

def OpEvent.isPlain : OpEvent Client → Bool
  | .recorded _ _ | .disconnected _ => false
  | _ => true

structure Loss (s : World Tid Reader Client) : Prop where
  ordinary : ∀ t, (s.threads t).isOrdinary = true
  running : ∀ w, (s.worker w).stop = false
  listed : ∀ op client, .recorded op client ∈ s.log → op ∈ s.senderToOps client ∨
    Pending s op client
  inserted : ∀ op client, .recorded op client ∈ s.log →
    op ∈ s.byId ∨ ∃ t, (s.threads t).inserts op = true
  lost : ∀ op client, Then (.recorded op client) (.disconnected client) s.log → Pending s op client

section Rules
variable {s s' : World Tid Reader Client} {op : OperationId} {client : Client}
variable {t : Tid} {thread : Thread Reader Client} {events : List (OpEvent Client)} {w : WorkerId}

lemma Pending.setThread (h : Pending s op client)
    (hth : ∀ ids, s.threads t = .cancelling client ids → op ∉ ids) (thread : Thread Reader Client) :
    Pending (s.setThread t thread) op client := by
  rcases h with h | ⟨t', ids, ht', hop⟩
  · exact .inl h
  · refine .inr ⟨t', ids, ?_, hop⟩
    rw [setThread_threads_of_ne]
    · exact ht'
    · rintro rfl
      exact hth ids ht' hop

lemma inserts_setThread (hth : (s.threads t).inserts op = false)
    (h : op ∈ s.byId ∨ ∃ t', (s.threads t').inserts op = true) :
    op ∈ s.byId ∨ ∃ t', ((s.setThread t thread).threads t').inserts op = true := by
  refine h.imp_right fun ⟨t', ht'⟩ => ⟨t', ?_⟩
  rw [setThread_threads_of_ne]
  · exact ht'
  · rintro rfl
    rw [hth] at ht'
    cases ht'

lemma recorded_of_plain {past : List (OpEvent Client)} (he : ∀ e ∈ events, e.isPlain = true)
    (h : .recorded op client ∈ events ++ past) : .recorded op client ∈ past := by
  rcases mem_append.mp h with h | h
  · have hp := he _ h
    cases hp
  · exact h

section
variable (h : Loss s)
include h

lemma Loss.carry (events : List (OpEvent Client)) (hl : s'.log = events ++ s.log)
    (he : ∀ e ∈ events, e.isPlain = true) (hs : s'.senderToOps = s.senderToOps)
    (ho : ∀ t, (s'.threads t).isOrdinary = true) (hr : ∀ w, (s'.worker w).stop = false)
    (hp : ∀ op client, .recorded op client ∈ s.log → Pending s op client → Pending s' op client)
    (hi : ∀ op, (op ∈ s.byId ∨ ∃ t, (s.threads t).inserts op = true) →
      op ∈ s'.byId ∨ ∃ t, (s'.threads t).inserts op = true) : Loss s' := by
  refine ⟨ho, hr, fun op client hre => ?_, fun op client hre => ?_, fun op client ht => ?_⟩
  · rw [hl] at hre
    have hold := recorded_of_plain he hre
    rw [hs]
    exact (h.listed op client hold).imp_right (hp op client hold)
  · rw [hl] at hre
    exact hi op (h.inserted op client (recorded_of_plain he hre))
  · rw [hl] at ht
    have hold := ht.of_append fun hin => nomatch he _ hin
    exact hp op client hold.mem (h.lost op client hold)

lemma Loss.setThread (he : (s.threads t).isEarly = true)
    (ho : thread.isOrdinary = true) : Loss (s.setThread t thread) := by
  refine h.carry [] rfl nofun rfl (fun t' => ?_) h.running ?_ fun op => inserts_setThread ?_
  · exact s.setThread_cases t' ho fun _ => h.ordinary t'
  · refine fun op client _ hp => hp.setThread (fun ids ht => ?_) thread
    rw [ht] at he
    cases he
  · unfold Thread.inserts
    split
    · rename_i ht
      rw [ht] at he
      cases he
    · rfl

lemma Loss.setWorker {worker : ReaderWorker Tid} (hs : worker.stop = false) :
    Loss (s.setWorker w worker) :=
  ⟨h.ordinary, fun w' => s.setWorker_cases w' hs fun _ => h.running w', h.listed,
      h.inserted, h.lost⟩

lemma Loss.say (he : ∀ e ∈ events, e.isPlain = true) : Loss (s.say events) :=
  h.carry events rfl he rfl h.ordinary h.running (fun _ _ _ hp => hp.imp_left (mem_append_right _))
    fun _ hin => hin

lemma Loss.other {counter nextWorker : Nat} {workers : List (Reader × WorkerId)}
    {finishedOps : List OperationId} : Loss { s with counter, nextWorker, workers, finishedOps } :=
  { h with }

lemma Loss.cancel (op : OperationId) : Loss (s.cancel op) := by
  unfold World.cancel
  split
  · exact h.say (by simp [OpEvent.isPlain])
  · exact h

lemma Loss.finish (op : OperationId) : Loss (s.finish op) := by
  unfold World.finish
  split
  · exact h
  · exact h.say (by simp [OpEvent.isPlain])

/-! ## Steps and runs -/

/-- a sender is recorded: the operation is in its hands, and about to be inserted -/
lemma Loss.record (ht : s.threads t = .publishing op (.built w (some client))) :
    Loss ((s.recordSender op client).setThread t (.publishing op (.recorded w))) := by
  have he : (s.threads t).isEarly = true := by
    rw [ht]
    rfl
  have hs : Loss (s.setThread t (.publishing op (.recorded w))) := h.setThread he rfl
  have hpe : ∀ {op' client'}, Pending (s.setThread t (.publishing op (.recorded w))) op' client' →
      Pending ((s.recordSender op client).setThread t (.publishing op (.recorded w))) op' client' :=
    fun hp => hp.imp_left (mem_cons_of_mem _)
  refine ⟨hs.ordinary, hs.running, ?_, ?_, ?_⟩
  · intro op' client' hr
    show op' ∈ update s.senderToOps client (op :: s.senderToOps client) client' ∨ _
    rcases mem_cons.mp hr with heq | hold
    · cases heq
      rw [update_self]
      exact .inl mem_cons_self
    · refine (hs.listed op' client' hold).imp (fun hl => ?_) hpe
      rcases eq_or_ne client' client with rfl | hc
      · rw [update_self]
        exact mem_cons_of_mem _ hl
      · rw [update_of_ne hc]
        exact hl
  · intro op' client' hr
    rcases mem_cons.mp hr with heq | hold
    · cases heq
      refine .inr ⟨t, ?_⟩
      rw [setThread_threads_self]
      exact decide_eq_true rfl
    · exact hs.inserted op' client' hold
  · intro op' client' hth
    have hn : Then (.recorded op' client') (.disconnected client')
      ([.recorded op client] ++ s.log) := hth
    exact hpe (hs.lost op' client' (hn.of_append nofun))

lemma Loss.insert (ht : s.threads t = .publishing op (.recorded w)) :
    Loss (({ s with byId := op :: s.byId }).setThread t (.publishing op (.tracked w))) := by
  refine h.carry [] rfl nofun rfl (fun t' => ?_) h.running ?_ ?_
  · exact setThread_cases _ t' rfl fun _ => h.ordinary t'
  · exact fun op' client' _ hp => hp.setThread (by rw [ht]; nofun) _
  · intro op' hin
    by_cases heq : op = op'
    · exact .inl (heq ▸ mem_cons_self)
    · refine (inserts_setThread ?_ hin).imp_left (mem_cons_of_mem _)
      rw [ht]
      exact decide_eq_false heq

/-- a client goes away: what was recorded for it is on the list of the dispatch -/
lemma Loss.disconnect (hi : s.threads t = .idle) (client : Client) :
    Loss (s.start (.disconnect t client)) := by
  have hpe : ∀ {op client'}, Pending s op client' →
    Pending (s.start (.disconnect t client)) op client' :=
    fun hp => (hp.setThread (by rw [hi]; nofun) _).imp_left (mem_cons_of_mem _)
  have hs : (s.start (.disconnect t client)).threads t = .cancelling client
    (s.senderToOps client) :=
    setThread_threads_self _ t _
  have ht : ∀ op client', .recorded op client' ∈ s.log →
      (client' ≠ client ∧ op ∈ s.senderToOps client') ∨
        Pending (s.start (.disconnect t client)) op client' := by
    intro op client' hr
    rcases h.listed op client' hr with hl | hp
    · rcases eq_or_ne client' client with rfl | hc
      · exact .inr (.inr ⟨t, _, hs, hl⟩)
      · exact .inl ⟨hc, hl⟩
    · exact .inr (hpe hp)
  have hold : ∀ op client', .recorded op client' ∈ (s.start (.disconnect t client)).log →
      .recorded op client' ∈ s.log := fun op client' hr =>
    (mem_cons.mp hr).resolve_left nofun
  refine ⟨fun t' => ?_, h.running, ?_, ?_, ?_⟩
  · exact setThread_cases _ t' rfl fun _ => h.ordinary t'
  · intro op client' hr
    refine (ht op client' (hold op client' hr)).imp_left fun ⟨hc, hl⟩ => ?_
    show op ∈ update s.senderToOps client [] client'
    rw [update_of_ne hc]
    exact hl
  · intro op client' hr
    refine inserts_setThread ?_ (h.inserted op client' (hold op client' hr))
    show (s.threads t).inserts op = false
    rw [hi]
    rfl
  · intro op client' hth
    rcases then_cons_iff.mp hth with ⟨heq, hr⟩ | hpa
    · -- the dispatch that starts now
      cases heq
      exact (ht op client hr).resolve_left fun ho => ho.1 rfl
    · exact hpe (h.lost op client' hpa)

lemma Loss.cancelNext {ids : List OperationId} (ht : s.threads t = .cancelling client (op :: ids))
    (hf : ∀ t', (s.threads t').inserts op = false) :
    Loss ((s.cancel op).setThread t (.cancelling client ids)) := by
  have hc := h.cancel op
  have hth : (s.cancel op).threads = s.threads := (OnTables.cancel s op).threads
  have hi : (s.cancel op).byId = s.byId := by
    unfold World.cancel
    split <;> rfl
  have hr : ∀ client', .recorded op client' ∈ (s.cancel op).log →
    .cancelRequested op ∈ (s.cancel op).log := by
    intro client' hre
    rcases hc.inserted op client' hre with hin | ⟨t', ht'⟩
    · rw [hi] at hin
      unfold World.cancel
      rw [if_pos hin]
      exact mem_cons_self
    · rw [hth, hf t'] at ht'
      cases ht'
  refine hc.carry [] rfl nofun rfl (fun t' => ?_) hc.running ?_ fun op' => inserts_setThread ?_
  · exact World.setThread_cases _ t' rfl fun _ => hc.ordinary t'
  · rintro op' client' hre (hreq | ⟨t', ids', ht', hop⟩)
    · exact .inl hreq
    · rw [hth] at ht'
      by_cases hne : t' = t
      · rw [hne, ht] at ht'
        cases ht'
        rcases mem_cons.mp hop with rfl | hin
        · exact .inl (hr client hre)
        · exact .inr ⟨t, ids, World.setThread_threads_self _ t _, hin⟩
      · refine .inr ⟨t', ids', ?_, hop⟩
        rw [World.setThread_threads_of_ne _ hne, hth]
        exact ht'
  · rw [hth, ht]
    rfl

lemma Loss.cancelled (ht : s.threads t = .cancelling client []) : Loss (s.setThread t .idle) := by
  refine h.carry [] rfl nofun rfl (fun t' => ?_) h.running ?_ fun op => inserts_setThread ?_
  · exact s.setThread_cases t' rfl fun _ => h.ordinary t'
  · refine fun op client' _ hp => hp.setThread (fun ids heq => ?_) .idle
    cases ht.symm.trans heq
    exact not_mem_nil
  · rw [ht]
    rfl

lemma Loss.goPublish (hh : Handles s) {op : OperationId} {stage : PublishStage Reader Client}
    (ht : s.threads t = .publishing op stage) : Loss (s.goPublish t op stage) := by
  have hea : (Thread.publishing op stage).isEarly = true → (s.threads t).isEarly = true := by
    intro he
    rw [ht]
    exact he
  have hr : ∀ w, stage.handle = some w → (Thread.publishing op stage).isEarly = true →
      ∀ events : List (OpEvent Client), (∀ e ∈ events, e.isPlain = true) →
        Loss (s.release t w .idle events) := by
    intro w hw he events hev
    have hon : (s.threads t).publishesOn w = true := by
      rw [ht]
      exact decide_eq_true hw
    rw [hh.release_published hon]
    have hs : Loss (s.setWorker w { s.worker w with
        holders := (s.worker w).holders.erase (.thread t) }) :=
      h.setWorker (h.running w)
    exact (hs.setThread (hea he) rfl).say hev
  cases stage with
  | minted reader caller =>
    simp only [World.goPublish, World.workerFor]
    split
    · rename_i w _
      have hs : Loss (s.setWorker w { s.worker w with
          holders := .thread t :: (s.worker w).holders }) :=
        h.setWorker (h.running w)
      exact hs.setThread (hea rfl) rfl
    · have hm : Loss { s with
          nextWorker := s.nextWorker + 1
          workers := (reader, s.nextWorker) :: s.workers } := h.other
      exact Loss.setThread (hm.setWorker rfl) (hea rfl) rfl
  | holding w caller =>
    simp only [World.goPublish]
    split <;> exact h.setThread (hea rfl) rfl
  | built w caller =>
    cases caller with
    | none => exact h.setThread (hea rfl) rfl
    | some client => exact h.record ht
  | recorded w => exact h.insert ht
  | tracked w =>
    have hs : Loss (s.setWorker w { s.worker w with queue := (s.worker w).queue ++ [op] }) :=
      h.setWorker (h.running w)
    exact hs.setThread (hea rfl) rfl
  | pushed w => exact hr w rfl rfl _ (by simp [OpEvent.isPlain])
  | refused w => exact hr w rfl rfl _ (forall_mem_nil _)

lemma Loss.work (hh : Handles s) (w : WorkerId) :
    Loss (s.workPc w (s.worker w).pc) := by
  have hle : ¬ ((s.worker w).pc.isLeaving = true ∨ (s.worker w).abandoned = true) := by
    intro hl
    have hs := (hh.leaving w hl).1
    rw [h.running w] at hs
    cases hs
  cases hpc : (s.worker w).pc with
  | waiting =>
    simp only [workPc]
    split
    · rename_i hs
      rw [h.running w] at hs
      cases hs
    · split
      · exact h
      · exact h.setWorker (h.running w)
  | running op =>
    simp only [workPc]
    split
    · exact h.setWorker (h.running w)
    · exact h.finish op
  | returned op =>
    simp only [workPc]
    split
    · next hf => exact absurd (.inr hf) hle
    · exact h.setWorker (h.running w)
  | passing op =>
    have hli : Loss { s with finishedOps := s.finishedOps ++ [op] } := h.other
    have hse : Loss (({ s with finishedOps := s.finishedOps ++ [op] }).setWorker w
        { s.worker w with pc := .waiting }) := hli.setWorker (h.running w)
    exact hse.say (by simp [OpEvent.isPlain])
  | quitting | draining =>
    rw [hpc] at hle
    exact absurd (.inl rfl) hle
  | exited => exact h

lemma Loss.step (hh : Handles s) {a : OpAction Tid Reader Client}
    (hc : InsertedFirst s a) : Loss (s.step a) := by
  cases a with
  | cancel op => exact h.cancel op
  | go t =>
    show Loss (s.goThread t (s.threads t))
    cases ht : s.threads t with
    | idle => exact h
    | publishing op stage => exact h.goPublish hh ht
    | cancelling client ids =>
      cases ids with
      | nil => exact h.cancelled ht
      | cons op ids =>
        refine h.cancelNext ht (hc op ?_)
        rw [ht]
        rfl
    | tearing | sweeping =>
      have ho := h.ordinary t
      rw [ht] at ho
      cases ho
  | work w =>
    simp only [World.step]
    split
    · exact h.work hh w
    · exact h
  | publish t reader caller =>
    simp only [World.step]
    split
    · rename_i hi
      have hco : Loss { s with counter := s.counter + 1 } := h.other
      refine hco.setThread ?_ rfl
      show (s.threads t).isEarly = true
      rw [Thread.eq_idle hi]
      rfl
    · exact h
  | disconnect t client =>
    simp only [World.step]
    split
    · next hi => exact h.disconnect (Thread.eq_idle hi) client
    · exact h
  | removeReader | destruct | sweep => exact hc.elim

end

end Rules

lemma loss_start : Loss ({} : World Tid Reader Client) := by
  refine ⟨fun _ => rfl, fun _ => rfl, nofun, nofun, ?_⟩
  rintro op client ht
  cases ht.mem

/-- a client goes away some time after it has been recorded as the sender of an operation: once no
dispatch for the client is under way, the operation has been asked to cancel -/
theorem client_loss_cancels (actions : List (OpAction Tid Reader Client))
    (h : Along step InsertedFirst {} actions) (op : OperationId) (client : Client)
    (hlost : Then (.recorded op client) (.disconnected client) (run step {} actions).log)
    (hdone : ∀ t, ((run step {} actions).threads t).dispatchesFor client = false) :
    .cancelRequested op ∈ (run step {} actions).log := by
  have hk : ∀ (s : World Tid Reader Client) (a : OpAction Tid Reader Client), InsertedFirst s a →
      Handles s ∧ Loss s → Handles (s.step a) ∧ Loss (s.step a) := fun s a hc hs =>
    ⟨hs.1.step hc.calm, hs.2.step hs.1 hc⟩
  have hb := run_invariant_along hk ⟨handles_start, loss_start⟩ h
  rcases hb.2.lost op client hlost with hr | ⟨t, ids, ht, -⟩
  · exact hr
  · have hn := hdone t
    rw [ht] at hn
    exact absurd rfl (of_decide_eq_false hn)

attribute [local instance] Runs.neZero_two

/-- client 5 publishes an operation on thread 0, and goes away on thread 1 just after it has been
recorded; the dispatch looks the operation up at once if `early`, and when it is in the table if not
-/
def lossRun (early : Bool) : List (OpAction (Fin 2) Nat Nat) :=
  List.flatten [.publish 0 0 (some 5) :: List.replicate 3 (.go 0), [.disconnect 1 5],
    List.replicate (if early then 2 else 0) (.go 1), List.replicate 3 (.go 0),
    List.replicate (if early then 0 else 2) (.go 1), List.replicate 4 (.work 0)]

theorem client_loss_cancels_inserted : Along step InsertedFirst {} (lossRun false) ∧
      Then (.recorded 1 5) (.disconnected 5) (run step {} (lossRun false)).log ∧
      .cancelRequested 1 ∈ (run step {} (lossRun false)).log := by
  have hf : Along step InsertedFirst {} (lossRun false) := by decide +kernel
  have hl : Then (.recorded 1 5) (.disconnected 5) (run step {} (lossRun false)).log := by
    decide +kernel
  have hd : ∀ t, ((run step {} (lossRun false)).threads t).dispatchesFor 5 = false := by
    decide +kernel
  exact ⟨hf, hl, client_loss_cancels (lossRun false) hf 1 5 hl hd⟩

/-- looked up too early, the operation runs to its end without having been asked to cancel -/
theorem client_loss_cancels_fails : Then (.recorded 1 5) (.disconnected 5)
    (run step {} (lossRun true)).log ∧
      Then (.disconnected 5) (.finished 1) (run step {} (lossRun true)).log ∧
      (∀ t, ((run step {} (lossRun true)).threads t).dispatchesFor 5 = false) ∧
      .cancelRequested 1 ∉ (run step {} (lossRun true)).log := by
  decide +kernel

end LibreAgent.Operations
