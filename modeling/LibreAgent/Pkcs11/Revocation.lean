import LibreAgent.Pkcs11.Consent

/-!
# Revocations and logins

A login is checked when it is requested, and granted later by the worker of its reader.  A
revocation that falls in between is lost: the worker grants the lease all the same.
-/

set_option linter.unusedSectionVars false

namespace LibreAgent.Pkcs11

open Operations Runs World List

variable {Caller Card Reader : Type*} [DecidableEq Caller] [DecidableEq Card] [DecidableEq Reader]

def RequestedSince (history : List (Event Caller Card)) (key : LeaseKey Caller Card)
    (request : Nat) : Prop :=
  Since (Event.covers key) (.requested request key.caller) history

def Renewed (history : List (Event Caller Card)) (key : LeaseKey Caller Card) : Prop :=
  ∃ request, RequestedSince history key request ∧
    Since (Event.covers key) (.granted request key) history

/-- a lease that is active was requested and granted after its last revocation -/
def RevocationFinal (w : World Caller Card Reader) : Prop :=
  ∀ key now, (w.lease.isActive key now).1 = true → Renewed w.history key

/-- a login of the caller and the card has been requested: it waits for the authority, waits on the
queue, or is at work -/
def LoginUnderWay (home : Card → Reader) (w : World Caller Card Reader)
    (key : LeaseKey Caller Card) : Prop :=
  (∃ pending ∈ w.authorizing, pending.caller = key.caller ∧ pending.reader = home key.card) ∨
    (∃ job ∈ (w.workers (home key.card)).queue, job.key = key ∧ job.task = .login) ∨
    ∃ r, (w.workers (home key.card)).running = some r ∧ r.job.key = key ∧ r.job.task = .login

/-- no lease is revoked while a login for it is under way -/
def Undisturbed (home : Card → Reader) (w : World Caller Card Reader)
    (action : Action Caller Card Reader) : Prop :=
  ∀ key, action.revokes home w key → ¬ LoginUnderWay home w key

/-! ## The invariant -/

variable {new : List (Event Caller Card)} {home : Card → Reader} {w w' : World Caller Card Reader}
  {reader : Reader}

lemma Renewed.append {history : List (Event Caller Card)} {key : LeaseKey Caller Card}
    (h : Renewed history key) (hn : ∀ e ∈ new, ¬ e.covers key) : Renewed (new ++ history) key := by
  obtain ⟨request, hr, hg⟩ := h
  exact ⟨request, hr.append hn, hg.append hn⟩

/-- the logins under way were requested since the last revocation of what they are for, and the
leases have been renewed -/
structure RevocationInv (home : Card → Reader) (w : World Caller Card Reader) : Prop where
  pending : ∀ pending ∈ w.authorizing, ∀ card, home card = pending.reader →
    RequestedSince w.history ⟨pending.caller, card⟩ pending.request
  queued : ∀ reader, ∀ job ∈ (w.workers reader).queue, job.task = .login →
    RequestedSince w.history job.key job.request
  running : ∀ reader r, (w.workers reader).running = some r → r.tally.login = true →
    r.job.task = .login ∧ RequestedSince w.history r.job.key r.job.request
  lease : ∀ key e, w.lease.leases key = some e → Renewed w.history key

lemma start_revocationInv (home : Card → Reader) (config : LeaseConfig) :
    RevocationInv home (start config : World Caller Card Reader) where
  pending := nofun
  queued := nofun
  running := nofun
  lease := nofun

lemma RevocationInv.outside {revoked : LeaseKey Caller Card → Prop} (h : RevocationInv home w)
    (hc : ConsentInv home w) (hs : Outside home revoked new w w')
    (hq : ∀ key, revoked key → ¬ LoginUnderWay home w key) : RevocationInv home w' := by
  have hne : ∀ key, ¬ revoked key → ∀ e ∈ new, ¬ e.covers key := fun key hk e he hco =>
    hk (hs.covers e he key hco)
  have hp : ∀ pending ∈ w.authorizing, ∀ card, home card = pending.reader →
      RequestedSince (new ++ w.history) ⟨pending.caller, card⟩ pending.request := by
    intro pending hm card hca
    refine (h.pending pending hm card hca).append (hne _ fun hre => hq _ hre ?_)
    exact .inl ⟨pending, hm, rfl, hca.symm⟩
  constructor
  · intro pending hm card hca
    rw [hs.history]
    rcases hs.authorizing pending hm with hold | ⟨hreq, hn⟩
    · exact hp pending hold card hca
    · exact since_of_mem hreq (hne _ (hn _))
  · intro reader job hj hl
    rw [hs.history]
    rcases hs.queue reader job hj with hold | ⟨hh, hw⟩
    · refine (h.queued reader job hold hl).append (hne _ fun hre => hq _ hre ?_)
      rw [← hc.queue reader job hold] at hold
      exact .inr (.inl ⟨job, hold, rfl, hl⟩)
    · exact hp _ (hw hl) job.key.card hh
  · intro reader r hr hl
    rw [hs.running] at hr
    rw [hs.history]
    obtain ⟨ht, hreq⟩ := h.running reader r hr hl
    refine ⟨ht, hreq.append (hne _ fun hre => hq _ hre ?_)⟩
    rw [← (hc.running reader r hr).atHome] at hr
    exact .inr (.inr ⟨r, hr, rfl, ht⟩)
  · intro key e he
    have hk : ¬ revoked key := by
      intro hre
      rw [hs.revokes key hre] at he
      cases he
    obtain ⟨e', he', -⟩ := hs.lease key e he
    rw [hs.history]
    exact (h.lease key e' he').append (hne key hk)

/-! ## Steps of the workers -/

lemma RevocationInv.begin (h : RevocationInv home w) (reader : Reader) :
    RevocationInv home (w.begin reader) := by
  unfold World.begin
  split
  · exact h
  · rename_i job queue hq
    have hqu : ∀ j ∈ job :: queue, j.task = .login → RequestedSince w.history j.key j.request := by
      rw [← hq]
      exact h.queued reader
    refine ⟨h.pending, fun rd j hj => ?_, fun rd r hr => ?_, h.lease⟩
    · by_cases hrd : rd = reader
      · subst hrd
        rw [World.setWorker_self] at hj
        exact hqu j (List.mem_cons_of_mem _ hj)
      · rw [World.setWorker_of_ne hrd] at hj
        exact h.queued rd j hj
    · by_cases hrd : rd = reader
      · subst hrd
        rw [World.setWorker_self] at hr
        cases hr
        intro hl
        have ht : job.task = .login := by
          cases ht : job.task with
          | login => rfl
          | crypto request =>
            replace hl : job.task.tally.login = true := hl
            rw [ht] at hl
            cases hl
        exact ⟨ht, hqu job List.mem_cons_self ht⟩
      · rw [World.setWorker_of_ne hrd] at hr
        exact h.running rd r hr

lemma callEvent_not_covers (op : Nat) (job : Job Caller Card) (c : Call) (answer : c.Ans)
    (key : LeaseKey Caller Card) : ∀ e ∈ (callEvent op job c answer).toList, ¬ e.covers key := by
  intro e he
  rw [Option.mem_toList] at he
  cases c with
  | requestPin requester artifact =>
    rw [callEvent_requestPin] at he
    split at he
    · cases he
      exact id
    · cases he
  | _ =>
    cases he
    try exact id

/-- a step of a worker on the job at work: what happens is no revocation, and the leases are renewed
if they were before -/
lemma RevocationInv.advance {running : Option (Running Caller Card)}
    (h : RevocationInv home w) (ha : w'.authorizing = w.authorizing)
    (hw : w'.workers = Function.update w.workers reader { w.workers reader with running })
    (hh : w'.history = new ++ w.history) (hn : ∀ key, ∀ e ∈ new, ¬ e.covers key)
    (hru : ∀ r, running = some r → r.tally.login = true →
      r.job.task = .login ∧ RequestedSince w.history r.job.key r.job.request)
    (hl : ∀ key e, w'.lease.leases key = some e → Renewed w'.history key) :
    RevocationInv home w' := by
  constructor
  · intro pending hm card hc
    rw [ha] at hm
    rw [hh]
    exact (h.pending pending hm card hc).append (hn _)
  · intro rd job hj hlo
    rw [hh]
    refine (h.queued rd job ?_ hlo).append (hn _)
    rw [hw] at hj
    by_cases hrd : rd = reader
    · subst hrd
      rw [Function.update_self] at hj
      exact hj
    · rw [Function.update_of_ne hrd] at hj
      exact hj
  · intro rd r hr hlo
    rw [hh]
    rw [hw] at hr
    by_cases hrd : rd = reader
    · subst hrd
      rw [Function.update_self] at hr
      obtain ⟨ht, hre⟩ := hru r hr hlo
      exact ⟨ht, hre.append (hn _)⟩
    · rw [Function.update_of_ne hrd] at hr
      obtain ⟨ht, hre⟩ := h.running rd r hr hlo
      exact ⟨ht, hre.append (hn _)⟩
  · exact hl

lemma Tally.login_next (t : Tally) (c : Call) (answer : c.Ans) : (t.next c answer).login =
    t.login := by
  cases c <;> rfl

lemma RevocationInv.makeCall (h : RevocationInv home w) (hc : ConsentInv home w)
    {r : Running Caller Card} {c : Call} {goOn : c.Ans → Flow Finish}
    (hr : (w.workers reader).running = some r) (hre : r.rest = .ask c goOn) (answer : c.Ans) :
    RevocationInv home (w.makeCall reader r c goOn answer) := by
  have hn := callEvent_not_covers r.op r.job c answer
  have hh : (w.makeCall reader r c goOn answer).history = (callEvent r.op r.job c answer).toList ++
    w.history := rfl
  refine h.advance rfl rfl hh hn ?_ ?_
  · rintro _ ⟨⟩ hl
    replace hl : (r.tally.next c answer).login = true := hl
    rw [Tally.login_next] at hl
    exact h.running reader r hr hl
  · intro key e he
    rcases leaseAfter_eq_some he with ⟨rfl, ⟨now, rfl⟩, -⟩ | ⟨e', he', -, -⟩
    · -- only a login grants, and it was requested since the last revocation
      have ha : r.tally = { login := true } := by
        have hf := (hc.running reader r hr).follows
        rw [hre] at hf
        exact hf.1
      obtain ⟨-, hreq⟩ := h.running reader r hr (by rw [ha])
      exact ⟨r.job.request, hreq.append (hn _), since_now _ _ _⟩
    · exact (h.lease key e' he').append (hn key)

lemma RevocationInv.finish (h : RevocationInv home w) (reader : Reader) (r : Running Caller Card)
    (result : Finish) : RevocationInv home (w.finish reader r result) := by
  have hn : ∀ key, ∀ e ∈ [Event.ended r.op r.job.key result r.tally.lastKey], ¬ e.covers key := by
    intro key e he
    rw [mem_singleton.mp he]
    exact id
  refine h.advance rfl rfl rfl hn nofun ?_
  intro key e he
  exact (h.lease key e he).append (hn key)

lemma RevocationInv.work (h : RevocationInv home w) (hc : ConsentInv home w) (reader : Reader)
    (answers : (c : Call) → c.Ans) : RevocationInv home (w.work reader answers) := by
  unfold World.work
  split
  · exact h.begin reader
  · rename_i r hr
    split
    · exact h.finish reader r _
    · next c goOn hre => exact h.makeCall hc hr hre _

/-! ## Runs -/

lemma revocationInv_step (home : Card → Reader) (w : World Caller Card Reader)
    (action : Action Caller Card Reader) (hq : Undisturbed home w action)
    (h : ConsentInv home w ∧ RevocationInv home w) :
    ConsentInv home (w.step home action) ∧ RevocationInv home (w.step home action) := by
  refine ⟨consentInv_step home w action h.1, ?_⟩
  rcases step_outside home w action with ⟨reader, answers, rfl⟩ | ⟨new, hs⟩
  · exact h.2.work h.1 reader answers
  · exact h.2.outside h.1 hs hq

/-- In a run in which nothing is revoked while a login of it is under way, revocations are final. -/
theorem revocation_final (home : Card → Reader) (config : LeaseConfig)
    (actions : List (Action Caller Card Reader))
    (h : Along (step home) (Undisturbed home) (start config) actions) :
    RevocationFinal (run (step home) (start config) actions) := by
  have hs : ConsentInv home (start config : World Caller Card Reader) ∧
      RevocationInv home (start config : World Caller Card Reader) :=
    ⟨start_consentInv home config, start_revocationInv home config⟩
  have hi : ConsentInv home (run (step home) (start config) actions) ∧
      RevocationInv home (run (step home) (start config) actions) :=
    run_invariant_along (revocationInv_step home) hs h
  intro key now ha
  rw [LeaseManager.isActive_eq, Option.isSome_iff_exists] at ha
  obtain ⟨e, he⟩ := ha
  exact hi.2.lease key e (reaped_eq_some he).1

/-! ## With and without a disturbance -/

def loginRun (request : Nat) : List (Action Nat Nat Nat) :=
  [.login 0 1, .authorized request .granted true] ++ replicate 6 (.work 0 agreeable)

lemma undisturbed_loginRun (request : Nat) : ∀ action ∈ loginRun request, ∀ w, Undisturbed
    (fun _ => 0) w action := by
  intro action ha w key hr
  rcases mem_append.mp ha with ha | ha
  · rcases mem_cons.mp ha with rfl | ha
    · exact hr.elim
    · rw [mem_singleton.mp ha] at hr
      exact hr.elim
  · rw [eq_of_mem_replicate ha] at hr
    exact hr.elim

/-- the screen is locked after a login; the lease that is active afterwards is that of a second
login -/
theorem revocation_final_relogin : ((run (step fun _ => 0) (start ⟨600, 0⟩)
        (Action.cardInserted 3 :: loginRun 0 ++ .quiesce .screenLocked ::
          loginRun 1)).lease.isActive
          ⟨1, 3⟩ 0).1 = true ∧
      RevocationFinal (run (step fun _ => 0) (start ⟨600, 0⟩)
        (Action.cardInserted 3 :: loginRun 0 ++ .quiesce .screenLocked :: loginRun 1)) := by
  refine ⟨by decide +kernel, revocation_final _ _ _ ?_⟩
  rw [along_append]
  refine ⟨⟨fun _ => False.elim, along_of_forall _ _ (undisturbed_loginRun 0)⟩, ?_,
    along_of_forall _ _ (undisturbed_loginRun 1)⟩
  -- the first login is over when the screen is locked
  rintro key - (⟨pending, hp, -⟩ | ⟨job, hj, -⟩ | ⟨r, hr, -⟩)
  · cases hp
  · cases hj
  · cases hr

def disturbed (revocation : Action Nat Nat Nat) : World Nat Nat Nat :=
  run (step fun _ => 0) (start ⟨600, 0⟩)
    ([.cardInserted 3, .login 0 1, .authorized 0 .granted true, revocation]
      ++ replicate 6 (.work 0 agreeable))

lemma not_final_of_history (revocation : Event Nat Nat) {w : World Nat Nat Nat}
    (ha : (w.lease.isActive ⟨1, 3⟩ 0).1 = true) (hh : w.history
      = [.ended 0 ⟨1, 3⟩ (.login (some .ok)) none, .granted 0 ⟨1, 3⟩, revocation, .requested 0 1])
    (hc : revocation.covers ⟨1, 3⟩) (hr : ∀ request, revocation ≠ .requested request 1) :
    ¬ RevocationFinal w := by
  intro hf
  obtain ⟨request, hre, -⟩ := hf ⟨1, 3⟩ 0 ha
  rw [hh, RequestedSince, since_cons_iff, since_cons_iff, since_cons_iff] at hre
  rcases hre with h | ⟨-, h | ⟨-, h | ⟨hno, -⟩⟩⟩
  · cases h
  · cases h
  · exact hr request h
  · exact hno hc

/-- whatever the revocation, the lease is granted after it for the login that was requested before
-/
theorem revocation_final_fails : ¬ RevocationFinal (disturbed (.logout 0 1)) ∧
    ¬ RevocationFinal (disturbed (.onClientDisconnected 1)) ∧
      ¬ RevocationFinal (disturbed (.onCardRemoved 3)) ∧
    ¬ RevocationFinal (disturbed (.quiesce .screenLocked)) := by
  refine ⟨?_, ?_, ?_, ?_⟩
  · exact not_final_of_history (.loggedOut ⟨1, 3⟩) (by decide +kernel) (by decide +kernel) rfl nofun
  · exact not_final_of_history (.disconnected 1) (by decide +kernel) (by decide +kernel) rfl nofun
  · exact not_final_of_history (.removed 3) (by decide +kernel) (by decide +kernel) rfl nofun
  · exact not_final_of_history (.quiesced .screenLocked [3]) (by decide +kernel) (by decide +kernel)
      mem_cons_self nofun

end LibreAgent.Pkcs11
