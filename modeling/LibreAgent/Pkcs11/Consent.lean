import LibreAgent.Pkcs11.BrokerSteps

/-!
# Consent under a lease

On a lease that is verified, a key is used without asking for the PIN.  Whatever the clients, the
cards, the prompter and the clock do, and however their steps come between those of the workers,
that is right:

* `ConsentInv` : what the flag of a lease, the jobs on the queues and the tallies of the jobs at
  work have to do with the past, kept by every step (`consentInv_step`).

The flag of a lease is set and read by jobs on the worker of one reader, and so is the grant made
that resets it.
-/

set_option linter.unusedSectionVars false

namespace LibreAgent.Pkcs11

open Operations Interaction Runs Tally Event List

variable {Caller Card Reader : Type*} [DecidableEq Caller] [DecidableEq Card] [DecidableEq Reader]

/-! ## Jobs -/

def JobSettled (t : Tally) (finish : Finish) : Prop :=
  t.marked = true → (∃ reply, finish = .crypto .ok reply) ∧ t.lastKey = some false

lemma runLogin_holds : Holds JobSettled { login := true } runLogin := by
  have hs : ∀ finish, JobSettled { login := true } finish := nofun
  unfold runLogin
  refine holds_silent_bind (silent_call (fun _ => trivial) (fun _ _ => rfl)) fun acquired => ?_
  refine holds_silent_bind silent_isCancelled fun cancelled => ?_
  split
  · exact respects_pure (hs _)
  · split
    · refine respects_call_bind trivial fun now => ?_
      exact respects_call_bind rfl fun _ => respects_pure (hs _)
    · exact respects_pure (hs _)

lemma cryptoDone_silent (result : RawCryptoFlow.Result) : Silent (cryptoDone result) := by
  unfold cryptoDone
  split
  · exact silent_pure _
  · refine silent_bind silent_isCancelled fun _ => silent_ite (silent_pure _) ?_
    exact silent_bind (silent_call (fun _ => trivial) (fun _ _ => rfl)) fun _ => silent_pure _
  · exact silent_pure _

lemma runCrypto_holds (request : RawCryptoFlow.Request) :
    Holds JobSettled {} (runCrypto request) := by
  unfold runCrypto
  refine respects_bind (RawCryptoFlow.run_holds request) fun t result hs => ?_
  have hj : ∀ reply, JobSettled t (.crypto result.outcome reply) := by
    intro reply hm
    obtain ⟨hok, hk⟩ := hs hm
    exact ⟨⟨reply, by rw [hok]⟩, hk⟩
  refine holds_silent_bind silent_isCancelled fun cancelled => ?_
  split
  · exact respects_pure (hj none)
  · exact holds_silent_bind (cryptoDone_silent result) fun reply => respects_pure (hj reply)

lemma program_holds (task : Task) : Holds JobSettled task.tally task.program := by
  cases task with
  | login => exact runLogin_holds
  | crypto request => exact runCrypto_holds request

/-! ## Consent -/

/-- since the last grant of the key's lease, an operation before `op` has collected a PIN and ended
well with a key for which the card does not ask for consent to each use -/
def Consented (past : List (Event Caller Card)) (op : Nat) (key : LeaseKey Caller Card) : Prop :=
  (∃ request, Event.granted request key ∈ past) ∧
    ∃ earlier < op, Since (Event.grants key) (.collected earlier key) past ∧
      ∃ reply, Since (Event.grants key) (.ended earlier key (.crypto .ok reply) (some false)) past

def Justified (past : List (Event Caller Card)) : Event Caller Card → Prop
  | .started op key false => Consented past op key
  | .used op key true => .collected op key ∈ past
  | _ => True

variable {new history : List (Event Caller Card)} {op nextOp : Nat} {key : LeaseKey Caller Card}
  {e : Event Caller Card} {home : Card → Reader} {reader : Reader} {r : Running Caller Card}
  {w : World Caller Card Reader} {t : Tally} {c : Call} {lease : LeaseManager Caller Card}

lemma Consented.append {past : List (Event Caller Card)} {op' : Nat} (h : Consented past op key)
    (hop : op ≤ op') (hn : ∀ e ∈ new, ¬ e.grants key) : Consented (new ++ past) op' key := by
  obtain ⟨⟨request, hg⟩, earlier, he, hc, reply, hen⟩ := h
  exact ⟨⟨request, mem_append_right _ hg⟩, earlier, he.trans_le hop, hc.append hn, reply,
      hen.append hn⟩

lemma justified_of_isOutside (h : e.isOutside) (past : List (Event Caller Card)) :
    Justified past e := by
  cases e <;> trivial

/-! ## The invariant -/

/-- a job at work on a reader, in view of what has happened -/
structure RunningOk (home : Card → Reader) (history : List (Event Caller Card)) (nextOp : Nat)
    (reader : Reader) (r : Running Caller Card) : Prop where
  atHome : home r.job.key.card = reader
  numbered : r.op < nextOp
  follows : Holds JobSettled r.tally r.rest
  verified : r.tally.verified = true → Consented history r.op r.job.key
  collected : r.tally.collected = true → Since (grants r.job.key)
    (.collected r.op r.job.key) history
  marked : r.tally.marked = true → r.tally.collected = true

lemma RunningOk.append {nextOp' : Nat} (h : RunningOk home history nextOp reader r)
    (hn : nextOp ≤ nextOp')
    (hne : ∀ e ∈ new, ¬ e.grants r.job.key) : RunningOk home (new ++ history) nextOp' reader r where
  atHome := h.atHome
  numbered := h.numbered.trans_le hn
  follows := h.follows
  verified hv := (h.verified hv).append le_rfl hne
  collected hc := (h.collected hc).append hne
  marked := h.marked

def World.opBound (w : World Caller Card Reader) (reader : Reader) : Nat :=
  match (w.workers reader).running with
  | some r => r.op
  | none => w.nextOp

def Flagged (home : Card → Reader) (w : World Caller Card Reader)
    (key : LeaseKey Caller Card) : Prop :=
  Consented w.history (w.opBound (home key.card)) key ∨
    ∃ r, (w.workers (home key.card)).running = some r ∧ r.job.key = key ∧ r.tally.marked = true

structure ConsentInv (home : Card → Reader) (w : World Caller Card Reader) : Prop where
  queue : ∀ reader, ∀ job ∈ (w.workers reader).queue, home job.key.card = reader
  running : ∀ reader r, (w.workers reader).running = some r →
    RunningOk home w.history w.nextOp reader r
  granted : ∀ key e, w.lease.leases key = some e → ∃ request, Event.granted request key ∈ w.history
  flag : ∀ key e, w.lease.leases key = some e → e.pinVerified = true → Flagged home w key
  sound : Throughout Justified w.history

lemma start_consentInv (home : Card → Reader) (config : LeaseConfig) :
    ConsentInv home (World.start config : World Caller Card Reader) where
  queue := nofun
  running := nofun
  granted := nofun
  flag := nofun
  sound := trivial

lemma ConsentInv.outside {revoked : LeaseKey Caller Card → Prop} {w' : World Caller Card Reader}
    (h : ConsentInv home w) (hs : Outside home revoked new w w') : ConsentInv home w' := by
  have hh := hs.history
  have hn : ∀ key, ∀ e ∈ new, ¬ e.grants key := fun key e he =>
    not_grants_of_isOutside (hs.outside e he) key
  have hb : ∀ reader, w'.opBound reader = w.opBound reader := by
    intro reader
    unfold World.opBound
    rw [hs.running, hs.nextOp]
  constructor
  · intro reader job hj
    rcases hs.queue reader job hj with hold | ⟨hho, -⟩
    · exact h.queue reader job hold
    · exact hho
  · intro reader r hr
    rw [hs.running] at hr
    rw [hh, hs.nextOp]
    exact (h.running reader r hr).append le_rfl (hn _)
  · intro key e he
    obtain ⟨e', he', -⟩ := hs.lease key e he
    obtain ⟨request, hg⟩ := h.granted key e' he'
    exact ⟨request, by rw [hh]; exact mem_append_right _ hg⟩
  · intro key e he hf
    obtain ⟨e', he', hsa⟩ := hs.lease key e he
    rw [hsa] at hf
    rcases h.flag key e' he' hf with hc | ⟨r, hr, hk, hm⟩
    · left
      rw [hh, hb]
      exact hc.append le_rfl (hn key)
    · exact .inr ⟨r, by rw [hs.running]; exact hr, hk, hm⟩
  · rw [hh]
    exact h.sound.append fun e he past => justified_of_isOutside (hs.outside e he) past

/-! ## A worker takes a job, or ends one -/

lemma ConsentInv.begin (h : ConsentInv home w) (hi : (w.workers reader).running = none) :
    ConsentInv home (w.begin reader) := by
  unfold World.begin
  split
  · exact h
  · rename_i job queue hq
    have hp : ∀ j ∈ job :: queue, home j.key.card = reader := by
      rw [← hq]
      exact h.queue reader
    -- the new job has the number that bounded the operations of this reader before
    have hb : ∀ rd, w.opBound rd ≤ World.opBound ({ w with nextOp := w.nextOp + 1 }.setWorker reader
        { running := some ⟨w.nextOp, job, job.task.program, job.task.tally⟩, queue }) rd := by
      intro rd
      unfold World.opBound
      by_cases hrd : rd = reader
      · subst hrd
        rw [World.setWorker_self, hi]
      · rw [World.setWorker_of_ne hrd]
        show _ ≤ match (w.workers rd).running with
          | some r => r.op
          | none => w.nextOp + 1
        split
        · exact le_rfl
        · exact Nat.le_succ _
    constructor
    · intro rd j hj
      by_cases hrd : rd = reader
      · subst hrd
        rw [World.setWorker_self] at hj
        exact hp j (mem_cons_of_mem _ hj)
      · rw [World.setWorker_of_ne hrd] at hj
        exact h.queue rd j hj
    · intro rd r hr
      by_cases hrd : rd = reader
      · subst hrd
        rw [World.setWorker_self] at hr
        cases hr
        refine ⟨hp job mem_cons_self, Nat.lt_succ_self _, program_holds job.task, ?_, ?_, ?_⟩
        all_goals
          show _ = true → _
          cases job.task <;> nofun
      · rw [World.setWorker_of_ne hrd] at hr
        have hn : ∀ e ∈ ([] : List (Event Caller Card)), ¬ e.grants r.job.key := nofun
        exact (h.running rd r hr).append (Nat.le_succ _) hn
    · exact h.granted
    · intro key e he hf
      rcases h.flag key e he hf with hc | ⟨r, hr, hk, hm⟩
      · have hn : ∀ e ∈ ([] : List (Event Caller Card)), ¬ e.grants key := nofun
        exact .inl (hc.append (hb _) hn)
      · have hne : home key.card ≠ reader := by
          rintro rfl
          rw [hi] at hr
          cases hr
        exact .inr ⟨r, by rw [World.setWorker_of_ne hne]; exact hr, hk, hm⟩
    · exact h.sound

lemma ConsentInv.finish (h : ConsentInv home w) {result : Finish}
    (hru : (w.workers reader).running = some r) (hd : r.rest = .done result) :
    ConsentInv home (w.finish reader r result) := by
  have hr := h.running reader r hru
  have hs : JobSettled r.tally result := by
    have hf := hr.follows
    rw [hd] at hf
    exact hf
  let ended : Event Caller Card := .ended r.op r.job.key result r.tally.lastKey
  have hn : ∀ key, ∀ e ∈ [ended], ¬ e.grants key := by
    intro key e he
    rw [mem_singleton.mp he]
    exact id
  have hb : ∀ rd, w.opBound rd ≤ (w.finish reader r result).opBound rd := by
    intro rd
    unfold World.opBound World.finish
    by_cases hrd : rd = reader
    · subst hrd
      rw [World.setWorker_self, hru]
      exact hr.numbered.le
    · rw [World.setWorker_of_ne hrd]
      exact le_rfl
  constructor
  · intro rd job hj
    by_cases hrd : rd = reader
    · subst hrd
      rw [World.finish, World.setWorker_self] at hj
      exact h.queue rd job hj
    · rw [World.finish, World.setWorker_of_ne hrd] at hj
      exact h.queue rd job hj
  · intro rd r' hr'
    by_cases hrd : rd = reader
    · subst hrd
      rw [World.finish, World.setWorker_self] at hr'
      cases hr'
    · rw [World.finish, World.setWorker_of_ne hrd] at hr'
      have ha := (h.running rd r' hr').append (le_refl w.nextOp) (hn r'.job.key)
      exact ha
  · intro key e he
    obtain ⟨request, hg⟩ := h.granted key e he
    exact ⟨request, mem_cons_of_mem _ hg⟩
  · intro key e he hfl
    rcases h.flag key e he hfl with hc | ⟨r', hr', hk, hm⟩
    · have ha := hc.append (hb _) (hn key)
      exact .inl ha
    · by_cases hre : home key.card = reader
      · -- the job that ends here has set the flag, and it has collected a PIN
        left
        have hsa : r = r' := by
          rw [hre, hru] at hr'
          exact Option.some.inj hr'
        subst hsa
        subst hk
        obtain ⟨⟨reply, rfl⟩, hl⟩ := hs hm
        obtain ⟨request, hg⟩ := h.granted _ e he
        refine ⟨⟨request, mem_cons_of_mem _ hg⟩, r.op, ?_, ?_, reply, ?_⟩
        · rw [hre, World.opBound, World.finish, World.setWorker_self]
          exact hr.numbered
        · exact (hr.collected (hr.marked hm)).cons id
        · rw [← hl]
          exact since_now _ _ _
      · refine .inr ⟨r', ?_, hk, hm⟩
        rw [World.finish, World.setWorker_of_ne hre]
        exact hr'
  · exact ⟨trivial, h.sound⟩

/-! ## A worker makes a call -/

lemma callEvent_requestPin (op : Nat) (job : Job Caller Card) (requester artifact : String)
    (prompt : PromptResult) :
    World.callEvent op job (.requestPin requester artifact) prompt
      = if prompt.pin.isSome then some (.collected op job.key) else none :=
  rfl

variable {answer : c.Ans}

lemma Tally.verified_next
    (h : (t.next c answer).verified = true) : t.verified = true ∨ c = .isPinVerified := by
  cases c <;> first | exact .inl h | exact .inr rfl

lemma Tally.collected_next (op : Nat) (job : Job Caller Card)
    (h : (t.next c answer).collected = true) :
    t.collected = true ∨ World.callEvent op job c answer = some (.collected op job.key) := by
  cases c with
  | requestPin requester artifact =>
    rcases Bool.or_eq_true_iff.mp h with h | h
    · exact .inl h
    · exact .inr (if_pos h)
  | _ => exact .inl h

lemma Tally.collected_of_next (h : t.collected = true) : (t.next c answer).collected = true := by
  cases c with
  | requestPin requester artifact => exact Bool.or_eq_true_iff.mpr (.inl h)
  | _ => exact h

lemma Tally.marked_next
    (h : (t.next c answer).marked = true) : t.marked = true ∨ c = .markPinVerified := by
  cases c <;> first | exact .inl h | exact .inr rfl

lemma Tally.marked_of_next (h : t.marked = true) : (t.next c answer).marked = true := by
  cases c <;> first | exact h | rfl

lemma callEvent_not_grants {job : Job Caller Card} (h : (∃ now, c = .grant now) → job.key ≠ key) :
    ∀ e ∈ (World.callEvent op job c answer).toList, ¬ e.grants key := by
  intro e he
  rw [Option.mem_toList] at he
  cases c with
  | grant now =>
    cases he
    exact h ⟨now, rfl⟩
  | requestPin requester artifact =>
    rw [callEvent_requestPin] at he
    split at he
    · cases he
      exact id
    · cases he
  | _ =>
    cases he
    try exact id

/-- a lease after a call: it has just been granted, or it was there, and if it is verified now then
it was verified before or is marked by the call -/
lemma leaseAfter_eq_some {k : LeaseKey Caller Card} {e : Entry}
    (h : (World.leaseAfter lease k c).leases key = some e) :
    (key = k ∧ (∃ now, c = .grant now) ∧ e.pinVerified = false) ∨
      ∃ e', lease.leases key = some e' ∧ ((∃ now, c = .grant now) → k ≠ key) ∧
        (e.pinVerified = true → e'.pinVerified = true ∨ (key = k ∧ c = .markPinVerified)) := by
  have hs : ∀ verified, (lease.setPinVerified k verified).leases key = some e →
    ∃ e', lease.leases key = some e' ∧
        (e.pinVerified = true → e'.pinVerified = true ∨ (key = k ∧ verified = true)) := by
    intro verified hen
    rw [LeaseManager.setPinVerified_leases] at hen
    split at hen
    · rename_i hke
      obtain ⟨e', he', rfl⟩ := Option.map_eq_some_iff.mp hen
      exact ⟨e', he', fun hf => .inr ⟨hke, hf⟩⟩
    · exact ⟨e, hen, .inl⟩
  cases c with
  | markPinVerified =>
    obtain ⟨e', he', hf⟩ := hs true h
    exact .inr ⟨e', he', nofun, fun hv => (hf hv).imp_right fun hke => ⟨hke.1, rfl⟩⟩
  | clearPinVerified =>
    obtain ⟨e', he', hf⟩ := hs false h
    exact .inr ⟨e', he', nofun, fun hv => (hf hv).imp_right nofun⟩
  | grant now =>
    have hg := LeaseManager.grant_leases lease k key now
    rw [show (lease.grant k now).leases key = some e from h] at hg
    split at hg
    · rename_i hke
      left
      refine ⟨hke, ⟨now, rfl⟩, ?_⟩
      rw [Option.some.inj hg]
      cases lease.leases key <;> rfl
    · next hke => exact .inr ⟨e, hg.symm, fun _ hk => hke hk.symm, .inl⟩
  | revoke =>
    obtain ⟨e', he', hf⟩ := LeaseManager.revokeAll_shrinks lease _ key e h
    exact .inr ⟨e', he', nofun, fun hv => .inl (hf ▸ hv)⟩
  | _ => exact .inr ⟨e, h, nofun, .inl⟩

lemma justified_callEvent (hr : RunningOk home history nextOp reader r) (ha : r.tally.Allows c)
    (answer : c.Ans) (he : World.callEvent r.op r.job c answer = some e) : Justified history e := by
  cases c with
  | terminal pin =>
    cases he
    cases pin with
    | none => exact hr.verified ha
    | some secret => trivial
  | sign key | decipher key =>
    cases he
    cases hk : key.cert.alwaysAuthenticate with
    | true => exact (hr.collected (ha hk)).mem
    | false => trivial
  | requestPin requester artifact =>
    rw [callEvent_requestPin] at he
    split at he
    · cases he
      trivial
    · cases he
  | _ =>
    cases he
    try trivial

lemma exists_of_isPinVerified (h : lease.isPinVerified key = true) :
    ∃ e, lease.leases key = some e ∧ e.pinVerified = true := by
  unfold LeaseManager.isPinVerified at h
  cases he : lease.leases key with
  | none =>
    rw [he] at h
    cases h
  | some e =>
    rw [he] at h
    exact ⟨e, rfl, h⟩

section
variable (h : ConsentInv home w)
include h

/-- the flag of the lease is read: another operation has set it, unless the job at work has -/
lemma ConsentInv.consented (hru : (w.workers reader).running = some r)
    (hm : r.tally.marked = false) (hf : w.lease.isPinVerified r.job.key = true) :
    Consented w.history r.op r.job.key := by
  have hh := (h.running reader r hru).atHome
  obtain ⟨e, he, hs⟩ := exists_of_isPinVerified hf
  rcases h.flag r.job.key e he hs with hc | ⟨r', hr', -, hm'⟩
  · rw [hh, World.opBound, hru] at hc
    exact hc
  · rw [hh, hru] at hr'
    cases hr'
    rw [hm] at hm'
    cases hm'

lemma RunningOk.afterCall {goOn : c.Ans → Flow Finish}
    (hru : (w.workers reader).running = some r) (hre : r.rest = .ask c goOn)
    (answers : (c : Call) → c.Ans) :
    let answer := w.respond r.job.key answers c
    RunningOk home ((World.callEvent r.op r.job c answer).toList ++ w.history) w.nextOp reader
      { r with rest := goOn answer, tally := r.tally.next c answer } := by
  intro answer
  have hr := h.running reader r hru
  have hf := hr.follows
  rw [hre] at hf
  obtain ⟨ha, hgo⟩ := hf
  -- a grant is made by a login, which has done nothing else
  by_cases hgr : ∃ now, c = .grant now
  · obtain ⟨now, rfl⟩ := hgr
    have ht : r.tally.next (.grant now) answer = { login := true } := ha
    exact ⟨hr.atHome, hr.numbered, hgo answer, by rw [ht]; nofun, by rw [ht]; nofun, by
      rw [ht]; nofun⟩
  · have hn : ∀ e ∈ (World.callEvent r.op r.job c answer).toList, ¬ e.grants r.job.key :=
      callEvent_not_grants fun hg => absurd hg hgr
    refine ⟨hr.atHome, hr.numbered, hgo answer, fun hv => ?_, fun hco => ?_, fun hm => ?_⟩
    · rcases Tally.verified_next hv with hv | hc
      · exact (hr.verified hv).append le_rfl hn
      · subst hc
        exact (h.consented hru ha hv).append le_rfl hn
    · rcases Tally.collected_next r.op r.job hco with hco | he
      · exact (hr.collected hco).append hn
      · rw [he]
        exact since_now _ _ _
    · rcases Tally.marked_next hm with hm | hc
      · exact Tally.collected_of_next (hr.marked hm)
      · subst hc
        exact ha.1

lemma ConsentInv.makeCall {goOn : c.Ans → Flow Finish}
    (hru : (w.workers reader).running = some r) (hre : r.rest = .ask c goOn)
    (answers : (c : Call) → c.Ans) :
    ConsentInv home (w.makeCall reader r c goOn (w.respond r.job.key answers c)) := by
  have hr := h.running reader r hru
  have ha : r.tally.Allows c := by
    have hf := hr.follows
    rw [hre] at hf
    exact hf.1
  have haf := RunningOk.afterCall h hru hre answers
  generalize w.respond r.job.key answers c = answer at haf ⊢
  -- only the lease of the job's own key is granted
  have hne : ∀ key, key ≠ r.job.key → ∀ e ∈ (World.callEvent r.op r.job c answer).toList,
    ¬ e.grants key :=
    fun key hk => callEvent_not_grants fun _ => hk.symm
  have hb : ∀ rd, (w.makeCall reader r c goOn answer).opBound rd = w.opBound rd := by
    intro rd
    unfold World.opBound World.makeCall
    by_cases hrd : rd = reader
    · subst hrd
      rw [World.setWorker_self, hru]
    · rw [World.setWorker_of_ne hrd]
      rfl
  constructor
  · intro rd job hj
    by_cases hrd : rd = reader
    · subst hrd
      rw [World.makeCall, World.setWorker_self] at hj
      exact h.queue rd job hj
    · rw [World.makeCall, World.setWorker_of_ne hrd] at hj
      exact h.queue rd job hj
  · intro rd r' hr'
    by_cases hrd : rd = reader
    · subst hrd
      rw [World.makeCall, World.setWorker_self] at hr'
      cases hr'
      exact haf
    · rw [World.makeCall, World.setWorker_of_ne hrd] at hr'
      have ho := h.running rd r' hr'
      refine ho.append le_rfl (hne _ fun hk => hrd ?_)
      rw [← ho.atHome, hk, hr.atHome]
  · intro key e he
    rcases leaseAfter_eq_some he with ⟨rfl, ⟨now, rfl⟩, -⟩ | ⟨e', he', -, -⟩
    · exact ⟨r.job.request, List.mem_cons_self⟩
    · obtain ⟨request, hg⟩ := h.granted key e' he'
      exact ⟨request, List.mem_append_right _ hg⟩
  · intro key e he hfl
    rcases leaseAfter_eq_some he with ⟨-, -, hc⟩ | ⟨e', he', hn, hbe⟩
    · rw [hc] at hfl
      cases hfl
    · rcases hbe hfl with hfl' | ⟨rfl, rfl⟩
      · rcases h.flag key e' he' hfl' with hco | ⟨r', hr', hk, hm⟩
        · left
          rw [hb]
          exact hco.append le_rfl (callEvent_not_grants hn)
        · right
          by_cases hrea : home key.card = reader
          · rw [hrea, hru] at hr'
            cases hr'
            refine ⟨{ r with rest := goOn answer, tally := r.tally.next c answer }, ?_, hk,
              Tally.marked_of_next hm⟩
            rw [hrea, World.makeCall, World.setWorker_self]
          · refine ⟨r', ?_, hk, hm⟩
            rw [World.makeCall, World.setWorker_of_ne hrea]
            exact hr'
      · -- the job at work sets the flag
        refine .inr ⟨{ r with rest := goOn answer, tally := r.tally.next _ answer }, ?_, rfl, rfl⟩
        rw [hr.atHome, World.makeCall, World.setWorker_self]
  · cases he : World.callEvent r.op r.job c answer with
    | none =>
      show Throughout Justified ((World.callEvent r.op r.job c answer).toList ++ w.history)
      rw [he]
      exact h.sound
    | some e =>
      show Throughout Justified ((World.callEvent r.op r.job c answer).toList ++ w.history)
      rw [he]
      exact ⟨justified_callEvent hr ha answer he, h.sound⟩

/-! ## Runs -/

lemma ConsentInv.work
    (reader : Reader) (answers : (c : Call) → c.Ans) : ConsentInv home (w.work reader answers) := by
  unfold World.work
  split
  · next hi => exact h.begin hi
  · rename_i r hr
    split
    · next result hd => exact h.finish hr hd
    · next c goOn hre => exact h.makeCall hr hre answers

end

lemma consentInv_step (home : Card → Reader) (w : World Caller Card Reader)
    (action : Action Caller Card Reader) (h : ConsentInv home w) :
    ConsentInv home (w.step home action) := by
  rcases World.step_outside home w action with ⟨reader, answers, rfl⟩ | ⟨new, hs⟩
  · exact h.work reader answers
  · exact h.outside hs

/-- In every run, an operation that starts without a PIN has been consented to since the last grant
of its lease, and a key for which the card asks for consent is used only in an operation that has
collected a PIN. -/
theorem operations_consented (home : Card → Reader) (config : LeaseConfig)
    (actions : List (Action Caller Card Reader)) :
    (∀ newer older op key,
      (run (World.step home) (World.start config) actions).history
        = newer ++ started op key false :: older → Consented older op key) ∧ (∀ newer older op key,
      (run (World.step home) (World.start config) actions).history
        = newer ++ used op key true :: older → collected op key ∈ older) := by
  have hi : ConsentInv home (run (World.step home) (World.start config) actions) :=
    run_invariant (consentInv_step home) (start_consentInv home config) actions
  constructor
  all_goals
    intro newer older op key hh
    have hs := hi.sound
    rw [hh] at hs
    exact hs.at

/-- a card, a plugin and a holder of the card that agree to everything -/
def agreeable : (c : Call) → c.Ans
  | .isPinVerified | .isCancelled => false
  | .allowPrompt => true
  | .now => 0
  | .requestPin _ _ => ⟨.ok, some [1, 2, 3, 4]⟩
  | .acquire => .ok ()
  | .selectSigningCandidate _ => some ⟨some 0, some 7, [], false, false⟩
  | .classifyCertKey _ => some ⟨.rsa, 2048⟩
  | .keyUsage _ => none
  | .preReadAuthIsCan _ => false
  | .ecPeerPointOnCertCurve _ _ => true
  | .sign _ _ _ | .decipher _ _ _ => (.ok, [9])
  | .markPinVerified | .clearPinVerified | .grant _ | .revoke | .invalidateCredentials => ()
  | .clearCachedPaceCredentials | .terminal _ | .depositPin _ | .keepForLease | .erasePin => ()

/-- a login and two signatures: the second one is made without a PIN -/
example :
    let sign : Action Nat Nat Nat := .crypto (.signRaw .rsaPkcs1Sign [5]) 0 "cert" "client" 0 1 true
    let work : Action Nat Nat Nat := .work 0 agreeable
    let w := run (World.step fun _ => 0) (World.start ⟨600, 0⟩)
      ([.cardInserted 3, .login 0 0, .authorized 0 .granted true] ++ replicate 6 work ++ [sign]
        ++ replicate 22 work ++ [sign] ++ replicate 22 work)
    started 1 ⟨0, 3⟩ true ∈ w.history ∧ started 2 ⟨0, 3⟩ false ∈ w.history := by
  decide +kernel

end LibreAgent.Pkcs11
