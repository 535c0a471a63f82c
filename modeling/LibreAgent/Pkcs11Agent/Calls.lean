import LibreAgent.Pkcs11Agent.StateSteps

/-!
# Calls in flight

What one step of the process does (`Move`, `Module.step_cases`), and a record of the calls beside
the process: for each thread the call that it has made last and the state in which it made it
(`Traced`).

* `Section.apply` : what a section does to the state; `Section.makes` : a small step, a new model, a
  login or a key.
-/

set_option linter.unusedSectionVars false

namespace LibreAgent.Pkcs11Agent

open List

/-! ## The sections -/

def Calling.session? : Calling → Option Nat
  | .snapshot _ _ | .loginActive _ _ _ _ => none
  | .login h _ _ | .sign h _ | .decrypt h _ | .derive h _ => some h

def Answer.ends : Answer → Bool
  | ⟨.ok, .bytes _⟩ => true
  | ⟨.ok, _⟩ | ⟨.bufferTooSmall, _⟩ => false
  | _ => true

/-- a section that is left to do after a call, and the answer that is then given -/
def Section.Of (c : Calling) (answer : Answer) : Section → Prop
  | .release h => h = c.session?
  | .publish ticket _ q => c = .snapshot ticket q
  | .recordLogin h _ slot shown => c = .login h slot shown
  | .recordActive h slot generation _ => ∃ reader, c = .loginActive h slot generation reader
  | .clearSign h => (∃ job, c = .sign h job) ∧ answer.ends = true
  | .clearDecrypt h => (∃ job, c = .decrypt h job) ∧ answer.ends = true
  | .dropLogin h =>
    (∃ job, c = .sign h job) ∨ (∃ job, c = .decrypt h job) ∨ ∃ job, c = .derive h job
  | .keepKey h job _ => c = .derive h job

def Section.isRelease : Section → Bool
  | .release _ => true
  | _ => false

def Section.isPublish : Section → Bool
  | .publish _ _ _ => true
  | _ => false

def Section.isClear : Section → Bool
  | .clearSign _ | .clearDecrypt _ => true
  | _ => false

/-- the sections are those of the call; a cursor is cleared first of all, and only a model is
published after the guard has gone -/
structure Closes (c : Calling) (todo : List Section) (answer : Answer) : Prop where
  own : ∀ x ∈ todo, x.Of c answer
  cleared : ∀ x ∈ todo.tail, x.isClear = false
  after : todo.Pairwise fun x y => x.isRelease = true → y.isPublish = true
  guarded : ∀ x ∈ todo, x.isPublish = true ∨ todo.any Section.isRelease = true

structure Concludes (c : Calling) (done : List Section × Answer) : Prop where
  closes : Closes c done.1 done.2
  released : done.1.any Section.isRelease = true

variable {c : Calling} {answer : Answer} {x clear : Section} {h : Nat}

lemma concludes_snoc {todo : List Section} (ho : ∀ x ∈ todo, x.Of c answer)
    (hc : ∀ x ∈ todo.tail, x.isClear = false) (hw : ∀ x ∈ todo, x.isRelease = false) :
    Concludes c (todo ++ [.release c.session?], answer) := by
  have hr : (todo ++ [Section.release c.session?]).any Section.isRelease = true := by
    rw [any_append]
    exact Bool.or_eq_true_iff.mpr (.inr rfl)
  have hn {x y : Section} (hx : x ∈ todo) (hre : x.isRelease = true) : y.isPublish = true :=
    absurd (hre.symm.trans (hw x hx)) (by decide)
  refine ⟨⟨?_, ?_, ?_, fun x hx => .inr hr⟩, hr⟩
  · exact forall_mem_append.mpr ⟨ho, forall_mem_singleton.mpr rfl⟩
  · cases todo with
    | nil => exact forall_mem_nil _
    | cons y rest => exact forall_mem_append.mpr ⟨hc, forall_mem_singleton.mpr rfl⟩
  · rw [pairwise_append]
    exact ⟨List.Pairwise.imp_of_mem (fun hx _ _ => hn hx) (pairwise_of_forall fun _ _ => trivial),
      pairwise_singleton _ _, fun x hx y _ => hn hx⟩

lemma concludes_one (ho : x.Of c answer) (hw : x.isRelease = false) :
    Concludes c ([x, .release c.session?], answer) :=
  concludes_snoc (forall_mem_singleton.mpr ho) (forall_mem_nil _) (forall_mem_singleton.mpr hw)

lemma concludes_release (c : Calling) (answer : Answer) :
    Concludes c ([.release c.session?], answer) :=
  concludes_snoc (forall_mem_nil _) (forall_mem_nil _) (forall_mem_nil _)

/-- the rest, after a section that leaves the answer or whose call has no cursor to clear -/
lemma Closes.tail {rest : List Section} {answer' : Answer} (h : Closes c (x :: rest) answer)
    (ha : ∀ y ∈ rest, y.Of c answer → y.Of c answer') : Closes c rest answer' := by
  refine ⟨fun y hy => ha y hy (h.own y (mem_cons_of_mem _ hy)), fun y hy =>
      h.cleared y (mem_of_mem_tail hy),
    h.after.of_cons, fun y hy => ?_⟩
  rcases h.guarded y (mem_cons_of_mem _ hy) with hp | hr
  · exact .inl hp
  · rw [any_cons, Bool.or_eq_true] at hr
    rcases hr with hx | hre
    · exact .inl (rel_of_pairwise_cons h.after hy hx)
    · exact .inr hre

lemma ends_ckrFromStatus {rv : CkRv} (hrv : Answer.ends ⟨rv, .nothing⟩ = true) {status : Status}
    (hs : status ≠ .ok) : Answer.ends ⟨ckrFromStatus rv status, .nothing⟩ = true := by
  cases status with
  | ok => exact absurd rfl hs
  | invalidInput => exact hrv
  | _ => rfl

lemma of_dropLoginOnLapsedLease (hof : ∀ answer, (Section.dropLogin h).Of c answer)
    (status : Status) (answer : Answer) :
    ∀ x ∈ dropLoginOnLapsedLease status h, x.Of c answer ∧ x.isClear = false ∧
      x.isRelease = false := by
  unfold dropLoginOnLapsedLease
  split
  · exact forall_mem_singleton.mpr ⟨hof answer, rfl, rfl⟩
  · exact forall_mem_nil _

lemma concludes_lapsed (hc : clear.Of c answer) (hw : clear.isRelease = false)
    (hof : ∀ answer, (Section.dropLogin h).Of c answer) (status : Status) :
    Concludes c (clear :: dropLoginOnLapsedLease status h ++ [.release c.session?], answer) := by
  have hd := of_dropLoginOnLapsedLease hof status answer
  exact concludes_snoc (forall_mem_cons.mpr ⟨hc, fun x hx => (hd x hx).1⟩)
    (fun x hx => (hd x hx).2.1)
    (forall_mem_cons.mpr ⟨hw, fun x hx => (hd x hx).2.2⟩)

/-- a result that is given clears the cursor, one that does not fit leaves it -/
lemma concludes_giveBytes (hs : c.session? = some h)
    (hc : ∀ answer : Answer, answer.ends = true → clear.Of c answer) (hw : clear.isRelease = false)
    (buffer : Option Nat) (bytes : Bytes) : Concludes c (giveBytes clear h buffer bytes) := by
  unfold giveBytes
  rw [← hs]
  split
  · exact concludes_release c _
  · split
    · exact concludes_release c _
    · exact concludes_one (hc _ rfl) hw

lemma SignJob.concludes (h : Nat) (job : SignJob) (result : Option (Status × Bytes)) :
    Concludes (.sign h job) (job.conclude h result) := by
  have hc (answer : Answer) (he : answer.ends = true) :
    (Section.clearSign h).Of (.sign h job) answer := ⟨⟨job, rfl⟩, he⟩
  simp only [SignJob.conclude]
  split
  · exact concludes_one (hc _ rfl) rfl
  · split
    · exact concludes_release (.sign h job) _
    · split
      · exact concludes_release (.sign h job) _
      · next status bytes =>
        split
        · next hs =>
          exact concludes_lapsed (hc _ (ends_ckrFromStatus rfl hs)) rfl
            (fun _ => .inl ⟨job, rfl⟩) status
        · split
          · exact concludes_one (hc _ rfl) rfl
          · exact concludes_giveBytes rfl hc rfl job.buffer bytes

lemma DecryptJob.concludes (h : Nat) (job : DecryptJob) (result : Option (Status × Bytes)) :
    Concludes (.decrypt h job) (job.conclude h result) := by
  have hc (answer : Answer) (he : answer.ends = true) :
    (Section.clearDecrypt h).Of (.decrypt h job) answer :=
    ⟨⟨job, rfl⟩, he⟩
  unfold DecryptJob.conclude
  split
  · exact concludes_release (.decrypt h job) _
  · split
    · exact concludes_release (.decrypt h job) _
    · next status bytes =>
      split
      · next hs =>
        exact concludes_lapsed (hc _ (ends_ckrFromStatus rfl hs)) rfl
          (fun _ => .inr (.inl ⟨job, rfl⟩)) status
      · exact concludes_giveBytes rfl hc rfl job.buffer bytes

lemma DeriveJob.concludes (h : Nat) (job : DeriveJob) (status : Status) (bytes : Bytes) :
    Concludes (.derive h job) (job.conclude h status bytes) := by
  have hof (answer : Answer) : (Section.dropLogin h).Of (.derive h job) answer :=
    .inr (.inr ⟨job, rfl⟩)
  unfold DeriveJob.conclude
  split
  · have hd :=
      of_dropLoginOnLapsedLease hof status ⟨ckrFromStatus .mechanismParamInvalid status, .nothing⟩
    exact concludes_snoc (fun x hx => (hd x hx).1)
      (fun x hx => (hd x (mem_of_mem_tail hx)).2.1) fun x hx =>
      (hd x hx).2.2
  · split
    · exact concludes_release (.derive h job) _
    · exact concludes_one rfl rfl

lemma concludes_conclude {r : AgentReply} {done : List Section × Answer}
    (hr : c.conclude r = some done) : Concludes c done := by
  unfold Calling.conclude at hr
  split at hr <;> cases hr
  · refine ⟨⟨?_, ?_, ?_, ?_⟩, rfl⟩
    · exact forall_mem_cons.mpr ⟨rfl, forall_mem_singleton.mpr rfl⟩
    · exact forall_mem_singleton.mpr rfl
    · exact pairwise_pair.mpr fun _ => rfl
    · exact fun _ _ => .inr rfl
  · exact concludes_one rfl rfl
  · exact concludes_one ⟨_, rfl⟩ rfl
  · exact SignJob.concludes _ _ _
  · exact SignJob.concludes _ _ _
  · exact DecryptJob.concludes _ _ _
  · exact DecryptJob.concludes _ _ _
  · exact DeriveJob.concludes _ _ _ _
  all_goals exact concludes_release _ _

/-! ## What a section does -/

def Section.apply (published : Nat) (now : Int) : Section → SessionState → SessionState
  | .release h, state =>
    h.elim state fun h => state.updateSession h fun session => { session with rpcInFlight := false }
  | .publish ticket snapshot q, state =>
    ((if ticket > published then state.setModel (.build snapshot) else state).query q).1
  | .recordLogin h status _ _, state =>
    if status ≠ .ok then state
    else match state.session h with
      | none => state
      | some session => state.setLoggedIn session.slot now
  | .recordActive _ slot generation active, state => Module.endIfLapsed state slot generation active
  | .clearSign h, state => state.updateSession h fun session => { session with sign := {} }
  | .clearDecrypt h, state => state.updateSession h fun session => { session with decrypt := {} }
  | .dropLogin h, state => Module.dropLogin h state
  | .keepKey h job value, state =>
    match state.session h with
    | none => state
    | some session =>
      if ¬ (state.slotById job.slot).any (fun now => now.tokenPresent && now.tokenSerial =
        job.tokenSerial) then state
      else if ¬ state.isLoggedIn session.slot then state
      else (state.addDerivedKey ⟨job.slot, h, job.wanted, value⟩).1

/-- a section makes a small step, after a new model or not, or makes a login or a key -/
inductive Section.Makes (now : Int) (state : SessionState) : Section → SessionState → Prop
  | small {x : Section} {state' : SessionState} (hstep : state.SmallStep state') :
      Makes now state x state'
  | model {ticket : Nat} {snapshot : AgentSnapshot} {q : SlotQuery} {state' : SessionState}
      (model : ObjectModel)
      (hstep : (state.setModel model).SmallStep state') :
        Makes now state (.publish ticket snapshot q) state'
  | login {h slot : Nat} {shown : Slot} {session : Session}
      (hopen : state.session h = some session) :
      Makes now state (.recordLogin h .ok slot shown) (state.setLoggedIn session.slot now)
  | key {h : Nat} {job : DeriveJob} {value : Bytes} {session : Session} {shown : Slot}
      (hopen : state.session h = some session)
      (hshown : state.slotById job.slot = some shown) (hpresent : shown.tokenPresent = true)
      (hserial : shown.tokenSerial = job.tokenSerial)
        (hlogin : state.isLoggedIn session.slot = true) :
      Makes now state (.keepKey h job value)
        (state.addDerivedKey ⟨job.slot, h, job.wanted, value⟩).1

lemma Section.makes (published : Nat) (now : Int) (x : Section) (state : SessionState) :
    x.Makes now state (x.apply published now state) := by
  cases x with
  | release h =>
    cases h with
    | none => exact .small .same
    | some h => exact .small (state.updateSession_small h fun _ => rfl)
  | publish ticket snapshot q =>
    simp only [Section.apply]
    split
    · exact .model _ (SessionState.query_small _ q)
    · exact .small (state.query_small q)
  | recordLogin h status slot shown =>
    simp only [Section.apply]
    split
    · exact .small .same
    · next hs =>
      obtain rfl : status = .ok := not_not.mp hs
      split
      · exact .small .same
      · next ho => exact .login ho
  | recordActive h slot generation active =>
    simp only [Section.apply, Module.endIfLapsed]
    split
    · exact .small (.loggedOut slot)
    · exact .small .same
  | clearSign h | clearDecrypt h => exact .small (state.updateSession_small h fun _ => rfl)
  | dropLogin h =>
    simp only [Section.apply, Module.dropLogin]
    split
    · exact .small .same
    · exact .small (.loggedOut _)
  | keepKey h job value =>
    simp only [Section.apply]
    split
    · exact .small .same
    · next session ho =>
      split
      · exact .small .same
      · next hsh =>
        split
        · exact .small .same
        · next hl =>
          obtain ⟨shown, hsh, ht⟩ := (Option.any_eq_true _ _).mp (not_not.mp hsh)
          rw [Bool.and_eq_true, decide_eq_true_iff] at ht
          exact .key ho hsh ht.1 ht.2 (not_not.mp hl)

def Pc.rests : Pc → Bool
  | .idle | .draining | .closing [] _ => true
  | .calling _ | .closing (_ :: _) _ => false

def ModuleAction.isCallOf {Tid : Type*} (a : ModuleAction Tid) (t : Tid) : Prop :=
  ∃ c now, a = .call t c now

def ModuleAction.thread {Tid : Type*} : ModuleAction Tid → Tid
  | .call t _ _ | .reply t _ | .proceed t _ | .giveUp t => t

namespace Module

variable {Tid : Type*} [DecidableEq Tid] (s : Module Tid)

lemma perform_parts (t : Tid) (now : Int) (x : Section) :
    (s.perform t now x).1.lib = s.lib.map (x.apply s.snapshotPublished now) ∧
      (s.perform t now x).1.threads = s.threads ∧
      (s.perform t now x).1.guards = if x.isRelease then s.guards.erase t else s.guards := by
  cases x with
  | release | clearSign | clearDecrypt | dropLogin => exact ⟨rfl, rfl, rfl⟩
  | publish ticket snapshot q =>
    simp only [perform, publish]
    cases hlib : s.lib with
    | none => exact ⟨hlib, rfl, rfl⟩
    | some state =>
      simp only [Section.apply, Option.map_some]
      split <;> exact ⟨rfl, rfl, rfl⟩
  | recordLogin h status slot shown =>
    simp only [perform, recordLogin]
    cases hlib : s.lib with
    | none => exact ⟨hlib, rfl, rfl⟩
    | some state =>
      simp only [Section.apply, Option.map_some]
      split
      · exact ⟨hlib, rfl, rfl⟩
      · cases ho : state.session h with
        | none => exact ⟨hlib, rfl, rfl⟩
        | some session => exact ⟨rfl, rfl, rfl⟩
  | recordActive h slot generation active =>
    simp only [perform, recordActive]
    cases hlib : s.lib with
    | none => exact ⟨hlib, rfl, rfl⟩
    | some state => exact ⟨rfl, rfl, rfl⟩
  | keepKey h job value =>
    simp only [perform, keepKey]
    cases hlib : s.lib with
    | none => exact ⟨hlib, rfl, rfl⟩
    | some state =>
      simp only [Section.apply, Option.map_some]
      cases ho : state.session h with
      | none => exact ⟨hlib, rfl, rfl⟩
      | some session =>
        simp only
        split
        · exact ⟨hlib, rfl, rfl⟩
        · split
          · exact ⟨hlib, rfl, rfl⟩
          · exact ⟨rfl, rfl, rfl⟩

variable {c : Calling} {pc : Pc}

lemma perform_answer (t : Tid) (now : Int) {x : Section} {answer : Answer} {y : Section}
    (hx : x.Of c answer) (hy : y.Of c answer) : y.Of c ((s.perform t now x).2.getD answer) := by
  cases y with
  | clearSign | clearDecrypt =>
    obtain ⟨⟨job, rfl⟩, he⟩ := hy
    cases x with
    | release | recordLogin | clearSign | clearDecrypt | dropLogin => exact ⟨⟨job, rfl⟩, he⟩
    | publish | keepKey => cases hx
    | recordActive =>
      obtain ⟨reader, hx⟩ := hx
      cases hx
  | release | publish | recordLogin | recordActive | dropLogin | keepKey => exact hy

/-! ## What a step does -/

/-- what a thread does in a step: the state, who is counted, and where the thread is then -/
inductive Move (t : Tid) (a : ModuleAction Tid) : Option SessionState → List Tid → Pc → Prop
  | returns (hrests : (s.threads t).rests = true) : Move t a s.lib s.guards .idle
  | loads (hrests : (s.threads t).rests = true) (hlib : s.lib = none) :
      Move t a (some {}) s.guards .idle
  | unloads (hrests : (s.threads t).rests = true) (hguards : s.guards = []) :
      Move t a none s.guards .idle
  | drains (hrests : (s.threads t).rests = true) : Move t a s.lib s.guards .draining
  | within {state : SessionState} {c : LocalCall} {now : Int} (ha : a = .call t (.within c) now)
      (hidle : s.threads t = .idle)
      (hlib : s.lib = some state) : Move t a (some (state.within c).1) s.guards .idle
  | looks (ha : a.isCallOf t) (hidle : s.threads t = .idle) (h slot : Nat) :
      Move t a s.lib s.guards (.closing [.recordActive h slot 0 none] ⟨.ok, .nothing⟩)
  | refreshes {state : SessionState} (ha : a.isCallOf t) (hidle : s.threads t = .idle)
      (hlib : s.lib = some state)
      (q : SlotQuery) :
      Move t a (some state) (t :: s.guards) (.calling (.snapshot (s.snapshotsStarted + 1) q))
  | inquires {state : SessionState} (ha : a.isCallOf t) (hidle : s.threads t = .idle)
      (hlib : s.lib = some state)
      (h slot : Nat) (now : Int) (reader : Bytes) :
        Move t a (some (state.markLoginChecked slot now)) (t :: s.guards)
        (.calling (.loginActive h slot (state.loginGeneration slot) reader))
  | asks {state : SessionState} {c : BlockingCall} {calling : Calling} (ha : a.isCallOf t)
      (hidle : s.threads t = .idle)
      (hlib : s.lib = some state) (hcheck : state.check c = .ok calling) :
      Move t a (some (state.updateSession c.session fun session =>
        { session with rpcInFlight := true })) (t :: s.guards)
        (.calling calling)
  | answered {c : Calling} {r : AgentReply} {todo : List Section} {answer : Answer}
      (hpc : s.threads t = .calling c)
      (hr : c.conclude r = some (todo, answer)) : Move t a s.lib s.guards (.closing todo answer)
  | performs {now : Int} {x : Section} {rest : List Section} {answer : Answer}
      (ha : a = .proceed t now)
      (hpc : s.threads t = .closing (x :: rest) answer) :
      Move t a (s.lib.map (x.apply s.snapshotPublished now))
        (if x.isRelease then s.guards.erase t else s.guards)
        (.closing rest ((s.perform t now x).2.getD answer))

structure Moved (a : ModuleAction Tid) (s' : Module Tid) (t : Tid) : Prop where
  move : s.Move t a s'.lib s'.guards (s'.threads t)
  others : ∀ t', t' ≠ t → s'.threads t' = s.threads t'

variable {s} {a : ModuleAction Tid} {t : Tid}

lemma moved_setThread (s' : Module Tid) (h : s.Move t a s'.lib s'.guards pc)
    (ht : s'.threads = s.threads) : s.Moved a (s'.setThread t pc) t :=
  ⟨(s'.setThread_self t pc).symm ▸ h, fun t' hne =>
      (s'.setThread_of_ne hne pc).trans (congrFun ht t')⟩

lemma moved_ret (s' : Module Tid) (answer : Answer) (h : s.Move t a s'.lib s'.guards .idle)
    (ht : s'.threads = s.threads) : s.Moved a (s'.ret t answer) t :=
  let hs : s.Moved a (s'.setThread t .idle) t := moved_setThread s' h ht
  ⟨hs.move, hs.others⟩

lemma moved_guard (s' : Module Tid) (h : s.Move t a s'.lib (t :: s'.guards) (.calling c))
    (ht : s'.threads = s.threads) : s.Moved a (s'.guard t c) t :=
  let hs : s.Moved a ({ s' with guards := t :: s'.guards }.setThread t (.calling c)) t :=
    moved_setThread _ h ht
  ⟨hs.move, hs.others⟩

lemma moved_finalize (hr : (s.threads t).rests = true) : s.Moved a (s.finalize t) t := by
  unfold finalize
  split
  · next hg => exact moved_ret { s with lib := none } _ (.unloads hr hg) rfl
  · exact moved_setThread s (.drains hr) rfl

section Call
variable {state : SessionState} (ha : a.isCallOf t) (hidle : s.threads t = .idle)
  (hlib : s.lib = some state)
include ha hidle hlib

lemma moved_refresh (q : SlotQuery) : s.Moved a (s.refresh t q) t := by
  have hm : s.Move t a s.lib (t :: s.guards) (.calling (.snapshot (s.snapshotsStarted + 1) q)) := by
    rw [hlib]
    exact .refreshes ha hidle hlib q
  exact moved_guard { s with snapshotsStarted := s.snapshotsStarted + 1 } hm rfl

lemma moved_beginQuery (q : SlotQuery) : s.Moved a (s.beginQuery t q) t := by
  unfold beginQuery
  split
  · split
    · exact moved_ret s _ (.returns (hidle ▸ rfl)) rfl
    · exact moved_refresh ha hidle hlib _
  · exact moved_refresh ha hidle hlib _

lemma moved_beginSessionInfo (h : Nat) (now : Int) :
    s.Moved a (s.beginSessionInfo t state h now) t := by
  unfold beginSessionInfo
  split
  · exact moved_ret s _ (.returns (hidle ▸ rfl)) rfl
  · split
    · split
      · exact moved_guard (s.setState _) (.inquires ha hidle hlib _ _ _ _) rfl
      · exact moved_setThread s (.looks ha hidle _ _) rfl
    · exact moved_setThread s (.looks ha hidle _ _) rfl

end Call

lemma moved_call (hidle : s.threads t = .idle) (now : Int) (c : CCall) :
    s.Moved (.call t c now) (s.call t now c) t := by
  have hr : (s.threads t).rests = true := hidle ▸ rfl
  have ha (c : CCall) : (ModuleAction.call t c now).isCallOf t := ⟨c, now, rfl⟩
  unfold call
  split
  · next hlib => exact moved_ret { s with lib := some {} } _ (.loads hr hlib) rfl
  · exact moved_ret s _ (.returns hr) rfl
  · exact moved_ret s _ (.returns hr) rfl
  · exact moved_finalize hr
  · next hlib => exact moved_beginQuery (ha _) hidle hlib _
  · next hlib => exact moved_beginSessionInfo (ha _) hidle hlib _ _
  · next hlib => exact moved_ret (s.setState _) _ (.within rfl hidle hlib) rfl
  · next state c hlib =>
    cases hc : state.check c with
    | error rv => exact moved_ret s _ (.returns hr) rfl
    | ok calling => exact moved_guard (s.setState _) (.asks (ha _) hidle hlib hc) rfl

lemma step_cases (s : Module Tid) (a : ModuleAction Tid) : s.step a = s ∨
    ∃ t, s.Moved a (s.step a) t := by
  cases a with
  | call t c now =>
    simp only [step]
    split
    · next hidle => exact .inr ⟨t, moved_call hidle now c⟩
    · exact .inl rfl
  | reply t r =>
    simp only [step]
    split
    · next c hpc =>
      cases hr : c.conclude r with
      | none => exact .inl rfl
      | some done => exact .inr ⟨t, moved_setThread s (.answered hpc hr) rfl⟩
    · exact .inl rfl
  | proceed t now =>
    show s.proceed t now (s.threads t) = s ∨
      ∃ t', s.Moved (.proceed t now) (s.proceed t now (s.threads t)) t'
    cases hpc : s.threads t with
    | idle | calling => exact .inl rfl
    | draining => exact .inr ⟨t, moved_finalize (hpc ▸ rfl)⟩
    | closing todo answer =>
      cases todo with
      | nil => exact .inr ⟨t, moved_ret s _ (.returns (hpc ▸ rfl)) rfl⟩
      | cons x rest =>
        obtain ⟨hl, ht, hg⟩ := s.perform_parts t now x
        refine .inr ⟨t, moved_setThread _ ?_ ht⟩
        rw [hl, hg]
        exact .performs rfl hpc
  | giveUp t =>
    simp only [step]
    split
    · next hpc => exact .inr ⟨t, moved_ret s _ (.returns (hpc ▸ rfl)) rfl⟩
    · exact .inl rfl

lemma Move.mem_guards {lib : Option SessionState} {guards : List Tid} (h : s.Move t a lib guards pc)
    {t' : Tid} (hne : t' ≠ t) : t' ∈ guards ↔ t' ∈ s.guards := by
  cases h with
  | returns | loads | unloads | drains | within | looks | answered => exact Iff.rfl
  | refreshes | inquires | asks => exact mem_cons.trans (or_iff_right hne)
  | performs =>
    split
    · exact mem_erase_of_ne hne
    · exact Iff.rfl

end Module

lemma Section.Makes.sound {now : Int} {state state' : SessionState} (h : x.Makes now state state')
    (hs : state.Sound) : state'.Sound ∧ state.SessionsFrom state' := by
  cases h with
  | small hst => exact ⟨hst.quiet.sound hs, hst.quiet.toSessionsFrom⟩
  | model model hst =>
    have hm : state.SessionsFrom (state.setModel model) :=
      (state.setSlots_sessionsFrom model).trans
        (SessionState.setModel_loginsOnly state model).sessionsFrom
    exact ⟨hst.quiet.sound (hs.setModel model), hm.trans hst.quiet.toSessionsFrom⟩
  | @login _ _ _ session ho =>
    have hon := SessionState.setLoggedIn_loginsOnly state session.slot now
    exact ⟨hon.sound hs, hon.sessionsFrom⟩
  | @key h job value =>
    have hq := state.addDerivedKey_quiet ⟨job.slot, h, job.wanted, value⟩
    exact ⟨hq.sound hs, hq.toSessionsFrom⟩

/-! ## The record of the calls -/

def SessionState.Asks (made : SessionState) : Calling → Prop
  | .snapshot _ _ => True
  | .loginActive _ slot generation _ => made.loginGeneration slot = generation
  | .login h _ _ => ∃ session, made.session h = some session ∧ session.rpcInFlight = false
  | .sign h job =>
    ∃ session, made.session h = some session ∧ session.rpcInFlight = false ∧
      session.sign = job.cursor ∧
      job.cursor.active = true
  | .decrypt h job => ∃ session, made.session h = some session ∧ session.rpcInFlight = false ∧
      session.decrypt = job.cursor ∧ job.cursor.active = true
  | .derive h job => ∃ session shown, made.session h = some session ∧ session.rpcInFlight = false ∧
      made.slotById session.slot = some shown ∧ made.isLoggedIn session.slot = true ∧
        job.slot = session.slot ∧
      job.tokenSerial = shown.tokenSerial

lemma SessionState.asks_of_check {state : SessionState} {c : BlockingCall} {calling : Calling}
    (hc : state.check c = .ok calling) : state.Asks calling ∧ calling.session? =
    some c.session := by
  cases c with
  | login h userType =>
    obtain ⟨session, shown, ho, hr, -, -, rfl⟩ := checkLogin_eq_ok hc
    exact ⟨⟨session, ho, hr⟩, rfl⟩
  | sign | signFinal =>
    obtain ⟨session, ho, hr, ha, rfl⟩ := checkSign_eq_ok hc
    exact ⟨⟨session, ho, hr, rfl, ha⟩, rfl⟩
  | decrypt | decryptFinal =>
    obtain ⟨session, ho, hr, ha, rfl⟩ := checkDecrypt_eq_ok hc
    exact ⟨⟨session, ho, hr, rfl, ha⟩, rfl⟩
  | deriveKey h args =>
    obtain ⟨session, shown, job, ho, hr, hs, hl, hsl, hse, rfl⟩ := checkDerive_eq_ok hc
    exact ⟨⟨session, shown, ho, hr, hs, hl, hsl, hse⟩, rfl⟩

lemma SessionState.Asks.session {made : SessionState} (ha : made.Asks c)
    (hs : c.session? = some h) : ∃ session, made.session h = some session ∧
    session.rpcInFlight = false := by
  cases c with
  | snapshot | loginActive => cases hs
  | login =>
    cases hs
    exact ha
  | sign | decrypt =>
    cases hs
    obtain ⟨session, ho, hr, -⟩ := ha
    exact ⟨session, ho, hr⟩
  | derive =>
    cases hs
    obtain ⟨session, -, ho, hr, -⟩ := ha
    exact ⟨session, ho, hr⟩

structure Traced (Tid : Type*) where
  process : Module Tid := {}
  /-- the call that a thread has made last, and the state in which it made it -/
  asked : Tid → Option (Calling × SessionState) := fun _ => none
  /-- for each key, the state in which its derivation was asked for -/
  derivedIn : UInt64 → Option SessionState := fun _ => none

section Trace
variable {Tid : Type*} [DecidableEq Tid]

namespace Traced

variable (w : Traced Tid)

def askedBy (t : Tid) (a : ModuleAction Tid) : Option (Calling × SessionState) :=
  match (w.process.step a).threads t, w.process.lib with
  | .calling c, some state => some (c, state)
  | _, _ => none

def noteCall (a : ModuleAction Tid) : Tid → Option (Calling × SessionState) :=
  match a with
  | .call t _ _ =>
    match w.process.threads t with
    | .idle => Function.update w.asked t (w.askedBy t a)
    | _ => w.asked
  | _ => w.asked

def noteKey (a : ModuleAction Tid) : UInt64 → Option SessionState :=
  match a with
  | .proceed t _ =>
    match w.process.threads t, w.process.lib with
    | .closing (.keepKey _ _ _ :: _) _, some state =>
      let handle := SessionState.kDerivedHandleBit ||| state.nextDerived
      if (state.derived.lookup handle).isSome then w.derivedIn
      else Function.update w.derivedIn handle ((w.asked t).map (·.2))
    | _, _ => w.derivedIn
  | _ => w.derivedIn

def step (a : ModuleAction Tid) : Traced Tid :=
  ⟨w.process.step a, w.noteCall a, w.noteKey a⟩

variable {w}

lemma asked_of_not_idle {t : Tid} (hidle : w.process.threads t ≠ .idle) (a : ModuleAction Tid) :
    (w.step a).asked t = w.asked t := by
  show w.noteCall a t = w.asked t
  unfold noteCall
  split
  · next t' c now =>
    cases hpc : w.process.threads t' with
    | idle =>
      have hne : t ≠ t' := by
        rintro rfl
        exact hidle hpc
      exact Function.update_of_ne hne _ _
    | calling | closing | draining => rfl
  · rfl

lemma asked_of_call {t : Tid} {a : ModuleAction Tid} (ha : a.isCallOf t)
    (hidle : w.process.threads t = .idle) : (w.step a).asked t = w.askedBy t a := by
  obtain ⟨c, now, rfl⟩ := ha
  show w.noteCall (.call t c now) t = _
  simp [noteCall, hidle]

lemma asked_of_calling {t : Tid} {a : ModuleAction Tid} (ha : a.isCallOf t)
    (hidle : w.process.threads t = .idle)
    {c : Calling} (hpc : (w.process.step a).threads t = .calling c) {state : SessionState}
    (hlib : w.process.lib = some state) : (w.step a).asked t = some (c, state) := by
  rw [asked_of_call ha hidle, askedBy, hpc, hlib]

lemma asked_of_looks {t : Tid} {a : ModuleAction Tid} (ha : a.isCallOf t)
    (hidle : w.process.threads t = .idle) {todo : List Section} {answer : Answer}
    (hpc : (w.process.step a).threads t = .closing todo answer) : (w.step a).asked t = none := by
  rw [asked_of_call ha hidle, askedBy, hpc]

end Traced

/-- where a thread is, as it is counted or not and has made a call or not -/
def Placed (counted : Prop) (asked : Option Calling) : Pc → Prop
  | .idle | .draining => ¬ counted
  | .calling c => counted ∧ asked = some c
  | .closing todo answer => (counted ↔ todo.any Section.isRelease = true) ∧
    match asked with
    | some c => Closes c todo answer
    | none => ∀ x ∈ todo, ∃ h slot, x = .recordActive h slot 0 none

variable {pc : Pc} {x : Section} {rest : List Section} {answer : Answer} {c : Calling}
  {made : SessionState}

lemma Placed.not_counted {counted : Prop} {asked : Option Calling} (h : Placed counted asked pc)
    (hr : pc.rests = true) : ¬ counted := by
  cases pc with
  | idle | draining => exact h
  | calling => cases hr
  | closing todo answer =>
    cases todo with
    | nil => exact fun hc => Bool.false_ne_true (h.1.mp hc)
    | cons => cases hr

structure Tracks (w : Traced Tid) : Prop where
  alive : w.process.guards ≠ [] → w.process.lib.isSome = true
  nodup : w.process.guards.Nodup
  placed : ∀ t, Placed (t ∈ w.process.guards) ((w.asked t).map (·.1)) (w.process.threads t)
  sound : ∀ {state}, w.process.lib = some state → state.Sound
  made : ∀ {t c made}, t ∈ w.process.guards → w.asked t = some (c, made) → made.Sound ∧
    made.Asks c ∧
    ∀ {state}, w.process.lib = some state → made.SessionsFrom state

variable {w : Traced Tid} {t : Tid} {a : ModuleAction Tid}

lemma tracks_start : Tracks ({} : Traced Tid) :=
  ⟨absurd rfl, nodup_nil, fun _ => not_mem_nil, nofun, fun h => absurd h not_mem_nil⟩

lemma Tracks.asked_eq (h : Tracks w) (ht : t ∈ w.process.guards) (a : ModuleAction Tid) :
    (w.step a).asked t = w.asked t := by
  refine Traced.asked_of_not_idle (fun hidle => ?_) a
  have hp := h.placed t
  rw [hidle] at hp
  exact hp ht

lemma Tracks.guards_nil (h : Tracks w) (hlib : w.process.lib = none) : w.process.guards = [] := by
  by_contra hne
  have ha := h.alive hne
  rw [hlib] at ha
  cases ha

/-- the call of a thread that has a section other than a new model left: it is counted, and the
section is the call's -/
lemma Tracks.call (h : Tracks w) (hpc : w.process.threads t = .closing (x :: rest) answer)
    (ha : w.asked t = some (c, made)) : x.Of c answer ∧
    (x.isPublish = true ∨ t ∈ w.process.guards) := by
  have hp := h.placed t
  rw [hpc, ha] at hp
  obtain ⟨hc, hcl⟩ := hp
  refine ⟨hcl.own x mem_cons_self, ?_⟩
  rcases hcl.guarded x mem_cons_self with hpu | hr
  · exact .inl hpu
  · exact .inr (hc.mpr hr)

lemma Tracks.closes (h : Tracks w) {todo : List Section}
    (hpc : w.process.threads t = .closing todo answer) (ha : w.asked t = some (c, made)) :
    Closes c todo answer := by
  have hp := h.placed t
  rw [hpc, ha] at hp
  exact hp.2

lemma Tracks.no_call (h : Tracks w) (hpc : w.process.threads t = .closing (x :: rest) answer)
    (ha : w.asked t = none) : ∃ handle slot, x = .recordActive handle slot 0 none := by
  have hp := h.placed t
  rw [hpc, ha] at hp
  exact hp.2 x mem_cons_self

lemma Tracks.session_lt (h : Tracks w) (ht : t ∈ w.process.guards) (ha : w.asked t = some (c, made))
    {handle : Nat} (hs : c.session? = some handle) {state : SessionState}
    (hst : w.process.lib = some state) : handle < state.nextSession := by
  obtain ⟨hso, hask, hf⟩ := h.made ht ha
  obtain ⟨session, ho, -⟩ := hask.session hs
  exact Nat.lt_of_lt_of_le (hso.below ho) (hf hst).nextSession

lemma Tracks.state (h : Tracks w) {lib : Option SessionState} {guards : List Tid}
    (hm : w.process.Move t a lib guards pc) {state' : SessionState} (hlib : lib = some state') :
    (w.process.lib = none ∧ state' = {}) ∨ ∃ state, w.process.lib = some state ∧ state'.Sound ∧
      state.SessionsFrom state' := by
  have hs {state : SessionState} (hst : w.process.lib = some state)
    (hste : state.SmallStep state') :
      ∃ state, w.process.lib = some state ∧ state'.Sound ∧ state.SessionsFrom state' :=
    ⟨state, hst, hste.quiet.sound (h.sound hst), hste.quiet.toSessionsFrom⟩
  cases hm with
  | returns | drains | looks | answered => exact .inr (hs hlib .same)
  | loads _ hn => exact .inl ⟨hn, (Option.some.inj hlib).symm⟩
  | unloads => cases hlib
  | within _ _ hst =>
    cases hlib
    exact .inr (hs hst (SessionState.within_small _ _))
  | refreshes _ _ hst =>
    cases hlib
    exact .inr (hs hst .same)
  | inquires _ _ hst =>
    cases hlib
    exact .inr (hs hst (.checked _ _))
  | asks _ _ hst =>
    cases hlib
    exact .inr (hs hst (SessionState.updateSession_small _ _ fun _ => rfl))
  | @performs now x rest answer =>
    obtain ⟨state, hst, rfl⟩ := Option.map_eq_some_iff.mp hlib
    exact .inr ⟨state, hst, (x.makes _ now state).sound (h.sound hst)⟩

lemma Tracks.placed_move (h : Tracks w) (hm : w.process.Moved a (w.process.step a) t) :
    Placed (t ∈ (w.process.step a).guards) (((w.step a).asked t).map (·.1))
      ((w.process.step a).threads t) := by
  have hp := h.placed t
  have hmo := hm.move
  generalize hg : (w.process.step a).guards = guards at hmo ⊢
  generalize hpc : (w.process.step a).threads t = pc at hmo ⊢
  generalize hlib : (w.process.step a).lib = lib at hmo
  cases hmo with
  | returns hre | loads hre | unloads hre | drains hre => exact hp.not_counted hre
  | within _ hidle => exact hp.not_counted (hidle ▸ rfl)
  | looks ha hidle handle slot =>
    rw [Traced.asked_of_looks ha hidle hpc]
    have ho := hp.not_counted (hidle ▸ rfl)
    exact ⟨⟨fun hin => absurd hin ho, Bool.noConfusion⟩,
      forall_mem_singleton.mpr ⟨handle, slot, rfl⟩⟩
  | refreshes ha hidle hs | inquires ha hidle hs | asks ha hidle hs =>
    rw [Traced.asked_of_calling ha hidle hpc hs]
    exact ⟨mem_cons_self, rfl⟩
  | answered hc hr =>
    rw [Traced.asked_of_not_idle (by rw [hc]; nofun) a]
    rw [hc] at hp
    obtain ⟨hco, hask⟩ := hp
    have hcon := concludes_conclude hr
    rw [hask]
    exact ⟨⟨fun _ => hcon.released, fun _ => hco⟩, hcon.closes⟩
  | @performs now x rest answer ha hcl =>
    rw [Traced.asked_of_not_idle (by rw [hcl]; nofun) a]
    rw [hcl] at hp
    obtain ⟨hco, hclo⟩ := hp
    cases hask : (w.asked t).map (·.1) with
    | none =>
      rw [hask] at hclo
      obtain ⟨handle, slot, rfl⟩ := hclo x mem_cons_self
      exact ⟨hco, fun y hy => hclo y (mem_cons_of_mem _ hy)⟩
    | some c =>
      rw [hask] at hclo
      have hown := hclo.own x mem_cons_self
      refine ⟨?_, hclo.tail fun y _ hy => w.process.perform_answer t now hown hy⟩
      cases hrel : x.isRelease with
      | false =>
        rw [any_cons, hrel, Bool.false_or] at hco
        exact hco
      | true =>
        have hres : rest.any Section.isRelease = false := by
          rw [any_eq_false]
          intro y hy hyr
          have hpu := rel_of_pairwise_cons hclo.after hy hrel
          cases y with
          | release => cases hpu
          | _ => cases hyr
        rw [hres]
        exact ⟨fun hin => absurd hin (List.Nodup.not_mem_erase h.nodup), Bool.noConfusion⟩

/-- a thread that is counted for the first time has just made its call, and has marked its session
-/
lemma just_asked (hm : w.process.Moved a (w.process.step a) t) (ho : t ∉ w.process.guards)
    (hin : t ∈ (w.process.step a).guards) :
    ∃ c state, a.isCallOf t ∧ w.process.lib = some state ∧ (w.step a).asked t = some (c, state) ∧
      state.Asks c ∧
      ∀ h, c.session? = some h →
        (w.process.step a).lib = some (state.updateSession h fun session =>
          { session with rpcInFlight := true }) := by
  have hmo := hm.move
  generalize (w.process.step a).guards = guards at hmo hin
  generalize hpc : (w.process.step a).threads t = pc at hmo
  generalize (w.process.step a).lib = lib at hmo ⊢
  cases hmo with
  | returns | loads | unloads | drains | within | looks | answered => exact absurd hin ho
  | refreshes ha hidle hs =>
    exact ⟨_, _, ha, hs, Traced.asked_of_calling ha hidle hpc hs, trivial, nofun⟩
  | inquires ha hidle hs =>
    exact ⟨_, _, ha, hs, Traced.asked_of_calling ha hidle hpc hs, rfl, nofun⟩
  | asks ha hidle hs hc =>
    obtain ⟨hask, hse⟩ := SessionState.asks_of_check hc
    refine ⟨_, _, ha, hs, Traced.asked_of_calling ha hidle hpc hs, hask, fun h hh => ?_⟩
    rw [Option.some.inj (hse.symm.trans hh)]
  | performs =>
    split at hin
    · exact absurd (mem_of_mem_erase hin) ho
    · exact absurd hin ho

lemma Tracks.counted_cases (h : Tracks w) (ht : t ∈ (w.step a).process.guards) :
    (t ∈ w.process.guards ∧ (w.step a).asked t = w.asked t) ∨
      t ∉ w.process.guards ∧ ∃ c state, a.isCallOf t ∧ w.process.lib = some state ∧
        (w.step a).asked t = some (c, state) ∧
        state.Asks c ∧ ∀ h, c.session? = some h →
          (w.process.step a).lib = some (state.updateSession h fun session =>
            { session with rpcInFlight := true }) := by
  by_cases hin : t ∈ w.process.guards
  · exact .inl ⟨hin, h.asked_eq hin a⟩
  · refine .inr ⟨hin, ?_⟩
    rcases w.process.step_cases a with hv | ⟨t', hm⟩
    · have hp : (w.step a).process = w.process := hv
      rw [hp] at ht
      exact absurd ht hin
    · have ht : t ∈ (w.process.step a).guards := ht
      obtain rfl : t = t' := by
        by_contra hne
        exact hin ((hm.move.mem_guards hne).mp ht)
      exact just_asked hm hin ht

lemma Tracks.step (h : Tracks w) (a : ModuleAction Tid) : Tracks (w.step a) := by
  rcases w.process.step_cases a with hv | ⟨t, hm⟩
  · have hp : (w.step a).process = w.process := hv
    refine ⟨hp ▸ h.alive, hp ▸ h.nodup, fun t => ?_, fun hlib => h.sound (hp ▸ hlib),
      fun ht ha => ?_⟩
    · rw [hp]
      have hpl := h.placed t
      by_cases hidle : w.process.threads t = .idle
      · rw [hidle] at hpl ⊢
        exact hpl
      · rw [Traced.asked_of_not_idle hidle a]
        exact hpl
    · rw [hp] at ht ⊢
      rw [h.asked_eq ht a] at ha
      exact h.made ht ha
  · have hmo := hm.move
    refine ⟨fun hne => ?_, ?_, fun t' => ?_, fun hlib => ?_, fun {t' c made} ht' ha => ?_⟩
    · -- the library goes only when nobody is counted
      have hne : (w.process.step a).guards ≠ [] := hne
      show (w.process.step a).lib.isSome = true
      generalize (w.process.step a).guards = guards at hmo hne
      generalize (w.process.step a).lib = lib at hmo ⊢
      generalize (w.process.step a).threads t = pc at hmo
      cases hmo with
      | returns | drains | looks | answered => exact h.alive hne
      | loads | within | refreshes | inquires | asks => rfl
      | unloads _ hg => exact absurd hg hne
      | performs =>
        rw [Option.isSome_map]
        refine h.alive fun hni => hne ?_
        rw [hni]
        split <;> rfl
    · show (w.process.step a).guards.Nodup
      have ho : (w.process.threads t).rests = true → t ∉ w.process.guards :=
        (h.placed t).not_counted
      generalize (w.process.step a).guards = guards at hmo ⊢
      generalize (w.process.step a).lib = lib at hmo
      generalize (w.process.step a).threads t = pc at hmo
      cases hmo with
      | returns | loads | unloads | drains | looks | within | answered => exact h.nodup
      | refreshes _ hidle | inquires _ hidle | asks _ hidle =>
        exact nodup_cons.mpr ⟨ho (hidle ▸ rfl), h.nodup⟩
      | performs =>
        split
        · exact h.nodup.erase t
        · exact h.nodup
    · by_cases htt : t' = t
      · rw [htt]
        exact h.placed_move hm
      · show Placed (t' ∈ (w.process.step a).guards) _ ((w.process.step a).threads t')
        rw [hm.others t' htt]
        have hpl := h.placed t'
        rw [← hmo.mem_guards htt] at hpl
        by_cases hidle : w.process.threads t' = .idle
        · rw [hidle] at hpl ⊢
          exact hpl
        · rw [Traced.asked_of_not_idle hidle a]
          exact hpl
    · rcases h.state hmo hlib with ⟨-, rfl⟩ | ⟨state, -, hs, -⟩
      · exact SessionState.sound_init
      · exact hs
    · rcases h.counted_cases ht' with ⟨hin, hsa⟩ | ⟨-, calling, state, -, hst, ha', hask, -⟩
      · rw [hsa] at ha
        obtain ⟨hs, hask, hf⟩ := h.made hin ha
        refine ⟨hs, hask, fun hlib => ?_⟩
        rcases h.state hmo hlib with ⟨hn, -⟩ | ⟨state, hst, -, hste⟩
        · rw [h.guards_nil hn] at hin
          exact absurd hin not_mem_nil
        · exact (hf hst).trans hste
      · rw [ha'] at ha
        cases ha
        refine ⟨h.sound hst, hask, fun hlib => ?_⟩
        rcases h.state hmo hlib with ⟨hn, -⟩ | ⟨state', hst', -, hste⟩
        · rw [hst] at hn
          cases hn
        · rw [hst] at hst'
          cases hst'
          exact hste

end Trace

end LibreAgent.Pkcs11Agent
