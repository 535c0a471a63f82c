import LibreAgent.Operations.PromptPath

/-!
# Calls of `requestCancel`, step by step

* `CancelStep` : what a step of the operation does to the calls under way.
-/

set_option linter.unusedSectionVars false

namespace LibreAgent.Operations

open Function OperationPhase

variable {Tid : Type*} [DecidableEq Tid]

/-! ## The threads that cancel -/

def TimerPc.cancelStage : TimerPc → Option CancelStage
  | .cancelling stage => some stage
  | _ => none

def OtherPc.cancelStage : OtherPc → Option CancelStage
  | .cancelling stage _ => some stage
  | _ => none

def TimerPc.isFinishing : TimerPc → Bool
  | .finishing => true
  | _ => false

def OtherPc.isFinishing : OtherPc → Bool
  | .finishing => true
  | _ => false

def CancelStage.previous : CancelStage → Option UInt32
  | .load => none
  | .store p | .trip p | .dismiss p => some p

namespace Operation

def cancelStage (s : Operation Tid) : Caller Tid → Option CancelStage
  | .worker => none
  | .timer n => (s.timers n).cancelStage
  | .other t => (s.others t).cancelStage

/-- the caller is in `finish`, after its call of `requestCancel` -/
def isFinisher (s : Operation Tid) : Caller Tid → Bool
  | .worker => false
  | .timer n => (s.timers n).isFinishing
  | .other t => (s.others t).isFinishing

end Operation

structure CancelStep (s s' : Operation Tid) (move : Option (CancelMove Tid)) : Prop where
  under : ∀ {who stage}, s'.cancelStage who = some stage →
    (∃ earlier, s.cancelStage who = some earlier) ∨ move = some (.begins who)
  seen : ∀ {who stage p}, s'.cancelStage who = some stage → stage.previous = some p →
    p = s.phase ∨ ∃ earlier, s.cancelStage who = some earlier ∧ earlier.previous = some p
  tripped : ∀ {who p}, s'.cancelStage who = some (.dismiss p) → s'.token = true ∨
    s.cancelStage who = some (.dismiss p)
  ends : ∀ {who p}, move = some (.ends who p) → s.cancelStage who = some (.dismiss p) ∧
    s'.cancelStage who = none
  token : s.token = true → s'.token = true
  finisher : ∀ {who}, s'.isFinisher who = true → s.isFinisher who = true ∨
    ∃ p, move = some (.ends who p)

namespace CancelStep
variable {s s' : Operation Tid} {setup : Setup}

/-- the caller is where it was -/
def Same (s s' : Operation Tid) (who : Caller Tid) : Prop :=
  s'.cancelStage who = s.cancelStage who ∧ s'.isFinisher who = s.isFinisher who

lemma still (h : ∀ who, Same s s' who ∨ s'.cancelStage who = none ∧ s'.isFinisher who = false)
    (ht : s.token = true → s'.token = true) : CancelStep s s' none := by
  have hso {who stage} (hs' : s'.cancelStage who = some stage) :
      s.cancelStage who = some stage := by
    rcases h who with ⟨heq, -⟩ | ⟨hn, -⟩
    · exact heq.symm.trans hs'
    · rw [hn] at hs'
      cases hs'
  have hfi {who} (hf : s'.isFinisher who = true) : s.isFinisher who = true := by
    rcases h who with ⟨-, heq⟩ | ⟨-, hn⟩
    · exact heq.symm.trans hf
    · rw [hn] at hf
      cases hf
  exact ⟨fun h => .inl ⟨_, hso h⟩, fun h hp => .inr ⟨_, hso h, hp⟩, fun h => .inr (hso h), nofun,
      ht, fun h => .inl (hfi h)⟩

lemma moves {who : Caller Tid} {move : Option (CancelMove Tid)}
    (ho : ∀ u, u ≠ who → Same s s' u)
    (hu : ∀ stage, s'.cancelStage who = some stage →
      (∃ earlier, s.cancelStage who = some earlier) ∨ move = some (.begins who))
    (hs : ∀ stage p, s'.cancelStage who = some stage → stage.previous = some p →
      p = s.phase ∨ ∃ earlier, s.cancelStage who = some earlier ∧ earlier.previous = some p)
    (ht : ∀ p, s'.cancelStage who = some (.dismiss p) → s'.token = true ∨ s.cancelStage who =
      some (.dismiss p))
    (he : ∀ u p, move = some (.ends u p) →
      u = who ∧ s.cancelStage who = some (.dismiss p) ∧ s'.cancelStage who = none)
        (hto : s.token = true → s'.token = true)
    (hf : s'.isFinisher who = true → s.isFinisher who = true ∨ ∃ p, move = some (.ends who p)) :
    CancelStep s s' move := by
  refine ⟨fun {u stage} h => ?_, fun {u stage p} h hp => ?_, fun {u p} h => ?_, fun {u p} h => ?_,
      hto, fun {u} h => ?_⟩
  all_goals rcases eq_or_ne u who with rfl | hne
  · exact hu stage h
  · exact .inl ⟨stage, (ho u hne).1 ▸ h⟩
  · exact hs stage p h hp
  · exact .inr ⟨stage, (ho u hne).1 ▸ h, hp⟩
  · exact ht p h
  · exact .inr ((ho u hne).1 ▸ h)
  · exact (he u p h).2
  · exact absurd (he u p h).1 hne
  · exact hf h
  · exact .inl ((ho u hne).2 ▸ h)

lemma same_of (ht : s'.timers = s.timers) (ho : s'.others = s.others) (u : Caller Tid) :
    Same s s' u := by
  cases u <;> simp [Same, Operation.cancelStage, Operation.isFinisher, ht, ho]

lemma same (ht : s'.timers = s.timers) (ho : s'.others = s.others)
    (hto : s.token = true → s'.token = true) : CancelStep s s' none :=
  still (fun who => .inl (same_of ht ho who)) hto

end CancelStep

namespace Operation
variable (setup : Setup) (s : Operation Tid)

lemma setOther_self (t : Tid) (pc : OtherPc) : (s.setOther t pc).others t = pc := update_self ..

lemma cancelStage_setOther (t : Tid) (pc : OtherPc) : (s.setOther t pc).cancelStage (.other t) =
    pc.cancelStage := by
  rw [cancelStage, setOther_self]

lemma isFinisher_setOther (t : Tid) (pc : OtherPc) : (s.setOther t pc).isFinisher (.other t) =
    pc.isFinishing := by
  rw [isFinisher, setOther_self]

def Apace (s s' : Operation Tid) : Prop :=
  s'.timers = s.timers ∧ s'.others = s.others ∧ s'.token = s.token ∧ s'.worker = s.worker

lemma apace_finishBlock (who : Caller Tid) (stage : FinishStage) :
    Apace s (s.finishBlock setup who stage) := by
  cases stage with
  | exchange o | gate o =>
    simp only [finishBlock]
    split <;> exact ⟨rfl, rfl, rfl, rfl⟩
  | _ => exact ⟨rfl, rfl, rfl, rfl⟩

lemma apace_finish (who : Caller Tid) (o : Completion) : Apace s (s.finish setup who o).1 := by
  unfold finish
  split
  · exact ⟨rfl, rfl, rfl, rfl⟩
  · split
    · exact s.apace_finishBlock setup who _
    · exact ⟨rfl, rfl, rfl, rfl⟩
  · exact ⟨rfl, rfl, rfl, rfl⟩

lemma work_threads (pc : RunPc) :
    ((s.work setup pc).timers = s.timers ∨ (s.work setup pc).timers =
      update s.timers s.nextTimer .waiting) ∧
      (s.work setup pc).others = s.others ∧ (s.work setup pc).token = s.token := by
  have hj : ∀ (s' : Operation Tid) why,
      (s'.joined why).timers = s'.timers ∧ (s'.joined why).others = s'.others ∧
        (s'.joined why).token = s'.token := by
    intro s' why
    cases why <;> exact ⟨rfl, rfl, rfl⟩
  cases pc with
  | queued | working | notifying p | grouping | returned => exact ⟨.inl rfl, rfl, rfl⟩
  | spawning p => exact ⟨.inr rfl, rfl, rfl⟩
  | exchanging p | arming p | swapping p | timing p | disarming =>
    simp only [work]
    split <;> exact ⟨.inl rfl, rfl, rfl⟩
  | assigning p n =>
    simp only [work]
    split
    · exact ⟨.inl rfl, rfl, rfl⟩
    · split <;> exact ⟨.inl rfl, rfl, rfl⟩
  | stopping why =>
    simp only [work]
    split
    · obtain ⟨ht, ho, hto⟩ := hj s why
      exact ⟨.inl ht, ho, hto⟩
    · exact ⟨.inl rfl, rfl, rfl⟩
  | joining n why =>
    simp only [work]
    split
    · obtain ⟨ht, ho, hto⟩ := hj { s with watchdog := none } why
      exact ⟨.inl ht, ho, hto⟩
    · exact ⟨.inl rfl, rfl, rfl⟩
  | finishing o leaves =>
    obtain ⟨ht, ho, hto, -⟩ := s.apace_finish setup .worker o
    simp only [work]
    split <;> rename_i heq <;> rw [heq] at ht ho hto <;> exact ⟨.inl ht, ho, hto⟩

end Operation

namespace CancelStep
open Operation (cancelStage_setOther isFinisher_setOther)

variable {setup : Setup} {s : Operation Tid}

lemma work : CancelStep s (s.work setup s.worker) none := by
  obtain ⟨ht, ho, hto⟩ := s.work_threads setup s.worker
  rcases ht with ht | ht
  · exact same ht ho hto.trans
  · refine still (fun who => ?_) hto.trans
    cases who with
    | worker => exact .inl ⟨rfl, rfl⟩
    | other t =>
      exact .inl (by simp only [Same, Operation.cancelStage, Operation.isFinisher, ho, and_self])
    | timer n =>
      simp only [Same, Operation.cancelStage, Operation.isFinisher, ht]
      rcases eq_or_ne n s.nextTimer with rfl | hne
      · rw [update_self]
        exact .inr ⟨rfl, rfl⟩
      · rw [update_of_ne hne]
        exact .inl ⟨rfl, rfl⟩

section One
variable {s' : Operation Tid} {who : Caller Tid}

def Alone (s s' : Operation Tid) (who : Caller Tid) : Prop :=
  ∀ u, u ≠ who → Same s s' u

variable {s₁ : Operation Tid}

lemma alone_setTimer (ht : s₁.timers = s.timers) (ho : s₁.others = s.others) (n : Nat)
    (pc : TimerPc) : Alone s (s₁.setTimer n pc) (.timer n) := by
  intro u hne
  cases u with
  | worker | other t =>
    simp [Same, Operation.cancelStage, Operation.isFinisher, Operation.setTimer, ho]
  | timer m =>
    have hm : m ≠ n := fun heq => hne (by rw [heq])
    simp [Same, Operation.cancelStage, Operation.isFinisher, s₁.setTimer_timers_of_ne hm, ht]

lemma alone_setOther (ht : s₁.timers = s.timers) (ho : s₁.others = s.others) (t : Tid)
    (pc : OtherPc) : Alone s (s₁.setOther t pc) (.other t) := by
  intro u hne
  cases u with
  | worker | timer n =>
    simp [Same, Operation.cancelStage, Operation.isFinisher, Operation.setOther, ht]
  | other t' =>
    have hpc : (s₁.setOther t pc).others t' = s₁.others t' :=
      update_of_ne (fun heq => hne (by rw [heq])) ..
    simp [Same, Operation.cancelStage, Operation.isFinisher, hpc, ho]

lemma begins (ho : Alone s s' who) (hs : s'.cancelStage who = some .load) (ht : s'.token = s.token)
    (hf : s'.isFinisher who = false) : CancelStep s s' (some (.begins who)) := by
  refine moves ho (fun _ _ => .inr rfl) (fun stage p h hp => ?_) (fun p h => ?_) nofun
    ht.trans fun h => ?_
  · rw [hs] at h
    cases h
    cases hp
  · rw [hs] at h
    cases h
  · rw [hf] at h
    cases h

lemma advances (setup : Setup) {stage rest : CancelStage} (ho : Alone s s' who)
    (hs : s.cancelStage who = some stage) (hr : (s.requestCancel setup stage).2 = some rest)
    (hs' : s'.cancelStage who = some rest) (ht : s'.token = (s.requestCancel setup stage).1.token)
    (hf : s'.isFinisher who = false) : CancelStep s s' none := by
  refine moves ho (fun _ _ => .inl ⟨stage, hs⟩) (fun later p h hp => ?_) (fun p h => ?_) nofun
    (fun h => ?_) fun h => ?_
  · rw [hs'] at h
    cases h
    cases stage with
    | load =>
      cases hr
      exact .inl (Option.some.inj hp).symm
    | store p' | trip p' =>
      cases hr
      exact .inr ⟨_, hs, hp⟩
    | dismiss p' => cases hr
  · rw [hs'] at h
    cases h
    cases stage with
    | trip p' => exact .inl ht
    | load | store p' | dismiss p' => cases hr
  · rw [ht]
    cases stage with
    | trip p' => rfl
    | load | store p' | dismiss p' => exact h
  · rw [hf] at h
    cases h

lemma returns {p : UInt32} (ho : Alone s s' who) (hs : s.cancelStage who = some (.dismiss p))
    (hs' : s'.cancelStage who = none) (ht : s'.token = s.token) :
    CancelStep s s' (some (.ends who p)) := by
  have hn {stage} : s'.cancelStage who ≠ some stage := by simp [hs']
  refine moves ho (fun _ h => absurd h hn) (fun _ _ h => absurd h hn) (fun _ h => absurd h hn)
    (fun u q h => ?_)
    ht.trans fun _ => .inr ⟨p, rfl⟩
  cases h
  exact ⟨rfl, hs, hs'⟩

lemma goes (ho : Alone s s' who) (hs' : s'.cancelStage who = none) (ht : s'.token = s.token)
    (hf : s'.isFinisher who = false) : CancelStep s s' none := by
  refine still (fun u => ?_) ht.trans
  rcases eq_or_ne u who with rfl | hne
  · exact .inr ⟨hs', hf⟩
  · exact .inl (ho u hne)

end One

lemma timer (n : Nat) : CancelStep s (s.timer setup n (s.timers n)) (s.cancelMove (.timer n)) := by
  have hs :
      ∀ (s₁ : Operation Tid) pc, (s₁.setTimer n pc).cancelStage (.timer n) = pc.cancelStage := by
    intro s₁ pc
    simp [Operation.cancelStage, Operation.setTimer_timers_self]
  have hf :
      ∀ (s₁ : Operation Tid) pc, (s₁.setTimer n pc).isFinisher (.timer n) = pc.isFinishing := by
    intro s₁ pc
    simp [Operation.isFinisher, Operation.setTimer_timers_self]
  simp only [Operation.cancelMove]
  cases hpc : s.timers n with
  | unborn | gone => exact same rfl rfl fun h => h
  | waiting =>
    simp only [Operation.timer]
    split <;> exact goes (alone_setTimer rfl rfl n _) (hs s _) rfl (hf s _)
  | latching => exact begins (alone_setTimer rfl rfl n _) (hs _ _) rfl (hf _ _)
  | cancelling stage =>
    have hst : s.cancelStage (.timer n) = some stage := by
      simp only [Operation.cancelStage, hpc, TimerPc.cancelStage]
    cases stage with
    | load | store p | trip p =>
      exact advances setup (alone_setTimer rfl rfl n _) hst rfl (hs _ _) rfl (hf _ _)
    | dismiss p => exact returns (alone_setTimer rfl rfl n _) hst (hs _ _) rfl
  | finishing =>
    obtain ⟨ht, ho, hto, -⟩ := s.apace_finish setup (.timer n) .watchdogTimeout
    simp only [Operation.timer]
    split <;> rename_i heq <;> rw [heq] at ht ho hto
    · exact same ht ho hto.trans
    · exact goes (alone_setTimer ht ho n _) (hs _ _) hto (hf _ _)

lemma other (t : Tid) : CancelStep s (s.other setup t (s.others t)) (s.cancelMove (.other t)) := by
  simp only [Operation.cancelMove]
  cases hpc : s.others t with
  | idle => exact same rfl rfl fun h => h
  | cancelling stage removed =>
    have hst : s.cancelStage (.other t) = some stage := by
      simp only [Operation.cancelStage, hpc, OtherPc.cancelStage]
    cases stage with
    | load | store p | trip p =>
      exact advances setup (alone_setOther rfl rfl t _) hst rfl (cancelStage_setOther _ t _) rfl
        (isFinisher_setOther _ t _)
    | dismiss p =>
      refine returns (alone_setOther rfl rfl t _) hst ((cancelStage_setOther _ t _).trans ?_) rfl
      cases removed <;> rfl
  | finishing =>
    obtain ⟨ht, ho, hto, -⟩ := s.apace_finish setup (.other t) .cardRemoved
    simp only [Operation.other]
    split <;> rename_i heq <;> rw [heq] at ht ho hto
    · exact same ht ho hto.trans
    · exact goes (alone_setOther ht ho t _) (cancelStage_setOther _ t _) hto
        (isFinisher_setOther _ t _)

lemma begin (t : Tid) (removed : Bool) : CancelStep s (s.begin t removed (s.others t))
    (match s.others t with | .idle => some (.begins (.other t)) | _ => none) := by
  cases hpc : s.others t with
  | idle =>
    exact begins (alone_setOther rfl rfl t _) (cancelStage_setOther _ t _) rfl
      (isFinisher_setOther _ t _)
  | cancelling | finishing => exact same rfl rfl fun h => h

end CancelStep

lemma Operation.cancel_step (setup : Setup) (s : Operation Tid) (a : BaseAction Tid) :
    CancelStep s (s.step setup a) (s.cancelMove a) := by
  cases a with
  | call c =>
    simp only [step, startCall, cancelMove]
    split <;> exact .same rfl rfl fun h => h
  | work => exact .work
  | timer n => exact .timer n
  | requestCancel t => exact .begin t false
  | finishCardRemoved t => exact .begin t true
  | other t => exact .other t
  | shutdown => exact .same rfl rfl fun _ => rfl

/-! ## The phase of a prompt -/

/-- the worker is in the call that sets the phase to `AwaitingConsent`, or has returned from it -/
def RunPc.isConsent : RunPc → Bool
  | .working | .disarming | .stopping .consent | .joining _ .consent => true
  | .exchanging p | .notifying p => p = awaitingConsent.number
  | _ => false

def RunPc.isExchanging : RunPc → Bool
  | .exchanging _ => true
  | _ => false

def RunPc.isWorking : RunPc → Bool
  | .working => true
  | _ => false

lemma RunPc.isExchanging_of_isWorking {pc : RunPc} (h : pc.isWorking = true) :
    pc.isExchanging = false := by
  cases pc with
  | exchanging p => cases h
  | _ => rfl

/-- the phase is `AwaitingConsent`, or about to be -/
def Facing (s : Operation Tid) : Prop :=
  s.worker.isExchanging = true ∨ s.phase = awaitingConsent.number

structure Consents (s s' : Operation Tid) : Prop where
  path : s'.worker.isConsent = true
  working : s.worker.isWorking = true → s'.worker.isWorking = true
  facing : Facing s → Facing s'

namespace Consents
variable {setup : Setup} {s s' : Operation Tid}

lemma same (h : s.worker.isConsent = true) (hwo : s'.worker = s.worker) (hp : s'.phase = s.phase) :
    Consents s s' := by
  refine ⟨hwo ▸ h, fun hw => hwo ▸ hw, fun hf => ?_⟩
  unfold Facing
  rw [hwo, hp]
  exact hf

lemma goes {pc : RunPc} (hpc : s.worker = pc) (hex : pc.isExchanging = false)
    (hwo : pc.isWorking = false)
    (hp : s'.worker.isConsent = true) (hph : s'.phase = s.phase) : Consents s s' := by
  subst hpc
  refine ⟨hp, fun hw => absurd (hwo.symm.trans hw) Bool.false_ne_true, fun hf =>
      .inr (hph.trans ?_)⟩
  exact hf.resolve_left fun he => Bool.false_ne_true (hex.symm.trans he)

lemma work (h : s.worker.isConsent = true) : Consents s (s.work setup s.worker) := by
  cases hpc : s.worker with
  | working => exact same h rfl rfl
  | disarming =>
    simp only [Operation.work]
    split <;> exact goes hpc rfl rfl rfl rfl
  | stopping why =>
    cases why with
    | quiesce =>
      rw [hpc] at h
      cases h
    | consent =>
      simp only [Operation.work]
      split <;> exact goes hpc rfl rfl rfl rfl
  | joining n why =>
    cases why with
    | quiesce =>
      rw [hpc] at h
      cases h
    | consent =>
      simp only [Operation.work]
      split
      · exact goes hpc rfl rfl rfl rfl
      · exact same h rfl rfl
  | notifying p =>
    rw [hpc] at h
    obtain rfl : p = awaitingConsent.number := of_decide_eq_true h
    refine goes hpc rfl rfl ?_ rfl
    simp only [Operation.work, if_pos]
    rfl
  | exchanging p =>
    have hwo : s.worker.isWorking = false := by rw [hpc]; rfl
    rw [hpc] at h
    obtain rfl : p = awaitingConsent.number := of_decide_eq_true h
    simp only [Operation.work]
    split
    · next hph => exact ⟨rfl, fun _ => rfl, fun _ => .inr hph⟩
    · exact ⟨rfl, fun hw => absurd (hwo.symm.trans hw) Bool.false_ne_true, fun _ => .inr rfl⟩
  | queued | arming p | swapping p | timing p | spawning p | assigning p n | grouping
  | finishing o leaves | returned =>
    rw [hpc] at h
    cases h

/-- whoever else takes a step is at the end of the operation, or leaves the phase alone -/
lemma step (h : s.worker.isConsent = true) (a : BaseAction Tid) (ha : Prompts.isCall a = false) :
    Consents s (s.step setup a) ∨ (∃ who, s.isFinisher who = true) ∧ (s.step setup a).worker =
      s.worker := by
  cases a with
  | call c => cases ha
  | work => exact .inl (work h)
  | shutdown => exact .inl (same h rfl rfl)
  | requestCancel t | finishCardRemoved t =>
    simp only [Operation.step]
    cases s.others t <;> exact .inl (same h rfl rfl)
  | timer n =>
    simp only [Operation.step]
    cases hpc : s.timers n with
    | unborn | gone | latching => exact .inl (same h rfl rfl)
    | waiting =>
      simp only [Operation.timer]
      split <;> exact .inl (same h rfl rfl)
    | cancelling stage => cases stage <;> exact .inl (same h rfl rfl)
    | finishing =>
      refine .inr ⟨⟨.timer n, by simp only [Operation.isFinisher, hpc, TimerPc.isFinishing]⟩, ?_⟩
      obtain ⟨-, -, -, hw⟩ := s.apace_finish setup (.timer n) .watchdogTimeout
      simp only [Operation.timer]
      split <;> rename_i heq <;> rw [heq] at hw <;> exact hw
  | other t =>
    simp only [Operation.step]
    cases hpc : s.others t with
    | idle => exact .inl (same h rfl rfl)
    | cancelling stage removed => cases stage <;> exact .inl (same h rfl rfl)
    | finishing =>
      refine .inr ⟨⟨.other t, by simp only [Operation.isFinisher, hpc, OtherPc.isFinishing]⟩, ?_⟩
      obtain ⟨-, -, -, hw⟩ := s.apace_finish setup (.other t) .cardRemoved
      simp only [Operation.other]
      split <;> rename_i heq <;> rw [heq] at hw <;> exact hw

end Consents

end LibreAgent.Operations
