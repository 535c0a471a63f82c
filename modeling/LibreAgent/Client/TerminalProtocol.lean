import LibreAgent.Client.AgentOperation

/-!
# One terminal outcome

* `Terminal` : `finished` was signalled, or queued, once if the operation has finished and never
  before; the stall timer runs neither at a prompt nor after the end;
* `Holds` : an operation that has finished well holds a result of its own kind;
* `terminal_outcome` : all of it in every run in which only payloads of the operation's own kind
  arrive (`OwnKind`).

`onResult` and `recoverResult` take a payload of any kind for the result:
`foreign_payload_finishes_ok`.
-/

namespace LibreAgent.Client

open OrdMap Runs
open Wire (OperationPhase OperationStatus ErrorCode)

namespace AgentOperation
variable {op op' : AgentOperation} {own ctor : Prop}

/-! ## What a call is made of -/

/-- a payload is of the kind of the operation, and nobody ends it as a success from outside -/
def OwnKind (op : AgentOperation) : OperationCall → Prop
  | .result payload => payload.kind.toKind = op.kind
  | .finished _ _ _ _ reply => ∀ payload ∈ reply, payload.kind.toKind = op.kind
  | .terminate status _ _ _ _ => status ≠ .ok
  | _ => True

instance : ∀ (op : AgentOperation) (c : OperationCall), Decidable (op.OwnKind c)
  | op, .result payload => inferInstanceAs (Decidable (payload.kind.toKind = op.kind))
  | op, .finished _ _ _ _ reply =>
    inferInstanceAs (Decidable (∀ payload ∈ reply, payload.kind.toKind = op.kind))
  | _, .terminate status _ _ _ _ => inferInstanceAs (Decidable (status ≠ .ok))
  | _, .phaseChanged _ | _, .groupReady _ _ | _, .certificateDer _ _ | _, .stallTimeout
  | _, .setStallBudget _
  | _, .failEntry _ | _, .deliverQueued => inferInstanceAs (Decidable True)

/-- one of the things a call does.  If the call is `own`, a payload has the operation's kind and a
success has been seen. -/
inductive Part (own ctor : Prop) (op : AgentOperation) : AgentOperation → Prop where
  | held (phase : OperationPhase) : Part own ctor op (armForPhase { op with phase := phase } phase)
  | budget (milliseconds : Int) : Part own ctor op { op with stallBudgetMs := milliseconds }
  | stop : Part own ctor op { op with stallTimer := none }
  | window (hctor : ctor) (inCtorRecovery : Bool) :
      Part own ctor op { op with inCtorRecovery := inCtorRecovery }
  | result (payload : OperationPayload) (hkind : own → payload.kind.toKind = op.kind) :
      Part own ctor op (op.onResult payload)
  | dropFetch : Part own ctor op { op with derToken := 0 }
  | fetched (der : Bytes) (hfetch : op.derToken ≠ 0) :
      Part own ctor op { op with
          derToken := 0, der := der, resultSeen := true,
          stored := .certificateDer :: op.stored }
  | emit (v : Verdict) (hseen : own → v.status = .ok → op.resultSeen = true) :
      Part own ctor op (op.emitFinishedOnce v)
  | deliver (hqueued : op.queued ≠ 0) : Part own ctor op
      { op with queued := op.queued - 1, emitted := op.emitted + 1 }

abbrev Parts (own ctor : Prop) : AgentOperation → AgentOperation → Prop :=
  Relation.ReflTransGen (Part own ctor)

lemma Part.parts (h : Part own ctor op op') : Parts own ctor op op' := .single h

lemma error_ne_ok : OperationStatus.error ≠ .ok := by
  decide

lemma recoverResult_cases (op : AgentOperation) (reply : Option OperationPayload) :
    op.recoverResult reply = (op, false) ∨ ∃ payload ∈ reply, op.recoverResult reply =
      (op.onResult payload, true) := by
  cases reply with
  | none => exact .inl rfl
  | some payload =>
    by_cases hr : isRecoverable payload = true
    · exact .inr ⟨payload, rfl, if_pos hr⟩
    · exact .inl (if_neg hr)

variable {reply : Option OperationPayload}

/-- the pull, and then the signal: the terminal outcome if something was recovered, a communication
error if not -/
lemma recover_parts {terminal lost : Verdict} (hl : lost.status = .error)
    (hr : own → ∀ payload ∈ reply, payload.kind.toKind = op.kind) :
    Parts own ctor op ((op.recoverResult reply).1.emitFinishedOnce
      (if (op.recoverResult reply).2 = true then terminal else lost)) := by
  rcases recoverResult_cases op reply with h | ⟨payload, hm, h⟩
  · rw [h]
    refine (Part.emit lost fun _ hok => ?_).parts
    exact absurd (hl.symm.trans hok) error_ne_ok
  · rw [h]
    have hs : Part own ctor op (op.onResult payload) := .result payload fun ho => hr ho payload hm
    exact hs.parts.tail (.emit terminal fun _ _ => rfl)

lemma finalizeTerminal_parts (status : OperationStatus) (code : ErrorCode) (key fallback : Bytes)
    (hr : own → ∀ payload ∈ reply, payload.kind.toKind = op.kind) :
    Parts own ctor op (op.finalizeTerminal status code key fallback reply) := by
  unfold finalizeTerminal
  by_cases hc : (!op.resultSeen && op.kind = .credentials) = true
  · rw [if_pos hc]
    exact recover_parts rfl hr
  · rw [if_neg hc]
    by_cases hok : ((if isKnownStatus status then status else .error) = .ok && !op.resultSeen) =
      true
    · rw [if_pos hok]
      exact recover_parts rfl hr
    · rw [if_neg hok]
      refine (Part.emit _ fun _ hs => ?_).parts
      -- with a success and no result the branch before would have been taken
      by_contra hse
      refine hok ?_
      rw [Bool.and_eq_true, Bool.not_eq_true']
      exact ⟨decide_eq_true hs, Bool.eq_false_of_not_eq_true hse⟩

lemma setStallBudget_parts (milliseconds : Int) :
    Parts own ctor op (op.setStallBudget milliseconds) := by
  unfold setStallBudget
  have hs : Part own ctor op { op with stallBudgetMs := milliseconds } := .budget milliseconds
  by_cases h : (op.stallTimer.isSome || milliseconds ≤ 0) = true
  · rw [if_pos h]
    exact hs.parts.tail (.held op.phase)
  · rw [if_neg h]
    exact hs.parts

lemma onCertificateDer_parts (token : Nat) (outcome : DerOutcome) :
    Parts own ctor op (op.onCertificateDer (token + 1) outcome) := by
  unfold onCertificateDer
  by_cases ht : token + 1 ≠ op.derToken
  · rw [if_pos ht]
  · rw [if_neg ht]
    have hf : op.derToken ≠ 0 := fun h0 => ht (h0 ▸ Nat.succ_ne_zero token)
    by_cases he : outcome.error.isError = true
    · rw [if_pos he]
      exact (Part.dropFetch).parts.tail (.emit _ nofun)
    · rw [if_neg he]
      exact (Part.fetched outcome.der hf).parts.tail (.emit _ fun _ _ => rfl)

lemma giveUpStalled_parts : Parts own ctor op op.giveUpStalled := by
  unfold giveUpStalled
  by_cases h : op.finishedEmitted = true
  · rw [if_pos h]
  · rw [if_neg h]
    exact (Part.dropFetch).parts.tail (.emit _ nofun)

lemma step_parts (op : AgentOperation) (c : OperationCall) :
    Parts (op.OwnKind c) (c.isFailEntry = true) op (op.step c) := by
  cases c with
  | phaseChanged phase =>
    show Parts _ _ op (op.onPhaseChanged phase)
    unfold onPhaseChanged
    by_cases hk : isKnownPhase phase = true
    · rw [if_pos hk]
      exact (Part.held phase).parts
    · rw [if_neg hk]
      exact (Part.held op.phase).parts
  | groupReady => exact .refl
  | result payload => exact (Part.result payload id).parts
  | finished status code key fallback reply =>
    exact finalizeTerminal_parts status code key fallback id
  | certificateDer token outcome => exact onCertificateDer_parts token outcome
  | stallTimeout =>
    show Parts _ _ op (if op.stallTimer.isSome = true then giveUpStalled
      { op with stallTimer := none } else op)
    by_cases h : op.stallTimer.isSome = true
    · rw [if_pos h]
      exact .head .stop giveUpStalled_parts
    · rw [if_neg h]
  | setStallBudget milliseconds => exact setStallBudget_parts milliseconds
  | terminate status code call key fallback =>
    have he : Part (status ≠ .ok) (false = true) op (op.terminate status code call key fallback) :=
      .emit _ fun hown hok => absurd hok hown
    exact he.parts
  | failEntry error =>
    have ho : Parts True (true = true) op { op with inCtorRecovery := true } :=
      (Part.window rfl true).parts
    exact (ho.tail (.emit _ fun _ hok => absurd hok error_ne_ok)).tail (.window rfl false)
  | deliverQueued =>
    show Parts _ _ op (if op.queued = 0 then op
      else { op with queued := op.queued - 1, emitted := op.emitted + 1 })
    by_cases h : op.queued = 0
    · rw [if_pos h]
    · rw [if_neg h]
      exact (Part.deliver h).parts

/-! ## The signal and the clock -/

structure Terminal (op : AgentOperation) : Prop where
  once : op.emitted + op.queued = op.finishedEmitted.toNat
  clock : op.stallTimer.isSome = true → op.finishedEmitted = false ∧ personAtPrompt op.phase = false

lemma Terminal.part (hp : Part own ctor op op') (h : Terminal op) : Terminal op' := by
  cases hp with
  | held phase =>
    unfold armForPhase
    split
    · exact ⟨h.once, nofun⟩
    · rename_i hr
      simp only [Bool.or_eq_true, not_or, Bool.not_eq_true] at hr
      exact ⟨h.once, fun _ => ⟨hr.1.1, hr.2⟩⟩
  | stop => exact ⟨h.once, nofun⟩
  | budget | window | dropFetch | fetched => exact ⟨h.once, h.clock⟩
  | result payload => cases payload <;> exact ⟨h.once, h.clock⟩
  | emit v =>
    unfold emitFinishedOnce
    by_cases hf : op.finishedEmitted = true
    · rw [if_pos hf]
      exact h
    · rw [if_neg hf]
      have ho := h.once
      rw [Bool.eq_false_of_not_eq_true hf, Bool.toNat_false] at ho
      by_cases hw : op.inCtorRecovery = true
      · rw [if_pos hw]
        exact ⟨congrArg (· + 1) ho, nofun⟩
      · rw [if_neg hw]
        refine ⟨?_, nofun⟩
        show op.emitted + 1 + op.queued = 1
        omega
  | deliver hq =>
    refine ⟨?_, h.clock⟩
    rw [← h.once]
    show op.emitted + 1 + (op.queued - 1) = op.emitted + op.queued
    omega

/-! ## The verdict -/

def Closed (v : Verdict) (op : AgentOperation) : Prop :=
  op.finishedEmitted = true ∧ op.verdict = v

lemma Closed.part {v : Verdict} (hp : Part own ctor op op') (h : Closed v op) : Closed v op' := by
  cases hp with
  | held phase =>
    unfold armForPhase
    split <;> exact h
  | budget | stop | window | dropFetch | fetched | deliver => exact h
  | result payload => cases payload <;> exact h
  | emit v' =>
    rw [emitFinishedOnce, if_pos h.1]
    exact h

/-! ## The result -/

structure Holds (op : AgentOperation) : Prop where
  seen : op.resultSeen = true → op.kind ∈ op.stored
  fetching : op.derToken ≠ 0 → op.kind = .certificateDer
  own : op.finishedEmitted = true → op.verdict.status = .ok → op.kind ∈ op.stored

lemma Holds.part (ho : own) (hp : Part own ctor op op') (h : Holds op) : Holds op' := by
  cases hp with
  | held phase =>
    unfold armForPhase
    split <;> exact { h with }
  | budget | stop | window | deliver => exact { h with }
  | dropFetch => exact ⟨h.seen, absurd rfl, h.own⟩
  | fetched der hf =>
    have hs : op.kind ∈ Kind.certificateDer :: op.stored := h.fetching hf ▸ List.mem_cons_self
    exact ⟨fun _ => hs, absurd rfl, fun _ _ => hs⟩
  | result payload hk =>
    have hs : op.kind ∈ payload.kind.toKind :: op.stored := hk ho ▸ List.mem_cons_self
    cases payload <;> exact ⟨fun _ => hs, h.fetching, fun _ _ => hs⟩
  | emit v hse =>
    unfold emitFinishedOnce
    split
    · exact h
    · have hv (hok : v.status = .ok) : op.kind ∈ op.stored := h.seen (hse ho hok)
      dsimp only
      split <;> exact ⟨h.seen, h.fetching, fun _ => hv⟩

end AgentOperation

open AgentOperation

/-! ## Minted operations -/

def Minting.OwnKind : Minting → Prop
  | .started kind _ reply => ∀ payload ∈ reply, payload.kind = kind
  | _ => True

instance : ∀ m : Minting, Decidable m.OwnKind
  | .started kind _ reply => inferInstanceAs (Decidable (∀ payload ∈ reply, payload.kind = kind))
  | .refused _ | .certificateDer _ => inferInstanceAs (Decidable True)

def Minting.blank : Minting → AgentOperation
  | .started kind _ _ => { kind := kind.toKind }
  | .refused kind => { kind := kind }
  | .certificateDer token => { kind := .certificateDer, derToken := token }

lemma Minting.terminal_blank (m : Minting) : Terminal m.blank := by
  cases m <;> exact ⟨rfl, nofun⟩

lemma Minting.holds_blank (m : Minting) : Holds m.blank := by
  cases m with
  | started | refused => exact ⟨nofun, absurd rfl, nofun⟩
  | certificateDer => exact ⟨nofun, fun _ => rfl, nofun⟩

lemma Minting.parts (m : Minting) : Parts m.OwnKind True m.blank m.operation := by
  cases m with
  | started kind snapshot reply =>
    let op : AgentOperation := { kind := kind.toKind, inCtorRecovery := true }
    have hr : Parts (∀ payload ∈ reply, payload.kind = kind) True op
      (op.recoverIfAlreadyFinished snapshot reply) := by
      unfold recoverIfAlreadyFinished
      split
      · exact .refl
      · split
        · refine finalizeTerminal_parts _ _ _ _ fun hown payload hm => ?_
          exact congrArg OperationKind.toKind (hown payload hm)
        · exact .refl
    have ho : Parts (∀ payload ∈ reply, payload.kind = kind) True { kind := kind.toKind } op :=
      (Part.window trivial true).parts
    exact ((ho.trans hr).tail (.window trivial false)).tail (.held _)
  | refused kind => exact .refl
  | certificateDer token =>
    let op : AgentOperation := { kind := .certificateDer, derToken := token }
    have hh : Part True True op (armForPhase op .created) := .held .created
    exact hh.parts

structure TerminalLaws (op : AgentOperation) : Prop where
  /-- one signal, delivered or on its way, once the operation has finished, and none before -/
  once : op.emitted + op.queued = op.finishedEmitted.toNat
  /-- the polled state is final, whatever is called afterwards -/
  settled : op.finishedEmitted = true → ∀ calls, (run step op calls).verdict = op.verdict
  stopped : op.finishedEmitted = true ∨ personAtPrompt op.phase = true → op.stallTimer = none
  own : op.finishedEmitted = true → op.verdict.status = .ok → op.kind ∈ op.stored

/-- In every run of calls that bring only payloads of the operation's own kind, there is one
terminal outcome at most, it is final, the stall timer rests at a prompt and after the end, and a
success holds a result of its own kind. -/
theorem terminal_outcome {m : Minting} {calls : List OperationCall} (hm : m.OwnKind)
    (hcalls : Along step OwnKind m.operation calls) :
    TerminalLaws (run step m.operation calls) := by
  have ht : Terminal (run step m.operation calls) :=
    run_invariant (fun op c h => (step_parts op c).keeps Terminal.part h)
      (m.parts.keeps Terminal.part m.terminal_blank) calls
  have hh : Holds (run step m.operation calls) :=
    run_invariant_along (fun op c hc h => (step_parts op c).keeps (Holds.part hc) h)
      (m.parts.keeps (Holds.part hm) m.holds_blank) hcalls
  refine ⟨ht.once, fun hf more => ?_, fun hr => ?_, hh.own⟩
  · have hcl : Closed _ (run step (run step m.operation calls) more) :=
      run_invariant (fun op c h => (step_parts op c).keeps Closed.part h) ⟨hf, rfl⟩ more
    exact hcl.2
  · rw [← Option.not_isSome_iff_eq_none]
    intro hru
    obtain ⟨hf, hp⟩ := ht.clock hru
    rcases hr with hr | hr
    · exact nomatch hf.symm.trans hr
    · exact nomatch hp.symm.trans hr

def signedRun : List OperationCall :=
  [.phaseChanged .awaitingConsent, .phaseChanged .signing,
      .result (.sign (some 0) ⟨[], [], false, true⟩),
    .finished .ok .none [] [] none]

theorem terminal_outcome_sign : Minting.OwnKind (.started .sign none none) ∧
      Along step OwnKind (Minting.operation (.started .sign none none)) signedRun ∧
      TerminalLaws (run step (Minting.operation (.started .sign none none)) signedRun) :=
  ⟨nofun, by decide +kernel, terminal_outcome (m := .started .sign none none) nofun
      (by decide +kernel)⟩

/-- the result that arrives is an identity, and the signing ends well without an artifact -/
theorem foreign_payload_finishes_ok : ¬ TerminalLaws
    (run step (Minting.operation (.started .sign none none))
      [.result (.identity SortedMap.empty), .finished .ok .none [] [] none]) := by
  intro h
  have ho := h.own (by decide +kernel) (by decide +kernel)
  revert ho
  decide +kernel

end LibreAgent.Client
