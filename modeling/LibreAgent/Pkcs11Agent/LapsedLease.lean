import LibreAgent.Lib.Runs
import LibreAgent.Pkcs11Agent.Calls

/-!
# An answer about an earlier login

A call is made during one login of a slot, and its answer is applied later.

* `Current` : the login of a call's slot is still the one in which the call was made; it stays so as
  long as no login is recorded for the slot (`Undisturbed`);
* `lapsed_lease_keeps_later` : then an answer that the lease has lapsed ends no later login, and no
  key of one.

`C_GetSessionInfo` compares the generations.  `C_Sign`, `C_Decrypt` and `C_DeriveKey` do not: their
answer ends whatever login the slot has by then (`lapsed_lease_ends_next`).
-/

set_option linter.unusedSectionVars false

namespace LibreAgent.Pkcs11Agent

open Runs Option

section
variable {Tid : Type*} [DecidableEq Tid] {w : Traced Tid} {a : ModuleAction Tid} {t : Tid}

/-! ## Logins that are recorded -/

def Calling.slotIn (c : Calling) (made : SessionState) : Option Nat :=
  c.session?.bind fun h => (made.session h).map (·.slot)

def Traced.records (w : Traced Tid) : ModuleAction Tid → Option Nat
  | .proceed t _ =>
    match w.process.threads t with
    | .closing (.recordLogin h .ok _ _ :: _) _ =>
      w.process.lib.bind fun state => (state.session h).map (·.slot)
    | _ => none
  | _ => none

/-- no login is recorded for a slot while such a call for it is in flight -/
def Undisturbed (p : Calling → Bool) (w : Traced Tid) (a : ModuleAction Tid) : Prop :=
  ∀ slot ∈ w.records a, ∀ t ∈ w.process.guards, ∀ call ∈ w.asked t, p call.1 = true →
    call.1.slotIn call.2 ≠ some slot

instance (p : Calling → Bool) (w : Traced Tid) (a : ModuleAction Tid) :
    Decidable (Undisturbed p w a) :=
  inferInstanceAs (Decidable (∀ _ ∈ _, _))

lemma Tracks.generation (h : Tracks w) {state state' : SessionState}
    (hs : w.process.lib = some state) (hs' : (w.step a).process.lib = some state') (slot : Nat) :
    state'.loginGeneration slot = state.loginGeneration slot ∨ w.records a = some slot := by
  have hsm {state₁ : SessionState} (hl : w.process.lib = some state₁)
    (hst : state₁.SmallStep state') :
      state'.loginGeneration slot = state.loginGeneration slot ∨ w.records a = some slot := by
    rw [hs] at hl
    cases hl
    exact .inl ((hst.keeps (h.sound hs)).generation slot)
  rcases w.process.step_cases a with hv | ⟨t, hm⟩
  · have hp : (w.step a).process = w.process := hv
    rw [hp] at hs'
    exact hsm hs' .same
  · have hmo := hm.move
    have hs' : (w.process.step a).lib = some state' := hs'
    rw [hs'] at hmo
    generalize (w.process.step a).guards = guards at hmo
    generalize (w.process.step a).threads t = pc at hmo
    generalize hl' : some state' = lib at hmo
    cases hmo with
    | returns | drains | looks | answered => exact hsm hl'.symm .same
    | loads _ hn =>
      rw [hs] at hn
      cases hn
    | unloads => cases hl'
    | within _ _ hl =>
      cases hl'
      exact hsm hl (SessionState.within_small _ _)
    | refreshes _ _ hl =>
      cases hl'
      exact hsm hl .same
    | inquires _ _ hl =>
      cases hl'
      exact hsm hl (.checked _ _)
    | asks _ _ hl =>
      cases hl'
      exact hsm hl (SessionState.updateSession_small _ _ fun _ => rfl)
    | @performs now x rest answer ha hpc =>
      rw [hs] at hl'
      cases hl'
      have hma := x.makes w.process.snapshotPublished now state
      generalize x.apply w.process.snapshotPublished now state = state' at hma ⊢
      cases hma with
      | small hst => exact .inl ((hst.keeps (h.sound hs)).generation slot)
      | model model hst =>
        have hk := (state.setModel_keeps model).trans (hst.keeps ((h.sound hs).setModel model))
        exact .inl (hk.generation slot)
      | @login handle _ _ session ho =>
        by_cases hsl : slot = session.slot
        · refine .inr ?_
          subst ha
          simp [Traced.records, hpc, hs, bind_some, ho, map_some, hsl]
        · exact .inl (state.loginGeneration_setLoggedIn_of_ne now hsl)
      | key => exact .inl rfl

/-! ## Calls of the current login -/

def Current (p : Calling → Bool) (w : Traced Tid) : Prop :=
  ∀ t c made state slot, t ∈ w.process.guards → w.asked t = some (c, made) → p c = true →
    w.process.lib = some state →
    c.slotIn made = some slot → state.loginGeneration slot = made.loginGeneration slot

lemma Current.step {p : Calling → Bool} (h : Current p w) (htr : Tracks w)
    (hc : Undisturbed p w a) :
    Current p (w.step a) := by
  intro t c made state' slot ht ha hp hs' hsl
  rcases htr.counted_cases ht with ⟨hin, hsa⟩ | ⟨-, c', state, ⟨call, now, rfl⟩, hs, ha', -⟩
  · rw [hsa] at ha
    obtain ⟨state, hs⟩ := isSome_iff_exists.mp (htr.alive (List.ne_nil_of_mem hin))
    rcases htr.generation hs hs' slot with hsa | hr
    · exact hsa.trans (h t c made state slot hin ha hp hs hsl)
    · exact absurd hsl (hc slot hr t hin _ ha hp)
  · -- the call has just been made
    rw [ha'] at ha
    cases ha
    rcases htr.generation hs hs' slot with hsa | hr
    · exact hsa
    · cases hr

/-! ## Answers that the lease has lapsed -/

def Calling.mayLapse : Calling → Bool
  | .sign _ _ | .decrypt _ _ | .derive _ _ => true
  | .snapshot _ _ | .login _ _ _ | .loginActive _ _ _ _ => false

def Section.lapses : Section → Bool
  | .dropLogin _ | .recordActive _ _ _ _ => true
  | _ => false

def Pc.lapses : Pc → Bool
  | .closing (x :: _) _ => x.lapses
  | _ => false

def Ends (state state' : SessionState) (slot : Nat) : Prop :=
  state.isLoggedIn slot = true ∧ state'.isLoggedIn slot = false ∨
    ∃ handle key, state.derived.lookup handle = some key ∧ key.slot = slot ∧
      state'.derived.lookup handle ≠ some key

/-- an answer that the lease has lapsed ends only the login in which the call was made -/
def KeepsLater (w : Traced Tid) (a : ModuleAction Tid) : Prop :=
  ∀ t now state state' slot, a = .proceed t now → (w.process.threads t).lapses = true →
    w.process.lib = some state →
    (w.step a).process.lib = some state' → Ends state state' slot →
    ∃ c made, w.asked t = some (c, made) ∧ made.loginGeneration slot = state.loginGeneration slot

lemma not_ends_self (state : SessionState) (slot : Nat) : ¬ Ends state state slot := by
  rintro (⟨hin, ho⟩ | ⟨handle, key, hk, -, hg⟩)
  · exact absurd (hin.symm.trans ho) (by decide)
  · exact hg hk

lemma slot_of_ends_endLogin {state : SessionState} {slot slot' : Nat}
    (he : Ends state (state.endLogin slot') slot) : slot = slot' := by
  by_contra hne
  rcases he with ⟨hin, ho⟩ | ⟨handle, key, hk, hs, hg⟩
  · rw [state.isLoggedIn_endLogin_of_ne hne] at ho
    exact absurd (hin.symm.trans ho) (by decide)
  · exact hg (SessionState.lookup_derived_endLogin.mpr ⟨hk, hs ▸ hne⟩)

lemma KeepsLater.generation_eq {now : Int} (h : KeepsLater w (.proceed t now)) (slot : Nat)
    (hl : (w.process.threads t).lapses = true) (hin : w.process.lib.any (·.isLoggedIn slot) = true)
    (ho : (w.step (.proceed t now)).process.lib.any (fun state => !state.isLoggedIn slot) = true) :
    (w.asked t).map (·.2.loginGeneration slot) = w.process.lib.map (·.loginGeneration slot) := by
  obtain ⟨state, hs, hin⟩ := (any_eq_true _ _).mp hin
  obtain ⟨state', hs', ho⟩ := (any_eq_true _ _).mp ho
  rw [Bool.not_eq_true'] at ho
  obtain ⟨c, made, ha, hg⟩ := h t now state state' slot rfl hl hs hs' (.inl ⟨hin, ho⟩)
  rw [ha, hs, map_some, map_some, hg]

lemma Current.keepsLater (h : Current Calling.mayLapse w) (htr : Tracks w) (a : ModuleAction Tid) :
    KeepsLater w a := by
  rintro t now state state' slot rfl hl hs hs' he
  obtain ⟨x, rest, answer, hpc, hl⟩ : ∃ x rest answer, w.process.threads t =
    .closing (x :: rest) answer ∧
      x.lapses = true := by
    cases hpc : w.process.threads t with
    | idle | calling | draining =>
      rw [hpc] at hl
      cases hl
    | closing todo answer =>
      rw [hpc] at hl
      cases todo with
      | nil => cases hl
      | cons x rest => exact ⟨x, rest, answer, rfl, hl⟩
  have ha : state' = x.apply w.process.snapshotPublished now state := by
    have hst : (w.step (.proceed t now)).process.lib = w.process.lib.map
      (x.apply w.process.snapshotPublished now) := by
      show (w.process.proceed t now (w.process.threads t)).lib = _
      rw [hpc]
      exact (w.process.perform_parts t now x).1
    rw [hst, hs] at hs'
    exact (some.inj hs').symm
  subst ha
  cases hask : w.asked t with
  | none =>
    obtain ⟨handle, slot', rfl⟩ := htr.no_call hpc hask
    exact absurd he (not_ends_self state slot)
  | some call =>
    obtain ⟨c, made⟩ := call
    obtain ⟨hof, hc⟩ := htr.call hpc hask
    refine ⟨c, made, rfl, ?_⟩
    cases x with
    | dropLogin handle =>
      have ht := hc.resolve_left Bool.false_ne_true
      obtain ⟨hso, hasks, hf⟩ := htr.made ht hask
      have hse : c.session? = some handle ∧ c.mayLapse = true := by
        rcases hof with ⟨job, rfl⟩ | ⟨job, rfl⟩ | ⟨job, rfl⟩ <;> exact ⟨rfl, rfl⟩
      obtain ⟨session, ho, -⟩ := hasks.session hse.1
      have he : Ends state (Module.dropLogin handle state) slot := he
      unfold Module.dropLogin at he
      split at he
      · exact absurd he (not_ends_self state slot)
      · next session' ho' =>
        have hsl := slot_of_ends_endLogin he
        rw [(hf hs).slot_eq hso ho ho'] at hsl
        refine (h t c made state slot ht hask hse.2 hs ?_).symm
        rw [Calling.slotIn, hse.1, bind_some, ho, map_some, hsl]
    | recordActive handle slot' generation active =>
      have ht := hc.resolve_left Bool.false_ne_true
      obtain ⟨reader, rfl⟩ := hof
      obtain ⟨-, hasks, -⟩ := htr.made ht hask
      have he : Ends state (Module.endIfLapsed state slot' generation active) slot := he
      unfold Module.endIfLapsed at he
      split at he
      · next hla =>
        rw [slot_of_ends_endLogin he]
        exact hasks.trans hla.2.2.symm
      · exact absurd he (not_ends_self state slot)
    | release | publish | recordLogin | clearSign | clearDecrypt | keepKey => cases hl

/-- Whatever the threads call and the agent answers: as long as no login is recorded for a slot on
which a signature, a decryption or a derivation is in flight, an answer that the lease has lapsed
ends no login and no key but those of the login in which its call was made. -/
theorem lapsed_lease_keeps_later (actions : List (ModuleAction Tid))
    (h : Along Traced.step (Undisturbed Calling.mayLapse) {} actions) (a : ModuleAction Tid) :
    KeepsLater (run Traced.step {} actions) a := by
  have hs (w : Traced Tid) (a : ModuleAction Tid) (hc : Undisturbed Calling.mayLapse w a)
      (hw : Tracks w ∧ Current Calling.mayLapse w) : Tracks (w.step a) ∧
        Current Calling.mayLapse (w.step a) :=
    ⟨hw.1.step a, hw.2.step hw.1 hc⟩
  have hr : Tracks (run Traced.step {} actions) ∧
    Current Calling.mayLapse (run Traced.step {} actions) :=
    run_invariant_along hs ⟨tracks_start, fun _ _ _ _ _ ht => absurd ht List.not_mem_nil⟩ h
  exact hr.2.keepsLater hr.1 a

end

/-! ## Runs -/

def signingCard : AgentSnapshot :=
  ⟨[{ readerPath := [114], hasCard := true, tokenSerial := [49]
      certs := [{ signingCapable := true, canSign := true, keyType := .rsa, keyBits := 2048 }] }]⟩

attribute [local instance] Runs.neZero_two

def sessionOpened (card : AgentSnapshot) : List (ModuleAction (Fin 2)) :=
  [.call 0 (.query (.openSession 0 kSerialSession)) 0, .reply 0 (.snapshot card),
   .proceed 0 0, .proceed 0 0, .proceed 0 0]

def loggedIn : List (ModuleAction (Fin 2)) :=
  [.call 0 (.blocking (.login 1 .user)) 0, .reply 0 (.status .ok), .proceed 0 0, .proceed 0 0,
   .proceed 0 0]

/-- a thread opens two sessions on the card, logs in and asks for a signature -/
def signingStarted : List (ModuleAction (Fin 2)) :=
  .call 0 .cInitialize 0 :: sessionOpened signingCard ++ sessionOpened signingCard ++ loggedIn ++
  [.call 0 (.within (.signInit 1 .rsaPkcs (SessionState.encodeHandle 0 2))) 0,
   .call 0 (.blocking (.sign 1 [1] (some 256))) 0]

def leaseLapsed : List (ModuleAction (Fin 2)) :=
  [.reply 0 (.bytes .userNotLoggedIn []), .proceed 0 0]

def loggedInAgain : List (ModuleAction (Fin 2)) :=
  [.call 1 (.within (.logout 2)) 0, .call 1 (.blocking (.login 2 .user)) 0, .reply 1 (.status .ok),
      .proceed 1 0]

/-- the login of the call is ended -/
theorem lapsed_lease_keeps_later_own : let w := run Traced.step {} (signingStarted ++ leaseLapsed)
    (w.step (.proceed 0 0)).process.lib.any (fun state => !state.isLoggedIn 0) = true ∧
      KeepsLater w (.proceed 0 0) :=
  ⟨by decide +kernel, lapsed_lease_keeps_later _ (by decide +kernel) _⟩

/-- The answer is about the login that was ended; it ends the next one. -/
theorem lapsed_lease_ends_next :
    ¬ KeepsLater (run Traced.step {} (signingStarted ++ loggedInAgain ++ leaseLapsed))
      (.proceed 0 0) := by
  intro h
  have hg := h.generation_eq 0 (by decide +kernel) (by decide +kernel) (by decide +kernel)
  revert hg
  decide +kernel

end LibreAgent.Pkcs11Agent
