import LibreAgent.Pkcs11Agent.LapsedLease

/-!
# Derived keys

A key is stored when the agent has answered `C_DeriveKey`; the slot must still show the token and be
logged in.

* `derived_keys_owned` : every key is, if no login is recorded for a slot that has a key, or a
  derivation in flight (`LoginsApart`).

`C_DeriveKey` looks whether there is a login when the answer is there, not whether it is the one of
the call, so a key outlives a logout with a login after it (`derived_key_outlives_login`).
-/

set_option linter.unusedSectionVars false

namespace LibreAgent.Pkcs11Agent

open Runs Option Traced SessionState

/-- the key was asked for in `made`, in the login that its slot has in `state` -/
structure KeyOwned (state made : SessionState) (key : DerivedKey) : Prop where
  backs : state.Backs key
  login : made.isLoggedIn key.slot = true
  generation : made.loginGeneration key.slot = state.loginGeneration key.slot
  token : ∃ before now, made.slotById key.slot = some before ∧ state.slotById key.slot = some now ∧
    now.tokenPresent = true ∧ now.tokenSerial = before.tokenSerial

section
variable {Tid : Type*} [DecidableEq Tid] {w : Traced Tid} {a : ModuleAction Tid} {t : Tid}
  {state state' made : SessionState} {handle : UInt64} {key : DerivedKey}

def KeysOwned (w : Traced Tid) : Prop :=
  ∀ state handle key, w.process.lib = some state → state.derived.lookup handle = some key →
    ∃ made, w.derivedIn handle = some made ∧ KeyOwned state made key

def Calling.isDerive : Calling → Bool
  | .derive _ _ => true
  | _ => false

/-- no login is recorded for a slot while a key is derived on it or it has derived keys -/
def LoginsApart (w : Traced Tid) (a : ModuleAction Tid) : Prop :=
  Undisturbed Calling.isDerive w a ∧
    ∀ slot ∈ w.records a, ∀ state ∈ w.process.lib, ∀ entry ∈ state.derived.entries,
      entry.2.slot ≠ slot

instance (w : Traced Tid) (a : ModuleAction Tid) : Decidable (LoginsApart w a) :=
  inferInstanceAs (Decidable (_ ∧ _))

lemma KeysOwned.generation_eq (h : KeysOwned w) (handle : UInt64) (slot : Nat)
    (hk : w.process.lib.any (fun state => (state.derived.lookup handle).any fun key =>
      key.slot = slot) = true) :
    (w.derivedIn handle).map (·.loginGeneration slot) = w.process.lib.map
      (·.loginGeneration slot) := by
  obtain ⟨state, hs, hk⟩ := (any_eq_true _ _).mp hk
  obtain ⟨key, hk, hsl⟩ := (any_eq_true _ _).mp hk
  obtain ⟨made, hm, ho⟩ := h state handle key hs hk
  rw [hm, hs, map_some, map_some, ← of_decide_eq_true hsl, ho.generation]

/-! ## Keys that are there already -/

lemma derivedIn_of_stored (hs : w.process.lib = some state)
    (hk : state.derived.lookup handle = some key)
    (a : ModuleAction Tid) : (w.step a).derivedIn handle = w.derivedIn handle := by
  show w.noteKey a handle = w.derivedIn handle
  cases a with
  | call | reply | giveUp => rfl
  | proceed t now =>
    simp only [noteKey, hs]
    cases w.process.threads t with
    | idle | calling | draining => rfl
    | closing todo answer =>
      cases todo with
      | nil => rfl
      | cons x rest =>
        cases x with
        | release | publish | recordLogin | recordActive | clearSign | clearDecrypt | dropLogin =>
          rfl
        | keepKey =>
          simp only
          split
          · rfl
          · next hn =>
            refine Function.update_of_ne ?_ _ _
            rintro rfl
            exact hn (isSome_of_eq_some hk)

section
variable (h : KeyOwned state made key)
include h

lemma KeyOwned.keeps (hk : state.Keeps state')
    (hs : state.SameSlots state')
    (hke : state'.derived.lookup handle = some key) : KeyOwned state' made key := by
  refine ⟨hk.backs hke h.backs, h.login, h.generation.trans (hk.generation _).symm, ?_⟩
  rw [hs.slotById]
  exact h.token

lemma KeyOwned.setModel {model : ObjectModel}
    (hke : (state.setModel model).derived.lookup handle = some key) :
    KeyOwned (state.setModel model) made key := by
  have hk := state.setModel_keeps model
  have hb := hk.backs hke h.backs
  obtain ⟨before, shown, hbe, hs, -, hse⟩ := h.token
  obtain ⟨now, hn, -, hp, hsa, -⟩ := survives_setModel hs hb.login
  exact ⟨hb, h.login, h.generation.trans (hk.generation _).symm, before, now, hbe, hn, hp,
      hsa.trans hse⟩

lemma KeyOwned.setLoggedIn {slot : Nat} (now : Int)
    (hne : key.slot ≠ slot) : KeyOwned (state.setLoggedIn slot now) made key := by
  refine ⟨⟨state.isLoggedIn_setLoggedIn_of slot now h.backs.login, h.backs.session⟩,
      h.login, ?_, ?_⟩
  · rw [state.loginGeneration_setLoggedIn_of_ne now hne]
    exact h.generation
  · rw [(state.setLoggedIn_loginsOnly slot now).slotById]
    exact h.token

lemma KeyOwned.addDerivedKey (key' : DerivedKey) :
    KeyOwned (state.addDerivedKey key').1 made key :=
  ⟨⟨h.backs.login, h.backs.session⟩, h.login, h.generation, h.token⟩

end

/-! ## A new key -/

lemma lookup_addDerivedKey {key' : DerivedKey}
    (hk : (state.addDerivedKey key').1.derived.lookup handle = some key) :
    state.derived.lookup handle = some key ∨
      handle = kDerivedHandleBit ||| state.nextDerived ∧ key = key' ∧
        state.derived.lookup handle = none := by
  simp only [addDerivedKey] at hk
  split at hk
  · exact .inl hk
  · next hn =>
    by_cases hh : handle = kDerivedHandleBit ||| state.nextDerived
    · rw [hh, AList.lookup_insert] at hk
      rw [Bool.not_eq_true, isSome_eq_false_iff, isNone_iff_eq_none] at hn
      exact .inr ⟨hh, (some.inj hk).symm, hh ▸ hn⟩
    · rw [AList.lookup_insert_ne hh] at hk
      exact .inl hk

lemma Current.keyOwned (h : Current Calling.isDerive w) (htr : Tracks w) {job : DeriveJob}
    {value : Bytes} {handle : Nat}
    {rest : List Section} {answer : Answer} {session : Session} {shown : Slot}
    (hpc : w.process.threads t = .closing (.keepKey handle job value :: rest) answer)
    (hs : w.process.lib = some state)
    (ho : state.session handle = some session) (hsh : state.slotById job.slot = some shown)
    (hp : shown.tokenPresent = true) (hse : shown.tokenSerial = job.tokenSerial)
    (hl : state.isLoggedIn session.slot = true) : ∃ made, (w.asked t).map (·.2) = some made ∧
      KeyOwned (state.addDerivedKey ⟨job.slot, handle, job.wanted, value⟩).1 made
        ⟨job.slot, handle, job.wanted, value⟩ := by
  cases ha : w.asked t with
  | none =>
    obtain ⟨_, _, hsec⟩ := htr.no_call hpc ha
    cases hsec
  | some call =>
    obtain ⟨c, made⟩ := call
    obtain ⟨hof, hc⟩ := htr.call hpc ha
    have hof : c = .derive handle job := hof
    subst hof
    have ht := hc.resolve_left Bool.false_ne_true
    obtain ⟨hso, ⟨session', before, ho', -, hb, hl', hsl, hto⟩, hf⟩ := htr.made ht ha
    have hses : session.slot = job.slot := ((hf hs).slot_eq hso ho' ho).trans hsl.symm
    have hg : state.loginGeneration job.slot = made.loginGeneration job.slot := by
      refine h t _ made state job.slot ht ha rfl hs ?_
      rw [Calling.slotIn, Calling.session?, bind_some, ho', map_some, hsl]
    rw [← hsl] at hb hl'
    exact ⟨made, rfl, ⟨hses ▸ hl, session, ho, hses⟩, hl', hg.symm, before, shown, hb, hsh, hp,
      hse.trans hto⟩

/-! ## The invariant -/

lemma KeysOwned.step (h : KeysOwned w) (ht : Tracks w) (hc : Current Calling.isDerive w)
    (hco : LoginsApart w a) : KeysOwned (w.step a) := by
  intro state' handle key hs' hkey
  have hold {state : SessionState} (hli : w.process.lib = some state)
    (hst : state.derived.lookup handle = some key)
      (ho : ∀ made, KeyOwned state made key → KeyOwned state' made key) :
      ∃ made, (w.step a).derivedIn handle = some made ∧ KeyOwned state' made key := by
    obtain ⟨made, hm, hk⟩ := h state handle key hli hst
    exact ⟨made, (derivedIn_of_stored hli hst a).trans hm, ho made hk⟩
  have hsm {state : SessionState} (hli : w.process.lib = some state)
    (hste : state.SmallStep state') :
      ∃ made, (w.step a).derivedIn handle = some made ∧ KeyOwned state' made key := by
    have hke := hste.keeps (ht.sound hli)
    exact hold hli (hke.keys hkey) fun made ho => ho.keeps hke hste.quiet.slots hkey
  rcases w.process.step_cases a with hv | ⟨t, hmo⟩
  · have hp : (w.step a).process = w.process := hv
    rw [hp] at hs'
    exact hsm hs' .same
  · have hmov := hmo.move
    have hs' : (w.process.step a).lib = some state' := hs'
    rw [hs'] at hmov
    generalize (w.process.step a).guards = guards at hmov
    generalize (w.process.step a).threads t = pc at hmov
    generalize hli' : some state' = lib at hmov
    cases hmov with
    | returns | drains | looks | answered => exact hsm hli'.symm .same
    | loads =>
      cases hli'
      cases hkey
    | unloads => cases hli'
    | within _ _ hli =>
      cases hli'
      exact hsm hli (within_small _ _)
    | refreshes _ _ hli =>
      cases hli'
      exact hsm hli .same
    | inquires _ _ hli =>
      cases hli'
      exact hsm hli (.checked _ _)
    | asks _ _ hli =>
      cases hli'
      exact hsm hli (updateSession_small _ _ fun _ => rfl)
    | @performs now x rest answer ha hpc =>
      obtain ⟨state, hli, hs'⟩ := map_eq_some_iff.mp hli'.symm
      have hma := x.makes w.process.snapshotPublished now state
      rw [hs'] at hma
      cases hma with
      | small hste => exact hsm hli hste
      | model model hste =>
        have hke := hste.keeps ((ht.sound hli).setModel model)
        have hmod := hke.keys hkey
        exact hold hli ((state.setModel_keeps model).keys hmod) fun made ho =>
          (ho.setModel hmod).keeps hke hste.quiet.slots hkey
      | @login _ _ _ session hop =>
        refine hold hli hkey fun made ho => ho.setLoggedIn now ?_
        have hr : w.records a = some session.slot := by
          subst ha
          simp [records, hpc, hli, bind_some, hop, map_some]
        exact hco.2 _ hr state hli ⟨handle, key⟩ (AList.mem_lookup_iff.mp hkey)
      | key hop hsh hpr hse hl =>
        rcases lookup_addDerivedKey hkey with hst | ⟨hh, rfl, hn⟩
        · exact hold hli hst fun made ho => ho.addDerivedKey _
        · obtain ⟨made, hm, ho⟩ := hc.keyOwned ht hpc hli hop hsh hpr hse hl
          refine ⟨made, ?_, ho⟩
          subst ha
          show w.noteKey (.proceed t now) handle = some made
          rw [hh] at hn ⊢
          simp only [noteKey, hpc, hli, hn, isSome_none, Bool.false_eq_true, if_false,
            Function.update_self]
          exact hm

/-- Whatever the threads call and the agent answers: as long as no login is recorded for a slot that
has a key or a derivation in flight, every key that is stored was asked for in the login that its
slot has now, from the token that the slot shows now, by a session that is still open. -/
theorem derived_keys_owned (actions : List (ModuleAction Tid))
    (h : Along step LoginsApart {} actions) : KeysOwned (run step {} actions) := by
  have hs (w : Traced Tid) (a : ModuleAction Tid) (hc : LoginsApart w a)
      (hw : Tracks w ∧ Current Calling.isDerive w ∧ KeysOwned w) :
      Tracks (w.step a) ∧ Current Calling.isDerive (w.step a) ∧ KeysOwned (w.step a) :=
    ⟨hw.1.step a, hw.2.1.step hw.1 hc.1, hw.2.2.step hw.1 hw.2.1 hc⟩
  have hst : Tracks ({} : Traced Tid) ∧ Current Calling.isDerive ({} : Traced Tid) ∧
    KeysOwned ({} : Traced Tid) :=
    ⟨tracks_start, fun _ _ _ _ _ ht => absurd ht List.not_mem_nil, nofun⟩
  exact (run_invariant_along hs hst h).2.2

end

/-! ## Runs -/

def derivingCard : AgentSnapshot :=
  ⟨[{ readerPath := [114], hasCard := true, tokenSerial := [49]
      certs := [{ canDerive := true, keyType := .ec, keyBits := 256 }] }]⟩

def deriveArgs : DeriveArgs :=
  { mechanism := .ecdh1Derive, hasParams := true, isRawSecret := true, baseKey := encodeHandle 0 2
    publicData := some (0x04 :: List.replicate 64 0), template := .ok {} }

attribute [local instance] Runs.neZero_two

/-- a thread opens two sessions on the card, logs in and asks for a key -/
def derivationStarted : List (ModuleAction (Fin 2)) :=
  .call 0 .cInitialize 0 :: sessionOpened derivingCard ++ sessionOpened derivingCard ++ loggedIn ++
  [.call 0 (.blocking (.deriveKey 1 deriveArgs)) 0]

def secretGiven : List (ModuleAction (Fin 2)) :=
  [.reply 0 (.bytes .ok [7]), .proceed 0 0]

theorem derived_keys_owned_one :
    (run step {} (derivationStarted ++ secretGiven)).process.lib.any
      (fun state => state.derived.entries ≠ []) = true ∧
      KeysOwned (run step {} (derivationStarted ++ secretGiven)) :=
  ⟨by decide +kernel, derived_keys_owned _ (by decide +kernel)⟩

/-- The other thread logs out and in again before the secret comes: the key is stored, though its
login is over. -/
theorem derived_key_outlives_login :
    ¬ KeysOwned (run step {} (derivationStarted ++ loggedInAgain ++ secretGiven)) := by
  intro h
  have hg := h.generation_eq (kDerivedHandleBit ||| 1) 0 (by decide +kernel)
  revert hg
  decide +kernel

end LibreAgent.Pkcs11Agent
