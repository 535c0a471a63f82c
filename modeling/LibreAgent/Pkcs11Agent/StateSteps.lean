import LibreAgent.Pkcs11Agent.Module

/-!
# What a section does to the state

* `SmallStep` : a change that makes no login and no key and brings no model; every function that
  stays under the lock, and what is done after a model is fresh, is one (`within_small`,
  `query_small`).
-/

namespace LibreAgent.Pkcs11Agent

open AList Option

namespace SessionState

variable {s s' s'' : SessionState} {slot id h : Nat} {key : DerivedKey}

/-! ## Small steps -/

inductive SmallStep (s : SessionState) : SessionState → Prop
  | same : SmallStep s s
  | session {h : Nat} {session session' : Session} (hopen : s.session h = some session)
      (hslot : session'.slot = session.slot) : SmallStep s (s.setSession h session')
  | opened (slot : Nat) (flags : UInt64) : SmallStep s (s.openSession slot flags).1
  | closed (h : Nat) : SmallStep s (s.closeSession h)
  | closedAll (slot : Nat) : SmallStep s (s.closeAllSessions slot)
  | loggedOut (slot : Nat) : SmallStep s (s.endLogin slot)
  | destroyed (h : UInt64) : SmallStep s (s.destroyDerivedKey h)
  | destroyedOf (slot : Nat) : SmallStep s (s.destroyDerivedKeysOfSlot slot)
  | checked (slot : Nat) (now : Int) : SmallStep s (s.markLoginChecked slot now)

variable {change : Session → Session} {α : Type} {session session' : Session}
  {sessions : AList fun _ : Nat => Session} {c : Calling} {buffer : Option Nat} {args : DeriveArgs}

section
variable (s)

lemma updateSession_small (h : Nat) (hs : ∀ session, (change session).slot = session.slot) :
    SmallStep s (s.updateSession h change) := by
  unfold updateSession
  split
  · next session ho => exact .session ho (hs session)
  · exact .same

lemma changeSession_small (h : Nat) (check : Session → Except CkRv α)
    {change : α → Session → Session} (hs : ∀ value session, (change value session).slot =
      session.slot) :
    SmallStep s (s.changeSession h check change).1 := by
  unfold changeSession
  split
  · exact .same
  · next session ho =>
    split
    · exact .same
    · exact .session ho (hs _ _)

lemma within_small (c : LocalCall) : SmallStep s (s.within c).1 := by
  cases c with
  | closeSession h =>
    simp only [within]
    split
    · exact .same
    · exact .closed h
  | closeAllSessions slot => exact .closedAll slot
  | logout h =>
    simp only [within]
    split
    · exact .same
    · exact .loggedOut _
  | destroyObject h object =>
    simp only [within, destroyObject]
    split
    · exact .same
    · split
      · split
        · exact .same
        · exact .destroyed object
      · split <;> exact .same
  | signInit | signUpdate | decryptInit | decryptUpdate =>
    exact changeSession_small s _ _ fun _ _ => rfl

lemma query_small (q : SlotQuery) : SmallStep s (s.query q).1 := by
  cases q with
  | getSlotList | getSlotInfo | getMechanismList => exact .same
  | getTokenInfo | getMechanismInfo =>
    simp only [query]
    split <;> exact .same
  | openSession slot flags =>
    simp only [query]
    split
    · exact .same
    · split
      · exact .same
      · exact .opened slot flags

/-! ## Logins and generations -/

lemma lookup_setLogin_self (slot : Nat) (l : SlotLogin) :
    (s.setLogin slot l).logins.lookup slot = some l :=
  lookup_insert _

lemma lookup_setLogin_of_ne (l : SlotLogin) (hid : id ≠ slot) :
    (s.setLogin slot l).logins.lookup id = s.logins.lookup id :=
  lookup_insert_ne hid

lemma lookup_endLogin (slot id : Nat) : (s.endLogin slot).logins.lookup id =
      (s.logins.lookup id).map fun l => if id = slot then { l with loggedIn := false } else l := by
  unfold endLogin
  split
  · next l hl =>
    show (s.setLogin slot { l with loggedIn := false }).logins.lookup id = _
    by_cases hid : id = slot
    · rw [hid, lookup_setLogin_self, hl, map_some, if_pos rfl]
    · rw [lookup_setLogin_of_ne _ _ hid]
      simp [if_neg hid, map_id']
  · next hl =>
    show s.logins.lookup id = _
    by_cases hid : id = slot
    · rw [hid, hl, map_none]
    · simp [if_neg hid, map_id']

lemma loginGeneration_endLogin (slot id : Nat) :
    (s.endLogin slot).loginGeneration id = s.loginGeneration id := by
  unfold loginGeneration
  rw [lookup_endLogin]
  cases s.logins.lookup id with
  | none => rfl
  | some l =>
    show (if id = slot then { l with loggedIn := false } else l).generation = l.generation
    split <;> rfl

lemma isLoggedIn_endLogin_self (slot : Nat) : (s.endLogin slot).isLoggedIn slot = false := by
  unfold isLoggedIn
  rw [lookup_endLogin]
  simp only [if_true]
  cases s.logins.lookup slot with
  | none | some => rfl

lemma isLoggedIn_endLogin_of_ne (hid : id ≠ slot) :
    (s.endLogin slot).isLoggedIn id = s.isLoggedIn id := by
  unfold isLoggedIn
  rw [lookup_endLogin]
  simp [if_neg hid, map_id']

end

lemma lookup_derived_endLogin {handle : UInt64} :
    (s.endLogin slot).derived.lookup handle = some key ↔ s.derived.lookup handle = some key ∧
      key.slot ≠ slot := by
  have hd : (s.endLogin slot).derived = s.derived.eraseIf fun key => key.slot = slot := by
    unfold endLogin
    split <;> rfl
  rw [hd]
  simpa using mem_lookup_eraseIf (p := fun key : DerivedKey => key.slot = slot) (m := s.derived)

lemma markLoginChecked_logins (s : SessionState) (slot : Nat) (now : Int) (id : Nat) :
    (s.markLoginChecked slot now).isLoggedIn id = s.isLoggedIn id ∧
      (s.markLoginChecked slot now).loginGeneration id = s.loginGeneration id := by
  unfold markLoginChecked
  split
  · next l hl =>
    unfold isLoggedIn loginGeneration
    by_cases hid : id = slot
    · rw [hid, lookup_setLogin_self, hl]
      exact ⟨rfl, rfl⟩
    · rw [lookup_setLogin_of_ne _ _ hid]
      exact ⟨rfl, rfl⟩
  · exact ⟨rfl, rfl⟩

lemma loginGeneration_setLoggedIn_of_ne (s : SessionState) (now : Int) (hid : id ≠ slot) :
    (s.setLoggedIn slot now).loginGeneration id = s.loginGeneration id := by
  unfold loginGeneration setLoggedIn
  rw [lookup_setLogin_of_ne _ _ hid]

lemma isLoggedIn_setLoggedIn_of (s : SessionState) (slot : Nat) (now : Int)
    (hin : s.isLoggedIn id = true) : (s.setLoggedIn slot now).isLoggedIn id = true := by
  unfold isLoggedIn setLoggedIn
  by_cases hid : id = slot
  · rw [hid, lookup_setLogin_self]
    rfl
  · rw [lookup_setLogin_of_ne _ _ hid]
    exact hin

lemma setLoggedIn_loginsOnly (s : SessionState) (slot : Nat) (now : Int) :
    LoginsOnly s (s.setLoggedIn slot now) :=
  ⟨rfl, rfl, rfl, rfl, rfl, rfl⟩

lemma isLoggedIn_setLoggedIn {now : Int} (h : (s.setLoggedIn slot now).isLoggedIn id = true) :
    id = slot ∨ s.isLoggedIn id = true := by
  by_cases hid : id = slot
  · exact .inl hid
  · have h : ((s.logins.insert slot _).lookup id).any (·.loggedIn) = true := h
    rw [lookup_insert_ne hid] at h
    exact .inr h

/-! ## Slots and sessions -/

structure Sound (s : SessionState) : Prop where
  kept : s.Kept
  below : ∀ {h session}, s.session h = some session → h < s.nextSession

lemma sound_init : Sound {} := ⟨kept_init, nofun⟩

structure SameSlots (s s' : SessionState) : Prop where
  kept : s.Kept → s'.Kept
  readerToSlot : s'.readerToSlot = s.readerToSlot
  slotById : ∀ id, s'.slotById id = s.slotById id

lemma LoginsOnly.sameSlots (h : LoginsOnly s s') : SameSlots s s' :=
  ⟨h.kept, h.readerToSlot, h.slotById⟩

lemma LoginsOnly.sound (h : LoginsOnly s s') (hs : s.Sound) : s'.Sound := by
  refine ⟨h.kept hs.kept, fun hse => ?_⟩
  rw [h.session_eq] at hse
  rw [h.nextSession]
  exact hs.below hse

/-- the sessions are those of the earlier state, or were opened later -/
structure SessionsFrom (s s' : SessionState) : Prop where
  nextSession : s.nextSession ≤ s'.nextSession
  sessions : ∀ {h session'}, s'.session h = some session' →
    (∃ session, s.session h = some session ∧ session.slot = session'.slot) ∨
      (s.nextSession ≤ h ∧ h < s'.nextSession)

lemma SessionsFrom.trans (h : SessionsFrom s s') (h' : SessionsFrom s' s'') :
    SessionsFrom s s'' := by
  refine ⟨Nat.le_trans h.nextSession h'.nextSession, fun ho => ?_⟩
  rcases h'.sessions ho with ⟨session', ho', hs⟩ | ⟨hle, hlt⟩
  · rcases h.sessions ho' with ⟨session, ho'', hs'⟩ | ⟨hle, hlt⟩
    · exact .inl ⟨session, ho'', hs'.trans hs⟩
    · exact .inr ⟨hle, Nat.lt_of_lt_of_le hlt h'.nextSession⟩
  · exact .inr ⟨Nat.le_trans h.nextSession hle, hlt⟩

lemma LoginsOnly.sessionsFrom (ho : LoginsOnly s s') : SessionsFrom s s' := by
  refine ⟨ho.nextSession ▸ Nat.le_refl _, fun hop => .inl ⟨_, ?_, rfl⟩⟩
  rwa [ho.session_eq] at hop

/-- an operation that leaves the slots alone, opens sessions under new handles only, and makes no
login -/
structure Quiet (s s' : SessionState) : Prop extends SessionsFrom s s' where
  slots : SameSlots s s'
  logins : ∀ {id}, s'.isLoggedIn id = true → s.isLoggedIn id = true

lemma Quiet.refl (s : SessionState) : Quiet s s :=
  ⟨⟨Nat.le_refl _, fun hs => .inl ⟨_, hs, rfl⟩⟩, ⟨id, rfl, fun _ => rfl⟩, id⟩

lemma Quiet.trans (h : Quiet s s') (h' : Quiet s' s'') : Quiet s s'' where
  toSessionsFrom := h.toSessionsFrom.trans h'.toSessionsFrom
  slots := ⟨h'.slots.kept ∘ h.slots.kept, h'.slots.readerToSlot.trans h.slots.readerToSlot,
    fun id => (h'.slots.slotById id).trans (h.slots.slotById id)⟩
  logins hin := h.logins (h'.logins hin)

lemma Quiet.sound (hq : Quiet s s') (hs : s.Sound) : s'.Sound := by
  refine ⟨hq.slots.kept hs.kept, fun hse => ?_⟩
  rcases hq.sessions hse with ⟨session, hold, -⟩ | ⟨-, hlt⟩
  · exact Nat.lt_of_lt_of_le (hs.below hold) hq.nextSession
  · exact hlt

lemma LoginsOnly.quiet (h : LoginsOnly s s')
    (hl : ∀ {id}, s'.isLoggedIn id = true → s.isLoggedIn id = true) : Quiet s s' :=
  ⟨h.sessionsFrom, h.sameSlots, hl⟩

lemma endLogin_quiet (s : SessionState) (slot : Nat) : Quiet s (s.endLogin slot) :=
  (endLogin_loginsOnly s slot).quiet fun h => (isLoggedIn_endLogin h).1

lemma setSession_quiet (hs : s.session h = some session)
    (hsl : session'.slot = session.slot) : Quiet s (s.setSession h session') := by
  refine ⟨⟨Nat.le_refl _, fun {h' found} hf => .inl ?_⟩,
    ⟨fun hk => ⟨hk.ids, hk.slots⟩, rfl, fun _ => rfl⟩, id⟩
  have hf : (s.sessions.insert h session').lookup h' = some found := hf
  by_cases hh : h' = h
  · subst hh
    rw [lookup_insert] at hf
    cases hf
    exact ⟨session, hs, hsl.symm⟩
  · rw [lookup_insert_ne hh] at hf
    exact ⟨found, hf, rfl⟩

lemma quiet_of_sessions
    (hsu : ∀ {h session}, sessions.lookup h = some session → s.session h = some session) :
    Quiet s { s with sessions } :=
  ⟨⟨Nat.le_refl _, fun hs => .inl ⟨_, hsu hs, rfl⟩⟩,
    ⟨fun hk => ⟨hk.ids, hk.slots⟩, rfl, fun _ => rfl⟩, id⟩

section
variable (s)

lemma eraseSession_quiet (h : Nat) : Quiet s (s.eraseSession h) := by
  refine quiet_of_sessions fun {h' session} hs => ?_
  by_cases hh : h' = h
  · subst hh
    rw [lookup_erase] at hs
    cases hs
  · rwa [lookup_erase_ne hh] at hs

lemma eraseSessionsOf_quiet (slot : Nat) : Quiet s (s.eraseSessionsOf slot) :=
  quiet_of_sessions fun hs => (mem_lookup_eraseIf.mp hs).1

lemma openSession_quiet (slot : Nat) (flags : UInt64) : Quiet s (s.openSession slot flags).1 := by
  refine ⟨⟨Nat.le_succ _, fun {h' found} hf => ?_⟩,
    ⟨fun hk => ⟨hk.ids, hk.slots⟩, rfl, fun _ => rfl⟩, id⟩
  have hf : (s.sessions.insert s.nextSession { slot, flags }).lookup h' = some found := hf
  by_cases hh : h' = s.nextSession
  · subst hh
    exact .inr ⟨Nat.le_refl _, Nat.lt_succ_self _⟩
  · rw [lookup_insert_ne hh] at hf
    exact .inl ⟨found, hf, rfl⟩

lemma quiet_of_derived (derived : AList fun _ : UInt64 => DerivedKey)
    (nextDerived : UInt64) : Quiet s { s with derived, nextDerived } :=
  LoginsOnly.quiet ⟨rfl, rfl, rfl, rfl, rfl, rfl⟩ id

lemma addDerivedKey_quiet (key : DerivedKey) : Quiet s (s.addDerivedKey key).1 :=
  quiet_of_derived s _ _

lemma markLoginChecked_quiet (slot : Nat) (now : Int) : Quiet s (s.markLoginChecked slot now) := by
  have ho : LoginsOnly s (s.markLoginChecked slot now) := by
    unfold markLoginChecked
    split
    · constructor <;> rfl
    · exact .refl s
  refine ho.quiet fun hin => ?_
  rwa [(markLoginChecked_logins s slot now _).1] at hin

lemma closeSession_quiet (h : Nat) : Quiet s (s.closeSession h) := by
  have hk : Quiet s (s.destroyDerivedKeysOfSession h) := quiet_of_derived s _ _
  unfold closeSession
  split
  · exact hk
  · have he := hk.trans (eraseSession_quiet _ h)
    simp only
    split
    · exact he
    · exact he.trans (endLogin_quiet _ _)

lemma closeAllSessions_quiet (slot : Nat) : Quiet s (s.closeAllSessions slot) :=
  (endLogin_quiet s slot).trans (eraseSessionsOf_quiet _ slot)

end

lemma SmallStep.quiet (hs : SmallStep s s') : Quiet s s' := by
  cases hs with
  | same => exact .refl s
  | session ho hsl => exact setSession_quiet ho hsl
  | opened slot flags => exact openSession_quiet s slot flags
  | closed h => exact closeSession_quiet s h
  | closedAll slot => exact closeAllSessions_quiet s slot
  | loggedOut slot => exact endLogin_quiet s slot
  | destroyed | destroyedOf => exact quiet_of_derived s _ _
  | checked slot now => exact markLoginChecked_quiet s slot now

lemma updateSession_quiet (s : SessionState) (h : Nat)
    (hs : ∀ session, (change session).slot = session.slot) : Quiet s (s.updateSession h change) :=
  (updateSession_small s h hs).quiet

lemma Sound.setModel (hs : s.Sound) (model : ObjectModel) : (s.setModel model).Sound :=
  (setModel_loginsOnly s model).sound ⟨hs.kept.setSlots model, hs.below⟩

/-- a login survives a new model only if the slot shows its token before and after, with a serial -/
lemma survives_setModel {model : ObjectModel} {before : Slot} (hb : s.slotById id = some before)
    (hin : (s.setModel model).isLoggedIn id = true) :
    ∃ now, (s.setModel model).slotById id = some now ∧ before.tokenPresent = true ∧
      now.tokenPresent = true ∧
      now.tokenSerial = before.tokenSerial ∧ before.tokenSerial ≠ [] := by
  have hk := (isLoggedIn_setModel hin).2 hb
  rw [keepsToken, Bool.and_eq_true, decide_eq_true_iff] at hk
  obtain ⟨hs, hn⟩ := hk
  obtain ⟨now, hn, ht⟩ := (any_eq_true _ _).mp hn
  rw [Bool.and_eq_true, decide_eq_true_iff] at ht
  have hp : before.tokenPresent = true := by
    by_contra ha
    rw [Slot.shownSerial, if_neg ha] at hs
    exact hs rfl
  rw [Slot.shownSerial, if_pos hp] at hs ht
  rw [(setModel_loginsOnly s model).slotById]
  exact ⟨now, hn, hp, ht.1, ht.2, hs⟩

/-! ## Keys -/

/-- the slot of the key is logged in, and the session that made the key is open on it -/
structure Backs (s : SessionState) (key : DerivedKey) : Prop where
  login : s.isLoggedIn key.slot = true
  session : ∃ session, s.session key.creator = some session ∧ session.slot = key.slot

/-- no login is made and no key, and the keys that are left are backed as before -/
structure Keeps (s s' : SessionState) : Prop where
  generation : ∀ id, s'.loginGeneration id = s.loginGeneration id
  keys : ∀ {handle key}, s'.derived.lookup handle = some key → s.derived.lookup handle = some key
  backs : ∀ {handle key}, s'.derived.lookup handle = some key → s.Backs key → s'.Backs key

lemma Keeps.refl (s : SessionState) : Keeps s s := ⟨fun _ => rfl, id, fun _ => id⟩

lemma Keeps.trans (h : Keeps s s') (h' : Keeps s' s'') : Keeps s s'' :=
  ⟨fun id => (h'.generation id).trans (h.generation id), fun hk => h.keys (h'.keys hk), fun hk hb =>
    h'.backs hk (h.backs (h'.keys hk) hb)⟩

lemma endLogin_keeps (s : SessionState) (slot : Nat) : Keeps s (s.endLogin slot) := by
  refine ⟨loginGeneration_endLogin s slot, fun hk => (lookup_derived_endLogin.mp hk).1,
      fun hk hb => ?_⟩
  refine ⟨?_, ?_⟩
  · rw [isLoggedIn_endLogin_of_ne s (lookup_derived_endLogin.mp hk).2]
    exact hb.login
  · rw [(endLogin_loginsOnly s slot).session_eq]
    exact hb.session

lemma endLogins_keeps (before : List (Nat × Bytes)) (s : SessionState) :
    Keeps s (s.endLogins before) := by
  refine List.foldlRecOn before _ (.refl s) fun s' h token _ => ?_
  dsimp only
  split
  · exact h
  · exact h.trans (endLogin_keeps s' _)

lemma setModel_keeps (s : SessionState) (model : ObjectModel) : Keeps s (s.setModel model) := by
  have hs : Keeps s (s.setSlots model) := ⟨fun _ => rfl, id, fun _ hb => ⟨hb.login, hb.session⟩⟩
  exact hs.trans (endLogins_keeps _ _)

lemma keeps_of_sessions {derived : AList fun _ : UInt64 => DerivedKey}
    {nextSession : Nat} (hk : ∀ {handle key}, derived.lookup handle = some key →
      s.derived.lookup handle = some key)
    (hs : ∀ {handle key session}, derived.lookup handle = some key →
      s.session key.creator = some session →
      session.slot = key.slot → ∃ session', sessions.lookup key.creator = some session' ∧
        session'.slot = key.slot) :
    Keeps s { s with derived, sessions, nextSession } := by
  refine ⟨fun _ => rfl, hk, fun hke hb => ⟨hb.login, ?_⟩⟩
  obtain ⟨session, ho, hsl⟩ := hb.session
  exact hs hke ho hsl

lemma setSession_keeps (ho : s.session h = some session)
    (hs : session'.slot = session.slot) : Keeps s (s.setSession h session') := by
  refine keeps_of_sessions id fun {handle key backing} _ hb hk => ?_
  by_cases hh : key.creator = h
  · rw [hh] at hb ⊢
    obtain rfl : session = backing := some.inj (ho.symm.trans hb)
    exact ⟨session', lookup_insert _, hs.trans hk⟩
  · exact ⟨backing, (lookup_insert_ne hh).trans hb, hk⟩

lemma openSession_keeps (hs : s.Sound) (slot : Nat) (flags : UInt64) :
    Keeps s (s.openSession slot flags).1 := by
  refine keeps_of_sessions id fun {handle key session} _ ho hk => ?_
  have hne : key.creator ≠ s.nextSession := Nat.ne_of_lt (hs.below ho)
  exact ⟨session, (lookup_insert_ne hne).trans ho, hk⟩

/-- a session goes with the keys it has made, and the login with the last session of its slot -/
lemma closeSession_keeps (s : SessionState) (h : Nat) : Keeps s (s.closeSession h) := by
  have hc {handle key} (hk : (s.destroyDerivedKeysOfSession h).derived.lookup handle = some key) :
      s.derived.lookup handle = some key ∧ key.creator ≠ h := by
    simpa using mem_lookup_eraseIf.mp hk
  unfold closeSession
  split
  · exact keeps_of_sessions (fun hk => (hc hk).1) fun _ ho hs => ⟨_, ho, hs⟩
  · next session _ =>
    have he : Keeps s ((s.destroyDerivedKeysOfSession h).eraseSession h) :=
      keeps_of_sessions (fun hk => (hc hk).1) fun hk ho hs =>
        ⟨_, (lookup_erase_ne (hc hk).2).trans ho, hs⟩
    simp only
    split
    · exact he
    · exact he.trans (endLogin_keeps _ _)

lemma closeAllSessions_keeps (s : SessionState) (slot : Nat) :
    Keeps s (s.closeAllSessions slot) := by
  refine (endLogin_keeps s slot).trans (keeps_of_sessions id fun {handle key session} hk ho hs =>
      ?_)
  have hne : session.slot ≠ slot := hs ▸ (lookup_derived_endLogin.mp hk).2
  exact ⟨session, mem_lookup_eraseIf.mpr ⟨ho, decide_eq_false hne⟩, hs⟩

lemma markLoginChecked_keeps (s : SessionState) (slot : Nat) (now : Int) :
    Keeps s (s.markLoginChecked slot now) := by
  have hs : (s.markLoginChecked slot now).derived = s.derived ∧
    (s.markLoginChecked slot now).sessions = s.sessions := by
    unfold markLoginChecked
    split <;> exact ⟨rfl, rfl⟩
  refine ⟨fun id => (markLoginChecked_logins s slot now id).2, fun hk => hs.1 ▸ hk,
      fun _ hb => ⟨?_, ?_⟩⟩
  · rw [(markLoginChecked_logins s slot now _).1]
    exact hb.login
  · unfold SessionState.session
    rw [hs.2]
    exact hb.session

lemma SmallStep.keeps (hs : SmallStep s s') (hso : s.Sound) : Keeps s s' := by
  cases hs with
  | same => exact .refl s
  | session ho hsl => exact setSession_keeps ho hsl
  | opened slot flags => exact openSession_keeps hso slot flags
  | closed h => exact closeSession_keeps s h
  | closedAll slot => exact closeAllSessions_keeps s slot
  | loggedOut slot => exact endLogin_keeps s slot
  | destroyed handle =>
    refine keeps_of_sessions (fun {handle' key} hk => ?_) fun _ ho hsl => ⟨_, ho, hsl⟩
    by_cases hh : handle' = handle
    · rw [hh, lookup_erase] at hk
      cases hk
    · rwa [lookup_erase_ne hh] at hk
  | destroyedOf slot =>
    exact keeps_of_sessions (fun hk => (mem_lookup_eraseIf.mp hk).1) fun _ ho hsl => ⟨_, ho, hsl⟩
  | checked slot now => exact markLoginChecked_keeps s slot now

/-! ## The sessions since an earlier state -/

lemma setSlots_sessionsFrom (s : SessionState) (model : ObjectModel) :
    SessionsFrom s (s.setSlots model) :=
  ⟨Nat.le_refl _, fun ho => .inl ⟨_, ho, rfl⟩⟩

lemma SessionsFrom.slot_eq (hf : SessionsFrom s s') (hs : s.Sound) (ho : s.session h = some session)
    (ho' : s'.session h = some session') : session'.slot = session.slot := by
  rcases hf.sessions ho' with ⟨found, hfo, hsl⟩ | ⟨hle, -⟩
  · obtain rfl : session = found := some.inj (ho.symm.trans hfo)
    exact hsl.symm
  · exact absurd (hs.below ho) (Nat.not_lt.mpr hle)

/-! ## The checks before a call -/

lemma of_refusal {p : Prop} [Decidable p] {rv : CkRv} {e : Except CkRv α} {a : α}
    (h : (if p then .error rv else e) = .ok a) : ¬ p ∧ e = .ok a := by
  split at h
  · cases h
  · next hp => exact ⟨hp, h⟩

lemma checkLogin_eq_ok {userType : UserType} (hc : s.checkLogin h userType = .ok c) :
    ∃ session shown, s.session h = some session ∧ session.rpcInFlight = false ∧
      s.slotById session.slot = some shown ∧
      shown.tokenPresent = true ∧ c = .login h session.slot shown := by
  unfold checkLogin at hc
  obtain ⟨-, hc⟩ := of_refusal hc
  split at hc
  · cases hc
  · next session hs =>
    obtain ⟨hr, hc⟩ := of_refusal hc
    obtain ⟨-, hc⟩ := of_refusal hc
    split at hc
    · cases hc
    · next shown hsh =>
      obtain ⟨hp, hc⟩ := of_refusal hc
      obtain ⟨-, hc⟩ := of_refusal hc
      cases hc
      exact ⟨session, shown, hs, Bool.eq_false_iff.mpr hr, hsh, not_not.mp hp, rfl⟩

lemma checkSign_eq_ok {data : Option Bytes} (hc : s.checkSign h data buffer = .ok c) :
    ∃ session, s.session h = some session ∧ session.rpcInFlight = false ∧
      session.sign.active = true ∧
      c = .sign h ⟨session.sign, data.getD session.sign.accumulated, buffer⟩ := by
  unfold checkSign at hc
  split at hc
  · cases hc
  · next session hs =>
    obtain ⟨ha, hc⟩ := of_refusal hc
    obtain ⟨hr, hc⟩ := of_refusal hc
    exact ⟨session, hs, Bool.eq_false_iff.mpr hr, not_not.mp ha, (Except.ok.inj hc).symm⟩

lemma checkDecrypt_eq_ok {ciphertext : Option Bytes}
    (hc : s.checkDecrypt h ciphertext buffer = .ok c) :
    ∃ session, s.session h = some session ∧ session.rpcInFlight = false ∧
      session.decrypt.active = true ∧
      c = .decrypt h ⟨session.decrypt, ciphertext.getD session.decrypt.accumulated, buffer⟩ := by
  unfold checkDecrypt at hc
  split at hc
  · cases hc
  · next session hs =>
    obtain ⟨ha, hc⟩ := of_refusal hc
    obtain ⟨hr, hc⟩ := of_refusal hc
    exact ⟨session, hs, Bool.eq_false_iff.mpr hr, not_not.mp ha, (Except.ok.inj hc).symm⟩

lemma checkBase_eq_ok {shown : Slot} {job : DeriveJob}
    (hc : s.checkBase slot shown args = .ok job) :
    job.slot = slot ∧ job.tokenSerial = shown.tokenSerial := by
  unfold checkBase at hc
  split at hc
  · cases hc
  · iterate 3 obtain ⟨-, hc⟩ := of_refusal hc
    split at hc
    · cases hc
    · cases ht : args.template with
      | error rv =>
        rw [ht] at hc
        cases hc
      | ok wanted =>
        rw [ht] at hc
        obtain ⟨-, hc⟩ := of_refusal hc
        cases hc
        exact ⟨rfl, rfl⟩

lemma checkDerive_eq_ok (hc : s.checkDerive h args = .ok c) :
    ∃ session shown job, s.session h = some session ∧ session.rpcInFlight = false ∧
      s.slotById session.slot = some shown ∧
      s.isLoggedIn session.slot = true ∧ job.slot = session.slot ∧ job.tokenSerial =
        shown.tokenSerial ∧
      c = .derive h job := by
  unfold checkDerive at hc
  split at hc
  · cases hc
  · next session hs =>
    obtain ⟨hr, hc⟩ := of_refusal hc
    split at hc
    · cases hc
    · next shown hsh =>
      obtain ⟨-, hc⟩ := of_refusal hc
      obtain ⟨hl, hc⟩ := of_refusal hc
      obtain ⟨-, hc⟩ := of_refusal hc
      cases hb : s.checkBase session.slot shown args with
      | error rv =>
        rw [hb] at hc
        cases hc
      | ok job =>
        rw [hb] at hc
        obtain ⟨hsl, hse⟩ := checkBase_eq_ok hb
        exact ⟨session, shown, job, hs, Bool.eq_false_iff.mpr hr, hsh, not_not.mp hl, hsl, hse,
          (Except.ok.inj hc).symm⟩

end SessionState

end LibreAgent.Pkcs11Agent
