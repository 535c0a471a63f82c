import Mathlib.Data.Nat.Bitwise
import LibreAgent.Lib.Runs
import LibreAgent.Pkcs11Agent.StateSteps

/-!
# The laws of the session state

Any sequence of the methods of the state (`StateOp`), with the handles that they have given out
(`StateRun`).

* `StateLaws` : what holds of every state; `StepLaws` : what holds of every step;
* `session_state_laws` : both, in every sequence in which a login is set only for a slot that the
  model shows, and the counter of the derived keys does not reach its mark bit.

A login that is set for a slot that is not shown is not looked at by the next model, whatever that
shows (`login_survives_unshown`).
-/

namespace LibreAgent.Pkcs11Agent

open Runs List SessionState.SmallStep

namespace SessionState

variable {s s' : SessionState} {slot id : Nat} {handle : UInt64} {key : DerivedKey}

/-! ## Handles -/

lemma isDerivedHandle_iff (handle : UInt64) : isDerivedHandle handle = true ↔
    2 ^ 63 ≤ handle.toNat := by
  have hlt := handle.toNat_lt
  have hand : (handle &&& kDerivedHandleBit).toNat = (handle.toNat.testBit 63).toNat * 2 ^ 63 := by
    rw [UInt64.toNat_and]
    exact Nat.and_two_pow handle.toNat 63
  have hz : handle &&& kDerivedHandleBit = 0 ↔ (handle &&& kDerivedHandleBit).toNat = 0 :=
    UInt64.toNat_inj.symm
  unfold isDerivedHandle
  rw [decide_eq_true_iff, ne_eq, hz, hand, Nat.testBit_eq_decide_div_mod_eq]
  by_cases hb : handle.toNat / 2 ^ 63 % 2 = 1
  · simp only [hb, decide_true, Bool.toNat_true]
    omega
  · simp only [hb, decide_false, Bool.toNat_false]
    omega

lemma toNat_derivedHandle {n : UInt64} (hn : n.toNat < 2 ^ 63) : (kDerivedHandleBit ||| n).toNat =
    2 ^ 63 + n.toNat := by
  rw [UInt64.toNat_or]
  exact (Nat.two_pow_add_eq_or_of_lt hn 1).symm

lemma isDerivedHandle_derivedHandle (n : UInt64) :
    isDerivedHandle (kDerivedHandleBit ||| n) = true := by
  rw [isDerivedHandle_iff, UInt64.toNat_or]
  exact Nat.left_le_or

lemma isDerivedHandle_encodeHandle (hs : slot < 2 ^ 31) (i : Nat) :
    isDerivedHandle (encodeHandle slot i) = false := by
  have hh : (UInt64.ofNat slot <<< 32).toNat < 2 ^ 63 := by
    rw [UInt64.toNat_shiftLeft, UInt64.toNat_ofNat_of_lt' (by omega : slot < 2 ^ 64),
      Nat.shiftLeft_eq]
    refine Nat.lt_of_le_of_lt (Nat.mod_le _ _) ?_
    show slot * 2 ^ 32 < 2 ^ 63
    omega
  have hl : ((UInt64.ofNat i + 1) &&& 0xFFFFFFFF).toNat < 2 ^ 63 := by
    rw [UInt64.toNat_and]
    exact Nat.lt_of_le_of_lt Nat.and_le_right (by decide)
  have hor : (encodeHandle slot i).toNat < 2 ^ 63 := by
    unfold encodeHandle
    rw [UInt64.toNat_or]
    exact Nat.or_lt_two_pow hh hl
  rw [Bool.eq_false_iff, ne_eq, isDerivedHandle_iff]
  omega

lemma resolveObject_of_isDerivedHandle (s : SessionState) (hs : slot < 2 ^ 31)
    (hh : isDerivedHandle handle = true) : s.resolveObject slot handle = none := by
  have hne : (handle >>> 32).toNat ≠ slot := by
    rw [isDerivedHandle_iff] at hh
    rw [UInt64.toNat_shiftRight]
    show handle.toNat >>> 32 ≠ slot
    rw [Nat.shiftRight_eq_div_pow]
    omega
  unfold resolveObject
  rw [if_pos (.inl hne)]

/-! ## Sessions of a slot -/

lemma slotHasSessions_iff : s.slotHasSessions slot = true ↔ ∃ h session, s.session h =
    some session ∧ session.slot = slot := by
  unfold slotHasSessions
  rw [any_eq_true]
  constructor
  · rintro ⟨⟨h, session⟩, hm, hs⟩
    exact ⟨h, session, AList.mem_lookup_iff.mpr hm, of_decide_eq_true hs⟩
  · rintro ⟨h, session, ho, hs⟩
    exact ⟨⟨h, session⟩, AList.mem_lookup_iff.mp ho, decide_eq_true hs⟩

lemma slotHasSessions_mono (hsu : ∀ {h session}, s.session h = some session → session.slot = slot →
    s'.session h = some session) (hin : s.slotHasSessions slot = true) :
      s'.slotHasSessions slot = true := by
  obtain ⟨h, session, ho, hs⟩ := slotHasSessions_iff.mp hin
  exact slotHasSessions_iff.mpr ⟨h, session, hsu ho hs, hs⟩

lemma last_closeSession (h : Nat) (hin : s.slotHasSessions slot = true)
    (hou : (s.closeSession h).slotHasSessions slot = false) :
    (s.closeSession h).isLoggedIn slot = false := by
  unfold closeSession at hou ⊢
  split at hou
  · exact absurd (hin.symm.trans hou) (by decide)
  · next session ho =>
    simp only at hou ⊢
    by_cases hsl : slot = session.slot
    · subst hsl
      split at hou
      · next hl => exact absurd (hl.symm.trans hou) (by decide)
      · next hn =>
        rw [if_neg hn]
        exact isLoggedIn_endLogin_self _ _
    · -- the session is of another slot: those of this one are all left
      have hsu {s' : SessionState} (hs' : s'.sessions = s.sessions.erase h) :
        s'.slotHasSessions slot = true := by
        refine slotHasSessions_mono (fun {h' session'} ho' hsl' => ?_) hin
        have hne : h' ≠ h := by
          rintro rfl
          exact hsl (hsl'.symm.trans (congrArg Session.slot (Option.some.inj (ho'.symm.trans ho))))
        unfold SessionState.session
        rw [hs', AList.lookup_erase_ne hne]
        exact ho'
      split at hou
      · exact absurd ((hsu rfl).symm.trans hou) (by decide)
      · exact absurd ((hsu (endLogin_loginsOnly _ _).sessions).symm.trans hou) (by decide)

lemma last_closeAllSessions (slot' : Nat) (hin : s.slotHasSessions slot = true)
    (hou : (s.closeAllSessions slot').slotHasSessions slot = false) :
    (s.closeAllSessions slot').isLoggedIn slot = false := by
  by_cases hsl : slot = slot'
  · rw [hsl]
    exact isLoggedIn_endLogin_self s slot'
  · refine absurd (slotHasSessions_mono (fun {h session} ho hs => ?_) hin)
      (hou ▸ Bool.false_ne_true)
    refine AList.mem_lookup_eraseIf.mpr ⟨?_, decide_eq_false (hs ▸ hsl)⟩
    rw [(endLogin_loginsOnly s slot').sessions]
    exact ho

/-! ## The login of a slot that is shown -/

def LoginsShown (s : SessionState) : Prop :=
  ∀ id, s.isLoggedIn id = true → ∃ shown, s.slotById id = some shown

lemma LoginsShown.survives (hs : s.LoginsShown) {model : ObjectModel}
    (hin : (s.setModel model).isLoggedIn id = true) :
    s.isLoggedIn id = true ∧ ∃ before now, s.slotById id = some before ∧
      (s.setModel model).slotById id = some now ∧
      before.tokenPresent = true ∧ now.tokenPresent = true ∧ now.tokenSerial = before.tokenSerial ∧
      before.tokenSerial ≠ [] := by
  have hold := (isLoggedIn_setModel hin).1
  obtain ⟨before, hb⟩ := hs id hold
  obtain ⟨now, hn, ht⟩ := survives_setModel hb hin
  exact ⟨hold, before, now, hb, hn, ht⟩

lemma LoginsShown.quiet (hs : s.LoginsShown) (hq : Quiet s s') : s'.LoginsShown := by
  intro id hin
  rw [hq.slots.slotById]
  exact hs id (hq.logins hin)

end SessionState

/-! ## Sequences -/

inductive StateOp where
  | setModel (model : ObjectModel)
  | openSession (slot : Nat) (flags : UInt64)
  | closeSession (h : Nat)
  | closeAllSessions (slot : Nat)
  | setLoggedIn (slot : Nat) (now : Int)
  | endLogin (slot : Nat)
  | addDerivedKey (key : DerivedKey)
  | destroyDerivedKey (h : UInt64)
  | destroyDerivedKeysOfSlot (slot : Nat)

/-- the state, and the handles that have been given out, the newest first -/
structure StateRun where
  state : SessionState := {}
  sessions : List Nat := []
  keys : List UInt64 := []

namespace StateRun

variable (w : StateRun)

def step : StateOp → StateRun
  | .setModel model => { w with state := w.state.setModel model }
  | .openSession slot flags =>
    { w with state := (w.state.openSession slot flags).1,
             sessions := (w.state.openSession slot flags).2 :: w.sessions }
  | .closeSession h => { w with state := w.state.closeSession h }
  | .closeAllSessions slot => { w with state := w.state.closeAllSessions slot }
  | .setLoggedIn slot now => { w with state := w.state.setLoggedIn slot now }
  | .endLogin slot => { w with state := w.state.endLogin slot }
  | .addDerivedKey key =>
    { w with state := (w.state.addDerivedKey key).1,
             keys := (w.state.addDerivedKey key).2 :: w.keys }
  | .destroyDerivedKey h => { w with state := w.state.destroyDerivedKey h }
  | .destroyDerivedKeysOfSlot slot => { w with state := w.state.destroyDerivedKeysOfSlot slot }

end StateRun

/-- a key is added for an open session of a logged-in slot, before the counter reaches the mark bit;
a login is set for a slot that the model shows -/
def Allowed (w : StateRun) : StateOp → Prop
  | .addDerivedKey key => w.state.isLoggedIn key.slot = true ∧
      (w.state.session key.creator).any (fun session => session.slot = key.slot) = true ∧
        w.state.nextDerived.toNat < 2 ^ 63
  | .setLoggedIn slot _ => (w.state.slotById slot).isSome = true
  | _ => True

instance (w : StateRun) : ∀ op, Decidable (Allowed w op)
  | .addDerivedKey key => inferInstanceAs (Decidable (w.state.isLoggedIn key.slot = true ∧
      (w.state.session key.creator).any (fun session => session.slot = key.slot) = true ∧
      w.state.nextDerived.toNat < 2 ^ 63))
  | .setLoggedIn slot _ => inferInstanceAs (Decidable ((w.state.slotById slot).isSome = true))
  | .setModel _ | .openSession _ _ | .closeSession _ | .closeAllSessions _ | .endLogin _
  | .destroyDerivedKey _
  | .destroyDerivedKeysOfSlot _ => .isTrue trivial

structure StateLaws (w : StateRun) : Prop where
  /-- distinct readers have distinct ids, and a slot has the id of its reader -/
  ids : ∀ {reader reader' id}, w.state.readerToSlot.lookup reader = some id →
    w.state.readerToSlot.lookup reader' = some id → reader = reader'
  slots : ∀ {id slot}, w.state.slotById id = some slot →
    w.state.readerToSlot.lookup slot.readerPath = some id
  /-- the slot of a key is logged in, and the session that made it is open -/
  backed : ∀ {handle key}, w.state.derived.lookup handle = some key → w.state.Backs key
  /-- no handle is given out twice -/
  sessions : w.sessions.Nodup
  keys : w.keys.Nodup
  givenSessions : ∀ {h session}, w.state.session h = some session → h ∈ w.sessions
  givenKeys : ∀ {handle key}, w.state.derived.lookup handle = some key → handle ∈ w.keys
  /-- a handle is one of a key or of a card's object, not of both -/
  keyApart : ∀ {handle slot}, handle ∈ w.keys → slot < 2 ^ 31 →
    SessionState.isDerivedHandle handle = true ∧ w.state.resolveObject slot handle = none
  cardApart : ∀ {slot i}, slot < 2 ^ 31 →
    SessionState.isDerivedHandle (SessionState.encodeHandle slot i) = false ∧
    SessionState.encodeHandle slot i ∉ w.keys

structure StepLaws (w : StateRun) (op : StateOp) : Prop where
  /-- a reader keeps its id -/
  ids : ∀ {reader id}, w.state.readerToSlot.lookup reader = some id →
    (w.step op).state.readerToSlot.lookup reader = some id
  /-- a login survives a new model only with its token, which has a serial -/
  survives : ∀ {model id}, op = .setModel model → (w.step op).state.isLoggedIn id = true →
    w.state.isLoggedIn id = true ∧ ∃ before now, w.state.slotById id = some before ∧
      (w.step op).state.slotById id = some now ∧ before.tokenPresent = true ∧
        now.tokenPresent = true ∧
      now.tokenSerial = before.tokenSerial ∧ before.tokenSerial ≠ []
  /-- a login ends with the last session of its slot -/
  last : ∀ {slot}, w.state.slotHasSessions slot = true →
    (w.step op).state.slotHasSessions slot = false →
    (w.step op).state.isLoggedIn slot = false

/-! ## The invariant -/

structure Lawful (w : StateRun) : Prop where
  sound : w.state.Sound
  shown : w.state.LoginsShown
  backed : ∀ {handle key}, w.state.derived.lookup handle = some key → w.state.Backs key
  sessions : w.sessions.Nodup
  keys : w.keys.Nodup
  givenSessions : ∀ {h session}, w.state.session h = some session → h ∈ w.sessions
  givenKeys : ∀ {handle key}, w.state.derived.lookup handle = some key → handle ∈ w.keys
  sessionsBelow : ∀ h ∈ w.sessions, h < w.state.nextSession
  keysBelow : ∀ handle ∈ w.keys, SessionState.isDerivedHandle handle = true ∧
    handle.toNat < 2 ^ 63 + w.state.nextDerived.toNat

variable {w : StateRun}

lemma lawful_start : Lawful {} :=
  ⟨SessionState.sound_init, nofun, nofun, nodup_nil, nodup_nil, nofun, nofun, nofun, nofun⟩

lemma Lawful.laws (h : Lawful w) : StateLaws w where
  ids := h.sound.kept.ids.inj
  slots := h.sound.kept.slots
  backed := h.backed
  sessions := h.sessions
  keys := h.keys
  givenSessions := h.givenSessions
  givenKeys := h.givenKeys
  keyApart := fun hm hs =>
    ⟨(h.keysBelow _ hm).1, w.state.resolveObject_of_isDerivedHandle hs (h.keysBelow _ hm).1⟩
  cardApart := fun {slot i} hs => by
    have hc := SessionState.isDerivedHandle_encodeHandle hs i
    refine ⟨hc, fun hm => ?_⟩
    have hk := (h.keysBelow _ hm).1
    exact absurd (hk.symm.trans hc) (by decide)

variable {state : SessionState}

lemma Lawful.moves (h : Lawful w) (hs : state.Sound) (hsh : state.LoginsShown)
    (hk : ∀ {handle key}, state.derived.lookup handle = some key →
      w.state.derived.lookup handle = some key ∧ (w.state.Backs key → state.Backs key))
    (hse : ∀ {h session}, state.session h = some session → ∃ session', w.state.session h =
      some session')
    (hn : w.state.nextSession = state.nextSession) (hne : w.state.nextDerived = state.nextDerived) :
    Lawful { w with state } where
  sound := hs
  shown := hsh
  backed := fun hke => (hk hke).2 (h.backed (hk hke).1)
  sessions := h.sessions
  keys := h.keys
  givenSessions := fun ho => by
    obtain ⟨session', ho'⟩ := hse ho
    exact h.givenSessions ho'
  givenKeys := fun hke => h.givenKeys (hk hke).1
  sessionsBelow := hn ▸ h.sessionsBelow
  keysBelow := hne ▸ h.keysBelow

lemma Lawful.small (h : Lawful w) (hs : w.state.SmallStep state)
    (hn : w.state.nextSession = state.nextSession) (hne : w.state.nextDerived = state.nextDerived) :
    Lawful { w with state } := by
  have hq := hs.quiet
  have hk := hs.keeps h.sound
  refine h.moves (hq.sound h.sound) (h.shown.quiet hq)
    (fun hke => ⟨hk.keys hke, hk.backs hke⟩) (fun {handle session} ho => ?_) hn
    hne
  rcases hq.sessions ho with ⟨session', ho', -⟩ | ⟨hle, hlt⟩
  · exact ⟨session', ho'⟩
  · omega

lemma SessionState.counters_endLogin (s : SessionState) (slot : Nat) :
    s.nextSession = (s.endLogin slot).nextSession ∧
      s.nextDerived = (s.endLogin slot).nextDerived := by
  unfold SessionState.endLogin
  split <;> exact ⟨rfl, rfl⟩

lemma SessionState.counters_endLogins (before : List (Nat × Bytes)) (s : SessionState) :
    s.nextSession = (s.endLogins before).nextSession ∧
      s.nextDerived = (s.endLogins before).nextDerived := by
  refine List.foldlRecOn (motive := fun s' : SessionState => s.nextSession = s'.nextSession ∧
    s.nextDerived = s'.nextDerived) before _ ⟨rfl, rfl⟩ fun s' h token _ => ?_
  dsimp only
  split
  · exact h
  · have he := s'.counters_endLogin token.1
    exact ⟨h.1.trans he.1, h.2.trans he.2⟩

lemma SessionState.counters_closeSession (s : SessionState) (h : Nat) :
    s.nextSession = (s.closeSession h).nextSession ∧
      s.nextDerived = (s.closeSession h).nextDerived := by
  unfold SessionState.closeSession
  split
  · exact ⟨rfl, rfl⟩
  · simp only
    split
    · exact ⟨rfl, rfl⟩
    · exact ((s.destroyDerivedKeysOfSession h).eraseSession h).counters_endLogin _

lemma Lawful.setModel (h : Lawful w) (model : ObjectModel) : Lawful (w.step (.setModel model)) := by
  have hk := SessionState.setModel_keeps w.state model
  have hc := SessionState.counters_endLogins w.state.shownTokens (w.state.setSlots model)
  refine h.moves (h.sound.setModel model) (fun id hin => ?_)
    (fun hke => ⟨hk.keys hke, hk.backs hke⟩) (fun ho => ?_) hc.1 hc.2
  · obtain ⟨-, before, now, -, hn, -⟩ := h.shown.survives hin
    exact ⟨now, hn⟩
  · rw [(SessionState.setModel_loginsOnly w.state model).session_eq] at ho
    exact ⟨_, ho⟩

lemma Lawful.openSession (h : Lawful w) (slot : Nat) (flags : UInt64) :
    Lawful (w.step (.openSession slot flags)) := by
  have hs : w.state.SmallStep (w.state.openSession slot flags).1 := .opened slot flags
  have hq := hs.quiet
  have hk := hs.keeps h.sound
  refine ⟨hq.sound h.sound, h.shown.quiet hq, fun hke => hk.backs hke (h.backed (hk.keys hke)), ?_,
      h.keys,
    fun {handle session} ho => ?_, h.givenKeys, fun handle hm => ?_, h.keysBelow⟩
  · exact nodup_cons.mpr ⟨fun hm => Nat.lt_irrefl _ (h.sessionsBelow _ hm), h.sessions⟩
  · rcases hq.sessions ho with ⟨session', ho', -⟩ | ⟨hle, hlt⟩
    · exact mem_cons_of_mem _ (h.givenSessions ho')
    · have hn : handle = w.state.nextSession := Nat.le_antisymm (Nat.le_of_lt_succ hlt) hle
      exact mem_cons.mpr (.inl hn)
  · rcases mem_cons.mp hm with rfl | hm
    · exact Nat.lt_succ_self _
    · exact Nat.lt_succ_of_lt (h.sessionsBelow _ hm)

lemma Lawful.setLoggedIn (h : Lawful w) {slot : Nat} {now : Int}
    (ha : Allowed w (.setLoggedIn slot now)) : Lawful (w.step (.setLoggedIn slot now)) := by
  have ho : w.state.LoginsOnly (w.state.setLoggedIn slot now) := ⟨rfl, rfl, rfl, rfl, rfl, rfl⟩
  refine h.moves (ho.sound h.sound) (fun id hin => ?_) (fun hk => ⟨hk, fun hb => ⟨?_, hb.session⟩⟩)
    (fun hop => ⟨_, hop⟩) rfl rfl
  · rw [ho.slotById]
    by_cases hid : id = slot
    · rw [hid]
      exact Option.isSome_iff_exists.mp ha
    · refine h.shown id ?_
      unfold SessionState.isLoggedIn SessionState.setLoggedIn at hin
      rw [SessionState.lookup_setLogin_of_ne _ _ hid] at hin
      exact hin
  · exact w.state.isLoggedIn_setLoggedIn_of slot now hb.login

lemma Lawful.addDerivedKey (h : Lawful w) {key : DerivedKey} (ha : Allowed w (.addDerivedKey key)) :
    Lawful (w.step (.addDerivedKey key)) := by
  obtain ⟨hl, hs, hc⟩ := ha
  have hv := SessionState.toNat_derivedHandle hc
  have hn : (w.state.nextDerived + 1).toNat = w.state.nextDerived.toNat + 1 := by
    rw [UInt64.toNat_add, UInt64.toNat_one, Nat.mod_eq_of_lt (by omega)]
  have hf : SessionState.kDerivedHandleBit ||| w.state.nextDerived ∉ w.keys := by
    intro hm
    have hb := (h.keysBelow _ hm).2
    omega
  have hno : w.state.derived.lookup (SessionState.kDerivedHandleBit ||| w.state.nextDerived) =
    none := by
    cases hlo : w.state.derived.lookup (SessionState.kDerivedHandleBit ||| w.state.nextDerived) with
    | none => rfl
    | some key' => exact absurd (h.givenKeys hlo) hf
  have hi : (w.state.addDerivedKey key).1.derived
      = w.state.derived.insert (SessionState.kDerivedHandleBit ||| w.state.nextDerived) key := by
    simp [SessionState.addDerivedKey, hno]
  have hca {handle key'} (hk : (w.state.addDerivedKey key).1.derived.lookup handle = some key') :
      (handle = SessionState.kDerivedHandleBit ||| w.state.nextDerived ∧ key' = key) ∨
        w.state.derived.lookup handle = some key' := by
    rw [hi] at hk
    by_cases hh : handle = SessionState.kDerivedHandleBit ||| w.state.nextDerived
    · rw [hh, AList.lookup_insert] at hk
      exact .inl ⟨hh, (Option.some.inj hk).symm⟩
    · rw [AList.lookup_insert_ne hh] at hk
      exact .inr hk
  refine ⟨⟨⟨h.sound.kept.ids, h.sound.kept.slots⟩, h.sound.below⟩, h.shown, fun hk =>
      ?_, h.sessions,
    nodup_cons.mpr ⟨hf, h.keys⟩, h.givenSessions, fun hk => ?_, h.sessionsBelow,
      fun handle hm => ?_⟩
  · rcases hca hk with ⟨-, rfl⟩ | hold
    · obtain ⟨session, ho, hsl⟩ := (Option.any_eq_true _ _).mp hs
      exact ⟨hl, session, ho, of_decide_eq_true hsl⟩
    · exact ⟨(h.backed hold).login, (h.backed hold).session⟩
  · rcases hca hk with ⟨hne, -⟩ | hold
    · exact mem_cons.mpr (.inl hne)
    · exact mem_cons_of_mem _ (h.givenKeys hold)
  · show _ ∧ handle.toNat < 2 ^ 63 + (w.state.nextDerived + 1).toNat
    rcases mem_cons.mp hm with hne | hold
    · have hne : handle = SessionState.kDerivedHandleBit ||| w.state.nextDerived := hne
      rw [hne]
      exact ⟨SessionState.isDerivedHandle_derivedHandle _, by omega⟩
    · have hb := h.keysBelow handle hold
      exact ⟨hb.1, by omega⟩

lemma Lawful.step (h : Lawful w) {op : StateOp} (ha : Allowed w op) : Lawful (w.step op) := by
  cases op with
  | setModel model => exact h.setModel model
  | openSession slot flags => exact h.openSession slot flags
  | closeSession handle =>
    have hc := w.state.counters_closeSession handle
    exact h.small (.closed handle) hc.1 hc.2
  | closeAllSessions slot =>
    have hc := w.state.counters_endLogin slot
    exact h.small (.closedAll slot) hc.1 hc.2
  | setLoggedIn slot now => exact h.setLoggedIn ha
  | endLogin slot =>
    have hc := w.state.counters_endLogin slot
    exact h.small (.loggedOut slot) hc.1 hc.2
  | addDerivedKey key => exact h.addDerivedKey ha
  | destroyDerivedKey handle => exact h.small (.destroyed handle) rfl rfl
  | destroyDerivedKeysOfSlot slot => exact h.small (.destroyedOf slot) rfl rfl

/-! ## The steps -/

lemma SessionState.SmallStep.ids {s s' : SessionState} (hs : s.SmallStep s')
    {reader : Bytes} {id : Nat}
    (hid : s.readerToSlot.lookup reader = some id) : s'.readerToSlot.lookup reader = some id := by
  rw [hs.quiet.slots.readerToSlot]
  exact hid

lemma not_last {s s' : SessionState} {slot : Nat} (hs : s'.sessions = s.sessions)
    (hin : s.slotHasSessions slot = true) (ho : s'.slotHasSessions slot = false) : False := by
  unfold SessionState.slotHasSessions at hin ho
  rw [hs, hin] at ho
  cases ho

lemma Lawful.stepLaws (h : Lawful w) (op : StateOp) : StepLaws w op := by
  cases op with
  | setModel model =>
    have ho := SessionState.setModel_loginsOnly w.state model
    refine ⟨fun hid => ?_, ?_, fun hin hou => (not_last ho.sessions hin hou).elim⟩
    · show (w.state.setModel model).readerToSlot.lookup _ = _
      rw [ho.readerToSlot]
      exact (SessionState.assigned_setSlots h.sound.kept model).2 hid
    · rintro _ id ⟨⟩ hin
      exact h.shown.survives hin
  | openSession slot flags =>
    have hs : w.state.SmallStep (w.state.openSession slot flags).1 := .opened slot flags
    refine ⟨hs.ids, nofun, fun {slot'} hin hou => ?_⟩
    have hm : (w.state.openSession slot flags).1.slotHasSessions slot' = true := by
      refine SessionState.slotHasSessions_mono (fun hop _ => ?_) hin
      exact (AList.lookup_insert_ne (Nat.ne_of_lt (h.sound.below hop))).trans hop
    exact absurd (hm.symm.trans hou) (by decide)
  | closeSession handle =>
    exact ⟨(closed handle).ids, nofun, SessionState.last_closeSession handle⟩
  | closeAllSessions slot =>
    exact ⟨(closedAll slot).ids, nofun, SessionState.last_closeAllSessions slot⟩
  | setLoggedIn | addDerivedKey | destroyDerivedKey | destroyDerivedKeysOfSlot =>
    exact ⟨fun hid => hid, nofun, fun hin hou => (not_last rfl hin hou).elim⟩
  | endLogin slot =>
    have hse := (SessionState.endLogin_loginsOnly w.state slot).sessions
    exact ⟨(loggedOut slot).ids, nofun, fun hin hou => (not_last hse hin hou).elim⟩

/-- In every sequence in which logins are set for slots that are shown, and the counter of keys
stays below the mark bit, the laws of the state hold at the end, those of a step hold of whatever is
done next, and a reader keeps its id ever after. -/
theorem session_state_laws (ops : List StateOp) (h : Along StateRun.step Allowed {} ops) :
    let w := run StateRun.step {} ops
    StateLaws w ∧ (∀ op, StepLaws w op) ∧
      ∀ more, Along StateRun.step Allowed w more →
        ∀ reader id, w.state.readerToSlot.lookup reader = some id →
        (run StateRun.step w more).state.readerToSlot.lookup reader = some id := by
  have hk (w : StateRun) (op : StateOp) (ha : Allowed w op) (hla : Lawful w) : Lawful (w.step op) :=
    hla.step ha
  have hl : Lawful (run StateRun.step {} ops) := run_invariant_along hk lawful_start h
  refine ⟨hl.laws, hl.stepLaws, fun more hm reader id hid => ?_⟩
  have hi (w : StateRun) (op : StateOp) (ha : Allowed w op)
      (hw : Lawful w ∧ w.state.readerToSlot.lookup reader = some id) :
      Lawful (w.step op) ∧ (w.step op).state.readerToSlot.lookup reader = some id :=
    ⟨hw.1.step ha, (hw.1.stepLaws op).ids hw.2⟩
  exact (run_invariant_along hi ⟨hl, hid⟩ hm).2

/-! ## Runs -/

def cardAt (reader : UInt8) (serial : Bytes) : ObjectModel :=
  ⟨[{ readerPath := [reader], tokenPresent := true, tokenSerial := serial }]⟩

/-- a login on a card, and a key -/
theorem session_state_laws_key :
    StateLaws (run StateRun.step {}
      [.setModel (cardAt 114 [49]), .openSession 0 4, .setLoggedIn 0 0,
      .addDerivedKey ⟨0, 1, {}, [1]⟩, .setModel (cardAt 114 [49])]) :=
  (session_state_laws _ (by decide +kernel)).1

def loginUnshown : List StateOp :=
  [.setModel (cardAt 114 [49]), .openSession 0 4, .setModel {}, .setLoggedIn 0 0]

/-- The login survives the card that is there when the reader is back. -/
theorem login_survives_unshown : ¬ StepLaws (run StateRun.step {} loginUnshown)
    (.setModel (cardAt 114 [50])) := by
  intro h
  have hin : ((run StateRun.step {} loginUnshown).step
      (.setModel (cardAt 114 [50]))).state.isLoggedIn 0 = true := by
    decide +kernel
  obtain ⟨-, before, now, hb, -⟩ := h.survives rfl hin
  have hs : ((run StateRun.step {} loginUnshown).state.slotById 0).isSome = true :=
    Option.isSome_of_eq_some hb
  exact absurd hs (by decide +kernel)

end LibreAgent.Pkcs11Agent
