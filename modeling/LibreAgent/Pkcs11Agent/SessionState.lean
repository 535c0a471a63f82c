import LibreAgent.Lib.EraseIf
import LibreAgent.Pkcs11Agent.ObjectModel

/-!
# The state of a PKCS#11 module (`pkcs11/SessionState`)

The slots and their ids, the sessions, the logins and the keys that were derived.  The whole state
is behind one lock, and the methods are functions.

* `SessionState.setModel` : a new model; a login ends with the token it was made on.

Ids and session handles are counters without a bound, and a map is not sorted.  The cursor of a
search is left out.
-/

namespace LibreAgent.Pkcs11Agent

open List AList

open Operations (KeyType)

/-! ## The data -/

structure SignCursor where
  active : Bool := false
  reader : Bytes := []
  certId : Bytes := []
  keyBits : UInt32 := 0
  mechanism : CkMechanism := .rsaPkcs
  keyType : KeyType := .other
  accumulated : Bytes := []

structure DecryptCursor where
  active : Bool := false
  reader : Bytes := []
  certId : Bytes := []
  keyBits : UInt32 := 0
  accumulated : Bytes := []

structure Session where
  slot : Nat := 0
  flags : UInt64 := 0
  sign : SignCursor := {}
  decrypt : DecryptCursor := {}
  /-- an agent call is in flight, with the lock released -/
  rpcInFlight : Bool := false

structure SlotLogin where
  loggedIn : Bool := false
  /-- 64 bits in the source, taken not to wrap -/
  generation : Nat := 0
  checkedAt : Int := 0

inductive DerivedKeyType where
  | genericSecret
  | aes

structure DerivedKeyTemplate where
  keyType : DerivedKeyType := .genericSecret
  valueLen : Option Nat := none
  sensitive : Bool := true
  extractable : Bool := false
  label : Bytes := []
  id : Bytes := []
  usage : List (Nat × Bool) := []

structure DerivedKey where
  slot : Nat
  creator : Nat
  attributes : DerivedKeyTemplate
  value : Bytes

/-- Slot ids and session handles are 64 bits wide in the source, and are taken not to wrap; the
handles of derived keys keep their width, as one bit of them is a mark. -/
structure SessionState where
  model : ObjectModel := {}
  readerToSlot : AList (fun _ : Bytes => Nat) := ∅
  nextSlotId : Nat := 0
  /-- the place of a slot in the model -/
  slotIndex : AList (fun _ : Nat => Nat) := ∅
  sessions : AList (fun _ : Nat => Session) := ∅
  nextSession : Nat := 1
  logins : AList (fun _ : Nat => SlotLogin) := ∅
  derived : AList (fun _ : UInt64 => DerivedKey) := ∅
  nextDerived : UInt64 := 1

/-! ## The methods -/

/-- the ids of the slots from place `i` on: a reader that is known keeps its own -/
def assignSlots (readerToSlot : AList fun _ : Bytes => Nat) (nextSlotId : Nat)
    (slotIndex : AList fun _ : Nat => Nat)
    (i : Nat) : List Slot → (AList fun _ : Bytes => Nat) × Nat × AList fun _ : Nat => Nat
  | [] => (readerToSlot, nextSlotId, slotIndex)
  | slot :: slots =>
    match readerToSlot.lookup slot.readerPath with
    | some id => assignSlots readerToSlot nextSlotId (slotIndex.insert id i) (i + 1) slots
    | none =>
      assignSlots (readerToSlot.insert slot.readerPath nextSlotId) (nextSlotId + 1)
        (slotIndex.insert nextSlotId i) (i + 1)
        slots

def Slot.shownSerial (slot : Slot) : Bytes :=
  if slot.tokenPresent then slot.tokenSerial else []

namespace SessionState

variable (s : SessionState)

def slotById (id : Nat) : Option Slot :=
  (s.slotIndex.lookup id).bind fun i => s.model.slots[i]?

def session (h : Nat) : Option Session :=
  s.sessions.lookup h

variable (slot : Nat)

def slotHasSessions : Bool :=
  s.sessions.entries.any fun e => e.2.slot = slot

def isLoggedIn : Bool :=
  (s.logins.lookup slot).any (·.loggedIn)

def loginGeneration : Nat :=
  (s.logins.lookup slot).elim 0 (·.generation)

def destroyDerivedKeysOfSlot : SessionState :=
  { s with derived := s.derived.eraseIf fun key => key.slot = slot }

def destroyDerivedKeysOfSession (creator : Nat) : SessionState :=
  { s with derived := s.derived.eraseIf fun key => key.creator = creator }

def setLogin (l : SlotLogin) : SessionState :=
  { s with logins := s.logins.insert slot l }

def setLoggedIn (now : Int) : SessionState :=
  s.setLogin slot
    { loggedIn := true, generation := s.loginGeneration slot + 1, checkedAt := now }

def endLogin : SessionState :=
  match s.logins.lookup slot with
  | some l => (s.setLogin slot { l with loggedIn := false }).destroyDerivedKeysOfSlot slot
  | none => s.destroyDerivedKeysOfSlot slot

def kLoginCheckInterval : Int := 1000000000

def loginCheckDue (now : Int) : Bool :=
  (s.logins.lookup slot).any fun l => l.loggedIn && now - l.checkedAt ≥ kLoginCheckInterval

def markLoginChecked (now : Int) : SessionState :=
  match s.logins.lookup slot with
  | some l => s.setLogin slot { l with checkedAt := now }
  | none => s

def shownTokens : List (Nat × Bytes) :=
  s.slotIndex.entries.filterMap fun e => s.model.slots[e.2]?.map fun slot => (e.1, slot.shownSerial)

def setSlots (model : ObjectModel) : SessionState :=
  let (readerToSlot, nextSlotId, slotIndex) :=
    assignSlots s.readerToSlot s.nextSlotId ∅ 0 model.slots
  { s with model, readerToSlot, nextSlotId, slotIndex }

def keepsToken (id : Nat) (serial : Bytes) : Bool :=
  serial ≠ [] && (s.slotById id).any fun now => now.tokenPresent && now.tokenSerial = serial

def endLogins (before : List (Nat × Bytes)) : SessionState :=
  before.foldl (fun s (id, serial) => if s.keepsToken id serial then s else s.endLogin id) s

def setModel (model : ObjectModel) : SessionState :=
  (s.setSlots model).endLogins s.shownTokens

def openSession (flags : UInt64) : SessionState × Nat :=
  ({ s with sessions := s.sessions.insert s.nextSession { slot, flags },
            nextSession := s.nextSession + 1 },
    s.nextSession)

def setSession (h : Nat) (session : Session) : SessionState :=
  { s with sessions := s.sessions.insert h session }

def updateSession (h : Nat) (change : Session → Session) : SessionState :=
  match s.session h with
  | some session => s.setSession h (change session)
  | none => s

def eraseSession (h : Nat) : SessionState :=
  { s with sessions := s.sessions.erase h }

def closeSession (h : Nat) : SessionState :=
  match s.session h with
  | none => s.destroyDerivedKeysOfSession h
  | some session =>
    let s := (s.destroyDerivedKeysOfSession h).eraseSession h
    if s.slotHasSessions session.slot then s else s.endLogin session.slot

def eraseSessionsOf : SessionState :=
  { s with sessions := s.sessions.eraseIf fun session => session.slot = slot }

def closeAllSessions : SessionState :=
  (s.endLogin slot).eraseSessionsOf slot

/-! ### Objects -/

def encodeHandle (slot objIndex : Nat) : UInt64 :=
  (UInt64.ofNat slot <<< 32) ||| ((UInt64.ofNat objIndex + 1) &&& 0xFFFFFFFF)

def resolveObject (h : UInt64) : Option Object :=
  if (h >>> 32).toNat ≠ slot ∨ h &&& 0xFFFFFFFF = 0 then none
  else (s.slotById slot).bind fun shown => shown.objects[((h &&& 0xFFFFFFFF) - 1).toNat]?

def kDerivedHandleBit : UInt64 := 0x8000000000000000

def isDerivedHandle (h : UInt64) : Bool :=
  h &&& kDerivedHandleBit ≠ 0

def addDerivedKey (key : DerivedKey) : SessionState × UInt64 :=
  let h := kDerivedHandleBit ||| s.nextDerived
  ({ s with
      derived := if (s.derived.lookup h).isSome then s.derived else s.derived.insert h key
      nextDerived := s.nextDerived + 1 },
    h)

def derivedKey (session : Nat) (h : UInt64) : Option DerivedKey :=
  match s.session session, s.derived.lookup h with
  | some opened, some key =>
    if key.slot = opened.slot ∧ s.isLoggedIn opened.slot then some key else none
  | _, _ => none

def destroyDerivedKey (h : UInt64) : SessionState :=
  { s with derived := s.derived.erase h }

end SessionState

/-! ## Slot ids -/

def slotOf (slots : List Slot) (reader : Bytes) : Option Slot :=
  slots.reverse.find? fun slot => slot.readerPath = reader

lemma slotOf_append_singleton (slots : List Slot) (slot : Slot) (reader : Bytes) :
    slotOf (slots ++ [slot]) reader = if slot.readerPath = reader then some slot
      else slotOf slots reader := by
  simp only [slotOf, reverse_append, reverse_singleton, singleton_append, find?_cons]
  split <;> simp_all

variable {reader : Bytes} {slot : Slot} {readerToSlot : AList fun _ : Bytes => Nat}
  {nextSlotId : Nat}
  {all done rest : List Slot} {slotIndex : AList fun _ : Nat => Nat}

lemma readerPath_of_slotOf {slots : List Slot} (h : slotOf slots reader = some slot) :
    slot.readerPath = reader := by
  simpa using find?_some h

/-- the ids of the readers that have been seen: one for each -/
structure ReaderIds (readerToSlot : AList fun _ : Bytes => Nat) (nextSlotId : Nat) : Prop where
  below : ∀ {reader id}, readerToSlot.lookup reader = some id → id < nextSlotId
  inj : ∀ {reader reader' id}, readerToSlot.lookup reader = some id →
    readerToSlot.lookup reader' = some id →
    reader = reader'

/-- the ids after the slots `done`, which are the first of `all` -/
structure Assigned (all done : List Slot) (readerToSlot : AList fun _ : Bytes => Nat)
    (nextSlotId : Nat)
    (slotIndex : AList fun _ : Nat => Nat) : Prop where
  ids : ReaderIds readerToSlot nextSlotId
  shows : ∀ {reader id}, readerToSlot.lookup reader = some id →
    ((slotIndex.lookup id).bind fun i => all[i]?) = slotOf done reader
  known : ∀ {id i}, slotIndex.lookup id = some i → ∃ reader, readerToSlot.lookup reader = some id

lemma ReaderIds.insert (h : ReaderIds readerToSlot nextSlotId) :
    ReaderIds (readerToSlot.insert reader nextSlotId) (nextSlotId + 1) := by
  have hc : ∀ {reader' id}, (readerToSlot.insert reader nextSlotId).lookup reader' = some id →
      (reader' = reader ∧ id = nextSlotId) ∨
        (readerToSlot.lookup reader' = some id ∧ id < nextSlotId) := by
    intro reader' id hid
    by_cases hre : reader' = reader
    · subst hre
      rw [lookup_insert] at hid
      exact .inl ⟨rfl, (Option.some.inj hid).symm⟩
    · rw [lookup_insert_ne hre] at hid
      exact .inr ⟨hid, h.below hid⟩
  constructor
  · intro reader' id hid
    rcases hc hid with ⟨-, rfl⟩ | ⟨-, hlt⟩
    · exact Nat.lt_succ_self _
    · exact Nat.lt_succ_of_lt hlt
  · intro r r' id hid hid'
    rcases hc hid with ⟨hr, hn⟩ | ⟨hold, hlt⟩ <;> rcases hc hid' with ⟨hr', hn'⟩ | ⟨hold', hlt'⟩
    · exact hr.trans hr'.symm
    · exact absurd hn (Nat.ne_of_lt hlt')
    · exact absurd hn' (Nat.ne_of_lt hlt)
    · exact h.inj hold hold'

lemma Assigned.snoc {readerToSlot' : AList fun _ : Bytes => Nat} {nextSlotId' id : Nat}
    (h : Assigned all done readerToSlot nextSlotId slotIndex) (ha : all = done ++ slot :: rest)
    (hids : ReaderIds readerToSlot' nextSlotId')
    (hs : readerToSlot'.lookup slot.readerPath = some id)
    (ho : ∀ {reader}, reader ≠ slot.readerPath → readerToSlot'.lookup reader =
      readerToSlot.lookup reader)
    (hk : ∀ {reader id'}, readerToSlot.lookup reader = some id' →
      readerToSlot'.lookup reader = some id') :
    Assigned all (done ++ [slot]) readerToSlot' nextSlotId' (slotIndex.insert id done.length) := by
  refine ⟨hids, fun {reader id'} hid => ?_, fun {id' i} hi => ?_⟩
  · rw [slotOf_append_singleton]
    by_cases hr : reader = slot.readerPath
    · subst hr
      obtain rfl : id = id' := Option.some.inj (hs.symm.trans hid)
      rw [lookup_insert, if_pos rfl, ha]
      simp
    · have hne : id' ≠ id := fun heq => hr (hids.inj hid (heq ▸ hs))
      rw [lookup_insert_ne hne, if_neg (Ne.symm hr)]
      exact h.shows (ho hr ▸ hid)
  · by_cases hid : id' = id
    · exact ⟨slot.readerPath, hid ▸ hs⟩
    · rw [lookup_insert_ne hid] at hi
      obtain ⟨reader, hr⟩ := h.known hi
      exact ⟨reader, hk hr⟩

lemma Assigned.assignSlots (h : Assigned all done readerToSlot nextSlotId slotIndex)
    (ha : all = done ++ rest) :
    let assigned := assignSlots readerToSlot nextSlotId slotIndex done.length rest
    Assigned all all assigned.1 assigned.2.1 assigned.2.2 ∧
      ∀ {reader id}, readerToSlot.lookup reader = some id → assigned.1.lookup reader = some id := by
  induction rest generalizing done readerToSlot nextSlotId slotIndex with
  | nil =>
    rw [append_nil] at ha
    exact ⟨ha ▸ h, id⟩
  | cons slot rest ih =>
    have hl : done.length + 1 = (done ++ [slot]).length := by simp
    have ha' : all = (done ++ [slot]) ++ rest := by simp [ha]
    simp only [Pkcs11Agent.assignSlots]
    split
    · next id hid =>
      rw [hl]
      exact ih (h.snoc ha h.ids hid (fun _ => rfl) (fun hid' => hid')) ha'
    · next hid =>
      have hg : ∀ {reader id'}, readerToSlot.lookup reader = some id' →
          (readerToSlot.insert slot.readerPath nextSlotId).lookup reader = some id' := by
        intro reader id' hid'
        have hne : reader ≠ slot.readerPath := by
          rintro rfl
          rw [hid] at hid'
          cases hid'
        rw [lookup_insert_ne hne]
        exact hid'
      have hs := h.snoc ha h.ids.insert (lookup_insert _) lookup_insert_ne hg
      rw [hl]
      exact ⟨(ih hs ha').1, fun hid' => (ih hs ha').2 (hg hid')⟩

namespace SessionState

variable {s : SessionState}

/-- every slot id belongs to the reader that its slot names -/
structure Kept (s : SessionState) : Prop where
  ids : ReaderIds s.readerToSlot s.nextSlotId
  slots : ∀ {id slot}, s.slotById id = some slot → s.readerToSlot.lookup slot.readerPath = some id

lemma kept_init : Kept {} := ⟨⟨nofun, nofun⟩, nofun⟩

lemma assigned_setSlots (h : s.Kept) (model : ObjectModel) : let s' := s.setSlots model
    Assigned model.slots model.slots s'.readerToSlot s'.nextSlotId s'.slotIndex ∧
      ∀ {reader id}, s.readerToSlot.lookup reader = some id → s'.readerToSlot.lookup reader =
        some id := by
  have hs : Assigned model.slots [] s.readerToSlot s.nextSlotId ∅ := ⟨h.ids, fun _ => rfl, nofun⟩
  exact hs.assignSlots rfl

variable {model : ObjectModel} {id : Nat} {s' : SessionState}

lemma slotById_setSlots (h : s.Kept) {reader : Bytes}
    (hid : (s.setSlots model).readerToSlot.lookup reader = some id) :
    (s.setSlots model).slotById id = slotOf model.slots reader :=
  (assigned_setSlots h model).1.shows hid

lemma Kept.setSlots (h : s.Kept) (model : ObjectModel) : (s.setSlots model).Kept := by
  have ha := (assigned_setSlots h model).1
  refine ⟨ha.ids, fun {id slot} hs => ?_⟩
  obtain ⟨i, hi, -⟩ := Option.bind_eq_some_iff.mp hs
  obtain ⟨reader, hr⟩ := ha.known hi
  rw [slotById_setSlots h hr] at hs
  rw [readerPath_of_slotOf hs]
  exact hr

/-! ## Logins -/

/-- the states differ in their logins and derived keys only -/
structure LoginsOnly (s s' : SessionState) : Prop where
  model : s'.model = s.model
  readerToSlot : s'.readerToSlot = s.readerToSlot
  nextSlotId : s'.nextSlotId = s.nextSlotId
  slotIndex : s'.slotIndex = s.slotIndex
  sessions : s'.sessions = s.sessions
  nextSession : s'.nextSession = s.nextSession

lemma LoginsOnly.refl (s : SessionState) : LoginsOnly s s := ⟨rfl, rfl, rfl, rfl, rfl, rfl⟩

lemma LoginsOnly.trans {s s'' : SessionState} (h : LoginsOnly s s') (h' : LoginsOnly s' s'') :
    LoginsOnly s s'' :=
  ⟨h'.model.trans h.model, h'.readerToSlot.trans h.readerToSlot, h'.nextSlotId.trans h.nextSlotId,
    h'.slotIndex.trans h.slotIndex, h'.sessions.trans h.sessions,
      h'.nextSession.trans h.nextSession⟩

lemma LoginsOnly.slotById (h : LoginsOnly s s') (id : Nat) : s'.slotById id = s.slotById id := by
  simp [SessionState.slotById, h.slotIndex, h.model]

lemma LoginsOnly.session_eq (h : LoginsOnly s s') (handle : Nat) :
    s'.session handle = s.session handle := by
  simp [SessionState.session, h.sessions]

lemma LoginsOnly.kept (h : LoginsOnly s s') (hk : s.Kept) : s'.Kept := by
  refine ⟨?_, fun hs => ?_⟩
  · rw [h.readerToSlot, h.nextSlotId]
    exact hk.ids
  · rw [h.readerToSlot]
    exact hk.slots (h.slotById _ ▸ hs)

lemma endLogin_loginsOnly (s : SessionState) (slot : Nat) : LoginsOnly s (s.endLogin slot) := by
  unfold endLogin
  split <;> constructor <;> rfl

lemma isLoggedIn_endLogin {slot : Nat} (h : (s.endLogin slot).isLoggedIn id = true) :
    s.isLoggedIn id = true ∧ id ≠ slot := by
  unfold endLogin at h
  split at h
  · next l hl =>
    have h : ((s.logins.insert slot { l with loggedIn := false }).lookup id).any
      (·.loggedIn) = true := h
    by_cases hid : id = slot
    · subst hid
      rw [lookup_insert] at h
      cases h
    · rw [lookup_insert_ne hid] at h
      exact ⟨h, hid⟩
  · next hl =>
    refine ⟨h, fun hid => ?_⟩
    have h : (s.logins.lookup id).any (·.loggedIn) = true := h
    rw [hid, hl] at h
    cases h

lemma LoginsOnly.keepsToken (h : LoginsOnly s s') (id : Nat) (serial : Bytes) :
    s'.keepsToken id serial = s.keepsToken id serial := by
  simp [SessionState.keepsToken, h.slotById]

lemma endLogins_loginsOnly (before : List (Nat × Bytes)) (s : SessionState) :
    LoginsOnly s (s.endLogins before) := by
  refine List.foldlRecOn before _ (.refl s) fun s' h token _ => ?_
  dsimp only
  split
  · exact h
  · exact h.trans (endLogin_loginsOnly s' _)

lemma isLoggedIn_endLogins {before : List (Nat × Bytes)}
    (h : (s.endLogins before).isLoggedIn id = true) :
    s.isLoggedIn id = true ∧ ∀ serial, (id, serial) ∈ before → s.keepsToken id serial = true := by
  induction before generalizing s with
  | nil => exact ⟨h, nofun⟩
  | cons token before ih =>
    obtain ⟨id', serial'⟩ := token
    have h : ((if s.keepsToken id' serial' then s else s.endLogin id').endLogins before).isLoggedIn
      id = true := h
    split at h
    · next hk =>
      obtain ⟨hin, hr⟩ := ih h
      refine ⟨hin, fun serial hm => ?_⟩
      rcases mem_cons.mp hm with heq | hm
      · cases heq
        exact hk
      · exact hr serial hm
    · obtain ⟨hin, hr⟩ := ih h
      obtain ⟨hin, hne⟩ := isLoggedIn_endLogin hin
      refine ⟨hin, fun serial hm => ?_⟩
      rcases mem_cons.mp hm with heq | hm
      · exact absurd (congrArg Prod.fst heq) hne
      · exact (endLogin_loginsOnly s id').keepsToken id serial ▸ hr serial hm

lemma mem_shownTokens {slot : Slot} (h : s.slotById id = some slot) :
    (id, slot.shownSerial) ∈ s.shownTokens := by
  obtain ⟨i, hi, hs⟩ := Option.bind_eq_some_iff.mp h
  refine mem_filterMap.mpr ⟨⟨id, i⟩, mem_lookup_iff.mp hi, ?_⟩
  simp [hs]

/-- the login of a slot that had a token is left only if the slot still shows this token -/
lemma isLoggedIn_setModel (h : (s.setModel model).isLoggedIn id = true) : s.isLoggedIn id = true ∧
      ∀ {slot}, s.slotById id = some slot →
        (s.setSlots model).keepsToken id slot.shownSerial = true := by
  obtain ⟨hin, hk⟩ := isLoggedIn_endLogins h
  exact ⟨hin, fun hs => hk _ (mem_shownTokens hs)⟩

lemma setModel_loginsOnly (s : SessionState) (model : ObjectModel) :
    LoginsOnly (s.setSlots model) (s.setModel model) :=
  endLogins_loginsOnly _ _

end SessionState

end LibreAgent.Pkcs11Agent
