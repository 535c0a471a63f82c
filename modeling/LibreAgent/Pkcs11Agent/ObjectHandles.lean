import LibreAgent.Lib.Runs
import LibreAgent.Pkcs11Agent.StateSteps

/-!
# Object handles

A handle is a slot and a place in the slot's list of objects.

* `SearchRun` : refreshes, searches and sessions, with a record of the handles that searches have
  given;
* `handles_hold` : a handle stands for the same key of the same token, or for nothing, as long as no
  other card shows in the slot and the card's list of keys stays as it is (`SameCards`).

A model with another card is taken as it is: a handle that was given for the first card then stands
for what the second has in that place (`handle_rebinds`).
-/

namespace LibreAgent.Pkcs11Agent

open Runs
open Operations (KeyType)

/-! ## The search -/

inductive AttributeType where
  | ckaClass
  | ckaId
  | ckaToken
  | ckaKeyType
  | ckaPrivate
  | ckaLabel
  | other (type : UInt64)
  deriving DecidableEq

/-- an attribute of a template; a null pointer has no value -/
structure CkAttribute where
  type : AttributeType
  value : Option Bytes

/-- a `CK_ULONG` in the order of the machine, the lowest byte first -/
def CkAttribute.scalarOf (a : CkAttribute) : Option Nat :=
  a.value.bind fun bytes => if bytes.length =
    8 then some (bytes.foldr (fun b n => b.toNat + 256 * n) 0) else none

def CkAttribute.boolOf (a : CkAttribute) : Option UInt8 :=
  a.value.bind fun
    | [b] => some b
    | _ => none

def ObjectClass.cko : ObjectClass → Nat
  | .data => 0
  | .certificate => 1
  | .publicKey => 2
  | .privateKey => 3

def ckkOf (keyType : KeyType) : Nat :=
  if keyType = .ec then 3 else 0

/-- an attribute that is not compared, or has not the size of its type, is passed over -/
def objectMatches (obj : Object) (a : CkAttribute) : Bool :=
  match a.type with
  | .ckaClass => a.scalarOf.all fun cls => cls = obj.cls.cko
  | .ckaId => a.value.all fun want => want = obj.ckaId
  | .ckaToken => a.boolOf.all fun want => want = 1
  | .ckaKeyType => a.scalarOf.all fun want =>
      (obj.cls = .publicKey || obj.cls = .privateKey) && want = ckkOf obj.keyType
  | .ckaPrivate => a.boolOf.all fun want => want = if obj.cls = .privateKey then 1 else 0
  | .ckaLabel | .other _ => true

def Slot.findMatches (shown : Slot) (slot : Nat) (tmpl : List CkAttribute) :
    List (UInt64 × Object) :=
  (shown.objects.zipIdx.filter fun entry => tmpl.all (objectMatches entry.1)).map fun entry =>
    (SessionState.encodeHandle slot entry.2, entry.1)

/-! ## Handles -/

namespace SessionState

variable {s : SessionState} {slot i : Nat} {obj : Object}

lemma toNat_encodeHandle (hi : i < 2 ^ 32) : (encodeHandle slot i).toNat =
    2 ^ 32 * (slot % 2 ^ 32) + (i + 1) % 2 ^ 32 := by
  have hl : ((UInt64.ofNat i + 1) &&& 0xFFFFFFFF).toNat = (i + 1) % 2 ^ 32 := by
    rw [UInt64.toNat_and, UInt64.toNat_add, UInt64.toNat_ofNat_of_lt' (by omega : i < 2 ^ 64),
      UInt64.toNat_one,
      Nat.mod_eq_of_lt (by omega)]
    exact Nat.and_two_pow_sub_one_eq_mod (i + 1) 32
  have hh : (UInt64.ofNat slot <<< 32).toNat = 2 ^ 32 * (slot % 2 ^ 32) := by
    rw [UInt64.toNat_shiftLeft, UInt64.toNat_ofNat, Nat.shiftLeft_eq]
    show slot % 2 ^ 64 * 2 ^ 32 % 2 ^ 64 = _
    omega
  unfold encodeHandle
  rw [UInt64.toNat_or, hh, hl, Nat.two_pow_add_eq_or_of_lt (Nat.mod_lt _ (by decide))]

lemma resolveObject_encodeHandle (hi : i < 2 ^ 32)
    (ho : s.resolveObject slot (encodeHandle slot i) = some obj) :
    ∃ shown, s.slotById slot = some shown ∧ shown.objects[i]? = some obj := by
  have hr : (encodeHandle slot i &&& 0xFFFFFFFF).toNat = (i + 1) % 2 ^ 32 := by
    rw [UInt64.toNat_and, toNat_encodeHandle hi]
    refine (Nat.and_two_pow_sub_one_eq_mod _ 32).trans ?_
    omega
  unfold resolveObject at ho
  split at ho
  · cases ho
  · next hv =>
    obtain ⟨-, hz⟩ := not_or.mp hv
    have hne : (i + 1) % 2 ^ 32 ≠ 0 := fun h => hz (UInt64.toNat_inj.mp (hr.trans h))
    have hp : ((encodeHandle slot i &&& 0xFFFFFFFF) - 1).toNat = i := by
      rw [UInt64.toNat_sub_of_le _ _ (by rw [UInt64.le_iff_toNat_le, hr, UInt64.toNat_one]; omega),
        hr,
        UInt64.toNat_one]
      omega
    rw [hp] at ho
    exact Option.bind_eq_some_iff.mp ho

end SessionState

/-! ## Sequences -/

/-- a handle that a search has given, and what it was given for -/
structure Given where
  handle : UInt64
  slot : Nat
  object : Object
  shown : Slot

inductive SearchOp where
  | setModel (model : ObjectModel)
  | search (h : Nat) (tmpl : List CkAttribute)
  | openSession (slot : Nat) (flags : UInt64)
  | closeSession (h : Nat)
  | closeAllSessions (slot : Nat)

structure SearchRun where
  state : SessionState := {}
  given : List Given := []

/-- what a search gives of the card's objects; derived keys have handles of their own -/
def SessionState.search (s : SessionState) (h : Nat) (tmpl : List CkAttribute) : List Given :=
  match s.session h with
  | none => []
  | some session =>
    match s.slotById session.slot with
    | none => []
    | some shown =>
      (shown.findMatches session.slot tmpl).map fun found => ⟨found.1, session.slot, found.2, shown⟩

namespace SearchRun

variable (w : SearchRun)

def step : SearchOp → SearchRun
  | .setModel model => { w with state := w.state.setModel model }
  | .search h tmpl => { w with given := w.state.search h tmpl ++ w.given }
  | .openSession slot flags => { w with state := (w.state.openSession slot flags).1 }
  | .closeSession h => { w with state := w.state.closeSession h }
  | .closeAllSessions slot => { w with state := w.state.closeAllSessions slot }

end SearchRun

def HandlesHold (w : SearchRun) : Prop :=
  ∀ g ∈ w.given, ∀ obj, w.state.resolveObject g.slot g.handle = some obj →
    obj.cls = g.object.cls ∧ obj.certId = g.object.certId ∧
      ∃ now, w.state.slotById g.slot = some now ∧ now.tokenSerial = g.shown.tokenSerial

variable {w : SearchRun}

lemma HandlesHold.certIds (h : HandlesHold w) :
    ∀ g ∈ w.given, ∀ obj ∈ w.state.resolveObject g.slot g.handle, obj.certId = g.object.certId :=
  fun g hg obj ho => (h g hg obj ho).2.1

def Slot.kinds (slot : Slot) : List (ObjectClass × Bytes) :=
  slot.objects.map fun obj => (obj.cls, obj.certId)

/-- a slot from which handles have been given shows the same card with the same list of objects, or
no objects -/
def SameCards (w : SearchRun) : SearchOp → Prop
  | .setModel model => ∀ g ∈ w.given, ∀ slot ∈ model.slots, slot.readerPath = g.shown.readerPath →
      slot.objects = [] ∨ slot.tokenSerial = g.shown.tokenSerial ∧ slot.kinds = g.shown.kinds
  | .search h _ =>
    ∀ session ∈ w.state.session h, ∀ shown ∈ w.state.slotById session.slot,
      shown.objects.length ≤ 2 ^ 32
  | _ => True

instance (w : SearchRun) : ∀ op, Decidable (SameCards w op)
  | .setModel model => inferInstanceAs (Decidable (∀ g ∈ w.given, ∀ slot ∈ model.slots,
      slot.readerPath = g.shown.readerPath →
        slot.objects = [] ∨ slot.tokenSerial = g.shown.tokenSerial ∧ slot.kinds = g.shown.kinds))
  | .search h _ =>
    inferInstanceAs (Decidable (∀ session ∈ w.state.session h,
      ∀ shown ∈ w.state.slotById session.slot,
      shown.objects.length ≤ 2 ^ 32))
  | .openSession _ _ | .closeSession _ | .closeAllSessions _ => .isTrue trivial

/-! ## The invariant -/

/-- the handle is the place of its object, and the slot shows the same list of objects, or none -/
structure GivenHolds (s : SessionState) (g : Given) : Prop where
  place : ∃ i, i < 2 ^ 32 ∧ g.handle = SessionState.encodeHandle g.slot i ∧ g.shown.objects[i]? =
    some g.object
  reader : s.readerToSlot.lookup g.shown.readerPath = some g.slot
  card : ∀ {now}, s.slotById g.slot = some now →
    now.objects = [] ∨ now.tokenSerial = g.shown.tokenSerial ∧ now.kinds = g.shown.kinds

variable {g : Given}

variable {s : SessionState}

lemma GivenHolds.holds (h : GivenHolds s g) {obj : Object}
    (ho : s.resolveObject g.slot g.handle = some obj) : obj.cls = g.object.cls ∧
    obj.certId = g.object.certId ∧
      ∃ now, s.slotById g.slot = some now ∧ now.tokenSerial = g.shown.tokenSerial := by
  obtain ⟨i, hi, hh, hg⟩ := h.place
  rw [hh] at ho
  obtain ⟨now, hno, hf⟩ := SessionState.resolveObject_encodeHandle hi ho
  rcases h.card hno with hn | ⟨ht, hk⟩
  · rw [hn] at hf
    cases hf
  · have hki := congrArg (·[i]?) hk
    simp only [Slot.kinds, List.getElem?_map, hf, hg, Option.map_some, Option.some.injEq,
      Prod.mk.injEq] at hki
    exact ⟨hki.1, hki.2, now, hno, ht⟩

lemma GivenHolds.sameSlots {s s' : SessionState} (h : GivenHolds s g) (hs : s.SameSlots s') :
    GivenHolds s' g := by
  refine ⟨h.place, ?_, fun hn => ?_⟩
  · rw [hs.readerToSlot]
    exact h.reader
  · rw [hs.slotById] at hn
    exact h.card hn

lemma GivenHolds.setModel (h : GivenHolds s g) (hk : s.Kept) {model : ObjectModel}
    (hs : ∀ slot ∈ model.slots, slot.readerPath = g.shown.readerPath →
      slot.objects = [] ∨ slot.tokenSerial = g.shown.tokenSerial ∧ slot.kinds = g.shown.kinds) :
    GivenHolds (s.setModel model) g := by
  have ho := SessionState.setModel_loginsOnly s model
  have hr := (SessionState.assigned_setSlots hk model).2 h.reader
  refine ⟨h.place, ?_, fun {now} hn => ?_⟩
  · rw [ho.readerToSlot]
    exact hr
  · rw [ho.slotById, SessionState.slotById_setSlots hk hr] at hn
    have hm : now ∈ model.slots := List.mem_reverse.mp (List.mem_of_find?_eq_some hn)
    exact hs now hm (readerPath_of_slotOf hn)

lemma givenHolds_search (hk : s.Kept) {h : Nat} {tmpl : List CkAttribute}
    (hfe : ∀ session ∈ s.session h, ∀ shown ∈ s.slotById session.slot,
      shown.objects.length ≤ 2 ^ 32)
    (hg : g ∈ s.search h tmpl) : GivenHolds s g := by
  unfold SessionState.search at hg
  split at hg
  · cases hg
  · next session ho =>
    split at hg
    · cases hg
    · next shown hs =>
      obtain ⟨found, hf, rfl⟩ := List.mem_map.mp hg
      obtain ⟨⟨obj, i⟩, he, rfl⟩ := List.mem_map.mp hf
      obtain ⟨hz, -⟩ := List.mem_filter.mp he
      have hp : shown.objects[i]? = some obj := List.mk_mem_zipIdx_iff_getElem?.mp hz
      obtain ⟨hlt, -⟩ := List.getElem?_eq_some_iff.mp hp
      refine ⟨⟨i, Nat.lt_of_lt_of_le hlt (hfe session ho shown hs), rfl, hp⟩, hk.slots hs,
        fun hn => ?_⟩
      rw [hs] at hn
      cases hn
      exact .inr ⟨rfl, rfl⟩

structure HandlesInv (w : SearchRun) : Prop where
  sound : w.state.Sound
  given : ∀ g ∈ w.given, GivenHolds w.state g

lemma HandlesInv.small (h : HandlesInv w) {state : SessionState} (hs : w.state.SmallStep state) :
    HandlesInv { w with state } :=
  ⟨hs.quiet.sound h.sound, fun g hg => (h.given g hg).sameSlots hs.quiet.slots⟩

lemma HandlesInv.step (h : HandlesInv w) {op : SearchOp} (hc : SameCards w op) :
    HandlesInv (w.step op) := by
  cases op with
  | setModel model =>
    exact ⟨h.sound.setModel model, fun g hg => (h.given g hg).setModel h.sound.kept (hc g hg)⟩
  | search handle tmpl =>
    refine ⟨h.sound, fun g hg => ?_⟩
    rcases List.mem_append.mp hg with hn | hold
    · exact givenHolds_search h.sound.kept hc hn
    · exact h.given g hold
  | openSession slot flags => exact h.small (.opened slot flags)
  | closeSession handle => exact h.small (.closed handle)
  | closeAllSessions slot => exact h.small (.closedAll slot)

/-- In every sequence of refreshes, searches and sessions in which the slots that have been searched
keep their cards, a handle that a search has given stands for the same object, or for nothing. -/
theorem handles_hold (ops : List SearchOp) (h : Along SearchRun.step SameCards {} ops) :
    HandlesHold (run SearchRun.step {} ops) := by
  have hs (w : SearchRun) (op : SearchOp) (hc : SameCards w op) (hw : HandlesInv w) :
    HandlesInv (w.step op) := hw.step hc
  have hr : HandlesInv (run SearchRun.step {} ops) :=
    run_invariant_along hs ⟨SessionState.sound_init, List.forall_mem_nil _⟩ h
  exact fun g hg obj ho => (hr.given g hg).holds ho

/-! ## Runs -/

def keyCard (serial certId : Bytes) : ObjectModel :=
  ⟨[{ readerPath := [114], tokenPresent := true, tokenSerial := serial,
      objects := [{ cls := .privateKey, certId }] }]⟩

def searchThen (model : ObjectModel) : List SearchOp :=
  [.setModel (keyCard [49] [65]), .openSession 0 4,
      .search 1 [⟨.ckaClass, some [3, 0, 0, 0, 0, 0, 0, 0]⟩], .setModel model]

/-- the card is taken out, and put in again -/
theorem handles_hold_same : (run SearchRun.step {}
      (searchThen {} ++ [.setModel (keyCard [49] [65])])).given.any (fun g =>
        g.object.certId = [65]) = true ∧
      HandlesHold (run SearchRun.step {} (searchThen {} ++ [.setModel (keyCard [49] [65])])) :=
  ⟨by decide +kernel, handles_hold _ (by decide +kernel)⟩

/-- Another card: the handle stands for its key. -/
theorem handle_rebinds :
    ¬ HandlesHold (run SearchRun.step {} (searchThen (keyCard [50] [66]))) := by
  intro h
  exact absurd h.certIds (by decide +kernel)

end LibreAgent.Pkcs11Agent
