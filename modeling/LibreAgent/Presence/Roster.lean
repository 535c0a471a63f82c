import LibreAgent.Presence.PresenceModel
import Mathlib.Data.List.Range
import Mathlib.Logic.Function.Basic

/-!
# The roster behind the registry

The presence is a roster: readers by name, each with at most one card.  The model and its registry
are two views of it, and every operation of the model changes both in the same way.

* `View`, `view` : what a registry shows apart from labels, and what it has announced;
  `view_addReader`, `view_addCard`, `view_removeReader`, `view_removeCard`, `view_update` : what the
  operations do to it;
* `Slot`, `Roster` : the abstract presence; `Shows` : the model shows a roster;
* `Shows.onReaderAdded`, `Shows.onReaderRemoved`, `Shows.onCardRemoved`, `Shows.publishCard` : the
  roster after each operation.
-/

namespace LibreAgent.Presence

open List

/-! ## What a registry shows -/

def ReaderState.unlabelled (r : ReaderState) : ReaderState :=
  r.setLabel ([], .unknown)

def Notice.announces : Notice → Option ObjectId
  | .addReader r => some r.id
  | .addCard c => some c.id
  | _ => none

def Notice.announcesCard : Notice → Option ObjectId
  | .addCard c => some c.id
  | _ => none

structure View where
  readers : List ReaderState
  /-- card and reader -/
  cards : List (ObjectId × ObjectId)
  /-- all ids that were published, in order -/
  announced : List ObjectId
  announcedCards : List ObjectId

def view (reg : ObjectRegistry) : View where
  readers := reg.readers.map ReaderState.unlabelled
  cards := reg.cards.map fun c => (c.id, c.reader)
  announced := reg.told.filterMap Notice.announces
  announcedCards := reg.told.filterMap Notice.announcesCard

lemma view_readerIds (reg : ObjectRegistry) : (view reg).readers.map ReaderState.id =
    reg.readers.map ReaderState.id := by
  show (reg.readers.map _).map _ = _
  rw [map_map]
  rfl

lemma view_cardIds (reg : ObjectRegistry) : (view reg).cards.map Prod.fst =
    reg.cards.map CardState.id := by
  show (reg.cards.map _).map _ = _
  rw [map_map]
  rfl

lemma filterMap_announceRelabels {f : Notice → Option ObjectId} (hf : ∀ r, f (.relabelled r) = none)
    (readers : List ReaderState) (ids : List ObjectId) (except : ObjectId) :
    (announceRelabels readers ids except).filterMap f = [] := by
  rw [List.filterMap_eq_nil_iff]
  intro notice hm
  obtain ⟨id, -, hn⟩ := mem_filterMap.mp hm
  obtain ⟨r, -, rfl⟩ := Option.map_eq_some_iff.mp hn
  exact hf r

lemma unlabelled_labelled (readers : List ReaderState) :
    (labelled (identified readers)).map ReaderState.unlabelled =
      readers.map ReaderState.unlabelled :=
  map_labelled readers fun _ _ => rfl

section Views
variable {reg : ObjectRegistry}

lemma view_addReader {reader : ReaderState} (hn : ¬ reg.contains reader.id = true) :
    view (reg.addReader reader) = { view reg with
      readers := (view reg).readers ++ [reader.unlabelled]
      announced := (view reg).announced ++ [reader.id] } := by
  rw [ObjectRegistry.addReader, if_neg hn]
  generalize hr : reg.readers ++ [reader.setLabel ([], .unknown)] = roster
  have hm : reader.id ∈ (labelled (identified roster)).map ReaderState.id := by
    rw [map_labelled roster fun _ _ => rfl, ← hr, map_append]
    exact mem_append_right _ mem_cons_self
  cases hfi : (labelled (identified roster)).find? fun r => r.id = reader.id with
  | none => exact absurd hm (Keyed.find_eq_none_iff.mp hfi)
  | some r =>
    have hid := List.find?_some hfi
    have hid' : r.id = reader.id := of_decide_eq_true hid
    have ht : ∀ {f : Notice → Option ObjectId}, (∀ r, f (.relabelled r) = none) →
        (reg.told ++ (((some r).map Notice.addReader).toList ++ announceRelabels
          (labelled (identified roster))
          (relabelledIds (identified roster)) reader.id)).filterMap f
          = reg.told.filterMap f ++ [Notice.addReader r].filterMap f := by
      intro f hf
      rw [List.filterMap_append, List.filterMap_append, filterMap_announceRelabels hf, append_nil]
      rfl
    simp only [view, unlabelled_labelled, hfi]
    rw [ht fun _ => rfl, ht fun _ => rfl, ← hr, map_append]
    show View.mk _ _ (_ ++ [r.id]) (_ ++ []) = View.mk _ _ (_ ++ [reader.id]) _
    rw [hid', append_nil]
    rfl

lemma view_addCard {card : CardState} (hn : ¬ reg.contains card.id = true) :
    view (reg.addCard card) = { view reg with
      cards := (view reg).cards ++ [(card.id, card.reader)]
      announced := (view reg).announced ++ [card.id]
      announcedCards := (view reg).announcedCards ++ [card.id] } := by
  rw [ObjectRegistry.addCard, if_neg hn]
  simp only [view, map_append, List.filterMap_append]
  rfl

lemma view_removeReader (h : Published reg) {id : ObjectId}
    (hm : id ∈ reg.readers.map ReaderState.id) :
    view (reg.remove id) = { view reg with
        readers := (view reg).readers.filter fun r => r.id ≠ id } := by
  rw [ObjectRegistry.remove, if_pos (Keyed.any_iff.mpr hm),
      Keyed.eraseP_eq_filter h.distinct.of_append_left]
  generalize hr : (reg.readers.filter fun r => r.id ≠ id) = roster
  have ht : ∀ {f : Notice → Option ObjectId}, (∀ r, f (.relabelled r) = none) →
    f (.removed id) = none →
      (reg.told ++ (Notice.removed id ::
        announceRelabels (labelled (identified roster)) (relabelledIds (identified roster))
          id)).filterMap f
        = reg.told.filterMap f := by
    intro f hf hre
    rw [List.filterMap_append, List.filterMap_cons_none hre,
      filterMap_announceRelabels hf, append_nil]
  simp only [view, unlabelled_labelled]
  rw [ht (fun _ => rfl) rfl, ht (fun _ => rfl) rfl, ← hr, filter_map]
  rfl

lemma view_removeCard (h : Published reg) {id : ObjectId} (hm : id ∈ reg.cards.map CardState.id) :
    view (reg.remove id) = { view reg with
        cards := (view reg).cards.filter fun c => c.1 ≠ id } := by
  have hre : id ∉ reg.readers.map ReaderState.id :=
    fun hr => disjoint_of_nodup_append h.distinct hr hm
  rw [ObjectRegistry.remove, if_neg (fun ha => hre (Keyed.any_iff.mp ha)),
    if_pos (Keyed.any_iff.mpr hm), Keyed.eraseP_eq_filter h.distinct.of_append_right]
  simp only [view, List.filterMap_append, filter_map]
  show View.mk _ _ (_ ++ []) (_ ++ []) = _
  rw [append_nil, append_nil]
  rfl

lemma view_update (h : Published reg) {reader : ObjectId} (hv : reader ≠ 0)
    (delta : PropertyDelta) :
    view (reg.update reader delta) = { view reg with
      readers := (view reg).readers.map fun r => if r.id = reader then r.setCard delta
        else r } := by
  have hi : (reg.readers.map ReaderState.id).Nodup := h.distinct.of_append_left
  have hvi : (view reg).readers.map (fun r => if r.id = reader then r.setCard delta else r)
      = (reg.readers.map fun r => if r.id = reader then r.setCard delta else r).map
        ReaderState.unlabelled := by
    show (reg.readers.map _).map _ = _
    rw [map_map, map_map]
    refine map_congr_left fun r _ => ?_
    show (if r.id = reader then _ else _) = ReaderState.unlabelled (if r.id = reader then _ else _)
    split <;> rfl
  rw [hvi]
  unfold ObjectRegistry.update
  rw [if_neg hv]
  split
  · rename_i hf
    rw [Keyed.map_if_of_not_mem (Keyed.find_eq_none_iff.mp hf)]
    rfl
  · rename_i r hf
    obtain ⟨hm, hid⟩ := (Keyed.find_eq_some_iff hi).mp hf
    split
    · rename_i hs
      -- the one reader with this id has these properties already
      have hk : (reg.readers.map fun r => if r.id = reader then r.setCard delta else r) =
        reg.readers := by
        conv_rhs => rw [← map_id reg.readers]
        refine map_congr_left fun r' hr' => ?_
        split
        · rename_i hid'
          obtain rfl := inj_on_of_nodup_map hi hr' hm (hid'.trans hid.symm)
          rw [ReaderState.setCard, ← hs.1, ← hs.2]
          rfl
        · rfl
      rw [hk]
      rfl
    · rw [Keyed.replaceF_eq_map hi]
      simp only [view, List.filterMap_append]
      show View.mk _ _ (_ ++ []) (_ ++ []) = _
      rw [append_nil, append_nil]

end Views

/-! ## The roster -/

structure Slot where
  reader : ObjectId
  card : Option ObjectId := none

abbrev Roster := Bytes → Option Slot

def Slot.shown (s : Slot) (name : Bytes) : ReaderState :=
  { id := s.reader, name := name, hasCard := s.card.isSome, card := s.card.getD 0 }

namespace Roster

def withReader (R : Roster) (name : Bytes) (id : ObjectId) : Roster :=
  if (R name).isSome then R else Function.update R name (some { reader := id })

def setCard (R : Roster) (name : Bytes) (card : Option ObjectId) : Roster :=
  Function.update R name ((R name).map fun s => { s with card := card })

def withoutReader (R : Roster) (name : Bytes) : Roster :=
  Function.update R name none

section Exists
variable {R : Roster} {name : Bytes} {P : Bytes → Slot → Prop}

lemma exists_update {o : Option Slot} : (∃ n s, Function.update R name o n = some s ∧ P n s)
      ↔ (∃ s, o = some s ∧ P name s) ∨ ∃ n s, n ≠ name ∧ R n = some s ∧ P n s := by
  constructor
  · rintro ⟨n, s, hn, hP⟩
    by_cases hna : n = name
    · subst hna
      rw [Function.update_self] at hn
      exact Or.inl ⟨s, hn, hP⟩
    · rw [Function.update_of_ne hna] at hn
      exact Or.inr ⟨n, s, hna, hn, hP⟩
  · rintro (⟨s, hs, hP⟩ | ⟨n, s, hna, hn, hP⟩)
    · exact ⟨name, s, (Function.update_self ..).trans hs, hP⟩
    · exact ⟨n, s, (Function.update_of_ne hna ..).trans hn, hP⟩

lemma exists_split (R : Roster) (name : Bytes) : (∃ n s, R n = some s ∧ P n s)
      ↔ (∃ s, R name = some s ∧ P name s) ∨ ∃ n s, n ≠ name ∧ R n = some s ∧ P n s := by
  rw [← exists_update, Function.update_eq_self]

end Exists

section Lookup
variable {R : Roster} {name : Bytes} {table : AList fun _ : Bytes => ObjectId} {o : Option Slot}
  (get : Option Slot → Option ObjectId)

section
variable (h : ∀ n, table.lookup n = get (R n))
include h

lemma lookup_keep (ho : get o = get (R name)) (n : Bytes) :
    table.lookup n = get (Function.update R name o n) := by
  by_cases hn : n = name
  · rw [hn, Function.update_self, ho]
    exact h name
  · rw [Function.update_of_ne hn]
    exact h n

lemma lookup_insert {id : ObjectId} (ho : get o = some id)
    (n : Bytes) : (table.insert name id).lookup n = get (Function.update R name o n) := by
  by_cases hn : n = name
  · rw [hn, Function.update_self, ho, AList.lookup_insert]
  · rw [Function.update_of_ne hn, AList.lookup_insert_ne hn]
    exact h n

lemma lookup_erase (ho : get o = none) (n : Bytes) :
    (table.erase name).lookup n = get (Function.update R name o n) := by
  by_cases hn : n = name
  · rw [hn, Function.update_self, ho, AList.lookup_erase]
  · rw [Function.update_of_ne hn, AList.lookup_erase_ne hn]
    exact h n

end

end Lookup

end Roster

/-! ## The model shows a roster -/

structure Shows (m : PresenceModel) (R : Roster) : Prop where
  published : Published m.registry
  readerIds : ∀ n, m.readerIds.lookup n = (R n).map Slot.reader
  cardIds : ∀ n, m.cardIds.lookup n = (R n).bind Slot.card
  readers : ∀ r, r ∈ (view m.registry).readers ↔ ∃ n s, R n = some s ∧ r = s.shown n
  cards : ∀ k, k ∈ (view m.registry).cards ↔ ∃ n s, R n = some s ∧ ∃ c, s.card = some c ∧
    k = (c, s.reader)
  /-- the ids are the values of the counter, one after the other -/
  minted : (view m.registry).announced = List.range' 1 m.nextId
  bounded : ∀ n s, R n = some s → (0 < s.reader ∧ s.reader ≤ m.nextId) ∧ ∀ c, s.card = some c →
    0 < c ∧ c ≤ m.nextId

namespace Shows
variable {m : PresenceModel} {R : Roster} {n n' : Bytes} {s s' : Slot} {c : ObjectId}

section
variable (h : Shows m R)
include h

lemma readerIds_nodup : ((view m.registry).readers.map ReaderState.id).Nodup := by
  rw [view_readerIds]
  exact h.published.distinct.of_append_left

lemma cardIds_nodup : ((view m.registry).cards.map Prod.fst).Nodup := by
  rw [view_cardIds]
  exact h.published.distinct.of_append_right

lemma mem_readers (hn : R n = some s) : s.reader ∈ m.registry.readers.map ReaderState.id := by
  rw [← view_readerIds]
  exact mem_map.mpr ⟨s.shown n, (h.readers _).mpr ⟨n, s, hn, rfl⟩, rfl⟩

lemma mem_cards (hn : R n = some s) (hc : s.card = some c) :
    c ∈ m.registry.cards.map CardState.id := by
  rw [← view_cardIds]
  exact mem_map.mpr ⟨(c, s.reader), (h.cards _).mpr ⟨n, s, hn, c, hc, rfl⟩, rfl⟩

lemma reader_inj (hn : R n = some s) (hn' : R n' = some s')
    (e : s.reader = s'.reader) : n = n' := by
  have hs : s.shown n = s'.shown n' :=
    inj_on_of_nodup_map h.readerIds_nodup ((h.readers _).mpr ⟨n, s, hn, rfl⟩)
      ((h.readers _).mpr ⟨n', s', hn', rfl⟩) e
  exact congrArg ReaderState.name hs

lemma card_inj (hn : R n = some s) (hc : s.card = some c) (hn' : R n' = some s')
    (hc' : s'.card = some c) : n = n' := by
  have hp : (c, s.reader) = (c, s'.reader) :=
    inj_on_of_nodup_map h.cardIds_nodup ((h.cards _).mpr ⟨n, s, hn, c, hc, rfl⟩)
      ((h.cards _).mpr ⟨n', s', hn', c, hc', rfl⟩) rfl
  exact h.reader_inj hn hn' (Prod.mk.inj hp).2

lemma fresh : ¬ m.registry.contains (m.nextId + 1) = true := by
  refine not_contains_iff.mpr ⟨fun hm => ?_, fun hm => ?_⟩
  · rw [← view_readerIds] at hm
    obtain ⟨r, hr, hid⟩ := mem_map.mp hm
    obtain ⟨n, s, hn, rfl⟩ := (h.readers r).mp hr
    have hid' : s.reader = m.nextId + 1 := hid
    have hle := (h.bounded n s hn).1.2
    rw [hid'] at hle
    exact Nat.not_succ_le_self _ hle
  · rw [← view_cardIds] at hm
    obtain ⟨k, hk, hid⟩ := mem_map.mp hm
    obtain ⟨n, s, hn, c, hc, rfl⟩ := (h.cards k).mp hk
    have hid' : c = m.nextId + 1 := hid
    have hle := ((h.bounded n s hn).2 c hc).2
    rw [hid'] at hle
    exact Nat.not_succ_le_self _ hle

lemma readers_setCard (hn : R n = some s) (card : Option ObjectId) (r : ReaderState) :
    r ∈ ((view m.registry).readers.map fun r =>
      if r.id = s.reader then r.setCard ⟨card.isSome, card.getD 0⟩ else r)
      ↔ ∃ n' s', Function.update R n (some { s with card := card }) n' = some s' ∧
        r = s'.shown n' := by
  -- the id singles this reader out
  have hat : (if (s.shown n).id = s.reader then (s.shown n).setCard ⟨card.isSome, card.getD 0⟩
      else s.shown n)
      = Slot.shown { s with card := card } n := if_pos rfl
  have ho : ∀ n' s', n' ≠ n → R n' = some s' →
      (if (s'.shown n').id = s.reader then (s'.shown n').setCard ⟨card.isSome, card.getD 0⟩
        else s'.shown n')
        = s'.shown n' :=
    fun n' s' hne hn' => if_neg fun e => hne (h.reader_inj hn' hn e)
  rw [Roster.exists_update, mem_map]
  constructor
  · rintro ⟨r, hr, rfl⟩
    obtain ⟨n', s', hn', rfl⟩ := (h.readers r).mp hr
    by_cases hne : n' = n
    · subst hne
      obtain rfl := Option.some.inj (hn'.symm.trans hn)
      exact Or.inl ⟨_, rfl, hat⟩
    · exact Or.inr ⟨n', s', hne, hn', ho n' s' hne hn'⟩
  · rintro (⟨s', hs', rfl⟩ | ⟨n', s', hne, hn', rfl⟩)
    · obtain rfl := Option.some.inj hs'
      exact ⟨s.shown n, (h.readers _).mpr ⟨n, s, hn, rfl⟩, hat⟩
    · exact ⟨s'.shown n', (h.readers _).mpr ⟨n', s', hn', rfl⟩, ho n' s' hne hn'⟩

lemma bounded_update {o : Option Slot} {next : Nat} (hle : m.nextId ≤ next)
    (ho : ∀ s, o = some s → (0 < s.reader ∧ s.reader ≤ next) ∧ ∀ c, s.card = some c →
      0 < c ∧ c ≤ next) :
    ∀ n' s', Function.update R n o n' = some s' →
      (0 < s'.reader ∧ s'.reader ≤ next) ∧ ∀ c, s'.card = some c → 0 < c ∧ c ≤ next := by
  intro n' s' hn'
  by_cases hne : n' = n
  · subst hne
    rw [Function.update_self] at hn'
    exact ho s' hn'
  · rw [Function.update_of_ne hne] at hn'
    obtain ⟨⟨hp, hb⟩, hca⟩ := h.bounded n' s' hn'
    exact ⟨⟨hp, Nat.le_trans hb hle⟩, fun c hc => ⟨(hca c hc).1, Nat.le_trans (hca c hc).2 hle⟩⟩

lemma onReaderAdded (n : Bytes) : Shows (m.onReaderAdded n) (R.withReader n (m.nextId + 1)) := by
  have hso : ((m.readerIds.lookup n).isSome = true) = ((R n).isSome = true) := by
    rw [h.readerIds, Option.isSome_map]
  rw [PresenceModel.onReaderAdded, Roster.withReader]
  simp only [hso]
  split
  · exact h
  rename_i hno
  have hn : R n = none := Option.not_isSome_iff_eq_none.mp hno
  have hv : view (m.registry.addReader { id := m.nextId + 1, name := n }) = _ :=
    view_addReader h.fresh
  -- there was no such reader, so all others are the readers there were
  have ho : ∀ {P : Bytes → Slot → Prop}, (∃ n' s, R n' = some s ∧ P n' s) ↔ ∃ n' s, n' ≠ n ∧
    R n' = some s ∧ P n' s := by
    intro P
    rw [Roster.exists_split R n, or_iff_right]
    rintro ⟨s, hs, -⟩
    cases hn.symm.trans hs
  exact {
    published := published_addReader h.published _
    readerIds := Roster.lookup_insert (Option.map Slot.reader) h.readerIds rfl
    cardIds := Roster.lookup_keep (fun o => o.bind Slot.card) h.cardIds (by rw [hn]; rfl)
    readers := by
      intro r
      rw [hv, Roster.exists_update, mem_append, mem_singleton, h.readers, ho, or_comm]
      refine or_congr_left ⟨fun e => ⟨_, rfl, e⟩, ?_⟩
      rintro ⟨s, hs, rfl⟩
      obtain rfl := Option.some.inj hs
      rfl
    cards := by
      intro k
      rw [hv, Roster.exists_update, h.cards, ho, or_iff_right]
      rintro ⟨s, hs, c, hc, -⟩
      obtain rfl := Option.some.inj hs
      cases hc
    minted := by
      show (view (m.registry.addReader _)).announced = List.range' 1 (m.nextId + 1)
      rw [hv, List.range'_concat, ← h.minted, Nat.one_mul, Nat.add_comm 1]
    bounded := by
      refine h.bounded_update (Nat.le_succ _) fun s hs => ?_
      obtain rfl := Option.some.inj hs
      exact ⟨⟨Nat.succ_pos _, Nat.le_refl _⟩, by simp⟩ }

lemma readerIdFor (hn : R n = some s) : m.readerIdFor n = s.reader := by
  rw [PresenceModel.readerIdFor, h.readerIds, hn]
  rfl

lemma valid (hn : R n = some s) : s.reader ≠ 0 :=
  Nat.ne_of_gt (h.bounded n s hn).1.1

lemma dropCard (hn : R n = some s) (hc : s.card = some c) :
    Shows { m with cardIds := m.cardIds.erase n,
                   registry := (m.registry.remove c).update s.reader {} }
      (Function.update R n (some { s with card := none })) := by
  have hr := view_removeCard h.published (h.mem_cards hn hc)
  have hv := view_update (published_remove h.published c) (h.valid hn) {}
  rw [hr] at hv
  exact {
    published := published_update (published_remove h.published c) _ _
    readerIds := Roster.lookup_keep (Option.map Slot.reader) h.readerIds (by rw [hn]; rfl)
    cardIds := Roster.lookup_erase (fun o => o.bind Slot.card) h.cardIds rfl
    readers := by
      intro r
      rw [hv]
      exact h.readers_setCard hn none r
    cards := by
      intro k
      rw [hv, Roster.exists_update]
      show k ∈ (view m.registry).cards.filter _ ↔ _
      rw [mem_filter, h.cards, Roster.exists_split R n]
      constructor
      · rintro ⟨⟨s', hs', c', hc', rfl⟩ | ho, hne⟩
        · obtain rfl := Option.some.inj (hn.symm.trans hs')
          exact absurd (Option.some.inj (hc'.symm.trans hc)) (of_decide_eq_true hne)
        · exact Or.inr ho
      · rintro (⟨s', hs', c', hc', -⟩ | ⟨n', s', hne, hn', c', hc', rfl⟩)
        · obtain rfl := Option.some.inj hs'
          cases hc'
        · refine ⟨Or.inr ⟨n', s', hne, hn', c', hc', rfl⟩, decide_eq_true fun e => hne ?_⟩
          exact h.card_inj hn' (hc'.trans (congrArg some e)) hn hc
    minted := by
      rw [hv]
      exact h.minted
    bounded := by
      refine h.bounded_update (Nat.le_refl _) fun s' hs' => ?_
      obtain rfl := Option.some.inj hs'
      exact ⟨(h.bounded n s hn).1, nofun⟩ }

lemma onCardRemoved (n : Bytes) : Shows (m.onCardRemoved n) (R.setCard n none) := by
  rw [PresenceModel.onCardRemoved, h.cardIds, Roster.setCard]
  cases hn : R n with
  | none =>
    have hs : Function.update R n none = R := by rw [← hn, Function.update_eq_self]
    show Shows m (Function.update R n none)
    rw [hs]
    exact h
  | some s =>
    simp only [Option.bind_some, Option.map_some]
    cases hc : s.card with
    | none =>
      have hs : Function.update R n (some { s with card := none }) = R := by
        rw [← hc, ← hn, Function.update_eq_self]
      rw [hs]
      exact h
    | some c =>
      rw [h.readerIdFor hn]
      exact h.dropCard hn hc

lemma dropReader (hn : R n = some s) (hc : s.card = none) :
    Shows { m with readerIds := m.readerIds.erase n, registry := m.registry.remove s.reader }
      (R.withoutReader n) := by
  have hv := view_removeReader h.published (h.mem_readers hn)
  exact {
    published := published_remove h.published _
    readerIds := Roster.lookup_erase (Option.map Slot.reader) h.readerIds rfl
    cardIds := Roster.lookup_keep (fun o => o.bind Slot.card) h.cardIds (by
      rw [hn]
      exact hc.symm)
    readers := by
      intro r
      rw [Roster.withoutReader, hv, Roster.exists_update]
      show r ∈ (view m.registry).readers.filter _ ↔ _
      rw [mem_filter, h.readers, Roster.exists_split R n]
      constructor
      · rintro ⟨⟨s', hs', rfl⟩ | ho, hne⟩
        · obtain rfl := Option.some.inj (hn.symm.trans hs')
          exact absurd rfl (of_decide_eq_true hne)
        · exact Or.inr ho
      · rintro (⟨s', hs', -⟩ | ⟨n', s', hne, hn', rfl⟩)
        · cases hs'
        · exact ⟨Or.inr ⟨n', s', hne, hn', rfl⟩, decide_eq_true fun e =>
            hne (h.reader_inj hn' hn e)⟩
    cards := by
      intro k
      rw [Roster.withoutReader, hv, Roster.exists_update, h.cards, Roster.exists_split R n]
      refine or_congr_left (iff_of_false ?_ ?_)
      · rintro ⟨s', hs', c, hc', -⟩
        obtain rfl := Option.some.inj (hn.symm.trans hs')
        cases hc.symm.trans hc'
      · rintro ⟨s', hs', -⟩
        cases hs'
    minted := by
      rw [hv]
      exact h.minted
    bounded := h.bounded_update (Nat.le_refl _) nofun }

lemma onReaderRemoved (n : Bytes) : Shows (m.onReaderRemoved n) (R.withoutReader n) := by
  have hc := h.onCardRemoved n
  have hr : R.withoutReader n = (R.setCard n none).withoutReader n :=
    (Function.update_idem _ _ _).symm
  rw [PresenceModel.onReaderRemoved, hr]
  simp only [hc.readerIds]
  cases hn : R.setCard n none n with
  | none =>
    have hs : (R.setCard n none).withoutReader n = R.setCard n none := by
      rw [Roster.withoutReader, ← hn, Function.update_eq_self]
    rw [hs]
    exact hc
  | some s =>
    have hno : s.card = none := by
      rw [Roster.setCard, Function.update_self] at hn
      obtain ⟨s', -, rfl⟩ := Option.map_eq_some_iff.mp hn
      rfl
    exact hc.dropReader hn hno

lemma view_publishCard (hn : R n = some s) (atr : Bytes) (capabilities : UInt32) :
    view (m.publishCard n atr capabilities).registry = {
      readers := (view m.registry).readers.map fun r =>
        if r.id = s.reader then r.setCard { hasCard := true, card := m.nextId + 1 } else r
      cards := (view m.registry).cards ++ [(m.nextId + 1, s.reader)]
      announced := (view m.registry).announced ++ [m.nextId + 1]
      announcedCards := (view m.registry).announcedCards ++ [m.nextId + 1] } := by
  have ha : view (m.registry.addCard ⟨m.nextId + 1, s.reader, capabilities, none, [],
      toHexUpper atr⟩) = _ :=
    view_addCard h.fresh
  rw [PresenceModel.publishCard, h.readerIdFor hn]
  have hp : Published (m.registry.addCard
      ⟨m.nextId + 1, s.reader, capabilities, none, [], toHexUpper atr⟩) :=
    published_addCard h.published _
  have hv := view_update hp (h.valid hn) { hasCard := true, card := m.nextId + 1 }
  rw [ha] at hv
  exact hv

lemma publishCard (hn : R n = some s) (hc : s.card = none) (atr : Bytes) (capabilities : UInt32) :
    Shows (m.publishCard n atr capabilities) (R.setCard n (some (m.nextId + 1))) := by
  have hv := h.view_publishCard hn atr capabilities
  rw [Roster.setCard, hn]
  exact {
    published := published_publishCard h.published n atr capabilities
    readerIds := Roster.lookup_keep (Option.map Slot.reader) h.readerIds (by rw [hn]; rfl)
    cardIds := Roster.lookup_insert (fun o => o.bind Slot.card) h.cardIds rfl
    readers := by
      intro r
      rw [hv]
      exact h.readers_setCard hn (some (m.nextId + 1)) r
    cards := by
      intro k
      rw [hv]
      show k ∈ (view m.registry).cards ++ [(m.nextId + 1, s.reader)] ↔
        ∃ n' s', Function.update R n _ n' = _ ∧ _
      rw [Roster.exists_update, mem_append, mem_singleton, h.cards, Roster.exists_split R n]
      constructor
      · rintro ((⟨s', hs', c, hc', -⟩ | ho) | rfl)
        · obtain rfl := Option.some.inj (hn.symm.trans hs')
          cases hc.symm.trans hc'
        · exact Or.inr ho
        · exact Or.inl ⟨_, rfl, m.nextId + 1, rfl, rfl⟩
      · rintro (⟨s', hs', c, hc', rfl⟩ | ho)
        · obtain rfl := Option.some.inj hs'
          obtain rfl := Option.some.inj hc'
          exact Or.inr rfl
        · exact Or.inl (Or.inr ho)
    minted := by
      show _ = List.range' 1 (m.nextId + 1)
      rw [hv, List.range'_concat, ← h.minted, Nat.one_mul, Nat.add_comm 1]
    bounded := by
      refine h.bounded_update (Nat.le_succ _) fun s' hs' => ?_
      obtain rfl := Option.some.inj hs'
      obtain ⟨⟨hp, hle⟩, -⟩ := h.bounded n s hn
      refine ⟨⟨hp, Nat.le_succ_of_le hle⟩, fun c hc' => ?_⟩
      obtain rfl := Option.some.inj hc'
      exact ⟨Nat.succ_pos _, Nat.le_refl _⟩ }

end

end Shows

namespace Shows
variable {m : PresenceModel} {R : Roster} {n : Bytes} {s : Slot} {id : ObjectId}
variable {r : ReaderState}

section
variable (h : Shows m R)
include h

lemma of_mem_reader (hr : r ∈ m.registry.readers) :
    ∃ s, R r.name = some s ∧ r.id = s.reader ∧ r.hasCard = s.card.isSome ∧
      r.card = s.card.getD 0 := by
  obtain ⟨n, s, hn, hs⟩ := (h.readers r.unlabelled).mp (mem_map_of_mem hr)
  have hna : r.name = n := congrArg ReaderState.name hs
  exact ⟨s, hna ▸ hn, congrArg ReaderState.id hs, congrArg ReaderState.hasCard hs,
      congrArg ReaderState.card hs⟩

lemma exists_reader (hn : R n = some s) : ∃ r ∈ m.registry.readers, r.name = n ∧
    r.id = s.reader := by
  obtain ⟨r, hr, hs⟩ := mem_map.mp ((h.readers _).mpr ⟨n, s, hn, rfl⟩)
  exact ⟨r, hr, congrArg ReaderState.name hs, congrArg ReaderState.id hs⟩

lemma of_mem_card {c : CardState} (hc : c ∈ m.registry.cards) :
    ∃ n s, R n = some s ∧ s.card = some c.id ∧ c.reader = s.reader := by
  obtain ⟨n, s, hn, id, hid, hp⟩ := (h.cards (c.id, c.reader)).mp (mem_map.mpr ⟨c, hc, rfl⟩)
  obtain ⟨rfl, hr⟩ := Prod.mk.inj hp
  exact ⟨n, s, hn, hid, hr⟩

lemma exists_card (hn : R n = some s) (hid : s.card = some id) :
    ∃ c ∈ m.registry.cards, c.id = id ∧ c.reader = s.reader := by
  obtain ⟨c, hc, hp⟩ := mem_map.mp ((h.cards _).mpr ⟨n, s, hn, id, hid, rfl⟩)
  exact ⟨c, hc, (Prod.mk.inj hp).1, (Prod.mk.inj hp).2⟩

lemma slot_of_card (hr : r ∈ m.registry.readers) (hs : R r.name = some s)
    {c : CardState} (hc : c ∈ m.registry.cards) (hre : c.reader = r.id) : s.card = some c.id := by
  obtain ⟨s', hs', hid, -⟩ := h.of_mem_reader hr
  obtain ⟨n, t, hn, hca, ht⟩ := h.of_mem_card hc
  obtain rfl := h.reader_inj hn hs' (ht.symm.trans (hre.trans hid))
  obtain rfl := Option.some.inj (hn.symm.trans hs)
  exact hca

end

end Shows

end LibreAgent.Presence
