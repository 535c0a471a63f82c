import LibreAgent.Presence.Roster

/-!
# The presence tables agree

The model, the registry and the tracker are views of one roster, and every event changes all three
in the same way, whatever came before it.

* `Consistent` : the three tables after an event; every card that was announced is there or has been
  reported, once; `consistent_dispatch`, `consistent_monitored` : every event keeps it, and every
  run;
* `Agreement`, `presence_agree` : what follows for the tables.
-/

namespace LibreAgent.Presence

open List PresenceModel Function Notice CardState

/-! ## The cards that go are reported -/

def cardIn (R : Roster) (n : Bytes) : Option ObjectId :=
  (R n).bind Slot.card

structure Consistent (b : MonitorBridge) (R : Roster) : Prop where
  shows' : Shows b.model R
  keys : ∀ n, b.tracker.readerToCardKey.lookup n = cardIn R n
  /-- every card that was announced is there or has been reported, once -/
  conserved : ∀ id, (view b.model.registry).announcedCards.count id
    = ((view b.model.registry).cards.map Prod.fst).count id +
      (b.tracker.removed.map Prod.fst).count id

/-- a step of the registry after which the one card is gone, and no card is new -/
structure Loses (reg reg' : ObjectRegistry) (gone : Option ObjectId) : Prop where
  announcedCards : (view reg').announcedCards = (view reg).announcedCards
  cards : ∀ id, ((view reg).cards.map Prod.fst).count id
    = ((view reg').cards.map Prod.fst).count id + gone.toList.count id

section Loses
variable {m : PresenceModel} {R : Roster}

lemma loses_nothing (reg : ObjectRegistry) : Loses reg reg none := ⟨rfl, fun _ => rfl⟩

lemma loses_onReaderAdded (h : Shows m R) (n : Bytes) :
    Loses m.registry (m.onReaderAdded n).registry none := by
  rw [onReaderAdded]
  split
  · exact loses_nothing _
  · have hv : view (m.registry.addReader { id := m.nextId + 1, name := n }) = _ :=
      view_addReader h.fresh
    constructor
    · rw [hv]
    · intro id
      rw [hv]
      rfl

lemma loses_onCardRemoved (h : Shows m R) (n : Bytes) :
    Loses m.registry (m.onCardRemoved n).registry (cardIn R n) := by
  rw [onCardRemoved, h.cardIds, cardIn]
  cases hn : R n with
  | none => exact loses_nothing _
  | some s =>
    simp only [Option.bind_some]
    cases hc : s.card with
    | none => exact loses_nothing _
    | some c =>
      rw [h.readerIdFor hn]
      have hv := view_update (published_remove h.published c) (h.valid hn) {}
      rw [view_removeCard h.published (h.mem_cards hn hc)] at hv
      have hm : c ∈ (view m.registry).cards.map Prod.fst := view_cardIds _ ▸ h.mem_cards hn hc
      constructor
      · rw [hv]
      · intro id
        rw [hv]
        show _ = (((view m.registry).cards.filter _).map Prod.fst).count id + [c].count id
        rw [(Keyed.perm_eraseP hm).count_eq, Keyed.eraseP_eq_filter h.cardIds_nodup,
          ← singleton_append,
          count_append, Nat.add_comm]

lemma loses_onReaderRemoved (h : Shows m R) (n : Bytes) :
    Loses m.registry (m.onReaderRemoved n).registry (cardIn R n) := by
  have hc := h.onCardRemoved n
  have hl := loses_onCardRemoved h n
  rw [onReaderRemoved]
  simp only [hc.readerIds]
  cases hn : R.setCard n none n with
  | none => exact hl
  | some s =>
    have hv := view_removeReader hc.published (hc.mem_readers hn)
    constructor
    · show (view (ObjectRegistry.remove _ s.reader)).announcedCards = _
      rw [hv]
      exact hl.announcedCards
    · intro id
      show _ = ((view (ObjectRegistry.remove _ s.reader)).cards.map Prod.fst).count id + _
      rw [hv]
      exact hl.cards id

end Loses

section Tracker
variable {t : CardKeyTracker} {R : Roster} {n : Bytes}

lemma removed_onCardRemoved (h : ∀ n, t.readerToCardKey.lookup n = cardIn R n) (n : Bytes) :
    (t.onCardRemoved n).removed.map Prod.fst = t.removed.map Prod.fst ++ (cardIn R n).toList := by
  rw [CardKeyTracker.onCardRemoved, h]
  cases cardIn R n with
  | none => exact (append_nil _).symm
  | some c =>
    show (t.removed ++ [(c, n)]).map Prod.fst = _
    rw [map_append]
    rfl

lemma keys_onCardRemoved (h : ∀ n, t.readerToCardKey.lookup n = cardIn R n) {o : Option Slot}
    (ho : o.bind Slot.card = none) (n' : Bytes) :
    (t.onCardRemoved n).readerToCardKey.lookup n' = cardIn (update R n o) n' := by
  rw [CardKeyTracker.onCardRemoved, h]
  cases hn : cardIn R n with
  | none => exact Roster.lookup_keep (fun o => o.bind Slot.card) h (ho.trans hn.symm) n'
  | some c => exact Roster.lookup_erase (fun o => o.bind Slot.card) h ho n'

end Tracker

/-! ## Every event -/

namespace Roster
variable {R : Roster} {n : Bytes}

lemma withReader_eq_update (R : Roster) (n : Bytes) (id : ObjectId) :
    ∃ s, R.withReader n id = update R n (some s) := by
  rw [withReader]
  cases hn : R n with
  | none => exact ⟨_, rfl⟩
  | some s =>
    refine ⟨s, ?_⟩
    show R = _
    rw [← hn, update_eq_self]

lemma cardIn_withReader (R : Roster) (n : Bytes) (id : ObjectId) (n' : Bytes) :
    cardIn (R.withReader n id) n' = cardIn R n' := by
  rw [withReader]
  split
  · rfl
  rename_i hno
  rw [cardIn, cardIn]
  by_cases hn : n' = n
  · rw [hn, update_self, Option.not_isSome_iff_eq_none.mp hno]
    rfl
  · rw [update_of_ne hn]

lemma setCard_update (s : Slot) (card : Option ObjectId) :
    setCard (update R n (some s)) n card = update R n (some { s with card := card }) := by
  rw [setCard, update_self, update_idem]
  rfl

end Roster

section Events
variable {b : MonitorBridge} {R : Roster}

section
variable (h : Consistent b R)
include h

lemma consistent_readerAdded (n : Bytes) :
    Consistent (b.dispatch (.readerAdded n)) (R.withReader n (b.model.nextId + 1)) where
  shows' := h.shows'.onReaderAdded n
  keys n' := (h.keys n').trans (Roster.cardIn_withReader R n _ n').symm
  conserved id := by
    have hl := loses_onReaderAdded h.shows' n
    have hb := h.conserved id
    have hc := hl.cards id
    show (view (b.model.onReaderAdded n).registry).announcedCards.count id =
      _ + (b.tracker.removed.map _).count id
    rw [hl.announcedCards, hb, hc]
    rfl

lemma conserved_removed (n : Bytes) {model : PresenceModel}
    (hl : Loses b.model.registry model.registry (cardIn R n)) (id : ObjectId) :
    (view model.registry).announcedCards.count id =
      ((view model.registry).cards.map Prod.fst).count id
      + ((b.tracker.onCardRemoved n).removed.map Prod.fst).count id := by
  have hb := h.conserved id
  have hc := hl.cards id
  rw [hl.announcedCards, removed_onCardRemoved h.keys, count_append]
  omega

lemma consistent_cardRemoved (n : Bytes) :
    Consistent (b.dispatch (.cardRemoved n)) (R.setCard n none) where
  shows' := h.shows'.onCardRemoved n
  keys := keys_onCardRemoved h.keys (by cases R n with | none => rfl | some s => rfl)
  conserved := conserved_removed h n (loses_onCardRemoved h.shows' n)

lemma consistent_readerRemoved (n : Bytes) :
    Consistent (b.dispatch (.readerRemoved n)) (R.withoutReader n) where
  shows' := h.shows'.onReaderRemoved n
  keys := keys_onCardRemoved h.keys rfl
  conserved := conserved_removed h n (loses_onReaderRemoved h.shows' n)

lemma consistent_cardInserted (n : Bytes) (atr : Option Bytes)
    (plugin : Option UInt32) : ∃ R', Consistent (b.dispatch (.cardInserted n atr plugin)) R' := by
  have hr := h.shows'.onReaderAdded n
  have hc := hr.onCardRemoved n
  have ha := loses_onReaderAdded h.shows' n
  have hre := loses_onCardRemoved hr n
  rw [Roster.cardIn_withReader] at hre
  obtain ⟨s, hs⟩ := Roster.withReader_eq_update R n (b.model.nextId + 1)
  rw [hs, Roster.setCard_update] at hc
  have hv := hc.view_publishCard (update_self ..) (atr.getD []) (plugin.getD 0)
  have hp := hc.publishCard (update_self ..) rfl (atr.getD []) (plugin.getD 0)
  rw [Roster.setCard_update] at hp
  rw [← onCardInserted_eq] at hv hp
  generalize ((b.model.onReaderAdded n).onCardRemoved n).nextId + 1 = c at hv hp
  refine ⟨_, hp, ?_, ?_⟩
  · intro n'
    have hf : (b.model.onCardInserted n (atr.getD []) plugin).cardIdFor n = c := by
      rw [cardIdFor, hp.cardIds, update_self]
      rfl
    have hk : ∀ n', (b.tracker.onCardRemoved n).readerToCardKey.lookup n'
        = cardIn (update R n (some { s with card := none })) n' := keys_onCardRemoved h.keys rfl
    have hi : ((b.tracker.onCardRemoved n).readerToCardKey.insert n c).lookup n' = _ :=
      Roster.lookup_insert (fun o => o.bind Slot.card) hk
        (show (some { s with card := some c }).bind Slot.card = some c from rfl) n'
    rw [update_idem] at hi
    show ((b.tracker.onCardRemoved n).readerToCardKey.insert n
      ((b.model.onCardInserted n (atr.getD []) plugin).cardIdFor n)).lookup n' = _
    rw [hf]
    exact hi
  · intro id
    have hb := h.conserved id
    have ha' := ha.cards id
    have hre' := hre.cards id
    show (view (b.model.onCardInserted n (atr.getD []) plugin).registry).announcedCards.count id
      = ((view (b.model.onCardInserted n (atr.getD []) plugin).registry).cards.map Prod.fst).count
        id
        + ((b.tracker.onCardRemoved n).removed.map Prod.fst).count id
    rw [hv, removed_onCardRemoved h.keys, map_append, count_append, count_append,
      count_append, hre.announcedCards, ha.announcedCards, hb, ha', hre']
    show _ + _ = _ + [c].count id + _
    have hn : (none : Option ObjectId).toList.count id = 0 := rfl
    omega

end

lemma consistent_dispatch (h : ∃ R, Consistent b R) (e : MonitorEvent) :
    ∃ R, Consistent (b.dispatch e) R := by
  obtain ⟨R, h⟩ := h
  cases e with
  | readerAdded n => exact ⟨_, consistent_readerAdded h n⟩
  | readerRemoved n => exact ⟨_, consistent_readerRemoved h n⟩
  | cardInserted n atr plugin => exact consistent_cardInserted h n atr plugin
  | cardRemoved n => exact ⟨_, consistent_cardRemoved h n⟩
  | error n => exact ⟨R, h⟩

end Events

lemma shows_new : Shows {} fun _ => none where
  published := published_new
  readerIds _ := rfl
  cardIds _ := rfl
  readers _ := iff_of_false (List.not_mem_nil) fun ⟨_, _, hn, _⟩ => nomatch hn
  cards _ := iff_of_false (List.not_mem_nil) fun ⟨_, _, hn, _⟩ => nomatch hn
  minted := rfl
  bounded _ _ hn := nomatch hn

lemma consistent_monitored (events : List MonitorEvent) : ∃ R, Consistent (monitored events) R := by
  have hs : ∀ (b : MonitorBridge) e, (∃ R, Consistent b R) → ∃ R, Consistent (b.dispatch e) R :=
    fun _ e h => consistent_dispatch h e
  exact Runs.run_invariant hs ⟨fun _ => none, shows_new, fun _ => rfl, fun _ => rfl⟩ events

/-! ## What follows -/

lemma announcedCards_sublist (told : List Notice) :
    (told.filterMap announcesCard).Sublist (told.filterMap announces) := by
  induction told with
  | nil => exact List.Sublist.refl _
  | cons notice told ih =>
    cases notice with
    | addReader r => exact ih.cons _
    | addCard c => exact ih.cons_cons _
    | removed | changed | relabelled => exact ih

structure Agreement (b : MonitorBridge) : Prop where
  /-- the model's readers and cards are the registry's -/
  readers : ∀ name id, b.model.readerIds.lookup name = some id
    ↔ ∃ r ∈ b.model.registry.readers, r.name = name ∧ r.id = id
  cards : ∀ name id, b.model.cardIds.lookup name = some id
    ↔ ∃ r ∈ b.model.registry.readers, r.name = name ∧ ∃ c ∈ b.model.registry.cards, c.reader =
      r.id ∧ c.id = id
  /-- the tracker's keys are the model's cards -/
  keys : ∀ name, b.tracker.readerToCardKey.lookup name = b.model.cardIds.lookup name
  /-- at most one card in a reader -/
  single : ∀ c ∈ b.model.registry.cards, ∀ c' ∈ b.model.registry.cards, c.reader =
    c'.reader → c = c'
  /-- the flag and the reference name exactly that card -/
  flagged : ∀ r ∈ b.model.registry.readers, r.hasCard = true ↔
    ∃ c ∈ b.model.registry.cards, c.reader = r.id
  named : ∀ r ∈ b.model.registry.readers, ∀ id, r.card = id ∧ id ≠ 0
    ↔ ∃ c ∈ b.model.registry.cards, c.reader = r.id ∧ c.id = id
  /-- no card without a reader -/
  seated : ∀ c ∈ b.model.registry.cards, ∃ r ∈ b.model.registry.readers, r.id = c.reader
  /-- the ids are the values of the counter, in order; none is used again, and all in use are among
  them -/
  minted : b.model.registry.told.filterMap Notice.announces = List.range' 1 b.model.nextId
  unique : (b.model.registry.told.filterMap Notice.announces).Nodup
  distinct : (b.model.registry.readers.map ReaderState.id ++
      b.model.registry.cards.map CardState.id).Nodup
  known : ∀ id ∈ b.model.registry.readers.map ReaderState.id ++
    b.model.registry.cards.map CardState.id,
    id ∈ b.model.registry.told.filterMap Notice.announces
  /-- a card that has gone was reported once, a card that is there was not -/
  reported : ∀ id ∈ b.model.registry.told.filterMap Notice.announcesCard,
    (b.tracker.removed.map Prod.fst).count id = if id ∈ b.model.registry.cards.map CardState.id
      then 0 else 1
  /-- nothing but cards is reported -/
  onlyCards : ∀ id ∈ b.tracker.removed.map Prod.fst, id ∈ b.model.registry.told.filterMap
    Notice.announcesCard

section Laws
variable {b : MonitorBridge} {R : Roster}

lemma Consistent.unique (h : Consistent b R) :
    (b.model.registry.told.filterMap announces).Nodup := by
  have hm : b.model.registry.told.filterMap announces = _ := h.shows'.minted
  rw [hm]
  exact nodup_range'

variable {id : ObjectId} {c : CardState} {r : ReaderState}

section
variable (h : Consistent b R)
include h

lemma Consistent.reported (hid : id ∈ b.model.registry.told.filterMap Notice.announcesCard) :
    (b.tracker.removed.map Prod.fst).count id = if id ∈ b.model.registry.cards.map CardState.id then
      0 else 1 := by
  have hc := h.conserved id
  have ho : (b.model.registry.told.filterMap Notice.announcesCard).count id = 1 :=
    count_eq_one_of_mem (h.unique.sublist (announcedCards_sublist _)) hid
  have hca := h.shows'.published.distinct.of_append_right
  rw [view_cardIds] at hc
  have ha : (view b.model.registry).announcedCards.count id = 1 := ho
  split
  · rename_i hm
    have := count_eq_one_of_mem hca hm
    omega
  · rename_i hm
    have := count_eq_zero_of_not_mem hm
    omega

lemma Consistent.onlyCards (hid : id ∈ b.tracker.removed.map Prod.fst) :
    id ∈ b.model.registry.told.filterMap announcesCard := by
  have hc := h.conserved id
  have hp := count_pos_iff.mpr hid
  refine count_pos_iff.mp ?_
  show 0 < (view b.model.registry).announcedCards.count id
  omega

lemma Consistent.known
    (hid : id ∈ b.model.registry.readers.map ReaderState.id ++
      b.model.registry.cards.map CardState.id) :
    id ∈ b.model.registry.told.filterMap Notice.announces := by
  have hm : b.model.registry.told.filterMap Notice.announces = _ := h.shows'.minted
  rw [hm, mem_range'_1]
  have hb : 0 < id ∧ id ≤ b.model.nextId := by
    obtain hid | hid := mem_append.mp hid
    · obtain ⟨r, hr, rfl⟩ := mem_map.mp hid
      obtain ⟨s, hs, hre, -⟩ := h.shows'.of_mem_reader hr
      exact hre ▸ (h.shows'.bounded _ _ hs).1
    · obtain ⟨c, hc, rfl⟩ := mem_map.mp hid
      obtain ⟨n, s, hs, hca, -⟩ := h.shows'.of_mem_card hc
      exact (h.shows'.bounded _ _ hs).2 _ hca
  exact ⟨hb.1, Nat.lt_of_le_of_lt hb.2 (Nat.lt_add_of_pos_left Nat.one_pos)⟩

lemma Consistent.readers (name : Bytes) (id : ObjectId) :
    b.model.readerIds.lookup name = some id ↔ ∃ r ∈ b.model.registry.readers, r.name = name ∧
      r.id = id := by
  rw [h.shows'.readerIds, Option.map_eq_some_iff]
  constructor
  · rintro ⟨s, hs, rfl⟩
    exact h.shows'.exists_reader hs
  · rintro ⟨r, hr, rfl, rfl⟩
    obtain ⟨s, hs, hid, -⟩ := h.shows'.of_mem_reader hr
    exact ⟨s, hs, hid.symm⟩

lemma Consistent.cards (name : Bytes) (id : ObjectId) :
    b.model.cardIds.lookup name = some id ↔ ∃ r ∈ b.model.registry.readers, r.name = name ∧
      ∃ c ∈ b.model.registry.cards, c.reader = r.id ∧ c.id = id := by
  rw [h.shows'.cardIds, Option.bind_eq_some_iff]
  constructor
  · rintro ⟨s, hs, hca⟩
    obtain ⟨r, hr, hn, hid⟩ := h.shows'.exists_reader hs
    obtain ⟨c, hc, hci, hre⟩ := h.shows'.exists_card hs hca
    exact ⟨r, hr, hn, c, hc, hre.trans hid.symm, hci⟩
  · rintro ⟨r, hr, rfl, c, hc, hre, rfl⟩
    obtain ⟨s, hs, -⟩ := h.shows'.of_mem_reader hr
    exact ⟨s, hs, h.shows'.slot_of_card hr hs hc hre⟩

lemma Consistent.single {c' : CardState} (hc : c ∈ b.model.registry.cards)
    (hc' : c' ∈ b.model.registry.cards) (hr : c.reader = c'.reader) : c = c' := by
  obtain ⟨n, s, hn, hca, hs⟩ := h.shows'.of_mem_card hc
  obtain ⟨n', s', hn', hca', hs'⟩ := h.shows'.of_mem_card hc'
  obtain rfl := h.shows'.reader_inj hn hn' (hs.symm.trans (hr.trans hs'))
  obtain rfl := Option.some.inj (hn.symm.trans hn')
  have hid : c.id = c'.id := Option.some.inj (hca.symm.trans hca')
  exact inj_on_of_nodup_map h.shows'.published.distinct.of_append_right hc hc' hid

lemma Consistent.flagged (hr : r ∈ b.model.registry.readers) :
    r.hasCard = true ↔ ∃ c ∈ b.model.registry.cards, c.reader = r.id := by
  obtain ⟨s, hs, hid, hf, -⟩ := h.shows'.of_mem_reader hr
  rw [hf]
  constructor
  · intro hso
    obtain ⟨id, hca⟩ := Option.isSome_iff_exists.mp hso
    obtain ⟨c, hc, -, hre⟩ := h.shows'.exists_card hs hca
    exact ⟨c, hc, hre.trans hid.symm⟩
  · rintro ⟨c, hc, hre⟩
    rw [h.shows'.slot_of_card hr hs hc hre]
    rfl

lemma Consistent.named (hr : r ∈ b.model.registry.readers) (id : ObjectId) :
    r.card = id ∧ id ≠ 0 ↔ ∃ c ∈ b.model.registry.cards, c.reader = r.id ∧ c.id = id := by
  obtain ⟨s, hs, hid, -, href⟩ := h.shows'.of_mem_reader hr
  rw [href]
  constructor
  · rintro ⟨rfl, hne⟩
    cases hca : s.card with
    | none =>
      rw [hca] at hne
      exact absurd rfl hne
    | some card =>
      obtain ⟨c, hc, hci, hre⟩ := h.shows'.exists_card hs hca
      exact ⟨c, hc, hre.trans hid.symm, hci⟩
  · rintro ⟨c, hc, hre, rfl⟩
    have hca := h.shows'.slot_of_card hr hs hc hre
    rw [hca]
    exact ⟨rfl, Nat.ne_of_gt ((h.shows'.bounded _ _ hs).2 _ hca).1⟩

lemma Consistent.seated (hc : c ∈ b.model.registry.cards) :
    ∃ r ∈ b.model.registry.readers, r.id = c.reader := by
  obtain ⟨n, s, hn, -, hre⟩ := h.shows'.of_mem_card hc
  obtain ⟨r, hr, -, hid⟩ := h.shows'.exists_reader hn
  exact ⟨r, hr, hid.trans hre.symm⟩

end

end Laws

/-- whatever readers and cards have come and gone, and whichever events were repeated or lost -/
theorem presence_agree (events : List MonitorEvent) : Agreement (monitored events) := by
  obtain ⟨R, h⟩ := consistent_monitored events
  exact {
    readers := h.readers
    cards := h.cards
    keys := fun name => (h.keys name).trans (h.shows'.cardIds name).symm
    single := fun _ hc _ hc' => h.single hc hc'
    flagged := fun _ hr => h.flagged hr
    named := fun _ hr => h.named hr
    seated := fun _ hc => h.seated hc
    minted := h.shows'.minted
    unique := h.unique
    distinct := h.shows'.published.distinct
    known := fun _ hid => h.known hid
    reported := fun _ hid => h.reported hid
    onlyCards := fun _ hid => h.onlyCards hid }

end LibreAgent.Presence
