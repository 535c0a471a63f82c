import LibreAgent.Presence.ReaderLabels
import LibreAgent.Lib.Keyed

/-!
# The registry of published objects

The registry holds the readers and cards that are published and tells its observer of every
change.  The label of a reader depends on all readers, so an arrival or a departure can change the
labels of others, which are announced too.

* `ReaderState`, `CardState`, `Notice` : what is published, and what the observer is told;
* `ObjectRegistry` : `addReader`, `addCard`, `remove`, `update`, with the notices in order;
* `Observer` : a copy that is kept from the notices alone; `replay_relabelled` : relabelling reaches
  it;
* `Published` : what every operation keeps; ids are distinct, labels are current, and the copy is
  exact.
-/

namespace LibreAgent.Presence

open List ReaderIdentity Keyed

open Wire (ReaderInterface)

abbrev ObjectId := Nat

structure ReaderState where
  id : ObjectId
  name : Bytes
  hasCard : Bool := false
  card : ObjectId := 0
  model : Bytes := []
  iface : ReaderInterface := .unknown

/-- `None`, or one of the other methods -/
abbrev PreReadAuthMethod := Option Nat

structure CardState where
  id : ObjectId
  reader : ObjectId
  capabilities : UInt32 := 0
  preReadAuth : PreReadAuthMethod := none
  cardType : Bytes := []
  atrHex : Bytes := []

structure PropertyDelta where
  hasCard : Bool := false
  card : ObjectId := 0

inductive Notice where
  | addReader (reader : ReaderState)
  | addCard (card : CardState)
  | removed (id : ObjectId)
  | changed (reader : ObjectId) (delta : PropertyDelta)
  | relabelled (reader : ReaderState)

structure ObjectRegistry where
  readers : List ReaderState := []
  cards : List CardState := []
  /-- the calls of the observer, in order -/
  told : List Notice := []

/-! ## Operations -/

def ReaderState.label (r : ReaderState) : Label :=
  (r.model, r.iface)

def ReaderState.setLabel (r : ReaderState) (label : Label) : ReaderState :=
  { r with model := label.1, iface := label.2 }

def ReaderState.setCard (r : ReaderState) (delta : PropertyDelta) : ReaderState :=
  { r with hasCard := delta.hasCard, card := delta.card }

def identified (readers : List ReaderState) : List (ReaderState × Label) :=
  readers.zip ((readerIdentities (readers.map ReaderState.name)).map label)

def labelled (pairs : List (ReaderState × Label)) : List ReaderState :=
  pairs.map fun p => p.1.setLabel p.2

def relabelledIds (pairs : List (ReaderState × Label)) : List ObjectId :=
  (pairs.filter fun p => p.1.label ≠ p.2).map fun p => p.1.id

def announceRelabels (readers : List ReaderState) (ids : List ObjectId) (except : ObjectId) :
    List Notice :=
  (ids.filter (· ≠ except)).filterMap fun id => (readers.find? fun r => r.id = id).map .relabelled

namespace ObjectRegistry

variable (reg : ObjectRegistry)

def contains (id : ObjectId) : Bool :=
  (reg.readers.any fun r => r.id = id) || reg.cards.any fun c => c.id = id

def addReader (reader : ReaderState) : ObjectRegistry :=
  if reg.contains reader.id then reg
  else
    let pairs := identified (reg.readers ++ [reader.setLabel ([], .unknown)])
    let readers := labelled pairs
    { reg with
      readers := readers
      told := reg.told ++ (((readers.find? fun r => r.id = reader.id).map Notice.addReader).toList
        ++
        announceRelabels readers (relabelledIds pairs) reader.id) }

def addCard (card : CardState) : ObjectRegistry :=
  if reg.contains card.id then reg
  else { reg with cards := reg.cards ++ [card], told := reg.told ++ [.addCard card] }

def remove (id : ObjectId) : ObjectRegistry :=
  if reg.readers.any fun r => r.id = id then
    let pairs := identified (reg.readers.eraseP fun r => r.id = id)
    { reg with
      readers := labelled pairs
      told := reg.told ++ (.removed id :: announceRelabels (labelled pairs)
        (relabelledIds pairs) id) }
  else if reg.cards.any fun c => c.id = id then
    { reg with cards := reg.cards.eraseP fun c => c.id = id, told := reg.told ++ [.removed id] }
  else reg

def update (reader : ObjectId) (delta : PropertyDelta) : ObjectRegistry :=
  if reader = 0 then reg
  else match reg.readers.find? fun r => r.id = reader with
    | none => reg
    | some r =>
      if r.hasCard = delta.hasCard ∧ r.card = delta.card then reg
      else { reg with
        readers := reg.readers.replaceF fun r => if r.id = reader then some (r.setCard delta)
          else none
        told := reg.told ++ [.changed reader delta] }

end ObjectRegistry

/-! ## The observer -/

structure Observer where
  readers : List ReaderState := []
  cards : List CardState := []

namespace Observer

def apply (o : Observer) : Notice → Observer
  | .addReader r => { o with readers := o.readers ++ [r] }
  | .addCard c => { o with cards := o.cards ++ [c] }
  | .removed id => ⟨o.readers.filter fun r => r.id ≠ id, o.cards.filter fun c => c.id ≠ id⟩
  | .changed id delta =>
    { o with readers := o.readers.map fun r => if r.id = id then r.setCard delta else r }
  | .relabelled s =>
    { o with readers := o.readers.map fun r => if r.id = s.id then r.setLabel s.label else r }

def replay (o : Observer) (notices : List Notice) : Observer :=
  notices.foldl apply o

lemma replay_append (o : Observer) (a b : List Notice) :
    o.replay (a ++ b) = (o.replay a).replay b := foldl_append

end Observer

/-! ## Relabelling reaches the observer -/

section Relabel
variable {pairs : List (ReaderState × Label)}

def settledAt (id : ObjectId) (p : ReaderState × Label) : ReaderState × Label :=
  if p.1.id = id then (p.1.setLabel p.2, p.2) else p

lemma labelled_settledAt (id : ObjectId) (pairs : List (ReaderState × Label)) :
    labelled (pairs.map (settledAt id)) = labelled pairs := by
  rw [labelled, labelled, map_map]
  refine map_congr_left fun p _ => ?_
  show (settledAt id p).1.setLabel (settledAt id p).2 = _
  rw [settledAt]
  split <;> rfl

lemma id_settledAt (id : ObjectId) (pairs : List (ReaderState × Label)) :
    ((pairs.map (settledAt id)).map fun p => p.1.id) = pairs.map fun p => p.1.id := by
  rw [map_map]
  refine map_congr_left fun p _ => ?_
  show (settledAt id p).1.id = p.1.id
  rw [settledAt]
  split <;> rfl

lemma id_labelled (pairs : List (ReaderState × Label)) :
    (labelled pairs).map ReaderState.id = pairs.map fun p => p.1.id := by
  rw [labelled, map_map]
  rfl

lemma replay_relabelled (hi : (pairs.map fun p => p.1.id).Nodup) (cards : List CardState)
    {ids : List ObjectId} (hc : ∀ p ∈ pairs, p.1.label ≠ p.2 → p.1.id ∈ ids) :
    Observer.replay ⟨pairs.map Prod.fst, cards⟩
      (ids.filterMap fun id => ((labelled pairs).find? fun r => r.id = id).map .relabelled)
      = ⟨labelled pairs, cards⟩ := by
  -- every notice settles one reader of the copy; the readers still to settle are named by the
  -- notices left
  induction ids generalizing pairs with
  | nil =>
    have hco : pairs.map Prod.fst = labelled pairs := by
      refine map_congr_left fun p hp => ?_
      have hl : p.1.label = p.2 := of_not_not fun hne => not_mem_nil (hc p hp hne)
      rw [← hl]
      rfl
    rw [hco]
    rfl
  | cons id ids ih =>
    have hi' : (labelled pairs |>.map ReaderState.id).Nodup := id_labelled pairs ▸ hi
    cases hf : (labelled pairs).find? fun r => r.id = id with
    | none =>
      rw [List.filterMap_cons_none (by rw [hf]; rfl)]
      refine ih hi fun p hp hne => ?_
      have ho : p.1.id ≠ id := by
        intro e
        have hm : id ∈ (labelled pairs).map ReaderState.id := by
          rw [id_labelled, ← e]
          exact mem_map_of_mem hp
        exact find_eq_none_iff.mp hf hm
      exact (mem_cons.mp (hc p hp hne)).resolve_left ho
    | some s =>
      rw [List.filterMap_cons_some (by rw [hf]; rfl)]
      obtain ⟨hm, hid⟩ := (find_eq_some_iff hi').mp hf
      have hs : (pairs.map Prod.fst).map (fun r => if r.id = s.id then r.setLabel s.label else r)
          = (pairs.map (settledAt id)).map Prod.fst := by
        rw [map_map, map_map]
        refine map_congr_left fun p hp => ?_
        show (if p.1.id = s.id then p.1.setLabel s.label else p.1) = (settledAt id p).1
        rw [settledAt, hid]
        split
        · rename_i hat
          -- the reader that was found is this one
          have hsa : p.1.setLabel p.2 = s :=
            inj_on_of_nodup_map hi' (mem_map_of_mem hp) hm (hat.trans hid.symm)
          rw [← hsa]
          rfl
        · rfl
      have hi'' : ((pairs.map (settledAt id)).map fun p => p.1.id).Nodup :=
        id_settledAt id pairs ▸ hi
      have hc' : ∀ p ∈ pairs.map (settledAt id), p.1.label ≠ p.2 → p.1.id ∈ ids := by
        intro q hq hne
        obtain ⟨p, hp, rfl⟩ := mem_map.mp hq
        rw [settledAt] at hne ⊢
        split at hne
        · exact absurd rfl hne
        · rename_i ho
          rw [if_neg ho]
          exact (mem_cons.mp (hc p hp hne)).resolve_left ho
      have hr := ih hi'' hc'
      rw [labelled_settledAt] at hr
      rw [Observer.replay, foldl_cons]
      show Observer.replay ⟨(pairs.map Prod.fst).map _, cards⟩ _ = _
      rw [hs]
      exact hr

lemma mem_announced {p : ReaderState × Label} (hp : p ∈ pairs) (hne : p.1.label ≠ p.2)
    {except : ObjectId}
    (hid : p.1.id ≠ except) : p.1.id ∈ (relabelledIds pairs).filter (· ≠ except) := by
  refine mem_filter.mpr ⟨?_, decide_eq_true hid⟩
  exact mem_map_of_mem (mem_filter.mpr ⟨hp, decide_eq_true hne⟩)

end Relabel

/-! ## What every operation keeps -/

structure Published (reg : ObjectRegistry) : Prop where
  distinct : (reg.readers.map ReaderState.id ++ reg.cards.map CardState.id).Nodup
  /-- every label is the one that the roster gives -/
  current : reg.readers.map ReaderState.label
    = (readerIdentities (reg.readers.map ReaderState.name)).map label
  copied : Observer.replay {} reg.told = ⟨reg.readers, reg.cards⟩

lemma published_new : Published {} := ⟨nodup_nil, rfl, rfl⟩

section Identified
variable (readers : List ReaderState)

lemma length_identities :
    readers.length = ((readerIdentities (readers.map ReaderState.name)).map label).length := by
  rw [length_map, length_readerIdentities, length_map]

lemma fst_identified : (identified readers).map Prod.fst = readers :=
  map_fst_zip (Nat.le_of_eq (length_identities readers))

lemma snd_identified : (identified readers).map Prod.snd
      = (readerIdentities (readers.map ReaderState.name)).map label :=
  map_snd_zip (Nat.le_of_eq (length_identities readers).symm)

lemma map_labelled {β : Type} {f : ReaderState → β}
    (hf : ∀ r label, f (ReaderState.setLabel r label) = f r) :
    (labelled (identified readers)).map f = readers.map f := by
  rw [labelled, map_map]
  conv_rhs => rw [← fst_identified readers, map_map]
  exact map_congr_left fun p _ => hf p.1 p.2

lemma id_identified : ((identified readers).map fun p => p.1.id) = readers.map ReaderState.id := by
  conv_rhs => rw [← fst_identified readers, map_map]
  rfl

lemma label_labelled : (labelled (identified readers)).map ReaderState.label
      = (readerIdentities ((labelled (identified readers)).map ReaderState.name)).map label := by
  have hn : (labelled (identified readers)).map ReaderState.name = readers.map ReaderState.name :=
    map_labelled readers fun _ _ => rfl
  rw [hn, ← snd_identified, labelled, map_map]
  rfl

end Identified

section Operations
variable {reg : ObjectRegistry}

lemma not_contains_iff {id : ObjectId} :
    ¬ reg.contains id = true ↔ id ∉ reg.readers.map ReaderState.id ∧
      id ∉ reg.cards.map CardState.id := by
  rw [ObjectRegistry.contains, Bool.or_eq_true, not_or]
  exact and_congr (not_congr any_iff) (not_congr any_iff)

lemma published_addCard (h : Published reg) (card : CardState) : Published (reg.addCard card) := by
  rw [ObjectRegistry.addCard]
  split
  · exact h
  rename_i hn
  obtain ⟨hr, hc⟩ := not_contains_iff.mp hn
  refine ⟨?_, h.current, ?_⟩
  · show (reg.readers.map ReaderState.id ++ (reg.cards ++ [card]).map CardState.id).Nodup
    rw [map_append, ← append_assoc]
    refine h.distinct.append (nodup_singleton _) (disjoint_singleton.mpr ?_)
    exact not_mem_append hr hc
  · show Observer.replay {} (reg.told ++ [Notice.addCard card]) = _
    rw [Observer.replay_append, h.copied]
    rfl

lemma published_update (h : Published reg) (reader : ObjectId) (delta : PropertyDelta) :
    Published (reg.update reader delta) := by
  unfold ObjectRegistry.update
  split
  · exact h
  split
  · exact h
  split
  · exact h
  have hi : (reg.readers.map ReaderState.id).Nodup := h.distinct.of_append_left
  rw [replaceF_eq_map hi]
  have hk : ∀ {β : Type} {f : ReaderState → β}, (∀ r, f (ReaderState.setCard r delta) = f r) →
      (reg.readers.map fun r => if r.id = reader then r.setCard delta else r).map f =
        reg.readers.map f :=
    fun hf => map_map_if hf _ _
  refine ⟨?_, ?_, ?_⟩
  · show ((reg.readers.map _).map ReaderState.id ++ _).Nodup
    rw [hk fun _ => rfl]
    exact h.distinct
  · show (reg.readers.map _).map ReaderState.label =
      (readerIdentities ((reg.readers.map _).map _)).map _
    rw [hk fun _ => rfl, hk fun _ => rfl]
    exact h.current
  · show Observer.replay {} (reg.told ++ [Notice.changed reader delta]) = _
    rw [Observer.replay_append, h.copied]
    rfl

lemma published_addReader (h : Published reg) (reader : ReaderState) :
    Published (reg.addReader reader) := by
  unfold ObjectRegistry.addReader
  split
  · exact h
  rename_i hnew
  obtain ⟨hr, hc⟩ := not_contains_iff.mp hnew
  generalize hro : reg.readers ++ [reader.setLabel ([], .unknown)] = roster
  have hid : (labelled (identified roster)).map ReaderState.id = reg.readers.map ReaderState.id ++
    [reader.id] := by
    rw [map_labelled roster fun _ _ => rfl, ← hro, map_append]
    rfl
  have hi : ((labelled (identified roster)).map ReaderState.id).Nodup := by
    rw [hid]
    exact h.distinct.of_append_left.append (nodup_singleton _) (disjoint_singleton.mpr hr)
  -- the newcomer is the last of the roster
  obtain ⟨old, last, hpa, hold, hl⟩ := map_eq_append_iff.mp ((fst_identified roster).trans hro.symm)
  obtain ⟨⟨new, label⟩, rfl, hnew'⟩ := map_eq_singleton_iff.mp hl
  refine ⟨?_, label_labelled roster, ?_⟩
  · show ((labelled (identified roster)).map ReaderState.id ++ reg.cards.map CardState.id).Nodup
    rw [hid, append_assoc]
    exact nodup_middle.mpr (nodup_cons.mpr ⟨not_mem_append hr hc, h.distinct⟩)
  have hla : labelled (identified roster) = labelled (old ++ [(new.setLabel label, label)]) := by
    rw [hpa, labelled, labelled, map_append, map_append]
    rfl
  have hn : new.id = (reader.setLabel ([], .unknown)).id := congrArg ReaderState.id hnew'
  have hf : ((labelled (identified roster)).find? fun r => r.id = reader.id) =
    some (new.setLabel label) := by
    refine (find_eq_some_iff hi).mpr ⟨?_, hn⟩
    rw [hla]
    exact mem_map_of_mem (mem_append_right _ mem_cons_self)
  have hi' : ((old ++ [(new.setLabel label, label)]).map fun p => p.1.id).Nodup := by
    rw [← id_labelled, ← hla]
    exact hi
  show Observer.replay {} (reg.told ++ (_ ++ _)) = ⟨labelled (identified roster), reg.cards⟩
  rw [Observer.replay_append, h.copied, Observer.replay_append, hf]
  show Observer.replay ⟨reg.readers ++ [new.setLabel label], reg.cards⟩ (announceRelabels _ _ _) = _
  have hco : reg.readers ++ [new.setLabel label] = (old ++ [(new.setLabel label, label)]).map
    Prod.fst := by
    rw [map_append, hold]
    rfl
  rw [hco, hla]
  refine replay_relabelled hi' reg.cards fun p hp hne => ?_
  obtain hp | hp := mem_append.mp hp
  · refine mem_announced ?_ hne fun e => hr ?_
    · rw [hpa]
      exact mem_append_left _ hp
    · rw [← e, ← hold]
      exact mem_map_of_mem (mem_map_of_mem hp)
  · cases mem_singleton.mp hp
    exact absurd rfl hne

lemma published_remove (h : Published reg) (id : ObjectId) : Published (reg.remove id) := by
  unfold ObjectRegistry.remove
  have hi : (reg.readers.map ReaderState.id).Nodup := h.distinct.of_append_left
  have hca : (reg.cards.map CardState.id).Nodup := h.distinct.of_append_right
  split
  · rename_i ha
    have hme : id ∈ reg.readers.map ReaderState.id := any_iff.mp ha
    have hcar : id ∉ reg.cards.map CardState.id :=
      fun hc => (disjoint_of_nodup_append h.distinct) hme hc
    rw [eraseP_eq_filter hi]
    generalize hr : (reg.readers.filter fun r => r.id ≠ id) = roster
    have hsu : (roster.map ReaderState.id).Sublist (reg.readers.map ReaderState.id) := by
      rw [← hr]
      exact filter_sublist.map _
    refine ⟨?_, label_labelled roster, ?_⟩
    · show ((labelled (identified roster)).map ReaderState.id ++ reg.cards.map CardState.id).Nodup
      rw [map_labelled roster fun _ _ => rfl]
      exact h.distinct.sublist (hsu.append_right _)
    · show Observer.replay {} (reg.told ++ (Notice.removed id :: _)) =
        ⟨labelled (identified roster), reg.cards⟩
      rw [Observer.replay_append, h.copied]
      show Observer.replay ⟨reg.readers.filter fun r => r.id ≠ id, reg.cards.filter fun c =>
        c.id ≠ id⟩ _ = _
      rw [filter_ne_of_not_mem hcar, hr]
      have hi' : ((identified roster).map fun p => p.1.id).Nodup :=
        id_identified roster ▸ hi.sublist hsu
      have hch : ∀ p ∈ identified roster, p.1.label ≠ p.2 →
          p.1.id ∈ (relabelledIds (identified roster)).filter (· ≠ id) := by
        intro p hp hne
        have hs : p.1 ∈ roster := fst_identified roster ▸ mem_map_of_mem hp
        rw [← hr] at hs
        exact mem_announced hp hne (of_decide_eq_true (mem_filter.mp hs).2)
      have hre := replay_relabelled hi' reg.cards hch
      rw [fst_identified] at hre
      exact hre
  rename_i hrea
  split
  · have hrea' : id ∉ reg.readers.map ReaderState.id := fun hm => hrea (any_iff.mpr hm)
    rw [eraseP_eq_filter hca]
    refine ⟨?_, h.current, ?_⟩
    · exact h.distinct.sublist ((filter_sublist.map _).append_left _)
    · show Observer.replay {} (reg.told ++ [Notice.removed id]) = _
      rw [Observer.replay_append, h.copied]
      show Observer.mk (reg.readers.filter fun r => r.id ≠ id) _ = _
      rw [filter_ne_of_not_mem hrea']
  · exact h

end Operations

end LibreAgent.Presence
