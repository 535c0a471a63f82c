import LibreAgent.Presence.ObjectRegistry
import LibreAgent.Lib.Runs
import Mathlib.Data.List.AList

/-!
# Readers and cards come and go

The bridge hands each event of the PC/SC monitor to the model, which mints ids and publishes readers
and cards, and to the tracker, which knows the card in each reader and calls a hook when it goes.

* `PresenceModel` : the ids by reader name, and the registry;
* `CardKeyTracker` : the card by reader name, and the calls of the hook;
* `MonitorEvent`, `MonitorBridge.dispatch` : what the bridge does with an event;
* `observer_replay` : what an observer holds after any events.
-/

namespace LibreAgent.Presence

/-! ## The model -/

structure PresenceModel where
  registry : ObjectRegistry := {}
  readerIds : AList fun _ : Bytes => ObjectId := ∅
  cardIds : AList fun _ : Bytes => ObjectId := ∅
  /-- one counter for readers and cards; 64 bits in the source, taken not to wrap -/
  nextId : Nat := 0

def hexDigitUpper (n : Nat) : UInt8 :=
  UInt8.ofNat (if n < 10 then 48 + n else 55 + n)

def toHexUpper (b : Bytes) : Bytes :=
  b.flatMap fun c => [hexDigitUpper (c.toNat / 16), hexDigitUpper (c.toNat % 16)]

namespace PresenceModel

variable (m : PresenceModel)

def readerIdFor (name : Bytes) : ObjectId :=
  (m.readerIds.lookup name).getD 0

def cardIdFor (readerName : Bytes) : ObjectId :=
  (m.cardIds.lookup readerName).getD 0

def onReaderAdded (readerName : Bytes) : PresenceModel :=
  if (m.readerIds.lookup readerName).isSome then m
  else { m with
    nextId := m.nextId + 1
    readerIds := m.readerIds.insert readerName (m.nextId + 1)
    registry := m.registry.addReader { id := m.nextId + 1, name := readerName } }

def onCardRemoved (readerName : Bytes) : PresenceModel :=
  match m.cardIds.lookup readerName with
  | none => m
  | some card => { m with
    cardIds := m.cardIds.erase readerName
    -- an unknown reader has the invalid id
    registry := (m.registry.remove card).update (m.readerIdFor readerName) {} }

def onReaderRemoved (readerName : Bytes) : PresenceModel :=
  let m := m.onCardRemoved readerName
  match m.readerIds.lookup readerName with
  | none => m
  | some reader => { m with
    readerIds := m.readerIds.erase readerName
    registry := m.registry.remove reader }

def publishCard (readerName atr : Bytes) (capabilities : UInt32) : PresenceModel :=
  { m with
    nextId := m.nextId + 1
    cardIds := m.cardIds.insert readerName (m.nextId + 1)
    registry := (m.registry.addCard
      { id := m.nextId + 1
        reader := m.readerIdFor readerName
        capabilities := capabilities
        atrHex := toHexUpper atr }).update (m.readerIdFor readerName)
          { hasCard := true, card := m.nextId + 1 } }

/-- with the capabilities of the plugin that declares the ATR, if there is one -/
def onCardInserted (readerName atr : Bytes) (plugin : Option UInt32) : PresenceModel :=
  let m := if (m.readerIds.lookup readerName).isSome then m else m.onReaderAdded readerName
  let m := if (m.cardIds.lookup readerName).isSome then m.onCardRemoved readerName else m
  m.publishCard readerName atr (plugin.getD 0)

lemma onCardInserted_eq (readerName atr : Bytes) (plugin : Option UInt32) :
    m.onCardInserted readerName atr plugin
      = ((m.onReaderAdded readerName).onCardRemoved readerName).publishCard readerName atr
        (plugin.getD 0) := by
  have hr : (if (m.readerIds.lookup readerName).isSome then m else m.onReaderAdded readerName)
      = m.onReaderAdded readerName := by
    split
    · next hk => rw [onReaderAdded, if_pos hk]
    · rfl
  have hc : ∀ m : PresenceModel, (if (m.cardIds.lookup readerName).isSome then m.onCardRemoved
      readerName else m)
      = m.onCardRemoved readerName := by
    intro m
    split
    · rfl
    · next hn => rw [onCardRemoved, Option.not_isSome_iff_eq_none.mp hn]
  rw [onCardInserted, hr, hc]

end PresenceModel

/-! ## The tracker -/

structure CardKeyTracker where
  readerToCardKey : AList fun _ : Bytes => ObjectId := ∅
  /-- the calls of the hook, in order -/
  removed : List (ObjectId × Bytes) := []

namespace CardKeyTracker

def onCardRemoved (t : CardKeyTracker) (readerName : Bytes) : CardKeyTracker :=
  match t.readerToCardKey.lookup readerName with
  | none => t
  | some dropped => ⟨t.readerToCardKey.erase readerName, t.removed ++ [(dropped, readerName)]⟩

def onCardInserted (t : CardKeyTracker) (readerName : Bytes) (card : ObjectId) : CardKeyTracker :=
  let t := t.onCardRemoved readerName
  { t with readerToCardKey := t.readerToCardKey.insert readerName card }

def onReaderRemoved (t : CardKeyTracker) (readerName : Bytes) : CardKeyTracker :=
  t.onCardRemoved readerName

end CardKeyTracker

/-! ## The bridge -/

/-- an event of the monitor; a card comes with what the resolver finds for it -/
inductive MonitorEvent where
  | readerAdded (readerName : Bytes)
  | readerRemoved (readerName : Bytes)
  | cardInserted (readerName : Bytes) (atr : Option Bytes) (plugin : Option UInt32)
  | cardRemoved (readerName : Bytes)
  | error (readerName : Bytes)

structure MonitorBridge where
  model : PresenceModel := {}
  tracker : CardKeyTracker := {}

def MonitorBridge.dispatch (b : MonitorBridge) : MonitorEvent → MonitorBridge
  | .readerAdded name => { b with model := b.model.onReaderAdded name }
  | .readerRemoved name => ⟨b.model.onReaderRemoved name, b.tracker.onReaderRemoved name⟩
  | .cardInserted name atr plugin =>
    let model := b.model.onCardInserted name (atr.getD []) plugin
    ⟨model, b.tracker.onCardInserted name (model.cardIdFor name)⟩
  | .cardRemoved name => ⟨b.model.onCardRemoved name, b.tracker.onCardRemoved name⟩
  -- it is only logged
  | .error _ => b

def monitored (events : List MonitorEvent) : MonitorBridge :=
  Runs.run MonitorBridge.dispatch {} events

/-! ## What the observer holds -/

section Published
variable {m : PresenceModel}

section
variable (h : Published m.registry)
include h

lemma published_onReaderAdded (name : Bytes) : Published (m.onReaderAdded name).registry := by
  rw [PresenceModel.onReaderAdded]
  split
  · exact h
  · exact published_addReader h _

lemma published_onCardRemoved (name : Bytes) : Published (m.onCardRemoved name).registry := by
  rw [PresenceModel.onCardRemoved]
  split
  · exact h
  · exact published_update (published_remove h _) _ _

lemma published_onReaderRemoved (name : Bytes) : Published (m.onReaderRemoved name).registry := by
  have hc := published_onCardRemoved h name
  rw [PresenceModel.onReaderRemoved]
  split
  · exact hc
  · exact published_remove hc _

lemma published_publishCard (name atr : Bytes) (capabilities : UInt32) :
    Published (m.publishCard name atr capabilities).registry :=
  published_update (published_addCard h _) _ _

lemma published_onCardInserted (name atr : Bytes)
    (plugin : Option UInt32) : Published (m.onCardInserted name atr plugin).registry := by
  rw [PresenceModel.onCardInserted_eq]
  exact published_publishCard (published_onCardRemoved (published_onReaderAdded h name) name) name
    atr _

end

lemma published_dispatch (b : MonitorBridge) (e : MonitorEvent) (h : Published b.model.registry) :
    Published (b.dispatch e).model.registry := by
  cases e with
  | readerAdded name => exact published_onReaderAdded h name
  | readerRemoved name => exact published_onReaderRemoved h name
  | cardInserted name atr plugin => exact published_onCardInserted h name _ plugin
  | cardRemoved name => exact published_onCardRemoved h name
  | error name => exact h

lemma published_monitored (events : List MonitorEvent) :
    Published (monitored events).model.registry :=
  Runs.run_invariant published_dispatch published_new events

end Published

/-- an observer that starts empty and applies the notices in order holds the registry's readers and
cards, with the labels that the readers of the moment have together -/
theorem observer_replay (events : List MonitorEvent) :
    Observer.replay {} (monitored events).model.registry.told
        = ⟨(monitored events).model.registry.readers, (monitored events).model.registry.cards⟩ ∧
      (monitored events).model.registry.readers.map ReaderState.label
        = (readerIdentities ((monitored events).model.registry.readers.map ReaderState.name)).map
          ReaderIdentity.label :=
  ⟨(published_monitored events).copied, (published_monitored events).current⟩

end LibreAgent.Presence
