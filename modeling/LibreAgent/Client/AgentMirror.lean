import LibreAgent.Lib.Replay
import LibreAgent.Client.AgentClient

/-!
# The agent's readers and cards

What the agent has, in the words of the wire: an event adds an object with the values of its state,
removes it, or changes some of its properties.

* `ObjectKind.after` : an object after an event, and `agentObject` : the events replayed over an
  empty mirror; `after_absorbs` : an event that comes again loses nothing;
* `RegistrySnapshot.Shows` : a snapshot is the agent's state after some events;
* `QVariants.Lawful`, `ObjectKind.Typed` : values of a property's own type, which the client takes
  over as they are (`applyProps_typed`).
-/

namespace LibreAgent.Client

open Bytes List
open Wire (CborValue DecodedEvent ReaderState CardState ReaderInterface readerInterfaceFromToken)

/-! ## Values -/

def asInterface (v : CborValue) : Option ReaderInterface :=
  v.asText.map fun token => (readerInterfaceFromToken token).getD .unknown

def asUInt32 (v : CborValue) : Option UInt32 :=
  (v.asUInt.filter (·.toNat < 2 ^ 32)).map (·.toUInt32)

def valueAt {α : Type} (props : Props) (key : String) (read : CborValue → Option α) : Option α :=
  (props.find? (·.1 = lit key)).bind fun entry => read entry.2

def ReaderProperties.patch (r : ReaderProperties) (props : Props) : ReaderProperties where
  name := (valueAt props "Name" (·.asText)).getD r.name
  model := (valueAt props "Model" (·.asText)).getD r.model
  iface := (valueAt props "Interface" asInterface).getD r.iface
  hasCard := (valueAt props "HasCard" (·.asBool)).getD r.hasCard
  cardId := (valueAt props "Card" (·.asText)).getD r.cardId

def CardProperties.patch (k : CardProperties) (props : Props) : CardProperties where
  capabilities := (valueAt props "Capabilities" asUInt32).getD k.capabilities
  preReadAuth := (valueAt props "PreReadAuthMethod" (·.asText)).getD k.preReadAuth
  readerId := (valueAt props "Reader" (·.asText)).getD k.readerId
  cardType := (valueAt props "CardType" (·.asText)).getD k.cardType
  atrHex := (valueAt props "Atr" (·.asText)).getD k.atrHex

def readerValues (r : ReaderState) : ReaderProperties :=
  ⟨r.name, r.model, r.iface, r.hasCard, r.card.getD []⟩

def cardValues (k : CardState) : CardProperties :=
  ⟨k.caps, preAuthToken k.preAuth, k.reader, k.cardType.getD [], k.atr.getD []⟩

namespace ObjectKind

def patch : (k : ObjectKind) → k.Fields → Props → k.Fields
  | .reader => ReaderProperties.patch
  | .card => CardProperties.patch

def iface : ObjectKind → Bytes
  | .reader => kReaderIface
  | .card => kCardIface

/-! ## Events -/

inductive Change (F : Type) where
  | put (v : F)
  | erase
  | patch (props : Props)

def change (k : ObjectKind) (o : Option k.Fields) : Option (Change k.Fields) → Option k.Fields
  | none => o
  | some (.put v) => some v
  | some .erase => none
  | some (.patch props) => o.map (k.patch · props)

/-- the object of a kind that an event is about, and what it does to it -/
def write : (k : ObjectKind) → DecodedEvent → Option (Bytes × Change k.Fields)
  | .reader, .known (.readerAdded r) => some (r.handle, .put (readerValues r))
  | .reader, .known (.readerRemoved handle) => some (handle, .erase)
  | .card, .known (.cardAdded k) => some (k.handle, .put (cardValues k))
  | .card, .known (.cardRemoved handle) => some (handle, .erase)
  | k, .known (.propertyChanged e) =>
    if e.iface = k.iface then some (e.handle, .patch e.props.entries) else none
  | _, _ => none

/-- what an event does to one object -/
def effect (k : ObjectKind) (id : Bytes) (e : DecodedEvent) : Option (Change k.Fields) :=
  (k.write e).bind fun (id', change) => if id = id' then some change else none

def after (k : ObjectKind) (id : Bytes) (o : Option k.Fields) (e : DecodedEvent) :
    Option k.Fields :=
  k.change o (k.effect id e)

variable (k : ObjectKind)

lemma change_after (o : Option k.Fields) (c c' : Option (Change k.Fields)) :
    k.change (k.change (k.change o c) c') c = k.change (k.change o c') c := by
  have hg {α : Type} (a b : Option α) (x : α) :
      a.getD (b.getD (a.getD x)) = a.getD (b.getD x) := by
    cases a <;> rfl
  have hgg {α : Type} (a : Option α) (x : α) : a.getD (a.getD x) = a.getD x := by
    cases a <;> rfl
  match c, c' with
  | none, _ | some (.put _), _ | some .erase, _ => rfl
  | some (.patch _), some (.put _) | some (.patch _), some .erase => rfl
  | some (.patch props), none | some (.patch props), some (.patch props') =>
    cases o with
    | none => rfl
    | some v =>
      refine congrArg some ?_
      cases k <;>
        simp only [patch, ReaderProperties.patch, CardProperties.patch, hg, hgg] <;> rfl

lemma after_absorbs (id : Bytes) : Replay.Absorbs (k.after id) where
  again o e := k.change_after o (k.effect id e) none
  after o e e' := k.change_after o (k.effect id e) (k.effect id e')

end ObjectKind

def agentObject (k : ObjectKind) (events : List DecodedEvent) (id : Bytes) : Option k.Fields :=
  events.foldl (k.after id) none

/-! ## Snapshots -/

namespace RegistrySnapshot

def entries (snapshot : RegistrySnapshot) : (k : ObjectKind) → List (Bytes × k.Fields)
  | .reader => snapshot.readers.map fun r => (r.handle, readerValues r)
  | .card => snapshot.cards.map fun k => (k.handle, cardValues k)

/-- the snapshot is the agent's state after the events -/
def Shows (snapshot : RegistrySnapshot) (events : List DecodedEvent) : Prop :=
  ∀ k id v, (id, v) ∈ snapshot.entries k ↔ agentObject k events id = some v

end RegistrySnapshot

/-! ## What the client reads -/

/-- the conversions of `QVariant` keep texts, truth values and numbers of 32 bits -/
structure QVariants.Lawful (qt : QVariants) : Prop where
  text : ∀ v t, v.asText = some t → qt.toString v = t
  bool : ∀ v b, v.asBool = some b → qt.toBool v = b
  uint : ∀ v n, asUInt32 v = some n → qt.toUInt v = n

def HasType {α : Type} (props : Props) (read : CborValue → Option α) (key : String) : Prop :=
  ∀ entry ∈ props.find? (·.1 = lit key), (read entry.2).isSome = true

/-- the properties of an object have the types that the agent gives them -/
def ObjectKind.Typed : ObjectKind → Props → Prop
  | .reader, props =>
    (∀ key ∈ ["Name", "Model", "Interface", "Card"], HasType props (·.asText) key) ∧
      HasType props (·.asBool) "HasCard"
  | .card, props =>
    (∀ key ∈ ["PreReadAuthMethod", "Reader", "CardType", "Atr"], HasType props (·.asText) key) ∧
      HasType props asUInt32 "Capabilities"

variable {qt : QVariants} {α : Type} {props : Props} {key : String} {read : CborValue → Option α}

lemma Props.read_typed {convert : CborValue → α} (hc : ∀ v a, read v = some a → convert v = a)
    (ht : HasType props read key) (old : α) :
    Props.read props key convert old = (valueAt props key read).getD old := by
  unfold Props.read valueAt
  cases hf : props.find? (·.1 = lit key) with
  | none => rfl
  | some entry =>
    obtain ⟨a, ha⟩ := Option.isSome_iff_exists.mp (ht entry hf)
    rw [Option.bind_some, ha]
    exact hc _ a ha

lemma QVariants.Lawful.iface (h : qt.Lawful) (v : CborValue) (i : ReaderInterface)
    (hi : asInterface v = some i) :
    (readerInterfaceFromToken (qt.toString v)).getD .unknown = i := by
  obtain ⟨t, ht, rfl⟩ := Option.map_eq_some_iff.mp hi
  rw [h.text v t ht]

lemma applyProps_typed (h : qt.Lawful) (k : ObjectKind) (v : k.Fields) (ht : k.Typed props) :
    k.applyProps qt v props = k.patch v props := by
  cases k with
  | reader =>
    have hi : HasType props asInterface "Interface" := fun entry he => by
      rw [asInterface, Option.isSome_map]
      exact ht.1 _ (by simp) entry he
    simp only [ObjectKind.applyProps, ObjectKind.patch, ReaderProperties.applyProps,
      ReaderProperties.patch, Props.read_typed h.text (ht.1 "Name" (by simp)),
      Props.read_typed h.text (ht.1 "Model" (by simp)), Props.read_typed h.iface hi,
      Props.read_typed h.bool ht.2, Props.read_typed h.text (ht.1 "Card" (by simp))]
    rfl
  | card =>
    simp only [ObjectKind.applyProps, ObjectKind.patch, CardProperties.applyProps,
      CardProperties.patch, Props.read_typed h.uint ht.2,
      Props.read_typed h.text (ht.1 "PreReadAuthMethod" (by simp)),
      Props.read_typed h.text (ht.1 "Reader" (by simp)),
      Props.read_typed h.text (ht.1 "CardType" (by simp)),
      Props.read_typed h.text (ht.1 "Atr" (by simp))]
    rfl

lemma applyProps_readerProps (h : qt.Lawful) (p : ReaderProperties) (r : ReaderState) :
    p.applyProps qt (readerProps r) = readerValues r := by
  have hi : readerInterfaceFromToken (Wire.readerInterfaceToken r.iface) = some r.iface := by
    cases r.iface <;> decide
  show (⟨qt.toString (.text r.name), qt.toString (.text r.model),
    (readerInterfaceFromToken (qt.toString (.text _))).getD .unknown, qt.toBool (.bool r.hasCard),
    qt.toString (.text (r.card.getD []))⟩ : ReaderProperties) = _
  have ht (t : Bytes) : qt.toString (.text t) = t := h.text _ t rfl
  rw [ht, ht, ht, ht, h.bool _ r.hasCard rfl, hi]
  rfl

lemma applyProps_cardProps (h : qt.Lawful) (p : CardProperties) (k : CardState) :
    p.applyProps qt (cardProps k) = cardValues k := by
  have hc : asUInt32 (.uint k.caps.toUInt64) = some k.caps := by
    simp [asUInt32, CborValue.asUInt, k.caps.toNat_lt]
  show (⟨qt.toUInt (.uint k.caps.toUInt64), qt.toString (.text _), qt.toString (.text _),
    qt.toString (.text _), qt.toString (.text _)⟩ : CardProperties) = _
  have ht (t : Bytes) : qt.toString (.text t) = t := h.text _ t rfl
  rw [ht, ht, ht, ht, h.uint _ _ hc]
  rfl

end LibreAgent.Client
