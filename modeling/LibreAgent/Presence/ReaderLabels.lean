import LibreAgent.Wire.Types
import LibreAgent.Lib.Text
import Mathlib.Data.Finset.Card

/-!
# The labels of readers

A label is the model of a reader and which interface it is, worked out from the raw names that PC/SC
has for all readers together.

* `shortModel` : words that every reader has are dropped from the end, as long as one stands before
  them (`dropTrailingWord_shortModel`);
* `modelOf` : the product in brackets, or what stands before it;
* `readerIdentities` : the labels of a roster, one for each name.
-/

namespace LibreAgent.Presence

open List Text

open Wire (ReaderInterface)
open Bytes (lit)
open Text (isWhite isDigit)

/-! ## Characters -/

def lowerAscii (c : UInt8) : UInt8 :=
  if 65 ≤ c ∧ c ≤ 90 then c + 32 else c

def isAlnumAscii (c : UInt8) : Bool :=
  isDigit c || (65 ≤ c && c ≤ 90) || (97 ≤ c && c ≤ 122)

def isXdigit (c : UInt8) : Bool :=
  isDigit c || (65 ≤ c && c ≤ 70) || (97 ≤ c && c ≤ 102)

def equalsIgnoringCase (a b : Bytes) : Bool :=
  a.map lowerAscii == b.map lowerAscii

def trimmed (s : Bytes) : Bytes :=
  trim isWhite s

def squashed (s : Bytes) : Bytes :=
  trimmed (s.foldl squash [])
where
  squash (out : Bytes) (c : UInt8) : Bytes :=
    if isWhite c then
      if out ≠ [] ∧ out.getLast? ≠ some 32 then out ++ [32] else out
    else out ++ [c]

/-! ## The parts of a name -/

def stripSlotPair (s : Bytes) : Bytes :=
  match s.drop (s.length - 6) with
  | [sp, i, i', sp', j, j'] =>
    if sp = 32 ∧ sp' = 32 ∧ isXdigit i ∧ isXdigit i' ∧ isXdigit j ∧ isXdigit j' then
      trimmed (s.take (s.length - 6))
    else s
  | _ => s

structure PcscName where
  base : Bytes
  serial : Bytes
deriving DecidableEq

def cutLast (d : UInt8) (s : Bytes) : Option (Bytes × Bytes) :=
  (cutAt d s.reverse).map fun (after, before) => (before.reverse, after.reverse)

def splitPcscName (raw : Bytes) : PcscName :=
  let base := stripSlotPair (trimmed raw)
  match if base.getLast? = some 41 then cutLast 40 base else none with
  | none => ⟨stripSlotPair base, []⟩
  | some (before, after) => ⟨stripSlotPair (trimmed before), trimmed after.dropLast⟩

/-! ## Markers -/

/-- the word stands somewhere in the text, no letter or digit follows it, and what precedes it is
allowed -/
def containsMarker (allowed : UInt8 → Bool) (s word : Bytes) : Bool :=
  (List.range (s.length + 1)).any fun i =>
    i + word.length ≤ s.length && equalsIgnoringCase ((s.drop i).take word.length) word
      && (i == 0 || (s[i - 1]?).any allowed)
      && (i + word.length == s.length || (s[i + word.length]?).any fun c => !isAlnumAscii c)

def containsWord (s word : Bytes) : Bool :=
  containsMarker (fun c => !isAlnumAscii c) s word

def containsClMarker (s : Bytes) : Bool :=
  containsMarker (fun c => !isAlnumAscii c || isDigit c) s (lit "cl")

def carriesContactlessMarker (base : Bytes) : Bool :=
  containsWord base (lit "contactless") || containsWord base (lit "picc") ||
    containsWord base (lit "nfc")
    || containsClMarker base

/-! ## The model -/

def kWords : List Bytes :=
  [lit "smart card reader", lit "smartcard reader", lit "smart card", lit "smartcard", lit "reader",
    lit "ccid", lit "usb", lit "interface", lit "contactless", lit "picc"]

def dropEnding (allowed : UInt8 → Bool) (model word : Bytes) : Option Bytes :=
  if word.length < model.length ∧ (model[model.length - word.length - 1]?).any allowed
      ∧ equalsIgnoringCase (model.drop (model.length - word.length)) word then
    some (trimmed (model.take (model.length - word.length)))
  else none

def dropTrailingWord (model : Bytes) : Option Bytes :=
  (kWords.findSome? fun word => dropEnding (· == 32) model word)
    <|> dropEnding (fun c => c == 32 || isDigit c) model (lit "cl")

def dropTrailingWords : Nat → Bytes → Bytes
  | 0, model => model
  | fuel + 1, model =>
    match dropTrailingWord model with
    | none => model
    | some model => dropTrailingWords fuel model

def shortModel (text : Bytes) : Bytes :=
  dropTrailingWords (squashed text).length (squashed text)

def bracketed (base : Bytes) : Option (Bytes × Bytes) := do
  let (front, rest) ← cutAt 91 base
  let (product, _) ← cutAt 93 rest
  return (front, product)

def modelOf (base : Bytes) : Bytes :=
  match bracketed base with
  | none => shortModel base
  | some (front, inner) =>
    let product := shortModel inner
    let front := shortModel front
    -- a digit or more than one word names a model
    if product ≠ [] ∧ (product.any isDigit ∨ 32 ∈ product) ∨ front = [] then product else front

/-! ## The labels of a roster -/

structure ReaderIdentity where
  model : Bytes := []
  iface : ReaderInterface := .unknown
  full : Bytes := []
deriving DecidableEq

abbrev Label := Bytes × ReaderInterface

def ReaderIdentity.label (id : ReaderIdentity) : Label :=
  (id.model, id.iface)

def slotsPerUnit (rawNames : List Bytes) (serial : Bytes) : Finset Bytes :=
  (rawNames.filter fun raw => (splitPcscName raw).serial = serial).toFinset

def plainIdentity (rawNames : List Bytes) (raw : Bytes) : ReaderIdentity :=
  let name := splitPcscName raw
  let model := modelOf name.base
  { model := if model = [] then raw else model
    iface :=
      if carriesContactlessMarker name.base then .contactless
      else if name.serial ≠ [] ∧ 1 < (slotsPerUnit rawNames name.serial).card then .contact
      else .unknown
    full := raw }

def namesPerLabel (rawNames : List Bytes) (label : Label) : Finset Bytes :=
  (rawNames.filter fun raw => (plainIdentity rawNames raw).label = label).toFinset

def numbered (base : Bytes) (text : Bytes) : Bytes :=
  base ++ lit " (" ++ text ++ lit ")"

def settle (taken : List Label) (iface : ReaderInterface) (base : Bytes) : Nat → Bytes → Nat → Bytes
  | 0, candidate, _ => candidate
  | fuel + 1, candidate, position =>
    if (candidate, iface) ∈ taken then
      settle taken iface base fuel (numbered base (decimal position)) (position + 1)
    else candidate

/-- the end of the serial, or the position, and then later positions -/
def disambiguated (taken : List Label) (id : ReaderIdentity) (serial : Bytes) (i : Nat) : Bytes :=
  if serial = [] then
    settle taken id.iface id.model (taken.length + 1) (numbered id.model (decimal (i + 1))) (i + 2)
  else
    settle taken id.iface id.model (taken.length + 1)
      (numbered id.model (serial.drop (serial.length - min serial.length 4))) (i + 1)

/-- the last loop: what is taken, and the models that names have got -/
def settleFrom (rawNames : List Bytes) (taken : List Label) (settled : List (Bytes × Bytes))
    (i : Nat) : List Bytes → List ReaderIdentity
  | [] => []
  | raw :: more =>
    let id := plainIdentity rawNames raw
    match settled.lookup raw with
    | some model => { id with model := model } :: settleFrom rawNames taken settled (i + 1) more
    | none =>
      if (namesPerLabel rawNames id.label).card ≤ 1 then
        id :: settleFrom rawNames taken settled (i + 1) more
      else
        let model := disambiguated taken id (splitPcscName raw).serial i
        { id with model := model } ::
          settleFrom rawNames ((model, id.iface) :: taken) ((raw, model) :: settled) (i + 1) more

def readerIdentities (rawNames : List Bytes) : List ReaderIdentity :=
  settleFrom rawNames (rawNames.map fun raw => (plainIdentity rawNames raw).label) [] 0 rawNames

/-! ## The loops end -/

lemma length_trimmed_le (s : Bytes) : (trimmed s).length ≤ s.length :=
  (List.rdropWhile_prefix _ _).length_le.trans (List.dropWhile_suffix _).length_le

variable {model m : Bytes}

lemma length_dropEnding {allowed : UInt8 → Bool} {word : Bytes} (hw : word ≠ [])
    (h : dropEnding allowed model word = some m) : m.length < model.length := by
  rw [dropEnding] at h
  split at h
  · rename_i he
    cases h
    have hp := length_pos_iff.mpr hw
    calc (trimmed (model.take (model.length - word.length))).length
        ≤ (model.take (model.length - word.length)).length := length_trimmed_le _
      _ = model.length - word.length := by rw [length_take, Nat.min_eq_left (Nat.sub_le _ _)]
      _ < model.length := Nat.sub_lt (Nat.zero_lt_of_lt he.1) hp
  · cases h

lemma length_dropTrailingWord (h : dropTrailingWord model = some m) : m.length < model.length := by
  rw [dropTrailingWord] at h
  cases hf : kWords.findSome? fun word => dropEnding (· == 32) model word with
  | some m' =>
    rw [hf] at h
    cases h
    obtain ⟨word, hm, hd⟩ := exists_of_findSome?_eq_some hf
    have hw : ∀ w ∈ kWords, w ≠ [] := by decide
    exact length_dropEnding (hw word hm) hd
  | none =>
    rw [hf] at h
    exact length_dropEnding (by decide) h

lemma dropTrailingWord_dropTrailingWords {fuel : Nat} (h : model.length ≤ fuel) :
    dropTrailingWord (dropTrailingWords fuel model) = none := by
  induction fuel generalizing model with
  | zero =>
    obtain rfl := length_eq_zero_iff.mp (Nat.le_zero.mp h)
    decide
  | succ fuel ih =>
    rw [dropTrailingWords]
    split
    · assumption
    · next m hd => exact ih (Nat.le_of_lt_succ (Nat.lt_of_lt_of_le (length_dropTrailingWord hd) h))

/-- the fuel is enough: `shortModel` stops where the loop of the source does -/
lemma dropTrailingWord_shortModel (text : Bytes) : dropTrailingWord (shortModel text) = none :=
  dropTrailingWord_dropTrailingWords (Nat.le_refl _)

lemma decimal_injective : Function.Injective decimal := by
  intro m n h
  have hp := congrArg parseDecimal h
  rw [parseDecimal_decimal, parseDecimal_decimal] at hp
  exact Option.some.inj hp

lemma numbered_injective (base : Bytes) : Function.Injective (numbered base) :=
  fun _ _ h => append_cancel_left (append_cancel_right h)

section Settle
variable {taken : List Label} {iface : ReaderInterface} {base : Bytes}

lemma settle_mem {fuel : Nat} {candidate : Bytes} {position : Nat}
    (h : (settle taken iface base fuel candidate position, iface) ∈ taken) :
    (candidate, iface) ∈ taken ∧
      ∀ k < fuel, (numbered base (decimal (position + k)), iface) ∈ taken := by
  induction fuel generalizing candidate position with
  | zero => exact ⟨h, fun k hk => absurd hk (Nat.not_lt_zero k)⟩
  | succ fuel ih =>
    rw [settle] at h
    split at h
    · rename_i hc
      obtain ⟨hf, hl⟩ := ih h
      refine ⟨hc, fun k hk => ?_⟩
      cases k with
      | zero => exact hf
      | succ k =>
        have hn := hl k (Nat.lt_of_succ_lt_succ hk)
        rw [Nat.add_right_comm] at hn
        exact hn
    · next hfr => exact absurd h hfr

lemma settle_not_mem (candidate : Bytes) (position : Nat) :
    (settle taken iface base (taken.length + 1) candidate position, iface) ∉ taken := by
  intro h
  have hl : Function.Injective fun k => (numbered base (decimal (position + k)), iface) := by
    intro j k e
    exact Nat.add_left_cancel (decimal_injective (numbered_injective base (Prod.mk.inj e).1))
  have hs : (List.range (taken.length + 1)).map
      (fun k => (numbered base (decimal (position + k)), iface)) ⊆ taken := by
    intro label hm
    obtain ⟨k, hk, rfl⟩ := mem_map.mp hm
    exact (settle_mem h).2 k (mem_range.mp hk)
  have hle := (subperm_of_subset (nodup_range.map hl) hs).length_le
  rw [length_map, length_range] at hle
  exact Nat.not_succ_le_self _ hle

end Settle

lemma disambiguated_not_mem (taken : List Label) (id : ReaderIdentity) (serial : Bytes) (i : Nat) :
    (disambiguated taken id serial i, id.iface) ∉ taken := by
  rw [disambiguated]
  split <;> exact settle_not_mem _ _

lemma numbered_ne_nil (base text : Bytes) : numbered base text ≠ [] :=
  append_ne_nil_of_right_ne_nil _ (by decide)

variable {taken : List Label}

lemma settle_ne_nil {iface : ReaderInterface} {base candidate : Bytes} (h : candidate ≠ [])
    (fuel position : Nat) : settle taken iface base fuel candidate position ≠ [] := by
  induction fuel generalizing candidate position with
  | zero => exact h
  | succ fuel ih =>
    rw [settle]
    split
    · exact ih (numbered_ne_nil _ _) _
    · exact h

lemma disambiguated_ne_nil (taken : List Label) (id : ReaderIdentity) (serial : Bytes) (i : Nat) :
    disambiguated taken id serial i ≠ [] := by
  rw [disambiguated]
  split <;> exact settle_ne_nil (numbered_ne_nil _ _) _ _

lemma length_settleFrom (rawNames : List Bytes) (taken : List Label)
    (settled : List (Bytes × Bytes)) (i : Nat) (names : List Bytes) :
    (settleFrom rawNames taken settled i names).length = names.length := by
  induction names generalizing taken settled i with
  | nil => rfl
  | cons raw more ih =>
    rw [settleFrom]
    split
    · exact congrArg Nat.succ (ih _ _ _)
    · split <;> exact congrArg Nat.succ (ih _ _ _)

lemma length_readerIdentities (rawNames : List Bytes) : (readerIdentities rawNames).length =
    rawNames.length :=
  length_settleFrom _ _ _ _ _

/-! ## No two names read alike -/

variable {rawNames : List Bytes}

def settledLabel (rawNames : List Bytes) (e : Bytes × Bytes) : Label :=
  (e.2, (plainIdentity rawNames e.1).iface)

structure Settled (rawNames : List Bytes) (taken : List Label) (settled : List (Bytes × Bytes)) :
    Prop where
  plain : ∀ raw ∈ rawNames, (plainIdentity rawNames raw).label ∈ taken
  taken : ∀ e ∈ settled, settledLabel rawNames e ∈ taken
  fresh : ∀ e ∈ settled, ∀ raw ∈ rawNames, settledLabel rawNames e ≠
    (plainIdentity rawNames raw).label
  shared : ∀ e ∈ settled, 1 < (namesPerLabel rawNames (plainIdentity rawNames e.1).label).card
  named : ∀ e ∈ settled, e.2 ≠ []
  inj : ∀ e ∈ settled, ∀ e' ∈ settled, e.1 = e'.1 ↔ settledLabel rawNames e =
    settledLabel rawNames e'

def Labelled (rawNames : List Bytes) (settled : List (Bytes × Bytes)) (raw : Bytes)
    (id : ReaderIdentity) : Prop :=
  id = plainIdentity rawNames raw ∧ (namesPerLabel rawNames id.label).card ≤ 1 ∨
    (raw, id.model) ∈ settled ∧ id = { plainIdentity rawNames raw with model := id.model }

variable {settled : List (Bytes × Bytes)}

lemma Settled.cons (h : Settled rawNames taken settled) {raw model : Bytes}
    (hl : ∀ e ∈ settled, e.1 ≠ raw) (hm : settledLabel rawNames (raw, model) ∉ taken)
    (hne : model ≠ []) (hc : 1 < (namesPerLabel rawNames (plainIdentity rawNames raw).label).card) :
    Settled rawNames (settledLabel rawNames (raw, model) :: taken) ((raw, model) :: settled) where
  plain := fun other ho => mem_cons_of_mem _ (h.plain other ho)
  taken := forall_mem_cons.mpr ⟨mem_cons_self, fun e he => mem_cons_of_mem _ (h.taken e he)⟩
  fresh := forall_mem_cons.mpr ⟨fun other ho he => hm (he ▸ h.plain other ho), h.fresh⟩
  shared := forall_mem_cons.mpr ⟨hc, h.shared⟩
  named := forall_mem_cons.mpr ⟨hne, h.named⟩
  inj := by
    have hne (e : Bytes × Bytes) (he : e ∈ settled) : settledLabel rawNames e ≠
      settledLabel rawNames (raw, model) :=
      fun h' => hm (h' ▸ h.taken e he)
    refine forall_mem_cons.mpr ⟨forall_mem_cons.mpr ⟨⟨fun _ => rfl, fun _ => rfl⟩, fun e he => ?_⟩,
      fun e he => forall_mem_cons.mpr ⟨?_, h.inj e he⟩⟩
    · exact ⟨fun h' => absurd h'.symm (hl e he), fun h' => absurd h'.symm (hne e he)⟩
    · exact ⟨fun h' => absurd h' (hl e he), fun h' => absurd h' (hne e he)⟩

lemma settleFrom_labelled (h : Settled rawNames taken settled)
    (i : Nat) (names : List Bytes) : ∃ taken' settled', Settled rawNames taken' settled' ∧
    settled ⊆ settled' ∧
      ∀ e ∈ names.zip (settleFrom rawNames taken settled i names), Labelled rawNames settled'
        e.1 e.2 := by
  induction names generalizing taken settled i with
  | nil => exact ⟨taken, settled, h, Subset.refl _, nofun⟩
  | cons raw more ih =>
    rw [settleFrom]
    split
    · next model hl =>
      obtain ⟨taken', settled', h', hsu, hr⟩ := ih h (i + 1)
      obtain ⟨l₁, l₂, hs, -⟩ := lookup_eq_some_iff.mp hl
      have hm : (raw, model) ∈ settled := hs ▸ mem_append_right l₁ mem_cons_self
      exact ⟨taken', settled', h', hsu, forall_mem_cons.mpr ⟨.inr ⟨hsu hm, rfl⟩, hr⟩⟩
    · next hl =>
      split
      · next hc =>
        obtain ⟨taken', settled', h', hsu, hr⟩ := ih h (i + 1)
        exact ⟨taken', settled', h', hsu, forall_mem_cons.mpr ⟨.inl ⟨rfl, hc⟩, hr⟩⟩
      · next hc =>
        have hra : ∀ e ∈ settled, e.1 ≠ raw := fun e he h' => by
          have := lookup_eq_none_iff.mp hl e he
          simp [h'] at this
        have hf :=
          disambiguated_not_mem taken (plainIdentity rawNames raw) (splitPcscName raw).serial i
        obtain ⟨taken', settled', h', hsu, hr⟩ :=
          ih (h.cons hra hf (disambiguated_ne_nil _ _ _ _) (Nat.lt_of_not_le hc)) (i + 1)
        exact ⟨taken', settled', h', fun e he => hsu (mem_cons_of_mem _ he),
          forall_mem_cons.mpr ⟨.inr ⟨hsu mem_cons_self, rfl⟩, hr⟩⟩

lemma label_eq_of_card_le_one {raw raw' : Bytes} (hr : raw ∈ rawNames) (hr' : raw' ∈ rawNames)
    (hc : (namesPerLabel rawNames (plainIdentity rawNames raw).label).card ≤ 1)
    (he : (plainIdentity rawNames raw').label = (plainIdentity rawNames raw).label) :
    raw' = raw := by
  refine Finset.card_le_one.mp hc raw' ?_ raw ?_
  · simp [namesPerLabel, hr', he]
  · simp [namesPerLabel, hr]

lemma Labelled.iface {raw : Bytes} {id : ReaderIdentity}
    (h : Labelled rawNames settled raw id) : id.iface = (plainIdentity rawNames raw).iface := by
  rcases h with ⟨rfl, -⟩ | ⟨-, hid⟩
  · rfl
  · rw [hid]

lemma Labelled.label {raw : Bytes} {id : ReaderIdentity}
    (h : Labelled rawNames settled raw id) : id.label = settledLabel rawNames (raw, id.model) := by
  rw [ReaderIdentity.label, settledLabel, h.iface]

lemma Settled.apart (h : Settled rawNames taken settled) {raw raw' model : Bytes}
    (hr : raw ∈ rawNames) (hc : (namesPerLabel rawNames (plainIdentity rawNames raw).label).card ≤
      1)
    (hs : (raw', model) ∈ settled) :
    raw ≠ raw' ∧ (plainIdentity rawNames raw).label ≠ settledLabel rawNames (raw', model) := by
  refine ⟨fun e => ?_, fun e => h.fresh _ hs raw hr e.symm⟩
  subst e
  have hsh := h.shared _ hs
  dsimp only at hsh
  omega

lemma Settled.label_iff (h : Settled rawNames taken settled)
    {raw raw' : Bytes} {id id' : ReaderIdentity} (hr : raw ∈ rawNames) (hr' : raw' ∈ rawNames)
    (hl : Labelled rawNames settled raw id) (hl' : Labelled rawNames settled raw' id') :
    raw = raw' ↔ id.label = id'.label := by
  have hla := hl.label
  have hla' := hl'.label
  rcases hl with ⟨hp, hc⟩ | ⟨hs, -⟩
  · rcases hl' with ⟨hp', hc'⟩ | ⟨hs', -⟩
    · rw [hp] at hc ⊢
      rw [hp'] at hc' ⊢
      exact ⟨fun e => by rw [e], label_eq_of_card_le_one hr' hr hc'⟩
    · rw [hp] at hc ⊢
      rw [hla']
      exact iff_of_false (h.apart hr hc hs').1 (h.apart hr hc hs').2
  · rw [hla]
    rcases hl' with ⟨hp', hc'⟩ | ⟨hs', -⟩
    · rw [hp'] at hc' ⊢
      exact iff_of_false (h.apart hr' hc' hs).1.symm (h.apart hr' hc' hs).2.symm
    · rw [hla']
      exact h.inj _ hs _ hs'

lemma readerIdentities_labelled (rawNames : List Bytes) :
    ∃ taken settled, Settled rawNames taken settled ∧
    ∀ e ∈ rawNames.zip (readerIdentities rawNames), Labelled rawNames settled e.1 e.2 := by
  have h : Settled rawNames (rawNames.map fun raw => (plainIdentity rawNames raw).label) [] :=
    ⟨fun raw hr => mem_map_of_mem hr, nofun, nofun, nofun, nofun, nofun⟩
  obtain ⟨taken, settled, h, -, hr⟩ := settleFrom_labelled h 0 rawNames
  exact ⟨taken, settled, h, hr⟩

lemma iface_of_mem_zip {e : Bytes × ReaderIdentity}
    (he : e ∈ rawNames.zip (readerIdentities rawNames)) :
    e.2.iface = (plainIdentity rawNames e.1).iface := by
  obtain ⟨_, _, -, hr⟩ := readerIdentities_labelled rawNames
  exact (hr e he).iface

/-- Every list of names gets one label for each name, in its order, and of any two entries: the
labels are equal if and only if the names are.  A name that is not empty has a model that is not
empty, and a reader is called a contact reader only if another name of the list belongs to the same
unit. -/
theorem readerIdentities_unambiguous (rawNames : List Bytes) :
    (readerIdentities rawNames).length = rawNames.length ∧
    ∀ e ∈ rawNames.zip (readerIdentities rawNames),
      (∀ e' ∈ rawNames.zip (readerIdentities rawNames), e.1 = e'.1 ↔ e.2.label = e'.2.label) ∧
      (e.1 ≠ [] → e.2.model ≠ []) ∧
      (e.2.iface = .contact → (splitPcscName e.1).serial ≠ [] ∧
        ∃ other ∈ rawNames, other ≠ e.1 ∧ (splitPcscName other).serial =
          (splitPcscName e.1).serial) := by
  obtain ⟨taken, settled, h, hr⟩ := readerIdentities_labelled rawNames
  refine ⟨length_readerIdentities rawNames, fun e he =>
      ⟨fun e' he' => ?_, fun hne => ?_, fun hi => ?_⟩⟩
  · exact h.label_iff (of_mem_zip he).1 (of_mem_zip he').1 (hr e he) (hr e' he')
  · rcases hr e he with ⟨hid, -⟩ | ⟨hs, -⟩
    · rw [hid, plainIdentity]
      grind
    · exact h.named _ hs
  · rw [iface_of_mem_zip he, plainIdentity] at hi
    have hu : (splitPcscName e.1).serial ≠ [] ∧
      1 < (slotsPerUnit rawNames (splitPcscName e.1).serial).card := by grind
    obtain ⟨other, ho, hne⟩ := Finset.exists_mem_ne hu.2 e.1
    obtain ⟨ho, hs⟩ : other ∈ rawNames ∧ (splitPcscName other).serial =
      (splitPcscName e.1).serial := by
      simpa [slotsPerUnit] using ho
    exact ⟨hu.1, other, ho, hne, hs⟩

/-- two slots of one unit -/
example :
    (readerIdentities [lit "ACME 5422 [ACME 5422 Smartcard Reader] (A1) 00 00",
      lit "ACME 5422CL [ACME 5422CL Smartcard Reader] (A1) 01 00"]).map ReaderIdentity.label
      = [(lit "ACME 5422", .contact), (lit "ACME 5422", .contactless)] := by
  decide +kernel

end LibreAgent.Presence
