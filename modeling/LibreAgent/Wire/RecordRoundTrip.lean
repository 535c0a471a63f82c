import LibreAgent.Wire.ClientCodec
import LibreAgent.Wire.Fields

/-!
# The shared records round-trip

Each record the server role encodes is read back by the client role, with the conditions under
which the wire keeps it: `ReaderState.Kept`, `CertInfo.Kept`, `OpResult.Kept` and the like.

* `FieldReader` lemmas : what an accessor returns on a field table;
* `decodeAll_map`, `decodeStdMap_encodeStdMap` : the loops over arrays and maps;
* `decodeOpResult_encode` : every arm of an operation's result.
-/

namespace LibreAgent.Wire

open Bytes OrdMap CborValue

attribute [local simp] ofMap FieldReader.checked decodeOpResult

/-! ## Field readers on a field table -/

namespace FieldReader

variable {α : Type} {v : CborValue}

@[simp] lemma pure_apply (a : α) (m : CborMap) : (pure a : FieldReader α) m = (a, true) := rfl

@[simp] lemma bind_apply {β : Type} (r : FieldReader α) (f : α → FieldReader β) (m : CborMap) :
    (r >>= f) m =
      match r m with
      | (a, ok) =>
        match f a m with
        | (b, ok') => (b, ok && ok') := rfl

variable {as : CborValue → Option α}

@[simp] lemma readReq_some {a : α}
    (h : as v = some a) (dflt : α) : readReq as dflt (some v) = (a, true) := by
  rw [readReq, h]

@[simp] lemma readOpt_none (as : CborValue → Option α) : readOpt as none = (none, true) := rfl

@[simp] lemma readOpt_some {a : α} (h : as v = some a) : readOpt as (some v) = (some a, true) := by
  rw [readOpt, h]

lemma readOpt_map {f : α → CborValue}
    (h : ∀ a, as (f a) = some a) (o : Option α) : readOpt as (o.map f) = (o, true) := by
  cases o with
  | none => rfl
  | some a => rw [Option.map_some, readOpt_some (h a)]

section
variable (k : String) (m : CborMap)

@[simp] lemma text_apply : text k m = readReq asText [] (m.get k) := rfl
@[simp] lemma optText_apply : optText k m = readOpt asText (m.get k) := rfl
@[simp] lemma uint_apply : uint k m = readReq asUInt 0 (m.get k) := rfl
@[simp] lemma optInt64_apply : optInt64 k m = readOpt asInt (m.get k) := rfl
@[simp] lemma boolean_apply : boolean k m = readReq asBool false (m.get k) := rfl
@[simp] lemma optBool_apply : optBool k m = readOpt asBool (m.get k) := rfl
@[simp] lemma doubleField_apply : doubleField k m = readReq asDouble 0 (m.get k) := rfl
@[simp] lemma bytes_apply : bytes k m = readReq asBytes [] (m.get k) := rfl
@[simp] lemma map_apply : map k m = readReq asMap [] (m.get k) := rfl
@[simp] lemma array_apply : array k m = readReq asArray [] (m.get k) := rfl

end

@[simp] lemma readOpt_text (o : Option Bytes) :
    readOpt asText (o.map .text) = (o, true) := readOpt_map asText_text o

@[simp] lemma readOpt_bool (o : Option Bool) :
    readOpt asBool (o.map .bool) = (o, true) := readOpt_map asBool_bool o

@[simp] lemma readOpt_int (o : Option Int64) :
    readOpt asInt (o.map .int) = (o, true) := readOpt_map asInt_int o

def CounterOk (o : Option Int32) : Prop := ∀ n, o = some n → 0 ≤ n

lemma toNat_counter {n : Int32} (h : 0 ≤ n) : ¬ n.toInt64.toUInt64.toNat > 2 ^ 31 - 1 := by
  have h1 : (0 : Int64) ≤ n.toInt64 := by
    rw [Int64.le_iff_toInt_le, Int32.toInt_toInt64]
    rw [Int32.le_iff_toInt_le] at h
    simpa using h
  rw [Int64.toNat_toUInt64_of_le h1, ← Int64.toNat_toInt, Int32.toInt_toInt64]
  have h2 := Int32.toInt_lt n
  omega

/-- `u32` on what a lookup found -/
def readU32 (o : Option CborValue) : UInt32 × Bool :=
  match readReq asUInt 0 o with
  | (v, ok) => if v.toNat > 2 ^ 32 - 1 then (0, false) else (v.toUInt32, ok)

/-- `optInt` on what a lookup found -/
def readOptInt (o : Option CborValue) : Option Int32 × Bool :=
  match readOpt asUInt o with
  | (none, ok) => (none, ok)
  | (some v, ok) => if v.toNat > 2 ^ 31 - 1 then (none, false) else (some v.toInt64.toInt32, ok)

@[simp] lemma u32_apply (k : String) (m : CborMap) : u32 k m = readU32 (m.get k) := by
  rw [u32, bind_apply, uint_apply, readU32]
  rcases readReq asUInt 0 (m.get k) with ⟨v, ok⟩
  dsimp only
  split <;> simp [malformed]

@[simp] lemma optInt_apply (k : String) (m : CborMap) : optInt k m = readOptInt (m.get k) := by
  rw [optInt, bind_apply, optUint, optional, readOptInt]
  rcases readOpt asUInt (m.get k) with ⟨_ | v, ok⟩
  · simp
  · dsimp only
    split <;> simp [malformed]

@[simp] lemma readU32_toUInt64 (n : UInt32) : readU32 (some (.ofUInt64 n.toUInt64)) =
  (n, true) := by
  have h := n.toNat_lt
  rw [readU32, readReq_some (asUInt_ofUInt64 _)]
  dsimp only
  rw [UInt32.toNat_toUInt64, if_neg (by omega), UInt32.toUInt32_toUInt64]

@[simp] lemma readOptInt_counter {o : Option Int32} (ho : CounterOk o) :
    readOptInt (o.map encodeCounter) = (o, true) := by
  cases o with
  | none => rfl
  | some n =>
    have hn := toNat_counter (ho n rfl)
    rw [Option.map_some, encodeCounter, readOptInt, readOpt_some (asUInt_ofUInt64 _)]
    dsimp only
    rw [if_neg hn, Int64.toInt64_toUInt64, Int32.toInt32_toInt64]

end FieldReader

open FieldReader (CounterOk)

@[simp] lemma narrow32_toUInt64 (n : UInt32) : narrow32 n.toUInt64 = some n := by
  have h := n.toNat_lt
  rw [narrow32, UInt32.toNat_toUInt64, if_neg (by omega), UInt32.toUInt32_toUInt64]

@[simp] lemma narrow8_toUInt64 (n : UInt8) : narrow8 n.toUInt64 = some n := by
  have h := n.toNat_lt
  rw [narrow8, UInt8.toNat_toUInt64, if_neg (by omega), UInt8.toUInt8_toUInt64]

/-! ## Loops -/

variable {α : Type} {nfds : Nat}

lemma ofMap_eq_some {f : CborMap → Option α} {v : CborValue} {a : α}
    (h : ofMap f v = some a) : ∃ m, v = .map m ∧ f m = some a := by
  cases v with
  | map m => exact ⟨m, rfl, h⟩
  | _ => cases h

variable {f : CborValue → Option α} {g : α → CborValue}

lemma decodeAll_map {l : List α}
    (h : ∀ a ∈ l, f (g a) = some a) : decodeAll f (l.map g) = some l := by
  induction l with
  | nil => rfl
  | cons a l ih =>
    rw [List.map_cons, decodeAll, h a List.mem_cons_self, ih fun b hb =>
      h b (List.mem_cons_of_mem _ hb)]
    rfl

@[simp] lemma textArray_map (l : List Bytes) : textArray (l.map .text) = some l :=
  decodeAll_map fun _ _ => rfl

lemma decodeEntries_map {l : List (Bytes × α)} (h : ∀ p ∈ l, f (g p.2) = some p.2) :
    decodeEntries f (l.map fun p => (p.1, g p.2)) = some l := by
  induction l with
  | nil => rfl
  | cons p l ih =>
    rw [List.map_cons, decodeEntries, h p List.mem_cons_self, ih fun b hb =>
      h b (List.mem_cons_of_mem _ hb)]
    rfl

lemma decodeStdMap_encodeStdMap {m : StdMap α} (h : ∀ p ∈ m.entries, f (g p.2) = some p.2) :
    decodeStdMap f (encodeStdMap g m) = some m := by
  have he : encodeStdMap g m = (emplaceAll CanonicalKeyLess m.entries []).map fun p =>
    (p.1, g p.2) :=
    emplaceAll_map CanonicalKeyLess g m.entries []
  have hd :
      decodeEntries f (encodeStdMap g m) = some (emplaceAll CanonicalKeyLess m.entries []) := by
    rw [he]
    refine decodeEntries_map fun p hp => h p ?_
    exact (mem_emplaceAll CanonicalKeyLess hp).resolve_right List.not_mem_nil
  rw [decodeStdMap, hd]
  exact congrArg some (SortedMap.ofList_emplaceAll CanonicalKeyLess m)

/-! ## Records -/

@[simp] lemma readerInterfaceFromToken_token (i : ReaderInterface) :
    readerInterfaceFromToken (readerInterfaceToken i) = some i := by
  cases i <;> simp [readerInterfaceFromToken, readerInterfaceToken]

@[simp] lemma keyTypeFromToken_token (t : KeyType) : keyTypeFromToken (keyTypeToken t) = t := by
  cases t <;> simp [keyTypeFromToken, keyTypeToken]

/-- a reader without a model has no interface to report -/
def ReaderState.Labelled (r : ReaderState) : Prop := r.model = [] → r.iface = .unknown

lemma decodeReaderState_encode {r : ReaderState} (h : r.Labelled) :
    ofMap decodeReaderState (encodeReaderState r) = some r := by
  obtain ⟨handle, name, hasCard, card, model, iface⟩ := r
  by_cases hm : model = []
  · have hi : iface = .unknown := h hm
    subst hm hi
    simp [encodeReaderState, decodeReaderState]
  · simp [encodeReaderState, decodeReaderState, hm]

lemma decodeCardState_encode (c : CardState) :
    ofMap decodeCardState (encodeCardState c) = some c := by
  simp [encodeCardState, decodeCardState, decodePreReadAuth]

@[simp] lemma decodeCertField_encode (c : CertField) :
    (encodeCertField c).asArray.bind decodeCertField = some c := by
  simp [encodeCertField, decodeCertField]

variable (cells : StdMap CertField)

lemma decodeCertGroup_encode : decodeCertGroup (encodeCertGroup cells) = some cells := by
  rw [decodeCertGroup, encodeCertGroup]
  exact decodeStdMap_encodeStdMap fun p _ => decodeCertField_encode p.2

lemma decodeCertInfo_encode {ci : CertInfo} (h : ci.keyId ≠ []) :
    ofMap decodeCertInfo (encodeCertInfo ci) = some ci := by
  have hf : decodeStdMap decodeCertGroup (encodeStdMap encodeCertGroup ci.fields) =
    some ci.fields :=
    decodeStdMap_encodeStdMap fun p _ => decodeCertGroup_encode p.2
  simp [encodeCertInfo, decodeCertInfo, readCertInfoFields, arrOfText, h, hf]

lemma decodeSignMeta_encode (s : SignMeta) : ofMap decodeSignMeta (encodeSignMeta s) = some s := by
  simp [encodeSignMeta, decodeSignMeta]

lemma decodeSignResultFields_encode {r : SignResult} (h : r.artifact.toNat < nfds) :
    ofMap (decodeSignResultFields nfds) (encodeOpResult (.sign r)) = some r := by
  obtain ⟨m, hm, hd⟩ := ofMap_eq_some (decodeSignMeta_encode r.signMeta)
  simp [encodeOpResult, decodeSignResultFields, hm, hd, Nat.not_le.mpr h]

lemma decodeSignBatchRow_encode {r : SignBatchRow} (h : r.artifact.toNat < nfds) :
    ofMap (decodeSignBatchRow nfds) (encodeSignBatchRow r) = some r := by
  obtain ⟨m, hm, hd⟩ := ofMap_eq_some (decodeSignMeta_encode r.signMeta)
  simp [encodeSignBatchRow, decodeSignBatchRow, hm, hd, Nat.not_le.mpr h, decodeErrorCode]

lemma decodePhotoItem_encode {p : PhotoItem} (h : p.fd.toNat < nfds) :
    ofMap (decodePhotoItem nfds) (encodePhotoItem p) = some p := by
  simp [encodePhotoItem, decodePhotoItem, Nat.not_le.mpr h]

lemma decodeIdField_encode (c : IdentityField) :
    (encodeIdentityField c).asArray.bind decodeIdField = some c := by
  obtain ⟨labelKey, labelFallback, type, value⟩ := c
  cases value <;> simp [encodeIdentityField, encodeIdentityValue, decodeIdField,
      decodeIdentityValue, asText]

lemma decodeIdentityFieldsMap_encode (cells : StdMap IdentityField) :
    decodeIdentityFieldsMap (encodeIdentityFieldsMap cells) = some cells :=
  decodeStdMap_encodeStdMap fun p _ => decodeIdField_encode p.2

lemma decodeCredOutcome_token (o : CredentialOutcome) :
    decodeCredOutcome (credOutcomeToken o) = if o = .entryExpired then .unspecified else o := by
  cases o <;> simp [decodeCredOutcome, credOutcomeToken]

structure CredentialRecord.CountersOk (r : CredentialRecord) : Prop where
  retriesLeft : CounterOk r.retriesLeft
  retriesMax : CounterOk r.retriesMax
  usesLeft : CounterOk r.usesLeft
  usesMax : CounterOk r.usesMax
  unblocksLeft : CounterOk r.unblocksLeft

lemma decodeCredOpResult_encode {r : CredentialOpResult} (ho : r.outcome ≠ .entryExpired)
    (hr : CounterOk r.retriesLeft) : ofMap decodeCredOpResult (encodeCredResult r) = some r := by
  simp [encodeCredResult, decodeCredOpResult, decodeCredOutcome_token, ho, hr]

lemma decodeCredentialRecord_encode {r : CredentialRecord} (h : r.CountersOk) :
    ofMap decodeCredentialRecord (encodeCredRecord r) = some r := by
  simp [encodeCredRecord, decodeCredentialRecord, h.retriesLeft, h.retriesMax, h.usesLeft,
      h.usesMax, h.unblocksLeft]

/-! ## Results -/

/-- what a frame with `nfds` descriptors may carry: descriptor indexes in range, key ids that are
not empty, counters that are not negative -/
def OpResult.Carried (nfds : Nat) : OpResult → Prop
  | .identity _ => True
  | .photo photos => ∀ p ∈ photos, p.fd.toNat < nfds
  | .certificates certs => ∀ c ∈ certs, c.keyId ≠ []
  | .sign r => r.artifact.toNat < nfds
  | .signBatch rows => ∀ r ∈ rows, r.artifact.toNat < nfds
  | .credentials c => CounterOk c.result.retriesLeft ∧ ∀ r ∈ c.records, r.CountersOk

def OpResult.EntryExpired : OpResult → Prop
  | .credentials c => c.result.outcome = .entryExpired
  | _ => False

lemma decodeOpResult_encode {r : OpResult} (h : r.Carried nfds)
    (he : ¬ r.EntryExpired) : ofMap (decodeOpResult nfds) (encodeOpResult r) = some r := by
  cases r with
  | identity fields =>
    have hf : decodeStdMap (ofMap decodeIdentityFieldsMap)
        (encodeStdMap (fun c => .map (encodeIdentityFieldsMap c)) fields) = some fields :=
      decodeStdMap_encodeStdMap fun p _ => decodeIdentityFieldsMap_encode p.2
    rw [ofMap, encodeOpResult]
    simp [hf]
  | photo photos =>
    have hp : decodeAll (ofMap (decodePhotoItem nfds)) (photos.map encodePhotoItem) = some photos :=
      decodeAll_map fun p hp => decodePhotoItem_encode (h p hp)
    rw [ofMap, encodeOpResult]
    simp [hp]
  | certificates certs =>
    have hc : decodeAll (ofMap decodeCertInfo) (certs.map encodeCertInfo) = some certs :=
      decodeAll_map fun c hc => decodeCertInfo_encode (h c hc)
    rw [ofMap, encodeOpResult]
    simp [hc]
  | sign r =>
    have hr := decodeSignResultFields_encode h
    rw [ofMap, encodeOpResult, asMap_map, Option.bind_some] at hr ⊢
    simp [hr]
  | signBatch rows =>
    have hr : decodeAll (ofMap (decodeSignBatchRow nfds)) (rows.map encodeSignBatchRow)
        = some rows := decodeAll_map fun r hr => decodeSignBatchRow_encode (h r hr)
    rw [ofMap, encodeOpResult]
    simp [hr]
  | credentials c =>
    obtain ⟨hn, hre⟩ := h
    obtain ⟨m, hm, hd⟩ := ofMap_eq_some (decodeCredOpResult_encode he hn)
    have hs : decodeAll (ofMap decodeCredentialRecord) (c.records.map encodeCredRecord)
        = some c.records := decodeAll_map fun r hr => decodeCredentialRecord_encode (hre r hr)
    rw [ofMap, encodeOpResult]
    simp [hm, hd, hs]

/-! ## Built records -/

lemma built_encodeReaderState (r : ReaderState) : (encodeReaderState r).Built :=
  built_ofFields (by by_cases h : r.model = [] <;> simp [h])

lemma built_encodeCardState (c : CardState) : (encodeCardState c).Built := built_ofFields (by simp)

lemma built_encodeCertGroup : (encodeCertGroup cells).Built :=
  built_map (CborMap.ok_encodeStdMap fun p _ => .array _ (by simp))

lemma built_encodeCertInfo (ci : CertInfo) : (encodeCertInfo ci).Built := by
  have hf : (map (encodeStdMap encodeCertGroup ci.fields)).Built :=
    built_map (CborMap.ok_encodeStdMap fun p _ => built_encodeCertGroup p.2)
  exact built_ofFields (by simp [hf])

lemma built_encodeSignMeta (s : SignMeta) : (encodeSignMeta s).Built := built_ofFields (by simp)

lemma built_encodeSignBatchRow (r : SignBatchRow) : (encodeSignBatchRow r).Built :=
  built_ofFields (by simp [built_encodeSignMeta])

lemma built_encodePhotoItem (p : PhotoItem) : (encodePhotoItem p).Built := built_ofFields (by simp)

lemma built_encodeCounter (n : Int32) : (encodeCounter n).Built := .ofUInt64 _

lemma built_encodeCredResult (r : CredentialOpResult) : (encodeCredResult r).Built :=
  built_ofFields (by simp [built_encodeCounter])

lemma built_encodeCredRecord (r : CredentialRecord) : (encodeCredRecord r).Built :=
  built_ofFields (by simp [built_encodeCounter])

lemma built_encodeIdentityField (c : IdentityField) : (encodeIdentityField c).Built := by
  have hv : (encodeIdentityValue c.value).Built := by cases c.value <;> simp [encodeIdentityValue]
  exact .array _ (by simp [hv])

lemma ok_encodeIdentityFieldsMap (cells : StdMap IdentityField) :
    (encodeIdentityFieldsMap cells).Ok :=
  CborMap.ok_encodeStdMap fun p _ => built_encodeIdentityField p.2

lemma built_encodeOpResult (r : OpResult) : (encodeOpResult r).Built := by
  cases r with
  | identity fields =>
    have hf : (map (encodeStdMap (fun c => .map (encodeIdentityFieldsMap c)) fields)).Built :=
      built_map (CborMap.ok_encodeStdMap fun p _ =>
        built_map (ok_encodeIdentityFieldsMap p.2))
    exact built_ofFields (by simp [hf])
  | photo photos =>
    have hp := built_array_map fun p (_ : p ∈ photos) => built_encodePhotoItem p
    exact built_ofFields (by simp [hp])
  | certificates certs =>
    have hc := built_array_map fun c (_ : c ∈ certs) => built_encodeCertInfo c
    exact built_ofFields (by simp [hc])
  | sign r => exact built_ofFields (by simp [built_encodeSignMeta])
  | signBatch rows =>
    have hr := built_array_map fun r (_ : r ∈ rows) => built_encodeSignBatchRow r
    exact built_ofFields (by simp [hr])
  | credentials c =>
    have hr := built_array_map fun r (_ : r ∈ c.records) => built_encodeCredRecord r
    exact built_ofFields (by simp [hr, built_encodeCredResult])

end LibreAgent.Wire
