import LibreAgent.Wire.RecordRoundTrip

/-!
# Events round-trip

* `parseEventMap_toCbor` : the client reads every event kind back from its map;
* `parseEvent_toCbor` : over the bytes, without NaN, within the caps and QCBOR's limits.

Two values do not survive.  A reader without a model is sent without its interface, since an empty
model means that there is no label.  An expired credential entry is sent as `entryExpired`, a token
`decodeCredOutcome` has no line for.
-/

namespace LibreAgent.Wire

open Bytes OrdMap FieldReader CborValue CborMap

attribute [local simp] checked parseEventMap decodeTaggedEvent

namespace Event

def Built : Event → Prop
  | propertyChanged e => ∀ p ∈ e.props.entries, p.2.Built
  | _ => True

/-- the event fits a frame with `nfds` descriptors -/
def Carried (nfds : Nat) : Event → Prop
  | opResultReady _ r => r.Carried nfds
  | _ => True

def Labelled : Event → Prop
  | readerAdded r => r.Labelled
  | _ => True

def EntryExpired : Event → Prop
  | opResultReady _ r => r.EntryExpired
  | _ => False

variable {e : Event}

lemma parseEventMap_toCbor {nfds : Nat} (hc : e.Carried nfds) (hl : e.Labelled)
    (he : ¬ e.EntryExpired) : ofMap (parseEventMap nfds) e.toCbor = some (.known e) := by
  cases e with
  | readerAdded r =>
    obtain ⟨m, hm, hd⟩ := ofMap_eq_some (decodeReaderState_encode hl)
    simp [ofMap, toCbor, decodeReaderAdded, hm, hd]
  | cardAdded c =>
    obtain ⟨m, hm, hd⟩ := ofMap_eq_some (decodeCardState_encode c)
    simp [ofMap, toCbor, decodeCardAdded, hm, hd]
  | propertyChanged e =>
    have hp : decodeStdMap some (encodeStdMap id e.props) = some e.props :=
      decodeStdMap_encodeStdMap fun _ _ => rfl
    simp [ofMap, toCbor, decodePropertyChanged, hp]
  | opIdentityGroup op groupKey fields =>
    simp [ofMap, toCbor, decodeOpIdentityGroup, decodeIdentityFieldsMap_encode]
  | opResultReady op result =>
    obtain ⟨m, hm, hd⟩ := ofMap_eq_some (decodeOpResult_encode hc he)
    simp [ofMap, toCbor, decodeOpResultReady, hm, hd]
  | readerRemoved handle =>
    simp [ofMap, toCbor, decodeReaderRemoved]
  | cardRemoved handle =>
    simp [ofMap, toCbor, decodeCardRemoved]
  | configChanged key =>
    simp [ofMap, toCbor, decodeConfigChanged]
  | opProgress op phase =>
    simp [ofMap, toCbor, decodeOpProgress, decodeOperationPhase]
  | opFinished e =>
    simp [ofMap, toCbor, decodeOpFinished, decodeOperationStatus, decodeErrorCode]
  | agentQuiesced reason =>
    simp [ofMap, toCbor, decodeAgentQuiesced, decodeQuiesceReason]

lemma built_toCbor (h : e.Built) : e.toCbor.Built := by
  cases e with
  | readerAdded r =>
    exact built_map (ok_tagged _ (by simp [built_encodeReaderState]))
  | cardAdded c => exact built_map (ok_tagged _ (by simp [built_encodeCardState]))
  | propertyChanged e =>
    have hp : (map (encodeStdMap id e.props)).Built := built_map (ok_encodeStdMap h)
    exact built_map (ok_tagged _ (by simp [hp]))
  | opIdentityGroup op groupKey fields =>
    have hf := built_map (ok_encodeIdentityFieldsMap fields)
    exact built_map (ok_tagged _ (by simp [hf]))
  | opResultReady op result =>
    exact built_map (ok_tagged _ (by simp [built_encodeOpResult]))
  | _ => exact built_map (ok_tagged _ (by simp))

lemma parseEvent_encode {q : Qcbor} (hq : Documented q) (fds : List Int) (hb : e.Built)
    (hn : e.toCbor.noNaN = true) (hc : e.toCbor.InCaps) (hl : e.toCbor.InLimits) :
    parseEvent q (e.toCbor.encode q) fds = ofMap (parseEventMap fds.length) e.toCbor := by
  rw [parseEvent, decode_encode hq (built_toCbor hb) hn hc.items hl]
  rfl

/-- **An event comes back from its encoding.** -/
theorem parseEvent_toCbor (q : Qcbor) (hq : Documented q) (e : Event) (fds : List Int)
    (hb : e.Built) (hn : e.toCbor.noNaN = true) (hf : e.Carried fds.length)
    (hcaps : e.toCbor.InCaps) (hlim : e.toCbor.InLimits) (hl : e.Labelled) (he : ¬ e.EntryExpired) :
    parseEvent q (e.toCbor.encode q) fds = some (.known e) := by
  rw [parseEvent_encode hq fds hb hn hcaps hlim]
  exact parseEventMap_toCbor hf hl he

def blockedCredential : Event :=
  opResultReady 3 (.credentials ⟨⟨.blocked, some 0, true⟩, []⟩)

theorem parseEvent_toCbor_blockedCredential : Documented reference ∧
      parseEvent reference (blockedCredential.toCbor.encode reference) []
        = some (.known blockedCredential) :=
  ⟨reference_documented, parseEvent_toCbor reference reference_documented blockedCredential
      [] trivial rfl
      ⟨by simp [CounterOk], by simp⟩ ⟨by decide, by decide⟩ ⟨by decide, by decide⟩ trivial
      (by simp [blockedCredential, EntryExpired, OpResult.EntryExpired])⟩

def unlabelledReader (i : ReaderInterface) : Event :=
  readerAdded ⟨lit "r0", lit "Reader", false, none, [], i⟩

def credentialResult (o : CredentialOutcome) : Event :=
  opResultReady 3 (.credentials ⟨⟨o, none, false⟩, []⟩)

def deepProperty : Event :=
  propertyChanged ⟨lit "c0", lit "Card1", .ofList [(lit "k", nestedArrays 13)]⟩

/-- the interface of a reader without a model is not sent; an expired entry is read as an
unspecified outcome; sixteen nested containers are within the caps and are not encoded -/
theorem parseEvent_toCbor_fails : ((unlabelledReader .contact).Built ∧
      (unlabelledReader .contact).Carried 0 ∧
      (unlabelledReader .contact).toCbor.InCaps ∧
      parseEvent reference ((unlabelledReader .contact).toCbor.encode reference) []
        = some (.known (unlabelledReader .unknown))) ∧
    ((credentialResult .entryExpired).Built ∧ (credentialResult .entryExpired).Carried 0 ∧
      (credentialResult .entryExpired).toCbor.InCaps ∧
      parseEvent reference ((credentialResult .entryExpired).toCbor.encode reference) []
        = some (.known (credentialResult .unspecified))) ∧
    (deepProperty.Built ∧ deepProperty.Carried 0 ∧ deepProperty.toCbor.InCaps ∧
      parseEvent reference (deepProperty.toCbor.encode reference) [] = none) := by
  refine ⟨⟨trivial, trivial, ⟨by decide, by decide⟩, ?_⟩,
    ⟨trivial, ⟨by simp [CounterOk], by simp⟩, ⟨by decide, by decide⟩, ?_⟩,
    ⟨?_, trivial, ⟨by decide, by decide⟩, ?_⟩⟩
  · rw [parseEvent_encode (e := unlabelledReader .contact) reference_documented [] trivial rfl
      ⟨by decide, by decide⟩ ⟨by decide, by decide⟩]
    exact parseEventMap_toCbor (e := unlabelledReader .unknown) trivial (fun _ => rfl) id
  · rw [parseEvent_encode (e := credentialResult .entryExpired) reference_documented [] trivial rfl
      ⟨by decide, by decide⟩ ⟨by decide, by decide⟩]
    simp [credentialResult, ofMap, toCbor, decodeOpResultReady, encodeOpResult, decodeOpResult,
      encodeCredResult, decodeCredOpResult, decodeCredOutcome_token, decodeAll, readOptInt]
  · intro p hp
    obtain rfl | h := (mem_emplaceAll lexLess hp).elim List.mem_singleton.mp (fun h => by cases h)
    exact built_nestedArrays 13
  · rw [encode_too_deep reference_documented (by decide)]
    rfl

end Event

end LibreAgent.Wire
