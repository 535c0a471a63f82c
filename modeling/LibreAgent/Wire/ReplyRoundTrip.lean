import LibreAgent.Wire.RecordRoundTrip

/-!
# Replies round-trip

The arms of a reply carry no tag of their own: the client picks the arm by the keys that are
present, in a fixed order.

* `get_mergeReply` : the keys of a reply are `t`, `req` and those of its arm;
* `parseReply_makeReply` : over the bytes, without NaN, within the caps and QCBOR's limits.
-/

namespace LibreAgent.Wire

open Bytes OrdMap FieldReader CborValue CborMap

attribute [local simp] checked decodeReplyArm replyArm decodeKeyedReply

@[simp] lemma get_mergeReply (req : UInt64) (arm : CborMap) (k : String) :
    (mergeReply req arm).get k =
      if k = "t" then some (.text (lit "Reply"))
      else if k = "req" then some (.ofUInt64 req)
      else arm.get k := by
  have h : (mergeReply req arm).get k = ((ofFields [field "t" (.text (lit "Reply")),
      field "req" (.ofUInt64 req)]).get k).or (arm.get k) := find_emplaceAll _ _ _ _
  rw [h, get_ofFields, lookupField_field, lookupField_field, lookupField_nil]
  by_cases h1 : k = "t"
  · rw [if_pos h1, if_pos h1]
    rfl
  · by_cases h2 : k = "req"
    · rw [if_neg h1, if_neg h1, if_pos h2, if_pos h2]
      rfl
    · rw [if_neg h1, if_neg h1, if_neg h2, if_neg h2]
      rfl

lemma decodeSyncError_name (e : SyncError) : decodeSyncError (syncErrorName e) = e := by
  cases e <;> simp [decodeSyncError, allSyncErrors, syncErrorName]

lemma decodeErrInfo_encode (e : ErrInfo) : decodeErrInfo (encodeErrInfo e) = some e := by
  obtain ⟨code, msgKey, msgFallback⟩ := e
  cases code with
  | code c =>
    simp [decodeErrInfo, encodeErrInfo, encodeErrInfoCode, decodeErrInfoCode, has, decodeErrorCode]
  | name n =>
    simp [decodeErrInfo, encodeErrInfo, encodeErrInfoCode, decodeErrInfoCode, has,
      decodeSyncError_name]

namespace Reply

def Built : Reply → Prop
  | config entries => ∀ p ∈ entries.entries, p.2.Built
  | _ => True

/-- what a frame with `nfds` descriptors may carry: descriptor indexes in range, key ids that are
not empty, an EC key on a supported curve with coordinates of its width -/
def Carried (nfds : Nat) : Reply → Prop
  | certList certs => ∀ c ∈ certs, c.keyId ≠ []
  | appearanceFont fd => fd.toNat < nfds
  | signRecovery r => r.artifact.toNat < nfds
  | publicKey (.ec crv x y) =>
    ∃ c ∈ kNistCurves, c.crv = crv ∧ x.length = c.fieldBytes ∧ y.length = c.fieldBytes
  | _ => True

def Labelled : Reply → Prop
  | state readers _ => ∀ r ∈ readers, r.Labelled
  | _ => True

variable {r : Reply}

lemma decodeReplyArm_replyArm {nfds : Nat} (req : UInt64) (hc : r.Carried nfds) (hl : r.Labelled) :
    decodeReplyArm nfds (mergeReply req (replyArm r)) = some (.known r) := by
  cases r with
  | helloAck agentVer features =>
    simp [decodeKindReply, decodeHelloAck, arrOfText]
  | opStarted op =>
    simp [has, decodeOpStarted]
  | state readers cards =>
    have hr : decodeAll (ofMap decodeReaderState) (readers.map encodeReaderState) = some readers :=
      decodeAll_map fun r hr => decodeReaderState_encode (hl r hr)
    have hcs : decodeAll (ofMap decodeCardState) (cards.map encodeCardState) = some cards :=
      decodeAll_map fun c _ => decodeCardState_encode c
    simp [has, decodeStateReply, hr, hcs]
  | certList certs =>
    have hcs : decodeAll (ofMap decodeCertInfo) (certs.map encodeCertInfo) = some certs :=
      decodeAll_map fun c h => decodeCertInfo_encode (hc c h)
    simp [has, decodeCertListReply, hcs]
  | certDer der =>
    simp [has, decodeCertDerReply]
  | publicKey pk =>
    cases pk with
    | rsa n e =>
      simp [has, decodePublicKeyReply]
    | ec crv x y =>
      obtain ⟨c, hme, rfl, hx, hy⟩ := hc
      have hf : nistCurveByName c.crv = some c := by
        simp only [kNistCurves, List.mem_cons, List.not_mem_nil, or_false] at hme
        rcases hme with rfl | rfl | rfl <;> simp [nistCurveByName, kNistCurves]
      simp [has, decodePublicKeyReply, hf, hx, hy]
  | config entries =>
    have he : decodeStdMap some (encodeStdMap id entries) = some entries :=
      decodeStdMap_encodeStdMap fun _ _ => rfl
    simp [has, decodeConfigReply, he]
  | ack =>
    simp [has, decodeAckReply]
  | loginState active =>
    simp [has, decodeLoginStateReply]
  | rawSignature sig =>
    simp [has, decodeRawSignatureReply]
  | derivedSecret z =>
    simp [has, decodeDerivedSecretReply]
  | layout fontSize lineHeight lines clipped =>
    simp [decodeKindReply, decodeLayoutReply, arrOfText]
  | appearanceFont fd =>
    have hfd : ¬ nfds ≤ fd.toNat := Nat.not_le.mpr hc
    simp [has, decodeAppearanceFontReply, hfd]
  | cscaAnchorState a =>
    simp [decodeKindReply, decodeCscaAnchorStateReply, encodeCscaAnchorState]
  | signRecovery r =>
    obtain ⟨m, hm, hd⟩ := ofMap_eq_some (decodeSignResultFields_encode hc)
    simp [has, hm, hd]
  | error e =>
    simp [decodeErrInfo_encode]

lemma ok_replyArm (h : r.Built) : (replyArm r).Ok := by
  cases r with
  | state readers cards =>
    have hr := built_array_map fun r (_ : r ∈ readers) => built_encodeReaderState r
    have hc := built_array_map fun c (_ : c ∈ cards) => built_encodeCardState c
    exact ok_ofFields (by simp [hr, hc])
  | certList certs =>
    have hc := built_array_map fun c (_ : c ∈ certs) => built_encodeCertInfo c
    exact ok_ofFields (by simp [hc])
  | publicKey pk => cases pk <;> exact ok_ofFields (by simp)
  | config entries =>
    have he : (map (encodeStdMap id entries)).Built := built_map (ok_encodeStdMap h)
    exact ok_ofFields (by simp [he])
  | cscaAnchorState a =>
    have ha : (encodeCscaAnchorState a).Ok := ok_ofFields (by simp)
    exact ha.emplace (lit "kind") (.text _)
  | signRecovery r => exact ok_ofFields (by simp [built_encodeOpResult])
  | error e =>
    have he : (map (encodeErrInfo e)).Built := by
      refine built_ofFields ?_
      cases e.code <;> simp [encodeErrInfoCode]
    exact ok_ofFields (by simp [he])
  | _ => exact ok_ofFields (by simp)

lemma built_makeReply (req : UInt64) (h : r.Built) : (makeReply req r).Built := built_map
    (ok_emplaceAll (ok_ofFields (by simp)) (ok_replyArm h).built)

lemma parseReply_encode {q : Qcbor} (hq : Documented q) (req : UInt64) (fds : List Int)
    (hb : r.Built) (hn : (makeReply req r).noNaN = true) (hc : (makeReply req r).InCaps)
    (hl : (makeReply req r).InLimits) :
    parseReply q ((makeReply req r).encode q) fds
      = (decodeReplyArm fds.length (mergeReply req (replyArm r))).map (DecodedReply.mk req) := by
  rw [parseReply, decode_encode hq (built_makeReply req hb) hn hc.items hl]
  show parseReplyMap fds.length (mergeReply req (replyArm r)) = _
  simp only [parseReplyMap, checked]
  cases decodeReplyArm fds.length (mergeReply req (replyArm r)) <;> simp

/-- **A reply comes back from its encoding**, with its request id and its arm. -/
theorem parseReply_makeReply (q : Qcbor) (hq : Documented q) (req : UInt64) (r : Reply)
    (fds : List Int) (hb : r.Built) (hn : (makeReply req r).noNaN = true)
    (hf : r.Carried fds.length) (hcaps : (makeReply req r).InCaps)
    (hlim : (makeReply req r).InLimits) (hl : r.Labelled) :
    parseReply q ((makeReply req r).encode q) fds = some ⟨req, .known r⟩ := by
  rw [parseReply_encode hq req fds hb hn hcaps hlim, decodeReplyArm_replyArm req hf hl]
  rfl

def zeroPoint : Reply :=
  publicKey (.ec (lit "P-256") (List.replicate 32 0) (List.replicate 32 0))

theorem parseReply_makeReply_zeroPoint : Documented reference ∧
      parseReply reference ((makeReply 7 zeroPoint).encode reference) []
        = some ⟨7, .known zeroPoint⟩ :=
  ⟨reference_documented, parseReply_makeReply reference reference_documented 7 zeroPoint
      [] trivial rfl
      ⟨⟨lit "P-256", 32⟩, by simp [kNistCurves], rfl, rfl, rfl⟩ ⟨by decide, by decide⟩
      ⟨by decide, by decide⟩ trivial⟩

def unlabelledState (i : ReaderInterface) : Reply :=
  state [⟨lit "r0", lit "Reader", false, none, [], i⟩] []

def deepConfig : Reply :=
  config (.ofList [(lit "k", nestedArrays 13)])

/-- the interface of a reader without a model is not sent; sixteen nested containers are within
the caps and are not encoded -/
theorem parseReply_makeReply_fails : ((unlabelledState .contact).Built ∧
      (unlabelledState .contact).Carried 0 ∧
      (makeReply 7 (unlabelledState .contact)).InCaps ∧
      parseReply reference ((makeReply 7 (unlabelledState .contact)).encode reference) []
        = some ⟨7, .known (unlabelledState .unknown)⟩) ∧
    (deepConfig.Built ∧ deepConfig.Carried 0 ∧ (makeReply 7 deepConfig).InCaps ∧
      parseReply reference ((makeReply 7 deepConfig).encode reference) [] = none) := by
  refine ⟨⟨trivial, trivial, ⟨by decide, by decide⟩, ?_⟩, ⟨?_, trivial, ⟨by decide, by decide⟩, ?_⟩⟩
  · rw [parseReply_encode (r := unlabelledState .contact) reference_documented 7 [] trivial rfl
      ⟨by decide, by decide⟩ ⟨by decide, by decide⟩]
    have hl : (unlabelledState .unknown).Labelled := by
      simp [unlabelledState, Labelled, ReaderState.Labelled]
    have h : decodeReplyArm 0 (mergeReply 7 (replyArm (unlabelledState .unknown)))
        = some (.known (unlabelledState .unknown)) := decodeReplyArm_replyArm 7 trivial hl
    -- the two readers have the same encoding
    exact congrArg (Option.map (DecodedReply.mk 7)) h
  · intro p hp
    obtain rfl | h := (mem_emplaceAll lexLess hp).elim List.mem_singleton.mp (fun h => by cases h)
    exact built_nestedArrays 13
  · rw [encode_too_deep reference_documented (by decide)]
    rfl

end Reply

end LibreAgent.Wire
