import LibreAgent.Wire.Messages

/-!
# The client role of the codec (`ClientCodec.cpp`)

* `decodeOpResult`, `decodeErrInfo` and the decoders of the shared records.
-/

namespace LibreAgent.Wire

open Bytes OrdMap CborValue

/-! ## Field access -/

def FieldReader (α : Type) := CborMap → α × Bool

namespace FieldReader

instance : Monad FieldReader where
  pure a := fun _ => (a, true)
  bind r f := fun m =>
    match r m with
    | (a, ok) =>
      match f a m with
      | (b, ok') => (b, ok && ok')

/-- `if (!r.ok()) { return std::nullopt; }` after the accesses -/
def checked {α : Type} (r : FieldReader α) (m : CborMap) : Option α :=
  match r m with
  | (a, true) => some a
  | (_, false) => none

def malformed {α : Type} (a : α) : FieldReader α := fun _ => (a, false)

/-- a required value: absent is malformed, and so is one `as` refuses -/
def readReq {α : Type} (as : CborValue → Option α) (dflt : α) : Option CborValue → α × Bool
  | none => (dflt, false)
  | some v =>
    match as v with
    | none => (dflt, false)
    | some a => (a, true)

/-- an optional value: only one that is there and `as` refuses is malformed -/
def readOpt {α : Type} (as : CborValue → Option α) : Option CborValue → Option α × Bool
  | none => (none, true)
  | some v =>
    match as v with
    | none => (none, false)
    | some a => (some a, true)

def required {α : Type} (as : CborValue → Option α) (dflt : α) (k : String) : FieldReader α :=
  fun m => readReq as dflt (m.get k)

def optional {α : Type} (as : CborValue → Option α) (k : String) : FieldReader (Option α) :=
  fun m => readOpt as (m.get k)

variable (k : String)

def text : FieldReader Bytes := required asText [] k
def optText : FieldReader (Option Bytes) := optional asText k
def uint : FieldReader UInt64 := required asUInt 0 k
def optUint : FieldReader (Option UInt64) := optional asUInt k
def optInt64 : FieldReader (Option Int64) := optional asInt k
def boolean : FieldReader Bool := required asBool false k
def optBool : FieldReader (Option Bool) := optional asBool k
def doubleField : FieldReader Double := required asDouble 0 k
def bytes : FieldReader Bytes := required asBytes [] k
def map : FieldReader CborMap := required asMap [] k
def array : FieldReader (List CborValue) := required asArray [] k
/-- a uint field that fits `std::uint32_t` -/
def u32 : FieldReader UInt32 := do
  let v ← uint k
  if v.toNat > 2 ^ 32 - 1 then malformed 0 else pure v.toUInt32

/-- an optional uint field that fits `int` -/
def optInt : FieldReader (Option Int32) := do
  let v ← optUint k
  match v with
  | none => pure none
  | some v => if v.toNat > 2 ^ 31 - 1 then malformed none else pure (some v.toInt64.toInt32)

end FieldReader

open FieldReader (checked text optText uint optInt64 boolean optBool doubleField bytes u32 optInt)

variable (m : CborMap)

def has (k : String) : Bool := (m.get k).isSome
def decodeAll {α : Type} (f : CborValue → Option α) : List CborValue → Option (List α)
  | [] => some []
  | v :: vs =>
    match f v with
    | none => none
    | some a => (decodeAll f vs).map (a :: ·)

def ofMap {α : Type} (f : CborMap → Option α) (v : CborValue) : Option α := v.asMap.bind f

def textArray (a : List CborValue) : Option (List Bytes) := decodeAll asText a

def decodeEntries {α : Type} (f : CborValue → Option α) : CborMap → Option (List (Bytes × α))
  | [] => some []
  | (k, v) :: m =>
    match f v with
    | none => none
    | some a => (decodeEntries f m).map ((k, a) :: ·)

/-- the entries emplaced into a `std::map` -/
def decodeStdMap {α : Type} (f : CborValue → Option α) (m : CborMap) : Option (StdMap α) :=
  (decodeEntries f m).map SortedMap.ofList

/-! ## Enums -/

variable (v : UInt64)

def narrow32 : Option UInt32 := if v.toNat > 2 ^ 32 - 1 then none else some v.toUInt32
def narrow8 : Option UInt8 := if v.toNat > 2 ^ 8 - 1 then none else some v.toUInt8
def decodeErrorCode : Option ErrorCode := (narrow32 v).map .mk
def decodeOperationPhase : Option OperationPhase := (narrow32 v).map .mk
def decodeOperationStatus : Option OperationStatus := (narrow32 v).map .mk
def decodePreReadAuth : Option PreReadAuth := (narrow8 v).map .mk
def decodeQuiesceReason : Option QuiesceReason := (narrow8 v).map .mk
/-- an unrecognised token degrades to `unspecified` -/
def decodeCredOutcome (s : Bytes) : CredentialOutcome :=
  if s = lit "unspecified" then .unspecified
  else if s = lit "ok" then .ok
  else if s = lit "userCancelled" then .userCancelled
  else if s = lit "missingFields" then .missingFields
  else if s = lit "invalidPin" then .invalidPin
  else if s = lit "blocked" then .blocked
  else if s = lit "pluginError" then .pluginError
  else if s = lit "unsupported" then .unsupported
  else if s = lit "keyActivationFailed" then .keyActivationFailed
  else if s = lit "cardRemoved" then .cardRemoved
  else .unspecified

/-! ## Shared records -/

def decodeReaderState : CborMap → Option ReaderState :=
  checked do
    let handle ← text "handle"
    let name ← text "name"
    let hasCard ← boolean "hasCard"
    let card ← optText "card"
    let model ← optText "model"
    let iface ← optText "interface"
    pure ⟨handle, name, hasCard, card, model.getD [],
      (iface.bind readerInterfaceFromToken).getD .unknown⟩

def decodeCardState : Option CardState := do
  let (handle, reader, caps, preAuthRaw, cardType, atr) ← checked (do
    let handle ← text "handle"
    let reader ← text "reader"
    let caps ← u32 "caps"
    let preAuthRaw ← uint "preAuth"
    let cardType ← optText "cardType"
    let atr ← optText "atr"
    pure (handle, reader, caps, preAuthRaw, cardType, atr)) m
  let preAuth ← decodePreReadAuth preAuthRaw
  some ⟨handle, reader, caps, preAuth, cardType, atr⟩

def decodeCertField : List CborValue → Option CertField
  | [a, b, c] => do
    let labelKey ← a.asText
    let labelFallback ← b.asText
    let value ← c.asText
    some ⟨labelKey, labelFallback, value⟩
  | _ => none

def decodeCertGroup (v : CborValue) : Option (StdMap CertField) := do
  let inner ← v.asMap
  decodeStdMap (fun cell => cell.asArray.bind decodeCertField) inner

/-- the fields of a certificate before the nested values are decoded -/
structure CertInfoFields where
  certId : Bytes
  signingCapable : Bool
  fields : CborMap
  keyUsageBits : UInt32
  ekus : List CborValue
  chainSubjectCns : List CborValue
  trustStatus : UInt32
  alwaysAuthenticate : Bool
  keyId : Bytes
  keyType : KeyType
  keyBits : UInt32
  canDerive : Bool

def readCertInfoFields : FieldReader CertInfoFields := do
  let certId ← text "certId"
  let signingCapable ← boolean "signingCapable"
  let fields ← FieldReader.map "fields"
  let keyUsageBits ← u32 "keyUsageBits"
  let ekus ← FieldReader.array "ekus"
  let chainSubjectCns ← FieldReader.array "chainSubjectCns"
  let trustStatus ← u32 "trustStatus"
  let alwaysAuthenticate ← boolean "alwaysAuthenticate"
  let keyId ← bytes "keyId"
  let keyType ← text "keyType"
  let keyBits ← u32 "keyBits"
  let canDerive ← boolean "canDerive"
  pure ⟨certId, signingCapable, fields, keyUsageBits, ekus, chainSubjectCns, trustStatus,
    alwaysAuthenticate, keyId, keyTypeFromToken keyType, keyBits, canDerive⟩

def decodeCertInfo : Option CertInfo := do
  let r ← checked readCertInfoFields m
  -- the key id is never empty on the wire
  if r.keyId = [] then none
  else
    let fields ← decodeStdMap decodeCertGroup r.fields
    let ekus ← textArray r.ekus
    let chainSubjectCns ← textArray r.chainSubjectCns
    some ⟨r.certId, r.signingCapable, fields, r.keyUsageBits, ekus, chainSubjectCns, r.trustStatus,
      r.alwaysAuthenticate, r.keyId, r.keyType, r.keyBits, r.canDerive⟩

def decodeSignMeta : CborMap → Option SignMeta :=
  checked do
    let format ← text "format"
    let level ← text "level"
    let tsaUsed ← boolean "tsaUsed"
    let chainComplete ← boolean "chainComplete"
    pure ⟨format, level, tsaUsed, chainComplete⟩

variable (nfds : Nat)

/-- `nfds` is the number of descriptors of the frame -/
def decodeSignResultFields (m : CborMap) : Option SignResult := do
  let (kind, artifact, metaMap) ← checked (do
    let kind ← text "kind"
    let artifact ← uint "artifact"
    let metaMap ← FieldReader.map "meta"
    pure (kind, artifact, metaMap)) m
  if kind ≠ lit "Sign" then none
  else if artifact.toNat ≥ nfds then none
  else
    let signMeta ← decodeSignMeta metaMap
    some ⟨artifact, signMeta⟩

def decodeSignBatchRow (m : CborMap) : Option SignBatchRow := do
  let (displayName, artifact, metaMap, codeRaw) ← checked (do
    let displayName ← text "displayName"
    let artifact ← uint "artifact"
    let metaMap ← FieldReader.map "meta"
    let codeRaw ← uint "errorCode"
    pure (displayName, artifact, metaMap, codeRaw)) m
  if artifact.toNat ≥ nfds then none
  else
    let signMeta ← decodeSignMeta metaMap
    let code ← decodeErrorCode codeRaw
    some ⟨displayName, artifact, signMeta, code⟩

def decodePhotoItem (m : CborMap) : Option PhotoItem := do
  let (key, fd) ← checked (do
    let key ← text "key"
    let fd ← uint "fd"
    pure (key, fd)) m
  if fd.toNat ≥ nfds then none else some ⟨key, fd⟩

def decodeIdentityValue (v : CborValue) : Option IdentityValue :=
  match v.asText with
  | some s => some (.text s)
  | none => v.asBytes.map .bytes

def decodeIdField : List CborValue → Option IdentityField
  | [a, b, c, d] => do
    let labelKey ← a.asText
    let labelFallback ← b.asText
    let type ← c.asText
    let value ← decodeIdentityValue d
    some ⟨labelKey, labelFallback, type, value⟩
  | _ => none

def decodeCredOpResult : CborMap → Option CredentialOpResult :=
  checked do
    let outcome ← text "outcome"
    let retriesLeft ← optInt "retriesLeft"
    let blocked ← boolean "blocked"
    pure ⟨decodeCredOutcome outcome, retriesLeft, blocked⟩

def decodeCredentialRecord : CborMap → Option CredentialRecord :=
  checked do
    let id ← text "id"
    let label ← text "label"
    let kind ← text "kind"
    let state ← text "state"
    let retriesLeft ← optInt "retriesLeft"
    let retriesMax ← optInt "retriesMax"
    let usesLeft ← optInt "usesLeft"
    let usesMax ← optInt "usesMax"
    let unblocksLeft ← optInt "unblocksLeft"
    let canChange ← boolean "canChange"
    let unblockable ← boolean "unblockable"
    let activatable ← boolean "activatable"
    let keyActivationPending ← boolean "keyActivationPending"
    let keyActivatable ← boolean "keyActivatable"
    let recovery ← text "recovery"
    let blockedGuidanceKey ← optText "blockedGuidanceKey"
    let blockedGuidanceFallback ← optText "blockedGuidanceFallback"
    let keyActivationGuidanceKey ← optText "keyActivationGuidanceKey"
    let keyActivationGuidanceFallback ← optText "keyActivationGuidanceFallback"
    pure ⟨id, label, kind, state, retriesLeft, retriesMax, usesLeft, usesMax, unblocksLeft,
      canChange, unblockable, activatable, keyActivationPending, keyActivatable, recovery,
      blockedGuidanceKey, blockedGuidanceFallback, keyActivationGuidanceKey,
      keyActivationGuidanceFallback⟩

/-! ## Results -/

def decodeIdentityFieldsMap (fields : CborMap) : Option (StdMap IdentityField) :=
  decodeStdMap (fun v => v.asArray.bind decodeIdField) fields

def decodeOpResult (m : CborMap) : Option OpResult := do
  let kind ← checked (text "kind") m
  if kind = lit "Identity" then
    let fields ← checked (FieldReader.map "fields") m
    let groups ← decodeStdMap (ofMap decodeIdentityFieldsMap) fields
    some (.identity groups)
  else if kind = lit "Photo" then
    let photos ← checked (FieldReader.array "photos") m
    let items ← decodeAll (ofMap (decodePhotoItem nfds)) photos
    some (.photo items)
  else if kind = lit "Certificates" then
    let certs ← checked (FieldReader.array "certs") m
    let infos ← decodeAll (ofMap decodeCertInfo) certs
    some (.certificates infos)
  else if kind = lit "Sign" then
    let r ← decodeSignResultFields nfds m
    some (.sign r)
  else if kind = lit "SignBatch" then
    let rowsArr ← checked (FieldReader.array "rows") m
    let rows ← decodeAll (ofMap (decodeSignBatchRow nfds)) rowsArr
    some (.signBatch rows)
  else if kind = lit "Credentials" then
    let (resultMap, recordsArr) ← checked (do
      let resultMap ← FieldReader.map "result"
      let recordsArr ← FieldReader.array "records"
      pure (resultMap, recordsArr)) m
    let result ← decodeCredOpResult resultMap
    let records ← decodeAll (ofMap decodeCredentialRecord) recordsArr
    some (.credentials ⟨result, records⟩)
  else none

/-! ## Replies -/

def decodeHelloAck : Option Reply := do
  let (agentVer, featuresArr) ← checked (do
    let agentVer ← text "agentVer"
    let featuresArr ← FieldReader.array "features"
    pure (agentVer, featuresArr)) m
  let features ← textArray featuresArr
  some (.helloAck agentVer features)

def decodeOpStarted : Option Reply := (checked (uint "op") m).map .opStarted
def decodeStateReply : Option Reply := do
  let (readersArr, cardsArr) ← checked (do
    let readersArr ← FieldReader.array "readers"
    let cardsArr ← FieldReader.array "cards"
    pure (readersArr, cardsArr)) m
  let readers ← decodeAll (ofMap decodeReaderState) readersArr
  let cards ← decodeAll (ofMap decodeCardState) cardsArr
  some (.state readers cards)

def decodeCertListReply : Option Reply := do
  let certsArr ← checked (FieldReader.array "certs") m
  let certs ← decodeAll (ofMap decodeCertInfo) certsArr
  some (.certList certs)

def decodeCertDerReply : Option Reply := (checked (bytes "der") m).map .certDer
/-- both arms share `kty`: they are told apart by its value -/
def decodePublicKeyReply : Option Reply := do
  let kty ← checked (text "kty") m
  if kty = lit "RSA" then
    let (n, e) ← checked (do
      let n ← bytes "n"
      let e ← bytes "e"
      pure (n, e)) m
    some (.publicKey (.rsa n e))
  else if kty = lit "EC" then
    let (crv, x, y) ← checked (do
      let crv ← text "crv"
      let x ← bytes "x"
      let y ← bytes "y"
      pure (crv, x, y)) m
    let curve ← nistCurveByName crv
    if x.length ≠ curve.fieldBytes ∨ y.length ≠ curve.fieldBytes then none
    else some (.publicKey (.ec crv x y))
  else none

def decodeConfigReply : Option Reply := do
  let entries ← checked (FieldReader.map "entries") m
  let copied ← decodeStdMap some entries
  some (.config copied)

def decodeAckReply : Option Reply := do
  let ok ← checked (boolean "ok") m
  if ok then some .ack else none

def decodeLoginStateReply : Option Reply :=
  (checked (boolean "active") m).map .loginState

def decodeRawSignatureReply : Option Reply :=
  (checked (bytes "sig") m).map .rawSignature

def decodeDerivedSecretReply : Option Reply :=
  (checked (bytes "z") m).map .derivedSecret

def decodeLayoutReply : Option Reply := do
  let (fontSize, lineHeight, linesArr, clipped) ← checked (do
    let fontSize ← doubleField "fontSize"
    let lineHeight ← doubleField "lineHeight"
    let linesArr ← FieldReader.array "lines"
    let clipped ← boolean "clipped"
    pure (fontSize, lineHeight, linesArr, clipped)) m
  let lines ← textArray linesArr
  some (.layout fontSize lineHeight lines clipped)

def decodeAppearanceFontReply (m : CborMap) : Option Reply := do
  let fd ← checked (uint "fd") m
  if fd.toNat ≥ nfds then none else some (.appearanceFont fd)

def decodeCscaAnchorStateReply : Option Reply :=
  checked (do
    let anchors ← uint "anchors"
    let issuers ← uint "issuers"
    let replayRefusalActive ← boolean "replayRefusalActive"
    let signer ← optText "signer"
    let signerPinned ← optBool "signerPinned"
    let acceptedAt ← optInt64 "acceptedAt"
    let signedAt ← optInt64 "signedAt"
    pure (.cscaAnchorState
      ⟨anchors, issuers, replayRefusalActive, signer, signerPinned, acceptedAt, signedAt⟩)) m

/-- the code of an error: exactly one of `code` and `name` -/
def decodeErrInfoCode : Option ErrInfoCode :=
  if has m "code" = has m "name" then none
  else if has m "code" then do
    let raw ← checked (uint "code") m
    let c ← decodeErrorCode raw
    some (.code c)
  else do
    let raw ← checked (text "name") m
    some (.name (decodeSyncError raw))

def decodeErrInfo : Option ErrInfo := do
  let code ← decodeErrInfoCode m
  let (msgKey, msgFallback) ← checked (do
    let msgKey ← optText "msgKey"
    let msgFallback ← optText "msgFallback"
    pure (msgKey, msgFallback)) m
  some ⟨code, msgKey, msgFallback⟩

/-- a reply by its arm, or a shape this build does not recognise -/
inductive ReplyVariant where
  | known (r : Reply)
  | unknownReply

structure DecodedReply where
  req : UInt64
  reply : ReplyVariant

/-- the arm a map without `err` and `kind` selects, by the keys that are present -/
def decodeKeyedReply (m : CborMap) : Option ReplyVariant :=
  if has m "op" then (decodeOpStarted m).map .known
  else if has m "fd" then (decodeAppearanceFontReply nfds m).map .known
  else if has m "readers" && has m "cards" then (decodeStateReply m).map .known
  else if has m "certs" then (decodeCertListReply m).map .known
  else if has m "der" then (decodeCertDerReply m).map .known
  else if has m "kty" then (decodePublicKeyReply m).map .known
  else if has m "entries" then (decodeConfigReply m).map .known
  else if has m "ok" then (decodeAckReply m).map .known
  else if has m "active" then (decodeLoginStateReply m).map .known
  else if has m "sig" then (decodeRawSignatureReply m).map .known
  else if has m "z" then (decodeDerivedSecretReply m).map .known
  else
    match m.get "result" with
    | some v => (v.asMap.bind (decodeSignResultFields nfds)).map fun r => .known (.signRecovery r)
    | none => some .unknownReply

/-- the arms tagged by `kind` -/
def decodeKindReply (kind : CborValue) (m : CborMap) : Option ReplyVariant :=
  if kind.asText = some (lit "HelloAck") then (decodeHelloAck m).map .known
  else if kind.asText = some (lit "Layout") then (decodeLayoutReply m).map .known
  else if kind.asText = some (lit "CscaAnchorState") then (decodeCscaAnchorStateReply m).map .known
  else none

/-- the error arm first, then `kind`, then the keys -/
def decodeReplyArm (m : CborMap) : Option ReplyVariant :=
  match m.get "err" with
  | some v => (v.asMap.bind decodeErrInfo).map fun e => .known (.error e)
  | none =>
    match m.get "kind" with
    | some kind => decodeKindReply kind m
    | none => decodeKeyedReply nfds m

def parseReplyMap (m : CborMap) : Option DecodedReply := do
  let (tag, req) ← checked (do
    let tag ← text "t"
    let req ← uint "req"
    pure (tag, req)) m
  if tag ≠ lit "Reply" then none
  else
    let reply ← decodeReplyArm nfds m
    some ⟨req, reply⟩

def parseReply (q : Qcbor) (body : Bytes) (fds : List Int) : Option DecodedReply :=
  match decode q body with
  | .error _ => none
  | .ok v => v.asMap.bind (parseReplyMap fds.length)

/-! ## Events -/

def decodeReaderAdded : Option Event := do
  let readerMap ← checked (FieldReader.map "reader") m
  let reader ← decodeReaderState readerMap
  some (.readerAdded reader)

def decodeReaderRemoved : Option Event :=
  (checked (text "handle") m).map .readerRemoved

def decodeCardAdded : Option Event := do
  let cardMap ← checked (FieldReader.map "card") m
  let card ← decodeCardState cardMap
  some (.cardAdded card)

def decodeCardRemoved : Option Event :=
  (checked (text "handle") m).map .cardRemoved

def decodePropertyChanged : Option Event := do
  let (handle, iface, propsMap) ← checked (do
    let handle ← text "handle"
    let iface ← text "iface"
    let propsMap ← FieldReader.map "props"
    pure (handle, iface, propsMap)) m
  let props ← decodeStdMap some propsMap
  some (.propertyChanged ⟨handle, iface, props⟩)

def decodeConfigChanged : Option Event :=
  (checked (text "key") m).map .configChanged

def decodeOpProgress : Option Event := do
  let (op, phaseRaw) ← checked (do
    let op ← uint "op"
    let phaseRaw ← uint "phase"
    pure (op, phaseRaw)) m
  let phase ← decodeOperationPhase phaseRaw
  some (.opProgress op phase)

def decodeOpIdentityGroup : Option Event := do
  let (op, groupKey, fields) ← checked (do
    let op ← uint "op"
    let groupKey ← text "groupKey"
    let fields ← FieldReader.map "fields"
    pure (op, groupKey, fields)) m
  let cells ← decodeIdentityFieldsMap fields
  some (.opIdentityGroup op groupKey cells)

def decodeOpResultReady (m : CborMap) : Option Event := do
  let (op, resultMap) ← checked (do
    let op ← uint "op"
    let resultMap ← FieldReader.map "result"
    pure (op, resultMap)) m
  let result ← decodeOpResult nfds resultMap
  some (.opResultReady op result)

def decodeOpFinished : Option Event := do
  let (op, statusRaw, codeRaw, msgKey, msgFallback) ← checked (do
    let op ← uint "op"
    let statusRaw ← uint "status"
    let codeRaw ← uint "code"
    let msgKey ← text "msgKey"
    let msgFallback ← text "msgFallback"
    pure (op, statusRaw, codeRaw, msgKey, msgFallback)) m
  let status ← decodeOperationStatus statusRaw
  let code ← decodeErrorCode codeRaw
  some (.opFinished ⟨op, status, code, msgKey, msgFallback⟩)

def decodeAgentQuiesced : Option Event := do
  let reasonRaw ← checked (uint "reason") m
  let reason ← decodeQuiesceReason reasonRaw
  some (.agentQuiesced reason)

inductive DecodedEvent where
  | known (e : Event)
  | unknownEvent

def decodeTaggedEvent (tag : Bytes) (m : CborMap) : Option DecodedEvent :=
  if tag = lit "ReaderAdded" then (decodeReaderAdded m).map .known
  else if tag = lit "ReaderRemoved" then (decodeReaderRemoved m).map .known
  else if tag = lit "CardAdded" then (decodeCardAdded m).map .known
  else if tag = lit "CardRemoved" then (decodeCardRemoved m).map .known
  else if tag = lit "PropertyChanged" then (decodePropertyChanged m).map .known
  else if tag = lit "ConfigChanged" then (decodeConfigChanged m).map .known
  else if tag = lit "OpProgress" then (decodeOpProgress m).map .known
  else if tag = lit "OpIdentityGroup" then (decodeOpIdentityGroup m).map .known
  else if tag = lit "OpResultReady" then (decodeOpResultReady nfds m).map .known
  else if tag = lit "OpFinished" then (decodeOpFinished m).map .known
  else if tag = lit "AgentQuiesced" then (decodeAgentQuiesced m).map .known
  else some .unknownEvent

def parseEventMap (m : CborMap) : Option DecodedEvent := do
  let tag ← checked (text "t") m
  decodeTaggedEvent nfds tag m

def parseEvent (q : Qcbor) (body : Bytes) (fds : List Int) : Option DecodedEvent :=
  match decode q body with
  | .error _ => none
  | .ok v => v.asMap.bind (parseEventMap fds.length)

end LibreAgent.Wire
