import LibreAgent.Wire.Types

/-!
# The server role of the codec (`Messages.cpp`)

* `parseRequest` : the strict request parser.
-/

namespace LibreAgent.Wire

open Bytes OrdMap

/-! ## Maps at literal keys -/

namespace CborMap

/-- `m.emplace("k", v)` -/
def put (m : CborMap) (k : String) (v : CborValue) : CborMap :=
  emplace CanonicalKeyLess (lit k) v m

/-- `m.find("k")` -/
def get (m : CborMap) (k : String) : Option CborValue := OrdMap.find (lit k) m

end CborMap

abbrev Field := String × Option CborValue

/-- `m.emplace("k", v)` -/
def field (k : String) (v : CborValue) : Field := (k, some v)

/-- `if (o) { m.emplace("k", *o); }` -/
def optField (k : String) (o : Option CborValue) : Field := (k, o)

def ofFields (fs : List Field) : CborMap :=
  fs.foldl (fun m f => emplaceOpt CanonicalKeyLess (lit f.1) f.2 m) []

/-- a `std::map` copied entry by entry into a wire map -/
def encodeStdMap {α : Type} (f : α → CborValue) (m : StdMap α) : CborMap :=
  emplaceAll CanonicalKeyLess (m.entries.map fun p => (p.1, f p.2)) []

/-! ## Field accessors -/

/-- an optional field: absent is no value, a value `as` refuses is an error -/
def readOptional {α : Type} (as : CborValue → Option α) :
    Option CborValue → Except WireError (Option α)
  | none => .ok none
  | some v =>
    match as v with
    | none => .error .wrongType
    | some a => .ok (some a)

section
variable (m : CborMap) (k : String)

/-- a required field: absent is an error, and so is a value `as` refuses -/
def required {α : Type} (as : CborValue → Option α) : Except WireError α :=
  match m.get k with
  | none => .error .missingField
  | some v =>
    match as v with
    | none => .error .wrongType
    | some a => .ok a

def fText : Except WireError Bytes := required m k CborValue.asText
def fUint : Except WireError UInt64 := required m k CborValue.asUInt
def fBytes : Except WireError Bytes := required m k CborValue.asBytes
def fDouble : Except WireError Double := required m k CborValue.asDouble
def fOptText : Except WireError (Option Bytes) := readOptional CborValue.asText (m.get k)
def fOptBool : Except WireError (Option Bool) := readOptional CborValue.asBool (m.get k)

end

def asMapOrWrongType (v : CborValue) : Except WireError CborMap :=
  match v.asMap with
  | none => .error .wrongType
  | some m => .ok m

def parseVisualSignatureOpts (v : CborValue) : Except WireError VisualSignatureOpts := do
  let m ← asMapOrWrongType v
  let page ← fUint m "page"
  let x ← fDouble m "x"
  let y ← fDouble m "y"
  let width ← fDouble m "width"
  let height ← fDouble m "height"
  let text ← fText m "text"
  .ok ⟨page, x, y, width, height, text⟩

variable (m : CborMap)

def parseVisualSignature : Except WireError (Option VisualSignatureOpts) :=
  match m.get "visualSignature" with
  | none => .ok none
  | some v => (parseVisualSignatureOpts v).map some

def parseSignOpts (v : CborValue) : Except WireError SignOpts := do
  let m ← asMapOrWrongType v
  let format ← fText m "format"
  let level ← fText m "level"
  let packaging ← fText m "packaging"
  let allowExpired ← fOptBool m "allowExpired"
  let displayName ← fOptText m "displayName"
  let reason ← fOptText m "reason"
  let location ← fOptText m "location"
  let tsaUrl ← fOptText m "tsaUrl"
  let visualSignature ← parseVisualSignature m
  .ok ⟨format, level, packaging, allowExpired, displayName, reason, location, tsaUrl,
    visualSignature⟩

def parseBatchDocument (v : CborValue) : Except WireError BatchDocument := do
  let m ← asMapOrWrongType v
  let name ← fText m "name"
  let fdIndex ← fUint m "fdIndex"
  .ok ⟨name, fdIndex⟩

def parseDocs : List CborValue → Except WireError (List BatchDocument)
  | [] => .ok []
  | v :: vs => do
    let doc ← parseBatchDocument v
    let docs ← parseDocs vs
    .ok (doc :: docs)

/-! ## Encoders of the shared records -/

def arrOfText (v : List Bytes) : CborValue := .array (v.map .text)

def encodeVisualSignatureOpts (v : VisualSignatureOpts) : CborValue :=
  .map (ofFields [
    field "page" (.ofUInt64 v.page),
    field "x" (.double v.x),
    field "y" (.double v.y),
    field "width" (.double v.width),
    field "height" (.double v.height),
    field "text" (.text v.text)])

def encodeSignOpts (o : SignOpts) : CborValue :=
  .map (ofFields [
    field "format" (.text o.format),
    field "level" (.text o.level),
    field "packaging" (.text o.packaging),
    optField "allowExpired" (o.allowExpired.map .bool),
    optField "displayName" (o.displayName.map .text),
    optField "reason" (o.reason.map .text),
    optField "location" (o.location.map .text),
    optField "tsaUrl" (o.tsaUrl.map .text),
    optField "visualSignature" (o.visualSignature.map encodeVisualSignatureOpts)])

/-- an empty model means no label: then neither `model` nor `interface` is written -/
def encodeReaderState (r : ReaderState) : CborValue :=
  let labelled := r.model ≠ []
  .map (ofFields [
    field "handle" (.text r.handle),
    field "name" (.text r.name),
    field "hasCard" (.bool r.hasCard),
    optField "card" (r.card.map .text),
    optField "model" (if labelled then some (.text r.model) else none),
    optField "interface" (if labelled then some (.text (readerInterfaceToken r.iface)) else none)])

def encodeCardState (c : CardState) : CborValue :=
  .map (ofFields [
    field "handle" (.text c.handle),
    field "reader" (.text c.reader),
    field "caps" (.ofUInt64 c.caps.toUInt64),
    field "preAuth" (.ofUInt64 c.preAuth.raw.toUInt64),
    optField "cardType" (c.cardType.map .text),
    optField "atr" (c.atr.map .text)])

def encodeCertField (cell : CertField) : CborValue :=
  .array [.text cell.labelKey, .text cell.labelFallback, .text cell.value]

def encodeCertGroup (cells : StdMap CertField) : CborValue :=
  .map (encodeStdMap encodeCertField cells)

def encodeCertInfo (ci : CertInfo) : CborValue :=
  .map (ofFields [
    field "certId" (.text ci.certId),
    field "signingCapable" (.bool ci.signingCapable),
    field "fields" (.map (encodeStdMap encodeCertGroup ci.fields)),
    field "keyUsageBits" (.ofUInt64 ci.keyUsageBits.toUInt64),
    field "ekus" (arrOfText ci.ekus),
    field "chainSubjectCns" (arrOfText ci.chainSubjectCns),
    field "trustStatus" (.ofUInt64 ci.trustStatus.toUInt64),
    field "alwaysAuthenticate" (.bool ci.alwaysAuthenticate),
    field "keyId" (.bytes ci.keyId),
    field "keyType" (.text (keyTypeToken ci.keyType)),
    field "keyBits" (.ofUInt64 ci.keyBits.toUInt64),
    field "canDerive" (.bool ci.canDerive)])

def encodeSignMeta (s : SignMeta) : CborValue :=
  .map (ofFields [
    field "format" (.text s.format),
    field "level" (.text s.level),
    field "tsaUsed" (.bool s.tsaUsed),
    field "chainComplete" (.bool s.chainComplete)])

def encodeBatchDocument (d : BatchDocument) : CborValue :=
  .map (ofFields [field "name" (.text d.name), field "fdIndex" (.ofUInt64 d.fdIndex)])

def encodeSignBatchRow (r : SignBatchRow) : CborValue :=
  .map (ofFields [
    field "displayName" (.text r.displayName),
    field "artifact" (.ofUInt64 r.artifact),
    field "meta" (encodeSignMeta r.signMeta),
    field "errorCode" (.ofUInt64 r.code.raw.toUInt64)])

def credOutcomeToken : CredentialOutcome → Bytes
  | .unspecified => lit "unspecified"
  | .ok => lit "ok"
  | .userCancelled => lit "userCancelled"
  | .missingFields => lit "missingFields"
  | .invalidPin => lit "invalidPin"
  | .blocked => lit "blocked"
  | .pluginError => lit "pluginError"
  | .unsupported => lit "unsupported"
  | .keyActivationFailed => lit "keyActivationFailed"
  | .cardRemoved => lit "cardRemoved"
  | .entryExpired => lit "entryExpired"

/-- `CborValue::uint(static_cast<std::uint64_t>(n))` of an `int`: the cast extends the sign -/
def encodeCounter (n : Int32) : CborValue := .ofUInt64 n.toInt64.toUInt64

def encodeCredResult (r : CredentialOpResult) : CborValue :=
  .map (ofFields [
    field "outcome" (.text (credOutcomeToken r.outcome)),
    optField "retriesLeft" (r.retriesLeft.map encodeCounter),
    field "blocked" (.bool r.blocked)])

def encodeCredRecord (rec : CredentialRecord) : CborValue :=
  .map (ofFields [
    field "id" (.text rec.id),
    field "label" (.text rec.label),
    field "kind" (.text rec.kind),
    field "state" (.text rec.state),
    optField "retriesLeft" (rec.retriesLeft.map encodeCounter),
    optField "retriesMax" (rec.retriesMax.map encodeCounter),
    optField "usesLeft" (rec.usesLeft.map encodeCounter),
    optField "usesMax" (rec.usesMax.map encodeCounter),
    optField "unblocksLeft" (rec.unblocksLeft.map encodeCounter),
    field "canChange" (.bool rec.canChange),
    field "unblockable" (.bool rec.unblockable),
    field "activatable" (.bool rec.activatable),
    field "keyActivationPending" (.bool rec.keyActivationPending),
    field "keyActivatable" (.bool rec.keyActivatable),
    field "recovery" (.text rec.recovery),
    optField "blockedGuidanceKey" (rec.blockedGuidanceKey.map .text),
    optField "blockedGuidanceFallback" (rec.blockedGuidanceFallback.map .text),
    optField "keyActivationGuidanceKey" (rec.keyActivationGuidanceKey.map .text),
    optField "keyActivationGuidanceFallback" (rec.keyActivationGuidanceFallback.map .text)])

def encodeIdentityValue : IdentityValue → CborValue
  | .text s => .text s
  | .bytes b => .bytes b

def encodeIdentityField (cell : IdentityField) : CborValue :=
  .array [.text cell.labelKey, .text cell.labelFallback, .text cell.type,
    encodeIdentityValue cell.value]

def encodeIdentityFieldsMap (cells : StdMap IdentityField) : CborMap :=
  encodeStdMap encodeIdentityField cells

def encodePhotoItem (p : PhotoItem) : CborValue :=
  .map (ofFields [field "key" (.text p.key), field "fd" (.ofUInt64 p.fd)])

def encodeOpResult : OpResult → CborValue
  | .identity fields =>
    .map (ofFields [
      field "kind" (.text (lit "Identity")),
      field "fields" (.map (encodeStdMap (fun c => .map (encodeIdentityFieldsMap c)) fields))])
  | .photo photos =>
    .map (ofFields [
      field "kind" (.text (lit "Photo")),
      field "photos" (.array (photos.map encodePhotoItem))])
  | .certificates certs =>
    .map (ofFields [
      field "kind" (.text (lit "Certificates")),
      field "certs" (.array (certs.map encodeCertInfo))])
  | .sign r =>
    .map (ofFields [
      field "kind" (.text (lit "Sign")),
      field "artifact" (.ofUInt64 r.artifact),
      field "meta" (encodeSignMeta r.signMeta)])
  | .signBatch rows =>
    .map (ofFields [
      field "kind" (.text (lit "SignBatch")),
      field "rows" (.array (rows.map encodeSignBatchRow))])
  | .credentials c =>
    .map (ofFields [
      field "kind" (.text (lit "Credentials")),
      field "result" (encodeCredResult c.result),
      field "records" (.array (c.records.map encodeCredRecord))])

/-! ## Requests -/

def tagged (t : String) (fs : List Field) : CborMap := ofFields (field "t" (.text (lit t)) :: fs)

/-- the body of a request before `req` is added -/
def encodeRequestBody : Request → CborMap
  | .hello proto wantsEvents =>
    -- written only to opt out of events
    tagged "Hello" [field "proto" (.ofUInt64 proto),
      optField "wantsEvents" (if wantsEvents then none else some (.bool false))]
  | .getState => tagged "GetState" []
  | .readIdentity card => tagged "ReadIdentity" [field "card" (.text card)]
  | .getPhoto card => tagged "GetPhoto" [field "card" (.text card)]
  | .readCertificates card => tagged "ReadCertificates" [field "card" (.text card)]
  | .readTokenInfo card => tagged "ReadTokenInfo" [field "card" (.text card)]
  | .sign card cert inFd opts =>
    tagged "Sign" [field "card" (.text card),
      field "cert" (.text cert),
      field "in" (.ofUInt64 inFd),
      field "opts" (encodeSignOpts opts)]
  | .signBatch card cert docs opts =>
    tagged "SignBatch" [field "card" (.text card),
      field "cert" (.text cert),
      field "docs" (.array (docs.map encodeBatchDocument)),
      field "opts" (encodeSignOpts opts)]
  | .getCertDer reader cert =>
    tagged "GetCertDer" [field "reader" (.text reader),
      field "cert" (.text cert)]
  | .getConfig => tagged "GetConfig" []
  | .setConfig key value => tagged "SetConfig" [field "key" (.text key),
    field "value" value]
  | .resetConfig key => tagged "ResetConfig" [field "key" (.text key)]
  | .cancelOp op => tagged "CancelOp" [field "op" (.ofUInt64 op)]
  | .getSignResult op => tagged "GetSignResult" [field "op" (.ofUInt64 op)]
  | .pkLogin reader => tagged "Pkcs11.Login" [field "reader" (.text reader)]
  | .pkLogout reader => tagged "Pkcs11.Logout" [field "reader" (.text reader)]
  | .pkLoginState reader => tagged "Pkcs11.LoginState" [field "reader" (.text reader)]
  | .pkPublicKey reader cert =>
    tagged "Pkcs11.PublicKey" [field "reader" (.text reader),
      field "cert" (.text cert)]
  | .pkSignRaw reader cert mech data =>
    tagged "Pkcs11.SignRaw" [field "reader" (.text reader),
      field "cert" (.text cert),
      field "mech" (.text mech),
      field "data" (.bytes data)]
  | .pkDecrypt reader cert mech data =>
    tagged "Pkcs11.Decrypt" [field "reader" (.text reader),
      field "cert" (.text cert),
      field "mech" (.text mech),
      field "data" (.bytes data)]
  | .pkDerive reader cert data =>
    tagged "Pkcs11.Derive" [field "reader" (.text reader),
      field "cert" (.text cert),
      field "data" (.bytes data)]
  | .listCredentials card => tagged "ListCredentials" [field "card" (.text card)]
  | .managePin card pinId verb activateKey =>
    tagged "ManagePin" [field "card" (.text card),
      field "pinId" (.text pinId),
      field "verb" (.text verb),
      optField "activateKey" (activateKey.map .bool)]
  | .activateSigningKey card => tagged "ActivateSigningKey" [field "card" (.text card)]
  | .layoutVisual text x y width height =>
    tagged "LayoutVisual" [field "text" (.text text),
      field "x" (.double x),
      field "y" (.double y),
      field "width" (.double width),
      field "height" (.double height)]
  | .getAppearanceFont => tagged "GetAppearanceFont" []
  | .importCscaMasterList list => tagged "ImportCscaMasterList" [field "list" (.ofUInt64 list)]

/-- `toCbor(RequestEnvelope)` -/
def RequestEnvelope.toCbor (env : RequestEnvelope) : CborValue :=
  .map ((encodeRequestBody env.body).put "req" (.ofUInt64 env.req))

def fAny (k : String) : Except WireError CborValue :=
  match m.get k with
  | none => .error .missingField
  | some v => .ok v

/-- the three raw-crypto requests; `mech` is not read for a derivation -/
def parseRawCrypto (t : Bytes) : Except WireError Request := do
  let reader ← fText m "reader"
  let cert ← fText m "cert"
  let mech ← if t ≠ lit "Pkcs11.Derive" then fText m "mech" else .ok []
  let data ← fBytes m "data"
  if t = lit "Pkcs11.SignRaw" then .ok (.pkSignRaw reader cert mech data)
  else if t = lit "Pkcs11.Decrypt" then .ok (.pkDecrypt reader cert mech data)
  else .ok (.pkDerive reader cert data)

def parseBody (t : Bytes) : Except WireError Request :=
  if t = lit "Hello" then do
    let proto ← fUint m "proto"
    let wantsEvents ← fOptBool m "wantsEvents"
    .ok (.hello proto (wantsEvents.getD true))
  else if t = lit "GetState" then .ok .getState
  else if t = lit "ReadIdentity" then (fText m "card").map .readIdentity
  else if t = lit "GetPhoto" then (fText m "card").map .getPhoto
  else if t = lit "ReadCertificates" then (fText m "card").map .readCertificates
  else if t = lit "ReadTokenInfo" then (fText m "card").map .readTokenInfo
  else if t = lit "Sign" then do
    let card ← fText m "card"
    let cert ← fText m "cert"
    let inFd ← fUint m "in"
    let optsVal ← fAny m "opts"
    let opts ← parseSignOpts optsVal
    .ok (.sign card cert inFd opts)
  else if t = lit "SignBatch" then do
    let card ← fText m "card"
    let cert ← fText m "cert"
    let docsArr ← required m "docs" CborValue.asArray
    let docs ← parseDocs docsArr
    let optsVal ← fAny m "opts"
    let opts ← parseSignOpts optsVal
    .ok (.signBatch card cert docs opts)
  else if t = lit "GetCertDer" then do
    let reader ← fText m "reader"
    let cert ← fText m "cert"
    .ok (.getCertDer reader cert)
  else if t = lit "GetConfig" then .ok .getConfig
  else if t = lit "SetConfig" then do
    let key ← fText m "key"
    let value ← fAny m "value"
    .ok (.setConfig key value)
  else if t = lit "ResetConfig" then (fText m "key").map .resetConfig
  else if t = lit "CancelOp" then (fUint m "op").map .cancelOp
  else if t = lit "GetSignResult" then (fUint m "op").map .getSignResult
  else if t = lit "Pkcs11.Login" then (fText m "reader").map .pkLogin
  else if t = lit "Pkcs11.Logout" then (fText m "reader").map .pkLogout
  else if t = lit "Pkcs11.LoginState" then (fText m "reader").map .pkLoginState
  else if t = lit "Pkcs11.PublicKey" then do
    let reader ← fText m "reader"
    let cert ← fText m "cert"
    .ok (.pkPublicKey reader cert)
  else if t = lit "Pkcs11.SignRaw" ∨ t = lit "Pkcs11.Decrypt" ∨ t = lit "Pkcs11.Derive" then
    parseRawCrypto m t
  else if t = lit "ListCredentials" then (fText m "card").map .listCredentials
  else if t = lit "ManagePin" then do
    let card ← fText m "card"
    let pinId ← fText m "pinId"
    let verb ← fText m "verb"
    let activateKey ← fOptBool m "activateKey"
    .ok (.managePin card pinId verb activateKey)
  else if t = lit "ActivateSigningKey" then (fText m "card").map .activateSigningKey
  else if t = lit "LayoutVisual" then do
    let text ← fText m "text"
    let x ← fDouble m "x"
    let y ← fDouble m "y"
    let width ← fDouble m "width"
    let height ← fDouble m "height"
    .ok (.layoutVisual text x y width height)
  else if t = lit "GetAppearanceFont" then .ok .getAppearanceFont
  else if t = lit "ImportCscaMasterList" then (fUint m "list").map .importCscaMasterList
  else .error .unknownMessage

/-- the `t` of a request: absent is its own error -/
def fTag : Except WireError Bytes :=
  match fText m "t" with
  | .ok t => .ok t
  | .error .missingField => .error .noTag
  | .error e => .error e

def parseRequestMap : Except WireError RequestEnvelope := do
  let req ← fUint m "req"
  let t ← fTag m
  let body ← parseBody m t
  .ok ⟨req, body⟩

def parseRequest (q : Qcbor) (body : Bytes) : Except WireError RequestEnvelope :=
  match decode q body with
  | .error _ => .error .notDecodable
  | .ok v =>
    match v.asMap with
    | none => .error .notAMap
    | some m => parseRequestMap m

/-! ## Replies -/

/-- `makeReplyBase` and `mergeInto`: the arm's entries emplaced after `t` and `req` -/
def mergeReply (req : UInt64) (arm : CborMap) : CborMap :=
  emplaceAll CanonicalKeyLess arm
    (ofFields [field "t" (.text (lit "Reply")), field "req" (.ofUInt64 req)])

/-- the members of the anchor state, shared with the configuration entry of that name -/
def encodeCscaAnchorState (a : CscaAnchorStateReply) : CborMap :=
  ofFields [
    field "anchors" (.ofUInt64 a.anchors),
    field "issuers" (.ofUInt64 a.issuers),
    field "replayRefusalActive" (.bool a.replayRefusalActive),
    optField "signer" (a.signer.map .text),
    optField "signerPinned" (a.signerPinned.map .bool),
    optField "acceptedAt" (a.acceptedAt.map .int),
    optField "signedAt" (a.signedAt.map .int)]

def encodeErrInfoCode : ErrInfoCode → Field
  | .code c => field "code" (.ofUInt64 c.raw.toUInt64)
  | .name n => field "name" (.text (syncErrorName n))

def encodeErrInfo (e : ErrInfo) : CborMap :=
  ofFields [
    encodeErrInfoCode e.code,
    optField "msgKey" (e.msgKey.map .text),
    optField "msgFallback" (e.msgFallback.map .text)]

def replyArm : Reply → CborMap
  | .helloAck agentVer features =>
    ofFields [
      field "kind" (.text (lit "HelloAck")),
      field "agentVer" (.text agentVer),
      field "features" (arrOfText features)]
  | .opStarted op => ofFields [field "op" (.ofUInt64 op)]
  | .state readers cards =>
    ofFields [
      field "readers" (.array (readers.map encodeReaderState)),
      field "cards" (.array (cards.map encodeCardState))]
  | .certList certs => ofFields [field "certs" (.array (certs.map encodeCertInfo))]
  | .certDer der => ofFields [field "der" (.bytes der)]
  | .publicKey (.rsa n e) =>
    ofFields [field "kty" (.text (lit "RSA")), field "n" (.bytes n), field "e" (.bytes e)]
  | .publicKey (.ec crv x y) =>
    ofFields [
      field "kty" (.text (lit "EC")),
      field "crv" (.text crv),
      field "x" (.bytes x),
      field "y" (.bytes y)]
  | .config entries => ofFields [field "entries" (.map (encodeStdMap id entries))]
  | .ack => ofFields [field "ok" (.bool true)]
  | .loginState active => ofFields [field "active" (.bool active)]
  | .rawSignature sig => ofFields [field "sig" (.bytes sig)]
  | .derivedSecret z => ofFields [field "z" (.bytes z)]
  | .layout fontSize lineHeight lines clipped =>
    ofFields [
      field "kind" (.text (lit "Layout")),
      field "fontSize" (.double fontSize),
      field "lineHeight" (.double lineHeight),
      field "lines" (arrOfText lines),
      field "clipped" (.bool clipped)]
  | .appearanceFont fd => ofFields [field "fd" (.ofUInt64 fd)]
  | .cscaAnchorState a =>
    (encodeCscaAnchorState a).put "kind" (.text (lit "CscaAnchorState"))
  | .signRecovery r => ofFields [field "result" (encodeOpResult (.sign r))]
  | .error e => ofFields [field "err" (.map (encodeErrInfo e))]

/-- `makeReply`, `makeSignRecoveryReply` and `makeErrorReply` -/
def makeReply (req : UInt64) (r : Reply) : CborValue := .map (mergeReply req (replyArm r))

/-! ## Events -/

/-- `toCbor` of the event types -/
def Event.toCbor : Event → CborValue
  | .readerAdded reader => .map (tagged "ReaderAdded" [field "reader" (encodeReaderState reader)])
  | .readerRemoved handle => .map (tagged "ReaderRemoved" [field "handle" (.text handle)])
  | .cardAdded card => .map (tagged "CardAdded" [field "card" (encodeCardState card)])
  | .cardRemoved handle => .map (tagged "CardRemoved" [field "handle" (.text handle)])
  | .propertyChanged e =>
    .map (tagged "PropertyChanged" [field "handle" (.text e.handle),
      field "iface" (.text e.iface),
      field "props" (.map (encodeStdMap id e.props))])
  | .configChanged key => .map (tagged "ConfigChanged" [field "key" (.text key)])
  | .opProgress op phase =>
    .map (tagged "OpProgress" [field "op" (.ofUInt64 op),
      field "phase" (.ofUInt64 phase.raw.toUInt64)])
  | .opIdentityGroup op groupKey fields =>
    .map (tagged "OpIdentityGroup" [field "op" (.ofUInt64 op),
      field "groupKey" (.text groupKey),
      field "fields" (.map (encodeIdentityFieldsMap fields))])
  | .opResultReady op result =>
    .map (tagged "OpResultReady" [field "op" (.ofUInt64 op),
      field "result" (encodeOpResult result)])
  | .opFinished e =>
    .map (tagged "OpFinished" [field "op" (.ofUInt64 e.op),
      field "status" (.ofUInt64 e.status.raw.toUInt64),
      field "code" (.ofUInt64 e.code.raw.toUInt64),
      field "msgKey" (.text e.msgKey),
      field "msgFallback" (.text e.msgFallback)])
  | .agentQuiesced reason =>
    .map (tagged "AgentQuiesced" [field "reason" (.ofUInt64 reason.raw.toUInt64)])

end LibreAgent.Wire
