import LibreAgent.Wire.Cbor

/-!
# The message types of the wire (`Messages.h` and the enum headers)

Texts and byte vectors are both `Bytes`.  The numeric enums (`ErrorCode`, `OperationPhase`,
`OperationStatus`, `PreReadAuth`, `QuiesceReason`) are carried raw on this wire: every value of the
underlying type is a value of the enum.  The token enums are inductive types with their token
tables.
-/

namespace LibreAgent.Wire

open Bytes OrdMap

abbrev Double := BitVec 64

/-- `std::map<std::string, T>` -/
abbrev StdMap (α : Type) := SortedMap lexLess α

/-! ## Enums -/

structure ErrorCode where
  raw : UInt32
deriving DecidableEq

structure OperationPhase where
  raw : UInt32
deriving DecidableEq

structure OperationStatus where
  raw : UInt32
deriving DecidableEq

structure PreReadAuth where
  raw : UInt8
deriving DecidableEq

structure QuiesceReason where
  raw : UInt8
deriving DecidableEq

inductive ReaderInterface where
  | unknown
  | contact
  | contactless
deriving DecidableEq

def readerInterfaceToken : ReaderInterface → Bytes
  | .unknown => lit "unknown"
  | .contact => lit "contact"
  | .contactless => lit "contactless"

def readerInterfaceFromToken (token : Bytes) : Option ReaderInterface :=
  [ReaderInterface.unknown, .contact, .contactless].find? fun i => readerInterfaceToken i == token

inductive KeyType where
  | rsa
  | ec
  | other
deriving DecidableEq

def keyTypeToken : KeyType → Bytes
  | .rsa => lit "RSA"
  | .ec => lit "EC"
  | .other => lit "OTHER"

def keyTypeFromToken (token : Bytes) : KeyType :=
  if token = lit "RSA" then .rsa
  else if token = lit "EC" then .ec
  else .other

/-- the members of `NistCurve` the wire decoder reads -/
structure NistCurve where
  crv : Bytes
  fieldBytes : Nat
deriving DecidableEq

def kNistCurves : List NistCurve :=
  [⟨lit "P-256", 32⟩, ⟨lit "P-384", 48⟩, ⟨lit "P-521", 66⟩]

def nistCurveByName (crv : Bytes) : Option NistCurve :=
  kNistCurves.find? fun c => c.crv == crv

inductive CredentialOutcome where
  | unspecified
  | ok
  | userCancelled
  | missingFields
  | invalidPin
  | blocked
  | pluginError
  | unsupported
  | keyActivationFailed
  | cardRemoved
  | entryExpired
deriving DecidableEq

inductive SyncError where
  | unknownCard
  | keyNotFound
  | notAuthorized
  | userNotLoggedIn
  | unknownConfigKey
  | readOnlyConfig
  | invalidConfigValue
  | unsupportedProtocol
  | authFailed
  | communicationError
  | notSupported
  | unsupportedOnThisCard
  | unsupportedSignatureParameter
  | inputTooLarge
  | rateLimited
  | unknownCredential
  | invalidRequest
  | noResult
  | masterListReplayed
  | cancelled
deriving DecidableEq

def syncErrorName : SyncError → Bytes
  | .unknownCard => lit "UnknownCard"
  | .keyNotFound => lit "KeyNotFound"
  | .notAuthorized => lit "NotAuthorized"
  | .userNotLoggedIn => lit "UserNotLoggedIn"
  | .unknownConfigKey => lit "UnknownConfigKey"
  | .readOnlyConfig => lit "ReadOnlyConfig"
  | .invalidConfigValue => lit "InvalidConfigValue"
  | .unsupportedProtocol => lit "UnsupportedProtocol"
  | .authFailed => lit "AuthFailed"
  | .communicationError => lit "CommunicationError"
  | .notSupported => lit "NotSupported"
  | .unsupportedOnThisCard => lit "UnsupportedOnThisCard"
  | .unsupportedSignatureParameter => lit "UnsupportedSignatureParameter"
  | .inputTooLarge => lit "InputTooLarge"
  | .rateLimited => lit "RateLimited"
  | .unknownCredential => lit "UnknownCredential"
  | .invalidRequest => lit "InvalidRequest"
  | .noResult => lit "NoResult"
  | .masterListReplayed => lit "MasterListReplayed"
  | .cancelled => lit "Cancelled"

/-- `kAll` of `decodeSyncError` -/
def allSyncErrors : List SyncError :=
  [.unknownCard, .keyNotFound, .notAuthorized, .userNotLoggedIn, .unknownConfigKey,
    .readOnlyConfig, .invalidConfigValue, .unsupportedProtocol, .authFailed, .communicationError,
    .notSupported, .unsupportedOnThisCard, .unsupportedSignatureParameter, .inputTooLarge,
    .rateLimited, .unknownCredential, .invalidRequest, .noResult, .masterListReplayed, .cancelled]

def decodeSyncError (name : Bytes) : SyncError :=
  (allSyncErrors.find? fun e => syncErrorName e == name).getD .communicationError

inductive WireError where
  | notDecodable
  | notAMap
  | missingField
  | wrongType
  | noTag
  | unknownMessage
deriving DecidableEq

/-! ## Shared records -/

structure VisualSignatureOpts where
  page : UInt64
  x : Double
  y : Double
  width : Double
  height : Double
  text : Bytes

structure SignOpts where
  format : Bytes
  level : Bytes
  packaging : Bytes
  allowExpired : Option Bool
  displayName : Option Bytes
  reason : Option Bytes
  location : Option Bytes
  tsaUrl : Option Bytes
  visualSignature : Option VisualSignatureOpts

structure ReaderState where
  handle : Bytes
  name : Bytes
  hasCard : Bool
  card : Option Bytes
  model : Bytes
  iface : ReaderInterface

structure CardState where
  handle : Bytes
  reader : Bytes
  caps : UInt32
  preAuth : PreReadAuth
  cardType : Option Bytes
  atr : Option Bytes

structure CertField where
  labelKey : Bytes
  labelFallback : Bytes
  value : Bytes

structure CertInfo where
  certId : Bytes
  signingCapable : Bool
  /-- group, then field, then cell -/
  fields : StdMap (StdMap CertField)
  keyUsageBits : UInt32
  ekus : List Bytes
  chainSubjectCns : List Bytes
  trustStatus : UInt32
  alwaysAuthenticate : Bool
  keyId : Bytes
  keyType : KeyType
  keyBits : UInt32
  canDerive : Bool

structure SignMeta where
  format : Bytes
  level : Bytes
  tsaUsed : Bool
  chainComplete : Bool

structure CredentialRecord where
  id : Bytes
  label : Bytes
  kind : Bytes
  state : Bytes
  retriesLeft : Option Int32
  retriesMax : Option Int32
  usesLeft : Option Int32
  usesMax : Option Int32
  unblocksLeft : Option Int32
  canChange : Bool
  unblockable : Bool
  activatable : Bool
  keyActivationPending : Bool
  keyActivatable : Bool
  recovery : Bytes
  blockedGuidanceKey : Option Bytes
  blockedGuidanceFallback : Option Bytes
  keyActivationGuidanceKey : Option Bytes
  keyActivationGuidanceFallback : Option Bytes

structure CredentialOpResult where
  outcome : CredentialOutcome
  retriesLeft : Option Int32
  blocked : Bool

/-! ## Requests -/

structure BatchDocument where
  name : Bytes
  fdIndex : UInt64

/-- the alternatives of `Request`, in the order of the variant -/
inductive Request where
  | hello (proto : UInt64) (wantsEvents : Bool)
  | getState
  | readIdentity (card : Bytes)
  | getPhoto (card : Bytes)
  | readCertificates (card : Bytes)
  | readTokenInfo (card : Bytes)
  | sign (card cert : Bytes) (inFd : UInt64) (opts : SignOpts)
  | signBatch (card cert : Bytes) (docs : List BatchDocument) (opts : SignOpts)
  | getCertDer (reader cert : Bytes)
  | getConfig
  | setConfig (key : Bytes) (value : CborValue)
  | resetConfig (key : Bytes)
  | cancelOp (op : UInt64)
  | getSignResult (op : UInt64)
  | pkLogin (reader : Bytes)
  | pkLogout (reader : Bytes)
  | pkPublicKey (reader cert : Bytes)
  | pkSignRaw (reader cert mech data : Bytes)
  | pkDecrypt (reader cert mech data : Bytes)
  | listCredentials (card : Bytes)
  | managePin (card pinId verb : Bytes) (activateKey : Option Bool)
  | activateSigningKey (card : Bytes)
  | layoutVisual (text : Bytes) (x y width height : Double)
  | getAppearanceFont
  | importCscaMasterList (list : UInt64)
  | pkDerive (reader cert data : Bytes)
  | pkLoginState (reader : Bytes)

structure RequestEnvelope where
  req : UInt64
  body : Request

/-! ## Results, replies and events -/

/-- `std::variant<std::string, std::vector<std::uint8_t>>` -/
inductive IdentityValue where
  | text (s : Bytes)
  | bytes (b : Bytes)

structure IdentityField where
  labelKey : Bytes
  labelFallback : Bytes
  type : Bytes
  value : IdentityValue

structure PhotoItem where
  key : Bytes
  fd : UInt64

structure SignResult where
  artifact : UInt64
  signMeta : SignMeta

structure SignBatchRow where
  displayName : Bytes
  artifact : UInt64
  signMeta : SignMeta
  code : ErrorCode

structure CredentialsResult where
  result : CredentialOpResult
  records : List CredentialRecord

inductive OpResult where
  | identity (fields : StdMap (StdMap IdentityField))
  | photo (photos : List PhotoItem)
  | certificates (certs : List CertInfo)
  | sign (r : SignResult)
  | signBatch (rows : List SignBatchRow)
  | credentials (c : CredentialsResult)

inductive PublicKey where
  | rsa (n e : Bytes)
  | ec (crv x y : Bytes)

structure CscaAnchorStateReply where
  anchors : UInt64
  issuers : UInt64
  replayRefusalActive : Bool
  signer : Option Bytes
  signerPinned : Option Bool
  acceptedAt : Option Int64
  signedAt : Option Int64

/-- `std::variant<ErrorCode, SyncError>`: asynchronous by number, synchronous by name -/
inductive ErrInfoCode where
  | code (c : ErrorCode)
  | name (e : SyncError)

structure ErrInfo where
  code : ErrInfoCode
  msgKey : Option Bytes
  msgFallback : Option Bytes

/-- a reply by the arm that carries it: every `makeReply` overload, the sign-recovery arm and the
error arm -/
inductive Reply where
  | helloAck (agentVer : Bytes) (features : List Bytes)
  | opStarted (op : UInt64)
  | state (readers : List ReaderState) (cards : List CardState)
  | certList (certs : List CertInfo)
  | certDer (der : Bytes)
  | publicKey (pk : PublicKey)
  | config (entries : StdMap CborValue)
  | ack
  | loginState (active : Bool)
  | rawSignature (sig : Bytes)
  | derivedSecret (z : Bytes)
  | layout (fontSize lineHeight : Double) (lines : List Bytes) (clipped : Bool)
  | appearanceFont (fd : UInt64)
  | cscaAnchorState (a : CscaAnchorStateReply)
  | signRecovery (r : SignResult)
  | error (e : ErrInfo)

structure PropertyChanged where
  handle : Bytes
  iface : Bytes
  props : StdMap CborValue

structure OpFinished where
  op : UInt64
  status : OperationStatus
  code : ErrorCode
  msgKey : Bytes
  msgFallback : Bytes

inductive Event where
  | readerAdded (reader : ReaderState)
  | readerRemoved (handle : Bytes)
  | cardAdded (card : CardState)
  | cardRemoved (handle : Bytes)
  | propertyChanged (e : PropertyChanged)
  | configChanged (key : Bytes)
  | opProgress (op : UInt64) (phase : OperationPhase)
  | opIdentityGroup (op : UInt64) (groupKey : Bytes) (fields : StdMap IdentityField)
  | opResultReady (op : UInt64) (result : OpResult)
  | opFinished (e : OpFinished)
  | agentQuiesced (reason : QuiesceReason)

end LibreAgent.Wire
