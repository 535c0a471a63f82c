import LibreAgent.Lib.Bytes
import LibreAgent.Lib.Interaction

/-!
# Raw cryptographic operations

An operation of a PKCS#11 client runs on the worker of its reader: it opens the card session, looks
for the key, asks for a PIN unless the lease is already verified, and uses the key.

* `preflight`, `signRaw`, `decryptRaw`, `deriveRaw` : the key and its use;
* `RawCryptoFlow.runOp`, `RawCryptoFlow.run` : the whole operation.

The phases shown to a user and the provider of the secrets of the card channel are left out.
-/

namespace LibreAgent.Operations

/-! ## The data -/

inductive Mechanism where
  | rsaPkcs1Sign
  | ecdsaSign
  | rsaPkcs1Decrypt
  | ecdhDerive
  | sha256RsaPkcs1Sign
  deriving DecidableEq

inductive KeyType where
  | rsa
  | ec
  | other
  deriving DecidableEq

structure CertKeyClass where
  keyType : KeyType := .other
  bits : UInt32 := 0

def CertKeyClass.bytes (key : CertKeyClass) : Nat :=
  ((key.bits + 7) / 8).toNat

inductive KeyUsageBit where
  | digitalSignature
  | nonRepudiation
  | keyEncipherment
  | dataEncipherment
  | keyAgreement
  | keyCertSign
  | crlSign
  | encipherOnly
  | decipherOnly
  deriving DecidableEq

structure CertificateData where
  keyFID : Option UInt16
  derBytes : Bytes
  /-- the card asks for consent to each use of the key -/
  alwaysAuthenticate : Bool
  canDerive : Bool

structure SigningSelection where
  /-- a plugin is known by its place among the candidates -/
  plugin : Option Nat
  cert : CertificateData

inductive RawCryptoStatus where
  | ok
  | keyNotFound
  | authFailed
  | cardError
  | notSupported
  | consentRequired
  | invalidInput
  deriving DecidableEq

structure RawCryptoResult where
  status : RawCryptoStatus := .cardError
  bytes : Bytes := []
  alwaysAuthenticate : Bool := false

structure RawCryptoPreflight where
  status : RawCryptoStatus := .cardError
  key : Option SigningSelection := none

inductive SignMechanism where
  | rsaPkcs
  | rsaSha256
  | ecdsaSha256
  | ecdsaSha384
  | ecdsaSha512

inductive DecipherMechanism where
  | rsaPkcs1V15
  | ecdhRaw

inductive PluginOutcome where
  | ok
  | notImplemented
  | pinIncorrect
  | pinBlocked
  | cancelled
  | pluginError
  | unspecified

inductive PromptStatus where
  | ok
  | cancelled
  | error
  | timeout

structure PromptResult where
  status : PromptStatus
  secret : Option Bytes

/-! ## Calls -/

inductive Call where
  -- the lease of the operation's caller and card, and the clock
  | isPinVerified
  | markPinVerified
  | clearPinVerified
  | grant (now : Int)
  | revoke
  | now
  -- the agent
  | allowPrompt
  | isCancelled
  | requestPin (requester artifact : String)
  | invalidateCredentials
  -- the card session and the certificates on the card
  | acquire
  | clearCachedPaceCredentials
  | selectSigningCandidate (certId : String)
  | classifyCertKey (der : Bytes)
  | keyUsage (der : Bytes)
  | preReadAuthIsCan (plugin : Option Nat)
  | ecPeerPointOnCertCurve (der point : Bytes)
  -- a use of the key: `terminal` only says that it starts, and whether with a PIN
  | terminal (pin : Option Bytes)
  | depositPin (pin : Bytes)
  | keepForLease
  | erasePin
  | sign (key : SigningSelection) (input : Bytes) (mechanism : SignMechanism)
  | decipher (key : SigningSelection) (input : Bytes) (mechanism : DecipherMechanism)

/-- a certificate that cannot be parsed has no class and no usage -/
@[reducible] def Call.Ans : Call → Type
  | isPinVerified | allowPrompt | isCancelled => Bool
  | now => Int
  | requestPin _ _ => PromptResult
  | acquire => Except String Unit
  | selectSigningCandidate _ => Option SigningSelection
  | classifyCertKey _ => Option CertKeyClass
  | keyUsage _ => Option (Option (List KeyUsageBit))
  | preReadAuthIsCan _ | ecPeerPointOnCertCurve _ _ => Bool
  | sign _ _ _ | decipher _ _ _ => PluginOutcome × Bytes
  | markPinVerified | clearPinVerified | grant _ | revoke | invalidateCredentials => Unit
  | clearCachedPaceCredentials | terminal _ | depositPin _ | keepForLease | erasePin => Unit

abbrev Flow := Interaction Call Call.Ans

abbrev Call.run (c : Call) : Flow c.Ans :=
  Interaction.call c

/-! ## The key and its use -/

def mapPluginOutcome : PluginOutcome → RawCryptoStatus
  | .ok => .ok
  | .notImplemented => .notSupported
  | .pinIncorrect | .pinBlocked => .authFailed
  | .cancelled | .pluginError | .unspecified => .cardError

def mapSignOutcome : PluginOutcome → RawCryptoStatus := mapPluginOutcome

def mapDecipherOutcome : PluginOutcome → RawCryptoStatus := mapPluginOutcome

def ecdsaMechanismForDigest (digestLength : Nat) : Option SignMechanism :=
  match digestLength with
  | 32 => some .ecdsaSha256
  | 48 => some .ecdsaSha384
  | 64 => some .ecdsaSha512
  | _ => none

def certKeyUsagePermitsDecrypt : Option (Option (List KeyUsageBit)) → Bool
  | none | some none => true
  | some (some bits) => bits.any fun bit => bit = .keyEncipherment ∨ bit = .dataEncipherment

/-- the refusal of a request that does not fit the key, `ok` if it does -/
def checkRequest (selection : SigningSelection) (key : CertKeyClass) (mechanism : Mechanism)
    (input : Bytes) : Flow RawCryptoStatus := do
  let der := selection.cert.derBytes
  match mechanism with
  | .rsaPkcs1Sign =>
    if key.keyType ≠ .rsa ∨ input = [] ∨ input.length + 11 > key.bytes then return .invalidInput
    -- the RSA key of a PACE card takes no block built by the caller
    if ← (Call.preReadAuthIsCan selection.plugin).run then return .invalidInput
    return .ok
  | .sha256RsaPkcs1Sign =>
    if key.keyType ≠ .rsa ∨ input = [] then return .invalidInput
    if ← (Call.preReadAuthIsCan selection.plugin).run then return .ok
    return .invalidInput
  | .ecdsaSign =>
    if key.keyType ≠ .ec ∨ (ecdsaMechanismForDigest input.length).isNone then return .invalidInput
    return .ok
  | .rsaPkcs1Decrypt =>
    if key.keyType ≠ .rsa then return .invalidInput
    let usage ← (Call.keyUsage der).run
    if ¬ certKeyUsagePermitsDecrypt usage then return .notSupported
    if input.length ≠ key.bytes then return .invalidInput
    return .ok
  | .ecdhDerive =>
    if key.keyType ≠ .ec ∨ ¬ selection.cert.canDerive then return .invalidInput
    if input.length ≠ 1 + 2 * key.bytes ∨ input.head? ≠ some 4 then return .invalidInput
    if ← (Call.ecPeerPointOnCertCurve der input).run then return .ok
    return .invalidInput

def preflight (certId : String) (mechanism : Mechanism) (input : Bytes) : Flow RawCryptoPreflight :=
  do
  let found ← (Call.selectSigningCandidate certId).run
  match found with
  | none => return { status := .keyNotFound }
  | some selection =>
    if selection.cert.keyFID.isNone then return { status := .keyNotFound }
    let parsed ← (Call.classifyCertKey selection.cert.derBytes).run
    let status ← checkRequest selection (parsed.getD {}) mechanism input
    if status = .ok then return { status := .ok, key := some selection }
    return { status }

def depositPin : Option Bytes → Flow Unit
  | some secret => (Call.depositPin secret).run
  | none => pure ()

def settlePin (pin : Option Bytes) (perOperation : Bool) (out : RawCryptoResult) : Flow Unit :=
  if perOperation ∨ out.status ≠ .ok then Call.erasePin.run
  else if pin.isSome then Call.keepForLease.run
  else pure ()

def underTheOperationsPin (pin : Option Bytes) (perOperation : Bool)
    (operation : Flow RawCryptoResult) : Flow RawCryptoResult :=
  if pin = some [] then do
    Call.erasePin.run
    return { status := .authFailed }
  else do
    depositPin pin
    let out ← operation
    settlePin pin perOperation out
    return out

variable (key : SigningSelection)

def pluginResult (status : RawCryptoStatus) (bytes : Bytes) : RawCryptoResult :=
  { status
    bytes := if status = .ok then bytes else []
    alwaysAuthenticate := key.cert.alwaysAuthenticate }

/-- a key for which the card asks for consent is not touched without a PIN -/
def withConsent (pin : Option Bytes) (operation : Flow RawCryptoResult) : Flow RawCryptoResult :=
  if key.cert.alwaysAuthenticate && pin.isNone then
    pure { status := .consentRequired, alwaysAuthenticate := true }
  else underTheOperationsPin pin key.cert.alwaysAuthenticate operation

def pluginMechanism (mechanism : Mechanism) (input : Bytes) : Option SignMechanism :=
  match mechanism with
  | .rsaPkcs1Sign => some .rsaPkcs
  | .sha256RsaPkcs1Sign => some .rsaSha256
  | .ecdsaSign => ecdsaMechanismForDigest input.length
  | .rsaPkcs1Decrypt | .ecdhDerive => none

def signRaw (mechanism : Mechanism) (input : Bytes) (pin : Option Bytes) : Flow RawCryptoResult :=
  if key.plugin.isNone ∨ key.cert.keyFID.isNone then pure { status := .keyNotFound }
  else match pluginMechanism mechanism input with
    | none => pure { status := .invalidInput }
    | some sign => withConsent key pin do
      let sr ← (Call.sign key input sign).run
      return pluginResult key (mapSignOutcome sr.1) sr.2

def decipherWithKey (mechanism : DecipherMechanism) (input : Bytes)
    (pin : Option Bytes) : Flow RawCryptoResult :=
  withConsent key pin do
    let dr ← (Call.decipher key input mechanism).run
    return pluginResult key (mapDecipherOutcome dr.1) dr.2

def decryptRaw (mechanism : Mechanism) (ciphertext : Bytes)
    (pin : Option Bytes) : Flow RawCryptoResult :=
  if key.plugin.isNone ∨ key.cert.keyFID.isNone then pure { status := .keyNotFound }
  else if mechanism ≠ .rsaPkcs1Decrypt then pure { status := .invalidInput }
  else decipherWithKey key .rsaPkcs1V15 ciphertext pin

def ofFieldLength (curve : CertKeyClass) (out : RawCryptoResult) : RawCryptoResult :=
  if curve.keyType ≠ .ec ∨ out.bytes.length ≠ curve.bytes then
    { out with status := .cardError, bytes := [] }
  else out

def deriveRaw (mechanism : Mechanism) (peerPoint : Bytes)
    (pin : Option Bytes) : Flow RawCryptoResult :=
  if key.plugin.isNone ∨ key.cert.keyFID.isNone then pure { status := .keyNotFound }
  else if mechanism ≠ .ecdhDerive then pure { status := .invalidInput }
  else do
    let out ← decipherWithKey key .ecdhRaw peerPoint pin
    if out.status ≠ .ok then return out
    let parsed ← (Call.classifyCertKey key.cert.derBytes).run
    return ofFieldLength (parsed.getD {}) out

/-! ## The flow -/

namespace RawCryptoFlow

inductive Outcome where
  | ok
  | cancelled
  | keyNotFound
  | authFailed
  | notSupported
  | cardError
  | rateLimited
  | invalidInput
  deriving DecidableEq

structure Result where
  outcome : Outcome := .cardError
  bytes : Bytes := []
  msgFallback : String

inductive Op where
  | sign
  | decrypt
  | derive
  deriving DecidableEq

structure Request where
  requester : String
  certId : String
  mechanism : Mechanism
  bytes : Bytes

def makeError (outcome : Outcome) (msgFallback : String) : Result :=
  { outcome, msgFallback }

def makeCancelled : Result :=
  { outcome := .cancelled, msgFallback := "cancelled" }

def mapStatus : RawCryptoStatus → Outcome
  | .ok => .ok
  | .keyNotFound => .keyNotFound
  | .authFailed => .authFailed
  | .notSupported => .notSupported
  | .cardError => .cardError
  | .consentRequired => .cardError
  | .invalidInput => .invalidInput

def refusalOutcome (status : RawCryptoStatus) : Outcome :=
  if status = .ok then .cardError else mapStatus status

def rateLimited : Result :=
  makeError .rateLimited "pkcs11: PIN prompt refused by the per-caller limit"

def artifact : Op → String
  | .derive => "pkcs11-derive"
  | .sign | .decrypt => "pkcs11"

def promptAllowed (asked : Bool) : Flow Bool :=
  if asked then Call.allowPrompt.run else pure true

def openSession : Flow (Option Result) := do
  if ← Call.isCancelled.run then return some makeCancelled
  let acquired ← Call.acquire.run
  match acquired with
  | .error message => return some (makeError .cardError message)
  | .ok () =>
    if ← Call.isCancelled.run then return some makeCancelled
    return none

def runPreflight (request : Request) : Flow (Except Result SigningSelection) := do
  let checked ← preflight request.certId request.mechanism request.bytes
  match checked.status, checked.key with
  | .ok, some key => return .ok key
  | status, _ =>
    return .error (makeError (refusalOutcome status)
      "pkcs11: request refused before any PIN prompt")

def dismissIfEmpty (prompt : PromptResult) : PromptResult :=
  match prompt with
  | ⟨.ok, some []⟩ => ⟨.cancelled, none⟩
  | prompt => prompt

def obtainPin (op : Op) (request : Request) (charge : Bool) : Flow (Except Result Bytes) := do
  let allowed ← promptAllowed charge
  if ¬ allowed then return .error rateLimited
  let prompt ← (Call.requestPin request.requester (artifact op)).run
  match dismissIfEmpty prompt with
  | ⟨.ok, some secret⟩ => return .ok secret
  | ⟨.cancelled, _⟩ => return .error makeCancelled
  | _ => return .error (makeError .cardError "pkcs11: prompter unavailable for PIN consent")

/-- the operation itself, with a PIN or, on a verified lease, without -/
def terminal (op : Op) (request : Request) (key : SigningSelection) (pin : Option Bytes) :
    Flow RawCryptoResult := do
  (Call.terminal pin).run
  match op with
  | .sign => signRaw key request.mechanism request.bytes pin
  | .decrypt => decryptRaw key request.mechanism request.bytes pin
  | .derive => deriveRaw key request.mechanism request.bytes pin

def remember (result : RawCryptoResult) : Flow Unit :=
  if result.status = .ok ∧ ¬ result.alwaysAuthenticate then Call.markPinVerified.run else pure ()

def evictCredentials (outcome : Outcome) : Flow Unit :=
  if outcome = .authFailed then do
    Call.invalidateCredentials.run
    Call.clearCachedPaceCredentials.run
  else pure ()

def conclude (result : RawCryptoResult) : Flow Result := do
  let outcome := mapStatus result.status
  evictCredentials outcome
  if outcome ≠ .ok then return makeError outcome "pkcs11: raw crypto op failed"
  return { outcome := .ok, bytes := result.bytes, msgFallback := "ok" }

def forgetVerified (channelLost : Bool) : Flow Unit :=
  if channelLost then Call.clearPinVerified.run else pure ()

def keyAgain (request : Request) (key : SigningSelection) (channelLost : Bool) :
    Flow (Except Result SigningSelection) :=
  if channelLost then runPreflight request else pure (.ok key)

/-- an operation without a PIN that needs one after all: once more, with a PIN -/
def askAgain (op : Op) (request : Request) (key : SigningSelection) (channelLost : Bool) :
    Flow Result := do
  forgetVerified channelLost
  if ← Call.isCancelled.run then return makeCancelled
  let checked ← keyAgain request key channelLost
  match checked with
  | .error refusal => return refusal
  | .ok key =>
    let got ← obtainPin op request true
    match got with
    | .error refusal => return refusal
    | .ok pin =>
      if ← Call.isCancelled.run then return makeCancelled
      let result ← terminal op request key (some pin)
      remember result
      conclude result

def runCold (op : Op) (request : Request) (key : SigningSelection) : Flow Result := do
  let got ← obtainPin op request false
  match got with
  | .error refusal => return refusal
  | .ok pin =>
    if ← Call.isCancelled.run then return makeCancelled
    let result ← terminal op request key (some pin)
    remember result
    conclude result

def runVerified (op : Op) (request : Request) (key : SigningSelection) : Flow Result := do
  if ← Call.isCancelled.run then return makeCancelled
  let result ← terminal op request key none
  if result.status = .consentRequired then askAgain op request key false
  else if mapStatus result.status = .cardError then askAgain op request key true
  else conclude result

def runOp (op : Op) (request : Request) : Flow Result := do
  let alreadyVerified ← Call.isPinVerified.run
  let allowed ← promptAllowed (!alreadyVerified)
  if ¬ allowed then return rateLimited
  let notOpened ← openSession
  match notOpened with
  | some failure => return failure
  | none =>
    if ← Call.isCancelled.run then return makeCancelled
    let checked ← runPreflight request
    match checked with
    | .error refusal => return refusal
    | .ok key => if alreadyVerified then runVerified op request key else runCold op request key

def run (request : Request) : Flow Result :=
  match request.mechanism with
  | .ecdhDerive => runOp .derive request
  | .rsaPkcs1Decrypt => runOp .decrypt request
  | _ => runOp .sign request

end RawCryptoFlow

end LibreAgent.Operations
