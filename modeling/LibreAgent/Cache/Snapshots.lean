import LibreAgent.Operations.RawCryptoFlow
import Mathlib.Logic.Function.Basic

/-!
# What is read from a card (`value/`)

* `CardReadSnapshot` : the identity data, in groups of fields;
* `CertSnapshot` : a certificate, with the verdict on its trust;
* `CredentialRecord`, `CredentialSnapshot` : the PINs of a card, as a client sees them
  (`toCredentialRecord`, `disambiguateCredentialIds`).

Texts that come from a card are `Bytes`.
-/

namespace LibreAgent.Cache

open Bytes
open Operations (KeyType)

/-! ## Identity data -/

inductive FieldType where
  | text
  | date
  | binary
  | photo
  deriving DecidableEq

structure FieldSnapshot where
  fieldKey : Bytes := []
  labelKey : Bytes := []
  labelFallback : Bytes := []
  type : FieldType := .text
  textValue : Bytes := []
  binaryValue : Bytes := []
  deriving DecidableEq

structure GroupSnapshot where
  groupKey : Bytes := []
  labelKey : Bytes := []
  labelFallback : Bytes := []
  fields : List FieldSnapshot := []
  deriving DecidableEq

structure CardReadSnapshot where
  cardType : Bytes := []
  groups : List GroupSnapshot := []
  deriving DecidableEq

/-! ## Certificates -/

inductive CertTrustStatus where
  | trusted
  | untrustedRoot
  | brokenChain
  | invalidCertificate
  | expired
  | revoked
  | offlineUnverified
  | unknown
  deriving DecidableEq

structure CertSnapshot where
  certId : Bytes := []
  signingCapable : Bool := false
  keyUsageBits : UInt32 := 0
  ekuOids : List Bytes := []
  chainSubjectCns : List Bytes := []
  trustStatus : CertTrustStatus := .unknown
  alwaysAuthenticate : Bool := false
  keyId : Bytes := []
  keyType : KeyType := .other
  keyBits : UInt32 := 0
  canDerive : Bool := false
  securityStatus : List Bytes := []
  fields : List GroupSnapshot := []
  deriving DecidableEq

/-! ## Credentials -/

inductive PinKind where
  | unknown
  | userPin
  | signPin
  | puk
  | can

inductive PinState where
  | unknown
  | transport
  | operational
  | needsChange
  | blocked

inductive PinRecovery where
  | unknown
  | holderViaPuk
  | issuerProcess
  | none

structure LocalizedText where
  key : Bytes
  defaultText : Bytes

structure PinStatusEntry where
  kind : PinKind
  reference : Nat
  label : Bytes
  state : PinState
  retriesLeft : Option Int32
  retriesMax : Option Int32
  usesLeft : Option Int32
  usesMax : Option Int32
  unblocksLeft : Option Int32
  minLength : Option Nat
  maxLength : Option Nat
  canChange : Bool
  unblockable : Bool
  activatable : Bool
  keyActivationPending : Bool
  keyActivatable : Bool
  recovery : PinRecovery
  blockedGuidance : Option LocalizedText
  keyActivationGuidance : Option LocalizedText

structure CredentialRecord where
  id : Bytes
  label : Bytes
  kind : Bytes
  state : Bytes
  retriesLeft : Option Int32
  retriesMax : Option Int32
  usesLeft : Option Int32
  usesMax : Option Int32
  unblocksLeft : Option Int32
  minLength : Option Nat
  maxLength : Option Nat
  canChange : Bool
  unblockable : Bool
  activatable : Bool
  keyActivationPending : Bool
  keyActivatable : Bool
  recovery : Bytes
  blockedGuidanceKey : Option Bytes
  blockedGuidanceFallback : Option Bytes
  keyActivationGuidanceKey : Option Bytes
  keyActivationGuidanceFallback : Option Bytes
  deriving DecidableEq

def credentialKindToken : PinKind → Bytes
  | .unknown => lit "unknown"
  | .userPin => lit "user"
  | .signPin => lit "sign"
  | .puk => lit "puk"
  | .can => lit "can"

def credentialStateToken : PinState → Bytes
  | .unknown => lit "unknown"
  | .transport => lit "transport"
  | .operational => lit "operational"
  | .needsChange => lit "needsChange"
  | .blocked => lit "blocked"

def recoveryToken : PinRecovery → Bytes
  | .unknown => lit "unknown"
  | .holderViaPuk => lit "holderViaPuk"
  | .issuerProcess => lit "issuerProcess"
  | .none => lit "none"

/-- a bound that no `int` holds is thrown out -/
def narrowLengthToInt : Option Nat → Option (Option Nat)
  | none => some none
  | some length => if length > 2 ^ 31 - 1 then none else some (some length)

def hexReference (reference : Nat) : Bytes :=
  let digits := Nat.toDigits 16 reference
  lit (String.ofList (List.replicate (2 - digits.length) '0' ++ digits))

def toCredentialRecord (e : PinStatusEntry) : Option CredentialRecord := do
  let minLength ← narrowLengthToInt e.minLength
  let maxLength ← narrowLengthToInt e.maxLength
  return {
    id := credentialKindToken e.kind ++ lit ":0x" ++ hexReference e.reference
    label := e.label
    kind := credentialKindToken e.kind
    state := credentialStateToken e.state
    retriesLeft := e.retriesLeft
    retriesMax := e.retriesMax
    usesLeft := e.usesLeft
    usesMax := e.usesMax
    unblocksLeft := e.unblocksLeft
    minLength, maxLength
    canChange := e.canChange
    unblockable := e.unblockable
    activatable := e.activatable
    keyActivationPending := e.keyActivationPending
    keyActivatable := e.keyActivatable
    recovery := recoveryToken e.recovery
    blockedGuidanceKey := e.blockedGuidance.map (·.key)
    blockedGuidanceFallback := e.blockedGuidance.map (·.defaultText)
    keyActivationGuidanceKey := e.keyActivationGuidance.map (·.key)
    keyActivationGuidanceFallback := e.keyActivationGuidance.map (·.defaultText) }

/-- the records from here on, when `nextIndex` records with an id have been passed -/
def suffixIds (population nextIndex : Bytes → Nat) : List CredentialRecord → List CredentialRecord
  | [] => []
  | record :: records =>
    if population record.id < 2 then record :: suffixIds population nextIndex records
    else
      { record with id := record.id ++ lit ":" ++ lit (toString (nextIndex record.id)) } ::
        suffixIds population (Function.update nextIndex record.id (nextIndex record.id + 1)) records

def disambiguateCredentialIds (records : List CredentialRecord) : List CredentialRecord :=
  suffixIds (fun id => (records.map (·.id)).count id) (fun _ => 0) records

structure CredentialSnapshot where
  records : List CredentialRecord := []
  /-- set by the cache, `0` before -/
  version : Nat := 0
  /-- the plugin that gave the records -/
  listPluginId : Bytes := []
  deriving DecidableEq

inductive CredentialOutcome where
  | unspecified
  | ok
  | userCancelled
  | missingFields
  | cardRemoved

end LibreAgent.Cache
