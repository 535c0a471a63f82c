import LibreAgent.Operations.RawCryptoFlow

/-!
# Slots, tokens and objects (`pkcs11/ObjectModel`)

* `AgentSnapshot` : the readers, their cards and the certificates on them, as the agent tells them;
* `ObjectModel.build` : a slot for each reader, with the objects and mechanisms of its card.

A slot's protected authentication path is always there and is left out, and so is the holder's name
of a certificate, which only a transport reads.
-/

namespace LibreAgent.Pkcs11Agent

open Operations (KeyType)

structure CertEntry where
  certId : Bytes := []
  label : Bytes := []
  ckaId : Bytes := []
  signingCapable : Bool := false
  canSign : Bool := false
  canDecrypt : Bool := false
  signsHashOnCard : Bool := false
  alwaysAuthenticate : Bool := false
  canDerive : Bool := false
  keyType : KeyType := .other
  keyBits : UInt32 := 0

structure ReaderState where
  readerPath : Bytes
  readerName : Bytes := []
  hasCard : Bool := false
  tokenLabel : Bytes := []
  tokenSerial : Bytes := []
  certs : List CertEntry := []

structure AgentSnapshot where
  readers : List ReaderState := []

inductive ObjectClass where
  | data
  | certificate
  | publicKey
  | privateKey
  deriving DecidableEq

inductive CkMechanism where
  | rsaPkcs
  | sha256RsaPkcs
  | ecdsa
  | ecdh1Derive
  | other
  deriving DecidableEq

structure Object where
  cls : ObjectClass := .data
  ckaId : Bytes := []
  label : Bytes := []
  certId : Bytes := []
  keyType : KeyType := .other
  keyBits : UInt32 := 0
  derive : Bool := false
  sign : Bool := false
  decrypt : Bool := false
  alwaysAuthenticate : Bool := false
  deriving DecidableEq

structure Slot where
  readerPath : Bytes
  readerName : Bytes := []
  tokenPresent : Bool := false
  tokenLabel : Bytes := []
  tokenSerial : Bytes := []
  objects : List Object := []
  mechanisms : List CkMechanism := []
  deriving DecidableEq

structure ObjectModel where
  slots : List Slot := []

def isNistCurveBits (bits : UInt32) : Bool :=
  bits = 256 ∨ bits = 384 ∨ bits = 521

namespace CertEntry

variable (cert : CertEntry)

def isServed : Bool :=
  match cert.keyType with
  | .rsa => cert.signingCapable && cert.keyBits ≠ 0
  | .ec => (cert.signingCapable || cert.canDerive) && isNistCurveBits cert.keyBits
  | .other => false

def signs : Bool :=
  cert.signingCapable && cert.canSign

def objects : List Object :=
  [{ cls := .certificate, ckaId := cert.ckaId, label := cert.label, certId := cert.certId },
   { cls := .publicKey, ckaId := cert.ckaId, label := cert.label, certId := cert.certId,
     keyType := cert.keyType,
     keyBits := cert.keyBits },
   { cls := .privateKey, ckaId := cert.ckaId, label := cert.label, certId := cert.certId,
     keyType := cert.keyType,
     keyBits := cert.keyBits
     sign := cert.signs
     decrypt := cert.keyType = .rsa && cert.canDecrypt
     derive := cert.keyType = .ec && cert.canDerive
     alwaysAuthenticate := cert.alwaysAuthenticate }]

end CertEntry

/-- at most one mechanism for the RSA keys, by where the digest is made -/
def mechanismsOf (certs : List CertEntry) : List CkMechanism :=
  let rsa := certs.filter (·.keyType = .rsa)
  let ec := certs.filter (·.keyType ≠ .rsa)
  (if rsa.any fun cert => cert.signs && cert.signsHashOnCard then [.sha256RsaPkcs]
    else if rsa.any fun cert => cert.signs || cert.canDecrypt then [.rsaPkcs]
    else []) ++
  (if ec.any (·.signs) then [.ecdsa] else []) ++
  (if ec.any (·.canDerive) then [.ecdh1Derive] else [])

def ReaderState.slot (reader : ReaderState) : Slot :=
  let served := if reader.hasCard then reader.certs.filter (·.isServed) else []
  { readerPath := reader.readerPath
    readerName := reader.readerName
    tokenPresent := reader.hasCard
    tokenLabel := reader.tokenLabel
    tokenSerial := reader.tokenSerial
    objects := served.flatMap (·.objects)
    mechanisms := mechanismsOf served }

def ObjectModel.build (snapshot : AgentSnapshot) : ObjectModel :=
  ⟨snapshot.readers.map (·.slot)⟩

end LibreAgent.Pkcs11Agent
