import LibreAgent.Pkcs11Agent.Module

/-!
# Mechanisms and keys

What the module may do with a key is decided for each certificate (`certEntryFrom`), gathered for
the slot (`ObjectModel.build`) and checked once more by the functions that begin an operation.

* `mechanisms_match_keys` : the three agree, whatever certificates a card has.
-/

namespace LibreAgent.Pkcs11Agent

open List

open Operations (KeyType)

/-! ## The policy for a certificate -/

inductive PreReadAuth where
  | none
  | mrz
  | can
  deriving DecidableEq

structure NeutralCert where
  certId : Bytes := []
  keyId : Bytes := []
  keyType : KeyType := .other
  keyBits : UInt32 := 0
  signingCapable : Bool := false
  canDerive : Bool := false
  keyUsageBits : UInt32 := 0
  alwaysAuthenticate : Bool := false
  subjectCn : Bytes := []

def kKeyEnciphermentBit : UInt32 := 4

def kDataEnciphermentBit : UInt32 := 8

def certEntryFrom (cert : NeutralCert) (preAuth : PreReadAuth) : Option CertEntry :=
  let derives := cert.canDerive && cert.keyType = .ec
  if !cert.signingCapable && !derives then none
  else
    let canDriveSigning := preAuth = .none || preAuth = .can
    let canDriveDecrypt := preAuth = .none
    let isRsa := cert.keyType = .rsa
    let keyUsagePermitsDecrypt :=
      cert.keyUsageBits &&& (kKeyEnciphermentBit ||| kDataEnciphermentBit) ≠ 0
    some
      { certId := cert.certId
        signingCapable := cert.signingCapable
        ckaId := cert.keyId
        keyType := cert.keyType
        keyBits := cert.keyBits
        label := if cert.subjectCn = [] then cert.certId else cert.subjectCn
        canSign := cert.signingCapable && canDriveSigning
        canDecrypt := isRsa && canDriveDecrypt && keyUsagePermitsDecrypt
        canDerive := derives
        signsHashOnCard := isRsa && preAuth = .can
        alwaysAuthenticate := cert.alwaysAuthenticate }

/-! ## Uses of a key -/

inductive KeyUse where
  | sign
  | decrypt
  | derive

def Object.permits (obj : Object) : KeyUse → Bool
  | .sign => obj.sign
  | .decrypt => obj.decrypt
  | .derive => obj.derive

/-- an operation with the key and the mechanism can begin, in a session that has none under way -/
def SessionState.Accepts (s : SessionState) (h : Nat) (session : Session) (key : UInt64)
    (m : CkMechanism) : KeyUse → Prop
  | .sign => (s.signInit { session with sign := {} } m key).isOk = true
  | .decrypt => (s.decryptInit { session with decrypt := {} } m key).isOk = true
  | .derive => ∃ args, args.mechanism = m ∧ args.baseKey = key ∧ (s.checkDerive h args).isOk = true

/-- a key is derived only in a session that is logged in and has no call in flight -/
def SessionState.Ready (s : SessionState) (session : Session) : KeyUse → Prop
  | .sign | .decrypt => True
  | .derive => session.rpcInFlight = false ∧ s.isLoggedIn session.slot = true

def CkMechanism.isEc (m : CkMechanism) : Bool :=
  m = .ecdsa || m = .ecdh1Derive

def CkMechanism.fits (m : CkMechanism) (obj : Object) : KeyUse → Bool
  | .sign =>
    obj.sign && (if obj.keyType = .ec then m = .ecdsa else m = .rsaPkcs || m = .sha256RsaPkcs)
  | .decrypt => obj.decrypt && obj.keyType = .rsa && m = .rsaPkcs
  | .derive => obj.derive && obj.keyType = .ec && m = .ecdh1Derive

section
variable {s : SessionState} {h : Nat} {session : Session} {key : UInt64} {m : CkMechanism}
  {use : KeyUse} {obj : Object}
  {slot : Slot}

/-- the checks of the three functions, for a session on a slot that is shown -/
lemma SessionState.Accepts.fits (ha : s.Accepts h session key m use)
    (hs : s.slotById session.slot = some slot) (hob : s.resolveObject session.slot key = some obj)
    (ho : s.session h = some session) :
    m ∈ slot.mechanisms ∧ obj.cls = .privateKey ∧ m.fits obj use = true := by
  cases use with
  | sign =>
    simp only [SessionState.Accepts, SessionState.signInit, hs, hob] at ha
    simp only [CkMechanism.fits]
    grind [Except.toBool]
  | decrypt =>
    simp only [SessionState.Accepts, SessionState.decryptInit, hs, hob] at ha
    simp only [CkMechanism.fits]
    grind [Except.toBool]
  | derive =>
    obtain ⟨args, rfl, rfl, hc⟩ := ha
    simp only [SessionState.checkDerive, ho, hs, SessionState.checkBase, hob] at hc
    simp only [CkMechanism.fits]
    grind [Except.toBool, Except.map]

lemma accepts_of_fits (hs : s.slotById session.slot = some slot)
    (hob : s.resolveObject session.slot key = some obj) (ho : s.session h = some session)
    (hr : s.Ready session use) (hm : m ∈ slot.mechanisms) (hcl : obj.cls = .privateKey)
    (hk : obj.keyBits ≠ 0) (hf : m.fits obj use = true) : s.Accepts h session key m use := by
  cases use with
  | sign =>
    simp only [SessionState.Accepts, SessionState.signInit, hs, hob]
    grind [Except.toBool, CkMechanism.fits]
  | decrypt =>
    simp only [SessionState.Accepts, SessionState.decryptInit, hs, hob]
    grind [Except.toBool, CkMechanism.fits]
  | derive =>
    simp only [CkMechanism.fits, Bool.and_eq_true, decide_eq_true_eq] at hf
    obtain ⟨⟨hd, hec⟩, rfl⟩ := hf
    obtain ⟨publicData, hp⟩ := peerPointFromPublicData_isSome hk
    obtain ⟨point, hp⟩ := Option.isSome_iff_exists.mp hp
    refine ⟨⟨.ecdh1Derive, true, true, key, some publicData, .ok {}⟩, rfl, rfl, ?_⟩
    simp [SessionState.checkDerive, ho, hr.1, hs, hr.2, hm, SessionState.checkBase, hob,
      hcl, hec, hd, hp]
    rfl

end

/-! ## The slot of a card -/

def ReaderState.seat (reader : ReaderState) (certs : List NeutralCert) (preAuth : PreReadAuth) :
    ReaderState :=
  { reader with hasCard := true, certs := certs.filterMap (certEntryFrom · preAuth) }

section
variable {reader : ReaderState} {certs : List NeutralCert} {preAuth : PreReadAuth}
  {cert : CertEntry} {obj : Object}

def CertEntry.privateKey (cert : CertEntry) : Object :=
  { cls := .privateKey, ckaId := cert.ckaId, label := cert.label, certId := cert.certId,
    keyType := cert.keyType,
    keyBits := cert.keyBits, sign := cert.signs, decrypt := cert.keyType = .rsa && cert.canDecrypt,
    derive := cert.keyType = .ec && cert.canDerive, alwaysAuthenticate := cert.alwaysAuthenticate }

def Seated (certs : List NeutralCert) (preAuth : PreReadAuth) (cert : CertEntry) : Prop :=
  (∃ neutral ∈ certs, certEntryFrom neutral preAuth = some cert) ∧ cert.isServed = true

lemma Seated.policy (h : Seated certs preAuth cert) : (cert.keyType = .rsa ∨ cert.keyType = .ec) ∧
    (cert.keyType = .rsa → cert.signsHashOnCard = decide (preAuth = .can) ∧
      (cert.signs = true ↔ preAuth ≠ .mrz)) ∧
    (cert.canDecrypt = true → cert.keyType = .rsa ∧ preAuth = .none) ∧
    (cert.canDerive = true → cert.keyType = .ec) := by
  obtain ⟨⟨neutral, -, he⟩, hs⟩ := h
  cases preAuth <;> grind [certEntryFrom, CertEntry.isServed, CertEntry.signs]

/-- a key of no known size is not shown -/
lemma Seated.keyBits_ne_zero (h : Seated certs preAuth cert) : cert.keyBits ≠ 0 := by
  have hn : isNistCurveBits 0 = false := by decide
  have hs := h.2
  grind [CertEntry.isServed]

lemma mem_served : cert ∈ (reader.seat certs preAuth).certs.filter (·.isServed) ↔
    Seated certs preAuth cert := by
  rw [mem_filter]
  exact and_congr_left fun _ => mem_filterMap

lemma mem_objects : obj ∈ (reader.seat certs preAuth).slot.objects ∧ obj.cls = .privateKey ↔
    ∃ cert, Seated certs preAuth cert ∧ obj = cert.privateKey := by
  have hs : (reader.seat certs preAuth).slot.objects =
      ((reader.seat certs preAuth).certs.filter (·.isServed)).flatMap (·.objects) := rfl
  rw [hs, mem_flatMap]
  simp only [mem_served]
  constructor
  · rintro ⟨⟨cert, hc, ho⟩, hcl⟩
    refine ⟨cert, hc, ?_⟩
    grind [CertEntry.objects, CertEntry.privateKey]
  · rintro ⟨cert, hc, rfl⟩
    exact ⟨⟨cert, hc, by simp [CertEntry.objects, CertEntry.privateKey]⟩, rfl⟩

def offered (preAuth : PreReadAuth) (cert : CertEntry) : KeyUse → CkMechanism
  | .sign =>
    if cert.keyType = .ec then .ecdsa else if preAuth = .can then .sha256RsaPkcs else .rsaPkcs
  | .decrypt => .rsaPkcs
  | .derive => .ecdh1Derive

lemma mem_mechanisms {m : CkMechanism} : m ∈ (reader.seat certs preAuth).slot.mechanisms ↔
    ∃ cert use, Seated certs preAuth cert ∧ cert.privateKey.permits use = true ∧
      m = offered preAuth cert use := by
  have hs : (reader.seat certs preAuth).slot.mechanisms =
      mechanismsOf ((reader.seat certs preAuth).certs.filter (·.isServed)) := rfl
  have hp cert (h : cert ∈ (reader.seat certs preAuth).certs.filter (·.isServed)) :=
    (mem_served.mp h).policy
  simp only [hs, ← @mem_served reader]
  generalize (reader.seat certs preAuth).certs.filter (·.isServed) = served at hp ⊢
  simp only [mechanismsOf, Object.permits, CertEntry.privateKey]
  constructor
  · intro hm
    have hc : (∃ cert ∈ served, cert.keyType = .rsa ∧ cert.signs = true ∧ preAuth = .can ∧
      m = .sha256RsaPkcs) ∨
        (∃ cert ∈ served, cert.keyType = .rsa ∧ cert.signs = true ∧ preAuth ≠ .can ∧ m = .rsaPkcs) ∨
        (∃ cert ∈ served, cert.keyType = .rsa ∧ cert.canDecrypt = true ∧ m = .rsaPkcs) ∨
        (∃ cert ∈ served, cert.keyType = .ec ∧ cert.signs = true ∧ m = .ecdsa) ∨
        ∃ cert ∈ served, cert.keyType = .ec ∧ cert.canDerive = true ∧ m = .ecdh1Derive := by
      simp only [mem_append, mem_ite_nil_right, any_eq_true, mem_filter, mem_singleton] at hm
      obtain (hm | ⟨⟨cert, hce⟩, rfl⟩) | ⟨⟨cert, hce⟩, rfl⟩ := hm
      · split at hm
        · grind
        · obtain ⟨⟨cert, hce⟩, rfl⟩ := by
            simpa only [mem_ite_nil_right, any_eq_true, mem_filter, mem_singleton] using hm
          grind
      · grind
      · grind
    obtain ⟨cert, hce, hk, hu, hpr, rfl⟩ | ⟨cert, hce, hk, hu, hpr, rfl⟩ | ⟨cert, hce,
      hk, hu, rfl⟩ |
      ⟨cert, hce, hk, hu, rfl⟩ | ⟨cert, hce, hk, hu, rfl⟩ := hc
    · exact ⟨cert, .sign, hce, hu, by simp [offered, hk, hpr]⟩
    · exact ⟨cert, .sign, hce, hu, by simp [offered, hk, hpr]⟩
    · exact ⟨cert, .decrypt, hce, by simp [hk, hu], rfl⟩
    · exact ⟨cert, .sign, hce, hu, by simp [offered, hk]⟩
    · exact ⟨cert, .derive, hce, by simp [hk, hu], rfl⟩
  · rintro ⟨cert, use, hce, hpe, rfl⟩
    have h := hp cert hce
    cases use <;> grind [offered]

lemma Seated.offered_fits {use : KeyUse} (h : Seated certs preAuth cert)
    (hp : cert.privateKey.permits use = true) :
    (offered preAuth cert use).fits cert.privateKey use = true := by
  have := h.policy
  cases use <;> grind [offered, CkMechanism.fits, Object.permits, CertEntry.privateKey]

/-- Whatever certificates a card has and whatever it asks for: each use that a private key permits
has an advertised mechanism with which it can begin, and each advertised mechanism has such a key;
raw RSA is not advertised beside the RSA mechanism of a card that makes the digest, whose RSA keys
are not taken for raw RSA; and a mechanism is taken with a key of its own family only. -/
theorem mechanisms_match_keys (reader : ReaderState) (certs : List NeutralCert)
    (preAuth : PreReadAuth) {s : SessionState} {h : Nat} {session : Session}
    (hslot : s.slotById session.slot = some (reader.seat certs preAuth).slot)
    (hopen : s.session h = some session) :
    let slot := (reader.seat certs preAuth).slot
    (∀ key obj use, s.resolveObject session.slot key = some obj → obj.cls = .privateKey →
      obj.permits use = true → ∃ m ∈ slot.mechanisms, s.Ready session use →
        s.Accepts h session key m use) ∧
    (∀ m ∈ slot.mechanisms, ∃ obj ∈ slot.objects, ∃ use, obj.cls = .privateKey ∧
      obj.permits use = true ∧
      ∀ key, s.resolveObject session.slot key = some obj → s.Ready session use →
        s.Accepts h session key m use) ∧
    ¬ (.rsaPkcs ∈ slot.mechanisms ∧ .sha256RsaPkcs ∈ slot.mechanisms) ∧
    ∀ key obj m use, s.resolveObject session.slot key = some obj → s.Accepts h session key m use →
      (m.isEc = true ↔ obj.keyType = .ec) ∧
        ¬ (preAuth = .can ∧ obj.keyType = .rsa ∧ m = .rsaPkcs) := by
  intro slot
  have hin {key obj} (ho : s.resolveObject session.slot key = some obj) : obj ∈ slot.objects := by
    simp only [SessionState.resolveObject, hslot, Option.bind_some] at ho
    split at ho
    · cases ho
    · exact mem_of_getElem? ho
  -- what raw RSA is offered for tells what the card asks for
  have hra (hm : CkMechanism.rsaPkcs ∈ slot.mechanisms) : preAuth ≠ .can := by
    obtain ⟨cert, use, hc, hp, hm⟩ := mem_mechanisms.mp hm
    have := hc.policy
    cases use <;> grind [offered, Object.permits, CertEntry.privateKey]
  refine ⟨fun key obj use ho hcl hp => ?_, fun m hm => ?_, fun ⟨hr, hs⟩ => ?_,
      fun key obj m use ho ha => ?_⟩
  · obtain ⟨cert, hc, rfl⟩ := mem_objects.mp ⟨hin ho, hcl⟩
    have hm : offered preAuth cert use ∈ slot.mechanisms :=
      mem_mechanisms.mpr ⟨cert, use, hc, hp, rfl⟩
    exact ⟨_, hm, fun hr => accepts_of_fits hslot ho hopen hr hm hcl hc.keyBits_ne_zero
      (hc.offered_fits hp)⟩
  · obtain ⟨cert, use, hc, hp, rfl⟩ := mem_mechanisms.mp hm
    obtain ⟨ho, hcl⟩ : _ ∈ slot.objects ∧ _ := mem_objects.mpr ⟨cert, hc, rfl⟩
    exact ⟨_, ho, use, hcl, hp, fun key hk hr =>
      accepts_of_fits hslot hk hopen hr hm hcl hc.keyBits_ne_zero (hc.offered_fits hp)⟩
  · obtain ⟨cert, use, hc, hp, hm⟩ := mem_mechanisms.mp hs
    cases use <;> grind [offered]
  · obtain ⟨hm, hcl, hf⟩ := ha.fits hslot ho hopen
    obtain ⟨cert, hc, rfl⟩ := mem_objects.mp ⟨hin ho, hcl⟩
    have := hc.policy
    cases use <;> grind [CkMechanism.fits, CkMechanism.isEc, CertEntry.privateKey]

def emptyReader : ReaderState :=
  { readerPath := [] }

def tokenCerts : List NeutralCert :=
  [{ keyType := .rsa, keyBits := 2048, signingCapable := true, keyUsageBits := 4 },
    { keyType := .ec, keyBits := 256, signingCapable := true, canDerive := true }]

def tokenState : SessionState :=
  { model := ⟨[(emptyReader.seat tokenCerts .can).slot]⟩
    slotIndex := AList.singleton 0 0
    sessions := AList.singleton 1 { slot := 0 }
    logins := AList.singleton 0 { loggedIn := true } }

theorem mechanisms_match_keys_token : ∃ m ∈ [CkMechanism.sha256RsaPkcs, .ecdsa, .ecdh1Derive],
    tokenState.Accepts 1 { slot := 0 } 6 m .derive := by
  obtain ⟨m, hm, ha⟩ :=
    (@mechanisms_match_keys emptyReader tokenCerts .can tokenState 1 { slot := 0 } rfl rfl).1 6
      { cls := .privateKey, keyType := .ec, keyBits := 256, sign := true, derive := true }
        .derive rfl rfl rfl
  exact ⟨m, hm, ha ⟨rfl, rfl⟩⟩

end

end LibreAgent.Pkcs11Agent
