import LibreAgent.Pkcs11Agent.ObjectModel
import LibreAgent.Trust.MasterListFile

/-!
# The fields of a certificate

The serial number and the names of a certificate are cut out of its encoding, element by element.

* `certificateField_exact` : what is cut lies inside the input, and is the element of the
  certificate if that is one; lengths have four octets at most, so the certificate is shorter than 2
  ^ 32 bytes (`certificateField_huge`).
-/

namespace LibreAgent.Pkcs11Agent

open Bytes Trust List Option

/-! ## The walk -/

inductive CkaType where
  | serialNumber
  | issuer
  | subject
  | other

structure DerElement where
  whole : Bytes
  content : Bytes

def takeDerElement (input : Bytes) : Option (DerElement × Bytes) :=
  match input with
  | [] => none
  | tag :: _ =>
    if tag &&& 0x1F = 0x1F then none
    else
      (readDerLength input 1).map fun len =>
        let header := 1 + len.lengthOctets
        (⟨input.take (header + len.length), (input.drop header).take len.length⟩,
          input.drop (header + len.length))

/-- `take` of `certificateField` -/
def takeTagged (input : Bytes) (tag : UInt8) : Option (DerElement × Bytes) :=
  (takeDerElement input).filter fun taken => taken.1.whole.head? = some tag

def skipVersion (fields : Bytes) : Option Bytes :=
  if fields.head? = some 0xA0 then (takeDerElement fields).map (·.2) else some fields

def certificateField (der : Bytes) (type : CkaType) : Option Bytes := do
  let (cert, _) ← takeTagged der 0x30
  let (tbs, _) ← takeTagged cert.content 0x30
  let fields ← skipVersion tbs.content
  let (serial, fields) ← takeTagged fields 0x02
  let (_, fields) ← takeTagged fields 0x30
  let (issuer, fields) ← takeTagged fields 0x30
  let (_, fields) ← takeTagged fields 0x30
  let (subject, _) ← takeTagged fields 0x30
  match type with
  | .serialNumber => some serial.whole
  | .issuer => some issuer.whole
  | .subject => some subject.whole
  | .other => none

/-! ## Inside the input -/

section
variable {input rest der : Bytes} {tag : UInt8} {e : DerElement}

lemma readDerLength_inside {pos : Nat} {len : DerLength} (h : readDerLength input pos = some len) :
    pos + len.lengthOctets + len.length ≤ input.length := by
  grind [readDerLength]

lemma takeDerElement_inside (h : takeDerElement input = some (e, rest)) (hin : input <:+: der) :
    e.whole <:+: der ∧ e.content <:+: der ∧ rest <:+: der := by
  cases input with
  | nil => cases h
  | cons tag tail =>
    simp only [takeDerElement] at h
    split at h
    · cases h
    · obtain ⟨len, -, heq⟩ := map_eq_some_iff.mp h
      cases heq
      exact ⟨( take_prefix _ _).isInfix.trans hin,
        ( take_prefix _ _).isInfix.trans ((drop_suffix _ _).isInfix.trans hin),
          (drop_suffix _ _).isInfix.trans hin⟩

lemma takeTagged_inside (h : takeTagged input tag = some (e, rest)) (hin : input <:+: der) :
    e.whole <:+: der ∧ e.content <:+: der ∧ rest <:+: der :=
  takeDerElement_inside (filter_eq_some_iff.mp h).1 hin

lemma certificateField_inside {type : CkaType} {field : Bytes}
    (h : certificateField der type = some field) : field <:+: der := by
  simp only [certificateField, bind_eq_bind, bind_eq_some_iff] at h
  obtain ⟨⟨cert, _⟩, hc, ⟨tbs, _⟩, htb, fields, hf, ⟨serial, _⟩, hs, ⟨algorithm, _⟩, ha,
    ⟨issuer, _⟩, hi, ⟨validity, _⟩, hv, ⟨subject, _⟩, hsu, ht⟩ := h
  have hc := takeTagged_inside hc infix_rfl
  have htb := takeTagged_inside htb hc.2.1
  have hf : fields <:+: der := by
    unfold skipVersion at hf
    split at hf
    · obtain ⟨⟨version, _⟩, hve, rfl⟩ := map_eq_some_iff.mp hf
      exact (takeDerElement_inside hve htb.2.1).2.2
    · cases hf
      exact htb.2.1
  have hs := takeTagged_inside hs hf
  have ha := takeTagged_inside ha hs.2.2
  have hi := takeTagged_inside hi ha.2.2
  have hv := takeTagged_inside hv hi.2.2
  have hsu := takeTagged_inside hsu hv.2.2
  cases type with
  | serialNumber => exact some.inj ht ▸ hs.1
  | issuer => exact some.inj ht ▸ hi.1
  | subject => exact some.inj ht ▸ hsu.1
  | other => cases ht

end

/-! ## Certificates -/

def derLength (n : Nat) : Bytes :=
  if n < 128 then [UInt8.ofNat n] else UInt8.ofNat (0x80 + (Nat.log 256 n + 1)) ::
    be (Nat.log 256 n + 1) n

def derElement (tag : UInt8) (content : Bytes) : Bytes :=
  tag :: (derLength content.length ++ content)

/-- a certificate of RFC 5280, by the contents of its elements -/
structure X509 where
  version : Option Bytes
  serialNumber : Bytes
  signature : Bytes
  issuer : Bytes
  validity : Bytes
  subject : Bytes
  /-- the public key, the unique identifiers and the extensions -/
  further : Bytes
  /-- the algorithm and the value of the signature -/
  signed : Bytes

namespace X509

variable (cert : X509)

def tbs : Bytes :=
  (cert.version.map (derElement 0xA0)).getD [] ++
    (derElement 0x02 cert.serialNumber ++ (derElement 0x30 cert.signature ++
    (derElement 0x30 cert.issuer ++ (derElement 0x30 cert.validity ++
      (derElement 0x30 cert.subject ++ cert.further)))))

def content : Bytes :=
  derElement 0x30 cert.tbs ++ cert.signed

def encode : Bytes :=
  derElement 0x30 cert.content

def field : CkaType → Option Bytes
  | .serialNumber => some (derElement 0x02 cert.serialNumber)
  | .issuer => some (derElement 0x30 cert.issuer)
  | .subject => some (derElement 0x30 cert.subject)
  | .other => none

end X509

lemma ofBe_eq_foldl (bs rest : Bytes) (acc : Nat) :
    ofBe acc bs.length (bs ++ rest) = some (bs.foldl (fun v b => v * 256 + b.toNat) acc, rest) := by
  induction bs generalizing acc with
  | nil => rfl
  | cons b bs ih => exact ih _

lemma foldl_be {k n : Nat} (h : n < 256 ^ k) :
    (be k n).foldl (fun v b => v * 256 + b.toNat) 0 = n := by
  have hr := ofBe_eq_foldl (be k n) [] 0
  rw [length_be, ofBe_be_of_lt h] at hr
  simpa using hr.symm

section
variable {tag : UInt8} {content rest : Bytes}

lemma readDerLength_short {first : UInt8} (hf : first &&& 0x80 = 0)
    (h : first.toNat ≤ rest.length) :
    readDerLength (tag :: first :: rest) 1 = some ⟨first.toNat, 1⟩ := by
  simp [readDerLength, hf, h]

lemma readDerLength_long {first : UInt8} {octets : Bytes} (hf : first &&& 0x80 ≠ 0)
    (hc : (first &&& 0x7F).toNat = octets.length) (hne : octets ≠ [])
    (hm : octets.length ≤ kMaxDerLengthOctets)
    (h : octets.foldl (fun v b => v * 256 + b.toNat) 0 ≤ rest.length) :
    readDerLength (tag :: first :: (octets ++ rest)) 1 =
      some ⟨octets.foldl (fun v b => v * 256 + b.toNat) 0, 1 + octets.length⟩ := by
  simp only [readDerLength]
  simp [hf, hc, hne]
  omega

lemma readDerLength_derElement (tag : UInt8) (rest : Bytes) (h : content.length < 2 ^ 32) :
    readDerLength (derElement tag content ++ rest) 1 =
      some ⟨content.length, (derLength content.length).length⟩ := by
  unfold derElement derLength
  split
  · next hs =>
    have hf : ∀ n < 128, UInt8.ofNat n &&& 0x80 = 0 ∧ (UInt8.ofNat n).toNat = n := by decide
    obtain ⟨hb, ht⟩ := hf _ hs
    have hr : readDerLength (tag :: _ :: (content ++ rest)) 1 = _ :=
      readDerLength_short hb (by simp [ht])
    simpa [ht] using hr
  · next hl =>
    have hk : Nat.log 256 content.length < 4 := Nat.log_lt_of_lt_pow (by omega) h
    have hv := foldl_be (Nat.lt_pow_succ_log_self (by decide : 1 < 256) content.length)
    generalize Nat.log 256 content.length = k at hk hv
    have hf : ∀ k < 4, UInt8.ofNat (0x80 + (k + 1)) &&& 0x80 ≠ 0 ∧
      (UInt8.ofNat (0x80 + (k + 1)) &&& 0x7F).toNat = k + 1 := by
      decide
    obtain ⟨hb, hc⟩ := hf k hk
    have hr : readDerLength (tag :: _ :: (be (k + 1) content.length ++ (content ++ rest))) 1 = _ :=
      readDerLength_long hb (hc.trans (length_be _ _).symm) (cons_ne_nil _ _)
        ((length_be _ _).trans_le (Nat.succ_le_of_lt hk)) (by simp [hv])
    rw [hv] at hr
    simpa [Nat.add_comm] using hr

lemma takeDerElement_derElement (rest : Bytes) (h : content.length < 2 ^ 32)
    (ht : tag &&& 0x1F ≠ 0x1F) :
    takeDerElement (derElement tag content ++ rest) =
      some (⟨derElement tag content, content⟩, rest) := by
  have hl : 1 + (derLength content.length).length + content.length =
    (derElement tag content).length := by
    simp [derElement]
    omega
  have hd : (derElement tag content ++ rest).drop (1 + (derLength content.length).length) =
    content ++ rest := by
    simp [derElement, Nat.add_comm 1]
  have hu : takeDerElement (derElement tag content ++ rest) =
      (readDerLength (derElement tag content ++ rest) 1).map _ := if_neg ht
  rw [hu, readDerLength_derElement tag rest h]
  simp [map_some, hl, hd]

lemma takeTagged_derElement (rest : Bytes) (h : content.length < 2 ^ 32)
    (ht : tag &&& 0x1F ≠ 0x1F) :
    takeTagged (derElement tag content ++ rest) tag =
      some (⟨derElement tag content, content⟩, rest) := by
  rw [takeTagged, takeDerElement_derElement rest h ht]
  simp [derElement]

end

lemma skipVersion_tbs (cert : X509) (h : cert.tbs.length < 2 ^ 32) :
    skipVersion cert.tbs = some (derElement 0x02 cert.serialNumber ++
      (derElement 0x30 cert.signature ++
      (derElement 0x30 cert.issuer ++ (derElement 0x30 cert.validity ++
        (derElement 0x30 cert.subject ++ cert.further))))) := by
  unfold X509.tbs at h ⊢
  cases hv : cert.version with
  | none => simp [skipVersion, derElement]
  | some version =>
    have hs : version.length < 2 ^ 32 := by
      simp [hv, derElement] at h
      omega
    rw [map_some, getD_some, skipVersion, takeDerElement_derElement _ hs (by decide)]
    simp [derElement]

/-- A length that is read leaves its value inside the input, and so is whatever is returned, for any
input; for a certificate of less than 2 ^ 32 bytes it is the encoded serial number, issuer or
subject. -/
theorem certificateField_exact :
    (∀ input pos, ∀ len ∈ readDerLength input pos, pos + len.lengthOctets + len.length ≤
      input.length) ∧
      (∀ der type, ∀ field ∈ certificateField der type, field <:+: der) ∧
      ∀ (cert : X509) (type : CkaType), cert.content.length < 2 ^ 32 →
        certificateField cert.encode type = cert.field type := by
  refine ⟨fun _ _ _ h => readDerLength_inside h, fun _ _ _ h => certificateField_inside h,
      fun cert type h => ?_⟩
  have ht : cert.tbs.length < 2 ^ 32 := by
    simp [X509.content, derElement] at h
    omega
  have hf := ht
  simp only [X509.tbs, derElement, length_append, length_cons] at hf
  have hc : takeTagged (derElement 0x30 cert.content ++ []) 0x30 = _ :=
    takeTagged_derElement [] h (by decide)
  rw [append_nil] at hc
  simp only [certificateField, X509.encode, hc, bind_eq_bind, bind_some]
  simp (disch := first | omega | decide) only [X509.content, takeTagged_derElement,
      skipVersion_tbs, bind_some]
  cases type <;> rfl

/-- a name of one attribute, `2.5.4.n` -/
def nameOf (n : UInt8) (value : Bytes) : Bytes :=
  derElement 0x31 (derElement 0x30 ([0x06, 0x03, 0x55, 0x04, n] ++ derElement 0x0C value))

/-- version 3, from the country XS for the common name card, with a key of 64 bytes -/
def cardCertificate : X509 where
  version := some [0x02, 0x01, 0x02]
  serialNumber := [0x12, 0x34]
  signature := [0x06, 0x08, 0x2A, 0x86, 0x48, 0xCE, 0x3D, 0x04, 0x03, 0x02]
  issuer := nameOf 6 [0x58, 0x53]
  validity := derElement 0x17 (replicate 13 0x30) ++ derElement 0x17 (replicate 13 0x39)
  subject := nameOf 3 [0x63, 0x61, 0x72, 0x64]
  further := derElement 0x30 (derElement 0x30 [0x06, 0x00] ++ derElement 0x03 (replicate 66 0x04))
  signed := derElement 0x30 [0x06, 0x00] ++ derElement 0x03 (replicate 71 0x30)

/-- the three fields of a certificate whose length needs the long form -/
theorem certificateField_exact_issuer : 0x81 ∈ cardCertificate.encode.take 2 ∧
    certificateField cardCertificate.encode .serialNumber = some [0x02, 2, 0x12, 0x34] ∧
    certificateField cardCertificate.encode .issuer
      = some [0x30, 13, 0x31, 11, 0x30, 9, 0x06, 3, 0x55, 4, 6, 0x0C, 2, 0x58, 0x53] ∧
    certificateField cardCertificate.encode .subject
      = some [0x30, 15, 0x31, 13, 0x30, 11, 0x06, 3, 0x55, 4, 3, 0x0C, 4, 0x63, 0x61,
        0x72, 0x64] := by
  have h (type : CkaType) : certificateField cardCertificate.encode type =
    cardCertificate.field type :=
    certificateField_exact.2.2 cardCertificate type (by decide +kernel)
  exact ⟨by decide +kernel, h .serialNumber, h .issuer, h .subject⟩

lemma takeDerElement_huge {tag : UInt8} {content : Bytes} (h : 2 ^ 32 ≤ content.length)
    (h' : content.length < 2 ^ 40) : takeDerElement (derElement tag content) = none := by
  have hlo : Nat.log 256 content.length = 4 := Nat.log_eq_of_pow_le_of_lt_pow h h'
  have hl : ¬ content.length < 128 := by omega
  simp [takeDerElement, derElement, derLength, hl, hlo, readDerLength, kMaxDerLengthOctets]
  exact fun _ hb => absurd hb (by decide)

lemma certificateField_long (cert : X509) (type : CkaType) (h : 2 ^ 32 ≤ cert.content.length)
    (h' : cert.content.length < 2 ^ 40) : certificateField cert.encode type = none := by
  simp [certificateField, takeTagged, X509.encode, takeDerElement_huge h h']

/-- the length of the certificate has five octets -/
theorem certificateField_huge : ∃ cert : X509, certificateField cert.encode .serialNumber ≠
    cert.field .serialNumber := by
  obtain ⟨signed, h⟩ : ∃ signed : Bytes, signed.length = 2 ^ 32 :=
    ⟨replicate (2 ^ 32) 0, length_replicate⟩
  refine ⟨⟨none, [], [], [], [], [], [], signed⟩, ?_⟩
  rw [certificateField_long] <;> simp [X509.field, X509.content, X509.tbs, derElement, derLength, h]

end LibreAgent.Pkcs11Agent
