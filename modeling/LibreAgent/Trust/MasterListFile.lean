import LibreAgent.Lib.Text

/-!
# The master lists in a file

A person hands in a file: one published list, or a directory export (LDIF) with a collection of
them. What is taken out of an export is what parses as a signed object, whatever its attribute is
called.
-/

namespace LibreAgent.Trust

open Bytes Text

/-! ## Signed objects -/

def kMaxDerLengthOctets : Nat := 4

structure DerLength where
  length : Nat
  /-- the octets of the length itself -/
  lengthOctets : Nat

/-- the definite length at a position, if the value it declares lies inside the data -/
def readDerLength (data : Bytes) (pos : Nat) : Option DerLength :=
  let inside (value lengthOctets : Nat) : Option DerLength :=
    if value > data.length - pos - lengthOctets then none else some ⟨value, lengthOctets⟩
  match data[pos]? with
  | none => none
  | some first =>
    if first &&& 0x80 ≠ 0 then
      let octets := (first &&& 0x7F).toNat
      if octets = 0 ∨ octets > kMaxDerLengthOctets ∨ octets > data.length - pos - 1 then none
      else inside (((data.drop (pos + 1)).take octets).foldl (fun v b => v * 256 + b.toNat) 0)
        (1 + octets)
    else inside first.toNat 1

/-- `id-signedData` with its tag and length -/
def kSignedDataOid : Bytes :=
  [0x06, 0x09, 0x2a, 0x86, 0x48, 0x86, 0xf7, 0x0d, 0x01, 0x07, 0x02]

def outerHeader (value : Bytes) : Option Nat :=
  if value[1]? = some 0x80 then
    if value.drop (value.length - 2) = [0, 0] then some 2 else none
  else
    (readDerLength value 1).bind fun l =>
      if 1 + l.lengthOctets + l.length = value.length then some (1 + l.lengthOctets) else none

def isSignedObject (value : Bytes) : Bool :=
  if value.length < 2 + kSignedDataOid.length then false
  else if value.head? ≠ some 0x30 then false
  else match outerHeader value with
    | none => false
    | some header => kSignedDataOid.isPrefixOf (value.drop header)

/-! ## Base64 -/

def base64Digit (c : UInt8) : Option Nat :=
  if 65 ≤ c ∧ c ≤ 90 then some (c.toNat - 65)
  else if 97 ≤ c ∧ c ≤ 122 then some (c.toNat - 97 + 26)
  else if 48 ≤ c ∧ c ≤ 57 then some (c.toNat - 48 + 52)
  else if c = 43 then some 62
  else if c = 47 then some 63
  else none

def padding : UInt8 := 61

def groupByte (triple shift : Nat) : UInt8 :=
  UInt8.ofNat (triple / 2 ^ shift)

/-- four characters: padding may stand only in the last group, as its last one or two characters -/
def decodeGroup (last : Bool) (a b c d : UInt8) : Option Bytes := do
  let v0 ← base64Digit a
  let v1 ← base64Digit b
  if c = padding then
    if d = padding ∧ last then
      return [groupByte (v0 * 2 ^ 18 + v1 * 2 ^ 12) 16]
    else none
  else
    let v2 ← base64Digit c
    let high := v0 * 2 ^ 18 + v1 * 2 ^ 12 + v2 * 2 ^ 6
    if d = padding then
      if last then return [groupByte high 16, groupByte high 8] else none
    else
      let v3 ← base64Digit d
      return [groupByte (high + v3) 16, groupByte (high + v3) 8, groupByte (high + v3) 0]

def decodeGroups : Bytes → Option Bytes
  | [] => some []
  | a :: b :: c :: d :: rest => do
    let group ← decodeGroup rest.isEmpty a b c d
    let out ← decodeGroups rest
    return group ++ out
  | _ => none

def decodeBase64 (encoded : Bytes) : Option Bytes :=
  if encoded = [] ∨ encoded.length % 4 ≠ 0 then none else decodeGroups encoded

/-! ## Directory exports -/

def isTypeStart (c : UInt8) : Bool :=
  (97 ≤ c && c ≤ 122) || (65 ≤ c && c ≤ 90) || (48 ≤ c && c ≤ 57)

def isTypeChar (c : UInt8) : Bool :=
  isTypeStart c || c == 45 || c == 46 || c == 59

def isDescription : Bytes → Bool
  | [] => false
  | c :: rest => isTypeStart c && rest.all isTypeChar

def isDistinguishedName (description : Bytes) : Bool :=
  description == lit "dn" || description == lit "dN" || description == lit "Dn" ||
    description == lit "DN"

def signedObjectIn : Bytes → Option Bytes
  | 58 :: encoded =>
    let stripped := (encoded.dropWhile fun c => c == 32 || c == 9).rdropWhile
      fun c => c == 32 || c == 9 || c == 13
    (decodeBase64 stripped).filter isSignedObject
  | _ => none

/-- a logical line: none if it is not LDIF, else whether it names a `dn` and what it carries -/
def considerLine (line : Bytes) : Option (Bool × Option Bytes) :=
  if line = [] ∨ line.head? = some 35 then some (false, none)
  else (cutAt 58 line).bind fun p =>
    if isDescription p.1 then some (isDistinguishedName p.1, signedObjectIn p.2) else none

def physicalLine (line : Bytes) : Bytes :=
  if line.getLast? = some 13 then line.dropLast else line

def logicalLines (logical : Bytes) : List Bytes → List Bytes
  | [] => [logical]
  | (32 :: rest) :: lines => logicalLines (logical ++ rest) lines
  | line :: lines => logical :: logicalLines line lines

def unfoldLines : List Bytes → List Bytes
  | [] => []
  | (32 :: rest) :: lines => logicalLines rest lines
  | line :: lines => logicalLines line lines

/-- every record names a `dn`; nothing is taken from a text that is not LDIF throughout -/
def signedObjectsInLdif (bytes : Bytes) : List Bytes :=
  match (unfoldLines ((pieces 10 bytes).map physicalLine)).mapM considerLine with
  | none => []
  | some lines => if lines.any Prod.fst then lines.filterMap Prod.snd else []

def masterListsIn (fileBytes : Bytes) : List Bytes :=
  if isSignedObject fileBytes then [fileBytes]
  else if (0 : UInt8) ∈ fileBytes then []
  else signedObjectsInLdif fileBytes

end LibreAgent.Trust
