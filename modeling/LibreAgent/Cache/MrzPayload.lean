import LibreAgent.Lib.Bytes

/-!
# The machine-readable zone as a prompter sends it (`cache/MrzPayload.h`)

A payload is three lines: the document number, the date of birth and the date of expiry, each
followed by its check digit.  `parseMrzPayload` takes it apart.
-/

namespace LibreAgent.Cache

open Bytes

structure MrzParts where
  /-- the three fields with their check digits -/
  mrzInfo : Bytes
  documentNumber : Bytes
  dateOfBirth : Bytes
  dateOfExpiry : Bytes
  deriving DecidableEq

def newline : UInt8 := 10

def filler : UInt8 := 60

def isDigit (c : UInt8) : Bool := 48 ≤ c && c ≤ 57

def isUpper (c : UInt8) : Bool := 65 ≤ c && c ≤ 90

def mrzValue (c : UInt8) : Option Nat :=
  if isDigit c then some (c.toNat - 48)
  else if isUpper c then some (c.toNat - 65 + 10)
  else if c = filler then some 0
  else none

def mrzWeight (i : Nat) : Nat :=
  match i % 3 with
  | 0 => 7
  | 1 => 3
  | _ => 1

/-- the weighted sum of the characters from place `i` on -/
def mrzSum (i : Nat) : Bytes → Option Nat
  | [] => some 0
  | c :: rest => do
    let value ← mrzValue c
    let sum ← mrzSum (i + 1) rest
    return value * mrzWeight i + sum

def mrzCheckDigit (field : Bytes) : Option Nat :=
  (mrzSum 0 field).map (· % 10)

def isDocNumberField (f : Bytes) : Bool :=
  f.length = 10 && (f.take 9).all (fun c => isUpper c || isDigit c || c = filler) &&
    (f.drop 9).all isDigit

def isDateField (f : Bytes) : Bool :=
  f.length = 7 && f.all isDigit

def checkDigitVerifies (field : Bytes) : Bool :=
  match mrzCheckDigit field.dropLast with
  | none => false
  | some digit => field.getLast? = some (UInt8.ofNat (48 + digit))

def splitLine : Bytes → Option (Bytes × Bytes)
  | [] => none
  | c :: rest =>
    if c = newline then some ([], rest)
    else (splitLine rest).map fun (line, after) => (c :: line, after)

def parseMrzPayload (payload : Bytes) : Option MrzParts := do
  let (f1, rest) ← splitLine payload
  let (f2, f3) ← splitLine rest
  if newline ∈ f3 then none
  else if ¬ isDocNumberField f1 ∨ ¬ isDateField f2 ∨ ¬ isDateField f3 then none
  else if ¬ checkDigitVerifies f1 ∨ ¬ checkDigitVerifies f2 ∨ ¬ checkDigitVerifies f3 then none
  else
    return {
      mrzInfo := f1 ++ f2 ++ f3
      documentNumber := f1.take 9
      dateOfBirth := f2.take 6
      dateOfExpiry := f3.take 6 }

end LibreAgent.Cache
