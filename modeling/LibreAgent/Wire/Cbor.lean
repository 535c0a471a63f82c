import LibreAgent.Lib.OrdMap
import LibreAgent.Wire.Qcbor

/-!
# The CBOR value and its codec (`Cbor.h`, `Cbor.cpp`)

* `readValue` / `decode` : the bounded reader and the re-encode comparison.
-/

namespace LibreAgent.Wire

open Bytes Rfc8949 OrdMap

def CanonicalKeyLess (a b : Bytes) : Prop :=
  if a.length ≠ b.length then a.length < b.length else lexLess a b

instance : DecidableRel CanonicalKeyLess := fun a b =>
  inferInstanceAs (Decidable (if a.length ≠ b.length then a.length < b.length else lexLess a b))

lemma canonicalKeyLess_eq : CanonicalKeyLess = shortLess := by
  funext a b
  unfold CanonicalKeyLess shortLess
  by_cases h : a.length = b.length <;> simp [h]

instance : IsStrictTotalOrder Bytes CanonicalKeyLess :=
  canonicalKeyLess_eq ▸ inferInstanceAs (IsStrictTotalOrder Bytes shortLess)

inductive CborError where
  | malformed
  | notCanonical
  | tooDeep
  | tooManyItems
  | trailingBytes
  | unsupportedType
deriving DecidableEq

/-- doubles are bit patterns; map entries stand in `CanonicalKeyLess` order -/
inductive CborValue where
  | null
  | bool (b : Bool)
  | uint (u : UInt64)
  | int (i : Int64)
  | double (d : BitVec 64)
  | text (s : Bytes)
  | bytes (b : Bytes)
  | array (xs : List CborValue)
  | map (m : List (Bytes × CborValue))

/-- `CborValue::Map` -/
abbrev CborMap := List (Bytes × CborValue)

/-- `kMaxCborDepth` -/
def kMaxCborDepth : Nat := 16

/-- `kMaxCborItems` -/
def kMaxCborItems : Nat := 4096

namespace CborValue

/-! ## Constructors and accessors -/

/-- the unsigned constructor stores what fits an `int64_t` as one -/
def ofUInt64 (u : UInt64) : CborValue :=
  if u.toNat ≤ int64Max then .int u.toInt64 else .uint u

def asBool : CborValue → Option Bool
  | bool b => some b
  | _ => none

def asUInt : CborValue → Option UInt64
  | uint u => some u
  | int i => if 0 ≤ i then some i.toUInt64 else none
  | _ => none

def asInt : CborValue → Option Int64
  | int i => some i
  | _ => none

def asDouble : CborValue → Option (BitVec 64)
  | double d => some d
  | _ => none

def asText : CborValue → Option Bytes
  | text s => some s
  | _ => none

def asBytes : CborValue → Option Bytes
  | bytes b => some b
  | _ => none

def asArray : CborValue → Option (List CborValue)
  | array xs => some xs
  | _ => none

def asMap : CborValue → Option CborMap
  | map m => some m
  | _ => none

/-- a value that the public constructors can make -/
inductive Built : CborValue → Prop
  | null : Built null
  | bool (b : Bool) : Built (bool b)
  | ofUInt64 (u : UInt64) : Built (ofUInt64 u)
  | int (i : Int64) : Built (int i)
  | double (d : BitVec 64) : Built (double d)
  | text (s : Bytes) : Built (text s)
  | bytes (b : Bytes) : Built (bytes b)
  | array (xs : List CborValue) : (∀ x ∈ xs, Built x) → Built (array xs)
  | map (m : CborMap) : Sorted CanonicalKeyLess m → (∀ p ∈ m, Built p.2) → Built (map m)

mutual
/-- `operator==`: the same alternative and the same contents, doubles compared as doubles -/
def beq : CborValue → CborValue → Bool
  | null, null => true
  | bool a, bool b => a == b
  | uint a, uint b => a == b
  | int a, int b => a == b
  | double a, double b => Ieee.eq a b
  | text a, text b => a == b
  | bytes a, bytes b => a == b
  | array xs, array ys => beqAll xs ys
  | map m, map n => beqEntries m n
  | _, _ => false

def beqAll : List CborValue → List CborValue → Bool
  | [], [] => true
  | x :: xs, y :: ys => beq x y && beqAll xs ys
  | _, _ => false

def beqEntries : CborMap → CborMap → Bool
  | [], [] => true
  | (k, x) :: m, (k', y) :: n => k == k' && beq x y && beqEntries m n
  | _, _ => false
end

/-! ## Encoding -/

/-- `QCBOREncode_AddDouble` only where its shifts stay in range, else the encoder of the width
that is already known -/
def addPreferredDouble (d : BitVec 64) : Call :=
  let exponent : Int := ((d >>> 52) &&& 0x7ff#64).toNat - 1023
  let regular := exponent ≠ -1023 ∧ exponent ≠ 1024
  let singleNormal := -126 ≤ exponent ∧ exponent ≤ 127 ∧ d &&& ((1#64 <<< 29) - 1#64) = 0#64
  let halfNormal := -14 ≤ exponent ∧ exponent ≤ 15 ∧ d &&& ((1#64 <<< 42) - 1#64) = 0#64
  if regular ∧ ¬ singleNormal then
    if exponent < -149 ∨ exponent > -127 then .addDoubleNoPreferred d else .addDouble d
  else if regular then
    -- the cast to float is exact: the value is a normal number of that width
    if ¬ halfNormal ∧ (exponent < -24 ∨ exponent > -15) then
      .addFloatNoPreferred (Ieee.narrowSingle d)
    else .addDouble d
  else .addDouble d

mutual
def encodeValue : CborValue → List Call
  | null => [.addNull]
  | bool b => [.addBool b]
  | uint u => [.addUInt64 u]
  | int i => [.addInt64 i]
  | double d => [addPreferredDouble d]
  | text s => [.addText s]
  | bytes b => [.addBytes b]
  | array xs => .openArray :: (encodeElems xs ++ [.closeArray])
  | map m => .openMap :: (encodeEntries m ++ [.closeMap])

def encodeElems : List CborValue → List Call
  | [] => []
  | x :: xs => encodeValue x ++ encodeElems xs

def encodeEntries : CborMap → List Call
  | [] => []
  | (key, val) :: m => .addText key :: (encodeValue val ++ encodeEntries m)
end

/-- `CborValue::encode`: a sizing pass, then the pass into the buffer; empty on any error -/
def encode (q : Qcbor) (v : CborValue) : Bytes :=
  match q.finishGetSize (encodeValue v) with
  | none => []
  | some size =>
    match q.finish size (encodeValue v) with
    | none => []
    | some out => out

end CborValue

/-! ## Decoding -/

section
variable (q : Qcbor)

abbrev Reading (q : Qcbor) (α : Type) := Except CborError (α × Nat × q.Ctx)

/-- the loop over the elements of an array; `rd` reads one element -/
def readElems (rd : QItem → Nat → q.Ctx → Reading q CborValue) :
    Nat → List CborValue → Nat → q.Ctx → Reading q (List CborValue)
  | 0, arr, budget, c => .ok (arr, budget, c)
  | n + 1, arr, budget, c =>
    match q.getNext c with
    | none => .error .malformed
    | some (child, c) =>
      match rd child budget c with
      | .error e => .error e
      | .ok (v, budget, c) => readElems rd n (arr ++ [v]) budget c

def readEntries (rd : QItem → Nat → q.Ctx → Reading q CborValue) :
    Nat → CborMap → Nat → q.Ctx → Reading q CborMap
  | 0, m, budget, c => .ok (m, budget, c)
  | n + 1, m, budget, c =>
    match q.getNext c with
    | none => .error .malformed
    | some (child, c) =>
      match child.label with
      | .textString key =>
        match rd child budget c with
        | .error e => .error e
        | .ok (v, budget, c) =>
          if (find key m).isSome then .error .notCanonical
          else readEntries rd n (emplace CanonicalKeyLess key v m) budget c
      | _ => .error .unsupportedType

/-- `room` is `kMaxCborDepth + 1 - depth` -/
def readValue : (room : Nat) → QItem → (budget : Nat) → q.Ctx → Reading q CborValue
  | 0, _, _, _ => .error .tooDeep
  | room + 1, item, budget, c =>
    if budget = 0 then .error .tooManyItems
    else
      let budget := budget - 1
      match item.val with
      | .int64 i => .ok (.int i, budget, c)
      | .uint64 u => .ok (.ofUInt64 u, budget, c)
      | .bool b => .ok (.bool b, budget, c)
      | .null => .ok (.null, budget, c)
      | .double d => .ok (.double d, budget, c)
      | .textString s => .ok (.text s, budget, c)
      | .byteString b => .ok (.bytes b, budget, c)
      | .array count =>
        if count = countIndefinite then .error .notCanonical
        else
          match readElems q (readValue room) count.toNat [] budget c with
          | .error e => .error e
          | .ok (xs, budget, c) => .ok (.array xs, budget, c)
      | .map count =>
        if count = countIndefinite then .error .notCanonical
        else
          match readEntries q (readValue room) count.toNat [] budget c with
          | .error e => .error e
          | .ok (m, budget, c) => .ok (.map m, budget, c)
      | .other => .error .unsupportedType

def decode (bytes : Bytes) : Except CborError CborValue :=
  match q.getNext (q.init bytes) with
  | none => .error .malformed
  | some (item, c) =>
    match readValue q (kMaxCborDepth + 1) item kMaxCborItems c with
    | .error e => .error e
    | .ok (value, _, c) =>
      if ¬ q.decodeFinish c then .error .trailingBytes
      else if value.encode q = bytes then .ok value
      else .error .notCanonical

end

/-! ## Sizes -/

namespace CborValue

mutual
/-- items of the value: what `readValue` charges to the budget -/
def items : CborValue → Nat
  | array xs => 1 + itemsAll xs
  | map m => 1 + itemsEntries m
  | _ => 1

def itemsAll : List CborValue → Nat
  | [] => 0
  | x :: xs => x.items + itemsAll xs

def itemsEntries : CborMap → Nat
  | [] => 0
  | (_, x) :: m => x.items + itemsEntries m
end

mutual
def depth : CborValue → Nat
  | array xs => depthAll xs
  | map m => depthEntries m
  | _ => 0

def depthAll : List CborValue → Nat
  | [] => 0
  | x :: xs => max (x.depth + 1) (depthAll xs)

def depthEntries : CborMap → Nat
  | [] => 0
  | (_, x) :: m => max (x.depth + 1) (depthEntries m)
end

mutual
def nesting : CborValue → Nat
  | array xs => nestingAll xs + 1
  | map m => nestingEntries m + 1
  | _ => 0

def nestingAll : List CborValue → Nat
  | [] => 0
  | x :: xs => max x.nesting (nestingAll xs)

def nestingEntries : CborMap → Nat
  | [] => 0
  | (_, x) :: m => max x.nesting (nestingEntries m)
end

/-- within the caps `decode` applies -/
structure InCaps (v : CborValue) : Prop where
  depth : v.depth ≤ kMaxCborDepth
  items : v.items ≤ kMaxCborItems

mutual
def noNaN : CborValue → Bool
  | double d => !Ieee.isNaN d
  | array xs => noNaNAll xs
  | map m => noNaNEntries m
  | _ => true

def noNaNAll : List CborValue → Bool
  | [] => true
  | x :: xs => x.noNaN && noNaNAll xs

def noNaNEntries : CborMap → Bool
  | [] => true
  | (_, x) :: m => x.noNaN && noNaNEntries m
end

end CborValue

end LibreAgent.Wire
