import LibreAgent.Pkcs11Agent.CertificateField

/-!
# Lengths that an attacker chose

`readDerLength` and `takeDerElement` again with every read and every `size_t` computation checked,
and the framing of signed objects.

* `readDerLengthChecked_eq`, `takeDerElementChecked_eq` : no check fails;
* `der_reading_safe` : and what is accepted with a definite length has no accepted proper prefix or
  extension.
-/

namespace LibreAgent.Util

open Trust Pkcs11Agent List

/-! ## Checked readings -/

/-- a result of `size_t` arithmetic; `none` is a wrap-around -/
def sizeT (n : Int) : Option Nat := if 0 ≤ n ∧ n < 2 ^ 64 then some n.toNat else none

def accumulate (data : Bytes) : Nat → Nat → Nat → Option Nat
  | _, 0, value => some value
  | at', octets + 1, value => do
    let byte ← data[at']?
    let value ← sizeT (value * 256 + byte.toNat)
    accumulate data (at' + 1) octets value

def containedLength (data : Bytes) (pos value lengthOctets : Nat) : Option (Option DerLength) := do
  let behind ← sizeT (data.length - pos)
  let left ← sizeT (behind - lengthOctets)
  some (if value > left then none else some ⟨value, lengthOctets⟩)

/-- `none` is a read outside the data or a wrap-around -/
def readDerLengthChecked (data : Bytes) (pos : Nat) : Option (Option DerLength) :=
  if pos ≥ data.length then some none
  else do
    let first ← data[pos]?
    if first &&& 0x80 ≠ 0 then
      let octets := (first &&& 0x7F).toNat
      if octets = 0 ∨ octets > kMaxDerLengthOctets then some none
      else do
        let behind ← sizeT (data.length - pos)
        let left ← sizeT (behind - 1)
        if octets > left then some none
        else do
          let value ← accumulate data (pos + 1) octets 0
          containedLength data pos value (1 + octets)
    else containedLength data pos first.toNat 1

def subspan (input : Bytes) (offset count : Nat) : Option Bytes :=
  if offset ≤ input.length ∧ count ≤ input.length - offset then some
    ((input.drop offset).take count) else none

def cutElement (input : Bytes) (len : DerLength) : Option (DerElement × Bytes) := do
  let header ← sizeT (1 + len.lengthOctets)
  let total ← sizeT (header + len.length)
  let whole ← subspan input 0 total
  let content ← subspan input header len.length
  let rest ← subspan input total (input.length - total)
  some (⟨whole, content⟩, rest)

def takeDerElementChecked (input : Bytes) : Option (Option (DerElement × Bytes)) :=
  match input with
  | [] => some none
  | tag :: _ =>
    if tag &&& 0x1F = 0x1F then some none
    else
      match readDerLengthChecked input 1 with
      | none => none
      | some none => some none
      | some (some len) => (cutElement input len).map some

lemma sizeT_eq {n : Int} {m : Nat} (h : n = m) (hm : m < 2 ^ 64) : sizeT n = some m := by
  subst h
  rw [sizeT, if_pos (by omega), Int.toNat_natCast]

section
variable {data : Bytes} (hd : data.length < 2 ^ 64) {pos : Nat}

lemma subspan_eq {offset count : Nat} (h : offset + count ≤ data.length) :
    subspan data offset count = some ((data.drop offset).take count) := if_pos (by omega)

/-- at most eight octets: with `k` of them read the value is below `256 ^ k` -/
lemma accumulate_eq {octets : Nat} (value k : Nat) (hin : pos + octets ≤ data.length)
    (hk : k + octets ≤ 8) (hv : value < 256 ^ k) :
    accumulate data pos octets value = some
      (((data.drop pos).take octets).foldl (fun v b => v * 256 + b.toNat) value) := by
  induction octets generalizing pos value k with
  | zero => rfl
  | succ octets ih =>
    have hlt : pos < data.length := by omega
    have hb : (data[pos]).toNat < 256 := UInt8.toNat_lt _
    have hn : value * 256 + (data[pos]).toNat < 256 ^ (k + 1) := by
      rw [pow_succ]
      omega
    have h64 : 256 ^ (k + 1) ≤ 256 ^ 8 := Nat.pow_le_pow_right (by decide) (by omega)
    have hs : sizeT (value * 256 + (data[pos]).toNat) = some (value * 256 + (data[pos]).toNat) :=
      sizeT_eq (by omega) (hn.trans_le (h64.trans (by norm_num)))
    rw [accumulate, getElem?_eq_getElem hlt, drop_eq_getElem_cons hlt, take_succ_cons, foldl_cons,
      Option.bind_eq_bind,
      Option.bind_some, hs, Option.bind_eq_bind, Option.bind_some]
    exact ih _ (k + 1) (by omega) (by omega) hn

include hd

lemma containedLength_eq {value lengthOctets : Nat} (h : pos + lengthOctets ≤ data.length) :
    containedLength data pos value lengthOctets =
      some (if value > data.length - pos - lengthOctets then none
        else some ⟨value, lengthOctets⟩) := by
  have h1 : sizeT (data.length - pos) = some (data.length - pos) := sizeT_eq (by omega) (by omega)
  have h2 : sizeT ((data.length - pos : Nat) - lengthOctets) =
    some (data.length - pos - lengthOctets) :=
    sizeT_eq (by omega) (by omega)
  simp only [containedLength, h1, h2, Option.bind_eq_bind, Option.bind_some]

lemma readDerLengthChecked_eq : readDerLengthChecked data pos = some (readDerLength data pos) := by
  unfold readDerLengthChecked readDerLength
  by_cases hp : pos ≥ data.length
  · rw [if_pos hp, getElem?_eq_none hp]
  · have hlt : pos < data.length := by omega
    have h1 : sizeT (data.length - pos) = some (data.length - pos) := sizeT_eq (by omega) (by omega)
    have h2 : sizeT ((data.length - pos : Nat) - 1) = some (data.length - pos - 1) :=
      sizeT_eq (by omega) (by omega)
    rw [if_neg hp, getElem?_eq_getElem hlt]
    simp only [Option.bind_eq_bind, Option.bind_some, h1, h2]
    generalize data[pos] = first
    by_cases hl : first &&& 0x80 ≠ 0
    · rw [if_pos hl, if_pos hl]
      generalize (first &&& 0x7F).toNat = octets
      by_cases h3 : octets = 0 ∨ octets > kMaxDerLengthOctets
      · rw [if_pos h3, if_pos (by omega)]
      · rw [if_neg h3]
        by_cases h4 : octets > data.length - pos - 1
        · rw [if_pos h4, if_pos (by omega)]
        · rw [kMaxDerLengthOctets] at h3
          rw [if_neg h4, if_neg (by rw [kMaxDerLengthOctets]; omega),
            accumulate_eq 0 0 (by omega) (by omega) (by decide),
            Option.bind_some, containedLength_eq hd (by omega)]
    · rw [if_neg hl, if_neg hl]
      exact containedLength_eq hd hlt

lemma cutElement_eq {len : DerLength} (h : 1 + len.lengthOctets + len.length ≤ data.length) :
    cutElement data len =
    some (⟨data.take (1 + len.lengthOctets + len.length),
      (data.drop (1 + len.lengthOctets)).take len.length⟩,
      data.drop (1 + len.lengthOctets + len.length)) := by
  have h1 : sizeT (1 + len.lengthOctets) = some (1 + len.lengthOctets) :=
    sizeT_eq (by omega) (by omega)
  have h2 : sizeT ((1 + len.lengthOctets : Nat) + len.length) =
    some (1 + len.lengthOctets + len.length) :=
    sizeT_eq (by omega) (by omega)
  rw [cutElement, h1, Option.bind_eq_bind, Option.bind_some, h2, Option.bind_eq_bind,
      Option.bind_some, subspan_eq (by omega),
    Option.bind_some, subspan_eq (by omega), Option.bind_some, subspan_eq (by omega),
      Option.bind_some, drop_zero, ← length_drop, take_length]

lemma takeDerElementChecked_eq : takeDerElementChecked data = some (takeDerElement data) := by
  cases data with
  | nil => rfl
  | cons tag tail =>
    simp only [takeDerElementChecked, takeDerElement]
    split_ifs with h
    · rfl
    · rw [readDerLengthChecked_eq hd]
      cases hr : readDerLength (tag :: tail) 1 with
      | none => rfl
      | some len => exact congrArg (Option.map some) (cutElement_eq hd (readDerLength_inside hr))

end

/-! ## Framing -/

lemma readDerLength_append {data : Bytes} {pos : Nat} {len : DerLength}
    (h : readDerLength data pos = some len) (ext : Bytes) :
    readDerLength (data ++ ext) pos = some len := by
  unfold readDerLength at h ⊢
  cases hf : data[pos]? with
  | none => simp [hf] at h
  | some first =>
    obtain ⟨hlt, -⟩ := List.getElem?_eq_some_iff.mp hf
    rw [getElem?_append_left hlt, hf]
    rw [hf] at h
    dsimp only at h ⊢
    rw [length_append]
    split_ifs at h with h1 h2 h3 h4
    · rw [if_pos h1, if_neg (by omega), drop_append_of_le_length (show pos + 1 ≤ _ from hlt),
        take_append_of_le_length (by rw [length_drop]; omega),
        if_neg (by omega), h]
    · rw [if_neg h1, if_neg (by omega), h]

/-- a definite length says where the object ends -/
lemma isSignedObject_append {value ext : Bytes} (h : isSignedObject value = true)
    (hdef : value[1]? ≠ some 0x80) (hne : ext ≠ []) : isSignedObject (value ++ ext) = false := by
  have hext : 0 < ext.length := length_pos_of_ne_nil hne
  unfold isSignedObject outerHeader at h
  split_ifs at h with h1 h2
  have hl : 13 ≤ value.length := Nat.le_of_not_lt h1
  cases hr : readDerLength value 1 with
  | none => simp [hr] at h
  | some len =>
    have hsum : 1 + len.lengthOctets + len.length = value.length := by
      by_contra hs
      simp [hr, hs] at h
    have hout : outerHeader (value ++ ext) = none := by
      rw [outerHeader, getElem?_append_left (by omega), if_neg hdef, readDerLength_append hr,
        Option.bind_some,
        if_neg (by rw [length_append]; omega)]
    unfold isSignedObject
    rw [hout]
    split_ifs <;> rfl

/-- **Reading DER lengths is safe and the framing of signed objects exact.**  No read leaves the
data and no `size_t` computation wraps, a length that is reported fits behind it, and of two objects
with definite lengths none begins the other. -/
theorem der_reading_safe :
    (∀ (data : Bytes) (pos : Nat), data.length < 2 ^ 64 → readDerLengthChecked data pos =
      some (readDerLength data pos) ∧
      takeDerElementChecked data = some (takeDerElement data) ∧
      ∀ len ∈ readDerLength data pos, pos + len.lengthOctets + len.length ≤ data.length) ∧
    ∀ value : Bytes, isSignedObject value = true → value[1]? ≠ some 0x80 →
      (∀ shorter, shorter <+: value → shorter ≠ value → isSignedObject shorter = false) ∧
      ∀ longer, value <+: longer → value ≠ longer → isSignedObject longer = false := by
  refine ⟨fun data pos hd => ⟨readDerLengthChecked_eq hd, takeDerElementChecked_eq hd, fun len h =>
      readDerLength_inside h⟩,
    fun value h hdef => ⟨?_, ?_⟩⟩
  · rintro shorter ⟨ext, rfl⟩ hne
    by_contra hs
    rw [Bool.not_eq_false] at hs
    have hl : 2 ≤ shorter.length := by
      by_contra hl
      rw [isSignedObject, if_pos (Nat.lt_of_not_le hl |>.trans (by decide))] at hs
      cases hs
    rw [getElem?_append_left (by omega)] at hdef
    have he : ext ≠ [] := by
      rintro rfl
      simp at hne
    rw [isSignedObject_append hs hdef he] at h
    cases h
  · rintro longer ⟨ext, rfl⟩ hne
    exact isSignedObject_append h hdef (by rintro rfl; simp at hne)

/-- an object with nothing behind its identifier, and one byte more -/
theorem der_reading_safe_bare : readDerLengthChecked ([0x30, 0x0b] ++ kSignedDataOid) 1 =
    some (some ⟨11, 1⟩) ∧
    isSignedObject ([0x30, 0x0b] ++ kSignedDataOid) = true ∧
      isSignedObject ([0x30, 0x0b] ++ kSignedDataOid ++ [0]) = false :=
  ⟨(der_reading_safe.1 _ 1 (by decide)).1, by decide,
    (der_reading_safe.2 ([0x30, 0x0b] ++ kSignedDataOid) (by decide) (by decide)).2 _
      ⟨[0], rfl⟩ (by decide)⟩

end LibreAgent.Util
