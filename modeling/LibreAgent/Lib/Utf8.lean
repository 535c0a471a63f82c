import LibreAgent.Lib.Bytes

/-!
# UTF-8

The encoding of a list of characters, that is of Unicode scalar values.

* `map_toNat_utf8EncodeChar` : the bytes of a character, as numbers;
* `utf8EncodeChar_append_inj` : no encoding of a character is the start of another;
* `fitting` : the characters at the front that fit into so many bytes.
-/

namespace Utf8

open List
open String (utf8EncodeChar)

def encode (cs : List Char) : Bytes := cs.flatMap utf8EncodeChar

def isContinuation (b : UInt8) : Bool := b &&& 0xC0 == 0x80

@[simp] lemma encode_nil : encode [] = [] := rfl

@[simp] lemma encode_cons (c : Char) (cs : List Char) : encode (c :: cs) = utf8EncodeChar c ++
    encode cs := rfl

lemma encode_append (cs ds : List Char) : encode (cs ++ ds) = encode cs ++ encode ds :=
  flatMap_append

lemma forall_byte {P : UInt8 → Prop} (h : ∀ n < 256, P (UInt8.ofNat n)) (b : UInt8) : P b := by
  have hb := h b.toNat b.toNat_lt
  rwa [UInt8.ofNat_toNat] at hb

lemma isContinuation_iff (b : UInt8) : isContinuation b = true ↔ 128 ≤ b.toNat ∧ b.toNat < 192 :=
  forall_byte (P := fun b => isContinuation b = true ↔ 128 ≤ b.toNat ∧ b.toNat < 192)
    (by decide +kernel) b

/-! ## The bytes of a character -/

def codeUnits (n : Nat) : List Nat :=
  if n ≤ 0x7F then [n]
  else if n ≤ 0x7FF then [n / 64 + 192, n % 64 + 128]
  else if n ≤ 0xFFFF then [n / 4096 + 224, n / 64 % 64 + 128, n % 64 + 128]
  else [n / 262144 + 240, n / 4096 % 64 + 128, n / 64 % 64 + 128, n % 64 + 128]

lemma codeUnits_eq_one (a n : Nat) : [a] = codeUnits n ↔ n = a ∧ n < 128 := by
  grind [codeUnits]

lemma codeUnits_eq_two (a x n : Nat) : [a, x] = codeUnits n ↔
    n = a % 32 * 64 + (x - 128) ∧ 0x80 ≤ n ∧ (192 ≤ a ∧ a < 224) ∧ 128 ≤ x ∧ x < 192 := by
  grind [codeUnits]

lemma codeUnits_eq_three (a x y n : Nat) : [a, x, y] = codeUnits n ↔
    n = (a % 16 * 64 + (x - 128)) * 64 + (y - 128) ∧ 0x800 ≤ n ∧ (224 ≤ a ∧ a < 240) ∧
      (128 ≤ x ∧ x < 192) ∧
      128 ≤ y ∧ y < 192 := by
  grind [codeUnits]

lemma codeUnits_eq_four (a x y z n : Nat) : [a, x, y, z] = codeUnits n ∧ n < 0x110000 ↔
    n = ((a % 8 * 64 + (x - 128)) * 64 + (y - 128)) * 64 + (z - 128) ∧
      (0x10000 ≤ n ∧ n < 0x110000) ∧
      (240 ≤ a ∧ a < 248) ∧ (128 ≤ x ∧ x < 192) ∧ (128 ≤ y ∧ y < 192) ∧ 128 ≤ z ∧ z < 192 := by
  simp only [codeUnits]
  split
  · simp; omega
  · split
    · simp; omega
    · split
      · simp; omega
      · simp only [cons.injEq, and_true]
        constructor
        · rintro ⟨⟨rfl, rfl, rfl, rfl⟩, hn⟩
          omega
        · intro h
          omega

lemma toNat_valid (c : Char) : c.toNat < 0xD800 ∨ 0xDFFF < c.toNat ∧ c.toNat < 0x110000 := c.valid

lemma exists_char {n : Nat} (h : n < 0xD800 ∨ 0xDFFF < n ∧ n < 0x110000) :
    ∃ c : Char, c.toNat = n :=
  ⟨Char.ofNatAux n h, by rfl⟩

lemma map_toNat_utf8EncodeChar (c : Char) : (utf8EncodeChar c).map UInt8.toNat =
    codeUnits c.toNat := by
  have hv := toNat_valid c
  have he : c.val.toNat = c.toNat := rfl
  simp only [utf8EncodeChar, codeUnits, he]
  -- one case for each length
  repeat' split
  all_goals
    simp only [map_cons, map_nil, UInt8.toNat_ofNat', cons.injEq, and_true]
    omega

lemma utf8EncodeChar_eq_iff (c : Char) (bytes : Bytes) :
    utf8EncodeChar c = bytes ↔ bytes.map UInt8.toNat = codeUnits c.toNat := by
  rw [← map_toNat_utf8EncodeChar, map_inj_right fun _ _ => UInt8.toNat_inj.mp, eq_comm]

/-- a first byte, and then bytes that are not -/
lemma utf8EncodeChar_eq_cons (c : Char) :
    ∃ b tail, utf8EncodeChar c = b :: tail ∧ isContinuation b = false ∧
      ∀ x ∈ tail, isContinuation x = true := by
  have h := map_toNat_utf8EncodeChar c
  have hv := toNat_valid c
  cases hc : utf8EncodeChar c with
  | nil => grind [codeUnits]
  | cons b tail =>
    rw [hc, map_cons] at h
    have hb : ¬ (128 ≤ b.toNat ∧ b.toNat < 192) := by grind [codeUnits]
    have ht : ∀ n ∈ tail.map UInt8.toNat, 128 ≤ n ∧ n < 192 := by grind [codeUnits]
    refine ⟨b, tail, rfl, Bool.eq_false_iff.mpr (mt (isContinuation_iff b).mp hb), fun x hx => ?_⟩
    exact (isContinuation_iff x).mpr (ht _ (mem_map_of_mem hx))

lemma utf8EncodeChar_ascii {c : Char} (h : c.toNat ≤ 127) :
    utf8EncodeChar c = [UInt8.ofNat c.toNat] := by
  rw [utf8EncodeChar_eq_iff, codeUnits, if_pos h, map_singleton, UInt8.toNat_ofNat',
      Nat.mod_eq_of_lt (by omega)]

lemma le_toNat_of_mem {c : Char} (h : 127 < c.toNat) {b : UInt8} (hb : b ∈ utf8EncodeChar c) :
    128 ≤ b.toNat := by
  have hm : b.toNat ∈ codeUnits c.toNat := map_toNat_utf8EncodeChar c ▸ mem_map_of_mem hb
  grind [codeUnits]

lemma utf8EncodeChar_append_inj {c d : Char} {s t : Bytes}
    (h : utf8EncodeChar c ++ s = utf8EncodeChar d ++ t) : c = d := by
  have hd := congrArg (fun b : Bytes => (b.toByteArray).utf8DecodeChar? 0) h
  simp only [toByteArray_append, ByteArray.utf8DecodeChar?_utf8EncodeChar_append,
      Option.some.injEq] at hd
  exact hd

/-! ## What fits -/

def fitting : Nat → List Char → List Char
  | _, [] => []
  | n, c :: cs => if c.utf8Size ≤ n then c :: fitting (n - c.utf8Size) cs else []

lemma isPrefix_fitting (n : Nat) (cs : List Char) : fitting n cs <+: cs := by
  induction cs generalizing n with
  | nil => exact prefix_rfl
  | cons c cs ih =>
    rw [fitting]
    split
    · exact (prefix_cons_inj c).mpr (ih _)
    · exact nil_prefix

lemma length_fitting_le (n : Nat) (cs : List Char) : (encode (fitting n cs)).length ≤ n := by
  induction cs generalizing n with
  | nil => exact Nat.zero_le n
  | cons c cs ih =>
    rw [fitting]
    split
    · have hl := ih (n - c.utf8Size)
      rw [encode_cons, length_append, String.length_utf8EncodeChar]
      omega
    · exact Nat.zero_le n

lemma prefix_fitting {n : Nat} {cs ds : List Char} (h : ds <+: cs) (hl : (encode ds).length ≤ n) :
    ds <+: fitting n cs := by
  induction cs generalizing n ds with
  | nil => exact h
  | cons c cs ih =>
    cases ds with
    | nil => exact nil_prefix
    | cons d ds =>
      obtain ⟨rfl, hp⟩ := cons_prefix_cons.mp h
      rw [encode_cons, length_append, String.length_utf8EncodeChar] at hl
      rw [fitting, if_pos (by omega)]
      exact (prefix_cons_inj d).mpr (ih hp (by omega))

lemma mem_fitting {n : Nat} {c : Char} {cs : List Char} : c ∈ fitting n cs ↔
    ∃ front back, cs = front ++ c :: back ∧ (encode (front ++ [c])).length ≤ n := by
  constructor
  · intro h
    obtain ⟨front, rest, hf⟩ := append_of_mem h
    obtain ⟨back, hb⟩ := isPrefix_fitting n cs
    have hl := length_fitting_le n cs
    rw [hf, append_cons, encode_append, length_append] at hl
    refine ⟨front, rest ++ back, ?_, Nat.le_of_add_right_le hl⟩
    rw [← hb, hf, append_assoc, cons_append]
  · rintro ⟨front, back, rfl, hl⟩
    have hp : front ++ [c] <+: front ++ c :: back := ⟨back, by rw [append_assoc, singleton_append]⟩
    exact (prefix_fitting hp hl).subset mem_concat_self

end Utf8
