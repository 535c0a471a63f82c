import LibreAgent.Lib.Bytes

/-!
# Base64

The encoding of RFC 4648, section 4, with its padding.

* `encode` : three bytes at a time, a last group of one or two bytes padded to four characters;
* `length_encode`, `encode_eq_nil_iff`, `mem_encode` : whole groups, nothing for nothing, and
  characters of the alphabet or padding only.
-/

namespace Base64

def digit (v : Nat) : UInt8 :=
  if v < 26 then UInt8.ofNat (65 + v)
  else if v < 52 then UInt8.ofNat (97 + (v - 26))
  else if v < 62 then UInt8.ofNat (48 + (v - 52))
  else if v = 62 then 43
  else 47

def pad : UInt8 := 61

def encode : Bytes → Bytes
  | [] => []
  | [a] => [digit (a.toNat / 4), digit (a.toNat % 4 * 16), pad, pad]
  | [a, b] =>
    [digit (a.toNat / 4), digit (a.toNat % 4 * 16 + b.toNat / 16), digit (b.toNat % 16 * 4), pad]
  | a :: b :: c :: rest =>
    digit (a.toNat / 4) :: digit (a.toNat % 4 * 16 + b.toNat / 16)
      :: digit (b.toNat % 16 * 4 + c.toNat / 64) :: digit (c.toNat % 64) :: encode rest

lemma length_encode (b : Bytes) : (encode b).length % 4 = 0 := by
  fun_induction encode b with
  | case1 => rfl
  | case2 | case3 => simp [List.length_nil]
  | case4 a b c rest ih =>
    simp only [List.length_cons]
    omega

lemma encode_eq_nil_iff (b : Bytes) : encode b = [] ↔ b = [] := by
  fun_cases encode b with
  | case1 | case2 | case3 | case4 => simp

def IsChar (c : UInt8) : Prop :=
  c = pad ∨ ∃ v < 64, c = digit v

lemma isChar_digit {v : Nat} (h : v < 64) : IsChar (digit v) := Or.inr ⟨v, h, rfl⟩

variable {c : UInt8}

lemma mem_encode {b : Bytes} (h : c ∈ encode b) : IsChar c := by
  fun_induction encode b with
  | case1 => cases h
  | case2 a =>
    have ha : a.toNat < 256 := a.toNat_lt
    simp only [List.mem_cons, List.not_mem_nil, or_false] at h
    rcases h with rfl | rfl | rfl | rfl
    · exact isChar_digit (by omega)
    · exact isChar_digit (by omega)
    · exact Or.inl rfl
    · exact Or.inl rfl
  | case3 a b =>
    have ha : a.toNat < 256 := a.toNat_lt
    have hb : b.toNat < 256 := b.toNat_lt
    simp only [List.mem_cons, List.not_mem_nil, or_false] at h
    rcases h with rfl | rfl | rfl | rfl
    case inr.inr.inr => exact Or.inl rfl
    all_goals exact isChar_digit (by omega)
  | case4 a b d rest ih =>
    have ha : a.toNat < 256 := a.toNat_lt
    have hb : b.toNat < 256 := b.toNat_lt
    have hd : d.toNat < 256 := d.toNat_lt
    simp only [List.mem_cons] at h
    rcases h with rfl | rfl | rfl | rfl | h
    case inr.inr.inr.inr => exact ih h
    all_goals exact isChar_digit (by omega)

/-- a property of bytes holds of all characters if it holds of the padding and of the alphabet -/
lemma IsChar.elim {p : UInt8 → Prop} (hp : p pad) (hd : ∀ v < 64, p (digit v)) (h : IsChar c) :
    p c := by
  rcases h with rfl | ⟨v, hv, rfl⟩
  · exact hp
  · exact hd v hv

end Base64
