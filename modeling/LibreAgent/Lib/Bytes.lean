import Mathlib.Order.RelClasses
import Mathlib.Tactic.Ring

/-!
# Byte strings
-/

abbrev Bytes := List UInt8

namespace Bytes

def lit (s : String) : Bytes := s.toByteArray.data.toList

@[simp] lemma lit_inj (s t : String) : lit s = lit t ↔ s = t := by
  simp [lit, Array.toList_inj, ← ByteArray.ext_iff, String.toByteArray_inj]

/-! ## Orders -/

def lexLess (a b : Bytes) : Prop := a < b

instance : DecidableRel lexLess := fun a b => inferInstanceAs (Decidable (a < b))

def shortLess (a b : Bytes) : Prop := a.length < b.length ∨ a.length = b.length ∧ lexLess a b

instance : DecidableRel shortLess := fun a b =>
  inferInstanceAs (Decidable (a.length < b.length ∨ a.length = b.length ∧ lexLess a b))

instance : IsStrictTotalOrder Bytes lexLess where
  trichotomous _ _ h h' := List.le_antisymm h' h
  irrefl a h := List.lt_irrefl a h
  trans _ _ _ h h' := List.lt_trans h h'

instance : IsStrictTotalOrder Bytes shortLess where
  trichotomous a b h h' := by
    have hl : a.length = b.length := by
      by_contra hne
      rcases Nat.lt_or_gt_of_ne hne with h1 | h1
      · exact h (Or.inl h1)
      · exact h' (Or.inl h1)
    exact Std.Trichotomous.trichotomous (r := lexLess) a b (fun hx => h (Or.inr ⟨hl, hx⟩))
      (fun hx => h' (Or.inr ⟨hl.symm, hx⟩))
  irrefl a h := by
    rcases h with h | ⟨-, h⟩
    · exact Nat.lt_irrefl _ h
    · exact irrefl_of lexLess a h
  trans a b c h h' := by
    rcases h with h | ⟨hl, h⟩ <;> rcases h' with h' | ⟨hl', h'⟩
    · exact Or.inl (h.trans h')
    · exact Or.inl (hl' ▸ h)
    · exact Or.inl (hl ▸ h')
    · exact Or.inr ⟨hl.trans hl', IsTrans.trans _ _ _ h h'⟩

lemma lexLess_cons {x y : UInt8} {a b : Bytes} : lexLess (x :: a) (y :: b) ↔ x < y ∨ x = y ∧
    lexLess a b :=
  List.cons_lt_cons_iff

lemma lexLess_append_left (s : Bytes) {a b : Bytes} : lexLess (s ++ a) (s ++ b) ↔ lexLess a b := by
  induction s with
  | nil => rfl
  | cons x s ih => simp [lexLess_cons, ih, UInt8.lt_irrefl]

/-! ## Big-endian numbers -/

/-- `n` in `k` bytes, most significant first -/
def be : Nat → Nat → Bytes
  | 0, _ => []
  | k + 1, n => UInt8.ofNat (n / 256 ^ k) :: be k n

/-- read `k` bytes, most significant first, after the digits read so far -/
def ofBe (acc : Nat) : Nat → Bytes → Option (Nat × Bytes)
  | 0, bs => some (acc, bs)
  | _ + 1, [] => none
  | k + 1, b :: bs => ofBe (acc * 256 + b.toNat) k bs

@[simp] lemma length_be (k n : Nat) : (be k n).length = k := by
  induction k with
  | zero => rfl
  | succ k ih => simp [be, ih]

lemma ofBe_be (k n acc : Nat) (rest : Bytes) :
    ofBe acc k (be k n ++ rest) = some (acc * 256 ^ k + n % 256 ^ k, rest) := by
  induction k generalizing acc with
  | zero => simp [be, ofBe, Nat.mod_one]
  | succ k ih =>
    show ofBe (acc * 256 + (UInt8.ofNat (n / 256 ^ k)).toNat) k (be k n ++ rest) = _
    rw [ih]
    have h1 : (UInt8.ofNat (n / 256 ^ k)).toNat = n / 256 ^ k % 256 := UInt8.toNat_ofNat'
    have h2 : n % 256 ^ (k + 1) = n % 256 ^ k + 256 ^ k * (n / 256 ^ k % 256) := Nat.mod_pow_succ
    rw [h1, h2, pow_succ]
    congr 2
    ring

lemma ofBe_be_of_lt {k n : Nat} (h : n < 256 ^ k) (rest : Bytes) : ofBe 0 k (be k n ++ rest) =
    some (n, rest) := by
  rw [ofBe_be, Nat.mod_eq_of_lt h, Nat.zero_mul, Nat.zero_add]

/-- big-endian digits of one length are ordered as their numbers, whatever follows them -/
lemma lexLess_be {k m n : Nat} (h : m % 256 ^ k < n % 256 ^ k) (s t : Bytes) :
    lexLess (be k m ++ s) (be k n ++ t) := by
  induction k with
  | zero => simp [Nat.mod_one] at h
  | succ k ih =>
    rw [Nat.mod_pow_succ, Nat.mod_pow_succ] at h
    have hm : m % 256 ^ k < 256 ^ k := Nat.mod_lt _ (Nat.pow_pos (by decide))
    have hn : n % 256 ^ k < 256 ^ k := Nat.mod_lt _ (Nat.pow_pos (by decide))
    show lexLess (UInt8.ofNat (m / 256 ^ k) :: (be k m ++ s))
      (UInt8.ofNat (n / 256 ^ k) :: (be k n ++ t))
    rw [lexLess_cons, UInt8.lt_iff_toNat_lt, ← UInt8.toNat_inj, UInt8.toNat_ofNat',
      UInt8.toNat_ofNat']
    generalize m / 256 ^ k % 256 = x at *
    generalize n / 256 ^ k % 256 = y at *
    rcases Nat.lt_trichotomy x y with hxy | rfl | hxy
    · exact Or.inl hxy
    · exact Or.inr ⟨rfl, ih (by omega)⟩
    · have := Nat.mul_le_mul_left (256 ^ k) hxy
      rw [Nat.mul_succ] at this
      omega

end Bytes
