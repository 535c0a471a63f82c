import Mathlib.Data.Nat.Log
import Mathlib.Tactic.Ring

/-!
# IEEE 754 binary formats on bit patterns

Values are bit patterns; nothing here computes with reals.

* `isNaN`, `eq` : the comparison `==` of the language, where a NaN equals nothing and the two
  zeros are equal.
-/

namespace Ieee

structure Format where
  w : Nat
  p : Nat
deriving DecidableEq

def half : Format := ⟨5, 10⟩
def single : Format := ⟨8, 23⟩
def double : Format := ⟨11, 52⟩

namespace Format

def bias (F : Format) : Nat := 2 ^ (F.w - 1) - 1

def top (F : Format) : Nat := 2 ^ F.w - 1

def signOf (F : Format) (b : Nat) : Nat := b / 2 ^ (F.w + F.p) % 2
def expOf (F : Format) (b : Nat) : Nat := b / 2 ^ F.p % 2 ^ F.w
def fracOf (F : Format) (b : Nat) : Nat := b % 2 ^ F.p

def pack (F : Format) (s e f : Nat) : Nat := s * 2 ^ (F.w + F.p) + e * 2 ^ F.p + f

end Format

/-- the pattern in `G` of the value a pattern of the narrower `F` stands for -/
def widen (F G : Format) (b : Nat) : Nat :=
  let s := F.signOf b
  let e := F.expOf b
  let f := F.fracOf b
  if e = F.top then G.pack s G.top (f * 2 ^ (G.p - F.p))
  else if e = 0 then
    if f = 0 then G.pack s 0 0
    else
      -- a subnormal of `F` is normal in `G`: the leading bit of `f` becomes the hidden one
      let k := Nat.log2 f
      G.pack s (k + G.bias + 1 - F.bias - F.p) ((f - 2 ^ k) * 2 ^ (G.p - k))
  else G.pack s (e + G.bias - F.bias) (f * 2 ^ (G.p - F.p))

/-- the pattern of `F` that a pattern of the wider `G` becomes when no bit of it is lost -/
def narrow (G F : Format) (b : Nat) : Nat :=
  let s := G.signOf b
  let e := G.expOf b
  let f := G.fracOf b
  if e = G.top then F.pack s F.top (f / 2 ^ (G.p - F.p))
  else if e = 0 then F.pack s 0 0
  else if G.bias < e + F.bias then F.pack s (e + F.bias - G.bias) (f / 2 ^ (G.p - F.p))
  else F.pack s 0 ((2 ^ G.p + f) / 2 ^ (G.p - F.p + 1 + G.bias - F.bias - e))

/-! ## The three interchange widths -/

def widenHalf (b : BitVec 16) : BitVec 64 := BitVec.ofNat 64 (widen half double b.toNat)
def widenSingle (b : BitVec 32) : BitVec 64 := BitVec.ofNat 64 (widen single double b.toNat)
def narrowHalf (b : BitVec 64) : BitVec 16 := BitVec.ofNat 16 (narrow double half b.toNat)
def narrowSingle (b : BitVec 64) : BitVec 32 := BitVec.ofNat 32 (narrow double single b.toNat)

/-- the half that widens to `b`, if there is one -/
def exactHalf (b : BitVec 64) : Option (BitVec 16) :=
  if widenHalf (narrowHalf b) = b then some (narrowHalf b) else none

/-- the single that widens to `b`, if there is one -/
def exactSingle (b : BitVec 64) : Option (BitVec 32) :=
  if widenSingle (narrowSingle b) = b then some (narrowSingle b) else none

variable {b a : BitVec 64}

lemma widenHalf_exactHalf {h : BitVec 16} (e : exactHalf b = some h) : widenHalf h = b := by
  unfold exactHalf at e
  split at e
  · next hb => rwa [Option.some.inj e] at hb
  · simp at e

lemma widenSingle_exactSingle {h : BitVec 32} (e : exactSingle b = some h) : widenSingle h = b := by
  unfold exactSingle at e
  split at e
  · next hb => rwa [Option.some.inj e] at hb
  · simp at e

private lemma narrow_single_normal (n : Nat) (lo : 897 ≤ n / 2 ^ 52 % 2048)
    (hi : n / 2 ^ 52 % 2048 ≤ 1150) :
    narrow double single n = n / 2 ^ 63 % 2 * 2 ^ 31 + (n / 2 ^ 52 % 2048 - 896) * 2 ^ 23
      + n % 2 ^ 52 / 2 ^ 29 := by
  have he : ¬ n / 2 ^ 52 % 2048 = 2047 := by omega
  have h0 : ¬ n / 2 ^ 52 % 2048 = 0 := by omega
  have hr : 1023 < n / 2 ^ 52 % 2048 + 127 := by omega
  simp only [narrow, double, single, Format.signOf, Format.expOf, Format.fracOf, Format.top,
      Format.pack, Format.bias]
  norm_num only [he, h0, hr] at *
  simp only [he, h0, hr, if_false, if_true]
  omega

private lemma widen_single_normal (m : Nat) (lo : 1 ≤ m / 2 ^ 23 % 256)
    (hi : m / 2 ^ 23 % 256 ≤ 254) :
    widen single double m = m / 2 ^ 31 % 2 * 2 ^ 63 + (m / 2 ^ 23 % 256 + 896) * 2 ^ 52
      + m % 2 ^ 23 * 2 ^ 29 := by
  have he : ¬ m / 2 ^ 23 % 256 = 255 := by omega
  have h0 : ¬ m / 2 ^ 23 % 256 = 0 := by omega
  simp only [widen, double, single, Format.signOf, Format.expOf, Format.fracOf, Format.top,
      Format.pack, Format.bias]
  norm_num only [he, h0] at *
  simp only [he, h0, if_false]
  omega

/-- a double with a normal exponent of `single` and no fraction bit below it narrows exactly -/
lemma widenSingle_narrowSingle (b : BitVec 64) (lo : 897 ≤ b.toNat / 2 ^ 52 % 2048)
    (hi : b.toNat / 2 ^ 52 % 2048 ≤ 1150) (hf : b.toNat % 2 ^ 29 = 0) :
    widenSingle (narrowSingle b) = b := by
  have hn : b.toNat < 2 ^ 64 := b.isLt
  have hm := narrow_single_normal b.toNat lo hi
  have hlt : narrow double single b.toNat < 2 ^ 32 := by omega
  have hw := widen_single_normal (narrow double single b.toNat) (by omega) (by omega)
  apply BitVec.eq_of_toNat_eq
  rw [widenSingle, narrowSingle, BitVec.toNat_ofNat, BitVec.toNat_ofNat, Nat.mod_eq_of_lt hlt, hw]
  omega

/-! ## Comparison -/

def isNaN (b : BitVec 64) : Bool :=
  double.expOf b.toNat == double.top && double.fracOf b.toNat != 0

def isZero (b : BitVec 64) : Bool := b.toNat % 2 ^ 63 == 0

/-- `==` on doubles -/
def eq (a b : BitVec 64) : Bool :=
  !isNaN a && !isNaN b && (a == b || (isZero a && isZero b))

example : widenHalf 0x3c00#16 = 0x3ff0000000000000#64 := by decide
example : widenHalf 0x0001#16 = 0x3e70000000000000#64 := by decide
example : exactHalf 0x3fb999999999999a#64 = none := by decide
example : exactSingle 0x36a0000000000000#64 = some 1#32 := by decide

end Ieee
