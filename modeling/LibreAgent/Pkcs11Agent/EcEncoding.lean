import LibreAgent.Pkcs11Agent.CertificateField

/-!
# The point of the other party

* `peerPointFromPublicData` : what `C_DeriveKey` makes of the public data;
* `peerPoint_exact` : it takes a point of the size of the key, bare or as an OCTET STRING, and
  nothing else.
-/

namespace LibreAgent.Pkcs11Agent

open List

def appendDerLength (out : Bytes) (n : Nat) : Bytes :=
  if n < 0x80 then out ++ [n.toUInt8]
  else if n ≤ 0xFF then out ++ [0x81, n.toUInt8]
  else out ++ ([0x82, (n >>> 8).toUInt8, (n &&& 0xFF).toUInt8] : Bytes)

def peerPointFromPublicData (publicData : Bytes) (keyBits : UInt32) : Option Bytes :=
  let n := (keyBits.toNat + 7) / 8
  if n = 0 then none
  else
    let pointLen := 1 + 2 * n
    let header := appendDerLength [0x04] pointLen
    let point :=
      if publicData.length = pointLen then some publicData
      else if publicData.length = header.length + pointLen ∧ header <+: publicData then
        some (publicData.drop header.length)
      else none
    point.filter (·.head? = some 0x04)

lemma appendDerLength_eq {n : Nat} (h : n < 2 ^ 16) : appendDerLength [0x04] n = 0x04 ::
    derLength n := by
  unfold appendDerLength derLength
  split
  · rfl
  · split
    · rw [Nat.log_of_lt (by omega)]
      simp [Bytes.be]
    · have hl : Nat.log 256 n = 1 := Nat.log_eq_of_pow_le_of_lt_pow (by omega) (by omega)
      have hm : (n &&& 0xFF).toUInt8 = n.toUInt8 :=
        (congrArg UInt8.ofNat (Nat.and_two_pow_sub_one_eq_mod n 8)).trans UInt8.ofNat_mod_size
      rw [hl, hm]
      simp [Bytes.be, Nat.shiftRight_eq_div_pow]

lemma peerPointFromPublicData_isSome {keyBits : UInt32} (h : keyBits ≠ 0) :
    ∃ publicData, (peerPointFromPublicData publicData keyBits).isSome = true := by
  have hn : (keyBits.toNat + 7) / 8 ≠ 0 := by
    have := mt UInt32.toNat_inj.mp h
    simp only [UInt32.toNat_zero] at this
    omega
  refine ⟨0x04 :: replicate (2 * ((keyBits.toNat + 7) / 8)) 0, ?_⟩
  unfold peerPointFromPublicData
  dsimp only
  rw [if_neg hn, if_pos (by rw [length_cons, length_replicate, Nat.add_comm])]
  rfl

/-- **A point is taken in its two forms**, and each form is taken for one point only. -/
theorem peerPoint_exact {keyBits : UInt32} {n : Nat} (hn : (keyBits.toNat + 7) / 8 = n) (h0 : 0 < n)
    (h : 1 + 2 * n < 2 ^ 16)
    (publicData point : Bytes) : peerPointFromPublicData publicData keyBits = some point ↔
      (publicData = point ∨ publicData = derElement 0x04 point) ∧ point.length = 1 + 2 * n ∧
        point.head? = some 0x04 := by
  unfold peerPointFromPublicData derElement
  dsimp only
  rw [hn, if_neg (by omega), appendDerLength_eq h, Option.filter_eq_some_iff,
      decide_eq_true_eq, ← and_assoc]
  refine and_congr_left fun _ => ⟨fun hp => ?_, ?_⟩
  · split at hp
    · next hl =>
      cases hp
      exact ⟨.inl rfl, hl⟩
    · obtain ⟨⟨hl, tail, rfl⟩, hp⟩ := Option.ite_none_right_eq_some.mp hp
      rw [drop_left] at hp
      cases hp
      rw [length_append, Nat.add_left_cancel_iff] at hl
      exact ⟨.inr (hl ▸ rfl), hl⟩
  · rintro ⟨rfl | rfl, hl⟩
    · exact if_pos hl
    · rw [hl, ← cons_append, length_append, hl, if_neg (by simp),
        if_pos ⟨rfl, prefix_append _ _⟩, drop_left]

theorem peerPoint_exact_p256 : peerPointFromPublicData
    (derElement 0x04 (0x04 :: replicate 64 1)) 256 =
    some (0x04 :: replicate 64 1) :=
  (@peerPoint_exact 256 32 rfl (by decide) (by decide) _ _).mpr ⟨.inr rfl, rfl, rfl⟩

end LibreAgent.Pkcs11Agent
