import LibreAgent.Wire.CborRoundTrip

/-!
# Deterministic encoding

RFC 8949 section 4.2 asks for map keys in the byte order of their encodings.

* `canonicalKeyLess_encoded` : `CanonicalKeyLess` is that order.
-/

namespace LibreAgent.Wire

open Bytes Rfc8949 OrdMap List

/-! ## Keys -/

lemma canonicalKeyLess_iff {a b : Bytes} (ha : a.length < 2 ^ 64) (hb : b.length < 2 ^ 64) :
    CanonicalKeyLess a b ↔ lexLess (Item.text a).encode (Item.text b).encode := by
  rw [canonicalKeyLess_eq]
  exact lexLess_text_iff ha hb

lemma encodeEntries_eq (m : CborMap) : CborValue.encodeEntries m = m.flatMap fun p =>
    .addText p.1 :: p.2.encodeValue := by
  induction m with
  | nil => rfl
  | cons p m ih => simp [CborValue.encodeEntries, ih]

/-- **Keys compare as their encodings do**, so the order is a strict total one and the entries of a
map are written in it; a length is a `size_t`. -/
theorem canonicalKeyLess_encoded :
    (∀ a b : Bytes, a.length < 2 ^ 64 → b.length < 2 ^ 64 →
      (CanonicalKeyLess a b ↔ lexLess (head 3 a.length ++ a) (head 3 b.length ++ b))) ∧
    IsStrictTotalOrder Bytes CanonicalKeyLess ∧
    ∀ m : CborMap, (CborValue.map m).Built → (∀ p ∈ m, p.1.length < 2 ^ 64) →
      (CborValue.map m).encodeValue
        = .openMap :: (m.flatMap (fun p => .addText p.1 :: p.2.encodeValue) ++ [.closeMap]) ∧
      m.Pairwise fun p q => lexLess (Item.text p.1).encode (Item.text q.1).encode := by
  refine ⟨fun a b ha hb => ?_, inferInstance, fun m hm hl => ⟨?_, ?_⟩⟩
  · have h := canonicalKeyLess_iff ha hb
    rwa [Item.encode, Item.encode] at h
  · rw [CborValue.encodeValue, encodeEntries_eq]
  · refine hm.entries.1.imp_of_mem fun hp hq h => ?_
    exact (canonicalKeyLess_iff (hl _ hp) (hl _ hq)).mp h

/-- the longest key with a head of one byte and the shortest with two -/
theorem canonicalKeyLess_encoded_boundary : CanonicalKeyLess (replicate 23 255) (replicate 24 0) ∧
    lexLess (head 3 23 ++ replicate 23 255) (head 3 24 ++ replicate 24 0) := by
  have h : CanonicalKeyLess (replicate 23 255) (replicate 24 0) := by decide
  exact ⟨h, (canonicalKeyLess_encoded.1 (replicate 23 255) (replicate 24 0) (by decide)
      (by decide)).mp h⟩

end LibreAgent.Wire
