import LibreAgent.Lib.Utf8

/-!
# What may be shown as text (`util/DisplayText.h`)

* `isDisplayableUtf8_iff` : the check accepts the encodings of characters that are not control
  characters;
* `utf8PrefixLength_encode` : a cut at a limit falls where the last character that fits ends.
-/

namespace LibreAgent.Util

open List Utf8
open String (utf8EncodeChar)

/-! ## The check -/

def gather : Nat → Bytes → Option Nat
  | cp, [] => some cp
  | cp, b :: rest =>
    if isContinuation b then gather (cp <<< 6 ||| (b &&& 0x3F).toNat) rest else none

def kMinCp : Nat → Nat
  | 1 => 0x80
  | 2 => 0x800
  | _ => 0x10000

/-- the bytes that are to follow a first byte, which has given `cp` -/
def followedBy (cont cp : Nat) (rest : Bytes) : Option Nat :=
  if rest.length < cont then none
  else match gather cp (rest.take cont) with
    | none => none
    | some cp =>
      if cp < kMinCp cont ∨ 0x10FFFF < cp ∨ 0xD800 ≤ cp ∧ cp ≤ 0xDFFF then none else some cont

/-- one turn of the loop: how many bytes after the first one are used up -/
def codePoint (c : UInt8) (rest : Bytes) : Option Nat :=
  if c < 0x20 ∨ c = 0x7F then none
  else if c < 0x80 then some 0
  else if c &&& 0xE0 = 0xC0 then followedBy 1 (c &&& 0x1F).toNat rest
  else if c &&& 0xF0 = 0xE0 then followedBy 2 (c &&& 0x0F).toNat rest
  else if c &&& 0xF8 = 0xF0 then followedBy 3 (c &&& 0x07).toNat rest
  else none

def isDisplayableUtf8 : Bytes → Bool
  | [] => true
  | c :: rest =>
    match codePoint c rest with
    | none => false
    | some cont => isDisplayableUtf8 (rest.drop cont)
termination_by bytes => bytes.length
decreasing_by
  rw [length_drop, length_cons]
  omega

def isDisplayable (c : Char) : Prop := 0x20 ≤ c.toNat ∧ c.toNat ≠ 0x7F

instance (c : Char) : Decidable (isDisplayable c) := inferInstanceAs (Decidable (_ ∧ _))

lemma codePoint_eq (c : UInt8) (rest : Bytes) : codePoint c rest =
    if c.toNat < 32 ∨ c.toNat = 127 then none
    else if c.toNat < 128 then some 0
    else if 192 ≤ c.toNat ∧ c.toNat < 224 then followedBy 1 (c.toNat % 32) rest
    else if 224 ≤ c.toNat ∧ c.toNat < 240 then followedBy 2 (c.toNat % 16) rest
    else if 240 ≤ c.toNat ∧ c.toNat < 248 then followedBy 3 (c.toNat % 8) rest
    else none := by
  have hm : (c &&& 0xE0 = 0xC0 ↔ 192 ≤ c.toNat ∧ c.toNat < 224) ∧
    (c &&& 0xF0 = 0xE0 ↔ 224 ≤ c.toNat ∧ c.toNat < 240) ∧
      (c &&& 0xF8 = 0xF0 ↔ 240 ≤ c.toNat ∧ c.toNat < 248) ∧ (c &&& 0x1F).toNat = c.toNat % 32 ∧
      (c &&& 0x0F).toNat = c.toNat % 16 ∧ (c &&& 0x07).toNat = c.toNat % 8 := by
    revert c
    exact forall_byte (by decide +kernel)
  have hlt (n : UInt8) : (c < n ↔ c.toNat < n.toNat) := UInt8.lt_iff_toNat_lt
  have heq : (c = 0x7F ↔ c.toNat = 127) := UInt8.toNat_inj.symm
  simp [codePoint, hm, hlt, heq, UInt8.reduceToNat]

lemma gather_iff {cp n : Nat} {front : Bytes} : gather cp front = some n ↔
    n = front.foldl (fun cp b => cp * 64 + (b.toNat - 128)) cp ∧ ∀ b ∈ front, 128 ≤ b.toNat ∧
      b.toNat < 192 := by
  induction front generalizing cp with
  | nil => grind [gather]
  | cons b front ih =>
    have hl : 128 ≤ b.toNat ∧ b.toNat < 192 → (b &&& 0x3F).toNat = b.toNat - 128 := by
      revert b
      exact forall_byte (by decide +kernel)
    simp only [gather, isContinuation_iff, forall_mem_cons, foldl_cons]
    split
    · next hb =>
      rw [hl hb, ← Nat.shiftLeft_add_eq_or_of_lt (by omega), Nat.shiftLeft_eq, ih]
      exact and_congr_right fun _ => (and_iff_right hb).symm
    · next hb => exact ⟨nofun, fun h => absurd h.2.1 hb⟩

lemma followedBy_append {cont cp : Nat} {front back : Bytes} : followedBy cont cp (front ++ back) =
    some front.length ↔
    front.length = cont ∧ ∃ n, gather cp front = some n ∧ kMinCp cont ≤ n ∧
      (n < 0xD800 ∨ 0xDFFF < n ∧ n < 0x110000) := by
  by_cases hl : front.length = cont
  · subst hl
    rw [followedBy, take_left' rfl]
    grind
  · grind [followedBy]

/-- a turn of the loop uses up one character -/
lemma codePoint_append (c : UInt8) (front back : Bytes) : codePoint c (front ++ back) =
    some front.length ↔
    ∃ n, c.toNat :: front.map UInt8.toNat = codeUnits n ∧ (n < 0xD800 ∨ 0xDFFF < n ∧ n < 0x110000) ∧
      0x20 ≤ n ∧ n ≠ 0x7F := by
  have hc := c.toNat_lt
  have hL : codePoint c (front ++ back) = some front.length ↔ front.length = 0 ∧ 32 ≤ c.toNat ∧
    c.toNat < 127 ∨
      (192 ≤ c.toNat ∧ c.toNat < 224) ∧ followedBy 1 (c.toNat % 32) (front ++ back) =
        some front.length ∨
      (224 ≤ c.toNat ∧ c.toNat < 240) ∧ followedBy 2 (c.toNat % 16) (front ++ back) =
        some front.length ∨
      (240 ≤ c.toNat ∧ c.toNat < 248) ∧ followedBy 3 (c.toNat % 8) (front ++ back) =
        some front.length := by
    rw [codePoint_eq]
    grind
  rw [hL]
  clear hL
  simp only [followedBy_append, gather_iff, and_assoc, exists_eq_left, kMinCp]
  generalize c.toNat = lead at *
  -- as many bytes as the first one says, and they give the number
  rcases front with _ | ⟨x, _ | ⟨y, _ | ⟨z, _ | ⟨w, front⟩⟩⟩⟩
  · simp only [map_nil, codeUnits_eq_one, and_assoc, exists_eq_left]
    grind
  · simp only [map_cons, map_nil, codeUnits_eq_two, and_assoc, exists_eq_left]
    grind
  · simp only [map_cons, map_nil, codeUnits_eq_three, and_assoc, exists_eq_left]
    grind
  · have hu (n : Nat) := codeUnits_eq_four lead x.toNat y.toNat z.toNat n
    have hv (n : Nat) : ([lead, x.toNat, y.toNat, z.toNat] = codeUnits n ∧
      (n < 0xD800 ∨ 0xDFFF < n ∧ n < 0x110000) ∧
        0x20 ≤ n ∧ n ≠ 0x7F) ↔ [lead, x.toNat, y.toNat, z.toNat] = codeUnits n ∧ n < 0x110000 := by
      grind
    simp only [map_cons, map_nil, hv, hu, and_assoc, exists_eq_left]
    grind
  · grind [codeUnits]

lemma codePoint_le {c : UInt8} {rest : Bytes} {cont : Nat} (h : codePoint c rest = some cont) :
    cont ≤ rest.length := by
  rw [codePoint_eq] at h
  grind [followedBy]

lemma isDisplayableUtf8_append {ch : Char} (h : isDisplayable ch) (back : Bytes) :
    isDisplayableUtf8 (utf8EncodeChar ch ++ back) = isDisplayableUtf8 back := by
  obtain ⟨c, front, he, -, -⟩ := utf8EncodeChar_eq_cons ch
  have hp : codePoint c (front ++ back) = some front.length :=
    (codePoint_append c front back).mpr ⟨ch.toNat, (utf8EncodeChar_eq_iff ch _).mp he,
      toNat_valid ch, h⟩
  rw [he, cons_append, isDisplayableUtf8, hp]
  simp

lemma isDisplayableUtf8_iff {bytes : Bytes} :
    isDisplayableUtf8 bytes = true ↔ ∃ cs : List Char, bytes = encode cs ∧
      ∀ c ∈ cs, isDisplayable c := by
  constructor
  · intro h
    fun_induction isDisplayableUtf8 bytes with
    | case1 => exact ⟨[], rfl, nofun⟩
    | case2 c rest hp => cases h
    | case3 c rest cont hp ih =>
      obtain ⟨cs, hcs, hd⟩ := ih h
      have hl : (rest.take cont).length = cont := length_take_of_le (codePoint_le hp)
      have hp' : codePoint c (rest.take cont ++ rest.drop cont) = some (rest.take cont).length := by
        rw [take_append_drop, hl, hp]
      obtain ⟨n, hu, hv, hn⟩ := (codePoint_append _ _ _).mp hp'
      obtain ⟨ch, rfl⟩ := exists_char hv
      refine ⟨ch :: cs, ?_, forall_mem_cons.mpr ⟨hn, hd⟩⟩
      rw [encode_cons, (utf8EncodeChar_eq_iff ch (c :: rest.take cont)).mpr hu, ← hcs, cons_append,
        take_append_drop]
  · rintro ⟨cs, rfl, hd⟩
    induction cs with
    | nil => rw [encode_nil, isDisplayableUtf8]
    | cons ch cs ih =>
      obtain ⟨hch, hcs⟩ := forall_mem_cons.mp hd
      rw [encode_cons, isDisplayableUtf8_append hch]
      exact ih hcs

/-! ## The cut -/

def backOff (text : Bytes) : Nat → Nat
  | 0 => 0
  | cut + 1 => if (text[cut + 1]?).any isContinuation then backOff text cut else cut + 1

def utf8PrefixLength (text : Bytes) (maxBytes : Nat) : Nat :=
  if text.length ≤ maxBytes then text.length else backOff text maxBytes

lemma backOff_append {u t : Bytes} (hu : u ≠ []) (ht : (t[0]?).any isContinuation = false)
    (m : Nat) :
    backOff (u ++ t) (u.length + m) = u.length + backOff t m := by
  induction m with
  | zero =>
    cases u with
    | nil => exact absurd rfl hu
    | cons b u =>
      have hb : (b :: u ++ t)[u.length + 1]? = t[0]? := by grind
      simp only [length_cons, Nat.add_zero, backOff, hb, ht]
      rfl
  | succ m ih =>
    have hb : (u ++ t)[u.length + m + 1]? = t[m + 1]? := by grind
    rw [← Nat.add_assoc, backOff, backOff, hb, ih]
    split
    · rfl
    · omega

lemma backOff_le (text : Bytes) (n : Nat) : backOff text n ≤ n := by
  induction n with
  | zero => exact Nat.le_refl 0
  | succ n ih =>
    rw [backOff]
    split
    · exact Nat.le_succ_of_le ih
    · exact Nat.le_refl _

lemma utf8PrefixLength_le (text : Bytes) (n : Nat) : utf8PrefixLength text n ≤ n := by
  rw [utf8PrefixLength]
  split
  · assumption
  · exact backOff_le text n

lemma backOff_eq_zero {text : Bytes} {n : Nat}
    (h : ∀ i < n, (text[i + 1]?).any isContinuation = true) : backOff text n = 0 := by
  induction n with
  | zero => rfl
  | succ n ih =>
    rw [backOff, if_pos (h n (Nat.lt_succ_self n))]
    exact ih fun i hi => h i (Nat.lt_succ_of_lt hi)

lemma encode_getElem?_zero (cs : List Char) : ((encode cs)[0]?).any isContinuation = false := by
  cases cs with
  | nil => rfl
  | cons c cs =>
    obtain ⟨b, tail, he, hb, -⟩ := utf8EncodeChar_eq_cons c
    rw [encode_cons, he]
    exact hb

lemma utf8PrefixLength_encode (cs : List Char) (n : Nat) :
    utf8PrefixLength (encode cs) n = (encode (fitting n cs)).length := by
  induction cs generalizing n with
  | nil => rfl
  | cons c cs ih =>
    obtain ⟨b, tail, he, -, ht⟩ := utf8EncodeChar_eq_cons c
    have hs : c.utf8Size = tail.length + 1 := by
      rw [← String.length_utf8EncodeChar, he, length_cons]
    have hi := ih (n - c.utf8Size)
    unfold utf8PrefixLength at hi ⊢
    rw [fitting, encode_cons, length_append, String.length_utf8EncodeChar]
    split
    · next hl =>
      rw [if_pos (by omega)] at hi ⊢
      rw [encode_cons, length_append, String.length_utf8EncodeChar, hi]
    · next hl =>
      split
      · next hf =>
        rw [if_neg (by omega)] at hi
        have hb :=
          backOff_append (u := utf8EncodeChar c) (by simp [he]) (encode_getElem?_zero cs)
            (n - c.utf8Size)
        rw [String.length_utf8EncodeChar, Nat.add_sub_cancel' hf] at hb
        rw [hb, hi, encode_cons, length_append, String.length_utf8EncodeChar]
      · next hf =>
        -- the first character does not fit, and nothing in it is a place to cut
        refine backOff_eq_zero fun i hin => ?_
        have hlt : i < tail.length := by omega
        have hg : (b :: tail ++ encode cs)[i + 1]? = some (tail.get ⟨i, hlt⟩) := by grind
        rw [he, hg]
        exact ht _ (get_mem tail _)

/-- The check accepts a byte string if and only if it is the encoding of a list of characters, none
of them a C0 control or DEL.  A cut of an encoding at any limit keeps a run of characters at the
front, within the limit, and every other run within the limit is the start of this one. -/
theorem displayText_exact :
    (∀ bytes, isDisplayableUtf8 bytes = true ↔ ∃ cs : List Char, bytes = encode cs ∧
      ∀ c ∈ cs, isDisplayable c) ∧
    ∀ (cs : List Char) (n : Nat), ∃ kept, kept <+: cs ∧ (encode kept).length = utf8PrefixLength
      (encode cs) n ∧
      (encode kept).length ≤ n ∧ ∀ other, other <+: cs → (encode other).length ≤ n →
        other <+: kept :=
  ⟨fun _ => isDisplayableUtf8_iff, fun cs n =>
      ⟨fitting n cs, isPrefix_fitting n cs, (utf8PrefixLength_encode cs n).symm,
    length_fitting_le n cs, fun _ hp hl => prefix_fitting hp hl⟩⟩

end LibreAgent.Util
