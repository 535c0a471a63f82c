import LibreAgent.Util.DisplayText

/-!
# The label of a caller (`util/CallerLabel.h`)

* `sanitizeLabel_encode` : on text, one space for each forbidden character, and then the characters
  that fit;
* `not_infix_replaceAll` : on any bytes, what has been replaced is gone, and nothing new comes up.

The list of the forbidden characters lacks one of those that reorder text, U+061C
(`sanitizeLabel_arabicLetterMark`).
-/

namespace LibreAgent.Util

open List Utf8
open String (utf8EncodeChar)

def kMaxCallerLabelLength : Nat := 128

def kForbiddenSequences : List Bytes :=
  [[0xE2, 0x80, 0xA8], [0xE2, 0x80, 0xA9], [0xC2, 0x85], [0xE2, 0x80, 0x8E], [0xE2, 0x80, 0x8F],
      [0xE2, 0x80, 0xAA],
   [0xE2, 0x80, 0xAB], [0xE2, 0x80, 0xAC], [0xE2, 0x80, 0xAD], [0xE2, 0x80, 0xAE],
     [0xE2, 0x81, 0xA6], [0xE2, 0x81, 0xA7],
   [0xE2, 0x81, 0xA8], [0xE2, 0x81, 0xA9]]

def isControl (b : UInt8) : Bool := b < 0x20 || b == 0x7F

/-- a space for each occurrence of the sequence, from the left; `skip` bytes belong to the one found
last -/
def replaceAll (seq : Bytes) : Nat → Bytes → Bytes
  | _, [] => []
  | skip + 1, _ :: rest => replaceAll seq skip rest
  | 0, b :: rest =>
    if seq.isPrefixOf (b :: rest) then 0x20 :: replaceAll seq (seq.length - 1) rest
      else b :: replaceAll seq 0 rest

def sanitizeLabel (raw : Bytes) : Bytes :=
  let raw := raw.map fun b => if isControl b then 0x20 else b
  let raw := kForbiddenSequences.foldl (fun raw seq => replaceAll seq 0 raw) raw
  raw.take (utf8PrefixLength raw kMaxCallerLabelLength)

/-! ## On text -/

/-- the characters of `kForbiddenSequences` -/
def forbiddenChars : List Char :=
  [0x2028, 0x2029, 0x85, 0x200E, 0x200F, 0x202A, 0x202B, 0x202C, 0x202D, 0x202E, 0x2066, 0x2067,
      0x2068, 0x2069].map Char.ofNat

/-- what stands for a character in a label, as long as it fits -/
def sanitizedChar (c : Char) : Char :=
  if ¬ isDisplayable c ∨ c ∈ forbiddenChars then ' ' else c

lemma kForbiddenSequences_eq : kForbiddenSequences = forbiddenChars.map utf8EncodeChar := by decide

variable {b : UInt8}

lemma replaceAll_found {seq rest : Bytes} (h : seq <+: b :: rest) :
    replaceAll seq 0 (b :: rest) = 0x20 :: replaceAll seq (seq.length - 1) rest :=
  if_pos ( isPrefixOf_iff_prefix.mpr h)

lemma replaceAll_missed {seq rest : Bytes} (h : ¬ seq <+: b :: rest) :
    replaceAll seq 0 (b :: rest) = b :: replaceAll seq 0 rest :=
  if_neg (mt isPrefixOf_iff_prefix.mp h)

lemma replaceAll_skip (seq u t : Bytes) :
    replaceAll seq u.length (u ++ t) = replaceAll seq 0 t := by
  induction u with
  | nil => rfl
  | cons b u ih => exact ih

lemma replaceAll_continuation {seq u : Bytes} (hb : isContinuation b = false)
    (hu : ∀ x ∈ u, isContinuation x = true) (t : Bytes) : replaceAll (b :: seq) 0 (u ++ t) = u ++
    replaceAll (b :: seq) 0 t := by
  induction u with
  | nil => rfl
  | cons x u ih =>
    obtain ⟨hx, hu⟩ := forall_mem_cons.mp hu
    have hne : ¬ b :: seq <+: x :: (u ++ t) := fun hp => by
      rw [(cons_prefix_cons.mp hp).1, hx] at hb
      cases hb
    rw [cons_append, replaceAll_missed hne, ih hu, cons_append]

/-- a sequence that is found in text is a character of it -/
lemma replaceAll_encode (c : Char) (cs : List Char) :
    replaceAll (utf8EncodeChar c) 0 (encode cs) =
      encode (cs.map fun d => if d = c then ' ' else d) := by
  induction cs with
  | nil => rfl
  | cons d cs ih =>
    obtain ⟨b, tail, he, hb, -⟩ := utf8EncodeChar_eq_cons c
    obtain ⟨b', tail', he', -, ht⟩ := utf8EncodeChar_eq_cons d
    have hc : utf8EncodeChar d ++ encode cs = b' :: (tail' ++ encode cs) := by rw [he', cons_append]
    rw [encode_cons, map_cons, encode_cons, ← ih]
    by_cases hd : d = c
    · subst hd
      have hl : (utf8EncodeChar d).length - 1 = tail'.length := by
        rw [he', length_cons, Nat.add_sub_cancel]
      rw [hc, replaceAll_found (hc ▸ prefix_append _ _), if_pos rfl, hl, replaceAll_skip]
      rfl
    · have hp : ¬ utf8EncodeChar c <+: b' :: (tail' ++ encode cs) := by
        rintro ⟨t, hp⟩
        exact hd (utf8EncodeChar_append_inj (hp.trans hc.symm)).symm
      rw [hc, replaceAll_missed hp, if_neg hd, he', he, replaceAll_continuation hb ht, cons_append]

lemma foldl_replaceAll_encode {forbidden : List Char} (hs : ' ' ∉ forbidden) (cs : List Char) :
    (forbidden.map utf8EncodeChar).foldl (fun raw seq => replaceAll seq 0 raw) (encode cs) =
      encode (cs.map fun d => if d ∈ forbidden then ' ' else d) := by
  induction forbidden generalizing cs with
  | nil => simp
  | cons c forbidden ih =>
    rw [mem_cons, not_or] at hs
    rw [map_cons, foldl_cons, replaceAll_encode, ih hs.2, map_map]
    congr 1
    refine map_congr_left fun d _ => ?_
    grind

lemma map_control_encode (cs : List Char) :
    (encode cs).map (fun b => if isControl b then 0x20 else b) =
    encode (cs.map fun d => if isDisplayable d then d else ' ') := by
  induction cs with
  | nil => rfl
  | cons c cs ih =>
    rw [encode_cons, map_append, ih, map_cons, encode_cons]
    congr 1
    have hlt (b : UInt8) : isControl b = true ↔ b.toNat < 32 ∨ b.toNat = 127 := by
      revert b
      exact forall_byte (by decide +kernel)
    by_cases hc : c.toNat ≤ 127
    · have hn : (UInt8.ofNat c.toNat).toNat = c.toNat := by
        rw [UInt8.toNat_ofNat', Nat.mod_eq_of_lt (by omega)]
      rw [utf8EncodeChar_ascii hc, map_singleton]
      by_cases hd : isDisplayable c
      · rw [if_pos hd, utf8EncodeChar_ascii hc,
          if_neg (by rw [hlt, hn]; unfold isDisplayable at hd; omega)]
      · rw [if_neg hd, if_pos (by rw [hlt, hn]; unfold isDisplayable at hd; omega)]
        rfl
    · rw [if_pos (by unfold isDisplayable; omega)]
      refine (map_congr_left fun b hb => ?_).trans (map_id _)
      have hb := le_toNat_of_mem (by omega) hb
      exact if_neg (by rw [hlt]; omega)

lemma sanitizeLabel_encode (cs : List Char) : sanitizeLabel (encode cs) =
    encode (fitting kMaxCallerLabelLength (cs.map sanitizedChar)) := by
  have hc : cs.map sanitizedChar =
      (cs.map fun d => if isDisplayable d then d else ' ').map fun d =>
        if d ∈ forbiddenChars then ' ' else d := by
    rw [map_map]
    refine map_congr_left fun d _ => ?_
    grind [sanitizedChar]
  rw [hc]
  simp only [sanitizeLabel, map_control_encode, kForbiddenSequences_eq]
  rw [foldl_replaceAll_encode (by decide), utf8PrefixLength_encode]
  generalize map _ (map _ cs) = ds
  obtain ⟨more, hm⟩ := isPrefix_fitting kMaxCallerLabelLength ds
  nth_rw 2 [← hm]
  rw [encode_append, take_left]

/-! ## On any bytes -/

section Bytes
variable {seq w raw : Bytes} {skip : Nat}

lemma prefix_of_prefix_replaceAll (hw : 0x20 ∉ w) (h : w <+: replaceAll seq 0 raw) : w <+: raw := by
  induction raw generalizing w with
  | nil => exact h
  | cons b raw ih =>
    rw [replaceAll] at h
    cases w with
    | nil => exact nil_prefix
    | cons x w =>
      rw [mem_cons, not_or] at hw
      split at h
      · exact absurd (cons_prefix_cons.mp h).1.symm hw.1
      · obtain ⟨rfl, hp⟩ := cons_prefix_cons.mp h
        exact cons_prefix_cons.mpr ⟨rfl, ih hw.2 hp⟩

/-- nothing new comes up -/
lemma infix_of_infix_replaceAll (hw : 0x20 ∉ w) (h : w <:+: replaceAll seq skip raw) :
    w <:+: raw := by
  induction raw generalizing skip with
  | nil => rwa [replaceAll] at h
  | cons b raw ih =>
    cases skip with
    | succ skip => exact infix_cons (ih h)
    | zero =>
      by_cases hp : w <+: replaceAll seq 0 (b :: raw)
      · exact (prefix_of_prefix_replaceAll hw hp).isInfix
      · refine infix_cons ?_
        rw [replaceAll] at h hp
        split at h
        · next hf =>
          rw [if_pos hf] at hp
          exact ih ((infix_cons_iff.mp h).resolve_left hp)
        · next hf =>
          rw [if_neg hf] at hp
          exact ih ((infix_cons_iff.mp h).resolve_left hp)

lemma not_infix_replaceAll (hs : 0x20 ∉ seq) (hne : seq ≠ []) :
    ¬ seq <:+: replaceAll seq skip raw := by
  induction raw generalizing skip with
  | nil =>
    rw [replaceAll, infix_nil]
    exact hne
  | cons b raw ih =>
    cases skip with
    | succ skip => exact ih
    | zero =>
      by_cases hp : seq <+: b :: raw
      · rw [replaceAll_found hp, infix_cons_iff, not_or]
        refine ⟨fun h => ?_, ih⟩
        obtain ⟨x, w, rfl⟩ := exists_cons_of_ne_nil hne
        exact hs ((cons_prefix_cons.mp h).1 ▸ mem_cons_self)
      · have hq : ¬ seq <+: b :: replaceAll seq 0 raw := fun h =>
          hp (prefix_of_prefix_replaceAll hs (replaceAll_missed hp ▸ h))
        rw [replaceAll_missed hp, infix_cons_iff, not_or]
        exact ⟨hq, ih⟩

lemma replaceAll_of_not_infix (h : ¬ seq <:+: raw) : replaceAll seq 0 raw = raw := by
  induction raw with
  | nil => rfl
  | cons b raw ih =>
    rw [infix_cons_iff, not_or] at h
    rw [replaceAll_missed h.1, ih h.2]

lemma mem_replaceAll {b : UInt8} (h : b ∈ replaceAll seq skip raw) : b = 0x20 ∨ b ∈ raw := by
  induction raw generalizing skip with
  | nil => exact .inr h
  | cons x raw ih =>
    cases skip with
    | succ skip => exact (ih h).imp_right (mem_cons_of_mem x)
    | zero => grind [replaceAll]

variable {seqs : List Bytes}

lemma infix_of_infix_foldl (hw : 0x20 ∉ w)
    (h : w <:+: seqs.foldl (fun raw seq => replaceAll seq 0 raw) raw) : w <:+: raw := by
  induction seqs generalizing raw with
  | nil => exact h
  | cons seq seqs ih => exact infix_of_infix_replaceAll hw (ih h)

lemma not_infix_foldl (hs : ∀ seq ∈ seqs, 0x20 ∉ seq ∧ seq ≠ []) :
    ∀ seq ∈ seqs, ¬ seq <:+: seqs.foldl (fun raw seq => replaceAll seq 0 raw) raw := by
  induction seqs generalizing raw with
  | nil => nofun
  | cons seq seqs ih =>
    obtain ⟨⟨hsp, hne⟩, hs⟩ := forall_mem_cons.mp hs
    exact forall_mem_cons.mpr ⟨fun h => not_infix_replaceAll hsp hne (infix_of_infix_foldl hsp h),
      ih hs⟩

lemma mem_foldl {b : UInt8} (h : b ∈ seqs.foldl (fun raw seq => replaceAll seq 0 raw) raw) :
    b = 0x20 ∨ b ∈ raw := by
  induction seqs generalizing raw with
  | nil => exact .inr h
  | cons seq seqs ih => exact (ih h).elim .inl mem_replaceAll

lemma foldl_of_not_infix (h : ∀ seq ∈ seqs, ¬ seq <:+: raw) :
    seqs.foldl (fun raw seq => replaceAll seq 0 raw) raw = raw := by
  induction seqs with
  | nil => rfl
  | cons seq seqs ih =>
    obtain ⟨hse, hs⟩ := forall_mem_cons.mp h
    rw [foldl_cons, replaceAll_of_not_infix hse, ih hs]

lemma sanitizeLabel_sanitizeLabel (raw : Bytes) : sanitizeLabel (sanitizeLabel raw) =
    sanitizeLabel raw := by
  have hc : ∀ b ∈ sanitizeLabel raw, isControl b = false := by
    intro b hb
    have hsp : isControl 0x20 = false := rfl
    rcases mem_foldl (mem_of_mem_take hb) with rfl | hm
    · exact hsp
    · obtain ⟨x, -, rfl⟩ := mem_map.mp hm
      grind
  have hs : ∀ seq ∈ kForbiddenSequences, ¬ seq <:+: sanitizeLabel raw := fun seq hse h =>
    not_infix_foldl (by decide) seq hse (h.trans ( take_prefix _ _).isInfix)
  have hl : (sanitizeLabel raw).length ≤ kMaxCallerLabelLength :=
    (length_take_le _ _).trans (utf8PrefixLength_le _ _)
  have hm : (sanitizeLabel raw).map (fun b => if isControl b then 0x20 else b) =
    sanitizeLabel raw := by
    refine (map_congr_left fun b hb => ?_).trans (map_id _)
    rw [hc b hb]
    rfl
  generalize sanitizeLabel raw = out at *
  simp only [sanitizeLabel]
  rw [hm, foldl_of_not_infix hs, utf8PrefixLength, if_pos hl, take_length]

end Bytes

lemma mem_kept {cs kept : List Char} (h : kept <+: cs.map sanitizedChar) {d : Char}
    (hd : d ∈ kept) :
    isDisplayable d ∧ d ∉ forbiddenChars := by
  obtain ⟨c, -, rfl⟩ := mem_map.mp (h.subset hd)
  have hsp : isDisplayable ' ' ∧ ' ' ∉ forbiddenChars := by decide
  grind [sanitizedChar]

/-- Of every text the label keeps the longest run of characters within the limit, once each
forbidden character has been replaced by a space, and this is text that may be shown; whatever the
bytes are, a label is left as it is. -/
theorem sanitizeLabel_exact :
    (∀ cs : List Char, isDisplayableUtf8 (sanitizeLabel (encode cs)) = true ∧
      ∃ kept, kept <+: cs.map sanitizedChar ∧
      sanitizeLabel (encode cs) = encode kept ∧ (encode kept).length ≤ kMaxCallerLabelLength ∧
      ∀ other, other <+: cs.map sanitizedChar → (encode other).length ≤ kMaxCallerLabelLength →
        other <+: kept) ∧
    ∀ raw, sanitizeLabel (sanitizeLabel raw) = sanitizeLabel raw := by
  refine ⟨fun cs => ⟨?_, fitting kMaxCallerLabelLength (cs.map sanitizedChar), isPrefix_fitting _ _,
      sanitizeLabel_encode cs,
    length_fitting_le _ _, fun _ hp hl => prefix_fitting hp hl⟩, sanitizeLabel_sanitizeLabel⟩
  exact isDisplayableUtf8_iff.mpr ⟨_, sanitizeLabel_encode cs, fun d hd =>
      (mem_kept (isPrefix_fitting _ _) hd).1⟩

/-! ## What reorders or breaks a line -/

/-- the property `Bidi_Control` -/
def isBidiControl (c : Char) : Prop :=
  c.toNat ∈ [0x061C, 0x200E, 0x200F] ∨ 0x202A ≤ c.toNat ∧ c.toNat ≤ 0x202E ∨ 0x2066 ≤ c.toNat ∧
    c.toNat ≤ 0x2069

def isLineSeparator (c : Char) : Prop := c.toNat ∈ [0x85, 0x2028, 0x2029]

instance (c : Char) : Decidable (isBidiControl c) := inferInstanceAs (Decidable (_ ∨ _))

lemma mem_forbiddenChars {c : Char} (h : isBidiControl c ∨ isLineSeparator c)
    (hc : c.toNat ≠ 0x061C) : c ∈ forbiddenChars := by
  have hm : c.toNat ∈ forbiddenChars.map Char.toNat := by
    have he : forbiddenChars.map Char.toNat =
        [0x2028, 0x2029, 0x85, 0x200E, 0x200F, 0x202A, 0x202B, 0x202C, 0x202D, 0x202E, 0x2066,
          0x2067, 0x2068, 0x2069] := by
      decide
    rw [he]
    simp only [isBidiControl, isLineSeparator, mem_cons, not_mem_nil, or_false] at h ⊢
    omega
  obtain ⟨d, hd, he⟩ := mem_map.mp hm
  exact Char.toNat_inj.mp he ▸ hd

/-- the character that reorders text and is not in the list -/
def arabicLetterMark : Char := Char.ofNat 0x061C

lemma sanitizedChar_eq_arabicLetterMark {c : Char} :
    sanitizedChar c = arabicLetterMark ↔ c = arabicLetterMark := by
  have hs : ' ' ≠ arabicLetterMark ∧ sanitizedChar arabicLetterMark = arabicLetterMark := by decide
  grind [sanitizedChar]

lemma arabicLetterMark_mem_fitting {n : Nat} {cs : List Char} :
    arabicLetterMark ∈ fitting n (cs.map sanitizedChar) ↔ ∃ front back,
      cs = front ++ arabicLetterMark :: back ∧
        (encode (front.map sanitizedChar)).length + 2 ≤ n := by
  have hl (front : List Char) :
      (encode (front ++ [arabicLetterMark])).length = (encode front).length + 2 := by
    rw [encode_append, length_append]
    rfl
  rw [mem_fitting]
  constructor
  · rintro ⟨front, back, he, hn⟩
    obtain ⟨front, rest, rfl, rfl, hr⟩ := map_eq_append_iff.mp he
    obtain ⟨c, back, rfl, hc, -⟩ := map_eq_cons_iff.mp hr
    exact ⟨front, back, by rw [sanitizedChar_eq_arabicLetterMark.mp hc], hl _ ▸ hn⟩
  · rintro ⟨front, back, rfl, hn⟩
    refine ⟨front.map sanitizedChar, back.map sanitizedChar, ?_, hl _ ▸ hn⟩
    rw [map_append, map_cons, sanitizedChar_eq_arabicLetterMark.mpr rfl]

/-- The label of a text is free of characters that reorder text, of C0 controls and DEL and of line
separators exactly if each U+061C stands beyond the limit, the forbidden characters before it
counted as the spaces that replace them. -/
theorem sanitizeLabel_inert (cs : List Char) : ∃ kept, sanitizeLabel (encode cs) = encode kept ∧
    ((∀ d ∈ kept, ¬ isBidiControl d ∧ ¬ (d.toNat < 0x20 ∨ d.toNat = 0x7F) ∧ ¬ isLineSeparator d) ↔
      ∀ front back, cs = front ++ arabicLetterMark :: back →
        kMaxCallerLabelLength < (encode (front.map sanitizedChar)).length + 2) := by
  refine ⟨_, sanitizeLabel_encode cs, ?_⟩
  constructor
  · intro h front back he
    by_contra hl
    exact (h _ (arabicLetterMark_mem_fitting.mpr ⟨front, back, he, not_lt.mp hl⟩)).1 (by decide)
  · intro h d hd
    obtain ⟨hs, hf⟩ := mem_kept (isPrefix_fitting _ _) hd
    have hne : d.toNat ≠ 0x061C := by
      intro he
      obtain rfl : d = arabicLetterMark := Char.toNat_inj.mp he
      obtain ⟨front, back, hc, hl⟩ := arabicLetterMark_mem_fitting.mp hd
      exact absurd (h front back hc) (not_lt.mpr hl)
    unfold isDisplayable at hs
    exact ⟨fun hb => hf (mem_forbiddenChars (.inl hb) hne), by omega,
      fun hl => hf (mem_forbiddenChars (.inr hl) hne)⟩

/-- a name that would go on in a line of its own, from right to left -/
theorem sanitizeLabel_inert_spoofed : ∃ kept,
    sanitizeLabel (encode ['a', '\n', Char.ofNat 0x202E, 'b', Char.ofNat 0x2028]) = encode kept ∧
      ∀ d ∈ kept, ¬ isBidiControl d ∧ ¬ (d.toNat < 0x20 ∨ d.toNat = 0x7F) ∧
        ¬ isLineSeparator d := by
  obtain ⟨kept, he, hk⟩ :=
    sanitizeLabel_inert ['a', '\n', Char.ofNat 0x202E, 'b', Char.ofNat 0x2028]
  refine ⟨kept, he, hk.mpr fun front back hc => ?_⟩
  have hm : arabicLetterMark ∈ ['a', '\n', Char.ofNat 0x202E, 'b', Char.ofNat 0x2028] :=
    hc ▸ mem_append_right front mem_cons_self
  exact absurd hm (by decide)

/-- U+061C, the Arabic letter mark, goes through. -/
theorem sanitizeLabel_arabicLetterMark :
    sanitizeLabel (encode [arabicLetterMark]) = encode [arabicLetterMark] ∧
      isBidiControl arabicLetterMark := by
  decide

end LibreAgent.Util
