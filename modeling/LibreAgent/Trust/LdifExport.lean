import LibreAgent.Lib.Base64
import LibreAgent.Trust.MasterListFile

/-!
# Directory exports

Whatever way an export is folded into physical lines and whichever way these end, the signed objects
in it come out, in their order.

* `LdifLine` : the lines of an export before folding, as RFC 2849 has them: ASCII text without a
  zero, a line feed or a carriage return, base64 announced by a second colon;
* `exportBytes` : the file;
* `decodeBase64_encode` : the decoder undoes the encoding of RFC 4648, the empty one apart;
* `masterListsIn_exportBytes` : what is found in the file.
-/

namespace LibreAgent.Trust

open Bytes Text List

/-! ## Base64 -/

lemma base64Digit_digit : ∀ v < 64, base64Digit (Base64.digit v) = some v := by decide

lemma digit_ne_padding : ∀ v < 64, Base64.digit v ≠ padding := by decide

lemma groupByte_eq {n shift : Nat} {a : UInt8} (h : n / 2 ^ shift % 2 ^ 8 = a.toNat) :
    groupByte n shift = a := by
  rw [groupByte, ← UInt8.toNat_inj, UInt8.toNat_ofNat', h]

section Groups
variable (a b c : UInt8) (last : Bool)

lemma decodeGroup_three : decodeGroup last (Base64.digit (a.toNat / 4))
    (Base64.digit (a.toNat % 4 * 16 + b.toNat / 16))
        (Base64.digit (b.toNat % 16 * 4 + c.toNat / 64)) (Base64.digit (c.toNat % 64))
      = some [a, b, c] := by
  have ha : a.toNat < 256 := a.toNat_lt
  have hb : b.toNat < 256 := b.toNat_lt
  have hc : c.toNat < 256 := c.toNat_lt
  have h0 : a.toNat / 4 < 64 := by omega
  have h1 : a.toNat % 4 * 16 + b.toNat / 16 < 64 := by omega
  have h2 : b.toNat % 16 * 4 + c.toNat / 64 < 64 := by omega
  have h3 : c.toNat % 64 < 64 := by omega
  simp only [decodeGroup, base64Digit_digit _ h0, base64Digit_digit _ h1, base64Digit_digit _ h2,
    base64Digit_digit _ h3, if_neg (digit_ne_padding _ h2), if_neg (digit_ne_padding _ h3),
    Option.bind_eq_bind, Option.bind_some, Option.pure_def]
  rw [groupByte_eq (a := a), groupByte_eq (a := b), groupByte_eq (a := c)] <;> omega

lemma decodeGroup_two : decodeGroup true (Base64.digit (a.toNat / 4))
    (Base64.digit (a.toNat % 4 * 16 + b.toNat / 16))
        (Base64.digit (b.toNat % 16 * 4)) padding
      = some [a, b] := by
  have ha : a.toNat < 256 := a.toNat_lt
  have hb : b.toNat < 256 := b.toNat_lt
  have h0 : a.toNat / 4 < 64 := by omega
  have h1 : a.toNat % 4 * 16 + b.toNat / 16 < 64 := by omega
  have h2 : b.toNat % 16 * 4 < 64 := by omega
  simp only [decodeGroup, base64Digit_digit _ h0, base64Digit_digit _ h1, base64Digit_digit _ h2,
    if_neg (digit_ne_padding _ h2), if_true, Option.bind_eq_bind, Option.bind_some, Option.pure_def]
  rw [groupByte_eq (a := a), groupByte_eq (a := b)] <;> omega

lemma decodeGroup_one : decodeGroup true (Base64.digit (a.toNat / 4))
    (Base64.digit (a.toNat % 4 * 16)) padding padding
      = some [a] := by
  have ha : a.toNat < 256 := a.toNat_lt
  have h0 : a.toNat / 4 < 64 := by omega
  have h1 : a.toNat % 4 * 16 < 64 := by omega
  simp only [decodeGroup, base64Digit_digit _ h0, base64Digit_digit _ h1, if_true, and_self,
    Option.bind_eq_bind, Option.bind_some, Option.pure_def]
  rw [groupByte_eq (a := a)]
  omega

end Groups

lemma decodeGroups_encode (b : Bytes) : decodeGroups (Base64.encode b) = some b := by
  fun_induction Base64.encode b with
  | case1 => rfl
  | case2 a =>
    have hg := decodeGroup_one a
    rw [padding] at hg
    simp [decodeGroups, Base64.pad, hg]
  | case3 a b =>
    have hg := decodeGroup_two a b
    rw [padding] at hg
    simp [decodeGroups, Base64.pad, hg]
  | case4 a b c rest ih =>
    simp [decodeGroups, decodeGroup_three, ih]

lemma decodeBase64_encode {b : Bytes} (h : b ≠ []) : decodeBase64 (Base64.encode b) = some b := by
  have hne : Base64.encode b ≠ [] := fun e => h ((Base64.encode_eq_nil_iff b).mp e)
  rw [decodeBase64, if_neg (not_or.mpr ⟨hne, not_not.mpr (Base64.length_encode b)⟩),
      decodeGroups_encode]

/-! ## The lines of an export -/

def isSafe (c : UInt8) : Bool :=
  c < 128 && c != 0 && c != 10 && c != 13

inductive LdifValue where
  /-- what follows the colon, when that is not a second one -/
  | plain (text : { t : Bytes // (∀ c ∈ t, isSafe c = true) ∧ t.head? ≠ some 58 })
  /-- any bytes, in base64, after some spaces -/
  | encoded (spaces : Nat) (bytes : Bytes)

inductive LdifLine where
  | attr (description : { d : Bytes // isDescription d = true }) (value : LdifValue)
  | comment (text : { t : Bytes // ∀ c ∈ t, isSafe c = true })
  /-- the empty line between records -/
  | separator

def LdifValue.text : LdifValue → Bytes
  | plain t => t.val
  | encoded spaces b => 58 :: (List.replicate spaces 32 ++ Base64.encode b)

namespace LdifLine

def text : LdifLine → Bytes
  | attr description value => description.val ++ 58 :: value.text
  | comment t => 35 :: t.val
  | separator => []

def namesDn : LdifLine → Bool
  | attr description _ => isDistinguishedName description.val
  | _ => false

def object? : LdifLine → Option Bytes
  | attr _ (.encoded _ b) => if isSignedObject b then some b else none
  | _ => none

end LdifLine

variable {c : UInt8}

lemma isSafe_of_isTypeStart (h : isTypeStart c = true) : isSafe c = true := by
  simp only [isTypeStart, Bool.or_eq_true, Bool.and_eq_true, decide_eq_true_eq] at h
  simp only [isSafe, Bool.and_eq_true, decide_eq_true_eq, bne_iff_ne, ne_eq]
  grind

lemma isSafe_of_isTypeChar (h : isTypeChar c = true) : isSafe c = true := by
  simp only [isTypeChar, Bool.or_eq_true, beq_iff_eq] at h
  rcases h with ((h | rfl) | rfl) | rfl
  · exact isSafe_of_isTypeStart h
  · decide
  · decide
  · decide

lemma isTypeStart_of_isDescription {rest : Bytes} (h : isDescription (c :: rest) = true) :
    isTypeStart c = true :=
  (Bool.and_eq_true_iff.mp h).1

lemma isTypeChar_of_mem {description : Bytes} (h : isDescription description = true)
    (hc : c ∈ description) : isTypeChar c = true := by
  cases description with
  | nil => cases hc
  | cons d rest =>
    obtain ⟨hd, hr⟩ := Bool.and_eq_true_iff.mp h
    rcases mem_cons.mp hc with rfl | hc
    · rw [isTypeChar, hd]
      rfl
    · exact all_eq_true.mp hr c hc

lemma isSafe_of_isChar (h : Base64.IsChar c) : isSafe c = true :=
  h.elim (p := fun c => isSafe c = true) (by decide) (by decide)

lemma isSafe_value {value : LdifValue} (h : c ∈ value.text) : isSafe c = true := by
  cases value with
  | plain t => exact t.property.1 c h
  | encoded spaces b =>
    rcases mem_cons.mp h with rfl | h
    · decide
    rcases mem_append.mp h with h | h
    · rw [eq_of_mem_replicate h]
      decide
    · exact isSafe_of_isChar (Base64.mem_encode h)

lemma isSafe_text {line : LdifLine} (h : c ∈ line.text) : isSafe c = true := by
  cases line with
  | attr description value =>
    rcases mem_append.mp h with h | h
    · exact isSafe_of_isTypeChar (isTypeChar_of_mem description.property h)
    rcases mem_cons.mp h with rfl | h
    · decide
    · exact isSafe_value h
  | comment t =>
    rcases mem_cons.mp h with rfl | h
    · decide
    · exact t.property c h
  | separator => cases h

/-! ## One logical line -/

lemma signedObjectIn_encoded (spaces : Nat) (b : Bytes) :
    signedObjectIn (58 :: (List.replicate spaces 32 ++ Base64.encode b))
      = if isSignedObject b then some b else none := by
  have hch : ∀ c ∈ Base64.encode b, ¬ (c == 32 || c == 9 || c == 13) = true := by
    intro c hc
    exact (Base64.mem_encode hc).elim (p := fun c => ¬ (c == 32 || c == 9 || c == 13) = true)
      (by decide) (by decide)
  have hs : ∀ c ∈ Base64.encode b, ¬ (c == 32 || c == 9) = true := by
    intro c hc h
    exact hch c hc (by rw [h]; rfl)
  have hle : (List.replicate spaces 32 ++ Base64.encode b).dropWhile (fun c => c == 32 || c == 9) =
    Base64.encode b := by
    rw [List.dropWhile_append_of_pos]
    · exact List.dropWhile_eq_self_iff.mpr fun hl => hs _ (List.getElem_mem hl)
    · intro c hc
      rw [eq_of_mem_replicate hc]
      rfl
  have hr : (Base64.encode b).rdropWhile (fun c => c == 32 || c == 9 || c == 13) =
    Base64.encode b :=
    List.rdropWhile_eq_self_iff.mpr fun hl => hch _ (List.getLast_mem hl)
  rw [signedObjectIn]
  show (decodeBase64 (List.rdropWhile _ (List.dropWhile _ _))).filter isSignedObject = _
  rw [hle, hr]
  by_cases hb : b = []
  · rw [hb]
    rfl
  · rw [decodeBase64_encode hb, Option.filter_some]

lemma signedObjectIn_plain {t : Bytes} (h : t.head? ≠ some 58) : signedObjectIn t = none := by
  unfold signedObjectIn
  split
  · exact absurd rfl h
  · rfl

lemma considerLine_text (line : LdifLine) :
    considerLine line.text = some (line.namesDn, line.object?) := by
  cases line with
  | separator => rfl
  | comment t =>
    show considerLine (35 :: t.val) = some (false, none)
    rw [considerLine, if_pos (Or.inr List.head?_cons)]
  | attr description value =>
    obtain ⟨description, hd⟩ := description
    have hc : (58 : UInt8) ∉ description := fun h =>
      absurd (isTypeChar_of_mem hd h) (by decide)
    have hl : ¬ (description ++ 58 :: value.text = [] ∨ (description ++ 58 :: value.text).head? =
      some 35) := by
      cases description with
      | nil => cases hd
      | cons c rest =>
        rintro (h | h)
        · cases h
        · cases h
          exact absurd (isTypeStart_of_isDescription hd) (by decide)
    show considerLine (description ++ 58 :: value.text) = _
    rw [considerLine, if_neg hl, cutAt_append hc, Option.bind_some, if_pos hd]
    cases value with
    | plain t => exact congrArg (fun o => some (_, o)) (signedObjectIn_plain t.property.2)
    | encoded spaces b => exact congrArg (fun o => some (_, o)) (signedObjectIn_encoded spaces b)

/-! ## Physical lines -/

inductive LineEnd where
  | lf
  | crlf

def LineEnd.carriage : LineEnd → Bytes
  | lf => []
  | crlf => [13]

structure FoldedLine where
  line : LdifLine
  first : Bytes × LineEnd
  continuations : List (Bytes × LineEnd)
  whole : first.1 ++ (continuations.map Prod.fst).flatten = line.text

def FoldedLine.physical (f : FoldedLine) : List (Bytes × LineEnd) :=
  f.first :: f.continuations.map fun p => (32 :: p.1, p.2)

def lineBytes : List (Bytes × LineEnd) → Bool → Bytes
  | [], _ => []
  | [(line, _)], false => line
  | (line, e) :: rest, closed => (line ++ e.carriage) ++ 10 :: lineBytes rest closed

def exportBytes (lines : List FoldedLine) (closed : Bool) : Bytes :=
  lineBytes (lines.flatMap FoldedLine.physical) closed

variable {line : Bytes} {lines : List (Bytes × LineEnd)}

lemma physicalLine_of_not_mem (h : (13 : UInt8) ∉ line) : physicalLine line = line := by
  rw [physicalLine, if_neg fun e => h (mem_of_getLast? e)]

lemma physicalLine_carriage (h : (13 : UInt8) ∉ line) (e : LineEnd) :
    physicalLine (line ++ e.carriage) = line := by
  cases e with
  | lf => rw [LineEnd.carriage, append_nil, physicalLine_of_not_mem h]
  | crlf =>
    rw [LineEnd.carriage, physicalLine, if_pos List.getLast?_concat, List.dropLast_concat]

lemma physicalLines_lineBytes (closed : Bool) (h : ∀ p ∈ lines, ∀ c ∈ p.1, isSafe c = true) :
    (pieces 10 (lineBytes lines closed)).map physicalLine = lines.map Prod.fst ∨
      (pieces 10 (lineBytes lines closed)).map physicalLine = lines.map Prod.fst ++ [[]] := by
  have hl : ∀ p ∈ lines, (10 : UInt8) ∉ p.1 ∧ (13 : UInt8) ∉ p.1 := fun p hp =>
    ⟨fun hc => absurd (h p hp _ hc) (by decide), fun hc => absurd (h p hp _ hc) (by decide)⟩
  fun_induction lineBytes lines closed with
  | case1 closed => exact Or.inr (by rw [pieces_nil]; rfl)
  | case2 line e =>
    obtain ⟨hlf, hcr⟩ := hl _ mem_cons_self
    refine Or.inl ?_
    rw [pieces_of_not_mem hlf, map_singleton, physicalLine_of_not_mem hcr]
    rfl
  | case3 line e rest closed hne ih =>
    obtain ⟨hlf, hcr⟩ := hl _ mem_cons_self
    have hd : (10 : UInt8) ∉ line ++ e.carriage := by
      intro hc
      rcases mem_append.mp hc with hc | hc
      · exact hlf hc
      · revert hc
        cases e <;> decide
    have hr := ih (fun p hp => h p (mem_cons_of_mem _ hp)) (fun p hp => hl p (mem_cons_of_mem _ hp))
    rw [pieces_append_delim hd, map_cons, physicalLine_carriage hcr, map_cons]
    rcases hr with hr | hr
    · exact Or.inl (by rw [hr])
    · exact Or.inr (by rw [hr, cons_append])

/-! ## Unfolding -/

lemma logicalLines_continuations (parts : List Bytes) (logical : Bytes) (lines : List Bytes) :
    logicalLines logical (parts.map (32 :: ·) ++ lines) =
      logicalLines (logical ++ parts.flatten) lines := by
  induction parts generalizing logical with
  | nil => rw [flatten_nil, append_nil]; rfl
  | cons p parts ih =>
    rw [map_cons, cons_append, logicalLines, ih, flatten_cons, append_assoc]

lemma logicalLines_start (h : line.head? ≠ some 32) (logical : Bytes) (lines : List Bytes) :
    logicalLines logical (line :: lines) = logical :: logicalLines line lines := by
  cases line with
  | nil => rfl
  | cons c rest =>
    rw [logicalLines]
    rintro rest' heq
    cases heq
    exact h rfl

lemma unfoldLines_start (h : line.head? ≠ some 32) (lines : List Bytes) :
    unfoldLines (line :: lines) = logicalLines line lines := by
  cases line with
  | nil => rfl
  | cons c rest =>
    rw [unfoldLines]
    rintro rest' heq
    cases heq
    exact h rfl

lemma head_text_ne_space (line : LdifLine) : line.text.head? ≠ some 32 := by
  cases line with
  | separator => decide
  | comment t => exact fun h => absurd (Option.some.inj h) (by decide)
  | attr description value =>
    obtain ⟨description, hd⟩ := description
    cases description with
    | nil => cases hd
    | cons c rest =>
      intro h
      cases h
      exact absurd (isTypeStart_of_isDescription hd) (by decide)

variable (f : FoldedLine)

lemma head_first_ne_space : f.first.1.head? ≠ some 32 := by
  have hw := f.whole
  cases hf : f.first.1 with
  | nil => exact nofun
  | cons c rest =>
    intro h
    rw [hf] at hw
    apply head_text_ne_space f.line
    rw [← hw]
    exact h

def FoldedLine.contents (f : FoldedLine) : List Bytes :=
  f.first.1 :: (f.continuations.map Prod.fst).map (32 :: ·)

lemma map_fst_physical : f.physical.map Prod.fst = f.contents := by
  rw [FoldedLine.physical, FoldedLine.contents, map_cons, map_map, map_map]
  rfl

lemma logicalLines_contents (lines : List Bytes) :
    logicalLines f.first.1 ((f.continuations.map Prod.fst).map (32 :: ·) ++ lines)
      = logicalLines f.line.text lines := by
  rw [logicalLines_continuations, f.whole]

lemma logicalLines_folded (folded : List FoldedLine) (logical : Bytes) :
    logicalLines logical (folded.flatMap FoldedLine.contents)
      = logical :: folded.map fun f => f.line.text := by
  induction folded generalizing logical with
  | nil => rfl
  | cons f folded ih =>
    rw [List.flatMap_cons, FoldedLine.contents, cons_append,
      logicalLines_start (head_first_ne_space f), logicalLines_contents, ih, map_cons]

lemma unfoldLines_folded (folded : List FoldedLine) :
    unfoldLines (folded.flatMap FoldedLine.contents) = folded.map fun f => f.line.text := by
  cases folded with
  | nil => rfl
  | cons f folded =>
    rw [List.flatMap_cons, FoldedLine.contents, cons_append,
      unfoldLines_start (head_first_ne_space f), logicalLines_contents, logicalLines_folded,
      map_cons]

/-! ## The file -/

lemma safe_physical (lines : List FoldedLine) : ∀ p ∈ lines.flatMap FoldedLine.physical, ∀ c ∈ p.1,
    isSafe c = true := by
  intro p hp c hc
  obtain ⟨f, -, hp⟩ := mem_flatMap.mp hp
  have hpa : ∀ c ∈ f.first.1 ++ (f.continuations.map Prod.fst).flatten, isSafe c = true := by
    rw [f.whole]
    exact fun c => isSafe_text
  rcases mem_cons.mp hp with rfl | hp
  · exact hpa c (mem_append_left _ hc)
  · obtain ⟨q, hq, rfl⟩ := mem_map.mp hp
    rcases mem_cons.mp hc with rfl | hc
    · decide
    · exact hpa c (mem_append_right _ (mem_flatten.mpr ⟨q.1, mem_map_of_mem hq, hc⟩))

lemma ascii_lineBytes (closed : Bool) (h : ∀ p ∈ lines, ∀ c ∈ p.1, isSafe c = true) :
    ∀ c ∈ lineBytes lines closed, c < 128 ∧ c ≠ 0 := by
  have hs : ∀ {c : UInt8}, isSafe c = true → c < 128 ∧ c ≠ 0 := by
    intro c hc
    simp only [isSafe, Bool.and_eq_true, decide_eq_true_eq, bne_iff_ne, ne_eq] at hc
    exact ⟨hc.1.1.1, hc.1.1.2⟩
  fun_induction lineBytes lines closed with
  | case1 closed => exact fun c hc => absurd hc not_mem_nil
  | case2 line e => exact fun c hc => hs (h _ mem_cons_self c hc)
  | case3 line e rest closed hne ih =>
    intro c hc
    rcases mem_append.mp hc with hc | hc
    · rcases mem_append.mp hc with hc | hc
      · exact hs (h _ mem_cons_self c hc)
      · cases e with
        | lf => cases hc
        | crlf =>
          rw [mem_singleton.mp hc]
          decide
    · rcases mem_cons.mp hc with rfl | hc
      · decide
      · exact ih (fun p hp => h p (mem_cons_of_mem _ hp)) c hc

/-- a signed object is no ASCII text: there is an octet above in the identifier of its type -/
lemma not_isSignedObject {value : Bytes} (h : ∀ c ∈ value, c < 128 ∧ c ≠ 0) :
    ¬ isSignedObject value = true := by
  intro ho
  rw [isSignedObject] at ho
  split at ho
  · cases ho
  split at ho
  · cases ho
  split at ho
  · cases ho
  rename_i header _
  obtain ⟨rest, hr⟩ := List.isPrefixOf_iff_prefix.mp ho
  have hm : (0x86 : UInt8) ∈ value := by
    apply mem_of_mem_drop (i := header)
    rw [← hr]
    exact mem_append_left _ (by decide)
  exact absurd (h _ hm).1 (by decide)

lemma mapM_considerLine (lines : List LdifLine) : (lines.map LdifLine.text).mapM considerLine
      = some (lines.map fun line => (line.namesDn, line.object?)) := by
  induction lines with
  | nil => rfl
  | cons line lines ih =>
    rw [map_cons, List.mapM_cons, considerLine_text, ih]
    rfl

lemma unfoldLines_exportBytes (lines : List FoldedLine) (closed : Bool) :
    ∃ extra, (extra = [] ∨ extra = [LdifLine.separator]) ∧
      unfoldLines ((pieces 10 (exportBytes lines closed)).map physicalLine)
        = ((lines.map FoldedLine.line) ++ extra).map LdifLine.text := by
  have hc :
      (lines.flatMap FoldedLine.physical).map Prod.fst = lines.flatMap FoldedLine.contents := by
    rw [map_flatMap]
    exact congrArg lines.flatMap (funext map_fst_physical)
  have hl := physicalLines_lineBytes closed (safe_physical lines)
  rcases hl with h | h
  · refine ⟨[], Or.inl rfl, ?_⟩
    rw [exportBytes, h, hc, unfoldLines_folded, append_nil, map_map]
    rfl
  · refine ⟨[.separator], Or.inr rfl, ?_⟩
    let empty : FoldedLine := ⟨.separator, ([], .lf), [], rfl⟩
    have he : lines.flatMap FoldedLine.contents ++ [[]] =
      (lines ++ [empty]).flatMap FoldedLine.contents := by
      rw [List.flatMap_append]
      rfl
    rw [exportBytes, h, hc, he, unfoldLines_folded, map_append, map_append, map_map]
    rfl

lemma masterListsIn_exportBytes {lines : List FoldedLine} (h : ∃ f ∈ lines, f.line.namesDn = true)
    (closed : Bool) :
    masterListsIn (exportBytes lines closed) = (lines.map FoldedLine.line).filterMap
      LdifLine.object? := by
  have ha : ∀ c ∈ exportBytes lines closed, c < 128 ∧ c ≠ 0 :=
    ascii_lineBytes closed (safe_physical lines)
  have hz : (0 : UInt8) ∉ exportBytes lines closed := fun hc => (ha 0 hc).2 rfl
  obtain ⟨extra, he, hu⟩ := unfoldLines_exportBytes lines closed
  rw [masterListsIn, if_neg (not_isSignedObject ha), if_neg hz, signedObjectsInLdif, hu,
      mapM_considerLine]
  have hdn : ((lines.map FoldedLine.line ++ extra).map fun line => (line.namesDn, line.object?)).any
    Prod.fst = true := by
    obtain ⟨f, hf, hdn⟩ := h
    refine any_eq_true.mpr ⟨(f.line.namesDn, f.line.object?), ?_, hdn⟩
    exact mem_map.mpr ⟨f.line, mem_append_left _ (mem_map_of_mem hf), rfl⟩
  show (if _ then _ else _) = _
  rw [if_pos hdn, List.filterMap_map, List.filterMap_append]
  rcases he with rfl | rfl <;> exact append_nil _

theorem export_found : (∀ (lines : List FoldedLine) (closed : Bool),
      (∃ f ∈ lines, f.line.namesDn = true) →
      masterListsIn (exportBytes lines closed)
        = (lines.map FoldedLine.line).filterMap LdifLine.object?) ∧
    ∀ b : Bytes, b ≠ [] → decodeBase64 (Base64.encode b) = some b :=
  ⟨fun _ closed h => masterListsIn_exportBytes h closed, fun _ h => decodeBase64_encode h⟩

def bareObject : Bytes :=
  [0x30, 0x0b] ++ kSignedDataOid

def objectLine : LdifLine :=
  .attr ⟨lit "cn", by decide⟩ (.encoded 1 bareObject)

def nameLine : LdifLine :=
  .attr ⟨lit "dn", by decide⟩ (.plain ⟨lit " c=AA", List.all_eq_true.mp rfl, by decide⟩)

def foldedRecord : List FoldedLine :=
  [⟨nameLine, (lit "dn: c=AA", .crlf), [], by decide⟩,
    ⟨objectLine, ([], .lf), [(lit "cn:: MAsGCSqG", .crlf), (lit "SIb3DQEHAg==", .lf)], by decide⟩]

theorem export_found_folded : exportBytes foldedRecord true =
    lit "dn: c=AA\r\n\n cn:: MAsGCSqG\r\n SIb3DQEHAg==\n" ∧
      masterListsIn (exportBytes foldedRecord true) = [bareObject] ∧
      decodeBase64 (lit "MAsGCSqGSIb3DQEHAg==") = some bareObject := by
  have hdn : ∃ f ∈ foldedRecord, f.line.namesDn = true := ⟨_, mem_cons_self, by decide⟩
  have he : Base64.encode bareObject = lit "MAsGCSqGSIb3DQEHAg==" := by decide
  refine ⟨by decide, export_found.1 foldedRecord true hdn, ?_⟩
  rw [← he]
  exact export_found.2 bareObject (by decide)

/-- the empty string has an encoding that is refused, and without a `dn` nothing is found -/
theorem export_lost : decodeBase64 (Base64.encode []) = none ∧
      ∃ f : FoldedLine, f.line = objectLine ∧ [f.line].filterMap LdifLine.object? = [bareObject] ∧
        masterListsIn (exportBytes [f] true) = [] := by
  let f : FoldedLine := ⟨objectLine, (objectLine.text, .lf), [], append_nil _⟩
  exact ⟨by decide, f, rfl, by decide, by decide +kernel⟩

end LibreAgent.Trust
