import LibreAgent.Cache.Snapshots
import LibreAgent.Lib.Utf8
import Mathlib.Data.List.Forall2
import Mathlib.Data.List.Nodup

/-!
# The ids of the PINs of one card

An id as the card gives it has one colon, and an index adds a second one, which is the last.  So no
index makes an id that another record has already.
-/

namespace LibreAgent.Cache

open List
open Bytes (lit)

/-! ## Colons -/

lemma mem_of_colon_mem_lit {s : String} (h : 58 ∈ lit s) : ':' ∈ s.toList := by
  have hs : lit s = Utf8.encode s.toList := by
    rw [lit, ← String.utf8Encode_toList, List.utf8Encode, List.data_toByteArray, Utf8.encode]
  rw [hs, Utf8.encode, mem_flatMap] at h
  obtain ⟨c, hc, h58⟩ := h
  by_cases hn : c.toNat ≤ 127
  · rw [Utf8.utf8EncodeChar_ascii hn, mem_singleton] at h58
    have hc' : c.toNat = ':'.toNat := by
      have := congrArg UInt8.toNat h58
      rw [UInt8.toNat_ofNat', Nat.mod_eq_of_lt (by omega)] at this
      exact this.symm
    rwa [← Char.toNat_inj.mp hc']
  · exact absurd (Utf8.le_toNat_of_mem (Nat.lt_of_not_le hn) h58) (by decide)

lemma colon_not_mem_toDigits {b : Nat} (hb : 1 < b) (n : Nat) : ':' ∉ Nat.toDigits b n := by
  have hd (k : Nat) : ':' ≠ Nat.digitChar k := by
    rcases Nat.lt_or_ge k 16 with hk | hk
    · revert k
      decide
    · rw [Nat.digitChar_eq_star.mpr hk]
      decide
  induction n using Nat.strongRecOn with
  | ind n ih =>
    rw [Nat.toDigits_eq_if hb]
    split
    · simp [hd n]
    · simp [hd, ih (n / b) (Nat.div_lt_self (by omega) hb)]

def suffix (index : Nat) : Bytes := lit (toString index)

lemma colon_not_mem_suffix (index : Nat) : 58 ∉ suffix index := by
  intro h
  have hm := mem_of_colon_mem_lit h
  rw [Nat.toString_eq_ofList_toDigits, String.toList_ofList] at hm
  exact colon_not_mem_toDigits (by decide) index hm

lemma suffix_injective : Function.Injective suffix := by
  intro m n h
  have hd := congrArg String.toList ((Bytes.lit_inj _ _).mp h)
  rw [Nat.toString_eq_ofList_toDigits, Nat.toString_eq_ofList_toDigits, String.toList_ofList,
      String.toList_ofList] at hd
  rw [← Nat.ofDigitChars_ten_toDigits (n := m), hd, Nat.ofDigitChars_ten_toDigits]

lemma count_colon_hexReference (reference : Nat) : (hexReference reference).count 58 = 0 := by
  rw [count_eq_zero]
  intro h
  have hm := mem_of_colon_mem_lit h
  rw [String.toList_ofList, mem_append] at hm
  rcases hm with hm | hm
  · exact absurd (eq_of_mem_replicate hm) (by decide)
  · exact colon_not_mem_toDigits (by decide) reference hm

lemma count_colon_id {e : PinStatusEntry} {record : CredentialRecord}
    (h : toCredentialRecord e = some record) : record.id.count 58 = 1 := by
  simp only [toCredentialRecord, bind, Option.bind_eq_some_iff, pure, Option.some.injEq] at h
  obtain ⟨_, -, _, -, rfl⟩ := h
  have hk : (credentialKindToken e.kind).count 58 = 0 := by
    cases e.kind <;> decide
  rw [count_append, count_append, hk, count_colon_hexReference]
  decide

lemma append_colon_inj {a b x y : Bytes} (hx : 58 ∉ x) (hy : 58 ∉ y)
    (h : a ++ 58 :: x = b ++ 58 :: y) : a = b ∧ x = y := by
  rcases append_eq_append_iff.mp h with ⟨t, rfl, ht⟩ | ⟨t, rfl, ht⟩
  · rcases t with - | ⟨c, t⟩
    · exact ⟨by simp, by simpa using ht⟩
    · exact absurd (by simp_all) hx
  · rcases t with - | ⟨c, t⟩
    · exact ⟨by simp, by simpa using ht.symm⟩
    · exact absurd (by simp_all) hy

/-! ## Which ids are made -/

section Suffix
variable {population nextIndex : Bytes → Nat} {records : List CredentialRecord}

lemma suffixIds_of_unique (h : ∀ record ∈ records, population record.id < 2) :
    suffixIds population nextIndex records = records := by
  induction records with
  | nil => rfl
  | cons record records ih =>
    rw [forall_mem_cons] at h
    rw [suffixIds, if_pos h.1, ih h.2]

/-- nothing but ids changes, and an id that no other record has stays -/
lemma suffixIds_forall₂ : Forall₂ (fun record out => out = { record with id := out.id } ∧
    (population record.id < 2 → out = record)) records
      (suffixIds population nextIndex records) := by
  induction records generalizing nextIndex with
  | nil => exact .nil
  | cons record records ih =>
    rw [suffixIds]
    split
    · exact .cons ⟨rfl, fun _ => rfl⟩ ih
    · next hp => exact .cons ⟨rfl, fun h => absurd h hp⟩ ih

lemma mem_suffixIds {id : Bytes} (h : id ∈ (suffixIds population nextIndex records).map (·.id)) :
    ∃ record ∈ records, id = record.id ∧ population record.id < 2 ∨
      ∃ index ≥ nextIndex record.id, id = record.id ++ 58 :: suffix index := by
  induction records generalizing nextIndex with
  | nil => exact absurd h (by simp [suffixIds])
  | cons record records ih =>
    rw [suffixIds] at h
    split at h
    · rename_i hp
      rcases mem_cons.mp h with rfl | h
      · exact ⟨record, mem_cons_self, .inl ⟨rfl, hp⟩⟩
      · obtain ⟨other, ho, hid⟩ := ih h
        exact ⟨other, mem_cons_of_mem _ ho, hid⟩
    · rcases mem_cons.mp h with rfl | h
      · exact ⟨record, mem_cons_self, .inr ⟨nextIndex record.id, le_rfl, append_assoc ..⟩⟩
      · obtain ⟨other, ho, hid⟩ := ih h
        refine ⟨other, mem_cons_of_mem _ ho, hid.imp_right ?_⟩
        rintro ⟨index, hi, hid⟩
        refine ⟨index, le_trans ?_ hi, hid⟩
        rw [Function.update_apply]
        split
        · simp_all
        · exact le_rfl

lemma nodup_suffixIds (hc : ∀ record ∈ records, record.id.count 58 = 1)
    (hp : ∀ record ∈ records, (records.map (·.id)).count record.id ≤ population record.id) :
    ((suffixIds population nextIndex records).map (·.id)).Nodup := by
  induction records generalizing nextIndex with
  | nil => exact nodup_nil
  | cons record records ih =>
    rw [forall_mem_cons] at hc
    have hp' : ∀ other ∈ records, (records.map (·.id)).count other.id ≤ population other.id :=
      fun other ho =>
      (count_le_count_cons ..).trans (hp other (mem_cons_of_mem _ ho))
    -- the colons tell an id that got an index from one that did not
    have hco (id : Bytes) (index : Nat) :
        (id ++ 58 :: suffix index).count 58 = id.count 58 + 1 := by
      rw [count_append, count_cons_self, count_eq_zero.mpr (colon_not_mem_suffix index)]
    rw [suffixIds]
    split
    · rename_i hon
      refine nodup_cons.mpr ⟨fun (h : record.id ∈ _) => ?_, ih hc.2 hp'⟩
      obtain ⟨other, ho, ⟨hid, -⟩ | ⟨index, -, hid⟩⟩ := mem_suffixIds h
      · have h2 := hp record mem_cons_self
        rw [map_cons, count_cons_self] at h2
        have h1 : 0 < (records.map (·.id)).count record.id :=
          count_pos_iff.mpr (hid ▸ mem_map_of_mem ho)
        omega
      · have hh := hco other.id index
        rw [← hid, hc.1, hc.2 other ho] at hh
        omega
    · refine nodup_cons.mpr ⟨fun (h : record.id ++ lit ":" ++ suffix _ ∈ _) => ?_, ih hc.2 hp'⟩
      rw [append_assoc] at h
      obtain ⟨other, ho, ⟨hid, -⟩ | ⟨index, hi, hid⟩⟩ := mem_suffixIds h
      · have hh := hco record.id (nextIndex record.id)
        rw [hc.1] at hh
        exact absurd (hh.symm.trans ((congrArg (count 58) hid).trans (hc.2 other ho))) (by decide)
      · obtain ⟨hid, hs⟩ :=
          append_colon_inj (colon_not_mem_suffix _) (colon_not_mem_suffix index) hid
        rw [← hid, Function.update_self, ← suffix_injective hs] at hi
        omega

end Suffix

/-- Over records as they come from the card, the ids become unique; nothing but ids changes, an id
that one record has stays, and a second run changes nothing. -/
theorem disambiguateCredentialIds_exact {records : List CredentialRecord}
    (h : ∀ record ∈ records, ∃ e, toCredentialRecord e = some record) :
    ((disambiguateCredentialIds records).map (·.id)).Nodup ∧
    Forall₂ (fun record out => out = { record with id := out.id } ∧
      ((records.map (·.id)).count record.id = 1 → out = record)) records
        (disambiguateCredentialIds records) ∧
    disambiguateCredentialIds (disambiguateCredentialIds records) =
      disambiguateCredentialIds records := by
  have hn : ((disambiguateCredentialIds records).map (·.id)).Nodup := by
    refine nodup_suffixIds (fun record hr => ?_) fun _ _ => le_rfl
    obtain ⟨e, he⟩ := h record hr
    exact count_colon_id he
  refine ⟨hn, suffixIds_forall₂.imp fun record out h => ⟨h.1, fun h1 => h.2 (by rw [h1]; decide)⟩,
      ?_⟩
  exact suffixIds_of_unique fun record _ =>
    Nat.lt_succ_of_le (List.nodup_iff_count_le_one.mp hn record.id)

def unknownPin : PinStatusEntry :=
  ⟨.unknown, 0, [], .unknown, none, none, none, none, none, none, none, false, false, false, false,
      false, .unknown, none, none⟩

theorem disambiguateCredentialIds_exact_pair :
    ([unknownPin, unknownPin].filterMap toCredentialRecord).length = 2 ∧
    ((disambiguateCredentialIds ([unknownPin, unknownPin].filterMap toCredentialRecord)).map
      (·.id)).Nodup := by
  refine ⟨by decide, (disambiguateCredentialIds_exact fun record hr => ?_).1⟩
  obtain ⟨e, -, he⟩ := mem_filterMap.mp hr
  exact ⟨e, he⟩

end LibreAgent.Cache
