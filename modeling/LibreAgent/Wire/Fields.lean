import LibreAgent.Wire.Messages
import LibreAgent.Wire.CborRoundTrip

/-!
# Reading back what an encoder put

The lemmas every message round trip uses: a field read from a map that was built from a field
table, the values that come back from their accessors, and that the encoders' maps are built
values.

* `get_ofFields` : lookup in a map built from a field table;
* `CborValue.asUInt_ofUInt64` : the unsigned constructor against its accessor.
-/

namespace LibreAgent.Wire

open Bytes OrdMap

/-! ## Lookups -/

def lookupField (k : String) : List Field → Option CborValue
  | [] => none
  | f :: fs => if k = f.1 then f.2.or (lookupField k fs) else lookupField k fs

variable (k : String)

@[simp] lemma lookupField_nil : lookupField k [] = none := rfl

@[simp] lemma lookupField_field (k k' : String) (v : CborValue) (fs : List Field) :
    lookupField k (field k' v :: fs) = if k = k' then some v else lookupField k fs := rfl

@[simp] lemma lookupField_optField (k k' : String) (o : Option CborValue) (fs : List Field) :
    lookupField k (optField k' o :: fs) = if k = k' then o.or (lookupField k fs)
      else lookupField k fs := rfl

lemma get_foldl_emplaceOpt (fs : List Field) (acc : CborMap) :
    CborMap.get (fs.foldl (fun m f => emplaceOpt CanonicalKeyLess (lit f.1) f.2 m) acc) k
      = (CborMap.get acc k).or (lookupField k fs) := by
  induction fs generalizing acc with
  | nil => exact (Option.or_none).symm
  | cons f fs ih =>
    rw [List.foldl_cons, ih, CborMap.get, find_emplaceOpt, lookupField]
    simp only [lit_inj, CborMap.get]
    by_cases h : k = f.1
    · subst h
      rw [if_pos rfl, if_pos rfl, Option.or_assoc]
    · rw [if_neg h, if_neg h]

@[simp] lemma get_ofFields (fs : List Field) : (ofFields fs).get k = lookupField k fs := by
  rw [ofFields, get_foldl_emplaceOpt]
  rfl

@[simp] lemma get_put (m : CborMap) (k k' : String) (v : CborValue) :
    (m.put k v).get k' = if k' = k then some ((m.get k).getD v) else m.get k' := by
  unfold CborMap.get CborMap.put
  rw [find_emplace]
  simp [lit_inj]

@[simp] lemma get_tagged (t k : String) (fs : List Field) :
    (tagged t fs).get k = if k = "t" then some (.text (lit t)) else lookupField k fs := by
  rw [tagged, get_ofFields, lookupField_field]

/-! ## Accessors after constructors -/

namespace CborValue

lemma le_int64Max_iff (u : UInt64) : u.toNat ≤ int64Max ↔ 0 ≤ u.toInt64 := by
  rw [Int64.le_iff_toInt_le]
  show _ ↔ (0 : Int64).toInt ≤ u.toBitVec.toInt
  rw [BitVec.toInt_eq_toNat_cond, UInt64.toNat_toBitVec]
  have h := u.toNat_lt
  simp only [int64Max, Int64.toInt_zero]
  split <;> omega

@[simp] lemma asUInt_ofUInt64 (u : UInt64) : (ofUInt64 u).asUInt = some u := by
  unfold ofUInt64
  split
  · next h => simp [asUInt, (le_int64Max_iff u).mp h]
  · rfl

@[simp] lemma asText_text (s : Bytes) : (text s).asText = some s := rfl
@[simp] lemma asBytes_bytes (b : Bytes) : (bytes b).asBytes = some b := rfl
@[simp] lemma asBool_bool (b : Bool) : (bool b).asBool = some b := rfl
@[simp] lemma asInt_int (i : Int64) : (int i).asInt = some i := rfl
@[simp] lemma asDouble_double (d : BitVec 64) : (double d).asDouble = some d := rfl
@[simp] lemma asArray_array (xs : List CborValue) : (array xs).asArray = some xs := rfl
@[simp] lemma asMap_map (m : CborMap) : (map m).asMap = some m := rfl

attribute [simp] Built.null Built.bool Built.ofUInt64 Built.int Built.double Built.text Built.bytes

end CborValue

/-! ## Built values -/

structure CborMap.Ok (m : CborMap) : Prop where
  sorted : Sorted CanonicalKeyLess m
  built : ∀ p ∈ m, p.2.Built

def FieldsBuilt (fs : List Field) : Prop := ∀ f ∈ fs, ∀ v, f.2 = some v → v.Built

@[simp] lemma fieldsBuilt_nil : FieldsBuilt [] := by
  intro f hf
  cases hf

@[simp] lemma fieldsBuilt_field (v : CborValue) (fs : List Field) :
    FieldsBuilt (field k v :: fs) ↔ v.Built ∧ FieldsBuilt fs := by
  simp [FieldsBuilt, field]

@[simp] lemma fieldsBuilt_optField (o : Option CborValue) (fs : List Field) :
    FieldsBuilt (optField k o :: fs) ↔ (∀ v, o = some v → v.Built) ∧ FieldsBuilt fs := by
  simp [FieldsBuilt, optField]

@[simp high] lemma fieldsBuilt_optField_map {α : Type} {f : α → CborValue} (hf : ∀ a, (f a).Built)
    (k : String) (o : Option α) (fs : List Field) : FieldsBuilt (optField k (o.map f) :: fs) ↔
    FieldsBuilt fs := by
  rw [fieldsBuilt_optField]
  refine and_iff_right ?_
  intro v hv
  obtain ⟨a, -, rfl⟩ := Option.map_eq_some_iff.mp hv
  exact hf a

namespace CborMap

lemma ok_empty : Ok [] := ⟨sorted_nil _, by simp⟩

lemma Ok.emplace {m : CborMap} (hm : Ok m) (k : Bytes) {v : CborValue} (hv : v.Built) :
    Ok (OrdMap.emplace CanonicalKeyLess k v m) where
  sorted := sorted_emplace _ hm.sorted k v
  built p hp := (mem_emplace _ hp).elim (fun e => e ▸ hv) (hm.built p)

variable {fs : List Field}

lemma ok_ofFields (h : FieldsBuilt fs) : Ok (ofFields fs) := by
  have hfo : ∀ (fs : List Field) (acc : CborMap), Ok acc → FieldsBuilt fs →
      Ok (fs.foldl (fun m f => emplaceOpt CanonicalKeyLess (lit f.1) f.2 m) acc) := by
    intro fs
    induction fs with
    | nil => exact fun acc ha _ => ha
    | cons f fs ih =>
      intro acc ha hf
      obtain ⟨k, o⟩ := f
      refine ih _ ?_ fun g hg => hf g (List.mem_cons_of_mem _ hg)
      cases o with
      | none => exact ha
      | some v => exact ha.emplace (lit k) (hf _ List.mem_cons_self v rfl)
  exact hfo fs [] ok_empty h

lemma ok_tagged (t : String) (h : FieldsBuilt fs) : Ok (tagged t fs) :=
  ok_ofFields ((fieldsBuilt_field _ _ _).mpr ⟨.text _, h⟩)

lemma ok_emplaceAll {l acc : CborMap} (ha : Ok acc) (hl : ∀ p ∈ l, p.2.Built) :
    Ok (emplaceAll CanonicalKeyLess l acc) where
  sorted := sorted_emplaceAll _ l ha.sorted
  built p hp := (mem_emplaceAll _ hp).elim (hl p) (ha.built p)

lemma ok_encodeStdMap {α : Type} {f : α → CborValue} {m : StdMap α}
    (hf : ∀ p ∈ m.entries, (f p.2).Built) : Ok (encodeStdMap f m) := by
  refine ok_emplaceAll ok_empty fun p hp => ?_
  obtain ⟨r, hr, rfl⟩ := List.mem_map.mp hp
  exact hf r hr

end CborMap

namespace CborValue

lemma built_map {m : CborMap} (h : m.Ok) : (map m).Built := .map m h.sorted h.built

lemma built_ofFields {fs : List Field} (h : FieldsBuilt fs) : (map (ofFields fs)).Built :=
  built_map (CborMap.ok_ofFields h)

lemma built_array_map {α : Type} {f : α → CborValue} {l : List α} (h : ∀ a ∈ l, (f a).Built) :
    (array (l.map f)).Built :=
  .array _ fun x hx => by
    obtain ⟨a, ha, rfl⟩ := List.mem_map.mp hx
    exact h a ha

end CborValue

@[simp] lemma built_arrOfText (l : List Bytes) : (arrOfText l).Built :=
  CborValue.built_array_map fun s _ => .text s

end LibreAgent.Wire
