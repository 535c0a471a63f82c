import Mathlib.Data.List.Sigma
import Mathlib.Order.RelClasses

/-!
# Ordered maps as sorted association lists

An ordered map is a list of entries whose keys increase strictly under a strict total order `lt`.
The operations are on bare lists, so that an inductive type can nest them; `Sorted` is the
invariant, and `OrdMap` bundles it for the places where no nesting is needed.

* `find` / `emplace` : lookup, and insertion that keeps an entry already there;
* `find_emplace` : lookup after insertion, with no sortedness premise;
* `ext_find` : sorted lists with the same lookups are equal.
-/

set_option linter.unusedSectionVars false

namespace OrdMap

open List

universe u v w

section
variable {κ : Type u} {α : Type v} {β : Type w} [DecidableEq κ]

def find (k : κ) : List (κ × α) → Option α
  | [] => none
  | (k', x) :: l => if k = k' then some x else find k l

@[simp] lemma find_nil (k : κ) : find k ([] : List (κ × α)) = none := rfl

lemma find_cons (k k' : κ) (x : α) (l : List (κ × α)) : find k ((k', x) :: l) = if k =
    k' then some x else find k l := rfl

variable {k : κ} {l : List (κ × α)} {x : α} {p : κ × α}

lemma mem_of_find (h : find k l = some x) : (k, x) ∈ l := by
  induction l with
  | nil => simp at h
  | cons p l ih =>
    obtain ⟨k', y⟩ := p
    rw [find_cons] at h
    by_cases hk : k = k'
    · rw [if_pos hk] at h
      simp_all
    · rw [if_neg hk] at h
      exact mem_cons_of_mem _ (ih h)

lemma find_map_snd (f : α → β) (k : κ) (l : List (κ × α)) : find k (l.map fun p => (p.1, f p.2)) =
    (find k l).map f := by
  induction l with
  | nil => rfl
  | cons p l ih =>
    obtain ⟨k', x⟩ := p
    by_cases h : k = k' <;> simp [find_cons, h, ih]

/-! ## Insertion -/

variable (lt : κ → κ → Prop) [DecidableRel lt]

def insert (k : κ) (x : α) : List (κ × α) → List (κ × α)
  | [] => [(k, x)]
  | (k', y) :: l => if lt k k' then (k, x) :: (k', y) :: l else (k', y) :: insert k x l

/-- `std::map::emplace`: an entry already under the key stays -/
def emplace (k : κ) (x : α) (l : List (κ × α)) : List (κ × α) :=
  if (find k l).isSome then l else insert lt k x l

/-- `if (o) m.emplace(k, *o)` -/
def emplaceOpt (k : κ) (o : Option α) (l : List (κ × α)) : List (κ × α) :=
  match o with
  | some x => emplace lt k x l
  | none => l

def emplaceAll (l acc : List (κ × α)) : List (κ × α) :=
  l.foldl (fun m p => emplace lt p.1 p.2 m) acc

lemma emplaceAll_nil (acc : List (κ × α)) : emplaceAll lt [] acc = acc := rfl

lemma emplaceAll_cons (p : κ × α) (l acc : List (κ × α)) :
    emplaceAll lt (p :: l) acc = emplaceAll lt l (emplace lt p.1 p.2 acc) := rfl

lemma find_insert_ne {k' : κ} (h : k' ≠ k) (x : α) (l : List (κ × α)) : find k' (insert lt k x l) =
    find k' l := by
  induction l with
  | nil => simp [insert, find_cons, h]
  | cons p l ih =>
    obtain ⟨j, y⟩ := p
    by_cases hlt : lt k j
    · simp [insert, hlt, find_cons, h]
    · simp [insert, hlt, find_cons, ih]

lemma find_insert_self (h : find k l = none) (x : α) : find k (insert lt k x l) = some x := by
  induction l with
  | nil => simp [insert, find_cons]
  | cons p l ih =>
    obtain ⟨j, y⟩ := p
    have hj : k ≠ j := fun e => by simp [find_cons, e] at h
    rw [find_cons, if_neg hj] at h
    by_cases hlt : lt k j
    · simp [insert, hlt, find_cons]
    · simp [insert, hlt, find_cons, hj, ih h]

lemma find_emplace (k k' : κ) (x : α) (l : List (κ × α)) :
    find k' (emplace lt k x l) = if k' = k then some ((find k l).getD x) else find k' l := by
  unfold emplace
  cases hf : find k l with
  | none =>
    by_cases hk : k' = k
    · subst hk
      simp [find_insert_self lt hf]
    · simp [hk, find_insert_ne lt hk]
  | some y =>
    by_cases hk : k' = k
    · subst hk
      simp [hf]
    · simp [hk]

lemma find_emplaceOpt (k k' : κ) (o : Option α) (l : List (κ × α)) :
    find k' (emplaceOpt lt k o l) = if k' = k then (find k l).or o else find k' l := by
  cases o with
  | none => by_cases h : k' = k <;> simp [emplaceOpt, h]
  | some x =>
    rw [emplaceOpt, find_emplace]
    cases find k l <;> simp

lemma find_emplaceAll (k : κ) (l acc : List (κ × α)) : find k (emplaceAll lt l acc) =
    (find k acc).or (find k l) := by
  induction l generalizing acc with
  | nil => simp [emplaceAll_nil]
  | cons p l ih =>
    obtain ⟨k', x⟩ := p
    rw [emplaceAll_cons, ih, find_emplace, find_cons]
    by_cases h : k = k'
    · subst h
      cases find k acc <;> simp
    · simp [h]

lemma mem_insert : p ∈ insert lt k x l ↔ p = (k, x) ∨ p ∈ l := by
  induction l with
  | nil => simp [insert]
  | cons q l ih =>
    by_cases h : lt k q.1
    · simp [insert, h]
    · simp only [insert, h, if_false, mem_cons, ih]
      tauto

lemma mem_emplace (h : p ∈ emplace lt k x l) : p = (k, x) ∨ p ∈ l := by
  unfold emplace at h
  split at h
  · exact Or.inr h
  · exact (mem_insert lt).mp h

lemma mem_emplaceAll {acc : List (κ × α)} (h : p ∈ emplaceAll lt l acc) : p ∈ l ∨ p ∈ acc := by
  induction l generalizing acc with
  | nil => exact Or.inr h
  | cons q l ih =>
    rcases ih h with hl | ha
    · exact Or.inl (mem_cons_of_mem _ hl)
    · rcases mem_emplace lt ha with rfl | ha
      · exact Or.inl mem_cons_self
      · exact Or.inr ha

lemma insert_map (f : α → β) (k : κ) (x : α) (l : List (κ × α)) :
    insert lt k (f x) (l.map fun p => (p.1, f p.2))
      = (insert lt k x l).map fun p => (p.1, f p.2) := by
  induction l with
  | nil => rfl
  | cons p l ih => by_cases h : lt k p.1 <;> simp [insert, h, ih]

lemma emplace_map (f : α → β) (k : κ) (x : α) (l : List (κ × α)) :
    emplace lt k (f x) (l.map fun p => (p.1, f p.2))
      = (emplace lt k x l).map fun p => (p.1, f p.2) := by
  unfold emplace
  rw [find_map_snd, Option.isSome_map, insert_map]
  split <;> rfl

lemma emplaceAll_map (f : α → β) (l acc : List (κ × α)) :
    emplaceAll lt (l.map fun p => (p.1, f p.2)) (acc.map fun p => (p.1, f p.2))
      = (emplaceAll lt l acc).map fun p => (p.1, f p.2) := by
  induction l generalizing acc with
  | nil => rfl
  | cons p l ih =>
    rw [map_cons, emplaceAll_cons, emplaceAll_cons, ← ih]
    exact congrArg _ (emplace_map lt f p.1 p.2 acc)

/-! ## Sorted lists -/

def Sorted (l : List (κ × α)) : Prop :=
  l.Pairwise fun a b => lt a.1 b.1

lemma sorted_nil : Sorted lt ([] : List (κ × α)) := List.Pairwise.nil

end

section
variable {κ : Type u} {α : Type v} [DecidableEq κ] (lt : κ → κ → Prop) [DecidableRel lt]
  [IsStrictTotalOrder κ lt]
variable {k : κ} {l : List (κ × α)} {x : α}

lemma sorted_insert (hl : Sorted lt l) (hk : find k l = none) (x : α) :
    Sorted lt (insert lt k x l) := by
  induction l with
  | nil => exact pairwise_singleton _ _
  | cons p l ih =>
    obtain ⟨j, y⟩ := p
    have hj : k ≠ j := fun e => by simp [find_cons, e] at hk
    rw [find_cons, if_neg hj] at hk
    obtain ⟨hhd, htl⟩ := pairwise_cons.mp hl
    by_cases hlt : lt k j
    · rw [insert, if_pos hlt]
      refine pairwise_cons.mpr ⟨fun q hq => ?_, hl⟩
      rcases mem_cons.mp hq with rfl | hq
      · exact hlt
      · exact IsTrans.trans _ _ _ hlt (hhd q hq)
    · rw [insert, if_neg hlt]
      refine pairwise_cons.mpr ⟨fun q hq => ?_, ih htl hk⟩
      rcases (mem_insert lt).mp hq with rfl | hq
      · exact (trichotomous_of lt j k).resolve_right (fun h => h.elim (hj ∘ Eq.symm) hlt)
      · exact hhd q hq

lemma sorted_emplace (hl : Sorted lt l) (k : κ) (x : α) : Sorted lt (emplace lt k x l) := by
  unfold emplace
  cases hf : find k l with
  | none => simpa using sorted_insert lt hl hf x
  | some y => simpa using hl

lemma sorted_emplaceAll (l : List (κ × α)) {acc : List (κ × α)} (h : Sorted lt acc) :
    Sorted lt (emplaceAll lt l acc) := by
  induction l generalizing acc with
  | nil => exact h
  | cons p l ih => exact ih (sorted_emplace lt h p.1 p.2)

lemma find_of_mem (hl : Sorted lt l) (h : (k, x) ∈ l) : find k l = some x := by
  induction l with
  | nil => simp at h
  | cons p l ih =>
    obtain ⟨j, y⟩ := p
    obtain ⟨hhd, htl⟩ := pairwise_cons.mp hl
    rcases mem_cons.mp h with he | hm
    · simp only [Prod.mk.injEq] at he
      simp [find_cons, he]
    · have hne : k ≠ j := by
        rintro rfl
        exact (irrefl_of lt k) (hhd _ hm)
      rw [find_cons, if_neg hne, ih htl hm]

lemma ext_find {l' : List (κ × α)} (hl : Sorted lt l) (hl' : Sorted lt l')
    (h : ∀ k, find k l = find k l') : l = l' := by
  have hme : ∀ p, p ∈ l ↔ p ∈ l' := fun p =>
    ⟨fun hp => mem_of_find ((h p.1).symm.trans (find_of_mem lt hl hp)),
      fun hp => mem_of_find ((h p.1).trans (find_of_mem lt hl' hp))⟩
  have hnd : ∀ {m : List (κ × α)}, Sorted lt m → m.Nodup := fun {m} hm =>
    List.Pairwise.imp (S := fun a b => a ≠ b) (fun {a b} hab e => irrefl_of lt b.1 (e ▸ hab)) hm
  have hpe : l.Perm l' := (perm_ext_iff_of_nodup (hnd hl) (hnd hl')).mpr hme
  exact hpe.eq_of_pairwise (fun a b _ _ hab hba =>
      absurd (IsTrans.trans _ _ _ hab hba) (irrefl_of lt _)) hl hl'

lemma emplaceAll_sorted (hl : Sorted lt l) : emplaceAll lt l [] = l :=
  ext_find lt (sorted_emplaceAll lt l (sorted_nil lt)) hl fun k => by
    simp [find_emplaceAll]

lemma emplaceAll_emplaceAll (lt' : κ → κ → Prop) [DecidableRel lt']
    (hl : Sorted lt l) : emplaceAll lt (emplaceAll lt' l []) [] = l :=
  ext_find lt (sorted_emplaceAll lt _ (sorted_nil lt)) hl fun k => by
    simp [find_emplaceAll]

end

/-! ## The bundled map -/

@[ext] structure SortedMap {κ : Type u} (lt : κ → κ → Prop) (α : Type v) where
  entries : List (κ × α)
  sorted : Sorted lt entries

namespace SortedMap

variable {κ : Type u} {α : Type v} [DecidableEq κ] {lt : κ → κ → Prop} [DecidableRel lt]
  [IsStrictTotalOrder κ lt]

instance : Inhabited (SortedMap lt α) := ⟨⟨[], sorted_nil lt⟩⟩

instance [DecidableEq α] : DecidableEq (SortedMap lt α) := fun a b =>
  decidable_of_iff (a.entries = b.entries) SortedMap.ext_iff.symm

def empty : SortedMap lt α := ⟨[], sorted_nil lt⟩

def ofList (l : List (κ × α)) : SortedMap lt α :=
  ⟨emplaceAll lt l [], sorted_emplaceAll lt l (sorted_nil lt)⟩

lemma ofList_emplaceAll (lt' : κ → κ → Prop) [DecidableRel lt'] (m : SortedMap lt α) :
    ofList (emplaceAll lt' m.entries []) = m :=
  SortedMap.ext (emplaceAll_emplaceAll lt lt' m.sorted)

end SortedMap

end OrdMap
