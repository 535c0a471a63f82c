import Mathlib.Data.List.Nodup
import Mathlib.Data.List.Perm.Basic

/-!
# Lists with distinct keys

When every key occurs once, what works on the first element with a key works on all of them.

* `find_eq_some_iff` : the element with a key;
* `eraseP_eq_filter`, `replaceF_eq_map` : erasing or replacing it;
* `perm_eraseP` : the keys that are left.
-/

namespace Keyed

open List

variable {α κ : Type*} [DecidableEq κ] {key : α → κ} {l : List α} {k : κ}

lemma find_eq_some_iff (h : (l.map key).Nodup) {a : α} : (l.find? fun x => key x = k) = some a ↔
    a ∈ l ∧ key a = k := by
  constructor
  · intro hf
    have hk := List.find?_some hf
    exact ⟨mem_of_find?_eq_some hf, of_decide_eq_true hk⟩
  · rintro ⟨hm, rfl⟩
    cases hf : l.find? fun x => key x = key a with
    | none => exact absurd (decide_eq_true rfl) (List.find?_eq_none.mp hf a hm)
    | some b =>
      have hk := List.find?_some hf
      rw [inj_on_of_nodup_map h (mem_of_find?_eq_some hf) hm (of_decide_eq_true hk)]

lemma find_eq_none_iff : (l.find? fun x => key x = k) = none ↔ k ∉ l.map key := by
  rw [List.find?_eq_none, mem_map]
  constructor
  · rintro h ⟨a, ha, hk⟩
    exact h a ha (decide_eq_true hk)
  · intro h a ha hk
    exact h ⟨a, ha, of_decide_eq_true hk⟩

lemma any_iff : (l.any fun x => key x = k) = true ↔ k ∈ l.map key := by
  rw [any_eq_true, mem_map]
  exact exists_congr fun a => and_congr_right' decide_eq_true_iff

lemma filter_ne_of_not_mem (h : k ∉ l.map key) : (l.filter fun x => key x ≠ k) = l := by
  rw [filter_eq_self]
  intro a ha
  exact decide_eq_true fun e => h (e ▸ mem_map_of_mem ha)

lemma eraseP_eq_filter (h : (l.map key).Nodup) : (l.eraseP fun x => key x = k) = l.filter fun x =>
    key x ≠ k := by
  induction l with
  | nil => rfl
  | cons a l ih =>
    obtain ⟨hno, hn⟩ := nodup_cons.mp h
    by_cases hk : key a = k
    · have hr := filter_ne_of_not_mem hno
      rw [hk] at hr
      simpa [hk] using hr.symm
    · simp [hk, ih hn]

lemma map_if_of_not_mem (h : k ∉ l.map key) (f : α → α) :
    (l.map fun x => if key x = k then f x else x) = l := by
  conv_rhs => rw [← map_id l]
  refine map_congr_left fun a ha => ?_
  have hne : key a ≠ k := fun e => h (e ▸ mem_map_of_mem ha)
  exact if_neg hne

lemma replaceF_eq_map (h : (l.map key).Nodup) (f : α → α) :
    (l.replaceF fun x => if key x = k then some (f x) else none)
      = l.map fun x => if key x = k then f x else x := by
  induction l with
  | nil => rfl
  | cons a l ih =>
    obtain ⟨hno, hn⟩ := nodup_cons.mp h
    by_cases hk : key a = k
    · have hr := map_if_of_not_mem hno f
      rw [hk] at hr
      simp [hk, hr]
    · simp [hk, ih hn]

lemma map_map_if {β : Type*} {f : α → α} {g : α → β} (hf : ∀ a, g (f a) = g a)
    (l : List α) (k : κ) :
    (l.map fun x => if key x = k then f x else x).map g = l.map g := by
  rw [map_map]
  refine map_congr_left fun a _ => ?_
  show g (if key a = k then f a else a) = g a
  split
  · exact hf a
  · rfl

lemma perm_eraseP (h : k ∈ l.map key) : (l.map key).Perm
    (k :: (l.eraseP fun x => key x = k).map key) := by
  induction l with
  | nil => cases h
  | cons a l ih =>
    by_cases hk : key a = k
    · simp [hk]
    · have he : ((a :: l).eraseP fun x => key x = k) = a :: l.eraseP fun x => key x = k := by
        simp [hk]
      rw [he, map_cons, map_cons]
      have hm := (mem_cons.mp h).resolve_left fun e => hk e.symm
      exact ((ih hm).cons _).trans (List.Perm.swap _ _ _)

end Keyed
