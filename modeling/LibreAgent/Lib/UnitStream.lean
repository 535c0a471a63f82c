import Mathlib.Data.List.Basic

/-!
# A stream of encoded units, read in pieces

A sequence of units is written one after the other, each as the list `enc x`.  A reader that has
seen the first `n` elements holds some whole units and the beginning of the next.

* `whole` : the units that end within the first `n` elements;
* `cut` : the elements of the unit that is still unfinished;
* `later` : the units that are not whole yet;
* `whole_add`, `cut_add` : reading on from there is reading the longer beginning at once.
-/

namespace UnitStream

open List

variable {α β : Type*} (enc : α → List β)

def flat (xs : List α) : List β :=
  xs.flatMap enc

def whole : List α → Nat → List α
  | [], _ => []
  | x :: xs, n => if (enc x).length ≤ n then x :: whole xs (n - (enc x).length) else []

def later : List α → Nat → List α
  | [], _ => []
  | x :: xs, n => if (enc x).length ≤ n then later xs (n - (enc x).length) else x :: xs

def cut : List α → Nat → List β
  | [], _ => []
  | x :: xs, n => if (enc x).length ≤ n then cut xs (n - (enc x).length) else (enc x).take n

@[simp] lemma flat_nil : flat enc [] = [] := rfl

@[simp] lemma flat_cons (x : α) (xs : List α) : flat enc (x :: xs) = enc x ++ flat enc xs := rfl

lemma cut_eq_take (xs : List α) (n : Nat) : cut enc xs n = (flat enc (later enc xs n)).take
    (cut enc xs n).length := by
  induction xs generalizing n with
  | nil => rfl
  | cons x xs ih =>
    rw [cut, later]
    by_cases h : (enc x).length ≤ n
    · rw [if_pos h, if_pos h]
      exact ih _
    · rw [if_neg h, if_neg h, flat_cons, length_take, Nat.min_eq_left (by omega),
        take_append_of_le_length (by omega)]

variable {xs : List α} {n : Nat}

lemma drop_flat (h : n ≤ (flat enc xs).length) :
    (flat enc xs).drop n = (flat enc (later enc xs n)).drop (cut enc xs n).length := by
  induction xs generalizing n with
  | nil => rw [Nat.le_zero.mp h]; rfl
  | cons x xs ih =>
    rw [cut, later]
    rw [flat_cons, length_append] at h
    by_cases hx : (enc x).length ≤ n
    · rw [if_pos hx, if_pos hx, ← ih (by omega), flat_cons, drop_append,
        drop_eq_nil_of_le hx, nil_append]
    · rw [if_neg hx, if_neg hx, length_take, Nat.min_eq_left (by omega)]

/-- **What is held, followed by what comes next, is a beginning of the units to come.** -/
lemma cut_append {seen next rest : List β} (h : flat enc xs = seen ++ (next ++ rest)) :
    cut enc xs seen.length ++ next
      = (flat enc (later enc xs seen.length)).take
          ((cut enc xs seen.length).length + next.length) := by
  have hle : seen.length ≤ (flat enc xs).length := by
    rw [h, length_append]
    omega
  have hd := drop_flat enc hle
  rw [h, drop_left] at hd
  rw [take_add, ← hd, take_left, ← cut_eq_take]

lemma whole_add (xs : List α) (n k : Nat) : whole enc xs (n + k)
      = whole enc xs n ++ whole enc (later enc xs n) ((cut enc xs n).length + k) := by
  induction xs generalizing n with
  | nil => rfl
  | cons x xs ih =>
    rw [later, cut]
    by_cases h : (enc x).length ≤ n
    · have hnk : (enc x).length ≤ n + k := by omega
      rw [if_pos h, if_pos h, whole, whole, if_pos h, if_pos hnk, cons_append, ← ih,
        Nat.sub_add_comm h]
    · have hw : whole enc (x :: xs) n = [] := by rw [whole, if_neg h]
      rw [if_neg h, if_neg h, hw, nil_append, length_take, Nat.min_eq_left (by omega)]

lemma cut_add (xs : List α) (n k : Nat) : cut enc xs (n + k) = cut enc (later enc xs n)
    ((cut enc xs n).length + k) := by
  induction xs generalizing n with
  | nil => rfl
  | cons x xs ih =>
    rw [later]
    by_cases h : (enc x).length ≤ n
    · have hnk : (enc x).length ≤ n + k := by omega
      have hc : cut enc (x :: xs) n = cut enc xs (n - (enc x).length) := by rw [cut, if_pos h]
      rw [if_pos h, hc, ← ih, cut, if_pos hnk, Nat.sub_add_comm h]
    · have hc : (cut enc (x :: xs) n).length = n := by
        rw [cut, if_neg h, length_take, Nat.min_eq_left (by omega)]
      rw [if_neg h, hc]

lemma whole_flat (xs : List α) : whole enc xs (flat enc xs).length = xs := by
  induction xs with
  | nil => rfl
  | cons x xs ih =>
    rw [flat_cons, length_append, whole, if_pos (Nat.le_add_right _ _), Nat.add_sub_cancel_left, ih]

lemma mem_of_mem_later {x : α} (h : x ∈ later enc xs n) : x ∈ xs := by
  induction xs generalizing n with
  | nil => exact h
  | cons y ys ih =>
    rw [later] at h
    split at h
    · exact mem_cons_of_mem _ (ih h)
    · exact h

lemma cut_zero (h : ∀ x, enc x ≠ []) (xs : List α) : cut enc xs 0 = [] := by
  cases xs with
  | nil => rfl
  | cons x xs =>
    have hx : ¬ (enc x).length ≤ 0 := by
      rw [Nat.le_zero, length_eq_zero_iff]
      exact h x
    rw [cut, if_neg hx, take_zero]

end UnitStream
