import Mathlib.Data.List.Basic
import Mathlib.Data.List.Nodup
import Mathlib.Logic.Function.Basic

/-!
# Queues of tickets

Whoever joins a queue draws the next number and stands at its end; one may leave from anywhere in
the queue.

* `Lined line next seat` : the queue `line` in the order of its numbers, with who has drawn which of
  them;
* `Lined.enter`, `Lined.leave` : joining and leaving.
-/

namespace TicketQueue

open List Function

variable {τ : Type*}

/-- `seat t` : the number of `t`, if `t` stands in the queue -/
structure Lined (line : List Nat) (next : Nat) (seat : τ → Option Nat) : Prop where
  sorted : line.Pairwise (· < ·)
  fresh : ∀ i ∈ line, i < next
  seated : ∀ i ∈ line, ∃ t, seat t = some i
  queued : ∀ {t i}, seat t = some i → i ∈ line
  alone : ∀ {t t' i}, seat t = some i → seat t' = some i → t = t'

lemma lined_nil (next : Nat) : Lined [] next (fun _ : τ => none) :=
  ⟨.nil, nofun, nofun, nofun, nofun⟩

namespace Lined
variable {line : List Nat} {next next' i : Nat} {seat : τ → Option Nat} {t : τ}

lemma later (h : Lined line next seat) (hle : next ≤ next') : Lined line next' seat :=
  { h with fresh := fun i hi => Nat.lt_of_lt_of_le (h.fresh i hi) hle }

lemma nodup (h : Lined line next seat) : line.Nodup := h.sorted.imp Nat.ne_of_lt

lemma head_le (h : Lined (i :: line) next seat) {j : Nat} (hj : j ∈ i :: line) : i ≤ j := by
  rcases mem_cons.mp hj with rfl | hj
  · exact Nat.le_refl _
  · exact Nat.le_of_lt (rel_of_pairwise_cons h.sorted hj)

variable [DecidableEq τ]

lemma enter (h : Lined line next seat) (ht : seat t = none) :
    Lined (line ++ [next]) (next + 1) (update seat t (some next)) := by
  -- whoever stands in the queue already has a smaller number
  have hold : ∀ {u j}, update seat t (some next) u = some j → (u = t ∧ j = next) ∨
    (u ≠ t ∧ seat u = some j) := by
    intro u j hu
    rcases eq_or_ne u t with rfl | hne
    · rw [update_self] at hu
      exact .inl ⟨rfl, (Option.some.inj hu).symm⟩
    · rw [update_of_ne hne] at hu
      exact .inr ⟨hne, hu⟩
  refine ⟨?_, ?_, ?_, ?_, ?_⟩
  · refine pairwise_append.mpr ⟨h.sorted, pairwise_singleton _ _, fun j hj k hk => ?_⟩
    rw [mem_singleton.mp hk]
    exact h.fresh j hj
  · intro j hj
    rcases mem_append.mp hj with hj | hj
    · exact Nat.lt_succ_of_lt (h.fresh j hj)
    · rw [mem_singleton.mp hj]
      exact Nat.lt_succ_self next
  · intro j hj
    rcases mem_append.mp hj with hj | hj
    · obtain ⟨u, hu⟩ := h.seated j hj
      have hne : u ≠ t := by
        rintro rfl
        rw [ht] at hu
        cases hu
      exact ⟨u, by rw [update_of_ne hne, hu]⟩
    · rw [mem_singleton.mp hj]
      exact ⟨t, update_self ..⟩
  · intro u j hu
    rcases hold hu with ⟨-, rfl⟩ | ⟨-, hu⟩
    · exact mem_append_right _ mem_cons_self
    · exact mem_append_left _ (h.queued hu)
  · intro u u' j hu hu'
    rcases hold hu with ⟨heq, hj⟩ | ⟨-, hs⟩ <;> rcases hold hu' with ⟨heq', hj'⟩ | ⟨-, hs'⟩
    · rw [heq, heq']
    · rw [hj] at hs'
      exact absurd (h.fresh _ (h.queued hs')) (Nat.lt_irrefl _)
    · rw [hj'] at hs
      exact absurd (h.fresh _ (h.queued hs)) (Nat.lt_irrefl _)
    · exact h.alone hs hs'

lemma leave (h : Lined line next seat) (ht : seat t = some i) :
    Lined (line.erase i) next (update seat t none) := by
  have hold : ∀ {u j}, update seat t none u = some j → u ≠ t ∧ seat u = some j := by
    intro u j hu
    rcases eq_or_ne u t with rfl | hne
    · rw [update_self] at hu
      cases hu
    · rw [update_of_ne hne] at hu
      exact ⟨hne, hu⟩
  refine ⟨h.sorted.sublist erase_sublist, fun j hj => h.fresh j (mem_of_mem_erase hj), ?_, ?_, ?_⟩
  · intro j hj
    obtain ⟨hne, hj⟩ := h.nodup.mem_erase_iff.mp hj
    obtain ⟨u, hu⟩ := h.seated j hj
    have hut : u ≠ t := by
      rintro rfl
      rw [ht] at hu
      exact hne (Option.some.inj hu).symm
    exact ⟨u, by rw [update_of_ne hut, hu]⟩
  · intro u j hu
    obtain ⟨hne, hu⟩ := hold hu
    refine h.nodup.mem_erase_iff.mpr ⟨?_, h.queued hu⟩
    rintro rfl
    exact hne (h.alone hu ht)
  · intro u u' j hu hu'
    exact h.alone (hold hu).2 (hold hu').2

end Lined

end TicketQueue
