import Mathlib.Order.WellFounded
import LibreAgent.Lib.Runs

/-!
# Runs that go on for ever

A schedule has an action for every moment.  Something comes about if there is a rank that goes down:
whoever has to act next is scheduled some time, the rank goes down when it acts, and nothing that
happens before makes it go up.
-/

namespace Runs

variable {σ α : Type*} (step : σ → α → σ)

/-- the state before the action number `n` -/
def stateAt (s : σ) (schedule : Nat → α) : Nat → σ
  | 0 => s
  | n + 1 => step (stateAt s schedule n) (schedule n)

variable {step}
variable {schedule : Nat → α}

lemma stateAt_invariant {inv : σ → Prop} {cond : σ → α → Prop}
    (h : ∀ s a, cond s a → inv s → inv (step s a))
    {s : σ} (hs : inv s) (hc : ∀ n, cond (stateAt step s schedule n) (schedule n)) (n : Nat) :
    inv (stateAt step s schedule n) := by
  induction n with
  | zero => exact hs
  | succ n ih => exact h _ _ (hc n) ih

/-- `Awaits n k a`: at the moment `n` the goal is at the rank `k`, and waits for the action `a` -/
lemma eventually_of_rank {ρ : Type*} {lt : ρ → ρ → Prop} (hwf : WellFounded lt)
    {goal : Nat → Prop} {Awaits : Nat → ρ → α → Prop} (hs : ∀ n k a, Awaits n k a →
      goal (n + 1) ∨ (∃ k' a', lt k' k ∧ Awaits (n + 1) k' a') ∨ schedule n ≠ a ∧
        Awaits (n + 1) k a)
    (hf : ∀ n k a, Awaits n k a → ∃ m, n ≤ m ∧ schedule m = a)
    {n : Nat} {k : ρ} {a : α} (h : Awaits n k a) : ∃ m, n ≤ m ∧ goal m := by
  induction k using hwf.induction generalizing n a with
  | _ k ih =>
    have hn :
        ∀ n, goal (n + 1) ∨ (∃ k' a', lt k' k ∧ Awaits (n + 1) k' a') → ∃ m, n ≤ m ∧ goal m := by
      rintro n (hg | ⟨k', a', hlt, hl⟩)
      · exact ⟨n + 1, Nat.le_succ n, hg⟩
      · obtain ⟨m, hle, hg⟩ := ih k' hlt hl
        exact ⟨m, Nat.le_of_succ_le hle, hg⟩
    obtain ⟨m, hnm, hm⟩ := hf n k a h
    obtain ⟨d, rfl⟩ := Nat.exists_eq_add_of_le hnm
    clear hnm
    -- down to the moment at which the action is scheduled
    induction d generalizing n with
    | zero =>
      rcases hs n k a h with hg | hl | ⟨hne, -⟩
      · exact hn n (.inl hg)
      · exact hn n (.inr hl)
      · exact absurd hm hne
    | succ d ihd =>
      rcases hs n k a h with hg | hl | ⟨-, hsa⟩
      · exact hn n (.inl hg)
      · exact hn n (.inr hl)
      · rw [Nat.add_comm d 1, ← Nat.add_assoc] at hm
        obtain ⟨m, hle, hg⟩ := ihd hsa hm
        exact ⟨m, Nat.le_of_succ_le hle, hg⟩

end Runs
