import Mathlib.Data.List.Basic

/-!
# Replaying events over a copy

A copy of a state that is taken in the middle of the events and then gets all of them again, the old
ones included, ends up as the state does, if an event that comes again loses nothing.

* `Absorbs` : the law, for an event that comes again at once or after another one;
* `Absorbs.replay` : events that come again are the same as if they came once.
-/

namespace Replay

open List

variable {σ ε : Type*} {write : σ → ε → σ}

structure Absorbs (write : σ → ε → σ) : Prop where
  again : ∀ s e, write (write s e) e = write s e
  after : ∀ s e e', write (write (write s e) e') e = write (write s e') e

lemma Absorbs.later (h : Absorbs write) (e : ε) (events : List ε) (s : σ) :
    write (events.foldl write (write s e)) e = write (events.foldl write s) e := by
  induction events generalizing s with
  | nil => exact h.again s e
  | cons e' events ih =>
    calc write (events.foldl write (write (write s e) e')) e
        = write (events.foldl write (write (write (write s e) e') e)) e := (ih _).symm
      _ = write (events.foldl write (write (write s e') e)) e := by rw [h.after]
      _ = write (events.foldl write (write s e')) e := ih _

lemma Absorbs.mem (h : Absorbs write) {e : ε} {events : List ε} (he : e ∈ events) (s : σ) :
    events.foldl write (write s e) = events.foldl write s := by
  obtain ⟨before, behind, rfl⟩ := append_of_mem he
  rw [foldl_append, foldl_append, foldl_cons, foldl_cons, h.later]

lemma Absorbs.replay (h : Absorbs write) {seen events : List ε} (hs : seen ⊆ events) (s : σ) :
    events.foldl write (seen.foldl write s) = events.foldl write s := by
  induction seen generalizing s with
  | nil => rfl
  | cons e seen ih =>
    obtain ⟨he, hs⟩ := cons_subset.mp hs
    rw [foldl_cons, ih hs, h.mem he]

end Replay
