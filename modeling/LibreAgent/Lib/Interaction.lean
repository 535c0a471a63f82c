import Mathlib.Order.Basic

/-!
# Programs that talk to their environment

A program makes calls and goes on with the answers; nothing is said about who answers, so that other
parties may act between any two calls.

* `Interaction` : programs over calls `ι` with answers `Ans`, a monad;
* `Respects ok next post` : a monitor that starts in a given state lets every call of the program
  pass, whatever the answers, and ends in a state in which the result is right;
* `respects_pure`, `respects_call`, `respects_bind` : the rules.
-/

universe u v

inductive Interaction (ι : Type u) (Ans : ι → Type v) (α : Type v) where
  | done (result : α)
  | ask (c : ι) (goOn : Ans c → Interaction ι Ans α)

namespace Interaction

variable {ι : Type u} {Ans : ι → Type v} {α β : Type v}

def bind : Interaction ι Ans α → (α → Interaction ι Ans β) → Interaction ι Ans β
  | done result, f => f result
  | ask c goOn, f => ask c fun answer => (goOn answer).bind f

instance : Monad (Interaction ι Ans) where
  pure := done
  bind := bind

def call (c : ι) : Interaction ι Ans (Ans c) :=
  ask c done

section Monitors
variable {σ : Type*} (ok : σ → ι → Prop) (next : σ → (c : ι) → Ans c → σ)

/-- a monitor with state `σ` allows a call if `ok`, and moves on with the answer -/
def Respects (post : σ → α → Prop) (s : σ) : Interaction ι Ans α → Prop
  | done result => post s result
  | ask c goOn => ok s c ∧ ∀ answer, Respects post (next s c answer) (goOn answer)

variable {ok next} {post : σ → β → Prop} {mid : σ → α → Prop} {s : σ}

lemma respects_pure {result : β} (h : post s result) :
    Respects ok next post s (pure result : Interaction ι Ans β) := h

lemma respects_call {c : ι} {post : σ → Ans c → Prop} (hok : ok s c)
    (h : ∀ answer, post (next s c answer) answer) : Respects ok next post s (call c) :=
  ⟨hok, h⟩

lemma respects_call_bind {c : ι} {f : Ans c → Interaction ι Ans β} (hok : ok s c)
    (h : ∀ answer, Respects ok next post (next s c answer) (f answer)) :
    Respects ok next post s (call c >>= f) :=
  ⟨hok, h⟩

lemma respects_bind {p : Interaction ι Ans α} {f : α → Interaction ι Ans β}
    (hp : Respects ok next mid s p)
    (hf : ∀ s' result, mid s' result → Respects ok next post s' (f result)) :
    Respects ok next post s (p >>= f) := by
  induction p generalizing s with
  | done result => exact hf s result hp
  | ask c goOn ih => exact ⟨hp.1, fun answer => ih answer (hp.2 answer)⟩

end Monitors

end Interaction
