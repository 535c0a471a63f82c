import Mathlib.Data.List.Basic
import Mathlib.Logic.Relation

/-!
# Runs and what has happened in them

A system takes one step for each action.  What has happened is a list of events, the newest first.

* `run` : the state after some actions; `Along` : a condition on every step of a run;
* `run_invariant` : what every step keeps, every run keeps;
* `Since reset e past` : the event `e` is in the past, and nothing after it was a `reset`.
-/

lemma Relation.ReflTransGen.keeps {σ : Type*} {r : σ → σ → Prop} {P : σ → Prop} {s s' : σ}
    (h : ReflTransGen r s s') (hr : ∀ {s s'}, r s s' → P s → P s') (hs : P s) : P s' := by
  induction h with
  | refl => exact hs
  | tail _ hst ih => exact hr hst ih

namespace Runs

open List

/-- makes numerals of two threads; an instance only where a run on fixed inputs is written down -/
lemma neZero_two : @NeZero Nat Zero.ofOfNat0 2 :=
  ⟨Nat.succ_ne_zero 1⟩

section Steps
variable {σ α : Type*} (step : σ → α → σ)

def run (s : σ) (actions : List α) : σ :=
  actions.foldl step s

/-- the condition holds of every action of a run and the state it is made in -/
def Along (cond : σ → α → Prop) (s : σ) : List α → Prop
  | [] => True
  | a :: actions => cond s a ∧ Along cond (step s a) actions

instance decidableAlong (cond : σ → α → Prop) [∀ s a, Decidable (cond s a)] :
    ∀ (actions : List α) (s : σ), Decidable (Along step cond s actions)
  | [], _ => .isTrue trivial
  | a :: actions, s =>
    have := decidableAlong cond actions (step s a)
    inferInstanceAs (Decidable (_ ∧ _))

lemma along_append (cond : σ → α → Prop) (s : σ) (actions more : List α) :
    Along step cond s (actions ++ more)
      ↔ Along step cond s actions ∧ Along step cond (run step s actions) more := by
  induction actions generalizing s with
  | nil => exact (and_iff_right trivial).symm
  | cons a actions ih =>
    show cond s a ∧ Along step cond (step s a) (actions ++ more) ↔ (cond s a ∧ _) ∧ _
    rw [ih, and_assoc]
    rfl

variable {actions : List α} {s : σ}

lemma along_of_forall {cond : σ → α → Prop} (s : σ) (h : ∀ a ∈ actions, ∀ s, cond s a) :
    Along step cond s actions := by
  induction actions generalizing s with
  | nil => trivial
  | cons a actions ih =>
    exact ⟨h a mem_cons_self s, ih _ fun b hb => h b (mem_cons_of_mem _ hb)⟩

variable {step} {inv : σ → Prop} {cond cond' : σ → α → Prop}

lemma along_and :
    Along step (fun s a => cond s a ∧ cond' s a) s actions ↔ Along step cond s actions ∧
      Along step cond' s actions := by
  induction actions generalizing s with
  | nil => exact (and_self_iff).symm
  | cons a actions ih =>
    show (cond s a ∧ cond' s a) ∧ Along step (fun s a => cond s a ∧ cond' s a) (step s a) actions ↔
      (cond s a ∧ _) ∧ cond' s a ∧ _
    rw [ih, and_and_and_comm]

lemma run_invariant_along (h : ∀ s a, cond s a → inv s → inv (step s a)) (hs : inv s)
    (ha : Along step cond s actions) : inv (run step s actions) := by
  induction actions generalizing s with
  | nil => exact hs
  | cons a actions ih => exact ih (h s a ha.1 hs) ha.2

lemma run_invariant (h : ∀ s a, inv s → inv (step s a)) (hs : inv s) (actions : List α) :
    inv (run step s actions) := by
  induction actions generalizing s with
  | nil => exact hs
  | cons a actions ih => exact ih (h s a hs)

end Steps

section Events
variable {ε : Type*} {reset : ε → Prop} {e e' : ε} {past : List ε}

def Since (reset : ε → Prop) (e : ε) (past : List ε) : Prop :=
  ∃ newer older, past = newer ++ e :: older ∧ ∀ x ∈ newer, ¬ reset x

lemma Since.mem (h : Since reset e past) : e ∈ past := by
  obtain ⟨newer, older, rfl, -⟩ := h
  exact mem_append_right _ mem_cons_self

lemma since_now (reset : ε → Prop) (e : ε) (past : List ε) : Since reset e (e :: past) :=
  ⟨[], past, rfl, nofun⟩

lemma Since.cons (h : Since reset e past) (he' : ¬ reset e') : Since reset e (e' :: past) := by
  obtain ⟨newer, older, rfl, hn⟩ := h
  refine ⟨e' :: newer, older, rfl, fun x hx => ?_⟩
  rcases mem_cons.mp hx with rfl | hx
  · exact he'
  · exact hn x hx

variable {new : List ε} {P : List ε → ε → Prop}

lemma Since.append (h : Since reset e past) (hne : ∀ x ∈ new, ¬ reset x) :
    Since reset e (new ++ past) := by
  obtain ⟨newer, older, rfl, hn⟩ := h
  refine ⟨new ++ newer, older, (append_assoc _ _ _).symm, fun x hx => ?_⟩
  rcases mem_append.mp hx with hx | hx
  · exact hne x hx
  · exact hn x hx

lemma since_of_mem (h : e ∈ new) (hn : ∀ x ∈ new, ¬ reset x) : Since reset e (new ++ past) := by
  obtain ⟨newer, older, rfl⟩ := append_of_mem h
  refine ⟨newer, older ++ past, by rw [append_assoc, cons_append], fun x hx => ?_⟩
  exact hn x (mem_append_left _ hx)

lemma since_cons_iff : Since reset e (e' :: past) ↔ e' = e ∨ (¬ reset e' ∧ Since reset e past) := by
  constructor
  · rintro ⟨newer, older, hp, hn⟩
    cases newer with
    | nil =>
      cases hp
      exact .inl rfl
    | cons x newer =>
      cases hp
      refine .inr ⟨hn _ mem_cons_self, newer, older, rfl, fun y hy => ?_⟩
      exact hn y (mem_cons_of_mem _ hy)
  · rintro (rfl | ⟨he', h⟩)
    · exact since_now _ _ _
    · exact h.cons he'

/-- the event `e` has happened, and after it `e'` -/
def Then (e e' : ε) (past : List ε) : Prop :=
  ∃ newer older, past = newer ++ e' :: older ∧ e ∈ older

lemma Then.mem (h : Then e e' past) : e ∈ past := by
  obtain ⟨newer, older, rfl, he⟩ := h
  exact mem_append_right _ (mem_cons_of_mem _ he)

lemma then_cons_iff {x : ε} : Then e e' (x :: past) ↔ (x = e' ∧ e ∈ past) ∨ Then e e' past := by
  constructor
  · rintro ⟨newer, older, hs, he⟩
    cases newer with
    | nil =>
      cases hs
      exact .inl ⟨rfl, he⟩
    | cons y newer =>
      cases hs
      exact .inr ⟨newer, older, rfl, he⟩
  · rintro (⟨rfl, he⟩ | ⟨newer, older, rfl, he⟩)
    · exact ⟨[], past, rfl, he⟩
    · exact ⟨x :: newer, older, rfl, he⟩

instance decidableThen [DecidableEq ε] (e e' : ε) : ∀ past, Decidable (Then e e' past)
  | [] => .isFalse fun h => List.not_mem_nil h.mem
  | _ :: past =>
    have := decidableThen e e' past
    decidable_of_iff _ then_cons_iff.symm

lemma Then.append (h : Then e e' past) (new : List ε) : Then e e' (new ++ past) := by
  obtain ⟨newer, older, rfl, he⟩ := h
  exact ⟨new ++ newer, older, (append_assoc _ _ _).symm, he⟩

lemma then_of_mem (he : e ∈ past) (he' : e' ∈ new) : Then e e' (new ++ past) := by
  obtain ⟨newer, older, rfl⟩ := append_of_mem he'
  exact ⟨newer, older ++ past, by rw [append_assoc, cons_append], mem_append_right _ he⟩

lemma Then.of_append (h : Then e e' (new ++ past)) (hn : e' ∉ new) : Then e e' past := by
  induction new with
  | nil => exact h
  | cons x new ih =>
    rcases then_cons_iff.mp h with ⟨rfl, -⟩ | hr
    · exact absurd mem_cons_self hn
    · exact ih hr fun hin => hn (mem_cons_of_mem _ hin)

def Throughout (P : List ε → ε → Prop) : List ε → Prop
  | [] => True
  | e :: past => P past e ∧ Throughout P past

lemma Throughout.append (h : Throughout P past) (hn : ∀ x ∈ new, ∀ past, P past x) :
    Throughout P (new ++ past) := by
  induction new with
  | nil => exact h
  | cons x new ih =>
    refine ⟨hn x mem_cons_self _, ih fun y hy => hn y (mem_cons_of_mem _ hy)⟩

lemma Throughout.at {newer older : List ε} (h : Throughout P (newer ++ e :: older)) :
    P older e := by
  induction newer with
  | nil => exact h.1
  | cons x newer ih => exact ih h.2

end Events

end Runs
