import LibreAgent.Lib.EraseIf
import Mathlib.Data.List.TakeWhile
import Mathlib.Logic.Function.Iterate

/-!
# The rate limiter

Each caller has a sliding window of counted attempts and a backoff; a table keeps them for all
callers, and is swept of idle ones when it has grown large.

What the sweep drops can be told apart from what a newcomer starts with only by its fields, not by
any later answer: a caller with no attempt in its window and no backoff left is judged like a
newcomer (`attempt_idle`).  So the table always agrees with the caller's own history, up to such
states (`Alike`), and no caller's answers depend on the others (`answers_isolated`).  Each has its
limit (`granted_per_window`).
-/

namespace LibreAgent.Operations.RateLimiter

open List

def seconds (n : Int) : Int := n * 1000000000

def kMaxPerWindow : Nat := 5

def kWindow : Int := seconds 60

def kBaseBackoff : Int := seconds 2

def kMaxBackoff : Int := seconds 60

def kSweepThreshold : Nat := 1024

structure CallerState where
  /-- attempts within the window, the oldest first -/
  recent : List Int := []
  backoffLevel : Nat := 0
  /-- the epoch is no active backoff -/
  backoffUntil : Int := 0
  deriving DecidableEq

def backoffFor (level : Nat) : Int :=
  Nat.iterate (fun backoff => min (backoff * 2) kMaxBackoff) (level - 1) kBaseBackoff

def attempt (now : Int) (s : CallerState) : Bool × CallerState :=
  if now < s.backoffUntil then (false, s)
  else
    let recent := s.recent.dropWhile fun t => kWindow < now - t
    if kMaxPerWindow ≤ recent.length then
      let level := min (s.backoffLevel + 1) 5
      (false, ⟨recent, level, now + backoffFor level⟩)
    else (true, ⟨recent ++ [now], 0, 0⟩)

def idle (now : Int) (s : CallerState) : Bool :=
  (s.recent.getLast?.all fun t => kWindow < now - t) && s.backoffUntil ≤ now

section Table
variable {Caller : Type} [DecidableEq Caller]

abbrev Callers (Caller : Type) [DecidableEq Caller] := AList fun _ : Caller => CallerState

def sweep (callerKey : Caller) (now : Int) (callers : Callers Caller) : Callers Caller :=
  if kSweepThreshold < callers.entries.length then
    callers.eraseWhere fun key s => key ≠ callerKey && idle now s
  else callers

def allow (callerKey : Caller) (now : Int) (callers : Callers Caller) : Bool × Callers Caller :=
  let swept := sweep callerKey now callers
  let judged := attempt now ((swept.lookup callerKey).getD {})
  (judged.1, swept.insert callerKey judged.2)

def answers (callers : Callers Caller) : List (Caller × Int) → List (Caller × Bool)
  | [] => []
  | (key, now) :: calls =>
    (key, (allow key now callers).1) :: answers (allow key now callers).2 calls

def callsOf (key : Caller) (calls : List (Caller × Int)) : List (Caller × Int) :=
  calls.filter fun call => call.1 = key

def answersTo (key : Caller) (given : List (Caller × Bool)) : List Bool :=
  (given.filter fun answer => answer.1 = key).map Prod.snd

variable {key key' : Caller}

@[simp] lemma callsOf_cons_self (now : Int) (calls : List (Caller × Int)) :
    callsOf key ((key, now) :: calls) = (key, now) :: callsOf key calls :=
  filter_cons_of_pos (by simp)

lemma callsOf_cons_ne (h : key' ≠ key) (now : Int) (calls : List (Caller × Int)) :
    callsOf key ((key', now) :: calls) = callsOf key calls :=
  filter_cons_of_neg (by simpa using h)

@[simp] lemma answersTo_cons_self (b : Bool) (given : List (Caller × Bool)) :
    answersTo key ((key, b) :: given) = b :: answersTo key given := by
  simp [answersTo]

lemma answersTo_cons_ne (h : key' ≠ key) (b : Bool) (given : List (Caller × Bool)) :
    answersTo key ((key', b) :: given) = answersTo key given := by
  simp [answersTo, h]

end Table

/-! ## One caller -/

def alone (s : CallerState) : List Int → List Bool
  | [] => []
  | now :: times => (attempt now s).1 :: alone (attempt now s).2 times

/-- the attempts are in order and in the past; nothing is recorded before the epoch, where the
backoff of a newcomer has not ended -/
structure Kept (now : Int) (s : CallerState) : Prop where
  ordered : s.recent.Pairwise (· ≤ ·)
  past : ∀ t ∈ s.recent, t ≤ now
  epoch : s = {} ∨ 0 ≤ now

variable {s : CallerState}

lemma Kept.later {now later : Int} (h : Kept now s) (hle : now ≤ later) : Kept later s where
  ordered := h.ordered
  past t ht := Int.le_trans (h.past t ht) hle
  epoch := h.epoch.imp_right fun h0 => Int.le_trans h0 hle

variable {now : Int}

lemma idle_iff (h : s.recent.Pairwise (· ≤ ·)) :
    idle now s = true ↔ (∀ t ∈ s.recent, kWindow < now - t) ∧ s.backoffUntil ≤ now := by
  rw [idle, Bool.and_eq_true, decide_eq_true_eq]
  refine and_congr_left fun _ => ?_
  cases hl : s.recent.getLast? with
  | none =>
    rw [List.getLast?_eq_none_iff.mp hl]
    simp
  | some last =>
    rw [Option.all_some, decide_eq_true_eq]
    constructor
    · intro hold t ht
      -- the newest attempt is the last one, and it is too old
      obtain ⟨before, hr⟩ := List.getLast?_eq_some_iff.mp hl
      have hle : t ≤ last := by
        rw [hr] at h ht
        rcases mem_append.mp ht with ht | ht
        · exact (pairwise_append.mp h).2.2 t ht last mem_cons_self
        · exact Int.le_of_eq (mem_singleton.mp ht)
      omega
    · exact fun ha => ha last (mem_of_getLast? hl)

lemma idle_later {now later : Int} (h : s.recent.Pairwise (· ≤ ·))
    (hle : now ≤ later) (hi : idle now s = true) : idle later s = true := by
  rw [idle_iff h] at hi ⊢
  obtain ⟨hw, hb⟩ := hi
  refine ⟨fun t ht => ?_, Int.le_trans hb hle⟩
  have := hw t ht
  omega

lemma attempt_idle (h : Kept now s) (hi : idle now s = true) : attempt now s = attempt now {} := by
  rcases h.epoch with rfl | he
  · rfl
  obtain ⟨hw, hb⟩ := (idle_iff h.ordered).mp hi
  have hd : s.recent.dropWhile (fun t => kWindow < now - t) = [] :=
    List.dropWhile_eq_nil_iff.mpr fun t ht => decide_eq_true (hw t ht)
  rw [attempt, attempt, if_neg (Int.not_lt.mpr hb), if_neg (Int.not_lt.mpr he), hd]
  rfl

lemma kept_attempt (h : Kept now s) : Kept now (attempt now s).2 := by
  rw [attempt]
  split
  · exact h
  rename_i hb
  have he : 0 ≤ now := by
    rcases h.epoch with rfl | h0
    · exact Int.not_lt.mp hb
    · exact h0
  have hs : (s.recent.dropWhile fun t => kWindow < now - t).Sublist s.recent :=
    (List.dropWhile_suffix _).sublist
  have ho := h.ordered.sublist hs
  have hp := fun t ht => h.past t (hs.subset ht)
  dsimp only
  split
  · exact ⟨ho, hp, Or.inr he⟩
  · refine ⟨pairwise_append.mpr ⟨ho, pairwise_singleton _ _, ?_⟩, ?_, Or.inr he⟩
    · intro t ht u hu
      rw [mem_singleton.mp hu]
      exact hp t ht
    · intro t ht
      rcases mem_append.mp ht with ht | ht
      · exact hp t ht
      · exact Int.le_of_eq (mem_singleton.mp ht)

/-! ## All callers -/

section Isolation
variable {Caller : Type} [DecidableEq Caller] {key : Caller} {now : Int}
  {callers : Callers Caller} {s : CallerState}

def Alike (key : Caller) (now : Int) (callers : Callers Caller) (s : CallerState) : Prop :=
  Kept now s ∧ (callers.lookup key = some s ∨
    callers.lookup key = none ∧ (s = {} ∨ idle now s = true))

lemma Alike.later {later : Int} (h : Alike key now callers s) (hle : now ≤ later) :
    Alike key later callers s := by
  obtain ⟨hk, ht⟩ := h
  refine ⟨hk.later hle, ht.imp_right fun ⟨hn, hi⟩ => ⟨hn, ?_⟩⟩
  exact hi.imp_right (idle_later hk.ordered hle)

lemma lookup_sweep (callerKey key : Caller) (now : Int) (callers : Callers Caller) :
    (sweep callerKey now callers).lookup key = callers.lookup key ∨
      key ≠ callerKey ∧ (sweep callerKey now callers).lookup key = none ∧
        ∃ s, callers.lookup key = some s ∧ idle now s = true := by
  rw [sweep]
  split
  · rw [AList.lookup_eraseWhere]
    cases hs : callers.lookup key with
    | none => exact Or.inl rfl
    | some s =>
      rw [Option.filter_some]
      by_cases hd : (key ≠ callerKey && idle now s) = true
      · rw [hd]
        obtain ⟨hne, hi⟩ := Bool.and_eq_true_iff.mp hd
        exact Or.inr ⟨of_decide_eq_true hne, rfl, s, rfl, hi⟩
      · rw [Bool.not_eq_true] at hd
        rw [hd]
        exact Or.inl rfl
  · exact Or.inl rfl

lemma Alike.other (h : Alike key now callers s) {callerKey : Caller} (hne : key ≠ callerKey) :
    Alike key now (allow callerKey now callers).2 s := by
  obtain ⟨hk, ht⟩ := h
  refine ⟨hk, ?_⟩
  have hi : (allow callerKey now callers).2.lookup key = (sweep callerKey now callers).lookup key :=
    AList.lookup_insert_ne hne
  rw [hi]
  rcases lookup_sweep callerKey key now callers with hsa | ⟨-, hg, s', hs', hid⟩
  · rw [hsa]
    exact ht
  · rcases ht with hs | ⟨hn, -⟩
    · rw [hs'] at hs
      cases hs
      exact Or.inr ⟨hg, Or.inr hid⟩
    · rw [hs'] at hn
      cases hn

lemma Alike.own (h : Alike key now callers s) : (allow key now callers).1 = (attempt now s).1 ∧
      Alike key now (allow key now callers).2 (attempt now s).2 := by
  obtain ⟨hk, ht⟩ := h
  have hsw : (sweep key now callers).lookup key = callers.lookup key := by
    rcases lookup_sweep key key now callers with hsa | ⟨hne, -⟩
    · exact hsa
    · exact absurd rfl hne
  have hj : attempt now (((sweep key now callers).lookup key).getD {}) = attempt now s := by
    rw [hsw]
    rcases ht with hs | ⟨hn, rfl | hi⟩
    · rw [hs]
      rfl
    · rw [hn]
      rfl
    · rw [hn]
      exact (attempt_idle hk hi).symm
  refine ⟨congrArg Prod.fst hj, kept_attempt hk, Or.inl ?_⟩
  rw [← hj]
  exact AList.lookup_insert _

variable {calls : List (Caller × Int)}

lemma answersTo_eq_alone (h : Alike key now callers s)
    (hs : ∀ call ∈ calls, now ≤ call.2) (ho : (calls.map Prod.snd).Pairwise (· ≤ ·)) :
    answersTo key (answers callers calls) = alone s ((callsOf key calls).map Prod.snd) := by
  induction calls generalizing now callers s with
  | nil => rfl
  | cons call calls ih =>
    obtain ⟨callerKey, time⟩ := call
    obtain ⟨hn, ho⟩ := pairwise_cons.mp ho
    have hl := h.later (hs _ mem_cons_self)
    have hn' : ∀ call ∈ calls, time ≤ call.2 := fun call hc => hn _ (mem_map_of_mem hc)
    by_cases hk : callerKey = key
    · subst hk
      obtain ⟨ha, hal⟩ := hl.own
      rw [answers, answersTo_cons_self, callsOf_cons_self, map_cons, alone, ha]
      exact congrArg _ (ih hal hn' ho)
    · rw [answers, answersTo_cons_ne hk, callsOf_cons_ne hk]
      exact ih (hl.other (Ne.symm hk)) hn' ho

lemma alike_empty (key : Caller) (now : Int) : Alike key now ∅ {} :=
  ⟨⟨List.Pairwise.nil, fun _ ht => absurd ht not_mem_nil, Or.inl rfl⟩, Or.inr ⟨rfl, Or.inl rfl⟩⟩

lemma map_fst_answers (callers : Callers Caller) (calls : List (Caller × Int)) :
    (answers callers calls).map Prod.fst = calls.map Prod.fst := by
  induction calls generalizing callers with
  | nil => rfl
  | cons call calls ih => rw [answers, map_cons, map_cons, ih]

lemma answersTo_empty (key : Caller) (ho : (calls.map Prod.snd).Pairwise (· ≤ ·)) :
    answersTo key (answers ∅ calls) = alone {} ((callsOf key calls).map Prod.snd) := by
  cases calls with
  | nil => rfl
  | cons call calls =>
    refine answersTo_eq_alone (alike_empty key call.2) (fun c hc => ?_) ho
    rcases mem_cons.mp hc with rfl | hc
    · exact Int.le_refl _
    · exact (pairwise_cons.mp ho).1 _ (mem_map_of_mem hc)

/-- **Callers do not see each other.** -/
theorem answers_isolated {calls : List (Caller × Int)}
    (hordered : (calls.map Prod.snd).Pairwise (· ≤ ·)) (key : Caller) :
    answersTo key (answers ∅ calls) = (answers ∅ (callsOf key calls)).map Prod.snd := by
  have ho : callsOf key (callsOf key calls) = callsOf key calls :=
    filter_eq_self.mpr fun call hc => (mem_filter.mp hc).2
  have hal : answersTo key (answers ∅ (callsOf key calls)) = (answers ∅ (callsOf key calls)).map
    Prod.snd := by
    rw [answersTo, filter_eq_self.mpr]
    intro answer ha
    have hm := mem_map_of_mem (f := Prod.fst) ha
    rw [map_fst_answers] at hm
    obtain ⟨call, hc, hf⟩ := mem_map.mp hm
    rw [← hf]
    exact (mem_filter.mp hc).2
  have hs : ((callsOf key calls).map Prod.snd).Pairwise (· ≤ ·) :=
    hordered.sublist (filter_sublist.map _)
  rw [← hal, answersTo_empty key hordered, answersTo_empty key hs, ho]

end Isolation

def flood : List (Nat × Int) :=
  [(1, 0), (1, 0), (1, 0), (1, 0), (2, 0), (1, 0), (1, 0), (1, seconds 1), (2, seconds 1),
      (1, seconds 2)]

theorem answers_isolated_flood : answersTo 1 (answers ∅ flood) =
    (answers ∅ (callsOf 1 flood)).map Prod.snd ∧
      answersTo 2 (answers ∅ flood) = (answers ∅ (callsOf 2 flood)).map Prod.snd ∧
      answersTo 1 (answers ∅ flood) = [true, true, true, true, true, false, false, false] := by
  have ho : (flood.map Prod.snd).Pairwise (· ≤ ·) := by decide
  exact ⟨answers_isolated ho 1, answers_isolated ho 2, by decide⟩

/-! ## Every window -/

def granted (times : List Int) (given : List Bool) : List Int :=
  ((times.zip given).filter Prod.snd).map Prod.fst

def inWindow (t u : Int) : Bool :=
  t ≤ u ∧ u ≤ t + kWindow

section Window
variable {times : List Int}

lemma granted_cons (now : Int) (times : List Int) (b : Bool) (given : List Bool) :
    granted (now :: times) (b :: given) = (if b then [now] else []) ++ granted times given := by
  cases b <;> rfl

lemma mem_of_granted {given : List Bool} {u : Int} (h : u ∈ granted times given) : u ∈ times := by
  obtain ⟨call, hc, rfl⟩ := mem_map.mp h
  exact (of_mem_zip (mem_filter.mp hc).1).1

/-- an attempt drops what is too old, and records itself if it is granted -/
lemma attempt_recent (now : Int) (s : CallerState) : ∃ old, (∀ u ∈ old, kWindow < now - u) ∧
    s.recent ++ (if (attempt now s).1 then [now] else []) = old ++ (attempt now s).2.recent ∧
      (s.recent.length ≤ kMaxPerWindow → (attempt now s).2.recent.length ≤ kMaxPerWindow) := by
  by_cases hb : now < s.backoffUntil
  · rw [attempt, if_pos hb]
    exact ⟨[], forall_mem_nil _, append_nil _, id⟩
  · refine ⟨s.recent.takeWhile fun t => kWindow < now - t,
      fun u hu => by simpa using mem_takeWhile_imp hu, ?_⟩
    have hr := takeWhile_append_dropWhile (p := fun t => decide (kWindow < now - t)) (l := s.recent)
    rw [attempt, if_neg hb]
    dsimp only
    split
    · exact ⟨(append_nil _).trans hr.symm, (length_dropWhile_le _ _).trans⟩
    · next hl =>
      refine ⟨?_, fun _ => ?_⟩
      · rw [← append_assoc, hr]
        rfl
      · rw [length_append, length_singleton]
        omega

lemma granted_within {s : CallerState} (hs : s.recent.length ≤ kMaxPerWindow)
    (ho : times.Pairwise (· ≤ ·)) (t : Int) :
    ((s.recent ++ granted times (alone s times)).filter (inWindow t)).length ≤ kMaxPerWindow := by
  induction times generalizing s with
  | nil =>
    rw [granted, zip_nil_left, filter_nil, map_nil, append_nil]
    exact (length_filter_le _ _).trans hs
  | cons now times ih =>
    obtain ⟨hn, ho'⟩ := pairwise_cons.mp ho
    obtain ⟨old, hold, hr, hl⟩ := attempt_recent now s
    by_cases hin : ∃ u ∈ old, t ≤ u
    · -- the window was over before this attempt
      obtain ⟨u, hu, htu⟩ := hin
      have hlate : (granted (now :: times) (alone s (now :: times))).filter (inWindow t) = [] := by
        refine filter_eq_nil_iff.mpr fun v hv hw => ?_
        have hnow : now ≤ v := by
          rcases mem_cons.mp (mem_of_granted hv) with rfl | hv
          · exact Int.le_refl _
          · exact hn v hv
        have hold := hold u hu
        have hw := (of_decide_eq_true hw).2
        omega
      rw [filter_append, hlate, append_nil]
      exact (length_filter_le _ _).trans hs
    · have hnone : old.filter (inWindow t) = [] :=
        filter_eq_nil_iff.mpr fun u hu hw => hin ⟨u, hu, (of_decide_eq_true hw).1⟩
      rw [alone, granted_cons, ← append_assoc, hr, append_assoc, filter_append, hnone, nil_append]
      exact ih (hl hs) ho'

end Window

/-- **No caller is granted more than five attempts in any sixty seconds**, whoever else calls. -/
theorem granted_per_window {Caller : Type} [DecidableEq Caller] {calls : List (Caller × Int)}
    (hordered : (calls.map Prod.snd).Pairwise (· ≤ ·)) (key : Caller) (t : Int) :
    ((granted ((callsOf key calls).map Prod.snd) (answersTo key (answers ∅ calls))).filter
      (inWindow t)).length
      ≤ kMaxPerWindow := by
  rw [answersTo_empty key hordered]
  exact granted_within (s := {}) (Nat.zero_le _) (hordered.sublist (filter_sublist.map _)) t

theorem granted_per_window_flood :
    ((granted ((callsOf 1 flood).map Prod.snd) (answersTo 1 (answers ∅ flood))).filter
      (inWindow 0)).length ≤ kMaxPerWindow :=
  granted_per_window (by decide) 1 0

end LibreAgent.Operations.RateLimiter
