import LibreAgent.Lib.Bytes
import Mathlib.Data.List.DropRight
import Mathlib.Data.Nat.Digits.Lemmas

/-!
# Line-oriented text

* `decimal`, `parseDecimal` : numbers in base ten; `leadingInt` : the number at the start of a text;
* `toHex`, `fromHex` : bytes in base sixteen.
-/

namespace Text

open List

variable {α : Type*}

/-! ## Reading up to a delimiter -/

section Lines
variable [DecidableEq α]

/-- what a loop over `getline` sees: the text up to each delimiter, and what follows the last one
unless it is empty -/
def getlines (d : α) : List α → List (List α)
  | [] => []
  | c :: cs =>
    if c = d then [] :: getlines d cs
    else match getlines d cs with
      | [] => [[c]]
      | p :: ps => (c :: p) :: ps

def pieces (d : α) (s : List α) : List (List α) :=
  getlines d (s ++ [d])

def later (d : α) (s : List α) : List (List α) :=
  (pieces d s).tail

lemma getlines_delim (d : α) (s : List α) : getlines d (d :: s) = [] :: getlines d s := by
  rw [getlines, if_pos rfl]

variable {d c : α} {p s l : List α}

lemma getlines_cons (h : c ≠ d) (s : List α) : getlines d (c :: s) = match getlines d s with
      | [] => [[c]]
      | p :: ps => (c :: p) :: ps := by
  rw [getlines, if_neg h]

lemma pieces_nil (d : α) : pieces d [] = [[]] := getlines_delim d []

lemma pieces_delim (d : α) (s : List α) : pieces d (d :: s) = [] :: pieces d s :=
  getlines_delim d (s ++ [d])

lemma pieces_ne_nil (d : α) (s : List α) : pieces d s ≠ [] := by
  cases s with
  | nil => rw [pieces_nil]; exact cons_ne_nil _ _
  | cons c s =>
    rw [pieces, cons_append, getlines]
    split
    · exact cons_ne_nil _ _
    · split <;> exact cons_ne_nil _ _

lemma pieces_cons (h : c ≠ d) (s : List α) : pieces d (c :: s) = (c :: (pieces d s).headD []) ::
    later d s := by
  rw [pieces, cons_append, getlines_cons h, later]
  show (match pieces d s with | [] => [[c]] | p :: ps => (c :: p) :: ps) = _
  cases hp : pieces d s with
  | nil => exact absurd hp (pieces_ne_nil d s)
  | cons p ps => rfl

lemma getlines_append (d : α) (s t : List α) : getlines d (s ++ d :: t) = pieces d s ++
    getlines d t := by
  induction s with
  | nil => rw [nil_append, getlines_delim, pieces_nil]; rfl
  | cons c s ih =>
    by_cases h : c = d
    · subst h
      rw [cons_append, getlines_delim, ih, pieces_delim]
      rfl
    · rw [cons_append, getlines_cons h, ih, pieces_cons h, later]
      cases hp : pieces d s with
      | nil => exact absurd hp (pieces_ne_nil d s)
      | cons p ps => rfl

lemma pieces_append (h : d ∉ p) (s : List α) : pieces d (p ++ s) = (p ++ (pieces d s).headD []) ::
    later d s := by
  induction p with
  | nil =>
    rw [nil_append, nil_append, later]
    cases hp : pieces d s with
    | nil => exact absurd hp (pieces_ne_nil d s)
    | cons q qs => rfl
  | cons c p ih =>
    have hc : c ≠ d := fun e => h (e ▸ mem_cons_self)
    rw [cons_append, pieces_cons hc, later, ih (fun hp => h (mem_cons_of_mem _ hp))]
    rfl

lemma pieces_of_not_mem (h : d ∉ s) : pieces d s = [s] := by
  have hp := pieces_append h []
  rw [append_nil, later, pieces_nil] at hp
  rw [hp, List.headD_cons, append_nil, tail_cons]

lemma pieces_append_delim (h : d ∉ p) (s : List α) : pieces d (p ++ d :: s) = p :: pieces d s := by
  rw [pieces_append h, pieces_delim, later, pieces_delim, List.headD_cons, append_nil, tail_cons]

lemma pieces_take (h : d ∉ p) (s : List α) (n : Nat) : pieces d ((p ++ d :: s).take n) =
    if n ≤ p.length then [p.take n] else p :: pieces d (s.take (n - (p.length + 1))) := by
  split
  · next hn =>
    rw [take_append_of_le_length hn, pieces_of_not_mem fun hm => h (mem_of_mem_take hm)]
  · next hn =>
    obtain ⟨m, rfl⟩ := Nat.exists_eq_add_of_lt (Nat.not_le.mp hn)
    have hm : p.length + m + 1 - (p.length + 1) = m := by omega
    rw [hm, Nat.add_assoc, take_length_add_append, take_succ_cons, pieces_append_delim h]

lemma later_of_not_mem (h : d ∉ s) : later d s = [] := by
  rw [later, pieces_of_not_mem h]
  rfl

/-- a line is made of bytes of the text, without the delimiter -/
lemma of_mem_getlines (h : l ∈ getlines d s) (hc : c ∈ l) : c ∈ s ∧ c ≠ d := by
  induction s generalizing l with
  | nil => cases h
  | cons x s ih =>
    have hlater {l : List α} (h : l ∈ getlines d s) (hc : c ∈ l) : c ∈ x :: s ∧ c ≠ d :=
      (ih h hc).imp_left (mem_cons_of_mem x)
    by_cases hx : x = d
    · rw [getlines, if_pos hx] at h
      rcases mem_cons.mp h with rfl | h
      · cases hc
      · exact hlater h hc
    · rw [getlines_cons hx] at h
      cases hg : getlines d s with
      | nil =>
        rw [hg] at h
        rw [mem_singleton.mp h] at hc
        rw [mem_singleton.mp hc]
        exact ⟨mem_cons_self, hx⟩
      | cons p ps =>
        rw [hg] at h
        rcases mem_cons.mp h with rfl | h
        · rcases mem_cons.mp hc with rfl | hc
          · exact ⟨mem_cons_self, hx⟩
          · exact hlater (hg ▸ mem_cons_self) hc
        · exact hlater (hg ▸ mem_cons_of_mem _ h) hc

lemma mem_of_mem_getlines (h : l ∈ getlines d s) (hc : c ∈ l) : c ∈ s := (of_mem_getlines h hc).1

lemma not_mem_getlines (h : l ∈ getlines d s) : d ∉ l := fun hd => (of_mem_getlines h hd).2 rfl

lemma getlines_flatMap {β : Type*} {f : β → List α} {l : List β} (h : ∀ b ∈ l, d ∉ f b) :
    getlines d (l.flatMap fun b => f b ++ [d]) = l.map f := by
  induction l with
  | nil => rfl
  | cons b l ih =>
    rw [List.flatMap_cons, append_assoc, singleton_append, getlines_append,
      pieces_of_not_mem (h b mem_cons_self), ih fun c hc => h c (mem_cons_of_mem _ hc)]
    rfl

/-! ## Joining -/

lemma getlines_of_not_mem (h : d ∉ s) (hs : s ≠ []) : getlines d s = [s] := by
  induction s with
  | nil => exact absurd rfl hs
  | cons c s ih =>
    have hc : c ≠ d := fun e => h (e ▸ mem_cons_self)
    rw [getlines_cons hc]
    cases s with
    | nil => rfl
    | cons x s => rw [ih (fun hm => h (mem_cons_of_mem _ hm)) (cons_ne_nil _ _)]

lemma getlines_intercalate {l : List (List α)} (h : ∀ s ∈ l, d ∉ s ∧ s ≠ []) :
    getlines d ([d].intercalate l) = l := by
  induction l with
  | nil => rfl
  | cons s l ih =>
    obtain ⟨hd, hne⟩ := h s mem_cons_self
    have ih' := ih fun t ht => h t (mem_cons_of_mem _ ht)
    cases l with
    | nil =>
      rw [intercalate_singleton]
      exact getlines_of_not_mem hd hne
    | cons t l =>
      rw [intercalate_cons_cons, append_assoc, singleton_append, getlines_append,
        pieces_of_not_mem hd, ih']
      rfl

end Lines

lemma mem_intercalate {d c : α} {l : List (List α)} (h : c ∈ [d].intercalate l) :
    c = d ∨ ∃ s ∈ l, c ∈ s := by
  induction l with
  | nil => cases h
  | cons s l ih =>
    cases l with
    | nil =>
      rw [intercalate_singleton] at h
      exact Or.inr ⟨s, mem_cons_self, h⟩
    | cons t l =>
      rw [intercalate_cons_cons, mem_append, mem_append, mem_singleton] at h
      rcases h with (h | h) | h
      · exact Or.inr ⟨s, mem_cons_self, h⟩
      · exact Or.inl h
      · rcases ih h with h | ⟨u, hu, hc⟩
        · exact Or.inl h
        · exact Or.inr ⟨u, mem_cons_of_mem _ hu, hc⟩

lemma intercalate_concat (d : α) (l : List (List α)) (s : List α) :
    ∃ p, [d].intercalate (l ++ [s]) = p ++ s := by
  induction l with
  | nil => exact ⟨[], intercalate_singleton⟩
  | cons t l ih =>
    obtain ⟨p, hp⟩ := ih
    cases l with
    | nil =>
      exact ⟨t ++ [d], by rw [cons_append, nil_append, intercalate_cons_cons,
        intercalate_singleton]⟩
    | cons u l =>
      refine ⟨t ++ [d] ++ p, ?_⟩
      rw [cons_append, cons_append, intercalate_cons_cons, ← cons_append, hp,
        append_assoc (t ++ [d])]

/-! ## Trimming -/

section Trim
variable (sp : α → Bool)

/-- without the spaces `sp` at both ends -/
def trim (s : List α) : List α :=
  (s.dropWhile sp).rdropWhile sp

variable {sp}
variable {c : α} {s : List α}

lemma rdropWhile_append_neg {x : α} (h : ¬ sp x) (p s : List α) :
    (p ++ x :: s).rdropWhile sp = p ++ x :: s.rdropWhile sp := by
  induction s using List.reverseRecOn with
  | nil =>
    rw [List.rdropWhile_nil, List.rdropWhile_concat_neg _ _ _ h]
  | append_singleton s y ih =>
    rw [← cons_append, ← append_assoc, List.rdropWhile_concat, List.rdropWhile_concat]
    split
    · exact ih
    · rw [append_assoc, cons_append]

lemma rdropWhile_cons_neg (h : ¬ sp c) (s : List α) : (c :: s).rdropWhile sp = c ::
    s.rdropWhile sp :=
  rdropWhile_append_neg h [] s

lemma dropWhile_rdropWhile (s : List α) : (s.rdropWhile sp).dropWhile sp =
    (s.dropWhile sp).rdropWhile sp := by
  induction s using List.reverseRecOn with
  | nil => rfl
  | append_singleton s x ih =>
    by_cases hx : sp x
    · rw [List.rdropWhile_concat_pos _ _ _ hx, ih, List.dropWhile_append]
      split
      · rename_i hn
        rw [List.isEmpty_iff.mp hn, List.dropWhile_cons_of_pos hx]
        rfl
      · rw [List.rdropWhile_concat_pos _ _ _ hx]
    · rw [List.rdropWhile_concat_neg _ _ _ hx, List.dropWhile_append]
      split
      · rw [List.dropWhile_cons_of_neg hx, List.rdropWhile_singleton, if_neg hx]
      · rw [List.rdropWhile_concat_neg _ _ _ hx]

lemma trim_rdropWhile (s : List α) : trim sp (s.rdropWhile sp) = trim sp s := by
  rw [trim, dropWhile_rdropWhile, List.rdropWhile_idempotent, trim]

lemma trim_trim (s : List α) : trim sp (trim sp s) = trim sp s := by
  have h : (trim sp s).dropWhile sp = trim sp s := by
    rw [trim, ← dropWhile_rdropWhile, List.dropWhile_idempotent]
  rw [trim, h, trim, List.rdropWhile_idempotent]

lemma trim_cons_pos (h : sp c) (s : List α) : trim sp (c :: s) = trim sp s := by
  rw [trim, List.dropWhile_cons_of_pos h, trim]

lemma trim_cons_neg (h : ¬ sp c) (s : List α) : trim sp (c :: s) = c :: s.rdropWhile sp := by
  rw [trim, List.dropWhile_cons_of_neg h, rdropWhile_cons_neg h]

lemma mem_of_mem_trim (h : c ∈ trim sp s) : c ∈ s :=
  (List.dropWhile_suffix sp).subset ((List.rdropWhile_prefix sp _).subset h)

lemma trim_of_forall (h : ∀ c ∈ s, ¬ sp c) : trim sp s = s := by
  induction s with
  | nil => rfl
  | cons c s ih =>
    have hs : s.rdropWhile sp = s := by
      rw [List.rdropWhile_eq_self_iff]
      intro hne
      exact h _ (mem_cons_of_mem _ (List.getLast_mem hne))
    rw [trim_cons_neg (h c mem_cons_self), hs]

end Trim

/-! ## The first separator -/

section Cut
variable [DecidableEq α]

/-- the two sides of the first `d` -/
def cutAt (d : α) : List α → Option (List α × List α)
  | [] => none
  | c :: cs => if c = d then some ([], cs) else (cutAt d cs).map fun p => (c :: p.1, p.2)

variable {d : α}

lemma cutAt_append {p : List α} (h : d ∉ p) (s : List α) : cutAt d (p ++ d :: s) = some (p, s) := by
  induction p with
  | nil => rw [nil_append, cutAt, if_pos rfl]
  | cons c p ih =>
    have hc : c ≠ d := fun e => h (e ▸ mem_cons_self)
    rw [cons_append, cutAt, if_neg hc, ih (fun hp => h (mem_cons_of_mem _ hp))]
    rfl

lemma eq_of_cutAt {s a b : List α} (h : cutAt d s = some (a, b)) : s = a ++ d :: b := by
  induction s generalizing a with
  | nil => cases h
  | cons c s ih =>
    rw [cutAt] at h
    by_cases hc : c = d
    · rw [if_pos hc] at h
      cases h
      rw [hc, nil_append]
    · rw [if_neg hc, Option.map_eq_some_iff] at h
      obtain ⟨⟨a', b'⟩, hcu, hp⟩ := h
      cases hp
      rw [cons_append, ← ih hcu]

lemma cutAt_of_not_mem {s : List α} (h : d ∉ s) : cutAt d s = none := by
  cases hc : cutAt d s with
  | none => rfl
  | some p =>
    rw [eq_of_cutAt hc] at h
    exact absurd (mem_append_right _ mem_cons_self) h

end Cut

/-! ## Folds of assignments -/

section Fold
variable {σ τ : Type*} {step : σ → α → σ}

lemma foldl_last (get : σ → τ) (eff : α → Option τ)
    (h : ∀ s a, get (step s a) = (eff a).getD (get s)) (as : List α) (s : σ) :
    get (as.foldl step s) = (as.filterMap eff).getLastD (get s) := by
  induction as generalizing s with
  | nil => rfl
  | cons a as ih =>
    rw [foldl_cons, ih, h]
    cases ha : eff a with
    | none => rw [List.filterMap_cons_none ha, Option.getD_none]
    | some v => rw [List.filterMap_cons_some ha, Option.getD_some, List.getLastD_cons]

lemma foldl_collect (get : σ → List τ) (eff : α → Option τ)
    (h : ∀ s a, get (step s a) = get s ++ (eff a).toList) (as : List α) (s : σ) :
    get (as.foldl step s) = get s ++ as.filterMap eff := by
  induction as generalizing s with
  | nil => rw [foldl_nil, List.filterMap_nil, append_nil]
  | cons a as ih =>
    rw [foldl_cons, ih, h]
    cases ha : eff a with
    | none => rw [List.filterMap_cons_none ha, Option.toList_none, append_nil]
    | some v =>
      rw [List.filterMap_cons_some ha, Option.toList_some, append_assoc, singleton_append]

lemma getLastD_append (a b : List τ) (v : τ) : (a ++ b).getLastD v = b.getLastD (a.getLastD v) := by
  induction a generalizing v with
  | nil => rfl
  | cons x a ih => rw [cons_append, List.getLastD_cons, List.getLastD_cons, ih]

lemma getLastD_mem (a : List τ) (v : τ) : a.getLastD v = v ∨ a.getLastD v ∈ a := by
  induction a generalizing v with
  | nil => exact Or.inl rfl
  | cons x a ih =>
    rw [List.getLastD_cons]
    rcases ih x with h | h
    · rw [h]
      exact Or.inr mem_cons_self
    · exact Or.inr (mem_cons_of_mem _ h)

variable {f : τ → Option τ} {l : List τ}

lemma filterMap_eq_filter (h : ∀ a ∈ l, f a = some a ∨ f a = none) :
    l.filterMap f = l.filter fun a => (f a).isSome := by
  induction l with
  | nil => rfl
  | cons a l ih =>
    have ih' := ih fun b hb => h b (mem_cons_of_mem _ hb)
    rcases h a mem_cons_self with ha | ha
    · rw [List.filterMap_cons_some ha, filter_cons_of_pos (by rw [ha]; rfl), ih']
    · rw [List.filterMap_cons_none ha, filter_cons_of_neg (by rw [ha]; simp), ih']

lemma filterMap_of_forall (h : ∀ a ∈ l, f a = some a) : l.filterMap f = l := by
  rw [filterMap_eq_filter fun a ha => Or.inl (h a ha), filter_eq_self]
  intro a ha
  rw [h a ha]
  rfl

/-- a list of which each element is collected as something that stays, or is lost: it comes back
only if what comes after it brings the lost ones, which stood at its end -/
lemma filterMap_append_eq_self {x y : List τ} (hf : ∀ a ∈ l, ∀ b, f a = some b → f b = some b) :
    y ++ (l.filterMap f ++ x) = l ↔ (∀ a ∈ l, f a = some a ∨ f a = none) ∧
      y ++ ((l.filter fun a => (f a).isSome) ++ x) = l := by
  constructor
  · intro h
    have hfi : ∀ b ∈ l.filterMap f, f b = some b := by
      intro b hb
      obtain ⟨a, ha, hab⟩ := mem_filterMap.mp hb
      exact hf a ha b hab
    have hk : (l.filterMap f).filterMap f = l.filterMap f := filterMap_of_forall hfi
    have hl : (y ++ x).filterMap f = [] := by
      have h2 := congrArg (fun t => (t.filterMap f).length) h
      simp only [List.filterMap_append, hk, length_append] at h2
      rw [List.filterMap_append, ← length_eq_zero_iff, length_append]
      omega
    have hal : ∀ a ∈ l, f a = some a ∨ f a = none := by
      intro a ha
      have hn := List.filterMap_eq_nil_iff.mp hl a
      rw [← h] at ha
      rcases mem_append.mp ha with ha | ha
      · exact Or.inr (hn (mem_append_left _ ha))
      · rcases mem_append.mp ha with ha | ha
        · exact Or.inl (hfi a ha)
        · exact Or.inr (hn (mem_append_right _ ha))
    exact ⟨hal, (filterMap_eq_filter hal) ▸ h⟩
  · rintro ⟨hal, h⟩
    rw [filterMap_eq_filter hal]
    exact h

end Fold

/-! ## Decimal numbers -/

def isDigit (c : UInt8) : Bool :=
  48 ≤ c && c ≤ 57

def decimal (n : Nat) : Bytes :=
  if n = 0 then [48] else ((Nat.digits 10 n).map fun k => UInt8.ofNat (48 + k)).reverse

def parseDecimal (s : Bytes) : Option Nat :=
  if s ≠ [] ∧ s.all isDigit then some (s.foldl (fun n c => 10 * n + (c.toNat - 48)) 0) else none

variable {k n : Nat} {c : UInt8}

lemma digit_toNat (h : k < 10) : (UInt8.ofNat (48 + k)).toNat = 48 + k := by
  rw [UInt8.toNat_ofNat']
  omega

lemma isDigit_digit (h : k < 10) : isDigit (UInt8.ofNat (48 + k)) = true := by
  have h1 : (48 : UInt8) ≤ UInt8.ofNat (48 + k) := by
    rw [UInt8.le_iff_toNat_le, digit_toNat h]
    exact Nat.le_add_right _ _
  have h2 : UInt8.ofNat (48 + k) ≤ (57 : UInt8) := by
    rw [UInt8.le_iff_toNat_le, digit_toNat h]
    show 48 + k ≤ 57
    omega
  rw [isDigit, decide_eq_true h1, decide_eq_true h2]
  rfl

lemma isDigit_of_mem_decimal (h : c ∈ decimal n) : isDigit c = true := by
  rw [decimal] at h
  split at h
  · rw [mem_singleton.mp h]
    rfl
  · rw [mem_reverse, mem_map] at h
    obtain ⟨k, hk, rfl⟩ := h
    exact isDigit_digit (Nat.digits_lt_base (by decide) hk)

lemma foldr_digits (l : List Nat) (h : ∀ k ∈ l, k < 10) :
    l.foldr (fun k n => 10 * n + ((UInt8.ofNat (48 + k)).toNat - 48)) 0 = Nat.ofDigits 10 l := by
  induction l with
  | nil => rfl
  | cons k l ih =>
    rw [foldr_cons, ih fun j hj => h j (mem_cons_of_mem _ hj), digit_toNat (h k mem_cons_self),
      Nat.ofDigits_cons]
    omega

lemma decimal_ne_nil (n : Nat) : decimal n ≠ [] := by
  rw [decimal]
  split
  · exact cons_ne_nil _ _
  · rename_i h
    intro hn
    rw [reverse_eq_nil_iff, map_eq_nil_iff, Nat.digits_eq_nil_iff_eq_zero] at hn
    exact h hn

lemma parseDecimal_decimal (n : Nat) : parseDecimal (decimal n) = some n := by
  have hd : (decimal n).all isDigit = true := all_eq_true.mpr fun c hc => isDigit_of_mem_decimal hc
  rw [parseDecimal, if_pos ⟨decimal_ne_nil n, hd⟩, decimal]
  split
  · rename_i h
    rw [h]
    rfl
  · rw [foldl_reverse, foldr_map, foldr_digits _ fun k hk => Nat.digits_lt_base (by decide) hk,
      Nat.ofDigits_digits]

lemma decimal_div (h : 10 ≤ n) : decimal n = decimal (n / 10) ++ [UInt8.ofNat (48 + n % 10)] := by
  rw [decimal, if_neg (by omega), decimal, if_neg (by omega),
    Nat.digits_def' (by decide) (by omega), map_cons, reverse_cons]

/-- the first digits of a number are those of a quotient -/
lemma take_decimal (n : Nat) (h : k ≠ 0) :
    (decimal n).take k = decimal (n / 10 ^ ((decimal n).length - k)) := by
  induction n using Nat.strong_induction_on with
  | h n ih =>
    by_cases hk : (decimal n).length ≤ k
    · rw [take_of_length_le hk, Nat.sub_eq_zero_of_le hk, Nat.pow_zero, Nat.div_one]
    by_cases hn : n < 10
    · have hl : (decimal n).length = 1 := by
        rw [decimal]
        split
        · rfl
        · next h0 => rw [Nat.digits_of_lt 10 n h0 hn]; rfl
      omega
    · have hd := decimal_div (Nat.not_lt.mp hn)
      have hl := congrArg length hd
      rw [length_append, length_singleton] at hl
      rw [hl, hd, take_append_of_le_length (by omega), ih (n / 10) (by omega),
        Nat.div_div_eq_div_mul,
        ← Nat.pow_succ', Nat.succ_eq_add_one]
      congr 4
      omega

def decimalInt (z : Int) : Bytes :=
  if z < 0 then 45 :: decimal z.natAbs else decimal z.natAbs

def parseDecimalInt : Bytes → Option Int
  | 45 :: s => (parseDecimal s).map fun n : Nat => -(n : Int)
  | s => (parseDecimal s).map fun n : Nat => (n : Int)

lemma parseDecimalInt_decimalInt (z : Int) : parseDecimalInt (decimalInt z) = some z := by
  rw [decimalInt]
  split
  · rw [parseDecimalInt, parseDecimal_decimal, Option.map_some]
    congr 1
    omega
  · have hh : ∀ s, decimal z.natAbs ≠ 45 :: s := by
      intro s hs
      have h := isDigit_of_mem_decimal (n := z.natAbs) (c := 45) (hs ▸ mem_cons_self)
      exact absurd h (by decide)
    have hp : parseDecimalInt (decimal z.natAbs) = (parseDecimal (decimal z.natAbs)).map
      fun n : Nat => (n : Int) := by
      cases hd : decimal z.natAbs with
      | nil => rfl
      | cons c s =>
        rw [parseDecimalInt]
        intro t ht
        exact hh t (hd.trans ht)
    rw [hp, parseDecimal_decimal, Option.map_some]
    congr 1
    omega

lemma parseDecimalInt_take (z : Int) (k : Nat) : parseDecimalInt ((decimalInt z).take k) =
    if k = 0 ∨ k = 1 ∧ z < 0 then none
    else some (z.tdiv (10 ^ ((decimalInt z).length - k))) := by
  by_cases hz : z < 0
  · rw [decimalInt, if_pos hz]
    match k with
    | 0 => rfl
    | 1 => rw [if_pos (.inr ⟨rfl, hz⟩)]; rfl
    | k + 2 =>
      rw [if_neg (by omega), take_succ_cons, take_decimal _ k.succ_ne_zero, parseDecimalInt,
        parseDecimal_decimal, length_cons, Nat.add_sub_add_right, Option.map_some]
      have ha : z = -(z.natAbs : Int) := by omega
      rw [ha, Int.neg_tdiv, Int.natAbs_neg, Int.natAbs_natCast]
      rfl
  · obtain ⟨m, rfl⟩ := Int.eq_ofNat_of_zero_le (Int.not_lt.mp hz)
    have hd (q : Nat) : decimalInt q = decimal q := rfl
    by_cases hk : k = 0
    · rw [hk, if_pos (.inl rfl)]
      rfl
    · rw [hd, take_decimal _ hk, ← hd, parseDecimalInt_decimalInt, if_neg (by omega)]
      rfl

/-! ## The number at the start of a text -/

def isWhite (c : UInt8) : Bool :=
  c == 32 || (9 ≤ c && c ≤ 13)

def leadingNat (s : Bytes) : Nat :=
  (s.takeWhile isDigit).foldl (fun n c => 10 * n + (c.toNat - 48)) 0

def leadingInt (s : Bytes) : Int :=
  match s.dropWhile isWhite with
  | 45 :: t => -(leadingNat t : Int)
  | 43 :: t => leadingNat t
  | t => leadingNat t

lemma leadingNat_decimal (n : Nat) : leadingNat (decimal n) = n := by
  have hd : ∀ c ∈ decimal n, isDigit c = true := fun c hc => isDigit_of_mem_decimal hc
  have hp := parseDecimal_decimal n
  rw [parseDecimal, if_pos ⟨decimal_ne_nil n, all_eq_true.mpr hd⟩] at hp
  rw [leadingNat, List.takeWhile_eq_self_iff.mpr hd]
  exact Option.some.inj hp

lemma not_isWhite_of_isDigit (h : isDigit c = true) : ¬ isWhite c = true := by
  simp only [isDigit, isWhite, Bool.and_eq_true, Bool.or_eq_true, decide_eq_true_eq, beq_iff_eq,
    UInt8.le_iff_toNat_le, ← UInt8.toNat_inj] at h ⊢
  have h48 : (48 : UInt8).toNat = 48 := rfl
  have h32 : (32 : UInt8).toNat = 32 := rfl
  have h13 : (13 : UInt8).toNat = 13 := rfl
  omega

lemma leadingInt_decimalInt (z : Int) : leadingInt (decimalInt z) = z := by
  rw [decimalInt]
  split
  · rw [leadingInt, List.dropWhile_cons_of_neg (by decide)]
    show -(leadingNat (decimal z.natAbs) : Int) = z
    rw [leadingNat_decimal]
    omega
  · -- a digit is neither white space nor a sign
    cases hd : decimal z.natAbs with
    | nil => exact absurd hd (decimal_ne_nil _)
    | cons c s =>
      have hc : isDigit c = true := isDigit_of_mem_decimal (hd ▸ mem_cons_self)
      have hw := not_isWhite_of_isDigit hc
      have hm : c ≠ 45 := fun e => absurd (e ▸ hc) (by decide)
      have hp : c ≠ 43 := fun e => absurd (e ▸ hc) (by decide)
      rw [leadingInt, List.dropWhile_cons_of_neg hw]
      split
      · next t ht => exact absurd (List.cons.inj ht).1 hm
      · next t ht => exact absurd (List.cons.inj ht).1 hp
      · rw [← hd, leadingNat_decimal]
        omega

/-! ## Hexadecimal bytes -/

def hexDigit (n : Nat) : UInt8 :=
  UInt8.ofNat (if n < 10 then 48 + n else 87 + n)

def hexValue (c : UInt8) : Option Nat :=
  if 48 ≤ c ∧ c ≤ 57 then some (c.toNat - 48)
  else if 97 ≤ c ∧ c ≤ 102 then some (c.toNat - 97 + 10)
  else none

def toHex (b : Bytes) : Bytes :=
  b.flatMap fun c => [hexDigit (c.toNat / 16), hexDigit (c.toNat % 16)]

def fromHex : Bytes → Option Bytes
  | [] => some []
  | [_] => none
  | a :: b :: rest =>
    match hexValue a, hexValue b with
    | some x, some y => (fromHex rest).map fun t => UInt8.ofNat (x * 16 + y) :: t
    | _, _ => none

lemma hexValue_hexDigit (h : n < 16) : hexValue (hexDigit n) = some n := by
  revert n
  decide

lemma fromHex_toHex (b : Bytes) : fromHex (toHex b) = some b := by
  induction b with
  | nil => rfl
  | cons c b ih =>
    have hc := c.toNat_lt
    have hhi := hexValue_hexDigit (n := c.toNat / 16) (by omega)
    have hlo := hexValue_hexDigit (n := c.toNat % 16) (by omega)
    have hb : UInt8.ofNat (c.toNat / 16 * 16 + c.toNat % 16) = c := by
      rw [Nat.div_add_mod', UInt8.ofNat_toNat]
    show fromHex (hexDigit (c.toNat / 16) :: hexDigit (c.toNat % 16) :: toHex b) = some (c :: b)
    rw [fromHex, hhi, hlo, ih]
    show some (UInt8.ofNat (c.toNat / 16 * 16 + c.toNat % 16) :: b) = some (c :: b)
    rw [hb]

lemma length_of_fromHex {s b : Bytes} (h : fromHex s = some b) : s.length = b.length * 2 := by
  fun_induction fromHex s generalizing b with
  | case1 => cases h; rfl
  | case2 => cases h
  | case3 a c rest x y hx hy ih =>
    obtain ⟨t, ht, rfl⟩ := Option.map_eq_some_iff.mp h
    rw [length_cons, length_cons, ih ht, length_cons]
    omega
  | case4 => cases h

lemma length_toHex (b : Bytes) : (toHex b).length = b.length * 2 := by
  induction b with
  | nil => rfl
  | cons c b ih =>
    rw [toHex, List.flatMap_cons, length_append, ← toHex, ih, length_cons]
    show 2 + b.length * 2 = (b.length + 1) * 2
    omega

lemma hexValue_of_mem_toHex {b : Bytes} (h : c ∈ toHex b) : ∃ n, hexValue c = some n := by
  obtain ⟨x, -, hc⟩ := mem_flatMap.mp h
  have hx := x.toNat_lt
  rcases mem_cons.mp hc with rfl | hc
  · exact ⟨_, hexValue_hexDigit (by omega)⟩
  · rw [mem_singleton.mp hc]
    exact ⟨_, hexValue_hexDigit (by omega)⟩

end Text
