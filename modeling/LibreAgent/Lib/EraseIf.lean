import Mathlib.Data.List.AList

/-!
# Erasing by value

* `AList.eraseIf p` drops the entries of a finite map whose value has the property
  (`std::erase_if`);
* `AList.eraseWhere p` drops those whose key and value have it together.
-/

namespace AList

variable {α β : Type*} [DecidableEq α] (p : β → Bool) (m : AList fun _ : α => β)

def eraseIf : AList fun _ : α => β where
  entries := m.entries.filter fun e => !p e.2
  nodupKeys := m.nodupKeys.sublist List.filter_sublist

def eraseWhere (q : α → β → Bool) : AList fun _ : α => β where
  entries := m.entries.filter fun e => !q e.1 e.2
  nodupKeys := m.nodupKeys.sublist List.filter_sublist

variable {p m} {a : α} {b : β}

lemma mem_lookup_eraseIf : b ∈ (m.eraseIf p).lookup a ↔ b ∈ m.lookup a ∧ p b = false := by
  rw [AList.mem_lookup_iff, AList.mem_lookup_iff]
  show (⟨a, b⟩ : Sigma fun _ : α => β) ∈ m.entries.filter (fun e => !p e.2) ↔ _
  rw [List.mem_filter, Bool.not_eq_true']

variable {q : α → β → Bool}

lemma mem_lookup_eraseWhere : b ∈ (m.eraseWhere q).lookup a ↔ b ∈ m.lookup a ∧ q a b = false := by
  rw [AList.mem_lookup_iff, AList.mem_lookup_iff]
  show (⟨a, b⟩ : Sigma fun _ : α => β) ∈ m.entries.filter (fun e => !q e.1 e.2) ↔ _
  rw [List.mem_filter, Bool.not_eq_true']

lemma lookup_eraseWhere : (m.eraseWhere q).lookup a = (m.lookup a).filter fun b => !q a b := by
  apply Option.ext
  intro b
  rw [← Option.mem_def, mem_lookup_eraseWhere, Option.filter_eq_some_iff, Option.mem_def,
      Bool.not_eq_true']

end AList
