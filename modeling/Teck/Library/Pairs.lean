import Mathlib.Data.List.Basic

/-!
# Searching the pairs of a list

The first pair, in the order of two nested loops, of an element and a later one
that are related.
-/

namespace Pairs

variable {Entry : Type*}

/-- The first related pair, as two nested loops find it. -/
def first? (related : Entry → Entry → Bool) :
    List Entry → Option (Entry × Entry)
  | [] => none
  | entry :: rest =>
      match rest.find? (related entry) with
      | some later => some (entry, later)
      | none => first? related rest

/-- Nothing is found exactly if no two elements are related. -/
theorem first?_eq_none_iff
    {related : Entry → Entry → Bool}
    {entries : List Entry} :
    first? related entries = none ↔
      entries.Pairwise fun entry later => related entry later = false := by
  induction entries with
  | nil =>
      simp [first?]
  | cons entry rest inductionHypothesis =>
      rw [first?, List.pairwise_cons, ← inductionHypothesis]
      cases found : rest.find? (related entry) with
      | none =>
          have unrelated := List.find?_eq_none.mp found
          simp only [Bool.not_eq_true] at unrelated
          exact ⟨fun later => ⟨unrelated, later⟩, And.right⟩
      | some later =>
          have isRelated := List.find?_some found
          have member := List.mem_of_find?_eq_some found
          constructor
          · intro impossible
            simp at impossible
          · rintro ⟨unrelated, -⟩
            simp [unrelated later member] at isRelated

end Pairs
