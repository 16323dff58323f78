import Mathlib.Data.Finset.Dedup
import Mathlib.Data.Finset.Card
import Mathlib.Logic.Function.Basic

/-!
# Enumerations of finite sets and pointwise updates

An enumeration lists the members of a finite set once each, in an order of its
own.  Visiting the members in that order and replacing each one's value by a
function of itself is one simultaneous update of the whole set, so the order
leaves no trace in the result.
-/

variable {α β : Type*}

/-- The members of a finite set, once each, in some order. -/
structure Enumeration (members : Finset α) where
  order : List α
  nodup : order.Nodup
  mem_order : ∀ item, item ∈ order ↔ item ∈ members

namespace Enumeration

variable {members : Finset α}

/-- Every finite set has an enumeration. -/
noncomputable instance : Inhabited (Enumeration members) :=
  ⟨{ order := members.toList
     nodup := members.nodup_toList
     mem_order := fun _ => Finset.mem_toList }⟩

/-- An enumeration is as long as its set is large. -/
theorem length_order [DecidableEq α]
    (enumeration : Enumeration members) :
    enumeration.order.length = members.card := by
  have sameMembers : enumeration.order.toFinset = members := by
    ext item
    simpa using enumeration.mem_order item
  calc
    enumeration.order.length =
        enumeration.order.toFinset.card :=
      (List.toFinset_card_of_nodup enumeration.nodup).symm
    _ = members.card := congrArg Finset.card sameMembers

/-- Replace the value of one item by a function of itself. -/
def adjust [DecidableEq α]
    (change : α → β → β)
    (values : α → β)
    (item : α) : α → β :=
  Function.update values item (change item (values item))

/-- Visiting distinct items in any order adjusts exactly these items, once. -/
theorem foldl_adjust [DecidableEq α]
    (change : α → β → β)
    (values : α → β)
    {items : List α}
    (nodup : items.Nodup)
    (query : α) :
    items.foldl (adjust change) values query =
      if query ∈ items then
        change query (values query)
      else
        values query := by
  induction items generalizing values with
  | nil =>
      simp
  | cons item rest inductionHypothesis =>
      obtain ⟨itemFresh, restNodup⟩ := List.nodup_cons.mp nodup
      rw [List.foldl_cons, inductionHypothesis _ restNodup]
      by_cases isItem : query = item
      · subst isItem
        simp [itemFresh, adjust]
      · simp [isItem, adjust]

/-- Visiting an enumeration updates its whole set at once. -/
theorem foldl_adjust_order [DecidableEq α]
    (enumeration : Enumeration members)
    (change : α → β → β)
    (values : α → β) :
    enumeration.order.foldl (adjust change) values =
      fun query =>
        if query ∈ members then
          change query (values query)
        else
          values query := by
  funext query
  rw [foldl_adjust change values enumeration.nodup]
  simp only [enumeration.mem_order]

end Enumeration
