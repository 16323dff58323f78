import Mathlib.Data.List.Basic

namespace TraceSafety

/-!
# Safety of recorded traces

A trace lists events oldest first.  It is safe when every event is admissible
after the events before it, so an unsafe trace stays unsafe however it is
extended and a safe one is judged one event at a time.
-/

variable {Event : Type*}

/-- Every event of the trace is admissible after the events before it. -/
def Safe
    (admissible : List Event → Event → Prop)
    (trace : List Event) : Prop :=
  ∀ earlier event later,
    trace = earlier ++ event :: later →
    admissible earlier event

variable {admissible : List Event → Event → Prop}

/-- Nothing has happened, so nothing was wrong. -/
@[simp] theorem safe_nil :
    Safe admissible [] := by
  intro earlier event later shape
  simp at shape

/-- What happened first was safe. -/
theorem Safe.of_append
    {first second : List Event}
    (safe : Safe admissible (first ++ second)) :
    Safe admissible first := by
  intro earlier event later shape
  apply safe earlier event (later ++ second)
  simp [shape]

/-- Recording one more event only has to check that event. -/
@[simp] theorem safe_concat
    {trace : List Event}
    {event : Event} :
    Safe admissible (trace ++ [event]) ↔
      Safe admissible trace ∧ admissible trace event := by
  constructor
  · intro safe
    exact ⟨safe.of_append, safe trace event [] rfl⟩
  · rintro ⟨safe, last⟩ earlier candidate later shape
    rcases List.eq_nil_or_concat later with isLast | ⟨before, final, isInner⟩
    · subst isLast
      obtain ⟨sameTrace, sameEvent⟩ :=
        List.append_inj' shape rfl
      simp only [List.cons.injEq, and_true] at sameEvent
      exact sameTrace ▸ sameEvent ▸ last
    · subst isInner
      have innerShape :
          trace ++ [event] =
            (earlier ++ candidate :: before) ++ [final] := by
        simpa using shape
      exact safe earlier candidate before
        (List.append_inj' innerShape rfl).1

/-- The events of a longer trace can be judged in two parts. -/
theorem safe_append_cons
    {trace rest : List Event}
    {event : Event} :
    Safe admissible (trace ++ event :: rest) ↔
      Safe admissible ((trace ++ [event]) ++ rest) := by
  rw [List.append_assoc, List.singleton_append]

/-- Each event of a safe trace was admissible after some part of it. -/
theorem Safe.admissible_of_mem
    {trace : List Event}
    (safe : Safe admissible trace)
    {event : Event}
    (member : event ∈ trace) :
    ∃ earlier, admissible earlier event := by
  obtain ⟨earlier, later, shape⟩ := List.append_of_mem member
  exact ⟨earlier, safe earlier event later shape⟩

end TraceSafety
