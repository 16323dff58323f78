import Mathlib.Data.Finset.Filter
import Mathlib.Data.Finset.SDiff
import Mathlib.Data.Finset.Lattice.Lemmas

/-!
# Remembering which aspects of a state were checked

A check that asks for several aspects of a state can remember the ones it found
to hold, as long as every change of the state forgets the aspects it may
invalidate.  Under this discipline the remembered aspects never change what a
check finds missing.
-/

namespace CheckedAspects

variable {State Aspect : Type*}
variable {Holds : State → Aspect → Prop} {state next : State}
variable {cached required changed : Finset Aspect}

/-- What was remembered holds of the state. -/
def Coherent
    (Holds : State → Aspect → Prop)
    (state : State)
    (cached : Finset Aspect) : Prop :=
  ∀ aspect ∈ cached, Holds state aspect

/-- Remember the asked aspects that hold. -/
def recompute
    [DecidableEq Aspect]
    (holds : Aspect → Bool)
    (asked cached : Finset Aspect) : Finset Aspect :=
  cached ∪ asked.filter fun aspect => holds aspect = true

variable [DecidableEq Aspect]

/-- A change keeps the cache if it forgets what it may invalidate. -/
theorem Coherent.change
    (coherent : Coherent Holds state cached)
    (kept :
      ∀ aspect, aspect ∈ cached → aspect ∉ changed →
        Holds state aspect → Holds next aspect) :
    Coherent Holds next (cached \ changed) := by
  intro aspect member
  obtain ⟨old, unchanged⟩ := Finset.mem_sdiff.mp member
  exact kept aspect old unchanged (coherent aspect old)

/-- Asking again keeps what is cached true of the state. -/
theorem Coherent.recompute
    {holds : Aspect → Bool}
    {asked : Finset Aspect}
    (coherent : Coherent Holds state cached)
    (sound : ∀ aspect ∈ asked, holds aspect = true → Holds state aspect) :
    Coherent Holds state (recompute holds asked cached) := by
  intro aspect member
  rcases Finset.mem_union.mp member with old | new
  · exact coherent aspect old
  · obtain ⟨isAsked, found⟩ := Finset.mem_filter.mp new
    exact sound aspect isAsked found

/-- What is missing afterwards was neither remembered nor found to hold. -/
theorem sdiff_recompute
    (holds : Aspect → Bool) :
    required \ recompute holds (required \ cached) cached =
      required.filter fun aspect =>
        aspect ∉ cached ∧ holds aspect = false := by
  ext aspect
  simp only [recompute, Finset.mem_sdiff, Finset.mem_union,
    Finset.mem_filter, not_or, not_and, Bool.not_eq_true]
  constructor
  · rintro ⟨asked, unknown, failed⟩
    exact ⟨asked, unknown, failed ⟨asked, unknown⟩⟩
  · rintro ⟨asked, unknown, failed⟩
    exact ⟨asked, unknown, fun _ => failed⟩

end CheckedAspects
