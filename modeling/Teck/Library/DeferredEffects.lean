import Mathlib.Data.List.Forall2

namespace DeferredEffects

/-!
# Effects that happen later than they are accepted

A system accepts events at once and keeps an operation for each until it is
executed.  `Follows` relates it to the system without delay: the memory is what
the executed part of the accepted events makes of the initial one, and the
operations that wait mean the rest, in order.
-/

variable {Memory Event Operation : Type*}
variable {perform : Memory → Event → Memory}
variable {means : Operation → Event → Prop}
variable {initial memory : Memory}
variable {accepted : List Event}
variable {waiting : List Operation}

/-- Part of what was accepted is performed, the rest is what waits. -/
def Follows
    (perform : Memory → Event → Memory)
    (means : Operation → Event → Prop)
    (initial : Memory)
    (accepted : List Event)
    (memory : Memory)
    (waiting : List Operation) : Prop :=
  ∃ done due,
    accepted = done ++ due ∧
      memory = done.foldl perform initial ∧
      List.Forall₂ means waiting due

namespace Follows

/-- Nothing was accepted and nothing waits. -/
theorem start :
    Follows perform means initial [] initial [] :=
  ⟨[], [], rfl, rfl, List.Forall₂.nil⟩

/-- Accepting events leaves the memory as it is. -/
theorem accept
    {operations : List Operation}
    {events : List Event}
    (follows : Follows perform means initial accepted memory waiting)
    (meaning : List.Forall₂ means operations events) :
    Follows perform means initial (accepted ++ events) memory
      (waiting ++ operations) := by
  obtain ⟨done, due, shape, reached, matching⟩ := follows
  refine ⟨done, due ++ events, ?_, reached, ?_⟩
  · rw [shape, List.append_assoc]
  · exact List.rel_append matching meaning

/-- Executing the oldest operation performs the event it means. -/
theorem execute
    {operation : Operation}
    {rest : List Operation}
    {next : Memory}
    (follows :
      Follows perform means initial accepted memory (operation :: rest))
    (effect :
      ∀ event, means operation event → next = perform memory event) :
    Follows perform means initial accepted next rest := by
  obtain ⟨done, due, shape, reached, matching⟩ := follows
  cases matching with
  | @cons _ event _ due meaning later =>
      refine ⟨done ++ [event], due, ?_, ?_, later⟩
      · rw [shape, List.append_assoc, List.singleton_append]
      · rw [effect event meaning, reached, List.foldl_append]
        rfl

/-- Executing the oldest operations one after another, on fit memories. -/
theorem executeAll
    (execute : Memory → Operation → Memory)
    (fit : Memory → Prop)
    {operations rest : List Operation}
    (follows :
      Follows perform means initial accepted memory (operations ++ rest))
    (fits : fit memory)
    (stays : ∀ memory operation, fit memory → fit (execute memory operation))
    (effect :
      ∀ {memory operation event},
        fit memory → means operation event →
          execute memory operation = perform memory event) :
    Follows perform means initial accepted
      (operations.foldl execute memory) rest := by
  induction operations generalizing memory with
  | nil =>
      exact follows
  | cons operation operations inductionHypothesis =>
      rw [List.foldl_cons]
      apply inductionHypothesis
      · exact follows.execute fun event meaning => effect fits meaning
      · exact stays memory operation fits

/-- The operations keep their meaning as long as each of them does. -/
theorem mono
    {means' : Operation → Event → Prop}
    (follows : Follows perform means initial accepted memory waiting)
    (kept :
      ∀ operation ∈ waiting, ∀ event,
        means operation event → means' operation event) :
    Follows perform means' initial accepted memory waiting := by
  obtain ⟨done, due, shape, reached, matching⟩ := follows
  refine ⟨done, due, shape, reached, ?_⟩
  clear shape
  induction matching with
  | nil =>
      exact .nil
  | cons meaning _ inductionHypothesis =>
      exact .cons
        (kept _ (List.mem_cons_self ..) _ meaning)
        (inductionHypothesis fun operation member =>
          kept operation (List.mem_cons_of_mem _ member))

/-- What the memory holds is the effect of the first of the accepted calls. -/
theorem exists_initialPart
    (follows : Follows perform means initial accepted memory waiting) :
    ∃ done,
      done <+: accepted ∧ memory = done.foldl perform initial := by
  obtain ⟨done, due, shape, reached, -⟩ := follows
  exact ⟨done, ⟨due, shape.symm⟩, reached⟩

/-- With nothing waiting, the memory is that of the system without delay. -/
theorem drained
    (follows : Follows perform means initial accepted memory []) :
    memory = accepted.foldl perform initial := by
  obtain ⟨done, due, shape, reached, matching⟩ := follows
  cases matching with
  | nil =>
      rw [reached, shape, List.append_nil]

end Follows

end DeferredEffects
