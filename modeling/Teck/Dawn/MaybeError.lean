import Mathlib.Data.List.Basic

namespace Teck.Dawn

/-!
# Validation results

A validation returns a value or an error.  It is undefined where the source
would dereference a null pointer or reach `DAWN_UNREACHABLE`.
-/

/--
The text of a validation error and the numbers it is formatted with.  The
contexts are those that were added on the way out, the innermost first.
-/
structure ValidationError where
  text : String
  values : List Int
  contexts : List String
  deriving DecidableEq, Repr

/-- `AppendContext` -/
def ValidationError.appendContext
    (error : ValidationError)
    (context : String) : ValidationError :=
  { error with contexts := error.contexts ++ [context] }

/-- A value, a validation error, or nothing where the source is undefined. -/
abbrev ResultOrError (Result : Type) :=
  ExceptT ValidationError Option Result

/-- A validation that returns no value. -/
abbrev MaybeError := ResultOrError Unit

/-- A null pointer is dereferenced, or `DAWN_UNREACHABLE` is reached. -/
def undefined {Result : Type} : ResultOrError Result :=
  (none : Option (Except ValidationError Result))

/-- `DAWN_VALIDATION_ERROR` -/
def validationError
    {Result : Type}
    (text : String)
    (values : List Int) : ResultOrError Result :=
  throw ⟨text, values, []⟩

/-- `DAWN_INVALID_IF` -/
def invalidIf
    (condition : Prop)
    [Decidable condition]
    (text : String)
    (values : List Int) : MaybeError :=
  if condition then validationError text values else pure ()

/-- `DAWN_TRY_CONTEXT` -/
def tryContext
    {Result : Type}
    (outcome : ResultOrError Result)
    (context : String) : ResultOrError Result :=
  ExceptT.mk <| outcome.run.map fun
    | .error error => .error (error.appendContext context)
    | .ok result => .ok result

namespace ResultOrError

variable {Result Next : Type}

/-- The validation runs into nothing that is undefined in the source. -/
def Defined (outcome : ResultOrError Result) : Prop :=
  outcome ≠ undefined

/-- An outcome is undefined, an error or a value. -/
theorem cases_run
    (outcome : ResultOrError Result) :
    outcome = undefined ∨
      (∃ error, outcome = throw error) ∨ ∃ result, outcome = pure result := by
  match outcome with
  | none =>
      exact .inl rfl
  | some (.error error) =>
      exact .inr (.inl ⟨error, rfl⟩)
  | some (.ok result) =>
      exact .inr (.inr ⟨result, rfl⟩)

/-- Equal outcomes return equal values. -/
@[simp] theorem pure_inj
    {first second : Result} :
    (pure first : ResultOrError Result) = pure second ↔
      first = second := by
  constructor
  · intro same
    injection same with same
    injection same
  · rintro rfl
    rfl

/-- An undefined validation returns nothing. -/
@[simp] theorem undefined_ne_pure
    {result : Result} :
    (undefined : ResultOrError Result) ≠ pure result :=
  nofun

/-- A validation that fails returns nothing. -/
@[simp] theorem throw_ne_pure
    {error : ValidationError}
    {result : Result} :
    (throw error : ResultOrError Result) ≠ pure result :=
  nofun

/-- A validation error is not a value. -/
@[simp] theorem validationError_ne_pure
    {text : String}
    {values : List Int}
    {result : Result} :
    (validationError text values : ResultOrError Result) ≠ pure result :=
  nofun

/-- Returning a value is defined. -/
@[simp] theorem defined_pure
    (result : Result) :
    Defined (pure result) :=
  nofun

/-- Failing with an error is defined. -/
@[simp] theorem defined_throw
    (error : ValidationError) :
    Defined (throw error : ResultOrError Result) :=
  nofun

/-- Failing with a validation error is defined. -/
@[simp] theorem defined_validationError
    (text : String)
    (values : List Int) :
    Defined (validationError text values : ResultOrError Result) :=
  nofun

/-- Nothing follows what is undefined. -/
@[simp] theorem undefined_bind
    {next : Result → ResultOrError Next} :
    (undefined >>= next) = undefined :=
  rfl

/-- Nothing follows an error. -/
@[simp] theorem throw_bind
    {error : ValidationError}
    {next : Result → ResultOrError Next} :
    ((throw error : ResultOrError Result) >>= next) = throw error :=
  rfl

/-- A sequence returns a value if each of its parts does. -/
theorem bind_eq_pure
    {outcome : ResultOrError Result}
    {next : Result → ResultOrError Next}
    {result : Next} :
    (outcome >>= next) = pure result ↔
      ∃ middle, outcome = pure middle ∧ next middle = pure result := by
  rcases outcome.cases_run with rfl | ⟨error, rfl⟩ | ⟨middle, rfl⟩
  · simp
  · simp
  · simp

/-- A sequence is defined if its parts are, as far as it gets. -/
theorem Defined.bind
    {outcome : ResultOrError Result}
    {next : Result → ResultOrError Next}
    (first : outcome.Defined)
    (later : ∀ middle, outcome = pure middle → (next middle).Defined) :
    (outcome >>= next).Defined := by
  rcases outcome.cases_run with rfl | ⟨error, rfl⟩ | ⟨middle, rfl⟩
  · exact absurd rfl first
  · simp
  · simpa using later middle rfl

section InvalidIf

variable {condition : Prop} [Decidable condition]
variable {text : String} {values : List Int}

/-- A check passes when its condition fails. -/
@[simp] theorem invalidIf_eq_pure
    {result : Unit} :
    invalidIf condition text values = pure result ↔ ¬ condition := by
  rw [invalidIf]
  split
  · simpa
  · simpa

/-- A check is defined. -/
@[simp] theorem defined_invalidIf :
    Defined (invalidIf condition text values) := by
  rw [invalidIf]
  split <;> simp

/-- Past a check, its condition is known to fail. -/
theorem invalidIf_bind_eq_pure
    {next : Unit → ResultOrError Next}
    {result : Next} :
    (invalidIf condition text values >>= next) = pure result ↔
      ¬ condition ∧ next () = pure result := by
  rw [bind_eq_pure]
  constructor
  · rintro ⟨_, passed, later⟩
    exact ⟨invalidIf_eq_pure.mp passed, later⟩
  · rintro ⟨passed, later⟩
    exact ⟨(), invalidIf_eq_pure.mpr passed, later⟩

/-- What follows a check only has to be defined if the check passes. -/
theorem defined_invalidIf_bind
    {next : Unit → ResultOrError Next}
    (later : ¬ condition → (next ()).Defined) :
    (invalidIf condition text values >>= next).Defined :=
  defined_invalidIf.bind fun _ passed =>
    later (invalidIf_eq_pure.mp passed)

end InvalidIf

/-- A context is added to errors only. -/
@[simp] theorem tryContext_eq_pure
    {outcome : ResultOrError Result}
    {context : String}
    {result : Result} :
    tryContext outcome context = pure result ↔ outcome = pure result := by
  rcases outcome.cases_run with rfl | ⟨error, rfl⟩ | ⟨other, rfl⟩
  · exact iff_of_false nofun nofun
  · exact iff_of_false nofun nofun
  · exact Iff.rfl

/-- A context does not make an outcome undefined. -/
theorem Defined.tryContext
    {outcome : ResultOrError Result}
    (defined : outcome.Defined)
    (context : String) :
    (tryContext outcome context).Defined := by
  rcases outcome.cases_run with rfl | ⟨error, rfl⟩ | ⟨other, rfl⟩
  · exact absurd rfl defined
  · exact nofun
  · exact nofun

/-- Checks of a list pass together if each of them does. -/
theorem forM_eq_pure
    {Entry : Type*}
    {check : Entry → MaybeError}
    {entries : List Entry}
    {result : Unit} :
    forM entries check = pure result ↔
      ∀ entry ∈ entries, check entry = pure () := by
  induction entries with
  | nil =>
      simp
  | cons entry rest inductionHypothesis =>
      rw [List.forM_cons, bind_eq_pure, List.forall_mem_cons]
      constructor
      · rintro ⟨_, first, later⟩
        exact ⟨first, inductionHypothesis.mp later⟩
      · rintro ⟨first, later⟩
        exact ⟨(), first, inductionHypothesis.mpr later⟩

/-- Checks of a list are defined if each of them is. -/
theorem defined_forM
    {Entry : Type*}
    {check : Entry → MaybeError}
    {entries : List Entry}
    (each : ∀ entry ∈ entries, (check entry).Defined) :
    Defined (forM entries check) := by
  induction entries with
  | nil =>
      simp
  | cons entry rest inductionHypothesis =>
      rw [List.forM_cons]
      obtain ⟨first, later⟩ := List.forall_mem_cons.mp each
      exact Defined.bind first fun _ _ => inductionHypothesis later

end ResultOrError

end Teck.Dawn
