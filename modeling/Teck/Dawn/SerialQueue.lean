import Mathlib.Data.List.Basic
import Mathlib.Order.Lattice

namespace Teck.Dawn

/-!
# Queues by serial

`SerialQueue` of the vendored library: values grouped by the serial of the work
that uses them, with the serials in strictly increasing order.  The source only
asserts that serials arrive in increasing order; `enqueue` keeps the storage in
order whatever it is given, because a serial that is not above the last one
joins the last batch.
-/

variable {Serial Value : Type*} [LinearOrder Serial]

/-- `SerialQueue`: batches of values under ascending serials. -/
structure SerialQueue (Serial Value : Type*) [LinearOrder Serial] where
  mStorage : List (Serial × List Value)
  increasing : (mStorage.map Prod.fst).Pairwise (· < ·)
  filled : ∀ batch ∈ mStorage, batch.2 ≠ []

namespace SerialQueue

/-- A queue without values. -/
def new : SerialQueue Serial Value where
  mStorage := []
  increasing := List.Pairwise.nil
  filled := by simp

/-- `Empty`. -/
def empty (queue : SerialQueue Serial Value) : Bool :=
  queue.mStorage.isEmpty

/-- `Enqueue` on the storage itself. -/
def pushBack
    (value : Value)
    (serial : Serial) :
    List (Serial × List Value) → List (Serial × List Value)
  | [] => [(serial, [value])]
  | [last] =>
      if last.1 < serial then
        [last, (serial, [value])]
      else
        [(last.1, last.2 ++ [value])]
  | batch :: next :: rest => batch :: pushBack value serial (next :: rest)

/-- `FindUpTo`: the batches before the first serial above the given one. -/
def upTo
    (serial : Serial)
    (storage : List (Serial × List Value)) : List (Serial × List Value) :=
  storage.takeWhile (·.1 ≤ serial)

/-- `IterateUpTo`: the values up to a serial, in order. -/
def iterateUpTo
    (queue : SerialQueue Serial Value)
    (serial : Serial) : List Value :=
  (upTo serial queue.mStorage).flatMap Prod.snd

/-- `IterateAll` -/
def iterateAll (queue : SerialQueue Serial Value) : List Value :=
  queue.mStorage.flatMap Prod.snd

/-- The values with the serial each is kept under. -/
def entries (queue : SerialQueue Serial Value) : List (Serial × Value) :=
  queue.mStorage.flatMap fun batch => batch.2.map fun value => (batch.1, value)

/-- A bound below the serials is below the new one too. -/
theorem mem_pushBack_fst
    {value : Value}
    {serial bound : Serial}
    {storage : List (Serial × List Value)}
    (below : ∀ batch ∈ storage, bound < batch.1)
    (bounded : storage = [] → bound < serial) :
    ∀ batch ∈ pushBack value serial storage, bound < batch.1 := by
  fun_induction pushBack value serial storage with
  | case1 =>
      simpa using bounded rfl
  | case2 last later =>
      have first : bound < last.1 := below last (by simp)
      simpa using ⟨first, lt_trans first later⟩
  | case3 last notLater =>
      simpa using below last (by simp)
  | case4 batch next rest inductionHypothesis =>
      intro other member
      rcases List.mem_cons.mp member with rfl | later
      · exact below other (by simp)
      · refine inductionHypothesis ?_ (by simp) other later
        exact fun other member => below other (List.mem_cons_of_mem _ member)

/-- Adding a value keeps the serials ascending. -/
theorem increasing_pushBack
    {value : Value}
    {serial : Serial}
    {storage : List (Serial × List Value)}
    (ordered : (storage.map Prod.fst).Pairwise (· < ·)) :
    ((pushBack value serial storage).map Prod.fst).Pairwise (· < ·) := by
  fun_induction pushBack value serial storage with
  | case1 =>
      simp
  | case2 last later =>
      simpa using later
  | case3 last notLater =>
      simp
  | case4 batch next rest inductionHypothesis =>
      rw [List.map_cons, List.pairwise_cons] at ordered ⊢
      refine ⟨?_, inductionHypothesis ordered.2⟩
      intro serial' member
      obtain ⟨other, inside, rfl⟩ := List.mem_map.mp member
      refine mem_pushBack_fst ?_ (by simp) other inside
      exact fun later found => ordered.1 _ (List.mem_map_of_mem found)

/-- No batch is empty. -/
theorem filled_pushBack
    {value : Value}
    {serial : Serial}
    {storage : List (Serial × List Value)}
    (filled : ∀ batch ∈ storage, batch.2 ≠ []) :
    ∀ batch ∈ pushBack value serial storage, batch.2 ≠ [] := by
  fun_induction pushBack value serial storage with
  | case1 =>
      simp
  | case2 last later =>
      simpa using filled
  | case3 last notLater =>
      simp
  | case4 batch next rest inductionHypothesis =>
      intro other member
      rcases List.mem_cons.mp member with rfl | later
      · exact filled other (by simp)
      · refine inductionHypothesis ?_ other later
        exact fun other member => filled other (List.mem_cons_of_mem _ member)

/-- `Enqueue`: the value joins the last batch or starts a new one. -/
def enqueue
    (queue : SerialQueue Serial Value)
    (value : Value)
    (serial : Serial) : SerialQueue Serial Value where
  mStorage := pushBack value serial queue.mStorage
  increasing := increasing_pushBack queue.increasing
  filled := filled_pushBack queue.filled

/-- `ClearUpTo`. -/
def clearUpTo
    (queue : SerialQueue Serial Value)
    (serial : Serial) : SerialQueue Serial Value where
  mStorage := queue.mStorage.dropWhile (·.1 ≤ serial)
  increasing :=
    queue.increasing.sublist
      ((List.dropWhile_sublist _).map Prod.fst)
  filled := fun batch member =>
    queue.filled batch ((List.dropWhile_sublist _).mem member)

variable {queue : SerialQueue Serial Value}

/-- A new queue has no entries. -/
@[simp] theorem entries_new :
    (new : SerialQueue Serial Value).entries = [] :=
  rfl

/-- A queue is empty when it has no entries. -/
theorem empty_iff : queue.empty = true ↔ queue.entries = [] := by
  rw [empty, List.isEmpty_iff]
  constructor
  · intro nothing
    simp [entries, nothing]
  · intro noEntries
    refine List.eq_nil_iff_forall_not_mem.mpr fun batch member => ?_
    have noValues := List.flatMap_eq_nil_iff.mp noEntries batch member
    exact queue.filled batch member (List.map_eq_nil_iff.mp noValues)

/-- `IterateAll` visits the values of the entries. -/
theorem iterateAll_eq_map : queue.iterateAll = queue.entries.map Prod.snd := by
  simp [iterateAll, entries, List.map_flatMap, Function.comp_def]

/-- Whatever its serial, an enqueued value is iterated last. -/
theorem iterateAll_enqueue
    {value : Value}
    {serial : Serial} :
    (queue.enqueue value serial).iterateAll =
      queue.iterateAll ++ [value] := by
  simp only [iterateAll, enqueue]
  fun_induction pushBack value serial queue.mStorage with
  | case1 =>
      simp
  | case2 last later =>
      simp
  | case3 last notLater =>
      simp
  | case4 batch next rest inductionHypothesis =>
      rw [List.flatMap_cons, List.flatMap_cons, inductionHypothesis,
        List.append_assoc]

/-- An enqueued value comes last, under its serial or a later one. -/
theorem exists_entries_enqueue
    (queue : SerialQueue Serial Value)
    (value : Value)
    (serial : Serial) :
    ∃ kept,
      serial ≤ kept ∧
        (queue.enqueue value serial).entries =
          queue.entries ++ [(kept, value)] := by
  simp only [entries, enqueue]
  fun_induction pushBack value serial queue.mStorage with
  | case1 =>
      exact ⟨serial, le_refl _, by simp⟩
  | case2 last later =>
      exact ⟨serial, le_refl _, by simp⟩
  | case3 last notLater =>
      exact ⟨last.1, not_lt.mp notLater, by simp⟩
  | case4 batch next rest inductionHypothesis =>
      obtain ⟨kept, above, shape⟩ := inductionHypothesis
      refine ⟨kept, above, ?_⟩
      rw [List.flatMap_cons, List.flatMap_cons, shape, List.append_assoc]

/-- In order of arrival, an enqueued value comes last. -/
theorem entries_enqueue
    {value : Value}
    {serial : Serial}
    (ordered : ∀ entry ∈ queue.entries, entry.1 ≤ serial) :
    (queue.enqueue value serial).entries =
      queue.entries ++ [(serial, value)] := by
  rcases queue with ⟨storage, increasing, filled⟩
  simp only [entries, enqueue] at ordered ⊢
  clear increasing
  fun_induction pushBack value serial storage with
  | case1 =>
      simp
  | case2 last later =>
      simp
  | case3 last notLater =>
      obtain ⟨first, rest, shape⟩ :=
        List.exists_cons_of_ne_nil (filled last (by simp))
      have atMost : last.1 ≤ serial :=
        ordered (last.1, first) (by simp [shape])
      have same : last.1 = serial := le_antisymm atMost (not_lt.mp notLater)
      simp [same]
  | case4 batch next rest inductionHypothesis =>
      rw [List.flatMap_cons, List.flatMap_cons, List.append_assoc,
        inductionHypothesis]
      · exact fun other member => filled other (List.mem_cons_of_mem _ member)
      · intro entry member
        refine ordered entry ?_
        rw [List.flatMap_cons]
        exact List.mem_append_right _ member

/-- Iterating up to a serial and clearing up to it split the queue. -/
theorem iterateUpTo_append_clearUpTo
    (serial : Serial) :
    queue.iterateUpTo serial ++ (queue.clearUpTo serial).iterateAll =
      queue.iterateAll := by
  rw [iterateUpTo, iterateAll, iterateAll, clearUpTo, upTo,
    ← List.flatMap_append, List.takeWhile_append_dropWhile]

/-- Of ascending serials, those up to a serial come first. -/
theorem dropWhile_eq_filter
    {serial : Serial}
    {storage : List (Serial × List Value)}
    (ordered : (storage.map Prod.fst).Pairwise (· < ·)) :
    storage.dropWhile (·.1 ≤ serial) = storage.filter (serial < ·.1) := by
  induction storage with
  | nil =>
      rfl
  | cons batch rest inductionHypothesis =>
      rw [List.map_cons, List.pairwise_cons] at ordered
      by_cases early : batch.1 ≤ serial
      · simp [early, inductionHypothesis ordered.2]
      · have late : serial < batch.1 := not_le.mp early
        have allLate : ∀ other ∈ rest, serial < other.1 :=
          fun other member =>
            lt_trans late (ordered.1 _ (List.mem_map_of_mem member))
        simp only [List.dropWhile_cons, early, List.filter_cons, late]
        simpa using (List.filter_eq_self.mpr (by simpa using allLate)).symm

/-- What is left after clearing are the entries with a later serial. -/
theorem entries_clearUpTo
    (serial : Serial) :
    (queue.clearUpTo serial).entries =
      queue.entries.filter (serial < ·.1) := by
  simp only [entries, clearUpTo, dropWhile_eq_filter queue.increasing]
  induction queue.mStorage with
  | nil =>
      rfl
  | cons batch rest inductionHypothesis =>
      rw [List.flatMap_cons, List.filter_append, ← inductionHypothesis]
      by_cases late : serial < batch.1
      · simp [late, List.filter_map, Function.comp_def]
      · simp [late, List.filter_map, Function.comp_def]

/-- Clearing keeps the entries of later serials. -/
theorem mem_entries_clearUpTo
    {serial : Serial}
    {entry : Serial × Value} :
    entry ∈ (queue.clearUpTo serial).entries ↔
      entry ∈ queue.entries ∧ serial < entry.1 := by
  simp [entries_clearUpTo]

/-- Clearing up to a serial no entry exceeds empties the queue. -/
theorem empty_clearUpTo
    {serial : Serial}
    (all : ∀ entry ∈ queue.entries, entry.1 ≤ serial) :
    (queue.clearUpTo serial).empty = true := by
  refine empty_iff.mpr (List.eq_nil_iff_forall_not_mem.mpr ?_)
  intro entry member
  obtain ⟨inside, late⟩ := mem_entries_clearUpTo.mp member
  exact absurd (all entry inside) (not_le.mpr late)

end SerialQueue

end Teck.Dawn
