import Mathlib.Algebra.BigOperators.Ring.List
import Mathlib.Algebra.Ring.Nat
import Mathlib.Order.CompletePartialOrder
import Mathlib.Order.Interval.Set.Disjoint

namespace CircularWindow

/-!
# Segments laid down around a circular store

A store has `capacity` cells and is used from left to right, lap after lap.  A
segment takes a share of the store and finishes at a position; when it does not
fit before the end of the store it starts the next lap, and its share includes
the cells it skipped.  A walk is a sequence of segments laid down one after the
other between two cursors.

The cells of a walk whose shares fit in the store once are pairwise disjoint:
unrolled over the laps they lie one after the other, and the unrolled window is
too short to meet the same cell twice.
-/

/-- A position together with the number of laps made before it. -/
structure Cursor where
  lap : Nat
  position : Nat

/-- How far a cursor has come, the laps before included. -/
def Cursor.travelled (capacity : Nat) (cursor : Cursor) : Nat :=
  cursor.lap * capacity + cursor.position

/-- A share of the window and the position at which it ends. -/
structure Segment where
  share : Nat
  finish : Nat

/-- The cells of the last lap a segment touches, skipped cells included. -/
def Segment.cells (segment : Segment) : Set Nat :=
  Set.Ico (segment.finish - segment.share) segment.finish

/-- What the segments take together. -/
def totalShare (segments : List Segment) : Nat :=
  (segments.map Segment.share).sum

/--
The segments follow each other from one cursor to another; a segment may start
a new lap, whose skipped end counts as part of its share.
-/
def Walk (capacity : Nat) : Cursor → List Segment → Cursor → Prop
  | start, [], stop => start = stop
  | start, segment :: rest, stop =>
      ∃ lap,
        start.lap ≤ lap ∧
          segment.finish ≤ capacity ∧
          lap * capacity + segment.finish =
            start.travelled capacity + segment.share ∧
          Walk capacity ⟨lap, segment.finish⟩ rest stop

/-- No segment takes nothing. -/
@[simp] theorem totalShare_nil : totalShare [] = 0 :=
  rfl

/-- The first segment and the rest take their shares. -/
@[simp] theorem totalShare_cons
    (segment : Segment)
    (rest : List Segment) :
    totalShare (segment :: rest) = segment.share + totalShare rest := by
  simp [totalShare]

/-- Shares of consecutive segments add up. -/
@[simp] theorem totalShare_append
    (first second : List Segment) :
    totalShare (first ++ second) =
      totalShare first + totalShare second := by
  simp [totalShare]

variable {capacity : Nat} {start stop : Cursor}
variable {segments : List Segment}

namespace Walk

/-- A walk over two lists stops between them. -/
theorem append_iff
    {first second : List Segment} :
    Walk capacity start (first ++ second) stop ↔
      ∃ middle,
        Walk capacity start first middle ∧
          Walk capacity middle second stop := by
  induction first generalizing start with
  | nil =>
      simp [Walk]
  | cons segment rest inductionHypothesis =>
      simp only [List.cons_append, Walk, inductionHypothesis]
      constructor
      · rintro ⟨lap, forward, inside, reached, middle, before, after⟩
        exact ⟨middle, ⟨lap, forward, inside, reached, before⟩, after⟩
      · rintro ⟨middle, ⟨lap, forward, inside, reached, before⟩, after⟩
        exact ⟨lap, forward, inside, reached, middle, before, after⟩

/-- A walk goes on with one more segment. -/
theorem snoc
    {middle : Cursor}
    {segment : Segment}
    {lap : Nat}
    (walk : Walk capacity start segments middle)
    (forward : middle.lap ≤ lap)
    (inside : segment.finish ≤ capacity)
    (reached :
      lap * capacity + segment.finish =
        middle.travelled capacity + segment.share) :
    Walk capacity start (segments ++ [segment])
      ⟨lap, segment.finish⟩ :=
  append_iff.mpr ⟨middle, walk, lap, forward, inside, reached, rfl⟩

/-- A walk comes as far as the shares of its segments. -/
theorem travelled_eq
    (walk : Walk capacity start segments stop) :
    stop.travelled capacity =
      start.travelled capacity + totalShare segments := by
  induction segments generalizing start with
  | nil =>
      have same : start = stop := walk
      simp [same]
  | cons segment rest inductionHypothesis =>
      obtain ⟨lap, -, -, reached, later⟩ := walk
      have tail := inductionHypothesis later
      simp only [Cursor.travelled, totalShare_cons] at tail reached ⊢
      omega

/-- A walk never goes back a lap. -/
theorem lap_le
    (walk : Walk capacity start segments stop) :
    start.lap ≤ stop.lap := by
  induction segments generalizing start with
  | nil =>
      have same : start = stop := walk
      simp [same]
  | cons segment rest inductionHypothesis =>
      obtain ⟨lap, forward, -, -, later⟩ := walk
      exact forward.trans (inductionHypothesis later)

/-- A walk stays inside the window. -/
theorem position_le
    (walk : Walk capacity start segments stop)
    (inside : start.position ≤ capacity) :
    stop.position ≤ capacity := by
  induction segments generalizing start with
  | nil =>
      have same : start = stop := walk
      exact same ▸ inside
  | cons segment rest inductionHypothesis =>
      obtain ⟨lap, -, inside, -, later⟩ := walk
      exact inductionHypothesis later inside

/-- Every segment of a walk ends inside the window. -/
theorem finish_le
    (walk : Walk capacity start segments stop)
    {segment : Segment}
    (member : segment ∈ segments) :
    segment.finish ≤ capacity := by
  obtain ⟨before, after, rfl⟩ := List.append_of_mem member
  obtain ⟨_, _, lap, -, inside, -⟩ := append_iff.mp walk
  exact inside

/-- Unrolled over the laps, the cells of a walk lie between its cursors. -/
theorem unrolled_cell
    (walk : Walk capacity start segments stop)
    {segment : Segment}
    (member : segment ∈ segments)
    {cell : Nat}
    (covered : cell ∈ segment.cells) :
    ∃ lap,
      start.travelled capacity ≤ lap * capacity + cell ∧
        lap * capacity + cell < stop.travelled capacity := by
  obtain ⟨before, after, rfl⟩ := List.append_of_mem member
  obtain ⟨middle, earlier, lap, forward, inside, reached, later⟩ :=
    append_iff.mp walk
  have reachedMiddle := earlier.travelled_eq
  have reachedStop := later.travelled_eq
  have monotone : middle.lap * capacity ≤ lap * capacity :=
    Nat.mul_le_mul_right capacity forward
  obtain ⟨low, high⟩ := covered
  simp only [Cursor.travelled] at reachedMiddle reachedStop reached ⊢
  exact ⟨lap, by omega, by omega⟩

/-- A walk whose shares fit in the store once uses every cell at most once. -/
theorem pairwise_disjoint
    (walk : Walk capacity start segments stop)
    (fits : totalShare segments ≤ capacity) :
    segments.Pairwise fun first second =>
      Disjoint first.cells second.cells := by
  induction segments generalizing start with
  | nil =>
      exact List.Pairwise.nil
  | cons segment rest inductionHypothesis =>
      obtain ⟨lap, forward, inside, reached, later⟩ := walk
      rw [totalShare_cons] at fits
      refine List.Pairwise.cons ?_ (inductionHypothesis later (by omega))
      intro other member
      refine Set.disjoint_left.mpr fun cell here there => ?_
      obtain ⟨otherLap, low, high⟩ := later.unrolled_cell member there
      have length := later.travelled_eq
      have monotone : start.lap * capacity ≤ lap * capacity :=
        Nat.mul_le_mul_right capacity forward
      obtain ⟨first, before⟩ := here
      simp only [Cursor.travelled] at low high length reached
      have apart : lap * capacity < otherLap * capacity := by omega
      have nextLap : (lap + 1) * capacity ≤ otherLap * capacity :=
        Nat.mul_le_mul_right capacity (Nat.lt_of_mul_lt_mul_right apart)
      -- A lap later the same cell lies beyond the end of the window.
      rw [Nat.add_mul, Nat.one_mul] at nextLap
      omega

/-- A walk with cells to spare has gone round the end at most once. -/
theorem unsplit_or_split
    (walk : Walk capacity start segments stop)
    (inside : start.position ≤ capacity)
    (spare : totalShare segments < capacity) :
    (stop.lap = start.lap ∧ start.position ≤ stop.position) ∨
      (stop.lap = start.lap + 1 ∧ stop.position < start.position) := by
  have reached := walk.travelled_eq
  have forward := walk.lap_le
  simp only [Cursor.travelled] at reached
  obtain ⟨laps, shape⟩ := Nat.exists_eq_add_of_le forward
  rw [shape, Nat.add_mul] at reached
  match laps, shape with
  | 0, shape =>
      exact .inl ⟨shape, by omega⟩
  | 1, shape =>
      exact .inr ⟨shape, by omega⟩
  | laps + 2, shape =>
      have long : 2 * capacity ≤ (laps + 2) * capacity :=
        Nat.mul_le_mul_right capacity (Nat.le_add_left 2 laps)
      omega

end Walk

end CircularWindow
