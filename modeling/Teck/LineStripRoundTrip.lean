import Teck.LineGeometry

namespace Teck

/-!
# Drawing the generated indices as strips

A `Uint16` line strip ends at every element equal to the restart value.
Decoding what `Init` stored gives back its outlines as long as no truncated
index is that value; rectangle 16383 is the first whose last corner is.
-/

/-- The strips of a `Uint16` index list with primitive restart. -/
def decodeStrips (indices : List UInt16) : List (List UInt16) :=
  (Delimited.decode restartIndex indices).filter (· ≠ [])

/--
The round trip of one list: its strips are the closed outlines of its
rectangles, and the positions they name are those where the turn of each
rectangle pushed its vertices.
-/
structure LineStripRoundTrip
    (i : UInt32)
    (rectangles : Nat)
    (lists : LineList) : Prop where
  strips :
    (decodeStrips lists.indices).map (List.map UInt16.toNat) =
      (List.range rectangles).map closedQuad
  positions :
    ∀ rectangle < rectangles,
      ∃ later,
        lists.vertices =
            (lineList i rectangle).vertices ++ quad i ++ later ∧
          (lineList i rectangle).vertices.length = 4 * rectangle

/-- Indices that fit into a `u16` are stored as they are. -/
theorem map_toNat_storedQuad
    {rectangle : Nat}
    (small : 4 * rectangle + 3 < 65536) :
    (storedQuad rectangle).map UInt16.toNat = closedQuad rectangle := by
  have kept :
      ∀ index ∈ closedQuad rectangle, index % 2 ^ 16 = index := by
    intro index member
    simp only [closedQuad, List.mem_cons, List.not_mem_nil,
      or_false] at member
    omega
  rw [storedQuad, List.map_map]
  conv_rhs => rw [← List.map_id (closedQuad rectangle)]
  apply List.map_congr_left
  intro index member
  simpa using kept index member

/-- No index of the first 16383 rectangles looks like the restart value. -/
theorem restartIndex_not_mem_storedQuad
    {rectangle : Nat}
    (small : rectangle < 16383) :
    restartIndex ∉ storedQuad rectangle := by
  intro member
  have asNat :
      restartIndex.toNat ∈ (storedQuad rectangle).map UInt16.toNat :=
    List.mem_map_of_mem member
  rw [map_toNat_storedQuad (by omega)] at asNat
  simp only [restartIndex, closedQuad, List.mem_cons, List.not_mem_nil,
    or_false, UInt16.reduceToNat] at asNat
  omega

/-- A strip holds no restart value. -/
theorem restartIndex_not_mem_decodeStrips
    {indices strip : List UInt16}
    (member : strip ∈ decodeStrips indices) :
    restartIndex ∉ strip :=
  Delimited.not_mem_of_mem_decode (List.mem_filter.mp member).1

/--
The vertices of a rectangle stand behind those of the rectangles before it.
-/
theorem vertices_at_rectangle
    (i : UInt32)
    {rectangle rectangles : Nat}
    (below : rectangle < rectangles) :
    ∃ later,
      (lineList i rectangles).vertices =
        (lineList i rectangle).vertices ++ quad i ++ later := by
  obtain ⟨rest, rfl⟩ := Nat.exists_eq_add_of_lt below
  refine ⟨(List.replicate rest (quad i)).flatten, ?_⟩
  have split :
      List.replicate (rectangle + rest + 1) (quad i) =
        List.replicate rectangle (quad i) ++
          quad i :: List.replicate rest (quad i) := by
    rw [← List.replicate_succ, List.replicate_append_replicate,
      Nat.add_assoc]
  rw [vertices_lineList, vertices_lineList, split]
  simp

/-- Up to 16383 rectangles come back from what was stored. -/
theorem lineStripRoundTrip_of_le
    (i : UInt32)
    {rectangles : Nat}
    (few : rectangles ≤ 16383) :
    LineStripRoundTrip i rectangles (lineList i rectangles) where
  strips := by
    have absent :
        ∀ block ∈ (List.range rectangles).map storedQuad,
          restartIndex ∉ block := by
      intro block member
      obtain ⟨rectangle, inRange, rfl⟩ := List.mem_map.mp member
      apply restartIndex_not_mem_storedQuad
      exact Nat.lt_of_lt_of_le (List.mem_range.mp inRange) few
    have nonempty :
        ((List.range rectangles).map storedQuad).filter (· ≠ []) =
          (List.range rectangles).map storedQuad := by
      rw [List.filter_eq_self]
      intro block member
      obtain ⟨rectangle, -, rfl⟩ := List.mem_map.mp member
      simp [storedQuad, closedQuad]
    rw [decodeStrips, indices_lineList, Delimited.decode_encode absent,
      nonempty, List.map_map]
    apply List.map_congr_left
    intro rectangle inRange
    have below := List.mem_range.mp inRange
    exact map_toNat_storedQuad (by omega)
  positions := fun _ below =>
    (vertices_at_rectangle i below).imp fun _ shape => ⟨shape, by simp⟩

/-- Past 16383 rectangles one outline would have to hold the restart value. -/
theorem LineStripRoundTrip.le
    {i : UInt32}
    {rectangles : Nat}
    {lists : LineList}
    (roundTrip : LineStripRoundTrip i rectangles lists) :
    rectangles ≤ 16383 := by
  by_contra many
  have expected :
      closedQuad 16383 ∈
        (decodeStrips lists.indices).map (List.map UInt16.toNat) := by
    rw [roundTrip.strips]
    exact List.mem_map_of_mem (List.mem_range.mpr (by omega))
  obtain ⟨strip, inStrips, stripShape⟩ := List.mem_map.mp expected
  have lastCorner : 65535 ∈ strip.map UInt16.toNat := by
    rw [stripShape]
    decide
  obtain ⟨index, inStrip, indexShape⟩ := List.mem_map.mp lastCorner
  have isRestart : index = restartIndex :=
    UInt16.toNat_inj.mp indexShape
  exact restartIndex_not_mem_decodeStrips inStrips (isRestart ▸ inStrip)

/--
For every list and every number of rectangles the loop counter allows, the
loop of `Init` returns, and what it stored decodes to the outlines it was given
exactly when there are at most 16383 of them.
-/
theorem initLoop_roundTrip_iff
    (i : Fin 4)
    (rectangles : Nat)
    (bounded : 4 * rectangles < 2 ^ 32) :
    ∃ lists,
      Loop.Returns
          (initTurn (UInt32.ofNat i) (UInt32.ofNat (4 * rectangles)))
          InitLoop.start lists ∧
        (LineStripRoundTrip (UInt32.ofNat i) rectangles lists ↔
          rectangles ≤ 16383) :=
  ⟨lineList (UInt32.ofNat i) rectangles, initLoop_returns _ bounded,
    LineStripRoundTrip.le, lineStripRoundTrip_of_le _⟩

/-- Sixteen rectangles of the last list, from the loop of the source. -/
theorem initLoop_roundTrip_sixteen :
    ∃ lists,
      Loop.Returns (initTurn 3 64) InitLoop.start lists ∧
        LineStripRoundTrip 3 16 lists := by
  obtain ⟨lists, returned, roundTrip⟩ :=
    initLoop_roundTrip_iff 3 16 (by decide)
  exact ⟨lists, returned, roundTrip.mpr (by decide)⟩

/-- The 250000 rectangles of `Init` do not come back. -/
theorem not_lineStripRoundTrip_init :
    ∃ lists,
      Loop.Returns (initTurn 0 1000000) InitLoop.start lists ∧
        ¬ LineStripRoundTrip 0 250000 lists := by
  have returned :=
    initLoop_returns 0 (show 4 * 250000 < 2 ^ 32 by decide)
  refine ⟨lineList 0 250000, returned, ?_⟩
  intro roundTrip
  have few := roundTrip.le
  omega

end Teck
