import Mathlib.Data.List.Basic

namespace Delivery

/-!
# Delivery in order

Messages that were sent wait in a line, are collected from it into transit and
are delivered; at the end the line may be dropped.  `InOrder` says that none of
this changes their order.  Each way in which a message moves on has a rule that
keeps it, and what was delivered is then always an initial part of what was
sent.
-/

variable {Message : Type*}

/-- What was sent was delivered, is in transit, waits or was dropped. -/
def InOrder
    (sent delivered transit waiting dropped : List Message) : Prop :=
  sent = delivered ++ transit ++ waiting ++ dropped

namespace InOrder

variable
  {sent delivered transit waiting dropped : List Message}
  {message : Message}

/-- Nothing was sent. -/
theorem nil : InOrder ([] : List Message) [] [] [] [] :=
  rfl

/-- A message is sent to the end of the line. -/
theorem send
    (order : InOrder sent delivered transit waiting []) :
    InOrder (sent ++ [message]) delivered transit (waiting ++ [message])
      [] := by
  rw [InOrder] at order ⊢
  simp [order]

/-- A message that is sent after the line was dropped. -/
theorem send_dropped
    (order : InOrder sent delivered transit [] dropped) :
    InOrder (sent ++ [message]) delivered transit []
      (dropped ++ [message]) := by
  rw [InOrder] at order ⊢
  simp [order]

/-- Messages are collected from the front of the line. -/
theorem collect
    (order : InOrder sent delivered transit waiting dropped)
    {taken kept : List Message}
    (split : waiting = taken ++ kept) :
    InOrder sent delivered (transit ++ taken) kept dropped := by
  rw [InOrder] at order ⊢
  simp [order, split]

/-- The first message in transit is delivered. -/
theorem deliver
    (order :
      InOrder sent delivered (message :: transit) waiting dropped) :
    InOrder sent (delivered ++ [message]) transit waiting dropped := by
  rw [InOrder] at order ⊢
  simp [order]

/-- The line is dropped. -/
theorem drop
    (order : InOrder sent delivered transit waiting dropped) :
    InOrder sent delivered transit [] (waiting ++ dropped) := by
  rw [InOrder] at order ⊢
  simp [order]

/-- What was delivered is an initial part of what was sent. -/
theorem delivered_prefix
    (order : InOrder sent delivered transit waiting dropped) :
    delivered <+: sent := by
  rw [InOrder] at order
  rw [order, List.append_assoc, List.append_assoc]
  exact List.prefix_append ..

/-- A message in transit or in line has not been delivered. -/
theorem not_delivered_of_transit
    (order : InOrder sent delivered transit waiting dropped)
    (distinct : sent.Nodup)
    (moving : message ∈ transit) :
    message ∉ delivered := by
  rw [order, List.append_assoc, List.append_assoc] at distinct
  intro arrived
  exact
    (List.nodup_append.mp distinct).2.2 message arrived message
      (List.mem_append_left _ moving) rfl

end InOrder

/--
When a message is ready only if those before it are, collecting the ready ones
splits the line.
-/
theorem filter_append_filter_not
    {ready : Message → Bool}
    {line : List Message}
    (closed :
      line.Pairwise fun earlier later =>
        ready later = true → ready earlier = true) :
    line = line.filter ready ++ line.filter fun message => !ready message := by
  induction line with
  | nil =>
      rfl
  | cons first rest inductionHypothesis =>
      obtain ⟨ahead, restClosed⟩ := List.pairwise_cons.mp closed
      cases firstReady : ready first with
      | true =>
          rw [List.filter_cons_of_pos firstReady,
            List.filter_cons_of_neg (by simp [firstReady]),
            List.cons_append, ← inductionHypothesis restClosed]
      | false =>
          have noneReady : ∀ message ∈ rest, ready message = false := by
            intro message member
            by_contra isReady
            rw [Bool.not_eq_false] at isReady
            rw [ahead message member isReady] at firstReady
            cases firstReady
          rw [List.filter_eq_nil_iff.mpr, List.nil_append,
            List.filter_eq_self.mpr]
          · intro message member
            rcases List.mem_cons.mp member with rfl | inRest
            · simp [firstReady]
            · simp [noneReady message inRest]
          · intro message member
            rcases List.mem_cons.mp member with rfl | inRest
            · simp [firstReady]
            · simp [noneReady message inRest]

/-- Of several loads in transit only one is not empty. -/
def Alone (loads : List (List Message)) (index : Nat) : Prop :=
  ∀ other, other ≠ index → loads.getD other [] = []

/-- The only load in transit is all that is in transit. -/
theorem Alone.flatten
    {loads : List (List Message)}
    {index : Nat}
    (alone : Alone loads index) :
    loads.flatten = loads.getD index [] := by
  induction loads generalizing index with
  | nil =>
      rfl
  | cons first rest inductionHypothesis =>
      cases index with
      | zero =>
          have restEmpty : ∀ load ∈ rest, load = [] := by
            intro load member
            obtain ⟨other, inside, rfl⟩ := List.getElem_of_mem member
            have nothing := alone (other + 1) (Nat.succ_ne_zero other)
            simpa [inside] using nothing
          rw [List.flatten_cons, List.flatten_eq_nil_iff.mpr restEmpty]
          simp
      | succ index =>
          have firstEmpty : first = [] := by
            simpa using alone 0 (Nat.succ_ne_zero index).symm
          have restAlone : Alone rest index := by
            intro other different
            simpa using alone (other + 1) (by simpa using different)
          rw [List.flatten_cons, firstEmpty, inductionHypothesis restAlone]
          simp

namespace Alone

variable {loads : List (List Message)} {index : Nat} {load : List Message}

/-- A load that is not empty is the one. -/
theorem eq_of_ne_nil
    (alone : Alone loads index)
    {other : Nat}
    (loaded : loads.getD other [] ≠ []) :
    other = index := by
  by_contra different
  exact loaded (alone other different)

/-- The one load may change. -/
theorem set
    (alone : Alone loads index) :
    Alone (loads.set index load) index := by
  intro other different
  have unchanged := alone other different
  rw [List.getD_eq_getElem?_getD] at unchanged ⊢
  rw [List.getElem?_set_ne (Ne.symm different), unchanged]

/-- A new load that is empty disturbs nothing. -/
theorem append_nil
    (alone : Alone loads index) :
    Alone (loads ++ [[]]) index := by
  intro other different
  have unchanged := alone other different
  rw [List.getD_eq_getElem?_getD] at unchanged ⊢
  rcases Nat.lt_trichotomy other loads.length with old | new | beyond
  · rw [List.getElem?_append_left old, unchanged]
  · rw [List.getElem?_append_right (Nat.le_of_eq new.symm), new]
    simp
  · rw [List.getElem?_eq_none]
    · rfl
    · simpa using Nat.succ_le_of_lt beyond

end Alone

/-- When nothing is in transit a new load is alone. -/
theorem alone_append
    {loads : List (List Message)}
    {load : List Message}
    (unloaded : loads.flatten = []) :
    Alone (loads ++ [load]) loads.length := by
  intro other different
  rw [List.getD_eq_getElem?_getD]
  rcases Nat.lt_trichotomy other loads.length with old | same | beyond
  · rw [List.getElem?_append_left old, List.getElem?_eq_getElem old]
    exact List.flatten_eq_nil_iff.mp unloaded _ (List.getElem_mem old)
  · exact absurd same different
  · rw [List.getElem?_eq_none]
    · rfl
    · simpa using Nat.succ_le_of_lt beyond

end Delivery
