import Mathlib.Algebra.Group.Nat.Defs
import Mathlib.Data.Nat.Basic

namespace Teck.Dawn

/-!
# 64-bit sums and alignment

Sums and differences of `uint64_t` values wrap around at `2^64`.  `Align` of
the vendored library adds the alignment less one and clears the low bits.  For
a power of two, and a sum below `2^64` as the source asserts, this rounds up to
the next multiple.
-/

/-- The sum of two `uint64_t` values. -/
def add64 (first second : Nat) : Nat :=
  (first + second) % 2 ^ 64

/-- The difference of two `uint64_t` values. -/
def sub64 (first second : Nat) : Nat :=
  (2 ^ 64 + first - second) % 2 ^ 64

/-- A sum that fits the word is the sum of the numbers. -/
theorem add64_eq
    {first second : Nat}
    (inWord : first + second < 2 ^ 64) :
    add64 first second = first + second :=
  Nat.mod_eq_of_lt inWord

/-- A difference that does not go below zero is that of the numbers. -/
theorem sub64_eq
    {first second : Nat}
    (inWord : first < 2 ^ 64)
    (below : second ≤ first) :
    sub64 first second = first - second := by
  have shape : 2 ^ 64 + first - second = 2 ^ 64 + (first - second) :=
    Nat.add_sub_assoc below (2 ^ 64)
  rw [sub64, shape, Nat.add_mod_left]
  exact Nat.mod_eq_of_lt (lt_of_le_of_lt (Nat.sub_le _ _) inWord)

/-- `(value + (alignment - 1)) & ~(alignment - 1)` on `uint64_t`. -/
def align (value alignment : Nat) : Nat :=
  (value + (alignment - 1)) &&& (2 ^ 64 - 1 - (alignment - 1))

/-- What `Align` asserts about its arguments. -/
structure Alignable (value alignment : Nat) : Prop where
  powerOfTwo : ∃ exponent, alignment = 2 ^ exponent
  noOverflow : value + (alignment - 1) < 2 ^ 64

/-- Masking with all bits from `exponent` on rounds down to its power. -/
theorem and_clearLow
    {value exponent : Nat}
    (small : value < 2 ^ 64)
    (inWord : exponent ≤ 64) :
    value &&& (2 ^ 64 - 1 - (2 ^ exponent - 1)) =
      value / 2 ^ exponent * 2 ^ exponent := by
  have positive : 0 < 2 ^ exponent := Nat.two_pow_pos exponent
  have bounded : 2 ^ exponent ≤ 2 ^ 64 :=
    Nat.pow_le_pow_right (by simp) inWord
  have mask :
      2 ^ 64 - 1 - (2 ^ exponent - 1) = 2 ^ 64 - (2 ^ exponent - 1 + 1) := by
    omega
  rw [mask, ← Nat.shiftRight_eq_div_pow, ← Nat.shiftLeft_eq]
  apply Nat.eq_of_testBit_eq
  intro bit
  rw [Nat.testBit_and, Nat.testBit_two_pow_sub_succ (by omega),
    Nat.testBit_two_pow_sub_one, Nat.testBit_shiftLeft,
    Nat.testBit_shiftRight]
  by_cases high : exponent ≤ bit
  · by_cases inside : bit < 64
    · simp [high, inside]
    · have clear : value.testBit bit = false :=
        Nat.testBit_lt_two_pow
          (lt_of_lt_of_le small
            (Nat.pow_le_pow_right (by simp) (not_lt.mp inside)))
      simp [high, clear]
  · have low : bit < exponent := not_le.mp high
    simp [high, low]

namespace Alignable

variable {value alignment : Nat}

/-- An alignment is a power of two. -/
theorem positive (alignable : Alignable value alignment) :
    0 < alignment := by
  obtain ⟨exponent, rfl⟩ := alignable.powerOfTwo
  exact Nat.two_pow_pos exponent

/-- Where nothing wraps, the bit operations round up to a multiple. -/
theorem align_eq (alignable : Alignable value alignment) :
    align value alignment =
      (value + (alignment - 1)) / alignment * alignment := by
  have room := alignable.noOverflow
  obtain ⟨exponent, rfl⟩ := alignable.powerOfTwo
  refine and_clearLow room ?_
  by_contra tooLarge
  have bits : 2 ^ 65 ≤ 2 ^ exponent :=
    Nat.pow_le_pow_right (by simp) (not_le.mp tooLarge)
  omega

/-- An aligned value is a multiple of the alignment. -/
theorem dvd_align (alignable : Alignable value alignment) :
    alignment ∣ align value alignment := by
  rw [alignable.align_eq]
  exact Nat.dvd_mul_left _ _

/-- Aligning goes up. -/
theorem le_align (alignable : Alignable value alignment) :
    value ≤ align value alignment := by
  have shape := Nat.div_add_mod (value + (alignment - 1)) alignment
  have small := Nat.mod_lt (value + (alignment - 1)) alignable.positive
  rw [alignable.align_eq, Nat.mul_comm]
  omega

/-- Aligning goes up by less than the alignment. -/
theorem align_lt (alignable : Alignable value alignment) :
    align value alignment < value + alignment := by
  have positive := alignable.positive
  have below := Nat.div_mul_le_self (value + (alignment - 1)) alignment
  rw [alignable.align_eq]
  omega

/-- A multiple of the alignment stays where it is. -/
theorem align_eq_self
    (alignable : Alignable value alignment)
    (aligned : alignment ∣ value) :
    align value alignment = value := by
  have low := alignable.le_align
  have high := alignable.align_lt
  have apart := Nat.dvd_sub alignable.dvd_align aligned
  have none := Nat.eq_zero_of_dvd_of_lt apart (by omega)
  omega

end Alignable

/-- Every value in a word can be aligned to one. -/
theorem alignable_one
    {value : Nat}
    (inWord : value < 2 ^ 64) :
    Alignable value 1 where
  powerOfTwo := ⟨0, rfl⟩
  noOverflow := by simpa using inWord

end Teck.Dawn
