import Mathlib.Algebra.Group.Basic
import Mathlib.Algebra.Group.Nat.Defs

namespace Teck

/-!
# Basic types

The scalar, vector and status definitions of `core/def.h`.  Vectors are generic
in their coordinates: each result states which laws of arithmetic it needs, so
exact coordinates satisfy them all and single-precision ones only some.
-/

/-- A two-dimensional vector, `v2 = glm::vec2`. -/
@[ext] structure V2 (K : Type) where
  x : K
  y : K
  deriving DecidableEq, Repr

/-- A three-dimensional vector, `v3 = glm::vec3`. -/
@[ext] structure V3 (K : Type) where
  x : K
  y : K
  z : K
  deriving DecidableEq, Repr

namespace V2

variable {K : Type}

instance [Zero K] : Zero (V2 K) := ⟨⟨0, 0⟩⟩

instance [Add K] : Add (V2 K) :=
  ⟨fun first second => ⟨first.x + second.x, first.y + second.y⟩⟩

/-- `v2::operator*` with a number. -/
def scale [Mul K] (vector : V2 K) (factor : K) : V2 K :=
  ⟨vector.x * factor, vector.y * factor⟩

/-- `v2::operator/`, coordinate by coordinate. -/
def divide [Div K] (vector : V2 K) (divisor : K) : V2 K :=
  ⟨vector.x / divisor, vector.y / divisor⟩

/-- Addition of vectors commutes where that of coordinates does. -/
theorem add_swap [AddCommMagma K] (first second : V2 K) :
    first + second = second + first :=
  V2.ext (add_comm first.x second.x) (add_comm first.y second.y)

instance [AddMonoid K] : AddMonoid (V2 K) where
  add_assoc _ _ _ := V2.ext (add_assoc _ _ _) (add_assoc _ _ _)
  zero_add _ := V2.ext (zero_add _) (zero_add _)
  add_zero _ := V2.ext (add_zero _) (add_zero _)
  nsmul count vector := ⟨count • vector.x, count • vector.y⟩
  nsmul_zero _ := V2.ext (zero_nsmul _) (zero_nsmul _)
  nsmul_succ _ _ := V2.ext (succ_nsmul _ _) (succ_nsmul _ _)

end V2

/-- `TK_SUCCESS`, what `Init` and `Run` answer. -/
def tkSuccess : Int := 0

/-- `TK_EXIT_SUCCESS`, what the main loop answers. -/
def tkExitSuccess : Int := 0

/-- `TK_EXIT_FAILURE`, what `TK_ATTEMPT` answers for anything else. -/
def tkExitFailure : Int := 1

/-- `TK_ATTEMPT` in front of the rest of a function. -/
def tkAttempt (status rest : Int) : Int :=
  if status ≠ tkExitSuccess then tkExitFailure else rest

/-- Converting to `u16` keeps the low sixteen bits. -/
def toU16 (value : UInt32) : UInt16 := value.toUInt16

/-- Converting a `size_t` argument to a `uint32_t` parameter. -/
def toU32 (value : Nat) : Nat := value % 2 ^ 32

/-- The size of an element of the index lists. -/
def sizeofU16 : Nat := 2

/-- `sizeof(v2)`: two `f32` coordinates. -/
def sizeofV2 : Nat := 8

end Teck
