import Teck.Def

namespace Teck

/-!
# Components

The component structures that entities can hold, with every field the sources
declare.
-/

/-- Where an entity is. -/
@[ext] structure TcTransform2d (K : Type) where
  position : V2 K
  angle : K
  scale : K
  deriving DecidableEq, Repr

/-- How an entity moves in each round. -/
@[ext] structure TcPhysics2d (K : Type) where
  velocity : V2 K
  angularVelocity : K
  deriving DecidableEq, Repr

/-- The shapes of `tcShape2D`. -/
inductive EShape2DType where
  | rect
  | circle
  | triangle
  deriving DecidableEq, Repr

/-- `tcRect`, with the `Type` field it inherits from `tcShape2D`. -/
@[ext] structure TcRect (K : Type) where
  type : EShape2DType
  dimensions : V2 K
  deriving DecidableEq, Repr

end Teck
