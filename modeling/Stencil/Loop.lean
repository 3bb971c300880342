import Stencil.Text.Basic

/-!
# Loop frames

A frame tells a loop body where it is: how many items there are, how many loops are open, and which item is the current
one.  Before the first item the iteration is zero.
-/

namespace Stencil

/-- The state of one loop; `parent` is the number of the enclosing loop's frame. -/
structure Frame where
  count : Nat
  depth : Nat
  iteration : Nat := 0
  parent : Option Nat := none
  deriving DecidableEq, Repr, Inhabited

namespace Frame

/-- Moves on by several items. -/
def skip (n : Nat) (f : Frame) : Frame := { f with iteration := f.iteration + n }

/-- Moves to the next item. -/
def advance (f : Frame) : Frame := f.skip 1

/-- The position of the current item, from zero. -/
def index (f : Frame) : Nat := f.iteration - 1

/-- The number of items that are still to come; negative behind the end. -/
def remaining (f : Frame) : Int := (f.count : Int) - f.iteration

/-- The current item is the first one. -/
def first (f : Frame) : Bool := f.iteration == 1

/-- The current item is the last one. -/
def last (f : Frame) : Bool := f.iteration != 0 && f.iteration == f.count

/-- The iteration is an odd number. -/
def odd (f : Frame) : Bool := f.iteration % 2 == 1

/-- The iteration is an even number. -/
def even (f : Frame) : Bool := f.iteration % 2 == 0

end Frame
end Stencil
