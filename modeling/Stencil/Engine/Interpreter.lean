import Stencil.Engine.Filter
import Stencil.Engine.Statement

/-!
# The interpreter

The evaluators are tied together here. Each passage through the interpreter takes one unit of fuel, so that a
template that would run forever ends in a fault of its own.
-/

set_option autoImplicit false

namespace Stencil.Engine

def stage (I : Interp) : Interp where
  nodes := runAll I
  call := callValue I
  next := nextValue I
  drain := drainIter I
  seek := seekIter I
  body := runMacroBody I
  turns := runTurns I
  template := runTemplate I
  block := runBlockFn I
  filter := applyFilter I
  tag := runTag I
  render := renderSource I
  sought env template _ := soughtTemplate I env template

def interp : Nat → Interp := tied stage

end Stencil.Engine
