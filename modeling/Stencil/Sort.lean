/-!
# Sorting by insertion

A stable sort whose comparisons may fail or have effects. The run that the list starts with is kept, or turned round
if it falls; each further item is put at the place that halving finds, behind everything that is not greater.
-/

set_option autoImplicit false

namespace Stencil

section Sorting

variable {m : Type → Type} [Monad m] {α : Type}

def runLength (less : α → α → m Bool) (falls : Bool) (x : α) : List α → m Nat
  | [] => pure 0
  | y :: rest => do
    if (← less y x) == falls then return (← runLength less falls y rest) + 1 else return 0

def firstRun (less : α → α → m Bool) : List α → m (List α × List α)
  | x :: y :: rest => do
    let falls ← less y x
    let n := (← runLength less falls y rest) + 2
    let run := (x :: y :: rest).take n
    return (if falls then run.reverse else run, (x :: y :: rest).drop n)
  | xs => pure (xs, [])

def findPlace (less : α → α → m Bool) (x : α) (sorted : Array α) : Nat → Nat → Nat → m Nat
  | 0, low, _ => pure low
  | fuel + 1, low, high =>
    if low < high then
      let middle := low + (high - low) / 2
      match sorted[middle]? with
      | none => pure low
      | some y => do
        if ← less x y then findPlace less x sorted fuel low middle
        else findPlace less x sorted fuel (middle + 1) high
    else pure low

def insertSorted (less : α → α → m Bool) (sorted : Array α) (x : α) : m (Array α) := do
  let place ← findPlace less x sorted (sorted.size + 1) 0 sorted.size
  return sorted.insertIdxIfInBounds place x

def sortM (less : α → α → m Bool) (xs : List α) : m (List α) := do
  let (run, rest) ← firstRun less xs
  let sorted ← rest.foldlM (insertSorted less) run.toArray
  return sorted.toList

end Sorting

end Stencil
