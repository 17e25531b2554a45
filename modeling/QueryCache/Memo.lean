import QueryCache.Version
/-!
# Remembered derivations

A value derived from cached data is computed anew only when one of its inputs was replaced
by another version.  Versions are told apart by their stamps, so equal data in a new version
counts as new.

Every computation has a number, and `Derived` carries it: two answers with one number are one
and the same output.
-/

namespace QueryCache

/-- An output with the number of the computation that made it. -/
structure Derived (β : Type) where
  serial : Nat
  value : β

/-- The last output and the stamps of the inputs it was made from. -/
structure Memo (β : Type) where
  last : Option (List Nat × Derived β)
  computations : Nat

namespace Memo

variable {β : Type}

def empty : Memo β := ⟨none, 0⟩

/-- Computes the output anew and remembers it. -/
def recompute (m : Memo β) (compute : List Json → β) (inputs : List Version) :
    Derived β × Memo β :=
  let output := ⟨m.computations + 1, compute (inputs.map Version.value)⟩
  (output, ⟨some (inputs.map Version.stamp, output), m.computations + 1⟩)

/-- The output for these inputs; none while an input is missing. -/
def select (m : Memo β) (compute : List Json → β) (inputs : List (Option Version)) :
    Option (Derived β) × Memo β :=
  match inputs.mapM id with
  | none => (none, m)
  | some inputs => match m.last with
    | some (stamps, output) =>
      if stamps = inputs.map Version.stamp then (some output, m)
      else
        let (output, m) := m.recompute compute inputs
        (some output, m)
    | none =>
      let (output, m) := m.recompute compute inputs
      (some output, m)

end Memo

end QueryCache
