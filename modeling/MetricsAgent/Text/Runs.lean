/-!
# Runs of numbers

A set of numbers given by the first and last members of its runs, in ascending order, and searched
by halving.
-/

namespace MetricsAgent

/-- First and last members of runs, in ascending order. -/
abbrev Runs := Array (Nat × Nat)

namespace Runs

/-- The index of the last run in `[low, high)` that begins at or before a number, if there is one;
otherwise `low`. -/
def index (runs : Runs) (n : Nat) : Nat → Nat → Nat → Nat
  | 0, low, _ => low
  | fuel + 1, low, high =>
    if high ≤ low + 1 then low
    else
      let mid := (low + high) / 2
      match runs[mid]? with
      | some (first, _) =>
        if first ≤ n then runs.index n fuel mid high else runs.index n fuel low mid
      | none => low

/-- Whether a number lies in a run. -/
def contains (runs : Runs) (n : Nat) : Bool :=
  match runs[runs.index n 12 0 runs.size]? with
  | some (first, last) => first ≤ n && n ≤ last
  | none => false

end Runs

end MetricsAgent
