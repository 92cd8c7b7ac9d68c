import Telemetry.Diagnostic

/-!
# Buckets

A histogram counts numbers in buckets, which are separated by bounds `b₀ < b₁ < …`, positive finite
doubles. Bucket 0 takes the numbers up to `b₀`, bucket `i` those above `bᵢ₋₁` up to `bᵢ`, and one bucket
more takes the rest. The bucket of a number is found by bisection.
-/

namespace Telemetry

/-- Whether a double may be a bound. -/
def isBound (b : Float) : Bool := b.isFinite && 0 < b

/-- Drops every number that equals the one before it. -/
def dropRepeats : List Float → List Float
  | [] => []
  | [b] => [b]
  | b :: c :: rest => if b == c then dropRepeats (c :: rest) else b :: dropRepeats (c :: rest)

/-- The bounds of buckets. -/
structure Buckets where
  /-- The bounds, strictly increasing, positive and finite. -/
  bounds : Array Float
  deriving DecidableEq

namespace Buckets

/-- The bounds among the given doubles, in order and each once. -/
def normalize (given : List Float) : List Float :=
  dropRepeats ((given.filter isBound).mergeSort fun a b => a ≤ b)

/-- The buckets with the given bounds. What is no bound, or is given twice, is dropped and reported. -/
def ofBounds (given : List Float) : Buckets × List Diagnostic :=
  let kept := normalize given
  (⟨kept.toArray⟩,
    if kept.length = given.length then []
    else [.boundsNormalized (given.length - kept.length) kept.length])

/-- The number of buckets. -/
def count (b : Buckets) : Nat := b.bounds.size + 1

/-- The least index from `low` on at which `p` is false, up to `high`, if `p` is true before it and false
after it. -/
def bisect (p : Nat → Bool) (low high : Nat) : Nat :=
  if low < high then
    let middle := low + (high - low) / 2
    if p middle then bisect p (middle + 1) high else bisect p low middle
  else low
termination_by high - low

/-- The bucket of `x`: the number of bounds below `x`. -/
def index (b : Buckets) (x : Float) : Nat :=
  bisect (fun i => b.bounds.getD i 0 < x) 0 b.bounds.size

theorem bisect_le {p : Nat → Bool} {low high : Nat} (h : low ≤ high) :
    bisect p low high ≤ high := by
  fun_induction bisect p low high with
  | case1 low high hlt middle hp ih => exact ih (by omega)
  | case2 low high hlt middle hp ih => exact Nat.le_trans (ih (by omega)) (by omega)
  | case3 low high hlt => exact h

/-- **Every double has a bucket**, also one that is no number. -/
theorem index_lt_count (b : Buckets) (x : Float) : b.index x < b.count :=
  Nat.lt_succ_of_le (bisect_le (Nat.zero_le _))

end Buckets

end Telemetry
