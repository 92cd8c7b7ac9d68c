import Telemetry.OrderedMap
import Telemetry.Stats.Buckets
import Telemetry.Time

/-!
# Distributions

What is known about the numbers recorded so far: how many they are, their mean, the sum of the squares of
their deviations from the mean, the least and the greatest, and a histogram. Of equal numbers, such as
the two zeros, the latest counts as the least and as the greatest.

Mean and deviation are kept up to date number by number: with the `n`-th number `x` and
`δ = x - mean`, the mean grows by `δ / n` and the deviation by `δ · (x - mean)` with the new mean.

A bucket of the histogram may have an exemplar, the latest number in it that came with attachments.
-/

namespace Telemetry

/-- Number, mean and squared deviation of the numbers so far. -/
structure Moments (α : Type u) where
  /-- How many numbers there were. -/
  count : Nat
  /-- Their mean. -/
  mean : α
  /-- The sum of the squares of their deviations from the mean. -/
  deviation : α
  deriving DecidableEq

namespace Moments

variable {α : Type u} [Add α] [Sub α] [Mul α] [Div α]

/-- Takes one more number into account; `cast` gives whole numbers as numbers of the type. -/
def add (cast : Nat → α) (m : Moments α) (x : α) : Moments α :=
  let delta := x - m.mean
  let count := m.count + 1
  let mean := m.mean + delta / cast count
  ⟨count, mean, m.deviation + delta * (x - mean)⟩

/-- The sum of the numbers. -/
def sum (cast : Nat → α) (m : Moments α) : α := m.mean * cast m.count

/-- The variance of the numbers as a sample. -/
def variance (cast : Nat → α) (m : Moments α) : α := m.deviation / cast (max (m.count - 1) 1)

end Moments

/-- Remarks on a recording, by key. -/
abbrev Attachments := OrderedMap String String

/-- A recorded number with the remarks on it. -/
structure Exemplar where
  /-- The number. -/
  value : Float
  /-- When it was recorded. -/
  time : Timestamp
  /-- The remarks. -/
  attachments : Attachments
  deriving DecidableEq

/-- What is known about the numbers recorded so far. -/
structure Distribution where
  /-- Number, mean and squared deviation. -/
  moments : Moments Float
  /-- The least number, infinite if there is none. -/
  least : Float
  /-- The greatest number, negative infinite if there is none. -/
  greatest : Float
  /-- The buckets of the histogram. -/
  buckets : Buckets
  /-- How many numbers are in each bucket. -/
  counts : Array Nat
  /-- The exemplar of each bucket. -/
  exemplars : Array (Option Exemplar)
  deriving DecidableEq

namespace Distribution

/-- What is known when nothing was recorded. -/
def empty (buckets : Buckets) : Distribution where
  moments := ⟨0, 0, 0⟩
  least := 1 / 0
  greatest := -1 / 0
  buckets := buckets
  counts := Array.replicate buckets.count 0
  exemplars := Array.replicate buckets.count none

/-- Takes one more number into account. -/
def add (d : Distribution) (x : Float) (time : Timestamp) (attachments : Attachments) :
    Distribution :=
  let bucket := d.buckets.index x
  { d with
    moments := d.moments.add Float.ofNat x
    least := if x ≤ d.least then x else d.least
    greatest := if d.greatest ≤ x then x else d.greatest
    counts := d.counts.modify bucket (· + 1)
    exemplars :=
      if attachments.isEmpty then d.exemplars
      else d.exemplars.setIfInBounds bucket (some ⟨x, time, attachments⟩) }

/-- The sum of the numbers. -/
def sum (d : Distribution) : Float := d.moments.sum Float.ofNat

/-- The variance of the numbers as a sample. -/
def variance (d : Distribution) : Float := d.moments.variance Float.ofNat

end Distribution

end Telemetry
