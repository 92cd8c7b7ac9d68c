/-!
# Points in time

Times are only compared and passed on, so a point in time is a count of ticks of some clock.
-/

namespace Telemetry

/-- A point in time. -/
structure Timestamp where
  /-- The ticks since the origin of the clock. -/
  ticks : Int
  deriving DecidableEq, Repr, Inhabited

namespace Timestamp

/-- The later of two points in time. -/
def later (a b : Timestamp) : Timestamp := if a.ticks ≤ b.ticks then b else a

theorem le_later_right (a b : Timestamp) : b.ticks ≤ (later a b).ticks := by
  unfold later
  split <;> omega

end Timestamp

end Telemetry
