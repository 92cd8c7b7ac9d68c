/-!
# Attach stacks

The value that is current on a thread, and those that it replaced. Attaching a value makes it current and
gives the position under which it can be detached again. Values may be detached in any order: one that is
not current leaves a released entry in the stack, and detaching the current value restores the nearest
value below that has not been released.

Entry `p` of the stack holds the value of position `p`, the one at position 0 being the base value, which
is never detached. The current value has the position that follows the entries.
-/

namespace Telemetry

/-- No position reaches this number. -/
def maxAttachPosition : Nat := 65535

/-- The current value and the values below it. -/
structure AttachStack (α : Type u) where
  /-- The current value. -/
  current : α
  /-- The values below, the oldest first; `none` where one was released. -/
  below : Array (Option α)

namespace AttachStack

variable {α : Type u}

/-- The stack with only the base value. -/
def base (a : α) : AttachStack α := ⟨a, #[]⟩

instance [Inhabited α] : Inhabited (AttachStack α) := ⟨base default⟩

/-- Makes `a` current and gives its position, unless the stack is full. -/
def attach (s : AttachStack α) (a : α) : Option Nat × AttachStack α :=
  if s.below.size + 1 < maxAttachPosition then
    (some (s.below.size + 1), ⟨a, s.below.push (some s.current)⟩)
  else (none, s)

/-- Makes the nearest value that has not been released current. -/
def restore (s : AttachStack α) : AttachStack α :=
  let kept := s.below.popWhile Option.isNone
  match kept.back? with
  | some (some a) => ⟨a, kept.pop⟩
  | _ => ⟨s.current, kept⟩

/-- Detaches the value at `position`; `none` if no value has that position. The base value is not
detached. -/
def detach? (s : AttachStack α) (position : Nat) : Option (AttachStack α) :=
  if position = 0 then some s
  else if position = s.below.size then some s.restore
  else if position < s.below.size then some ⟨s.current, s.below.setIfInBounds position none⟩
  else none

end AttachStack

end Telemetry
