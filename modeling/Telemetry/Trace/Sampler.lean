import Telemetry.Trace.Error

/-!
# Samplers

A sampler decides for each new trace whether it is kept. The probability sampler looks at the low 64 bits
of the trace identifier only, so that every process comes to the same decision: of these it takes the
upper 63 bits, and keeps the trace if they are below `p · 2 ^ 63`. A fraction of one or more keeps every
trace, and one that is not positive keeps none.
-/

namespace Telemetry

/-- Whether the probability sampler with the fraction `p` keeps a trace. -/
def TraceId.isSampledAt (id : TraceId) (p : Float) : Bool :=
  match Numeral.Binary64.ofFloat p with
  | .nan => false
  | .infinite negative => !negative
  | .finite negative significand exponent =>
    !negative &&
      id.toNat % Nat.pow 2 64 / 2 < Numeral.Binary64.wholePart significand (exponent + 63)

/-- How traces are chosen. -/
inductive Sampler where
  /-- Every trace is kept. -/
  | always
  /-- No trace is kept. -/
  | never
  /-- About the given fraction of the traces is kept. -/
  | probability (p : Float)
  /-- A rule of the application decides. -/
  | rule (keeps : TraceId → SpanId → String → Bool)

namespace Sampler

/-- The sampler of a tracer that is given none. -/
def standard : Sampler := .probability 0.0001

instance : Inhabited Sampler := ⟨standard⟩

/-- The probability sampler with the fraction `p`, which must be positive and at most one. -/
def ofProbability (p : Float) : Except TraceError Sampler :=
  if 0 < p ∧ p ≤ 1 then .ok (.probability p) else .error (.invalidArgument (.badProbability p))

/-- Whether the trace `traceId` is kept, whose first span has the identifier `spanId` and the given
name. -/
def keeps : Sampler → TraceId → SpanId → String → Bool
  | .always, _, _, _ => true
  | .never, _, _, _ => false
  | .probability p, traceId, _, _ => traceId.isSampledAt p
  | .rule f, traceId, spanId, name => f traceId spanId name

end Sampler

end Telemetry
