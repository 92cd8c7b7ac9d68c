import Telemetry.Numeral.Shortest
import Telemetry.Text.Quoted
import Telemetry.Trace.Id

/-!
# Errors of tracing

Why an operation on identifiers, trace states, samplers or spans is refused, as a cause and in words.
-/

namespace Telemetry

/-- Why an argument is refused. -/
inductive TraceFault where
  /-- The text is no trace identifier. -/
  | badTraceId (text : String)
  /-- The text is no span identifier. -/
  | badSpanId (text : String)
  /-- One of two identifiers that must name something does not. -/
  | zeroId
  /-- The text is no key of a trace state. -/
  | badStateKey (text : String)
  /-- The text is no value of a trace state. -/
  | badStateValue (text : String)
  /-- The text is no member of a trace state. -/
  | badStateMember (text : String)
  /-- A trace state would have `count` members, of at most `limit`. -/
  | tooManyMembers (count limit : Nat)
  /-- A trace state would take more than `limit` bytes. -/
  | stateTooLong (limit : Nat)
  /-- The number is no probability of sampling. -/
  | badProbability (p : Float)
  /-- Another reason, in words. -/
  | other (reason : String)
  deriving DecidableEq

/-- The wording of the fault. -/
def TraceFault.message : TraceFault → String
  | .badTraceId text => "trace id must be 32 lowercase hex characters, got " ++ Text.quoted text
  | .badSpanId text => "span id must be 16 lowercase hex characters, got " ++ Text.quoted text
  | .zeroId => "trace id and span id must not be all zeros"
  | .badStateKey text =>
    Text.quoted text ++ " is not a valid key in TraceState, " ++
      "see https://www.w3.org/TR/trace-context/#key for more details"
  | .badStateValue text =>
    Text.quoted text ++ " is not a valid value in TraceState, " ++
      "see https://www.w3.org/TR/trace-context/#value for more details"
  | .badStateMember text => Text.quoted text ++ " is not a valid list member in TraceState"
  | .tooManyMembers count limit =>
    "tracestate has " ++ toString count ++ " members, at most " ++ toString limit ++ " are allowed"
  | .stateTooLong limit => "tracestate is longer than " ++ toString limit ++ " bytes"
  | .badProbability p => "sampling probability must be in (0, 1], got " ++ Numeral.floatText p
  | .other reason => reason

/-- Why an operation of tracing fails. -/
inductive TraceError where
  /-- An argument is refused. -/
  | invalidArgument (fault : TraceFault)
  /-- The span `ended` was ended while `abandoned` newer spans were open. -/
  | outOfOrderEnd (ended : SpanId) (abandoned : Nat)
  /-- Another reason, in words. -/
  | other (reason : String)
  deriving DecidableEq

/-- The wording of the error. -/
def TraceError.message : TraceError → String
  | .invalidArgument fault => "invalid argument: " ++ fault.message
  | .outOfOrderEnd ended abandoned =>
    "span " ++ ended.hex ++ " ended with " ++ toString abandoned ++ " newer span(s) still open"
  | .other reason => reason

/-- The trace identifier with the given 32 lowercase digits. -/
def TraceId.ofHex (s : String) : Except TraceError TraceId :=
  match ofHex? s with
  | some id => .ok id
  | .none => .error (.invalidArgument (.badTraceId s))

/-- The span identifier with the given 16 lowercase digits. -/
def SpanId.ofHex (s : String) : Except TraceError SpanId :=
  match ofHex? s with
  | some id => .ok id
  | .none => .error (.invalidArgument (.badSpanId s))

end Telemetry
