import Telemetry.Execution.Spans

/-!
# Scopes

Running a piece of the application inside a span, with tags, or in a context, such that what was current
before is current again however the piece ends. A piece of the application, a *body*, is an action in any
monad with an execution in its state, and it ends in one of three ways: with a value, with an error, or by
crashing. A scope hands the outcome of its body back as it is.

A suspended computation runs in steps. Each step runs inside the context that the computation carries, so
the context is current while the computation runs and never in between.
-/

namespace Telemetry

/-- What is known about a crash. -/
inductive CrashReason where
  /-- A text. -/
  | text (message : String)
  /-- Nothing that can be shown. -/
  | unknown
  deriving DecidableEq, Repr

/-- What is recorded about a crash. -/
def CrashReason.message : CrashReason → String
  | .text message => message
  | .unknown => "panic"

/-- How a body ends. -/
inductive Outcome (ε : Type u) (α : Type v) where
  /-- With a value. -/
  | value (a : α)
  /-- With an error. -/
  | error (e : ε)
  /-- By crashing. -/
  | crash (reason : CrashReason)
  deriving DecidableEq, Repr

/-- What is recorded about an outcome that is a failure. -/
def Outcome.failure? (message : ε → String) : Outcome ε α → Option String
  | .value _ => none
  | .error e => some (message e)
  | .crash reason => some reason.message

/-- Whether the body crashed. -/
def Outcome.isCrash : Outcome ε α → Bool
  | .crash _ => true
  | _ => false

/-- How a step of a suspended computation ends. -/
inductive Step (α : Type u) where
  /-- There is more to do. -/
  | pending
  /-- This was the last step. -/
  | done (a : α)
  deriving DecidableEq, Repr

/-- A guard holds a span open until it is dropped. -/
structure SpanGuard where
  /-- The tracer that started the span. -/
  tracer : TracerRef
  /-- The span. -/
  span : SpanRef
  deriving DecidableEq, Repr, Inhabited

/-- What is restored when a guard is dropped. -/
inductive Guard where
  /-- A span ends. -/
  | span (guard : SpanGuard)
  /-- A context is detached, if it could be attached. -/
  | context (position : Option Nat)
  deriving DecidableEq, Repr

/-- A guard of the span `span` as a log shows it. -/
def Span.describeGuard (span : Span) : String := "SpanGuard \x7b span: " ++ span.describe ++ " \x7d"

namespace Execution

/-- Notes on a span what failed, if anything did. -/
def noteFailure (e : Execution) (s : SpanRef) : Option String → Execution
  | some message => e.fail s message
  | none => e

/-- Starts a span of `t` that is current until its guard is dropped. -/
def openGuard (e : Execution) (t : TracerRef) (name : String) : SpanGuard × Execution :=
  let (s, e) := e.start t name .unspecified
  (⟨t, s⟩, e)

/-- Drops a guard, which ends its span. A guard that is dropped since something crashed notes that. -/
def dropGuard (e : Execution) (guard : SpanGuard) (crashing : Bool) : Execution :=
  let e := if crashing then e.fail guard.span CrashReason.unknown.message else e
  e.endOpen guard.tracer guard.span

/-- Drops a guard. -/
def drop (e : Execution) (guard : Guard) (crashing : Bool) : Execution :=
  match guard with
  | .span guard => e.dropGuard guard crashing
  | .context position => e.detach position

section Scopes

variable {m : Type → Type u} [Monad m] [MonadStateOf Execution m] {ε α : Type}

/-- Runs a body in a context. -/
def inContext (cx : Context) (body : m α) : m α := do
  let position ← modifyGet (·.attach cx)
  let result ← body
  modify (·.detach position)
  return result

/-- Runs a body with other tags. -/
def withTags (tags : TagMap) (body : m α) : m α := do
  let position ← modifyGet (·.attachTags tags)
  let result ← body
  modify (·.detach position)
  return result

/-- Runs a body inside a new span of `t`, which ends with the body and notes its failure. -/
def inSpan (t : TracerRef) (name : String) (message : ε → String)
    (body : SpanRef → m (Outcome ε α)) : m (Outcome ε α) := do
  let s ← modifyGet (·.start t name .unspecified)
  let outcome ← body s
  modify fun e => (e.noteFailure s (outcome.failure? message)).endOpen t s
  return outcome

/-- Runs a body while a guard holds a new span of `t` open. -/
def underGuard (t : TracerRef) (name : String) (body : SpanGuard → m (Outcome ε α)) :
    m (Outcome ε α) := do
  let guard ← modifyGet (·.openGuard t name)
  let outcome ← body guard
  modify (·.dropGuard guard outcome.isCrash)
  return outcome

end Scopes

end Execution

/-- A suspended computation with a span of its own. -/
structure SpanTask where
  /-- The span. -/
  span : SpanRef
  /-- The context that its steps run in. -/
  context : Context

namespace SpanTask

/-- A suspended computation whose span is started now, in the current context, but is current only while
a step runs. -/
def create (e : Execution) (t : TracerRef) (name : String) : SpanTask × Execution :=
  let cx := e.currentContext
  let (s, e) := e.startIn t cx name .unspecified
  (⟨s, cx.withSpan s⟩, e)

/-- Runs a step. The last one notes a failure on the span and ends it. -/
def run {m : Type → Type u} [Monad m] [MonadStateOf Execution m] {ε α : Type} (task : SpanTask)
    (message : ε → String) (step : m (Step (Outcome ε α))) : m (Step (Outcome ε α)) := do
  let result ← Execution.inContext task.context step
  match result with
  | .pending => return .pending
  | .done outcome =>
    modify fun e =>
      (e.noteFailure task.span (outcome.failure? message)).endSpan task.span
    return .done outcome

end SpanTask

/-- What a suspended computation carries from step to step. -/
inductive Suspension where
  /-- A context that is current while a step runs. -/
  | inContext (cx : Context)
  /-- A span that is current while a step runs and ends with the last one. -/
  | inSpan (task : SpanTask)

/-- Runs a step of a suspended computation. -/
def Suspension.run {m : Type → Type u} [Monad m] [MonadStateOf Execution m] {ε α : Type}
    (s : Suspension) (message : ε → String) (step : m (Step (Outcome ε α))) :
    m (Step (Outcome ε α)) :=
  match s with
  | .inContext cx => Execution.inContext cx step
  | .inSpan task => task.run message step

end Telemetry
