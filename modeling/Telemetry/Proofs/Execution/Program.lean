import Telemetry.Execution.Scope
import Telemetry.Proofs.Execution.Thread

/-!
# Programs

What an application does on one thread, scopes and all: `Program`.  A program acts, looks at what has
become of the thread and goes on accordingly, and it runs other programs in scopes: with other tags, in a
span, in the context of a suspended computation.  `Program.run` runs it, and a scope is run by the function
of the library that the application would call.

`ScopedThread` is the same thread seen step by step: a scope is entered, which attaches its context, and
left, which detaches it again.  `Program.run_eq` says that a program is a sequence of such steps
(`Program.actions`), so what holds after every sequence of steps holds after every program, and also
wherever it is inside its scopes.
-/

namespace Telemetry

/-- On a thread, the functions on executions act on the thread's own. -/
instance Thread.instMonadStateOfExecution : MonadStateOf Execution (StateM Thread) where
  get := do return (← getThe Thread).execution
  set e := modifyThe Thread fun s => { s with execution := e }
  modifyGet f := modifyGetThe Thread fun s =>
    let (a, e) := f s.execution
    (a, { s with execution := e })

/-- A piece of an application, which ends with an outcome. -/
inductive Program (ε α : Type) where
  /-- It ends. -/
  | done (outcome : Outcome ε α)
  /-- It looks at the thread. -/
  | look (next : Thread → Program ε α)
  /-- It acts. -/
  | act (a : ThreadAction) (next : Program ε α)
  /-- It starts a span of `t` and gets a guard of it. -/
  | openGuard (t : TracerRef) (name : String) (next : SpanGuard → Program ε α)
  /-- It drops the guard of a span, maybe since something crashed. -/
  | dropGuard (guard : SpanGuard) (crashing : Bool) (next : Program ε α)
  /-- It runs a program inside a new span of `t`. -/
  | inSpan (t : TracerRef) (name : String) (message : ε → String)
      (body : SpanRef → Program ε α) (next : Outcome ε α → Program ε α)
  /-- It runs a program with other tags. -/
  | withTags (tags : TagMap) (body : Program ε α) (next : Outcome ε α → Program ε α)
  /-- It creates a suspended computation with a span of `t`. -/
  | createTask (t : TracerRef) (name : String) (next : SpanTask → Program ε α)
  /-- It runs a step of a suspended computation.  The step is a program, and its outcome tells whether it
  was the last one. -/
  | poll (suspension : Suspension) (message : ε → String) (isLast : Outcome ε α → Bool)
      (body : Program ε α) (next : Step (Outcome ε α) → Program ε α)

/-- What a step with the given outcome comes to. -/
def stepOf {ε α : Type} (isLast : Outcome ε α → Bool) (outcome : Outcome ε α) :
    Step (Outcome ε α) :=
  if isLast outcome then .done outcome else .pending

/-- Runs a program. -/
def Program.run {ε α : Type} : Program ε α → StateM Thread (Outcome ε α)
  | .done outcome => return outcome
  | .look next => do
    let s ← getThe Thread
    (next s).run
  | .act a next => do
    modifyThe Thread (·.step a)
    next.run
  | .openGuard t name next => do
    let guard ← modifyGetThe Execution (·.openGuard t name)
    (next guard).run
  | .dropGuard guard crashing next => do
    modifyThe Execution (·.dropGuard guard crashing)
    next.run
  | .inSpan t name message body next => do
    let outcome ← Execution.inSpan t name message fun span => (body span).run
    (next outcome).run
  | .withTags tags body next => do
    let outcome ← Execution.withTags tags body.run
    (next outcome).run
  | .createTask t name next => do
    let task ← modifyGetThe Execution (SpanTask.create · t name)
    (next task).run
  | .poll suspension message isLast body next => do
    let step ← suspension.run message (stepOf isLast <$> body.run)
    (next step).run

/-! ### Step by step -/

/-- Something that a thread does, inside its scopes. -/
inductive ScopedAction where
  /-- An action. -/
  | act (a : ThreadAction)
  /-- A scope is entered, in which `cx` is current. -/
  | enter (cx : Context)
  /-- The innermost scope is left. -/
  | leave

/-- A thread with the scopes that it is in. -/
structure ScopedThread where
  /-- The thread. -/
  thread : Thread
  /-- The positions of the contexts of the scopes, the innermost first; none if refused. -/
  scopes : List (Option Nat)

namespace ScopedThread

/-- A thread on which nothing has happened. -/
def fresh (e : Execution) : ScopedThread := ⟨.fresh e, []⟩

/-- One action. -/
def step (s : ScopedThread) : ScopedAction → ScopedThread
  | .act a => ⟨s.thread.step a, s.scopes⟩
  | .enter cx =>
    let (position, e) := s.thread.execution.attach cx
    ⟨⟨e, s.thread.guards⟩, position :: s.scopes⟩
  | .leave =>
    match s.scopes with
    | position :: scopes => ⟨⟨s.thread.execution.detach position, s.thread.guards⟩, scopes⟩
    | [] => s

/-- A sequence of actions. -/
def run (s : ScopedThread) (actions : List ScopedAction) : ScopedThread := actions.foldl step s

theorem run_append (s : ScopedThread) (actions actions' : List ScopedAction) :
    s.run (actions ++ actions') = (s.run actions).run actions' := List.foldl_append

theorem run_cons (s : ScopedThread) (a : ScopedAction) (actions : List ScopedAction) :
    s.run (a :: actions) = (s.step a).run actions := rfl

end ScopedThread

/-- Notes what failed, if anything did. -/
def ScopedAction.noteFailure (span : SpanRef) : Option String → List ScopedAction
  | some message => [.act (.change span (.failure message))]
  | none => []

/-- The context that is current while a step of a suspended computation runs. -/
def Suspension.context : Suspension → Context
  | .inContext cx => cx
  | .inSpan task => task.context

/-- What remains to be done after a step of a suspended computation. -/
def Suspension.closing {ε α : Type} (suspension : Suspension) (message : ε → String) :
    Step (Outcome ε α) → List ScopedAction
  | .pending => []
  | .done outcome =>
    match suspension with
    | .inContext _ => []
    | .inSpan task =>
      ScopedAction.noteFailure task.span (outcome.failure? message) ++ [.act (.endSpan task.span)]

namespace Program

variable {ε α : Type}

/-- What a program does on a thread, step by step. -/
def actions : Program ε α → Thread → List ScopedAction
  | .done _, _ => []
  | .look next, s => (next s).actions s
  | .act a next, s => .act a :: next.actions (s.step a)
  | .openGuard t name next, s =>
    let opened := s.execution.openGuard t name
    .act (.start t name .unspecified) :: (next opened.1).actions ⟨opened.2, s.guards⟩
  | .dropGuard guard crashing next, s =>
    let failure := if crashing then some CrashReason.unknown.message else none
    ScopedAction.noteFailure guard.span failure ++
      .act (.endOpen guard.tracer guard.span) ::
        next.actions ⟨s.execution.dropGuard guard crashing, s.guards⟩
  | .inSpan t name message body next, s =>
    let begun := s.execution.start t name .unspecified
    let result := Execution.inSpan t name message (fun span => (body span).run) s
    .act (.start t name .unspecified) :: (body begun.1).actions ⟨begun.2, s.guards⟩ ++
      (ScopedAction.noteFailure begun.1 (result.1.failure? message) ++
        .act (.endOpen t begun.1) :: (next result.1).actions result.2)
  | .withTags tags body next, s =>
    let cx := s.execution.currentContext.withTags tags
    let result := Execution.withTags tags body.run s
    .enter cx :: body.actions ⟨(s.execution.attach cx).2, s.guards⟩ ++
      .leave :: (next result.1).actions result.2
  | .createTask t name next, s =>
    let created := SpanTask.create s.execution t name
    .act (.startIn t s.execution.currentContext name .unspecified) ::
      (next created.1).actions ⟨created.2, s.guards⟩
  | .poll suspension message isLast body next, s =>
    let cx := suspension.context
    let result := suspension.run message (stepOf isLast <$> body.run) s
    .enter cx :: body.actions ⟨(s.execution.attach cx).2, s.guards⟩ ++
      .leave :: (suspension.closing message result.1 ++ (next result.1).actions result.2)

/-! ### A program is the sequence of its steps -/

variable (s : Thread) (scopes : List (Option Nat))

theorem run_noteFailure (span : SpanRef) (failure : Option String) :
    (⟨s, scopes⟩ : ScopedThread).run (ScopedAction.noteFailure span failure) =
      ⟨⟨s.execution.noteFailure span failure, s.guards⟩, scopes⟩ := by
  cases failure <;> rfl

/-- A scope is entered and left around its body. -/
theorem run_scope {β : Type} (cx : Context) (body : StateM Thread β)
    {actions : List ScopedAction} (rest : List ScopedAction)
    (hbody : ∀ scopes', (⟨⟨(s.execution.attach cx).2, s.guards⟩, scopes'⟩ : ScopedThread).run
      actions = ⟨(body ⟨(s.execution.attach cx).2, s.guards⟩).2, scopes'⟩) :
    (⟨s, scopes⟩ : ScopedThread).run (.enter cx :: actions ++ .leave :: rest) =
      (⟨(Execution.inContext cx body s).2, scopes⟩ : ScopedThread).run rest := by
  rw [List.cons_append, ScopedThread.run_cons, ScopedThread.run_append]
  show ((⟨⟨(s.execution.attach cx).2, s.guards⟩, _ :: scopes⟩ : ScopedThread).run actions).run _ = _
  rw [hbody]
  rfl

/-- What remains to be done after a step, once its context was left. -/
theorem run_closing (suspension : Suspension) (message : ε → String)
    (step : StateM Thread (Step (Outcome ε α))) :
    let result := suspension.run message step s
    (⟨(Execution.inContext suspension.context step s).2, scopes⟩ : ScopedThread).run
      (suspension.closing message result.1) = ⟨result.2, scopes⟩ := by
  cases suspension with
  | inContext cx =>
    show (⟨(Execution.inContext cx step s).2, scopes⟩ : ScopedThread).run
      (Suspension.closing _ message (Execution.inContext cx step s).1) = _
    cases (Execution.inContext cx step s).1 <;> rfl
  | inSpan task =>
    show (⟨(Execution.inContext task.context step s).2, scopes⟩ : ScopedThread).run
      (Suspension.closing _ message (task.run message step s).1) = ⟨(task.run message step s).2, _⟩
    cases hstep : Execution.inContext task.context step s with
    | mk result s' =>
      cases result with
      | pending =>
        have hrun : task.run message step s = (.pending, s') := by
          simp only [SpanTask.run, bind, StateT.bind, hstep]
          rfl
        rw [hrun]
        rfl
      | done outcome =>
        -- The last step notes a failure and ends the span.
        have hrun : task.run message step s = (.done outcome,
            ⟨(s'.execution.noteFailure task.span (outcome.failure? message)).endSpan task.span,
              s'.guards⟩) := by
          simp only [SpanTask.run, bind, StateT.bind, hstep]
          rfl
        rw [hrun]
        show (⟨s', scopes⟩ : ScopedThread).run (_ ++ [_]) = _
        rw [ScopedThread.run_append, run_noteFailure]
        rfl

/-- **A program does what its actions do**, step by step, in whatever scopes it runs. -/
theorem run_eq (p : Program ε α) :
    (⟨s, scopes⟩ : ScopedThread).run (p.actions s) = ⟨(p.run s).2, scopes⟩ := by
  induction p generalizing s scopes with
  | done outcome => rfl
  | look next ih => exact ih s s scopes
  | act a next ih => exact ih (s.step a) scopes
  | openGuard t name next ih => exact ih _ _ scopes
  | dropGuard guard crashing next ih =>
    rw [actions, ScopedThread.run_append, run_noteFailure]
    cases crashing <;> exact ih _ scopes
  | inSpan t name message body next ihBody ihNext =>
    rw [actions, List.cons_append, ScopedThread.run_cons, ScopedThread.run_append]
    show ((⟨⟨_, _⟩, scopes⟩ : ScopedThread).run _).run _ = _
    rw [ihBody, ScopedThread.run_append, run_noteFailure]
    exact ihNext _ _ scopes
  | withTags tags body next ihBody ihNext =>
    rw [actions, run_scope _ _ _ body.run _ (ihBody _)]
    exact ihNext _ _ scopes
  | createTask t name next ih => exact ih _ _ scopes
  | poll suspension message isLast body next ihBody ihNext =>
    rw [actions, run_scope _ _ _ (stepOf isLast <$> body.run) _ (ihBody _),
      ScopedThread.run_append, run_closing]
    exact ihNext _ _ scopes

end Program

end Telemetry
