import Telemetry.Proofs.Execution.Events

/-!
# The threads of a process

Tracers, spans and exporters belong to a process, whose threads take turns: `Process.run`.  A thread that
waits keeps its contexts and open spans, and when it goes on it finds the rest as the others have left it.
An action of a thread is one turn, so it is not interrupted.

A process writes its log of spans as it runs, `Process.log`.  `chronicle_run` says that the log is a true
one: spans are as it has them (`Reflects`), each span began in an execution that was as the log had it
until then (`SpanLog.Genuine`), and samplers were asked about the roots and nothing else.  So what is to
be shown of a run can be shown by induction on its log.
-/

namespace Telemetry

/-- An execution in which nothing has happened, with its tracers. -/
def Execution.beginning (tracers : Array Tracer) (clock : Timestamp) : Execution :=
  { Execution.initial with tracers, clock }

/-- A thread goes on after another one came to `e`. -/
def ScopedThread.resume (s : ScopedThread) (e : Execution) : ScopedThread :=
  ⟨⟨s.thread.execution.resume e, s.thread.guards⟩, s.scopes⟩

/-- Something that a process does. -/
inductive ProcessAction where
  /-- The thread that runs does something. -/
  | act (a : ScopedAction)
  /-- The thread that runs starts another one, which runs now. -/
  | spawn
  /-- One of the threads that wait goes on. -/
  | switch (index : Nat)

/-- A process. -/
structure Process where
  /-- The thread that runs. -/
  running : ScopedThread
  /-- The threads that wait, each as it was when it last ran. -/
  waiting : List ScopedThread

namespace Process

/-- The execution of the thread that runs. -/
def execution (p : Process) : Execution := p.running.thread.execution

/-- A process with one thread, on which nothing has happened. -/
def fresh (e : Execution) : Process := ⟨.fresh e, []⟩

/-- One action. -/
def step (p : Process) : ProcessAction → Process
  | .act a => ⟨p.running.step a, p.waiting⟩
  | .spawn => ⟨.fresh p.execution, p.running :: p.waiting⟩
  | .switch index =>
    match p.waiting[index]? with
    | some other => ⟨other.resume p.execution, p.running :: p.waiting.eraseIdx index⟩
    | none => p

/-- A sequence of actions. -/
def run (p : Process) (actions : List ProcessAction) : Process := actions.foldl step p

/-- What an action does to spans. -/
def events (p : Process) : ProcessAction → SpanLog
  | .act a => p.running.events a
  | .spawn => []
  | .switch _ => []

/-- What a sequence of actions does to spans. -/
def log (p : Process) : List ProcessAction → SpanLog
  | [] => []
  | a :: rest => p.events a ++ (p.step a).log rest

theorem run_append (p : Process) (actions actions' : List ProcessAction) :
    p.run (actions ++ actions') = (p.run actions).run actions' := List.foldl_append

theorem log_append (p : Process) (actions actions' : List ProcessAction) :
    p.log (actions ++ actions') = p.log actions ++ (p.run actions).log actions' := by
  induction actions generalizing p with
  | nil => rfl
  | cons a rest ih =>
    show p.events a ++ (p.step a).log (rest ++ actions') =
      p.events a ++ (p.step a).log rest ++ _
    rw [ih, List.append_assoc]
    rfl

/-- What a thread does in a row is done by the process. -/
theorem run_map_act (p : Process) (actions : List ScopedAction) :
    p.run (actions.map .act) = ⟨p.running.run actions, p.waiting⟩ := by
  induction actions generalizing p with
  | nil => rfl
  | cons a rest ih => exact ih _

/-- What a thread does outside of scopes is done by the process. -/
theorem run_thread (p : Process) (actions : List ThreadAction) :
    p.run (actions.map fun a => .act (.act a)) =
      ⟨⟨p.running.thread.run actions, p.running.scopes⟩, p.waiting⟩ := by
  induction actions generalizing p with
  | nil => rfl
  | cons a rest ih => exact ih _

/-- A program runs on the thread that runs. -/
def runProgram {ε α : Type} (p : Process) (program : Program ε α) : Process :=
  ⟨⟨(program.run p.running.thread).2, p.running.scopes⟩, p.waiting⟩

end Process

/-- What a program does in a process, turn by turn. -/
def Program.turns {ε α : Type} (program : Program ε α) (p : Process) : List ProcessAction :=
  (program.actions p.running.thread).map .act

namespace Process

/-- **A program is a run of the process**, so what holds after every run holds after every program, and also
wherever it is inside its scopes. -/
theorem run_turns {ε α : Type} (p : Process) (program : Program ε α) :
    p.run (program.turns p) = p.runProgram program := by
  rw [Program.turns, run_map_act]
  exact congrArg (Process.mk · p.waiting) (program.run_eq p.running.thread p.running.scopes)

/-- What all threads share is not changed by taking turns. -/
theorem shared_of_turn (p : Process) (a : ProcessAction) :
    (∃ b, a = .act b) ∨ p.events a = [] ∧ (p.step a).execution.spans = p.execution.spans ∧
      (p.step a).execution.exported = p.execution.exported ∧
      (p.step a).execution.asked = p.execution.asked := by
  cases a with
  | act b => exact .inl ⟨b, rfl⟩
  | spawn => exact .inr ⟨rfl, rfl, rfl, rfl⟩
  | switch index =>
    refine .inr ⟨rfl, ?_⟩
    unfold step
    dsimp only
    split <;> exact ⟨rfl, rfl, rfl⟩

/-- **An action starts one span, or it starts none** and then no sampler is asked. -/
theorem starts_or_not (p : Process) (a : ProcessAction) :
    (∃ t cx name kind, p.events a = [.begins (p.execution.birth t cx name kind)] ∧
      (p.step a).execution.asked = (p.execution.startIn t cx name kind).2.asked) ∨
    ((p.events a).births = [] ∧ (p.step a).execution.asked = p.execution.asked) := by
  rcases p.shared_of_turn a with ⟨b, rfl⟩ | ⟨hevents, -, -, hasked⟩
  · cases b with
    | act a => exact p.running.thread.starts_or_not a
    | enter cx => exact .inr ⟨rfl, Execution.asked_attach _ _⟩
    | leave =>
      refine .inr ⟨rfl, ?_⟩
      unfold step ScopedThread.step
      dsimp only
      split
      · exact Execution.asked_detach _ _
      · rfl
  · exact .inr ⟨by rw [hevents]; rfl, hasked⟩

end Process

/-! ### The log of a process -/

/-- **An action of a process does to spans what its share of the log says.** -/
theorem Reflects.processStep {log : SpanLog} {p : Process} (h : Reflects log p.execution)
    (a : ProcessAction) : Reflects (log ++ p.events a) (p.step a).execution := by
  rcases p.shared_of_turn a with ⟨b, rfl⟩ | ⟨hevents, hspans, hexported, -⟩
  · exact h.scopedStep b
  · rw [hevents, List.append_nil]
    exact h.silent hspans hexported

/-- The parents that tracers have in other processes. -/
def Execution.remoteParents (e : Execution) (t : TracerRef) : Option SpanContext :=
  (e.tracer t).remoteParent

namespace SpanLog

/-- A log in which each span begins in an execution that is as the log has it until then. -/
inductive Genuine (remoteParents : TracerRef → Option SpanContext) : SpanLog → Prop
  /-- Nothing has happened. -/
  | nil : Genuine remoteParents []
  /-- A span begins. -/
  | begins {log : SpanLog} {e : Execution} (h : Genuine remoteParents log) (hnow : Reflects log e)
      (hremote : e.remoteParents = remoteParents) (t : TracerRef) (cx : Context) (name : String)
      (kind : SpanKind) : Genuine remoteParents (log ++ [.begins (e.birth t cx name kind)])
  /-- Something else happens. -/
  | other {log : SpanLog} (h : Genuine remoteParents log) (event : SpanEvent)
      (hother : event.birth? = none) : Genuine remoteParents (log ++ [event])

/-- Events without a birth can be added one by one. -/
theorem Genuine.append {remoteParents : TracerRef → Option SpanContext} {log log' : SpanLog}
    (h : Genuine remoteParents log) (hlog' : log'.births = []) :
    Genuine remoteParents (log ++ log') := by
  induction log' generalizing log with
  | nil => rwa [List.append_nil]
  | cons event rest ih =>
    have hnone := List.filterMap_eq_nil_iff.1 hlog'
    have hrest := ih (h.other event (hnone event List.mem_cons_self))
      (List.filterMap_eq_nil_iff.2 fun ev hev => hnone ev (List.mem_cons_of_mem _ hev))
    rwa [List.append_assoc] at hrest

/-- What holds of every span that begins holds of the births in a genuine log. -/
theorem Genuine.forall_births {remoteParents : TracerRef → Option SpanContext} {log : SpanLog}
    (h : Genuine remoteParents log) {P : Birth → Prop}
    (hbegins : ∀ (e : Execution) (t : TracerRef) (cx : Context) (name : String) (kind : SpanKind),
      P (e.birth t cx name kind)) : ∀ birth ∈ log.births, P birth := by
  induction h with
  | nil => exact fun _ hbirth => nomatch hbirth
  | @begins log e h hnow hremote t cx name kind ih =>
    rw [births_append]
    exact List.forall_mem_append.2 ⟨ih, List.forall_mem_singleton.2 (hbegins e t cx name kind)⟩
  | @other log h event hother ih =>
    have hnone : births [event] = [] := by simp [births, hother]
    rwa [births_append, hnone, List.append_nil]

/-- The tracers, traces and spans that samplers are to be asked about: those of the roots. -/
def questions (log : SpanLog) : List (TracerRef × TraceId × SpanId) :=
  (log.births.filter (·.descent = .root)).map fun birth =>
    (birth.span.tracer, birth.span.context.traceId, birth.span.context.spanId)

end SpanLog

/-- The tracer, the trace and the span that a sampler was asked about. -/
def Consultation.question (c : Consultation) : TracerRef × TraceId × SpanId :=
  (c.tracer, c.traceId, c.spanId)

/-- An execution with the log of how it came about, under tracers with the given remote parents. -/
structure Chronicle (remoteParents : TracerRef → Option SpanContext) (log : SpanLog)
    (e : Execution) : Prop extends Reflects log e where
  genuine : log.Genuine remoteParents
  remote : e.remoteParents = remoteParents
  consulted : e.consulted.toList.map (·.question) = log.questions

namespace Chronicle

variable {remoteParents : TracerRef → Option SpanContext} {log log' : SpanLog} {e e' : Execution}

/-- Nothing but the clock and the stacks of threads changes. -/
theorem unasked (h : Chronicle remoteParents log e) (hnow : Reflects (log ++ log') e')
    (hbirths : log'.births = []) (hasked : e'.asked = e.asked) :
    Chronicle remoteParents (log ++ log') e' := by
  obtain ⟨htracers, hconsulted⟩ := Prod.mk.inj hasked
  constructor
  · exact hnow
  · exact h.genuine.append hbirths
  · rw [← h.remote]
    funext t
    rw [Execution.remoteParents, Execution.remoteParents, Execution.tracer, Execution.tracer,
      htracers]
  · rw [hconsulted, h.consulted, SpanLog.questions, SpanLog.questions, SpanLog.births_append,
      hbirths, List.append_nil]

/-- A start asks the sampler about the new span if it is a root. -/
theorem consulted_startIn (e : Execution) (t : TracerRef) (cx : Context) (name : String)
    (kind : SpanKind) :
    (e.startIn t cx name kind).2.consulted.toList.map (·.question) =
      e.consulted.toList.map (·.question) ++
        SpanLog.questions [.begins (e.birth t cx name kind)] := by
  rw [Execution.startIn_eq, Execution.birth, Execution.newSpan, Execution.descent]
  cases hparent : e.spanOf? cx t with
  | some parent =>
    rw [Execution.origin_of_parent hparent]
    exact (List.append_nil _).symm
  | none =>
    dsimp only
    cases hremote : (e.tracer t).remoteParent with
    | some remote =>
      rw [Execution.origin_of_remote hparent hremote]
      exact (List.append_nil _).symm
    | none =>
      rw [Execution.origin_of_none hparent hremote]
      show (e.consulted.push _).toList.map _ = _
      rw [Array.toList_push, List.map_append]
      rfl

theorem starts (h : Chronicle remoteParents log e) {t : TracerRef} {cx : Context} {name : String}
    {kind : SpanKind} (hnow : Reflects (log ++ [.begins (e.birth t cx name kind)]) e')
    (hasked : e'.asked = (e.startIn t cx name kind).2.asked) :
    Chronicle remoteParents (log ++ [.begins (e.birth t cx name kind)]) e' := by
  obtain ⟨htracers, hconsulted⟩ := Prod.mk.inj hasked
  constructor
  · exact hnow
  · exact h.genuine.begins h.toReflects h.remote t cx name kind
  · rw [← h.remote]
    funext q
    rw [Execution.remoteParents, Execution.tracer, htracers]
    exact Execution.tracer_startIn (fun _ _ => rfl) e t cx name kind q
  · rw [hconsulted, consulted_startIn, h.consulted, SpanLog.questions, SpanLog.questions,
      SpanLog.questions, SpanLog.births_append, List.filter_append, List.map_append]

/-- **What a process does is in its log.** -/
theorem step {p : Process} (h : Chronicle remoteParents log p.execution) (a : ProcessAction) :
    Chronicle remoteParents (log ++ p.events a) (p.step a).execution := by
  have hnow := h.toReflects.processStep a
  rcases p.starts_or_not a with ⟨t, cx, name, kind, hevents, hasked⟩ | ⟨hbirths, hasked⟩
  · rw [hevents] at hnow ⊢
    exact h.starts hnow hasked
  · exact h.unasked hnow hbirths hasked

theorem run {p : Process} (h : Chronicle remoteParents log p.execution)
    (actions : List ProcessAction) :
    Chronicle remoteParents (log ++ p.log actions) (p.run actions).execution := by
  induction actions generalizing p log with
  | nil =>
    rw [Process.log, List.append_nil]
    exact h
  | cons a rest ih =>
    rw [Process.log, ← List.append_assoc]
    exact ih (h.step a)

end Chronicle

/-- **The log of a process is a true one**, from the beginning. -/
theorem chronicle_run (tracers : Array Tracer) (clock : Timestamp)
    (actions : List ProcessAction) :
    let e := Execution.beginning tracers clock
    let p := Process.fresh e
    Chronicle e.remoteParents (p.log actions) (p.run actions).execution := by
  intro e p
  have h : Chronicle e.remoteParents [] p.execution := ⟨.of_no_spans rfl rfl, .nil, rfl, rfl⟩
  exact h.run actions

end Telemetry
