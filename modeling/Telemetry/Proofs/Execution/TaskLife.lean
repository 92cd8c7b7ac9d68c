import Telemetry.Proofs.Execution.LastStatus

/-!
# The life of a suspended computation

A suspended computation with a span is created, polled now and then, on one thread or another, and some day
dropped.  Its span ends with the last poll.  If the computation is dropped before that, nothing ends the span,
unless another operation does: dropping is not an operation on spans.  `TaskLife.settles_run` says so for
every computation and every point at which it may be dropped, and what exporters get.

A life is told in turns (`TaskTurn`).  `TaskLife.meanwhile` is the part of the log of spans that is not due to
the computation coming to its end, so that it can be said who ended the span.
-/

namespace Telemetry

/-- What a step came to, if it was the last one. -/
def Step.value? {α : Type} : Step α → Option α
  | .pending => none
  | .done a => some a

/-- A turn of the process in which a suspended computation lives. -/
inductive TaskTurn (ε α : Type) where
  /-- Something else is done. -/
  | other (a : ProcessAction)
  /-- The computation is polled: it runs a program, and the outcome tells whether it has come to its end. -/
  | poll (isLast : Outcome ε α → Bool) (body : Program ε α)

/-- A suspended computation with a span, in its process. -/
structure TaskLife (ε α : Type) where
  /-- The computation. -/
  task : SpanTask
  /-- The process. -/
  process : Process
  /-- The outcome, if the computation has come to its end. -/
  outcome? : Option (Outcome ε α)
  /-- What happened to spans since the computation was created, apart from what is done at its end. -/
  meanwhile : SpanLog

namespace SpanTask

variable {ε α : Type} (task : SpanTask) (message : ε → String) (isLast : Outcome ε α → Bool)
  (body : Program ε α) (s : Thread)

/-- What a poll does before it is looked at what it came to. -/
def pollActions : List ScopedAction :=
  .enter task.context :: body.actions ⟨(s.execution.attach task.context).2, s.guards⟩ ++ [.leave]

/-- A poll is this, and what remains to be done after it. -/
theorem run_poll (scopes : List (Option Nat)) :
    let result := task.run message (stepOf isLast <$> body.run) s
    (⟨s, scopes⟩ : ScopedThread).run
      (task.pollActions body s ++ (Suspension.inSpan task).closing message result.1) =
      ⟨result.2, scopes⟩ := by
  intro result
  have hscope := Program.run_scope s scopes task.context (stepOf isLast <$> body.run)
    ((Suspension.inSpan task).closing message result.1) (body.run_eq _)
  rw [pollActions, List.append_assoc, List.singleton_append, hscope]
  exact Program.run_closing s scopes (.inSpan task) message (stepOf isLast <$> body.run)

/-- What is done to spans when a computation comes to its end. -/
theorem log_closing (p : Process) (outcome : Outcome ε α)
    (hspan : task.span.index < p.execution.spans.size) :
    ∃ limits now time, p.log (((Suspension.inSpan task).closing message (.done outcome)).map .act) =
      ((outcome.failure? message).toList.map fun text =>
        .changes task.span limits now (.failure text)) ++ [.ends task.span time] := by
  refine ⟨p.execution.limitsOf task.span, p.execution.clock, p.execution.clock, ?_⟩
  cases hfailure : outcome.failure? message with
  | none =>
    show p.log ((ScopedAction.noteFailure task.span (outcome.failure? message) ++ _).map _) = _
    rw [hfailure]
    show p.execution.ending task.span p.execution.clock ++ [] = _
    simp [Execution.ending, Execution.reaching, hspan]
  | some text =>
    show p.log ((ScopedAction.noteFailure task.span (outcome.failure? message) ++ _).map _) = _
    rw [hfailure]
    show p.execution.changing task.span (.failure text) ++
      ((p.execution.fail task.span text).ending task.span p.execution.clock ++ []) = _
    have hsize : (p.execution.fail task.span text).spans.size = p.execution.spans.size :=
      (Execution.sameShape_modifyRecord _ _ _).size
    simp [Execution.changing, Execution.ending, Execution.reaching, hsize, hspan]

end SpanTask

namespace TaskLife

variable {ε α : Type}

/-- A computation with a span of `t` is created on the thread that runs. -/
def create (p : Process) (t : TracerRef) (name : String) : TaskLife ε α :=
  let (task, e) := SpanTask.create p.execution t name
  ⟨task, ⟨⟨⟨e, p.running.thread.guards⟩, p.running.scopes⟩, p.waiting⟩, none, []⟩

/-- The computation is polled on the thread that runs. -/
def poll (life : TaskLife ε α) (message : ε → String) (isLast : Outcome ε α → Bool)
    (body : Program ε α) : TaskLife ε α :=
  let p := life.process
  let s := p.running.thread
  let result := life.task.run message (stepOf isLast <$> body.run) s
  { life with
    process := ⟨⟨result.2, p.running.scopes⟩, p.waiting⟩
    outcome? := result.1.value?
    meanwhile := life.meanwhile ++ p.log ((life.task.pollActions body s).map .act) }

/-- One turn. A computation that has come to its end is polled no more. -/
def turn (message : ε → String) (life : TaskLife ε α) : TaskTurn ε α → TaskLife ε α
  | .other a => { life with
      process := life.process.step a
      meanwhile := life.meanwhile ++ life.process.events a }
  | .poll isLast body =>
    if life.outcome?.isSome then life else life.poll message isLast body

/-- A sequence of turns. -/
def run (message : ε → String) (life : TaskLife ε α) (turns : List (TaskTurn ε α)) :
    TaskLife ε α :=
  turns.foldl (turn message) life

/-- The span of the computation. -/
def span (life : TaskLife ε α) : SpanRef := life.task.span

/-- The computation has come to its end, or the span was ended otherwise. -/
def Reached (life : TaskLife ε α) : Prop :=
  life.outcome?.isSome = true ∨ life.meanwhile.hasEnded life.span = true

/-- Since the process began, it has done what is in `actions`. -/
structure Follows (life : TaskLife ε α) (message : ε → String) (begun : Process)
    (actions : List ProcessAction) : Prop where
  process : life.process = begun.run actions
  known : life.span.index < (begun.log actions).births.length
  ended_iff : (begun.log actions).hasEnded life.span = true ↔ life.Reached
  failed : ∀ outcome text, life.outcome? = some outcome → outcome.failure? message = some text →
    life.meanwhile.hasEnded life.span = false →
      ∀ t data, (begun.log actions).handover? life.span = some (t, data) →
        data.record.status = .unknown text

/-! ### One turn -/

variable {message : ε → String} {tracers : Array Tracer} {clock : Timestamp}
  {actions : List ProcessAction} {life : TaskLife ε α}

theorem follows_create (tracers : Array Tracer) (clock : Timestamp) (actions : List ProcessAction)
    (t : TracerRef) (name : String) (message : ε → String) :
    let begun := Process.fresh (.beginning tracers clock)
    let p := begun.run actions
    (create p t name : TaskLife ε α).Follows message begun
      (actions ++ [.act (.act (.startIn t p.execution.currentContext name .unspecified))]) := by
  intro begun p
  have hchronicle : Chronicle _ (begun.log actions) p.execution := chronicle_run tracers clock actions
  have hspan : (create p t name : TaskLife ε α).span = ⟨p.execution.spans.size⟩ := by
    show (p.execution.startIn t p.execution.currentContext name .unspecified).1 = _
    rw [Execution.startIn_eq]
  have hlog : begun.log
      (actions ++ [.act (.act (.startIn t p.execution.currentContext name .unspecified))]) =
      begun.log actions ++
        [.begins (p.execution.birth t p.execution.currentContext name .unspecified)] :=
    begun.log_append actions _
  constructor
  · rw [Process.run_append]
    rfl
  · rw [hspan, hlog, SpanLog.births_append, List.length_append, hchronicle.size]
    exact Nat.lt_succ_self _
  · have hnot := (hchronicle.of_le (s := ⟨p.execution.spans.size⟩) hchronicle.size.ge).1
    rw [hspan, hlog, SpanLog.hasEnded_append, hnot]
    simp [Reached, create, SpanLog.hasEnded, SpanEvent.endsSpan, SpanEvent.ending?]
  · intro outcome text houtcome
    cases houtcome

/-- Whatever else is done, it may end the span, but it does not change what was handed over. -/
theorem Follows.meantime (h : life.Follows message (.fresh (.beginning tracers clock)) actions)
    (later : List ProcessAction) :
    ({ life with
      process := life.process.run later
      meanwhile := life.meanwhile ++ life.process.log later } : TaskLife ε α).Follows message
      (.fresh (.beginning tracers clock)) (actions ++ later) := by
  have hlog : (Process.fresh (.beginning tracers clock)).log (actions ++ later) =
      (Process.fresh (.beginning tracers clock)).log actions ++ life.process.log later := by
    rw [Process.log_append, ← h.process]
  constructor
  · rw [Process.run_append, ← h.process]
  · rw [hlog, SpanLog.births_append, List.length_append]
    exact Nat.lt_add_right _ h.known
  · rw [hlog, SpanLog.hasEnded_append, Bool.or_eq_true]
    show _ ∨ (life.process.log later).hasEnded life.span = true ↔
      _ ∨ SpanLog.hasEnded (life.meanwhile ++ life.process.log later) life.span = true
    rw [SpanLog.hasEnded_append, Bool.or_eq_true, ← or_assoc]
    exact or_congr_left h.ended_iff
  · intro outcome text houtcome hfailure hnot t data hdata
    have hnot' : SpanLog.hasEnded (life.meanwhile ++ life.process.log later) life.span = false :=
      hnot
    rw [SpanLog.hasEnded_append, Bool.or_eq_false_iff] at hnot'
    have hended := h.ended_iff.2 (.inl (Option.isSome_iff_exists.2 ⟨outcome, houtcome⟩))
    have hdata' : SpanLog.handover? _ life.span = some (t, data) := hdata
    rw [hlog, SpanLog.handover?_append _ hended h.known] at hdata'
    exact h.failed outcome text houtcome hfailure hnot'.1 t data hdata'

theorem Follows.other (h : life.Follows message (.fresh (.beginning tracers clock)) actions)
    (a : ProcessAction) :
    (life.turn message (.other a)).Follows message (.fresh (.beginning tracers clock))
      (actions ++ [a]) := by
  have hmeantime := h.meantime [a]
  rwa [show life.process.log [a] = life.process.events a from List.append_nil _] at hmeantime

/-- What a computation does when it has failed: it notes the failure on its span, and ends the span. -/
theorem status_of_failed {remoteParents : TracerRef → Option SpanContext} {log : SpanLog}
    {s : SpanRef} {limits : SpanLimits} {now time : Timestamp} {text : String}
    (hgenuine : SpanLog.Genuine remoteParents
      (log ++ [.changes s limits now (.failure text), .ends s time]))
    (hnot : log.hasEnded s = false) {t : TracerRef} {data : SpanData}
    (hdata : SpanLog.handover? (log ++ [.changes s limits now (.failure text), .ends s time]) s =
      some (t, data)) : data.record.status = .unknown text := by
  have hnot' : SpanLog.hasEnded (log ++ [.changes s limits now (.failure text)]) s = false := by
    rw [SpanLog.hasEnded_append, hnot]
    rfl
  have huntil : SpanLog.untilEnd (log ++ [.changes s limits now (.failure text), .ends s time]) s =
      log ++ [.changes s limits now (.failure text)] := by
    have hconcat := SpanLog.untilEnd_concat hnot' (.ends s time)
    rw [if_pos (show (SpanEvent.ends s time).endsSpan s = true from decide_eq_true rfl),
      List.append_nil, List.append_assoc] at hconcat
    exact hconcat
  rw [hgenuine.status_handover? hdata, huntil]
  exact SpanLog.lastStatus_concat log (if_pos rfl)

/-- What is done to the span when the computation comes to its end. -/
theorem Follows.closed (h : life.Follows message (.fresh (.beginning tracers clock)) actions)
    (houtcome : life.outcome? = none) {outcome : Outcome ε α} {closing : List ProcessAction}
    (hclosing : closing =
      ((Suspension.inSpan life.task).closing message (.done outcome)).map .act) :
    ({ life with
      process := life.process.run closing
      outcome? := some outcome } : TaskLife ε α).Follows message
      (.fresh (.beginning tracers clock)) (actions ++ closing) := by
  have hchronicle : Chronicle _ _ _ := chronicle_run tracers clock actions
  have hafter : Chronicle _ _ _ := chronicle_run tracers clock (actions ++ closing)
  have hspan : life.task.span.index < life.process.execution.spans.size := by
    rw [h.process, hchronicle.size]
    exact h.known
  obtain ⟨limits, now, time, hends⟩ :=
    life.task.log_closing message life.process outcome hspan
  have hlog : (Process.fresh (.beginning tracers clock)).log (actions ++ closing) =
      (Process.fresh (.beginning tracers clock)).log actions ++
        (((outcome.failure? message).toList.map fun text =>
          .changes life.span limits now (.failure text)) ++ [.ends life.span time]) := by
    rw [Process.log_append, ← h.process, hclosing]
    exact congrArg _ hends
  constructor
  · rw [Process.run_append, ← h.process]
  · rw [hlog, SpanLog.births_append, List.length_append]
    exact Nat.lt_add_right _ h.known
  · have hended : ((Process.fresh (.beginning tracers clock)).log
        (actions ++ closing)).hasEnded life.span = true := by
      rw [hlog, SpanLog.hasEnded_append, SpanLog.hasEnded_append]
      simp [SpanLog.hasEnded, SpanEvent.endsSpan, SpanEvent.ending?]
    exact iff_of_true hended (.inl rfl)
  · intro outcome' text houtcome' hfailure hnot t data hdata
    obtain rfl : outcome = outcome' := Option.some.inj houtcome'
    have hnot' : ((Process.fresh (.beginning tracers clock)).log actions).hasEnded life.span =
        false := by
      refine Bool.eq_false_iff.2 fun hended => ?_
      rcases h.ended_iff.1 hended with hsome | hended
      · rw [houtcome] at hsome
        cases hsome
      · exact absurd (hended.symm.trans hnot) (by decide)
    have hgenuine := hafter.genuine
    have hdata' : SpanLog.handover? _ life.span = some (t, data) := hdata
    rw [hlog, hfailure] at hgenuine hdata'
    exact status_of_failed hgenuine hnot' hdata'

/-- A poll may end the span in its body, and it ends the span if it is the last one. -/
theorem Follows.polled (h : life.Follows message (.fresh (.beginning tracers clock)) actions)
    (houtcome : life.outcome? = none) (isLast : Outcome ε α → Bool) (body : Program ε α) :
    ∃ later, (life.poll message isLast body).Follows message (.fresh (.beginning tracers clock))
      (actions ++ later) := by
  let p := life.process
  let result := life.task.run message (stepOf isLast <$> body.run) p.running.thread
  let scope : List ProcessAction := (life.task.pollActions body p.running.thread).map .act
  let closing : List ProcessAction :=
    ((Suspension.inSpan life.task).closing message result.1).map .act
  have hprocess : (life.poll message isLast body).process = (p.run scope).run closing := by
    have hrun := life.task.run_poll message isLast body p.running.thread p.running.scopes
    rw [← Process.run_append, ← List.map_append, Process.run_map_act]
    exact congrArg (Process.mk · p.waiting) hrun.symm
  have hmeantime := h.meantime scope
  have hpoll : life.poll message isLast body = { life with
      process := (p.run scope).run closing
      outcome? := result.1.value?
      meanwhile := life.meanwhile ++ p.log scope } := by
    rw [← hprocess]
    rfl
  cases hresult : result.1 with
  | pending =>
    refine ⟨scope, ?_⟩
    have hclosing : closing = [] := by simp [closing, hresult, Suspension.closing]
    rw [hpoll, hclosing, hresult]
    rwa [houtcome] at hmeantime
  | done outcome =>
    refine ⟨scope ++ closing, ?_⟩
    have hclosing : closing =
        ((Suspension.inSpan life.task).closing message (.done outcome)).map .act := by
      rw [← hresult]
    rw [hpoll, hresult, ← List.append_assoc]
    exact hmeantime.closed houtcome hclosing

/-- Every turn can be told by what the process does. -/
theorem Follows.turn (h : life.Follows message (.fresh (.beginning tracers clock)) actions)
    (turn : TaskTurn ε α) :
    ∃ later, (life.turn message turn).Follows message (.fresh (.beginning tracers clock))
      (actions ++ later) := by
  cases turn with
  | other a => exact ⟨[a], h.other a⟩
  | poll isLast body =>
    cases houtcome : life.outcome? with
    | none =>
      obtain ⟨later, hlater⟩ := h.polled houtcome isLast body
      refine ⟨later, ?_⟩
      simpa [TaskLife.turn, houtcome] using hlater
    | some outcome =>
      refine ⟨[], ?_⟩
      simpa [TaskLife.turn, houtcome] using h

/-! ### A whole life -/

theorem Follows.run (h : life.Follows message (.fresh (.beginning tracers clock)) actions)
    (turns : List (TaskTurn ε α)) :
    ∃ later, (life.run message turns).Follows message (.fresh (.beginning tracers clock))
      (actions ++ later) := by
  induction turns generalizing life actions with
  | nil => exact ⟨[], by rwa [List.append_nil]⟩
  | cons turn rest ih =>
    obtain ⟨later, hturn⟩ := h.turn turn
    obtain ⟨later', hrest⟩ := ih hturn
    exact ⟨later ++ later', by rwa [List.append_assoc] at hrest⟩

/-- What has become of the span of a suspended computation, in a process with the given log. -/
structure Settles (life : TaskLife ε α) (message : ε → String) (log : SpanLog) : Prop
    extends Exports log life.process.execution where
  /-- The span has ended if the computation has come to its end or another operation ended the span, and
  not otherwise. -/
  ended_iff : (life.process.execution.span life.span).ended = true ↔ life.Reached
  /-- In these cases it was handed over, if it is sampled. -/
  handed_iff : (log.handover? life.span).isSome = true ↔
    (life.process.execution.span life.span).context.isSampled = true ∧ life.Reached
  /-- If the computation has failed and nothing else had ended the span, it was handed over with the
  failure. -/
  failed : ∀ outcome text, life.outcome? = some outcome → outcome.failure? message = some text →
    life.meanwhile.hasEnded life.span = false →
      ∀ t data, log.handover? life.span = some (t, data) → data.record.status = .unknown text

theorem Follows.settles (h : life.Follows message (.fresh (.beginning tracers clock)) actions) :
    life.Settles message ((Process.fresh (.beginning tracers clock)).log actions) := by
  have hchronicle : Chronicle _ _ ((Process.fresh (.beginning tracers clock)).run
    actions).execution := chronicle_run tracers clock actions
  rw [← h.process] at hchronicle
  have hlt : life.span.index < life.process.execution.spans.size := by
    rw [hchronicle.size]
    exact h.known
  refine { toExports := hchronicle.exports, ended_iff := ?_, handed_iff := ?_, failed := h.failed }
  · obtain ⟨birth, -, hspan⟩ := hchronicle.span_of_lt hlt
    rw [hspan]
    exact h.ended_iff
  · rw [hchronicle.isSome_handover?_iff, h.ended_iff]
    exact and_iff_right hlt

/-- **The span of a suspended computation ends with the computation, and not when that is dropped.** For
every computation, polled however often and between whatever else is done, and at every point at which it
may be dropped: its span has ended exactly if the computation has come to its end or another operation ended
the span. Then it was handed over once if it is sampled, with the failure if the computation failed. -/
theorem settles_run {ε α : Type} (tracers : Array Tracer) (clock : Timestamp)
    (actions : List ProcessAction) (t : TracerRef) (name : String) (message : ε → String)
    (turns : List (TaskTurn ε α)) :
    let begun := Process.fresh (.beginning tracers clock)
    let life := (create (begun.run actions) t name : TaskLife ε α).run message turns
    ∃ later, life.process = begun.run (actions ++ later) ∧
      life.Settles message (begun.log (actions ++ later)) := by
  intro begun life
  obtain ⟨later, h⟩ := (follows_create tracers clock actions t name message).run turns
  rw [List.append_assoc] at h
  exact ⟨_, h.process, h.settles⟩

/-- A poll after which there is more to do. -/
def pendingPoll : TaskTurn String Unit := .poll (fun _ => false) (.done (.value ()))

/-- A computation that is dropped before its last poll leaves its span open. -/
theorem not_forall_ended_dropped :
    ¬∀ (tracers : Array Tracer) (clock : Timestamp) (actions : List ProcessAction) (t : TracerRef)
      (name : String) (message : String → String) (turns : List (TaskTurn String Unit)),
      let p := (Process.fresh (.beginning tracers clock)).run actions
      let life := (create p t name : TaskLife String Unit).run message turns
      (life.process.execution.span life.span).context.isSampled = true →
        (life.process.execution.span life.span).ended = true := by
  intro h
  let dropped : TaskLife String Unit :=
    (create (.fresh (.beginning Thread.twoTracers.tracers default)) ⟨0⟩ "dropped").run id [pendingPoll]
  have hsampled : (dropped.process.execution.span dropped.span).context.isSampled = true := by
    decide +kernel
  have hopen : (dropped.process.execution.span dropped.span).ended = false := by decide +kernel
  have hended := h Thread.twoTracers.tracers default [] ⟨0⟩ "dropped" id [pendingPoll] hsampled
  exact absurd (hended.symm.trans hopen) (by decide)

end TaskLife

end Telemetry
