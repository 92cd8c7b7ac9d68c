import Telemetry.Proofs.Execution.LastStatus
import Telemetry.Proofs.Execution.OpenStack

/-!
# A body inside a span

A tracer can run a body inside a new span, which is open while the body runs and ends with it.  The body may
fail in between, it may leave spans open, of this tracer and of others, and it may run further bodies inside
further spans.  `SpanCall.encloses_run` says what the call leaves behind (`Encloses`): the outcome is that of
the body, the span has ended with the failure if there was one, what the body left open above it has ended
before it, and the tracer has open what it had open before.

The body must not end what was open before it.  What is then still below the span in the end was below it in
the beginning (`ScopedThread.opened_run`), so the tracer unwinds to exactly that.

Whether the current span is the one from before depends on the contexts that the body leaves attached.  A step
of a suspended computation runs in the context that the computation carries, and a span of another tracer that
it leaves open keeps a copy of that context attached, which may show other spans or none.
`SpanCall.Restores` says exactly when that does not matter.  It never does if open spans and contexts agree
when the body ends, as they do after a body that is `Program.Direct`.
-/

namespace Telemetry

/-- A body and the span that it is to run inside. -/
structure SpanCall (ε α : Type) where
  /-- The tracer that starts the span. -/
  tracer : TracerRef
  /-- The name of the span. -/
  name : String
  /-- What is recorded about an error. -/
  message : ε → String
  /-- The body, which gets the span. -/
  body : SpanRef → Program ε α

/-- The context without some of its spans. -/
def Context.without (cx : Context) (spans : List SpanRef) : Context :=
  { cx with spans := cx.spans.filter (· ∉ spans) }

/-- Nothing happens to other spans when one is abandoned. -/
theorem Execution.ignores_abandoning {e : Execution} {entry : OpenSpan} {q : SpanRef}
    (h : entry.span ≠ q) : ∀ event ∈ e.abandoning entry, event.Ignores q := by
  unfold abandoning changing ending reaching
  split
  next =>
    intro event hevent
    rcases List.mem_pair.1 hevent with rfl | rfl
    · exact SpanEvent.ignores_changes h _ _ _
    · exact SpanEvent.ignores_ends h _
  next => exact fun _ hevent => nomatch hevent

namespace SpanCall

variable {ε α : Type} (c : SpanCall ε α) (s : Thread)

/-- The call as a program. -/
def program : Program ε α := .inSpan c.tracer c.name c.message c.body .done

/-- The call on the thread `s`. -/
def call : Outcome ε α × Thread :=
  Execution.inSpan c.tracer c.name c.message (fun span => (c.body span).run) s

/-- The span. -/
def span : SpanRef := (s.execution.start c.tracer c.name .unspecified).1

/-- The thread when the span has started. -/
def begun : Thread := s.step (.start c.tracer c.name .unspecified)

/-- What the body comes to. -/
def inner : Outcome ε α × Thread := (c.body (c.span s)).run (c.begun s)

/-- What the body does, step by step. -/
def bodyActions : List ScopedAction := (c.body (c.span s)).actions (c.begun s)

/-- What the body does to spans. -/
def bodyLog : SpanLog :=
  Process.log ⟨⟨c.begun s, []⟩, []⟩ ((c.bodyActions s).map .act)

/-- The spans of the tracer that the body starts and makes current. -/
def started : List SpanRef := (⟨c.begun s, []⟩ : ScopedThread).startedIn c.tracer (c.bodyActions s)

/-- What failed, if anything did. -/
def failure? : Option String := (c.inner s).1.failure? c.message

/-- The thread when the failure was noted. -/
def noted : Thread :=
  ⟨(c.inner s).2.execution.noteFailure (c.span s) (c.failure? s), (c.inner s).2.guards⟩

/-- The span and what the body has left open above it: what the tracer has open and had not before. -/
def leftOpen : List OpenSpan :=
  ((c.inner s).2.execution.opened c.tracer).filter fun o => s.execution.spans.size ≤ o.span.index

/-- What the body has left attached, without the contexts of these. -/
def remaining : List (Nat × Context) :=
  (c.inner s).2.execution.contexts.held.filter (·.1 ∉ (c.leftOpen s).filterMap (·.position))

/-- The newest of these shows as the current span of the tracer the one from before, apart from the spans that
end with the call. -/
def Restores : Prop :=
  ∀ x ∈ (c.remaining s).head?,
    (c.inner s).2.execution.spanOf? (x.2.without ((c.leftOpen s).map (·.span))) c.tracer =
      s.execution.currentSpan? c.tracer

/-- A call that goes as it should on the thread `s`. -/
structure Orderly : Prop where
  /-- No context is refused. -/
  unrefused : (⟨s, []⟩ : ScopedThread).Unrefused (c.program.actions s)
  /-- The body ends no span that it has not started. -/
  spares : ∀ q, (c.begun s).execution.live q = true → (c.inner s).2.execution.live q = true

/-- What is done until the span ends. -/
def notedActions : List ScopedAction :=
  .act (.start c.tracer c.name .unspecified) :: c.bodyActions s ++
    ScopedAction.noteFailure (c.span s) (c.failure? s)

/-- What is done to spans until the span ends. -/
def notedLog : SpanLog := Process.log ⟨⟨s, []⟩, []⟩ ((c.notedActions s).map .act)

/-- What the call does to spans. -/
def callLog : SpanLog := Process.log ⟨⟨s, []⟩, []⟩ ((c.program.actions s).map .act)

theorem actions_program :
    c.program.actions s = c.notedActions s ++ [.act (.endOpen c.tracer (c.span s))] :=
  (List.append_assoc _ _ _).symm

theorem run_bodyActions :
    (⟨c.begun s, []⟩ : ScopedThread).run (c.bodyActions s) = ⟨(c.inner s).2, []⟩ :=
  Program.run_eq _ _ _

theorem run_notedActions :
    (⟨s, []⟩ : ScopedThread).run (c.notedActions s) = ⟨c.noted s, []⟩ := by
  rw [notedActions, ScopedThread.run_append, ScopedThread.run_cons]
  show ((⟨c.begun s, []⟩ : ScopedThread).run (c.bodyActions s)).run _ = _
  rw [run_bodyActions]
  exact Program.run_noteFailure _ _ _ _

theorem span_eq : c.span s = ⟨s.execution.spans.size⟩ := by
  rw [span, Thread.start_eq, Execution.startIn_eq]

/-- When the span has started, it is the newest open one, and all others are as they were. -/
theorem opens_begun :
    (∃ position, (c.begun s).execution.openSpans =
        ⟨c.tracer, c.span s, position⟩ :: s.execution.openSpans) ∧
      (c.begun s).execution.live (c.span s) = true ∧
      ∀ q, q.index < s.execution.spans.size →
        (c.begun s).execution.live q = s.execution.live q := by
  rw [span_eq]
  exact s.execution.opens_start c.tracer c.name .unspecified

/-! ### From the start to the end -/

variable {c s}

/-- The stack is in order all along. -/
theorem stacked (h : s.Stacked) : (c.begun s).Stacked ∧ (c.inner s).2.Stacked ∧ (c.noted s).Stacked := by
  rw [← ScopedThread.unscoped_nil s] at h
  have hbegun : (⟨c.begun s, []⟩ : ScopedThread).unscoped.Stacked :=
    ScopedThread.stacked_step h (.act (.start c.tracer c.name .unspecified))
  have hinner := ScopedThread.stacked_run hbegun (c.bodyActions s)
  have hnoted := ScopedThread.stacked_run h (c.notedActions s)
  rw [run_bodyActions] at hinner
  rw [run_notedActions] at hnoted
  simp only [ScopedThread.unscoped_nil] at hbegun hinner hnoted
  exact ⟨hbegun, hinner, hnoted⟩

/-- Noting a failure leaves open spans, contexts and what has ended as they are. -/
theorem sameShape_noted : (c.inner s).2.execution.SameShape (c.noted s).execution :=
  Execution.sameShape_noteFailure _ _ _

/-- When the body has ended, what was open before it is still open, below the span. -/
theorem opened_inner (h : (c.begun s).Owns) (hc : c.Orderly s) :
    ∃ above position, (c.inner s).2.execution.opened c.tracer =
      above ++ ⟨c.tracer, c.span s, position⟩ :: s.execution.opened c.tracer := by
  rw [← ScopedThread.unscoped_nil (c.begun s)] at h
  obtain ⟨⟨position, hopen⟩, hlive, -⟩ := c.opens_begun s
  have hbegun : (c.begun s).execution.opened c.tracer =
      [] ++ ⟨c.tracer, c.span s, position⟩ :: s.execution.opened c.tracer := by
    rw [Execution.opened, hopen, List.filter_cons_of_pos (by simp)]
    rfl
  have hopened : ((⟨c.begun s, []⟩ : ScopedThread).run (c.bodyActions s)).thread.execution.live
      (c.span s) = true → _ :=
    ScopedThread.opened_run h hbegun (Execution.lt_size_of_live hlive)
  rw [run_bodyActions] at hopened
  obtain ⟨above, habove⟩ := hopened (hc.spares _ hlive)
  exact ⟨above, position, habove⟩

/-- What the body has started and left open is above the span. -/
theorem mem_above_of_started (hs : s.Stacked) {above : List OpenSpan} {position : Option Nat}
    (habove : (c.inner s).2.execution.opened c.tracer =
      above ++ ⟨c.tracer, c.span s, position⟩ :: s.execution.opened c.tracer) {q : SpanRef}
    (hq : q ∈ c.started s) (hlive : (c.inner s).2.execution.live q = true) :
    q ∈ above.map (·.span) := by
  obtain ⟨-, hstarted, -⟩ := c.opens_begun s
  have h := (stacked (c := c) hs).1.toOwns
  rw [← ScopedThread.unscoped_nil (c.begun s)] at h
  have hopened := ScopedThread.mem_opened_of_started h hq
  rw [run_bodyActions] at hopened
  obtain ⟨o, ho, rfl⟩ := hopened hlive
  rw [habove] at ho
  -- The others were there before the body.
  have hnew := ScopedThread.le_index_of_started h hq
  have hsize := Execution.lt_size_of_live hstarted
  rcases List.mem_append.1 ho with ho | ho
  · exact List.mem_map_of_mem ho
  · rcases List.mem_cons.1 ho with rfl | ho
    · exact absurd hsize (Nat.not_lt.2 hnew)
    · have hold := (hs.own o (List.mem_filter.1 ho).1).2
      rw [span_eq] at hsize
      exact absurd (hold.trans hsize) (Nat.not_lt.2 hnew)

/-- What is above the span was not there before. -/
theorem leftOpen_of_opened (hs : s.Stacked) (hinner : (c.inner s).2.Stacked) {above : List OpenSpan}
    {position : Option Nat}
    (habove : (c.inner s).2.execution.opened c.tracer =
      above ++ ⟨c.tracer, c.span s, position⟩ :: s.execution.opened c.tracer) :
    c.leftOpen s = above ++ [⟨c.tracer, c.span s, position⟩] := by
  have horder : ((c.inner s).2.execution.opened c.tracer).Pairwise
      fun a b => b.span.index < a.span.index := hinner.order.filter _
  rw [habove] at horder
  have hnew : ∀ o ∈ above, s.execution.spans.size ≤ o.span.index := by
    intro o ho
    have hlt := (List.pairwise_append.1 horder).2.2 o ho _ List.mem_cons_self
    rw [span_eq] at hlt
    exact hlt.le
  have hold : ∀ o ∈ s.execution.opened c.tracer, ¬s.execution.spans.size ≤ o.span.index :=
    fun o ho => Nat.not_le.2 (hs.own o (List.mem_filter.1 ho).1).2
  rw [leftOpen, habove, List.filter_append, List.filter_eq_self.2 (by simpa using hnew),
    List.filter_cons_of_pos (by simp [span_eq]), List.filter_eq_nil_iff.2 (by simpa using hold)]

/-- What was there before has neither ended nor come back. -/
theorem live_inner (h : (c.begun s).Owns) (hc : c.Orderly s) {q : SpanRef}
    (hq : q.index < s.execution.spans.size) :
    (c.inner s).2.execution.live q = s.execution.live q := by
  rw [← ScopedThread.unscoped_nil (c.begun s)] at h
  obtain ⟨-, hstarted, hothers⟩ := c.opens_begun s
  have hcontinues : (c.begun s).execution.Continues (c.inner s).2.execution :=
    ScopedThread.continues_program h (c.body (c.span s))
  rw [← hothers q hq]
  cases hbegun : (c.begun s).execution.live q with
  | true => exact hc.spares q hbegun
  | false =>
    cases hinner : (c.inner s).2.execution.live q with
    | false => rfl
    | true =>
      have hsize := Execution.lt_size_of_live hstarted
      rw [span_eq] at hsize
      exact absurd (hcontinues.live q (hq.trans hsize) hinner) (by simp [hbegun])

/-! ### What happens to spans -/

/-- Until the span ends, it begins, the body does what it does, and a failure is noted. -/
theorem notedLog_eq (hlive : (c.inner s).2.execution.live (c.span s) = true) :
    ∃ birth limits now, c.notedLog s =
      .begins birth :: (c.bodyLog s ++ (c.failure? s).toList.map fun text =>
        .changes (c.span s) limits now (.failure text)) := by
  let inner := (c.inner s).2.execution
  refine ⟨s.execution.birth c.tracer s.execution.currentContext c.name .unspecified,
    inner.limitsOf (c.span s), inner.clock, ?_⟩
  have hnote : Process.log ⟨⟨(c.inner s).2, []⟩, []⟩
      ((ScopedAction.noteFailure (c.span s) (c.failure? s)).map .act) =
      (c.failure? s).toList.map fun text =>
        .changes (c.span s) (inner.limitsOf (c.span s)) inner.clock (.failure text) := by
    cases c.failure? s with
    | none => rfl
    | some text =>
      show inner.changing (c.span s) (.failure text) ++ [] = _
      rw [Execution.changing, Execution.reaching, if_pos (Execution.lt_size_of_live hlive)]
      rfl
  rw [notedLog, notedActions, List.map_append, List.map_cons, List.cons_append, Process.log]
  show _ ++ Process.log ⟨⟨c.begun s, []⟩, []⟩ _ = _
  rw [Process.log_append, Process.run_map_act]
  show _ ++ (_ ++ Process.log ⟨(⟨c.begun s, []⟩ : ScopedThread).run (c.bodyActions s), []⟩ _) = _
  rw [run_bodyActions, hnote]
  rfl

/-- The last status is the failure, or else the last one that the body has set. -/
theorem lastStatus_notedLog {log : SpanLog} (hlog : log.statuses (c.span s) = [])
    (hlive : (c.inner s).2.execution.live (c.span s) = true) :
    SpanLog.lastStatus (log ++ c.notedLog s) (c.span s) =
      (c.failure? s).elim ((c.bodyLog s).lastStatus (c.span s)) .unknown := by
  obtain ⟨birth, limits, now, hnoted⟩ := c.notedLog_eq hlive
  have hbirth : SpanLog.statuses [.begins birth] (c.span s) = [] := rfl
  rw [SpanLog.lastStatus_append_left hlog, hnoted, ← List.singleton_append,
    SpanLog.lastStatus_append_left hbirth]
  cases c.failure? s with
  | none =>
    rw [Option.toList_none, List.map_nil, List.append_nil]
    rfl
  | some text => exact SpanLog.lastStatus_concat _ (if_pos rfl)

/-- What happens when an open span ends, before it does, has nothing to do with it. -/
theorem events_endOpen {newer older : List OpenSpan} {entry : OpenSpan}
    (h : s.Stacked) (hopen : s.execution.openSpans = newer ++ entry :: older)
    (hlive : s.execution.live entry.span = true) :
    ∃ log : SpanLog, (∀ event ∈ log, event.Ignores entry.span) ∧
      s.events (.endOpen entry.tracer entry.span) = log ++ [.ends entry.span s.execution.clock] := by
  have hne : ∀ o ∈ newer, o.span ≠ entry.span := fun o ho =>
    h.span_ne hopen o ho entry List.mem_cons_self
  refine ⟨(entry.siblings newer).flatMap s.execution.abandoning, ?_, ?_⟩
  · intro event hevent
    obtain ⟨o, ho, hevent⟩ := List.mem_flatMap.1 hevent
    exact Execution.ignores_abandoning (hne o (List.mem_filter.1 ho).1) event hevent
  · show _ ++ s.execution.ending _ _ = _
    rw [Execution.newerOpen_of_open hopen fun o ho hboth => hne o ho hboth.2, Execution.ending,
      Execution.reaching, if_pos (Execution.lt_size_of_live hlive)]
    rfl

/-- The log of the call: what happens until the span ends, and its end. -/
theorem callLog_eq :
    c.callLog s = c.notedLog s ++ (c.noted s).events (.endOpen c.tracer (c.span s)) := by
  rw [callLog, actions_program, List.map_append, Process.log_append, Process.run_map_act]
  show _ ++ Process.log ⟨(⟨s, []⟩ : ScopedThread).run (c.notedActions s), []⟩ _ = _
  rw [run_notedActions]
  exact congrArg _ (List.append_nil _)

section Call

variable {remoteParents : TracerRef → Option SpanContext} {log : SpanLog}

theorem chronicle_noted (h : Chronicle remoteParents log s.execution) :
    Chronicle remoteParents (log ++ c.notedLog s) (c.noted s).execution := by
  have hrun := Chronicle.run (p := ⟨⟨s, []⟩, []⟩) h ((c.notedActions s).map .act)
  rw [Process.run_map_act] at hrun
  have hnow : ((⟨s, []⟩ : ScopedThread).run (c.notedActions s)).thread.execution =
      (c.noted s).execution := by rw [run_notedActions]
  rw [← hnow]
  exact hrun

theorem chronicle_call (h : Chronicle remoteParents log s.execution) :
    Chronicle remoteParents (log ++ c.callLog s) (c.call s).2.execution := by
  rw [callLog_eq, ← List.append_assoc]
  exact Chronicle.step (p := ⟨⟨c.noted s, []⟩, []⟩) (chronicle_noted h)
    (.act (.act (.endOpen c.tracer (c.span s))))

/-- No span ends when a failure is noted. -/
theorem live_noted (q : SpanRef) :
    (c.noted s).execution.live q = (c.inner s).2.execution.live q := by
  rw [Execution.live_eq_outline, sameShape_noted.outline, ← Execution.live_eq_outline]

/-- The span has not ended when the failure was noted. -/
theorem live_span (hc : c.Orderly s) : (c.noted s).execution.live (c.span s) = true := by
  obtain ⟨-, hstarted, -⟩ := c.opens_begun s
  rw [live_noted]
  exact hc.spares _ hstarted

/-- **The tracer unwinds to the span**: below it there is what there was before, and above it what the body
has left open. -/
theorem unwinds (h : Chronicle remoteParents log s.execution) (hs : s.Stacked) (hc : c.Orderly s) :
    ∃ newer position older,
      (c.noted s).execution.openSpans = newer ++ ⟨c.tracer, c.span s, position⟩ :: older ∧
        (c.noted s).execution.Unwinds (c.call s).2.execution newer
          ⟨c.tracer, c.span s, position⟩ older ∧
        older.filter (·.tracer == c.tracer) = s.execution.opened c.tracer ∧
        newer.filter (·.tracer == c.tracer) ++ [⟨c.tracer, c.span s, position⟩] = c.leftOpen s ∧
        ∀ q ∈ c.started s, (c.inner s).2.execution.live q = true →
          q ∈ (newer.filter (·.tracer == c.tracer)).map (·.span) := by
  obtain ⟨hbegun, hinner, hnoted⟩ := stacked (c := c) hs
  obtain ⟨above, position, habove⟩ := opened_inner hbegun.toOwns hc
  obtain ⟨newer, older, hopen, hnewer, holder⟩ := Execution.split_of_opened
    ((Execution.opened_of_openSpans sameShape_noted.openSpans).trans habove)
  have hsealed : (c.noted s).execution.Sealed :=
    Execution.isSealed_of_reflects (chronicle_noted h).toReflects
  refine ⟨newer, position, older, hopen, hnoted.unwinds hsealed hopen, holder, ?_, fun q hq hlive => ?_⟩
  · rw [hnewer, leftOpen_of_opened hs hinner habove]
  · rw [hnewer]
    exact mem_above_of_started hs habove hq hlive

/-- Between the events of the body and the end of the span, other spans are abandoned. -/
theorem callLog_ends (h : Chronicle remoteParents log s.execution) (hs : s.Stacked)
    (hc : c.Orderly s) :
    ∃ (others : SpanLog) (time : Timestamp), (∀ event ∈ others, event.Ignores (c.span s)) ∧
      log ++ c.callLog s = log ++ c.notedLog s ++ (others ++ [.ends (c.span s) time]) := by
  obtain ⟨newer, position, older, hopen, -⟩ := unwinds h hs hc
  obtain ⟨others, hignores, hevents⟩ := events_endOpen (stacked hs).2.2 hopen (live_span hc)
  refine ⟨others, (c.noted s).execution.clock, hignores, ?_⟩
  rw [callLog_eq, ← List.append_assoc]
  exact congrArg _ hevents

/-- If the span is handed over, then with the failure, or else with the last status that the body has
set. -/
theorem status_handover? (h : Chronicle remoteParents log s.execution) (hs : s.Stacked)
    (hc : c.Orderly s) {t : TracerRef} {data : SpanData}
    (hdata : SpanLog.handover? (log ++ c.callLog s) (c.span s) = some (t, data)) :
    data.record.status = (c.failure? s).elim ((c.bodyLog s).lastStatus (c.span s)) .unknown := by
  have hlive := live_span hc
  have hinner : (c.inner s).2.execution.live (c.span s) = true := by rwa [← live_noted]
  have hnot : SpanLog.hasEnded (log ++ c.notedLog s) (c.span s) = false := by
    obtain ⟨birth, -, hspan⟩ := (chronicle_noted h).span_of_lt (Execution.lt_size_of_live hlive)
    rw [Execution.live, hspan] at hlive
    simpa using hlive
  have hbefore : log.statuses (c.span s) = [] := by
    refine h.statuses_of_le ?_
    rw [span_eq]
    exact h.size.ge
  obtain ⟨others, time, hignores, hlog⟩ := callLog_ends h hs hc
  rw [(chronicle_call h).genuine.status_handover? hdata, hlog,
    SpanLog.lastStatus_untilEnd hnot hignores, lastStatus_notedLog hbefore hinner]

/-- The contexts of the spans that leave the stack are detached, and no others. -/
theorem held_call (h : Chronicle remoteParents log s.execution) (hs : s.Stacked) (hc : c.Orderly s) :
    (c.call s).2.execution.contexts.held = c.remaining s := by
  obtain ⟨newer, position, older, -, hunwinds, -, hleft, -⟩ := unwinds h hs hc
  have hheld := hunwinds.held
  rw [sameShape_noted.contexts, OpenSpan.siblings, hleft] at hheld
  exact hheld

/-- After the call a context shows the span that it showed when the body had ended, apart from those that
leave the stack. -/
theorem spanOf?_call (h : Chronicle remoteParents log s.execution) (hs : s.Stacked)
    (hc : c.Orderly s) (cx : Context) :
    (c.call s).2.execution.spanOf? cx c.tracer =
      (c.inner s).2.execution.spanOf? (cx.without ((c.leftOpen s).map (·.span))) c.tracer := by
  obtain ⟨newer, position, older, -, hunwinds, -, hleft, -⟩ := unwinds h hs hc
  rw [Execution.spanOf?, Execution.spanOf?, Context.without, List.find?_filter]
  refine List.find?_congr fun q _ => ?_
  have hspan := hunwinds.span q
  rw [OpenSpan.siblings, hleft] at hspan
  have htracer : ((c.noted s).execution.span q).tracer = ((c.inner s).2.execution.span q).tracer := by
    show ((c.noted s).execution.outline q).tracer = ((c.inner s).2.execution.outline q).tracer
    rw [sameShape_noted.outline]
  have hended : (!((c.noted s).execution.span q).ended) = !((c.inner s).2.execution.span q).ended :=
    live_noted q
  by_cases hq : q ∈ (c.leftOpen s).map (·.span)
  · simp [hspan, hq]
  · simp [hspan, hq, htracer, hended, Bool.beq_eq_decide_eq]

/-- **The current span is the one from before exactly if the newest context that stays attached shows that.** -/
theorem currentSpan?_call_iff (h : Chronicle remoteParents log s.execution) (hs : s.Stacked)
    (hc : c.Orderly s) :
    (c.call s).2.execution.currentSpan? c.tracer = s.execution.currentSpan? c.tracer ↔
      c.Restores s := by
  have hhead : (c.remaining s).head? =
      some ((c.call s).2.execution.contexts.below.size, (c.call s).2.execution.currentContext) := by
    rw [← held_call h hs hc, AttachStack.held_eq_cons]
    rfl
  rw [Execution.currentSpan?, spanOf?_call h hs hc, Restores, hhead]
  simp

/-- If open spans and contexts agree when the body has ended, they agree after the call. -/
theorem aligned_call (hinner : (c.inner s).2.Aligned) : (c.call s).2.Aligned := by
  rw [← ScopedThread.unscoped_nil (c.inner s).2] at hinner
  have hnoted := ScopedThread.aligned_acts hinner
    (ScopedAction.act_of_mem_noteFailure (c.span s) (c.failure? s))
  rw [Program.run_noteFailure] at hnoted
  have hcall := ScopedThread.aligned_act hnoted (.endOpen c.tracer (c.span s))
  exact ScopedThread.unscoped_nil (c.call s).2 ▸ hcall

theorem attached_call (hs : s.Owns) (ha : s.Attached) (hc : c.Orderly s) :
    (c.call s).2.Attached := by
  rw [← ScopedThread.unscoped_nil s] at hs ha
  have hcall := ScopedThread.attached_run hs ha hc.unrefused
  rw [Program.run_eq, ScopedThread.unscoped_nil] at hcall
  exact hcall

/-- Then the current span is the one from before: what the tracer has open is the same, and none of it has
ended. -/
theorem restores_of_aligned (h : Chronicle remoteParents log s.execution) (hs : s.Aligned)
    (ha : s.Attached) (hc : c.Orderly s) (hinner : (c.inner s).2.Aligned) : c.Restores s := by
  obtain ⟨newer, position, older, hopen, hunwinds, holder, -⟩ := unwinds h hs.toStacked hc
  obtain ⟨hbegun, -, hnoted⟩ := stacked (c := c) hs.toStacked
  have hopened : (c.call s).2.execution.opened c.tracer = s.execution.opened c.tracer :=
    hunwinds.own.trans holder
  rw [← currentSpan?_call_iff h hs.toStacked hc,
    (aligned_call hinner).currentSpan?_eq_opened (attached_call hs.toOwns ha hc),
    hs.currentSpan?_eq_opened ha, hopened]
  congr 1
  refine List.find?_congr fun o ho => ?_
  have hknown := (hs.own o (List.mem_filter.1 ho).1).2
  rw [← holder] at ho
  calc (c.call s).2.execution.live o.span
      = (c.noted s).execution.live o.span :=
        hnoted.live_of_older hopen hunwinds (List.mem_filter.1 ho).1
    _ = (c.inner s).2.execution.live o.span := live_noted _
    _ = s.execution.live o.span := live_inner hbegun.toOwns hc hknown

/-- Open spans and contexts agree after a body that is direct. -/
theorem aligned_inner (hs : s.Aligned) (hdirect : (c.body (c.span s)).Direct) :
    (c.inner s).2.Aligned := by
  rw [← ScopedThread.unscoped_nil s] at hs
  have hinner := hdirect.aligned
    (ScopedThread.aligned_act hs (.start c.tracer c.name .unspecified))
  exact ScopedThread.unscoped_nil (c.inner s).2 ▸ hinner

end Call

/-! ### What the call leaves behind -/

/-- What a call leaves behind on the thread `s`, in a process with the given log. -/
structure Encloses (c : SpanCall ε α) (s : Thread) (log : SpanLog) : Prop
    extends Exports log (c.call s).2.execution where
  /-- The outcome of the body is handed back as it is. -/
  outcome : (c.call s).1 = (c.inner s).1
  /-- The span has ended. -/
  ended : ((c.call s).2.execution.span (c.span s)).ended = true
  /-- It was handed over if it is sampled. -/
  handed_iff : (log.handover? (c.span s)).isSome = true ↔
    ((c.call s).2.execution.span (c.span s)).context.isSampled = true
  /-- It was handed over with the failure, or else with the last status that the body has set. -/
  status : ∀ t data, log.handover? (c.span s) = some (t, data) →
    data.record.status = (c.failure? s).elim ((c.bodyLog s).lastStatus (c.span s)) .unknown
  /-- The tracer has unwound to the span, and so abandoned what the body has started and left open. -/
  unwinds : ∃ newer position older,
    (c.noted s).execution.openSpans = newer ++ ⟨c.tracer, c.span s, position⟩ :: older ∧
      (c.noted s).execution.Unwinds (c.call s).2.execution newer
        ⟨c.tracer, c.span s, position⟩ older ∧
      ∀ q ∈ c.started s, (c.inner s).2.execution.live q = true →
        q ∈ (newer.filter (·.tracer == c.tracer)).map (·.span)
  /-- The tracer has open what it had open before. -/
  opened : (c.call s).2.execution.opened c.tracer = s.execution.opened c.tracer
  /-- What the body has left attached stays so, apart from the contexts of the spans that left the stack. -/
  held : (c.call s).2.execution.contexts.held = c.remaining s
  /-- The current span is the one from before exactly if the newest of these contexts shows that. -/
  current_iff : (c.call s).2.execution.currentSpan? c.tracer = s.execution.currentSpan? c.tracer ↔
    c.Restores s
  /-- It does if open spans and contexts agree when the body has ended. -/
  restores : (c.inner s).2.Aligned → c.Restores s
  /-- They agree if the steps of suspended computations in the body open spans and tags in scopes only. -/
  aligned : (c.body (c.span s)).Direct → (c.inner s).2.Aligned

theorem encloses {remoteParents : TracerRef → Option SpanContext} {log : SpanLog}
    (h : Chronicle remoteParents log s.execution) (hs : s.Aligned) (ha : s.Attached)
    (hc : c.Orderly s) : c.Encloses s (log ++ c.callLog s) := by
  have hchronicle : Chronicle remoteParents _ (c.call s).2.execution := chronicle_call h
  have hstacked := hs.toStacked
  obtain ⟨newer, position, older, hopen, hunwinds, holder, -, habandoned⟩ := SpanCall.unwinds h hstacked hc
  obtain ⟨others, time, -, hlog⟩ := callLog_ends h hstacked hc
  have hended : SpanLog.hasEnded (log ++ c.callLog s) (c.span s) = true := by
    rw [hlog, SpanLog.hasEnded_append, SpanLog.hasEnded_append]
    simp [SpanLog.hasEnded, SpanEvent.endsSpan, SpanEvent.ending?]
  have hknown : (c.span s).index < (c.call s).2.execution.spans.size := by
    rw [hchronicle.size]
    exact hchronicle.lt_of_hasEnded hended
  refine {
    toExports := hchronicle.exports
    outcome := rfl
    ended := ?_
    handed_iff := ?_
    status := fun _ _ => status_handover? h hstacked hc
    unwinds := ⟨newer, position, older, hopen, hunwinds, habandoned⟩
    opened := hunwinds.own.trans holder
    held := held_call h hstacked hc
    current_iff := currentSpan?_call_iff h hstacked hc
    restores := restores_of_aligned h hs ha hc
    aligned := aligned_inner hs }
  · obtain ⟨birth, -, hspan⟩ := hchronicle.span_of_lt hknown
    rw [hspan]
    exact hended
  · rw [hchronicle.isSome_handover?_iff]
    simp [hknown, hended]

/-- **A span encloses the body that runs in it.** On every thread, and for every body that ends no span that
it has not started, when no context is refused: the outcome is that of the body, whether it ends with a
value, with an error or by crashing; the span has ended and was handed over once if it is sampled, with what
failed; before it, what the body has started and left open was abandoned, the newest first; and what the
tracer has open is what it had open before.  Its current span is the one from before exactly if the newest
context that is still attached shows that, which is so unless steps of suspended computations in the body
leave something open or attached. -/
theorem encloses_run (tracers : Array Tracer) (clock : Timestamp) (actions : List ThreadAction)
    (h : (Thread.fresh (.beginning tracers clock)).Unrefused actions) (c : SpanCall ε α)
    (hc : c.Orderly ((Thread.fresh (.beginning tracers clock)).run actions)) :
    let s := (Thread.fresh (.beginning tracers clock)).run actions
    c.Encloses s ((Process.fresh (.beginning tracers clock)).log
      (actions.map (fun a => .act (.act a)) ++ (c.program.actions s).map .act)) := by
  intro s
  have haligned : s.Aligned := Thread.aligned_run (Thread.aligned_fresh _) actions
  have hattached : s.Attached :=
    Thread.attached_run (Thread.aligned_fresh _) (fun _ ho => nomatch ho) h
  have hrun : (Process.fresh (.beginning tracers clock)).run
      (actions.map fun a => .act (.act a)) = ⟨⟨s, []⟩, []⟩ := Process.run_thread _ _
  have hchronicle : Chronicle _ _ _ :=
    chronicle_run tracers clock (actions.map fun a => .act (.act a))
  rw [hrun] at hchronicle
  rw [Process.log_append, hrun]
  exact encloses hchronicle haligned hattached hc

/-- A body that leaves open a span of its tracer and one of another, runs a further body inside a further
span, and fails. -/
def failing : SpanCall String Unit where
  tracer := ⟨0⟩
  name := "failing"
  message := id
  body span := .act (.start ⟨0⟩ "left" .client) <| .act (.start ⟨1⟩ "other" .client) <|
    .act (.change span (.status .ok)) <|
    .inSpan ⟨0⟩ "nested" id (fun _ => .done (.crash (.text "boom"))) fun _ => .done (.error "refused")

/-- The body ends none of the first `n` spans, which are all that there are when it begins. -/
theorem spares_of_lt {c : SpanCall ε α} {s : Thread} (n : Nat)
    (hsize : (c.begun s).execution.spans.size = n)
    (hlive : ∀ i < n, (c.inner s).2.execution.live ⟨i⟩ = true) (q : SpanRef)
    (hq : (c.begun s).execution.live q = true) : (c.inner s).2.execution.live q = true :=
  hlive q.index (hsize ▸ Execution.lt_size_of_live hq)

/-- What is open before, of both tracers. -/
def twoOpen : List ThreadAction :=
  [.start ⟨0⟩ "a" .server, .setTags .empty, .start ⟨1⟩ "b" .client]

theorem encloses_run_failing :
    (Thread.fresh (.beginning Thread.twoTracers.tracers default)).Unrefused twoOpen ∧
      failing.Orderly ((Thread.fresh (.beginning Thread.twoTracers.tracers default)).run twoOpen) ∧
      failing.Encloses ((Thread.fresh (.beginning Thread.twoTracers.tracers default)).run twoOpen)
        ((Process.fresh (.beginning Thread.twoTracers.tracers default)).log
          (twoOpen.map (fun a => .act (.act a)) ++ (failing.program.actions
            ((Thread.fresh (.beginning Thread.twoTracers.tracers default)).run twoOpen)).map .act)) := by
  let s := (Thread.fresh (.beginning Thread.twoTracers.tracers default)).run twoOpen
  have h : (Thread.fresh (.beginning Thread.twoTracers.tracers default)).Unrefused twoOpen := by
    decide +kernel
  have hc : failing.Orderly s :=
    ⟨by decide +kernel, spares_of_lt 3 (by decide +kernel) (by decide +kernel)⟩
  exact ⟨h, hc, encloses_run Thread.twoTracers.tracers default twoOpen h failing hc⟩

/-- A body that polls a suspended computation once.  The computation carries the empty context, and its step
leaves a span of another tracer open. -/
def polling : SpanCall String Unit where
  tracer := ⟨0⟩
  name := "polling"
  message := id
  body _ := .poll (.inContext .empty) id (fun _ => false)
    (.act (.start ⟨1⟩ "left" .client) (.done (.value ()))) fun _ => .done (.value ())

/-- What is open before that. -/
def oneOpen : List ThreadAction := [.start ⟨0⟩ "a" .server]

theorem orderly_polling :
    polling.Orderly ((Thread.fresh (.beginning Thread.twoTracers.tracers default)).run oneOpen) :=
  ⟨by decide +kernel, spares_of_lt 2 (by decide +kernel) (by decide +kernel)⟩

/-- Afterwards the span that was current before is open but not current: the context of the span that was left
open in the step is the newest, and it does not show it. -/
theorem not_forall_currentSpan?_call :
    ¬∀ (tracers : Array Tracer) (clock : Timestamp) (actions : List ThreadAction),
      (Thread.fresh (.beginning tracers clock)).Unrefused actions → ∀ c : SpanCall String Unit,
        let s := (Thread.fresh (.beginning tracers clock)).run actions
        c.Orderly s →
          (c.call s).2.execution.currentSpan? c.tracer = s.execution.currentSpan? c.tracer := by
  intro hall
  have hsame := hall Thread.twoTracers.tracers default oneOpen (by decide +kernel) polling
    orderly_polling
  have hbefore : ((Thread.fresh (.beginning Thread.twoTracers.tracers default)).run
      oneOpen).execution.currentSpan? polling.tracer = some ⟨0⟩ := by decide +kernel
  have hafter : (polling.call ((Thread.fresh (.beginning Thread.twoTracers.tracers default)).run
      oneOpen)).2.execution.currentSpan? polling.tracer = none := by decide +kernel
  rw [hafter, hbefore] at hsame
  cases hsame

end SpanCall

end Telemetry
