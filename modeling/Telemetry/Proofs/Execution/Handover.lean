import Telemetry.Proofs.Execution.Process

/-!
# What exporters get

An exporter gets a span when the span is first reached by an operation that ends it, if the span is
sampled.  There are many such operations: a span is ended by itself or by its tracer, it is abandoned when
an older span ends, its guard is dropped, or it ends with the body that ran in it.  `Process.exported_run`
says that it makes no difference which of them reach a span, how often, and in which order.
-/

namespace Telemetry

/-- A span is recorded when it begins exactly if it is sampled. -/
theorem Execution.isSome_record_newSpan (e : Execution) (t : TracerRef) (cx : Context)
    (name : String) (kind : SpanKind) :
    (e.newSpan t cx name kind).record.isSome = (e.newSpan t cx name kind).context.isSampled := by
  unfold newSpan
  dsimp only
  split
  next h => rw [h]; rfl
  next h => rw [Bool.not_eq_true] at h; rw [h]; rfl

/-- What is recorded on a span when it begins is that it starts. -/
theorem Execution.record_newSpan (e : Execution) (t : TracerRef) (cx : Context) (name : String)
    (kind : SpanKind) : ∀ r ∈ (e.newSpan t cx name kind).record,
      ∃ name kind now sameProcess, r = SpanRecord.start name kind now sameProcess := by
  intro r hr
  unfold newSpan at hr
  dsimp only at hr
  split at hr
  · exact ⟨_, _, _, _, (Option.some.inj hr).symm⟩
  · cases hr

namespace SpanLog

/-- In a genuine log, recorded spans are the sampled ones. -/
theorem Genuine.isSome_record {remoteParents : TracerRef → Option SpanContext} {log : SpanLog}
    (h : log.Genuine remoteParents) : ∀ birth ∈ log.births,
      birth.span.record.isSome = birth.span.context.isSampled :=
  h.forall_births Execution.isSome_record_newSpan

/-- In a genuine log, nothing is recorded on a span before it begins. -/
theorem Genuine.record_eq_start {remoteParents : TracerRef → Option SpanContext} {log : SpanLog}
    (h : log.Genuine remoteParents) : ∀ birth ∈ log.births, ∀ r ∈ birth.span.record,
      ∃ name kind now sameProcess, r = SpanRecord.start name kind now sameProcess :=
  h.forall_births Execution.record_newSpan

theorem isSome_endTime? (log : SpanLog) (s : SpanRef) :
    (log.endTime? s).isSome = log.hasEnded s := by
  unfold endTime? hasEnded
  cases hfind : log.find? (·.endsSpan s) with
  | none =>
    exact (List.any_eq_false.2 (List.find?_eq_none.1 hfind)).symm
  | some event =>
    have hevent := List.find?_some hfind
    rw [List.any_eq_true.2 ⟨event, List.mem_of_find?_eq_some hfind, hevent⟩]
    obtain ⟨ending, hending, -⟩ := (Option.any_eq_true _ _).1 hevent
    rw [Option.bind_some, hending]
    rfl

/-- Something is handed over exactly if the span is recorded and has ended. -/
theorem isSome_handover? {log : SpanLog} {s : SpanRef} {birth : Birth}
    (hbirth : log.births[s.index]? = some birth) :
    (log.handover? s).isSome = (birth.span.record.isSome && log.hasEnded s) := by
  rw [← isSome_endTime?]
  cases hrecord : birth.span.record with
  | none => simp [handover?, hbirth, hrecord]
  | some record => cases htime : log.endTime? s <;> simp [handover?, hbirth, hrecord, htime]

/-- What is handed over is the span with all that was recorded on it until it first ended. -/
theorem handover?_eq_some_iff {log : SpanLog} {s : SpanRef} {t : TracerRef} {data : SpanData} :
    log.handover? s = some (t, data) ↔
      ∃ birth record time, log.births[s.index]? = some birth ∧ birth.span.record = some record ∧
        log.endTime? s = some time ∧ t = birth.span.tracer ∧
        data = ((log.untilEnd s).recordAfter s record).finish birth.span.context
          birth.span.parent time := by
  simp only [handover?, Option.bind_eq_bind, Option.bind_eq_some_iff, Option.pure_def,
    Option.some.injEq, Prod.mk.injEq]
  constructor
  · rintro ⟨birth, hbirth, record, hrecord, time, htime, rfl, rfl⟩
    exact ⟨birth, record, time, hbirth, hrecord, htime, rfl, rfl⟩
  · rintro ⟨birth, record, time, hbirth, hrecord, htime, rfl, rfl⟩
    exact ⟨birth, hbirth, record, hrecord, time, htime, rfl, rfl⟩

/-- First endings stay the first. -/
theorem prefix_firstEndings (log log' : SpanLog) :
    log.firstEndings <+: firstEndings (log ++ log') := by
  have happend : endings (log ++ log') = log.endings ++ log'.endings := List.filterMap_append
  rw [firstEndings, firstEndings, happend, List.eraseDups_append]
  exact List.prefix_append _ _

end SpanLog

/-- What exporters got they keep. -/
theorem Reflects.prefix_exported {log log' : SpanLog} {e e' : Execution} (h : Reflects log e)
    (h' : Reflects (log ++ log') e') : e.exported.toList <+: e'.exported.toList := by
  obtain ⟨others, hothers⟩ := log.prefix_firstEndings log'
  rw [h'.exported, ← hothers, List.filterMap_append, h.exported_append]
  exact List.prefix_append _ _

/-- Sampled spans that have ended are handed over, and no others. -/
theorem Chronicle.isSome_handover?_iff {remoteParents : TracerRef → Option SpanContext}
    {log : SpanLog} {e : Execution} (h : Chronicle remoteParents log e) (s : SpanRef) :
    (log.handover? s).isSome = true ↔
      s.index < e.spans.size ∧ (e.span s).context.isSampled = true ∧ log.hasEnded s = true := by
  cases hbirth : log.births[s.index]? with
  | none =>
    have hle : e.spans.size ≤ s.index := by
      rw [h.size]
      exact List.getElem?_eq_none_iff.1 hbirth
    simp [SpanLog.handover?, hbirth, Nat.not_lt.2 hle]
  | some birth =>
    obtain ⟨hlt, -, hcontext, -⟩ := h.identity hbirth
    rw [SpanLog.isSome_handover? hbirth, h.genuine.isSome_record birth (List.mem_of_getElem? hbirth),
      hcontext, Bool.and_eq_true]
    exact (and_iff_right hlt).symm

/-- What exporters got is what the log says that they get. -/
structure Exports (log : SpanLog) (e : Execution) : Prop where
  /-- They got what the log has for the first endings, in their order. -/
  exported : e.exported.toList = log.firstEndings.filterMap log.handover?
  /-- Each span has one first ending. -/
  once : log.firstEndings.Nodup
  /-- It has one if an operation that ends it reached it, and none otherwise. -/
  reached : ∀ s, s ∈ log.firstEndings ↔ log.hasEnded s = true
  /-- Something is handed over for it exactly if it is sampled. -/
  sampled : ∀ s, (log.handover? s).isSome = true ↔
    s.index < e.spans.size ∧ (e.span s).context.isSampled = true ∧ log.hasEnded s = true
  /-- It goes to the tracer that started the span. -/
  handed : ∀ s t data, log.handover? s = some (t, data) →
    t = (e.span s).tracer ∧ data.context = (e.span s).context ∧ data.parent = (e.span s).parent
  /-- It is what was recorded since the span began until it first ended. -/
  record : ∀ s t data, log.handover? s = some (t, data) →
    ∃ birth record, log.births[s.index]? = some birth ∧ birth.span.record = some record ∧
      data.record = (log.untilEnd s).recordAfter s record
  /-- The span does not end before it started. -/
  ordered : ∀ s t data, log.handover? s = some (t, data) →
    data.record.startTime.ticks ≤ data.endTime.ticks

theorem Chronicle.exports {remoteParents : TracerRef → Option SpanContext} {log : SpanLog}
    {e : Execution} (h : Chronicle remoteParents log e) : Exports log e where
  exported := h.exported
  once := log.nodup_firstEndings
  reached _ := SpanLog.mem_firstEndings_iff
  sampled := h.isSome_handover?_iff
  handed s t data hdata := by
    obtain ⟨birth, record, time, hbirth, -, -, rfl, rfl⟩ := SpanLog.handover?_eq_some_iff.1 hdata
    obtain ⟨-, htracer, hcontext, hparent⟩ := h.identity hbirth
    exact ⟨htracer.symm, hcontext.symm, hparent.symm⟩
  record s t data hdata := by
    obtain ⟨birth, record, time, hbirth, hrecord, -, -, rfl⟩ :=
      SpanLog.handover?_eq_some_iff.1 hdata
    exact ⟨birth, record, hbirth, hrecord, rfl⟩
  ordered s t data hdata := by
    obtain ⟨birth, record, time, -, -, -, -, rfl⟩ := SpanLog.handover?_eq_some_iff.1 hdata
    exact SpanRecord.startTime_le_endTime _ _ _ _

/-- **Every sampled span that ends is handed over once**, at its first end and as it was then, whatever
reaches it later, and no other span is.  This holds at every point of every run, on one thread or on several,
and programs are runs. -/
theorem Process.exported_run (tracers : Array Tracer) (clock : Timestamp)
    (actions : List ProcessAction) :
    let p := fresh (.beginning tracers clock)
    let log := p.log actions
    let e := (p.run actions).execution
    Exports log e ∧
      (∀ later, e.exported.toList <+: (p.run (actions ++ later)).execution.exported.toList) ∧
      ∀ {ε α : Type} (program : Program ε α),
        p.run (actions ++ program.turns (p.run actions)) = (p.run actions).runProgram program := by
  intro p log e
  have h : Chronicle _ log e := chronicle_run tracers clock actions
  refine ⟨h.exports, ?_, ?_⟩
  · intro later
    have hlater : Chronicle _ (p.log (actions ++ later)) (p.run (actions ++ later)).execution :=
      chronicle_run tracers clock (actions ++ later)
    rw [log_append] at hlater
    exact h.toReflects.prefix_exported hlater.toReflects
  · intro ε α program
    rw [run_append, run_turns]

/-- A span that is abandoned, then ended by its tracer and by itself, is handed over once, before the one
that abandoned it. -/
example :
    let begun := Process.fresh (.beginning Thread.twoTracers.tracers default)
    let actions : List ThreadAction := [.start ⟨0⟩ "a" .server, .start ⟨0⟩ "b" .client,
      .endOpen ⟨0⟩ ⟨0⟩, .endOpen ⟨0⟩ ⟨1⟩, .endSpan ⟨1⟩]
    (begun.run (actions.map fun a => .act (.act a))).execution.exported.toList.map
      (·.2.record.name) = ["b", "a"] := by
  decide +kernel

end Telemetry
