import Telemetry.Proofs.Execution.Parents

/-!
# The end of a span

An end closes the span and hands what was recorded to the exporter of its tracer, the first time only:
`span_endAt` and `exported_endAt` say what becomes of spans and of what was handed over, and `endAt_frame`
that nothing else changes.
-/

namespace Telemetry

/-- A span after its end. Only the first end counts. -/
def Span.closed (span : Span) : Span :=
  if span.ended then span else { span with ended := true, record := none }

@[simp] theorem Span.closed_closed (span : Span) : span.closed.closed = span.closed := by
  unfold closed
  split
  · rfl
  · rfl

@[simp] theorem Span.ended_closed (span : Span) : span.closed.ended = true := by
  unfold closed
  split
  next hended => exact hended
  next => rfl

namespace Execution

/-- What the end of `s` at `time` hands to the exporter of its tracer, if `f` is done to the record before
that. Nothing is handed over if the span has ended before or is not recorded. -/
def handover? (e : Execution) (s : SpanRef) (f : SpanRecord → SpanRecord) (time : Timestamp) :
    Option (TracerRef × SpanData) :=
  let span := e.span s
  if span.ended then none
  else span.record.map fun r => (span.tracer, (f r).finish span.context span.parent time)

variable (e : Execution) (s : SpanRef) (time : Timestamp)

theorem endAt_of_ended (h : (e.span s).ended = true) : e.endAt s time = e := by
  simp [endAt, h]

theorem span_endAt (q : SpanRef) :
    (e.endAt s time).span q = if s = q then (e.span q).closed else e.span q := by
  cases hended : (e.span s).ended with
  | true =>
    rw [endAt_of_ended e s time hended]
    split
    next hq => rw [← hq, Span.closed, if_pos hended]
    next => rfl
  | false =>
    have hlt : s.index < e.spans.size := lt_size_of_live (by simp [live, hended])
    have hmod : (e.endAt s time).span q =
        (e.modifySpan s ({ · with ended := true, record := none })).span q := by
      unfold endAt
      simp only [hended]
      cases (e.span s).record <;> rfl
    rw [hmod, span_modifySpan]
    by_cases hq : s = q
    · subst hq
      rw [if_pos ⟨rfl, hlt⟩, if_pos rfl, Span.closed, if_neg (by simp [hended])]
    · rw [if_neg fun h => hq h.1, if_neg hq]

theorem exported_endAt :
    (e.endAt s time).exported.toList = e.exported.toList ++ (e.handover? s id time).toList := by
  cases hended : (e.span s).ended with
  | true => simp [endAt_of_ended e s time hended, handover?, hended]
  | false =>
    unfold endAt handover?
    simp only [hended]
    cases (e.span s).record <;> simp [modifySpan]

/-- Nothing but spans and what was handed over changes. -/
theorem endAt_frame :
    e.endAt s time = { e with
      spans := (e.endAt s time).spans
      exported := (e.endAt s time).exported } := by
  unfold endAt
  dsimp only
  split
  · rfl
  · split <;> rfl

theorem size_endAt : (e.endAt s time).spans.size = e.spans.size :=
  (releases_endAt e s time).size

end Execution

end Telemetry
