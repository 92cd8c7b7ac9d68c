import Telemetry.Proofs.Execution.Handover

/-!
# The status of spans

A span begins with the status `ok`, and each time a status is set it replaces the one before.  So an exporter
gets a span with the status that was set last before its first end (`Genuine.status_handover?`), whatever
else was recorded.
-/

namespace Telemetry

/-- The status that a change sets, if it sets one. -/
def SpanChange.status? : SpanChange → Option Status
  | .status st => some st
  | .failure text => some (.unknown text)
  | _ => none

theorem SpanChange.status_apply (c : SpanChange) (limits : SpanLimits) (now : Timestamp)
    (r : SpanRecord) : (c.apply limits now r).status = c.status?.getD r.status := by
  cases c with
  | «attribute» a =>
    show (r.setAttribute limits a).status = r.status
    unfold SpanRecord.setAttribute
    dsimp only
    split
    · rfl
    · split <;> rfl
  | note text attributes =>
    show (r.addNote limits now text attributes).status = r.status
    unfold SpanRecord.addNote
    split <;> rfl
  | message event =>
    show (r.addMessage limits now event).status = r.status
    unfold SpanRecord.addMessage
    split <;> rfl
  | link link =>
    show (r.addLink limits link).status = r.status
    unfold SpanRecord.addLink
    split <;> rfl
  | status status => rfl
  | name name => rfl
  | failure message => rfl

namespace SpanEvent

/-- The status that the event sets on `s`, if it sets one. -/
def status? (s : SpanRef) : SpanEvent → Option Status
  | changes s' _ _ c => if s' = s then c.status? else none
  | _ => none

theorem status_recordOn (event : SpanEvent) (s : SpanRef) (r : SpanRecord) :
    (event.recordOn s r).status = (event.status? s).getD r.status := by
  cases event with
  | begins birth =>
    show (if _ then r.addChild else r).status = r.status
    split <;> rfl
  | changes s' limits now c =>
    by_cases hs : s' = s
    · simp [recordOn, status?, hs, SpanChange.status_apply]
    · simp [recordOn, status?, hs]
  | ends s' time => rfl

/-- An event that has nothing to do with a span sets no status on it. -/
theorem Ignores.status? {event : SpanEvent} {s : SpanRef} (h : event.Ignores s) :
    event.status? s = none := by
  cases hstatus : event.status? s with
  | none => rfl
  | some status =>
    -- It would be seen on a record that has another status.
    have hset : ∀ r : SpanRecord, status = r.status := by
      intro r
      have hrecord := event.status_recordOn s r
      rw [h.2 r, hstatus] at hrecord
      exact hrecord.symm
    have hother := hset ((SpanRecord.start "" .unspecified default none).setStatus (.unknown ""))
    rw [hset (SpanRecord.start "" .unspecified default none)] at hother
    exact absurd hother (by decide)

end SpanEvent

namespace SpanLog

/-- The statuses that were set on `s`, in order. -/
def statuses (log : SpanLog) (s : SpanRef) : List Status := log.filterMap (·.status? s)

/-- The status that was set last on `s`, or the one that spans begin with. -/
def lastStatus (log : SpanLog) (s : SpanRef) : Status := (log.statuses s).getLast?.getD .ok

theorem statuses_append (log log' : SpanLog) (s : SpanRef) :
    statuses (log ++ log') s = log.statuses s ++ log'.statuses s := List.filterMap_append

/-- What sets no status leaves the last one as it is. -/
theorem lastStatus_append_of_none {log' : SpanLog} {s : SpanRef}
    (h : log'.statuses s = []) (log : SpanLog) : lastStatus (log ++ log') s = log.lastStatus s := by
  rw [lastStatus, statuses_append, h, List.append_nil]
  rfl

/-- What happened before any status was set does not matter. -/
theorem lastStatus_append_left {log : SpanLog} {s : SpanRef} (h : log.statuses s = [])
    (log' : SpanLog) : lastStatus (log ++ log') s = log'.lastStatus s := by
  rw [lastStatus, statuses_append, h, List.nil_append]
  rfl

/-- A status that is set replaces the one before. -/
theorem lastStatus_concat (log : SpanLog) {event : SpanEvent} {s : SpanRef} {status : Status}
    (h : event.status? s = some status) : lastStatus (log ++ [event]) s = status := by
  simp [lastStatus, statuses, h]

/-- The status in a record is the one that was set last. -/
theorem status_recordAfter (log : SpanLog) (s : SpanRef) (r : SpanRecord) :
    (log.recordAfter s r).status = (log.statuses s).getLast?.getD r.status := by
  induction log using List.reverseRecOn with
  | nil => rfl
  | append_singleton log event ih =>
    have hlast : recordAfter (log ++ [event]) s r = event.recordOn s (recordAfter log s r) :=
      recordAfter_append log [event] s r
    rw [hlast, SpanEvent.status_recordOn, ih]
    cases hstatus : event.status? s <;> simp [statuses, hstatus]

/-- Between the events of a span and its end there may be events of other spans. -/
theorem lastStatus_untilEnd {log log' : SpanLog} {s : SpanRef} (hnot : log.hasEnded s = false)
    (hlog' : ∀ event ∈ log', event.Ignores s) (time : Timestamp) :
    (untilEnd (log ++ (log' ++ [.ends s time])) s).lastStatus s = log.lastStatus s := by
  have hnot' : hasEnded (log ++ log') s = false := by
    rw [hasEnded_append, hnot, Bool.false_or]
    exact List.any_eq_false.2 fun event hevent => by simp [(hlog' event hevent).1]
  have hends : (SpanEvent.ends s time).endsSpan s = true := decide_eq_true rfl
  rw [← List.append_assoc, untilEnd_concat hnot', if_pos hends, List.append_nil]
  exact lastStatus_append_of_none
    (List.filterMap_eq_nil_iff.2 fun event hevent => (hlog' event hevent).status?) log

/-- **A span is handed over with the status that was set last** before it first ended. -/
theorem Genuine.status_handover? {remoteParents : TracerRef → Option SpanContext} {log : SpanLog}
    (h : log.Genuine remoteParents) {s : SpanRef} {t : TracerRef} {data : SpanData}
    (hdata : log.handover? s = some (t, data)) :
    data.record.status = (log.untilEnd s).lastStatus s := by
  obtain ⟨birth, record, time, hbirth, hrecord, -, -, rfl⟩ := handover?_eq_some_iff.1 hdata
  obtain ⟨name, kind, now, sameProcess, rfl⟩ :=
    h.record_eq_start birth (List.mem_of_getElem? hbirth) record hrecord
  show ((log.untilEnd s).recordAfter s _).status = _
  rw [status_recordAfter]
  rfl

end SpanLog

/-- Nothing has set a status on a span that has not begun. -/
theorem Reflects.statuses_of_le {log : SpanLog} {e : Execution} (h : Reflects log e) {s : SpanRef}
    (hs : log.births.length ≤ s.index) : log.statuses s = [] :=
  List.filterMap_eq_nil_iff.2 fun event hevent => (h.known event hevent s hs).status?

end Telemetry
