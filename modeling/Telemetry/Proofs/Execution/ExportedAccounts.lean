import Telemetry.Proofs.Execution.Handover
import Telemetry.Proofs.Execution.SpanAccounts

/-!
# Limits and drop counts of exported spans

An exporter gets with each span what was kept of the changes to it and how much was dropped, under the
limits of the tracer that started it.  `Process.accounted_run` says that this is so of every span, however it
was changed before its first end: by calls on the span or through its tracer, from one thread or several, and
with changes to other spans, new children and settings of name and status in between.

Limits do not change: a start takes identifiers from its tracer and leaves the rest of it as it is
(`Process.limits_step`).  So all changes to a span are made under the same limits, and the record after them
follows change by change (`SpanLog.accounts_recordAfter`).
-/

namespace Telemetry

/-! ### Changes in the log -/

/-- The change that is made to `s`, and when. -/
def SpanEvent.changeTo? (s : SpanRef) : SpanEvent → Option TimedChange
  | changes s' _ now c => if s' = s then some ⟨now, c⟩ else none
  | _ => none

namespace SpanLog

/-- The changes that are made to `s`, in order. -/
def changesTo (log : SpanLog) (s : SpanRef) : List TimedChange := log.filterMap (·.changeTo? s)

/-- All changes to `s` are made under the same limits. -/
def ChangedUnder (log : SpanLog) (s : SpanRef) (limits : SpanLimits) : Prop :=
  ∀ limits' now c, SpanEvent.changes s limits' now c ∈ log → limits' = limits

/-- Every change is made to a span that has begun, under the limits of its tracer. -/
def Limited (limits : TracerRef → SpanLimits) (log : SpanLog) : Prop :=
  ∀ s limits' now c, SpanEvent.changes s limits' now c ∈ log →
    ∃ birth, log.births[s.index]? = some birth ∧ limits' = limits birth.span.tracer

theorem changesTo_append (log log' : SpanLog) (s : SpanRef) :
    changesTo (log ++ log') s = log.changesTo s ++ log'.changesTo s := List.filterMap_append

end SpanLog

/-- What an event does to a record is what the change does that is made in it, if one is. -/
theorem SpanEvent.accounts_recordOn {limits : SpanLimits} {calls : List TimedChange} {r : SpanRecord}
    (h : r.Accounts limits (.ofCalls limits calls)) (event : SpanEvent) (s : SpanRef)
    (hlimits : SpanLog.ChangedUnder [event] s limits) :
    (event.recordOn s r).Accounts limits
      (.ofCalls limits (calls ++ SpanLog.changesTo [event] s)) := by
  cases event with
  | begins birth =>
    have hnone : SpanLog.changesTo [.begins birth] s = [] := rfl
    rw [hnone, List.append_nil, recordOn]
    split
    · exact h.addChild
    · exact h
  | changes s' limits' now c =>
    by_cases hs : s' = s
    · subst hs
      have hone : SpanLog.changesTo [.changes s' limits' now c] s' = [⟨now, c⟩] := by
        simp [SpanLog.changesTo, changeTo?]
      obtain rfl := hlimits limits' now c List.mem_cons_self
      rw [hone, Offers.ofCalls_concat, recordOn, if_pos rfl]
      exact h.apply now c
    · have hnone : SpanLog.changesTo [.changes s' limits' now c] s = [] := by
        simp [SpanLog.changesTo, changeTo?, hs]
      rw [hnone, List.append_nil, recordOn, if_neg hs]
      exact h
  | ends s' time =>
    have hnone : SpanLog.changesTo [.ends s' time] s = [] := rfl
    rw [hnone, List.append_nil]
    exact h

namespace SpanLog

variable {log log' : SpanLog} {s : SpanRef}

/-- **A record keeps accounts of all changes** that are made to its span. -/
theorem accounts_recordAfter {limits : SpanLimits} {r : SpanRecord}
    (hr : r.Accounts limits (.ofCalls limits [])) (hlog : log.ChangedUnder s limits) :
    (log.recordAfter s r).Accounts limits (.ofCalls limits (log.changesTo s)) := by
  induction log using List.reverseRecOn with
  | nil => exact hr
  | append_singleton log event ih =>
    have hbefore := ih fun limits' now c hmem => hlog limits' now c (List.mem_append_left _ hmem)
    rw [recordAfter_append, changesTo_append]
    exact SpanEvent.accounts_recordOn hbefore event s
      fun limits' now c hmem => hlog limits' now c (List.mem_append_right _ hmem)

/-- More changes are made under the same limits. -/
theorem Limited.append {limits : TracerRef → SpanLimits} (h : log.Limited limits)
    (h' : ∀ s limits' now c, SpanEvent.changes s limits' now c ∈ log' →
      ∃ birth, log.births[s.index]? = some birth ∧ limits' = limits birth.span.tracer) :
    Limited limits (log ++ log') := by
  intro s limits' now c hmem
  obtain ⟨birth, hbirth, rfl⟩ := (List.mem_append.1 hmem).elim (h s limits' now c) (h' s limits' now c)
  obtain ⟨hlt, -⟩ := List.getElem?_eq_some_iff.1 hbirth
  refine ⟨birth, ?_, rfl⟩
  rw [births_append, List.getElem?_append_left hlt, hbirth]

theorem Limited.changedUnder {limits : TracerRef → SpanLimits} (h : log.Limited limits)
    {birth : Birth} (hbirth : log.births[s.index]? = some birth) (hsub : log'.Sublist log) :
    log'.ChangedUnder s (limits birth.span.tracer) := by
  intro limits' now c hmem
  obtain ⟨birth', hbirth', rfl⟩ := h s limits' now c (hsub.mem hmem)
  rw [Option.some.inj (hbirth.symm.trans hbirth')]

end SpanLog

/-! ### Limits of tracers -/

namespace Execution

variable {e : Execution} {s q : SpanRef} {limits : SpanLimits} {now : Timestamp} {c c' : SpanChange}

/-- The limits of the tracers. -/
def tracerLimits (e : Execution) (t : TracerRef) : SpanLimits := (e.tracer t).limits

theorem limits_of_mem_changing (h : SpanEvent.changes q limits now c' ∈ e.changing s c) :
    q.index < e.spans.size ∧ limits = e.limitsOf q := by
  unfold changing reaching at h
  split at h
  next hs =>
    cases List.mem_singleton.1 h
    exact ⟨hs, rfl⟩
  next => cases h

theorem not_mem_ending (e : Execution) (s : SpanRef) (time : Timestamp) :
    SpanEvent.changes q limits now c ∉ e.ending s time := by
  unfold ending reaching
  split <;> simp

theorem limits_of_mem_abandoning {entry : OpenSpan}
    (h : SpanEvent.changes q limits now c ∈ e.abandoning entry) :
    q.index < e.spans.size ∧ limits = e.limitsOf q := by
  rcases List.mem_append.1 h with h | h
  · exact limits_of_mem_changing h
  · exact absurd h (e.not_mem_ending _ _)

end Execution

/-- **What an action changes, it changes under the limits of the tracer** of the span. -/
theorem Thread.limits_of_mem_events {s : Thread} {a : ThreadAction} {q : SpanRef} {limits : SpanLimits}
    {now : Timestamp} {c : SpanChange} (h : SpanEvent.changes q limits now c ∈ s.events a) :
    q.index < s.execution.spans.size ∧ limits = s.execution.limitsOf q := by
  have hending : ∀ span time, SpanEvent.changes q limits now c ∉ s.execution.ending span time :=
    s.execution.not_mem_ending
  cases a with
  | start t name kind => simp [events] at h
  | startIn t cx name kind => simp [events] at h
  | endNewest t =>
    unfold events at h
    dsimp only at h
    split at h
    · exact absurd h (hending _ _)
    · cases h
  | endOpen t span =>
    rcases List.mem_append.1 h with h | h
    · obtain ⟨entry, -, hentry⟩ := List.mem_flatMap.1 h
      exact Execution.limits_of_mem_abandoning hentry
    · exact absurd h (hending _ _)
  | endSpan span => exact absurd h (hending _ _)
  | endAt span time => exact absurd h (hending _ _)
  | change span c => exact Execution.limits_of_mem_changing h
  | changeCurrent t c =>
    unfold events at h
    dsimp only at h
    split at h
    · exact Execution.limits_of_mem_changing h
    · cases h
  | setTags tags => cases h
  | dropTags index => cases h
  | wait now => cases h

namespace Process

theorem limits_of_mem_events {p : Process} {a : ProcessAction} {q : SpanRef} {limits : SpanLimits}
    {now : Timestamp} {c : SpanChange} (h : SpanEvent.changes q limits now c ∈ p.events a) :
    q.index < p.execution.spans.size ∧ limits = p.execution.limitsOf q := by
  cases a with
  | act b =>
    cases b with
    | act a => exact Thread.limits_of_mem_events h
    | enter cx => cases h
    | leave => cases h
  | spawn => cases h
  | switch index => cases h

/-- **No action changes the limits of a tracer.** -/
theorem limits_step (p : Process) (a : ProcessAction) :
    (p.step a).execution.tracerLimits = p.execution.tracerLimits := by
  funext q
  rcases p.starts_or_not a with ⟨t, cx, name, kind, -, hasked⟩ | ⟨-, hasked⟩
  · have htracers : (p.step a).execution.tracers = _ := (Prod.mk.inj hasked).1
    rw [Execution.tracerLimits, Execution.tracer, htracers]
    exact Execution.tracer_startIn (fun _ _ => rfl) p.execution t cx name kind q
  · have htracers : (p.step a).execution.tracers = _ := (Prod.mk.inj hasked).1
    rw [Execution.tracerLimits, Execution.tracer, htracers]
    rfl

theorem limits_run (p : Process) (actions : List ProcessAction) :
    (p.run actions).execution.tracerLimits = p.execution.tracerLimits := by
  induction actions generalizing p with
  | nil => rfl
  | cons a rest ih => exact (ih (p.step a)).trans (p.limits_step a)

/-- **All changes in a run are made under the limits of tracers.** -/
theorem limited_log (tracers : Array Tracer) (clock : Timestamp) (actions : List ProcessAction) :
    let e := Execution.beginning tracers clock
    ((fresh e).log actions).Limited e.tracerLimits := by
  intro e
  induction actions using List.reverseRecOn with
  | nil => exact fun _ _ _ _ h => nomatch h
  | append_singleton actions a ih =>
    have hnow : Chronicle _ ((fresh e).log actions) _ := chronicle_run tracers clock actions
    rw [log_append]
    refine ih.append fun s limits' now c hmem => ?_
    have hevents : SpanEvent.changes s limits' now c ∈ ((fresh e).run actions).events a := by
      simpa [log] using hmem
    obtain ⟨hlt, rfl⟩ := limits_of_mem_events hevents
    obtain ⟨birth, hbirth, hspan⟩ := hnow.span_of_lt hlt
    refine ⟨birth, hbirth, ?_⟩
    rw [Execution.limitsOf, hspan]
    exact congrFun (limits_run (fresh e) actions) birth.span.tracer

end Process

/-! ### Exported spans -/

/-- A record tells what was kept of the changes made to it under its limits and how much was dropped. -/
def SpanRecord.Settles (limits : SpanLimits) (calls : List TimedChange) (r : SpanRecord) : Prop :=
  r.Accounts limits (.ofCalls limits calls) ∧ r.Bounded limits calls.length

/-- Spans tell of the changes made to them, under the limits of their tracers. -/
structure Accounted (limits : TracerRef → SpanLimits) (log : SpanLog) (e : Execution) : Prop where
  /-- Exporters got what is handed over at first ends. -/
  exported : e.exported.toList = log.firstEndings.filterMap log.handover?
  /-- What is recorded on a span tells of the changes so far. -/
  recorded : ∀ s r, (e.span s).record = some r →
    r.Settles (limits (e.span s).tracer) (log.changesTo s)
  /-- What is handed over tells of the changes until the first end. -/
  handed : ∀ s t data, log.handover? s = some (t, data) →
    t = (e.span s).tracer ∧ data.record.Settles (limits t) ((log.untilEnd s).changesTo s)

/-- What is recorded on a span after it began tells of the changes. -/
theorem SpanLog.Genuine.settles {remoteParents : TracerRef → Option SpanContext}
    {limits : TracerRef → SpanLimits} {log log' : SpanLog} (h : log.Genuine remoteParents)
    (hlimits : log.Limited limits) {s : SpanRef} {birth : Birth} {r : SpanRecord}
    (hbirth : log.births[s.index]? = some birth) (hr : birth.span.record = some r)
    (hsub : log'.Sublist log) :
    (log'.recordAfter s r).Settles (limits birth.span.tracer) (log'.changesTo s) := by
  obtain ⟨name, kind, now, sameProcess, rfl⟩ :=
    h.record_eq_start birth (List.mem_of_getElem? hbirth) r hr
  have haccounts := accounts_recordAfter (SpanRecord.Accounts.start _ name kind now sameProcess)
    (hlimits.changedUnder hbirth hsub)
  exact ⟨haccounts, haccounts.bounded⟩

theorem Chronicle.accounted {remoteParents : TracerRef → Option SpanContext}
    {limits : TracerRef → SpanLimits} {log : SpanLog} {e : Execution}
    (h : Chronicle remoteParents log e) (hlimits : log.Limited limits) : Accounted limits log e where
  exported := h.exported
  recorded s r hr := by
    cases hbirth : log.births[s.index]? with
    | none =>
      rw [h.span, SpanLog.spanNow, hbirth] at hr
      cases hr
    | some birth =>
      rw [h.span, SpanLog.spanNow, hbirth] at hr ⊢
      dsimp only at hr ⊢
      split at hr
      · cases hr
      · obtain ⟨r, hrecord, rfl⟩ := Option.map_eq_some_iff.1 hr
        exact h.genuine.settles hlimits hbirth hrecord (List.Sublist.refl log)
  handed s t data hdata := by
    obtain ⟨birth, r, time, hbirth, hrecord, -, rfl, rfl⟩ := SpanLog.handover?_eq_some_iff.1 hdata
    exact ⟨(h.identity hbirth).2.1.symm,
      h.genuine.settles hlimits hbirth hrecord (List.takeWhile_sublist _)⟩

/-- **What an exporter gets is within the limits and tells how much was dropped**, whatever limits tracers
have and however spans are changed.  A call that changes a span is one more change to it, at the time of the
call. -/
theorem Process.accounted_run (tracers : Array Tracer) (clock : Timestamp)
    (actions : List ProcessAction) :
    let e₀ := Execution.beginning tracers clock
    let log := (fresh e₀).log actions
    let e := ((fresh e₀).run actions).execution
    Accounted e₀.tracerLimits log e ∧
      ∀ s c, s.index < e.spans.size →
        ((fresh e₀).log (actions ++ [.act (.act (.change s c))])).changesTo s =
          log.changesTo s ++ [⟨e.clock, c⟩] := by
  intro e₀ log e
  have h : Chronicle _ log e := chronicle_run tracers clock actions
  refine ⟨h.accounted (limited_log tracers clock actions), ?_⟩
  intro s c hs
  have hevents : ((fresh e₀).run actions).log [.act (.act (.change s c))] =
      [.changes s (e.limitsOf s) e.clock c] := (List.append_nil _).trans (if_pos hs)
  rw [log_append, SpanLog.changesTo_append, hevents]
  simp [SpanLog.changesTo, SpanEvent.changeTo?, log]

/-- Of three keys the first two are kept, one with the value that it was set to later, and of the other
things, of which there are too many, the first. -/
example :
    let tracer := { Tracer.standard default with sampler := .always, limits := ⟨2, 1, 1, 0, 4⟩ }
    let calls : List SpanChange := [.attribute ⟨"a", .text (.whole "truncated")⟩,
      .attribute ⟨"b", .int 1⟩, .attribute ⟨"b", .int 2⟩, .attribute ⟨"c", .int 3⟩, .note "one" [],
      .note "two" [], .message ⟨.sent, 1, none, none⟩, .message ⟨.sent, 2, none, none⟩,
      .link (.ofContext .none .unspecified [])]
    let actions : List ThreadAction :=
      .start ⟨0⟩ "limited" .unspecified :: calls.map (.change ⟨0⟩) ++ [.endNewest ⟨0⟩]
    ((Process.fresh (.beginning #[tracer] default)).run
      (actions.map fun a => .act (.act a))).execution.exported.toList.map
        (fun data => (data.2.record.attributes, data.2.record.events.map (·.event),
          data.2.record.links, data.2.record.dropped)) =
      [([⟨"a", .text ⟨"trun", 5⟩⟩, ⟨"b", .int 2⟩],
        [.note "one" [], .message ⟨.sent, 1, none, none⟩], [], ⟨1, 1, 1, 1⟩)] := by
  decide +kernel

end Telemetry
