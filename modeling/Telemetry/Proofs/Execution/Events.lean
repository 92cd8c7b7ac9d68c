import Telemetry.Proofs.Execution.Program
import Telemetry.Proofs.Execution.SpanLog

/-!
# What the actions of threads do to spans

Each action has its share in the log of spans: `Thread.events` says which span begins, whose record is
changed and which spans are reached by an operation that ends them, in order.  It says so in terms of the
thread before the action.  `Reflects.step` says that the action does to spans what its share says, and
`Thread.starts_or_not` that a span which begins is all that happens in its action.
-/

namespace Telemetry
namespace Execution

/-- Where a span of `t` that is started in `cx` comes from. -/
def descent (e : Execution) (t : TracerRef) (cx : Context) : Descent :=
  match e.spanOf? cx t with
  | some parent => .child parent
  | none =>
    match (e.tracer t).remoteParent with
    | some remote => .remote remote
    | none => .root

/-- A span of `t` that is started in `cx`, as it begins. -/
def birth (e : Execution) (t : TracerRef) (cx : Context) (name : String) (kind : SpanKind) : Birth :=
  ⟨e.newSpan t cx name kind, e.descent t cx⟩

/-- The events about `s`, if there is such a span. -/
def reaching (e : Execution) (s : SpanRef) (events : SpanLog) : SpanLog :=
  if s.index < e.spans.size then events else []

theorem reaching_congr {e e' : Execution} (h : e'.spans.size = e.spans.size) (s : SpanRef)
    (events : SpanLog) : e'.reaching s events = e.reaching s events := by
  rw [reaching, reaching, h]

/-- What is recorded on `s` is changed. -/
def changing (e : Execution) (s : SpanRef) (c : SpanChange) : SpanLog :=
  e.reaching s [.changes s (e.limitsOf s) e.clock c]

/-- An operation that ends `s` reaches it. -/
def ending (e : Execution) (s : SpanRef) (time : Timestamp) : SpanLog :=
  e.reaching s [.ends s time]

/-- An open span is abandoned. -/
def abandoning (e : Execution) (entry : OpenSpan) : SpanLog :=
  e.changing entry.span (.status abandonedStatus) ++ e.ending entry.span e.clock

@[simp] theorem births_changing (e : Execution) (s : SpanRef) (c : SpanChange) :
    (e.changing s c).births = [] := by
  unfold changing reaching
  split <;> rfl

@[simp] theorem births_ending (e : Execution) (s : SpanRef) (time : Timestamp) :
    (e.ending s time).births = [] := by
  unfold ending reaching
  split <;> rfl

@[simp] theorem births_abandoning (e : Execution) (entry : OpenSpan) :
    (e.abandoning entry).births = [] := by
  rw [abandoning, SpanLog.births_append, births_changing, births_ending, List.append_nil]

/-- The open spans of `t` that are newer than its open span `s`; none if that is not open. -/
def newerOpen (e : Execution) (t : TracerRef) (s : SpanRef) : List OpenSpan :=
  let isOther (entry : OpenSpan) : Bool := !(entry.tracer == t && entry.span == s)
  if e.openSpans.all isOther then []
  else (e.openSpans.takeWhile isOther).filter (·.tracer == t)

theorem newerOpen_of_not_open {e : Execution} {t : TracerRef} {s : SpanRef}
    (h : ∀ o ∈ e.openSpans, ¬(o.tracer = t ∧ o.span = s)) : e.newerOpen t s = [] := by
  refine if_pos (List.all_eq_true.2 fun o ho => ?_)
  simpa [imp_iff_not_or] using h o ho

theorem newerOpen_of_open {e : Execution} {entry : OpenSpan} {newer older : List OpenSpan}
    (hopen : e.openSpans = newer ++ entry :: older)
    (hnewer : ∀ o ∈ newer, ¬(o.tracer = entry.tracer ∧ o.span = entry.span)) :
    e.newerOpen entry.tracer entry.span = newer.filter (·.tracer == entry.tracer) := by
  have hnot : ∀ o ∈ newer,
      (!(o.tracer == entry.tracer && o.span == entry.span)) = true := fun o ho => by
    simpa [imp_iff_not_or] using hnewer o ho
  unfold newerOpen
  rw [if_neg (by simp [hopen]), hopen, List.takeWhile_append_of_pos hnot,
    List.takeWhile_cons_of_neg (by simp), List.append_nil]

/-- Detaching touches neither spans nor exporters, nor does time pass. -/
theorem detach_shared (e : Execution) (position : Option Nat) :
    (e.detach position).spans = e.spans ∧ (e.detach position).exported = e.exported ∧
      (e.detach position).clock = e.clock := by
  unfold detach
  split
  · exact ⟨rfl, rfl, rfl⟩
  · split <;> exact ⟨rfl, rfl, rfl⟩

theorem rewound_shared (e : Execution) (s : SpanRef) (abandoned kept : List OpenSpan) :
    (Thread.rewound e s abandoned kept).spans = e.spans ∧
      (Thread.rewound e s abandoned kept).exported = e.exported ∧
      (Thread.rewound e s abandoned kept).clock = e.clock := by
  unfold Thread.rewound
  dsimp only
  split <;> exact ⟨rfl, rfl, rfl⟩

theorem attach_shared (e : Execution) (cx : Context) :
    (e.attach cx).2.spans = e.spans ∧ (e.attach cx).2.exported = e.exported := by
  unfold attach
  split <;> exact ⟨rfl, rfl⟩

/-- The parent of a new span counts it, and no other span is touched. -/
theorem origin_shared (e : Execution) (t : TracerRef) (cx : Context) (name : String) :
    (e.origin t cx name).2.spans = (Reflects.counted e (e.descent t cx)).spans ∧
      (e.origin t cx name).2.exported = e.exported := by
  unfold descent
  cases hparent : e.spanOf? cx t with
  | some parent =>
    rw [origin_of_parent hparent]
    exact ⟨rfl, rfl⟩
  | none =>
    dsimp only
    cases hremote : (e.tracer t).remoteParent with
    | some remote =>
      rw [origin_of_remote hparent hremote]
      exact ⟨rfl, rfl⟩
    | none =>
      rw [origin_of_none hparent hremote]
      exact ⟨rfl, rfl⟩

theorem descent_eq_child_iff {e : Execution} {t : TracerRef} {cx : Context} {parent : SpanRef} :
    e.descent t cx = .child parent ↔ e.spanOf? cx t = some parent := by
  unfold descent
  cases e.spanOf? cx t with
  | some q => simp
  | none => cases (e.tracer t).remoteParent <;> simp

end Execution

namespace Thread

/-- What an action does to spans. -/
def events (s : Thread) : ThreadAction → SpanLog
  | .start t name kind => [.begins (s.execution.birth t s.execution.currentContext name kind)]
  | .startIn t cx name kind => [.begins (s.execution.birth t cx name kind)]
  | .endNewest t =>
    match s.execution.openSpans.find? (·.tracer == t) with
    | some entry => s.execution.ending entry.span s.execution.clock
    | none => []
  | .endOpen t span =>
    (s.execution.newerOpen t span).flatMap s.execution.abandoning ++
      s.execution.ending span s.execution.clock
  | .endSpan span => s.execution.ending span s.execution.clock
  | .endAt span time => s.execution.ending span time
  | .change span c => s.execution.changing span c
  | .changeCurrent t c =>
    match s.execution.currentSpan? t with
    | some span => s.execution.changing span c
    | none => []
  | .setTags _ => []
  | .dropTags _ => []
  | .wait _ => []

end Thread

namespace Reflects

variable {log : SpanLog} {e e' : Execution} {s : Thread}

/-- A change to no span changes nothing. -/
theorem reaching_changes (h : Reflects log e) (s : SpanRef) (limits : SpanLimits) (now : Timestamp)
    (c : SpanChange) :
    Reflects (log ++ e.reaching s [.changes s limits now c])
      (e.modifyRecord s (c.apply limits now)) := by
  unfold Execution.reaching
  split
  next hs => exact h.changes hs limits now c
  next hs =>
    have hspans : (e.modifyRecord s (c.apply limits now)).spans = e.spans := by
      simp [Execution.modifyRecord, Execution.modifySpan, Array.modify, Array.modifyM, hs]
    rw [List.append_nil]
    exact h.silent hspans rfl

theorem change (h : Reflects log e) (s : SpanRef) (c : SpanChange) :
    Reflects (log ++ e.changing s c) (e.change s c) := by
  rw [Execution.change_eq]
  exact h.reaching_changes s _ _ c

/-- A reference to no span reads as one to a span that has ended. -/
theorem endAt (h : Reflects log e) (s : SpanRef) (time : Timestamp) :
    Reflects (log ++ e.ending s time) (e.endAt s time) := by
  unfold Execution.ending Execution.reaching
  split
  next hs => exact h.ends hs time
  next hs =>
    have hended : (e.span s).ended = true := by
      by_contra hlive
      exact hs (Execution.lt_size_of_live (by simpa [Execution.live] using hlive))
    rw [List.append_nil, Execution.endAt_of_ended e s time hended]
    exact h

theorem detach (h : Reflects log e) (position : Option Nat) :
    Reflects log (e.detach position) :=
  h.silent (e.detach_shared position).1 (e.detach_shared position).2.1

theorem attach (h : Reflects log e) (cx : Context) : Reflects log (e.attach cx).2 :=
  h.silent (e.attach_shared cx).1 (e.attach_shared cx).2

/-- A span ends now, where now is the time of `e` and the spans are those of `e`. -/
theorem endSpan_of_same (h : Reflects log e') (hsize : e'.spans.size = e.spans.size)
    (hclock : e'.clock = e.clock) (s : SpanRef) :
    Reflects (log ++ e.ending s e.clock) (e'.endSpan s) := by
  have hend := h.endAt s e'.clock
  rw [Execution.ending, Execution.reaching_congr hsize, hclock] at hend
  rw [Execution.endSpan, hclock]
  exact hend

/-- The events of an abandoned span are those of the execution `e` in which the rewinding began. -/
theorem abandon (h : Reflects log e') (hsize : e'.spans.size = e.spans.size)
    (hclock : e'.clock = e.clock) (entry : OpenSpan) :
    Reflects (log ++ e.abandoning entry) (e'.abandon entry) ∧
      (e'.abandon entry).spans.size = e.spans.size ∧ (e'.abandon entry).clock = e.clock := by
  obtain ⟨hspans, -, hdetach⟩ := e'.detach_shared entry.position
  have hdetached : (e'.detach entry.position).spans.size = e.spans.size := by rw [hspans, hsize]
  have hstatus : Reflects _ ((e'.detach entry.position).setStatus entry.span
      Execution.abandonedStatus) :=
    (h.detach entry.position).reaching_changes entry.span (e.limitsOf entry.span) e.clock
      (.status Execution.abandonedStatus)
  have hmarked : ((e'.detach entry.position).setStatus entry.span
      Execution.abandonedStatus).spans.size = e.spans.size := by
    rw [← hdetached]
    exact Array.size_modify
  have hclock' : ((e'.detach entry.position).setStatus entry.span
      Execution.abandonedStatus).clock = e.clock := hdetach.trans hclock
  have hend := hstatus.endSpan_of_same hmarked hclock' entry.span
  rw [Execution.reaching_congr hdetached, List.append_assoc] at hend
  refine ⟨hend, ?_, ?_⟩
  · rw [Execution.abandon, Execution.endSpan, Execution.size_endAt, hmarked]
  · rw [Execution.abandon, Execution.endSpan, Execution.endAt_frame]
    exact hclock'

theorem foldl_abandon (h : Reflects log e') (hsize : e'.spans.size = e.spans.size)
    (hclock : e'.clock = e.clock) (entries : List OpenSpan) :
    Reflects (log ++ entries.flatMap e.abandoning) (entries.foldl Execution.abandon e') ∧
      (entries.foldl Execution.abandon e').spans.size = e.spans.size ∧
      (entries.foldl Execution.abandon e').clock = e.clock := by
  induction entries generalizing log e' with
  | nil =>
    rw [List.flatMap_nil, List.append_nil]
    exact ⟨h, hsize, hclock⟩
  | cons entry rest ih =>
    obtain ⟨habandon, hsize', hclock'⟩ := h.abandon hsize hclock entry
    rw [List.flatMap_cons, ← List.append_assoc]
    exact ih habandon hsize' hclock'

/-- The newer open spans are abandoned, and the span itself ends. -/
theorem endOpen (h : Reflects log e) (t : TracerRef) (s : SpanRef) :
    Reflects (log ++ ((e.newerOpen t s).flatMap e.abandoning ++ e.ending s e.clock))
      (e.endOpen t s) := by
  rcases Thread.open_or_not e t s with hnot | ⟨newer, entry, older, hopen, rfl, rfl, hnewer⟩
  · rw [Execution.newerOpen_of_not_open hnot, Thread.endOpen_of_not_open hnot]
    exact h.endAt s e.clock
  · rw [Execution.newerOpen_of_open hopen hnewer, Thread.endOpen_of_open hopen hnewer,
      ← List.append_assoc]
    obtain ⟨hspans, hexported, hclock⟩ := Execution.rewound_shared e entry.span
      (newer.filter (·.tracer == entry.tracer)) (newer.filter (·.tracer != entry.tracer) ++ older)
    obtain ⟨habandon, hsize, hclock⟩ := (h.silent hspans hexported).foldl_abandon
      (congrArg Array.size hspans) hclock (newer.filter (·.tracer == entry.tracer))
    exact (habandon.detach entry.position).endSpan_of_same
      (by rw [(Execution.detach_shared _ _).1, hsize])
      ((Execution.detach_shared _ _).2.2.trans hclock) entry.span

/-- A span of `t` begins in `cx`. -/
theorem startIn (h : Reflects log e) (t : TracerRef) (cx : Context) (name : String)
    (kind : SpanKind) :
    Reflects (log ++ [.begins (e.birth t cx name kind)]) (e.startIn t cx name kind).2 := by
  obtain ⟨hspans, hexported⟩ := e.origin_shared t cx name
  rw [Execution.startIn_eq]
  refine h.begins rfl ?_ ?_ hexported
  · intro p hp
    exact Execution.lt_size_of_live (Execution.of_spanOf? (Execution.descent_eq_child_iff.1 hp)).2
  · show (e.origin t cx name).2.spans.push _ = _
    rw [hspans]
    rfl

theorem start (h : Reflects log e) (t : TracerRef) (name : String) (kind : SpanKind) :
    Reflects (log ++ [.begins (e.birth t e.currentContext name kind)]) (e.start t name kind).2 := by
  rw [Thread.start_eq]
  exact ((h.startIn t e.currentContext name kind).attach _).silent rfl rfl

/-- The newest open span of `t` ends, if there is one. -/
theorem endNewest (h : Reflects log s.execution) (t : TracerRef) :
    Reflects (log ++ s.events (.endNewest t)) (s.execution.endNewest t) := by
  unfold Thread.events Execution.endNewest
  dsimp only
  cases s.execution.openSpans.find? (·.tracer == t) with
  | none =>
    rw [List.append_nil]
    exact h.silent rfl rfl
  | some entry =>
    obtain ⟨hspans, -, hclock⟩ := Execution.detach_shared { s.execution with
      openSpans := s.execution.openSpans.eraseP (·.tracer == t) } entry.position
    have hopen : Reflects log { s.execution with
        openSpans := s.execution.openSpans.eraseP (·.tracer == t) } := h.silent rfl rfl
    exact (hopen.detach entry.position).endSpan_of_same (congrArg Array.size hspans) hclock
      entry.span

/-- **An action does to spans what its share of the log says.** -/
theorem step (h : Reflects log s.execution) (a : ThreadAction) :
    Reflects (log ++ s.events a) (s.step a).execution := by
  cases a with
  | start t name kind => exact h.start t name kind
  | startIn t cx name kind => exact h.startIn t cx name kind
  | endNewest t => exact h.endNewest t
  | endOpen t span => exact h.endOpen t span
  | endSpan span => exact h.endAt span _
  | endAt span time => exact h.endAt span time
  | change span c => exact h.change span c
  | changeCurrent t c =>
    unfold Thread.events Thread.step Execution.onCurrent
    dsimp only
    cases s.execution.currentSpan? t with
    | some span => exact h.change span c
    | none =>
      rw [List.append_nil]
      exact h
  | setTags tags =>
    rw [Thread.events, List.append_nil]
    exact h.attach _
  | dropTags index =>
    rw [Thread.events, List.append_nil, Thread.step]
    split
    · exact h.detach _
    · exact h
  | wait now =>
    rw [Thread.events, List.append_nil]
    exact h.silent rfl rfl

end Reflects

/-! ### Tracers and samplers -/

namespace Execution

/-- The tracers, and what their samplers were asked. -/
def asked (e : Execution) : Array Tracer × Array Consultation := (e.tracers, e.consulted)

variable (e : Execution)

@[simp] theorem asked_report (d : Diagnostic) : (e.report d).asked = e.asked := rfl

@[simp] theorem asked_modifyRecord (s : SpanRef) (f : SpanRecord → SpanRecord) :
    (e.modifyRecord s f).asked = e.asked := rfl

@[simp] theorem asked_openSpans (openSpans : List OpenSpan) :
    asked { e with openSpans } = e.asked := rfl

@[simp] theorem asked_attach (cx : Context) : (e.attach cx).2.asked = e.asked := by
  unfold attach
  split <;> rfl

@[simp] theorem asked_detach (position : Option Nat) : (e.detach position).asked = e.asked := by
  unfold detach
  split
  · rfl
  · split <;> rfl

@[simp] theorem asked_endAt (s : SpanRef) (time : Timestamp) :
    (e.endAt s time).asked = e.asked := by
  rw [endAt_frame]
  rfl

@[simp] theorem asked_foldl_abandon (entries : List OpenSpan) :
    (entries.foldl abandon e).asked = e.asked := by
  induction entries generalizing e with
  | nil => rfl
  | cons entry rest ih => simp [ih, abandon, endSpan, setStatus]

@[simp] theorem asked_endOpen (t : TracerRef) (s : SpanRef) :
    (e.endOpen t s).asked = e.asked := by
  unfold endOpen
  dsimp only
  split
  · exact e.asked_endAt s _
  · split <;> simp [endSpan]

end Execution

namespace Thread

/-- **An action starts one span, or it starts none** and then no sampler is asked. -/
theorem starts_or_not (s : Thread) (a : ThreadAction) :
    (∃ t cx name kind, s.events a = [.begins (s.execution.birth t cx name kind)] ∧
      (s.step a).execution.asked = (s.execution.startIn t cx name kind).2.asked) ∨
    ((s.events a).births = [] ∧ (s.step a).execution.asked = s.execution.asked) := by
  cases a with
  | start t name kind =>
    refine .inl ⟨t, _, name, kind, rfl, ?_⟩
    show (s.execution.start t name kind).2.asked = _
    rw [start_eq]
    exact Execution.asked_attach _ _
  | startIn t cx name kind => exact .inl ⟨t, cx, name, kind, rfl, rfl⟩
  | endNewest t =>
    right
    cases hfind : s.execution.openSpans.find? (·.tracer == t) with
    | none => simp [events, step, Execution.endNewest, hfind]
    | some entry => simp [events, step, Execution.endNewest, hfind, Execution.endSpan]
  | endOpen t span =>
    refine .inr ⟨?_, Execution.asked_endOpen _ _ _⟩
    rw [events, SpanLog.births_append, Execution.births_ending, List.append_nil]
    simpa [SpanLog.births, List.filterMap_flatMap] using fun entry _ =>
      List.filterMap_eq_nil_iff.1 (s.execution.births_abandoning entry)
  | endSpan span => exact .inr ⟨Execution.births_ending _ _ _, Execution.asked_endAt _ _ _⟩
  | endAt span time => exact .inr ⟨Execution.births_ending _ _ _, Execution.asked_endAt _ _ _⟩
  | change span c =>
    refine .inr ⟨Execution.births_changing _ _ _, ?_⟩
    show (s.execution.change span c).asked = _
    rw [Execution.change_eq]
    rfl
  | changeCurrent t c =>
    right
    cases hcurrent : s.execution.currentSpan? t with
    | none => simp [events, step, Execution.onCurrent, hcurrent]
    | some span => simp [events, step, Execution.onCurrent, hcurrent, Execution.change_eq]
  | setTags tags => exact .inr ⟨rfl, Execution.asked_attach _ _⟩
  | dropTags index =>
    refine .inr ⟨rfl, ?_⟩
    unfold step
    dsimp only
    split
    · exact Execution.asked_detach _ _
    · rfl
  | wait now => exact .inr ⟨rfl, rfl⟩

end Thread

/-- What an action does to spans. Scopes do nothing to them. -/
def ScopedThread.events (s : ScopedThread) : ScopedAction → SpanLog
  | .act a => s.thread.events a
  | .enter _ => []
  | .leave => []

theorem Reflects.scopedStep {log : SpanLog} {s : ScopedThread}
    (h : Reflects log s.thread.execution) (a : ScopedAction) :
    Reflects (log ++ s.events a) (s.step a).thread.execution := by
  cases a with
  | act a => exact h.step a
  | enter cx =>
    rw [ScopedThread.events, List.append_nil]
    exact h.attach cx
  | leave =>
    rw [ScopedThread.events, List.append_nil, ScopedThread.step]
    split
    · exact h.detach _
    · exact h

end Telemetry
