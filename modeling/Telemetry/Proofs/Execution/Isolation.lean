import Telemetry.Proofs.Execution.LoneTracer

/-!
# Isolation of tracers

The tracers of a thread share its stack of contexts and its list of open spans, and each of them attaches,
detaches and rewinds there. Still, what a tracer has to do with is what it would have to do with alone:
whatever is asked of it on a thread, `LoneTracer` answers in the same way (`Aligned.lone_serve`), and
what is asked of others it does not notice (`Aligned.lone_serve_of_ne`). Where no context was refused, the
current span of a tracer is its own newest open span that has not ended, and that is the only thing that
tracers read off the shared stack.

So what a tracer sees in a run is what it sees in the run without the calls of another
(`views_without`).
-/

namespace Telemetry
namespace Execution

variable {e : Execution} {t t' : TracerRef}

/-! ### Starting -/

theorem lone_modifyTracer (e : Execution) (t t' : TracerRef) (f : Tracer → Tracer) :
    (e.modifyTracer t' f).lone t =
      if t' = t then { e.lone t with tracer := (e.lone t).tracer.map f } else e.lone t := by
  have htracer : (e.modifyTracer t' f).tracers[t.index]? =
      if t' = t then e.tracers[t.index]?.map f else e.tracers[t.index]? := by
    have hindex : t'.index = t.index ↔ t' = t := by
      cases t; cases t'; simp
    rw [modifyTracer, Array.getElem?_modify]
    simp only [hindex]
  unfold lone
  rw [htracer]
  split <;> rfl

theorem settings_lone (e : Execution) (t : TracerRef) : (e.lone t).settings = e.tracer t := by
  rw [tracer, Array.getD_eq_getD_getElem?]
  rfl

theorem lone_takeSpanId_self (e : Execution) (t : TracerRef) :
    (e.takeSpanId t).1 = (e.lone t).takeSpanId.1 ∧
      (e.takeSpanId t).2.lone t = (e.lone t).takeSpanId.2 := by
  unfold takeSpanId LoneTracer.takeSpanId
  dsimp only
  rw [lone_modifyTracer, if_pos rfl, settings_lone]
  exact ⟨rfl, rfl⟩

theorem lone_takeTraceId_self (e : Execution) (t : TracerRef) :
    (e.takeTraceId t).1 = (e.lone t).takeTraceId.1 ∧
      (e.takeTraceId t).2.lone t = (e.lone t).takeTraceId.2 := by
  unfold takeTraceId LoneTracer.takeTraceId
  dsimp only
  rw [lone_modifyTracer, if_pos rfl, settings_lone]
  exact ⟨rfl, rfl⟩

theorem lone_modifyTracer_of_ne (hne : t' ≠ t) (f : Tracer → Tracer) :
    (e.modifyTracer t' f).lone t = e.lone t := by
  rw [lone_modifyTracer, if_neg hne]

/-- A span that is adopted as a parent is one of the tracer's own. -/
theorem mem_spansOf_of_spanOf? {cx : Context} {s : SpanRef} (h : e.spanOf? cx t = some s) :
    s ∈ e.spansOf t := by
  obtain ⟨ht, hlive⟩ := of_spanOf? h
  exact mem_spansOf.2 ⟨lt_size_of_live hlive, ht⟩

theorem lone_lineageOfRoot (e : Execution) (t : TracerRef) (spanId : SpanId) (name : String) :
    let taken := (e.lone t).takeTraceId
    (e.lineageOfRoot t spanId name).1 =
        ⟨⟨taken.1, spanId, TraceOptions.notSampled.withSampled
          (taken.2.settings.sampler.keeps taken.1 spanId name), .empty⟩, none, none⟩ ∧
      (e.lineageOfRoot t spanId name).2.lone t = taken.2 := by
  obtain ⟨hid, hlone⟩ := e.lone_takeTraceId_self t
  intro taken
  rw [← hid, ← hlone, settings_lone]
  exact ⟨rfl, rfl⟩

theorem lone_lineage_self {spanId : SpanId} {name : String}
    (hcurrent : (e.lone t).current? = (e.currentSpan? t).map (e.number t)) :
    (e.lineage t e.currentContext spanId name).1 = ((e.lone t).lineage spanId name).1 ∧
      (e.lineage t e.currentContext spanId name).2.lone t =
        ((e.lone t).lineage spanId name).2 := by
  unfold lineage LoneTracer.lineage
  rw [hcurrent, settings_lone]
  unfold currentSpan?
  cases hparent : e.spanOf? e.currentContext t with
  | some parent =>
    have hspan : (e.lone t).spans.getD (e.number t parent) .absent = (e.span parent).untimed := by
      rw [List.getD_eq_getElem?_getD, lone_spans_getElem?,
        if_pos (mem_spansOf_of_spanOf? hparent), Option.getD_some]
    dsimp only [Option.map_some]
    rw [hspan]
    exact ⟨rfl, (e.lone_modifyRecord t parent (·.addChild) _ fun _ _ => rfl).2⟩
  | none =>
    dsimp only [Option.map_none]
    cases (e.tracer t).remoteParent with
    | some remote => exact ⟨rfl, rfl⟩
    | none => exact e.lone_lineageOfRoot t spanId name

theorem lone_lineage_of_ne (e : Execution) {cx : Context} {spanId : SpanId} {name : String}
    (hne : t' ≠ t) :
    (e.lineage t' cx spanId name).2.lone t = e.lone t := by
  unfold lineage
  cases hparent : e.spanOf? cx t' with
  | some parent =>
    dsimp only
    rw [(e.lone_modifyRecord t parent _ (·.addChild) fun _ _ => rfl).2]
    exact LoneTracer.modifyRecord_of_length_le
      (length_spans_le_of_mem (mem_spansOf_of_spanOf? hparent) hne) _
  | none =>
    dsimp only
    cases (e.tracer t').remoteParent with
    | some remote => rfl
    | none => exact lone_modifyTracer_of_ne hne _

theorem spansOf_push (e : Execution) (t : TracerRef) (new : Span) :
    spansOf { e with spans := e.spans.push new } t =
      e.spansOf t ++ if new.tracer = t then [⟨e.spans.size⟩] else [] := by
  unfold spansOf
  dsimp only
  rw [Array.size_push, List.range_succ, List.map_append, List.filter_append]
  congr 1
  · refine List.filter_congr fun s hs => ?_
    obtain ⟨i, hi, rfl⟩ := List.mem_map.1 hs
    rw [span_push, if_neg (Nat.ne_of_lt (List.mem_range.1 hi))]
  · have hnew := e.span_push new ⟨e.spans.size⟩
    rw [if_pos rfl] at hnew
    simp [List.filter_cons, hnew]

/-- A new span leaves the older ones as they are. -/
theorem map_untimed_push (e : Execution) (t : TracerRef) (new : Span) :
    ((e.spansOf t).map fun s => (span { e with spans := e.spans.push new } s).untimed) =
      (e.spansOf t).map fun s => (e.span s).untimed := by
  refine List.map_congr_left fun s hs => ?_
  rw [span_push, if_neg (Nat.ne_of_lt (mem_spansOf.1 hs).1)]

theorem lone_push_of_ne {new : Span} (hnew : new.tracer ≠ t) :
    lone { e with spans := e.spans.push new } t = e.lone t := by
  have hspans := e.spansOf_push t new
  rw [if_neg hnew, List.append_nil] at hspans
  simp only [lone, numbersIn, number, hspans, map_untimed_push]

theorem lone_push_self {new : Span} (hnew : new.tracer = t)
    (hown : ∀ o ∈ e.openSpans, o.span ∈ e.spansOf o.tracer) :
    lone { e with spans := e.spans.push new } t = (e.lone t).add new.untimed := by
  have hspans := e.spansOf_push t new
  rw [if_pos hnew] at hspans
  -- The open spans are older, and the numbers of the older spans stay.
  have hopened : numbersIn { e with spans := e.spans.push new } t e.openSpans =
      e.numbersIn t e.openSpans := by
    refine List.map_congr_left fun o ho => ?_
    obtain ⟨ho, ht⟩ := List.mem_filter.1 ho
    rw [number, hspans, List.idxOf_append_of_mem (beq_iff_eq.1 ht ▸ hown o ho), number]
  have hlast := e.span_push new ⟨e.spans.size⟩
  rw [if_pos rfl] at hlast
  simp only [lone, LoneTracer.add, hopened, hspans, List.map_append, map_untimed_push,
    List.map_singleton, hlast]

/-- No tracer notices that a context is attached. -/
theorem lone_attach (e : Execution) (t : TracerRef) (cx : Context) :
    (e.attach cx).2.lone t = e.lone t ∧ (e.attach cx).2.spansOf t = e.spansOf t ∧
      (e.attach cx).2.openSpans = e.openSpans := by
  unfold attach
  split <;> exact ⟨rfl, rfl, rfl⟩

theorem lone_origin_self (name : String)
    (hcurrent : (e.lone t).current? = (e.currentSpan? t).map (e.number t)) :
    (e.origin t e.currentContext name).1 = ((e.lone t).origin name).1 ∧
      (e.origin t e.currentContext name).2.lone t = ((e.lone t).origin name).2 := by
  obtain ⟨hid, hlone⟩ := e.lone_takeSpanId_self t
  rw [LoneTracer.origin, ← hid, ← hlone]
  have htaken : ((e.takeSpanId t).2.lone t).current? =
      ((e.takeSpanId t).2.currentSpan? t).map ((e.takeSpanId t).2.number t) := by
    rw [hlone]
    exact hcurrent
  exact lone_lineage_self htaken

theorem spansOf_origin (e : Execution) (t t' : TracerRef) (cx : Context) (name : String) :
    (e.origin t' cx name).2.spansOf t = e.spansOf t := by
  have hshape := sameShape_origin e t' cx name
  refine spansOf_congr hshape.size fun s => ?_
  have hsame := congrArg Span.tracer (hshape.outline s)
  exact hsame

theorem spansOf_startIn (e : Execution) (t : TracerRef) (cx : Context) (name : String)
    (kind : SpanKind) :
    (e.startIn t cx name kind).2.spansOf t = e.spansOf t ++ [⟨e.spans.size⟩] := by
  rw [startIn_eq]
  dsimp only
  rw [spansOf_push, spansOf_origin, (sameShape_origin e t cx name).size]
  exact congrArg _ (if_pos rfl)

theorem lone_startIn_self {name : String} {kind : SpanKind}
    (hown : ∀ o ∈ e.openSpans, o.span ∈ e.spansOf o.tracer)
    (hcurrent : (e.lone t).current? = (e.currentSpan? t).map (e.number t)) :
    (e.startIn t e.currentContext name kind).2.lone t = (e.lone t).begun name kind := by
  obtain ⟨horigin, hlone⟩ := lone_origin_self name hcurrent
  rw [startIn_eq]
  refine (lone_push_self (by exact rfl) ?_).trans ?_
  · intro o ho
    rw [spansOf_origin]
    rw [(sameShape_origin e t e.currentContext name).openSpans] at ho
    exact hown o ho
  · rw [LoneTracer.begun]
    dsimp only
    rw [← horigin, ← hlone]
    unfold newSpan Span.untimed
    dsimp only
    split <;> rfl

/-- No tracer but that of the span notices that a span is made current. -/
theorem lone_cons_openSpans (e : Execution) (t : TracerRef) (o : OpenSpan) :
    lone { e with openSpans := o :: e.openSpans } t =
      if o.tracer = t then
        { e.lone t with opened := e.number t o.span :: (e.lone t).opened }
      else e.lone t := by
  split
  next h => simp [lone, numbersIn, h, number, spansOf, span]
  next h => simp [lone, numbersIn, h, number, spansOf, span]

theorem lone_start_self {name : String} {kind : SpanKind}
    (hown : ∀ o ∈ e.openSpans, o.span ∈ e.spansOf o.tracer)
    (hcurrent : (e.lone t).current? = (e.currentSpan? t).map (e.number t)) :
    (e.start t name kind).2.lone t = (e.lone t).start name kind := by
  obtain ⟨hattach, hspans, -⟩ := (e.startIn t e.currentContext name kind).2.lone_attach t
    (e.currentContext.withSpan ⟨e.spans.size⟩)
  -- The new span has the next number.
  have hnot : (⟨e.spans.size⟩ : SpanRef) ∉ e.spansOf t := fun h =>
    Nat.lt_irrefl _ (mem_spansOf.1 h).1
  rw [Thread.start_eq]
  dsimp only
  rw [lone_cons_openSpans, if_pos rfl, hattach, lone_startIn_self hown hcurrent]
  rw [number, hspans, spansOf_startIn, List.idxOf_append_of_notMem hnot, ← length_spans_lone]
  simp [LoneTracer.start]

theorem lone_start_of_ne (e : Execution) {name : String} {kind : SpanKind} (hne : t' ≠ t) :
    (e.start t' name kind).2.lone t = e.lone t := by
  obtain ⟨hattach, -, -⟩ := (e.startIn t' e.currentContext name kind).2.lone_attach t
    (e.currentContext.withSpan ⟨e.spans.size⟩)
  rw [Thread.start_eq]
  dsimp only
  rw [lone_cons_openSpans, if_neg hne, hattach, startIn_eq]
  refine (lone_push_of_ne (by exact hne)).trans ?_
  exact (lone_lineage_of_ne _ hne).trans (lone_modifyTracer_of_ne hne _)

end Execution

/-! ### Calls -/

/-- Something that is asked of a tracer. A span is given by its number among those of the tracer. -/
inductive TracerCall where
  /-- Tell which span is current. -/
  | look
  /-- Start a span in the current context and make it current. -/
  | start (name : String) (kind : SpanKind)
  /-- End the newest open span. -/
  | endNewest
  /-- End an open span, and abandon the newer ones first. -/
  | endOpen (k : Nat)
  /-- End a span, wherever it was started. -/
  | endSpan (k : Nat)
  /-- Change what is recorded on a span. -/
  | change (k : Nat) (c : SpanChange)
  /-- Change what is recorded on the current span. -/
  | changeCurrent (c : SpanChange)

/-- A call to a tracer at some time. -/
structure TimedCall where
  /-- When the call is made. -/
  time : Timestamp
  /-- The tracer that is called. -/
  tracer : TracerRef
  /-- What is asked of it. -/
  call : TracerCall

/-- The call without its time. -/
def TimedCall.untimed (c : TimedCall) : TracerRef × TracerCall := (c.tracer, c.call)

/-- What a thread does when `t` is called: nothing if `t` need only look, and nothing if the call is about a
span that there is not. -/
def TracerCall.action? (e : Execution) (t : TracerRef) : TracerCall → Option ThreadAction
  | .look => none
  | .start name kind => some (.start t name kind)
  | .endNewest => some (.endNewest t)
  | .endOpen k => (e.spansOf t)[k]?.map (.endOpen t)
  | .endSpan k => (e.spansOf t)[k]?.map .endSpan
  | .change k c => (e.spansOf t)[k]?.map (.change · c)
  | .changeCurrent c => some (.changeCurrent t c)

/-- What a tracer sees. -/
structure TracerView where
  /-- The number of its current span among its spans. -/
  current? : Option Nat
  /-- Its spans in the order of their starts, without times. -/
  spans : List Span
  /-- What it has handed to its exporter, in order and without times. -/
  handed : List SpanData

/-- What `t` sees. -/
def Execution.view (e : Execution) (t : TracerRef) : TracerView where
  current? := (e.currentSpan? t).map (e.number t)
  spans := (e.spansOf t).map fun s => (e.span s).untimed
  handed := (e.exported.toList.filter (·.1 == t)).map (·.2.untimed)

namespace LoneTracer

/-- Answers a call. -/
def serve (l : LoneTracer) : TracerCall → LoneTracer
  | .look => l
  | .start name kind => l.start name kind
  | .endNewest => l.endNewest
  | .endOpen k => l.endOpen k
  | .endSpan k => l.endSpan k
  | .change k c => l.change k c
  | .changeCurrent c =>
    match l.current? with
    | some k => l.change k c
    | none => l

/-- What the tracer sees. -/
def view (l : LoneTracer) : TracerView := ⟨l.current?, l.spans, l.handed⟩

/-- What the tracer sees before each of the calls and after the last one. -/
def views (l : LoneTracer) : List TracerCall → List TracerView
  | [] => [l.view]
  | c :: rest => l.view :: (l.serve c).views rest

end LoneTracer

namespace Thread

variable {s : Thread} {t t' : TracerRef}

/-- What the thread does for a call. -/
def actionsOf (s : Thread) (c : TimedCall) : List ThreadAction :=
  .wait c.time :: (c.call.action? s.execution c.tracer).toList

/-- The thread after a call. -/
def serve (s : Thread) (c : TimedCall) : Thread := s.run (s.actionsOf c)

/-- No context is refused in a sequence of calls. -/
def UnrefusedCalls (s : Thread) : List TimedCall → Prop
  | [] => True
  | c :: rest => s.Unrefused (s.actionsOf c) ∧ (s.serve c).UnrefusedCalls rest

instance decidableUnrefusedCalls : (s : Thread) → (calls : List TimedCall) →
    Decidable (s.UnrefusedCalls calls)
  | _, [] => .isTrue trivial
  | s, c :: rest =>
    have := decidableUnrefusedCalls (s.serve c) rest
    inferInstanceAs (Decidable (_ ∧ _))

/-- What `t` sees before each of its own calls and after the last call. -/
def views (s : Thread) (t : TracerRef) : List TimedCall → List TracerView
  | [] => [s.execution.view t]
  | c :: rest =>
    if c.tracer = t then s.execution.view t :: (s.serve c).views t rest
    else (s.serve c).views t rest

/-! ### A call -/

theorem Aligned.mem_spansOf (h : s.Aligned) :
    ∀ o ∈ s.execution.openSpans, o.span ∈ s.execution.spansOf o.tracer := fun o ho =>
  Execution.mem_spansOf.2 (h.own o ho).symm

/-- The current span of a tracer is its own newest open span that has not ended, whatever others have
open. -/
theorem Aligned.lone_current? (h : s.Aligned) (ha : s.Attached) (t : TracerRef) :
    (s.execution.lone t).current? = (s.execution.currentSpan? t).map (s.execution.number t) := by
  have hopened : (s.execution.lone t).opened =
      s.execution.numbersIn t s.execution.openSpans := rfl
  rw [h.currentSpan?_eq ha, LoneTracer.current?, hopened, Execution.numbersIn, List.find?_map,
    List.find?_filter, Option.map_map]
  congr 1
  refine List.find?_congr fun o ho => ?_
  by_cases ht : o.tracer = t
  · have hmem : o.span ∈ s.execution.spansOf t := ht ▸ h.mem_spansOf o ho
    simp [ht, s.execution.lone_spans_getElem? t o.span, hmem, Execution.live, Span.untimed]
  · simp [ht]

/-- The open spans of a tracer are among its spans. -/
theorem Aligned.opened_lt (h : s.Aligned) (t : TracerRef) :
    ∀ k ∈ (s.execution.lone t).opened, k < (s.execution.lone t).spans.length := by
  intro k hk
  obtain ⟨o, ho, rfl⟩ := List.mem_map.1 hk
  obtain ⟨ho, ht⟩ := List.mem_filter.1 ho
  rw [Execution.length_spans_lone]
  exact List.idxOf_lt_length_iff.2 (beq_iff_eq.1 ht ▸ h.mem_spansOf o ho)

theorem Aligned.view_eq (h : s.Aligned) (ha : s.Attached) (t : TracerRef) :
    s.execution.view t = (s.execution.lone t).view := by
  rw [Execution.view, ← h.lone_current? ha]
  rfl

/-- The span with a number has this number. -/
theorem number_of_getElem? {e : Execution} {k : Nat} {span : SpanRef}
    (hk : (e.spansOf t)[k]? = some span) : e.number t span = k ∧ span ∈ e.spansOf t := by
  obtain ⟨hlt, rfl⟩ := List.getElem?_eq_some_iff.1 hk
  exact ⟨(e.nodup_spansOf t).idxOf_getElem k hlt, List.getElem_mem hlt⟩

/-- A call about a span, if nothing happens to a tracer alone when there is no such span. -/
theorem lone_run_onSpan {k : Nat} {f : SpanRef → ThreadAction} {g : Nat → LoneTracer}
    (hnone : (s.execution.lone t).spans.length ≤ k → g k = s.execution.lone t)
    (hsome : ∀ span ∈ s.execution.spansOf t,
      (s.step (f span)).execution.lone t = g (s.execution.number t span)) :
    (s.run ((s.execution.spansOf t)[k]?.map f).toList).execution.lone t = g k := by
  cases hk : (s.execution.spansOf t)[k]? with
  | none =>
    rw [hnone]
    · rfl
    · rw [Execution.length_spans_lone]
      exact List.getElem?_eq_none_iff.1 hk
  | some span =>
    obtain ⟨rfl, hmem⟩ := number_of_getElem? hk
    exact hsome span hmem

/-- The same for the span of another tracer. -/
theorem lone_run_onSpan_of_ne {k : Nat} {f : SpanRef → ThreadAction}
    (h : ∀ span ∈ s.execution.spansOf t',
      (s.step (f span)).execution.lone t = s.execution.lone t) :
    (s.run ((s.execution.spansOf t')[k]?.map f).toList).execution.lone t =
      s.execution.lone t := by
  cases hk : (s.execution.spansOf t')[k]? with
  | none => rfl
  | some span => exact h span (number_of_getElem? hk).2

/-- What a tracer is asked to do it does as if it were alone. -/
theorem Aligned.lone_action (h : s.Aligned) (ha : s.Attached) (t : TracerRef) (c : TracerCall) :
    (s.run (c.action? s.execution t).toList).execution.lone t = (s.execution.lone t).serve c := by
  have hcurrent := h.lone_current? ha t
  cases c with
  | look => rfl
  | start name kind => exact Execution.lone_start_self h.mem_spansOf hcurrent
  | endNewest => exact Execution.lone_endNewest_self _ _
  | endOpen k =>
    exact lone_run_onSpan (g := (s.execution.lone t).endOpen)
      (fun hk => LoneTracer.endOpen_of_length_le hk (h.opened_lt t))
      fun span hmem => Execution.lone_endOpen_self hmem
  | endSpan k =>
    exact lone_run_onSpan (g := (s.execution.lone t).endSpan) LoneTracer.endSpan_of_length_le
      fun span _ => (s.execution.lone_endSpan t span).2
  | change k c =>
    exact lone_run_onSpan (g := ((s.execution.lone t).change · c))
      (LoneTracer.change_of_length_le · c) fun span _ => s.execution.lone_change t span c
  | changeCurrent c =>
    show (s.execution.onCurrent t fun e span => e.change span c).lone t = _
    rw [LoneTracer.serve, hcurrent, Execution.onCurrent]
    cases s.execution.currentSpan? t with
    | none => rfl
    | some span => exact s.execution.lone_change t span c

/-- What is asked of another tracer does nothing to a tracer. -/
theorem Aligned.lone_action_of_ne (h : s.Aligned) (hne : t' ≠ t) (c : TracerCall) :
    (s.run (c.action? s.execution t').toList).execution.lone t = s.execution.lone t := by
  cases c with
  | look => rfl
  | start name kind => exact Execution.lone_start_of_ne _ hne
  | endNewest => exact Execution.lone_endNewest_of_ne h.mem_spansOf hne
  | endOpen k =>
    exact lone_run_onSpan_of_ne fun span hmem =>
      Execution.lone_endOpen_of_ne h.mem_spansOf hne hmem
  | endSpan k => exact lone_run_onSpan_of_ne fun span hmem => Execution.lone_endSpan_of_ne hmem hne
  | change k c =>
    exact lone_run_onSpan_of_ne fun span hmem => Execution.lone_change_of_ne hmem hne c
  | changeCurrent c =>
    show (s.execution.onCurrent t' fun e span => e.change span c).lone t = _
    unfold Execution.onCurrent
    cases hspan : s.execution.currentSpan? t' with
    | none => rfl
    | some span =>
      exact Execution.lone_change_of_ne (Execution.mem_spansOf_of_spanOf? hspan) hne c

/-- A thread on which time has passed is aligned as before. -/
theorem Aligned.wait (h : s.Aligned) (now : Timestamp) : (s.step (.wait now)).Aligned :=
  h.move (h.toOwns.move _)

theorem Aligned.lone_serve (h : s.Aligned) (ha : s.Attached) (c : TimedCall) :
    (s.serve c).execution.lone c.tracer = (s.execution.lone c.tracer).serve c.call :=
  (h.wait c.time).lone_action ha c.tracer c.call

theorem Aligned.lone_serve_of_ne (h : s.Aligned) {c : TimedCall} (hne : c.tracer ≠ t) :
    (s.serve c).execution.lone t = s.execution.lone t :=
  (h.wait c.time).lone_action_of_ne hne c.call

/-! ### Runs -/

/-- What is asked of `t` in a sequence of calls. -/
def callsOf (t : TracerRef) (calls : List TimedCall) : List TracerCall :=
  (calls.filter (·.tracer == t)).map (·.call)

theorem callsOf_cons (t : TracerRef) (c : TimedCall) (calls : List TimedCall) :
    callsOf t (c :: calls) =
      if c.tracer = t then c.call :: callsOf t calls else callsOf t calls := by
  unfold callsOf
  by_cases h : c.tracer = t <;> simp [h]

/-- What a tracer sees on a thread on which no context is refused is what it sees when it is alone. -/
theorem Aligned.views_eq (h : s.Aligned) (ha : s.Attached) (t : TracerRef) {calls : List TimedCall}
    (hcalls : s.UnrefusedCalls calls) :
    s.views t calls = (s.execution.lone t).views (callsOf t calls) := by
  induction calls generalizing s with
  | nil => exact congrArg (· :: []) (h.view_eq ha t)
  | cons c rest ih =>
    obtain ⟨hc, hrest⟩ := hcalls
    -- A call of `t` is answered on both sides, and any other call leaves both as they are.
    have hserve : (s.serve c).Aligned := aligned_run h _
    have hviews := ih hserve (attached_run h ha hc) hrest
    by_cases ht : c.tracer = t
    · subst ht
      rw [views, if_pos rfl, callsOf_cons, if_pos rfl, hviews, h.lone_serve ha c, h.view_eq ha]
      rfl
    · rw [views, if_neg ht, callsOf_cons, if_neg ht, hviews, h.lone_serve_of_ne ht]

/-- Deleting the calls of one tracer leaves those of another, whatever the times. -/
theorem callsOf_eq {t₁ t₂ : TracerRef} (hne : t₁ ≠ t₂) {calls reduced : List TimedCall}
    (hreduced : reduced.map TimedCall.untimed =
      (calls.filter (·.tracer != t₁)).map TimedCall.untimed) :
    callsOf t₂ reduced = callsOf t₂ calls := by
  have hcalls : ∀ l : List TimedCall, callsOf t₂ l =
      ((l.map TimedCall.untimed).filter (·.1 == t₂)).map (·.2) := by
    intro l
    rw [callsOf, List.filter_map, List.map_map]
    rfl
  have hkept : (calls.filter (·.tracer != t₁)).filter (·.tracer == t₂) =
      calls.filter (·.tracer == t₂) := by
    rw [List.filter_filter]
    refine List.filter_congr fun c _ => ?_
    by_cases hc : c.tracer = t₂
    · simp [hc, hne.symm]
    · simp [hc]
  rw [hcalls, hreduced, ← hcalls, callsOf, hkept, callsOf]

/-- **Tracers are isolated from each other.** If all calls of a tracer are left out of a run, and no context
is refused with or without them, then another tracer sees the same: it has the same current span, its spans
have the same parents and records, and it has handed the same to its exporter, before each of its calls
and at last. Only times may differ. -/
theorem views_without (e : Execution) {t₁ t₂ : TracerRef} (hne : t₁ ≠ t₂)
    {calls reduced : List TimedCall}
    (hreduced : reduced.map TimedCall.untimed =
      (calls.filter (·.tracer != t₁)).map TimedCall.untimed)
    (hcalls : (fresh e).UnrefusedCalls calls) (hrest : (fresh e).UnrefusedCalls reduced) :
    (fresh e).views t₂ reduced = (fresh e).views t₂ calls := by
  have haligned := aligned_fresh e
  have hattached : (fresh e).Attached := fun _ ho => nomatch ho
  rw [haligned.views_eq hattached t₂ hcalls, haligned.views_eq hattached t₂ hrest,
    callsOf_eq hne hreduced]

/-- Two tracers have spans open above and below each other's. The first one ends its oldest span, from below
those of the second one, and starts another; then the second one does the same. -/
def crossing : List TimedCall :=
  [⟨⟨1⟩, ⟨0⟩, .start "a" .server⟩, ⟨⟨2⟩, ⟨1⟩, .start "b" .client⟩,
    ⟨⟨3⟩, ⟨0⟩, .start "c" .client⟩, ⟨⟨4⟩, ⟨1⟩, .start "d" .client⟩,
    ⟨⟨5⟩, ⟨0⟩, .endOpen 0⟩, ⟨⟨6⟩, ⟨1⟩, .changeCurrent (.name "e")⟩,
    ⟨⟨7⟩, ⟨0⟩, .start "f" .client⟩, ⟨⟨8⟩, ⟨1⟩, .look⟩, ⟨⟨9⟩, ⟨1⟩, .start "g" .client⟩,
    ⟨⟨10⟩, ⟨0⟩, .endNewest⟩, ⟨⟨11⟩, ⟨1⟩, .endOpen 0⟩]

/-- What the second tracer does, without the first one and at other times. -/
def uncrossed : List TimedCall :=
  [⟨⟨0⟩, ⟨1⟩, .start "b" .client⟩, ⟨⟨1⟩, ⟨1⟩, .start "d" .client⟩,
    ⟨⟨3⟩, ⟨1⟩, .changeCurrent (.name "e")⟩, ⟨⟨3⟩, ⟨1⟩, .look⟩,
    ⟨⟨5⟩, ⟨1⟩, .start "g" .client⟩, ⟨⟨5⟩, ⟨1⟩, .endOpen 0⟩]

theorem views_without_crossing :
    (fresh twoTracers).UnrefusedCalls crossing ∧ (fresh twoTracers).UnrefusedCalls uncrossed ∧
      (fresh twoTracers).views ⟨1⟩ uncrossed = (fresh twoTracers).views ⟨1⟩ crossing ∧
      ((fresh twoTracers).views ⟨1⟩ crossing).map
          (fun view => (view.current?, view.handed.map (·.record.name))) =
        [(none, []), (some 0, []), (some 1, []), (some 1, []), (some 1, []), (some 2, []),
          (none, ["g", "e", "b"])] := by
  have hcalls : (fresh twoTracers).UnrefusedCalls crossing := by decide +kernel
  have hrest : (fresh twoTracers).UnrefusedCalls uncrossed := by decide +kernel
  have hne : (⟨0⟩ : TracerRef) ≠ ⟨1⟩ := by decide
  exact ⟨hcalls, hrest, views_without twoTracers hne rfl hcalls hrest, by decide +kernel⟩

end Thread

end Telemetry
