import Telemetry.Proofs.Execution.Alignment

/-!
# The parents of spans

Where a new span comes from is one of three: it is a child of a span in this process (`ChildOf`), a child
of a span in another one (`ChildOfRemote`), or the first span of a trace about which the sampler was asked
(`IsRoot`).  Each says what the new span inherits and what becomes of everything else.  `adopts_startIn`
says which of them a start leads to.

For a thread on which no context was refused, `start_adopts_newest` says the same without contexts: the
parent is the newest open span of the tracer that has not ended.
-/

namespace Telemetry
namespace Execution

/-- From `e` to `e'` the span `s` was started as a child of `parent`, which counts it. -/
structure ChildOf (e e' : Execution) (s parent : SpanRef) : Prop where
  parentId : (e'.span s).parent = some (e.span parent).context.spanId
  context : (e'.span s).context =
    { (e.span parent).context with spanId := (e'.span s).context.spanId }
  counted : e'.span parent =
    { e.span parent with record := (e.span parent).record.map (·.addChild) }
  others : ∀ q, q.index < e.spans.size → q ≠ parent → e'.span q = e.span q
  consulted : e'.consulted = e.consulted

/-- From `e` to `e'` the span `s` was started as a child of a span in another process. -/
structure ChildOfRemote (e e' : Execution) (s : SpanRef) (remote : SpanContext) : Prop where
  parentId : (e'.span s).parent = some remote.spanId
  context : (e'.span s).context = { remote with spanId := (e'.span s).context.spanId }
  others : ∀ q, q.index < e.spans.size → e'.span q = e.span q
  consulted : e'.consulted = e.consulted

/-- From `e` to `e'` the span `s` was started as the first one of a new trace, and the sampler of `t` was
asked whether to keep the trace. -/
structure IsRoot (e e' : Execution) (s : SpanRef) (t : TracerRef) (name : String) : Prop where
  parentId : (e'.span s).parent = none
  options : (e'.span s).context.options = TraceOptions.notSampled.withSampled
    ((e.tracer t).sampler.keeps (e'.span s).context.traceId (e'.span s).context.spanId name)
  state : (e'.span s).context.state = .empty
  others : ∀ q, q.index < e.spans.size → e'.span q = e.span q
  consulted : e'.consulted = e.consulted.push
    ⟨t, (e'.span s).context.traceId, (e'.span s).context.spanId, name⟩

/-- From `e` to `e'` the span `s` of `t` was started as a child of the span `parent`, or if there is none
as a child of the remote parent of `t`, or else as a root. -/
def Adopts (e e' : Execution) (s : SpanRef) (t : TracerRef) (name : String) :
    Option SpanRef → Prop
  | some parent => ChildOf e e' s parent
  | none =>
    match (e.tracer t).remoteParent with
    | some remote => ChildOfRemote e e' s remote
    | none => IsRoot e e' s t name

variable {e : Execution} {t : TracerRef} {cx : Context} {name : String}

/-- Taking identifiers leaves the other parts of all tracers as they are. -/
theorem tracer_modify_ids {β : Type} {part : Tracer → β}
    (hpart : ∀ tracer ids, part { tracer with ids } = part tracer) (e : Execution) (t : TracerRef)
    (ids : IdSource) (q : TracerRef) :
    part ((e.modifyTracer t ({ · with ids })).tracer q) = part (e.tracer q) := by
  simp only [tracer, modifyTracer, Array.getD_eq_getD_getElem?, Array.getElem?_modify]
  split
  · cases e.tracers[q.index]? with
    | none => rfl
    | some tracer => exact hpart tracer ids
  · rfl

theorem origin_of_parent {parent : SpanRef} (h : e.spanOf? cx t = some parent) :
    e.origin t cx name =
      ((e.takeSpanId t).2.lineageOfChild parent (e.takeSpanId t).1,
        (e.takeSpanId t).2.modifyRecord parent (·.addChild)) := by
  have h' : (e.takeSpanId t).2.spanOf? cx t = some parent := h
  simp only [origin, lineage, h']

theorem origin_of_remote {remote : SpanContext} (h : e.spanOf? cx t = none)
    (hremote : (e.tracer t).remoteParent = some remote) :
    e.origin t cx name =
      (lineageOfRemote remote (e.takeSpanId t).1, (e.takeSpanId t).2) := by
  have h' : (e.takeSpanId t).2.spanOf? cx t = none := h
  have hremote' : ((e.takeSpanId t).2.tracer t).remoteParent = some remote :=
    (tracer_modify_ids (fun _ _ => rfl) e t _ t).trans hremote
  simp only [origin, lineage, h', hremote']

theorem origin_of_none (h : e.spanOf? cx t = none)
    (hremote : (e.tracer t).remoteParent = none) :
    e.origin t cx name =
      (e.takeSpanId t).2.lineageOfRoot t (e.takeSpanId t).1 name := by
  have h' : (e.takeSpanId t).2.spanOf? cx t = none := h
  have hremote' : ((e.takeSpanId t).2.tracer t).remoteParent = none :=
    (tracer_modify_ids (fun _ _ => rfl) e t _ t).trans hremote
  simp only [origin, lineage, h', hremote']

/-- A start takes identifiers and leaves the other parts of all tracers as they are. -/
theorem tracer_startIn {β : Type} {part : Tracer → β}
    (hpart : ∀ tracer ids, part { tracer with ids } = part tracer) (e : Execution) (t : TracerRef)
    (cx : Context) (name : String) (kind : SpanKind) (q : TracerRef) :
    part ((e.startIn t cx name kind).2.tracer q) = part (e.tracer q) := by
  have hspanId := tracer_modify_ids hpart e t ((e.tracer t).ids.takeSpanId).2 q
  rw [startIn_eq]
  cases hparent : e.spanOf? cx t with
  | some parent =>
    rw [origin_of_parent hparent]
    exact hspanId
  | none =>
    cases hremote : (e.tracer t).remoteParent with
    | some remote =>
      rw [origin_of_remote hparent hremote]
      exact hspanId
    | none =>
      rw [origin_of_none hparent hremote]
      exact (tracer_modify_ids hpart _ t _ q).trans hspanId

/-- A span that is adopted as a parent belongs to the tracer and has not ended. -/
theorem of_spanOf? {parent : SpanRef} (h : e.spanOf? cx t = some parent) :
    (e.span parent).tracer = t ∧ e.live parent = true := by
  have := List.find?_some h
  rw [Bool.and_eq_true, beq_iff_eq] at this
  exact this

/-- **A start leads to one of the three**, by the innermost span of the tracer in the context. -/
theorem adopts_of_startIn {e' : Execution} {kind : SpanKind}
    (hspan : ∀ q, e'.span q = (e.startIn t cx name kind).2.span q)
    (hconsulted : e'.consulted = (e.startIn t cx name kind).2.consulted) :
    Adopts e e' ⟨e.spans.size⟩ t name (e.spanOf? cx t) := by
  have hnew : e'.span ⟨e.spans.size⟩ = e.newSpan t cx name kind := by
    rw [hspan, span_startIn, if_pos rfl]
  have hold : ∀ q : SpanRef, q.index < e.spans.size →
      e'.span q = (e.origin t cx name).2.span q := fun q hq => by
    rw [hspan, span_startIn, if_neg (Nat.ne_of_lt hq)]
  rw [startIn_eq] at hconsulted
  unfold newSpan at hnew
  cases hparent : e.spanOf? cx t with
  | some parent =>
    -- The parent has not ended, so it is an old span and counts the new one.
    have hlt := lt_size_of_live (of_spanOf? hparent).2
    rw [origin_of_parent hparent] at hnew hold hconsulted
    refine ⟨by rw [hnew]; rfl, by rw [hnew]; rfl, ?_, ?_, hconsulted⟩
    · rw [hold _ hlt, modifyRecord, span_modifySpan]
      exact if_pos ⟨rfl, hlt⟩
    · intro q hq hne
      rw [hold _ hq, modifyRecord, span_modifySpan, if_neg fun hq' => hne hq'.1.symm]
      rfl
  | none =>
    unfold Adopts
    dsimp only
    cases hremote : (e.tracer t).remoteParent with
    | some remote =>
      rw [origin_of_remote hparent hremote] at hnew hold hconsulted
      exact ⟨by rw [hnew]; rfl, by rw [hnew]; rfl, fun q hq => hold q hq, hconsulted⟩
    | none =>
      rw [origin_of_none hparent hremote] at hnew hold hconsulted
      refine ⟨by rw [hnew]; rfl, ?_, by rw [hnew]; rfl, fun q hq => hold q hq, ?_⟩
      · -- Neither the span identifier nor the trace identifier changes the sampler.
        have hsampler : (((e.takeSpanId t).2.takeTraceId t).2.tracer t).sampler =
            (e.tracer t).sampler :=
          (tracer_modify_ids (fun _ _ => rfl) _ t _ t).trans
            (tracer_modify_ids (fun _ _ => rfl) e t _ t)
        rw [hnew, ← hsampler]
        rfl
      · rw [hnew, hconsulted]
        rfl

/-- Attaching touches neither spans nor samplers. -/
theorem attach_spans (e : Execution) (cx : Context) :
    (e.attach cx).2.spans = e.spans ∧ (e.attach cx).2.consulted = e.consulted := by
  unfold attach
  split <;> exact ⟨rfl, rfl⟩

theorem adopts_start (e : Execution) (t : TracerRef) (name : String) (kind : SpanKind) :
    Adopts e (e.start t name kind).2 (e.start t name kind).1 t name (e.currentSpan? t) := by
  rw [Thread.start_eq]
  obtain ⟨hspans, hconsulted⟩ := attach_spans (e.startIn t e.currentContext name kind).2
    (e.currentContext.withSpan ⟨e.spans.size⟩)
  exact adopts_of_startIn (fun q => congrArg (·.getD q.index .absent) hspans) hconsulted

/-- The span `s` is the newest open span of `t` that has not ended. -/
structure NewestOpen (e : Execution) (t : TracerRef) (s : SpanRef) : Prop where
  isOpen : ∃ position, ⟨t, s, position⟩ ∈ e.openSpans
  notEnded : (e.span s).ended = false
  newest : ∀ o ∈ e.openSpans, o.tracer = t → (e.span o.span).ended = false →
    o.span.index ≤ s.index

end Execution

namespace Thread

variable {s : Thread} {t : TracerRef}

theorem Aligned.newestOpen (h : s.Aligned) (ha : s.Attached) {span : SpanRef}
    (hcurrent : s.execution.currentSpan? t = some span) : s.execution.NewestOpen t span := by
  rw [h.currentSpan?_eq ha, Option.map_eq_some_iff] at hcurrent
  obtain ⟨o, hfind, rfl⟩ := hcurrent
  obtain ⟨ho, newer, older, hsplit, hnewer⟩ := List.find?_eq_some_iff_append.1 hfind
  rw [Bool.and_eq_true, beq_iff_eq, Execution.live, Bool.not_eq_true'] at ho
  obtain ⟨rfl, hlive⟩ := ho
  have horder := h.order
  rw [hsplit] at horder
  have holder := (List.pairwise_cons.1 (List.pairwise_append.1 horder).2.1).1
  refine ⟨⟨o.position, ?_⟩, hlive, ?_⟩
  · rw [hsplit]
    exact List.mem_append_right _ List.mem_cons_self
  · intro o' ho' ht' hlive'
    rw [hsplit] at ho'
    rcases List.mem_append.1 ho' with ho' | ho'
    · -- A newer one would have been found.
      have := hnewer o' ho'
      simp [ht', Execution.live, hlive'] at this
    · rcases List.mem_cons.1 ho' with rfl | ho'
      · exact Nat.le_refl _
      · exact Nat.le_of_lt (holder o' ho')

theorem Aligned.currentSpan?_eq_none_iff (h : s.Aligned) (ha : s.Attached) :
    s.execution.currentSpan? t = none ↔
      ∀ o ∈ s.execution.openSpans, o.tracer = t → (s.execution.span o.span).ended = true := by
  rw [h.currentSpan?_eq ha, Option.map_eq_none_iff, List.find?_eq_none]
  simp [Execution.live]

theorem Aligned.currentSpan?_eq_some_iff (h : s.Aligned) (ha : s.Attached) {span : SpanRef} :
    s.execution.currentSpan? t = some span ↔ s.execution.NewestOpen t span := by
  constructor
  · exact h.newestOpen ha
  · intro hnewest
    obtain ⟨position, hopen⟩ := hnewest.isOpen
    cases hcurrent : s.execution.currentSpan? t with
    | none =>
      have := (h.currentSpan?_eq_none_iff ha).1 hcurrent _ hopen rfl
      exact absurd (this.symm.trans hnewest.notEnded) (by decide)
    | some span' =>
      -- Both are the newest, so neither is newer than the other.
      have hnewest' := h.newestOpen ha hcurrent
      obtain ⟨position', hopen'⟩ := hnewest'.isOpen
      have hle : span'.index ≤ span.index := hnewest.newest _ hopen' rfl hnewest'.notEnded
      have hle' : span.index ≤ span'.index := hnewest'.newest _ hopen rfl hnewest.notEnded
      have hindex : span'.index = span.index := by omega
      cases span
      cases span'
      exact congrArg some (congrArg SpanRef.mk hindex)

/-- **The current span of a tracer is its newest open span that has not ended**, on every thread on which
no context was refused, and the next span of the tracer becomes its child, or if there is none a child of
the tracer's remote parent, or else a root about which the sampler is asked.  So a parent belongs to the
tracer and has not ended, and a remote parent names something. -/
theorem start_adopts_newest (e : Execution) (actions : List ThreadAction)
    (h : (fresh e).Unrefused actions) (t : TracerRef) :
    let e' := ((fresh e).run actions).execution
    (∀ s, e'.currentSpan? t = some s ↔ e'.NewestOpen t s) ∧
      (e'.currentSpan? t = none ↔
        ∀ o ∈ e'.openSpans, o.tracer = t → (e'.span o.span).ended = true) ∧
      (∀ name kind, Execution.Adopts e' (e'.start t name kind).2 (e'.start t name kind).1 t name
        (e'.currentSpan? t)) ∧
      (∀ s, e'.currentSpan? t = some s →
        (e'.span s).tracer = t ∧ (e'.span s).ended = false) ∧
      ∀ (tracer : Tracer) cx remote, (tracer.withRemoteParent cx).remoteParent = some remote →
        remote = cx ∧ remote.isValid = true := by
  intro e'
  have haligned : ((fresh e).run actions).Aligned := aligned_run (aligned_fresh e) actions
  have hattached : ((fresh e).run actions).Attached :=
    attached_run (aligned_fresh e) (fun _ ho => nomatch ho) h
  refine ⟨?_, haligned.currentSpan?_eq_none_iff hattached, e'.adopts_start t, ?_, ?_⟩
  · intro s
    exact haligned.currentSpan?_eq_some_iff hattached
  · intro s hs
    obtain ⟨htracer, hlive⟩ := Execution.of_spanOf? hs
    exact ⟨htracer, by simpa [Execution.live] using hlive⟩
  · intro tracer cx remote hremote
    unfold Tracer.withRemoteParent at hremote
    dsimp only at hremote
    split at hremote
    next hvalid =>
      cases hremote
      exact ⟨rfl, hvalid⟩
    next => cases hremote

/-- An execution with two tracers that keep every trace. -/
def twoTracers : Execution :=
  let tracer := { Tracer.standard (.counting 1 1) with sampler := .always }
  { Execution.initial with tracers := #[tracer, tracer] }

/-- The first tracer has a span at the bottom of the stack and one at the top, which has ended; between
them are tags, already dropped, and a span of the second tracer. -/
def interleaved : List ThreadAction :=
  [.start ⟨0⟩ "a" .server, .setTags .empty, .start ⟨1⟩ "b" .client, .start ⟨0⟩ "c" .client,
    .endSpan ⟨2⟩, .dropTags 0]

theorem start_adopts_newest_interleaved :
    (fresh twoTracers).Unrefused interleaved ∧
      Execution.ChildOf ((fresh twoTracers).run interleaved).execution
        (((fresh twoTracers).run interleaved).execution.start ⟨0⟩ "d" .client).2 ⟨3⟩ ⟨0⟩ := by
  have h : (fresh twoTracers).Unrefused interleaved := by decide +kernel
  have hopen : ⟨⟨0⟩, ⟨0⟩, some 1⟩ ∈ ((fresh twoTracers).run interleaved).execution.openSpans := by
    decide +kernel
  obtain ⟨hsome, -, hadopts, -⟩ := start_adopts_newest twoTracers interleaved h ⟨0⟩
  have hcurrent := (hsome ⟨0⟩).2 ⟨⟨_, hopen⟩, by decide +kernel, by decide +kernel⟩
  have hchild := hadopts "d" .client
  rw [hcurrent] at hchild
  exact ⟨h, hchild⟩

end Thread

end Telemetry
