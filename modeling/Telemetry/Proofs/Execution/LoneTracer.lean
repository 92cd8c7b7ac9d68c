import Telemetry.Proofs.Execution.Rewind

/-!
# A tracer on its own

What one tracer does, without the thread on which it does it: `LoneTracer` numbers the spans of the tracer
in the order of their starts and keeps the numbers of the open ones, the newest first. There are no
contexts, no positions, no other tracers and no times. `Execution.lone` reads it off an execution, and the
lemmas here say that recording on spans and ending them comes to the same on both sides, whatever has been
attached in between and whatever other tracers have open. A span of another tracer has a number that no
span has, so that nothing happens to the tracer when something happens to that span.
-/

namespace Telemetry

/-- Replacing the value at one element of a list, by its place. -/
theorem map_ite_eq_modify {α β : Type} [DecidableEq α] {l : List α} (hl : l.Nodup) (a : α)
    (f : β → β) (g : α → β) :
    (l.map fun b => if a = b then f (g b) else g b) = (l.map g).modify (l.idxOf a) f := by
  induction l with
  | nil => simp
  | cons b rest ih =>
    obtain ⟨hnot, hrest⟩ := List.nodup_cons.1 hl
    by_cases h : a = b
    · subst h
      have hsame : (rest.map fun b => if a = b then f (g b) else g b) = rest.map g :=
        List.map_congr_left fun b hb => if_neg (ne_of_mem_of_not_mem hb hnot).symm
      simp [hsame]
    · have hidx : (b :: rest).idxOf a = rest.idxOf a + 1 := by
        simp [Ne.symm h]
      rw [List.map_cons, if_neg h, ih hrest, hidx]
      rfl

/-! ### Without times -/

/-- The record without the times in it. -/
def SpanRecord.untimed (r : SpanRecord) : SpanRecord :=
  { r with startTime := default, events := r.events.map ({ · with time := default }) }

/-- The span without the times in its record. -/
def Span.untimed (span : Span) : Span := { span with record := span.record.map SpanRecord.untimed }

/-- The finished span without the times in it. -/
def SpanData.untimed (data : SpanData) : SpanData :=
  { data with record := data.record.untimed, endTime := default }

/-- What the first end of the span hands over, without times. -/
def Span.finished? (span : Span) : Option SpanData :=
  if span.ended then none else span.record.map fun r => r.finish span.context span.parent default

/-- No change to a record depends on the time, except in the times that it notes. -/
theorem SpanChange.untimed_apply (c : SpanChange) (limits : SpanLimits) (now : Timestamp)
    (r : SpanRecord) : (c.apply limits now r).untimed = c.apply limits default r.untimed := by
  match c with
  | .attribute a =>
    simp only [apply, SpanRecord.setAttribute, apply_ite SpanRecord.untimed]
    rfl
  | .note text attributes =>
    simp only [apply, SpanRecord.addNote, apply_ite SpanRecord.untimed]
    simp only [SpanRecord.untimed, List.map_append]
    rfl
  | .message m =>
    simp only [apply, SpanRecord.addMessage, apply_ite SpanRecord.untimed]
    simp only [SpanRecord.untimed, List.map_append]
    rfl
  | .link l =>
    simp only [apply, SpanRecord.addLink, apply_ite SpanRecord.untimed]
    rfl
  | .status st => rfl
  | .name n => rfl
  | .failure text => rfl

/-- The first end hands over what is recorded. -/
theorem Span.finished?_untimed (span : Span) (time : Timestamp) :
    span.untimed.finished? = if span.ended then none else
      span.record.map fun r => (r.finish span.context span.parent time).untimed := by
  unfold finished? untimed
  dsimp only
  rw [Option.map_map]
  rfl

theorem Span.untimed_closed (span : Span) : span.closed.untimed = span.untimed.closed := by
  have hended : span.untimed.ended = span.ended := rfl
  rw [closed, closed, hended]
  split <;> rfl

/-! ### The tracer alone -/

/-- A tracer and what it has done so far. -/
structure LoneTracer where
  /-- The reference of the tracer. -/
  ref : TracerRef
  /-- The tracer, if there is one with this reference. -/
  tracer : Option Tracer
  /-- Its spans, in the order of their starts. -/
  spans : List Span
  /-- The numbers of its open spans, the newest first. -/
  opened : List Nat
  /-- What it has handed over, in order. -/
  handed : List SpanData

namespace LoneTracer

variable (l : LoneTracer)

/-- What the tracer is made of. -/
def settings : Tracer := l.tracer.getD default

/-- The number of its newest open span that has not ended. -/
def current? : Option Nat :=
  l.opened.find? fun k => l.spans[k]?.any fun span => !span.ended

/-- Changes what is recorded on its span number `k`. -/
def modifyRecord (k : Nat) (f : SpanRecord → SpanRecord) : LoneTracer :=
  { l with spans := l.spans.modify k fun span => { span with record := span.record.map f } }

/-- Changes what is recorded on its span number `k`, within its limits. -/
def change (k : Nat) (c : SpanChange) : LoneTracer :=
  l.modifyRecord k fun r => c.apply l.settings.limits default r

/-- Ends its span number `k`. Only the first time counts. -/
def endSpan (k : Nat) : LoneTracer :=
  { l with
    spans := l.spans.modify k Span.closed
    handed := l.handed ++ (l.spans[k]?.bind Span.finished?).toList }

/-- Ends its span number `k` as abandoned. -/
def abandon (k : Nat) : LoneTracer :=
  (l.modifyRecord k (·.setStatus Execution.abandonedStatus)).endSpan k

/-- Ends its newest open span. -/
def endNewest : LoneTracer :=
  match l.opened with
  | [] => l
  | k :: older => { l with opened := older }.endSpan k

/-- Ends its span number `k`. If the span is open, the newer open ones are abandoned first. -/
def endOpen (k : Nat) : LoneTracer :=
  match l.opened.dropWhile (· != k) with
  | [] => l.endSpan k
  | _ :: older => ((l.opened.takeWhile (· != k)).foldl abandon { l with opened := older }).endSpan k

/-- Takes an identifier for a span. -/
def takeSpanId : SpanId × LoneTracer :=
  let (id, ids) := l.settings.ids.takeSpanId
  (id, { l with tracer := l.tracer.map ({ · with ids }) })

/-- Takes an identifier for a trace. -/
def takeTraceId : TraceId × LoneTracer :=
  let (id, ids) := l.settings.ids.takeTraceId
  (id, { l with tracer := l.tracer.map ({ · with ids }) })

/-- The lineage of its next span: a child of the current one, or else of the remote parent, or else a
root. -/
def lineage (spanId : SpanId) (name : String) : Lineage × LoneTracer :=
  match l.current? with
  | some k =>
    let context := (l.spans.getD k .absent).context
    (⟨{ context with spanId }, some context.spanId, some true⟩, l.modifyRecord k (·.addChild))
  | none =>
    match l.settings.remoteParent with
    | some remote => (Execution.lineageOfRemote remote spanId, l)
    | none =>
      let (traceId, l) := l.takeTraceId
      let keep := l.settings.sampler.keeps traceId spanId name
      (⟨⟨traceId, spanId, TraceOptions.notSampled.withSampled keep, .empty⟩, none, none⟩, l)

/-- The lineage of its next span, which has taken an identifier. -/
def origin (name : String) : Lineage × LoneTracer :=
  l.takeSpanId.2.lineage l.takeSpanId.1 name

/-- Adds a span. -/
def add (span : Span) : LoneTracer := { l with spans := l.spans ++ [span] }

/-- Starts a span and does not make it current. -/
def begun (name : String) (kind : SpanKind) : LoneTracer :=
  let (origin, l) := l.origin name
  let record :=
    if origin.context.isSampled then
      some (SpanRecord.start name kind default origin.sameProcess)
    else none
  l.add ⟨l.ref, origin.context, origin.parent, false, record⟩

/-- Starts a span and makes it current. -/
def start (name : String) (kind : SpanKind) : LoneTracer :=
  let begun := l.begun name kind
  { begun with opened := l.spans.length :: begun.opened }

/-- A span that is not open is simply ended. -/
theorem endOpen_of_not_open {l : LoneTracer} {k : Nat} (h : k ∉ l.opened) :
    l.endOpen k = l.endSpan k := by
  have hdrop : l.opened.dropWhile (· != k) = [] :=
    List.dropWhile_eq_nil_iff.2 fun k' hk' => by simpa using ne_of_mem_of_not_mem hk' h
  rw [endOpen, hdrop]

/-- The newer open spans are abandoned before a span ends that is open. -/
theorem endOpen_of_open {l : LoneTracer} {k : Nat} {newer older : List Nat}
    (hopen : l.opened = newer ++ k :: older) (hnewer : k ∉ newer) :
    l.endOpen k = (newer.foldl abandon { l with opened := older }).endSpan k := by
  have hnot : ∀ k' ∈ newer, (k' != k) = true := fun k' hk' => by
    simpa using ne_of_mem_of_not_mem hk' hnewer
  have htake : l.opened.takeWhile (· != k) = newer := by
    rw [hopen, List.takeWhile_append_of_pos hnot, List.takeWhile_cons_of_neg (by simp),
      List.append_nil]
  have hdrop : l.opened.dropWhile (· != k) = k :: older := by
    rw [hopen, List.dropWhile_append_of_pos hnot, List.dropWhile_cons_of_neg (by simp)]
  rw [endOpen, htake, hdrop]

section Foreign

/-! Nothing happens if a number is that of no span. -/

variable {l} {k : Nat} (hk : l.spans.length ≤ k)

include hk

theorem modifyRecord_of_length_le (f : SpanRecord → SpanRecord) : l.modifyRecord k f = l := by
  rw [modifyRecord, List.modify_eq_self hk]

theorem endSpan_of_length_le : l.endSpan k = l := by
  rw [endSpan, List.modify_eq_self hk, List.getElem?_eq_none hk]
  simp

theorem change_of_length_le (c : SpanChange) : l.change k c = l := modifyRecord_of_length_le hk _

theorem abandon_of_length_le : l.abandon k = l := by
  rw [abandon, modifyRecord_of_length_le hk, endSpan_of_length_le hk]

theorem endOpen_of_length_le (hopened : ∀ k' ∈ l.opened, k' < l.spans.length) :
    l.endOpen k = l := by
  rw [endOpen_of_not_open fun hmem => Nat.not_lt.2 hk (hopened k hmem)]
  exact endSpan_of_length_le hk

end Foreign

theorem foldl_abandon_of_length_le {ks : List Nat} (h : ∀ k ∈ ks, l.spans.length ≤ k) :
    ks.foldl abandon l = l := by
  induction ks with
  | nil => rfl
  | cons k rest ih =>
    rw [List.foldl_cons, abandon_of_length_le (h k List.mem_cons_self)]
    exact ih fun k hk => h k (List.mem_cons_of_mem _ hk)

end LoneTracer

namespace Execution

/-- The spans of `t`, in the order of their starts. -/
def spansOf (e : Execution) (t : TracerRef) : List SpanRef :=
  ((List.range e.spans.size).map SpanRef.mk).filter fun s => (e.span s).tracer == t

/-- The number of a span among those of `t`; if it is none of them, a number that none of them has. -/
def number (e : Execution) (t : TracerRef) (s : SpanRef) : Nat := (e.spansOf t).idxOf s

/-- The numbers of the open spans of `t` among `entries`. -/
def numbersIn (e : Execution) (t : TracerRef) (entries : List OpenSpan) : List Nat :=
  (entries.filter (·.tracer == t)).map fun o => e.number t o.span

/-- What `t` has to do with an execution. -/
def lone (e : Execution) (t : TracerRef) : LoneTracer where
  ref := t
  tracer := e.tracers[t.index]?
  spans := (e.spansOf t).map fun s => (e.span s).untimed
  opened := e.numbersIn t e.openSpans
  handed := (e.exported.toList.filter (·.1 == t)).map (·.2.untimed)

variable {e e' : Execution} {t : TracerRef}

theorem mem_spansOf {s : SpanRef} :
    s ∈ e.spansOf t ↔ s.index < e.spans.size ∧ (e.span s).tracer = t := by
  rw [spansOf, List.mem_filter, List.mem_map, beq_iff_eq]
  refine and_congr_left fun _ => ⟨?_, fun h => ⟨s.index, List.mem_range.2 h, rfl⟩⟩
  rintro ⟨i, hi, rfl⟩
  exact List.mem_range.1 hi

theorem nodup_spansOf (e : Execution) (t : TracerRef) : (e.spansOf t).Nodup :=
  (List.nodup_range.map fun _ _ h => congrArg SpanRef.index h).filter _

theorem spansOf_congr (hsize : e'.spans.size = e.spans.size)
    (htracer : ∀ s, (e'.span s).tracer = (e.span s).tracer) : e'.spansOf t = e.spansOf t := by
  simp only [spansOf, hsize, htracer]

theorem number_eq_length {s : SpanRef} (h : s ∉ e.spansOf t) :
    e.number t s = (e.spansOf t).length :=
  List.idxOf_eq_length h

/-! ### Recording and ending -/

theorem lone_spans_getElem? (e : Execution) (t : TracerRef) (s : SpanRef) :
    (e.lone t).spans[e.number t s]? =
      if s ∈ e.spansOf t then some (e.span s).untimed else none := by
  rw [lone, List.getElem?_map]
  split
  next h => rw [number, List.getElem?_idxOf h, Option.map_some]
  next h => rw [number_eq_length h, List.getElem?_eq_none (Nat.le_refl _), Option.map_none]

theorem length_spans_lone (e : Execution) (t : TracerRef) :
    (e.lone t).spans.length = (e.spansOf t).length :=
  List.length_map _

/-- A span of another tracer has a number that no span has. -/
theorem length_spans_le_number {s : SpanRef} (h : (e.span s).tracer ≠ t) :
    (e.lone t).spans.length ≤ e.number t s := by
  rw [length_spans_lone, number_eq_length fun hs => h (mem_spansOf.1 hs).2]

/-- What is done to one span is done to the span with its number. -/
theorem lone_of_update {s : SpanRef} (f g : Span → Span) (handed : List SpanData)
    (hspan : ∀ q, e'.span q = if s = q then f (e.span q) else e.span q)
    (hsize : e'.spans.size = e.spans.size)
    (htracers : e'.tracers = e.tracers) (hopen : e'.openSpans = e.openSpans)
    (htracer : ∀ span, (f span).tracer = span.tracer)
    (hf : s ∈ e.spansOf t → (f (e.span s)).untimed = g (e.span s).untimed)
    (hhanded : (e'.lone t).handed = (e.lone t).handed ++ handed) :
    e'.spansOf t = e.spansOf t ∧
      e'.lone t = { e.lone t with
        spans := (e.lone t).spans.modify (e.number t s) g
        handed := (e.lone t).handed ++ handed } := by
  have hspans : e'.spansOf t = e.spansOf t := by
    refine spansOf_congr hsize fun q => ?_
    rw [hspan]
    split
    · exact htracer _
    · rfl
  have hmap : (e.spansOf t).map (fun q => (e'.span q).untimed) =
      (e.spansOf t).map fun q => if s = q then g (e.span q).untimed else (e.span q).untimed := by
    refine List.map_congr_left fun q hq => ?_
    rw [hspan]
    split
    next h => subst h; exact hf hq
    next => rfl
  refine ⟨hspans, ?_⟩
  rw [← hhanded]
  simp only [lone, numbersIn, number, htracers, hopen, hspans, hmap,
    map_ite_eq_modify (e.nodup_spansOf t) s g fun q => (e.span q).untimed]

theorem lone_modifyRecord (e : Execution) (t : TracerRef) (s : SpanRef)
    (f g : SpanRecord → SpanRecord)
    (h : s ∈ e.spansOf t → ∀ r, (f r).untimed = g r.untimed) :
    (e.modifyRecord s f).spansOf t = e.spansOf t ∧
      (e.modifyRecord s f).lone t = (e.lone t).modifyRecord (e.number t s) g := by
  have hupdate := lone_of_update (fun span => { span with record := span.record.map f })
    (fun span => { span with record := span.record.map g }) []
    (e.span_modifyRecord s f) (sameShape_modifyRecord e s f).size rfl rfl (fun _ => rfl)
    (fun hs => by
      simp only [Span.untimed, Option.map_map]
      congr 2
      funext r
      exact h hs r)
    (List.append_nil (e.lone t).handed).symm
  rw [List.append_nil] at hupdate
  exact hupdate

/-- What an end hands over, without times. -/
theorem handed_endAt (e : Execution) (t : TracerRef) (s : SpanRef) (time : Timestamp) :
    ((e.endAt s time).lone t).handed =
      (e.lone t).handed ++ ((e.lone t).spans[e.number t s]?.bind Span.finished?).toList := by
  have hhanded : ((e.endAt s time).lone t).handed = (e.lone t).handed ++
      (((e.handover? s id time).toList.filter (·.1 == t)).map (·.2.untimed)) := by
    rw [lone, lone, exported_endAt, List.filter_append, List.map_append]
  rw [hhanded, lone_spans_getElem?]
  congr 1
  unfold handover?
  dsimp only
  cases hended : (e.span s).ended with
  | true =>
    rw [if_pos rfl]
    split <;> simp [Span.finished?_untimed _ time, hended]
  | false =>
    -- A reference to no span reads as one that has ended, so `s` is a span of some tracer.
    have hlt : s.index < e.spans.size := lt_size_of_live (by simp [live, hended])
    by_cases ht : (e.span s).tracer = t
    · rw [if_pos (mem_spansOf.2 ⟨hlt, ht⟩), Option.bind_some, Span.finished?_untimed _ time]
      cases (e.span s).record <;> simp [ht, hended]
    · rw [if_neg fun hs => ht (mem_spansOf.1 hs).2]
      cases (e.span s).record <;> simp [ht]

theorem lone_endSpan (e : Execution) (t : TracerRef) (s : SpanRef) :
    (e.endSpan s).spansOf t = e.spansOf t ∧
      (e.endSpan s).lone t = (e.lone t).endSpan (e.number t s) :=
  lone_of_update Span.closed Span.closed _ (e.span_endAt s e.clock)
    (e.size_endAt s e.clock) (by rw [endSpan, endAt_frame]) (by rw [endSpan, endAt_frame])
    (fun span => by unfold Span.closed; split <;> rfl) (fun _ => Span.untimed_closed _)
    (e.handed_endAt t s e.clock)

/-- No tracer notices that a context goes away. -/
theorem lone_detach (e : Execution) (t : TracerRef) (position : Option Nat) :
    (e.detach position).spansOf t = e.spansOf t ∧ (e.detach position).lone t = e.lone t := by
  unfold detach
  split
  · exact ⟨rfl, rfl⟩
  · split <;> exact ⟨rfl, rfl⟩

theorem lone_abandon (e : Execution) (t : TracerRef) (entry : OpenSpan) :
    (e.abandon entry).spansOf t = e.spansOf t ∧
      (e.abandon entry).lone t = (e.lone t).abandon (e.number t entry.span) := by
  obtain ⟨hspans₁, hlone₁⟩ := e.lone_detach t entry.position
  obtain ⟨hspans₂, hlone₂⟩ := (e.detach entry.position).lone_modifyRecord t entry.span
    (·.setStatus abandonedStatus) (·.setStatus abandonedStatus) fun _ _ => rfl
  obtain ⟨hspans₃, hlone₃⟩ := ((e.detach entry.position).setStatus entry.span
    abandonedStatus).lone_endSpan t entry.span
  refine ⟨hspans₃.trans (hspans₂.trans hspans₁), hlone₃.trans ?_⟩
  simp only [setStatus, number, LoneTracer.abandon] at hlone₂ ⊢
  rw [hlone₂, hspans₂, hlone₁, hspans₁]

theorem lone_foldl_abandon (t : TracerRef) (entries : List OpenSpan) (e : Execution) :
    (entries.foldl abandon e).spansOf t = e.spansOf t ∧
      (entries.foldl abandon e).lone t =
        (entries.map fun o => e.number t o.span).foldl LoneTracer.abandon (e.lone t) := by
  induction entries generalizing e with
  | nil => exact ⟨rfl, rfl⟩
  | cons entry rest ih =>
    obtain ⟨hspans, hlone⟩ := e.lone_abandon t entry
    obtain ⟨hspans', hlone'⟩ := ih (e.abandon entry)
    refine ⟨hspans'.trans hspans, hlone'.trans ?_⟩
    simp only [number, hspans, List.map_cons, List.foldl_cons] at hlone ⊢
    rw [hlone]

/-- Open spans are abandoned and then one more ends as it is. -/
theorem lone_close (e : Execution) (t : TracerRef) (abandoned : List OpenSpan)
    (position : Option Nat) (s : SpanRef) :
    (((abandoned.foldl abandon e).detach position).endSpan s).lone t =
      ((abandoned.map fun o => e.number t o.span).foldl LoneTracer.abandon (e.lone t)).endSpan
        (e.number t s) := by
  obtain ⟨hspans₁, hlone₁⟩ := lone_foldl_abandon t abandoned e
  obtain ⟨hspans₂, hlone₂⟩ := (abandoned.foldl abandon e).lone_detach t position
  obtain ⟨-, hlone₃⟩ := ((abandoned.foldl abandon e).detach position).lone_endSpan t s
  rw [hlone₃, hlone₂, hlone₁, number, hspans₂, hspans₁, number]

/-- Changing what is recorded on a span. -/
theorem lone_change (e : Execution) (t : TracerRef) (s : SpanRef) (c : SpanChange) :
    (e.change s c).lone t = (e.lone t).change (e.number t s) c := by
  rw [change_eq]
  refine (e.lone_modifyRecord t s _ _ fun hs r => ?_).2
  have hlimits : e.limitsOf s = (e.lone t).settings.limits := by
    rw [limitsOf, (mem_spansOf.1 hs).2, tracer, Array.getD_eq_getD_getElem?]
    rfl
  rw [hlimits]
  exact c.untimed_apply _ _ r

/-! ### Ending open spans -/

section Open

variable {t' : TracerRef}

theorem numbersIn_append (entries entries' : List OpenSpan) :
    e.numbersIn t (entries ++ entries') = e.numbersIn t entries ++ e.numbersIn t entries' := by
  simp [numbersIn]

theorem numbersIn_eq_nil {entries : List OpenSpan} (h : ∀ o ∈ entries, o.tracer ≠ t) :
    e.numbersIn t entries = [] := by
  simpa [numbersIn] using h

theorem numbersIn_others {entries : List OpenSpan} (hne : t' ≠ t) :
    e.numbersIn t (entries.filter (·.tracer != t')) = e.numbersIn t entries := by
  unfold numbersIn
  rw [List.filter_filter]
  congr 1
  refine List.filter_congr fun o _ => ?_
  by_cases ho : o.tracer = t
  · simp [ho, hne.symm]
  · simp [ho]

/-- A span of `t'` has a number among those of another tracer that no span has. -/
theorem length_spans_le_of_mem {s : SpanRef} (hs : s ∈ e.spansOf t') (hne : t' ≠ t) :
    (e.lone t).spans.length ≤ e.number t s :=
  length_spans_le_number fun hs' => hne ((mem_spansOf.1 hs).2.symm.trans hs')

theorem lone_endSpan_of_ne {s : SpanRef} (hs : s ∈ e.spansOf t') (hne : t' ≠ t) :
    (e.endSpan s).lone t = e.lone t :=
  (e.lone_endSpan t s).2.trans (LoneTracer.endSpan_of_length_le (length_spans_le_of_mem hs hne))

theorem lone_change_of_ne {s : SpanRef} (hs : s ∈ e.spansOf t') (hne : t' ≠ t) (c : SpanChange) :
    (e.change s c).lone t = e.lone t :=
  (e.lone_change t s c).trans (LoneTracer.change_of_length_le (length_spans_le_of_mem hs hne) c)

theorem lone_endNewest_self (e : Execution) (t : TracerRef) :
    (e.endNewest t).lone t = (e.lone t).endNewest := by
  rcases Thread.newest_or_none e t with
    ⟨hnone, hend⟩ | ⟨newer, entry, older, -, hopen, ht, hnewer, hend⟩
  · have hopened : (e.lone t).opened = [] :=
      numbersIn_eq_nil fun o ho => by simpa using List.find?_eq_none.1 hnone o ho
    rw [hend, LoneTracer.endNewest, hopened]
    rfl
  · have hopened : (e.lone t).opened = e.number t entry.span :: e.numbersIn t older := by
      rw [lone, hopen, numbersIn_append, numbersIn_eq_nil hnewer]
      simp [numbersIn, ht]
    have hkept : e.numbersIn t (newer ++ older) = e.numbersIn t older := by
      rw [numbersIn_append, numbersIn_eq_nil hnewer, List.nil_append]
    have hclose := lone_close { e with openSpans := newer ++ older } t [] entry.position entry.span
    rw [hend, LoneTracer.endNewest, hopened]
    refine hclose.trans ?_
    dsimp only
    rw [← hkept]
    rfl

theorem lone_endNewest_of_ne (hown : ∀ o ∈ e.openSpans, o.span ∈ e.spansOf o.tracer)
    (hne : t' ≠ t) : (e.endNewest t').lone t = e.lone t := by
  rcases Thread.newest_or_none e t' with
    ⟨-, hend⟩ | ⟨newer, entry, older, -, hopen, ht, -, hend⟩
  · rw [hend]
    rfl
  · have hentry : entry.span ∈ e.spansOf t' := ht ▸ hown entry (by simp [hopen])
    have hkept : e.numbersIn t (newer ++ older) = e.numbersIn t e.openSpans := by
      have hentry : e.numbersIn t [entry] = [] := numbersIn_eq_nil (by simpa [ht] using hne)
      rw [hopen, ← List.singleton_append, numbersIn_append, numbersIn_append, numbersIn_append,
        hentry, List.nil_append]
    have hsame : lone { e with openSpans := newer ++ older } t = e.lone t :=
      congrArg (fun opened => { e.lone t with opened := opened }) hkept
    have hclose := lone_close { e with openSpans := newer ++ older } t [] entry.position entry.span
    -- What is open of `t` stays, and the span that ends is none of its spans.
    rw [hend]
    refine hclose.trans ?_
    rw [hsame]
    exact LoneTracer.endSpan_of_length_le (length_spans_le_of_mem hentry hne)

/-- What is open after some were taken off. -/
theorem lone_rewound (e : Execution) (t : TracerRef) (s : SpanRef)
    (abandoned kept : List OpenSpan) :
    (Thread.rewound e s abandoned kept).lone t =
      { e.lone t with opened := e.numbersIn t kept } := by
  unfold Thread.rewound
  dsimp only
  split <;> rfl

theorem number_rewound (e : Execution) (t : TracerRef) (s : SpanRef)
    (abandoned kept : List OpenSpan) :
    (Thread.rewound e s abandoned kept).number t = e.number t := by
  unfold Thread.rewound
  dsimp only
  split <;> rfl

/-- No other span has the number of one of the tracer's own. -/
theorem number_mem_numbersIn_iff {s : SpanRef} (hs : s ∈ e.spansOf t) {entries : List OpenSpan} :
    e.number t s ∈ e.numbersIn t entries ↔ ∃ o ∈ entries, o.tracer = t ∧ o.span = s := by
  simp only [numbersIn, List.mem_map, List.mem_filter, beq_iff_eq, and_assoc]
  refine exists_congr fun o => and_congr_right fun _ => and_congr_right fun _ => ?_
  rw [eq_comm, number, number, List.idxOf_inj hs, eq_comm]

theorem lone_endOpen_self {s : SpanRef} (hs : s ∈ e.spansOf t) :
    (e.endOpen t s).lone t = (e.lone t).endOpen (e.number t s) := by
  rcases Thread.open_or_not e t s with hnot | ⟨newer, entry, older, hopen, rfl, rfl, hnewer⟩
  · have hopened : e.number t s ∉ (e.lone t).opened := fun hmem =>
      let ⟨o, ho, hspan⟩ := (number_mem_numbersIn_iff hs).1 hmem
      hnot o ho hspan
    rw [Thread.endOpen_of_not_open hnot, LoneTracer.endOpen_of_not_open hopened]
    exact (e.lone_endSpan t s).2
  · have hopened : (e.lone entry.tracer).opened = e.numbersIn entry.tracer newer ++
        e.number entry.tracer entry.span :: e.numbersIn entry.tracer older := by
      rw [lone, hopen, numbersIn_append]
      simp [numbersIn]
    have hnot : e.number entry.tracer entry.span ∉ e.numbersIn entry.tracer newer := fun hmem =>
      let ⟨o, ho, hspan⟩ := (number_mem_numbersIn_iff hs).1 hmem
      hnewer o ho hspan
    -- Of the newer ones, only those of other tracers stay open.
    have hkept : e.numbersIn entry.tracer
        (newer.filter (·.tracer != entry.tracer) ++ older) = e.numbersIn entry.tracer older := by
      rw [numbersIn_append, numbersIn_eq_nil, List.nil_append]
      simp
    rw [Thread.endOpen_of_open hopen hnewer, lone_close, lone_rewound, number_rewound, hkept,
      LoneTracer.endOpen_of_open hopened hnot]
    rfl

theorem lone_endOpen_of_ne (hown : ∀ o ∈ e.openSpans, o.span ∈ e.spansOf o.tracer)
    (hne : t' ≠ t) {s : SpanRef} (hs : s ∈ e.spansOf t') :
    (e.endOpen t' s).lone t = e.lone t := by
  rcases Thread.open_or_not e t' s with hnot | ⟨newer, entry, older, hopen, rfl, rfl, hnewer⟩
  · rw [Thread.endOpen_of_not_open hnot, lone_endSpan_of_ne hs hne]
  · have hentry : e.numbersIn t [entry] = [] := numbersIn_eq_nil (by simpa using hne)
    have hkept : e.numbersIn t (newer.filter (·.tracer != entry.tracer) ++ older) =
        e.numbersIn t e.openSpans := by
      rw [hopen, ← List.singleton_append, numbersIn_append, numbersIn_append, numbersIn_append,
        numbersIn_others hne, hentry, List.nil_append]
    have hsame : { e.lone t with opened := e.numbersIn t e.openSpans } = e.lone t := rfl
    have habandoned : ∀ k ∈ (newer.filter (·.tracer == entry.tracer)).map
        (fun o => e.number t o.span), (e.lone t).spans.length ≤ k := by
      intro k hk
      obtain ⟨o, ho, rfl⟩ := List.mem_map.1 hk
      obtain ⟨ho, ht⟩ := List.mem_filter.1 ho
      have hmem := hown o (by simp [hopen, ho])
      exact length_spans_le_of_mem hmem (by simpa using (beq_iff_eq.1 ht).trans_ne hne)
    rw [Thread.endOpen_of_open hopen hnewer, lone_close, lone_rewound, number_rewound, hkept, hsame,
      LoneTracer.foldl_abandon_of_length_le _ habandoned]
    exact LoneTracer.endSpan_of_length_le (length_spans_le_of_mem hs hne)

end Open

end Execution

end Telemetry
