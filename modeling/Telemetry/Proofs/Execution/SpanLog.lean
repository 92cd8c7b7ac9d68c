import Mathlib.Data.List.TakeWhile
import Telemetry.Proofs.Execution.Ending

/-!
# The log of spans

What happens to spans in the course of an execution, written down as a list: spans begin, what is recorded
on them changes, and operations that end them reach them, possibly more than once.  The log knows nothing
of stacks and contexts, and everything about a span can be read off it: whether it has ended
(`SpanLog.hasEnded`), when it first ended (`SpanLog.endTime?`), what is recorded on it
(`SpanLog.recordAfter`), and what was handed to an exporter when it first ended (`SpanLog.handover?`).

`Reflects log e` says that an execution is in all of this as the log has it.  It is kept by each of the
three things that happen to spans.
-/

namespace Telemetry

section EraseDups

variable {α : Type} [BEq α] [LawfulBEq α]

/-- One more element is there anew, or it was there before. -/
theorem eraseDups_concat (l : List α) (x : α) :
    (l ++ [x]).eraseDups = l.eraseDups ++ if x ∈ l then [] else [x] := by
  rw [List.eraseDups_append]
  by_cases hx : x ∈ l <;> simp [List.removeAll, hx, List.eraseDups_cons]

theorem nodup_eraseDups (l : List α) : l.eraseDups.Nodup := by
  induction l using List.reverseRecOn with
  | nil => exact .nil
  | append_singleton l x ih =>
    rw [eraseDups_concat]
    split
    next => rwa [List.append_nil]
    next hx =>
      rw [← List.concat_eq_append]
      exact ih.concat fun hmem => hx (List.mem_eraseDups.1 hmem)

end EraseDups

/-- Where a span comes from. -/
inductive Descent where
  /-- It is a child of a span in this process. -/
  | child (parent : SpanRef)
  /-- It is a child of a span in another process. -/
  | remote (cx : SpanContext)
  /-- It is the first span of a new trace. -/
  | root
  deriving DecidableEq

/-- Whether the parent is in this process, if there is one. -/
def Descent.sameProcess : Descent → Option Bool
  | .child _ => some true
  | .remote _ => some false
  | .root => none

/-- A span as it began. -/
structure Birth where
  /-- The span. -/
  span : Span
  /-- Where it comes from. -/
  descent : Descent

/-- Something that happens to spans. -/
inductive SpanEvent where
  /-- One more span begins. -/
  | begins (birth : Birth)
  /-- What is recorded on a span is changed. -/
  | changes (s : SpanRef) (limits : SpanLimits) (now : Timestamp) (c : SpanChange)
  /-- A span is reached by an operation that ends it. -/
  | ends (s : SpanRef) (time : Timestamp)

namespace SpanEvent

/-- The span that begins. -/
def birth? : SpanEvent → Option Birth
  | begins birth => some birth
  | _ => none

/-- The span that is reached by an operation that ends it, and the time at which it would end. -/
def ending? : SpanEvent → Option (SpanRef × Timestamp)
  | ends s time => some (s, time)
  | _ => none

/-- Whether an operation that ends `s` reaches it. -/
def endsSpan (s : SpanRef) (event : SpanEvent) : Bool := event.ending?.any (·.1 = s)

/-- What is recorded on `s` after the event. A child that begins is counted. -/
def recordOn (s : SpanRef) (r : SpanRecord) : SpanEvent → SpanRecord
  | begins birth => if birth.descent = .child s then r.addChild else r
  | changes s' limits now c => if s' = s then c.apply limits now r else r
  | ends .. => r

/-- The event has nothing to do with `s`. -/
def Ignores (event : SpanEvent) (s : SpanRef) : Prop :=
  event.endsSpan s = false ∧ ∀ r, event.recordOn s r = r

theorem ignores_changes {s q : SpanRef} (h : s ≠ q) (limits : SpanLimits) (now : Timestamp)
    (c : SpanChange) : (changes s limits now c).Ignores q :=
  ⟨rfl, fun _ => if_neg h⟩

theorem ignores_ends {s q : SpanRef} (h : s ≠ q) (time : Timestamp) : (ends s time).Ignores q :=
  ⟨decide_eq_false h, fun _ => rfl⟩

theorem ignores_begins {birth : Birth} {q : SpanRef} (h : birth.descent ≠ .child q) :
    (begins birth).Ignores q :=
  ⟨rfl, fun _ => if_neg h⟩

end SpanEvent

/-- What happened to spans, in order. -/
abbrev SpanLog := List SpanEvent

namespace SpanLog

/-- The spans as they began, in order. -/
def births (log : SpanLog) : List Birth := log.filterMap (·.birth?)

/-- The spans that were reached by operations that end them, each time, in order. -/
def endings (log : SpanLog) : List SpanRef := log.filterMap (·.ending?.map (·.1))

/-- The spans that were reached by operations that end them, the first time each, in order. -/
def firstEndings (log : SpanLog) : List SpanRef := log.endings.eraseDups

/-- Whether `s` has ended. -/
def hasEnded (log : SpanLog) (s : SpanRef) : Bool := log.any (·.endsSpan s)

/-- What happened until `s` ended. -/
def untilEnd (log : SpanLog) (s : SpanRef) : SpanLog := log.takeWhile (!·.endsSpan s)

/-- The time at which `s` was first reached by an operation that ends it. -/
def endTime? (log : SpanLog) (s : SpanRef) : Option Timestamp :=
  (log.find? (·.endsSpan s)).bind (·.ending?.map (·.2))

/-- What is recorded on `s` after all that happened, if nothing ended it. -/
def recordAfter (log : SpanLog) (s : SpanRef) (r : SpanRecord) : SpanRecord :=
  log.foldl (fun r event => event.recordOn s r) r

/-- What is handed to the exporter of the tracer of `s`: the record with all that happened until `s` first
ended.  Nothing is, if `s` is not recorded or has not ended. -/
def handover? (log : SpanLog) (s : SpanRef) : Option (TracerRef × SpanData) := do
  let birth ← log.births[s.index]?
  let record ← birth.span.record
  let time ← log.endTime? s
  let span := birth.span
  return (span.tracer,
    ((log.untilEnd s).recordAfter s record).finish span.context span.parent time)

/-- What has become of `s`. -/
def spanNow (log : SpanLog) (s : SpanRef) : Span :=
  match log.births[s.index]? with
  | some birth => { birth.span with
      ended := log.hasEnded s
      record := if log.hasEnded s then none else birth.span.record.map (log.recordAfter s) }
  | none => .absent

/-! ### One more event -/

theorem births_append (log log' : SpanLog) : births (log ++ log') = log.births ++ log'.births :=
  List.filterMap_append

@[simp] theorem births_nil : births [] = [] := rfl

theorem hasEnded_append (log log' : SpanLog) (s : SpanRef) :
    hasEnded (log ++ log') s = (log.hasEnded s || log'.hasEnded s) := List.any_append

theorem recordAfter_append (log log' : SpanLog) (s : SpanRef) (r : SpanRecord) :
    recordAfter (log ++ log') s r = log'.recordAfter s (log.recordAfter s r) := List.foldl_append

/-- The time of the first end stays. -/
theorem endTime?_append {log : SpanLog} (log' : SpanLog) {s : SpanRef} (h : log.hasEnded s = true) :
    endTime? (log ++ log') s = log.endTime? s := by
  obtain ⟨event, hmem, hevent⟩ := List.any_eq_true.1 h
  have hfind : (log.find? (·.endsSpan s)).isSome := List.find?_isSome.2 ⟨event, hmem, hevent⟩
  rw [endTime?, List.find?_append, Option.or_of_isSome hfind]
  rfl

/-- What happens after the end does not count. -/
theorem untilEnd_append {log : SpanLog} (log' : SpanLog) {s : SpanRef} (h : log.hasEnded s = true) :
    untilEnd (log ++ log') s = log.untilEnd s := by
  obtain ⟨event, hmem, hevent⟩ := List.any_eq_true.1 h
  have hlen : (log.takeWhile (!·.endsSpan s)).length ≠ log.length := by
    intro hlen
    have hself : log.takeWhile (!·.endsSpan s) = log := (List.takeWhile_prefix _).eq_of_length hlen
    have := List.takeWhile_eq_self_iff.1 hself event hmem
    simp [hevent] at this
  rw [untilEnd, List.takeWhile_append, if_neg hlen]
  rfl

/-- The first end of a span that has not ended is the next one. -/
theorem endTime?_append_ends {log : SpanLog} {s : SpanRef} (h : log.hasEnded s = false)
    (time : Timestamp) : endTime? (log ++ [.ends s time]) s = some time := by
  have hnone : log.find? (·.endsSpan s) = none := List.find?_eq_none.2 (List.any_eq_false.1 h)
  rw [endTime?, List.find?_append, hnone, Option.none_or, List.find?_cons_of_pos]
  · rfl
  · exact decide_eq_true rfl

/-- What happens before the end counts, but not the end itself. -/
theorem untilEnd_concat {log : SpanLog} {s : SpanRef} (h : log.hasEnded s = false)
    (event : SpanEvent) :
    untilEnd (log ++ [event]) s = log ++ if event.endsSpan s then [] else [event] := by
  have hlog : ∀ event ∈ log, (!event.endsSpan s) = true := fun event hmem => by
    rw [Bool.not_eq_true', ← Bool.not_eq_true]
    exact List.any_eq_false.1 h event hmem
  rw [untilEnd, List.takeWhile_append_of_pos hlog]
  cases hends : event.endsSpan s with
  | true => rw [List.takeWhile_cons_of_neg (by simp [hends]), if_pos rfl]
  | false => rw [List.takeWhile_cons_of_pos (by simp [hends]), List.takeWhile_nil, if_neg (by simp)]

/-- What was handed over stays. -/
theorem handover?_append {log : SpanLog} (log' : SpanLog) {s : SpanRef}
    (h : log.hasEnded s = true) (hs : s.index < log.births.length) :
    handover? (log ++ log') s = log.handover? s := by
  unfold handover?
  rw [births_append, List.getElem?_append_left hs, endTime?_append log' h, untilEnd_append log' h]

/-- A span stays as it is in an event that has nothing to do with it. -/
theorem spanNow_append_of_ignores {log : SpanLog} {event : SpanEvent} {s : SpanRef}
    (h : event.Ignores s) (hbirth : (births (log ++ [event]))[s.index]? = log.births[s.index]?) :
    spanNow (log ++ [event]) s = log.spanNow s := by
  have hended : hasEnded (log ++ [event]) s = log.hasEnded s := by
    rw [hasEnded_append, hasEnded, hasEnded, List.any_cons, h.1]
    exact Bool.or_false _
  have hrecord : recordAfter (log ++ [event]) s = log.recordAfter s := by
    funext r
    rw [recordAfter_append]
    exact h.2 _
  rw [spanNow, spanNow, hbirth, hended, hrecord]

theorem mem_endings_iff {log : SpanLog} {s : SpanRef} :
    s ∈ log.endings ↔ log.hasEnded s = true := by
  simp [endings, hasEnded, SpanEvent.endsSpan, Option.any_eq_true]

theorem mem_firstEndings_iff {log : SpanLog} {s : SpanRef} :
    s ∈ log.firstEndings ↔ log.hasEnded s = true := by
  rw [firstEndings, List.mem_eraseDups, mem_endings_iff]

theorem firstEndings_append_ends (log : SpanLog) (s : SpanRef) (time : Timestamp) :
    firstEndings (log ++ [.ends s time]) =
      log.firstEndings ++ if log.hasEnded s then [] else [s] := by
  have happend : endings (log ++ [.ends s time]) = log.endings ++ [s] := List.filterMap_append
  rw [firstEndings, happend, eraseDups_concat, firstEndings]
  simp only [mem_endings_iff]

theorem firstEndings_append_of_none (log : SpanLog) {event : SpanEvent}
    (h : event.ending? = none) : firstEndings (log ++ [event]) = log.firstEndings := by
  have happend : endings (log ++ [event]) = log.endings := by simp [endings, h]
  rw [firstEndings, happend, firstEndings]

theorem nodup_firstEndings (log : SpanLog) : log.firstEndings.Nodup := nodup_eraseDups _

end SpanLog

/-- An execution is as the log of its spans has it. -/
structure Reflects (log : SpanLog) (e : Execution) : Prop where
  size : e.spans.size = log.births.length
  span : ∀ s, e.span s = log.spanNow s
  exported : e.exported.toList = log.firstEndings.filterMap log.handover?
  known : ∀ event ∈ log, ∀ s, log.births.length ≤ s.index → event.Ignores s

namespace Reflects

variable {log : SpanLog} {e e' : Execution}

theorem of_no_spans (h : e.spans = #[]) (hexported : e.exported = #[]) : Reflects [] e where
  size := by rw [h]; rfl
  span s := by rw [Execution.span, h]; rfl
  exported := by rw [hexported]; rfl
  known _ h := nomatch h

/-- What touches neither spans nor exporters is not in the log. -/
theorem silent (h : Reflects log e) (hspans : e'.spans = e.spans)
    (hexported : e'.exported = e.exported) : Reflects log e' where
  size := by rw [hspans, h.size]
  span s := by rw [← h.span s, Execution.span, hspans]; rfl
  exported := by rw [hexported, h.exported]
  known := h.known

/-- A span that is not known has not ended, and nothing is recorded on it. -/
theorem of_le (h : Reflects log e) {s : SpanRef} (hs : log.births.length ≤ s.index) :
    log.hasEnded s = false ∧ ∀ r, log.recordAfter s r = r := by
  constructor
  · exact List.any_eq_false.2 fun event hmem => by simp [(h.known event hmem s hs).1]
  · intro r
    have hfold : ∀ l : SpanLog, (∀ event ∈ l, event ∈ log) → l.recordAfter s r = r := by
      intro l hl
      induction l with
      | nil => rfl
      | cons event rest ih =>
        rw [SpanLog.recordAfter, List.foldl_cons, (h.known event (hl _ List.mem_cons_self) s hs).2]
        exact ih fun ev hev => hl ev (List.mem_cons_of_mem _ hev)
    exact hfold log fun _ h => h

theorem lt_of_hasEnded (h : Reflects log e) {s : SpanRef} (hs : log.hasEnded s = true) :
    s.index < log.births.length := by
  by_contra hge
  rw [(h.of_le (Nat.not_lt.1 hge)).1] at hs
  cases hs

/-- What was handed over is not handed over anew, or otherwise. -/
theorem exported_append (h : Reflects log e) (log' : SpanLog) :
    log.firstEndings.filterMap (SpanLog.handover? (log ++ log')) = e.exported.toList := by
  rw [h.exported]
  refine List.filterMap_congr fun s hs => ?_
  have hended := SpanLog.mem_firstEndings_iff.1 hs
  exact SpanLog.handover?_append log' hended (h.lt_of_hasEnded hended)

theorem span_of_lt (h : Reflects log e) {s : SpanRef} (hs : s.index < e.spans.size) :
    ∃ birth, log.births[s.index]? = some birth ∧ e.span s = { birth.span with
      ended := log.hasEnded s
      record := if log.hasEnded s then none else birth.span.record.map (log.recordAfter s) } := by
  rw [h.size] at hs
  refine ⟨log.births[s.index], List.getElem?_eq_getElem hs, ?_⟩
  rw [h.span, SpanLog.spanNow, List.getElem?_eq_getElem hs]

/-- What a span is known by stays as it was when the span began. -/
theorem identity (h : Reflects log e) {s : SpanRef} {birth : Birth}
    (hbirth : log.births[s.index]? = some birth) :
    s.index < e.spans.size ∧ (e.span s).tracer = birth.span.tracer ∧
      (e.span s).context = birth.span.context ∧ (e.span s).parent = birth.span.parent := by
  obtain ⟨hlt, -⟩ := List.getElem?_eq_some_iff.1 hbirth
  rw [h.size, h.span, SpanLog.spanNow, hbirth]
  exact ⟨hlt, rfl, rfl, rfl⟩

/-- Only spans that have begun are known after one more event. -/
theorem known_append (h : Reflects log e) {event : SpanEvent}
    (hevent : ∀ s, log.births.length ≤ s.index → event.Ignores s) :
    ∀ ev ∈ log ++ [event], ∀ s, (SpanLog.births (log ++ [event])).length ≤ s.index →
      ev.Ignores s := by
  intro ev hev s hs
  rw [SpanLog.births_append, List.length_append] at hs
  have hle : log.births.length ≤ s.index := by omega
  rcases List.mem_append.1 hev with hev | hev
  · exact h.known ev hev s hle
  · rw [List.mem_singleton.1 hev]
    exact hevent s hle

/-- An event that changes what is recorded on one span, and has nothing to do with the others. -/
theorem span_modifyRecord (h : Reflects log e) {event : SpanEvent} {s q : SpanRef}
    {f : SpanRecord → SpanRecord} (hs : s.index < e.spans.size)
    (hends : event.endsSpan s = false) (hrecord : ∀ r, event.recordOn s r = f r)
    (hothers : ∀ q, s ≠ q → event.Ignores q)
    (hbirth : (SpanLog.births (log ++ [event]))[q.index]? = log.births[q.index]?) :
    (e.modifyRecord s f).span q = SpanLog.spanNow (log ++ [event]) q := by
  rw [Execution.modifyRecord, Execution.span_modifySpan]
  by_cases hq : s = q
  · subst hq
    obtain ⟨birth, hmem, hspan⟩ := h.span_of_lt hs
    have hended : SpanLog.hasEnded (log ++ [event]) s = log.hasEnded s := by
      rw [SpanLog.hasEnded_append, SpanLog.hasEnded, SpanLog.hasEnded, List.any_cons, hends]
      exact Bool.or_false _
    have hafter : SpanLog.recordAfter (log ++ [event]) s = f ∘ log.recordAfter s := by
      funext r
      rw [SpanLog.recordAfter_append]
      exact hrecord _
    rw [if_pos ⟨rfl, hs⟩, hspan, SpanLog.spanNow, hbirth, hmem, hended, hafter]
    cases log.hasEnded s <;> simp
  · rw [if_neg fun hq' => hq hq'.1, h.span,
      SpanLog.spanNow_append_of_ignores (hothers q hq) hbirth]

/-- **A record is changed.** -/
theorem changes (h : Reflects log e) {s : SpanRef} (hs : s.index < e.spans.size)
    (limits : SpanLimits) (now : Timestamp) (c : SpanChange) :
    Reflects (log ++ [.changes s limits now c]) (e.modifyRecord s (c.apply limits now)) := by
  have hbirths : SpanLog.births (log ++ [.changes s limits now c]) = log.births := by
    simp [SpanLog.births, SpanEvent.birth?]
  constructor
  · rw [hbirths, ← h.size]
    exact Array.size_modify
  · intro q
    exact h.span_modifyRecord hs rfl (fun _ => if_pos rfl)
      (fun q hq => SpanEvent.ignores_changes hq _ _ _) (by rw [hbirths])
  · rw [SpanLog.firstEndings_append_of_none _ rfl, h.exported_append]
    rfl
  · refine h.known_append fun q hq => SpanEvent.ignores_changes ?_ _ _ _
    rintro rfl
    rw [← h.size] at hq
    omega

/-- What the first end of a span hands over is what the log has. -/
theorem handover?_ends (h : Reflects log e) {s : SpanRef} (hs : s.index < e.spans.size)
    (hended : log.hasEnded s = false) (time : Timestamp) :
    SpanLog.handover? (log ++ [.ends s time]) s = e.handover? s id time := by
  have hbirths : SpanLog.births (log ++ [.ends s time]) = log.births := by
    simp [SpanLog.births, SpanEvent.birth?]
  obtain ⟨birth, hbirth, hspan⟩ := h.span_of_lt hs
  have hends : (SpanEvent.ends s time).endsSpan s = true := decide_eq_true rfl
  rw [hended] at hspan
  rw [SpanLog.handover?, hbirths, hbirth, SpanLog.endTime?_append_ends hended,
    SpanLog.untilEnd_concat hended, if_pos hends, List.append_nil, Execution.handover?, hspan]
  cases hrecord : birth.span.record <;> simp [hrecord]

/-- **A span is reached by an operation that ends it.** -/
theorem ends (h : Reflects log e) {s : SpanRef} (hs : s.index < e.spans.size)
    (time : Timestamp) : Reflects (log ++ [.ends s time]) (e.endAt s time) := by
  have hbirths : SpanLog.births (log ++ [.ends s time]) = log.births := by
    simp [SpanLog.births, SpanEvent.birth?]
  obtain ⟨birth, hbirth, hspan⟩ := h.span_of_lt hs
  have hendedNow : (e.span s).ended = log.hasEnded s := by rw [hspan]
  constructor
  · rw [hbirths, ← h.size]
    exact Execution.size_endAt e s time
  · intro q
    rw [Execution.span_endAt]
    by_cases hq : s = q
    · subst hq
      have hended : SpanLog.hasEnded (log ++ [.ends s time]) s = true := by
        rw [SpanLog.hasEnded_append]
        simp [SpanLog.hasEnded, SpanEvent.endsSpan, SpanEvent.ending?]
      rw [if_pos rfl, SpanLog.spanNow, hbirths, hbirth, hended, hspan, Span.closed]
      cases log.hasEnded s <;> rfl
    · rw [if_neg hq, h.span,
        SpanLog.spanNow_append_of_ignores (SpanEvent.ignores_ends hq _) (by rw [hbirths])]
  · rw [SpanLog.firstEndings_append_ends, List.filterMap_append, h.exported_append,
      Execution.exported_endAt]
    congr 1
    cases hended : log.hasEnded s with
    | true =>
      rw [hended] at hendedNow
      simp [Execution.handover?, hendedNow]
    | false =>
      rw [← h.handover?_ends hs hended]
      cases hdata : SpanLog.handover? (log ++ [.ends s time]) s <;> simp [hdata]
  · refine h.known_append fun q hq => SpanEvent.ignores_ends ?_ _
    rintro rfl
    rw [← h.size] at hq
    omega

/-- The execution with one more child of the parent counted. -/
def counted (e : Execution) : Descent → Execution
  | .child parent => e.modifyRecord parent (·.addChild)
  | _ => e

theorem size_counted (e : Execution) (descent : Descent) :
    (counted e descent).spans.size = e.spans.size := by
  cases descent with
  | child p => exact Array.size_modify
  | remote cx => rfl
  | root => rfl

/-- A span that was there before is as the log has it after one more began. -/
theorem span_counted (h : Reflects log e) {birth : Birth}
    (hparent : ∀ p, birth.descent = .child p → p.index < e.spans.size) {q : SpanRef}
    (hq : (SpanLog.births (log ++ [.begins birth]))[q.index]? = log.births[q.index]?) :
    (counted e birth.descent).span q = SpanLog.spanNow (log ++ [.begins birth]) q := by
  cases hdescent : birth.descent with
  | child p =>
    refine h.span_modifyRecord (hparent p hdescent) rfl (fun _ => if_pos hdescent) ?_ hq
    intro q hne
    refine SpanEvent.ignores_begins ?_
    rw [hdescent]
    rintro ⟨⟩
    exact hne rfl
  | remote cx =>
    have hignores : (SpanEvent.begins birth).Ignores q :=
      SpanEvent.ignores_begins (by simp [hdescent])
    exact (h.span q).trans (SpanLog.spanNow_append_of_ignores hignores hq).symm
  | root =>
    have hignores : (SpanEvent.begins birth).Ignores q :=
      SpanEvent.ignores_begins (by simp [hdescent])
    exact (h.span q).trans (SpanLog.spanNow_append_of_ignores hignores hq).symm

/-- **A span begins.** -/
theorem begins (h : Reflects log e) {birth : Birth} (hlive : birth.span.ended = false)
    (hparent : ∀ p, birth.descent = .child p → p.index < e.spans.size)
    (hspans : e'.spans = (counted e birth.descent).spans.push birth.span)
    (hexported : e'.exported = e.exported) : Reflects (log ++ [.begins birth]) e' := by
  have hbirths : SpanLog.births (log ++ [.begins birth]) = log.births ++ [birth] :=
    SpanLog.births_append _ _
  have hignores : ∀ s : SpanRef, log.births.length ≤ s.index →
      (SpanEvent.begins birth).Ignores s := by
    intro s hs
    refine SpanEvent.ignores_begins fun hdescent => ?_
    have := hparent s hdescent
    rw [h.size] at this
    omega
  have hpush : ∀ q, e'.span q =
      if q.index = e.spans.size then birth.span else (counted e birth.descent).span q := by
    intro q
    rw [← size_counted e birth.descent, ← Execution.span_push, Execution.span, Execution.span,
      hspans]
  constructor
  · rw [hspans, Array.size_push, size_counted, h.size, hbirths, List.length_append]
    rfl
  · intro q
    rw [hpush]
    split
    next hq =>
      -- The new span: nothing in the log is about it.
      have hle : log.births.length ≤ q.index := by rw [← h.size]; omega
      have hget : (SpanLog.births (log ++ [.begins birth]))[q.index]? = some birth := by
        rw [hbirths, hq, h.size, List.getElem?_concat_length]
      have hended : SpanLog.hasEnded (log ++ [.begins birth]) q = false := by
        rw [SpanLog.hasEnded_append, (h.of_le hle).1]
        rfl
      have hafter : SpanLog.recordAfter (log ++ [.begins birth]) q = id := by
        funext r
        rw [SpanLog.recordAfter_append, (h.of_le hle).2]
        exact (hignores q hle).2 r
      have hsame : { birth.span with ended := false } = birth.span := by rw [← hlive]
      rw [SpanLog.spanNow, hget, hended, hafter]
      simpa using hsame.symm
    next hq =>
      refine h.span_counted hparent ?_
      rw [hbirths]
      rcases Nat.lt_or_gt_of_ne hq with hlt | hgt
      · rw [List.getElem?_append_left (by rw [← h.size]; exact hlt)]
      · rw [h.size] at hgt
        rw [List.getElem?_eq_none (by simp; omega), List.getElem?_eq_none (by omega)]
  · rw [SpanLog.firstEndings_append_of_none _ rfl, h.exported_append, hexported]
  · exact h.known_append hignores

end Reflects

end Telemetry
