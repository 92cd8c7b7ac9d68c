import Mathlib.Logic.Relation
import Telemetry.Proofs.Execution.Handover

/-!
# The genealogy of spans

Every span takes over the trace of its parent, wherever it comes from (`Birth.Inherits`).  Parents in this
process began earlier, so following them comes to an end, at a span without one.

A span counts its children one by one, as they begin.  `SpanLog.Genuine.children_untilEnd` says that no
child begins after the end of its parent, so the count that an exporter gets is the number of all the
children there ever are.  `Process.genealogy_run` has the results.
-/

namespace Telemetry

/-- What a span takes over from where it comes from, given the spans that began earlier. -/
def Birth.Inherits (birth : Birth) (remoteParents : TracerRef → Option SpanContext)
    (earlier : List Birth) : Prop :=
  let span := birth.span
  match birth.descent with
  | .child p => ∃ parent, earlier[p.index]? = some parent ∧ parent.span.tracer = span.tracer ∧
      span.context = { parent.span.context with spanId := span.context.spanId } ∧
      span.parent = some parent.span.context.spanId
  | .remote cx => remoteParents span.tracer = some cx ∧
      span.context = { cx with spanId := span.context.spanId } ∧ span.parent = some cx.spanId
  | .root => remoteParents span.tracer = none ∧ span.parent = none

/-- What a record says about the family of a span with the given descent and number of children. -/
def SpanRecord.Family (r : SpanRecord) (descent : Descent) (children : Nat) : Prop :=
  r.sameProcess = descent.sameProcess ∧ r.childCount = children

/-! ### One span -/

section Birth

variable {log : SpanLog} {e : Execution} (t : TracerRef) (cx : Context) (name : String)
  (kind : SpanKind)

/-- A new span takes over the trace of its parent. -/
theorem Reflects.inherits_birth (h : Reflects log e) :
    (e.birth t cx name kind).Inherits e.remoteParents log.births := by
  unfold Execution.birth Execution.newSpan Execution.descent Birth.Inherits
  cases hparent : e.spanOf? cx t with
  | some parent =>
    obtain ⟨htracer, hlive⟩ := Execution.of_spanOf? hparent
    obtain ⟨birth, hbirth, -⟩ := h.span_of_lt (Execution.lt_size_of_live hlive)
    obtain ⟨-, htracer', hcontext, -⟩ := h.identity hbirth
    rw [Execution.origin_of_parent hparent]
    refine ⟨birth, hbirth, htracer'.symm.trans htracer, ?_, ?_⟩
    · rw [← hcontext]
      rfl
    · rw [← hcontext]
      rfl
  | none =>
    dsimp only
    cases hremote : (e.tracer t).remoteParent with
    | some remote =>
      rw [Execution.origin_of_remote hparent hremote]
      exact ⟨hremote, rfl, rfl⟩
    | none =>
      rw [Execution.origin_of_none hparent hremote]
      exact ⟨hremote, rfl⟩

theorem Execution.sameProcess_origin :
    (e.origin t cx name).1.sameProcess = (e.descent t cx).sameProcess := by
  unfold descent
  cases hparent : e.spanOf? cx t with
  | some parent =>
    rw [origin_of_parent hparent]
    rfl
  | none =>
    dsimp only
    cases hremote : (e.tracer t).remoteParent with
    | some remote =>
      rw [origin_of_remote hparent hremote]
      rfl
    | none =>
      rw [origin_of_none hparent hremote]
      rfl

/-- The record of a new span knows whether its parent is in this process, and no child. -/
theorem Execution.family_birth :
    ∀ r ∈ (e.birth t cx name kind).span.record, r.Family (e.birth t cx name kind).descent 0 := by
  intro r hr
  unfold birth newSpan at hr
  dsimp only at hr
  split at hr
  · cases hr
    exact ⟨sameProcess_origin t cx name, rfl⟩
  · cases hr

end Birth

/-! ### What is recorded -/

/-- No change to a record makes another family of it. -/
theorem SpanRecord.Family.apply {r : SpanRecord} {descent : Descent} {children : Nat}
    (h : r.Family descent children) (limits : SpanLimits) (now : Timestamp) (c : SpanChange) :
    (c.apply limits now r).Family descent children := by
  cases c with
  | «attribute» a =>
    show (r.setAttribute limits a).Family descent children
    unfold SpanRecord.setAttribute
    dsimp only
    split
    · exact h
    · split <;> exact h
  | note text attributes =>
    show (r.addNote limits now text attributes).Family descent children
    unfold SpanRecord.addNote
    split <;> exact h
  | message event =>
    show (r.addMessage limits now event).Family descent children
    unfold SpanRecord.addMessage
    split <;> exact h
  | link link =>
    show (r.addLink limits link).Family descent children
    unfold SpanRecord.addLink
    split <;> exact h
  | status status => exact h
  | name name => exact h
  | failure message => exact h

namespace SpanLog

/-- The children of `s`, as they began. -/
def children (log : SpanLog) (s : SpanRef) : List Birth :=
  log.births.filter (·.descent = .child s)

theorem children_append (log log' : SpanLog) (s : SpanRef) :
    children (log ++ log') s = log.children s ++ log'.children s := by
  rw [children, births_append, List.filter_append]
  rfl

theorem children_of_not_birth {event : SpanEvent} (h : event.birth? = none) (s : SpanRef) :
    children [event] s = [] := by
  simp [children, births, h]

theorem family_recordOn {r : SpanRecord} {descent : Descent} {n : Nat} (h : r.Family descent n)
    (event : SpanEvent) (s : SpanRef) :
    (event.recordOn s r).Family descent (n + (children [event] s).length) := by
  cases event with
  | begins birth =>
    unfold SpanEvent.recordOn
    dsimp only
    split
    next hchild =>
      have hone : children [.begins birth] s = [birth] := by
        simp [children, births, SpanEvent.birth?, hchild]
      rw [hone]
      exact ⟨h.1, congrArg (· + 1) h.2⟩
    next hchild =>
      have hnone : children [.begins birth] s = [] := by
        simp [children, births, SpanEvent.birth?, hchild]
      rw [hnone]
      exact h
  | changes q limits now c =>
    unfold SpanEvent.recordOn
    dsimp only
    split
    · exact h.apply limits now c
    · exact h
  | ends q time => exact h

/-- A record counts the children that began. -/
theorem family_recordAfter (log : SpanLog) (s : SpanRef) {r : SpanRecord} {descent : Descent}
    {n : Nat} (h : r.Family descent n) :
    (log.recordAfter s r).Family descent (n + (log.children s).length) := by
  induction log generalizing r n with
  | nil => exact h
  | cons event rest ih =>
    have hrest := ih (family_recordOn h event s)
    rw [Nat.add_assoc, ← List.length_append, ← children_append] at hrest
    exact hrest

section Genuine

variable {remoteParents : TracerRef → Option SpanContext} {log : SpanLog}

/-- **Every span takes over what its descent says**, from a span that began earlier if that is in this
process, and its record knows where it comes from. -/
theorem Genuine.inherits (h : log.Genuine remoteParents) {i : Nat} {birth : Birth}
    (hbirth : log.births[i]? = some birth) :
    birth.Inherits remoteParents (log.births.take i) ∧
      ∀ r ∈ birth.span.record, r.Family birth.descent 0 := by
  induction h with
  | nil => cases hbirth
  | @begins log e h hnow hremote t cx name kind ih =>
    have hlast : births [.begins (e.birth t cx name kind)] = [e.birth t cx name kind] := rfl
    rw [births_append, hlast] at hbirth ⊢
    rcases Nat.lt_trichotomy i log.births.length with hlt | rfl | hgt
    · rw [List.getElem?_append_left hlt] at hbirth
      rw [List.take_append_of_le_length (Nat.le_of_lt hlt)]
      exact ih hbirth
    · rw [List.getElem?_concat_length] at hbirth
      cases hbirth
      rw [List.take_left, ← hremote]
      exact ⟨hnow.inherits_birth t cx name kind, Execution.family_birth t cx name kind⟩
    · rw [List.getElem?_eq_none (by simp; omega)] at hbirth
      cases hbirth
  | @other log h event hother ih =>
    have hnone : births [event] = [] := by simp [births, hother]
    rw [births_append, hnone, List.append_nil] at hbirth ⊢
    exact ih hbirth

/-- **No child begins after the end of its parent.** -/
theorem Genuine.children_untilEnd (h : log.Genuine remoteParents) (s : SpanRef) :
    (log.untilEnd s).children s = log.children s := by
  induction h with
  | nil => rfl
  | @begins log e h hnow hremote t cx name kind ih =>
    cases hended : log.hasEnded s with
    | true =>
      -- A span that has ended is not adopted as a parent.
      have hother : (e.birth t cx name kind).descent ≠ .child s := by
        intro hchild
        obtain ⟨-, hlive⟩ := Execution.of_spanOf? (Execution.descent_eq_child_iff.1 hchild)
        obtain ⟨birth, -, hspan⟩ := hnow.span_of_lt (Execution.lt_size_of_live hlive)
        rw [Execution.live, hspan, hended] at hlive
        cases hlive
      have hnone : children [.begins (e.birth t cx name kind)] s = [] := by
        simp [children, births, SpanEvent.birth?, hother]
      rw [untilEnd_append _ hended, ih, children_append, hnone, List.append_nil]
    | false =>
      rw [untilEnd_concat hended]
      rfl
  | @other log h event hother ih =>
    rw [children_append, children_of_not_birth hother, List.append_nil]
    cases hended : log.hasEnded s with
    | true => rw [untilEnd_append _ hended, ih]
    | false =>
      rw [untilEnd_concat hended, children_append]
      split
      · exact List.append_nil _
      · rw [children_of_not_birth hother, List.append_nil]

/-- What is handed over tells the family of the span. -/
theorem Genuine.family_handover? (h : log.Genuine remoteParents) {s : SpanRef} {t : TracerRef}
    {data : SpanData} (hdata : log.handover? s = some (t, data)) :
    ∃ birth, log.births[s.index]? = some birth ∧
      data.record.Family birth.descent (log.children s).length := by
  obtain ⟨birth, record, time, hbirth, hrecord, -, -, rfl⟩ := handover?_eq_some_iff.1 hdata
  refine ⟨birth, hbirth, ?_⟩
  have hfamily := family_recordAfter (log.untilEnd s) s ((h.inherits hbirth).2 record hrecord)
  rwa [Nat.zero_add, h.children_untilEnd] at hfamily

end Genuine

end SpanLog

/-! ### Ancestors -/

/-- The span `q` is the parent of `s` in this process. -/
def SpanLog.HasParent (log : SpanLog) (s q : SpanRef) : Prop :=
  ∃ birth, log.births[s.index]? = some birth ∧ birth.descent = .child q

/-- The spans `q` and `s` are of one tracer and carry the same, apart from their own identifiers. -/
def Execution.SameTrace (e : Execution) (q s : SpanRef) : Prop :=
  (e.span q).tracer = (e.span s).tracer ∧
    (e.span s).context = { (e.span q).context with spanId := (e.span s).context.spanId }

theorem Execution.SameTrace.trans {e : Execution} {q r s : SpanRef} (h : e.SameTrace q r)
    (h' : e.SameTrace r s) : e.SameTrace q s :=
  ⟨h.1.trans h'.1, by rw [h'.2, h.2]⟩

namespace Chronicle

variable {remoteParents : TracerRef → Option SpanContext} {log : SpanLog} {e : Execution}

/-- A parent began earlier and is in the same trace. -/
theorem of_hasParent (h : Chronicle remoteParents log e) {s q : SpanRef}
    (hparent : log.HasParent s q) : q.index < s.index ∧ e.SameTrace q s := by
  obtain ⟨birth, hbirth, hdescent⟩ := hparent
  obtain ⟨hinherits, -⟩ := h.genuine.inherits hbirth
  rw [Birth.Inherits, hdescent] at hinherits
  obtain ⟨parent, hearlier, htracer, hcontext, -⟩ := hinherits
  rw [List.getElem?_take] at hearlier
  split at hearlier
  next hlt =>
    obtain ⟨-, htracer', hcontext', -⟩ := h.identity hearlier
    obtain ⟨-, htracer'', hcontext'', -⟩ := h.identity hbirth
    refine ⟨hlt, ?_, ?_⟩
    · rw [htracer', htracer'', htracer]
    · rw [hcontext', hcontext'']
      exact hcontext
  next => cases hearlier

/-- So did all ancestors, and they are too. -/
theorem of_ancestor (h : Chronicle remoteParents log e) {s q : SpanRef}
    (hancestor : Relation.TransGen log.HasParent s q) : q.index < s.index ∧ e.SameTrace q s := by
  induction hancestor with
  | single hparent => exact h.of_hasParent hparent
  | tail _ hparent ih =>
    obtain ⟨hlt, hsame⟩ := h.of_hasParent hparent
    exact ⟨Nat.lt_trans hlt ih.1, hsame.trans ih.2⟩

/-- Every span has an ancestor without a parent in this process, or is one. -/
theorem exists_ancestor (h : Chronicle remoteParents log e) (s : SpanRef)
    (hs : s.index < e.spans.size) :
    ∃ q, Relation.ReflTransGen log.HasParent s q ∧ q.index < e.spans.size ∧
      ∀ r, ¬log.HasParent q r := by
  by_cases hparent : ∃ p, log.HasParent s p
  · obtain ⟨p, hp⟩ := hparent
    have hlt : p.index < s.index := (h.of_hasParent hp).1
    obtain ⟨q, hq, hlast⟩ := exists_ancestor h p (Nat.lt_trans hlt hs)
    exact ⟨q, .head hp hq, hlast⟩
  · exact ⟨s, .refl, hs, fun r hr => hparent ⟨r, hr⟩⟩
termination_by s.index

/-- The record of a span that has not ended tells its family, as it is now. -/
theorem family_span (h : Chronicle remoteParents log e) {s : SpanRef} {record : SpanRecord}
    (hrecord : (e.span s).record = some record) :
    ∃ birth, log.births[s.index]? = some birth ∧
      record.Family birth.descent (log.children s).length := by
  rw [h.span, SpanLog.spanNow] at hrecord
  cases hbirth : log.births[s.index]? with
  | none =>
    rw [hbirth] at hrecord
    cases hrecord
  | some birth =>
    rw [hbirth] at hrecord
    dsimp only at hrecord
    split at hrecord
    · cases hrecord
    · obtain ⟨r, hr, rfl⟩ := Option.map_eq_some_iff.1 hrecord
      have hfamily := SpanLog.family_recordAfter log s ((h.genuine.inherits hbirth).2 r hr)
      rw [Nat.zero_add] at hfamily
      exact ⟨birth, rfl, hfamily⟩

end Chronicle

/-- The spans of an execution are families in the way that their log says. -/
structure Genealogy (remoteParents : TracerRef → Option SpanContext) (log : SpanLog)
    (e : Execution) : Prop where
  /-- The spans are those that began. -/
  size : e.spans.size = log.births.length
  /-- Each is known by what it was known by when it began. -/
  identity : ∀ (s : SpanRef) birth, log.births[s.index]? = some birth →
    (e.span s).tracer = birth.span.tracer ∧ (e.span s).context = birth.span.context ∧
      (e.span s).parent = birth.span.parent
  /-- Each takes over the trace that its descent says. -/
  inherits : ∀ i (birth : Birth), log.births[i]? = some birth →
    birth.Inherits remoteParents (log.births.take i)
  /-- Samplers were asked about those without a parent, and about no others. -/
  asked : e.consulted.toList.map (·.question) = log.questions
  /-- Ancestors in this process began strictly earlier, in the same trace of the same tracer. -/
  earlier : ∀ s q, Relation.TransGen log.HasParent s q → q.index < s.index ∧ e.SameTrace q s
  /-- There is a first one among them. -/
  first : ∀ s : SpanRef, s.index < e.spans.size →
    ∃ q, Relation.ReflTransGen log.HasParent s q ∧ q.index < e.spans.size ∧
      ∀ r, ¬log.HasParent q r
  /-- A record that can be changed knows where the span comes from and how many children it has. -/
  recorded : ∀ (s : SpanRef) record, (e.span s).record = some record →
    ∃ birth, log.births[s.index]? = some birth ∧
      record.Family birth.descent (log.children s).length
  /-- Exporters got what the log has for the first endings. -/
  exported : e.exported.toList = log.firstEndings.filterMap log.handover?
  /-- The records that they got know where the spans come from and how many children they ever have. -/
  handed : ∀ (s : SpanRef) t data, log.handover? s = some (t, data) →
    ∃ birth, log.births[s.index]? = some birth ∧
      data.record.Family birth.descent (log.children s).length

theorem Chronicle.genealogy {remoteParents : TracerRef → Option SpanContext} {log : SpanLog}
    {e : Execution} (h : Chronicle remoteParents log e) : Genealogy remoteParents log e where
  size := h.size
  identity _ _ hbirth := (h.identity hbirth).2
  inherits _ _ hbirth := (h.genuine.inherits hbirth).1
  asked := h.consulted
  earlier _ _ hancestor := h.of_ancestor hancestor
  first := h.exists_ancestor
  recorded _ _ hrecord := h.family_span hrecord
  exported := h.exported
  handed _ _ _ hdata := h.genuine.family_handover? hdata

/-- **Spans form families**, after every run of a process.  A span with a parent in this process takes over
the parent's trace, one with a parent in another process takes over that one's, and the sampler is asked
about the others only.  Following parents leads to strictly earlier spans of the same tracer until there is
none.  A span is handed over with the number of all its children. -/
theorem Process.genealogy_run (tracers : Array Tracer) (clock : Timestamp)
    (actions : List ProcessAction) :
    let begun := Execution.beginning tracers clock
    let p := fresh begun
    Genealogy begun.remoteParents (p.log actions) (p.run actions).execution ∧
      ∀ {ε α : Type} (program : Program ε α),
        p.run (actions ++ program.turns (p.run actions)) = (p.run actions).runProgram program := by
  intro begun p
  have h : Chronicle begun.remoteParents (p.log actions) (p.run actions).execution :=
    chronicle_run tracers clock actions
  refine ⟨h.genealogy, ?_⟩
  intro ε α program
  rw [run_append, run_turns]

end Telemetry
