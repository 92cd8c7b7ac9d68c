import Telemetry.Proofs.Execution.Process

/-!
# Rewinding

When a tracer ends one of its open spans, it goes back to where it was before that span: the newer ones
are abandoned, the newest first, and their contexts go away.  Other tracers have spans open in between, and
contexts of theirs are above, below and among those that go away.  `Thread.endOpen_run` says exactly
what becomes of an execution (`Rewinds`), and that other tracers do not notice.  What becomes of spans and of
the stack (`Unwinds`) depends on the stack alone, whatever contexts are attached.

How spans end one after the other is told by `Ends`, which is to what is recorded and handed over what
`Releases` is to stacks.
-/

namespace Telemetry

namespace OpenSpan

/-- The open spans of the same tracer among `entries`. -/
def siblings (entry : OpenSpan) (entries : List OpenSpan) : List OpenSpan :=
  entries.filter (·.tracer == entry.tracer)

/-- The open spans of other tracers among `entries`. -/
def others (entry : OpenSpan) (entries : List OpenSpan) : List OpenSpan :=
  entries.filter (·.tracer != entry.tracer)

variable (entry : OpenSpan)

theorem siblings_append (entries entries' : List OpenSpan) :
    entry.siblings (entries ++ entries') = entry.siblings entries ++ entry.siblings entries' :=
  List.filter_append _ _

theorem others_append (entries entries' : List OpenSpan) :
    entry.others (entries ++ entries') = entry.others entries ++ entry.others entries' :=
  List.filter_append _ _

theorem siblings_others (entries : List OpenSpan) :
    entry.siblings (entry.others entries) = [] := by
  simp [siblings, others, List.filter_filter]

theorem others_others (entries : List OpenSpan) :
    entry.others (entry.others entries) = entry.others entries := by
  simp [others, List.filter_filter]

theorem others_cons_self (entries : List OpenSpan) :
    entry.others (entry :: entries) = entry.others entries := by
  simp [others]

end OpenSpan

namespace Execution

variable {e e' e'' : Execution}

/-- Nothing is recorded on a span that has ended. -/
def Sealed (e : Execution) : Prop := ∀ s, (e.span s).ended = true → (e.span s).record = none

/-- From `e` to `e'` the spans in `ends` have ended, one after the other and all at the same time, each
after something was done to its record. -/
structure Ends (e e' : Execution) (ends : List (SpanRef × (SpanRecord → SpanRecord))) : Prop where
  span : ∀ q, e'.span q = if q ∈ ends.map (·.1) then (e.span q).closed else e.span q
  exported : e'.exported.toList =
    e.exported.toList ++ ends.filterMap fun x => e.handover? x.1 x.2 e.clock
  clock : e'.clock = e.clock
  diagnostics : e'.diagnostics = e.diagnostics

theorem Ends.refl (e : Execution) : Ends e e [] :=
  ⟨fun _ => rfl, (List.append_nil _).symm, rfl, rfl⟩

/-- Spans end one after the other, if none of them ends twice. -/
theorem Ends.trans {l₁ l₂ : List (SpanRef × (SpanRecord → SpanRecord))} (h₁ : Ends e e' l₁)
    (h₂ : Ends e' e'' l₂) (hdisjoint : ∀ x ∈ l₂, x.1 ∉ l₁.map (·.1)) :
    Ends e e'' (l₁ ++ l₂) where
  span q := by
    rw [h₂.span, h₁.span, List.map_append]
    by_cases hq₁ : q ∈ l₁.map (·.1) <;> by_cases hq₂ : q ∈ l₂.map (·.1) <;> simp [hq₁, hq₂]
  exported := by
    have hsame : ∀ x ∈ l₂, e'.handover? x.1 x.2 e'.clock = e.handover? x.1 x.2 e.clock := by
      intro x hx
      rw [handover?, handover?, h₁.span, if_neg (hdisjoint x hx), h₁.clock]
    rw [h₂.exported, h₁.exported, List.filterMap_append, List.filterMap_congr hsame,
      List.append_assoc]
  clock := h₂.clock.trans h₁.clock
  diagnostics := h₂.diagnostics.trans h₁.diagnostics

/-- What ended can be read off any execution with the same spans and time. -/
theorem Ends.of_same {e₀ : Execution} {ends : List (SpanRef × (SpanRecord → SpanRecord))}
    (h : Ends e e' ends) (hspans : e.spans = e₀.spans) (hexported : e.exported = e₀.exported)
    (hclock : e.clock = e₀.clock) :
    (∀ q, e'.span q = if q ∈ ends.map (·.1) then (e₀.span q).closed else e₀.span q) ∧
      e'.exported.toList =
        e₀.exported.toList ++ ends.filterMap fun x => e₀.handover? x.1 x.2 e₀.clock := by
  have hspan : e.span = e₀.span := by
    funext q
    rw [Execution.span, Execution.span, hspans]
  constructor
  · intro q
    rw [h.span, hspan]
  · rw [h.exported, hexported, hclock]
    unfold handover?
    rw [hspan]

theorem Ends.isSealed {ends : List (SpanRef × (SpanRecord → SpanRecord))} (h : Ends e e' ends)
    (hsealed : e.Sealed) : e'.Sealed := by
  intro s
  rw [h.span]
  split
  · unfold Span.closed
    split
    · exact hsealed s
    · exact fun _ => rfl
  · exact hsealed s

theorem ends_endSpan (e : Execution) (s : SpanRef) : Ends e (e.endSpan s) [(s, id)] where
  span q := by
    rw [endSpan, span_endAt]
    by_cases hq : s = q
    · simp [hq]
    · simp [hq, Ne.symm hq]
  exported := by
    rw [endSpan, exported_endAt]
    cases hdata : e.handover? s id e.clock <;> simp [hdata]
  clock := by rw [endSpan, endAt_frame]
  diagnostics := by rw [endSpan, endAt_frame]

/-- What is held can be detached, and no span ends. -/
theorem ends_detach {cx : Context} (hground : e.contexts.Grounded cx) {position : Option Nat}
    (hheld : ∀ p ∈ position, e.Holds p) : Ends e (e.detach position) [] := by
  cases position with
  | none => exact .refl e
  | some p =>
    obtain ⟨h0, cx', hmem⟩ := hheld p rfl
    obtain ⟨contexts, hdetach, -⟩ := AttachStack.held_detach? hground hmem h0
    rw [detach_of_some hdetach]
    exact ⟨fun _ => rfl, (List.append_nil _).symm, rfl, rfl⟩

/-- A reference to no span reads as one to a span on which nothing is recorded. -/
theorem span_modifyRecord (e : Execution) (s : SpanRef) (f : SpanRecord → SpanRecord) (q : SpanRef) :
    (e.modifyRecord s f).span q =
      if s = q then { e.span q with record := (e.span q).record.map f } else e.span q := by
  rw [modifyRecord, span_modifySpan]
  by_cases hq : q.index < e.spans.size
  · simp [hq]
  · have habsent : e.span q = .absent := by simp [span, hq]
    simp [hq, habsent, Span.absent]

/-- A span ends after its record was changed. -/
theorem ends_modifyRecord (hsealed : e.Sealed) (s : SpanRef) (f : SpanRecord → SpanRecord) :
    Ends e ((e.modifyRecord s f).endSpan s) [(s, f)] := by
  have hend := (e.modifyRecord s f).ends_endSpan s
  have hspan : (e.modifyRecord s f).span s =
      { e.span s with record := (e.span s).record.map f } := by
    rw [span_modifyRecord, if_pos rfl]
  constructor
  · intro q
    rw [hend.span, List.map_singleton, List.map_singleton]
    by_cases hq : q = s
    · subst hq
      rw [if_pos (List.mem_singleton_self q), if_pos (List.mem_singleton_self q), hspan]
      unfold Span.closed
      dsimp only
      split
      next hended =>
        -- On a span that has ended there was nothing to change.
        rw [hsealed q hended, Option.map_none, ← hsealed q hended]
      next => rfl
    · have hnot : q ∉ [s] := by simpa using hq
      rw [if_neg hnot, if_neg hnot, span_modifyRecord, if_neg (Ne.symm hq)]
  · have hdata : (e.modifyRecord s f).handover? s id (e.modifyRecord s f).clock =
        e.handover? s f e.clock := by
      rw [handover?, handover?, hspan]
      dsimp only
      split
      · rfl
      · rw [Option.map_map]
        rfl
    rw [hend.exported, List.filterMap_cons, List.filterMap_cons, hdata]
    rfl
  · exact hend.clock
  · exact hend.diagnostics

/-- The positions of `entries` are held, one each. -/
structure HeldBy (e : Execution) (entries : List OpenSpan) : Prop where
  grounded : e.contexts.Grounded .empty
  nodup : (entries.filterMap (·.position)).Nodup
  holds : ∀ p ∈ entries.filterMap (·.position), e.Holds p

section HeldBy

variable {entry : OpenSpan} {rest : List OpenSpan}

theorem HeldBy.of_cons (h : e.HeldBy (entry :: rest)) : ∀ p ∈ entry.position, e.Holds p :=
  fun p hp => h.holds p (List.mem_filterMap.2 ⟨entry, List.mem_cons_self, hp⟩)

/-- The other positions are still held when a span was abandoned. -/
theorem HeldBy.abandon (h : e.HeldBy (entry :: rest)) : (e.abandon entry).HeldBy rest := by
  have habandon := releases_abandon h.grounded h.of_cons
  have hsplit : (entry :: rest).filterMap (·.position) =
      entry.position.toList ++ rest.filterMap (·.position) := by
    cases hp : entry.position <;> simp [hp]
  have hnodup := h.nodup
  rw [hsplit] at hnodup
  obtain ⟨-, hrest, hdisjoint⟩ := List.nodup_append.1 hnodup
  constructor
  · exact habandon.grounded (fun h0 => (h.of_cons 0 (Option.mem_toList.1 h0)).1 rfl) h.grounded
  · exact hrest
  · intro p hp
    refine habandon.holds (fun hp' => hdisjoint p hp' p hp rfl) (h.holds p ?_)
    rw [hsplit]
    exact List.mem_append_right _ hp

/-- An open span is abandoned. -/
theorem ends_abandon (hsealed : e.Sealed) (hheld : e.HeldBy (entry :: rest)) :
    Ends e (e.abandon entry) [(entry.span, (·.setStatus abandonedStatus))] := by
  have hdetach := ends_detach hheld.grounded hheld.of_cons
  exact hdetach.trans (ends_modifyRecord (hdetach.isSealed hsealed) entry.span _)
    fun _ _ hx => nomatch hx

/-- Open spans are abandoned one after the other. -/
theorem ends_foldl_abandon (hsealed : e.Sealed) {entries : List OpenSpan}
    (hheld : e.HeldBy (entries ++ rest)) (hdistinct : (entries.map (·.span)).Nodup) :
    Ends e (entries.foldl abandon e)
        (entries.map fun o => (o.span, (·.setStatus abandonedStatus))) ∧
      (entries.foldl abandon e).HeldBy rest := by
  induction entries generalizing e with
  | nil => exact ⟨.refl e, hheld⟩
  | cons entry others ih =>
    obtain ⟨hnot, hdistinct⟩ := List.nodup_cons.1 hdistinct
    have hend := ends_abandon hsealed hheld
    obtain ⟨hothers, hrest⟩ := ih (hend.isSealed hsealed) hheld.abandon hdistinct
    refine ⟨hend.trans hothers ?_, hrest⟩
    intro x hx hx'
    obtain ⟨o, ho, rfl⟩ := List.mem_map.1 hx
    rw [List.map_singleton, List.mem_singleton] at hx'
    exact hnot (List.mem_map.2 ⟨o, ho, hx'⟩)

/-- The same, with one more span that ends as it is. -/
theorem ends_close (hsealed : e.Sealed) {abandoned : List OpenSpan}
    (hheld : e.HeldBy (abandoned ++ [entry]))
    (hdistinct : ((abandoned ++ [entry]).map (·.span)).Nodup) :
    Ends e (((abandoned.foldl abandon e).detach entry.position).endSpan entry.span)
      ((abandoned.map fun o => (o.span, (·.setStatus abandonedStatus))) ++ [(entry.span, id)]) := by
  rw [List.map_append] at hdistinct
  obtain ⟨hspans, -, hdisjoint⟩ := List.nodup_append.1 hdistinct
  obtain ⟨habandoned, hentry⟩ := ends_foldl_abandon hsealed hheld hspans
  have hdetach := ends_detach hentry.grounded hentry.of_cons
  have hend := hdetach.trans (ends_endSpan _ entry.span) fun _ _ hx => nomatch hx
  refine habandoned.trans hend ?_
  intro x hx hx'
  rw [List.mem_singleton.1 hx, List.map_map] at hx'
  exact hdisjoint _ hx' _ (List.mem_singleton_self _) rfl

end HeldBy

/-- From `e` to `e'` the open span `entry` was ended by its tracer, with `newer` above it and `older` below
it on the stack. -/
structure Unwinds (e e' : Execution) (newer : List OpenSpan) (entry : OpenSpan)
    (older : List OpenSpan) : Prop where
  /-- The newer open spans of the tracer and the span itself leave the stack. -/
  openSpans : e'.openSpans = entry.others newer ++ older
  /-- What the tracer has open is what it had open below the span. -/
  own : entry.siblings e'.openSpans = entry.siblings older
  /-- What other tracers have open stays, in the same order. -/
  others : entry.others e'.openSpans = entry.others e.openSpans
  /-- Those that leave the stack have ended, and nothing else has happened to spans. -/
  span : ∀ q, e'.span q =
    if q ∈ (entry.siblings newer ++ [entry]).map (·.span) then (e.span q).closed else e.span q
  /-- The spans of other tracers are as they were, with all that is recorded on them. -/
  foreign : ∀ q, (e.span q).tracer ≠ entry.tracer → e'.span q = e.span q
  /-- Those that had not ended before and are recorded are handed over, the newer ones first and as
  abandoned, the span last and as it is. -/
  exported : e'.exported.toList = e.exported.toList ++
    ((entry.siblings newer).filterMap fun o =>
      e.handover? o.span (·.setStatus abandonedStatus) e.clock) ++
    (e.handover? entry.span id e.clock).toList
  /-- The newest is the first. -/
  newestFirst : (entry.siblings newer ++ [entry]).Pairwise fun a b => b.span.index < a.span.index
  /-- If there are newer ones, their number is reported. -/
  diagnostics : e'.diagnostics.toList = e.diagnostics.toList ++
    if entry.siblings newer = [] then []
    else [.outOfOrderEnd (e.span entry.span).context.spanId (entry.siblings newer).length]
  /-- The contexts of those that leave the stack are detached, and no others. -/
  held : e'.contexts.held = e.contexts.held.filter
    (·.1 ∉ (entry.siblings newer ++ [entry]).filterMap (·.position))

/-- The same, where open spans and contexts agree. -/
structure Rewinds (e e' : Execution) (newer : List OpenSpan) (entry : OpenSpan)
    (older : List OpenSpan) : Prop extends Unwinds e e' newer entry older where
  /-- Other tracers have the current spans that they had. -/
  current : ∀ t, t ≠ entry.tracer → e'.currentSpan? t = e.currentSpan? t

/-- From `e` to `e'` the span `s` has ended, if it had not before, and nothing else has happened. -/
structure OnlyEnds (e e' : Execution) (s : SpanRef) : Prop where
  span : ∀ q, e'.span q = if q = s then (e.span q).closed else e.span q
  exported : e'.exported.toList = e.exported.toList ++ (e.handover? s id e.clock).toList
  frame : e' = { e with spans := e'.spans, exported := e'.exported }

theorem onlyEnds_endSpan (e : Execution) (s : SpanRef) : e.OnlyEnds (e.endSpan s) s where
  span q := by
    rw [endSpan, span_endAt]
    exact if_congr eq_comm rfl rfl
  exported := exported_endAt e s e.clock
  frame := endAt_frame e s e.clock

/-- In an execution that is as a log has it, nothing is recorded on spans that have ended. -/
theorem isSealed_of_reflects {log : SpanLog} (h : Reflects log e) : e.Sealed := by
  intro s
  rw [h.span, SpanLog.spanNow]
  cases log.births[s.index]? with
  | none => exact fun _ => rfl
  | some birth => exact fun hended => if_pos hended

end Execution

namespace Thread

variable {s : Thread}

/-- Open spans hold their positions. -/
theorem Owns.heldBy (h : s.Owns) {entries : List OpenSpan}
    (hsub : entries.Sublist s.execution.openSpans) : s.execution.HeldBy entries where
  grounded := h.grounded
  nodup := (List.nodup_append.1 h.nodup).1.sublist (hsub.filterMap _)
  holds p hp := h.holds p (List.mem_append_left _ ((hsub.filterMap _).subset hp))

section Rewind

variable {newer older : List OpenSpan} {entry : OpenSpan}

/-- Those that leave the stack, in order. -/
theorem sublist_closing (hopen : s.execution.openSpans = newer ++ entry :: older) :
    (entry.siblings newer ++ [entry]).Sublist s.execution.openSpans := by
  rw [hopen]
  exact List.filter_sublist.append (List.singleton_sublist.2 List.mem_cons_self)

/-- If there are newer open spans, their number is reported. -/
theorem diagnostics_rewound (e : Execution) (span : SpanRef) (abandoned kept : List OpenSpan) :
    (rewound e span abandoned kept).diagnostics.toList = e.diagnostics.toList ++
      if abandoned = [] then []
      else [.outOfOrderEnd (e.span span).context.spanId abandoned.length] := by
  unfold rewound
  dsimp only
  cases abandoned with
  | nil => simp
  | cons o rest => simp [Execution.report, Execution.span]

/-- The newer open spans of the tracer end, then the span does. -/
theorem ends_endOpen (h : s.Owns) (hsealed : s.execution.Sealed)
    (hopen : s.execution.openSpans = newer ++ entry :: older)
    (hnewer : ∀ o ∈ newer, ¬(o.tracer = entry.tracer ∧ o.span = entry.span))
    (hdistinct : ((entry.siblings newer ++ [entry]).map (·.span)).Nodup) :
    let before := rewound s.execution entry.span (entry.siblings newer) (entry.others newer ++ older)
    let e' := s.execution.endOpen entry.tracer entry.span
    e'.openSpans = entry.others newer ++ older ∧ before.Ends e'
      (((entry.siblings newer).map fun o => (o.span, (·.setStatus Execution.abandonedStatus))) ++
        [(entry.span, id)]) := by
  intro before e'
  have hshape := sameShape_rewound s.execution entry.span (entry.siblings newer)
    (entry.others newer ++ older)
  obtain ⟨hspans, -, -⟩ := Execution.rewound_shared s.execution entry.span (entry.siblings newer)
    (entry.others newer ++ older)
  have hheld : before.HeldBy (entry.siblings newer ++ [entry]) := by
    have hheld := h.heldBy (sublist_closing hopen)
    constructor
    · rw [hshape.contexts]
      exact hheld.grounded
    · exact hheld.nodup
    · intro p hp
      rw [Execution.Holds, hshape.contexts]
      exact hheld.holds p hp
  have hsealed' : before.Sealed := by
    intro q
    rw [Execution.span, hspans]
    exact hsealed q
  have hend : e' = (((entry.siblings newer).foldl Execution.abandon before).detach
      entry.position).endSpan entry.span := endOpen_of_open hopen hnewer
  rw [hend]
  have hreleases := Execution.releases_close hheld.grounded hheld.nodup hheld.holds
  exact ⟨hreleases.openSpans.trans hshape.openSpans,
    Execution.ends_close hsealed' hheld hdistinct⟩

/-- A tracer whose open spans stay and are not touched has the current span that it had. -/
theorem Aligned.currentSpan?_endOpen (h : s.Aligned) (ha : s.Attached) {t : TracerRef}
    (ht : t ≠ entry.tracer)
    (hothers : entry.others (s.execution.endOpen entry.tracer entry.span).openSpans =
      entry.others s.execution.openSpans)
    (hforeign : ∀ q, (s.execution.span q).tracer ≠ entry.tracer →
      (s.execution.endOpen entry.tracer entry.span).span q = s.execution.span q) :
    (s.execution.endOpen entry.tracer entry.span).currentSpan? t = s.execution.currentSpan? t := by
  have hmove := h.toOwns.move (.endOpen entry.tracer entry.span)
  have hafter : Aligned ⟨s.execution.endOpen entry.tracer entry.span, s.guards⟩ := h.move hmove
  have hattached : Attached ⟨s.execution.endOpen entry.tracer entry.span, s.guards⟩ :=
    ha.move hmove rfl
  -- The spans of `t` are among those of other tracers than that of `entry`.
  have hsplit : ∀ e : Execution, e.openSpans.find? (fun o => o.tracer == t && e.live o.span) =
      (entry.others e.openSpans).find? fun o => o.tracer == t && e.live o.span := by
    intro e
    rw [OpenSpan.others, List.find?_filter]
    refine List.find?_congr fun o _ => ?_
    by_cases ho : o.tracer = t
    · simp [ho, ht]
    · simp [ho]
  rw [hafter.currentSpan?_eq hattached, h.currentSpan?_eq ha, hsplit, hsplit, hothers]
  congr 1
  refine List.find?_congr fun o ho => ?_
  obtain ⟨ho, hne⟩ := List.mem_filter.1 ho
  have hne : (s.execution.span o.span).tracer ≠ entry.tracer := by
    rw [(h.own o ho).1]
    simpa using hne
  rw [Execution.live, Execution.live, hforeign o.span hne]

/-- **An open span is ended by its tracer**, whatever contexts are attached. -/
theorem Stacked.unwinds (h : s.Stacked) (hsealed : s.execution.Sealed)
    (hopen : s.execution.openSpans = newer ++ entry :: older) :
    s.execution.Unwinds (s.execution.endOpen entry.tracer entry.span) newer entry older := by
  have hclosing := sublist_closing hopen
  have hnewest := h.order.sublist hclosing
  -- Spans on the stack are all different, since each is newer than those below it.
  have hnewer : ∀ o ∈ newer, ¬(o.tracer = entry.tracer ∧ o.span = entry.span) := by
    have horder := h.order
    rw [hopen] at horder
    rintro o ho ⟨-, hspan⟩
    have hlt := (List.pairwise_append.1 horder).2.2 o ho entry List.mem_cons_self
    rw [hspan] at hlt
    exact Nat.lt_irrefl _ hlt
  have hdistinct : ((entry.siblings newer ++ [entry]).map (·.span)).Nodup := by
    refine List.pairwise_map.2 (hnewest.imp ?_)
    intro a b hlt heq
    rw [heq] at hlt
    exact Nat.lt_irrefl _ hlt
  obtain ⟨hopen', hends⟩ := ends_endOpen h.toOwns hsealed hopen hnewer hdistinct
  obtain ⟨hspans, hexported, hclock⟩ := Execution.rewound_shared s.execution entry.span
    (entry.siblings newer) (entry.others newer ++ older)
  obtain ⟨hspan, hhanded⟩ := hends.of_same hspans hexported hclock
  rw [List.map_append, List.map_map] at hspan
  have hforeign : ∀ q, (s.execution.span q).tracer ≠ entry.tracer →
      (s.execution.endOpen entry.tracer entry.span).span q = s.execution.span q := by
    intro q hne
    rw [hspan, if_neg]
    intro hmem
    obtain ⟨o, ho, rfl⟩ : ∃ o ∈ entry.siblings newer ++ [entry], o.span = q := by
      rw [← List.mem_map, List.map_append]
      exact hmem
    refine hne ((h.own o (hclosing.subset ho)).1.trans ?_)
    rcases List.mem_append.1 ho with ho | ho
    · simpa using (List.mem_filter.1 ho).2
    · rw [List.mem_singleton.1 ho]
  have hothers : entry.others (s.execution.endOpen entry.tracer entry.span).openSpans =
      entry.others s.execution.openSpans := by
    rw [hopen', hopen, OpenSpan.others_append, OpenSpan.others_append, OpenSpan.others_others,
      OpenSpan.others_cons_self]
  constructor
  · exact hopen'
  · rw [hopen', OpenSpan.siblings_append, OpenSpan.siblings_others, List.nil_append]
  · exact hothers
  · intro q
    rw [List.map_append]
    exact hspan q
  · exact hforeign
  · rw [hhanded, List.filterMap_append, List.filterMap_map, List.append_assoc]
    cases hlast : s.execution.handover? entry.span id s.execution.clock <;> simp [hlast]
  · exact hnewest
  · rw [hends.diagnostics, diagnostics_rewound]
  · have hheld := (retreats_endOpen h.toOwns hopen hnewer).releases.held
    rwa [List.filterMap_nil, List.append_nil] at hheld

/-- Where open spans and contexts agree, other tracers do not notice. -/
theorem Aligned.rewinds (h : s.Aligned) (ha : s.Attached) (hsealed : s.execution.Sealed)
    (hopen : s.execution.openSpans = newer ++ entry :: older) :
    s.execution.Rewinds (s.execution.endOpen entry.tracer entry.span) newer entry older := by
  have hunwinds := h.toStacked.unwinds hsealed hopen
  exact ⟨hunwinds, fun t ht =>
    h.currentSpan?_endOpen ha ht hunwinds.others hunwinds.foreign⟩

end Rewind

/-- Nothing is recorded on spans that have ended, after every run. -/
theorem isSealed_run (tracers : Array Tracer) (clock : Timestamp) (actions : List ThreadAction) :
    ((fresh (.beginning tracers clock)).run actions).execution.Sealed := by
  have h : Chronicle _ _ (Process.run _ _).execution :=
    chronicle_run tracers clock (actions.map fun a => .act (.act a))
  rw [Process.run_thread] at h
  exact Execution.isSealed_of_reflects h.toReflects

/-- **A tracer that ends an open span rewinds to where it was before it**, on every thread on which no
context was refused: its newer open spans are abandoned, the newest first, and reported, and other tracers
do not notice.  A span that is not open is ended and nothing else happens. -/
theorem endOpen_run (tracers : Array Tracer) (clock : Timestamp) (actions : List ThreadAction)
    (h : (fresh (.beginning tracers clock)).Unrefused actions) :
    let e := ((fresh (.beginning tracers clock)).run actions).execution
    (∀ newer entry older, e.openSpans = newer ++ entry :: older →
      e.Rewinds (e.endOpen entry.tracer entry.span) newer entry older) ∧
      ∀ t s, (∀ o ∈ e.openSpans, ¬(o.tracer = t ∧ o.span = s)) →
        e.OnlyEnds (e.endOpen t s) s := by
  intro e
  have haligned : ((fresh (.beginning tracers clock)).run actions).Aligned :=
    aligned_run (aligned_fresh _) actions
  have hattached : ((fresh (.beginning tracers clock)).run actions).Attached :=
    attached_run (aligned_fresh _) (fun _ ho => nomatch ho) h
  constructor
  · intro newer entry older hopen
    exact haligned.rewinds hattached (isSealed_run tracers clock actions) hopen
  · intro t s hnot
    rw [endOpen_of_not_open hnot]
    exact e.onlyEnds_endSpan s

/-- Spans of the first tracer are open above one of its own, with spans of the second one and tags in
between; one of them has ended already. -/
def tangled : List ThreadAction :=
  [.start ⟨0⟩ "a" .server, .start ⟨1⟩ "b" .client, .setTags .empty, .start ⟨0⟩ "c" .client,
    .start ⟨1⟩ "d" .client, .start ⟨0⟩ "e" .client, .endSpan ⟨2⟩, .dropTags 0]

/-- What is open then, above the span to end. -/
def tangledNewer : List OpenSpan :=
  [⟨⟨0⟩, ⟨4⟩, some 6⟩, ⟨⟨1⟩, ⟨3⟩, some 5⟩, ⟨⟨0⟩, ⟨2⟩, some 4⟩, ⟨⟨1⟩, ⟨1⟩, some 2⟩]

theorem endOpen_run_tangled :
    (fresh (.beginning twoTracers.tracers default)).Unrefused tangled ∧
      Execution.Rewinds ((fresh (.beginning twoTracers.tracers default)).run tangled).execution
        (Execution.endOpen
          ((fresh (.beginning twoTracers.tracers default)).run tangled).execution ⟨0⟩ ⟨0⟩)
        tangledNewer ⟨⟨0⟩, ⟨0⟩, some 1⟩ [] := by
  have h : (fresh (.beginning twoTracers.tracers default)).Unrefused tangled := by decide +kernel
  have hopen : ((fresh (.beginning twoTracers.tracers default)).run tangled).execution.openSpans =
      tangledNewer ++ ⟨⟨0⟩, ⟨0⟩, some 1⟩ :: [] := by decide +kernel
  obtain ⟨hrewinds, -⟩ := endOpen_run twoTracers.tracers default tangled h
  exact ⟨h, hrewinds tangledNewer ⟨⟨0⟩, ⟨0⟩, some 1⟩ [] hopen⟩

end Thread

end Telemetry
