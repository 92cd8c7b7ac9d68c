import Telemetry.Execution.Spans
import Telemetry.Proofs.Context.Guards

/-!
# What the operations on spans leave as it is

Most of what an operation on spans does is invisible to the stacks of a thread: it records, takes
identifiers, asks samplers, reports.  Four relations between the execution before and after say how much
remains:

* `SameShape` — nothing but such work was done;
* `Begins` — one more span was started, and nothing is attached or open that was not before;
* `Attaches` — one more context was attached;
* `Releases` — contexts were detached and spans ended, and nothing else happened.

Each operation has one lemma that places it in one of them.  `outline` is a span without what is recorded
on it.
-/

namespace Telemetry
namespace Execution

variable {e e' e'' : Execution}

/-- A span without what is recorded on it. -/
def outline (e : Execution) (s : SpanRef) : Span := { e.span s with record := none }

/-- Whether a span has not ended. -/
def live (e : Execution) (s : SpanRef) : Bool := !(e.span s).ended

theorem live_eq_outline (e : Execution) (s : SpanRef) : e.live s = !(e.outline s).ended := rfl

/-- A reference to no span is not live. -/
theorem lt_size_of_live {s : SpanRef} (h : e.live s = true) : s.index < e.spans.size := by
  by_contra hge
  have habsent : e.span s = .absent := by
    rw [span, Array.getD_eq_getD_getElem?, Array.getElem?_eq_none (by omega), Option.getD_none]
  rw [live, habsent] at h
  cases h

theorem span_modifySpan (e : Execution) (s q : SpanRef) (f : Span → Span) :
    (e.modifySpan s f).span q =
      if s = q ∧ q.index < e.spans.size then f (e.span q) else e.span q := by
  have hindex : s = q ↔ s.index = q.index := by
    constructor
    · rintro rfl
      rfl
    · intro h
      cases s
      cases q
      simpa using h
  simp only [span, modifySpan, Array.getD_eq_getD_getElem?, Array.getElem?_modify, hindex]
  by_cases hs : s.index = q.index
  · by_cases hq : q.index < e.spans.size
    · simp [hs, hq]
    · simp [hs, hq]
  · simp [hs]

/-! ### Nothing but recording and reporting -/

/-- The execution `e'` differs from `e` at most in what is recorded, reported, asked and numbered. -/
structure SameShape (e e' : Execution) : Prop where
  contexts : e'.contexts = e.contexts
  openSpans : e'.openSpans = e.openSpans
  size : e'.spans.size = e.spans.size
  outline : ∀ s, e'.outline s = e.outline s

theorem SameShape.refl (e : Execution) : SameShape e e := ⟨rfl, rfl, rfl, fun _ => rfl⟩

theorem SameShape.trans (h : SameShape e e') (h' : SameShape e' e'') : SameShape e e'' :=
  ⟨h'.contexts.trans h.contexts, h'.openSpans.trans h.openSpans, h'.size.trans h.size,
    fun s => (h'.outline s).trans (h.outline s)⟩

theorem sameShape_report (e : Execution) (d : Diagnostic) : SameShape e (e.report d) :=
  ⟨rfl, rfl, rfl, fun _ => rfl⟩

theorem sameShape_modifyRecord (e : Execution) (s : SpanRef) (f : SpanRecord → SpanRecord) :
    SameShape e (e.modifyRecord s f) := by
  refine ⟨rfl, rfl, Array.size_modify, ?_⟩
  intro q
  simp only [Execution.outline, modifyRecord, span_modifySpan]
  split <;> rfl

theorem sameShape_takeSpanId (e : Execution) (t : TracerRef) : SameShape e (e.takeSpanId t).2 :=
  ⟨rfl, rfl, rfl, fun _ => rfl⟩

theorem sameShape_lineage (e : Execution) (t : TracerRef) (cx : Context) (spanId : SpanId)
    (name : String) : SameShape e (e.lineage t cx spanId name).2 := by
  unfold lineage
  split
  · exact sameShape_modifyRecord _ _ _
  · split
    · exact SameShape.refl e
    · exact ⟨rfl, rfl, rfl, fun _ => rfl⟩

/-! ### Starting -/

/-- The execution `e'` is `e` after a span of `t` was started in it and not made current. -/
structure Begins (e e' : Execution) (t : TracerRef) : Prop where
  contexts : e'.contexts = e.contexts
  openSpans : e'.openSpans = e.openSpans
  size : e'.spans.size = e.spans.size + 1
  outline : ∀ s, s.index < e.spans.size → e'.outline s = e.outline s
  tracer : (e'.span ⟨e.spans.size⟩).tracer = t
  live : e'.live ⟨e.spans.size⟩ = true

theorem Begins.live_old {t : TracerRef} (h : Begins e e' t) {s : SpanRef}
    (hs : s.index < e.spans.size) : e'.live s = e.live s := by
  rw [live_eq_outline, live_eq_outline, h.outline s hs]

/-- The lineage of a span that is started in `cx`, and the execution in which it was found. -/
def origin (e : Execution) (t : TracerRef) (cx : Context) (name : String) : Lineage × Execution :=
  (e.takeSpanId t).2.lineage t cx (e.takeSpanId t).1 name

/-- The new span. -/
def newSpan (e : Execution) (t : TracerRef) (cx : Context) (name : String) (kind : SpanKind) :
    Span :=
  let (origin, e) := e.origin t cx name
  ⟨t, origin.context, origin.parent, false,
    if origin.context.isSampled then some (SpanRecord.start name kind e.clock origin.sameProcess)
    else none⟩

theorem sameShape_origin (e : Execution) (t : TracerRef) (cx : Context) (name : String) :
    SameShape e (e.origin t cx name).2 :=
  (sameShape_takeSpanId e t).trans (sameShape_lineage _ _ _ _ _)

theorem startIn_eq (e : Execution) (t : TracerRef) (cx : Context) (name : String)
    (kind : SpanKind) :
    e.startIn t cx name kind =
      (⟨e.spans.size⟩, { (e.origin t cx name).2 with
        spans := (e.origin t cx name).2.spans.push (e.newSpan t cx name kind) }) := by
  rw [← (sameShape_origin e t cx name).size]
  rfl

theorem span_push (e : Execution) (new : Span) (s : SpanRef) :
    span { e with spans := e.spans.push new } s =
      if s.index = e.spans.size then new else e.span s := by
  simp only [span, Array.getD_eq_getD_getElem?, Array.getElem?_push]
  split <;> rfl

/-- The new span is the last one. -/
theorem span_startIn (e : Execution) (t : TracerRef) (cx : Context) (name : String)
    (kind : SpanKind) (s : SpanRef) :
    (e.startIn t cx name kind).2.span s =
      if s.index = e.spans.size then e.newSpan t cx name kind
      else (e.origin t cx name).2.span s := by
  rw [startIn_eq, span_push, (sameShape_origin e t cx name).size]

theorem begins_startIn (e : Execution) (t : TracerRef) (cx : Context) (name : String)
    (kind : SpanKind) : Begins e (e.startIn t cx name kind).2 t := by
  have h := sameShape_origin e t cx name
  constructor
  · rw [startIn_eq]
    exact h.contexts
  · rw [startIn_eq]
    exact h.openSpans
  · rw [startIn_eq]
    exact (Array.size_push _).trans (congrArg (· + 1) h.size)
  · intro s hs
    rw [Execution.outline, span_startIn, if_neg (by omega)]
    exact h.outline s
  · rw [span_startIn, if_pos rfl]
    rfl
  · rw [Execution.live, span_startIn, if_pos rfl]
    rfl

/-! ### Attaching -/

/-- The execution `e'` is `e` after `cx` was attached at `position`, or refused if there is none. -/
structure Attaches (e e' : Execution) (position : Option Nat) (cx : Context) : Prop where
  held : e'.contexts.held = position.toList.map (·, cx) ++ e.contexts.held
  new : ∀ p ∈ position, ∀ x ∈ e.contexts.held, x.1 < p
  openSpans : e'.openSpans = e.openSpans
  size : e'.spans.size = e.spans.size
  outline : ∀ s, e'.outline s = e.outline s

theorem attaches_attach (e : Execution) (cx : Context) :
    Attaches e (e.attach cx).2 (e.attach cx).1 cx := by
  cases hp : (e.attach cx).1 with
  | none =>
    rw [attach_of_none hp]
    exact ⟨rfl, fun p h => (nomatch h), rfl, rfl, fun _ => rfl⟩
  | some p =>
    obtain ⟨hattach, he⟩ := attach_of_some hp
    rw [he]
    refine ⟨AttachStack.held_attach cx hattach, ?_, rfl, rfl, fun _ => rfl⟩
    rintro _ ⟨⟩ x hx
    exact AttachStack.lt_of_attach hattach hx

/-! ### Detaching and ending -/

/-- The execution `e'` is `e` after what is held at `positions` was detached and the spans in `ended` have
ended, if they had not before. -/
structure Releases (e e' : Execution) (positions : List Nat) (ended : List SpanRef) : Prop where
  held : e'.contexts.held = e.contexts.held.filter (·.1 ∉ positions)
  openSpans : e'.openSpans = e.openSpans
  size : e'.spans.size = e.spans.size
  outline : ∀ s, e'.outline s =
    { e.outline s with ended := (e.outline s).ended || decide (s ∈ ended) }

theorem SameShape.releases (h : SameShape e e') : Releases e e' [] [] where
  held := by simp [h.contexts]
  openSpans := h.openSpans
  size := h.size
  outline s := by simp [h.outline]

theorem Releases.trans {p₁ p₂ : List Nat} {l₁ l₂ : List SpanRef} (h₁ : Releases e e' p₁ l₁)
    (h₂ : Releases e' e'' p₂ l₂) : Releases e e'' (p₁ ++ p₂) (l₁ ++ l₂) where
  held := by
    rw [h₂.held, h₁.held, List.filter_filter]
    congr 1
    funext x
    simp [Bool.and_comm]
  openSpans := h₂.openSpans.trans h₁.openSpans
  size := h₂.size.trans h₁.size
  outline s := by simp [h₂.outline, h₁.outline, Bool.or_assoc]

theorem Releases.live {positions : List Nat} {ended : List SpanRef}
    (h : Releases e e' positions ended) (s : SpanRef) :
    e'.live s = (e.live s && decide (s ∉ ended)) := by
  rw [live_eq_outline, live_eq_outline, h.outline]
  simp

theorem Releases.grounded {positions : List Nat} {ended : List SpanRef}
    (h : Releases e e' positions ended) (h0 : 0 ∉ positions) {cx : Context}
    (hground : e.contexts.Grounded cx) : e'.contexts.Grounded cx := by
  rw [AttachStack.Grounded, h.held]
  exact List.mem_filter.2 ⟨hground, decide_eq_true h0⟩

/-- Only the first end of a span counts. -/
theorem releases_endAt (e : Execution) (s : SpanRef) (time : Timestamp) :
    Releases e (e.endAt s time) [] [s] := by
  unfold endAt
  dsimp only
  split
  next hended =>
    -- It had ended before, so nothing changes and nothing needs to.
    refine ⟨by simp, rfl, rfl, ?_⟩
    intro q
    by_cases hq : q = s
    · subst hq
      simp [Execution.outline, hended]
    · simp [hq]
  next hended =>
    -- A reference to no span reads as one that has ended, so `s` is in the array.
    have hlt : s.index < e.spans.size := lt_size_of_live (by simpa [Execution.live] using hended)
    have hmod : Releases e (e.modifySpan s ({ · with ended := true, record := none })) [] [s] := by
      refine ⟨by simp [modifySpan], rfl, Array.size_modify, ?_⟩
      intro q
      simp only [Execution.outline, span_modifySpan]
      by_cases hq : q = s
      · subst hq
        simp [hlt]
      · simp [hq, Ne.symm hq]
    split
    · exact hmod
    · exact ⟨hmod.held, hmod.openSpans, hmod.size, hmod.outline⟩

theorem releases_endSpan (e : Execution) (s : SpanRef) : Releases e (e.endSpan s) [] [s] :=
  releases_endAt e s e.clock

/-- A context is held at position `p`, and it is not the base context. -/
def Holds (e : Execution) (p : Nat) : Prop := p ≠ 0 ∧ ∃ cx, (p, cx) ∈ e.contexts.held

theorem Releases.holds {positions : List Nat} {ended : List SpanRef}
    (h : Releases e e' positions ended) {p : Nat} (hp : p ∉ positions) (hheld : e.Holds p) :
    e'.Holds p := by
  obtain ⟨h0, cx, hmem⟩ := hheld
  refine ⟨h0, cx, ?_⟩
  rw [h.held]
  exact List.mem_filter.2 ⟨hmem, decide_eq_true hp⟩

theorem releases_detach {position : Option Nat} {cx : Context}
    (hground : e.contexts.Grounded cx) (hheld : ∀ p ∈ position, e.Holds p) :
    Releases e (e.detach position) position.toList [] := by
  cases position with
  | none => exact (SameShape.refl e).releases
  | some p =>
    obtain ⟨h0, cx', hmem⟩ := hheld p rfl
    obtain ⟨contexts, hdetach, hcontexts⟩ := AttachStack.held_detach? hground hmem h0
    rw [detach_of_some hdetach]
    exact ⟨by simpa using hcontexts, rfl, rfl, fun s => by simp [Execution.outline, span]⟩

theorem releases_abandon {entry : OpenSpan} {cx : Context} (hground : e.contexts.Grounded cx)
    (hheld : ∀ p ∈ entry.position, e.Holds p) :
    Releases e (e.abandon entry) entry.position.toList [entry.span] := by
  have hdetach := releases_detach hground hheld
  have hstatus := (sameShape_modifyRecord (e.detach entry.position) entry.span
    (·.setStatus abandonedStatus)).releases
  have hend := releases_endSpan ((e.detach entry.position).setStatus entry.span abandonedStatus)
    entry.span
  have h := (hdetach.trans hstatus).trans hend
  rwa [List.append_nil, List.append_nil, List.append_nil, List.nil_append] at h

/-- The positions that open spans have are released when the spans are abandoned. -/
theorem releases_foldl_abandon {cx : Context} (hground : e.contexts.Grounded cx)
    {entries : List OpenSpan} (hnodup : (entries.filterMap (·.position)).Nodup)
    (hheld : ∀ p ∈ entries.filterMap (·.position), e.Holds p) :
    Releases e (entries.foldl abandon e) (entries.filterMap (·.position))
      (entries.map (·.span)) := by
  induction entries generalizing e with
  | nil => exact (SameShape.refl e).releases
  | cons entry rest ih =>
    have hsplit : (entry :: rest).filterMap (·.position) =
        entry.position.toList ++ rest.filterMap (·.position) := by
      cases hp : entry.position <;> simp [hp]
    rw [hsplit] at hnodup hheld ⊢
    obtain ⟨-, hrest, hdisjoint⟩ := List.nodup_append.1 hnodup
    have habandon := releases_abandon hground fun p hp =>
      hheld p (List.mem_append_left _ (Option.mem_toList.2 hp))
    -- The other positions are still held afterwards, since no two entries share one.
    have hnot : ∀ p ∈ rest.filterMap (·.position), p ∉ entry.position.toList :=
      fun p hp hp' => hdisjoint p hp' p hp rfl
    have hzero : 0 ∉ entry.position.toList := fun h0 =>
      (hheld 0 (List.mem_append_left _ h0)).1 rfl
    have h := ih (habandon.grounded hzero hground) hrest fun p hp =>
      habandon.holds (hnot p hp) (hheld p (List.mem_append_right _ hp))
    exact habandon.trans h

/-- The same, with one more span that ends as it is. -/
theorem releases_close {cx : Context} (hground : e.contexts.Grounded cx)
    {abandoned : List OpenSpan} {entry : OpenSpan}
    (hnodup : ((abandoned ++ [entry]).filterMap (·.position)).Nodup)
    (hheld : ∀ p ∈ (abandoned ++ [entry]).filterMap (·.position), e.Holds p) :
    Releases e (((abandoned.foldl abandon e).detach entry.position).endSpan entry.span)
      ((abandoned ++ [entry]).filterMap (·.position)) ((abandoned ++ [entry]).map (·.span)) := by
  have hentry : [entry].filterMap (·.position) = entry.position.toList := by
    cases hp : entry.position <;> simp [hp]
  rw [List.filterMap_append, hentry] at hnodup hheld ⊢
  obtain ⟨habandoned, -, hdisjoint⟩ := List.nodup_append.1 hnodup
  -- First those that are abandoned are released, then the position of `entry`.
  have hleft := fun p hp => hheld p (List.mem_append_left _ hp)
  have hright := fun p hp => hheld p (List.mem_append_right _ (Option.mem_toList.2 hp))
  have habandon := releases_foldl_abandon hground habandoned hleft
  have hzero : 0 ∉ abandoned.filterMap (·.position) := fun h0 => (hleft 0 h0).1 rfl
  have hdetach := releases_detach (habandon.grounded hzero hground) fun p hp =>
    habandon.holds (fun hp' => hdisjoint p hp' p (Option.mem_toList.2 hp) rfl) (hright p hp)
  have h := (habandon.trans hdetach).trans (releases_endSpan _ entry.span)
  rwa [List.append_nil, List.append_nil, ← List.map_singleton, ← List.map_append] at h

end Execution

end Telemetry
