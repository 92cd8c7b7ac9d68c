import Telemetry.Proofs.Execution.Thread

/-!
# Open spans and contexts agree

A thread keeps its open spans twice: as a list, and as the spans in each of the contexts that it holds.
The list loses a span when it is ended through its tracer.  The contexts lose nothing: a span that has
ended stays in every context that was made while it was current, and so do the spans of a context whose
guard was dropped, if another was made from it.

What links the two is `Thread.Aligned`: apart from spans that have ended, a context that is held at
position `p` carries exactly the open spans whose own position is at most `p`, in the same order.  It
holds of a thread on which nothing has happened and is kept by each of the four moves, so it holds after
every run (`aligned_run`), also after one in which contexts were refused.  If none was,
`Aligned.currentSpan?_eq` reads off the current span of a tracer.

The part of it that is about the list alone is `Thread.Stacked`.  It does not depend on what contexts carry,
so it is kept whatever context is attached.
-/

namespace Telemetry

/-- A list from which only elements were taken that are filtered out anyway. -/
theorem filter_eq_of_sublist {α : Type u} {p : α → Bool} {l l' removed : List α}
    (hsub : l'.Sublist l) (hperm : l.Perm (removed ++ l')) (h : ∀ a ∈ removed, p a = false) :
    l'.filter p = l.filter p := by
  refine (hsub.filter p).eq_of_length ?_
  have hnone : removed.filter p = [] := List.filter_eq_nil_iff.2 fun a ha => by simp [h a ha]
  rw [(hperm.filter p).length_eq, List.filter_append, hnone, List.nil_append]

namespace Execution

/-- The open spans that were opened at position `p` or below, the newest first. -/
def openUpTo (e : Execution) (p : Nat) : List SpanRef :=
  (e.openSpans.filter fun o => o.position.any (· ≤ p)).map (·.span)

end Execution

namespace Thread

variable {s s' : Thread}

/-! ### Owners of positions -/

theorem Owns.begins (h : s.Owns) {e : Execution} {t : TracerRef}
    (hb : Execution.Begins s.execution e t) : Owns ⟨e, s.guards⟩ := by
  have hpositions : positions ⟨e, s.guards⟩ = s.positions := by
    rw [positions, hb.openSpans]
    rfl
  constructor
  · show e.contexts.Grounded .empty
    rw [hb.contexts]
    exact h.grounded
  · rw [hpositions]
    exact h.nodup
  · intro p hp
    rw [hpositions] at hp
    show p ≠ 0 ∧ ∃ cx, (p, cx) ∈ e.contexts.held
    rw [hb.contexts]
    exact h.holds p hp

theorem Owns.attaches (h : s.Owns) {e : Execution} {position : Option Nat} {cx : Context}
    (ha : Execution.Attaches s.execution e position cx)
    (hcontexts : s'.execution.contexts = e.contexts)
    (hperm : s'.positions.Perm (position.toList ++ s.positions)) : s'.Owns := by
  have hheld : s'.execution.contexts.held =
      position.toList.map (·, cx) ++ s.execution.contexts.held := by rw [hcontexts, ha.held]
  -- What is held already has a smaller position.
  have hnew : ∀ p ∈ position.toList, p ∉ s.positions := by
    intro p hp hp'
    obtain ⟨-, cx', hmem⟩ := h.holds p hp'
    exact Nat.lt_irrefl _ (ha.new p (Option.mem_toList.1 hp) _ hmem)
  constructor
  · rw [AttachStack.Grounded, hheld]
    exact List.mem_append_right _ h.grounded
  · refine hperm.nodup_iff.2 (List.nodup_append.2 ⟨?_, h.nodup, ?_⟩)
    · cases position <;> simp
    · rintro p hp q hq rfl
      exact hnew p hp hq
  · intro p hp
    rw [Execution.Holds, hheld]
    rcases List.mem_append.1 (hperm.subset hp) with hp | hp
    · have hpos : 0 < p := ha.new p (Option.mem_toList.1 hp) _ h.grounded
      exact ⟨by omega, cx, List.mem_append_left _ (List.mem_map_of_mem hp)⟩
    · obtain ⟨h0, cx', hmem⟩ := h.holds p hp
      exact ⟨h0, cx', List.mem_append_right _ hmem⟩

/-- The position of a context may be owned by a guard. -/
theorem Owns.guarded (h : s.Owns) {e : Execution} {position : Option Nat} {cx : Context}
    (ha : Execution.Attaches s.execution e position cx) : Owns ⟨e, position :: s.guards⟩ := by
  refine h.attaches ha rfl ?_
  rw [positions, positions, ha.openSpans]
  cases position with
  | none => exact .refl _
  | some p => exact List.perm_middle

section Retreat

variable {removed : List OpenSpan} {dropped : List (Option Nat)} {ended : List SpanRef}

theorem Retreats.positions_perm (hr : Retreats s s' removed dropped ended) :
    s.positions.Perm
      ((removed.filterMap (·.position) ++ dropped.filterMap id) ++ s'.positions) := by
  have hopen := hr.entries.filterMap (·.position)
  have hguards := hr.guards.filterMap id
  rw [List.filterMap_append] at hopen hguards
  refine (hopen.append hguards).trans ?_
  rw [List.append_assoc, List.append_assoc]
  exact (List.perm_append_comm_assoc _ _ _).append_left _

theorem Owns.retreats (h : s.Owns) (hr : Retreats s s' removed dropped ended) : s'.Owns := by
  have hperm := hr.positions_perm
  obtain ⟨-, hnodup, hdisjoint⟩ := List.nodup_append.1 (hperm.nodup_iff.1 h.nodup)
  have hholds : ∀ p ∈ (removed.filterMap (·.position) ++ dropped.filterMap id) ++ s'.positions,
      s.execution.Holds p := by
    intro p hp
    exact h.holds p (hperm.symm.subset hp)
  constructor
  · refine hr.releases.grounded ?_ h.grounded
    intro h0
    exact (hholds 0 (List.mem_append_left _ h0)).1 rfl
  · exact hnodup
  · intro p hp
    refine hr.releases.holds ?_ (hholds p (List.mem_append_right _ hp))
    intro hp'
    exact hdisjoint p hp' p hp rfl

end Retreat

/-- The newest context is held above all open spans. -/
theorem Owns.openUpTo_of_le (h : s.Owns) {p : Nat}
    (hp : s.execution.contexts.below.size ≤ p) :
    s.execution.openUpTo p =
      (s.execution.openSpans.filter (·.position.isSome)).map (·.span) := by
  unfold Execution.openUpTo
  congr 1
  refine List.filter_congr fun o ho => ?_
  cases hq : o.position with
  | none => rfl
  | some q =>
    have hmem : q ∈ s.positions :=
      List.mem_append_left _ (List.mem_filterMap.2 ⟨o, ho, hq⟩)
    obtain ⟨-, cx, hheld⟩ := h.holds q hmem
    have hle := AttachStack.le_size_of_mem_held hheld
    simp only [Option.any_some, Option.isSome_some, decide_eq_true_eq]
    exact Nat.le_trans hle hp

/-! ### The invariants -/

/-- The open spans of a thread are spans of the tracers that they are open for, each started before those
above it. -/
structure Stacked (s : Thread) : Prop extends Owns s where
  own : ∀ o ∈ s.execution.openSpans,
    (s.execution.span o.span).tracer = o.tracer ∧ o.span.index < s.execution.spans.size
  order : s.execution.openSpans.Pairwise fun a b => b.span.index < a.span.index

/-- The open spans of a thread and the contexts that it holds agree. -/
structure Aligned (s : Thread) : Prop extends Stacked s where
  known : ∀ x ∈ s.execution.contexts.held, ∀ span ∈ x.2.spans,
    span.index < s.execution.spans.size
  woven : ∀ x ∈ s.execution.contexts.held,
    x.2.spans.filter s.execution.live = (s.execution.openUpTo x.1).filter s.execution.live

theorem stacked_fresh (e : Execution) : (fresh e).Stacked where
  toOwns := owns_fresh e
  own _ ho := nomatch ho
  order := .nil

theorem aligned_fresh (e : Execution) : (fresh e).Aligned where
  toStacked := stacked_fresh e
  known x hx := by
    rw [List.mem_singleton.1 hx]
    exact fun _ h => nomatch h
  woven x hx := by
    rw [List.mem_singleton.1 hx]
    rfl

theorem mem_held_current (s : Thread) :
    (s.execution.contexts.below.size, s.execution.currentContext) ∈ s.execution.contexts.held := by
  rw [AttachStack.held_eq_cons]
  exact List.mem_cons_self

/-- Apart from spans that have ended, the current context carries the open spans that have a position. -/
theorem Aligned.filter_current (h : s.Aligned) :
    s.execution.currentContext.spans.filter s.execution.live =
      ((s.execution.openSpans.filter (·.position.isSome)).map (·.span)).filter
        s.execution.live := by
  rw [h.woven _ s.mem_held_current, h.toOwns.openUpTo_of_le (Nat.le_refl _)]

/-! ### Every move keeps the stack in order -/

theorem Stacked.begins (h : s.Stacked) {e : Execution} {t : TracerRef}
    (hb : Execution.Begins s.execution e t) : Stacked ⟨e, s.guards⟩ where
  toOwns := h.toOwns.begins hb
  own o ho := by
    have ho : o ∈ s.execution.openSpans := hb.openSpans ▸ ho
    obtain ⟨htracer, hlt⟩ := h.own o ho
    have hsame := congrArg Span.tracer (hb.outline o.span hlt)
    refine ⟨hsame.trans htracer, ?_⟩
    show o.span.index < e.spans.size
    rw [hb.size]
    omega
  order := by
    show e.openSpans.Pairwise _
    rw [hb.openSpans]
    exact h.order

/-- A context is attached, whatever it carries. -/
theorem Stacked.attaches (h : s.Stacked) {position : Option Nat} {cx : Context} (howns : s'.Owns)
    (ha : Execution.Attaches s.execution s'.execution position cx) : s'.Stacked where
  toOwns := howns
  own o ho := by
    rw [ha.openSpans] at ho
    obtain ⟨htracer, hlt⟩ := h.own o ho
    have hsame := congrArg Span.tracer (ha.outline o.span)
    rw [ha.size]
    exact ⟨hsame.trans htracer, hlt⟩
  order := by
    rw [ha.openSpans]
    exact h.order

/-- A span that began becomes the newest open one. -/
theorem Stacked.opens (h : s.Stacked) {t : TracerRef} {e e' : Execution} {position : Option Nat}
    {cx : Context} (hbegins : Execution.Begins s.execution e t)
    (hattaches : Execution.Attaches e e' position cx) :
    Stacked ⟨{ e' with openSpans := ⟨t, ⟨s.execution.spans.size⟩, position⟩ :: e'.openSpans },
      s.guards⟩ := by
  have hbegun := h.begins hbegins
  have hopen : e'.openSpans = e.openSpans := hattaches.openSpans
  have hattached : Stacked ⟨e', position :: s.guards⟩ :=
    hbegun.attaches (hbegun.toOwns.guarded hattaches) hattaches
  constructor
  · exact hbegun.toOwns.attaches hattaches rfl (by cases position <;> simp [positions, hopen])
  · intro o ho
    rcases List.mem_cons.1 ho with rfl | ho
    · have hsame := congrArg Span.tracer (hattaches.outline ⟨s.execution.spans.size⟩)
      refine ⟨hsame.trans hbegins.tracer, ?_⟩
      show s.execution.spans.size < e'.spans.size
      rw [hattaches.size, hbegins.size]
      omega
    · exact hattached.own o ho
  · -- The new span was started after all others.
    refine List.pairwise_cons.2 ⟨fun o ho => ?_, hattached.order⟩
    have ho : o ∈ s.execution.openSpans := hbegins.openSpans ▸ hopen ▸ ho
    exact (h.own o ho).2

theorem Stacked.retreats {removed : List OpenSpan} {dropped : List (Option Nat)}
    {ended : List SpanRef} (h : s.Stacked) (hr : Retreats s s' removed dropped ended) :
    s'.Stacked where
  toOwns := h.toOwns.retreats hr
  own o ho := by
    obtain ⟨htracer, hlt⟩ := h.own o (hr.kept.subset ho)
    have hsame := congrArg Span.tracer (hr.releases.outline o.span)
    rw [hr.releases.size]
    exact ⟨hsame.trans htracer, hlt⟩
  order := h.order.sublist hr.kept

theorem Stacked.move (h : s.Stacked) {a : ThreadAction} (hmove : s.Move a s') : s'.Stacked := by
  cases hmove with
  | begins hb => exact h.begins hb
  | opens _ hbegins hattaches => exact h.opens hbegins hattaches
  | tags ha => exact h.attaches (h.toOwns.guarded ha) ha
  | retreats hr => exact h.retreats hr

/-! ### Every move keeps them in agreement -/

theorem Aligned.begins (h : s.Aligned) {e : Execution} {t : TracerRef}
    (hb : Execution.Begins s.execution e t) : Aligned ⟨e, s.guards⟩ := by
  have hlive : ∀ l : List SpanRef, (∀ span ∈ l, span.index < s.execution.spans.size) →
      l.filter e.live = l.filter s.execution.live := by
    intro l hl
    exact List.filter_congr fun span hspan => hb.live_old (hl span hspan)
  constructor
  · exact h.toStacked.begins hb
  · intro x hx span hspan
    have hx : x ∈ s.execution.contexts.held := hb.contexts ▸ hx
    have hlt := h.known x hx span hspan
    show span.index < e.spans.size
    rw [hb.size]
    omega
  · intro x hx
    have hx : x ∈ s.execution.contexts.held := hb.contexts ▸ hx
    have hupto : e.openUpTo x.1 = s.execution.openUpTo x.1 := by
      rw [Execution.openUpTo, hb.openSpans]
      rfl
    have hopen : ∀ span ∈ s.execution.openUpTo x.1, span.index < s.execution.spans.size := by
      intro span hspan
      obtain ⟨o, ho, rfl⟩ := List.mem_map.1 hspan
      exact (h.own o (List.mem_filter.1 ho).1).2
    show x.2.spans.filter e.live = (e.openUpTo x.1).filter e.live
    rw [hupto, hlive _ (h.known x hx), hlive _ hopen, h.woven x hx]

/-- A context is attached in which at most the spans in `opened` are new. -/
theorem Aligned.attaches (h : s.Aligned) {e : Execution} {position : Option Nat} {cx : Context}
    (opened : List OpenSpan) (hstacked : s'.Stacked)
    (ha : Execution.Attaches s.execution e position cx)
    (he : s'.execution = { e with openSpans := opened ++ s.execution.openSpans })
    (hcx : cx.spans = opened.map (·.span) ++ s.execution.currentContext.spans)
    (hposition : ∀ o ∈ opened, o.position = position) : s'.Aligned := by
  have hheld : s'.execution.contexts.held =
      position.toList.map (·, cx) ++ s.execution.contexts.held := by rw [he]; exact ha.held
  have hopen : s'.execution.openSpans = opened ++ s.execution.openSpans := by rw [he]
  have hsize : s'.execution.spans.size = s.execution.spans.size := by rw [he]; exact ha.size
  have hlive : s'.execution.live = s.execution.live := by
    funext span
    rw [Execution.live_eq_outline, Execution.live_eq_outline, he]
    exact congrArg (!·.ended) (ha.outline span)
  constructor
  · exact hstacked
  · intro x hx span hspan
    rw [hheld] at hx
    rcases List.mem_append.1 hx with hx | hx
    · obtain ⟨p, -, rfl⟩ := List.mem_map.1 hx
      rw [hcx] at hspan
      rcases List.mem_append.1 hspan with hspan | hspan
      · obtain ⟨o, ho, rfl⟩ := List.mem_map.1 hspan
        exact (hstacked.own o (hopen ▸ List.mem_append_left _ ho)).2
      · rw [hsize]
        exact h.known _ s.mem_held_current span hspan
    · rw [hsize]
      exact h.known x hx span hspan
  · intro x hx
    rw [hlive]
    rw [hheld] at hx
    rcases List.mem_append.1 hx with hx | hx
    · -- The new context carries the spans in `opened` and all that were open before.
      obtain ⟨p, hp, rfl⟩ := List.mem_map.1 hx
      have hp : position = some p := Option.mem_toList.1 hp
      have hle : s.execution.contexts.below.size ≤ p :=
        Nat.le_of_lt (ha.new p hp _ s.mem_held_current)
      have hnew : opened.filter (fun o => o.position.any (· ≤ p)) = opened :=
        List.filter_eq_self.2 fun o ho => by simp [hposition o ho, hp]
      have hupto : s'.execution.openUpTo p = opened.map (·.span) ++ s.execution.openUpTo p := by
        rw [Execution.openUpTo, hopen, List.filter_append, hnew, List.map_append]
        rfl
      rw [hcx, hupto, List.filter_append, List.filter_append, h.filter_current,
        h.toOwns.openUpTo_of_le hle]
    · -- An older context is below the position of the spans in `opened`.
      have hnone : opened.filter (fun o => o.position.any (· ≤ x.1)) = [] :=
        List.filter_eq_nil_iff.2 fun o ho => by
          cases hp : position with
          | none => simp [hposition o ho, hp]
          | some p => simpa [hposition o ho, hp] using ha.new p hp x hx
      have hupto : s'.execution.openUpTo x.1 = s.execution.openUpTo x.1 := by
        rw [Execution.openUpTo, hopen, List.filter_append, hnone]
        rfl
      rw [hupto, h.woven x hx]

/-- A span that began becomes the current one. -/
theorem Aligned.opens (h : s.Aligned) {t : TracerRef} {e e' : Execution} {position : Option Nat}
    (hbegins : Execution.Begins s.execution e t)
    (hattaches : Execution.Attaches e e' position
      (s.execution.currentContext.withSpan ⟨s.execution.spans.size⟩)) :
    Aligned ⟨{ e' with openSpans := ⟨t, ⟨s.execution.spans.size⟩, position⟩ :: e'.openSpans },
      s.guards⟩ := by
  have hopen : e'.openSpans = e.openSpans := hattaches.openSpans
  refine (h.begins hbegins).attaches [⟨t, ⟨s.execution.spans.size⟩, position⟩]
    (h.toStacked.opens hbegins hattaches) hattaches (by rw [hopen]; rfl) ?_ ?_
  · have hcurrent : e.currentContext = s.execution.currentContext :=
      congrArg AttachStack.current hbegins.contexts
    show _ = _ ++ e.currentContext.spans
    rw [hcurrent]
    rfl
  · intro o ho
    rw [List.mem_singleton.1 ho]

/-- A context is attached that carries the spans of the current one. -/
theorem Aligned.attaches_same (h : s.Aligned) {position : Option Nat} {cx : Context} (howns : s'.Owns)
    (ha : Execution.Attaches s.execution s'.execution position cx)
    (hcx : cx.spans = s.execution.currentContext.spans) : s'.Aligned := by
  refine h.attaches [] (h.toStacked.attaches howns ha) ha ?_ hcx (fun _ ho => nomatch ho)
  rw [List.nil_append, ← ha.openSpans]

section Retreat

variable {removed : List OpenSpan} {dropped : List (Option Nat)} {ended : List SpanRef}

theorem Retreats.mem_held (hr : Retreats s s' removed dropped ended) {x : Nat × Context}
    (hx : x ∈ s'.execution.contexts.held) : x ∈ s.execution.contexts.held := by
  rw [hr.releases.held] at hx
  exact (List.mem_filter.1 hx).1

theorem Retreats.live_eq (hr : Retreats s s' removed dropped ended) :
    s'.execution.live = fun span => s.execution.live span && decide (span ∉ ended) := by
  funext span
  exact hr.releases.live span

theorem Retreats.filter_live (hr : Retreats s s' removed dropped ended) (l : List SpanRef) :
    l.filter s'.execution.live = (l.filter s.execution.live).filter (decide <| · ∉ ended) := by
  rw [hr.live_eq, List.filter_filter]
  congr 1
  funext span
  exact Bool.and_comm _ _

/-- Only spans that have ended are missing from the open spans. -/
theorem Retreats.filter_openUpTo (hr : Retreats s s' removed dropped ended) (p : Nat) :
    (s'.execution.openUpTo p).filter s'.execution.live =
      (s.execution.openUpTo p).filter s'.execution.live := by
  rw [Execution.openUpTo, Execution.openUpTo, List.filter_map, List.filter_map,
    List.filter_filter, List.filter_filter]
  congr 1
  apply filter_eq_of_sublist hr.kept hr.entries
  intro o ho
  have hended : s'.execution.live o.span = false := by
    rw [hr.live_eq]
    simp [hr.closed o ho]
  simp [hended]

theorem Aligned.retreats (h : s.Aligned) (hr : Retreats s s' removed dropped ended) :
    s'.Aligned := by
  constructor
  · exact h.toStacked.retreats hr
  · intro x hx span hspan
    rw [hr.releases.size]
    exact h.known x (hr.mem_held hx) span hspan
  · intro x hx
    rw [hr.filter_openUpTo, hr.filter_live, hr.filter_live, h.woven x (hr.mem_held hx)]

end Retreat

theorem Aligned.move (h : s.Aligned) {a : ThreadAction} (hmove : s.Move a s') : s'.Aligned := by
  cases hmove with
  | begins hb => exact h.begins hb
  | opens _ hbegins hattaches => exact h.opens hbegins hattaches
  | tags ha => exact h.attaches_same (h.toOwns.guarded ha) ha rfl
  | retreats hr => exact h.retreats hr

theorem aligned_run (h : s.Aligned) (actions : List ThreadAction) : (s.run actions).Aligned := by
  induction actions generalizing s with
  | nil => exact h
  | cons a rest ih => exact ih (h.move (h.toOwns.move a))

/-! ### Threads on which no context was refused -/

/-- Every open span has a position. -/
def Attached (s : Thread) : Prop := ∀ o ∈ s.execution.openSpans, o.position.isSome = true

theorem Attached.move (h : s.Attached) {a : ThreadAction} (hmove : s.Move a s')
    (hadmits : s.admits a = true) : s'.Attached := by
  cases hmove with
  | begins hb =>
    intro o ho
    exact h o (hb.openSpans ▸ ho)
  | opens hroom hbegins hattaches =>
    intro o ho
    rcases List.mem_cons.1 ho with rfl | ho
    · exact hroom.trans hadmits
    · rw [hattaches.openSpans, hbegins.openSpans] at ho
      exact h o ho
  | tags ha =>
    intro o ho
    exact h o (ha.openSpans ▸ ho)
  | retreats hr =>
    intro o ho
    exact h o (hr.kept.subset ho)

theorem attached_run (h : s.Aligned) (ha : s.Attached) {actions : List ThreadAction}
    (hactions : s.Unrefused actions) : (s.run actions).Attached := by
  induction actions generalizing s with
  | nil => exact ha
  | cons a rest ih =>
    obtain ⟨hadmits, hrest⟩ := hactions
    have hmove := h.toOwns.move a
    exact ih (h.move hmove) (ha.move hmove hadmits) hrest

/-- The current span of `t` is its newest open span that has not ended. -/
theorem Aligned.currentSpan?_eq (h : s.Aligned) (ha : s.Attached) (t : TracerRef) :
    s.execution.currentSpan? t =
      (s.execution.openSpans.find? fun o => o.tracer == t && s.execution.live o.span).map
        (·.span) := by
  have hattached : s.execution.openSpans.filter (·.position.isSome) = s.execution.openSpans :=
    List.filter_eq_self.2 ha
  have hcurrent := h.filter_current
  rw [hattached] at hcurrent
  calc s.execution.currentSpan? t
      = ((s.execution.currentContext.spans.filter s.execution.live).filter
          fun span => (s.execution.span span).tracer == t).head? := by
        rw [List.filter_filter, List.head?_filter]
        rfl
    _ = ((s.execution.openSpans.map (·.span)).filter fun span =>
          (s.execution.span span).tracer == t && s.execution.live span).head? := by
        rw [hcurrent, List.filter_filter]
    _ = (s.execution.openSpans.filter fun o =>
          o.tracer == t && s.execution.live o.span).head?.map (·.span) := by
        rw [List.filter_map, List.head?_map]
        congr 2
        refine List.filter_congr fun o ho => ?_
        show ((s.execution.span o.span).tracer == t && _) = _
        rw [(h.own o ho).1]
    _ = _ := by rw [List.head?_filter]

end Thread

end Telemetry
