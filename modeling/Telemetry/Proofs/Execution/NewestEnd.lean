import Telemetry.Proofs.Execution.Rewind

/-!
# The end of the newest open span

A tracer has two ideas of its innermost span.  `currentSpan?` is the newest of its open spans that has not
ended; `endNewest` takes the newest one off the stack, whether it has ended or not.  They differ when a span
was ended directly, which does not touch the stack: it is passed over as the current span, but the tracer
has to take it off before it gets to those below it.

`Thread.endNewest_run` says how many calls that takes (`EndsCurrent`).  If no span was ended directly, the
first call ends the current span.
-/

namespace Telemetry
namespace Execution

variable {e e' : Execution} {t : TracerRef} {s : SpanRef}

/-- The open spans of `t`, the newest first. -/
def opened (e : Execution) (t : TracerRef) : List OpenSpan := e.openSpans.filter (·.tracer == t)

theorem tracer_of_mem_opened {o : OpenSpan} (ho : o ∈ e.opened t) : o.tracer = t := by
  simpa using (List.mem_filter.1 ho).2

/-- A span that ends a second time stays as it is. -/
theorem Ends.span_of_ended {f : SpanRecord → SpanRecord} (h : Ends e e' [(s, f)])
    (hended : (e.span s).ended = true) (q : SpanRef) : e'.span q = e.span q := by
  rw [h.span]
  split
  next hq =>
    rw [List.map_singleton, List.mem_singleton] at hq
    rw [hq, Span.closed, if_pos hended]
  next => rfl

/-- A span that ends a second time is not handed over. -/
theorem Ends.exported_of_ended {f : SpanRecord → SpanRecord} (h : Ends e e' [(s, f)])
    (hended : (e.span s).ended = true) : e'.exported = e.exported := by
  apply Array.toList_inj.1
  simp [h.exported, handover?, hended]

/-- Spans that end have ended. -/
theorem Ends.ended {ends : List (SpanRef × (SpanRecord → SpanRecord))} (h : Ends e e' ends)
    (hs : s ∈ ends.map (·.1)) : (e'.span s).ended = true := by
  rw [h.span, if_pos hs, Span.ended_closed]

end Execution

namespace Thread

variable {s : Thread} {t : TracerRef}

/-- The newest open span is taken off the stack and ends. -/
theorem ends_endNewest (h : s.Owns) {entry : OpenSpan} {older : List OpenSpan}
    (hopened : s.execution.opened t = entry :: older) :
    (s.execution.endNewest t).opened t = older ∧
      s.execution.Ends (s.execution.endNewest t) [(entry.span, id)] := by
  have hnewest : s.execution.openSpans.find? (·.tracer == t) = some entry := by
    rw [← List.head?_filter]
    exact congrArg List.head? hopened
  rcases newest_or_none s.execution t with
    ⟨hfind, -⟩ | ⟨newer, entry', below, hfind, hopen, htracer, hnewer, hend⟩
  · rw [hfind] at hnewest
    cases hnewest
  · obtain rfl : entry' = entry := Option.some.inj (hfind.symm.trans hnewest)
    have hmem : [entry'].Sublist s.execution.openSpans := by
      rw [hopen]
      exact List.singleton_sublist.2 (List.mem_append_right _ List.mem_cons_self)
    have hheld := h.heldBy hmem
    have hheld' : ∀ p ∈ entry'.position, s.execution.Holds p := hheld.of_cons
    have hdetach := Execution.ends_detach
      (e := { s.execution with openSpans := newer ++ below }) hheld.grounded hheld'
    have hends := hdetach.trans (Execution.ends_endSpan _ entry'.span) fun _ _ hx => nomatch hx
    have hreleases := (Execution.releases_detach
      (e := { s.execution with openSpans := newer ++ below }) hheld.grounded hheld').trans
        (Execution.releases_endSpan _ entry'.span)
    have hnone : newer.filter (·.tracer == t) = [] :=
      List.filter_eq_nil_iff.2 fun o ho => by simpa using hnewer o ho
    rw [hend]
    constructor
    · rw [Execution.opened, hopen, List.filter_append, hnone, List.nil_append,
        List.filter_cons_of_pos (by simp [htracer])] at hopened
      rw [Execution.opened, hreleases.openSpans, List.filter_append, hnone, List.nil_append]
      exact (List.cons.inj hopened).2
    · exact ⟨hends.span, hends.exported, hends.clock, hends.diagnostics⟩

theorem Aligned.currentSpan?_eq_opened (h : s.Aligned) (ha : s.Attached) (t : TracerRef) :
    s.execution.currentSpan? t =
      ((s.execution.opened t).find? fun o => s.execution.live o.span).map (·.span) := by
  rw [h.currentSpan?_eq ha, Execution.opened, List.find?_filter]
  simp only [Bool.decide_and, Bool.decide_eq_true]

/-- The thread after the tracer was told `n` times to end its newest open span. -/
def endingNewest (s : Thread) (t : TracerRef) (n : Nat) : Thread :=
  s.run (List.replicate n (.endNewest t))

theorem endingNewest_succ (s : Thread) (t : TracerRef) (n : Nat) :
    s.endingNewest t (n + 1) = (s.step (.endNewest t)).endingNewest t n := by
  rw [endingNewest, List.replicate_succ]
  rfl

theorem endingNewest_add (s : Thread) (t : TracerRef) (m n : Nat) :
    s.endingNewest t (m + n) = (s.endingNewest t m).endingNewest t n := by
  rw [endingNewest, List.replicate_add, run, List.foldl_append]
  rfl

theorem Aligned.endingNewest (h : s.Aligned) (t : TracerRef) (n : Nat) :
    (s.endingNewest t n).Aligned :=
  aligned_run h _

theorem Attached.endingNewest (h : s.Aligned) (ha : s.Attached) (t : TracerRef) (n : Nat) :
    (s.endingNewest t n).Attached := by
  refine attached_run h ha ?_
  clear h ha
  induction n generalizing s with
  | zero => trivial
  | succ n ih => exact ⟨rfl, ih⟩

/-- Open spans that have ended are taken off the stack, and nothing happens to spans. -/
theorem endingNewest_of_ended (h : s.Owns) {passed rest : List OpenSpan}
    (hopened : s.execution.opened t = passed ++ rest)
    (hpassed : ∀ o ∈ passed, (s.execution.span o.span).ended = true) :
    let e' := (s.endingNewest t passed.length).execution
    e'.opened t = rest ∧ (∀ q, e'.span q = s.execution.span q) ∧
      e'.exported = s.execution.exported := by
  induction passed generalizing s with
  | nil => exact ⟨hopened, fun _ => rfl, rfl⟩
  | cons o passed ih =>
    obtain ⟨hrest, hends⟩ := ends_endNewest h hopened
    have hended := hpassed o List.mem_cons_self
    have hspan := hends.span_of_ended hended
    have hnext : ∀ o ∈ passed, ((s.execution.endNewest t).span o.span).ended = true := by
      intro o' ho'
      rw [hspan]
      exact hpassed o' (List.mem_cons_of_mem _ ho')
    have howns : (s.step (.endNewest t)).Owns := h.retreats (retreats_endNewest h t)
    obtain ⟨hopened', hspan', hexported'⟩ := ih howns hrest hnext
    rw [List.length_cons, endingNewest_succ]
    refine ⟨hopened', ?_, hexported'.trans (hends.exported_of_ended hended)⟩
    intro q
    exact (hspan' q).trans (hspan q)

/-- They are taken off one by one. -/
theorem endingNewest_of_le (h : s.Owns) {passed rest : List OpenSpan}
    (hopened : s.execution.opened t = passed ++ rest)
    (hpassed : ∀ o ∈ passed, (s.execution.span o.span).ended = true) {n : Nat}
    (hn : n ≤ passed.length) :
    let e' := (s.endingNewest t n).execution
    e'.opened t = passed.drop n ++ rest ∧ (∀ q, e'.span q = s.execution.span q) ∧
      e'.exported = s.execution.exported := by
  have hsplit : s.execution.opened t = passed.take n ++ (passed.drop n ++ rest) := by
    rw [← List.append_assoc, List.take_append_drop, hopened]
  have hpart := endingNewest_of_ended h hsplit fun o ho => hpassed o (List.mem_of_mem_take ho)
  rwa [List.length_take_of_le hn] at hpart

/-- As long as the spans above it are taken off, the current span is the same. -/
theorem Aligned.currentSpan?_endingNewest (h : s.Aligned) (ha : s.Attached)
    {passed older : List OpenSpan} {entry : OpenSpan}
    (hopened : s.execution.opened t = passed ++ entry :: older)
    (hpassed : ∀ o ∈ passed, (s.execution.span o.span).ended = true)
    (hlive : s.execution.live entry.span = true) {n : Nat} (hn : n ≤ passed.length) :
    (s.endingNewest t n).execution.currentSpan? t = some entry.span := by
  obtain ⟨hopened', hspan, -⟩ := endingNewest_of_le h.toOwns hopened hpassed hn
  have hlive' : ∀ q, (s.endingNewest t n).execution.live q = s.execution.live q := by
    intro q
    rw [Execution.live, hspan, ← Execution.live]
  have hnone : (passed.drop n).find? (fun o => (s.endingNewest t n).execution.live o.span) =
      none := by
    rw [List.find?_eq_none]
    intro o ho
    simp [Execution.live, hspan, hpassed o (List.mem_of_mem_drop ho)]
  rw [(h.endingNewest t n).currentSpan?_eq_opened (ha.endingNewest h t n), hopened',
    List.find?_append, hnone, Option.none_or, List.find?_cons_of_pos (by rw [hlive', hlive])]
  rfl

/-- When the newest open span has ended, the next older one that has not ended is current. -/
theorem Aligned.currentSpan?_endNewest (h : s.Aligned) (ha : s.Attached) {entry : OpenSpan}
    {older : List OpenSpan} (hopened : s.execution.opened t = entry :: older) :
    (s.execution.endNewest t).currentSpan? t =
      (older.find? fun o => s.execution.live o.span).map (·.span) := by
  obtain ⟨hrest, hends⟩ := ends_endNewest h.toOwns hopened
  have hafter := (h.endingNewest t 1).currentSpan?_eq_opened (ha.endingNewest h t 1) t
  have hstep : (s.endingNewest t 1).execution = s.execution.endNewest t := rfl
  rw [hstep, hrest] at hafter
  rw [hafter]
  congr 1
  refine List.find?_congr fun o ho => ?_
  -- The older spans are others than the one that ended.
  have hne : o.span ≠ entry.span := by
    intro heq
    have horder : (s.execution.opened t).Pairwise fun a b => b.span.index < a.span.index :=
      h.order.filter _
    rw [hopened] at horder
    have hlt := (List.pairwise_cons.1 horder).1 o ho
    rw [heq] at hlt
    exact Nat.lt_irrefl _ hlt
  rw [Execution.live, hends.span, if_neg (by simpa using hne), ← Execution.live]

/-- The tracer `t` gets to its current span when it has taken the spans in `passed` off its stack. -/
structure EndsCurrent (s : Thread) (t : TracerRef) (span : SpanRef)
    (passed older : List OpenSpan) : Prop where
  /-- The current span is open, below `passed` and above `older`. -/
  opened : ∃ position, s.execution.opened t = passed ++ ⟨t, span, position⟩ :: older
  /-- The spans above it have ended. -/
  passed_ended : ∀ o ∈ passed, (s.execution.span o.span).ended = true
  /-- As long as these are taken off, one with each call, nothing happens to spans, nothing is handed over,
  and the current span is the same. -/
  waits : ∀ n ≤ passed.length,
    (∀ q, (s.endingNewest t n).execution.span q = s.execution.span q) ∧
      (s.endingNewest t n).execution.exported = s.execution.exported ∧
      (s.endingNewest t n).execution.opened t = (s.execution.opened t).drop n ∧
      (s.endingNewest t n).execution.currentSpan? t = some span
  /-- The next call ends it, and nothing else. -/
  ends : (s.endingNewest t passed.length).execution.Ends
    (s.endingNewest t (passed.length + 1)).execution [(span, id)]
  /-- Then the next older open span that has not ended is current. -/
  next : (s.endingNewest t (passed.length + 1)).execution.currentSpan? t =
    (older.find? fun o => s.execution.live o.span).map (·.span)

theorem Aligned.endsCurrent (h : s.Aligned) (ha : s.Attached) {span : SpanRef}
    (hcurrent : s.execution.currentSpan? t = some span) :
    ∃ passed older, s.EndsCurrent t span passed older := by
  rw [h.currentSpan?_eq_opened ha, Option.map_eq_some_iff] at hcurrent
  obtain ⟨entry, hfind, rfl⟩ := hcurrent
  obtain ⟨hlive, passed, older, hopened, hpassed⟩ := List.find?_eq_some_iff_append.1 hfind
  have hended : ∀ o ∈ passed, (s.execution.span o.span).ended = true := by
    intro o ho
    simpa [Execution.live] using hpassed o ho
  -- When all above it are taken off, the current span is the newest open one.
  obtain ⟨hopened', hspan', -⟩ := endingNewest_of_le h.toOwns hopened hended (Nat.le_refl _)
  rw [List.drop_length, List.nil_append] at hopened'
  have hstep : (s.endingNewest t (passed.length + 1)).execution =
      (s.endingNewest t passed.length).execution.endNewest t :=
    congrArg Thread.execution (endingNewest_add s t passed.length 1)
  refine ⟨passed, older, ?_, hended, ?_, ?_, ?_⟩
  · have htracer : entry.tracer = t := Execution.tracer_of_mem_opened (e := s.execution)
      (by simp [hopened])
    exact ⟨entry.position, by rw [hopened, ← htracer]⟩
  · intro n hn
    obtain ⟨hdropped, hspan, hexported⟩ := endingNewest_of_le h.toOwns hopened hended hn
    rw [← List.drop_append_of_le_length hn, ← hopened] at hdropped
    exact ⟨hspan, hexported, hdropped, h.currentSpan?_endingNewest ha hopened hended hlive hn⟩
  · rw [hstep]
    exact (ends_endNewest (h.endingNewest t _).toOwns hopened').2
  · rw [hstep, (h.endingNewest t _).currentSpan?_endNewest (ha.endingNewest h t _) hopened']
    congr 1
    refine List.find?_congr fun o _ => ?_
    rw [Execution.live, hspan', ← Execution.live]

/-- **A tracer ends its current span at the first call that finds nothing above it**, on every thread on
which no context was refused.  What is above it on the stack of the tracer are spans that were ended
directly, and each takes one call.  So the first call ends the current span if and only if there are none. -/
theorem endNewest_run (e : Execution) (actions : List ThreadAction)
    (h : (fresh e).Unrefused actions) (t : TracerRef) (span : SpanRef)
    (hcurrent : ((fresh e).run actions).execution.currentSpan? t = some span) :
    let s := (fresh e).run actions
    ∃ passed older, s.EndsCurrent t span passed older ∧
      (((s.execution.endNewest t).span span).ended = true ↔ passed = []) := by
  intro s
  have haligned : s.Aligned := aligned_run (aligned_fresh e) actions
  have hattached : s.Attached := attached_run (aligned_fresh e) (fun _ ho => nomatch ho) h
  have hlive : (s.execution.span span).ended = false := by
    simpa [Execution.live] using (Execution.of_spanOf? hcurrent).2
  obtain ⟨passed, older, hends⟩ := haligned.endsCurrent hattached hcurrent
  refine ⟨passed, older, hends, ?_⟩
  cases passed with
  | nil =>
    have hended : ((s.execution.endNewest t).span span).ended = true := hends.ends.ended (by simp)
    simp [hended]
  | cons o passed =>
    have hsame := (hends.waits 1 (by simp)).1 span
    have hnot : ((s.execution.endNewest t).span span).ended = false :=
      (congrArg Span.ended hsame).trans hlive
    simp [hnot]

/-- The newer of two spans of one tracer was ended directly. -/
def passedOver : List ThreadAction :=
  [.start ⟨0⟩ "a" .server, .start ⟨0⟩ "b" .client, .endSpan ⟨1⟩]

theorem unrefused_passedOver : (fresh twoTracers).Unrefused passedOver := by decide +kernel

theorem currentSpan?_passedOver :
    ((fresh twoTracers).run passedOver).execution.currentSpan? ⟨0⟩ = some ⟨0⟩ := by
  decide +kernel

theorem endNewest_run_passedOver :
    (fresh twoTracers).Unrefused passedOver ∧
      ((fresh twoTracers).run passedOver).execution.currentSpan? ⟨0⟩ = some ⟨0⟩ ∧
      ∃ passed older, ((fresh twoTracers).run passedOver).EndsCurrent ⟨0⟩ ⟨0⟩ passed older ∧
        (((((fresh twoTracers).run passedOver).execution.endNewest ⟨0⟩).span ⟨0⟩).ended = true ↔
          passed = []) :=
  ⟨unrefused_passedOver, currentSpan?_passedOver,
    endNewest_run twoTracers passedOver unrefused_passedOver ⟨0⟩ ⟨0⟩ currentSpan?_passedOver⟩

/-- A span that was ended directly is taken off the stack, and the current span stays. -/
theorem not_forall_ended_endNewest :
    ¬∀ (e : Execution) (actions : List ThreadAction), (fresh e).Unrefused actions →
      ∀ t span, ((fresh e).run actions).execution.currentSpan? t = some span →
        ((((fresh e).run actions).execution.endNewest t).span span).ended = true := by
  intro h
  have hended := h twoTracers passedOver unrefused_passedOver ⟨0⟩ ⟨0⟩ currentSpan?_passedOver
  have hnot : ((((fresh twoTracers).run passedOver).execution.endNewest ⟨0⟩).span ⟨0⟩).ended =
      false := by decide +kernel
  exact absurd (hended.symm.trans hnot) (by decide)

end Thread

end Telemetry
