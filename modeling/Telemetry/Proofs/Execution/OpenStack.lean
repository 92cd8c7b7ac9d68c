import Telemetry.Proofs.Execution.DirectProgram
import Telemetry.Proofs.Execution.NewestEnd

/-!
# The stack of a tracer

The open spans of one tracer are a stack, whatever other tracers do.  A span leaves it only by ending, and when
it leaves, everything above it has left too (`Execution.Shifts`).  So all that is below a span stays as long
as the span has not ended (`ScopedThread.opened_run`), and a span that was started and has not ended is on
the stack (`ScopedThread.mem_opened_of_started`).  Nor does it depend on what contexts are attached that the
stack is in order (`ScopedThread.stacked_run`).
-/

namespace Telemetry
namespace Execution

variable {e e' : Execution} {t : TracerRef}

theorem opened_of_openSpans (h : e'.openSpans = e.openSpans) : e'.opened t = e.opened t := by
  rw [opened, opened, h]

/-- What is open is around the open spans of `t`. -/
theorem split_of_opened {above below : List OpenSpan} {entry : OpenSpan}
    (h : e.opened t = above ++ entry :: below) :
    ∃ newer older, e.openSpans = newer ++ entry :: older ∧
      newer.filter (·.tracer == t) = above ∧ older.filter (·.tracer == t) = below := by
  obtain ⟨newer, rest, hopen, habove, hrest⟩ := List.filter_eq_append_iff.1 h
  obtain ⟨others, older, rfl, hothers, -, hbelow⟩ := List.filter_eq_cons_iff.1 hrest
  refine ⟨newer ++ others, older, by rw [hopen, List.append_assoc], ?_, hbelow⟩
  rw [List.filter_append, habove, List.filter_eq_nil_iff.2 hothers, List.append_nil]

theorem Releases.live_of_mem {positions : List Nat} {ended : List SpanRef} {q : SpanRef}
    (h : Releases e e' positions ended) (hq : q ∈ ended) : e'.live q = false := by
  rw [h.live, decide_eq_false (not_not_intro hq), Bool.and_false]

/-- A span that is started is the newest open one, and all others are as they were. -/
theorem opens_start (e : Execution) (t : TracerRef) (name : String) (kind : SpanKind) :
    let started := (e.start t name kind).2
    (∃ position, started.openSpans = ⟨t, ⟨e.spans.size⟩, position⟩ :: e.openSpans) ∧
      started.live ⟨e.spans.size⟩ = true ∧
      ∀ q, q.index < e.spans.size → started.live q = e.live q := by
  intro started
  have hbegins := begins_startIn e t e.currentContext name kind
  have hattaches := attaches_attach (e.startIn t e.currentContext name kind).2
    (e.currentContext.withSpan ⟨e.spans.size⟩)
  have hlive : ∀ q, started.live q = (e.startIn t e.currentContext name kind).2.live q := by
    intro q
    have houtline := hattaches.outline q
    rw [live_eq_outline, live_eq_outline, ← houtline]
    show (!((e.start t name kind).2.outline q).ended) = _
    rw [Thread.start_eq]
    rfl
  refine ⟨?_, ?_, fun q hq => ?_⟩
  · show ∃ position, (e.start t name kind).2.openSpans = _
    rw [Thread.start_eq]
    exact ⟨_, congrArg _ (hattaches.openSpans.trans hbegins.openSpans)⟩
  · rw [hlive]
    exact hbegins.live
  · rw [hlive]
    exact hbegins.live_old hq

theorem openSpans_detach (e : Execution) (position : Option Nat) :
    (e.detach position).openSpans = e.openSpans := by
  unfold detach
  split
  · rfl
  · split <;> rfl

theorem openSpans_foldl_abandon (e : Execution) (entries : List OpenSpan) :
    (entries.foldl abandon e).openSpans = e.openSpans := by
  induction entries generalizing e with
  | nil => rfl
  | cons entry rest ih =>
    have habandon : (e.abandon entry).openSpans = e.openSpans :=
      (releases_endSpan _ _).openSpans.trans (e.openSpans_detach entry.position)
    exact (ih _).trans habandon

theorem openSpans_endOpen {entry : OpenSpan} {newer older : List OpenSpan}
    (hopen : e.openSpans = newer ++ entry :: older)
    (hnewer : ∀ o ∈ newer, ¬(o.tracer = entry.tracer ∧ o.span = entry.span)) :
    (e.endOpen entry.tracer entry.span).openSpans = entry.others newer ++ older := by
  rw [Thread.endOpen_of_open hopen hnewer, (releases_endSpan _ _).openSpans, openSpans_detach,
    openSpans_foldl_abandon, (Thread.sameShape_rewound _ _ _ _).openSpans]
  rfl

/-- From `e` to `e'` the spans in `removed` have left the stack of `t`, those in `kept` have stayed, and at
most one has come. -/
structure Shifts (e e' : Execution) (t : TracerRef) (removed kept : List OpenSpan) : Prop where
  before : e.opened t = removed ++ kept
  ended : ∀ o ∈ removed, e'.live o.span = false
  after : e'.opened t = kept ∨ ∃ o, e'.opened t = o :: kept

/-- No span leaves the stack, and at most one comes. -/
theorem shifts_of_kept (h : e'.opened t = e.opened t ∨ ∃ o, e'.opened t = o :: e.opened t) :
    Shifts e e' t [] (e.opened t) := ⟨rfl, (fun _ ho => nomatch ho), h⟩

theorem shifts_of_openSpans (h : e'.openSpans = e.openSpans) : Shifts e e' t [] (e.opened t) :=
  shifts_of_kept (.inl (opened_of_openSpans h))

end Execution

namespace Thread

variable {s : Thread} {t : TracerRef}

/-- No span is on the stack twice. -/
theorem Stacked.span_ne (h : s.Stacked) {newer older : List OpenSpan}
    (hopen : s.execution.openSpans = newer ++ older) :
    ∀ o ∈ newer, ∀ o' ∈ older, o.span ≠ o'.span := by
  intro o ho o' ho' hspan
  have horder := h.order
  rw [hopen] at horder
  have hlt := (List.pairwise_append.1 horder).2.2 o ho o' ho'
  rw [hspan] at hlt
  exact Nat.lt_irrefl _ hlt

/-- What is open below a span stays as it is when that ends. -/
theorem Stacked.live_of_older (h : s.Stacked) {newer older : List OpenSpan} {entry : OpenSpan}
    {e' : Execution} (hopen : s.execution.openSpans = newer ++ entry :: older)
    (hunwinds : s.execution.Unwinds e' newer entry older) {o : OpenSpan} (ho : o ∈ older) :
    e'.live o.span = s.execution.live o.span := by
  rw [List.append_cons] at hopen
  rw [Execution.live, hunwinds.span, if_neg, ← Execution.live]
  intro hmem
  obtain ⟨o', ho', hspan⟩ := List.mem_map.1 hmem
  refine h.span_ne hopen o' ?_ o ho hspan
  rcases List.mem_append.1 ho' with ho' | ho'
  · exact List.mem_append_left _ (List.mem_filter.1 ho').1
  · exact List.mem_append_right _ ho'

/-- The stacks of other tracers do not notice. -/
theorem opened_endNewest_of_ne {e : Execution} {t' : TracerRef} (hne : t' ≠ t) :
    (e.endNewest t').opened t = e.opened t := by
  rcases newest_or_none e t' with ⟨-, hend⟩ | ⟨newer, entry, older, -, hopen, rfl, -, hend⟩
  · rw [hend]
    rfl
  · have hopen' : (e.endNewest entry.tracer).openSpans = newer ++ older := by
      rw [hend, (Execution.releases_endSpan _ _).openSpans, Execution.openSpans_detach]
    rw [Execution.opened, Execution.opened, hopen', hopen, List.filter_append, List.filter_append,
      List.filter_cons_of_neg (by simpa using hne)]

theorem shifts_endNewest (h : s.Owns) (t t' : TracerRef) :
    ∃ removed kept, s.execution.Shifts (s.execution.endNewest t') t removed kept := by
  by_cases ht : t' = t
  · subst ht
    cases hopened : s.execution.opened t' with
    | nil =>
      rcases newest_or_none s.execution t' with ⟨-, hend⟩ | ⟨newer, entry, older, hfind, -⟩
      · rw [hend]
        exact ⟨[], _, Execution.shifts_of_openSpans rfl⟩
      · rw [← List.head?_filter] at hfind
        have hfind : (s.execution.opened t').head? = some entry := hfind
        rw [hopened] at hfind
        cases hfind
    | cons entry older =>
      obtain ⟨hkept, hends⟩ := ends_endNewest h hopened
      refine ⟨[entry], older, hopened, ?_, .inl hkept⟩
      intro o ho
      rw [List.mem_singleton.1 ho]
      simp [Execution.live, hends.ended (s := entry.span) (by simp)]
  · exact ⟨[], _, Execution.shifts_of_kept (.inl (opened_endNewest_of_ne ht))⟩

theorem shifts_endOpen (h : s.Owns) (t t' : TracerRef) (span : SpanRef) :
    ∃ removed kept, s.execution.Shifts (s.execution.endOpen t' span) t removed kept := by
  rcases open_or_not s.execution t' span with hnot | ⟨newer, entry, older, hopen, rfl, rfl, hnewer⟩
  · rw [endOpen_of_not_open hnot]
    exact ⟨[], _, Execution.shifts_of_openSpans (Execution.releases_endSpan _ _).openSpans⟩
  · have hafter := Execution.openSpans_endOpen hopen hnewer
    by_cases ht : entry.tracer = t
    · subst ht
      have hreleases := (retreats_endOpen h hopen hnewer).releases
      refine ⟨entry.siblings newer ++ [entry], entry.siblings older, ?_, ?_, .inl ?_⟩
      · rw [Execution.opened, hopen, List.filter_append, List.append_assoc,
          List.filter_cons_of_pos (by simp)]
        rfl
      · intro o ho
        exact hreleases.live_of_mem (List.mem_map_of_mem ho)
      · rw [Execution.opened, hafter]
        exact (entry.siblings_append _ _).trans (by rw [entry.siblings_others, List.nil_append])
    · -- Only spans of the other tracer leave.
      have hkept : (entry.others newer).filter (·.tracer == t) = newer.filter (·.tracer == t) := by
        rw [OpenSpan.others, List.filter_filter]
        refine List.filter_congr fun o _ => ?_
        by_cases ho : o.tracer = t
        · simp [ho, Ne.symm ht]
        · simp [ho]
      refine ⟨[], _, Execution.shifts_of_kept (.inl ?_)⟩
      rw [Execution.opened, Execution.opened, hafter, hopen, List.filter_append, List.filter_append,
        hkept, List.filter_cons_of_neg (by simpa using ht)]

/-- **Every action shifts the stack of a tracer.** -/
theorem shifts_step (h : s.Owns) (a : ThreadAction) (t : TracerRef) :
    ∃ removed kept, s.execution.Shifts (s.step a).execution t removed kept := by
  by_cases hkeeps : a.keepsStacks = true
  · exact ⟨[], _, Execution.shifts_of_openSpans (s.sameStacks_step hkeeps).1.openSpans⟩
  · cases a with
    | start t' name kind =>
      obtain ⟨⟨position, hopen⟩, -⟩ := s.execution.opens_start t' name kind
      refine ⟨[], _, Execution.shifts_of_kept ?_⟩
      show (s.execution.start t' name kind).2.opened t = _ ∨
        ∃ o, (s.execution.start t' name kind).2.opened t = _
      rw [Execution.opened, hopen]
      by_cases ht : t' = t
      · exact .inr ⟨_, List.filter_cons_of_pos (by simpa using ht)⟩
      · exact .inl (List.filter_cons_of_neg (by simpa using ht))
    | endNewest t' => exact shifts_endNewest h t t'
    | endOpen t' span => exact shifts_endOpen h t t' span
    | setTags tags =>
      exact ⟨[], _, Execution.shifts_of_openSpans (Execution.attaches_attach _ _).openSpans⟩
    | dropTags index =>
      refine ⟨[], _, Execution.shifts_of_openSpans ?_⟩
      simp only [step]
      split
      · exact Execution.openSpans_detach _ _
      · rfl
    | _ => exact absurd rfl hkeeps

end Thread

namespace ScopedThread

variable {s : ScopedThread} {t : TracerRef}

/-- Every step keeps the stack in order, whatever contexts scopes attach. -/
theorem stacked_step (h : s.unscoped.Stacked) (a : ScopedAction) : (s.step a).unscoped.Stacked := by
  cases a with
  | act a =>
    rcases s.unscoped_act a with hact | hact
    · rw [hact]
      exact h.move (h.toOwns.move a)
    · rwa [hact]
  | enter cx =>
    exact h.attaches (owns_enter h.toOwns cx) (Execution.attaches_attach s.thread.execution cx)
  | leave =>
    rw [unscoped_leave]
    exact h.move (h.toOwns.move _)

theorem stacked_run (h : s.unscoped.Stacked) (actions : List ScopedAction) :
    (s.run actions).unscoped.Stacked := by
  induction actions generalizing s with
  | nil => exact h
  | cons a rest ih => exact ih (stacked_step h a)

theorem shifts_step (h : s.unscoped.Owns) (a : ScopedAction) (t : TracerRef) :
    ∃ removed kept, s.thread.execution.Shifts (s.step a).thread.execution t removed kept := by
  cases a with
  | act a =>
    rcases s.unscoped_act a with hact | hact
    · have hshifts := Thread.shifts_step h a t
      rw [← hact] at hshifts
      exact hshifts
    · rw [hact]
      exact ⟨[], _, Execution.shifts_of_openSpans rfl⟩
  | enter cx => exact ⟨[], _, Execution.shifts_of_openSpans (Execution.attaches_attach _ _).openSpans⟩
  | leave =>
    refine ⟨[], _, Execution.shifts_of_openSpans ?_⟩
    unfold step
    dsimp only
    split
    · exact Execution.openSpans_detach _ _
    · rfl

/-- **What is below an open span stays** as long as the span has not ended. -/
theorem opened_run (h : s.unscoped.Owns) {actions : List ScopedAction} {above below : List OpenSpan}
    {entry : OpenSpan} (hopened : s.thread.execution.opened t = above ++ entry :: below)
    (hknown : entry.span.index < s.thread.execution.spans.size)
    (hlive : (s.run actions).thread.execution.live entry.span = true) :
    ∃ above', (s.run actions).thread.execution.opened t = above' ++ entry :: below := by
  induction actions generalizing s above with
  | nil => exact ⟨above, hopened⟩
  | cons a rest ih =>
    have hknown' := hknown.trans_le (continues_step h a).size
    have hlive' := (continues_run (owns_step h a) rest).live _ hknown' hlive
    obtain ⟨removed, kept, hbefore, hended, hafter⟩ := shifts_step h a t
    -- The span itself has stayed, so only spans above it have left.
    have hkept : ∃ above', kept = above' ++ entry :: below := by
      rw [hbefore] at hopened
      rcases List.append_eq_append_iff.1 hopened with ⟨above', -, hkept⟩ | ⟨others, hremoved, hrest⟩
      · exact ⟨above', hkept⟩
      · cases others with
        | nil => exact ⟨[], hrest.symm⟩
        | cons o others =>
          obtain ⟨rfl, -⟩ := List.cons.inj hrest
          have hnot := hended entry (by simp [hremoved])
          rw [hlive'] at hnot
          cases hnot
    obtain ⟨above', rfl⟩ := hkept
    rcases hafter with hafter | ⟨o, hafter⟩
    · exact ih (owns_step h a) hafter hknown' hlive
    · rw [← List.cons_append] at hafter
      exact ih (owns_step h a) hafter hknown' hlive

/-- The span of `t` that an action starts and makes current. -/
def startedBy (s : ScopedThread) (t : TracerRef) : ScopedAction → List SpanRef
  | .act (.start t' _ _) => if t' = t then [⟨s.thread.execution.spans.size⟩] else []
  | _ => []

/-- The spans of `t` that are started in a sequence of actions and made current. -/
def startedIn (s : ScopedThread) (t : TracerRef) : List ScopedAction → List SpanRef
  | [] => []
  | a :: rest => s.startedBy t a ++ (s.step a).startedIn t rest

theorem mem_opened_of_startedBy {a : ScopedAction} {q : SpanRef} (hq : q ∈ s.startedBy t a) :
    (s.step a).thread.execution.live q = true ∧
      ∃ o ∈ (s.step a).thread.execution.opened t, o.span = q := by
  unfold startedBy at hq
  split at hq
  next t' name kind =>
    obtain ⟨⟨position, hopen⟩, hlive, -⟩ := s.thread.execution.opens_start t' name kind
    split at hq
    next ht =>
      subst ht
      rw [List.mem_singleton.1 hq]
      refine ⟨hlive, ⟨t', ⟨s.thread.execution.spans.size⟩, position⟩, ?_, rfl⟩
      show _ ∈ (s.thread.execution.start t' name kind).2.opened t'
      rw [Execution.opened, hopen]
      simp
    next => cases hq
  next => cases hq

/-- A span that is started was not there before. -/
theorem le_index_of_started (h : s.unscoped.Owns) {actions : List ScopedAction} {q : SpanRef}
    (hq : q ∈ s.startedIn t actions) : s.thread.execution.spans.size ≤ q.index := by
  induction actions generalizing s with
  | nil => cases hq
  | cons a rest ih =>
    rcases List.mem_append.1 hq with hq | hq
    · unfold startedBy at hq
      split at hq
      · split at hq
        · rw [List.mem_singleton.1 hq]
        · cases hq
      · cases hq
    · exact (continues_step h a).size.trans (ih (owns_step h a) hq)

/-- **A span that was started and has not ended is open.** -/
theorem mem_opened_of_started (h : s.unscoped.Owns) {actions : List ScopedAction} {q : SpanRef}
    (hq : q ∈ s.startedIn t actions) (hlive : (s.run actions).thread.execution.live q = true) :
    ∃ o ∈ (s.run actions).thread.execution.opened t, o.span = q := by
  induction actions generalizing s with
  | nil => cases hq
  | cons a rest ih =>
    rcases List.mem_append.1 hq with hq | hq
    · obtain ⟨hstarted, o, ho, rfl⟩ := mem_opened_of_startedBy hq
      obtain ⟨above, below, hopened⟩ := List.append_of_mem ho
      obtain ⟨above', hafter⟩ :=
        opened_run (owns_step h a) hopened (Execution.lt_size_of_live hstarted) hlive
      refine ⟨o, ?_, rfl⟩
      show o ∈ ((s.step a).run rest).thread.execution.opened t
      simp [hafter]
    · exact ih (owns_step h a) hq hlive

end ScopedThread

end Telemetry
