import Telemetry.Proofs.Execution.Nesting

/-!
# Programs that act directly on their thread

The steps of a suspended computation run in the context that it carries, which may have little to do with
the open spans of the thread.  A program is `Direct` if these steps leave the stacks of the thread as they
find them; apart from that it may do what it likes, in scopes and out of them.  While such a program runs, the
open spans of the thread and its contexts agree (`Program.Direct.aligned`).

What happens to spans in any run is in `Execution.Continues`: more of them begin, and those that have ended
stay so.
-/

namespace Telemetry

/-- A program that opens spans and tags by itself, and in the steps of suspended computations in scopes
only. -/
inductive Program.Direct {ε α : Type} : Program ε α → Prop
  | done (outcome : Outcome ε α) : Direct (.done outcome)
  | look {next : Thread → Program ε α} (hnext : ∀ s, Direct (next s)) : Direct (.look next)
  | act (a : ThreadAction) {next : Program ε α} (hnext : Direct next) : Direct (.act a next)
  | openGuard {t : TracerRef} {name : String} {next : SpanGuard → Program ε α}
      (hnext : ∀ guard, Direct (next guard)) : Direct (.openGuard t name next)
  | dropGuard (guard : SpanGuard) (crashing : Bool) {next : Program ε α} (hnext : Direct next) :
      Direct (.dropGuard guard crashing next)
  | inSpan {t : TracerRef} {name : String} {message : ε → String}
      {body : SpanRef → Program ε α} {next : Outcome ε α → Program ε α}
      (hbody : ∀ span, Direct (body span)) (hnext : ∀ outcome, Direct (next outcome)) :
      Direct (.inSpan t name message body next)
  | withTags {tags : TagMap} {body : Program ε α} {next : Outcome ε α → Program ε α}
      (hbody : Direct body) (hnext : ∀ outcome, Direct (next outcome)) :
      Direct (.withTags tags body next)
  | createTask {t : TracerRef} {name : String} {next : SpanTask → Program ε α}
      (hnext : ∀ task, Direct (next task)) : Direct (.createTask t name next)
  | poll {suspension : Suspension} {message : ε → String} {isLast : Outcome ε α → Bool}
      {body : Program ε α} {next : Step (Outcome ε α) → Program ε α}
      (hbody : body.Contained) (hnext : ∀ step, Direct (next step)) :
      Direct (.poll suspension message isLast body next)

/-! ### Spans in the course of a run -/

/-- From `e` to `e'` spans have begun and ended, and no span has changed its tracer or come back. -/
structure Execution.Continues (e e' : Execution) : Prop where
  size : e.spans.size ≤ e'.spans.size
  tracer : ∀ q, q.index < e.spans.size → (e'.span q).tracer = (e.span q).tracer
  live : ∀ q, q.index < e.spans.size → e'.live q = true → e.live q = true

namespace Execution

variable {e e' e'' : Execution}

theorem Continues.refl (e : Execution) : Continues e e :=
  ⟨Nat.le_refl _, fun _ _ => rfl, fun _ _ h => h⟩

theorem Continues.trans (h : Continues e e') (h' : Continues e' e'') : Continues e e'' where
  size := h.size.trans h'.size
  tracer q hq := (h'.tracer q (hq.trans_le h.size)).trans (h.tracer q hq)
  live q hq hlive := h.live q hq (h'.live q (hq.trans_le h.size) hlive)

theorem Continues.of_outline (hsize : e.spans.size ≤ e'.spans.size)
    (houtline : ∀ q, q.index < e.spans.size → e'.outline q = e.outline q) : Continues e e' where
  size := hsize
  tracer q hq := show (e'.outline q).tracer = (e.outline q).tracer by rw [houtline q hq]
  live q hq hlive := by rwa [live_eq_outline, houtline q hq, ← live_eq_outline] at hlive

theorem Begins.continues {t : TracerRef} (h : Begins e e' t) : Continues e e' :=
  .of_outline (by rw [h.size]; exact Nat.le_succ _) h.outline

theorem Attaches.continues {position : Option Nat} {cx : Context} (h : Attaches e e' position cx) :
    Continues e e' :=
  .of_outline h.size.ge fun q _ => h.outline q

theorem Releases.continues {positions : List Nat} {ended : List SpanRef}
    (h : Releases e e' positions ended) : Continues e e' where
  size := h.size.ge
  tracer q _ := show (e'.outline q).tracer = (e.outline q).tracer by rw [h.outline]
  live q _ hlive := by
    rw [h.live, Bool.and_eq_true] at hlive
    exact hlive.1

end Execution

namespace Thread

variable {s s' : Thread}

theorem Move.continues {a : ThreadAction} (h : s.Move a s') :
    s.execution.Continues s'.execution := by
  cases h with
  | begins hb => exact hb.continues
  | opens _ hbegins hattaches =>
    have hopened := hbegins.continues.trans hattaches.continues
    exact ⟨hopened.size, hopened.tracer, hopened.live⟩
  | tags ha => exact ha.continues
  | retreats hr =>
    have hreleases := hr.releases.continues
    exact ⟨hreleases.size, hreleases.tracer, hreleases.live⟩

/-- What leaves the open spans as they are keeps them in order. -/
theorem Stacked.sameStacks (h : s.Stacked) (howns : s'.Owns)
    (hsame : s.execution.SameStacks s'.execution)
    (hcontinues : s.execution.Continues s'.execution) : s'.Stacked where
  toOwns := howns
  own o ho := by
    rw [hsame.openSpans] at ho
    obtain ⟨htracer, hlt⟩ := h.own o ho
    exact ⟨(hcontinues.tracer o.span hlt).trans htracer, hlt.trans_le hcontinues.size⟩
  order := by
    rw [hsame.openSpans]
    exact h.order

/-- What leaves the stacks as they are keeps them in agreement. -/
theorem Aligned.sameStacks (h : s.Aligned) (howns : s'.Owns)
    (hsame : s.execution.SameStacks s'.execution)
    (hcontinues : s.execution.Continues s'.execution) : s'.Aligned := by
  have hlive : ∀ l : List SpanRef, (∀ span ∈ l, span.index < s.execution.spans.size) →
      l.filter s'.execution.live = (l.filter s.execution.live).filter s'.execution.live := by
    intro l hl
    rw [List.filter_filter]
    refine List.filter_congr fun span hspan => ?_
    cases hafter : s'.execution.live span with
    | false => rfl
    | true => simp [hcontinues.live span (hl span hspan) hafter]
  constructor
  · exact h.toStacked.sameStacks howns hsame hcontinues
  · intro x hx span hspan
    rw [hsame.held] at hx
    exact (h.known x hx span hspan).trans_le hcontinues.size
  · intro x hx
    rw [hsame.held] at hx
    have hupto : s'.execution.openUpTo x.1 = s.execution.openUpTo x.1 := by
      rw [Execution.openUpTo, hsame.openSpans]
      rfl
    have hopen : ∀ span ∈ s.execution.openUpTo x.1, span.index < s.execution.spans.size := by
      intro span hspan
      obtain ⟨o, ho, rfl⟩ := List.mem_map.1 hspan
      exact (h.own o (List.mem_filter.1 ho).1).2
    rw [hupto, hlive _ (h.known x hx), hlive _ hopen, h.woven x hx]

end Thread

namespace ScopedThread

variable {s : ScopedThread}

theorem continues_step (h : s.unscoped.Owns) (a : ScopedAction) :
    s.thread.execution.Continues (s.step a).thread.execution := by
  cases a with
  | act a =>
    rcases s.unscoped_act a with hact | hact
    · have hmove := h.move a
      rw [← hact] at hmove
      exact hmove.continues
    · rw [hact]
      exact .refl _
  | enter cx => exact (Execution.attaches_attach s.thread.execution cx).continues
  | leave =>
    have hmove := h.move (.dropTags s.thread.guards.length)
    rw [← unscoped_leave] at hmove
    exact hmove.continues

/-- **No span comes back** in any run, in scopes and out of them. -/
theorem continues_run (h : s.unscoped.Owns) (actions : List ScopedAction) :
    s.thread.execution.Continues (s.run actions).thread.execution := by
  induction actions generalizing s with
  | nil => exact .refl _
  | cons a rest ih => exact (continues_step h a).trans (ih (owns_step h a))

theorem continues_program {ε α : Type} {s : Thread} {scopes : List (Option Nat)}
    (h : (⟨s, scopes⟩ : ScopedThread).unscoped.Owns) (p : Program ε α) :
    s.execution.Continues (p.run s).2.execution := by
  have hrun := continues_run h (p.actions s)
  rw [p.run_eq] at hrun
  exact hrun

/-! ### Runs in which no context is refused -/

/-- Whether no context is refused in an action. -/
def admits (s : ScopedThread) : ScopedAction → Bool
  | .act a => s.thread.admits a
  | .enter _ => s.thread.hasRoom
  | .leave => true

/-- No context is refused in a sequence of actions. -/
def Unrefused (s : ScopedThread) : List ScopedAction → Prop
  | [] => True
  | a :: rest => s.admits a = true ∧ (s.step a).Unrefused rest

instance decidableUnrefused : (s : ScopedThread) → (actions : List ScopedAction) →
    Decidable (s.Unrefused actions)
  | _, [] => .isTrue trivial
  | s, a :: rest =>
    have := decidableUnrefused (s.step a) rest
    inferInstanceAs (Decidable (_ ∧ _))

/-- Where no context is refused, no open span is without one. -/
theorem attached_step (h : s.unscoped.Owns) (ha : s.unscoped.Attached) {a : ScopedAction}
    (hadmits : s.admits a = true) : (s.step a).unscoped.Attached := by
  cases a with
  | act a =>
    rcases s.unscoped_act a with hact | hact
    · have hadmits' : s.unscoped.admits a = true := by cases a <;> exact hadmits
      rw [hact]
      exact ha.move (h.move a) hadmits'
    · rwa [hact]
  | enter cx =>
    intro o ho
    have ho : o ∈ (s.thread.execution.attach cx).2.openSpans := ho
    rw [(Execution.attaches_attach s.thread.execution cx).openSpans] at ho
    exact ha o ho
  | leave =>
    rw [unscoped_leave]
    exact ha.move (h.move _) rfl

theorem attached_run (h : s.unscoped.Owns) (ha : s.unscoped.Attached) {actions : List ScopedAction}
    (hadmits : s.Unrefused actions) : (s.run actions).unscoped.Attached := by
  induction actions generalizing s with
  | nil => exact ha
  | cons a rest ih => exact ih (owns_step h a) (attached_step h ha hadmits.1) hadmits.2

/-! ### Open spans and contexts -/

/-- Outside of all scopes, a thread is what it is without them. -/
@[simp] theorem unscoped_nil (s : Thread) : (⟨s, []⟩ : ScopedThread).unscoped = s := by
  rw [unscoped, List.append_nil]

theorem aligned_act (h : s.unscoped.Aligned) (a : ThreadAction) :
    (s.step (.act a)).unscoped.Aligned := by
  rcases s.unscoped_act a with hact | hact
  · rw [hact]
    exact h.move (h.toOwns.move a)
  · rwa [hact]

theorem aligned_acts (h : s.unscoped.Aligned) {actions : List ScopedAction}
    (hactions : ∀ a ∈ actions, ∃ b, a = .act b) : (s.run actions).unscoped.Aligned := by
  induction actions generalizing s with
  | nil => exact h
  | cons a rest ih =>
    obtain ⟨b, rfl⟩ := hactions a List.mem_cons_self
    exact ih (aligned_act h b) fun a ha => hactions a (List.mem_cons_of_mem _ ha)

/-- A scope with other tags shows the same spans. -/
theorem aligned_enter (h : s.unscoped.Aligned) (tags : TagMap) :
    (s.step (.enter (s.thread.execution.currentContext.withTags tags))).unscoped.Aligned :=
  h.attaches_same (owns_enter h.toOwns _) (Execution.attaches_attach s.thread.execution _) rfl

theorem aligned_leave (h : s.unscoped.Aligned) : (s.step .leave).unscoped.Aligned := by
  rw [unscoped_leave]
  exact h.move (h.toOwns.move _)

/-- A step of a suspended computation leaves the stacks as they are, so they agree after it. -/
theorem aligned_poll {ε α : Type} {s : Thread} {scopes : List (Option Nat)}
    (h : (⟨s, scopes⟩ : ScopedThread).unscoped.Aligned) (suspension : Suspension)
    (message : ε → String) (isLast : Outcome ε α → Bool) {body : Program ε α}
    (hbody : body.Contained) :
    (⟨(suspension.run message (stepOf isLast <$> body.run) s).2,
      scopes⟩ : ScopedThread).unscoped.Aligned := by
  -- By itself it is a contained program.
  let alone : Program ε α := .poll suspension message isLast body fun _ => .done (.crash .unknown)
  have hcontained : alone.Contained := .poll hbody fun _ => .done _
  obtain ⟨hsame, -⟩ := hcontained.sameStacks h.toOwns
  exact h.sameStacks (owns_program h.toOwns alone) hsame (continues_program h.toOwns alone)

end ScopedThread

/-- What closes a span is done on the thread itself. -/
theorem ScopedAction.act_of_mem_noteFailure (span : SpanRef) (failure : Option String) :
    ∀ a ∈ noteFailure span failure, ∃ b, a = .act b := by
  intro a ha
  cases failure with
  | none => cases ha
  | some text => exact ⟨_, List.mem_singleton.1 ha⟩

theorem ScopedAction.act_of_mem_closing (span : SpanRef) (failure : Option String)
    (last : ThreadAction) : ∀ a ∈ noteFailure span failure ++ [.act last], ∃ b, a = .act b := by
  intro a ha
  rcases List.mem_append.1 ha with ha | ha
  · exact act_of_mem_noteFailure span failure a ha
  · exact ⟨_, List.mem_singleton.1 ha⟩

/-- **Open spans and contexts agree after a direct program**, if they did before. -/
theorem Program.Direct.aligned {ε α : Type} {p : Program ε α} (hp : p.Direct) {s : Thread}
    {scopes : List (Option Nat)} (h : (⟨s, scopes⟩ : ScopedThread).unscoped.Aligned) :
    (⟨(p.run s).2, scopes⟩ : ScopedThread).unscoped.Aligned := by
  induction hp generalizing s scopes with
  | done outcome => exact h
  | look _ ih => exact ih s h
  | act a _ ih => exact ih (ScopedThread.aligned_act h a)
  | @openGuard t name next _ ih =>
    exact ih _ (ScopedThread.aligned_act h (.start t name .unspecified))
  | @dropGuard guard crashing next _ ih =>
    have hdropped := ScopedThread.aligned_acts h (ScopedAction.act_of_mem_closing guard.span
      (if crashing then some CrashReason.unknown.message else none)
      (.endOpen guard.tracer guard.span))
    rw [ScopedThread.run_append, run_noteFailure] at hdropped
    cases crashing <;> exact ih hdropped
  | @inSpan t name message body next _ _ ihBody ihNext =>
    let begun := s.execution.start t name .unspecified
    let inner := (body begun.1).run ⟨begun.2, s.guards⟩
    have hinner := ihBody begun.1 (ScopedThread.aligned_act h (.start t name .unspecified))
    have hended := ScopedThread.aligned_acts hinner
      (ScopedAction.act_of_mem_closing begun.1 (inner.1.failure? message) (.endOpen t begun.1))
    rw [ScopedThread.run_append, run_noteFailure] at hended
    exact ihNext inner.1 hended
  | @withTags tags body next _ _ ihBody ihNext =>
    exact ihNext _ (ScopedThread.aligned_leave (ihBody (ScopedThread.aligned_enter h tags)))
  | @createTask t name next _ ih =>
    exact ih _ (ScopedThread.aligned_act h
      (.startIn t s.execution.currentContext name .unspecified))
  | @poll suspension message isLast body next hbody _ ihNext =>
    exact ihNext _ (ScopedThread.aligned_poll h suspension message isLast hbody)

end Telemetry
