import Telemetry.Proofs.Execution.ScopeExit

/-!
# Programs made of scopes

A program that opens spans and tags in scopes only is `Contained`.  It may start spans that are never
current, end any span by itself, and look at everything.  `Program.Contained.sameStacks` says that such a
program leaves the stacks of its thread exactly as it found them, so scopes nest in each other and everything that
was current before one is current again after it.
-/

namespace Telemetry

/-- Whether an action leaves what is open and attached as it is. -/
def ThreadAction.keepsStacks : ThreadAction → Bool
  | .startIn .. | .endSpan _ | .endAt .. | .change .. | .changeCurrent .. | .wait _ => true
  | .start .. | .endNewest _ | .endOpen .. | .setTags _ | .dropTags _ => false

/-- A program that opens spans and tags in scopes only. -/
inductive Program.Contained {ε α : Type} : Program ε α → Prop
  | done (outcome : Outcome ε α) : Contained (.done outcome)
  | look {next : Thread → Program ε α} (hnext : ∀ s, Contained (next s)) : Contained (.look next)
  | act {a : ThreadAction} {next : Program ε α} (ha : a.keepsStacks = true)
      (hnext : Contained next) : Contained (.act a next)
  | inSpan {t : TracerRef} {name : String} {message : ε → String}
      {body : SpanRef → Program ε α} {next : Outcome ε α → Program ε α}
      (hbody : ∀ span, Contained (body span)) (hnext : ∀ outcome, Contained (next outcome)) :
      Contained (.inSpan t name message body next)
  | withTags {tags : TagMap} {body : Program ε α} {next : Outcome ε α → Program ε α}
      (hbody : Contained body) (hnext : ∀ outcome, Contained (next outcome)) :
      Contained (.withTags tags body next)
  | createTask {t : TracerRef} {name : String} {next : SpanTask → Program ε α}
      (hnext : ∀ task, Contained (next task)) : Contained (.createTask t name next)
  | poll {suspension : Suspension} {message : ε → String} {isLast : Outcome ε α → Bool}
      {body : Program ε α} {next : Step (Outcome ε α) → Program ε α}
      (hbody : Contained body) (hnext : ∀ step, Contained (next step)) :
      Contained (.poll suspension message isLast body next)

/-- Two executions in which the same is open and attached. -/
structure Execution.SameStacks (e e' : Execution) : Prop where
  held : e'.contexts.held = e.contexts.held
  openSpans : e'.openSpans = e.openSpans

namespace Execution

variable {e e' e'' : Execution}

theorem SameStacks.refl (e : Execution) : SameStacks e e := ⟨rfl, rfl⟩

theorem SameStacks.trans (h : SameStacks e e') (h' : SameStacks e' e'') : SameStacks e e'' :=
  ⟨h'.held.trans h.held, h'.openSpans.trans h.openSpans⟩

theorem Releases.sameStacks {ended : List SpanRef} (h : Releases e e' [] ended) :
    SameStacks e e' :=
  ⟨by rw [h.held]; simp, h.openSpans⟩

theorem SameShape.sameStacks (h : SameShape e e') : SameStacks e e' := h.releases.sameStacks

theorem sameShape_noteFailure (e : Execution) (s : SpanRef) (failure : Option String) :
    SameShape e (e.noteFailure s failure) := by
  cases failure with
  | none => exact .refl e
  | some message => exact sameShape_modifyRecord _ _ _

/-- What was attached last is detached, and nothing else was. -/
theorem Attaches.sameStacks_detach {position : Option Nat} {cx : Context}
    (ha : Attaches e e' position cx) (hinner : SameStacks e' e'')
    (hground : e''.contexts.Grounded .empty) (hheld : ∀ p ∈ position, e''.Holds p) :
    SameStacks e (e''.detach position) := by
  have hdetach := releases_detach hground hheld
  constructor
  · -- The new position is above all others.
    have hold : e.contexts.held.filter (·.1 ∉ position.toList) = e.contexts.held :=
      List.filter_eq_self.2 fun x hx => decide_eq_true fun hp =>
        Nat.lt_irrefl _ (ha.new x.1 (Option.mem_toList.1 hp) x hx)
    have hnew : (position.toList.map (·, cx)).filter (·.1 ∉ position.toList) = [] := by
      cases position <;> simp
    rw [hdetach.held, hinner.held, ha.held, List.filter_append, hnew, hold, List.nil_append]
  · rw [hdetach.openSpans, hinner.openSpans, ha.openSpans]

end Execution

/-- An action that keeps the stacks does. -/
theorem Thread.sameStacks_step (s : Thread) {a : ThreadAction} (ha : a.keepsStacks = true) :
    s.execution.SameStacks (s.step a).execution ∧ (s.step a).guards = s.guards := by
  cases a with
  | startIn t cx name kind =>
    have hbegins := Execution.begins_startIn s.execution t cx name kind
    exact ⟨⟨congrArg AttachStack.held hbegins.contexts, hbegins.openSpans⟩, rfl⟩
  | endSpan span => exact ⟨(Execution.releases_endSpan _ _).sameStacks, rfl⟩
  | endAt span time => exact ⟨(Execution.releases_endAt _ _ _).sameStacks, rfl⟩
  | change span c => exact ⟨(sameShape_change _ _ _).sameStacks, rfl⟩
  | changeCurrent t c =>
    refine ⟨?_, rfl⟩
    unfold step Execution.onCurrent
    dsimp only
    split
    · exact (sameShape_change _ _ _).sameStacks
    · exact .refl _
  | wait now => exact ⟨⟨rfl, rfl⟩, rfl⟩
  | _ => cases ha

/-- The newest open span ends, and its context is detached. -/
theorem Thread.endOpen_newest {e : Execution} {entry : OpenSpan} {older : List OpenSpan}
    (hopen : e.openSpans = entry :: older) :
    e.endOpen entry.tracer entry.span =
      (Execution.detach { e with openSpans := older } entry.position).endSpan entry.span := by
  have hsplit : e.openSpans = [] ++ entry :: older := hopen
  rw [endOpen_of_open hsplit fun _ ho => nomatch ho]
  rfl

namespace ScopedThread

/-- A program leaves each position with its owner. -/
theorem owns_program {ε α : Type} {s : Thread} {scopes : List (Option Nat)}
    (h : (⟨s, scopes⟩ : ScopedThread).unscoped.Owns) (p : Program ε α) :
    (⟨(p.run s).2, scopes⟩ : ScopedThread).unscoped.Owns := by
  rw [← p.run_eq]
  exact owns_run h _

/-- A span is opened with its context, a body keeps the stacks, and the span ends. -/
theorem sameStacks_closed {e e' : Execution} {position : Option Nat} {cx : Context}
    (ha : Execution.Attaches e e' position cx) {t : TracerRef} {span : SpanRef} {s : Thread}
    {scopes : List (Option Nat)}
    (hbody : Execution.SameStacks { e' with openSpans := ⟨t, span, position⟩ :: e'.openSpans }
      s.execution)
    (h : (⟨s, scopes⟩ : ScopedThread).unscoped.Owns) (failure : Option String) :
    e.SameStacks ((s.execution.noteFailure span failure).endOpen t span) := by
  have hnote := Execution.sameShape_noteFailure s.execution span failure
  have hopen := hnote.openSpans.trans hbody.openSpans
  have hheld : ∀ p ∈ position, s.execution.Holds p := by
    intro p hp
    refine h.holds p (List.mem_append_left _ (List.mem_filterMap.2 ⟨⟨t, span, position⟩, ?_, hp⟩))
    show _ ∈ s.execution.openSpans
    rw [hbody.openSpans]
    exact List.mem_cons_self
  have hdetach : e.SameStacks (Execution.detach
      { s.execution.noteFailure span failure with openSpans := e'.openSpans } position) := by
    refine ha.sameStacks_detach ⟨?_, rfl⟩ ?_ fun p hp => ?_
    · exact (congrArg AttachStack.held hnote.contexts).trans hbody.held
    · show (s.execution.noteFailure span failure).contexts.Grounded .empty
      rw [hnote.contexts]
      exact h.grounded
    · show p ≠ 0 ∧ ∃ cx, (p, cx) ∈ (s.execution.noteFailure span failure).contexts.held
      rw [hnote.contexts]
      exact hheld p hp
  have hend := Thread.endOpen_newest hopen
  dsimp only at hend
  rw [hend]
  exact hdetach.trans (Execution.releases_endSpan _ _).sameStacks

/-- A scope is entered, a body keeps the stacks, and the scope is left. -/
theorem sameStacks_left {s s' : Thread} {scopes : List (Option Nat)} {cx : Context}
    (hbody : (s.execution.attach cx).2.SameStacks s'.execution)
    (h : (⟨s', (s.execution.attach cx).1 :: scopes⟩ : ScopedThread).unscoped.Owns) :
    s.execution.SameStacks (s'.execution.detach (s.execution.attach cx).1) := by
  have ha := Execution.attaches_attach s.execution cx
  refine ha.sameStacks_detach hbody h.grounded fun p hp => h.holds p (mem_positions ?_)
  rw [← Option.mem_def.1 hp]
  exact List.mem_cons_self

/-- So do actions that keep them, one after the other. -/
theorem sameStacks_run (s : ScopedThread) {actions : List ScopedAction}
    (h : ∀ a ∈ actions, ∃ b : ThreadAction, b.keepsStacks = true ∧ a = .act b) :
    s.thread.execution.SameStacks (s.run actions).thread.execution ∧
      (s.run actions).thread.guards = s.thread.guards := by
  induction actions generalizing s with
  | nil => exact ⟨.refl _, rfl⟩
  | cons a rest ih =>
    obtain ⟨b, hb, rfl⟩ := h a List.mem_cons_self
    obtain ⟨hstep, hguards⟩ := s.thread.sameStacks_step hb
    obtain ⟨hrest, hguards'⟩ := ih (s.step (.act b)) fun a ha => h a (List.mem_cons_of_mem _ ha)
    exact ⟨hstep.trans hrest, hguards'.trans hguards⟩

end ScopedThread

/-- What remains to be done after a step of a suspended computation keeps the stacks. -/
theorem Suspension.keepsStacks_closing {ε α : Type} (suspension : Suspension)
    (message : ε → String) (step : Step (Outcome ε α)) :
    ∀ a ∈ suspension.closing message step,
      ∃ b : ThreadAction, b.keepsStacks = true ∧ a = .act b := by
  intro a ha
  cases step with
  | pending => cases ha
  | done outcome =>
    cases suspension with
    | inContext cx => cases ha
    | inSpan task =>
      rcases List.mem_append.1 ha with ha | ha
      · cases hfailure : outcome.failure? message with
        | none =>
          rw [hfailure] at ha
          cases ha
        | some text =>
          rw [hfailure] at ha
          exact ⟨_, rfl, List.mem_singleton.1 ha⟩
      · exact ⟨_, rfl, List.mem_singleton.1 ha⟩

/-- **A contained program leaves the stacks of its thread as it found them.** -/
theorem Program.Contained.sameStacks {ε α : Type} {p : Program ε α} (hp : p.Contained) {s : Thread}
    {scopes : List (Option Nat)} (h : (⟨s, scopes⟩ : ScopedThread).unscoped.Owns) :
    s.execution.SameStacks (p.run s).2.execution ∧ (p.run s).2.guards = s.guards := by
  induction hp generalizing s scopes with
  | done outcome => exact ⟨.refl _, rfl⟩
  | look _ ih => exact ih s h
  | @act a next ha _ ih =>
    obtain ⟨hstep, hguards⟩ := s.sameStacks_step ha
    have howns : (⟨s.step a, scopes⟩ : ScopedThread).unscoped.Owns :=
      ScopedThread.owns_step h (.act a)
    obtain ⟨hrest, hguards'⟩ := ih howns
    exact ⟨hstep.trans hrest, hguards'.trans hguards⟩
  | @inSpan t name message body next _ _ ihBody ihNext =>
    let begun := s.execution.start t name .unspecified
    let inner := (body begun.1).run ⟨begun.2, s.guards⟩
    have hstarted : (⟨⟨begun.2, s.guards⟩, scopes⟩ : ScopedThread).unscoped.Owns :=
      ScopedThread.owns_step h (.act (.start t name .unspecified))
    obtain ⟨hbody, hguards⟩ := ihBody begun.1 hstarted
    have hinner := ScopedThread.owns_program hstarted (body begun.1)
    obtain ⟨hbegins, -⟩ :=
      s.sameStacks_step (a := .startIn t s.execution.currentContext name .unspecified) rfl
    have hclosed := ScopedThread.sameStacks_closed (Execution.attaches_attach _ _) hbody hinner
      (inner.1.failure? message)
    have howns := ScopedThread.owns_run hinner
      (ScopedAction.noteFailure begun.1 (inner.1.failure? message) ++ [.act (.endOpen t begun.1)])
    rw [ScopedThread.run_append, Program.run_noteFailure] at howns
    obtain ⟨hnext, hguards'⟩ := ihNext inner.1 howns
    exact ⟨(hbegins.trans hclosed).trans hnext, hguards'.trans hguards⟩
  | @withTags tags body next _ _ ihBody ihNext =>
    have hentered : (⟨⟨(s.execution.attachTags tags).2, s.guards⟩,
        (s.execution.attachTags tags).1 :: scopes⟩ : ScopedThread).unscoped.Owns :=
      ScopedThread.owns_step h (.enter (s.execution.currentContext.withTags tags))
    obtain ⟨hbody, hguards⟩ := ihBody hentered
    have hinner := ScopedThread.owns_program hentered body
    have hleft := ScopedThread.sameStacks_left hbody hinner
    obtain ⟨hnext, hguards'⟩ := ihNext (body.run _).1 (ScopedThread.owns_step hinner .leave)
    exact ⟨hleft.trans hnext, hguards'.trans hguards⟩
  | @createTask t name next _ ih =>
    obtain ⟨hstep, -⟩ :=
      s.sameStacks_step (a := .startIn t s.execution.currentContext name .unspecified) rfl
    have howns := ScopedThread.owns_step h
      (.act (.startIn t s.execution.currentContext name .unspecified))
    obtain ⟨hnext, hguards⟩ := ih (SpanTask.create s.execution t name).1 howns
    exact ⟨hstep.trans hnext, hguards⟩
  | @poll suspension message isLast body next _ _ ihBody ihNext =>
    have hentered := ScopedThread.owns_step h (.enter suspension.context)
    obtain ⟨hbody, hguards⟩ := ihBody hentered
    have hinner := ScopedThread.owns_program hentered body
    have hleft := ScopedThread.sameStacks_left hbody hinner
    -- What the last step does after the scope keeps the stacks.
    have hclosing := Program.run_closing s scopes suspension message (stepOf isLast <$> body.run)
    obtain ⟨hclosed, hguards'⟩ := ScopedThread.sameStacks_run
      ⟨(Execution.inContext suspension.context (stepOf isLast <$> body.run) s).2, scopes⟩
      (suspension.keepsStacks_closing message
        (suspension.run message (stepOf isLast <$> body.run) s).1)
    have howns := ScopedThread.owns_run (ScopedThread.owns_step hinner .leave)
      (suspension.closing message (suspension.run message (stepOf isLast <$> body.run) s).1)
    rw [hclosing] at hclosed hguards'
    obtain ⟨hnext, hguards''⟩ := ihNext _ (hclosing ▸ howns)
    exact ⟨(hleft.trans hclosed).trans hnext, (hguards''.trans hguards').trans hguards⟩

end Telemetry
