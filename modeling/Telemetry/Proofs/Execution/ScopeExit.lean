import Telemetry.Proofs.Execution.Program
import Telemetry.Proofs.Execution.Parents

/-!
# What is current after a scope

A scope attaches a context, runs its body, and detaches the context again.  Whether what was current before
is current again depends on the body: it may leave spans open and guards alive, whose contexts are above
that of the scope and stay there, and it may end spans that were open before, whose contexts are below.
`Execution.inContext_run` says exactly when: the body must have `Settled` its contexts.

The positions of scopes are held like those of guards, so a thread with scopes has the invariant of one with
so many more guards (`ScopedThread.owns_run`).  While a scope is not left, contexts below it can go away but
none can come (`ScopedThread.below_run`).
-/

namespace Telemetry

/-- What is below something that is held was held before. -/
theorem Execution.Attaches.of_lt {e e' : Execution} {position : Option Nat} {cx cx' : Context}
    (h : Attaches e e' position cx) {p : Nat} (hp : (p, cx') ∈ e.contexts.held)
    {x : Nat × Context} (hx : x ∈ e'.contexts.held) (hlt : x.1 < p) : x ∈ e.contexts.held := by
  rw [h.held] at hx
  rcases List.mem_append.1 hx with hx | hx
  · obtain ⟨q, hq, rfl⟩ := List.mem_map.1 hx
    have hnew := h.new q (Option.mem_toList.1 hq) _ hp
    exact absurd hlt (Nat.lt_asymm hnew)
  · exact hx

namespace Thread

variable {s s' : Thread} {a : ThreadAction}

/-- Every move leaves each position with its owner. -/
theorem Owns.of_move (h : s.Owns) (hmove : s.Move a s') : s'.Owns := by
  cases hmove with
  | begins hb => exact h.begins hb
  | @opens t name kind e e' position hroom hbegins hattaches =>
    refine (h.begins hbegins).attaches hattaches rfl ?_
    cases position <;> simp [positions, hattaches.openSpans]
  | tags ha => exact h.guarded ha
  | retreats hr => exact h.retreats hr

/-- What is attached is above all that is held, so no move puts anything below it. -/
theorem Owns.below_of_move (h : s.Owns) (hmove : s.Move a s') {p : Nat} (hp : p ∈ s.positions)
    {x : Nat × Context} (hx : x ∈ s'.execution.contexts.held) (hlt : x.1 < p) :
    x ∈ s.execution.contexts.held := by
  obtain ⟨-, cx, hheld⟩ := h.holds p hp
  cases hmove with
  | begins hb => exact hb.contexts ▸ hx
  | opens hroom hbegins hattaches =>
    rw [← hbegins.contexts] at hheld ⊢
    exact hattaches.of_lt hheld hx hlt
  | tags ha => exact ha.of_lt hheld hx hlt
  | retreats hr => exact hr.mem_held hx

end Thread

/-! ### Scopes as guards -/

namespace ScopedThread

/-- The thread without its scopes, whose positions it holds like those of guards. -/
def unscoped (s : ScopedThread) : Thread := ⟨s.thread.execution, s.thread.guards ++ s.scopes⟩

/-- Actions do not reach the positions of scopes. -/
theorem unscoped_act (s : ScopedThread) (a : ThreadAction) :
    (s.step (.act a)).unscoped = s.unscoped.step a ∨ s.step (.act a) = s := by
  cases a with
  | dropTags index =>
    by_cases hindex : index < s.thread.guards.length
    · left
      simp only [unscoped, step, Thread.step, List.getElem?_append_left hindex,
        List.eraseIdx_append_of_lt_length hindex]
      cases s.thread.guards[index]? <;> rfl
    · right
      simp only [step, Thread.step, List.getElem?_eq_none (Nat.not_lt.1 hindex)]
  | setTags tags => exact .inl rfl
  | _ => exact .inl rfl

/-- A scope is left like its guard is dropped. -/
theorem unscoped_leave (s : ScopedThread) :
    (s.step .leave).unscoped = s.unscoped.step (.dropTags s.thread.guards.length) := by
  obtain ⟨thread, scopes⟩ := s
  cases scopes with
  | nil => simp [unscoped, step, Thread.step]
  | cons position scopes =>
    simp [unscoped, step, Thread.step, List.eraseIdx_append_of_length_le]

variable {s : ScopedThread}

theorem owns_enter (h : s.unscoped.Owns) (cx : Context) : (s.step (.enter cx)).unscoped.Owns := by
  have ha := Execution.attaches_attach s.thread.execution cx
  refine h.attaches ha rfl ?_
  show (List.filterMap _ (s.thread.execution.attach cx).2.openSpans ++
    (s.thread.guards ++ (s.thread.execution.attach cx).1 :: s.scopes).filterMap id).Perm _
  rw [ha.openSpans, List.filterMap_append]
  show List.Perm _ (_ ++ (_ ++ List.filterMap id (s.thread.guards ++ s.scopes)))
  rw [List.filterMap_append]
  cases (s.thread.execution.attach cx).1 with
  | none => exact .refl _
  | some p => exact (List.perm_middle.append_left _).trans List.perm_middle

theorem owns_step (h : s.unscoped.Owns) (a : ScopedAction) : (s.step a).unscoped.Owns := by
  cases a with
  | act a =>
    rcases s.unscoped_act a with hact | hact
    · rw [hact]
      exact h.of_move (h.move a)
    · rwa [hact]
  | enter cx => exact owns_enter h cx
  | leave =>
    rw [unscoped_leave]
    exact h.of_move (h.move _)

theorem owns_run (h : s.unscoped.Owns) (actions : List ScopedAction) :
    (s.run actions).unscoped.Owns := by
  induction actions generalizing s with
  | nil => exact h
  | cons a rest ih => exact ih (owns_step h a)

end ScopedThread

/-! ### What is below a scope -/

namespace ScopedAction

/-- A sequence of actions that leaves the scopes that it enters and no others. -/
inductive Balanced : List ScopedAction → Prop
  /-- Nothing is done. -/
  | nil : Balanced []
  /-- An action outside of the scopes. -/
  | act {a : ThreadAction} {rest : List ScopedAction} (hrest : Balanced rest) :
      Balanced (.act a :: rest)
  /-- A scope. -/
  | scope {cx : Context} {body rest : List ScopedAction} (hbody : Balanced body)
      (hrest : Balanced rest) : Balanced (.enter cx :: body ++ .leave :: rest)

theorem Balanced.append {actions actions' : List ScopedAction} (h : Balanced actions)
    (h' : Balanced actions') : Balanced (actions ++ actions') := by
  induction h with
  | nil => exact h'
  | act _ ih => exact .act ih
  | @scope cx body rest hbody _ _ ih =>
    have hscope : Balanced (.enter cx :: body ++ .leave :: (rest ++ actions')) := .scope hbody ih
    rwa [← List.cons_append, ← List.append_assoc] at hscope

theorem balanced_noteFailure (span : SpanRef) (failure : Option String) :
    Balanced (noteFailure span failure) := by
  cases failure with
  | none => exact .nil
  | some message => exact .act .nil

end ScopedAction

theorem Suspension.balanced_closing {ε α : Type} (suspension : Suspension) (message : ε → String)
    (step : Step (Outcome ε α)) : ScopedAction.Balanced (suspension.closing message step) := by
  cases step with
  | pending => exact .nil
  | done outcome =>
    cases suspension with
    | inContext cx => exact .nil
    | inSpan task => exact (ScopedAction.balanced_noteFailure _ _).append (.act .nil)

/-- A program leaves the scopes that it enters and no others. -/
theorem Program.balanced_actions {ε α : Type} (p : Program ε α) (s : Thread) :
    ScopedAction.Balanced (p.actions s) := by
  induction p generalizing s with
  | done outcome => exact .nil
  | look next ih => exact ih s s
  | act a next ih => exact .act (ih _)
  | openGuard t name next ih => exact .act (ih _ _)
  | dropGuard guard crashing next ih =>
    exact (ScopedAction.balanced_noteFailure _ _).append (.act (ih _))
  | inSpan t name message body next ihBody ihNext =>
    refine .act ((ihBody _ _).append ?_)
    exact (ScopedAction.balanced_noteFailure _ _).append (.act (ihNext _ _))
  | withTags tags body next ihBody ihNext => exact .scope (ihBody _) (ihNext _ _)
  | createTask t name next ih => exact .act (ih _ _)
  | poll suspension message isLast body next ihBody ihNext =>
    exact .scope (ihBody _) ((suspension.balanced_closing _ _).append (ihNext _ _))

namespace ScopedThread

variable {s : ScopedThread}

theorem scopes_leave {position : Option Nat} {scopes : List (Option Nat)}
    (h : s.scopes = position :: scopes) : (s.step .leave).scopes = scopes := by
  unfold step
  simp only [h]

theorem mem_positions {p : Nat} (hp : some p ∈ s.scopes) : p ∈ s.unscoped.positions :=
  List.mem_append_right _ (List.mem_filterMap.2 ⟨some p, List.mem_append_right _ hp, rfl⟩)

/-- What is below a scope that is not left was held before. -/
theorem below_step (h : s.unscoped.Owns) {p : Nat} (hp : some p ∈ s.scopes) (a : ScopedAction)
    {x : Nat × Context} (hx : x ∈ (s.step a).thread.execution.contexts.held) (hlt : x.1 < p) :
    x ∈ s.thread.execution.contexts.held := by
  cases a with
  | act a =>
    rcases s.unscoped_act a with hact | hact
    · have hmove := h.move a
      rw [← hact] at hmove
      exact h.below_of_move hmove (mem_positions hp) hx hlt
    · rwa [hact] at hx
  | enter cx =>
    obtain ⟨-, cx', hheld⟩ := h.holds p (mem_positions hp)
    exact (Execution.attaches_attach s.thread.execution cx).of_lt hheld hx hlt
  | leave =>
    have hmove := h.move (.dropTags s.thread.guards.length)
    rw [← unscoped_leave] at hmove
    exact h.below_of_move hmove (mem_positions hp) hx hlt

/-- **Below a scope that is not left, contexts can go away but none can come.** -/
theorem below_run {actions : List ScopedAction} (hactions : ScopedAction.Balanced actions)
    (h : s.unscoped.Owns) :
    (s.run actions).scopes = s.scopes ∧ ∀ p, some p ∈ s.scopes →
      ∀ x ∈ (s.run actions).thread.execution.contexts.held, x.1 < p →
        x ∈ s.thread.execution.contexts.held := by
  induction hactions generalizing s with
  | nil => exact ⟨rfl, fun _ _ _ hx _ => hx⟩
  | @act a rest _ ih =>
    obtain ⟨hscopes, hbelow⟩ := ih (owns_step h (.act a))
    refine ⟨hscopes, fun p hp x hx hlt => ?_⟩
    exact below_step h hp (.act a) (hbelow p hp x hx hlt) hlt
  | @scope cx body rest _ _ ihBody ihRest =>
    have hentered := owns_step h (.enter cx)
    have hinner := owns_run hentered body
    obtain ⟨hscopes, hbelow⟩ := ihBody hentered
    have hleft : (((s.step (.enter cx)).run body).step .leave).scopes = s.scopes :=
      scopes_leave hscopes
    obtain ⟨hscopes', hbelow'⟩ := ihRest (owns_step hinner .leave)
    rw [List.cons_append, run_cons, run_append, run_cons]
    refine ⟨hscopes'.trans hleft, fun p hp x hx hlt => ?_⟩
    have hp' : some p ∈ (s.step (.enter cx)).scopes := List.mem_cons_of_mem _ hp
    have hx₃ := hbelow' p (hleft ▸ hp) x hx hlt
    have hx₂ := below_step hinner (hscopes ▸ hp') .leave hx₃ hlt
    exact below_step h hp (.enter cx) (hbelow p hp' x hx₂ hlt) hlt

end ScopedThread

/-! ### The exit -/

namespace Execution

variable {e e' : Execution}

/-- The current context with its position: the newest of those that are held. -/
def newest (e : Execution) : Nat × Context := (e.contexts.below.size, e.currentContext)

/-- What was attached since `e` is detached again, apart from what is at `position`, and what was current
in `e` is still held. -/
def Settled (e e' : Execution) (position : Option Nat) : Prop :=
  e.newest ∈ e'.contexts.held ∧
    ∀ x ∈ e'.contexts.held, x.1 ≤ e.newest.1 ∨ position = some x.1

/-- The newest is the one above all others. -/
theorem newest_eq_of_le {x : Nat × Context} (hx : x ∈ e.contexts.held)
    (hle : ∀ y ∈ e.contexts.held, y.1 ≤ x.1) : e.newest = x := by
  have hhead : e.contexts.held = e.newest :: _ := AttachStack.held_eq_cons _
  have hnewest := hle e.newest (by rw [hhead]; exact List.mem_cons_self)
  rw [hhead] at hx
  rcases List.mem_cons.1 hx with rfl | hrest
  · rfl
  · have hpairwise := e.contexts.held_pairwise
    rw [hhead] at hpairwise
    have hlt := (List.pairwise_cons.1 hpairwise).1 x hrest
    exact absurd hnewest (Nat.not_le.2 hlt)

/-- **What was current is current again exactly if all is settled**, when what was attached at `position`
is detached. -/
theorem newest_eq_iff {after : Execution} {position : Option Nat}
    (hheld : after.contexts.held = e'.contexts.held.filter (·.1 ∉ position.toList))
    (hnew : ∀ p ∈ position, e.newest.1 < p) : after.newest = e.newest ↔ Settled e e' position := by
  have hmem : after.newest ∈ after.contexts.held := by
    have hhead : after.contexts.held = after.newest :: _ := AttachStack.held_eq_cons _
    rw [hhead]
    exact List.mem_cons_self
  constructor
  · intro heq
    rw [hheld, heq] at hmem
    refine ⟨(List.mem_filter.1 hmem).1, fun x hx => ?_⟩
    by_cases hposition : x.1 ∈ position.toList
    · exact .inr (Option.mem_toList.1 hposition)
    · -- It is still held, so it is not above the newest.
      have hafter : x ∈ after.contexts.held := by
        rw [hheld]
        exact List.mem_filter.2 ⟨hx, decide_eq_true hposition⟩
      rw [← heq]
      exact .inl (AttachStack.le_size_of_mem_held hafter)
  · rintro ⟨hcurrent, hothers⟩
    refine newest_eq_of_le ?_ fun y hy => ?_
    · rw [hheld]
      refine List.mem_filter.2 ⟨hcurrent, decide_eq_true fun hp => ?_⟩
      exact Nat.lt_irrefl _ (hnew _ (Option.mem_toList.1 hp))
    · rw [hheld] at hy
      obtain ⟨hy, hposition⟩ := List.mem_filter.1 hy
      refine (hothers y hy).resolve_right fun hp => ?_
      exact of_decide_eq_true hposition (Option.mem_toList.2 hp)

end Execution

/-- What a program in a scope leaves attached when the scope is left: what it left, without the context of
the scope, and nothing below that but what was there before. -/
theorem ScopedThread.held_exit {ε α : Type} {s : ScopedThread} (h : s.unscoped.Owns) (cx : Context)
    (body : Program ε α) :
    let attached := s.thread.execution.attach cx
    let inner := (body.run ⟨attached.2, s.thread.guards⟩).2.execution
    let after := inner.detach attached.1
    after.contexts.held = inner.contexts.held.filter (·.1 ∉ attached.1.toList) ∧
      ∀ p ∈ attached.1, ∀ x ∈ after.contexts.held, x.1 < p →
        x ∈ s.thread.execution.contexts.held := by
  intro attached inner after
  have hentered := owns_step h (.enter cx)
  -- The body runs in the scope and comes back to it.
  have hbody : (s.step (.enter cx)).run (body.actions ⟨attached.2, s.thread.guards⟩) =
      ⟨(body.run ⟨attached.2, s.thread.guards⟩).2, attached.1 :: s.scopes⟩ :=
    body.run_eq ⟨attached.2, s.thread.guards⟩ (attached.1 :: s.scopes)
  have hinner := owns_run hentered (body.actions ⟨attached.2, s.thread.guards⟩)
  obtain ⟨-, hbelow⟩ := below_run (body.balanced_actions ⟨attached.2, s.thread.guards⟩) hentered
  rw [hbody] at hinner hbelow
  have hheld : after.contexts.held = inner.contexts.held.filter (·.1 ∉ attached.1.toList) := by
    refine (Execution.releases_detach hinner.grounded fun p hp => ?_).held
    refine hinner.holds p (mem_positions ?_)
    rw [← Option.mem_def.1 hp]
    exact List.mem_cons_self
  refine ⟨hheld, fun p hp x hx hlt => ?_⟩
  rw [hheld] at hx
  have hscope : some p ∈ (s.step (.enter cx)).scopes := by
    rw [← Option.mem_def.1 hp]
    exact List.mem_cons_self
  have hx : x ∈ attached.2.contexts.held := hbelow p hscope x (List.mem_filter.1 hx).1 hlt
  have ha := Execution.attaches_attach s.thread.execution cx
  rw [ha.held] at hx
  refine (List.mem_append.1 hx).resolve_left fun hnew => ?_
  obtain ⟨q, hq, rfl⟩ := List.mem_map.1 hnew
  cases (Option.mem_toList.1 hq).symm.trans hp
  exact Nat.lt_irrefl _ hlt

namespace Execution

/-- **After a scope, what was current before is current again exactly if its body has settled**: if the
contexts that were attached in the body are detached, and what was current before is still held.  The tags
from before are then current again.  In any case the context of the scope is detached, what the body left
attached stays, and below the scope there is nothing that was not there before.

This holds for every thread, for scopes with other tags and for steps of computations that carry a context,
and however the body ends. -/
theorem inContext_run {ε α β : Type} (e : Execution) (actions : List ScopedAction) (cx : Context)
    (body : Program ε α) (f : Outcome ε α → β) :
    let s := ((ScopedThread.fresh e).run actions).thread
    let attached := s.execution.attach cx
    let inner := body.run ⟨attached.2, s.guards⟩
    let after := inContext cx (f <$> body.run) s
    let settled := Settled s.execution inner.2.execution attached.1
    after.1 = f inner.1 ∧
      after.2.execution.contexts.held =
        inner.2.execution.contexts.held.filter (·.1 ∉ attached.1.toList) ∧
      (∀ p ∈ attached.1, ∀ x ∈ after.2.execution.contexts.held, x.1 < p →
        x ∈ s.execution.contexts.held) ∧
      (after.2.execution.newest = s.execution.newest ↔ settled) ∧
      (settled → after.2.execution.currentTags = s.execution.currentTags) ∧
      (∀ tags, cx = s.execution.currentContext.withTags tags →
        withTags tags (f <$> body.run) s = after) ∧
      ∀ message isLast, (Suspension.inContext cx).run message (stepOf isLast <$> body.run) s =
        inContext cx (stepOf isLast <$> body.run) s := by
  intro s attached inner after settled
  have howns : ((ScopedThread.fresh e).run actions).unscoped.Owns :=
    ScopedThread.owns_run (s := ScopedThread.fresh e) (Thread.owns_fresh e) actions
  obtain ⟨hheld, hbelow⟩ := ScopedThread.held_exit howns cx body
  have hnewest : after.2.execution.newest = s.execution.newest ↔ settled := by
    refine newest_eq_iff hheld fun p hp => ?_
    have ha := attaches_attach s.execution cx
    exact ha.new p hp _ (Thread.mem_held_current s)
  refine ⟨rfl, hheld, hbelow, hnewest, fun h => ?_, ?_, fun _ _ => rfl⟩
  · have hcurrent := congrArg Prod.snd (hnewest.2 h)
    exact congrArg Context.currentTags hcurrent
  · rintro tags rfl
    rfl

/-- A map with one tag. -/
def oneTag : TagMap := OrderedMap.empty.insert ⟨"k", by decide⟩ ⟨"v", by decide⟩

/-- A program that leaves a span open. -/
def leavingOpen : Program Empty Unit := .act (.start ⟨0⟩ "a" .server) (.done (.value ()))

/-- A body need not settle: the context of a span that it leaves open carries the tags of the scope. -/
theorem not_forall_currentTags_withTags :
    ¬∀ (e : Execution) (actions : List ScopedAction) (tags : TagMap) (body : Program Empty Unit),
      let s := ((ScopedThread.fresh e).run actions).thread
      (withTags tags body.run s).2.execution.currentTags = s.execution.currentTags := by
  intro h
  have hsame := congrArg (·.entries.length) (h Thread.twoTracers [] oneTag leavingOpen)
  have hbefore : (Thread.fresh Thread.twoTracers).execution.currentTags.entries.length = 0 := rfl
  have hafter : (withTags oneTag leavingOpen.run
      (Thread.fresh Thread.twoTracers)).2.execution.currentTags.entries.length = 1 := by
    decide +kernel
  exact absurd (hafter.symm.trans (hsame.trans hbefore)) (by decide)

end Execution

end Telemetry
