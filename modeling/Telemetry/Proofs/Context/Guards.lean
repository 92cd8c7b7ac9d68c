import Telemetry.Execution.Basic
import Telemetry.Proofs.Context.AttachStack

/-!
# Guards of contexts

A thread attaches contexts and drops the guards that it got for them, in any order and each guard once.
`GuardedExecution.run` lets it do so: a state is an execution together with the guards that are alive,
the newest first, and a guard remembers the context that it was made for.

The invariant `Tracks` says that the attach stack holds exactly the contexts of the guards that are
alive, apart from those whose attach was refused, in the same order, above the empty context at
position 0.  It is kept by every action, and `currentContext_run` reads off what it means for the
current context and for the positions of the guards.
-/

namespace Telemetry

/-- The guard of a context that was attached. -/
structure ContextGuard where
  /-- The context. -/
  context : Context
  /-- Its position; none if it could not be attached. -/
  position : Option Nat

namespace ContextGuard

/-- The positions and contexts of the guards whose attach was not refused. -/
def accepted (guards : List ContextGuard) : List (Nat × Context) :=
  guards.filterMap fun g => g.position.map fun p => (p, g.context)

theorem mem_accepted {guards : List ContextGuard} {g : ContextGuard} {p : Nat} (hg : g ∈ guards)
    (hp : g.position = some p) : (p, g.context) ∈ accepted guards :=
  List.mem_filterMap.2 ⟨g, hg, by rw [hp, Option.map_some]⟩

/-- Without a guard whose attach was refused, the others are the same. -/
theorem accepted_eraseIdx_of_none {guards : List ContextGuard} {i : Nat} {g : ContextGuard}
    (hg : guards[i]? = some g) (hp : g.position = none) :
    accepted (guards.eraseIdx i) = accepted guards := by
  induction guards generalizing i with
  | nil => cases hg
  | cons g' rest ih =>
    cases i with
    | zero =>
      cases hg
      simp [accepted, hp]
    | succ i =>
      have ih := ih hg
      unfold accepted at ih ⊢
      rw [List.eraseIdx_cons_succ, List.filterMap_cons, List.filterMap_cons, ih]

/-- Without a guard whose attach was not refused, its position is gone. -/
theorem accepted_eraseIdx_of_some {guards : List ContextGuard} {i p : Nat} {g : ContextGuard}
    (hdec : (accepted guards).Pairwise fun x y => y.1 < x.1) (hg : guards[i]? = some g)
    (hp : g.position = some p) :
    accepted (guards.eraseIdx i) = (accepted guards).filter (·.1 ≠ p) := by
  induction guards generalizing i with
  | nil => cases hg
  | cons g' rest ih =>
    cases i with
    | zero =>
      cases hg
      have hcons : accepted (g :: rest) = (p, g.context) :: accepted rest := by
        simp [accepted, hp]
      rw [hcons] at hdec
      -- The positions of all older guards are smaller.
      have hrest : (accepted rest).filter (·.1 ≠ p) = accepted rest :=
        List.filter_eq_self.2 fun x hx => by
          have := (List.pairwise_cons.1 hdec).1 x hx
          exact decide_eq_true (Nat.ne_of_lt this)
      rw [hcons, List.filter_cons_of_neg (by simp), hrest, List.eraseIdx_cons_zero]
    | succ i =>
      have hmem : (p, g.context) ∈ accepted rest := mem_accepted (List.mem_of_getElem? hg) hp
      rw [List.eraseIdx_cons_succ]
      cases hp' : g'.position with
      | none =>
        have hcons : ∀ l, accepted (g' :: l) = accepted l := fun l => by simp [accepted, hp']
        rw [hcons] at hdec
        rw [hcons, hcons, ih hdec hg]
      | some p' =>
        have hcons : ∀ l, accepted (g' :: l) = (p', g'.context) :: accepted l := fun l => by
          simp [accepted, hp']
        rw [hcons] at hdec
        obtain ⟨hlt, hdec⟩ := List.pairwise_cons.1 hdec
        have hne : p' ≠ p := Nat.ne_of_gt (hlt _ hmem)
        rw [hcons, hcons, ih hdec hg, List.filter_cons_of_pos (by simpa using hne)]

/-- The newest guard whose attach was not refused is the first of them. -/
theorem head?_accepted (guards : List ContextGuard) :
    (accepted guards).head?.map (·.2) = (guards.find? (·.position.isSome)).map (·.context) := by
  induction guards with
  | nil => rfl
  | cons g rest ih =>
    unfold accepted at ih ⊢
    cases hp : g.position with
    | none => simpa [List.find?_cons, hp] using ih
    | some p => simp [hp]

end ContextGuard

/-! ### Attaching and detaching in an execution -/

namespace Execution

/-- An attach that is refused changes nothing, and says so. -/
theorem attach_of_none {e : Execution} {cx : Context} (h : (e.attach cx).1 = none) :
    (e.attach cx).2 = e.report (.attachRefused maxAttachPosition) := by
  unfold attach at h ⊢
  split at h
  · cases h
  · rfl

/-- An attach that is not refused is one of the attach stack. -/
theorem attach_of_some {e : Execution} {cx : Context} {p : Nat} (h : (e.attach cx).1 = some p) :
    (e.contexts.attach cx).1 = some p ∧
      (e.attach cx).2 = { e with contexts := (e.contexts.attach cx).2 } := by
  unfold attach at h ⊢
  split at h
  next position contexts heq =>
    cases h
    simp [heq]
  next => cases h

/-- There is a position left exactly below the limit. -/
theorem isSome_attach (e : Execution) (cx : Context) :
    (e.attach cx).1.isSome = decide (e.contexts.below.size + 1 < maxAttachPosition) := by
  rw [← AttachStack.isSome_attach _ cx]
  unfold attach
  split
  next h => rw [h]
  next h => rw [h]

@[simp] theorem detach_none (e : Execution) : e.detach none = e := rfl

theorem detach_of_some {e : Execution} {p : Nat} {contexts : AttachStack Context}
    (h : e.contexts.detach? p = some contexts) : e.detach (some p) = { e with contexts } := by
  unfold detach
  simp only [h]

end Execution

/-- Something that a thread does with contexts. -/
inductive ContextAction where
  /-- A context is attached. -/
  | attach (cx : Context)
  /-- One of the guards that are alive is dropped, the newest of them having index 0. -/
  | drop (index : Nat)

/-- An execution with the guards of contexts that are alive, the newest first. -/
structure GuardedExecution where
  /-- The execution. -/
  execution : Execution
  /-- The guards. -/
  guards : List ContextGuard

namespace GuardedExecution

/-- A thread on which nothing has happened. -/
def fresh (e : Execution) : GuardedExecution := ⟨e.newThread, []⟩

/-- One action. -/
def step (g : GuardedExecution) : ContextAction → GuardedExecution
  | .attach cx =>
    let (position, e) := g.execution.attach cx
    ⟨e, ⟨cx, position⟩ :: g.guards⟩
  | .drop index =>
    match g.guards[index]? with
    | some guard => ⟨g.execution.detach guard.position, g.guards.eraseIdx index⟩
    | none => g

theorem step_attach (g : GuardedExecution) (cx : Context) :
    g.step (.attach cx) =
      ⟨(g.execution.attach cx).2, ⟨cx, (g.execution.attach cx).1⟩ :: g.guards⟩ := rfl

theorem step_drop {g : GuardedExecution} {index : Nat} {guard : ContextGuard}
    (h : g.guards[index]? = some guard) :
    g.step (.drop index) = ⟨g.execution.detach guard.position, g.guards.eraseIdx index⟩ := by
  simp only [step, h]

/-- A sequence of actions. -/
def run (g : GuardedExecution) (actions : List ContextAction) : GuardedExecution :=
  actions.foldl step g

/-- The stack holds the contexts of the guards that are alive, above the empty context. -/
def Tracks (g : GuardedExecution) : Prop :=
  g.execution.contexts.held = ContextGuard.accepted g.guards ++ [(0, .empty)]

theorem tracks_fresh (e : Execution) : (fresh e).Tracks := rfl

theorem Tracks.grounded {g : GuardedExecution} (h : g.Tracks) :
    g.execution.contexts.Grounded .empty := by
  rw [AttachStack.Grounded, h]
  exact List.mem_append_right _ (List.mem_singleton_self _)

theorem Tracks.pairwise {g : GuardedExecution} (h : g.Tracks) :
    (ContextGuard.accepted g.guards).Pairwise (fun x y => y.1 < x.1) ∧
      ∀ x ∈ ContextGuard.accepted g.guards, 0 < x.1 := by
  have hdec := g.execution.contexts.held_pairwise
  rw [h] at hdec
  obtain ⟨hacc, -, hlast⟩ := List.pairwise_append.1 hdec
  constructor
  · exact hacc
  · intro x hx
    exact hlast x hx _ (List.mem_singleton_self _)

/-- The position of a guard that is alive is held. -/
theorem Tracks.mem_held {g : GuardedExecution} (h : g.Tracks) {guard : ContextGuard} {p : Nat}
    (hguard : guard ∈ g.guards) (hp : guard.position = some p) :
    (p, guard.context) ∈ g.execution.contexts.held ∧ 0 < p := by
  have hmem := ContextGuard.mem_accepted hguard hp
  rw [h]
  exact ⟨List.mem_append_left _ hmem, h.pairwise.2 _ hmem⟩

theorem Tracks.attach {g : GuardedExecution} (h : g.Tracks) (cx : Context) :
    (g.step (.attach cx)).Tracks := by
  rw [step_attach]
  cases hp : (g.execution.attach cx).1 with
  | none =>
    rw [Execution.attach_of_none hp]
    exact h
  | some p =>
    obtain ⟨hattach, he⟩ := Execution.attach_of_some hp
    rw [he]
    exact (AttachStack.held_attach cx hattach).trans (congrArg _ h)

theorem Tracks.drop {g : GuardedExecution} (h : g.Tracks) (index : Nat) :
    (g.step (.drop index)).Tracks := by
  cases hguard : g.guards[index]? with
  | none =>
    unfold step
    simp only [hguard]
    exact h
  | some guard =>
    rw [step_drop hguard, Tracks]
    cases hp : guard.position with
    | none => rw [ContextGuard.accepted_eraseIdx_of_none hguard hp, Execution.detach_none, h]
    | some p =>
      obtain ⟨hheld, hpos⟩ := h.mem_held (List.mem_of_getElem? hguard) hp
      obtain ⟨contexts, hdetach, hcontexts⟩ :=
        AttachStack.held_detach? h.grounded hheld (Nat.ne_of_gt hpos)
      rw [ContextGuard.accepted_eraseIdx_of_some h.pairwise.1 hguard hp,
        Execution.detach_of_some hdetach, hcontexts, h, List.filter_append]
      -- The empty context at position 0 stays.
      congr 1
      exact List.filter_cons_of_pos (by simpa using Nat.ne_of_lt hpos)

theorem tracks_run {g : GuardedExecution} (h : g.Tracks) (actions : List ContextAction) :
    (g.run actions).Tracks := by
  induction actions generalizing g with
  | nil => exact h
  | cons action rest ih =>
    cases action with
    | attach cx => exact ih (h.attach cx)
    | drop index => exact ih (h.drop index)

theorem Tracks.currentContext {g : GuardedExecution} (h : g.Tracks) :
    g.execution.currentContext =
      ((g.guards.find? (·.position.isSome)).map (·.context)).getD .empty := by
  have hhead := g.execution.contexts.head?_held
  rw [h] at hhead
  rw [← ContextGuard.head?_accepted]
  show g.execution.contexts.current = _
  cases hacc : ContextGuard.accepted g.guards with
  | nil =>
    rw [hacc] at hhead
    exact (Prod.mk.inj (Option.some.inj hhead)).2.symm
  | cons x rest =>
    rw [hacc] at hhead
    exact congrArg Prod.snd (Option.some.inj hhead).symm

/-- **The current context is that of the newest guard** that is alive and whose attach was not refused,
and the empty context if there is none, in whatever order guards were dropped.  A refused attach changes
nothing and neither does the drop of its guard.  The guards that are alive have positions of their own,
decreasing with age, each of them within the stack, so that detaching one never fails. -/
theorem currentContext_run (e : Execution) (actions : List ContextAction) :
    let g := (fresh e).run actions
    g.execution.currentContext =
        ((g.guards.find? (·.position.isSome)).map (·.context)).getD .empty ∧
      (∀ cx, (g.execution.attach cx).1 = none →
        g.step (.attach cx) =
          ⟨g.execution.report (.attachRefused maxAttachPosition), ⟨cx, none⟩ :: g.guards⟩) ∧
      (∀ index guard, g.guards[index]? = some guard → guard.position = none →
        g.step (.drop index) = ⟨g.execution, g.guards.eraseIdx index⟩) ∧
      (g.guards.filterMap (·.position)).Pairwise (· > ·) ∧
      ∀ guard ∈ g.guards, ∀ p, guard.position = some p →
        0 < p ∧ p ≤ g.execution.contexts.below.size ∧
          (g.execution.contexts.detach? p).isSome := by
  intro g
  have h : g.Tracks := tracks_run (tracks_fresh e) actions
  refine ⟨h.currentContext, ?_, ?_, ?_, ?_⟩
  · intro cx hcx
    rw [step_attach, Execution.attach_of_none hcx, hcx]
  · intro index guard hguard hp
    rw [step_drop hguard, hp, Execution.detach_none]
  · have hpos : g.guards.filterMap (·.position) =
        (ContextGuard.accepted g.guards).map (·.1) := by
      rw [ContextGuard.accepted, List.map_filterMap]
      congr 1
      funext guard
      cases guard.position <;> rfl
    rw [hpos]
    exact List.pairwise_map.2 h.pairwise.1
  · intro guard hguard p hp
    obtain ⟨hheld, hpos⟩ := h.mem_held hguard hp
    refine ⟨hpos, AttachStack.le_size_of_mem_held hheld, ?_⟩
    obtain ⟨contexts, hdetach, -⟩ :=
      AttachStack.held_detach? h.grounded hheld (Nat.ne_of_gt hpos)
    rw [hdetach]
    rfl

/-- A guard that is dropped out of order leaves a hole, which is passed over later. -/
example (e : Execution) (a b c : Context) :
    ((fresh e).run [.attach a, .attach b, .attach c, .drop 1, .drop 0]).execution.currentContext =
      a := by
  cbv

end GuardedExecution

end Telemetry
