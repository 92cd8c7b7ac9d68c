import Telemetry.Proofs.Registry.History

/-!
# Changing a registry in place

A registry that is shared is changed map by map, and what an operation has written stays written when
the operation is refused afterwards. The operations are given here in that way, as they read and write
the maps one after the other, and `runOn_inPlace` says that each comes to the same registry and the same
answer as the operation that gives a new registry only if it is not refused. So nothing is written before
a refusal, and nothing by an operation that finds what it would add already there.
-/

namespace Telemetry

namespace Registry

/-- An operation that changes a registry in place. -/
abbrev InPlace := ExceptT StatsError (StateM Registry)

/-- The answer of an operation, and the registry it leaves, be it refused or not. -/
def InPlace.runOn {α : Type} (operation : InPlace α) (r : Registry) : Except StatsError α × Registry :=
  StateT.run (ExceptT.run operation) r

namespace InPlace

section Run

variable {α β : Type} (r : Registry)

theorem runOn_pure (a : α) : runOn (pure a) r = (.ok a, r) := rfl

theorem runOn_get_bind (next : Registry → InPlace α) : runOn (get >>= next) r = runOn (next r) r := rfl

theorem runOn_modify_bind (f : Registry → Registry) (next : Unit → InPlace α) :
    runOn (modify f >>= next) r = runOn (next ()) (f r) := rfl

/-- What follows goes on with what was written; after a refusal nothing follows. -/
theorem runOn_bind (first : InPlace β) (next : β → InPlace α) :
    runOn (first >>= next) r =
      match runOn first r with
      | (.ok b, r') => runOn (next b) r'
      | (.error e, r') => (.error e, r') := by
  unfold runOn
  rw [ExceptT.run_bind, StateT.run_bind]
  cases StateT.run (ExceptT.run first) r with
  | mk answered r' => cases answered <;> rfl

end Run

/-- Registers a measure; says whether it is new. -/
def registerMeasure (measure : Measure) : InPlace Bool := do
  match (← get).measures.get? measure.name with
  | some known => if known = measure then return false else throw (.measureConflict measure.name)
  | none =>
    modify fun r => { r with measures := r.measures.insert measure.name measure }
    return true

/-- Registers a view and before it its measure; says whether the view is new. -/
def register (view : View) (now : Timestamp) : InPlace Bool := do
  match (← get).views.get? view.name with
  | some known => if known.view = view then return false else throw (.duplicateView view.name)
  | none =>
    let _ ← registerMeasure view.measure
    modify fun r => { r with views := r.views.insert view.name ⟨view, now, .empty⟩ }
    modify fun r =>
      let measure := view.measure.name
      { r with subscribers := r.subscribers.insert measure (r.subscribersOf measure ++ [view.name]) }
    return true

/-- Removes a view from the views, and then from the list of its measure if there is one. -/
def unregister (name : String) : InPlace Bool := do
  let removed := (← get).views.get? name
  modify fun r => { r with views := r.views.erase name }
  match removed with
  | none => return false
  | some known =>
    modify fun r =>
      let measure := known.view.measure.name
      match r.subscribers.get? measure with
      | none => r
      | some names =>
        { r with subscribers := r.subscribers.insert measure (names.filter (· != name)) }
    return true

end InPlace

/-- What a request answers: whether something was registered or removed, or why not. -/
def answer (r : Registry) : RegistryRequest → Except StatsError Bool
  | .registerMeasure measure => (r.registerMeasure measure).map Prod.fst
  | .register view now => (r.register view now).map Prod.fst
  | .unregister name => .ok (r.unregister name).1
  | .record .. => .ok true

end Registry

/-- The request, carried out in place. A recording is never refused. -/
def RegistryRequest.inPlace : RegistryRequest → Registry.InPlace Bool
  | .registerMeasure measure => Registry.InPlace.registerMeasure measure
  | .register view now => Registry.InPlace.register view now
  | .unregister name => Registry.InPlace.unregister name
  | .record tags batch now attachments => do
    modify fun r => (r.record tags batch now attachments).1
    return true

namespace Registry

theorem runOn_registerMeasure (r : Registry) (measure : Measure) :
    (InPlace.registerMeasure measure).runOn r =
      (r.answer (.registerMeasure measure), r.serve (.registerMeasure measure)) := by
  rw [InPlace.registerMeasure, InPlace.runOn_get_bind, answer, serve, Registry.registerMeasure]
  cases r.measures.get? measure.name with
  | none => rfl
  | some known =>
    dsimp only
    split <;> rfl

theorem runOn_register (r : Registry) (view : View) (now : Timestamp) :
    (InPlace.register view now).runOn r =
      (r.answer (.register view now), r.serve (.register view now)) := by
  rw [InPlace.register, InPlace.runOn_get_bind, answer, serve, Registry.register]
  cases r.views.get? view.name with
  | none =>
    dsimp only
    rw [InPlace.runOn_bind, runOn_registerMeasure, answer, serve]
    cases r.registerMeasure view.measure with
    | error e => rfl
    | ok registered => rfl
  | some known =>
    dsimp only
    split <;> rfl

theorem erase_of_get?_eq_none {r : Registry} {name : String} (h : r.views.get? name = none) :
    r.views.erase name = r.views := by
  refine OrderedMap.ext fun n => ?_
  rw [OrderedMap.get?_erase]
  split
  next heq => rw [← heq, h]
  next => rfl

/-- The measure of a registered view has a list of views. -/
theorem Consistent.get?_subscribers {r : Registry} (hr : Consistent r) {name : String}
    {known : RegisteredView} (h : r.views.get? name = some known) :
    r.subscribers.get? known.view.measure.name = some (r.subscribersOf known.view.measure.name) := by
  have hmem := (hr.subscribed _ _).2 ⟨known, h, rfl⟩
  unfold subscribersOf at hmem ⊢
  cases hlist : r.subscribers.get? known.view.measure.name with
  | none =>
    rw [hlist] at hmem
    cases hmem
  | some names => rfl

theorem runOn_unregister {r : Registry} (hr : Consistent r) (name : String) :
    (InPlace.unregister name).runOn r = (r.answer (.unregister name), r.serve (.unregister name)) := by
  rw [InPlace.unregister, InPlace.runOn_get_bind, InPlace.runOn_modify_bind, answer, serve,
    Registry.unregister]
  cases hknown : r.views.get? name with
  | none =>
    dsimp only
    rw [InPlace.runOn_pure, erase_of_get?_eq_none hknown]
  | some known =>
    dsimp only
    rw [InPlace.runOn_modify_bind, InPlace.runOn_pure, hr.get?_subscribers hknown]

/-- **In place, a request comes to the same**, in what it answers and in what it leaves. -/
theorem runOn_inPlace {r : Registry} (hr : Consistent r) (request : RegistryRequest) :
    request.inPlace.runOn r = (r.answer request, r.serve request) := by
  cases request with
  | registerMeasure measure => exact runOn_registerMeasure r measure
  | register view now => exact runOn_register r view now
  | unregister name => exact runOn_unregister hr name
  | record tags batch now attachments => rfl

end Registry

end Telemetry
