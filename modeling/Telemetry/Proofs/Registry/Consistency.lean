import Mathlib.Tactic
import Telemetry.Proofs.OrderedMap
import Telemetry.Stats.Registry

/-!
# Consistent registries

The registry keeps three maps: the measures, the views with their cells, and for each measure the
names of its views.  `Consistent` says in which sense they belong together:

* a view is stored under its own name;
* the measure of a view is the one that is registered under the name of that measure;
* the subscribers of a measure are exactly the registered views of it, each listed once.

The registry that knows nothing is consistent, and every operation keeps it so.  Beside that, each
operation has a lemma that says what it does to the view that is stored under a given name; these
lemmas are all that later modules use.
-/

namespace Telemetry
namespace Registry

/-- The three maps of a registry belong together. -/
structure Consistent (r : Registry) : Prop where
  /-- A view is stored under its own name. -/
  named : ∀ {n v}, r.views.get? n = some v → v.view.name = n
  /-- The measure of a view is registered. -/
  measured : ∀ {n v}, r.views.get? n = some v →
    r.measures.get? v.view.measure.name = some v.view.measure
  /-- The subscribers of a measure are its views. -/
  subscribed : ∀ m n, n ∈ r.subscribersOf m ↔
    ∃ v, r.views.get? n = some v ∧ v.view.measure.name = m
  /-- No view is listed twice. -/
  distinct : ∀ m, (r.subscribersOf m).Nodup

/-- The views are in the order of their names. -/
theorem Consistent.pairwise_names {r : Registry} (hr : Consistent r) :
    r.views.values.Pairwise fun v v' => compare v.view.name v'.view.name = .lt :=
  OrderedMap.pairwise_values (fun v : RegisteredView => v.view.name) hr.named

theorem consistent_empty : Consistent empty where
  named h := by simp [empty] at h
  measured h := by simp [empty] at h
  subscribed m n := by simp [empty, subscribersOf]
  distinct m := by simp [empty, subscribersOf]

theorem subscribersOf_insert (r : Registry) (m k : String) (names : List String) :
    subscribersOf { r with subscribers := r.subscribers.insert m names } k =
      if m = k then names else r.subscribersOf k := by
  simp only [subscribersOf, OrderedMap.get?_insert]
  split <;> rfl

/-! ### Registering -/

/-- A registered measure stays, and the new one is registered. -/
theorem registerMeasure_ok {r r' : Registry} {m : Measure} {isNew : Bool}
    (h : r.registerMeasure m = .ok (isNew, r')) :
    r'.views = r.views ∧ r'.subscribers = r.subscribers ∧ r'.measures.get? m.name = some m ∧
      ∀ {n known}, r.measures.get? n = some known → r'.measures.get? n = some known := by
  unfold registerMeasure at h
  split at h
  next known hknown =>
    split at h
    next heq =>
      cases h
      exact ⟨rfl, rfl, heq ▸ hknown, id⟩
    next => cases h
  next hfree =>
    cases h
    refine ⟨rfl, rfl, OrderedMap.get?_insert_self _ _ _, fun {n known} hn => ?_⟩
    have hne : m.name ≠ n := by
      rintro rfl
      rw [hfree] at hn
      cases hn
    simpa only [OrderedMap.get?_insert_of_ne hne] using hn

theorem Consistent.registerMeasure {r r' : Registry} {m : Measure} {isNew : Bool}
    (hr : Consistent r) (h : r.registerMeasure m = .ok (isNew, r')) : Consistent r' := by
  obtain ⟨hviews, hsubs, -, hkeep⟩ := registerMeasure_ok h
  have hlist : ∀ k, r'.subscribersOf k = r.subscribersOf k := fun k => by
    rw [subscribersOf, hsubs, subscribersOf]
  constructor
  · intro n v hv
    exact hr.named (hviews ▸ hv)
  · intro n v hv
    exact hkeep (hr.measured (hviews ▸ hv))
  · intro k n
    rw [hlist, hviews]
    exact hr.subscribed k n
  · intro k
    exact hlist k ▸ hr.distinct k

/-- What a registration does: the name of the view was free, its measure was registered first, and the
view was added without cells. -/
theorem register_true {r r' : Registry} {v : View} {now : Timestamp}
    (h : r.register v now = .ok (true, r')) :
    r.views.get? v.name = none ∧
      ∃ isNew r₁, r.registerMeasure v.measure = .ok (isNew, r₁) ∧ r' = r₁.addView v now := by
  unfold register at h
  split at h
  next known _ => split at h <;> cases h
  next hfree =>
    refine ⟨hfree, ?_⟩
    cases hm : r.registerMeasure v.measure with
    | error e =>
      rw [hm] at h
      cases h
    | ok p =>
      obtain ⟨isNew, r₁⟩ := p
      rw [hm] at h
      cases h
      exact ⟨isNew, r₁, rfl, rfl⟩

theorem register_false {r r' : Registry} {v : View} {now : Timestamp}
    (h : r.register v now = .ok (false, r')) : r' = r := by
  unfold register at h
  split at h
  next known _ =>
    split at h
    · cases h
      rfl
    · cases h
  next =>
    cases hm : r.registerMeasure v.measure with
    | error e =>
      rw [hm] at h
      cases h
    | ok p =>
      rw [hm] at h
      cases h

theorem get?_views_addView (r : Registry) (v : View) (now : Timestamp) (n : String) :
    (r.addView v now).views.get? n =
      if v.name = n then some ⟨v, now, .empty⟩ else r.views.get? n :=
  OrderedMap.get?_insert _ _ _ _

theorem subscribersOf_addView (r : Registry) (v : View) (now : Timestamp) (m : String) :
    (r.addView v now).subscribersOf m =
      if v.measure.name = m then r.subscribersOf v.measure.name ++ [v.name]
      else r.subscribersOf m :=
  subscribersOf_insert { r with views := _ } _ _ _

/-- A view may be added under a free name if its measure is registered. -/
theorem Consistent.addView {r : Registry} {v : View} {now : Timestamp} (hr : Consistent r)
    (hfree : r.views.get? v.name = none)
    (hmeasure : r.measures.get? v.measure.name = some v.measure) :
    Consistent (r.addView v now) := by
  -- No list has the free name yet, so that adding it keeps the names distinct.
  have hnot : ∀ m, v.name ∉ r.subscribersOf m := fun m hmem => by
    obtain ⟨known, hknown, -⟩ := (hr.subscribed m _).1 hmem
    rw [hfree] at hknown
    cases hknown
  constructor
  · intro n known hv
    rw [get?_views_addView] at hv
    split at hv
    next heq =>
      cases hv
      exact heq
    next => exact hr.named hv
  · intro n known hv
    rw [get?_views_addView] at hv
    split at hv
    next =>
      cases hv
      exact hmeasure
    next => exact hr.measured hv
  · intro m n
    rw [subscribersOf_addView, get?_views_addView]
    by_cases hn : v.name = n
    · subst hn
      by_cases hm : v.measure.name = m
      · simp [hm]
      · simp [hm, hnot m]
    · by_cases hm : v.measure.name = m
      · subst hm
        simp [hn, Ne.symm hn, hr.subscribed]
      · simp [hn, hm, hr.subscribed]
  · intro m
    rw [subscribersOf_addView]
    split
    next =>
      refine List.nodup_append.2 ⟨hr.distinct _, List.nodup_singleton _, ?_⟩
      intro a ha b hb hab
      obtain rfl := List.mem_singleton.1 hb
      exact hnot _ (hab ▸ ha)
    next => exact hr.distinct m

theorem Consistent.register {r r' : Registry} {v : View} {now : Timestamp} {isNew : Bool}
    (hr : Consistent r) (h : r.register v now = .ok (isNew, r')) : Consistent r' := by
  cases isNew with
  | false => exact register_false h ▸ hr
  | true =>
    obtain ⟨hfree, _, r₁, hm, rfl⟩ := register_true h
    obtain ⟨hviews, -, hmeasure, -⟩ := registerMeasure_ok hm
    exact (hr.registerMeasure hm).addView (hviews ▸ hfree) hmeasure

/-! ### Removing -/

theorem get?_views_unregister (r : Registry) (name n : String) :
    (r.unregister name).2.views.get? n = if name = n then none else r.views.get? n := by
  unfold unregister
  split
  next hfree =>
    split
    next heq => rw [← heq, hfree]
    next => rfl
  next => exact OrderedMap.get?_erase _ _ _

theorem subscribersOf_unregister {r : Registry} (hr : Consistent r) (name m : String) :
    (r.unregister name).2.subscribersOf m = (r.subscribersOf m).filter (· != name) := by
  -- A list from which nothing is taken does not hold the name.
  have hsame : (∀ v, r.views.get? name = some v → v.view.measure.name ≠ m) →
      (r.subscribersOf m).filter (· != name) = r.subscribersOf m := fun hne => by
    refine List.filter_eq_self.2 fun n hn => ?_
    obtain ⟨v, hv, hm⟩ := (hr.subscribed m n).1 hn
    simp only [bne_iff_ne]
    rintro rfl
    exact hne v hv hm
  unfold unregister
  split
  next hfree => exact (hsame fun v hv => by rw [hfree] at hv; cases hv).symm
  next known hknown =>
    refine (subscribersOf_insert { r with views := _ } _ _ _).trans ?_
    split
    next heq => rw [heq]
    next hne =>
      refine (hsame fun v hv => ?_).symm
      rw [hknown] at hv
      cases hv
      exact hne

theorem measures_unregister (r : Registry) (name : String) :
    (r.unregister name).2.measures = r.measures := by
  unfold unregister
  split <;> rfl

theorem Consistent.unregister {r : Registry} (hr : Consistent r) (name : String) :
    Consistent (r.unregister name).2 := by
  constructor
  · intro n v hv
    rw [get?_views_unregister] at hv
    split at hv
    · cases hv
    · exact hr.named hv
  · intro n v hv
    rw [get?_views_unregister] at hv
    rw [measures_unregister]
    split at hv
    · cases hv
    · exact hr.measured hv
  · intro m n
    rw [subscribersOf_unregister hr, get?_views_unregister]
    by_cases hn : name = n
    · simp [hn]
    · simp [hn, Ne.symm hn, hr.subscribed]
  · intro m
    rw [subscribersOf_unregister hr]
    exact (hr.distinct m).filter _

end Registry

end Telemetry
