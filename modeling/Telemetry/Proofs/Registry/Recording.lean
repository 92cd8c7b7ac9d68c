import Telemetry.Proofs.Registry.Consistency

/-!
# What a recording does to a view

`View.Accepts v m` says that the measurement `m` counts for the view `v`.  In a consistent registry one
measurement reaches every view that accepts it exactly once and no other view (`get?_views_recordOne`),
although the registry never asks the views: it looks up the measure and walks through the names of its
subscribers.  In the view it changes exactly the cell of its tag tuple (`get?_rows_record`).
-/

namespace Telemetry

/-- A measurement counts for a view if it is one of the measure of the view, and its value is a finite
number of the kind of the measure. -/
def View.Accepts (v : View) (m : Measurement) : Prop :=
  m.measure = v.measure ∧ m.value.kind = v.measure.kind ∧ m.value.isFinite = true

instance (v : View) (m : Measurement) : Decidable (v.Accepts m) :=
  inferInstanceAs (Decidable (_ ∧ _))

/-- A recorded value changes the cell of its tag tuple, which is fresh if it was not there. -/
theorem RegisteredView.get?_rows_record (v : RegisteredView) (tags : TagMap) (value : MeasureValue)
    (now : Timestamp) (attachments : Attachments) (t : TagTuple) :
    (v.record tags value now attachments).rows.get? t =
      if v.view.tuple tags = t then
        some (((v.rows.get? t).getD v.view.newCell).add value now attachments)
      else v.rows.get? t := by
  refine (OrderedMap.get?_insert _ _ _ _).trans ?_
  split
  next h => rw [h]
  next => rfl

namespace Registry

section RecordIn

variable (tags : TagMap) (value : MeasureValue) (now : Timestamp) (attachments : Attachments)

theorem get?_views_recordIn (r : Registry) (name n : String) :
    (recordIn tags value now attachments r name).views.get? n =
      if name = n then (r.views.get? n).map (·.record tags value now attachments)
      else r.views.get? n := by
  unfold recordIn
  split
  next known hknown =>
    refine (OrderedMap.get?_insert _ _ _ _).trans ?_
    split
    next h => rw [← h, hknown, Option.map_some]
    next => rfl
  next hfree =>
    split
    next h => rw [← h, hfree, Option.map_none]
    next => rfl

theorem recordIn_frame (r : Registry) (name : String) :
    (recordIn tags value now attachments r name).measures = r.measures ∧
      (recordIn tags value now attachments r name).subscribers = r.subscribers := by
  unfold recordIn
  split <;> exact ⟨rfl, rfl⟩

/-- Walking through distinct names reaches each of their views once. -/
theorem get?_views_foldl_recordIn {names : List String} (hnames : names.Nodup) (r : Registry)
    (n : String) :
    (names.foldl (recordIn tags value now attachments) r).views.get? n =
      if n ∈ names then (r.views.get? n).map (·.record tags value now attachments)
      else r.views.get? n := by
  induction names generalizing r with
  | nil => simp
  | cons name rest ih =>
    obtain ⟨hnot, hrest⟩ := List.nodup_cons.1 hnames
    rw [List.foldl_cons, ih hrest, get?_views_recordIn]
    by_cases hn : name = n
    · subst hn
      simp [hnot]
    · simp [hn, Ne.symm hn]

theorem foldl_recordIn_frame (names : List String) (r : Registry) :
    (names.foldl (recordIn tags value now attachments) r).measures = r.measures ∧
      (names.foldl (recordIn tags value now attachments) r).subscribers = r.subscribers := by
  induction names generalizing r with
  | nil => exact ⟨rfl, rfl⟩
  | cons name rest ih =>
    obtain ⟨hm, hs⟩ := ih (recordIn tags value now attachments r name)
    obtain ⟨hm', hs'⟩ := recordIn_frame tags value now attachments r name
    exact ⟨hm.trans hm', hs.trans hs'⟩

end RecordIn

theorem rejection?_eq_none {r : Registry} {m : Measurement} :
    r.rejection? m = none ↔ r.measures.get? m.measure.name = some m.measure ∧
      m.value.kind = m.measure.kind ∧ m.value.isFinite = true := by
  unfold rejection?
  cases r.measures.get? m.measure.name with
  | none => simp
  | some known =>
    by_cases hknown : known = m.measure
    · by_cases hkind : m.value.kind = m.measure.kind <;> simp [hknown, hkind]
    · simp [hknown]

section RecordOne

variable {r : Registry} (tags : TagMap) (m : Measurement) (now : Timestamp)
  (attachments : Attachments)

/-- **One measurement lands once in every view that accepts it and nowhere else.** -/
theorem get?_views_recordOne (hr : Consistent r) (n : String) :
    (r.recordOne tags m now attachments).1.views.get? n = (r.views.get? n).map fun v =>
      if v.view.Accepts m then v.record tags m.value now attachments else v := by
  unfold recordOne
  cases hreject : r.rejection? m with
  | some d =>
    -- A view that accepts the measurement has a registered measure, so nothing would be rejected.
    have hnone : ∀ v, r.views.get? n = some v → ¬ v.view.Accepts m := fun v hv hacc => by
      have hmeasured := hr.measured hv
      obtain ⟨hmeasure, hkind, hfin⟩ := hacc
      rw [← hmeasure] at hmeasured hkind
      rw [rejection?_eq_none.2 ⟨hmeasured, hkind, hfin⟩] at hreject
      cases hreject
    cases hv : r.views.get? n with
    | none => simp
    | some v => simp [hnone v hv]
  | none =>
    obtain ⟨hmeasure, hkind, hfin⟩ := rejection?_eq_none.1 hreject
    rw [get?_views_foldl_recordIn _ _ _ _ (hr.distinct _)]
    cases hv : r.views.get? n with
    | none => simp
    | some v =>
      -- Being a subscriber of the measure and accepting the measurement are the same.
      have hiff : n ∈ r.subscribersOf m.measure.name ↔ v.view.Accepts m := by
        rw [hr.subscribed, hv]
        constructor
        · rintro ⟨w, hw, hname⟩
          cases hw
          have hsame := hr.measured hv
          rw [hname, hmeasure, Option.some.injEq] at hsame
          exact ⟨hsame, hsame ▸ hkind, hfin⟩
        · rintro ⟨hsame, -, -⟩
          exact ⟨v, rfl, by rw [hsame]⟩
      by_cases hacc : v.view.Accepts m <;> simp [hiff, hacc]

theorem recordOne_frame (r : Registry) :
    (r.recordOne tags m now attachments).1.measures = r.measures ∧
      (r.recordOne tags m now attachments).1.subscribers = r.subscribers := by
  unfold recordOne
  cases r.rejection? m with
  | some d => exact ⟨rfl, rfl⟩
  | none => exact foldl_recordIn_frame _ _ _ _ _ _

theorem Consistent.recordOne (hr : Consistent r) :
    Consistent (r.recordOne tags m now attachments).1 := by
  obtain ⟨hmeasures, hsubs⟩ := recordOne_frame tags m now attachments r
  have hlist : ∀ k, (r.recordOne tags m now attachments).1.subscribersOf k = r.subscribersOf k :=
    fun k => by rw [subscribersOf, hsubs, subscribersOf]
  -- Every view after the recording is one from before with other cells.
  have hview : ∀ {n v'}, (r.recordOne tags m now attachments).1.views.get? n = some v' →
      ∃ v, r.views.get? n = some v ∧ v'.view = v.view := fun {n v'} hv' => by
    rw [get?_views_recordOne tags m now attachments hr] at hv'
    obtain ⟨v, hv, rfl⟩ := Option.map_eq_some_iff.1 hv'
    exact ⟨v, hv, by split <;> rfl⟩
  constructor
  · intro n v' hv'
    obtain ⟨v, hv, heq⟩ := hview hv'
    exact heq ▸ hr.named hv
  · intro n v' hv'
    obtain ⟨v, hv, heq⟩ := hview hv'
    rw [hmeasures, heq]
    exact hr.measured hv
  · intro k n
    rw [hlist, hr.subscribed]
    constructor
    · rintro ⟨v, hv, hm⟩
      refine ⟨_, (get?_views_recordOne tags m now attachments hr n).trans
        (congrArg (Option.map _) hv), ?_⟩
      dsimp only
      split <;> exact hm
    · rintro ⟨v', hv', hm⟩
      obtain ⟨v, hv, heq⟩ := hview hv'
      exact ⟨v, hv, heq ▸ hm⟩
  · intro k
    exact hlist k ▸ hr.distinct k

end RecordOne

/-! ### Batches -/

/-- The registry after a batch, measurement by measurement. -/
theorem fst_record_eq_foldl (r : Registry) (tags : TagMap) (batch : List Measurement)
    (now : Timestamp) (attachments : Attachments) :
    (r.record tags batch now attachments).1 =
      batch.foldl (fun r m => (r.recordOne tags m now attachments).1) r := by
  suffices ∀ acc : Registry × List Diagnostic,
      (batch.foldl (fun acc m => ((acc.1.recordOne tags m now attachments).1,
        acc.2 ++ (acc.1.recordOne tags m now attachments).2)) acc).1 =
        batch.foldl (fun r m => (r.recordOne tags m now attachments).1) acc.1 from this (r, [])
  intro acc
  induction batch generalizing acc with
  | nil => rfl
  | cons m rest ih => exact ih _

theorem Consistent.record {r : Registry} (hr : Consistent r) (tags : TagMap)
    (batch : List Measurement) (now : Timestamp) (attachments : Attachments) :
    Consistent (r.record tags batch now attachments).1 := by
  rw [fst_record_eq_foldl]
  induction batch generalizing r with
  | nil => exact hr
  | cons m rest ih => exact ih (hr.recordOne tags m now attachments)

end Registry

end Telemetry
