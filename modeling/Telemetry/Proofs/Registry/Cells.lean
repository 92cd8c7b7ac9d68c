import Telemetry.Proofs.Registry.History

/-!
# What cells hold

`View.Fits` says that a cell is of the form that the aggregation of its view asks for and that its number
is of the kind of the measure.  A fresh cell fits, and a sample of the right kind keeps a cell fitting, so
that every cell of a registered view fits, whatever was requested: `wellFormed_of_get?_views`.
-/

namespace Telemetry

/-- A cell is of the form that the aggregation of the view asks for, and its number is of the kind of the
measure. -/
def View.Fits (v : View) : Cell → Prop
  | .count _ => v.aggregation = .count
  | .sum value => v.aggregation = .sum ∧ value.kind = v.measure.kind
  | .last value => v.aggregation = .last ∧ value.kind = v.measure.kind
  | .distribution d => v.aggregation = .distribution d.buckets

@[simp] theorem MeasureValue.kind_zero (kind : ValueKind) : (zero kind).kind = kind := by
  cases kind <;> rfl

theorem MeasureValue.kind_add {a b : MeasureValue} (h : a.kind = b.kind) : (a.add b).kind = b.kind := by
  cases a <;> cases b <;> simp_all [kind, add]

namespace View

variable {v : View}

theorem fits_newCell (v : View) : v.Fits v.newCell := by
  rw [newCell]
  cases hagg : v.aggregation <;> simp [Aggregation.newCell, Fits, hagg, Distribution.empty]

/-- **A sample of the right kind keeps a cell fitting.** -/
theorem Fits.addSample {cell : Cell} (h : v.Fits cell) {s : Sample}
    (hs : s.value.kind = v.measure.kind) : v.Fits (cell.addSample s) := by
  cases cell with
  | count n => exact h
  | sum value =>
    obtain ⟨hagg, hkind⟩ := h
    exact ⟨hagg, (MeasureValue.kind_add (hkind.trans hs.symm)).trans hs⟩
  | last value => exact ⟨h.1, hs⟩
  | distribution d => exact h

theorem Fits.foldl_addSample {cell : Cell} (h : v.Fits cell) {l : List Sample}
    (hl : ∀ s ∈ l, s.value.kind = v.measure.kind) : v.Fits (l.foldl Cell.addSample cell) := by
  induction l generalizing cell with
  | nil => exact h
  | cons s rest ih =>
    obtain ⟨hs, hrest⟩ := List.forall_mem_cons.1 hl
    exact ih (h.addSample hs) hrest

/-- The cell of a view that sums holds a number of the kind of the measure. -/
theorem Fits.eq_sum {cell : Cell} (h : v.Fits cell) (hagg : v.aggregation = .sum) :
    ∃ value, cell = .sum value ∧ value.kind = v.measure.kind := by
  cases cell with
  | sum value => exact ⟨value, rfl, h.2⟩
  | count n => rw [Fits, hagg] at h; cases h
  | last value => rw [Fits, hagg] at h; cases h.1
  | distribution d => rw [Fits, hagg] at h; cases h

theorem Fits.eq_sum_int {cell : Cell} (h : v.Fits cell) (hagg : v.aggregation = .sum)
    (hkind : v.measure.kind = .int) : ∃ a, cell = .sum (.int a) := by
  obtain ⟨value, rfl, hvalue⟩ := h.eq_sum hagg
  rw [hkind] at hvalue
  cases value with
  | int a => exact ⟨a, rfl⟩
  | float x => cases hvalue

theorem Fits.eq_sum_float {cell : Cell} (h : v.Fits cell) (hagg : v.aggregation = .sum)
    (hkind : v.measure.kind = .float) : ∃ x, cell = .sum (.float x) := by
  obtain ⟨value, rfl, hvalue⟩ := h.eq_sum hagg
  rw [hkind] at hvalue
  cases value with
  | int a => cases hvalue
  | float x => exact ⟨x, rfl⟩

/-- A cell that was not there is there with the first sample, folded from a fresh one. -/
theorem fold_none_eq_some_iff {l : List Sample} {cell : Cell} :
    v.fold none l = some cell ↔ l ≠ [] ∧ l.foldl Cell.addSample v.newCell = cell := by
  rw [fold_none]
  by_cases hl : l = [] <;> simp [hl]

/-- A cell with a sample belongs to the values of some tags. -/
theorem exists_tuple_of_mem_samples {t : TagTuple} {requests : List RegistryRequest} {s : Sample}
    (hs : s ∈ v.samples t requests) : ∃ tags, v.tuple tags = t := by
  obtain ⟨request, -, hs⟩ := List.mem_flatMap.1 hs
  cases request with
  | record tags batch now attachments =>
    by_cases ht : v.tuple tags = t
    · exact ⟨tags, ht⟩
    · rw [samplesIn, if_neg ht] at hs; cases hs
  | _ => cases hs

end View

/-- Every cell of a registered view fits and has a label for each column. -/
structure RegisteredView.WellFormed (v : RegisteredView) : Prop where
  fits : ∀ {t cell}, v.rows.get? t = some cell → v.view.Fits cell
  wide : ∀ {t cell}, v.rows.get? t = some cell → t.length = v.view.columns.length

namespace Registry

/-- **The cells of every registered view fit it**, whatever was requested. -/
theorem wellFormed_of_get?_views {requests : List RegistryRequest} {n : String} {v : RegisteredView}
    (hv : (serveAll empty requests).views.get? n = some v) : v.WellFormed := by
  obtain ⟨before, view, start, since, h, rfl⟩ :=
    exists_registeredSince (Option.isSome_iff_exists.2 ⟨v, hv⟩)
  obtain ⟨v', hv', rfl, -, hrows⟩ := get?_views_of_registeredSince h
  obtain rfl := Option.some.inj (hv.symm.trans hv')
  constructor
  · intro t cell hcell
    rw [hrows, View.fold_none_eq_some_iff] at hcell
    obtain ⟨-, rfl⟩ := hcell
    exact (View.fits_newCell _).foldl_addSample fun s hs => (of_mem_samples hs).1
  · intro t cell hcell
    rw [hrows, View.fold_none_eq_some_iff] at hcell
    obtain ⟨s, hs⟩ := List.exists_mem_of_ne_nil _ hcell.1
    obtain ⟨tags, rfl⟩ := View.exists_tuple_of_mem_samples hs
    simp [View.tuple]

end Registry

end Telemetry
