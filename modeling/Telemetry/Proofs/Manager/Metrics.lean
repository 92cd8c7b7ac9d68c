import Telemetry.Proofs.Manager.Calls
import Telemetry.Proofs.Registry.Cells

/-!
# Metrics of a manager

`Metric.Shows` says what the metric of a registered view is: a series for each cell, in the order of the
labels, with one point of the form that the kind of the metric announces.  The kind is computed from the
definition of the view and the point from a cell, so that it matters that every cell fits its view.

A table without an order of its own may give the views and their cells in any order.
`metricsVia_eq_metrics` says that this is not seen once they are sorted.  The main result is
`shown_serveAll`.
-/

namespace Telemetry

/-! ### Sorting -/

section Sorting

variable {α κ : Type} [Ord κ]

/-- The members of a list in the order of their keys. -/
def sortOn (key : α → κ) (l : List α) : List α :=
  l.mergeSort fun a b => (compare (key a) (key b)).isLE

theorem pairwise_sortOn [Std.TransOrd κ] (key : α → κ) (l : List α) :
    (sortOn key l).Pairwise fun a b => (compare (key a) (key b)).isLE := by
  refine List.pairwise_mergeSort (fun _ _ _ => Std.TransCmp.isLE_trans) (fun a b => ?_) l
  cases h : compare (key a) (key b) with
  | gt => simp [Std.OrientedCmp.lt_of_gt h]
  | _ => simp

/-- **There is one way to sort distinct keys**: whatever the arrangement, the result is the one in which
the keys increase. -/
theorem sortOn_of_perm [Std.TransOrd κ] [Std.LawfulEqOrd κ] {key : α → κ} {l l' : List α}
    (h : l.Perm l') (hl' : l'.Pairwise fun a b => compare (key a) (key b) = .lt) : sortOn key l = l' := by
  have hperm : (sortOn key l).Perm l' := (List.mergeSort_perm _ _).trans h
  have hnodup : (l'.map key).Nodup := by
    refine List.pairwise_map.2 (hl'.imp fun {a b} hlt heq => ?_)
    rw [heq, Std.ReflOrd.compare_self] at hlt
    cases hlt
  refine hperm.eq_of_pairwise ?_ (pairwise_sortOn key l) (hl'.imp fun hlt => by rw [hlt]; rfl)
  intro a b ha hb hab hba
  have hkey : key a = key b :=
    Std.LawfulEqCmp.eq_of_compare (Std.OrientedCmp.isLE_antisymm hab hba)
  exact List.inj_on_of_nodup_map hnodup (hperm.subset ha) hb hkey

end Sorting

/-! ### One metric -/

/-- The kind of a metric announces the form of its points. -/
def MetricKind.Announces : MetricKind → PointValue → Prop
  | .cumulativeInt, .int _ | .gaugeInt, .int _ => True
  | .cumulativeDouble, .double _ | .gaugeDouble, .double _ => True
  | .cumulativeDistribution, .distribution _ => True
  | _, _ => False

/-- **The kind that a view computes announces what its cells say.** -/
theorem View.Fits.announces {v : View} {cell : Cell} (h : v.Fits cell) :
    v.metricKind.Announces cell.pointValue := by
  rw [View.metricKind]
  cases cell with
  | count n =>
    have hagg : v.aggregation = .count := h
    simp [hagg, Cell.pointValue, MetricKind.Announces]
  | sum value =>
    obtain ⟨hagg, hkind⟩ := h
    cases value <;> simp [hagg, ← hkind, MeasureValue.kind, Cell.pointValue, MetricKind.Announces]
  | last value =>
    obtain ⟨hagg, hkind⟩ := h
    cases value <;> simp [hagg, ← hkind, MeasureValue.kind, Cell.pointValue, MetricKind.Announces]
  | distribution d =>
    have hagg : v.aggregation = .distribution d.buckets := h
    simp [hagg, Cell.pointValue, MetricKind.Announces]

/-- The series for a cell of a snapshot. -/
def ViewData.seriesOf (data : ViewData) (row : TagTuple × Cell) : TimeSeries where
  labels := row.1
  points := [⟨data.endTime, row.2.pointValue⟩]
  startTime := if data.view.metricKind.isCumulative then some data.startTime else none

theorem ViewData.series_toMetric (data : ViewData) :
    data.toMetric.series = data.rows.entries.map data.seriesOf := rfl

/-- What a series of a metric is for the cell with its labels. -/
structure TimeSeries.Shows (s : TimeSeries) (kind : MetricKind) (cell : Cell) (start now : Timestamp) :
    Prop where
  points : s.points = [⟨now, cell.pointValue⟩]
  announced : kind.Announces cell.pointValue
  startTime : s.startTime = if kind = .gaugeInt ∨ kind = .gaugeDouble then none else some start

/-- What the metric of a registered view is at the moment `now`. -/
structure Metric.Shows (metric : Metric) (v : RegisteredView) (now : Timestamp) : Prop where
  name : metric.name = v.view.name
  kind : metric.kind = v.view.metricKind
  labelKeys : metric.labelKeys = v.view.columns
  /-- There is a series for each cell. -/
  labels : ∀ t, t ∈ metric.series.map (·.labels) ↔ (v.rows.get? t).isSome
  /-- It is the only one, and the series are in the order of the labels. -/
  ordered : metric.series.Pairwise fun s s' => compare s.labels s'.labels = .lt
  series : ∀ s ∈ metric.series, s.labels.length = metric.labelKeys.length ∧
    ∃ cell, v.rows.get? s.labels = some cell ∧ s.Shows metric.kind cell v.startTime now

theorem isCumulative_iff (kind : MetricKind) :
    kind.isCumulative = true ↔ ¬(kind = .gaugeInt ∨ kind = .gaugeDouble) := by
  cases kind <;> simp [MetricKind.isCumulative]

theorem RegisteredView.WellFormed.shows {v : RegisteredView} (hv : v.WellFormed) (now : Timestamp) :
    (v.snapshot now).toMetric.Shows v now where
  name := rfl
  kind := rfl
  labelKeys := rfl
  labels t := by
    rw [ViewData.series_toMetric, List.map_map]
    show t ∈ v.rows.entries.map Prod.fst ↔ _
    simp only [List.mem_map, Prod.exists, exists_and_right, exists_eq_right,
      ← OrderedMap.get?_eq_some_iff, Option.isSome_iff_exists]
  ordered := List.pairwise_map.2 v.rows.sorted
  series := by
    rw [ViewData.series_toMetric, List.forall_mem_map]
    rintro ⟨t, cell⟩ hmem
    have hcell := OrderedMap.get?_eq_some_iff.2 hmem
    refine ⟨hv.wide hcell, cell, hcell, rfl, (hv.fits hcell).announces, ?_⟩
    show (if v.view.metricKind.isCumulative then _ else _) = _
    simp only [isCumulative_iff, ite_not]
    rfl

namespace ViewManager

/-- A registered view of a manager that started empty is well-formed. -/
theorem wellFormed_of_get?_views {calls : List ManagerCall} {n : String} {v : RegisteredView}
    (hv : (empty.serveAll calls).registry.views.get? n = some v) : v.WellFormed := by
  rw [registry_serveAll] at hv
  exact Registry.wellFormed_of_get?_views hv

/-! ### Orders that are not seen -/

/-- The metrics if the views are met in some order and their cells in some order, and are sorted then. -/
def metricsVia (now : Timestamp) (views : List RegisteredView)
    (cells : RegisteredView → List (TagTuple × Cell)) : List Metric :=
  (sortOn (fun v => v.view.name) views).map fun v =>
    { (v.snapshot now).toMetric with
      series := (sortOn Prod.fst (cells v)).map (v.snapshot now).seriesOf }

/-- **The order in which views and cells are met is not seen.** -/
theorem metricsVia_eq_metrics {m : ViewManager} (hm : Registry.Consistent m.registry) (now : Timestamp)
    {views : List RegisteredView} (hviews : views.Perm m.registry.views.values)
    {cells : RegisteredView → List (TagTuple × Cell)}
    (hcells : ∀ v ∈ views, (cells v).Perm v.rows.entries) :
    metricsVia now views cells = m.metrics now := by
  have hsorted : sortOn (fun v => v.view.name) views = m.registry.views.values :=
    sortOn_of_perm hviews hm.pairwise_names
  rw [metricsVia, hsorted, metrics, Registry.snapshots, List.map_map]
  refine List.map_congr_left fun v hv => ?_
  rw [sortOn_of_perm (hcells v (hviews.mem_iff.2 hv)) v.rows.sorted]
  rfl

/-! ### All metrics -/

/-- What the metrics of a manager are at the moment `now`. -/
structure Shown (m : ViewManager) (now : Timestamp) (metrics : List Metric) : Prop where
  /-- Each metric is that of a registered view. -/
  registered : ∀ metric ∈ metrics, ∃ n v, m.registry.views.get? n = some v ∧ metric.Shows v now
  /-- Each registered view has a metric, which has its name. -/
  complete : ∀ {n v}, m.registry.views.get? n = some v →
    ∃ metric ∈ metrics, metric.name = n ∧ metric.Shows v now
  /-- No two have the same name, and they are in the order of the names. -/
  ordered : metrics.Pairwise fun a b => compare a.name b.name = .lt
  /-- They do not depend on the order in which the views and their cells are met. -/
  arranged : ∀ views cells, views.Perm m.registry.views.values →
    (∀ v ∈ views, (cells v).Perm v.rows.entries) → metricsVia now views cells = metrics
  /-- A sum of whole numbers stays one, as long as its view is registered. -/
  whole : ∀ {n v t a}, m.registry.views.get? n = some v → v.rows.get? t = some (.sum (.int a)) →
    ∀ more, .request (.unregister n) ∉ more → ∃ v' a',
      (m.serveAll more).registry.views.get? n = some v' ∧ v'.rows.get? t = some (.sum (.int a'))

/-- A sum of whole numbers stays one. -/
theorem sum_int_serveAll {calls : List ManagerCall} {n : String} {v : RegisteredView} {t : TagTuple}
    {a : Int64} (hv : (empty.serveAll calls).registry.views.get? n = some v)
    (hcell : v.rows.get? t = some (.sum (.int a))) {more : List ManagerCall}
    (hkept : .request (.unregister n) ∉ more) :
    ∃ v' a', ((empty.serveAll calls).serveAll more).registry.views.get? n = some v' ∧
      v'.rows.get? t = some (.sum (.int a')) := by
  obtain ⟨v', hv', hcontinues⟩ :=
    Registry.continues_serveAll (consistent_serveAll calls) hv (not_mem_requestsIn hkept)
  rw [← registry_serveAll, ← serveAll_append] at hv'
  -- The new cell fits the same view, which sums whole numbers.
  obtain ⟨hagg, hkind⟩ := (wellFormed_of_get?_views hv).fits hcell
  have hrow := hcontinues.rows t
  rw [hcell, View.fold_some] at hrow
  have hfits := (wellFormed_of_get?_views hv').fits hrow
  rw [hcontinues.view] at hfits
  obtain ⟨a', ha'⟩ := hfits.eq_sum_int hagg hkind.symm
  rw [serveAll_append] at hv'
  exact ⟨v', a', hv', hrow.trans (congrArg some ha')⟩

/-- **The metrics of a manager** show its registered views, each in the form that it announces, whatever
was asked of the manager before. -/
theorem shown_serveAll (calls : List ManagerCall) (now : Timestamp) :
    Shown (empty.serveAll calls) now ((empty.serveAll calls).metrics now) := by
  have hr := consistent_serveAll calls
  have hmetrics : (empty.serveAll calls).metrics now =
      (empty.serveAll calls).registry.views.values.map fun v => (v.snapshot now).toMetric := by
    rw [metrics, Registry.snapshots, List.map_map]
    rfl
  constructor
  · intro metric hmem
    rw [hmetrics] at hmem
    obtain ⟨v, hv, rfl⟩ := List.mem_map.1 hmem
    obtain ⟨n, hv⟩ := OrderedMap.mem_values_iff.1 hv
    exact ⟨n, v, hv, (wellFormed_of_get?_views hv).shows now⟩
  · intro n v hv
    refine ⟨_, ?_, hr.named hv, (wellFormed_of_get?_views hv).shows now⟩
    rw [hmetrics]
    exact List.mem_map_of_mem (OrderedMap.mem_values_iff.2 ⟨n, hv⟩)
  · rw [hmetrics]
    exact List.pairwise_map.2 hr.pairwise_names
  · intro views cells hviews hcells
    exact metricsVia_eq_metrics hr now hviews hcells
  · intro n v t a hv hcell more hkept
    exact sum_int_serveAll hv hcell hkept

end ViewManager

end Telemetry
