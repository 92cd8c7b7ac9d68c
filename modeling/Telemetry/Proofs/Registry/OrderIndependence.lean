import Mathlib.Data.Option.Basic
import Telemetry.Proofs.Registry.Invariant
import Telemetry.Proofs.Registry.SampleOrder

/-!
# The order of registrations and recordings

Views are registered and then numbers are recorded.  `snapshots_agree_of_perm` says that snapshots agree
when both are done in another order and at other times: there is the same view under each name, it has
cells at the same tuples, and the cells agree as `Cell.Agrees` says.

No view is refused, because their names are distinct and equally named measures are identical, so that
the samples of each view are the recordings that it accepts, in the order in which they were made.
-/

namespace Telemetry

/-- A batch of measurements with tags and remarks, to be recorded at some time. -/
structure Recording where
  /-- The tags. -/
  tags : TagMap
  /-- The measurements. -/
  batch : List Measurement
  /-- The remarks. -/
  attachments : Attachments

/-- The requests that register views, at the given times. -/
def registrations (views : List (View × Timestamp)) : List RegistryRequest :=
  views.map fun registered => .register registered.1 registered.2

/-- The requests that make recordings, at the given times. -/
def recordings (recorded : List (Recording × Timestamp)) : List RegistryRequest :=
  recorded.map fun made => .record made.1.tags made.1.batch made.2 made.1.attachments

/-- Snapshots of the same view with the same tuples and cells that agree. -/
structure ViewData.Agrees (data data' : ViewData) : Prop where
  view : data.view = data'.view
  rows : ∀ t, Option.Rel Cell.Agrees (data.rows.get? t) (data'.rows.get? t)

/-! ### Samples -/

namespace View

/-- The numbers of a recording that belong to the cell of `v` at `t`. -/
def valuesIn (v : View) (t : TagTuple) (r : Recording) : List MeasureValue :=
  if v.tuple r.tags = t then (r.batch.filter fun m => v.Accepts m).map (·.value) else []

theorem samples_append (v : View) (t : TagTuple) (l₁ l₂ : List RegistryRequest) :
    v.samples t (l₁ ++ l₂) = v.samples t l₁ ++ v.samples t l₂ := List.flatMap_append

theorem samples_registrations (v : View) (t : TagTuple) (views : List (View × Timestamp)) :
    v.samples t (registrations views) = [] := by
  refine List.flatMap_eq_nil_iff.2 fun request hrequest => ?_
  obtain ⟨registered, -, rfl⟩ := List.mem_map.1 hrequest
  rfl

/-- The numbers that are folded come from the recordings alone, not from their times. -/
theorem values_samples_recordings (v : View) (t : TagTuple) (recorded : List (Recording × Timestamp)) :
    (v.samples t (recordings recorded)).map (·.value) =
      (recorded.map Prod.fst).flatMap (v.valuesIn t) := by
  simp only [samples, recordings, List.flatMap_map, List.map_flatMap]
  congr 1
  funext made
  by_cases ht : v.tuple made.1.tags = t <;> simp [samplesIn, valuesIn, ht]

theorem values_perm (v : View) (t : TagTuple) {recorded recorded' : List (Recording × Timestamp)}
    (h : (recorded.map Prod.fst).Perm (recorded'.map Prod.fst)) :
    ((v.samples t (recordings recorded)).map (·.value)).Perm
      ((v.samples t (recordings recorded')).map (·.value)) := by
  rw [values_samples_recordings, values_samples_recordings]
  exact h.flatMap_right _

/-- Cells agree if the same numbers are folded into them. -/
theorem agrees_fold (v : View) (t : TagTuple) {requests requests' : List RegistryRequest}
    (h : ((v.samples t requests).map (·.value)).Perm ((v.samples t requests').map (·.value))) :
    Option.Rel Cell.Agrees (v.fold none (v.samples t requests))
      (v.fold none (v.samples t requests')) := by
  have hempty : v.samples t requests = [] ↔ v.samples t requests' = [] := by
    rw [← List.length_eq_zero_iff, ← List.length_eq_zero_iff]
    simpa using (congrArg (· = 0) h.length_eq).to_iff
  rw [fold_none, fold_none]
  by_cases hl : v.samples t requests = []
  · rw [if_pos hl, if_pos (hempty.1 hl)]
    exact .none
  · rw [if_neg hl, if_neg (mt hempty.2 hl)]
    exact .some (v.agrees_foldl_addSample h (fun s hs => (Registry.of_mem_samples hs).1)
      fun s hs => (Registry.of_mem_samples hs).1)

end View

namespace Registry

/-! ### Registrations -/

/-- A view under a free name is registered, if no other measure has the name of its measure. -/
theorem register_of_free {r : Registry} {view : View} (hfree : r.views.get? view.name = none)
    (hmeasure : ¬r.HoldsOtherMeasure view.measure) (now : Timestamp) :
    ∃ r', r.register view now = .ok (true, r') := by
  rw [register, hfree]
  cases h : r.registerMeasure view.measure with
  | error e => exact absurd (registerMeasure_eq_error_iff.1 h).2 hmeasure
  | ok registered => exact ⟨registered.2.addView view now, rfl⟩

/-- A measure that is registered is an old one or the one of the registration. -/
theorem get?_measures_registerMeasure {r r' : Registry} {m known : Measure} {isNew : Bool}
    (h : r.registerMeasure m = .ok (isNew, r')) {n : String} (hknown : r'.measures.get? n = some known) :
    r.measures.get? n = some known ∨ known = m := by
  unfold registerMeasure at h
  split at h
  · split at h <;> cases h
    exact .inl hknown
  · cases h
    rw [OrderedMap.get?_insert] at hknown
    split at hknown
    · exact .inr (Option.some.inj hknown).symm
    · exact .inl hknown

/-- Every measure is that of a view. -/
theorem exists_view_of_get?_measures {views : List (View × Timestamp)} {n : String} {m : Measure}
    (h : (serveAll empty (registrations views)).measures.get? n = some m) :
    ∃ view ∈ views.map Prod.fst, view.measure = m := by
  induction views using List.reverseRecOn with
  | nil => cases h
  | append_singleton views registered ih =>
    rw [registrations, List.map_append, serveAll_append, ← registrations] at h
    have hold : (serveAll empty (registrations views)).measures.get? n = some m →
        ∃ view ∈ (views ++ [registered]).map Prod.fst, view.measure = m := by
      intro hm
      obtain ⟨view, hview, hmeasure⟩ := ih hm
      exact ⟨view, by rw [List.map_append]; exact List.mem_append_left _ hview, hmeasure⟩
    have h : ((serveAll empty (registrations views)).serve
        (.register registered.1 registered.2)).measures.get? n = some m := h
    rcases registers_view_or_not (serveAll empty (registrations views)) registered.1 registered.2 with
      ⟨-, hsame⟩ | ⟨isNew, r₁, -, hm, -, hserve⟩
    · rw [hsame] at h
      exact hold h
    · rw [hserve] at h
      rcases get?_measures_registerMeasure hm h with h | rfl
      · exact hold h
      · exact ⟨registered.1, by simp, rfl⟩

theorem mem_of_registered {views : List (View × Timestamp)} {recorded : List (Recording × Timestamp)}
    {view : View} {start : Timestamp}
    (h : .register view start ∈ registrations views ++ recordings recorded) :
    (view, start) ∈ views := by
  rcases List.mem_append.1 h with h | h
  · obtain ⟨⟨view', start'⟩, hmem, heq⟩ := List.mem_map.1 h
    obtain ⟨rfl, rfl⟩ := RegistryRequest.register.inj heq
    exact hmem
  · obtain ⟨made, -, heq⟩ := List.mem_map.1 h
    cases heq

/-! ### Runs -/

/-- The registry after views were registered and then recordings were made. -/
def afterRun (views : List (View × Timestamp)) (recorded : List (Recording × Timestamp)) : Registry :=
  serveAll empty (registrations views ++ recordings recorded)

section Run

variable {views : List (View × Timestamp)} (recorded : List (Recording × Timestamp))

/-- The views that are there have been registered. -/
theorem mem_of_isSome_get? {name : String}
    (h : ((afterRun views recorded).views.get? name).isSome) :
    ∃ view ∈ views.map Prod.fst, view.name = name := by
  obtain ⟨before, view, start, since, hsince, hname⟩ := exists_registeredSince h
  have hmem : .register view start ∈ registrations views ++ recordings recorded := by
    rw [hsince.split]
    exact List.mem_append_right _ List.mem_cons_self
  exact ⟨view, List.mem_map_of_mem (mem_of_registered hmem), hname⟩

/-- Under other names there is nothing. -/
theorem snapshot?_of_not_mem {name : String} (hname : name ∉ (views.map Prod.fst).map View.name)
    (now : Timestamp) : (afterRun views recorded).snapshot? name now = none := by
  rw [snapshot?, Option.map_eq_none_iff, ← Option.not_isSome_iff_eq_none]
  intro hsome
  obtain ⟨view, hview, rfl⟩ := mem_of_isSome_get? recorded hsome
  exact hname (List.mem_map_of_mem hview)

/-- **Every view is registered**, and what was recorded is in its cells. -/
theorem get?_views_of_mem (hnames : ((views.map Prod.fst).map View.name).Nodup)
    (hmeasures : ∀ v ∈ views.map Prod.fst, ∀ w ∈ views.map Prod.fst,
      v.measure.name = w.measure.name → v.measure = w.measure)
    {view : View} (hview : view ∈ views.map Prod.fst) :
    ∃ v, (afterRun views recorded).views.get? view.name = some v ∧ v.view = view ∧
      ∀ t, v.rows.get? t = view.fold none (view.samples t (recordings recorded)) := by
  obtain ⟨⟨view, start⟩, hmem, rfl⟩ := List.mem_map.1 hview
  obtain ⟨before, after, rfl⟩ := List.append_of_mem hmem
  have hsince : RegisteredSince
      (registrations (before ++ (view, start) :: after) ++ recordings recorded) (registrations before)
      view start (registrations after ++ recordings recorded) := by
    refine ⟨by simp [registrations], register_of_free ?_ ?_ start, ?_⟩
    · -- The views before have other names.
      rw [← Option.not_isSome_iff_eq_none]
      intro hsome
      obtain ⟨other, hother, hname⟩ :=
        mem_of_isSome_get? [] (by rwa [afterRun, recordings, List.map_nil, List.append_nil])
      simp only [List.map_append, List.map_cons] at hnames
      obtain ⟨-, -, hdisjoint⟩ := List.nodup_append.1 hnames
      exact hdisjoint _ (List.mem_map_of_mem hother) _ List.mem_cons_self hname
    · -- A measure with the same name is that of a view before, and so the same.
      rintro ⟨known, hknown, hne⟩
      have hname := name_of_get?_measures hknown
      obtain ⟨other, hother, rfl⟩ := exists_view_of_get?_measures hknown
      refine hne (hmeasures _ ?_ _ hview hname)
      simp only [List.map_append]
      exact List.mem_append_left _ hother
    · simp [registrations, recordings]
  obtain ⟨v, hv, hview, -, hrows⟩ := get?_views_of_registeredSince hsince
  refine ⟨v, hv, hview, fun t => ?_⟩
  rw [hrows, View.samples_append, View.samples_registrations, List.nil_append]

end Run

/-- **Snapshots do not depend on the order** in which views with distinct names and matching measures are
registered and recordings are made, nor on the times, but for sums of doubles, means and last values. -/
theorem snapshots_agree_of_perm {views views' : List (View × Timestamp)}
    {recorded recorded' : List (Recording × Timestamp)}
    (hviews : (views.map Prod.fst).Perm (views'.map Prod.fst))
    (hrecorded : (recorded.map Prod.fst).Perm (recorded'.map Prod.fst))
    (hnames : ((views.map Prod.fst).map View.name).Nodup)
    (hmeasures : ∀ v ∈ views.map Prod.fst, ∀ w ∈ views.map Prod.fst,
      v.measure.name = w.measure.name → v.measure = w.measure) (now now' : Timestamp) :
    (∀ view ∈ views.map Prod.fst, ∃ data data',
      (afterRun views recorded).snapshot? view.name now = some data ∧
        (afterRun views' recorded').snapshot? view.name now' = some data' ∧
        data.view = view ∧ data.Agrees data') ∧
    ∀ name ∉ (views.map Prod.fst).map View.name,
      (afterRun views recorded).snapshot? name now = none ∧
        (afterRun views' recorded').snapshot? name now' = none := by
  constructor
  · intro view hview
    obtain ⟨v, hv, rfl, hrows⟩ := get?_views_of_mem recorded hnames hmeasures hview
    obtain ⟨v', hv', hsame, hrows'⟩ := get?_views_of_mem recorded'
      ((hviews.map View.name).nodup_iff.1 hnames)
      (fun w hw w' hw' => hmeasures w (hviews.mem_iff.2 hw) w' (hviews.mem_iff.2 hw'))
      (hviews.mem_iff.1 hview)
    refine ⟨v.snapshot now, v'.snapshot now', ?_, ?_, rfl, hsame.symm, fun t => ?_⟩
    · rw [snapshot?, hv]; rfl
    · rw [snapshot?, hv']; rfl
    · show Option.Rel _ (v.rows.get? t) (v'.rows.get? t)
      rw [hrows, hrows']
      exact v.view.agrees_fold t (v.view.values_perm t hrecorded)
  · intro name hname
    exact ⟨snapshot?_of_not_mem recorded hname now,
      snapshot?_of_not_mem recorded' (mt (hviews.map View.name).mem_iff.2 hname) now'⟩

/-- A sum that leaves the range of its words and a distribution of both zeros, registered and recorded in
opposite orders. -/
theorem snapshots_agree_of_perm_swapped :
    let size : Measure := ⟨"size", "", "By", .int⟩
    let delay : Measure := ⟨"delay", "", "ms", .float⟩
    let total : View := ⟨"total", "", [], size, .sum⟩
    let delays : View := ⟨"delays", "", [], delay, .distribution ⟨#[1]⟩⟩
    let first : Recording := ⟨.empty, [⟨size, .int 9223372036854775807⟩, ⟨delay, .float 0⟩], .empty⟩
    let second : Recording := ⟨.empty, [⟨size, .int 1⟩, ⟨delay, .float (-0)⟩], .empty⟩
    let views := [(total, ⟨0⟩), (delays, ⟨1⟩)]
    let views' := [(delays, ⟨5⟩), (total, ⟨6⟩)]
    let recorded := [(first, ⟨2⟩), (second, ⟨3⟩)]
    let recorded' := [(second, ⟨7⟩), (first, ⟨8⟩)]
    (views.map Prod.fst).Perm (views'.map Prod.fst) ∧
      (recorded.map Prod.fst).Perm (recorded'.map Prod.fst) ∧
      ((views.map Prod.fst).map View.name).Nodup ∧
      (∀ v ∈ views.map Prod.fst, ∀ w ∈ views.map Prod.fst,
        v.measure.name = w.measure.name → v.measure = w.measure) ∧
      (∀ view ∈ [total, delays], ∃ data data',
        (afterRun views recorded).snapshot? view.name ⟨4⟩ = some data ∧
          (afterRun views' recorded').snapshot? view.name ⟨9⟩ = some data' ∧
          data.view = view ∧ data.Agrees data') ∧
      (((afterRun views recorded).snapshot? "total" ⟨4⟩).bind fun data => data.rows.get? []) =
        some (.sum (.int (-9223372036854775808))) := by
  intro size delay total delays first second views views' recorded recorded'
  have hviews : (views.map Prod.fst).Perm (views'.map Prod.fst) := .swap _ _ _
  have hrecorded : (recorded.map Prod.fst).Perm (recorded'.map Prod.fst) := .swap _ _ _
  have hnames : ((views.map Prod.fst).map View.name).Nodup := by
    show ["total", "delays"].Nodup
    decide
  have hmeasures : ∀ v ∈ views.map Prod.fst, ∀ w ∈ views.map Prod.fst,
      v.measure.name = w.measure.name → v.measure = w.measure := by
    simp [views, total, delays, size, delay]
  exact ⟨hviews, hrecorded, hnames, hmeasures,
    (snapshots_agree_of_perm hviews hrecorded hnames hmeasures ⟨4⟩ ⟨9⟩).1, by decide +kernel⟩

end Registry

end Telemetry
