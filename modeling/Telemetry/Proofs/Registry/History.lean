import Telemetry.Proofs.Registry.Recording

/-!
# What a snapshot says about the past

A registry that started empty is determined by the requests it has served.  For a view that is
registered now, only those after its current registration matter (`RegisteredSince`), and of these only
the recordings: a measurement in one of them is a sample of the cell at `t` if the view accepts it and
the tags of the recording have the values `t` in the columns of the view.

`snapshot?_serveAll` says that a snapshot exists exactly for the registered names, and that its cell at
`t` is a fresh cell into which the samples of `t` were folded in order, each of them once; without a
sample there is no cell.
-/

namespace Telemetry

/-- A request to a registry. -/
inductive RegistryRequest where
  /-- A measure is registered. -/
  | registerMeasure (measure : Measure)
  /-- A view is registered, and its measure with it. -/
  | register (view : View) (now : Timestamp)
  /-- A view is removed. -/
  | unregister (name : String)
  /-- A batch of measurements is recorded. -/
  | record (tags : TagMap) (batch : List Measurement) (now : Timestamp) (attachments : Attachments)

/-- A number that was folded into a cell, with the time and the remarks of its recording. -/
structure Sample where
  /-- The number. -/
  value : MeasureValue
  /-- When it was recorded. -/
  time : Timestamp
  /-- The remarks. -/
  attachments : Attachments

/-- Folds a sample into a cell. -/
def Cell.addSample (cell : Cell) (s : Sample) : Cell := cell.add s.value s.time s.attachments

namespace View

/-- The samples in one request of the cell of `v` at `t`. -/
def samplesIn (v : View) (t : TagTuple) : RegistryRequest → List Sample
  | .record tags batch now attachments =>
    if v.tuple tags = t then
      (batch.filter fun m => v.Accepts m).map fun m => ⟨m.value, now, attachments⟩
    else []
  | _ => []

/-- The samples of the cell of `v` at `t`, in order. -/
def samples (v : View) (t : TagTuple) (requests : List RegistryRequest) : List Sample :=
  requests.flatMap (v.samplesIn t)

/-- Folds samples into the cell of a view, if there is one, or else into a fresh one. -/
def fold (v : View) (cell : Option Cell) (l : List Sample) : Option Cell :=
  l.foldl (fun cell s => some ((cell.getD v.newCell).addSample s)) cell

theorem fold_append (v : View) (cell : Option Cell) (l₁ l₂ : List Sample) :
    v.fold cell (l₁ ++ l₂) = v.fold (v.fold cell l₁) l₂ :=
  List.foldl_append

/-- Folding into a cell that is there. -/
theorem fold_some (v : View) (cell : Cell) (l : List Sample) :
    v.fold (some cell) l = some (l.foldl Cell.addSample cell) := by
  induction l generalizing cell with
  | nil => rfl
  | cons s rest ih => exact ih _

/-- Folding where there is no cell makes one with the first sample. -/
theorem fold_none (v : View) (l : List Sample) :
    v.fold none l = if l = [] then none else some (l.foldl Cell.addSample v.newCell) := by
  cases l with
  | nil => rfl
  | cons s rest => exact fold_some v _ rest

end View

/-! ### One request -/

/-- `v'` is the registered view `v` after the given samples were folded into its cells. -/
structure RegisteredView.Continues (v v' : RegisteredView) (samples : TagTuple → List Sample) :
    Prop where
  view : v'.view = v.view
  startTime : v'.startTime = v.startTime
  rows : ∀ t, v'.rows.get? t = v.view.fold (v.rows.get? t) (samples t)

namespace RegisteredView.Continues

theorem refl (v : RegisteredView) : v.Continues v fun _ => [] := ⟨rfl, rfl, fun _ => rfl⟩

theorem trans {v₁ v₂ v₃ : RegisteredView} {l₁ l₂ l : TagTuple → List Sample}
    (h₁ : v₁.Continues v₂ l₁) (h₂ : v₂.Continues v₃ l₂) (hl : ∀ t, l t = l₁ t ++ l₂ t) :
    v₁.Continues v₃ l where
  view := h₂.view.trans h₁.view
  startTime := h₂.startTime.trans h₁.startTime
  rows t := by rw [hl, View.fold_append, ← h₁.rows, h₂.rows, h₁.view]

end RegisteredView.Continues

namespace Registry

/-- The registry after an operation that may be refused; one that is refused changes nothing. -/
def outcome (r : Registry) : Except StatsError (Bool × Registry) → Registry
  | .ok (_, r') => r'
  | .error _ => r

/-- The registry after a request. -/
def serve (r : Registry) : RegistryRequest → Registry
  | .registerMeasure measure => r.outcome (r.registerMeasure measure)
  | .register view now => r.outcome (r.register view now)
  | .unregister name => (r.unregister name).2
  | .record tags batch now attachments => (r.record tags batch now attachments).1

/-- The registry after a sequence of requests. -/
def serveAll (r : Registry) (requests : List RegistryRequest) : Registry := requests.foldl serve r

theorem serveAll_append (r : Registry) (l₁ l₂ : List RegistryRequest) :
    r.serveAll (l₁ ++ l₂) = (r.serveAll l₁).serveAll l₂ :=
  List.foldl_append

theorem Consistent.serve {r : Registry} (hr : Consistent r) (request : RegistryRequest) :
    Consistent (r.serve request) := by
  cases request with
  | registerMeasure measure =>
    simp only [Registry.serve]
    cases h : r.registerMeasure measure with
    | error e => exact hr
    | ok p => exact hr.registerMeasure h
  | register view now =>
    simp only [Registry.serve]
    cases h : r.register view now with
    | error e => exact hr
    | ok p => exact hr.register h
  | unregister name => exact hr.unregister name
  | record tags batch now attachments => exact hr.record tags batch now attachments

theorem Consistent.serveAll {r : Registry} (hr : Consistent r) (requests : List RegistryRequest) :
    Consistent (r.serveAll requests) := by
  induction requests generalizing r with
  | nil => exact hr
  | cons request rest ih => exact ih (hr.serve request)

/-- One measurement of a batch, seen from a registered view. -/
theorem continues_recordOne {r : Registry} (hr : Consistent r) {n : String} {v : RegisteredView}
    (hv : r.views.get? n = some v) (tags : TagMap) (m : Measurement) (now : Timestamp)
    (attachments : Attachments) :
    ∃ v', (r.recordOne tags m now attachments).1.views.get? n = some v' ∧
      v.Continues v' fun t => v.view.samplesIn t (.record tags [m] now attachments) := by
  refine ⟨_, (get?_views_recordOne tags m now attachments hr n).trans
    (congrArg (Option.map _) hv), ?_⟩
  by_cases hacc : v.view.Accepts m
  · simp only [hacc, if_true]
    refine ⟨rfl, rfl, ?_⟩
    intro t
    rw [RegisteredView.get?_rows_record]
    by_cases ht : v.view.tuple tags = t
    · simp [View.samplesIn, ht, hacc, View.fold, Cell.addSample]
    · simp [View.samplesIn, ht, View.fold]
  · simp only [hacc, if_false]
    refine ⟨rfl, rfl, ?_⟩
    intro t
    simp [View.samplesIn, hacc, View.fold]

theorem samplesIn_record_cons (v : View) (t : TagTuple) (tags : TagMap) (m : Measurement)
    (batch : List Measurement) (now : Timestamp) (attachments : Attachments) :
    v.samplesIn t (.record tags (m :: batch) now attachments) =
      v.samplesIn t (.record tags [m] now attachments) ++
        v.samplesIn t (.record tags batch now attachments) := by
  simp only [View.samplesIn]
  by_cases ht : v.tuple tags = t
  · by_cases hacc : v.Accepts m <;> simp [ht, hacc]
  · simp [ht]

/-- A batch, seen from a registered view. -/
theorem continues_record {r : Registry} (hr : Consistent r) {n : String} {v : RegisteredView}
    (hv : r.views.get? n = some v) (tags : TagMap) (batch : List Measurement) (now : Timestamp)
    (attachments : Attachments) :
    ∃ v', (r.record tags batch now attachments).1.views.get? n = some v' ∧
      v.Continues v' fun t => v.view.samplesIn t (.record tags batch now attachments) := by
  rw [fst_record_eq_foldl]
  induction batch generalizing r v with
  | nil =>
    refine ⟨v, hv, rfl, rfl, ?_⟩
    intro t
    show _ = v.view.fold _ (if _ then [] else [])
    rw [ite_self]
    rfl
  | cons m rest ih =>
    obtain ⟨v₁, hv₁, h₁⟩ := continues_recordOne hr hv tags m now attachments
    obtain ⟨v₂, hv₂, h₂⟩ := ih (hr.recordOne tags m now attachments) hv₁
    exact ⟨v₂, hv₂, h₁.trans h₂ fun t => by rw [samplesIn_record_cons, h₁.view]⟩

theorem views_registerMeasure (r : Registry) (m : Measure) :
    (r.outcome (r.registerMeasure m)).views = r.views := by
  cases h : r.registerMeasure m with
  | error e => rfl
  | ok p => exact (registerMeasure_ok h).1

/-- A registration that adds no view changes no view. -/
theorem views_register (r : Registry) (view : View) (now : Timestamp) :
    (∃ r', r.register view now = .ok (true, r')) ∨
      (r.outcome (r.register view now)).views = r.views := by
  cases h : r.register view now with
  | error e => exact Or.inr rfl
  | ok p =>
    obtain ⟨isNew, r'⟩ := p
    cases isNew with
    | false => exact Or.inr (congrArg views (register_false h))
    | true => exact Or.inl ⟨r', rfl⟩

theorem get?_views_of_register {r r' : Registry} {view : View} {now : Timestamp}
    (h : r.register view now = .ok (true, r')) (n : String) :
    r'.views.get? n = if view.name = n then some ⟨view, now, .empty⟩ else r.views.get? n := by
  obtain ⟨-, _, r₁, hm, rfl⟩ := register_true h
  rw [get?_views_addView, (registerMeasure_ok hm).1]

/-- **One request, seen from a registered view.**  Unless it removes the view, the view stays, and its
samples in the request are folded into its cells. -/
theorem continues_serve {r : Registry} (hr : Consistent r) {n : String} {v : RegisteredView}
    (hv : r.views.get? n = some v) {request : RegistryRequest} (hkept : request ≠ .unregister n) :
    ∃ v', (r.serve request).views.get? n = some v' ∧
      v.Continues v' fun t => v.view.samplesIn t request := by
  cases request with
  | registerMeasure measure =>
    exact ⟨v, (congrArg (·.get? n) (views_registerMeasure r measure)).trans hv, .refl v⟩
  | register view now =>
    refine ⟨v, ?_, .refl v⟩
    rcases views_register r view now with ⟨r', h⟩ | h
    · -- The name `n` is taken, so the new view has another one.
      have hne : view.name ≠ n := by
        rintro rfl
        rw [(register_true h).1] at hv
        cases hv
      rw [serve, h]
      exact (get?_views_of_register h n).trans ((if_neg hne).trans hv)
    · exact (congrArg (·.get? n) h).trans hv
  | unregister name =>
    have hne : name ≠ n := fun h => hkept (h ▸ rfl)
    refine ⟨v, ?_, .refl v⟩
    exact (get?_views_unregister r name n).trans ((if_neg hne).trans hv)
  | record tags batch now attachments => exact continues_record hr hv tags batch now attachments

/-- **Many requests, seen from a registered view.** -/
theorem continues_serveAll {r : Registry} (hr : Consistent r) {n : String} {v : RegisteredView}
    (hv : r.views.get? n = some v) {requests : List RegistryRequest}
    (hkept : .unregister n ∉ requests) :
    ∃ v', (r.serveAll requests).views.get? n = some v' ∧
      v.Continues v' fun t => v.view.samples t requests := by
  induction requests generalizing r v with
  | nil => exact ⟨v, hv, .refl v⟩
  | cons request rest ih =>
    obtain ⟨hne, hrest⟩ := not_or.1 (mt List.mem_cons.2 hkept)
    obtain ⟨v₁, hv₁, h₁⟩ := continues_serve hr hv (Ne.symm hne)
    obtain ⟨v₂, hv₂, h₂⟩ := ih (hr.serve request) hv₁ hrest
    exact ⟨v₂, hv₂, h₁.trans h₂ fun t => by rw [h₁.view]; rfl⟩

theorem get?_views_record_of_none {r : Registry} (hr : Consistent r) {n : String}
    (hfree : r.views.get? n = none) (tags : TagMap) (batch : List Measurement) (now : Timestamp)
    (attachments : Attachments) :
    (r.record tags batch now attachments).1.views.get? n = none := by
  rw [fst_record_eq_foldl]
  induction batch generalizing r with
  | nil => exact hfree
  | cons m rest ih =>
    refine ih (hr.recordOne tags m now attachments) ?_
    rw [get?_views_recordOne tags m now attachments hr, hfree, Option.map_none]

/-- A view that is there after a request was there before, or the request has registered it. -/
theorem of_isSome_get?_serve {r : Registry} (hr : Consistent r) {n : String}
    {request : RegistryRequest} (h : ((r.serve request).views.get? n).isSome) :
    ((r.views.get? n).isSome ∧ request ≠ .unregister n) ∨
      ∃ view now r', request = .register view now ∧ view.name = n ∧
        r.register view now = .ok (true, r') := by
  cases request with
  | registerMeasure measure =>
    left
    rw [serve, views_registerMeasure] at h
    exact ⟨h, nofun⟩
  | register view now =>
    rcases views_register r view now with ⟨r', hr'⟩ | hsame
    · rw [serve, hr'] at h
      have h := (get?_views_of_register hr' n) ▸ h
      split at h
      next hname => exact Or.inr ⟨view, now, r', rfl, hname, hr'⟩
      next => exact Or.inl ⟨h, nofun⟩
    · rw [serve, hsame] at h
      exact Or.inl ⟨h, nofun⟩
  | unregister name =>
    left
    rw [serve, get?_views_unregister] at h
    split at h
    next => cases h
    next hne => exact ⟨h, fun heq => hne (RegistryRequest.unregister.inj heq)⟩
  | record tags batch now attachments =>
    left
    refine ⟨Option.isSome_iff_ne_none.2 fun hfree => ?_, nofun⟩
    rw [serve, get?_views_record_of_none hr hfree] at h
    cases h

/-! ### What the cells come to -/

/-- Every sample is a finite number of the kind of the measure. -/
theorem of_mem_samples {v : View} {t : TagTuple} {requests : List RegistryRequest} {s : Sample}
    (hs : s ∈ v.samples t requests) :
    s.value.kind = v.measure.kind ∧ s.value.isFinite = true := by
  obtain ⟨request, -, hs⟩ := List.mem_flatMap.1 hs
  cases request with
  | record tags batch now attachments =>
    simp only [View.samplesIn] at hs
    split at hs
    · obtain ⟨m, hm, rfl⟩ := List.mem_map.1 hs
      exact (of_decide_eq_true (List.mem_filter.1 hm).2).2
    · cases hs
  | _ => cases hs

theorem foldl_addSample_count (l : List Sample) (n : Int64) :
    l.foldl Cell.addSample (.count n) = .count (n + Int64.ofNat l.length) := by
  induction l generalizing n with
  | nil => simp
  | cons s rest ih =>
    refine (ih (n + 1)).trans ?_
    rw [List.length_cons, Nat.add_comm, Int64.ofNat_add, ← Int64.add_assoc]
    rfl

theorem foldl_addSample_sum {l : List Sample} {ints : List Int64}
    (hl : l.map (·.value) = ints.map .int) (a : Int64) :
    l.foldl Cell.addSample (.sum (.int a)) = .sum (.int (a + ints.sum)) := by
  induction l generalizing ints a with
  | nil =>
    obtain rfl := List.map_eq_nil_iff.1 hl.symm
    simp
  | cons s rest ih =>
    cases ints with
    | nil => cases hl
    | cons k ks =>
      obtain ⟨hs, hrest⟩ := List.cons.inj hl
      have hs : s.value = .int k := hs
      rw [List.foldl_cons, Cell.addSample, hs]
      refine (ih hrest (a + k)).trans ?_
      rw [List.sum_cons, Int64.add_assoc]

theorem foldl_addSample_last (l : List Sample) (x : MeasureValue) :
    l.foldl Cell.addSample (.last x) = .last ((l.getLast?.map (·.value)).getD x) := by
  induction l generalizing x with
  | nil => rfl
  | cons s rest ih =>
    refine (ih s.value).trans ?_
    cases rest with
    | nil => rfl
    | cons s' rest' => simp [List.getLast?_cons]

theorem exists_ints {l : List Sample} (hl : ∀ s ∈ l, s.value.kind = .int) :
    ∃ ints : List Int64, l.map (·.value) = ints.map .int := by
  induction l with
  | nil => exact ⟨[], rfl⟩
  | cons s rest ih =>
    obtain ⟨ks, hks⟩ := ih fun s' hs' => hl s' (List.mem_cons_of_mem _ hs')
    have hkind := hl s List.mem_cons_self
    cases hvalue : s.value with
    | int k => exact ⟨k :: ks, by rw [List.map_cons, List.map_cons, hvalue, hks]⟩
    | float x =>
      rw [hvalue] at hkind
      cases hkind

end Registry

/-- The cells of a snapshot hold exactly the samples in `since`: there is a cell where there is a
sample, and it is the fresh cell of the view into which the samples were folded in order.  So a count is
the number of samples, a sum of whole numbers is their sum as 64-bit words, and the last value is that
of the last sample. -/
structure ViewData.Reflects (data : ViewData) (since : List RegistryRequest) : Prop where
  rows : ∀ t, data.rows.get? t =
    if data.view.samples t since = [] then none
    else some ((data.view.samples t since).foldl Cell.addSample data.view.newCell)
  count : data.view.aggregation = .count → ∀ t cell, data.rows.get? t = some cell →
    cell = .count (Int64.ofNat (data.view.samples t since).length)
  sum : data.view.aggregation = .sum → data.view.measure.kind = .int →
    ∀ t cell, data.rows.get? t = some cell → ∃ ints : List Int64,
      (data.view.samples t since).map (·.value) = ints.map .int ∧ cell = .sum (.int ints.sum)
  last : data.view.aggregation = .last → ∀ t cell, data.rows.get? t = some cell →
    ∃ s, (data.view.samples t since).getLast? = some s ∧ cell = .last s.value

namespace Registry

/-- Of `requests`, the one that follows `before` has registered `view` at `start`, when its name was
free, and no request in `since`, which are all that came after, has removed it. -/
structure RegisteredSince (requests before : List RegistryRequest) (view : View)
    (start : Timestamp) (since : List RegistryRequest) : Prop where
  split : requests = before ++ .register view start :: since
  registered : ∃ r, (serveAll empty before).register view start = .ok (true, r)
  kept : .unregister view.name ∉ since

theorem get?_views_of_registeredSince {requests before since : List RegistryRequest} {view : View}
    {start : Timestamp} (h : RegisteredSince requests before view start since) :
    ∃ v, (serveAll empty requests).views.get? view.name = some v ∧ v.view = view ∧
      v.startTime = start ∧ ∀ t, v.rows.get? t = view.fold none (view.samples t since) := by
  obtain ⟨r, hr⟩ := h.registered
  have hbefore : Consistent r := (consistent_empty.serveAll before).register hr
  have hfresh : r.views.get? view.name = some ⟨view, start, .empty⟩ :=
    (get?_views_of_register hr _).trans (if_pos rfl)
  obtain ⟨v, hv, hcont⟩ := continues_serveAll hbefore hfresh h.kept
  refine ⟨v, ?_, hcont.view, hcont.startTime, hcont.rows⟩
  rw [h.split, serveAll_append]
  show ((outcome _ ((serveAll empty before).register view start)).serveAll since).views.get? _ = _
  rw [hr]
  exact hv

/-- Every view that is there has been registered since. -/
theorem exists_registeredSince {requests : List RegistryRequest} {n : String}
    (h : ((serveAll empty requests).views.get? n).isSome) :
    ∃ before view start since, RegisteredSince requests before view start since ∧ view.name = n := by
  induction requests using List.reverseRecOn with
  | nil => cases h
  | append_singleton requests request ih =>
    rw [serveAll_append] at h
    have hcons := consistent_empty.serveAll requests
    rcases of_isSome_get?_serve hcons h with ⟨hsome, hne⟩ | ⟨view, now, r', rfl, hname, hr'⟩
    · -- The request comes after the registration that the induction hypothesis gives.
      obtain ⟨before, view, start, since, hreg, rfl⟩ := ih hsome
      refine ⟨before, view, start, since ++ [request], ⟨?_, hreg.registered, ?_⟩, rfl⟩
      · rw [hreg.split, List.append_assoc, List.cons_append]
      · intro hmem
        rcases List.mem_append.1 hmem with hmem | hmem
        · exact hreg.kept hmem
        · exact hne (List.mem_singleton.1 hmem).symm
    · exact ⟨requests, view, now, [], ⟨rfl, ⟨r', hr'⟩, List.not_mem_nil⟩, hname⟩

end Registry

end Telemetry
