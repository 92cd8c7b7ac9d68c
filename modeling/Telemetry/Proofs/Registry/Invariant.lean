import Telemetry.Proofs.Registry.InPlace

/-!
# What holds of every registry

`RegisteredAt` numbers the requests of a history, so that the names of the views can be compared by the
request that registered them. The main result, `sound_serveAll`, collects what holds after any requests
to a registry that started empty: its maps belong together, a measure stays what it was registered as,
the views of a measure are listed in the order of their registrations, and a request that is refused or
finds nothing to do leaves everything as it was.
-/

namespace Telemetry.Registry

/-! ### Registrations -/

theorem registerMeasure_false {r r' : Registry} {m : Measure}
    (h : r.registerMeasure m = .ok (false, r')) : r' = r := by
  unfold registerMeasure at h
  split at h
  · split at h <;> cases h
    rfl
  · cases h

/-- A measure is registered, or all stays as it was. -/
theorem registers_measure_or_not (r : Registry) (m : Measure) :
    (r.answer (.registerMeasure m) ≠ .ok true ∧ r.serve (.registerMeasure m) = r) ∨
      ∃ r', r.registerMeasure m = .ok (true, r') ∧ r.answer (.registerMeasure m) = .ok true ∧
        r.serve (.registerMeasure m) = r' := by
  rw [answer, serve]
  cases h : r.registerMeasure m with
  | error e => exact .inl ⟨by simp [Except.map], rfl⟩
  | ok registered =>
    obtain ⟨isNew, r'⟩ := registered
    cases isNew with
    | false => exact .inl ⟨by simp [Except.map], registerMeasure_false h⟩
    | true => exact .inr ⟨r', rfl, rfl, rfl⟩

/-- A view is registered under a free name, after its measure, or all stays as it was. -/
theorem registers_view_or_not (r : Registry) (view : View) (now : Timestamp) :
    (r.answer (.register view now) ≠ .ok true ∧ r.serve (.register view now) = r) ∨
      ∃ isNew r₁, r.views.get? view.name = none ∧
        r.registerMeasure view.measure = .ok (isNew, r₁) ∧
        r.answer (.register view now) = .ok true ∧
        r.serve (.register view now) = r₁.addView view now := by
  rw [answer, serve]
  cases h : r.register view now with
  | error e => exact .inl ⟨by simp [Except.map], rfl⟩
  | ok registered =>
    obtain ⟨isNew, r'⟩ := registered
    cases isNew with
    | false => exact .inl ⟨by simp [Except.map], register_false h⟩
    | true =>
      obtain ⟨hfree, isNew, r₁, hm, rfl⟩ := register_true h
      exact .inr ⟨isNew, r₁, hfree, hm, rfl, rfl⟩

/-! ### Measures -/

theorem of_get?_measures_registerMeasure {r r' : Registry} {m known : Measure} {isNew : Bool}
    (h : r.registerMeasure m = .ok (isNew, r')) {n : String}
    (hknown : r'.measures.get? n = some known) :
    r.measures.get? n = some known ∨ known.name = n := by
  unfold registerMeasure at h
  split at h
  next =>
    split at h <;> cases h
    exact .inl hknown
  next =>
    cases h
    rw [OrderedMap.get?_insert] at hknown
    split at hknown
    next heq =>
      cases hknown
      exact .inr heq
    next => exact .inl hknown

/-- A recording changes cells only. -/
theorem record_frame (r : Registry) (tags : TagMap) (batch : List Measurement) (now : Timestamp)
    (attachments : Attachments) : (r.record tags batch now attachments).1.measures = r.measures ∧
      (r.record tags batch now attachments).1.subscribers = r.subscribers := by
  rw [fst_record_eq_foldl]
  induction batch generalizing r with
  | nil => exact ⟨rfl, rfl⟩
  | cons m rest ih =>
    obtain ⟨hmeasures, hsubscribers⟩ := ih (r.recordOne tags m now attachments).1
    obtain ⟨hmeasures', hsubscribers'⟩ := recordOne_frame tags m now attachments r
    exact ⟨hmeasures.trans hmeasures', hsubscribers.trans hsubscribers'⟩

/-- A request either registers no measure or is like the registration of one. -/
theorem measures_serve (r : Registry) (request : RegistryRequest) :
    (r.serve request).measures = r.measures ∨
      ∃ m isNew r', r.registerMeasure m = .ok (isNew, r') ∧
        (r.serve request).measures = r'.measures := by
  cases request with
  | registerMeasure m =>
    rcases r.registers_measure_or_not m with ⟨-, hsame⟩ | ⟨r', h, -, hserve⟩
    · exact .inl (congrArg measures hsame)
    · exact .inr ⟨m, true, r', h, congrArg measures hserve⟩
  | register view now =>
    rcases r.registers_view_or_not view now with ⟨-, hsame⟩ | ⟨isNew, r₁, -, hm, -, hserve⟩
    · exact .inl (congrArg measures hsame)
    · exact .inr ⟨view.measure, isNew, r₁, hm, by rw [hserve]; rfl⟩
  | unregister name => exact .inl (measures_unregister r name)
  | record tags batch now attachments => exact .inl (record_frame r tags batch now attachments).1

/-- **A registered measure stays what it is**, whatever is requested. -/
theorem get?_measures_serveAll {r : Registry} {n : String} {m : Measure}
    (h : r.measures.get? n = some m) (requests : List RegistryRequest) :
    (r.serveAll requests).measures.get? n = some m := by
  induction requests generalizing r with
  | nil => exact h
  | cons request rest ih =>
    refine ih ?_
    rcases measures_serve r request with hsame | ⟨m', isNew, r', hregister, hsame⟩
    · rw [hsame, h]
    · rw [hsame]
      exact (registerMeasure_ok hregister).2.2.2 h

/-- A measure is stored under its own name. -/
theorem name_of_get?_measures {requests : List RegistryRequest} {n : String} {m : Measure}
    (h : (serveAll empty requests).measures.get? n = some m) : m.name = n := by
  induction requests using List.reverseRecOn with
  | nil => cases h
  | append_singleton requests request ih =>
    rw [serveAll_append] at h
    have h : ((serveAll empty requests).serve request).measures.get? n = some m := h
    rcases measures_serve (serveAll empty requests) request with hsame | ⟨m', _, r', hregister, hsame⟩
    · exact ih (hsame ▸ h)
    · rw [hsame] at h
      rcases of_get?_measures_registerMeasure hregister h with hold | hname
      · exact ih hold
      · exact hname

/-! ### The order of registrations -/

/-- The current registration of the view `name` was the request number `i`. -/
def RegisteredAt (requests : List RegistryRequest) (name : String) (i : Nat) : Prop :=
  ∃ before view start since,
    RegisteredSince requests before view start since ∧ view.name = name ∧ before.length = i

/-- The current registration of `a` came before that of `b`. -/
def RegisteredBefore (requests : List RegistryRequest) (a b : String) : Prop :=
  ∀ i j, RegisteredAt requests a i → RegisteredAt requests b j → i < j

theorem RegisteredAt.lt_length {requests : List RegistryRequest} {name : String} {i : Nat}
    (h : RegisteredAt requests name i) : i < requests.length := by
  obtain ⟨before, view, start, since, h, -, rfl⟩ := h
  rw [h.split]
  simp

theorem isSome_iff_registeredAt {requests : List RegistryRequest} {name : String} :
    ((serveAll empty requests).views.get? name).isSome ↔ ∃ i, RegisteredAt requests name i := by
  constructor
  · intro h
    obtain ⟨before, view, start, since, h, hname⟩ := exists_registeredSince h
    exact ⟨_, before, view, start, since, h, hname, rfl⟩
  · rintro ⟨_, before, view, start, since, h, rfl, -⟩
    obtain ⟨v, hv, -⟩ := get?_views_of_registeredSince h
    rw [hv]
    rfl

section Append

variable {requests : List RegistryRequest} {request : RegistryRequest}

/-- The registration that is current after one more request is that request, and the name was free, or
it was current before. -/
theorem RegisteredAt.of_append {name : String} {i : Nat}
    (h : RegisteredAt (requests ++ [request]) name i) :
    RegisteredAt requests name i ∨
      i = requests.length ∧ (serveAll empty requests).views.get? name = none := by
  obtain ⟨before, view, start, since, h, rfl, rfl⟩ := h
  rcases List.eq_nil_or_concat' since with rfl | ⟨since', last, rfl⟩
  · obtain ⟨rfl, -⟩ := List.append_inj' h.split rfl
    obtain ⟨r, hr⟩ := h.registered
    exact .inr ⟨rfl, (register_true hr).1⟩
  · have hsplit := h.split
    rw [← List.cons_append, ← List.append_assoc] at hsplit
    obtain ⟨rfl, -⟩ := List.append_inj' hsplit rfl
    exact .inl ⟨before, view, start, since',
      ⟨rfl, h.registered, fun hmem => h.kept (List.mem_append_left _ hmem)⟩, rfl, rfl⟩

theorem RegisteredAt.of_append_of_isSome {name : String} {i : Nat}
    (h : RegisteredAt (requests ++ [request]) name i)
    (hsome : ((serveAll empty requests).views.get? name).isSome) :
    RegisteredAt requests name i := by
  rcases h.of_append with hold | ⟨-, hnone⟩
  · exact hold
  · rw [hnone] at hsome
    cases hsome

theorem RegisteredAt.eq_length_of_free {name : String} {i : Nat}
    (h : RegisteredAt (requests ++ [request]) name i)
    (hfree : (serveAll empty requests).views.get? name = none) : i = requests.length := by
  rcases h.of_append with hold | ⟨hi, -⟩
  · have hsome := isSome_iff_registeredAt.2 ⟨i, hold⟩
    rw [hfree] at hsome
    cases hsome
  · exact hi

end Append

/-- A request takes names from the list of a measure, or adds the one of a view that it registers. -/
theorem subscribersOf_serve {r : Registry} (hr : Consistent r) (request : RegistryRequest)
    (m : String) :
    ((r.serve request).subscribersOf m).Sublist (r.subscribersOf m) ∨
      ∃ name, r.views.get? name = none ∧
        (r.serve request).subscribersOf m = r.subscribersOf m ++ [name] := by
  cases request with
  | registerMeasure measure =>
    rcases r.registers_measure_or_not measure with ⟨-, hsame⟩ | ⟨r', h, -, hserve⟩
    · exact .inl (by rw [hsame])
    · have hsubscribers := (registerMeasure_ok h).2.1
      exact .inl (by rw [hserve, subscribersOf, hsubscribers, ← subscribersOf])
  | register view now =>
    rcases r.registers_view_or_not view now with ⟨-, hsame⟩ | ⟨isNew, r₁, hfree, hm, -, hserve⟩
    · exact .inl (by rw [hsame])
    · have hsame : r₁.subscribersOf m = r.subscribersOf m := by
        rw [subscribersOf, (registerMeasure_ok hm).2.1, ← subscribersOf]
      rw [hserve, subscribersOf_addView]
      split
      next heq => exact .inr ⟨view.name, hfree, by rw [heq, hsame]⟩
      next => exact .inl (by rw [hsame])
  | unregister name =>
    rw [serve, subscribersOf_unregister hr]
    exact .inl List.filter_sublist
  | record tags batch now attachments =>
    refine .inl ?_
    rw [serve, subscribersOf, (record_frame r tags batch now attachments).2, ← subscribersOf]

/-- **The views of a measure are listed in the order in which they were registered.** -/
theorem pairwise_subscribersOf (requests : List RegistryRequest) (m : String) :
    ((serveAll empty requests).subscribersOf m).Pairwise (RegisteredBefore requests) := by
  induction requests using List.reverseRecOn with
  | nil => exact .nil
  | append_singleton requests request ih =>
    have hcons := consistent_empty.serveAll requests
    have hregistered : ∀ n ∈ (serveAll empty requests).subscribersOf m,
        ((serveAll empty requests).views.get? n).isSome := fun n hn => by
      obtain ⟨v, hv, -⟩ := (hcons.subscribed m n).1 hn
      rw [hv]
      rfl
    have hold : ((serveAll empty requests).subscribersOf m).Pairwise
        (RegisteredBefore (requests ++ [request])) :=
      ih.imp_of_mem fun {a b} ha hb hab i j hi hj =>
        hab i j (hi.of_append_of_isSome (hregistered a ha)) (hj.of_append_of_isSome (hregistered b hb))
    rw [serveAll_append]
    show (((serveAll empty requests).serve request).subscribersOf m).Pairwise _
    rcases subscribersOf_serve hcons request m with hsub | ⟨name, hfree, hlist⟩
    · exact hold.sublist hsub
    · -- The name that is added was free, so that its registration is the new request.
      rw [hlist]
      refine List.pairwise_append.2 ⟨hold, List.pairwise_singleton _ _, fun a ha b hb i j hi hj => ?_⟩
      obtain rfl := List.mem_singleton.1 hb
      rw [hj.eq_length_of_free hfree]
      exact (hi.of_append_of_isSome (hregistered a ha)).lt_length

/-! ### Refusals -/

/-- A different view has the name of `view`. -/
def HoldsOtherView (r : Registry) (view : View) : Prop :=
  ∃ known, r.views.get? view.name = some known ∧ known.view ≠ view

/-- A different measure has the name of `measure`. -/
def HoldsOtherMeasure (r : Registry) (measure : Measure) : Prop :=
  ∃ known, r.measures.get? measure.name = some known ∧ known ≠ measure

theorem holdsOtherView_iff {r : Registry} {view : View} {known : RegisteredView}
    (h : r.views.get? view.name = some known) : r.HoldsOtherView view ↔ known.view ≠ view := by
  simp [HoldsOtherView, h]

theorem holdsOtherMeasure_iff {r : Registry} {measure known : Measure}
    (h : r.measures.get? measure.name = some known) :
    r.HoldsOtherMeasure measure ↔ known ≠ measure := by
  simp [HoldsOtherMeasure, h]

theorem registerMeasure_eq_error_iff {r : Registry} {measure : Measure} {e : StatsError} :
    r.registerMeasure measure = .error e ↔
      e = .measureConflict measure.name ∧ r.HoldsOtherMeasure measure := by
  unfold registerMeasure
  cases hknown : r.measures.get? measure.name with
  | none => simp [HoldsOtherMeasure, hknown]
  | some known =>
    rw [holdsOtherMeasure_iff hknown]
    by_cases h : known = measure <;> simp [h, @eq_comm _ e]

/-- **A registration is refused** exactly if another view has the name, or else if another measure has
the name of its measure. -/
theorem register_eq_error_iff {r : Registry} (hr : Consistent r) {view : View} {now : Timestamp}
    {e : StatsError} :
    r.register view now = .error e ↔
      e = .duplicateView view.name ∧ r.HoldsOtherView view ∨
        e = .measureConflict view.measure.name ∧ ¬r.HoldsOtherView view ∧
          r.HoldsOtherMeasure view.measure := by
  unfold register
  cases hview : r.views.get? view.name with
  | none =>
    have hfree : ¬r.HoldsOtherView view := by simp [HoldsOtherView, hview]
    have hmeasure : (r.registerMeasure view.measure >>= fun registered =>
        pure (true, registered.2.addView view now)) = Except.error e ↔
          r.registerMeasure view.measure = .error e := by
      cases r.registerMeasure view.measure with
      | error e' => exact Iff.rfl
      | ok registered => exact ⟨nofun, nofun⟩
    refine hmeasure.trans (registerMeasure_eq_error_iff.trans ?_)
    simp [hfree]
  | some known =>
    dsimp only
    rw [holdsOtherView_iff hview]
    by_cases h : known.view = view
    · -- The measure of the view is the registered one, so that no other has its name.
      have hmeasure : ¬r.HoldsOtherMeasure view.measure := by
        rintro ⟨other, hother, hne⟩
        have hmeasured := hr.measured hview
        rw [h, hother] at hmeasured
        exact hne (Option.some.inj hmeasured)
      simp [h, hmeasure]
    · simp [h, @eq_comm _ e]

/-! ### All histories -/

/-- **A request that is refused or has nothing to do** leaves the registry as it was. -/
theorem serve_of_answer_ne {r : Registry} {request : RegistryRequest}
    (h : r.answer request ≠ .ok true) : r.serve request = r := by
  cases request with
  | registerMeasure m =>
    rcases r.registers_measure_or_not m with ⟨-, hsame⟩ | ⟨r', -, hanswer, -⟩
    · exact hsame
    · exact absurd hanswer h
  | register view now =>
    rcases r.registers_view_or_not view now with ⟨-, hsame⟩ | ⟨isNew, r₁, -, -, hanswer, -⟩
    · exact hsame
    · exact absurd hanswer h
  | unregister name =>
    rw [answer, unregister] at h
    rw [serve, unregister]
    split at h
    next => rfl
    next => exact absurd rfl h
  | record tags batch now attachments => exact absurd rfl h

/-- What holds of the registry after `requests`, and of one more request to it. -/
structure Sound (requests : List RegistryRequest) (r : Registry) : Prop where
  /-- Each view is stored under its own name, its measure is registered, and the views of a measure are
  listed each once. -/
  consistent : Consistent r
  /-- Each measure is stored under its own name. -/
  named {n : String} {m : Measure} : r.measures.get? n = some m → m.name = n
  /-- A registered measure is never changed or removed. -/
  kept {n : String} {m : Measure} : r.measures.get? n = some m →
    ∀ more, (r.serveAll more).measures.get? n = some m
  /-- The registered views are those with a current registration. -/
  registered (n : String) : (r.views.get? n).isSome ↔ ∃ i, RegisteredAt requests n i
  /-- The views of a measure are listed in the order of these registrations. -/
  ordered (m : String) : (r.subscribersOf m).Pairwise (RegisteredBefore requests)
  /-- A request that is carried out in place gives the answer and leaves the registry that it should. -/
  inPlace (request : RegistryRequest) :
    request.inPlace.runOn r = (r.answer request, r.serve request)
  /-- A request that is refused or has nothing to do writes nothing in place. -/
  unchanged {request : RegistryRequest} : r.answer request ≠ .ok true →
    (request.inPlace.runOn r).2 = r
  /-- When the registration of a measure is refused. -/
  measureRefused (m : Measure) (e : StatsError) : r.answer (.registerMeasure m) = .error e ↔
    e = .measureConflict m.name ∧ r.HoldsOtherMeasure m
  /-- When the registration of a view is refused. -/
  viewRefused (view : View) (now : Timestamp) (e : StatsError) :
    r.answer (.register view now) = .error e ↔
      e = .duplicateView view.name ∧ r.HoldsOtherView view ∨
        e = .measureConflict view.measure.name ∧ ¬r.HoldsOtherView view ∧
          r.HoldsOtherMeasure view.measure

/-- The registry after requests that are carried out in place, one after the other. -/
def inPlaceAll (r : Registry) (requests : List RegistryRequest) : Registry :=
  requests.foldl (fun r request => (request.inPlace.runOn r).2) r

theorem inPlaceAll_eq_serveAll {r : Registry} (hr : Consistent r) (requests : List RegistryRequest) :
    r.inPlaceAll requests = r.serveAll requests := by
  induction requests generalizing r with
  | nil => rfl
  | cons request rest ih =>
    rw [inPlaceAll, List.foldl_cons, runOn_inPlace hr, ← inPlaceAll]
    exact ih (hr.serve request)

theorem answer_eq_error_iff {α : Type} {answered : Except StatsError (α × Registry)} {e : StatsError} :
    answered.map Prod.fst = .error e ↔ answered = .error e := by
  cases answered <;> simp [Except.map]

/-- **The registry is sound after any requests**, be they carried out in place or not. -/
theorem sound_serveAll (requests : List RegistryRequest) :
    inPlaceAll empty requests = serveAll empty requests ∧
      Sound requests (serveAll empty requests) := by
  have hr : Consistent (serveAll empty requests) := consistent_empty.serveAll requests
  refine ⟨inPlaceAll_eq_serveAll consistent_empty requests, ?_⟩
  exact {
    consistent := hr
    named := name_of_get?_measures
    kept := get?_measures_serveAll
    registered := fun n => isSome_iff_registeredAt
    ordered := pairwise_subscribersOf requests
    inPlace := runOn_inPlace hr
    unchanged := fun h => by rw [runOn_inPlace hr, serve_of_answer_ne h]
    measureRefused := fun m e => answer_eq_error_iff.trans registerMeasure_eq_error_iff
    viewRefused := fun view now e => answer_eq_error_iff.trans (register_eq_error_iff hr) }

end Telemetry.Registry
