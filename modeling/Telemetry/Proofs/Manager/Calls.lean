import Telemetry.Proofs.Registry.Invariant
import Telemetry.Stats.Manager

/-!
# Calls to a view manager

`ManagerCall` lists what can be asked of a view manager, and `ViewManager.serveAll` is the manager
after a sequence of calls.  Two things are said of each call.  `registry_serve` says that the registry
serves the requests among the calls and is left alone by the others.  `received_serve` says what an
exporter is told: one that is registered is told the news of the call, which do not depend on the
exporter, on the other exporters or on what they answer; one that becomes registered is told of all
views; and others are told nothing.
-/

namespace Telemetry

/-- A call to a view manager. -/
inductive ManagerCall where
  /-- A request to its registry. A view that is new is announced to the exporters. -/
  | request (request : RegistryRequest)
  /-- An exporter is registered. -/
  | registerExporter (e : ExporterRef)
  /-- An exporter is removed. -/
  | unregisterExporter (e : ExporterRef)
  /-- The snapshots of all views are handed to the exporters, who answer as given. -/
  | exportAll (answers : ExporterRef → Except ExportError Unit) (now : Timestamp)

/-- The requests to the registry among the calls. -/
def requestsIn (calls : List ManagerCall) : List RegistryRequest :=
  calls.filterMap fun
    | .request request => some request
    | _ => none

theorem not_mem_requestsIn {calls : List ManagerCall} {request : RegistryRequest}
    (h : .request request ∉ calls) : request ∉ requestsIn calls := by
  intro hmem
  obtain ⟨call, hcall, hrequest⟩ := List.mem_filterMap.1 hmem
  cases call <;> simp at hrequest
  exact h (hrequest ▸ hcall)

/-- The views among what an exporter is told. -/
def announcedIn (told : List Delivery) : List View :=
  told.filterMap fun
    | .announcement view => some view
    | .batch _ => none

/-- The batches among what an exporter is told. -/
def batchesIn (told : List Delivery) : List (List ViewData) :=
  told.filterMap fun
    | .announcement _ => none
    | .batch data => some data

theorem announcedIn_append (l₁ l₂ : List Delivery) :
    announcedIn (l₁ ++ l₂) = announcedIn l₁ ++ announcedIn l₂ := List.filterMap_append

theorem batchesIn_append (l₁ l₂ : List Delivery) :
    batchesIn (l₁ ++ l₂) = batchesIn l₁ ++ batchesIn l₂ := List.filterMap_append

@[simp] theorem announcedIn_announcements (views : List View) :
    announcedIn (views.map .announcement) = views := by simp [announcedIn, List.filterMap_map]

@[simp] theorem announcedIn_batches {α : Type} (l : List α) (batch : α → List ViewData) :
    announcedIn (l.map fun a => .batch (batch a)) = [] := by simp [announcedIn]

@[simp] theorem batchesIn_announcements (views : List View) :
    batchesIn (views.map .announcement) = [] := by simp [batchesIn, List.filterMap_map]

@[simp] theorem batchesIn_batches {α : Type} (l : List α) (batch : α → List ViewData) :
    batchesIn (l.map fun a => .batch (batch a)) = l.map batch := by simp [batchesIn]

namespace Registry

/-- The registry after a call to its manager. -/
def serveCall (r : Registry) : ManagerCall → Registry
  | .request request => r.serve request
  | _ => r

/-- The view that a call registers, if it is a registration and the view is new. -/
def newViews (r : Registry) : ManagerCall → List View
  | .request (.register view now) =>
    if r.answer (.register view now) = .ok true then [view] else []
  | _ => []

/-- What a call exports, if it is an export: the registry as it is, at a moment. -/
def exports (r : Registry) : ManagerCall → List (Registry × Timestamp)
  | .exportAll _ now => [(r, now)]
  | _ => []

/-- What a call makes known. -/
def news (r : Registry) (call : ManagerCall) : List Delivery :=
  (r.newViews call).map .announcement ++
    (r.exports call).map fun exported => .batch (exported.1.snapshots exported.2)

theorem news_register (r : Registry) (view : View) (now : Timestamp) :
    r.news (.request (.register view now)) =
      if r.answer (.register view now) = .ok true then [.announcement view] else [] := by
  rw [news, newViews]
  split <;> rfl

theorem announcedIn_news (r : Registry) (call : ManagerCall) :
    announcedIn (r.news call) = r.newViews call := by simp [news, announcedIn_append]

theorem batchesIn_news (r : Registry) (call : ManagerCall) :
    batchesIn (r.news call) =
      (r.exports call).map fun exported => exported.1.snapshots exported.2 := by
  simp [news, batchesIn_append]

theorem Consistent.serveCall {r : Registry} (hr : Consistent r) (call : ManagerCall) :
    Consistent (r.serveCall call) := by
  cases call with
  | request request => exact hr.serve request
  | _ => exact hr

end Registry

namespace ViewManager

/-- The manager after a call. A call that is refused changes nothing. -/
def serve (m : ViewManager) : ManagerCall → ViewManager
  | .request (.registerMeasure measure) =>
    { m with registry := m.registry.serve (.registerMeasure measure) }
  | .request (.register view now) => (m.registerView view now).toOption.getD m
  | .request (.unregister name) => (m.unregisterView name).2
  | .request (.record tags batch now attachments) => m.record tags batch now attachments
  | .registerExporter e => m.registerExporter e
  | .unregisterExporter e => (m.unregisterExporter e).2
  | .exportAll answers now => m.exportAll answers now

/-- The manager after a sequence of calls. -/
def serveAll (m : ViewManager) (calls : List ManagerCall) : ViewManager := calls.foldl serve m

theorem serveAll_append (m : ViewManager) (l₁ l₂ : List ManagerCall) :
    m.serveAll (l₁ ++ l₂) = (m.serveAll l₁).serveAll l₂ := List.foldl_append

/-- What an exporter has been told, in order. -/
def received (m : ViewManager) (e : ExporterRef) : List Delivery :=
  m.deliveries.toList.filterMap fun d => if d.1 = e then some d.2 else none

/-! ### Deliveries -/

section Fold

variable {α : Type} {step : ViewManager → α → ViewManager}

/-- Steps that change neither the registry nor who is registered. -/
theorem foldl_frame
    (hstep : ∀ m a, (step m a).registry = m.registry ∧ (step m a).exporters = m.exporters)
    (l : List α) (m : ViewManager) :
    (l.foldl step m).registry = m.registry ∧ (l.foldl step m).exporters = m.exporters := by
  induction l generalizing m with
  | nil => exact ⟨rfl, rfl⟩
  | cons a rest ih =>
    obtain ⟨hregistry, hexporters⟩ := ih (step m a)
    exact ⟨hregistry.trans (hstep m a).1, hexporters.trans (hstep m a).2⟩

/-- What the steps tell an exporter, one after the other. -/
theorem received_foldl {e : ExporterRef} {told : α → List Delivery}
    (hstep : ∀ m a, (step m a).received e = m.received e ++ told a) (l : List α) (m : ViewManager) :
    (l.foldl step m).received e = m.received e ++ l.flatMap told := by
  induction l generalizing m with
  | nil => simp
  | cons a rest ih => rw [List.foldl_cons, ih, hstep, List.flatMap_cons, List.append_assoc]

end Fold

theorem deliver_frame (m : ViewManager) (e : ExporterRef) (d : Delivery) :
    (m.deliver e d).registry = m.registry ∧ (m.deliver e d).exporters = m.exporters := ⟨rfl, rfl⟩

theorem received_deliver (m : ViewManager) (e' e : ExporterRef) (d : Delivery) :
    (m.deliver e' d).received e = m.received e ++ if e' = e then [d] else [] := by
  rw [received, deliver, Array.toList_push, List.filterMap_append, received]
  by_cases h : e' = e <;> simp [h]

theorem received_exportTo (answers : ExporterRef → Except ExportError Unit) (data : List ViewData)
    (m : ViewManager) (e' e : ExporterRef) :
    (exportTo answers data m e').received e =
      m.received e ++ if e' = e then [.batch data] else [] := by
  rw [exportTo, ← received_deliver]
  cases answers e' <;> rfl

theorem exportTo_frame (answers : ExporterRef → Except ExportError Unit) (data : List ViewData)
    (m : ViewManager) (e : ExporterRef) :
    (exportTo answers data m e).registry = m.registry ∧
      (exportTo answers data m e).exporters = m.exporters := by
  rw [exportTo]
  cases answers e <;> exact ⟨rfl, rfl⟩

/-- Telling each of some exporters once tells one of them once. -/
theorem flatMap_once {l : List ExporterRef} (hl : l.Nodup) (e : ExporterRef) (d : Delivery) :
    (l.flatMap fun e' => if e' = e then [d] else []) = if e ∈ l then [d] else [] := by
  induction l with
  | nil => rfl
  | cons e' rest ih =>
    obtain ⟨hnot, hrest⟩ := List.nodup_cons.1 hl
    rw [List.flatMap_cons, ih hrest]
    by_cases h : e' = e
    · subst h
      simp [hnot]
    · simp [h, Ne.symm h]

/-! ### Registrations -/

/-- A new view is announced to each exporter, in order. -/
theorem serve_register_of_new {m : ViewManager} {view : View} {now : Timestamp} {r : Registry}
    (h : m.registry.register view now = .ok (true, r)) :
    m.serve (.request (.register view now)) =
      m.exporters.foldl (fun m e => m.deliver e (.announcement view))
        ({ m with registry := r }.report [.viewRegistered view.name]) := by
  rw [serve, registerView, h]
  rfl

/-- A view that is refused or known already changes nothing. -/
theorem serve_register_of_not_new {m : ViewManager} {view : View} {now : Timestamp}
    (h : m.registry.answer (.register view now) ≠ .ok true) :
    m.serve (.request (.register view now)) = m := by
  rw [Registry.answer] at h
  rw [serve, registerView]
  cases hregister : m.registry.register view now with
  | error e => rfl
  | ok registered =>
    obtain ⟨isNew, r⟩ := registered
    cases isNew with
    | false => rfl
    | true =>
      rw [hregister] at h
      exact absurd rfl h

/-- A registration adds a view, or it is not answered with yes. -/
theorem register_new_or_not (r : Registry) (view : View) (now : Timestamp) :
    (∃ r', r.register view now = .ok (true, r') ∧ r.serve (.register view now) = r' ∧
        r.answer (.register view now) = .ok true) ∨
      r.answer (.register view now) ≠ .ok true ∧ r.serve (.register view now) = r := by
  rcases r.registers_view_or_not view now with hnot | ⟨isNew, r₁, -, -, hanswer, hserve⟩
  · exact .inr hnot
  · left
    rw [Registry.answer] at hanswer
    cases hregister : r.register view now with
    | error e =>
      rw [hregister] at hanswer
      cases hanswer
    | ok registered =>
      obtain ⟨isNew, r'⟩ := registered
      rw [hregister] at hanswer
      obtain rfl : isNew = true := Except.ok.inj hanswer
      refine ⟨r', rfl, ?_, ?_⟩
      · rw [Registry.serve, hregister]
        rfl
      · rw [Registry.answer, hregister]
        rfl

/-! ### One call -/

/-- **A call reaches the registry** if it is a request to it. -/
theorem registry_serve (m : ViewManager) (call : ManagerCall) :
    (m.serve call).registry = m.registry.serveCall call := by
  cases call with
  | request request =>
    cases request with
    | registerMeasure measure => rfl
    | register view now =>
      rcases register_new_or_not m.registry view now with ⟨r, hregister, hserve, -⟩ | ⟨hnot, hserve⟩
      · rw [serve_register_of_new hregister, Registry.serveCall, hserve]
        exact (foldl_frame (fun m e => deliver_frame m e (.announcement view)) _ _).1
      · rw [serve_register_of_not_new hnot, Registry.serveCall, hserve]
    | unregister name => rfl
    | record tags batch now attachments => rfl
  | registerExporter e =>
    rw [serve, registerExporter]
    split
    next => rfl
    next =>
      show (m.registry.allViews.foldl (fun m view => m.deliver e (.announcement view)) m).registry = _
      exact (foldl_frame (fun m view => deliver_frame m e (.announcement view)) _ m).1
  | unregisterExporter e => rfl
  | exportAll answers now => exact (foldl_frame (exportTo_frame answers _) _ m).1

theorem registry_serveAll (m : ViewManager) (calls : List ManagerCall) :
    (m.serveAll calls).registry = m.registry.serveAll (requestsIn calls) := by
  induction calls generalizing m with
  | nil => rfl
  | cons call rest ih =>
    refine (ih (m.serve call)).trans ?_
    rw [registry_serve]
    cases call <;> rfl

theorem consistent_serveAll (calls : List ManagerCall) :
    Registry.Consistent (empty.serveAll calls).registry := by
  rw [registry_serveAll]
  exact Registry.consistent_empty.serveAll _

theorem exporters_request (m : ViewManager) (request : RegistryRequest) :
    (m.serve (.request request)).exporters = m.exporters := by
  cases request with
  | register view now =>
    rcases register_new_or_not m.registry view now with ⟨r, hregister, -⟩ | ⟨hnot, -⟩
    · rw [serve_register_of_new hregister]
      exact (foldl_frame (fun m e => deliver_frame m e (.announcement view)) _ _).2
    · rw [serve_register_of_not_new hnot]
  | _ => rfl

theorem exporters_registerExporter (m : ViewManager) (e : ExporterRef) :
    (m.serve (.registerExporter e)).exporters =
      if e ∈ m.exporters then m.exporters else m.exporters ++ [e] := by
  rw [serve, registerExporter]
  split
  next => rfl
  next =>
    exact congrArg (· ++ [e])
      (foldl_frame (fun m view => deliver_frame m e (.announcement view)) m.registry.allViews m).2

theorem exporters_exportAll (m : ViewManager) (answers : ExporterRef → Except ExportError Unit)
    (now : Timestamp) : (m.serve (.exportAll answers now)).exporters = m.exporters :=
  (foldl_frame (exportTo_frame answers _) _ m).2

/-- **Who is registered after a call.** -/
theorem mem_exporters_serve {m : ViewManager} {call : ManagerCall} {e : ExporterRef} :
    e ∈ (m.serve call).exporters ↔
      call = .registerExporter e ∨ e ∈ m.exporters ∧ call ≠ .unregisterExporter e := by
  cases call with
  | request request => simp [exporters_request]
  | registerExporter e' =>
    rw [exporters_registerExporter]
    split
    next hmem =>
      simp only [ManagerCall.registerExporter.injEq, ne_eq, reduceCtorEq, not_false_eq_true, and_true]
      exact (or_iff_right_of_imp fun h => h ▸ hmem).symm
    next => simp [or_comm, eq_comm]
  | unregisterExporter e' => simp [serve, unregisterExporter, @eq_comm _ e e']
  | exportAll answers now => simp [exporters_exportAll]

/-- No exporter is registered twice. -/
theorem nodup_exporters_serve {m : ViewManager} (hm : m.exporters.Nodup) (call : ManagerCall) :
    (m.serve call).exporters.Nodup := by
  cases call with
  | request request => rwa [exporters_request]
  | registerExporter e =>
    rw [exporters_registerExporter]
    split
    next => exact hm
    next hnot =>
      refine List.nodup_append.2 ⟨hm, List.nodup_singleton e, ?_⟩
      rintro a ha b hb rfl
      exact hnot (List.mem_singleton.1 hb ▸ ha)
  | unregisterExporter e => exact hm.filter _
  | exportAll answers now => rwa [exporters_exportAll]

/-- What a call tells an exporter. -/
def told (m : ViewManager) (e : ExporterRef) : ManagerCall → List Delivery
  | .registerExporter e' =>
    if e' = e ∧ e ∉ m.exporters then m.registry.allViews.map .announcement else []
  | call => if e ∈ m.exporters then m.registry.news call else []

/-- **What an exporter is told by a call.** -/
theorem received_serve {m : ViewManager} (hm : m.exporters.Nodup) (e : ExporterRef)
    (call : ManagerCall) : (m.serve call).received e = m.received e ++ m.told e call := by
  have hsilent : m.received e ++ (if e ∈ m.exporters then [] else []) = m.received e := by
    rw [ite_self, List.append_nil]
  cases call with
  | request request =>
    cases request with
    | registerMeasure measure => exact hsilent.symm
    | register view now =>
      show _ = m.received e ++
        if e ∈ m.exporters then m.registry.news (.request (.register view now)) else []
      rw [Registry.news_register]
      rcases register_new_or_not m.registry view now with ⟨r, hregister, -, hanswer⟩ | ⟨hnot, -⟩
      · rw [serve_register_of_new hregister, if_pos hanswer,
          received_foldl (fun m e' => received_deliver m e' e (.announcement view)), flatMap_once hm]
        rfl
      · rw [serve_register_of_not_new hnot, if_neg hnot, hsilent]
    | unregister name => exact hsilent.symm
    | record tags batch now attachments => exact hsilent.symm
  | registerExporter e' =>
    rw [serve, registerExporter, told]
    split
    next hmem =>
      have hnot : ¬(e' = e ∧ e ∉ m.exporters) := fun h => h.2 (h.1 ▸ hmem)
      rw [if_neg hnot, List.append_nil]
    next hnot =>
      refine (received_foldl (fun m view => received_deliver m e' e (.announcement view)) _ m).trans ?_
      by_cases h : e' = e
      · simp [h ▸ hnot, h, List.map_eq_flatMap]
      · simp [h]
  | unregisterExporter e' => exact hsilent.symm
  | exportAll answers now =>
    refine (received_foldl (fun m e' => received_exportTo answers _ m e' e) _ m).trans ?_
    rw [flatMap_once hm]
    rfl

end ViewManager

end Telemetry
