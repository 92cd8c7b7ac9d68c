import Mathlib.Data.List.Forall2
import Telemetry.Proofs.Manager.Calls

/-!
# What an exporter is told while it is registered

A session of an exporter starts with the call that registers it and lasts until it is removed
(`ExporterSince`).  `received_serveAll` says what it is told in a session: at first all views, then the
news of each call, in order, which depend on the history of the registry alone (`Registry.along`).

The main result is `protocol_serveAll`.  In a session each view is announced once when it is there at the
start, and once when it is registered later; each export hands over one batch, the snapshots of the views
that are registered at that moment; and the views of a batch were announced before it.  For the last
point, `Registry.Known` says that all registered views were announced, which every call preserves.
-/

namespace Telemetry

namespace Registry

/-! ### Batches -/

/-- The snapshots of the registered views at the moment `now`, each once, in the order of the names. -/
structure IsBatch (r : Registry) (now : Timestamp) (data : List ViewData) : Prop where
  mem_iff : ∀ d, d ∈ data ↔ ∃ name, r.snapshot? name now = some d
  ordered : data.Pairwise fun d d' => compare d.view.name d'.view.name = .lt

theorem isBatch_snapshots {r : Registry} (hr : Consistent r) (now : Timestamp) :
    r.IsBatch now (r.snapshots now) where
  mem_iff _ := OrderedMap.mem_map_values_iff
  ordered := List.pairwise_map.2 hr.pairwise_names

theorem mem_allViews_iff {r : Registry} {v : View} : v ∈ r.allViews ↔ ∃ name, r.view? name = some v :=
  OrderedMap.mem_map_values_iff

theorem pairwise_allViews {r : Registry} (hr : Consistent r) :
    r.allViews.Pairwise fun v v' => compare v.name v'.name = .lt :=
  List.pairwise_map.2 hr.pairwise_names

/-! ### Along a history -/

/-- What each of the calls gives for the registry as the calls before it leave it. -/
def along {β : Type} (r : Registry) (f : Registry → ManagerCall → List β) : List ManagerCall → List β
  | [] => []
  | call :: rest => f r call ++ (r.serveCall call).along f rest

theorem announcedIn_along (r : Registry) (calls : List ManagerCall) :
    announcedIn (r.along news calls) = r.along newViews calls := by
  induction calls generalizing r with
  | nil => rfl
  | cons call rest ih => rw [along, along, announcedIn_append, announcedIn_news, ih]

theorem batchesIn_along (r : Registry) (calls : List ManagerCall) :
    batchesIn (r.along news calls) =
      (r.along exports calls).map fun exported => exported.1.snapshots exported.2 := by
  induction calls generalizing r with
  | nil => rfl
  | cons call rest ih => rw [along, along, batchesIn_append, batchesIn_news, ih, List.map_append]

/-- Whatever is exported is the registry after some calls. -/
theorem consistent_of_mem_exports {r : Registry} (hr : Consistent r) {calls : List ManagerCall}
    {exported : Registry × Timestamp} (h : exported ∈ r.along exports calls) :
    Consistent exported.1 := by
  induction calls generalizing r with
  | nil => cases h
  | cons call rest ih =>
    rcases List.mem_append.1 h with h | h
    · cases call <;> simp only [exports, List.not_mem_nil, List.mem_singleton] at h
      rw [h]
      exact hr
    · exact ih (hr.serveCall call) h

/-! ### Known views -/

/-- All registered views were announced. -/
def Known (r : Registry) (heard : List Delivery) : Prop :=
  ∀ n v, r.views.get? n = some v → .announcement v.view ∈ heard

theorem known_allViews (r : Registry) : r.Known (r.allViews.map .announcement) := fun n v hv =>
  List.mem_map_of_mem (mem_allViews_iff.2 ⟨n, by rw [view?, hv]; rfl⟩)

/-- **The news of a call keep all registered views known.** -/
theorem Known.serveCall {r : Registry} (hr : Consistent r) {heard : List Delivery}
    (h : r.Known heard) (call : ManagerCall) :
    (r.serveCall call).Known (heard ++ r.news call) := by
  intro n v hv
  cases call with
  | request request =>
    rcases of_isSome_get?_serve hr (Option.isSome_iff_exists.2 ⟨v, hv⟩) with
      ⟨hsome, hkept⟩ | ⟨view, now, r', rfl, rfl, hregister⟩
    · -- The view was there before, with this definition.
      obtain ⟨v₀, hv₀⟩ := Option.isSome_iff_exists.1 hsome
      obtain ⟨v', hv', hcontinues⟩ := continues_serve hr hv₀ hkept
      obtain rfl := Option.some.inj (hv.symm.trans hv')
      rw [hcontinues.view]
      exact List.mem_append_left _ (h n v₀ hv₀)
    · -- The view is new, and the call announces it.
      have hanswer : r.answer (.register view now) = .ok true := by rw [answer, hregister]; rfl
      have hserve : r.serveCall (.request (.register view now)) = r' := by
        rw [Registry.serveCall, serve, hregister]; rfl
      rw [hserve, get?_views_of_register hregister, if_pos rfl] at hv
      obtain rfl := Option.some.inj hv
      rw [news_register, if_pos hanswer]
      exact List.mem_append_right _ (List.mem_singleton_self _)
  | _ => exact List.mem_append_left _ (h n v hv)

theorem of_batch_mem_news {r : Registry} {call : ManagerCall} {data : List ViewData}
    (h : .batch data ∈ r.news call) : ∃ now, data = r.snapshots now := by
  simp only [news, List.mem_append, List.mem_map, reduceCtorEq, and_false, exists_false, false_or] at h
  obtain ⟨exported, hmem, hdata⟩ := h
  cases call <;> simp only [exports, List.not_mem_nil, List.mem_singleton] at hmem
  subst hmem
  exact ⟨_, (Delivery.batch.inj hdata).symm⟩

/-- The views of a batch of a registry are known if its views are. -/
theorem Known.of_mem_snapshots {r : Registry} {heard : List Delivery} (h : r.Known heard)
    {now : Timestamp} {d : ViewData} (hd : d ∈ r.snapshots now) : .announcement d.view ∈ heard := by
  obtain ⟨v, hv, rfl⟩ := List.mem_map.1 hd
  obtain ⟨n, hv⟩ := OrderedMap.mem_values_iff.1 hv
  exact h n v hv

end Registry

/-- What comes after a part without `x` is cut at the same place. -/
theorem cut_of_not_mem {α : Type} {a b l₁ l₂ : List α} {x : α} (h : a ++ b = l₁ ++ x :: l₂)
    (hx : x ∉ a) : ∃ l, l₁ = a ++ l ∧ b = l ++ x :: l₂ := by
  rcases List.append_eq_append_iff.1 h with ⟨l, hl₁, hb⟩ | ⟨l, ha, hl⟩
  · exact ⟨l, hl₁, hb⟩
  · cases l with
    | nil => exact ⟨[], by rw [ha, List.append_nil, List.append_nil], hl.symm⟩
    | cons y rest =>
      obtain ⟨rfl, -⟩ := List.cons.inj hl
      exact absurd (ha ▸ List.mem_append_right _ List.mem_cons_self) hx

/-- **The views of a batch were announced before it.** -/
theorem Registry.announced_before_batch {r : Registry} (hr : Consistent r) {heard : List Delivery}
    (hknown : r.Known heard) {calls : List ManagerCall} {earlier later : List Delivery}
    {data : List ViewData} (h : r.along news calls = earlier ++ .batch data :: later) {d : ViewData}
    (hd : d ∈ data) : .announcement d.view ∈ heard ++ earlier := by
  induction calls generalizing r heard earlier with
  | nil => simp [along] at h
  | cons call rest ih =>
    by_cases hbatch : .batch data ∈ r.news call
    · obtain ⟨now, rfl⟩ := of_batch_mem_news hbatch
      exact List.mem_append_left _ (hknown.of_mem_snapshots hd)
    · obtain ⟨between, rfl, hrest⟩ := cut_of_not_mem h hbatch
      rw [← List.append_assoc]
      exact ih (hr.serveCall call) (hknown.serveCall hr call) hrest

/-! ### Sessions -/

/-- The exporter `e` is registered by the call after `before`, where it was not registered, and not
removed by the calls `since`. -/
structure ExporterSince (calls before : List ManagerCall) (e : ExporterRef)
    (since : List ManagerCall) : Prop where
  split : calls = before ++ .registerExporter e :: since
  registered : e ∉ (ViewManager.empty.serveAll before).exporters
  kept : .unregisterExporter e ∉ since

/-- What an exporter is told in a session, where `start` is the registry at its start. -/
structure Informed (start : Registry) (since : List ManagerCall) (told : List Delivery) : Prop where
  /-- It is told once of each view that is there at the start, and then once of each new one when it is
  registered. -/
  announced : ∃ present, announcedIn told = present ++ start.along Registry.newViews since ∧
    (∀ v, v ∈ present ↔ ∃ name, start.view? name = some v) ∧
    present.Pairwise fun v v' => compare v.name v'.name = .lt
  /-- It gets one batch for each export. -/
  batches : List.Forall₂ (fun exported data => exported.1.IsBatch exported.2 data)
    (start.along Registry.exports since) (batchesIn told)
  /-- It was told of the views of a batch before it got the batch. -/
  known : ∀ {earlier data later}, told = earlier ++ .batch data :: later →
    ∀ d ∈ data, .announcement d.view ∈ earlier

namespace ViewManager

/-- No exporter is registered twice, and the maps of the registry belong together. -/
structure WellFormed (m : ViewManager) : Prop where
  distinct : m.exporters.Nodup
  consistent : Registry.Consistent m.registry

theorem wellFormed_empty : WellFormed empty := ⟨List.nodup_nil, Registry.consistent_empty⟩

theorem WellFormed.serve {m : ViewManager} (hm : m.WellFormed) (call : ManagerCall) :
    (m.serve call).WellFormed where
  distinct := nodup_exporters_serve hm.distinct call
  consistent := by rw [registry_serve]; exact hm.consistent.serveCall call

theorem WellFormed.serveAll {m : ViewManager} (hm : m.WellFormed) (calls : List ManagerCall) :
    (m.serveAll calls).WellFormed := by
  induction calls generalizing m with
  | nil => exact hm
  | cons call rest ih => exact ih (hm.serve call)

theorem told_of_mem {m : ViewManager} {e : ExporterRef} (he : e ∈ m.exporters) (call : ManagerCall) :
    m.told e call = m.registry.news call := by
  cases call with
  | registerExporter e' => exact if_neg fun h => h.2 he
  | _ => exact if_pos he

theorem told_of_not_mem {m : ViewManager} {e : ExporterRef} (he : e ∉ m.exporters) {call : ManagerCall}
    (hcall : call ≠ .registerExporter e) : m.told e call = [] := by
  cases call with
  | registerExporter e' => exact if_neg fun h => hcall (by rw [h.1])
  | _ => exact if_neg he

/-- **A registered exporter is told the news of each call**, and stays registered unless a call removes
it. -/
theorem received_serveAll {m : ViewManager} (hm : m.WellFormed) {e : ExporterRef}
    (he : e ∈ m.exporters) {calls : List ManagerCall} (hkept : .unregisterExporter e ∉ calls) :
    (m.serveAll calls).received e = m.received e ++ m.registry.along Registry.news calls ∧
      e ∈ (m.serveAll calls).exporters := by
  induction calls generalizing m with
  | nil => exact ⟨(List.append_nil _).symm, he⟩
  | cons call rest ih =>
    obtain ⟨hne, hrest⟩ := not_or.1 (mt List.mem_cons.2 hkept)
    obtain ⟨hreceived, hmem⟩ :=
      ih (hm.serve call) (mem_exporters_serve.2 (.inr ⟨he, Ne.symm hne⟩)) hrest
    refine ⟨hreceived.trans ?_, hmem⟩
    rw [received_serve hm.distinct, told_of_mem he, registry_serve, Registry.along, List.append_assoc]

/-- What an exporter is told in a session. -/
theorem received_of_exporterSince {calls before since : List ManagerCall} {e : ExporterRef}
    (h : ExporterSince calls before e since) :
    (empty.serveAll calls).received e = (empty.serveAll before).received e ++
        ((empty.serveAll before).registry.allViews.map .announcement ++
          (empty.serveAll before).registry.along Registry.news since) ∧
      e ∈ (empty.serveAll calls).exporters := by
  have hm := wellFormed_empty.serveAll before
  obtain ⟨hreceived, hmem⟩ :=
    received_serveAll (hm.serve (.registerExporter e)) (mem_exporters_serve.2 (.inl rfl)) h.kept
  rw [h.split, serveAll_append]
  refine ⟨hreceived.trans ?_, hmem⟩
  rw [received_serve hm.distinct, told, if_pos ⟨rfl, h.registered⟩, registry_serve, List.append_assoc]
  rfl

/-- A registered exporter is in a session. -/
theorem exists_exporterSince {calls : List ManagerCall} {e : ExporterRef}
    (h : e ∈ (empty.serveAll calls).exporters) : ∃ before since, ExporterSince calls before e since := by
  induction calls using List.reverseRecOn with
  | nil => cases h
  | append_singleton calls call ih =>
    rw [serveAll_append] at h
    by_cases he : e ∈ (empty.serveAll calls).exporters
    · -- The session goes on, since the call does not remove the exporter.
      have hne : call ≠ .unregisterExporter e := by
        rcases mem_exporters_serve.1 h with rfl | ⟨-, hne⟩
        · exact nofun
        · exact hne
      obtain ⟨before, since, hsince⟩ := ih he
      refine ⟨before, since ++ [call], ?_, hsince.registered, ?_⟩
      · rw [hsince.split, List.append_assoc, List.cons_append]
      · simpa [hne.symm] using hsince.kept
    · rcases mem_exporters_serve.1 h with rfl | ⟨hmem, -⟩
      · exact ⟨calls, [], rfl, he, List.not_mem_nil⟩
      · exact absurd hmem he

/-- To be told of all views and then the news of each call is to be informed. -/
theorem informed_news {start : Registry} (hr : Registry.Consistent start) (since : List ManagerCall) :
    Informed start since (start.allViews.map .announcement ++ start.along Registry.news since) where
  announced := by
    refine ⟨start.allViews, ?_, fun v => Registry.mem_allViews_iff, Registry.pairwise_allViews hr⟩
    rw [announcedIn_append, announcedIn_announcements, Registry.announcedIn_along]
  batches := by
    rw [batchesIn_append, batchesIn_announcements, Registry.batchesIn_along, List.nil_append,
      List.forall₂_map_right_iff, List.forall₂_same]
    intro exported hexported
    exact Registry.isBatch_snapshots (Registry.consistent_of_mem_exports hr hexported) _
  known := by
    intro earlier data later h d hd
    have hbatch : .batch data ∉ start.allViews.map Delivery.announcement := by simp
    obtain ⟨between, rfl, hrest⟩ := cut_of_not_mem h hbatch
    exact Registry.announced_before_batch hr start.known_allViews hrest hd

/-- What holds of the manager `m` after `calls`, and of one more call to it. -/
structure Protocol (calls : List ManagerCall) (m : ViewManager) : Prop where
  /-- An exporter is registered exactly while a session of it lasts. -/
  registered : ∀ e, e ∈ m.exporters ↔ ∃ before since, ExporterSince calls before e since
  /-- In a session the exporter is told of views and gets batches as `Informed` says. -/
  session : ∀ {before e since}, ExporterSince calls before e since → ∃ told,
    m.received e = (empty.serveAll before).received e ++ told ∧
      Informed (empty.serveAll before).registry since told
  /-- An export hands one batch to each registered exporter, the same to all, whatever they answer. -/
  exported : ∀ now, ∃ data, m.registry.IsBatch now data ∧ ∀ answers e,
    (m.serve (.exportAll answers now)).received e =
      m.received e ++ if e ∈ m.exporters then [.batch data] else []
  /-- An exporter that is not registered is told nothing, unless it becomes registered. -/
  silent : ∀ {e}, e ∉ m.exporters → ∀ {call}, call ≠ .registerExporter e →
    (m.serve call).received e = m.received e

/-- **Exporters are told of every view once and before any data of it**, whatever is asked of the
manager and in whatever order. -/
theorem protocol_serveAll (calls : List ManagerCall) : Protocol calls (empty.serveAll calls) := by
  have hm := wellFormed_empty.serveAll calls
  constructor
  · intro e
    refine ⟨exists_exporterSince, ?_⟩
    rintro ⟨before, since, h⟩
    exact (received_of_exporterSince h).2
  · intro before e since h
    exact ⟨_, (received_of_exporterSince h).1,
      informed_news (wellFormed_empty.serveAll before).consistent since⟩
  · intro now
    refine ⟨_, Registry.isBatch_snapshots hm.consistent now, fun answers e => ?_⟩
    rw [received_serve hm.distinct]
    rfl
  · intro e he call hcall
    rw [received_serve hm.distinct, told_of_not_mem he hcall, List.append_nil]

end ViewManager

end Telemetry
