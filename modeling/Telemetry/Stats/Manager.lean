import Telemetry.Export
import Telemetry.Stats.Registry

/-!
# View managers

A view manager registers views and passes snapshots of them on to exporters. An exporter is told of every
view once, before it gets data of it: of the views that are there when it is registered, and of later ones
when they are new. Each export hands the same batch of snapshots to every exporter, whatever the others
answer, and a refusal is reported.

What exporters are told and given is collected in order as deliveries.
-/

namespace Telemetry

/-- A reference to an exporter. -/
structure ExporterRef where
  /-- The number of the exporter. -/
  index : Nat
  deriving DecidableEq, Repr, Inhabited

/-- What an exporter gets. -/
inductive Delivery where
  /-- The view is registered. -/
  | announcement (view : View)
  /-- The snapshots of all views. -/
  | batch (data : List ViewData)

/-- A registry with exporters. -/
structure ViewManager where
  /-- The measures, views and cells. -/
  registry : Registry
  /-- The registered exporters, in the order in which they were registered. -/
  exporters : List ExporterRef
  /-- What exporters got, in order. -/
  deliveries : Array (ExporterRef × Delivery)
  /-- What was reported, in order. -/
  diagnostics : Array Diagnostic

namespace ViewManager

/-- The manager without views and exporters. -/
def empty : ViewManager := ⟨.empty, [], #[], #[]⟩

instance : Inhabited ViewManager := ⟨empty⟩

/-- Reports diagnostics. -/
def report (m : ViewManager) (ds : List Diagnostic) : ViewManager :=
  { m with diagnostics := m.diagnostics ++ ds }

/-- Delivers something to an exporter. -/
def deliver (m : ViewManager) (e : ExporterRef) (d : Delivery) : ViewManager :=
  { m with deliveries := m.deliveries.push (e, d) }

/-- Registers a view. All exporters are told of a new one. -/
def registerView (m : ViewManager) (view : View) (now : Timestamp) :
    Except StatsError ViewManager := do
  let (isNew, registry) ← m.registry.register view now
  if isNew then
    let m := { m with registry }.report [.viewRegistered view.name]
    return m.exporters.foldl (fun m e => m.deliver e (.announcement view)) m
  else return m

/-- Removes a view and its data; says whether there was one. -/
def unregisterView (m : ViewManager) (name : String) : Bool × ViewManager :=
  let (removed, registry) := m.registry.unregister name
  (removed, { m with registry })

/-- Registers an exporter, which is told of all views. Nothing happens if it is registered already. -/
def registerExporter (m : ViewManager) (e : ExporterRef) : ViewManager :=
  if e ∈ m.exporters then m
  else
    let m := m.registry.allViews.foldl (fun m view => m.deliver e (.announcement view)) m
    { m with exporters := m.exporters ++ [e] }

/-- Removes an exporter; says whether it was registered. -/
def unregisterExporter (m : ViewManager) (e : ExporterRef) : Bool × ViewManager :=
  (e ∈ m.exporters, { m with exporters := m.exporters.filter (· != e) })

/-- Hands a batch to an exporter, whose answer is given by `answers`. -/
def exportTo (answers : ExporterRef → Except ExportError Unit) (data : List ViewData)
    (m : ViewManager) (e : ExporterRef) : ViewManager :=
  let m := m.deliver e (.batch data)
  match answers e with
  | .ok _ => m
  | .error refusal => m.report [.exportFailed refusal.exporter refusal.reason]

/-- Hands the snapshots of all views to every exporter. -/
def exportAll (m : ViewManager) (answers : ExporterRef → Except ExportError Unit) (now : Timestamp) :
    ViewManager :=
  m.exporters.foldl (exportTo answers (m.registry.snapshots now)) m

/-- Records measurements. -/
def record (m : ViewManager) (tags : TagMap) (batch : List Measurement) (now : Timestamp)
    (attachments : Attachments) : ViewManager :=
  let (registry, reported) := m.registry.record tags batch now attachments
  { m with registry }.report reported

/-- All views in the form that monitoring systems take, in the order of their names. -/
def metrics (m : ViewManager) (now : Timestamp) : List Metric :=
  (m.registry.snapshots now).map (·.toMetric)

/-- The manager as a log shows it. -/
def describe (m : ViewManager) : String :=
  "ViewManager \x7b map: " ++ m.registry.describe ++ ", exporters: " ++
    toString m.exporters.length ++ " \x7d"

/-- The manager beside the recorder of its registry, as a log shows them. -/
def describeStats (m : ViewManager) : String :=
  "Stats \x7b view_manager: " ++ m.describe ++ ", stats_recorder: StatsRecorder \x7b map: " ++
    m.registry.describe ++ " \x7d \x7d"

end ViewManager

end Telemetry
