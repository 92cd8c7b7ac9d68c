import Telemetry.Stats.Manager

/-!
# Exporters of stats

Exporters that live in the process: one keeps what it gets in memory, the other refuses every batch. A
manager collects what exporters are to get, and `ViewManager.handOver` lets them have it.
-/

namespace Telemetry

/-- An exporter that keeps what it gets in memory. -/
structure MemoryExporter where
  /-- The views that it was told of. -/
  announced : Array View
  /-- The snapshots that it got. -/
  received : Array ViewData

namespace MemoryExporter

/-- The exporter that got nothing. -/
def empty : MemoryExporter := ⟨#[], #[]⟩

instance : Inhabited MemoryExporter := ⟨empty⟩

/-- Keeps a delivery. -/
def accept (m : MemoryExporter) : Delivery → MemoryExporter
  | .announcement view => { m with announced := m.announced.push view }
  | .batch data => { m with received := m.received ++ data }

end MemoryExporter

/-- An exporter in the process. -/
inductive StatsExporter where
  /-- It keeps what it gets. -/
  | keeping (store : MemoryExporter)
  /-- It refuses batches, so far `calls` of them. -/
  | refusing (refusal : ExportError) (calls : Nat)

namespace StatsExporter

instance : Inhabited StatsExporter := ⟨keeping .empty⟩

/-- What the exporter says to a batch. -/
def answer : StatsExporter → Except ExportError Unit
  | keeping _ => .ok ()
  | refusing refusal _ => .error refusal

/-- Takes a delivery. -/
def accept (d : Delivery) : StatsExporter → StatsExporter
  | keeping store => keeping (store.accept d)
  | refusing refusal calls =>
    match d with
    | .batch _ => refusing refusal (calls + 1)
    | .announcement _ => refusing refusal calls

end StatsExporter

/-- What the exporters say to a batch; one that is not known takes it. -/
def answersOf (exporters : Array StatsExporter) (e : ExporterRef) : Except ExportError Unit :=
  ((exporters[e.index]?).map (·.answer)).getD (.ok ())

/-- Lets the exporters have what was collected for them, in order. -/
def ViewManager.handOver (m : ViewManager) (exporters : Array StatsExporter) :
    Array StatsExporter × ViewManager :=
  (m.deliveries.foldl (fun all d => all.modify d.1.index (·.accept d.2)) exporters,
    { m with deliveries := #[] })

end Telemetry
