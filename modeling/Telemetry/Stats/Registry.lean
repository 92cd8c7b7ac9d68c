import Telemetry.Stats.Snapshot

/-!
# The registry of measures and views

The registry knows the measures and the views, and holds the cells of the views. Beside them it keeps for
each measure the names of its views, in the order in which they were registered, which is the order in
which a recording reaches them.

A recording is a batch of measurements with tags. A measurement counts if its measure is the one that is
registered under its name, its value is of the kind of the measure, and the value is a finite number;
otherwise it is dropped and reported. One that counts is folded, for each view of its measure, into the
cell of the values that the tags have in the columns of the view.
-/

namespace Telemetry

/-- A registered view. -/
structure RegisteredView where
  /-- The view. -/
  view : View
  /-- When it was registered. -/
  startTime : Timestamp
  /-- Its cells. -/
  rows : OrderedMap TagTuple Cell

namespace RegisteredView

/-- Folds a value into the cell for the tags. -/
def record (r : RegisteredView) (tags : TagMap) (value : MeasureValue) (now : Timestamp)
    (attachments : Attachments) : RegisteredView :=
  let tuple := r.view.tuple tags
  let cell := (r.rows.get? tuple).getD r.view.newCell
  { r with rows := r.rows.insert tuple (cell.add value now attachments) }

/-- The view with its cells at the moment `now`. -/
def snapshot (r : RegisteredView) (now : Timestamp) : ViewData := ⟨r.view, r.startTime, now, r.rows⟩

end RegisteredView

/-- The measures and views. -/
structure Registry where
  /-- The measures, by name. -/
  measures : OrderedMap String Measure
  /-- The views, by name. -/
  views : OrderedMap String RegisteredView
  /-- The names of the views of each measure, in the order in which they were registered. -/
  subscribers : OrderedMap String (List String)

/-- A measure and a number recorded for it. -/
structure Measurement where
  /-- The measure. -/
  measure : Measure
  /-- The number. -/
  value : MeasureValue
  deriving DecidableEq

namespace Registry

/-- The registry that knows nothing. -/
def empty : Registry := ⟨.empty, .empty, .empty⟩

instance : Inhabited Registry := ⟨empty⟩

/-- The names of the views of the measure `name`. -/
def subscribersOf (r : Registry) (name : String) : List String :=
  (r.subscribers.get? name).getD []

/-- Registers a measure; says whether it is new. -/
def registerMeasure (r : Registry) (measure : Measure) : Except StatsError (Bool × Registry) :=
  match r.measures.get? measure.name with
  | some known =>
    if known = measure then .ok (false, r) else .error (.measureConflict measure.name)
  | none => .ok (true, { r with measures := r.measures.insert measure.name measure })

/-- Adds a view whose name is free and whose measure is registered. -/
def addView (r : Registry) (view : View) (now : Timestamp) : Registry :=
  let measure := view.measure.name
  { r with
    views := r.views.insert view.name ⟨view, now, .empty⟩
    subscribers := r.subscribers.insert measure (r.subscribersOf measure ++ [view.name]) }

/-- Registers a view and its measure; says whether the view is new. -/
def register (r : Registry) (view : View) (now : Timestamp) : Except StatsError (Bool × Registry) :=
  match r.views.get? view.name with
  | some known =>
    if known.view = view then .ok (false, r) else .error (.duplicateView view.name)
  | none => do
    let (_, r) ← r.registerMeasure view.measure
    return (true, r.addView view now)

/-- Removes a view with its cells; says whether there was one. Its measure stays. -/
def unregister (r : Registry) (name : String) : Bool × Registry :=
  match r.views.get? name with
  | none => (false, r)
  | some known =>
    let measure := known.view.measure.name
    (true,
      { r with
        views := r.views.erase name
        subscribers := r.subscribers.insert measure ((r.subscribersOf measure).filter (· != name)) })

/-- Why a measurement does not count; `none` if it does. -/
def rejection? (r : Registry) (m : Measurement) : Option Diagnostic :=
  match r.measures.get? m.measure.name with
  | none => some (.unknownMeasure m.measure.name)
  | some known =>
    if known ≠ m.measure then some (.measureMismatch m.measure.name)
    else if m.value.kind ≠ m.measure.kind then some (.valueKindMismatch m.measure.name)
    else if !m.value.isFinite then some (.nonFiniteValue m.measure.name)
    else none

/-- Folds a value into the view `name`. -/
def recordIn (tags : TagMap) (value : MeasureValue) (now : Timestamp) (attachments : Attachments)
    (r : Registry) (name : String) : Registry :=
  match r.views.get? name with
  | some known =>
    { r with views := r.views.insert name (known.record tags value now attachments) }
  | none => r

/-- Folds one measurement into the views of its measure, or says why it does not count. -/
def recordOne (r : Registry) (tags : TagMap) (m : Measurement) (now : Timestamp)
    (attachments : Attachments) : Registry × List Diagnostic :=
  match r.rejection? m with
  | some d => (r, [d])
  | none => ((r.subscribersOf m.measure.name).foldl (recordIn tags m.value now attachments) r, [])

/-- Folds the measurements of a batch, in order. -/
def record (r : Registry) (tags : TagMap) (batch : List Measurement) (now : Timestamp)
    (attachments : Attachments) : Registry × List Diagnostic :=
  batch.foldl
    (fun (r, reported) m =>
      let (r, more) := r.recordOne tags m now attachments
      (r, reported ++ more))
    (r, [])

/-- The view `name` with its cells at the moment `now`. -/
def snapshot? (r : Registry) (name : String) (now : Timestamp) : Option ViewData :=
  (r.views.get? name).map (·.snapshot now)

/-- All views with their cells, in the order of their names. -/
def snapshots (r : Registry) (now : Timestamp) : List ViewData :=
  r.views.values.map (·.snapshot now)

/-- The view `name`. -/
def view? (r : Registry) (name : String) : Option View := (r.views.get? name).map (·.view)

/-- All views, in the order of their names. -/
def allViews (r : Registry) : List View := r.views.values.map (·.view)

/-- The measure `name`. -/
def measure? (r : Registry) (name : String) : Option Measure := r.measures.get? name

/-- The registry as a log shows it. -/
def describe (r : Registry) : String :=
  "MeasureToViewMap \x7b measures: " ++ toString r.measures.size ++ ", views: " ++
    toString r.views.size ++ " \x7d"

end Registry

end Telemetry
