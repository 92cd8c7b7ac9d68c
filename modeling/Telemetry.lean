import Telemetry.Context.AttachStack
import Telemetry.Context.Basic
import Telemetry.Diagnostic
import Telemetry.Error
import Telemetry.Execution.Basic
import Telemetry.Execution.Scope
import Telemetry.Execution.Spans
import Telemetry.Export
import Telemetry.Numeral.Binary64
import Telemetry.Numeral.Bytes
import Telemetry.Numeral.Hex
import Telemetry.Numeral.Shortest
import Telemetry.OrderedMap
import Telemetry.Proofs.Context.AttachStack
import Telemetry.Proofs.Context.Guards
import Telemetry.Proofs.Context.Places
import Telemetry.Proofs.Execution.Alignment
import Telemetry.Proofs.Execution.DirectProgram
import Telemetry.Proofs.Execution.Ending
import Telemetry.Proofs.Execution.Events
import Telemetry.Proofs.Execution.ExportedAccounts
import Telemetry.Proofs.Execution.Frame
import Telemetry.Proofs.Execution.Genealogy
import Telemetry.Proofs.Execution.Handover
import Telemetry.Proofs.Execution.Isolation
import Telemetry.Proofs.Execution.LastStatus
import Telemetry.Proofs.Execution.LoneTracer
import Telemetry.Proofs.Execution.Nesting
import Telemetry.Proofs.Execution.NewestEnd
import Telemetry.Proofs.Execution.OpenStack
import Telemetry.Proofs.Execution.Parents
import Telemetry.Proofs.Execution.Process
import Telemetry.Proofs.Execution.Program
import Telemetry.Proofs.Execution.Rewind
import Telemetry.Proofs.Execution.ScopeExit
import Telemetry.Proofs.Execution.SpanAccounts
import Telemetry.Proofs.Execution.SpanCall
import Telemetry.Proofs.Execution.SpanLog
import Telemetry.Proofs.Execution.TaskLife
import Telemetry.Proofs.Execution.Thread
import Telemetry.Proofs.Manager.Calls
import Telemetry.Proofs.Manager.Metrics
import Telemetry.Proofs.Manager.Sessions
import Telemetry.Proofs.Numeral.ExactNumber
import Telemetry.Proofs.Numeral.FloatOrder
import Telemetry.Proofs.Numeral.Positional
import Telemetry.Proofs.Numeral.Scaling
import Telemetry.Proofs.OrderedMap
import Telemetry.Proofs.PeriodicTask.Answers
import Telemetry.Proofs.PeriodicTask.Progress
import Telemetry.Proofs.Propagation.B3Layouts
import Telemetry.Proofs.Propagation.B3Leftovers
import Telemetry.Proofs.Propagation.BinaryContext
import Telemetry.Proofs.Propagation.CloudTraceGrammar
import Telemetry.Proofs.Propagation.Fields
import Telemetry.Proofs.Propagation.LossyRoundTrip
import Telemetry.Proofs.Propagation.Traceparent
import Telemetry.Proofs.Propagation.TraceparentGrammar
import Telemetry.Proofs.Registry.Cells
import Telemetry.Proofs.Registry.Consistency
import Telemetry.Proofs.Registry.History
import Telemetry.Proofs.Registry.InPlace
import Telemetry.Proofs.Registry.Invariant
import Telemetry.Proofs.Registry.OrderIndependence
import Telemetry.Proofs.Registry.Recording
import Telemetry.Proofs.Registry.SampleOrder
import Telemetry.Proofs.Stats.Bounds
import Telemetry.Proofs.Stats.Buckets
import Telemetry.Proofs.Stats.Histogram
import Telemetry.Proofs.Stats.Moments
import Telemetry.Proofs.Tag.Format
import Telemetry.Proofs.Tag.Reencoding
import Telemetry.Proofs.Tag.RoundTrip
import Telemetry.Proofs.Text.Boundary
import Telemetry.Proofs.Text.Pieces
import Telemetry.Proofs.Text.Utf8
import Telemetry.Proofs.Trace.CanonicalId
import Telemetry.Proofs.Trace.Id
import Telemetry.Proofs.Trace.KeyGrammar
import Telemetry.Proofs.Trace.Sampling
import Telemetry.Proofs.Trace.StateHeader
import Telemetry.Proofs.Trace.StateInsertion
import Telemetry.Proofs.Trace.StateKeys
import Telemetry.Proofs.Trace.StateLimits
import Telemetry.Proofs.Trace.StateMembers
import Telemetry.Proofs.Trace.StateText
import Telemetry.Proofs.Trace.Truncation
import Telemetry.Propagation.B3
import Telemetry.Propagation.BinaryContext
import Telemetry.Propagation.Carrier
import Telemetry.Propagation.CloudTrace
import Telemetry.Propagation.Propagator
import Telemetry.Propagation.Traceparent
import Telemetry.Stats.Aggregation
import Telemetry.Stats.Batch
import Telemetry.Stats.Buckets
import Telemetry.Stats.Distribution
import Telemetry.Stats.Error
import Telemetry.Stats.Exporter
import Telemetry.Stats.Manager
import Telemetry.Stats.Measure
import Telemetry.Stats.PeriodicTask
import Telemetry.Stats.Registry
import Telemetry.Stats.Snapshot
import Telemetry.Stats.View
import Telemetry.Tag.Basic
import Telemetry.Tag.Codec
import Telemetry.Tag.Map
import Telemetry.Text.Blank
import Telemetry.Text.Casing
import Telemetry.Text.CharSet
import Telemetry.Text.Lowercase
import Telemetry.Text.Pieces
import Telemetry.Text.Printable
import Telemetry.Text.Quoted
import Telemetry.Text.Utf8
import Telemetry.Time
import Telemetry.Trace.Attribute
import Telemetry.Trace.Error
import Telemetry.Trace.Id
import Telemetry.Trace.IdSource
import Telemetry.Trace.Record
import Telemetry.Trace.Sampler
import Telemetry.Trace.SpanContext
import Telemetry.Trace.State
import Telemetry.Trace.Status
import Telemetry.Trace.Tracer
