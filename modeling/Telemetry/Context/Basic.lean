import Telemetry.Context.AttachStack
import Telemetry.Tag.Map

/-!
# Contexts

What an operation carries along: the tags that annotate its recordings and the spans that it runs in. A
context is a plain value, so that a change to one copy never affects another. Spans are named by
references, and what has become of a span is looked up where the spans are kept.
-/

namespace Telemetry

/-- A reference to a span: the number of spans that were started before it. -/
structure SpanRef where
  /-- The number. -/
  index : Nat
  deriving DecidableEq, Repr, Inhabited

/-- The tags and spans of an operation. -/
structure Context where
  /-- The tags, if any were set. -/
  tags : Option TagMap
  /-- The spans that the operation runs in, the innermost first. -/
  spans : List SpanRef

namespace Context

/-- The context of an operation that carries nothing. -/
def empty : Context := ⟨none, []⟩

instance : Inhabited Context := ⟨empty⟩

/-- The context with other tags. -/
def withTags (cx : Context) (tags : TagMap) : Context := { cx with tags := some tags }

/-- The context with one more span, which becomes the innermost. -/
def withSpan (cx : Context) (span : SpanRef) : Context := { cx with spans := span :: cx.spans }

/-- The innermost span. -/
def span? (cx : Context) : Option SpanRef := cx.spans.head?

/-- The tags, or none at all. -/
def currentTags (cx : Context) : TagMap := cx.tags.getD OrderedMap.empty

end Context

end Telemetry
