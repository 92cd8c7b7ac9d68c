import Telemetry.Proofs.Trace.Id
import Telemetry.Propagation.B3

/-!
# B3 headers in a used carrier

The layout with several headers writes three of the six headers that are read, and a header can be set but
not taken away.  What an earlier request left in the other three stays: a single header is all that is
read (`extract_inject_of_single`), and otherwise the parent must still be well formed and the debug flag
still counts (`extract_inject_of_no_single`).  `extract_inject_multiple_iff` puts the two together.
-/

namespace Telemetry.Propagation.B3

open Numeral (IsHex)

/-! ### Headers -/

/-- All headers that are read. -/
def readHeaders : List String :=
  [singleHeader, traceHeader, spanHeader, parentHeader, sampledHeader, flagsHeader]

/-- The headers are told apart without regard to case. -/
theorem lowercase_inj {name other : String} (hname : name ∈ readHeaders) (hother : other ∈ readHeaders) :
    Text.lowercase name = Text.lowercase other ↔ name = other := by
  have hall : ∀ name ∈ readHeaders, ∀ other ∈ readHeaders,
      Text.lowercase name = Text.lowercase other → name = other := by decide +kernel
  exact ⟨hall name hname other hother, congrArg Text.lowercase⟩

/-- **What is in the headers after several are written**: the three that are written hold the context, and
the others are as they were. -/
theorem header?_inject_multiple {cx : SpanContext} (hvalid : cx.isValid = true) (carrier : Carrier)
    {name : String} (hname : name ∈ readHeaders) :
    (inject .multiple cx carrier).header? name =
      if name = sampledHeader then some (writeSampled cx)
      else if name = spanHeader then some cx.spanId.hex
      else if name = traceHeader then some cx.traceId.hex
      else carrier.header? name := by
  have htrace := lowercase_inj (by decide : traceHeader ∈ readHeaders) hname
  have hspan := lowercase_inj (by decide : spanHeader ∈ readHeaders) hname
  have hsampled := lowercase_inj (by decide : sampledHeader ∈ readHeaders) hname
  rw [inject, if_pos hvalid]
  show (((carrier.setHeader traceHeader cx.traceId.hex).setHeader spanHeader
    cx.spanId.hex).setHeader sampledHeader (writeSampled cx)).header? name = _
  simp only [Carrier.header?_setHeader, htrace, hspan, hsampled, eq_comm]

/-! ### What is read back -/

theorem readTraceId?_hex (id : TraceId) : readTraceId? id.hex = some id := by
  have hlength : id.hex.toList.length ≠ 16 := by
    rw [id.isHex_hex.length_eq]
    decide
  rw [readTraceId?, if_neg hlength, TraceId.ofHex?_hex]

/-- The options that stand for the sampling decision. -/
def samplingOf (cx : SpanContext) : TraceOptions :=
  if cx.isSampled then .sampled else .notSampled

theorem readSampled?_writeSampled (cx : SpanContext) :
    readSampled? (writeSampled cx) = some (samplingOf cx) := by
  rw [writeSampled, samplingOf]
  cases cx.isSampled <;> rfl

theorem readFlags?_eq_some_iff {flags : String} {options : TraceOptions} :
    readFlags? flags = some options ↔
      (flags = "" ∨ flags = "0") ∧ options = .notSampled ∨ flags = "1" ∧ options = .sampled := by
  rw [eq_comm (a := options), eq_comm (a := options)]
  unfold readFlags?
  split <;> simp_all

theorem assemble?_eq_some_iff {traceId : TraceId} {spanId : SpanId} {options : TraceOptions}
    {cx : SpanContext} :
    assemble? traceId spanId options = some cx ↔
      cx = ⟨traceId, spanId, options, .empty⟩ ∧ cx.isValid = true := by
  rw [assemble?]
  split
  next hvalid =>
    constructor
    · rintro ⟨⟩
      exact ⟨rfl, hvalid⟩
    · rintro ⟨rfl, -⟩
      rfl
  next hvalid =>
    refine iff_of_false nofun ?_
    rintro ⟨rfl, hvalid'⟩
    exact hvalid hvalid'

/-- The parent's identifier is well formed if it is given. -/
def ParentFits (carrier : Carrier) : Prop :=
  ∀ parent, carrier.header? parentHeader = some parent → IsHex 16 parent.toList

/-- **What the headers `X-B3-…` say.** -/
theorem readMultiple?_eq_some_iff {carrier : Carrier} {cx : SpanContext} :
    readMultiple? carrier = some cx ↔
      readTraceId? ((carrier.header? traceHeader).getD "") = some cx.traceId ∧
      SpanId.ofHex? ((carrier.header? spanHeader).getD "") = some cx.spanId ∧
      ParentFits carrier ∧
      (∃ sampled flags, readSampled? ((carrier.header? sampledHeader).getD "") = some sampled ∧
        readFlags? ((carrier.header? flagsHeader).getD "") = some flags ∧
        cx.options = sampled ||| flags) ∧
      cx.state = .empty ∧ cx.isValid = true := by
  have hparent : ParentFits carrier ↔ ∃ id, (carrier.header? parentHeader).elim (some .none)
      SpanId.ofHex? = some id := by
    cases h : carrier.header? parentHeader with
    | none => simp [ParentFits, h]
    | some parent =>
      simp only [ParentFits, h, Option.some.injEq, forall_eq', Option.elim_some,
        SpanId.ofHex?_eq_some_iff, ← SpanId.exists_hex_eq_iff, String.toList_inj]
      exact exists_congr fun id => eq_comm
  have hread : readMultiple? carrier =
      (readTraceId? ((carrier.header? traceHeader).getD "")).bind fun traceId =>
      (SpanId.ofHex? ((carrier.header? spanHeader).getD "")).bind fun spanId =>
      ((carrier.header? parentHeader).elim (some .none) SpanId.ofHex?).bind fun _ =>
      (readSampled? ((carrier.header? sampledHeader).getD "")).bind fun sampled =>
      (readFlags? ((carrier.header? flagsHeader).getD "")).bind fun flags =>
      assemble? traceId spanId (sampled ||| flags) := by
    rw [readMultiple?]
    cases carrier.header? parentHeader <;> rfl
  rw [hread, hparent]
  simp only [Option.bind_eq_some_iff, assemble?_eq_some_iff]
  constructor
  · rintro ⟨trace, htrace, span, hspan, parent, hfits, sampled, hsampled, flags, hflags, rfl, hvalid⟩
    exact ⟨htrace, hspan, ⟨parent, hfits⟩, ⟨sampled, flags, hsampled, hflags, rfl⟩, rfl, hvalid⟩
  · obtain ⟨trace, span, options, state⟩ := cx
    rintro ⟨htrace, hspan, ⟨parent, hfits⟩, ⟨sampled, flags, hsampled, hflags, rfl⟩, rfl, hvalid⟩
    exact ⟨trace, htrace, span, hspan, parent, hfits, sampled, hsampled, flags, hflags, rfl, hvalid⟩

/-! ### Leftovers -/

/-- **A single header that was left behind is all that is read.** -/
theorem extract_inject_of_single {cx : SpanContext} (hvalid : cx.isValid = true) {carrier : Carrier}
    (hsingle : carrier.header? singleHeader ≠ none) :
    extract (inject .multiple cx carrier) = extract carrier := by
  have hsame : (inject .multiple cx carrier).header? singleHeader = carrier.header? singleHeader :=
    header?_inject_multiple hvalid carrier (by decide)
  rw [extract, extract, hsame]
  cases h : carrier.header? singleHeader with
  | none => exact absurd h hsingle
  | some value => rfl

/-- **Without a single header** the context comes back, with the debug flag that was left behind added to
its sampling decision, if this flag and the parent can be read; if not, nothing comes back. -/
theorem extract_inject_of_no_single {cx cx' : SpanContext} (hvalid : cx.isValid = true)
    {carrier : Carrier} (hsingle : carrier.header? singleHeader = none) :
    extract (inject .multiple cx carrier) = some cx' ↔
      ParentFits carrier ∧
        ∃ flags, readFlags? ((carrier.header? flagsHeader).getD "") = some flags ∧
          cx' = ⟨cx.traceId, cx.spanId, samplingOf cx ||| flags, .empty⟩ := by
  obtain ⟨used, hused⟩ : ∃ used, used = inject .multiple cx carrier := ⟨_, rfl⟩
  have hheader : ∀ name ∈ readHeaders, used.header? name = _ := fun name hname =>
    hused ▸ header?_inject_multiple hvalid carrier hname
  have hsingle' : used.header? singleHeader = none := (hheader _ (by decide)).trans hsingle
  have htrace : used.header? traceHeader = some cx.traceId.hex := hheader _ (by decide)
  have hspan : used.header? spanHeader = some cx.spanId.hex := hheader _ (by decide)
  have hsampled : used.header? sampledHeader = some (writeSampled cx) := hheader _ (by decide)
  have hparent : used.header? parentHeader = carrier.header? parentHeader := hheader _ (by decide)
  have hflags : used.header? flagsHeader = carrier.header? flagsHeader := hheader _ (by decide)
  rw [← hused, extract, hsingle']
  dsimp only
  rw [readMultiple?_eq_some_iff, htrace, hspan, hsampled, hflags, ParentFits, hparent,
    Option.getD_some, Option.getD_some, Option.getD_some, readTraceId?_hex, SpanId.ofHex?_hex,
    readSampled?_writeSampled]
  constructor
  · rintro ⟨htrace', hspan', hfits, ⟨sampled, flags, hsampled', hread, hoptions⟩, hstate, -⟩
    obtain ⟨trace, span, options, state⟩ := cx'
    cases htrace'
    cases hspan'
    cases hsampled'
    cases hoptions
    cases hstate
    exact ⟨hfits, flags, hread, rfl⟩
  · rintro ⟨hfits, flags, hread, rfl⟩
    exact ⟨rfl, rfl, hfits, ⟨_, flags, rfl, hread, rfl⟩, rfl, hvalid⟩

/-- The other context has the same identifiers and the same sampling decision, and no trace state. -/
structure Agrees (cx cx' : SpanContext) : Prop where
  /-- The trace. -/
  traceId : cx'.traceId = cx.traceId
  /-- The span. -/
  spanId : cx'.spanId = cx.spanId
  /-- The sampling decision. -/
  isSampled : cx'.isSampled = cx.isSampled
  /-- The trace state. -/
  state : cx'.state = .empty

/-- The debug flag is not set, or the trace is kept anyway. -/
def FlagFits (cx : SpanContext) (carrier : Carrier) : Prop :=
  ∀ flags, carrier.header? flagsHeader = some flags →
    flags = "" ∨ flags = "0" ∨ flags = "1" ∧ cx.isSampled = true

theorem agrees_iff {cx : SpanContext} {flags : TraceOptions} :
    Agrees cx ⟨cx.traceId, cx.spanId, samplingOf cx ||| flags, .empty⟩ ↔
      (samplingOf cx ||| flags).isSampled = cx.isSampled :=
  ⟨fun h => h.isSampled, fun h => ⟨rfl, rfl, h, rfl⟩⟩

theorem flagFits_iff {cx : SpanContext} {carrier : Carrier} :
    FlagFits cx carrier ↔
      ∃ flags, readFlags? ((carrier.header? flagsHeader).getD "") = some flags ∧
        (samplingOf cx ||| flags).isSampled = cx.isSampled := by
  have hoff : (samplingOf cx ||| .notSampled).isSampled = cx.isSampled := by
    rw [samplingOf]
    cases cx.isSampled <;> decide
  have hon : (samplingOf cx ||| .sampled).isSampled = true := by
    rw [samplingOf]
    cases cx.isSampled <;> decide
  have hread : ∀ text : String, (text = "" ∨ text = "0" ∨ text = "1" ∧ cx.isSampled = true) ↔
      ∃ flags, readFlags? text = some flags ∧
        (samplingOf cx ||| flags).isSampled = cx.isSampled := by
    intro text
    simp only [readFlags?_eq_some_iff]
    constructor
    · rintro (htext | htext | ⟨htext, hsampled⟩)
      · exact ⟨_, .inl ⟨.inl htext, rfl⟩, hoff⟩
      · exact ⟨_, .inl ⟨.inr htext, rfl⟩, hoff⟩
      · exact ⟨_, .inr ⟨htext, rfl⟩, hon.trans hsampled.symm⟩
    · rintro ⟨_, ⟨htext | htext, rfl⟩ | ⟨htext, rfl⟩, hsampled⟩
      · exact .inl htext
      · exact .inr (.inl htext)
      · exact .inr (.inr ⟨htext, hsampled.symm.trans hon⟩)
  rw [← hread, FlagFits]
  cases carrier.header? flagsHeader with
  | none => simp
  | some text => simp

/-- **What an earlier request may leave behind.**  After a valid context was written into several headers,
a context with its identifiers, its sampling decision and no trace state is read back exactly if the
carrier held a single header that is read as such a context, or it held no single header, a well-formed
parent if any, and no debug flag that changes the sampling decision. -/
theorem extract_inject_multiple_iff {cx : SpanContext} (hvalid : cx.isValid = true)
    (carrier : Carrier) :
    (∃ cx', extract (inject .multiple cx carrier) = some cx' ∧ Agrees cx cx') ↔
      carrier.header? singleHeader ≠ none ∧ (∃ cx', extract carrier = some cx' ∧ Agrees cx cx') ∨
      carrier.header? singleHeader = none ∧ ParentFits carrier ∧ FlagFits cx carrier := by
  by_cases hsingle : carrier.header? singleHeader = none
  · simp only [extract_inject_of_no_single hvalid hsingle, flagFits_iff, hsingle, ne_eq,
      not_true_eq_false, false_and, false_or, true_and]
    constructor
    · rintro ⟨_, ⟨hfits, flags, hread, rfl⟩, hagrees⟩
      exact ⟨hfits, flags, hread, agrees_iff.1 hagrees⟩
    · rintro ⟨hfits, flags, hread, hsampled⟩
      exact ⟨_, ⟨hfits, flags, hread, rfl⟩, agrees_iff.2 hsampled⟩
  · simp only [extract_inject_of_single hvalid hsingle, hsingle, ne_eq, not_false_eq_true, true_and,
      false_and, or_false]

/-- With an unusual but well-formed parent and the debug flag left behind, a sampled context comes back. -/
theorem extract_inject_multiple_debug :
    let cx : SpanContext := ⟨.ofNat 1, .ofNat 2, ⟨255⟩, ⟨[("a", "x")]⟩⟩
    let carrier : Carrier := (OrderedMap.empty.insert "x-b3-flags" "1").insert
      "x-b3-parentspanid" "0000000000000000"
    cx.isValid = true ∧
      ∃ cx', extract (inject .multiple cx carrier) = some cx' ∧ Agrees cx cx' := by
  intro cx carrier
  have hvalid : cx.isValid = true := by decide
  have hsingle : carrier.header? singleHeader = none := by decide +kernel
  have hparent : carrier.header? parentHeader = some "0000000000000000" := by decide +kernel
  have hflags : carrier.header? flagsHeader = some "1" := by decide +kernel
  have hparentFits : ParentFits carrier := by
    intro parent h
    obtain rfl := Option.some.inj (hparent.symm.trans h)
    decide +kernel
  have hflagFits : FlagFits cx carrier := by
    intro flags h
    obtain rfl := Option.some.inj (hflags.symm.trans h)
    exact .inr (.inr ⟨rfl, by decide⟩)
  exact ⟨hvalid, (extract_inject_multiple_iff hvalid carrier).2
    (.inr ⟨hsingle, hparentFits, hflagFits⟩)⟩

/-- The single header of an earlier request hides what was written. -/
theorem not_extract_inject_multiple_after_single :
    let cx : SpanContext :=
      ⟨.ofNat 0x4bf92f3577b34da6a3ce929d0e0e4736, .ofNat 0x00f067aa0ba902b7, .sampled, .empty⟩
    let carrier : Carrier := OrderedMap.empty.insert "b3"
      "0af7651916cd43dd8448eb211c80319c-b7ad6b7169203331-0"
    cx.isValid = true ∧ ¬∃ cx', extract (inject .multiple cx carrier) = some cx' ∧ Agrees cx cx' := by
  intro cx carrier
  have hvalid : cx.isValid = true := by decide
  have hread : (extract (inject .multiple cx carrier)).map SpanContext.traceId =
      some (.ofNat 0x0af7651916cd43dd8448eb211c80319c) := by decide +kernel
  refine ⟨hvalid, ?_⟩
  rintro ⟨cx', hcx', hagrees⟩
  rw [hcx', Option.map_some, hagrees.traceId] at hread
  exact absurd (Option.some.inj hread) (by decide)

end Telemetry.Propagation.B3
