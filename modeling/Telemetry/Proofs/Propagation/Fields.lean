import Telemetry.Proofs.Propagation.B3Leftovers
import Telemetry.Propagation.Propagator

/-!
# The headers that a propagator reads and writes

`Propagator.fields` is the list of headers that a format gives out as its own.  Beside it stand
`Propagator.readHeaders` and `Propagator.writtenHeaders`, and two properties of any list of names: two
carriers that agree on the names are read alike (`ReadsOnly`), and writing changes nothing outside of
them (`WritesOnly`).  `readsOnly_iff` and `writesOnly_iff` say that a list of names has them exactly if it
covers the headers that are read, or written.

So nothing is written outside of the fields, and they cover what is read except for B3, whatever its
layout (`fields_cover_iff`): the parent's header is in no list, although a malformed one makes the context
be refused, and a layout leaves out the headers of the other one, although both are read.
-/

namespace Telemetry

namespace Carrier

/-- The carriers hold the same under the given names. -/
def AgreeOn (names : List String) (carrier other : Carrier) : Prop :=
  ∀ name ∈ names, carrier.header? name = other.header? name

/-- Every header is among the names, without regard to case. -/
def Covers (names headers : List String) : Prop :=
  ∀ header ∈ headers, Text.lowercase header ∈ names.map Text.lowercase

instance (names headers : List String) : Decidable (Covers names headers) :=
  inferInstanceAs (Decidable (∀ header ∈ headers, _))

theorem AgreeOn.of_covers {names headers : List String} {carrier other : Carrier}
    (h : AgreeOn names carrier other) (hcovers : Covers names headers) :
    AgreeOn headers carrier other := by
  intro header hheader
  obtain ⟨name, hname, heq⟩ := List.mem_map.1 (hcovers header hheader)
  have hagree := h name hname
  rwa [header?, header?, heq] at hagree

/-- Setting a header is not seen under other names. -/
theorem agreeOn_setHeader {names : List String} {header : String}
    (h : Text.lowercase header ∉ names.map Text.lowercase) (carrier : Carrier) (value : String) :
    AgreeOn names carrier (carrier.setHeader header value) := by
  intro name hname
  have hne : Text.lowercase header ≠ Text.lowercase name := by
    intro heq
    exact h (heq ▸ List.mem_map_of_mem hname)
  rw [header?_setHeader, if_neg hne]

theorem setHeaders_cons (carrier : Carrier) (header : String × String)
    (rest : List (String × String)) :
    carrier.setHeaders (header :: rest) = (carrier.setHeader header.1 header.2).setHeaders rest := rfl

theorem get?_setHeaders_of_not_mem {headers : List (String × String)} {key : String}
    (h : key ∉ (headers.map Prod.fst).map Text.lowercase) (carrier : Carrier) :
    (carrier.setHeaders headers).get? key = carrier.get? key := by
  induction headers generalizing carrier with
  | nil => rfl
  | cons header rest ih =>
    obtain ⟨hne, hrest⟩ := not_or.1 (mt List.mem_cons.2 h)
    rw [setHeaders_cons, ih hrest]
    exact OrderedMap.get?_insert_of_ne (Ne.symm hne) carrier _

theorem isSome_get?_setHeaders {headers : List (String × String)} {key : String} {carrier : Carrier}
    (h : (carrier.get? key).isSome ∨ key ∈ (headers.map Prod.fst).map Text.lowercase) :
    ((carrier.setHeaders headers).get? key).isSome := by
  induction headers generalizing carrier with
  | nil => exact h.resolve_right List.not_mem_nil
  | cons header rest ih =>
    rw [setHeaders_cons]
    refine ih ?_
    by_cases hkey : Text.lowercase header.1 = key
    · left
      rw [setHeader, hkey, OrderedMap.get?_insert_self]
      rfl
    · rw [setHeader, OrderedMap.get?_insert_of_ne hkey]
      simpa [Ne.symm hkey] using h

end Carrier

namespace Propagator

open Carrier (AgreeOn Covers)

/-! ### What is written -/

/-- The headers that are written for a valid context, with their values. -/
def headers : Propagator → SpanContext → List (String × String)
  | .traceparent, cx =>
    [(Propagation.Traceparent.parentHeader, Propagation.Traceparent.write cx),
      (Propagation.Traceparent.stateHeader, cx.state.header)]
  | .b3 layout, cx => Propagation.B3.headers layout cx
  | .cloudTrace, cx => [(Propagation.CloudTrace.header, Propagation.CloudTrace.write cx)]

/-- The names of the headers that are written. -/
def writtenHeaders : Propagator → List String
  | .traceparent => [Propagation.Traceparent.parentHeader, Propagation.Traceparent.stateHeader]
  | .b3 .multiple =>
    [Propagation.B3.traceHeader, Propagation.B3.spanHeader, Propagation.B3.sampledHeader]
  | .b3 .single => [Propagation.B3.singleHeader]
  | .b3 .both =>
    [Propagation.B3.singleHeader, Propagation.B3.traceHeader, Propagation.B3.spanHeader,
      Propagation.B3.sampledHeader]
  | .cloudTrace => [Propagation.CloudTrace.header]

theorem map_fst_headers (p : Propagator) (cx : SpanContext) :
    (p.headers cx).map Prod.fst = p.writtenHeaders := by
  cases p with
  | traceparent => rfl
  | b3 layout => cases layout <;> rfl
  | cloudTrace => rfl

theorem inject_eq (p : Propagator) (cx : SpanContext) (carrier : Carrier) :
    p.inject cx carrier = if cx.isValid then carrier.setHeaders (p.headers cx) else carrier := by
  cases p <;> rfl

/-- Writing a context changes nothing outside of the names, whatever else the carrier holds. -/
def WritesOnly (p : Propagator) (names : List String) : Prop :=
  ∀ (cx : SpanContext) (carrier : Carrier) (key : String), key ∉ names.map Text.lowercase →
    (p.inject cx carrier).get? key = carrier.get? key

/-- A context that can be written, with all that a format may keep of it. -/
def sampleContext : SpanContext := ⟨.ofNat 1, .ofNat 2, .sampled, ⟨[("a", "b")]⟩⟩

/-- **The names outside of which nothing is written** are those that cover the written headers. -/
theorem writesOnly_iff (p : Propagator) (names : List String) :
    p.WritesOnly names ↔ Covers names p.writtenHeaders := by
  constructor
  · intro h header hheader
    by_contra hnot
    have hsame := h sampleContext .empty (Text.lowercase header) hnot
    have hvalid : sampleContext.isValid = true := by decide
    have hwritten : ((Carrier.setHeaders .empty (p.headers sampleContext)).get?
        (Text.lowercase header)).isSome :=
      Carrier.isSome_get?_setHeaders
        (.inr (map_fst_headers p _ ▸ List.mem_map_of_mem hheader))
    rw [inject_eq, if_pos hvalid] at hsame
    rw [hsame] at hwritten
    cases hwritten
  · intro h cx carrier key hkey
    rw [inject_eq]
    split
    next =>
      refine Carrier.get?_setHeaders_of_not_mem ?_ carrier
      rw [map_fst_headers]
      intro hmem
      obtain ⟨header, hheader, rfl⟩ := List.mem_map.1 hmem
      exact hkey (h header hheader)
    next => rfl

/-! ### What is read -/

/-- The names of the headers that are read. -/
def readHeaders : Propagator → List String
  | .traceparent => [Propagation.Traceparent.parentHeader, Propagation.Traceparent.stateHeader]
  | .b3 _ => Propagation.B3.readHeaders
  | .cloudTrace => [Propagation.CloudTrace.header]

/-- Carriers that agree on the names are read alike. -/
def ReadsOnly (p : Propagator) (names : List String) : Prop :=
  ∀ carrier other : Carrier, AgreeOn names carrier other → p.extract carrier = p.extract other

theorem extract_congr {p : Propagator} {carrier other : Carrier}
    (h : AgreeOn p.readHeaders carrier other) : p.extract carrier = p.extract other := by
  cases p with
  | traceparent =>
    have hparent : carrier.header? Propagation.Traceparent.parentHeader = _ := h _ (by decide)
    have hstate : carrier.header? Propagation.Traceparent.stateHeader = _ := h _ (by decide)
    simp only [extract, Propagation.Traceparent.extract, Propagation.Traceparent.readState, hparent,
      hstate]
  | b3 layout =>
    have h : ∀ name ∈ Propagation.B3.readHeaders, carrier.header? name = other.header? name := h
    have hsingle : carrier.header? Propagation.B3.singleHeader = _ := h _ (by decide)
    have htrace : carrier.header? Propagation.B3.traceHeader = _ := h _ (by decide)
    have hspan : carrier.header? Propagation.B3.spanHeader = _ := h _ (by decide)
    have hparent : carrier.header? Propagation.B3.parentHeader = _ := h _ (by decide)
    have hsampled : carrier.header? Propagation.B3.sampledHeader = _ := h _ (by decide)
    have hflags : carrier.header? Propagation.B3.flagsHeader = _ := h _ (by decide)
    simp only [extract, Propagation.B3.extract, Propagation.B3.readMultiple?, hsingle, htrace, hspan,
      hparent, hsampled, hflags]
  | cloudTrace =>
    have hheader : carrier.header? Propagation.CloudTrace.header = _ := h _ (by decide)
    simp only [extract, Propagation.CloudTrace.extract, hheader]

/-- A carrier whose headers are all well formed. For B3 it has no single header, which would hide the
others. -/
def sampleCarrier : Propagator → Carrier
  | .b3 _ => Propagation.B3.inject .multiple sampleContext .empty
  | p => p.inject sampleContext .empty

/-- Each header that is read matters: a malformed one changes what is read from a carrier in which the
others are well formed. -/
theorem extract_setHeader_ne (p : Propagator) :
    ∀ header ∈ p.readHeaders,
      p.extract (p.sampleCarrier.setHeader header "x") ≠ p.extract p.sampleCarrier := by
  cases p with
  | traceparent => decide +kernel
  | b3 layout =>
    show ∀ header ∈ Propagation.B3.readHeaders,
      Propagation.B3.extract ((sampleCarrier (.b3 .multiple)).setHeader header "x") ≠
        Propagation.B3.extract (sampleCarrier (.b3 .multiple))
    decide +kernel
  | cloudTrace => decide +kernel

/-- **The names on which a result depends** are those that cover the headers that are read. -/
theorem readsOnly_iff (p : Propagator) (names : List String) :
    p.ReadsOnly names ↔ Covers names p.readHeaders := by
  constructor
  · intro h header hheader
    by_contra hnot
    exact extract_setHeader_ne p header hheader
      (h _ _ (Carrier.agreeOn_setHeader hnot p.sampleCarrier "x")).symm
  · intro h carrier other hagree
    exact extract_congr (hagree.of_covers h)

/-! ### The fields -/

theorem covers_fields_writtenHeaders (p : Propagator) : Covers p.fields p.writtenHeaders := by
  cases p with
  | traceparent => decide +kernel
  | b3 layout => cases layout <;> decide +kernel
  | cloudTrace => decide +kernel

theorem covers_fields_readHeaders_iff (p : Propagator) :
    Covers p.fields p.readHeaders ↔ ∀ layout, p ≠ .b3 layout := by
  cases p with
  | traceparent => exact iff_of_true (by decide +kernel) nofun
  | b3 layout =>
    refine iff_of_false ?_ fun h => h layout rfl
    cases layout <;> decide +kernel
  | cloudTrace => exact iff_of_true (by decide +kernel) nofun

/-- **The fields and what they miss.**  What a propagator writes is within the names that cover its
written headers, which its fields do, and what it reads depends on exactly the headers that are read,
which its fields cover unless it is one for B3. -/
theorem fields_cover_iff (p : Propagator) :
    p.WritesOnly p.fields ∧ (p.ReadsOnly p.fields ↔ ∀ layout, p ≠ .b3 layout) ∧
      ∀ names, (p.WritesOnly names ↔ Covers names p.writtenHeaders) ∧
        (p.ReadsOnly names ↔ Covers names p.readHeaders) := by
  refine ⟨?_, ?_, fun names => ⟨writesOnly_iff p names, readsOnly_iff p names⟩⟩
  · exact (writesOnly_iff p p.fields).2 (covers_fields_writtenHeaders p)
  · exact (readsOnly_iff p p.fields).trans (covers_fields_readHeaders_iff p)

/-- The parent's header is no field, and a malformed one makes the context be refused. -/
theorem not_readsOnly_fields_of_parent :
    let p : Propagator := .b3 .both
    let carrier : Carrier := (OrderedMap.empty.insert "x-b3-traceid"
      "4bf92f3577b34da6a3ce929d0e0e4736").insert "x-b3-spanid" "00f067aa0ba902b7"
    let other : Carrier := carrier.insert "x-b3-parentspanid" "bogus"
    AgreeOn p.fields carrier other ∧ (p.extract carrier).isSome = true ∧ p.extract other = none ∧
      ¬p.ReadsOnly p.fields := by
  intro p carrier other
  have hagree : ∀ name ∈ p.fields, carrier.header? name = other.header? name := by decide +kernel
  have hread : (p.extract carrier).isSome = true := by decide +kernel
  have hrefused : p.extract other = none := by decide +kernel
  refine ⟨hagree, hread, hrefused, fun h => ?_⟩
  rw [h carrier other hagree, hrefused] at hread
  cases hread

end Propagator

end Telemetry
