import Telemetry.Proofs.Propagation.B3Layouts
import Telemetry.Proofs.Propagation.Fields

/-!
# What survives in one header

The single header of B3 and X-Cloud-Trace-Context keep the identifiers of a context and its sampling
decision, and nothing else.  They do so in any carrier: each of them is written in one piece and read
before all other headers (`extract_inject_one_header`).
-/

namespace Telemetry

namespace Propagation.B3

/-! ### B3 -/

/-- The parts that are written for a context. -/
def Parts.ofContext (cx : SpanContext) : Parts :=
  ⟨cx.traceId.hex, cx.spanId.hex, some (writeSampled cx, none)⟩

theorem Parts.separable_ofContext (cx : SpanContext) : (ofContext cx).Separable := by
  have hsampled : '-' ∉ (writeSampled cx).toList ∧
      ∀ c ∈ (writeSampled cx).toList, Text.isBlank c = false := by
    have hdigit : Text.isBlank '0' = false ∧ Text.isBlank '1' = false := by decide
    rw [writeSampled]
    cases cx.isSampled <;> simp [hdigit]
  have htexts : ∀ text ∈ (ofContext cx).texts,
      '-' ∉ text.toList ∧ ∀ c ∈ text.toList, Text.isBlank c = false := by
    intro text htext
    simp only [ofContext, texts, List.mem_cons, List.not_mem_nil, or_false] at htext
    rcases htext with rfl | rfl | rfl
    · rw [TraceId.hex, String.toList_ofList]
      exact ⟨hyphen_not_mem_hexPadded _ _, fun c => not_blank_of_mem_hexPadded⟩
    · rw [SpanId.hex, String.toList_ofList]
      exact ⟨hyphen_not_mem_hexPadded _ _, fun c => not_blank_of_mem_hexPadded⟩
    · exact hsampled
  refine ⟨fun text htext => (htexts text htext).1, fun text htext => (htexts text htext).2, ?_⟩
  show some (writeSampled cx) ≠ some ""
  rw [writeSampled]
  cases cx.isSampled <;> decide

theorem Parts.readSingle?_ofContext {cx : SpanContext} (hvalid : cx.isValid = true) :
    B3.readSingle? (ofContext cx).value = some ⟨cx.traceId, cx.spanId, samplingOf cx, .empty⟩ := by
  have hoptions : (ofContext cx).options? = some (samplingOf cx) := by
    rw [← readSampled?_writeSampled]
    show readSampled? (String.ofList (writeSampled cx).toList) = _
    rw [String.ofList_toList]
  rw [(separable_ofContext cx).readSingle?, hoptions]
  show (readTraceId? cx.traceId.hex).bind (fun traceId =>
    (SpanId.ofHex? cx.spanId.hex).bind fun spanId => assemble? traceId spanId (samplingOf cx)) = _
  rw [readTraceId?_hex, SpanId.ofHex?_hex]
  exact assemble?_eq_some_iff.2 ⟨rfl, hvalid⟩

/-- The single header holds what was written into it, also if the others are written after it. -/
theorem header?_inject {layout : Layout} (hlayout : layout ≠ .multiple) {cx : SpanContext}
    (hvalid : cx.isValid = true) (carrier : Carrier) :
    (inject layout cx carrier).header? singleHeader = some (Parts.ofContext cx).value := by
  have hset : (carrier.setHeader singleHeader (Parts.ofContext cx).value).header? singleHeader =
      some (Parts.ofContext cx).value := by
    rw [Carrier.header?_setHeader, if_pos rfl]
  rw [inject, if_pos hvalid]
  cases layout with
  | multiple => exact absurd rfl hlayout
  | single => exact hset
  | both =>
    have hothers : Text.lowercase singleHeader ∉
        ((headers .multiple cx).map Prod.fst).map Text.lowercase := by
      show _ ∉ [traceHeader, spanHeader, sampledHeader].map Text.lowercase
      decide +kernel
    exact (Carrier.get?_setHeaders_of_not_mem hothers _).trans hset

theorem extract_inject {layout : Layout} (hlayout : layout ≠ .multiple) {cx : SpanContext}
    (hvalid : cx.isValid = true) (carrier : Carrier) :
    extract (inject layout cx carrier) =
      some ⟨cx.traceId, cx.spanId, samplingOf cx, .empty⟩ := by
  rw [extract, header?_inject hlayout hvalid]
  exact Parts.readSingle?_ofContext hvalid

end Propagation.B3

namespace Propagation.CloudTrace

/-! ### X-Cloud-Trace-Context -/

/-- A digit is no separator of the header, and in lowercase already. -/
theorem digitChar_ne_separator {d : Nat} (h : d < 16) :
    Nat.digitChar d ≠ '/' ∧ Nat.digitChar d ≠ ';' ∧
      (Nat.digitChar d).toLower = Nat.digitChar d := by
  have hall : ∀ d : Fin 16, Nat.digitChar d ≠ '/' ∧ Nat.digitChar d ≠ ';' ∧
      (Nat.digitChar d).toLower = Nat.digitChar d := by decide
  exact hall ⟨d, h⟩

theorem exists_digitChar_of_mem_toDigits {n : Nat} {c : Char} (h : c ∈ Nat.toDigits 10 n) :
    ∃ d < 16, c = Nat.digitChar d := by
  have hdigit : c.isDigit = true := Nat.isDigit_of_mem_toDigits (by decide) (by decide) h
  have hrange : '0' ≤ c ∧ c ≤ '9' := by
    simp only [Char.isDigit, Bool.and_eq_true, decide_eq_true_eq] at hdigit
    exact hdigit
  obtain ⟨d, hd⟩ := Option.isSome_iff_exists.1 (Numeral.isSome_hexValue?_iff.2 (.inl hrange))
  exact ⟨d, Numeral.hexValue?_eq_some_iff.1 hd⟩

theorem toList_write (cx : SpanContext) :
    (write cx).toList = Numeral.hexPadded 32 cx.traceId.toNat ++
      '/' :: (Nat.toDigits 10 cx.spanId.toNat ++
        ';' :: ['o', '=', if cx.isSampled then '1' else '0']) := by
  rw [write, TraceId.hex]
  cases cx.isSampled <;> simp [Nat.toList_repr]

theorem trim_write (cx : SpanContext) : Text.trim (write cx).toList = (write cx).toList := by
  refine Text.trim_of_not_blank fun c hc => ?_
  rw [toList_write] at hc
  simp only [List.mem_append, List.mem_cons, List.not_mem_nil, or_false] at hc
  rcases hc with htrace | rfl | hspan | rfl | rfl | rfl | hsampled
  · exact not_blank_of_mem_hexPadded htrace
  · decide
  · obtain ⟨d, hd, rfl⟩ := exists_digitChar_of_mem_toDigits hspan
    exact (digitChar_ne hd).2.2
  · decide
  · decide
  · decide
  · rw [hsampled]
    cases cx.isSampled <;> decide

/-- **The decimal digits of a span identifier are read as it.** -/
theorem readSpanId?_toDigits (id : SpanId) : readSpanId? (Nat.toDigits 10 id.toNat) = some id := by
  have hdigits : (Nat.toDigits 10 id.toNat).all Char.isDigit = true :=
    List.all_eq_true.2 fun c hc => Nat.isDigit_of_mem_toDigits (by decide) (by decide) hc
  rw [readSpanId?, Nat.ofDigitChars_ten_toDigits,
    if_pos ⟨Nat.toDigits_ne_nil, hdigits, id.toNat_lt⟩, SpanId.ofNat_toNat]

/-- **What is written is read back** without the trace state and the bits of the options that do not say
whether the trace is kept. -/
theorem read?_write {cx : SpanContext} (hvalid : cx.isValid = true) :
    read? (write cx) = some ⟨cx.traceId, cx.spanId, B3.samplingOf cx, .empty⟩ := by
  have hslash : '/' ∉ Numeral.hexPadded 32 cx.traceId.toNat := fun h => by
    obtain ⟨d, hd, hc⟩ := Numeral.exists_digitChar_of_mem_hexPadded h
    exact (digitChar_ne_separator hd).1 hc.symm
  have hsemicolon : ';' ∉ Nat.toDigits 10 cx.spanId.toNat := fun h => by
    obtain ⟨d, hd, hc⟩ := exists_digitChar_of_mem_toDigits h
    exact (digitChar_ne_separator hd).2.1 hc.symm
  have hlower : (Numeral.hexPadded 32 cx.traceId.toNat).map Char.toLower =
      Numeral.hexPadded 32 cx.traceId.toNat := by
    refine (List.map_congr_left fun c hc => ?_).trans (List.map_id _)
    obtain ⟨d, hd, rfl⟩ := Numeral.exists_digitChar_of_mem_hexPadded hc
    exact (digitChar_ne_separator hd).2.2
  have hoptions : readOptions? ['o', '=', if cx.isSampled then '1' else '0'] =
      some (B3.samplingOf cx) := by
    rw [B3.samplingOf]
    cases cx.isSampled <;> rfl
  have htrace : TraceId.ofHex? (String.ofList (Numeral.hexPadded 32 cx.traceId.toNat)) =
      some cx.traceId := TraceId.ofHex?_hex _
  have hvalid' : SpanContext.isValid ⟨cx.traceId, cx.spanId, B3.samplingOf cx, .empty⟩ = true := hvalid
  rw [read?, trim_write, toList_write, Text.cut?_append hslash]
  simp only [Option.bind_eq_bind, Option.bind_some, hlower, htrace, Text.cut?_append hsemicolon,
    hoptions, Option.map_some, readSpanId?_toDigits, hvalid', guard, if_true]
  rfl

theorem extract_inject {cx : SpanContext} (hvalid : cx.isValid = true) (carrier : Carrier) :
    extract (inject cx carrier) = some ⟨cx.traceId, cx.spanId, B3.samplingOf cx, .empty⟩ := by
  rw [extract, inject, if_pos hvalid, Carrier.header?_setHeader, if_pos rfl, Option.bind_some,
    read?_write hvalid]

end Propagation.CloudTrace

/-! ### One header -/

namespace Propagator

/-- The propagators that read what they write before all other headers. -/
def oneHeader : List Propagator := [.b3 .single, .b3 .both, .cloudTrace]

theorem samplingOf_eq (cx : SpanContext) :
    Propagation.B3.samplingOf cx = ⟨if cx.isSampled then 1 else 0⟩ := by
  rw [Propagation.B3.samplingOf]
  cases cx.isSampled <;> rfl

/-- **What survives in one header**, whatever else the carrier holds: a context that names something comes
back with its identifiers and its sampling decision and without a trace state, and one that names nothing
leaves the carrier as it was. -/
theorem extract_inject_one_header {p : Propagator} (hp : p ∈ oneHeader) (cx : SpanContext)
    (carrier : Carrier) :
    (cx.isValid = true → p.extract (p.inject cx carrier) =
      some ⟨cx.traceId, cx.spanId, ⟨if cx.isSampled then 1 else 0⟩, .empty⟩) ∧
    (cx.isValid = false → p.inject cx carrier = carrier) := by
  constructor
  · intro hvalid
    rw [← samplingOf_eq]
    simp only [oneHeader, List.mem_cons, List.not_mem_nil, or_false] at hp
    rcases hp with rfl | rfl | rfl
    · exact Propagation.B3.extract_inject (by decide) hvalid carrier
    · exact Propagation.B3.extract_inject (by decide) hvalid carrier
    · exact Propagation.CloudTrace.extract_inject hvalid carrier
  · intro hvalid
    rw [inject_eq, if_neg (by simp [hvalid])]

/-- In a carrier that already holds the headers of another request, a sampled context comes back with a
single bit of its options and without its trace state. -/
theorem extract_inject_one_header_used :
    let cx : SpanContext :=
      ⟨.ofNat 0x0af7651916cd43dd8448eb211c80319c, .ofNat 0xffffffffffffffff, ⟨255⟩, ⟨[("a", "x")]⟩⟩
    let carrier : Carrier := (OrderedMap.empty.insert "x-cloud-trace-context" "stale").insert
      "x-b3-traceid" "malformed"
    .cloudTrace ∈ oneHeader ∧ cx.isValid = true ∧
      Propagator.cloudTrace.extract (Propagator.cloudTrace.inject cx carrier) =
        some ⟨cx.traceId, cx.spanId, ⟨1⟩, .empty⟩ := by
  intro cx carrier
  have hp : Propagator.cloudTrace ∈ oneHeader := by decide
  have hvalid : cx.isValid = true := by decide
  have hsampled : cx.isSampled = true := by decide
  have hback := (extract_inject_one_header hp cx carrier).1 hvalid
  rw [hsampled] at hback
  exact ⟨hp, hvalid, hback⟩

end Propagator

end Telemetry
