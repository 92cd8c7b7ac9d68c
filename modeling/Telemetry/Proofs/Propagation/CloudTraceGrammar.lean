import Telemetry.Proofs.Numeral.Positional
import Telemetry.Proofs.Text.Pieces
import Telemetry.Propagation.CloudTrace

/-!
# The grammar of X-Cloud-Trace-Context

What a value of the header is, said without the reader: 32 hexadecimal digits of either case, a slash, a
decimal number, and the sampling bit if it is given.  `extract_reads_grammar` says that exactly the
values of this form are read, white space at their ends aside, and what is read.
-/

namespace Telemetry.Propagation.CloudTrace

open Numeral (IsDecimalDigit IsHexDigitOfEitherCase numberOf)

/-! ### The form of a value -/

/-- The parts of a value of the header. -/
structure Form where
  /-- The digits of the trace identifier. -/
  trace : List Char
  /-- The digits of the span identifier. -/
  span : List Char
  /-- Whether the trace is kept, if the value says so. -/
  sampled : Option Bool

namespace Form

/-- The text of the options. -/
def optionsText (sampled : Option Bool) : List Char :=
  match sampled with
  | none => []
  | some false => [';', 'o', '=', '0']
  | some true => [';', 'o', '=', '1']

/-- The text of the value. -/
def text (form : Form) : List Char := form.trace ++ '/' :: (form.span ++ optionsText form.sampled)

/-- The value is as the grammar has it. -/
structure WellFormed (form : Form) : Prop where
  /-- The trace identifier has 32 digits. -/
  trace_length : form.trace.length = 32
  /-- They are hexadecimal, in either case. -/
  trace_digits : ∀ c ∈ form.trace, IsHexDigitOfEitherCase c
  /-- It names something. -/
  trace_ne : ∃ c ∈ form.trace, c ≠ '0'
  /-- The span identifier has digits. -/
  span_ne_nil : form.span ≠ []
  /-- They are decimal. -/
  span_digits : ∀ c ∈ form.span, IsDecimalDigit c
  /-- It names something. -/
  one_le_span : 1 ≤ numberOf 10 form.span
  /-- It fits in 64 bits. -/
  span_lt : numberOf 10 form.span < 2 ^ 64

/-- The value spells the context. -/
structure Spells (form : Form) (cx : SpanContext) : Prop where
  /-- The number of the trace identifier. -/
  trace : cx.traceId.toNat = numberOf 16 form.trace
  /-- The number of the span identifier. -/
  span : cx.spanId.toNat = numberOf 10 form.span
  /-- The options are 1 if the value says that the trace is kept, and 0 otherwise. -/
  options : cx.options.byte = if form.sampled = some true then 1 else 0
  /-- There is no trace state. -/
  state : cx.state = .empty

/-- The value of the header in the carrier has the form, white space at its ends aside. -/
def In (form : Form) (carrier : Carrier) : Prop :=
  ∃ value before after, carrier.header? header = some value ∧
    value.toList = before ++ form.text ++ after ∧
    (∀ c ∈ before, Text.isBlank c = true) ∧ ∀ c ∈ after, Text.isBlank c = true

end Form

/-! ### The identifiers -/

/-- **A trace identifier** is read from 32 digits of either case. -/
theorem readTraceId_eq_some_iff {cs : List Char} {id : TraceId} :
    TraceId.ofHex? (String.ofList (cs.map Char.toLower)) = some id ↔
      cs.length = 32 ∧ (∀ c ∈ cs, IsHexDigitOfEitherCase c) ∧ id.toNat = numberOf 16 cs := by
  rw [TraceId.ofHex?, String.toList_ofList, List.length_map]
  split
  next hlength =>
    rw [Option.map_eq_some_iff]
    simp only [hlength, true_and]
    constructor
    · rintro ⟨n, hn, rfl⟩
      have hlt := (Numeral.ofHex?_eq_some_iff.1 hn).1
      rw [List.length_map, hlength] at hlt
      obtain ⟨hdigits, rfl⟩ := Numeral.ofHex?_map_toLower_eq_some_iff.1 hn
      exact ⟨hdigits, TraceId.toNat_ofNat hlt⟩
    · rintro ⟨hdigits, hid⟩
      refine ⟨_, Numeral.ofHex?_map_toLower_eq_some_iff.2 ⟨hdigits, rfl⟩, ?_⟩
      rw [← hid, TraceId.ofNat_toNat]
  next hlength => simp [hlength]

/-- **A span identifier** is read from a decimal number below `2 ^ 64`. -/
theorem readSpanId?_eq_some_iff {cs : List Char} {id : SpanId} :
    readSpanId? cs = some id ↔
      cs ≠ [] ∧ (∀ c ∈ cs, IsDecimalDigit c) ∧ numberOf 10 cs < 2 ^ 64 ∧
        id.toNat = numberOf 10 cs := by
  have hdigits : cs.all Char.isDigit = true ↔ ∀ c ∈ cs, IsDecimalDigit c := by
    simp only [List.all_eq_true, Numeral.isDigit_iff]
  unfold readSpanId?
  split
  next h =>
    obtain ⟨hne, hcs, hlt⟩ := h
    rw [hdigits] at hcs
    rw [Numeral.ofDigitChars_eq_numberOf hcs] at hlt ⊢
    rw [Option.some.injEq]
    constructor
    · rintro rfl
      exact ⟨hne, hcs, hlt, SpanId.toNat_ofNat hlt⟩
    · rintro ⟨-, -, -, hid⟩
      rw [← hid, SpanId.ofNat_toNat]
  next h =>
    refine iff_of_false (Option.some_ne_none id).symm ?_
    rintro ⟨hne, hcs, hlt, -⟩
    refine h ⟨hne, hdigits.2 hcs, ?_⟩
    rw [Numeral.ofDigitChars_eq_numberOf hcs]
    exact hlt

/-- The identifiers name something if the numbers that are spelled are not zero. -/
theorem Form.Spells.isValid_iff {form : Form} {cx : SpanContext} (h : form.Spells cx)
    (hdigits : ∀ c ∈ form.trace, IsHexDigitOfEitherCase c) :
    cx.isValid = true ↔ (∃ c ∈ form.trace, c ≠ '0') ∧ 1 ≤ numberOf 10 form.span := by
  have htrace : cx.traceId.isValid = true ↔ ∃ c ∈ form.trace, c ≠ '0' := by
    rw [TraceId.isValid, bne_iff_ne, ne_eq, TraceId.eq_none_iff, h.trace,
      Numeral.numberOf_eq_zero_iff (by decide) hdigits]
    push Not
    rfl
  have hspan : cx.spanId.isValid = true ↔ 1 ≤ numberOf 10 form.span := by
    rw [SpanId.isValid, bne_iff_ne, ne_eq, SpanId.eq_none_iff, h.span]
    omega
  rw [SpanContext.isValid, Bool.and_eq_true, htrace, hspan]

/-! ### The parts of the text -/

/-- Digits are not blank. -/
theorem not_blank_of_isHexDigit {c : Char} (h : IsHexDigitOfEitherCase c) : Text.isBlank c = false := by
  have hall : ∀ n : Fin 128, IsHexDigitOfEitherCase (Char.ofNat n) →
      Text.isBlank (Char.ofNat n) = false := by decide
  have hlt : c.toNat < 128 := by
    have hrange := Numeral.isHexDigitOfEitherCase_iff.1 h
    omega
  rw [← Char.ofNat_toNat c] at h ⊢
  exact hall ⟨c.toNat, hlt⟩ h

theorem slash_not_mem {cs : List Char} (h : ∀ c ∈ cs, IsHexDigitOfEitherCase c) : '/' ∉ cs :=
  fun hmem => absurd (h _ hmem) (by decide)

theorem semicolon_not_mem {cs : List Char} (h : ∀ c ∈ cs, IsDecimalDigit c) : ';' ∉ cs :=
  fun hmem => absurd (h _ hmem) (by decide)

/-- Reads what stands behind the slash: the digits of the span identifier, and the options. -/
def readRest? (rest : List Char) : Option (List Char × TraceOptions) :=
  match Text.cut? ';' rest with
  | some (span, options) => (readOptions? options).map fun options => (span, options)
  | none => some (rest, .notSampled)

theorem readOptions?_eq_some_iff {cs : List Char} {options : TraceOptions} :
    readOptions? cs = some options ↔
      ∃ sampled, ';' :: cs = Form.optionsText (some sampled) ∧
        options.byte = if sampled then 1 else 0 := by
  constructor
  · intro h
    unfold readOptions? at h
    split at h
    next => exact ⟨false, rfl, by rw [← Option.some.inj h]; rfl⟩
    next => exact ⟨true, rfl, by rw [← Option.some.inj h]; rfl⟩
    next => cases h
  · rintro ⟨sampled, htext, hbyte⟩
    obtain ⟨byte⟩ := options
    obtain rfl := hbyte
    cases sampled <;> obtain rfl := (List.cons.inj htext).2 <;> rfl

/-- **Behind the slash** stand the digits and, if they are given, the options. -/
theorem readRest?_eq_some_iff {rest span : List Char} {options : TraceOptions} :
    readRest? rest = some (span, options) ↔
      ';' ∉ span ∧ ∃ sampled, rest = span ++ Form.optionsText sampled ∧
        options.byte = if sampled = some true then 1 else 0 := by
  unfold readRest?
  constructor
  · intro h
    split at h
    next _ digits flags hcut =>
      obtain ⟨rfl, hnot⟩ := Text.cut?_eq_some_iff.1 hcut
      obtain ⟨read, hread, heq⟩ := Option.map_eq_some_iff.1 h
      obtain ⟨rfl, rfl⟩ := Prod.mk.inj heq
      obtain ⟨sampled, htext, hbyte⟩ := readOptions?_eq_some_iff.1 hread
      exact ⟨hnot, some sampled, by rw [htext], by simpa using hbyte⟩
    next hcut =>
      obtain ⟨rfl, rfl⟩ := Prod.mk.inj (Option.some.inj h)
      exact ⟨Text.cut?_eq_none_iff.1 hcut, none, (List.append_nil _).symm, rfl⟩
  · rintro ⟨hnot, sampled, rfl, hbyte⟩
    cases sampled with
    | none =>
      rw [Form.optionsText, List.append_nil, Text.cut?_eq_none_iff.2 hnot]
      obtain ⟨byte⟩ := options
      obtain rfl : byte = 0 := hbyte
      rfl
    | some sampled =>
      obtain ⟨flags, hflags⟩ : ∃ flags, Form.optionsText (some sampled) = ';' :: flags := by
        cases sampled <;> exact ⟨_, rfl⟩
      have hread : readOptions? flags = some options :=
        readOptions?_eq_some_iff.2 ⟨sampled, hflags.symm, by simpa using hbyte⟩
      rw [hflags, Text.cut?_append hnot]
      simp only [hread, Option.map_some]

theorem read?_eq (value : String) : read? value = do
    let (trace, rest) ← Text.cut? '/' (Text.trim value.toList)
    let traceId ← TraceId.ofHex? (String.ofList (trace.map Char.toLower))
    let (span, options) ← readRest? rest
    let spanId ← readSpanId? span
    let cx : SpanContext := ⟨traceId, spanId, options, .empty⟩
    guard cx.isValid
    return cx := by
  unfold read? readRest?
  refine bind_congr fun (trace, rest) => bind_congr fun traceId => ?_
  cases Text.cut? ';' rest <;> rfl

/-- What the reader asks of the parts. -/
theorem read?_eq_some_iff_parts {value : String} {cx : SpanContext} :
    read? value = some cx ↔
      ∃ trace rest span, Text.cut? '/' (Text.trim value.toList) = some (trace, rest) ∧
        TraceId.ofHex? (String.ofList (trace.map Char.toLower)) = some cx.traceId ∧
        readRest? rest = some (span, cx.options) ∧ readSpanId? span = some cx.spanId ∧
        cx.state = .empty ∧ cx.isValid = true := by
  rw [read?_eq]
  simp only [Option.bind_eq_bind, Option.bind_eq_some_iff, Option.guard_eq_some', Option.pure_def,
    Option.some.injEq, Prod.exists]
  constructor
  · rintro ⟨trace, rest, hcut, traceId, htrace, span, options, hrest, spanId, hspan, -, hvalid, rfl⟩
    exact ⟨trace, rest, span, hcut, htrace, hrest, hspan, rfl, hvalid⟩
  · rintro ⟨trace, rest, span, hcut, htrace, hrest, hspan, hstate, hvalid⟩
    obtain ⟨traceId, spanId, options, state⟩ := cx
    obtain rfl : state = .empty := hstate
    exact ⟨trace, rest, hcut, traceId, htrace, span, options, hrest, spanId, hspan, (), hvalid, rfl⟩

/-- **What is read** is what a well-formed text spells. -/
theorem read?_eq_some_iff {value : String} {cx : SpanContext} :
    read? value = some cx ↔
      ∃ form : Form, Text.trim value.toList = form.text ∧ form.WellFormed ∧ form.Spells cx := by
  rw [read?_eq_some_iff_parts]
  simp only [readTraceId_eq_some_iff, readRest?_eq_some_iff, readSpanId?_eq_some_iff,
    Text.cut?_eq_some_iff]
  constructor
  · rintro ⟨trace, rest, span, ⟨htext, -⟩, ⟨hlength, hhex, htrace⟩, ⟨-, sampled, rfl, hbyte⟩,
      ⟨hne, hdigits, hlt, hspan⟩, hstate, hvalid⟩
    have hspells : Form.Spells ⟨trace, span, sampled⟩ cx := ⟨htrace, hspan, hbyte, hstate⟩
    obtain ⟨htrace_ne, hone⟩ := (hspells.isValid_iff hhex).1 hvalid
    exact ⟨⟨trace, span, sampled⟩, htext, ⟨hlength, hhex, htrace_ne, hne, hdigits, hone, hlt⟩, hspells⟩
  · rintro ⟨form, htext, h, hspells⟩
    exact ⟨form.trace, form.span ++ Form.optionsText form.sampled, form.span,
      ⟨htext, slash_not_mem h.trace_digits⟩, ⟨h.trace_length, h.trace_digits, hspells.trace⟩,
      ⟨semicolon_not_mem h.span_digits, form.sampled, rfl, hspells.options⟩,
      ⟨h.span_ne_nil, h.span_digits, h.span_lt, hspells.span⟩, hspells.state,
      (hspells.isValid_iff h.trace_digits).2 ⟨h.trace_ne, h.one_le_span⟩⟩

/-! ### What a carrier holds -/

/-- No white space stands at the ends of a well-formed text. -/
theorem Form.WellFormed.trim_text {form : Form} (h : form.WellFormed) :
    Text.trim form.text = form.text := by
  have hoptions : (optionsText form.sampled).all (fun c => !Text.isBlank c) = true := by
    rcases form.sampled with _ | _ | _ <;> rfl
  refine Text.trim_of_not_blank fun c hc => ?_
  simp only [Form.text, List.mem_append, List.mem_cons] at hc
  rcases hc with hc | rfl | hc | hc
  · exact not_blank_of_isHexDigit (h.trace_digits c hc)
  · decide
  · exact not_blank_of_isHexDigit (.inl (h.span_digits c hc))
  · simpa using List.all_eq_true.1 hoptions c hc

/-- The text determines its parts. -/
theorem Form.WellFormed.unique {form₁ form₂ : Form} (h₁ : form₁.WellFormed) (h₂ : form₂.WellFormed)
    (h : form₁.text = form₂.text) : form₁ = form₂ := by
  have hcut {form : Form} (h : form.WellFormed) : Text.cut? '/' form.text =
      some (form.trace, form.span ++ optionsText form.sampled) :=
    Text.cut?_append (slash_not_mem h.trace_digits) _
  have hread {form : Form} (h : form.WellFormed) : readRest? (form.span ++ optionsText form.sampled) =
      some (form.span, ⟨if form.sampled = some true then 1 else 0⟩) :=
    readRest?_eq_some_iff.2 ⟨semicolon_not_mem h.span_digits, form.sampled, rfl, rfl⟩
  obtain ⟨htrace, hrest⟩ := Prod.mk.inj (Option.some.inj ((hcut h₁).symm.trans (h ▸ hcut h₂)))
  have hspan := congrArg Prod.fst (Option.some.inj ((hread h₁).symm.trans (hrest ▸ hread h₂)))
  obtain ⟨trace, span, sampled₁⟩ := form₁
  obtain ⟨_, _, sampled₂⟩ := form₂
  obtain rfl : trace = _ := htrace
  obtain rfl : span = _ := hspan
  have hsampled : optionsText sampled₁ = optionsText sampled₂ := List.append_cancel_left hrest
  congr 1
  rcases sampled₁ with _ | _ | _ <;> rcases sampled₂ with _ | _ | _ <;> first | rfl | cases hsampled

/-- A well-formed value spells a context. -/
theorem Form.WellFormed.exists_spells {form : Form} (h : form.WellFormed) : ∃ cx, form.Spells cx := by
  obtain ⟨traceId, htrace⟩ : ∃ id : TraceId, id.toNat = numberOf 16 form.trace := by
    have hread := Numeral.ofHex?_map_toLower_eq_some_iff.2 ⟨h.trace_digits, rfl⟩
    have hlt := (Numeral.ofHex?_eq_some_iff.1 hread).1
    rw [List.length_map, h.trace_length] at hlt
    exact ⟨_, TraceId.toNat_ofNat hlt⟩
  exact ⟨⟨traceId, .ofNat (numberOf 10 form.span), ⟨_⟩, .empty⟩, htrace,
    SpanId.toNat_ofNat h.span_lt, rfl, rfl⟩

theorem Form.WellFormed.in_iff {form : Form} (h : form.WellFormed) {carrier : Carrier} :
    form.In carrier ↔ ∃ value, carrier.header? header = some value ∧
      Text.trim value.toList = form.text := by
  constructor
  · rintro ⟨value, before, after, hvalue, htext, hbefore, hafter⟩
    refine ⟨value, hvalue, ?_⟩
    rw [htext, Text.trim_blank_append hbefore _ hafter, h.trim_text]
  · rintro ⟨value, hvalue, htext⟩
    obtain ⟨before, after, hcs, hbefore, hafter⟩ := Text.exists_blank_append_trim value.toList
    rw [htext] at hcs
    exact ⟨value, before, after, hvalue, hcs, hbefore, hafter⟩

/-- **The context that a carrier holds** is what its header spells. -/
theorem extract_eq_some_iff {carrier : Carrier} {cx : SpanContext} :
    extract carrier = some cx ↔
      ∃ form : Form, form.In carrier ∧ form.WellFormed ∧ form.Spells cx := by
  simp only [extract, Option.bind_eq_some_iff, read?_eq_some_iff]
  constructor
  · rintro ⟨value, hvalue, form, htext, h, hspells⟩
    exact ⟨form, h.in_iff.2 ⟨value, hvalue, htext⟩, h, hspells⟩
  · rintro ⟨form, hin, h, hspells⟩
    obtain ⟨value, hvalue, htext⟩ := h.in_iff.1 hin
    exact ⟨value, hvalue, form, htext, h, hspells⟩

/-- **The reader takes a context from a header exactly if it is as the grammar has it**, and then the one
that the header spells. -/
theorem extract_reads_grammar (carrier : Carrier) :
    ((∃ cx, extract carrier = some cx) ↔ ∃ form : Form, form.In carrier ∧ form.WellFormed) ∧
      ∀ cx (form : Form), extract carrier = some cx → form.In carrier → form.WellFormed →
        form.Spells cx := by
  refine ⟨⟨?_, ?_⟩, ?_⟩
  · rintro ⟨cx, hcx⟩
    obtain ⟨form, hin, h, -⟩ := extract_eq_some_iff.1 hcx
    exact ⟨form, hin, h⟩
  · rintro ⟨form, hin, h⟩
    obtain ⟨cx, hspells⟩ := h.exists_spells
    exact ⟨cx, extract_eq_some_iff.2 ⟨form, hin, h, hspells⟩⟩
  · intro cx form hcx hin h
    obtain ⟨form', hin', h', hspells⟩ := extract_eq_some_iff.1 hcx
    -- The header has one value and the value has one form.
    obtain ⟨value, hvalue, htext⟩ := h.in_iff.1 hin
    obtain ⟨value', hvalue', htext'⟩ := h'.in_iff.1 hin'
    obtain rfl : value = value' := Option.some.inj (hvalue.symm.trans hvalue')
    obtain rfl := h.unique h' (htext.symm.trans htext')
    exact hspells

/-- Zeros in front of the number and white space around the value are passed over. -/
example : read? " 105445AA7843BC8BF206B12000100000/000000000000000000000123;o=1\n" =
    some ⟨.ofNat 0x105445aa7843bc8bf206b12000100000, .ofNat 123, .sampled, .empty⟩ := by
  decide +kernel

end Telemetry.Propagation.CloudTrace
