import Telemetry.Proofs.Text.Pieces
import Telemetry.Proofs.Trace.Id
import Telemetry.Propagation.Traceparent

/-!
# The grammar of traceparent

What a value of the header `traceparent` is, said without the reader: four fields of lowercase hexadecimal
digits with hyphens between them and, in a version other than 0, anything behind a further hyphen.  The
reader takes one form more, with a plus sign in place of the first digit of the version or of the options
(`unsigned`): `read?_eq_some_iff` says that it accepts exactly the values of that form, with what they
spell, and `readsGrammar_iff` that nothing else is read in another way than the grammar asks for.
-/

namespace Telemetry.Propagation.Traceparent

open Numeral (IsHex)

/-! ### The form of a value -/

/-- The four fields of a value of the header, and what stands behind them. -/
structure Form where
  /-- The version. -/
  version : List Char
  /-- The digits of the trace identifier. -/
  trace : List Char
  /-- The digits of the span identifier. -/
  span : List Char
  /-- The options. -/
  options : List Char
  /-- What stands behind the fields. -/
  rest : List Char

namespace Form

/-- The text of the value. -/
def text (form : Form) : List Char :=
  form.version ++ '-' :: (form.trace ++ '-' :: (form.span ++ '-' :: (form.options ++ form.rest)))

/-- The value is as the grammar has it, where `taken` says for which digits the characters of a byte are
taken. -/
structure WellFormed (taken : List Char → List Char) (form : Form) : Prop where
  /-- The version is a byte. -/
  version : IsHex 2 (taken form.version)
  /-- There is no version `ff`. -/
  version_ne : taken form.version ≠ ['f', 'f']
  /-- The trace identifier has 32 digits. -/
  trace : IsHex 32 form.trace
  /-- It names something. -/
  trace_ne : ∃ c ∈ form.trace, c ≠ '0'
  /-- The span identifier has 16 digits. -/
  span : IsHex 16 form.span
  /-- It names something. -/
  span_ne : ∃ c ∈ form.span, c ≠ '0'
  /-- The options are a byte. -/
  options : IsHex 2 (taken form.options)
  /-- Behind the fields a hyphen may stand, and in a version other than 0 anything behind the hyphen. -/
  rest : form.rest = [] ∨ form.rest = ['-'] ∨
    taken form.version ≠ ['0', '0'] ∧ ∃ more, form.rest = '-' :: more

/-- The value spells the identifiers and the options. -/
structure Spells (taken : List Char → List Char) (form : Form) (traceId : TraceId) (spanId : SpanId)
    (options : TraceOptions) : Prop where
  /-- The digits of the trace identifier. -/
  trace : form.trace = traceId.hex.toList
  /-- The digits of the span identifier. -/
  span : form.span = spanId.hex.toList
  /-- The digits of the options. -/
  options : taken form.options = options.hex.toList

/-- A well-formed value spells something. -/
theorem WellFormed.exists_spells {taken : List Char → List Char} {form : Form}
    (h : form.WellFormed taken) : ∃ traceId spanId options, form.Spells taken traceId spanId options := by
  obtain ⟨traceId, htrace⟩ := TraceId.exists_hex_eq_iff.2 h.trace
  obtain ⟨spanId, hspan⟩ := SpanId.exists_hex_eq_iff.2 h.span
  obtain ⟨options, hoptions⟩ := TraceOptions.exists_hex_eq_iff.2 h.options
  exact ⟨traceId, spanId, options, htrace.symm, hspan.symm, hoptions.symm⟩

end Form

/-! ### Bytes with a plus sign -/

/-- The characters of a byte with a zero in place of a plus sign. -/
def unsigned : List Char → List Char
  | ['+', low] => ['0', low]
  | cs => cs

theorem unsigned_of_head?_ne {cs : List Char} (h : cs.head? ≠ some '+') : unsigned cs = cs := by
  unfold unsigned
  split
  next => exact absurd rfl h
  next => rfl

theorem length_unsigned (cs : List Char) : (unsigned cs).length = cs.length := by
  unfold unsigned
  split <;> rfl

theorem hyphen_not_mem_of_isHex {cs : List Char} {count : Nat} (h : IsHex count cs) : '-' ∉ cs := by
  obtain ⟨n, -, rfl⟩ := Numeral.isHex_iff_exists.1 h
  exact hyphen_not_mem_hexPadded _ _

/-- No digit of a byte is a hyphen. -/
theorem hyphen_not_mem_of_unsigned {cs : List Char} (h : IsHex 2 (unsigned cs)) : '-' ∉ cs := by
  have hnot := hyphen_not_mem_of_isHex h
  unfold unsigned at hnot
  split at hnot
  next low => simpa using hnot
  next => exact hnot

theorem head?_ne_of_isHex {cs : List Char} {count : Nat} (h : IsHex count cs) :
    cs.head? ≠ some '+' := fun hplus =>
  absurd (h.digits '+' (List.mem_of_mem_head? hplus)) (by decide)

/-- **A byte is read from its two digits**, the first of which may be a plus sign for a zero. -/
theorem readByte?_eq_some_iff {cs : List Char} {b : UInt8} :
    readByte? cs = some b ↔ unsigned cs = Numeral.hexPadded 2 b.toNat := by
  have hleft : ∀ n < 16 ^ 2, (UInt8.ofNat n).toNat = n := fun n hn =>
    UInt8.toNat_ofNat'.trans (Nat.mod_eq_of_lt hn)
  have hdigits : ∀ ds : List Char, ds.length = 2 →
      ((Numeral.ofHex? ds).map UInt8.ofNat = some b ↔ ds = Numeral.hexPadded 2 b.toNat) := by
    intro ds hlength
    rw [← Numeral.readDigits_eq_some_iff hleft (fun _ => UInt8.ofNat_toNat) UInt8.toNat_lt,
      if_pos hlength]
  unfold readByte?
  split
  -- A zero in front does not change the value of a digit.
  next low => exact hdigits ['0', low] rfl
  next high low hplus =>
    have hhead : [high, low].head? ≠ some '+' := fun h => hplus (Option.some.inj h)
    rw [unsigned_of_head?_ne hhead]
    exact hdigits _ rfl
  next hplus hpair =>
    refine iff_of_false nofun fun h => ?_
    have hlength := congrArg List.length h
    rw [length_unsigned, Numeral.length_hexPadded] at hlength
    obtain ⟨high, low, rfl⟩ := List.length_eq_two.1 hlength
    exact hpair high low rfl

/-! ### What is read -/

/-- No field holds a hyphen. -/
theorem Form.WellFormed.hyphen_not_mem {form : Form} (h : form.WellFormed unsigned) :
    '-' ∉ form.version ∧ '-' ∉ form.trace ∧ '-' ∉ form.span ∧ '-' ∉ form.options :=
  ⟨hyphen_not_mem_of_unsigned h.version, hyphen_not_mem_of_isHex h.trace,
    hyphen_not_mem_of_isHex h.span, hyphen_not_mem_of_unsigned h.options⟩

/-- What is cut into four pieces and perhaps more is the text of a form. -/
theorem exists_form_of_endedPieces {cs version trace span options : List Char}
    {more : List (List Char)}
    (h : Text.endedPieces '-' cs = version :: trace :: span :: options :: more) :
    ∃ rest, cs = Form.text ⟨version, trace, span, options, rest⟩ ∧
      (rest = [] ∧ more = [] ∨ ∃ tail, rest = '-' :: tail ∧ more = Text.endedPieces '-' tail) := by
  obtain ⟨-, ⟨-, -, hmore⟩ | ⟨cs₁, hcs, h₁⟩⟩ := Text.endedPieces_eq_cons_iff.1 h
  · cases hmore
  obtain ⟨-, ⟨-, -, hmore⟩ | ⟨cs₂, hcs₁, h₂⟩⟩ := Text.endedPieces_eq_cons_iff.1 h₁
  · cases hmore
  obtain ⟨-, ⟨-, -, hmore⟩ | ⟨cs₃, hcs₂, h₃⟩⟩ := Text.endedPieces_eq_cons_iff.1 h₂
  · cases hmore
  rw [hcs, hcs₁, hcs₂]
  obtain ⟨-, ⟨-, hcs₃, hmore⟩ | ⟨tail, hcs₃, hmore⟩⟩ := Text.endedPieces_eq_cons_iff.1 h₃
  · exact ⟨[], by rw [Form.text, List.append_nil, hcs₃], .inl ⟨rfl, hmore⟩⟩
  · exact ⟨'-' :: tail, by rw [Form.text, hcs₃], .inr ⟨tail, rfl, hmore.symm⟩⟩

/-- **The text of a well-formed value is cut into its fields.** Nothing counts behind them exactly if at
most a hyphen stands there. -/
theorem endedPieces_text {form : Form} (h : form.WellFormed unsigned) :
    ∃ more, Text.endedPieces '-' form.text =
        form.version :: form.trace :: form.span :: form.options :: more ∧
      (more = [] ↔ form.rest = [] ∨ form.rest = ['-']) := by
  obtain ⟨hversion, htrace, hspan, hoptions⟩ := h.hyphen_not_mem
  rw [Form.text, Text.endedPieces_append hversion, Text.endedPieces_append htrace,
    Text.endedPieces_append hspan]
  have hrest : form.rest = [] ∨ ∃ tail, form.rest = '-' :: tail := by
    rcases h.rest with hrest | hrest | ⟨-, tail, hrest⟩
    · exact .inl hrest
    · exact .inr ⟨[], hrest⟩
    · exact .inr ⟨tail, hrest⟩
  rcases hrest with hrest | ⟨tail, hrest⟩ <;> rw [hrest]
  · have hne : form.options ≠ [] := fun hnil => by
      have hlength := h.options.length_eq
      rw [hnil] at hlength
      cases hlength
    exact ⟨[], by rw [List.append_nil, Text.endedPieces_of_not_mem hoptions hne], by simp⟩
  · refine ⟨Text.endedPieces '-' tail, by rw [Text.endedPieces_append hoptions], ?_⟩
    simp [Text.endedPieces_eq_nil_iff]

/-- The text determines the fields. -/
theorem Form.WellFormed.unique {form₁ form₂ : Form} (h₁ : form₁.WellFormed unsigned)
    (h₂ : form₂.WellFormed unsigned) (h : form₁.text = form₂.text) : form₁ = form₂ := by
  obtain ⟨more₁, hpieces₁, -⟩ := endedPieces_text h₁
  obtain ⟨more₂, hpieces₂, -⟩ := endedPieces_text h₂
  rw [h, hpieces₂] at hpieces₁
  obtain ⟨version, trace, span, options, rest⟩ := form₁
  simp only [List.cons.injEq] at hpieces₁
  obtain ⟨rfl, rfl, rfl, rfl, -⟩ := hpieces₁
  simp only [Form.text, List.append_cancel_left_eq, List.cons.injEq, true_and] at h
  rw [h]

/-- What the reader asks of the pieces. -/
theorem read?_eq_some_iff_pieces {value : String} {traceId : TraceId} {spanId : SpanId}
    {options : TraceOptions} :
    read? value = some (traceId, spanId, options) ↔
      ∃ version trace span flags more v,
        Text.endedPieces '-' (Text.trim value.toList) = version :: trace :: span :: flags :: more ∧
        readByte? version = some v ∧ (v.toNat ≤ maxVersion ∧ (v = 0 → more = [])) ∧
        TraceId.ofHex? (String.ofList trace) = some traceId ∧
        SpanId.ofHex? (String.ofList span) = some spanId ∧
        readByte? flags = some options.byte ∧ traceId.isValid = true ∧ spanId.isValid = true := by
  unfold read?
  split
  next version trace span flags more hpieces =>
    rw [hpieces]
    simp only [Option.bind_eq_bind, Option.bind_eq_some_iff, Option.guard_eq_some',
      Option.pure_def, Option.some.injEq, Prod.mk.injEq, Bool.and_eq_true]
    constructor
    · rintro ⟨v, hv, -, hversion, _, htrace, _, hspan, _, hflags, -, ⟨htraceId, hspanId⟩, rfl, rfl, rfl⟩
      exact ⟨version, trace, span, flags, more, v, rfl, hv, hversion, htrace, hspan, hflags,
        htraceId, hspanId⟩
    · rintro ⟨_, _, _, _, _, v, heq, hv, hversion, htrace, hspan, hflags, hvalid⟩
      simp only [List.cons.injEq] at heq
      obtain ⟨rfl, rfl, rfl, rfl, rfl⟩ := heq
      exact ⟨v, hv, (), hversion, traceId, htrace, spanId, hspan, options.byte, hflags, (), hvalid,
        rfl, rfl, rfl⟩
  next hshort =>
    refine iff_of_false nofun ?_
    rintro ⟨version, trace, span, flags, more, v, hpieces, -⟩
    exact hshort _ _ _ _ _ hpieces

/-- Bytes are the same if their digits are. -/
theorem hexPadded_eq_iff {a b : UInt8} :
    Numeral.hexPadded 2 a.toNat = Numeral.hexPadded 2 b.toNat ↔ a = b := by
  constructor
  · intro h
    have hread := Numeral.ofHex?_hexPadded 2 a.toNat
    rw [h, Numeral.ofHex?_hexPadded, Nat.pow_eq, Nat.mod_eq_of_lt a.toNat_lt,
      Nat.mod_eq_of_lt b.toNat_lt] at hread
    exact UInt8.toNat_inj.1 (Option.some.inj hread).symm
  · rintro rfl
    rfl

/-- The version that its digits spell. -/
theorem version_iff {cs : List Char} {v : UInt8} (h : unsigned cs = Numeral.hexPadded 2 v.toNat) :
    (unsigned cs ≠ ['f', 'f'] ↔ v.toNat ≤ maxVersion) ∧ (unsigned cs = ['0', '0'] ↔ v = 0) := by
  have hmax : ['f', 'f'] = Numeral.hexPadded 2 (255 : UInt8).toNat := by decide
  have hmin : ['0', '0'] = Numeral.hexPadded 2 (0 : UInt8).toNat := by decide
  have hlt := v.toNat_lt
  have h255 : (255 : UInt8).toNat = 255 := rfl
  rw [h, hmax, hmin, ne_eq, hexPadded_eq_iff, hexPadded_eq_iff, ← UInt8.toNat_inj, h255, maxVersion]
  exact ⟨by omega, Iff.rfl⟩

/-- What is read is well formed. -/
theorem exists_form_of_read? {value : String} {traceId : TraceId} {spanId : SpanId}
    {options : TraceOptions} (h : read? value = some (traceId, spanId, options)) :
    ∃ form : Form, Text.trim value.toList = form.text ∧ form.WellFormed unsigned ∧
      form.Spells unsigned traceId spanId options := by
  obtain ⟨version, trace, span, flags, more, v, hpieces, hv, ⟨hle, hmore⟩, htrace, hspan, hflags,
    htraceId, hspanId⟩ := read?_eq_some_iff_pieces.1 h
  obtain ⟨rest, htext, hrest⟩ := exists_form_of_endedPieces hpieces
  rw [readByte?_eq_some_iff] at hv hflags
  rw [TraceId.ofHex?_eq_some_iff, ← String.toList_inj, String.toList_ofList] at htrace
  rw [SpanId.ofHex?_eq_some_iff, ← String.toList_inj, String.toList_ofList] at hspan
  rw [TraceId.isValid_iff_hex, ← htrace] at htraceId
  rw [SpanId.isValid_iff_hex, ← hspan] at hspanId
  obtain ⟨hmax, hmin⟩ := version_iff hv
  have hbehind : rest = [] ∨ rest = ['-'] ∨
      unsigned version ≠ ['0', '0'] ∧ ∃ tail, rest = '-' :: tail := by
    rcases hrest with ⟨rfl, -⟩ | ⟨tail, rfl, hpieces⟩
    · exact .inl rfl
    · by_cases hzero : v = 0
      · rw [hmore hzero, eq_comm, Text.endedPieces_eq_nil_iff] at hpieces
        rw [hpieces]
        exact .inr (.inl rfl)
      · exact .inr (.inr ⟨fun hversion => hzero (hmin.1 hversion), tail, rfl⟩)
  have hoptions : unsigned flags = options.hex.toList := by
    rw [hflags, TraceOptions.hex, String.toList_ofList]
  exact ⟨⟨version, trace, span, flags, rest⟩, htext,
    ⟨Numeral.isHex_iff_exists.2 ⟨v.toNat, v.toNat_lt, hv⟩, hmax.2 hle,
      TraceId.exists_hex_eq_iff.1 ⟨traceId, htrace.symm⟩, htraceId,
      SpanId.exists_hex_eq_iff.1 ⟨spanId, hspan.symm⟩, hspanId,
      TraceOptions.exists_hex_eq_iff.1 ⟨options, hoptions.symm⟩, hbehind⟩,
    ⟨htrace, hspan, hoptions⟩⟩

/-- What is well formed is read. -/
theorem Form.WellFormed.read? {form : Form} (h : form.WellFormed unsigned) {value : String}
    (htext : Text.trim value.toList = form.text) {traceId : TraceId} {spanId : SpanId}
    {options : TraceOptions} (hspells : form.Spells unsigned traceId spanId options) :
    read? value = some (traceId, spanId, options) := by
  obtain ⟨more, hpieces, hmore⟩ := endedPieces_text h
  obtain ⟨n, hn, hv⟩ := Numeral.isHex_iff_exists.1 h.version
  obtain ⟨v, rfl⟩ : ∃ v : UInt8, v.toNat = n :=
    ⟨UInt8.ofNat n, UInt8.toNat_ofNat'.trans (Nat.mod_eq_of_lt hn)⟩
  obtain ⟨hmax, hmin⟩ := version_iff hv
  have hbehind : v = 0 → more = [] := fun hzero => by
    rcases h.rest with hrest | hrest | ⟨hne, -⟩
    · exact hmore.2 (.inl hrest)
    · exact hmore.2 (.inr hrest)
    · exact absurd (hmin.2 hzero) hne
  rw [read?_eq_some_iff_pieces, htext]
  refine ⟨form.version, form.trace, form.span, form.options, more, v, hpieces,
    readByte?_eq_some_iff.2 hv, ⟨hmax.1 h.version_ne, hbehind⟩, ?_, ?_, ?_, ?_, ?_⟩
  · rw [TraceId.ofHex?_eq_some_iff, hspells.trace, String.ofList_toList]
  · rw [SpanId.ofHex?_eq_some_iff, hspells.span, String.ofList_toList]
  · rw [readByte?_eq_some_iff, hspells.options, TraceOptions.hex, String.toList_ofList]
  · rw [TraceId.isValid_iff_hex, ← hspells.trace]
    exact h.trace_ne
  · rw [SpanId.isValid_iff_hex, ← hspells.span]
    exact h.span_ne

/-! ### What a carrier holds -/

/-- The value of the header in the carrier has the form, white space at its ends aside. -/
def Form.In (form : Form) (carrier : Carrier) : Prop :=
  ∃ value, carrier.header? parentHeader = some value ∧ Text.trim value.toList = form.text

/-- The trace state is the one that the header `tracestate` describes, and empty if that header is missing
or malformed. -/
def CarriesState (carrier : Carrier) (state : TraceState) : Prop :=
  match carrier.header? stateHeader with
  | some value => TraceState.ofHeader value = .ok state ∨
      (∃ e, TraceState.ofHeader value = .error e) ∧ state = .empty
  | none => state = .empty

theorem carriesState_iff {carrier : Carrier} {state : TraceState} :
    CarriesState carrier state ↔ state = readState carrier := by
  unfold CarriesState readState
  cases carrier.header? stateHeader with
  | none => rfl
  | some value =>
    dsimp only
    cases TraceState.ofHeader value with
    | ok state' => simp [Except.toOption, eq_comm]
    | error e => simp [Except.toOption]

/-- **The context that a carrier holds** is what its headers spell, a plus sign taken for a zero. -/
theorem extract_eq_some_iff {carrier : Carrier} {cx : SpanContext} :
    extract carrier = some cx ↔
      ∃ form : Form, form.In carrier ∧ form.WellFormed unsigned ∧
        form.Spells unsigned cx.traceId cx.spanId cx.options ∧ CarriesState carrier cx.state := by
  simp only [extract, Option.bind_eq_bind, Option.bind_eq_some_iff, Option.pure_def,
    Option.some.injEq]
  constructor
  · rintro ⟨value, hvalue, ⟨traceId, spanId, options⟩, hread, rfl⟩
    obtain ⟨form, htext, hform, hspells⟩ := exists_form_of_read? hread
    exact ⟨form, ⟨value, hvalue, htext⟩, hform, hspells, carriesState_iff.2 rfl⟩
  · rintro ⟨form, ⟨value, hvalue, htext⟩, hform, hspells, hstate⟩
    refine ⟨value, hvalue, _, hform.read? htext hspells, ?_⟩
    rw [← carriesState_iff.1 hstate]

/-! ### When the grammar is kept to -/

/-- The reader takes a context from the carrier exactly if the header is as the grammar has it, and then
the one that the headers spell. -/
structure ReadsGrammar (taken : List Char → List Char) (carrier : Carrier) : Prop where
  /-- What is accepted. -/
  accepts : (∃ cx, extract carrier = some cx) ↔
    ∃ form : Form, form.In carrier ∧ form.WellFormed taken
  /-- What is read. -/
  values {cx : SpanContext} {form : Form} : extract carrier = some cx → form.In carrier →
    form.WellFormed taken →
      form.Spells taken cx.traceId cx.spanId cx.options ∧ CarriesState carrier cx.state

/-- A plus sign stands in place of the first digit of the version or of the options. -/
def Form.HasPlus (form : Form) : Prop :=
  form.version.head? = some '+' ∨ form.options.head? = some '+'

/-- The header is read with a plus sign in place of a digit. -/
def HasPlus (carrier : Carrier) : Prop :=
  ∃ form : Form, form.In carrier ∧ form.WellFormed unsigned ∧ form.HasPlus

theorem Form.WellFormed.of_taken {taken taken' : List Char → List Char} {form : Form}
    (h : form.WellFormed taken) (hversion : taken form.version = taken' form.version)
    (hoptions : taken form.options = taken' form.options) : form.WellFormed taken' := by
  obtain ⟨version, version_ne, trace, trace_ne, span, span_ne, options, rest⟩ := h
  rw [hversion] at version version_ne rest
  rw [hoptions] at options
  exact ⟨version, version_ne, trace, trace_ne, span, span_ne, options, rest⟩

/-- Without a plus sign the characters of a byte are its digits. -/
theorem Form.wellFormed_id_iff {form : Form} :
    form.WellFormed id ↔ form.WellFormed unsigned ∧ ¬form.HasPlus := by
  have heq : ¬form.HasPlus →
      unsigned form.version = form.version ∧ unsigned form.options = form.options := fun hplus =>
    ⟨unsigned_of_head?_ne (not_or.1 hplus).1, unsigned_of_head?_ne (not_or.1 hplus).2⟩
  constructor
  · intro h
    have hplus : ¬form.HasPlus :=
      not_or.2 ⟨head?_ne_of_isHex h.version, head?_ne_of_isHex h.options⟩
    exact ⟨h.of_taken (heq hplus).1.symm (heq hplus).2.symm, hplus⟩
  · rintro ⟨h, hplus⟩
    exact h.of_taken (heq hplus).1 (heq hplus).2

theorem readsGrammar_unsigned (carrier : Carrier) : ReadsGrammar unsigned carrier where
  accepts := by
    constructor
    · rintro ⟨cx, h⟩
      obtain ⟨form, hin, hform, -⟩ := extract_eq_some_iff.1 h
      exact ⟨form, hin, hform⟩
    · rintro ⟨form, hin, hform⟩
      obtain ⟨traceId, spanId, options, hspells⟩ := hform.exists_spells
      exact ⟨⟨traceId, spanId, options, readState carrier⟩,
        extract_eq_some_iff.2 ⟨form, hin, hform, hspells, carriesState_iff.2 rfl⟩⟩
  values := by
    intro cx form h hin hform
    obtain ⟨form', hin', hform', hspells, hstate⟩ := extract_eq_some_iff.1 h
    obtain ⟨value, hvalue, htext⟩ := hin
    obtain ⟨value', hvalue', htext'⟩ := hin'
    obtain rfl : value = value' := Option.some.inj (hvalue.symm.trans hvalue')
    obtain rfl := hform.unique hform' (htext.symm.trans htext')
    exact ⟨hspells, hstate⟩

/-- Where a plus sign is read, a header is accepted that is not as the grammar has it. -/
theorem HasPlus.not_readsGrammar_id {carrier : Carrier} (h : HasPlus carrier) :
    ¬ReadsGrammar id carrier := by
  intro hread
  obtain ⟨form, ⟨value, hvalue, htext⟩, hform, hplus⟩ := h
  obtain ⟨form', ⟨value', hvalue', htext'⟩, hform'⟩ := hread.accepts.1
    ((readsGrammar_unsigned carrier).accepts.2 ⟨form, ⟨value, hvalue, htext⟩, hform⟩)
  obtain ⟨hform', hnot⟩ := Form.wellFormed_id_iff.1 hform'
  obtain rfl : value = value' := Option.some.inj (hvalue.symm.trans hvalue')
  obtain rfl := hform.unique hform' (htext.symm.trans htext')
  exact hnot hplus

/-- **A context is taken from exactly the headers of the grammar**, a plus sign taken for a zero, and it is
the one that they spell. With digits only in the place of digits this holds of all carriers but those whose
header is read with a plus sign in place of a digit. -/
theorem readsGrammar_iff (carrier : Carrier) :
    ReadsGrammar unsigned carrier ∧ (ReadsGrammar id carrier ↔ ¬HasPlus carrier) := by
  have hread := readsGrammar_unsigned carrier
  refine ⟨hread, fun h hplus => hplus.not_readsGrammar_id h, fun hnot => ?_⟩
  have hforms : ∀ {form : Form}, form.In carrier → form.WellFormed unsigned → ¬form.HasPlus :=
    fun hin hform hplus => hnot ⟨_, hin, hform, hplus⟩
  constructor
  · rw [hread.accepts]
    constructor
    · rintro ⟨form, hin, hform⟩
      exact ⟨form, hin, Form.wellFormed_id_iff.2 ⟨hform, hforms hin hform⟩⟩
    · rintro ⟨form, hin, hform⟩
      exact ⟨form, hin, (Form.wellFormed_id_iff.1 hform).1⟩
  · intro cx form h hin hform
    obtain ⟨hform, hplus⟩ := Form.wellFormed_id_iff.1 hform
    obtain ⟨hspells, hstate⟩ := hread.values h hin hform
    have heq : unsigned form.options = form.options :=
      unsigned_of_head?_ne (not_or.1 hplus).2
    exact ⟨⟨hspells.trace, hspells.span, heq ▸ hspells.options⟩, hstate⟩

/-- The options are read from a plus sign and one digit. -/
theorem not_readsGrammar_of_plus : ¬ReadsGrammar id ((OrderedMap.empty : Carrier).insert "traceparent"
    "00-4bf92f3577b34da6a3ce929d0e0e4736-00f067aa0ba902b7-+1") := by
  let form : Form := ⟨"00".toList, "4bf92f3577b34da6a3ce929d0e0e4736".toList,
    "00f067aa0ba902b7".toList, "+1".toList, []⟩
  have hin : form.In ((OrderedMap.empty : Carrier).insert "traceparent"
      "00-4bf92f3577b34da6a3ce929d0e0e4736-00f067aa0ba902b7-+1") :=
    ⟨"00-4bf92f3577b34da6a3ce929d0e0e4736-00f067aa0ba902b7-+1", by decide +kernel,
      by decide +kernel⟩
  have hform : form.WellFormed unsigned :=
    ⟨by decide +kernel, by decide, by decide +kernel, ⟨'4', by decide +kernel, by decide⟩,
      by decide +kernel, ⟨'f', by decide +kernel, by decide⟩, by decide +kernel, .inl rfl⟩
  exact HasPlus.not_readsGrammar_id ⟨form, hin, hform, .inr (by decide)⟩

end Telemetry.Propagation.Traceparent
