import Telemetry.Proofs.Trace.Id
import Telemetry.Propagation.BinaryContext

/-!
# Span contexts in fields

What bytes say about a span context, without the reader: behind a version byte stand complete fields, and
behind these nothing, a field of another kind with anything behind it, or a field that the input cuts
short.  Every input but the empty one has this form (`exists_buffer`).  `decode_bytes_eq_ok_iff` says that
the last of several equal fields counts and that both identifiers must be there and name something, and
`decode_fields` adds what is refused and which written contexts come back.
-/

namespace Telemetry.Propagation.BinaryContext

/-! ### The form of a buffer -/

/-- A complete field. -/
structure Item where
  /-- Which field it is. -/
  field : ContextField
  /-- Its bytes. -/
  bytes : List UInt8
  /-- There are as many of them as the field has. -/
  length_eq : bytes.length = field.size

/-- The bytes of a field behind the byte that introduces it. -/
def Item.encode (item : Item) : List UInt8 := item.field.tag :: item.bytes

/-- What stands behind the complete fields. -/
inductive Ending where
  /-- Nothing. -/
  | done
  /-- A field of another kind, whose length is not known, and anything behind it. -/
  | unknown (tag : UInt8) (rest : List UInt8) (tag_ne : ∀ field : ContextField, tag ≠ field.tag)
  /-- A field with too few bytes. -/
  | cut (field : ContextField) (bytes : List UInt8) (length_lt : bytes.length < field.size)

namespace Ending

/-- The bytes of the ending. -/
def bytes : Ending → List UInt8
  | done => []
  | unknown tag rest _ => tag :: rest
  | cut field bytes _ => field.tag :: bytes

/-- What is wrong with the ending. -/
def fault? : Ending → Option ContextFault
  | done => none
  | unknown _ _ _ => none
  | cut field _ _ => some (.truncated field)

end Ending

/-- A version byte, complete fields, and what stands behind them. -/
structure Buffer where
  /-- The version. -/
  version : UInt8
  /-- The complete fields. -/
  items : List Item
  /-- What stands behind them. -/
  ending : Ending

/-- The bytes of a buffer. -/
def Buffer.bytes (buffer : Buffer) : List UInt8 :=
  buffer.version :: (buffer.items.flatMap Item.encode ++ buffer.ending.bytes)

/-! ### Fields and the bytes that introduce them -/

theorem ofTag?_tag (field : ContextField) : ContextField.ofTag? field.tag = some field := by
  cases field <;> rfl

theorem ofTag?_eq_none_iff {tag : UInt8} :
    ContextField.ofTag? tag = none ↔ ∀ field : ContextField, tag ≠ field.tag := by
  constructor
  · rintro h field rfl
    rw [ofTag?_tag] at h
    cases h
  · intro h
    have h₀ : tag ≠ 0 := h .traceId
    have h₁ : tag ≠ 1 := h .spanId
    have h₂ : tag ≠ 2 := h .options
    simp [ContextField.ofTag?, h₀, h₁, h₂]

theorem tag_of_ofTag? {tag : UInt8} {field : ContextField}
    (h : ContextField.ofTag? tag = some field) : tag = field.tag := by
  unfold ContextField.ofTag? at h
  split at h
  next h₀ => cases h; exact h₀
  next =>
    split at h
    next h₁ => cases h; exact h₁
    next =>
      split at h
      next h₂ => cases h; exact h₂
      next => cases h

/-- Bytes are complete fields and an ending. -/
theorem exists_items (bytes : List UInt8) :
    ∃ (items : List Item) (ending : Ending), bytes = items.flatMap Item.encode ++ ending.bytes := by
  induction hlength : bytes.length using Nat.strongRecOn generalizing bytes with
  | ind n ih =>
    subst hlength
    cases bytes with
    | nil => exact ⟨[], .done, rfl⟩
    | cons tag body =>
      cases htag : ContextField.ofTag? tag with
      | none => exact ⟨[], .unknown tag body (ofTag?_eq_none_iff.1 htag), rfl⟩
      | some field =>
        obtain rfl := tag_of_ofTag? htag
        by_cases hshort : body.length < field.size
        · exact ⟨[], .cut field body hshort, rfl⟩
        · have hle := Nat.not_lt.1 hshort
          have hrest : (body.drop field.size).length < (field.tag :: body).length := by
            rw [List.length_drop, List.length_cons]
            omega
          obtain ⟨items, ending, heq⟩ := ih _ hrest _ rfl
          refine ⟨⟨field, body.take field.size, List.length_take_of_le hle⟩ :: items, ending, ?_⟩
          rw [List.flatMap_cons, List.append_assoc, ← heq, Item.encode, List.cons_append,
            List.take_append_drop]

/-- **Every input but the empty one has the form of a buffer.** -/
theorem exists_buffer {bytes : List UInt8} (h : bytes ≠ []) :
    ∃ buffer : Buffer, buffer.bytes = bytes := by
  cases bytes with
  | nil => exact absurd rfl h
  | cons version rest =>
    obtain ⟨items, ending, rfl⟩ := exists_items rest
    exact ⟨⟨version, items, ending⟩, rfl⟩

/-! ### What the fields say -/

/-- The bytes of the last occurrence of a field. -/
def last? (field : ContextField) (items : List Item) : Option (List UInt8) :=
  (items.reverse.find? fun item => item.field = field).map Item.bytes

theorem last?_concat (field : ContextField) (items : List Item) (item : Item) :
    last? field (items ++ [item]) =
      if item.field = field then some item.bytes else last? field items := by
  rw [last?, List.reverse_append, List.reverse_singleton, List.singleton_append, List.find?_cons]
  by_cases h : item.field = field <;> simp [h, last?]

theorem length_of_last? {field : ContextField} {items : List Item} {bytes : List UInt8}
    (h : last? field items = some bytes) : bytes.length = field.size := by
  obtain ⟨item, hitem, rfl⟩ := Option.map_eq_some_iff.1 h
  have hfield : item.field = field := by simpa using List.find?_some hitem
  rw [item.length_eq, hfield]

/-- The context is the one that the fields describe: the last occurrence of each counts, options that are
absent are zero, and there is no trace state. -/
structure Describes (items : List Item) (cx : SpanContext) : Prop where
  /-- The trace identifier. -/
  traceId : last? .traceId items = some cx.traceId.toBytes
  /-- The span identifier. -/
  spanId : last? .spanId items = some cx.spanId.toBytes
  /-- The options. -/
  options : (last? .options items).getD [0] = [cx.options.byte]
  /-- The trace state. -/
  state : cx.state = .empty

/-- The field occurs, and the bytes of its last occurrence are not all zero. -/
def Names (field : ContextField) (items : List Item) : Prop :=
  ∃ bytes, last? field items = some bytes ∧ ∃ b ∈ bytes, b ≠ 0

/-! ### What is read -/

/-- The fields read so far with one more. -/
def Fields.add (fields : Fields) (item : Item) : Fields := fields.set item.field item.bytes

theorem readFields_encode (fields : Fields) (item : Item) (rest : List UInt8) :
    readFields fields (item.encode ++ rest) = readFields (fields.add item) rest := by
  have hsize : ¬(item.bytes ++ rest).length < item.field.size := by
    rw [List.length_append, item.length_eq]
    omega
  rw [Item.encode, List.cons_append, readFields]
  simp only [ofTag?_tag]
  rw [if_neg hsize, List.take_left' item.length_eq, List.drop_left' item.length_eq, Fields.add]

/-- **Complete fields are read one after the other.** -/
theorem readFields_flatMap (items : List Item) (fields : Fields) (rest : List UInt8) :
    readFields fields (items.flatMap Item.encode ++ rest) =
      readFields (items.foldl Fields.add fields) rest := by
  induction items generalizing fields with
  | nil => rfl
  | cons item items ih =>
    rw [List.flatMap_cons, List.append_assoc, readFields_encode, ih, List.foldl_cons]

theorem readFields_ending (fields : Fields) (ending : Ending) :
    readFields fields ending.bytes =
      match ending.fault? with
      | none => .ok fields
      | some fault => .error fault := by
  cases ending with
  | done => rw [Ending.bytes, readFields]; rfl
  | unknown tag rest htag =>
    rw [Ending.bytes, readFields]
    simp only [ofTag?_eq_none_iff.2 htag]
    rfl
  | cut field bytes hshort =>
    rw [Ending.bytes, readFields]
    simp only [ofTag?_tag]
    rw [if_pos hshort]
    rfl

/-- No field. -/
def Fields.start : Fields := ⟨none, none, .notSampled⟩

/-- **The last occurrence of each field is kept.** -/
theorem foldl_add (items : List Item) :
    items.foldl Fields.add .start =
      ⟨(last? .traceId items).map TraceId.ofBytes, (last? .spanId items).map SpanId.ofBytes,
        ⟨((last? .options items).getD [0]).headD 0⟩⟩ := by
  induction items using List.reverseRecOn with
  | nil => rfl
  | append_singleton items item ih =>
    rw [List.foldl_append, List.foldl_cons, List.foldl_nil, ih, last?_concat, last?_concat,
      last?_concat]
    obtain ⟨field, bytes, hlength⟩ := item
    cases field <;> rfl

/-- What is made of a buffer. -/
theorem decode_bytes (buffer : Buffer) :
    decode buffer.bytes =
      match buffer.ending.fault? with
      | none => (buffer.items.foldl Fields.add .start).toContext.mapError fun fault =>
          ⟨formatName, fault⟩
      | some fault => .error ⟨formatName, fault⟩ := by
  show ((readFields .start (buffer.items.flatMap Item.encode ++ buffer.ending.bytes)).bind
    Fields.toContext).mapError _ = _
  rw [readFields_flatMap, readFields_ending]
  cases buffer.ending.fault? <;> rfl

theorem toContext_eq_ok_iff {fields : Fields} {cx : SpanContext} :
    fields.toContext = .ok cx ↔ fields.traceId = some cx.traceId ∧
      fields.spanId = some cx.spanId ∧ fields.options = cx.options ∧ cx.state = .empty ∧
        cx.isValid = true := by
  obtain ⟨traceId | traceId, spanId | spanId, options⟩ := fields
  · exact iff_of_false nofun nofun
  · exact iff_of_false nofun nofun
  · exact iff_of_false nofun nofun
  · rw [Fields.toContext]
    constructor
    · intro h
      dsimp only at h
      split at h
      next hvalid =>
        cases h
        exact ⟨rfl, rfl, rfl, rfl, hvalid⟩
      next => cases h
    · obtain ⟨trace, span, flags, state⟩ := cx
      rintro ⟨htrace, hspan, hoptions, hstate, hvalid⟩
      cases htrace
      cases hspan
      cases hoptions
      cases hstate
      exact if_pos hvalid

/-- The value that is kept of a field is the one whose bytes stand in its last occurrence. -/
theorem map_last?_eq_some_iff {α : Type} {field : ContextField} {ofBytes : List UInt8 → α}
    {toBytes : α → List UInt8}
    (hread : ∀ bytes a, bytes.length = field.size → (ofBytes bytes = a ↔ bytes = toBytes a))
    {items : List Item} {a : α} :
    (last? field items).map ofBytes = some a ↔ last? field items = some (toBytes a) := by
  cases h : last? field items with
  | none => exact iff_of_false nofun nofun
  | some bytes =>
    rw [Option.map_some, Option.some_inj, Option.some_inj]
    exact hread bytes a (length_of_last? h)

theorem options_eq_iff {items : List Item} {options : TraceOptions} :
    (⟨((last? .options items).getD [0]).headD 0⟩ : TraceOptions) = options ↔
      (last? .options items).getD [0] = [options.byte] := by
  have hlength : ((last? .options items).getD [0]).length = 1 := by
    cases h : last? .options items with
    | none => rfl
    | some bytes => exact length_of_last? h
  obtain ⟨byte, hbyte⟩ := List.length_eq_one_iff.1 hlength
  obtain ⟨flags⟩ := options
  rw [hbyte, List.headD_cons, TraceOptions.mk.injEq, List.cons.injEq, and_iff_left rfl]

/-- **What is read from a buffer is what its fields describe.** -/
theorem decode_bytes_eq_ok_iff {buffer : Buffer} {cx : SpanContext} :
    decode buffer.bytes = .ok cx ↔
      buffer.ending.fault? = none ∧ Describes buffer.items cx ∧ cx.isValid = true := by
  rw [decode_bytes]
  cases hfault : buffer.ending.fault? with
  | some fault => exact iff_of_false nofun nofun
  | none =>
    have hread : (buffer.items.foldl Fields.add .start).toContext = .ok cx ↔
        Describes buffer.items cx ∧ cx.isValid = true := by
      rw [toContext_eq_ok_iff, foldl_add, map_last?_eq_some_iff fun _ _ h => TraceId.ofBytes_eq_iff h,
        map_last?_eq_some_iff fun _ _ h => SpanId.ofBytes_eq_iff h, options_eq_iff]
      constructor
      · rintro ⟨htrace, hspan, hoptions, hstate, hvalid⟩
        exact ⟨⟨htrace, hspan, hoptions, hstate⟩, hvalid⟩
      · rintro ⟨⟨htrace, hspan, hoptions, hstate⟩, hvalid⟩
        exact ⟨htrace, hspan, hoptions, hstate, hvalid⟩
    rw [← hread]
    cases (buffer.items.foldl Fields.add .start).toContext with
    | error fault => exact iff_of_false nofun nofun
    | ok cx' => simp [Except.mapError]

/-- A context is read from a buffer exactly if the buffer does not end inside a field and both
identifiers are there and name something. -/
theorem exists_decode_bytes_iff {buffer : Buffer} :
    (∃ cx, decode buffer.bytes = .ok cx) ↔
      buffer.ending.fault? = none ∧ Names .traceId buffer.items ∧ Names .spanId buffer.items := by
  simp only [decode_bytes_eq_ok_iff, SpanContext.isValid, Bool.and_eq_true,
    TraceId.isValid_iff_bytes, SpanId.isValid_iff_bytes]
  constructor
  · rintro ⟨cx, hfault, hfields, htrace, hspan⟩
    exact ⟨hfault, ⟨_, hfields.traceId, htrace⟩, ⟨_, hfields.spanId, hspan⟩⟩
  · rintro ⟨hfault, ⟨trace, htrace, hnames⟩, ⟨span, hspan, hnames'⟩⟩
    have htoTrace := (TraceId.ofBytes_eq_iff (length_of_last? htrace)).1 rfl
    have htoSpan := (SpanId.ofBytes_eq_iff (length_of_last? hspan)).1 rfl
    rw [htoTrace] at htrace hnames
    rw [htoSpan] at hspan hnames'
    exact ⟨⟨.ofBytes trace, .ofBytes span, ⟨((last? .options buffer.items).getD [0]).headD 0⟩,
      .empty⟩, hfault, ⟨htrace, hspan, options_eq_iff.1 rfl, rfl⟩, hnames, hnames'⟩

/-! ### What is written -/

/-- The buffer of a context that names something. -/
def ofContext (cx : SpanContext) : Buffer :=
  ⟨0, [⟨.traceId, cx.traceId.toBytes, Numeral.length_toBytes _ _⟩,
    ⟨.spanId, cx.spanId.toBytes, Numeral.length_toBytes _ _⟩, ⟨.options, [cx.options.byte], rfl⟩],
    .done⟩

/-- The buffer of a context that names nothing: a trace identifier of zeros, and another one that is cut
short. -/
def ofNothing : Buffer :=
  ⟨0, [⟨.traceId, .replicate 16 0, rfl⟩], .cut .traceId (.replicate 10 0) (by decide)⟩

theorem toBytes_eq (cx : SpanContext) :
    toBytes cx = if cx.isValid then (ofContext cx).bytes else ofNothing.bytes := by
  rw [toBytes]
  split
  · simp [ofContext, Buffer.bytes, Item.encode, Ending.bytes]
  · rfl

/-- **A context that names something is read as it was written but for its trace state, and one that
names nothing is not read.** -/
theorem ofBytes?_toBytes (cx : SpanContext) :
    ofBytes? (toBytes cx) = if cx.isValid then some { cx with state := .empty } else none := by
  rw [ofBytes?, toBytes_eq]
  split
  next hvalid =>
    have hread : decode (ofContext cx).bytes = .ok { cx with state := .empty } :=
      decode_bytes_eq_ok_iff.2 ⟨rfl, ⟨rfl, rfl, rfl, rfl⟩, hvalid⟩
    rw [hread]
    rfl
  next => rw [decode_bytes]; rfl

/-- **What is read and written.**  A context is read from a version byte, complete fields and an ending
exactly if the ending is no field that is cut short and the last trace identifier and the last span
identifier are there and not zero; the context is the one that the last occurrences describe.  Nothing is
read from no bytes and from a field that is cut short.  So a written context comes back without its trace
state, and one that names nothing does not. -/
theorem decode_fields :
    (∀ buffer : Buffer, (∃ cx, decode buffer.bytes = .ok cx) ↔
      buffer.ending.fault? = none ∧ Names .traceId buffer.items ∧ Names .spanId buffer.items) ∧
    (∀ (buffer : Buffer) (cx : SpanContext), decode buffer.bytes = .ok cx →
      Describes buffer.items cx) ∧
    decode [] = .error ⟨formatName, .empty⟩ ∧
    (∀ (buffer : Buffer) (fault : ContextFault), buffer.ending.fault? = some fault →
      decode buffer.bytes = .error ⟨formatName, fault⟩) ∧
    ∀ cx : SpanContext, ofBytes? (toBytes cx) =
      if cx.isValid then some { cx with state := .empty } else none := by
  refine ⟨fun _ => exists_decode_bytes_iff, fun buffer cx h => (decode_bytes_eq_ok_iff.1 h).2.1, rfl,
    fun buffer fault h => ?_, ofBytes?_toBytes⟩
  rw [decode_bytes, h]

/-- Fields that occur again, out of order and with a zero identifier among them, and bytes of a later
version behind them. -/
def repeatedFields : Buffer :=
  ⟨7, [⟨.options, [1], rfl⟩, ⟨.traceId, .replicate 16 0, rfl⟩, ⟨.spanId, .replicate 8 5, rfl⟩,
    ⟨.traceId, .replicate 16 2, rfl⟩, ⟨.options, [3], rfl⟩], .unknown 9 [0, 0] nofun⟩

theorem decode_fields_repeated :
    (∃ cx, decode repeatedFields.bytes = .ok cx) ∧
    Describes repeatedFields.items
      ⟨.ofBytes (.replicate 16 2), .ofBytes (.replicate 8 5), ⟨3⟩, .empty⟩ ∧
    decode (Buffer.mk 0 [] (.cut .spanId [1, 2] (by decide))).bytes =
      .error ⟨formatName, .truncated .spanId⟩ := by
  refine ⟨(decode_fields.1 repeatedFields).2 ⟨rfl, ⟨_, rfl, 2, ?_⟩, ⟨_, rfl, 5, ?_⟩⟩,
    decode_fields.2.1 repeatedFields _ ?_, decode_fields.2.2.2.1 _ _ rfl⟩
  · decide
  · decide
  · rw [decode_bytes]
    rfl

end Telemetry.Propagation.BinaryContext
