import Telemetry.Proofs.Propagation.B3Leftovers
import Telemetry.Proofs.Text.Pieces

/-!
# The two layouts of B3

The texts that make up a context are written one after the other into the header `b3`, or each into a
header of its own.  The two layouts are read by different readers, which agree on all texts that can be
told apart in the single header (`extract_single_eq_extract_multiple`): identifiers of either length and
malformed ones, every spelling of the sampling state, missing and malformed parents.
-/

namespace Telemetry.Propagation.B3

/-- The texts that make up a context. -/
structure Parts where
  /-- The trace. -/
  trace : String
  /-- The span. -/
  span : String
  /-- The sampling state, if it is given, and with it the parent, if it is given. -/
  more : Option (String × Option String)

namespace Parts

/-- The parts that are given, in order. -/
def texts : Parts → List String
  | ⟨trace, span, none⟩ => [trace, span]
  | ⟨trace, span, some (sampled, none)⟩ => [trace, span, sampled]
  | ⟨trace, span, some (sampled, some parent)⟩ => [trace, span, sampled, parent]

/-- The parts in one text. -/
def value (parts : Parts) : String := "-".intercalate parts.texts

/-- A carrier with the parts in the single header, and nothing else. -/
def single (parts : Parts) : Carrier := Carrier.setHeader .empty singleHeader parts.value

/-- A carrier with each of the parts in a header of its own, and nothing else. -/
def multiple (parts : Parts) : Carrier :=
  Carrier.setHeaders .empty ([traceHeader, spanHeader, sampledHeader, parentHeader].zip parts.texts)

/-- The parts can be told apart in one text: none of them holds a hyphen or white space, and the last one is
not empty. -/
structure Separable (parts : Parts) : Prop where
  /-- No part holds a hyphen. -/
  hyphen : ∀ text ∈ parts.texts, '-' ∉ text.toList
  /-- No part holds white space. -/
  blank : ∀ text ∈ parts.texts, ∀ c ∈ text.toList, Text.isBlank c = false
  /-- The last part is not empty. -/
  last : parts.texts.getLast? ≠ some ""

/-- Whether the parts can be told apart is seen from their characters. -/
instance (parts : Parts) : Decidable parts.Separable :=
  decidable_of_iff
    ((parts.texts.all fun text => text.toList.all fun c => c != '-' && !Text.isBlank c) = true ∧
      parts.texts.getLast? ≠ some "") <| by
    simp only [List.all_eq_true, Bool.and_eq_true, bne_iff_ne, Bool.not_eq_true']
    constructor
    · rintro ⟨hplain, hlast⟩
      exact ⟨fun text htext hmem => (hplain text htext _ hmem).1 rfl,
        fun text htext c hc => (hplain text htext c hc).2, hlast⟩
    · exact fun h => ⟨fun text htext c hc =>
        ⟨fun heq => h.hyphen text htext (heq ▸ hc), h.blank text htext c hc⟩, h.last⟩

variable {parts : Parts}

/-! ### One header -/

theorem toList_value (parts : Parts) :
    parts.value.toList = Text.join ['-'] (parts.texts.map String.toList) := by
  rw [value, String.toList_intercalate, Text.join_eq_intercalate]
  rfl

/-- Separable parts are found again in their text. -/
theorem Separable.endedPieces (h : parts.Separable) :
    Text.endedPieces '-' (Text.trim parts.value.toList) = parts.texts.map String.toList := by
  have hblank : ∀ c ∈ parts.value.toList, Text.isBlank c = false := by
    intro c hc
    rw [toList_value] at hc
    rcases Text.mem_join hc with hsep | ⟨part, hpart, hc⟩
    · rw [List.mem_singleton.1 hsep]
      decide
    · obtain ⟨text, htext, rfl⟩ := List.mem_map.1 hpart
      exact h.blank text htext c hc
  have hhyphen : ∀ part ∈ parts.texts.map String.toList, '-' ∉ part := by
    intro part hpart
    obtain ⟨text, htext, rfl⟩ := List.mem_map.1 hpart
    exact h.hyphen text htext
  have hlast : (parts.texts.map String.toList).getLast? ≠ some [] := by
    rw [List.getLast?_map, ne_eq, Option.map_eq_some_iff]
    rintro ⟨text, htext, hnil⟩
    rw [String.toList_eq_nil_iff.1 hnil] at htext
    exact h.last htext
  rw [Text.trim_of_not_blank hblank, toList_value, Text.endedPieces_join hhyphen hlast]

/-- The options that the parts behind the identifiers stand for. -/
def options? (parts : Parts) : Option TraceOptions :=
  readTail? ((parts.texts.drop 2).map String.toList)

/-- **What the single header says**, part by part. -/
theorem Separable.readSingle? (h : parts.Separable) :
    B3.readSingle? parts.value = (readTraceId? parts.trace).bind fun traceId =>
      (SpanId.ofHex? parts.span).bind fun spanId =>
        parts.options?.bind fun options => assemble? traceId spanId options := by
  rw [B3.readSingle?, h.endedPieces]
  obtain ⟨trace, span, more⟩ := parts
  rcases more with _ | ⟨sampled, _ | parent⟩ <;>
    simp only [texts, List.map_cons, List.map_nil, String.ofList_toList] <;> rfl

/-! ### Several headers -/

/-- The part that a header holds. -/
def header? (parts : Parts) (name : String) : Option String :=
  if name = traceHeader then some parts.trace
  else if name = spanHeader then some parts.span
  else if name = sampledHeader then parts.more.map Prod.fst
  else if name = parentHeader then parts.more.bind Prod.snd
  else none

theorem header?_multiple (parts : Parts) {name : String} (hname : name ∈ readHeaders) :
    parts.multiple.header? name = parts.header? name := by
  have hset : ∀ other ∈ readHeaders, ∀ (carrier : Carrier) (value : String),
      (carrier.setHeader other value).header? name =
        if other = name then some value else carrier.header? name := fun other hother carrier value => by
    simp only [Carrier.header?_setHeader, lowercase_inj hother hname]
  have htrace := hset traceHeader (by decide)
  have hspan := hset spanHeader (by decide)
  have hsampled := hset sampledHeader (by decide)
  have hparent := hset parentHeader (by decide)
  have hempty : Carrier.header? .empty name = none := rfl
  simp only [readHeaders, List.mem_cons, List.not_mem_nil, or_false] at hname
  obtain ⟨trace, span, more⟩ := parts
  rcases more with _ | ⟨sampled, _ | parent⟩ <;>
    simp only [multiple, texts, List.zip_cons_cons, List.zip_nil_right, Carrier.setHeaders,
      List.foldl_cons, List.foldl_nil, htrace, hspan, hsampled, hparent, hempty]
  all_goals rcases hname with rfl | rfl | rfl | rfl | rfl | rfl <;> rfl

/-- **What the headers `X-B3-…` say**, part by part. -/
theorem readMultiple?_multiple (parts : Parts) :
    readMultiple? parts.multiple = (readTraceId? parts.trace).bind fun traceId =>
      (SpanId.ofHex? parts.span).bind fun spanId =>
        parts.options?.bind fun options => assemble? traceId spanId options := by
  have htrace : parts.multiple.header? traceHeader = some parts.trace := header?_multiple parts (by decide)
  have hspan : parts.multiple.header? spanHeader = some parts.span := header?_multiple parts (by decide)
  have hsampled : parts.multiple.header? sampledHeader = parts.more.map Prod.fst :=
    header?_multiple parts (by decide)
  have hparent : parts.multiple.header? parentHeader = parts.more.bind Prod.snd :=
    header?_multiple parts (by decide)
  have hflags : parts.multiple.header? flagsHeader = none := header?_multiple parts (by decide)
  have hplain : ∀ options : TraceOptions, options ||| .notSampled = options := fun options =>
    congrArg TraceOptions.mk UInt8.or_zero
  rw [readMultiple?, htrace, hspan, hsampled, hparent, hflags]
  obtain ⟨trace, span, more⟩ := parts
  rcases more with _ | ⟨sampled, _ | parent⟩
  · simp [options?, texts, readTail?, readSampled?, readFlags?, hplain]
  · simp [options?, texts, readTail?, readFlags?, hplain]
  · -- the parent is read before the sampling state here, and after it in the single header
    cases hread : SpanId.ofHex? parent <;> simp [options?, texts, readTail?, readFlags?, hplain, hread]

/-- **The two layouts agree**: parts that can be told apart in the single header are read from it as they are
from headers of their own. -/
theorem extract_single_eq_extract_multiple (h : parts.Separable) :
    extract parts.single = extract parts.multiple := by
  have hsingle : parts.single.header? singleHeader = some parts.value := by
    rw [single, Carrier.header?_setHeader, if_pos rfl]
  have hmultiple : parts.multiple.header? singleHeader = none := header?_multiple parts (by decide)
  rw [extract, extract, hsingle, hmultiple]
  dsimp only
  rw [h.readSingle?, readMultiple?_multiple]

/-- A short trace identifier, no sampling state and a parent, in both layouts. -/
theorem extract_single_eq_extract_multiple_with_parent :
    let parts : Parts := ⟨"b7ad6b7169203331", "00f067aa0ba902b7", some ("", some "00f067aa0ba902b8")⟩
    parts.Separable ∧ extract parts.single = extract parts.multiple ∧
      extract parts.single =
        some ⟨.ofNat 0xb7ad6b7169203331, .ofNat 0x00f067aa0ba902b7, .notSampled, .empty⟩ := by
  intro parts
  have h : parts.Separable := by decide +kernel
  exact ⟨h, extract_single_eq_extract_multiple h, by decide +kernel⟩

end Parts

end Telemetry.Propagation.B3
