import Telemetry.Proofs.Propagation.TraceparentGrammar
import Telemetry.Proofs.Trace.StateHeader

/-!
# What survives in traceparent and tracestate

The identifiers and options of a valid context always survive (`read?_write`).  The trace state survives
as far as it can be read back from its text, whatever the carrier held before (`extract_inject`), so that
`extract_inject_eq_self_iff` says exactly which contexts come back as they were.
-/

namespace Telemetry.Propagation.Traceparent

open Numeral (IsHex)

theorem trim_write (cx : SpanContext) : Text.trim (write cx).toList = (write cx).toList := by
  have hlast : (write cx).toList.getLast? =
      some (Nat.digitChar (cx.options.byte.toNat % 16)) := by
    rw [write, String.toList_append, TraceOptions.hex, String.toList_ofList, List.getLast?_append,
      Numeral.hexPadded, List.getLast?_concat]
    rfl
  have hhead : (write cx).toList.head? = some '0' := by
    simp [write, String.toList_append]
  rw [Text.trim_eq_self_iff, hlast, hhead]
  constructor
  · rintro _ ⟨⟩
    decide
  · rintro _ ⟨⟩
    exact (digitChar_ne (Nat.mod_lt _ (by decide))).2.2

/-- **What is written for a valid context is as the grammar has it.** -/
theorem exists_form_of_write {cx : SpanContext} (h : cx.isValid = true) :
    ∃ form : Form, (write cx).toList = form.text ∧ form.WellFormed unsigned ∧
      form.Spells unsigned cx.traceId cx.spanId cx.options := by
  obtain ⟨hvalid, hvalid'⟩ : cx.traceId.isValid = true ∧ cx.spanId.isValid = true := by
    rw [← Bool.and_eq_true]
    exact h
  obtain ⟨trace, htrace⟩ : ∃ trace, trace = cx.traceId.hex.toList := ⟨_, rfl⟩
  obtain ⟨span, hspan⟩ : ∃ span, span = cx.spanId.hex.toList := ⟨_, rfl⟩
  obtain ⟨options, hoptions⟩ : ∃ options, options = cx.options.hex.toList := ⟨_, rfl⟩
  have htext : (write cx).toList = Form.text ⟨['0', '0'], trace, span, options, []⟩ := by
    simp [write, Form.text, htrace, hspan, hoptions, String.toList_append]
  have hversion : IsHex 2 (unsigned ['0', '0']) ∧ unsigned ['0', '0'] ≠ ['f', 'f'] :=
    ⟨by decide +kernel, by decide⟩
  have hids : IsHex 32 trace ∧ IsHex 16 span := by
    rw [htrace, hspan]
    exact ⟨cx.traceId.isHex_hex, cx.spanId.isHex_hex⟩
  have hdigits : IsHex 2 options := by
    rw [hoptions]
    exact cx.options.isHex_hex
  have hunsigned : unsigned options = options := unsigned_of_head?_ne (head?_ne_of_isHex hdigits)
  rw [TraceId.isValid_iff_hex, ← htrace] at hvalid
  rw [SpanId.isValid_iff_hex, ← hspan] at hvalid'
  exact ⟨_, htext, ⟨hversion.1, hversion.2, hids.1, hvalid, hids.2, hvalid', by rwa [hunsigned],
    .inl rfl⟩, htrace, hspan, hunsigned.trans hoptions⟩

/-- **Identifiers and options are read back.** -/
theorem read?_write {cx : SpanContext} (h : cx.isValid = true) :
    read? (write cx) = some (cx.traceId, cx.spanId, cx.options) := by
  obtain ⟨form, htext, hform, hspells⟩ := exists_form_of_write h
  exact hform.read? ((trim_write cx).trans htext) hspells

/-! ### The carrier -/

theorem header?_inject {cx : SpanContext} (h : cx.isValid = true) (carrier : Carrier) :
    (inject cx carrier).header? parentHeader = some (write cx) ∧
      (inject cx carrier).header? stateHeader = some cx.state.header := by
  have hne : Text.lowercase stateHeader ≠ Text.lowercase parentHeader := by decide +kernel
  rw [inject, if_pos h]
  show ((carrier.setHeader parentHeader (write cx)).setHeader stateHeader
      cx.state.header).header? parentHeader = _ ∧
    ((carrier.setHeader parentHeader (write cx)).setHeader stateHeader
      cx.state.header).header? stateHeader = _
  rw [Carrier.header?_setHeader, Carrier.header?_setHeader, Carrier.header?_setHeader,
    if_neg hne, if_pos rfl, if_pos rfl]
  exact ⟨rfl, rfl⟩

/-- **A valid context comes back with its trace state as it can be read back**, whatever the carrier held
before. -/
theorem extract_inject {cx : SpanContext} (h : cx.isValid = true)
    (hstate : TraceState.ValidMembers cx.state.members)
    (hcount : cx.state.members.length ≤ maxStateMembers) (carrier : Carrier) :
    extract (inject cx carrier) = some { cx with state := cx.state.readBack } := by
  obtain ⟨hparent, hheader⟩ := header?_inject h carrier
  rw [extract, hparent, Option.bind_eq_bind, Option.bind_some, read?_write h,
    Option.bind_eq_bind, Option.bind_some, readState, hheader]
  dsimp only
  rw [TraceState.toOption_ofHeader_header hstate hcount]
  rfl

/-- **A valid context comes back as it was exactly if** no value of its trace state has a space at an end
and the trace state takes at most 512 bytes in text, for every trace state that can be built and whatever
the carrier held before.  Its identifiers and options come back in any case. -/
theorem extract_inject_eq_self_iff {cx : SpanContext} (h : cx.isValid = true)
    (hstate : cx.state.Obtainable) (carrier : Carrier) :
    (extract (inject cx carrier) = some cx ↔
        cx.state.NoOuterSpace ∧ cx.state.header.utf8ByteSize ≤ maxStateLength) ∧
      extract (inject cx carrier) = some { cx with state := cx.state.readBack } := by
  obtain ⟨hvalid, hfits⟩ := hstate.valid_and_fits
  have hextract := extract_inject h hvalid (TraceState.fits_iff.1 hfits).1 carrier
  refine ⟨?_, hextract⟩
  rw [hextract, TraceState.utf8ByteSize_header, ← TraceState.readBack_eq_self_iff hvalid,
    Option.some.injEq]
  constructor
  · intro heq
    exact congrArg SpanContext.state heq
  · intro heq
    rw [heq]

theorem extract_inject_eq_self_two_members :
    let cx : SpanContext := ⟨.ofNat 1, .ofNat 2, ⟨255⟩,
      ⟨[("congo", "t61rcWkgMzE"), ("rojo", "00f067aa 0ba902b7")]⟩⟩
    let carrier := (OrderedMap.empty : Carrier).insert "traceparent" "none"
    cx.isValid = true ∧ cx.state.Obtainable ∧ extract (inject cx carrier) = some cx := by
  intro cx carrier
  have h : cx.isValid = true := by decide
  have hstate : cx.state.Obtainable :=
    .ofPairs (show TraceState.ofPairs cx.state.members = .ok cx.state by decide +kernel)
  have hspace : cx.state.NoOuterSpace := by decide +kernel
  have hlength : cx.state.header.utf8ByteSize ≤ maxStateLength := by decide +kernel
  exact ⟨h, hstate, (extract_inject_eq_self_iff h hstate carrier).1.2 ⟨hspace, hlength⟩⟩

/-- A space at the end of a value is lost, and so is a single member that is too long. -/
theorem not_forall_extract_inject_eq_self :
    (∃ cx : SpanContext, cx.isValid = true ∧ cx.state.Obtainable ∧
        cx.state.header.utf8ByteSize ≤ maxStateLength ∧
        extract (inject cx OrderedMap.empty) ≠ some cx) ∧
      ∃ cx : SpanContext, cx.isValid = true ∧ cx.state.Obtainable ∧ cx.state.NoOuterSpace ∧
        extract (inject cx OrderedMap.empty) ≠ some cx := by
  constructor
  · have hstate : TraceState.ofPairs [("a", "x ")] = .ok ⟨[("a", "x ")]⟩ := by decide +kernel
    exact ⟨⟨.ofNat 1, .ofNat 2, ⟨1⟩, ⟨[("a", "x ")]⟩⟩, by decide, .ofPairs hstate,
      by decide +kernel, by decide +kernel⟩
  · obtain ⟨state, hstate, hspace, hlong⟩ := TraceState.exists_obtainable_too_long
    obtain ⟨cx, hids, rfl⟩ : ∃ cx : SpanContext, cx.isValid = true ∧ cx.state = state :=
      ⟨⟨.ofNat 1, .ofNat 2, ⟨1⟩, state⟩,
        (by decide : ((TraceId.ofNat 1).isValid && (SpanId.ofNat 2).isValid) = true), rfl⟩
    obtain ⟨hvalid, hfits⟩ := hstate.valid_and_fits
    refine ⟨cx, hids, hstate, hspace, fun h => ?_⟩
    rw [extract_inject hids hvalid (TraceState.fits_iff.1 hfits).1, Option.some.injEq] at h
    have hread := (TraceState.readBack_eq_self_iff hvalid).1 (congrArg SpanContext.state h)
    exact absurd hread.2 (Nat.not_le.2 hlong)

end Telemetry.Propagation.Traceparent
