import Telemetry.Text.Utf8

/-!
# Boundaries of characters

Where the bytes of a text may be cut.  The bytes tell it themselves: a character begins at every byte that
does not continue one.  Walking back from an index finds the greatest boundary that is not above it
(`boundaryBefore?_eq_some_iff`), and the boundaries of a text are the sizes of its prefixes
(`isBoundary_flatMap_iff_exists_prefix`).
-/

namespace Telemetry.Text.Utf8

/-! ### Boundaries -/

/-- Whether the byte continues a character that began before it. -/
def isContinuation (b : UInt8) : Bool := 0x80 ≤ b.toNat && b.toNat ≤ 0xbf

/-- Whether no character goes on across the index, an index into `bytes` or their end. -/
def isBoundary (bytes : List UInt8) (index : Nat) : Bool :=
  index == 0 || index == bytes.length || bytes[index]?.any fun b => !isContinuation b

/-- The first boundary that is met when walking back from an index; `none` if there were none at 0 or
above. -/
def boundaryBefore? (bytes : List UInt8) : Nat → Option Nat
  | 0 => if isBoundary bytes 0 then some 0 else none
  | index + 1 =>
    if isBoundary bytes (index + 1) then some (index + 1) else boundaryBefore? bytes index

@[simp] theorem isBoundary_zero (bytes : List UInt8) : isBoundary bytes 0 = true := rfl

/-- **Walking back ends** at the greatest boundary that is not above the index. -/
theorem boundaryBefore?_eq_some_iff {bytes : List UInt8} {index found : Nat} :
    boundaryBefore? bytes index = some found ↔
      found ≤ index ∧ isBoundary bytes found = true ∧
        ∀ other ≤ index, isBoundary bytes other = true → other ≤ found := by
  induction index with
  | zero =>
    simp only [boundaryBefore?, isBoundary_zero, if_true, Option.some.injEq, Nat.le_zero]
    constructor
    · rintro rfl
      simp
    · rintro ⟨rfl, -⟩
      rfl
  | succ index ih =>
    rw [boundaryBefore?]
    split
    next h =>
      rw [Option.some.injEq]
      constructor
      · rintro rfl
        exact ⟨Nat.le_refl _, h, fun other hother _ => hother⟩
      · rintro ⟨hle, -, hgreatest⟩
        have := hgreatest (index + 1) (Nat.le_refl _) h
        omega
    next h =>
      rw [ih]
      -- The index itself is no boundary, so it is neither found nor among the others.
      have hbelow : ∀ other, isBoundary bytes other = true → other ≤ index + 1 → other ≤ index := by
        intro other hother hle
        have : other ≠ index + 1 := fun heq => h (heq ▸ hother)
        omega
      constructor
      · rintro ⟨hle, hfound, hgreatest⟩
        exact ⟨by omega, hfound, fun other hother hb => hgreatest other (hbelow other hb hother) hb⟩
      · rintro ⟨hle, hfound, hgreatest⟩
        exact ⟨hbelow found hfound hle, hfound, fun other hother => hgreatest other (by omega)⟩

/-! ### Boundaries of a text -/

/-- The first byte of a character continues none, and the others do. -/
theorem exists_utf8EncodeChar_eq (c : Char) :
    ∃ lead more, String.utf8EncodeChar c = lead :: more ∧ isContinuation lead = false ∧
      ∀ b ∈ more, isContinuation b = true := by
  have hmore : ∀ n, isContinuation (UInt8.ofNat (n % 64 + 128)) = true := by
    intro n
    have : (UInt8.ofNat (n % 64 + 128)).toNat = n % 64 + 128 :=
      UInt8.toNat_ofNat_of_lt' (by simp only [UInt8.size]; omega)
    simp only [isContinuation, this, Bool.and_eq_true, decide_eq_true_eq]
    omega
  have hlead : ∀ n, n < 128 ∨ 192 ≤ n → n < 256 → isContinuation (UInt8.ofNat n) = false := by
    intro n h hn
    have : (UInt8.ofNat n).toNat = n := UInt8.toNat_ofNat_of_lt' hn
    simp only [isContinuation, this, Bool.and_eq_false_iff, decide_eq_false_iff_not]
    omega
  simp only [String.utf8EncodeChar]
  split
  · exact ⟨_, _, rfl, hlead _ (by omega) (by omega), nofun⟩
  · split
    · exact ⟨_, _, rfl, hlead _ (by omega) (by omega),
        List.forall_mem_singleton.2 (hmore _)⟩
    · split
      · exact ⟨_, _, rfl, hlead _ (by omega) (by omega),
          List.forall_mem_cons.2 ⟨hmore _, List.forall_mem_singleton.2 (hmore _)⟩⟩
      · exact ⟨_, _, rfl, hlead _ (by omega) (by omega), List.forall_mem_cons.2
          ⟨hmore _, List.forall_mem_cons.2 ⟨hmore _, List.forall_mem_singleton.2 (hmore _)⟩⟩⟩

/-- In the bytes of a text a character begins at index 0 as at any other boundary. -/
theorem isBoundary_flatMap_iff {cs : List Char} {index : Nat} :
    isBoundary (cs.flatMap String.utf8EncodeChar) index = true ↔
      index = (cs.flatMap String.utf8EncodeChar).length ∨
        ∃ b, (cs.flatMap String.utf8EncodeChar)[index]? = some b ∧ isContinuation b = false := by
  simp only [isBoundary, Bool.or_eq_true, beq_iff_eq, Option.any_eq_true, Bool.not_eq_true',
    or_assoc]
  constructor
  · rintro (rfl | h)
    · cases cs with
      | nil => exact .inl rfl
      | cons c rest =>
        obtain ⟨lead, more, hc, hlead, -⟩ := exists_utf8EncodeChar_eq c
        rw [List.flatMap_cons, hc]
        exact .inr ⟨lead, rfl, hlead⟩
    · exact h
  · exact .inr

theorem length_flatMap_cons (c : Char) (cs : List Char) :
    ((c :: cs).flatMap String.utf8EncodeChar).length =
      c.utf8Size + (cs.flatMap String.utf8EncodeChar).length := by
  rw [List.flatMap_cons, List.length_append, String.length_utf8EncodeChar]

/-- Behind the first character the boundaries are those of the other characters. -/
theorem isBoundary_flatMap_cons_add {c : Char} {cs : List Char} {index : Nat} :
    isBoundary ((c :: cs).flatMap String.utf8EncodeChar) (c.utf8Size + index) =
      isBoundary (cs.flatMap String.utf8EncodeChar) index := by
  have hlength := String.length_utf8EncodeChar c
  rw [Bool.eq_iff_iff, isBoundary_flatMap_iff, isBoundary_flatMap_iff, length_flatMap_cons,
    Nat.add_left_cancel_iff, List.flatMap_cons, List.getElem?_append_right (by omega), hlength,
    Nat.add_sub_cancel_left]

/-- Inside the first character there is no boundary. -/
theorem isBoundary_flatMap_cons_of_lt {c : Char} {cs : List Char} {index : Nat} (hpos : 0 < index)
    (hlt : index < c.utf8Size) :
    isBoundary ((c :: cs).flatMap String.utf8EncodeChar) index = false := by
  obtain ⟨lead, more, hc, -, hmore⟩ := exists_utf8EncodeChar_eq c
  have hlength : more.length + 1 = c.utf8Size := by
    rw [← String.length_utf8EncodeChar, hc, List.length_cons]
  obtain ⟨index, rfl⟩ := Nat.exists_eq_succ_of_ne_zero (Nat.ne_of_gt hpos)
  rw [Bool.eq_false_iff, ne_eq, isBoundary_flatMap_iff, List.flatMap_cons, hc, List.cons_append,
    List.length_cons, List.length_append, List.getElem?_cons_succ,
    List.getElem?_append_left (by omega), not_or]
  refine ⟨by omega, ?_⟩
  rintro ⟨b, hb, hnot⟩
  rw [hmore b (List.mem_of_getElem? hb)] at hnot
  cases hnot

/-- The boundaries of a text are the sizes of its prefixes. -/
theorem isBoundary_flatMap_iff_exists_prefix {cs : List Char} {index : Nat} :
    isBoundary (cs.flatMap String.utf8EncodeChar) index = true ↔
      ∃ kept, kept <+: cs ∧ (kept.flatMap String.utf8EncodeChar).length = index := by
  induction cs generalizing index with
  | nil =>
    rw [isBoundary_flatMap_iff]
    simp only [List.flatMap_nil, List.length_nil, List.getElem?_nil, List.prefix_nil]
    constructor
    · rintro (rfl | ⟨b, hb, -⟩)
      · exact ⟨[], rfl, rfl⟩
      · cases hb
    · rintro ⟨kept, rfl, rfl⟩
      exact .inl rfl
  | cons c cs ih =>
    constructor
    · intro h
      by_cases hzero : index = 0
      · exact ⟨[], List.nil_prefix, hzero.symm⟩
      · by_cases hlt : index < c.utf8Size
        · rw [isBoundary_flatMap_cons_of_lt (by omega) hlt] at h
          cases h
        · obtain ⟨rest, rfl⟩ := Nat.exists_eq_add_of_le (Nat.le_of_not_lt hlt)
          rw [isBoundary_flatMap_cons_add] at h
          obtain ⟨kept, hkept, hsize⟩ := ih.1 h
          refine ⟨c :: kept, List.cons_prefix_cons.2 ⟨rfl, hkept⟩, ?_⟩
          rw [length_flatMap_cons, hsize]
    · rintro ⟨kept, hkept, rfl⟩
      cases kept with
      | nil => rfl
      | cons d kept =>
        obtain ⟨rfl, hrest⟩ := List.cons_prefix_cons.1 hkept
        rw [length_flatMap_cons, isBoundary_flatMap_cons_add, ih]
        exact ⟨kept, hrest, rfl⟩

/-- The bytes of a prefix are the bytes in front of its size. -/
theorem take_encode {cs kept : List Char} (h : kept <+: cs) :
    (cs.flatMap String.utf8EncodeChar).take (kept.flatMap String.utf8EncodeChar).length =
      kept.flatMap String.utf8EncodeChar := by
  obtain ⟨rest, rfl⟩ := h
  rw [List.flatMap_append, List.take_left]

end Telemetry.Text.Utf8
