import Mathlib.Tactic
import Telemetry.Text.Blank
import Telemetry.Trace.Id

/-!
# Identifiers in digits and in bytes

Reading digits and writing them are inverse to each other: digits are read as a number exactly if they are
its padded digits (`ofHex?_eq_some_iff`), and so an identifier is read from exactly the text that it is
written as (`TraceId.ofHex?_eq_some_iff`, `SpanId.ofHex?_eq_some_iff`), and of the bytes of its length from
exactly those that it is written in (`ofBytes_eq_iff`).  `IsHex` says without the reader which texts are
identifiers, and an identifier names something exactly if one of its digits or bytes is not zero.
-/

namespace Telemetry

namespace Numeral

/-- The characters are `count` lowercase hexadecimal digits. -/
structure IsHex (count : Nat) (cs : List Char) : Prop where
  /-- Their number. -/
  length_eq : cs.length = count
  /-- Each of them is a decimal digit or one of the letters from `a` to `f`. -/
  digits : ∀ c ∈ cs, '0' ≤ c ∧ c ≤ '9' ∨ 'a' ≤ c ∧ c ≤ 'f'

/-! ### One digit -/

theorem isSome_hexValue?_iff {c : Char} :
    (hexValue? c).isSome = true ↔ '0' ≤ c ∧ c ≤ '9' ∨ 'a' ≤ c ∧ c ≤ 'f' := by
  unfold hexValue?
  split
  next h => simp [h]
  next h =>
    split
    next h' => simp [h']
    next h' => simp [h, h']

instance decidableIsHex (count : Nat) (cs : List Char) : Decidable (IsHex count cs) :=
  decidable_of_iff (cs.length = count ∧ (cs.all fun c => (hexValue? c).isSome) = true) <| by
    rw [List.all_eq_true]
    exact ⟨fun h => ⟨h.1, fun c hc => isSome_hexValue?_iff.1 (h.2 c hc)⟩,
      fun h => ⟨h.length_eq, fun c hc => isSome_hexValue?_iff.2 (h.digits c hc)⟩⟩

/-- The digit of a value is the only one with that value. -/
theorem hexValue?_eq_some_iff {c : Char} {d : Nat} :
    hexValue? c = some d ↔ d < 16 ∧ c = Nat.digitChar d := by
  constructor
  · intro h
    -- A character between two others is settled by its number, of which there are few.
    have hrange : ∀ {low high : Char}, low ≤ c → c ≤ high →
        low.toNat ≤ c.toNat ∧ c.toNat ≤ high.toNat := fun hlow hhigh =>
      ⟨UInt32.le_iff_toNat_le.1 hlow, UInt32.le_iff_toNat_le.1 hhigh⟩
    have hdigit : ∀ n < 16, (Nat.digitChar n).toNat = if n < 10 then n + 48 else n + 87 := by
      decide
    unfold hexValue? at h
    split at h
    next hc =>
      obtain ⟨hlow, hhigh⟩ : 48 ≤ c.toNat ∧ c.toNat ≤ 57 := hrange hc.1 hc.2
      obtain rfl := Option.some.inj h
      refine ⟨by omega, Char.toNat_inj.1 ?_⟩
      rw [hdigit _ (by omega), if_pos (by omega)]
      omega
    next =>
      split at h
      next hc =>
        obtain ⟨hlow, hhigh⟩ : 97 ≤ c.toNat ∧ c.toNat ≤ 102 := hrange hc.1 hc.2
        obtain rfl := Option.some.inj h
        refine ⟨by omega, Char.toNat_inj.1 ?_⟩
        rw [hdigit _ (by omega), if_neg (by omega)]
        omega
      next => cases h
  · rintro ⟨hd, rfl⟩
    exact hexValue?_digitChar hd

/-! ### Many digits -/

/-- **Digits are read as a number exactly if they are its padded digits.** -/
theorem ofHex?_eq_some_iff {cs : List Char} {n : Nat} :
    ofHex? cs = some n ↔ n < 16 ^ cs.length ∧ cs = hexPadded cs.length n := by
  constructor
  · intro h
    induction cs using List.reverseRecOn generalizing n with
    | nil =>
      obtain rfl : 0 = n := Option.some.inj h
      exact ⟨by simp, rfl⟩
    | append_singleton cs c ih =>
      rw [ofHex?, readHex_append, Option.bind_eq_some_iff] at h
      obtain ⟨m, hm, h⟩ := h
      obtain ⟨hlt, hcs⟩ := ih hm
      cases hc : hexValue? c with
      | none =>
        rw [readHex, hc] at h
        cases h
      | some d =>
        rw [readHex, hc] at h
        obtain rfl : 16 * m + d = n := Option.some.inj h
        obtain ⟨hd, rfl⟩ := hexValue?_eq_some_iff.1 hc
        have hquot : (16 * m + d) / 16 = m := by omega
        have hrem : (16 * m + d) % 16 = d := by omega
        rw [List.length_append, List.length_singleton, pow_succ, hexPadded, hquot, hrem, ← hcs]
        exact ⟨by omega, rfl⟩
  · rintro ⟨hlt, hcs⟩
    have hread := ofHex?_hexPadded cs.length n
    rwa [← hcs, Nat.pow_eq, Nat.mod_eq_of_lt hlt] at hread

theorem exists_digitChar_of_mem_hexPadded {width n : Nat} {c : Char} (h : c ∈ hexPadded width n) :
    ∃ d < 16, c = Nat.digitChar d := by
  induction width generalizing n with
  | zero => cases h
  | succ width ih =>
    rcases List.mem_append.1 h with h | h
    · exact ih h
    · exact ⟨n % 16, Nat.mod_lt _ (by decide), List.mem_singleton.1 h⟩

/-- Padded digits are the texts of that many digits. -/
theorem isHex_iff_exists {width : Nat} {cs : List Char} :
    IsHex width cs ↔ ∃ n < 16 ^ width, cs = hexPadded width n := by
  constructor
  · rintro ⟨rfl, hdigits⟩
    have hread : ∀ (ds : List Char), (∀ c ∈ ds, (hexValue? c).isSome = true) →
        ∀ n, (readHex n ds).isSome = true := by
      intro ds
      induction ds with
      | nil => exact fun _ _ => rfl
      | cons c rest ih =>
        intro hds n
        obtain ⟨hc, hrest⟩ := List.forall_mem_cons.1 hds
        obtain ⟨d, hd⟩ := Option.isSome_iff_exists.1 hc
        rw [readHex, hd]
        exact ih hrest _
    obtain ⟨n, hn⟩ := Option.isSome_iff_exists.1
      (hread cs (fun c hc => isSome_hexValue?_iff.2 (hdigits c hc)) 0)
    exact ⟨n, ofHex?_eq_some_iff.1 hn⟩
  · rintro ⟨n, -, rfl⟩
    refine ⟨length_hexPadded _ _, fun c hc => isSome_hexValue?_iff.1 ?_⟩
    obtain ⟨d, hd, rfl⟩ := exists_digitChar_of_mem_hexPadded hc
    rw [hexValue?_digitChar hd]
    rfl

/-- Of what is written in a fixed number of places, only zero is written with zeros alone. -/
theorem forall_mem_eq_zero_iff {α : Type} {count n : Nat} {zero : α} {write : Nat → List α}
    (hzero : write 0 = List.replicate count zero) (hlength : (write n).length = count)
    (hinj : write n = write 0 → n = 0) : (∀ a ∈ write n, a = zero) ↔ n = 0 := by
  constructor
  · intro h
    refine hinj ?_
    rw [hzero, List.eq_replicate_iff]
    exact ⟨hlength, h⟩
  · rintro rfl a ha
    rw [hzero] at ha
    exact List.eq_of_mem_replicate ha

theorem hexPadded_zero (width : Nat) : hexPadded width 0 = List.replicate width '0' := by
  induction width with
  | zero => rfl
  | succ width ih =>
    rw [hexPadded, Nat.zero_div, ih, List.replicate_succ']
    rfl

/-- A number that fits is zero exactly if all its digits are. -/
theorem forall_mem_hexPadded_iff {width n : Nat} (hlt : n < 16 ^ width) :
    (∀ c ∈ hexPadded width n, c = '0') ↔ n = 0 := by
  refine forall_mem_eq_zero_iff (hexPadded_zero width) (length_hexPadded _ _) fun h => ?_
  have hread := ofHex?_hexPadded width n
  rw [h, ofHex?_hexPadded, Nat.pow_eq, Nat.zero_mod, Nat.mod_eq_of_lt hlt] at hread
  exact (Option.some.inj hread).symm

section Values

/-! ### Values that are written in a fixed number of digits -/

variable {α : Type} {width : Nat} {ofNat : Nat → α} {toNat : α → Nat}

/-- A text of that many digits is read as a value exactly if they are the digits of its number. -/
theorem readDigits_eq_some_iff (hleft : ∀ n < 16 ^ width, toNat (ofNat n) = n)
    (hright : ∀ a, ofNat (toNat a) = a) (hlt : ∀ a, toNat a < 16 ^ width) {cs : List Char} {a : α} :
    (if cs.length = width then (ofHex? cs).map ofNat else none) = some a ↔
      cs = hexPadded width (toNat a) := by
  split
  next hlength =>
    subst hlength
    rw [Option.map_eq_some_iff]
    constructor
    · rintro ⟨n, hn, rfl⟩
      obtain ⟨hn, hcs⟩ := ofHex?_eq_some_iff.1 hn
      rwa [hleft n hn]
    · intro hcs
      exact ⟨toNat a, ofHex?_eq_some_iff.2 ⟨hlt a, hcs⟩, hright a⟩
  next hlength =>
    refine iff_of_false nofun fun hcs => hlength ?_
    rw [hcs, length_hexPadded]

/-- The texts of the values are those of that many digits. -/
theorem exists_hexPadded_eq_iff (hleft : ∀ n < 16 ^ width, toNat (ofNat n) = n)
    (hlt : ∀ a, toNat a < 16 ^ width) {cs : List Char} :
    (∃ a, hexPadded width (toNat a) = cs) ↔ IsHex width cs := by
  rw [isHex_iff_exists]
  constructor
  · rintro ⟨a, rfl⟩
    exact ⟨toNat a, hlt a, rfl⟩
  · rintro ⟨n, hn, rfl⟩
    exact ⟨ofNat n, by rw [hleft n hn]⟩

end Values

/-! ### Many bytes -/

theorem toBytes_zero (count : Nat) : toBytes count 0 = List.replicate count 0 := by
  induction count with
  | zero => rfl
  | succ count ih =>
    rw [toBytes, Nat.zero_div, ih, List.replicate_succ']
    rfl

/-- A number that fits is zero exactly if all its bytes are. -/
theorem forall_mem_toBytes_iff {count n : Nat} (hlt : n < 256 ^ count) :
    (∀ b ∈ toBytes count n, b = 0) ↔ n = 0 := by
  refine forall_mem_eq_zero_iff (toBytes_zero count) (length_toBytes _ _) fun h => ?_
  have hread := ofBytes_toBytes count n
  rw [h, ofBytes_toBytes, Nat.pow_eq, Nat.zero_mod, Nat.mod_eq_of_lt hlt] at hread
  exact hread.symm

/-- That many bytes hold a value exactly if they are the bytes of its number. -/
theorem ofNat_ofBytes_eq_iff {α : Type} {count : Nat} {ofNat : Nat → α} {toNat : α → Nat}
    (hleft : ∀ n < 256 ^ count, toNat (ofNat n) = n) (hright : ∀ a, ofNat (toNat a) = a)
    (hlt : ∀ a, toNat a < 256 ^ count) {bytes : List UInt8} (hlength : bytes.length = count) {a : α} :
    ofNat (ofBytes bytes) = a ↔ bytes = toBytes count (toNat a) := by
  have hback : toBytes count (ofBytes bytes) = bytes := by
    rw [← hlength, toBytes_ofBytes]
  constructor
  · rintro rfl
    have hfits : ofBytes bytes < 256 ^ count := by
      have hread := ofBytes_toBytes count (ofBytes bytes)
      rw [hback] at hread
      rw [hread]
      exact Nat.mod_lt _ (Nat.pow_pos (by decide))
    rw [hleft _ hfits, hback]
  · intro h
    rw [h, ofBytes_toBytes, Nat.pow_eq, Nat.mod_eq_of_lt (hlt a), hright]

end Numeral

/-! ### Trace identifiers -/

namespace TraceId

theorem toNat_lt (id : TraceId) : id.toNat < 16 ^ 32 := id.bits.isLt

theorem toNat_ofNat {n : Nat} (h : n < 16 ^ 32) : (ofNat n).toNat = n := by
  rw [toNat, ofNat, BitVec.toNat_ofNat]
  exact Nat.mod_eq_of_lt h

theorem ofNat_toNat (id : TraceId) : ofNat id.toNat = id := by
  rw [toNat, ofNat, BitVec.ofNat_toNat, BitVec.setWidth_eq]

/-- **A trace identifier is read from exactly the text that it is written as.** -/
theorem ofHex?_eq_some_iff {s : String} {id : TraceId} : ofHex? s = some id ↔ s = id.hex := by
  rw [ofHex?, hex, ← String.toList_inj, String.toList_ofList]
  exact Numeral.readDigits_eq_some_iff (fun _ => toNat_ofNat) ofNat_toNat toNat_lt

theorem exists_hex_eq_iff {cs : List Char} :
    (∃ id : TraceId, id.hex.toList = cs) ↔ Numeral.IsHex 32 cs := by
  simp only [hex, String.toList_ofList]
  exact Numeral.exists_hexPadded_eq_iff (fun _ => toNat_ofNat) toNat_lt

theorem isHex_hex (id : TraceId) : Numeral.IsHex 32 id.hex.toList := exists_hex_eq_iff.1 ⟨id, rfl⟩

theorem ofHex?_hex (id : TraceId) : ofHex? id.hex = some id := ofHex?_eq_some_iff.2 rfl

theorem eq_none_iff {id : TraceId} : id = none ↔ id.toNat = 0 :=
  ⟨fun h => by rw [h]; rfl, fun h => by rw [← ofNat_toNat id, h]; rfl⟩

/-- A trace identifier names something exactly if one of its digits is not a zero. -/
theorem isValid_iff_hex {id : TraceId} :
    id.isValid = true ↔ ∃ c ∈ id.hex.toList, c ≠ '0' := by
  rw [isValid, bne_iff_ne, ne_eq, eq_none_iff, ← Numeral.forall_mem_hexPadded_iff id.toNat_lt, hex,
    String.toList_ofList]
  push Not
  rfl

/-- **A trace identifier is read from exactly the bytes that it is written in.** -/
theorem ofBytes_eq_iff {bytes : List UInt8} (hlength : bytes.length = 16) {id : TraceId} :
    ofBytes bytes = id ↔ bytes = id.toBytes :=
  Numeral.ofNat_ofBytes_eq_iff (fun _ hn => toNat_ofNat hn) ofNat_toNat (fun id => id.bits.isLt)
    hlength

/-- A trace identifier names something exactly if one of its bytes is not zero. -/
theorem isValid_iff_bytes {id : TraceId} : id.isValid = true ↔ ∃ b ∈ id.toBytes, b ≠ 0 := by
  have hlt : id.toNat < 256 ^ 16 := id.bits.isLt
  rw [isValid, bne_iff_ne, ne_eq, eq_none_iff, ← Numeral.forall_mem_toBytes_iff hlt, toBytes]
  push Not
  rfl

end TraceId

/-! ### Span identifiers -/

namespace SpanId

theorem toNat_lt (id : SpanId) : id.toNat < 16 ^ 16 := id.bits.isLt

theorem toNat_ofNat {n : Nat} (h : n < 16 ^ 16) : (ofNat n).toNat = n := by
  rw [toNat, ofNat, BitVec.toNat_ofNat]
  exact Nat.mod_eq_of_lt h

theorem ofNat_toNat (id : SpanId) : ofNat id.toNat = id := by
  rw [toNat, ofNat, BitVec.ofNat_toNat, BitVec.setWidth_eq]

/-- **A span identifier is read from exactly the text that it is written as.** -/
theorem ofHex?_eq_some_iff {s : String} {id : SpanId} : ofHex? s = some id ↔ s = id.hex := by
  rw [ofHex?, hex, ← String.toList_inj, String.toList_ofList]
  exact Numeral.readDigits_eq_some_iff (fun _ => toNat_ofNat) ofNat_toNat toNat_lt

theorem exists_hex_eq_iff {cs : List Char} :
    (∃ id : SpanId, id.hex.toList = cs) ↔ Numeral.IsHex 16 cs := by
  simp only [hex, String.toList_ofList]
  exact Numeral.exists_hexPadded_eq_iff (fun _ => toNat_ofNat) toNat_lt

theorem isHex_hex (id : SpanId) : Numeral.IsHex 16 id.hex.toList := exists_hex_eq_iff.1 ⟨id, rfl⟩

theorem ofHex?_hex (id : SpanId) : ofHex? id.hex = some id := ofHex?_eq_some_iff.2 rfl

theorem eq_none_iff {id : SpanId} : id = none ↔ id.toNat = 0 :=
  ⟨fun h => by rw [h]; rfl, fun h => by rw [← ofNat_toNat id, h]; rfl⟩

/-- A span identifier names something exactly if one of its digits is not a zero. -/
theorem isValid_iff_hex {id : SpanId} :
    id.isValid = true ↔ ∃ c ∈ id.hex.toList, c ≠ '0' := by
  rw [isValid, bne_iff_ne, ne_eq, eq_none_iff, ← Numeral.forall_mem_hexPadded_iff id.toNat_lt, hex,
    String.toList_ofList]
  push Not
  rfl

/-- **A span identifier is read from exactly the bytes that it is written in.** -/
theorem ofBytes_eq_iff {bytes : List UInt8} (hlength : bytes.length = 8) {id : SpanId} :
    ofBytes bytes = id ↔ bytes = id.toBytes :=
  Numeral.ofNat_ofBytes_eq_iff (fun _ hn => toNat_ofNat hn) ofNat_toNat (fun id => id.bits.isLt)
    hlength

/-- A span identifier names something exactly if one of its bytes is not zero. -/
theorem isValid_iff_bytes {id : SpanId} : id.isValid = true ↔ ∃ b ∈ id.toBytes, b ≠ 0 := by
  have hlt : id.toNat < 256 ^ 8 := id.bits.isLt
  rw [isValid, bne_iff_ne, ne_eq, eq_none_iff, ← Numeral.forall_mem_toBytes_iff hlt, toBytes]
  push Not
  rfl

end SpanId

/-! ### Options -/

namespace TraceOptions

/-- **Options are spelled by two digits.** -/
theorem exists_hex_eq_iff {cs : List Char} :
    (∃ options : TraceOptions, options.hex.toList = cs) ↔ Numeral.IsHex 2 cs := by
  rw [Numeral.isHex_iff_exists]
  constructor
  · rintro ⟨options, rfl⟩
    exact ⟨options.byte.toNat, options.byte.toNat_lt, String.toList_ofList⟩
  · rintro ⟨n, hn, rfl⟩
    have hbyte : (UInt8.ofNat n).toNat = n := UInt8.toNat_ofNat'.trans (Nat.mod_eq_of_lt hn)
    refine ⟨⟨UInt8.ofNat n⟩, ?_⟩
    rw [hex, String.toList_ofList, hbyte]

theorem isHex_hex (options : TraceOptions) : Numeral.IsHex 2 options.hex.toList :=
  exists_hex_eq_iff.1 ⟨options, rfl⟩

end TraceOptions

/-! ### What digits are not -/

/-- A digit is no hyphen, no plus sign and not blank. -/
theorem digitChar_ne {d : Nat} (h : d < 16) :
    Nat.digitChar d ≠ '-' ∧ Nat.digitChar d ≠ '+' ∧ Text.isBlank (Nat.digitChar d) = false := by
  have hall : ∀ d : Fin 16, Nat.digitChar d ≠ '-' ∧ Nat.digitChar d ≠ '+' ∧
      Text.isBlank (Nat.digitChar d) = false := by decide
  exact hall ⟨d, h⟩

theorem hyphen_not_mem_hexPadded (width n : Nat) : '-' ∉ Numeral.hexPadded width n := fun h => by
  obtain ⟨d, hd, hc⟩ := Numeral.exists_digitChar_of_mem_hexPadded h
  exact (digitChar_ne hd).1 hc.symm

theorem not_blank_of_mem_hexPadded {width n : Nat} {c : Char} (h : c ∈ Numeral.hexPadded width n) :
    Text.isBlank c = false := by
  obtain ⟨d, hd, rfl⟩ := Numeral.exists_digitChar_of_mem_hexPadded h
  exact (digitChar_ne hd).2.2

end Telemetry
