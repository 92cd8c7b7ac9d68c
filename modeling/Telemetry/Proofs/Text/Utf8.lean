import Mathlib.Algebra.Ring.Nat
import Mathlib.Tactic.SplitIfs
import Telemetry.Text.Utf8

/-!
# Reading back UTF-8

A text of characters below `80` is read from exactly the bytes that spell it. Longer sequences cannot
stand for such a character: the second byte is bounded from below so that the code point of a character
of several bytes is at least `80` (`Partial.Wide`), and reading keeps this bound.
-/

namespace Telemetry.Text.Utf8

/-- The character takes one byte and is not the one that stands for a number without a character. -/
def Narrow (c : Char) : Prop := 0 < c.toNat ∧ c.toNat < 0x80

/-- Whatever bytes follow, the code point will not be below `80`. -/
def Partial.Wide (p : Partial) : Prop :=
  0x80 ≤ p.low ∧ 0x80 ≤ (64 * p.code + (p.low - 0x80)) * 64 ^ p.remaining

/-- **A text takes as many bytes as its size says.** -/
theorem length_encode (s : String) : (encode s).length = s.utf8ByteSize := by
  induction s using String.push_induction with
  | empty => rfl
  | push s c ih =>
    rw [encode, String.toList_push, List.flatMap_append, List.length_append, ← encode, ih,
      List.flatMap_singleton, String.length_utf8EncodeChar, String.utf8ByteSize_push]

theorem Narrow.utf8EncodeChar {c : Char} (h : Narrow c) :
    String.utf8EncodeChar c = [UInt8.ofNat c.toNat] := by
  have hle : c.val.toNat ≤ 127 := Nat.le_of_lt_succ h.2
  rw [String.utf8EncodeChar, if_pos hle]
  rfl

theorem Narrow.toNat_ofNat {n : Nat} (h : Narrow (Char.ofNat n)) : (Char.ofNat n).toNat = n := by
  by_cases hvalid : n.isValidChar
  · rw [Char.ofNat, dif_pos hvalid]
    rfl
  · rw [Char.ofNat, dif_neg hvalid] at h
    exact absurd h.1 (by decide)

theorem Partial.wide_of_ofLead? {start b : Nat} {p : Partial} (h : ofLead? start b = some p) :
    p.Wide := by
  unfold ofLead? at h
  split_ifs at h
  all_goals
    cases h
    constructor
    all_goals
      dsimp only
      omega

/-- One more byte keeps the bound. -/
theorem Partial.Wide.step {p : Partial} (h : p.Wide) {b : Nat} (hb : p.low ≤ b) :
    0x80 ≤ (64 * p.code + (b - 0x80)) * 64 ^ p.remaining :=
  Nat.le_trans h.2 (Nat.mul_le_mul_right _ (by omega))

/-- Narrow characters are read from their bytes. -/
theorem decodeFrom_flatMap {cs : List Char} (hcs : ∀ c ∈ cs, Narrow c) (index : Nat) :
    decodeFrom index none (cs.flatMap String.utf8EncodeChar) = .ok cs := by
  induction cs generalizing index with
  | nil => rfl
  | cons c cs ih =>
    obtain ⟨hc, hcs⟩ := List.forall_mem_cons.1 hcs
    have hbyte : (UInt8.ofNat c.toNat).toNat = c.toNat :=
      UInt8.toNat_ofNat_of_lt' (Nat.lt_trans hc.2 (by decide))
    rw [List.flatMap_cons, hc.utf8EncodeChar, List.singleton_append, decodeFrom, hbyte,
      if_pos hc.2, ih hcs, Char.ofNat_toNat]
    rfl

theorem exists_tail {read : Except DecodeError (List Char)} {c : Char} {cs : List Char}
    (h : (do return c :: (← read)) = Except.ok cs) : ∃ tail, read = .ok tail ∧ cs = c :: tail := by
  cases read with
  | error e => cases h
  | ok tail =>
    cases h
    exact ⟨tail, rfl, rfl⟩

/-- Narrow characters are read from nothing else, and never inside a longer character. -/
theorem eq_flatMap_of_decodeFrom {index : Nat} {pending : Option Partial} {bytes : List UInt8}
    {cs : List Char} (h : decodeFrom index pending bytes = .ok cs)
    (hpending : ∀ p ∈ pending, p.Wide) (hcs : ∀ c ∈ cs, Narrow c) :
    pending = none ∧ bytes = cs.flatMap String.utf8EncodeChar := by
  fun_induction decodeFrom index pending bytes generalizing cs with
  | case1 =>
    cases h
    exact ⟨rfl, rfl⟩
  | case2 => cases h
  | case3 index b rest hb ih =>
    obtain ⟨tail, hread, rfl⟩ := exists_tail h
    obtain ⟨hc, hcs⟩ := List.forall_mem_cons.1 hcs
    obtain ⟨-, rfl⟩ := ih hread (by simp) hcs
    rw [List.flatMap_cons, hc.utf8EncodeChar, hc.toNat_ofNat, UInt8.ofNat_toNat]
    exact ⟨rfl, rfl⟩
  | case4 index b rest hb p hlead ih =>
    obtain ⟨hnone, -⟩ := ih h (by simpa using Partial.wide_of_ofLead? hlead) hcs
    cases hnone
  | case5 => cases h
  | case6 index p b rest hb code hremaining =>
    -- The character is read in full, and it would not be narrow.
    obtain ⟨tail, -, rfl⟩ := exists_tail h
    have hc : Narrow (Char.ofNat code) := (List.forall_mem_cons.1 hcs).1
    have hlt : code < 0x80 := hc.toNat_ofNat ▸ hc.2
    have hwide := (hpending p rfl).step hb.1
    rw [hremaining, Nat.pow_zero, Nat.mul_one] at hwide
    exact absurd hlt (Nat.not_lt.2 hwide)
  | case7 index p b rest hb code remaining hremaining =>
    rename_i ih
    have hwide := (hpending p rfl).step hb.1
    rw [hremaining, Nat.pow_succ', ← Nat.mul_assoc, Nat.mul_comm _ 64] at hwide
    obtain ⟨hnone, -⟩ := ih h (by simpa [Partial.Wide] using hwide) hcs
    cases hnone
  | case8 => cases h

/-- **A narrow text is read from its own bytes and from no others.** -/
theorem decode_eq_ok_iff {bytes : List UInt8} {s : String} (hs : ∀ c ∈ s.toList, Narrow c) :
    decode bytes = .ok s ↔ bytes = encode s := by
  unfold decode encode
  constructor
  · intro h
    cases hread : decodeFrom 0 none bytes with
    | error e =>
      rw [hread] at h
      cases h
    | ok cs =>
      rw [hread] at h
      cases h
      rw [String.toList_ofList] at hs ⊢
      exact (eq_flatMap_of_decodeFrom hread (by simp) hs).2
  · rintro rfl
    rw [decodeFrom_flatMap hs]
    exact congrArg Except.ok String.ofList_toList

end Telemetry.Text.Utf8
