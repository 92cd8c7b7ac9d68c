/-!
# Numbers as bytes

The big-endian bytes of a number: `toBytes` writes a given number of them, `ofBytes` reads any number of
them. `ofBytes_toBytes` and `toBytes_ofBytes` say that the two undo each other.
-/

namespace Telemetry.Numeral

/-- The last `count` bytes of `n`, the highest first. -/
def toBytes : Nat → Nat → List UInt8
  | 0, _ => []
  | count + 1, n => toBytes count (n / 256) ++ [UInt8.ofNat n]

/-- The number with the given bytes, the highest first. -/
def ofBytes (bytes : List UInt8) : Nat := bytes.foldl (fun n b => 256 * n + b.toNat) 0

@[simp] theorem length_toBytes (count n : Nat) : (toBytes count n).length = count := by
  induction count generalizing n with
  | zero => rfl
  | succ count ih => simp [toBytes, ih]

theorem ofBytes_concat (bytes : List UInt8) (b : UInt8) :
    ofBytes (bytes ++ [b]) = 256 * ofBytes bytes + b.toNat := by
  simp [ofBytes]

/-- **Written bytes read back**, as far as they reach. -/
theorem ofBytes_toBytes (count n : Nat) : ofBytes (toBytes count n) = n % Nat.pow 256 count := by
  induction count generalizing n with
  | zero => simp [toBytes, ofBytes, Nat.mod_one]
  | succ count ih =>
    have hpow : Nat.pow 256 (count + 1) = 256 * Nat.pow 256 count := Nat.pow_succ'
    rw [toBytes, ofBytes_concat, ih, UInt8.toNat_ofNat', hpow, Nat.mod_mul]
    omega

/-- **Bytes that were read are written again.** -/
theorem toBytes_ofBytes (bytes : List UInt8) : toBytes bytes.length (ofBytes bytes) = bytes := by
  suffices ∀ n (bytes : List UInt8), bytes.length = n → toBytes n (ofBytes bytes) = bytes from
    this _ bytes rfl
  intro n
  induction n with
  | zero =>
    intro bytes h
    simp [List.length_eq_zero_iff.1 h, toBytes]
  | succ n ih =>
    intro bytes h
    rcases List.eq_nil_or_concat bytes with rfl | ⟨front, b, rfl⟩
    · simp at h
    · have hfront : front.length = n := by simpa using h
      have hb : b.toNat < 256 := b.toNat_lt
      have hquot : (256 * ofBytes front + b.toNat) / 256 = ofBytes front := by omega
      rw [List.concat_eq_append, ofBytes_concat, toBytes, hquot, ih front hfront]
      congr 2
      apply UInt8.toNat_inj.1
      rw [UInt8.toNat_ofNat']
      omega

end Telemetry.Numeral
