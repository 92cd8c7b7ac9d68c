import Mathlib.Tactic
import Telemetry.Context.AttachStack

/-!
# The values held by an attach stack

An attach stack is an array with holes and a current value beside it.  `AttachStack.held` shows it as
the list of the values that have not been released, each with its position, the newest first; the
current value is the first of them, by definition.  Through this view every operation is simple:

* attaching puts the new value in front (`held_attach`);
* detaching a position takes away the value with this position (`held_detach?`), whether it is the
  current one, so that holes below it are passed over, or an older one, which leaves a hole.

Positions strictly decrease along the list (`held_pairwise`), so no two values share one, and none of
them is above the size of the array (`le_size_of_mem_held`).  A stack is `Grounded` on the value at
position 0, which stays there.
-/

namespace Telemetry
namespace AttachStack

variable {α : Type u}

/-- The values in a list of entries, the newest first, with their positions: the position of an entry is
the number of entries below it. -/
def heldIn : List (Option α) → List (Nat × α)
  | [] => []
  | none :: rest => heldIn rest
  | some a :: rest => (rest.length, a) :: heldIn rest

theorem lt_length_of_mem_heldIn {entries : List (Option α)} {h : Nat × α}
    (hh : h ∈ heldIn entries) : h.1 < entries.length := by
  induction entries with
  | nil => cases hh
  | cons entry rest ih =>
    cases entry with
    | none => exact Nat.lt_succ_of_lt (ih hh)
    | some a =>
      rcases List.mem_cons.1 hh with rfl | hh
      · exact Nat.lt_succ_self _
      · exact Nat.lt_succ_of_lt (ih hh)

theorem heldIn_pairwise (entries : List (Option α)) :
    (heldIn entries).Pairwise fun x y => y.1 < x.1 := by
  induction entries with
  | nil => exact .nil
  | cons entry rest ih =>
    cases entry with
    | none => exact ih
    | some a => exact .cons (fun h hh => lt_length_of_mem_heldIn hh) ih

theorem heldIn_dropWhile (entries : List (Option α)) :
    heldIn (entries.dropWhile Option.isNone) = heldIn entries := by
  induction entries with
  | nil => rfl
  | cons entry rest ih =>
    cases entry with
    | none => exact ih
    | some a => rfl

/-- Positions from the length on are not held. -/
theorem heldIn_filter_of_le {entries : List (Option α)} {p : Nat} (hp : entries.length ≤ p) :
    (heldIn entries).filter (·.1 ≠ p) = heldIn entries := by
  refine List.filter_eq_self.2 fun h hh => ?_
  have := lt_length_of_mem_heldIn hh
  exact decide_eq_true (by omega)

/-- Releasing the entry at a position takes away what is held there. -/
theorem heldIn_reverse_set (entries : List (Option α)) (p : Nat) :
    heldIn (entries.set p none).reverse = (heldIn entries.reverse).filter (·.1 ≠ p) := by
  induction entries using List.reverseRecOn with
  | nil => rfl
  | append_singleton entries entry ih =>
    -- The last entry is at the position, or below it, or above it.
    rcases Nat.lt_trichotomy p entries.length with hlt | rfl | hgt
    · rw [List.set_append_left _ _ hlt, List.reverse_append, List.reverse_append]
      have hne : entries.length ≠ p := by omega
      cases entry with
      | none => exact ih
      | some a =>
        simp only [List.reverse_singleton, List.singleton_append, heldIn, List.length_reverse,
          List.length_set, ih]
        rw [List.filter_cons_of_pos (by simpa using hne)]
    · rw [List.set_append_right _ _ (Nat.le_refl _), Nat.sub_self, List.set_cons_zero,
        List.reverse_append, List.reverse_append]
      have hrest : (heldIn entries.reverse).filter (·.1 ≠ entries.length) =
          heldIn entries.reverse := heldIn_filter_of_le (by simp)
      cases entry with
      | none => exact hrest.symm
      | some a =>
        simp only [List.reverse_singleton, List.singleton_append, heldIn, List.length_reverse]
        rw [List.filter_cons_of_neg (by simp), hrest]
    · rw [List.set_eq_of_length_le (by simp; omega), heldIn_filter_of_le (by simp; omega)]

/-- The values that have not been released, with their positions, the newest first. -/
def held (s : AttachStack α) : List (Nat × α) := heldIn (some s.current :: s.below.toList.reverse)

theorem held_eq_cons (s : AttachStack α) :
    s.held = (s.below.size, s.current) :: heldIn s.below.toList.reverse := by
  simp [held, heldIn]

/-- The value at position 0 is `a`. -/
def Grounded (s : AttachStack α) (a : α) : Prop := (0, a) ∈ s.held

/-- **Positions strictly decrease** from the newest value to the oldest. -/
theorem held_pairwise (s : AttachStack α) : s.held.Pairwise fun x y => y.1 < x.1 :=
  heldIn_pairwise _

/-- **Positions are within the stack.** -/
theorem le_size_of_mem_held {s : AttachStack α} {h : Nat × α} (hh : h ∈ s.held) :
    h.1 ≤ s.below.size := by
  have := lt_length_of_mem_heldIn hh
  simp at this
  omega

/-- The current value is the newest one that is held. -/
theorem head?_held (s : AttachStack α) : s.held.head? = some (s.below.size, s.current) := by
  rw [held_eq_cons, List.head?_cons]

/-! ### Attaching -/

/-- **Attaching puts the value in front**, if there is a position left. -/
theorem held_attach {s : AttachStack α} {p : Nat} (a : α) (h : (s.attach a).1 = some p) :
    (s.attach a).2.held = (p, a) :: s.held := by
  unfold attach at h ⊢
  split at h
  next hlt =>
    cases h
    simp [hlt, held, heldIn]
  next => cases h

/-- There is a position left exactly below the limit. -/
theorem isSome_attach (s : AttachStack α) (a : α) :
    (s.attach a).1.isSome = decide (s.below.size + 1 < maxAttachPosition) := by
  unfold attach
  split
  next h => simp [h]
  next h => simp [h]

/-- A position is new. -/
theorem lt_of_attach {s : AttachStack α} {a : α} {p : Nat} (h : (s.attach a).1 = some p)
    {x : Nat × α} (hx : x ∈ s.held) : x.1 < p := by
  have := le_size_of_mem_held hx
  unfold attach at h
  split at h
  · cases h
    omega
  · cases h

/-! ### Detaching -/

/-- Restoring takes the current value away, if there is a value below. -/
theorem held_restore {s : AttachStack α} (h : heldIn s.below.toList.reverse ≠ []) :
    s.restore.held = heldIn s.below.toList.reverse := by
  have hkept : s.below.popWhile Option.isNone =
      (s.below.toList.reverse.dropWhile Option.isNone).reverse.toArray := by
    rw [← List.popWhile_toArray, Array.toArray_toList]
  unfold restore
  rw [← heldIn_dropWhile] at h ⊢
  rw [hkept]
  cases hd : s.below.toList.reverse.dropWhile Option.isNone with
  | nil =>
    rw [hd] at h
    exact absurd rfl h
  | cons entry rest =>
    cases entry with
    | none =>
      -- `dropWhile` does not stop at a hole.
      have := List.head?_dropWhile_not Option.isNone s.below.toList.reverse
      simp [hd] at this
    | some a => simp [held]

/-- **Detaching takes away the value at the position**, and never fails for a value that is held.  The
value at position 0 cannot be detached. -/
theorem held_detach? {s : AttachStack α} {p : Nat} {a b : α} (hground : s.Grounded b)
    (hp : (p, a) ∈ s.held) (h0 : p ≠ 0) :
    ∃ s', s.detach? p = some s' ∧ s'.held = s.held.filter (·.1 ≠ p) := by
  have hle := le_size_of_mem_held hp
  unfold detach?
  rw [if_neg h0]
  by_cases hsize : p = s.below.size
  · rw [if_pos hsize]
    refine ⟨_, rfl, ?_⟩
    -- The value at position 0 is below the current one, so there is something to restore.
    have hne : heldIn s.below.toList.reverse ≠ [] := by
      have hmem : (0, b) ∈ s.held := hground
      rw [held_eq_cons] at hmem
      rcases List.mem_cons.1 hmem with heq | hmem
      · obtain ⟨hzero, -⟩ := Prod.mk.inj heq
        omega
      · exact List.ne_nil_of_mem hmem
    rw [held_restore hne, held_eq_cons, List.filter_cons_of_neg (by simp [hsize]),
      heldIn_filter_of_le (by simp [hsize])]
  · rw [if_neg hsize, if_pos (by omega)]
    refine ⟨_, rfl, ?_⟩
    simp only [held_eq_cons, Array.toList_setIfInBounds, Array.size_setIfInBounds]
    rw [List.filter_cons_of_pos (by simpa using Ne.symm hsize), heldIn_reverse_set]

end AttachStack

end Telemetry
