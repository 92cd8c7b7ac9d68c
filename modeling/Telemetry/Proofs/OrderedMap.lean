import Mathlib.Algebra.BigOperators.Group.List.Basic
import Mathlib.Algebra.Ring.Nat
import Mathlib.Data.List.Nodup
import Telemetry.OrderedMap

/-!
# Bindings of a finite map

A key is bound to the value that `get?` finds, so that what holds of the bindings can be said of lookups
and the other way round. Since the bindings are in key order, a list of values from which the keys can be
told is in the order of the keys too.
-/

namespace Telemetry

namespace OrderedMap

variable {κ : Type*} {α : Type*} [DecidableEq κ]

/-- Among bindings of distinct keys, a key is found in the one binding that has it. -/
theorem find?_eq_some_iff_of_nodup {l : List (κ × α)} (hl : (l.map Prod.fst).Nodup) {k : κ}
    {e : κ × α} : (l.find? fun e => e.1 = k) = some e ↔ e ∈ l ∧ e.1 = k := by
  refine ⟨fun h => ⟨List.mem_of_find?_eq_some h, by simpa using List.find?_some h⟩, ?_⟩
  rintro ⟨he, rfl⟩
  have hsome : (l.find? fun x => x.1 = e.1).isSome = true :=
    List.find?_isSome.2 ⟨e, he, by simp⟩
  obtain ⟨x, hx⟩ := Option.isSome_iff_exists.1 hsome
  have hkey : x.1 = e.1 := by simpa using List.find?_some hx
  rw [hx, List.inj_on_of_nodup_map hl (List.mem_of_find?_eq_some hx) he hkey]

variable [Ord κ] [Std.LawfulEqOrd κ]

omit [DecidableEq κ] [Std.LawfulEqOrd κ] in
/-- A binding adds at most its own size, whether or not it takes the place of another one. -/
theorem sum_map_put_le (size : κ × α → Nat) (k : κ) (a : α) (l : List (κ × α)) :
    ((put k a l).map size).sum ≤ (l.map size).sum + size (k, a) := by
  induction l with
  | nil => simp [put]
  | cons e rest ih =>
    obtain ⟨k', a'⟩ := e
    rw [put]
    split
    · simp only [List.map_cons, List.sum_cons]
      omega
    · simp only [List.map_cons, List.sum_cons]
      omega
    · simp only [List.map_cons, List.sum_cons]
      omega

omit [DecidableEq κ] in
theorem nodup_keys (m : OrderedMap κ α) : (m.entries.map Prod.fst).Nodup := by
  refine List.pairwise_map.2 (m.sorted.imp fun {a b} hlt heq => ?_)
  rw [heq, Std.ReflOrd.compare_self] at hlt
  cases hlt

/-- A key is looked up in the bindings in any order. -/
theorem find?_of_perm {m : OrderedMap κ α} {l : List (κ × α)} (h : l.Perm m.entries) (k : κ) :
    (l.find? fun e => e.1 = k).map Prod.snd = m.get? k := by
  have hl : (l.map Prod.fst).Nodup := (h.map Prod.fst).nodup_iff.2 m.nodup_keys
  have hfind : (l.find? fun e => e.1 = k) = m.entries.find? fun e => e.1 = k := by
    ext e
    rw [find?_eq_some_iff_of_nodup hl, find?_eq_some_iff_of_nodup m.nodup_keys, h.mem_iff]
  rw [hfind, get?]
  congr 2
  funext e
  rw [Bool.eq_iff_iff, decide_eq_true_iff, beq_iff_eq, Std.LawfulEqCmp.compare_eq_iff_eq]

/-- **A key is bound to what is found under it.** -/
theorem get?_eq_some_iff {m : OrderedMap κ α} {k : κ} {a : α} :
    m.get? k = some a ↔ (k, a) ∈ m.entries := by
  rw [← find?_of_perm (.refl m.entries) k, Option.map_eq_some_iff]
  constructor
  · rintro ⟨⟨k', a'⟩, hfind, rfl⟩
    obtain ⟨hmem, rfl⟩ := (find?_eq_some_iff_of_nodup m.nodup_keys).1 hfind
    exact hmem
  · intro hmem
    exact ⟨(k, a), (find?_eq_some_iff_of_nodup m.nodup_keys).2 ⟨hmem, rfl⟩, rfl⟩

theorem mem_values_iff {m : OrderedMap κ α} {a : α} : a ∈ m.values ↔ ∃ k, m.get? k = some a := by
  simp only [values, List.mem_map, get?_eq_some_iff, Prod.exists, exists_eq_right]

/-- What a function makes of the values is what it makes of lookups. -/
theorem mem_map_values_iff {β : Type*} {m : OrderedMap κ α} {f : α → β} {b : β} :
    b ∈ m.values.map f ↔ ∃ k, (m.get? k).map f = some b := by
  simp only [List.mem_map, mem_values_iff, Option.map_eq_some_iff]
  constructor
  · rintro ⟨a, ⟨k, ha⟩, rfl⟩
    exact ⟨k, a, ha, rfl⟩
  · rintro ⟨k, a, ha, rfl⟩
    exact ⟨a, ⟨k, ha⟩, rfl⟩

/-- The values come in the order of their keys. -/
theorem pairwise_values {m : OrderedMap κ α} (key : α → κ)
    (h : ∀ {k a}, m.get? k = some a → key a = k) :
    m.values.Pairwise fun a b => compare (key a) (key b) = .lt := by
  refine List.pairwise_map.2 (m.sorted.imp_of_mem fun {e e'} he he' hlt => ?_)
  rwa [h (get?_eq_some_iff.2 he), h (get?_eq_some_iff.2 he')]

end OrderedMap

end Telemetry
