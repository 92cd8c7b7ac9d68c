/-!
# Finite maps in key order

`OrderedMap κ α` is the list of its bindings, strictly increasing in key. Two maps with the same
bindings are therefore the same value, whatever was done to build them, and going through the
bindings always meets the keys in order.

Every operation is pinned down through `get?`, by `get?_insert` and `get?_erase`, and `ext` says
that nothing else can be observed.
-/

namespace Telemetry

universe u v

/-- A finite map: its bindings in strictly increasing order of keys. -/
structure OrderedMap (κ : Type u) (α : Type v) [Ord κ] where
  /-- The bindings. -/
  entries : List (κ × α)
  /-- Keys strictly increase. -/
  sorted : entries.Pairwise (fun a b => compare a.1 b.1 = .lt)

namespace OrderedMap

variable {κ : Type u} {α : Type v}

/-- Sets `k` to `a` in a sorted list of bindings. -/
def put [Ord κ] (k : κ) (a : α) : List (κ × α) → List (κ × α)
  | [] => [(k, a)]
  | (k', a') :: rest =>
    match compare k k' with
    | .lt => (k, a) :: (k', a') :: rest
    | .eq => (k, a) :: rest
    | .gt => (k', a') :: put k a rest

/-- The keys of `put k a l` are `k` and the keys of `l`. -/
theorem fst_of_mem_put [Ord κ] {k : κ} {a : α} {l : List (κ × α)} {e : κ × α}
    (h : e ∈ put k a l) : e.1 = k ∨ e ∈ l := by
  induction l with
  | nil => simp [put] at h; simp [h]
  | cons head rest ih =>
    obtain ⟨k', a'⟩ := head
    simp only [put] at h
    split at h
    · rcases List.mem_cons.1 h with h | h
      · simp [h]
      · exact .inr h
    · rcases List.mem_cons.1 h with h | h
      · simp [h]
      · exact .inr (List.mem_cons_of_mem _ h)
    · rcases List.mem_cons.1 h with h | h
      · simp [h]
      · rcases ih h with h | h
        · exact .inl h
        · exact .inr (List.mem_cons_of_mem _ h)

theorem sorted_put [Ord κ] [Std.TransOrd κ] {l : List (κ × α)} (k : κ) (a : α)
    (h : l.Pairwise (fun a b => compare a.1 b.1 = .lt)) :
    (put k a l).Pairwise (fun a b => compare a.1 b.1 = .lt) := by
  induction l with
  | nil => simp [put]
  | cons head rest ih =>
    obtain ⟨k', a'⟩ := head
    obtain ⟨hhead, hrest⟩ := List.pairwise_cons.1 h
    simp only [put]
    split
    next hlt =>
      refine List.pairwise_cons.2 ⟨fun e he => ?_, h⟩
      rcases List.mem_cons.1 he with rfl | he
      · exact hlt
      · exact Std.TransCmp.lt_trans hlt (hhead e he)
    next heq =>
      exact List.pairwise_cons.2
        ⟨fun e he => Std.TransCmp.lt_of_eq_of_lt heq (hhead e he), hrest⟩
    next hgt =>
      refine List.pairwise_cons.2 ⟨fun e he => ?_, ih hrest⟩
      rcases fst_of_mem_put he with he | he
      · simpa [he] using Std.OrientedCmp.lt_of_gt hgt
      · exact hhead e he

/-- The map without bindings. -/
def empty [Ord κ] : OrderedMap κ α := ⟨[], .nil⟩

instance [Ord κ] : EmptyCollection (OrderedMap κ α) := ⟨empty⟩

instance [Ord κ] : Inhabited (OrderedMap κ α) := ⟨empty⟩

variable [Ord κ]

instance [DecidableEq κ] [DecidableEq α] : DecidableEq (OrderedMap κ α) := fun m n =>
  if h : m.entries = n.entries then
    .isTrue (by cases m; cases n; simpa using h)
  else
    .isFalse (fun heq => h (by rw [heq]))

/-- The value bound to `k`. -/
def get? (m : OrderedMap κ α) (k : κ) : Option α :=
  (m.entries.find? fun e => compare e.1 k == .eq).map (·.2)

/-- Whether `k` is bound. -/
def contains (m : OrderedMap κ α) (k : κ) : Bool := (m.get? k).isSome

/-- The number of bindings. -/
def size (m : OrderedMap κ α) : Nat := m.entries.length

/-- Whether there is no binding. -/
def isEmpty (m : OrderedMap κ α) : Bool := m.entries.isEmpty

/-- The keys, in order. -/
def keys (m : OrderedMap κ α) : List κ := m.entries.map (·.1)

/-- The values, in the order of their keys. -/
def values (m : OrderedMap κ α) : List α := m.entries.map (·.2)

/-- Binds `k` to `a`, in place of any earlier value. -/
def insert [Std.TransOrd κ] (m : OrderedMap κ α) (k : κ) (a : α) : OrderedMap κ α :=
  ⟨put k a m.entries, sorted_put k a m.sorted⟩

/-- Removes the binding of `k`, if there is one. -/
def erase (m : OrderedMap κ α) (k : κ) : OrderedMap κ α :=
  ⟨m.entries.filter fun e => compare e.1 k != .eq, m.sorted.filter _⟩

/-- Binds the pairs one after the other: of two pairs with one key the later one stays. -/
def ofList [Std.TransOrd κ] (l : List (κ × α)) : OrderedMap κ α :=
  l.foldl (fun m e => m.insert e.1 e.2) empty

/-! ### Lookups -/

@[simp] theorem get?_empty (k : κ) : (empty : OrderedMap κ α).get? k = none := rfl

section Lawful

variable [Std.TransOrd κ] [Std.LawfulEqOrd κ]

omit [Std.TransOrd κ] in
/-- A key that was put into a list is found there. -/
theorem find?_put_self (k : κ) (a : α) (l : List (κ × α)) :
    (put k a l).find? (fun e => compare e.1 k == .eq) = some (k, a) := by
  induction l with
  | nil => simp [put]
  | cons head rest ih =>
    obtain ⟨k', a'⟩ := head
    simp only [put]
    split
    · simp
    · simp
    next hgt =>
      have hne : ¬ compare k' k = .eq := by
        intro h
        rw [Std.LawfulEqCmp.eq_of_compare h] at hgt
        simp at hgt
      rw [List.find?_cons_of_neg (by simpa using hne)]
      exact ih

omit [Std.TransOrd κ] in
theorem find?_put_of_ne {k k' : κ} (h : k ≠ k') (a : α) (l : List (κ × α)) :
    (put k a l).find? (fun e => compare e.1 k' == .eq) =
      l.find? (fun e => compare e.1 k' == .eq) := by
  have hk : ¬ compare k k' = .eq := fun he => h (Std.LawfulEqCmp.eq_of_compare he)
  induction l with
  | nil => simp [put, hk]
  | cons head rest ih =>
    obtain ⟨k₁, a₁⟩ := head
    simp only [put]
    split
    · rw [List.find?_cons_of_neg (by simpa using hk)]
    next heq =>
      obtain rfl := Std.LawfulEqCmp.eq_of_compare heq
      rw [List.find?_cons_of_neg (by simpa using hk), List.find?_cons_of_neg (by simpa using hk)]
    · rw [List.find?_cons, List.find?_cons, ih]

theorem get?_insert_self (m : OrderedMap κ α) (k : κ) (a : α) :
    (m.insert k a).get? k = some a := by
  simp [get?, insert, find?_put_self]

theorem get?_insert_of_ne {k k' : κ} (h : k ≠ k') (m : OrderedMap κ α) (a : α) :
    (m.insert k a).get? k' = m.get? k' := by
  simp [get?, insert, find?_put_of_ne h]

/-- **Insertion changes exactly the lookup of its key.** -/
theorem get?_insert [DecidableEq κ] (m : OrderedMap κ α) (k k' : κ) (a : α) :
    (m.insert k a).get? k' = if k = k' then some a else m.get? k' := by
  split
  next h => rw [← h, get?_insert_self]
  next h => exact get?_insert_of_ne h m a

omit [Std.TransOrd κ] in
theorem get?_erase_self (m : OrderedMap κ α) (k : κ) : (m.erase k).get? k = none := by
  simp [get?, erase, List.find?_eq_none]

omit [Std.TransOrd κ] in
theorem find?_filter_of_ne {k k' : κ} (h : k ≠ k') (l : List (κ × α)) :
    (l.filter fun e => compare e.1 k != .eq).find? (fun e => compare e.1 k' == .eq) =
      l.find? (fun e => compare e.1 k' == .eq) := by
  induction l with
  | nil => rfl
  | cons head rest ih =>
    by_cases hk : compare head.1 k = .eq
    · have hk' : ¬ compare head.1 k' = .eq := by
        intro hc
        exact h ((Std.LawfulEqCmp.eq_of_compare hk).symm.trans (Std.LawfulEqCmp.eq_of_compare hc))
      rw [List.filter_cons_of_neg (by simpa using hk), ih,
        List.find?_cons_of_neg (by simpa using hk')]
    · rw [List.filter_cons_of_pos (by simpa using hk), List.find?_cons, List.find?_cons, ih]

omit [Std.TransOrd κ] in
theorem get?_erase_of_ne {k k' : κ} (h : k ≠ k') (m : OrderedMap κ α) :
    (m.erase k).get? k' = m.get? k' := by
  simp only [get?, erase, find?_filter_of_ne h]

omit [Std.TransOrd κ] in
/-- **Removal changes exactly the lookup of its key.** -/
theorem get?_erase [DecidableEq κ] (m : OrderedMap κ α) (k k' : κ) :
    (m.erase k).get? k' = if k = k' then none else m.get? k' := by
  split
  next h => rw [← h, get?_erase_self]
  next h => exact get?_erase_of_ne h m

omit [Std.LawfulEqOrd κ] in
/-- A key below all keys of a sorted list is not found in it. -/
theorem find?_eq_none_of_lt {k : κ} {l : List (κ × α)} (h : ∀ e ∈ l, compare k e.1 = .lt) :
    l.find? (fun e => compare e.1 k == .eq) = none := by
  refine List.find?_eq_none.2 fun e he => ?_
  have hgt := Std.OrientedCmp.gt_of_lt (h e he)
  simp [hgt]

/-- Sorted lists with the same lookups are the same list. -/
theorem entries_ext {l₁ l₂ : List (κ × α)}
    (h₁ : l₁.Pairwise (fun a b => compare a.1 b.1 = .lt))
    (h₂ : l₂.Pairwise (fun a b => compare a.1 b.1 = .lt))
    (h : ∀ k, (l₁.find? fun e => compare e.1 k == .eq) =
      (l₂.find? fun e => compare e.1 k == .eq)) : l₁ = l₂ := by
  induction l₁ generalizing l₂ with
  | nil =>
    cases l₂ with
    | nil => rfl
    | cons e rest => simpa using h e.1
  | cons e₁ rest₁ ih =>
    cases l₂ with
    | nil => simpa using h e₁.1
    | cons e₂ rest₂ =>
      obtain ⟨hlt₁, hrest₁⟩ := List.pairwise_cons.1 h₁
      obtain ⟨hlt₂, hrest₂⟩ := List.pairwise_cons.1 h₂
      have hhead : e₁ = e₂ := by
        have hk₁ := h e₁.1
        have hk₂ := h e₂.1
        simp only [List.find?_cons, Std.ReflCmp.compare_self, beq_self_eq_true] at hk₁ hk₂
        cases hc : compare e₁.1 e₂.1 with
        | lt =>
          rw [Std.OrientedCmp.gt_of_lt hc] at hk₁
          simp [find?_eq_none_of_lt fun e he => Std.TransCmp.lt_trans hc (hlt₂ e he)] at hk₁
        | eq =>
          rw [Std.OrientedCmp.eq_symm hc] at hk₁
          simpa using hk₁
        | gt =>
          have hc' := Std.OrientedCmp.lt_of_gt hc
          rw [hc] at hk₂
          simp [find?_eq_none_of_lt fun e he => Std.TransCmp.lt_trans hc' (hlt₁ e he)] at hk₂
      subst hhead
      refine congrArg _ (ih hrest₁ hrest₂ fun k => ?_)
      by_cases hk : compare e₁.1 k = .eq
      · obtain hk := Std.LawfulEqCmp.eq_of_compare hk
        subst hk
        rw [find?_eq_none_of_lt hlt₁, find?_eq_none_of_lt hlt₂]
      · simpa [List.find?_cons, hk] using h k

omit [Std.TransOrd κ] in
/-- A binding is found by its key. -/
theorem find?_entries (m : OrderedMap κ α) (k : κ) :
    (m.entries.find? fun e => compare e.1 k == .eq) = (m.get? k).map (fun a => (k, a)) := by
  unfold get?
  cases hf : m.entries.find? fun e => compare e.1 k == .eq with
  | none => rfl
  | some e =>
    have hk := List.find?_some hf
    simp only [beq_iff_eq] at hk
    obtain hk := Std.LawfulEqCmp.eq_of_compare hk
    subst hk
    rfl

/-- **Maps with the same lookups are equal.** -/
theorem ext {m n : OrderedMap κ α} (h : ∀ k, m.get? k = n.get? k) : m = n := by
  have hentries : m.entries = n.entries :=
    entries_ext m.sorted n.sorted fun k => by
      rw [find?_entries, find?_entries, h]
  cases m
  cases n
  simpa using hentries

end Lawful

end OrderedMap

end Telemetry
