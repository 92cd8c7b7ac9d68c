import Mathlib.Data.Set.Card
import Telemetry.Proofs.Context.Guards

/-!
# When an attach is refused

Positions are limited, and a position is not free again as soon as its guard is dropped: while a newer
guard is alive it stays below that guard's position.  So the number of guards that are alive does not
say whether there is room for one more.  What does is the number of guards that hold a place, and this
is said without the attach stack: guards are numbered in the order in which they were made, and a guard
holds a place (`GuardedExecution.HoldsPlace`) from its attach to the first moment at which neither it
nor any newer guard is alive.

The invariant (`encard_holdsPlace_le`) is that the position of a guard is the number of places held by it
and by older guards.  From it the size of the stack is the number of places (`encard_holdsPlace`), and
`isSome_attach_run` says exactly when an attach is refused.  If guards are dropped newest first, only those
that are alive hold a place (`holdsPlace_iff_of_newest_first`).
-/

namespace Telemetry

/-! ### The numbers of guards -/

/-- How many guards were made, and which of them are alive. -/
structure GuardNumbers where
  /-- The number of guards that were made. -/
  made : Nat
  /-- The numbers of the guards that are alive, the newest first.  A guard's number is the number of
  guards that were made before it. -/
  alive : List Nat

namespace GuardNumbers

/-- One action. -/
def step (numbers : GuardNumbers) : ContextAction → GuardNumbers
  | .attach _ => ⟨numbers.made + 1, numbers.made :: numbers.alive⟩
  | .drop index => { numbers with alive := numbers.alive.eraseIdx index }

/-- The numbers after a sequence of actions. -/
def after (actions : List ContextAction) : GuardNumbers := actions.foldl step ⟨0, []⟩

theorem after_concat (actions : List ContextAction) (action : ContextAction) :
    after (actions ++ [action]) = (after actions).step action := by
  rw [after, List.foldl_append]
  rfl

/-- Guards that are alive were made, and newer ones have greater numbers. -/
theorem alive_after (actions : List ContextAction) :
    (∀ k ∈ (after actions).alive, k < (after actions).made) ∧
      (after actions).alive.Pairwise (· > ·) := by
  induction actions using List.reverseRecOn with
  | nil => exact ⟨by simp [after], .nil⟩
  | append_singleton actions action ih =>
    obtain ⟨hmade, hdec⟩ := ih
    rw [after_concat]
    cases action with
    | attach cx =>
      refine ⟨fun k hk => ?_, .cons hmade hdec⟩
      rcases List.mem_cons.1 hk with rfl | hk
      · exact Nat.lt_succ_self _
      · exact Nat.lt_succ_of_lt (hmade k hk)
    | drop index =>
      have hsub := List.eraseIdx_sublist (after actions).alive index
      exact ⟨fun k hk => hmade k (hsub.subset hk), hdec.sublist hsub⟩

end GuardNumbers

/-- The position of a context that is attached. -/
theorem AttachStack.position_attach {α : Type*} {s : AttachStack α} {a : α} {p : Nat}
    (h : (s.attach a).1 = some p) : p = s.below.size + 1 := by
  unfold attach at h
  split at h
  · exact (Option.some.inj h).symm
  · cases h

namespace GuardedExecution

variable {e : Execution} {actions : List ContextAction} {action : ContextAction} {k n p : Nat}

/-! ### Guards that are alive, with their numbers and positions -/

theorem run_concat (g : GuardedExecution) (actions : List ContextAction) (action : ContextAction) :
    g.run (actions ++ [action]) = (g.run actions).step action := by
  rw [run, List.foldl_append]
  rfl

theorem guards_drop (g : GuardedExecution) (index : Nat) :
    (g.step (.drop index)).guards = g.guards.eraseIdx index := by
  cases h : g.guards[index]? with
  | none =>
    rw [List.eraseIdx_of_length_le (List.getElem?_eq_none_iff.1 h)]
    simp only [step, h]
  | some guard => rw [step_drop h]

theorem length_alive (e : Execution) (actions : List ContextAction) :
    (GuardNumbers.after actions).alive.length = ((fresh e).run actions).guards.length := by
  induction actions using List.reverseRecOn with
  | nil => rfl
  | append_singleton actions action ih =>
    rw [GuardNumbers.after_concat, run_concat]
    cases action with
    | attach cx => exact congrArg (· + 1) ih
    | drop index =>
      rw [guards_drop]
      show ((GuardNumbers.after actions).alive.eraseIdx index).length = _
      rw [List.length_eraseIdx, List.length_eraseIdx, ih]

/-- The guards that are alive and whose attach was not refused, the newest first, as pairs of a number
and a position. -/
def standing (e : Execution) (actions : List ContextAction) : List (Nat × Nat) :=
  ((GuardNumbers.after actions).alive.zip ((fresh e).run actions).guards).filterMap fun x =>
    x.2.position.map fun p => (x.1, p)

/-- One more guard stands if its attach is not refused. -/
theorem standing_attach (e : Execution) (actions : List ContextAction) (cx : Context) :
    standing e (actions ++ [.attach cx]) =
      ((((fresh e).run actions).execution.attach cx).1.map
        fun p => ((GuardNumbers.after actions).made, p)).toList ++ standing e actions := by
  rw [standing, GuardNumbers.after_concat, run_concat, step_attach]
  show List.filterMap _ ((_, _) :: List.zip _ _) = _
  cases hp : (((fresh e).run actions).execution.attach cx).1 with
  | none => simp [standing]
  | some p => simp [standing]

theorem zip_eraseIdx {α β : Type*} (xs : List α) (ys : List β) (i : Nat) :
    (xs.eraseIdx i).zip (ys.eraseIdx i) = (xs.zip ys).eraseIdx i := by
  induction xs generalizing ys i with
  | nil => simp
  | cons x xs ih =>
    cases ys with
    | nil => simp
    | cons y ys =>
      cases i with
      | zero => rfl
      | succ i => exact congrArg (_ :: ·) (ih ys i)

theorem standing_drop (e : Execution) (actions : List ContextAction) (index : Nat) :
    standing e (actions ++ [.drop index]) =
      (((GuardNumbers.after actions).alive.zip ((fresh e).run actions).guards).eraseIdx
        index).filterMap fun x => x.2.position.map fun p => (x.1, p) := by
  rw [standing, GuardNumbers.after_concat, run_concat, guards_drop]
  exact congrArg _ (zip_eraseIdx _ _ _)

theorem sublist_standing_drop (e : Execution) (actions : List ContextAction) (index : Nat) :
    (standing e (actions ++ [.drop index])).Sublist (standing e actions) := by
  rw [standing_drop]
  exact (List.eraseIdx_sublist _ _).filterMap _

theorem positions_standing (e : Execution) (actions : List ContextAction) :
    (standing e actions).map Prod.snd =
      (ContextGuard.accepted ((fresh e).run actions).guards).map Prod.fst := by
  have hzip := @List.map_snd_zip _ _ (GuardNumbers.after actions).alive _ (length_alive e actions).ge
  rw [standing, ContextGuard.accepted, List.map_filterMap, List.map_filterMap]
  conv_rhs => rw [← hzip, List.filterMap_map]
  congr 1
  funext x
  cases h : x.2.position <;> simp [h]

/-- A guard that stands, in the list of all that are alive. -/
theorem number_of_standing {x : Nat × ContextGuard} {y : Nat × Nat}
    (h : (x.2.position.map fun p => (x.1, p)) = some y) : y.1 = x.1 := by
  obtain ⟨p, -, rfl⟩ := Option.map_eq_some_iff.1 h
  rfl

theorem lt_made_of_standing {x : Nat × Nat} (hx : x ∈ standing e actions) :
    x.1 < (GuardNumbers.after actions).made := by
  obtain ⟨y, hy, hxy⟩ := List.mem_filterMap.1 hx
  rw [number_of_standing hxy]
  exact (GuardNumbers.alive_after actions).1 _ (List.of_mem_zip hy).1

/-- Newer guards have greater numbers. -/
theorem pairwise_standing (e : Execution) (actions : List ContextAction) :
    (standing e actions).Pairwise fun x y => y.1 < x.1 := by
  have hzip := @List.map_fst_zip _ _ (GuardNumbers.after actions).alive _ (length_alive e actions).le
  have hdec := (GuardNumbers.alive_after actions).2
  rw [← hzip, List.pairwise_map] at hdec
  refine hdec.filterMap _ fun x y hxy x' hx y' hy => ?_
  rw [number_of_standing hx, number_of_standing hy]
  exact hxy

/-- **The size of the stack is the position of the newest guard that stands**, and 0 if there is none. -/
theorem size_eq_newest (e : Execution) (actions : List ContextAction) :
    ((fresh e).run actions).execution.contexts.below.size =
      ((standing e actions).head?.map Prod.snd).getD 0 := by
  have htracks : ((fresh e).run actions).Tracks := tracks_run (tracks_fresh e) actions
  have hhead := AttachStack.head?_held ((fresh e).run actions).execution.contexts
  rw [htracks] at hhead
  rw [← List.head?_map, positions_standing, List.head?_map]
  cases hacc : ContextGuard.accepted ((fresh e).run actions).guards with
  | nil =>
    rw [hacc] at hhead
    exact (Prod.mk.inj (Option.some.inj hhead)).1.symm
  | cons x rest =>
    rw [hacc] at hhead
    exact congrArg Prod.fst (Option.some.inj hhead).symm

/-! ### Places -/

/-- The guard with the number `k` holds a place: at some moment it stood, and at every moment since then
it or a newer guard did. -/
def HoldsPlace (e : Execution) (actions : List ContextAction) (k : Nat) : Prop :=
  ∃ first, first <+: actions ∧ (∃ p, (k, p) ∈ standing e first) ∧
    ∀ middle, first <+: middle → middle <+: actions → ∃ x ∈ standing e middle, k ≤ x.1

/-- **Places, one action later**: one more guard may hold a place, and a place is given up when neither
its guard nor a newer one stands. -/
theorem holdsPlace_concat :
    HoldsPlace e (actions ++ [action]) k ↔
      (HoldsPlace e actions k ∨ ∃ p, (k, p) ∈ standing e (actions ++ [action])) ∧
        ∃ x ∈ standing e (actions ++ [action]), k ≤ x.1 := by
  constructor
  · rintro ⟨first, hfirst, hstands, hsince⟩
    refine ⟨?_, hsince _ hfirst (List.prefix_refl _)⟩
    rcases List.prefix_concat_iff.1 hfirst with rfl | hfirst
    · exact .inr hstands
    · exact .inl ⟨first, hfirst, hstands, fun middle h h' =>
        hsince middle h (h'.trans (List.prefix_append _ _))⟩
  · rintro ⟨⟨first, hfirst, hstands, hsince⟩ | hstands, hnow⟩
    · refine ⟨first, hfirst.trans (List.prefix_append _ _), hstands, fun middle h h' => ?_⟩
      rcases List.prefix_concat_iff.1 h' with rfl | h'
      · exact hnow
      · exact hsince middle h h'
    · refine ⟨_, List.prefix_refl _, hstands, fun middle h h' => ?_⟩
      rwa [← h.eq_of_length_le h'.length_le]

theorem not_holdsPlace_nil : ¬HoldsPlace e [] k := by
  rintro ⟨first, hfirst, ⟨p, hp⟩, -⟩
  rw [List.prefix_nil.1 hfirst] at hp
  cases hp

/-- A guard that stands holds a place. -/
theorem HoldsPlace.of_standing (h : (n, p) ∈ standing e actions) : HoldsPlace e actions n :=
  ⟨actions, List.prefix_refl _, ⟨p, h⟩, fun middle h1 h2 => by
    rw [← h1.eq_of_length_le h2.length_le]
    exact ⟨_, h, le_rfl⟩⟩

theorem HoldsPlace.exists_standing (h : HoldsPlace e actions k) :
    ∃ x ∈ standing e actions, k ≤ x.1 := by
  obtain ⟨first, hfirst, -, hsince⟩ := h
  exact hsince _ hfirst (List.prefix_refl _)

/-- The guards that hold a place are at most as new as the newest that stands. -/
theorem HoldsPlace.le_of_head? {x : Nat × Nat} (h : HoldsPlace e actions k)
    (hx : (standing e actions).head? = some x) : k ≤ x.1 := by
  obtain ⟨y, hy, hk⟩ := h.exists_standing
  obtain ⟨rest, hrest⟩ := List.head?_eq_some_iff.1 hx
  have hdec := pairwise_standing e actions
  rw [hrest] at hy hdec
  rcases List.mem_cons.1 hy with rfl | hy
  · exact hk
  · exact hk.trans ((List.pairwise_cons.1 hdec).1 y hy).le

theorem HoldsPlace.lt_made (h : HoldsPlace e actions k) : k < (GuardNumbers.after actions).made := by
  obtain ⟨x, hx, hk⟩ := h.exists_standing
  exact hk.trans_lt (lt_made_of_standing hx)

/-- A guard that stands after an action stood before it or is the one that was made. -/
theorem standing_concat {x : Nat × Nat} (hx : x ∈ standing e (actions ++ [action])) :
    x ∈ standing e actions ∨ x = ((GuardNumbers.after actions).made,
      ((fresh e).run actions).execution.contexts.below.size + 1) ∧ ∃ cx, action = .attach cx := by
  cases action with
  | attach cx =>
    rw [standing_attach] at hx
    rcases List.mem_append.1 hx with hx | hx
    · obtain ⟨p, hp, rfl⟩ := Option.map_eq_some_iff.1 (Option.mem_toList.1 hx)
      obtain ⟨hattach, -⟩ := Execution.attach_of_some hp
      rw [AttachStack.position_attach hattach]
      exact .inr ⟨rfl, cx, rfl⟩
    · exact .inl hx
  | drop index => exact .inl ((sublist_standing_drop e actions index).subset hx)

/-- An action does not change the places of guards that are at most as new as one that goes on to
stand. -/
theorem holdsPlace_concat_of_le (h : (n, p) ∈ standing e actions)
    (h' : (n, p) ∈ standing e (actions ++ [action])) (hk : k ≤ n) :
    HoldsPlace e (actions ++ [action]) k ↔ HoldsPlace e actions k := by
  rw [holdsPlace_concat]
  constructor
  · rintro ⟨hplace | ⟨q, hq⟩, -⟩
    · exact hplace
    · rcases standing_concat hq with hq | ⟨hnew, -⟩
      · exact .of_standing hq
      · -- The guard that was made is newer.
        have hlt := lt_made_of_standing h
        have hmade := congrArg Prod.fst hnew
        dsimp only at hlt hmade
        omega
  · intro hplace
    exact ⟨.inl hplace, _, h', hk⟩

/-- If positions count places, the size of the stack is the number of places. -/
theorem encard_eq_size
    (h : ∀ x ∈ standing e actions, {k | HoldsPlace e actions k ∧ k ≤ x.1}.encard = x.2) :
    {k | HoldsPlace e actions k}.encard =
      ((fresh e).run actions).execution.contexts.below.size := by
  rw [size_eq_newest]
  cases hhead : (standing e actions).head? with
  | none =>
    have hnone : {k | HoldsPlace e actions k} = ∅ := by
      refine Set.eq_empty_iff_forall_notMem.2 fun k hk => ?_
      obtain ⟨x, hx, -⟩ := HoldsPlace.exists_standing hk
      rw [List.head?_eq_none_iff.1 hhead] at hx
      cases hx
    rw [hnone, Set.encard_empty]
    rfl
  | some x =>
    have hall : {k | HoldsPlace e actions k} = {k | HoldsPlace e actions k ∧ k ≤ x.1} :=
      Set.ext fun k => ⟨fun hk => ⟨hk, HoldsPlace.le_of_head? hk hhead⟩, And.left⟩
    rw [hall]
    exact h x (List.mem_of_mem_head? hhead)

/-- **The position of a guard is the number of places** that it and older guards hold. -/
theorem encard_holdsPlace_le (e : Execution) (actions : List ContextAction) :
    ∀ x ∈ standing e actions, {k | HoldsPlace e actions k ∧ k ≤ x.1}.encard = x.2 := by
  induction actions using List.reverseRecOn with
  | nil => exact fun x hx => absurd hx List.not_mem_nil
  | append_singleton actions action ih =>
    rintro ⟨n, p⟩ hx
    rcases standing_concat hx with hold | ⟨hnew, cx, rfl⟩
    · rw [← ih _ hold]
      refine congrArg _ (Set.ext fun k => and_congr_left fun hk => ?_)
      exact holdsPlace_concat_of_le hold hx hk
    · obtain ⟨rfl, rfl⟩ := Prod.mk.inj hnew
      have hplaces : {k | HoldsPlace e (actions ++ [.attach cx]) k ∧
            k ≤ (GuardNumbers.after actions).made} =
          insert (GuardNumbers.after actions).made {k | HoldsPlace e actions k} := by
        ext k
        constructor
        · rintro ⟨hplace, -⟩
          rcases (holdsPlace_concat.1 hplace).1 with hplace | ⟨q, hq⟩
          · exact .inr hplace
          · rcases standing_concat hq with hq | ⟨hnew, -⟩
            · exact .inr (.of_standing hq)
            · exact .inl (congrArg Prod.fst hnew)
        · rintro (rfl | hplace)
          · exact ⟨.of_standing hx, le_rfl⟩
          · have hlt := HoldsPlace.lt_made hplace
            exact ⟨holdsPlace_concat.2 ⟨.inl hplace, _, hx, hlt.le⟩, hlt.le⟩
      have hmem : (GuardNumbers.after actions).made ∉ {k | HoldsPlace e actions k} :=
        fun hplace => lt_irrefl _ (HoldsPlace.lt_made hplace)
      rw [hplaces, Set.encard_insert_of_notMem hmem, encard_eq_size ih]
      rfl

/-- **The size of the stack is the number of places** that are held. -/
theorem encard_holdsPlace (e : Execution) (actions : List ContextAction) :
    {k | HoldsPlace e actions k}.encard =
      ((fresh e).run actions).execution.contexts.below.size :=
  encard_eq_size (encard_holdsPlace_le e actions)

/-! ### Dropping newest first -/

/-- The newest guard stood or did not. -/
theorem standing_drop_newest (e : Execution) (actions : List ContextAction) :
    standing e (actions ++ [.drop 0]) = standing e actions ∨
      standing e (actions ++ [.drop 0]) = (standing e actions).tail := by
  rw [standing_drop, standing]
  cases (GuardNumbers.after actions).alive.zip ((fresh e).run actions).guards with
  | nil => exact .inl rfl
  | cons x rest =>
    rw [List.eraseIdx_cons_zero, List.filterMap_cons]
    cases x.2.position with
    | none => exact .inl rfl
    | some p => exact .inr rfl

/-- **If guards are dropped newest first, only those that are alive hold a place.** -/
theorem holdsPlace_iff_of_newest_first (h : ∀ index, .drop index ∈ actions → index = 0) :
    HoldsPlace e actions k ↔ ∃ p, (k, p) ∈ standing e actions := by
  induction actions using List.reverseRecOn with
  | nil => exact iff_of_false not_holdsPlace_nil fun ⟨_, hp⟩ => List.not_mem_nil hp
  | append_singleton actions action ih =>
    have ih := ih fun index hindex => h index (List.mem_append_left _ hindex)
    refine ⟨fun hplace => ?_, fun ⟨p, hp⟩ => .of_standing hp⟩
    obtain ⟨hplace | hstands, x, hx, hk⟩ := holdsPlace_concat.1 hplace
    · obtain ⟨p, hp⟩ := ih.1 hplace
      cases action with
      | attach cx => exact ⟨p, by rw [standing_attach]; exact List.mem_append_right _ hp⟩
      | drop index =>
        obtain rfl := h index (List.mem_append_right _ (List.mem_singleton_self _))
        rcases standing_drop_newest e actions with hsame | htail
        · exact ⟨p, hsame ▸ hp⟩
        · -- Only the newest guard no longer stands, and all others are older.
          have hdec := pairwise_standing e actions
          cases hcases : standing e actions with
          | nil =>
            rw [hcases] at hp
            cases hp
          | cons y rest =>
            rw [htail, hcases] at hx ⊢
            rw [hcases] at hp hdec
            rcases List.mem_cons.1 hp with rfl | hp
            · exact absurd hk (Nat.not_le_of_lt ((List.pairwise_cons.1 hdec).1 x hx))
            · exact ⟨p, hp⟩
    · exact hstands

/-- Guards that stand have numbers of their own. -/
theorem encard_standing (e : Execution) (actions : List ContextAction) :
    {k | ∃ p, (k, p) ∈ standing e actions}.encard =
      (ContextGuard.accepted ((fresh e).run actions).guards).length := by
  have hnodup : ((standing e actions).map Prod.fst).Nodup :=
    List.pairwise_map.2 ((pairwise_standing e actions).imp fun h => (Nat.ne_of_lt h).symm)
  have hset : {k | ∃ p, (k, p) ∈ standing e actions} =
      ((standing e actions).map Prod.fst).toFinset := by
    ext k
    simp
  have hlength := congrArg List.length (positions_standing e actions)
  rw [List.length_map, List.length_map] at hlength
  rw [hset, Set.encard_coe_eq_coe_finsetCard, List.toFinset_card_of_nodup hnodup, List.length_map,
    hlength]

/-! ### Room for one more -/

/-- **An attach is refused exactly when 65534 guards hold a place.**  Otherwise its context is current
afterwards.  If guards were dropped newest first, it is refused exactly when 65534 guards are alive whose
own attach was not refused. -/
theorem isSome_attach_run (e : Execution) (actions : List ContextAction) (cx : Context) :
    let g := (fresh e).run actions
    ((g.execution.attach cx).1.isSome = true ↔ {k | HoldsPlace e actions k}.encard < 65534) ∧
      (g.step (.attach cx)).execution.currentContext =
        (if (g.execution.attach cx).1.isSome then cx else g.execution.currentContext) ∧
      ((∀ index, .drop index ∈ actions → index = 0) →
        ((g.execution.attach cx).1.isSome = true ↔
          (ContextGuard.accepted g.guards).length < 65534)) := by
  intro g
  have hroom : (g.execution.attach cx).1.isSome = true ↔
      {k | HoldsPlace e actions k}.encard < 65534 := by
    rw [Execution.isSome_attach, decide_eq_true_iff, encard_holdsPlace, maxAttachPosition]
    show _ ↔ ((g.execution.contexts.below.size : ℕ) : ℕ∞) < ((65534 : ℕ) : ℕ∞)
    rw [Nat.cast_lt]
    omega
  refine ⟨hroom, ?_, fun hnewest => ?_⟩
  · rw [step_attach]
    cases hp : (g.execution.attach cx).1 with
    | none => rw [Execution.attach_of_none hp]; rfl
    | some p =>
      obtain ⟨hattach, he⟩ := Execution.attach_of_some hp
      have hheld := AttachStack.held_attach cx hattach
      rw [AttachStack.held_eq_cons] at hheld
      rw [he]
      exact (Prod.mk.inj (List.cons.inj hheld).1).2
  · have halive : {k | HoldsPlace e actions k} = {k | ∃ p, (k, p) ∈ standing e actions} :=
      Set.ext fun k => holdsPlace_iff_of_newest_first hnewest
    rw [hroom, halive, encard_standing]
    exact Nat.cast_lt (n := 65534)

/-! ### Places without a guard that is alive -/

/-- An attach below the limit. -/
theorem step_attach_of_lt {g : GuardedExecution} (cx : Context)
    (h : g.execution.contexts.below.size < 65534) :
    (g.step (.attach cx)).execution.contexts.below.size = g.execution.contexts.below.size + 1 ∧
      (g.step (.attach cx)).guards =
        ⟨cx, some (g.execution.contexts.below.size + 1)⟩ :: g.guards := by
  have hattach : g.execution.contexts.attach cx = (some (g.execution.contexts.below.size + 1),
      ⟨cx, g.execution.contexts.below.push (some g.execution.contexts.current)⟩) :=
    if_pos (by rw [maxAttachPosition]; omega)
  rw [step_attach]
  unfold Execution.attach
  rw [hattach]
  exact ⟨Array.size_push _, rfl⟩

/-- Dropping a guard that is not the newest leaves the size of the stack as it is. -/
theorem size_drop_of_lt {g : GuardedExecution} {index p : Nat} {guard : ContextGuard}
    (hguard : g.guards[index]? = some guard) (hp : guard.position = some p)
    (hlt : p < g.execution.contexts.below.size) :
    (g.step (.drop index)).execution.contexts.below.size = g.execution.contexts.below.size := by
  rw [step_drop hguard, hp]
  show (Execution.detach _ (some p)).contexts.below.size = _
  by_cases h0 : p = 0
  · rw [Execution.detach_of_some (by rw [AttachStack.detach?, if_pos h0])]
  · rw [Execution.detach_of_some
      (by rw [AttachStack.detach?, if_neg h0, if_neg (Nat.ne_of_lt hlt), if_pos hlt])]
    exact Array.size_setIfInBounds

/-- Attaches up to the limit. -/
theorem size_attaching (e : Execution) (cx : Context) {n : Nat} (hn : n ≤ 65534) :
    let g := (fresh e).run (List.replicate n (.attach cx))
    g.execution.contexts.below.size = n ∧
      g.guards = (List.range n).reverse.map fun i => ⟨cx, some (i + 1)⟩ := by
  induction n with
  | zero => exact ⟨rfl, rfl⟩
  | succ n ih =>
    obtain ⟨hsize, hguards⟩ := ih (Nat.le_of_succ_le hn)
    intro g
    obtain ⟨hsize', hguards'⟩ := step_attach_of_lt cx (hsize.trans_lt hn)
    have hg : g = ((fresh e).run (List.replicate n (.attach cx))).step (.attach cx) := by
      rw [← run_concat, ← List.replicate_succ']
    rw [hg, hsize', hguards', hsize, hguards, List.range_succ, List.reverse_concat, List.map_cons]
    exact ⟨rfl, rfl⟩

/-- After the limit was reached there is no room although a guard was dropped, for it was not the
newest. -/
theorem not_forall_isSome_attach_run :
    ¬∀ (e : Execution) (actions : List ContextAction) (cx : Context),
        ((fresh e).run actions).guards.length < 65534 →
          (((fresh e).run actions).execution.attach cx).1.isSome = true := by
  intro h
  obtain ⟨full, hfull⟩ : ∃ full, full = List.replicate 65534 (ContextAction.attach .empty) :=
    ⟨_, rfl⟩
  obtain ⟨hsize, hguards⟩ := size_attaching .initial .empty (n := 65534) le_rfl
  rw [← hfull] at hsize hguards
  have hlength : ((fresh .initial).run full).guards.length = 65534 := by
    rw [hguards, List.length_map, List.length_reverse, List.length_range]
  have hold : ((fresh .initial).run full).guards[1]? = some ⟨.empty, some 65533⟩ := by
    rw [hguards, List.getElem?_map, List.getElem?_reverse (by simp)]
    simp
  have hsize' := size_drop_of_lt hold rfl (by rw [hsize]; decide)
  have hlength' : (((fresh .initial).run full).step (.drop 1)).guards.length = 65533 := by
    rw [guards_drop, List.length_eraseIdx, if_pos (by rw [hlength]; decide), hlength]
  have hroom := h .initial (full ++ [.drop 1]) .empty (by rw [run_concat, hlength']; decide)
  rw [run_concat, Execution.isSome_attach, hsize', hsize] at hroom
  exact absurd hroom (by decide)

end GuardedExecution

end Telemetry
