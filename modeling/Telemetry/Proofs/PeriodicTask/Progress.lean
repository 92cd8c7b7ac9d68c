import Mathlib.Tactic
import Telemetry.Proofs.PeriodicTask.Answers

/-!
# Every call to a periodic task returns

A schedule names the step that is taken at each moment, and it is `Fair` when no step of the worker or of a
call that is under way is put off forever.  Under a fair schedule a call goes through its stages: its
request is sent, comes to the head of the queue, is answered, and the answer is taken.  One lemma on
`Move` for each stage says that the call stays in it or goes on, and `Fair.leadsTo` turns it into "sooner or
later".  The wait in the queue is by induction on `rank`, which falls with each step that the worker has to
take.

`keepsProtocol_and_returns` puts this beside what never happens in any run (`KeepsProtocol`).
-/

namespace Telemetry

deriving instance Countable for TaskRequest, TaskCall, TaskStep

instance : Nonempty TaskStep := ⟨.take⟩

/-- A step that is not put off forever: one of the worker, or of a call that is under way. -/
def TaskStep.Due : TaskStep → Prop
  | .send _ | .take | .finish | .depart | .receive _ => True
  | .ask _ | .timeout | .abandon => False

/-- The step by which the worker gets on with the requests. -/
def Worker.nextStep : Worker → TaskStep
  | .running => .take
  | .serving _ => .finish
  | .leaving | .gone => .depart

theorem Worker.due_nextStep (worker : Worker) : worker.nextStep.Due := by
  cases worker <;> trivial

namespace TaskEvent

/-- What the call returned. -/
def resultOf? (call : TaskCall) : TaskEvent → Option (Except TaskFault Unit)
  | .returned other result => if other = call then some result else none
  | .asked _ | .sent _ | .exported _ => none

/-- What the call returned, each time that it did. -/
def results (call : TaskCall) (events : List TaskEvent) : List (Except TaskFault Unit) :=
  events.filterMap (resultOf? call)

theorem length_results (call : TaskCall) (events : List TaskEvent) :
    (results call events).length = (returnedIn events).count call := by
  induction events with
  | nil => rfl
  | cons event events ih =>
    rw [results, List.filterMap_cons, returnedIn_cons, List.count_append, ← ih]
    cases event with
    | returned other result =>
      by_cases h : other = call
      · simp [resultOf?, h, results, Nat.add_comm]
      · simp [resultOf?, h, results]
    | _ => simp [resultOf?, results]

end TaskEvent

namespace PeriodicTask

open TaskEvent

variable {task task' : PeriodicTask} {s : TaskStep} {events more : List TaskEvent} {call : TaskCall}

/-! ### Stages of a call -/

/-- A call that was admitted stays so until its request is sent or it returns. -/
theorem Move.admitted_next (h : Move task s task' more) (hcall : call ∈ task.admitted) :
    (task'.Pending call ∨ call ∈ returnedIn more) ∨ call ∈ task'.admitted ∧ s ≠ .send call := by
  cases h with
  | idle h => exact .inr ⟨hcall, fun hs => by subst hs; exact h hcall⟩
  | admitted => exact .inr ⟨List.mem_append_left _ hcall, nofun⟩
  | @unsent other h hgone =>
    by_cases hother : other = call
    · exact .inl (.inr (by simp [hother]))
    · exact .inr ⟨(List.mem_erase_of_ne (Ne.symm hother)).2 hcall, by simp [hother]⟩
  | @sent other h hgone =>
    by_cases hother : other = call
    · exact .inl (.inl (.inl (by simp [hother])))
    · exact .inr ⟨(List.mem_erase_of_ne (Ne.symm hother)).2 hcall, by simp [hother]⟩
  | _ => exact .inr ⟨hcall, nofun⟩

/-- The steps that the worker takes for the requests before that of the call, and for the call itself. -/
def rank (task : PeriodicTask) (call : TaskCall) : Nat :=
  2 * (task.worker.call?.toList ++ task.waiting).idxOf call + if task.worker = .running then 1 else 0

theorem Pending.mem (h : task.Pending call) : call ∈ task.worker.call?.toList ++ task.waiting := by
  rcases h with hwaiting | hserving
  · exact List.mem_append_right _ hwaiting
  · exact List.mem_append_left _ (by simp [hserving, Worker.call?])

/-- The worker has something to do for a request that it has before it. -/
theorem Pending.not_idle (h : task.Pending call) (hgone : task.worker = .gone → task.waiting = []) :
    ¬ task.Idle task.worker.nextStep := by
  cases hworker : task.worker with
  | running =>
    intro hidle
    have hmem : call ∈ task.waiting := h.resolve_right (by simp [hworker])
    rw [(hidle hworker).1] at hmem
    cases hmem
  | serving other => simp [Worker.nextStep, Idle, hworker, Worker.call?]
  | leaving => simp [Worker.nextStep, Idle, hworker]
  | gone =>
    have hmem : call ∈ task.waiting := h.resolve_right (by simp [hworker])
    rw [hgone hworker] at hmem
    cases hmem

/-- **A request waits until it is answered**, and each step that the worker has to take brings it on. -/
theorem Move.pending_next (h : Move task s task' more) (hcall : task.Pending call)
    (hgone : task.worker = .gone → task.waiting = []) :
    (call ∈ task'.answers.map (·.call) ∨ task'.Pending call ∧ task'.rank call < task.rank call) ∨
      task'.Pending call ∧ task'.rank call = task.rank call ∧ task'.worker = task.worker ∧
        s ≠ task.worker.nextStep := by
  have hother : ∀ s : TaskStep, ¬ s.Due → s ≠ task.worker.nextStep := fun s hs heq =>
    hs (heq ▸ Worker.due_nextStep _)
  have hforeign : ∀ other : TaskCall, .send other ≠ task.worker.nextStep ∧
      .receive other ≠ task.worker.nextStep := by
    intro other
    cases task.worker <;> simp [Worker.nextStep]
  cases h with
  | idle h => exact .inr ⟨hcall, rfl, rfl, fun hs => hcall.not_idle hgone (hs ▸ h)⟩
  | refused | admitted | elapsed | abandoned => exact .inr ⟨hcall, rfl, rfl, hother _ id⟩
  | unsent => exact .inr ⟨hcall, rfl, rfl, (hforeign _).1⟩
  | sent =>
    refine .inr ⟨hcall.imp_left (List.mem_append_left _), ?_, rfl, (hforeign _).1⟩
    simp only [rank, ← List.append_assoc, List.idxOf_append_of_mem hcall.mem]
  | received => exact .inr ⟨hcall, rfl, rfl, (hforeign _).2⟩
  | taken hworker hwaiting =>
    refine .inl (.inr ⟨?_, by simp [rank, hworker, hwaiting, Worker.call?]⟩)
    have hmem : call ∈ task.waiting := hcall.resolve_right (by simp [hworker])
    rcases List.mem_cons.1 (hwaiting ▸ hmem) with rfl | hrest
    · exact .inr rfl
    · exact .inl hrest
  | disconnected hworker hwaiting => simp [Pending, hworker, hwaiting] at hcall
  | @finished served hworker =>
    by_cases hserved : served = call
    · exact .inl (.inl (by simp [hserved]))
    · have hmem : call ∈ task.waiting := hcall.resolve_right fun hserving =>
        hserved (Worker.serving.inj (hworker.symm.trans hserving))
      refine .inl (.inr ⟨.inl hmem, ?_⟩)
      simp only [rank, call?_afterServing, hworker]
      simp only [Worker.call?, Option.toList, List.nil_append, List.cons_append,
        List.idxOf_cons_ne _ hserved]
      split
      · simp
      · simp
        omega
  | departed hworker =>
    have hmem : call ∈ task.waiting := hcall.resolve_right (by simp [hworker])
    exact .inl (.inl (by simp [hmem]))

/-- An answer waits until the call takes it and returns. -/
theorem Move.answered_next (h : Move task s task' more) (hcall : call ∈ task.answers.map (·.call)) :
    call ∈ returnedIn more ∨ call ∈ task'.answers.map (·.call) ∧ s ≠ .receive call := by
  cases h with
  | idle h => exact .inr ⟨hcall, fun hs => by subst hs; exact h hcall⟩
  | finished => exact .inr ⟨List.mem_cons_of_mem _ hcall, nofun⟩
  | departed =>
    refine .inr ⟨?_, nofun⟩
    rw [List.map_append]
    exact List.mem_append_right _ hcall
  | @received answer h =>
    by_cases hother : answer.call = call
    · exact .inl (by simp [hother])
    · obtain ⟨mine, hmine, rfl⟩ := List.mem_map.1 hcall
      refine .inr ⟨List.mem_map_of_mem ((List.mem_erase_of_ne ?_).2 hmine), by simp [hother]⟩
      rintro rfl
      exact hother rfl
  | _ => exact .inr ⟨hcall, nofun⟩

/-! ### Schedules -/

/-- The task after the first steps of a schedule, and what was seen of them. -/
def after (task : PeriodicTask) (schedule : Nat → TaskStep) (n : Nat) :
    PeriodicTask × List TaskEvent :=
  task.run ((List.range n).map schedule)

/-- No step of the worker or of a call that is under way is put off forever: sooner or later it is taken, or
there is nothing to do for it. -/
def Fair (task : PeriodicTask) (schedule : Nat → TaskStep) : Prop :=
  ∀ s : TaskStep, s.Due → ∀ n, ∃ m, n ≤ m ∧ (schedule m = s ∨ (task.after schedule m).1.Idle s)

variable {schedule : Nat → TaskStep} {seconds : Nat}

theorem after_succ (task : PeriodicTask) (schedule : Nat → TaskStep) (n : Nat) :
    task.after schedule (n + 1) =
      (((task.after schedule n).1.step (schedule n)).1,
        (task.after schedule n).2 ++ ((task.after schedule n).1.step (schedule n)).2) := by
  rw [after, List.range_succ, List.map_append]
  exact run_concat _ _ _

/-- What was seen stays seen. -/
theorem events_after_mono (task : PeriodicTask) (schedule : Nat → TaskStep) {n m : Nat} (h : n ≤ m) :
    (task.after schedule n).2 <+: (task.after schedule m).2 := by
  induction m, h using Nat.le_induction with
  | base => exact List.prefix_rfl
  | succ m _ ih =>
    rw [after_succ]
    exact ih.trans (List.prefix_append _ _)

/-- **Any steps can be continued fairly**: afterwards every step comes again and again. -/
theorem exists_fair (task : PeriodicTask) (steps : List TaskStep) :
    ∃ schedule, (List.range steps.length).map schedule = steps ∧ Fair task schedule := by
  obtain ⟨enumeration, hall⟩ := exists_surjective_nat TaskStep
  refine ⟨fun n => steps.getD n (enumeration n.unpair.1), ?_, fun s _ n => ?_⟩
  · exact List.ext_getElem (by simp) fun n _ hn => by simp [hn]
  · obtain ⟨code, rfl⟩ := hall s
    have hlate : max steps.length n ≤ Nat.pair code (max steps.length n) := Nat.right_le_pair _ _
    refine ⟨Nat.pair code (max steps.length n), by omega, .inl ?_⟩
    beta_reduce
    rw [List.getD_eq_getElem?_getD, List.getElem?_eq_none (by omega), Option.getD_none, Nat.unpair_pair]

/-- **A stage that ends with a step that is due ends sooner or later**: if a task in the stage stays in it
or goes on, and goes on when the step is taken, then it goes on. -/
theorem Fair.leadsTo (hfair : Fair (start seconds) schedule) (hdue : s.Due)
    {P Q : PeriodicTask → List TaskEvent → Prop}
    (hbusy : ∀ task events, Follows task events → P task events → ¬ task.Idle s)
    (hnext : ∀ {task task' events more s'}, Follows task events → Move task s' task' more →
      P task events → Q task' (events ++ more) ∨ P task' (events ++ more) ∧ s' ≠ s)
    {n : Nat} (hP : P ((start seconds).after schedule n).1 ((start seconds).after schedule n).2) :
    ∃ m, n ≤ m ∧ Q ((start seconds).after schedule m).1 ((start seconds).after schedule m).2 := by
  obtain ⟨m, hm, hstep⟩ := hfair s hdue n
  have hmoves := fun k => hnext (follows_run seconds ((List.range k).map schedule))
    (move_step ((start seconds).after schedule k).1 (schedule k))
  -- the stage lasts until the step is taken, unless it has ended before
  have hlasts : (∃ k, n ≤ k ∧ Q ((start seconds).after schedule k).1 ((start seconds).after schedule k).2) ∨
      P ((start seconds).after schedule m).1 ((start seconds).after schedule m).2 := by
    clear hstep
    induction m, hm using Nat.le_induction with
    | base => exact .inr hP
    | succ m hm ih =>
      rcases ih with hended | hstage
      · exact .inl hended
      · rw [after_succ]
        rcases hmoves m hstage with hQ | ⟨hstage', -⟩
        · exact .inl ⟨m + 1, by omega, by rw [after_succ]; exact hQ⟩
        · exact .inr hstage'
  rcases hlasts with hended | hstage
  · exact hended
  · rcases hmoves m hstage with hQ | ⟨-, hne⟩
    · exact ⟨m + 1, by omega, by rw [after_succ]; exact hQ⟩
    · rcases hstep with htaken | hidle
      · exact absurd htaken hne
      · exact absurd hidle (hbusy _ _ (follows_run seconds _) hstage)

/-- A request that the worker has before it is answered sooner or later. -/
theorem Fair.answered_of_pending (hfair : Fair (start seconds) schedule) {n : Nat}
    (hcall : ((start seconds).after schedule n).1.Pending call) :
    ∃ m, n ≤ m ∧ call ∈ ((start seconds).after schedule m).1.answers.map (·.call) := by
  induction hrank : ((start seconds).after schedule n).1.rank call using Nat.strong_induction_on
    generalizing n with
  | h k ih =>
    obtain ⟨m, hm, hnext⟩ := hfair.leadsTo (Worker.due_nextStep _)
      (P := fun task _ => task.Pending call ∧ task.rank call = k ∧
        task.worker = ((start seconds).after schedule n).1.worker)
      (Q := fun task _ => call ∈ task.answers.map (·.call) ∨ task.Pending call ∧ task.rank call < k)
      (fun task events hfollows ⟨hpending, _, hworker⟩ =>
        hworker ▸ hpending.not_idle hfollows.waiting)
      (fun hfollows hmove ⟨hpending, hk, hworker⟩ => by
        rcases hmove.pending_next hpending hfollows.waiting with hon | ⟨hstays, hkeeps, hsame, hne⟩
        · exact .inl (hk ▸ hon)
        · exact .inr ⟨⟨hstays, hkeeps.trans hk, hsame.trans hworker⟩, hworker ▸ hne⟩)
      (⟨hcall, hrank, rfl⟩)
    rcases hnext with hanswered | ⟨hpending, hless⟩
    · exact ⟨m, hm, hanswered⟩
    · obtain ⟨m', hm', hanswered⟩ := ih _ hless hpending rfl
      exact ⟨m', hm.trans hm', hanswered⟩

/-- A call that has an answer returns sooner or later. -/
theorem Fair.returned_of_answered (hfair : Fair (start seconds) schedule) {n : Nat}
    (hcall : call ∈ ((start seconds).after schedule n).1.answers.map (·.call)) :
    ∃ m, n ≤ m ∧ call ∈ returnedIn ((start seconds).after schedule m).2 :=
  hfair.leadsTo (s := .receive call) trivial
    (P := fun task _ => call ∈ task.answers.map (·.call))
    (Q := fun _ events => call ∈ returnedIn events)
    (fun _ _ _ hcall hidle => hidle hcall)
    (fun _ hmove hcall => (hmove.answered_next hcall).imp_left fun h => by simp [h])
    hcall

/-- A call that was admitted comes before the worker or returns, sooner or later. -/
theorem Fair.pending_of_admitted (hfair : Fair (start seconds) schedule) {n : Nat}
    (hcall : call ∈ ((start seconds).after schedule n).1.admitted) :
    ∃ m, n ≤ m ∧ (((start seconds).after schedule m).1.Pending call ∨
      call ∈ returnedIn ((start seconds).after schedule m).2) :=
  hfair.leadsTo (s := .send call) trivial
    (P := fun task _ => call ∈ task.admitted)
    (Q := fun task events => task.Pending call ∨ call ∈ returnedIn events)
    (fun _ _ _ hcall hidle => hidle hcall)
    (fun _ hmove hcall => (hmove.admitted_next hcall).imp_left fun h =>
      h.imp_right fun h => by simp [h])
    hcall

/-- **Every call returns sooner or later.** -/
theorem Fair.returned_of_asked (hfair : Fair (start seconds) schedule) {n : Nat}
    (hcall : call ∈ askedIn ((start seconds).after schedule n).2) :
    ∃ m, n ≤ m ∧ call ∈ returnedIn ((start seconds).after schedule m).2 := by
  have hpending : ∀ m, n ≤ m → ((start seconds).after schedule m).1.Pending call →
      ∃ m, n ≤ m ∧ call ∈ returnedIn ((start seconds).after schedule m).2 := by
    intro m hm h
    obtain ⟨m₁, hm₁, hanswered⟩ := hfair.answered_of_pending h
    obtain ⟨m₂, hm₂, hreturned⟩ := hfair.returned_of_answered hanswered
    exact ⟨m₂, by omega, hreturned⟩
  have hplace := (follows_run seconds ((List.range n).map schedule)).balanced.accounts.mem_iff.1 hcall
  simp only [inFlight, List.mem_append] at hplace
  rcases hplace with (((hadmitted | hwaiting) | hserving) | hanswered) | hreturned
  · obtain ⟨m, hm, hpend | hreturned⟩ := hfair.pending_of_admitted hadmitted
    · exact hpending m hm hpend
    · exact ⟨m, hm, hreturned⟩
  · exact hpending n le_rfl (.inl hwaiting)
  · refine hpending n le_rfl (.inr ?_)
    change call ∈ ((start seconds).after schedule n).1.worker.call?.toList at hserving
    cases hworker : ((start seconds).after schedule n).1.worker <;>
      simp_all [Worker.call?]
  · exact hfair.returned_of_answered hanswered
  · exact ⟨n, le_rfl, hreturned⟩

/-! ### The protocol -/

/-- What calls, exports and answers are to one another, as far as can be seen. -/
structure KeepsProtocol (events : List TaskEvent) : Prop where
  /-- No two calls are the same. -/
  distinct : (askedIn events).Nodup
  /-- Only calls that were made return. -/
  asked : ∀ call, results call events ≠ [] → call ∈ askedIn events
  /-- A call returns at most once. -/
  once : ∀ call, (results call events).length ≤ 1
  /-- A call returns without a fault only after an export for it, which came after its request was sent. -/
  served : EachAfter (fun before event => ∀ call, event = .returned call (.ok ()) → Served call before)
    events
  /-- At most one call for a shutdown returns without a fault. -/
  shutdown : ∀ call other, call.request = .shutdown → other.request = .shutdown →
    .returned call (.ok ()) ∈ events → .returned other (.ok ()) ∈ events → call = other
  /-- Nothing is exported after the export for a shutdown. -/
  last : ∀ before later call, call.request = .shutdown →
    events = before ++ .exported (some call) :: later → ∀ cause, .exported cause ∉ later
  /-- A call that was not served by the time of the export for a shutdown, whether its request waited then or it
  was made later, does not return without a fault. -/
  late : ∀ before later call, call.request = .shutdown →
    events = before ++ .exported (some call) :: later →
    ∀ other, .returned other (.ok ()) ∈ events → other = call ∨ .exported (some other) ∈ before

/-- A call that returned without a fault was exported for. -/
theorem Sound.exported_of_returned (h : Sound task events) (hreturned : .returned call (.ok ()) ∈ events) :
    .exported (some call) ∈ events := by
  obtain ⟨before, later, rfl⟩ := List.append_of_mem hreturned
  exact List.mem_append_left _ (h.returned before _ later rfl call rfl).exported_mem

/-- Nothing is exported after the export for a shutdown. -/
theorem Closing.not_exported (h : Closing task events) {before later : List TaskEvent}
    (hrequest : call.request = .shutdown) (hsplit : events = before ++ .exported (some call) :: later)
    (cause : Option TaskCall) : .exported cause ∉ later := by
  intro hcause
  obtain ⟨between, after, rfl⟩ := List.append_of_mem hcause
  exact h.last (before ++ .exported (some call) :: between) _ after (by simp [hsplit]) cause rfl
    call hrequest (by simp)

/-- What is exported when there was an export for a shutdown. -/
theorem Closing.exported_cases (h : Closing task events) {before later : List TaskEvent}
    (hrequest : call.request = .shutdown) (hsplit : events = before ++ .exported (some call) :: later)
    {other : TaskCall} (hother : .exported (some other) ∈ events) :
    other = call ∨ .exported (some other) ∈ before := by
  have hlast := h.not_exported hrequest hsplit (some other)
  simp only [hsplit, List.mem_append, List.mem_cons, TaskEvent.exported.injEq, Option.some.injEq] at hother
  tauto

theorem Follows.keepsProtocol (h : Follows task events) : KeepsProtocol events where
  distinct := h.balanced.nodup_askedIn
  asked call hresults := by
    have hcount : 0 < (returnedIn events).count call := by
      rw [← length_results]
      exact List.length_pos_iff.2 hresults
    exact h.balanced.accounts.mem_iff.2 (List.mem_append_right _ (List.count_pos_iff.1 hcount))
  once call := by
    rw [length_results]
    exact List.nodup_iff_count_le_one.1 (List.nodup_append.1 h.balanced.nodup).2.1 call
  served := h.sound.returned
  shutdown call other hcall hother hreturned hreturned' := by
    obtain ⟨before, later, hsplit⟩ := List.append_of_mem (h.sound.exported_of_returned hreturned)
    rcases h.closing.exported_cases hcall hsplit (h.sound.exported_of_returned hreturned')
      with rfl | hbefore
    · rfl
    · exact absurd hbefore (h.closing.last before _ later hsplit _ rfl other hother)
  last _ _ _ hrequest hsplit := h.closing.not_exported hrequest hsplit
  late _ _ _ hrequest hsplit _ hreturned :=
    h.closing.exported_cases hrequest hsplit (h.sound.exported_of_returned hreturned)

/-- **The protocol of a periodic task.**  Whatever steps handles, the worker and the clock take, in
whatever order, what is seen of them keeps to the protocol; and when no step that is due is put off forever,
every call that is made returns, once and for all, with one result. -/
theorem keepsProtocol_and_returns (seconds : Nat) :
    (∀ steps, KeepsProtocol ((start seconds).run steps).2) ∧
      ∀ schedule, Fair (start seconds) schedule →
        ∀ n call, call ∈ askedIn ((start seconds).after schedule n).2 →
          ∃ m, ∀ k, m ≤ k → ∃ result, results call ((start seconds).after schedule k).2 = [result] := by
  refine ⟨fun steps => (follows_run seconds steps).keepsProtocol, fun schedule hfair n call hcall => ?_⟩
  obtain ⟨m, -, hreturned⟩ := hfair.returned_of_asked hcall
  refine ⟨m, fun k hk => List.length_eq_one_iff.1 (le_antisymm ?_ ?_)⟩
  · exact (follows_run seconds ((List.range k).map schedule)).keepsProtocol.once call
  · have hstill : call ∈ returnedIn ((start seconds).after schedule k).2 :=
      ((events_after_mono _ schedule hk).filterMap _).subset hreturned
    rw [length_results]
    exact List.count_pos_iff.2 hstill

/-- A handle asks for a last export, and another one for an export behind it in the queue. -/
def queuedBehind : List TaskStep :=
  [.ask .shutdown, .ask .flush, .send ⟨0, .shutdown⟩, .send ⟨1, .flush⟩]

/-- However fairly that goes on, both calls return. -/
theorem keepsProtocol_and_returns_queuedBehind :
    ∃ schedule, (List.range 4).map schedule = queuedBehind ∧ Fair (start 60) schedule ∧
      ∀ call ∈ [(⟨0, .shutdown⟩ : TaskCall), ⟨1, .flush⟩],
        ∃ m, ∀ k, m ≤ k → ∃ result, results call ((start 60).after schedule k).2 = [result] := by
  obtain ⟨schedule, hsteps, hfair⟩ := exists_fair (start 60) queuedBehind
  refine ⟨schedule, hsteps, hfair, fun call hcall => ?_⟩
  refine (keepsProtocol_and_returns 60).2 schedule hfair 4 call ?_
  rw [after, show (List.range 4).map schedule = queuedBehind from hsteps]
  exact (show askedIn ((start 60).run queuedBehind).2 = [⟨0, .shutdown⟩, ⟨1, .flush⟩] by decide) ▸ hcall

end PeriodicTask

end Telemetry
