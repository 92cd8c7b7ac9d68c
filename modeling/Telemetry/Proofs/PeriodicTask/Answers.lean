import Mathlib.Tactic
import Telemetry.Stats.PeriodicTask

/-!
# What a periodic task answers

Steps of handles and of the worker come in any order.  `PeriodicTask.Move` lists what a step can do, and
three invariants say how the task agrees with what was seen of the steps before:

* `Balanced` — the calls that were made are those that have not returned and those that have, each of
  them once;
* `Sound` — the worker exports for a call only after its request was sent, and a call that returns without
  a fault does so after that export;
* `Closing` — after an export for a shutdown the worker takes no more requests, and exports no more.

Each move keeps them, so they hold along every run.
-/

namespace Telemetry

/-! ### What was seen -/

namespace TaskEvent

/-- The call that was made. -/
@[simp]
def asked? : TaskEvent → Option TaskCall
  | .asked call => some call
  | .sent _ | .exported _ | .returned _ _ => none

/-- The call that returned. -/
@[simp]
def returned? : TaskEvent → Option TaskCall
  | .returned call _ => some call
  | .asked _ | .sent _ | .exported _ => none

/-- The calls that were made, in order. -/
def askedIn (events : List TaskEvent) : List TaskCall := events.filterMap asked?

/-- The calls that returned, in order. -/
def returnedIn (events : List TaskEvent) : List TaskCall := events.filterMap returned?

/-- The worker exported for the call, and the request had been sent before. -/
def Served (call : TaskCall) (events : List TaskEvent) : Prop :=
  ∃ before between later,
    events = before ++ .sent call :: between ++ .exported (some call) :: later

/-- Each event is related to the events before it. -/
def EachAfter (R : List TaskEvent → TaskEvent → Prop) (events : List TaskEvent) : Prop :=
  ∀ before event later, events = before ++ event :: later → R before event

variable {R : List TaskEvent → TaskEvent → Prop} {events more : List TaskEvent} {call : TaskCall}

@[simp] theorem askedIn_nil : askedIn [] = [] := rfl

@[simp] theorem askedIn_cons (event : TaskEvent) (events : List TaskEvent) :
    askedIn (event :: events) = event.asked?.toList ++ askedIn events := by
  cases event <;> rfl

@[simp] theorem askedIn_append (events more : List TaskEvent) :
    askedIn (events ++ more) = askedIn events ++ askedIn more := List.filterMap_append

@[simp] theorem returnedIn_nil : returnedIn [] = [] := rfl

@[simp] theorem returnedIn_cons (event : TaskEvent) (events : List TaskEvent) :
    returnedIn (event :: events) = event.returned?.toList ++ returnedIn events := by
  cases event <;> rfl

@[simp] theorem returnedIn_append (events more : List TaskEvent) :
    returnedIn (events ++ more) = returnedIn events ++ returnedIn more := List.filterMap_append

theorem Served.append (h : Served call events) (more : List TaskEvent) :
    Served call (events ++ more) := by
  obtain ⟨before, between, later, rfl⟩ := h
  exact ⟨before, between, later ++ more, by simp⟩

theorem Served.exported_mem (h : Served call events) : .exported (some call) ∈ events := by
  obtain ⟨before, between, later, rfl⟩ := h
  simp

/-- An export for a call whose request was sent. -/
theorem served_of_sent (h : .sent call ∈ events) :
    Served call (events ++ [.exported (some call)]) := by
  obtain ⟨before, between, rfl⟩ := List.append_of_mem h
  exact ⟨before, between, [], by simp⟩

@[simp] theorem eachAfter_nil : EachAfter R [] := fun before _ _ h => by simp at h

@[simp] theorem eachAfter_cons {event : TaskEvent} :
    EachAfter R (event :: events) ↔ R [] event ∧ EachAfter (fun before => R (event :: before)) events := by
  constructor
  · exact fun h => ⟨h [] _ _ rfl, fun before other later hsplit =>
      h (event :: before) other later (by rw [hsplit, List.cons_append])⟩
  · rintro ⟨hfirst, hrest⟩ (_ | ⟨first, before⟩) other later hsplit
    · cases hsplit
      exact hfirst
    · cases hsplit
      exact hrest before other later rfl

theorem EachAfter.append (h : EachAfter R events)
    (hmore : EachAfter (fun before => R (events ++ before)) more) : EachAfter R (events ++ more) := by
  induction events generalizing R with
  | nil => simpa using hmore
  | cons event events ih =>
    rw [eachAfter_cons] at h
    rw [List.cons_append, eachAfter_cons]
    exact ⟨h.1, ih h.2 hmore⟩

end TaskEvent

namespace PeriodicTask

open TaskEvent

variable {task task' : PeriodicTask} {s : TaskStep} {events more : List TaskEvent}

/-! ### What a step can do -/

/-- There is nothing to do for the step. -/
def Idle (task : PeriodicTask) : TaskStep → Prop
  | .ask _ => task.abandoned = true
  | .send call => call ∉ task.admitted
  | .take => task.worker = .running → task.waiting = [] ∧ task.abandoned = false
  | .finish => task.worker.call? = none
  | .timeout => task.worker ≠ .running
  | .depart => task.worker ≠ .leaving
  | .receive call => call ∉ task.answers.map (·.call)
  | .abandon => task.inFlight ≠ []

/-- **What a step can do**: when, what becomes of the task, and what is seen. -/
inductive Move (task : PeriodicTask) : TaskStep → PeriodicTask → List TaskEvent → Prop
  /-- There is nothing to do for the step. -/
  | idle {s : TaskStep} (h : task.Idle s) : Move task s task []
  /-- The call finds the task shut down. -/
  | refused {request : TaskRequest} (hopen : task.abandoned = false) (h : task.shutDown = true) :
      Move task (.ask request) { task with calls := task.calls + 1 }
        [.asked ⟨task.calls, request⟩, .returned ⟨task.calls, request⟩ (.error .shutDown)]
  /-- The call finds the task running. -/
  | admitted {request : TaskRequest} (hopen : task.abandoned = false) (h : task.shutDown = false) :
      Move task (.ask request)
        { task with calls := task.calls + 1, admitted := task.admitted ++ [⟨task.calls, request⟩] }
        [.asked ⟨task.calls, request⟩]
  /-- The worker is gone before the request is sent. -/
  | unsent {call : TaskCall} (h : call ∈ task.admitted) (hgone : task.worker = .gone) :
      Move task (.send call) { task with admitted := task.admitted.erase call }
        [.returned call (.error .workerGone)]
  /-- The request is sent. -/
  | sent {call : TaskCall} (h : call ∈ task.admitted) (hgone : task.worker ≠ .gone) :
      Move task (.send call)
        { task with admitted := task.admitted.erase call, waiting := task.waiting ++ [call] }
        [.sent call]
  /-- The worker takes the oldest request. -/
  | taken {call : TaskCall} {rest : List TaskCall} (hworker : task.worker = .running)
      (hwaiting : task.waiting = call :: rest) :
      Move task .take { task with worker := .serving call, waiting := rest } []
  /-- There is no request and no handle any more. -/
  | disconnected (hworker : task.worker = .running) (hwaiting : task.waiting = [])
      (habandoned : task.abandoned = true) : Move task .take { task with worker := .leaving } []
  /-- The worker has exported for a call. -/
  | finished {call : TaskCall} (hworker : task.worker = .serving call) :
      Move task .finish
        { task with
          worker := if call.request = .shutdown then .leaving else .running
          answers := ⟨call, true⟩ :: task.answers }
        [.exported (some call)]
  /-- The worker exports because the interval is over. -/
  | elapsed (hworker : task.worker = .running) : Move task .timeout task [.exported none]
  /-- The worker is gone. -/
  | departed (hworker : task.worker = .leaving) :
      Move task .depart
        { task with
          worker := .gone
          waiting := []
          answers := task.waiting.map (fun call => ⟨call, false⟩) ++ task.answers }
        []
  /-- The call returns with an answer. -/
  | received {answer : TaskAnswer} (h : answer ∈ task.answers) :
      Move task (.receive answer.call)
        { task with
          shutDown := task.shutDown || (answer.served && answer.call.request = .shutdown)
          answers := task.answers.erase answer }
        [.returned answer.call answer.result]
  /-- The last handle is dropped. -/
  | abandoned (h : task.inFlight = []) : Move task .abandon { task with abandoned := true } []

/-- **Every step is a move.** -/
theorem move_step (task : PeriodicTask) (s : TaskStep) :
    Move task s (task.step s).1 (task.step s).2 := by
  cases s with
  | ask request =>
    show Move task _ (task.ask request).1 (task.ask request).2
    unfold ask
    dsimp only
    split
    next habandoned => exact .idle habandoned
    next habandoned =>
      have hopen : task.abandoned = false := by simpa using habandoned
      split
      next h => exact .refused hopen h
      next h => exact .admitted hopen (by simpa using h)
  | send call =>
    show Move task _ (task.send call).1 (task.send call).2
    unfold send
    split
    next h =>
      dsimp only
      split
      next hgone => exact .unsent h hgone
      next hgone => exact .sent h hgone
    next h => exact .idle h
  | take =>
    show Move task _ task.take []
    unfold take
    split
    next hworker hwaiting => exact .taken hworker hwaiting
    next hworker hwaiting =>
      split
      next h => exact .disconnected hworker hwaiting h
      next h => exact .idle fun _ => ⟨hwaiting, by simpa using h⟩
    next hcons hnil =>
      refine .idle fun hworker => ?_
      cases hwaiting : task.waiting with
      | nil => exact absurd hwaiting (hnil hworker)
      | cons call rest => exact absurd hwaiting (hcons call rest hworker)
  | finish =>
    show Move task _ task.finish.1 task.finish.2
    unfold finish
    split
    next hworker => exact .finished hworker
    next hworker =>
      refine .idle ?_
      cases h : task.worker with
      | serving call => exact absurd h (hworker call)
      | _ => simp only [Idle, h, Worker.call?]
  | timeout =>
    show Move task _ task (if task.worker = .running then [.exported none] else [])
    split
    next hworker => exact .elapsed hworker
    next hworker => exact .idle hworker
  | depart =>
    show Move task _ task.depart []
    unfold depart
    split
    next hworker => exact .departed hworker
    next hworker => exact .idle hworker
  | receive call =>
    show Move task _ (task.receive call).1 (task.receive call).2
    unfold receive
    split
    next answer hanswer =>
      have hcall := List.find?_some hanswer
      rw [← decide_eq_true_iff.1 hcall]
      exact .received (List.mem_of_find?_eq_some hanswer)
    next h => exact .idle (by simpa [Idle] using h)
  | abandon =>
    show Move task _ (if task.inFlight = [] then { task with abandoned := true } else task) []
    split
    next h => exact .abandoned h
    next h => exact .idle h

/-! ### Runs -/

theorem run_concat (task : PeriodicTask) (steps : List TaskStep) (s : TaskStep) :
    task.run (steps ++ [s]) =
      (((task.run steps).1.step s).1, (task.run steps).2 ++ ((task.run steps).1.step s).2) := by
  rw [run, List.foldl_append]
  rfl

/-! ### Each call returns at most once -/

/-- What is left of the worker's call once it is served: nothing. -/
theorem call?_afterServing (call : TaskCall) :
    (if call.request = .shutdown then Worker.leaving else .running).call? = none := by
  split <;> rfl

/-- **No call is lost and none returns twice**: what is in flight after a move, and what returned by it, is
what was in flight before and what was asked by it. -/
theorem Move.inFlight_perm (h : Move task s task' more) :
    (task'.inFlight ++ returnedIn more).Perm (task.inFlight ++ askedIn more) := by
  rw [List.perm_iff_count]
  intro other
  simp only [inFlight, List.count_append]
  cases h with
  | idle h => simp
  | refused hopen h => simp
  | admitted hopen h =>
    simp only [List.count_append, askedIn_cons, returnedIn_cons, asked?, returned?, Option.toList,
      askedIn_nil, returnedIn_nil, List.count_nil]
    omega
  | unsent h hgone =>
    have hcount := (List.perm_cons_erase h).count_eq other
    simp only [List.count_append, askedIn_cons, returnedIn_cons, asked?, returned?, Option.toList,
      askedIn_nil, returnedIn_nil, List.count_cons, List.count_nil] at hcount ⊢
    omega
  | sent h hgone =>
    have hcount := (List.perm_cons_erase h).count_eq other
    simp only [List.count_append, askedIn_cons, returnedIn_cons, asked?, returned?, Option.toList,
      askedIn_nil, returnedIn_nil, List.count_cons, List.count_nil] at hcount ⊢
    omega
  | taken hworker hwaiting =>
    simp only [hworker, hwaiting, Worker.call?, Option.toList, askedIn_nil, returnedIn_nil,
      List.count_cons, List.count_nil]
    omega
  | disconnected hworker => simp [hworker, Worker.call?]
  | @finished call hworker =>
    simp only [hworker, call?_afterServing]
    simp only [Worker.call?, askedIn_cons, returnedIn_cons, asked?, returned?, Option.toList,
      askedIn_nil, returnedIn_nil, List.map_cons, List.count_append, List.count_cons, List.count_nil]
    omega
  | elapsed hworker => simp
  | departed hworker =>
    have hlost : (task.waiting.map fun call => (⟨call, false⟩ : TaskAnswer)).map (·.call) =
        task.waiting := by
      rw [List.map_map]
      exact List.map_id _
    simp only [hworker, Worker.call?, Option.toList, askedIn_nil, returnedIn_nil, List.map_append,
      hlost, List.count_append, List.count_nil]
    omega
  | received h =>
    have hcount := ((List.perm_cons_erase h).map (·.call)).count_eq other
    simp only [List.map_cons, List.count_append, askedIn_cons, returnedIn_cons, asked?, returned?,
      Option.toList, askedIn_nil, returnedIn_nil, List.count_cons, List.count_nil] at hcount ⊢
    omega
  | abandoned h => simp

/-- The calls that were made are those that have not returned and those that have, and no two have the same
ticket. -/
structure Balanced (task : PeriodicTask) (events : List TaskEvent) : Prop where
  /-- Calls are numbered one after the other. -/
  tickets : (askedIn events).map (·.ticket) = List.range task.calls
  /-- A call is in flight until it returns. -/
  accounts : (askedIn events).Perm (task.inFlight ++ returnedIn events)

theorem Balanced.move (hbalanced : Balanced task events) (h : Move task s task' more) :
    Balanced task' (events ++ more) where
  tickets := by
    rw [askedIn_append, List.map_append, hbalanced.tickets]
    cases h <;> simp [List.range_succ]
  accounts := by
    rw [askedIn_append, returnedIn_append]
    calc (askedIn events ++ askedIn more).Perm (task.inFlight ++ returnedIn events ++ askedIn more) :=
          hbalanced.accounts.append_right _
      _ |>.Perm (task.inFlight ++ askedIn more ++ returnedIn events) := by
          rw [List.append_assoc, List.append_assoc]
          exact List.perm_append_comm.append_left _
      _ |>.Perm (task'.inFlight ++ returnedIn more ++ returnedIn events) :=
          h.inFlight_perm.symm.append_right _
      _ |>.Perm (task'.inFlight ++ (returnedIn events ++ returnedIn more)) := by
          rw [List.append_assoc]
          exact List.perm_append_comm.append_left _

/-- The calls that were made differ from one another. -/
theorem Balanced.nodup_askedIn (h : Balanced task events) : (askedIn events).Nodup :=
  List.Nodup.of_map (·.ticket) (h.tickets ▸ List.nodup_range)

/-- A call that returned was made, is in flight no more and returned once. -/
theorem Balanced.nodup (h : Balanced task events) : (task.inFlight ++ returnedIn events).Nodup :=
  h.accounts.nodup_iff.1 h.nodup_askedIn

/-! ### A call is served before it returns -/

/-- The worker has the request of the call before it. -/
def Pending (task : PeriodicTask) (call : TaskCall) : Prop :=
  call ∈ task.waiting ∨ task.worker = .serving call

/-- A request comes before the worker by being sent. -/
theorem Move.sent_or_pending (h : Move task s task' more) {call : TaskCall} (hcall : task'.Pending call) :
    .sent call ∈ more ∨ task.Pending call := by
  cases h with
  | sent h hgone =>
    rcases hcall with hwaiting | hserving
    · rcases List.mem_append.1 hwaiting with hbefore | hnew
      · exact .inr (.inl hbefore)
      · exact .inl (by simpa using hnew)
    · exact .inr (.inr hserving)
  | taken hworker hwaiting =>
    refine .inr (.inl ?_)
    rw [hwaiting]
    rcases hcall with hrest | hserving
    · exact List.mem_cons_of_mem _ hrest
    · cases hserving
      exact List.mem_cons_self
  | disconnected hworker hwaiting habandoned =>
    rcases hcall with hmem | hserving
    · exact .inr (.inl hmem)
    · cases hserving
  | @finished served hworker =>
    rcases hcall with hmem | hserving
    · exact .inr (.inl hmem)
    · have hcall : some call = none :=
        (congrArg Worker.call? hserving).symm.trans (call?_afterServing served)
      cases hcall
  | departed hworker => rcases hcall with hmem | hserving <;> contradiction
  | _ => exact .inr hcall

/-- An answer that says that the request was served is given when it was. -/
theorem Move.finished_or_answered (h : Move task s task' more) {answer : TaskAnswer}
    (hanswer : answer ∈ task'.answers) (hserved : answer.served = true) :
    (task.worker = .serving answer.call ∧ more = [.exported (some answer.call)]) ∨
      answer ∈ task.answers := by
  cases h with
  | finished hworker =>
    rcases List.mem_cons.1 hanswer with rfl | hbefore
    · exact .inl ⟨hworker, rfl⟩
    · exact .inr hbefore
  | departed hworker =>
    rcases List.mem_append.1 hanswer with hlost | hbefore
    · obtain ⟨call, -, rfl⟩ := List.mem_map.1 hlost
      cases hserved
    · exact .inr hbefore
  | received h => exact .inr (List.mem_of_mem_erase hanswer)
  | _ => exact .inr hanswer

theorem result_eq_ok {answer : TaskAnswer} : answer.result = .ok () ↔ answer.served = true := by
  unfold TaskAnswer.result
  split <;> simp_all

/-- A call returns without a fault when it takes the answer that it was served. -/
theorem Move.eachAfter_returned (h : Move task s task' more) :
    EachAfter (fun _ event => ∀ call, event = .returned call (.ok ()) → ⟨call, true⟩ ∈ task.answers)
      more := by
  cases h with
  | @received answer h =>
    rw [eachAfter_cons]
    refine ⟨fun call hreturned => ?_, eachAfter_nil⟩
    simp only [TaskEvent.returned.injEq, result_eq_ok] at hreturned
    rwa [← hreturned.1, ← hreturned.2]
  | _ => simp

/-- The worker exports for a call after its request was sent, and a call that returns without a fault does
so after that export. -/
structure Sound (task : PeriodicTask) (events : List TaskEvent) : Prop where
  /-- The requests that the worker has before it were sent. -/
  sent : ∀ call, task.Pending call → .sent call ∈ events
  /-- What is answered as served was served. -/
  served : ∀ answer ∈ task.answers, answer.served = true → Served answer.call events
  /-- A call that returns without a fault was served. -/
  returned : EachAfter (fun before event => ∀ call, event = .returned call (.ok ()) → Served call before)
    events

theorem Sound.move (hsound : Sound task events) (h : Move task s task' more) :
    Sound task' (events ++ more) where
  sent call hcall := by
    rcases h.sent_or_pending hcall with hmore | hbefore
    · exact List.mem_append_right _ hmore
    · exact List.mem_append_left _ (hsound.sent call hbefore)
  served answer hanswer hserved := by
    rcases h.finished_or_answered hanswer hserved with ⟨hworker, rfl⟩ | hbefore
    · exact served_of_sent (hsound.sent _ (.inr hworker))
    · exact (hsound.served answer hbefore hserved).append more
  returned := hsound.returned.append fun before event later hsplit call hreturned =>
    (hsound.served _ (h.eachAfter_returned before event later hsplit call hreturned) rfl).append before

/-! ### Nothing is exported after a last export -/

/-- The worker exports while it runs or serves a call. -/
theorem Move.busy_of_exported (h : Move task s task' more) {cause : Option TaskCall}
    (hexported : .exported cause ∈ more) :
    more = [.exported cause] ∧ task.worker ≠ .leaving ∧ task.worker ≠ .gone ∧
      ∀ call, cause = some call → call.request = .shutdown → task'.worker = .leaving := by
  cases h with
  | finished hworker =>
    obtain rfl : cause = some _ := by simpa using hexported
    refine ⟨rfl, by simp [hworker], by simp [hworker], ?_⟩
    rintro call ⟨⟩ hrequest
    exact if_pos hrequest
  | elapsed hworker =>
    obtain rfl : cause = none := by simpa using hexported
    exact ⟨rfl, by simp [hworker], by simp [hworker], nofun⟩
  | _ => simp at hexported

/-- A worker that takes no more requests never takes one again. -/
theorem Move.closed (h : Move task s task' more) (hclosed : task.worker = .leaving ∨ task.worker = .gone) :
    task'.worker = .leaving ∨ task'.worker = .gone := by
  cases h with
  | taken hworker => simp [hworker] at hclosed
  | disconnected => exact .inl rfl
  | finished hworker => simp [hworker] at hclosed
  | departed => exact .inr rfl
  | _ => exact hclosed

/-- After an export for a shutdown the worker takes no more requests, and exports no more. -/
structure Closing (task : PeriodicTask) (events : List TaskEvent) : Prop where
  /-- After an export for a shutdown the worker takes no more requests. -/
  closed : ∀ call, call.request = .shutdown → .exported (some call) ∈ events →
    task.worker = .leaving ∨ task.worker = .gone
  /-- Nothing is exported after an export for a shutdown. -/
  last : EachAfter (fun before event => ∀ cause, event = .exported cause →
    ∀ call, call.request = .shutdown → .exported (some call) ∉ before) events

theorem Closing.move (hclosing : Closing task events) (h : Move task s task' more) :
    Closing task' (events ++ more) where
  closed call hrequest hexported := by
    rcases List.mem_append.1 hexported with hbefore | hmore
    · exact h.closed (hclosing.closed call hrequest hbefore)
    · exact .inl ((h.busy_of_exported hmore).2.2.2 call rfl hrequest)
  last := hclosing.last.append fun before event later hsplit cause hcause call hrequest hexported => by
    subst hcause
    have hmem : .exported cause ∈ more := by simp [hsplit]
    obtain ⟨hmore, hleaving, hgone, -⟩ := h.busy_of_exported hmem
    obtain rfl : before = [] := by
      have hlength := congrArg List.length (hsplit.symm.trans hmore)
      simp only [List.length_append, List.length_cons, List.length_nil] at hlength
      exact List.eq_nil_of_length_eq_zero (by omega)
    rw [List.append_nil] at hexported
    rcases hclosing.closed call hrequest hexported with h | h <;> contradiction

/-! ### The whole of a run -/

/-- What holds of a task after any steps, and of what was seen of them. -/
structure Follows (task : PeriodicTask) (events : List TaskEvent) : Prop where
  balanced : Balanced task events
  sound : Sound task events
  closing : Closing task events
  /-- Nothing waits for a worker that is gone. -/
  waiting : task.worker = .gone → task.waiting = []

theorem follows_start (seconds : Nat) : Follows (start seconds) [] where
  balanced := ⟨rfl, List.Perm.refl _⟩
  sound := ⟨by simp [start, Pending], by simp [start], eachAfter_nil⟩
  closing := ⟨by simp, eachAfter_nil⟩
  waiting := by simp [start]

theorem Follows.move (hfollows : Follows task events) (h : Move task s task' more) :
    Follows task' (events ++ more) where
  balanced := hfollows.balanced.move h
  sound := hfollows.sound.move h
  closing := hfollows.closing.move h
  waiting := by
    have hbefore := hfollows.waiting
    cases h with
    | sent h hgone => exact fun hworker => absurd hworker hgone
    | finished hworker =>
      intro h
      split at h <;> cases h
    | departed hworker => exact fun _ => rfl
    | taken | disconnected => nofun
    | _ => exact hbefore

/-- **Every run keeps to this.** -/
theorem follows_run (seconds : Nat) (steps : List TaskStep) :
    Follows ((start seconds).run steps).1 ((start seconds).run steps).2 := by
  induction steps using List.reverseRecOn with
  | nil => exact follows_start seconds
  | append_singleton steps s ih =>
    rw [run_concat]
    exact ih.move (move_step _ s)

end PeriodicTask

end Telemetry
