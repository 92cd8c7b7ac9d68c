import Telemetry.Stats.Manager

/-!
# Periodic exports

A periodic task has a worker, which exports the views of a manager again and again on a thread of its own,
and any number of handles, which ask it for an export at once or for a last export. A call of a handle
looks whether the task is shut down, sends its request, and waits for the answer. Requests wait in a
queue, the oldest first, and the worker answers each one after the export that it asked for. Once a last
export is done the worker leaves: it takes no more requests, those that still wait are lost when it is
gone, and later ones cannot be sent. It leaves without a last export when there is no handle any more.

Handles and worker run beside each other, so the task is described by its single steps: `TaskStep` lists
them, `PeriodicTask.step` takes one, and `PeriodicTask.run` takes a sequence of them in the order in which
they happen to come. A call may find the task running and send its request only after others have shut it
down. `PeriodicTask.call` is the sequence of a call while the worker does nothing else.
-/

namespace Telemetry

/-- What a handle asks for: an export at once, or a last export. -/
inductive TaskRequest where
  | flush
  | shutdown
  deriving DecidableEq, Repr

/-- The word for the request. -/
def TaskRequest.word : TaskRequest → String
  | .flush => "flush"
  | .shutdown => "shutdown"

/-- Why a request fails. -/
inductive TaskFault where
  /-- A handle knows that the last export is done. -/
  | shutDown
  /-- The worker is gone. -/
  | workerGone
  /-- The worker left before it came to the request. -/
  | lost (request : TaskRequest)
  deriving DecidableEq, Repr

/-- The wording of the fault. -/
def TaskFault.message : TaskFault → String
  | .shutDown => "task is already shut down"
  | .workerGone => "sending on a closed channel"
  | .lost request => "failed to " ++ request.word

/-- The fault as the failure of an exporter, which the task is to its handles. -/
def TaskFault.toExportError (fault : TaskFault) : ExportError :=
  ⟨"PeriodicExportTask", fault.message⟩

/-- A call of a handle, with the number of calls that were made before. -/
structure TaskCall where
  ticket : Nat
  request : TaskRequest
  deriving DecidableEq, Repr

/-- What the worker is doing. It waits for requests and exports at intervals, it exports for a call, or it
takes no more requests and then is gone. -/
inductive Worker where
  | running
  | serving (call : TaskCall)
  | leaving
  | gone
  deriving DecidableEq, Repr

/-- The call that the worker exports for. -/
def Worker.call? : Worker → Option TaskCall
  | .running | .leaving | .gone => none
  | .serving call => some call

/-- The answer to the request of a call: whether the worker served it. -/
structure TaskAnswer where
  call : TaskCall
  served : Bool
  deriving DecidableEq, Repr

/-- What the answer says. -/
def TaskAnswer.result (answer : TaskAnswer) : Except TaskFault Unit :=
  if answer.served then .ok () else .error (.lost answer.call.request)

/-- A periodic task, with the number of seconds between exports and the number of calls that were made. -/
structure PeriodicTask where
  interval : Nat
  /-- Whether the handles know that the last export is done. -/
  shutDown : Bool
  /-- Whether there is no handle any more. -/
  abandoned : Bool
  worker : Worker
  calls : Nat
  /-- The calls that found the task running and have not sent their requests yet. -/
  admitted : List TaskCall
  /-- The calls whose requests wait, the oldest first. -/
  waiting : List TaskCall
  /-- The answers that were given and not taken yet, the newest first. -/
  answers : List TaskAnswer
  deriving DecidableEq, Repr

namespace PeriodicTask

/-- The number of seconds between exports of a task that is given no interval. -/
def standardInterval : Nat := 60

/-- A task with the given number of seconds between exports; zero stands for the standard interval. -/
def start (seconds : Nat) : PeriodicTask where
  interval := if seconds = 0 then standardInterval else seconds
  shutDown := false
  abandoned := false
  worker := .running
  calls := 0
  admitted := []
  waiting := []
  answers := []

instance : Inhabited PeriodicTask := ⟨start 0⟩

/-- The calls that have not returned. -/
def inFlight (task : PeriodicTask) : List TaskCall :=
  task.admitted ++ task.waiting ++ task.worker.call?.toList ++ task.answers.map (·.call)

/-- The task as a log shows it. -/
def describe (task : PeriodicTask) : String :=
  "PeriodicExportTask \x7b is_shutdown: " ++ (if task.shutDown then "true" else "false") ++ " \x7d"

end PeriodicTask

/-! ### Steps -/

/-- A step of a call (`ask`, `send`, `receive`), of the worker (`take`, `finish`, `depart`), of the clock
(`timeout`), or of the last handle, which is dropped when no call uses it (`abandon`). -/
inductive TaskStep where
  | ask (request : TaskRequest)
  | send (call : TaskCall)
  | take
  | finish
  | timeout
  | depart
  | receive (call : TaskCall)
  | abandon
  deriving DecidableEq, Repr

/-- What can be seen of a step. An export is for a call, or because the interval was over. -/
inductive TaskEvent where
  | asked (call : TaskCall)
  | sent (call : TaskCall)
  | exported (cause : Option TaskCall)
  | returned (call : TaskCall) (result : Except TaskFault Unit)

namespace PeriodicTask

/-- A handle is called. -/
def ask (task : PeriodicTask) (request : TaskRequest) : PeriodicTask × List TaskEvent :=
  let call : TaskCall := ⟨task.calls, request⟩
  if task.abandoned then (task, [])
  else if task.shutDown then
    ({ task with calls := task.calls + 1 },
      [.asked call, .returned call (.error .shutDown)])
  else
    ({ task with calls := task.calls + 1, admitted := task.admitted ++ [call] }, [.asked call])

/-- A call sends its request, if it found the task running. -/
def send (task : PeriodicTask) (call : TaskCall) : PeriodicTask × List TaskEvent :=
  if call ∈ task.admitted then
    let admitted := task.admitted.erase call
    if task.worker = .gone then
      ({ task with admitted }, [.returned call (.error .workerGone)])
    else ({ task with admitted, waiting := task.waiting ++ [call] }, [.sent call])
  else (task, [])

/-- The worker takes the oldest request. Without requests and handles it leaves. -/
def take (task : PeriodicTask) : PeriodicTask :=
  match task.worker, task.waiting with
  | .running, oldest :: rest => { task with worker := .serving oldest, waiting := rest }
  | .running, [] => if task.abandoned then { task with worker := .leaving } else task
  | _, _ => task

/-- The worker has exported for a call and answers it. After a last export it leaves. -/
def finish (task : PeriodicTask) : PeriodicTask × List TaskEvent :=
  match task.worker with
  | .serving call =>
    ({ task with
        worker := if call.request = .shutdown then .leaving else .running
        answers := ⟨call, true⟩ :: task.answers },
      [.exported (some call)])
  | _ => (task, [])

/-- A leaving worker is gone, and the requests that wait are lost. -/
def depart (task : PeriodicTask) : PeriodicTask :=
  if task.worker = .leaving then
    { task with
      worker := .gone
      waiting := []
      answers := task.waiting.map (fun call => ⟨call, false⟩) ++ task.answers }
  else task

/-- A call takes its answer, if it was given, and returns. With the answer to a last export the handles
know that the task is shut down. -/
def receive (task : PeriodicTask) (call : TaskCall) : PeriodicTask × List TaskEvent :=
  match task.answers.find? (·.call = call) with
  | some answer =>
    ({ task with
        shutDown := task.shutDown || (answer.served && answer.call.request = .shutdown)
        answers := task.answers.erase answer },
      [.returned answer.call answer.result])
  | none => (task, [])

/-- Takes a step and says what can be seen of it. -/
def step (task : PeriodicTask) : TaskStep → PeriodicTask × List TaskEvent
  | .ask request => task.ask request
  | .send call => task.send call
  | .take => (task.take, [])
  | .finish => task.finish
  | .timeout => (task, if task.worker = .running then [.exported none] else [])
  | .depart => (task.depart, [])
  | .receive call => task.receive call
  | .abandon => (if task.inFlight = [] then { task with abandoned := true } else task, [])

/-- Takes steps, one after the other, and collects what can be seen of them. -/
def run (task : PeriodicTask) (steps : List TaskStep) : PeriodicTask × List TaskEvent :=
  steps.foldl
    (fun (task, events) step =>
      let (task, more) := task.step step
      (task, events ++ more))
    (task, [])

/-- The steps of a call while the worker does nothing else: the request is sent and served, the worker goes
if it is leaving, and the answer is taken. -/
def callSteps (task : PeriodicTask) (request : TaskRequest) : List TaskStep :=
  let call : TaskCall := ⟨task.calls, request⟩
  [.ask request, .send call, .take, .finish, .depart, .receive call]

/-- Makes a call while nothing else happens, and exports the views of the manager as often as the worker
does. What is reported by the exports is not reported to the caller. -/
def call (task : PeriodicTask) (request : TaskRequest) (manager : ViewManager)
    (answers : ExporterRef → Except ExportError Unit) (now : Timestamp) :
    Except TaskFault Unit × PeriodicTask × ViewManager :=
  let (task, events) := task.run (task.callSteps request)
  let result := events.findSome? fun
    | .returned _ result => some result
    | _ => none
  let exports := events.countP fun
    | .exported _ => true
    | _ => false
  let exported := exports.repeat (fun m => m.exportAll answers now) manager
  (result.getD (.error (.lost request)), task, { exported with diagnostics := manager.diagnostics })

end PeriodicTask

end Telemetry
