import Rawfile.VolumeManager

/-! `utils/task_manager.py`: background tasks with a record on disk, the worker
that retries them, recovery at start and shutdown. The executor's part of
running a task is modelled with it. -/

namespace Rawfile
open Effects Program
namespace TaskManager

variable (config : DriverConfig)

/-- The filter of `get_tasks(retriable=True)`. -/
def retriable (info : TaskInfo) : Bool :=
  info.retryCount < config.maxRetry && info.state = .failed

/-- The filter of `get_tasks(retriable=False)`, which looks at no state. -/
def exhausted (info : TaskInfo) : Bool := config.maxRetry ≤ info.retryCount

def inState (state : TaskState) (info : TaskInfo) : Bool := info.state = state

def getTasks (keep : TaskInfo → Bool) : Driver (List (TaskId × TaskInfo)) := do
  pure ((← Driver.task .getTasks).filter (fun entry => keep entry.2))

def getTask (id : TaskId) : Driver (Option TaskInfo) := do
  pure (((← Driver.task .getTasks).find? (fun entry => entry.1 = id)).map Prod.snd)

def doneCallback (id : TaskId) : Driver Unit := do
  match ← Driver.task (.popTask id) with
  | none => pure ()
  | some future => do
    match ← Driver.task (.exception future) with
    | none => Driver.task (.setState future .completed)
    | some error => do
      Driver.task (.countFailure future)
      Driver.task (.setLastError future error.message)
      Driver.task (.setState future .failed)
    Driver.task (.saveInfo id future)

/-- A future logs what its callback raises and goes on. -/
def invokeCallback (id : TaskId) : Driver Unit := (doneCallback id).tryExcept fun _ => pure ()

/-- The record `run_task_ext` starts from: a retry keeps the count and the last error. -/
def pendingInfo (call : TaskCall) (retry : Bool) (current : Option TaskInfo) : TaskInfo where
  call := call
  retryCount := (current.map TaskInfo.retryCount).getD (-1)
  state := .pending
  lastError := if retry then current.bind TaskInfo.lastError else none

/-- From submitting the task to handing its future over. -/
def launch (id : TaskId) (info : TaskInfo) : Driver TaskId := do
  Driver.task (.saveTask id info)
  let future ← Driver.task (.submit info.call)
  let running := { info with state := .running }
  Driver.task (.saveTask id running)
  Driver.task (.register id future running)
  if ← Driver.task (.addDoneCallback future id) then invokeCallback id
  pure id

def runTaskExt (call : TaskCall) (retry : Bool) : Driver TaskId := do
  if ← Driver.task .isShuttingDown then raise .taskManagerShuttingDown
  else
    let id := hashTaskInfo call
    let current ← getTask id
    if !retry && current.isSome then pure id
    else launch id (pendingInfo call retry current)

def runTask (call : TaskCall) : Driver TaskId := runTaskExt call false

/-- `task_mapping` -/
def taskBody : TaskCall → Driver Unit
  | .createVolume args => VolumeManager.createVolume config args
  | .createSnapshot args => do
    let _ ← SnapshotManager.createSnapshot config args
    pure ()

/-- An executor thread working on a future. -/
def runFuture (future : Nat) (call : TaskCall) : Driver Unit := do
  if ← Driver.task (.begin future) then
    let outcome ← (taskBody config call).attempt
    let error := match outcome with
      | .ok _ => none
      | .error error => some error
    match ← Driver.task (.finish future error) with
    | some id => invokeCallback id
    | none => pure ()
  else pure ()

/-- What `start` makes of a record that a crash left running. -/
def recovered (info : TaskInfo) : TaskInfo :=
  { info with state := .failed, retryCount := if 0 < info.retryCount then info.retryCount - 1 else info.retryCount }

def start : Driver Unit := do
  forEach (← getTasks (inState .running)) fun entry => Driver.task (.saveTask entry.1 (recovered entry.2))
  Driver.task .startWorker

def retryAll : Driver Unit := do
  forEach (← getTasks (retriable config)) fun entry => do
    let _ ← runTaskExt entry.2.call true
    pure ()

def removeAll (keep : TaskInfo → Bool) : Driver Unit := do
  forEach (← getTasks keep) fun entry => Driver.task (.removeTask entry.1)

/-- One turn of `retry_worker`. -/
def workerRound : Driver Unit := do
  (do
    retryAll config
    removeAll (exhausted config)
    removeAll (inState .completed)).tryExcept fun _ => pure ()
  Driver.task .endRound

/-- `{k: v for k, v in self._tasks.items() if v["future"].running()}`; at most
`size` entries are visited before the iteration ends or raises. -/
def stillRunning (size : Nat) : Nat → List (TaskId × Nat) → Driver (List (TaskId × Nat))
  | 0, visited => do
    let _ ← Driver.task (.nextItem visited size)
    pure []
  | more + 1, visited => do
    match ← Driver.task (.nextItem visited size) with
    | none => pure []
    | some entry => do
      let isRunning ← Driver.task (.isRunning entry.2)
      let rest ← stillRunning size more (visited ++ [entry])
      pure (if isRunning then entry :: rest else rest)

/-- The loop of `shutdown`, with the number of times the clock lets it turn. -/
def pollRunning : Nat → List (TaskId × Nat) → Driver (List (TaskId × Nat))
  | 0, toKill => pure toKill
  | turns + 1, toKill => do
    if (← Driver.task .count) = 0 then pure toKill
    else
      let size ← Driver.task .count
      pollRunning turns (← stillRunning size size [])

def cancelQueued : Nat → Driver Unit
  | 0 => pure ()
  | more + 1 => do
    match ← Driver.task .cancelNext with
    | some id => invokeCallback id
    | none => pure ()
    cancelQueued more

def shutdown : Driver Unit := do
  Driver.task .setShuttingDown
  let turns ← Driver.ask .polls
  let toKill ← pollRunning turns []
  forEach toKill fun entry => do
    Driver.task (.setState entry.2 .failed)
    Driver.task (.saveInfo entry.1 entry.2)
  cancelQueued (← Driver.task .closeExecutor)

end TaskManager
end Rawfile
