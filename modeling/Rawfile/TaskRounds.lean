import Rawfile.TaskStore
import Rawfile.Types

/-! What `start` and the worker of `task_manager.py` do with the stored map, each
`get_tasks` on the map it finds. -/

namespace Rawfile
open Effects

def TaskState.value : TaskState → String
  | .pending => "Pending"
  | .running => "Running"
  | .failed => "Failed"
  | .completed => "Completed"

namespace TaskStore

section
variable (isIso : String → Bool) (maxRetry : Int)

def tasksOf (state : Option TaskState) (retriable : Option Bool) (stored : Stored) :
    Except StoreError (List (String × List (String × InfoValue))) :=
  getTasks isIso maxRetry (state.map TaskState.value) retriable stored

/-- A task that was running is marked as failed. Its count goes down by one if it
is positive; a missing count is taken for a positive one. -/
def recover (record : List (String × InfoValue)) : Except StoreError (List (String × InfoValue)) :=
  let task := Dict.set "state" (.json (.str TaskState.failed.value)) record
  match record.lookup "retry_count" with
  | some (.json (.int count)) =>
    .ok (if count > 0 then Dict.set "retry_count" (.json (.int (count - 1))) task else task)
  | some _ => .error .type
  | none => if maxRetry + 1 > 0 then .error (.key "retry_count") else .ok task

def recoverAll (now : String) : List (String × List (String × InfoValue)) → Stored → Except StoreError Stored
  | [], stored => .ok stored
  | (id, record) :: rest, stored => do
    let task ← recover maxRetry record
    recoverAll now rest (Dict.set id (encodeTask (Dict.set "saved_ts" (.datetime now) task)) stored)

def start (now : String) (stored : Stored) : Except StoreError Stored := do
  recoverAll maxRetry now (← tasksOf isIso maxRetry (some .running) none stored) stored

def runAll (md5 : List Char → String) :
    List (String × List (String × InfoValue)) → Except StoreError (List (String × String))
  | [] => .ok []
  | (id, record) :: rest => do pure ((id, ← retriedId md5 record) :: (← runAll md5 rest))

/-- The tasks `retry_all` runs. -/
def retryAll (md5 : List Char → String) (stored : Stored) : Except StoreError (List (String × String)) := do
  runAll md5 (← tasksOf isIso maxRetry none (some true) stored)

def removeAll : List String → Stored → Except StoreError Stored
  | [], stored => .ok stored
  | id :: rest, stored => do removeAll rest (← pop id stored)

def sweep (stored : Stored) : Except StoreError Stored := do
  let exhausted ← tasksOf isIso maxRetry none (some false) stored
  let stored ← removeAll (exhausted.map Prod.fst) stored
  let completed ← tasksOf isIso maxRetry (some .completed) none stored
  removeAll (completed.map Prod.fst) stored

end
end TaskStore
end Rawfile
