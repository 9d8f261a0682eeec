import Rawfile.TaskManager

/-! The task manager of one process before its shutdown, with `run_task_ext` as
one step. Requests, single operations of the worker and ends of executions come
in any order. -/

namespace Rawfile
open Effects TaskManager

namespace Retries

/-- The three loops of a worker's round. -/
inductive Loop where
  | retrying
  | exhausted
  | completed
  deriving DecidableEq

namespace Loop

/-- The filter of the `get_tasks` the loop runs over. -/
def keep (config : DriverConfig) : Loop → TaskInfo → Bool
  | .retrying => retriable config
  | .exhausted => TaskManager.exhausted config
  | .completed => inState .completed

def body : Loop → TaskId × TaskInfo → Driver Unit
  | .retrying, entry => do
    let _ ← runTaskExt entry.2.call true
    pure ()
  | _, entry => Driver.task (.removeTask entry.1)

def next : Loop → Loop
  | .retrying => .exhausted
  | .exhausted => .completed
  | .completed => .retrying

end Loop

/-- Run to its end while nothing else moves and no access to the store fails. -/
def atomically (program : Driver α) (tasks : Tasks) : Except Err α × Tasks :=
  let (outcome, node) := program.eval (fun operation node => operation.exec 0 {} node) { tasks }
  (outcome, node.tasks)

def ending (future : Nat) (error : Option Err) : Driver Unit := do
  match ← Driver.task (.finish future error) with
  | some id => invokeCallback id
  | none => pure ()

/-- The task manager, the loop of its worker and what is left of it. For the
record of a task: the executions started since it was inserted, and the rounds
since then that found it failed. -/
structure Rounds where
  tasks : Tasks := {}
  loop : Loop := .completed
  rest : List (TaskId × TaskInfo) := []
  started : TaskId → Nat := fun _ => 0
  rounds : TaskId → Nat := fun _ => 0

inductive Moment where
  | request (job : TaskCall)
  | ended (future : Nat) (error : Option Err)
  | work

namespace Rounds

def submitted (id : TaskId) (tasks : Tasks) : Nat := (tasks.futures.map Future.call).count id

def becomes (now : Rounds) (tasks : Tasks) (rest : List (TaskId × TaskInfo)) : Rounds :=
  { now with
    tasks, rest
    started := fun id => (if id ∈ now.tasks.store then now.started id else 0) + (submitted id tasks - submitted id now.tasks)
    rounds := fun id => if id ∈ now.tasks.store then now.rounds id else 0 }

variable (config : DriverConfig)

def lists (loop : Loop) (now : Rounds) : Rounds :=
  { now with
    loop
    rest := now.tasks.listed.filter fun entry => loop.keep config entry.2
    rounds := fun id => now.rounds id +
      if loop = .retrying ∧ (now.tasks.store.lookup id).any (inState .failed) then 1 else 0 }

def works (now : Rounds) (entry : TaskId × TaskInfo) (rest : List (TaskId × TaskInfo)) : Rounds :=
  match atomically (now.loop.body entry) now.tasks with
  | (.ok _, tasks) => now.becomes tasks rest
  | (.error _, tasks) => { now.becomes tasks [] with loop := .completed }

def next (now : Rounds) : Moment → Option Rounds
  | .request job => some (now.becomes (atomically (runTask job) now.tasks).2 now.rest)
  | .ended future error =>
    if now.tasks.futures[future]?.map Future.status = some .queued then
      some (now.becomes (atomically (ending future error) now.tasks).2 now.rest)
    else none
  | .work => some (match now.rest with
    | [] => now.lists config now.loop.next
    | entry :: rest => now.works entry rest)

def Reached : Rounds → Prop :=
  Relation.ReflTransGen (fun before after => ∃ moment, before.next config moment = some after) {}

def Succeeded (id : TaskId) (now : Rounds) : Prop :=
  ∃ future ∈ now.tasks.futures, future.call = id ∧ future.status = .finished none

end Rounds
end Retries
end Rawfile
