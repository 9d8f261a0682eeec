import Rawfile.NodeTasks
import Rawfile.Proofs.TaskIdentity

/-! The tasks of a node do not reach a client of the API: the record of every
task the driver submits has a value its message has no place for. -/

namespace Rawfile.NodeTasks
open Effects TaskStore

section
variable {md5 : List Char → String} {stored : Stored} {isIso : String → Bool}

structure Holds (request : TaskRequest) (raw : List (String × Json)) : Prop where
  task : raw.lookup "task" = some (.str request.task.value)
  args : raw.lookup "args" = some (.arr request.args)
  kwargs : raw.lookup "kwargs" = some (.obj request.kwargs)

/-- The stores that requests lead to: records of theirs are saved and removed. -/
inductive Produced (md5 : List Char → String) : Stored → Prop
  | empty : Produced md5 []
  | save {stored : Stored} (produced : Produced md5 stored) {request : TaskRequest} {raw : List (String × Json)}
      (holds : Holds request raw) :
      Produced md5 (Dict.set (hashTaskInfo md5 request.task request.args request.kwargs) (.obj raw) stored)
  | remove {stored : Stored} (produced : Produced md5 stored) (id : String) :
      Produced md5 (stored.filter fun entry => entry.1 ≠ id)

/-- The tasks that come out are those of the store; `packed` says what a message stands for. -/
structure Shows (packed : AnyMessage → Json → Prop) (task : String × ApiTask) (entry : String × Json) : Prop where
  id : task.1 = entry.1
  record : ∃ raw kwargs, entry.2 = .obj raw ∧ raw.lookup "task" = some (.str task.2.task) ∧
    raw.lookup "args" = some (.arr (task.2.args.map .str)) ∧ raw.lookup "kwargs" = some (.obj kwargs) ∧
    List.Forall₂ (fun shown stored => shown.1 = stored.1 ∧ packed shown.2 stored.2) task.2.kwargs kwargs ∧
    raw.lookup "retry_count" = some (.int task.2.retryCount) ∧ raw.lookup "state" = some (.str task.2.state)

def Survives (isIso : String → Bool) (packed : AnyMessage → Json → Prop) (stored : Stored) : Prop :=
  ∃ response tasks, getNodeTasks isIso stored = .ok response ∧ apiTasks response = .ok tasks ∧
    List.Forall₂ (Shows packed) tasks stored

theorem Produced.entry (produced : Produced md5 stored) {entry : String × Json} (member : entry ∈ stored) :
    ∃ request raw, entry.2 = .obj raw ∧ Holds request raw := by
  induction produced with
  | empty => cases member
  | save _ holds ih =>
    rcases Dict.mem_set member with rfl | member
    · exact ⟨_, _, rfl, holds⟩
    · exact ih member
  | remove _ id ih => exact ih (List.mem_filter.mp member).1

/-- A volume's size is no text, and the arguments of a snapshot are no messages. -/
theorem ofRecord_fails {request : TaskRequest} {record : List (String × InfoValue)}
    (args : record.lookup "args" = some (.json (.arr request.args)))
    (kwargs : record.lookup "kwargs" = some (.json (.obj request.kwargs))) (message : TaskMessage) :
    TaskMessage.ofRecord record ≠ .ok message := by
  intro encoded
  simp only [TaskMessage.ofRecord, field, args, kwargs, bind, Except.bind] at encoded
  cases request with
  | createVolume =>
    simp only [TaskRequest.args, TaskMessage.texts, bind, Except.bind] at encoded
    split at encoded <;> try cases encoded
    split at encoded <;> try cases encoded
    split at encoded <;> try cases encoded
    split at encoded <;> cases encoded
  | createSnapshot =>
    simp only [TaskRequest.args, TaskRequest.kwargs, TaskMessage.texts, TaskMessage.anys] at encoded
    split at encoded <;> try cases encoded
    split at encoded <;> try cases encoded
    split at encoded <;> try cases encoded
    split at encoded <;> cases encoded

private theorem getNodeTasks_fails {entry : String × Json} {request : TaskRequest} {raw : List (String × Json)}
    (value : entry.2 = .obj raw) (holds : Holds request raw) (response : List (String × TaskMessage)) :
    getNodeTasks isIso (entry :: stored) ≠ .ok response := by
  obtain ⟨id, record⟩ := entry
  cases value
  intro answered
  simp only [getNodeTasks, decodeAll, asDict, bind, Except.bind] at answered
  split at answered
  next => cases answered
  next decoded rest =>
    cases rest_shape : decodeAll isIso stored with
    | error => rw [rest_shape] at rest; cases rest
    | ok others =>
      rw [rest_shape] at rest
      cases rest
      simp only [messages, bind, Except.bind] at answered
      split at answered
      next => cases answered
      next message encoded =>
        refine @ofRecord_fails request _ ?_ ?_ message encoded
        · rw [lookup_decoded (by decide), holds.args]; rfl
        · rw [lookup_decoded (by decide), holds.kwargs]; rfl

/-- The tasks of a store that requests lead to reach a client of the API if and
only if there are none. -/
theorem node_tasks_survive (md5 : List Char → String) (isIso : String → Bool) (packed : AnyMessage → Json → Prop)
    (stored : Stored) (produced : Produced md5 stored) : Survives isIso packed stored ↔ stored = [] := by
  constructor
  · rintro ⟨response, tasks, answered, -, -⟩
    cases stored with
    | nil => rfl
    | cons entry rest =>
      obtain ⟨request, raw, value, holds⟩ := produced.entry (List.mem_cons_self ..)
      exact absurd answered (getNodeTasks_fails value holds response)
  · rintro rfl
    exact ⟨[], [], rfl, rfl, .nil⟩

end

namespace OneTask

def request : TaskRequest := .createVolume "pvc-1" 16777216 "default" false false none none none

def record : List (String × Json) :=
  [("kwargs", .obj []), ("task", .str "CreateVolume"), ("args", .arr request.args), ("retry_count", .int (-1)),
    ("state", .str "Running")]

def running : Stored :=
  Dict.set (hashTaskInfo String.ofList request.task request.args request.kwargs) (.obj record) []

private theorem running_produced : Produced String.ofList running := .save .empty ⟨rfl, rfl, rfl⟩

theorem node_tasks_survive_running : Produced String.ofList running ∧
    (Survives (fun _ => true) (fun _ _ => True) running ↔ running = []) :=
  ⟨running_produced, node_tasks_survive String.ofList _ _ running running_produced⟩

/-- The only task of the node is not encoded, and no encoding of it would be decoded. -/
theorem running_task_rejected : Produced String.ofList running ∧
    getNodeTasks (fun _ => true) running = .error .type ∧
    ∀ message, apiTasks [("d41d8cd98f00b204e9800998ecf8427e", message)] = .error .value :=
  ⟨running_produced, rfl, fun _ => rfl⟩

end OneTask
end Rawfile.NodeTasks
