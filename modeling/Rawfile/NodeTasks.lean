import Rawfile.TaskStore

/-! The tasks of a node over the internal API: what the two requests submit,
`GetNodeTasks` of `internal_svc.py` and `get_node_tasks` of the API server. -/

namespace Rawfile
open Effects TaskStore

/-- What `CreateVolume` and `CreateSnapshot` submit. -/
inductive TaskRequest where
  | createVolume (name : String) (size : Int) (storagePool : String) (thinProvision freezefs : Bool)
      (copyOnWrite : Option Bool) (sourceType : Option Int) (sourceId : Option String)
  | createSnapshot (volumeId name : String) (copyOnWrite freezeFs : Bool)

namespace TaskRequest

def orNone (value : Option Json) : Json := value.getD .null

def args : TaskRequest → List Json
  | .createVolume name size storagePool thinProvision freezefs copyOnWrite sourceType sourceId =>
    [.str name, .int size, .str storagePool, .bool thinProvision, .bool freezefs, orNone (copyOnWrite.map .bool),
      orNone (sourceType.map .int), orNone (sourceId.map .str)]
  | .createSnapshot .. => []

def kwargs : TaskRequest → List (String × Json)
  | .createVolume .. => []
  | .createSnapshot volumeId name copyOnWrite freezeFs =>
    [("volume_id", .str volumeId), ("name", .str name), ("copy_on_write", .bool copyOnWrite),
      ("freeze_fs", .bool freezeFs)]

def task : TaskRequest → TaskName
  | .createVolume .. => .createVolume
  | .createSnapshot .. => .createSnapshot

end TaskRequest

/-- `google.protobuf.Any` -/
structure AnyMessage where
  typeUrl : String
  value : List UInt8

/-- `internal_pb2.Task` -/
structure TaskMessage where
  task : String
  args : List String
  kwargs : List (String × AnyMessage)
  retryCount : Int
  state : String

namespace TaskMessage

def text : InfoValue → Except StoreError String
  | .json (.str text) => .ok text
  | _ => .error .type

def texts : List Json → Except StoreError (List String)
  | [] => .ok []
  | .str text :: rest => do pure (text :: (← texts rest))
  | _ :: _ => .error .type

def int64 : InfoValue → Except StoreError Int
  | .json (.int number) =>
    if -9223372036854775808 ≤ number ∧ number ≤ 9223372036854775807 then .ok number else .error .value
  | _ => .error .type

/-- A map of messages. No value of a record is a message, so only an empty map is taken. -/
def anys : InfoValue → Except StoreError (List (String × AnyMessage))
  | .json (.obj []) => .ok []
  | _ => .error .type

def ofRecord (record : List (String × InfoValue)) : Except StoreError TaskMessage := do
  let task ← field "task" record
  let args ← field "args" record
  let kwargs ← field "kwargs" record
  let retryCount ← field "retry_count" record
  let state ← field "state" record
  let task ← text task
  let args ← match args with
    | .json (.arr items) => texts items
    | _ => .error .type
  let kwargs ← anys kwargs
  let retryCount ← int64 retryCount
  let state ← text state
  pure { task, args, kwargs, retryCount, state }

end TaskMessage

namespace NodeTasks

def messages : List (String × List (String × InfoValue)) → Except StoreError (List (String × TaskMessage))
  | [] => .ok []
  | (id, record) :: rest => do pure ((id, ← TaskMessage.ofRecord record) :: (← messages rest))

/-- `GetNodeTasks` for the map in the store. -/
def getNodeTasks (isIso : String → Bool) (stored : Stored) : Except StoreError (List (String × TaskMessage)) := do
  messages (← decodeAll isIso stored)

/-- `api_server.v1.models.Task` -/
structure ApiTask where
  task : String
  args : List String
  kwargs : List (String × AnyMessage)
  retryCount : Int
  state : String

/-- `task_id, task_data = key` -/
def unpack (key : String) : Except StoreError (Char × Char) :=
  match key.toList with
  | [first, second] => .ok (first, second)
  | _ => .error .value

/-- `get_node_tasks`: the iteration is over the keys of the map, and the second
half of a key has none of the fields of a task. -/
def apiTasks : List (String × TaskMessage) → Except StoreError (List (String × ApiTask))
  | [] => .ok []
  | (key, _) :: _ => do
    let _ ← unpack key
    .error .attribute

end NodeTasks
end Rawfile
