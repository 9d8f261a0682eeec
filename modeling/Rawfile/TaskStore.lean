import Rawfile.Effects.JsonReaders
import Rawfile.Effects.Machine

/-! `tasks.json`, call by call: how `task_manager.py` reads the map of tasks and
rewrites it in place. What the program writes sits in the runtime's buffers until
they overflow or the file is closed; a process that dies loses them. -/

namespace Rawfile
open Effects Program

inductive StoreError where
  | jsonDecode
  | attribute
  | key (name : String)
  | type
  | value
  deriving DecidableEq

inductive StoreOp where
  | acquire
  | release
  | open
  | read
  | truncate (size : Nat)
  | seek (offset : Nat)
  | write (text : List Char)
  | fsync
  | close

@[reducible] def StoreOp.Reply : StoreOp → Type
  | .read => List Char
  | _ => Unit

/-- The file, the offset of its descriptor, what waits in the buffers, and the
lock of the task manager. -/
structure StoreFile where
  content : List Char
  position : Nat := 0
  pending : List Char := []
  locked : Bool := false

namespace StoreFile

/-- The first characters of the buffers reach the file. Writing past its end
leaves a hole. -/
def flush (file : StoreFile) (count : Nat) : StoreFile :=
  match file.pending.take count with
  | [] => file
  | data => { file with
    content := file.content.take file.position ++ List.replicate (file.position - file.content.length) '\x00' ++
      data ++ file.content.drop (file.position + data.length)
    position := file.position + data.length
    pending := file.pending.drop count }

def flushAll (file : StoreFile) : StoreFile := file.flush file.pending.length

end StoreFile

/-- `truncate`, `seek` and `close` of a text file flush it first; `os.fsync`
knows nothing of the buffers. -/
def StoreOp.exec (file : StoreFile) : (operation : StoreOp) → Option (Except StoreError operation.Reply × StoreFile)
  | .acquire => if file.locked then none else some (.ok (), { file with locked := true })
  | .release => some (.ok (), { file with locked := false })
  | .open => some (.ok (), { file with position := 0, pending := [] })
  | .read => some (.ok (file.content.drop file.position), { file with position := file.content.length })
  | .truncate size => some (.ok (), { file.flushAll with content := file.flushAll.content.take size })
  | .seek offset => some (.ok (), { file.flushAll with position := offset })
  | .write text => some (.ok (), { file with pending := file.pending ++ text })
  | .fsync => some (.ok (), file)
  | .close => some (.ok (), file.flushAll)

abbrev Store := Program StoreOp StoreOp.Reply StoreError

def Store.call (operation : StoreOp) : Store operation.Reply := perform operation

namespace TaskStore

abbrev Stored := List (String × Json)

/-- `json.loads(text or "{}")`, used as a dictionary. -/
def load (text : List Char) : Except StoreError Stored :=
  match Json.loads (if text = [] then ['{', '}'] else text) with
  | some (.obj fields) => .ok fields
  | some _ => .error .attribute
  | none => .error .jsonDecode

def dump (stored : Stored) : List Char := Json.dumps (.obj stored)

/-- A value of a task's record in memory. A time stamp is kept as its ISO text. -/
inductive InfoValue where
  | json (value : Json)
  | datetime (iso : String)

/-- `encode_task`. Only the three time stamps hold a datetime. -/
def InfoValue.encode : InfoValue → Json
  | .json value => value
  | .datetime iso => .str iso

/-- The record of a task in memory: a dictionary, so no key stands twice in it. -/
structure Info where
  fields : List (String × InfoValue)
  nodup : (fields.map Prod.fst).Nodup
  valid : ∀ field ∈ fields, field.2.encode.Valid

def encodeTask (fields : List (String × InfoValue)) : Json :=
  .obj (fields.map fun field => (field.1, field.2.encode))

/-- `maybe_dt`, with the texts that `datetime.fromisoformat` accepts. -/
def maybeDt (isIso : String → Bool) : Option Json → InfoValue
  | some (.str text) => if isIso text then .datetime text else .json .null
  | _ => .json .null

def decodeTask (isIso : String → Bool) (raw : List (String × Json)) : List (String × InfoValue) :=
  ["created_ts", "saved_ts", "retry_ts"].foldl
    (fun fields key => Dict.set key (maybeDt isIso (raw.lookup key)) fields)
    (raw.map fun field => (field.1, .json field.2))

def asDict : Json → Except StoreError (List (String × Json))
  | .obj fields => .ok fields
  | _ => .error .attribute

/-- `v.get("retry_count", default)`, compared with a number. -/
def retryCount (record : List (String × Json)) (default : Int) : Except StoreError Int :=
  match record.lookup "retry_count" with
  | none => .ok default
  | some (.int count) => .ok count
  | some _ => .error .type

/-- `v["state"] == state` -/
def hasState (record : List (String × Json)) (state : String) : Except StoreError Bool :=
  match record.lookup "state" with
  | none => .error (.key "state")
  | some (.str text) => .ok (text = state)
  | some _ => .ok false

def isRetriable (maxRetry : Int) (record : List (String × Json)) : Except StoreError Bool := do
  if (← retryCount record (-1)) < maxRetry then hasState record "Failed" else pure false

def isExhausted (maxRetry : Int) (record : List (String × Json)) : Except StoreError Bool := do
  pure ((← retryCount record (maxRetry + 1)) ≥ maxRetry)

/-- A dictionary comprehension with a condition. -/
def keepIf (keep : List (String × Json) → Except StoreError Bool) : Stored → Except StoreError Stored
  | [] => .ok []
  | (id, record) :: rest => do
    if ← keep (← asDict record) then pure ((id, record) :: (← keepIf keep rest)) else keepIf keep rest

/-- The filters of `get_tasks`. -/
def select (maxRetry : Int) (state : Option String) (retriable : Option Bool) (data : Stored) :
    Except StoreError Stored := do
  let data ← match retriable with
    | none => pure data
    | some true => keepIf (isRetriable maxRetry) data
    | some false => keepIf (isExhausted maxRetry) data
  match state with
  | none => pure data
  | some state => keepIf (hasState · state) data

def decodeAll (isIso : String → Bool) : Stored → Except StoreError (List (String × List (String × InfoValue)))
  | [] => .ok []
  | (id, record) :: rest => do
    pure ((id, decodeTask isIso (← asDict record)) :: (← decodeAll isIso rest))

/-- `get_tasks` on the map it reads. -/
def getTasks (isIso : String → Bool) (maxRetry : Int) (state : Option String) (retriable : Option Bool) (data : Stored) :
    Except StoreError (List (String × List (String × InfoValue))) := do
  decodeAll isIso (← select maxRetry state retriable data)

/-- `with self._lock, open(self._tasks_store_path) as tasks_file` -/
def withStore (body : Store α) : Store α := do
  Store.call .acquire
  Program.tryFinally (do
    Store.call .open
    body.tryFinally (Store.call .close)) (Store.call .release)

/-- The common shape of `save_task` and `remove_task`: read the map, change it,
empty the file and write the new map over it. -/
def rewrite (change : Stored → Except StoreError Stored) : Store Unit := withStore do
  let current ← ofExcept (load (← Store.call .read))
  let changed ← ofExcept (change current)
  Store.call (.truncate 0)
  Store.call (.seek 0)
  Store.call (.write (dump changed))
  Store.call .fsync

def put (id : String) (info : Info) (now : String) (current : Stored) : Except StoreError Stored :=
  .ok (Dict.set id (encodeTask (Dict.set "saved_ts" (.datetime now) info.fields)) current)

def pop (id : String) (current : Stored) : Except StoreError Stored :=
  if id ∈ current.map Prod.fst then .ok (current.filter fun entry => entry.1 ≠ id) else .error (.key id)

def saveTask (id : String) (info : Info) (now : String) : Store Unit := rewrite (put id info now)

def removeTask (id : String) : Store Unit := rewrite (pop id)

inductive TaskName where
  | createSnapshot
  | createVolume
  deriving DecidableEq

def TaskName.value : TaskName → String
  | .createSnapshot => "CreateSnapshot"
  | .createVolume => "CreateVolume"

/-- `TaskName(text)` -/
def TaskName.ofValue (text : String) : Except StoreError TaskName :=
  if text = "CreateSnapshot" then .ok .createSnapshot
  else if text = "CreateVolume" then .ok .createVolume
  else .error .value

/-- What is submitted to the task manager. Enumerations over integers stand as their integers. -/
structure Submission where
  task : TaskName
  args : List Json
  kwargs : List (String × Json)
  validArgs : Json.Valid (.arr args)
  validKwargs : Json.Valid (.obj kwargs)

/-- The text `raw` of `hash_task_info`. -/
def hashedText (task : TaskName) (args : List Json) (kwargs : List (String × Json)) : List Char :=
  Json.dumps (.obj kwargs) ++ Json.dumps (.arr args) ++ task.value.toList

/-- `hash_task_info`, whatever the digest is. -/
def hashTaskInfo (md5 : List Char → String) (task : TaskName) (args : List Json) (kwargs : List (String × Json)) :
    String := md5 (hashedText task args kwargs)

def Submission.id (md5 : List Char → String) (submission : Submission) : String :=
  hashTaskInfo md5 submission.task submission.args submission.kwargs

/-- The record `run_task_ext` makes of a submission. -/
def Submission.info (submission : Submission) (retryCount : Int) (state created : String)
    (retried lastError : Option String) : List (String × InfoValue) :=
  [("kwargs", .json (.obj submission.kwargs)), ("task", .json (.str submission.task.value)),
    ("args", .json (.arr submission.args)), ("retry_count", .json (.int retryCount)), ("state", .json (.str state)),
    ("created_ts", .datetime created)] ++ (retried.map fun time => ("retry_ts", InfoValue.datetime time)).toList ++
    (lastError.map fun error => ("last_error", InfoValue.json (.str error))).toList

/-- `task["key"]` -/
def field (key : String) (record : List (String × InfoValue)) : Except StoreError InfoValue :=
  match record.lookup key with
  | some value => .ok value
  | none => .error (.key key)

/-- The id of the task that `retry_all` runs for a record. -/
def retriedId (md5 : List Char → String) (record : List (String × InfoValue)) : Except StoreError String := do
  let task ← match ← field "task" record with
    | .json (.str text) => TaskName.ofValue text
    | _ => .error .value
  let args ← match ← field "args" record with
    | .json (.arr args) => .ok args
    | _ => .error .type
  let kwargs ← match ← field "kwargs" record with
    | .json (.obj kwargs) => .ok kwargs
    | _ => .error .type
  pure (hashTaskInfo md5 task args kwargs)

end TaskStore

inductive StoreCall where
  | save (id : String) (info : TaskStore.Info) (now : String)
  | remove (id : String)

namespace StoreCall

def id : StoreCall → String
  | .save id _ _ => id
  | .remove id => id

def change : StoreCall → TaskStore.Stored → Except StoreError TaskStore.Stored
  | .save id info now => TaskStore.put id info now
  | .remove id => TaskStore.pop id

def program : StoreCall → Store Unit
  | .save id info now => TaskStore.saveTask id info now
  | .remove id => TaskStore.removeTask id

end StoreCall

abbrev StoreConfig := Config StoreOp StoreOp.Reply StoreError StoreFile StoreCall
abbrev StoreEvent := Event Unit StoreCall Nat

/-- The calls on one store. The buffers may overflow at any time. -/
def taskStore : Machine StoreOp StoreOp.Reply StoreError Unit StoreFile StoreCall Nat where
  exec _ operation _ file := operation.exec file
  enter call file := some (file, call.program)
  crash file := { content := file.content }
  drift count file := file.flush count

def StoreConfig.beginning (call : StoreCall) (text : List Char) : StoreConfig :=
  ⟨{ content := text }, [⟨call, call.program⟩]⟩

end Rawfile
