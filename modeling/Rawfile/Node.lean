import Rawfile.Effects.Machine
import Rawfile.Types

/-! The state of one node and the atomic operations the driver performs on it.
Files, loop devices and the task store outlive the process; locks, futures and
the task manager's memory do not. Answers stand for what the driver cannot
know: failing system calls, clocks, free space and how far a copy got. -/

namespace Rawfile
open Effects

structure Answer where
  fails : Bool := false
  amount : Nat := 0
  output : String := ""

def FileError.toErr : FileError → Err
  | .notFound => .fileNotFound
  | _ => .osError

inductive FileKind where
  | link (target : String)
  | file
  | directory
  deriving DecidableEq

inductive FileOp where
  | readMeta (volume : VolumeId)
  | installMeta (volume : VolumeId) (old patch : Meta)
  | exists (path : Path)
  | kind (path : Path)
  | getsize (path : Path)
  | physicalSize (path : Path)
  | mkdir (path : Path) (existOk : Bool)
  | mkdirs (path : Path)
  | touch (path : Path)
  | unlink (path : Path) (missingOk : Bool)
  | rmdir (path : Path)
  | glob (path : Path)
  | listMetas
  | symlink (path : Path) (target : String)
  | cpStart (source dest : Path)
  | cpFinish (source dest : Path) (opened : Image)
  | truncate (path : Path) (length : Nat)
  | fallocate (path : Path) (length : Nat)

namespace FileOp

@[reducible] def Reply : FileOp → Type
  | .readMeta _ => Meta
  | .exists _ => Bool
  | .kind _ => Option FileKind
  | .getsize _ | .physicalSize _ => Nat
  | .glob _ => List Path
  | .listMetas => List VolumeId
  | .cpStart _ _ => Image
  | _ => Unit

end FileOp

namespace Files

def metadata (files : Files) (volume : VolumeId) : Option Meta :=
  match files.lookup (.metaFile volume) with
  | some (.file (.json data)) => some data
  | _ => none

def image (files : Files) (path : Path) : Option Image :=
  match files.lookup path with
  | some (.file (.bytes image)) => some image
  | _ => none

def present (files : Files) (path : Path) : Bool := (files.lookup path).isSome

/-- The volumes with a `disk.meta`; a pattern does not match hidden names. -/
def volumes (files : Files) : List VolumeId :=
  files.entries.keys.filterMap fun
    | .metaFile volume => if volume.startsWith "." then none else some volume
    | _ => none

/-- The outcome of a call that changes the files or fails without a trace. -/
def change (files : Files) (result : Except FileError Files) : Except Err Unit × Files :=
  match result with
  | .ok after => (.ok (), after)
  | .error error => (.error (FileError.toErr error), files)

end Files

/-- A file system call. An installed `disk.meta` is complete: it was written to
`disk.meta.tmp` and renamed. A copy first empties its destination, then fills
it; it keeps its own descriptors, so it reads a source that was unlinked
meanwhile and never brings an unlinked destination back. -/
def FileOp.exec (answer : Answer) (files : Files) : (operation : FileOp) → Except Err operation.Reply × Files
  | .readMeta volume =>
    if answer.fails then (.error .osError, files)
    else match files.lookup (.metaFile volume) with
      | some (.file (.json data)) => (.ok data, files)
      | some _ => (.error .valueError, files)
      | none => (.error .fileNotFound, files)
  | .installMeta volume old patch =>
    if answer.fails then (.error .osError, files)
    else Files.change files (files.write (.metaFile volume) (.json (old.merge patch)))
  | .exists path => (.ok (files.present path), files)
  | .kind path =>
    (.ok (match files.lookup path with
      | none => none
      | some .directory => some .directory
      | some (.file (.link target)) => some (.link target)
      | some (.file _) => some .file), files)
  | .getsize path =>
    match Files.image files path with
    | some image => (.ok image.size, files)
    | none => (.error .fileNotFound, files)
  | .physicalSize path =>
    match Files.image files path with
    | some image => (.ok image.physical, files)
    | none => (.error .fileNotFound, files)
  | .mkdir path existOk =>
    if answer.fails then (.error .osError, files) else Files.change files (files.mkdir path existOk)
  | .mkdirs path =>
    if answer.fails then (.error .osError, files) else Files.change files (files.mkdirs path)
  | .touch path =>
    if answer.fails then (.error .osError, files)
    else if files.present path then (.ok (), files)
    else Files.change files (files.write path (.bytes .empty))
  | .unlink path missingOk =>
    if answer.fails then (.error .osError, files)
    else if missingOk && !files.present path then (.ok (), files)
    else Files.change files (files.unlink path)
  | .rmdir path =>
    if answer.fails then (.error .osError, files) else Files.change files (files.rmdir path)
  | .glob path => (.ok (files.children path), files)
  | .listMetas => (.ok (Files.volumes files), files)
  | .symlink path target =>
    if answer.fails || files.present path then (.error .osError, files)
    else Files.change files (files.write path (.link target))
  | .cpStart source dest =>
    match Files.image files source with
    | none => (.error .calledProcess, files)
    | some image =>
      match files.write dest (.bytes (image.firstBytes answer.amount)) with
      | .ok after => (.ok image, after)
      | .error _ => (.error .calledProcess, files)
  | .cpFinish source dest opened =>
    if answer.fails then (.error .calledProcess, files)
    else if files.present dest then
      match files.write dest (.bytes ((Files.image files source).getD opened)) with
      | .ok after => (.ok (), after)
      | .error _ => (.error .calledProcess, files)
    else (.ok (), files)
  | .truncate path length =>
    if answer.fails then (.error .osError, files)
    else Files.change files (files.write path (.bytes (((Files.image files path).getD .empty).truncate length)))
  | .fallocate path length =>
    let image := (Files.image files path).getD .empty
    if answer.fails || length == 0 then
      (.error .fallocateFailed,
        (Files.change files (files.write path (.bytes (image.fallocate (min answer.amount length))))).2)
    else Files.change files (files.write path (.bytes (image.fallocate length)))

inductive LockOp where
  | acquire (volume : VolumeId)
  | release (volume : VolumeId)

inductive DeviceOp where
  | attachedLoops (path : Path)
  | nextLoop
  | losetup (path : Path)
  | setrw (device : Device)
  | probe (device : Device)
  | freeze (device : Device)
  | unfreeze (device : Device)
  | detach (device : Device)
  | blkid (device : Device)
  | mkfs (fs : FileSystemName) (device : Device)
  | findmnt (point : Path)
  | mount (fs : FileSystemName) (device : Device) (point : Path)
  | bind (source : Source) (point : Path)
  | umount (point : Path)

/-- The result of a command that may fail. A command killed by a signal has a negative code. -/
structure CompletedProcess where
  returncode : Int
  stdout : String
  deriving DecidableEq

@[reducible] def DeviceOp.Reply : DeviceOp → Type
  | .attachedLoops _ => List Device
  | .probe _ => Bool
  | .blkid _ => CompletedProcess
  | .findmnt _ => Option Source
  | _ => Unit

/-- A mounted file system, or the node of a device bound to a file. -/
structure Mount where
  point : Path
  source : Source
  fs : Option FileSystemName
  deriving DecidableEq

structure Devices where
  loops : List (Device × Path) := []
  frozen : List Device := []
  mounts : List Mount := []

def Devices.attached (devices : Devices) (path : Path) : List Device :=
  (devices.loops.filter (fun loop => loop.2 = path)).map Prod.fst

def Devices.mountsAt (devices : Devices) (point : Path) : List Mount :=
  devices.mounts.filter (fun mount => mount.point = point)

/-- The file system of a device that is mounted. -/
def Devices.mountedFs (devices : Devices) (device : Device) : Option FileSystemName :=
  devices.mounts.findSome? fun mount => if mount.source = .loop device then mount.fs else none

/-- `losetup -f` takes a device that is not in use. Freezing a frozen file
system and thawing a running one are tolerated. What is on a device that is not
mounted is the environment's answer. `umount` fails if and only if nothing is
mounted at its argument, and takes away the last mount. -/
def DeviceOp.exec (answer : Answer) (files : Files) (devices : Devices) :
    (operation : DeviceOp) → Except Err operation.Reply × Devices
  | .attachedLoops path =>
    if answer.fails then (.error .calledProcess, devices) else (.ok (devices.attached path), devices)
  | .losetup path =>
    if answer.fails || !files.present path || devices.loops.any (fun loop => loop.1 == answer.amount) then
      (.error .calledProcess, devices)
    else (.ok (), { devices with loops := devices.loops ++ [(answer.amount, path)] })
  | .probe _ => (.ok (!answer.fails), devices)
  | .freeze device =>
    if answer.fails then (.error .calledProcess, devices)
    else (.ok (), { devices with frozen := device :: devices.frozen })
  | .unfreeze device =>
    if answer.fails then (.error .calledProcess, devices)
    else (.ok (), { devices with frozen := devices.frozen.filter (fun other => other != device) })
  | .nextLoop | .setrw _ | .mkfs _ _ =>
    if answer.fails then (.error .calledProcess, devices) else (.ok (), devices)
  | .detach device =>
    if answer.fails || !devices.loops.any (fun loop => loop.1 == device) then (.error .calledProcess, devices)
    else (.ok (), { devices with loops := devices.loops.filter (fun loop => loop.1 != device) })
  | .blkid device =>
    (.ok (match devices.mountedFs device with
      | some fs => ⟨0, fs.text ++ "\n"⟩
      | none => ⟨if answer.fails then -Int.ofNat answer.amount else answer.amount, answer.output⟩), devices)
  | .findmnt point => (.ok ((devices.mountsAt point).head?.map Mount.source), devices)
  | .mount fs device point =>
    if answer.fails || !files.isDirectory point || !devices.loops.any (fun loop => loop.1 == device) then
      (.error .calledProcess, devices)
    else (.ok (), { devices with mounts := ⟨point, .loop device, some fs⟩ :: devices.mounts })
  | .bind source point =>
    match source with
    | .loop _ =>
      if answer.fails || !files.present point || files.isDirectory point then (.error .calledProcess, devices)
      else (.ok (), { devices with mounts := ⟨point, .path "devtmpfs", none⟩ :: devices.mounts })
    | .path _ => (.error .calledProcess, devices)
  | .umount point =>
    if devices.mounts.any (fun mount => mount.point = point) then
      (.ok (), { devices with mounts := devices.mounts.eraseP (fun mount => mount.point = point) })
    else (.error .calledProcess, devices)

inductive FutureStatus where
  | queued
  | running
  | finished (error : Option Err)
  | cancelled
  deriving DecidableEq

/-- A submitted task. `info` is the record dictionary that `_tasks`, the done
callback and a shutdown share once the task is registered. -/
structure Future where
  call : TaskCall
  status : FutureStatus := .queued
  callback : Option TaskId := none
  info : Option TaskInfo := none

def Future.isQueued (future : Future) : Bool := future.status = .queued

inductive TaskOp where
  | isShuttingDown
  | setShuttingDown
  | getTasks
  | saveTask (id : TaskId) (info : TaskInfo)
  | saveInfo (id : TaskId) (future : Nat)
  | removeTask (id : TaskId)
  | submit (call : TaskCall)
  | register (id : TaskId) (future : Nat) (info : TaskInfo)
  | addDoneCallback (future : Nat) (id : TaskId)
  | popTask (id : TaskId)
  | exception (future : Nat)
  | setState (future : Nat) (state : TaskState)
  | countFailure (future : Nat)
  | setLastError (future : Nat) (message : String)
  | count
  | nextItem (visited : List (TaskId × Nat)) (size : Nat)
  | isRunning (future : Nat)
  | begin (future : Nat)
  | finish (future : Nat) (error : Option Err)
  | closeExecutor
  | cancelNext
  | startWorker
  | endRound

@[reducible] def TaskOp.Reply : TaskOp → Type
  | .isShuttingDown | .isRunning _ | .begin _ | .addDoneCallback _ _ => Bool
  | .getTasks => List (TaskId × TaskInfo)
  | .submit _ | .count | .closeExecutor => Nat
  | .popTask _ => Option Nat
  | .exception _ => Option Err
  | .nextItem _ _ => Option (TaskId × Nat)
  | .finish _ _ | .cancelNext => Option TaskId
  | _ => Unit

inductive Phase where
  | down
  | starting
  | serving
  deriving DecidableEq

abbrev TaskTable := AList (fun _ : TaskId => TaskInfo)

/-- The task manager: the store on disk, and what its process knows. -/
structure Tasks where
  store : TaskTable := ∅
  registered : AList (fun _ : TaskId => Nat) := ∅
  futures : List Future := []
  shuttingDown : Bool := false
  executorDown : Bool := false
  workerStarted : Bool := false
  inRound : Bool := false
  phase : Phase := .down

namespace Tasks

def listed (tasks : Tasks) : List (TaskId × TaskInfo) :=
  tasks.store.entries.map (fun entry => (entry.1, entry.2))

/-- The entries of the dictionary `_tasks`. -/
def inMemory (tasks : Tasks) : List (TaskId × Nat) :=
  tasks.registered.entries.map (fun entry => (entry.1, entry.2))

def update (tasks : Tasks) (future : Nat) (f : Future → Future) : Tasks :=
  { tasks with futures := tasks.futures.modify future f }

end Tasks

/-- An operation of the task manager or its executor. Writing the store is one
step, as its lock makes it; a dictionary that changes while it is iterated
raises; a cancelled future never runs. -/
def TaskOp.exec (answer : Answer) (tasks : Tasks) : (operation : TaskOp) → Except Err operation.Reply × Tasks
  | .isShuttingDown => (.ok tasks.shuttingDown, tasks)
  | .setShuttingDown => (.ok (), { tasks with shuttingDown := true })
  | .getTasks => if answer.fails then (.error .osError, tasks) else (.ok tasks.listed, tasks)
  | .saveTask id info =>
    if answer.fails then (.error .osError, tasks) else (.ok (), { tasks with store := tasks.store.insert id info })
  | .saveInfo id future =>
    if answer.fails then (.error .osError, tasks)
    else match tasks.futures[future]?.bind Future.info with
      | some info => (.ok (), { tasks with store := tasks.store.insert id info })
      | none => (.ok (), tasks)
  | .removeTask id =>
    if answer.fails then (.error .osError, tasks)
    else if id ∈ tasks.store then (.ok (), { tasks with store := tasks.store.erase id })
    else (.error (.keyError "task_id"), tasks)
  | .submit call =>
    if tasks.executorDown then (.error (.runtimeError "cannot schedule new futures after shutdown"), tasks)
    else (.ok tasks.futures.length, { tasks with futures := tasks.futures ++ [{ call }] })
  | .register id future info =>
    (.ok (), { tasks.update future (fun entry => { entry with info := some info }) with
      registered := tasks.registered.insert id future })
  | .addDoneCallback future id =>
    match tasks.futures[future]?.map Future.status with
    | some (.finished _) | some .cancelled => (.ok true, tasks)
    | _ => (.ok false, tasks.update future (fun entry => { entry with callback := some id }))
  | .popTask id => (.ok (tasks.registered.lookup id), { tasks with registered := tasks.registered.erase id })
  | .exception future =>
    match tasks.futures[future]?.map Future.status with
    | some (.finished error) => (.ok error, tasks)
    | some .cancelled => (.error .cancelled, tasks)
    | _ => (.ok none, tasks)
  | .setState future state =>
    (.ok (), tasks.update future (fun entry => { entry with info := entry.info.map ({ · with state }) }))
  | .countFailure future =>
    (.ok (), tasks.update future (fun entry => { entry with
      info := entry.info.map (fun info => { info with retryCount := info.retryCount + 1 }) }))
  | .setLastError future message =>
    (.ok (), tasks.update future (fun entry => { entry with
      info := entry.info.map ({ · with lastError := some message }) }))
  | .count => (.ok tasks.registered.keys.length, tasks)
  | .nextItem visited size =>
    if tasks.registered.keys.length ≠ size then
      (.error (.runtimeError "dictionary changed size during iteration"), tasks)
    else match (tasks.inMemory.filter (fun entry => entry ∉ visited)).head? with
      | none => (.ok none, tasks)
      | some entry =>
        if visited.length < size then (.ok (some entry), tasks)
        else (.error (.runtimeError "dictionary keys changed during iteration"), tasks)
  | .isRunning future => (.ok (tasks.futures[future]?.map Future.status == some .running), tasks)
  | .begin future =>
    match tasks.futures[future]?.map Future.status with
    | some .queued => (.ok true, tasks.update future (fun entry => { entry with status := .running }))
    | _ => (.ok false, tasks)
  | .finish future error =>
    (.ok (tasks.futures[future]?.bind Future.callback),
      tasks.update future (fun entry => { entry with status := .finished error }))
  | .closeExecutor =>
    (.ok (tasks.futures.filter Future.isQueued).length, { tasks with executorDown := true })
  | .cancelNext =>
    let first := tasks.futures.findIdx Future.isQueued
    (.ok (tasks.futures[first]?.bind Future.callback),
      tasks.update first (fun entry => { entry with status := .cancelled }))
  | .startWorker =>
    if tasks.executorDown then (.error (.runtimeError "cannot schedule new futures after shutdown"), tasks)
    else (.ok (), { tasks with workerStarted := true, phase := .serving })
  | .endRound => (.ok (), { tasks with inRound := false })

inductive Question where
  | clock
  | capacity (pool : PoolName)
  | polls

@[reducible] def Question.Reply : Question → Type := fun _ => Nat

/-- A capacity is counted in whole bytes and is never negative. -/
def Question.exec (answer : Answer) : (question : Question) → question.Reply
  | .clock | .capacity _ | .polls => answer.amount

inductive Op where
  | file (operation : FileOp)
  | lock (operation : LockOp)
  | device (operation : DeviceOp)
  | task (operation : TaskOp)
  | ask (question : Question)

@[reducible] def Op.Reply : Op → Type
  | .file operation => operation.Reply
  | .lock _ => Unit
  | .device operation => operation.Reply
  | .task operation => operation.Reply
  | .ask question => question.Reply

structure Node where
  files : Files := .empty
  devices : Devices := {}
  tasks : Tasks := {}
  holders : List (VolumeId × Nat) := []

/-- Taking a lock creates the lock file, so it needs the metadata directory.
Whether a contended lock is refused is the environment's answer: the condition
that `VolLock` excludes is a condition on runs. -/
def LockOp.exec (thread : Nat) (answer : Answer) (node : Node) : LockOp → Except Err Unit × Node
  | .acquire volume =>
    match (FileOp.touch (.lockFile volume)).exec {} node.files with
    | (.error error, _) => (.error error, node)
    | (.ok _, files) =>
      if answer.fails then (.error .blockingIo, { node with files })
      else (.ok (), { node with files, holders := (volume, thread) :: node.holders })
  | .release volume =>
    (.ok (), { node with
      files := ((FileOp.unlink (.lockFile volume) true).exec {} node.files).2
      holders := node.holders.filter (fun holder => holder ≠ (volume, thread)) })

def Op.exec (thread : Nat) (operation : Op) (answer : Answer) (node : Node) : Except Err operation.Reply × Node :=
  match operation with
  | .file operation =>
    let (reply, files) := operation.exec answer node.files
    (reply, { node with files })
  | .lock operation => operation.exec thread answer node
  | .device operation =>
    let (reply, devices) := operation.exec answer node.files node.devices
    (reply, { node with devices })
  | .task operation =>
    let (reply, tasks) := operation.exec answer node.tasks
    (reply, { node with tasks })
  | .ask question => (.ok (question.exec answer), node)

/-- `Future.exception` waits for a future that has not finished. -/
def Op.blocks (operation : Op) (node : Node) : Bool :=
  match operation with
  | .task (.exception future) =>
    match node.tasks.futures[future]?.map Future.status with
    | some .queued | some .running => true
    | _ => false
  | _ => false

/-- A process that dies leaves files, loop devices, mounts, frozen file systems
and the task store behind; its locks are released by the kernel. -/
def Node.crash (node : Node) : Node :=
  { node with tasks := { store := node.tasks.store }, holders := [] }

/-- A restart of the whole node drops mounts and loop devices as well. -/
def Node.restart (node : Node) : Node :=
  { node.crash with devices := {} }

abbrev Driver := Program Op Op.Reply Err

namespace Driver

def file (operation : FileOp) : Driver operation.Reply := Program.perform (Op.file operation)
def lock (operation : LockOp) : Driver Unit := Program.perform (Op.lock operation)
def device (operation : DeviceOp) : Driver operation.Reply := Program.perform (Op.device operation)
def task (operation : TaskOp) : Driver operation.Reply := Program.perform (Op.task operation)
def ask (question : Question) : Driver question.Reply := Program.perform (Op.ask question)

end Driver

end Rawfile
