import Rawfile.Servicers

/-! The node plugin as a whole: its calls, when each may begin, and the machine
that interleaves them. Pods write to images and loop devices are detached
outside the process. -/

namespace Rawfile
open Effects

/-- What a thread of the process is doing. A task is a direct call of one of
the functions of `task_mapping`, a future the same call by the executor. -/
inductive Call where
  | createVolume (request : CreateVolumeRequest)
  | deleteVolume (volume : VolumeId)
  | createSnapshot (request : CreateSnapshotRequest)
  | deleteSnapshot (snapshotId : String)
  | nodeStageVolume (request : NodeStageVolumeRequest)
  | expandRawFile (volume : VolumeId) (newSize : Int)
  | task (call : TaskCall)
  | future (index : Nat) (call : TaskCall)
  | start
  | workerRound
  | shutdown
  deriving DecidableEq

def discard (program : Driver α) : Driver Unit := do
  let _ ← program
  pure ()

def Call.program (config : DriverConfig) : Call → Driver Unit
  | .createVolume request => discard (Bd2Fs.createVolume config request)
  | .deleteVolume volume => RawFileController.deleteVolume config volume
  | .createSnapshot request => discard (Bd2Fs.createSnapshot config request)
  | .deleteSnapshot snapshotId => Bd2Fs.deleteSnapshot config snapshotId
  | .nodeStageVolume request => Bd2Fs.nodeStageVolume config request
  | .expandRawFile volume newSize => discard (Internal.expandRawFile config volume newSize)
  | .task call => TaskManager.taskBody config call
  | .future index call => TaskManager.runFuture config index call
  | .start => TaskManager.start
  | .workerRound => TaskManager.workerRound config
  | .shutdown => TaskManager.shutdown

/-- The servers are started after `TaskManager.start` returned, the worker takes
one turn at a time, and the executor runs what was submitted to it. -/
def Call.accept : Call → Node → Option Node
  | .start, node =>
    if node.tasks.phase = .down then some { node with tasks := { node.tasks with phase := .starting } } else none
  | .workerRound, node =>
    if node.tasks.workerStarted && !node.tasks.inRound && !node.tasks.shuttingDown then
      some { node with tasks := { node.tasks with inRound := true } }
    else none
  | .shutdown, node => if node.tasks.phase = .down then none else some node
  | .future index call, node =>
    if node.tasks.futures[index]?.map Future.call = some call then some node else none
  | .task _, node => some node
  | _, node => if node.tasks.phase = .serving then some node else none

/-- A change from outside: a pod writes to an image in place, or a loop device goes away. -/
inductive Drift where
  | write (img : ImgFile) (data : List UInt8) (physical : Nat)
  | detach (device : Device)

def Drift.apply : Drift → Node → Node
  | .write img data physical, node =>
    match Files.image node.files img.path with
    | some image =>
      if data.length = image.size then
        { node with files := (Files.change node.files (node.files.write img.path (.bytes ⟨data, physical⟩))).2 }
      else node
    | none => node
  | .detach device, node =>
    { node with devices := { node.devices with
      loops := node.devices.loops.filter (fun loop => loop.1 ≠ device) } }

abbrev NodeConfig := Config Op Op.Reply Err Node Call
abbrev NodeEvent := Event Answer Call Drift

def nodePlugin (config : DriverConfig) : Machine Op Op.Reply Err Answer Node Call Drift where
  exec thread operation answer node :=
    if operation.blocks node then none else some (operation.exec thread answer node)
  enter call node := (call.accept node).map fun node => (node, call.program config)
  crash := Node.crash
  drift := Drift.apply

/-- A node with empty pools on which the plugin has never run. -/
def NodeConfig.initial : NodeConfig := ⟨{}, []⟩

def NodeConfig.returned (now : NodeConfig) (call : Call) : Bool :=
  now.threads.any fun thread => thread.call = call && thread.program.returned

def singlePool : DriverConfig where
  storagePools := ["default"]
  defaultPool := "default"

def moves (thread count : Nat) (answer : Answer) : List NodeEvent :=
  List.replicate count (.step thread answer)

def thinRequest : CreateVolumeRequest where
  name := "v"
  volumeCapabilities := [⟨.singleNodeWriter, some .mount⟩]
  requiredBytes := 16777216
  parameters := [("thinProvision", "yes")]
  preferred := [[("hostname", "node")]]

def thinCreation : TaskCall := .createVolume (RawFileController.createVolumeArgs thinRequest "default")

/-- The request for a thin volume submits its task, and the task's future makes the volume ready. -/
def thinCreated : List NodeEvent :=
  [.enter .start] ++ moves 0 2 {} ++ [.enter (.createVolume thinRequest)] ++ moves 1 9 { amount := 16777216 } ++
    [.enter (.future 0 thinCreation)] ++ moves 2 16 {}

end Rawfile
