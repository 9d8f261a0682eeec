import Rawfile.Node
import Rawfile.Text

/-! `utils/rawfile.py` and the context manager of `utils/lock.py`: metadata
access, image sizing, loop devices and links, as programs over the node. -/

namespace Rawfile
open Effects Program

/-- `dictionary[key]` -/
def need (key : String) : Option α → Driver α
  | some value => pure value
  | none => raise (.keyError key)

def metadata (volume : VolumeId) : Driver Meta := Driver.file (.readMeta volume)

def metadataOr (volume : VolumeId) : Driver Meta :=
  (metadata volume).tryExcept fun
    | .fileNotFound => pure {}
    | error => raise error

def imgFile (volume : VolumeId) : Driver ImgFile := do
  let pool ← need "img_file" (← metadata volume).imgFile
  pure ⟨pool, volume⟩

def imgSize (volume : VolumeId) : Driver Nat := do
  need "size" (← metadata volume).size

variable (config : DriverConfig)

/-- `VolumeManager.get_volume_path`: a pool that is not configured is a key error. -/
def getVolumePath (pool : PoolName) (volume : VolumeId) : Driver Path :=
  if pool ∈ config.storagePools then pure (.volumeDir pool volume) else raise (.keyError pool)

/-- An empty name stands for the default pool. -/
def poolOrDefault (pool : PoolName) : PoolName :=
  if pool = "" then config.defaultPool else pool

def getCapacity (pool : PoolName) : Driver Nat :=
  if poolOrDefault config pool ∈ config.storagePools then Driver.ask (.capacity (poolOrDefault config pool))
  else raise (.keyError (poolOrDefault config pool))

/-- The pool whose directory `snapshots_dir` takes for the volume. -/
def snapshotsPool (volume : VolumeId) : Driver PoolName := do
  let pool := (← metadata volume).storagePool.getD config.defaultPool
  let _ ← getVolumePath config pool volume
  pure pool

def snapshotsDir (volume : VolumeId) (temporary : Bool) : Driver Path := do
  pure (.snapshotsDir (← snapshotsPool config volume) volume temporary)

/-- `update_metadata` first looks up the volume's directory to fix permissions there. -/
def patchMetadata (volume : VolumeId) (pool : PoolName) (patch : Meta) : Driver Unit := do
  let old ← metadataOr volume
  let _ ← getVolumePath config pool volume
  Driver.file (.installMeta volume old patch)

/-- `truncate` for a thin image, `fallocate` for a thick one. -/
def growImage (path : Path) (thin : Bool) (size : Nat) : Driver Unit :=
  if thin then Driver.file (.truncate path size) else Driver.file (.fallocate path size)

def attachedLoops (file : Path) : Driver (List Device) := Driver.device (.attachedLoops file)

def attachOnce (file : ImgFile) : Driver (Option Device) := do
  match ← attachedLoops file.path with
  | device :: _ =>
    Driver.device (.setrw device)
    pure (some device)
  | [] =>
    Driver.device .nextLoop
    Driver.device (.losetup file.path)
    pure none

/-- An attempt that attaches is noticed by the next one. -/
def attachLoop (file : ImgFile) (maxAttempts : Nat) : Nat → Option String → Driver Device
  | 0, last => raise (.loopDeviceAttach file.volume maxAttempts last)
  | attempts + 1, last => do
    match ← (attachOnce file).attempt with
    | .ok (some device) => pure device
    | .ok none => attachLoop file maxAttempts attempts last
    | .error error => attachLoop file maxAttempts attempts (some error.message)

def detachLoops (file : ImgFile) : Driver Unit := do
  forEach (← attachedLoops file.path) fun device => Driver.device (.detach device)

def beAbsent (path : Path) : Driver Unit := do
  match ← Driver.file (.kind path) with
  | some (.link _) | some .file => Driver.file (.unlink path false)
  | some .directory => Driver.file (.rmdir path)
  | none => pure ()

def beSymlink (path : Path) (target : String) : Driver Unit := do
  if (← Driver.file (.kind path)) = some (.link target) then pure ()
  else
    beAbsent path
    Driver.file (.symlink path target)

/-- `with VolLock(volume_id):` -/
def withVolLock (volume : VolumeId) (body : Driver α) : Driver α := do
  Driver.lock (.acquire volume)
  body.tryFinally (Driver.lock (.release volume))

/-- `cp` of one file; the reflink mode only decides how blocks are shared. -/
def copyFile (source dest : Path) : Driver Unit := do
  let opened ← Driver.file (.cpStart source dest)
  Driver.file (.cpFinish source dest opened)

/-- The two names around the last slash. -/
def splitId (text : String) : Option (String × String) :=
  let backwards := text.toList.reverse
  match backwards.dropWhile (· ≠ '/') with
  | [] => none
  | _ :: front => some (String.ofList front.reverse, String.ofList (backwards.takeWhile (· ≠ '/')).reverse)

/-- `text.rsplit("/", 1)` unpacked into two names. -/
def rsplit (text : String) : Driver (String × String) :=
  match splitId text with
  | some names => pure names
  | none => raise .valueError

end Rawfile
