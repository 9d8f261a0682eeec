import Rawfile.Effects.FileTree

/-! The data of the node plugin: the paths it owns, the metadata it keeps for a
volume, image files, the errors it raises and the records of its background
tasks. -/

namespace Rawfile

abbrev VolumeId := String
abbrev PoolName := String

/-- The number of a loop device `/dev/loopN`. -/
abbrev Device := Nat

inductive StagingPart where
  | block
  | dev
  | device
  | mount
  deriving DecidableEq

/-- The paths of `utils/rawfile.py`, with the temporary snapshots of clones in
`snapshots/temp`, the two files that try out a copy on write, the links and
directories below a staging path, and the paths volumes are published at. -/
inductive Path where
  | metaDir (volume : VolumeId)
  | metaFile (volume : VolumeId)
  | metaTmp (volume : VolumeId)
  | lockFile (volume : VolumeId)
  | volumeDir (pool : PoolName) (volume : VolumeId)
  | imgFile (pool : PoolName) (volume : VolumeId)
  | snapshotsDir (pool : PoolName) (volume : VolumeId) (temporary : Bool)
  | snapshot (pool : PoolName) (volume : VolumeId) (temporary : Bool) (name : String)
  | creating (pool : PoolName) (volume : VolumeId) (temporary : Bool) (name : String)
  | cowTestFile (pool : PoolName) (volume : VolumeId) (temporary : Bool)
  | cowTestClone (pool : PoolName) (volume : VolumeId)
  | staging (target : String) (part : StagingPart)
  | published (path : String)
  deriving DecidableEq

/-- The paths something can be mounted at, as the kubelet names them. -/
def Path.mountpoint : Path → String
  | .staging target .mount => target ++ "/mount"
  | .published path => path
  | _ => ""

/-- The metadata directory, the pools, the staging path and the directory of a
target exist: the startup checks and the kubelet create them. -/
instance : Effects.Hierarchy Path where
  parent
    | .metaDir _ | .volumeDir _ _ | .published _ => none
    | .metaFile volume | .metaTmp volume | .lockFile volume => some (.metaDir volume)
    | .imgFile pool volume | .cowTestClone pool volume | .snapshotsDir pool volume false => some (.volumeDir pool volume)
    | .snapshotsDir pool volume true => some (.snapshotsDir pool volume false)
    | .snapshot pool volume temporary _ | .creating pool volume temporary _ | .cowTestFile pool volume temporary =>
      some (.snapshotsDir pool volume temporary)
    | .staging target .dev => some (.staging target .block)
    | .staging _ _ => none
  depth
    | .metaDir _ | .volumeDir _ _ | .published _ => 0
    | .metaFile _ | .metaTmp _ | .lockFile _ | .imgFile _ _ | .cowTestClone _ _ | .snapshotsDir _ _ false => 1
    | .snapshotsDir _ _ true | .snapshot _ _ false _ | .creating _ _ false _ | .cowTestFile _ _ false => 2
    | .snapshot _ _ true _ | .creating _ _ true _ | .cowTestFile _ _ true => 3
    | .staging _ .dev => 1
    | .staging _ _ => 0

inductive FileSystemName where
  | xfs
  | ext4
  | btrfs
  deriving DecidableEq

namespace FileSystemName

def text : FileSystemName → String
  | .xfs => "xfs"
  | .ext4 => "ext4"
  | .btrfs => "btrfs"

/-- The key of `filesystems` with that name. -/
def ofText (name : String) : Option FileSystemName :=
  if name = "xfs" then some .xfs else if name = "ext4" then some .ext4 else if name = "btrfs" then some .btrfs else none

end FileSystemName

def devicePath (device : Device) : String := "/dev/loop" ++ toString device

inductive Source where
  | loop (device : Device)
  | path (text : String)
  deriving DecidableEq

namespace Source

def text : Source → String
  | .loop device => devicePath device
  | .path text => text

def ofText (text : String) : Source :=
  let digits := text.toList.drop 9
  if text.toList.take 9 = "/dev/loop".toList ∧ digits ≠ [] ∧ digits.all Char.isDigit then
    .loop (digits.foldl (fun number digit => 10 * number + (digit.toNat - '0'.toNat)) 0)
  else .path text

end Source

/-- A file of bytes with the space its blocks take on the pool. -/
structure Image where
  data : List UInt8
  physical : Nat
  deriving DecidableEq

namespace Image

def empty : Image := ⟨[], 0⟩

def size (image : Image) : Nat := image.data.length

/-- `ftruncate`: cut, or grow by a hole that reads as zeros. -/
def truncate (image : Image) (length : Nat) : Image where
  data := image.data.take length ++ List.replicate (length - image.size) 0
  physical := if length < image.size then min image.physical length else image.physical

/-- `fallocate(fd, 0, 0, length)`: never shrinks, and fills every hole up to `length`. -/
def fallocate (image : Image) (length : Nat) : Image where
  data := image.data ++ List.replicate (length - image.size) 0
  physical := max image.physical length

/-- What a copy of the image holds after `length` bytes. -/
def firstBytes (image : Image) (length : Nat) : Image where
  data := image.data.take length
  physical := min image.physical length

@[simp] theorem size_empty : empty.size = 0 := rfl

@[simp] theorem size_truncate (image : Image) (length : Nat) : (image.truncate length).size = length := by
  simp only [size, truncate, List.length_append, List.length_take, List.length_replicate]
  omega

@[simp] theorem size_fallocate (image : Image) (length : Nat) :
    (image.fallocate length).size = max image.size length := by
  simp only [size, fallocate, List.length_append, List.length_replicate]
  omega

end Image

structure ImgFile where
  pool : PoolName
  volume : VolumeId
  deriving DecidableEq

def ImgFile.path (file : ImgFile) : Path := .imgFile file.pool file.volume

/-- The dictionary in `disk.meta`: `none` is a missing key. The two keys that
may hold `null` are doubly optional. The path under `img_file` is always that of
the volume's own image, so only its pool is kept. -/
structure Meta where
  schemaVersion : Option Nat := none
  storagePool : Option PoolName := none
  ready : Option Bool := none
  volumeId : Option VolumeId := none
  createdAt : Option Nat := none
  imgFile : Option PoolName := none
  size : Option Nat := none
  thinProvision : Option Bool := none
  freezefs : Option (Option Bool) := none
  copyOnWrite : Option (Option Bool) := none
  deletedAt : Option Nat := none
  gcAt : Option Nat := none
  deriving DecidableEq

namespace Meta

/-- `{**old, **patch}` -/
def merge (old patch : Meta) : Meta where
  schemaVersion := patch.schemaVersion <|> old.schemaVersion
  storagePool := patch.storagePool <|> old.storagePool
  ready := patch.ready <|> old.ready
  volumeId := patch.volumeId <|> old.volumeId
  createdAt := patch.createdAt <|> old.createdAt
  imgFile := patch.imgFile <|> old.imgFile
  size := patch.size <|> old.size
  thinProvision := patch.thinProvision <|> old.thinProvision
  freezefs := patch.freezefs <|> old.freezefs
  copyOnWrite := patch.copyOnWrite <|> old.copyOnWrite
  deletedAt := patch.deletedAt <|> old.deletedAt
  gcAt := patch.gcAt <|> old.gcAt

/-- `meta.get("ready", False)` -/
def isReady (data : Meta) : Bool := data.ready.getD false

/-- `meta.get("thin_provision", False)` -/
def isThin (data : Meta) : Bool := data.thinProvision.getD false

end Meta

inductive Content where
  | bytes (image : Image)
  | json (data : Meta)
  | link (target : String)

abbrev Files := Effects.FileTree Path Content

inductive StatusCode where
  | invalidArgument
  | deadlineExceeded
  | resourceExhausted
  | failedPrecondition
  | unimplemented
  | notFound
  deriving DecidableEq

inductive Err where
  | fileNotFound
  | osError
  | blockingIo
  | keyError (key : String)
  | valueError
  | runtimeError (text : String)
  | calledProcess
  | cancelled
  | fallocateFailed
  | sourceTypeRequired (sourceId : String)
  | volumeInUse (volume : VolumeId)
  | volumeSourceIsNotReady (volume source : VolumeId) (snapshot : String)
  | snapshotCreateVolumeInUse (volume : VolumeId) (snapshot : String)
  | fsFreezeNotSupported
  | volumeNotReady (volume : VolumeId)
  | loopDeviceAttach (volume : VolumeId) (attempts : Nat) (last : Option String)
  | unknownFileType
  | unsupportedAccessType (accessType : String)
  | unknownFileSystem (device : Source)
  | deviceIsNotBlock (device : Source)
  | invalidDeviceForMountpoint (device : Source) (mountpoint : Path)
  | fileSystemOperation (operation : String) (fs : FileSystemName) (reason : String)
  | taskManagerShuttingDown
  | aborted (code : StatusCode) (details : String)
  deriving DecidableEq

/-- `str(exc)`, the text a failed task keeps as its last error. -/
def Err.message : Err → String
  | .fileNotFound => "[Errno 2] No such file or directory"
  | .osError => "[Errno 5] Input/output error"
  | .blockingIo => "[Errno 11] Resource temporarily unavailable"
  | .keyError key => s!"'{key}'"
  | .valueError => "not enough values to unpack (expected 2, got 1)"
  | .runtimeError text => text
  | .calledProcess => "Command returned non-zero exit status 1."
  | .cancelled => "Task was cancelled"
  | .fallocateFailed => "Fallocate failed, Return code: -1"
  | .sourceTypeRequired source => s!"No Source Type has been provided for {source}"
  | .volumeInUse volume => s!"Volume {volume} is attached"
  | .volumeSourceIsNotReady volume source snapshot =>
    s!"VolumeSource {source}/{snapshot} is not ready for destination {volume}"
  | .snapshotCreateVolumeInUse volume snapshot =>
    s!"Unable to create snapshot for used volume, Volume '{volume}' and Snapshot '{snapshot}'"
  | .fsFreezeNotSupported => "FsFreeze is not supported on block volumes"
  | .volumeNotReady volume => s!"Volume {volume} is not ready"
  | .loopDeviceAttach volume attempts none =>
    s!"Failed to attach loop device for {volume} after {attempts} attempts"
  | .loopDeviceAttach volume attempts (some last) =>
    s!"Failed to attach loop device for {volume} after {attempts} attempts: {last}"
  | .unknownFileType => "Unknown file type"
  | .unsupportedAccessType accessType => s!"Access type {accessType} is not supported"
  | .unknownFileSystem device =>
    "Unable to determine the filesystem for device '" ++ device.text ++ "' , Is the volume initialized?"
  | .deviceIsNotBlock device => "'" ++ device.text ++ "' Is not a block device"
  | .invalidDeviceForMountpoint device mountpoint =>
    "Device " ++ device.text ++ " is not valid for mountpoint " ++ mountpoint.mountpoint
  | .fileSystemOperation operation fs reason =>
    "Operation '" ++ operation ++ "' failed on filesystem '" ++ fs.text ++ "': " ++ reason
  | .taskManagerShuttingDown => "Task Manager is shutting down"
  | .aborted _ details => details

inductive VolumeSource where
  | snapshot
  | volume
  deriving DecidableEq

inductive TaskState where
  | pending
  | running
  | failed
  | completed
  deriving DecidableEq

structure CreateVolumeArgs where
  volumeId : VolumeId
  size : Nat
  storagePool : PoolName
  thinProvision : Bool
  freezefs : Option Bool := none
  copyOnWrite : Option Bool := none
  sourceType : Option VolumeSource := none
  sourceId : Option String := none
  deriving DecidableEq

structure CreateSnapshotArgs where
  volumeId : VolumeId
  name : String
  copyOnWrite : Bool
  freezeFs : Bool := false
  temporary : Bool := false
  deriving DecidableEq

/-- A task name with its arguments: the two entries of `task_mapping`. -/
inductive TaskCall where
  | createVolume (args : CreateVolumeArgs)
  | createSnapshot (args : CreateSnapshotArgs)
  deriving DecidableEq

/-- Task ids are MD5 digests of the task's name and arguments, taken to be
collision free: the id is what was hashed. -/
abbrev TaskId := TaskCall

def hashTaskInfo (call : TaskCall) : TaskId := call

structure TaskInfo where
  call : TaskCall
  retryCount : Int
  state : TaskState
  lastError : Option String := none
  deriving DecidableEq

/-- The path of a pool, below the root. No path has an empty part or a dot as a part. -/
structure PoolPath where
  parts : List String
  below : parts ≠ []
  named : ∀ part ∈ parts, part ≠ "" ∧ part ≠ "."

def PoolPath.data : PoolPath := ⟨["/", "data"], by decide, by decide⟩

/-- The settings the node plugin reads, and the map of pools that support
copy-on-write filled in by the startup checks. -/
structure DriverConfig where
  storagePools : List PoolName
  defaultPool : PoolName
  poolPath : PoolName → PoolPath := fun _ => .data
  cowSupportMap : PoolName → Bool := fun _ => false
  snapshotsEnabled : Bool := true
  maxRetry : Int := 5
  defaultFs : FileSystemName := .ext4

end Rawfile
