import Rawfile.Mounts
import Rawfile.TaskManager

/-! The requests of the CSI and the internal service that create, delete,
stage and expand volumes and snapshots: `bd2fs.py`, `rawfile_servicer.py` and
`internal_svc.py`. A request that waits polls as often as the clock lets it. -/

namespace Rawfile
open Effects Program

def lower (text : List Char) : String := String.ofList (text.map Char.toLower)

def strToBool (value : String) : Bool :=
  lower (strip value.toList) ∈ ["1", "t", "true", "yes", "y", "on"]

def normalizeValue (value : String) : Option String :=
  let stripped := strip value.toList
  if stripped = [] ∨ lower stripped ∈ ["none", "null", "nil"] then none else some (String.ofList stripped)

/-- Later entries of the dictionary replace earlier ones of the same name. -/
def normalizeParameters (parameters : List (String × String)) : List (String × String) :=
  (parameters.filterMap fun (key, value) => (normalizeValue value).map fun kept => (lower key.toList, kept)).reverse

def param (parameters : List (String × String)) (name : String) : Option String :=
  ((normalizeParameters parameters).find? (fun entry => entry.1 = name)).map Prod.snd

def abort (code : StatusCode) (details : String) : Driver α := raise (.aborted code details)

inductive AccessMode where
  | singleNodeWriter
  | other (name : String)
  deriving DecidableEq

inductive AccessType where
  | mount
  | block
  deriving DecidableEq

def checkAccessType : Option AccessType → Driver AccessType
  | some accessType => pure accessType
  | none => raise (.unsupportedAccessType "None")

structure VolumeCapability where
  accessMode : AccessMode
  accessType : Option AccessType
  deriving DecidableEq

structure CreateVolumeRequest where
  name : VolumeId
  volumeCapabilities : List VolumeCapability
  requiredBytes : Int
  parameters : List (String × String) := []
  preferred : List (List (String × String))
  contentSource : Option (VolumeSource × String) := none
  deriving DecidableEq

structure CreateVolumeResponse where
  volumeId : VolumeId
  formatOptions : String
  capacityBytes : Nat
  nodeName : String
  contentSource : Option (VolumeSource × String)
  deriving DecidableEq

structure CreateSnapshotRequest where
  sourceVolumeId : VolumeId
  name : String
  deriving DecidableEq

structure CreateSnapshotResponse where
  sizeBytes : Nat
  snapshotId : String
  sourceVolumeId : VolumeId
  readyToUse : Bool
  deriving DecidableEq

structure NodeStageVolumeRequest where
  volumeId : VolumeId
  stagingTargetPath : String
  accessType : Option AccessType
  fsType : String := ""
  deriving DecidableEq

structure NodePublishVolumeRequest where
  volumeId : VolumeId
  stagingTargetPath : String
  targetPath : String
  accessType : Option AccessType
  deriving DecidableEq

structure ExpandRawFileResponse where
  isAttached : Bool
  exhausted : Bool
  deriving DecidableEq

/-! `RawFileControllerServicer` -/

namespace RawFileController

variable (config : DriverConfig)

/-- `{list(config.csi_driver.storage_pools.keys())}` -/
def poolNames : String :=
  "[" ++ String.intercalate ", " (config.storagePools.map fun pool => "'" ++ pool ++ "'") ++ "]"

def storagePool (request : CreateVolumeRequest) : Driver PoolName :=
  let pool := (param request.parameters "storagepool").getD config.defaultPool
  if pool ∈ config.storagePools then pure pool
  else abort .invalidArgument ("Invalid storage pool '" ++ pool ++ "'. Available pools: " ++ poolNames config)

/-- A map of strings has an empty one for a key it lacks, so the `KeyError` is never raised. -/
def nodeName (request : CreateVolumeRequest) : Driver String :=
  match request.preferred with
  | [] => abort .invalidArgument "No preferred topology set. Is external-provisioner running in strict-topology mode?"
  | segments :: _ => pure ((segments.lookup "hostname").getD "")

/-- A content source counts when its id is not empty. -/
def source (request : CreateVolumeRequest) : Option (VolumeSource × String) :=
  request.contentSource.filter (fun source => source.2 ≠ "")

def createVolumeArgs (request : CreateVolumeRequest) (pool : PoolName) : CreateVolumeArgs where
  volumeId := request.name
  size := request.requiredBytes.toNat
  storagePool := pool
  thinProvision := strToBool ((param request.parameters "thinprovision").getD "no")
  freezefs := some (strToBool ((param request.parameters "freezefs").getD "no"))
  copyOnWrite := (param request.parameters "copyonwrite").map strToBool
  sourceType := (source request).map Prod.fst
  sourceId := (source request).map Prod.snd

def requiredSpace (request : CreateVolumeRequest) : Nat :=
  match source request with
  | some (.volume, _) => request.requiredBytes.toNat * 3
  | _ => request.requiredBytes.toNat

/-- The readiness in the metadata; without metadata the task is submitted. -/
def readyOrSubmit (args : CreateVolumeArgs) : Driver Bool := do
  match ← (metadata args.volumeId).attempt with
  | .ok data => pure data.isReady
  | .error .fileNotFound => do
    let _ ← TaskManager.runTask (.createVolume args)
    pure false
  | .error error => raise error

def awaitReady (volume : VolumeId) : Nat → Bool → Driver Bool
  | 0, isReady => pure isReady
  | turns + 1, _ => do
    let isReady := (← metadataOr volume).isReady
    if isReady then pure true else awaitReady volume turns isReady

def createVolume (request : CreateVolumeRequest) : Driver CreateVolumeResponse := do
  let pool ← storagePool config request
  let node ← nodeName request
  if !config.snapshotsEnabled && (source request).isSome then
    abort .unimplemented "Snapshotting capabilities are disabled."
  else if (← getCapacity config pool) < requiredSpace request then
    abort .resourceExhausted "Insufficient disk space (Cloning a volume requires at least 3× the volume size)."
  else
    let isReady ← readyOrSubmit (createVolumeArgs request pool)
    let turns ← Driver.ask .polls
    if !(← awaitReady request.name turns isReady) then abort .deadlineExceeded "Volume Still Creating..."
    else
      pure { volumeId := request.name
             formatOptions := (param request.parameters "formatoptions").getD ""
             capacityBytes := request.requiredBytes.toNat
             nodeName := node
             contentSource := request.contentSource }

def deleteVolume (volume : VolumeId) : Driver Unit :=
  (do let _ ← VolumeManager.deleteVolume config volume).tryExcept fun
    | .volumeInUse _ => abort .failedPrecondition "Volume in use"
    | error => raise error

end RawFileController

/-! `RawFileNodeServicer` -/

namespace RawFileNode

def maxAttempts : Nat := 20

/-- `NodeStageVolume`, with the `block` directory as its staging path. -/
def nodeStageVolume (volume : VolumeId) (target : String) : Driver Unit := do
  if !(← metadataOr volume).isReady then raise (.volumeNotReady volume)
  else
    let device ← attachLoop (← imgFile volume) maxAttempts maxAttempts none
    beSymlink (.staging target .dev) (devicePath device)

/-- `NodePublishVolume` as the staging step calls it. -/
def nodePublishVolume (target : String) : Driver Unit :=
  beSymlink (.staging target .device) (target ++ "/block/dev")

def nodeUnpublishVolume (target : String) : Driver Unit := beAbsent (.staging target .device)

def nodeUnstageVolume (volume : VolumeId) (target : String) : Driver Unit := do
  let img ← imgFile volume
  beAbsent (.staging target .dev)
  detachLoops img

end RawFileNode

/-! `Bd2FsControllerServicer` and `Bd2FsNodeServicer` -/

namespace Bd2Fs

def minimumBytes : Int := 16 * 1024 * 1024

variable (config : DriverConfig)

def createVolume (request : CreateVolumeRequest) : Driver CreateVolumeResponse := do
  match request.volumeCapabilities with
  | [capability] => do
    match capability.accessMode with
    | .other name => abort .invalidArgument ("Unsupported access mode: " ++ name)
    | .singleNodeWriter => do
      let _ ← checkAccessType capability.accessType
      RawFileController.createVolume config { request with requiredBytes := max request.requiredBytes minimumBytes }
  | _ => abort .invalidArgument "Exactly one cap is supported"

def currentSnapshot (request : CreateSnapshotRequest) : Driver (Option Snapshot) := do
  pure (← SnapshotManager.listSnapshots config request.sourceVolumeId request.name false).head?

def awaitSnapshot (config : DriverConfig) (request : CreateSnapshotRequest) : Nat → Driver (Option Snapshot)
  | 0 => pure none
  | turns + 1 => do
    match ← currentSnapshot config request with
    | some current => if current.ready then pure (some current) else awaitSnapshot config request turns
    | none => awaitSnapshot config request turns

def submitUnlessListed (request : CreateSnapshotRequest) (data : Meta) : Driver Unit := do
  if (← currentSnapshot config request).isNone then
    let _ ← TaskManager.runTask (.createSnapshot
      { volumeId := request.sourceVolumeId, name := request.name, copyOnWrite := copyOnWrite config data,
        freezeFs := data.freezefs.join.getD false })

def snapshotsOnly (body : Driver α) : Driver α :=
  if config.snapshotsEnabled then body else abort .unimplemented "Snapshotting capabilities are disabled."

def createSnapshot (request : CreateSnapshotRequest) : Driver CreateSnapshotResponse :=
  snapshotsOnly config do
    let data ← withVolLock request.sourceVolumeId (metadata request.sourceVolumeId)
    submitUnlessListed config request data
    let found ← awaitSnapshot config request (← Driver.ask .polls)
    pure { sizeBytes := (found.map Snapshot.sizeBytes).getD 0
           snapshotId := request.sourceVolumeId ++ "/" ++ request.name
           sourceVolumeId := request.sourceVolumeId
           readyToUse := found.isSome }

def deleteSnapshot (snapshotId : String) : Driver Unit :=
  snapshotsOnly config do
    let (volume, name) ← rsplit snapshotId
    SnapshotManager.deleteSnapshot config volume name false
    let _ ← VolumeManager.gcIfNeeded config volume false

/-- `default_fs or config.csi_driver.default_fs` -/
def fallbackFs (request : NodeStageVolumeRequest) : String :=
  if request.fsType = "" then config.defaultFs.text else request.fsType

/-- The rest of `NodeStageVolume` for a ready volume. -/
def stageReady (request : NodeStageVolumeRequest) : Driver Unit := do
  Driver.file (.mkdirs (.staging request.stagingTargetPath .block))
  RawFileNode.nodeStageVolume request.volumeId request.stagingTargetPath
  RawFileNode.nodePublishVolume request.stagingTargetPath
  if (← checkAccessType request.accessType) = .mount then
    let source ← stagedDevice request.stagingTargetPath
    let fs ← getFromDeviceOrFallback source (fallbackFs config request)
    fs.formatAndMount (.staging request.stagingTargetPath .mount)

def nodeStageVolume (request : NodeStageVolumeRequest) : Driver Unit :=
  withVolLock request.volumeId do
    if !(← metadataOr request.volumeId).isReady then raise (.volumeNotReady request.volumeId)
    else stageReady config request

/-- `clear_deleted_volume`: a teardown of a volume without metadata. -/
def clearDeletedVolume (volume : VolumeId) (mountpoints paths : List Path) : Driver Unit := do
  forEach mountpoints fun point => do
    if (← getDeviceForMountpoint point).isSome then
      abort .notFound ("Volume " ++ volume ++ " not found, but " ++ point.mountpoint ++ " is still mounted")
  forEach paths fun path => (beAbsent path).tryExcept fun
    | .fileNotFound => pure ()
    | error => raise error

def nodeUnstageVolume (volume : VolumeId) (target : String) : Driver Unit := do
  if !(← Driver.file (.exists (.metaFile volume))) then
    clearDeletedVolume volume [.staging target .mount, .staging target .device]
      [.staging target .mount, .staging target .device, .staging target .dev, .staging target .block]
  else
    withVolLock volume do
      unmount (.staging target .mount) true
      RawFileNode.nodeUnpublishVolume target
      RawFileNode.nodeUnstageVolume volume target
      beAbsent (.staging target .block)

def nodePublishVolume (request : NodePublishVolumeRequest) : Driver Unit :=
  withVolLock request.volumeId do
    if !(← metadataOr request.volumeId).isReady then raise (.volumeNotReady request.volumeId)
    else
      match ← checkAccessType request.accessType with
      | .mount => Driver.file (.mkdir (.published request.targetPath) true)
      | .block => Driver.file (.touch (.published request.targetPath))
      mount request.stagingTargetPath (.published request.targetPath)

def nodeUnpublishVolume (volume : VolumeId) (target : String) : Driver Unit := do
  if !(← Driver.file (.exists (.metaFile volume))) then
    clearDeletedVolume volume [.published target] [.published target]
  else withVolLock volume (unmount (.published target) true)

end Bd2Fs

/-! `InternalServicer` -/

namespace Internal

def answered (config : DriverConfig) (volume : VolumeId) (exhausted : Bool) : Driver ExpandRawFileResponse := do
  pure { isAttached := ← VolumeManager.isAttached config volume, exhausted }

/-- `required_space`: a thick volume needs blocks for its holes as well. -/
def requiredSpace (path : Path) (thin : Bool) (size increase : Int) : Driver Int := do
  if thin then pure increase else pure (size - (← Driver.file (.physicalSize path)))

def expandRawFile (config : DriverConfig) (volume : VolumeId) (newSize : Int) : Driver ExpandRawFileResponse :=
  withVolLock volume do
    let img ← imgFile volume
    let increase := newSize - (← imgSize volume)
    if increase ≤ 0 then answered config volume false
    else
      let data ← metadata volume
      let required ← requiredSpace img.path data.isThin newSize increase
      let pool ← need "storage_pool" data.storagePool
      if (← getCapacity config pool) < required then answered config volume true
      else
        growImage img.path data.isThin newSize.toNat
        patchMetadata config volume pool { size := some newSize.toNat }
        answered config volume false

end Internal
end Rawfile
