import Rawfile.SnapshotManager

/-! `utils/volume_manager.py`: creating a volume, blank or from a source, and
removing it in the three steps of deletion. -/

namespace Rawfile
open Effects Program

def latestSchemaVersion : Nat := 8

/-- `f"{volume_id}-clone-source"` -/
def cloneSource (volume : VolumeId) : String := volume ++ "-clone-source"

structure RestoreSource where
  volume : VolumeId
  name : String
  temporary : Bool
  deriving DecidableEq

/-- A source id counts when it is not empty, as a Python truth value. -/
def CreateVolumeArgs.source (args : CreateVolumeArgs) : Option String :=
  args.sourceId.filter (fun id => id ≠ "")

namespace VolumeManager

variable (config : DriverConfig)

/-- Cut the temporary snapshot a clone is copied from, unless an earlier
attempt left a ready one. -/
def prepareClone (volume source : VolumeId) : Driver Unit := do
  let name := cloneSource volume
  let data ← metadataOr source
  if !data.isReady then raise (.volumeSourceIsNotReady volume source name)
  else
    let current ← SnapshotManager.listSnapshots config source name true
    if (current.head?.map Snapshot.ready).getD false then pure ()
    else
      let copyOnWrite ← match data.copyOnWrite.join with
        | some flag => pure flag
        | none => config.cowSupportMap <$> need "storage_pool" data.storagePool
      let _ ← SnapshotManager.createSnapshot config
        { volumeId := source, name, copyOnWrite, freezeFs := data.freezefs.join.getD false, temporary := true }

/-- The snapshot named by the request; a clone gets its temporary one. -/
def findSource (args : CreateVolumeArgs) : Driver (Option RestoreSource) :=
  match args.sourceType, args.source with
  | some .snapshot, some id => do
    let (volume, name) ← rsplit id
    pure (if volume = "" ∨ name = "" then none else some { volume, name, temporary := false })
  | some .volume, some id => do
    prepareClone config args.volumeId id
    pure (some { volume := id, name := cloneSource args.volumeId, temporary := true })
  | _, _ => pure none

/-- Copy the source into the new image. The size and provisioning of the image
become those of the source's metadata, at least as large as requested. -/
def restore (args : CreateVolumeArgs) (img : ImgFile) :
    Option RestoreSource → Driver (Nat × Bool)
  | none => pure (args.size, args.thinProvision)
  | some source => do
    let snapshots ← SnapshotManager.listSnapshots config source.volume source.name source.temporary
    if !(snapshots.head?.map Snapshot.ready).getD false then
      raise (.volumeSourceIsNotReady args.volumeId source.volume source.name)
    else
      let data ← metadata source.volume
      let recorded ← need "size" data.size
      SnapshotManager.restoreSnapshot config source.volume source.name img source.temporary
      pure (max args.size recorded, data.isThin)

def bigEnough (img : ImgFile) (size : Nat) : Driver Bool := do
  if ← Driver.file (.exists img.path) then
    pure (decide ((← Driver.file (.getsize img.path)) ≥ size))
  else pure false

def openingPatch (args : CreateVolumeArgs) : Meta :=
  { schemaVersion := some latestSchemaVersion, storagePool := some args.storagePool, ready := some false }

def describingPatch (args : CreateVolumeArgs) (img : ImgFile) (createdAt : Nat) : Meta :=
  { volumeId := some args.volumeId, createdAt := some createdAt, imgFile := some img.pool, size := some args.size,
    thinProvision := some args.thinProvision, freezefs := some args.freezefs,
    copyOnWrite := some args.copyOnWrite, storagePool := some args.storagePool }

/-- What `create_volume` does below the lock of the new volume. -/
def buildImage (args : CreateVolumeArgs) (source : Option RestoreSource) : Driver Unit := do
  let img : ImgFile := ⟨args.storagePool, args.volumeId⟩
  if ← bigEnough img args.size then pure ()
  else
    Driver.file (.mkdirs (.snapshotsDir args.storagePool args.volumeId false))
    Driver.file (.mkdirs (.snapshotsDir args.storagePool args.volumeId true))
    let createdAt ← Driver.ask .clock
    patchMetadata config args.volumeId args.storagePool (describingPatch args img createdAt)
    Driver.file (.touch img.path)
    let (size, thin) ← restore config args img source
    growImage img.path thin size
    patchMetadata config args.volumeId args.storagePool { ready := some true }

/-- The `finally` block: a clone removes its temporary snapshot. -/
def removeCloneSource (args : CreateVolumeArgs) : Driver Unit :=
  match args.sourceType, args.source with
  | some .volume, some id => SnapshotManager.deleteSnapshot config id (cloneSource args.volumeId) true
  | _, _ => pure ()

def createVolume (args : CreateVolumeArgs) : Driver Unit :=
  match args.sourceType, args.source with
  | none, some id => raise (.sourceTypeRequired id)
  | _, _ => do
    let dir ← getVolumePath config args.storagePool args.volumeId
    Driver.file (.mkdir dir true)
    Driver.file (.mkdirs (.metaDir args.volumeId))
    patchMetadata config args.volumeId args.storagePool (openingPatch args)
    Program.tryFinally
      (do
        let source ← findSource config args
        withVolLock args.volumeId (buildImage config args source))
      (removeCloneSource config args)

/-- The local `rmdir` of `destroy_volume`. -/
def rmdirIfPresent (path : Path) : Driver Unit :=
  (Driver.file (.rmdir path)).tryExcept fun
    | .fileNotFound => pure ()
    | error => raise error

/-- The listing without the temporary directory, which is looked up anew for each entry. -/
def realSnapshots (config : DriverConfig) (volume : VolumeId) : List Path → Driver (List Path)
  | [] => pure []
  | path :: rest => do
    let temporary ← snapshotsDir config volume true
    let kept ← realSnapshots config volume rest
    pure (if path = temporary then kept else path :: kept)

def removeSnapshotDirs (volume : VolumeId) (snapshots temporaries : List Path) :
    Driver Unit := do
  if temporaries = [] then
    rmdirIfPresent (← snapshotsDir config volume true)
    if snapshots = [] then rmdirIfPresent (← snapshotsDir config volume false)

def removeMetadata (volume : VolumeId) (pool : PoolName) : Driver Unit := do
  forEach (← Driver.file (.glob (.metaDir volume))) fun path => Driver.file (.unlink path true)
  rmdirIfPresent (.metaDir volume)
  rmdirIfPresent (← getVolumePath config pool volume)

def destroyVolume (volume : VolumeId) (dryRun : Bool) : Driver Unit := do
  if dryRun then pure ()
  else
    let listing ← Driver.file (.glob (← snapshotsDir config volume false))
    let snapshots ← realSnapshots config volume listing
    let temporaries ← Driver.file (.glob (← snapshotsDir config volume true))
    let data ← metadataOr volume
    Driver.file (.unlink (← imgFile volume).path true)
    removeSnapshotDirs config volume snapshots temporaries
    if snapshots = [] ∧ temporaries = [] then
      removeMetadata config volume (data.storagePool.getD config.defaultPool)

def gcIfNeeded (volume : VolumeId) (dryRun : Bool) : Driver Bool := do
  let data ← withVolLock volume (metadataOr volume)
  match data.deletedAt, data.gcAt with
  | some _, some gcAt => do
    let now ← Driver.ask .clock
    if gcAt ≤ now then
      destroyVolume config volume dryRun
      pure true
    else pure false
  | _, _ => pure false

def deletingPatch (now : Nat) : Meta :=
  { deletedAt := some now, gcAt := some now, ready := some false }

def deleteVolume (volume : VolumeId) : Driver Nat := do
  let data ← metadataOr volume
  let dir ← getVolumePath config (data.storagePool.getD config.defaultPool) volume
  if !(← Driver.file (.exists dir)) then pure 0
  else
    let img ← imgFile volume
    let size ← imgSize volume
    if (← attachedLoops img.path) ≠ [] then raise (.volumeInUse volume)
    else
      let now ← Driver.ask .clock
      withVolLock volume do
        patchMetadata config volume (← need "storage_pool" data.storagePool) (deletingPatch now)
      let _ ← gcIfNeeded config volume false
      pure size

def listAllVolumes : Driver (List VolumeId) := Driver.file .listMetas

/-- The comprehension of `gc_all_volumes`. -/
def gcVolumes (config : DriverConfig) (dryRun : Bool) : List VolumeId → Driver (List Bool)
  | [] => pure []
  | volume :: rest => do
    let collected ← gcIfNeeded config volume dryRun
    let others ← gcVolumes config dryRun rest
    pure (collected :: others)

def gcAllVolumes (dryRun : Bool) : Driver (List Bool) := do
  gcVolumes config dryRun (← listAllVolumes)

def isAttached (volume : VolumeId) : Driver Bool := do
  let data ← metadataOr volume
  let dir ← getVolumePath config (← need "storage_pool" data.storagePool) volume
  if !(← Driver.file (.exists dir)) then pure false
  else
    let img ← imgFile volume
    pure ((← attachedLoops img.path) ≠ [])

end VolumeManager
end Rawfile
