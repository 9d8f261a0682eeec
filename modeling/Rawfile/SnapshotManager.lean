import Rawfile.Metadata

/-! `utils/snapshot_manager.py`. A snapshot is ready when its file exists and
its `.creating` marker does not. -/

namespace Rawfile
open Effects Program

structure Snapshot where
  name : String
  volumeId : VolumeId
  sizeBytes : Nat
  ready : Bool
  temporary : Bool
  deriving DecidableEq

/-- `meta.get("copy_on_write")`, or what the pool's file system supports. -/
def copyOnWrite (config : DriverConfig) (data : Meta) : Bool :=
  data.copyOnWrite.join.getD ((data.storagePool.map config.cowSupportMap).getD false)

namespace SnapshotManager

def freezeAll (loops : List Device) : Driver Unit :=
  forEach loops fun device => do
    if ← Driver.device (.probe device) then Driver.device (.freeze device)
    else raise .fsFreezeNotSupported

def unfreezeAll (loops : List Device) : Driver Unit :=
  forEach loops fun device => do
    if ← Driver.device (.probe device) then Driver.device (.unfreeze device)
    else raise .fsFreezeNotSupported

def copySnapshot (args : CreateSnapshotArgs) (pool : PoolName) (file : ImgFile) (loops : List Device) :
    Driver Snapshot := do
  let path := Path.snapshot pool args.volumeId args.temporary args.name
  (if args.freezeFs then freezeAll loops else pure ())
  copyFile file.path path
  let _ ← Driver.ask .clock
  Driver.file (.unlink (.creating pool args.volumeId args.temporary args.name) true)
  let sizeBytes ← Driver.file (.getsize path)
  pure { name := args.name, volumeId := args.volumeId, sizeBytes, ready := true, temporary := args.temporary }

/-- The `try` statement of `create_snapshot`. -/
def cutSnapshot (args : CreateSnapshotArgs) (pool : PoolName) (file : ImgFile) (loops : List Device) :
    Driver Snapshot :=
  let removing : Err → Driver Snapshot := fun error => do
    Driver.file (.unlink (.snapshot pool args.volumeId args.temporary args.name) true)
    raise error
  ((copySnapshot args pool file loops).tryExcept removing).tryFinally
    (if args.freezeFs then unfreezeAll loops else pure ())

variable (config : DriverConfig)

def createSnapshot (args : CreateSnapshotArgs) : Driver Snapshot :=
  withVolLock args.volumeId do
    let file ← imgFile args.volumeId
    let loops ← attachedLoops file.path
    let pool ← snapshotsPool config args.volumeId
    Driver.file (.mkdirs (.snapshotsDir pool args.volumeId args.temporary))
    Driver.file (.touch (.creating pool args.volumeId args.temporary args.name))
    Driver.file (.unlink (.snapshot pool args.volumeId args.temporary args.name) true)
    if loops ≠ [] ∧ ¬ (args.freezeFs ∨ args.copyOnWrite) then
      raise (.snapshotCreateVolumeInUse args.volumeId args.name)
    else cutSnapshot args pool file loops

def deleteSnapshot (volume : VolumeId) (name : String) (temporary : Bool) : Driver Unit :=
  withVolLock volume do
    let pool ← snapshotsPool config volume
    Driver.file (.unlink (.snapshot pool volume temporary name) true)
    Driver.file (.unlink (.creating pool volume temporary name) true)

/-- `is_cow_supported(snapshot.parent, destination.parent)`: a copy of a small
file of the one directory is made in the other one. What removes the two files
may raise. -/
def isCowSupported (pool : PoolName) (volume : VolumeId) (temporary : Bool) (dest : ImgFile) : Driver Bool :=
  let testFile := Path.cowTestFile pool volume temporary
  let cloneFile := Path.cowTestClone dest.pool dest.volume
  let testing : Driver Bool := do
    Driver.file (.touch testFile)
    Driver.file (.truncate testFile "COW Support Test".length)
    copyFile testFile cloneFile
    pure true
  (testing.tryExcept fun _ => pure false).tryFinally do
    beAbsent testFile
    beAbsent cloneFile

def restoreSnapshot (volume : VolumeId) (name : String) (dest : ImgFile)
    (temporary : Bool) : Driver Unit := do
  let data ← metadata volume
  let pool ← snapshotsPool config volume
  let _ ← (if copyOnWrite config data then isCowSupported pool volume temporary dest else pure false)
  copyFile (.snapshot pool volume temporary name) dest.path

/-- `list_snapshots(volume_id, snapshot_name, temporary=...).data` where neither
is a pattern. The volume is the name two directories above the file. -/
def listSnapshots (volume : VolumeId) (name : String) (temporary : Bool) :
    Driver (List Snapshot) := do
  let pool ← need "storage_pool" (← metadata volume).storagePool
  let _ ← getVolumePath config pool volume
  if ← Driver.file (.exists (.snapshot pool volume temporary name)) then
    let creating ← Driver.file (.exists (.creating pool volume temporary name))
    let sizeBytes ← Driver.file (.getsize (.snapshot pool volume temporary name))
    pure [{ name, volumeId := if temporary then "snapshots" else volume, sizeBytes, ready := !creating, temporary }]
  else pure []

end SnapshotManager
end Rawfile
