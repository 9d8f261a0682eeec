import Rawfile.SnapshotList

/-! The path of a snapshot, from its volume's metadata and from its id. -/

namespace Rawfile
open Effects

namespace SnapshotManager

/-- `_get_snapshot_path` -/
def getSnapshotPath (config : DriverConfig) (files : Files) (volume : VolumeId) (name : String) (temporary : Bool) :
    Except Err Path := do
  let pool := (← metadataOf files volume).storagePool.getD config.defaultPool
  if pool ∈ config.storagePools then pure (.snapshot pool volume temporary name) else .error (.keyError pool)

/-- The path of the snapshot with an id, taken apart by `rsplit("/", 1)`. -/
def pathOfId (config : DriverConfig) (files : Files) (snapshotId : String) (temporary : Bool) : Except Err Path :=
  match splitId snapshotId with
  | some (volume, name) => getSnapshotPath config files volume name temporary
  | none => .error .valueError

end SnapshotManager
end Rawfile
