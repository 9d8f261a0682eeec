import Rawfile.Servicers
import Rawfile.SnapshotList

/-! `ListSnapshots` of `bd2fs.py`: the id of a snapshot and the token of a page
are taken apart, and the listing is put into a response. -/

namespace Rawfile
open Effects

structure ListSnapshotsRequest where
  maxEntries : Int := 0
  startingToken : String := ""
  sourceVolumeId : VolumeId := ""
  snapshotId : String := ""
  deriving DecidableEq

structure SnapshotEntry where
  sizeBytes : Nat
  snapshotId : String
  sourceVolumeId : VolumeId
  readyToUse : Bool
  deriving DecidableEq

structure ListSnapshotsResponse where
  entries : List SnapshotEntry
  nextToken : String
  deriving DecidableEq

/-- `str(next_token)` -/
def tokenText : Option Int → String
  | some number => toString number
  | none => "None"

namespace Bd2Fs

def snapshotEntry (snapshot : Snapshot) : SnapshotEntry where
  sizeBytes := snapshot.sizeBytes
  snapshotId := snapshot.volumeId ++ "/" ++ snapshot.name
  sourceVolumeId := snapshot.volumeId
  readyToUse := snapshot.ready

/-- The volume and the name the id of a snapshot asks for, if there is one. -/
def wantedNames (snapshotId : String) : Except Err (Option VolumeId × Option String) :=
  if snapshotId = "" then .ok (none, none)
  else match splitId snapshotId with
    | some (volume, name) => .ok (some volume, some name)
    | none => .error .valueError

def startingOffset (token : String) : Except Err (Option Int) :=
  if token = "" then .ok none
  else match intOf token with
    | some offset => .ok (some offset)
    | none => .error (.aborted .invalidArgument "invalid starting_token")

/-- The source volume of the request is not looked at. -/
def listSnapshots (config : DriverConfig) (files : Files) (request : ListSnapshotsRequest) :
    Except Err ListSnapshotsResponse :=
  if config.snapshotsEnabled then do
    let (volumeId, snapshotName) ← wantedNames request.snapshotId
    let offset ← startingOffset request.startingToken
    let limit := if request.maxEntries = 0 then none else some request.maxEntries
    let listed ← SnapshotManager.listSnapshotsPaged config files { volumeId, snapshotName, offset, limit }
    pure { entries := listed.data.map snapshotEntry, nextToken := tokenText listed.nextToken }
  else .error (.aborted .unimplemented "Snapshotting capabilities are disabled.")

end Bd2Fs
end Rawfile
