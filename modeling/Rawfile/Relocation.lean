import Mathlib.Logic.Function.Basic
import Rawfile.Types

/-! `migrate_metadata_dir` of `volume_manager.py` and `migrate_tasks_file_path` of
`task_manager.py`: at its start the driver moves what older versions kept in the
default pool to its metadata directory. -/

namespace Rawfile
namespace Relocation

inductive MetaName where
  | diskMeta
  | diskMetaTmp
  | diskLock
  deriving DecidableEq

inductive OldFile where
  | ofVolume (volume : VolumeId) (name : MetaName)
  | tasks
  deriving DecidableEq

/-- The texts of the files in the default pool and in the metadata directory. -/
structure Places where
  pool : OldFile → Option String
  metadataDir : OldFile → Option String

/-- `if src.exists(): shutil.move(src, dst)` -/
def move (places : Places) (file : OldFile) : Places :=
  match places.pool file with
  | none => places
  | some text =>
    { pool := Function.update places.pool file none
      metadataDir := Function.update places.metadataDir file (some text) }

/-- `glob` finds the directories that have a `disk.meta` and no hidden name. -/
def oldVolumes (volumes : List VolumeId) (places : Places) : List VolumeId :=
  volumes.filter fun volume => !volume.startsWith "." && (places.pool (.ofVolume volume .diskMeta)).isSome

def volumeFiles (volume : VolumeId) : List OldFile :=
  [.ofVolume volume .diskMeta, .ofVolume volume .diskMetaTmp, .ofVolume volume .diskLock]

/-- The files a start moves one after another, from the directories of the pool. -/
def movedFiles (volumes : List VolumeId) (places : Places) : List OldFile :=
  (oldVolumes volumes places).flatMap volumeFiles ++ [.tasks]

def migrate (volumes : List VolumeId) (places : Places) : Places :=
  (movedFiles volumes places).foldl move places

/-- A start that ended after some files. The next one may have been copied to the
other file system, in part or as a whole, and not been removed. -/
def interrupted (volumes : List VolumeId) (places : Places) (count : Nat) (copy : Option String) : Places :=
  let moved := ((movedFiles volumes places).take count).foldl move places
  match (movedFiles volumes places)[count]?, copy with
  | some file, some text =>
    if (moved.pool file).isSome then { moved with metadataDir := Function.update moved.metadataDir file (some text) }
    else moved
  | _, _ => moved

end Relocation
end Rawfile
