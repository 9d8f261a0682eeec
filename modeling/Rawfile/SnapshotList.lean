import Rawfile.Effects.Glob
import Rawfile.SnapshotManager

/-! `SnapshotManager.list_snapshots` with all its arguments, on files that do
not change meanwhile, and the layout of the snapshots below a pool. Volume ids
and names have no slash and the path of a pool has no wildcard. -/

namespace Rawfile
open Effects

structure SnapshotFile where
  pool : PoolName
  volume : VolumeId
  temporary : Bool
  name : String
  deriving DecidableEq

namespace SnapshotFile

def path (file : SnapshotFile) : Path := .snapshot file.pool file.volume file.temporary file.name

def marker (file : SnapshotFile) : Path := .creating file.pool file.volume file.temporary file.name

def fileName (file : SnapshotFile) : String := file.name ++ ".img"

def text (file : SnapshotFile) : String :=
  file.volume ++ (if file.temporary then "/snapshots/temp/" else "/snapshots/") ++ file.fileName

/-- `snapshots_dir(volume_id, temporary) / f"{name}.img"` -/
def parts (root : PoolPath) (file : SnapshotFile) : List String :=
  root.parts ++ ([file.volume, "snapshots"] ++ (if file.temporary then ["temp"] else []) ++ [file.fileName]).filter
    fun part => part ≠ "" ∧ part ≠ "."

end SnapshotFile

def Path.snapshotFile : Path → Option SnapshotFile
  | .snapshot pool volume temporary name => some { pool, volume, temporary, name }
  | _ => none

/-- `path.name` -/
def nameOf (parts : List String) : String := parts.getLast?.getD ""

/-- `path.stem` of the path's name: the text before the last dot, unless it is made of dots. -/
def stem (name : String) : String :=
  match name.toList.reverse.dropWhile (· ≠ '.') with
  | [] => name
  | _ :: before => if before.all (· = '.') then name else String.ofList before.reverse

structure SnapshotList where
  data : List Snapshot
  nextToken : Option Int
  deriving DecidableEq

structure ListSnapshotsArgs where
  volumeId : Option VolumeId := none
  snapshotName : Option String := none
  offset : Option Int := none
  limit : Option Int := none
  ready : Option Bool := none
  temporary : Bool := false

namespace SnapshotManager

/-- The pattern `**` stands for any directories that are not hidden, also for none. -/
def isRecursive : Option VolumeId → Bool
  | some volume => volume = "**"
  | none => true

def matchesVolume (wanted : Option VolumeId) (volume : VolumeId) : Bool :=
  if isRecursive wanted then !Glob.isHidden volume else Glob.picks (wanted.getD "") volume

def matchesFile (wanted : Option String) (fileName : String) : Bool :=
  Glob.picks (wanted.getD "*" ++ ".img") fileName

/-- An empty argument is no argument. -/
def given (argument : Option String) : Option String := argument.filter (fun text => text ≠ "")

/-- The pattern of one pool. Where `**` is no directory, it matches the image of a volume called `snapshots`. -/
def matchesPath (args : ListSnapshotsArgs) (pool : PoolName) : Path → Bool
  | .snapshot place volume temporary name => place = pool && temporary = args.temporary &&
      matchesVolume (given args.volumeId) volume && matchesFile (given args.snapshotName) (name ++ ".img")
  | .imgFile place volume => place = pool && volume = "snapshots" && !args.temporary &&
      isRecursive (given args.volumeId) && matchesFile (given args.snapshotName) "disk.img"
  | _ => false

/-- `glob(pattern, recursive=True)` for the pattern of one pool. -/
def globSnapshots (files : Files) (args : ListSnapshotsArgs) (pool : PoolName) : List Path :=
  files.entries.keys.filter (matchesPath args pool)

/-- The path below the pool, by which the files of a pool are sorted. -/
def textOf : Path → String
  | .snapshot pool volume temporary name => SnapshotFile.text ⟨pool, volume, temporary, name⟩
  | .imgFile _ volume => volume ++ "/disk.img"
  | _ => ""

def sortedSnapshots (files : Files) (args : ListSnapshotsArgs) (pool : PoolName) : List Path :=
  (globSnapshots files args pool).mergeSort fun first second => textOf first ≤ textOf second

/-- `metadata(volume_id)` -/
def metadataOf (files : Files) (volume : VolumeId) : Except Err Meta :=
  match files.lookup (.metaFile volume) with
  | some (.file (.json data)) => .ok data
  | some _ => .error .valueError
  | none => .error .fileNotFound

variable (config : DriverConfig)

def snapshotFiles (files : Files) (args : ListSnapshotsArgs) : Except Err (List Path) :=
  match given args.volumeId with
  | none => .ok (config.storagePools.flatMap (sortedSnapshots files args))
  | some volume =>
    match metadataOf files volume with
    | .error error => .error error
    | .ok data =>
      match data.storagePool with
      | none => .error (.keyError "storage_pool")
      | some pool =>
        if pool ∈ config.storagePools then .ok (sortedSnapshots files args pool) else .error (.keyError pool)

/-- `snap_file.parent.parent.name` and `snap_file.stem` of a path with these parts -/
def readAs (parts : List String) : VolumeId × String := (nameOf parts.dropLast.dropLast, stem (nameOf parts))

def listedAs (root : PoolPath) (file : SnapshotFile) : VolumeId × String := readAs (file.parts root)

/-- What is read from a path that matches. The volume is the name two directories
up, so a temporary snapshot claims to be of a volume `snapshots`, and the image
of a volume `snapshots` to be a snapshot `disk` of the pool's directory. -/
def readFrom : Path → VolumeId × String
  | .snapshot pool volume temporary name => listedAs (config.poolPath pool) ⟨pool, volume, temporary, name⟩
  | .imgFile pool volume => readAs ((config.poolPath pool).parts ++ [volume, "disk.img"])
  | _ => ("", "")

/-- `Path(f"{snap_file}.creating").exists()`; the driver makes no such file beside an image. -/
def isCreating (files : Files) : Path → Bool
  | .snapshot pool volume temporary name => files.present (.creating pool volume temporary name)
  | _ => false

def isTemporary : Path → Bool
  | .snapshot _ _ temporary _ => temporary
  | _ => false

def describe (files : Files) (path : Path) : Snapshot where
  name := (readFrom config path).2
  volumeId := (readFrom config path).1
  sizeBytes := ((Files.image files path).map Image.size).getD 0
  ready := !isCreating files path
  temporary := isTemporary path

/-- `number and condition`: zero counts as absent. -/
def isGiven (number : Option Int) (condition : Int → Bool) : Bool :=
  match number with
  | some value => value ≠ 0 && condition value
  | none => false

/-- The loop over the files from index `idx` on, with `count` of them listed;
it ends at the index it last looked at. -/
def listFrom (config : DriverConfig) (files : Files) (args : ListSnapshotsArgs) :
    List Path → Nat → Nat → Nat → List Snapshot × Nat
  | [], _, last, _ => ([], last)
  | path :: rest, idx, _, count =>
    if isGiven args.offset (fun offset => idx < offset) then listFrom config files args rest (idx + 1) idx count
    else if args.ready = some (isCreating files path) then listFrom config files args rest (idx + 1) idx count
    else if isGiven args.limit (fun limit => limit ≤ count + 1) then ([describe config files path], idx)
    else
      let (more, last) := listFrom config files args rest (idx + 1) idx (count + 1)
      (describe config files path :: more, last)

def listPage (files : Files) (args : ListSnapshotsArgs) (found : List Path) : SnapshotList :=
  let (snapshots, idx) := listFrom config files args found 0 0 0
  { data := snapshots
    nextToken :=
      if isGiven args.offset (fun _ => snapshots ≠ [] && idx + 1 < found.length) then
        args.offset.map (fun offset => offset + snapshots.length)
      else none }

/-- `list_snapshots` -/
def listSnapshotsPaged (files : Files) (args : ListSnapshotsArgs) : Except Err SnapshotList :=
  (snapshotFiles config files args).map (listPage config files args)

end SnapshotManager
end Rawfile
