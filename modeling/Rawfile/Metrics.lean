import Rawfile.Effects.Dict
import Rawfile.Effects.Sequential
import Rawfile.Runs
import Rawfile.StoragePool

/-! The statistics of `volume_manager.py` and the collector of `metrics.py`, one
read at a time. Before each read the other threads go on as they like. -/

namespace Rawfile
open Effects Program

namespace Metrics

/-- The dictionary `VolumeStats` as a whole. -/
structure FullStats extends VolumeStats where
  used : Nat
  deriving DecidableEq

inductive StatsOp where
  | listMetas
  | readMeta (volume : VolumeId)
  | stat (file : ImgFile)
  | attachedLoops (file : ImgFile)
  | deviceToMountpoint (device : Device)
  | statvfs (mountpoint : Path)

structure FileStats where
  physicalSize : Nat
  logicalSize : Nat

@[reducible] def StatsOp.Reply : StatsOp → Type
  | .listMetas => List VolumeId
  | .readMeta _ => Meta
  | .stat _ => FileStats
  | .attachedLoops _ => List Device
  | .deviceToMountpoint _ => Option Path
  | .statvfs _ => Nat

/-- The nodePlugin beside the reader, and the volume that is looked at. -/
abbrev Watch := NodeConfig × Option VolumeId

abbrev Reader := Program StatsOp StatsOp.Reply Err

def ask (operation : StatsOp) : Reader operation.Reply := perform operation

/-- `except` the errors that are caught, with a value in place of what was missing. -/
def excepting (caught : Err → Bool) (program : Reader α) (missing : α) : Reader α :=
  program.tryExcept fun error => if caught error then pure missing else raise error

def isFileNotFound : Err → Bool
  | .fileNotFound => true
  | _ => false

/-- `(FileNotFoundError, KeyError)` -/
def isMissing : Err → Bool
  | .fileNotFound | .keyError _ => true
  | _ => false

def metadataOr (volume : VolumeId) : Reader Meta := excepting isFileNotFound (ask (.readMeta volume)) {}

def imgFile (volume : VolumeId) : Reader ImgFile := do
  match (← ask (.readMeta volume)).imgFile with
  | some pool => pure ⟨pool, volume⟩
  | none => raise (.keyError "img_file")

/-- The usage of the file system on the first loop device, if it is mounted. -/
def fsUsage (loops : List Device) : Reader Nat :=
  match loops with
  | [] => pure 0
  | device :: _ => do
    match ← ask (.deviceToMountpoint device) with
    | some mountpoint => ask (.statvfs mountpoint)
    | none => pure 0

variable (config : DriverConfig)

def volumeStats (volume : VolumeId) : Reader (Option FullStats) := do
  let data ← metadataOr volume
  let file ← imgFile volume
  match ← (ask (.stat file)).attempt with
  | .error .fileNotFound => pure none
  | .error error => raise error
  | .ok stats =>
    let loops ← ask (.attachedLoops file)
    let used ← fsUsage loops
    pure (some {
      physicalSize := stats.physicalSize
      logicalSize := stats.logicalSize
      used
      pool := data.storagePool.getD config.defaultPool
      sparse := stats.physicalSize < stats.logicalSize || data.isThin
      thinProvision := data.isThin })

def getVolumeStats (volume : VolumeId) : Reader (Option FullStats) :=
  excepting isMissing (volumeStats config volume) none

/-- The loop of `get_all_volumes_stats`: what is tested is not what is stored. -/
def allStats (config : DriverConfig) :
    List VolumeId → List (VolumeId × Option FullStats) → Reader (List (VolumeId × Option FullStats))
  | [], stats => pure stats
  | volume :: rest, stats => do
    if (← getVolumeStats config volume).isSome then
      let again ← getVolumeStats config volume
      allStats config rest (Dict.set volume again stats)
    else allStats config rest stats

def getAllVolumesStats : Reader (List (VolumeId × Option FullStats)) := do
  allStats config (← ask .listMetas) []

def poolStats (config : DriverConfig) (storagePool : PoolName) :
    List VolumeId → List (VolumeId × FullStats) → Reader (List (VolumeId × FullStats))
  | [], stats => pure stats
  | volume :: rest, stats => do
    match ← getVolumeStats config volume with
    | some found =>
      poolStats config storagePool rest (if found.pool = storagePool then Dict.set volume found stats else stats)
    | none => poolStats config storagePool rest stats

def getVolumesStatsByPool (storagePool : PoolName) : Reader (List (VolumeId × FullStats)) := do
  poolStats config storagePool (← ask .listMetas) []

/-- A sample of a metric family, as `add_metric` takes it. -/
structure Sample where
  family : String
  labels : List String
  value : Nat
  deriving DecidableEq

def str (flag : Bool) : String := if flag then "True" else "False"

/-- The samples of one entry; `None` has no items. -/
def volumeSamples (node : String) : VolumeId × Option FullStats → Except String (List Sample)
  | (volume, some stats) => .ok [⟨"rawfile_volume_used", [node, volume], stats.used⟩,
    ⟨"rawfile_volume_total", [node, volume], stats.logicalSize⟩,
    ⟨"rawfile_volume_physical", [node, volume], stats.physicalSize⟩,
    ⟨"rawfile_volume_info", [node, volume, stats.pool, str stats.sparse, str stats.thinProvision], 1⟩]
  | (_, none) => .error "'NoneType' object is not subscriptable"

/-- `stats.get("pool")` of the values, and those of the pool. -/
def ofPool (pool : PoolName) : VolumeId × Option FullStats → Except String (List FullStats)
  | (_, some stats) => .ok (if stats.pool = pool then [stats] else [])
  | (_, none) => .error "'NoneType' object has no attribute 'get'"

def poolSamples (node : String) (all : List (VolumeId × Option FullStats)) (pool : PoolName) :
    Except String (List Sample) := do
  let stats := (← all.mapM (ofPool pool)).flatten
  pure [⟨"rawfile_pool_volumes_physical", [node, pool], (stats.map fun stats => stats.physicalSize).sum⟩,
    ⟨"rawfile_pool_volumes_logical", [node, pool], (stats.map fun stats => stats.logicalSize).sum⟩,
    ⟨"rawfile_pool_volume_count", [node, pool], stats.length⟩]

/-- What `collect` makes of the dictionary, for the pools whose path is available. -/
def collect (node : String) (pools : List PoolName) (all : List (VolumeId × Option FullStats)) :
    Except String (List Sample) := do
  let volumes ← all.mapM (volumeSamples node)
  let totals ← pools.mapM (poolSamples node all)
  pure (volumes.flatten ++ totals.flatten)

/-- What happens at a read: the events of the other threads before it, its
answer, and whether a mount point is gone meanwhile. -/
structure Glance where
  events : List NodeEvent := []
  answer : Answer := {}
  gone : Bool := false

def StatsOp.reply (glance : Glance) (node : Node) : (operation : StatsOp) → Except Err operation.Reply
  | .listMetas => (FileOp.listMetas.exec glance.answer node.files).1
  | .readMeta volume => ((FileOp.readMeta volume).exec glance.answer node.files).1
  | .stat file =>
    if glance.answer.fails then .error .osError
    else match Files.image node.files file.path with
      | some image => .ok ⟨image.physical, image.size⟩
      | none => .error .fileNotFound
  | .attachedLoops file => ((DeviceOp.attachedLoops file.path).exec glance.answer node.files node.devices).1
  | .deviceToMountpoint device =>
    .ok (if glance.answer.fails then none
      else (node.devices.mounts.find? fun mount => mount.source = .loop device).map Mount.point)
  | .statvfs _ =>
    if glance.gone then .error .fileNotFound
    else if glance.answer.fails then .error .osError else .ok glance.answer.amount

def StatsOp.looks : StatsOp → Option VolumeId → Option VolumeId
  | .readMeta volume, _ => some volume
  | _, looked => looked

/-- The record of the volume still names its image, and the image is still there. -/
def lasting (volume : VolumeId) (before after : Node) : Bool :=
  match (Files.metadata before.files volume).bind Meta.imgFile with
  | some pool => (Files.metadata after.files volume).bind Meta.imgFile = some pool &&
    ((Files.image before.files (.imgFile pool volume)).isNone || (Files.image after.files (.imgFile pool volume)).isSome)
  | none => true

/-- The process does not die, and what there is of the volume outlasts the event. -/
def spares (volume : Option VolumeId) (now : NodeConfig) (event : NodeEvent) : Bool :=
  event.running && volume.all fun volume =>
    ((nodePlugin config).next event now).all fun after => lasting volume now.state after.state

/-- The reads of one thread beside the other threads. Where nothing is
`disturbed`, no event takes away a volume between two reads about it, and no
mount point is gone. -/
def beside (disturbed : Bool) : World StatsOp StatsOp.Reply Err Glance Watch where
  exec operation glance now :=
    let later := ((nodePlugin config).run glance.events now.1).getD now.1
    (operation.reply glance later.state, later, operation.looks now.2)
  may operation glance now :=
    let watched := if disturbed ∨ operation.looks now.2 ≠ now.2 then none else now.2
    ((nodePlugin config).runIf (spares config watched) glance.events now.1).isSome = true ∧
      (disturbed = true ∨ glance.gone = false)
  answers _ _ := ⟨{}, by simp [Machine.runIf]⟩

end Metrics
end Rawfile
