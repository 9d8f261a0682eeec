import Rawfile.Metrics
import Rawfile.NodeMapping

/-! `GetVolumesStat` of `internal_svc.py`, and the routes of
`api_server/v1/routes/nodes/volumes.py` that ask the plugin of a node for it. -/

namespace Rawfile
open Effects Program

/-- `VolumeStat` as it is read from the response: a time that is not set is 0. -/
structure VolumeStat where
  size : Nat
  copyOnWrite : Bool
  thinProvision : Bool
  ready : Bool
  deletedAt : Nat
  createdAt : Nat
  gcAt : Nat
  freezefs : Bool
  storagePool : PoolName
  imgFile : PoolName
  used : Nat
  logicalSize : Nat
  physicalSize : Nat
  deriving DecidableEq

namespace Internal
open Metrics

/-- `meta[key]` -/
def item (key : String) (value : Option α) : Reader α := value.elim (raise (.keyError key)) pure

/-- The loop passes over a volume or stores its statistics. -/
def volumeStat (config : DriverConfig) (poolName : String) (volname : VolumeId) : Reader (Option VolumeStat) := do
  let data ← Metrics.metadataOr volname
  if data = {} ∨ poolName ≠ "" ∧ data.storagePool ≠ some poolName then return none
  match ← getVolumeStats config volname with
  | none => return none
  | some sizeStats =>
    return some {
      size := ← item "size" data.size
      copyOnWrite := copyOnWrite config data
      thinProvision := ← item "thin_provision" data.thinProvision
      ready := ← item "ready" data.ready
      deletedAt := data.deletedAt.getD 0
      createdAt := ← item "created_at" data.createdAt
      gcAt := data.gcAt.getD 0
      freezefs := data.freezefs.join.getD false
      storagePool := ← item "storage_pool" data.storagePool
      imgFile := ← item "img_file" data.imgFile
      used := sizeStats.used
      logicalSize := sizeStats.logicalSize
      physicalSize := sizeStats.physicalSize }

def volumesStat (config : DriverConfig) (poolName : String) : List VolumeId → Reader (List (VolumeId × VolumeStat))
  | [] => pure []
  | volname :: rest => do
    let stat ← volumeStat config poolName volname
    let stats ← volumesStat config poolName rest
    return (stat.toList.map fun stat => (volname, stat)) ++ stats

def getVolumesStat (config : DriverConfig) (poolName volumeName : String) : Reader (List (VolumeId × VolumeStat)) := do
  let volumes ← if volumeName ≠ "" then pure [volumeName] else ask .listMetas
  volumesStat config poolName volumes

end Internal

namespace Api

inductive Error where
  | notFound (detail : String)
  | remote (error : Err)
  deriving DecidableEq

/-- The plugin at an address, and how it answers a read while its node does not change. -/
structure Plugin where
  config : DriverConfig
  node : Node
  glance : Metrics.StatsOp → Metrics.Glance

def Plugin.exec (plugin : Plugin) (operation : Metrics.StatsOp) (_ : Unit) : Except Err operation.Reply × Unit :=
  (operation.reply (plugin.glance operation) plugin.node, ())

def request (mapping : NodeIPMapping) (plugin : String → Plugin) (nodeName poolName volumeName : String) :
    Except Error (List (VolumeId × VolumeStat)) :=
  match mapping.getNodeIp nodeName with
  | none => .error (.notFound ("Selected Node " ++ nodeName ++ " Not found"))
  | some ip =>
    ((Internal.getVolumesStat (plugin ip).config poolName volumeName).eval (plugin ip).exec ()).1.mapError .remote

def getNodePoolVolumes (mapping : NodeIPMapping) (plugin : String → Plugin) (nodeName poolName : String) :
    Except Error (List (VolumeId × VolumeStat)) :=
  request mapping plugin nodeName poolName ""

def getNodePoolVolume (mapping : NodeIPMapping) (plugin : String → Plugin) (nodeName poolName volumeName : String) :
    Except Error VolumeStat := do
  match (← request mapping plugin nodeName poolName volumeName).lookup volumeName with
  | some stat => return stat
  | none => throw (.notFound ("Selected Volume " ++ volumeName ++ " Not found in Pool " ++ poolName))

end Api
end Rawfile
