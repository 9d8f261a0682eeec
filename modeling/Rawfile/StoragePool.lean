import Mathlib.Data.Rat.Floor
import Rawfile.Metadata

/-! `utils/storage_pool.py` with the statistics of `volume_manager.py` it adds
up. A percentage of a size is kept exact. -/

namespace Rawfile

inductive ReservedCapacityMode where
  | plain
  | subtractFromTotal
  deriving DecidableEq

/-- `reserved_capacity`: a number of percent, or of bytes. -/
inductive ReservedCapacity where
  | percent (number : Nat)
  | bytes (number : Nat)
  deriving DecidableEq

/-- The settings of one pool, `config.csi_driver.storage_pools[name]`. -/
structure StoragePool where
  reservedCapacity : ReservedCapacity := .bytes 0
  reservedCapacityMode : ReservedCapacityMode := .plain
  deriving DecidableEq

/-- What `statvfs` says of the file system below a pool. -/
structure Statvfs where
  fsSize : Nat
  fsAvail : Nat
  deriving DecidableEq

/-- What `get_volume_stats` reads off the files; the usage inside a mounted
volume is left out. -/
structure VolumeStats where
  physicalSize : Nat
  logicalSize : Nat
  pool : PoolName
  sparse : Bool
  thinProvision : Bool
  deriving DecidableEq

namespace VolumeManager

/-- A missing file and a missing key both make it `None`. -/
def getVolumeStats (config : DriverConfig) (files : Files) (volume : VolumeId) : Option VolumeStats := do
  let data ← Files.metadata files volume
  let image ← Files.image files (ImgFile.path ⟨← data.imgFile, volume⟩)
  pure {
    physicalSize := image.physical
    logicalSize := image.size
    pool := data.storagePool.getD config.defaultPool
    sparse := image.physical < image.size || data.isThin
    thinProvision := data.isThin }

def getVolumesStatsByPool (config : DriverConfig) (files : Files) (storagePool : PoolName) :
    List (VolumeId × VolumeStats) :=
  files.volumes.filterMap fun volume =>
    match getVolumeStats config files volume with
    | some stats => if stats.pool = storagePool then some (volume, stats) else none
    | none => none

end VolumeManager

namespace StoragePool

def plainReservedCapacityHandler (diskTotalSize : Nat) : ReservedCapacity → ℚ
  | .percent number => diskTotalSize * number / 100
  | .bytes number => number

def subtractFromTotalReservedCapacityHandler (diskTotalSize : Nat) : ReservedCapacity → ℚ
  | .percent number => diskTotalSize - diskTotalSize * number / 100
  | .bytes number => diskTotalSize - number

/-- `reserved_capacity_handlers` -/
def reservedCapacityHandlers : ReservedCapacityMode → Nat → ReservedCapacity → ℚ
  | .plain => plainReservedCapacityHandler
  | .subtractFromTotal => subtractFromTotalReservedCapacityHandler

def reserved (pool : StoragePool) (stats : Statvfs) : ℚ :=
  reservedCapacityHandlers pool.reservedCapacityMode stats.fsSize pool.reservedCapacity

def volumesPhysicalSize (config : DriverConfig) (files : Files) (storagePool : PoolName) : Nat :=
  ((VolumeManager.getVolumesStatsByPool config files storagePool).map fun entry => entry.2.physicalSize).sum

/-- `get_capacity` of a configured pool. -/
def capacity (config : DriverConfig) (pool : StoragePool) (stats : Statvfs) (files : Files) (storagePool : PoolName) : ℚ :=
  max (min (stats.fsSize - pool.reserved stats - volumesPhysicalSize config files storagePool) stats.fsAvail) 0

end StoragePool
end Rawfile
