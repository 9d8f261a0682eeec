import Rawfile.Calm
import Rawfile.StoragePool

/-! A node that answers the question for a pool's capacity as `get_capacity`
computes it from the files that are there. -/

namespace Rawfile
open Effects

def Path.inPool (storagePool : PoolName) : Path → Bool
  | .imgFile pool _ | .snapshot pool _ _ _ | .creating pool _ _ _ | .cowTestFile pool _ _ | .cowTestClone pool _ =>
    pool = storagePool
  | _ => false

namespace Files

/-- The space a file takes, 0 for what is no file of bytes. -/
def physical (files : Files) (path : Path) : Nat := ((Files.image files path).map Image.physical).getD 0

/-- The space that the files of a kind take. -/
def sizeOf (files : Files) (select : Path → Bool) : Nat := ((files.entries.keys.filter select).map files.physical).sum

/-- The physical size of every file the driver stores in the pool. -/
def storedSize (files : Files) (storagePool : PoolName) : Nat := files.sizeOf (Path.inPool storagePool)

end Files

/-- The file system below a pool, on which nothing changes but the files of the
driver: `free` is what is left when they take so much, and it shrinks by no more
than they grow. -/
structure Disk where
  total : Nat
  free : Nat → Nat
  spends : ∀ used later more, later ≤ used + more → free used ≤ free later + more

def Disk.stats (disk : Disk) (files : Files) (storagePool : PoolName) : Statvfs where
  fsSize := disk.total
  fsAvail := disk.free (files.storedSize storagePool)

/-- The pools of a node: what is configured for each, and what it lies on. -/
structure Accounts where
  config : DriverConfig
  pools : PoolName → StoragePool
  disks : PoolName → Disk

namespace Accounts

/-- `get_capacity` -/
def available (accounts : Accounts) (files : Files) (storagePool : PoolName) : ℚ :=
  (accounts.pools storagePool).capacity accounts.config ((accounts.disks storagePool).stats files storagePool) files
    storagePool

/-- The answer to the question for the capacity; the integers below it are the same. -/
def tells (accounts : Accounts) (operation : Op) (answer : Answer) (now : Clocked) : Prop :=
  match operation with
  | .ask (.capacity storagePool) => answer.amount = ⌊accounts.available now.node.files storagePool⌋₊
  | _ => True

/-- A node on which everything but that question may fail. -/
def loosely (accounts : Accounts) : World Op Op.Reply Err Answer Clocked where
  exec := Clocked.exec
  may := accounts.tells
  answers operation now := by
    unfold tells
    split
    · exact ⟨{ amount := _ }, rfl⟩
    · exact ⟨{}, trivial⟩

def calmly (accounts : Accounts) : World Op Op.Reply Err Answer Clocked where
  exec := Clocked.exec
  may operation answer now := operation.reliable (fun pool => ⌊accounts.available now.node.files pool⌋₊) answer now
  answers operation now := Op.reliable_answers _ operation now

instance (accounts : Accounts) : Calmly accounts.calmly where
  exec_eq := rfl
  steady _ _ _ may := may.steady

end Accounts
end Rawfile
