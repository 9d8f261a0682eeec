import Mathlib.Algebra.BigOperators.Group.Finset.Basic
import Mathlib.Algebra.Order.BigOperators.Group.Finset
import Mathlib.Tactic.Linarith
import Rawfile.Accounts
import Rawfile.Proofs.Calm

/-! What `get_capacity` accounts for. It adds up the images of the volumes whose
metadata name the pool; snapshots and images without metadata take space that is
not in the sum. -/

namespace Rawfile
open Effects

private theorem sum_le_sum_add {ι : Type} [DecidableEq ι] {index : ι} {old new : ι → Nat} {more : Nat}
    (others : ∀ other, other ≠ index → new other ≤ old other) (own : new index ≤ old index + more) (indices : Finset ι) :
    ∑ each ∈ indices, new each ≤ ∑ each ∈ indices, old each + more := by
  by_cases member : index ∈ indices
  · rw [← Finset.add_sum_erase _ _ member, ← Finset.add_sum_erase _ _ member]
    have rest : ∑ each ∈ indices.erase index, new each ≤ ∑ each ∈ indices.erase index, old each :=
      Finset.sum_le_sum fun other kept => others other (Finset.ne_of_mem_erase kept)
    omega
  · have rest : ∑ each ∈ indices, new each ≤ ∑ each ∈ indices, old each :=
      Finset.sum_le_sum fun other kept => others other fun same => member (same ▸ kept)
    omega

namespace Files

private theorem physical_of_missing {files : Files} {path : Path} (missing : files.lookup path = none) :
    files.physical path = 0 := by
  simp [physical, image, missing]

private theorem sizeOf_split (files : Files) (select other : Path → Bool) :
    files.sizeOf select =
      files.sizeOf (fun path => select path && other path) + files.sizeOf fun path => select path && !other path := by
  unfold sizeOf
  induction files.entries.keys with
  | nil => rfl
  | cons path rest ih => cases chosen : select path <;> cases both : other path <;> simp [chosen, both] <;> omega

private theorem storedSize_eq_sum (files : Files) (storagePool : PoolName) {paths : Finset Path}
    (covered : ∀ path, files.lookup path ≠ none → path ∈ paths) :
    files.storedSize storagePool = ∑ path ∈ paths.filter (fun path => path.inPool storagePool = true), files.physical path := by
  have nodup : (files.entries.keys.filter (Path.inPool storagePool)).Nodup := files.entries.nodupKeys.filter _
  unfold storedSize sizeOf
  rw [← List.sum_toFinset _ nodup]
  apply Finset.sum_subset
  · intro path member
    simp only [List.mem_toFinset, List.mem_filter, FileTree.listed_iff] at member
    exact Finset.mem_filter.mpr ⟨covered path member.1, member.2⟩
  · intro path member absent
    apply physical_of_missing
    by_contra present
    apply absent
    simp only [List.mem_toFinset, List.mem_filter, FileTree.listed_iff]
    exact ⟨present, (Finset.mem_filter.mp member).2⟩

theorem storedSize_le {before after : Files} {storagePool : PoolName} {path : Path} {more : Nat}
    (others : ∀ other, other.inPool storagePool = true → other ≠ path → after.lookup other = before.lookup other)
    (own : after.physical path ≤ before.physical path + more) :
    after.storedSize storagePool ≤ before.storedSize storagePool + more := by
  classical
  let paths := before.entries.keys.toFinset ∪ after.entries.keys.toFinset
  have first : ∀ other, before.lookup other ≠ none → other ∈ paths := by
    intro other present
    simp [paths, FileTree.listed_iff, present]
  have second : ∀ other, after.lookup other ≠ none → other ∈ paths := by
    intro other present
    simp [paths, FileTree.listed_iff, present]
  rw [storedSize_eq_sum before storagePool first, storedSize_eq_sum after storagePool second, Finset.sum_filter,
    Finset.sum_filter]
  refine @sum_le_sum_add _ _ path _ _ more ?_ ?_ paths
  · intro other different
    split
    next inside =>
      have same : after.physical other = before.physical other := by
        unfold physical
        rw [image_congr (others other inside different)]
      exact same.le
    · exact Nat.le_refl 0
  · split <;> omega

end Files

namespace StoragePool

variable {config : DriverConfig} {pool : StoragePool} {stats : Statvfs} {files : Files} {storagePool : PoolName}

def share (config : DriverConfig) (files : Files) (storagePool : PoolName) (volume : VolumeId) : Nat :=
  if volume.startsWith "." then 0
  else match VolumeManager.getVolumeStats config files volume with
    | some stats => if stats.pool = storagePool then stats.physicalSize else 0
    | none => 0

theorem mem_volumes {volume : VolumeId} :
    volume ∈ files.volumes ↔ files.lookup (.metaFile volume) ≠ none ∧ volume.startsWith "." = false := by
  simp only [Files.volumes, List.mem_filterMap]
  constructor
  · rintro ⟨path, listed, named⟩
    cases path <;> simp only [reduceCtorEq] at named
    split at named
    · cases named
    next visible =>
      cases named
      exact ⟨FileTree.listed_iff.mp listed, by simpa using visible⟩
  · rintro ⟨present, visible⟩
    exact ⟨.metaFile volume, FileTree.listed_iff.mpr present, by simp [visible]⟩

private theorem volumes_nodup (files : Files) : files.volumes.Nodup := by
  apply files.entries.nodupKeys.filterMap
  intro first second volume named other
  cases first <;> simp only [Option.mem_def, reduceCtorEq] at named
  cases second <;> simp only [Option.mem_def, reduceCtorEq] at other
  split at named <;> split at other <;> simp_all

private theorem share_counts {volume : VolumeId} (counts : share config files storagePool volume ≠ 0) :
    ∃ home data, volume.startsWith "." = false ∧ Files.metadata files volume = some data ∧
      data.imgFile = some home ∧ data.storagePool.getD config.defaultPool = storagePool ∧
      files.lookup (.imgFile home volume) ≠ none := by
  cases visible : volume.startsWith "." with
  | true => simp [share, visible] at counts
  | false =>
    cases read : Files.metadata files volume with
    | none => simp [share, VolumeManager.getVolumeStats, read] at counts
    | some data =>
      cases named : data.imgFile with
      | none => simp [share, VolumeManager.getVolumeStats, read, named] at counts
      | some home =>
        cases stored : Files.image files (.imgFile home volume) with
        | none => simp [share, VolumeManager.getVolumeStats, read, named, ImgFile.path, stored] at counts
        | some image =>
          refine ⟨home, data, rfl, rfl, named, ?_, by simp [Files.image_iff.mp stored]⟩
          by_contra other
          simp [share, VolumeManager.getVolumeStats, read, named, ImgFile.path, stored, other] at counts

private theorem share_of_unlisted {volume : VolumeId} (unlisted : volume ∉ files.volumes) :
    share config files storagePool volume = 0 := by
  by_contra counts
  obtain ⟨home, data, visible, read, -⟩ := share_counts counts
  exact unlisted (mem_volumes.mpr ⟨by simp [Files.metadata_iff.mp read], visible⟩)

/-- The physical size of a pool is the sum of the shares of its volumes. -/
theorem volumesPhysicalSize_eq_sum {volumes : Finset VolumeId} (covered : ∀ volume ∈ files.volumes, volume ∈ volumes) :
    volumesPhysicalSize config files storagePool = ∑ volume ∈ volumes, share config files storagePool volume := by
  have each (listed : List VolumeId) (known : ∀ volume ∈ listed, volume.startsWith "." = false) :
      ((listed.filterMap fun volume =>
        match VolumeManager.getVolumeStats config files volume with
        | some stats => if stats.pool = storagePool then some (volume, stats) else none
        | none => none).map fun entry => entry.2.physicalSize).sum =
        (listed.map (share config files storagePool)).sum := by
    induction listed with
    | nil => rfl
    | cons volume rest ih =>
      have later := ih fun other member => known other (List.mem_cons_of_mem _ member)
      have visible := known volume List.mem_cons_self
      rw [List.map_cons, List.sum_cons, ← later]
      simp only [List.filterMap_cons, share, visible, Bool.false_eq_true, if_false]
      cases VolumeManager.getVolumeStats config files volume with
      | none => simp
      | some stats => by_cases own : stats.pool = storagePool <;> simp [own]
  refine (each files.volumes fun volume member => (mem_volumes.mp member).2).trans ?_
  rw [← List.sum_toFinset _ (volumes_nodup files)]
  apply Finset.sum_subset
  · intro volume member
    exact covered volume (List.mem_toFinset.mp member)
  · intro volume _ absent
    exact share_of_unlisted fun listed => absent (List.mem_toFinset.mpr listed)

/-- When one volume grows, what is counted grows by no more. -/
theorem volumesPhysicalSize_le {before after : Files} {volume : VolumeId} {more : Nat}
    (others : ∀ other, other ≠ volume →
      VolumeManager.getVolumeStats config after other = VolumeManager.getVolumeStats config before other)
    (own : share config after storagePool volume ≤ share config before storagePool volume + more) :
    volumesPhysicalSize config after storagePool ≤ volumesPhysicalSize config before storagePool + more := by
  classical
  let volumes := before.volumes.toFinset ∪ after.volumes.toFinset
  have first : ∀ other ∈ before.volumes, other ∈ volumes := by
    intro other listed
    simp [volumes, listed]
  have second : ∀ other ∈ after.volumes, other ∈ volumes := by
    intro other listed
    simp [volumes, listed]
  rw [volumesPhysicalSize_eq_sum first, volumesPhysicalSize_eq_sum second]
  refine sum_le_sum_add (fun other different => ?_) own volumes
  unfold share
  rw [others other different]

theorem capacity_nonneg : 0 ≤ pool.capacity config stats files storagePool := le_max_right _ _

private theorem capacity_le_avail : pool.capacity config stats files storagePool ≤ stats.fsAvail :=
  max_le (min_le_right _ _) (Nat.cast_nonneg _)

private theorem capacity_le_iff {bound : ℚ} (positive : 0 ≤ bound) :
    pool.capacity config stats files storagePool ≤ bound ↔
      stats.fsSize - pool.reserved stats - volumesPhysicalSize config files storagePool ≤ bound ∨
        stats.fsAvail ≤ bound := by
  unfold capacity
  rw [max_le_iff, min_le_iff]
  exact and_iff_left positive

/-- The images that `get_capacity` adds up: those that the metadata of a visible
volume of the pool name, wherever they lie. -/
def accounted (config : DriverConfig) (files : Files) (storagePool : PoolName) : Path → Bool
  | .imgFile home volume => !volume.startsWith "." && (Files.metadata files volume).any fun data =>
    data.imgFile = some home && data.storagePool.getD config.defaultPool = storagePool
  | _ => false

private theorem accounted_iff {path : Path} : accounted config files storagePool path = true ↔
    ∃ home volume data, path = .imgFile home volume ∧ volume.startsWith "." = false ∧
      Files.metadata files volume = some data ∧ data.imgFile = some home ∧
      data.storagePool.getD config.defaultPool = storagePool := by
  cases path <;> simp [accounted, Option.any_eq_true]

private theorem share_named {volume : VolumeId} {home : PoolName} {data : Meta} (visible : volume.startsWith "." = false)
    (read : Files.metadata files volume = some data) (named : data.imgFile = some home)
    (own : data.storagePool.getD config.defaultPool = storagePool) :
    share config files storagePool volume = files.physical (.imgFile home volume) := by
  cases stored : Files.image files (.imgFile home volume) <;>
    simp [share, visible, VolumeManager.getVolumeStats, read, named, ImgFile.path, Files.physical, stored, own]

/-- The sum is over files: each volume has one image that counts. -/
theorem volumesPhysicalSize_accounted :
    volumesPhysicalSize config files storagePool = files.sizeOf (accounted config files storagePool) := by
  classical
  have nodup : (files.entries.keys.filter (accounted config files storagePool)).Nodup := files.entries.nodupKeys.filter _
  rw [@volumesPhysicalSize_eq_sum config files storagePool files.volumes.toFinset fun _ => List.mem_toFinset.mpr,
    Files.sizeOf, ← List.sum_toFinset _ nodup]
  have found {path : Path} (member : path ∈ (files.entries.keys.filter
      (accounted config files storagePool)).toFinset) := accounted_iff.mp (List.mem_filter.mp (List.mem_toFinset.mp member)).2
  let owner : Path → VolumeId
    | .imgFile _ volume => volume
    | _ => ""
  symm
  apply Finset.sum_of_injOn owner
  · intro first one second two same
    obtain ⟨home, volume, data, rfl, -, read, named, -⟩ := found one
    obtain ⟨other, _, _, rfl, -, again, renamed, -⟩ := found two
    cases (show volume = _ from same)
    cases read.symm.trans again
    cases named.symm.trans renamed
    rfl
  · intro path member
    obtain ⟨home, volume, data, rfl, visible, read, -⟩ := found member
    refine List.mem_toFinset.mpr (mem_volumes.mpr ⟨?_, visible⟩)
    show files.lookup (.metaFile volume) ≠ none
    simp [Files.metadata_iff.mp read]
  · intro volume _ apart
    by_contra counts
    obtain ⟨home, data, visible, read, named, own, there⟩ := share_counts counts
    refine apart ⟨.imgFile home volume, ?_, rfl⟩
    refine List.mem_toFinset.mpr (List.mem_filter.mpr ⟨FileTree.listed_iff.mpr there, accounted_iff.mpr ?_⟩)
    exact ⟨home, volume, data, rfl, visible, read, named, own⟩
  · intro path member
    obtain ⟨home, volume, data, rfl, visible, read, named, own⟩ := found member
    exact (share_named visible read named own).symm

/-- The capacity of a pool is never negative nor above the free space. It leaves
room for everything the driver stores if and only if the files in the pool that
it does not count (snapshots and images that no metadata of the pool name) take no
more space than the counted images outside of it, or what it counts fills the pool
alone, or no more than that room is free. -/
theorem capacity_accounts (config : DriverConfig) (pool : StoragePool) (stats : Statvfs) (files : Files)
    (storagePool : PoolName) :
    0 ≤ pool.capacity config stats files storagePool ∧
      pool.capacity config stats files storagePool ≤ stats.fsAvail ∧
      (pool.capacity config stats files storagePool ≤
          max 0 (stats.fsSize - pool.reserved stats - files.storedSize storagePool) ↔
        files.sizeOf (fun path => path.inPool storagePool && !accounted config files storagePool path) ≤
            files.sizeOf (fun path => accounted config files storagePool path && !path.inPool storagePool) ∨
          stats.fsSize - pool.reserved stats ≤ files.sizeOf (accounted config files storagePool) ∨
          (stats.fsAvail : ℚ) ≤ max 0 (stats.fsSize - pool.reserved stats - files.storedSize storagePool)) := by
  refine ⟨capacity_nonneg, capacity_le_avail, ?_⟩
  rw [capacity_le_iff (le_max_left _ _), le_max_iff, or_assoc, volumesPhysicalSize_accounted]
  have stored := files.sizeOf_split (Path.inPool storagePool) (accounted config files storagePool)
  have counted := files.sizeOf_split (accounted config files storagePool) (Path.inPool storagePool)
  simp only [Bool.and_comm (accounted config files storagePool _) (Path.inPool storagePool _)] at counted
  have covers : files.sizeOf (fun path => path.inPool storagePool && !accounted config files storagePool path) ≤
      files.sizeOf (fun path => accounted config files storagePool path && !path.inPool storagePool) ↔
      (files.storedSize storagePool : ℚ) ≤ files.sizeOf (accounted config files storagePool) := by
    rw [Nat.cast_le, show files.storedSize storagePool = _ from stored, counted, Nat.add_le_add_iff_left]
  rw [covers]
  constructor
  · rintro (full | counted | free)
    · exact .inr (.inl (by linarith))
    · exact .inl (by linarith)
    · exact .inr (.inr free)
  · rintro (counted | full | free)
    · exact .inr (.inl (by linarith))
    · exact .inl (by linarith)
    · exact .inr (.inr free)

namespace Accounting
open Effects World

def volume : CreateVolumeArgs where
  volumeId := "v"
  size := 4
  storagePool := "default"
  thinProvision := false

def snapshot : CreateSnapshotArgs where
  volumeId := "v"
  name := "s"
  copyOnWrite := false

def stored : Files :=
  let created := (loose.follow (List.replicate 16 {}) (VolumeManager.createVolume singlePool volume) ⟨{}, 0⟩).getD ⟨{}, 0⟩
  let copied := loose.follow (List.replicate 13 {}) (SnapshotManager.createSnapshot singlePool snapshot) created
  (copied.getD ⟨{}, 0⟩).node.files

/-- Half of the disk is reserved, and what is neither reserved nor stored is free. -/
theorem snapshot_not_accounted : let pool : StoragePool := { reservedCapacity := .percent 50 }
    let stats : Statvfs := { fsSize := 20, fsAvail := 12 }
    stored.storedSize "default" = 8 ∧ pool.capacity singlePool stats stored "default" = 6 ∧
      ¬ pool.capacity singlePool stats stored "default" ≤
        max 0 (stats.fsSize - pool.reserved stats - stored.storedSize "default") := by
  decide +kernel

end Accounting
end StoragePool
end Rawfile
