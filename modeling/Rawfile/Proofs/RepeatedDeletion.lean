import Rawfile.Proofs.FailedSnapshots

/-! Deleting a snapshot again. A deleted volume goes with its last snapshot,
and `delete_snapshot` takes the lock in the directory that went with it. -/

namespace Rawfile
open Effects World

/-- The volume is in one pool, and it is only marked as deleted when its image is named. -/
structure Meta.Sited (pool : PoolName) (data : Meta) : Prop where
  pooled : data.storagePool = some pool
  image : data.imgFile = some pool ∧ data.size.isSome = true ∨ data.imgFile = none ∧ data.deletedAt = none

structure Manageable (config : DriverConfig) (volume : VolumeId) (pool : PoolName) (now : Clocked) : Prop where
  configured : pool ∈ config.storagePools
  fallback : config.defaultPool ∈ config.storagePools
  typed : now.node.files.Typed fun path => path.volume = some volume
  unprobed : now.node.files.Unprobed volume
  sited : ∀ data, Files.metadata now.node.files volume = some data →
    now.node.files.lookup (.volumeDir pool volume) = some .directory ∧ data.Sited pool

structure Absent (config : DriverConfig) (volume : VolumeId) (pool : PoolName) (name : String) (now : Clocked) : Prop where
  manageable : Manageable config volume pool now
  bare : Bare volume pool false name now

/-- A call that deletes the snapshot again or deletes its volume, and ends,
raises or stops anywhere, or something that does not concern the volume. -/
inductive Repeating (config : DriverConfig) (snapshotId : String) (volume : VolumeId) (before after : Clocked) : Prop
  | deleteSnapshot (passes : loose.Passes (Bd2Fs.deleteSnapshot config snapshotId) before after)
  | deleteVolume (passes : loose.Passes (RawFileController.deleteVolume config volume) before after)
  | elsewhere (same : ∀ path : Path, path.volume = some volume →
      after.node.files.lookup path = before.node.files.lookup path)

structure Op.lessens (volume : VolumeId) (operation : Op) : Prop where
  fitting : operation.fitting
  record : operation.touches (.metaFile volume) → operation.change ≠ some .make ∧ operation.change ≠ some .write
  snapshots : ∀ path, path.isSnapshot volume = true ∨ path.isProbe = true → operation.touches path →
    operation.change ≠ some .make ∧ operation.change ≠ some .write

structure Op.trims (volume : VolumeId) (pool : PoolName) (operation : Op) : Prop extends operation.lessens volume where
  home : operation.touches (.volumeDir pool volume) → operation.change ≠ some .remove

section Trimming
variable {config : DriverConfig} {snapshotId : String} {volume : VolumeId} {pool : PoolName} {name : String} {data : Meta}
  {before after now : Clocked} {operation : Op} {answer : Answer} {capacity : PoolName → Nat}

theorem Op.tidy.trims (tidy : operation.tidy volume)
    (probes : ∀ path : Path, path.isProbe = true → operation.touches path →
      operation.change ≠ some .make ∧ operation.change ≠ some .write) : operation.trims volume pool := by
  refine ⟨⟨tidy.fitting, fun touched => absurd touched tidy.record, ?_⟩, tidy.stays pool⟩
  rintro path (snapshot | probe)
  · exact tidy.snapshots path snapshot
  · exact probes path probe

theorem Op.reads.trims (reads : operation.reads) : operation.trims volume pool :=
  reads.tidy.trims fun path _ touched => absurd touched (reads.untouched path)

theorem LockOp.trims (operation : LockOp) : Op.trims volume pool (.lock operation) := by
  refine (LockOp.tidy operation).trims fun path probe touched => ?_
  cases operation <;>
  · cases touched
    cases probe

theorem DeleteSnapshotOp.trims (issued : DeleteSnapshotOp volume name false operation) :
    operation.trims volume pool := by
  refine issued.tidy.trims fun path probe touched => ?_
  cases issued with
  | looking reads => exact absurd touched (reads.untouched path)
  | acquire =>
    cases touched
    cases probe
  | _ => exact ⟨nofun, nofun⟩

private theorem FileOp.trims_unlink {path : Path} {missingOk : Bool} : Op.trims volume pool (.file (.unlink path missingOk)) :=
  ⟨⟨fun _ _ => ⟨nofun, nofun⟩, fun _ => ⟨nofun, nofun⟩, fun _ _ _ => ⟨nofun, nofun⟩⟩, fun _ => nofun⟩

private theorem FileOp.lessens_rmdir {path : Path} : Op.lessens volume (.file (.rmdir path)) :=
  ⟨fun _ _ => ⟨nofun, nofun⟩, fun _ => ⟨nofun, nofun⟩, fun _ _ _ => ⟨nofun, nofun⟩⟩

private theorem FileOp.trims_rmdir {path : Path} (other : path ≠ .volumeDir pool volume) :
    Op.trims volume pool (.file (.rmdir path)) :=
  ⟨lessens_rmdir, fun touched => absurd touched.symm other⟩

private theorem metadata_unwritten
    (record : operation.touches (.metaFile volume) → operation.change ≠ some .make ∧ operation.change ≠ some .write)
    (found : Files.metadata (loose.exec operation answer now).2.node.files volume = some data) :
    Files.metadata now.node.files volume = some data := by
  by_cases touched : operation.touches (.metaFile volume)
  · obtain ⟨unmade, unwritten⟩ := record touched
    have present := Files.metadata_iff.mp found
    rcases operation.exec_altered 0 answer now.node (.metaFile volume) with same | ⟨change, changes, alters⟩
    · exact (Files.metadata_congr same).symm.trans found
    · rw [show (operation.exec 0 answer now.node).2.files.lookup (.metaFile volume) = _ from present] at alters
      generalize now.node.files.lookup (.metaFile volume) = old at alters
      cases alters with
      | write content plain => exact absurd changes unwritten
  · exact (Files.metadata_congr (operation.exec_lookup 0 answer now.node touched)).symm.trans found

theorem Manageable.exec (manageable : Manageable config volume pool now) (lessens : operation.lessens volume)
    (home : ∀ data, Files.metadata now.node.files volume = some data → operation.touches (.volumeDir pool volume) →
      operation.change ≠ some .remove) : Manageable config volume pool (loose.exec operation answer now).2 := by
  obtain ⟨configured, fallback, typed, unprobed, sited⟩ := manageable
  refine ⟨configured, fallback, typed.exec lessens.fitting, fun path probe own => ?_, fun data found => ?_⟩
  · exact Op.exec_missing (lessens.snapshots path (.inr probe)) (unprobed path probe own)
  have found := metadata_unwritten lessens.record found
  obtain ⟨standing, sited⟩ := sited data found
  exact ⟨Op.exec_standing (home data found) standing, sited⟩

theorem Absent.exec (absent : Absent config volume pool name now) (lessens : operation.lessens volume)
    (home : ∀ data, Files.metadata now.node.files volume = some data → operation.touches (.volumeDir pool volume) →
      operation.change ≠ some .remove) : Absent config volume pool name (loose.exec operation answer now).2 := by
  refine ⟨absent.manageable.exec lessens home, ?_, ?_⟩
  · exact Op.exec_missing (lessens.snapshots _ (.inl (decide_eq_true rfl))) absent.bare.1
  · exact Op.exec_missing (lessens.snapshots _ (.inl (decide_eq_true rfl))) absent.bare.2

theorem Absent.congr (absent : Absent config volume pool name before) (same : ∀ path : Path, path.volume = some volume →
    after.node.files.lookup path = before.node.files.lookup path) : Absent config volume pool name after := by
  obtain ⟨⟨configured, fallback, typed, unprobed, sited⟩, bare⟩ := absent
  refine ⟨⟨configured, fallback, fun path entry own found => ?_, fun path probe own => ?_, fun data found => ?_⟩, ?_, ?_⟩
  · rw [same path own] at found
    exact typed path entry own found
  · exact (same path own).trans (unprobed path probe own)
  · rw [same _ rfl]
    exact sited data ((Files.metadata_congr (same _ rfl)).symm.trans found)
  · exact (same _ rfl).trans bare.1
  · exact (same _ rfl).trans bare.2

theorem trimmed {α : Type} {program : Driver α} {post : α → Clocked → Prop}
    (within : program.Within Op.lawful (Op.trims volume pool)) (ok : Loose.Ok post program now)
    (absent : Absent config volume pool name now) : loose.Gives (Absent config volume pool name) post program now := by
  have along := Surely.ofWithin (Absent config volume pool name) within
    (fun operation answer state => Op.exec_lawful operation 0 answer state.node)
    (fun _ _ _ trims _ absent => absent.exec trims.tolessens fun _ _ => trims.home) absent
  exact (Surely.both along ok).weaken (fun _ absent => absent) fun _ _ _ known => known.2

theorem trimming {α : Type} {program : Driver α} (within : program.Within Op.lawful (Op.trims volume pool))
    (absent : Absent config volume pool name now) :
    loose.Gives (Absent config volume pool name) (fun _ _ => True) program now :=
  trimmed within (.ofEnds (Surely.any _ _)) absent

private theorem rmdirIfPresent_gone {path : Path} : Loose.Ok (fun _ after => after.node.files.lookup path = none)
    (VolumeManager.rmdirIfPresent path) now := by
  refine Surely.tryExcept (Surely.perform trivial fun answer reply after _ executed => ⟨trivial, ?_⟩)
  obtain ⟨ran, -, -⟩ := @Calm.file_exec now (.rmdir path) answer after reply executed
  cases reply with
  | ok value =>
    refine ⟨trivial, fun _ _ => ?_⟩
    exact rmdir_gone ran (.inl rfl)
  | error error =>
    dsimp only
    split
    · exact Gives.pure trivial (rmdir_gone ran (.inr rfl))
    · exact Gives.raise trivial

section
variable (absent : Absent config volume pool name now)
include absent

private theorem removeHome_trims {place : PoolName} (emptied : now.node.files.lookup (.metaDir volume) = none) :
    loose.Gives (Absent config volume pool name) (fun _ _ => True)
      (VolumeManager.rmdirIfPresent (.volumeDir place volume)) now := by
  refine .tryRaise (.perform absent fun answer reply after _ executed => ⟨?_, fun _ _ => trivial⟩)
    fun error state absent => ?_
  · have same := congrArg Prod.snd executed
    subst same
    refine absent.exec FileOp.lessens_rmdir fun data found => ?_
    cases emptied.symm.trans (Files.metadata_stands found)
  · split
    · exact .pure absent trivial
    · exact .raise absent

private theorem removeMetadata_trims {place : PoolName} :
    loose.Gives (Absent config volume pool name) (fun _ _ => True) (VolumeManager.removeMetadata config volume place)
      now := by
  have other : Path.metaDir volume ≠ .volumeDir pool volume := by simp
  refine .bind (trimming (.perform (Op.reads.trims trivial)) absent) fun listing first absent _ => ?_
  refine .bind (trimming (.forEach fun path _ => .perform FileOp.trims_unlink) absent) fun _ second absent _ => ?_
  refine .bind (trimmed (VolumeManager.rmdirIfPresent_within (FileOp.trims_rmdir other)) rmdirIfPresent_gone absent)
    fun _ third absent emptied => ?_
  refine .bind (trimmed (getVolumePath_within _ _ _) Loose.getVolumePath absent) fun dir fourth absent known => ?_
  obtain ⟨rfl, rfl, -⟩ := known
  exact removeHome_trims absent emptied

theorem destroyVolume_trims :
    loose.Gives (Absent config volume pool name) (fun _ _ => True) (VolumeManager.destroyVolume config volume false)
      now := by
  have reading : ∀ operation : Op, operation.reads → operation.trims volume pool := fun _ reads => reads.trims
  have clearing : ∀ place temporary, Op.trims volume pool (.file (.rmdir (.snapshotsDir place volume temporary))) :=
    fun place temporary => FileOp.trims_rmdir (by simp)
  unfold VolumeManager.destroyVolume
  rw [if_neg (by simp)]
  refine .bind (trimming (snapshotsDir_within reading _ _ _) absent) fun _ first absent _ => ?_
  refine .bind (trimming (.perform (reading _ trivial)) absent) fun listing second absent _ => ?_
  refine .bind (trimming (VolumeManager.realSnapshots_within reading _ _ _) absent) fun snapshots third absent _ => ?_
  refine .bind (trimming (snapshotsDir_within reading _ _ _) absent) fun _ fourth absent _ => ?_
  refine .bind (trimming (.perform (reading _ trivial)) absent) fun temporaries fifth absent _ => ?_
  refine .bind (trimming (metadataOr_within reading _) absent) fun data sixth absent _ => ?_
  refine .bind (trimming (imgFile_within reading _) absent) fun img seventh absent _ => ?_
  refine .bind (trimming (.perform FileOp.trims_unlink) absent) fun _ eighth absent _ => ?_
  refine .bind (trimming (VolumeManager.removeSnapshotDirs_within reading clearing _ _ _) absent)
    fun _ ninth absent _ => ?_
  split
  · exact removeMetadata_trims absent
  · exact .pure absent trivial

theorem gcIfNeeded_trims :
    loose.Gives (Absent config volume pool name) (fun _ _ => True) (VolumeManager.gcIfNeeded config volume false) now := by
  have reading : ∀ operation : Op, operation.reads → operation.trims volume pool := fun _ reads => reads.trims
  refine .bind (trimming (withVolLock_within (LockOp.trims _) (LockOp.trims _) (metadataOr_within reading _))
    absent) fun data first absent _ => ?_
  split
  · refine .bind (trimming (.perform (reading _ trivial)) absent) fun time second absent _ => ?_
    split
    · exact .bind (destroyVolume_trims absent) fun _ _ absent _ => .pure absent trivial
    · exact .pure absent trivial
  · exact .pure absent trivial

theorem Absent.marked {time : Nat}
    (found : Files.metadata now.node.files volume = some data) (named : data.imgFile.isSome = true) :
    Absent config volume pool name
      (loose.exec (.file (.installMeta volume data (VolumeManager.deletingPatch time))) answer now).2 := by
  obtain ⟨⟨configured, fallback, typed, unprobed, sited⟩, bare⟩ := absent
  have kept : ∀ path : Path, ¬ path = .metaFile volume → _ := fun path other =>
    Op.exec_lookup 0 answer now.node (.file (.installMeta volume data (VolumeManager.deletingPatch time))) other
  have fitting : Op.fitting (.file (.installMeta volume data (VolumeManager.deletingPatch time))) := by
    rintro _ rfl
    exact ⟨nofun, fun _ => rfl⟩
  obtain ⟨home, sited⟩ := sited data found
  refine ⟨⟨configured, fallback, @Files.Typed.exec _ 0 answer now.node _ typed fitting, fun path probe own => ?_,
    fun new installed => ⟨(kept _ (by simp)).trans home, ?_⟩⟩, (kept _ (by simp)).trans bare.1, (kept _ (by simp)).trans bare.2⟩
  · exact (kept path (by rintro rfl; cases probe)).trans (unprobed path probe own)
  rcases @installMeta_cases now.node.files _ _ answer volume data (VolumeManager.deletingPatch time) rfl with
    ⟨-, written⟩ | ⟨same, -⟩
  · cases installed.symm.trans written
    obtain image | unnamed := sited.image
    · exact ⟨sited.pooled, .inl image⟩
    · rw [unnamed.1] at named
      cases named
  · have installed : Files.metadata now.node.files volume = some new := by
      rw [← same]
      exact installed
    cases installed.symm.trans found
    exact sited

theorem markDeleted_trims {time : Nat} {chosen : Option PoolName}
    (found : Files.metadata now.node.files volume = some data) (named : data.imgFile.isSome = true) :
    loose.Gives (Absent config volume pool name) (fun _ _ => True) (withVolLock volume (do
      patchMetadata config volume (← need "storage_pool" chosen) (VolumeManager.deletingPatch time))) now := by
  refine .bind (trimmed (.perform (LockOp.trims _)) (Loose.lock (.inl rfl)) absent) fun _ locked absent alike => ?_
  have found := (Files.metadata_congr (alike _ nofun)).trans found
  have marking : loose.Gives (Absent config volume pool name) (fun _ _ => True) (do
      patchMetadata config volume (← need "storage_pool" chosen) (VolumeManager.deletingPatch time)) locked := by
    refine .bind (trimmed (need_within _ _) Loose.need absent) fun place first absent known => ?_
    obtain ⟨rfl, -⟩ := known
    refine .bind (trimmed (metadataOr_within (fun _ reads => reads.trims) _) (Loose.metadataOr _) absent)
      fun old second absent known => ?_
    obtain ⟨same, rfl⟩ := known
    rw [found, Option.getD_some]
    rw [← same] at found
    refine .bind (trimmed (getVolumePath_within _ _ _) Loose.getVolumePath absent) fun _ third absent known => ?_
    obtain ⟨rfl, -⟩ := known
    refine .perform absent fun answer reply after _ executed => ⟨?_, fun _ _ => trivial⟩
    have same := congrArg Prod.snd executed
    subst same
    exact absent.marked found named
  refine .tryFinally marking (fun _ state absent _ => trimming (.perform (LockOp.trims _)) absent) fun state absent => ?_
  exact Surely.weaken (trimming (.perform (LockOp.trims _)) absent) (fun _ absent => absent) fun _ _ _ _ => trivial

theorem deleteVolume_trims :
    loose.Gives (Absent config volume pool name) (fun _ _ => True) (VolumeManager.deleteVolume config volume) now := by
  have reading : ∀ operation : Op, operation.reads → operation.trims volume pool := fun _ reads => reads.trims
  refine .bind (trimming (metadataOr_within reading _) absent) fun data first absent _ => ?_
  refine .bind (trimming (getVolumePath_within _ _ _) absent) fun dir second absent _ => ?_
  refine .bind (trimming (.perform (reading _ trivial)) absent) fun present third absent _ => ?_
  split
  · exact .pure absent trivial
  · refine .bind (trimmed (imgFile_within reading _) (Loose.imgFile _) absent) fun img fourth absent known => ?_
    obtain ⟨same, old, home, found, named, -⟩ := known
    rw [← same] at found
    refine .bind (trimmed (imgSize_within reading _) (Loose.looks (imgSize_within (fun _ reads => reads) _)) absent)
      fun size fifth absent same => ?_
    rw [← same] at found
    refine .bind (trimmed (attachedLoops_within reading _) (Loose.looks (attachedLoops_within (fun _ reads => reads) _))
      absent) fun loops sixth absent same => ?_
    rw [← same] at found
    split
    · exact .raise absent
    · refine .bind (trimmed (.perform (reading _ trivial)) (Loose.looks (.perform trivial)) absent)
        fun time seventh absent same => ?_
      rw [← same] at found
      refine .bind (markDeleted_trims absent found (by simp [named])) fun _ eighth absent _ => ?_
      exact .bind (gcIfNeeded_trims absent) fun _ _ absent _ => .pure absent trivial

end

private theorem deleteSnapshot_trims : (SnapshotManager.deleteSnapshot config volume name false).Within Op.lawful
    (Op.trims volume pool) :=
  (SnapshotManager.deleteSnapshot_within config volume name false).mono fun _ issued => issued.trims

theorem deleteSnapshot_absent (manageable : Manageable config volume pool now) :
    Loose.Ok (fun _ after => Absent config volume pool name after)
      (SnapshotManager.deleteSnapshot config volume name false) now := by
  have within : (SnapshotManager.deleteSnapshot config volume name false).Within Op.lawful (Op.trims volume pool) :=
    deleteSnapshot_trims
  have stays := Surely.ofWithin (Manageable config volume pool) within
    (fun operation answer state => Op.exec_lawful operation 0 answer state.node)
    (fun _ _ _ trims _ manageable => manageable.exec trims.tolessens fun _ _ => trims.home) manageable
  have clears : Loose.Ok (fun _ after => Bare volume pool false name after)
      (SnapshotManager.deleteSnapshot config volume name false) now := by
    refine Loose.locking (fun locked alike => ?_) fun _ before after kept bare =>
      ⟨(kept _ (by simp)).trans bare.1, (kept _ (by simp)).trans bare.2⟩
    refine .bind (Loose.snapshotsPool config volume) fun place first _ known => ?_
    obtain ⟨-, data, found, rfl⟩ := known
    have found := (Files.metadata_congr (alike _ nofun)).symm.trans found
    rw [(manageable.sited data found).2.pooled, Option.getD_some]
    have unlinks : ∀ {path : Path} {state : Clocked}, Loose.Ok (fun _ after => after.node.files.lookup path = none ∧
        ∀ other, other ≠ path → after.node.files.lookup other = state.node.files.lookup other)
        (Driver.file (.unlink path true)) state :=
      fun {path state} => Loose.file fun _ _ after ran frame _ => ⟨unlink_gone ran, frame⟩
    refine .bind unlinks fun _ second _ file => unlinks.weaken (fun _ _ => trivial) fun _ third _ marker => ?_
    exact ⟨(marker.2 _ (by simp)).trans file.1, marker.1⟩
  refine (Surely.both stays clears).weaken (fun _ _ => trivial) ?_
  rintro _ after _ ⟨manageable, bare⟩ value returned
  exact ⟨manageable, bare value returned⟩

section
variable (enabled : config.snapshotsEnabled = true)
include enabled

section
variable (split : splitId snapshotId = some (volume, name))
include split

theorem deleteSnapshot_split :
    Bd2Fs.deleteSnapshot config snapshotId = (do
      SnapshotManager.deleteSnapshot config volume name false
      let _ ← VolumeManager.gcIfNeeded config volume false) := by
  unfold Bd2Fs.deleteSnapshot Bd2Fs.snapshotsOnly
  rw [if_pos enabled, rsplit, split]
  rfl

private theorem repeated_trims (absent : Absent config volume pool name now) :
    loose.Gives (Absent config volume pool name) (fun _ _ => True) (Bd2Fs.deleteSnapshot config snapshotId) now := by
  rw [deleteSnapshot_split enabled split]
  refine .bind (trimming deleteSnapshot_trims absent) fun _ state absent _ => ?_
  exact .bind (gcIfNeeded_trims absent) fun _ _ absent _ => .pure absent trivial

private theorem deleted_absent (manageable : Manageable config volume pool now) :
    Loose.Ok (fun _ after => Absent config volume pool name after) (Bd2Fs.deleteSnapshot config snapshotId) now := by
  rw [deleteSnapshot_split enabled split]
  refine .bind (deleteSnapshot_absent manageable) fun _ state _ absent => ?_
  have collects := Gives.bind (gcIfNeeded_trims absent) fun _ last absent _ =>
    (Gives.pure absent absent : loose.Gives (Absent config volume pool name)
      (fun _ => Absent config volume pool name) (pure ()) last)
  exact collects.weaken (fun _ _ => trivial) fun _ _ _ absent => absent

end

end

theorem Repeating.absent (step : Repeating config snapshotId volume before after)
    (enabled : config.snapshotsEnabled = true) (split : splitId snapshotId = some (volume, name))
    (absent : Absent config volume pool name before) : Absent config volume pool name after := by
  cases step with
  | deleteSnapshot passes =>
    exact Surely.passes (repeated_trims enabled split absent) passes
  | deleteVolume passes =>
    have along : loose.Gives (Absent config volume pool name) (fun _ _ => True)
        (RawFileController.deleteVolume config volume) before := by
      refine .tryRaise (.bind (deleteVolume_trims absent) fun _ _ absent _ => .pure absent trivial)
        fun error state absent => ?_
      split <;> exact .raise absent
    exact Surely.passes along passes
  | elsewhere same => exact absent.congr same

end Trimming

section Returning
variable {config : DriverConfig} {snapshotId : String} {volume : VolumeId} {pool : PoolName} {name : String} {data : Meta}
  {before after initial now : Clocked} {capacity : PoolName → Nat}

theorem Housing.later (housing : Housing config volume pool data now) (time : Nat) :
    Housing config volume pool data { now with time } :=
  ⟨housing.configured, housing.fallback, housing.typed, housing.unprobed, housing.recorded.later time⟩

private theorem leftover_listed {temporary : Bool} (left : ¬ Bare volume pool temporary name now) :
    ¬ ((now.node.files.children (.snapshotsDir pool volume false)).filter
        (fun path => path ≠ .snapshotsDir pool volume true) = [] ∧
      now.node.files.children (.snapshotsDir pool volume true) = []) := by
  have present : ∃ path : Path, Hierarchy.parent path = some (.snapshotsDir pool volume temporary) ∧
      path ≠ .snapshotsDir pool volume true ∧ now.node.files.lookup path ≠ none := by
    by_contra missing
    simp only [not_exists, not_and, not_not] at missing
    exact left ⟨missing _ rfl nofun, missing _ rfl nofun⟩
  obtain ⟨path, parent, other, present⟩ := present
  rintro ⟨snapshots, temporaries⟩
  have listed := FileTree.mem_children.mpr ⟨present, parent⟩
  cases temporary with
  | true =>
    rw [temporaries] at listed
    cases listed
  | false => exact List.filter_eq_nil_iff.mp snapshots path listed (decide_eq_true other)

/-- With a snapshot left, destroying the volume ends without an error. -/
theorem destroyVolume_leftover {temporary : Bool} (housing : Housing config volume pool data now)
    (left : ¬ Bare volume pool temporary name now) :
    (calm capacity).Ends (fun outcome _ => outcome = .ok ()) (VolumeManager.destroyVolume config volume false) now := by
  have dir := fun {state : Clocked} (housing : Housing config volume pool data state) =>
    @Calm.snapshotsDir (calm capacity) _ state volume data config pool housing.recorded.found housing.recorded.pooled
      housing.configured
  refine (dir housing false).andThen trivial ((Calm.glob _).andThen trivial
    ((realSnapshots_yields housing.configured housing.recorded _).andThen trivial ?_))
  refine (dir housing true).andThen trivial ((Calm.glob _).andThen trivial ?_)
  refine (Calm.metadataOr housing.recorded.found).andThen trivial
    ((Calm.imgFile housing.recorded.found housing.recorded.named).andThen trivial ?_)
  have listed := leftover_listed left
  generalize (now.node.files.children (.snapshotsDir pool volume false)).filter _ = snapshots at listed
  refine .onward (fun _ state => Removed (.imgFile pool volume) now state)
    (Calm.unlink (housing.typed.plain rfl rfl) trivial fun state removed => ⟨trivial, (), rfl, removed⟩) ?_
  intro _ state _ removed
  have after : Housing config volume pool data state := ⟨housing.configured, housing.fallback, housing.typed.removed removed,
    housing.unprobed.agrees removed.2 (by rintro _ rfl; rfl), housing.recorded.agrees removed.2 nofun nofun⟩
  refine .onward (fun _ _ => True) ?_ fun _ last _ _ => ?_
  · unfold VolumeManager.removeSnapshotDirs
    split
    next bare =>
      have vacant : state.node.files.children (.snapshotsDir pool volume true) = [] := by
        refine Files.children_nil fun path parent => ?_
        by_contra present
        have other : path ≠ .imgFile pool volume := by
          rintro rfl
          cases parent
        rw [removed.2.files path other] at present
        have inside := FileTree.mem_children.mpr ⟨present, parent⟩
        rw [bare] at inside
        cases inside
      refine (dir after true).andThen trivial (.onward (fun _ _ => True)
        (Calm.rmdir (after.typed.directory rfl rfl) vacant trivial fun _ _ => ⟨trivial, (), rfl, trivial⟩)
        fun _ last _ _ => ?_)
      rw [if_neg fun empty => listed ⟨empty, bare⟩]
      exact .pure trivial ⟨(), rfl, trivial⟩
    · exact .pure trivial ⟨(), rfl, trivial⟩
  · rw [if_neg listed]
    exact .pure trivial rfl

private theorem destroyVolume_returns (housing : Housing config volume pool data now) :
    (calm capacity).Ends (fun outcome _ => outcome = .ok ()) (VolumeManager.destroyVolume config volume false) now := by
  by_cases bare : ∀ temporary name, Bare volume pool temporary name now
  · have layout : Layout config volume pool (fun _ => none) now :=
      ⟨housing.configured, housing.fallback, fun path entry own found => housing.typed path entry own found,
        fun name => (bare false name).1, fun name => (bare true name).1, fun temporary name => (bare temporary name).2,
        housing.unprobed⟩
    refine (destroyVolume_spec layout housing.recorded).weaken (fun _ _ => trivial) ?_
    rintro _ _ _ ⟨value, rfl, -⟩
    rfl
  · simp only [not_forall] at bare
    obtain ⟨temporary, name, left⟩ := bare
    exact destroyVolume_leftover housing left

section
variable (manageable : Manageable config volume pool now) (found : Files.metadata now.node.files volume = some data)
include manageable found

private theorem gcIfNeeded_returns :
    (calm capacity).Ends (fun outcome _ => ∃ value, outcome = .ok value) (VolumeManager.gcIfNeeded config volume false)
      now := by
  refine .onward _ (locked_metadata found (manageable.typed.plain rfl rfl) trivial fun _ _ => trivial) ?_
  rintro _ state _ ⟨rfl, relocked⟩
  obtain ⟨home, sited⟩ := manageable.sited _ found
  split
  next deletedAt gcAt deleted due =>
    refine Calm.clock trivial fun time later => ?_
    split
    · obtain ⟨named, sized⟩ := sited.image.resolve_right fun unnamed => by rw [unnamed.2] at deleted; cases deleted
      have housing : Housing config volume pool _ now :=
        ⟨manageable.configured, manageable.fallback, manageable.typed, manageable.unprobed, found, home, sited.pooled,
          named, sized⟩
      refine .onward (fun _ _ => True) ((destroyVolume_returns ((housing.relocked relocked).later time)).weaken
        (fun _ _ => trivial) ?_) fun _ _ _ _ => .pure trivial ⟨true, rfl⟩
      rintro _ _ _ rfl
      exact ⟨(), rfl, trivial⟩
    · exact .pure trivial ⟨false, rfl⟩
  · exact .pure trivial ⟨false, rfl⟩

private theorem deleteSnapshot_returns :
    (calm capacity).Ends (fun outcome _ => outcome = .ok ()) (do
      SnapshotManager.deleteSnapshot config volume name false
      let _ ← VolumeManager.gcIfNeeded config volume false) now := by
  obtain ⟨home, sited⟩ := manageable.sited data found
  refine .onward _ (deleteSnapshot_unsnaps manageable.configured manageable.typed found sited.pooled) ?_
  intro _ state _ unsnapped
  have same : Files.metadata state.node.files volume = Files.metadata now.node.files volume :=
    Files.metadata_congr (unsnapped.agrees.files _ (by simp))
  have after : Manageable config volume pool state := by
    refine ⟨manageable.configured, manageable.fallback, unsnapped.typed manageable.typed,
      unsnapped.unprobed manageable.unprobed, fun other seen => ?_⟩
    rw [unsnapped.agrees.files _ (by simp)]
    exact manageable.sited other (same.symm.trans seen)
  refine .onward (fun _ _ => True) ((gcIfNeeded_returns after (same.trans found)).weaken (fun _ _ => trivial) ?_)
    fun _ _ _ _ => .pure trivial rfl
  rintro _ _ _ ⟨value, rfl⟩
  exact ⟨value, rfl, trivial⟩

end

private theorem deleteSnapshot_unrecorded (missing : Files.metadata now.node.files volume = none) :
    Loose.Ok (fun _ _ => False) (SnapshotManager.deleteSnapshot config volume name false) now := by
  refine Loose.locking (fun locked alike => ?_) fun _ _ _ _ absurd => absurd
  refine .bind (Loose.snapshotsPool config volume) fun _ state _ known => ?_
  obtain ⟨-, data, found, -⟩ := known
  rw [Files.metadata_congr (alike _ nofun), missing] at found
  cases found

theorem repeated_iff (enabled : config.snapshotsEnabled = true) (split : splitId snapshotId = some (volume, name))
    (absent : Absent config volume pool name now) :
    (calm capacity).Ends (fun outcome after => outcome = .ok () ∧ Bare volume pool false name after)
      (Bd2Fs.deleteSnapshot config snapshotId) now ↔ (Files.metadata now.node.files volume).isSome = true := by
  constructor
  · intro returns
    by_contra unrecorded
    have missing : Files.metadata now.node.files volume = none := Option.not_isSome_iff_eq_none.mp unrecorded
    have fails : Loose.Ok (fun _ _ => False) (Bd2Fs.deleteSnapshot config snapshotId) now := by
      rw [deleteSnapshot_split enabled split]
      exact .bind (deleteSnapshot_unrecorded missing) fun _ _ _ absurd => absurd.elim
    have fails : (calm capacity).Ends _ _ now := Surely.restrict fails rfl fun _ _ _ _ => trivial
    obtain ⟨_, _, ⟨rfl, -⟩, never⟩ := (returns.both fails).satisfiable
    exact never () rfl
  · intro recorded
    obtain ⟨data, found⟩ := Option.isSome_iff_exists.mp recorded
    have stays : loose.Ends (fun _ after => Absent config volume pool name after) (Bd2Fs.deleteSnapshot config snapshotId)
        now := Surely.weaken (repeated_trims enabled split absent) (fun _ _ => trivial) fun _ _ absent _ => absent
    have stays : (calm capacity).Ends _ _ now := stays.restrict rfl fun _ _ _ _ => trivial
    have returns : (calm capacity).Ends (fun outcome _ => outcome = .ok ()) (Bd2Fs.deleteSnapshot config snapshotId)
        now := by
      rw [deleteSnapshot_split enabled split]
      exact deleteSnapshot_returns absent.manageable found
    exact (returns.both stays).weaken (fun _ _ => trivial) fun _ _ _ known => ⟨known.1, known.2.bare⟩

/-- Once `DeleteSnapshot` returned, the snapshot stays deleted, and the call
returns again if and only if the metadata of the volume are still there. -/
theorem delete_snapshot_repeats (split : splitId snapshotId = some (volume, name))
    (manageable : Manageable config volume pool initial) :
    Loose.Ok (fun _ returned => ∀ now, Relation.ReflTransGen (Repeating config snapshotId volume) returned now →
      Bare volume pool false name now ∧
      ((calm capacity).Ends (fun outcome after => outcome = .ok () ∧ Bare volume pool false name after)
        (Bd2Fs.deleteSnapshot config snapshotId) now ↔ (Files.metadata now.node.files volume).isSome = true))
      (Bd2Fs.deleteSnapshot config snapshotId) initial := by
  by_cases enabled : config.snapshotsEnabled = true
  · refine (deleted_absent enabled split manageable).weaken (fun _ _ => trivial) fun _ returned _ absent now history => ?_
    have absent : Absent config volume pool name now := by
      induction history with
      | refl => exact absent
      | tail _ step ih => exact step.absent enabled split ih
    exact ⟨absent.bare, repeated_iff enabled split absent⟩
  · unfold Bd2Fs.deleteSnapshot Bd2Fs.snapshotsOnly
    rw [if_neg enabled]
    exact .raise trivial

private theorem Housing.manageable (housing : Housing config volume pool data now) : Manageable config volume pool now := by
  refine ⟨housing.configured, housing.fallback, housing.typed, housing.unprobed, fun other found => ?_⟩
  cases found.symm.trans housing.recorded.found
  exact ⟨housing.recorded.home, housing.recorded.pooled, .inl ⟨housing.recorded.named, housing.recorded.sized⟩⟩

end Returning
namespace RepeatedDeletion

def cut : Option Clocked := FailedSnapshots.created.bind FailedSnapshots.retried

def deleting (now : Clocked) : Except Err Unit × Clocked :=
  (Bd2Fs.deleteSnapshot singlePool "v/s").eval (fun operation state => loose.exec operation {} state) now

def deleted (now : Clocked) : Option Clocked :=
  loose.follow (List.replicate 30 {}) (RawFileController.deleteVolume singlePool "v") now

theorem delete_snapshot_repeats_kept : ∃ initial : Clocked,
    initial.node.files.present (.snapshot "default" "v" false "s") = true ∧
      Loose.Ok (fun _ returned => ∀ now, Relation.ReflTransGen (Repeating singlePool "v/s" "v") returned now →
        Bare "v" "default" false "s" now ∧
        ((calm fun _ => 0).Ends (fun outcome after => outcome = .ok () ∧ Bare "v" "default" false "s" after)
          (Bd2Fs.deleteSnapshot singlePool "v/s") now ↔ (Files.metadata now.node.files "v").isSome = true))
        (Bd2Fs.deleteSnapshot singlePool "v/s") initial := by
  have tested : (cut.any fun initial => FailedSnapshots.whole initial &&
      initial.node.files.present (.snapshot "default" "v" false "s")) = true := by
    decide +kernel
  obtain ⟨initial, -, tested⟩ := (Option.any_eq_true ..).mp tested
  obtain ⟨whole, present⟩ := Bool.and_eq_true_iff.mp tested
  obtain ⟨data, housing⟩ := FailedSnapshots.whole_spec whole
  exact ⟨initial, present, delete_snapshot_repeats (by decide +kernel) housing.manageable⟩

/-- The volume is deleted first, the snapshot takes it along, and deleting the snapshot again raises. -/
theorem delete_snapshot_raises : ∃ initial volumeless : Clocked, ∃ data,
    Housing singlePool "v" "default" data initial ∧
      initial.node.files.present (.snapshot "default" "v" false "s") = true ∧
      loose.Passes (RawFileController.deleteVolume singlePool "v") initial volumeless ∧
      (deleting volumeless).1 = .ok () ∧ (deleting (deleting volumeless).2).1 = .error .fileNotFound := by
  have tested : (cut.any fun initial => FailedSnapshots.whole initial &&
      initial.node.files.present (.snapshot "default" "v" false "s") && (deleted initial).any fun volumeless =>
        decide ((deleting volumeless).1 = .ok ()) &&
          decide ((deleting (deleting volumeless).2).1 = .error .fileNotFound)) = true := by
    decide +kernel
  obtain ⟨initial, -, tested⟩ := (Option.any_eq_true ..).mp tested
  obtain ⟨tested, last⟩ := Bool.and_eq_true_iff.mp tested
  obtain ⟨whole, present⟩ := Bool.and_eq_true_iff.mp tested
  obtain ⟨volumeless, passes, tested⟩ := (Option.any_eq_true ..).mp last
  obtain ⟨returned, raised⟩ := Bool.and_eq_true_iff.mp tested
  obtain ⟨data, housing⟩ := FailedSnapshots.whole_spec whole
  exact ⟨initial, volumeless, data, housing, present, follow_passes passes, of_decide_eq_true returned,
    of_decide_eq_true raised⟩

end RepeatedDeletion
end Rawfile
