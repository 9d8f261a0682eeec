import Rawfile.Proofs.Footprint

/-! The footprints of the volume manager, the task manager and the requests,
collected into the footprint of each call of the node plugin. -/

namespace Rawfile
open Effects

inductive SourceOp (args : CreateVolumeArgs) : Op → Prop
  | looking {operation} (reads : Op.reads operation) : SourceOp args operation
  | cut {operation} (id) (clone : args.sourceType = some .volume ∧ args.source = some id)
      (issued : CreateSnapshotOp id (cloneSource args.volumeId) true operation) : SourceOp args operation
  | drop {operation} (id) (clone : args.sourceType = some .volume ∧ args.source = some id)
      (issued : DeleteSnapshotOp id (cloneSource args.volumeId) true operation) : SourceOp args operation

inductive ImageOp (img : Path) : Op → Prop
  | looking {operation} (reads : Op.reads operation) : ImageOp img operation
  | touch : ImageOp img (.file (.touch img))
  | copy (pool) (source : RestoreSource) :
    ImageOp img (.file (.cpStart (.snapshot pool source.volume source.temporary source.name) img))
  | copied (pool) (source : RestoreSource) (opened) :
    ImageOp img (.file (.cpFinish (.snapshot pool source.volume source.temporary source.name) img opened))
  | truncate (size) : ImageOp img (.file (.truncate img size))
  | fallocate (size) : ImageOp img (.file (.fallocate img size))
  | probe {operation : FileOp} (makes : operation.change ≠ some .make)
    (only : ∀ path, operation.touches path → path.isProbe = true) : ImageOp img (.file operation)

inductive CopyOp (img : Path) : Op → Prop
  | looking {operation} (reads : Op.reads operation) : CopyOp img operation
  | copy (pool) (source : RestoreSource) :
    CopyOp img (.file (.cpStart (.snapshot pool source.volume source.temporary source.name) img))
  | copied (pool) (source : RestoreSource) (opened) :
    CopyOp img (.file (.cpFinish (.snapshot pool source.volume source.temporary source.name) img opened))
  | probe {operation : FileOp} (makes : operation.change ≠ some .make)
    (only : ∀ path, operation.touches path → path.isProbe = true) : CopyOp img (.file operation)

theorem CopyOp.image {img : Path} {operation : Op} (issued : CopyOp img operation) : ImageOp img operation := by
  cases issued with
  | looking reads => exact .looking reads
  | copy pool source => exact .copy pool source
  | copied pool source opened => exact .copied pool source opened
  | probe makes only => exact .probe makes only

inductive CreateVolumeOp (args : CreateVolumeArgs) : Op → Prop
  | acquire : CreateVolumeOp args (.lock (.acquire args.volumeId))
  | release : CreateVolumeOp args (.lock (.release args.volumeId))
  | makeVolumeDir : CreateVolumeOp args (.file (.mkdir (.volumeDir args.storagePool args.volumeId) true))
  | makeMetaDir : CreateVolumeOp args (.file (.mkdirs (.metaDir args.volumeId)))
  | makeSnapshotsDir (temporary) :
    CreateVolumeOp args (.file (.mkdirs (.snapshotsDir args.storagePool args.volumeId temporary)))
  | opening (old) :
    CreateVolumeOp args (.file (.installMeta args.volumeId old (VolumeManager.openingPatch args)))
  | describing (old createdAt) : CreateVolumeOp args (.file (.installMeta args.volumeId old
      (VolumeManager.describingPatch args ⟨args.storagePool, args.volumeId⟩ createdAt)))
  | finishing (old) : CreateVolumeOp args (.file (.installMeta args.volumeId old { ready := some true }))
  | source {operation} (issued : SourceOp args operation) : CreateVolumeOp args operation
  | image {operation} (issued : ImageOp (.imgFile args.storagePool args.volumeId) operation) :
    CreateVolumeOp args operation

inductive CleanupOp (volume : VolumeId) : Op → Prop
  | looking {operation} (reads : Op.reads operation) : CleanupOp volume operation
  | removeSnapshotsDir (pool temporary) : CleanupOp volume (.file (.rmdir (.snapshotsDir pool volume temporary)))
  | removeMeta (path) (inside : Hierarchy.parent path = some (Path.metaDir volume)) :
    CleanupOp volume (.file (.unlink path true))
  | removeMetaDir : CleanupOp volume (.file (.rmdir (.metaDir volume)))
  | removeVolumeDir (pool) : CleanupOp volume (.file (.rmdir (.volumeDir pool volume)))

inductive DestroyVolumeOp (volume : VolumeId) : Op → Prop
  | cleaning {operation} (cleanup : CleanupOp volume operation) : DestroyVolumeOp volume operation
  | removeImage (img : ImgFile) (own : img.volume = volume) : DestroyVolumeOp volume (.file (.unlink img.path true))

inductive GcOp (volume : VolumeId) : Op → Prop
  | destroying {operation} (destroy : DestroyVolumeOp volume operation) : GcOp volume operation
  | acquire : GcOp volume (.lock (.acquire volume))
  | release : GcOp volume (.lock (.release volume))

inductive DeleteVolumeOp (volume : VolumeId) : Op → Prop
  | collecting {operation} (collect : GcOp volume operation) : DeleteVolumeOp volume operation
  | deleting (old now) : DeleteVolumeOp volume (.file (.installMeta volume old (VolumeManager.deletingPatch now)))

inductive ExpandOp (volume : VolumeId) : Op → Prop
  | looking {operation} (reads : Op.reads operation) : ExpandOp volume operation
  | acquire : ExpandOp volume (.lock (.acquire volume))
  | release : ExpandOp volume (.lock (.release volume))
  | truncate (img : ImgFile) (own : img.volume = volume) (size) : ExpandOp volume (.file (.truncate img.path size))
  | fallocate (img : ImgFile) (own : img.volume = volume) (size) : ExpandOp volume (.file (.fallocate img.path size))
  | recording (old) (size : Nat) : ExpandOp volume (.file (.installMeta volume old { size := some size }))

inductive StagingOp (target : String) : Op → Prop
  | looking {operation} (reads : Op.reads operation) : StagingOp target operation
  | makeBlock : StagingOp target (.file (.mkdirs (.staging target .block)))
  | nextLoop : StagingOp target (.device .nextLoop)
  | losetup (img : ImgFile) : StagingOp target (.device (.losetup img.path))
  | setrw (device) : StagingOp target (.device (.setrw device))
  | removeLink (part) : StagingOp target (.file (.unlink (.staging target part) false))
  | removeDir (part) : StagingOp target (.file (.rmdir (.staging target part)))
  | link (part text) : StagingOp target (.file (.symlink (.staging target part) text))
  | format (fs device) : StagingOp target (.device (.mkfs fs device))
  | makeMount : StagingOp target (.file (.mkdir (.staging target .mount) true))
  | mount (fs device) : StagingOp target (.device (.mount fs device (.staging target .mount)))

inductive StageOp (volume : VolumeId) (target : String) : Op → Prop
  | staging {operation} (issued : StagingOp target operation) : StageOp volume target operation
  | acquire : StageOp volume target (.lock (.acquire volume))
  | release : StageOp volume target (.lock (.release volume))

inductive TaskingOp : Op → Prop
  | looking {operation} (reads : Op.reads operation) : TaskingOp operation
  | task (operation) : TaskingOp (.task operation)

def TaskCall.footprint : TaskCall → Op → Prop
  | .createVolume args => CreateVolumeOp args
  | .createSnapshot args => CreateSnapshotOp args.volumeId args.name args.temporary

def Call.footprint : Call → Op → Prop
  | .deleteVolume volume => DeleteVolumeOp volume
  | .createSnapshot request => fun operation => TaskingOp operation ∨
      operation = .lock (.acquire request.sourceVolumeId) ∨ operation = .lock (.release request.sourceVolumeId)
  | .deleteSnapshot snapshotId => fun operation => ∃ volume name, splitId snapshotId = some (volume, name) ∧
      (DeleteSnapshotOp volume name false operation ∨ GcOp volume operation)
  | .nodeStageVolume request => StageOp request.volumeId request.stagingTargetPath
  | .expandRawFile volume _ => ExpandOp volume
  | .task call => call.footprint
  | .future _ call => fun operation => TaskingOp operation ∨ call.footprint operation
  | .createVolume _ | .start | .workerRound | .shutdown => TaskingOp

def Call.created : Call → Option CreateVolumeArgs
  | .task (.createVolume args) | .future _ (.createVolume args) => some args
  | _ => none

def Call.deletes : Call → Bool
  | .deleteVolume _ | .deleteSnapshot _ => true
  | _ => false

namespace VolumeManager

theorem prepareClone_within {args : CreateVolumeArgs} {config : DriverConfig} {id : VolumeId}
    (clone : args.sourceType = some .volume ∧ args.source = some id) :
    (prepareClone config args.volumeId id).Within Op.lawful (SourceOp args) := by
  refine .bind (metadataOr_within (fun _ => .looking) id) fun data => ?_
  split
  · exact .raise _
  · refine .bind (listSnapshots_within (fun _ => .looking) _ _ _ _) fun current => ?_
    split
    · exact .pure _
    · have cut : ∀ snapshotArgs : CreateSnapshotArgs, snapshotArgs.volumeId = id →
          snapshotArgs.name = cloneSource args.volumeId → snapshotArgs.temporary = true →
          (SnapshotManager.createSnapshot config snapshotArgs).Within Op.lawful (SourceOp args) := by
        rintro snapshotArgs rfl named isTemporary
        refine (SnapshotManager.createSnapshot_within config snapshotArgs).mono fun operation issued => ?_
        rw [named, isTemporary] at issued
        exact .cut _ clone issued
      split
      · exact .bind (.pure _) fun _ => .bind (cut _ rfl rfl rfl) fun _ => .pure _
      · exact .bind (.bind (need_within _ _) fun _ => .pure _) fun _ => .bind (cut _ rfl rfl rfl) fun _ => .pure _

section
variable (config : DriverConfig)
include config

theorem findSource_within (args : CreateVolumeArgs) : (findSource config args).Within Op.lawful (SourceOp args) := by
  unfold findSource
  split
  · exact .bind (rsplit_within _) fun _ => .pure _
  next id typed named => exact .bind (prepareClone_within ⟨typed, named⟩) fun _ => .pure _
  · exact .pure _

theorem removeCloneSource_within (args : CreateVolumeArgs) :
    (removeCloneSource config args).Within Op.lawful (SourceOp args) := by
  unfold removeCloneSource
  split
  next id typed named =>
    exact (SnapshotManager.deleteSnapshot_within config _ _ _).mono fun _ => .drop id ⟨typed, named⟩
  · exact .pure _

private theorem restoreSnapshot_copies (source : RestoreSource) (img : ImgFile) :
    (SnapshotManager.restoreSnapshot config source.volume source.name img source.temporary).Within Op.lawful
      (CopyOp img.path) := by
  refine .bind (metadata_within (fun _ => .looking) _) fun data =>
    .bind (snapshotsPool_within (fun _ => .looking) _ _) fun pool => .bind ?_ fun _ =>
    copyFile_within (.copy pool source) (.copied pool source)
  split
  · exact SnapshotManager.isCowSupported_within (fun _ => .looking) .probe pool source.volume
      source.temporary img
  · exact .pure _

theorem restoreSnapshot_within (source : RestoreSource) (img : ImgFile) :
    (SnapshotManager.restoreSnapshot config source.volume source.name img source.temporary).Within Op.lawful
      (ImageOp img.path) :=
  (restoreSnapshot_copies config source img).mono fun _ issued => issued.image

theorem restore_copies (args : CreateVolumeArgs) (img : ImgFile)
    (source : Option RestoreSource) : (restore config args img source).Within Op.lawful (CopyOp img.path) := by
  cases source with
  | none => exact .pure _
  | some source =>
    refine .bind (listSnapshots_within (fun _ => .looking) _ _ _ _) fun snapshots => ?_
    split
    · exact .raise _
    · exact .bind (metadata_within (fun _ => .looking) _) fun data => .bind (need_within _ _) fun _ =>
        .bind (restoreSnapshot_copies config source img) fun _ => .pure _

theorem restore_within (args : CreateVolumeArgs) (img : ImgFile)
    (source : Option RestoreSource) : (restore config args img source).Within Op.lawful (ImageOp img.path) :=
  (restore_copies config args img source).mono fun _ issued => issued.image

end

theorem bigEnough_within (img : ImgFile) (size : Nat) : (bigEnough img size).Within Op.lawful (ImageOp img.path) := by
  refine .bind (.perform (.looking trivial)) fun present => ?_
  split
  · exact .bind (.perform (.looking trivial)) fun _ => .pure _
  · exact .pure _

theorem buildImage_within (config : DriverConfig) (args : CreateVolumeArgs) (source : Option RestoreSource) :
    (buildImage config args source).Within Op.lawful (CreateVolumeOp args) := by
  have reading : ∀ operation : Op, operation.reads → CreateVolumeOp args operation :=
    fun _ reads => .source (.looking reads)
  refine .bind ((bigEnough_within _ _).mono fun _ => .image) fun enough => ?_
  split
  · exact .pure _
  · exact .bind (.perform (.makeSnapshotsDir false)) fun _ => .bind (.perform (.makeSnapshotsDir true)) fun _ =>
      .bind (.perform (reading _ trivial)) fun createdAt =>
      .bind (patchMetadata_within reading fun old => .describing old createdAt) fun _ =>
      .bind (.perform (.image .touch)) fun _ =>
      .bind ((restore_within config args _ source).mono fun _ => .image) fun built =>
      .bind (growImage_within (.image (.truncate _)) (.image (.fallocate _))) fun _ =>
      patchMetadata_within reading .finishing

theorem createVolume_within (config : DriverConfig) (args : CreateVolumeArgs) :
    (createVolume config args).Within Op.lawful (CreateVolumeOp args) := by
  unfold createVolume
  split
  · exact .raise _
  · refine .bindReturns (getVolumePath_within _ _ _) (getVolumePath_returns _ _ _) ?_
    rintro dir rfl
    exact .bind (.perform .makeVolumeDir) fun _ => .bind (.perform .makeMetaDir) fun _ =>
      .bind (patchMetadata_within (fun _ reads => .source (.looking reads)) .opening) fun _ =>
      .tryFinally (.bind ((findSource_within config args).mono fun _ => .source) fun source =>
        withVolLock_within .acquire .release (buildImage_within config args source))
      ((removeCloneSource_within config args).mono fun _ => .source)

theorem rmdirIfPresent_within {allowed : Op → Prop} {path : Path} (removing : allowed (.file (.rmdir path))) :
    (rmdirIfPresent path).Within Op.lawful allowed := by
  refine .tryExcept (.perform removing) fun error => ?_
  split
  · exact .pure _
  · exact .raise _

theorem realSnapshots_within {allowed : Op → Prop} (reading : ∀ operation : Op, operation.reads → allowed operation)
    (config : DriverConfig) (volume : VolumeId) (listing : List Path) :
    (realSnapshots config volume listing).Within Op.lawful allowed := by
  induction listing with
  | nil => exact .pure _
  | cons path rest ih => exact .bind (snapshotsDir_within reading _ _ _) fun _ => .bind ih fun _ => .pure _

theorem removeSnapshotDirs_within {allowed : Op → Prop} {volume : VolumeId}
    (reading : ∀ operation : Op, operation.reads → allowed operation)
    (clearing : ∀ pool temporary, allowed (.file (.rmdir (.snapshotsDir pool volume temporary))))
    (config : DriverConfig) (snapshots temporaries : List Path) :
    (removeSnapshotDirs config volume snapshots temporaries).Within Op.lawful allowed := by
  have removing : ∀ temporary, ∀ path, (∃ pool, path = .snapshotsDir pool volume temporary) →
      (rmdirIfPresent path).Within Op.lawful allowed := by
    rintro temporary path ⟨pool, rfl⟩
    exact rmdirIfPresent_within (clearing pool temporary)
  unfold removeSnapshotDirs
  split
  · refine .bindReturns (snapshotsDir_within reading _ _ _) (snapshotsDir_returns _ _ _)
      fun path named => .bind (removing true path named) fun _ => ?_
    split
    · exact .bindReturns (snapshotsDir_within reading _ _ _) (snapshotsDir_returns _ _ _) (removing false)
    · exact .pure _
  · exact .pure _

section
variable (config : DriverConfig) (volume : VolumeId)
include config volume

theorem removeMetadata_within (pool : PoolName) :
    (removeMetadata config volume pool).Within Op.lawful (CleanupOp volume) := by
  refine .performThen (.looking trivial) fun listing inside => ?_
  refine .bind (.forEach fun path member => .perform (.removeMeta path (inside path member))) fun _ => ?_
  refine .bind (rmdirIfPresent_within .removeMetaDir) fun _ => ?_
  refine .bindReturns (getVolumePath_within _ _ _) (getVolumePath_returns _ _ _) ?_
  rintro dir rfl
  exact rmdirIfPresent_within (.removeVolumeDir pool)

theorem destroyVolume_within (dryRun : Bool) :
    (destroyVolume config volume dryRun).Within Op.lawful (DestroyVolumeOp volume) := by
  have reading : ∀ operation : Op, operation.reads → DestroyVolumeOp volume operation :=
    fun _ reads => .cleaning (.looking reads)
  unfold destroyVolume
  split
  · exact .pure _
  · refine .bind (snapshotsDir_within reading _ _ _) fun _ => .bind (.perform (reading _ trivial)) fun _ =>
      .bind (realSnapshots_within reading _ _ _) fun snapshots => .bind (snapshotsDir_within reading _ _ _) fun _ =>
      .bind (.perform (reading _ trivial)) fun _ => .bind (metadataOr_within reading _) fun data =>
      .bindReturns (imgFile_within reading _) (imgFile_returns _) fun img own =>
      .bind (.perform (.removeImage img own)) fun _ =>
      .bind (removeSnapshotDirs_within reading (fun pool temporary => .cleaning (.removeSnapshotsDir pool temporary))
        _ _ _) fun _ => ?_
    split
    · exact (removeMetadata_within _ _ _).mono fun _ => .cleaning
    · exact .pure _

theorem gcIfNeeded_within (dryRun : Bool) : (gcIfNeeded config volume dryRun).Within Op.lawful (GcOp volume) := by
  refine .bind (withVolLock_within .acquire .release
    (metadataOr_within (fun _ reads => .destroying (.cleaning (.looking reads))) _)) fun data => ?_
  split
  · refine .bind (.perform (.destroying (.cleaning (.looking trivial)))) fun now => ?_
    split
    · exact .bind ((destroyVolume_within config volume dryRun).mono fun _ => .destroying) fun _ => .pure _
    · exact .pure _
  · exact .pure _

theorem deleteVolume_within : (deleteVolume config volume).Within Op.lawful (DeleteVolumeOp volume) := by
  have reading : ∀ operation : Op, operation.reads → DeleteVolumeOp volume operation :=
    fun _ reads => .collecting (.destroying (.cleaning (.looking reads)))
  refine .bind (metadataOr_within reading _) fun data => .bind (getVolumePath_within _ _ _) fun dir =>
    .bind (.perform (reading _ trivial)) fun present => ?_
  split
  · exact .pure _
  · refine .bind (imgFile_within reading _) fun img => .bind (imgSize_within reading _) fun size =>
      .bind (attachedLoops_within reading _) fun loops => ?_
    split
    · exact .raise _
    · exact .bind (.perform (reading _ trivial)) fun now =>
        .bind (withVolLock_within (.collecting .acquire) (.collecting .release)
          (.bind (need_within _ _) fun pool => patchMetadata_within reading fun old => .deleting old now)) fun _ =>
        .bind ((gcIfNeeded_within config volume false).mono fun _ => .collecting) fun _ => .pure _

end

end VolumeManager

namespace TaskManager

theorem getTasks_within (keep : TaskInfo → Bool) : (getTasks keep).Within Op.lawful TaskingOp :=
  .bind (.perform (.task _)) fun _ => .pure _

theorem doneCallback_within (id : TaskId) : (doneCallback id).Within Op.lawful TaskingOp := by
  refine .bind (.perform (.task _)) fun popped => ?_
  split
  · exact .pure _
  · refine .bind (.perform (.task _)) fun error => ?_
    split
    · exact .bind (.perform (.task _)) fun _ => .perform (.task _)
    · exact .bind (.perform (.task _)) fun _ => .bind (.perform (.task _)) fun _ =>
        .bind (.perform (.task _)) fun _ => .perform (.task _)

theorem invokeCallback_within (id : TaskId) : (invokeCallback id).Within Op.lawful TaskingOp :=
  .tryExcept (doneCallback_within id) fun _ => .pure _

theorem launch_within (id : TaskId) (info : TaskInfo) : (launch id info).Within Op.lawful TaskingOp := by
  refine .bind (.perform (.task _)) fun _ => .bind (.perform (.task _)) fun future =>
    .bind (.perform (.task _)) fun _ => .bind (.perform (.task _)) fun _ =>
    .bind (.perform (.task _)) fun finished => ?_
  split
  · exact .bind (invokeCallback_within id) fun _ => .pure _
  · exact .pure _

theorem runTaskExt_within (call : TaskCall) (retry : Bool) : (runTaskExt call retry).Within Op.lawful TaskingOp := by
  refine .bind (.perform (.task _)) fun down => ?_
  split
  · exact .raise _
  · refine .bind (.bind (.perform (.task _)) fun _ => .pure _) fun current => ?_
    split
    · exact .pure _
    · exact launch_within _ _

theorem start_within : start.Within Op.lawful TaskingOp :=
  .bind (getTasks_within _) fun _ =>
    .bind (.forEach fun _ _ => .perform (.task _)) fun _ => .perform (.task _)

theorem removeAll_within (keep : TaskInfo → Bool) : (removeAll keep).Within Op.lawful TaskingOp :=
  .bind (getTasks_within _) fun _ => .forEach fun _ _ => .perform (.task _)

variable (config : DriverConfig)

theorem workerRound_within : (workerRound config).Within Op.lawful TaskingOp := by
  have retrying : (retryAll config).Within Op.lawful TaskingOp :=
    .bind (getTasks_within _) fun _ => .forEach fun _ _ =>
      .bind (runTaskExt_within _ _) fun _ => .pure _
  exact .bind (.tryExcept (.bind retrying fun _ => .bind (removeAll_within _) fun _ =>
    removeAll_within _) fun _ => .pure _) fun _ => .perform (.task _)

theorem stillRunning_within (size more : Nat) (visited : List (TaskId × Nat)) :
    (stillRunning size more visited).Within Op.lawful TaskingOp := by
  induction more generalizing visited with
  | zero => exact .bind (.perform (.task _)) fun _ => .pure _
  | succ more ih =>
    refine .bind (.perform (.task _)) fun found => ?_
    split
    · exact .pure _
    · exact .bind (.perform (.task _)) fun _ => .bind (ih _) fun _ => .pure _

theorem pollRunning_within (turns : Nat) (toKill : List (TaskId × Nat)) :
    (pollRunning turns toKill).Within Op.lawful TaskingOp := by
  induction turns generalizing toKill with
  | zero => exact .pure _
  | succ turns ih =>
    refine .bind (.perform (.task _)) fun count => ?_
    split
    · exact .pure _
    · exact .bind (.perform (.task _)) fun size => .bind (stillRunning_within _ _ _) fun _ => ih _

theorem cancelQueued_within (more : Nat) : (cancelQueued more).Within Op.lawful TaskingOp := by
  induction more with
  | zero => exact .pure _
  | succ more ih =>
    refine .bind (.perform (.task _)) fun callback => ?_
    split
    · exact .bind (invokeCallback_within _) fun _ => ih
    · exact ih

theorem shutdown_within : shutdown.Within Op.lawful TaskingOp :=
  .bind (.perform (.task _)) fun _ => .bind (.perform (.looking trivial)) fun _ =>
    .bind (pollRunning_within _ _) fun _ =>
    .bind (.forEach fun _ _ => .bind (.perform (.task _)) fun _ => .perform (.task _)) fun _ =>
    .bind (.perform (.task _)) fun _ => cancelQueued_within _

theorem taskBody_within (call : TaskCall) : (taskBody config call).Within Op.lawful call.footprint := by
  cases call with
  | createVolume args => exact VolumeManager.createVolume_within config args
  | createSnapshot args => exact .bind (SnapshotManager.createSnapshot_within config args) fun _ => .pure _

theorem runFuture_within (future : Nat) (call : TaskCall) :
    (runFuture config future call).Within Op.lawful (Call.future future call).footprint := by
  refine .bind (.perform (.inl (.task _))) fun begun => ?_
  split
  · refine .bind ((taskBody_within config call).mono fun _ => .inr).attempt fun outcome =>
      .bind (.perform (.inl (.task _))) fun callback => ?_
    split
    · exact (invokeCallback_within _).mono fun _ => .inl
    · exact .pure _
  · exact .pure _

end TaskManager

variable (config : DriverConfig)

theorem RawFileController.createVolume_within (request : CreateVolumeRequest) :
    (createVolume config request).Within Op.lawful TaskingOp := by
  have waiting : ∀ turns isReady, (awaitReady request.name turns isReady).Within Op.lawful TaskingOp := by
    intro turns
    induction turns with
    | zero => exact fun _ => .pure _
    | succ turns ih =>
      refine fun _ => .bind (metadataOr_within (fun _ => .looking) _) fun data => ?_
      dsimp only
      split
      · exact .pure _
      · exact ih _
  have submitting : ∀ args, (readyOrSubmit args).Within Op.lawful TaskingOp := by
    refine fun args => .bind (metadata_within (fun _ => .looking) _).attempt fun outcome => ?_
    split
    · exact .pure _
    · exact .bind (TaskManager.runTaskExt_within _ _) fun _ => .pure _
    · exact .raise _
  have choosing : (storagePool config request).Within Op.lawful TaskingOp := by
    unfold storagePool
    dsimp only
    split <;> trivial
  have naming : (nodeName request).Within Op.lawful TaskingOp := by
    unfold nodeName
    split <;> trivial
  refine .bind choosing fun pool => .bind naming fun node => ?_
  split
  · exact .raise _
  · refine .bind (getCapacity_within (fun _ => .looking) _ _) fun capacity => ?_
    split
    · exact .raise _
    · refine .bind (submitting _) fun isReady => .bind (.perform (.looking trivial)) fun turns =>
        .bind (waiting _ _) fun ready => ?_
      split
      · exact .raise _
      · exact .pure _

namespace Bd2Fs

variable (config : DriverConfig)

theorem createVolume_within (request : CreateVolumeRequest) :
    (createVolume config request).Within Op.lawful TaskingOp := by
  unfold createVolume
  split
  · split
    · exact .raise _
    · refine .bind ?_ fun _ => RawFileController.createVolume_within config _
      unfold checkAccessType
      split <;> trivial
  · exact .raise _

theorem awaitSnapshot_within (request : CreateSnapshotRequest) (turns : Nat) :
    (awaitSnapshot config request turns).Within Op.lawful TaskingOp := by
  induction turns with
  | zero => exact .pure _
  | succ turns ih =>
    refine .bind (.bind (listSnapshots_within (fun _ => .looking) _ _ _ _) fun _ => .pure _) fun current => ?_
    split
    · split
      · exact .pure _
      · exact ih
    · exact ih

theorem createSnapshot_within (request : CreateSnapshotRequest) :
    (createSnapshot config request).Within Op.lawful (Call.createSnapshot request).footprint := by
  have submitting : ∀ data, (submitUnlessListed config request data).Within Op.lawful TaskingOp := by
    refine fun data => .bind (.bind (listSnapshots_within (fun _ => .looking) _ _ _ _) fun _ => .pure _)
      fun current => ?_
    split
    · exact .bind (TaskManager.runTaskExt_within _ _) fun _ => .pure _
    · exact .pure _
  unfold createSnapshot snapshotsOnly
  split
  · exact .bind (withVolLock_within (.inr (.inl rfl)) (.inr (.inr rfl))
      (metadata_within (fun _ reads => .inl (.looking reads)) _)) fun data =>
      .bind ((submitting data).mono fun _ => .inl) fun _ =>
      .bind (.perform (.inl (.looking trivial))) fun turns =>
      .bind ((awaitSnapshot_within config request turns).mono fun _ => .inl) fun _ => .pure _
  · exact .raise _

theorem deleteSnapshot_within (snapshotId : String) :
    (deleteSnapshot config snapshotId).Within Op.lawful (Call.deleteSnapshot snapshotId).footprint := by
  unfold deleteSnapshot snapshotsOnly
  split
  · refine .bindReturns (rsplit_within _) (rsplit_returns _) ?_
    rintro ⟨volume, name⟩ found
    exact .bind ((SnapshotManager.deleteSnapshot_within config volume name false).mono fun _ issued =>
        ⟨volume, name, found, .inl issued⟩) fun _ =>
      .bind ((VolumeManager.gcIfNeeded_within config volume false).mono fun _ issued =>
        ⟨volume, name, found, .inr issued⟩) fun _ => .pure _
  · exact .raise _

end Bd2Fs

section
variable {allowed : Op → Prop} (reading : ∀ operation : Op, operation.reads → allowed operation)
include reading

theorem attachLoop_within (file : ImgFile) (setting : ∀ device, allowed (.device (.setrw device)))
    (searching : allowed (.device .nextLoop)) (attaching : allowed (.device (.losetup file.path))) (limit attempts : Nat)
    (last : Option String) : (attachLoop file limit attempts last).Within Op.lawful allowed := by
  induction attempts generalizing last with
  | zero => exact .raise _
  | succ attempts ih =>
    have once : (attachOnce file).Within Op.lawful allowed := by
      refine .bind (attachedLoops_within reading _) fun loops => ?_
      split
      · exact .bind (.perform (setting _)) fun _ => .pure _
      · exact .bind (.perform searching) fun _ => .bind (.perform attaching) fun _ => .pure _
    refine .bind once.attempt fun outcome => ?_
    split
    · exact .pure _
    · exact ih _
    · exact ih _

theorem beSymlink_within {path : Path} {text : String} (unlinking : allowed (.file (.unlink path false)))
    (removing : allowed (.file (.rmdir path))) (linking : allowed (.file (.symlink path text))) :
    (beSymlink path text).Within Op.lawful allowed := by
  refine .bind (.perform (reading _ trivial)) fun kind => ?_
  split
  · exact .pure _
  · exact .bind (beAbsent_within reading unlinking removing) fun _ => .perform linking

theorem RawFileNode.nodeStageVolume_within (volume : VolumeId) (target : String)
    (setting : ∀ device, allowed (.device (.setrw device))) (searching : allowed (.device .nextLoop))
    (attaching : ∀ img : ImgFile, allowed (.device (.losetup img.path)))
    (unlinking : allowed (.file (.unlink (.staging target .dev) false)))
    (removing : allowed (.file (.rmdir (.staging target .dev))))
    (linking : ∀ text, allowed (.file (.symlink (.staging target .dev) text))) :
    (nodeStageVolume volume target).Within Op.lawful allowed := by
  refine .bind (metadataOr_within reading _) fun data => ?_
  split
  · exact .raise _
  · refine .bind (imgFile_within reading _) fun file => ?_
    exact .bind (attachLoop_within reading file setting searching (attaching file) _ _ _) fun device =>
      beSymlink_within reading unlinking removing (linking _)

end

section
variable {allowed : Op → Prop} (reading : ∀ operation : Op, operation.reads → allowed operation)
include reading

theorem stagedDevice_within (staging : String) : (stagedDevice staging).Within Op.lawful allowed := by
  refine .bind (.perform (reading _ trivial)) fun kind => ?_
  split
  · split
    · refine .bind (.perform (reading _ trivial)) fun inner => ?_
      split <;> exact .pure _
    · exact .pure _
  · exact .pure _

theorem getDeviceFs_within (source : Source) : (getDeviceFs source).Within Op.lawful allowed := by
  cases source with
  | loop device =>
    refine .bind (.perform (reading _ trivial)) fun result => ?_
    split <;> exact .pure _
  | path text => exact .pure _

theorem fromDevice_within (source : Source) : (fromDevice source).Within Op.lawful allowed := by
  refine .bind (getDeviceFs_within reading source) fun found => ?_
  split <;> exact .pure _

theorem getFromDeviceOrFallback_within (source : Source) (fallback : String) :
    (getFromDeviceOrFallback source fallback).Within Op.lawful allowed := by
  refine .bind (fromDevice_within reading source) fun found => ?_
  split
  · exact .pure _
  · split <;> trivial

end

theorem FileSystem.formatAndMount_within {target : String} (fs : FileSystem) :
    (fs.formatAndMount (.staging target .mount)).Within Op.lawful (StagingOp target) := by
  have mounting : (fs.mount (.staging target .mount)).Within Op.lawful (StagingOp target) := by
    refine .bind (.perform (.looking trivial)) fun current => ?_
    split
    · split <;> trivial
    · exact .tryExcept (.bind (.perform .makeMount) fun _ => .perform (.mount _ _)) fun _ => .raise _
  refine .bind (getDeviceFs_within (fun _ => .looking) _) fun found => ?_
  dsimp only
  split
  · exact .bind (.tryExcept (.perform (.format _ _)) fun _ => .raise _) fun _ => mounting
  · exact mounting

theorem Bd2Fs.stageReady_within (request : NodeStageVolumeRequest) :
    (stageReady config request).Within Op.lawful (StagingOp request.stagingTargetPath) := by
  refine .bind (.perform .makeBlock) fun _ => .bind (RawFileNode.nodeStageVolume_within (fun _ => .looking) _ _ .setrw
    .nextLoop .losetup (.removeLink .dev) (.removeDir .dev) (.link .dev)) fun _ => .bind (beSymlink_within
    (fun _ => .looking) (.removeLink .device) (.removeDir .device) (.link .device _)) fun _ => .bind ?_ fun accessType => ?_
  · unfold checkAccessType
    split <;> trivial
  · split
    · exact .bind (stagedDevice_within (fun _ => .looking) _) fun source =>
        .bind (getFromDeviceOrFallback_within (fun _ => .looking) _ _) fun fs => fs.formatAndMount_within
    · exact .pure _

theorem Bd2Fs.nodeStageVolume_within (request : NodeStageVolumeRequest) :
    (nodeStageVolume config request).Within Op.lawful (StageOp request.volumeId request.stagingTargetPath) := by
  refine withVolLock_within .acquire .release
    (.bind (metadataOr_within (fun _ reads => .staging (.looking reads)) _) fun data => ?_)
  split
  · exact .raise _
  · exact (stageReady_within config request).mono fun _ => .staging

theorem Internal.requiredSpace_within (path : Path) (thin : Bool) (size increase : Int) :
    (requiredSpace path thin size increase).Within Op.lawful Op.reads := by
  unfold requiredSpace
  split
  · exact .pure _
  · exact .bind (.perform trivial) fun _ => .pure _

variable (volume : VolumeId)

theorem Internal.expandRawFile_within (newSize : Int) :
    (expandRawFile config volume newSize).Within Op.lawful (ExpandOp volume) := by
  have answering : ∀ exhausted, (answered config volume exhausted).Within Op.lawful (ExpandOp volume) :=
    fun _ => .bind (isAttached_within (fun _ => .looking) _ _) fun _ => .pure _
  refine withVolLock_within .acquire .release (.bindReturns (imgFile_within (fun _ => .looking) _) (imgFile_returns _)
    fun img own =>
    .bind (imgSize_within (fun _ => .looking) _) fun size => ?_)
  dsimp only
  split
  · exact answering _
  · refine .bind (metadata_within (fun _ => .looking) _) fun data =>
      .bind ((requiredSpace_within _ _ _ _).mono fun _ => .looking) fun required =>
      .bind (need_within _ _) fun pool => .bind (getCapacity_within (fun _ => .looking) _ _) fun capacity => ?_
    split
    · exact answering _
    · exact .bind (growImage_within (.truncate img own _) (.fallocate img own _)) fun _ =>
        .bind (patchMetadata_within (fun _ => .looking) fun old => .recording old _) fun _ => answering _

theorem discard_within {α : Type} {program : Driver α} {allowed : Op → Prop}
    (body : program.Within Op.lawful allowed) : (discard program).Within Op.lawful allowed :=
  .bind body fun _ => .pure _

/-- Every call stays within its footprint. -/
theorem Call.program_within (call : Call) : (call.program config).Within Op.lawful call.footprint := by
  cases call with
  | createVolume request => exact discard_within (Bd2Fs.createVolume_within config request)
  | deleteVolume volume =>
    refine .tryExcept (.bind (VolumeManager.deleteVolume_within config volume) fun _ => .pure _) fun error => ?_
    split <;> exact .raise _
  | createSnapshot request => exact discard_within (Bd2Fs.createSnapshot_within config request)
  | deleteSnapshot snapshotId => exact Bd2Fs.deleteSnapshot_within config snapshotId
  | nodeStageVolume request => exact Bd2Fs.nodeStageVolume_within config request
  | expandRawFile volume newSize => exact discard_within (Internal.expandRawFile_within config volume newSize)
  | task call => exact TaskManager.taskBody_within config call
  | future index call => exact TaskManager.runFuture_within config index call
  | start => exact TaskManager.start_within
  | workerRound => exact TaskManager.workerRound_within config
  | shutdown => exact TaskManager.shutdown_within

/-! The files of volumes and snapshots that a call can write or remove. -/

def Path.carries : Path → Prop
  | .metaFile _ | .imgFile _ _ | .snapshot _ _ _ _ | .creating _ _ _ _ => True
  | _ => False

theorem Path.carries_plain {path : Path} (carries : path.carries) :
    path.isDirName = false ∧ ∀ volume, path ≠ .lockFile volume := by
  cases path <;> first | exact False.elim carries | exact ⟨rfl, nofun⟩

def Path.ofVolume : Path → Prop
  | .metaFile owner | .imgFile _ owner => volume = owner
  | _ => False

def Path.ofSnapshot (name : String) (temporary : Bool) : Path → Prop
  | .snapshot _ owner hidden file | .creating _ owner hidden file => (volume, name, temporary) = (owner, file, hidden)
  | _ => False

def TaskCall.writes : TaskCall → Path → Prop
  | .createVolume args, path => path.ofVolume args.volumeId ∨ args.sourceType = some .volume ∧
    ∃ id, args.source = some id ∧ path.ofSnapshot id (cloneSource args.volumeId) true
  | .createSnapshot args, path => path.ofSnapshot args.volumeId args.name args.temporary

def Call.writes : Call → Path → Prop
  | .deleteVolume volume, path | .expandRawFile volume _, path => path.ofVolume volume
  | .deleteSnapshot snapshotId, path => ∃ volume name, splitId snapshotId = some (volume, name) ∧
    (path.ofSnapshot volume name false ∨ path.ofVolume volume)
  | .task job, path | .future _ job, path => job.writes path
  | _, _ => False

section
variable {operation : Op} {path : Path} {volume : VolumeId} (touched : operation.touches path) (file : path.carries)
include touched

theorem ImageOp.writes {img : Path} (issued : ImageOp img operation) : path = img ∨ path.isProbe = true := by
  cases issued
  case looking reads => exact absurd touched (reads.untouched _)
  case probe _ only => exact .inr (only path touched)
  all_goals exact .inl touched

theorem TaskingOp.writes (issued : TaskingOp operation) : False := by
  cases issued with
  | looking reads => exact reads.untouched _ touched
  | task operation => exact touched

include file

theorem CreateSnapshotOp.writes {name : String} {temporary : Bool}
    (issued : CreateSnapshotOp volume name temporary operation) : path.ofSnapshot volume name temporary := by
  cases issued
  case looking reads => exact absurd touched (reads.untouched _)
  case makeDir pool => cases (Path.above_leaf (Path.carries_plain file).1).mp touched; cases file
  all_goals cases touched <;> first | rfl | cases file

theorem SourceOp.writes {args : CreateVolumeArgs} (issued : SourceOp args operation) :
    args.sourceType = some .volume ∧
      ∃ id, args.source = some id ∧ path.ofSnapshot id (cloneSource args.volumeId) true := by
  cases issued with
  | looking reads => exact absurd touched (reads.untouched _)
  | cut id clone issued => exact ⟨clone.1, id, clone.2, issued.writes touched file⟩
  | drop id clone issued => exact ⟨clone.1, id, clone.2, issued.create.writes touched file⟩

theorem CreateVolumeOp.writes {args : CreateVolumeArgs} (issued : CreateVolumeOp args operation) :
    (TaskCall.createVolume args).writes path := by
  cases issued
  case source issued => exact .inr (issued.writes touched file)
  case image issued =>
    rcases issued.writes touched with same | probe
    · rw [same]
      exact .inl rfl
    · cases path <;> first | exact False.elim file | cases probe
  case makeMetaDir | makeSnapshotsDir => cases (Path.above_leaf (Path.carries_plain file).1).mp touched; cases file
  all_goals cases touched; first | exact .inl rfl | cases file

theorem GcOp.writes (issued : GcOp volume operation) : path.ofVolume volume := by
  rcases issued with ⟨_ | ⟨img, rfl⟩⟩ | _ | _
  case destroying.cleaning issued =>
    cases issued
    case looking reads => exact absurd touched (reads.untouched _)
    case removeMeta other inside =>
      cases touched
      cases path <;> cases file <;> cases inside
      rfl
    all_goals cases touched; cases file
  all_goals cases touched; first | rfl | cases file

theorem ExpandOp.writes (issued : ExpandOp volume operation) : path.ofVolume volume := by
  cases issued
  case looking reads => exact absurd touched (reads.untouched _)
  case truncate img own size => cases touched; exact own.symm
  case fallocate img own size => cases touched; exact own.symm
  all_goals cases touched; first | rfl | cases file

theorem StagingOp.writes {target : String} (issued : StagingOp target operation) : False := by
  cases issued
  case looking reads => exact reads.untouched _ touched
  case makeBlock => cases (Path.above_leaf (Path.carries_plain file).1).mp touched; cases file
  all_goals cases touched <;> cases file

theorem TaskCall.writes_of_touches {task : TaskCall} (issued : task.footprint operation) : task.writes path := by
  cases task with
  | createVolume args => exact CreateVolumeOp.writes touched file issued
  | createSnapshot args => exact CreateSnapshotOp.writes touched file issued

theorem Call.writes_of_touches {call : Call} (issued : call.footprint operation) : call.writes path := by
  cases call with
  | createVolume | start | workerRound | shutdown => exact TaskingOp.writes touched issued
  | createSnapshot request =>
    rcases issued with issued | rfl | rfl
    · exact issued.writes touched
    all_goals cases touched; cases file
  | deleteVolume target =>
    cases issued with
    | collecting issued => exact issued.writes touched file
    | deleting old time => cases touched; rfl
  | deleteSnapshot snapshotId =>
    obtain ⟨volume, name, split, issued | issued⟩ := issued
    · exact ⟨volume, name, split, .inl (issued.create.writes touched file)⟩
    · exact ⟨volume, name, split, .inr (issued.writes touched file)⟩
  | nodeStageVolume request =>
    cases issued with
    | staging issued => exact issued.writes touched file
    | acquire | release => cases touched; cases file
  | expandRawFile target newSize => exact ExpandOp.writes touched file issued
  | task task => exact TaskCall.writes_of_touches touched file issued
  | future index task =>
    rcases issued with issued | issued
    · exact (issued.writes touched).elim
    · exact TaskCall.writes_of_touches touched file issued

end

section
variable {operation : Op} {volume other : VolumeId}

theorem ImageOp.leaves_metadata {img : ImgFile} (issued : ImageOp img.path operation) :
    ¬ operation.touches (.metaFile other) := by
  intro touched
  rcases issued.writes touched with same | probe
  · cases same
  · cases probe

theorem CleanupOp.leaves_metadata (issued : CleanupOp volume operation) (other : VolumeId) :
    ¬ operation.touches (.metaFile other) ∨
      volume = other ∧ ∃ path missingOk, operation = .file (.unlink path missingOk) := by
  cases issued
  case looking reads => exact .inl (reads.untouched _)
  case removeMeta path inside =>
    by_cases touched : path = .metaFile other
    · subst touched
      simp only [Hierarchy.parent, Option.some.injEq, Path.metaDir.injEq] at inside
      exact .inr ⟨inside.symm, _, _, rfl⟩
    · exact .inl (Ne.symm touched)
  all_goals exact .inl (by simp [Op.touches, FileOp.touches])

theorem GcOp.leaves_metadata (issued : GcOp volume operation) (other : VolumeId) :
    ¬ operation.touches (.metaFile other) ∨
      volume = other ∧ ∃ path missingOk, operation = .file (.unlink path missingOk) := by
  cases issued with
  | acquire => exact .inl (by simp [Op.touches])
  | release => exact .inl (by simp [Op.touches])
  | destroying issued =>
    cases issued with
    | removeImage img own => exact .inl (by simp [Op.touches, FileOp.touches, ImgFile.path])
    | cleaning issued => exact issued.leaves_metadata other

end

def Op.foreign (operation : Op) : Prop :=
  ¬ operation.touches (.metaFile volume) ∧ ∀ pool, ¬ operation.touches (.imgFile pool volume)

theorem Op.reads.foreign {volume : VolumeId} {operation : Op} (reads : operation.reads) : operation.foreign volume :=
  ⟨reads.untouched _, fun _ => reads.untouched _⟩

section
variable {operation : Op} {volume other : VolumeId}

theorem CreateSnapshotOp.foreign {name : String} {temporary : Bool}
    (issued : CreateSnapshotOp other name temporary operation) : operation.foreign volume :=
  ⟨fun touched => issued.writes touched trivial, fun _ touched => issued.writes touched trivial⟩

theorem SourceOp.foreign {args : CreateVolumeArgs} (issued : SourceOp args operation) : operation.foreign volume := by
  constructor
  · intro touched
    obtain ⟨-, _, -, ⟨⟩⟩ := issued.writes touched trivial
  · intro pool touched
    obtain ⟨-, _, -, ⟨⟩⟩ := issued.writes touched trivial

theorem CreateVolumeOp.foreign {args : CreateVolumeArgs} (issued : CreateVolumeOp args operation)
    (different : args.volumeId ≠ volume) : operation.foreign volume := by
  constructor
  · intro touched
    obtain same | ⟨-, _, -, ⟨⟩⟩ := issued.writes touched trivial
    exact different same
  · intro pool touched
    obtain same | ⟨-, _, -, ⟨⟩⟩ := issued.writes touched trivial
    exact different same

theorem ExpandOp.foreign (issued : ExpandOp other operation) (different : other ≠ volume) :
    operation.foreign volume :=
  ⟨fun touched => different (issued.writes touched trivial), fun _ touched => different (issued.writes touched trivial)⟩

theorem TaskingOp.foreign (issued : TaskingOp operation) : operation.foreign volume :=
  ⟨issued.writes, fun _ => issued.writes⟩

end

end Rawfile
