import Rawfile.Proofs.Frame

/-! The operations each function of the driver can issue, whatever the node
answers. Everything a call leaves alone follows from its footprint. -/

namespace Rawfile
open Effects Program

def Op.reads : Op → Prop
  | .file (.readMeta _) | .file (.exists _) | .file (.kind _) | .file (.getsize _) | .file (.physicalSize _)
  | .file (.glob _) | .file .listMetas | .device (.attachedLoops _) | .device (.probe _) | .device (.blkid _)
  | .device (.findmnt _) | .ask _ => True
  | _ => False

theorem Op.reads.untouched {operation : Op} (reads : operation.reads) (path : Path) : ¬ operation.touches path := by
  cases operation with
  | file operation => cases operation <;> simp_all [Op.reads, Op.touches, FileOp.touches]
  | lock operation => cases reads
  | _ => exact id

/-- A read changes nothing. -/
theorem Op.reads.unchanged {operation : Op} (reads : operation.reads) {thread : Nat} {answer : Answer}
    {node after : Node} {reply : Except Err operation.Reply}
    (executed : operation.exec thread answer node = (reply, after)) : after = node := by
  have same : (operation.exec thread answer node).2 = after := by rw [executed]
  rw [← same]
  cases operation with
  | file operation =>
    cases operation <;> simp only [Op.reads] at reads <;> simp only [Op.exec, FileOp.exec]
    all_goals repeat' first | rfl | split
  | device operation =>
    cases operation <;> simp only [Op.reads] at reads <;> simp only [Op.exec, DeviceOp.exec]
    split <;> rfl
  | ask question => rfl
  | _ => cases reads

def Op.lawful : (operation : Op) → Except Err operation.Reply → Prop
  | .file (.glob path), .ok listing => ∀ other ∈ listing, Hierarchy.parent other = some path
  | _, _ => True

/-- What the node replies is lawful. -/
theorem Op.exec_lawful (operation : Op) (thread : Nat) (answer : Answer) (node : Node) :
    operation.lawful (operation.exec thread answer node).1 := by
  cases operation with
  | file operation =>
    cases operation with
    | glob path => exact fun other member => (FileTree.mem_children.mp member).2
    | _ => trivial
  | _ => trivial

theorem nodePlugin_enter {config : DriverConfig} {call : Call} {node after : Node} {program : Driver Unit}
    (entered : (nodePlugin config).enter call node = some (after, program)) :
    call.accept node = some after ∧ program = call.program config := by
  obtain ⟨_, accepted, same⟩ := Option.map_eq_some_iff.mp entered
  cases same
  exact ⟨accepted, rfl⟩

section
variable {config : DriverConfig} {thread : Nat} {operation : Op} {answer : Answer} {node after : Node}
  {reply : Except Err operation.Reply}
  (answered : (nodePlugin config).exec thread operation answer node = some (reply, after))
include answered

theorem nodePlugin_exec : operation.blocks node = false ∧ operation.exec thread answer node = (reply, after) := by
  simp only [nodePlugin] at answered
  split at answered
  · cases answered
  next free => exact ⟨by simpa using free, Option.some.inj answered⟩

theorem nodePlugin_lawful : operation.lawful reply := by
  have obeys := operation.exec_lawful thread answer node
  rwa [(nodePlugin_exec answered).2] at obeys

end

section
variable {allowed : Op → Prop}

theorem need_within {α : Type} (key : String) (value : Option α) : (need key value).Within Op.lawful allowed := by
  cases value <;> trivial

theorem getVolumePath_within (config : DriverConfig) (pool : PoolName) (volume : VolumeId) :
    (getVolumePath config pool volume).Within Op.lawful allowed := by
  unfold getVolumePath
  split <;> trivial

theorem getCapacity_within (reading : ∀ operation : Op, operation.reads → allowed operation) (config : DriverConfig)
    (pool : PoolName) : (getCapacity config pool).Within Op.lawful allowed := by
  unfold getCapacity
  split
  · exact .perform (reading _ trivial)
  · exact .raise _

theorem getVolumePath_returns (config : DriverConfig) (pool : PoolName) (volume : VolumeId) :
    (getVolumePath config pool volume).Returns Op.lawful (fun path => path = .volumeDir pool volume) := by
  unfold getVolumePath
  split <;> trivial

private theorem getVolumePath_configured (config : DriverConfig) (pool : PoolName) (volume : VolumeId) :
    (getVolumePath config pool volume).Returns Op.lawful (fun _ => pool ∈ config.storagePools) := by
  unfold getVolumePath
  split
  next known => exact known
  next => trivial

theorem snapshotsPool_returns (config : DriverConfig) (volume : VolumeId) :
    (snapshotsPool config volume).Returns Op.lawful (fun pool => pool ∈ config.storagePools) := by
  refine .bind (.any _) fun data _ => .bind (getVolumePath_configured _ _ _) fun _ known => ?_
  exact known

theorem snapshotsDir_returns (config : DriverConfig) (volume : VolumeId) (temporary : Bool) :
    (snapshotsDir config volume temporary).Returns Op.lawful
      (fun path => ∃ pool, path = .snapshotsDir pool volume temporary) :=
  .bind (.any _) fun pool _ => ⟨pool, rfl⟩

theorem imgFile_returns (volume : VolumeId) : (imgFile volume).Returns Op.lawful (fun img => img.volume = volume) := by
  refine .bind (.any _) fun data _ => .bind (.any _) fun pool _ => ?_
  exact rfl

theorem rsplit_returns (text : String) : (rsplit text).Returns Op.lawful (fun names => splitId text = some names) := by
  unfold rsplit
  split
  next names found => exact found
  next => trivial

theorem rsplit_within (text : String) : (rsplit text).Within Op.lawful allowed := by
  unfold rsplit
  split <;> trivial

variable (reading : ∀ operation : Op, operation.reads → allowed operation)
include reading
variable (config : DriverConfig) (volume : VolumeId)

theorem metadata_within : (metadata volume).Within Op.lawful allowed :=
  .perform (reading _ trivial)

theorem metadataOr_within : (metadataOr volume).Within Op.lawful allowed := by
  refine .tryExcept (metadata_within reading volume) ?_
  intro error
  split
  · exact .pure _
  · exact .raise _

theorem imgFile_within : (imgFile volume).Within Op.lawful allowed :=
  .bind (metadata_within reading volume) fun _ => .bind (need_within _ _) fun _ => .pure _

theorem imgSize_within : (imgSize volume).Within Op.lawful allowed :=
  .bind (metadata_within reading volume) fun _ => need_within _ _

theorem snapshotsPool_within : (snapshotsPool config volume).Within Op.lawful allowed :=
  .bind (metadata_within reading volume) fun _ => .bind (getVolumePath_within _ _ _) fun _ => .pure _

theorem snapshotsDir_within (temporary : Bool) : (snapshotsDir config volume temporary).Within Op.lawful allowed :=
  .bind (snapshotsPool_within reading config volume) fun _ => .pure _

theorem attachedLoops_within (file : Path) : (attachedLoops file).Within Op.lawful allowed :=
  .perform (reading _ trivial)

theorem isAttached_within : (VolumeManager.isAttached config volume).Within Op.lawful allowed := by
  refine .bind (metadataOr_within reading volume) fun data => ?_
  refine .bind (need_within _ _) fun pool => .bind (getVolumePath_within _ _ _) fun dir => ?_
  refine .bind (.perform (reading _ trivial)) fun present => ?_
  split
  · exact .pure _
  · exact .bind (imgFile_within reading volume) fun img =>
      .bind (attachedLoops_within reading _) fun _ => .pure _

theorem listSnapshots_within (name : String) (temporary : Bool) :
    (SnapshotManager.listSnapshots config volume name temporary).Within Op.lawful allowed := by
  refine .bind (metadata_within reading volume) fun data => .bind (need_within _ _) fun pool => ?_
  refine .bind (getVolumePath_within _ _ _) fun _ => .bind (.perform (reading _ trivial)) fun present => ?_
  split
  · exact .bind (.perform (reading _ trivial)) fun _ => .bind (.perform (reading _ trivial)) fun _ => .pure _
  · exact .pure _

theorem patchMetadata_within {config : DriverConfig} {volume : VolumeId} {pool : PoolName} {patch : Meta}
    (installing : ∀ old, allowed (.file (.installMeta volume old patch))) :
    (patchMetadata config volume pool patch).Within Op.lawful allowed :=
  .bind (metadataOr_within reading volume) fun old =>
    .bind (getVolumePath_within _ _ _) fun _ => .perform (installing old)

omit reading in
theorem withVolLock_within {α : Type} {volume : VolumeId} {body : Driver α}
    (acquiring : allowed (.lock (.acquire volume))) (releasing : allowed (.lock (.release volume)))
    (inside : body.Within Op.lawful allowed) : (withVolLock volume body).Within Op.lawful allowed :=
  .bind (.perform acquiring) fun _ => .tryFinally inside (.perform releasing)

omit reading in
theorem copyFile_within {source dest : Path} (starting : allowed (.file (.cpStart source dest)))
    (finishing : ∀ opened, allowed (.file (.cpFinish source dest opened))) :
    (copyFile source dest).Within Op.lawful allowed :=
  .bind (.perform starting) fun opened => .perform (finishing opened)

theorem beAbsent_within {path : Path} (unlinking : allowed (.file (.unlink path false)))
    (removing : allowed (.file (.rmdir path))) : (beAbsent path).Within Op.lawful allowed := by
  refine .bind (.perform (reading _ trivial)) fun kind => ?_
  split
  · exact .perform unlinking
  · exact .perform unlinking
  · exact .perform removing
  · exact .pure _

theorem SnapshotManager.isCowSupported_within
    (probing : ∀ {operation : FileOp}, operation.change ≠ some .make →
      (∀ path, operation.touches path → path.isProbe = true) → allowed (.file operation))
    (pool : PoolName) (volume : VolumeId) (temporary : Bool) (dest : ImgFile) :
    (SnapshotManager.isCowSupported pool volume temporary dest).Within Op.lawful allowed := by
  have touching {operation : FileOp} {path : Path} (makes : operation.change ≠ some .make)
      (probe : path.isProbe = true) (only : ∀ other, operation.touches other → other = path) :
      allowed (.file operation) := by
    refine probing makes fun other touched => ?_
    rw [only other touched, probe]
  refine .tryFinally (.tryExcept ?_ fun _ => .pure _) ?_
  · refine .bind (.perform (touching nofun rfl fun _ => id)) fun _ =>
      .bind (.perform (touching nofun rfl fun _ => id)) fun _ => .bind (copyFile_within ?_ fun _ => ?_) fun _ => .pure _
    · exact touching nofun rfl fun _ => id
    · exact touching nofun rfl fun _ => id
  · exact .bind (beAbsent_within reading (touching nofun rfl fun _ => id) (touching nofun rfl fun _ => id)) fun _ =>
      beAbsent_within reading (touching nofun rfl fun _ => id) (touching nofun rfl fun _ => id)

omit reading in
theorem growImage_within {path : Path} {thin : Bool} {size : Nat}
    (truncating : allowed (.file (.truncate path size))) (allocating : allowed (.file (.fallocate path size))) :
    (growImage path thin size).Within Op.lawful allowed := by
  unfold growImage
  split
  · exact .perform truncating
  · exact .perform allocating

end

inductive CreateSnapshotOp (volume : VolumeId) (name : String) (temporary : Bool) : Op → Prop
  | looking {operation} (reads : Op.reads operation) : CreateSnapshotOp volume name temporary operation
  | acquire : CreateSnapshotOp volume name temporary (.lock (.acquire volume))
  | release : CreateSnapshotOp volume name temporary (.lock (.release volume))
  | makeDir (pool) : CreateSnapshotOp volume name temporary (.file (.mkdirs (.snapshotsDir pool volume temporary)))
  | mark (pool) : CreateSnapshotOp volume name temporary (.file (.touch (.creating pool volume temporary name)))
  | remove (pool) :
    CreateSnapshotOp volume name temporary (.file (.unlink (.snapshot pool volume temporary name) true))
  | unmark (pool) :
    CreateSnapshotOp volume name temporary (.file (.unlink (.creating pool volume temporary name) true))
  | copy (pool) (img : ImgFile) :
    CreateSnapshotOp volume name temporary (.file (.cpStart img.path (.snapshot pool volume temporary name)))
  | copied (pool) (img : ImgFile) (opened) :
    CreateSnapshotOp volume name temporary (.file (.cpFinish img.path (.snapshot pool volume temporary name) opened))
  | freeze (device) : CreateSnapshotOp volume name temporary (.device (.freeze device))
  | unfreeze (device) : CreateSnapshotOp volume name temporary (.device (.unfreeze device))

namespace SnapshotManager

section
variable {allowed : Op → Prop} (reading : ∀ operation : Op, operation.reads → allowed operation)
include reading

theorem freezeAll_within (freezing : ∀ device, allowed (.device (.freeze device))) (loops : List Device) :
    (freezeAll loops).Within Op.lawful allowed := by
  refine .forEach fun device _ => .bind (.perform (reading _ trivial)) fun found => ?_
  split
  · exact .perform (freezing device)
  · exact .raise _

theorem unfreezeAll_within (thawing : ∀ device, allowed (.device (.unfreeze device))) (loops : List Device) :
    (unfreezeAll loops).Within Op.lawful allowed := by
  refine .forEach fun device _ => .bind (.perform (reading _ trivial)) fun found => ?_
  split
  · exact .perform (thawing device)
  · exact .raise _

end

theorem copySnapshot_within (args : CreateSnapshotArgs) (pool : PoolName) (file : ImgFile) (loops : List Device) :
    (copySnapshot args pool file loops).Within Op.lawful
      (CreateSnapshotOp args.volumeId args.name args.temporary) := by
  refine .bind ?_ fun _ => .bind (copyFile_within (.copy pool file) (.copied pool file)) fun _ =>
    .bind (.perform (.looking trivial)) fun _ => .bind (.perform (.unmark pool)) fun _ =>
    .bind (.perform (.looking trivial)) fun _ => .pure _
  split
  · exact freezeAll_within (fun _ => .looking) .freeze loops
  · exact .pure _

theorem cutSnapshot_within (args : CreateSnapshotArgs) (pool : PoolName) (file : ImgFile) (loops : List Device) :
    (cutSnapshot args pool file loops).Within Op.lawful
      (CreateSnapshotOp args.volumeId args.name args.temporary) := by
  refine .tryFinally (.tryExcept (copySnapshot_within args pool file loops) fun _ =>
    .bind (.perform (.remove pool)) fun _ => .raise _) ?_
  split
  · exact unfreezeAll_within (fun _ => .looking) .unfreeze loops
  · exact .pure _

theorem createSnapshot_within (config : DriverConfig) (args : CreateSnapshotArgs) :
    (createSnapshot config args).Within Op.lawful (CreateSnapshotOp args.volumeId args.name args.temporary) := by
  refine withVolLock_within .acquire .release ?_
  refine .bind (imgFile_within (fun _ => .looking) _) fun file =>
    .bind (attachedLoops_within (fun _ => .looking) _) fun loops =>
    .bind (snapshotsPool_within (fun _ => .looking) _ _) fun pool => .bind (.perform (.makeDir pool)) fun _ =>
    .bind (.perform (.mark pool)) fun _ => .bind (.perform (.remove pool)) fun _ => ?_
  split
  · exact .raise _
  · exact cutSnapshot_within args pool file loops

end SnapshotManager

inductive DeleteSnapshotOp (volume : VolumeId) (name : String) (temporary : Bool) : Op → Prop
  | looking {operation} (reads : Op.reads operation) : DeleteSnapshotOp volume name temporary operation
  | acquire : DeleteSnapshotOp volume name temporary (.lock (.acquire volume))
  | release : DeleteSnapshotOp volume name temporary (.lock (.release volume))
  | remove (pool) :
    DeleteSnapshotOp volume name temporary (.file (.unlink (.snapshot pool volume temporary name) true))
  | unmark (pool) :
    DeleteSnapshotOp volume name temporary (.file (.unlink (.creating pool volume temporary name) true))

theorem DeleteSnapshotOp.create {volume : VolumeId} {name : String} {temporary : Bool} {operation : Op}
    (issued : DeleteSnapshotOp volume name temporary operation) :
    CreateSnapshotOp volume name temporary operation := by
  cases issued with
  | looking reads => exact .looking reads
  | acquire => exact .acquire
  | release => exact .release
  | remove pool => exact .remove pool
  | unmark pool => exact .unmark pool

theorem SnapshotManager.deleteSnapshot_within (config : DriverConfig) (volume : VolumeId) (name : String)
    (temporary : Bool) :
    (deleteSnapshot config volume name temporary).Within Op.lawful (DeleteSnapshotOp volume name temporary) :=
  withVolLock_within .acquire .release <|
    .bind (snapshotsPool_within (fun _ => .looking) _ _) fun pool =>
    .bind (.perform (.remove pool)) fun _ => .perform (.unmark pool)

end Rawfile
