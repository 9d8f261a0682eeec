import Rawfile.Proofs.Locking

/-! An attached image is not removed. `delete_volume` clears the readiness below
the volume's lock, and from then on no staging attaches the image. What is left
is the check for loop devices, which is made before the lock is taken. -/

namespace Rawfile
open Effects

variable (volume : VolumeId)

def Node.recordedImage (node : Node) : Option ImgFile :=
  ((node.files.metadata volume).bind Meta.imgFile).map (⟨·, volume⟩)

def Node.loopsOf (node : Node) : Option ImgFile → List Device
  | some img => node.devices.attached img.path
  | none => []

/-- The volume cannot be staged, because it was deleted or does not exist. -/
def Node.retired (node : Node) : Bool :=
  match node.files.metadata volume with
  | some data => data.deletedAt.isSome && !data.isReady
  | none => true

/-- A volume that was deleted is neither ready nor attached. -/
def Node.deletionSettled (node : Node) : Bool :=
  match node.files.metadata volume with
  | some data => data.deletedAt.isNone || (!data.isReady && (node.loopsOf (data.imgFile.map (⟨·, volume⟩))).isEmpty)
  | none => true

/-- What holds while a volume is staged and deleted: the metadata names the
image it has always named, and a retired volume is not attached. -/
structure Settled (volume : VolumeId) (recorded : Option ImgFile) (node : Node) : Prop where
  cleared : ∀ data, node.files.metadata volume = some data → data.deletedAt.isSome → data.isReady = false
  named : ∀ data pool, node.files.metadata volume = some data → data.imgFile = some pool →
    recorded = some ⟨pool, volume⟩
  live : node.retired volume = false → node.recordedImage volume = recorded
  detached : node.retired volume = true → node.loopsOf recorded = []

section
variable {volume : VolumeId} {recorded : Option ImgFile} {before after : Node}

theorem Node.retired_congr (same : after.files.metadata volume = before.files.metadata volume) :
    after.retired volume = before.retired volume := by
  simp only [Node.retired, same]

theorem Settled.congr (settled : Settled volume recorded before)
    (same : after.files.metadata volume = before.files.metadata volume)
    (fewer : before.loopsOf recorded = [] → before.retired volume = true → after.loopsOf recorded = []) :
    Settled volume recorded after where
  cleared := by rw [same]; exact settled.cleared
  named := by rw [same]; exact settled.named
  live := by
    simp only [Node.retired_congr same, Node.recordedImage, same]
    exact settled.live
  detached retired := by
    rw [Node.retired_congr same] at retired
    exact fewer (settled.detached retired) retired

theorem Node.settled {node : Node} (settled : node.deletionSettled volume = true) :
    Settled volume (node.recordedImage volume) node := by
  unfold Node.deletionSettled at settled
  split at settled
  next data found =>
    have known : node.recordedImage volume = data.imgFile.map (⟨·, volume⟩) := by simp [Node.recordedImage, found]
    simp only [Bool.or_eq_true, Bool.and_eq_true, Bool.not_eq_true', Option.isNone_iff_eq_none,
      List.isEmpty_iff] at settled
    refine ⟨?_, ?_, fun _ => rfl, fun retired => ?_⟩
    · intro other same deleted
      cases found.symm.trans same
      rcases settled with absent | ⟨unready, -⟩
      · simp [absent] at deleted
      · exact unready
    · intro other img same names
      cases found.symm.trans same
      simp [known, names]
    · rw [known]
      rcases settled with absent | ⟨-, detached⟩
      · simp [Node.retired, found, absent] at retired
      · exact detached
  next missing =>
    refine ⟨?_, ?_, fun _ => rfl, fun _ => by simp [Node.recordedImage, missing, Node.loopsOf]⟩
    · intro data same
      cases missing.symm.trans same
    · intro data img same
      cases missing.symm.trans same

private theorem Drift.apply_attached (change : Drift) (node : Node) (path : Path)
    (detached : node.devices.attached path = []) : (change.apply node).devices.attached path = [] := by
  cases change with
  | write img data physical =>
    simp only [Drift.apply]
    split
    · split <;> exact detached
    · exact detached
  | detach device =>
    simp only [Drift.apply, Devices.attached, List.map_eq_nil_iff, List.filter_eq_nil_iff] at detached ⊢
    exact fun loop member => detached loop (List.mem_of_mem_filter member)

theorem Node.loopsOf_eq_nil {before after : Node} (recorded : Option ImgFile)
    (fewer : ∀ path, before.devices.attached path = [] → after.devices.attached path = [])
    (detached : before.loopsOf recorded = []) : after.loopsOf recorded = [] := by
  cases recorded with
  | none => rfl
  | some img => exact fewer img.path detached

theorem Settled.unmoved (same : after.files.metadata volume = before.files.metadata volume)
    (fewer : ∀ path, before.devices.attached path = [] → after.devices.attached path = []) :
    (after.retired volume = true → before.retired volume = true) ∧
      (Settled volume recorded before → Settled volume recorded after) ∧
        (before.retired volume = true → after.retired volume = true) :=
  ⟨fun retired => by rwa [Node.retired_congr same] at retired,
    fun settled => settled.congr same fun detached _ => Node.loopsOf_eq_nil _ fewer detached,
    fun retired => by rwa [Node.retired_congr same]⟩

end

def Op.installs : Op → Bool
  | .file (.installMeta target _ _) => target = volume
  | _ => false

def detaching (recorded : Option ImgFile) : Guarded where
  protect before after := after.retired volume = true → before.retired volume = true
  keep before after := (Settled volume recorded before → Settled volume recorded after) ∧
    (before.retired volume = true → after.retired volume = true)
  invariant := Settled volume recorded
  stable kept settled := kept.1 settled
  promise _ before after := ∀ img : ImgFile, before.files.present img.path = true →
    before.devices.attached img.path ≠ [] → after.files.present img.path = true
  condition _ _ operation _ node :=
    !(operation.installs volume && !(node.loopsOf (node.recordedImage volume)).isEmpty)
  same files devices _ :=
    have kept := Settled.unmoved (by rw [files]) fun _ => by rw [devices]; exact id
    ⟨kept.1, kept.2, trivial⟩
  protect_trans first second retired := first (second retired)
  keep_trans first second := ⟨second.1 ∘ first.1, second.2 ∘ first.2⟩
  drift change node :=
    have kept := Settled.unmoved (Files.metadata_congr (change.apply_lookup node fun img => by simp [ImgFile.path]))
      (change.apply_attached node)
    ⟨kept.1, kept.2, trivial⟩

abbrev attachRules (recorded : Option ImgFile) (config : DriverConfig) :=
  (detaching volume recorded).discipline volume config

def Op.calm (operation : Op) : Prop :=
  ¬ operation.touches (.metaFile volume) ∧ (∀ img : ImgFile, ¬ operation.touches img.path) ∧
    ∀ path, operation ≠ .device (.losetup path)

theorem Op.reads.calm {volume : VolumeId} {operation : Op} (reads : operation.reads) : operation.calm volume :=
  ⟨reads.untouched _, fun _ => reads.untouched _, by rintro path rfl; cases reads⟩

namespace Attachment
variable {volume : VolumeId} {recorded : Option ImgFile} {config : DriverConfig} {call : Call} {thread : Nat}
  {operation : Op} {state now : Node}

theorem attached_exec {answer : Answer} {after : Node} {reply : Except Err operation.Reply}
    (executed : operation.exec thread answer now = (reply, after)) (idle : ∀ path, operation ≠ .device (.losetup path))
    (path : Path) (detached : now.devices.attached path = []) : after.devices.attached path = [] := by
  have same : (operation.exec thread answer now).2 = after := by rw [executed]
  rw [← same]
  cases operation with
  | device operation =>
    cases operation <;> simp only [Op.exec, DeviceOp.exec]
    case losetup => exact absurd rfl (idle _)
    case detach device =>
      split
      · exact detached
      · simp only [Devices.attached, List.map_eq_nil_iff, List.filter_eq_nil_iff] at detached ⊢
        exact fun loop member => detached loop (List.mem_of_mem_filter member)
    case bind source point =>
      cases source with
      | loop device => dsimp only; split <;> exact detached
      | path text => exact detached
    all_goals first | exact detached | (split <;> exact detached)
  | _ =>
    rw [Op.exec_devices _ _ _ _ (by simp)]
    exact detached

theorem calm_step {post : Except Err operation.Reply → Node → Prop} (calm : operation.calm volume)
    (valid : (detaching volume recorded).valid volume now)
    (reaches : ∀ answer reply after, operation.exec thread answer now = (reply, after) → post reply after) :
    (attachRules volume recorded config).Step call thread operation post now := by
  refine Guarded.step_intro valid fun answer reply after _ executed => ?_
  obtain ⟨metadata, images, idle⟩ := calm
  obtain ⟨secured, kept⟩ := @Settled.unmoved volume recorded now after
    (Files.metadata_congr (Op.exec_frame executed metadata)) (attached_exec executed idle)
  refine ⟨.inl secured, kept, fun img present _ => ?_, reaches answer reply after executed⟩
  rwa [Files.present, Op.exec_frame executed (images img)]

theorem calm_safe {α : Type} {allowed : Op → Prop} {program : Driver α} (within : program.Within Op.lawful allowed)
    (calm : ∀ operation, allowed operation → operation.calm volume) :
    (attachRules volume recorded config).Safe call thread (fun _ _ => True) program state :=
  Guarded.safe_of_steps within fun operation issued _ valid =>
    calm_step (calm operation issued) valid fun _ _ _ _ => trivial

section
variable {known : Node → Prop} {fact : Meta → Node → Prop}
  (stays : ∀ state now, (attachRules volume recorded config).rely call thread state now → known state → known now)
  (learns : ∀ data now, known now → Settled volume recorded now →
    now.files.metadata volume = some data ∨ now.files.metadata volume = none ∧ data = {} → fact data now)
  (initial : known state)
include stays learns initial

theorem metadata_learns :
    (attachRules volume recorded config).Safe call thread
      (fun outcome state => known state ∧ (∀ data, outcome = .ok data → fact data state) ∧
        (outcome = .error .fileNotFound → fact {} state)) (metadata volume) state := by
  refine .perform fun now relied valid => calm_step (Op.reads.calm trivial) valid ?_
  intro answer reply after executed
  have knows := stays state now relied initial
  obtain ⟨-, read, missing⟩ := readMeta_exec (Op.exec_file executed)
  have unchanged : after = now := @Op.reads.unchanged (.file (.readMeta volume)) trivial _ _ _ _ _ executed
  subst unchanged
  exact ⟨knows, fun data same => learns data after knows valid.2 (.inl (read data same)),
    fun absent => learns {} after knows valid.2 (.inr ⟨missing absent, rfl⟩)⟩

theorem metadataOr_learns :
    (attachRules volume recorded config).Safe call thread
      (fun outcome state => known state ∧ ∀ data, outcome = .ok data → fact data state)
      (metadataOr volume) state := by
  refine .tryExcept ((metadata_learns stays learns initial).weaken ?_)
  rintro (error | data) state ⟨knows, learnt, missing⟩
  · dsimp only
    split
    · refine ⟨knows, fun data same => ?_⟩
      cases same
      exact missing rfl
    · exact ⟨knows, fun data same => by cases same⟩
  · exact ⟨knows, learnt⟩

end

private theorem imgFile_learns {known : Node → Prop}
    (stays : ∀ state now, (attachRules volume recorded config).rely call thread state now →
      known state → known now) (initial : known state) :
    (attachRules volume recorded config).Safe call thread
      (fun outcome state => known state ∧ ∀ img, outcome = .ok img → recorded = some img) (imgFile volume) state := by
  refine .bind ((@metadata_learns _ _ config _ _ _ known (fun data _ => ∀ pool, data.imgFile = some pool →
    recorded = some ⟨pool, volume⟩) stays ?_ initial).weaken ?_)
  · rintro data now - settled (found | ⟨-, rfl⟩) img names
    · exact settled.named data img found names
    · cases names
  · rintro (error | data) state ⟨knows, learnt, -⟩
    · exact ⟨knows, fun img same => by cases same⟩
    · simp only [need]
      split
      next img names => exact ⟨knows, fun other same => by cases same; exact learnt data rfl img names⟩
      next => exact ⟨knows, fun img same => by cases same⟩

theorem locking_step {lock : LockOp} (valid : (detaching volume recorded).valid volume now) :
    (attachRules volume recorded config).Step call thread (.lock lock) (fun _ _ => True) now := by
  refine calm_step ⟨?_, fun img => ?_, by simp⟩ valid fun _ _ _ _ => trivial <;>
    cases lock <;> simp [Op.touches, ImgFile.path]

/-- Retiring the volume under its lock keeps the attachment valid. -/
theorem retire_step {old : Meta} {time : Nat} (held : (volume, thread) ∈ now.holders)
    (named : ∀ pool, old.imgFile = some pool → recorded = some ⟨pool, volume⟩)
    (valid : (detaching volume recorded).valid volume now) :
    (attachRules volume recorded config).Step call thread
      (.file (.installMeta volume old (VolumeManager.deletingPatch time))) (fun _ _ => True) now := by
  refine Guarded.step_intro valid fun answer reply after condition executed => ?_
  have loops : now.loopsOf recorded = [] → after.loopsOf recorded = [] :=
    Node.loopsOf_eq_nil recorded (attached_exec executed (by simp))
  have images : ∀ img : ImgFile, now.files.present img.path = true → after.files.present img.path = true := by
    intro img present
    rwa [Files.present, Op.exec_frame executed (by simp [Op.touches, FileOp.touches, ImgFile.path])]
  have detached : now.loopsOf recorded = [] := by
    by_cases retired : now.retired volume = true
    · exact valid.2.detached retired
    · have live := valid.2.live (by simpa using retired)
      simp only [detaching, Op.installs, decide_true, Bool.true_and, Bool.not_not, List.isEmpty_iff, live] at condition
      exact condition
  refine ⟨.inr held, ?_, fun img present _ => images img present, trivial⟩
  rcases installMeta_exec (Op.exec_file executed) with installed | unchanged
  · have retired : after.retired volume = true := by
      simp [Node.retired, installed, Meta.merge, VolumeManager.deletingPatch, Meta.isReady]
    refine ⟨fun _ => ⟨?_, ?_, fun live => by simp [retired] at live, fun _ => loops detached⟩, fun _ => retired⟩
    · intro data found _
      cases installed.symm.trans found
      rfl
    · intro data img found names
      cases installed.symm.trans found
      exact named img (by simpa [Meta.merge, VolumeManager.deletingPatch] using names)
  · exact (Settled.unmoved (by rw [unchanged]) (attached_exec executed (by simp))).2

/-- What a deletion removes after the volume is retired, no attachment needs. -/
theorem cleanup_step (retired : now.retired volume = true) (issued : CleanupOp volume operation)
    (valid : (detaching volume recorded).valid volume now) :
    (attachRules volume recorded config).Step call thread operation
      (fun _ state => state.retired volume = true) now := by
  have images : ∀ img : ImgFile, ¬ operation.touches img.path := by
    intro img
    cases issued
    case looking reads => exact reads.untouched _
    case removeMeta path inside => rintro rfl; simp [Hierarchy.parent, ImgFile.path] at inside
    all_goals simp [Op.touches, FileOp.touches, ImgFile.path]
  have idle : ∀ path, operation ≠ .device (.losetup path) := by
    rintro path rfl
    cases issued with
    | looking reads => cases reads
  refine Guarded.step_intro valid fun answer reply after _ executed => ?_
  have fewer := attached_exec executed idle
  have present : ∀ img : ImgFile, now.files.present img.path = true → now.devices.attached img.path ≠ [] →
      after.files.present img.path = true := by
    intro img present _
    rwa [Files.present, Op.exec_frame executed (images img)]
  rcases issued.leaves_metadata volume with untouched | ⟨-, path, missingOk, rfl⟩
  · have kept := @Settled.unmoved volume recorded now after (Files.metadata_congr (Op.exec_frame executed untouched)) fewer
    exact ⟨.inl kept.1, kept.2, present, kept.2.2 retired⟩
  · have gone : after.files.metadata volume = now.files.metadata volume ∨ after.files.metadata volume = none := by
      by_cases same : path = .metaFile volume
      · subst same
        rcases unlink_exec (Op.exec_file executed) with unchanged | removed
        · exact .inl (by rw [unchanged])
        · exact .inr (by simp [Files.metadata, removed])
      · exact .inl (Files.metadata_congr (Op.exec_frame executed (Ne.symm same)))
    rcases gone with same | missing
    · have kept := @Settled.unmoved volume recorded now after same fewer
      exact ⟨.inl kept.1, kept.2, present, kept.2.2 retired⟩
    · have still : after.retired volume = true := by simp [Node.retired, missing]
      refine ⟨.inl fun _ => retired, ⟨fun settled => ?_, fun _ => still⟩, present, still⟩
      refine ⟨fun data found => ?_, fun data img found => ?_, fun live => ?_, fun _ => ?_⟩
      · cases missing.symm.trans found
      · cases missing.symm.trans found
      · rw [still] at live
        cases live
      · exact Node.loopsOf_eq_nil recorded fewer (settled.detached retired)

private theorem removeImage_step {img : ImgFile} (retired : now.retired volume = true) (named : recorded = some img)
    (valid : (detaching volume recorded).valid volume now) :
    (attachRules volume recorded config).Step call thread (.file (.unlink img.path true))
      (fun _ state => state.retired volume = true) now := by
  refine Guarded.step_intro valid fun answer reply after _ executed => ?_
  have same : after.files.metadata volume = now.files.metadata volume :=
    Files.metadata_congr (Op.exec_frame executed (by simp [Op.touches, FileOp.touches, ImgFile.path]))
  have kept := @Settled.unmoved volume recorded now after same (attached_exec executed (by simp))
  refine ⟨.inl kept.1, kept.2, fun other present attached => ?_, kept.2.2 retired⟩
  have detached := valid.2.detached retired
  rw [named] at detached
  by_cases other_path : other.path = img.path
  · rw [other_path] at attached
    exact absurd detached attached
  · rwa [Files.present, Op.exec_frame executed (by simpa [Op.touches, FileOp.touches] using other_path)]

private theorem retired_stays {state now : Node} (relied : (attachRules volume recorded config).rely call thread state now)
    (retired : state.retired volume = true) : now.retired volume = true := relied.2.2.1.2 retired

theorem cleanup_safe {α : Type} {program : Driver α} (within : program.Within Op.lawful (CleanupOp volume))
    (retired : state.retired volume = true) :
    (attachRules volume recorded config).Safe call thread
      (fun _ state => state.retired volume = true) program state :=
  .ofWithin (fun state => state.retired volume = true) within nodePlugin_lawful
    (fun _ issued _ retired _ relied valid => cleanup_step (retired_stays relied retired) issued valid)
    (fun _ _ retired => retired) retired

theorem destroyVolume_safe (retired : state.retired volume = true) :
    (attachRules volume recorded config).Safe call thread (fun _ _ => True)
      (VolumeManager.destroyVolume config volume false) state := by
  have reading : ∀ operation : Op, operation.reads → CleanupOp volume operation := fun _ => .looking
  simp only [VolumeManager.destroyVolume, Bool.false_eq_true, if_false]
  refine .after (cleanup_safe (snapshotsDir_within reading _ _ _) retired) fun _ state retired => ?_
  refine .after (cleanup_safe (.perform (reading _ trivial)) retired) fun _ state retired => ?_
  refine .after (cleanup_safe (VolumeManager.realSnapshots_within reading _ _ _) retired) fun _ state retired => ?_
  refine .after (cleanup_safe (snapshotsDir_within reading _ _ _) retired) fun _ state retired => ?_
  refine .after (cleanup_safe (.perform (reading _ trivial)) retired) fun _ state retired => ?_
  refine .after (cleanup_safe (metadataOr_within reading _) retired) fun data state retired => ?_
  refine .bind ((imgFile_learns (fun _ _ => retired_stays) retired).weaken ?_)
  rintro (error | img) state ⟨retired, named⟩
  · trivial
  · refine .after (.perform fun now relied valid =>
      removeImage_step (retired_stays relied retired) (named img rfl) valid) fun _ state retired => ?_
    refine .after (cleanup_safe (VolumeManager.removeSnapshotDirs_within (fun _ => .looking)
      .removeSnapshotsDir _ _ _) retired) fun _ state retired => ?_
    split
    · exact (cleanup_safe (VolumeManager.removeMetadata_within _ _ _) retired).weaken fun _ _ _ => trivial
    · trivial

theorem gcIfNeeded_safe :
    (attachRules volume recorded config).Safe call thread (fun _ _ => True)
      (VolumeManager.gcIfNeeded config volume false) state := by
  have reading : (attachRules volume recorded config).Safe call thread
      (fun outcome state => ∀ data, outcome = .ok data → data.deletedAt.isSome = true → state.retired volume = true)
      (withVolLock volume (metadataOr volume)) state := by
    refine Guarded.withVolLock_learns (fun lock _ valid _ => locking_step valid) (fun state _ => ?_)
      fun data before after kept learnt deleted => kept.2 (learnt deleted)
    refine (@metadataOr_learns _ _ _ _ _ _ (fun _ => True) (fun data state => data.deletedAt.isSome = true →
      state.retired volume = true) (fun _ _ _ _ => trivial) ?_ trivial).weaken fun _ _ learnt => learnt.2
    rintro data now - settled (found | ⟨-, rfl⟩) deleted
    · simp [Node.retired, found, deleted, settled.cleared data found deleted]
    · cases deleted
  refine .bind (reading.weaken ?_)
  rintro (error | data) state learnt
  · trivial
  · dsimp only
    split
    next time gcAt deleted due =>
      have retired := learnt data rfl (by simp [deleted])
      refine .after (cleanup_safe (.perform (.looking trivial)) retired) fun clock state retired => ?_
      split
      · exact .after (destroyVolume_safe retired) fun _ _ _ => trivial
      · trivial
    next => trivial

theorem reading_safe {α : Type} {program : Driver α} (within : program.Within Op.lawful Op.reads) :
    (attachRules volume recorded config).Safe call thread (fun _ _ => True) program state :=
  calm_safe within fun _ reads => reads.calm

theorem retire_safe {pool : PoolName} {time : Nat} (held : (volume, thread) ∈ state.holders) :
    (attachRules volume recorded config).Safe call thread (fun _ _ => True)
      (patchMetadata config volume pool (VolumeManager.deletingPatch time)) state := by
  refine .bind ((@metadataOr_learns _ _ config _ _ _ (fun state => (volume, thread) ∈ state.holders)
    (fun data _ => ∀ pool, data.imgFile = some pool → recorded = some ⟨pool, volume⟩)
    (fun _ _ relied held => relied.1.mpr held) ?_ held).weaken ?_)
  · rintro data now - settled (found | ⟨-, rfl⟩) img names
    · exact settled.named data img found names
    · cases names
  · rintro (error | old) state ⟨held, named⟩
    · trivial
    · exact getVolumePath_safe (fun _ => .perform fun now relied valid =>
        retire_step (relied.1.mpr held) (named old rfl) valid) fun _ => trivial

theorem deleteVolume_safe :
    (attachRules volume recorded config).Safe call thread (fun _ _ => True)
      (VolumeManager.deleteVolume config volume) state := by
  have reads : ∀ operation : Op, operation.reads → operation.reads := fun _ => id
  refine .after (reading_safe (metadataOr_within reads _)) fun data state _ => ?_
  refine getVolumePath_safe (fun _ => ?_) fun _ => trivial
  refine .after (reading_safe (.perform trivial)) fun present state _ => ?_
  split
  · trivial
  · refine .after (reading_safe (imgFile_within reads _)) fun img state _ => ?_
    refine .after (reading_safe (imgSize_within reads _)) fun size state _ => ?_
    refine .after (reading_safe (attachedLoops_within reads _)) fun loops state _ => ?_
    split
    · trivial
    · refine .after (reading_safe (.perform trivial)) fun time state _ => ?_
      refine .after (Guarded.withVolLock_safe (fun lock _ valid _ => locking_step valid) (fun state held => ?_)
        fun _ _ => trivial) fun _ state _ => ?_
      · unfold need
        split
        · exact retire_safe held
        · trivial
      · exact .after gcIfNeeded_safe fun _ _ _ => trivial

private theorem staging_step {target : String} (held : (volume, thread) ∈ now.holders) (live : now.retired volume = false)
    (issued : StagingOp target operation) (valid : (detaching volume recorded).valid volume now) :
    (attachRules volume recorded config).Step call thread operation
      (fun _ state => (volume, thread) ∈ state.holders ∧ state.retired volume = false) now := by
  refine Guarded.step_intro valid fun answer reply after _ executed => ?_
  have same : after.files.metadata volume = now.files.metadata volume :=
    Files.metadata_congr (Op.exec_frame executed fun touched => issued.writes touched trivial)
  have still := Node.retired_congr same
  refine ⟨.inr held, ⟨fun settled => settled.congr same fun _ retired => ?_, fun retired => ?_⟩,
    fun img present _ => ?_, Op.exec_keeps_held executed ?_ held, still.trans live⟩
  · simp [live] at retired
  · simp [live] at retired
  · have image : ¬ operation.touches img.path := fun touched => issued.writes touched trivial
    rwa [Files.present, Op.exec_frame executed image]
  · rintro rfl
    cases issued with
    | looking reads => cases reads

theorem nodeStageVolume_safe (request : NodeStageVolumeRequest) (same : request.volumeId = volume) :
    (attachRules volume recorded config).Safe call thread (fun _ _ => True)
      (Bd2Fs.nodeStageVolume config request) state := by
  subst same
  refine Guarded.withVolLock_safe (fun lock _ valid _ => locking_step valid) (fun state held => ?_) fun _ _ => trivial
  refine .bind ((@metadataOr_learns _ _ config _ _ _ (fun state => (request.volumeId, thread) ∈ state.holders)
    (fun data state => data.isReady = true → state.retired request.volumeId = false)
    (fun _ _ relied held => relied.1.mpr held) ?_ held).weaken ?_)
  · rintro data now - settled (found | ⟨-, rfl⟩) ready
    · simp [Node.retired, found, ready]
    · cases ready
  · rintro (error | data) state ⟨held, live⟩
    · trivial
    · dsimp only
      split
      · trivial
      next ready =>
        refine .ofWithin (fun state => (request.volumeId, thread) ∈ state.holders ∧
          state.retired request.volumeId = false) (Bd2Fs.stageReady_within config request) nodePlugin_lawful ?_
          (fun _ _ _ => trivial) ⟨held, live data rfl (by simpa using ready)⟩
        intro operation issued state known now relied valid
        refine staging_step (relied.1.mpr known.1) ?_ issued valid
        by_contra retired
        have before := relied.2.1 known.1 (by simpa using retired)
        simp [known.2] at before

end Attachment

def Call.deletesOrStages : Call → Bool
  | .deleteVolume target => target = volume
  | .nodeStageVolume request => request.volumeId = volume
  | .start => true
  | _ => false

/-- Deletions and stagings keep an attached image. -/
theorem Attachment.call_safe {volume : VolumeId} {recorded : Option ImgFile} {config : DriverConfig} {call : Call}
    {thread : Nat} {state : Node} (concerned : call.deletesOrStages volume = true) :
    (attachRules volume recorded config).Safe call thread (fun _ _ => True)
      (call.program config) state := by
  cases call with
  | deleteVolume target =>
    obtain rfl : target = volume := by simpa [Call.deletesOrStages] using concerned
    refine .tryExcept (.andThen deleteVolume_safe (fun _ _ _ => trivial) fun error _ _ => ?_)
    dsimp only
    split <;> trivial
  | nodeStageVolume request =>
    exact nodeStageVolume_safe request (by simpa [Call.deletesOrStages] using concerned)
  | start =>
    refine calm_safe (Call.program_within config .start) fun operation issued => ?_
    cases issued with
    | looking reads => exact reads.calm
    | task operation => exact ⟨id, fun _ => id, by simp⟩
  | _ => cases concerned

private theorem Drift.apply_present (change : Drift) (node : Node) {path : Path} (present : node.files.present path = true) :
    (change.apply node).files.present path = true := by
  cases change with
  | write img data physical =>
    simp only [Drift.apply]
    split
    · split
      · cases written : node.files.write img.path (.bytes ⟨data, physical⟩) with
        | ok after =>
          simp only [Files.change, Files.present, FileTree.write_ok written]
          split
          · rfl
          · exact present
        | error error => exact present
      · exact present
    · exact present
  | detach device => exact present

/-- The steps of a run meet two conditions for the volume: its lock is granted
only while nobody holds it, and its metadata is not patched while a loop device
is attached to the image. -/
def detachedFirst (_call : Call) (_thread : Nat) (operation : Op) (answer : Answer) (node : Node) : Bool :=
  operation.excludes volume answer node &&
    !(operation.installs volume && !(node.loopsOf (node.recordedImage volume)).isEmpty)

def deletingAndStaging (now : NodeConfig) (event : NodeEvent) : Bool :=
  now.onStep (detachedFirst volume) event && event.begins (Call.deletesOrStages volume)

private theorem detaching_covers (recorded : Option ImgFile) (config : DriverConfig) :
    (attachRules volume recorded config).Covers
      (fun now event => deletingAndStaging volume now event = true) :=
  Guarded.covers (fun _ _ permitted => (Bool.and_eq_true_iff.mp permitted).1)
    (fun _ _ _ _ permitted _ => Attachment.call_safe (Bool.and_eq_true_iff.mp permitted).2)
    (fun _ _ _ owned => by cases owned) fun _ _ settled => settled.congr rfl fun detached _ => detached

/-- However deletions and stagings of a volume interleave, no event removes an
image to which a loop device is attached, as long as `delete_volume` does not
patch the metadata of a volume that was attached after it looked. -/
theorem attached_image_kept (config : DriverConfig) (volume : VolumeId) {node : Node} {before after : NodeConfig}
    (idle : node.holders = []) (settled : node.deletionSettled volume = true)
    (reached : (nodePlugin config).Reaches (fun now event => deletingAndStaging volume now event = true)
      ⟨node, []⟩ before)
    (step : (nodePlugin config).Steps (fun now event => deletingAndStaging volume now event = true) before after)
    (img : ImgFile) (present : before.state.files.present img.path = true)
    (attached : before.state.devices.attached img.path ≠ []) : after.state.files.present img.path = true := by
  have covers := detaching_covers volume (node.recordedImage volume) config
  have holds := covers.reaches reached (Guarded.holds_idle idle (Node.settled settled))
  obtain ⟨event, permitted, moved⟩ := step
  cases (nodePlugin config).next_moves moved with
  | enter entered =>
    rwa [(Call.accept_unchanged (nodePlugin_enter entered).1).1]
  | step found answered =>
    exact (holds.step found (covers.steps found permitted) answered).1.2.2.2 img present attached
  | crash => exact present
  | drift change => exact change.apply_present before.state present

namespace Attachment

def readyNode : Node :=
  (((nodePlugin singlePool).run (thinCreated ++ moves 2 6 {}) NodeConfig.initial).map Config.state).getD {}

def staging : Call := .nodeStageVolume ⟨"v", "/staging", some .mount, ""⟩

def image : ImgFile := ⟨"default", "v"⟩

/-- The volume is staged before the deletion looks for loop devices, so the deletion is refused. -/
theorem attached_image_kept_refusing : ∃ before after : NodeConfig,
    (nodePlugin singlePool).Steps (fun now event => deletingAndStaging "v" now event = true) before after ∧
    before.state.devices.attached image.path ≠ [] ∧ after.state.files.present image.path = true := by
  obtain ⟨before, after, reached, tested, step⟩ := @Machine.last_step _ _ _ _ _ _ _ (nodePlugin singlePool)
    (deletingAndStaging "v")
    (fun now _ => now.state.files.present image.path && decide (now.state.devices.attached image.path ≠ []))
    ([.enter staging] ++ moves 0 25 {} ++ [.enter (.deleteVolume "v")] ++ moves 1 4 {}) (.step 1 {}) ⟨readyNode, []⟩
    (by decide +kernel)
  obtain ⟨present, attached⟩ := Bool.and_eq_true_iff.mp tested
  exact ⟨before, after, step, of_decide_eq_true attached, attached_image_kept singlePool "v" (by decide +kernel)
    (by decide +kernel) reached step image present (of_decide_eq_true attached)⟩

def overtaken : List NodeEvent :=
  [.enter (.deleteVolume "v")] ++ moves 0 6 {} ++ [.enter staging] ++ moves 1 25 {} ++ moves 0 15 {}

/-- The lock excludes throughout, and still the image is removed below its loop device. -/
theorem attached_image_removed :
    let locked := fun now event => Config.onStep (fun _ _ operation answer node => operation.excludes "v" answer node)
      now event && event.begins (Call.deletesOrStages "v")
    let observed := fun now : NodeConfig =>
      (now.state.files.present image.path, now.state.devices.attached image.path)
    ((nodePlugin singlePool).runIf locked overtaken ⟨readyNode, []⟩).map observed = some (true, [0]) ∧
    ((nodePlugin singlePool).runIf locked (overtaken ++ [.step 0 {}]) ⟨readyNode, []⟩).map observed =
      some (false, [0]) := by
  decide +kernel

end Attachment
end Rawfile
