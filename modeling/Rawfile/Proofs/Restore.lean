import Rawfile.Proofs.Ownership

/-! A restored image holds its source. While `create_volume` copies a snapshot
into the new image nobody else writes either file, so what decides is the final
length: the truncation of a thin image may be shorter than the snapshot. -/

namespace Rawfile
open Effects

variable {pool : PoolName} {size : Nat}

def RestoreSource.path (source : RestoreSource) (pool : PoolName) : Path :=
  .snapshot pool source.volume source.temporary source.name

def CreateVolumeArgs.restoreSource (args : CreateVolumeArgs) : Option RestoreSource :=
  match args.sourceType, args.source with
  | some .snapshot, some id => (splitId id).bind fun (volume, name) =>
    if volume = "" ∨ name = "" then none else some { volume, name, temporary := false }
  | some .volume, some id => some { volume := id, name := cloneSource args.volumeId, temporary := true }
  | _, _ => none

def CreateVolumeArgs.namesSource (args : CreateVolumeArgs) : Bool :=
  match args.sourceType, args.source with
  | some .snapshot, some id => (splitId id).all fun (volume, name) => volume ≠ "" && name ≠ ""
  | some .volume, some _ => true
  | _, _ => false

variable (config : DriverConfig) (volume : VolumeId)

def Path.restores : Path → Bool
  | .metaFile target | .imgFile _ target => target = volume
  | .snapshot _ _ temporary name => !temporary || name = cloneSource volume
  | _ => false

/-- The image of the volume is the snapshot it was restored from, followed by zeros. -/
def Filled (args : CreateVolumeArgs) (node : Node) : Prop :=
  ∃ source pool snapshot image extra, args.restoreSource = some source ∧
    node.files.image (source.path pool) = some snapshot ∧
    node.files.image (.imgFile args.storagePool args.volumeId) = some image ∧
    image.data = snapshot.data ++ List.replicate extra 0

def Restored (args : CreateVolumeArgs) (node : Node) : Prop :=
  (node.files.metadata args.volumeId).bind Meta.imgFile = some args.storagePool ∧ Filled args node

def Call.creates (call : Call) : Bool := call.created.any fun args => args.volumeId = volume

/-- When `create_volume` reads the metadata of its source, the source is thick or
the snapshot is not longer than the size requested or recorded there. -/
def Op.fitsSnapshot (args : CreateVolumeArgs) (operation : Op) (node : Node) : Bool :=
  match args.restoreSource, operation with
  | some source, .file (.readMeta target) =>
    target ≠ source.volume || (node.files.metadata target).all fun data =>
      !data.isThin || config.storagePools.all fun pool => (node.files.image (source.path pool)).all fun snapshot =>
        snapshot.size ≤ max args.size (data.size.getD 0)
  | _, _ => true

def restoreStep (call : Call) (_thread : Nat) (operation : Op) (_answer : Answer) (node : Node) : Bool :=
  call.created.all fun args => args.volumeId ≠ volume || operation.fitsSnapshot config args node

def SameRestore (before after : Node) : Prop :=
  ∀ path : Path, path.restores volume = true → after.files.lookup path = before.files.lookup path

section
variable {volume : VolumeId} {before after : Node} {args : CreateVolumeArgs}

theorem SameRestore.metadata (same : SameRestore volume before after) :
    after.files.lookup (.metaFile volume) = before.files.lookup (.metaFile volume) :=
  same _ (by simp [Path.restores])

theorem SameRestore.found {data : Meta} (same : SameRestore volume before after)
    (found : before.files.metadata volume = some data) : after.files.metadata volume = some data :=
  (Files.metadata_congr same.metadata).trans found

theorem SameRestore.image (same : SameRestore volume before after) :
    after.files.image (.imgFile pool volume) = before.files.image (.imgFile pool volume) :=
  Files.image_congr (same _ (by simp [Path.restores]))

theorem SameRestore.snapshot {source : RestoreSource} (same : SameRestore args.volumeId before after)
    (named : args.restoreSource = some source) :
    after.files.image (source.path pool) = before.files.image (source.path pool) := by
  apply Files.image_congr
  apply same
  unfold CreateVolumeArgs.restoreSource at named
  split at named
  · obtain ⟨⟨volume, name⟩, -, chosen⟩ := Option.bind_eq_some_iff.mp named
    dsimp only at chosen
    split at chosen
    · cases chosen
    · cases chosen
      rfl
  · cases named
    simp [RestoreSource.path, Path.restores]
  · cases named

theorem Filled.same (same : SameRestore args.volumeId before after) (filled : Filled args before) :
    Filled args after := by
  obtain ⟨source, pool, snapshot, image, extra, named, copied, built, content⟩ := filled
  exact ⟨source, pool, snapshot, image, extra, named, (same.snapshot named).trans copied, same.image.trans built, content⟩

end

def restoring (config : DriverConfig) : Owned where
  owns := Call.creates volume
  same := SameRestore volume
  promise call before after := before.isReady volume = false → after.isReady volume = true →
    ∃ args, call.created = some args ∧ args.volumeId = volume ∧ Restored args after
  condition := restoreStep config volume
  same_files same path _ := by rw [same]
  same_trans first second path inside := (second path inside).trans (first path inside)
  promised same unready ready := by
    rw [Node.isReady_congr same.metadata, unready] at ready
    cases ready

abbrev restoreRules (config : DriverConfig) := (restoring volume config).discipline config

/-! What the other calls of a run leave alone. -/

section
variable {volume : VolumeId} {config : DriverConfig} {operation : Op}

def Op.sparesRestore (volume : VolumeId) (operation : Op) : Prop :=
  ∀ path : Path, path.restores volume = true → ¬ operation.touches path

theorem Op.sparesRestore.spared (spared : operation.sparesRestore volume) :
    (restoring volume config).spares operation :=
  fun _ _ _ _ _ executed path inside => Op.exec_frame executed (spared path inside)

private theorem cloneSource_inj {first second : VolumeId} (same : cloneSource first = cloneSource second) : first = second := by
  have lists := congrArg String.toList same
  simp only [cloneSource, String.toList_append, List.append_cancel_right_eq] at lists
  exact String.toList_inj.mp lists

/-- The calls that run beside a restore of the volume: no deletions, no snapshots
but those of clones, and no expansion of the volume itself. -/
def Call.besides (volume : VolumeId) : Call → Bool
  | .deleteVolume _ | .deleteSnapshot _ | .task (.createSnapshot _) | .future _ (.createSnapshot _) => false
  | .expandRawFile target _ => target ≠ volume
  | _ => true

private theorem Path.restores_carried {path : Path} (inside : path.restores volume = true) : path.carries := by
  cases path <;> trivial

private theorem TaskCall.writes_apart {args : CreateVolumeArgs} (different : args.volumeId ≠ volume) {path : Path}
    (inside : path.restores volume = true) : ¬ (TaskCall.createVolume args).writes path := by
  have apart : cloneSource args.volumeId ≠ cloneSource volume := fun same => different (cloneSource_inj same)
  rintro (own | ⟨-, id, -, own⟩)
  · cases path <;> cases own <;> simp [Path.restores, different] at inside
  · cases path <;> cases own <;> simp [Path.restores, apart] at inside

private theorem Call.footprint_sparesRestore {call : Call} (issued : call.footprint operation)
    (aside : call.besides volume = true) (others : call.creates volume = false) : operation.sparesRestore volume := by
  intro path inside touched
  have written := Call.writes_of_touches touched (Path.restores_carried inside) issued
  cases call with
  | expandRawFile target newSize =>
    have different : target ≠ volume := by simpa [Call.besides] using aside
    cases path <;> cases written <;> simp [Path.restores, different] at inside
  | task task =>
    cases task with
    | createVolume args => exact TaskCall.writes_apart (by simpa [Call.creates, Call.created] using others) inside written
    | createSnapshot args => cases aside
  | future index task =>
    cases task with
    | createVolume args => exact TaskCall.writes_apart (by simpa [Call.creates, Call.created] using others) inside written
    | createSnapshot args => cases aside
  | deleteVolume | deleteSnapshot => cases aside
  | _ => exact written

end

namespace Restore
variable {volume : VolumeId} {config : DriverConfig} {call : Call} {thread : Nat} {operation : Op} {state now : Node}

section
variable (owned : call.creates volume = true)
include owned

theorem leaves_step {post : Except Err operation.Reply → Node → Prop}
    (untouched : ¬ operation.touches (.metaFile volume))
    (reaches : ∀ answer reply after, restoreStep config volume call thread operation answer now = true →
      operation.exec thread answer now = (reply, after) →
      after.files.metadata volume = now.files.metadata volume → post reply after) :
    (restoreRules volume config).Step call thread operation post now := by
  apply Owned.owner_step owned
  intro answer reply after permitted executed
  have same := Op.exec_frame executed untouched
  refine ⟨fun unready ready => ?_, trivial, reaches answer reply after permitted executed (Files.metadata_congr same)⟩
  rw [Node.isReady_congr same, unready] at ready
  cases ready

theorem found_keeps {α : Type} {program : Driver α} {allowed : Op → Prop} {data : Meta}
    (within : program.Within Op.lawful allowed)
    (leaves : ∀ operation, allowed operation → ¬ operation.touches (.metaFile volume))
    (found : state.files.metadata volume = some data) :
    (restoreRules volume config).Safe call thread
      (fun _ state => state.files.metadata volume = some data) program state := by
  refine .ofWithin (fun node => node.files.metadata volume = some data) within nodePlugin_lawful ?_
    (fun _ _ found => found) found
  intro operation issued state found now relied _
  apply leaves_step owned (leaves operation issued)
  intro answer reply after permitted executed same
  exact same.trans ((relied owned).found found)

theorem leaves_safe {α : Type} {program : Driver α} {allowed : Op → Prop} (within : program.Within Op.lawful allowed)
    (leaves : ∀ operation, allowed operation → ¬ operation.touches (.metaFile volume)) :
    (restoreRules volume config).Safe call thread (fun _ _ => True) program state := by
  refine .ofWithin (fun _ => True) within nodePlugin_lawful ?_ (fun _ _ _ => trivial) trivial
  intro operation issued state _ now _ _
  apply leaves_step owned (leaves operation issued)
  intro answer reply after permitted executed same
  trivial

theorem install_step {old patch : Meta}
    (promises : ∀ after : Node, (∀ path, path ≠ Path.metaFile volume → after.files.lookup path = now.files.lookup path) →
      after.files.metadata volume = some (old.merge patch) → (old.merge patch).isReady = true →
      ∃ args, call.created = some args ∧ args.volumeId = volume ∧ Restored args after) :
    (restoreRules volume config).Step call thread (.file (.installMeta volume old patch))
      (fun reply after => ∀ value, reply = .ok value → after.files.metadata volume = some (old.merge patch)) now := by
  apply Owned.owner_step owned
  intro answer reply after permitted executed
  rcases installMeta_cases (Op.exec_file executed) with ⟨done, installed⟩ | ⟨unchanged, ⟨error, failed⟩, -⟩
  · refine ⟨fun _ ready => ?_, trivial, fun _ _ => installed⟩
    refine promises after (fun path other => Op.exec_frame executed other) installed ?_
    simpa [Node.isReady, installed] using ready
  · refine ⟨(restoring volume config).promised ((restoring volume config).same_files unchanged), trivial, ?_⟩
    intro value returned
    cases failed.symm.trans returned

theorem openingPatch_safe {args : CreateVolumeArgs} :
    (restoreRules volume config).Safe call thread (fun outcome state => ∀ value, outcome = .ok value →
      ∃ data, state.files.metadata volume = some data ∧ data.isReady = false)
      (patchMetadata config volume args.storagePool (VolumeManager.openingPatch args)) state := by
  refine .andThen (leaves_safe owned (metadataOr_within (fun _ reads => reads) volume)
    fun _ reads => reads.untouched _) (fun old state _ => ?_) fun _ _ _ value returned => by cases returned
  refine getVolumePath_safe (fun _ => .perform fun now relied _ => ?_) fun _ value returned => by cases returned
  intro answer reply after permitted answered
  obtain ⟨kept, still, installed⟩ := install_step owned (fun _ _ _ ready => by cases ready) answer reply after permitted
    answered
  exact ⟨kept, still, fun value returned => ⟨_, installed value returned, rfl⟩⟩

theorem patchMetadata_safe {target : PoolName} {data patch : Meta} {fact : Node → Prop}
    (stays : ∀ before after, SameRestore volume before after → fact before → fact after)
    (promises : ∀ before after : Node, fact before →
      (∀ path, path ≠ Path.metaFile volume → after.files.lookup path = before.files.lookup path) →
      after.files.metadata volume = some (data.merge patch) → (data.merge patch).isReady = true →
      ∃ args, call.created = some args ∧ args.volumeId = volume ∧ Restored args after)
    (found : state.files.metadata volume = some data) (initial : fact state) :
    (restoreRules volume config).Safe call thread (fun outcome state => ∀ value, outcome = .ok value →
      state.files.metadata volume = some (data.merge patch)) (patchMetadata config volume target patch) state := by
  have reading : (restoreRules volume config).Safe call thread (fun outcome state =>
      (state.files.metadata volume = some data ∧ fact state) ∧ True ∧ (outcome = .ok data ∨ ∃ error answer,
        outcome = .error error ∧ answer.fails = true ∧
        (restoring volume config).condition call thread (.file (.readMeta volume)) answer state = true))
      (metadataOr volume) state :=
    Owned.metadataOr_reads owned (fun before after same known => ⟨same.found known.1, stays before after same known.2⟩)
      (fun _ known => known.1) ⟨found, initial⟩
  refine .bind (reading.weaken ?_)
  intro outcome state read
  obtain ⟨⟨found, holds⟩, -, rfl | ⟨error, answer, rfl, -⟩⟩ := read
  · refine getVolumePath_safe (fun _ => .perform fun now relied _ => ?_) fun _ value returned => by cases returned
    exact install_step owned fun after => promises now after (stays state now (relied owned) holds)
  · exact fun value returned => by cases returned

end

/-- The snapshot is on disk, and the image is a copy of it that still fits below the length to come. -/
structure Copied (args : CreateVolumeArgs) (source : RestoreSource) (pool : PoolName) (snapshot : Image) (node : Node) :
    Prop where
  kept : node.files.image (source.path pool) = some snapshot
  copy : node.files.image (.imgFile args.storagePool args.volumeId) = some snapshot

def Bounded (config : DriverConfig) (source : RestoreSource) (size : Nat) (node : Node) : Prop :=
  ∀ pool ∈ config.storagePools, ∀ snapshot, node.files.image (source.path pool) = some snapshot → snapshot.size ≤ size

section
variable {args : CreateVolumeArgs} {data : Meta} {source : RestoreSource} (created : call.created = some args)
  (named : args.restoreSource = some source)
include created

omit volume operation now state data source in
theorem created_owns : call.creates args.volumeId = true := by
  simp [Call.creates, created]

include named

theorem copyFile_safe {thin : Bool} (known : pool ∈ config.storagePools)
    (found : state.files.metadata args.volumeId = some data)
    (bounded : thin = true → Bounded config source size state) :
    (restoreRules args.volumeId config).Safe call thread (fun outcome state =>
      ∀ value, outcome = .ok value → state.files.metadata args.volumeId = some data ∧
        ∃ snapshot, Copied args source pool snapshot state ∧ (thin = true → snapshot.size ≤ size))
      (copyFile (source.path pool) (ImgFile.path ⟨args.storagePool, args.volumeId⟩)) state := by
  have owned := created_owns created
  have apart : source.path pool ≠ ImgFile.path ⟨args.storagePool, args.volumeId⟩ := by
    simp [RestoreSource.path, ImgFile.path]
  have started : (restoreRules args.volumeId config).Safe call thread (fun outcome state =>
      ∀ opened, outcome = .ok opened → state.files.metadata args.volumeId = some data ∧
        state.files.image (source.path pool) = some opened ∧
        state.files.image (.imgFile args.storagePool args.volumeId) ≠ none ∧ (thin = true → opened.size ≤ size))
      (Driver.file (.cpStart (source.path pool) (ImgFile.path ⟨args.storagePool, args.volumeId⟩))) state := by
    apply Discipline.Safe.perform
    intro now relied _
    apply leaves_step owned (by simp [Op.touches, FileOp.touches, ImgFile.path])
    intro answer reply after permitted executed same opened returned
    subst returned
    have unmoved := relied owned
    obtain ⟨read, begun⟩ := cpStart_exec (Op.exec_file executed)
    refine ⟨same.trans (unmoved.found found), ?_, ?_, fun requested => ?_⟩
    · exact (Files.image_congr (Op.exec_frame executed apart)).trans read
    · rw [show Path.imgFile args.storagePool args.volumeId = ImgFile.path ⟨args.storagePool, args.volumeId⟩ from rfl, begun]
      simp
    · exact bounded requested pool known opened ((unmoved.snapshot named).symm.trans read)
  refine .proceed started ?_ ?_
  · intro opened state copied
    obtain ⟨found, read, begun, fits⟩ := copied
    apply Discipline.Safe.perform
    intro now relied _
    apply leaves_step owned (by simp [Op.touches, FileOp.touches, ImgFile.path])
    intro answer reply after permitted executed same value returned
    subst returned
    have unmoved := relied owned
    have standing : now.files.image (source.path pool) = some opened := (unmoved.snapshot named).trans read
    have finished := cpFinish_exec (Op.exec_file executed) (by rw [ImgFile.path, unmoved.image]; exact begun)
    rw [standing] at finished
    refine ⟨same.trans (unmoved.found found), opened, ⟨?_, finished⟩, fits⟩
    exact (Files.image_congr (Op.exec_frame executed apart)).trans standing
  · intro error state value returned
    cases returned

theorem source_reads (found : state.files.metadata args.volumeId = some data) :
    (restoreRules args.volumeId config).Safe call thread (fun outcome state =>
      state.files.metadata args.volumeId = some data ∧ ∀ value, outcome = .ok value → ∀ recorded,
        value.size = some recorded → value.isThin = true → Bounded config source (max args.size recorded) state)
      (metadata source.volume) state := by
  refine Owned.metadata_learns (created_owns created) (fun _ _ => SameRestore.found) ?_ found
  intro value answer now _ _ read permitted recorded sized thin pool known snapshot stored
  have fits : (Op.file (.readMeta source.volume)).fitsSnapshot config args now = true := by
    simpa [restoring, restoreStep, created] using permitted
  simp only [Op.fitsSnapshot, named, read, ne_eq, not_true_eq_false, decide_false, Bool.false_or, Option.all_some, thin,
    Bool.not_true, sized, Option.getD_some] at fits
  simpa [stored] using List.all_eq_true.mp fits pool known

omit created in
private theorem bounded_same {before after : Node} (same : SameRestore args.volumeId before after)
    (bounded : Bounded config source size before) : Bounded config source size after := by
  intro pool known snapshot stored
  exact bounded pool known snapshot ((same.snapshot named).symm.trans stored)

section
variable (found : state.files.metadata args.volumeId = some data)
include found

theorem restoreSnapshot_safe {thin : Bool} (bounded : thin = true → Bounded config source size state) :
    (restoreRules args.volumeId config).Safe call thread (fun outcome state =>
      ∀ value, outcome = .ok value → state.files.metadata args.volumeId = some data ∧
        ∃ pool snapshot, Copied args source pool snapshot state ∧ (thin = true → snapshot.size ≤ size))
      (SnapshotManager.restoreSnapshot config source.volume source.name ⟨args.storagePool, args.volumeId⟩
        source.temporary) state := by
  have owned := created_owns created
  have reading : ∀ operation : Op, operation.reads → operation.sparesRestore args.volumeId :=
    fun _ reads path _ => reads.untouched path
  have aside : ∀ {α : Type} {program : Driver α} {state : Node},
      program.Within Op.lawful (fun operation => operation.sparesRestore args.volumeId) →
      state.files.metadata args.volumeId = some data ∧ (thin = true → Bounded config source size state) →
      (restoreRules args.volumeId config).Safe call thread (fun _ state =>
        state.files.metadata args.volumeId = some data ∧ (thin = true → Bounded config source size state))
        program state :=
    fun within known => Owned.keeps owned (fun _ _ same known =>
      ⟨same.found known.1, fun requested => bounded_same named same (known.2 requested)⟩) within
      (fun _ spares => spares.spared) known
  refine .andThen (aside (metadata_within reading _) ⟨found, bounded⟩) (fun value state known => ?_)
    fun _ _ _ value returned => by cases returned
  refine .bind ((Discipline.Safe.returns nodePlugin_lawful (snapshotsPool_returns config source.volume)
    (aside (snapshotsPool_within reading _ _) known)).weaken ?_)
  intro outcome state chosen
  obtain ⟨known, configured⟩ := chosen
  cases outcome with
  | error error => exact fun value returned => by cases returned
  | ok pool =>
    have probing : (if copyOnWrite config value then SnapshotManager.isCowSupported pool source.volume source.temporary
        ⟨args.storagePool, args.volumeId⟩ else pure false).Within Op.lawful
        fun operation => operation.sparesRestore args.volumeId := by
      split
      · refine SnapshotManager.isCowSupported_within reading (fun _ only path inside touched => ?_) _ _ _ _
        have probe := only path touched
        cases path <;> first | cases inside | cases probe
      · exact .pure _
    refine .andThen (aside probing known) (fun _ state known => ?_) fun _ _ _ value returned => by cases returned
    refine (copyFile_safe created named (configured pool rfl) known.1 known.2).weaken ?_
    intro outcome state copied value returned
    obtain ⟨found, snapshot, copied, fits⟩ := copied value returned
    exact ⟨found, pool, snapshot, copied, fits⟩

theorem restore_safe :
    (restoreRules args.volumeId config).Safe call thread (fun outcome state =>
      ∀ built, outcome = .ok built → state.files.metadata args.volumeId = some data ∧
        ∃ pool snapshot, Copied args source pool snapshot state ∧ (built.2 = true → snapshot.size ≤ built.1))
      (VolumeManager.restore config args ⟨args.storagePool, args.volumeId⟩ (some source)) state := by
  have owned := created_owns created
  refine .andThen (found_keeps owned (listSnapshots_within (fun _ reads => reads) _ _ _ _)
    (fun _ reads => reads.untouched _) found) (fun snapshots state found => ?_) fun _ _ _ built returned => by cases returned
  split
  · exact fun built returned => by cases returned
  · refine .bind ((source_reads created named found).weaken ?_)
    intro outcome state read
    obtain ⟨found, bounded⟩ := read
    cases outcome with
    | error error => exact fun built returned => by cases returned
    | ok value =>
      refine need_safe (fun recorded sized => ?_) fun _ built returned => by cases returned
      refine .proceed (restoreSnapshot_safe created named found (bounded value rfl recorded sized)) ?_ ?_
      · intro _ state copied built returned
        cases returned
        exact copied
      · intro error state built returned
        cases returned

theorem growImage_safe {snapshot : Image} {thin : Bool}
    (copied : Copied args source pool snapshot state) (fits : thin = true → snapshot.size ≤ size) :
    (restoreRules args.volumeId config).Safe call thread (fun outcome state =>
      ∀ value, outcome = .ok value → state.files.metadata args.volumeId = some data ∧ Filled args state)
      (growImage (ImgFile.path ⟨args.storagePool, args.volumeId⟩) thin size) state := by
  have owned := created_owns created
  have apart : source.path pool ≠ ImgFile.path ⟨args.storagePool, args.volumeId⟩ := by
    simp [RestoreSource.path, ImgFile.path]
  unfold growImage
  split
  next requested =>
    apply Discipline.Safe.perform
    intro now relied _
    apply leaves_step owned (by simp [Op.touches, FileOp.touches, ImgFile.path])
    intro answer reply after permitted executed same value returned
    have unmoved := relied owned
    refine ⟨same.trans (unmoved.found found), ?_⟩
    rcases truncate_exec (Op.exec_file executed) with ⟨-, cut⟩ | ⟨-, error, failed⟩
    · have standing := unmoved.image.trans copied.copy
      rw [ImgFile.path, standing] at cut
      refine ⟨source, pool, snapshot, _, size - snapshot.size, named, ?_, cut, ?_⟩
      · exact (Files.image_congr (Op.exec_frame executed apart)).trans ((unmoved.snapshot named).trans copied.kept)
      · simp only [Image.truncate, Option.getD_some, List.take_of_length_le (fits requested)]
    · cases failed.symm.trans returned
  next =>
    apply Discipline.Safe.perform
    intro now relied _
    apply leaves_step owned (by simp [Op.touches, FileOp.touches, ImgFile.path])
    intro answer reply after permitted executed same value returned
    have unmoved := relied owned
    refine ⟨same.trans (unmoved.found found), ?_⟩
    rcases fallocate_exec (Op.exec_file executed) with ⟨reached, -, -, grown⟩ | ⟨-, error, failed⟩
    · have standing := unmoved.image.trans copied.copy
      rw [ImgFile.path, standing] at grown
      refine ⟨source, pool, snapshot, _, reached - snapshot.size, named, ?_, grown, ?_⟩
      · exact (Files.image_congr (Op.exec_frame executed apart)).trans ((unmoved.snapshot named).trans copied.kept)
      · simp only [Image.fallocate, Option.getD_some]
    · cases failed.symm.trans returned

end

theorem fillImage_safe (imaged : data.imgFile = some args.storagePool)
    (found : state.files.metadata args.volumeId = some data) :
    (restoreRules args.volumeId config).Safe call thread (fun _ _ => True) (do
      Driver.file (.touch (ImgFile.path ⟨args.storagePool, args.volumeId⟩))
      let (size, thin) ← VolumeManager.restore config args ⟨args.storagePool, args.volumeId⟩ (some source)
      growImage (ImgFile.path ⟨args.storagePool, args.volumeId⟩) thin size
      patchMetadata config args.volumeId args.storagePool { ready := some true }) state := by
  have owned := created_owns created
  refine .after (found_keeps owned (.perform .touch) (fun _ issued =>
    @ImageOp.leaves_metadata _ _ ⟨args.storagePool, args.volumeId⟩ issued) found) fun _ state found => ?_
  refine .proceed (restore_safe created named found) ?_ fun _ _ => trivial
  intro built state restored
  obtain ⟨found, pool, snapshot, copied, fits⟩ := restored
  refine .proceed (growImage_safe created named found copied fits) ?_ fun _ _ => trivial
  intro _ state grown
  refine (patchMetadata_safe owned (fun _ _ => Filled.same) ?_ grown.1 grown.2).weaken fun _ _ _ => trivial
  intro before after filled others installed _
  refine ⟨args, created, rfl, ?_, ?_⟩
  · simpa [installed, Meta.merge] using imaged
  · obtain ⟨source, pool, snapshot, image, extra, named, kept, built, content⟩ := filled
    refine ⟨source, pool, snapshot, image, extra, named, ?_, ?_, content⟩
    · exact (Files.image_congr (others _ (by simp [RestoreSource.path]))).trans kept
    · exact (Files.image_congr (others _ (by simp))).trans built

theorem buildImage_safe (unready : data.isReady = false) (found : state.files.metadata args.volumeId = some data) :
    (restoreRules args.volumeId config).Safe call thread (fun _ _ => True)
      (VolumeManager.buildImage config args (some source)) state := by
  have owned := created_owns created
  unfold VolumeManager.buildImage
  refine .after (found_keeps owned (VolumeManager.bigEnough_within _ _) (fun _ issued => issued.leaves_metadata) found)
    fun enough state found => ?_
  split
  · trivial
  · refine .after (found_keeps owned (.perform rfl) (fun _ issued => by
      rw [← issued]; simp [Op.touches, FileOp.touches]) found) fun _ state found => ?_
    refine .after (found_keeps owned (.perform rfl) (fun _ issued => by
      rw [← issued]; simp [Op.touches, FileOp.touches]) found) fun _ state found => ?_
    refine .after (found_keeps owned (.perform rfl) (fun _ issued => by
      rw [← issued]; simp [Op.touches]) found) fun createdAt state found => ?_
    have described : (data.merge (VolumeManager.describingPatch args ⟨args.storagePool, args.volumeId⟩ createdAt)).isReady =
        false := by
      simpa [Meta.merge, Meta.isReady, VolumeManager.describingPatch] using unready
    refine .proceed (patchMetadata_safe owned (fun _ _ _ (known : True) => known) ?_ found trivial) ?_ fun _ _ => trivial
    · intro before after _ _ _ ready
      cases described.symm.trans ready
    · intro _ state found
      exact fillImage_safe created named rfl found

end

private theorem findSource_returns (config : DriverConfig) {args : CreateVolumeArgs} (names : args.namesSource = true) :
    (VolumeManager.findSource config args).Returns Op.lawful
      (fun found => ∃ source, found = some source ∧ args.restoreSource = some source) := by
  unfold VolumeManager.findSource
  unfold CreateVolumeArgs.namesSource at names
  split
  next id typed given =>
    simp only [typed, given] at names
    refine .bind (rsplit_returns id) ?_
    rintro ⟨volume, name⟩ split
    simp only [split, Option.all_some, Bool.and_eq_true, decide_eq_true_eq] at names
    refine ⟨⟨volume, name, false⟩, by simp [names], ?_⟩
    simp [CreateVolumeArgs.restoreSource, typed, given, split, names]
  next id typed given =>
    refine .bind (.any _) fun _ _ => ⟨_, rfl, ?_⟩
    simp [CreateVolumeArgs.restoreSource, typed, given]
  next plain clone =>
    split at names
    next id typed given => exact absurd given (plain id typed)
    next id typed given => exact absurd given (clone id typed)
    next => cases names

theorem createVolume_safe {args : CreateVolumeArgs} (created : call.created = some args) (names : args.namesSource = true) :
    (restoreRules args.volumeId config).Safe call thread (fun _ _ => True)
      (VolumeManager.createVolume config args) state := by
  have owned := created_owns created
  unfold VolumeManager.createVolume
  split
  · trivial
  · refine getVolumePath_safe (fun _ => ?_) fun _ => trivial
    refine .after (leaves_safe owned (.perform rfl) fun _ issued => by
      rw [← issued]; simp [Op.touches, FileOp.touches]) fun _ state _ => ?_
    refine .after (leaves_safe owned (.perform rfl) fun _ issued => by
      rw [← issued]; simp [Op.touches, FileOp.touches]) fun _ state _ => ?_
    refine .proceed (openingPatch_safe owned) ?_ fun _ _ => trivial
    intro _ state opened
    obtain ⟨data, found, unready⟩ := opened
    refine .andFinally (fun _ => True) ?_ (fun _ _ => leaves_safe owned
      (VolumeManager.removeCloneSource_within config args) fun _ issued => issued.foreign.1) fun _ _ => trivial
    refine .bind ((Discipline.Safe.returns nodePlugin_lawful (findSource_returns config names)
      (found_keeps owned (VolumeManager.findSource_within config args) (fun _ issued => issued.foreign.1)
        found)).weaken ?_)
    intro outcome state sought
    obtain ⟨found, returned⟩ := sought
    cases outcome with
    | error error => trivial
    | ok source =>
      obtain ⟨source, rfl, named⟩ := returned source rfl
      have locking : ∀ lock, (restoring args.volumeId config).spares (.lock lock) := by
        intro lock
        apply Op.sparesRestore.spared
        intro path inside
        cases lock <;> (rintro rfl; cases inside)
      exact Owned.withVolLock_keeps owned locking (fun _ _ => SameRestore.found) (fun _ _ _ _ => trivial)
        (fun _ _ => trivial) (fun state found => buildImage_safe created named unready found) found

theorem call_safe (aside : call.besides volume = true)
    (names : ∀ args, call.created = some args → args.volumeId = volume → args.namesSource = true) :
    (restoreRules volume config).Safe call thread (fun _ _ => True) (call.program config) state := by
  by_cases owned : call.creates volume = true
  · cases call with
    | task task =>
      cases task with
      | createVolume args =>
        obtain rfl : args.volumeId = volume := by simpa [Call.creates, Call.created] using owned
        exact createVolume_safe rfl (names args rfl rfl)
      | createSnapshot args => cases owned
    | future index task =>
      cases task with
      | createVolume args =>
        obtain rfl : args.volumeId = volume := by simpa [Call.creates, Call.created] using owned
        refine @runFuture_safe _ _ _ _ (fun _ => True) (fun within _ => leaves_safe owned within fun _ issued => ?_) _
          (fun _ _ => createVolume_safe rfl (names args rfl rfl)) index state trivial
        exact issued.foreign.1
      | createSnapshot args => cases owned
    | _ => cases owned
  · have others : call.creates volume = false := by simpa using owned
    exact @Owned.spares_safe (restoring volume config) _ _ _ _ _ _ _ (fun _ => True) (fun _ _ _ _ => trivial)
      (Call.program_within config call) (fun _ issued => (Call.footprint_sparesRestore issued aside others).spared) trivial

end Restore

/-- The outside does not write to the image of the volume, which is not staged before it is ready. -/
def Drift.aside : Drift → Bool
  | .write img _ _ => img.volume ≠ volume
  | .detach _ => true

theorem Drift.aside.same {volume : VolumeId} {change : Drift} (aside : change.aside volume = true) (node : Node) :
    SameRestore volume node (change.apply node) := by
  intro path inside
  cases change with
  | detach device => rfl
  | write img data physical =>
    have other : path ≠ img.path := by
      rintro rfl
      simp_all [Drift.aside, Path.restores, ImgFile.path]
    simp only [Drift.apply]
    split
    · split
      · exact Files.change_lookup fun after written => Files.write_lookup_ne written other
      · rfl
    · rfl

/-- Runs of attempts to create the volume from a source, one at a time, beside
expansions of other volumes and writes to them. -/
def restoringRun (now : NodeConfig) (event : NodeEvent) : Bool :=
  now.onStep (restoreStep config volume) event &&
    match event with
    | .enter call => call.besides volume && call.created.all fun args =>
      args.volumeId ≠ volume || args.namesSource && now.only fun other => !other.creates volume
    | .drift change => change.aside volume
    | _ => true

theorem restoring_covers (config : DriverConfig) :
    (restoreRules volume config).Covers (fun now event => restoringRun config volume now event = true) := by
  have begins : ∀ {now : NodeConfig} {call : Call} {args : CreateVolumeArgs},
      restoringRun config volume now (.enter call) = true → call.created = some args → args.volumeId = volume →
      args.namesSource = true ∧ now.only (fun other => !other.creates volume) = true := by
    intro now call args permitted created same
    have begun := (Bool.and_eq_true_iff.mp (Bool.and_eq_true_iff.mp permitted).2).2
    simpa [created, same] using begun
  apply Owned.covers
  · intro now event permitted
    exact (Bool.and_eq_true_iff.mp permitted).1
  · intro now call permitted owned
    obtain ⟨args, created, same⟩ := (Option.any_eq_true _ _).mp (show call.creates volume = true from owned)
    exact (begins permitted created (of_decide_eq_true same)).2
  · intro now call thread state permitted _
    have aside := (Bool.and_eq_true_iff.mp (Bool.and_eq_true_iff.mp permitted).2).1
    exact (Restore.call_safe aside fun args created same => (begins permitted created same).1).weaken
      fun _ _ _ _ => trivial
  · intro now _
    trivial
  · intro now change permitted
    exact Drift.aside.same (Bool.and_eq_true_iff.mp permitted).2 now.state

/-- Whenever an attempt makes the volume ready, the image its metadata name is
the complete source snapshot followed by zeros. -/
theorem ready_image_restored {node : Node} {before after : NodeConfig}
    (reached : (nodePlugin config).Reaches (fun now event => restoringRun config volume now event = true)
      ⟨node, []⟩ before)
    (step : (nodePlugin config).Steps (fun now event => restoringRun config volume now event = true) before after)
    (unready : before.state.isReady volume = false) (ready : after.state.isReady volume = true) :
    ∃ thread ∈ before.threads, ∃ args, thread.call.created = some args ∧ args.volumeId = volume ∧
      Restored args after.state := by
  have covers := restoring_covers volume config
  have holds := covers.reaches reached (Owned.holds_idle trivial trivial)
  obtain ⟨event, permitted, moved⟩ := step
  have outside : ∀ change, event = .drift change → SameRestore volume before.state (change.apply before.state) := by
    rintro change rfl
    exact Drift.aside.same (Bool.and_eq_true_iff.mp permitted).2 before.state
  rcases Owned.promised_next covers outside holds permitted moved with same | ⟨thread, member, promised⟩
  · rw [Node.isReady_congr same.metadata, unready] at ready
    cases ready
  · exact ⟨thread, member, promised unready ready⟩

namespace Restore

def thin (volume : VolumeId) (size : Nat) (source : Option (VolumeSource × String)) : CreateVolumeArgs where
  volumeId := volume
  size := size
  storagePool := "default"
  thinProvision := true
  sourceType := source.map Prod.fst
  sourceId := source.map Prod.snd

/-- A volume of one recorded byte that was restored from a source grown to four bytes, and written to. -/
def grownSource : Node :=
  let prepared := [.enter .start] ++ moves 0 2 {} ++ [.enter (.task (.createVolume (thin "a" 1 none)))] ++ moves 1 16 {} ++
    [.enter (.task (.createSnapshot { volumeId := "a", name := "s", copyOnWrite := true }))] ++ moves 2 13 {} ++
    [.enter (.expandRawFile "a" 4)] ++ moves 3 13 { amount := 16 } ++
    [.enter (.task (.createVolume (thin "b" 1 (some (.snapshot, "a/s")))))] ++ moves 4 25 {} ++
    [.drift (.write ⟨"default", "b"⟩ [1, 2, 3, 4] 4)]
  (((nodePlugin singlePool).run prepared NodeConfig.initial).map Config.state).getD {}

def cloning (requested : Nat) : List NodeEvent :=
  .enter (.task (.createVolume (thin "c" requested (some (.volume, "b"))))) :: moves 0 39 {}

def cloned : Path := .imgFile "default" "c"

def copied : Path := .snapshot "default" "b" true (cloneSource "c")

/-- The clone asks for as many bytes as its source has on disk. -/
theorem ready_image_restored_clone : ∃ before after : NodeConfig,
    (nodePlugin singlePool).Steps (fun now event => restoringRun singlePool "c" now event = true) before after ∧
    before.state.isReady "c" = false ∧ after.state.isReady "c" = true ∧
    ∃ thread ∈ before.threads, ∃ args, thread.call.created = some args ∧ args.volumeId = "c" ∧
      Restored args after.state := by
  obtain ⟨before, after, reached, tested, step⟩ := @Machine.last_step _ _ _ _ _ _ _ (nodePlugin singlePool)
    (restoringRun singlePool "c") (fun before after => !before.state.isReady "c" && after.state.isReady "c") (cloning 4)
    (.step 0 {}) ⟨grownSource, []⟩ (by decide +kernel)
  obtain ⟨unready, ready⟩ := Bool.and_eq_true_iff.mp tested
  replace unready : before.state.isReady "c" = false := by simpa using unready
  exact ⟨before, after, step, unready, ready, ready_image_restored singlePool "c" reached step unready ready⟩

/-- The clone asks for what its source was created with. It is cut to one byte of four. -/
theorem ready_image_cut : let beside := fun (_ : NodeConfig) (event : NodeEvent) => event.begins (Call.besides "c")
    let observed := fun now : NodeConfig => (now.state.isReady "c", (now.state.files.image copied).map Image.data,
      (now.state.files.image cloned).map Image.data)
    ((nodePlugin singlePool).runIf beside (cloning 1 ++ [.step 0 {}]) ⟨grownSource, []⟩).map observed =
      some (true, some [1, 2, 3, 4], some [1]) := by
  decide +kernel

end Restore
end Rawfile
