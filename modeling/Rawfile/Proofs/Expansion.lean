import Rawfile.Proofs.Sizes

/-! `create_volume` leaves an image that fits its metadata when its source is
not larger than requested, and `ExpandRawFile` starts from one that fits. -/

namespace Rawfile
open Effects

variable {size : Option Nat}

namespace Sizes
variable {volume : VolumeId} {config : DriverConfig} {call : Call} {thread : Nat} {operation : Op} {state now : Node}

section
variable {args : CreateVolumeArgs} {data : Meta} (created : call.created = some args) (same : args.volumeId = volume)
include created same

theorem created_sizes : call.sizes volume = true := by
  cases call <;> simp_all [Call.sizes, Call.created]

private theorem fits_request {answer : Answer} (permitted : sizedStep volume call thread operation answer now = true)
    (thin : args.thinProvision = true) : operation.fitsRequest args now = true := by
  simp only [sizedStep, created, Option.all_some, same, thin, ne_eq, not_true_eq_false, decide_false, Bool.not_true,
    Bool.or_self, Bool.false_or, Bool.and_eq_true] at permitted
  exact permitted.2

theorem source_reads {source : VolumeId} (sized : data.size = some args.size)
    (found : state.files.metadata volume = some data) :
    (sizeRules volume config).Safe call thread
      (fun outcome state => state.files.metadata volume = some data ∧ ∀ value, outcome = .ok value →
        args.thinProvision = true → ∀ recorded, value.size = some recorded → recorded ≤ args.size)
      (metadata source) state := by
  refine Owned.metadata_learns (created_sizes created same) (fun _ _ => SameSizes.found) ?_ found
  intro value answer now found _ read permitted thin recorded named
  have fits := @fits_request _ _ thread _ _ _ created same _ permitted thin
  simp only [Op.fitsRequest, Bool.or_eq_true, decide_eq_true_eq, read, Option.bind_some, named, Option.all_some] at fits
  rcases fits with own | fits
  · rw [own, same] at read
    cases read.symm.trans found
    cases named.symm.trans sized
    exact Nat.le_refl _
  · exact fits

theorem restore_safe (unready : data.isReady = false) (sized : data.size = some args.size)
    (found : state.files.metadata volume = some data) (source : Option RestoreSource) :
    (sizeRules volume config).Safe call thread (fun outcome state => state.files.metadata volume = some data ∧
      ∀ built, outcome = .ok built → args.thinProvision = true → built.1 = args.size)
      (VolumeManager.restore config args ⟨args.storagePool, volume⟩ source) state := by
  have owned := created_sizes created same
  cases source with
  | none =>
    refine ⟨found, fun built returned _ => ?_⟩
    cases returned
    rfl
  | some source =>
    refine .andThen (@image_safe _ _ _ _ _ owned _ _ args.storagePool _ unready
      (listSnapshots_within (fun _ => .looking) _ _ _ _) found) (fun snapshots state found => ?_)
      fun _ _ found => ⟨found, fun built returned => by cases returned⟩
    split
    · exact ⟨found, fun built returned => by cases returned⟩
    · refine .bind ((source_reads created same sized found).weaken ?_)
      intro outcome state read
      obtain ⟨found, bound⟩ := read
      cases outcome with
      | error error => exact ⟨found, fun built returned => by cases returned⟩
      | ok value =>
        refine need_safe (fun recorded named => ?_) fun _ => ⟨found, fun built returned => by cases returned⟩
        refine .andThen (image_safe owned unready (VolumeManager.restoreSnapshot_within config source
          ⟨args.storagePool, volume⟩) found) (fun _ state found => ⟨found, fun built returned thin => ?_⟩)
          fun _ _ found => ⟨found, fun built returned => by cases returned⟩
        cases returned
        exact Nat.max_eq_left (bound value rfl thin recorded named)

theorem growImage_fits {size : Nat} (unready : data.isReady = false)
    (fits : args.thinProvision = true → size = args.size) (found : state.files.metadata volume = some data) (thin : Bool) :
    (sizeRules volume config).Safe call thread (fun outcome state => state.files.metadata volume = some data ∧
      ∀ value, outcome = .ok value → args.thinProvision = true → ∀ length,
        state.imageSize ⟨args.storagePool, volume⟩ = some length → length ≤ args.size)
      (growImage (ImgFile.path ⟨args.storagePool, volume⟩) thin size) state := by
  have owned := created_sizes created same
  unfold growImage
  split
  · apply Discipline.Safe.perform
    intro now relied valid
    apply image_step owned ((relied owned).metadata.trans found) unready (.truncate size) valid
    intro answer reply after permitted executed found
    refine ⟨found, fun value returned requested length measured => ?_⟩
    rcases @truncate_sizes volume _ _ _ _ _ _ _ executed with ⟨-, cut⟩ | ⟨-, error, failed⟩
    · cases cut.symm.trans measured
      exact Nat.le_of_eq (fits requested)
    · cases failed.symm.trans returned
  · apply Discipline.Safe.perform
    intro now relied valid
    apply image_step owned ((relied owned).metadata.trans found) unready (.fallocate size) valid
    intro answer reply after permitted executed found
    refine ⟨found, fun value returned requested length measured => ?_⟩
    rcases @fallocate_sizes volume _ _ _ _ _ _ _ executed with ⟨reached, complete, grown⟩ | ⟨-, error, failed⟩
    · have before : (now.imageSize ⟨args.storagePool, volume⟩).getD 0 ≤ args.size := by
        have request := fits_request created same permitted requested
        unfold Node.imageSize
        cases image : now.files.image (ImgFile.path ⟨args.storagePool, volume⟩) with
        | none => exact Nat.zero_le _
        | some image => simpa [Op.fitsRequest, image] using request
      cases grown.symm.trans measured
      have whole := complete returned
      have requests := fits requested
      omega
    · cases failed.symm.trans returned

theorem fillImage_safe (configured : args.storagePool ∈ config.storagePools) (unready : data.isReady = false)
    (sized : data.size = some args.size) (provisioned : data.isThin = args.thinProvision)
    (named : data.imgFile = some args.storagePool) (found : state.files.metadata volume = some data)
    (source : Option RestoreSource) :
    (sizeRules volume config).Safe call thread (fun _ state => state.outgrown volume = false) (do
      Driver.file (.touch (ImgFile.path ⟨args.storagePool, volume⟩))
      let (size, thin) ← VolumeManager.restore config args ⟨args.storagePool, volume⟩ source
      growImage (ImgFile.path ⟨args.storagePool, volume⟩) thin size
      patchMetadata config volume args.storagePool { ready := some true }) state := by
  have owned := created_sizes created same
  have settles : ∀ node : Node, node.files.metadata volume = some data → node.outgrown volume = false :=
    fun _ found => Node.outgrown_of_unready found unready
  refine .andThen (image_safe owned unready (.perform .touch) found) (fun _ state found => ?_) fun _ _ => settles _
  refine .bind ((restore_safe created same unready sized found source).weaken ?_)
  intro outcome state restored
  cases outcome with
  | error error => exact settles _ restored.1
  | ok built =>
    refine .bind ((growImage_fits created same unready (restored.2 built rfl) restored.1 built.2).weaken ?_)
    intro outcome state grown
    obtain ⟨found, fits⟩ := grown
    cases outcome with
    | error error => exact settles _ found
    | ok value =>
      refine (patchMetadata_safe owned configured (by simp)
        (⟨found, rfl⟩ : Standing volume args.storagePool data _ state)).weaken ?_
      intro outcome last patched
      rcases patched with ⟨-, standing⟩ | ⟨-, -, settled⟩
      · refine standing.settled fun _ thin => ⟨by simpa [Meta.merge] using named, fun recorded length => ?_⟩
        intro recording measured
        have requested : args.thinProvision = true := by simpa [Meta.merge, Meta.isThin, ← provisioned] using thin
        have whole : recorded = args.size := by simpa [Meta.merge, sized, eq_comm] using recording
        have within := fits value rfl requested length measured
        omega
      · exact settled

theorem buildImage_safe (configured : args.storagePool ∈ config.storagePools) (unready : data.isReady = false)
    (found : state.files.metadata volume = some data) (source : Option RestoreSource) :
    (sizeRules volume config).Safe call thread (fun _ state => state.outgrown volume = false)
      (VolumeManager.buildImage config args source) state := by
  have owned := created_sizes created same
  have settles : ∀ node : Node, node.files.metadata volume = some data → node.outgrown volume = false :=
    fun _ found => Node.outgrown_of_unready found unready
  subst same
  have keeps : ∀ {α : Type} {program : Driver α} {state : Node}, program.Within Op.lawful (Op.foreign args.volumeId) →
      state.files.metadata args.volumeId = some data → (sizeRules args.volumeId config).Safe call thread
        (fun _ state => state.files.metadata args.volumeId = some data) program state :=
    fun within found => found_keeps owned within (fun _ foreign => foreign) found
  have making : ∀ temporary, (Op.file (.mkdirs (.snapshotsDir args.storagePool args.volumeId temporary))).foreign
      args.volumeId := by
    intro temporary
    simp [Op.foreign, Op.touches, FileOp.touches]
  unfold VolumeManager.buildImage
  refine .andThen (image_safe owned unready (VolumeManager.bigEnough_within _ _) found) (fun enough state found => ?_)
    fun _ _ => settles _
  split
  · exact settles _ found
  · refine .andThen (keeps (.perform (making false)) found) (fun _ state found => ?_) fun _ _ => settles _
    refine .andThen (keeps (.perform (making true)) found) (fun _ state found => ?_) fun _ _ => settles _
    refine .andThen (keeps (.perform (Op.reads.foreign trivial)) found) (fun createdAt state found => ?_)
      fun _ _ => settles _
    refine .bind ((patchMetadata_safe owned configured ?_
      (⟨found, rfl⟩ : Standing args.volumeId args.storagePool data _ state)).weaken ?_)
    · intro pool named
      cases named
      exact configured
    intro outcome state patched
    rcases patched with ⟨rfl, described⟩ | ⟨⟨error, rfl⟩, -, settled⟩
    · refine fillImage_safe created rfl configured ?_ rfl rfl rfl described.metadata source
      simpa [Meta.merge, Meta.isReady, VolumeManager.describingPatch] using unready
    · exact settled

theorem createVolume_safe (settled : state.outgrown volume = false) :
    (sizeRules volume config).Safe call thread (fun _ state => state.outgrown volume = false)
      (VolumeManager.createVolume config args) state := by
  have owned := created_sizes created same
  subst same
  have keeps : ∀ {α : Type} {program : Driver α} {state : Node}, program.Within Op.lawful (Op.foreign args.volumeId) →
      state.outgrown args.volumeId = false → (sizeRules args.volumeId config).Safe call thread
        (fun _ state => state.outgrown args.volumeId = false) program state :=
    fun within settled => settled_keeps owned within (fun _ foreign => foreign) settled
  unfold VolumeManager.createVolume
  split
  · exact settled
  · refine getVolumePath_safe (fun configured => ?_) fun _ => settled
    refine .andThen (keeps (.perform (by simp [Op.foreign, Op.touches, FileOp.touches])) settled)
      (fun _ state settled => ?_) fun _ _ settled => settled
    refine .andThen (keeps (.perform (by simp [Op.foreign, Op.touches, FileOp.touches])) settled)
      (fun _ state settled => ?_) fun _ _ settled => settled
    refine .bind ((openingPatch_safe owned configured settled).weaken ?_)
    intro outcome state opened
    cases outcome with
    | error error => exact opened.1
    | ok value =>
      obtain ⟨data, found, unready⟩ := opened.2 value rfl
      have settles : ∀ node : Node, node.files.metadata args.volumeId = some data → node.outgrown args.volumeId = false :=
        fun _ found => Node.outgrown_of_unready found unready
      have building : (sizeRules args.volumeId config).Safe call thread (fun _ state => state.outgrown args.volumeId = false)
          (do
            let source ← VolumeManager.findSource config args
            withVolLock args.volumeId (VolumeManager.buildImage config args source)) state := by
        refine .andThen (found_keeps owned (VolumeManager.findSource_within config args) (fun _ issued => issued.foreign)
          found) (fun source state found => ?_) fun _ _ => settles _
        exact Owned.withVolLock_keeps owned lock_spared (fun _ _ => SameSizes.found) (fun _ _ => SameSizes.settled) settles
          (fun state found => buildImage_safe created rfl configured unready found source) found
      refine .tryFinally (building.weaken ?_)
      intro outcome state settled
      refine (keeps ((VolumeManager.removeCloneSource_within config args).mono fun _ issued => issued.foreign)
        settled).weaken ?_
      intro last state settled
      cases last <;> exact settled

end

section
variable (owned : call.sizes volume = true)
include owned

theorem growImage_safe {pool : PoolName} {data : Meta} {recorded length : Nat} (named : data.imgFile = some pool)
    (sized : data.size = some recorded) (larger : recorded < length) (standing : Standing volume pool data size state)
    (settled : state.outgrown volume = false) :
    (sizeRules volume config).Safe call thread (fun outcome state =>
      (∃ value size, outcome = .ok value ∧ Standing volume pool data size state ∧
        (data.isThin = true → size = some length)) ∨
      ∃ error, outcome = .error error ∧ state.outgrown volume = false)
      (growImage (ImgFile.path ⟨pool, volume⟩) data.isThin length) state := by
  have sizesOnly : ∀ {operation : FileOp} {answer reply after now}, (Op.file operation).exec thread answer now =
      (reply, after) → ¬ operation.touches (.metaFile volume) → Pooled volume config now → Standing volume pool data size now →
      after.files.metadata volume = some data ∧ Pooled volume config after := by
    intro operation answer reply after now executed untouched valid standing
    have same : after.files.metadata volume = now.files.metadata volume :=
      Files.metadata_congr (Op.exec_frame executed untouched)
    refine ⟨same.trans standing.metadata, ?_⟩
    unfold Pooled
    rw [same]
    exact valid
  unfold growImage
  split
  next thin =>
    apply Discipline.Safe.perform
    intro now relied valid
    have standing := standing.same (relied owned)
    have settled := (relied owned).outgrown.trans settled
    apply Owned.owner_step owned
    intro answer reply after permitted executed
    obtain ⟨found, pooled⟩ := sizesOnly executed (by simp [FileOp.touches, ImgFile.path]) valid standing
    rcases @truncate_sizes volume _ _ _ _ _ _ _ executed with ⟨done, cut⟩ | ⟨same, error, failed⟩
    · refine ⟨?_, pooled, .inl ⟨(), some length, done, ⟨found, cut⟩, fun _ => rfl⟩⟩
      intro other otherPool before sameData ready sameName measured
      cases standing.metadata.symm.trans sameData
      cases named.symm.trans sameName
      have fits := Node.fits_recorded settled standing.metadata ready thin named sized measured
      exact ⟨length, cut, by omega⟩
    · exact ⟨.of_sizes same.sizes, pooled, .inr ⟨error, failed, same.outgrown.trans settled⟩⟩
  next thick =>
    apply Discipline.Safe.perform
    intro now relied valid
    have standing := standing.same (relied owned)
    apply Owned.owner_step owned
    intro answer reply after permitted executed
    obtain ⟨found, pooled⟩ := sizesOnly executed (by simp [FileOp.touches, ImgFile.path]) valid standing
    have settles : after.outgrown volume = false := by simp [Node.outgrown, found, thick]
    have reached : (∃ value size, reply = .ok value ∧ Standing volume pool data size after ∧
        (data.isThin = true → size = some length)) ∨ ∃ error, reply = .error error ∧ after.outgrown volume = false := by
      cases reply with
      | ok value => exact .inl ⟨value, _, rfl, ⟨found, rfl⟩, fun thin => absurd thin thick⟩
      | error error => exact .inr ⟨error, rfl, settles⟩
    rcases @fallocate_sizes volume _ _ _ _ _ _ _ executed with ⟨further, -, grown⟩ | ⟨same, -⟩
    · refine ⟨?_, pooled, reached⟩
      intro other otherPool before sameData ready sameName measured
      cases standing.metadata.symm.trans sameData
      cases named.symm.trans sameName
      refine ⟨_, grown, ?_⟩
      rw [measured]
      exact Nat.le_max_left _ _
    · exact ⟨.of_sizes same.sizes, pooled, reached⟩

theorem answered_safe {exhausted : Bool} (settled : state.outgrown volume = false) :
    (sizeRules volume config).Safe call thread (fun _ state => state.outgrown volume = false)
      (Internal.answered config volume exhausted) state :=
  settled_keeps owned (.bind (isAttached_within (fun _ reads => reads) _ _) fun _ => .pure _)
    (fun _ reads => reads.foreign) settled

theorem expansion_safe {pool target : PoolName} {data : Meta} {recorded length : Nat}
    (configured : target ∈ config.storagePools) (named : data.imgFile = some pool) (sized : data.size = some recorded)
    (larger : recorded < length) (standing : Standing volume pool data size state)
    (settled : state.outgrown volume = false) :
    (sizeRules volume config).Safe call thread (fun _ state => state.outgrown volume = false) (do
      growImage (ImgFile.path ⟨pool, volume⟩) data.isThin length
      patchMetadata config volume target { size := some length }
      Internal.answered config volume false) state := by
  refine .bind ((growImage_safe owned named sized larger standing settled).weaken ?_)
  intro outcome state grown
  rcases grown with ⟨value, size, rfl, standing, exact⟩ | ⟨error, rfl, settled⟩
  · refine .bind ((patchMetadata_safe owned configured (by simp) standing).weaken ?_)
    intro outcome state patched
    rcases patched with ⟨rfl, standing⟩ | ⟨⟨error, rfl⟩, -, settled⟩
    · refine answered_safe owned (standing.settled fun _ thin => ⟨by simpa [Meta.merge] using named, ?_⟩)
      intro later measured recording reached
      have known : length = later := by simpa [Meta.merge] using recording
      have grown := exact (by simpa [Meta.merge, Meta.isThin] using thin)
      rw [grown] at reached
      cases reached
      omega
    · exact settled
  · exact settled

private theorem fitting_reads {pool : PoolName} {data : Meta} (fitting : Fitting volume pool data size state) :
    (sizeRules volume config).Safe call thread (fun outcome state => Fitting volume pool data size state ∧
      (outcome = .ok data ∧ Pooled volume config state ∨ ∃ error, outcome = .error error)) (metadata volume) state := by
  refine (Owned.metadata_reads owned (fun _ _ => .same) (fun _ fitting => fitting.metadata) fitting).weaken ?_
  intro outcome state read
  obtain ⟨fitting, pooled, returned | ⟨error, answer, failed, -⟩⟩ := read
  · exact ⟨fitting, .inl ⟨returned, pooled⟩⟩
  · exact ⟨fitting, .inr ⟨error, failed⟩⟩

private theorem fitting_looks {α : Type} {program : Driver α} {pool : PoolName} {data : Meta}
    (within : program.Within Op.lawful Op.reads) (fitting : Fitting volume pool data size state) :
    (sizeRules volume config).Safe call thread (fun _ state => Fitting volume pool data size state) program state :=
  Owned.looks owned (fun _ _ => .same) within fitting

theorem expandRawFile_safe (newSize : Int) (settled : state.outgrown volume = false) :
    (sizeRules volume config).Safe call thread (fun _ state => state.outgrown volume = false)
      (Internal.expandRawFile config volume newSize) state := by
  refine Owned.withVolLock_keeps owned lock_spared (fun _ _ => SameSizes.settled) (fun _ _ => SameSizes.settled)
    (fun _ settled => settled) (fun state settled => ?_) settled
  have reading : (sizeRules volume config).Safe call thread (fun outcome state =>
      state.outgrown volume = false ∧ ∀ data, outcome = .ok data → state.files.metadata volume = some data)
      (metadata volume) state :=
    Owned.metadata_learns owned (fun _ _ => SameSizes.settled) (fun _ _ _ _ _ found _ => found) settled
  refine .bind (.bind (reading.weaken ?_))
  intro outcome state learnt
  obtain ⟨settled, learns⟩ := learnt
  cases outcome with
  | error error => exact settled
  | ok data =>
    refine need_safe (fun pool named => ?_) fun _ => settled
    have fitting : Fitting volume pool data (state.imageSize ⟨pool, volume⟩) state := ⟨⟨learns data rfl, rfl⟩, settled⟩
    refine .bind (.bind ((fitting_reads owned fitting).weaken ?_))
    intro outcome state read
    obtain ⟨fitting, ⟨rfl, -⟩ | ⟨error, rfl⟩⟩ := read
    · refine need_ends (fun recorded sized => ?_) fun _ => fitting.settled
      dsimp only
      split
      · exact answered_safe owned fitting.settled
      next grows =>
        refine .bind ((fitting_reads owned fitting).weaken ?_)
        intro outcome state read
        obtain ⟨fitting, ⟨rfl, pooled⟩ | ⟨error, rfl⟩⟩ := read
        · have configured := fun target => pooled data target fitting.metadata
          refine .andThen (fitting_looks owned (Internal.requiredSpace_within _ _ _ _) fitting)
            (fun required state fitting => ?_) fun _ _ fitting => fitting.settled
          refine need_safe (fun target chosen => ?_) fun _ => fitting.settled
          refine .andThen (fitting_looks owned (getCapacity_within (fun _ reads => reads) _ _) fitting)
            (fun capacity state fitting => ?_) fun _ _ fitting => fitting.settled
          split
          · exact answered_safe owned fitting.settled
          · exact expansion_safe owned (configured target chosen) named sized (by omega) fitting.toStanding
              fitting.settled
        · exact fitting.settled
    · exact fitting.settled

end

/-- Every call that sizes the volume leaves an image that fits. -/
theorem call_safe (keeps : call.deletes = false) (settled : call.sizes volume = true → state.outgrown volume = false) :
    (sizeRules volume config).Safe call thread ((sizeRules volume config).ends call) (call.program config) state := by
  by_cases owned : call.sizes volume = true
  · replace settled := settled owned
    suffices safe : (sizeRules volume config).Safe call thread (fun _ state => state.outgrown volume = false)
        (call.program config) state from safe.weaken fun _ _ settled _ => settled
    cases call with
    | expandRawFile target newSize =>
      obtain rfl : target = volume := by simpa [Call.sizes] using owned
      exact .andThen (expandRawFile_safe owned newSize settled) (fun _ _ settled => settled) fun _ _ settled => settled
    | task task =>
      cases task with
      | createVolume args =>
        exact createVolume_safe rfl (by simpa [Call.sizes, Call.created] using owned) settled
      | createSnapshot args => cases owned
    | future index task =>
      cases task with
      | createVolume args =>
        refine runFuture_safe (fun within settled => settled_keeps owned within (fun _ issued => issued.foreign) settled)
          (fun state settled => ?_) index settled
        exact createVolume_safe rfl (by simpa [Call.sizes, Call.created] using owned) settled
      | createSnapshot args => cases owned
    | _ => cases owned
  · have others : call.sizes volume = false := by simpa using owned
    refine (@Owned.spares_safe (sizing volume config) _ _ _ _ _ _ _ (fun _ => True) (fun _ _ _ _ => trivial)
      (Call.program_within config call)
      (fun _ issued => (Call.footprint_foreign issued keeps others).spared) trivial).weaken ?_
    intro outcome state _ both
    exact absurd both owned

end Sizes

/-- The runs without deletions in which `create_volume` and `ExpandRawFile` of
the volume are under way one at a time, and the plugin does not die between the
growing of an image and the recording of its size. -/
def sizedRun (volume : VolumeId) (now : NodeConfig) (event : NodeEvent) : Bool :=
  now.onStep (sizedStep volume) event &&
    match event with
    | .enter call => !call.deletes && (!call.sizes volume || now.only fun other => !other.sizes volume)
    | .crash => !now.state.outgrown volume
    | _ => true

private theorem sizing_covers (volume : VolumeId) (config : DriverConfig) :
    (sizeRules volume config).Covers (fun now event => sizedRun volume now event = true) := by
  apply Owned.covers
  · intro now event permitted
    exact (Bool.and_eq_true_iff.mp permitted).1
  · intro now call permitted owned
    have begins := (Bool.and_eq_true_iff.mp permitted).2
    have single : now.only (fun other => !other.sizes volume) = true := by
      simpa [show call.sizes volume = true from owned] using (Bool.and_eq_true_iff.mp begins).2
    exact single
  · intro now call thread state permitted settled
    have begins := (Bool.and_eq_true_iff.mp permitted).2
    exact Sizes.call_safe (by simpa using (Bool.and_eq_true_iff.mp begins).1) settled
  · intro now permitted
    have settled : now.state.outgrown volume = false := by simpa using (Bool.and_eq_true_iff.mp permitted).2
    exact settled
  · intro now change _
    exact change.apply_sizes now.state

/-- In such runs no step decreases the size of the image of a ready volume. -/
theorem ready_image_never_shrinks (config : DriverConfig) (volume : VolumeId) {before after : NodeConfig}
    (reached : (nodePlugin config).Reaches (fun now event => sizedRun volume now event = true) NodeConfig.initial before)
    (step : (nodePlugin config).Steps (fun now event => sizedRun volume now event = true) before after) :
    Unshrunk volume before.state after.state := by
  have covers := sizing_covers volume config
  have initial : Pooled volume config {} := fun data pool found => by cases found
  have holds := covers.reaches reached (Owned.holds_idle initial rfl)
  obtain ⟨event, permitted, moved⟩ := step
  rcases Owned.promised_next covers (fun change _ => change.apply_sizes before.state) holds permitted moved with
    same | ⟨thread, -, promised⟩
  · exact .of_sizes same.sizes
  · exact promised

namespace Sizes

def image : ImgFile := ⟨"default", "v"⟩

/-- A thin volume of one byte is copied to a snapshot and expanded to four, a second one is
restored from the snapshot, and the second one's expansion has come to the truncation. -/
def restoredAndExpanding (requested newSize : Nat) : List NodeEvent :=
  [.enter .start] ++ moves 0 2 {} ++
    [.enter (.task (.createVolume { volumeId := "u", size := 1, storagePool := "default", thinProvision := true }))] ++
    moves 1 16 {} ++
    [.enter (.task (.createSnapshot { volumeId := "u", name := "s", copyOnWrite := true }))] ++ moves 2 13 {} ++
    [.enter (.expandRawFile "u" 4)] ++ moves 3 13 { amount := 16 } ++
    [.enter (.task (.createVolume
      { volumeId := "v", size := requested, storagePool := "default", thinProvision := true,
        sourceType := some .snapshot, sourceId := some "u/s" }))] ++ moves 4 25 {} ++
    [.enter (.expandRawFile "v" newSize)] ++ moves 5 5 { amount := 16 }

/-- The source is not larger than requested, so the expansion grows the image. -/
theorem ready_image_never_shrinks_restored : ∃ before after : NodeConfig,
    (nodePlugin singlePool).Steps (fun now event => sizedRun "v" now event = true) before after ∧
    before.state.imageSize image = some 4 ∧ Unshrunk "v" before.state after.state := by
  obtain ⟨before, after, reached, tested, step⟩ := @Machine.last_step _ _ _ _ _ _ _ (nodePlugin singlePool)
    (sizedRun "v") (fun now _ => decide (now.state.imageSize image = some 4)) (restoredAndExpanding 4 6) (.step 5 {})
    NodeConfig.initial (by decide +kernel)
  exact ⟨before, after, step, of_decide_eq_true tested, ready_image_never_shrinks singlePool "v" reached step⟩

/-- The request is as large as the snapshot, but not as large as its source has
become. Nothing fails, nothing runs at the same time, and still the expansion
cuts the ready image from four bytes to two. -/
theorem ready_image_shrinks : let succeeding := fun (now : NodeConfig) (event : NodeEvent) =>
      match event with
      | .enter call => !call.deletes && now.only fun _ => false
      | .step _ answer => !answer.fails
      | _ => false
    let observed := fun now : NodeConfig =>
      ((now.state.files.metadata "v").map Meta.isReady, now.state.imageSize image)
    ((nodePlugin singlePool).runIf succeeding (restoredAndExpanding 1 2) NodeConfig.initial).map observed =
      some (some true, some 4) ∧
    ((nodePlugin singlePool).runIf succeeding (restoredAndExpanding 1 2 ++ [.step 5 {}]) NodeConfig.initial).map observed =
      some (some true, some 2) := by
  decide +kernel

end Sizes
end Rawfile
