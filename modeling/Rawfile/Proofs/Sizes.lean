import Rawfile.Proofs.Ownership

/-! A ready image does not shrink. `ExpandRawFile` sets a thin image to a size
larger than the recorded one, so what matters is that the image of a ready thin
volume is not longer than its metadata say whenever an expansion begins. -/

namespace Rawfile
open Effects

def Node.imageSize (node : Node) (img : ImgFile) : Option Nat := (node.files.image img.path).map Image.size

variable (volume : VolumeId)

def Node.outgrown (node : Node) : Bool :=
  match node.files.metadata volume with
  | some data =>
    data.isReady && data.isThin && data.imgFile.any fun pool =>
      data.size.any fun recorded => (node.imageSize ⟨pool, volume⟩).any fun size => recorded < size
  | none => false

def Unshrunk (before after : Node) : Prop :=
  ∀ data pool size, before.files.metadata volume = some data → data.isReady = true → data.imgFile = some pool →
    before.imageSize ⟨pool, volume⟩ = some size → ∃ later, after.imageSize ⟨pool, volume⟩ = some later ∧ size ≤ later

structure SameSizes (volume : VolumeId) (before after : Node) : Prop where
  metadata : after.files.metadata volume = before.files.metadata volume
  sizes : ∀ pool, after.imageSize ⟨pool, volume⟩ = before.imageSize ⟨pool, volume⟩

def Pooled (config : DriverConfig) (node : Node) : Prop :=
  ∀ data pool, node.files.metadata volume = some data → data.storagePool = some pool → pool ∈ config.storagePools

def Call.sizes : Call → Bool
  | .expandRawFile target _ => target = volume
  | call => call.created.any fun args => args.volumeId = volume

/-- Creating a volume finds a source not larger than requested: in the metadata
it reads, and in the image it allocates blocks for. -/
def Op.fitsRequest (args : CreateVolumeArgs) (operation : Op) (node : Node) : Bool :=
  match operation with
  | .file (.readMeta source) =>
    source = args.volumeId || ((node.files.metadata source).bind Meta.size).all fun recorded => recorded ≤ args.size
  | .file (.fallocate path _) => (node.files.image path).all fun image => image.size ≤ args.size
  | _ => true

/-- The steps of a run meet two conditions for the volume: no access fails while
its image is longer than recorded, and a thin one is created from sources that
are not larger than requested. -/
def sizedStep (call : Call) (_thread : Nat) (operation : Op) (answer : Answer) (node : Node) : Bool :=
  !(call.sizes volume && node.outgrown volume && answer.fails) &&
    call.created.all fun args => args.volumeId ≠ volume || !args.thinProvision || operation.fitsRequest args node

section
variable {volume : VolumeId} {config : DriverConfig} {before after third node : Node}

theorem SameSizes.trans (first : SameSizes volume before after) (second : SameSizes volume after third) :
    SameSizes volume before third :=
  ⟨second.metadata.trans first.metadata, fun pool => (second.sizes pool).trans (first.sizes pool)⟩

theorem SameSizes.of_files (same : after.files = before.files) : SameSizes volume before after :=
  ⟨by rw [same], fun pool => by simp only [Node.imageSize, same]⟩

theorem Node.imageSize_congr {img : ImgFile} (same : after.files.lookup img.path = before.files.lookup img.path) :
    after.imageSize img = before.imageSize img := by
  unfold Node.imageSize
  rw [Files.image_congr same]

theorem SameSizes.outgrown (same : SameSizes volume before after) : after.outgrown volume = before.outgrown volume := by
  simp only [Node.outgrown, same.metadata, same.sizes]

theorem SameSizes.settled (same : SameSizes volume before after) (settled : before.outgrown volume = false) :
    after.outgrown volume = false := same.outgrown.trans settled

theorem SameSizes.found {data : Meta} (same : SameSizes volume before after)
    (found : before.files.metadata volume = some data) : after.files.metadata volume = some data :=
  same.metadata.trans found

theorem Pooled.congr (same : after.files.metadata volume = before.files.metadata volume)
    (pooled : Pooled volume config before) : Pooled volume config after := by
  unfold Pooled
  rw [same]
  exact pooled

theorem Unshrunk.of_sizes (same : ∀ pool, after.imageSize ⟨pool, volume⟩ = before.imageSize ⟨pool, volume⟩) :
    Unshrunk volume before after := by
  intro data pool size found ready named measured
  exact ⟨size, (same pool).trans measured, Nat.le_refl size⟩

theorem Drift.apply_sizes (change : Drift) (node : Node) : SameSizes volume node (change.apply node) := by
  have metadata : (change.apply node).files.lookup (.metaFile volume) = node.files.lookup (.metaFile volume) :=
    change.apply_lookup node fun img => by simp [ImgFile.path]
  refine ⟨Files.metadata_congr metadata, fun pool => ?_⟩
  cases change with
  | detach device => rfl
  | write img data physical =>
    simp only [Drift.apply]
    split
    next image found =>
      split
      next length =>
        cases written : node.files.write img.path (.bytes ⟨data, physical⟩) with
        | error error => rfl
        | ok files =>
          by_cases same : (⟨pool, volume⟩ : ImgFile) = img
          · subst same
            simp only [Node.imageSize, Files.change, Files.write_image written, found, Option.map_some]
            exact congrArg some length
          · refine Node.imageSize_congr (Files.write_lookup_ne written fun path => same ?_)
            cases img
            simpa [ImgFile.path] using path
      next => rfl
    next => rfl

structure Standing (volume : VolumeId) (pool : PoolName) (data : Meta) (size : Option Nat) (node : Node) : Prop where
  metadata : node.files.metadata volume = some data
  sized : node.imageSize ⟨pool, volume⟩ = size

theorem Standing.same {pool : PoolName} {data : Meta} {size : Option Nat} (same : SameSizes volume before after)
    (standing : Standing volume pool data size before) : Standing volume pool data size after :=
  ⟨same.metadata.trans standing.metadata, (same.sizes pool).trans standing.sized⟩

theorem Standing.settled {pool : PoolName} {data : Meta} {size : Option Nat}
    (standing : Standing volume pool data size node)
    (fits : data.isReady = true → data.isThin = true → data.imgFile = some pool ∧
      ∀ recorded length, data.size = some recorded → size = some length → length ≤ recorded) :
    node.outgrown volume = false := by
  by_contra outgrown
  simp only [Node.outgrown, standing.metadata, Bool.not_eq_false, Bool.and_eq_true, Option.any_eq_true,
    decide_eq_true_eq] at outgrown
  obtain ⟨⟨ready, thin⟩, other, named, recorded, sized, length, measured, beyond⟩ := outgrown
  obtain ⟨known, bound⟩ := fits ready thin
  cases named.symm.trans known
  have within := bound recorded length sized (standing.sized.symm.trans measured)
  omega

structure Fitting (volume : VolumeId) (pool : PoolName) (data : Meta) (size : Option Nat) (node : Node) : Prop
    extends Standing volume pool data size node where
  settled : node.outgrown volume = false

theorem Fitting.same {pool : PoolName} {data : Meta} {size : Option Nat} (same : SameSizes volume before after)
    (fitting : Fitting volume pool data size before) : Fitting volume pool data size after :=
  ⟨fitting.toStanding.same same, same.outgrown.trans fitting.settled⟩

theorem Node.fits_recorded (settled : node.outgrown volume = false) {data : Meta} {pool : PoolName}
    {recorded size : Nat} (found : node.files.metadata volume = some data) (ready : data.isReady = true)
    (thin : data.isThin = true) (named : data.imgFile = some pool) (sized : data.size = some recorded)
    (measured : node.imageSize ⟨pool, volume⟩ = some size) : size ≤ recorded := by
  simpa [Node.outgrown, found, ready, thin, named, sized, measured] using settled

private theorem Unshrunk.of_unready {data : Meta} (found : before.files.metadata volume = some data)
    (unready : data.isReady = false) : Unshrunk volume before after := by
  intro other pool size same ready
  cases found.symm.trans same
  rw [unready] at ready
  cases ready

theorem Node.outgrown_of_unready {data : Meta} (found : node.files.metadata volume = some data)
    (unready : data.isReady = false) : node.outgrown volume = false := by
  simp [Node.outgrown, found, unready]

end

section
variable {volume : VolumeId} {img : ImgFile} {length thread : Nat} {answer : Answer} {before after : Node}
  {reply : Except Err Unit}

theorem truncate_sizes (executed : (Op.file (.truncate img.path length)).exec thread answer before = (reply, after)) :
    reply = .ok () ∧ after.imageSize img = some length ∨
      SameSizes volume before after ∧ ∃ error, reply = .error error := by
  rcases truncate_exec (Op.exec_file executed) with ⟨done, cut⟩ | ⟨unchanged, failed⟩
  · exact .inl ⟨done, by simp [Node.imageSize, cut]⟩
  · exact .inr ⟨.of_files unchanged, failed⟩

theorem fallocate_sizes (executed : (Op.file (.fallocate img.path length)).exec thread answer before = (reply, after)) :
    (∃ reached, (reply = .ok () → reached = length) ∧
      after.imageSize img = some (max ((before.imageSize img).getD 0) reached)) ∨
      SameSizes volume before after ∧ ∃ error, reply = .error error := by
  rcases fallocate_exec (Op.exec_file executed) with ⟨reached, -, complete, grown⟩ | ⟨unchanged, failed⟩
  · refine .inl ⟨reached, complete, ?_⟩
    cases image : before.files.image img.path <;> simp [Node.imageSize, grown, image]
  · exact .inr ⟨.of_files unchanged, failed⟩

end

/-- Only the calls that size the volume change its metadata or the size of its
image. They are under way one at a time, and leave an image that fits. -/
def sizing (config : DriverConfig) : Owned where
  owns := Call.sizes volume
  same := SameSizes volume
  promise _ := Unshrunk volume
  condition := sizedStep volume
  valid := Pooled volume config
  quiet node := node.outgrown volume = false
  same_files := .of_files
  same_trans := .trans
  promised same := .of_sizes same.sizes
  valid_same same pooled := pooled.congr same.metadata
  quiet_same := SameSizes.settled

abbrev sizeRules (config : DriverConfig) := (sizing volume config).discipline config

theorem Op.foreign.spared {volume : VolumeId} {config : DriverConfig} {operation : Op}
    (foreign : operation.foreign volume) : (sizing volume config).spares operation :=
  fun _ _ _ _ _ executed =>
    ⟨Files.metadata_congr (Op.exec_frame executed foreign.1),
      fun pool => Node.imageSize_congr (Op.exec_frame executed (foreign.2 pool))⟩

section
variable {operation : Op} {volume : VolumeId}

theorem Call.footprint_foreign {call : Call} (issued : call.footprint operation) (keeps : call.deletes = false)
    (others : call.sizes volume = false) : operation.foreign volume := by
  have apart : ∀ {path : Path}, operation.touches path → path.carries → ¬ path.ofVolume volume := by
    intro path touched carries own
    have written := writes_of_touches touched carries issued
    have tasks : ∀ task : TaskCall, (Call.task task).sizes volume = false → ¬ task.writes path := by
      intro task others written
      cases task <;> cases path <;> cases own <;>
        simp_all [TaskCall.writes, Path.ofVolume, Path.ofSnapshot, Call.sizes, Call.created]
    cases call with
    | deleteVolume | deleteSnapshot => cases keeps
    | expandRawFile target newSize => cases path <;> cases own <;> simp_all [Call.writes, Path.ofVolume, Call.sizes]
    | task task => exact tasks task others written
    | future index task => exact tasks task (by cases task <;> exact others) written
    | _ => exact written
  exact ⟨fun touched => apart touched trivial rfl, fun _ touched => apart touched trivial rfl⟩

end

namespace Sizes
variable {volume : VolumeId} {config : DriverConfig} {call : Call} {thread : Nat} {operation : Op} {state now : Node}

section
variable (owned : call.sizes volume = true)
include owned

theorem succeeds {answer : Answer} (permitted : sizedStep volume call thread operation answer now = true)
    (fails : answer.fails = true) : now.outgrown volume = false := by
  simp only [sizedStep, owned, fails, Bool.true_and, Bool.and_true, Bool.and_eq_true, Bool.not_eq_true'] at permitted
  exact permitted.1

theorem settled_keeps {α : Type} {program : Driver α} {allowed : Op → Prop} (within : program.Within Op.lawful allowed)
    (foreign : ∀ operation, allowed operation → operation.foreign volume) (settled : state.outgrown volume = false) :
    (sizeRules volume config).Safe call thread (fun _ state => state.outgrown volume = false)
      program state :=
  Owned.keeps owned (fun _ _ => SameSizes.settled) within
    (fun operation issued => (foreign operation issued).spared) settled

theorem found_keeps {α : Type} {program : Driver α} {allowed : Op → Prop} {data : Meta}
    (within : program.Within Op.lawful allowed) (foreign : ∀ operation, allowed operation → operation.foreign volume)
    (found : state.files.metadata volume = some data) :
    (sizeRules volume config).Safe call thread
      (fun _ state => state.files.metadata volume = some data) program state :=
  Owned.keeps owned (fun _ _ => SameSizes.found) within
    (fun operation issued => (foreign operation issued).spared) found

omit owned in
theorem lock_spared (lock : LockOp) : (sizing volume config).spares (.lock lock) := by
  apply Op.foreign.spared
  cases lock <;> simp [Op.foreign, Op.touches]

theorem install_step {old patch : Meta}
    (known : ∀ pool, (old.merge patch).storagePool = some pool → pool ∈ config.storagePools)
    (valid : Pooled volume config now) :
    (sizeRules volume config).Step call thread (.file (.installMeta volume old patch)) (fun reply after =>
      (reply = .ok () ∧ after.files.metadata volume = some (old.merge patch) ∧
        ∀ pool, after.imageSize ⟨pool, volume⟩ = now.imageSize ⟨pool, volume⟩) ∨
      ((∃ error, reply = .error error) ∧ SameSizes volume now after ∧
        (now.files.metadata volume ≠ none → now.outgrown volume = false))) now := by
  apply Owned.owner_step owned
  intro answer reply after permitted executed
  have images : ∀ pool, after.imageSize ⟨pool, volume⟩ = now.imageSize ⟨pool, volume⟩ := fun pool =>
    Node.imageSize_congr (Op.exec_frame executed (by simp [Op.touches, FileOp.touches, ImgFile.path]))
  refine ⟨.of_sizes images, ?_⟩
  rcases installMeta_cases (Op.exec_file executed) with ⟨done, installed⟩ | ⟨unchanged, failed, cause⟩
  · refine ⟨?_, .inl ⟨done, installed, images⟩⟩
    intro data pool found named
    cases installed.symm.trans found
    exact known pool named
  · have same : SameSizes volume now after := .of_files unchanged
    refine ⟨Pooled.congr same.metadata valid, .inr ⟨failed, same, fun present => ?_⟩⟩
    rcases cause with fails | missing
    · exact @succeeds _ _ thread _ _ owned _ permitted fails
    · exact absurd missing present

theorem patchMetadata_safe {pool target : PoolName} {data patch : Meta} {size : Option Nat}
    (configured : target ∈ config.storagePools)
    (patched : ∀ other, patch.storagePool = some other → other ∈ config.storagePools)
    (standing : Standing volume pool data size state) :
    (sizeRules volume config).Safe call thread (fun outcome state =>
      (outcome = .ok () ∧ Standing volume pool (data.merge patch) size state) ∨
      ((∃ error, outcome = .error error) ∧ Standing volume pool data size state ∧ state.outgrown volume = false))
      (patchMetadata config volume target patch) state := by
  refine .bind ((Owned.metadataOr_reads owned (fun _ _ => .same) (fun _ standing => standing.metadata)
    standing).weaken ?_)
  intro outcome state read
  obtain ⟨standing, pooled, rfl | ⟨error, answer, rfl, fails, permitted⟩⟩ := read
  · refine getVolumePath_safe (fun _ => .perform fun now relied valid => ?_) fun missing => absurd configured missing
    have still := standing.same (relied owned)
    have known : ∀ other, (data.merge patch).storagePool = some other → other ∈ config.storagePools := by
      intro other named
      cases chosen : patch.storagePool with
      | some value => exact patched other (by simpa [Meta.merge, chosen] using named)
      | none => exact pooled data other standing.metadata (by simpa [Meta.merge, chosen] using named)
    intro answer reply after permitted answered
    obtain ⟨kept, still', reached⟩ := install_step owned known valid answer reply after permitted answered
    refine ⟨kept, still', ?_⟩
    rcases reached with ⟨rfl, installed, images⟩ | ⟨failed, same, settles⟩
    · exact .inl ⟨rfl, installed, (images pool).trans still.sized⟩
    · have settled := settles (by simp [still.metadata])
      exact .inr ⟨failed, still.same same, same.outgrown.trans settled⟩
  · exact .inr ⟨⟨error, rfl⟩, standing, @succeeds _ _ thread _ _ owned _ permitted fails⟩

theorem openingPatch_safe {args : CreateVolumeArgs} (configured : args.storagePool ∈ config.storagePools)
    (settled : state.outgrown volume = false) :
    (sizeRules volume config).Safe call thread (fun outcome state => state.outgrown volume = false ∧
      ∀ value, outcome = .ok value → ∃ data, state.files.metadata volume = some data ∧ data.isReady = false)
      (patchMetadata config volume args.storagePool (VolumeManager.openingPatch args)) state := by
  refine .bind ((settled_keeps owned (metadataOr_within (fun _ reads => reads) volume) (fun _ reads => reads.foreign)
    settled).weaken ?_)
  intro outcome state settled
  cases outcome with
  | error error => exact ⟨settled, fun value returned => by cases returned⟩
  | ok old =>
    refine getVolumePath_safe (fun _ => .perform fun now relied valid => ?_) fun missing => absurd configured missing
    have known : ∀ pool, (old.merge (VolumeManager.openingPatch args)).storagePool = some pool →
        pool ∈ config.storagePools := by
      intro pool named
      cases named
      exact configured
    intro answer reply after permitted answered
    obtain ⟨kept, still, reached⟩ := install_step owned known valid answer reply after permitted answered
    refine ⟨kept, still, ?_⟩
    rcases reached with ⟨rfl, installed, -⟩ | ⟨⟨error, rfl⟩, unchanged, -⟩
    · exact ⟨Node.outgrown_of_unready installed rfl, fun _ _ => ⟨_, installed, rfl⟩⟩
    · have settled := (unchanged.outgrown.trans (relied owned).outgrown).trans settled
      exact ⟨settled, fun value returned => by cases returned⟩

theorem image_step {pool : PoolName} {data : Meta} {post : Except Err operation.Reply → Node → Prop}
    (found : now.files.metadata volume = some data) (unready : data.isReady = false)
    (issued : ImageOp (ImgFile.path ⟨pool, volume⟩) operation) (valid : Pooled volume config now)
    (reaches : ∀ answer reply after, sizedStep volume call thread operation answer now = true →
      operation.exec thread answer now = (reply, after) → after.files.metadata volume = some data → post reply after) :
    (sizeRules volume config).Step call thread operation post now := by
  apply Owned.owner_step owned
  intro answer reply after permitted executed
  have same : after.files.metadata volume = now.files.metadata volume :=
    Files.metadata_congr (Op.exec_frame executed (@ImageOp.leaves_metadata _ _ ⟨pool, volume⟩ issued))
  exact ⟨.of_unready found unready, valid.congr same,
    reaches answer reply after permitted executed (same.trans found)⟩

theorem image_safe {α : Type} {program : Driver α} {pool : PoolName} {data : Meta} (unready : data.isReady = false)
    (within : program.Within Op.lawful (ImageOp (ImgFile.path ⟨pool, volume⟩)))
    (found : state.files.metadata volume = some data) :
    (sizeRules volume config).Safe call thread (fun _ state => state.files.metadata volume = some data)
      program state := by
  refine .ofWithin (fun node => node.files.metadata volume = some data) within nodePlugin_lawful ?_
    (fun _ _ found => found) found
  intro operation issued state found now relied valid
  apply image_step owned ((relied owned).metadata.trans found) unready issued valid
  intro answer reply after permitted executed found
  exact found

end

end Sizes
end Rawfile
