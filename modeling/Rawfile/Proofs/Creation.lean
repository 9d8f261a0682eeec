import Rawfile.Proofs.Copying

/-! What a `create_volume` that returned has done. It found an image that is
large enough and did nothing, or it built one as large as the request and the
source want it, and patched the metadata before it knew the source. -/

namespace Rawfile
open Effects World

def Op.readies (volume : VolumeId) : Op → Bool
  | .file (.installMeta target _ patch) => target = volume && patch.ready = some true
  | _ => false

/-- The operation sizes the image: thin by `truncate`, thick by `fallocate`. -/
def Op.provisions (img : Path) : Op → Option Bool
  | .file (.truncate path _) => if path = img then some true else none
  | .file (.fallocate path _) => if path = img then some false else none
  | _ => none

abbrev Record := List (Op × Bool)

namespace Record

def readied (volume : VolumeId) (record : Record) : Bool := record.any fun entry => entry.2 && entry.1.readies volume

def provisioned (img : Path) (record : Record) : Option Bool :=
  (record.filterMap fun entry => if entry.2 then entry.1.provisions img else none).getLast?

variable {volume : VolumeId} {img : Path} {record : Record} {operation : Op} {success : Bool}

theorem readied_append : readied volume (record ++ [(operation, success)]) =
    (readied volume record || (success && operation.readies volume)) := by
  simp [readied]

private theorem provisioned_silent (silent : operation.provisions img = none) :
    provisioned img (record ++ [(operation, success)]) = provisioned img record := by
  simp [provisioned, silent]

private theorem provisioned_sized {thin : Bool} (sized : operation.provisions img = some thin) :
    provisioned img (record ++ [(operation, true)]) = some thin := by
  simp [provisioned, sized]

end Record

namespace CreateVolumeArgs

def img (args : CreateVolumeArgs) : Path := .imgFile args.storagePool args.volumeId

def Built (args : CreateVolumeArgs) (files : Files) : Prop :=
  ∃ image, Files.image files args.img = some image ∧ args.size ≤ image.size

def Sized (args : CreateVolumeArgs) (files : Files) (thin : Bool) (size : Nat) : Prop :=
  match args.restoreSource with
  | none => thin = args.thinProvision ∧ size = args.size
  | some source => ∃ original, args.original source files = some original ∧ thin = original.thin ∧
    size = if thin then max args.size original.size else max original.image.size (max args.size original.size)

end CreateVolumeArgs

section Silence
variable {volume : VolumeId} {args : CreateVolumeArgs} {operation : Op} {img : Path}

theorem Op.reads.silent (reads : operation.reads) : operation.readies volume = false := by
  cases operation with
  | file operation => cases operation <;> first | rfl | cases reads
  | _ => rfl

theorem SourceOp.silent (issued : SourceOp args operation) : operation.readies volume = false := by
  cases issued with
  | looking reads => exact reads.silent
  | cut id clone issued =>
    cases issued
    case looking reads => exact reads.silent
    all_goals rfl
  | drop id clone issued =>
    cases issued
    case looking reads => exact reads.silent
    all_goals rfl

theorem ImageOp.silent (issued : ImageOp img operation) : operation.readies volume = false := by
  cases issued with
  | looking reads => exact reads.silent
  | @probe operation makes only =>
    cases operation with
    | installMeta target old patch => cases only (.metaFile target) rfl
    | _ => rfl
  | _ => rfl

structure Op.aside (args : CreateVolumeArgs) (operation : Op) : Prop where
  avoids : operation.avoids Path.holdsVolume
  silent : operation.readies args.volumeId = false
  still : operation.provisions args.img = none

theorem Op.reads.aside (reads : operation.reads) : operation.aside args := by
  refine ⟨reads.avoids, reads.silent, ?_⟩
  cases operation with
  | file operation => cases operation <;> first | rfl | cases reads
  | _ => rfl

theorem SourceOp.aside (issued : SourceOp args operation) : operation.aside args := by
  refine ⟨issued.avoidsVolumes, issued.silent, ?_⟩
  cases operation with
  | file operation =>
    have foreign : Op.foreign args.volumeId (.file operation) := issued.foreign
    cases operation <;> try rfl
    next path length => exact if_neg fun same => foreign.2 args.storagePool same.symm
    next path length => exact if_neg fun same => foreign.2 args.storagePool same.symm
  | _ => rfl

end Silence

def Path.besides (args : CreateVolumeArgs) (path : Path) : Prop := path.carries ∧ path ≠ .metaFile args.volumeId

private theorem RestoreSource.supplied_congr {args : CreateVolumeArgs} {before now : Clocked} {source : RestoreSource} {data : Meta} {pool : PoolName}
    (kept : Loose.Kept (Path.besides args) before now) :
    source.supplied data pool now.node.files = source.supplied data pool before.node.files := by
  have same : ∀ path : Path, path.carries → path ≠ .metaFile args.volumeId →
      now.node.files.lookup path = before.node.files.lookup path := fun path carries other => kept path ⟨carries, other⟩
  have image : ∀ home, Files.image now.node.files (.imgFile home source.volume) =
      Files.image before.node.files (.imgFile home source.volume) := fun _ => Files.image_congr (same _ trivial nofun)
  have snapshot := same (source.path pool) trivial nofun
  have creating := same (.creating pool source.volume source.temporary source.name) trivial nofun
  simp only [supplied, Files.present, snapshot, creating, image, Files.image_congr snapshot]
  rfl

namespace Creating

structure Finished (args : CreateVolumeArgs) (before : Clocked) (now : Clocked × Record) : Prop where
  unbuilt : ¬ args.Built before.node.files
  described : ∃ data, Files.metadata now.1.node.files args.volumeId = some data ∧ data.ready = some true ∧
    data.size = some args.size ∧ data.thinProvision = some args.thinProvision
  built : ∃ image thin, Files.image now.1.node.files args.img = some image ∧
    now.2.provisioned args.img = some thin ∧ args.Sized before.node.files thin image.size

/-- What is known all along a call: a volume it made ready is finished. -/
def Sound (args : CreateVolumeArgs) (before : Clocked) (now : Clocked × Record) : Prop :=
  now.2.readied args.volumeId = true → Finished args before now

def Fresh (args : CreateVolumeArgs) (now : Clocked × Record) : Prop := now.2.readied args.volumeId = false

structure Unmoved (args : CreateVolumeArgs) (first second : Clocked × Record) : Prop where
  readied : second.2.readied args.volumeId = first.2.readied args.volumeId
  provisioned : second.2.provisioned args.img = first.2.provisioned args.img
  files : Loose.Kept Path.holdsVolume first.1 second.1

/-- The call made the volume ready, or found its image in place. -/
def Settled (args : CreateVolumeArgs) (before : Clocked) (now : Clocked × Record) : Prop :=
  now.2.readied args.volumeId = true ∨ args.Built before.node.files ∧
    ∃ data, Files.metadata now.1.node.files args.volumeId = some data ∧ data.ready = some false

section
variable {args : CreateVolumeArgs} {before : Clocked} {now after : Clocked × Record}

theorem Unmoved.sound (unmoved : Unmoved args now after) (sound : Sound args before now) : Sound args before after := by
  intro ready
  have finished := sound (unmoved.readied.symm.trans ready)
  refine ⟨finished.unbuilt, ?_, ?_⟩
  · rw [Files.metadata_congr (unmoved.files (.metaFile args.volumeId) trivial)]
    exact finished.described
  · rw [Files.image_congr (unmoved.files args.img trivial), unmoved.provisioned]
    exact finished.built

theorem Unmoved.settled (unmoved : Unmoved args now after)
    (settled : Settled args before now) : Settled args before after := by
  rcases settled with ready | ⟨built, data, found, unready⟩
  · exact .inl (unmoved.readied.trans ready)
  · refine .inr ⟨built, data, ?_, unready⟩
    rw [Files.metadata_congr (unmoved.files (.metaFile args.volumeId) trivial)]
    exact found

end

section
variable {α : Type} {config : DriverConfig} {args : CreateVolumeArgs} {before : Clocked} {now : Clocked × Record}

section
variable {program : Driver α}

theorem part {post : α → Clocked → Prop}
    (within : program.Within Op.lawful fun operation => operation.readies args.volumeId = false)
    (ok : Loose.Ok post program now.1) (fresh : Fresh args now) :
    loose.recorded.Gives (Sound args before) (fun value after => Fresh args after ∧ post value after.1) program now := by
  have quiet : loose.recorded.Surely (Fresh args) (fun _ state => Fresh args state) program now := by
    refine .ofWithin _ within (fun operation answer state => Op.exec_lawful operation 0 answer state.1.node)
      (fun operation answer state silent _ fresh => ?_) fresh
    show Record.readied args.volumeId (_ ++ [_]) = false
    rw [Record.readied_append, fresh, silent, Bool.and_false, Bool.or_false]
  refine (quiet.both (ok.recorded now.2)).weaken (fun state fresh ready => ?_) fun _ state _ known value same => ?_
  · cases fresh.symm.trans ready
  · exact ⟨known.1, known.2 value same⟩

theorem unmoved (within : program.Within Op.lawful (Op.aside args)) :
    loose.recorded.Surely (Unmoved args now) (fun _ after => Unmoved args now after) program now := by
  refine .ofWithin _ within (fun operation answer state => Op.exec_lawful operation 0 answer state.1.node)
    (fun operation answer state beside _ known => ⟨?_, ?_, fun path inside => ?_⟩) ⟨rfl, rfl, fun _ _ => rfl⟩
  · refine Eq.trans Record.readied_append ?_
    rw [beside.silent, Bool.and_false, Bool.or_false]
    exact known.readied
  · exact (Record.provisioned_silent beside.still).trans known.provisioned
  · exact (operation.exec_lookup 0 answer state.1.node (beside.avoids path inside)).trans (known.files path inside)

theorem look {post : α → Clocked → Prop} (within : program.Within Op.lawful Op.reads)
    (ok : Loose.Ok post program now.1) (fresh : Fresh args now) :
    loose.recorded.Gives (Sound args before) (fun value after => Unmoved args now after ∧ post value after.1) program
      now := by
  have still : loose.recorded.Surely (Unmoved args now) (fun _ after => Unmoved args now after) program now :=
    unmoved (within.mono fun _ reads => reads.aside)
  refine (still.both (ok.recorded now.2)).weaken (fun state unmoved ready => ?_) fun _ _ _ known value same => ?_
  · cases fresh.symm.trans (unmoved.readied.symm.trans ready)
  · exact ⟨known.1, known.2 value same⟩

theorem aside (within : program.Within Op.lawful (Op.aside args)) (sound : Sound args before now) :
    loose.recorded.Surely (Sound args before) (fun _ after => Settled args before now → Settled args before after)
      program now :=
  (unmoved within).weaken (fun _ unmoved => unmoved.sound sound) fun _ _ _ unmoved => unmoved.settled

end

end

structure Prepared (args : CreateVolumeArgs) (before now : Clocked) : Prop where
  opened : ∃ data, Files.metadata now.node.files args.volumeId = some data ∧ data.ready = some false
  volumes : Loose.Kept (fun path => path.holdsVolume ∧ path ≠ .metaFile args.volumeId) before now
  supplied : ∀ source, args.restoreSource = some source → ∀ data pool,
    args.sourceMeta source before.node.files = some data → data.storagePool = some pool →
    Files.image now.node.files (source.path pool) = source.supplied data pool before.node.files

section
variable {args : CreateVolumeArgs} {before now after : Clocked}

theorem Prepared.later (prepared : Prepared args before now) (kept : Loose.Kept Path.carries now after) :
    Prepared args before after := by
  refine ⟨?_, prepared.volumes.trans (kept.mono ?_), fun source named data pool known chosen => ?_⟩
  · rw [Files.metadata_congr (kept _ trivial)]
    exact prepared.opened
  · rintro path ⟨holds, -⟩
    cases path <;> trivial
  · rw [Files.image_congr (kept (source.path pool) trivial)]
    exact prepared.supplied source named data pool known chosen

end

section
variable {config : DriverConfig} {args : CreateVolumeArgs} {before now : Clocked}

theorem prepared {opened : Clocked} {source : Option RestoreSource}
    (ready : ∃ data, Files.metadata opened.node.files args.volumeId = some data ∧ data.ready = some false ∧
      data.storagePool = some args.storagePool) (kept : Loose.Kept (Path.besides args) before opened)
    (found : (source = args.restoreSource ∧ ∀ found, source = some found → Loose.Found found opened now) ∧
      Loose.Kept Path.holdsVolume opened now) : Prepared args before now := by
  obtain ⟨data, wrote, unready, pooled⟩ := ready
  obtain ⟨⟨rfl, finding⟩, still⟩ := found
  refine ⟨⟨data, ?_, unready⟩, ?_, fun source named recorded pool known chosen => ?_⟩
  · rw [Files.metadata_congr (still _ trivial)]
    exact wrote
  · refine Loose.Kept.trans (kept.mono fun path inside => ⟨?_, inside.2⟩) (still.mono fun path inside => inside.1)
    obtain ⟨holds, -⟩ := inside
    cases path <;> trivial
  · have place := finding source named
    unfold CreateVolumeArgs.sourceMeta at known
    split at known
    next own =>
      cases known
      cases chosen
      have lasting : source.temporary = false := by
        by_contra temporary
        have isReady := place.ready (by simpa using temporary)
        simp [own, wrote, Meta.isReady, unready] at isReady
      rw [place.supplied data args.storagePool (by rw [own]; exact wrote) pooled]
      simp only [RestoreSource.supplied, lasting, Bool.false_and, Bool.false_eq_true, if_false]
      exact Files.image_congr (kept (source.path args.storagePool) ⟨trivial, by rintro ⟨⟩⟩)
    next other =>
      rw [place.supplied recorded pool ?_ chosen]
      · exact RestoreSource.supplied_congr kept
      · rw [Files.metadata_congr (kept _ ⟨trivial, by simpa using other⟩)]
        exact known

end

structure Underway (args : CreateVolumeArgs) (before now : Clocked) : Prop where
  described : ∃ data, Files.metadata now.node.files args.volumeId = some data ∧
    data.size = some args.size ∧ data.thinProvision = some args.thinProvision ∧ data.storagePool = some args.storagePool
  others : ∀ volume, volume ≠ args.volumeId →
    Files.metadata now.node.files volume = Files.metadata before.node.files volume
  supplied : ∀ source, args.restoreSource = some source → ∀ data pool,
    args.sourceMeta source before.node.files = some data → data.storagePool = some pool →
    Files.image now.node.files (source.path pool) = source.supplied data pool before.node.files
  small : ((Files.image now.node.files args.img).getD .empty).size ≤ args.size

section
variable {config : DriverConfig} {args : CreateVolumeArgs} {before now described touched : Clocked}

theorem underway {createdAt : Nat} {img : ImgFile} (prepared : Prepared args before now)
    (unbuilt : ¬ args.Built before.node.files)
    (patched : Files.metadata described.node.files args.volumeId =
      some (((Files.metadata now.node.files args.volumeId).getD {}).merge
        (VolumeManager.describingPatch args img createdAt)))
    (kept : Loose.Kept (fun path => path ≠ .metaFile args.volumeId) now described)
    (touch : ∃ answer, (FileOp.touch args.img).exec answer described.node.files = (.ok (), touched.node.files))
    (still : Loose.Kept (fun path => path ≠ args.img) described touched) : Underway args before touched := by
  refine ⟨⟨_, (Files.metadata_congr (still _ nofun)).trans patched, rfl, rfl, rfl⟩, fun volume other => ?_,
    fun source named data pool known chosen => ?_, ?_⟩
  · rw [Files.metadata_congr (still _ nofun), Files.metadata_congr (kept _ (by simpa using other))]
    exact Files.metadata_congr (prepared.volumes _ ⟨trivial, by simpa using other⟩)
  · rw [Files.image_congr (still (source.path pool) nofun), Files.image_congr (kept (source.path pool) nofun)]
    exact prepared.supplied source named data pool known chosen
  · obtain ⟨answer, ran⟩ := touch
    rcases touch_exec ran with ⟨same, -⟩ | ⟨-, -, fresh⟩
    · rw [same, Files.image_congr (kept args.img nofun), Files.image_congr (prepared.volumes args.img ⟨trivial, nofun⟩)]
      cases found : Files.image before.node.files args.img with
      | none => exact Nat.zero_le _
      | some image => exact Nat.le_of_not_le fun large => unbuilt ⟨image, found, large⟩
    · have empty : Files.image touched.node.files args.img = some .empty := by simp [Files.image, fresh]
      rw [empty]
      exact Nat.zero_le _

theorem original {source : RestoreSource} {data : Meta} {size : Nat} {pool : PoolName} {image : Image}
    (underway : Underway args before now) (named : args.restoreSource = some source)
    (found : Files.metadata now.node.files source.volume = some data) (sized : data.size = some size)
    (pooled : data.storagePool = some pool) (imaged : Files.image now.node.files (source.path pool) = some image) :
    args.original source before.node.files = some ⟨size, data.isThin, image⟩ := by
  by_cases own : source.volume = args.volumeId
  · obtain ⟨described, seen, itsSize, itsThin, itsPool⟩ := underway.described
    rw [own, seen] at found
    cases found
    cases itsSize.symm.trans sized
    cases itsPool.symm.trans pooled
    have recorded : args.sourceMeta source before.node.files = _ := if_pos own
    have supplied := underway.supplied source named _ _ recorded rfl
    rw [imaged] at supplied
    simp [CreateVolumeArgs.original, recorded, ← supplied, Meta.isThin, itsThin]
  · have recorded : args.sourceMeta source before.node.files = some data := by
      rw [CreateVolumeArgs.sourceMeta, if_neg own, ← underway.others _ own]
      exact found
    have supplied := underway.supplied source named _ _ recorded pooled
    rw [imaged] at supplied
    simp [CreateVolumeArgs.original, recorded, sized, pooled, ← supplied]

def grown (built : Nat × Bool) (old : Image) : Nat := if built.2 then built.1 else max old.size built.1

theorem restored (underway : Underway args before now) : Loose.Ok (fun built after =>
    args.Sized before.node.files built.2 (grown built ((Files.image after.node.files args.img).getD .empty)) ∧
      Loose.Kept (fun path => path ≠ args.img ∧ path.isProbe = false) now after)
    (VolumeManager.restore config args ⟨args.storagePool, args.volumeId⟩ args.restoreSource) now := by
  cases named : args.restoreSource with
  | none =>
    refine .pure trivial ⟨?_, fun _ _ => rfl⟩
    simp only [CreateVolumeArgs.Sized, named, grown]
    refine ⟨trivial, ?_⟩
    have small := underway.small
    split <;> omega
  | some source =>
    refine Loose.restore.weaken (fun _ _ => trivial) fun built after _ known => ?_
    obtain ⟨⟨data, size, pool, image, found, sized, pooled, imaged, copied, rfl⟩, kept⟩ := known
    refine ⟨?_, kept⟩
    simp only [CreateVolumeArgs.Sized, named]
    refine ⟨_, original underway named found sized pooled imaged, rfl, ?_⟩
    have copied : Files.image after.node.files args.img = some image := copied
    rw [copied]
    rfl

theorem provisions {operation : FileOp} {path : Path} {thin : Bool} {now : Clocked × Record}
    (sizes : Op.provisions path (.file operation) = some thin) :
    loose.recorded.Gives (fun _ => True) (fun _ after => Record.provisioned path after.2 = some thin)
      (Driver.file operation) now := by
  refine Gives.perform trivial fun answer reply after _ executed => ⟨trivial, ?_⟩
  obtain ⟨-, logged⟩ := recorded_exec executed
  rintro value rfl
  rw [logged]
  exact Record.provisioned_sized sizes

theorem grows {path : Path} {thin : Bool} {size : Nat} {now : Clocked × Record} (fresh : Fresh args now) :
    loose.recorded.Gives (Sound args before) (fun _ after => (Fresh args after ∧ (∃ image,
      Files.image after.1.node.files path = some image ∧
        image.size = grown (size, thin) ((Files.image now.1.node.files path).getD .empty)) ∧
      Loose.Kept (fun other => other ≠ path) now.1 after.1) ∧ Record.provisioned path after.2 = some thin)
      (Rawfile.growImage path thin size) now := by
  refine .both (part (growImage_within rfl rfl) (.both Loose.growImage ?_) fresh) ?_
  · exact Loose.leaves _ (growImage_within (fun _ other => other) (fun _ other => other))
  · cases thin with
    | true => exact provisions (if_pos rfl)
    | false => exact provisions (if_pos rfl)

theorem finishes {now : Clocked × Record} {pool : PoolName} {image : Image} {thin : Bool} {data : Meta}
    (fresh : Fresh args now) (unbuilt : ¬ args.Built before.node.files)
    (described : Files.metadata now.1.node.files args.volumeId = some data) (itsSize : data.size = some args.size)
    (itsThin : data.thinProvision = some args.thinProvision)
    (imaged : Files.image now.1.node.files args.img = some image)
    (provisioned : now.2.provisioned args.img = some thin) (sized : args.Sized before.node.files thin image.size) :
    loose.recorded.Gives (Sound args before) (fun _ after => Settled args before after)
      (Rawfile.patchMetadata config args.volumeId pool { ready := some true }) now := by
  have reading : ∀ operation : Op, operation.reads → operation.reads := fun _ reads => reads
  refine .bind (look (metadataOr_within reading _) (Loose.metadataOr _) fresh) fun old first _ known => ?_
  obtain ⟨one, -, rfl⟩ := known
  refine .bind (look (getVolumePath_within _ _ _) Loose.getVolumePath (one.readied.trans fresh)) fun _ second _ known => ?_
  obtain ⟨two, -⟩ := known
  rw [described, Option.getD_some]
  have fresh : Fresh args second := two.readied.trans (one.readied.trans fresh)
  refine Gives.perform (fun ready => ?_) fun answer reply after _ executed => ?_
  · cases fresh.symm.trans ready
  · obtain ⟨executed, logged⟩ := recorded_exec executed
    obtain ⟨ran, -, -⟩ := @Calm.file_exec second.1 (.installMeta args.volumeId data
      { ready := some true }) answer after.1 reply executed
    have other := (@Calm.file_agrees second.1 (.installMeta args.volumeId data { ready := some true }) answer after.1 reply
      executed).files
    rcases installMeta_cases ran with ⟨rfl, installed⟩ | ⟨-, ⟨error, rfl⟩, -⟩
    · have imaged : Files.image after.1.node.files args.img = some image := by
        rw [Files.image_congr (other args.img nofun), Files.image_congr (two.files args.img trivial),
          Files.image_congr (one.files args.img trivial)]
        exact imaged
      have provisioned : Record.provisioned args.img after.2 = some thin := by
        rw [logged, Record.provisioned_silent rfl, two.provisioned, one.provisioned]
        exact provisioned
      have readied : Record.readied args.volumeId after.2 = true := by
        rw [logged, Record.readied_append]
        simp [Op.readies, Except.isOk, Except.toBool]
      refine ⟨fun _ => ⟨unbuilt, ⟨_, installed, rfl, itsSize, itsThin⟩, image, thin, imaged, provisioned, sized⟩, ?_⟩
      exact fun _ _ => .inl readied
    · refine ⟨fun ready => ?_, nofun⟩
      rw [logged, Record.readied_append, fresh] at ready
      cases ready

theorem buildImage {now : Clocked × Record} (prepared : Prepared args before now.1) (fresh : Fresh args now) :
    loose.recorded.Gives (Sound args before) (fun _ after => Settled args before after)
      (VolumeManager.buildImage config args args.restoreSource) now := by
  have reading : ∀ operation : Op, operation.reads → Op.readies args.volumeId operation = false :=
    fun _ reads => reads.silent
  refine .bind (part ((VolumeManager.bigEnough_within _ _).mono fun _ issued => issued.silent) Loose.bigEnough fresh)
    fun enough first _ known => ?_
  obtain ⟨fresh, same, decided⟩ := known
  have place : Files.image now.1.node.files args.img = Files.image before.node.files args.img :=
    Files.image_congr (prepared.volumes args.img ⟨trivial, by rintro ⟨⟩⟩)
  have enough_iff : enough = true ↔ args.Built before.node.files := by
    rw [decided, CreateVolumeArgs.Built, ← place]
    rfl
  split
  next built =>
    refine .pure (fun ready => by cases fresh.symm.trans ready) (.inr ⟨enough_iff.mp built, ?_⟩)
    rw [same]
    exact prepared.opened
  next unbuilt =>
    have unbuilt : ¬ args.Built before.node.files := fun built => unbuilt (enough_iff.mpr built)
    have directories : ∀ temporary, Op.avoids Path.carries
        (.file (.mkdirs (.snapshotsDir args.storagePool args.volumeId temporary))) := by
      intro temporary path carries touched
      rcases Path.above_snapshotsDir touched with rfl | ⟨_, rfl⟩ <;> cases carries
    refine .bind (part (.perform rfl) (Loose.leaves _ (.perform (directories false))) fresh) fun _ second _ known => ?_
    obtain ⟨fresh, one⟩ := known
    refine .bind (part (.perform rfl) (Loose.leaves _ (.perform (directories true))) fresh) fun _ third _ known => ?_
    obtain ⟨fresh, two⟩ := known
    refine .bind (part (.perform rfl) (Loose.leaves Path.carries (.perform fun _ _ => id)) fresh)
      fun createdAt fourth _ known => ?_
    obtain ⟨fresh, three⟩ := known
    have prepared : Prepared args before fourth.1 :=
      prepared.later (((Loose.Kept.ofNode same).trans one).trans (two.trans three))
    refine .bind (part (patchMetadata_within reading fun _ => by simp [Op.readies, VolumeManager.describingPatch])
      (Loose.patchMetadata config _ _ _) fresh) fun _ fifth _ known => ?_
    obtain ⟨fresh, patched, -, kept, -⟩ := known
    have touching : Loose.Ok (fun _ touched => (∃ answer, (FileOp.touch args.img).exec answer fifth.1.node.files =
        (.ok (), touched.node.files)) ∧ Loose.Kept (fun path => path ≠ args.img) fifth.1 touched)
        (Driver.file (.touch args.img)) fifth.1 := by
      refine Loose.file fun answer _ after ran frame _ => ⟨⟨answer, ran⟩, frame⟩
    refine .bind (part (.perform rfl) touching fresh) fun _ sixth _ known => ?_
    obtain ⟨fresh, touched, still⟩ := known
    have underway := underway prepared unbuilt patched kept touched still
    refine .bind (part ((VolumeManager.restore_within _ _ _ _).mono fun _ issued => issued.silent)
      (restored underway) fresh) fun built seventh _ known => ?_
    obtain ⟨fresh, sized, copied⟩ := known
    refine .bind (grows fresh) fun _ eighth _ known => ?_
    obtain ⟨⟨fresh, ⟨image, imaged, length⟩, others⟩, provisioned⟩ := known
    obtain ⟨data, described, itsSize, itsThin, -⟩ := underway.described
    refine finishes fresh unbuilt ?_ itsSize itsThin imaged provisioned ?_
    · rw [Files.metadata_congr (others _ (by rintro ⟨⟩)), Files.metadata_congr (copied _ ⟨by rintro ⟨⟩, rfl⟩)]
      exact described
    · rw [length]
      exact sized

theorem relocks {operation : LockOp} (own : operation = .acquire args.volumeId ∨ operation = .release args.volumeId) :
    (Driver.lock operation).Within Op.lawful (Op.aside args) := by
  refine .perform ⟨fun path holds => ?_, rfl, rfl⟩
  rcases own with rfl | rfl
  · rintro rfl
    cases holds
  · rintro rfl
    cases holds

private theorem cleans {now : Clocked × Record} {body cleanup : Driver Unit}
    (inside : loose.recorded.Gives (Sound args before) (fun _ after => Settled args before after) body now)
    (within : cleanup.Within Op.lawful (Op.aside args)) :
    loose.recorded.Gives (Sound args before) (fun _ after => Settled args before after) (body.tryFinally cleanup) now := by
  refine .tryFinally inside (fun _ state sound settled => ?_) fun state sound => ?_
  · exact (aside within sound).weaken (fun _ sound => sound) fun _ _ _ keeps _ _ => keeps settled
  · exact (aside within sound).weaken (fun _ sound => sound) fun _ _ _ _ => trivial

/-- All along `create_volume` a volume it made ready is finished, and if it
returns it made the volume ready or found its image in place. -/
theorem createVolume (config : DriverConfig) (args : CreateVolumeArgs) (before : Clocked) :
    loose.recorded.Gives (Sound args before) (fun _ after => Settled args before after)
      (VolumeManager.createVolume config args) (before, []) := by
  have fresh : Fresh args (before, []) := rfl
  have reading : ∀ operation : Op, operation.reads → Op.readies args.volumeId operation = false :=
    fun _ reads => reads.silent
  unfold VolumeManager.createVolume
  split
  · exact .raise (fun ready => by cases fresh.symm.trans ready)
  · refine .bind (part (getVolumePath_within _ _ _) Loose.getVolumePath fresh) fun dir first _ known => ?_
    obtain ⟨fresh, same, rfl, -⟩ := known
    refine .bind (part (.perform rfl) (Loose.leaves Path.carries (.perform ?_)) fresh) fun _ second _ known => ?_
    · rintro path carries rfl
      cases carries
    obtain ⟨fresh, one⟩ := known
    refine .bind (part (.perform rfl) (Loose.leaves Path.carries (.perform ?_)) fresh) fun _ third _ known => ?_
    · intro path carries touched
      cases Path.above_root rfl touched
      cases carries
    obtain ⟨fresh, two⟩ := known
    refine .bind (part (patchMetadata_within reading fun _ => by simp [Op.readies, VolumeManager.openingPatch])
      (Loose.patchMetadata config _ _ _) fresh) fun _ fourth _ known => ?_
    obtain ⟨fresh, patched, -, kept, -⟩ := known
    have besides : Loose.Kept (Path.besides args) before fourth.1 :=
      (((Loose.Kept.ofNode (by rw [same])).trans one).trans two |>.mono fun _ inside => inside.1).trans
        (Loose.Kept.mono kept fun _ inside => inside.2)
    refine cleans ?_ ((VolumeManager.removeCloneSource_within config args).mono fun _ issued => issued.aside)
    refine .bind (part ((VolumeManager.findSource_within _ _).mono fun _ issued => issued.silent) Loose.findSource fresh)
      fun source fifth _ known => ?_
    obtain ⟨fresh, found⟩ := known
    have prepared : Prepared args before fifth.1 := prepared ⟨_, patched, rfl, rfl⟩ besides found
    obtain ⟨⟨rfl, -⟩, -⟩ := found
    refine .bind (part (.perform rfl) (Loose.lock (.inl rfl)) fresh) fun _ locked _ known => ?_
    obtain ⟨fresh, alike⟩ := known
    have prepared : Prepared args before locked.1 :=
      prepared.later (alike.mono fun path carries => (Path.carries_plain carries).2 _)
    exact cleans (buildImage prepared fresh) (relocks (.inr rfl))

end

end Creating

namespace CreateVolumeArgs

def Usable (args : CreateVolumeArgs) (files : Files) : Prop :=
  (∃ data, Files.metadata files args.volumeId = some data ∧ data.ready = some true) ∧ args.Built files

def Described (args : CreateVolumeArgs) (now : Clocked × Record) : Prop :=
  ∃ data image, Files.metadata now.1.node.files args.volumeId = some data ∧
    Files.image now.1.node.files args.img = some image ∧ data.size = some image.size ∧
    data.thinProvision = now.2.provisioned args.img

/-- The source is provisioned as requested and not larger than requested. -/
def Faithful (args : CreateVolumeArgs) (files : Files) : Prop :=
  ∀ source, args.restoreSource = some source → ∃ original, args.original source files = some original ∧
    original.thin = args.thinProvision ∧ original.size ≤ args.size ∧
    (original.thin = true ∨ original.image.size ≤ args.size)

variable {args : CreateVolumeArgs} {files : Files} {thin : Bool} {size : Nat}

theorem Sized.large (sized : args.Sized files thin size) : args.size ≤ size := by
  unfold Sized at sized
  split at sized
  · exact sized.2.ge
  · obtain ⟨original, -, -, rfl⟩ := sized
    split <;> omega

private theorem Sized.faithful_iff (sized : args.Sized files thin size) :
    size = args.size ∧ thin = args.thinProvision ↔ args.Faithful files := by
  unfold Sized at sized
  split at sized
  next unnamed =>
    refine ⟨fun _ source named => ?_, fun _ => ⟨sized.2, sized.1⟩⟩
    cases unnamed.symm.trans named
  next source named =>
    obtain ⟨original, found, rfl, rfl⟩ := sized
    have faithful : args.Faithful files ↔ original.thin = args.thinProvision ∧ original.size ≤ args.size ∧
        (original.thin = true ∨ original.image.size ≤ args.size) := by
      refine ⟨fun faithful => ?_, fun holds other chosen => ?_⟩
      · obtain ⟨other, seen, holds⟩ := faithful source named
        cases found.symm.trans seen
        exact holds
      · cases named.symm.trans chosen
        exact ⟨original, found, holds⟩
    rw [faithful, and_comm]
    refine and_congr_right fun _ => ?_
    cases original.thin with
    | true =>
      simp only [if_true, true_or, and_true]
      omega
    | false =>
      simp only [Bool.false_eq_true, if_false, false_or]
      omega

end CreateVolumeArgs

private theorem Creating.Finished.usable {args : CreateVolumeArgs} {before : Clocked} {now : Clocked × Record}
    (finished : Finished args before now) : args.Usable now.1.node.files := by
  obtain ⟨data, found, ready, -⟩ := finished.described
  obtain ⟨image, thin, imaged, -, sized⟩ := finished.built
  exact ⟨⟨data, found, ready⟩, image, imaged, sized.large⟩

private theorem Creating.Finished.described_iff {args : CreateVolumeArgs} {before : Clocked} {now : Clocked × Record}
    (finished : Finished args before now) : args.Described now ↔ args.Faithful before.node.files := by
  obtain ⟨data, found, -, itsSize, itsThin⟩ := finished.described
  obtain ⟨image, thin, imaged, provisioned, sized⟩ := finished.built
  rw [← sized.faithful_iff]
  constructor
  · rintro ⟨other, same, seen, shown, size, built⟩
    cases found.symm.trans seen
    cases imaged.symm.trans shown
    rw [itsSize, Option.some_inj] at size
    rw [itsThin, provisioned, Option.some_inj] at built
    exact ⟨size.symm, built.symm⟩
  · rintro ⟨size, rfl⟩
    exact ⟨data, image, found, imaged, by rw [itsSize, size], by rw [itsThin, provisioned]⟩

/-- A `create_volume` that returns leaves a usable volume if and only if it did not
find an image as large as requested: it takes such an image for a finished volume. -/
theorem create_volume_readies (config : DriverConfig) (args : CreateVolumeArgs) (before : Clocked) :
    loose.Ends (fun outcome after => outcome = .ok () →
      (args.Usable after.node.files ↔ ¬ args.Built before.node.files))
      (VolumeManager.createVolume config args) before := by
  refine @Surely.unrecorded _ _ _ _ _ _ _ _ _ _ _ [] (Surely.weaken (Creating.createVolume config args before) (fun _ _ => trivial) ?_)
  rintro _ after sound settled rfl
  rcases settled () rfl with ready | ⟨built, data, found, unready⟩
  · exact ⟨fun _ => (sound ready).unbuilt, fun _ => (sound ready).usable⟩
  · refine ⟨fun usable => ?_, fun unbuilt => absurd built unbuilt⟩
    obtain ⟨⟨other, seen, ready⟩, -⟩ := usable
    cases found.symm.trans seen
    cases unready.symm.trans ready

namespace Retry

def args : CreateVolumeArgs where
  volumeId := "v"
  size := 4
  storagePool := "default"
  thinProvision := true

def crashed : Option Clocked := loose.follow (List.replicate 13 {}) (VolumeManager.createVolume singlePool args) ⟨{}, 0⟩

def again (now : Clocked) : Except Err Unit × Clocked :=
  (VolumeManager.createVolume singlePool args).eval (fun operation now => loose.exec operation {} now) now

/-- It returns, and the volume is not ready. -/
theorem create_volume_unready : ∃ now : Clocked, loose.Passes (VolumeManager.createVolume singlePool args) ⟨{}, 0⟩ now ∧
    now.node.isReady "v" = false ∧
    ¬ loose.Ends (fun outcome after => outcome = .ok () → args.Usable after.node.files)
      (VolumeManager.createVolume singlePool args) now := by
  have tested : (crashed.any fun now => !now.node.isReady "v" && (again now).1.isOk &&
      !(again now).2.node.isReady "v") = true := by decide +kernel
  obtain ⟨now, followed, tested⟩ := (Option.any_eq_true ..).mp tested
  simp only [Bool.and_eq_true, Bool.not_eq_true'] at tested
  obtain ⟨⟨unready, returned⟩, still⟩ := tested
  refine ⟨now, follow_passes followed, unready, fun ends => ?_⟩
  have usable := ends.evaluated (fun _ _ => {}) (fun _ _ => trivial)
  obtain ⟨⟨data, found, ready⟩, -⟩ := usable (by
    change (again now).1 = .ok ()
    generalize (again now).1 = outcome at returned
    cases outcome with
    | ok value => rfl
    | error error => cases returned)
  change Files.metadata (again now).2.node.files "v" = some data at found
  simp [Node.isReady, found, Meta.isReady, ready] at still

end Retry

/-- The metadata of a volume that `create_volume` made ready describe its image if
and only if the source agrees with the request. -/
theorem metadata_describes_image (config : DriverConfig) (args : CreateVolumeArgs) (before : Clocked) :
    loose.recorded.Along (fun now => Record.readied args.volumeId now.2 = true →
      (args.Described now ↔ args.Faithful before.node.files))
      (VolumeManager.createVolume config args) (before, []) :=
  Surely.weaken (Creating.createVolume config args before) (fun _ sound ready => (sound ready).described_iff)
    fun _ _ _ _ => trivial

namespace Shrinking

def source : CreateVolumeArgs where
  volumeId := "source"
  size := 4
  storagePool := "default"
  thinProvision := false

def clone : CreateVolumeArgs where
  volumeId := "clone"
  size := 2
  storagePool := "default"
  thinProvision := true
  sourceType := some .volume
  sourceId := some "source"

def created : Option Clocked := loose.follow (List.replicate 16 {}) (VolumeManager.createVolume singlePool source) ⟨{}, 0⟩

def cloned (now : Clocked) : Option (Clocked × Record) :=
  loose.recorded.follow (List.replicate 48 {}) (VolumeManager.createVolume singlePool clone) (now, [])

def described (now : Clocked × Record) : Option (Option Nat × Option Bool) × Option Nat × Option Bool :=
  ((Files.metadata now.1.node.files "clone").map fun data => (data.size, data.thinProvision),
    (Files.image now.1.node.files clone.img).map Image.size, now.2.provisioned clone.img)

/-- The clone is thick and as large as its source, and its metadata call it thin and small. -/
theorem metadata_misdescribe_clone : ∃ now : Clocked,
    loose.Passes (VolumeManager.createVolume singlePool source) ⟨{}, 0⟩ now ∧ now.node.isReady "source" = true ∧
    ¬ loose.recorded.Along (fun now => Record.readied "clone" now.2 = true → clone.Described now)
      (VolumeManager.createVolume singlePool clone) (now, []) := by
  have tested : (created.any fun now => now.node.isReady "source" && (cloned now).any fun last =>
      Record.readied "clone" last.2 && described last = (some (some 2, some true), some 4, some false)) = true := by
    decide +kernel
  obtain ⟨now, followed, tested⟩ := (Option.any_eq_true ..).mp tested
  obtain ⟨ready, tested⟩ := Bool.and_eq_true_iff.mp tested
  obtain ⟨last, passed, tested⟩ := (Option.any_eq_true ..).mp tested
  obtain ⟨readied, tested⟩ := Bool.and_eq_true_iff.mp tested
  refine ⟨now, follow_passes followed, ready, fun along => ?_⟩
  obtain ⟨data, image, found, imaged, size, -⟩ := along.passes (follow_passes passed) readied
  have seen := of_decide_eq_true tested
  have found : Files.metadata last.1.node.files "clone" = some data := found
  simp [described, found, imaged, size] at seen
  omega

end Shrinking
end Rawfile
