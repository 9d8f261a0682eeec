import Rawfile.Proofs.MountPoint
import Rawfile.Proofs.Restore

/-! What the parts of `create_volume` and `create_snapshot` return on a node
where anything may fail: if a copy returns, it is the file that was copied. -/

namespace Rawfile
open Effects World

def Op.avoids (paths : Path → Prop) (operation : Op) : Prop := ∀ path, paths path → ¬ operation.touches path

theorem Op.reads.avoids {paths : Path → Prop} {operation : Op} (reads : operation.reads) : operation.avoids paths :=
  fun path _ => reads.untouched path

namespace Loose

variable {α β : Type} {now : Clocked} {volume : VolumeId} {path : Path}

abbrev Ok (post : α → Clocked → Prop) (program : Driver α) (now : Clocked) : Prop :=
  loose.Gives (fun _ => True) post program now

def Kept (paths : Path → Prop) (before after : Clocked) : Prop :=
  ∀ path, paths path → after.node.files.lookup path = before.node.files.lookup path

theorem Kept.trans {paths : Path → Prop} {first second third : Clocked} (one : Kept paths first second)
    (two : Kept paths second third) : Kept paths first third :=
  fun path inside => (two path inside).trans (one path inside)

theorem Kept.mono {paths fewer : Path → Prop} {first second : Clocked} (kept : Kept paths first second)
    (inside : ∀ path, fewer path → paths path) : Kept fewer first second :=
  fun path fewer => kept path (inside path fewer)

theorem Kept.ofNode {paths : Path → Prop} {first second : Clocked} (same : second.node = first.node) :
    Kept paths first second :=
  fun _ _ => by rw [same]

theorem keeps {program : Driver α} {paths : Path → Prop} (within : program.Within Op.lawful (Op.avoids paths)) :
    loose.Surely (Kept paths now) (fun _ after => Kept paths now after) program now := by
  refine Surely.ofWithin (Kept paths now) within (fun operation answer state => Op.exec_lawful operation 0 answer
    state.node) (fun operation answer state avoids _ kept path inside => ?_) fun _ _ => rfl
  exact (operation.exec_lookup 0 answer state.node (avoids path inside)).trans (kept path inside)

theorem leaves (paths : Path → Prop) {program : Driver α} (within : program.Within Op.lawful (Op.avoids paths)) :
    Ok (fun _ after => Kept paths now after) program now :=
  .ofEnds ((keeps within).weaken (fun _ _ => trivial) fun _ _ _ kept => kept)

theorem looks {program : Driver α} (within : program.Within Op.lawful Op.reads) :
    Ok (fun _ after => after.node = now.node) program now :=
  .ofEnds ((look within).weaken (fun _ _ => trivial) fun _ _ _ same => same)

section
variable {operation : FileOp} {post : operation.Reply → Clocked → Prop}

theorem file (returns : ∀ answer value after, operation.exec answer now.node.files = (.ok value, after.node.files) →
      (∀ path, ¬ operation.touches path → after.node.files.lookup path = now.node.files.lookup path) →
      after.node.devices = now.node.devices → post value after) : Ok post (Driver.file operation) now := by
  refine .perform trivial fun answer reply after _ executed => ⟨trivial, ?_⟩
  obtain ⟨ran, devices, -⟩ := @Calm.file_exec now operation answer after reply executed
  have agrees := @Calm.file_agrees now operation answer after reply executed
  rintro value rfl
  exact returns answer value after ran agrees.files devices

private theorem unmoved {operation : Op} {answer : Answer} {reply : Except Err operation.Reply} {after : Clocked}
    (looking : operation.reads) (executed : Clocked.exec operation answer now = (reply, after)) :
    after.node = now.node := by
  have unchanged := @Op.reads.unchanged operation looking 0 answer now.node _ _ rfl
  rw [← unchanged]
  exact congrArg (fun result => result.2.node) executed.symm

theorem reads (looking : Op.reads (.file operation))
    (returns : ∀ answer value after, operation.exec answer now.node.files = (.ok value, after.node.files) →
      after.node = now.node → post value after) : Ok post (Driver.file operation) now := by
  refine .perform trivial fun answer reply after _ executed => ⟨trivial, ?_⟩
  obtain ⟨ran, -, -⟩ := @Calm.file_exec now operation answer after reply executed
  have same := unmoved looking executed
  rintro value rfl
  exact returns answer value after ran same

end

theorem metadata (volume : VolumeId) : Ok (fun data after => after.node = now.node ∧
    Files.metadata now.node.files volume = some data) (Rawfile.metadata volume) now :=
  reads trivial fun _ data _ ran same => ⟨same, (readMeta_exec ran).2.1 data rfl⟩

theorem metadataOr (volume : VolumeId) : Ok (fun data after => after.node = now.node ∧
    data = (Files.metadata now.node.files volume).getD {}) (Rawfile.metadataOr volume) now := by
  refine Surely.tryExcept (Surely.perform trivial fun answer reply after _ executed => ⟨trivial, ?_⟩)
  have same := @unmoved now (.file (.readMeta volume)) answer reply after trivial executed
  obtain ⟨ran, -, -⟩ := @Calm.file_exec now (.readMeta volume) answer after reply executed
  obtain ⟨-, found, missing⟩ := readMeta_exec ran
  cases reply with
  | ok data =>
    refine ⟨trivial, ?_⟩
    rintro _ ⟨⟩
    exact ⟨same, by rw [found data rfl]; rfl⟩
  | error error =>
    dsimp only
    split
    · exact Gives.pure trivial ⟨same, by rw [missing rfl]; rfl⟩
    · exact Gives.raise trivial

theorem need {key : String} {value : Option α} : Ok (fun found after => after = now ∧ value = some found)
    (Rawfile.need key value) now := by
  cases value with
  | none => exact .raise trivial
  | some value => exact .pure trivial ⟨rfl, rfl⟩

theorem imgFile (volume : VolumeId) : Ok (fun file after => after.node = now.node ∧
    ∃ data pool, Files.metadata now.node.files volume = some data ∧ data.imgFile = some pool ∧ file = ⟨pool, volume⟩)
    (Rawfile.imgFile volume) now := by
  refine .bind (metadata volume) fun data state _ known => ?_
  refine .bind need fun pool state _ named => ?_
  obtain ⟨rfl, named⟩ := named
  exact .pure trivial ⟨known.1, data, pool, known.2, named, rfl⟩

theorem getVolumePath {config : DriverConfig} {pool : PoolName} :
    Ok (fun path after => after = now ∧ path = .volumeDir pool volume ∧ pool ∈ config.storagePools)
      (Rawfile.getVolumePath config pool volume) now := by
  unfold Rawfile.getVolumePath
  split
  next configured => exact .pure trivial ⟨rfl, rfl, configured⟩
  · exact .raise trivial

theorem snapshotsPool (config : DriverConfig) (volume : VolumeId) : Ok (fun pool after => after.node = now.node ∧
    ∃ data, Files.metadata now.node.files volume = some data ∧ pool = data.storagePool.getD config.defaultPool)
    (Rawfile.snapshotsPool config volume) now := by
  refine .bind (metadata volume) fun data state _ known => ?_
  refine .bind getVolumePath fun _ state _ named => ?_
  obtain ⟨rfl, -⟩ := named
  exact .pure trivial ⟨known.1, data, known.2, rfl⟩

theorem patchMetadata (config : DriverConfig) (volume : VolumeId) (pool : PoolName) (patch : Meta) :
    Ok (fun _ after => Files.metadata after.node.files volume =
      some (((Files.metadata now.node.files volume).getD {}).merge patch) ∧ pool ∈ config.storagePools ∧
      (∀ path, path ≠ .metaFile volume → after.node.files.lookup path = now.node.files.lookup path) ∧
      after.node.devices = now.node.devices)
      (Rawfile.patchMetadata config volume pool patch) now := by
  refine .bind (metadataOr volume) fun data state _ known => ?_
  obtain ⟨same, rfl⟩ := known
  refine .bind getVolumePath fun _ state _ named => ?_
  obtain ⟨rfl, -, configured⟩ := named
  refine file fun answer value after ran frame devices => ?_
  rw [same] at frame devices
  refine ⟨?_, configured, frame, devices⟩
  rcases installMeta_cases ran with ⟨-, installed⟩ | ⟨-, ⟨error, failed⟩, -⟩
  · exact installed
  · cases failed

/-- If `cp` returns, its destination holds what its source holds. -/
theorem copyFile {source dest : Path} (different : source ≠ dest) : Ok (fun _ after =>
    (∃ image, Files.image now.node.files source = some image ∧ Files.image after.node.files dest = some image) ∧
      ∀ path, path ≠ dest → after.node.files.lookup path = now.node.files.lookup path)
    (Rawfile.copyFile source dest) now := by
  have opening : Ok (fun opened state => (Files.image now.node.files source = some opened ∧
      Files.image state.node.files dest ≠ none) ∧ ∀ path, path ≠ dest →
        state.node.files.lookup path = now.node.files.lookup path) (Driver.file (.cpStart source dest)) now := by
    refine file fun answer opened after ran frame _ => ?_
    obtain ⟨found, started⟩ := cpStart_exec ran
    exact ⟨⟨found, by simp [started]⟩, frame⟩
  refine .bind opening fun opened state _ known => ?_
  obtain ⟨⟨found, started⟩, kept⟩ := known
  refine file fun answer _ after ran frame _ => ?_
  have still : Files.image state.node.files source = some opened := by
    rw [Files.image_congr (kept source different)]
    exact found
  have finished := cpFinish_exec ran started
  rw [still, Option.getD_some] at finished
  exact ⟨⟨opened, found, finished⟩, fun path other => (frame path other).trans (kept path other)⟩

theorem lock {operation : LockOp} (own : operation = .acquire volume ∨ operation = .release volume) :
    Ok (fun _ after => Kept (fun path => path ≠ .lockFile volume) now after) (Driver.lock operation) now := by
  refine leaves _ (.perform fun path other => ?_)
  rcases own with rfl | rfl <;> exact other

theorem locking {post : α → Clocked → Prop} {body : Driver α}
    (inside : ∀ locked, Kept (fun path => path ≠ .lockFile volume) now locked → Ok post body locked)
    (kept : ∀ value before after, Kept (fun path => path ≠ .lockFile volume) before after → post value before →
      post value after) : Ok post (Rawfile.withVolLock volume body) now := by
  refine .bind (lock (.inl rfl)) fun _ locked _ alike => ?_
  refine .tryFinally (inside locked alike) (fun value state _ holds => ?_) fun state _ => ?_
  · exact (lock (.inr rfl)).weaken (fun _ _ => trivial) fun _ after _ alike => kept value state after alike holds
  · exact Surely.weaken (lock (.inr rfl)) (fun _ _ => trivial) fun _ _ _ _ => trivial

section Snapshots
variable {args : CreateSnapshotArgs} {pool : PoolName} {file : ImgFile} {loops : List Device}

def Cut (args : CreateSnapshotArgs) (pool : PoolName) (file : ImgFile) (before after : Clocked) : Prop :=
  ∃ image, Files.image before.node.files file.path = some image ∧
    Files.image after.node.files (.snapshot pool args.volumeId args.temporary args.name) = some image

theorem Cut.later {before after last : Clocked} (cut : Cut args pool file before after)
    (kept : Kept (fun path => path = .snapshot pool args.volumeId args.temporary args.name) after last) :
    Cut args pool file before last := by
  obtain ⟨image, found, copied⟩ := cut
  exact ⟨image, found, (Files.image_congr (kept _ rfl)).trans copied⟩

theorem copySnapshot : Ok (fun _ after => Cut args pool file now after)
    (SnapshotManager.copySnapshot args pool file loops) now := by
  have freezing : Ok (fun _ after => Kept (fun _ => True) now after)
      (if args.freezeFs then SnapshotManager.freezeAll loops else pure ()) now := by
    apply leaves
    split
    · exact SnapshotManager.freezeAll_within (fun _ reads => reads.avoids) (fun _ _ _ => id) loops
    · exact .pure _
  refine .bind freezing fun _ frozen _ still => ?_
  refine .bind (copyFile (by simp [ImgFile.path])) fun _ copied _ known => ?_
  obtain ⟨⟨image, found, copy⟩, -⟩ := known
  rw [Files.image_congr (still _ trivial)] at found
  have cut : Cut args pool file now copied := ⟨image, found, copy⟩
  refine (leaves _ ?_).weaken (fun _ _ => trivial) fun _ after _ kept => cut.later kept
  refine .bind (.perform fun _ _ => id) fun _ => .bind (.perform ?_) fun _ => .bind (.perform fun _ _ => id) fun _ =>
    .pure _
  rintro _ rfl ⟨⟩

theorem cutSnapshot : Ok (fun _ after => Cut args pool file now after)
    (SnapshotManager.cutSnapshot args pool file loops) now := by
  have thawing : (if args.freezeFs then SnapshotManager.unfreezeAll loops else pure ()).Within Op.lawful
      (Op.avoids fun path => path = .snapshot pool args.volumeId args.temporary args.name) := by
    split
    · exact SnapshotManager.unfreezeAll_within (fun _ reads => reads.avoids) (fun _ _ _ => id) loops
    · exact .pure _
  refine .tryFinally (.tryRaise copySnapshot fun error state _ => ?_) (fun _ state _ cut => ?_) fun state _ => ?_
  · exact .bind (.ofEnds (Surely.any _ _)) fun _ _ _ _ => .raise trivial
  · exact (leaves _ thawing).weaken (fun _ _ => trivial) fun _ after _ kept => cut.later kept
  · exact (keeps thawing).weaken (fun _ _ => trivial) fun _ _ _ _ => trivial

/-- If `create_snapshot` returns, the image the metadata name was copied. -/
theorem createSnapshot {config : DriverConfig} : Ok (fun _ after => ∃ data home,
    Files.metadata now.node.files args.volumeId = some data ∧ data.imgFile = some home ∧
      Cut args (data.storagePool.getD config.defaultPool) ⟨home, args.volumeId⟩ now after)
    (SnapshotManager.createSnapshot config args) now := by
  refine locking (fun locked alike => ?_) ?_
  · refine .bind (imgFile args.volumeId) fun file first _ known => ?_
    obtain ⟨same, data, home, found, named, rfl⟩ := known
    rw [Files.metadata_congr (alike _ nofun)] at found
    refine .bind (looks (attachedLoops_within (fun _ reads => reads) _)) fun loops second _ again => ?_
    refine .bind (snapshotsPool config args.volumeId) fun pool third _ known => ?_
    obtain ⟨still, other, seen, rfl⟩ := known
    rw [again, same, Files.metadata_congr (alike _ nofun), found] at seen
    cases seen
    have here : Kept (fun path => path = .imgFile home args.volumeId) now third :=
      .trans (fun path inside => alike path (by rw [inside]; exact nofun)) (.ofNode (still.trans (again.trans same)))
    refine .bind (leaves (fun path => path = .imgFile home args.volumeId) (.perform ?making)) fun _ fourth _ made =>
      .bind (leaves (fun path => path = .imgFile home args.volumeId) (.perform ?marking)) fun _ fifth _ marked =>
      .bind (leaves (fun path => path = .imgFile home args.volumeId) (.perform ?clearing)) fun _ sixth _ cleared => ?_
    case making =>
      rintro _ rfl above
      cases (Path.above_imgFile.mp above)
    case marking => rintro _ rfl ⟨⟩
    case clearing => rintro _ rfl ⟨⟩
    split
    · exact .raise trivial
    · refine cutSnapshot.weaken (fun _ _ => trivial) fun _ after _ cut => ?_
      obtain ⟨image, imaged, copied⟩ := cut
      have kept := ((here.trans made).trans marked).trans cleared
      exact ⟨data, home, found, named, image, (Files.image_congr (kept _ rfl)).symm.trans imaged, copied⟩
  · rintro _ before after kept ⟨data, home, found, named, cut⟩
    refine ⟨data, home, found, named, cut.later fun path inside => kept path ?_⟩
    rw [inside]
    exact nofun

theorem listSnapshots {config : DriverConfig} {name : String} {temporary : Bool} : Ok (fun snapshots after =>
    after.node = now.node ∧ ∃ data pool, Files.metadata now.node.files volume = some data ∧
      data.storagePool = some pool ∧ (snapshots.head?.map Snapshot.ready).getD false =
        (now.node.files.present (.snapshot pool volume temporary name) &&
          !now.node.files.present (.creating pool volume temporary name)))
    (SnapshotManager.listSnapshots config volume name temporary) now := by
  have looking : ∀ {path : Path} {now : Clocked}, Ok (fun found after => after.node = now.node ∧
      found = now.node.files.present path) (Driver.file (.exists path)) now := by
    intro path now
    refine reads trivial fun _ _ _ ran same => ⟨same, ?_⟩
    simp only [FileOp.exec, Prod.mk.injEq, Except.ok.injEq] at ran
    exact ran.1.symm
  refine .bind (metadata volume) fun data first _ known => ?_
  obtain ⟨same, found⟩ := known
  refine .bind need fun pool second _ known => ?_
  obtain ⟨rfl, named⟩ := known
  refine .bind getVolumePath fun _ third _ known => ?_
  obtain ⟨rfl, -⟩ := known
  refine .bind looking fun there fourth _ known => ?_
  obtain ⟨again, rfl⟩ := known
  split
  next there =>
    refine .bind looking fun creating fifth _ known => ?_
    obtain ⟨still, rfl⟩ := known
    refine .bind (looks (.perform trivial)) fun size sixth _ last => ?_
    refine .pure trivial ⟨last.trans (still.trans (again.trans same)), data, pool, found, named, ?_⟩
    rw [again, same]
    rw [same] at there
    simp [there]
  next missing =>
    refine .pure trivial ⟨again.trans same, data, pool, found, named, ?_⟩
    rw [same] at missing
    simp [missing]

end Snapshots

end Loose
/-- The file a restore copies; a clone without a ready snapshot first cuts one from the image. -/
def RestoreSource.supplied (source : RestoreSource) (data : Meta) (pool : PoolName) (files : Files) : Option Image :=
  if source.temporary && !(files.present (source.path pool) &&
      !files.present (.creating pool source.volume source.temporary source.name)) then
    data.imgFile.bind fun home => Files.image files (.imgFile home source.volume)
  else Files.image files (source.path pool)

def CreateVolumeArgs.sourceMeta (args : CreateVolumeArgs) (source : RestoreSource) (files : Files) : Option Meta :=
  if source.volume = args.volumeId then
    some { storagePool := some args.storagePool, size := some args.size, thinProvision := some args.thinProvision }
  else Files.metadata files source.volume

/-- What a restore finds: the size and provisioning recorded for its source, and the file it copies. -/
structure Original where
  size : Nat
  thin : Bool
  image : Image

def CreateVolumeArgs.original (args : CreateVolumeArgs) (source : RestoreSource) (files : Files) : Option Original := do
  let data ← args.sourceMeta source files
  let size ← data.size
  let pool ← data.storagePool
  let image ← source.supplied data pool files
  some ⟨size, data.isThin, image⟩

def Path.holdsVolume : Path → Prop
  | .metaFile _ | .imgFile _ _ => True
  | _ => False

theorem SourceOp.avoidsVolumes {args : CreateVolumeArgs} {operation : Op} (issued : SourceOp args operation) :
    operation.avoids Path.holdsVolume := by
  have foreign : ∀ volume, operation.foreign volume := fun _ => issued.foreign
  intro path inside
  cases path with
  | metaFile volume => exact (foreign volume).1
  | imgFile pool volume => exact (foreign volume).2 pool
  | _ => cases inside

namespace Loose

variable {now : Clocked} {volume source : VolumeId} {config : DriverConfig} {args : CreateVolumeArgs}

theorem prepareClone : Ok (fun _ after => ((Files.metadata now.node.files source).getD {}).isReady = true ∧
    ∀ data pool, Files.metadata now.node.files source = some data → data.storagePool = some pool →
      Files.image after.node.files (.snapshot pool source true (cloneSource volume)) =
        RestoreSource.supplied ⟨source, cloneSource volume, true⟩ data pool now.node.files)
    (VolumeManager.prepareClone config volume source) now := by
  refine .bind (metadataOr source) fun data first _ known => ?_
  obtain ⟨same, rfl⟩ := known
  split
  · exact .raise trivial
  next ready =>
    have ready : ((Files.metadata now.node.files source).getD {}).isReady = true := by simpa using ready
    refine .bind listSnapshots fun current second _ known => ?_
    obtain ⟨again, data, pool, found, named, listed⟩ := known
    rw [same] at found listed
    rw [found, Option.getD_some]
    split
    next current =>
      rw [listed] at current
      refine .pure trivial ⟨by rwa [found] at ready, ?_⟩
      rintro _ _ ⟨⟩ chosen
      cases named.symm.trans chosen
      rw [again, same]
      simp [RestoreSource.supplied, RestoreSource.path, current]
    next missing =>
      rw [listed] at missing
      have cut : ∀ {third : Clocked} (snapshotArgs : CreateSnapshotArgs), third.node = now.node →
          snapshotArgs.volumeId = source → snapshotArgs.name = cloneSource volume → snapshotArgs.temporary = true →
          Ok (fun _ after => data.isReady = true ∧ ∀ other home, some data = some other → other.storagePool = some home →
            Files.image after.node.files (.snapshot home source true (cloneSource volume)) =
              RestoreSource.supplied ⟨source, cloneSource volume, true⟩ other home now.node.files)
            (do let _ ← SnapshotManager.createSnapshot config snapshotArgs) third := by
        rintro third snapshotArgs here rfl same isTemporary
        refine .bind createSnapshot fun _ after _ known => .pure trivial ⟨by rwa [found] at ready, ?_⟩
        obtain ⟨other, home, seen, kept, image, imaged, copied⟩ := known
        rw [here, found] at seen
        cases seen
        rintro _ _ ⟨⟩ chosen
        cases named.symm.trans chosen
        rw [named, same, isTemporary, Option.getD_some] at copied
        rw [here] at imaged
        simp only [RestoreSource.supplied, RestoreSource.path, missing, kept, Bool.not_false, Bool.and_self, if_true,
          Option.bind_some]
        exact copied.trans imaged.symm
      split
      · exact .bind (looks (.pure _)) fun _ third _ still => cut _ (still.trans (again.trans same)) rfl rfl rfl
      · exact .bind (looks (.bind (need_within _ _) fun _ => .pure _)) fun _ third _ still =>
          cut _ (still.trans (again.trans same)) rfl rfl rfl

structure Found (source : RestoreSource) (before after : Clocked) : Prop where
  ready : source.temporary = true → ((Files.metadata before.node.files source.volume).getD {}).isReady = true
  supplied : ∀ data pool, Files.metadata before.node.files source.volume = some data → data.storagePool = some pool →
    Files.image after.node.files (source.path pool) = source.supplied data pool before.node.files

theorem findSource : Ok (fun source after => (source = args.restoreSource ∧
    ∀ found, source = some found → Found found now after) ∧ Kept Path.holdsVolume now after)
    (VolumeManager.findSource config args) now := by
  refine .both ?_ (leaves Path.holdsVolume ((VolumeManager.findSource_within config args).mono fun _ issued =>
    issued.avoidsVolumes))
  unfold VolumeManager.findSource
  split
  next id typed named =>
    have splitting : Ok (fun names after => after = now ∧ splitId id = some names) (rsplit id) now := by
      unfold rsplit
      split
      next names split => exact .pure trivial ⟨rfl, split⟩
      · exact .raise trivial
    refine .bind splitting fun names after _ known => ?_
    obtain ⟨rfl, split⟩ := known
    refine .pure trivial ⟨by simp only [CreateVolumeArgs.restoreSource, typed, named, split, Option.bind_some], ?_⟩
    intro found chosen
    split at chosen
    · cases chosen
    · cases chosen
      exact ⟨(by simp), fun _ _ _ _ => rfl⟩
  next id typed named =>
    have chosen : args.restoreSource = some { volume := id, name := cloneSource args.volumeId, temporary := true } := by
      simp only [CreateVolumeArgs.restoreSource, typed, named]
    refine .bind prepareClone fun _ after _ known => .pure trivial ⟨chosen.symm, ?_⟩
    rintro _ ⟨⟩
    exact ⟨fun _ => known.1, known.2⟩
  next cuts clones =>
    have unsourced : args.restoreSource = none := by
      unfold CreateVolumeArgs.restoreSource
      split
      next typed named => cases cuts _ typed named
      next typed named => cases clones _ typed named
      · rfl
    rw [unsourced]
    exact Gives.pure trivial ⟨rfl, by simp⟩

theorem bigEnough {img : ImgFile} {size : Nat} : Ok (fun enough after => after.node = now.node ∧
    (enough = true ↔ ∃ image, Files.image now.node.files img.path = some image ∧ size ≤ image.size))
    (VolumeManager.bigEnough img size) now := by
  have looking : Ok (fun found after => after.node = now.node ∧ found = now.node.files.present img.path)
      (Driver.file (.exists img.path)) now := by
    refine reads trivial fun _ _ _ ran same => ⟨same, ?_⟩
    simp only [FileOp.exec, Prod.mk.injEq, Except.ok.injEq] at ran
    exact ran.1.symm
  refine .bind looking fun there first _ known => ?_
  obtain ⟨same, rfl⟩ := known
  split
  · have sizing : Ok (fun length after => after.node = now.node ∧ ∃ image, Files.image now.node.files img.path =
        some image ∧ length = image.size) (Driver.file (.getsize img.path)) first := by
      refine reads trivial fun _ _ _ ran again => ⟨again.trans same, ?_⟩
      simp only [FileOp.exec] at ran
      split at ran
      next image found =>
        rw [same] at found
        simp only [Prod.mk.injEq, Except.ok.injEq] at ran
        exact ⟨image, found, ran.1.symm⟩
      · cases ran
    refine .bind sizing fun length after _ known => ?_
    obtain ⟨again, image, found, rfl⟩ := known
    exact .pure trivial ⟨again, by simp [found]⟩
  next missing =>
    refine .pure trivial ⟨same, ?_⟩
    have absent : Files.image now.node.files img.path = none := by
      simp only [Files.present, Option.isSome_iff_ne_none, ne_eq, not_not] at missing
      simp [Files.image, missing]
    simp [absent]

theorem growImage {path : Path} {thin : Bool} {size : Nat} : Ok (fun _ after => ∃ image,
    Files.image after.node.files path = some image ∧
      image.size = if thin then size else max ((Files.image now.node.files path).getD .empty).size size)
    (Rawfile.growImage path thin size) now := by
  unfold Rawfile.growImage
  split
  next =>
    refine file fun _ _ _ ran _ _ => ?_
    rcases truncate_exec ran with ⟨-, grown⟩ | ⟨-, _, failed⟩
    · exact ⟨_, grown, by simp⟩
    · cases failed
  next =>
    refine file fun _ _ _ ran _ _ => ?_
    rcases fallocate_exec ran with ⟨reached, -, whole, grown⟩ | ⟨-, _, failed⟩
    · exact ⟨_, grown, by simp [whole rfl]⟩
    · cases failed

theorem restore {img : ImgFile} {source : RestoreSource} : Ok (fun built after =>
    (∃ data size pool image, Files.metadata now.node.files source.volume = some data ∧ data.size = some size ∧
      data.storagePool = some pool ∧ Files.image now.node.files (source.path pool) = some image ∧
      Files.image after.node.files img.path = some image ∧ built = (max args.size size, data.isThin)) ∧
      Kept (fun path => path ≠ img.path ∧ path.isProbe = false) now after)
    (VolumeManager.restore config args img (some source)) now := by
  refine .both ?_ (leaves _ ((VolumeManager.restore_copies config args img (some source)).mono fun operation issued => ?_))
  · refine .bind listSnapshots fun snapshots first _ known => ?_
    obtain ⟨same, data, pool, found, named, -⟩ := known
    split
    · exact .raise trivial
    · refine .bind (metadata source.volume) fun again second _ known => ?_
      obtain ⟨still, seen⟩ := known
      rw [same, found] at seen
      cases seen
      refine .bind need fun size third _ known => ?_
      obtain ⟨rfl, sized⟩ := known
      have copying : Ok (fun _ after => ∃ image, Files.image now.node.files (source.path pool) = some image ∧
          Files.image after.node.files img.path = some image)
          (SnapshotManager.restoreSnapshot config source.volume source.name img source.temporary) third := by
        refine .bind (metadata source.volume) fun data fourth _ known => ?_
        refine .bind (snapshotsPool config source.volume) fun chosen fifth _ chosen => ?_
        obtain ⟨later, data, seen, rfl⟩ := chosen
        rw [known.1, still, same, found] at seen
        cases seen
        have probing : ∀ pool, (if copyOnWrite config data then SnapshotManager.isCowSupported pool source.volume
            source.temporary img else pure false).Within Op.lawful (Op.avoids fun path => path.isProbe = false) := by
          intro pool
          split
          · exact SnapshotManager.isCowSupported_within (fun _ reads => reads.avoids)
              (fun _ only path plain touched => by simp [only path touched] at plain) _ _ _ _
          · exact .pure _
        refine .bind (leaves _ (probing _)) fun _ sixth _ last => ?_
        have here : fifth.node = now.node := later.trans (known.1.trans (still.trans same))
        refine (copyFile (by simp [ImgFile.path])).weaken (fun _ _ => trivial) fun _ after _ known => ?_
        rw [Files.image_congr (last _ rfl), here, named, Option.getD_some] at known
        exact known.1
      refine .bind copying fun _ after _ known => .pure trivial ?_
      obtain ⟨image, imaged, copied⟩ := known
      exact ⟨data, size, pool, image, found, sized, named, imaged, copied, rfl⟩
  · intro path other
    cases issued with
    | looking reads => exact reads.untouched path
    | copy => exact other.1
    | copied => exact other.1
    | probe makes only => exact fun touched => by simp [only path touched] at other

end Loose

end Rawfile
