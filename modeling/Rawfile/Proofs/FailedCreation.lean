import Rawfile.Proofs.Copying
import Rawfile.Proofs.CrashedDeletion

/-! Deleting what attempts to create a volume left behind. The first patch of
an attempt lacks `img_file` and `size`, which a deletion reads. -/

namespace Rawfile
open Effects World

variable (volume : VolumeId)

def Path.isSnapshot : Path → Bool
  | .snapshot _ target _ _ | .creating _ target _ _ => target = volume
  | _ => false

structure Op.tidy (volume : VolumeId) (operation : Op) : Prop where
  fitting : operation.fitting
  stays : ∀ pool, operation.touches (.volumeDir pool volume) → operation.change ≠ some .remove
  record : ¬ operation.touches (.metaFile volume)
  snapshots : ∀ path, path.isSnapshot volume = true → operation.touches path →
    operation.change ≠ some .make ∧ operation.change ≠ some .write

structure Traced (config : DriverConfig) (volume : VolumeId) (data : Meta) (files : Files) : Prop where
  pooled : ∃ pool, data.storagePool = some pool ∧ pool ∈ config.storagePools ∧
    files.lookup (.volumeDir pool volume) = some .directory
  named : ∀ home, data.imgFile = some home → files.lookup (.volumeDir home volume) = some .directory
  sized : data.size.isSome = data.imgFile.isSome

structure Attempted (config : DriverConfig) (volume : VolumeId) (now : Clocked) : Prop where
  typed : now.node.files.Typed fun path => path.volume = some volume
  unsnapped : ∀ path : Path, path.isSnapshot volume = true → now.node.files.lookup path = none
  recorded : ∀ entry, now.node.files.lookup (.metaFile volume) = some entry →
    ∃ data, entry = .file (.json data) ∧ Traced config volume data now.node.files

structure Stays (volume : VolumeId) (before after : Clocked) : Prop where
  record : after.node.files.lookup (.metaFile volume) = before.node.files.lookup (.metaFile volume)
  homes : ∀ pool, before.node.files.lookup (.volumeDir pool volume) = some .directory →
    after.node.files.lookup (.volumeDir pool volume) = some .directory

section Tidiness
variable {volume : VolumeId} {operation : Op} {args : CreateVolumeArgs}

theorem Op.reads.change (reads : operation.reads) : operation.change = none := by
  cases operation with
  | file operation => cases operation <;> first | rfl | cases reads
  | lock operation => cases reads
  | _ => rfl

theorem Op.reads.tidy (reads : operation.reads) : operation.tidy volume where
  fitting path touched := absurd touched (reads.untouched path)
  stays _ _ := by simp [reads.change]
  record := reads.untouched _
  snapshots path _ touched := absurd touched (reads.untouched path)

theorem FileOp.tidy_make {operation : FileOp} (makes : operation.change = some .make)
    (named : ∀ path, operation.touches path → path.isDirName = true) : Op.tidy volume (.file operation) where
  fitting path touched := ⟨fun _ => named path touched, by simp [Op.change, makes]⟩
  stays _ _ := by simp [Op.change, makes]
  record touched := by cases named _ touched
  snapshots path snapshot touched := by
    have dir := named path touched
    cases path <;> first | cases snapshot | cases dir

private theorem FileOp.tidy_write {operation : FileOp} (writes : operation.change = some .write)
    (named : ∀ path, operation.touches path → path.isDirName = false ∧ path ≠ .metaFile volume ∧
      path.isSnapshot volume = false) : Op.tidy volume (.file operation) where
  fitting path touched := ⟨by simp [Op.change, writes], fun _ => (named path touched).1⟩
  stays _ _ := by simp [Op.change, writes]
  record touched := (named _ touched).2.1 rfl
  snapshots path snapshot touched := by cases snapshot.symm.trans (named path touched).2.2

private theorem FileOp.tidy_unlink {operation : FileOp} (unlinks : operation.change = some .unlink)
    (other : ¬ operation.touches (.metaFile volume)) : Op.tidy volume (.file operation) where
  fitting _ _ := by simp [Op.change, unlinks]
  stays _ _ := by simp [Op.change, unlinks]
  record := other
  snapshots _ _ _ := by simp [Op.change, unlinks]

theorem LockOp.tidy (operation : LockOp) : Op.tidy volume (.lock operation) := by
  cases operation with
  | acquire target =>
    refine ⟨?_, nofun, nofun, ?_⟩
    · rintro _ rfl
      exact ⟨nofun, fun _ => rfl⟩
    · rintro _ snapshot rfl
      cases snapshot
  | release target => exact ⟨fun _ _ => ⟨nofun, nofun⟩, nofun, nofun, fun _ _ _ => ⟨nofun, nofun⟩⟩

private theorem FileOp.tidy_probe {operation : FileOp} (makes : operation.change ≠ some .make)
    (only : ∀ path, operation.touches path → path.isProbe = true) : Op.tidy volume (.file operation) where
  fitting path touched := ⟨fun made => absurd made makes, fun _ => Path.isProbe.plain (only path touched)⟩
  stays pool touched := by cases only _ touched
  record touched := by cases only _ touched
  snapshots path snapshot touched := by
    have probe := only path touched
    cases path <;> first | cases snapshot | cases probe

theorem ImageOp.tidy {pool : PoolName} {target : VolumeId} (issued : ImageOp (.imgFile pool target) operation) :
    operation.tidy volume := by
  cases issued
  case looking reads => exact reads.tidy
  case probe makes only => exact FileOp.tidy_probe makes only
  all_goals
    refine FileOp.tidy_write rfl ?_
    rintro _ rfl
    exact ⟨rfl, nofun, rfl⟩

theorem CreateSnapshotOp.tidy {name : String} {temporary : Bool} {source : VolumeId} (other : source ≠ volume)
    (issued : CreateSnapshotOp source name temporary operation) : operation.tidy volume := by
  cases issued
  case looking reads => exact reads.tidy
  case acquire => exact LockOp.tidy _
  case release => exact LockOp.tidy _
  case makeDir pool =>
    refine FileOp.tidy_make rfl fun path above => ?_
    rcases Path.above_snapshotsDir above with rfl | ⟨_, rfl⟩ <;> rfl
  case remove | unmark => exact FileOp.tidy_unlink rfl nofun
  case freeze | unfreeze => exact ⟨nofun, nofun, nofun, nofun⟩
  all_goals
    refine FileOp.tidy_write rfl ?_
    rintro _ rfl
    exact ⟨rfl, nofun, by simp [Path.isSnapshot, other]⟩

theorem DeleteSnapshotOp.tidy {name : String} {temporary : Bool} {source : VolumeId}
    (issued : DeleteSnapshotOp source name temporary operation) : operation.tidy volume := by
  cases issued
  case looking reads => exact reads.tidy
  case acquire => exact LockOp.tidy _
  case release => exact LockOp.tidy _
  all_goals exact FileOp.tidy_unlink rfl nofun

end Tidiness

section
variable {config : DriverConfig} {volume : VolumeId} {before now after : Clocked} {data : Meta}

theorem Traced.standing (traced : Traced config volume data now.node.files) (standing : Stays volume now after) :
    Traced config volume data after.node.files := by
  obtain ⟨pool, pooled, configured, home⟩ := traced.pooled
  exact ⟨⟨pool, pooled, configured, standing.homes pool home⟩,
    fun place named => standing.homes place (traced.named place named), traced.sized⟩

theorem Stays.refl (volume : VolumeId) (now : Clocked) : Stays volume now now := ⟨rfl, fun _ => id⟩

theorem Stays.trans {first second third : Clocked} (one : Stays volume first second)
    (two : Stays volume second third) : Stays volume first third :=
  ⟨two.record.trans one.record, fun pool home => two.homes pool (one.homes pool home)⟩

theorem Attempted.exec {operation : Op} {answer : Answer} (attempted : Attempted config volume now)
    (tidy : operation.tidy volume) : Attempted config volume (loose.exec operation answer now).2 ∧
      Stays volume now (loose.exec operation answer now).2 := by
  have standing : Stays volume now (loose.exec operation answer now).2 :=
    ⟨operation.exec_lookup 0 answer now.node tidy.record, fun pool home => Op.exec_standing (tidy.stays pool) home⟩
  refine ⟨⟨attempted.typed.exec tidy.fitting, fun path snapshot => ?_, fun entry found => ?_⟩, standing⟩
  · exact Op.exec_missing (tidy.snapshots path snapshot) (attempted.unsnapped path snapshot)
  · rw [standing.record] at found
    obtain ⟨data, same, traced⟩ := attempted.recorded entry found
    exact ⟨data, same, traced.standing standing⟩

theorem tidies {α : Type} {program : Driver α} (within : program.Within Op.lawful (Op.tidy volume))
    (attempted : Attempted config volume now) :
    loose.Surely (Attempted config volume) (fun _ after => Stays volume now after) program now := by
  refine (Surely.ofWithin (fun state => Attempted config volume state ∧ Stays volume now state) within
    (fun operation answer state => Op.exec_lawful operation 0 answer state.node)
    (fun operation answer state tidy _ known => ?_) ⟨attempted, .refl volume now⟩).weaken
    (fun _ known => known.1) fun _ _ _ known => known.2
  have next : Attempted config volume (loose.exec operation answer state).2 ∧ _ := known.1.exec tidy
  exact ⟨next.1, known.2.trans next.2⟩

theorem tidied {α : Type} {program : Driver α} {post : α → Clocked → Prop}
    (within : program.Within Op.lawful (Op.tidy volume)) (ok : Loose.Ok post program now)
    (attempted : Attempted config volume now) :
    loose.Gives (Attempted config volume) (fun value after => Stays volume now after ∧ post value after) program now :=
  .both (.ofEnds (tidies within attempted)) ok

theorem patches {pool : PoolName} {patch : Meta} (attempted : Attempted config volume now)
    (traced : Traced config volume (((Files.metadata now.node.files volume).getD {}).merge patch) now.node.files) :
    loose.Gives (Attempted config volume) (fun _ after =>
      Files.metadata after.node.files volume = some (((Files.metadata now.node.files volume).getD {}).merge patch) ∧
        Loose.Kept (fun path => path ≠ .metaFile volume) now after)
      (Rawfile.patchMetadata config volume pool patch) now := by
  refine .bind (tidied (metadataOr_within (fun _ reads => reads.tidy) _) (Loose.metadataOr _) attempted)
    fun old first attempted known => ?_
  obtain ⟨-, same, rfl⟩ := known
  refine .bind (tidied (getVolumePath_within _ _ _) Loose.getVolumePath attempted) fun _ second attempted known => ?_
  obtain ⟨-, again, -⟩ := known
  have here : second.node = now.node := by rw [again, same]
  generalize (Files.metadata now.node.files volume).getD {} = old at traced ⊢
  refine Gives.perform attempted fun answer reply after _ executed => ?_
  obtain ⟨ran, -, -⟩ := @Calm.file_exec second (.installMeta volume old patch) answer after reply executed
  have kept : Loose.Kept (fun path => path ≠ .metaFile volume) now after := by
    intro path other
    rw [(@Calm.file_agrees second (.installMeta volume old patch) answer after reply executed).files path other, here]
  rcases installMeta_cases ran with ⟨rfl, installed⟩ | ⟨unchanged, ⟨error, rfl⟩, -⟩
  · refine ⟨⟨fun path entry own found => ?_, fun path snapshot => ?_, fun entry found => ?_⟩, fun _ _ => ⟨installed, kept⟩⟩
    · by_cases record : path = .metaFile volume
      · subst record
        cases found.symm.trans (Files.metadata_iff.mp installed)
        simp [Path.isDirName]
      · rw [kept path record, ← here] at found
        exact attempted.typed path entry own found
    · rw [kept path (by rintro rfl; cases snapshot), ← here]
      exact attempted.unsnapped path snapshot
    · cases found.symm.trans (Files.metadata_iff.mp installed)
      obtain ⟨pool, pooled, configured, home⟩ := traced.pooled
      refine ⟨_, rfl, ⟨pool, pooled, configured, ?_⟩, fun place named => ?_, traced.sized⟩
      · rw [kept (.volumeDir pool volume) (by simp)]
        exact home
      · rw [kept (.volumeDir place volume) (by simp)]
        exact traced.named place named
  · refine ⟨⟨?_, ?_, ?_⟩, by simp⟩
    · rw [unchanged]
      exact attempted.typed
    · rw [unchanged]
      exact attempted.unsnapped
    · rw [unchanged]
      exact attempted.recorded

private theorem prepareClone_refused (attempted : Attempted config volume now)
    (unready : ((Files.metadata now.node.files volume).getD {}).isReady = false) :
    loose.Gives (Attempted config volume) (fun _ _ => False) (VolumeManager.prepareClone config volume volume) now := by
  refine .bind (tidied (metadataOr_within (fun _ reads => reads.tidy) _) (Loose.metadataOr _) attempted)
    fun data first attempted known => ?_
  obtain ⟨-, -, rfl⟩ := known
  rw [unready]
  exact .raise attempted

private theorem findSource_tidy {args : CreateVolumeArgs} (attempted : Attempted config args.volumeId now)
    (unready : ((Files.metadata now.node.files args.volumeId).getD {}).isReady = false) :
    loose.Gives (Attempted config args.volumeId) (fun _ after => Stays args.volumeId now after)
      (VolumeManager.findSource config args) now := by
  by_cases itself : args.sourceType = some .volume ∧ args.source = some args.volumeId
  · simp only [VolumeManager.findSource, itself]
    exact .bind (prepareClone_refused attempted unready) fun _ _ _ impossible => impossible.elim
  · refine .ofEnds (tidies ((VolumeManager.findSource_within config args).mono fun operation issued => ?_) attempted)
    cases issued with
    | looking reads => exact reads.tidy
    | cut id clone issued => exact issued.tidy fun same => itself ⟨clone.1, same ▸ clone.2⟩
    | drop id clone issued => exact issued.tidy

theorem Attempted.found (attempted : Attempted config volume now)
    (found : Files.metadata now.node.files volume = some data) : Traced config volume data now.node.files := by
  obtain ⟨other, same, traced⟩ := attempted.recorded _ (Files.metadata_iff.mp found)
  cases same
  exact traced

theorem Attempted.patched {patch : Meta} {pool : PoolName} (attempted : Attempted config volume now)
    (pooled : patch.storagePool = some pool) (configured : pool ∈ config.storagePools)
    (home : now.node.files.lookup (.volumeDir pool volume) = some .directory)
    (named : patch.imgFile = none ∧ patch.size = none ∨ patch.imgFile = some pool ∧ patch.size.isSome = true) :
    Traced config volume (((Files.metadata now.node.files volume).getD {}).merge patch) now.node.files := by
  refine ⟨⟨pool, by simp [Meta.merge, pooled], configured, home⟩, ?_, ?_⟩
  · intro place chosen
    rcases named with ⟨unnamed, -⟩ | ⟨named, -⟩
    · cases found : Files.metadata now.node.files volume with
      | none => simp [Meta.merge, unnamed, found] at chosen
      | some data =>
        have chosen : data.imgFile = some place := by simpa [Meta.merge, unnamed, found] using chosen
        exact (attempted.found found).named place chosen
    · have chosen : pool = place := by simpa [Meta.merge, named] using chosen
      rw [← chosen]
      exact home
  · rcases named with ⟨unnamed, unsized⟩ | ⟨named, sized⟩
    · cases found : Files.metadata now.node.files volume with
      | none => simp [Meta.merge, unnamed, unsized]
      | some data =>
        have agrees := (attempted.found found).sized
        simpa [Meta.merge, unnamed, unsized] using agrees
    · obtain ⟨size, sized⟩ := Option.isSome_iff_exists.mp sized
      simp [Meta.merge, named, sized]

theorem buildImage_attempts {args : CreateVolumeArgs} {source : Option RestoreSource}
    (configured : args.storagePool ∈ config.storagePools) (attempted : Attempted config args.volumeId now)
    (home : now.node.files.lookup (.volumeDir args.storagePool args.volumeId) = some .directory) :
    loose.Gives (Attempted config args.volumeId) (fun _ _ => True)
      (VolumeManager.buildImage config args source) now := by
  have step : ∀ {α : Type} {program : Driver α} {now : Clocked}, program.Within Op.lawful (Op.tidy args.volumeId) →
      Attempted config args.volumeId now → loose.Gives (Attempted config args.volumeId)
        (fun _ after => Stays args.volumeId now after) program now :=
    fun within attempted => .ofEnds (tidies within attempted)
  have directory : ∀ temporary, Op.tidy args.volumeId
      (.file (.mkdirs (.snapshotsDir args.storagePool args.volumeId temporary))) := by
    refine fun temporary => FileOp.tidy_make rfl fun path above => ?_
    rcases Path.above_snapshotsDir above with rfl | ⟨_, rfl⟩ <;> rfl
  refine .bind (step ((VolumeManager.bigEnough_within _ _).mono fun _ issued => issued.tidy) attempted)
    fun enough first attempted one => ?_
  split
  · exact .pure attempted trivial
  · refine .bind (step (.perform (directory false)) attempted) fun _ second attempted two => ?_
    refine .bind (step (.perform (directory true)) attempted) fun _ third attempted three => ?_
    refine .bind (step (.perform (Op.reads.tidy trivial)) attempted) fun createdAt fourth attempted four => ?_
    have home := ((one.trans two).trans (three.trans four)).homes _ home
    refine .bind (patches attempted (attempted.patched rfl configured home (.inr ⟨rfl, rfl⟩)))
      fun _ fifth attempted known => ?_
    obtain ⟨described, -⟩ := known
    refine .bind (step (.perform (ImageOp.touch.tidy)) attempted) fun _ sixth attempted six => ?_
    refine .bind (step ((VolumeManager.restore_within _ _ _ _).mono fun _ issued => issued.tidy) attempted)
      fun built seventh attempted seven => ?_
    refine .bind (step (growImage_within (ImageOp.truncate _).tidy (ImageOp.fallocate _).tidy) attempted)
      fun _ eighth attempted eight => ?_
    have found := (Files.metadata_congr ((six.trans seven).trans eight).record).trans described
    have traced := attempted.found found
    refine (patches attempted ?_).weaken (fun _ attempted => attempted) fun _ _ _ _ => trivial
    rw [found]
    exact ⟨traced.pooled, traced.named, traced.sized⟩

theorem cleaned {body cleanup : Driver Unit} (inside : loose.Gives (Attempted config volume) (fun _ _ => True) body now)
    (within : cleanup.Within Op.lawful (Op.tidy volume)) :
    loose.Gives (Attempted config volume) (fun _ _ => True) (body.tryFinally cleanup) now := by
  refine .tryFinally inside (fun _ state attempted _ => ?_) fun state attempted => ?_
  · exact (tidies within attempted).weaken (fun _ attempted => attempted) fun _ _ _ _ _ _ => trivial
  · exact (tidies within attempted).weaken (fun _ attempted => attempted) fun _ _ _ _ => trivial

private theorem removeCloneSource_tidy (args : CreateVolumeArgs) :
    (VolumeManager.removeCloneSource config args).Within Op.lawful (Op.tidy args.volumeId) := by
  unfold VolumeManager.removeCloneSource
  split
  · exact (SnapshotManager.deleteSnapshot_within _ _ _ _).mono fun _ issued => issued.tidy
  · exact .pure _

/-- However far a creation gets, it leaves no more than an attempt at the volume. -/
theorem createVolume_attempts {args : CreateVolumeArgs} (attempted : Attempted config args.volumeId now) :
    loose.Gives (Attempted config args.volumeId) (fun _ _ => True) (VolumeManager.createVolume config args) now := by
  unfold VolumeManager.createVolume
  split
  · exact .raise attempted
  · refine .bind (tidied (getVolumePath_within _ _ _) Loose.getVolumePath attempted) fun dir first attempted known => ?_
    obtain ⟨-, rfl, rfl, configured⟩ := known
    have making : Loose.Ok (fun _ after => after.node.files.lookup (.volumeDir args.storagePool args.volumeId) =
        some .directory) (Driver.file (.mkdir (.volumeDir args.storagePool args.volumeId) true)) first := by
      refine Loose.file fun answer _ after ran _ _ => ?_
      exact mkdir_stands ran
    refine .bind (tidied (.perform (FileOp.tidy_make rfl fun path same => ?_)) making attempted)
      fun _ second attempted known => ?_
    · cases same
      rfl
    obtain ⟨-, home⟩ := known
    refine .bind (.ofEnds (tidies (.perform (FileOp.tidy_make rfl fun path above => ?_)) attempted))
      fun _ third attempted standing => ?_
    · cases Path.above_root rfl above
      rfl
    have home := standing.homes _ home
    refine .bind (patches attempted (attempted.patched rfl configured home (.inl ⟨rfl, rfl⟩)))
      fun _ fourth attempted known => ?_
    obtain ⟨opened, kept⟩ := known
    have home := (kept (.volumeDir args.storagePool args.volumeId) nofun).trans home
    have unready : ((Files.metadata fourth.node.files args.volumeId).getD {}).isReady = false := by
      rw [opened]
      rfl
    refine cleaned ?_ (removeCloneSource_tidy args)
    refine .bind (findSource_tidy attempted unready) fun source fifth attempted five => ?_
    refine .bind (.ofEnds (tidies (.perform (LockOp.tidy _)) attempted)) fun _ locked attempted six => ?_
    exact cleaned (buildImage_attempts configured attempted (six.homes _ (five.homes _ home)))
      (.perform (LockOp.tidy _))

end

section Elsewhere
variable {config : DriverConfig} {volume : VolumeId} {pool other : PoolName} {before now : Clocked}

abbrev Spared (volume : VolumeId) (other : PoolName) (before now : Clocked) : Prop :=
  Loose.Kept (fun path => path = .volumeDir other volume) before now

def InPool (volume : VolumeId) (pool : PoolName) (now : Clocked) : Prop :=
  ∃ data, Files.metadata now.node.files volume = some data ∧ data.storagePool = some pool

theorem spares_part {α : Type} {program : Driver α} {post : α → Clocked → Prop}
    (within : program.Within Op.lawful (Op.avoids fun path => path = .metaFile volume ∨ path = .volumeDir other volume))
    (ok : Loose.Ok post program now) (spared : Spared volume other before now) (pooled : InPool volume pool now) :
    loose.Gives (Spared volume other before) (fun value after => InPool volume pool after ∧ post value after) program
      now := by
  refine .both ((Gives.ofEnds (Loose.keeps within)).weaken (fun state kept => ?_) fun _ state _ kept => ?_) ok
  · exact spared.trans (kept.mono fun _ => .inr)
  · obtain ⟨data, found, named⟩ := pooled
    exact ⟨data, (Files.metadata_congr (kept _ (.inl rfl))).trans found, named⟩

theorem spares {α : Type} {program : Driver α}
    (within : program.Within Op.lawful (Op.avoids fun path => path = .metaFile volume ∨ path = .volumeDir other volume))
    (spared : Spared volume other before now) (pooled : InPool volume pool now) :
    loose.Gives (Spared volume other before) (fun _ after => InPool volume pool after) program now :=
  (spares_part within (.ofEnds (Surely.any _ _)) spared pooled).weaken (fun _ spared => spared) fun _ _ _ known => known.1

private theorem removeMetadata_spares (different : other ≠ pool) :
    (VolumeManager.removeMetadata config volume pool).Within Op.lawful
      (Op.avoids fun path => path = .volumeDir other volume) := by
  refine .performThen (fun _ _ => id) fun listing inside => .bind (.forEach fun path member => .perform ?_) fun _ =>
    .bind (VolumeManager.rmdirIfPresent_within ?_) fun _ =>
    .bindReturns (getVolumePath_within _ _ _) (getVolumePath_returns _ _ _) ?_
  · rintro _ rfl same
    have parent := inside path member
    cases same
    cases parent
  · rintro _ rfl ⟨⟩
  · rintro _ rfl
    refine VolumeManager.rmdirIfPresent_within ?_
    rintro _ rfl same
    cases same
    exact different rfl

private theorem reading (operation : Op) (reads : operation.reads) :
    operation.avoids fun path => path = .metaFile volume ∨ path = .volumeDir other volume :=
  reads.avoids

theorem destroyVolume_spares (different : other ≠ pool) (spared : Spared volume other before now)
    (pooled : InPool volume pool now) :
    loose.Gives (Spared volume other before) (fun _ _ => True) (VolumeManager.destroyVolume config volume false) now := by
  unfold VolumeManager.destroyVolume
  rw [if_neg (by simp)]
  refine .bind (spares (snapshotsDir_within reading _ _ _) spared pooled) fun _ first spared pooled => ?_
  refine .bind (spares (.perform (reading _ trivial)) spared pooled) fun listing second spared pooled => ?_
  refine .bind (spares (VolumeManager.realSnapshots_within reading _ _ _) spared pooled)
    fun snapshots third spared pooled => ?_
  refine .bind (spares (snapshotsDir_within reading _ _ _) spared pooled) fun _ fourth spared pooled => ?_
  refine .bind (spares (.perform (reading _ trivial)) spared pooled) fun temporaries fifth spared pooled => ?_
  refine .bind (spares_part (metadataOr_within reading _) (Loose.metadataOr _) spared pooled)
    fun data sixth spared known => ?_
  obtain ⟨-, -, rfl⟩ := known
  obtain ⟨data, found, named⟩ := pooled
  rw [found, Option.getD_some, named, Option.getD_some]
  refine (Loose.keeps (.bindReturns (imgFile_within (fun _ reads => reads.avoids) _) (imgFile_returns _) fun img own =>
    .bind (.perform ?_) fun _ => .bind (VolumeManager.removeSnapshotDirs_within (fun _ reads => reads.avoids) ?_ _ _ _)
      fun _ => ?_)).weaken (fun _ kept => spared.trans kept) fun _ _ _ _ _ _ => trivial
  · rintro _ rfl ⟨⟩
  · rintro pool temporary _ rfl ⟨⟩
  · split
    · exact removeMetadata_spares different
    · exact .pure _

private theorem lock_avoids {operation : LockOp} :
    Op.avoids (fun path => path = .metaFile volume ∨ path = .volumeDir other volume) (.lock operation) := by
  rintro path (rfl | rfl) touched <;> cases operation <;> cases touched

private theorem lock_spares {operation : LockOp} : (Driver.lock operation).Within Op.lawful
    (Op.avoids fun path => path = .metaFile volume ∨ path = .volumeDir other volume) :=
  .perform lock_avoids

theorem markDeleted_spares {time : Nat} {chosen : Option PoolName} (spared : Spared volume other before now)
    (pooled : InPool volume pool now) :
    loose.Gives (Spared volume other before) (fun _ after => InPool volume pool after) (withVolLock volume (do
      patchMetadata config volume (← need "storage_pool" chosen) (VolumeManager.deletingPatch time))) now := by
  refine .bind (spares lock_spares spared pooled) fun _ locked spared pooled => ?_
  refine .tryFinally ?_ (fun _ state spared pooled => spares lock_spares spared pooled) fun state spared => ?_
  · refine .bind (spares (need_within _ _) spared pooled) fun place first spared pooled => ?_
    refine .bind (spares_part (metadataOr_within reading _) (Loose.metadataOr _) spared pooled)
      fun old second spared known => ?_
    obtain ⟨⟨data, found, named⟩, same, rfl⟩ := known
    rw [same] at found
    rw [found, Option.getD_some]
    refine .bind (spares (getVolumePath_within _ _ _) spared ⟨data, by rw [same]; exact found, named⟩)
      fun _ third spared pooled => ?_
    refine Gives.perform spared fun answer reply after _ executed => ?_
    obtain ⟨ran, -, -⟩ := @Calm.file_exec third (.installMeta volume data (VolumeManager.deletingPatch time))
      answer after reply executed
    refine ⟨spared.trans ?_, ?_⟩
    · rintro _ rfl
      have kept := (FileOp.installMeta volume data (VolumeManager.deletingPatch time)).exec_lookup answer
        third.node.files (show ¬ Path.volumeDir other volume = .metaFile volume from nofun)
      rwa [ran] at kept
    · rintro _ rfl
      rcases installMeta_cases ran with ⟨-, installed⟩ | ⟨-, ⟨error, failed⟩, -⟩
      · exact ⟨_, installed, named⟩
      · cases failed
  · exact (Loose.keeps lock_spares).weaken (fun _ kept => spared.trans (kept.mono fun _ => .inr)) fun _ _ _ _ => trivial

private theorem gcIfNeeded_spares (different : other ≠ pool) (spared : Spared volume other before now)
    (pooled : InPool volume pool now) :
    loose.Gives (Spared volume other before) (fun _ _ => True) (VolumeManager.gcIfNeeded config volume false) now := by
  refine .bind (spares (withVolLock_within lock_avoids lock_avoids (metadataOr_within reading _)) spared pooled)
    fun data first spared pooled => ?_
  split
  · refine .bind (spares (.perform (reading _ trivial)) spared pooled) fun time second spared pooled => ?_
    split
    · exact .bind (destroyVolume_spares different spared pooled) fun _ _ spared _ => .pure spared trivial
    · exact .pure spared trivial
  · exact .pure spared trivial

/-- A deletion spares the pools that the volume is not in. -/
theorem deleteVolume_spares (different : other ≠ pool) (pooled : InPool volume pool now) :
    loose.Gives (Spared volume other now) (fun _ _ => True) (VolumeManager.deleteVolume config volume) now := by
  have spared : Spared volume other now now := fun _ _ => rfl
  refine .bind (spares_part (metadataOr_within reading _) (Loose.metadataOr _) spared pooled)
    fun data first spared known => ?_
  obtain ⟨pooled, -⟩ := known
  refine .bind (spares (getVolumePath_within _ _ _) spared pooled) fun dir second spared pooled => ?_
  refine .bind (spares (.perform (reading _ trivial)) spared pooled) fun present third spared pooled => ?_
  split
  · exact .pure spared trivial
  · refine .bind (spares (imgFile_within reading _) spared pooled) fun img fourth spared pooled => ?_
    refine .bind (spares (imgSize_within reading _) spared pooled) fun size fifth spared pooled => ?_
    refine .bind (spares (attachedLoops_within reading _) spared pooled) fun loops sixth spared pooled => ?_
    split
    · exact .raise spared
    · refine .bind (spares (.perform (reading _ trivial)) spared pooled) fun time seventh spared pooled => ?_
      refine .bind (markDeleted_spares spared pooled) fun _ eighth spared pooled => ?_
      exact .bind (gcIfNeeded_spares different spared pooled) fun _ _ spared _ => .pure spared trivial

private theorem deleteVolume_elsewhere {capacity : PoolName → Nat} (different : other ≠ pool) (pooled : InPool volume pool now) :
    (calm capacity).Ends (fun _ after => Spared volume other now after) (VolumeManager.deleteVolume config volume) now := by
  have spares : loose.Ends (fun _ after => Spared volume other now after) (VolumeManager.deleteVolume config volume) now :=
    Surely.weaken (deleteVolume_spares different pooled) (fun _ _ => trivial) fun _ _ spared _ => spared
  exact spares.restrict rfl fun _ _ _ _ => trivial

end Elsewhere

def Gone (now : Clocked) : Prop :=
  now.node.files.lookup (.metaDir volume) = none ∧ ∀ pool, now.node.files.lookup (.volumeDir pool volume) = none

def Deleted (outcome : Except Err Nat) (after : Clocked) : Prop :=
  (∃ size, outcome = .ok size) ∧ Gone volume after

/-- The metadata name the image, the volume has a directory in their pool only, and no file that tried out a copy is
left in it; or there is nothing to delete. -/
def Deletable (now : Clocked) : Prop :=
  (∃ data, Files.metadata now.node.files volume = some data ∧ data.imgFile.isSome = true ∧
    (∀ pool, data.storagePool ≠ some pool → now.node.files.lookup (.volumeDir pool volume) = none) ∧
    now.node.files.Unprobed volume) ∨ Gone volume now

/-- An attempt to create the volume that ends, raises or stops anywhere, or
something that has nothing to do with the volume. -/
inductive Attempting (config : DriverConfig) (volume : VolumeId) (before after : Clocked) : Prop
  | attempt (args : CreateVolumeArgs) (own : args.volumeId = volume)
      (passes : loose.Passes (VolumeManager.createVolume config args) before after)
  | elsewhere (same : ∀ path : Path, path.volume = some volume →
      after.node.files.lookup path = before.node.files.lookup path)

section
variable {config : DriverConfig} {volume : VolumeId} {before after initial now : Clocked} {capacity : PoolName → Nat}

theorem Attempted.elsewhere (attempted : Attempted config volume before)
    (same : ∀ path : Path, path.volume = some volume → after.node.files.lookup path = before.node.files.lookup path) :
    Attempted config volume after := by
  refine ⟨fun path entry own found => ?_, fun path snapshot => ?_, fun entry found => ?_⟩
  · rw [same path own] at found
    exact attempted.typed path entry own found
  · rw [same path (by cases path <;> first | cases snapshot | exact congrArg some (of_decide_eq_true snapshot))]
    exact attempted.unsnapped path snapshot
  · rw [same _ rfl] at found
    obtain ⟨data, json, traced⟩ := attempted.recorded entry found
    exact ⟨data, json, traced.standing ⟨same _ rfl, fun pool home => (same _ rfl).trans home⟩⟩

theorem Attempting.attempted (step : Attempting config volume before after) (attempted : Attempted config volume before) :
    Attempted config volume after := by
  cases step with
  | attempt args own passes =>
    subst own
    exact (createVolume_attempts attempted).passes passes
  | elsewhere same => exact attempted.elsewhere same

theorem Attempted.run (unborn : ∀ path : Path, path.volume = some volume → initial.node.files.lookup path = none)
    (history : Relation.ReflTransGen (Attempting config volume) initial now) : Attempted config volume now := by
  induction history with
  | refl =>
    refine ⟨fun path entry own found => ?_, fun path snapshot => ?_, fun entry found => ?_⟩
    · cases (unborn path own).symm.trans found
    · exact unborn path (by cases path <;> first | cases snapshot | exact congrArg some (of_decide_eq_true snapshot))
    · cases (unborn _ rfl).symm.trans found
  | tail _ step ih => exact step.attempted ih

private theorem deleteVolume_unnamed {data : Meta} {pool : PoolName} (found : Files.metadata now.node.files volume = some data)
    (pooled : data.storagePool = some pool) (configured : pool ∈ config.storagePools)
    (home : now.node.files.lookup (.volumeDir pool volume) = some .directory) (unnamed : data.imgFile = none) :
    (calm capacity).Yields (.error (.keyError "img_file")) (VolumeManager.deleteVolume config volume) now := by
  refine (Calm.metadataOr found).bind ?_
  rw [pooled, Option.getD_some]
  refine (Calm.getVolumePath configured).bind ((Calm.exists _).bind ?_)
  have present : now.node.files.present (.volumeDir pool volume) = true := by simp [Files.present, home]
  simp only [present, Bool.not_true, Bool.false_eq_true, if_false]
  refine (((Calm.metadata found).bind ?_).failing)
  rw [unnamed]
  exact (World.Yields.raise _ _).failing

private theorem DeleteVolumeOp.avoids_probes {operation : Op} (issued : DeleteVolumeOp volume operation) :
    operation.avoids fun path => path.isProbe = true := by
  intro path probe touched
  cases issued with
  | deleting =>
    cases touched
    cases probe
  | collecting collect =>
    cases collect with
    | acquire | release =>
      cases touched
      cases probe
    | destroying destroy =>
      cases destroy with
      | removeImage =>
        cases touched
        cases probe
      | cleaning cleanup =>
        cases cleanup with
        | looking reads => exact reads.untouched path touched
        | removeMeta _ inside =>
          cases touched
          cases path <;> first | (cases inside; done) | cases probe
        | _ =>
          cases touched
          cases probe

/-- A deletion removes no file that tried out a copy, so the directory such a file is in stays. -/
theorem deleteVolume_probed (deletes : (calm capacity).Ends (Deleted volume) (VolumeManager.deleteVolume config volume) now) :
    now.node.files.Unprobed volume := by
  have keeps : loose.Ends (fun _ after => Loose.Kept (fun path => path.isProbe = true) now after)
      (VolumeManager.deleteVolume config volume) now :=
    (Loose.keeps ((VolumeManager.deleteVolume_within config volume).mono fun _ issued => issued.avoids_probes)).weaken
      (fun _ _ => trivial) fun _ _ _ kept => kept
  have spared : (calm capacity).Ends (fun _ after => Loose.Kept (fun path => path.isProbe = true) now after)
      (VolumeManager.deleteVolume config volume) now := keeps.restrict rfl fun _ _ _ _ => trivial
  obtain ⟨_, after, ⟨-, -, gone⟩, kept⟩ := (deletes.both spared).satisfiable
  have homeless : ∀ pool, after.node.files.lookup (.volumeDir pool volume) ≠ some .directory := fun pool => by
    rw [gone pool]
    exact nofun
  intro path probe own
  rw [← kept path probe]
  cases path with
  | cowTestClone pool target =>
    cases own
    exact FileTree.lookup_below rfl (homeless pool)
  | cowTestFile pool target temporary =>
    cases own
    have bare : after.node.files.lookup (.snapshotsDir pool volume false) = none :=
      FileTree.lookup_below rfl (homeless pool)
    have below : after.node.files.lookup (.snapshotsDir pool volume temporary) = none := by
      cases temporary with
      | false => exact bare
      | true => exact FileTree.lookup_below rfl (by rw [bare]; exact nofun)
    exact FileTree.lookup_below rfl (by rw [below]; exact nofun)
  | _ => cases probe

theorem Attempted.layout {pool : PoolName} (attempted : Attempted config volume now)
    (configured : pool ∈ config.storagePools) (fallback : config.defaultPool ∈ config.storagePools)
    (unprobed : now.node.files.Unprobed volume) :
    Layout config volume pool (fun _ => none) now :=
  ⟨configured, fallback, fun path entry own found => attempted.typed path entry own found,
    fun name => attempted.unsnapped (.snapshot pool volume false name) (by simp [Path.isSnapshot]),
    fun name => attempted.unsnapped (.snapshot pool volume true name) (by simp [Path.isSnapshot]),
    fun temporary name => attempted.unsnapped (.creating pool volume temporary name) (by simp [Path.isSnapshot]),
    unprobed⟩

theorem deleteVolume_deletes {data : Meta} {pool : PoolName} (fallback : config.defaultPool ∈ config.storagePools)
    (attempted : Attempted config volume now) (found : Files.metadata now.node.files volume = some data)
    (pooled : data.storagePool = some pool) (named : data.imgFile.isSome = true)
    (alone : ∀ other, other ≠ pool → now.node.files.lookup (.volumeDir other volume) = none)
    (unprobed : now.node.files.Unprobed volume)
    (unattached : now.node.devices.attached (.imgFile pool volume) = []) :
    (calm capacity).Ends (Deleted volume) (VolumeManager.deleteVolume config volume) now := by
  have traced := attempted.found found
  obtain ⟨place, same, configured, home⟩ := traced.pooled
  cases pooled.symm.trans same
  obtain ⟨image, named⟩ := Option.isSome_iff_exists.mp named
  have here : image = pool := by
    by_contra other
    cases (alone image other).symm.trans (traced.named image named)
  subst here
  have recorded : Recorded volume image data now :=
    ⟨found, home, pooled, named, by rw [traced.sized, named]; rfl⟩
  have others : (calm capacity).Ends (fun _ after => ∀ other : { other : PoolName // other ≠ image },
      Spared volume other now after) (VolumeManager.deleteVolume config volume) now := by
    refine Surely.each fun other => ?_
    exact deleteVolume_elsewhere other.2 ⟨data, found, pooled⟩
  refine ((deleteVolume_spec (attempted.layout configured fallback unprobed) recorded unattached).both others).weaken
    (fun _ _ => trivial) ?_
  rintro _ after _ ⟨⟨size, rfl, _, _, _, erased, _⟩, spared⟩
  obtain ⟨record, gone⟩ := erased fun _ => rfl
  refine ⟨⟨size, rfl⟩, record, fun other => ?_⟩
  by_cases same : other = image
  · rw [same]
    exact gone
  · exact (spared ⟨other, same⟩ _ rfl).trans (alone other same)

/-- Deleting what attempts to create a volume left leaves nothing if and only if
the last metadata name an image, the volume is in their pool only and no file
that tried out a copy stayed in its directories, or nothing was left. -/
theorem failed_creation_deletes (fallback : config.defaultPool ∈ config.storagePools)
    (unborn : ∀ path : Path, path.volume = some volume → initial.node.files.lookup path = none)
    (history : Relation.ReflTransGen (Attempting config volume) initial now)
    (unattached : ∀ pool, now.node.devices.attached (.imgFile pool volume) = []) :
    (calm capacity).Ends (Deleted volume) (VolumeManager.deleteVolume config volume) now ↔ Deletable volume now := by
  have attempted := Attempted.run unborn history
  cases missing : now.node.files.lookup (.metaFile volume) with
  | none =>
    have unrecorded : Files.metadata now.node.files volume = none := by simp [Files.metadata, missing]
    rw [(deleteVolume_missing fallback missing).ends_iff]
    constructor
    · rintro ⟨-, gone⟩
      exact .inr gone
    · rintro (⟨data, found, -⟩ | gone)
      · cases unrecorded.symm.trans found
      · exact ⟨⟨0, by simp [Files.present, gone.2]⟩, gone⟩
  | some entry =>
    obtain ⟨data, rfl, traced⟩ := attempted.recorded entry missing
    have found := Files.metadata_iff.mpr missing
    obtain ⟨pool, pooled, configured, home⟩ := traced.pooled
    constructor
    · intro deletes
      refine .inl ⟨data, found, ?_, fun other elsewhere => ?_, deleteVolume_probed deletes⟩
      · by_contra unnamed
        have unnamed : data.imgFile = none := by simpa using unnamed
        obtain ⟨⟨size, returned⟩, -⟩ := (deleteVolume_unnamed found pooled configured home unnamed).ends_iff.mp deletes
        cases returned
      · have different : other ≠ pool := fun same => elsewhere (by rw [same, pooled])
        obtain ⟨_, after, ⟨-, -, gone⟩, spared⟩ :=
          (deletes.both (deleteVolume_elsewhere different ⟨data, found, pooled⟩)).satisfiable
        exact (spared _ rfl).symm.trans (gone other)
    · rintro (⟨other, seen, named, alone, unprobed⟩ | gone)
      · cases found.symm.trans seen
        refine deleteVolume_deletes fallback attempted found pooled named (fun other different => ?_) unprobed
          (unattached pool)
        exact alone other fun same => different (by rw [pooled] at same; cases same; rfl)
      · cases (gone.2 pool).symm.trans home

end

namespace FailedCreation

def thick : CreateVolumeArgs where
  volumeId := "v"
  size := 4
  storagePool := "default"
  thinProvision := false

def unallocated : Option Clocked :=
  let answers : List Answer := List.replicate 12 { fails := false } ++ [{ fails := true }, { fails := false }]
  loose.follow answers (VolumeManager.createVolume singlePool thick) ⟨{}, 0⟩

def orphan : CreateVolumeArgs where
  volumeId := "v"
  size := 4
  storagePool := "default"
  thinProvision := true
  sourceType := some .volume
  sourceId := some "missing"

def refused : Option Clocked :=
  loose.follow (List.replicate 6 {}) (VolumeManager.createVolume singlePool orphan) ⟨{}, 0⟩

def leaves (test : Meta → Bool) (now : Clocked) : Bool :=
  ((Files.metadata now.node.files "v").any fun data => test data && data.storagePool = some "default") &&
    (now.node.files.entries.keys.all fun path => match path with
      | .volumeDir pool _ => pool = "default"
      | path => !path.isProbe) && now.node.files.isDirectory (.volumeDir "default" "v") && now.node.devices.loops.isEmpty

theorem leaves_spec {test : Meta → Bool} {now : Clocked} (left : leaves test now = true) :
    (∃ data, Files.metadata now.node.files "v" = some data ∧ test data = true ∧ data.storagePool = some "default") ∧
      (∀ pool, pool ≠ "default" → now.node.files.lookup (.volumeDir pool "v") = none) ∧
      now.node.files.Unprobed "v" ∧ now.node.files.lookup (.volumeDir "default" "v") = some .directory ∧
      ∀ pool, now.node.devices.attached (.imgFile pool "v") = [] := by
  simp only [leaves, Bool.and_eq_true, List.isEmpty_iff] at left
  obtain ⟨⟨⟨found, alone⟩, home⟩, loops⟩ := left
  obtain ⟨data, found, tested⟩ := (Option.any_eq_true ..).mp found
  simp only [Bool.and_eq_true, decide_eq_true_eq] at tested
  refine ⟨⟨data, found, tested⟩, fun pool other => ?_, fun path probe _ => ?_, FileTree.isDirectory_iff.mp home,
    fun pool => ?_⟩
  · by_contra present
    have only := List.all_eq_true.mp alone _ (FileTree.listed_iff.mpr present)
    exact other (of_decide_eq_true only)
  · by_contra present
    have only := List.all_eq_true.mp alone path (FileTree.listed_iff.mpr present)
    cases path <;> first | (cases only; done) | cases probe
  · simp [Devices.attached, loops]

theorem failed_creation_deletes_unallocated : ∃ now : Clocked,
    loose.Passes (VolumeManager.createVolume singlePool thick) ⟨{}, 0⟩ now ∧ Deletable "v" now ∧
      (calm fun _ => 0).Ends (Deleted "v") (VolumeManager.deleteVolume singlePool "v") now := by
  have tested : unallocated.any (leaves fun data => data.imgFile.isSome) = true := by decide +kernel
  obtain ⟨now, followed, left⟩ := (Option.any_eq_true ..).mp tested
  obtain ⟨⟨data, found, named, pooled⟩, alone, unprobed, -, unattached⟩ := leaves_spec left
  have deletable : Deletable "v" now := by
    refine .inl ⟨data, found, named, fun pool other => alone pool fun same => other ?_, unprobed⟩
    rw [same, pooled]
  refine ⟨now, follow_passes followed, deletable, ?_⟩
  exact (failed_creation_deletes (by decide) (fun path _ => FileTree.lookup_empty path)
    (.single (.attempt thick rfl (follow_passes followed))) unattached).mpr deletable

/-- A refused clone cannot be deleted. -/
theorem failed_creation_stays : ∃ now : Clocked,
    loose.Passes (VolumeManager.createVolume singlePool orphan) ⟨{}, 0⟩ now ∧
      (∀ pool, now.node.devices.attached (.imgFile pool "v") = []) ∧
      (calm fun _ => 0).Ends (fun outcome _ => outcome = .error (.keyError "img_file"))
        (VolumeManager.deleteVolume singlePool "v") now := by
  have tested : refused.any (leaves fun data => data.imgFile = none) = true := by decide +kernel
  obtain ⟨now, followed, left⟩ := (Option.any_eq_true ..).mp tested
  obtain ⟨⟨data, found, unnamed, pooled⟩, -, -, home, unattached⟩ := leaves_spec left
  refine ⟨now, follow_passes followed, unattached, ?_⟩
  exact (deleteVolume_unnamed found pooled (by decide) home (of_decide_eq_true unnamed)).ends_iff.mpr rfl

end FailedCreation
end Rawfile
