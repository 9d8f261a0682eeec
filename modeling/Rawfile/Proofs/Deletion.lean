import Rawfile.Proofs.Leftovers
import Rawfile.Proofs.Locking

/-! Deleted objects stay deleted. A volume without metadata cannot be locked,
so nothing is created for it but by `create_volume`; a snapshot file is created
by `create_snapshot` only. Both run as tasks, and what keeps them from running
again is that none is left. -/

namespace Rawfile
open Effects TaskManager

variable {volume : VolumeId} {operation : Op} {answer : Answer} {thread : Nat} {object : CsiObject}
  {node after : Node}

def Op.makesSnapshotsDir (volume : VolumeId) (operation : Op) : Prop :=
  ∃ pool temporary, operation = .file (.mkdirs (.snapshotsDir pool volume temporary))

def Op.grips (volume : VolumeId) (held : Bool) : (operation : Op) → Except Err operation.Reply → Bool
  | .lock (.acquire wanted), .ok _ => held || wanted = volume
  | .lock (.release wanted), _ => held && wanted ≠ volume
  | _, _ => held

def lockProtocol (volume : VolumeId) : Protocol Op Op.Reply Err Bool where
  lawful := Op.lawful
  allows held operation := operation.makesSnapshotsDir volume → held = true
  next := Op.grips volume

def Op.sheltered (volume : VolumeId) (operation : Op) : Prop :=
  (∀ lock, operation ≠ .lock lock) ∧ ∀ other, operation.makesSnapshotsDir other → other = volume

theorem Op.reads.sheltered (reads : operation.reads) (volume : VolumeId) : operation.sheltered volume := by
  constructor
  · rintro lock rfl
    cases reads
  · rintro other ⟨pool, temporary, rfl⟩
    cases reads

theorem ImageOp.sheltered {img : Path} (issued : ImageOp img operation) (volume : VolumeId) :
    operation.sheltered volume := by
  cases issued with
  | looking reads => exact reads.sheltered volume
  | probe makes only =>
    refine ⟨nofun, ?_⟩
    rintro other ⟨pool, temporary, making⟩
    cases making
    exact absurd rfl makes
  | _ => simp [Op.sheltered, Op.makesSnapshotsDir]

namespace CsiObject

def owns : CsiObject → Path → Bool
  | .volume id, path => path.volume = some id
  | .snapshot source name, .snapshot _ home false other | .snapshot source name, .creating _ home false other =>
    home = source && other = name
  | _, _ => false

def gone (object : CsiObject) (files : Files) : Bool := files.entries.keys.all (fun path => !object.owns path)

theorem gone_iff {files : Files} :
    object.gone files = true ↔ ∀ path, object.owns path = true → files.lookup path = none := by
  constructor
  · intro gone path owned
    by_contra present
    simpa [owned] using List.all_eq_true.mp gone path (FileTree.listed_iff.mpr present)
  · intro absent
    refine List.all_eq_true.mpr fun path listed => ?_
    cases owned : object.owns path with
    | false => rfl
    | true => exact absurd (absent path owned) (FileTree.listed_iff.mp listed)

/-- The paths without which nothing of the object can exist. -/
inductive Key : CsiObject → Path → Prop
  | metaDir (id) : Key (.volume id) (.metaDir id)
  | volumeDir (id pool) : Key (.volume id) (.volumeDir pool id)
  | file (source name pool) : Key (.snapshot source name) (.snapshot pool source false name)
  | marker (source name pool) : Key (.snapshot source name) (.creating pool source false name)

theorem Key.owned {path : Path} (key : Key object path) : object.owns path = true := by
  cases key <;> simp [owns, Path.volume]

theorem gone_of_keys {files : Files} (absent : ∀ path, Key object path → files.lookup path = none) :
    object.gone files = true := by
  refine gone_iff.mpr fun path owned => ?_
  cases object with
  | snapshot source name =>
    cases path with
    | snapshot pool volume temporary other | creating pool volume temporary other =>
      cases temporary with
      | false =>
        simp only [owns, Bool.and_eq_true, decide_eq_true_eq] at owned
        obtain ⟨rfl, rfl⟩ := owned
        first | exact absent _ (.file ..) | exact absent _ (.marker ..)
      | true => cases owned
    | _ => cases owned
  | volume id =>
    have missing : ∀ up, files.lookup up = none → files.lookup up ≠ some .directory := by
      intro up none found
      cases none.symm.trans found
    have dir : ∀ pool, files.lookup (.volumeDir pool id) = none := fun pool => absent _ (.volumeDir id pool)
    have snapshots : ∀ pool, files.lookup (.snapshotsDir pool id false) = none :=
      fun pool => FileTree.lookup_below rfl (missing _ (dir pool))
    have temporaries : ∀ pool temporary, files.lookup (.snapshotsDir pool id temporary) = none := by
      intro pool temporary
      cases temporary with
      | false => exact snapshots pool
      | true => exact FileTree.lookup_below rfl (missing _ (snapshots pool))
    have metadata := absent _ (.metaDir id)
    cases path <;> simp only [owns, Path.volume, Option.some.injEq, decide_eq_true_eq, reduceCtorEq, decide_false,
      Bool.false_eq_true] at owned <;> subst owned
    case metaDir => exact metadata
    case metaFile | metaTmp | lockFile => exact FileTree.lookup_below rfl (missing _ metadata)
    case volumeDir pool _ => exact dir pool
    case imgFile pool _ | cowTestClone pool _ => exact FileTree.lookup_below rfl (missing _ (dir pool))
    case snapshotsDir pool _ temporary => exact temporaries pool temporary
    case snapshot pool _ temporary name | creating pool _ temporary name | cowTestFile pool _ temporary =>
      exact FileTree.lookup_below rfl (missing _ (temporaries pool temporary))

end CsiObject

def Op.removes (path : Path) (operation : Op) : Prop :=
  operation = .file (.rmdir path) ∨ ∃ missingOk, operation = .file (.unlink path missingOk)

section
variable {object : CsiObject} {path : Path} {operation : Op}

/-- How an operation may touch a key of the object without creating the object itself. -/
def Harmless (object : CsiObject) (path : Path) (operation : Op) : Prop :=
  operation.removes path ∨ ∃ id, object = .volume id ∧ operation.makesSnapshotsDir id

private theorem harmless_mkdirs {pool : PoolName} {temporary : Bool} (key : object.Key path)
    (touches : (Op.file (.mkdirs (.snapshotsDir pool volume temporary))).touches path) :
    Harmless object path (.file (.mkdirs (.snapshotsDir pool volume temporary))) := by
  rcases Path.above_snapshotsDir touches with rfl | ⟨_, rfl⟩
  · cases key
    exact .inr ⟨volume, rfl, pool, temporary, rfl⟩
  · cases key

theorem CreateSnapshotOp.harmless {name : String} {temporary : Bool}
    (issued : CreateSnapshotOp volume name temporary operation) (key : object.Key path)
    (touches : operation.touches path) :
    Harmless object path operation ∨ object = .snapshot volume name ∧ temporary = false := by
  cases issued with
  | looking reads => exact absurd touches (reads.untouched _)
  | makeDir pool => exact .inl (harmless_mkdirs key touches)
  | acquire | release | freeze | unfreeze => cases key <;> cases touches
  | mark | remove | unmark | copy | copied => cases key <;> simp_all [Op.touches, FileOp.touches]

theorem DeleteSnapshotOp.harmless {name : String} {temporary : Bool}
    (issued : DeleteSnapshotOp volume name temporary operation) (touches : operation.touches path)
    (key : object.Key path) : Harmless object path operation := by
  cases issued with
  | looking reads => exact absurd touches (reads.untouched _)
  | acquire | release => cases key <;> cases touches
  | remove | unmark => cases touches; exact .inl (.inr ⟨_, rfl⟩)

theorem GcOp.harmless (issued : GcOp volume operation) (touches : operation.touches path) (key : object.Key path) :
    Harmless object path operation := by
  cases issued with
  | acquire | release => cases key <;> cases touches
  | destroying issued =>
    cases issued with
    | removeImage => cases touches; exact .inl (.inr ⟨_, rfl⟩)
    | cleaning issued =>
      cases issued with
      | looking reads => exact absurd touches (reads.untouched _)
      | removeMeta => cases touches; exact .inl (.inr ⟨_, rfl⟩)
      | _ => cases touches; exact .inl (.inl rfl)

theorem TaskCall.harmless {job : TaskCall} (issued : job.footprint operation) (key : object.Key path)
    (touches : operation.touches path) : Harmless object path operation ∨ object.makes job = true := by
  cases job with
  | createSnapshot args =>
    rcases CreateSnapshotOp.harmless issued key touches with harmless | ⟨rfl, permanent⟩
    · exact .inl harmless
    · exact .inr (by simp [CsiObject.makes, permanent])
  | createVolume args =>
    cases (issued : CreateVolumeOp args operation) with
    | source issued =>
      cases issued with
      | looking reads => exact absurd touches (reads.untouched _)
      | cut id _ issued =>
        rcases issued.harmless key touches with harmless | ⟨_, permanent⟩
        · exact .inl harmless
        · cases permanent
      | drop id _ issued => exact .inl (issued.harmless touches key)
    | image issued =>
      cases issued with
      | looking reads => exact absurd touches (reads.untouched _)
      | probe makes only => cases key <;> cases only _ touches
      | _ => cases key <;> cases touches
    | makeSnapshotsDir => exact .inl (harmless_mkdirs key touches)
    | makeVolumeDir =>
      cases touches
      cases key
      exact .inr (by simp [CsiObject.makes])
    | makeMetaDir =>
      cases Path.above_root rfl touches
      cases key
      exact .inr (by simp [CsiObject.makes])
    | _ => cases key <;> cases touches

theorem Call.harmless {call : Call} (issued : call.footprint operation) (key : object.Key path)
    (touches : operation.touches path) : Harmless object path operation ∨ object.concerns call = true := by
  cases call with
  | deleteVolume volume =>
    cases (issued : DeleteVolumeOp volume operation) with
    | collecting issued => exact .inl (issued.harmless touches key)
    | deleting => cases key <;> cases touches
  | deleteSnapshot snapshotId =>
    obtain ⟨volume, name, _, issued | issued⟩ := issued
    · exact .inl (issued.harmless touches key)
    · exact .inl (issued.harmless touches key)
  | nodeStageVolume request =>
    cases (issued : StageOp _ _ operation) with
    | acquire | release => cases key <;> cases touches
    | staging issued =>
      cases issued with
      | looking reads => exact absurd touches (reads.untouched _)
      | makeBlock =>
        cases Path.above_root rfl touches
        cases key
      | _ => cases key <;> cases touches
  | expandRawFile volume newSize =>
    cases (issued : ExpandOp volume operation) with
    | looking reads => exact absurd touches (reads.untouched _)
    | _ => cases key <;> cases touches
  | task job =>
    rcases TaskCall.harmless issued key touches with harmless | makes
    · exact .inl harmless
    · exact .inr (by cases object <;> exact makes)
  | future index job =>
    rcases issued with issued | issued
    · exact (issued.writes touches).elim
    · exact TaskCall.harmless issued key touches
  | createSnapshot request =>
    rcases issued with issued | rfl | rfl
    · exact (issued.writes touches).elim
    · cases key <;> cases touches
    · cases key <;> cases touches
  | createVolume | start | workerRound | shutdown => exact (TaskingOp.writes touches issued).elim

theorem Allows.harmless {config : DriverConfig} {control : Control} (allowed : Allows config control operation)
    (avoids : control.duty.Avoids object) (key : object.Key path) (touches : operation.touches path) :
    Harmless object path operation := by
  cases allowed with
  | plain issued | requesting _ issued =>
    rcases Call.harmless issued key touches with harmless | concerns
    · exact harmless
    · cases concerns.symm.trans avoids
  | work issued =>
    rcases TaskCall.harmless issued key touches with harmless | makes
    · exact harmless
    · cases makes.symm.trans avoids
  | polls | task => cases touches

end

def Grips (volume : VolumeId) (program : Driver α) : Prop :=
  ∀ held, (lockProtocol volume).Follows (fun _ _ => True) program held

namespace Grips

variable {volume : VolumeId}

theorem bind {program : Driver α} {next : α → Driver β} (first : Grips volume program)
    (rest : ∀ value, Grips volume (next value)) : Grips volume (program >>= next) :=
  fun held => .andThen (first held) (fun value held _ => rest value held) fun _ _ _ => trivial

theorem free {program : Driver α} (within : program.Within Op.lawful (fun operation => ¬ operation.makesSnapshotsDir volume)) :
    Grips volume program :=
  fun _ => .keeping (fun _ => True) within (fun _ _ other _ => ⟨fun makes => absurd makes other, fun _ _ => trivial⟩)
    (fun _ _ _ => trivial) trivial

theorem pure (value : α) : Grips volume (Pure.pure value) := free (.pure _)

theorem raise (error : Err) : Grips volume (Program.raise error : Driver α) := free (.raise _)

theorem attempt {program : Driver α} (body : Grips volume program) : Grips volume program.attempt :=
  fun held => .attempt ((body held).weaken fun _ _ _ => trivial)

theorem tryFinally {program : Driver α} {cleanup : Driver Unit} (body : Grips volume program)
    (last : Grips volume cleanup) : Grips volume (program.tryFinally cleanup) :=
  .bind body.attempt fun _ => .bind last fun _ => free (.ofExcept _)

theorem locked {other : VolumeId} {body : Driver α} (within : body.Within Op.lawful (Op.sheltered other)) :
    Grips volume (withVolLock other body) := by
  intro held
  have release : Grips volume (Driver.lock (.release other)) := free (.perform (by simp [Op.makesSnapshotsDir]))
  refine .performThen (by simp [lockProtocol, Op.makesSnapshotsDir]) (fun _ _ => ?_) fun _ => trivial
  refine .bind (.attempt ?_)
  refine .keeping (fun held => other = volume → held = true) within ?_ ?_ ?_
  · intro operation held sheltered kept
    refine ⟨fun makes => kept (sheltered.2 _ makes).symm, fun reply _ => ?_⟩
    cases operation with
    | lock lock => exact absurd rfl (sheltered.1 lock)
    | _ => exact kept
  · intro outcome held _
    exact Grips.bind release (fun _ => free (.ofExcept _)) held
  · intro same
    simp [lockProtocol, Op.grips, same]

end Grips

/-- The directory of a snapshot is made only under the lock of its volume. -/
theorem SnapshotManager.createSnapshot_grips (volume : VolumeId) (config : DriverConfig) (args : CreateSnapshotArgs) :
    Grips volume (createSnapshot config args) := by
  have reading : ∀ operation : Op, operation.reads → operation.sheltered args.volumeId :=
    fun _ reads => reads.sheltered _
  have copying : ∀ pool file loops, (copySnapshot args pool file loops).Within Op.lawful (Op.sheltered args.volumeId) := by
    intro pool file loops
    refine .bind ?_ fun _ => .bind (copyFile_within ?_ ?_) fun _ => .bind (.perform (reading _ trivial)) fun _ =>
      .bind (.perform ?_) fun _ => .bind (.perform (reading _ trivial)) fun _ => .pure _
    · split
      · exact freezeAll_within reading (by simp [Op.sheltered, Op.makesSnapshotsDir]) loops
      · exact .pure _
    all_goals simp [Op.sheltered, Op.makesSnapshotsDir]
  have cutting : ∀ pool file loops, (cutSnapshot args pool file loops).Within Op.lawful (Op.sheltered args.volumeId) := by
    intro pool file loops
    refine .tryFinally (.tryExcept (copying pool file loops) fun _ => .bind (.perform ?_) fun _ => .raise _) ?_
    · simp [Op.sheltered, Op.makesSnapshotsDir]
    · split
      · exact unfreezeAll_within reading (by simp [Op.sheltered, Op.makesSnapshotsDir]) loops
      · exact .pure _
  refine .locked ?_
  refine .bind (imgFile_within reading _) fun file => .bind (attachedLoops_within reading _) fun loops =>
    .bind (snapshotsPool_within reading _ _) fun pool => .bind (.perform ?_) fun _ => .bind (.perform ?_) fun _ =>
    .bind (.perform ?_) fun _ => ?_
  · simp [Op.sheltered, Op.makesSnapshotsDir]
  · simp [Op.sheltered, Op.makesSnapshotsDir]
  · simp [Op.sheltered, Op.makesSnapshotsDir]
  · split
    · exact .raise _
    · exact cutting pool file loops

namespace VolumeManager

/-- Building an image takes no lock and makes the snapshot directory of no other volume. -/
theorem buildImage_sheltered (config : DriverConfig) (args : CreateVolumeArgs) (source : Option RestoreSource) :
    (buildImage config args source).Within Op.lawful (Op.sheltered args.volumeId) := by
  have reading : ∀ operation : Op, operation.reads → operation.sheltered args.volumeId :=
    fun _ reads => reads.sheltered _
  have image : ∀ operation, ImageOp (.imgFile args.storagePool args.volumeId) operation →
      operation.sheltered args.volumeId := fun _ issued => issued.sheltered _
  have patching : ∀ old patch, (Op.file (.installMeta args.volumeId old patch)).sheltered args.volumeId := by
    simp [Op.sheltered, Op.makesSnapshotsDir]
  have making : ∀ temporary, (Op.file (.mkdirs (.snapshotsDir args.storagePool args.volumeId temporary))).sheltered
      args.volumeId := by
    simp [Op.sheltered, Op.makesSnapshotsDir]
  refine .bind ((bigEnough_within _ _).mono image) fun enough => ?_
  split
  · exact .pure _
  · exact .bind (.perform (making false)) fun _ => .bind (.perform (making true)) fun _ =>
      .bind (.perform (reading _ trivial)) fun createdAt =>
      .bind (patchMetadata_within reading fun old => patching old _) fun _ =>
      .bind (.perform (image _ .touch)) fun _ => .bind ((restore_within config args _ source).mono image) fun built =>
      .bind (growImage_within (image _ (.truncate _)) (image _ (.fallocate _))) fun _ =>
      patchMetadata_within reading fun old => patching old _

private theorem prepareClone_grips (volume : VolumeId) (config : DriverConfig) (clone source : VolumeId) :
    Grips volume (prepareClone config clone source) := by
  have reading : ∀ operation : Op, operation.reads → ¬ operation.makesSnapshotsDir volume := by
    rintro operation reads ⟨pool, temporary, rfl⟩
    cases reads
  refine .bind (.free (metadataOr_within reading source)) fun data => ?_
  split
  · exact .raise _
  · refine .bind (.free (listSnapshots_within reading _ _ _ _)) fun current => ?_
    split
    · exact .pure _
    · split
      · exact .bind (.pure _) fun _ => .bind (SnapshotManager.createSnapshot_grips volume config _) fun _ => .pure _
      · exact .bind (.free (.bind (need_within _ _) fun _ => .pure _)) fun _ =>
          .bind (SnapshotManager.createSnapshot_grips volume config _) fun _ => .pure _

private theorem findSource_grips (volume : VolumeId) (config : DriverConfig) (args : CreateVolumeArgs) :
    Grips volume (findSource config args) := by
  unfold findSource
  split
  · exact .bind (.free (rsplit_within _)) fun _ => .pure _
  · exact .bind (prepareClone_grips volume config _ _) fun _ => .pure _
  · exact .pure _

private theorem createVolume_grips (volume : VolumeId) (config : DriverConfig) (args : CreateVolumeArgs) :
    Grips volume (createVolume config args) := by
  have reading : ∀ operation : Op, operation.reads → ¬ operation.makesSnapshotsDir volume := by
    rintro operation reads ⟨pool, temporary, rfl⟩
    cases reads
  have dropping : Grips volume (removeCloneSource config args) := by
    unfold removeCloneSource
    split
    · refine .free ((SnapshotManager.deleteSnapshot_within config _ _ _).mono fun operation issued => ?_)
      cases issued with
      | looking reads => exact reading _ reads
      | _ => simp [Op.makesSnapshotsDir]
    · exact .pure _
  unfold createVolume
  split
  · exact .raise _
  · refine .bind (.free (getVolumePath_within _ _ _)) fun dir => .bind (.free (.perform ?_)) fun _ =>
      .bind (.free (.perform ?_)) fun _ => .bind (.free (patchMetadata_within reading ?_)) fun _ =>
      .tryFinally (.bind (findSource_grips volume config args) fun source => .locked (buildImage_sheltered config args source))
        dropping
    all_goals simp [Op.makesSnapshotsDir]

end VolumeManager

theorem TaskCall.grips (volume : VolumeId) (config : DriverConfig) (call : TaskCall) :
    Grips volume (taskBody config call) := by
  cases call with
  | createVolume args => exact VolumeManager.createVolume_grips volume config args
  | createSnapshot args => exact .bind (SnapshotManager.createSnapshot_grips volume config args) fun _ => .pure _

theorem TaskingOp.makes_nothing (issued : TaskingOp operation) (volume : VolumeId) :
    ¬ operation.makesSnapshotsDir volume := by
  rintro ⟨pool, temporary, rfl⟩
  cases issued with
  | looking reads => cases reads

theorem GcOp.makes_nothing (issued : GcOp volume operation) (other : VolumeId) :
    ¬ operation.makesSnapshotsDir other := by
  rintro ⟨pool, temporary, rfl⟩
  cases issued with
  | destroying issued =>
    cases issued with
    | cleaning issued =>
      cases issued with
      | looking reads => cases reads

theorem Call.makes_nothing {call : Call} (issued : call.footprint operation) (volume : VolumeId)
    (plain : ∀ job, call ≠ .task job) (direct : ∀ index job, call ≠ .future index job) :
    ¬ operation.makesSnapshotsDir volume := by
  cases call with
  | task job => exact absurd rfl (plain job)
  | future index job => exact absurd rfl (direct index job)
  | createVolume | start | workerRound | shutdown => exact TaskingOp.makes_nothing issued volume
  | createSnapshot request =>
    rcases issued with issued | rfl | rfl
    · exact issued.makes_nothing volume
    all_goals simp [Op.makesSnapshotsDir]
  | deleteVolume id =>
    cases (issued : DeleteVolumeOp id operation) with
    | collecting issued => exact issued.makes_nothing volume
    | deleting => simp [Op.makesSnapshotsDir]
  | deleteSnapshot snapshotId =>
    obtain ⟨source, name, _, issued | issued⟩ := issued
    · cases issued with
      | looking reads => exact TaskingOp.makes_nothing (.looking reads) volume
      | _ => simp [Op.makesSnapshotsDir]
    · exact issued.makes_nothing volume
  | nodeStageVolume request =>
    cases (issued : StageOp _ _ operation) with
    | acquire | release => simp [Op.makesSnapshotsDir]
    | staging issued =>
      cases issued with
      | looking reads => exact TaskingOp.makes_nothing (.looking reads) volume
      | _ => simp [Op.makesSnapshotsDir]
  | expandRawFile id newSize =>
    cases (issued : ExpandOp id operation) with
    | looking reads => exact TaskingOp.makes_nothing (.looking reads) volume
    | _ => simp [Op.makesSnapshotsDir]

theorem Call.grips (volume : VolumeId) (config : DriverConfig) (call : Call) : Grips volume (call.program config) := by
  cases call with
  | task call => exact call.grips volume config
  | future index call =>
    refine .bind (.free (.perform (TaskingOp.makes_nothing (.task _) volume))) fun begun => ?_
    split
    · refine .bind (.attempt (call.grips volume config)) fun outcome =>
        .free (.bind (.perform (TaskingOp.makes_nothing (.task _) volume)) fun id => ?_)
      split
      · exact (invokeCallback_within _).mono fun _ issued => TaskingOp.makes_nothing issued volume
      · exact .pure _
    · exact .pure _
  | _ =>
    refine .free ((Call.program_within config _).mono fun operation issued => ?_)
    exact Call.makes_nothing issued volume (by simp) (by simp)

def lockControl (volume : VolumeId) (config : DriverConfig) : Tracking (nodePlugin config) Bool where
  protocol := lockProtocol volume
  initial _ := false
  ended _ := True
  obeys := nodePlugin_lawful
  follows := by
    intro call state after program entered
    obtain ⟨node, accepted, same⟩ := Option.map_eq_some_iff.mp entered
    cases same
    exact call.grips volume config false

def Gripped (volume : VolumeId) (node : Node) (points : List (Call × Bool)) : Prop :=
  ∀ {thread : Nat} {call : Call}, points[thread]? = some (call, true) → (volume, thread) ∈ node.holders

private theorem Op.grips_held {reply : Except Err operation.Reply} {held : Bool}
    (executed : operation.exec thread answer node = (reply, after))
    (before : held = true → (volume, thread) ∈ node.holders) (grips : operation.grips volume held reply = true) :
    (volume, thread) ∈ after.holders := by
  have keeps : operation ≠ .lock (.release volume) → held = true → (volume, thread) ∈ after.holders :=
    fun different still => Op.exec_keeps_held executed different (before still)
  cases operation with
  | lock operation =>
    cases operation with
    | acquire wanted =>
      cases reply with
      | error error => exact keeps (by simp) grips
      | ok value =>
        simp only [Op.grips, Bool.or_eq_true, decide_eq_true_eq] at grips
        rcases grips with still | rfl
        · exact keeps (by simp) still
        · exact LockOp.acquire_held executed
    | release wanted =>
      simp only [Op.grips, ne_eq, decide_not, Bool.and_eq_true, Bool.not_eq_true', decide_eq_false_iff_not] at grips
      refine keeps ?_ grips.1
      rintro same
      cases same
      exact grips.2 rfl
  | _ => exact keeps (by simp) grips

theorem Gripped.invariant (volume : VolumeId) (config : DriverConfig) :
    (lockControl volume config).Keeps (fun _ _ => True) (Gripped volume) where
  enters := by
    intro now points call state program _ _ known entered
    obtain ⟨node, accepted, same⟩ := Option.map_eq_some_iff.mp entered
    cases same
    intro thread other standing
    rw [(Call.accept_unchanged accepted).2.2]
    rw [List.getElem?_append] at standing
    split at standing
    · exact known standing
    · simpa [lockControl] using List.mem_of_getElem? standing
  steps := by
    intro now points thread answer call operation next stage reply state _ _ _ standing _ answered known
    have executed := (nodePlugin_exec answered).2
    intro other own moved
    by_cases same : other = thread
    · subst same
      rw [List.getElem?_set_self (List.getElem?_eq_some_iff.mp standing).1] at moved
      obtain ⟨rfl, grips⟩ := Prod.mk.inj (Option.some.inj moved)
      exact Op.grips_held executed (fun still => known (still ▸ standing)) grips
    · rw [List.getElem?_set_ne (Ne.symm same)] at moved
      have others : (volume, other) ∈ (operation.exec thread answer now.state).2.holders :=
        (Op.exec_others same).mpr (known moved)
      rwa [executed] at others
  crashes := by
    intro now points _ _ _ thread call standing
    cases standing
  drifts := by
    intro now points change _ known thread call standing
    show (volume, thread) ∈ (change.apply now.state).holders
    rw [change.apply_holders]
    exact known standing

private theorem LockOp.acquire_file {reply : Unit}
    (acquired : (LockOp.acquire volume).exec thread answer node = (.ok reply, after)) :
    after.files.lookup (.lockFile volume) ≠ none := by
  simp only [LockOp.exec] at acquired
  split at acquired
  · cases acquired
  next files touched =>
    have present : files.lookup (.lockFile volume) ≠ none := by
      rcases touch_exec touched with ⟨rfl, present⟩ | ⟨-, -, made⟩
      · exact present rfl
      · rw [made]
        simp
    split at acquired <;> cases acquired
    exact present

private theorem LockOp.refused_holders {error : Err}
    (refused : (LockOp.acquire volume).exec thread answer node = (.error error, after)) :
    after.holders = node.holders := by
  simp only [LockOp.exec] at refused
  split at refused
  · cases refused
    rfl
  · split at refused <;> cases refused
    rfl

theorem Op.removes.absent {path : Path} {reply : Except Err operation.Reply} (removes : operation.removes path)
    (executed : operation.exec thread answer node = (reply, after)) (absent : node.files.lookup path = none) :
    after.files.lookup path = none := by
  rcases removes with rfl | ⟨missingOk, rfl⟩
  · have gone := Op.exec_file executed
    generalize after.files = left at gone ⊢
    simp only [FileOp.exec] at gone
    split at gone
    · cases gone
      exact absent
    · cases dropped : node.files.rmdir path with
      | error error =>
        rw [dropped] at gone
        cases gone
        exact absent
      | ok files =>
        rw [dropped] at gone
        cases gone
        simp [FileTree.rmdir_ok dropped]
  · rcases unlink_exec (Op.exec_file executed) with same | gone
    · rw [same]
      exact absent
    · exact gone

namespace CsiObject

def home : CsiObject → VolumeId
  | .volume id => id
  | .snapshot source _ => source

/-- A volume that nobody holds the lock of; a snapshot needs no lock to be away. -/
def unlocked (object : CsiObject) (node : Node) : Bool :=
  match object with
  | .volume id => node.holders.all (fun holder => holder.1 ≠ id)
  | .snapshot _ _ => true

theorem unlocked_iff {node : Node} :
    object.unlocked node = true ↔ ∀ id, object = .volume id → ∀ thread, (id, thread) ∉ node.holders := by
  cases object with
  | snapshot => simp [unlocked]
  | volume id =>
    simp only [unlocked, ne_eq, decide_not, List.all_eq_true, Bool.not_eq_true', decide_eq_false_iff_not, Prod.forall,
      volume.injEq, forall_eq']
    constructor
    · intro away thread held
      exact away id thread held rfl
    · rintro away _ thread held rfl
      exact away thread held

end CsiObject

/-- The object is gone and nothing is left that could bring it back. -/
structure Vanished (config : DriverConfig) (object : CsiObject) (now : NodeConfig) : Prop where
  control : (taskControl config).Holds (fun node points => Linked config node.tasks points ∧
    Forgotten object node.tasks points) now
  locks : (lockControl object.home config).Holds (Gripped object.home) now
  gone : object.gone now.state.files = true
  unlocked : object.unlocked now.state = true

namespace Vanished

variable {config : DriverConfig} {object : CsiObject} {before after : NodeConfig} {event : NodeEvent}

section
variable (known : Vanished config object before)
include known

/-- No step brings back what is gone. -/
theorem step_gone {call : Call}
    {next : Except Err operation.Reply → Driver Unit} {reply : Except Err operation.Reply} {node : Node}
    (found : before.threads[thread]? = some ⟨call, .request operation next⟩)
    (executed : operation.exec thread answer before.state = (reply, node)) : object.gone node.files = true := by
  refine CsiObject.gone_of_keys fun path key => ?_
  have absent := CsiObject.gone_iff.mp known.gone path key.owned
  by_cases touches : operation.touches path
  · obtain ⟨points, tracks, _, forgotten⟩ := known.control
    obtain ⟨control, standing, follows⟩ := tracks.found found
    have avoids := forgotten.duties _ (List.mem_of_getElem? standing)
    rcases Allows.harmless follows.1 avoids key touches with removes | ⟨id, rfl, makes⟩
    · exact removes.absent executed absent
    · obtain ⟨stages, tracks, gripped⟩ := known.locks
      obtain ⟨held, standing, follows⟩ := tracks.found found
      have grips : held = true := follows.1 makes
      rw [grips] at standing
      exact absurd (gripped standing) (CsiObject.unlocked_iff.mp known.unlocked id rfl thread)
  · rw [Op.exec_frame executed touches]
    exact absent

private theorem step_unlocked {reply : Except Err operation.Reply} {node : Node}
    (gone : object.gone node.files = true) (executed : operation.exec thread answer before.state = (reply, node)) :
    object.unlocked node = true := by
  refine CsiObject.unlocked_iff.mpr ?_
  rintro id rfl other held
  have vacant := CsiObject.unlocked_iff.mp known.unlocked id rfl
  have missing := CsiObject.gone_iff.mp gone (.lockFile id) (by simp [CsiObject.owns, Path.volume])
  have same : (operation.exec thread answer before.state).2 = node := by rw [executed]
  cases operation with
  | lock operation =>
    cases operation with
    | acquire wanted =>
      by_cases own : wanted = id
      · subst own
        cases reply with
        | ok value => exact LockOp.acquire_file executed missing
        | error error =>
          have before := LockOp.refused_holders executed
          rw [before] at held
          exact vacant other held
      · rw [← same] at held
        exact vacant other ((LockOp.exec_holders thread answer before.state _ (.inr (by simp [own]))).mp held)
    | release wanted =>
      rw [← same] at held
      exact vacant other (List.mem_filter.mp held).1
  | _ =>
    rw [← same] at held
    exact vacant other held

theorem next (permitted : event.begins (fun call => !object.asks call) = true)
    (moved : (nodePlugin config).next event before = some after) : Vanished config object after := by
  have control := (Forgotten.invariant object config).keeps.next permitted moved known.control
  have locks := (Gripped.invariant object.home config).next trivial moved known.locks
  cases (nodePlugin config).next_moves moved with
  | enter entered =>
    obtain ⟨files, _, holders⟩ := Call.accept_unchanged (nodePlugin_enter entered).1
    refine ⟨control, locks, CsiObject.gone_iff.mpr ?_, CsiObject.unlocked_iff.mpr ?_⟩
    · rw [files]
      exact CsiObject.gone_iff.mp known.gone
    · rw [holders]
      exact CsiObject.unlocked_iff.mp known.unlocked
  | step found answered =>
    have executed := (nodePlugin_exec answered).2
    have gone := known.step_gone found executed
    exact ⟨control, locks, gone, known.step_unlocked gone executed⟩
  | crash =>
    refine ⟨control, locks, known.gone, CsiObject.unlocked_iff.mpr ?_⟩
    intro id same thread held
    cases held
  | drift change =>
    refine ⟨control, locks, CsiObject.gone_of_keys fun path key => ?_, CsiObject.unlocked_iff.mpr ?_⟩
    · have absent := CsiObject.gone_iff.mp known.gone path key.owned
      have other : ∀ img : ImgFile, path ≠ img.path := by
        intro img same
        cases key <;> cases same
      exact (change.apply_lookup before.state other).trans absent
    · show ∀ id, object = .volume id → ∀ thread, (id, thread) ∉ (change.apply before.state).holders
      rw [change.apply_holders]
      exact CsiObject.unlocked_iff.mp known.unlocked

end

end Vanished

/-- A volume or snapshot that was deleted while nothing of its tasks was left,
and while nobody held the lock of the volume, does not come back unless it is
asked for again. -/
theorem deleted_stays_deleted (config : DriverConfig) (object : CsiObject) {deleted now : NodeConfig}
    (reached : (nodePlugin config).Reaches (fun _ _ => True) NodeConfig.initial deleted)
    (settled : object.settled deleted = true) (unlocked : object.unlocked deleted.state = true)
    (gone : object.gone deleted.state.files = true)
    (later : (nodePlugin config).Reaches (fun _ event => event.begins (fun call => !object.asks call) = true)
      deleted now) : object.gone now.state.files = true := by
  have linked := (Linked.invariant config (fun _ _ => True)).keeps.reaches reached
    (Tracking.holds_idle (Linked.initial config))
  have gripped := (Gripped.invariant object.home config).reaches reached
    (Tracking.holds_idle fun standing => nomatch standing)
  have vanished : Vanished config object deleted := ⟨Forgotten.initial settled linked, gripped, gone, unlocked⟩
  exact (later.invariant (Vanished config object) (fun _ _ _ permitted moved known => known.next permitted moved)
    vanished).gone

namespace Deletion

def deletedInOrder : List NodeEvent :=
  thinCreated ++ moves 2 6 {} ++ moves 1 2 { amount := 1 } ++ [.enter (.deleteVolume "v")] ++ moves 3 30 {}

def idleTurn : List NodeEvent :=
  [.enter .workerRound] ++ moves 4 5 {} ++ [.crash, .enter .start] ++ moves 0 2 {}

theorem deleted_stays_deleted_in_order : ∃ deleted now : NodeConfig, deleted.returned (.deleteVolume "v") = true ∧
    (nodePlugin singlePool).Reaches (fun _ event => event.begins (fun call => !(CsiObject.volume "v").asks call) = true)
      deleted now ∧ (CsiObject.volume "v").gone now.state.files = true := by
  obtain ⟨deleted, now, reached, tested, later, -⟩ := @Machine.two_parts _ _ _ _ _ _ _ (nodePlugin singlePool)
    (fun _ _ => true) (fun _ event => event.begins (fun call => !(CsiObject.volume "v").asks call))
    (fun now => NodeConfig.returned now (.deleteVolume "v") && ((CsiObject.volume "v").settled now &&
      ((CsiObject.volume "v").unlocked now.state && (CsiObject.volume "v").gone now.state.files)))
    (fun _ => true) deletedInOrder idleTurn NodeConfig.initial (by decide +kernel)
  simp only [Bool.and_eq_true] at tested
  obtain ⟨returned, settled, unlocked, gone⟩ := tested
  have anyhow := reached.mono (fun _ _ _ => trivial : ∀ config event, true = true → True)
  exact ⟨deleted, now, returned, later, deleted_stays_deleted singlePool (.volume "v") anyhow settled unlocked gone later⟩

/-- The request gives up while its task is queued, and the volume is deleted before the task runs. -/
def deletedEarly : List NodeEvent :=
  [.enter .start] ++ moves 0 2 {} ++ [.enter (.createVolume thinRequest)] ++ moves 1 9 { amount := 16777216 } ++
    [.step 1 {}, .enter (.deleteVolume "v")] ++ moves 2 2 {}

/-- A volume whose deletion returned becomes ready without any further request. -/
theorem deleted_volume_returns : ∃ deleted now : NodeConfig,
    (nodePlugin singlePool).Reaches (fun _ _ => True) NodeConfig.initial deleted ∧
    (deleted.returned (.deleteVolume "v") && (CsiObject.volume "v").gone deleted.state.files) = true ∧
    (nodePlugin singlePool).Reaches (fun _ event => event.begins (fun call => !(CsiObject.volume "v").asks call) = true)
      deleted now ∧ now.state.isReady "v" = true := by
  obtain ⟨deleted, now, reached, tested, later, ready⟩ := @Machine.two_parts _ _ _ _ _ _ _ (nodePlugin singlePool)
    (fun _ _ => true) (fun _ event => event.begins (fun call => !(CsiObject.volume "v").asks call))
    (fun now => NodeConfig.returned now (.deleteVolume "v") && (CsiObject.volume "v").gone now.state.files)
    (fun now => Node.isReady now.state "v") deletedEarly ([.enter (.future 0 thinCreation)] ++ moves 3 16 {})
    NodeConfig.initial (by decide +kernel)
  exact ⟨deleted, now, reached.mono fun _ _ _ => trivial, tested, later, ready⟩

end Deletion
end Rawfile
