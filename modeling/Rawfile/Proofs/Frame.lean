import Rawfile.Runs

/-! What one operation leaves alone: the paths it does not touch, and the
components of the node it does not work on. -/

namespace Rawfile
open Effects

variable {path : Path} {before after : Files} {reply : Except Err Unit} {pool : PoolName}

def Path.isDirName : Path → Bool
  | .metaDir _ | .volumeDir _ _ | .snapshotsDir _ _ _ | .staging _ .block => true
  | _ => false

def Path.isProbe : Path → Bool
  | .cowTestFile _ _ _ | .cowTestClone _ _ => true
  | _ => false

theorem Path.isProbe.plain {path : Path} (probe : path.isProbe = true) : path.isDirName = false := by
  cases path <;> first | rfl | cases probe

def Path.volume : Path → Option VolumeId
  | .metaDir volume | .metaFile volume | .metaTmp volume | .lockFile volume | .volumeDir _ volume | .imgFile _ volume
  | .snapshotsDir _ volume _ | .snapshot _ volume _ _ | .creating _ volume _ _ | .cowTestFile _ volume _
  | .cowTestClone _ volume => some volume
  | .staging _ _ | .published _ => none

theorem Path.parent_isDirName {path up : Path} (above : Hierarchy.parent path = some up) : up.isDirName = true := by
  cases path <;> simp only [Hierarchy.parent] at above
  case snapshotsDir pool volume temporary => cases temporary <;> cases above <;> rfl
  case staging target part => cases part <;> cases above; rfl
  all_goals cases above; try rfl

theorem Path.parent_volume {path up : Path} (above : Hierarchy.parent path = some up) : up.volume = path.volume := by
  cases path <;> simp only [Hierarchy.parent] at above
  case snapshotsDir pool volume temporary => cases temporary <;> cases above <;> rfl
  case staging target part => cases part <;> cases above; rfl
  all_goals cases above; try rfl

private theorem Path.above_isDirName {path up : Path} (above : FileTree.Above path up) : up = path ∨ up.isDirName = true := by
  cases above with
  | refl => exact .inl rfl
  | tail _ last => exact .inr (parent_isDirName last)

theorem Path.above_leaf {path leaf : Path} (plain : leaf.isDirName = false) :
    FileTree.Above path leaf ↔ leaf = path := by
  refine ⟨fun above => ?_, fun same => same ▸ .refl⟩
  rcases above_isDirName above with same | directory
  · exact same
  · rw [plain] at directory
    cases directory

@[simp] theorem Path.above_metaFile {volume : VolumeId} :
    FileTree.Above path (.metaFile volume) ↔ .metaFile volume = path := above_leaf rfl

@[simp] theorem Path.above_imgFile {volume : VolumeId} :
    FileTree.Above path (.imgFile pool volume) ↔ .imgFile pool volume = path := above_leaf rfl

@[simp] theorem Path.above_snapshot {volume : VolumeId} {temporary : Bool} {name : String} :
    FileTree.Above path (.snapshot pool volume temporary name) ↔ .snapshot pool volume temporary name = path :=
  above_leaf rfl

@[simp] theorem Path.above_creating {volume : VolumeId} {temporary : Bool} {name : String} :
    FileTree.Above path (.creating pool volume temporary name) ↔ .creating pool volume temporary name = path :=
  above_leaf rfl

theorem Path.above_root {path up : Path} (root : Hierarchy.parent path = none) (above : FileTree.Above path up) :
    up = path := by
  rcases Relation.ReflTransGen.cases_head above with same | ⟨middle, parent, _⟩
  · exact same.symm
  · cases root.symm.trans parent

theorem Path.above_snapshotsDir {volume : VolumeId} {temporary : Bool} {up : Path}
    (above : FileTree.Above (.snapshotsDir pool volume temporary) up) :
    up = .volumeDir pool volume ∨ ∃ temporary, up = .snapshotsDir pool volume temporary := by
  have upper : ∀ {up : Path}, FileTree.Above (Path.snapshotsDir pool volume false) up →
      up = Path.volumeDir pool volume ∨ ∃ temporary, up = Path.snapshotsDir pool volume temporary := by
    intro up above
    rcases Relation.ReflTransGen.cases_head above with rfl | ⟨middle, parent, rest⟩
    · exact .inr ⟨false, rfl⟩
    · cases parent
      exact .inl (above_root rfl rest)
  cases temporary with
  | false => exact upper above
  | true =>
    rcases Relation.ReflTransGen.cases_head above with rfl | ⟨middle, parent, rest⟩
    · exact .inr ⟨true, rfl⟩
    · cases parent
      exact upper rest

inductive Change where
  | make
  | write
  | unlink
  | remove
  deriving DecidableEq

def FileOp.change : FileOp → Option Change
  | .mkdir _ _ | .mkdirs _ => some .make
  | .installMeta _ _ _ | .touch _ | .symlink _ _ | .cpStart _ _ | .cpFinish _ _ _ | .truncate _ _ | .fallocate _ _ =>
    some .write
  | .unlink _ _ => some .unlink
  | .rmdir _ => some .remove
  | _ => none

def FileOp.touches : FileOp → Path → Prop
  | .installMeta volume _ _, path => path = .metaFile volume
  | .mkdirs target, path => FileTree.Above target path
  | .mkdir target _, path | .touch target, path | .unlink target _, path | .rmdir target, path
  | .symlink target _, path | .cpStart _ target, path | .cpFinish _ target _, path
  | .truncate target _, path | .fallocate target _, path => path = target
  | _, _ => False

def Op.touches : Op → Path → Prop
  | .file operation, path => operation.touches path
  | .lock (.acquire volume), path | .lock (.release volume), path => path = .lockFile volume
  | _, _ => False

namespace Files

theorem change_lookup {files : Files} {result : Except FileError Files}
    (same : ∀ after, result = .ok after → after.lookup path = files.lookup path) :
    (change files result).2.lookup path = files.lookup path := by
  cases result with
  | ok after => exact same after rfl
  | error error => rfl

theorem change_cases {result : Except FileError Files} (changed : change before result = (reply, after)) :
    reply = .ok () ∧ result = .ok after ∨
      after = before ∧ ∃ cause, reply = .error (FileError.toErr cause) ∧ result = .error cause := by
  cases result <;> cases changed
  · exact .inr ⟨rfl, _, rfl, rfl⟩
  · exact .inl ⟨rfl, rfl⟩

theorem attempt_cases {refused : Prop} [Decidable refused] {error : Err} {result : Except FileError Files}
    (executed : (if refused then (.error error, before) else change before result) = (reply, after)) :
    reply = .ok () ∧ result = .ok after ∨
      after = before ∧ (∃ error, reply = .error error) ∧ (refused ∨ ∃ cause, result = .error cause) := by
  split at executed
  next refuses =>
    cases executed
    exact .inr ⟨rfl, ⟨_, rfl⟩, .inl refuses⟩
  next =>
    rcases change_cases executed with changed | ⟨same, cause, failed, why⟩
    · exact .inl changed
    · exact .inr ⟨same, ⟨_, failed⟩, .inr ⟨cause, why⟩⟩

theorem write_lookup_ne {files after : Files} {target path : Path} {content : Content}
    (written : files.write target content = .ok after) (different : path ≠ target) :
    after.lookup path = files.lookup path := by
  rw [FileTree.write_ok written, if_neg different]

end Files

inductive FileOp.Edits (operation : FileOp) (files : Files) : Files → Prop
  | same : operation.Edits files files
  | write {target content after} (touches : operation.touches target) (changes : operation.change = some .write)
    (written : files.write target content = .ok after) : operation.Edits files after
  | mkdir {target existOk after} (touches : operation.touches target) (changes : operation.change = some .make)
    (made : files.mkdir target existOk = .ok after) : operation.Edits files after
  | mkdirs {target after} (touches : ∀ path, FileTree.Above target path → operation.touches path)
    (changes : operation.change = some .make) (made : files.mkdirs target = .ok after) : operation.Edits files after
  | unlink {target after} (touches : operation.touches target) (changes : operation.change = some .unlink)
    (gone : files.unlink target = .ok after) : operation.Edits files after
  | rmdir {target after} (touches : operation.touches target) (changes : operation.change = some .remove)
    (gone : files.rmdir target = .ok after) : operation.Edits files after

theorem FileOp.exec_edits (operation : FileOp) (answer : Answer) (files : Files) :
    operation.Edits files (operation.exec answer files).2 := by
  have changed : ∀ {result : Except FileError Files}, (∀ after, result = .ok after → operation.Edits files after) →
      operation.Edits files (Files.change files result).2 := by
    intro result each
    cases result with
    | ok after => exact each after rfl
    | error error => exact .same
  cases operation with
  | installMeta | touch | symlink | truncate | fallocate =>
    simp only [exec]
    repeat' split
    all_goals first
      | exact .same
      | exact changed fun _ => .write rfl rfl
  | cpStart | cpFinish =>
    simp only [exec]
    repeat' split
    all_goals first
      | exact .same
      | next written => exact .write rfl rfl written
  | mkdir =>
    simp only [exec]
    split
    · exact .same
    · exact changed fun _ => .mkdir rfl rfl
  | mkdirs =>
    simp only [exec]
    split
    · exact .same
    · exact changed fun _ => .mkdirs (fun _ => id) rfl
  | unlink =>
    simp only [exec]
    repeat' split
    all_goals first
      | exact .same
      | exact changed fun _ => .unlink rfl rfl
  | rmdir =>
    simp only [exec]
    split
    · exact .same
    · exact changed fun _ => .rmdir rfl rfl
  | _ =>
    simp only [exec]
    repeat' split
    all_goals exact .same

theorem FileOp.exec_lookup (operation : FileOp) (answer : Answer) (files : Files)
    (untouched : ¬ operation.touches path) : (operation.exec answer files).2.lookup path = files.lookup path := by
  have apart : ∀ {target}, operation.touches target → path ≠ target := by
    rintro target touches rfl
    exact untouched touches
  have edits := operation.exec_edits answer files
  generalize (operation.exec answer files).2 = after at edits
  cases edits with
  | same => rfl
  | write touches _ written => exact Files.write_lookup_ne written (apart touches)
  | mkdir touches _ made =>
    rcases FileTree.mkdir_ok made path with same | ⟨same, _⟩
    · exact same
    · exact absurd same (apart touches)
  | mkdirs touches _ made =>
    rcases FileTree.mkdirs_ok made path with same | ⟨above, _⟩
    · exact same
    · exact absurd (touches path above) untouched
  | unlink touches _ gone => rw [FileTree.unlink_ok gone, if_neg (apart touches)]
  | rmdir touches _ gone => rw [FileTree.rmdir_ok gone, if_neg (apart touches)]

section
variable (thread : Nat) (answer : Answer) (node : Node)

theorem Op.exec_lookup (operation : Op) (untouched : ¬ operation.touches path) :
    (operation.exec thread answer node).2.files.lookup path = node.files.lookup path := by
  cases operation with
  | file operation => exact operation.exec_lookup answer node.files untouched
  | lock operation =>
    cases operation with
    | acquire volume =>
      have same := (FileOp.touch (.lockFile volume)).exec_lookup {} node.files untouched
      simp only [Op.exec, LockOp.exec]
      split
      · rfl
      next files touched =>
        rw [touched] at same
        split <;> exact same
    | release volume => exact (FileOp.unlink (.lockFile volume) true).exec_lookup {} node.files untouched
  | device operation => rfl
  | task operation => rfl
  | ask question => rfl

theorem Op.exec_devices (operation : Op) (other : ∀ device, operation ≠ .device device) :
    (operation.exec thread answer node).2.devices = node.devices := by
  cases operation with
  | lock operation =>
    cases operation with
    | acquire volume =>
      simp only [Op.exec, LockOp.exec]
      split
      · rfl
      · split <;> rfl
    | release volume => rfl
  | device operation => exact absurd rfl (other operation)
  | _ => rfl

theorem Op.exec_tasks (operation : Op) (other : ∀ task, operation ≠ .task task) :
    (operation.exec thread answer node).2.tasks = node.tasks := by
  cases operation with
  | lock operation =>
    cases operation with
    | acquire volume =>
      simp only [Op.exec, LockOp.exec]
      split
      · rfl
      · split <;> rfl
    | release volume => rfl
  | task operation => exact absurd rfl (other operation)
  | _ => rfl

theorem LockOp.exec_holders (operation : LockOp) {volume : VolumeId} {other : Nat}
    (away : other ≠ thread ∨ (operation ≠ .acquire volume ∧ operation ≠ .release volume)) :
    (volume, other) ∈ (operation.exec thread answer node).2.holders ↔ (volume, other) ∈ node.holders := by
  cases operation with
  | acquire held =>
    simp only [LockOp.exec]
    split
    · rfl
    · split
      · rfl
      · simp only [List.mem_cons, Prod.mk.injEq, or_iff_right_iff_imp]
        rintro ⟨rfl, rfl⟩
        rcases away with away | away
        · exact absurd rfl away
        · exact absurd rfl away.1
  | release held =>
    simp only [LockOp.exec, List.mem_filter, decide_eq_true_eq, and_iff_left_iff_imp]
    rintro _ same
    cases same
    rcases away with away | away
    · exact absurd rfl away
    · exact absurd rfl away.2

end

variable {answer : Answer} {volume : VolumeId}

/-- An operation changes only what it touches. -/
theorem Op.exec_frame {operation : Op} {thread : Nat} {node after : Node} {reply : Except Err operation.Reply}
    (executed : operation.exec thread answer node = (reply, after)) (untouched : ¬ operation.touches path) :
    after.files.lookup path = node.files.lookup path := by
  have same := operation.exec_lookup thread answer node untouched
  rwa [executed] at same

theorem Op.exec_file {operation : FileOp} {thread : Nat} {node after : Node} {reply : Except Err operation.Reply}
    (executed : (Op.file operation).exec thread answer node = (reply, after)) :
    operation.exec answer node.files = (reply, after.files) := by
  simp only [Op.exec] at executed
  cases executed
  rfl

theorem Files.metadata_congr {before after : Files} {volume : VolumeId}
    (same : after.lookup (.metaFile volume) = before.lookup (.metaFile volume)) :
    Files.metadata after volume = Files.metadata before volume := by
  simp only [Files.metadata, same]

/-- `metadata_or(volume_id).get("ready", False)` -/
def Node.isReady (node : Node) (volume : VolumeId) : Bool :=
  ((Files.metadata node.files volume).map Meta.isReady).getD false

theorem Node.isReady_congr {before after : Node}
    (same : after.files.lookup (.metaFile volume) = before.files.lookup (.metaFile volume)) :
    after.isReady volume = before.isReady volume := by
  simp only [Node.isReady, Files.metadata_congr same]

section
variable {old patch : Meta} (executed : (FileOp.installMeta volume old patch).exec answer before = (reply, after))
include executed

theorem installMeta_cases :
    reply = .ok () ∧ Files.metadata after volume = some (old.merge patch) ∨
      after = before ∧ (∃ error, reply = .error error) ∧ (answer.fails = true ∨ Files.metadata before volume = none) := by
  rcases Files.attempt_cases executed with ⟨done, written⟩ | ⟨same, failed, fails | ⟨cause, written⟩⟩
  · exact .inl ⟨done, by simp [Files.metadata, FileTree.write_ok written]⟩
  · exact .inr ⟨same, failed, .inl fails⟩
  · refine .inr ⟨same, failed, .inr ?_⟩
    unfold Files.metadata
    split
    next data found =>
      obtain ⟨files, wrote⟩ := @FileTree.write_file _ _ _ _ _ _ _ (.json (old.merge patch)) found
      cases wrote.symm.trans written
    next => rfl

theorem installMeta_exec : Files.metadata after volume = some (old.merge patch) ∨ after = before := by
  rcases installMeta_cases executed with ⟨-, installed⟩ | ⟨unchanged, -⟩
  · exact .inl installed
  · exact .inr unchanged

end

theorem readMeta_exec {reply : Except Err Meta}
    (executed : (FileOp.readMeta volume).exec answer before = (reply, after)) :
    after = before ∧ (∀ data, reply = .ok data → Files.metadata before volume = some data) ∧
      (reply = .error .fileNotFound → Files.metadata before volume = none) := by
  simp only [FileOp.exec] at executed
  split at executed
  · cases executed; simp
  · split at executed <;> cases executed <;> simp_all [Files.metadata]

theorem readMeta_found {data : Meta} {reply : Except Err Meta}
    (executed : (FileOp.readMeta volume).exec answer before = (reply, after))
    (found : Files.metadata before volume = some data) :
    reply = .ok data ∨ answer.fails = true ∧ ∃ error, reply = .error error ∧ error ≠ .fileNotFound := by
  simp only [FileOp.exec] at executed
  split at executed
  next fails =>
    cases executed
    exact .inr ⟨fails, _, rfl, by simp⟩
  next =>
    unfold Files.metadata at found
    split at found
    next content lookup =>
      rw [lookup] at executed
      cases executed
      cases found
      exact .inl rfl
    next => cases found

theorem unlink_exec {missingOk : Bool} (executed : (FileOp.unlink path missingOk).exec answer before = (reply, after)) :
    after = before ∨ after.lookup path = none := by
  simp only [FileOp.exec] at executed
  split at executed
  · cases executed; exact .inl rfl
  · split at executed
    · cases executed; exact .inl rfl
    · rcases Files.change_cases executed with ⟨-, gone⟩ | ⟨same, -⟩
      · exact .inr (by simp [FileTree.unlink_ok gone])
      · exact .inl same

theorem unlink_error {missingOk : Bool} {error : Err}
    (executed : (FileOp.unlink path missingOk).exec answer before = (.error error, after)) : after = before := by
  simp only [FileOp.exec] at executed
  split at executed
  · cases executed; rfl
  · split at executed
    · cases executed
    · rcases Files.change_cases executed with ⟨done, -⟩ | ⟨same, -⟩
      · cases done
      · exact same

theorem Files.image_congr (same : after.lookup path = before.lookup path) :
    Files.image after path = Files.image before path := by
  simp only [Files.image, same]

theorem Files.write_image {image : Image} (written : before.write path (.bytes image) = .ok after) :
    Files.image after path = some image := by
  simp [Files.image, FileTree.write_ok written]

theorem cpStart_exec {source dest : Path} {opened : Image}
    (executed : (FileOp.cpStart source dest).exec answer before = (.ok opened, after)) :
    Files.image before source = some opened ∧ Files.image after dest = some (opened.firstBytes answer.amount) := by
  simp only [FileOp.exec] at executed
  split at executed
  · cases executed
  next image found =>
    split at executed
    next files written => cases executed; exact ⟨found, Files.write_image written⟩
    next => cases executed

theorem cpFinish_exec {source dest : Path} {opened : Image}
    (executed : (FileOp.cpFinish source dest opened).exec answer before = (.ok (), after))
    (present : Files.image before dest ≠ none) :
    Files.image after dest = some ((Files.image before source).getD opened) := by
  simp only [FileOp.exec] at executed
  split at executed
  · cases executed
  · split at executed
    · split at executed
      next files written => cases executed; exact Files.write_image written
      next => cases executed
    next missing =>
      simp only [Files.present, Option.isSome_iff_ne_none, ne_eq, not_not] at missing
      simp [Files.image, missing] at present

theorem truncate_exec {length : Nat} (executed : (FileOp.truncate path length).exec answer before = (reply, after)) :
    reply = .ok () ∧ Files.image after path = some (((Files.image before path).getD .empty).truncate length) ∨
      after = before ∧ ∃ error, reply = .error error := by
  rcases Files.attempt_cases executed with ⟨done, written⟩ | ⟨same, failed, -⟩
  · exact .inl ⟨done, Files.write_image written⟩
  · exact .inr ⟨same, failed⟩

theorem fallocate_exec {length : Nat} (executed : (FileOp.fallocate path length).exec answer before = (reply, after)) :
    (∃ reached ≤ length, (reply = .ok () → reached = length) ∧
      Files.image after path = some (((Files.image before path).getD .empty).fallocate reached)) ∨
      after = before ∧ ∃ error, reply = .error error := by
  simp only [FileOp.exec] at executed
  split at executed
  · cases executed
    rcases Files.change_cases (Prod.eta _).symm with ⟨-, written⟩ | ⟨same, -⟩
    · exact .inl ⟨_, Nat.min_le_right _ _, by simp, Files.write_image written⟩
    · exact .inr ⟨same, _, rfl⟩
  · rcases Files.change_cases executed with ⟨-, written⟩ | ⟨same, cause, failed, -⟩
    · exact .inl ⟨length, Nat.le_refl _, fun _ => rfl, Files.write_image written⟩
    · exact .inr ⟨same, _, failed⟩

theorem getsize_exec {files after : Files} {reply : Except Err Nat}
    (executed : (FileOp.getsize path).exec answer files = (reply, after)) (present : Files.image files path ≠ none) :
    ∃ size, reply = .ok size := by
  simp only [FileOp.exec] at executed
  split at executed
  · cases executed; exact ⟨_, rfl⟩
  next missing => exact absurd missing present

theorem touch_exec (executed : (FileOp.touch path).exec answer before = (reply, after)) :
    after = before ∧ (reply = .ok () → before.lookup path ≠ none) ∨
      reply = .ok () ∧ before.lookup path = none ∧ after.lookup path = some (.file (.bytes .empty)) := by
  simp only [FileOp.exec, Files.present, Option.isSome_iff_ne_none] at executed
  split at executed
  · cases executed; exact .inl ⟨rfl, nofun⟩
  · split at executed
    next present => cases executed; exact .inl ⟨rfl, fun _ => present⟩
    next missing =>
      rcases Files.change_cases executed with ⟨done, written⟩ | ⟨same, cause, failed, -⟩
      · exact .inr ⟨done, not_not.mp missing, by simp [FileTree.write_ok written]⟩
      · exact .inl ⟨same, by simp [failed]⟩

theorem rmdir_exec (executed : (FileOp.rmdir path).exec answer before = (reply, after)) :
    after = before ∨ before.lookup path = some .directory ∧ after.lookup path = none := by
  rcases Files.attempt_cases executed with ⟨-, gone⟩ | ⟨same, -⟩
  · refine .inr ⟨?_, by simp [FileTree.rmdir_ok gone]⟩
    unfold FileTree.rmdir at gone
    split at gone <;> simp_all
  · exact .inl same

theorem mkdir_exec {existOk : Bool} (executed : (FileOp.mkdir path existOk).exec answer before = (reply, after)) :
    after.lookup path = before.lookup path ∨ before.lookup path = none ∧ after.lookup path = some .directory := by
  rcases Files.attempt_cases executed with ⟨-, made⟩ | ⟨rfl, -⟩
  · rcases FileTree.mkdir_ok made path with same | ⟨-, missing, created⟩
    · exact .inl same
    · exact .inr ⟨missing, created⟩
  · exact .inl rfl

theorem mkdirs_exec (executed : (FileOp.mkdirs path).exec answer before = (reply, after)) (other : Path) :
    after.lookup other = before.lookup other ∨
      FileTree.Above path other ∧ before.lookup other = none ∧ after.lookup other = some .directory := by
  rcases Files.attempt_cases executed with ⟨-, made⟩ | ⟨rfl, -⟩
  · exact FileTree.mkdirs_ok made other
  · exact .inl rfl

theorem symlink_exec {text : String} (executed : (FileOp.symlink path text).exec answer before = (reply, after)) :
    after = before ∨ after.lookup path = some (.file (.link text)) := by
  rcases Files.attempt_cases executed with ⟨-, written⟩ | ⟨same, -⟩
  · exact .inr (by simp [FileTree.write_ok written])
  · exact .inl same

/-- Accepting a call changes no file. -/
theorem Call.accept_unchanged {call : Call} {before after : Node} (accepted : call.accept before = some after) :
    after.files = before.files ∧ after.devices = before.devices ∧ after.holders = before.holders := by
  unfold Call.accept at accepted
  split at accepted <;> (try split at accepted) <;> cases accepted <;> exact ⟨rfl, rfl, rfl⟩

theorem Drift.apply_holders (change : Drift) (node : Node) : (change.apply node).holders = node.holders := by
  cases change with
  | write img data physical =>
    simp only [Drift.apply]
    split
    · split <;> rfl
    · rfl
  | detach device => rfl

theorem Drift.apply_tasks (change : Drift) (node : Node) : (change.apply node).tasks = node.tasks := by
  cases change with
  | write img data physical =>
    simp only [Drift.apply]
    split
    · split <;> rfl
    · rfl
  | detach device => rfl

theorem Drift.apply_lookup (change : Drift) (node : Node) (other : ∀ img : ImgFile, path ≠ img.path) :
    (change.apply node).files.lookup path = node.files.lookup path := by
  cases change with
  | write img data physical =>
    simp only [Drift.apply]
    split
    · split
      · exact Files.change_lookup fun after written => Files.write_lookup_ne written (other img)
      · rfl
    · rfl
  | detach device => rfl

theorem TaskOp.exec_phase {tasks after : Tasks} {operation : TaskOp} {reply : Except Err operation.Reply}
    (executed : operation.exec answer tasks = (reply, after)) (other : operation ≠ .startWorker) :
    after.phase = tasks.phase ∧ after.workerStarted = tasks.workerStarted := by
  have moved : after = (operation.exec answer tasks).2 := by rw [executed]
  subst moved
  cases operation with
  | startWorker => exact absurd rfl other
  | _ =>
    simp only [exec]
    repeat' split
    all_goals constructor <;> first | rfl | trivial

end Rawfile
