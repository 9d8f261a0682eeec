import Rawfile.Calm
import Rawfile.Proofs.Frame

/-! What the parts of the driver do on a calm node, one rule for each. -/

namespace Rawfile
open Effects

variable {files : Files} {image : Image}

theorem Files.metadata_iff {volume : VolumeId} {data : Meta} :
    Files.metadata files volume = some data ↔ files.lookup (.metaFile volume) = some (.file (.json data)) := by
  unfold Files.metadata
  split <;> simp_all

theorem Files.image_iff {path : Path} :
    Files.image files path = some image ↔ files.lookup path = some (.file (.bytes image)) := by
  unfold Files.image
  split <;> simp_all

theorem Files.metadata_stands {volume : VolumeId} {data : Meta} (found : Files.metadata files volume = some data) :
    files.lookup (.metaDir volume) = some .directory := by
  have found := Files.metadata_iff.mp found
  exact files.rooted (.metaFile volume) _ (by rw [show files.entries.lookup _ = _ from found]; simp) rfl

structure Agrees (paths : Path → Prop) (before after : Clocked) : Prop where
  files : ∀ path, ¬ paths path → after.node.files.lookup path = before.node.files.lookup path
  devices : after.node.devices = before.node.devices
  time : before.time ≤ after.time

namespace Agrees

variable {paths : Path → Prop} {first second third : Clocked}

theorem refl (paths : Path → Prop) (now : Clocked) : Agrees paths now now := ⟨fun _ _ => rfl, rfl, Nat.le_refl _⟩

theorem trans (one : Agrees paths first second) (two : Agrees paths second third) : Agrees paths first third :=
  ⟨fun path other => (two.files path other).trans (one.files path other), two.devices.trans one.devices,
    Nat.le_trans one.time two.time⟩

theorem mono {wider : Path → Prop} (agrees : Agrees paths first second) (implies : ∀ path, paths path → wider path) :
    Agrees wider first second :=
  ⟨fun path other => agrees.files path fun inside => other (implies path inside), agrees.devices, agrees.time⟩

theorem metadata {volume : VolumeId} (agrees : Agrees paths first second) (other : ¬ paths (.metaFile volume)) :
    Files.metadata second.node.files volume = Files.metadata first.node.files volume :=
  Files.metadata_congr (agrees.files _ other)

end Agrees

def Removed (path : Path) (before after : Clocked) : Prop :=
  after.node.files.lookup path = none ∧ Agrees (fun other => other = path) before after

def Relocked (volume : VolumeId) (before after : Clocked) : Prop :=
  Agrees (fun path => path = .lockFile volume) before after ∧
    after.node.files.lookup (.lockFile volume) ≠ some .directory

theorem Files.children_nil {path : Path}
    (bare : ∀ other, Hierarchy.parent other = some path → files.lookup other = none) : files.children path = [] := by
  refine List.eq_nil_iff_forall_not_mem.mpr fun other member => ?_
  obtain ⟨present, parent⟩ := FileTree.mem_children.mp member
  exact present (bare other parent)

theorem Files.children_leaf {path : Path} (leaf : path.isDirName = false) : files.children path = [] :=
  children_nil fun _ parent => by cases leaf.symm.trans (Path.parent_isDirName parent)

namespace Calm

variable {α : Type} {world : World Op Op.Reply Err Answer Clocked} [Calmly world] {now : Clocked} {volume : VolumeId}
  {data : Meta} {path : Path} {through : Clocked → Prop} {post : Except Err α → Clocked → Prop}

section Looking

theorem metadata (found : Files.metadata now.node.files volume = some data) :
    world.Yields (.ok data) (Rawfile.metadata volume) now := by
  refine .perform fun answer may => ?_
  have reliable : answer.fails = false := Calmly.steady _ _ _ may
  simp [Calmly.exec_eq, Clocked.exec, Op.exec, FileOp.exec, reliable, Files.metadata_iff.mp found]

theorem metadata_missing (missing : now.node.files.lookup (.metaFile volume) = none) :
    world.Yields (.error .fileNotFound) (Rawfile.metadata volume) now := by
  refine .perform fun answer may => ?_
  have reliable : answer.fails = false := Calmly.steady _ _ _ may
  simp [Calmly.exec_eq, Clocked.exec, Op.exec, FileOp.exec, reliable, missing]

theorem metadataOr (found : Files.metadata now.node.files volume = some data) :
    world.Yields (.ok data) (Rawfile.metadataOr volume) now :=
  (metadata found).tryExcept

theorem metadataOr_missing (missing : now.node.files.lookup (.metaFile volume) = none) :
    world.Yields (.ok {}) (Rawfile.metadataOr volume) now :=
  (metadata_missing missing).attempt.bind (World.Yields.pure ({} : Meta) now)

theorem imgFile {pool : PoolName} (found : Files.metadata now.node.files volume = some data)
    (named : data.imgFile = some pool) : world.Yields (.ok ⟨pool, volume⟩) (Rawfile.imgFile volume) now := by
  refine (metadata found).bind ?_
  rw [named]
  exact .pure _ _

theorem imgSize {size : Nat} (found : Files.metadata now.node.files volume = some data)
    (named : data.size = some size) : world.Yields (.ok size) (Rawfile.imgSize volume) now := by
  refine (metadata found).bind ?_
  rw [named]
  exact .pure _ _

omit [Calmly world] in
theorem getVolumePath {config : DriverConfig} {pool : PoolName} (configured : pool ∈ config.storagePools) :
    world.Yields (.ok (.volumeDir pool volume)) (Rawfile.getVolumePath config pool volume) now := by
  rw [Rawfile.getVolumePath, if_pos configured]
  exact .pure _ _

theorem snapshotsDir {config : DriverConfig} {pool : PoolName} (found : Files.metadata now.node.files volume = some data)
    (named : data.storagePool = some pool) (configured : pool ∈ config.storagePools) (temporary : Bool) :
    world.Yields (.ok (.snapshotsDir pool volume temporary)) (Rawfile.snapshotsDir config volume temporary)
      now := by
  refine ((metadata found).bind ?_).bind (.pure _ _)
  rw [named]
  exact (getVolumePath configured).bind (.pure _ _)

theorem «exists» (path : Path) : world.Yields (.ok (now.node.files.present path)) (Driver.file (.exists path)) now := by
  refine .perform fun _ _ => ?_
  rw [Calmly.exec_eq]
  rfl

theorem glob (path : Path) : world.Yields (.ok (now.node.files.children path)) (Driver.file (.glob path)) now := by
  refine .perform fun _ _ => ?_
  rw [Calmly.exec_eq]
  rfl

theorem getsize (found : Files.image now.node.files path = some image) :
    world.Yields (.ok image.size) (Driver.file (.getsize path)) now :=
  .perform fun _ _ => by simp [Calmly.exec_eq, Clocked.exec, Op.exec, FileOp.exec, found]

theorem attachedLoops (path : Path) :
    world.Yields (.ok (now.node.devices.attached path)) (Rawfile.attachedLoops path) now := by
  refine .perform fun answer may => ?_
  have reliable : answer.fails = false := Calmly.steady _ _ _ may
  simp [Calmly.exec_eq, Clocked.exec, Op.exec, DeviceOp.exec, reliable]

theorem askCapacity {capacity : PoolName → Nat} (pool : PoolName) :
    (calm capacity).Yields (.ok (capacity pool)) (Driver.ask (.capacity pool)) now := by
  refine .perform fun answer may => ?_
  have same : answer.amount = capacity pool := may
  simp [calm, Clocked.exec, Op.exec, Question.exec, same]

end Looking

theorem clock {next : Nat → Driver α} (pass : through now)
    (rest : ∀ time, now.time ≤ time → world.Surely through post (next time) { now with time }) :
    world.Surely through post (Driver.ask .clock >>= next) now := by
  refine ⟨pass, fun answer may => ?_⟩
  rw [Calmly.exec_eq]
  exact rest answer.amount (Calmly.steady _ _ _ may)

theorem exec_time {operation : Op} {answer : Answer} (may : world.may operation answer now) :
    now.time ≤ (world.exec operation answer now).2.time := by
  simp only [Calmly.exec_eq, Clocked.exec]
  split
  · exact Calmly.steady _ _ _ may
  · exact Nat.le_refl _

/-- Time goes on, whatever a program does. -/
theorem ends_later (program : Driver α) : world.Ends (fun _ after => now.time ≤ after.time) program now := by
  induction program generalizing now with
  | done value => exact ⟨trivial, Nat.le_refl _⟩
  | raise error => exact ⟨trivial, Nat.le_refl _⟩
  | request operation next ih =>
    refine ⟨trivial, fun answer may => (ih _).weaken (fun _ pass => pass) ?_⟩
    intro _ after _ later
    exact Nat.le_trans (exec_time may) later

section
variable {operation : FileOp} {answer : Answer} {after : Clocked} {reply : Except Err operation.Reply}

theorem file_exec (executed : Clocked.exec (.file operation) answer now = (reply, after)) :
    operation.exec answer now.node.files = (reply, after.node.files) ∧ after.node.devices = now.node.devices ∧
      after.time = now.time := by
  simp only [Clocked.exec, Op.exec] at executed
  cases executed
  exact ⟨rfl, rfl, rfl⟩

theorem file_agrees (executed : Clocked.exec (.file operation) answer now = (reply, after)) :
    Agrees operation.touches now after := by
  obtain ⟨ran, devices, time⟩ := file_exec executed
  refine ⟨fun other untouched => ?_, devices, time.ge⟩
  have same := operation.exec_lookup answer now.node.files untouched
  rwa [ran] at same

end

/-- One operation on the files: it does not fail, and what it does not touch stays. -/
theorem file (operation : FileOp) {post : Except Err operation.Reply → Clocked → Prop} (pass : through now)
    (rest : ∀ answer reply after, answer.fails = false →
      operation.exec answer now.node.files = (reply, after.node.files) →
      Agrees operation.touches now after → through after ∧ post reply after) :
    world.Surely through post (Driver.file operation) now := by
  refine @World.Surely.perform _ _ _ _ _ _ _ (Op.file operation) _ _ pass ?_
  intro answer reply after may executed
  rw [Calmly.exec_eq] at executed
  exact rest answer reply after (Calmly.steady _ _ _ may) (file_exec executed).1 (file_agrees executed)

theorem unlink_exec {answer : Answer} {after : Clocked} {reply : Except Err Unit}
    (plain : now.node.files.lookup path ≠ some .directory) (reliable : answer.fails = false)
    (executed : Clocked.exec (.file (.unlink path true)) answer now = (reply, after)) :
    reply = .ok () ∧ Removed path now after := by
  obtain ⟨ran, -, -⟩ := file_exec executed
  have agrees : Agrees (fun other => other = path) now after := file_agrees executed
  simp only [FileOp.exec, reliable, Bool.false_eq_true, if_false] at ran
  cases found : now.node.files.lookup path with
  | none =>
    simp only [Files.present, found, Option.isSome_none, Bool.not_false, Bool.and_true, if_true, Prod.mk.injEq] at ran
    exact ⟨ran.1.symm, by rw [← ran.2, found], agrees⟩
  | some entry =>
    simp only [Files.present, found, Option.isSome_some, Bool.not_true, Bool.and_false, Bool.false_eq_true,
      if_false] at ran
    cases entry with
    | directory => exact absurd found plain
    | file content =>
      obtain ⟨files, gone⟩ := FileTree.unlink_file found
      rw [gone] at ran
      simp only [Files.change, Prod.mk.injEq] at ran
      exact ⟨ran.1.symm, by rw [← ran.2, FileTree.unlink_ok gone, if_pos rfl], agrees⟩

theorem unlink {post : Except Err Unit → Clocked → Prop} (plain : now.node.files.lookup path ≠ some .directory)
    (pass : through now) (rest : ∀ after, Removed path now after → through after ∧ post (.ok ()) after) :
    world.Surely through post (Driver.file (.unlink path true)) now := by
  refine .perform pass fun answer reply after may executed => ?_
  rw [Calmly.exec_eq] at executed
  obtain ⟨rfl, removed⟩ := unlink_exec plain (Calmly.steady _ _ _ may) executed
  exact rest after removed

theorem rmdir_exec {answer : Answer} {after : Clocked} {reply : Except Err Unit}
    (found : now.node.files.lookup path = some .directory) (vacant : now.node.files.children path = [])
    (reliable : answer.fails = false) (executed : Clocked.exec (.file (.rmdir path)) answer now = (reply, after)) :
    reply = .ok () ∧ Removed path now after := by
  obtain ⟨ran, -, -⟩ := file_exec executed
  simp only [FileOp.exec, reliable, Bool.false_eq_true, if_false] at ran
  obtain ⟨files, gone⟩ := FileTree.rmdir_vacant found vacant
  rw [gone] at ran
  simp only [Files.change, Prod.mk.injEq] at ran
  obtain ⟨rfl, same⟩ := ran
  exact ⟨rfl, by rw [← same, FileTree.rmdir_ok gone, if_pos rfl], file_agrees executed⟩

private theorem rmdir_missing {answer : Answer} {after : Clocked} {reply : Except Err Unit}
    (missing : now.node.files.lookup path = none) (reliable : answer.fails = false)
    (executed : Clocked.exec (.file (.rmdir path)) answer now = (reply, after)) :
    reply = .error .fileNotFound ∧ after.node = now.node ∧ after.time = now.time := by
  have refused : now.node.files.rmdir path = .error .notFound := by
    unfold FileTree.rmdir
    rw [missing]
  simp only [Clocked.exec, Op.exec, FileOp.exec, reliable, Bool.false_eq_true, if_false, refused, Files.change,
    FileError.toErr] at executed
  cases executed
  exact ⟨rfl, rfl, rfl⟩

theorem rmdir {post : Except Err Unit → Clocked → Prop}
    (kind : now.node.files.lookup path = none ∨ now.node.files.lookup path = some .directory)
    (vacant : now.node.files.children path = []) (pass : through now)
    (rest : ∀ after, Removed path now after → through after ∧ post (.ok ()) after) :
    world.Surely through post (VolumeManager.rmdirIfPresent path) now := by
  refine .tryExcept (.perform pass fun answer reply after may executed => ?_)
  have reliable : answer.fails = false := Calmly.steady _ _ _ may
  rw [Calmly.exec_eq] at executed
  rcases kind with missing | found
  · obtain ⟨rfl, same, time⟩ := rmdir_missing missing reliable executed
    have removed : Removed path now after :=
      ⟨by rw [same, missing], fun _ _ => by rw [same], by rw [same], time.ge⟩
    exact ⟨(rest after removed).1, (rest after removed).1, (rest after removed).2⟩
  · obtain ⟨rfl, removed⟩ := rmdir_exec found vacant reliable executed
    exact ⟨(rest after removed).1, (rest after removed).1, (rest after removed).2⟩

/-- On a node that does not fail, the lock is taken at once. -/
theorem acquire_exec {answer : Answer} (standing : now.node.files.lookup (.metaDir volume) = some .directory)
    (filed : now.node.files.lookup (.lockFile volume) ≠ some .directory) (reliable : answer.fails = false) :
    ∃ locked, Clocked.exec (.lock (.acquire volume)) answer now = (.ok (), locked) ∧ Relocked volume now locked := by
  have frame : ∀ path, ¬ path = .lockFile volume →
      ((Op.lock (.acquire volume)).exec 0 answer now.node).2.files.lookup path = now.node.files.lookup path :=
    fun path other => Op.exec_lookup 0 answer now.node _ other
  have devices := Op.exec_devices 0 answer now.node (.lock (.acquire volume)) (by simp)
  have granted : ((Op.lock (.acquire volume)).exec 0 answer now.node).1 = .ok () ∧
      ((Op.lock (.acquire volume)).exec 0 answer now.node).2.files.lookup (.lockFile volume) ≠ some .directory := by
    simp only [Op.exec, LockOp.exec, FileOp.exec, Bool.false_eq_true, if_false]
    by_cases present : now.node.files.present (.lockFile volume) = true
    · simp [present, reliable, filed]
    · have above : now.node.files.grounded (.lockFile volume) = true := by
        refine FileTree.grounded_iff.mpr fun up parent => ?_
        cases parent
        exact standing
      have written : ∃ files, now.node.files.write (.lockFile volume) (.bytes .empty) = .ok files := by
        have plain : ¬ now.node.files.isDirectory (.lockFile volume) = true :=
          fun directory => filed (FileTree.isDirectory_iff.mp directory)
        exact ⟨_, by rw [FileTree.write, dif_pos above, dif_neg plain]⟩
      obtain ⟨files, written⟩ := written
      simp [present, reliable, written, Files.change, FileTree.write_ok written]
  exact ⟨_, Prod.ext granted.1 rfl, ⟨frame, devices, Nat.le_refl _⟩, granted.2⟩

private theorem release_exec {answer : Answer} (filed : now.node.files.lookup (.lockFile volume) ≠ some .directory) :
    ∃ released, Clocked.exec (.lock (.release volume)) answer now = (.ok (), released) ∧
      Relocked volume now released ∧ released.node.files.lookup (.lockFile volume) = none := by
  have frame : ∀ path, ¬ path = .lockFile volume →
      ((Op.lock (.release volume)).exec 0 answer now.node).2.files.lookup path = now.node.files.lookup path :=
    fun path other => Op.exec_lookup 0 answer now.node _ other
  have devices := Op.exec_devices 0 answer now.node (.lock (.release volume)) (by simp)
  have gone : ((Op.lock (.release volume)).exec 0 answer now.node).2.files.lookup (.lockFile volume) = none :=
    (@unlink_exec now (.lockFile volume) {} _ _ filed rfl rfl).2.1
  exact ⟨_, rfl, ⟨⟨frame, devices, Nat.le_refl _⟩, fun directory => by cases gone.symm.trans directory⟩, gone⟩

/-- The lock of a volume with metadata is free. Whatever is known apart from
the lock file is known inside and outside of the block. -/
theorem withVolLock {body : Driver α} (standing : now.node.files.lookup (.metaDir volume) = some .directory)
    (filed : now.node.files.lookup (.lockFile volume) ≠ some .directory)
    (pass : through now) (passes : ∀ {before after}, Relocked volume before after → through before → through after)
    (inside : ∀ locked, Relocked volume now locked → world.Surely through (fun outcome after =>
      after.node.files.lookup (.lockFile volume) ≠ some .directory ∧
        ∀ released, Relocked volume after released → released.node.files.lookup (.lockFile volume) = none →
          post outcome released) body locked) : world.Surely through post (Rawfile.withVolLock volume body) now := by
  refine ⟨pass, fun answer may => ?_⟩
  obtain ⟨locked, acquired, relocked⟩ := acquire_exec standing filed (Calmly.steady _ _ _ may)
  rw [Calmly.exec_eq, acquired]
  refine .tryFinally ((inside locked relocked).weaken (fun _ pass => pass) ?_)
  intro outcome after pass
  rintro ⟨filed, ended⟩
  refine .perform pass fun answer reply released _ executed => ?_
  obtain ⟨other, ran, relocked, gone⟩ := @release_exec after volume answer filed
  rw [Calmly.exec_eq] at executed
  cases executed.symm.trans ran
  exact ⟨passes relocked pass, passes relocked pass, ended _ relocked gone⟩

theorem patchMetadata {config : DriverConfig} {pool : PoolName} {patch : Meta} {post : Except Err Unit → Clocked → Prop}
    (found : Files.metadata now.node.files volume = some data) (configured : pool ∈ config.storagePools)
    (pass : through now) (rest : ∀ after, Files.metadata after.node.files volume = some (data.merge patch) →
      Agrees (fun path => path = .metaFile volume) now after → through after ∧ post (.ok ()) after) :
    world.Surely through post (Rawfile.patchMetadata config volume pool patch) now := by
  refine (metadataOr found).andThen pass ((getVolumePath configured).andThen pass ?_)
  refine file (.installMeta volume data patch) pass fun answer reply after reliable ran agrees => ?_
  rcases installMeta_cases ran with ⟨rfl, installed⟩ | ⟨_, _, failed | missing⟩
  · exact rest after installed agrees
  · cases reliable.symm.trans failed
  · cases missing.symm.trans found

section Images

variable {config : DriverConfig} {pool : PoolName}

theorem physicalSize {path : Path} (stored : Files.image now.node.files path = some image) :
    world.Yields (.ok image.physical) (Driver.file (.physicalSize path)) now := by
  refine .perform fun _ _ => ?_
  simp [Calmly.exec_eq, Clocked.exec, Op.exec, FileOp.exec, stored]

theorem isAttached (found : Files.metadata now.node.files volume = some data) (pooled : data.storagePool = some pool)
    (located : data.imgFile = some pool) (configured : pool ∈ config.storagePools)
    (housed : now.node.files.present (.volumeDir pool volume) = true) :
    world.Yields (.ok (decide (now.node.devices.attached (ImgFile.path ⟨pool, volume⟩) ≠ [])))
      (VolumeManager.isAttached config volume) now := by
  refine (metadataOr found).bind ?_
  rw [pooled]
  refine (getVolumePath configured).bind ((«exists» _).bind ?_)
  rw [housed]
  exact (imgFile found located).bind ((attachedLoops _).bind (.pure _ _))

theorem growImage {path : Path} {thin : Bool} {length : Nat} {post : Except Err Unit → Clocked → Prop}
    (stored : Files.image now.node.files path = some image) (positive : 0 < length) (pass : through now)
    (rest : ∀ after, Files.image after.node.files path =
        some (if thin then image.truncate length else image.fallocate length) →
      Agrees (fun other => other = path) now after → through after ∧ post (.ok ()) after) :
    world.Surely through post (Rawfile.growImage path thin length) now := by
  have writes (content : Content) : ∃ files, now.node.files.write path content = .ok files :=
    FileTree.write_file (Files.image_iff.mp stored)
  unfold Rawfile.growImage
  split
  next sparse =>
    refine file (.truncate path length) pass fun answer reply after reliable ran agrees => ?_
    obtain ⟨files, made⟩ := writes (.bytes (image.truncate length))
    simp only [FileOp.exec, reliable, stored, Option.getD_some, made, Files.change] at ran
    obtain ⟨rfl, same⟩ := Prod.mk.inj ran
    apply rest after _ agrees
    rw [← same, if_pos sparse]
    exact Files.write_image made
  next full =>
    refine file (.fallocate path length) pass fun answer reply after reliable ran agrees => ?_
    obtain ⟨files, made⟩ := writes (.bytes (image.fallocate length))
    have nonzero : (length == 0) = false := by simp; omega
    simp only [FileOp.exec, reliable, nonzero, stored, Option.getD_some, made, Files.change] at ran
    obtain ⟨rfl, same⟩ := Prod.mk.inj ran
    apply rest after _ agrees
    rw [← same, if_neg full]
    exact Files.write_image made

end Images
end Calm
end Rawfile
