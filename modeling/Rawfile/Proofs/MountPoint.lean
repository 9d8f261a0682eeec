import Rawfile.Proofs.CallFootprint
import Rawfile.Proofs.Calm

/-! What mounting and unmounting do at one mount point. Whatever fails, the
point stays in one of five states, and nothing else changes. On a calm node
`unmount` clears the point in all of them but one. -/

namespace Rawfile
open Effects World

/-- What the driver makes of a mount point: at most one mount is on it, and
none where nothing is there to be mounted on. Only some points are ever files. -/
inductive MountState (files : Bool) (point : Path) (now : Clocked) : Prop
  | absent (missing : now.node.files.lookup point = none) (free : now.node.devices.mountsAt point = [])
  | file {content} (may : files = true) (found : now.node.files.lookup point = some (.file content))
      (plain : ∀ text, content ≠ .link text) (free : now.node.devices.mountsAt point = [])
  | bound {content mount} (may : files = true) (found : now.node.files.lookup point = some (.file content))
      (plain : ∀ text, content ≠ .link text) (held : now.node.devices.mountsAt point = [mount])
  | directory (found : now.node.files.lookup point = some .directory) (free : now.node.devices.mountsAt point = [])
  | mounted {device fs} (found : now.node.files.lookup point = some .directory)
      (held : now.node.devices.mountsAt point = [⟨point, .loop device, some fs⟩])

structure Around (point : Path) (before after : Clocked) : Prop where
  files : ∀ path, path ≠ point → after.node.files.lookup path = before.node.files.lookup path
  loops : after.node.devices.loops = before.node.devices.loops
  mounts : ∀ other, other ≠ point → after.node.devices.mountsAt other = before.node.devices.mountsAt other

def Cleared (point : Path) (now : Clocked) : Prop :=
  now.node.files.lookup point = none ∧ now.node.devices.mountsAt point = []

namespace Devices

variable {devices : Devices} {point other : Path} {mount : Mount}

private theorem mountsAt_cons_self (at_point : mount.point = point) :
    ({ devices with mounts := mount :: devices.mounts } : Devices).mountsAt point = mount :: devices.mountsAt point := by
  simp [mountsAt, at_point]

private theorem mountsAt_cons_other (elsewhere : mount.point ≠ point) :
    ({ devices with mounts := mount :: devices.mounts } : Devices).mountsAt point = devices.mountsAt point := by
  simp [mountsAt, elsewhere]

private theorem mountsAt_eraseP (mounts : List Mount) :
    (mounts.eraseP (fun mount => mount.point = point)).filter (fun mount => mount.point = point) =
      (mounts.filter (fun mount => mount.point = point)).tail := by
  induction mounts with
  | nil => rfl
  | cons mount rest ih =>
    by_cases here : mount.point = point
    · simp [here]
    · simp only [List.eraseP_cons, here, decide_false, Bool.false_eq_true, cond_false, List.filter_cons, if_false]
      exact ih

private theorem mountsAt_eraseP_other (mounts : List Mount) (different : other ≠ point) :
    (mounts.eraseP (fun mount => mount.point = point)).filter (fun mount => mount.point = other) =
      mounts.filter (fun mount => mount.point = other) := by
  induction mounts with
  | nil => rfl
  | cons mount rest ih =>
    by_cases here : mount.point = point
    · simp [here, Ne.symm different]
    · simp only [List.eraseP_cons, here, decide_false, cond_false, List.filter_cons, ih]

private theorem any_mounted : devices.mounts.any (fun mount => mount.point = point) = true ↔ devices.mountsAt point ≠ [] := by
  simp [mountsAt, List.filter_eq_nil_iff]

private theorem mountedFs_isSome {device : Device} {fs : FileSystemName} (held : ⟨point, .loop device, some fs⟩ ∈ devices.mounts) :
    ∃ name, devices.mountedFs device = some name := by
  rw [← Option.isSome_iff_exists, mountedFs, List.findSome?_isSome_iff]
  exact ⟨_, held, by simp⟩

end Devices

section
variable {files : Bool} {point : Path} {first second third now : Clocked}

theorem Around.refl (point : Path) (now : Clocked) : Around point now now := ⟨fun _ _ => rfl, rfl, fun _ _ => rfl⟩

theorem Around.trans (one : Around point first second) (two : Around point second third) : Around point first third :=
  ⟨fun path other => (two.files path other).trans (one.files path other), two.loops.trans one.loops,
    fun path other => (two.mounts path other).trans (one.mounts path other)⟩

theorem Around.ofNode (same : second.node = first.node) : Around point first second := by
  refine ⟨fun _ _ => ?_, ?_, fun _ _ => ?_⟩ <;> rw [same]

theorem MountState.congr (state : MountState files point first)
    (same : second.node.files.lookup point = first.node.files.lookup point)
    (mounts : second.node.devices.mountsAt point = first.node.devices.mountsAt point) : MountState files point second := by
  cases state with
  | absent missing free => exact .absent (same.trans missing) (mounts.trans free)
  | file may found plain free => exact .file may (same.trans found) plain (mounts.trans free)
  | bound may found plain held => exact .bound may (same.trans found) plain (mounts.trans held)
  | directory found free => exact .directory (same.trans found) (mounts.trans free)
  | mounted found held => exact .mounted (same.trans found) (mounts.trans held)

private theorem MountState.free_of_missing (state : MountState files point now) (missing : now.node.files.lookup point = none) :
    now.node.devices.mountsAt point = [] := by
  cases state with
  | absent _ free => exact free
  | file _ _ _ free => exact free
  | directory _ free => exact free
  | bound _ found => cases missing.symm.trans found
  | mounted found => cases missing.symm.trans found

private theorem MountState.plain_file {content : Content} (state : MountState files point now)
    (found : now.node.files.lookup point = some (.file content)) : files = true ∧ ∀ text, content ≠ .link text := by
  cases state with
  | absent missing => cases missing.symm.trans found
  | file may other plain => cases other.symm.trans found; exact ⟨may, plain⟩
  | bound may other plain => cases other.symm.trans found; exact ⟨may, plain⟩
  | directory other => cases other.symm.trans found
  | mounted other => cases other.symm.trans found

theorem MountState.ofNode (state : MountState files point first) (same : second.node = first.node) : MountState files point second :=
  state.congr (by rw [same]) (by rw [same])

end

def Steady (files : Bool) (point : Path) (before now : Clocked) : Prop := MountState files point now ∧ Around point before now

namespace Loose

variable {α β : Type} {now before : Clocked} {point : Path} {through : Clocked → Prop}

theorem look {program : Driver α} (within : program.Within Op.lawful Op.reads) :
    loose.Surely (fun state => state.node = now.node) (fun _ state => state.node = now.node) program now := by
  refine .ofWithin (fun state : Clocked => state.node = now.node) within (fun operation answer state => ?_)
    (fun operation answer state reads _ same => ?_) rfl
  · exact Op.exec_lawful operation 0 answer state.node
  · exact (reads.unchanged (Prod.ext rfl rfl)).trans same

theorem looking {program : Driver α} {next : α → Driver β} {post : Except Err β → Clocked → Prop}
    (within : program.Within Op.lawful Op.reads) (pass : ∀ state, state.node = now.node → through state)
    (rest : ∀ value state, state.node = now.node → loose.Surely through post (next value) state)
    (failing : ∀ error state, state.node = now.node → post (.error error) state) :
    loose.Surely through post (program >>= next) now := by
  refine .andThen ((look within).weaken pass fun _ _ _ same => same) rest failing

theorem findmnt (point : Path) :
    loose.Yields (.ok ((now.node.devices.mountsAt point).head?.map Mount.source)) (getDeviceForMountpoint point) now :=
  .perform fun _ _ => rfl

theorem «exists» (path : Path) : loose.Yields (.ok (now.node.files.present path)) (Driver.file (.exists path)) now :=
  .perform fun _ _ => rfl

def kindOf : Option (Entry Content) → Option FileKind
  | none => none
  | some .directory => some .directory
  | some (.file (.link target)) => some (.link target)
  | some (.file _) => some .file

theorem kind (path : Path) :
    loose.Yields (.ok (kindOf (now.node.files.lookup path))) (Driver.file (.kind path)) now := by
  refine .perform fun answer _ => ?_
  simp only [loose, Clocked.exec, Op.exec, FileOp.exec]
  congr 2

private theorem kindOf_plain {content : Content} (plain : ∀ text, content ≠ .link text) :
    kindOf (some (.file content)) = some .file := by
  cases content with
  | link text => exact absurd rfl (plain text)
  | _ => rfl

end Loose

section Locking
variable {α : Type} {now : Clocked} {volume : VolumeId} {through : Clocked → Prop}

theorem Relocked.ofLock {operation : LockOp} {answer : Answer}
    (own : operation = .acquire volume ∨ operation = .release volume)
    (filed : now.node.files.lookup (.lockFile volume) ≠ some .directory) :
    Relocked volume now (loose.exec (.lock operation) answer now).2 := by
  have touched : ∀ path, (Op.lock operation).touches path → path = .lockFile volume := by
    rcases own with rfl | rfl <;> exact fun _ same => same
  have frame : ∀ path, ¬ path = .lockFile volume →
      ((Op.lock operation).exec 0 answer now.node).2.files.lookup path = now.node.files.lookup path :=
    fun path other => Op.exec_lookup 0 answer now.node _ fun touches => other (touched path touches)
  have devices := Op.exec_devices 0 answer now.node (.lock operation) (by simp)
  refine ⟨⟨frame, devices, Nat.le_refl _⟩, ?_⟩
  show ((Op.lock operation).exec 0 answer now.node).2.files.lookup (.lockFile volume) ≠ some .directory
  rcases own with rfl | rfl <;> simp only [Op.exec, LockOp.exec]
  · cases executed : (FileOp.touch (.lockFile volume)).exec {} now.node.files with
    | mk reply files =>
      have plain : files.lookup (.lockFile volume) ≠ some .directory := by
        rcases touch_exec executed with ⟨same, -⟩ | ⟨-, -, made⟩
        · rw [same]
          exact filed
        · rw [made]
          simp
      cases reply with
      | error error => exact filed
      | ok value =>
        dsimp only
        split <;> exact plain
  · cases executed : (FileOp.unlink (.lockFile volume) true).exec {} now.node.files with
    | mk reply files =>
      rcases unlink_exec executed with same | gone
      · rw [same]
        exact filed
      · rw [gone]
        simp

theorem Loose.withVolLock {body : Driver α} (pass : through now)
    (plain : ∀ {state}, through state → state.node.files.lookup (.lockFile volume) ≠ some .directory)
    (relocks : ∀ {before after}, Relocked volume before after → through before → through after)
    (inside : ∀ state, through state → loose.Along through body state) :
    loose.Along through (Rawfile.withVolLock volume body) now := by
  refine Along.bind (Along.perform pass fun answer _ => relocks (.ofLock (.inl rfl) (plain pass)) pass) ?_
  intro _ state pass
  refine Along.tryFinally (inside state pass) fun state pass => ?_
  exact Along.perform pass fun answer _ => relocks (.ofLock (.inr rfl) (plain pass)) pass

end Locking

section Steps
variable {now after : Clocked} {point : Path} {answer : Answer}

theorem Around.ofFile {operation : FileOp} (touched : ∀ path, operation.touches path → path = point)
    (executed : (loose.exec (.file operation) answer now).2 = after) :
    Around point now after ∧ after.node.devices = now.node.devices ∧
      operation.exec answer now.node.files = ((loose.exec (.file operation) answer now).1, after.node.files) := by
  subst executed
  refine ⟨⟨fun path different => ?_, rfl, fun _ _ => rfl⟩, rfl, rfl⟩
  exact operation.exec_lookup answer now.node.files fun touches => different (touched path touches)

private theorem mount_exec (fs : FileSystemName) (device : Device)
    (executed : (loose.exec (.device (.mount fs device point)) answer now).2 = after) :
    after.node = now.node ∨ now.node.files.lookup point = some .directory ∧ after.node.files = now.node.files ∧
      after.node.devices = { now.node.devices with
        mounts := ⟨point, .loop device, some fs⟩ :: now.node.devices.mounts } := by
  subst executed
  simp only [loose, Clocked.exec, Op.exec, DeviceOp.exec]
  split
  · exact .inl rfl
  next refused =>
    refine .inr ⟨?_, trivial, rfl⟩
    simp only [Bool.or_eq_true, not_or, Bool.not_eq_true', Bool.not_eq_false] at refused
    exact FileTree.isDirectory_iff.mp refused.1.2

private theorem bind_exec (source : Source) (executed : (loose.exec (.device (.bind source point)) answer now).2 = after) :
    after.node = now.node ∨ (∃ content, now.node.files.lookup point = some (.file content)) ∧
      after.node.files = now.node.files ∧ after.node.devices = { now.node.devices with
        mounts := ⟨point, .path "devtmpfs", none⟩ :: now.node.devices.mounts } := by
  subst executed
  simp only [loose, Clocked.exec, Op.exec, DeviceOp.exec]
  cases source with
  | path text => exact .inl rfl
  | loop device =>
    dsimp only
    split
    · exact .inl rfl
    next refused =>
      refine .inr ⟨?_, trivial, rfl⟩
      simp only [Bool.or_eq_true, not_or, Bool.not_eq_true', Bool.not_eq_false] at refused
      cases found : now.node.files.lookup point with
      | none => simp [Files.present, found] at refused
      | some entry =>
        cases entry with
        | directory => exact absurd (FileTree.isDirectory_iff.mpr found) refused.2
        | file content => exact ⟨content, rfl⟩

theorem umount_exec {reply : Except Err Unit} (executed : loose.exec (.device (.umount point)) answer now = (reply, after)) :
    now.node.devices.mountsAt point = [] ∧ reply = .error .calledProcess ∧ after = now ∨
      now.node.devices.mountsAt point ≠ [] ∧ reply = .ok () ∧ Around point now after ∧
        after.node.files = now.node.files ∧
        after.node.devices.mountsAt point = (now.node.devices.mountsAt point).tail := by
  simp only [loose, Clocked.exec, Op.exec, DeviceOp.exec] at executed
  by_cases mounted : now.node.devices.mountsAt point = []
  · rw [if_neg (fun any => Devices.any_mounted.mp any mounted)] at executed
    cases executed
    exact .inl ⟨mounted, rfl, rfl⟩
  · rw [if_pos (Devices.any_mounted.mpr mounted)] at executed
    cases executed
    refine .inr ⟨mounted, rfl, ⟨fun _ _ => rfl, rfl, fun other different => ?_⟩, rfl, ?_⟩
    · exact Devices.mountsAt_eraseP_other now.node.devices.mounts different
    · exact Devices.mountsAt_eraseP now.node.devices.mounts

end Steps

section Programs
variable {files : Bool} {before now : Clocked} {point : Path}

theorem Steady.refl (state : MountState files point now) : Steady files point now now := ⟨state, .refl point now⟩

section
variable (steady : Steady files point before now)
include steady

theorem Steady.ofNode {state : Clocked} (same : state.node = now.node) : Steady files point before state :=
  ⟨steady.1.ofNode same, steady.2.trans (.ofNode same)⟩

section
variable (free : now.node.devices.mountsAt point = [])
include free

theorem Steady.mounts {fs : FileSystemName} {device : Device} {answer : Answer} :
    Steady files point before (loose.exec (.device (.mount fs device point)) answer now).2 := by
  generalize executed : (loose.exec (.device (.mount fs device point)) answer now).2 = after
  rcases mount_exec fs device executed with same | ⟨found, files, devices⟩
  · exact steady.ofNode same
  · have held : after.node.devices.mountsAt point = [⟨point, .loop device, some fs⟩] := by
      rw [devices, Devices.mountsAt_cons_self rfl, free]
    refine ⟨.mounted (by rw [files, found]) held, steady.2.trans ⟨fun _ _ => by rw [files], by rw [devices], ?_⟩⟩
    intro other different
    rw [devices, Devices.mountsAt_cons_other (Ne.symm different)]

private theorem Steady.binds {source : Source} {answer : Answer} :
    Steady files point before (loose.exec (.device (.bind source point)) answer now).2 := by
  generalize executed : (loose.exec (.device (.bind source point)) answer now).2 = after
  rcases bind_exec source executed with same | ⟨⟨content, found⟩, kept, devices⟩
  · exact steady.ofNode same
  · have held : after.node.devices.mountsAt point = [⟨point, .path "devtmpfs", none⟩] := by
      rw [devices, Devices.mountsAt_cons_self rfl, free]
    obtain ⟨may, plain⟩ := steady.1.plain_file found
    refine ⟨.bound may (by rw [kept, found]) plain held, steady.2.trans ⟨fun _ _ => by rw [kept], by rw [devices], ?_⟩⟩
    intro other different
    rw [devices, Devices.mountsAt_cons_other (Ne.symm different)]

theorem Steady.removes {operation : FileOp} {answer : Answer} (touched : ∀ path, operation.touches path → path = point)
    (gone : ∀ reply files, operation.exec answer now.node.files = (reply, files) →
      files = now.node.files ∨ files.lookup point = none) :
    Steady files point before (loose.exec (.file operation) answer now).2 := by
  obtain ⟨around, devices, ran⟩ := @Around.ofFile now _ point answer operation touched rfl
  have mounts := congrArg (fun devices => devices.mountsAt point) devices
  refine ⟨?_, steady.2.trans around⟩
  rcases gone _ _ ran with same | missing
  · exact steady.1.congr (by rw [same]) mounts
  · exact .absent missing (mounts.trans free)

end

theorem Steady.mkdirs {existOk : Bool} {answer : Answer} :
    Steady files point before (loose.exec (.file (.mkdir point existOk)) answer now).2 := by
  obtain ⟨around, devices, ran⟩ := @Around.ofFile now _ point answer (.mkdir point existOk) (fun _ same => same) rfl
  have mounts := congrArg (fun devices => devices.mountsAt point) devices
  refine ⟨?_, steady.2.trans around⟩
  rcases mkdir_exec ran with same | ⟨missing, made⟩
  · exact steady.1.congr same mounts
  · exact .directory made (mounts.trans (steady.1.free_of_missing missing))

end

theorem Steady.touches {answer : Answer} (may : files = true) (steady : Steady files point before now) :
    Steady files point before (loose.exec (.file (.touch point)) answer now).2 := by
  obtain ⟨around, devices, ran⟩ := @Around.ofFile now _ point answer (.touch point) (fun _ same => same) rfl
  have mounts := congrArg (fun devices => devices.mountsAt point) devices
  refine ⟨?_, steady.2.trans around⟩
  rcases touch_exec ran with ⟨same, -⟩ | ⟨-, missing, made⟩
  · exact steady.1.congr (by rw [same]) mounts
  · exact .file may made nofun (mounts.trans (steady.1.free_of_missing missing))

private theorem Steady.umounts {answer : Answer} {reply : Except Err Unit} {after : Clocked} (steady : Steady files point before now)
    (executed : loose.exec (.device (.umount point)) answer now = (reply, after)) :
    Steady files point before after ∧ (reply = .ok () → after.node.devices.mountsAt point = []) := by
  rcases umount_exec executed with ⟨-, rfl, rfl⟩ | ⟨held, -, around, files, mounts⟩
  · exact ⟨steady, nofun⟩
  · have look : after.node.files.lookup point = now.node.files.lookup point := by rw [files]
    have around := steady.2.trans around
    cases steady.1 with
    | absent _ free => exact absurd free held
    | file _ _ _ free => exact absurd free held
    | directory _ free => exact absurd free held
    | bound may found plain held =>
      rw [held] at mounts
      exact ⟨⟨.file may (look.trans found) plain mounts, around⟩, fun _ => mounts⟩
    | mounted found held =>
      rw [held] at mounts
      exact ⟨⟨.directory (look.trans found) mounts, around⟩, fun _ => mounts⟩

theorem FileSystem.mount_steady (fs : FileSystem) (steady : Steady files point before now) :
    loose.Along (Steady files point before) (fs.mount point) now := by
  refine (Loose.findmnt point).andThen steady ?_
  split
  · split
    · exact Along.pure steady
    · exact Along.raise steady
  next unmounted =>
    have free : now.node.devices.mountsAt point = [] := by simpa using unmounted
    refine Along.tryExcept ?_ fun error state steady => Along.raise steady
    refine Along.after (fun state => state.node.devices.mountsAt point = []) ?_ ?_
    · refine Surely.perform steady fun answer reply after _ executed => ?_
      cases executed
      exact ⟨steady.mkdirs, free⟩
    · intro _ state steady free
      exact Along.perform steady fun answer _ => steady.mounts free

theorem mount_steady (staging : String) (steady : Steady files point before now) :
    loose.Along (Steady files point before) (mount staging point) now := by
  refine (Loose.findmnt point).andThen steady ?_
  refine Loose.looking (stagedDevice_within (fun _ reads => reads) staging) (fun _ same => steady.ofNode same) ?_
    fun _ _ _ => trivial
  intro device state same
  have steady := steady.ofNode same
  split
  · split
    · exact Along.pure steady
    · exact Along.raise steady
  next unmounted =>
    have free : state.node.devices.mountsAt point = [] := by
      rw [same]
      simpa using unmounted
    refine (Loose.kind point).andThen steady ?_
    split
    · exact Along.perform steady fun answer _ => steady.binds free
    · refine Loose.looking (fromDevice_within (fun _ reads => reads) device) (fun _ same => steady.ofNode same) ?_
        fun _ _ _ => trivial
      intro found state same
      have steady := steady.ofNode same
      cases found with
      | some fs => exact fs.mount_steady steady
      | none => exact Along.raise steady

private theorem Steady.afterUmount {next : Unit → Driver Unit} (steady : Steady files point before now)
    (rest : ∀ state, Steady files point before state → state.node.devices.mountsAt point = [] →
      loose.Along (Steady files point before) (next ()) state) :
    loose.Along (Steady files point before) (Driver.device (.umount point) >>= next) now := by
  refine Surely.bind (.perform steady fun answer reply after _ executed => ?_)
  obtain ⟨steady, free⟩ := steady.umounts executed
  cases reply with
  | ok value => exact ⟨steady, rest after steady (free rfl)⟩
  | error error => exact ⟨steady, trivial⟩

private theorem Steady.rmdirs {answer : Answer} (steady : Steady files point before now)
    (free : now.node.devices.mountsAt point = []) :
    Steady files point before (loose.exec (.file (.rmdir point)) answer now).2 :=
  steady.removes free (fun _ same => same) fun _ _ ran => (rmdir_exec ran).imp id And.right

theorem FileSystem.unmount_steady (fs : FileSystem) (clearMountpoint : Bool) (steady : Steady files point before now) :
    loose.Along (Steady files point before) (fs.unmount point clearMountpoint) now := by
  have clear : ∀ state, Steady files point before state → state.node.devices.mountsAt point = [] →
      loose.Along (Steady files point before) (if clearMountpoint then Driver.file (.rmdir point) else pure PUnit.unit)
        state := by
    intro state steady free
    split
    · exact Along.perform steady fun answer _ => steady.rmdirs free
    · exact Along.pure steady
  refine (Loose.findmnt point).andThen steady ?_
  split
  · exact Along.raise steady
  · refine Along.tryExcept ?_ fun error state steady => Along.raise steady
    dsimp only
    split
    · exact steady.afterUmount clear
    next unmounted => exact clear now steady (by simpa using unmounted)

theorem unmount_steady (clearMountpoint : Bool) (steady : Steady files point before now) :
    loose.Along (Steady files point before) (unmount point clearMountpoint) now := by
  refine (Loose.exists point).andThen steady ?_
  split
  · exact Along.pure steady
  · refine (Loose.kind point).andThen steady ?_
    split
    · refine steady.afterUmount fun state steady free => ?_
      split
      · refine Along.perform steady fun answer _ => steady.removes free (fun _ same => same) fun reply files ran => ?_
        exact unlink_exec ran
      · exact Along.pure steady
    · refine (Loose.findmnt point).andThen steady ?_
      split
      next unmounted =>
        have free : now.node.devices.mountsAt point = [] := by simpa using unmounted
        split
        · refine Along.tryExcept (Along.perform steady fun answer _ => steady.rmdirs free) ?_
          intro error state steady
          split
          · exact Along.pure steady
          · exact Along.raise steady
        · exact Along.pure steady
      next device _ =>
        refine Loose.looking (fromDevice_within (fun _ reads => reads) device) (fun _ same => steady.ofNode same) ?_
          fun _ _ _ => trivial
        intro found state same
        have steady := steady.ofNode same
        cases found with
        | some fs => exact fs.unmount_steady clearMountpoint steady
        | none => exact Along.raise steady

end Programs

section Clearing
variable {files : Bool} {capacity : PoolName → Nat} {now : Clocked} {point : Path}

theorem Calm.ofLoose {α : Type} {program : Driver α} {outcome : Except Err α} (looked : loose.Yields outcome program now) :
    (calm capacity).Yields outcome program now :=
  looked.restrict rfl fun _ _ _ _ => trivial

def Clears (point : Path) (before : Clocked) (outcome : Except Err Unit) (after : Clocked) : Prop :=
  outcome = .ok () ∧ Cleared point after ∧ Around point before after

theorem Removed.clears {after : Clocked} (removed : Removed point now after)
    (free : now.node.devices.mountsAt point = []) : Cleared point after ∧ Around point now after := by
  have devices := removed.2.devices
  exact ⟨⟨removed.1, by rw [devices]; exact free⟩, fun path different => removed.2.files path different, by rw [devices],
    fun _ _ => by rw [devices]⟩

theorem Calm.umount {mount : Mount} {next : Unit → Driver Unit} {post : Except Err Unit → Clocked → Prop}
    (held : now.node.devices.mountsAt point = [mount])
    (rest : ∀ after, after.node.files = now.node.files → after.node.devices.mountsAt point = [] → Around point now after →
      (calm capacity).Ends post (next ()) after) :
    (calm capacity).Ends post (Driver.device (.umount point) >>= next) now := by
  refine Surely.bind (.perform trivial fun answer reply after _ executed => ⟨trivial, ?_⟩)
  rcases umount_exec executed with ⟨free, -⟩ | ⟨-, rfl, around, files, mounts⟩
  · cases held.symm.trans free
  · rw [held] at mounts
    exact rest after files mounts around

private theorem Calm.rmdir_free (found : now.node.files.lookup point = some .directory)
    (vacant : now.node.files.children point = []) (free : now.node.devices.mountsAt point = []) :
    (calm capacity).Ends (Clears point now) (Driver.file (.rmdir point)) now := by
  refine .perform trivial fun answer reply after may executed => ⟨trivial, ?_⟩
  obtain ⟨rfl, removed⟩ := Calm.rmdir_exec found vacant may executed
  exact ⟨rfl, removed.clears free⟩

private theorem Loose.fromDevice_mounted {device : Device} {name : FileSystemName}
    (mounted : now.node.devices.mountedFs device = some name) :
    loose.Yields (.ok (some { name, device })) (fromDevice (.loop device)) now := by
  have probed : loose.Yields (.ok ⟨0, name.text ++ "\n"⟩) (Driver.device (.blkid device)) now := by
    apply World.Yields.perform
    intro answer _
    simp only [loose, Clocked.exec, Op.exec, DeviceOp.exec, mounted]
  have found : loose.Yields (.ok (some name.text)) (getDeviceFs (.loop device)) now := by
    apply probed.bind
    cases name <;> exact .pure _ _
  apply found.bind
  cases name <;> exact .pure _ _

theorem FileSystem.unmount_clears (fs : FileSystem) {name : Option FileSystemName}
    (found : now.node.files.lookup point = some .directory) (vacant : now.node.files.children point = [])
    (held : now.node.devices.mountsAt point = [⟨point, .loop fs.device, name⟩]) :
    (calm capacity).Ends (Clears point now) (fs.unmount point true) now := by
  refine (Calm.ofLoose (Loose.findmnt point)).andThen trivial ?_
  simp only [held, List.head?_cons, Option.map_some, Option.any_some, ne_eq, not_true_eq_false, decide_false,
    Bool.false_eq_true, if_false, Option.isSome_some, if_true]
  refine .tryExcept (Calm.umount held fun after files free around => ?_)
  refine (Calm.rmdir_free (by rw [files, found]) (by rw [files, vacant]) free).weaken (fun _ _ => trivial) ?_
  rintro _ last - ⟨rfl, cleared, further⟩
  exact ⟨trivial, rfl, cleared, around.trans further⟩

def Node.bareFile (node : Node) (point : Path) : Bool :=
  node.files.present point && !node.files.isDirectory point && node.devices.mountsAt point = []

theorem unmount_bareFile {content : Content} (found : now.node.files.lookup point = some (.file content))
    (plain : ∀ text, content ≠ .link text) (free : now.node.devices.mountsAt point = []) :
    (calm capacity).Yields (.error .calledProcess) (unmount point true) now := by
  refine (Calm.ofLoose (Loose.exists point)).bind ?_
  rw [show now.node.files.present point = true by simp [Files.present, found]]
  refine (Calm.ofLoose (Loose.kind point)).bind ?_
  rw [found, Loose.kindOf_plain plain, if_pos rfl]
  refine .failing (.perform fun answer _ => ?_)
  generalize executed : (calm capacity).exec (.device (.umount point)) answer now = result
  rcases umount_exec executed with ⟨-, failed, same⟩ | ⟨held, -⟩
  · exact Prod.ext failed same
  · exact absurd free held

theorem unmount_clears (state : MountState files point now) (vacant : now.node.files.children point = [])
    (covered : now.node.bareFile point = false) : (calm capacity).Ends (Clears point now) (unmount point true) now := by
  refine (Calm.ofLoose (Loose.exists point)).andThen trivial ?_
  cases state with
  | absent missing free =>
    rw [show now.node.files.present point = false by simp [Files.present, missing]]
    exact .pure trivial ⟨rfl, ⟨missing, free⟩, .refl point now⟩
  | file _ found plain free =>
    simp [Node.bareFile, Files.present, FileTree.isDirectory, found, free] at covered
  | bound _ found plain held =>
    rw [show now.node.files.present point = true by simp [Files.present, found]]
    refine (Calm.ofLoose (Loose.kind point)).andThen trivial ?_
    rw [found, Loose.kindOf_plain plain, if_pos rfl]
    refine Calm.umount held fun after files free around => ?_
    refine Calm.unlink (by rw [files, found]; simp) trivial fun last removed => ⟨trivial, rfl, ?_⟩
    obtain ⟨cleared, further⟩ := removed.clears free
    exact ⟨cleared, around.trans further⟩
  | directory found free =>
    rw [show now.node.files.present point = true by simp [Files.present, found]]
    refine (Calm.ofLoose (Loose.kind point)).andThen trivial ?_
    rw [found]
    refine (Calm.ofLoose (Loose.findmnt point)).andThen trivial ?_
    rw [free]
    refine .tryExcept ((Calm.rmdir_free found vacant free).weaken (fun _ _ => trivial) ?_)
    rintro _ last - ⟨rfl, cleared, around⟩
    exact ⟨trivial, rfl, cleared, around⟩
  | mounted found held =>
    rw [show now.node.files.present point = true by simp [Files.present, found]]
    refine (Calm.ofLoose (Loose.kind point)).andThen trivial ?_
    rw [found]
    refine (Calm.ofLoose (Loose.findmnt point)).andThen trivial ?_
    rw [held]
    have listed : ⟨point, _, _⟩ ∈ now.node.devices.mounts :=
      (List.mem_filter.mp (by rw [show now.node.devices.mounts.filter _ = _ from held]; exact List.mem_singleton_self _)).1
    obtain ⟨name, known⟩ := Devices.mountedFs_isSome listed
    refine (Calm.ofLoose (Loose.fromDevice_mounted known)).andThen trivial ?_
    exact FileSystem.unmount_clears _ found vacant held

end Clearing
end Rawfile
