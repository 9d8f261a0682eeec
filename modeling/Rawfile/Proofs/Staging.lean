import Rawfile.Proofs.MountPoint

/-! Staging a volume and undoing it. Whatever was tried before, each part of
the staging path is what the driver makes of it, and unstaging removes them one
after the other. -/

namespace Rawfile
open Effects World

structure Parts (target : String) (now : Clocked) : Prop where
  mount : MountState false (.staging target .mount) now
  clear : ∀ part, part ≠ .mount → now.node.devices.mountsAt (.staging target part) = []
  links : ∀ part, part = .dev ∨ part = .device → now.node.files.lookup (.staging target part) = none ∨
    ∃ text, now.node.files.lookup (.staging target part) = some (.file (.link text))
  block : now.node.files.lookup (.staging target .block) = none ∨
    now.node.files.lookup (.staging target .block) = some .directory
  distinct : (now.node.devices.loops.map Prod.fst).Nodup

structure Stageable (volume : VolumeId) (target : String) (data : Meta) (now : Clocked) : Prop where
  found : Files.metadata now.node.files volume = some data
  filed : now.node.files.lookup (.lockFile volume) ≠ some .directory
  parts : Parts target now

inductive SettlingOp (target : String) : Op → Prop
  | looking {operation} (reads : Op.reads operation) : SettlingOp target operation
  | makeBlock : SettlingOp target (.file (.mkdirs (.staging target .block)))
  | unlink (part) (other : part ≠ .mount) : SettlingOp target (.file (.unlink (.staging target part) false))
  | rmdir (part) (other : part ≠ .mount) : SettlingOp target (.file (.rmdir (.staging target part)))
  | link (part text) (one : part = .dev ∨ part = .device) :
    SettlingOp target (.file (.symlink (.staging target part) text))
  | nextLoop : SettlingOp target (.device .nextLoop)
  | losetup (path) : SettlingOp target (.device (.losetup path))
  | setrw (device) : SettlingOp target (.device (.setrw device))
  | detach (device) : SettlingOp target (.device (.detach device))
  | format (fs device) : SettlingOp target (.device (.mkfs fs device))

/-- What happens at a staging path: requests that may fail or stop anywhere,
crashes of the plugin and restarts of the node. -/
inductive Staging (volume : VolumeId) (target : String) : Clocked → Clocked → Prop
  | stage {config request before after} (own : request.volumeId = volume ∧ request.stagingTargetPath = target)
      (passes : loose.Passes (Bd2Fs.nodeStageVolume config request) before after) : Staging volume target before after
  | unstage {before after} (passes : loose.Passes (Bd2Fs.nodeUnstageVolume volume target) before after) :
    Staging volume target before after
  | crash (now) : Staging volume target now { now with node := now.node.crash }
  | restart (now) : Staging volume target now { now with node := now.node.restart }

section
variable {volume : VolumeId} {target : String} {data : Meta} {before after now : Clocked} {capacity : PoolName → Nat}

section
variable (parts : Parts target before)
include parts

theorem Parts.congr
    (files : ∀ part, after.node.files.lookup (.staging target part) = before.node.files.lookup (.staging target part))
    (devices : after.node.devices = before.node.devices) : Parts target after := by
  refine ⟨parts.mount.congr (files _) (by rw [devices]), ?_, ?_, ?_, ?_⟩
  · rw [devices]
    exact parts.clear
  · intro part one
    rw [files]
    exact parts.links part one
  · rw [files]
    exact parts.block
  · rw [devices]
    exact parts.distinct

theorem Parts.ofNode (same : after.node = before.node) : Parts target after :=
  parts.congr (fun _ => by rw [same]) (by rw [same])

theorem Parts.changed {part : StagingPart} (other : part ≠ .mount)
    (files : ∀ path, path ≠ .staging target part → after.node.files.lookup path = before.node.files.lookup path)
    (devices : after.node.devices = before.node.devices)
    (kept : after.node.files.lookup (.staging target part) = before.node.files.lookup (.staging target part) ∨
      after.node.files.lookup (.staging target part) = none ∨
      (part = .block ∧ after.node.files.lookup (.staging target part) = some .directory) ∨
      ((part = .dev ∨ part = .device) ∧ ∃ text, after.node.files.lookup (.staging target part) =
        some (.file (.link text)))) : Parts target after := by
  refine ⟨parts.mount.congr (files _ (by simp [Ne.symm other])) (by rw [devices]), ?_, ?_, ?_, ?_⟩
  · rw [devices]
    exact parts.clear
  · intro this one
    by_cases same : this = part
    · subst same
      rcases kept with kept | gone | ⟨rfl, -⟩ | ⟨-, linked⟩
      · rw [kept]
        exact parts.links this one
      · exact .inl gone
      · rcases one with one | one <;> cases one
      · exact .inr linked
    · rw [files _ (by simp [same])]
      exact parts.links this one
  · by_cases same : part = .block
    · subst same
      rcases kept with kept | gone | ⟨-, made⟩ | ⟨one | one, -⟩
      · rw [kept]
        exact parts.block
      · exact .inl gone
      · exact .inr made
      · cases one
      · cases one
    · rw [files _ (by simp [Ne.symm same])]
      exact parts.block
  · rw [devices]
    exact parts.distinct

theorem Parts.loops (files : after.node.files = before.node.files)
    (mounts : after.node.devices.mounts = before.node.devices.mounts)
    (distinct : (after.node.devices.loops.map Prod.fst).Nodup) : Parts target after := by
  have same : ∀ point, after.node.devices.mountsAt point = before.node.devices.mountsAt point := by
    intro point
    simp only [Devices.mountsAt, mounts]
  refine ⟨parts.mount.congr (by rw [files]) (same _), ?_, ?_, ?_, distinct⟩
  · intro part other
    rw [same]
    exact parts.clear part other
  · rw [files]
    exact parts.links
  · rw [files]
    exact parts.block

end

private theorem above_block {path : Path} (above : FileTree.Above (.staging target .block) path) :
    path = .staging target .block := Path.above_root rfl above

theorem Parts.settles {operation : Op} {answer : Answer} (parts : Parts target now)
    (issued : SettlingOp target operation) : Parts target (loose.exec operation answer now).2 := by
  cases issued with
  | looking reads => exact parts.ofNode (reads.unchanged (Prod.ext rfl rfl))
  | makeBlock =>
    obtain ⟨around, devices, ran⟩ := @Around.ofFile now _ (.staging target .block) answer
      (.mkdirs (.staging target .block)) (fun _ above => above_block above) rfl
    refine parts.changed (by simp) around.files devices ?_
    rcases mkdirs_exec ran (.staging target .block) with same | ⟨-, -, created⟩
    · exact .inl same
    · exact .inr (.inr (.inl ⟨rfl, created⟩))
  | unlink part other =>
    obtain ⟨around, devices, ran⟩ := @Around.ofFile now _ (.staging target part) answer
      (.unlink (.staging target part) false) (fun _ same => same) rfl
    refine parts.changed other around.files devices ?_
    rcases unlink_exec ran with same | gone
    · exact .inl (by rw [same])
    · exact .inr (.inl gone)
  | rmdir part other =>
    obtain ⟨around, devices, ran⟩ := @Around.ofFile now _ (.staging target part) answer
      (.rmdir (.staging target part)) (fun _ same => same) rfl
    refine parts.changed other around.files devices ?_
    rcases rmdir_exec ran with same | ⟨-, gone⟩
    · exact .inl (by rw [same])
    · exact .inr (.inl gone)
  | link part text one =>
    obtain ⟨around, devices, ran⟩ := @Around.ofFile now _ (.staging target part) answer
      (.symlink (.staging target part) text) (fun _ same => same) rfl
    have other : part ≠ .mount := by rcases one with rfl | rfl <;> simp
    refine parts.changed other around.files devices ?_
    rcases symlink_exec ran with same | linked
    · exact .inl (by rw [same])
    · exact .inr (.inr (.inr ⟨one, text, linked⟩))
  | nextLoop | setrw | format =>
    refine parts.ofNode ?_
    simp only [loose, Clocked.exec, Op.exec, DeviceOp.exec]
    split <;> rfl
  | losetup path =>
    refine parts.loops rfl ?_ ?_ <;> simp only [loose, Clocked.exec, Op.exec, DeviceOp.exec] <;> split
    · rfl
    · rfl
    · exact parts.distinct
    next free =>
      simp only [Bool.or_eq_true, not_or, Bool.not_eq_true, List.any_eq_false, beq_iff_eq] at free
      simp only [List.map_append, List.map_cons, List.map_nil]
      refine List.nodup_append.mpr ⟨parts.distinct, by simp, ?_⟩
      intro device member other same
      obtain ⟨loop, listed, rfl⟩ := List.mem_map.mp member
      rw [List.mem_singleton.mp same]
      exact free.2 loop listed
  | detach device =>
    refine parts.loops rfl ?_ ?_ <;> simp only [loose, Clocked.exec, Op.exec, DeviceOp.exec] <;> split
    · rfl
    · rfl
    · exact parts.distinct
    · exact parts.distinct.sublist (List.filter_sublist.map Prod.fst)

theorem SettlingOp.elsewhere {operation : Op} (issued : SettlingOp target operation) {path : Path}
    (other : ∀ part, path ≠ .staging target part) : ¬ operation.touches path := by
  cases issued with
  | looking reads => exact reads.untouched path
  | makeBlock => exact fun above => other _ (above_block above)
  | unlink part | rmdir part | link part => exact other part
  | _ => exact id

namespace Stageable

theorem settles {α : Type} {program : Driver α} (stageable : Stageable volume target data now)
    (within : program.Within Op.lawful (SettlingOp target)) :
    loose.Along (Stageable volume target data) program now := by
  refine (Surely.ofWithin _ within (fun operation answer state => Op.exec_lawful operation 0 answer state.node)
    (fun operation answer state issued _ stageable => ?_) stageable).weaken (fun _ pass => pass) fun _ _ _ _ => trivial
  have frame := fun (path : Path) (other : ∀ part, path ≠ .staging target part) =>
    operation.exec_lookup 0 answer state.node (issued.elsewhere other)
  refine ⟨(Files.metadata_congr (frame _ (by simp))).trans stageable.found, ?_, stageable.parts.settles issued⟩
  show (operation.exec 0 answer state.node).2.files.lookup (.lockFile volume) ≠ some .directory
  rw [frame _ (by simp)]
  exact stageable.filed

theorem along {α : Type} {program : Driver α} (stageable : Stageable volume target data now)
    (steady : loose.Along (Steady false (.staging target .mount) now) program now) :
    loose.Along (Stageable volume target data) program now := by
  refine steady.weaken (fun state held => ?_) fun _ _ _ _ => trivial
  obtain ⟨mount, around⟩ := held
  have files := around.files
  refine ⟨(Files.metadata_congr (files _ (by simp))).trans stageable.found, ?_, mount, fun part other => ?_,
    fun part one => ?_, ?_, ?_⟩
  · rw [files _ (by simp)]
    exact stageable.filed
  · rw [around.mounts _ (by simp [other])]
    exact stageable.parts.clear part other
  · rw [files _ (by rcases one with rfl | rfl <;> simp)]
    exact stageable.parts.links part one
  · rw [files _ (by simp)]
    exact stageable.parts.block
  · rw [around.loops]
    exact stageable.parts.distinct

theorem relocked (stageable : Stageable volume target data before) (relocked : Relocked volume before after) :
    Stageable volume target data after := by
  refine ⟨?_, relocked.2, stageable.parts.congr (fun _ => relocked.1.files _ (by simp)) relocked.1.devices⟩
  rw [relocked.1.metadata (by simp)]
  exact stageable.found

theorem locked {α : Type} {body : Driver α} (stageable : Stageable volume target data now)
    (inside : ∀ state, Stageable volume target data state → loose.Along (Stageable volume target data) body state) :
    loose.Along (Stageable volume target data) (withVolLock volume body) now :=
  Loose.withVolLock stageable (fun known => known.filed) (fun changed known => known.relocked changed) inside

end Stageable

theorem formatFs_settles (fs : FileSystem) : fs.formatFs.Within Op.lawful (SettlingOp target) :=
  .tryExcept (.perform (.format _ _)) fun _ => .raise _

theorem Stageable.formatAndMount (fs : FileSystem) (stageable : Stageable volume target data now) :
    loose.Along (Stageable volume target data) (fs.formatAndMount (.staging target .mount)) now := by
  have mounts : ∀ state, Stageable volume target data state →
      loose.Along (Stageable volume target data) (fs.mount (.staging target .mount)) state :=
    fun state stageable => stageable.along (fs.mount_steady (.refl stageable.parts.mount))
  refine Along.bind (stageable.settles (getDeviceFs_within (fun _ => .looking) _)) fun found state stageable => ?_
  dsimp only
  split
  · exact Along.bind (stageable.settles (formatFs_settles fs)) fun _ state stageable => mounts state stageable
  · exact mounts state stageable

theorem Stageable.stage {config : DriverConfig} {request : NodeStageVolumeRequest}
    (own : request.volumeId = volume ∧ request.stagingTargetPath = target)
    (stageable : Stageable volume target data now) :
    loose.Along (Stageable volume target data) (Bd2Fs.nodeStageVolume config request) now := by
  obtain ⟨rfl, rfl⟩ := own
  refine stageable.locked fun state stageable => ?_
  refine Along.bind (stageable.settles (metadataOr_within (fun _ => .looking) _)) fun data state stageable => ?_
  split
  · exact Along.raise stageable
  · refine Along.bind (stageable.settles (.perform .makeBlock)) fun _ state stageable => ?_
    have attaching : (RawFileNode.nodeStageVolume request.volumeId request.stagingTargetPath).Within Op.lawful
        (SettlingOp request.stagingTargetPath) :=
      RawFileNode.nodeStageVolume_within (fun _ => .looking) _ _ .setrw .nextLoop (fun img => .losetup img.path)
        (.unlink .dev (by simp)) (.rmdir .dev (by simp)) fun text => .link .dev text (.inl rfl)
    refine Along.bind (stageable.settles attaching) fun _ state stageable => ?_
    refine Along.bind (stageable.settles (beSymlink_within (fun _ => .looking) (.unlink .device (by simp))
      (.rmdir .device (by simp)) (.link .device _ (.inr rfl)))) fun _ state stageable => ?_
    refine Along.bind (stageable.settles ?_) fun accessType state stageable => ?_
    · unfold checkAccessType
      split <;> trivial
    · split
      · refine Along.bind (stageable.settles (stagedDevice_within (fun _ => .looking) _)) fun source state stageable => ?_
        refine Along.bind (stageable.settles (getFromDeviceOrFallback_within (fun _ => .looking) _ _))
          fun fs state stageable => ?_
        exact stageable.formatAndMount fs
      · exact Along.pure stageable

theorem detachLoops_settles (img : ImgFile) : (detachLoops img).Within Op.lawful (SettlingOp target) :=
  .bind (attachedLoops_within (fun _ => .looking) _) fun _ => .forEach fun device _ => .perform (.detach device)

/-- Wherever an unstaging stops, the volume can be staged. -/
theorem Stageable.unstage (stageable : Stageable volume target data now) :
    loose.Along (Stageable volume target data) (Bd2Fs.nodeUnstageVolume volume target) now := by
  refine (Loose.exists (.metaFile volume)).andThen stageable ?_
  rw [show now.node.files.present (.metaFile volume) = true by
    simp [Files.present, Files.metadata_iff.mp stageable.found]]
  refine stageable.locked fun state stageable => ?_
  have absent : ∀ part, part ≠ .mount → (beAbsent (.staging target part)).Within Op.lawful (SettlingOp target) :=
    fun part other => beAbsent_within (fun _ => .looking) (.unlink part other) (.rmdir part other)
  refine Along.bind (stageable.along (unmount_steady true (.refl stageable.parts.mount))) fun _ state stageable => ?_
  refine Along.bind (stageable.settles (absent .device (by simp))) fun _ state stageable => ?_
  refine Along.bind (stageable.settles ?_) fun _ state stageable => stageable.settles (absent .block (by simp))
  exact .bind (imgFile_within (fun _ => .looking) _) fun img => .bind (absent .dev (by simp)) fun _ =>
    detachLoops_settles img

structure Unstaged (target : String) (img : Path) (now : Clocked) : Prop where
  parts : ∀ part, now.node.files.lookup (.staging target part) = none
  mounts : ∀ part, now.node.devices.mountsAt (.staging target part) = []
  loops : now.node.devices.attached img = []

private theorem Calm.beAbsent_file {path : Path} (kind : now.node.files.lookup path = none ∨
    ∃ text, now.node.files.lookup path = some (.file (.link text))) :
    (calm capacity).Ends (fun outcome after => ∃ value, outcome = .ok value ∧ Removed path now after) (beAbsent path)
      now := by
  refine (Calm.ofLoose (Loose.kind path)).andThen trivial ?_
  rcases kind with missing | ⟨text, found⟩
  · rw [missing]
    exact .pure trivial ⟨(), rfl, missing, .refl _ now⟩
  · rw [found]
    refine Calm.file (.unlink path false) trivial fun answer reply after reliable ran agrees => ⟨trivial, ?_⟩
    obtain ⟨files, gone⟩ := FileTree.unlink_file found
    simp only [FileOp.exec, reliable, Bool.false_eq_true, if_false, Bool.false_and, gone, Files.change] at ran
    obtain ⟨rfl, same⟩ := Prod.mk.inj ran
    exact ⟨(), rfl, by rw [← same, FileTree.unlink_ok gone, if_pos rfl], agrees⟩

private theorem Calm.beAbsent_directory {path : Path} (kind : now.node.files.lookup path = none ∨
    now.node.files.lookup path = some .directory) (vacant : now.node.files.children path = []) :
    (calm capacity).Ends (fun outcome after => ∃ value, outcome = .ok value ∧ Removed path now after) (beAbsent path)
      now := by
  refine (Calm.ofLoose (Loose.kind path)).andThen trivial ?_
  rcases kind with missing | found
  · rw [missing]
    exact .pure trivial ⟨(), rfl, missing, .refl _ now⟩
  · rw [found]
    refine .perform trivial fun answer reply after may executed => ⟨trivial, ?_⟩
    obtain ⟨rfl, removed⟩ := Calm.rmdir_exec found vacant may executed
    exact ⟨(), rfl, removed⟩

private theorem Devices.attached_detach {devices : Devices} {path : Path} {device : Device} {rest : List Device}
    (distinct : (devices.loops.map Prod.fst).Nodup) (attached : devices.attached path = device :: rest) :
    ({ devices with loops := devices.loops.filter (fun loop => loop.1 != device) } : Devices).attached path = rest := by
  have nodup : (device :: rest).Nodup := by
    rw [← attached]
    exact distinct.sublist (List.filter_sublist.map Prod.fst)
  have others : (device :: rest).filter (fun other => other != device) = rest := by
    rw [List.filter_cons_of_neg (by simp), List.filter_eq_self]
    intro other member
    have different : other ≠ device := fun same => (List.nodup_cons.mp nodup).1 (same ▸ member)
    simpa using different
  rw [← others, ← attached]
  simp only [Devices.attached, List.filter_filter, List.filter_map]
  congr 1
  refine List.filter_congr fun loop _ => ?_
  simp [Bool.and_comm]

theorem Calm.detachLoops {img : ImgFile} (distinct : (now.node.devices.loops.map Prod.fst).Nodup) :
    (calm capacity).Ends (fun outcome after => ∃ value, outcome = .ok value ∧ after.node.files = now.node.files ∧
      after.node.devices.mounts = now.node.devices.mounts ∧ after.node.devices.attached img.path = [])
      (Rawfile.detachLoops img) now := by
  refine (Calm.attachedLoops img.path).andThen trivial ?_
  let left (rest : List Device) (state : Clocked) : Prop := state.node.files = now.node.files ∧
    state.node.devices.mounts = now.node.devices.mounts ∧ state.node.devices.attached img.path = rest ∧
    (state.node.devices.loops.map Prod.fst).Nodup
  refine .forEach left ?_ ?_ (⟨rfl, rfl, rfl, distinct⟩ : left _ now)
  · rintro device rest state ⟨files, mounts, attached, distinct⟩
    refine .perform trivial fun answer reply after may executed => ⟨trivial, ?_⟩
    have reliable : answer.fails = false := may
    have listed : device ∈ state.node.devices.attached img.path := by
      rw [attached]
      exact List.mem_cons_self ..
    obtain ⟨loop, member, rfl⟩ := List.mem_map.mp listed
    have known : state.node.devices.loops.any (fun other => other.1 == loop.1) = true :=
      List.any_eq_true.mpr ⟨loop, (List.mem_filter.mp member).1, by simp⟩
    simp only [calm, Clocked.exec, Op.exec, DeviceOp.exec, reliable, known, Bool.not_true, Bool.or_self,
      Bool.false_eq_true, if_false] at executed
    cases executed
    exact ⟨files, mounts, Devices.attached_detach distinct attached,
      distinct.sublist (List.filter_sublist.map Prod.fst)⟩
  · rintro state ⟨files, mounts, attached, -⟩
    exact ⟨trivial, (), rfl, files, mounts, attached⟩

theorem Stageable.calmly {α : Type} {program : Driver α} {post : Except Err α → Clocked → Prop}
    (along : loose.Along (Stageable volume target data) program now) (ends : (calm capacity).Ends post program now) :
    (calm capacity).Ends (fun outcome after => Stageable volume target data after ∧ post outcome after) program now := by
  have kept : (calm capacity).Along (Stageable volume target data) program now :=
    along.restrict rfl fun _ _ _ _ => trivial
  exact (kept.both ends).weaken (fun _ _ => trivial) fun _ _ known both => ⟨known, both.2⟩

theorem absent_settles (part : StagingPart) (other : part ≠ .mount) :
    (beAbsent (.staging target part)).Within Op.lawful (SettlingOp target) :=
  beAbsent_within (fun _ => .looking) (.unlink part other) (.rmdir part other)

private theorem staging_vacant (now : Clocked) {part : StagingPart} (other : part ≠ .block) :
    now.node.files.children (.staging target part) = [] := by
  refine Files.children_leaf ?_
  cases part with
  | block => exact absurd rfl other
  | _ => rfl

private theorem block_vacant (gone : now.node.files.lookup (.staging target .dev) = none) :
    now.node.files.children (.staging target .block) = [] := by
  refine Files.children_nil fun path parent => ?_
  cases path <;> simp only [Hierarchy.parent] at parent
  case snapshotsDir _ _ temporary => cases temporary <;> cases parent
  case staging _ inner => cases inner <;> cases parent; exact gone
  all_goals cases parent

structure Halfway (volume : VolumeId) (target : String) (data : Meta) (now : Clocked) : Prop where
  stageable : Stageable volume target data now
  mount : Cleared (.staging target .mount) now
  device : now.node.files.lookup (.staging target .device) = none

/-- What an earlier staging left is cleared before the volume is staged. -/
theorem Stageable.halfway (stageable : Stageable volume target data now) {next : Driver Unit}
    {post : Except Err Unit → Clocked → Prop}
    (rest : ∀ state, Halfway volume target data state → (calm capacity).Ends post next state) :
    (calm capacity).Ends post (do
      unmount (.staging target .mount) true
      RawFileNode.nodeUnpublishVolume target
      next) now := by
  have covered : now.node.bareFile (.staging target .mount) = false := by
    cases stageable.parts.mount with
    | absent missing => simp [Node.bareFile, Files.present, missing]
    | directory found => simp [Node.bareFile, FileTree.isDirectory, found]
    | mounted found => simp [Node.bareFile, FileTree.isDirectory, found]
    | file may => cases may
    | bound may => cases may
  have unmounts := Stageable.calmly (stageable.along (unmount_steady true (.refl stageable.parts.mount)))
    (@unmount_clears _ capacity now _ stageable.parts.mount (staging_vacant now (by simp)) covered)
  refine .onward (fun _ state => Stageable volume target data state ∧ Cleared (.staging target .mount) state)
    (unmounts.weaken (fun _ _ => trivial) fun outcome state _ known => ?_) fun _ state _ known => ?_
  · exact ⟨(), known.2.1, known.1, known.2.2.1⟩
  · obtain ⟨stageable, cleared⟩ := known
    have removes := Stageable.calmly (stageable.settles (absent_settles .device (by simp)))
      (@Calm.beAbsent_file state capacity _ (stageable.parts.links .device (.inr rfl)))
    refine .onward (fun _ state => Halfway volume target data state)
      (removes.weaken (fun _ _ => trivial) fun outcome after _ known => ?_) fun _ state _ known => rest state known
    obtain ⟨stageable, value, returned, removed⟩ := known
    refine ⟨value, returned, stageable, ⟨?_, ?_⟩, removed.1⟩
    · rw [removed.2.files _ (by simp)]
      exact cleared.1
    · rw [removed.2.devices]
      exact cleared.2

theorem Halfway.finishes {pool : PoolName} (halfway : Halfway volume target data now)
    (named : data.imgFile = some pool) :
    (calm capacity).Ends (fun outcome after => outcome = .ok () ∧ Stageable volume target data after ∧
      Unstaged target (.imgFile pool volume) after)
      (do RawFileNode.nodeUnstageVolume volume target
          beAbsent (.staging target .block)) now := by
  have removes := Stageable.calmly (halfway.stageable.settles (absent_settles .dev (by simp)))
    (@Calm.beAbsent_file now capacity _ (halfway.stageable.parts.links .dev (.inl rfl)))
  have unstages : (calm capacity).Ends (fun outcome after => ∃ value, outcome = .ok value ∧
      Halfway volume target data after ∧ after.node.files.lookup (.staging target .dev) = none ∧
      after.node.devices.attached (.imgFile pool volume) = []) (RawFileNode.nodeUnstageVolume volume target) now := by
    refine (Calm.imgFile halfway.stageable.found named).andThen trivial ?_
    refine .onward (fun _ state => Halfway volume target data state ∧
      state.node.files.lookup (.staging target .dev) = none) (removes.weaken (fun _ _ => trivial) ?_) ?_
    · rintro outcome state _ ⟨stageable, value, returned, removed⟩
      refine ⟨value, returned, ⟨stageable, ⟨?_, ?_⟩, ?_⟩, removed.1⟩
      · rw [removed.2.files _ (by simp)]
        exact halfway.mount.1
      · rw [removed.2.devices]
        exact halfway.mount.2
      · rw [removed.2.files _ (by simp)]
        exact halfway.device
    · rintro _ state _ ⟨halfway, gone⟩
      have detaches := Stageable.calmly (halfway.stageable.settles (detachLoops_settles ⟨pool, volume⟩))
        (@Calm.detachLoops state capacity ⟨pool, volume⟩ halfway.stageable.parts.distinct)
      refine detaches.weaken (fun _ _ => trivial) ?_
      rintro outcome after _ ⟨stageable, value, returned, files, mounts, attached⟩
      refine ⟨value, returned, ⟨stageable, ⟨?_, ?_⟩, ?_⟩, ?_, attached⟩
      · rw [files]
        exact halfway.mount.1
      · simp only [Devices.mountsAt, mounts]
        exact halfway.mount.2
      · rw [files]
        exact halfway.device
      · rw [files]
        exact gone
  refine .onward _ unstages ?_
  rintro _ state _ ⟨halfway, gone, detached⟩
  have clears := Stageable.calmly (halfway.stageable.settles (absent_settles .block (by simp)))
    (@Calm.beAbsent_directory state capacity _ halfway.stageable.parts.block (block_vacant gone))
  refine clears.weaken (fun _ _ => trivial) ?_
  rintro outcome after _ ⟨stageable, value, returned, removed⟩
  refine ⟨returned, stageable, fun part => ?_, fun part => ?_, by rw [removed.2.devices]; exact detached⟩
  · cases part with
    | block => exact removed.1
    | dev => rw [removed.2.files _ (by simp)]; exact gone
    | device => rw [removed.2.files _ (by simp)]; exact halfway.device
    | mount => rw [removed.2.files _ (by simp)]; exact halfway.mount.1
  · rw [removed.2.devices]
    by_cases mount : part = .mount
    · rw [mount]
      exact halfway.mount.2
    · exact halfway.stageable.parts.clear part mount

namespace Stageable

theorem step (stageable : Stageable volume target data before) (happens : Staging volume target before after) :
    Stageable volume target data after := by
  cases happens with
  | stage own passes => exact (stageable.stage own).passes passes
  | unstage passes => exact stageable.unstage.passes passes
  | crash => exact ⟨stageable.found, stageable.filed, stageable.parts.congr (fun _ => rfl) rfl⟩
  | restart =>
    refine ⟨stageable.found, stageable.filed, ?_, fun _ _ => rfl, stageable.parts.links, stageable.parts.block, List.nodup_nil⟩
    cases stageable.parts.mount with
    | absent missing => exact .absent missing rfl
    | file may => cases may
    | bound may => cases may
    | directory found => exact .directory found rfl
    | mounted found => exact .directory found rfl

theorem run (stageable : Stageable volume target data before)
    (happens : Relation.ReflTransGen (Staging volume target) before after) : Stageable volume target data after := by
  induction happens with
  | refl => exact stageable
  | tail _ last ih => exact ih.step last

theorem nodeUnstageVolume_ends (stageable : Stageable volume target data now) {post : Except Err Unit → Clocked → Prop}
    (inside : ∀ state, Halfway volume target data state → (calm capacity).Ends (fun outcome after =>
      after.node.files.lookup (.lockFile volume) ≠ some .directory ∧
        ∀ released, Relocked volume after released → post outcome released)
      (do RawFileNode.nodeUnstageVolume volume target
          beAbsent (.staging target .block)) state) :
    (calm capacity).Ends post (Bd2Fs.nodeUnstageVolume volume target) now := by
  refine (Calm.ofLoose (Loose.exists (.metaFile volume))).andThen trivial ?_
  have found := Files.metadata_iff.mp stageable.found
  rw [show now.node.files.present (.metaFile volume) = true by simp [Files.present, found]]
  have standing := now.node.files.rooted (.metaFile volume) _
    (by rw [show now.node.files.entries.lookup _ = _ from found]; simp) rfl
  refine Calm.withVolLock standing stageable.filed trivial (fun _ _ => trivial) fun locked relocked => ?_
  apply ((stageable.relocked relocked).halfway inside).weaken (fun _ pass => pass)
  intro outcome after _ ended
  exact ⟨ended.1, fun released again _ => ended.2 released again⟩

end Stageable

structure Unused (target : String) (now : Clocked) : Prop where
  parts : ∀ part, now.node.files.lookup (.staging target part) = none
  mounts : ∀ part, now.node.devices.mountsAt (.staging target part) = []

def Undone (volume : VolumeId) (target : String) (data : Meta) (outcome : Except Err Unit) (after : Clocked) : Prop :=
  outcome = .ok () ∧ ∀ pool, data.imgFile = some pool → Unstaged target (.imgFile pool volume) after

private theorem nodeUnstageVolume_imageless (stageable : Stageable volume target data now) (unnamed : data.imgFile = none) :
    (calm capacity).Ends (fun outcome _ => outcome = .error (.keyError "img_file"))
      (Bd2Fs.nodeUnstageVolume volume target) now := by
  refine stageable.nodeUnstageVolume_ends fun state halfway => ?_
  have failed : (calm capacity).Yields (.error (.keyError "img_file")) (do
      RawFileNode.nodeUnstageVolume volume target
      beAbsent (.staging target .block)) state := by
    refine .failing (.failing ((Calm.metadata halfway.stageable.found).bind ?_))
    rw [unnamed]
    exact .failing (.raise _ _)
  exact failed.ends_iff.mpr ⟨halfway.stageable.filed, fun _ _ => rfl⟩

/-- However far a volume was staged and unstaged before, a complete unstaging
returns and leaves nothing behind if and only if the metadata name an image. -/
theorem unstage_undoes (found : Files.metadata before.node.files volume = some data)
    (filed : before.node.files.lookup (.lockFile volume) ≠ some .directory) (unused : Unused target before)
    (distinct : (before.node.devices.loops.map Prod.fst).Nodup)
    (happened : Relation.ReflTransGen (Staging volume target) before now) :
    (calm capacity).Ends (Undone volume target data) (Bd2Fs.nodeUnstageVolume volume target) now ↔
      data.imgFile.isSome = true := by
  have stageable : Stageable volume target data now :=
    Stageable.run ⟨found, filed, .absent (unused.parts .mount) (unused.mounts .mount), fun part _ => unused.mounts part,
      fun part _ => .inl (unused.parts part), .inl (unused.parts .block), distinct⟩ happened
  cases named : data.imgFile with
  | none =>
    refine iff_of_false (fun undone => ?_) (by simp)
    obtain ⟨outcome, last, returned, failed⟩ := (undone.both (nodeUnstageVolume_imageless stageable named)).satisfiable
    cases returned.1.symm.trans failed
  | some pool =>
    refine iff_of_true (stageable.nodeUnstageVolume_ends fun state halfway => ?_) rfl
    refine (halfway.finishes named).weaken (fun _ _ => trivial) ?_
    rintro outcome after _ ⟨returned, stageable, unstaged⟩
    refine ⟨stageable.filed, fun released changed => ⟨returned, fun other same => ?_⟩⟩
    cases named.symm.trans same
    refine ⟨fun part => ?_, ?_, ?_⟩
    · rw [changed.1.files _ (by simp)]
      exact unstaged.parts part
    · rw [changed.1.devices]
      exact unstaged.mounts
    · rw [changed.1.devices]
      exact unstaged.loops

end

namespace Unstaging

def request : NodeStageVolumeRequest where
  volumeId := "v"
  stagingTargetPath := "staging"
  accessType := some .mount

def idle (test : Meta → Bool) (now : NodeConfig) : Bool :=
  (Files.metadata now.state.files "v").any test && !now.state.files.isDirectory (.lockFile "v") &&
    ([.block, .dev, .device, .mount].all fun part => !now.state.files.present (.staging "staging" part)) &&
    now.state.devices.mounts = [] && now.state.devices.loops = []

theorem idle_spec {test : Meta → Bool} {now : NodeConfig} (idles : idle test now = true) :
    ∃ data, Files.metadata now.state.files "v" = some data ∧ test data = true ∧
      now.state.files.lookup (.lockFile "v") ≠ some .directory ∧ Unused "staging" ⟨now.state, 0⟩ ∧
      (now.state.devices.loops.map Prod.fst).Nodup := by
  simp only [idle, Bool.and_eq_true, decide_eq_true_eq, Bool.not_eq_true'] at idles
  obtain ⟨⟨⟨⟨found, filed⟩, parts⟩, mounts⟩, loops⟩ := idles
  obtain ⟨data, found, tested⟩ := (Option.any_eq_true ..).mp found
  refine ⟨data, found, tested, fun directory => ?_, ⟨fun part => ?_, fun part => ?_⟩, by simp [loops]⟩
  · rw [FileTree.isDirectory_iff.mpr directory] at filed
    cases filed
  · have each := List.all_eq_true.mp parts part (by cases part <;> simp)
    simpa [Files.present] using each
  · simp [Devices.mountsAt, mounts]

def staged (node : Node) : Option Clocked :=
  loose.follow (List.replicate 24 {}) (Bd2Fs.nodeStageVolume singlePool request) ⟨node, 0⟩

theorem unstage_undoes_mount : ∃ before now : Clocked,
    loose.Passes (Bd2Fs.nodeStageVolume singlePool request) before now ∧
      now.node.devices.mountsAt (.staging "staging" .mount) ≠ [] ∧ ∃ data,
      ((calm fun _ => 0).Ends (Undone "v" "staging" data) (Bd2Fs.nodeUnstageVolume "v" "staging") now ↔
        data.imgFile.isSome = true) := by
  obtain ⟨now, -, tested⟩ := @Machine.tested _ _ _ _ _ _ _ (nodePlugin singlePool) (fun _ _ => true)
    (fun now => idle (fun _ => true) now && (staged now.state).any fun last =>
      last.node.devices.mountsAt (.staging "staging" .mount) ≠ []) (thinCreated ++ moves 2 6 {}) NodeConfig.initial
    (by decide +kernel)
  obtain ⟨idles, mounted⟩ := Bool.and_eq_true_iff.mp tested
  obtain ⟨last, followed, mounted⟩ := (Option.any_eq_true ..).mp mounted
  obtain ⟨data, found, -, filed, unused, distinct⟩ := idle_spec idles
  exact ⟨_, last, follow_passes followed, of_decide_eq_true mounted, data,
    unstage_undoes found filed unused distinct (.single (.stage ⟨rfl, rfl⟩ (follow_passes followed)))⟩

def orphan : CreateVolumeArgs where
  volumeId := "v"
  size := 16777216
  storagePool := "default"
  thinProvision := true
  sourceType := some .volume
  sourceId := some "missing"

def orphanCreated : List NodeEvent := [.enter (.task (.createVolume orphan))] ++ moves 0 6 {}

/-- A volume whose creation failed before its image was named cannot be unstaged. -/
theorem unstage_without_image : ∃ now : NodeConfig,
    (nodePlugin singlePool).Reaches (fun _ _ => True) NodeConfig.initial now ∧
      now.state.files.present (.metaFile "v") = true ∧ Unused "staging" ⟨now.state, 0⟩ ∧
      (calm fun _ => 0).Ends (fun outcome _ => outcome = .error (.keyError "img_file"))
        (Bd2Fs.nodeUnstageVolume "v" "staging") ⟨now.state, 0⟩ := by
  obtain ⟨now, reached, tested⟩ := @Machine.tested _ _ _ _ _ _ _ (nodePlugin singlePool) (fun _ _ => true)
    (idle fun data => data.imgFile = none) orphanCreated NodeConfig.initial (by decide +kernel)
  obtain ⟨data, found, unnamed, filed, unused, distinct⟩ := idle_spec tested
  have stageable : Stageable "v" "staging" data ⟨now.state, 0⟩ :=
    ⟨found, filed, .absent (unused.parts .mount) (unused.mounts .mount), fun part _ => unused.mounts part,
      fun part _ => .inl (unused.parts part), .inl (unused.parts .block), distinct⟩
  exact ⟨now, reached.mono fun _ _ _ => trivial, by simp [Files.present, Files.metadata_iff.mp found], unused,
    nodeUnstageVolume_imageless stageable (of_decide_eq_true unnamed)⟩

end Unstaging
end Rawfile
