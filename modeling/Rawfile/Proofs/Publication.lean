import Rawfile.Proofs.MountPoint

/-! Publishing a volume at a target and removing it again. Whatever was tried
before, the target is in one of the states of a mount point, and unpublishing
clears it unless it is a file that lost its mount. -/

namespace Rawfile
open Effects World

structure Existing (volume : VolumeId) (now : Clocked) : Prop where
  found : ∃ data, Files.metadata now.node.files volume = some data
  filed : now.node.files.lookup (.lockFile volume) ≠ some .directory

structure Apart (volume : VolumeId) (target : String) (before after : Clocked) : Prop where
  record : after.node.files.lookup (.metaFile volume) = before.node.files.lookup (.metaFile volume)
  lock : after.node.files.lookup (.lockFile volume) = before.node.files.lookup (.lockFile volume)
  file : after.node.files.lookup (.published target) = before.node.files.lookup (.published target)
  mounts : after.node.devices.mountsAt (.published target) = before.node.devices.mountsAt (.published target)

/-- What happens to a target: requests that may fail or stop anywhere, crashes
of the plugin, restarts of the node, and anything that happens elsewhere. -/
inductive Publishing (volume : VolumeId) (target : String) : Clocked → Clocked → Prop
  | publish {request before after} (own : request.volumeId = volume ∧ request.targetPath = target)
      (passes : loose.Passes (Bd2Fs.nodePublishVolume request) before after) : Publishing volume target before after
  | unpublish {before after} (passes : loose.Passes (Bd2Fs.nodeUnpublishVolume volume target) before after) :
    Publishing volume target before after
  | crash (now) : Publishing volume target now { now with node := now.node.crash }
  | restart (now) : Publishing volume target now { now with node := now.node.restart }
  | elsewhere {before after} (apart : Apart volume target before after) : Publishing volume target before after

section
variable {volume : VolumeId} {target : String} {before after now : Clocked} {capacity : PoolName → Nat}

theorem Existing.standing (existing : Existing volume now) :
    now.node.files.lookup (.metaDir volume) = some .directory := by
  obtain ⟨data, found⟩ := existing.found
  have found := Files.metadata_iff.mp found
  exact now.node.files.rooted (.metaFile volume) _ (by rw [show now.node.files.entries.lookup _ = _ from found]; simp) rfl

theorem Existing.congr (existing : Existing volume before)
    (record : after.node.files.lookup (.metaFile volume) = before.node.files.lookup (.metaFile volume))
    (lock : after.node.files.lookup (.lockFile volume) = before.node.files.lookup (.lockFile volume)) :
    Existing volume after :=
  ⟨by rw [Files.metadata_congr record]; exact existing.found, by rw [lock]; exact existing.filed⟩

structure Orderly (volume : VolumeId) (target : String) (now : Clocked) : Prop where
  existing : Existing volume now
  point : MountState true (.published target) now

namespace Orderly

theorem relocked (orderly : Orderly volume target before) (relocked : Relocked volume before after) :
    Orderly volume target after := by
  refine ⟨⟨?_, relocked.2⟩, orderly.point.congr (relocked.1.files _ (by simp)) (by rw [relocked.1.devices])⟩
  rw [relocked.1.metadata (by simp)]
  exact orderly.existing.found

theorem along {α : Type} {program : Driver α} (orderly : Orderly volume target now)
    (steady : loose.Along (Steady true (.published target) now) program now) :
    loose.Along (Orderly volume target) program now := by
  refine steady.weaken (fun state held => ⟨?_, held.1⟩) fun _ _ _ _ => trivial
  exact orderly.existing.congr (held.2.files _ (by simp)) (held.2.files _ (by simp))

theorem locked {α : Type} {body : Driver α} (orderly : Orderly volume target now)
    (inside : ∀ state, Orderly volume target state → loose.Along (Orderly volume target) body state) :
    loose.Along (Orderly volume target) (withVolLock volume body) now :=
  Loose.withVolLock orderly (fun known => known.existing.filed) (fun changed known => known.relocked changed) inside

theorem ofNode (orderly : Orderly volume target before) (same : after.node = before.node) :
    Orderly volume target after :=
  ⟨orderly.existing.congr (by rw [same]) (by rw [same]), orderly.point.ofNode same⟩

theorem publish {request : NodePublishVolumeRequest} (own : request.volumeId = volume ∧ request.targetPath = target)
    (orderly : Orderly volume target now) :
    loose.Along (Orderly volume target) (Bd2Fs.nodePublishVolume request) now := by
  obtain ⟨rfl, rfl⟩ := own
  refine orderly.locked fun state orderly => ?_
  refine Loose.looking (metadataOr_within (fun _ reads => reads) request.volumeId) (fun _ same => orderly.ofNode same) ?_
    fun _ _ _ => trivial
  intro data state same
  have orderly := orderly.ofNode same
  split
  · exact Along.raise orderly
  · refine orderly.along (Along.bind ?_ fun accessType state steady => ?_)
    · unfold checkAccessType
      split
      · exact Along.pure (.refl orderly.point)
      · exact Along.raise (.refl orderly.point)
    · cases accessType with
      | mount =>
        refine Along.bind (Along.perform steady fun answer _ => steady.mkdirs) fun _ state steady => ?_
        exact mount_steady request.stagingTargetPath steady
      | block =>
        refine Along.bind (Along.perform steady fun answer _ => steady.touches rfl) fun _ state steady => ?_
        exact mount_steady request.stagingTargetPath steady

private theorem unpublish (orderly : Orderly volume target now) :
    loose.Along (Orderly volume target) (Bd2Fs.nodeUnpublishVolume volume target) now := by
  refine (Loose.exists (.metaFile volume)).andThen orderly ?_
  obtain ⟨data, found⟩ := orderly.existing.found
  rw [show now.node.files.present (.metaFile volume) = true by simp [Files.present, Files.metadata_iff.mp found]]
  refine orderly.locked fun state orderly => orderly.along ?_
  exact unmount_steady true (.refl orderly.point)

theorem step (orderly : Orderly volume target before) (happens : Publishing volume target before after) :
    Orderly volume target after := by
  cases happens with
  | publish own passes => exact (orderly.publish own).passes passes
  | unpublish passes => exact orderly.unpublish.passes passes
  | crash => exact ⟨orderly.existing.congr rfl rfl, orderly.point.congr rfl rfl⟩
  | restart =>
    refine ⟨orderly.existing.congr rfl rfl, ?_⟩
    cases orderly.point with
    | absent missing => exact .absent missing rfl
    | file may found plain => exact .file may found plain rfl
    | bound may found plain => exact .file may found plain rfl
    | directory found => exact .directory found rfl
    | mounted found => exact .directory found rfl
  | elsewhere apart =>
    exact ⟨orderly.existing.congr apart.record apart.lock, orderly.point.congr apart.file apart.mounts⟩

theorem run (orderly : Orderly volume target before)
    (happens : Relation.ReflTransGen (Publishing volume target) before after) : Orderly volume target after := by
  induction happens with
  | refl => exact orderly
  | tail _ last ih => exact ih.step last

theorem vacant (now : Clocked) (target : String) : now.node.files.children (.published target) = [] :=
  Files.children_leaf rfl

end Orderly

def Unpublished (target : String) (outcome : Except Err Unit) (after : Clocked) : Prop :=
  outcome = .ok () ∧ Cleared (.published target) after

theorem nodeUnpublishVolume_ends {post : Except Err Unit → Clocked → Prop} (orderly : Orderly volume target now)
    (relocks : ∀ outcome {before after}, Relocked volume before after → post outcome before → post outcome after)
    (inside : ∀ locked, Orderly volume target locked → locked.node.bareFile (.published target) =
      now.node.bareFile (.published target) → (calm capacity).Ends (fun outcome after => post outcome after ∧
        after.node.files.lookup (.lockFile volume) ≠ some .directory) (unmount (.published target) true) locked) :
    (calm capacity).Ends post (Bd2Fs.nodeUnpublishVolume volume target) now := by
  refine (Calm.ofLoose (Loose.exists (.metaFile volume))).andThen trivial ?_
  obtain ⟨data, found⟩ := orderly.existing.found
  rw [show now.node.files.present (.metaFile volume) = true by simp [Files.present, Files.metadata_iff.mp found]]
  refine Calm.withVolLock orderly.existing.standing orderly.existing.filed trivial (fun _ _ => trivial) ?_
  intro locked relocked
  have same : locked.node.bareFile (.published target) = now.node.bareFile (.published target) := by
    have file := relocked.1.files (.published target) (by simp)
    simp only [Node.bareFile, Files.present, FileTree.isDirectory, file, relocked.1.devices]
  refine (inside locked (orderly.relocked relocked) same).weaken (fun _ _ => trivial) ?_
  intro outcome after _ ended
  exact ⟨ended.2, fun released changed _ => relocks outcome changed ended.1⟩

private theorem nodeUnpublishVolume_bareFile (orderly : Orderly volume target now)
    (bare : now.node.bareFile (.published target) = true) :
    (calm capacity).Ends (fun outcome _ => outcome = .error .calledProcess)
      (Bd2Fs.nodeUnpublishVolume volume target) now := by
  refine nodeUnpublishVolume_ends orderly (fun _ _ _ _ failed => failed) fun locked orderly same => ?_
  rw [← same] at bare
  have failed : (calm capacity).Yields (.error .calledProcess) (unmount (.published target) true) locked := by
    simp only [Node.bareFile, Bool.and_eq_true, decide_eq_true_eq, Bool.not_eq_true'] at bare
    cases orderly.point with
    | file _ found plain free => exact unmount_bareFile found plain free
    | absent missing => simp [Files.present, missing] at bare
    | bound _ _ _ held => simp [held] at bare
    | directory found => simp [FileTree.isDirectory, found] at bare
    | mounted found => simp [FileTree.isDirectory, found] at bare
  exact failed.ends_iff.mpr ⟨rfl, orderly.existing.filed⟩

/-- However a target came to be what it is, unpublishing returns and leaves
nothing there if and only if it is not a file that nothing is mounted on. -/
theorem unpublish_completes (existing : Existing volume before) (clean : Cleared (.published target) before)
    (happened : Relation.ReflTransGen (Publishing volume target) before now) :
    (calm capacity).Ends (Unpublished target) (Bd2Fs.nodeUnpublishVolume volume target) now ↔
      now.node.bareFile (.published target) = false := by
  have orderly : Orderly volume target now := Orderly.run ⟨existing, .absent clean.1 clean.2⟩ happened
  constructor
  · intro completes
    by_contra bare
    rw [Bool.not_eq_false] at bare
    obtain ⟨outcome, last, returned, failed⟩ := (completes.both (nodeUnpublishVolume_bareFile orderly bare)).satisfiable
    cases returned.1.symm.trans failed
  · intro covered
    refine nodeUnpublishVolume_ends orderly ?_ fun locked orderly same => ?_
    · intro outcome _ last changed ended
      refine ⟨ended.1, ?_, ?_⟩
      · rw [changed.1.files _ (by simp)]
        exact ended.2.1
      · rw [changed.1.devices]
        exact ended.2.2
    · refine (unmount_clears orderly.point (Orderly.vacant locked target) (same.trans covered)).weaken
        (fun _ _ => trivial) ?_
      rintro _ last _ ⟨rfl, cleared, around⟩
      refine ⟨⟨rfl, cleared⟩, ?_⟩
      rw [around.files _ (by simp)]
      exact orderly.existing.filed

end

namespace Publication

def request (accessType : AccessType) : NodePublishVolumeRequest where
  volumeId := "v"
  stagingTargetPath := "staging"
  targetPath := "target"
  accessType := some accessType

def interrupted (accessType : AccessType) (node : Node) : Option Clocked :=
  loose.follow (List.replicate 3 {}) (Bd2Fs.nodePublishVolume (request accessType)) ⟨node, 0⟩

def stopsAt (accessType : AccessType) (test : Node → Bool) (now : NodeConfig) : Bool :=
  (Files.metadata now.state.files "v").isSome && !now.state.files.isDirectory (.lockFile "v") &&
    !now.state.files.present (.published "target") && now.state.devices.mountsAt (.published "target") = [] &&
    (interrupted accessType now.state).any fun stopped => test stopped.node

theorem stopsAt_spec {accessType : AccessType} {test : Node → Bool} {now : NodeConfig}
    (stops : stopsAt accessType test now = true) :
    ∃ stopped, Existing "v" ⟨now.state, 0⟩ ∧ Cleared (.published "target") ⟨now.state, 0⟩ ∧
      loose.Passes (Bd2Fs.nodePublishVolume (request accessType)) ⟨now.state, 0⟩ stopped ∧ test stopped.node = true := by
  simp only [stopsAt, Bool.and_eq_true, decide_eq_true_eq, Bool.not_eq_true'] at stops
  obtain ⟨⟨⟨⟨found, filed⟩, missing⟩, free⟩, stopped⟩ := stops
  obtain ⟨stopped, followed, tested⟩ := (Option.any_eq_true ..).mp stopped
  refine ⟨stopped, ⟨Option.isSome_iff_exists.mp found, fun directory => ?_⟩, ⟨?_, free⟩, follow_passes followed, tested⟩
  · rw [FileTree.isDirectory_iff.mpr directory] at filed
    cases filed
  · simpa [Files.present] using missing

/-- A publication as a file system stops after it created the directory. -/
theorem unpublish_completes_directory : ∃ before now : Clocked,
    loose.Passes (Bd2Fs.nodePublishVolume (request .mount)) before now ∧
      now.node.files.isDirectory (.published "target") = true ∧
      ((calm fun _ => 0).Ends (Unpublished "target") (Bd2Fs.nodeUnpublishVolume "v" "target") now ↔
        now.node.bareFile (.published "target") = false) := by
  obtain ⟨now, -, tested⟩ := @Machine.tested _ _ _ _ _ _ _ (nodePlugin singlePool) (fun _ _ => true)
    (stopsAt .mount fun node => node.files.isDirectory (.published "target")) (thinCreated ++ moves 2 6 {})
    NodeConfig.initial (by decide +kernel)
  obtain ⟨stopped, existing, clean, passes, directory⟩ := stopsAt_spec tested
  exact ⟨_, stopped, passes, directory,
    unpublish_completes existing clean (.single (.publish ⟨rfl, rfl⟩ passes))⟩

/-- A publication as a block device stops after it created the file: the target cannot be unpublished any more. -/
theorem unpublish_stuck : ∃ before : NodeConfig, ∃ now : Clocked,
    (nodePlugin singlePool).Reaches (fun _ _ => True) NodeConfig.initial before ∧
      Existing "v" ⟨before.state, 0⟩ ∧ Cleared (.published "target") ⟨before.state, 0⟩ ∧
      loose.Passes (Bd2Fs.nodePublishVolume (request .block)) ⟨before.state, 0⟩ now ∧
      (calm fun _ => 0).Ends (fun outcome _ => outcome = .error .calledProcess)
        (Bd2Fs.nodeUnpublishVolume "v" "target") now := by
  obtain ⟨now, reached, tested⟩ := @Machine.tested _ _ _ _ _ _ _ (nodePlugin singlePool) (fun _ _ => true)
    (stopsAt .block fun node => node.bareFile (.published "target")) (thinCreated ++ moves 2 6 {})
    NodeConfig.initial (by decide +kernel)
  obtain ⟨stopped, existing, clean, passes, bare⟩ := stopsAt_spec tested
  have orderly : Orderly "v" "target" ⟨now.state, 0⟩ := ⟨existing, .absent clean.1 clean.2⟩
  exact ⟨now, stopped, reached.mono fun _ _ _ => trivial, existing, clean, passes,
    nodeUnpublishVolume_bareFile (orderly.step (.publish ⟨rfl, rfl⟩ passes)) bare⟩

end Publication
end Rawfile
