import Rawfile.Proofs.Destruction

/-! A deletion that a crash interrupts, and the deletion after the restart. The
second call knows the volume by its metadata only, which the first one removes
before the directory. -/

namespace Rawfile
open Effects

section
variable {config : DriverConfig} {volume : VolumeId} {pool : PoolName} {kept : String → Option (Entry Content)}
  {before after now crashed restarted : Clocked} {data : Meta} {capacity : PoolName → Nat}

/-- An image in use is not touched. -/
theorem deleteVolume_inUse (configured : pool ∈ config.storagePools) (recorded : Recorded volume pool data now)
    (attached : now.node.devices.attached (.imgFile pool volume) ≠ []) :
    (calm capacity).Yields (.error (.volumeInUse volume)) (VolumeManager.deleteVolume config volume) now := by
  obtain ⟨size, sized⟩ := Option.isSome_iff_exists.mp recorded.sized
  refine (Calm.metadataOr recorded.found).bind ?_
  rw [recorded.pooled, Option.getD_some]
  refine (Calm.getVolumePath configured).bind ((Calm.exists _).bind ?_)
  have present : now.node.files.present (.volumeDir pool volume) = true := by simp [Files.present, recorded.home]
  simp only [present, Bool.not_true, Bool.false_eq_true, if_false]
  refine (Calm.imgFile recorded.found recorded.named).bind ?_
  refine (Calm.imgSize recorded.found sized).bind ((Calm.attachedLoops _).bind ?_)
  rw [if_pos (by simpa [ImgFile.path] using attached)]
  exact .raise _ _

theorem deleteVolume_missing (fallback : config.defaultPool ∈ config.storagePools)
    (missing : now.node.files.lookup (.metaFile volume) = none) :
    (calm capacity).Yields (if now.node.files.present (.volumeDir config.defaultPool volume) then .error .fileNotFound
      else .ok 0) (VolumeManager.deleteVolume config volume) now := by
  refine (Calm.metadataOr_missing missing).bind ((Calm.getVolumePath fallback).bind ((Calm.exists _).bind ?_))
  cases now.node.files.present (.volumeDir config.defaultPool volume) with
  | false => exact .pure _ _
  | true => exact ((Calm.metadata_missing missing).failing).failing

/-- Wherever a deletion stops, the volume is at one of its stages. -/
theorem deleteVolume_passes (layout : Layout config volume pool kept before) (recorded : Recorded volume pool data before)
    (passes : (calm capacity).Passes (VolumeManager.deleteVolume config volume) before crashed) :
    Remains config volume pool kept crashed := by
  by_cases unattached : before.node.devices.attached (.imgFile pool volume) = []
  · exact (deleteVolume_spec layout recorded unattached).passes passes
  · rw [(deleteVolume_inUse layout.configured recorded unattached).passes passes]
    exact ⟨layout, .recorded recorded⟩

private theorem Remains.sameFiles (remains : Remains config volume pool kept before)
    (same : after.node.files = before.node.files) : Remains config volume pool kept after := by
  obtain ⟨layout, stage⟩ := remains
  have lookup : ∀ path, after.node.files.lookup path = before.node.files.lookup path := fun path => by rw [same]
  refine ⟨layout.congr fun path _ => lookup path, ?_⟩
  cases stage with
  | recorded recorded => exact .recorded (recorded.congr (lookup _) (lookup _))
  | stripped stripped =>
    exact .stripped ⟨(lookup _).trans stripped.record, (lookup _).trans stripped.home, (lookup _).trans stripped.image,
      fun temporary => (lookup _).trans (stripped.dirs temporary)⟩
  | erased erased => exact .erased ⟨(lookup _).trans erased.1, (lookup _).trans erased.2⟩

def Finished (volume : VolumeId) (pool : PoolName) (outcome : Except Err Nat) (after : Clocked) : Prop :=
  (∃ size, outcome = .ok size) ∧ Erased volume pool after

/-- The next deletion can find the volume by its metadata, and it is not in
use, or there is nothing left to find. -/
def Recoverable (config : DriverConfig) (volume : VolumeId) (pool : PoolName) (node : Node) : Prop :=
  (node.files.present (.metaFile volume) = true ∧ node.devices.attached (.imgFile pool volume) = []) ∨
    (node.files.present (.volumeDir pool volume) = false ∧
      node.files.present (.volumeDir config.defaultPool volume) = false)

private theorem Remains.finishes_missing (remains : Remains config volume pool kept now)
    (missing : now.node.files.lookup (.metaFile volume) = none)
    (vacant : now.node.files.lookup (.volumeDir pool volume) = none → Erased volume pool now) :
    (calm capacity).Ends (Finished volume pool) (VolumeManager.deleteVolume config volume) now ↔
      Recoverable config volume pool now.node := by
  rw [(deleteVolume_missing remains.1.fallback missing).ends_iff]
  unfold Finished Recoverable
  have record : now.node.files.present (.metaFile volume) = false := by simp [Files.present, missing]
  have home : now.node.files.present (.volumeDir pool volume) = false ↔ Erased volume pool now := by
    simp only [Files.present, Option.isSome_eq_false_iff, Option.isNone_iff_eq_none]
    exact ⟨vacant, fun erased => erased.2⟩
  rw [record, home]
  cases now.node.files.present (.volumeDir config.defaultPool volume) <;> simp

/-- A volume without snapshots is being deleted when the node goes down, and
its deletion is repeated after the restart. The repetition finishes the job if
and only if the crash left the metadata, with the image not in use, or left
nothing. -/
theorem deletion_recovers (layout : Layout config volume pool kept before) (recorded : Recorded volume pool data before)
    (unsnapped : ∀ name, kept name = none)
    (crash : (calm capacity).Passes (VolumeManager.deleteVolume config volume) before crashed)
    (restart : restarted.node.files = crashed.node.files) :
    (calm capacity).Ends (Finished volume pool) (VolumeManager.deleteVolume config volume) restarted ↔
      Recoverable config volume pool restarted.node := by
  have remains := (deleteVolume_passes layout recorded crash).sameFiles restart
  cases remains.2 with
  | stripped stripped =>
    refine remains.finishes_missing stripped.record fun gone => ?_
    cases stripped.home.symm.trans gone
  | erased erased =>
    refine remains.finishes_missing (FileTree.lookup_below rfl ?_) fun _ => erased
    rw [erased.1]
    exact nofun
  | recorded recorded =>
    have home : restarted.node.files.present (.volumeDir pool volume) = true := by
      simp [Files.present, recorded.home]
    by_cases unattached : restarted.node.devices.attached (.imgFile pool volume) = []
    · refine iff_of_true ?_ (.inl ⟨by simp [Files.present, Files.metadata_iff.mp recorded.found], unattached⟩)
      refine (deleteVolume_spec remains.1 recorded unattached).weaken (fun _ _ => trivial) ?_
      rintro _ after _ ⟨size, rfl, _, _, collected⟩
      exact ⟨⟨size, rfl⟩, collected.2.1 unsnapped⟩
    · rw [(deleteVolume_inUse remains.1.configured recorded unattached).ends_iff]
      refine iff_of_false (by simp [Finished]) ?_
      simp [Recoverable, unattached, home]

end

namespace CrashedDeletion

def interrupted (steps : Nat) (node : Node) : Option Clocked :=
  (calm fun _ => 0).follow (List.replicate steps {}) (VolumeManager.deleteVolume singlePool "v") ⟨node, 0⟩

def stopsAt (steps : Nat) (test : Node → Bool) (now : NodeConfig) : Bool :=
  now.state.files.orderly "v" && now.state.files.records "v" "default" && now.state.isReady "v" &&
    ((now.state.files.children (.snapshotsDir "default" "v" false)).filter
      fun path => path ≠ .snapshotsDir "default" "v" true) = [] &&
    (interrupted steps now.state).any fun crashed => test crashed.node

theorem stopsAt_spec {steps : Nat} {test : Node → Bool} {now : NodeConfig} (stops : stopsAt steps test now = true) :
    ∃ kept data crashed, Layout singlePool "v" "default" kept ⟨now.state, 0⟩ ∧
      Recorded "v" "default" data ⟨now.state, 0⟩ ∧ (∀ name, kept name = none) ∧ now.state.isReady "v" = true ∧
      (calm fun _ => 0).Passes (VolumeManager.deleteVolume singlePool "v") ⟨now.state, 0⟩ crashed ∧
      test crashed.node = true := by
  simp only [stopsAt, Bool.and_eq_true, decide_eq_true_eq] at stops
  obtain ⟨⟨⟨⟨orderly, records⟩, ready⟩, unsnapped⟩, stopped⟩ := stops
  have layout : Layout singlePool "v" "default" _ ⟨now.state, 0⟩ := .ofOrderly (by decide) (by decide) orderly
  obtain ⟨data, recorded⟩ := @Recorded.ofRecords "v" "default" ⟨now.state, 0⟩ records
  obtain ⟨crashed, followed, tested⟩ := (Option.any_eq_true ..).mp stopped
  exact ⟨_, data, crashed, layout, recorded, layout.real_snapshots.mp unsnapped, ready, World.follow_passes followed,
    tested⟩

def imageless (node : Node) : Bool :=
  !node.files.present (.imgFile "default" "v") && node.files.present (.metaFile "v")

/-- The deletion stops after it removed the image, and is repeated. -/
theorem deletion_recovers_imageless : ∃ before crashed : Clocked,
    (calm fun _ => 0).Passes (VolumeManager.deleteVolume singlePool "v") before crashed ∧
      imageless crashed.node = true ∧
      ((calm fun _ => 0).Ends (Finished "v" "default") (VolumeManager.deleteVolume singlePool "v")
        ⟨crashed.node.crash, 0⟩ ↔ Recoverable singlePool "v" "default" crashed.node.crash) := by
  obtain ⟨now, -, tested⟩ := @Machine.tested _ _ _ _ _ _ _ (nodePlugin singlePool) (fun _ _ => true)
    (stopsAt 22 imageless) (thinCreated ++ moves 2 6 {}) NodeConfig.initial (by decide +kernel)
  obtain ⟨kept, data, crashed, layout, recorded, unsnapped, -, passes, tested⟩ := stopsAt_spec tested
  exact ⟨_, crashed, passes, tested, deletion_recovers layout recorded unsnapped passes rfl⟩

def stranded (node : Node) : Bool :=
  !node.files.present (.metaFile "v") && node.files.present (.volumeDir "default" "v")

/-- A deletion that stops between the metadata and the directory cannot be repeated. -/
theorem deletion_stranded : ∃ before : NodeConfig, ∃ crashed : Clocked,
    (nodePlugin singlePool).Reaches (fun _ _ => True) NodeConfig.initial before ∧ before.state.isReady "v" = true ∧
      (∀ name, before.state.files.lookup (.snapshot "default" "v" false name) = none) ∧
      (calm fun _ => 0).Passes (VolumeManager.deleteVolume singlePool "v") ⟨before.state, 0⟩ crashed ∧
      ¬ (calm fun _ => 0).Ends (Finished "v" "default") (VolumeManager.deleteVolume singlePool "v")
        ⟨crashed.node.crash, 0⟩ := by
  obtain ⟨now, reached, tested⟩ := @Machine.tested _ _ _ _ _ _ _ (nodePlugin singlePool) (fun _ _ => true)
    (stopsAt 28 stranded) (thinCreated ++ moves 2 6 {}) NodeConfig.initial (by decide +kernel)
  obtain ⟨kept, data, crashed, layout, recorded, unsnapped, ready, passes, tested⟩ := stopsAt_spec tested
  refine ⟨now, crashed, reached.mono fun _ _ _ => trivial, ready, fun name => ?_, passes, ?_⟩
  · rw [layout.snapshots]
    exact unsnapped name
  · obtain ⟨missing, present⟩ := Bool.and_eq_true_iff.mp tested
    have gone : crashed.node.files.lookup (.metaFile "v") = none := by simpa [Files.present] using missing
    rw [(@deleteVolume_missing singlePool "v" ⟨crashed.node.crash, 0⟩ _ (by decide) gone).ends_iff, if_pos]
    · simp [Finished]
    · exact present

end CrashedDeletion
end Rawfile
