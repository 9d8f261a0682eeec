import Rawfile.Proofs.CallFootprint
import Rawfile.Proofs.Destruction

/-! The end of a volume with snapshots, in any order. The volume and its
snapshots are deleted one by one, garbage is collected in between, and what is
not deleted yet stays as it was until the last deletion removes the rest. -/

namespace Rawfile
open Effects

section
variable {volume : VolumeId} {operation : Op}

theorem GcOp.own {path : Path} (issued : GcOp volume operation)
    (touches : operation.touches path) : path.volume = some volume := by
  cases issued with
  | acquire => cases touches; rfl
  | release => cases touches; rfl
  | destroying issued =>
    cases issued with
    | removeImage img own => cases touches; exact congrArg some own
    | cleaning issued =>
      cases issued with
      | looking reads => exact absurd touches (reads.untouched path)
      | removeMeta inner inside => cases touches; exact (Path.parent_volume inside).symm
      | removeSnapshotsDir => cases touches; rfl
      | removeMetaDir => cases touches; rfl
      | removeVolumeDir => cases touches; rfl

theorem GcOp.steady (issued : GcOp volume operation) : operation.reads ∨ ∀ device, operation ≠ .device device := by
  cases issued with
  | acquire => exact .inr (by simp)
  | release => exact .inr (by simp)
  | destroying issued =>
    cases issued with
    | removeImage => exact .inr (by simp)
    | cleaning issued =>
      cases issued with
      | looking reads => exact .inl reads
      | _ => exact .inr (by simp)

theorem DeleteVolumeOp.steady (issued : DeleteVolumeOp volume operation) :
    operation.reads ∨ ∀ device, operation ≠ .device device := by
  cases issued with
  | collecting issued => exact issued.steady
  | deleting => exact .inr (by simp)

end

section
variable {α : Type} {config : DriverConfig} {volume : VolumeId} {pool : PoolName}
  {kept : String → Option (Entry Content)} {before after now : Clocked} {data : Meta} {capacity : PoolName → Nat}
  {deleted dryRun : Bool} {name : String}

/-- What a program does not touch stays as it is, and so do the devices unless it works on them. -/
theorem Calm.keeps {program : Driver α} {allowed : Op → Prop} (paths : Path → Prop)
    (within : program.Within Op.lawful allowed)
    (steady : ∀ operation, allowed operation → operation.reads ∨ ∀ device, operation ≠ .device device)
    (inside : ∀ operation, allowed operation → ∀ path, operation.touches path → paths path) :
    (calm capacity).Ends (fun _ after => Agrees paths now after) program now := by
  refine (World.Surely.ofWithin (Agrees paths now) within ?_ ?_ (.refl paths now)).weaken (fun _ _ => trivial)
    fun _ _ _ agrees => agrees
  · exact fun operation answer state => operation.exec_lawful 0 answer state.node
  · intro operation answer state issued may agrees
    refine agrees.trans ⟨fun path outside => ?_, ?_, ?_⟩
    · exact operation.exec_lookup 0 answer state.node fun touches => outside (inside operation issued path touches)
    · rcases steady operation issued with reads | other
      · exact congrArg Node.devices (reads.unchanged (Prod.ext rfl rfl))
      · exact Op.exec_devices 0 answer state.node operation other
    · exact Calm.exec_time may

/-- A volume that is not deleted is whole. One that is deleted keeps its
metadata for the snapshots it has, and without snapshots it is gone. -/
structure Keeping (config : DriverConfig) (volume : VolumeId) (pool : PoolName) (kept : String → Option (Entry Content))
    (deleted : Bool) (now : Clocked) : Prop where
  layout : Layout config volume pool kept now
  unattached : now.node.devices.attached (.imgFile pool volume) = []
  whole : deleted = false → ∃ data, Recorded volume pool data now ∧ data.deletedAt = none ∧
    now.node.files.lookup (.imgFile pool volume) ≠ none
  waiting : deleted = true → (∃ name, kept name ≠ none) → ∃ data gcAt, Recorded volume pool data now ∧
    data.deletedAt.isSome = true ∧ data.gcAt = some gcAt ∧ gcAt ≤ now.time ∧
    now.node.files.lookup (.imgFile pool volume) = none
  gone : deleted = true → (∀ name, kept name = none) → Erased volume pool now

namespace Keeping

section
variable (keeping : Keeping config volume pool kept deleted before)
include keeping

theorem congr (layout : Layout config volume pool kept after)
    (same : ∀ path, path.volume = some volume → path ≠ .lockFile volume →
      after.node.files.lookup path = before.node.files.lookup path)
    (devices : after.node.devices = before.node.devices) (time : before.time ≤ after.time) :
    Keeping config volume pool kept deleted after := by
  refine ⟨layout, by rw [devices]; exact keeping.unattached, ?_, ?_, ?_⟩
  · intro alive
    obtain ⟨data, recorded, undeleted, image⟩ := keeping.whole alive
    refine ⟨data, recorded.congr (same _ rfl (by simp)) (same _ rfl (by simp)), undeleted, ?_⟩
    rw [same _ rfl (by simp)]
    exact image
  · intro dead some
    obtain ⟨data, gcAt, recorded, deletedAt, due, past, image⟩ := keeping.waiting dead some
    refine ⟨data, gcAt, recorded.congr (same _ rfl (by simp)) (same _ rfl (by simp)), deletedAt, due,
      Nat.le_trans past time, ?_⟩
    rw [same _ rfl (by simp)]
    exact image
  · intro dead none
    have erased := keeping.gone dead none
    exact ⟨(same _ rfl (by simp)).trans erased.1, (same _ rfl (by simp)).trans erased.2⟩

theorem outside (agrees : Agrees (fun path => path.volume ≠ some volume) before after) :
    Keeping config volume pool kept deleted after := by
  have same : ∀ path, path.volume = some volume → after.node.files.lookup path = before.node.files.lookup path :=
    fun path own => agrees.files path fun other => other own
  exact keeping.congr (keeping.layout.congr same) (fun path own _ => same path own) agrees.devices agrees.time

theorem relocked (relocked : Relocked volume before after) : Keeping config volume pool kept deleted after :=
  keeping.congr (keeping.layout.relocked relocked) (fun path _ other => relocked.1.files path other) relocked.1.devices
    relocked.1.time

end

theorem later (keeping : Keeping config volume pool kept deleted now) {time : Nat} (later : now.time ≤ time) :
    Keeping config volume pool kept deleted { now with time } :=
  keeping.congr (keeping.layout.later time) (fun _ _ _ => rfl) rfl later

private theorem ofCollected {gcAt : Nat} (collected : Collected config volume pool kept data now)
    (unattached : now.node.devices.attached (.imgFile pool volume) = []) (deletedAt : data.deletedAt.isSome = true)
    (due : data.gcAt = some gcAt) (past : gcAt ≤ now.time) : Keeping config volume pool kept true now := by
  refine ⟨collected.1, unattached, nofun, fun _ some => ?_, fun _ none => collected.2.1 none⟩
  obtain ⟨recorded, image⟩ := collected.2.2 some
  exact ⟨data, gcAt, recorded, deletedAt, due, past, image⟩

end Keeping

private theorem collect_due {gcAt : Nat} (layout : Layout config volume pool kept now) (recorded : Recorded volume pool data now)
    (unattached : now.node.devices.attached (.imgFile pool volume) = [])
    (deletedAt : data.deletedAt.isSome = true) (due : data.gcAt = some gcAt) (past : gcAt ≤ now.time) :
    (calm capacity).Ends (fun outcome after => ∃ value, outcome = .ok value ∧ Keeping config volume pool kept true after)
      (VolumeManager.gcIfNeeded config volume false) now := by
  refine ((gcIfNeeded_spec layout recorded deletedAt due past).both
    (Calm.keeps (fun _ => True) (VolumeManager.gcIfNeeded_within config volume false) (fun _ => GcOp.steady)
      fun _ _ _ _ => trivial)).weaken (fun _ _ => trivial) ?_
  rintro _ after _ ⟨⟨value, rfl, collected⟩, agrees⟩
  refine ⟨value, rfl, .ofCollected collected ?_ deletedAt due (Nat.le_trans past agrees.time)⟩
  rw [agrees.devices]
  exact unattached

private theorem collect_alive (layout : Layout config volume pool kept now) (recorded : Recorded volume pool data now)
    (undeleted : data.deletedAt = none) :
    (calm capacity).Ends (fun outcome after => ∃ value, outcome = .ok value ∧ Relocked volume now after)
      (VolumeManager.gcIfNeeded config volume dryRun) now := by
  refine .onward _ (locked_metadata recorded.found (layout.plain rfl rfl) trivial fun _ _ => trivial) ?_
  rintro _ state _ ⟨rfl, relocked⟩
  simp only [undeleted]
  exact .pure trivial ⟨false, rfl, relocked⟩

section
variable (keeping : Keeping config volume pool kept deleted now)
include keeping

private theorem gcIfNeeded_keeps (needed : deleted = false ∨ ∃ name, kept name ≠ none) :
    (calm capacity).Ends (fun outcome after => ∃ value, outcome = .ok value ∧
      Keeping config volume pool kept deleted after) (VolumeManager.gcIfNeeded config volume dryRun) now := by
  cases deleted with
  | false =>
    obtain ⟨data, recorded, undeleted, -⟩ := keeping.whole rfl
    refine (collect_alive keeping.layout recorded undeleted).weaken (fun _ _ => trivial) ?_
    rintro _ after _ ⟨value, rfl, relocked⟩
    exact ⟨value, rfl, keeping.relocked relocked⟩
  | true =>
    obtain ⟨data, gcAt, recorded, deletedAt, due, past, -⟩ := keeping.waiting rfl (needed.resolve_left nofun)
    cases dryRun with
    | false => exact collect_due keeping.layout recorded keeping.unattached deletedAt due past
    | true =>
      refine .onward _ (locked_metadata recorded.found (keeping.layout.plain rfl rfl) trivial fun _ _ => trivial) ?_
      rintro _ state _ ⟨rfl, relocked⟩
      obtain ⟨deletedAt, isDeleted⟩ := Option.isSome_iff_exists.mp deletedAt
      simp only [isDeleted, due]
      refine Calm.clock trivial fun time later => ?_
      rw [if_pos (Nat.le_trans past (Nat.le_trans relocked.1.time later))]
      exact .pure trivial ⟨true, rfl, (keeping.relocked relocked).later later⟩

private theorem gcIfNeeded_other {other : VolumeId} (different : other ≠ volume) :
    (calm capacity).Ends (fun _ after => Keeping config volume pool kept deleted after)
      (VolumeManager.gcIfNeeded config other dryRun) now := by
  refine (Calm.keeps (fun path => path.volume ≠ some volume) (VolumeManager.gcIfNeeded_within config other dryRun)
    (fun _ => GcOp.steady) ?_).weaken (fun _ _ => trivial) ?_
  · intro operation issued path touches
    rw [issued.own touches]
    simpa using different
  · intro _ after _ agrees
    exact keeping.outside agrees

theorem Keeping.recorded
    (needed : deleted = false ∨ ∃ name, kept name ≠ none) : ∃ data, Recorded volume pool data now := by
  cases deleted with
  | false =>
    obtain ⟨data, recorded, -⟩ := keeping.whole rfl
    exact ⟨data, recorded⟩
  | true =>
    obtain ⟨data, gcAt, recorded, -⟩ := keeping.waiting rfl (needed.resolve_left nofun)
    exact ⟨data, recorded⟩

theorem Keeping.needed
    (present : now.node.files.lookup (.metaFile volume) ≠ none) : deleted = false ∨ ∃ name, kept name ≠ none := by
  by_contra useless
  obtain ⟨dead, none⟩ := not_or.mp useless
  have erased := keeping.gone (by simpa using dead) fun name => by_contra fun other => none ⟨name, other⟩
  exact present (FileTree.lookup_below rfl (by rw [erased.1]; exact nofun))

end

private theorem gcVolumes_keeps (volumes : List VolumeId) (keeping : Keeping config volume pool kept deleted now)
    (listed : volume ∈ volumes → deleted = false ∨ ∃ name, kept name ≠ none) :
    (calm capacity).Ends (fun _ after => Keeping config volume pool kept deleted after)
      (VolumeManager.gcVolumes config dryRun volumes) now := by
  induction volumes generalizing now with
  | nil => exact .pure trivial keeping
  | cons other rest ih =>
    have first : (calm capacity).Ends (fun _ after => Keeping config volume pool kept deleted after)
        (VolumeManager.gcIfNeeded config other dryRun) now := by
      by_cases same : other = volume
      · subst same
        refine (gcIfNeeded_keeps keeping (listed (List.mem_cons_self ..))).weaken (fun _ _ => trivial) ?_
        rintro _ _ _ ⟨_, _, keeping⟩
        exact keeping
      · exact gcIfNeeded_other keeping same
    refine .andThen first ?_ fun _ _ keeping => keeping
    intro collected state keeping
    refine .andThen (ih keeping fun member => listed (List.mem_cons_of_mem _ member)) ?_ fun _ _ keeping => keeping
    exact fun _ _ keeping => .pure trivial keeping

theorem mem_volumes {files : Files} (member : volume ∈ Files.volumes files) : files.lookup (.metaFile volume) ≠ none := by
  obtain ⟨path, listed, named⟩ := List.mem_filterMap.mp member
  split at named
  · split at named
    · cases named
    · cases named
      exact FileTree.listed_iff.mp listed
  · cases named

private theorem gcAllVolumes_keeps (keeping : Keeping config volume pool kept deleted now) :
    (calm capacity).Ends (fun _ after => Keeping config volume pool kept deleted after)
      (VolumeManager.gcAllVolumes config dryRun) now := by
  have looked : (calm capacity).Yields (.ok (Files.volumes now.node.files)) VolumeManager.listAllVolumes now :=
    .perform fun _ _ => rfl
  exact looked.andThen trivial (gcVolumes_keeps _ keeping fun member => keeping.needed (mem_volumes member))

theorem Files.Typed.removed {paths : Path → Prop} {path : Path} (typed : before.node.files.Typed paths)
    (removed : Removed path before after) : after.node.files.Typed paths :=
  typed.changed removed.2 (by simp [removed.1])

theorem Files.Typed.relocked {paths : Path → Prop} (typed : before.node.files.Typed paths)
    (relocked : Relocked volume before after) : after.node.files.Typed paths :=
  typed.changed relocked.1 relocked.fits

structure Unsnapped (volume : VolumeId) (pool : PoolName) (temporary : Bool) (name : String) (before after : Clocked) :
    Prop where
  file : after.node.files.lookup (.snapshot pool volume temporary name) = none
  marker : after.node.files.lookup (.creating pool volume temporary name) = none
  lock : after.node.files.lookup (.lockFile volume) ≠ some .directory
  agrees : Agrees (fun path => path = .snapshot pool volume temporary name ∨
    path = .creating pool volume temporary name ∨ path = .lockFile volume) before after

theorem Unsnapped.typed {temporary : Bool} {paths : Path → Prop} (unsnapped : Unsnapped volume pool temporary name before after)
    (typed : before.node.files.Typed paths) : after.node.files.Typed paths := by
  intro path entry inside found
  by_cases touched : path = .snapshot pool volume temporary name ∨ path = .creating pool volume temporary name ∨
      path = .lockFile volume
  · rcases touched with rfl | rfl | rfl
    · cases unsnapped.file.symm.trans found
    · cases unsnapped.marker.symm.trans found
    · refine iff_of_false ?_ (by simp [Path.isDirName])
      rintro rfl
      exact unsnapped.lock found
  · rw [unsnapped.agrees.files path touched] at found
    exact typed path entry inside found

theorem deleteSnapshot_unsnaps {temporary : Bool} (configured : pool ∈ config.storagePools)
    (typed : now.node.files.Typed fun path => path.volume = some volume)
    (found : Files.metadata now.node.files volume = some data) (pooled : data.storagePool = some pool) :
    (calm capacity).Ends (fun outcome after => ∃ value, outcome = .ok value ∧
      Unsnapped volume pool temporary name now after)
      (SnapshotManager.deleteSnapshot config volume name temporary) now := by
  refine Calm.withVolLock (Files.metadata_stands found) (typed.plain rfl rfl) trivial (fun _ _ => trivial)
    fun locked relocked => ?_
  have inside := typed.relocked relocked
  have looked : (calm capacity).Yields (.ok pool) (snapshotsPool config volume) locked := by
    rw [← Files.metadata_congr (relocked.1.files _ (by simp))] at found
    refine (Calm.metadata found).bind ?_
    rw [pooled]
    exact (Calm.getVolumePath configured).bind (.pure _ _)
  refine looked.andThen trivial (.onward (fun _ middle => Removed (.snapshot pool volume temporary name) locked middle)
    (Calm.unlink (inside.plain rfl rfl) trivial fun middle removed => ⟨trivial, (), rfl, removed⟩) ?_)
  intro _ middle _ first
  have between := inside.removed first
  refine Calm.unlink (between.plain rfl rfl) trivial fun ended second => ⟨trivial, ?_⟩
  have outside := between.removed second
  refine ⟨outside.plain rfl rfl, fun released again _ => ⟨(), rfl, ?_, ?_, again.2, ?_⟩⟩
  · rw [again.1.files _ (by simp), second.2.files _ (by simp)]
    exact first.1
  · rw [again.1.files _ (by simp)]
    exact second.1
  · have one : Agrees (fun path => path = .snapshot pool volume temporary name ∨
        path = .creating pool volume temporary name ∨ path = .lockFile volume) now locked :=
      relocked.1.mono fun _ same => .inr (.inr same)
    exact ((one.trans (first.2.mono fun _ same => .inl same)).trans (second.2.mono fun _ same => .inr (.inl same))).trans
      (again.1.mono fun _ same => .inr (.inr same))

theorem Unsnapped.unprobed {temporary : Bool} (unsnapped : Unsnapped volume pool temporary name before after)
    (unprobed : before.node.files.Unprobed volume) : after.node.files.Unprobed volume := by
  refine unprobed.agrees unsnapped.agrees ?_
  rintro _ (rfl | rfl | rfl) <;> rfl

theorem Layout.unsnapped (layout : Layout config volume pool kept before)
    (unsnapped : Unsnapped volume pool false name before after) :
    Layout config volume pool (Function.update kept name none) after := by
  refine ⟨layout.configured, layout.fallback, unsnapped.typed layout.typed, ?_, ?_, ?_, unsnapped.unprobed layout.unprobed⟩
  · intro other
    by_cases deleted : other = name
    · subst deleted
      rw [unsnapped.file, Function.update_self]
    · rw [unsnapped.agrees.files _ (by simpa using deleted), Function.update_of_ne deleted]
      exact layout.snapshots other
  · intro other
    rw [unsnapped.agrees.files _ (by simp)]
    exact layout.temporaries other
  · intro temporary other
    by_cases marker : Path.creating pool volume temporary other = .creating pool volume false name
    · rw [marker]
      exact unsnapped.marker
    · rw [unsnapped.agrees.files _ (by simpa using marker)]
      exact layout.unmarked temporary other

theorem deleteSnapshot_spec (layout : Layout config volume pool kept now) (recorded : Recorded volume pool data now) :
    (calm capacity).Ends (fun outcome after => ∃ value, outcome = .ok value ∧
      Layout config volume pool (Function.update kept name none) after ∧ Recorded volume pool data after ∧
      after.node.files.lookup (.imgFile pool volume) = now.node.files.lookup (.imgFile pool volume) ∧
      after.node.devices = now.node.devices ∧ now.time ≤ after.time)
      (SnapshotManager.deleteSnapshot config volume name false) now := by
  refine (deleteSnapshot_unsnaps layout.configured layout.typed recorded.found recorded.pooled).weaken
    (fun _ pass => pass) ?_
  rintro _ after - ⟨value, rfl, unsnapped⟩
  have agrees := unsnapped.agrees
  exact ⟨value, rfl, layout.unsnapped unsnapped, recorded.congr (agrees.files _ (by simp)) (agrees.files _ (by simp)),
    agrees.files _ (by simp), agrees.devices, agrees.time⟩

theorem splitId_slash (name : String) (plain : '/' ∉ name.toList) :
    splitId (volume ++ "/" ++ name) = some (volume, name) := by
  have backwards : (volume ++ "/" ++ name).toList.reverse = name.toList.reverse ++ '/' :: volume.toList.reverse := by
    simp
  have inside : ∀ letter ∈ name.toList.reverse, decide (letter ≠ '/') = true := by
    intro letter member
    refine decide_eq_true fun slash => plain ?_
    rw [← slash]
    exact List.mem_reverse.mp member
  unfold splitId
  simp only [backwards]
  rw [List.dropWhile_append_of_pos inside, List.takeWhile_append_of_pos inside]
  simp

/-- A deletion of the volume on its own: the volume waits for its snapshots, if it has any. -/
theorem deleteVolume_keeps (keeping : Keeping config volume pool kept false now) :
    (calm capacity).Ends (fun outcome after => outcome = .ok () ∧ Keeping config volume pool kept true after)
      (RawFileController.deleteVolume config volume) now := by
  obtain ⟨data, recorded, -⟩ := keeping.whole rfl
  refine .tryExcept (.onward (fun _ after => Keeping config volume pool kept true after) ?_ ?_)
  · refine ((deleteVolume_spec keeping.layout recorded keeping.unattached).both
      (Calm.keeps (fun _ => True) (VolumeManager.deleteVolume_within config volume) (fun _ => DeleteVolumeOp.steady)
        fun _ _ _ _ => trivial)).weaken (fun _ _ => trivial) ?_
    rintro _ after _ ⟨⟨size, rfl, time, later, collected⟩, agrees⟩
    refine ⟨size, rfl, .ofCollected collected ?_ rfl rfl ?_⟩
    · rw [agrees.devices]
      exact keeping.unattached
    · exact later
  · intro _ state _ keeping
    exact .pure trivial ⟨trivial, rfl, keeping⟩

/-- A deletion of a snapshot: the others stay, and a deleted volume goes with the last of them. -/
theorem deleteSnapshot_keeps (enabled : config.snapshotsEnabled = true) (plain : '/' ∉ name.toList)
    (keeping : Keeping config volume pool kept deleted now) (stored : kept name ≠ none) :
    (calm capacity).Ends (fun outcome after => outcome = .ok () ∧
      Keeping config volume pool (Function.update kept name none) deleted after)
      (Bd2Fs.deleteSnapshot config (volume ++ "/" ++ name)) now := by
  unfold Bd2Fs.deleteSnapshot Bd2Fs.snapshotsOnly
  rw [if_pos enabled, rsplit, splitId_slash name plain]
  dsimp only
  rw [Program.pure_bind]
  obtain ⟨data, recorded⟩ := keeping.recorded (.inr ⟨name, stored⟩)
  refine .onward _ (deleteSnapshot_spec keeping.layout recorded) ?_
  rintro _ state _ ⟨layout, record, image, devices, time⟩
  have unattached : state.node.devices.attached (.imgFile pool volume) = [] := by
    rw [devices]
    exact keeping.unattached
  refine .onward (fun _ after => Keeping config volume pool (Function.update kept name none) deleted after) ?_
    fun _ state _ keeping => .pure trivial ⟨rfl, keeping⟩
  cases deleted with
  | false =>
    obtain ⟨same, found, undeleted, present⟩ := keeping.whole rfl
    cases found.found.symm.trans recorded.found
    have next : Keeping config volume pool (Function.update kept name none) false state :=
      ⟨layout, unattached, fun _ => ⟨data, record, undeleted, by rw [image]; exact present⟩, nofun, nofun⟩
    exact gcIfNeeded_keeps next (.inl rfl)
  | true =>
    obtain ⟨same, gcAt, found, deletedAt, due, past, -⟩ := keeping.waiting rfl ⟨name, stored⟩
    cases found.found.symm.trans recorded.found
    exact collect_due layout record unattached deletedAt due (Nat.le_trans past time)

inductive Removal where
  | deleteVolume
  | deleteSnapshot (name : String)
  | collect (dryRun : Bool)
  deriving DecidableEq

/-- A collection is a process of its own: if it fails on another volume, nothing else stops. -/
def Removal.perform (config : DriverConfig) (volume : VolumeId) : Removal → Driver Unit
  | .deleteVolume => RawFileController.deleteVolume config volume
  | .deleteSnapshot name => Bd2Fs.deleteSnapshot config (volume ++ "/" ++ name)
  | .collect dryRun => do let _ ← (VolumeManager.gcAllVolumes config dryRun).attempt

def Complete (kept : String → Option (Entry Content)) (order : List Removal) : Prop :=
  order.count .deleteVolume = 1 ∧ ∀ name, order.count (.deleteSnapshot name) = if (kept name).isSome then 1 else 0

def remaining (kept : String → Option (Entry Content)) (done : List Removal) (name : String) : Option (Entry Content) :=
  if .deleteSnapshot name ∈ done then none else kept name

def Pending (kept : String → Option (Entry Content)) (done : List Removal) : Prop :=
  .deleteVolume ∉ done ∨ ∃ name, remaining kept done name ≠ none

/-- A volume with its image and its metadata, not deleted and not in use. The names of files have no slash. -/
structure Intact (config : DriverConfig) (volume : VolumeId) (pool : PoolName) (kept : String → Option (Entry Content))
    (data : Meta) (now : Clocked) : Prop where
  layout : Layout config volume pool kept now
  recorded : Recorded volume pool data now
  undeleted : data.deletedAt = none
  image : now.node.files.lookup (.imgFile pool volume) ≠ none
  unattached : now.node.devices.attached (.imgFile pool volume) = []
  named : ∀ name, kept name ≠ none → '/' ∉ name.toList

theorem Intact.keeping (intact : Intact config volume pool kept data now) :
    Keeping config volume pool (remaining kept []) (decide (Removal.deleteVolume ∈ [])) now :=
  ⟨intact.layout, intact.unattached, fun _ => ⟨data, intact.recorded, intact.undeleted, intact.image⟩, nofun, nofun⟩

section Order
variable {order done rest : List Removal} {removal : Removal}

private theorem remaining_snapshot : remaining kept (done ++ [.deleteSnapshot name]) =
    Function.update (remaining kept done) name none := by
  funext other
  by_cases same : other = name
  · subst same
    simp [remaining]
  · simp [remaining, same]

private theorem remaining_other (other : ∀ name, removal ≠ .deleteSnapshot name) :
    remaining kept (done ++ [removal]) = remaining kept done := by
  funext name
  simp [remaining, (other name).symm]

theorem Complete.fresh (complete : Complete kept order) (split : order = done ++ removal :: rest) :
    (removal = .deleteVolume → .deleteVolume ∉ done) ∧
      ∀ name, removal = .deleteSnapshot name → remaining kept done name ≠ none := by
  subst split
  refine ⟨?_, fun name => ?_⟩
  · rintro rfl
    have once := complete.1
    rw [List.count_append, List.count_cons_self] at once
    exact List.count_eq_zero.mp (by omega)
  · rintro rfl
    have once := complete.2 name
    rw [List.count_append, List.count_cons_self] at once
    have absent : .deleteSnapshot name ∉ done := List.count_eq_zero.mp (by split at once <;> omega)
    rw [remaining, if_neg absent]
    intro none
    rw [none] at once
    simp at once

theorem Complete.finished (complete : Complete kept order) : ¬ Pending kept order := by
  rintro (absent | ⟨name, left⟩)
  · have once := complete.1
    rw [List.count_eq_zero.mpr absent] at once
    cases once
  · unfold remaining at left
    split at left
    · exact left rfl
    next absent =>
      have once := complete.2 name
      rw [List.count_eq_zero.mpr absent, if_pos (Option.isSome_iff_ne_none.mpr left)] at once
      cases once

theorem Removal.perform_keeps (intact : Intact config volume pool kept data now) (enabled : config.snapshotsEnabled = true)
    (complete : Complete kept order) (split : order = done ++ removal :: rest)
    (keeping : Keeping config volume pool (remaining kept done) (decide (.deleteVolume ∈ done)) before) :
    (calm capacity).Ends (fun outcome after => outcome = .ok () ∧
      Keeping config volume pool (remaining kept (done ++ [removal])) (decide (.deleteVolume ∈ done ++ [removal])) after)
      (removal.perform config volume) before := by
  obtain ⟨once, stored⟩ := complete.fresh split
  cases removal with
  | deleteVolume =>
    rw [decide_eq_false (once rfl)] at keeping
    rw [remaining_other (by simp), decide_eq_true (by simp)]
    exact deleteVolume_keeps keeping
  | deleteSnapshot name =>
    have left := stored name rfl
    have plain : '/' ∉ name.toList := by
      refine intact.named name fun none => left ?_
      simp [remaining, none]
    rw [remaining_snapshot, show decide (.deleteVolume ∈ done ++ [Removal.deleteSnapshot name]) =
      decide (.deleteVolume ∈ done) by simp]
    exact deleteSnapshot_keeps enabled plain keeping left
  | collect dryRun =>
    rw [remaining_other (by simp), show decide (.deleteVolume ∈ done ++ [Removal.collect dryRun]) =
      decide (.deleteVolume ∈ done) by simp]
    refine .onward (fun _ state => Keeping config volume pool (remaining kept done) (decide (.deleteVolume ∈ done)) state)
      (.attempt ((gcAllVolumes_keeps keeping).weaken (fun _ pass => pass) ?_)) ?_
    · exact fun outcome _ _ keeping => ⟨outcome, rfl, keeping⟩
    · exact fun _ _ _ keeping => .pure trivial ⟨rfl, keeping⟩

theorem Keeping.observed (keeping : Keeping config volume pool (remaining kept done) (decide (.deleteVolume ∈ done)) now) :
    (Pending kept done → (Files.metadata now.node.files volume).isSome = true) ∧
      (now.node.files.lookup (.imgFile pool volume) = none ↔ .deleteVolume ∈ done) ∧
      (¬ Pending kept done → Erased volume pool now) := by
  refine ⟨fun pending => ?_, ?_, fun finished => ?_⟩
  · obtain ⟨data, recorded⟩ := keeping.recorded (by simpa [Pending] using pending)
    rw [recorded.found]
    rfl
  · constructor
    · intro gone
      by_contra alive
      obtain ⟨_, _, _, image⟩ := keeping.whole (decide_eq_false alive)
      exact image gone
    · intro deleted
      by_cases some : ∃ name, remaining kept done name ≠ none
      · obtain ⟨_, _, _, _, _, _, image⟩ := keeping.waiting (decide_eq_true deleted) some
        exact image
      · have erased := keeping.gone (decide_eq_true deleted) (by simpa using some)
        exact FileTree.lookup_below rfl (by rw [erased.2]; exact nofun)
  · simp only [Pending, not_or, not_not, not_exists] at finished
    exact keeping.gone (decide_eq_true finished.1) finished.2

/-- The volume and its snapshots are deleted in any order, and garbage is
collected any number of times in between. At every point each snapshot that is
not deleted yet has its file unchanged, the metadata are there as long as
something is left to delete, and the image is gone if and only if the volume is
deleted. In the end neither the metadata directory nor that of the volume is
left. -/
theorem deletion_order (intact : Intact config volume pool kept data now) (enabled : config.snapshotsEnabled = true)
    (complete : Complete kept order) (prior : done <+: order) :
    (calm capacity).Ends (fun outcome after => outcome = .ok () ∧
      (∀ name, .deleteSnapshot name ∉ done → after.node.files.lookup (.snapshot pool volume false name) = kept name) ∧
      (Pending kept done → (Files.metadata after.node.files volume).isSome = true) ∧
      (after.node.files.lookup (.imgFile pool volume) = none ↔ .deleteVolume ∈ done) ∧
      (done = order → Erased volume pool after))
      (Program.forEach done (Removal.perform config volume)) now := by
  let left (rest : List Removal) (state : Clocked) : Prop := ∃ performed, performed ++ rest = done ∧
    Keeping config volume pool (remaining kept performed) (decide (.deleteVolume ∈ performed)) state
  refine .forEach left ?_ ?_ ⟨[], rfl, intact.keeping⟩
  · rintro removal rest state ⟨performed, rfl, keeping⟩
    obtain ⟨later, rfl⟩ := prior
    have split : performed ++ removal :: rest ++ later = performed ++ removal :: (rest ++ later) := by simp
    refine (Removal.perform_keeps intact enabled complete split keeping).weaken (fun _ pass => pass) ?_
    rintro _ after _ ⟨rfl, keeping⟩
    exact ⟨performed ++ [removal], by simp, keeping⟩
  · rintro state ⟨performed, rfl, keeping⟩
    rw [List.append_nil] at *
    obtain ⟨record, image, erased⟩ := keeping.observed
    refine ⟨trivial, rfl, fun name untouched => ?_, record, image, ?_⟩
    · rw [keeping.layout.snapshots, remaining, if_neg untouched]
    · rintro rfl
      exact erased complete.finished

end Order
end

namespace DeletionOrder

def snapped : List NodeEvent :=
  thinCreated ++ moves 2 6 {} ++ [.enter (.createSnapshot ⟨"v", "s"⟩)] ++ moves 3 12 {} ++
    [.enter (.future 1 (.createSnapshot { volumeId := "v", name := "s", copyOnWrite := false }))] ++ moves 4 14 {}

def hasSnapshot (now : NodeConfig) : Bool :=
  now.state.files.orderly "v" && now.state.files.records "v" "default" &&
    (Files.metadata now.state.files "v").all (fun data => data.deletedAt.isNone) &&
    now.state.files.present (.imgFile "default" "v") && (now.state.devices.attached (.imgFile "default" "v")).isEmpty &&
    now.state.files.present (.snapshot "default" "v" false "s") && now.state.files.entries.keys.all fun
      | .snapshot _ _ _ name => name = "s"
      | _ => true

def kept (now : NodeConfig) (name : String) : Option (Entry Content) :=
  now.state.files.lookup (.snapshot "default" "v" false name)

theorem hasSnapshot_spec {now : NodeConfig} (tested : hasSnapshot now = true) :
    (∃ data, Intact singlePool "v" "default" (kept now) data ⟨now.state, 0⟩) ∧
      ∀ name, (kept now name).isSome = true ↔ name = "s" := by
  simp only [hasSnapshot, Bool.and_eq_true] at tested
  obtain ⟨⟨⟨⟨⟨⟨orderly, records⟩, undeleted⟩, image⟩, unattached⟩, stored⟩, named⟩ := tested
  have only : ∀ name, (kept now name).isSome = true → name = "s" := by
    intro name present
    have listed := FileTree.listed_iff.mpr (Option.isSome_iff_ne_none.mp present)
    simpa using List.all_eq_true.mp named _ listed
  obtain ⟨data, recorded⟩ := @Recorded.ofRecords "v" "default" ⟨now.state, 0⟩ records
  rw [recorded.found] at undeleted
  have layout : Layout singlePool "v" "default" (kept now) ⟨now.state, 0⟩ :=
    @Layout.ofOrderly singlePool "v" "default" ⟨now.state, 0⟩ (by decide) (by decide) orderly
  refine ⟨⟨data, layout, recorded, by simpa using undeleted,
    Option.isSome_iff_ne_none.mp image, List.isEmpty_iff.mp unattached, fun name present => ?_⟩, fun name =>
    ⟨only name, fun same => ?_⟩⟩
  · rw [only name (Option.isSome_iff_ne_none.mpr present)]
    decide
  · rw [same]
    exact stored

/-- The volume is deleted before its snapshot. -/
theorem deletion_order_volume_first : ∃ now : NodeConfig, ∀ capacity : PoolName → Nat,
    (calm capacity).Ends (fun outcome after => outcome = .ok () ∧ Erased "v" "default" after)
      (Program.forEach [.deleteVolume, .collect false, .deleteSnapshot "s"] (Removal.perform singlePool "v"))
      ⟨now.state, 0⟩ := by
  obtain ⟨now, -, tested⟩ := @Machine.tested _ _ _ _ _ _ _ (nodePlugin singlePool) (fun _ _ => true) hasSnapshot
    snapped NodeConfig.initial (by decide +kernel)
  obtain ⟨⟨data, intact⟩, stored⟩ := hasSnapshot_spec tested
  have complete : Complete (kept now) [.deleteVolume, .collect false, .deleteSnapshot "s"] := by
    refine ⟨by decide, fun name => ?_⟩
    by_cases same : name = "s"
    · rw [if_pos ((stored name).mpr same), same]
      decide
    · rw [if_neg fun present => same ((stored name).mp present)]
      exact List.count_eq_zero.mpr (by simp [same])
  refine ⟨now, fun capacity => (deletion_order intact rfl complete (List.prefix_refl _)).weaken (fun _ pass => pass) ?_⟩
  rintro _ after _ ⟨returned, _, _, _, erased⟩
  exact ⟨returned, erased rfl⟩

end DeletionOrder
end Rawfile
