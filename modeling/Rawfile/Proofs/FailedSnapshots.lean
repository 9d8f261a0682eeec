import Rawfile.Proofs.DeletionOrder
import Rawfile.Proofs.FailedCreation
import Rawfile.Proofs.Pagination
import Rawfile.Proofs.SnapshotFootprint

/-! Snapshots that failed and the deletion of their volume. The marker of a
snapshot outlives its file, `list_snapshots` does not see it, and
`destroy_volume` takes it for a snapshot. -/

namespace Rawfile
open Effects World

variable {paths : Path → Prop} {path : Path}

structure Housing (config : DriverConfig) (volume : VolumeId) (pool : PoolName) (data : Meta) (now : Clocked) : Prop where
  configured : pool ∈ config.storagePools
  fallback : config.defaultPool ∈ config.storagePools
  typed : now.node.files.Typed fun path => path.volume = some volume
  unprobed : now.node.files.Unprobed volume
  recorded : Recorded volume pool data now

/-- A `create_snapshot` of the volume that ends, raises or stops anywhere, or
something that does not concern the files of the volume. -/
inductive Snapshotting (config : DriverConfig) (volume : VolumeId) (before after : Clocked) : Prop
  | snapshot (args : CreateSnapshotArgs) (own : args.volumeId = volume)
      (passes : loose.Passes (SnapshotManager.createSnapshot config args) before after)
  | elsewhere (same : ∀ path : Path, path.volume = some volume →
      after.node.files.lookup path = before.node.files.lookup path)

section
variable {config : DriverConfig} {volume : VolumeId} {pool : PoolName} {data : Meta} {before after initial now : Clocked}
  {capacity : PoolName → Nat} {name : String} {temporary : Bool} {operation : Op}

theorem CreateSnapshotOp.fits (issued : CreateSnapshotOp volume name temporary operation) :
    operation.fitting ∧ operation.change ≠ some .remove ∧ operation.avoids fun path => path.isProbe = true := by
  cases issued
  case looking reads =>
    exact ⟨fun path touched => absurd touched (reads.untouched path), by simp [reads.change], reads.avoids⟩
  case makeDir pool =>
    refine ⟨fun path above => ⟨fun _ => ?_, nofun⟩, nofun, fun path probe above => ?_⟩
    · rcases Path.above_snapshotsDir above with rfl | ⟨_, rfl⟩ <;> rfl
    · rcases Path.above_snapshotsDir above with rfl | ⟨_, rfl⟩ <;> cases probe
  case release | remove | unmark =>
    refine ⟨fun _ _ => ⟨nofun, nofun⟩, nofun, ?_⟩
    rintro _ probe rfl
    cases probe
  case freeze | unfreeze => exact ⟨nofun, nofun, fun _ _ => nofun⟩
  all_goals
    refine ⟨?_, nofun, ?_⟩
    · rintro _ rfl
      exact ⟨nofun, fun _ => rfl⟩
    · rintro _ probe rfl
      cases probe

theorem Housing.exec {answer : Answer} (housing : Housing config volume pool data now) (fitting : operation.fitting)
    (stays : operation.change ≠ some .remove) (probes : operation.avoids fun path => path.isProbe = true)
    (record : ¬ operation.touches (.metaFile volume)) :
    Housing config volume pool data (loose.exec operation answer now).2 := by
  refine ⟨housing.configured, housing.fallback, housing.typed.exec fitting, fun path probe own => ?_,
    housing.recorded.congr ?_ ?_⟩
  · exact (operation.exec_lookup 0 answer now.node (probes path probe)).trans (housing.unprobed path probe own)
  · exact operation.exec_lookup 0 answer now.node record
  · rw [housing.recorded.home]
    exact Op.exec_standing (fun _ => stays) housing.recorded.home

theorem Snapshotting.housing (step : Snapshotting config volume before after)
    (housing : Housing config volume pool data before) : Housing config volume pool data after := by
  cases step with
  | snapshot args own passes =>
    subst own
    have along := Surely.ofWithin (Housing config args.volumeId pool data)
      (SnapshotManager.createSnapshot_within config args)
      (fun operation answer state => Op.exec_lawful operation 0 answer state.node)
      (fun operation answer state issued _ housing =>
        housing.exec issued.fits.1 issued.fits.2.1 issued.fits.2.2 issued.foreign.1) housing
    exact along.passes passes
  | elsewhere same =>
    refine ⟨housing.configured, housing.fallback, fun path entry own found => ?_,
      fun path probe own => (same path own).trans (housing.unprobed path probe own),
      housing.recorded.congr (same _ rfl) (same _ rfl)⟩
    rw [same path own] at found
    exact housing.typed path entry own found

theorem Housing.run (housing : Housing config volume pool data initial)
    (history : Relation.ReflTransGen (Snapshotting config volume) initial now) : Housing config volume pool data now := by
  induction history with
  | refl => exact housing
  | tail _ step ih => exact step.housing ih

theorem Housing.relocked (housing : Housing config volume pool data before) (relocked : Relocked volume before after) :
    Housing config volume pool data after :=
  ⟨housing.configured, housing.fallback, housing.typed.relocked relocked,
    housing.unprobed.agrees relocked.1 (by rintro _ rfl; rfl), housing.recorded.relocked relocked⟩

theorem Unsnapped.housing (unsnapped : Unsnapped volume pool temporary name before after)
    (housing : Housing config volume pool data before) : Housing config volume pool data after :=
  ⟨housing.configured, housing.fallback, unsnapped.typed housing.typed, unsnapped.unprobed housing.unprobed,
    housing.recorded.congr (unsnapped.agrees.files _ (by simp)) (unsnapped.agrees.files _ (by simp))⟩

end

namespace SnapshotManager

def reported (config : DriverConfig) (volume : VolumeId) (files : Files) (temporary : Bool) : List Snapshot :=
  match listSnapshotsPaged config files { volumeId := some volume, temporary } with
  | .ok page => page.data
  | .error _ => []

def deleteReported (config : DriverConfig) (volume : VolumeId) (files : Files) : Driver Unit :=
  Program.forEach (reported config volume files false ++ reported config volume files true) fun snapshot =>
    deleteSnapshot config volume snapshot.name snapshot.temporary

end SnapshotManager

/-- The listing for the volume of the snapshot has an entry with its name. -/
def Files.Reports (files : Files) (config : DriverConfig) (file : SnapshotFile) : Prop :=
  ∃ path, files.lookup path ≠ none ∧ (SnapshotManager.readFrom config path).2 = file.name ∧
    SnapshotManager.matchesPath { volumeId := some file.volume, temporary := file.temporary } file.pool path = true

section
variable {config : DriverConfig} {volume : VolumeId} {pool : PoolName} {data : Meta} {before after initial now : Clocked}
  {capacity : PoolName → Nat} {name : String} {temporary : Bool} {operation : Op}

private theorem reported_eq (named : volume ≠ "") (housing : Housing config volume pool data now) :
    SnapshotManager.reported config volume now.node.files temporary =
      (SnapshotManager.sortedSnapshots now.node.files { volumeId := some volume, temporary } pool).map
        (SnapshotManager.describe config now.node.files) := by
  have given : SnapshotManager.given (some volume) = some volume := by simp [SnapshotManager.given, named]
  have metadata : SnapshotManager.metadataOf now.node.files volume = .ok data := by
    simp [SnapshotManager.metadataOf, Files.metadata_iff.mp housing.recorded.found]
  have found : SnapshotManager.snapshotFiles config now.node.files { volumeId := some volume, temporary } =
      .ok (SnapshotManager.sortedSnapshots now.node.files { volumeId := some volume, temporary } pool) := by
    simp [SnapshotManager.snapshotFiles, given, metadata, housing.recorded.pooled, housing.configured]
  simp only [SnapshotManager.reported, SnapshotManager.listSnapshotsPaged, found, Except.map, SnapshotManager.listPage]
  exact SnapshotManager.listFrom_everything rfl rfl rfl _ 0 0 0

/-- A volume whose id has no wildcard has the snapshots listed that are not hidden. -/
theorem reports_plain (named : volume ≠ "") (plain : Glob.hasMagic volume = false) :
    now.node.files.Reports config ⟨pool, volume, temporary, name⟩ ↔
      now.node.files.lookup (.snapshot pool volume temporary name) ≠ none ∧ Glob.isHidden (name ++ ".img") = false := by
  have given : SnapshotManager.given (some volume) = some volume := by simp [SnapshotManager.given, named]
  have unnamed : SnapshotManager.given none = none := rfl
  have bounded : volume ≠ "**" := by
    rintro rfl
    cases plain
  have fits : ∀ {place other kind title}, SnapshotManager.matchesPath { volumeId := some volume, temporary } pool
      (.snapshot place other kind title) = true ↔ place = pool ∧ kind = temporary ∧ other = volume ∧
        Glob.isHidden (title ++ ".img") = false := by
    intro place other kind title
    simp only [SnapshotManager.matchesPath, given, unnamed, SnapshotManager.matchesVolume, SnapshotManager.isRecursive,
      bounded, decide_false, Bool.false_eq_true, if_false, Option.getD_some, Glob.picks_plain plain,
      SnapshotManager.matchesFile_none, Bool.and_eq_true, decide_eq_true_eq, Bool.not_eq_true', and_assoc]
  have read : ∀ {title}, Glob.isHidden (title ++ ".img") = false →
      (SnapshotManager.readFrom config (.snapshot pool volume temporary title)).2 = title := by
    intro title visible
    simp [SnapshotManager.readFrom, SnapshotManager.listedAs_eq, SnapshotManager.lettered_of_visible visible]
  constructor
  · rintro ⟨path, present, entry, matching⟩
    cases path with
    | snapshot place other kind title =>
      obtain ⟨rfl, rfl, rfl, visible⟩ := fits.mp matching
      rw [read visible] at entry
      have entry : title = name := entry
      subst entry
      exact ⟨present, visible⟩
    | imgFile => simp [SnapshotManager.matchesPath, given, SnapshotManager.isRecursive, bounded] at matching
    | _ => cases matching
  · rintro ⟨present, visible⟩
    exact ⟨_, present, read visible, fits.mpr ⟨rfl, rfl, rfl, visible⟩⟩

theorem mem_reported (named : volume ≠ "") (housing : Housing config volume pool data now) :
    (∃ snapshot ∈ SnapshotManager.reported config volume now.node.files false ++
      SnapshotManager.reported config volume now.node.files true,
      snapshot.temporary = temporary ∧ snapshot.name = name) ↔
      now.node.files.Reports config ⟨pool, volume, temporary, name⟩ := by
  have kind : ∀ {kind path}, SnapshotManager.matchesPath { volumeId := some volume, temporary := kind } pool path = true →
      SnapshotManager.isTemporary path = kind := by
    intro kind path matching
    cases path with
    | snapshot | imgFile =>
      simp only [SnapshotManager.matchesPath, Bool.and_eq_true, decide_eq_true_eq, Bool.not_eq_true'] at matching
      simp [SnapshotManager.isTemporary, matching]
    | _ => cases matching
  rw [reported_eq named housing, reported_eq named housing, ← List.map_append]
  simp only [List.mem_map, List.mem_append, SnapshotManager.mem_sortedSnapshots]
  constructor
  · rintro ⟨_, ⟨path, ⟨present, matching⟩ | ⟨present, matching⟩, rfl⟩, same, entry⟩
    all_goals
      obtain rfl : _ = temporary := (kind matching).symm.trans same
      exact ⟨path, present, entry, matching⟩
  · rintro ⟨path, present, entry, matching⟩
    refine ⟨_, ⟨path, ?_, rfl⟩, kind matching, entry⟩
    cases temporary with
    | false => exact .inl ⟨present, matching⟩
    | true => exact .inr ⟨present, matching⟩

def Bare (volume : VolumeId) (pool : PoolName) (temporary : Bool) (name : String) (now : Clocked) : Prop :=
  now.node.files.lookup (.snapshot pool volume temporary name) = none ∧
    now.node.files.lookup (.creating pool volume temporary name) = none

theorem Unsnapped.bare {otherTemporary : Bool} {otherName : String}
    (unsnapped : Unsnapped volume pool otherTemporary otherName before after)
    (bare : Bare volume pool temporary name before ∨ otherTemporary = temporary ∧ otherName = name) :
    Bare volume pool temporary name after := by
  by_cases same : otherTemporary = temporary ∧ otherName = name
  · obtain ⟨rfl, rfl⟩ := same
    exact ⟨unsnapped.file, unsnapped.marker⟩
  · obtain ⟨file, marker⟩ := bare.resolve_right same
    refine ⟨(unsnapped.agrees.files _ ?_).trans file, (unsnapped.agrees.files _ ?_).trans marker⟩
    · rintro (one | one | one) <;> cases one
      exact same ⟨rfl, rfl⟩
    · rintro (one | one | one) <;> cases one
      exact same ⟨rfl, rfl⟩

theorem deleteReported_spec (listed : List Snapshot) (housing : Housing config volume pool data now) :
    (calm capacity).Ends (fun outcome after => ∃ value, outcome = .ok value ∧ Housing config volume pool data after ∧
      after.node.devices = now.node.devices ∧
      ((∀ temporary name, Bare volume pool temporary name now ∨
        ∃ snapshot ∈ listed, snapshot.temporary = temporary ∧ snapshot.name = name) →
        ∀ temporary name, Bare volume pool temporary name after))
      (Program.forEach listed fun snapshot =>
        SnapshotManager.deleteSnapshot config volume snapshot.name snapshot.temporary) now := by
  refine .forEach (fun items state => Housing config volume pool data state ∧ state.node.devices = now.node.devices ∧
    ((∀ temporary name, Bare volume pool temporary name now ∨
      ∃ snapshot ∈ listed, snapshot.temporary = temporary ∧ snapshot.name = name) →
      ∀ temporary name, Bare volume pool temporary name state ∨
        ∃ snapshot ∈ items, snapshot.temporary = temporary ∧ snapshot.name = name)) ?_ ?_ ⟨housing, rfl, fun all => all⟩
  · rintro snapshot rest state ⟨housing, devices, bare⟩
    refine (deleteSnapshot_unsnaps housing.configured housing.typed housing.recorded.found housing.recorded.pooled).weaken
      (fun _ _ => trivial) ?_
    rintro _ after _ ⟨value, rfl, unsnapped⟩
    refine ⟨unsnapped.housing housing, unsnapped.agrees.devices.trans devices, fun all temporary name => ?_⟩
    rcases bare all temporary name with bare | ⟨other, member, named⟩
    · exact .inl (unsnapped.bare (.inl bare))
    · rcases List.mem_cons.mp member with rfl | later
      · exact .inl (unsnapped.bare (.inr named))
      · exact .inr ⟨other, later, named⟩
  · rintro state ⟨housing, devices, bare⟩
    refine ⟨trivial, (), rfl, housing, devices, fun all temporary name => ?_⟩
    rcases bare all temporary name with bare | ⟨_, member, -⟩
    · exact bare
    · cases member

theorem Op.skips.avoids {file : SnapshotFile} (skips : operation.skips file) :
    operation.avoids fun path => path = file.path ∨ path = file.marker := by
  rintro path (rfl | rfl)
  · exact skips.1
  · exact skips.2

private theorem leftover_home {file : SnapshotFile} (left : path = file.path ∨ path = file.marker)
    (present : now.node.files.lookup path ≠ none) :
    now.node.files.lookup (.volumeDir file.pool file.volume) = some .directory := by
  have inside : now.node.files.lookup (.snapshotsDir file.pool file.volume file.temporary) = some .directory := by
    rcases left with rfl | rfl
    · exact now.node.files.rooted _ _ present rfl
    · exact now.node.files.rooted _ _ present rfl
  have above : ∀ temporary, now.node.files.lookup (.snapshotsDir file.pool file.volume temporary) = some .directory →
      ∀ up, Hierarchy.parent (Path.snapshotsDir file.pool file.volume temporary) = some up →
        now.node.files.lookup up = some .directory := by
    intro temporary found up parent
    exact now.node.files.rooted _ up (by rw [show now.node.files.entries.lookup _ = _ from found]; simp) parent
  cases kind : file.temporary with
  | false =>
    rw [kind] at inside
    exact above false inside _ rfl
  | true =>
    rw [kind] at inside
    exact above false (above true inside _ rfl) _ rfl

theorem leftover_stands {file : SnapshotFile} (named : volume ≠ "") (housing : Housing config volume pool data now)
    (own : file.pool = pool ∧ file.volume = volume) (left : path = file.path ∨ path = file.marker)
    (present : now.node.files.lookup path ≠ none) (unreported : ¬ now.node.files.Reports config file) :
    loose.Ends (fun _ after => after.node.files.lookup (.volumeDir pool volume) ≠ none) (do
      SnapshotManager.deleteReported config volume now.node.files
      VolumeManager.deleteVolume config volume) now := by
  have within : (SnapshotManager.deleteReported config volume now.node.files >>= fun _ =>
      VolumeManager.deleteVolume config volume).Within Op.lawful
      (Op.avoids fun path => path = file.path ∨ path = file.marker) := by
    refine .bind (.forEach fun snapshot member => ?_) fun _ => ?_
    · refine (SnapshotManager.deleteSnapshot_within _ _ _ _).mono fun operation issued =>
        (issued.create.skips fun same => ?_).avoids
      obtain ⟨rfl, rfl⟩ := own
      simp only [Prod.mk.injEq, true_and] at same
      exact unreported ((mem_reported named housing).mp ⟨snapshot, member, same.2, same.1⟩)
    · exact (VolumeManager.deleteVolume_within _ _).mono fun operation issued =>
        (@Call.skips file operation (.deleteVolume volume) issued rfl).avoids
  refine (Loose.keeps within).weaken (fun _ _ => trivial) fun _ after _ kept => ?_
  obtain ⟨rfl, rfl⟩ := own
  rw [leftover_home left (by rwa [kept path left])]
  simp

/-- After snapshots that succeeded or failed, deleting those that are reported
and then the volume leaves nothing if and only if every snapshot and marker
belongs to a reported one and the image is not attached. -/
theorem failed_snapshots_delete (named : volume ≠ "") (housing : Housing config volume pool data initial)
    (history : Relation.ReflTransGen (Snapshotting config volume) initial now) :
    (calm capacity).Ends (Finished volume pool) (do
      SnapshotManager.deleteReported config volume now.node.files
      VolumeManager.deleteVolume config volume) now ↔
      (∀ temporary name, Bare volume pool temporary name now ∨
        now.node.files.Reports config ⟨pool, volume, temporary, name⟩) ∧
        now.node.devices.attached (.imgFile pool volume) = [] := by
  have housing := housing.run history
  constructor
  · intro deletes
    constructor
    · intro temporary name
      by_contra left
      obtain ⟨covered, unreported⟩ := not_or.mp left
      have present : ∃ path, (path = (SnapshotFile.mk pool volume temporary name).path ∨
          path = (SnapshotFile.mk pool volume temporary name).marker) ∧ now.node.files.lookup path ≠ none := by
        by_contra missing
        simp only [not_exists, not_and, not_not] at missing
        exact covered ⟨missing _ (.inl rfl), missing _ (.inr rfl)⟩
      obtain ⟨path, left, present⟩ := present
      have stands := leftover_stands named housing ⟨rfl, rfl⟩ left present unreported
      have stands : (calm capacity).Ends _ _ now := stands.restrict rfl fun _ _ _ _ => trivial
      obtain ⟨_, after, ⟨-, -, gone⟩, standing⟩ := (deletes.both stands).satisfiable
      exact standing gone
    · by_contra attached
      have fails : (calm capacity).Ends (fun outcome _ => outcome = .error (.volumeInUse volume)) (do
          SnapshotManager.deleteReported config volume now.node.files
          VolumeManager.deleteVolume config volume) now := by
        refine .onward _ (deleteReported_spec _ housing) fun _ after _ known => ?_
        obtain ⟨housing, devices, -⟩ := known
        refine (deleteVolume_inUse housing.configured housing.recorded ?_).ends_iff.mpr rfl
        rwa [devices]
      obtain ⟨_, _, ⟨⟨size, returned⟩, -⟩, failed⟩ := (deletes.both fails).satisfiable
      cases returned.symm.trans failed
  · rintro ⟨cleared, unattached⟩
    have started := housing
    refine .onward _ (deleteReported_spec _ housing) fun _ after _ known => ?_
    obtain ⟨housing, devices, bare⟩ := known
    have bare := bare fun temporary name => (cleared temporary name).imp id (mem_reported named started).mpr
    have layout : Layout config volume pool (fun _ => none) after :=
      ⟨housing.configured, housing.fallback, fun path entry own found => housing.typed path entry own found,
        fun name => (bare false name).1, fun name => (bare true name).1, fun temporary name => (bare temporary name).2,
        housing.unprobed⟩
    have unattached : after.node.devices.attached (.imgFile pool volume) = [] := by rwa [devices]
    refine (deleteVolume_spec layout housing.recorded unattached).weaken (fun _ _ => trivial) ?_
    rintro _ last _ ⟨size, rfl, _, _, _, erased, _⟩
    exact ⟨⟨size, rfl⟩, erased fun _ => rfl⟩

end
namespace FailedSnapshots

def args : CreateVolumeArgs where
  volumeId := "v"
  size := 4
  storagePool := "default"
  thinProvision := true

def created : Option Clocked := loose.follow (List.replicate 16 {}) (VolumeManager.createVolume singlePool args) ⟨{}, 0⟩

def cut : CreateSnapshotArgs where
  volumeId := "v"
  name := "s"
  copyOnWrite := false

def failed (now : Clocked) : Option Clocked :=
  let answers : List Answer := List.replicate 8 { fails := false } ++ [{ fails := true }, { fails := false }]
  loose.follow answers (SnapshotManager.createSnapshot singlePool cut) now

def retried (now : Clocked) : Option Clocked :=
  loose.follow (List.replicate 13 {}) (SnapshotManager.createSnapshot singlePool cut) now

def whole (now : Clocked) : Bool :=
  now.node.files.orderly "v" && now.node.files.records "v" "default"

theorem whole_spec {now : Clocked} (tested : whole now = true) : ∃ data, Housing singlePool "v" "default" data now := by
  obtain ⟨orderly, records⟩ := Bool.and_eq_true_iff.mp tested
  obtain ⟨data, recorded⟩ := Recorded.ofRecords records
  have layout : Layout singlePool "v" "default" _ now := .ofOrderly (by decide) (by decide) orderly
  exact ⟨data, layout.configured, layout.fallback, layout.typed, layout.unprobed, recorded⟩

/-- Every snapshot and marker of a volume belongs to a visible file. -/
def covered (now : Clocked) : Bool :=
  now.node.files.entries.keys.all fun path => match path with
    | .snapshot pool volume temporary name | .creating pool volume temporary name =>
      now.node.files.present (.snapshot pool volume temporary name) && !Glob.isHidden (name ++ ".img")
    | _ => true

theorem covered_spec {now : Clocked} (tested : covered now = true) (pool : PoolName) (temporary : Bool) (name : String) :
    Bare "v" pool temporary name now ∨ now.node.files.Reports singlePool ⟨pool, "v", temporary, name⟩ := by
  have each : ∀ path : Path, now.node.files.lookup path ≠ none → _ :=
    fun path present => List.all_eq_true.mp tested path (FileTree.listed_iff.mpr present)
  have reports : (now.node.files.present (.snapshot pool "v" temporary name) && !Glob.isHidden (name ++ ".img")) = true →
      now.node.files.Reports singlePool ⟨pool, "v", temporary, name⟩ := by
    intro both
    obtain ⟨present, visible⟩ := Bool.and_eq_true_iff.mp both
    exact (reports_plain (by decide) (by decide)).mpr ⟨Option.isSome_iff_ne_none.mp present, by simpa using visible⟩
  by_cases file : now.node.files.lookup (.snapshot pool "v" temporary name) = none
  · by_cases marker : now.node.files.lookup (.creating pool "v" temporary name) = none
    · exact .inl ⟨file, marker⟩
    · exact .inr (reports (each _ marker))
  · exact .inr (reports (each _ file))

theorem failed_snapshots_delete_retried : ∃ initial first now : Clocked,
    loose.Passes (SnapshotManager.createSnapshot singlePool cut) initial first ∧
      first.node.files.present (.creating "default" "v" false "s") = true ∧
      loose.Passes (SnapshotManager.createSnapshot singlePool cut) first now ∧
      (calm fun _ => 0).Ends (Finished "v" "default") (do
        SnapshotManager.deleteReported singlePool "v" now.node.files
        VolumeManager.deleteVolume singlePool "v") now := by
  have tested : (created.any fun initial => whole initial && (failed initial).any fun first =>
      first.node.files.present (.creating "default" "v" false "s") && (retried first).any fun now =>
        covered now && now.node.devices.loops.isEmpty) = true := by
    decide +kernel
  obtain ⟨initial, -, tested⟩ := (Option.any_eq_true ..).mp tested
  obtain ⟨whole, tested⟩ := Bool.and_eq_true_iff.mp tested
  obtain ⟨first, one, tested⟩ := (Option.any_eq_true ..).mp tested
  obtain ⟨marked, tested⟩ := Bool.and_eq_true_iff.mp tested
  obtain ⟨now, two, tested⟩ := (Option.any_eq_true ..).mp tested
  obtain ⟨covered, loops⟩ := Bool.and_eq_true_iff.mp tested
  obtain ⟨data, housing⟩ := whole_spec whole
  refine ⟨initial, first, now, follow_passes one, marked, follow_passes two, ?_⟩
  refine (failed_snapshots_delete (by decide) housing (.tail (.single (.snapshot cut rfl (follow_passes one)))
    (.snapshot cut rfl (follow_passes two)))).mpr ⟨covered_spec covered "default", ?_⟩
  simp [Devices.attached, List.isEmpty_iff.mp loops]

/-- After a snapshot that failed the volume cannot be deleted. -/
theorem failed_snapshot_blocks : ∃ initial now : Clocked, ∃ data,
    Housing singlePool "v" "default" data initial ∧
      loose.Passes (SnapshotManager.createSnapshot singlePool cut) initial now ∧
      now.node.devices.attached (.imgFile "default" "v") = [] ∧
      loose.Ends (fun _ after => after.node.files.lookup (.volumeDir "default" "v") ≠ none) (do
        SnapshotManager.deleteReported singlePool "v" now.node.files
        VolumeManager.deleteVolume singlePool "v") now := by
  have tested : (created.any fun initial => whole initial && (failed initial).any fun now =>
      now.node.files.present (.creating "default" "v" false "s") && now.node.devices.loops.isEmpty &&
        !now.node.files.present (.snapshot "default" "v" false "s")) = true := by
    decide +kernel
  obtain ⟨initial, -, tested⟩ := (Option.any_eq_true ..).mp tested
  obtain ⟨whole, tested⟩ := Bool.and_eq_true_iff.mp tested
  obtain ⟨now, followed, tested⟩ := (Option.any_eq_true ..).mp tested
  simp only [Bool.and_eq_true, Bool.not_eq_true'] at tested
  obtain ⟨⟨marked, loops⟩, unfiled⟩ := tested
  obtain ⟨data, housing⟩ := whole_spec whole
  have later := (Snapshotting.snapshot cut rfl (follow_passes followed)).housing housing
  refine ⟨initial, now, data, housing, follow_passes followed, by simp [Devices.attached, List.isEmpty_iff.mp loops], ?_⟩
  have left : now.node.files.lookup (SnapshotFile.mk "default" "v" false "s").marker ≠ none :=
    Option.isSome_iff_ne_none.mp marked
  refine leftover_stands (by decide) later ⟨rfl, rfl⟩ (.inr rfl) left fun reports =>
    ((reports_plain (by decide) (by decide)).mp reports).1 ?_
  exact Option.isSome_eq_false_iff.mp unfiled |> Option.isNone_iff_eq_none.mp

end FailedSnapshots
end Rawfile
