import Rawfile.Proofs.Calm
import Rawfile.Proofs.Kinds

/-! Removing a volume on a calm node. The parts of a volume go one after the
other, the metadata before the directory they name, and the snapshots keep
both. -/

namespace Rawfile
open Effects

def Path.disposable : Path → Bool
  | .snapshot _ _ _ _ | .creating _ _ _ _ | .cowTestFile _ _ _ | .cowTestClone _ _ => false
  | _ => true

/-- No file that tried out a copy on write is left in the directories of the volume. -/
def Files.Unprobed (volume : VolumeId) (files : Files) : Prop :=
  ∀ path : Path, path.isProbe = true → path.volume = some volume → files.lookup path = none

structure Layout (config : DriverConfig) (volume : VolumeId) (pool : PoolName) (kept : String → Option (Entry Content))
    (now : Clocked) : Prop where
  configured : pool ∈ config.storagePools
  fallback : config.defaultPool ∈ config.storagePools
  typed : ∀ path entry, path.volume = some volume → now.node.files.lookup path = some entry →
    (entry = .directory ↔ path.isDirName = true)
  snapshots : ∀ name, now.node.files.lookup (.snapshot pool volume false name) = kept name
  temporaries : ∀ name, now.node.files.lookup (.snapshot pool volume true name) = none
  unmarked : ∀ temporary name, now.node.files.lookup (.creating pool volume temporary name) = none
  unprobed : now.node.files.Unprobed volume

structure Recorded (volume : VolumeId) (pool : PoolName) (data : Meta) (now : Clocked) : Prop where
  found : Files.metadata now.node.files volume = some data
  home : now.node.files.lookup (.volumeDir pool volume) = some .directory
  pooled : data.storagePool = some pool
  named : data.imgFile = some pool
  sized : data.size.isSome = true

structure Stripped (volume : VolumeId) (pool : PoolName) (now : Clocked) : Prop where
  record : now.node.files.lookup (.metaFile volume) = none
  home : now.node.files.lookup (.volumeDir pool volume) = some .directory
  image : now.node.files.lookup (.imgFile pool volume) = none
  dirs : ∀ temporary, now.node.files.lookup (.snapshotsDir pool volume temporary) = none

def Erased (volume : VolumeId) (pool : PoolName) (now : Clocked) : Prop :=
  now.node.files.lookup (.metaDir volume) = none ∧ now.node.files.lookup (.volumeDir pool volume) = none

/-- Each path of the volume is of the kind its name says, no snapshot is
temporary or unfinished, and no file tries out a copy. -/
def Files.orderly (files : Files) (volume : VolumeId) : Bool :=
  files.entries.keys.all fun path => path.volume ≠ some volume || match path with
    | .snapshot _ _ true _ | .creating _ _ _ _ | .cowTestFile _ _ _ | .cowTestClone _ _ => false
    | path => files.isDirectory path = path.isDirName

def Files.records (files : Files) (volume : VolumeId) (pool : PoolName) : Bool :=
  files.isDirectory (.volumeDir pool volume) && (Files.metadata files volume).any fun data =>
    data.storagePool = some pool && data.imgFile = some pool && data.size.isSome

inductive Stage (volume : VolumeId) (pool : PoolName) (now : Clocked) : Prop
  | recorded {data} (recorded : Recorded volume pool data now)
  | stripped (stripped : Stripped volume pool now)
  | erased (erased : Erased volume pool now)

section
variable {config : DriverConfig} {volume : VolumeId} {pool : PoolName} {kept : String → Option (Entry Content)}
  {before after now : Clocked} {data : Meta} {path : Path} {capacity : PoolName → Nat}

theorem Layout.ofOrderly (configured : pool ∈ config.storagePools) (fallback : config.defaultPool ∈ config.storagePools)
    (orderly : now.node.files.orderly volume = true) :
    Layout config volume pool (fun name => now.node.files.lookup (.snapshot pool volume false name)) now := by
  have each : ∀ path, path.volume = some volume → now.node.files.lookup path ≠ none → (match path with
      | .snapshot _ _ true _ | .creating _ _ _ _ | .cowTestFile _ _ _ | .cowTestClone _ _ => false
      | path => decide (now.node.files.isDirectory path = path.isDirName)) = true := by
    intro path own present
    have checked := List.all_eq_true.mp orderly path (FileTree.listed_iff.mpr present)
    simpa [own] using checked
  refine ⟨configured, fallback, fun path entry own found => ?_, fun _ => rfl, fun name => ?_, fun temporary name => ?_,
    fun path probe own => ?_⟩
  · have kind : now.node.files.isDirectory path = path.isDirName := by
      have checked := each path own (by simp [found])
      split at checked
      · cases checked
      · cases checked
      · cases checked
      · cases checked
      · exact of_decide_eq_true checked
    rw [← kind, FileTree.isDirectory_iff, found]
    simp
  · by_contra present
    cases each (.snapshot pool volume true name) rfl present
  · by_contra present
    cases each (.creating pool volume temporary name) rfl present
  · by_contra present
    have refused := each path own present
    cases path <;> first | cases refused | cases probe

theorem Recorded.ofRecords (records : now.node.files.records volume pool = true) :
    ∃ data, Recorded volume pool data now := by
  obtain ⟨home, found⟩ := Bool.and_eq_true_iff.mp records
  obtain ⟨data, found, described⟩ := (Option.any_eq_true ..).mp found
  simp only [Bool.and_eq_true, decide_eq_true_eq] at described
  exact ⟨data, found, FileTree.isDirectory_iff.mp home, described.1.1, described.1.2, described.2⟩

theorem Layout.plain (layout : Layout config volume pool kept now) (own : path.volume = some volume)
    (leaf : path.isDirName = false) : now.node.files.lookup path ≠ some .directory :=
  Files.Typed.plain layout.typed own leaf

theorem Files.Typed.changed {paths : Path → Prop} (typed : before.node.files.Typed paths)
    (agrees : Agrees (fun other => other = path) before after)
    (fits : ∀ entry, after.node.files.lookup path = some entry → (entry = .directory ↔ path.isDirName = true)) :
    after.node.files.Typed paths := by
  intro other entry own found
  by_cases changed : other = path
  · subst changed
    exact fits entry found
  · rw [agrees.files other changed] at found
    exact typed other entry own found

theorem Files.Unprobed.agrees {changes : Path → Prop} (unprobed : before.node.files.Unprobed volume)
    (agrees : Agrees changes before after) (others : ∀ path, changes path → path.isProbe = false) :
    after.node.files.Unprobed volume := by
  intro path probe own
  rw [agrees.files path fun changed => by cases probe.symm.trans (others path changed)]
  exact unprobed path probe own

theorem Relocked.fits (relocked : Relocked volume before after) (entry : Entry Content)
    (found : after.node.files.lookup (.lockFile volume) = some entry) :
    entry = .directory ↔ (Path.lockFile volume).isDirName = true := by
  refine iff_of_false ?_ (by simp [Path.isDirName])
  rintro rfl
  exact relocked.2 found

section
variable (layout : Layout config volume pool kept before)
include layout

theorem Layout.changed (disposable : path.disposable = true) (agrees : Agrees (fun other => other = path) before after)
    (fits : ∀ entry, after.node.files.lookup path = some entry → (entry = .directory ↔ path.isDirName = true)) :
    Layout config volume pool kept after := by
  have same : ∀ other, other.disposable = false →
      after.node.files.lookup other = before.node.files.lookup other := by
    intro other fixed
    refine agrees.files other ?_
    rintro rfl
    rw [disposable] at fixed
    cases fixed
  refine ⟨layout.configured, layout.fallback, Files.Typed.changed layout.typed agrees fits, ?_, ?_, ?_, ?_⟩
  · exact fun name => (same _ rfl).trans (layout.snapshots name)
  · exact fun name => (same _ rfl).trans (layout.temporaries name)
  · exact fun temporary name => (same _ rfl).trans (layout.unmarked temporary name)
  · refine layout.unprobed.agrees agrees ?_
    rintro other rfl
    cases other <;> first | rfl | cases disposable

theorem Layout.removed (disposable : path.disposable = true)
    (removed : Removed path before after) : Layout config volume pool kept after :=
  layout.changed disposable removed.2 (by simp [removed.1])

theorem Layout.relocked (relocked : Relocked volume before after) : Layout config volume pool kept after :=
  layout.changed rfl relocked.1 relocked.fits

theorem Layout.congr
    (same : ∀ path, path.volume = some volume → after.node.files.lookup path = before.node.files.lookup path) :
    Layout config volume pool kept after := by
  refine ⟨layout.configured, layout.fallback, ?_, ?_, ?_, ?_, ?_⟩
  · intro path entry own found
    rw [same path own] at found
    exact layout.typed path entry own found
  · exact fun name => (same _ rfl).trans (layout.snapshots name)
  · exact fun name => (same _ rfl).trans (layout.temporaries name)
  · exact fun temporary name => (same _ rfl).trans (layout.unmarked temporary name)
  · exact fun path probe own => (same path own).trans (layout.unprobed path probe own)

end

theorem Layout.later (layout : Layout config volume pool kept now) (time : Nat) :
    Layout config volume pool kept { now with time } :=
  layout.congr fun _ _ => rfl

theorem Recorded.standing (recorded : Recorded volume pool data now) :
    now.node.files.lookup (.metaDir volume) = some .directory :=
  Files.metadata_stands recorded.found

section
variable (recorded : Recorded volume pool data before)
include recorded

theorem Recorded.congr
    (record : after.node.files.lookup (.metaFile volume) = before.node.files.lookup (.metaFile volume))
    (home : after.node.files.lookup (.volumeDir pool volume) = before.node.files.lookup (.volumeDir pool volume)) :
    Recorded volume pool data after :=
  ⟨(Files.metadata_congr record).trans recorded.found, home.trans recorded.home, recorded.pooled, recorded.named,
    recorded.sized⟩

theorem Recorded.agrees (agrees : Agrees (fun other => other = path) before after) (record : path ≠ .metaFile volume)
    (home : path ≠ .volumeDir pool volume) : Recorded volume pool data after :=
  recorded.congr (agrees.files _ (Ne.symm record)) (agrees.files _ (Ne.symm home))

theorem Recorded.relocked (relocked : Relocked volume before after) : Recorded volume pool data after :=
  recorded.agrees relocked.1 (by simp) (by simp)

end

theorem Recorded.later (recorded : Recorded volume pool data now) (time : Nat) :
    Recorded volume pool data { now with time } :=
  recorded.congr rfl rfl

def Remains (config : DriverConfig) (volume : VolumeId) (pool : PoolName) (kept : String → Option (Entry Content))
    (now : Clocked) : Prop :=
  Layout config volume pool kept now ∧ Stage volume pool now

theorem Remains.relocked (remains : Remains config volume pool kept before) (relocked : Relocked volume before after) :
    Remains config volume pool kept after := by
  refine ⟨remains.1.relocked relocked, ?_⟩
  have same : ∀ {path}, path ≠ .lockFile volume → after.node.files.lookup path = before.node.files.lookup path :=
    fun other => relocked.1.files _ other
  cases remains.2 with
  | recorded recorded => exact .recorded (recorded.relocked relocked)
  | stripped stripped =>
    refine .stripped ⟨?_, ?_, ?_, fun temporary => ?_⟩ <;> rw [same (by simp)]
    · exact stripped.record
    · exact stripped.home
    · exact stripped.image
    · exact stripped.dirs temporary
  | erased erased =>
    refine .erased ⟨?_, ?_⟩ <;> rw [same (by simp)]
    · exact erased.1
    · exact erased.2

theorem realSnapshots_yields (configured : pool ∈ config.storagePools) (recorded : Recorded volume pool data now)
    (listing : List Path) : (calm capacity).Yields
      (.ok (listing.filter fun path => path ≠ .snapshotsDir pool volume true))
      (VolumeManager.realSnapshots config volume listing) now := by
  induction listing with
  | nil => exact .pure _ _
  | cons path rest ih =>
    refine (Calm.snapshotsDir recorded.found recorded.pooled configured true).bind (ih.bind ?_)
    by_cases temporary : path = .snapshotsDir pool volume true
    · simp only [temporary, if_true, ne_eq, not_true_eq_false, decide_false, Bool.false_eq_true, not_false_eq_true,
        List.filter_cons_of_neg]
      exact .pure _ _
    · simp only [temporary, if_false, ne_eq, not_false_eq_true, decide_true, List.filter_cons_of_pos]
      exact .pure _ _

private theorem Layout.no_temporaries (layout : Layout config volume pool kept now) :
    now.node.files.children (.snapshotsDir pool volume true) = [] := by
  refine Files.children_nil fun other parent => ?_
  cases other <;> simp only [Hierarchy.parent] at parent
  case snapshot => cases parent; exact layout.temporaries _
  case creating => cases parent; exact layout.unmarked _ _
  case cowTestFile => cases parent; exact layout.unprobed _ rfl rfl
  case snapshotsDir _ _ temporary => cases temporary <;> cases parent
  case staging _ part => cases part <;> cases parent
  all_goals cases parent

theorem Layout.real_snapshots (layout : Layout config volume pool kept now) :
    (now.node.files.children (.snapshotsDir pool volume false)).filter (fun path => path ≠ .snapshotsDir pool volume true)
      = [] ↔ ∀ name, kept name = none := by
  constructor
  · intro empty name
    by_contra some
    have inside : Path.snapshot pool volume false name ∈ now.node.files.children (.snapshotsDir pool volume false) :=
      FileTree.mem_children.mpr ⟨by rw [layout.snapshots]; exact some, rfl⟩
    exact List.filter_eq_nil_iff.mp empty _ inside (by simp)
  · intro none
    refine List.filter_eq_nil_iff.mpr fun other member => ?_
    obtain ⟨present, parent⟩ := FileTree.mem_children.mp member
    cases other <;> simp only [Hierarchy.parent] at parent
    case snapshot => cases parent; exact absurd ((layout.snapshots _).trans (none _)) present
    case creating => cases parent; exact absurd (layout.unmarked _ _) present
    case cowTestFile => cases parent; exact absurd (layout.unprobed _ rfl rfl) present
    case snapshotsDir _ _ temporary => cases temporary <;> cases parent; simp
    case staging _ part => cases part <;> cases parent
    all_goals cases parent

structure Emptied (config : DriverConfig) (volume : VolumeId) (pool : PoolName) (kept : String → Option (Entry Content))
    (data : Meta) (now : Clocked) : Prop where
  layout : Layout config volume pool kept now
  described : data.storagePool = some pool ∧ data.imgFile = some pool ∧ data.size.isSome = true
  record : now.node.files.lookup (.metaFile volume) = none ∨ Files.metadata now.node.files volume = some data
  home : now.node.files.lookup (.volumeDir pool volume) = some .directory
  image : now.node.files.lookup (.imgFile pool volume) = none
  dirs : ∀ temporary, now.node.files.lookup (.snapshotsDir pool volume temporary) = none

theorem Emptied.remains (emptied : Emptied config volume pool kept data now) : Remains config volume pool kept now := by
  refine ⟨emptied.layout, ?_⟩
  rcases emptied.record with missing | found
  · exact .stripped ⟨missing, emptied.home, emptied.image, emptied.dirs⟩
  · exact .recorded ⟨found, emptied.home, emptied.described.1, emptied.described.2.1, emptied.described.2.2⟩

theorem Emptied.removed (emptied : Emptied config volume pool kept data before) (removed : Removed path before after)
    (own : path = .metaDir volume ∨ Hierarchy.parent path = some (.metaDir volume)) :
    Emptied config volume pool kept data after := by
  have disposable : path.disposable = true := by
    rcases own with rfl | parent
    · rfl
    · cases path <;> first | rfl | cases parent
  have same : ∀ {other : Path}, other ≠ .metaDir volume → Hierarchy.parent other ≠ some (.metaDir volume) →
      after.node.files.lookup other = before.node.files.lookup other := by
    intro other outside below
    refine removed.2.files other ?_
    rintro rfl
    rcases own with same | parent
    · exact outside same
    · exact below parent
  refine ⟨emptied.layout.removed disposable removed, emptied.described, ?_, ?_, ?_, fun temporary => ?_⟩
  · by_cases record : path = .metaFile volume
    · subst record
      exact .inl removed.1
    · rw [removed.2.metadata (Ne.symm record), removed.2.files _ (Ne.symm record)]
      exact emptied.record
  · rw [same (by simp) (by simp [Hierarchy.parent])]
    exact emptied.home
  · rw [same (by simp) (by simp [Hierarchy.parent])]
    exact emptied.image
  · rw [same (by simp) (by cases temporary <;> simp [Hierarchy.parent])]
    exact emptied.dirs temporary

theorem removeMetadata_spec (emptied : Emptied config volume pool kept data now) :
    (calm capacity).Surely (Remains config volume pool kept)
      (fun outcome after => outcome = .ok () ∧ Layout config volume pool kept after ∧ Erased volume pool after)
      (VolumeManager.removeMetadata config volume pool) now := by
  refine (Calm.glob _).andThen emptied.remains ?_
  let left (rest : List Path) (state : Clocked) : Prop := Emptied config volume pool kept data state ∧
    (∀ path ∈ rest, Hierarchy.parent path = some (Path.metaDir volume)) ∧
    ∀ path, Hierarchy.parent path = some (Path.metaDir volume) → path ∉ rest → state.node.files.lookup path = none
  have listed : left (now.node.files.children (.metaDir volume)) now := by
    refine ⟨emptied, fun path member => (FileTree.mem_children.mp member).2, fun path parent absent => ?_⟩
    by_contra present
    exact absent (FileTree.mem_children.mpr ⟨present, parent⟩)
  refine .onward (fun _ state => left [] state) (.forEach left ?_ ?_ listed) ?_
  · rintro path rest state ⟨emptied, inside, gone⟩
    have parent := inside path (List.mem_cons_self ..)
    have own : path.volume = some volume := (Path.parent_volume parent).symm
    have leaf : path.isDirName = false := by
      cases path <;> simp only [Hierarchy.parent] at parent
      case snapshotsDir _ _ temporary => cases temporary <;> cases parent
      case staging _ part => cases part <;> cases parent
      all_goals first | rfl | cases parent
    refine Calm.unlink (emptied.layout.plain own leaf) emptied.remains fun after removed => ?_
    have next := emptied.removed removed (.inr parent)
    refine ⟨next.remains, next, fun other member => inside other (List.mem_cons_of_mem _ member), ?_⟩
    intro other parent absent
    by_cases same : other = path
    · rw [same]
      exact removed.1
    · rw [removed.2.files other same]
      exact gone other parent (by simp [same, absent])
  · exact fun state known => ⟨known.1.remains, (), rfl, known⟩
  · rintro _ state pass ⟨emptied, _, gone⟩
    have vacant := Files.children_nil fun path parent => gone path parent (by simp)
    refine .onward (fun _ after => Emptied config volume pool kept data after ∧
      after.node.files.lookup (.metaDir volume) = none)
      (Calm.rmdir (Files.Typed.directory emptied.layout.typed rfl rfl) vacant pass fun after removed => ?_) ?_
    · have next := emptied.removed removed (.inl rfl)
      exact ⟨next.remains, (), rfl, next, removed.1⟩
    · rintro _ state pass ⟨emptied, bare⟩
      refine (Calm.getVolumePath emptied.layout.configured).andThen pass ?_
      have vacant : state.node.files.children (.volumeDir pool volume) = [] := by
        refine Files.children_nil fun path parent => ?_
        cases path <;> simp only [Hierarchy.parent] at parent
        case imgFile => cases parent; exact emptied.image
        case cowTestClone => cases parent; exact emptied.layout.unprobed _ rfl rfl
        case snapshotsDir _ _ temporary => cases temporary <;> cases parent; exact emptied.dirs false
        case staging _ part => cases part <;> cases parent
        all_goals cases parent
      refine Calm.rmdir (.inr emptied.home) vacant pass fun after removed => ?_
      have layout := emptied.layout.removed rfl removed
      have erased : Erased volume pool after := ⟨by rw [removed.2.files _ (by simp)]; exact bare, removed.1⟩
      exact ⟨⟨layout, .erased erased⟩, rfl, layout, erased⟩

structure Dismantled (config : DriverConfig) (volume : VolumeId) (pool : PoolName)
    (kept : String → Option (Entry Content)) (data : Meta) (now : Clocked) : Prop where
  layout : Layout config volume pool kept now
  recorded : Recorded volume pool data now
  image : now.node.files.lookup (.imgFile pool volume) = none

theorem Dismantled.remains (known : Dismantled config volume pool kept data now) : Remains config volume pool kept now :=
  ⟨known.layout, .recorded known.recorded⟩

theorem Dismantled.removed (known : Dismantled config volume pool kept data before) {temporary : Bool}
    (removed : Removed (.snapshotsDir pool volume temporary) before after) :
    Dismantled config volume pool kept data after := by
  refine ⟨known.layout.removed rfl removed, known.recorded.agrees removed.2 (by simp) (by simp), ?_⟩
  rw [removed.2.files _ (by simp)]
  exact known.image

theorem removeSnapshotDirs_spec (known : Dismantled config volume pool kept data now) (snapshots : List Path)
    (real : snapshots = [] ↔ ∀ name, kept name = none) :
    (calm capacity).Surely (Remains config volume pool kept)
      (fun outcome after => ∃ value, outcome = .ok value ∧ Dismantled config volume pool kept data after ∧
        (snapshots = [] → ∀ temporary, after.node.files.lookup (.snapshotsDir pool volume temporary) = none))
      (VolumeManager.removeSnapshotDirs config volume snapshots []) now := by
  unfold VolumeManager.removeSnapshotDirs
  rw [if_pos rfl]
  refine (Calm.snapshotsDir known.recorded.found known.recorded.pooled known.layout.configured true).andThen
    known.remains ?_
  refine .onward (fun _ after => Dismantled config volume pool kept data after ∧
    after.node.files.lookup (.snapshotsDir pool volume true) = none)
    (Calm.rmdir (Files.Typed.directory known.layout.typed rfl rfl) known.layout.no_temporaries known.remains fun after removed => ?_) ?_
  · exact ⟨(known.removed removed).remains, (), rfl, known.removed removed, removed.1⟩
  · rintro _ state pass ⟨known, temporary⟩
    by_cases bare : snapshots = []
    · rw [if_pos bare]
      refine (Calm.snapshotsDir known.recorded.found known.recorded.pooled known.layout.configured false).andThen pass ?_
      have vacant : state.node.files.children (.snapshotsDir pool volume false) = [] := by
        refine Files.children_nil fun path parent => ?_
        cases path <;> simp only [Hierarchy.parent] at parent
        case snapshot => cases parent; exact (known.layout.snapshots _).trans (real.mp bare _)
        case creating => cases parent; exact known.layout.unmarked _ _
        case cowTestFile => cases parent; exact known.layout.unprobed _ rfl rfl
        case snapshotsDir _ _ inner => cases inner <;> cases parent; exact temporary
        case staging _ part => cases part <;> cases parent
        all_goals cases parent
      refine Calm.rmdir (Files.Typed.directory known.layout.typed rfl rfl) vacant pass fun after removed => ?_
      refine ⟨(known.removed removed).remains, (), rfl, known.removed removed, fun _ which => ?_⟩
      cases which with
      | false => exact removed.1
      | true =>
        rw [removed.2.files _ (by simp)]
        exact temporary
    · rw [if_neg bare]
      exact .pure pass ⟨(), rfl, known, fun empty => absurd empty bare⟩

/-- What is left when the volume is destroyed: with snapshots everything but
the image, without them nothing. -/
theorem destroyVolume_spec (layout : Layout config volume pool kept now) (recorded : Recorded volume pool data now) :
    (calm capacity).Surely (Remains config volume pool kept)
      (fun outcome after => ∃ value, outcome = .ok value ∧ Layout config volume pool kept after ∧
        ((∀ name, kept name = none) → Erased volume pool after) ∧
        ((∃ name, kept name ≠ none) → Recorded volume pool data after ∧
          after.node.files.lookup (.imgFile pool volume) = none))
      (VolumeManager.destroyVolume config volume false) now := by
  have pass : Remains config volume pool kept now := ⟨layout, .recorded recorded⟩
  have dir := fun temporary => @Calm.snapshotsDir (calm capacity) _ now volume data config pool recorded.found recorded.pooled
    layout.configured temporary
  refine (dir false).andThen pass ((Calm.glob _).andThen pass ((realSnapshots_yields layout.configured recorded _).andThen pass ?_))
  refine (dir true).andThen pass ((Calm.glob _).andThen pass ?_)
  rw [layout.no_temporaries]
  refine (Calm.metadataOr recorded.found).andThen pass ((Calm.imgFile recorded.found recorded.named).andThen pass ?_)
  have real := layout.real_snapshots
  generalize (now.node.files.children (.snapshotsDir pool volume false)).filter _ = snapshots at real
  refine .onward (fun _ => Dismantled config volume pool kept data)
    (Calm.unlink (layout.plain rfl rfl) pass fun after removed => ?_) ?_
  · have known : Dismantled config volume pool kept data after :=
      ⟨layout.removed rfl removed, recorded.agrees removed.2 (by simp [ImgFile.path]) (by simp [ImgFile.path]), removed.1⟩
    exact ⟨known.remains, (), rfl, known⟩
  · intro _ state pass known
    refine .onward _ (removeSnapshotDirs_spec known snapshots real) ?_
    rintro _ state pass ⟨known, dirs⟩
    by_cases bare : snapshots = []
    · rw [if_pos ⟨bare, rfl⟩, recorded.pooled, Option.getD_some]
      have emptied : Emptied config volume pool kept data state := ⟨known.layout,
        ⟨recorded.pooled, recorded.named, recorded.sized⟩, .inr known.recorded.found, known.recorded.home, known.image,
        dirs bare⟩
      refine (removeMetadata_spec emptied).weaken (fun _ pass => pass) ?_
      rintro outcome after _ ⟨returned, layout, erased⟩
      exact ⟨(), returned, layout, fun _ => erased, fun ⟨name, stays⟩ => absurd (real.mp bare name) stays⟩
    · rw [if_neg (fun both => bare both.1)]
      exact .pure pass ⟨(), rfl, known.layout, fun none => absurd (real.mpr none) bare, fun _ =>
        ⟨known.recorded, known.image⟩⟩

def Collected (config : DriverConfig) (volume : VolumeId) (pool : PoolName) (kept : String → Option (Entry Content))
    (data : Meta) (now : Clocked) : Prop :=
  Layout config volume pool kept now ∧ ((∀ name, kept name = none) → Erased volume pool now) ∧
    ((∃ name, kept name ≠ none) → Recorded volume pool data now ∧
      now.node.files.lookup (.imgFile pool volume) = none)

theorem locked_metadata {through : Clocked → Prop} (found : Files.metadata now.node.files volume = some data)
    (plain : now.node.files.lookup (.lockFile volume) ≠ some .directory) (pass : through now)
    (passes : ∀ {before after}, Relocked volume before after → through before → through after) :
    (calm capacity).Surely through (fun outcome after => ∃ value, outcome = .ok value ∧ value = data ∧
      Relocked volume now after) (withVolLock volume (metadataOr volume)) now := by
  refine Calm.withVolLock (Files.metadata_stands found) plain pass passes fun locked relocked => ?_
  have inside := passes relocked pass
  have record := (Files.metadata_congr (relocked.1.files (.metaFile volume) (by simp))).trans found
  refine (Calm.metadataOr record).weaken ?_ ?_
  · rintro _ rfl
    exact inside
  · rintro _ _ _ ⟨rfl, rfl⟩
    refine ⟨relocked.2, fun released again _ => ⟨data, rfl, rfl, relocked.1.trans again.1, again.2⟩⟩

theorem gcIfNeeded_spec (layout : Layout config volume pool kept now) (recorded : Recorded volume pool data now)
    {gcAt : Nat} (deleted : data.deletedAt.isSome = true) (due : data.gcAt = some gcAt) (past : gcAt ≤ now.time) :
    (calm capacity).Surely (Remains config volume pool kept)
      (fun outcome after => ∃ value, outcome = .ok value ∧ Collected config volume pool kept data after)
      (VolumeManager.gcIfNeeded config volume false) now := by
  have pass : Remains config volume pool kept now := ⟨layout, .recorded recorded⟩
  refine .onward _ (locked_metadata recorded.found (layout.plain rfl rfl) pass fun relocked remains => remains.relocked relocked) ?_
  rintro _ state pass ⟨rfl, relocked⟩
  obtain ⟨deletedAt, deleted⟩ := Option.isSome_iff_exists.mp deleted
  simp only [deleted, due]
  refine Calm.clock pass fun time later => ?_
  rw [if_pos (Nat.le_trans past (Nat.le_trans relocked.1.time later))]
  refine .onward _ (destroyVolume_spec ((layout.relocked relocked).later time)
    ((recorded.relocked relocked).later time)) ?_
  intro _ state pass collected
  exact .pure pass ⟨true, rfl, collected⟩

theorem Recorded.deleting (recorded : Recorded volume pool data before) {time : Nat}
    (written : Files.metadata after.node.files volume = some (data.merge (VolumeManager.deletingPatch time)))
    (agrees : Agrees (fun path => path = .metaFile volume) before after) :
    Recorded volume pool (data.merge (VolumeManager.deletingPatch time)) after := by
  refine ⟨written, ?_, ?_, ?_, ?_⟩
  · rw [agrees.files _ (by simp)]
    exact recorded.home
  · simpa [Meta.merge, VolumeManager.deletingPatch] using recorded.pooled
  · simpa [Meta.merge, VolumeManager.deletingPatch] using recorded.named
  · simpa [Meta.merge, VolumeManager.deletingPatch] using recorded.sized

theorem Layout.rewritten (layout : Layout config volume pool kept before) {other : Meta}
    (written : Files.metadata after.node.files volume = some other)
    (agrees : Agrees (fun path => path = .metaFile volume) before after) : Layout config volume pool kept after := by
  refine layout.changed rfl agrees fun entry found => ?_
  cases found.symm.trans (Files.metadata_iff.mp written)
  simp [Path.isDirName]

theorem markDeleted_spec {time : Nat} (layout : Layout config volume pool kept now)
    (recorded : Recorded volume pool data now) :
    (calm capacity).Surely (Remains config volume pool kept)
      (fun outcome after => ∃ value, outcome = .ok value ∧ Layout config volume pool kept after ∧ now.time ≤ after.time ∧
        Recorded volume pool (data.merge (VolumeManager.deletingPatch time)) after)
      (withVolLock volume (do
        patchMetadata config volume (← need "storage_pool" (some pool)) (VolumeManager.deletingPatch time))) now := by
  have pass : Remains config volume pool kept now := ⟨layout, .recorded recorded⟩
  refine Calm.withVolLock recorded.standing (layout.plain rfl rfl) pass
    (fun relocked remains => remains.relocked relocked) fun locked relocked => ?_
  have before := layout.relocked relocked
  have record := recorded.relocked relocked
  refine Calm.patchMetadata record.found layout.configured ⟨before, .recorded record⟩ fun after written agrees => ?_
  have layout := before.rewritten written agrees
  have recorded := record.deleting written agrees
  refine ⟨⟨layout, .recorded recorded⟩, layout.plain rfl rfl, fun released again _ => ?_⟩
  have later := Nat.le_trans relocked.1.time (Nat.le_trans agrees.time again.1.time)
  exact ⟨(), rfl, layout.relocked again, later, recorded.relocked again⟩

theorem deleteVolume_spec (layout : Layout config volume pool kept now) (recorded : Recorded volume pool data now)
    (unattached : now.node.devices.attached (.imgFile pool volume) = []) :
    (calm capacity).Surely (Remains config volume pool kept)
      (fun outcome after => ∃ value, outcome = .ok value ∧ ∃ time, time ≤ after.time ∧
        Collected config volume pool kept (data.merge (VolumeManager.deletingPatch time)) after)
      (VolumeManager.deleteVolume config volume) now := by
  have pass : Remains config volume pool kept now := ⟨layout, .recorded recorded⟩
  obtain ⟨size, sized⟩ := Option.isSome_iff_exists.mp recorded.sized
  refine (Calm.metadataOr recorded.found).andThen pass ?_
  rw [recorded.pooled, Option.getD_some]
  refine (Calm.getVolumePath layout.configured).andThen pass ((Calm.exists _).andThen pass ?_)
  have present : now.node.files.present (.volumeDir pool volume) = true := by simp [Files.present, recorded.home]
  simp only [present, Bool.not_true, Bool.false_eq_true, if_false]
  refine (Calm.imgFile recorded.found recorded.named).andThen pass ?_
  refine (Calm.imgSize recorded.found sized).andThen pass ((Calm.attachedLoops _).andThen pass ?_)
  rw [if_neg (by simp [ImgFile.path, unattached])]
  refine Calm.clock pass fun time later => ?_
  refine .onward (fun _ after => Layout config volume pool kept after ∧ time ≤ after.time ∧
    Recorded volume pool (data.merge (VolumeManager.deletingPatch time)) after)
    (markDeleted_spec (layout.later time) (recorded.later time)) ?_
  rintro _ marked _ ⟨layout, past, recorded⟩
  refine .onward (fun _ after => time ≤ after.time ∧
    Collected config volume pool kept (data.merge (VolumeManager.deletingPatch time)) after)
    (((gcIfNeeded_spec layout recorded rfl rfl past).both (Calm.ends_later _)).weaken (fun _ pass => pass) ?_) ?_
  · rintro _ after _ ⟨⟨value, returned, collected⟩, later⟩
    exact ⟨value, returned, Nat.le_trans past later, collected⟩
  · rintro _ state pass ⟨later, collected⟩
    exact .pure pass ⟨size, rfl, time, later, collected⟩

end
end Rawfile
