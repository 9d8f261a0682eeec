import Rawfile.Proofs.Locking
import Rawfile.Proofs.SnapshotFootprint

/-! A ready snapshot is immutable. `create_snapshot` marks a snapshot before it
removes and copies it, and the marker stays until the copy is complete, so only
marking a snapshot that is ready can change it. -/

namespace Rawfile
open Effects

structure StoredSnapshot where
  pool : PoolName
  volume : VolumeId
  name : String

namespace StoredSnapshot

def file (snapshot : StoredSnapshot) : Path := .snapshot snapshot.pool snapshot.volume false snapshot.name
def marker (snapshot : StoredSnapshot) : Path := .creating snapshot.pool snapshot.volume false snapshot.name

def ready (snapshot : StoredSnapshot) (node : Node) : Option (Entry Content) :=
  match node.files.lookup snapshot.marker with
  | none => node.files.lookup snapshot.file
  | some _ => none

def marks (snapshot : StoredSnapshot) : Op → Bool
  | .file (.touch path) => path = snapshot.marker
  | _ => false

end StoredSnapshot

def Call.sparesSnapshot (snapshot : StoredSnapshot) : Call → Bool
  | .deleteSnapshot snapshotId => splitId snapshotId ≠ some (snapshot.volume, snapshot.name)
  | _ => true

def Op.leaves (snapshot : StoredSnapshot) (operation : Op) : Prop :=
  ¬ operation.touches snapshot.file ∧ ¬ operation.touches snapshot.marker

theorem StoredSnapshot.ready_congr {snapshot : StoredSnapshot} {before after : Node}
    (file : after.files.lookup snapshot.file = before.files.lookup snapshot.file)
    (marker : after.files.lookup snapshot.marker = before.files.lookup snapshot.marker) :
    snapshot.ready after = snapshot.ready before := by
  simp only [ready, file, marker]

private theorem StoredSnapshot.ready_marked {snapshot : StoredSnapshot} {node : Node}
    (marked : node.files.lookup snapshot.marker ≠ none) : snapshot.ready node = none := by
  unfold ready
  split
  next missing => exact absurd missing marked
  next => rfl

private theorem StoredSnapshot.ready_file {snapshot : StoredSnapshot} {node : Node} {entry : Entry Content}
    (ready : snapshot.ready node = some entry) : node.files.lookup snapshot.file = some entry := by
  unfold StoredSnapshot.ready at ready
  split at ready
  · exact ready
  · cases ready

def immutability (snapshot : StoredSnapshot) : Guarded where
  protect before after := after.files.lookup snapshot.file = before.files.lookup snapshot.file ∧
    after.files.lookup snapshot.marker = before.files.lookup snapshot.marker
  keep _ _ := True
  promise call before after := call.sparesSnapshot snapshot = true → ∀ entry,
    snapshot.ready before = some entry → snapshot.ready after = some entry
  condition _ _ operation _ node := !(snapshot.marks operation && (snapshot.ready node).isSome)
  same files _ _ := ⟨by rw [files]; exact ⟨rfl, rfl⟩, trivial, trivial⟩
  protect_trans first second := ⟨second.1.trans first.1, second.2.trans first.2⟩
  keep_trans _ _ := trivial
  drift change node :=
    ⟨⟨change.apply_lookup node fun img => by simp [ImgFile.path, StoredSnapshot.file],
      change.apply_lookup node fun img => by simp [ImgFile.path, StoredSnapshot.marker]⟩, trivial, trivial⟩

abbrev snapshotRules (snapshot : StoredSnapshot) (config : DriverConfig) :=
  (immutability snapshot).discipline snapshot.volume config

section
variable {operation : Op} {snapshot : StoredSnapshot}

theorem Op.reads.leaves (reads : operation.reads) : operation.leaves snapshot :=
  ⟨reads.untouched _, reads.untouched _⟩

theorem Op.skips.leaves (skips : operation.skips ⟨snapshot.pool, snapshot.volume, false, snapshot.name⟩) :
    operation.leaves snapshot := skips

end
namespace Immutability
variable {snapshot : StoredSnapshot} {config : DriverConfig} {call : Call} {thread : Nat}

theorem leaves_step {operation : Op} {post : Except Err operation.Reply → Node → Prop}
    (leaves : operation.leaves snapshot) {now : Node} (valid : (immutability snapshot).valid snapshot.volume now)
    (reaches : ∀ answer reply after, operation.exec thread answer now = (reply, after) → post reply after) :
    (snapshotRules snapshot config).Step call thread operation post now := by
  refine Guarded.step_intro valid fun answer reply after _ executed => ?_
  have file := Op.exec_frame executed leaves.1
  have marker := Op.exec_frame executed leaves.2
  exact ⟨.inl ⟨file, marker⟩, trivial, fun _ entry ready => (StoredSnapshot.ready_congr file marker).trans ready,
    reaches answer reply after executed⟩

theorem leaves_safe {α : Type} {allowed : Op → Prop} {program : Driver α} {state : Node}
    (within : program.Within Op.lawful allowed) (leaves : ∀ operation, allowed operation → operation.leaves snapshot) :
    (snapshotRules snapshot config).Safe call thread (fun _ _ => True) program state :=
  Guarded.safe_of_steps within fun operation issued _ valid =>
    leaves_step (leaves operation issued) valid fun _ _ _ _ => trivial

/-- The thread holds the lock and, if it works in the snapshot's pool, the
snapshot is marked. -/
structure Working (snapshot : StoredSnapshot) (pool : PoolName) (thread : Nat) (node : Node) : Prop where
  held : (snapshot.volume, thread) ∈ node.holders
  marked : pool = snapshot.pool → node.files.lookup snapshot.marker ≠ none

variable {pool : PoolName} {operation : Op} {state now : Node}

theorem Working.relied (working : Working snapshot pool thread state)
    (moved : (snapshotRules snapshot config).rely call thread state now) : Working snapshot pool thread now :=
  ⟨moved.1.mpr working.held, fun same => by rw [(moved.2.1 working.held).2]; exact working.marked same⟩

/-- While the snapshot is marked, the holder of the lock may do anything to its file. -/
theorem Working.step {post : Except Err operation.Reply → Node → Prop} (working : Working snapshot pool thread now)
    (foreign : pool ≠ snapshot.pool → operation.leaves snapshot) (valid : (immutability snapshot).valid snapshot.volume now)
    (reaches : ∀ answer reply after, operation.exec thread answer now = (reply, after) → post reply after) :
    (snapshotRules snapshot config).Step call thread operation post now := by
  refine Guarded.step_intro valid fun answer reply after _ executed => ?_
  refine ⟨.inr working.held, trivial, fun _ entry ready => ?_, reaches answer reply after executed⟩
  by_cases same : pool = snapshot.pool
  · rw [StoredSnapshot.ready_marked (working.marked same)] at ready
    cases ready
  · have leaves := foreign same
    rwa [StoredSnapshot.ready_congr (Op.exec_frame executed leaves.1) (Op.exec_frame executed leaves.2)]

theorem Working.exec {answer : Answer} {after : Node} {reply : Except Err operation.Reply}
    (working : Working snapshot pool thread now) (executed : operation.exec thread answer now = (reply, after))
    (unmarking : ¬ operation.touches snapshot.marker) (keeps : operation ≠ .lock (.release snapshot.volume)) :
    Working snapshot pool thread after :=
  ⟨Op.exec_keeps_held executed keeps working.held,
    fun same => by rw [Op.exec_frame executed unmarking]; exact working.marked same⟩

theorem Working.idle {α : Type} {program : Driver α}
    (within : program.Within Op.lawful (fun operation => operation.reads ∨ ∃ device, operation = .device device))
    (working : Working snapshot pool thread state) :
    (snapshotRules snapshot config).Safe call thread
      (fun _ state => Working snapshot pool thread state) program state := by
  refine .ofWithin (Working snapshot pool thread) within nodePlugin_lawful ?_ (fun _ _ working => working) working
  intro operation issued state working now relied valid
  have leaves : operation.leaves snapshot := by
    rcases issued with reads | ⟨device, rfl⟩
    · exact reads.leaves
    · exact ⟨id, id⟩
  refine (working.relied relied).step (fun _ => leaves) valid fun answer reply after executed => ?_
  refine (working.relied relied).exec executed leaves.2 ?_
  rintro rfl
  rcases issued with reads | ⟨device, same⟩
  · cases reads
  · cases same

theorem foreign_leaves {operation : FileOp} (different : pool ≠ snapshot.pool)
    (only : ∀ path, operation.touches path → path = .snapshot pool snapshot.volume false snapshot.name ∨
      path = .creating pool snapshot.volume false snapshot.name) : (Op.file operation).leaves snapshot := by
  constructor <;> intro touched <;> rcases only _ touched with same | same <;>
    simp [StoredSnapshot.file, StoredSnapshot.marker, Ne.symm different] at same

structure Copied (snapshot : StoredSnapshot) (pool : PoolName) (thread : Nat) (node : Node) : Prop
    extends Working snapshot pool thread node where
  copied : pool = snapshot.pool → Files.image node.files snapshot.file ≠ none

theorem Copied.relied (copied : Copied snapshot pool thread state)
    (moved : (snapshotRules snapshot config).rely call thread state now) : Copied snapshot pool thread now :=
  ⟨copied.toWorking.relied moved,
    fun same => by rw [Files.image_congr (moved.2.1 copied.held).1]; exact copied.copied same⟩

/-- The copy is made under the lock, while the snapshot is marked as not ready. -/
theorem copyFile_working {file : ImgFile} (working : Working snapshot pool thread state) :
    (snapshotRules snapshot config).Safe call thread (fun outcome state =>
      Working snapshot pool thread state ∧ (outcome = .ok () → Copied snapshot pool thread state))
      (copyFile file.path (.snapshot pool snapshot.volume false snapshot.name)) state := by
  refine .bind (.perform fun now relied valid => (working.relied relied).step
    (fun different => foreign_leaves different fun path touched => .inl touched) valid ?_)
  intro answer reply after executed
  have still : Working snapshot pool thread after := (working.relied relied).exec executed
    (by simp [Op.touches, FileOp.touches, StoredSnapshot.marker]) (by simp)
  cases reply with
  | error error => exact ⟨still, by simp⟩
  | ok opened =>
    have filled : pool = snapshot.pool → Files.image after.files snapshot.file ≠ none := by
      rintro rfl
      simp [StoredSnapshot.file, (cpStart_exec (Op.exec_file executed)).2]
    have copied : Copied snapshot pool thread after := ⟨still, filled⟩
    refine .perform fun now relied valid => (copied.relied relied).toWorking.step
      (fun different => foreign_leaves different fun path touched => .inl touched) valid ?_
    intro answer reply last executed
    have still : Working snapshot pool thread last := (copied.relied relied).toWorking.exec executed
      (by simp [Op.touches, FileOp.touches, StoredSnapshot.marker]) (by simp)
    refine ⟨still, ?_⟩
    rintro rfl
    refine ⟨still, ?_⟩
    rintro rfl
    simp [StoredSnapshot.file, cpFinish_exec (Op.exec_file executed) ((copied.relied relied).copied rfl)]

theorem publish_working {next : Nat → Driver Snapshot} (returns : ∀ size, ∃ made, next size = .done made)
    (copied : Copied snapshot pool thread state) :
    (snapshotRules snapshot config).Safe call thread (fun outcome state =>
      (snapshot.volume, thread) ∈ state.holders ∧
        ∀ error, outcome = .error error → Working snapshot pool thread state)
      (do
        Driver.file (.unlink (.creating pool snapshot.volume false snapshot.name) true)
        let size ← Driver.file (.getsize (.snapshot pool snapshot.volume false snapshot.name))
        next size) state := by
  refine .bind (.perform fun now relied valid => (copied.relied relied).toWorking.step
    (fun different => foreign_leaves different fun path touched => .inr touched) valid ?_)
  intro answer reply after executed
  have current := copied.relied relied
  have held := Op.exec_keeps_held executed (by simp) current.held
  cases reply with
  | error error =>
    have unchanged := unlink_error (Op.exec_file executed)
    exact ⟨held, fun _ _ => ⟨held, fun same => by rw [unchanged]; exact current.marked same⟩⟩
  | ok value =>
    refine .bind (.perform fun last relied valid => leaves_step
      (@Op.reads.leaves (.file (.getsize _)) snapshot trivial) valid ?_)
    intro answer reply final executed'
    have holding := Op.exec_keeps_held executed' (by simp) (relied.1.mpr held)
    cases reply with
    | ok size =>
      obtain ⟨made, same⟩ := returns size
      dsimp only
      rw [same]
      exact ⟨holding, by simp⟩
    | error error =>
      refine ⟨holding, fun _ _ => ⟨holding, ?_⟩⟩
      rintro rfl
      have kept : last.files.lookup snapshot.file = now.files.lookup snapshot.file :=
        (relied.2.1 held).1.trans (Op.exec_frame executed
          (by simp [Op.touches, FileOp.touches, StoredSnapshot.file]))
      have image : Files.image last.files snapshot.file ≠ none := by
        rw [Files.image_congr kept]
        exact current.copied rfl
      obtain ⟨size, same⟩ := getsize_exec (Op.exec_file executed') image
      cases same

variable {args : CreateSnapshotArgs}

def Names (args : CreateSnapshotArgs) (snapshot : StoredSnapshot) : Prop :=
  args.volumeId = snapshot.volume ∧ args.name = snapshot.name ∧ args.temporary = false

section
variable (named : Names args snapshot) {file : ImgFile} {loops : List Device}
  (working : Working snapshot pool thread state)
include named working

private theorem copySnapshot_working :
    (snapshotRules snapshot config).Safe call thread (fun outcome state =>
      (snapshot.volume, thread) ∈ state.holders ∧ ∀ error, outcome = .error error → Working snapshot pool thread state)
      (SnapshotManager.copySnapshot args pool file loops) state := by
  obtain ⟨volume, name, cow, freeze, temporary⟩ := args
  obtain ⟨home, source, title⟩ := snapshot
  obtain ⟨rfl, rfl, rfl⟩ := named
  have freezing : (if freeze then SnapshotManager.freezeAll loops else pure () : Driver Unit).Within Op.lawful
      (fun operation => operation.reads ∨ ∃ device, operation = .device device) := by
    split
    · exact SnapshotManager.freezeAll_within (fun _ => .inl) (fun _ => .inr ⟨_, rfl⟩) loops
    · exact .pure _
  refine .andThen (working.idle freezing) (fun _ state working => ?_) fun error _ working => ⟨working.held, fun _ _ => working⟩
  refine .bind ((copyFile_working working).weaken ?_)
  rintro (error | value) state ⟨working, copied⟩
  · exact ⟨working.held, fun _ _ => working⟩
  · refine .bind (.perform fun now relied valid => leaves_step
      (@Op.reads.leaves (.ask .clock) ⟨home, volume, name⟩ trivial) valid ?_)
    intro answer reply after executed
    cases executed
    exact publish_working (fun _ => ⟨_, rfl⟩) ((copied rfl).relied relied)

private theorem cutSnapshot_working :
    (snapshotRules snapshot config).Safe call thread (fun _ _ => True)
      (SnapshotManager.cutSnapshot args pool file loops) state := by
  have thawing : ∀ state, (snapshotRules snapshot config).Safe call thread
      (fun _ _ => True) (if args.freezeFs then SnapshotManager.unfreezeAll loops else pure ()) state := by
    intro state
    split
    · exact leaves_safe (SnapshotManager.unfreezeAll_within
        (fun _ reads => Op.reads.leaves reads) (fun _ => ⟨id, id⟩) loops) fun _ leaves => leaves
    · trivial
  refine .andFinally (fun _ => True) (.tryExcept ((copySnapshot_working named working).weaken ?_))
    (fun state _ => thawing state) fun _ _ => trivial
  rintro (error | made) state ⟨held, failed⟩
  · have working := failed error rfl
    obtain ⟨volume, name, cow, freeze, temporary⟩ := args
    obtain ⟨home, source, title⟩ := snapshot
    obtain ⟨rfl, rfl, rfl⟩ := named
    refine .bind (.perform fun now relied valid => (working.relied relied).step
      (fun different => foreign_leaves different fun path touched => .inl touched) valid ?_)
    intro answer reply after executed
    cases reply <;> trivial
  · trivial

end

private theorem leaves_held {α : Type} {allowed : Op → Prop} {program : Driver α} (within : program.Within Op.lawful allowed)
    (leaves : ∀ operation, allowed operation → operation.leaves snapshot ∧ ∀ lock, operation ≠ .lock lock)
    (held : (snapshot.volume, thread) ∈ state.holders) :
    (snapshotRules snapshot config).Safe call thread
      (fun _ state => (snapshot.volume, thread) ∈ state.holders) program state :=
  Guarded.held_of_steps within (fun operation issued _ valid _ =>
    leaves_step (leaves operation issued).1 valid fun _ _ _ _ => trivial)
    (fun operation issued => (leaves operation issued).2 _) held

theorem reading_held {α : Type} {program : Driver α} (within : program.Within Op.lawful Op.reads)
    (held : (snapshot.volume, thread) ∈ state.holders) :
    (snapshotRules snapshot config).Safe call thread
      (fun _ state => (snapshot.volume, thread) ∈ state.holders) program state :=
  leaves_held within (fun operation reads => ⟨reads.leaves, by rintro lock rfl; cases reads⟩) held

theorem mark_working (held : (snapshot.volume, thread) ∈ state.holders) :
    (snapshotRules snapshot config).Safe call thread
      (fun outcome state => outcome = .ok () → Working snapshot pool thread state)
      (Driver.file (.touch (.creating pool snapshot.volume false snapshot.name))) state := by
  refine .perform fun now relied valid => Guarded.step_intro valid ?_
  intro answer reply after condition executed
  have holding : (snapshot.volume, thread) ∈ now.holders := relied.1.mpr held
  refine ⟨.inr holding, trivial, fun _ entry ready => ?_, ?_⟩
  · by_cases same : pool = snapshot.pool
    · subst same
      simp [immutability, StoredSnapshot.marks, StoredSnapshot.marker, ready] at condition
    · have leaves := @foreign_leaves _ _ (.touch (.creating pool snapshot.volume false snapshot.name)) same
        fun path touched => .inr touched
      rwa [StoredSnapshot.ready_congr (Op.exec_frame executed leaves.1) (Op.exec_frame executed leaves.2)]
  · intro succeeded
    refine ⟨Op.exec_keeps_held executed (by simp) holding, ?_⟩
    rintro rfl
    rcases touch_exec (Op.exec_file executed) with ⟨unchanged, present⟩ | ⟨-, -, created⟩
    · rw [unchanged]
      exact present succeeded
    · rw [show snapshot.marker = .creating snapshot.pool snapshot.volume false snapshot.name from rfl, created]
      simp

theorem createSnapshot_safe (args : CreateSnapshotArgs) :
    (snapshotRules snapshot config).Safe call thread (fun _ _ => True)
      (SnapshotManager.createSnapshot config args) state := by
  by_cases named : Names args snapshot
  · obtain ⟨volume, name, cow, freeze, temporary⟩ := args
    obtain ⟨home, source, title⟩ := snapshot
    obtain ⟨rfl, rfl, rfl⟩ := named
    refine Guarded.withVolLock_safe (fun lock _ valid _ => leaves_step ?_ valid fun _ _ _ _ => trivial)
      (fun state held => ?_) fun _ _ => trivial
    · cases lock <;> simp [Op.leaves, Op.touches, StoredSnapshot.file, StoredSnapshot.marker]
    refine .after (reading_held (imgFile_within (fun _ reads => reads) _) held) fun file state held => ?_
    refine .after (reading_held (attachedLoops_within (fun _ reads => reads) _) held) fun loops state held => ?_
    refine .after (reading_held (snapshotsPool_within (fun _ reads => reads) _ _) held) fun pool state held => ?_
    refine .after (leaves_held (.perform rfl) ?_ held) fun _ state held => ?_
    · rintro _ rfl
      simp [Op.leaves, Op.touches, FileOp.touches, StoredSnapshot.file, StoredSnapshot.marker]
    refine .bind ((mark_working held).weaken ?_)
    rintro (error | value) state marked
    · trivial
    · have working := marked rfl
      refine .bind (.perform fun now relied valid => (working.relied relied).step
        (fun different => foreign_leaves different fun path touched => .inl touched) valid ?_)
      intro answer reply after executed
      have working := (working.relied relied).exec executed
        (by simp [Op.touches, FileOp.touches, StoredSnapshot.marker]) (by simp)
      cases reply with
      | error error => trivial
      | ok value =>
        dsimp only
        split
        · trivial
        · exact cutSnapshot_working ⟨rfl, rfl, rfl⟩ working
  · refine leaves_safe (SnapshotManager.createSnapshot_within config args) fun _ issued => (issued.skips ?_).leaves
    intro same
    cases args
    simp only [Prod.mk.injEq] at same
    exact named same

/-- A call that was asked to delete the snapshot promises nothing, but works below the lock. -/
theorem deleteSnapshot_safe {volume : VolumeId} {name : String}
    (asked : (volume, name) = (snapshot.volume, snapshot.name) → call.sparesSnapshot snapshot = false) :
    (snapshotRules snapshot config).Safe call thread (fun _ _ => True)
      (SnapshotManager.deleteSnapshot config volume name false) state := by
  by_cases named : (volume, name) = (snapshot.volume, snapshot.name)
  · have deletes := asked named
    obtain ⟨rfl, rfl⟩ := Prod.mk.injEq .. ▸ named
    refine Guarded.withVolLock_safe (fun lock _ valid _ => leaves_step ?_ valid fun _ _ _ _ => trivial)
      (fun state held => ?_) fun _ _ => trivial
    · cases lock <;> simp [Op.leaves, Op.touches, StoredSnapshot.file, StoredSnapshot.marker]
    refine .after (reading_held (snapshotsPool_within (fun _ reads => reads) _ _) held) fun pool state held => ?_
    have removing : ((Driver.file (.unlink (.snapshot pool snapshot.volume false snapshot.name) true)) >>= fun _ =>
        Driver.file (.unlink (.creating pool snapshot.volume false snapshot.name) true)).Within Op.lawful
          (fun operation => ∃ path, operation = .file (.unlink path true)) :=
      .bind (.perform ⟨_, rfl⟩) fun _ => .perform ⟨_, rfl⟩
    refine (Guarded.held_of_steps removing ?_ ?_ held).weaken fun _ _ _ => trivial
    · rintro operation ⟨path, rfl⟩ now valid holding
      refine Guarded.step_intro valid fun _ _ _ _ _ => ⟨.inr holding, trivial, fun spares => ?_, trivial⟩
      rw [deletes] at spares
      cases spares
    · rintro operation ⟨path, rfl⟩
      simp
  · refine leaves_safe (SnapshotManager.deleteSnapshot_within config volume name false) fun _ issued =>
      (issued.create.skips ?_).leaves
    intro same
    simp only [Prod.mk.injEq, and_true] at same named
    exact named same

theorem taskBody_safe (task : TaskCall) :
    (snapshotRules snapshot config).Safe call thread (fun _ _ => True)
      (TaskManager.taskBody config task) state := by
  cases task with
  | createVolume args =>
    exact leaves_safe (VolumeManager.createVolume_within config args) fun _ issued =>
      (@Call.skips _ _ (.task (.createVolume args)) issued rfl).leaves
  | createSnapshot args =>
    exact .after (createSnapshot_safe args) fun _ _ _ => trivial

/-- No call changes a ready snapshot but to delete it. -/
theorem call_safe (call : Call) :
    (snapshotRules snapshot config).Safe call thread (fun _ _ => True)
      (call.program config) state := by
  have within := call.program_within config
  cases call with
  | createVolume | createSnapshot | start | workerRound | shutdown | nodeStageVolume | deleteVolume | expandRawFile =>
    exact leaves_safe within fun _ issued => (Call.skips issued rfl).leaves
  | deleteSnapshot snapshotId =>
    simp only [Call.program, Bd2Fs.deleteSnapshot, Bd2Fs.snapshotsOnly]
    split
    · unfold rsplit
      split
      next names split =>
        rw [Program.pure_bind]
        refine .after (deleteSnapshot_safe fun named => ?_) fun _ _ _ => ?_
        · rw [show names = (snapshot.volume, snapshot.name) from named] at split
          simp [Call.sparesSnapshot, split]
        · exact .after (leaves_safe (VolumeManager.gcIfNeeded_within config _ _) fun _ issued => issued.skips.leaves)
            fun _ _ _ => trivial
      next => trivial
    · trivial
  | task task => exact taskBody_safe task
  | future index task =>
    exact @runFuture_safe _ _ _ _ (fun _ => True) (fun within _ => leaves_safe within fun _ issued => issued.skips.leaves) _
      (fun _ _ => taskBody_safe task) index state trivial

end Immutability

/-- The steps of a run meet two conditions for the snapshot: the lock of its
volume is granted only while nobody holds it, and `create_snapshot` does not
mark the snapshot while it is ready. -/
def uncut (snapshot : StoredSnapshot) (_call : Call) (_thread : Nat) (operation : Op) (answer : Answer)
    (node : Node) : Bool :=
  operation.excludes snapshot.volume answer node && !(snapshot.marks operation && (snapshot.ready node).isSome)

private theorem immutability_covers (snapshot : StoredSnapshot) (config : DriverConfig) :
    (snapshotRules snapshot config).Covers
      (fun now event => now.onStep (uncut snapshot) event = true) :=
  Guarded.covers (fun _ _ permitted => permitted) (fun _ call _ _ _ _ => Immutability.call_safe call)
    (fun _ _ _ owned => by cases owned) fun _ _ _ => trivial

/-- From any state the run reaches in which a snapshot is ready, its file stays
as it is until its deletion is requested, as long as the run does not cut it again. -/
theorem ready_snapshot_unchanged (config : DriverConfig) (snapshot : StoredSnapshot) (entry : Entry Content)
    {before after : NodeConfig}
    (reached : (nodePlugin config).Reaches (fun now event => now.onStep (uncut snapshot) event = true)
      NodeConfig.initial before) (ready : snapshot.ready before.state = some entry)
    (spared : before.only (Call.sparesSnapshot snapshot) = true)
    (later : (nodePlugin config).Reaches (fun now event => (now.onStep (uncut snapshot) event &&
      event.begins (Call.sparesSnapshot snapshot)) = true) before after) :
    after.state.files.lookup snapshot.file = some entry := by
  have covers := immutability_covers snapshot config
  refine StoredSnapshot.ready_file (Guarded.preserved (fun node => snapshot.ready node = some entry) covers
    (covers.reaches reached (Guarded.holds_idle rfl trivial)) spared later ?_ ?_ ?_ ready)
  · exact fun call _ _ spares promised => promised spares entry
  · exact fun files _ ready => (StoredSnapshot.ready_congr (by rw [files]) (by rw [files])).trans ready
  · intro change node ready
    obtain ⟨file, marker⟩ := ((immutability snapshot).drift change node).1
    exact (StoredSnapshot.ready_congr file marker).trans ready

namespace Immutability

def ofV : StoredSnapshot := ⟨"default", "v", "s"⟩
def cutting : TaskCall := .createSnapshot { volumeId := "v", name := "s", copyOnWrite := false }

/-- A snapshot of a ready volume is requested, and its future gets as far as removing the marker. -/
def cut : List NodeEvent :=
  thinCreated ++ moves 2 6 {} ++ [.enter (.createSnapshot ⟨"v", "s"⟩)] ++ moves 3 12 {} ++
    [.enter (.future 1 cutting)] ++ moves 4 12 {}

/-- The volume is expanded after a crash that left the snapshot's record running. -/
theorem ready_snapshot_unchanged_expanding : ∃ (before after : NodeConfig) (entry : Entry Content),
    ofV.ready before.state = some entry ∧
    (nodePlugin singlePool).Reaches (fun now event => (now.onStep (uncut ofV) event &&
      event.begins (Call.sparesSnapshot ofV)) = true) before after ∧
    after.state.files.lookup ofV.file = some entry := by
  obtain ⟨before, after, reached, tested, later, -⟩ := @Machine.two_parts _ _ _ _ _ _ _ (nodePlugin singlePool)
    (fun now event => now.onStep (uncut ofV) event)
    (fun now event => now.onStep (uncut ofV) event && event.begins (Call.sparesSnapshot ofV))
    (fun now => (ofV.ready now.state).isSome && now.only (Call.sparesSnapshot ofV))
    (fun _ => true)
    cut ([.crash, .enter .start] ++ moves 0 3 {} ++ [.enter (.expandRawFile "v" 16777217)] ++
      moves 1 10 { amount := 1 }) NodeConfig.initial (by decide +kernel)
  obtain ⟨some, spared⟩ := Bool.and_eq_true_iff.mp tested
  obtain ⟨entry, ready⟩ := Option.isSome_iff_exists.mp some
  exact ⟨before, after, entry, ready, later, ready_snapshot_unchanged singlePool ofV entry reached ready spared later⟩

/-- The process dies before the task is recorded as completed, and the worker
runs it again after the restart. -/
def recut : List NodeEvent :=
  [.crash, .enter .start] ++ moves 0 3 {} ++ [.enter .workerRound] ++ moves 1 8 {} ++
    [.enter (.future 0 cutting)] ++ moves 2 8 {}

/-- The retried task removes a ready snapshot nobody asked to delete. -/
theorem ready_snapshot_removed_by_retry :
    ((nodePlugin singlePool).run cut NodeConfig.initial).map (fun now => (ofV.ready now.state).isSome) = some true ∧
    ((nodePlugin singlePool).run (cut ++ recut) NodeConfig.initial).map (fun now => now.state.files.present ofV.file) =
      some false ∧
    (cut ++ recut).all (Event.begins (Call.sparesSnapshot ofV)) = true := by
  decide +kernel

end Immutability
end Rawfile
