import Rawfile.Proofs.Kinds
import Rawfile.Proofs.Restore
import Rawfile.Proofs.SnapshotFootprint

/-! The temporary snapshot of a clone. Its removal in the `finally` block needs
the lock and the record of the source, so it can fail after the volume was made
ready, and what was raised or returned before is lost. -/

namespace Rawfile
open Effects

structure Clone where
  args : CreateVolumeArgs
  source : VolumeId
  pool : PoolName
  typed : args.sourceType = some .volume
  named : args.source = some source

namespace Clone

def call (clone : Clone) : Call := .task (.createVolume clone.args)

def volume (clone : Clone) : VolumeId := clone.args.volumeId

def file (clone : Clone) : SnapshotFile := ⟨clone.pool, clone.source, true, cloneSource clone.volume⟩

def Bare (clone : Clone) (node : Node) : Prop :=
  node.files.lookup clone.file.path = none ∧ node.files.lookup clone.file.marker = none

def neat (clone : Clone) (node : Node) : Bool :=
  (node.files.lookup clone.file.path).isNone && (node.files.lookup clone.file.marker).isNone &&
    !node.isReady clone.volume

def meddles (clone : Clone) (call : Call) : Bool :=
  call.recreates clone.file || call.creates clone.volume || match call with
    | .deleteVolume target | .expandRawFile target _ => target = clone.volume
    | .deleteSnapshot snapshotId => (splitId snapshotId).map Prod.fst = some clone.volume
    | _ => false

def succeeds (clone : Clone) (config : DriverConfig) (thread : Nat) (operation : Op) (answer : Answer) (node : Node) :
    Bool :=
  match operation with
  | .file (.readMeta target) =>
    match ((FileOp.readMeta target).exec answer node.files).1 with
    | .ok data => target ≠ clone.source || data.storagePool.getD config.defaultPool = clone.pool
    | .error error => error = .fileNotFound && target ≠ clone.source
  | operation => (operation.exec thread answer node).1.isOk

def step (clone : Clone) (config : DriverConfig) (thread : Nat) (operation : Op) (answer : Answer) (node : Node) : Bool :=
  clone.neat node || clone.succeeds config thread operation answer node

/-- What `create_volume` does before its `try`. -/
def opening (clone : Clone) (config : DriverConfig) : Driver Unit := do
  let dir ← getVolumePath config clone.args.storagePool clone.args.volumeId
  Driver.file (.mkdir dir true)
  Driver.file (.mkdirs (.metaDir clone.args.volumeId))
  patchMetadata config clone.args.volumeId clone.args.storagePool (VolumeManager.openingPatch clone.args)

def body (clone : Clone) (config : DriverConfig) : Driver Unit := do
  let source ← VolumeManager.findSource config clone.args
  withVolLock clone.args.volumeId (VolumeManager.buildImage config clone.args source)

/-- A call that is before its `try` or in its `finally` block, by what is left of it. -/
def Outside (clone : Clone) (config : DriverConfig) (program : Driver Unit) : Prop :=
  (∃ rest, (clone.opening config).Rest rest ∧ rest.finished = false ∧ program = (rest >>= fun _ =>
    (clone.body config).tryFinally (VolumeManager.removeCloneSource config clone.args))) ∨
  ∃ outcome rest, (VolumeManager.removeCloneSource config clone.args).Rest rest ∧
    program = (rest >>= fun _ => Program.ofExcept outcome)

def demand (clone : Clone) (config : DriverConfig) (thread : Nat) (program : Driver Unit) (answer : Answer)
    (node : Node) : Prop :=
  clone.Outside config program → ∀ operation next, program = .request operation next →
    clone.step config thread operation answer node = true

def turns (clone : Clone) (config : DriverConfig) (now : NodeConfig) : NodeEvent → Bool
  | .enter call => (!clone.meddles call || now.only fun other => !clone.meddles other) &&
    (call ≠ clone.call || clone.args.storagePool ∈ config.storagePools || clone.neat now.state)
  | _ => true

/-- Runs in which the calls that work on the new volume or the temporary snapshot
take turns, the pool of the new volume is known or nothing is left, and the steps
of the clone before its `try` and in its `finally` block succeed. -/
def Run (clone : Clone) (config : DriverConfig) (now : NodeConfig) (event : NodeEvent) : Prop :=
  clone.turns config now event = true ∧ ∀ thread answer program, event = .step thread answer →
    now.threads[thread]? = some ⟨clone.call, program⟩ → clone.demand config thread program answer now.state

structure Same (clone : Clone) (before after : Node) : Prop where
  file : after.files.lookup clone.file.path = before.files.lookup clone.file.path
  marker : after.files.lookup clone.file.marker = before.files.lookup clone.file.marker
  record : after.files.lookup (.metaFile clone.volume) = before.files.lookup (.metaFile clone.volume)

def part (clone : Clone) (condition : Call → Nat → Op → Answer → Node → Bool) : Owned where
  owns := clone.meddles
  same := clone.Same
  promise _ _ _ := True
  condition
  same_files files := ⟨by rw [files], by rw [files], by rw [files]⟩
  same_trans first second := ⟨second.file.trans first.file, second.marker.trans first.marker,
    second.record.trans first.record⟩
  promised _ := trivial

/-- Whatever its steps do. -/
abbrev loose (clone : Clone) (config : DriverConfig) := (clone.part fun _ _ _ _ _ => true).discipline config

abbrev Ends (clone : Clone) (config : DriverConfig) (thread : Nat) {α : Type} (post : Except Err α → Node → Prop)
    (program : Driver α) (state : Node) : Prop :=
  (clone.loose config).Safe clone.call thread post program state

def Ended (clone : Clone) (outcome : Except Err Unit) (node : Node) : Prop :=
  (∃ error, outcome = .error error) → node.isReady clone.volume = false

structure Settled (clone : Clone) (outcome : Except Err Unit) (node : Node) : Prop where
  bare : clone.Bare node
  ended : clone.Ended outcome node

variable {clone : Clone} {config : DriverConfig} {thread : Nat} {operation : Op} {before after state now : Node}
  {outcome : Except Err Unit}

theorem neat_iff : clone.neat now = true ↔ clone.Bare now ∧ now.isReady clone.volume = false := by
  simp [neat, Bare]

section
variable (same : clone.Same before after)
include same

theorem Same.unready (unready : before.isReady clone.volume = false) : after.isReady clone.volume = false :=
  (Node.isReady_congr same.record).trans unready

theorem Same.neat (neat : clone.neat before = true) : clone.neat after = true := by
  rw [neat_iff, Bare] at neat ⊢
  exact ⟨⟨same.file.trans neat.1.1, same.marker.trans neat.1.2⟩, same.unready neat.2⟩

theorem Same.ended (ended : clone.Ended outcome before) : clone.Ended outcome after :=
  fun failed => same.unready (ended failed)

theorem Same.settled (settled : clone.Settled outcome before) : clone.Settled outcome after :=
  ⟨⟨same.file.trans settled.bare.1, same.marker.trans settled.bare.2⟩, same.ended settled.ended⟩

end

theorem same_exec {answer : Answer} {reply : Except Err operation.Reply}
    (executed : operation.exec thread answer before = (reply, after)) (skips : operation.skips clone.file)
    (record : ¬ operation.touches (.metaFile clone.volume)) : clone.Same before after :=
  ⟨Op.exec_frame executed skips.1, Op.exec_frame executed skips.2, Op.exec_frame executed record⟩

private theorem record_untouched {call : Call} (issued : call.footprint operation) (other : clone.meddles call = false) :
    ¬ operation.touches (.metaFile clone.volume) := by
  obtain ⟨⟨-, created⟩, different⟩ := by simpa only [meddles, Bool.or_eq_false_iff] using other
  intro touched
  have written := Call.writes_of_touches touched trivial issued
  have tasks : ∀ task : TaskCall, (Call.task task).creates clone.volume = false →
      ¬ task.writes (.metaFile clone.volume) := by
    intro task created written
    cases task <;> simp_all [TaskCall.writes, Path.ofVolume, Path.ofSnapshot, Call.creates, Call.created]
  cases call with
  | deleteVolume target => simp_all [Call.writes, Path.ofVolume]
  | expandRawFile target newSize => simp_all [Call.writes, Path.ofVolume]
  | deleteSnapshot snapshotId =>
    obtain ⟨target, name, split, own | same⟩ := written
    · cases own
    · simp [split, show target = clone.volume from same] at different
  | task task => exact tasks task created written
  | future index task => exact tasks task (by cases task <;> exact created) written
  | _ => exact written

theorem covers (clone : Clone) (config : DriverConfig) : (clone.loose config).Covers (clone.Run config) := by
  apply Owned.covers
  · intro now event _
    unfold Config.onStep
    split
    · split <;> rfl
    · rfl
  · intro now call permitted owned
    have turns := (Bool.and_eq_true_iff.mp permitted.1).1
    rw [show clone.meddles call = true from owned] at turns
    exact turns
  · intro now call thread state _ _
    refine .ofWithin (fun _ => True) (call.program_within config) nodePlugin_lawful ?_ (fun _ _ _ _ => trivial) trivial
    intro operation issued state _ now _ _
    apply Owned.step_intro
    intro answer reply after _ executed
    refine ⟨trivial, fun other => ?_, trivial, trivial⟩
    have skips := Call.skips issued (Bool.or_eq_false_iff.mp (Bool.or_eq_false_iff.mp other).1).1
    exact same_exec executed skips (record_untouched issued other)
  · exact fun _ _ => trivial
  · intro now change _
    exact ⟨change.apply_lookup _ fun img => by simp [SnapshotFile.path, ImgFile.path],
      change.apply_lookup _ fun img => by simp [SnapshotFile.marker, ImgFile.path],
      change.apply_lookup _ fun img => by simp [ImgFile.path]⟩

section Unready
variable (unready : state.isReady clone.volume = false)
include unready

end Unready

end Clone

namespace CloneOfA

def clone : Clone := ⟨Restore.thin "c" 1 (some (.volume, "a")), "a", "default", rfl, rfl⟩

def created : List NodeEvent := .enter (.task (.createVolume (Restore.thin "a" 1 none))) :: moves 0 16 {}

def ended (now : NodeConfig) : Bool :=
  (now.threads[1]?.any fun entry => entry.call = clone.call && entry.program.finished) && now.state.isReady "c"

def permits (now : NodeConfig) (event : NodeEvent) : Bool :=
  clone.turns singlePool now event && now.onStep (fun _ thread operation answer node =>
    clone.step singlePool thread operation answer node) event

def contends (_call : Call) (thread : Nat) (operation : Op) (answer : Answer) (node : Node) : Bool :=
  match operation with
  | .lock (.acquire target) => answer.fails = node.holders.any fun holder => holder.1 = target && holder.2 ≠ thread
  | _ => !answer.fails

def refused : List NodeEvent :=
  created ++ [.enter clone.call] ++ moves 1 41 {} ++
    [.enter (.task (.createSnapshot { volumeId := "a", name := "s", copyOnWrite := false })), .step 2 {},
      .step 1 { fails := true }]

end CloneOfA
end Rawfile
