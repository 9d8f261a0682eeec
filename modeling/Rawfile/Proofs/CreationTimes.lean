import Rawfile.Proofs.Attachment
import Rawfile.Proofs.Snapshots

/-! The creation time of a snapshot. It is the time its inode last changed, and
`update_metadata` first changes the permissions of every file below the volume's
directory, so every record of the volume that is written renews it. -/

namespace Rawfile
open Effects

/-- What renews `st_ctime` of a snapshot's file: a call on the file itself, and
the `chmod` before a record of its volume is written in its pool. -/
def Op.restamps (file : SnapshotFile) : Op → Prop
  | .file (.installMeta volume old patch) => volume = file.volume ∧ (old.merge patch).storagePool = some file.pool
  | operation => operation.touches file.path

/-- An event of the plugin, or the migration of a volume's record before it serves. -/
inductive Happening where
  | plugin (event : NodeEvent)
  | migrate (volume : VolumeId) (data : Meta)

namespace Happening

def next (config : DriverConfig) : Happening → NodeConfig → Option NodeConfig
  | .plugin event, now => (nodePlugin config).next event now
  | .migrate volume data, now =>
    (now.state.files.write (.metaFile volume) (.json data)).toOption.map fun files =>
      { now with state := { now.state with files } }

def restamps (file : SnapshotFile) (now : NodeConfig) : Happening → Prop
  | .plugin (.step thread _) => ∃ call operation next,
    now.threads[thread]? = some ⟨call, .request operation next⟩ ∧ operation.restamps file
  | .plugin _ => False
  | .migrate volume data => volume = file.volume ∧ data.storagePool = some file.pool

end Happening

inductive Dated (config : DriverConfig) (file : SnapshotFile) (allowed : NodeConfig → Happening → Bool) :
    NodeConfig × Nat → NodeConfig × Nat → Prop
  | start (first : NodeConfig × Nat) : Dated config file allowed first first
  | step {first : NodeConfig × Nat} {before after : NodeConfig} {time later : Nat} {change : Happening}
      (run : Dated config file allowed first (before, time)) (permitted : allowed before change = true)
      (moved : change.next config before = some after) (renewed : change.restamps file before → time < later)
      (kept : ¬change.restamps file before → later = time) : Dated config file allowed first (after, later)

def Happening.spares (file : SnapshotFile) (_ : NodeConfig) : Happening → Bool
  | .plugin event => event.begins fun call => !call.recreates file
  | .migrate .. => true

def Happening.unrecorded (file : SnapshotFile) (now : NodeConfig) : Happening → Bool
  | .plugin event => now.onStep (fun _ _ operation _ _ => !operation.installs file.volume) event
  | .migrate volume _ => volume ≠ file.volume

section
variable {config : DriverConfig} {file : SnapshotFile}

def Following (now : NodeConfig) : Prop :=
  ∀ thread ∈ now.threads, thread.program.Within Op.lawful thread.call.footprint

theorem Following.next {before after : NodeConfig} {change : Happening} (following : Following before)
    (moved : change.next config before = some after) : Following after := by
  cases change with
  | migrate volume data =>
    obtain ⟨files, -, rfl⟩ := Option.map_eq_some_iff.mp moved
    exact following
  | plugin event =>
    cases (nodePlugin config).next_moves moved with
    | @enter call _ _ entered =>
      rw [(nodePlugin_enter entered).2]
      exact forall_mem_snoc following (call.program_within config)
    | @step _ _ _ _ _ reply _ found answered =>
      refine forall_mem_set following ?_
      exact (following _ (List.mem_of_getElem? found)).2 reply (nodePlugin_lawful answered)
    | crash =>
      intro thread member
      cases member
    | drift => exact following

private theorem Dated.following {allowed : NodeConfig → Happening → Bool} {first last : NodeConfig × Nat}
    (run : Dated config file allowed first last) (following : Following first.1) : Following last.1 := by
  induction run with
  | start => exact following
  | step _ _ moved _ _ ih => exact ih.next moved

private theorem unrecorded_kept {before : NodeConfig} {change : Happening} (following : Following before)
    (only : before.only (fun call => !call.recreates file) = true) (unrecorded : change.unrecorded file before = true) :
    ¬change.restamps file before := by
  cases change with
  | migrate volume data =>
    rintro ⟨same, -⟩
    simp [Happening.unrecorded, same] at unrecorded
  | plugin event =>
    cases event with
    | step thread answer =>
      rintro ⟨call, operation, next, found, restamps⟩
      have other : call.recreates file = false := by simpa using Config.only_found only found
      have issued := (following _ (List.mem_of_getElem? found)).1
      rw [Happening.unrecorded, Config.onStep_found found] at unrecorded
      have untouched := (Call.skips issued other).1
      unfold Op.restamps at restamps
      split at restamps
      next => simp [Op.installs, restamps.1] at unrecorded
      next => exact untouched restamps
    | _ => exact id

/-- From any state of a run, the creation time of a snapshot stays while it is not
made again or deleted and no record of its volume is written. -/
theorem creation_time_kept (config : DriverConfig) (file : SnapshotFile) {first last : NodeConfig × Nat}
    (reached : Dated config file (fun _ _ => true) (NodeConfig.initial, 0) first)
    (only : first.1.only (fun call => !call.recreates file) = true)
    (run : Dated config file (fun now change => change.spares file now && change.unrecorded file now) first last) :
    last.2 = first.2 := by
  have following : Following first.1 := reached.following (by intro thread member; cases member)
  suffices both : last.2 = first.2 ∧ last.1.only (fun call => !call.recreates file) = true from both.1
  induction run with
  | start => exact ⟨rfl, only⟩
  | @step before after time later change run permitted moved _ kept ih =>
    obtain ⟨spares, unrecorded⟩ := Bool.and_eq_true_iff.mp permitted
    obtain ⟨same, before_only⟩ := ih
    refine ⟨(kept (unrecorded_kept (run.following following) before_only unrecorded)).trans same, ?_⟩
    cases change with
    | plugin event => exact Machine.only_next before_only spares moved
    | migrate volume data =>
      obtain ⟨files, -, rfl⟩ := Option.map_eq_some_iff.mp moved
      exact before_only

/-- Every run of the plugin can be dated. -/
theorem dated_of_reaches {allowed : NodeConfig → Happening → Bool} {before after : NodeConfig}
    (reaches : (nodePlugin config).Reaches (fun now event => allowed now (.plugin event) = true) before after)
    (time : Nat) : ∃ later, time ≤ later ∧ Dated config file allowed (before, time) (after, later) := by
  induction reaches with
  | refl => exact ⟨time, Nat.le_refl _, .start _⟩
  | @tail middle after _ step ih =>
    obtain ⟨reached, bound, run⟩ := ih
    obtain ⟨event, permitted, moved⟩ := step
    by_cases restamps : (Happening.plugin event).restamps file middle
    · exact ⟨reached + 1, by omega, .step run permitted moved (fun _ => Nat.lt_succ_self _) (absurd restamps)⟩
    · exact ⟨reached, bound, .step run permitted moved (fun stamped => absurd stamped restamps) fun _ => rfl⟩

end

namespace CreationTime
open Immutability

def file : SnapshotFile := ⟨"default", "v", false, "s"⟩

def interrupted : List NodeEvent := cut ++ [.crash, .enter .start] ++ moves 0 3 {}

/-- Another snapshot of the volume is asked for. -/
theorem creation_time_kept_asking : ∃ first last : NodeConfig × Nat,
    Dated singlePool file (fun _ _ => true) (NodeConfig.initial, 0) first ∧
    ofV.ready first.1.state ≠ none ∧
    Dated singlePool file (fun now change => change.spares file now && change.unrecorded file now) first last ∧
    last.2 = first.2 := by
  obtain ⟨before, after, reached, tested, later, -⟩ := @Machine.two_parts _ _ _ _ _ _ _ (nodePlugin singlePool)
    (fun _ _ => true)
    (fun now event => (Happening.plugin event).spares file now && (Happening.plugin event).unrecorded file now)
    (fun now => (ofV.ready now.state).isSome && now.only (fun call => !call.recreates file)) (fun _ => true)
    interrupted ([.enter (.createSnapshot ⟨"v", "t"⟩)] ++ moves 1 12 {}) NodeConfig.initial (by decide +kernel)
  obtain ⟨ready, only⟩ := Bool.and_eq_true_iff.mp tested
  obtain ⟨time, -, first⟩ := @dated_of_reaches singlePool file (fun _ _ => true) _ _ reached 0
  obtain ⟨again, -, second⟩ := @dated_of_reaches singlePool file
    (fun now change => change.spares file now && change.unrecorded file now) _ _ later time
  refine ⟨(before, time), (after, again), first, ?_, second, creation_time_kept singlePool file first only second⟩
  intro missing
  rw [missing] at ready
  cases ready

def records : Op → Bool
  | .file (.installMeta volume old patch) => volume = file.volume && (old.merge patch).storagePool = some file.pool
  | _ => false

private theorem records_restamps {operation : Op} (recording : records operation = true) : operation.restamps file := by
  unfold records at recording
  split at recording
  next volume old patch =>
    obtain ⟨same, pool⟩ := Bool.and_eq_true_iff.mp recording
    exact ⟨of_decide_eq_true same, of_decide_eq_true pool⟩
  next => cases recording

/-- The volume is expanded: the snapshot was made before and not again, but its
creation time is another one. -/
theorem creation_time_renewed : ∃ (before after : NodeConfig) (time later : Nat),
    Dated singlePool file (fun _ _ => true) (NodeConfig.initial, 0) (before, time) ∧
    (ofV.ready before.state).isSome = true ∧ before.only (fun call => !call.recreates file) = true ∧
    Dated singlePool file (fun now change => change.spares file now) (before, time) (after, later) ∧
    (ofV.ready after.state).isSome = true ∧ time < later := by
  obtain ⟨before, last, reached, tested, later, ended⟩ := @Machine.two_parts _ _ _ _ _ _ _ (nodePlugin singlePool)
    (fun _ _ => true) (fun now event => (Happening.plugin event).spares file now)
    (fun now => (ofV.ready now.state).isSome && now.only (fun call => !call.recreates file))
    (fun now => now.onStep (fun _ _ operation _ _ => records operation) (Event.step 1 {} : NodeEvent) &&
      ((nodePlugin singlePool).next (.step 1 {}) now).any fun after => (ofV.ready after.state).isSome)
    interrupted ([.enter (.expandRawFile "v" 16777217)] ++ moves 1 7 { amount := 1 }) NodeConfig.initial
    (by decide +kernel)
  obtain ⟨ready, only⟩ := Bool.and_eq_true_iff.mp tested
  obtain ⟨recording, moves⟩ := Bool.and_eq_true_iff.mp ended
  obtain ⟨after, moved, kept⟩ := (Option.any_eq_true _ _).mp moves
  obtain ⟨time, -, first⟩ := @dated_of_reaches singlePool file (fun _ _ => true) _ _ reached 0
  obtain ⟨again, bound, second⟩ := @dated_of_reaches singlePool file (fun now change => change.spares file now) _ _
    later time
  have restamps : (Happening.plugin (.step 1 {})).restamps file last := by
    cases Machine.next_moves _ moved with
    | @step _ _ call operation next _ _ found =>
      rw [Config.onStep_found found] at recording
      exact ⟨call, operation, next, found, records_restamps recording⟩
  have third := @Dated.step singlePool file (fun now change => change.spares file now) _ last after again (again + 1)
    (.plugin (.step 1 {})) second rfl moved (fun _ => Nat.lt_succ_self _) (absurd restamps)
  exact ⟨before, after, time, again + 1, first, ready, only, third, kept, by omega⟩

end CreationTime
end Rawfile
