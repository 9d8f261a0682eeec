import Rawfile.Proofs.Locking

/-! A ready volume stays ready. The only metadata patches that can take the
readiness away are the unlocked first patch of `create_volume` and the patch of
`delete_volume`; all other patches are made under the lock of the volume on
metadata read there. -/

namespace Rawfile
open Effects

variable (volume : VolumeId)

def Call.spares : Call → Bool
  | .deleteVolume other => other ≠ volume
  | .deleteSnapshot snapshotId => (splitId snapshotId).map Prod.fst ≠ some volume
  | _ => true

/-- The first patch of an execution of `create_volume` for the volume. -/
def Call.opens (call : Call) : Op → Bool
  | .file (.installMeta target _ patch) =>
    target = volume && call.created.any fun args => args.volumeId = volume && patch = VolumeManager.openingPatch args
  | _ => false

theorem Meta.merge_isReady (old patch : Meta) : (old.merge patch).isReady = (patch.ready <|> old.ready).getD false := rfl

def readiness : Guarded where
  protect before after := after.isReady volume = true → before.isReady volume = true
  keep _ _ := True
  promise call before after := call.spares volume = true → before.isReady volume = true → after.isReady volume = true
  condition call _ operation _ node :=
    !(call.opens volume operation && node.isReady volume)
  same files _ _ := ⟨fun ready => by rwa [← Node.isReady_congr (by rw [files])], trivial, trivial⟩
  protect_trans first second ready := first (second ready)
  keep_trans _ _ := trivial
  drift change node := ⟨fun ready => by
    rwa [← Node.isReady_congr (Drift.apply_lookup change node (fun img => by simp [ImgFile.path]))], trivial, trivial⟩

abbrev readyRules (config : DriverConfig) := (readiness volume).discipline volume config

namespace Readiness
variable {volume : VolumeId} {config : DriverConfig} {call : Call} {thread : Nat}

def Quiet (volume : VolumeId) (call : Call) (operation : Op) : Prop :=
  ¬ operation.touches (.metaFile volume) ∨
    (∃ old patch, operation = .file (.installMeta volume old patch) ∧ patch.ready = some false ∧
      (call.spares volume = true → call.opens volume operation = true)) ∨
    (call.spares volume = false ∧ ∃ path missingOk, operation = .file (.unlink path missingOk))

theorem quiet_step {operation : Op} (quiet : Quiet volume call operation) (now : Node)
    (valid : (readiness volume).valid volume now) :
    (readyRules volume config).Step call thread operation (fun _ _ => True) now := by
  refine Guarded.step_intro valid fun answer reply after permitted executed => ?_
  have settled : after.isReady volume = now.isReady volume →
      ((readiness volume).protect now after ∨ (volume, thread) ∈ now.holders) ∧ (readiness volume).keep now after ∧
        (readiness volume).promise call now after ∧ True := fun same =>
    ⟨.inl fun ready => by rwa [same] at ready, trivial, fun _ ready => by rwa [same], trivial⟩
  rcases quiet with untouched | ⟨old, patch, rfl, cleared, opens⟩ | ⟨deletes, path, missingOk, rfl⟩
  · exact settled (Node.isReady_congr (Op.exec_frame executed untouched))
  · rcases installMeta_exec (Op.exec_file executed) with installed | unchanged
    · have unready : after.isReady volume = false := by
        simp [Node.isReady, installed, Meta.merge_isReady, cleared]
      refine ⟨.inl fun ready => by simp [unready] at ready, trivial, fun spares ready => ?_, trivial⟩
      simp [readiness, opens spares, ready] at permitted
    · exact settled (Node.isReady_congr (by rw [unchanged]))
  · by_cases touched : path = .metaFile volume
    · subst touched
      rcases unlink_exec (Op.exec_file executed) with unchanged | gone
      · exact settled (Node.isReady_congr (by rw [unchanged]))
      · exact ⟨.inl fun ready => by simp [Node.isReady, Files.metadata, gone] at ready, trivial,
          fun spares => by simp [deletes] at spares, trivial⟩
    · exact settled (Node.isReady_congr (Op.exec_frame executed (Ne.symm touched)))

variable {α : Type} {allowed : Op → Prop} {program : Driver α} {state : Node}

theorem quiet_safe (within : program.Within Op.lawful allowed)
    (quiet : ∀ operation, allowed operation → Quiet volume call operation) :
    (readyRules volume config).Safe call thread (fun _ _ => True) program state :=
  Guarded.safe_of_steps within fun operation issued => quiet_step (quiet operation issued)

theorem quiet_held (within : program.Within Op.lawful allowed)
    (quiet : ∀ operation, allowed operation → Quiet volume call operation ∧ operation ≠ .lock (.release volume))
    (held : (volume, thread) ∈ state.holders) :
    (readyRules volume config).Safe call thread
      (fun _ state => (volume, thread) ∈ state.holders) program state :=
  Guarded.held_of_steps within (fun operation issued now valid _ =>
    quiet_step (quiet operation issued).1 now valid) (fun operation issued => (quiet operation issued).2) held

private theorem metadataOr_held (held : (volume, thread) ∈ state.holders) :
    (readyRules volume config).Safe call thread (fun outcome state =>
      (volume, thread) ∈ state.holders ∧ ∀ data, outcome = .ok data → state.isReady volume = true →
        data.isReady = true) (metadataOr volume) state := by
  refine .tryExcept (.perform fun now relied valid => Guarded.step_intro valid ?_)
  intro answer reply after permitted executed
  obtain ⟨unchanged, found, missing⟩ := readMeta_exec (Op.exec_file executed)
  have same : after.isReady volume = now.isReady volume := Node.isReady_congr (by rw [unchanged])
  have holds := Op.exec_keeps_held executed (by simp) (relied.1.mpr held)
  refine ⟨.inl fun ready => by rwa [same] at ready, trivial, fun _ ready => by rwa [same], ?_⟩
  cases reply with
  | ok data =>
    refine ⟨holds, ?_⟩
    intro other given ready
    cases given
    rw [same, Node.isReady, found data rfl] at ready
    exact ready
  | error error =>
    dsimp only
    split
    · refine ⟨holds, ?_⟩
      intro other given ready
      cases given
      rw [same, Node.isReady, missing rfl] at ready
      cases ready
    · exact ⟨holds, by simp⟩

private theorem patchMetadata_held {pool : PoolName} {patch : Meta} (keeps : patch.ready ≠ some false)
    (held : (volume, thread) ∈ state.holders) :
    (readyRules volume config).Safe call thread
      (fun _ state => (volume, thread) ∈ state.holders) (patchMetadata config volume pool patch) state := by
  refine .bind ((metadataOr_held held).weaken ?_)
  rintro outcome state ⟨held, current⟩
  cases outcome with
  | error error => exact held
  | ok old =>
    refine getVolumePath_safe (fun _ => .perform fun now relied valid => Guarded.step_intro valid ?_) fun _ => held
    intro answer reply after permitted executed
    have holding : (volume, thread) ∈ now.holders := relied.1.mpr held
    refine ⟨.inr holding, trivial, fun _ ready => ?_, Op.exec_keeps_held executed (by simp) holding⟩
    rcases installMeta_exec (Op.exec_file executed) with installed | unchanged
    · have before : old.isReady = true := current old rfl (relied.2.1 held ready)
      simp only [Node.isReady, installed, Option.map_some, Option.getD_some, Meta.merge_isReady]
      cases patched : patch.ready with
      | none => exact before
      | some flag => cases flag <;> simp_all
    · exact (Node.isReady_congr (by rw [unchanged])).trans ready

variable {volume : VolumeId} {config : DriverConfig} {call : Call} {thread : Nat} {state : Node}

private theorem perform_held {operation : Op} (untouched : ¬ operation.touches (.metaFile volume))
    (keeps : operation ≠ .lock (.release volume)) (held : (volume, thread) ∈ state.holders) :
    (readyRules volume config).Safe call thread
      (fun _ state => (volume, thread) ∈ state.holders) (Program.perform operation) state := by
  refine quiet_held (.perform rfl) ?_ held
  rintro _ rfl
  exact ⟨.inl untouched, keeps⟩

private theorem imageOp_held {α : Type} {img : ImgFile} {program : Driver α} (within : program.Within Op.lawful (ImageOp img.path))
    (held : (volume, thread) ∈ state.holders) :
    (readyRules volume config).Safe call thread
      (fun _ state => (volume, thread) ∈ state.holders) program state := by
  refine quiet_held within (fun operation issued => ⟨.inl issued.leaves_metadata, ?_⟩) held
  rintro rfl
  cases issued with
  | looking reads => cases reads

private theorem buildImage_held {args : CreateVolumeArgs} (source : Option RestoreSource)
    (held : (args.volumeId, thread) ∈ state.holders) :
    (readyRules args.volumeId config).Safe call thread (fun _ _ => True)
      (VolumeManager.buildImage config args source) state := by
  refine .after (imageOp_held (VolumeManager.bigEnough_within _ _) held) fun enough state held => ?_
  split
  · trivial
  · refine .after (perform_held (by simp [Op.touches, FileOp.touches]) (by simp) held) fun _ state held => ?_
    refine .after (perform_held (by simp [Op.touches, FileOp.touches]) (by simp) held) fun _ state held => ?_
    refine .after (perform_held (by simp [Op.touches]) (by simp) held) fun createdAt state held => ?_
    refine .after (patchMetadata_held (by simp [VolumeManager.describingPatch]) held) fun _ state held => ?_
    refine .after (imageOp_held (.perform .touch) held) fun _ state held => ?_
    refine .after (imageOp_held (VolumeManager.restore_within _ _ _ _) held) fun built state held => ?_
    refine .after (imageOp_held (growImage_within (.truncate _) (.fallocate _)) held) fun _ state held => ?_
    exact (patchMetadata_held (by simp) held).weaken fun _ _ _ => trivial

theorem locking_step {lock : LockOp} {now : Node} (valid : (readiness volume).valid volume now) :
    (readyRules volume config).Step call thread (.lock lock) (fun _ _ => True) now :=
  quiet_step (.inl (by cases lock <;> simp [Op.touches])) now valid

theorem opening_safe {args : CreateVolumeArgs} (creates : call.created = some args) :
    (readyRules args.volumeId config).Safe call thread (fun _ _ => True)
      (patchMetadata config args.volumeId args.storagePool (VolumeManager.openingPatch args)) state := by
  refine quiet_safe (patchMetadata_within (fun _ reads => .inl (reads.untouched _)) fun old => .inr (.inl ?_))
    fun _ quiet => quiet
  exact ⟨old, _, rfl, rfl, fun _ => by simp [Call.opens, creates]⟩

theorem sourceOp_safe {α : Type} {args : CreateVolumeArgs} {program : Driver α}
    (within : program.Within Op.lawful (SourceOp args)) :
    (readyRules volume config).Safe call thread (fun _ _ => True) program state :=
  quiet_safe within fun _ issued => .inl issued.foreign.1

theorem perform_safe {operation : Op} (untouched : ¬ operation.touches (.metaFile volume)) :
    (readyRules volume config).Safe call thread (fun _ _ => True) (Program.perform operation) state := by
  refine quiet_safe (.perform rfl) ?_
  rintro _ rfl
  exact .inl untouched

theorem createVolume_safe {args : CreateVolumeArgs} (creates : call.created = some args) :
    (readyRules volume config).Safe call thread (fun _ _ => True)
      (VolumeManager.createVolume config args) state := by
  by_cases same : args.volumeId = volume
  · subst same
    unfold VolumeManager.createVolume
    split
    · trivial
    · refine getVolumePath_safe (fun _ => ?_) fun _ => trivial
      refine .after (perform_safe (by simp [Op.touches, FileOp.touches])) fun _ state _ => ?_
      refine .after (perform_safe (by simp [Op.touches, FileOp.touches])) fun _ state _ => ?_
      refine .after (opening_safe creates) fun _ state _ => ?_
      refine .andFinally (fun _ => True) ?_ (fun _ _ => sourceOp_safe (VolumeManager.removeCloneSource_within config args))
        fun _ _ => trivial
      refine .after (sourceOp_safe (VolumeManager.findSource_within config args)) fun source state _ => ?_
      exact Guarded.withVolLock_safe (fun _ _ valid _ => locking_step valid)
        (fun state held => buildImage_held source held) fun _ _ => trivial
  · exact quiet_safe (VolumeManager.createVolume_within config args) fun _ issued => .inl (issued.foreign same).1

theorem reading_held {α : Type} {program : Driver α} (within : program.Within Op.lawful Op.reads)
    (held : (volume, thread) ∈ state.holders) :
    (readyRules volume config).Safe call thread
      (fun _ state => (volume, thread) ∈ state.holders) program state := by
  refine quiet_held within (fun operation reads => ⟨.inl (reads.untouched _), ?_⟩) held
  rintro rfl
  cases reads

theorem expandRawFile_safe (target : VolumeId) (newSize : Int) :
    (readyRules volume config).Safe call thread (fun _ _ => True)
      (Internal.expandRawFile config target newSize) state := by
  by_cases same : target = volume
  · subst same
    refine Guarded.withVolLock_safe (fun _ _ valid _ => locking_step valid) (fun state held => ?_)
      fun _ _ => trivial
    have answering : ∀ exhausted state, (target, thread) ∈ state.holders →
        (readyRules target config).Safe call thread (fun _ _ => True)
          (Internal.answered config target exhausted) state := fun exhausted state held =>
      (reading_held (.bind (isAttached_within (fun _ reads => reads) _ _) fun _ => .pure _) held).weaken
        fun _ _ _ => trivial
    refine .after (reading_held (imgFile_within (fun _ reads => reads) _) held) fun img state held => ?_
    refine .after (reading_held (imgSize_within (fun _ reads => reads) _) held) fun size state held => ?_
    dsimp only
    split
    · exact answering _ _ held
    · refine .after (reading_held (metadata_within (fun _ reads => reads) _) held) fun data state held => ?_
      refine .after (reading_held (Internal.requiredSpace_within _ _ _ _) held) fun required state held => ?_
      refine .after (reading_held (need_within _ _) held) fun pool state held => ?_
      refine .after (reading_held (getCapacity_within (fun _ reads => reads) _ _) held) fun capacity state held => ?_
      split
      · exact answering _ _ held
      · refine .after (imageOp_held (growImage_within (.truncate _) (.fallocate _)) held) fun _ state held => ?_
        refine .after (patchMetadata_held (by simp) held) fun _ state held => ?_
        exact answering _ _ held
  · exact quiet_safe (Internal.expandRawFile_within config target newSize) fun _ issued =>
      .inl (issued.foreign same).1

theorem taskingOp_safe {α : Type} {program : Driver α} (within : program.Within Op.lawful TaskingOp) :
    (readyRules volume config).Safe call thread (fun _ _ => True) program state := by
  exact quiet_safe within fun _ issued => .inl issued.foreign.1

theorem taskBody_safe {task : TaskCall} (creates : ∀ args, task = .createVolume args → call.created = some args) :
    (readyRules volume config).Safe call thread (fun _ _ => True)
      (TaskManager.taskBody config task) state := by
  cases task with
  | createVolume args => exact createVolume_safe (creates args rfl)
  | createSnapshot args =>
    exact quiet_safe (TaskManager.taskBody_within config (.createSnapshot args)) fun _ issued =>
      .inl (CreateSnapshotOp.foreign issued).1

/-- No call takes readiness from a volume. -/
theorem call_safe (call : Call) :
    (readyRules volume config).Safe call thread (fun _ _ => True) (call.program config) state := by
  have within := call.program_within config
  cases call with
  | createVolume | start | workerRound | shutdown | createSnapshot | nodeStageVolume =>
    exact quiet_safe within fun _ issued => .inl fun touched => Call.writes_of_touches touched trivial issued
  | deleteVolume target =>
    refine quiet_safe within fun operation issued => ?_
    cases issued with
    | collecting issued =>
      rcases issued.leaves_metadata volume with untouched | ⟨rfl, removes⟩
      · exact .inl untouched
      · exact .inr (.inr ⟨by simp [Call.spares], removes⟩)
    | deleting old now =>
      by_cases same : target = volume
      · exact .inr (.inl ⟨old, _, by rw [same], rfl, by simp [Call.spares, same]⟩)
      · exact .inl (by simp [Op.touches, FileOp.touches, Ne.symm same])
  | deleteSnapshot snapshotId =>
    refine quiet_safe within fun operation issued => ?_
    obtain ⟨target, name, split, issued | issued⟩ := issued
    · exact .inl issued.create.foreign.1
    · rcases issued.leaves_metadata volume with untouched | ⟨rfl, removes⟩
      · exact .inl untouched
      · exact .inr (.inr ⟨by simp [Call.spares, split], removes⟩)
  | expandRawFile target newSize =>
    exact .after (expandRawFile_safe target newSize) fun _ _ _ => trivial
  | task task => exact taskBody_safe (by rintro args rfl; rfl)
  | future index task =>
    exact @runFuture_safe _ _ _ _ (fun _ => True) (fun within _ => taskingOp_safe within) _
      (fun _ _ => taskBody_safe (by rintro args rfl; rfl)) index state trivial

end Readiness

/-- The steps of a run meet two conditions for the volume: its lock is granted
only while nobody holds it, and the first patch of `create_volume`, which no
lock covers, is not made while the volume is ready. -/
def undisturbed (call : Call) (_thread : Nat) (operation : Op) (answer : Answer) (node : Node) : Bool :=
  operation.excludes volume answer node &&
    !(call.opens volume operation && node.isReady volume)

private theorem readiness_covers (config : DriverConfig) :
    (readyRules volume config).Covers
      (fun now event => now.onStep (undisturbed volume) event = true) :=
  Guarded.covers (fun _ _ permitted => permitted) (fun _ call _ _ _ _ => Readiness.call_safe call)
    (fun _ _ _ owned => by cases owned) fun _ _ _ => trivial

/-- From any state the run reaches in which a volume is ready, the volume stays
ready until its deletion is requested, as long as the run is undisturbed. -/
theorem ready_until_deleted (config : DriverConfig) (volume : VolumeId) {before after : NodeConfig}
    (reached : (nodePlugin config).Reaches (fun now event => now.onStep (undisturbed volume) event = true)
      NodeConfig.initial before)
    (ready : before.state.isReady volume = true) (spared : before.only (Call.spares volume) = true)
    (later : (nodePlugin config).Reaches (fun now event => (now.onStep (undisturbed volume) event &&
      event.begins (Call.spares volume)) = true) before after) : after.state.isReady volume = true := by
  have covers := readiness_covers volume config
  refine Guarded.preserved (fun node => node.isReady volume = true) covers
    (covers.reaches reached (Guarded.holds_idle rfl trivial)) spared later ?_ ?_ ?_ ready
  · exact fun call _ _ spares promised => promised spares
  · exact fun files _ ready => (Node.isReady_congr (by rw [files])).trans ready
  · exact fun change node ready => (Node.isReady_congr
      (change.apply_lookup node fun img => by simp [ImgFile.path])).trans ready

namespace Readiness

/-- A ready volume is expanded while its creation task is still unfinished. -/
theorem ready_until_deleted_expanding : ∃ before after : NodeConfig, before.state.isReady "v" = true ∧
    (nodePlugin singlePool).Reaches (fun now event => (now.onStep (undisturbed "v") event &&
      event.begins (Call.spares "v")) = true) before after ∧ after.state.isReady "v" = true := by
  obtain ⟨before, after, reached, tested, later, -⟩ := @Machine.two_parts _ _ _ _ _ _ _ (nodePlugin singlePool)
    (fun now event => now.onStep (undisturbed "v") event)
    (fun now event => now.onStep (undisturbed "v") event && event.begins (Call.spares "v"))
    (fun now => now.state.isReady "v" && now.only (Call.spares "v"))
    (fun _ => true)
    thinCreated ([.step 2 {}, .enter (.expandRawFile "v" 16777217)] ++ moves 3 10 { amount := 1 }) NodeConfig.initial
    (by decide +kernel)
  obtain ⟨ready, spared⟩ := Bool.and_eq_true_iff.mp tested
  exact ⟨before, after, ready, later, ready_until_deleted singlePool "v" reached ready spared later⟩

/-- The process dies before the task is recorded as completed, so the worker
runs it again after the restart. -/
def retried : List NodeEvent :=
  [.crash, .enter .start] ++ moves 0 3 {} ++ [.enter .workerRound] ++ moves 1 8 {} ++
    [.enter (.future 0 thinCreation)] ++ moves 2 5 {}

/-- The retried task takes the readiness of a volume nobody asked to delete. -/
theorem ready_lost_by_retry :
    ((nodePlugin singlePool).run thinCreated NodeConfig.initial).map (fun now => now.state.isReady "v") = some true ∧
    ((nodePlugin singlePool).run (thinCreated ++ retried) NodeConfig.initial).map (fun now => now.state.isReady "v") =
      some false ∧
    (thinCreated ++ retried).all (Event.begins (Call.spares "v")) = true := by
  decide +kernel

end Readiness
end Rawfile
