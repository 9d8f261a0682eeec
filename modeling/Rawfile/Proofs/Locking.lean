import Rawfile.Effects.Discipline
import Rawfile.Proofs.CallFootprint

/-! Runs in which the lock of one volume excludes. What the lock protects
changes only by the hand of its holder, so a thread that holds the lock can
rely on it; everything else is promised step by step. -/

namespace Rawfile
open Effects

def Exclusive (volume : VolumeId) (node : Node) : Prop :=
  ∀ first second, (volume, first) ∈ node.holders → (volume, second) ∈ node.holders → first = second

def Op.excludes (volume : VolumeId) (operation : Op) (answer : Answer) (node : Node) : Bool :=
  match operation with
  | .lock (.acquire wanted) =>
    wanted ≠ volume || answer.fails || node.holders.all (fun holder => holder.1 ≠ volume)
  | _ => true

section
variable {volume : VolumeId} {thread : Nat} {operation : Op} {answer : Answer} {node : Node}

theorem Op.exec_others {other : Nat} (different : other ≠ thread) :
    (volume, other) ∈ (operation.exec thread answer node).2.holders ↔ (volume, other) ∈ node.holders := by
  cases operation with
  | lock operation => exact operation.exec_holders thread answer node (.inl different)
  | _ => rfl

theorem Op.exec_keeps_held {after : Node} {reply : Except Err operation.Reply}
    (executed : operation.exec thread answer node = (reply, after)) (releases : operation ≠ .lock (.release volume))
    (held : (volume, thread) ∈ node.holders) : (volume, thread) ∈ after.holders := by
  have same : (operation.exec thread answer node).2 = after := by rw [executed]
  rw [← same]
  cases operation with
  | lock operation =>
    cases operation with
    | acquire wanted =>
      simp only [Op.exec, LockOp.exec]
      split
      · exact held
      · split
        · exact held
        · exact List.mem_cons_of_mem _ held
    | release wanted =>
      refine (LockOp.exec_holders thread answer node (.release wanted) (.inr ⟨by simp, ?_⟩)).mpr held
      rintro same
      exact releases (by rw [same])
  | _ => exact held

private theorem Op.excludes_vacant (excludes : (Op.lock (.acquire volume)).excludes volume answer node = true)
    (granted : answer.fails = false) (holder : Nat) : (volume, holder) ∉ node.holders := by
  intro held
  simp only [Op.excludes, granted, ne_eq, not_true_eq_false, decide_false, Bool.or_self, Bool.false_or] at excludes
  simpa using List.all_eq_true.mp excludes _ held

theorem Op.acquired_holder {holder : Nat} (before : (volume, holder) ∉ node.holders)
    (held : (volume, holder) ∈ (operation.exec thread answer node).2.holders) :
    operation = .lock (.acquire volume) ∧ answer.fails = false := by
  cases operation with
  | lock operation =>
    cases operation with
    | acquire wanted =>
      simp only [Op.exec, LockOp.exec] at held
      split at held
      · exact absurd held before
      · split at held
        · exact absurd held before
        next granted =>
          rcases List.mem_cons.mp held with same | held
          · cases same
            exact ⟨rfl, by simpa using granted⟩
          · exact absurd held before
    | release wanted => exact absurd (List.mem_filter.mp held).1 before
  | _ => exact absurd held before

theorem Exclusive.exec (exclusive : Exclusive volume node) (excludes : operation.excludes volume answer node = true) :
    Exclusive volume (operation.exec thread answer node).2 := by
  by_cases acquires : operation = .lock (.acquire volume) ∧ answer.fails = false
  · have vacant := Op.excludes_vacant (acquires.1 ▸ excludes) acquires.2
    have only : ∀ other, (volume, other) ∈ (operation.exec thread answer node).2.holders → other = thread := by
      intro other held
      by_contra different
      exact vacant other ((Op.exec_others different).mp held)
    intro first second one two
    rw [only first one, only second two]
  · have before (other : Nat) (held : (volume, other) ∈ (operation.exec thread answer node).2.holders) :
        (volume, other) ∈ node.holders := by
      by_contra missing
      exact acquires (Op.acquired_holder missing held)
    exact fun first second one two => exclusive first second (before first one) (before second two)

theorem LockOp.acquire_held {after : Node} {reply : Unit}
    (acquired : (LockOp.acquire volume).exec thread answer node = (.ok reply, after)) :
    (volume, thread) ∈ after.holders := by
  simp only [LockOp.exec] at acquired
  split at acquired
  · cases acquired
  · split at acquired
    · cases acquired
    · cases acquired
      simp

end

theorem getVolumePath_safe {α : Type} {config : DriverConfig} {discipline : Discipline (nodePlugin config)}
    {settings : DriverConfig} {call : Call} {thread : Nat} {pool : PoolName} {volume : VolumeId}
    {next : Path → Driver α} {post : Except Err α → Node → Prop} {state : Node}
    (rest : pool ∈ settings.storagePools → discipline.Safe call thread post (next (.volumeDir pool volume)) state)
    (failing : pool ∉ settings.storagePools → post (.error (.keyError pool)) state) :
    discipline.Safe call thread post (getVolumePath settings pool volume >>= next) state := by
  unfold getVolumePath
  by_cases known : pool ∈ settings.storagePools
  · rw [if_pos known]
    exact rest known
  · rw [if_neg known]
    exact failing known

section
variable {α β : Type} {config : DriverConfig} {discipline : Discipline (nodePlugin config)} {call : Call} {thread : Nat}
  {key : String} {value : Option β} {state : Node}

theorem need_ends {post : Except Err β → Node → Prop} (rest : ∀ found, value = some found → post (.ok found) state)
    (failing : value = none → post (.error (.keyError key)) state) :
    discipline.Safe call thread post (need key value) state := by
  cases value with
  | some found => exact rest found rfl
  | none => exact failing rfl

theorem need_safe {next : β → Driver α} {post : Except Err α → Node → Prop}
    (rest : ∀ found, value = some found → discipline.Safe call thread post (next found) state)
    (failing : value = none → post (.error (.keyError key)) state) :
    discipline.Safe call thread post (need key value >>= next) state :=
  .bind (need_ends rest failing)

end

theorem runFuture_safe {config : DriverConfig} {discipline : Discipline (nodePlugin config)} {call : Call}
    {thread : Nat} {keep : Node → Prop}
    (tasking : ∀ {α : Type} {program : Driver α} {state}, program.Within Op.lawful TaskingOp → keep state →
      discipline.Safe call thread (fun _ state => keep state) program state)
    {task : TaskCall} (body : ∀ state, keep state →
      discipline.Safe call thread (fun _ state => keep state) (TaskManager.taskBody config task) state)
    (index : Nat) {state : Node} (initial : keep state) :
    discipline.Safe call thread (fun _ state => keep state) (TaskManager.runFuture config index task) state := by
  refine .andThen (tasking (.perform (.task _)) initial) (fun begun state kept => ?_) fun _ _ kept => kept
  split
  · refine .andThen (.attempt (body state kept)) (fun outcome state kept => tasking ?_ kept) fun _ _ kept => kept
    refine .bind (.perform (.task _)) fun callback => ?_
    split
    · exact TaskManager.invokeCallback_within _
    · exact .pure _
  · exact kept

/-- What a lock protects, what every step keeps, what a call promises of its
own steps, and the condition put on the steps of a run. An invariant holds in
every state once it holds in the first. Some calls may own a part of the node:
they are under way one at a time, and nobody else changes that part. -/
structure Guarded where
  protect : Node → Node → Prop
  keep : Node → Node → Prop
  promise : Call → Node → Node → Prop
  condition : Call → Nat → Op → Answer → Node → Bool
  invariant : Node → Prop := fun _ => True
  stable : ∀ {before after : Node}, keep before after → invariant before → invariant after := by
    intros; trivial
  owns : Call → Bool := fun _ => false
  own : Node → Node → Prop := fun _ _ => True
  owning : ∀ {call before after}, promise call before after → owns call = false → own before after := by
    intros; trivial
  same : ∀ {before after : Node}, after.files = before.files → after.devices = before.devices →
    after.holders = before.holders → protect before after ∧ keep before after ∧ own before after
  protect_trans : ∀ {first second third}, protect first second → protect second third → protect first third
  keep_trans : ∀ {first second third}, keep first second → keep second third → keep first third
  own_trans : ∀ {first second third}, own first second → own second third → own first third := by
    intros; trivial
  drift : ∀ (change : Drift) (node : Node), protect node (change.apply node) ∧ keep node (change.apply node) ∧
    own node (change.apply node)

namespace Guarded
variable (guarded : Guarded) (volume : VolumeId) (config : DriverConfig)

def valid (node : Node) : Prop := Exclusive volume node ∧ guarded.invariant node

def permits (call : Call) (thread : Nat) (operation : Op) (answer : Answer) (node : Node) : Bool :=
  operation.excludes volume answer node && guarded.condition call thread operation answer node

def discipline : Discipline (nodePlugin config) where
  permits call thread operation answer node := guarded.permits volume call thread operation answer node = true
  valid := guarded.valid volume
  guarantee call thread before after :=
    (∀ other, other ≠ thread → ((volume, other) ∈ after.holders ↔ (volume, other) ∈ before.holders)) ∧
      (guarded.protect before after ∨ (volume, thread) ∈ before.holders) ∧
      guarded.keep before after ∧ guarded.promise call before after
  rely call thread before after :=
    ((volume, thread) ∈ after.holders ↔ (volume, thread) ∈ before.holders) ∧
      ((volume, thread) ∈ before.holders → guarded.protect before after) ∧ guarded.keep before after ∧
      (guarded.owns call = true → guarded.own before after)
  together call other := ¬ (guarded.owns call = true ∧ guarded.owns other = true)
  absent thread node := (volume, thread) ∉ node.holders
  rely_refl call thread state :=
    have same := @guarded.same state state rfl rfl rfl
    ⟨Iff.rfl, fun _ => same.1, same.2.1, fun _ => same.2.2⟩
  rely_trans first second :=
    ⟨second.1.trans first.1,
      fun held => guarded.protect_trans (first.2.1 held) (second.2.1 (first.1.mpr held)),
      guarded.keep_trans first.2.2.1 second.2.2.1,
      fun owned => guarded.own_trans (first.2.2.2 owned) (second.2.2.2 owned)⟩
  compatible {call other thread otherThread before after} valid promised different together := by
    refine ⟨promised.1 otherThread (Ne.symm different), fun held => ?_, promised.2.2.1, fun owned => ?_⟩
    · rcases promised.2.1 with secured | holding
      · exact secured
      · exact absurd (valid.1 thread otherThread holding held) different
    · refine guarded.owning promised.2.2.2 ?_
      by_contra both
      exact together ⟨by simpa using both, owned⟩
  absent_kept promised different absent held := absent ((promised.1 _ different).mp held)

variable {guarded volume config} {call : Call} {thread : Nat} {operation : Op} {now : Node}

theorem step_intro {post : Except Err operation.Reply → Node → Prop} (valid : guarded.valid volume now)
    (effect : ∀ answer reply after, guarded.condition call thread operation answer now = true →
      operation.exec thread answer now = (reply, after) →
      (guarded.protect now after ∨ (volume, thread) ∈ now.holders) ∧ guarded.keep now after ∧
        guarded.promise call now after ∧ post reply after) :
    (guarded.discipline volume config).Step call thread operation post now := by
  intro answer reply after permitted answered
  have executed := (nodePlugin_exec answered).2
  obtain ⟨excludes, condition⟩ := Bool.and_eq_true_iff.mp permitted
  obtain ⟨secured, kept, promised, reached⟩ := effect answer reply after condition executed
  refine ⟨⟨fun other different => ?_, secured, kept, promised⟩, ⟨?_, guarded.stable kept valid.2⟩, reached⟩
  · have others : (volume, other) ∈ (operation.exec thread answer now).2.holders ↔ (volume, other) ∈ now.holders :=
      Op.exec_others different
    rwa [executed] at others
  · have still : Exclusive volume (operation.exec thread answer now).2 := valid.1.exec excludes
    rwa [executed] at still

section
variable {α : Type} {allowed : Op → Prop} {program : Driver α} {state : Node}

theorem safe_of_steps (within : program.Within Op.lawful allowed)
    (steps : ∀ operation, allowed operation → ∀ now, guarded.valid volume now →
      (guarded.discipline volume config).Step call thread operation (fun _ _ => True) now) :
    (guarded.discipline volume config).Safe call thread (fun _ _ => True) program state :=
  .ofWithin (fun _ => True) within nodePlugin_lawful
    (fun operation issued _ _ now _ valid => steps operation issued now valid) (fun _ _ _ => trivial) trivial

/-- A program of operations that keep the promises while the lock is held, and do not release it. -/
theorem held_of_steps (within : program.Within Op.lawful allowed)
    (steps : ∀ operation, allowed operation → ∀ now, guarded.valid volume now → (volume, thread) ∈ now.holders →
      (guarded.discipline volume config).Step call thread operation (fun _ _ => True) now)
    (keeps : ∀ operation, allowed operation → operation ≠ .lock (.release volume))
    (held : (volume, thread) ∈ state.holders) :
    (guarded.discipline volume config).Safe call thread (fun _ state => (volume, thread) ∈ state.holders)
      program state := by
  refine .ofWithin (fun state => (volume, thread) ∈ state.holders) within nodePlugin_lawful ?_
    (fun _ _ held => held) held
  intro operation issued state held now relied valid answer reply after permitted answered
  have holding : (volume, thread) ∈ now.holders := relied.1.mpr held
  obtain ⟨kept, still, -⟩ := steps operation issued now valid holding answer reply after permitted answered
  exact ⟨kept, still, Op.exec_keeps_held (nodePlugin_exec answered).2 (keeps operation issued) holding⟩

end

/-- A body that runs while the lock is held. What every step keeps is still
known of its value after the release. -/
theorem withVolLock_learns {α : Type} {fact : α → Node → Prop} {body : Driver α} {state : Node}
    (locking : ∀ lock now, guarded.valid volume now → (lock = .acquire volume ∨ lock = .release volume) →
      (guarded.discipline volume config).Step call thread (.lock lock) (fun _ _ => True) now)
    (inside : ∀ state, (volume, thread) ∈ state.holders → (guarded.discipline volume config).Safe call thread
      (fun outcome state => ∀ value, outcome = .ok value → fact value state) body state)
    (stays : ∀ value before after, guarded.keep before after → fact value before → fact value after) :
    (guarded.discipline volume config).Safe call thread
      (fun outcome state => ∀ value, outcome = .ok value → fact value state) (withVolLock volume body) state := by
  refine .bind (.perform fun now relied valid => ?_)
  intro answer reply after permitted answered
  obtain ⟨kept, still, -⟩ := locking _ now valid (.inl rfl) answer reply after permitted answered
  refine ⟨kept, still, ?_⟩
  cases reply with
  | error error => exact fun value same => by cases same
  | ok value =>
    have held : (volume, thread) ∈ after.holders := LockOp.acquire_held (nodePlugin_exec answered).2
    refine .tryFinally ((inside after held).weaken fun outcome state learnt => ?_)
    refine .perform fun now relied valid answer reply after permitted answered => ?_
    obtain ⟨kept, still, -⟩ := locking _ now valid (.inr rfl) answer reply after permitted answered
    refine ⟨kept, still, ?_⟩
    cases reply with
    | error error => exact fun value same => by cases same
    | ok _ =>
      exact fun value same => stays value now after kept.2.2.1 (stays value state now relied.2.2.1 (learnt value same))

/-- A body that runs while the lock is held. -/
theorem withVolLock_safe {α : Type} {post : Except Err α → Node → Prop} {body : Driver α} {state : Node}
    (locking : ∀ lock now, guarded.valid volume now → (lock = .acquire volume ∨ lock = .release volume) →
      (guarded.discipline volume config).Step call thread (.lock lock) (fun _ _ => True) now)
    (inside : ∀ state, (volume, thread) ∈ state.holders →
      (guarded.discipline volume config).Safe call thread (fun _ _ => True) body state)
    (finish : ∀ outcome state, post outcome state) :
    (guarded.discipline volume config).Safe call thread post (withVolLock volume body) state :=
  (@withVolLock_learns _ _ _ _ _ α (fun _ _ => True) body state locking
    (fun state held => (inside state held).weaken fun _ _ _ _ _ => trivial) fun _ _ _ _ _ => trivial).weaken
      fun outcome state _ => finish outcome state

/-- Runs of the node plugin are covered as soon as every call that may begin is
safe, owners begin one at a time, and a crash keeps the invariant. -/
theorem covers {allowed : NodeConfig → NodeEvent → Prop}
    (steps : ∀ config event, allowed config event → config.onStep (guarded.permits volume) event = true)
    (safe : ∀ config' call thread state, allowed config' (.enter call) → (volume, thread) ∉ state.holders →
      (guarded.discipline volume config).Safe call thread (fun _ _ => True) (call.program config) state)
    (alone : ∀ config call, allowed config (.enter call) → guarded.owns call = true →
      config.only (fun other => !guarded.owns other) = true)
    (crashing : ∀ config, allowed config .crash → guarded.invariant config.state →
      guarded.invariant config.state.crash) :
    (guarded.discipline volume config).Covers allowed where
  steps found permitted := (Config.onStep_found found).symm.trans (steps _ _ permitted)
  enters {now call state program} permitted valid _ entered := by
    obtain ⟨accepted, rfl⟩ := nodePlugin_enter entered
    have unchanged := Call.accept_unchanged accepted
    have kept := guarded.same unchanged.1 unchanged.2.1 unchanged.2.2
    refine ⟨⟨?_, guarded.stable kept.2.1 valid.2⟩, fun _ thread => ⟨?_, fun _ => kept.1, kept.2.1, fun _ => kept.2.2⟩,
      fun thread absent => ?_, fun absent => (safe _ call _ _ permitted absent).weaken ?_,
      fun other member unfinished => ?_, id⟩
    · simpa only [Exclusive, unchanged.2.2] using valid.1
    · rw [unchanged.2.2]
    · simpa only [discipline, unchanged.2.2] using absent
    · intro outcome state _ owned
      cases owned
    · have apart : ¬ (guarded.owns call = true ∧ guarded.owns other.call = true) := by
        rintro ⟨owned, both⟩
        have single := List.all_eq_true.mp (alone now call permitted owned) other member
        simp [unfinished, both] at single
      exact ⟨apart, fun both => apart both.symm⟩
  crashes {now} permitted valid :=
    ⟨⟨fun first second held => by simp [nodePlugin, Node.crash] at held, crashing now permitted valid.2⟩,
      fun thread => by simp [discipline, nodePlugin, Node.crash], trivial⟩
  drifts {config change} _ valid := by
    have same : (change.apply config.state).holders = config.state.holders := Drift.apply_holders change config.state
    have kept := guarded.drift change config.state
    refine ⟨⟨?_, guarded.stable kept.2.1 valid.2⟩, fun _ thread => ⟨?_, fun _ => kept.1, kept.2.1, fun _ => kept.2.2⟩,
      fun thread absent => ?_, id⟩
    · simpa only [Exclusive, nodePlugin, same] using valid.1
    · simp only [nodePlugin, same]
    · simpa only [discipline, nodePlugin, same] using absent

theorem holds_idle {node : Node} (vacant : node.holders = []) (initial : guarded.invariant node) :
    (guarded.discipline volume config).Holds ⟨node, []⟩ :=
  ⟨⟨fun _ _ held => by simp [vacant] at held, initial⟩, by simp, by simp, fun _ _ => by simp [discipline, vacant],
    fun _ => trivial⟩

/-- What the wanted calls promise and the environment leaves alone holds in
every later state. -/
theorem preserved {wanted : Call → Bool} (property : Node → Prop) {before after : NodeConfig}
    (covers : (guarded.discipline volume config).Covers (fun now event => now.onStep (guarded.permits volume) event = true))
    (holds : (guarded.discipline volume config).Holds before) (only : before.only wanted = true)
    (later : (nodePlugin config).Reaches (fun now event => (now.onStep (guarded.permits volume) event &&
      event.begins wanted) = true) before after)
    (promised : ∀ call before after, wanted call = true → guarded.promise call before after → property before →
      property after)
    (settled : ∀ {before after : Node}, after.files = before.files → after.devices = before.devices →
      property before → property after) (drifts : ∀ (change : Drift) node, property node → property (change.apply node))
    (initial : property before.state) : property after.state := by
  refine (later.invariant (fun now => (guarded.discipline volume config).Holds now ∧ now.only wanted = true ∧
    property now.state) ?_ ⟨holds, only, initial⟩).2.2
  rintro current event next allowed moved ⟨holds, only, kept⟩
  obtain ⟨permitted, entering⟩ := Bool.and_eq_true_iff.mp allowed
  refine ⟨covers.next permitted moved holds, Machine.only_next only entering moved, ?_⟩
  cases (nodePlugin config).next_moves moved with
  | enter entered =>
    obtain ⟨accepted, rfl⟩ := nodePlugin_enter entered
    exact settled (Call.accept_unchanged accepted).1 (Call.accept_unchanged accepted).2.1 kept
  | @step _ _ call _ _ _ _ found answered =>
    have guaranteed := (holds.step found (covers.steps found permitted) answered).1
    exact promised call _ _ (Config.only_found only found) guaranteed.2.2.2 kept
  | crash => exact @settled current.state current.state.crash rfl rfl kept
  | drift change => exact drifts change current.state kept

end Guarded
end Rawfile
