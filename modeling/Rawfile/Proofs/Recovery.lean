import Rawfile.Proofs.TaskControl

/-! What `TaskManager.start` finds after a crash. A record that says PENDING
belongs to a run of the task that is about to submit it or to record it as
running; if no process dies and no run fails there, every record that `start`
leaves is completed, or failed and in the worker's hands. -/

namespace Rawfile
open Effects TaskManager

variable {id : TaskId}

def Op.launches : Op → Bool
  | .task (.submit _) => true
  | .task (.saveTask _ info) => info.state = .running
  | _ => false

def Op.launched (operation : Op) (answer : Answer) (node : Node) : Bool :=
  match operation with
  | .task (.submit _) => !node.tasks.executorDown
  | .task (.saveTask _ info) => info.state ≠ .running || !answer.fails
  | _ => true

/-- A run whose launches are not interrupted: every step of a launch succeeds,
and the process does not die in between. -/
def launchingRun (now : NodeConfig) (event : NodeEvent) : Bool :=
  now.onStep (fun _ _ operation answer node => operation.launched answer node) event &&
    match event with
    | .crash => now.threads.all fun thread =>
      match thread.program with
      | .request operation _ => !operation.launches
      | _ => true
    | _ => true

def Doing.serves : Doing → Bool
  | .checking | .reading _ | .pending _ | .submitted _ _ | .recorded _ _ | .registered _ _ => true
  | _ => false

def Duty.serves : Duty → Bool
  | .request _ | .queued _ _ | .working _ _ | .round | .retrying _ | .removing _ _ => true
  | _ => false

def Control.serves (control : Control) : Bool := control.doing.serves || control.duty.serves

namespace Recovery

/-- The thread has saved PENDING for the task and not RUNNING yet. -/
def Launches (id : TaskId) : Doing → Prop
  | .pending info => info.call = id
  | .submitted info _ => info.call = id
  | _ => False

structure Unstranded (tasks : Tasks) (points : List (Call × Control)) : Prop where
  infos : ∀ future ∈ tasks.futures, ∀ info, future.info = some info → info.state ≠ .pending
  pending : ∀ id info, tasks.store.lookup id = some info → info.state = .pending →
    ∃ point ∈ points, Launches id point.2.doing
  serving : ∀ point ∈ points, point.2.serves = true → tasks.phase = .serving
  idle : tasks.phase ≠ .serving → tasks.futures = []
  worker : tasks.workerStarted = true → tasks.phase = .serving
  running : ∀ point ∈ points, ∀ rest, point.2.duty = .recovering rest → tasks.phase ≠ .serving →
    ∀ id info, tasks.store.lookup id = some info → info.state = .running → id ∈ rest.map Prod.fst

section
variable {config : DriverConfig} {tasks after : Tasks} {answer : Answer} {operation : TaskOp}
  {reply : Except Err operation.Reply} {control : Control}

private theorem exec_infos (executed : operation.exec answer tasks = (reply, after)) (issued : Issues config control operation)
    (infos : ∀ future ∈ tasks.futures, ∀ info, future.info = some info → info.state ≠ .pending) :
    ∀ future ∈ after.futures, ∀ info, future.info = some info → info.state ≠ .pending := by
  intro future member info known
  obtain ⟨index, found⟩ := List.mem_iff_getElem?.mp member
  have moves := TaskOp.exec_future executed index
  have earlier : ∀ entry, tasks.futures[index]? = some entry → ∀ info, entry.info = some info → info.state ≠ .pending :=
    fun entry found => infos entry (List.mem_of_getElem? found)
  rw [found] at moves
  generalize tasks.futures[index]? = before at moves earlier
  cases moves with
  | submitted => cases known
  | registered issuing =>
    cases known
    subst issuing
    cases issued
    simp
  | noted kept stated =>
    obtain ⟨past, standing, rfl⟩ := Option.map_eq_some_iff.mp known
    rcases stated with same | ⟨state, rfl, states⟩
    · rw [same]
      exact earlier _ rfl past standing
    · rw [states]
      cases issued <;> simp
  | same | called | begun | ended => exact earlier _ rfl info known

private theorem next_serves (issued : Issues config control operation)
    (later : (control.next config (.task operation) reply).serves = true) : control.serves = true := by
  simp only [Control.serves] at later ⊢
  cases issued
  all_goals cases reply
  all_goals simp only [Control.next, Control.doingIf, Duty.runs, Duty.isRound, Duty.advance, Duty.listed, Duty.begun,
    Duty.sees, Duty.finds] at *
  all_goals try split at later
  all_goals grind [Doing.serves, Duty.serves]

private theorem running_kept (executed : operation.exec answer tasks = (reply, after)) (issued : Issues config control operation)
    (idle : control.serves = false) (none : tasks.futures = []) {info : TaskInfo}
    (found : after.store.lookup id = some info) (running : info.state = .running) :
    tasks.store.lookup id = some info := by
  rcases TaskOp.exec_store executed found with kept | ⟨rfl, _⟩ | ⟨future, rfl, known⟩
  · exact kept
  · cases issued with
    | launch | relaunch => cases running
    | recover => cases running
    | record => simp [Control.serves, Doing.serves] at idle
  · simp [none] at known

def Recovers (tasks : Tasks) (control : Control) : Prop :=
  ∀ rest, control.duty = .recovering rest → ∀ id info, tasks.store.lookup id = some info → info.state = .running →
    id ∈ rest.map Prod.fst

theorem Recovers.next (executed : operation.exec answer tasks = (reply, after)) (issued : Issues config control operation)
    (idle : control.serves = false) (none : tasks.futures = []) (recovers : Recovers tasks control) :
    Recovers after (control.next config (.task operation) reply) := by
  intro rest same id info found running
  have before := running_kept executed issued idle none found running
  cases issued with
  | listRunning =>
    simp only [TaskOp.exec] at executed
    split at executed <;> cases executed
    · cases same
    · cases same
      exact List.mem_map.mpr ⟨(id, info), List.mem_filter.mpr ⟨Tasks.mem_listed.mpr before, by simp [inState, running]⟩, rfl⟩
  | @recover entry others =>
    simp only [TaskOp.exec] at executed
    split at executed <;> cases executed
    · cases same
    · cases same
      rcases List.mem_cons.mp (recovers _ rfl id info before running) with rfl | member
      · simp only [AList.lookup_insert, Option.some.injEq] at found
        subst found
        cases running
      · exact member
  | _ =>
    refine recovers rest ?_ id info before running
    cases reply
    all_goals simp only [Control.next, Control.doingIf, Duty.runs, Duty.isRound, Duty.advance, Duty.listed, Duty.begun,
      Duty.sees, Duty.finds] at *
    all_goals try split at same
    all_goals grind

end

theorem Launches.serves {control : Control} (launches : Launches id control.doing) : control.serves = true := by
  obtain ⟨duty, doing⟩ := control
  cases doing with
  | pending | submitted => rfl
  | _ => cases launches

theorem Launches.busy {doing : Doing} (launches : Launches id doing) : doing.free = false := by
  cases doing with
  | pending | submitted => rfl
  | _ => cases launches

theorem Launches.issues {config : DriverConfig} {control : Control} {operation : Op}
    (launches : Launches id control.doing) (allowed : Allows config control operation) : operation.launches = true := by
  cases allowed with
  | requesting free => cases launches.busy.symm.trans free
  | task issued =>
    cases issued with
    | submit => rfl
    | record => rfl
    | ask _ free | listExhausted free | endRound _ free => cases launches.busy.symm.trans free
    | _ => cases launches
  | _ => cases launches

theorem Launches.next {config : DriverConfig} {now : NodeConfig} {thread : Nat} {answer : Answer} {call : Call}
    {control : Control} {operation : TaskOp} {next : Except Err operation.Reply → Driver Unit}
    {reply : Except Err operation.Reply} {after : Tasks} (permitted : launchingRun now (.step thread answer) = true)
    (found : now.threads[thread]? = some ⟨call, .request (.task operation) next⟩)
    (issued : Issues config control operation) (executed : operation.exec answer now.state.tasks = (reply, after))
    (launches : Launches id control.doing) :
    Launches id (control.next config (.task operation) reply).doing ∨
      ∃ info, after.store.lookup id = some info ∧ info.state = .running := by
  have launched : (Op.task operation).launched answer now.state = true :=
    (Config.onStep_found found).symm.trans (Bool.and_eq_true_iff.mp permitted).1
  cases issued with
  | @submit duty info =>
    have up : now.state.tasks.executorDown = false := by simpa [Op.launched] using launched
    simp only [TaskOp.exec, up] at executed
    cases executed
    exact .inl launches
  | @record duty info future =>
    have saved : answer.fails = false := by simpa [Op.launched] using launched
    simp only [TaskOp.exec, saved] at executed
    cases executed
    cases launches
    exact .inr ⟨_, AList.lookup_insert _, rfl⟩
  | ask _ free | listExhausted free | endRound _ free => cases launches.busy.symm.trans free
  | _ => cases launches

namespace Unstranded

variable {config : DriverConfig} {now : NodeConfig} {points : List (Call × Control)} {thread : Nat} {answer : Answer}
  {call : Call} {control : Control} {operation : TaskOp} {next : Except Err operation.Reply → Driver Unit}
  {reply : Except Err operation.Reply} {after : Tasks}

private theorem idle_control {tasks : Tasks} (known : Unstranded tasks points) (standing : points[thread]? = some (call, control))
    (starting : tasks.phase ≠ .serving) : control.serves = false := by
  by_contra busy
  exact starting (known.serving _ (List.mem_of_getElem? standing) (Bool.of_not_eq_false busy))

section
variable (known : Unstranded now.state.tasks points) (permitted : launchingRun now (.step thread answer) = true)
  (found : now.threads[thread]? = some ⟨call, .request (.task operation) next⟩)
  (standing : points[thread]? = some (call, control)) (issued : Issues config control operation)
  (executed : operation.exec answer now.state.tasks = (reply, after))
include known permitted found standing issued executed

/-- Some thread is about to launch what is pending. -/
theorem pending_step {info : TaskInfo} (recorded : after.store.lookup id = some info)
    (pending : info.state = .pending) :
    ∃ point ∈ points.set thread (call, control.next config (.task operation) reply), Launches id point.2.doing := by
  rcases TaskOp.exec_store executed recorded with kept | ⟨rfl, done⟩ | ⟨future, rfl, saved⟩
  · obtain ⟨point, member, launches⟩ := known.pending id info kept pending
    rcases kept_point standing member with rfl | member
    · rcases Launches.next permitted found issued executed launches with launches | ⟨other, lookup, running⟩
      · exact ⟨_, moved_point standing, launches⟩
      · rw [recorded] at lookup
        cases lookup
        cases running.symm.trans pending
    · exact ⟨point, member, launches⟩
  · refine ⟨_, moved_point standing, ?_⟩
    simp only [TaskOp.exec, done] at executed
    cases executed
    cases issued with
    | launch | relaunch => rfl
    | recover | record => cases pending
  · obtain ⟨entry, member, same⟩ := Option.bind_eq_some_iff.mp saved
    exact absurd pending (known.infos entry (List.mem_of_getElem? member) info same)

theorem step : Unstranded after (points.set thread (call, control.next config (.task operation) reply)) := by
  have starting : after.phase ≠ .serving → now.state.tasks.phase ≠ .serving ∧
      after.workerStarted = now.state.tasks.workerStarted := by
    intro other
    rcases TaskOp.exec_serving executed with ⟨same, worker⟩ | ⟨_, serving, _⟩
    · rw [same] at other; exact ⟨other, worker⟩
    · exact absurd serving other
  constructor
  · exact exec_infos executed issued known.infos
  · exact fun id info => pending_step known permitted found standing issued executed
  · intro point member busy
    by_contra other
    obtain ⟨before, _⟩ := starting other
    rcases List.mem_or_eq_of_mem_set member with member | rfl
    · exact before (known.serving point member busy)
    · exact before (known.serving _ (List.mem_of_getElem? standing) (next_serves issued busy))
  · intro other
    obtain ⟨before, _⟩ := starting other
    refine TaskOp.exec_futures_nil executed (known.idle before) ?_
    rintro job rfl
    have idle := known.idle_control standing before
    cases issued
    simp [Control.serves, Doing.serves] at idle
  · intro started
    by_contra other
    obtain ⟨before, worker⟩ := starting other
    exact before (known.worker (worker.symm.trans started))
  · intro point member rest recovering other id info recorded running
    obtain ⟨before, _⟩ := starting other
    have idle := known.idle_control standing before
    rcases List.mem_or_eq_of_mem_set member with member | rfl
    · exact known.running point member rest recovering before id info
        (running_kept executed issued idle (known.idle before) recorded running) running
    · refine Recovers.next executed issued idle (known.idle before) ?_ rest recovering id info recorded running
      exact fun rest same => known.running _ (List.mem_of_getElem? standing) rest same before

end

theorem enter (known : Unstranded now.state.tasks points) {node : Node} (accepted : call.accept now.state = some node) :
    Unstranded node.tasks (points ++ [(call, ⟨call.duty, .nothing⟩)]) := by
  have entering : call.duty.serves = true → now.state.tasks.phase = .serving := by
    intro serves
    by_contra starting
    cases call with
    | future index job => simp [Call.accept, known.idle starting] at accepted
    | workerRound =>
      have stopped : now.state.tasks.workerStarted = false := Bool.of_not_eq_true fun on => starting (known.worker on)
      simp [Call.accept, stopped] at accepted
    | createVolume | createSnapshot => simp [Call.accept, starting] at accepted
    | _ => cases serves
  have serving : ∀ point ∈ points ++ [(call, ⟨call.duty, .nothing⟩)], point.2.serves = true →
      now.state.tasks.phase = .serving :=
    forall_mem_snoc known.serving fun busy => entering (by simpa [Control.serves, Doing.serves] using busy)
  have phase : now.state.tasks.phase = .serving ↔ node.tasks.phase = .serving := by
    rcases Call.accept_tasks accepted with same | ⟨_, down, same⟩ | ⟨_, _, same⟩
    · rw [same]
    · simp [same, down]
    · simp [same]
  obtain ⟨store, futures, -, worker⟩ := Call.accept_frame accepted
  constructor
  · rw [futures]; exact known.infos
  · intro id info recorded pending
    rw [store] at recorded
    obtain ⟨point, member, launches⟩ := known.pending id info recorded pending
    exact ⟨point, List.mem_append_left _ member, launches⟩
  · exact fun point member busy => phase.mp (serving point member busy)
  · rw [futures, ← phase.ne]; exact known.idle
  · rw [worker, ← phase]; exact known.worker
  · intro point member rest recovering starting id info recorded running
    rw [store] at recorded
    rcases List.mem_append.mp member with member | last
    · exact known.running point member rest recovering (fun on => starting (phase.mp on)) id info recorded running
    · cases List.mem_singleton.mp last
      cases call <;> cases recovering

theorem crash (known : Unstranded now.state.tasks points) (permitted : launchingRun now .crash = true)
    (tracks : (taskProtocol config).Tracks (taskControl config).ended now.threads points) :
    Unstranded { store := now.state.tasks.store } [] := by
  have settled : ∀ id info, now.state.tasks.store.lookup id = some info → info.state ≠ .pending := by
    intro id info recorded pending
    obtain ⟨⟨call, control⟩, member, launches⟩ := known.pending id info recorded pending
    have unended : ¬ control.doing.free = true := by simp [launches.busy]
    obtain ⟨operation, next, found, allowed⟩ := tracks.waiting member unended
    have quiet := List.all_eq_true.mp (Bool.and_eq_true_iff.mp permitted).2 _ found
    simp [launches.issues allowed] at quiet
  constructor
  · simp
  · intro id info recorded pending
    exact absurd pending (settled id info recorded)
  · simp
  · simp
  · simp
  · simp

theorem invariant (config : DriverConfig) :
    TaskInvariant config (fun now event => launchingRun now event = true) Unstranded where
  enters _ _ known accepted := known.enter accepted
  steps permitted _ found standing issued _ executed known := known.step permitted found standing issued executed
  crashes permitted tracks known := known.crash permitted tracks

theorem initial : Unstranded NodeConfig.initial.state.tasks [] := by
  constructor <;> simp [NodeConfig.initial]

theorem settled {tasks : Tasks} (known : Unstranded tasks points) (standing : points[thread]? = some (call, ⟨.recovering [], .nothing⟩))
    (starting : tasks.phase ≠ .serving) {id : TaskId} {info : TaskInfo} (recorded : tasks.store.lookup id = some info) :
    info.state = .completed ∨ info.state = .failed := by
  cases state : info.state with
  | completed => exact .inl rfl
  | failed => exact .inr rfl
  | running =>
    have left := known.running _ (List.mem_of_getElem? standing) [] rfl starting id info recorded state
    simp at left
  | pending =>
    obtain ⟨point, member, launches⟩ := known.pending id info recorded state
    exact absurd (known.serving point member launches.serves) starting

end Unstranded

/-- The node begins to serve only by starting the worker. -/
theorem serving_step {config : DriverConfig} {event : NodeEvent} {before after : NodeConfig}
    (moved : (nodePlugin config).next event before = some after) (starting : before.state.tasks.phase ≠ .serving)
    (started : after.state.tasks.phase = .serving) :
    ∃ (thread : Nat) (call : Call) (next : Except Err Unit → Driver Unit),
      before.threads[thread]? = some ⟨call, .request (.task .startWorker) next⟩ ∧
      after.state.tasks.store = before.state.tasks.store := by
  cases (nodePlugin config).next_moves moved with
  | enter entered =>
    rcases Call.accept_tasks (nodePlugin_enter entered).1 with same | ⟨_, _, same⟩ | ⟨_, _, same⟩
    · rw [same] at started; exact absurd started starting
    · rw [same] at started; cases started
    · rw [same] at started; exact absurd started starting
  | @step thread answer call operation next _ _ found answered =>
    obtain ⟨_, executed⟩ := nodePlugin_exec answered
    cases quiet : operation.isTask with
    | true =>
      obtain ⟨operation, rfl⟩ : ∃ task, operation = .task task := by cases operation <;> simp_all [Op.isTask]
      simp only [Op.exec, Prod.mk.injEq] at executed
      obtain ⟨_, rfl⟩ := executed
      have executed : operation.exec answer before.state.tasks = operation.exec answer before.state.tasks := rfl
      rcases TaskOp.exec_serving executed with ⟨same, _⟩ | ⟨rfl, _, store, _⟩
      · exact absurd (same.symm.trans started) starting
      · exact ⟨thread, call, next, found, store⟩
    | false =>
      have frame : (operation.exec thread answer before.state).2.tasks = before.state.tasks :=
        Op.exec_tasks _ _ _ _ (by rintro task rfl; cases quiet)
      rw [executed] at frame
      rw [frame] at started
      exact absurd started starting
  | crash => cases started
  | drift change =>
    have same : (change.apply before.state).tasks = before.state.tasks := change.apply_tasks before.state
    exact absurd ((congrArg Tasks.phase same).symm.trans started) starting

end Recovery

/-- From any crash or shutdown that does not cut a launch short, `start` leaves
completed records and failed ones that the worker runs again or removes. -/
theorem no_task_stranded (config : DriverConfig) {before after : NodeConfig}
    (reached : (nodePlugin config).Reaches (fun now event => launchingRun now event = true) NodeConfig.initial before)
    (step : (nodePlugin config).Steps (fun now event => launchingRun now event = true) before after)
    (starting : before.state.tasks.phase ≠ .serving) (started : after.state.tasks.phase = .serving) :
    ∀ id info, after.state.tasks.store.lookup id = some info →
      info.state = .completed ∨ info.state = .failed ∧ (retriable config info = true ∨ exhausted config info = true) := by
  intro id info recorded
  obtain ⟨points, tracks, known⟩ := (Recovery.Unstranded.invariant config).keeps.reaches reached
    (Tracking.holds_idle Recovery.Unstranded.initial)
  obtain ⟨event, _, moved⟩ := step
  obtain ⟨thread, call, next, found, store⟩ := Recovery.serving_step moved starting started
  obtain ⟨control, standing, follows⟩ := tracks.found found
  cases Allows.issues follows.1
  rw [store] at recorded
  rcases known.settled standing starting recorded with completed | failed
  · exact .inl completed
  · refine .inr ⟨failed, ?_⟩
    simp only [retriable, exhausted, failed, decide_true, Bool.and_true, decide_eq_true_eq]
    omega

namespace Recovery

def interrupted : List NodeEvent :=
  [.enter .start] ++ moves 0 2 {} ++ [.enter (.createVolume thinRequest)] ++ moves 1 9 { amount := 16777216 } ++
    [.enter (.future 0 thinCreation)] ++ moves 2 4 {} ++ [.crash, .enter .start] ++ moves 0 2 {}

theorem no_task_stranded_interrupted : ∃ before after : NodeConfig,
    before.state.tasks.phase ≠ .serving ∧ after.state.tasks.phase = .serving ∧
    (after.state.tasks.store.lookup thinCreation).isSome = true ∧
    ∀ id info, after.state.tasks.store.lookup id = some info → info.state = .completed ∨
      info.state = .failed ∧ (retriable singlePool info = true ∨ exhausted singlePool info = true) := by
  obtain ⟨before, after, reached, tested, step⟩ := @Machine.last_step _ _ _ _ _ _ _ (nodePlugin singlePool)
    launchingRun (fun before after => decide (before.state.tasks.phase ≠ .serving) &&
      decide (after.state.tasks.phase = .serving) && (after.state.tasks.store.lookup thinCreation).isSome) interrupted
    (.step 0 {}) NodeConfig.initial (by decide +kernel)
  simp only [Bool.and_eq_true, decide_eq_true_eq] at tested
  exact ⟨before, after, tested.1.1, tested.1.2, tested.2,
    no_task_stranded singlePool reached step tested.1.1 tested.1.2⟩

/-- The process dies after the record of the task was saved and before the task was submitted. -/
def stranding : List NodeEvent :=
  [.enter .start] ++ moves 0 2 {} ++ [.enter (.createVolume thinRequest)] ++ moves 1 5 { amount := 16777216 } ++
    [.crash, .enter .start] ++ moves 0 2 {}

/-- The record stays pending: a round of the worker passes it over, and the
repeated request finds it and submits nothing. -/
theorem task_stranded :
    let observed := fun now : NodeConfig => (now.state.tasks.phase,
      (now.state.tasks.store.lookup thinCreation).map TaskInfo.state, now.state.tasks.futures.length,
      now.threads.map (fun thread => thread.program.finished))
    ((nodePlugin singlePool).run stranding NodeConfig.initial).map observed =
      some (.serving, some .pending, 0, [true]) ∧
    ((nodePlugin singlePool).run (stranding ++ [.enter .workerRound] ++ moves 1 4 {} ++
      [.enter (.createVolume thinRequest)] ++ moves 2 5 { amount := 16777216 }) NodeConfig.initial).map observed =
      some (.serving, some .pending, 0, [true, true, false]) := by
  decide +kernel

end Recovery
end Rawfile
