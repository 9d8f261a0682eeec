import Rawfile.Effects.Protocol
import Rawfile.Proofs.CallFootprint
import Rawfile.Proofs.TaskOps

/-! The task manager as control points. Every call of the node plugin is
described by its duty and by what it is doing inside `run_task_ext` or a done
callback; the programs of the model follow this description. -/

namespace Rawfile
open Effects TaskManager

def Op.isTask : Op → Bool
  | .task _ => true
  | _ => false

inductive Doing where
  | nothing
  | checking
  | reading (entries : List (TaskId × TaskInfo))
  | pending (info : TaskInfo)
  | submitted (info : TaskInfo) (future : Nat)
  | recorded (info : TaskInfo) (future : Nat)
  | registered (id : TaskId) (future : Nat)
  | calling (id : TaskId)
  | popped (id : TaskId) (future : Nat)
  | succeeded (id : TaskId) (future : Nat)
  | failing (id : TaskId) (future : Nat) (error : Err)
  | counted (id : TaskId) (future : Nat) (error : Err)
  | noted (id : TaskId) (future : Nat)
  | saving (id : TaskId) (future : Nat)

def Doing.free : Doing → Bool
  | .nothing | .reading _ => true
  | _ => false

/-- What a thread is there for. The lists are what is left of a loop; a shutdown
has seen entries of `_tasks` and found some of their futures running. -/
inductive Duty where
  | plain (call : Call)
  | request (call : Call)
  | queued (future : Nat) (call : TaskCall)
  | working (future : Nat) (call : TaskCall)
  | starting
  | recovering (rest : List (TaskId × TaskInfo))
  | round
  | retrying (rest : List (TaskId × TaskInfo))
  | removing (exhausted : Bool) (rest : List (TaskId × TaskInfo))
  | closing (seen : List (TaskId × Nat)) (live : List Nat)
  | over

structure Control where
  duty : Duty
  doing : Doing := .nothing

def Call.duty : Call → Duty
  | .createVolume request => .request (.createVolume request)
  | .createSnapshot request => .request (.createSnapshot request)
  | .future index call => .queued index call
  | .start => .starting
  | .workerRound => .round
  | .shutdown => .closing [] []
  | call => .plain call

variable (config : DriverConfig)

def Call.submits : Call → TaskCall → Prop
  | .createVolume request, job => ∃ pool, pool ∈ config.storagePools ∧ job = .createVolume
    (RawFileController.createVolumeArgs { request with requiredBytes := max request.requiredBytes Bd2Fs.minimumBytes } pool)
  | .createSnapshot request, job => ∃ data : Meta, job = .createSnapshot
    { volumeId := request.sourceVolumeId, name := request.name, copyOnWrite := copyOnWrite config data,
      freezeFs := data.freezefs.join.getD false }
  | _, _ => False

namespace Duty

def advance : Duty → Duty
  | .recovering (_ :: rest) => .recovering rest
  | .retrying (_ :: rest) => .retrying rest
  | .removing exhausted (_ :: rest) => .removing exhausted rest
  | duty => duty

def listed (config : DriverConfig) (entries : List (TaskId × TaskInfo)) : Duty → Duty
  | .starting => .recovering (entries.filter (fun entry => inState .running entry.2))
  | .round => .retrying (entries.filter (fun entry => retriable config entry.2))
  | .retrying _ => .removing true (entries.filter (fun entry => exhausted config entry.2))
  | .removing _ _ => .removing false (entries.filter (fun entry => inState .completed entry.2))
  | duty => duty

def isRound : Duty → Bool
  | .round | .retrying _ | .removing _ _ => true
  | _ => false

def runs : Duty → Bool
  | .request _ | .retrying (_ :: _) => true
  | _ => false

def begun : Duty → Duty
  | .queued future call => .working future call
  | duty => duty

def sees (entry : TaskId × Nat) : Duty → Duty
  | .closing seen live => .closing (seen ++ [entry]) live
  | duty => duty

def finds (future : Nat) : Duty → Duty
  | .closing seen live => .closing seen (live ++ [future])
  | duty => duty

end Duty

def recordOf (entries : List (TaskId × TaskInfo)) (id : TaskId) : Option TaskInfo :=
  (entries.find? (fun entry => entry.1 = id)).map Prod.snd

namespace Control

def doingIf (control : Control) (reply : Except Err α) (doing : α → Doing) : Control :=
  match reply with
  | .ok value => { control with doing := doing value }
  | .error _ => { control with doing := .nothing }

def next (config : DriverConfig) (control : Control) : (operation : Op) → Except Err operation.Reply → Control
  | .task .isShuttingDown, reply => control.doingIf reply fun down => if down then .nothing else .checking
  | .task .getTasks, reply =>
    match control.doing, reply with
    | .checking, reply => control.doingIf reply .reading
    | _, .ok entries => ⟨control.duty.listed config entries, .nothing⟩
    | _, .error _ => { control with doing := .nothing }
  | .task (.saveTask _ info), reply =>
    match control.doing with
    | .submitted info future => control.doingIf reply fun _ => .recorded info future
    | .reading _ => { control with duty := control.duty.advance }.doingIf reply fun _ => .pending info
    | _ => ⟨if reply.isOk then control.duty.advance else .over, .nothing⟩
  | .task (.submit _), reply =>
    match control.doing with
    | .pending info => control.doingIf reply fun future => .submitted info future
    | _ => control
  | .task (.register id future _), reply => control.doingIf reply fun _ => .registered id future
  | .task (.addDoneCallback _ id), reply => control.doingIf reply fun now => if now then .calling id else .nothing
  | .task (.popTask id), reply => control.doingIf reply fun found =>
    match found with
    | some future => .popped id future
    | none => .nothing
  | .task (.exception _), reply =>
    match control.doing with
    | .popped id future => control.doingIf reply fun found =>
      match found with
      | none => .succeeded id future
      | some error => .failing id future error
    | _ => control
  | .task (.setState _ _), reply =>
    match control.doing with
    | .succeeded id future | .noted id future => control.doingIf reply fun _ => .saving id future
    | _ => control
  | .task (.countFailure _), reply =>
    match control.doing with
    | .failing id future error => control.doingIf reply fun _ => .counted id future error
    | _ => control
  | .task (.setLastError _ _), reply =>
    match control.doing with
    | .counted id future _ => control.doingIf reply fun _ => .noted id future
    | _ => control
  | .task (.saveInfo _ _), _ => { control with doing := .nothing }
  | .task (.removeTask _), _ => ⟨control.duty.advance, .nothing⟩
  | .task (.begin _), reply =>
    match reply with
    | .ok true => { control with duty := control.duty.begun }
    | _ => ⟨.over, .nothing⟩
  | .task (.finish _ _), reply =>
    match reply with
    | .ok (some id) => ⟨.over, .calling id⟩
    | _ => ⟨.over, .nothing⟩
  | .task (.nextItem _ _), reply =>
    match reply with
    | .ok (some entry) => { control with duty := control.duty.sees entry }
    | _ => control
  | .task (.isRunning future), reply =>
    match reply with
    | .ok true => { control with duty := control.duty.finds future }
    | _ => control
  | .task .cancelNext, reply =>
    match reply with
    | .ok (some id) => { control with doing := .calling id }
    | _ => control
  | .task .startWorker, _ | .task .endRound, _ => ⟨.over, .nothing⟩
  | _, _ => control

end Control

inductive Issues (config : DriverConfig) : Control → TaskOp → Prop
  | ask {duty doing} (runs : Duty.runs duty = true) (free : Doing.free doing = true) :
    Issues config ⟨duty, doing⟩ .isShuttingDown
  | check {duty} : Issues config ⟨duty, .checking⟩ .getTasks
  | launch {call entries id} (submits : Call.submits config call id) (absent : recordOf entries id = none) :
    Issues config ⟨.request call, .reading entries⟩ (.saveTask id (pendingInfo id false none))
  | relaunch {entry rest entries} : Issues config ⟨.retrying (entry :: rest), .reading entries⟩
    (.saveTask entry.2.call (pendingInfo entry.2.call true (recordOf entries entry.2.call)))
  | submit {duty info} : Issues config ⟨duty, .pending info⟩ (.submit info.call)
  | record {duty info future} : Issues config ⟨duty, .submitted info future⟩
    (.saveTask info.call { info with state := .running })
  | register {duty info future} : Issues config ⟨duty, .recorded info future⟩
    (.register info.call future { info with state := .running })
  | addCallback {duty id future} : Issues config ⟨duty, .registered id future⟩ (.addDoneCallback future id)
  | pop {duty id} : Issues config ⟨duty, .calling id⟩ (.popTask id)
  | inspect {duty id future} : Issues config ⟨duty, .popped id future⟩ (.exception future)
  | complete {duty id future} : Issues config ⟨duty, .succeeded id future⟩ (.setState future .completed)
  | count {duty id future error} : Issues config ⟨duty, .failing id future error⟩ (.countFailure future)
  | note {duty id future error} : Issues config ⟨duty, .counted id future error⟩
    (.setLastError future error.message)
  | fail {duty id future} : Issues config ⟨duty, .noted id future⟩ (.setState future .failed)
  | save {duty id future} : Issues config ⟨duty, .saving id future⟩ (.saveInfo id future)
  | begin {future call} : Issues config ⟨.queued future call, .nothing⟩ (.begin future)
  | finish {future call} (error) : Issues config ⟨.working future call, .nothing⟩ (.finish future error)
  | listRunning : Issues config ⟨.starting, .nothing⟩ .getTasks
  | recover {entry rest} : Issues config ⟨.recovering (entry :: rest), .nothing⟩
    (.saveTask entry.1 (recovered entry.2))
  | startWorker : Issues config ⟨.recovering [], .nothing⟩ .startWorker
  | listRetriable : Issues config ⟨.round, .nothing⟩ .getTasks
  | listExhausted {doing} (free : Doing.free doing = true) : Issues config ⟨.retrying [], doing⟩ .getTasks
  | remove {exhausted entry rest} : Issues config ⟨.removing exhausted (entry :: rest), .nothing⟩
    (.removeTask entry.1)
  | listCompleted : Issues config ⟨.removing true [], .nothing⟩ .getTasks
  | endRound {duty doing} (within : Duty.isRound duty = true) (free : Doing.free doing = true) :
    Issues config ⟨duty, doing⟩ .endRound
  | setShuttingDown {seen live} : Issues config ⟨.closing seen live, .nothing⟩ .setShuttingDown
  | countTasks {seen live} : Issues config ⟨.closing seen live, .nothing⟩ .count
  | nextItem {seen live} (visited size) : Issues config ⟨.closing seen live, .nothing⟩ (.nextItem visited size)
  | isRunning {seen live} (future) : Issues config ⟨.closing seen live, .nothing⟩ (.isRunning future)
  | kill {seen live id future} (known : (id, future) ∈ seen) (ran : future ∈ live) :
    Issues config ⟨.closing seen live, .nothing⟩ (.setState future .failed)
  | saveKilled {seen live id future} (known : (id, future) ∈ seen) :
    Issues config ⟨.closing seen live, .nothing⟩ (.saveInfo id future)
  | closeExecutor {seen live} : Issues config ⟨.closing seen live, .nothing⟩ .closeExecutor
  | cancelNext {seen live} : Issues config ⟨.closing seen live, .nothing⟩ .cancelNext

inductive Allows (config : DriverConfig) : Control → Op → Prop
  | plain {call operation} (issued : Call.footprint call operation) (quiet : operation.isTask = false) :
    Allows config ⟨.plain call, .nothing⟩ operation
  | requesting {call doing operation} (free : Doing.free doing = true) (issued : Call.footprint call operation)
    (quiet : operation.isTask = false) : Allows config ⟨.request call, doing⟩ operation
  | work {future call operation} (issued : TaskCall.footprint call operation) (quiet : operation.isTask = false) :
    Allows config ⟨.working future call, .nothing⟩ operation
  | polls {seen live} : Allows config ⟨.closing seen live, .nothing⟩ (.ask .polls)
  | task {control operation} (issued : Issues config control operation) : Allows config control (.task operation)

theorem Allows.issues {config : DriverConfig} {control : Control} {operation : TaskOp}
    (allowed : Allows config control (.task operation)) : Issues config control operation := by
  cases allowed with
  | task issued => exact issued
  | plain issued quiet => cases quiet
  | requesting free issued quiet => cases quiet
  | work issued quiet => cases quiet

def taskProtocol : Protocol Op Op.Reply Err Control where
  lawful := Op.lawful
  allows := Allows config
  next := Control.next config

theorem Control.next_quiet {config : DriverConfig} {operation : Op} (quiet : operation.isTask = false) (control : Control)
    (reply : Except Err operation.Reply) : control.next config operation reply = control := by
  cases operation with
  | task operation => cases quiet
  | _ => rfl

theorem Op.reads.quiet {operation : Op} (reads : operation.reads) : operation.isTask = false := by
  cases operation with
  | task operation => cases reads
  | _ => rfl

section
variable {volume : VolumeId} {name : String} {temporary : Bool} {operation : Op}

theorem CreateSnapshotOp.quiet (issued : CreateSnapshotOp volume name temporary operation) : operation.isTask = false := by
  cases issued with
  | looking reads => exact reads.quiet
  | _ => rfl

end

theorem GcOp.quiet {volume : VolumeId} {operation : Op} (issued : GcOp volume operation) :
    operation.isTask = false := by
  cases issued with
  | destroying destroy =>
    cases destroy with
    | cleaning cleanup =>
      cases cleanup with
      | looking reads => exact reads.quiet
      | _ => rfl
    | removeImage img own => rfl
  | _ => rfl

private theorem TaskCall.footprint_quiet {call : TaskCall} {operation : Op} (issued : call.footprint operation) :
    operation.isTask = false := by
  cases call with
  | createSnapshot args => exact CreateSnapshotOp.quiet issued
  | createVolume args =>
    cases (issued : CreateVolumeOp args operation) with
    | source issued =>
      cases issued with
      | looking reads => exact reads.quiet
      | cut _ _ issued => exact issued.quiet
      | drop _ _ issued => exact issued.create.quiet
    | image issued =>
      cases issued with
      | looking reads => exact reads.quiet
      | _ => rfl
    | _ => rfl

private theorem Call.plain_quiet {call : Call} {operation : Op} (plain : call.duty = .plain call)
    (issued : call.footprint operation) : operation.isTask = false := by
  cases call with
  | deleteVolume volume =>
    cases (issued : DeleteVolumeOp volume operation) with
    | collecting collect => exact collect.quiet
    | deleting => rfl
  | deleteSnapshot snapshotId =>
    obtain ⟨volume, name, _, issued | issued⟩ := issued
    · exact issued.create.quiet
    · exact issued.quiet
  | nodeStageVolume request =>
    cases (issued : StageOp _ _ operation) with
    | staging issued =>
      cases issued with
      | looking reads => exact reads.quiet
      | _ => rfl
    | _ => rfl
  | expandRawFile volume newSize =>
    cases (issued : ExpandOp volume operation) with
    | looking reads => exact reads.quiet
    | _ => rfl
  | task call => exact TaskCall.footprint_quiet issued
  | createVolume | createSnapshot | future | start | workerRound | shutdown => cases plain

namespace TaskManager

variable {config : DriverConfig}

def Rests (duty : Duty) (_outcome : Except Err α) (control : Control) : Prop :=
  control.duty = duty ∧ control.doing.free = true

def Back (duty : Duty) (_outcome : Except Err α) (control : Control) : Prop := control = ⟨duty, .nothing⟩

private theorem Back.rests {duty : Duty} {outcome : Except Err α} {control : Control} (back : Back duty outcome control) :
    Rests duty outcome control := by
  cases back
  exact ⟨rfl, rfl⟩

theorem doneCallback_follows (duty : Duty) (id : TaskId) :
    (taskProtocol config).Follows (Back duty) (doneCallback id) ⟨duty, .calling id⟩ := by
  refine .performThen (.task .pop) (fun found _ => ?_) fun _ => rfl
  cases found with
  | none => rfl
  | some future =>
    refine .performThen (.task .inspect) (fun exception _ => ?_) fun _ => rfl
    cases exception with
    | none => exact .performThen (.task .complete) (fun _ _ => .perform (.task .save) fun _ _ => rfl) fun _ => rfl
    | some error =>
      refine .performThen (.task .count) (fun _ _ => ?_) fun _ => rfl
      refine .performThen (.task .note) (fun _ _ => ?_) fun _ => rfl
      exact .performThen (.task .fail) (fun _ _ => .perform (.task .save) fun _ _ => rfl) fun _ => rfl

theorem invokeCallback_follows (duty : Duty) (id : TaskId) :
    (taskProtocol config).Follows (Back duty) (invokeCallback id) ⟨duty, .calling id⟩ := by
  refine .tryExcept ((doneCallback_follows duty id).weaken fun outcome control back => ?_)
  cases outcome <;> exact back

theorem launch_follows {duty : Duty} {entries : List (TaskId × TaskInfo)} {info : TaskInfo}
    (allowed : Allows config ⟨duty, .reading entries⟩ (.task (.saveTask info.call info))) :
    (taskProtocol config).Follows (Back duty.advance) (launch info.call info) ⟨duty, .reading entries⟩ := by
  refine .performThen allowed (fun _ _ => ?_) fun _ => rfl
  refine .performThen (.task .submit) (fun future _ => ?_) fun _ => rfl
  refine .performThen (.task .record) (fun _ _ => ?_) fun _ => rfl
  refine .performThen (.task .register) (fun _ _ => ?_) fun _ => rfl
  refine .performThen (.task .addCallback) (fun now _ => ?_) fun _ => rfl
  cases now with
  | false => rfl
  | true => exact .andThen (invokeCallback_follows duty.advance info.call) (fun _ _ back => back) fun _ _ back => back

theorem getTasks_follows {keep : TaskInfo → Bool} {next : List (TaskId × TaskInfo) → Driver α}
    {leaves : Except Err α → Control → Prop} {control : Control} (allowed : Allows config control (.task .getTasks))
    (answers : ∀ entries : List (TaskId × TaskInfo), (taskProtocol config).Follows leaves
      (next (entries.filter (fun entry => keep entry.2))) (control.next config (.task .getTasks) (.ok entries)))
    (failing : ∀ error, leaves (.error error) (control.next config (.task .getTasks) (.error error))) :
    (taskProtocol config).Follows leaves (getTasks keep >>= next) control := by
  unfold getTasks
  exact .bind (.performThen allowed (fun entries _ => answers entries) failing)

theorem getTask_follows {id : TaskId} {next : Option TaskInfo → Driver α}
    {leaves : Except Err α → Control → Prop} {control : Control} (allowed : Allows config control (.task .getTasks))
    (answers : ∀ entries : List (TaskId × TaskInfo), (taskProtocol config).Follows leaves
      (next (recordOf entries id)) (control.next config (.task .getTasks) (.ok entries)))
    (failing : ∀ error, leaves (.error error) (control.next config (.task .getTasks) (.error error))) :
    (taskProtocol config).Follows leaves (getTask id >>= next) control := by
  unfold getTask
  exact .bind (.performThen allowed (fun entries _ => answers entries) failing)

theorem runTask_follows {call : Call} {job : TaskCall} {doing : Doing} (submits : call.submits config job)
    (free : doing.free = true) :
    (taskProtocol config).Follows (Rests (.request call)) (runTask job) ⟨.request call, doing⟩ := by
  refine .performThen (.task (.ask rfl free)) (fun down _ => ?_) fun _ => ⟨rfl, rfl⟩
  cases down with
  | true => exact ⟨rfl, rfl⟩
  | false =>
    refine getTask_follows (.task .check) (fun entries => ?_) fun _ => ⟨rfl, rfl⟩
    cases found : recordOf entries (hashTaskInfo job) with
    | some info => exact ⟨rfl, rfl⟩
    | none =>
      have allowed : Allows config ⟨.request call, .reading entries⟩
          (.task (.saveTask (pendingInfo job false none).call (pendingInfo job false none))) := .task (.launch submits found)
      exact (launch_follows allowed).weaken fun _ _ back => back.rests

def InRound (_outcome : Except Err α) (control : Control) : Prop :=
  control.duty.isRound = true ∧ control.doing.free = true

theorem rerun_follows {entry : TaskId × TaskInfo} {rest : List (TaskId × TaskInfo)} {doing : Doing}
    (free : doing.free = true) :
    (taskProtocol config).Follows (fun outcome control =>
      match outcome with
      | .ok _ => Rests (.retrying rest) outcome control
      | .error _ => InRound outcome control) (runTaskExt entry.2.call true) ⟨.retrying (entry :: rest), doing⟩ := by
  refine .performThen (.task (.ask rfl free)) (fun down _ => ?_) fun _ => ⟨rfl, rfl⟩
  cases down with
  | true => exact ⟨rfl, rfl⟩
  | false =>
    refine getTask_follows (.task .check) (fun entries => ?_) fun _ => ⟨rfl, rfl⟩
    have allowed : Allows config ⟨.retrying (entry :: rest), .reading entries⟩
        (.task (.saveTask (pendingInfo entry.2.call true (recordOf entries entry.2.call)).call
          (pendingInfo entry.2.call true (recordOf entries entry.2.call)))) := .task .relaunch
    refine (launch_follows allowed).weaken fun outcome control back => ?_
    cases back
    cases outcome <;> exact ⟨rfl, rfl⟩

theorem retryAll_follows : (taskProtocol config).Follows (fun outcome control =>
    match outcome with
    | .ok _ => Rests (.retrying []) outcome control
    | .error _ => InRound outcome control) (retryAll config) ⟨.round, .nothing⟩ := by
  refine getTasks_follows (.task .listRetriable) (fun entries => ?_) fun _ => ⟨rfl, rfl⟩
  refine .forEach (fun rest control => Rests (.retrying rest) (.ok ()) control) ?_ ?_ ?_
  · intro entry rest control rests
    obtain ⟨duty, doing⟩ := control
    obtain ⟨rfl, free⟩ := rests
    exact .andThen (rerun_follows free) (fun _ _ rests => rests) fun _ _ left => left
  · exact fun _ rests => rests
  · exact ⟨rfl, rfl⟩

theorem removeLoop_follows {exhausted : Bool} {entries : List (TaskId × TaskInfo)} :
    (taskProtocol config).Follows (fun outcome control =>
      match outcome with
      | .ok _ => control = ⟨.removing exhausted [], .nothing⟩
      | .error _ => InRound outcome control)
      (Program.forEach entries fun entry => Driver.task (.removeTask entry.1)) ⟨.removing exhausted entries, .nothing⟩ := by
  refine .forEach (fun rest control => control = ⟨.removing exhausted rest, .nothing⟩) ?_ (fun _ same => same) rfl
  intro entry rest control same
  subst same
  refine .perform (.task .remove) fun reply _ => ?_
  cases reply with
  | ok value => rfl
  | error error => exact ⟨rfl, rfl⟩

theorem workerRound_follows : (taskProtocol config).Follows (fun _ control => control.doing.free = true)
    (workerRound config) ⟨.round, .nothing⟩ := by
  have ends : ∀ control, InRound (.ok () : Except Err Unit) control →
      (taskProtocol config).Follows (fun _ control => control.doing.free = true) (Driver.task .endRound) control := by
    intro control inside
    obtain ⟨duty, doing⟩ := control
    exact .perform (.task (.endRound inside.1 inside.2)) fun _ _ => rfl
  refine .through InRound (.tryExcept ?_) (fun _ control inside => ends control inside) ?_
  · refine .andThen retryAll_follows ?_ fun _ _ inside => inside
    intro _ control rests
    obtain ⟨duty, doing⟩ := control
    obtain ⟨rfl, free⟩ := rests
    refine .through (fun outcome control => match outcome with
      | .ok _ => control = ⟨.removing true [], .nothing⟩
      | .error _ => InRound outcome control) ?_ ?_ fun _ _ inside => inside
    · cases doing with
      | nothing => exact getTasks_follows (.task (.listExhausted rfl)) (fun _ => removeLoop_follows) fun _ => ⟨rfl, rfl⟩
      | reading => exact getTasks_follows (.task (.listExhausted rfl)) (fun _ => removeLoop_follows) fun _ => ⟨rfl, rfl⟩
      | _ => cases free
    · intro _ control same
      subst same
      refine getTasks_follows (.task .listCompleted) (fun _ => removeLoop_follows.weaken ?_) fun _ => ⟨rfl, rfl⟩
      intro outcome control left
      cases outcome with
      | ok value => subst left; exact ⟨rfl, rfl⟩
      | error error => exact left
  · intro _ _ inside
    exact inside.2

theorem start_follows : (taskProtocol config).Follows (fun _ control => control.doing.free = true) start
    ⟨.starting, .nothing⟩ := by
  refine getTasks_follows (.task .listRunning) (fun entries => ?_) fun _ => rfl
  refine .through (fun outcome control => match outcome with
    | .ok _ => control = ⟨.recovering [], .nothing⟩
    | .error _ => control.doing.free = true) ?_ ?_ fun _ _ free => free
  · refine .forEach (fun rest control => control = ⟨.recovering rest, .nothing⟩) ?_ (fun _ same => same) rfl
    intro entry rest control same
    subst same
    refine .perform (.task .recover) fun reply _ => ?_
    cases reply <;> rfl
  · intro _ control same
    subst same
    exact .perform (.task .startWorker) fun _ _ => rfl

theorem runFuture_follows (future : Nat) (call : TaskCall) :
    (taskProtocol config).Follows (fun _ control => control.doing.free = true) (runFuture config future call)
      ⟨.queued future call, .nothing⟩ := by
  refine .performThen (.task .begin) (fun begun _ => ?_) fun _ => rfl
  cases begun with
  | false => rfl
  | true =>
    have body : (taskProtocol config).Follows (fun _ control => control = ⟨.working future call, .nothing⟩)
        (taskBody config call).attempt ⟨.working future call, .nothing⟩ := by
      refine .stay (taskBody_within config call).attempt (fun operation issued =>
        ⟨.work issued (TaskCall.footprint_quiet issued), fun reply _ => ?_⟩) fun _ => rfl
      exact Control.next_quiet (TaskCall.footprint_quiet issued) _ reply
    refine .andThen body ?_ ?_
    · intro outcome control same
      subst same
      refine .performThen (.task (.finish _)) (fun callback _ => ?_) fun _ => rfl
      cases callback with
      | none => rfl
      | some id => exact (invokeCallback_follows _ id).weaken fun _ _ back => back.rests.2
    · intro _ control same
      subst same
      rfl

/-- The entries a shutdown goes on with were seen and found running. -/
def Found (entries seen : List (TaskId × Nat)) (live : List Nat) : Prop :=
  ∀ entry ∈ entries, entry ∈ seen ∧ entry.2 ∈ live

def Closing (entries seen : List (TaskId × Nat)) (live : List Nat) (control : Control) : Prop :=
  ∃ more others, control = ⟨.closing (seen ++ more) (live ++ others), .nothing⟩ ∧
    Found entries (seen ++ more) (live ++ others)

private theorem Closing.stand {entries seen : List (TaskId × Nat)} {live : List Nat} (found : Found entries seen live) :
    Closing entries seen live ⟨.closing seen live, .nothing⟩ := ⟨[], [], by simp, by simpa using found⟩

theorem Closing.after {entries seen : List (TaskId × Nat)} {live : List Nat} {control : Control}
    (more : List (TaskId × Nat)) (others : List Nat)
    (closing : Closing entries (seen ++ more) (live ++ others) control) : Closing entries seen live control := by
  obtain ⟨later, last, rfl, found⟩ := closing
  exact ⟨more ++ later, others ++ last, by simp, by simpa using found⟩

theorem stillRunning_follows (size more : Nat) (visited seen : List (TaskId × Nat)) (live : List Nat) :
    (taskProtocol config).Follows (fun outcome control =>
      match outcome with
      | .ok entries => Closing entries seen live control
      | .error _ => control.doing.free = true) (stillRunning size more visited) ⟨.closing seen live, .nothing⟩ := by
  induction more generalizing visited seen live with
  | zero =>
    refine .performThen (.task (.nextItem _ _)) (fun item _ => ?_) fun _ => rfl
    cases item with
    | none => exact .stand (by simp [Found])
    | some entry => exact ⟨[entry], [], by simp; rfl, by simp [Found]⟩
  | succ more ih =>
    refine .performThen (.task (.nextItem _ _)) (fun item _ => ?_) fun _ => rfl
    cases item with
    | none => exact .stand (by simp [Found])
    | some entry =>
      refine .performThen (.task (.isRunning _)) (fun running _ => ?_) fun _ => rfl
      cases running with
      | false =>
        refine .andThen (ih (visited ++ [entry]) (seen ++ [entry]) live) ?_ fun _ _ free => free
        intro rest control closing
        exact .after [entry] [] (by simpa using closing)
      | true =>
        refine .andThen (ih (visited ++ [entry]) (seen ++ [entry]) (live ++ [entry.2])) ?_ fun _ _ free => free
        rintro rest control ⟨later, last, rfl, found⟩
        refine .after [entry] [entry.2] ⟨later, last, rfl, ?_⟩
        exact List.forall_mem_cons.mpr ⟨by simp, found⟩

theorem pollRunning_follows (turns : Nat) (toKill seen : List (TaskId × Nat)) (live : List Nat)
    (found : Found toKill seen live) :
    (taskProtocol config).Follows (fun outcome control =>
      match outcome with
      | .ok entries => Closing entries seen live control
      | .error _ => control.doing.free = true) (pollRunning turns toKill) ⟨.closing seen live, .nothing⟩ := by
  induction turns generalizing toKill seen live with
  | zero => exact .stand found
  | succ turns ih =>
    refine .performThen (.task .countTasks) (fun size _ => ?_) fun _ => rfl
    split
    next => exact .stand found
    next =>
      refine .performThen (.task .countTasks) (fun size _ => ?_) fun _ => rfl
      refine .andThen (stillRunning_follows size size [] seen live) ?_ fun _ _ free => free
      rintro entries control ⟨more, others, rfl, found⟩
      refine (ih entries (seen ++ more) (live ++ others) found).weaken fun outcome control closing => ?_
      cases outcome with
      | error error => exact closing
      | ok last => exact closing.after more others

theorem cancelQueued_follows (more : Nat) (seen : List (TaskId × Nat)) (live : List Nat) :
    (taskProtocol config).Follows (fun _ control => control.doing.free = true) (cancelQueued more)
      ⟨.closing seen live, .nothing⟩ := by
  induction more with
  | zero => rfl
  | succ more ih =>
    refine .performThen (.task .cancelNext) (fun cancelled _ => ?_) fun _ => rfl
    cases cancelled with
    | none => exact ih
    | some id =>
      refine .andThen (invokeCallback_follows _ id) ?_ ?_
      · rintro _ control rfl
        exact ih
      · rintro _ control rfl
        rfl

theorem shutdown_follows : (taskProtocol config).Follows (fun _ control => control.doing.free = true) shutdown
    ⟨.closing [] [], .nothing⟩ := by
  refine .performThen (.task .setShuttingDown) (fun _ _ => ?_) fun _ => rfl
  refine .performThen .polls (fun turns _ => ?_) fun _ => rfl
  refine .andThen (pollRunning_follows turns [] [] [] (by simp [Found])) ?_ fun _ _ free => free
  rintro toKill control ⟨seen, live, rfl, found⟩
  refine .through (fun outcome control => control = ⟨.closing seen live, .nothing⟩) ?_ ?_ ?_
  · refine .forEach (fun rest control => Found rest seen live ∧ control = ⟨.closing seen live, .nothing⟩) ?_
      (fun _ same => same.2) ⟨by simpa using found, rfl⟩
    rintro entry rest control ⟨found, rfl⟩
    obtain ⟨⟨first, ran⟩, others⟩ := List.forall_mem_cons.mp found
    refine .performThen (.task (.kill first ran)) (fun _ _ => ?_) fun _ => rfl
    refine .perform (.task (.saveKilled first)) fun reply _ => ?_
    cases reply with
    | ok value => exact ⟨others, rfl⟩
    | error error => rfl
  · rintro _ control rfl
    exact .performThen (.task .closeExecutor) (fun _ _ => cancelQueued_follows _ _ _) fun _ => rfl
  · rintro _ control rfl
    rfl

end TaskManager

/-- A part of a request: it runs tasks the request may submit, and otherwise
has nothing to do with tasks. -/
def Requests (call : Call) (program : Driver α) : Prop :=
  ∀ doing : Doing, doing.free = true →
    (taskProtocol config).Follows (TaskManager.Rests (.request call)) program ⟨.request call, doing⟩

namespace Requests

variable {config : DriverConfig} {call : Call}

theorem pure (value : α) : Requests config call (Pure.pure value) := fun _ free => ⟨rfl, free⟩

theorem raise (error : Err) : Requests config call (Program.raise error : Driver α) := fun _ free => ⟨rfl, free⟩

theorem bind {program : Driver α} {next : α → Driver β} (first : Requests config call program)
    (rest : ∀ value, Requests config call (next value)) : Requests config call (program >>= next) := by
  intro doing free
  refine .andThen (first doing free) ?_ fun _ _ rests => rests
  intro value control rests
  obtain ⟨duty, doing⟩ := control
  obtain ⟨rfl, free⟩ := rests
  exact rest value doing free

theorem attempt {program : Driver α} (body : Requests config call program) : Requests config call program.attempt :=
  fun doing free => .attempt ((body doing free).weaken fun _ _ rests => rests)

theorem quiet {program : Driver α}
    (within : program.Within Op.lawful (fun operation => call.footprint operation ∧ operation.isTask = false)) :
    Requests config call program := by
  intro doing free
  exact .stay within (fun operation issued => ⟨.requesting free issued.1 issued.2,
    fun reply _ => Control.next_quiet issued.2 _ reply⟩) fun _ => ⟨rfl, free⟩

theorem runTask {job : TaskCall} (submits : call.submits config job) :
    Requests config call (TaskManager.runTask job) := fun _ free => TaskManager.runTask_follows submits free

end Requests

theorem RawFileController.createVolume_requests (call : Call) (request : CreateVolumeRequest)
    (tasking : ∀ operation, TaskingOp operation → call.footprint operation)
    (submits : ∀ pool ∈ config.storagePools, call.submits config (.createVolume (createVolumeArgs request pool))) :
    Requests config call (createVolume config request) := by
  have looking : ∀ operation : Op, operation.reads → call.footprint operation ∧ operation.isTask = false :=
    fun operation reads => ⟨tasking _ (.looking reads), reads.quiet⟩
  have waiting : ∀ turns isReady, Requests config call (awaitReady request.name turns isReady) := by
    intro turns
    induction turns with
    | zero => exact fun _ => .pure _
    | succ turns ih =>
      refine fun _ => .bind (.quiet (metadataOr_within looking _)) fun data => ?_
      dsimp only
      split
      · exact .pure _
      · exact ih _
  have submitting : ∀ pool ∈ config.storagePools, Requests config call (readyOrSubmit (createVolumeArgs request pool)) := by
    refine fun pool known => .bind (.attempt (.quiet (metadata_within looking _))) fun outcome => ?_
    split
    · exact .pure _
    · exact .bind (.runTask (submits pool known)) fun _ => .pure _
    · exact .raise _
  have naming : Requests config call (nodeName request) := by
    unfold nodeName
    split
    · exact .raise _
    · exact .pure _
  unfold createVolume storagePool
  dsimp only
  split
  next known =>
    rw [Program.pure_bind]
    refine .bind naming fun node => ?_
    split
    · exact .raise _
    · refine .bind (.quiet (getCapacity_within looking _ _)) fun capacity => ?_
      split
      · exact .raise _
      · refine .bind (submitting _ known) fun isReady => .bind (.quiet (.perform (looking _ trivial))) fun turns =>
          .bind (waiting _ _) fun ready => ?_
        split
        · exact .raise _
        · exact .pure _
  next => exact .raise _

theorem Bd2Fs.createVolume_requests (request : CreateVolumeRequest) :
    Requests config (.createVolume request) (createVolume config request) := by
  unfold createVolume
  split
  · split
    · exact .raise _
    · refine .bind ?_ fun _ => RawFileController.createVolume_requests config _ _ (fun _ issued => issued)
        fun pool known => ⟨pool, known, rfl⟩
      unfold checkAccessType
      split
      · exact .pure _
      · exact .raise _
  · exact .raise _

theorem Bd2Fs.createSnapshot_requests (request : CreateSnapshotRequest) :
    Requests config (.createSnapshot request) (createSnapshot config request) := by
  have looking : ∀ operation : Op, operation.reads →
      (Call.createSnapshot request).footprint operation ∧ operation.isTask = false :=
    fun operation reads => ⟨.inl (.looking reads), reads.quiet⟩
  have listing : Requests config (.createSnapshot request) (currentSnapshot config request) :=
    .bind (.quiet (listSnapshots_within looking _ _ _ _)) fun _ => .pure _
  have waiting : ∀ turns, Requests config (.createSnapshot request) (awaitSnapshot config request turns) := by
    intro turns
    induction turns with
    | zero => exact .pure _
    | succ turns ih =>
      refine .bind listing fun current => ?_
      split
      · split
        · exact .pure _
        · exact ih
      · exact ih
  have submitting : ∀ data, Requests config (.createSnapshot request) (submitUnlessListed config request data) := by
    refine fun data => .bind listing fun current => ?_
    split
    · exact .bind (.runTask ⟨data, rfl⟩) fun _ => .pure _
    · exact .pure _
  unfold createSnapshot snapshotsOnly
  split
  · refine .bind (.quiet (withVolLock_within ⟨.inr (.inl rfl), rfl⟩ ⟨.inr (.inr rfl), rfl⟩ (metadata_within looking _)))
      fun data => .bind (submitting data) fun _ => .bind (.quiet (.perform (looking _ trivial))) fun turns =>
      .bind (waiting turns) fun _ => .pure _
  · exact .raise _

theorem plain_follows {config : DriverConfig} {call : Call} (plain : call.duty = .plain call) :
    (taskProtocol config).Follows (fun _ control => control.doing.free = true) (call.program config)
      ⟨.plain call, .nothing⟩ :=
  .stay (call.program_within config) (fun _ issued => ⟨.plain issued (call.plain_quiet plain issued),
    fun reply _ => Control.next_quiet (call.plain_quiet plain issued) _ reply⟩) fun _ => rfl

/-- Every call follows the protocol of the tasks. -/
theorem Call.follows (call : Call) :
    (taskProtocol config).Follows (fun _ control => control.doing.free = true) (call.program config) ⟨call.duty, .nothing⟩ := by
  cases call with
  | createVolume request =>
    exact .andThen (Bd2Fs.createVolume_requests config request .nothing rfl) (fun _ _ rests => rests.2)
      fun _ _ rests => rests.2
  | createSnapshot request =>
    exact .andThen (Bd2Fs.createSnapshot_requests config request .nothing rfl) (fun _ _ rests => rests.2)
      fun _ _ rests => rests.2
  | future index job => exact TaskManager.runFuture_follows index job
  | start => exact TaskManager.start_follows
  | workerRound => exact TaskManager.workerRound_follows
  | shutdown => exact TaskManager.shutdown_follows
  | deleteVolume | deleteSnapshot | nodeStageVolume | expandRawFile | task => exact plain_follows rfl

theorem Call.accept_tasks {call : Call} {before after : Node} (accepted : call.accept before = some after) :
    after.tasks = before.tasks ∨
    (call = .start ∧ before.tasks.phase = .down ∧ after.tasks = { before.tasks with phase := .starting }) ∨
    (call = .workerRound ∧ (before.tasks.workerStarted = true ∧ before.tasks.inRound = false ∧
      before.tasks.shuttingDown = false) ∧ after.tasks = { before.tasks with inRound := true }) := by
  cases call
  all_goals simp only [accept] at accepted
  all_goals try split at accepted
  all_goals cases accepted
  case start.isTrue down => exact .inr (.inl ⟨rfl, down, rfl⟩)
  case workerRound.isTrue ready => exact .inr (.inr ⟨rfl, by simpa [and_assoc] using ready, rfl⟩)
  all_goals exact .inl rfl

theorem Call.accept_frame {call : Call} {before after : Node} (accepted : call.accept before = some after) :
    after.tasks.store = before.tasks.store ∧ after.tasks.futures = before.tasks.futures ∧
      after.tasks.registered = before.tasks.registered ∧ after.tasks.workerStarted = before.tasks.workerStarted := by
  rcases accept_tasks accepted with same | ⟨_, _, same⟩ | ⟨_, _, same⟩ <;> simp [same]

def taskControl : Tracking (nodePlugin config) Control where
  protocol := taskProtocol config
  initial call := ⟨call.duty, .nothing⟩
  ended control := control.doing.free = true
  obeys := nodePlugin_lawful
  follows := by
    intro call state after program entered
    obtain ⟨node, accepted, same⟩ := Option.map_eq_some_iff.mp entered
    cases same
    exact call.follows config

theorem kept_point {points : List (Call × Control)} {thread : Nat} {current moved point : Call × Control}
    (standing : points[thread]? = some current) (member : point ∈ points) :
    point = current ∨ point ∈ points.set thread moved := by
  obtain ⟨position, found⟩ := List.mem_iff_getElem?.mp member
  by_cases same : thread = position
  · subst same
    rw [standing] at found
    exact .inl (Option.some.inj found).symm
  · refine .inr (List.mem_iff_getElem?.mpr ⟨position, ?_⟩)
    rw [List.getElem?_set_ne same]
    exact found

theorem moved_point {points : List (Call × Control)} {thread : Nat} {current moved : Call × Control}
    (standing : points[thread]? = some current) : moved ∈ points.set thread moved :=
  List.mem_set (List.getElem?_eq_some_iff.mp standing).1 moved

/-- An invariant of the task manager and the control points. What the other
operations do is none of its business. -/
structure TaskInvariant (config : DriverConfig) (allowed : NodeConfig → NodeEvent → Prop)
    (invariant : Tasks → List (Call × Control) → Prop) : Prop where
  enters : ∀ {now : NodeConfig} {points call node}, allowed now (.enter call) →
    (taskProtocol config).Tracks (taskControl config).ended now.threads points → invariant now.state.tasks points →
    call.accept now.state = some node → invariant node.tasks (points ++ [(call, ⟨call.duty, .nothing⟩)])
  steps : ∀ {now : NodeConfig} {points thread answer call control} {operation : TaskOp} {next}
    {reply : Except Err operation.Reply} {tasks}, allowed now (.step thread answer) →
    (taskProtocol config).Tracks (taskControl config).ended now.threads points →
    now.threads[thread]? = some ⟨call, .request (.task operation) next⟩ → points[thread]? = some (call, control) →
    Issues config control operation → (Op.task operation).blocks now.state = false →
    operation.exec answer now.state.tasks = (reply, tasks) → invariant now.state.tasks points →
    invariant tasks (points.set thread (call, control.next config (.task operation) reply))
  crashes : ∀ {now : NodeConfig} {points}, allowed now .crash →
    (taskProtocol config).Tracks (taskControl config).ended now.threads points → invariant now.state.tasks points →
    invariant { store := now.state.tasks.store } []

theorem TaskInvariant.keeps {config : DriverConfig} {allowed : NodeConfig → NodeEvent → Prop}
    {invariant : Tasks → List (Call × Control) → Prop} (kept : TaskInvariant config allowed invariant) :
    (taskControl config).Keeps allowed (fun node points => invariant node.tasks points) where
  enters := by
    intro now points call state program permitted tracks known entered
    obtain ⟨node, accepted, same⟩ := Option.map_eq_some_iff.mp entered
    cases same
    exact kept.enters permitted tracks known accepted
  steps := by
    intro now points thread answer call operation next control reply state permitted tracks found standing issued
      answered known
    obtain ⟨free, executed⟩ := nodePlugin_exec answered
    cases quiet : operation.isTask with
    | true =>
      cases operation with
      | task operation =>
        simp only [Op.exec, Prod.mk.injEq] at executed
        obtain ⟨same, rfl⟩ := executed
        exact kept.steps permitted tracks found standing (Allows.issues issued) free (Prod.ext same rfl) known
      | _ => cases quiet
    | false =>
      have frame : (operation.exec thread answer now.state).2.tasks = now.state.tasks :=
        Op.exec_tasks _ _ _ _ (by rintro task rfl; cases quiet)
      rw [executed] at frame
      have stays : control.next config operation reply = control := Control.next_quiet quiet control reply
      have unmoved : points.set thread (call, control) = points := by
        apply List.ext_getElem?
        intro index
        rw [List.getElem?_set]
        grind
      show invariant state.tasks (points.set thread (call, control.next config operation reply))
      rw [frame, stays, unmoved]
      exact known
  crashes := kept.crashes
  drifts := by
    intro now points change permitted known
    show invariant (change.apply now.state).tasks points
    rw [change.apply_tasks]
    exact known

end Rawfile
