import Rawfile.Proofs.TaskControl

/-! How the parts of the task manager name tasks. In every run a record stands
under the id of its task, a future carries the callback and the record of the
task it was submitted for, and every thread deals with tasks its call may deal
with. -/

namespace Rawfile
open Effects TaskManager

def Call.deals (config : DriverConfig) : Call → TaskCall → Prop
  | .future _ job, other => other = job
  | .createVolume request, job => Call.submits config (.createVolume request) job
  | .createSnapshot request, job => Call.submits config (.createSnapshot request) job
  | .workerRound, _ | .shutdown, _ => True
  | _, _ => False

private theorem Call.deals_of_submits {config : DriverConfig} {call : Call} {job : TaskCall} (submits : call.submits config job) :
    call.deals config job := by
  cases call with
  | createVolume | createSnapshot => exact submits
  | _ => cases submits

section
variable (tasks : Tasks) (call : Call)

def Duty.Linked : Duty → Prop
  | .plain own | .request own => own = call
  | .queued future job | .working future job => call = .future future job ∧ tasks.call future = some job
  | .starting => call = .start
  | .recovering rest => call = .start ∧ ∀ entry ∈ rest, entry.2.call = entry.1
  | .round | .removing _ _ => call = .workerRound
  | .retrying rest => call = .workerRound ∧ ∀ entry ∈ rest, entry.2.call = entry.1
  | .closing seen _ => call = .shutdown ∧ ∀ entry ∈ seen, tasks.call entry.2 = some entry.1
  | .over => True

def Doing.Linked (config : DriverConfig) : Doing → Prop
  | .nothing | .checking | .reading _ => True
  | .pending info => call.deals config info.call
  | .submitted info future | .recorded info future => call.deals config info.call ∧ tasks.call future = some info.call
  | .calling id => call.deals config id
  | .registered id future | .popped id future | .succeeded id future | .failing id future _ | .counted id future _
  | .noted id future | .saving id future => call.deals config id ∧ tasks.call future = some id

end

structure Linked (config : DriverConfig) (tasks : Tasks) (points : List (Call × Control)) : Prop where
  records : ∀ {id info}, tasks.store.lookup id = some info → info.call = id
  callbacks : ∀ {future id}, tasks.callback future = some id → tasks.call future = some id
  infos : ∀ {future info}, tasks.info future = some info → tasks.call future = some info.call
  registered : ∀ {id future}, tasks.registered.lookup id = some future → tasks.call future = some id
  duties : ∀ point ∈ points, point.2.duty.Linked tasks point.1
  doings : ∀ point ∈ points, point.2.doing.Linked tasks point.1 config

namespace Linked

variable {config : DriverConfig} {tasks after : Tasks} {answer : Answer} {operation : TaskOp}
  {reply : Except Err operation.Reply} {control : Control} {call : Call} {points : List (Call × Control)} {thread : Nat}

theorem duty_mono {duty : Duty} (grows : ∀ {future job}, tasks.call future = some job → after.call future = some job)
    (linked : duty.Linked tasks call) : duty.Linked after call := by
  cases duty with
  | queued | working => exact ⟨linked.1, grows linked.2⟩
  | closing => exact ⟨linked.1, fun entry member => grows (linked.2 entry member)⟩
  | _ => exact linked

theorem doing_mono {doing : Doing} (grows : ∀ {future job}, tasks.call future = some job → after.call future = some job)
    (linked : doing.Linked tasks call config) : doing.Linked after call config := by
  cases doing with
  | nothing | checking | reading | pending | calling => exact linked
  | _ => exact ⟨linked.1, grows linked.2⟩

section
variable (known : Linked config tasks points) (standing : points[thread]? = some (call, control))
  (issued : Issues config control operation) (executed : operation.exec answer tasks = (reply, after))
include known standing issued executed

theorem records_step {id : TaskId} {info : TaskInfo} (found : after.store.lookup id = some info) : info.call = id := by
  have duty := known.duties _ (List.mem_of_getElem? standing)
  have doing := known.doings _ (List.mem_of_getElem? standing)
  rcases TaskOp.exec_store executed found with kept | ⟨rfl, _⟩ | ⟨future, rfl, memory⟩
  · exact known.records kept
  · cases issued with
    | launch | relaunch | record => rfl
    | recover => exact duty.2 _ (List.mem_cons_self ..)
  · have same := known.infos memory
    cases issued with
    | save => exact Option.some.inj (same.symm.trans doing.2)
    | saveKilled among => exact Option.some.inj (same.symm.trans (duty.2 _ among))

theorem control_step :
    (control.next config (.task operation) reply).duty.Linked after call ∧
      (control.next config (.task operation) reply).doing.Linked after call config := by
  have duty := known.duties _ (List.mem_of_getElem? standing)
  have doing := known.doings _ (List.mem_of_getElem? standing)
  replace duty : control.duty.Linked after call := duty_mono (TaskOp.exec_call executed) duty
  replace doing : control.doing.Linked after call config := doing_mono (TaskOp.exec_call executed) doing
  have stays : ∀ {α : Type} {outcome : Except Err α} {next : α → Doing},
      (∀ value, outcome = .ok value → (next value).Linked after call config) →
      (control.doingIf outcome next).duty.Linked after call ∧
        (control.doingIf outcome next).doing.Linked after call config := by
    intro α outcome next linked
    cases outcome with
    | ok value => exact ⟨duty, linked value rfl⟩
    | error error => exact ⟨duty, trivial⟩
  have listed : ∀ entry ∈ tasks.listed, entry.2.call = entry.1 :=
    fun entry member => known.records (Tasks.mem_listed.mp member)
  cases issued with
  | ask =>
    refine stays fun down _ => ?_
    cases down <;> trivial
  | check => exact stays fun _ _ => trivial
  | @launch own entries id submits =>
    have same : own = call := duty
    subst same
    cases reply with
    | ok value => exact ⟨duty, Call.deals_of_submits submits⟩
    | error error => exact ⟨duty, trivial⟩
  | @relaunch entry rest entries =>
    have left : (Duty.retrying rest).Linked after call :=
      ⟨duty.1, fun other member => duty.2 other (List.mem_cons_of_mem _ member)⟩
    cases duty.1
    cases reply with
    | ok value => exact ⟨left, trivial⟩
    | error error => exact ⟨left, trivial⟩
  | submit =>
    refine stays fun future same => ⟨doing, ?_⟩
    subst same
    exact TaskOp.submit_call executed
  | record | register => exact stays fun _ _ => doing
  | addCallback =>
    refine stays fun now _ => ?_
    cases now
    · trivial
    · exact doing.1
  | pop =>
    refine stays fun found same => ?_
    subst same
    cases executed
    cases held : tasks.registered.lookup _ with
    | none => trivial
    | some future => exact ⟨doing, known.registered held⟩
  | inspect =>
    refine stays fun error _ => ?_
    cases error <;> exact doing
  | complete | count | note | fail => exact stays fun _ _ => doing
  | save => exact ⟨duty, trivial⟩
  | begin =>
    rcases reply with error | begun
    · exact ⟨trivial, trivial⟩
    · cases begun
      · exact ⟨trivial, trivial⟩
      · exact ⟨duty, trivial⟩
  | finish =>
    rcases reply with error | _ | id
    · exact ⟨trivial, trivial⟩
    · exact ⟨trivial, trivial⟩
    · refine ⟨trivial, ?_⟩
      have called : tasks.callback _ = some id := (Except.ok.inj (Prod.ext_iff.mp executed).1)
      cases duty.1
      exact Option.some.inj ((TaskOp.exec_call executed (known.callbacks called)).symm.trans duty.2)
  | listRunning =>
    rcases TaskOp.getTasks_reply executed with ⟨error, rfl⟩ | rfl
    · exact ⟨duty, trivial⟩
    · exact ⟨⟨duty, fun entry member => listed entry (List.mem_filter.mp member).1⟩, trivial⟩
  | listRetriable =>
    rcases TaskOp.getTasks_reply executed with ⟨error, rfl⟩ | rfl
    · exact ⟨duty, trivial⟩
    · exact ⟨⟨duty, fun entry member => listed entry (List.mem_filter.mp member).1⟩, trivial⟩
  | @listExhausted stands free =>
    cases stands with
    | nothing | reading =>
      cases reply with
      | error error => exact ⟨duty, trivial⟩
      | ok entries => exact ⟨duty.1, trivial⟩
    | _ => cases free
  | listCompleted => cases reply <;> exact ⟨duty, trivial⟩
  | recover =>
    cases reply with
    | ok value => exact ⟨⟨duty.1, fun other member => duty.2 other (List.mem_cons_of_mem _ member)⟩, trivial⟩
    | error error => exact ⟨trivial, trivial⟩
  | remove => exact ⟨duty, trivial⟩
  | startWorker | endRound => exact ⟨trivial, trivial⟩
  | setShuttingDown | countTasks | kill | saveKilled | closeExecutor => exact ⟨duty, trivial⟩
  | isRunning => rcases reply with error | _ | _ <;> exact ⟨duty, trivial⟩
  | nextItem =>
    rcases reply with error | _ | entry
    · exact ⟨duty, trivial⟩
    · exact ⟨duty, trivial⟩
    · refine ⟨⟨duty.1, forall_mem_snoc duty.2 ?_⟩, trivial⟩
      exact TaskOp.exec_call executed (known.registered (TaskOp.nextItem_registered executed))
  | cancelNext =>
    cases duty.1
    rcases reply with error | _ | id
    · exact ⟨duty, trivial⟩
    · exact ⟨duty, trivial⟩
    · exact ⟨duty, trivial⟩

theorem step : Linked config after (points.set thread (call, control.next config (.task operation) reply)) := by
  have doing := known.doings _ (List.mem_of_getElem? standing)
  have linked := known.control_step standing issued executed
  constructor
  · exact fun found => known.records_step standing issued executed found
  · intro future id found
    rcases TaskOp.exec_callback executed found with before | rfl
    · exact TaskOp.exec_call executed (known.callbacks before)
    · cases issued
      exact TaskOp.exec_call executed doing.2
  · intro future info found
    rcases TaskOp.exec_info executed found with ⟨old, before, same⟩ | ⟨id, rfl⟩
    · rw [same]
      exact TaskOp.exec_call executed (known.infos before)
    · cases issued
      exact TaskOp.exec_call executed doing.2
  · intro id future found
    rcases TaskOp.exec_registered executed found with before | ⟨info, rfl⟩
    · exact TaskOp.exec_call executed (known.registered before)
    · cases issued
      exact TaskOp.exec_call executed doing.2
  · exact forall_mem_set (fun point member => duty_mono (TaskOp.exec_call executed) (known.duties point member)) linked.1
  · exact forall_mem_set (fun point member => doing_mono (TaskOp.exec_call executed) (known.doings point member)) linked.2

end

theorem enter {before node : Node} (known : Linked config before.tasks points)
    (accepted : call.accept before = some node) :
    Linked config node.tasks (points ++ [(call, ⟨call.duty, .nothing⟩)]) := by
  obtain ⟨store, futures, registered, -⟩ := Call.accept_frame accepted
  have calls : ∀ {future job}, before.tasks.call future = some job → node.tasks.call future = some job := by
    intro future job found
    rwa [Tasks.call, futures]
  constructor
  · rw [store]
    exact known.records
  · intro future id found
    rw [Tasks.callback, futures] at found
    exact calls (known.callbacks found)
  · intro future info found
    rw [Tasks.info, futures] at found
    exact calls (known.infos found)
  · intro id future found
    rw [registered] at found
    exact calls (known.registered found)
  · refine forall_mem_snoc (fun point member => duty_mono calls (known.duties point member)) ?_
    cases call with
    | future index job =>
      refine ⟨rfl, calls ?_⟩
      simp only [Call.accept] at accepted
      split at accepted
      next same => exact same
      next => cases accepted
    | shutdown => exact ⟨rfl, by simp⟩
    | _ => rfl
  · exact forall_mem_snoc (fun point member => doing_mono calls (known.doings point member)) trivial

theorem crash (known : Linked config tasks points) : Linked config { store := tasks.store } [] := by
  constructor
  · exact known.records
  all_goals simp [Tasks.callback, Tasks.info]

theorem invariant (config : DriverConfig) (allowed : NodeConfig → NodeEvent → Prop) :
    TaskInvariant config allowed (Linked config) where
  enters _ _ known accepted := known.enter accepted
  steps _ _ _ standing issued _ executed known := known.step standing issued executed
  crashes _ _ known := known.crash

theorem initial (config : DriverConfig) : Linked config NodeConfig.initial.state.tasks [] := by
  constructor <;> simp [NodeConfig.initial, Tasks.callback, Tasks.info]

end Linked
end Rawfile
