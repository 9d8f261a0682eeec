import Rawfile.Proofs.TaskLinks

/-! Tasks that outlive the object they create. Once no task for a volume or a
snapshot is left in the store, in memory, in the executor or in a thread, the
task manager does not bring one back by itself. -/

namespace Rawfile
open Effects TaskManager

inductive CsiObject where
  | volume (id : VolumeId)
  | snapshot (source : VolumeId) (name : String)
  deriving DecidableEq

namespace CsiObject

def makes : CsiObject → TaskCall → Bool
  | .volume id, .createVolume args => args.volumeId = id
  | .snapshot source name, .createSnapshot args => args.volumeId = source && args.name = name && !args.temporary
  | _, _ => false

def asks : CsiObject → Call → Bool
  | .volume id, .createVolume request => request.name = id
  | .snapshot source name, .createSnapshot request => request.sourceVolumeId = source && request.name = name
  | object, .task job => object.makes job
  | _, _ => false

def concerns (object : CsiObject) : Call → Bool
  | .future _ job => object.makes job
  | .start | .workerRound | .shutdown => true
  | call => object.asks call

/-- Nothing of a task for the object is left: no record but a completed one, no
entry in memory, nothing in the executor and no thread that deals with it. -/
def settled (object : CsiObject) (now : NodeConfig) : Bool :=
  now.threads.all (fun thread => thread.program.finished || !object.concerns thread.call) &&
  now.state.tasks.listed.all (fun entry => !object.makes entry.1 || entry.2.state = .completed) &&
  now.state.tasks.inMemory.all (fun entry => !object.makes entry.1) &&
  now.state.tasks.futures.all fun future =>
    !object.makes future.call || (future.status ≠ .queued && future.status ≠ .running)

theorem concerns_of_submits {object : CsiObject} {config : DriverConfig} {call : Call} {job : TaskCall}
    (submits : call.submits config job) (makes : object.makes job = true) : object.concerns call = true := by
  cases call with
  | createVolume request =>
    obtain ⟨pool, _, rfl⟩ := submits
    cases object with
    | volume id => exact makes
    | snapshot => cases makes
  | createSnapshot request =>
    obtain ⟨data, rfl⟩ := submits
    cases object with
    | volume => cases makes
    | snapshot source name => simpa [CsiObject.makes, concerns, asks] using makes
  | _ => cases submits

end CsiObject

section
variable (object : CsiObject)

def Duty.Avoids : Duty → Prop
  | .plain call | .request call => object.concerns call = false
  | .working _ job => object.makes job = false
  | .recovering rest | .retrying rest => ∀ entry ∈ rest, object.makes entry.1 = false
  | .closing seen _ => ∀ entry ∈ seen, object.makes entry.1 = false
  | _ => True

def Doing.Avoids : Doing → Prop
  | .nothing | .checking | .reading _ => True
  | .pending info | .submitted info _ | .recorded info _ => object.makes info.call = false
  | .registered id _ | .calling id | .popped id _ | .succeeded id _ | .failing id _ _ | .counted id _ _ | .noted id _
  | .saving id _ => object.makes id = false

structure Forgotten (tasks : Tasks) (points : List (Call × Control)) : Prop where
  records : ∀ {id info}, tasks.store.lookup id = some info → object.makes id = true → info.state = .completed
  futures : ∀ {future job}, tasks.call future = some job → object.makes job = true →
    tasks.status future ≠ some .queued ∧ tasks.status future ≠ some .running
  registered : ∀ {id future}, tasks.registered.lookup id = some future → object.makes id = false
  duties : ∀ point ∈ points, point.2.duty.Avoids object
  doings : ∀ point ∈ points, point.2.doing.Avoids object

end

namespace Forgotten

variable {object : CsiObject} {config : DriverConfig} {tasks after : Tasks} {answer : Answer} {operation : TaskOp}
  {reply : Except Err operation.Reply} {control : Control} {call : Call} {points : List (Call × Control)} {thread : Nat}

section
variable (known : Forgotten object tasks points) (linked : Linked config tasks points)
  (standing : points[thread]? = some (call, control)) (issued : Issues config control operation)
  (executed : operation.exec answer tasks = (reply, after))
include known linked standing issued executed

theorem records_step {id : TaskId} {info : TaskInfo}
    (found : after.store.lookup id = some info) (makes : object.makes id = true) : info.state = .completed := by
  have duty := known.duties _ (List.mem_of_getElem? standing)
  have doing := known.doings _ (List.mem_of_getElem? standing)
  rcases TaskOp.exec_store executed found with kept | ⟨rfl, _⟩ | ⟨future, rfl, memory⟩
  · exact known.records kept makes
  · cases issued with
    | launch submits => cases (CsiObject.concerns_of_submits submits makes).symm.trans duty
    | @relaunch entry =>
      have named := (linked.duties _ (List.mem_of_getElem? standing)).2 entry (List.mem_cons_self ..)
      rw [named] at makes
      cases makes.symm.trans (duty entry (List.mem_cons_self ..))
    | record => cases makes.symm.trans doing
    | recover => cases makes.symm.trans (duty _ (List.mem_cons_self ..))
  · cases issued with
    | save => cases makes.symm.trans doing
    | saveKilled among => cases makes.symm.trans (duty _ among)

theorem control_step :
    (control.next config (.task operation) reply).duty.Avoids object ∧
      (control.next config (.task operation) reply).doing.Avoids object := by
  have duty := known.duties _ (List.mem_of_getElem? standing)
  have doing := known.doings _ (List.mem_of_getElem? standing)
  have named := linked.duties _ (List.mem_of_getElem? standing)
  have stays : ∀ {α : Type} {outcome : Except Err α} {next : α → Doing},
      (∀ value, outcome = .ok value → (next value).Avoids object) →
      (control.doingIf outcome next).duty.Avoids object ∧ (control.doingIf outcome next).doing.Avoids object := by
    intro α outcome next avoids
    cases outcome with
    | ok value => exact ⟨duty, avoids value rfl⟩
    | error error => exact ⟨duty, trivial⟩
  have unmade : ∀ id, ¬ object.makes id = true → object.makes id = false := fun id => Bool.of_not_eq_true
  cases issued with
  | ask =>
    refine stays fun down _ => ?_
    cases down <;> trivial
  | check => exact stays fun _ _ => trivial
  | @launch own entries id submits =>
    cases reply with
    | ok value =>
      refine ⟨duty, unmade id fun makes => ?_⟩
      cases (CsiObject.concerns_of_submits submits makes).symm.trans duty
    | error error => exact ⟨duty, trivial⟩
  | @relaunch entry rest entries =>
    have left : (Duty.retrying rest).Avoids object := fun other member => duty other (List.mem_cons_of_mem _ member)
    cases reply with
    | ok value =>
      refine ⟨left, ?_⟩
      have avoids := duty entry (List.mem_cons_self ..)
      rwa [← named.2 entry (List.mem_cons_self ..)] at avoids
    | error error => exact ⟨left, trivial⟩
  | submit | record | register => exact stays fun _ _ => doing
  | addCallback =>
    refine stays fun now _ => ?_
    cases now
    · trivial
    · exact doing
  | pop =>
    refine stays fun found same => ?_
    cases found with
    | none => trivial
    | some future => exact doing
  | inspect =>
    refine stays fun error _ => ?_
    cases error <;> exact doing
  | complete | count | note | fail => exact stays fun _ _ => doing
  | save => exact ⟨duty, trivial⟩
  | @begin future job =>
    rcases reply with error | begun
    · exact ⟨trivial, trivial⟩
    · cases begun
      · exact ⟨trivial, trivial⟩
      · refine ⟨unmade job fun makes => (known.futures named.2 makes).1 ?_, trivial⟩
        exact TaskOp.begin_reply executed
  | @finish future job =>
    rcases reply with error | _ | id
    · exact ⟨trivial, trivial⟩
    · exact ⟨trivial, trivial⟩
    · have called : tasks.callback future = some id := Except.ok.inj (Prod.ext_iff.mp executed).1
      cases Option.some.inj ((linked.callbacks called).symm.trans named.2)
      exact ⟨trivial, duty⟩
  | listRunning | listRetriable =>
    rcases TaskOp.getTasks_reply executed with ⟨error, rfl⟩ | rfl
    · exact ⟨duty, trivial⟩
    · refine ⟨fun entry member => unmade _ fun makes => ?_, trivial⟩
      obtain ⟨among, selected⟩ := List.mem_filter.mp member
      have completed := known.records (Tasks.mem_listed.mp among) makes
      simp [inState, retriable, completed] at selected
  | @listExhausted stands free =>
    cases stands with
    | nothing | reading =>
      cases reply with
      | error error => exact ⟨duty, trivial⟩
      | ok entries => exact ⟨trivial, trivial⟩
    | _ => cases free
  | listCompleted => cases reply <;> exact ⟨trivial, trivial⟩
  | recover =>
    cases reply with
    | ok value => exact ⟨fun other member => duty other (List.mem_cons_of_mem _ member), trivial⟩
    | error error => exact ⟨trivial, trivial⟩
  | remove | startWorker | endRound => exact ⟨trivial, trivial⟩
  | setShuttingDown | countTasks | kill | saveKilled | closeExecutor => exact ⟨duty, trivial⟩
  | isRunning => rcases reply with error | _ | _ <;> exact ⟨duty, trivial⟩
  | nextItem =>
    rcases reply with error | _ | entry
    · exact ⟨duty, trivial⟩
    · exact ⟨duty, trivial⟩
    · exact ⟨forall_mem_snoc duty (known.registered (TaskOp.nextItem_registered executed)), trivial⟩
  | cancelNext =>
    rcases reply with error | _ | id
    · exact ⟨duty, trivial⟩
    · exact ⟨duty, trivial⟩
    · obtain ⟨future, called, queued⟩ := TaskOp.cancelNext_reply executed
      exact ⟨duty, unmade id fun makes => (known.futures (linked.callbacks called) makes).1 queued⟩

theorem step : Forgotten object after (points.set thread (call, control.next config (.task operation) reply)) := by
  have doing := known.doings _ (List.mem_of_getElem? standing)
  have avoids := known.control_step linked standing issued executed
  constructor
  · exact fun found makes => known.records_step linked standing issued executed found makes
  · intro future job called makes
    have before : ∀ {status}, tasks.status future = some status → tasks.call future = some job := by
      intro status found
      obtain ⟨entry, member, _⟩ := Option.map_eq_some_iff.mp found
      have old : tasks.call future = some entry.call := by rw [Tasks.call, member]; rfl
      rw [← called, TaskOp.exec_call executed old, old]
    have ended : ∀ status, after.status future = some status → status ≠ .queued ∧ status ≠ .running := by
      intro status found
      rcases TaskOp.exec_status executed found with same | ⟨other, rfl, submitted⟩ | ⟨_, queued⟩ | ⟨error, rfl⟩ | rfl
      · have closed := known.futures (before same) makes
        rw [same] at closed
        exact ⟨fun equal => closed.1 (by rw [equal]), fun equal => closed.2 (by rw [equal])⟩
      · cases issued
        cases Option.some.inj (called.symm.trans submitted)
        cases makes.symm.trans doing
      · exact absurd queued (known.futures (before queued) makes).1
      · simp
      · simp
    exact ⟨fun queued => (ended _ queued).1 rfl, fun running => (ended _ running).2 rfl⟩
  · intro id future found
    rcases TaskOp.exec_registered executed found with before | ⟨info, rfl⟩
    · exact known.registered before
    · cases issued
      exact doing
  · exact forall_mem_set known.duties avoids.1
  · exact forall_mem_set known.doings avoids.2

end

theorem enter {before node : Node} (known : Forgotten object before.tasks points) (other : object.asks call = false)
    (accepted : call.accept before = some node) :
    Forgotten object node.tasks (points ++ [(call, ⟨call.duty, .nothing⟩)]) := by
  obtain ⟨store, futures, registered, -⟩ := Call.accept_frame accepted
  constructor
  · rw [store]
    exact known.records
  · intro future job called
    simp only [Tasks.call, Tasks.status, futures] at called ⊢
    exact known.futures called
  · rw [registered]
    exact known.registered
  · refine forall_mem_snoc known.duties ?_
    cases call with
    | future | start | workerRound => trivial
    | shutdown => simp [Call.duty, Duty.Avoids]
    | _ => exact other
  · exact forall_mem_snoc known.doings trivial

theorem crash (known : Forgotten object tasks points) : Forgotten object { store := tasks.store } [] := by
  constructor
  · exact known.records
  all_goals simp [Tasks.call]

theorem invariant (object : CsiObject) (config : DriverConfig) :
    TaskInvariant config (fun _ event => event.begins (fun call => !object.asks call) = true)
      (fun tasks points => Linked config tasks points ∧ Forgotten object tasks points) where
  enters permitted _ known accepted := by
    refine ⟨known.1.enter accepted, known.2.enter ?_ accepted⟩
    simpa [Event.begins] using permitted
  steps _ _ _ standing issued _ executed known :=
    ⟨known.1.step standing issued executed, known.2.step known.1 standing issued executed⟩
  crashes _ _ known := ⟨known.1.crash, known.2.crash⟩

private theorem unmade_of_deals {id : TaskId} (deals : call.deals config id) (apart : object.concerns call = false) :
    object.makes id = false := by
  cases call with
  | future index job => cases deals; exact apart
  | createVolume request =>
    have submits : Call.submits config (.createVolume request) id := deals
    exact Bool.of_not_eq_true fun makes => nomatch (CsiObject.concerns_of_submits submits makes).symm.trans apart
  | createSnapshot request =>
    have submits : Call.submits config (.createSnapshot request) id := deals
    exact Bool.of_not_eq_true fun makes => nomatch (CsiObject.concerns_of_submits submits makes).symm.trans apart
  | workerRound | shutdown => cases apart
  | _ => cases deals

private theorem unconcerned {control : Control} (linked : Linked config tasks points) (member : (call, control) ∈ points)
    (apart : object.concerns call = false) : control.duty.Avoids object ∧ control.doing.Avoids object := by
  have duty := linked.duties _ member
  have doing := linked.doings _ member
  obtain ⟨own, stands⟩ := control
  constructor
  · cases own with
    | plain other | request other =>
      have same : other = call := duty
      rw [same]
      exact apart
    | working =>
      cases duty.1
      exact apart
    | recovering | retrying | closing =>
      cases duty.1
      cases apart
    | _ => trivial
  · cases stands with
    | nothing | checking | reading => trivial
    | pending | calling => exact unmade_of_deals doing apart
    | _ => exact unmade_of_deals doing.1 apart

theorem initial {now : NodeConfig} (settled : object.settled now = true)
    (holds : (taskControl config).Holds (fun node points => Linked config node.tasks points) now) :
    (taskControl config).Holds (fun node points => Linked config node.tasks points ∧ Forgotten object node.tasks points)
      now := by
  obtain ⟨points, tracks, linked⟩ := holds
  simp only [CsiObject.settled, Bool.and_eq_true] at settled
  obtain ⟨⟨⟨threads, records⟩, memory⟩, futures⟩ := settled
  have ends : (taskControl config).ended ⟨.over, .nothing⟩ := rfl
  obtain ⟨others, tracks, stands⟩ := tracks.settle ends
  have avoids : ∀ point ∈ others, point.2.duty.Avoids object ∧ point.2.doing.Avoids object := by
    intro point member
    rcases stands point member with same | ⟨among, thread, working, same, unfinished⟩
    · rw [same]
      exact ⟨trivial, trivial⟩
    · have apart := List.all_eq_true.mp threads thread working
      simp only [unfinished, Bool.false_or, Bool.not_eq_true', same] at apart
      exact unconcerned linked among apart
  refine ⟨others, tracks, ⟨linked.records, linked.callbacks, linked.infos, linked.registered, ?_, ?_⟩, ?_, ?_, ?_,
    fun point member => (avoids point member).1, fun point member => (avoids point member).2⟩
  · intro point member
    rcases stands point member with same | ⟨among, _⟩
    · rw [same]; trivial
    · exact linked.duties point among
  · intro point member
    rcases stands point member with same | ⟨among, _⟩
    · rw [same]; trivial
    · exact linked.doings point among
  · intro id info found makes
    simpa [makes] using List.all_eq_true.mp records _ (Tasks.mem_listed.mpr found)
  · intro future job called makes
    obtain ⟨entry, found, rfl⟩ := Option.map_eq_some_iff.mp called
    have ended := List.all_eq_true.mp futures entry (List.mem_of_getElem? found)
    simpa [makes, Tasks.status, found] using ended
  · intro id future found
    simpa using List.all_eq_true.mp memory _ (Tasks.mem_inMemory.mpr found)

end Forgotten
end Rawfile
