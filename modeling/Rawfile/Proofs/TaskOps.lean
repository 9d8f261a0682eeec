import Rawfile.Proofs.Frame

/-! What one operation of the task manager does to the store, the futures and
the phase of the process. -/

namespace Rawfile
open Effects

variable {id : TaskId}

namespace Tasks

private theorem mem_pairs {α : Type} {kept : AList fun _ : TaskId => α} {value : α} :
    (id, value) ∈ kept.entries.map (fun entry => (entry.1, entry.2)) ↔ kept.lookup id = some value := by
  rw [← Option.mem_def, AList.mem_lookup_iff]
  constructor
  · intro member
    obtain ⟨entry, among, same⟩ := List.mem_map.mp member
    cases same
    exact among
  · intro member
    exact List.mem_map.mpr ⟨_, member, rfl⟩

theorem mem_listed {tasks : Tasks} {info : TaskInfo} :
    (id, info) ∈ tasks.listed ↔ tasks.store.lookup id = some info :=
  mem_pairs

theorem mem_inMemory {tasks : Tasks} {future : Nat} :
    (id, future) ∈ tasks.inMemory ↔ tasks.registered.lookup id = some future :=
  mem_pairs

def status (tasks : Tasks) (future : Nat) : Option FutureStatus := tasks.futures[future]?.map Future.status

def info (tasks : Tasks) (future : Nat) : Option TaskInfo := tasks.futures[future]?.bind Future.info

def call (tasks : Tasks) (future : Nat) : Option TaskCall := tasks.futures[future]?.map Future.call

def callback (tasks : Tasks) (future : Nat) : Option TaskId := tasks.futures[future]?.bind Future.callback

section
variable (tasks : Tasks) (index future : Nat)

private theorem status_update (change : Future → Future) : (tasks.update index change).status future =
    if index = future then tasks.futures[future]?.map (fun entry => (change entry).status) else tasks.status future := by
  simp only [status, update, List.getElem?_modify]
  split <;> simp [Function.comp_def]

private theorem info_update (change : Future → Future) : (tasks.update index change).info future =
    if index = future then tasks.futures[future]?.bind (fun entry => (change entry).info) else tasks.info future := by
  simp only [info, update, List.getElem?_modify]
  cases tasks.futures[future]? <;> by_cases same : index = future <;> simp [same]

private theorem callback_update (change : Future → Future) : (tasks.update index change).callback future =
    if index = future then tasks.futures[future]?.bind (fun entry => (change entry).callback)
    else tasks.callback future := by
  simp only [callback, update, List.getElem?_modify]
  cases tasks.futures[future]? <;> by_cases same : index = future <;> simp [same]

@[simp] theorem status_setStatus (status : FutureStatus) :
    (tasks.update index (fun entry => { entry with status })).status future =
      if index = future then (tasks.status future).map (fun _ => status) else tasks.status future := by
  rw [status_update]
  split <;> simp [Tasks.status, Function.comp_def]

@[simp] theorem info_setStatus (status : FutureStatus) :
    (tasks.update index (fun entry => { entry with status })).info future = tasks.info future := by
  rw [info_update]
  split <;> rfl

@[simp] theorem callback_setStatus (status : FutureStatus) :
    (tasks.update index (fun entry => { entry with status })).callback future = tasks.callback future := by
  rw [callback_update]
  split <;> rfl

variable (change : TaskInfo → TaskInfo)

@[simp] theorem status_mapInfo :
    (tasks.update index (fun entry => { entry with info := entry.info.map change })).status future =
      tasks.status future := by
  rw [status_update]
  split <;> rfl

@[simp] theorem info_mapInfo :
    (tasks.update index (fun entry => { entry with info := entry.info.map change })).info future =
      if index = future then (tasks.info future).map change else tasks.info future := by
  rw [info_update]
  cases found : tasks.futures[future]? <;> simp [info, found]

@[simp] theorem callback_mapInfo :
    (tasks.update index (fun entry => { entry with info := entry.info.map change })).callback future =
      tasks.callback future := by
  rw [callback_update]
  split <;> rfl

end
end Tasks

namespace TaskOp

variable {tasks after : Tasks} {answer : Answer} {operation : TaskOp} {reply : Except Err operation.Reply}

section
variable (executed : operation.exec answer tasks = (reply, after))
include executed

theorem exec_serving :
    (after.phase = tasks.phase ∧ after.workerStarted = tasks.workerStarted) ∨
      operation = .startWorker ∧ after.phase = .serving ∧ after.store = tasks.store ∧ after.futures = tasks.futures := by
  by_cases starts : operation = .startWorker
  · subst starts
    simp only [exec] at executed
    split at executed
    · cases executed; exact .inl ⟨rfl, rfl⟩
    · cases executed; exact .inr ⟨rfl, rfl, rfl, rfl⟩
  · exact .inl (exec_phase executed starts)

theorem exec_futures_nil (none : tasks.futures = [])
    (quiet : ∀ call, operation ≠ .submit call) : after.futures = [] := by
  have moved : after = (operation.exec answer tasks).2 := by rw [executed]
  subst moved
  cases operation with
  | submit call => exact absurd rfl (quiet call)
  | _ =>
    simp only [exec]
    repeat' split
    all_goals simp [Tasks.update, none]

/-- A record is saved by itself or with its future. -/
theorem exec_store {info : TaskInfo} (found : after.store.lookup id = some info) :
    tasks.store.lookup id = some info ∨
      operation = .saveTask id info ∧ answer.fails = false ∨
      ∃ future, operation = .saveInfo id future ∧ tasks.futures[future]?.bind Future.info = some info := by
  have moved : after = (operation.exec answer tasks).2 := by rw [executed]
  subst moved
  cases operation with
  | saveTask other saved =>
    simp only [exec] at found
    split at found
    · exact .inl found
    next done =>
      by_cases same : id = other
      · subst same
        rw [AList.lookup_insert] at found
        cases found
        exact .inr (.inl ⟨rfl, Bool.of_not_eq_true done⟩)
      · rw [AList.lookup_insert_ne same] at found
        exact .inl found
  | saveInfo other future =>
    simp only [exec] at found
    split at found
    · exact .inl found
    · split at found
      next saved known =>
        by_cases same : id = other
        · subst same
          rw [AList.lookup_insert] at found
          cases found
          exact .inr (.inr ⟨future, rfl, known⟩)
        · rw [AList.lookup_insert_ne same] at found
          exact .inl found
      next => exact .inl found
  | removeTask other =>
    simp only [exec] at found
    split at found
    · exact .inl found
    · split at found
      · by_cases same : id = other
        · subst same
          rw [AList.lookup_erase] at found
          cases found
        · rw [AList.lookup_erase_ne same] at found
          exact .inl found
      · exact .inl found
  | _ =>
    refine .inl ?_
    simp only [exec] at found
    repeat' split at found
    all_goals exact found

end

inductive Moves (operation : TaskOp) (future : Nat) : Option Future → Option Future → Prop
  | same (entry : Option Future) : Moves operation future entry entry
  | submitted {job : TaskCall} (issued : operation = .submit job) : Moves operation future none (some { call := job })
  | registered {id : TaskId} {info : TaskInfo} (issued : operation = .register id future info) (entry : Future) :
    Moves operation future (some entry) (some { entry with info := some info })
  | called {id : TaskId} (issued : operation = .addDoneCallback future id) (entry : Future) :
    Moves operation future (some entry) (some { entry with callback := some id })
  | noted {change : TaskInfo → TaskInfo} (kept : ∀ info, (change info).call = info.call)
    (stated : (∀ info, (change info).state = info.state) ∨
      ∃ state, operation = .setState future state ∧ ∀ info, (change info).state = state) (entry : Future) :
    Moves operation future (some entry) (some { entry with info := entry.info.map change })
  | begun (issued : operation = .begin future) {entry : Future} (queued : entry.status = .queued) :
    Moves operation future (some entry) (some { entry with status := .running })
  | ended {status : FutureStatus}
    (ends : (∃ error, operation = .finish future error ∧ status = .finished error) ∨ status = .cancelled) (entry : Future) :
    Moves operation future (some entry) (some { entry with status })

theorem exec_future (executed : operation.exec answer tasks = (reply, after)) (future : Nat) :
    operation.Moves future tasks.futures[future]? after.futures[future]? := by
  have moved : after = (operation.exec answer tasks).2 := by rw [executed]
  subst moved
  have updated : ∀ (index : Nat) (change : Future → Future), (∀ entry, index = future →
      tasks.futures[future]? = some entry → operation.Moves future (some entry) (some (change entry))) →
      operation.Moves future tasks.futures[future]? (tasks.update index change).futures[future]? := by
    intro index change each
    simp only [Tasks.update, List.getElem?_modify]
    cases found : tasks.futures[future]? with
    | none => exact .same none
    | some entry =>
      by_cases same : index = future
      · simpa [same] using each entry same found
      · simpa [same] using .same (some entry)
  cases operation with
  | submit job =>
    simp only [exec]
    split
    · exact .same _
    · rw [List.getElem?_append]
      split
      · exact .same _
      next outside =>
        rw [List.getElem?_eq_none (Nat.le_of_not_lt outside)]
        cases future - tasks.futures.length with
        | zero => exact .submitted rfl
        | succ => exact .same none
  | register id index info =>
    exact updated index (fun entry => { entry with info := some info }) fun entry same _ => .registered (by rw [same]) entry
  | addDoneCallback index id =>
    simp only [exec]
    split
    · exact .same _
    · exact .same _
    · exact updated _ _ fun entry same _ => .called (by rw [same]) entry
  | setState index state =>
    exact updated _ _ fun entry same _ => .noted (by intro; rfl) (.inr ⟨state, by rw [same], by intro; rfl⟩) entry
  | countFailure | setLastError =>
    exact updated _ _ fun entry _ _ => .noted (by intro; rfl) (.inl (by intro; rfl)) entry
  | begin index =>
    simp only [exec]
    split
    next queued =>
      refine updated _ _ fun entry same found => .begun (by rw [same]) ?_
      rw [same, found] at queued
      exact Option.some.inj queued
    next => exact .same _
  | finish index error => exact updated _ _ fun entry same _ => .ended (.inl ⟨error, by rw [same], rfl⟩) entry
  | cancelNext => exact updated _ _ fun entry _ _ => .ended (.inr rfl) entry
  | _ =>
    simp only [exec]
    repeat' split
    all_goals exact .same _

/-- A future stays the future of its task. -/
theorem exec_call (executed : operation.exec answer tasks = (reply, after)) {future : Nat} {job : TaskCall}
    (found : tasks.call future = some job) : after.call future = some job := by
  have moves := exec_future executed future
  unfold Tasks.call at found ⊢
  generalize tasks.futures[future]? = before, after.futures[future]? = later at moves found
  cases moves with
  | submitted => cases found
  | _ => exact found

theorem getTasks_reply {listing : Except Err (List (TaskId × TaskInfo))}
    (executed : getTasks.exec answer tasks = (listing, after)) :
    (∃ error, listing = .error error) ∨ listing = .ok tasks.listed := by
  simp only [exec] at executed
  split at executed <;> cases executed
  · exact .inl ⟨_, rfl⟩
  · exact .inr rfl

theorem nextItem_registered {visited : List (TaskId × Nat)} {size : Nat} {entry : TaskId × Nat}
    (executed : (nextItem visited size).exec answer tasks = (.ok (some entry), after)) :
    tasks.registered.lookup entry.1 = some entry.2 := by
  simp only [exec] at executed
  repeat' split at executed
  all_goals cases executed
  next found => exact Tasks.mem_inMemory.mp (List.mem_filter.mp (List.mem_of_mem_head? found)).1

theorem submit_call {job : TaskCall} {future : Nat}
    (executed : (submit job).exec answer tasks = (.ok future, after)) : after.call future = some job := by
  simp only [exec] at executed
  split at executed <;> cases executed
  simp [Tasks.call]

/-- A future is queued when it is submitted and running when it begins. -/
theorem exec_status (executed : operation.exec answer tasks = (reply, after)) {future : Nat} {status : FutureStatus}
    (found : after.status future = some status) :
    tasks.status future = some status ∨ (∃ job, operation = .submit job ∧ after.call future = some job) ∨
      (operation = .begin future ∧ tasks.status future = some .queued) ∨ (∃ error, status = .finished error) ∨
      status = .cancelled := by
  have moves := exec_future executed future
  unfold Tasks.status Tasks.call at *
  generalize tasks.futures[future]? = before, after.futures[future]? = later at moves found
  cases moves with
  | submitted issued => exact .inr (.inl ⟨_, issued, rfl⟩)
  | begun issued queued => exact .inr (.inr (.inl ⟨issued, congrArg some queued⟩))
  | ended ends =>
    cases found
    exact .inr (.inr (.inr (ends.imp_left fun ⟨error, _, same⟩ => ⟨error, same⟩)))
  | _ => exact .inl found

theorem exec_finished (executed : operation.exec answer tasks = (reply, after)) {future : Nat} {error : Option Err}
    (found : after.status future = some (.finished error)) :
    tasks.status future = some (.finished error) ∨ operation = .finish future error := by
  have moves := exec_future executed future
  unfold Tasks.status at *
  generalize tasks.futures[future]? = before, after.futures[future]? = later at moves found
  cases moves with
  | submitted | begun => cases found
  | ended ends =>
    rcases ends with ⟨other, issued, rfl⟩ | rfl
    · cases found
      exact .inr issued
    · cases found
  | _ => exact .inl found

theorem begin_reply {future : Nat} (executed : (begin future).exec answer tasks = (.ok true, after)) :
    tasks.status future = some .queued := by
  simp only [exec] at executed
  split at executed
  next queued => exact queued
  next => cases executed

theorem first_queued (called : tasks.callback (tasks.futures.findIdx Future.isQueued) = some id) :
    tasks.status (tasks.futures.findIdx Future.isQueued) = some .queued := by
  obtain ⟨entry, found, _⟩ := Option.bind_eq_some_iff.mp called
  obtain ⟨inside, equal⟩ := List.getElem?_eq_some_iff.mp found
  have waits := @List.findIdx_getElem _ Future.isQueued tasks.futures inside
  rw [equal] at waits
  simpa [Tasks.status, found, Future.isQueued] using waits

theorem cancelNext_reply (executed : cancelNext.exec answer tasks = (.ok (some id), after)) :
    ∃ future, tasks.callback future = some id ∧ tasks.status future = some .queued :=
  have called := Except.ok.inj (Prod.ext_iff.mp executed).1
  ⟨_, called, first_queued called⟩

section
variable (executed : operation.exec answer tasks = (reply, after))
include executed

theorem exec_callback {future : Nat} (found : after.callback future = some id) :
    tasks.callback future = some id ∨ operation = .addDoneCallback future id := by
  have moves := exec_future executed future
  unfold Tasks.callback at found ⊢
  generalize tasks.futures[future]? = before, after.futures[future]? = later at moves found
  cases moves with
  | submitted => cases found
  | called issued =>
    cases found
    exact .inr issued
  | _ => exact .inl found

theorem exec_info {future : Nat} {info : TaskInfo} (found : after.info future = some info) :
    (∃ old, tasks.info future = some old ∧ info.call = old.call) ∨ ∃ id, operation = .register id future info := by
  have moves := exec_future executed future
  unfold Tasks.info at found ⊢
  generalize tasks.futures[future]? = before, after.futures[future]? = later at moves found
  cases moves with
  | submitted => cases found
  | registered issued =>
    cases found
    exact .inr ⟨_, issued⟩
  | noted kept =>
    obtain ⟨old, known, rfl⟩ := Option.map_eq_some_iff.mp found
    exact .inl ⟨old, known, kept old⟩
  | _ => exact .inl ⟨info, found, rfl⟩

theorem exec_registered {future : Nat} (found : after.registered.lookup id = some future) :
    tasks.registered.lookup id = some future ∨ ∃ info, operation = .register id future info := by
  have moved : after = (operation.exec answer tasks).2 := by rw [executed]
  subst moved
  cases operation with
  | register other index info =>
    simp only [exec] at found
    by_cases same : id = other
    · subst same
      rw [AList.lookup_insert] at found
      cases found
      exact .inr ⟨info, rfl⟩
    · rw [AList.lookup_insert_ne same] at found
      exact .inl found
  | popTask other =>
    simp only [exec] at found
    by_cases same : id = other
    · subst same
      rw [AList.lookup_erase] at found
      cases found
    · rw [AList.lookup_erase_ne same] at found
      exact .inl found
  | _ =>
    refine .inl ?_
    simp only [exec] at found
    repeat' split at found
    all_goals exact found

end

end TaskOp
end Rawfile
