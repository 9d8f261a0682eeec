import Rawfile.Proofs.TaskOps
import Rawfile.Retries

/-! Retries are counted exactly. While a record stands, its count says how many
executions of its task were started, and the worker removes it when the task has
succeeded or has failed once more than it may be retried. -/

namespace Rawfile
open Effects TaskManager

namespace Retries

section
variable {tasks after : Tasks} {info : TaskInfo}

private theorem find_listed {id : TaskId} :
    (tasks.listed.find? (fun entry => entry.1 = id)).map Prod.snd = tasks.store.lookup id := by
  cases found : tasks.listed.find? (fun entry => entry.1 = id) with
  | none =>
    cases stored : tasks.store.lookup id with
    | none => rfl
    | some info => simpa using List.find?_eq_none.mp found _ (Tasks.mem_listed.mpr stored)
  | some entry =>
    obtain ⟨other, info⟩ := entry
    obtain rfl : other = id := by simpa using List.find?_some found
    exact (Tasks.mem_listed.mp (List.mem_of_find?_eq_some found)).symm

theorem atomically_request (operation : TaskOp) (value : operation.Reply)
    {next : Except Err operation.Reply → Driver α} (ran : operation.exec {} tasks = (.ok value, after)) :
    atomically (.request (.task operation) next) tasks = atomically (next (.ok value)) after := by
  simp only [atomically, Program.eval, Op.exec, ran]

private theorem atomically_discard {program : Driver α} : atomically (do let _ ← program; pure ()) tasks =
    ((atomically program tasks).1.map fun _ => (), (atomically program tasks).2) := by
  unfold atomically
  generalize ({ tasks } : Node) = node
  induction program generalizing node with
  | done | raise => rfl
  | request operation next ih => exact ih _ _

def launched (tasks : Tasks) (info : TaskInfo) : Tasks :=
  { tasks with
    store := tasks.store.insert info.call { info with state := .running }
    registered := tasks.registered.insert info.call tasks.futures.length
    futures := tasks.futures ++
      [{ call := info.call, callback := some info.call, info := some { info with state := .running } }] }

private theorem modify_snoc {items : List α} {last : α} {change : α → α} :
    (items ++ [last]).modify items.length change = items ++ [change last] := by
  induction items with
  | nil => rfl
  | cons item rest ih => simp [ih]

private theorem atomically_launch (up : tasks.executorDown = false) :
    atomically (launch info.call info) tasks = (.ok info.call, launched tasks info) := by
  refine (atomically_request (.saveTask _ _) () rfl).trans ?_
  refine (atomically_request (.submit _) tasks.futures.length (by simp only [TaskOp.exec, up]; rfl)).trans ?_
  refine (atomically_request (.saveTask _ _) () rfl).trans ?_
  refine (atomically_request (.register _ _ _) () rfl).trans ?_
  refine (atomically_request (.addDoneCallback _ _) false (by simp [TaskOp.exec, Tasks.update]; rfl)).trans ?_
  change (_, _) = _
  simp [launched, modify_snoc, up]

private theorem atomically_runTaskExt {job : TaskCall} {retry : Bool} (up : tasks.shuttingDown = false) :
    atomically (runTaskExt job retry) tasks =
      if !retry && (tasks.store.lookup job).isSome then (.ok job, tasks)
      else atomically (launch job (pendingInfo job retry (tasks.store.lookup job))) tasks := by
  refine (atomically_request .isShuttingDown false (by simp only [TaskOp.exec, up]; rfl)).trans ?_
  refine (atomically_request .getTasks tasks.listed rfl).trans ?_
  have stored : (tasks.listed.find? (fun entry => entry.1 = hashTaskInfo job)).map Prod.snd = tasks.store.lookup job :=
    find_listed
  change atomically (if _ then _ else _) tasks = _
  rw [stored]
  split <;> rfl

def ended (error : Option Err) (info : TaskInfo) : TaskInfo :=
  match error with
  | none => { info with state := .completed }
  | some error =>
    { info with state := .failed, retryCount := info.retryCount + 1, lastError := some error.message }

def concluded (tasks : Tasks) (future : Nat) (error : Option Err) (info : TaskInfo) : Tasks :=
  { tasks with
    store := tasks.store.insert info.call (ended error info)
    registered := tasks.registered.erase info.call
    futures := tasks.futures.set future ⟨info.call, .finished error, some info.call, some (ended error info)⟩ }

/-- A future that ends leaves the register and has its record saved, in one step. -/
theorem atomically_ending {future : Nat} {error : Option Err}
    (found : tasks.futures[future]? = some ⟨info.call, .queued, some info.call, some info⟩)
    (registered : tasks.registered.lookup info.call = some future) :
    atomically (ending future error) tasks = (.ok (), concluded tasks future error info) := by
  have inside : future < tasks.futures.length := (List.getElem?_eq_some_iff.mp found).1
  have reads : ∀ entry : Future, (tasks.futures.set future entry)[future]? = some entry := by simp [inside]
  have updates : ∀ {state : Tasks} {entry : Future} (change : Future → Future),
      state.futures = tasks.futures.set future entry → ((Except.ok () : Except Err Unit), state.update future change) =
        (.ok (), { state with futures := tasks.futures.set future (change entry) }) := by
    intro state entry change same
    simp [Tasks.update, List.modify_eq_set_getElem?, same, reads]
  refine (atomically_request (.finish _ _) (some info.call) (by
    simp only [TaskOp.exec, Tasks.update, List.modify_eq_set_getElem?, found, Option.map_eq_map, Option.map_some,
      Option.getD_some]; rfl)).trans ?_
  refine (atomically_request (.popTask _) (some future) (by simp only [TaskOp.exec, registered]; rfl)).trans ?_
  refine (atomically_request (.exception _) error (by simp only [TaskOp.exec, reads]; rfl)).trans ?_
  cases error with
  | none =>
    refine (atomically_request (.setState _ _) () (updates _ rfl)).trans ?_
    exact atomically_request (.saveInfo _ _) () (by simp only [TaskOp.exec, reads]; rfl)
  | some error =>
    refine (atomically_request (.countFailure _) () (updates _ rfl)).trans ?_
    refine (atomically_request (.setLastError _ _) () (updates _ rfl)).trans ?_
    refine (atomically_request (.setState _ _) () (updates _ rfl)).trans ?_
    exact atomically_request (.saveInfo _ _) () (by simp only [TaskOp.exec, reads]; rfl)

end

variable (config : DriverConfig)

/-- The worker has the record before it in this round. -/
def Owed (now : Rounds) (id : TaskId) (info : TaskInfo) : Prop :=
  now.loop = .retrying ∧ (id ∈ now.rest.map Prod.fst ∨ exhausted config info = true) ∨
    now.loop = .exhausted ∧ id ∈ now.rest.map Prod.fst

structure Sound (config : DriverConfig) (now : Rounds) (id : TaskId) (info : TaskInfo) : Prop where
  call : info.call = id
  bounded : (now.started id : Int) ≤ config.maxRetry + 1
  due : now.rounds id < now.started id ∨
    now.rounds id = now.started id ∧ info.state = .failed ∧ Owed config now id info
  settled : info.state ≠ .pending
  running : info.state = .running → (now.started id : Int) = info.retryCount + 2
  failed : info.state = .failed → (now.started id : Int) = info.retryCount + 1
  completed : info.state = .completed → info.retryCount < config.maxRetry ∧ now.Succeeded id

/-- An execution under way is registered, and its record says so. -/
def Flies (tasks : Tasks) (future : Nat) (entry : Future) : Prop :=
  ∃ info, entry = ⟨info.call, .queued, some info.call, some info⟩ ∧ info.state = .running ∧
    tasks.registered.lookup info.call = some future ∧ tasks.store.lookup info.call = some info

structure Counted (config : DriverConfig) (now : Rounds) : Prop where
  up : now.tasks.shuttingDown = false ∧ now.tasks.executorDown = false
  records : ∀ {id info}, now.tasks.store.lookup id = some info → Sound config now id info
  flights : ∀ {future entry}, now.tasks.futures[future]? = some entry → entry.status = .queued →
    Flies now.tasks future entry
  distinct : (now.rest.map Prod.fst).Nodup
  listed : ∀ entry ∈ now.rest, now.tasks.store.lookup entry.1 = some entry.2 ∧ now.loop.keep config entry.2 = true

/-- Why a record may be removed. -/
def Spent (now : Rounds) (id : TaskId) (info : TaskInfo) : Prop :=
  info.state = .completed ∧ now.Succeeded id ∨ info.state = .failed ∧ (now.started id : Int) = config.maxRetry + 1

def Removes (now after : Rounds) : Prop :=
  ∀ id info, now.tasks.store.lookup id = some info → after.tasks.store.lookup id = none → Spent config now id info

structure Drops (id : TaskId) (before rest : List (TaskId × TaskInfo)) : Prop where
  fewer : rest.Sublist before
  left : ∀ entry ∈ before, entry.1 ≠ id → entry ∈ rest
  gone : id ∉ rest.map Prod.fst

section
variable {config : DriverConfig} {now : Rounds} {id : TaskId} {info : TaskInfo} {after : Tasks}
  {rest : List (TaskId × TaskInfo)}

theorem Spent.still (spent : Spent config now id info) : info.state ≠ .running := by
  rcases spent with ⟨state, -⟩ | ⟨state, -⟩ <;> simp [state]

private theorem Drops.self (gone : id ∉ now.rest.map Prod.fst) : Drops id now.rest now.rest :=
  ⟨.refl _, fun _ member _ => member, gone⟩

section
variable (found : now.tasks.store.lookup id = some info)
  (same : Rounds.submitted id after = Rounds.submitted id now.tasks)
include found same

private theorem becomes_same :
    (now.becomes after rest).started id = now.started id ∧ (now.becomes after rest).rounds id = now.rounds id := by
  have present : id ∈ now.tasks.store := AList.lookup_isSome.mp (by rw [found]; rfl)
  simp [Rounds.becomes, present, same]

theorem Sound.besides (sound : Sound config now id info)
    (keeps : ∀ entry ∈ now.tasks.futures, entry.status = .finished none → entry ∈ after.futures)
    (left : id ∈ rest.map Prod.fst ↔ id ∈ now.rest.map Prod.fst) : Sound config (now.becomes after rest) id info := by
  obtain ⟨started, rounds⟩ := @becomes_same now id info after rest found same
  have owed : Owed config (now.becomes after rest) id info ↔ Owed config now id info := by
    simp only [Owed, Rounds.becomes, left]
  obtain ⟨call, bounded, due, settled, running, failed, completed⟩ := sound
  refine ⟨call, by rwa [started], by rwa [started, rounds, owed], settled, by rwa [started], by rwa [started], ?_⟩
  intro done
  obtain ⟨below, entry, member, own, finished⟩ := completed done
  exact ⟨below, entry, keeps entry member finished, own, finished⟩

end

variable (known : Counted config now)
include known

private theorem Counted.drops {entry : TaskId × TaskInfo} (left : now.rest = entry :: rest) : Drops entry.1 now.rest rest := by
  have distinct := known.distinct
  rw [left, List.map_cons, List.nodup_cons] at distinct
  refine ⟨by simp [left], fun other member different => ?_, distinct.1⟩
  rw [left] at member
  exact (List.mem_cons.mp member).resolve_left fun same => different (by rw [same])

theorem Counted.changes (id : TaskId) (up : after.shuttingDown = false ∧ after.executorDown = false)
    (store : ∀ other ≠ id, after.store.lookup other = now.tasks.store.lookup other)
    (calls : ∀ other ≠ id, Rounds.submitted other after = Rounds.submitted other now.tasks)
    (keeps : ∀ entry ∈ now.tasks.futures, entry.status = .finished none → entry ∈ after.futures)
    (own : ∀ info, after.store.lookup id = some info → Sound config (now.becomes after rest) id info)
    (flights : ∀ future entry, after.futures[future]? = some entry → entry.status = .queued → Flies after future entry)
    (drops : Drops id now.rest rest)
    (spent : ∀ info, now.tasks.store.lookup id = some info → after.store.lookup id = none → Spent config now id info) :
    Counted config (now.becomes after rest) ∧ Removes config now (now.becomes after rest) := by
  refine ⟨⟨up, fun {other info} found => ?_, flights _ _, known.distinct.sublist (drops.fewer.map _),
    fun entry member => ?_⟩, fun other info found lost => ?_⟩
  · by_cases same : other = id
    · subst same
      exact own info found
    · have before : now.tasks.store.lookup other = some info := (store other same).symm.trans found
      refine (known.records before).besides before (calls other same) keeps ⟨fun member => ?_, fun member => ?_⟩
      · exact (drops.fewer.map _).subset member
      · obtain ⟨entry, among, rfl⟩ := List.mem_map.mp member
        exact List.mem_map_of_mem (drops.left entry among same)
  · have other : entry.1 ≠ id := fun same => drops.gone (same ▸ List.mem_map_of_mem member)
    obtain ⟨stored, kept⟩ := known.listed entry (drops.fewer.subset member)
    exact ⟨(store _ other).trans stored, kept⟩
  · by_cases same : other = id
    · subst same
      exact spent info found lost
    · cases found.symm.trans ((store other same).symm.trans lost)

theorem Counted.idle (still : ∀ info, now.tasks.store.lookup id = some info → info.state ≠ .running) {future : Nat}
    {entry : Future} (among : now.tasks.futures[future]? = some entry) (queued : entry.status = .queued) :
    entry.call ≠ id := by
  rintro rfl
  obtain ⟨info, rfl, running, -, stored⟩ := known.flights among queued
  exact still info stored running

theorem Counted.launches (below : info.retryCount < config.maxRetry)
    (stands : info.call ∉ now.tasks.store ∧ info.retryCount = -1 ∨
      ∃ old, now.tasks.store.lookup info.call = some old ∧ old.state = .failed ∧ old.retryCount = info.retryCount)
    (drops : Drops info.call now.rest rest) :
    let after := now.becomes (launched now.tasks info) rest
    Counted config after ∧ Removes config now after := by
  have still : ∀ other, now.tasks.store.lookup info.call = some other → other.state ≠ .running := by
    intro other found
    rcases stands with ⟨absent, -⟩ | ⟨old, stored, failed, -⟩
    · cases (AList.lookup_eq_none.mpr absent).symm.trans found
    · cases stored.symm.trans found
      simp [failed]
  refine known.changes info.call known.up ?_ ?_ ?_ ?_ ?_ drops ?_
  · exact fun other different => AList.lookup_insert_ne different
  · intro other different
    simp [Rounds.submitted, launched, Ne.symm different]
  · exact fun entry member _ => List.mem_append_left _ member
  · intro other found
    cases (AList.lookup_insert _).symm.trans found
    have counts : ((now.becomes (launched now.tasks info) rest).started info.call : Int) = info.retryCount + 2 ∧
        (now.becomes (launched now.tasks info) rest).rounds info.call <
          (now.becomes (launched now.tasks info) rest).started info.call := by
      rcases stands with ⟨absent, first⟩ | ⟨old, stored, failed, same⟩
      · simp [Rounds.becomes, Rounds.submitted, launched, absent, first]
      · have sound := known.records stored
        have present : info.call ∈ now.tasks.store := AList.lookup_isSome.mp (by rw [stored]; rfl)
        have started := sound.failed failed
        have due := sound.due
        simp only [Rounds.becomes, Rounds.submitted, launched, present, if_true, List.map_append, List.map_cons,
          List.map_nil, List.count_append, List.count_singleton_self, Nat.add_sub_cancel_left]
        omega
    refine ⟨rfl, by omega, .inl counts.2, nofun, fun _ => counts.1, nofun, nofun⟩
  · intro future entry among queued
    simp only [launched, List.getElem?_append, List.getElem?_singleton] at among
    split at among
    · have different := known.idle still among queued
      obtain ⟨other, rfl, running, registered, stored⟩ := known.flights among queued
      exact ⟨other, rfl, running, (AList.lookup_insert_ne different).trans registered,
        (AList.lookup_insert_ne different).trans stored⟩
    · obtain ⟨last, ⟨⟩⟩ := Option.ite_none_right_eq_some.mp among
      obtain rfl : future = now.tasks.futures.length := by omega
      exact ⟨{ info with state := .running }, rfl, rfl, AList.lookup_insert _, AList.lookup_insert _⟩
  · intro other found lost
    cases (AList.lookup_insert _).symm.trans lost

theorem Counted.requests (nonneg : 0 ≤ config.maxRetry) (job : TaskCall) :
    let after := now.becomes (atomically (runTask job) now.tasks).2 now.rest
    Counted config after ∧ Removes config now after := by
  rw [runTask, atomically_runTaskExt known.up.1]
  cases stored : now.tasks.store.lookup job with
  | some info =>
    exact ⟨⟨known.up, fun found => (known.records found).besides found rfl (fun _ member _ => member) .rfl,
      known.flights, known.distinct, known.listed⟩, fun id info found lost => by cases found.symm.trans lost⟩
  | none =>
    have ran : atomically (launch job (pendingInfo job false none)) now.tasks =
        (.ok job, launched now.tasks (pendingInfo job false none)) := atomically_launch known.up.2
    rw [if_neg (by simp), ran]
    have below : (-1 : Int) < config.maxRetry := by omega
    refine known.launches below (.inl ⟨AList.lookup_eq_none.mp stored, rfl⟩) (.self fun member => ?_)
    obtain ⟨entry, among, same⟩ := List.mem_map.mp member
    cases (known.listed entry among).1.symm.trans ((congrArg (now.tasks.store.lookup ·) same).trans stored)

/-- A task that is tried again is counted once. -/
theorem Counted.retries {entry : TaskId × TaskInfo} (left : now.rest = entry :: rest) (loop : now.loop = .retrying) :
    Counted config (now.works entry rest) ∧ Removes config now (now.works entry rest) := by
  have drops := known.drops left
  obtain ⟨stored, kept⟩ := known.listed entry (by simp [left])
  obtain ⟨id, info⟩ := entry
  obtain rfl : info.call = id := (known.records stored).call
  obtain ⟨below, failed⟩ : info.retryCount < config.maxRetry ∧ info.state = .failed := by
    simpa [loop, Loop.keep, retriable] using kept
  have ran : atomically (now.loop.body (info.call, info)) now.tasks =
      (.ok (), launched now.tasks (pendingInfo info.call true (some info))) := by
    rw [loop, Loop.body, atomically_discard, atomically_runTaskExt known.up.1, stored,
      show atomically (launch info.call _) _ = _ from
        @atomically_launch _ (pendingInfo info.call true (some info)) known.up.2]
    rfl
  rw [Rounds.works, ran]
  exact @Counted.launches _ _ (pendingInfo info.call true (some info)) _ known below (.inr ⟨info, stored, failed, rfl⟩) drops

theorem Counted.unlisted (found : now.tasks.store.lookup id = some info) (running : info.state = .running) :
    id ∉ now.rest.map Prod.fst := by
  intro member
  obtain ⟨entry, among, rfl⟩ := List.mem_map.mp member
  obtain ⟨stored, kept⟩ := known.listed entry among
  cases stored.symm.trans found
  have started := (known.records found).running running
  have bounded := (known.records found).bounded
  cases loop : now.loop <;> rw [loop] at kept
  · simp [Loop.keep, retriable, running] at kept
  · simp only [Loop.keep, exhausted, decide_eq_true_eq] at kept
    omega
  · simp [Loop.keep, inState, running] at kept

theorem Counted.ends {future : Nat} {error : Option Err}
    (queued : now.tasks.futures[future]?.map Future.status = some .queued) :
    let after := now.becomes (atomically (ending future error) now.tasks).2 now.rest
    Counted config after ∧ Removes config now after := by
  obtain ⟨entry, among, status⟩ := Option.map_eq_some_iff.mp queued
  obtain ⟨info, rfl, running, registered, stored⟩ := known.flights among status
  have inside := (List.getElem?_eq_some_iff.mp among).1
  have others : ∀ {index : Nat}, index ≠ future →
      (concluded now.tasks future error info).futures[index]? = now.tasks.futures[index]? :=
    fun different => List.getElem?_set_ne (Ne.symm different)
  have own : (concluded now.tasks future error info).futures[future]? =
      some ⟨info.call, .finished error, some info.call, some (ended error info)⟩ := List.getElem?_set_self inside
  have calls : (concluded now.tasks future error info).futures.map Future.call = now.tasks.futures.map Future.call := by
    refine List.ext_getElem? fun index => ?_
    rw [List.getElem?_map, List.getElem?_map]
    by_cases same : index = future
    · subst same
      rw [own, among]
      rfl
    · rw [others same]
  rw [atomically_ending among registered]
  refine known.changes info.call known.up ?_ ?_ ?_ ?_ ?_ (.self (known.unlisted stored running)) ?_
  · exact fun other different => AList.lookup_insert_ne different
  · exact fun other _ => congrArg (List.count other) calls
  · intro entry member done
    obtain ⟨index, found⟩ := List.mem_iff_getElem?.mp member
    refine List.mem_of_getElem? ((others ?_).trans found)
    rintro rfl
    cases among.symm.trans found
    cases done
  · intro other found
    cases (AList.lookup_insert _).symm.trans found
    obtain ⟨same, rounds⟩ := @becomes_same now info.call info (concluded now.tasks future error info) now.rest stored
      (congrArg (List.count info.call) calls)
    have sound := known.records stored
    have started := sound.running running
    have bounded := sound.bounded
    have due : now.rounds info.call < now.started info.call :=
      sound.due.resolve_right fun ⟨_, failed, _⟩ => by cases running.symm.trans failed
    have below : info.retryCount < config.maxRetry := by omega
    cases error with
    | none =>
      refine ⟨rfl, by rwa [same], .inl (by rwa [same, rounds]), nofun, nofun, nofun, fun _ => ⟨below, ?_⟩⟩
      exact ⟨_, List.mem_of_getElem? own, rfl, rfl⟩
    | some error =>
      refine ⟨rfl, by rwa [same], .inl (by rwa [same, rounds]), nofun, nofun, fun _ => ?_, nofun⟩
      rw [same, started]
      exact (Int.add_assoc info.retryCount 1 1).symm
  · intro index entry found status
    by_cases same : index = future
    · subst same
      cases own.symm.trans found
      cases status
    · obtain ⟨other, rfl, runs, listed, kept⟩ := known.flights ((others same).symm.trans found) status
      have different : other.call ≠ info.call := by
        intro own
        rw [own, registered] at listed
        exact same (Option.some.inj listed).symm
      exact ⟨other, rfl, runs, (AList.lookup_erase_ne different).trans listed,
        (AList.lookup_insert_ne different).trans kept⟩
  · intro other found lost
    cases (AList.lookup_insert _).symm.trans lost

theorem Counted.spent (found : now.tasks.store.lookup id = some info) (kept : now.loop.keep config info = true)
    (removing : now.loop ≠ .retrying) : Spent config now id info := by
  have sound := known.records found
  have bounded := sound.bounded
  cases loop : now.loop <;> rw [loop] at kept removing
  · exact absurd rfl removing
  · have exhausted : config.maxRetry ≤ info.retryCount := by simpa [Loop.keep, TaskManager.exhausted] using kept
    cases state : info.state with
    | pending => exact absurd state sound.settled
    | running =>
      have started := sound.running state
      omega
    | failed =>
      have started := sound.failed state
      exact .inr ⟨state, by omega⟩
    | completed =>
      have below := (sound.completed state).1
      omega
  · have state : info.state = .completed := by simpa [Loop.keep, inState] using kept
    exact .inl ⟨state, (sound.completed state).2⟩

theorem Counted.removes {entry : TaskId × TaskInfo} (left : now.rest = entry :: rest) (removing : now.loop ≠ .retrying) :
    Counted config (now.works entry rest) ∧ Removes config now (now.works entry rest) := by
  obtain ⟨stored, kept⟩ := known.listed entry (by simp [left])
  have spent := known.spent stored kept removing
  have present : entry.1 ∈ now.tasks.store := AList.lookup_isSome.mp (by rw [stored]; rfl)
  have removed : atomically (now.loop.body entry) now.tasks =
      (.ok (), { now.tasks with store := now.tasks.store.erase entry.1 }) := by
    have body : now.loop.body entry = Driver.task (.removeTask entry.1) := by
      cases loop : now.loop <;> first | rfl | exact absurd loop removing
    rw [body]
    exact atomically_request (.removeTask entry.1) () (by simp only [TaskOp.exec, present]; rfl)
  have gone : (now.tasks.store.erase entry.1).lookup entry.1 = none := AList.lookup_erase _ _
  rw [Rounds.works, removed]
  refine known.changes entry.1 known.up ?_ (fun _ _ => rfl) (fun _ member _ => member) ?_ ?_ (known.drops left) ?_
  · exact fun other different => AList.lookup_erase_ne different
  · intro info found
    cases gone.symm.trans found
  · intro future other among queued
    have still : ∀ info, now.tasks.store.lookup entry.1 = some info → info.state ≠ .running := by
      intro info found
      cases stored.symm.trans found
      exact spent.still
    have different := known.idle still among queued
    obtain ⟨info, rfl, running, registered, recorded⟩ := known.flights among queued
    exact ⟨info, rfl, running, registered, (AList.lookup_erase_ne different).trans recorded⟩
  · intro info found _
    cases stored.symm.trans found
    exact spent

omit known in
theorem Sound.lists (sound : Sound config now id info) (found : now.tasks.store.lookup id = some info)
    (none : now.rest = []) : Sound config (now.lists config now.loop.next) id info := by
  refine ⟨sound.call, sound.bounded, ?_, sound.settled, sound.running, sound.failed, sound.completed⟩
  have rounds : ∀ loop, (now.lists config loop).rounds id =
      now.rounds id + if loop = .retrying ∧ info.state = .failed then 1 else 0 := by
    simp [Rounds.lists, found, inState]
  have enters : ∀ {loop : Loop}, loop.keep config info = true → id ∈ (now.lists config loop).rest.map Prod.fst :=
    fun kept => List.mem_map.mpr ⟨(id, info), List.mem_filter.mpr ⟨Tasks.mem_listed.mpr found, kept⟩, rfl⟩
  have dealt : now.loop ≠ .retrying → now.rounds id < now.started id := by
    intro other
    rcases sound.due with due | ⟨-, -, ⟨own, -⟩ | ⟨-, member⟩⟩
    · exact due
    · exact absurd own other
    · simp [none] at member
  rw [rounds]
  cases loop : now.loop with
  | retrying =>
    rcases sound.due with due | ⟨same, failed, owed⟩
    · exact .inl due
    · have exhausted : TaskManager.exhausted config info = true := by simpa [Owed, loop, none] using owed
      exact .inr ⟨same, failed, .inr ⟨rfl, enters exhausted⟩⟩
  | exhausted => exact .inl (dealt (by simp [loop]))
  | completed =>
    have before := dealt (by simp [loop])
    by_cases failed : info.state = .failed
    · rw [if_pos ⟨rfl, failed⟩]
      rcases Nat.lt_or_eq_of_le (Nat.succ_le_of_lt before) with less | same
      · exact .inl less
      · refine .inr ⟨same, failed, .inl ⟨rfl, ?_⟩⟩
        by_cases below : info.retryCount < config.maxRetry
        · exact .inl (enters (by simp [Loop.next, Loop.keep, retriable, below, failed]))
        · exact .inr (by simpa [TaskManager.exhausted] using below)
    · rw [if_neg fun both => failed both.2]
      exact .inl before

theorem Counted.lists (none : now.rest = []) : Counted config (now.lists config now.loop.next) := by
  have keys : (now.tasks.listed.map Prod.fst).Nodup := by
    rw [Tasks.listed, List.map_map]
    exact now.tasks.store.nodupKeys
  refine ⟨known.up, fun found => (known.records found).lists found none, known.flights,
    keys.sublist (List.filter_sublist.map _), fun entry member => ?_⟩
  obtain ⟨among, kept⟩ := List.mem_filter.mp member
  exact ⟨Tasks.mem_listed.mp among, kept⟩

theorem Counted.next (nonneg : 0 ≤ config.maxRetry) {moment : Moment} {after : Rounds}
    (moved : now.next config moment = some after) : Counted config after ∧ Removes config now after := by
  cases moment with
  | request job =>
    cases moved
    exact known.requests nonneg job
  | ended future error =>
    obtain ⟨queued, ⟨⟩⟩ := Option.ite_none_right_eq_some.mp moved
    exact known.ends queued
  | work =>
    cases moved
    split
    next none => exact ⟨known.lists none, fun id info found lost => by cases found.symm.trans lost⟩
    next entry rest left =>
      by_cases loop : now.loop = .retrying
      · exact known.retries left loop
      · exact known.removes left loop

omit known in
theorem Counted.reached (nonneg : 0 ≤ config.maxRetry) (reached : Rounds.Reached config now) : Counted config now := by
  induction reached with
  | refl => exact ⟨⟨rfl, rfl⟩, by simp, by simp, by simp, by simp⟩
  | tail _ moved known =>
    obtain ⟨moment, moved⟩ := moved
    exact (known.next nonneg moved).1

end

def snapping : TaskCall := .createSnapshot ⟨"v", "s", false, false, false⟩

def unretried : DriverConfig := { singlePool with maxRetry := 0 }

def failing : Rounds :=
  (([.request snapping, .ended 0 (some .osError), .work, .work] : List Moment).foldlM (Rounds.next unretried) {}).getD {}

/-- Two executions of a task that have not ended are one, and when it ends the record of the
task says how. -/
theorem one_execution (nonneg : 0 ≤ config.maxRetry) {now : Rounds}
    (reached : Rounds.Reached config now) {id : TaskId} {future : Nat} {entry : Future}
    (among : now.tasks.futures[future]? = some entry) (unfinished : entry.call = id ∧ entry.status = .queued) :
    (∀ index other, now.tasks.futures[index]? = some other → other.call = id → other.status = .queued →
      index = future) ∧
    ∀ error after, now.next config (.ended future error) = some after → ∃ info,
      after.tasks.store.lookup id = some info ∧ (info.state = .completed ↔ error = none) ∧
        ∀ raised ∈ error, info.state = .failed ∧ info.lastError = some raised.message := by
  have known := Counted.reached nonneg reached
  obtain ⟨rfl, queued⟩ := unfinished
  obtain ⟨info, rfl, -, registered, -⟩ := known.flights among queued
  refine ⟨fun index other found same queued => ?_, fun error after moved => ?_⟩
  · obtain ⟨own, rfl, -, listed, -⟩ := known.flights found queued
    have task : own.call = info.call := same
    rw [task] at listed
    exact Option.some.inj (listed.symm.trans registered)
  · obtain ⟨-, ⟨⟩⟩ := Option.ite_none_right_eq_some.mp moved
    rw [atomically_ending among registered]
    refine ⟨ended error info, AList.lookup_insert _, ?_, ?_⟩
    · cases error <;> simp [ended]
    · rintro raised ⟨⟩
      exact ⟨rfl, rfl⟩

theorem one_execution_requested : ∃ now after info, Rounds.next unretried {} (.request snapping) = some now ∧
    now.next unretried (.ended 0 none) = some after ∧ after.tasks.store.lookup snapping = some info ∧
    info.state = .completed := by
  obtain ⟨info, found, state, -⟩ := (@one_execution unretried (by decide) _ (.tail .refl ⟨.request snapping, rfl⟩)
    snapping 0 _ rfl ⟨rfl, rfl⟩).2 none _ rfl
  exact ⟨_, _, info, rfl, rfl, found, state.mpr rfl⟩

end Retries
end Rawfile
