import Rawfile.Proofs.TaskControl

/-! What a shutdown records. Tasks in flight finish and run their callbacks
while `shutdown` polls; it marks entries of a list that may be out of date. As
long as no task finishes between the last look at it and its marking, a task that
returned and whose callback ran is recorded as completed. -/

namespace Rawfile
open Effects TaskManager

namespace Tasks

def inFlight (tasks : Tasks) : Bool :=
  tasks.inMemory.all (fun entry => tasks.status entry.2 = some .queued && tasks.callback entry.2 = some entry.1 &&
    (tasks.info entry.2).any (fun info => info.state = .running && tasks.store.lookup entry.1 = some info)) &&
  (List.range tasks.futures.length).all fun future =>
    (tasks.callback future).all fun id => tasks.registered.lookup id = some future

end Tasks

def Call.executes (future : Nat) : Call → Bool
  | .future index _ => index = future
  | _ => false

def Call.closes : Call → Bool
  | .createVolume _ | .createSnapshot _ | .start | .workerRound => false
  | _ => true

/-- The futures that finished since a shutdown last found them running. -/
def noteCompletion (_thread : Nat) : (operation : Op) → Except Err operation.Reply → List Nat → List Nat
  | .task (.isRunning future), .ok true, late => late.filter fun other => other ≠ future
  | .task (.finish future _), _, late => future :: late
  | _, _, late => late

def closing (late : List Nat) (call : Call) (operation : Op) (answer : Answer) : Bool :=
  match operation with
  | .task (.setState future .failed) => call ≠ .shutdown || future ∉ late
  | .task (.saveInfo _ _) => !answer.fails
  | _ => true

abbrev NotedConfig := Config Op Op.Reply Err (Node × List Nat) Call

/-- No save fails, and no future finishes between the look that found it running,
the last one before a shutdown marks its task, and the marking. -/
def closingRun (now : NotedConfig) (event : NodeEvent) : Bool :=
  now.onStep (fun call _ operation answer state => closing state.2 call operation answer) event &&
    event.begins Call.closes && event.running

def NodeConfig.executed (now : NodeConfig) (future : Nat) : Bool :=
  now.threads.all fun thread => !thread.call.executes future || thread.program.finished

namespace Shutdown

/-- A thread that deals with the end of the future: it executed it, or cancelled it. -/
def Ended (future : Nat) (status : Option FutureStatus) (call : Call) : Prop :=
  (call.executes future = true ∧ ∃ error, status = some (.finished error)) ∨ status = some .cancelled

section
variable (id : TaskId) (future : Nat)

def Begun (status : Option FutureStatus) : Prop := status = some .running ∨ ∃ error, status = some (.finished error)

def Dutiful (status : Option FutureStatus) (call : Call) : Duty → Prop
  | .plain _ | .over => True
  | .queued index _ => call.executes index = true
  | .working index _ => call.executes index = true ∧ (index = future → status = some .running)
  | .closing seen live => call = .shutdown ∧ (∀ entry ∈ seen, (entry.1 = id ↔ entry.2 = future)) ∧
    (future ∈ live → Begun status)
  | _ => False

def Tends (status : Option FutureStatus) (call : Call) : Doing → Prop
  | .nothing => True
  | .calling other => other = id → Ended future status call
  | .popped other index | .saving other index => (other = id ↔ index = future) ∧ (index = future → Ended future status call)
  | .succeeded other index => (other = id ↔ index = future) ∧
    (index = future → Ended future status call ∧ status = some (.finished none))
  | .failing other index _ | .counted other index _ | .noted other index => (other = id ↔ index = future) ∧
    (index = future → Ended future status call ∧ ∃ error, status = some (.finished (some error)))
  | _ => False

def Unfailed (tasks : Tasks) : Prop :=
  (tasks.info future).map TaskInfo.state ≠ some .failed ∧ (tasks.store.lookup id).map TaskInfo.state ≠ some .failed

/-- How far the callback of a task that returned has come. -/
def Concludes (tasks : Tasks) (points : List (Call × Control)) : Prop :=
  (tasks.registered.lookup id = some future ∧ ∃ point ∈ points, point.2.doing = .calling id) ∨
  (∃ point ∈ points, point.2.doing = .popped id future ∨ point.2.doing = .succeeded id future) ∨
  (tasks.info future).map TaskInfo.state = some .completed ∧
    ((∃ point ∈ points, point.2.doing = .saving id future) ∨
      (tasks.store.lookup id).map TaskInfo.state = some .completed)

def Settled (tasks : Tasks) (points : List (Call × Control)) : Prop :=
  match tasks.status future with
  | none => False
  | some .queued => tasks.registered.lookup id = some future ∧ Unfailed id future tasks
  | some .running => tasks.registered.lookup id = some future
  | some .cancelled => Unfailed id future tasks
  | some (.finished none) => Concludes id future tasks points
  | some (.finished (some _)) => True

structure Tended (tasks : Tasks) (points : List (Call × Control)) : Prop where
  callback : ∀ other, tasks.callback other = some id ↔ other = future
  present : (tasks.info future).isSome = true
  registered : ∀ other index, tasks.registered.lookup other = some index → (other = id ↔ index = future)
  duties : ∀ point ∈ points, Dutiful id future (tasks.status future) point.1 point.2.duty
  doings : ∀ point ∈ points, Tends id future (tasks.status future) point.1 point.2.doing
  single : ∀ {first second : Nat} {point other : Call × Control} {job task : TaskCall},
    points[first]? = some point → points[second]? = some other → point.2.duty = .working future job →
    other.2.duty = .working future task → first = second
  settled : Settled id future tasks points

end

variable {id : TaskId} {future : Nat} {tasks after : Tasks} {points : List (Call × Control)} {thread : Nat} {call : Call}
  {control later : Control}

theorem Dutiful.stays {before status : Option FutureStatus} {duty : Duty} (dutiful : Dutiful id future before call duty)
    (apart : status = before ∨ (∀ job, duty ≠ .working future job) ∧ (Begun before → Begun status)) :
    Dutiful id future status call duty := by
  rcases apart with rfl | ⟨apart, begun⟩
  · exact dutiful
  · cases duty with
    | closing seen live => exact ⟨dutiful.1, dutiful.2.1, fun ran => begun (dutiful.2.2 ran)⟩
    | working index job =>
      refine ⟨dutiful.1, ?_⟩
      rintro rfl
      exact absurd rfl (apart job)
    | _ => exact dutiful

theorem Tends.stays {before status : Option FutureStatus} {doing : Doing} (tends : Tends id future before call doing)
    (unended : status = before ∨ before = some .queued ∨ before = some .running) : Tends id future status call doing := by
  rcases unended with rfl | unended
  · exact tends
  · have running : ¬ Ended future before call := by
      rintro (⟨_, error, same⟩ | same) <;> rcases unended with other | other <;> cases same.symm.trans other
    cases doing <;> grind [Tends]

theorem Tended.build (known : Tended id future tasks points) (standing : points[thread]? = some (call, control))
    (callbacks : ∀ other, after.callback other = tasks.callback other) (present : (after.info future).isSome = true)
    (registered : ∀ other index, after.registered.lookup other = some index → tasks.registered.lookup other = some index)
    (moved : after.status future = tasks.status future ∨ tasks.status future = some .queued ∨
      tasks.status future = some .running ∧ (∃ job, control.duty = .working future job) ∧ Begun (after.status future))
    (dutiful : Dutiful id future (after.status future) call later.duty)
    (tends : Tends id future (after.status future) call later.doing)
    (begun : ∀ job, later.duty = .working future job →
      tasks.status future = some .queued ∨ ∃ job, control.duty = .working future job)
    (settled : Settled id future after (points.set thread (call, later))) :
    Tended id future after (points.set thread (call, later)) := by
  have others : ∀ {index : Nat} {point : Call × Control}, index ≠ thread → points[index]? = some point →
      after.status future = tasks.status future ∨ (∀ job, point.2.duty ≠ .working future job) ∧
        (Begun (tasks.status future) → Begun (after.status future)) := by
    intro index point different found
    rcases moved with same | queued | ⟨running, ⟨job, working⟩, begun⟩
    · exact .inl same
    · refine .inr ⟨fun job working => ?_, by simp [Begun, queued]⟩
      have running := known.duties point (List.mem_of_getElem? found)
      rw [working, queued] at running
      cases running.2 rfl
    · exact .inr ⟨fun job other => different (known.single found standing other working), fun _ => begun⟩
  have found : ∀ {index : Nat} {point : Call × Control}, (points.set thread (call, later))[index]? = some point →
      index = thread ∧ point = (call, later) ∨ index ≠ thread ∧ points[index]? = some point := by
    intro index point found
    rw [List.getElem?_set] at found
    grind
  constructor
  · intro other
    rw [callbacks]
    exact known.callback other
  · exact present
  · exact fun other index held => known.registered other index (registered other index held)
  · intro point member
    obtain ⟨index, member⟩ := List.mem_iff_getElem?.mp member
    rcases found member with ⟨rfl, rfl⟩ | ⟨different, member⟩
    · exact dutiful
    · exact (known.duties point (List.mem_of_getElem? member)).stays (others different member)
  · intro point member
    obtain ⟨index, member⟩ := List.mem_iff_getElem?.mp member
    rcases found member with ⟨rfl, rfl⟩ | ⟨different, member⟩
    · exact tends
    · refine (known.doings point (List.mem_of_getElem? member)).stays ?_
      grind
  · intro first second point other job task one two working twice
    have only : ∀ {index : Nat} {point : Call × Control} {job task : TaskCall}, index ≠ thread →
        points[index]? = some point → point.2.duty = .working future job → later.duty ≠ .working future task := by
      intro index point job task different member working again
      rcases begun task again with queued | ⟨task, before⟩
      · have running := known.duties point (List.mem_of_getElem? member)
        rw [working, queued] at running
        cases running.2 rfl
      · exact different (known.single member standing working before)
    rcases found one with ⟨here, rfl⟩ | ⟨different, kept⟩
    · rcases found two with ⟨also, rfl⟩ | ⟨apart, left⟩
      · rw [here, also]
      · exact absurd working (only apart left twice)
    · rcases found two with ⟨also, rfl⟩ | ⟨apart, left⟩
      · exact absurd twice (only different kept working)
      · exact known.single kept left working twice
  · exact settled

theorem Settled.next {others : List (Call × Control)} (settled : Settled id future tasks points)
    (status : after.status future = tasks.status future)
    (registered : tasks.status future = some .queued ∨ tasks.status future = some .running →
      after.registered.lookup id = tasks.registered.lookup id)
    (unfailed : tasks.status future = some .queued ∨ tasks.status future = some .cancelled →
      Unfailed id future tasks → Unfailed id future after)
    (concludes : tasks.status future = some (.finished none) →
      Concludes id future tasks points → Concludes id future after others) : Settled id future after others := by
  unfold Settled at settled ⊢
  rw [status]
  cases before : tasks.status future with
  | none => rw [before] at settled; exact settled
  | some current =>
    rw [before] at settled
    cases current with
    | queued =>
      refine ⟨?_, unfailed (.inl before) settled.2⟩
      rw [registered (.inl before)]
      exact settled.1
    | running => exact (registered (.inr before)).trans settled
    | cancelled => exact unfailed (.inr before) settled
    | finished error =>
      cases error with
      | none => exact concludes before settled
      | some error => trivial

def Concluding (id : TaskId) (future : Nat) (tasks : Tasks) : Doing → Prop
  | .calling other => other = id ∧ tasks.registered.lookup id = some future
  | .popped _ index | .succeeded _ index => index = future
  | .saving _ index => index = future ∧ (tasks.info future).map TaskInfo.state = some .completed
  | _ => False

theorem Concludes.kept {others : List (Call × Control)} (concludes : Concludes id future tasks points)
    (standing : points[thread]? = some (call, control)) (others_eq : others = points.set thread (call, later))
    (mine : Concluding id future tasks control.doing → Concludes id future after others)
    (registered : tasks.registered.lookup id = some future →
      after.registered.lookup id = some future ∨ Concludes id future after others)
    (memory : (tasks.info future).map TaskInfo.state = some .completed →
      (after.info future).map TaskInfo.state = some .completed)
    (record : (tasks.info future).map TaskInfo.state = some .completed →
      (tasks.store.lookup id).map TaskInfo.state = some .completed →
      (after.store.lookup id).map TaskInfo.state = some .completed) : Concludes id future after others := by
  subst others_eq
  rcases concludes with ⟨held, point, member, calling⟩ | ⟨point, member, doing⟩ | ⟨completed, ⟨point, member, saving⟩ | saved⟩
  · rcases kept_point standing member with rfl | member
    · exact mine (by rw [calling]; exact ⟨rfl, held⟩)
    · rcases registered held with held | concludes
      · exact .inl ⟨held, point, member, calling⟩
      · exact concludes
  · rcases kept_point standing member with rfl | member
    · rcases doing with popped | succeeded
      · exact mine (by rw [popped]; exact rfl)
      · exact mine (by rw [succeeded]; exact rfl)
    · exact .inr (.inl ⟨point, member, doing⟩)
  · rcases kept_point standing member with rfl | member
    · exact mine (by rw [saving]; exact ⟨rfl, completed⟩)
    · exact .inr (.inr ⟨memory completed, .inl ⟨point, member, saving⟩⟩)
  · exact .inr (.inr ⟨memory completed, .inr (record completed saved)⟩)

theorem Tended.aside (known : Tended id future tasks points) (standing : points[thread]? = some (call, control))
    (idle : ¬ Concluding id future tasks control.doing) (callbacks : ∀ other, after.callback other = tasks.callback other)
    (info : after.info future = tasks.info future) (registered : after.registered = tasks.registered)
    (status : after.status future = tasks.status future)
    (record : after.store.lookup id = tasks.store.lookup id ∨ after.store.lookup id = after.info future)
    (dutiful : Dutiful id future (tasks.status future) call later.duty)
    (tends : Tends id future (tasks.status future) call later.doing)
    (begun : ∀ job, later.duty = .working future job → ∃ job, control.duty = .working future job) :
    Tended id future after (points.set thread (call, later)) := by
  refine known.build standing callbacks (by rw [info]; exact known.present) (by rw [registered]; exact fun _ _ held => held)
    (.inl status) (by rw [status]; exact dutiful) (by rw [status]; exact tends) (fun job working => .inr (begun job working)) ?_
  refine known.settled.next status (fun _ => by rw [registered]) ?_ ?_
  · rintro _ ⟨memory, store⟩
    refine ⟨by rw [info]; exact memory, ?_⟩
    rcases record with same | same
    · rw [same]; exact store
    · rw [same, info]; exact memory
  · intro _ concludes
    refine concludes.kept standing rfl (fun concluding => absurd concluding idle) (by rw [registered]; exact .inl)
      (by rw [info]; exact fun completed => completed) ?_
    intro completed saved
    rcases record with same | same
    · rw [same]; exact saved
    · rw [same, info]; exact completed

section
variable {config : DriverConfig} {answer : Answer} {duty : Duty}

theorem Tended.pop {other : TaskId} {reply : Except Err (Option Nat)} (known : Tended id future tasks points)
    (standing : points[thread]? = some (call, ⟨duty, .calling other⟩))
    (executed : (TaskOp.popTask other).exec answer tasks = (reply, after)) :
    Tended id future after (points.set thread (call, Control.next config ⟨duty, .calling other⟩ (.task (.popTask other)) reply)) := by
  have dutiful := known.duties _ (List.mem_of_getElem? standing)
  have tends := known.doings _ (List.mem_of_getElem? standing)
  cases executed
  refine known.build standing (fun _ => rfl) known.present ?_ (.inl rfl) dutiful ?_ (fun job same => .inr ⟨job, same⟩) ?_
  · intro name index held
    by_cases same : name = other
    · subst same
      rw [AList.lookup_erase] at held
      cases held
    · rwa [AList.lookup_erase_ne same] at held
  · cases found : tasks.registered.lookup other with
    | none => trivial
    | some index =>
      have same := known.registered other index found
      exact ⟨same, fun equal => tends (same.mpr equal)⟩
  · refine known.settled.next rfl ?_ (fun _ unfailed => unfailed) ?_
    · intro unended
      refine AList.lookup_erase_ne ?_
      rintro rfl
      rcases tends rfl with ⟨_, error, ended⟩ | ended <;> rcases unended with other | other <;>
        cases ended.symm.trans other
    · intro _ concludes
      have popping : other = id → tasks.registered.lookup id = some future → Concludes id future
          { tasks with registered := tasks.registered.erase other } (points.set thread (call, Control.next config
            ⟨duty, .calling other⟩ (.task (.popTask other)) (.ok (tasks.registered.lookup other)))) := by
        rintro rfl held
        exact .inr (.inl ⟨_, moved_point standing, .inl (by simp [Control.next, Control.doingIf, held])⟩)
      refine concludes.kept standing rfl (fun concluding => popping concluding.1 concluding.2) ?_
        (fun completed => completed) (fun _ saved => saved)
      intro held
      by_cases same : other = id
      · exact .inr (popping same held)
      · exact .inl ((AList.lookup_erase_ne (Ne.symm same)).trans held)

theorem Tended.look {doing next : Doing} (known : Tended id future tasks points)
    (standing : points[thread]? = some (call, ⟨duty, doing⟩)) (tends : Tends id future (tasks.status future) call next)
    (mine : tasks.status future = some (.finished none) → Concluding id future tasks doing →
      Concludes id future tasks (points.set thread (call, ⟨duty, next⟩))) :
    Tended id future tasks (points.set thread (call, ⟨duty, next⟩)) := by
  have dutiful := known.duties _ (List.mem_of_getElem? standing)
  refine known.build standing (fun _ => rfl) known.present (fun _ _ held => held) (.inl rfl) dutiful tends
    (fun job same => .inr ⟨job, same⟩) ?_
  refine known.settled.next rfl (fun _ => rfl) (fun _ unfailed => unfailed) fun returned concludes => ?_
  exact concludes.kept standing rfl (mine returned) .inl (fun completed => completed) fun _ saved => saved

theorem Tended.inspect {other : TaskId} {index : Nat} {node : Node} {reply : Except Err (Option Err)}
    (known : Tended id future node.tasks points) (standing : points[thread]? = some (call, ⟨duty, .popped other index⟩))
    (free : (Op.task (.exception index)).blocks node = false)
    (executed : (TaskOp.exception index).exec answer node.tasks = (reply, after)) :
    Tended id future after
      (points.set thread (call, Control.next config ⟨duty, .popped other index⟩ (.task (.exception index)) reply)) := by
  obtain ⟨same, ended⟩ := known.doings _ (List.mem_of_getElem? standing)
  simp only [TaskOp.exec] at executed
  split at executed
  next error status =>
    cases executed
    cases error with
    | none =>
      refine known.look standing ⟨same, fun equal => ⟨ended equal, equal ▸ status⟩⟩ fun _ concluding => ?_
      cases same.mpr concluding
      cases (concluding : index = future)
      exact .inr (.inl ⟨_, moved_point standing, .inr rfl⟩)
    | some error =>
      refine known.look standing ⟨same, fun equal => ⟨ended equal, error, equal ▸ status⟩⟩ fun returned concluding => ?_
      cases (concluding : index = future)
      cases status.symm.trans returned
  next status =>
    cases executed
    refine known.look standing trivial fun returned concluding => ?_
    cases (concluding : index = future)
    cases status.symm.trans returned
  next unfinished uncancelled =>
    have away : index ≠ future := by
      rintro rfl
      have settled := known.settled
      unfold Settled at settled
      simp only [Op.blocks] at free
      grind [Tasks.status]
    cases executed
    exact known.look standing ⟨same, fun equal => absurd equal away⟩ fun _ concluding => absurd concluding away

theorem Tended.advance {status : FutureStatus} (known : Tended id future tasks points)
    (standing : points[thread]? = some (call, control))
    (unended : tasks.status future = some .queued ∨
      tasks.status future = some .running ∧ ∃ job, control.duty = .working future job)
    (dutiful : Dutiful id future (some status) call later.duty) (tends : Tends id future (some status) call later.doing)
    (begun : ∀ job, later.duty = .working future job → tasks.status future = some .queued)
    (settled : tasks.registered.lookup id = some future → match status with
      | .finished none => later.doing = .calling id
      | .cancelled => Unfailed id future tasks
      | .queued => False
      | _ => True)
    (ends : tasks.status future = some .running → Begun (some status)) :
    Tended id future (tasks.update future (fun entry => { entry with status })) (points.set thread (call, later)) := by
  have moved : (tasks.update future (fun entry => { entry with status })).status future = some status := by
    rcases unended with before | ⟨before, _⟩ <;> simp [before]
  have held : tasks.registered.lookup id = some future := by
    have settled := known.settled
    unfold Settled at settled
    rcases unended with before | ⟨before, _⟩ <;> rw [before] at settled
    · exact settled.1
    · exact settled
  refine known.build standing (by simp) (by simpa using known.present) (fun _ _ held => held)
    (.inr (by rw [moved]; exact unended.imp_right fun working => ⟨working.1, working.2, ends working.1⟩))
    (by rw [moved]; exact dutiful) (by rw [moved]; exact tends) (fun job working => .inl (begun job working)) ?_
  replace settled := settled held
  unfold Settled
  rw [moved]
  cases status with
  | queued => cases settled
  | running => exact held
  | cancelled => exact ⟨by simpa using settled.1, settled.2⟩
  | finished error =>
    cases error with
    | none => exact .inl ⟨held, _, moved_point standing, settled⟩
    | some error => trivial

theorem Tended.change {change : TaskInfo → TaskInfo} {index : Nat} {doing next : Doing}
    (known : Tended id future tasks points) (standing : points[thread]? = some (call, ⟨duty, doing⟩))
    (tends : Tends id future (tasks.status future) call next)
    (begun : index = future → tasks.status future ≠ some .queued ∧ tasks.status future ≠ some .cancelled)
    (mine : tasks.status future = some (.finished none) → (index = future ∨ Concluding id future tasks doing) →
      next = .saving id future ∧ index = future ∧ ∀ info, (change info).state = .completed) :
    Tended id future (tasks.update index (fun entry => { entry with info := entry.info.map change }))
      (points.set thread (call, ⟨duty, next⟩)) := by
  have dutiful := known.duties _ (List.mem_of_getElem? standing)
  refine known.build standing (by simp) ?_ (fun _ _ held => held) (.inl (by simp)) (by simpa using dutiful)
    (by simpa using tends) (fun job same => .inr ⟨job, same⟩) ?_
  · rw [Tasks.info_mapInfo]
    split <;> simp [known.present]
  refine known.settled.next (by simp) (fun _ => rfl) ?_ ?_
  · rintro unbegun ⟨memory, store⟩
    refine ⟨?_, store⟩
    have apart : index ≠ future := by
      intro same
      rcases unbegun with queued | cancelled
      · exact (begun same).1 queued
      · exact (begun same).2 cancelled
    simpa [apart] using memory
  · intro returned concludes
    have saving : (index = future ∨ Concluding id future tasks doing) → Concludes id future
        (tasks.update index (fun entry => { entry with info := entry.info.map change }))
        (points.set thread (call, ⟨duty, next⟩)) := by
      intro about
      obtain ⟨rfl, rfl, completed⟩ := mine returned about
      refine .inr (.inr ⟨?_, .inl ⟨_, moved_point standing, rfl⟩⟩)
      obtain ⟨info, found⟩ := Option.isSome_iff_exists.mp known.present
      simp [found, completed]
    by_cases same : index = future
    · exact saving (.inl same)
    · exact concludes.kept standing rfl (fun concluding => saving (.inr concluding)) .inl (by simp [same])
        fun _ saved => saved

theorem Tended.saved {index : Nat} {other : TaskId} {doing : Doing} {reply : Except Err Unit}
    (known : Tended id future tasks points) (standing : points[thread]? = some (call, ⟨duty, doing⟩))
    (same : other = id ↔ index = future) (saves : answer.fails = false)
    (mine : Concluding id future tasks doing →
      index = future ∧ (tasks.info future).map TaskInfo.state = some .completed)
    (executed : (TaskOp.saveInfo other index).exec answer tasks = (reply, after)) :
    Tended id future after (points.set thread (call, ⟨duty, .nothing⟩)) := by
  have dutiful := known.duties _ (List.mem_of_getElem? standing)
  have record : after.store.lookup id = if index = future then tasks.info future else tasks.store.lookup id := by
    have present := known.present
    simp only [TaskOp.exec, saves] at executed
    split
    next equal =>
      cases same.mpr equal
      cases equal
      obtain ⟨info, found⟩ := Option.isSome_iff_exists.mp present
      have memory : tasks.futures[future]?.bind Future.info = some info := found
      simp only [memory] at executed
      cases executed
      rw [found]
      exact AList.lookup_insert _
    next apart =>
      have different : id ≠ other := fun equal => apart (same.mp equal.symm)
      simp only [Bool.false_eq_true, if_false] at executed
      split at executed <;> cases executed
      · exact AList.lookup_insert_ne different
      · rfl
  have frame : after.futures = tasks.futures ∧ after.registered = tasks.registered := by
    simp only [TaskOp.exec, saves, Bool.false_eq_true, if_false] at executed
    split at executed <;> cases executed <;> exact ⟨rfl, rfl⟩
  obtain ⟨futures, registered⟩ := frame
  have status : after.status future = tasks.status future := by rw [Tasks.status, futures]; rfl
  have info : after.info future = tasks.info future := by rw [Tasks.info, futures]; rfl
  refine known.build standing (fun _ => by rw [Tasks.callback, futures]; rfl) (by rw [info]; exact known.present)
    (by rw [registered]; exact fun _ _ held => held) (.inl status) (by rw [status]; exact dutiful) trivial
    (fun job same => .inr ⟨job, same⟩) ?_
  refine known.settled.next status (fun _ => by rw [registered]) ?_ ?_
  · rintro _ ⟨memory, store⟩
    refine ⟨by rw [info]; exact memory, ?_⟩
    rw [record]
    split
    · exact memory
    · exact store
  · intro _ concludes
    refine concludes.kept standing rfl ?_ (by rw [registered]; exact .inl) (by rw [info]; exact fun completed => completed) ?_
    · intro concluding
      obtain ⟨equal, completed⟩ := mine concluding
      refine .inr (.inr ⟨by rw [info]; exact completed, .inr ?_⟩)
      simpa [record, equal] using completed
    · intro completed saved
      rw [record]
      split
      · exact completed
      · exact saved

end

private theorem raised_began {status : Option FutureStatus} (raised : ∃ error, status = some (.finished (some error))) :
    (status ≠ some .queued ∧ status ≠ some .cancelled) ∧ status ≠ some (.finished none) := by
  obtain ⟨error, rfl⟩ := raised
  simp

def lateIn (future : Nat) (tasks : Tasks) : List Nat :=
  match tasks.status future with
  | some (.finished _) => [future]
  | _ => []

theorem Tended.step {config : DriverConfig} {answer : Answer} {node : Node} {operation : TaskOp}
    {reply : Except Err operation.Reply} (known : Tended id future node.tasks points)
    (permitted : closing (lateIn future node.tasks) call (.task operation) answer = true)
    (standing : points[thread]? = some (call, control)) (issued : Issues config control operation)
    (free : (Op.task operation).blocks node = false) (executed : operation.exec answer node.tasks = (reply, after)) :
    Tended id future after (points.set thread (call, control.next config (.task operation) reply)) := by
  have dutiful := known.duties _ (List.mem_of_getElem? standing)
  have tends := known.doings _ (List.mem_of_getElem? standing)
  cases issued with
  | pop => exact known.pop standing executed
  | inspect => exact known.inspect standing free executed
  | complete =>
    cases executed
    obtain ⟨same, returned⟩ := tends
    refine known.change standing ⟨same, fun equal => (returned equal).1⟩ ?_ ?_
    · intro equal
      simp [(returned equal).2]
    · intro _ about
      have equal : _ = future := about.elim (fun equal => equal) fun concluding => concluding
      exact ⟨by rw [same.mpr equal, equal], equal, fun _ => rfl⟩
  | count | note =>
    cases executed
    obtain ⟨same, raised⟩ := tends
    exact known.change standing ⟨same, raised⟩ (fun equal => (raised_began (raised equal).2).1)
      fun returned about => ((raised_began (raised (about.elim (fun equal => equal) False.elim)).2).2 returned).elim
  | fail =>
    cases executed
    obtain ⟨same, raised⟩ := tends
    exact known.change standing ⟨same, fun equal => (raised equal).1⟩ (fun equal => (raised_began (raised equal).2).1)
      fun returned about => ((raised_began (raised (about.elim (fun equal => equal) False.elim)).2).2 returned).elim
  | @save _ other index =>
    obtain ⟨same, ended⟩ := tends
    have saves : answer.fails = false := by simpa [closing] using permitted
    exact known.saved standing same saves (fun concluding => concluding) executed
  | @begin index job =>
    simp only [TaskOp.exec] at executed
    split at executed
    next queued =>
      cases executed
      by_cases same : index = future
      · subst same
        exact known.advance standing (.inl queued) ⟨dutiful, fun _ => rfl⟩ trivial (fun _ _ => queued) (fun _ => trivial)
          fun _ => .inl rfl
      · exact known.aside standing (fun concluding => concluding) (by simp) (by simp) rfl (by simp [same]) (.inl rfl)
          ⟨dutiful, fun equal => absurd equal same⟩ trivial (fun _ working => by cases working; exact absurd rfl same)
    next =>
      cases executed
      exact known.aside standing (fun concluding => concluding) (fun _ => rfl) rfl rfl rfl (.inl rfl) trivial trivial
        (fun _ same => by cases same)
  | @finish index job error =>
    cases executed
    have back : ∀ callback : Option TaskId, Control.next config ⟨.working index job, .nothing⟩
        (.task (.finish index error)) (.ok callback) = ⟨.over, (callback.map Doing.calling).getD .nothing⟩ := by
      intro callback
      cases callback <;> rfl
    rw [back]
    by_cases same : index = future
    · subst same
      have mine : node.tasks.futures[index]?.bind Future.callback = some id := (known.callback index).mpr rfl
      rw [mine]
      exact known.advance standing (.inr ⟨dutiful.2 rfl, job, rfl⟩) trivial (fun _ => .inl ⟨dutiful.1, error, rfl⟩)
        (fun _ working => by cases working) (fun _ => by cases error <;> trivial) fun _ => .inr ⟨error, rfl⟩
    · refine known.aside standing (fun concluding => concluding) (by simp) (by simp) rfl (by simp [same]) (.inl rfl)
        trivial ?_ (fun _ working => by cases working)
      cases found : node.tasks.futures[index]?.bind Future.callback with
      | none => trivial
      | some other =>
        rintro rfl
        exact absurd ((known.callback index).mp found) same
  | @kill seen live other index among ran =>
    cases executed
    have shutting : call = .shutdown := dutiful.1
    -- the future was found running, and it is not among those that finished since
    have running : index = future → node.tasks.status future = some .running := by
      rintro rfl
      rcases dutiful.2.2 ran with running | ⟨error, finished⟩
      · exact running
      · simp [closing, shutting, lateIn, finished] at permitted
    refine known.change standing trivial ?_ ?_
    · intro same
      simp [running same]
    · rintro returned (same | concluding)
      · cases (running same).symm.trans returned
      · cases concluding
  | @cancelNext seen live =>
    cases executed
    have back : ∀ callback : Option TaskId, Control.next config ⟨.closing seen live, .nothing⟩ (.task .cancelNext)
        (.ok callback) = ⟨.closing seen live, (callback.map Doing.calling).getD .nothing⟩ := by
      intro callback
      cases callback <;> rfl
    rw [back]
    by_cases same : node.tasks.futures.findIdx Future.isQueued = future
    · rw [same]
      have mine : node.tasks.futures[future]?.bind Future.callback = some id := (known.callback future).mpr rfl
      have queued : node.tasks.status future = some .queued := by
        rw [← same] at mine ⊢
        exact TaskOp.first_queued mine
      rw [mine]
      have unseen : future ∈ live → Begun (some .cancelled) := fun ran => by simpa [Begun, queued] using dutiful.2.2 ran
      refine known.advance standing (.inl queued) ⟨dutiful.1, dutiful.2.1, unseen⟩ (fun _ => .inr rfl)
        (fun _ working => by cases working) (fun _ => ?_) fun running => by cases queued.symm.trans running
      have settled := known.settled
      unfold Settled at settled
      rw [queued] at settled
      exact settled.2
    · refine known.aside standing (fun concluding => concluding) (by simp) (by simp) rfl (by simp [same]) (.inl rfl)
        dutiful ?_ (fun _ working => by cases working)
      cases found : node.tasks.futures[node.tasks.futures.findIdx Future.isQueued]?.bind Future.callback with
      | none => trivial
      | some other =>
        rintro rfl
        exact absurd ((known.callback _).mp found) same
  | @saveKilled seen live other index among =>
    have saves : answer.fails = false := by simpa [closing] using permitted
    exact known.saved standing (dutiful.2.1 _ among) saves False.elim executed
  | @nextItem seen live visited size =>
    have unmoved : after = node.tasks := by
      simp only [TaskOp.exec] at executed
      repeat' split at executed
      all_goals cases executed; rfl
    subst unmoved
    have looked : ∀ seen, Dutiful id future (node.tasks.status future) call (.closing seen live) →
        Tended id future node.tasks (points.set thread (call, ⟨.closing seen live, .nothing⟩)) := by
      intro seen dutiful
      exact known.aside standing (fun concluding => concluding) (fun _ => rfl) rfl rfl rfl (.inl rfl) dutiful trivial
        (fun _ same => by cases same)
    rcases reply with error | _ | entry
    · exact looked seen dutiful
    · exact looked seen dutiful
    · refine looked (seen ++ [entry]) ⟨dutiful.1, forall_mem_snoc dutiful.2.1 ?_, dutiful.2.2⟩
      exact known.registered _ _ (TaskOp.nextItem_registered executed)
  | @isRunning seen live index =>
    cases executed
    have looked : ∀ live, (future ∈ live → Begun (node.tasks.status future)) →
        Tended id future node.tasks (points.set thread (call, ⟨.closing seen live, .nothing⟩)) := by
      intro live begun
      exact known.aside standing (fun concluding => concluding) (fun _ => rfl) rfl rfl rfl (.inl rfl)
        ⟨dutiful.1, dutiful.2.1, begun⟩ trivial (fun _ same => by cases same)
    cases running : (node.tasks.futures[index]?.map Future.status == some .running) with
    | false => exact looked live dutiful.2.2
    | true =>
      refine looked (live ++ [index]) fun ran => ?_
      rcases List.mem_append.mp ran with ran | here
      · exact dutiful.2.2 ran
      · rw [List.mem_singleton.mp here]
        exact .inl (beq_iff_eq.mp running)
  | setShuttingDown | countTasks | closeExecutor =>
    cases executed
    exact known.aside standing (fun concluding => concluding) (fun _ => rfl) rfl rfl rfl (.inl rfl) dutiful tends fun _ same => ⟨_, same⟩
  | @ask duty doing runs =>
    cases duty with
    | request | retrying => cases dutiful
    | _ => cases runs
  | @endRound duty doing within =>
    cases duty with
    | round | retrying | removing => cases dutiful
    | _ => cases within
  | check | submit | record | register | addCallback => cases tends
  | _ => cases dutiful

theorem Tended.enter {before node : Node} (known : Tended id future before.tasks points) (closes : call.closes = true)
    (accepted : call.accept before = some node) :
    Tended id future node.tasks (points ++ [(call, ⟨call.duty, .nothing⟩)]) := by
  have same : node.tasks = before.tasks := by
    rcases Call.accept_tasks accepted with same | ⟨rfl, _⟩ | ⟨rfl, _⟩
    · exact same
    · cases closes
    · cases closes
  rw [same]
  have dutiful : Dutiful id future (before.tasks.status future) call call.duty := by
    cases call with
    | future index job => simp [Call.duty, Dutiful, Call.executes]
    | shutdown => exact ⟨rfl, by simp, by simp⟩
    | createVolume | createSnapshot | start | workerRound => cases closes
    | _ => trivial
  have idle : ∀ job, call.duty ≠ .working future job := by
    intro job working
    cases call <;> cases working
  have old : ∀ {index : Nat} {point : Call × Control} {job : TaskCall},
      (points ++ [(call, ⟨call.duty, .nothing⟩)])[index]? = some point → point.2.duty = .working future job →
      points[index]? = some point := by
    intro index point job found working
    rw [List.getElem?_append] at found
    split at found
    · exact found
    · cases List.mem_singleton.mp (List.mem_of_getElem? found)
      exact absurd working (idle job)
  constructor
  · exact known.callback
  · exact known.present
  · exact known.registered
  · exact forall_mem_snoc known.duties dutiful
  · exact forall_mem_snoc known.doings trivial
  · intro first second point other job task one two working twice
    exact known.single (old one working) (old two twice) working twice
  · refine known.settled.next rfl (fun _ => rfl) (fun _ unfailed => unfailed) fun _ concludes => ?_
    rcases concludes with ⟨held, point, member, calling⟩ | ⟨point, member, doing⟩ |
      ⟨completed, ⟨point, member, saving⟩ | saved⟩
    · exact .inl ⟨held, point, List.mem_append_left _ member, calling⟩
    · exact .inr (.inl ⟨point, List.mem_append_left _ member, doing⟩)
    · exact .inr (.inr ⟨completed, .inl ⟨point, List.mem_append_left _ member, saving⟩⟩)
    · exact .inr (.inr ⟨completed, .inr saved⟩)

/-- The condition as far as the one future goes, without the notes. -/
def closingOf (future : Nat) (now : NodeConfig) (event : NodeEvent) : Bool :=
  now.onStep (fun call _ operation answer node => closing (lateIn future node.tasks) call operation answer) event &&
    event.begins Call.closes && event.running

theorem Tended.invariant (config : DriverConfig) :
    TaskInvariant config (fun now event => closingOf future now event = true) (Tended id future) where
  enters permitted _ known accepted := by
    simp only [closingOf, Bool.and_eq_true] at permitted
    exact known.enter permitted.1.2 accepted
  steps permitted _ found standing issued free executed known := by
    simp only [closingOf, Bool.and_eq_true, Config.onStep_found found] at permitted
    exact known.step permitted.1.1 standing issued free executed
  crashes permitted _ _ := by simp [closingOf, Event.running] at permitted

private theorem closing_subset {few many : List Nat} {operation : Op} {answer : Answer} (fewer : few ⊆ many)
    (permitted : closing many call operation answer = true) : closing few call operation answer = true := by
  unfold closing at permitted ⊢
  split at permitted
  next index =>
    simp only [Bool.or_eq_true, decide_eq_true_eq] at permitted ⊢
    exact permitted.imp_right fun timely late => timely (fewer late)
  next => exact permitted
  next => rfl

/-- A future that was queued and has finished is noted: once it has finished no look finds it running. -/
def Noted (future : Nat) (now : NotedConfig) : Prop :=
  ∀ error, now.state.1.tasks.status future = some (.finished error) → future ∈ now.state.2

theorem Noted.permits {now : NotedConfig} {event : NodeEvent} (noted : Noted future now)
    (permitted : closingRun now event = true) : closingOf future now.unnoted event = true := by
  simp only [closingRun, Bool.and_eq_true] at permitted
  simp only [closingOf, Bool.and_eq_true]
  refine ⟨⟨?_, permitted.1.2⟩, permitted.2⟩
  cases event with
  | step thread answer =>
    rcases found : now.threads[thread]? with _ | ⟨call, _ | _ | ⟨operation, next⟩⟩
    · simp [Config.onStep, Config.unnoted, found]
    · simp [Config.onStep, Config.unnoted, found]
    · simp [Config.onStep, Config.unnoted, found]
    · have allowed := permitted.1.1
      rw [Config.onStep_found found] at allowed
      have standing : now.unnoted.threads[thread]? = some ⟨call, .request operation next⟩ := found
      rw [Config.onStep_found standing]
      refine closing_subset ?_ allowed
      unfold lateIn
      split
      next error finished => simpa using noted error finished
      next => simp
  | _ => rfl

private theorem noteCompletion_keeps {operation : TaskOp} {answer : Answer} {reply : Except Err operation.Reply} {late : List Nat}
    {error : Option Err} (executed : operation.exec answer tasks = (reply, after))
    (finished : tasks.status future = some (.finished error)) (noted : future ∈ late) :
    future ∈ noteCompletion thread (.task operation) reply late := by
  cases operation with
  | isRunning index =>
    cases executed
    cases running : (tasks.futures[index]?.map Future.status == some .running) with
    | false => exact noted
    | true =>
      refine List.mem_filter.mpr ⟨noted, decide_eq_true ?_⟩
      rintro rfl
      cases (beq_iff_eq.mp running).symm.trans finished
  | finish index error => exact List.mem_cons_of_mem _ noted
  | _ => exact noted

/-- Every permitted event keeps what is known of the future. -/
theorem Noted.next {config : DriverConfig} {event : NodeEvent} {before after : NotedConfig} (noted : Noted future before)
    (permitted : closingRun before event = true)
    (moved : ((nodePlugin config).noting noteCompletion).next event before = some after) : Noted future after := by
  simp only [closingRun, Bool.and_eq_true] at permitted
  intro error finished
  cases Machine.next_moves _ moved with
  | enter entered =>
    obtain ⟨_, began, same⟩ := Option.map_eq_some_iff.mp entered
    cases same
    rcases Call.accept_tasks (nodePlugin_enter began).1 with same | ⟨rfl, _⟩ | ⟨rfl, _⟩
    · refine noted error ?_
      rwa [← same]
    · cases permitted.1.2
    · cases permitted.1.2
  | @step thread answer call operation next reply state found answered =>
    obtain ⟨⟨reply, node⟩, told, same⟩ := Option.map_eq_some_iff.mp answered
    cases same
    obtain ⟨-, executed⟩ := nodePlugin_exec told
    cases operation with
    | task operation =>
      simp only [Op.exec, Prod.mk.injEq] at executed
      obtain ⟨same, rfl⟩ := executed
      have executed : operation.exec answer before.state.1.tasks = (reply, _) := Prod.ext same rfl
      rcases TaskOp.exec_finished executed finished with already | rfl
      · show future ∈ noteCompletion thread (.task operation) reply before.state.2
        exact noteCompletion_keeps executed already (noted error already)
      · exact List.mem_cons_self ..
    | _ =>
      have frame := congrArg (fun result => result.2.tasks) executed
      rw [Op.exec_tasks _ _ _ _ (by simp)] at frame
      refine noted error ?_
      rwa [frame]
  | crash => cases permitted.2
  | drift change =>
    refine noted error ?_
    rwa [← change.apply_tasks]

private theorem noted_reaches {config : DriverConfig} {node : Node} {now : NotedConfig}
    (reached : ((nodePlugin config).noting noteCompletion).Reaches (fun now event => closingRun now event = true)
      ⟨(node, []), []⟩ now) (queued : node.tasks.status future = some .queued) :
    (nodePlugin config).Reaches (fun now event => closingOf future now event = true) ⟨node, []⟩ now.unnoted := by
  refine (reached.invariant (fun now => Noted future now ∧ (nodePlugin config).Reaches
    (fun now event => closingOf future now event = true) ⟨node, []⟩ now.unnoted) ?_ ⟨?_, .refl⟩).2
  · rintro before event after permitted moved ⟨noted, reached⟩
    exact ⟨noted.next permitted moved, reached.tail ⟨event, noted.permits permitted, (Machine.noting_next moved).1⟩⟩
  · simp [Noted, queued]

private theorem inFlight_entry (inFlight : tasks.inFlight = true) (held : tasks.registered.lookup id = some future) :
    (tasks.status future = some .queued ∧ tasks.callback future = some id) ∧
    (tasks.info future).any (fun info => info.state = .running && tasks.store.lookup id = some info) = true := by
  simpa using List.all_eq_true.mp (Bool.and_eq_true_iff.mp inFlight).1 _ (Tasks.mem_inMemory.mpr held)

theorem Tended.initial (inFlight : tasks.inFlight = true) (held : tasks.registered.lookup id = some future) :
    Tended id future tasks [] := by
  have called := (Bool.and_eq_true_iff.mp inFlight).2
  replace called : ∀ other index, tasks.callback index = some other → tasks.registered.lookup other = some index := by
    intro other index found
    obtain ⟨entry, member, _⟩ := Option.bind_eq_some_iff.mp found
    have inside := (List.getElem?_eq_some_iff.mp member).1
    simpa [found] using List.all_eq_true.mp called index (List.mem_range.mpr inside)
  obtain ⟨⟨queued, mine⟩, recorded⟩ := inFlight_entry inFlight held
  obtain ⟨info, memory, running⟩ : ∃ info, tasks.info future = some info ∧
      (info.state = .running ∧ tasks.store.lookup id = some info) := by
    cases memory : tasks.info future with
    | none => rw [memory] at recorded; cases recorded
    | some info => exact ⟨info, rfl, by simpa [memory] using recorded⟩
  constructor
  · intro other
    refine ⟨fun found => ?_, fun same => same ▸ mine⟩
    exact Option.some.inj ((called id other found).symm.trans held)
  · simp [memory]
  · intro other index found
    refine ⟨fun same => ?_, fun same => ?_⟩
    · subst same
      exact Option.some.inj (found.symm.trans held)
    · subst same
      exact Option.some.inj ((inFlight_entry inFlight found).1.2.symm.trans mine)
  · simp
  · simp
  · simp
  · simp [Settled, queued, held, Unfailed, memory, running]

theorem Tended.returned {config : DriverConfig} {now : NodeConfig} (known : Tended id future now.state.tasks points)
    (tracks : (taskProtocol config).Tracks (taskControl config).ended now.threads points)
    (returned : now.state.tasks.status future = some (.finished none)) : now.executed future = false ∨
      (now.state.tasks.store.lookup id).map TaskInfo.state = some .completed := by
  have unfinished : ∀ point ∈ points, Ended future (some (.finished none)) point.1 → point.2.doing.free = false →
      now.executed future = false := by
    intro point member ended busy
    have executes : point.1.executes future = true := by
      rcases ended with ⟨executes, _⟩ | cancelled
      · exact executes
      · cases cancelled
    have unended : ¬ point.2.doing.free = true := by simp [busy]
    obtain ⟨operation, next, found, _⟩ := tracks.waiting member unended
    refine Bool.of_not_eq_true fun idle => ?_
    simpa [executes, Program.finished] using List.all_eq_true.mp idle _ found
  have settled := known.settled
  unfold Settled at settled
  have doings := known.doings
  rw [returned] at settled doings
  rcases settled with ⟨_, point, member, calling⟩ | ⟨point, member, popped | succeeded⟩ |
    ⟨_, ⟨point, member, saving⟩ | saved⟩
  · have tends := doings point member
    rw [calling] at tends
    exact .inl (unfinished point member (tends rfl) (by rw [calling]; rfl))
  · have tends := doings point member
    rw [popped] at tends
    exact .inl (unfinished point member (tends.2 rfl) (by rw [popped]; rfl))
  · have tends := doings point member
    rw [succeeded] at tends
    exact .inl (unfinished point member (tends.2 rfl).1 (by rw [succeeded]; rfl))
  · have tends := doings point member
    rw [saving] at tends
    exact .inl (unfinished point member (tends.2 rfl) (by rw [saving]; rfl))
  · exact .inr saved

end Shutdown

/-- When no task finishes between the last look of a shutdown at it and its
marking, a task in flight that returned and whose callback ran is recorded as
completed, and a task recorded as failed is still running, raised an error, or has
a callback that did not run yet. -/
theorem shutdown_keeps_results (config : DriverConfig) {node : Node} {now : NotedConfig}
    (inFlight : node.tasks.inFlight = true)
    (reached : ((nodePlugin config).noting noteCompletion).Reaches (fun now event => closingRun now event = true)
      ⟨(node, []), []⟩ now)
    {id : TaskId} {future : Nat} (registered : node.tasks.registered.lookup id = some future) :
    (now.state.1.tasks.status future = some (.finished none) → NodeConfig.executed now.unnoted future = true →
      (now.state.1.tasks.store.lookup id).map TaskInfo.state = some .completed) ∧
    ((now.state.1.tasks.store.lookup id).map TaskInfo.state = some .failed →
      now.state.1.tasks.status future = some .running ∨
      (∃ error, now.state.1.tasks.status future = some (.finished (some error))) ∨
      NodeConfig.executed now.unnoted future = false) := by
  have queued := (Shutdown.inFlight_entry inFlight registered).1.1
  obtain ⟨points, tracks, known⟩ := (Shutdown.Tended.invariant config).keeps.reaches
    (Shutdown.noted_reaches reached queued) (Tracking.holds_idle (Shutdown.Tended.initial inFlight registered))
  constructor
  · intro returned ended
    rcases known.returned tracks returned with running | recorded
    · cases running.symm.trans ended
    · exact recorded
  · intro failed
    have settled : Shutdown.Settled id future now.state.1.tasks points := known.settled
    unfold Shutdown.Settled at settled
    cases status : now.state.1.tasks.status future with
    | none => rw [status] at settled; cases settled
    | some current =>
      rw [status] at settled
      cases current with
      | queued => exact absurd failed settled.2.2
      | cancelled => exact absurd failed settled.2
      | running => exact .inl rfl
      | finished error =>
        cases error with
        | some error => exact .inr (.inl ⟨error, rfl⟩)
        | none =>
          rcases known.returned tracks status with running | recorded
          · exact .inr (.inr running)
          · cases recorded.symm.trans failed

namespace Shutdown

def launched : Node :=
  let events := [.enter .start] ++ moves 0 2 {} ++ [.enter (.createVolume thinRequest)] ++ moves 1 9 { amount := 16777216 }
  (((nodePlugin singlePool).run events NodeConfig.initial).map Config.state).getD {}

def listing : List NodeEvent :=
  [.enter (.future 0 thinCreation), .step 0 {}, .enter .shutdown, .step 1 {}, .step 1 { amount := 2 }] ++ moves 1 5 {}

/-- The shutdown marks the task while it runs; the task returns, and its callback puts the record right. -/
theorem shutdown_keeps_results_late : ∃ now : NotedConfig,
    now.state.1.tasks.status 0 = some (.finished none) ∧ NodeConfig.executed now.unnoted 0 = true ∧
    (now.state.1.tasks.store.lookup thinCreation).map TaskInfo.state = some .completed := by
  obtain ⟨now, reached, tested⟩ := @Machine.tested _ _ _ _ _ _ _ ((nodePlugin singlePool).noting noteCompletion)
    closingRun (fun now => decide (now.state.1.tasks.status 0 = some (.finished none)) && NodeConfig.executed now.unnoted 0)
    (listing ++ moves 1 8 {} ++ moves 0 21 {}) ⟨(launched, []), []⟩ (by decide +kernel)
  simp only [Bool.and_eq_true, decide_eq_true_eq] at tested
  have registered : launched.tasks.registered.lookup thinCreation = some 0 := by decide +kernel
  exact ⟨now, tested.1, tested.2, (shutdown_keeps_results singlePool (by decide +kernel) reached registered).1
    tested.1 tested.2⟩

/-- The task returns and its callback records it as completed; the next turn of
the shutdown finds nothing in memory and ends the loop with the list of the turn
before, which is recorded as failed. -/
theorem shutdown_falsifies_result :
    let observed := fun now : NodeConfig => (now.state.tasks.status 0, now.executed 0,
      (now.state.tasks.store.lookup thinCreation).map TaskInfo.state)
    launched.tasks.inFlight = true ∧
    ((nodePlugin singlePool).run (listing ++ moves 0 21 {}) ⟨launched, []⟩).map observed =
      some (some (.finished none), true, some .completed) ∧
    ((nodePlugin singlePool).run (listing ++ moves 0 21 {} ++ moves 1 4 {}) ⟨launched, []⟩).map observed =
      some (some (.finished none), true, some .failed) := by
  decide +kernel

end Shutdown
end Rawfile
