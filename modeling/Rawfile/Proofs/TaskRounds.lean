import Rawfile.Proofs.TaskIdentity
import Rawfile.TaskRounds

/-! Records without a count. They are retried as if they had never failed, swept
as if they had failed too often, and stop the recovery after a crash; a store is
handled as it should be when only completed records lack a count. -/

namespace Rawfile.TaskStore
open Effects

structure OldRecord (raw : List (String × Json)) : Prop where
  task : ∃ task : TaskName, raw.lookup "task" = some (.str task.value)
  args : ∃ args, raw.lookup "args" = some (.arr args)
  kwargs : ∃ kwargs, raw.lookup "kwargs" = some (.obj kwargs)
  state : ∃ state : TaskState, raw.lookup "state" = some (.str state.value)
  count : ∀ value, raw.lookup "retry_count" = some value → ∃ count, value = .int count

structure OldStore (stored : Stored) : Prop where
  nodup : (stored.map Prod.fst).Nodup
  records : ∀ entry ∈ stored, ∃ raw, entry.2 = .obj raw ∧ OldRecord raw

def rawOf : Json → List (String × Json)
  | .obj raw => raw
  | _ => []

def countOf (raw : List (String × Json)) : Option Int :=
  match raw.lookup "retry_count" with
  | some (.int count) => some count
  | _ => none

def inState (state : TaskState) (raw : List (String × Json)) : Bool :=
  match raw.lookup "state" with
  | some (.str text) => text = state.value
  | _ => false

/-- A record without a count has never failed. -/
def retriesLeft (maxRetry : Int) (raw : List (String × Json)) : Bool := (countOf raw).getD (-1) < maxRetry

def exhausted (maxRetry : Int) (raw : List (String × Json)) : Bool := (countOf raw).getD (maxRetry + 1) ≥ maxRetry

/-- The failed records below the limit are retried, each as a task; the completed
ones and those at or above the limit are removed; no record is selected as both
kinds, and the start does not fail. -/
structure Handled (md5 : List Char → String) (isIso : String → Bool) (maxRetry : Int) (now : String)
    (stored : Stored) : Prop where
  started : ∃ recovered, start isIso maxRetry now stored = .ok recovered
  apart : ∀ tasks others, tasksOf isIso maxRetry none (some true) stored = .ok tasks →
    tasksOf isIso maxRetry none (some false) stored = .ok others → ∀ task ∈ tasks, task ∉ others
  retried : ∃ ran, retryAll isIso maxRetry md5 stored = .ok ran ∧ ran.map Prod.fst =
    (stored.filter fun entry => inState .failed (rawOf entry.2) && retriesLeft maxRetry (rawOf entry.2)).map Prod.fst
  swept : sweep isIso maxRetry stored = .ok (stored.filter fun entry =>
    !(inState .completed (rawOf entry.2) || !retriesLeft maxRetry (rawOf entry.2)))

section
variable {md5 : List Char → String} {isIso : String → Bool} {maxRetry : Int} {now : String} {stored : Stored}
  {raw : List (String × Json)}

theorem OldRecord.retryCount (old : OldRecord raw) (default : Int) :
    retryCount raw default = .ok ((countOf raw).getD default) := by
  unfold TaskStore.retryCount countOf
  cases found : raw.lookup "retry_count" with
  | none => rfl
  | some value =>
    obtain ⟨count, rfl⟩ := old.count value found
    rfl

theorem OldRecord.hasState (old : OldRecord raw) (state : TaskState) :
    hasState raw state.value = .ok (inState state raw) := by
  obtain ⟨current, found⟩ := old.state
  simp only [TaskStore.hasState, inState, found]

theorem OldRecord.isRetriable (old : OldRecord raw) :
    isRetriable maxRetry raw = .ok (inState .failed raw && retriesLeft maxRetry raw) := by
  have failed := old.hasState .failed
  simp only [TaskStore.isRetriable, old.retryCount, bind, Except.bind, retriesLeft]
  by_cases left : (countOf raw).getD (-1) < maxRetry
  · rw [if_pos left, decide_eq_true left, Bool.and_true]
    exact failed
  · rw [if_neg left, decide_eq_false left, Bool.and_false]
    rfl

theorem OldRecord.isExhausted (old : OldRecord raw) : isExhausted maxRetry raw = .ok (exhausted maxRetry raw) := by
  simp only [TaskStore.isExhausted, old.retryCount, bind, Except.bind, exhausted]
  rfl

theorem keepIf_eq {keep : List (String × Json) → Except StoreError Bool} {test : List (String × Json) → Bool}
    (each : ∀ entry ∈ stored, ∃ raw, entry.2 = .obj raw ∧ keep raw = .ok (test raw)) :
    keepIf keep stored = .ok (stored.filter fun entry => test (rawOf entry.2)) := by
  induction stored with
  | nil => rfl
  | cons entry rest ih =>
    obtain ⟨raw, value, kept⟩ := each entry (List.mem_cons_self ..)
    obtain ⟨id, record⟩ := entry
    cases value
    have later := ih fun other member => each other (List.mem_cons_of_mem _ member)
    simp only [keepIf, asDict, kept, later, bind, Except.bind, List.filter_cons, rawOf]
    cases test raw <;> rfl

def decoded (isIso : String → Bool) (entry : String × Json) : String × List (String × InfoValue) :=
  (entry.1, decodeTask isIso (rawOf entry.2))

private theorem decodeAll_eq (each : ∀ entry ∈ stored, ∃ raw, entry.2 = .obj raw) :
    decodeAll isIso stored = .ok (stored.map (decoded isIso)) := by
  induction stored with
  | nil => rfl
  | cons entry rest ih =>
    obtain ⟨raw, value⟩ := each entry (List.mem_cons_self ..)
    obtain ⟨id, record⟩ := entry
    cases value
    have later := ih fun other member => each other (List.mem_cons_of_mem _ member)
    simp only [decodeAll, asDict, later, bind, Except.bind]
    rfl

namespace OldStore

section
variable (old : OldStore stored)
include old

theorem filter (test : String × Json → Bool) : OldStore (stored.filter test) :=
  ⟨old.nodup.sublist (List.filter_sublist.map _), fun entry member => old.records entry (List.mem_filter.mp member).1⟩

theorem decodes : decodeAll isIso stored = .ok (stored.map (decoded isIso)) :=
  decodeAll_eq fun entry member => (old.records entry member).imp fun _ record => record.1

theorem inState (state : TaskState) : tasksOf isIso maxRetry (some state) none stored =
    .ok ((stored.filter fun entry => TaskStore.inState state (rawOf entry.2)).map (decoded isIso)) := by
  have kept := keepIf_eq fun entry member =>
    (old.records entry member).imp fun _ record => ⟨record.1, record.2.hasState state⟩
  simp only [tasksOf, getTasks, select, Option.map_some, kept, bind, Except.bind, pure, Except.pure]
  exact (old.filter _).decodes

theorem retriable : tasksOf isIso maxRetry none (some true) stored =
    .ok ((stored.filter fun entry => TaskStore.inState .failed (rawOf entry.2) &&
      retriesLeft maxRetry (rawOf entry.2)).map (decoded isIso)) := by
  have kept := keepIf_eq fun entry member =>
    (old.records entry member).imp fun _ record => ⟨record.1, @OldRecord.isRetriable maxRetry _ record.2⟩
  simp only [tasksOf, getTasks, select, Option.map_none, kept, bind, Except.bind, pure, Except.pure]
  exact (old.filter _).decodes

private theorem unretriable : tasksOf isIso maxRetry none (some false) stored =
    .ok ((stored.filter fun entry => exhausted maxRetry (rawOf entry.2)).map (decoded isIso)) := by
  have kept := keepIf_eq fun entry member =>
    (old.records entry member).imp fun _ record => ⟨record.1, @OldRecord.isExhausted maxRetry _ record.2⟩
  simp only [tasksOf, getTasks, select, Option.map_none, kept, bind, Except.bind, pure, Except.pure]
  exact (old.filter _).decodes

end

end OldStore

private theorem removeAll_eq {ids : List String} (distinct : ids.Nodup) (known : ∀ id ∈ ids, id ∈ stored.map Prod.fst) :
    removeAll ids stored = .ok (stored.filter fun entry => entry.1 ∉ ids) := by
  induction ids generalizing stored with
  | nil => simp [removeAll]
  | cons id rest ih =>
    obtain ⟨fresh, distinct⟩ := List.nodup_cons.mp distinct
    have popped : pop id stored = .ok (stored.filter fun entry => entry.1 ≠ id) :=
      if_pos (known id (List.mem_cons_self ..))
    have later : ∀ other ∈ rest, other ∈ (stored.filter fun entry => entry.1 ≠ id).map Prod.fst := by
      intro other member
      obtain ⟨entry, among, rfl⟩ := List.mem_map.mp (known other (List.mem_cons_of_mem _ member))
      have different : entry.1 ≠ id := fun same => fresh (same ▸ member)
      exact List.mem_map.mpr ⟨entry, List.mem_filter.mpr ⟨among, decide_eq_true different⟩, rfl⟩
    simp only [removeAll, popped, bind, Except.bind]
    rw [ih distinct later, List.filter_filter]
    refine congrArg Except.ok (List.filter_congr fun entry _ => ?_)
    simp only [List.mem_cons, not_or, ne_eq, Bool.decide_and]
    exact Bool.and_comm ..

private theorem removeAll_filter (nodup : (stored.map Prod.fst).Nodup) (test : String × Json → Bool) :
    removeAll ((stored.filter test).map Prod.fst) stored = .ok (stored.filter fun entry => !test entry) := by
  have known : ∀ id ∈ (stored.filter test).map Prod.fst, id ∈ stored.map Prod.fst :=
    fun id member => (List.filter_sublist.map _).subset member
  rw [removeAll_eq (nodup.sublist (List.filter_sublist.map _)) known]
  refine congrArg Except.ok (List.filter_congr fun entry member => ?_)
  have among : entry.1 ∈ (stored.filter test).map Prod.fst ↔ test entry = true := by
    constructor
    · intro found
      obtain ⟨other, passed, same⟩ := List.mem_map.mp found
      obtain ⟨inside, passed⟩ := List.mem_filter.mp passed
      rwa [List.inj_on_of_nodup_map nodup inside member same] at passed
    · exact fun passed => List.mem_map.mpr ⟨entry, List.mem_filter.mpr ⟨member, passed⟩, rfl⟩
  simp only [among, Bool.decide_eq_true, decide_not]

private theorem OldStore.sweeps (old : OldStore stored) : sweep isIso maxRetry stored = .ok (stored.filter fun entry =>
    !(TaskStore.inState .completed (rawOf entry.2) || exhausted maxRetry (rawOf entry.2))) := by
  have ids : ∀ entries : Stored, (entries.map (decoded isIso)).map Prod.fst = entries.map Prod.fst := by
    intro entries
    rw [List.map_map]
    rfl
  have remaining := old.filter fun entry => !exhausted maxRetry (rawOf entry.2)
  simp only [sweep, old.unretriable, bind, Except.bind, ids, removeAll_filter old.nodup, remaining.inState,
    removeAll_filter remaining.nodup]
  rw [List.filter_filter]
  simp only [Bool.not_or]

theorem OldRecord.runs (old : OldRecord raw) : ∃ id, retriedId md5 (decodeTask isIso raw) = .ok id := by
  obtain ⟨task, named⟩ := old.task
  obtain ⟨args, given⟩ := old.args
  obtain ⟨kwargs, keyed⟩ := old.kwargs
  have known : TaskName.ofValue task.value = .ok task := by cases task <;> rfl
  simp only [retriedId, field, lookup_decoded (show "task" ∉ _ by decide), lookup_decoded (show "args" ∉ _ by decide),
    lookup_decoded (show "kwargs" ∉ _ by decide), named, given, keyed, Option.map_some, bind, Except.bind, known]
  exact ⟨_, rfl⟩

theorem OldStore.runAll (old : OldStore stored) : ∃ ran, runAll md5 (stored.map (decoded isIso)) = .ok ran ∧
    ran.map Prod.fst = stored.map Prod.fst := by
  induction stored with
  | nil => exact ⟨[], rfl, rfl⟩
  | cons entry rest ih =>
    obtain ⟨raw, value, record⟩ := old.records entry (List.mem_cons_self ..)
    obtain ⟨id, stored⟩ := entry
    cases value
    obtain ⟨run, runs⟩ := @OldRecord.runs md5 isIso raw record
    obtain ⟨ran, others, ids⟩ := ih ⟨(List.nodup_cons.mp old.nodup).2,
      fun other member => old.records other (List.mem_cons_of_mem _ member)⟩
    refine ⟨(id, run) :: ran, ?_, congrArg (id :: ·) ids⟩
    simp only [List.map_cons, decoded, rawOf, TaskStore.runAll, runs, others, bind, Except.bind]
    rfl

theorem OldRecord.recovers (old : OldRecord raw) :
    (∃ task, recover maxRetry (decodeTask isIso raw) = .ok task) ↔ (countOf raw = none → maxRetry < 0) := by
  simp only [recover, countOf, lookup_decoded (show "retry_count" ∉ _ by decide)]
  cases found : raw.lookup "retry_count" with
  | none =>
    simp only [Option.map_none, true_implies]
    by_cases limited : maxRetry + 1 > 0
    · rw [if_pos limited]
      exact ⟨by rintro ⟨_, ⟨⟩⟩, fun negative => by omega⟩
    · rw [if_neg limited]
      exact ⟨fun _ => by omega, fun _ => ⟨_, rfl⟩⟩
  | some value =>
    obtain ⟨count, rfl⟩ := old.count value found
    exact ⟨by rintro - ⟨⟩, fun _ => ⟨_, rfl⟩⟩

private theorem recoverAll_ok {tasks : List (String × List (String × InfoValue))} :
    (∃ after, recoverAll maxRetry now tasks stored = .ok after) ↔
      ∀ task ∈ tasks, ∃ recovered, recover maxRetry task.2 = .ok recovered := by
  induction tasks generalizing stored with
  | nil => simp [recoverAll]
  | cons task rest ih =>
    rw [List.forall_mem_cons]
    cases first : recover maxRetry task.2 with
    | error => simp [recoverAll, first, bind, Except.bind]
    | ok recovered => simp [recoverAll, first, bind, Except.bind, ih]

theorem OldStore.starts (old : OldStore stored) : (∃ recovered, start isIso maxRetry now stored = .ok recovered) ↔
    ∀ entry ∈ stored, TaskStore.inState .running (rawOf entry.2) = true → countOf (rawOf entry.2) = none →
      maxRetry < 0 := by
  simp only [start, old.inState, bind, Except.bind, recoverAll_ok, List.mem_map, List.mem_filter]
  constructor
  · intro recovers entry member running
    obtain ⟨raw, value, record⟩ := old.records entry member
    have recovered := recovers _ ⟨entry, ⟨member, running⟩, rfl⟩
    simp only [decoded, value, rawOf] at recovered ⊢
    exact record.recovers.mp recovered
  · rintro counted _ ⟨entry, ⟨member, running⟩, rfl⟩
    obtain ⟨raw, value, record⟩ := old.records entry member
    have allowed := counted entry member running
    simp only [decoded, value, rawOf] at allowed ⊢
    exact record.recovers.mpr allowed

private theorem inState_iff {state current : TaskState} (found : raw.lookup "state" = some (.str current.value)) :
    inState state raw = true ↔ current = state := by
  simp only [inState, found, decide_eq_true_eq]
  refine ⟨fun same => ?_, fun same => by rw [same]⟩
  cases current <;> cases state <;> first | rfl | exact absurd same (by decide)

private theorem exhausted_iff : exhausted maxRetry raw = true ↔ retriesLeft maxRetry raw = false ∨ countOf raw = none := by
  simp only [exhausted, retriesLeft, decide_eq_true_eq, decide_eq_false_iff_not]
  cases countOf raw with
  | none => exact ⟨fun _ => .inr rfl, fun _ => by simp only [Option.getD_none]; omega⟩
  | some count =>
    simp only [Option.getD_some, reduceCtorEq, or_false]
    omega

theorem OldStore.apart_iff (old : OldStore stored) :
    (∀ tasks others, tasksOf isIso maxRetry none (some true) stored = .ok tasks →
      tasksOf isIso maxRetry none (some false) stored = .ok others → ∀ task ∈ tasks, task ∉ others) ↔
    ∀ entry ∈ stored, TaskStore.inState .failed (rawOf entry.2) = true → retriesLeft maxRetry (rawOf entry.2) = true →
      countOf (rawOf entry.2) ≠ none := by
  rw [old.retriable, old.unretriable]
  constructor
  · intro apart entry member failed left missing
    refine apart _ _ rfl rfl (decoded isIso entry) (List.mem_map_of_mem ?_) (List.mem_map_of_mem ?_)
    · exact List.mem_filter.mpr ⟨member, by rw [failed, left]; rfl⟩
    · exact List.mem_filter.mpr ⟨member, exhausted_iff.mpr (.inr missing)⟩
  · rintro counted _ _ ⟨⟩ ⟨⟩ task among others
    obtain ⟨entry, kept, rfl⟩ := List.mem_map.mp among
    obtain ⟨other, swept, same⟩ := List.mem_map.mp others
    obtain ⟨member, due⟩ := List.mem_filter.mp kept
    obtain ⟨inside, swept⟩ := List.mem_filter.mp swept
    have id : other.1 = entry.1 := congrArg (fun task => task.1) same
    cases List.inj_on_of_nodup_map old.nodup inside member id
    obtain ⟨failed, left⟩ := Bool.and_eq_true_iff.mp due
    rcases exhausted_iff.mp swept with none_left | missing
    · cases none_left.symm.trans left
    · exact counted entry member failed left missing

theorem OldStore.swept_iff (old : OldStore stored) :
    (sweep isIso maxRetry stored = .ok (stored.filter fun entry =>
      !(TaskStore.inState .completed (rawOf entry.2) || !retriesLeft maxRetry (rawOf entry.2)))) ↔
    ∀ entry ∈ stored, countOf (rawOf entry.2) = none → TaskStore.inState .completed (rawOf entry.2) = true ∨
      retriesLeft maxRetry (rawOf entry.2) = false := by
  rw [old.sweeps]
  constructor
  · intro same entry member missing
    have gone : entry ∉ stored.filter fun entry =>
        !(TaskStore.inState .completed (rawOf entry.2) || exhausted maxRetry (rawOf entry.2)) := by
      intro kept
      have exhausted := (@exhausted_iff maxRetry (rawOf entry.2)).mpr (.inr missing)
      simp [exhausted] at kept
    rw [Except.ok.inj same, List.mem_filter] at gone
    by_contra unmet
    rw [not_or, Bool.not_eq_false] at unmet
    exact gone ⟨member, by simp [unmet]⟩
  · intro counted
    refine congrArg Except.ok (List.filter_congr fun entry member => congrArg not ?_)
    rw [Bool.eq_iff_iff, Bool.or_eq_true, Bool.or_eq_true, exhausted_iff, Bool.not_eq_true']
    constructor
    · rintro (completed | none_left | missing)
      · exact .inl completed
      · exact .inr none_left
      · exact counted entry member missing
    · rintro (completed | none_left)
      · exact .inl completed
      · exact .inr (.inl none_left)

private theorem retriesLeft_missing (missing : countOf raw = none) : retriesLeft maxRetry raw = false ↔ maxRetry < 0 := by
  simp only [retriesLeft, missing, Option.getD_none, decide_eq_false_iff_not]
  omega

/-- An old store is handled as it should be if and only if only completed records
lack a count (or no retry is allowed at all). -/
theorem old_records_handled (md5 : List Char → String) (isIso : String → Bool) (maxRetry : Int) (now : String)
    (stored : Stored) (old : OldStore stored) : Handled md5 isIso maxRetry now stored ↔
      (maxRetry < 0 ∨
        ∀ entry ∈ stored, countOf (rawOf entry.2) = none → inState .completed (rawOf entry.2) = true) := by
  constructor
  · intro handled
    by_contra unmet
    rw [not_or, not_forall] at unmet
    obtain ⟨positive, entry, unmet⟩ := unmet
    obtain ⟨member, missing, incomplete⟩ : entry ∈ stored ∧ countOf (rawOf entry.2) = none ∧
        ¬inState .completed (rawOf entry.2) = true := by simpa only [Classical.not_imp] using unmet
    rcases old.swept_iff.mp handled.swept entry member missing with completed | none_left
    · exact incomplete completed
    · exact positive ((retriesLeft_missing missing).mp none_left)
  · intro met
    have complete : ∀ entry ∈ stored, countOf (rawOf entry.2) = none →
        maxRetry < 0 ∨ inState .completed (rawOf entry.2) = true :=
      fun entry member missing => met.imp_right fun all => all entry member missing
    have other : ∀ entry ∈ stored, ∀ state, inState state (rawOf entry.2) = true → state ≠ .completed →
        countOf (rawOf entry.2) = none → maxRetry < 0 := by
      intro entry member state current different missing
      obtain ⟨raw, value, record⟩ := old.records entry member
      obtain ⟨recorded, found⟩ := record.state
      refine (complete entry member missing).resolve_right fun completed => different ?_
      rw [value] at current completed
      exact ((inState_iff found).mp current).symm.trans ((inState_iff found).mp completed)
    refine ⟨?_, ?_, ?_, ?_⟩
    · exact old.starts.mpr fun entry member running => other entry member .running running (by decide)
    · refine old.apart_iff.mpr fun entry member failed left missing => ?_
      have negative := other entry member .failed failed (by decide) missing
      cases ((retriesLeft_missing missing).mpr negative).symm.trans left
    · obtain ⟨ran, runs, ids⟩ := @OldStore.runAll md5 isIso _ (old.filter fun entry =>
        inState .failed (rawOf entry.2) && retriesLeft maxRetry (rawOf entry.2))
      refine ⟨ran, ?_, ids⟩
      simp only [retryAll, old.retriable, bind, Except.bind]
      exact runs
    · refine old.swept_iff.mpr fun entry member missing => ?_
      exact (complete entry member missing).symm.imp_right (retriesLeft_missing missing).mpr

end

namespace OldTasks

def record (state : TaskState) : List (String × Json) :=
  [("kwargs", .obj []), ("task", .str "CreateVolume"), ("args", .arr [.str "v"]), ("state", .str state.value)]

private theorem record_old (state : TaskState) : OldRecord (record state) :=
  ⟨⟨.createVolume, rfl⟩, ⟨_, rfl⟩, ⟨_, rfl⟩, ⟨state, rfl⟩, by rintro value ⟨⟩⟩

def store (state : TaskState) : Stored := [("a", .obj (record state))]

private theorem store_old (state : TaskState) : OldStore (store state) where
  nodup := List.nodup_singleton _
  records := by
    intro entry member
    cases List.mem_singleton.mp member
    exact ⟨_, rfl, record_old state⟩

def counted (state : TaskState) (count : Int) : List (String × Json) :=
  record state ++ [("retry_count", .int count)]

private theorem counted_old (state : TaskState) (count : Int) : OldRecord (counted state count) :=
  ⟨⟨.createVolume, rfl⟩, ⟨_, rfl⟩, ⟨_, rfl⟩, ⟨state, rfl⟩, by rintro value ⟨⟩; exact ⟨_, rfl⟩⟩

def mixed : Stored :=
  [("a", .obj (record .completed)), ("b", .obj (counted .failed 2)), ("c", .obj (counted .running 4)),
    ("d", .obj (counted .failed 5))]

private theorem mixed_old : OldStore mixed where
  nodup := by decide
  records := by
    intro entry member
    simp only [mixed, List.mem_cons, List.not_mem_nil, or_false] at member
    rcases member with rfl | rfl | rfl | rfl
    · exact ⟨_, rfl, record_old _⟩
    all_goals exact ⟨_, rfl, counted_old ..⟩

/-- A completed record without a count beside records that have one. -/
theorem old_records_handled_completed : OldStore mixed ∧
    Handled String.ofList (fun _ => true) 5 "2025-01-01T00:00:00+00:00" mixed :=
  ⟨mixed_old, (old_records_handled _ _ 5 _ _ mixed_old).mpr (.inr (by decide))⟩

/-- A running one stops the start, a failed one is of both kinds, and a pending one is removed. -/
theorem old_records_mishandled : OldStore (store .running) ∧ OldStore (store .failed) ∧ OldStore (store .pending) ∧
    start (fun _ => true) 5 "2025-01-01T00:00:00+00:00" (store .running) = .error (.key "retry_count") ∧
    tasksOf (fun _ => true) 5 none (some true) (store .failed) =
      tasksOf (fun _ => true) 5 none (some false) (store .failed) ∧
    select 5 none (some true) (store .failed) = .ok (store .failed) ∧
    sweep (fun _ => true) 5 (store .pending) = .ok [] :=
  ⟨store_old _, store_old _, store_old _, rfl, rfl, rfl, rfl⟩

end OldTasks
end Rawfile.TaskStore
