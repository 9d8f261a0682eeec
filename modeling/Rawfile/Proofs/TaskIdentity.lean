import Rawfile.Proofs.TaskStore

/-! The identity of a task. The hashed text can be read back into the arguments,
so different submissions have different texts, and a record that went through
the store still says what was submitted. -/

namespace Rawfile
open Effects
namespace TaskStore

/-! ### Different submissions have different texts -/

/-- What was printed is read back, whatever follows that cannot belong to a number. -/
theorem dumps_append_inj {first second : Json} (one : first.Valid) (two : second.Valid) {rest other : List Char}
    (delimited : Json.Delimited rest) (ended : Json.Delimited other)
    (same : first.dumps ++ rest = second.dumps ++ other) : first = second ∧ rest = other := by
  have left := Json.readValue_dumps one (Nat.le_add_right _ second.dumps.length) delimited
  have right := Json.readValue_dumps two (Nat.le_add_left _ first.dumps.length) ended
  rw [← same, left] at right
  exact Prod.mk.inj (Option.some.inj right)

private theorem TaskName.value_delimited (task : TaskName) : Json.Delimited task.value.toList := by
  cases task <;> (rintro c ⟨⟩; decide)

private theorem TaskName.value_injective {first second : TaskName} (same : first.value.toList = second.value.toList) :
    first = second := by
  cases first <;> cases second <;> first | rfl | exact absurd same (by decide)

private theorem arr_delimited (items : List Json) (rest : List Char) : Json.Delimited (Json.dumps (.arr items) ++ rest) := by
  rw [Json.dumps_arr]
  rintro c ⟨⟩
  decide

/-- The hashed text gives back the submission. -/
theorem hashedText_injective (first second : Submission)
    (same : hashedText first.task first.args first.kwargs = hashedText second.task second.args second.kwargs) :
    first.task = second.task ∧ first.args = second.args ∧ first.kwargs = second.kwargs := by
  simp only [hashedText, List.append_assoc] at same
  obtain ⟨kwargs, rest⟩ := dumps_append_inj first.validKwargs second.validKwargs (arr_delimited _ _)
    (arr_delimited _ _) same
  obtain ⟨args, names⟩ := dumps_append_inj first.validArgs second.validArgs (TaskName.value_delimited _)
    (TaskName.value_delimited _) rest
  exact ⟨TaskName.value_injective names, Json.arr.inj args, Json.obj.inj kwargs⟩

/-! ### A record keeps what was submitted -/

structure Records (submission : Submission) (record : List (String × InfoValue)) : Prop where
  task : record.lookup "task" = some (.json (.str submission.task.value))
  args : record.lookup "args" = some (.json (.arr submission.args))
  kwargs : record.lookup "kwargs" = some (.json (.obj submission.kwargs))

section
variable {submission : Submission} {record : List (String × InfoValue)} {md5 : List Char → String}

private theorem Submission.info_records (submission : Submission) (retryCount : Int) (state created : String)
    (retried lastError : Option String) : Records submission (submission.info retryCount state created retried lastError) :=
  ⟨rfl, rfl, rfl⟩

theorem Records.set (records : Records submission record) {key : String} (value : InfoValue)
    (other : key ∉ ["task", "args", "kwargs"]) : Records submission (Dict.set key value record) := by
  simp only [List.mem_cons, List.not_mem_nil, or_false, not_or] at other
  constructor
  · rw [Dict.lookup_set, if_neg (Ne.symm other.1), records.task]
  · rw [Dict.lookup_set, if_neg (Ne.symm other.2.1), records.args]
  · rw [Dict.lookup_set, if_neg (Ne.symm other.2.2), records.kwargs]

private theorem lookup_encode (record : List (String × InfoValue)) (key : String) :
    (record.map fun field => (field.1, field.2.encode)).lookup key = (record.lookup key).map InfoValue.encode := by
  induction record with
  | nil => rfl
  | cons field rest ih =>
    simp only [List.map_cons, Dict.lookup_field]
    split <;> simp [ih]

private theorem lookup_json (raw : List (String × Json)) (key : String) :
    (raw.map fun field => (field.1, InfoValue.json field.2)).lookup key = (raw.lookup key).map InfoValue.json := by
  induction raw with
  | nil => rfl
  | cons field rest ih =>
    simp only [List.map_cons, Dict.lookup_field]
    split <;> simp [ih]

theorem lookup_decoded {isIso : String → Bool} {raw : List (String × Json)} {key : String}
    (other : key ∉ ["created_ts", "saved_ts", "retry_ts"]) :
    (decodeTask isIso raw).lookup key = (raw.lookup key).map .json := by
  simp only [List.mem_cons, List.not_mem_nil, or_false, not_or] at other
  simp only [decodeTask, List.foldl_cons, List.foldl_nil, Dict.lookup_set, other, if_false]
  exact lookup_json raw key

theorem Records.decoded (records : Records submission record) (isIso : String → Bool) :
    Records submission (decodeTask isIso (record.map fun field => (field.1, field.2.encode))) := by
  constructor <;> rw [lookup_decoded (by decide), lookup_encode]
  · rw [records.task]; rfl
  · rw [records.args]; rfl
  · rw [records.kwargs]; rfl

theorem Records.retried (records : Records submission record) : retriedId md5 record = .ok (submission.id md5) := by
  have named : TaskName.ofValue submission.task.value = .ok submission.task := by
    cases submission.task <;> rfl
  simp only [retriedId, field, records.task, records.args, records.kwargs, named, bind, Except.bind, Submission.id]
  rfl

end

private theorem keepIf_subset {keep : List (String × Json) → Except StoreError Bool} {stored kept : Stored}
    (filtered : keepIf keep stored = .ok kept) : kept ⊆ stored := by
  induction stored generalizing kept with
  | nil => cases filtered; exact List.Subset.refl _
  | cons entry rest ih =>
    obtain ⟨id, record⟩ := entry
    simp only [keepIf, bind, Except.bind] at filtered
    split at filtered
    next => cases filtered
    next raw known =>
      split at filtered
      next => cases filtered
      next keeps known =>
        split at filtered
        next =>
          split at filtered
          next => cases filtered
          next others filtered_rest =>
            cases filtered
            exact List.cons_subset_cons _ (ih filtered_rest)
        next => exact List.Subset.trans (ih filtered) (List.subset_cons_self _ _)

private theorem subset_bind {first : Except StoreError Stored} {next : Stored → Except StoreError Stored} {stored kept : Stored}
    (one : ∀ data, first = .ok data → data ⊆ stored) (two : ∀ data, next data = .ok kept → kept ⊆ data)
    (both : first >>= next = .ok kept) : kept ⊆ stored := by
  cases done : first with
  | error => rw [done] at both; cases both
  | ok data =>
    rw [done] at both
    exact List.Subset.trans (two data both) (one data done)

private theorem select_subset {maxRetry : Int} {state : Option String} {retriable : Option Bool} {stored kept : Stored}
    (selected : select maxRetry state retriable stored = .ok kept) : kept ⊆ stored := by
  have whole {data found : Stored} (same : (pure data : Except StoreError Stored) = .ok found) : found ⊆ data := by
    cases same
    exact List.Subset.refl _
  unfold select at selected
  dsimp only at selected
  cases state with
  | none =>
    split at selected
    · exact subset_bind (fun _ => whole) (fun _ => whole) selected
    · exact subset_bind (fun _ => keepIf_subset) (fun _ => whole) selected
    · exact subset_bind (fun _ => keepIf_subset) (fun _ => whole) selected
  | some state =>
    split at selected
    · exact subset_bind (fun _ => whole) (fun _ => keepIf_subset) selected
    · exact subset_bind (fun _ => keepIf_subset) (fun _ => keepIf_subset) selected
    · exact subset_bind (fun _ => keepIf_subset) (fun _ => keepIf_subset) selected

private theorem mem_decodeAll {isIso : String → Bool} {stored : Stored} {tasks : List (String × List (String × InfoValue))}
    (decoded : decodeAll isIso stored = .ok tasks) {id : String} {record : List (String × InfoValue)}
    (member : (id, record) ∈ tasks) : ∃ raw, (id, Json.obj raw) ∈ stored ∧ record = decodeTask isIso raw := by
  induction stored generalizing tasks with
  | nil => cases decoded; cases member
  | cons entry rest ih =>
    obtain ⟨other, value⟩ := entry
    cases value with
    | obj raw =>
      simp only [decodeAll, asDict, bind, Except.bind] at decoded
      split at decoded
      next => cases decoded
      next others decoded_rest =>
        cases decoded
        rcases List.mem_cons.mp member with same | member
        · cases same
          exact ⟨raw, by simp, rfl⟩
        · obtain ⟨found, stored, same⟩ := ih decoded_rest member
          exact ⟨found, by simp [stored], same⟩
    | _ => cases decoded

/-- Two submissions have the same text only if they are the same; and the record
of a task, saved in any store and read again, is retried under the id it is
stored under. -/
theorem task_identity :
    (∀ first second : Submission,
      hashedText first.task first.args first.kwargs = hashedText second.task second.args second.kwargs →
        first.task = second.task ∧ first.args = second.args ∧ first.kwargs = second.kwargs) ∧
    (∀ md5 : List Char → String, Function.Injective md5 → ∀ first second : Submission, first.id md5 = second.id md5 →
      first.task = second.task ∧ first.args = second.args ∧ first.kwargs = second.kwargs) ∧
    ∀ (md5 : List Char → String) (isIso : String → Bool) (submission : Submission) (info : Info) (now : String)
      (old : Stored), Records submission info.fields → Json.Valid (.obj old) →
      ∃ new raw, put (submission.id md5) info now old = .ok new ∧ load (dump new) = .ok new ∧
        new.lookup (submission.id md5) = some (.obj raw) ∧
        retriedId md5 (decodeTask isIso raw) = .ok (submission.id md5) ∧
        ∀ maxRetry state retriable selected tasks record, select maxRetry state retriable new = .ok selected →
          decodeAll isIso selected = .ok tasks → (submission.id md5, record) ∈ tasks →
          retriedId md5 record = .ok (submission.id md5) := by
  refine ⟨hashedText_injective, fun md5 injective first second same => ?_, ?_⟩
  · exact hashedText_injective first second (injective same)
  intro md5 isIso submission info now old records valid
  have stamped := records.set (.datetime now) (show "saved_ts" ∉ ["task", "args", "kwargs"] by decide)
  have retried : retriedId md5 _ = _ := (stamped.decoded isIso).retried
  have renewed : Json.Valid (.obj (Dict.set (submission.id md5)
      (encodeTask (Dict.set "saved_ts" (.datetime now) info.fields)) old)) := valid.set (encodeTask_valid info now)
  have found := Dict.lookup_set (submission.id md5) (submission.id md5)
    (encodeTask (Dict.set "saved_ts" (.datetime now) info.fields)) old
  rw [if_pos rfl] at found
  refine ⟨_, _, rfl, load_dump renewed, found, retried, ?_⟩
  intro maxRetry state retriable selected tasks record select decode member
  obtain ⟨raw, stored, rfl⟩ := mem_decodeAll decode member
  cases renewed with
  | obj nodup each =>
    have same := Dict.lookup_of_mem nodup (select_subset select stored)
    rw [found] at same
    cases same
    exact retried

def creation : Submission where
  task := .createVolume
  args := [.str "v", .int 16777216, .str "default", .bool true]
  kwargs := [("source_type", .null)]
  validArgs := by
    apply Json.Valid.arr
    intro item member
    simp only [List.mem_cons, List.not_mem_nil, or_false] at member
    rcases member with rfl | rfl | rfl | rfl
    · exact .str _
    · exact .int _
    · exact .str _
    · exact .bool _
  validKwargs := .obj (by decide) fun field member => by
    cases List.mem_singleton.mp member
    exact .null

def creationInfo : Info where
  fields := creation.info (-1) "Running" "2025-01-01T00:00:00+00:00" none none
  nodup := by decide
  valid := by
    intro field member
    simp only [Submission.info, Option.map_none, Option.toList_none, List.append_nil, List.mem_cons, List.not_mem_nil,
      or_false] at member
    rcases member with rfl | rfl | rfl | rfl | rfl | rfl
    · exact creation.validKwargs
    · exact .str _
    · exact creation.validArgs
    · exact .int _
    · exact .str _
    · exact .str _

/-- The record of a creation in a store of its own, its text standing for the digest. -/
theorem task_identity_creation : ∃ new raw,
    put (creation.id String.ofList) creationInfo "2025-01-01T00:00:01+00:00" [] = .ok new ∧
      load (dump new) = .ok new ∧ new.lookup (creation.id String.ofList) = some (.obj raw) ∧
      retriedId String.ofList (decodeTask (fun _ => true) raw) = .ok (creation.id String.ofList) := by
  obtain ⟨new, raw, saved, loaded, found, retried, _⟩ := task_identity.2.2 String.ofList (fun _ => true) creation
    creationInfo "2025-01-01T00:00:01+00:00" [] (creation.info_records _ _ _ _ _) (.obj (by simp) (by simp))
  exact ⟨new, raw, saved, loaded, found, retried⟩

end TaskStore
end Rawfile
