import Rawfile.Effects.JsonText
import Rawfile.TaskStore

/-! What a crash inside `save_task` or `remove_task` leaves of the stored tasks.
Between emptying the file and closing it the file holds a cut of the new text,
and a cut is neither map. -/

namespace Rawfile
open Effects Program TaskStore

variable {call : StoreCall} {config : StoreConfig} {text : List Char} {file : StoreFile} {reached : Nat}

namespace StoreFile

private theorem flush_nothing (empty : file.pending = []) (count : Nat) : file.flush count = file := by
  simp [flush, empty]

private theorem flushAll_nothing (empty : file.pending = []) : file.flushAll = file :=
  flush_nothing empty _

def writing (text : List Char) (reached : Nat) : StoreFile where
  content := text.take reached
  position := (text.take reached).length
  pending := text.drop reached
  locked := true

private theorem flush_writing (text : List Char) (reached count : Nat) :
    (writing text reached).flush count = writing text (reached + count) := by
  have further : text.take (reached + count) = text.take reached ++ (text.drop reached).take count := List.take_add
  simp only [flush, writing]
  split
  next none =>
    rw [none, List.append_nil] at further
    have dropped : text.drop (reached + count) = text.drop reached := by
      rw [← List.drop_drop]
      rcases List.take_eq_nil_iff.mp none with rfl | done
      · rfl
      · simp [done]
    simp [further, dropped]
  next =>
    have whole : (text.take reached).drop ((text.take reached).length + ((text.drop reached).take count).length) = [] :=
      List.drop_eq_nil_of_le (by omega)
    simp only [List.take_length, Nat.sub_self, List.replicate_zero, List.append_nil, whole, further, List.drop_drop,
      List.length_append]

private theorem writing_all (all : text.length ≤ reached) : writing text reached = writing text text.length := by
  simp [writing, List.take_of_length_le all, List.drop_eq_nil_of_le all]

private theorem flushAll_writing (text : List Char) (reached : Nat) :
    (writing text reached).flushAll = writing text text.length := by
  rw [flushAll, flush_writing]
  apply writing_all
  simp only [writing, List.length_drop]
  omega

end StoreFile

namespace TaskStore

private theorem drifts_still {before after : StoreFile} (empty : before.pending = []) (drifts : taskStore.Drifts before after) :
    after = before :=
  drifts.fixed fun count => StoreFile.flush_nothing empty count

private theorem drifts_writing {after : StoreFile} (drifts : taskStore.Drifts (.writing text reached) after) :
    ∃ reached, after = .writing text reached := by
  induction drifts with
  | refl => exact ⟨reached, rfl⟩
  | tail _ drift ih =>
    obtain ⟨count, rfl⟩ := drift
    obtain ⟨reached, rfl⟩ := ih
    exact ⟨_, StoreFile.flush_writing text reached count⟩

def closing (body : Store α) : Store α :=
  (body.tryFinally (Store.call .close)).tryFinally (Store.call .release)

def install (change : Stored → Except StoreError Stored) (loaded : Except StoreError Stored) : Store Unit := do
  let current ← ofExcept loaded
  let changed ← ofExcept (change current)
  Store.call (.truncate 0)
  Store.call (.seek 0)
  Store.call (.write (dump changed))
  Store.call .fsync

end TaskStore

def StoreConfig.unemptied (config : StoreConfig) : Bool :=
  config.threads.any fun thread =>
    match thread.program with
    | .request .acquire _ | .request .open _ | .request .read _ | .request (.truncate _) _ => true
    | _ => false

namespace TaskStore

abbrev Inside : StoreConfig → StoreConfig → Prop := taskStore.Reaches (fun _ event => event.inner = true)

theorem step_still {operation : StoreOp} {next : Except StoreError operation.Reply → Store Unit}
    (reached : Inside ⟨file, [⟨call, .request operation next⟩]⟩ config) (still : file.pending = []) :
    config = ⟨file, [⟨call, .request operation next⟩]⟩ ∨
    ∃ reply after, operation.exec file = some (reply, after) ∧ Inside ⟨after, [⟨call, next reply⟩]⟩ config := by
  rcases reached.alone with ⟨drifted, drifts, same⟩ | ⟨drifted, answer, reply, after, drifts, answered, reached⟩
  · rw [drifts_still still drifts] at same
    exact .inl same
  · rw [drifts_still still drifts] at answered
    exact .inr ⟨reply, after, answered, reached⟩

private theorem ended_still {program : Store Unit} (ended : program.finished = true)
    (reached : Inside ⟨file, [⟨call, program⟩]⟩ config) (still : file.pending = []) :
    config = ⟨file, [⟨call, program⟩]⟩ := by
  obtain ⟨drifted, drifts, same⟩ := reached.alone_ended ended
  rw [drifts_still still drifts] at same
  exact same

private theorem closing_done {outcome : Except StoreError Unit}
    (reached : Inside ⟨file, [⟨call, closing (ofExcept outcome)⟩]⟩ config) (still : file.pending = []) :
    config.state.content = file.content ∧ config.unemptied = false := by
  cases outcome
  all_goals
    rcases step_still reached still with rfl | ⟨reply, after, closed, reached⟩
    · exact ⟨rfl, rfl⟩
    · cases closed
      rw [StoreFile.flushAll_nothing still] at reached
      rcases step_still reached still with rfl | ⟨reply, after, released, reached⟩
      · exact ⟨rfl, rfl⟩
      · cases released
        rw [ended_still rfl reached still]
        exact ⟨rfl, rfl⟩

private theorem closing_written (inside : Inside ⟨.writing text reached, [⟨call, closing (Store.call .fsync)⟩]⟩ config) :
    (∃ reached, config.state.content = text.take reached) ∧ config.unemptied = false := by
  rcases inside.alone with ⟨drifted, drifts, rfl⟩ | ⟨drifted, _, reply, after, drifts, synced, inside⟩
  · obtain ⟨reached, rfl⟩ := drifts_writing drifts
    exact ⟨⟨reached, rfl⟩, rfl⟩
  · cases synced
    obtain ⟨reached, rfl⟩ := drifts_writing drifts
    rcases inside.alone with ⟨drifted, drifts, rfl⟩ | ⟨drifted, _, reply, after, drifts, closed, inside⟩
    · obtain ⟨reached, rfl⟩ := drifts_writing drifts
      exact ⟨⟨reached, rfl⟩, rfl⟩
    · cases closed
      obtain ⟨reached, rfl⟩ := drifts_writing drifts
      rw [StoreFile.flushAll_writing] at inside
      have still : (StoreFile.writing text text.length).pending = [] := by simp [StoreFile.writing]
      rcases step_still inside still with rfl | ⟨reply, after, released, inside⟩
      · exact ⟨⟨text.length, rfl⟩, rfl⟩
      · cases released
        rw [ended_still rfl inside still]
        exact ⟨⟨text.length, rfl⟩, rfl⟩

/-- An update leaves the old text or, once the file is emptied, a part of the new one. -/
theorem install_contents {change : Stored → Except StoreError Stored} {old : Stored}
    (inside : Inside ⟨⟨text, text.length, [], true⟩, [⟨call, closing (install change (.ok old))⟩]⟩ config) :
    (config.state.content = text ∧ (config.unemptied = true ∨ ∃ error, change old = .error error)) ∨
    ∃ new reached, change old = .ok new ∧ config.unemptied = false ∧ config.state.content = (dump new).take reached := by
  cases changed : change old with
  | error error =>
    have raised : install change (.ok old) = ofExcept (.error error) := by
      simp [install, Program.ofExcept, changed]
    rw [raised] at inside
    exact .inl ⟨(closing_done inside rfl).1, .inr ⟨error, rfl⟩⟩
  | ok new =>
    have going : install change (.ok old) = (do
        Store.call (.truncate 0)
        Store.call (.seek 0)
        Store.call (.write (dump new))
        Store.call .fsync) := by
      simp [install, Program.ofExcept, changed]
    rw [going] at inside
    rcases step_still inside rfl with rfl | ⟨reply, after, truncated, inside⟩
    · exact .inl ⟨rfl, .inl rfl⟩
    · cases truncated
      rcases step_still inside rfl with rfl | ⟨reply, after, sought, inside⟩
      · exact .inr ⟨new, 0, rfl, rfl, rfl⟩
      · cases sought
        rcases step_still inside rfl with rfl | ⟨reply, after, written, inside⟩
        · exact .inr ⟨new, 0, rfl, rfl, rfl⟩
        · cases written
          have inside : Inside ⟨.writing (dump new) 0, [⟨call, closing (Store.call .fsync)⟩]⟩ config := inside
          obtain ⟨⟨reached, cut⟩, emptied⟩ := closing_written inside
          exact .inr ⟨new, reached, rfl, emptied, cut⟩

private theorem rewrite_contents {change : Stored → Except StoreError Stored} {old : Stored} (stored : load text = .ok old)
    (inside : Inside ⟨{ content := text }, [⟨call, rewrite change⟩]⟩ config) :
    (config.state.content = text ∧ (config.unemptied = true ∨ ∃ error, change old = .error error)) ∨
    ∃ new reached, change old = .ok new ∧ config.unemptied = false ∧ config.state.content = (dump new).take reached := by
  rcases step_still inside rfl with rfl | ⟨reply, after, acquired, inside⟩
  · exact .inl ⟨rfl, .inl rfl⟩
  · cases acquired
    rcases step_still inside rfl with rfl | ⟨reply, after, opened, inside⟩
    · exact .inl ⟨rfl, .inl rfl⟩
    · cases opened
      rcases step_still inside rfl with rfl | ⟨reply, after, read, inside⟩
      · exact .inl ⟨rfl, .inl rfl⟩
      · cases read
        have inside : Inside ⟨⟨text, text.length, [], true⟩, [⟨call, closing (install change (load text))⟩]⟩ config :=
          inside
        rw [stored] at inside
        exact install_contents inside

private theorem dump_begins (stored : Stored) : ∃ more, dump stored = '{' :: more := ⟨_, Json.dumps_obj stored⟩

theorem load_dump {stored : Stored} (valid : Json.Valid (.obj stored)) : load (dump stored) = .ok stored := by
  obtain ⟨more, shape⟩ := dump_begins stored
  rw [load, if_neg (by simp [shape]), dump, Json.loads_dumps valid]

private theorem load_valid {stored : Stored} (loaded : load text = .ok stored) : Json.Valid (.obj stored) := by
  unfold load at loaded
  split at loaded
  next fields found => cases loaded; exact Json.loads_valid found
  next => cases loaded
  next => cases loaded

theorem encodeTask_valid (info : Info) (now : String) :
    (encodeTask (Dict.set "saved_ts" (.datetime now) info.fields)).Valid := by
  refine .obj ?_ ?_
  · rw [List.map_map]
    exact Dict.nodup_set info.nodup
  · intro field member
    obtain ⟨source, among, rfl⟩ := List.mem_map.mp member
    rcases Dict.mem_set among with rfl | among
    · exact .str now
    · exact info.valid source among

private theorem lookup_filter_ne {id other : String} (different : other ≠ id) (stored : Stored) :
    (stored.filter fun entry => entry.1 ≠ id).lookup other = stored.lookup other := by
  induction stored with
  | nil => rfl
  | cons entry rest ih =>
    by_cases removed : entry.1 = id
    · rw [List.filter_cons_of_neg (by simpa using removed), ih, Dict.lookup_field, if_neg (by simpa [removed])]
    · rw [List.filter_cons_of_pos (by simpa using removed)]
      simp only [Dict.lookup_field, ih]

end TaskStore

namespace StoreCall

def after (call : StoreCall) (old : Stored) : Stored :=
  match call.change old with
  | .ok new => new
  | .error _ => old

def raises (call : StoreCall) (old : Stored) : Bool :=
  match call.change old with
  | .ok _ => false
  | .error _ => true

private theorem change_valid {old new : Stored} (valid : Json.Valid (.obj old)) (changed : call.change old = .ok new) :
    Json.Valid (.obj new) := by
  cases call with
  | save id info now => cases changed; exact valid.set (encodeTask_valid info now)
  | remove id =>
    simp only [change, pop] at changed
    split at changed
    next =>
      cases changed
      cases valid with
      | obj nodup each =>
        exact .obj (nodup.sublist (List.filter_sublist.map _)) fun field member => each field (List.mem_of_mem_filter member)
    next => cases changed

private theorem change_others {old new : Stored} (changed : call.change old = .ok new) {other : String}
    (different : other ≠ call.id) : new.lookup other = old.lookup other := by
  cases call with
  | save id info now =>
    cases changed
    rw [Dict.lookup_set, if_neg (show other ≠ id from different)]
  | remove id =>
    simp only [change, pop] at changed
    split at changed
    next => cases changed; exact lookup_filter_ne different old
    next => cases changed

end StoreCall

namespace TaskStore

/-- The crash finds the old text untouched, the new text complete, or the file
empty where one of the two maps is. -/
def Recoverable (call : StoreCall) (old : Stored) (config : StoreConfig) : Prop :=
  call.raises old = true ∨ config.unemptied = true ∨
    config.state.content.length = (dump (call.after old)).length ∨
    config.state.content = [] ∧ (old = [] ∨ call.after old = [])

theorem load_empty : load [] = .ok [] := rfl

private theorem load_cut {stored : Stored} (valid : Json.Valid (.obj stored)) (begun : 0 < reached)
    (cut : reached < (dump stored).length) : load ((dump stored).take reached) = .error .jsonDecode := by
  have started : (dump stored).take reached ≠ [] := by
    rw [ne_eq, List.take_eq_nil_iff, ← List.length_eq_zero_iff]
    omega
  have missing : (dump stored).drop reached ≠ [] := by
    rw [ne_eq, List.drop_eq_nil_iff]
    omega
  rw [load, if_neg started, Json.loads_cut valid (List.take_append_drop reached (dump stored)) started missing]

private theorem program_rewrite (call : StoreCall) : call.program = rewrite call.change := by
  cases call <;> rfl

private theorem load_take {new : Stored} (valid : Json.Valid (.obj new)) (old : Stored) (reached : Nat) :
    load ((dump new).take reached) = .ok old ∨ load ((dump new).take reached) = .ok new ↔
      ((dump new).take reached).length = (dump new).length ∨ (dump new).take reached = [] ∧ (old = [] ∨ new = []) := by
  obtain ⟨more, shape⟩ := dump_begins new
  rcases Nat.lt_or_ge reached (dump new).length with cut | complete
  · rcases Nat.eq_zero_or_pos reached with rfl | begun
    · rw [List.take_zero, load_empty]
      simp only [Except.ok.injEq, List.length_nil, shape, List.length_cons, true_and]
      constructor
      · rintro (rfl | rfl)
        · exact .inr (.inl rfl)
        · exact .inr (.inr rfl)
      · rintro (never | rfl | rfl)
        · omega
        · exact .inl rfl
        · exact .inr rfl
    · have started : (dump new).take reached ≠ [] := by
        rw [ne_eq, List.take_eq_nil_iff, shape]
        simp only [reduceCtorEq, or_false]
        omega
      rw [load_cut valid begun cut]
      simp only [reduceCtorEq, or_self, List.length_take, started, false_and, or_false, false_iff]
      omega
  · rw [List.take_of_length_le complete, load_dump valid]
    simp

end TaskStore

/-- A crash inside a call leaves the map before the call or the map after it
exactly when it comes before the file is emptied or after the new text is in it,
or while the file is empty and one of the maps is. Then no other task's record is
lost. -/
theorem stored_tasks_survive_crash (call : StoreCall) {text : List Char} {old : Stored}
    (stored : load text = .ok old) {config : StoreConfig}
    (inside : taskStore.Reaches (fun _ event => event.inner = true) (StoreConfig.beginning call text) config) :
    let content := (taskStore.crash config.state).content
    (load content = .ok old ∨ load content = .ok (call.after old) ↔ Recoverable call old config) ∧
    (Recoverable call old config → ∃ now, load content = .ok now ∧
      ∀ other ≠ call.id, now.lookup other = old.lookup other) := by
  intro content
  rw [StoreConfig.beginning, program_rewrite] at inside
  rcases rewrite_contents stored inside with ⟨same, untouched⟩ | ⟨new, reached, changed, emptied, cut⟩
  · have kept : load content = .ok old := by
      rw [show content = text from same]
      exact stored
    have recoverable : Recoverable call old config := by
      rcases untouched with unemptied | ⟨error, raised⟩
      · exact .inr (.inl unemptied)
      · exact .inl (by simp [StoreCall.raises, raised])
    exact ⟨⟨fun _ => recoverable, fun _ => .inl kept⟩, fun _ => ⟨old, kept, fun _ _ => rfl⟩⟩
  · have after : call.after old = new := by simp [StoreCall.after, changed]
    have quiet : call.raises old = false := by simp [StoreCall.raises, changed]
    have survives := load_take (StoreCall.change_valid (load_valid stored) changed) old reached
    rw [← cut] at survives
    have precise : load content = .ok old ∨ load content = .ok new ↔ Recoverable call old config := by
      simp only [Recoverable, quiet, emptied, after, Bool.false_eq_true, false_or]
      exact survives
    rw [after]
    refine ⟨precise, fun recoverable => ?_⟩
    rcases precise.mpr recoverable with kept | renewed
    · exact ⟨old, kept, fun _ _ => rfl⟩
    · exact ⟨new, renewed, fun _ different => StoreCall.change_others changed different⟩

namespace TaskStore

def failedRecord : Info where
  fields := [("task", .json (.str "CreateVolume")), ("retry_count", .json (.int 0)), ("state", .json (.str "Failed"))]
  nodup := by decide
  valid := by
    intro field member
    simp only [List.mem_cons, List.not_mem_nil, or_false] at member
    rcases member with rfl | rfl | rfl
    · exact .str _
    · exact .int _
    · exact .str _

def oneTask : Stored := [("a", encodeTask failedRecord.fields)]

def savingSecond : StoreCall := .save "b" failedRecord "2025-01-01T00:00:00+00:00"

/-- The calls `acquire`, `open`, `read`, `truncate`, `seek`, `write`, `fsync`, `close` and `release`. -/
def operations (count : Nat) : List StoreEvent := List.replicate count (.step 0 ())

/-- The process dies when the call has closed the file. -/
theorem stored_tasks_survive_late_crash : ∃ config : StoreConfig,
    load (dump oneTask) = .ok oneTask ∧ Recoverable savingSecond oneTask config ∧
    ∃ now, load (taskStore.crash config.state).content = .ok now ∧
      ∀ other ≠ "b", now.lookup other = oneTask.lookup other := by
  have stored : load (dump oneTask) = .ok oneTask := by rfl
  obtain ⟨config, ran⟩ := Option.isSome_iff_exists.mp (show (taskStore.runIf (fun _ event => event.inner)
    (operations 8) (StoreConfig.beginning savingSecond (dump oneTask))).isSome = true by decide +kernel)
  have complete : ((taskStore.runIf (fun _ event => event.inner) (operations 8)
      (StoreConfig.beginning savingSecond (dump oneTask))).map fun config => config.state.content.length) =
      some (dump (savingSecond.after oneTask)).length := by decide +kernel
  rw [ran] at complete
  have recoverable : Recoverable savingSecond oneTask config := .inr (.inr (.inl (Option.some.inj complete)))
  have survives := stored_tasks_survive_crash savingSecond stored (Machine.runIf_reaches ran)
  exact ⟨config, stored, recoverable, survives.2 recoverable⟩

/-- The process dies right after the file was emptied, or when one character of
the new text has reached it: the stored record is gone, or no task can be read. -/
theorem stored_tasks_lost :
    let readable := fun config : StoreConfig => (load config.state.content).toOption.map List.length
    let begun := StoreConfig.beginning savingSecond (dump oneTask)
    ((taskStore.run [] begun).map readable,
      (taskStore.run (operations 4 ++ [.crash]) begun).map readable,
      (taskStore.run (operations 6 ++ [.drift 1, .crash]) begun).map readable) =
    (some (some 1), some (some 0), some none) := by
  decide +kernel

end TaskStore
end Rawfile
