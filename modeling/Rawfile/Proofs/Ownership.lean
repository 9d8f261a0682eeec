import Rawfile.Proofs.Locking

/-! Calls that own a part of the node. They are under way one at a time and
nobody else changes that part, so an owner knows what it has read or written
there for as long as it runs. -/

namespace Rawfile
open Effects

/-- The part that is owned, by which calls, what they promise of their own steps,
and the condition put on the steps of a run. An unchanged part keeps every
promise, what is valid in all states, and what is quiet while no owner runs. -/
structure Owned where
  owns : Call → Bool
  same : Node → Node → Prop
  promise : Call → Node → Node → Prop
  condition : Call → Nat → Op → Answer → Node → Bool
  valid : Node → Prop := fun _ => True
  quiet : Node → Prop := fun _ => True
  same_files : ∀ {before after : Node}, after.files = before.files → same before after
  same_trans : ∀ {first second third}, same first second → same second third → same first third
  promised : ∀ {call before after}, same before after → promise call before after
  valid_same : ∀ {before after : Node}, same before after → valid before → valid after := by intros; trivial
  quiet_same : ∀ {before after : Node}, same before after → quiet before → quiet after := by intros; trivial

namespace Owned

def discipline (part : Owned) (config : DriverConfig) : Discipline (nodePlugin config) where
  permits call thread operation answer node := part.condition call thread operation answer node = true
  valid := part.valid
  guarantee call _ before after := part.promise call before after ∧ (part.owns call = false → part.same before after)
  rely call _ before after := part.owns call = true → part.same before after
  together call other := ¬ (part.owns call = true ∧ part.owns other = true)
  absent _ _ := True
  owner := part.owns
  quiet := part.quiet
  rely_refl _ _ _ _ := part.same_files rfl
  rely_trans first second owned := part.same_trans (first owned) (second owned)
  compatible _ promised _ together owned := promised.2 (by simpa [owned] using together)
  absent_kept _ _ _ := trivial
  quiet_kept promised other := part.quiet_same (promised.2 other)

def spares (part : Owned) (operation : Op) : Prop :=
  ∀ thread answer before after reply, operation.exec thread answer before = (reply, after) → part.same before after

variable {part : Owned} {config : DriverConfig} {call : Call} {thread : Nat} {operation : Op} {state now : Node}
  {α : Type} {program : Driver α} {allowed : Op → Prop} {known : Node → Prop}

theorem reads_spares (reads : operation.reads) : part.spares operation :=
  fun _ _ _ _ _ executed => part.same_files (by rw [reads.unchanged executed])

section
variable {post : Except Err operation.Reply → Node → Prop}

theorem step_intro (effect : ∀ answer reply after, part.condition call thread operation answer now = true →
      operation.exec thread answer now = (reply, after) →
      part.promise call now after ∧ (part.owns call = false → part.same now after) ∧ part.valid after ∧
        post reply after) : (part.discipline config).Step call thread operation post now := by
  intro answer reply after permitted answered
  obtain ⟨promised, same, valid, reached⟩ := effect answer reply after permitted (nodePlugin_exec answered).2
  exact ⟨⟨promised, same⟩, valid, reached⟩

/-- A step of a call that owns the part. -/
theorem owner_step (owned : part.owns call = true)
    (effect : ∀ answer reply after, part.condition call thread operation answer now = true →
      operation.exec thread answer now = (reply, after) →
      part.promise call now after ∧ part.valid after ∧ post reply after) :
    (part.discipline config).Step call thread operation post now := by
  apply step_intro
  intro answer reply after permitted executed
  obtain ⟨promised, valid, reached⟩ := effect answer reply after permitted executed
  refine ⟨promised, fun other => ?_, valid, reached⟩
  cases owned.symm.trans other

theorem spares_step (spares : part.spares operation) (valid : part.valid now)
    (reaches : ∀ answer reply after, part.condition call thread operation answer now = true →
      operation.exec thread answer now = (reply, after) → part.same now after → post reply after) :
    (part.discipline config).Step call thread operation post now := by
  apply step_intro
  intro answer reply after permitted executed
  have same := spares thread answer now after reply executed
  exact ⟨part.promised same, fun _ => same, part.valid_same same valid, reaches answer reply after permitted executed same⟩

end

theorem spares_safe
    (stays : ∀ before after, (part.discipline config).rely call thread before after → known before → known after)
    (within : program.Within Op.lawful allowed) (spares : ∀ operation, allowed operation → part.spares operation)
    (initial : known state) : (part.discipline config).Safe call thread (fun _ state => known state) program state := by
  refine .ofWithin known within nodePlugin_lawful ?_ (fun _ _ kept => kept) initial
  intro operation issued state kept now relied valid
  apply spares_step (spares operation issued) valid
  intro answer reply after permitted executed same
  exact stays now after (fun _ => same) (stays state now relied kept)

section
variable (owned : part.owns call = true) (stays : ∀ before after, part.same before after → known before → known after)
include owned stays

theorem keeps (within : program.Within Op.lawful allowed)
    (spares : ∀ operation, allowed operation → part.spares operation) (initial : known state) :
    (part.discipline config).Safe call thread (fun _ state => known state) program state :=
  spares_safe (fun before after relied => stays before after (relied owned)) within spares initial

theorem looks (within : program.Within Op.lawful Op.reads) (initial : known state) :
    (part.discipline config).Safe call thread (fun _ state => known state) program state :=
  keeps owned stays within (fun _ => reads_spares) initial

theorem metadata_learns {target : VolumeId} {fact : Meta → Node → Prop}
    (learns : ∀ data answer now, known now → part.valid now → now.files.metadata target = some data →
      part.condition call thread (.file (.readMeta target)) answer now = true → fact data now) (initial : known state) :
    (part.discipline config).Safe call thread (fun outcome state => known state ∧
      ∀ data, outcome = .ok data → fact data state) (metadata target) state := by
  apply Discipline.Safe.perform
  intro now relied valid
  apply spares_step (@reads_spares _ (.file (.readMeta target)) trivial) valid
  intro answer reply after permitted executed same
  have unchanged : after = now := @Op.reads.unchanged (.file (.readMeta target)) trivial _ _ _ _ _ executed
  subst unchanged
  have knows := stays state after (relied owned) initial
  refine ⟨knows, fun data returned => ?_⟩
  exact learns data answer after knows valid ((readMeta_exec (Op.exec_file executed)).2.1 data returned) permitted

variable {target : VolumeId} {data : Meta} (recorded : ∀ node, known node → node.files.metadata target = some data)
include recorded

theorem metadata_reads (initial : known state) :
    (part.discipline config).Safe call thread (fun outcome state => known state ∧ part.valid state ∧
      (outcome = .ok data ∨ ∃ error answer, outcome = .error error ∧ error ≠ .fileNotFound ∧ answer.fails = true ∧
        part.condition call thread (.file (.readMeta target)) answer state = true)) (metadata target) state := by
  apply Discipline.Safe.perform
  intro now relied valid
  apply spares_step (@reads_spares _ (.file (.readMeta target)) trivial) valid
  intro answer reply after permitted executed same
  have unchanged : after = now := @Op.reads.unchanged (.file (.readMeta target)) trivial _ _ _ _ _ executed
  subst unchanged
  have knows := stays state after (relied owned) initial
  rcases readMeta_found (Op.exec_file executed) (recorded after knows) with read | ⟨fails, error, failed, found⟩
  · exact ⟨knows, valid, .inl read⟩
  · exact ⟨knows, valid, .inr ⟨error, answer, failed, found, fails, permitted⟩⟩

theorem metadataOr_reads (initial : known state) :
    (part.discipline config).Safe call thread (fun outcome state => known state ∧ part.valid state ∧
      (outcome = .ok data ∨ ∃ error answer, outcome = .error error ∧ answer.fails = true ∧
        part.condition call thread (.file (.readMeta target)) answer state = true)) (metadataOr target) state := by
  refine .tryExcept ((metadata_reads owned stays recorded initial).weaken ?_)
  intro outcome state read
  obtain ⟨knows, valid, rfl | ⟨error, answer, rfl, found, fails, permitted⟩⟩ := read
  · exact ⟨knows, valid, .inl rfl⟩
  · dsimp only
    split
    · exact absurd rfl found
    · exact ⟨knows, valid, .inr ⟨_, answer, rfl, fails, permitted⟩⟩

end

theorem withVolLock_keeps {target : VolumeId} {body : Driver α} {leaves : Node → Prop}
    (owned : part.owns call = true) (locking : ∀ lock, part.spares (.lock lock))
    (stays : ∀ before after, part.same before after → known before → known after)
    (settled : ∀ before after, part.same before after → leaves before → leaves after)
    (settles : ∀ node, known node → leaves node)
    (inside : ∀ state, known state →
      (part.discipline config).Safe call thread (fun _ state => leaves state) body state) (initial : known state) :
    (part.discipline config).Safe call thread (fun _ state => leaves state) (withVolLock target body) state := by
  have locks : ∀ operation : Op, (∃ lock, operation = .lock lock) → part.spares operation := by
    rintro operation ⟨lock, rfl⟩
    exact locking lock
  refine .andThen (keeps owned stays (.perform ⟨_, rfl⟩) locks initial) (fun _ state knows => ?_)
    fun _ state knows => settles state knows
  refine .tryFinally ((inside state knows).weaken fun outcome state ended => ?_)
  refine (keeps owned settled (.perform ⟨_, rfl⟩) locks ended).weaken ?_
  intro last state ended
  cases last <;> exact ended

/-- Runs are covered as soon as every call that may begin is safe, owners begin
one at a time, a crash happens while it is quiet and the outside leaves the part alone. -/
theorem covers {allowed : NodeConfig → NodeEvent → Prop}
    (steps : ∀ now event, allowed now event → now.onStep part.condition event = true)
    (alone : ∀ now call, allowed now (.enter call) → part.owns call = true →
      now.only (fun other => !part.owns other) = true)
    (safe : ∀ now call thread state, allowed now (.enter call) → (part.owns call = true → part.quiet state) →
      (part.discipline config).Safe call thread ((part.discipline config).ends call) (call.program config) state)
    (crashing : ∀ now, allowed now .crash → part.quiet now.state)
    (drifting : ∀ now change, allowed now (.drift change) → part.same now.state (change.apply now.state)) :
    (part.discipline config).Covers allowed where
  steps found permitted := (Config.onStep_found found).symm.trans (steps _ _ permitted)
  enters {now call state program} permitted valid quiet entered := by
    obtain ⟨accepted, rfl⟩ := nodePlugin_enter entered
    have unchanged : part.same now.state state := part.same_files (Call.accept_unchanged accepted).1
    refine ⟨part.valid_same unchanged valid, fun _ _ _ => unchanged, fun _ _ => trivial, fun _ => ?_, ?_,
      part.quiet_same unchanged⟩
    · exact safe now call _ _ permitted fun owned => part.quiet_same unchanged (quiet (alone now call permitted owned))
    · intro other member unfinished
      have apart : ¬ (part.owns call = true ∧ part.owns other.call = true) := by
        rintro ⟨owned, both⟩
        have idle := List.all_eq_true.mp (alone now call permitted owned) other member
        simp [unfinished, both] at idle
      exact ⟨apart, fun both => apart both.symm⟩
  crashes {now} permitted valid :=
    have unchanged := @part.same_files now.state now.state.crash rfl
    ⟨part.valid_same unchanged valid, fun _ => trivial, part.quiet_same unchanged (crashing now permitted)⟩
  drifts {now change} permitted valid :=
    have unchanged := drifting now change permitted
    ⟨part.valid_same unchanged valid, fun _ _ _ => unchanged, fun _ _ => trivial, part.quiet_same unchanged⟩

theorem holds_idle {node : Node} (valid : part.valid node) (quiet : part.quiet node) :
    (part.discipline config).Holds ⟨node, []⟩ :=
  ⟨valid, by simp, by simp, fun _ _ => trivial, fun _ => quiet⟩

/-- An event leaves the part alone, or is the step of a call that keeps its promise. -/
theorem promised_next {allowed : NodeConfig → NodeEvent → Prop} {event : NodeEvent} {before after : NodeConfig}
    (covers : (part.discipline config).Covers allowed)
    (unmoved : ∀ change, event = .drift change → part.same before.state (change.apply before.state))
    (holds : (part.discipline config).Holds before) (permitted : allowed before event)
    (moved : (nodePlugin config).next event before = some after) :
    part.same before.state after.state ∨
      ∃ thread ∈ before.threads, part.promise thread.call before.state after.state := by
  cases (nodePlugin config).next_moves moved with
  | enter entered =>
    exact .inl (part.same_files (Call.accept_unchanged (nodePlugin_enter entered).1).1)
  | step found answered =>
    exact .inr ⟨_, List.mem_of_getElem? found, (holds.step found (covers.steps found permitted) answered).1.1⟩
  | crash => exact .inl (@part.same_files before.state before.state.crash rfl)
  | drift change => exact .inl (unmoved change rfl)

end Owned
end Rawfile
