import Mathlib.Logic.Relation
import Rawfile.Effects.Program

/-! Threads of programs over one shared state. The environment chooses which
thread moves, how its request is answered, when calls arrive, when the whole
process dies and how the world outside the process changes the state. A request
that cannot be answered yet blocks its thread. -/

namespace Effects

theorem forall_mem_snoc {α : Type} {holds : α → Prop} {items : List α} {last : α} (each : ∀ item ∈ items, holds item)
    (new : holds last) : ∀ item ∈ items ++ [last], holds item :=
  List.forall_mem_append.mpr ⟨each, List.forall_mem_singleton.mpr new⟩

theorem forall_mem_set {α : Type} {holds : α → Prop} {items : List α} {index : Nat} {new : α}
    (each : ∀ item ∈ items, holds item) (last : holds new) : ∀ item ∈ items.set index new, holds item := by
  intro item member
  rcases List.mem_or_eq_of_mem_set member with old | rfl
  · exact each item old
  · exact last

variable {ω : Type} {ρ : ω → Type} {ε ι σ κ δ : Type}

structure Thread (ω : Type) (ρ : ω → Type) (ε κ : Type) where
  call : κ
  program : Program ω ρ ε Unit

structure Config (ω : Type) (ρ : ω → Type) (ε σ κ : Type) where
  state : σ
  threads : List (Thread ω ρ ε κ)

inductive Event (ι κ δ : Type) where
  | enter (call : κ)
  | step (thread : Nat) (answer : ι)
  | crash
  | drift (change : δ)

def Config.onStep (condition : κ → Nat → (operation : ω) → ι → σ → Bool) (config : Config ω ρ ε σ κ) :
    Event ι κ δ → Bool
  | .step thread answer =>
    match config.threads[thread]? with
    | some ⟨call, .request operation _⟩ => condition call thread operation answer config.state
    | _ => true
  | _ => true

/-- The condition a run puts on the calls that begin. -/
def Event.begins (wanted : κ → Bool) : Event ι κ δ → Bool
  | .enter call => wanted call
  | _ => true

def Event.inner : Event ι κ δ → Bool
  | .step _ _ | .drift _ => true
  | _ => false

def Event.running : Event ι κ δ → Bool
  | .crash => false
  | _ => true

def Config.awaits (thread : Nat) (config : Config ω ρ ε σ κ) : Bool :=
  config.threads[thread]?.any fun entry => !entry.program.finished

theorem Config.onStep_found {condition : κ → Nat → (operation : ω) → ι → σ → Bool} {config : Config ω ρ ε σ κ}
    {thread : Nat} {answer : ι} {call : κ} {operation : ω} {next : Except ε (ρ operation) → Program ω ρ ε Unit}
    (found : config.threads[thread]? = some ⟨call, .request operation next⟩) :
    config.onStep condition (Event.step thread answer : Event ι κ δ) =
      condition call thread operation answer config.state := by
  simp only [onStep, found]

/-- Every thread that still has something to do is working on a wanted call. -/
def Config.only (wanted : κ → Bool) (config : Config ω ρ ε σ κ) : Bool :=
  config.threads.all (fun thread => thread.program.finished || wanted thread.call)

theorem Config.only_found {wanted : κ → Bool} {config : Config ω ρ ε σ κ} (only : config.only wanted = true)
    {thread : Nat} {call : κ} {operation : ω} {next : Except ε (ρ operation) → Program ω ρ ε Unit}
    (found : config.threads[thread]? = some ⟨call, .request operation next⟩) : wanted call = true :=
  List.all_eq_true.mp only _ (List.mem_of_getElem? found)

def Config.unnoted {γ : Type} (config : Config ω ρ ε (σ × γ) κ) : Config ω ρ ε σ κ := ⟨config.state.1, config.threads⟩

structure Machine (ω : Type) (ρ : ω → Type) (ε ι σ κ δ : Type) where
  exec : Nat → (operation : ω) → ι → σ → Option (Except ε (ρ operation) × σ)
  enter : κ → σ → Option (σ × Program ω ρ ε Unit)
  crash : σ → σ
  drift : δ → σ → σ

namespace Machine

variable (machine : Machine ω ρ ε ι σ κ δ)

def next : Event ι κ δ → Config ω ρ ε σ κ → Option (Config ω ρ ε σ κ)
  | .enter call, config =>
    (machine.enter call config.state).map fun (state, program) =>
      ⟨state, config.threads ++ [⟨call, program⟩]⟩
  | .step thread answer, config =>
    match config.threads[thread]? with
    | some ⟨call, .request operation next⟩ =>
      (machine.exec thread operation answer config.state).map fun (reply, state) =>
        ⟨state, config.threads.set thread ⟨call, next reply⟩⟩
    | _ => none
  | .crash, config => some ⟨machine.crash config.state, []⟩
  | .drift change, config => some ⟨machine.drift change config.state, config.threads⟩

def run : List (Event ι κ δ) → Config ω ρ ε σ κ → Option (Config ω ρ ε σ κ)
  | [], config => some config
  | event :: events, config => (machine.next event config).bind (run events)

/-- Run the events as long as each meets the condition. -/
def runIf (check : Config ω ρ ε σ κ → Event ι κ δ → Bool) :
    List (Event ι κ δ) → Config ω ρ ε σ κ → Option (Config ω ρ ε σ κ)
  | [], config => some config
  | event :: events, config =>
    if check config event then (machine.next event config).bind (runIf check events) else none

/-- What an event does, by the kind of the event. -/
inductive Moves (before : Config ω ρ ε σ κ) : Event ι κ δ → Config ω ρ ε σ κ → Prop
  | enter {call : κ} {state : σ} {program : Program ω ρ ε Unit}
      (entered : machine.enter call before.state = some (state, program)) :
      Moves before (.enter call) ⟨state, before.threads ++ [⟨call, program⟩]⟩
  | step {thread : Nat} {answer : ι} {call : κ} {operation : ω} {next : Except ε (ρ operation) → Program ω ρ ε Unit}
      {reply : Except ε (ρ operation)} {state : σ}
      (found : before.threads[thread]? = some ⟨call, .request operation next⟩)
      (answered : machine.exec thread operation answer before.state = some (reply, state)) :
      Moves before (.step thread answer) ⟨state, before.threads.set thread ⟨call, next reply⟩⟩
  | crash : Moves before .crash ⟨machine.crash before.state, []⟩
  | drift (change : δ) : Moves before (.drift change) ⟨machine.drift change before.state, before.threads⟩

theorem next_moves {event : Event ι κ δ} {before after : Config ω ρ ε σ κ}
    (moved : machine.next event before = some after) : machine.Moves before event after := by
  cases event with
  | enter call =>
    simp only [next, Option.map_eq_some_iff, Prod.exists] at moved
    obtain ⟨state, program, entered, rfl⟩ := moved
    exact .enter entered
  | step thread answer =>
    simp only [next] at moved
    split at moved
    next call operation rest found =>
      simp only [Option.map_eq_some_iff, Prod.exists] at moved
      obtain ⟨reply, state, answered, rfl⟩ := moved
      exact .step found answered
    next => cases moved
  | crash => cases moved; exact .crash
  | drift change => cases moved; exact .drift change

def Steps (allowed : Config ω ρ ε σ κ → Event ι κ δ → Prop) (before after : Config ω ρ ε σ κ) : Prop :=
  ∃ event, allowed before event ∧ machine.next event before = some after

def Reaches (allowed : Config ω ρ ε σ κ → Event ι κ δ → Prop) : Config ω ρ ε σ κ → Config ω ρ ε σ κ → Prop :=
  Relation.ReflTransGen (machine.Steps allowed)

variable {machine}

theorem Reaches.invariant {allowed : Config ω ρ ε σ κ → Event ι κ δ → Prop}
    {first last : Config ω ρ ε σ κ} (reaches : machine.Reaches allowed first last) (invariant : Config ω ρ ε σ κ → Prop)
    (keeps : ∀ before event after, allowed before event → machine.next event before = some after →
      invariant before → invariant after) (initial : invariant first) : invariant last := by
  induction reaches with
  | refl => exact initial
  | tail _ step ih =>
    obtain ⟨event, permitted, moved⟩ := step
    exact keeps _ event _ permitted moved ih

theorem Reaches.mono {allowed wider : Config ω ρ ε σ κ → Event ι κ δ → Prop}
    {first last : Config ω ρ ε σ κ} (reaches : machine.Reaches allowed first last)
    (implies : ∀ config event, allowed config event → wider config event) : machine.Reaches wider first last := by
  refine Relation.ReflTransGen.mono ?_ _ _ reaches
  rintro before after ⟨event, permitted, moved⟩
  exact ⟨event, implies _ _ permitted, moved⟩

section
variable {check : Config ω ρ ε σ κ → Event ι κ δ → Bool} {events : List (Event ι κ δ)} {first last : Config ω ρ ε σ κ}
  (ran : machine.runIf check events first = some last)
include ran

theorem runIf_reaches : machine.Reaches (fun config event => check config event = true) first last := by
  induction events generalizing first with
  | nil => cases ran; exact .refl
  | cons event events ih =>
    simp only [runIf] at ran
    split at ran
    next permitted =>
      obtain ⟨middle, moved, rest⟩ := Option.bind_eq_some_iff.mp ran
      exact .head ⟨event, permitted, moved⟩ (ih rest)
    next => cases ran

theorem runIf_run : machine.run events first = some last := by
  induction events generalizing first with
  | nil => exact ran
  | cons event events ih =>
    simp only [runIf] at ran
    split at ran
    next =>
      obtain ⟨middle, moved, rest⟩ := Option.bind_eq_some_iff.mp ran
      simp only [run, moved, Option.bind_some, ih rest]
    next => cases ran

end

theorem only_next {wanted : κ → Bool} {event : Event ι κ δ} {before after : Config ω ρ ε σ κ}
    (only : before.only wanted = true) (entering : event.begins wanted = true)
    (moved : machine.next event before = some after) : after.only wanted = true := by
  cases machine.next_moves moved with
  | @enter call =>
    simp only [Config.only, List.all_append, Bool.and_eq_true]
    exact ⟨only, by simp [show wanted call = true from entering]⟩
  | step found =>
    refine List.all_eq_true.mpr fun other member => ?_
    rcases List.mem_or_eq_of_mem_set member with member | rfl
    · exact List.all_eq_true.mp only other member
    · simp [Config.only_found only found]
  | crash => rfl
  | drift => exact only

def Drifts (machine : Machine ω ρ ε ι σ κ δ) : σ → σ → Prop :=
  Relation.ReflTransGen fun before after => ∃ change, after = machine.drift change before

theorem Drifts.fixed {before after : σ} (drifts : machine.Drifts before after)
    (still : ∀ change, machine.drift change before = before) : after = before := by
  induction drifts with
  | refl => rfl
  | tail _ drift ih =>
    obtain ⟨change, rfl⟩ := drift
    rw [ih]
    exact still change

/-- A thread that is alone either still waits with its request, or the request
was answered and it went on. -/
theorem Reaches.alone {call : κ} {operation : ω} {next : Except ε (ρ operation) → Program ω ρ ε Unit} {state : σ}
    {last : Config ω ρ ε σ κ}
    (reaches : machine.Reaches (fun _ event => event.inner = true) ⟨state, [⟨call, .request operation next⟩]⟩ last) :
    (∃ drifted, machine.Drifts state drifted ∧ last = ⟨drifted, [⟨call, .request operation next⟩]⟩) ∨
    ∃ drifted answer reply after, machine.Drifts state drifted ∧
      machine.exec 0 operation answer drifted = some (reply, after) ∧
      machine.Reaches (fun _ event => event.inner = true) ⟨after, [⟨call, next reply⟩]⟩ last := by
  induction reaches with
  | refl => exact .inl ⟨state, .refl, rfl⟩
  | tail _ step ih =>
    obtain ⟨event, inner, moved⟩ := step
    rcases ih with ⟨drifted, drifts, rfl⟩ | ⟨drifted, answer, reply, after, drifts, answered, reaches⟩
    · cases machine.next_moves moved with
      | enter | crash => cases inner
      | @step thread answer _ _ _ reply after found answered =>
        cases thread with
        | zero => cases found; exact .inr ⟨drifted, answer, reply, after, drifts, answered, .refl⟩
        | succ => cases found
      | drift change => exact .inl ⟨_, drifts.tail ⟨change, rfl⟩, rfl⟩
    · exact .inr ⟨drifted, answer, reply, after, drifts, answered, reaches.tail ⟨event, inner, moved⟩⟩

theorem Reaches.alone_ended {call : κ} {program : Program ω ρ ε Unit} (ended : program.finished = true) {state : σ}
    {last : Config ω ρ ε σ κ}
    (reaches : machine.Reaches (fun _ event => event.inner = true) ⟨state, [⟨call, program⟩]⟩ last) :
    ∃ drifted, machine.Drifts state drifted ∧ last = ⟨drifted, [⟨call, program⟩]⟩ := by
  induction reaches with
  | refl => exact ⟨state, .refl, rfl⟩
  | tail _ step ih =>
    obtain ⟨event, inner, moved⟩ := step
    obtain ⟨drifted, drifts, rfl⟩ := ih
    cases machine.next_moves moved with
    | enter | crash => cases inner
    | @step thread _ _ _ _ _ _ found =>
      cases thread with
      | zero => cases found; cases ended
      | succ => cases found
    | drift change => exact ⟨_, drifts.tail ⟨change, rfl⟩, rfl⟩

theorem tested {check : Config ω ρ ε σ κ → Event ι κ δ → Bool} {test : Config ω ρ ε σ κ → Bool}
    {events : List (Event ι κ δ)} {initial : Config ω ρ ε σ κ}
    (ran : (machine.runIf check events initial).any test = true) :
    ∃ last, machine.Reaches (fun config event => check config event = true) initial last ∧ test last = true := by
  cases result : machine.runIf check events initial with
  | none => rw [result] at ran; cases ran
  | some last =>
    rw [result] at ran
    exact ⟨last, runIf_reaches result, ran⟩

/-- The machine with an observer that takes notes of the answers. -/
def noting {γ : Type} (machine : Machine ω ρ ε ι σ κ δ)
    (note : Nat → (operation : ω) → Except ε (ρ operation) → γ → γ) : Machine ω ρ ε ι (σ × γ) κ δ where
  exec thread operation answer now := (machine.exec thread operation answer now.1).map fun (reply, state) =>
    (reply, state, note thread operation reply now.2)
  enter call now := (machine.enter call now.1).map fun (state, program) => ((state, now.2), program)
  crash now := (machine.crash now.1, now.2)
  drift change now := (machine.drift change now.1, now.2)

theorem noting_next {γ : Type} {note : Nat → (operation : ω) → Except ε (ρ operation) → γ → γ} {event : Event ι κ δ}
    {before after : Config ω ρ ε (σ × γ) κ} (moved : (machine.noting note).next event before = some after) :
    machine.next event before.unnoted = some after.unnoted ∧ (after.state.2 = before.state.2 ∨
      ∃ thread answer call operation next reply, event = .step thread answer ∧
        before.threads[thread]? = some ⟨call, .request operation next⟩ ∧
        machine.exec thread operation answer before.state.1 = some (reply, after.state.1) ∧
        after.state.2 = note thread operation reply before.state.2) := by
  cases next_moves _ moved with
  | enter entered =>
    obtain ⟨⟨state, program⟩, accepted, same⟩ := Option.map_eq_some_iff.mp entered
    cases same
    refine ⟨?_, .inl rfl⟩
    simp [Machine.next, Config.unnoted, accepted]
  | @step thread answer call operation next reply state found answered =>
    obtain ⟨⟨reply, state⟩, executed, same⟩ := Option.map_eq_some_iff.mp answered
    cases same
    refine ⟨?_, .inr ⟨thread, answer, call, operation, next, reply, rfl, found, executed, rfl⟩⟩
    simp [Machine.next, Config.unnoted, found, executed]
  | crash => exact ⟨rfl, .inl rfl⟩
  | drift => exact ⟨rfl, .inl rfl⟩

theorem two_parts {first second : Config ω ρ ε σ κ → Event ι κ δ → Bool} {test final : Config ω ρ ε σ κ → Bool}
    {events later : List (Event ι κ δ)} {initial : Config ω ρ ε σ κ}
    (ran : ((machine.runIf first events initial).any fun middle =>
      test middle && (machine.runIf second later middle).any final) = true) :
    ∃ middle last, machine.Reaches (fun config event => first config event = true) initial middle ∧
      test middle = true ∧ machine.Reaches (fun config event => second config event = true) middle last ∧
      final last = true := by
  obtain ⟨middle, reached, passed⟩ := tested ran
  obtain ⟨passed, rest⟩ := Bool.and_eq_true_iff.mp passed
  obtain ⟨last, later, ended⟩ := tested rest
  exact ⟨middle, last, reached, passed, later, ended⟩

theorem last_step {check : Config ω ρ ε σ κ → Event ι κ δ → Bool}
    {test : Config ω ρ ε σ κ → Config ω ρ ε σ κ → Bool} {events : List (Event ι κ δ)} {event : Event ι κ δ}
    {initial : Config ω ρ ε σ κ}
    (ran : ((machine.runIf check events initial).bind fun before => (machine.next event before).bind fun after =>
      if check before event && test before after then some after else none).isSome = true) :
    ∃ before after, machine.Reaches (fun config event => check config event = true) initial before ∧
      test before after = true ∧ machine.Steps (fun config event => check config event = true) before after := by
  obtain ⟨last, ran⟩ := Option.isSome_iff_exists.mp ran
  obtain ⟨before, ran, moved⟩ := Option.bind_eq_some_iff.mp ran
  obtain ⟨after, moved, tested⟩ := Option.bind_eq_some_iff.mp moved
  split at tested
  next passed =>
    obtain ⟨checked, tested⟩ := Bool.and_eq_true_iff.mp passed
    exact ⟨before, after, runIf_reaches ran, tested, event, checked, moved⟩
  next => cases tested

end Machine
end Effects
