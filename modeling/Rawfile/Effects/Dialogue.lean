import Mathlib.Logic.Function.Basic
import Rawfile.Effects.Sequential

/-! What a program asks for and what it is told, with no environment behind the
replies: any reply may be given, and the state is what was said so far. A
program finishes in some way, where `World.Ends` speaks about all ways. -/

namespace Effects

variable {ω : Type} {ρ : ω → Type} {ε ι σ α β : Type}

abbrev Exchange (ω : Type) (ρ : ω → Type) (ε : Type) := (operation : ω) × Except ε (ρ operation)

def dialogue [Nonempty ε] : World ω ρ ε ((operation : ω) → Except ε (ρ operation)) (List (Exchange ω ρ ε)) where
  exec operation answer said := (answer operation, said ++ [⟨operation, answer operation⟩])
  may _ _ _ := True
  answers _ _ := ⟨fun _ => .error (Classical.arbitrary ε), trivial⟩

namespace World

/-- Some answers bring the program to this end. -/
inductive Finishes (world : World ω ρ ε ι σ) : Program ω ρ ε α → σ → Except ε α → σ → Prop
  | done (value : α) (state : σ) : Finishes world (.done value) state (.ok value) state
  | raise (error : ε) (state : σ) : Finishes world (.raise error) state (.error error) state
  | step {operation next state answer outcome last} (may : world.may operation answer state)
      (rest : Finishes world (next (world.exec operation answer state).1) (world.exec operation answer state).2
        outcome last) : Finishes world (.request operation next) state outcome last

variable {world : World ω ρ ε ι σ}

variable {program : Program ω ρ ε α} {next : α → Program ω ρ ε β} {state last : σ}

namespace Finishes

theorem ofExcept (outcome : Except ε α) (state : σ) : world.Finishes (Program.ofExcept outcome) state outcome state := by
  cases outcome with
  | ok value => exact .done value state
  | error error => exact .raise error state

theorem perform {operation : ω} {answer : ι} {state : σ} (may : world.may operation answer state) :
    world.Finishes (Program.perform operation) state (world.exec operation answer state).1
      (world.exec operation answer state).2 :=
  .step may (.ofExcept _ _)

theorem bind {state middle last : σ} {value : α} {outcome : Except ε β}
    (first : world.Finishes program state (.ok value) middle) (rest : world.Finishes (next value) middle outcome last) :
    world.Finishes (program >>= next) state outcome last := by
  induction program generalizing state with
  | done value => cases first; exact rest
  | raise error => cases first
  | request operation _ ih =>
    cases first with
    | step may first => exact .step may (ih _ first)

theorem attempt {outcome : Except ε α} (finishes : world.Finishes program state outcome last) :
    world.Finishes program.attempt state (.ok outcome) last := by
  induction finishes with
  | done value state => exact .done _ state
  | raise error state => exact .done _ state
  | step may _ ih => exact .step may ih

theorem tryExcept {handler : ε → Program ω ρ ε α} {value : α}
    (finishes : world.Finishes program state (.ok value) last) :
    world.Finishes (program.tryExcept handler) state (.ok value) last :=
  finishes.attempt.bind (.done value last)

end Finishes

/-- The outcome under these answers, as long as all of them may be given. -/
def finish (world : World ω ρ ε ι σ) [∀ operation answer state, Decidable (world.may operation answer state)] :
    List ι → Program ω ρ ε α → σ → Option (Except ε α)
  | _, .done value, _ => some (.ok value)
  | _, .raise error, _ => some (.error error)
  | answer :: rest, .request operation next, state =>
    if world.may operation answer state then
      finish world rest (next (world.exec operation answer state).1) (world.exec operation answer state).2
    else none
  | [], .request _ _, _ => none

theorem finish_finishes [∀ operation answer state, Decidable (world.may operation answer state)] {answers : List ι}
    {outcome : Except ε α} (finished : world.finish answers program state = some outcome) :
    ∃ last, world.Finishes program state outcome last := by
  fun_induction finish world answers program state with
  | case1 => cases finished; exact ⟨_, .done _ _⟩
  | case2 => cases finished; exact ⟨_, .raise _ _⟩
  | case3 answer rest operation next state may ih =>
    obtain ⟨last, finishes⟩ := ih finished
    exact ⟨last, .step may finishes⟩
  | case4 => cases finished
  | case5 => cases finished

theorem Surely.finishes {through : σ → Prop} {post : Except ε α → σ → Prop} {outcome : Except ε α}
    (surely : world.Surely through post program state) (finishes : world.Finishes program state outcome last) :
    post outcome last := by
  induction finishes with
  | done => exact surely.2
  | raise => exact surely.2
  | step may _ ih => exact ih (surely.2 _ may)

namespace Passes

theorem bind {state middle last : σ} {value : α} (first : world.Finishes program state (.ok value) middle)
    (rest : world.Passes (next value) middle last) : world.Passes (program >>= next) state last := by
  induction program generalizing state with
  | done value => cases first; exact rest
  | raise error => cases first
  | request operation _ ih =>
    cases first with
    | step may first => exact .step may (ih _ first)

section
variable (passes : world.Passes program state last)
include passes

theorem inside : world.Passes (program >>= next) state last := by
  induction passes with
  | here => exact .here _ _
  | step may _ ih => exact .step may ih

theorem attempt : world.Passes program.attempt state last := by
  induction passes with
  | here => exact .here _ _
  | step may _ ih => exact .step may ih

theorem tryFinally {cleanup : Program ω ρ ε Unit} : world.Passes (program.tryFinally cleanup) state last :=
  passes.attempt.inside

end

end Passes
end World

section
variable [Nonempty ε] {operation : ω} {said : List (Exchange ω ρ ε)}

theorem dialogue_perform (reply : Except ε (ρ operation)) :
    dialogue.Finishes (Program.perform operation) said reply (said ++ [⟨operation, reply⟩]) := by
  classical
  obtain ⟨answer, rfl⟩ : ∃ answer : (operation : ω) → Except ε (ρ operation), answer operation = reply :=
    ⟨Function.update (fun _ => .error (Classical.arbitrary ε)) operation reply, Function.update_self ..⟩
  exact .perform trivial

theorem dialogue_request {next : Except ε (ρ operation) → Program ω ρ ε α} (reply : Except ε (ρ operation))
    {last : List (Exchange ω ρ ε)} (rest : dialogue.Passes (next reply) (said ++ [⟨operation, reply⟩]) last) :
    dialogue.Passes (.request operation next) said last := by
  classical
  obtain ⟨answer, rfl⟩ : ∃ answer : (operation : ω) → Except ε (ρ operation), answer operation = reply :=
    ⟨Function.update (fun _ => .error (Classical.arbitrary ε)) operation reply, Function.update_self ..⟩
  exact .step trivial rest

end

end Effects
