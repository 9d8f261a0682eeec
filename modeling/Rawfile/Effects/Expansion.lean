import Rawfile.Effects.Discipline

/-! Finer programs. Every request is replaced by a program of finer requests
that answers it, so what was one step can be interleaved with others. -/

namespace Effects

variable {ω ω' : Type} {ρ : ω → Type} {ρ' : ω' → Type} {ε ι σ κ δ α β : Type}

namespace Program

def expand (steps : (operation : ω) → Program ω' ρ' ε (ρ operation)) : Program ω ρ ε α → Program ω' ρ' ε α
  | .done value => .done value
  | .raise error => .raise error
  | .request operation next => (steps operation).attempt >>= fun outcome => (next outcome).expand steps

variable {steps : (operation : ω) → Program ω' ρ' ε (ρ operation)}

theorem expand_bind (program : Program ω ρ ε α) (next : α → Program ω ρ ε β) :
    (program >>= next).expand steps = program.expand steps >>= fun value => (next value).expand steps := by
  induction program with
  | done value => rfl
  | raise error => rfl
  | request operation rest ih =>
    show ((steps operation).attempt >>= fun outcome => (rest outcome >>= next).expand steps) = _
    simp only [ih]
    exact (Program.bind_assoc _ _ _).symm

theorem attempt_bind (program : Program ω ρ ε α) (next : Except ε α → Program ω ρ ε β) :
    (program.attempt >>= next).attempt = program.attempt >>= fun outcome => (next outcome).attempt := by
  induction program with
  | done value => rfl
  | raise error => rfl
  | request operation rest ih => exact congrArg (Program.request operation) (funext ih)

theorem expand_attempt (program : Program ω ρ ε α) : program.attempt.expand steps = (program.expand steps).attempt := by
  induction program with
  | done value => rfl
  | raise error => rfl
  | request operation rest ih =>
    show ((steps operation).attempt >>= fun outcome => (rest outcome).attempt.expand steps) = _
    simp only [ih]
    exact (attempt_bind _ _).symm

end Program

namespace Discipline

variable {machine : Machine ω' ρ' ε ι σ κ δ} (discipline : Discipline machine)
  (steps : (operation : ω) → Program ω' ρ' ε (ρ operation))

/-- Safe in its finer steps. -/
abbrev Finely (call : κ) (thread : Nat) (post : Except ε α → σ → Prop) (program : Program ω ρ ε α) (state : σ) : Prop :=
  discipline.Safe call thread post (program.expand steps) state

variable {discipline steps} {call : κ} {thread : Nat} {program : Program ω ρ ε α} {state : σ}

namespace Finely

theorem bind {next : α → Program ω ρ ε β} {post : Except ε β → σ → Prop}
    (first : discipline.Finely steps call thread (fun outcome state =>
      match outcome with
      | .ok value => discipline.Finely steps call thread post (next value) state
      | .error error => post (.error error) state) program state) :
    discipline.Finely steps call thread post (program >>= next) state := by
  unfold Finely
  rw [Program.expand_bind]
  exact .bind first

theorem andThen {next : α → Program ω ρ ε β} {post : Except ε β → σ → Prop} {keep : σ → Prop}
    (first : discipline.Finely steps call thread (fun _ state => keep state) program state)
    (rest : ∀ value state, keep state → discipline.Finely steps call thread post (next value) state)
    (failing : ∀ error state, keep state → post (.error error) state) :
    discipline.Finely steps call thread post (program >>= next) state := by
  refine bind (Safe.weaken first fun outcome state kept => ?_)
  cases outcome with
  | ok value => exact rest value state kept
  | error error => exact failing error state kept

theorem perform {operation : ω} {post : Except ε (ρ operation) → σ → Prop} {state : σ}
    (safe : discipline.Safe call thread post (steps operation) state) :
    discipline.Finely steps call thread post (Program.perform operation) state := by
  refine Safe.bind (Safe.attempt (Safe.weaken safe fun outcome state reached => ?_))
  cases outcome <;> exact reached

theorem tryExcept {handler : ε → Program ω ρ ε α} {post : Except ε α → σ → Prop}
    (body : discipline.Finely steps call thread (fun outcome state =>
      match outcome with
      | .ok value => post (.ok value) state
      | .error error => discipline.Finely steps call thread post (handler error) state) program state) :
    discipline.Finely steps call thread post (program.tryExcept handler) state := by
  refine bind ?_
  unfold Finely
  rw [Program.expand_attempt]
  refine Safe.attempt (Safe.weaken body fun outcome state reached => ?_)
  cases outcome <;> exact reached

theorem tryFinally {cleanup : Program ω ρ ε Unit} {keep : σ → Prop} {post : Except ε α → σ → Prop}
    (body : discipline.Finely steps call thread (fun _ state => keep state) program state)
    (last : ∀ state, keep state → discipline.Finely steps call thread (fun _ state => ∀ outcome, post outcome state)
      cleanup state) :
    discipline.Finely steps call thread post (program.tryFinally cleanup) state := by
  refine bind ?_
  unfold Finely
  rw [Program.expand_attempt]
  refine Safe.attempt (Safe.weaken body fun outcome state kept => ?_)
  refine bind (Safe.weaken (last state kept) fun cleaned state reached => ?_)
  cases cleaned with
  | ok value => cases outcome <;> exact reached _
  | error error => exact reached _

theorem ofWithin {lawful : (operation : ω) → Except ε (ρ operation) → Prop} {allowed : ω → Prop} {keep : σ → Prop}
    (within : program.Within lawful allowed)
    (each : ∀ operation, allowed operation → ∀ state, keep state → discipline.Safe call thread
      (fun reply state => lawful operation reply ∧ keep state) (steps operation) state) (initial : keep state) :
    discipline.Finely steps call thread (fun _ state => keep state) program state := by
  induction program generalizing state with
  | done value => exact initial
  | raise error => exact initial
  | request operation next ih =>
    refine Safe.bind (Safe.attempt (Safe.weaken (each operation within.1 state initial) fun reply state kept => ?_))
    exact ih reply (within.2 reply kept.1) kept.2

end Finely
end Discipline
end Effects
