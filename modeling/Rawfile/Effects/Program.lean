/-! Programs that stop at every request to their environment. A request is
answered by a value or by an exception, so exception handlers and clean-up
blocks are ordinary programs and every prefix of an execution is a state. -/

namespace Effects

inductive Program (ω : Type) (ρ : ω → Type) (ε α : Type) where
  | done (value : α)
  | raise (error : ε)
  | request (operation : ω) (next : Except ε (ρ operation) → Program ω ρ ε α)

variable {ω : Type} {ρ : ω → Type} {ε α β : Type}

namespace Program

protected def bind (program : Program ω ρ ε α) (next : α → Program ω ρ ε β) : Program ω ρ ε β :=
  match program with
  | .done value => next value
  | .raise error => .raise error
  | .request operation rest => .request operation (fun reply => (rest reply).bind next)

instance : Monad (Program ω ρ ε) where
  pure := .done
  bind := Program.bind

@[simp] protected theorem pure_bind (value : α) (next : α → Program ω ρ ε β) :
    ((Pure.pure value : Program ω ρ ε α) >>= next) = next value := rfl

@[simp] theorem done_bind (value : α) (next : α → Program ω ρ ε β) :
    ((Program.done value : Program ω ρ ε α) >>= next) = next value := rfl

@[simp] theorem raise_bind (error : ε) (next : α → Program ω ρ ε β) :
    ((Program.raise error : Program ω ρ ε α) >>= next) = .raise error := rfl

@[simp] theorem request_bind (operation : ω) (rest : Except ε (ρ operation) → Program ω ρ ε α)
    (next : α → Program ω ρ ε β) :
    (Program.request operation rest >>= next) = .request operation (fun reply => rest reply >>= next) := rfl

protected theorem bind_assoc {γ : Type} (program : Program ω ρ ε α) (next : α → Program ω ρ ε β)
    (last : β → Program ω ρ ε γ) : program >>= next >>= last = program >>= fun value => next value >>= last := by
  induction program with
  | done value => rfl
  | raise error => rfl
  | request operation rest ih => exact congrArg (Program.request operation) (funext ih)

def ofExcept : Except ε α → Program ω ρ ε α
  | .ok value => .done value
  | .error error => .raise error

def perform (operation : ω) : Program ω ρ ε (ρ operation) :=
  .request operation ofExcept

/-- Run the body and hand its outcome, returned or raised, to the caller. -/
def attempt : Program ω ρ ε α → Program ω ρ ε (Except ε α)
  | .done value => .done (.ok value)
  | .raise error => .done (.error error)
  | .request operation next => .request operation (fun reply => (next reply).attempt)

def tryExcept (body : Program ω ρ ε α) (handler : ε → Program ω ρ ε α) : Program ω ρ ε α := do
  match ← body.attempt with
  | .ok value => pure value
  | .error error => handler error

/-- The clean-up runs on every exit. If it raises, its error replaces the
outcome of the body. -/
def tryFinally (body : Program ω ρ ε α) (cleanup : Program ω ρ ε Unit) : Program ω ρ ε α := do
  let outcome ← body.attempt
  cleanup
  ofExcept outcome

def forEach (items : List β) (body : β → Program ω ρ ε Unit) : Program ω ρ ε Unit :=
  match items with
  | [] => pure ()
  | item :: rest => do
    body item
    forEach rest body

def finished : Program ω ρ ε α → Bool
  | .request .. => false
  | _ => true

def returned : Program ω ρ ε α → Bool
  | .done _ => true
  | _ => false

/-- What can be left of a program. -/
inductive Rest : Program ω ρ ε α → Program ω ρ ε α → Prop
  | here (program) : Rest program program
  | later {operation next last} (reply) (rest : Rest (next reply) last) : Rest (.request operation next) last

/-- Run a program to its end while nothing else moves. -/
def eval {σ : Type} (exec : (operation : ω) → σ → Except ε (ρ operation) × σ) :
    Program ω ρ ε α → σ → Except ε α × σ
  | .done value, state => (.ok value, state)
  | .raise error, state => (.error error, state)
  | .request operation next, state => (next (exec operation state).1).eval exec (exec operation state).2

theorem eval_bind {σ : Type} {exec : (operation : ω) → σ → Except ε (ρ operation) × σ} {program : Program ω ρ ε α}
    {next : α → Program ω ρ ε β} {state middle : σ} {value : α}
    (first : program.eval exec state = (.ok value, middle)) :
    (program >>= next).eval exec state = (next value).eval exec middle := by
  induction program generalizing state with
  | done found => cases first; rfl
  | raise error => cases first
  | request operation rest ih => exact ih _ first

theorem eval_bind_ok {σ : Type} {exec : (operation : ω) → σ → Except ε (ρ operation) × σ} {program : Program ω ρ ε α}
    {next : α → Program ω ρ ε β} {state after : σ} {value : β}
    (ran : (program >>= next).eval exec state = (.ok value, after)) :
    ∃ found middle, program.eval exec state = (.ok found, middle) ∧
      (next found).eval exec middle = (.ok value, after) := by
  induction program generalizing state with
  | done found => exact ⟨found, state, rfl, ran⟩
  | raise error => cases ran
  | request operation rest ih => exact ih _ ran

/-- Every request the program can issue is allowed, as long as the replies it
gets are lawful. -/
def Within (lawful : (operation : ω) → Except ε (ρ operation) → Prop) (allowed : ω → Prop) :
    Program ω ρ ε α → Prop
  | .done _ => True
  | .raise _ => True
  | .request operation next =>
    allowed operation ∧ ∀ reply, lawful operation reply → (next reply).Within lawful allowed

variable {lawful : (operation : ω) → Except ε (ρ operation) → Prop} {allowed : ω → Prop}

variable {program : Program ω ρ ε α} {next : α → Program ω ρ ε β}

theorem Within.pure (value : α) : (Pure.pure value : Program ω ρ ε α).Within lawful allowed := trivial

theorem Within.raise (error : ε) : (Program.raise error : Program ω ρ ε α).Within lawful allowed := trivial

theorem Within.bind (first : program.Within lawful allowed) (rest : ∀ value, (next value).Within lawful allowed) :
    (program >>= next).Within lawful allowed := by
  induction program with
  | done value => exact rest value
  | raise error => trivial
  | request operation next ih => exact ⟨first.1, fun reply obeys => ih reply (first.2 reply obeys)⟩

theorem Within.ofExcept (outcome : Except ε α) :
    (Program.ofExcept outcome : Program ω ρ ε α).Within lawful allowed := by
  cases outcome <;> trivial

theorem Within.perform {operation : ω} (permitted : allowed operation) :
    (Program.perform operation : Program ω ρ ε _).Within lawful allowed :=
  ⟨permitted, fun reply _ => Within.ofExcept reply⟩

theorem Within.performThen {operation : ω} {next : ρ operation → Program ω ρ ε β} (permitted : allowed operation)
    (rest : ∀ value, lawful operation (.ok value) → (next value).Within lawful allowed) :
    (Program.perform operation >>= next).Within lawful allowed := by
  refine ⟨permitted, fun reply obeys => ?_⟩
  cases reply with
  | ok value => exact rest value obeys
  | error error => trivial

theorem Within.attempt (body : program.Within lawful allowed) : program.attempt.Within lawful allowed := by
  induction program with
  | done value => trivial
  | raise error => trivial
  | request operation next ih => exact ⟨body.1, fun reply obeys => ih reply (body.2 reply obeys)⟩

theorem Within.tryExcept {handler : ε → Program ω ρ ε α} (body : program.Within lawful allowed)
    (handling : ∀ error, (handler error).Within lawful allowed) :
    (program.tryExcept handler).Within lawful allowed := by
  refine .bind body.attempt ?_
  intro outcome
  cases outcome with
  | ok value => exact .pure value
  | error error => exact handling error

theorem Within.tryFinally {cleanup : Program ω ρ ε Unit} (body : program.Within lawful allowed)
    (last : cleanup.Within lawful allowed) : (program.tryFinally cleanup).Within lawful allowed :=
  .bind body.attempt (fun outcome => .bind last (fun _ => .ofExcept outcome))

theorem Within.forEach {items : List β} {body : β → Program ω ρ ε Unit}
    (each : ∀ item ∈ items, (body item).Within lawful allowed) :
    (Program.forEach items body).Within lawful allowed := by
  induction items with
  | nil => exact .pure ()
  | cons item rest ih =>
    exact .bind (each item (by simp)) (fun _ => ih (fun other member => each other (by simp [member])))

theorem Within.mono {wider : ω → Prop} (inside : program.Within lawful allowed)
    (implies : ∀ operation, allowed operation → wider operation) : program.Within lawful wider := by
  induction program with
  | done value => trivial
  | raise error => trivial
  | request operation next ih =>
    exact ⟨implies operation inside.1, fun reply obeys => ih reply (inside.2 reply obeys)⟩

/-- Every value the program can return is good, as long as the replies it gets
are lawful. -/
def Returns (lawful : (operation : ω) → Except ε (ρ operation) → Prop) (good : α → Prop) :
    Program ω ρ ε α → Prop
  | .done value => good value
  | .raise _ => True
  | .request operation next => ∀ reply, lawful operation reply → (next reply).Returns lawful good

variable {good : α → Prop}

theorem Returns.bind {better : β → Prop} (first : program.Returns lawful good)
    (rest : ∀ value, good value → (next value).Returns lawful better) : (program >>= next).Returns lawful better := by
  induction program with
  | done value => exact rest value first
  | raise error => trivial
  | request operation next ih => exact fun reply obeys => ih reply (first reply obeys)

theorem Returns.any (program : Program ω ρ ε α) : program.Returns lawful (fun _ => True) := by
  induction program with
  | done value => trivial
  | raise error => trivial
  | request operation next ih => exact fun reply _ => ih reply

theorem Within.bindReturns (first : program.Within lawful allowed) (returns : program.Returns lawful good)
    (rest : ∀ value, good value → (next value).Within lawful allowed) : (program >>= next).Within lawful allowed := by
  induction program with
  | done value => exact rest value returns
  | raise error => trivial
  | request operation next ih =>
    exact ⟨first.1, fun reply obeys => ih reply (first.2 reply obeys) (returns reply obeys)⟩

end Program
end Effects
