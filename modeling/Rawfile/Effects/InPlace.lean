import Mathlib.Logic.Basic

/-! Updates of a value in place: programs over `EStateM`, whose state at an
exception is what the caller still holds. A relation between the value before and
the value after is kept by a whole program once its single steps keep it. -/

namespace Effects
namespace InPlace

variable {ε σ α β : Type}

def left : EStateM.Result ε σ α → σ
  | .ok _ state => state
  | .error _ state => state

def Keeps (relation : σ → σ → Prop) (program : EStateM ε σ α) : Prop :=
  ∀ state, relation state (left (program state))

section
variable {program : EStateM ε σ α} {next : α → EStateM ε σ β}

theorem bind_ok {state later : σ} {value : α}
    (done : program state = .ok value later) : (program >>= next) state = next value later := by
  simp [bind, EStateM.bind, done]

theorem bind_error {state later : σ} {error : ε}
    (failed : program state = .error error later) : (program >>= next) state = .error error later := by
  simp [bind, EStateM.bind, failed]

theorem bind_returned {state last : σ} {result : β} (done : (program >>= next) state = .ok result last) :
    ∃ value later, program state = .ok value later ∧ next value later = .ok result last := by
  cases first : program state with
  | ok value later => exact ⟨value, later, rfl, by rwa [bind_ok first] at done⟩
  | error error later => rw [bind_error first] at done; cases done

end

section Rules

variable {relation : σ → σ → Prop} (refl : ∀ state, relation state state)
  (trans : ∀ first second third, relation first second → relation second third → relation first third)

include refl in
theorem Keeps.pure (value : α) : Keeps relation (pure value : EStateM ε σ α) := refl

include refl in
theorem Keeps.throw (error : ε) : Keeps relation (throw error : EStateM ε σ α) := refl

include refl in
theorem Keeps.get : Keeps relation (get : EStateM ε σ σ) := refl

include trans in
theorem Keeps.bind {program : EStateM ε σ α} {next : α → EStateM ε σ β} (first : Keeps relation program)
    (rest : ∀ value, Keeps relation (next value)) : Keeps relation (program >>= next) := by
  intro state
  have started := first state
  cases ended : program state with
  | ok value later =>
    rw [ended] at started
    rw [bind_ok ended]
    exact trans _ _ _ started (rest value later)
  | error error later =>
    rw [ended] at started
    rwa [bind_error ended]

end Rules
end InPlace
end Effects
