import Mathlib.Tactic.Cases
import Rawfile.Effects.Program

/-! One program at a time. The environment answers every request with one of
the answers it may give, and a program is certain of what holds after all of
them. The states in between are those a crash can leave behind. -/

namespace Effects

variable {ω : Type} {ρ : ω → Type} {ε ι σ α β : Type}

/-- An environment that always has an answer. -/
structure World (ω : Type) (ρ : ω → Type) (ε ι σ : Type) where
  exec : (operation : ω) → ι → σ → Except ε (ρ operation) × σ
  may : (operation : ω) → ι → σ → Prop
  answers : ∀ operation state, ∃ answer, may operation answer state

namespace World

variable (world : World ω ρ ε ι σ)

/-- Whatever the answers, every state on the way satisfies `through` and the
end satisfies `post`. -/
def Surely (through : σ → Prop) (post : Except ε α → σ → Prop) : Program ω ρ ε α → σ → Prop
  | .done value, state => through state ∧ post (.ok value) state
  | .raise error, state => through state ∧ post (.error error) state
  | .request operation next, state => through state ∧ ∀ answer, world.may operation answer state →
    Surely through post (next (world.exec operation answer state).1) (world.exec operation answer state).2

/-- Whatever the answers, the program ends so. -/
abbrev Ends (post : Except ε α → σ → Prop) (program : Program ω ρ ε α) (state : σ) : Prop :=
  world.Surely (fun _ => True) post program state

/-- The states a program can be interrupted in, from its beginning to its end. -/
inductive Passes : Program ω ρ ε α → σ → σ → Prop
  | here (program state) : Passes program state state
  | step {operation next state answer last} (may : world.may operation answer state)
      (rest : Passes (next (world.exec operation answer state).1) (world.exec operation answer state).2 last) :
      Passes (.request operation next) state last

/-- The state after the answers, as long as all of them may be given. -/
def follow [∀ operation answer state, Decidable (world.may operation answer state)] :
    List ι → Program ω ρ ε α → σ → Option σ
  | answer :: rest, .request operation next, state =>
    if world.may operation answer state then
      follow rest (next (world.exec operation answer state).1) (world.exec operation answer state).2
    else none
  | _, _, state => some state

variable {world} {through : σ → Prop}

variable {program : Program ω ρ ε α} {next : α → Program ω ρ ε β} {state : σ}

theorem follow_passes [∀ operation answer state, Decidable (world.may operation answer state)] {answers : List ι}
    {state last : σ} (followed : world.follow answers program state = some last) : world.Passes program state last := by
  fun_induction follow world answers program state with
  | case1 answer rest operation next state may ih => exact .step may (ih followed)
  | case2 => cases followed
  | case3 => cases followed; exact .here _ _

namespace Surely

variable {post : Except ε α → σ → Prop}

theorem here (surely : world.Surely through post program state) : through state := by
  cases program <;> exact surely.1

theorem passes {state last : σ} (surely : world.Surely through post program state)
    (passes : world.Passes program state last) : through last := by
  induction passes with
  | here => exact surely.here
  | step may _ ih => exact ih (surely.2 _ may)

theorem satisfiable (surely : world.Surely through post program state) : ∃ outcome last, post outcome last := by
  induction program generalizing state with
  | done value => exact ⟨_, _, surely.2⟩
  | raise error => exact ⟨_, _, surely.2⟩
  | request operation next ih =>
    obtain ⟨answer, may⟩ := world.answers operation state
    exact ih _ (surely.2 answer may)

theorem any (program : Program ω ρ ε α) (state : σ) : world.Ends (fun _ _ => True) program state := by
  induction program generalizing state with
  | done value => exact ⟨trivial, trivial⟩
  | raise error => exact ⟨trivial, trivial⟩
  | request operation next ih => exact ⟨trivial, fun answer _ => ih _ _⟩

/-- What holds whatever the answers holds for answers of one's choice. -/
theorem evaluated (choose : ω → σ → ι) (allowed : ∀ operation state, world.may operation (choose operation state) state)
    (surely : world.Surely through post program state) :
    post (program.eval (fun operation state => world.exec operation (choose operation state) state) state).1
      (program.eval (fun operation state => world.exec operation (choose operation state) state) state).2 := by
  induction program generalizing state with
  | done value => exact surely.2
  | raise error => exact surely.2
  | request operation next ih => exact ih _ (surely.2 _ (allowed operation state))

theorem both {post other : Except ε α → σ → Prop} (first : world.Surely through post program state)
    (second : world.Ends other program state) :
    world.Surely through (fun outcome state => post outcome state ∧ other outcome state) program state := by
  induction program generalizing state with
  | done value => exact ⟨first.1, first.2, second.2⟩
  | raise error => exact ⟨first.1, first.2, second.2⟩
  | request operation next ih => exact ⟨first.1, fun answer may => ih _ (first.2 answer may) (second.2 answer may)⟩

theorem each {κ : Type} {post : κ → Except ε α → σ → Prop} (ends : ∀ index, world.Ends (post index) program state) :
    world.Ends (fun outcome state => ∀ index, post index outcome state) program state := by
  induction program generalizing state with
  | done value => exact ⟨trivial, fun index => (ends index).2⟩
  | raise error => exact ⟨trivial, fun index => (ends index).2⟩
  | request operation next ih => exact ⟨trivial, fun answer may => ih _ fun index => (ends index).2 answer may⟩

theorem weaken {wider : σ → Prop} {post other : Except ε α → σ → Prop}
    (surely : world.Surely through post program state) (pass : ∀ state, through state → wider state)
    (implies : ∀ outcome state, through state → post outcome state → other outcome state) :
    world.Surely wider other program state := by
  induction program generalizing state with
  | done value => exact ⟨pass _ surely.1, implies _ _ surely.1 surely.2⟩
  | raise error => exact ⟨pass _ surely.1, implies _ _ surely.1 surely.2⟩
  | request operation next ih => exact ⟨pass _ surely.1, fun answer may => ih _ (surely.2 answer may)⟩

theorem restrict {other : World ω ρ ε ι σ} (surely : world.Surely through post program state)
    (same : other.exec = world.exec)
    (fewer : ∀ operation answer state, other.may operation answer state → world.may operation answer state) :
    other.Surely through post program state := by
  induction program generalizing state with
  | done value => exact surely
  | raise error => exact surely
  | request operation next ih =>
    refine ⟨surely.1, fun answer may => ?_⟩
    rw [same]
    exact ih _ (surely.2 answer (fewer operation answer state may))

theorem pure {value : α} (pass : through state) (ends : post (.ok value) state) :
    world.Surely through post (Pure.pure value) state := ⟨pass, ends⟩

theorem raise {error : ε} (pass : through state) (ends : post (.error error) state) :
    world.Surely through post (.raise error : Program ω ρ ε α) state := ⟨pass, ends⟩

section
variable {post : Except ε β → σ → Prop}

theorem bind (surely : world.Surely through (fun outcome state =>
      match outcome with
      | .ok value => world.Surely through post (next value) state
      | .error error => post (.error error) state) program state) :
    world.Surely through post (program >>= next) state := by
  induction program generalizing state with
  | done value => exact surely.2
  | raise error => exact surely
  | request operation rest ih => exact ⟨surely.1, fun answer may => ih _ (surely.2 answer may)⟩

theorem andThen {good : Except ε α → σ → Prop} (first : world.Surely through good program state)
    (rest : ∀ value state, good (.ok value) state → world.Surely through post (next value) state)
    (failing : ∀ error state, good (.error error) state → post (.error error) state) :
    world.Surely through post (program >>= next) state := by
  refine bind (first.weaken (fun _ pass => pass) ?_)
  intro outcome state _ known
  cases outcome with
  | ok value => exact rest value state known
  | error error => exact failing error state known

theorem onward (known : α → σ → Prop)
    (first : world.Surely through (fun outcome state =>
      ∃ value, outcome = .ok value ∧ known value state) program state)
    (rest : ∀ value state, through state → known value state → world.Surely through post (next value) state) :
    world.Surely through post (program >>= next) state := by
  refine bind (first.weaken (fun _ pass => pass) ?_)
  rintro _ state pass ⟨value, rfl, holds⟩
  exact rest value state pass holds

end

theorem ofExcept {outcome : Except ε α} (pass : through state) (ends : post outcome state) :
    world.Surely through post (Program.ofExcept outcome) state := by
  cases outcome <;> exact ⟨pass, ends⟩

theorem perform {operation : ω} {post : Except ε (ρ operation) → σ → Prop} {state : σ} (pass : through state)
    (answers : ∀ answer reply after, world.may operation answer state →
      world.exec operation answer state = (reply, after) → through after ∧ post reply after) :
    world.Surely through post (Program.perform operation) state :=
  ⟨pass, fun answer may => ofExcept (answers answer _ _ may rfl).1 (answers answer _ _ may rfl).2⟩

theorem attempt {post : Except ε (Except ε α) → σ → Prop}
    (surely : world.Surely through (fun outcome state => post (.ok outcome) state) program state) :
    world.Surely through post program.attempt state := by
  induction program generalizing state with
  | done value => exact surely
  | raise error => exact surely
  | request operation rest ih => exact ⟨surely.1, fun answer may => ih _ (surely.2 answer may)⟩

theorem tryExcept {handler : ε → Program ω ρ ε α}
    (surely : world.Surely through (fun outcome state =>
      match outcome with
      | .ok value => through state ∧ post (.ok value) state
      | .error error => world.Surely through post (handler error) state) program state) :
    world.Surely through post (program.tryExcept handler) state := by
  refine bind (attempt (surely.weaken (fun _ pass => pass) ?_))
  intro outcome state _ reached
  cases outcome <;> exact reached

theorem tryFinally {cleanup : Program ω ρ ε Unit}
    (surely : world.Surely through (fun outcome state => world.Surely through (fun cleaned state =>
      match cleaned with
      | .ok _ => through state ∧ post outcome state
      | .error error => post (.error error) state) cleanup state) program state) :
    world.Surely through post (program.tryFinally cleanup) state := by
  refine bind (attempt (surely.weaken (fun _ pass => pass) ?_))
  intro outcome state _ cleaning
  refine bind (cleaning.weaken (fun _ pass => pass) ?_)
  intro cleaned state _ ended
  cases cleaned with
  | ok value => exact ofExcept ended.1 ended.2
  | error error => exact ended

theorem forEach {post : Except ε Unit → σ → Prop} {items : List β} {body : β → Program ω ρ ε Unit}
    (left : List β → σ → Prop)
    (each : ∀ item rest state, left (item :: rest) state → world.Surely through (fun outcome state =>
      match outcome with
      | .ok _ => left rest state
      | .error error => post (.error error) state) (body item) state)
    (finish : ∀ state, left [] state → through state ∧ post (.ok ()) state) (initial : left items state) :
    world.Surely through post (Program.forEach items body) state := by
  induction items generalizing state with
  | nil => exact finish state initial
  | cons item rest ih =>
    refine bind ((each item rest state initial).weaken (fun _ pass => pass) ?_)
    intro outcome state _ reached
    cases outcome with
    | ok value => exact ih reached
    | error error => exact reached

/-- A program that only issues operations which keep an assertion keeps it. -/
theorem ofWithin {lawful : (operation : ω) → Except ε (ρ operation) → Prop} {allowed : ω → Prop} (through : σ → Prop)
    (within : program.Within lawful allowed)
    (obeys : ∀ operation answer state, lawful operation (world.exec operation answer state).1)
    (steps : ∀ operation answer state, allowed operation → world.may operation answer state → through state →
      through (world.exec operation answer state).2) (initial : through state) :
    world.Surely through (fun _ state => through state) program state := by
  induction program generalizing state with
  | done value => exact ⟨initial, initial⟩
  | raise error => exact ⟨initial, initial⟩
  | request operation next ih =>
    refine ⟨initial, fun answer may => ?_⟩
    exact ih _ (within.2 _ (obeys operation answer state)) (steps operation answer state within.1 may initial)

end Surely

/-- Whatever the answers and wherever the program stops, the state satisfies `through`. -/
abbrev Along (world : World ω ρ ε ι σ) (through : σ → Prop) (program : Program ω ρ ε α) (state : σ) : Prop :=
  world.Surely through (fun _ _ => True) program state

namespace Along

theorem pure {value : α} (pass : through state) : world.Along through (Pure.pure value) state :=
  ⟨pass, trivial⟩

theorem raise {error : ε} (pass : through state) : world.Along through (.raise error : Program ω ρ ε α) state :=
  ⟨pass, trivial⟩

theorem perform {operation : ω} {state : σ} (pass : through state)
    (answers : ∀ answer, world.may operation answer state → through (world.exec operation answer state).2) :
    world.Along through (Program.perform operation) state := by
  refine Surely.perform pass fun answer reply after may executed => ⟨?_, trivial⟩
  have next := answers answer may
  rwa [executed] at next

theorem after (known : σ → Prop) (first : world.Surely through (fun _ state => known state) program state)
    (rest : ∀ value state, through state → known state → world.Along through (next value) state) :
    world.Along through (program >>= next) state := by
  refine Surely.bind (first.weaken (fun _ pass => pass) ?_)
  intro outcome state pass holds
  cases outcome with
  | ok value => exact rest value state pass holds
  | error error => trivial

theorem bind (first : world.Along through program state)
    (rest : ∀ value state, through state → world.Along through (next value) state) :
    world.Along through (program >>= next) state :=
  after (fun _ => True) first fun value state pass _ => rest value state pass

theorem tryExcept {handler : ε → Program ω ρ ε α} (body : world.Along through program state)
    (handling : ∀ error state, through state → world.Along through (handler error) state) :
    world.Along through (program.tryExcept handler) state := by
  refine Surely.tryExcept (body.weaken (fun _ pass => pass) ?_)
  intro outcome state pass _
  cases outcome with
  | ok value => exact ⟨pass, trivial⟩
  | error error => exact handling error state pass

theorem tryFinally {cleanup : Program ω ρ ε Unit} (body : world.Along through program state)
    (cleaning : ∀ state, through state → world.Along through cleanup state) :
    world.Along through (program.tryFinally cleanup) state := by
  refine Surely.tryFinally (body.weaken (fun _ pass => pass) ?_)
  intro outcome state pass _
  refine (cleaning state pass).weaken (fun _ pass => pass) ?_
  intro cleaned state pass _
  cases cleaned with
  | ok value => exact ⟨pass, trivial⟩
  | error error => trivial

end Along

/-- Whatever the answers, every state on the way satisfies `through`, and what the program returns satisfies `post`. -/
abbrev Gives (world : World ω ρ ε ι σ) (through : σ → Prop) (post : α → σ → Prop) (program : Program ω ρ ε α)
    (state : σ) : Prop :=
  world.Surely through (fun outcome state => ∀ value, outcome = .ok value → post value state) program state

namespace Gives

theorem pure {post : α → σ → Prop} {value : α} (pass : through state) (holds : post value state) :
    world.Gives through post (Pure.pure value) state := by
  refine ⟨pass, ?_⟩
  rintro _ ⟨⟩
  exact holds

theorem raise {post : α → σ → Prop} {error : ε} (pass : through state) :
    world.Gives through post (.raise error) state :=
  ⟨pass, nofun⟩

theorem perform {operation : ω} {post : ρ operation → σ → Prop} {state : σ} (pass : through state)
    (answers : ∀ answer reply after, world.may operation answer state →
      world.exec operation answer state = (reply, after) → through after ∧ ∀ value, reply = .ok value → post value after) :
    world.Gives through post (Program.perform operation) state :=
  Surely.perform pass answers

theorem bind {known : α → σ → Prop} {post : β → σ → Prop} (first : world.Gives through known program state)
    (rest : ∀ value state, through state → known value state → world.Gives through post (next value) state) :
    world.Gives through post (program >>= next) state := by
  refine Surely.bind (first.weaken (fun _ pass => pass) ?_)
  intro outcome state pass holds
  cases outcome with
  | ok value => exact rest value state pass (holds value rfl)
  | error error => exact nofun

theorem along {known : α → σ → Prop} (first : world.Gives through known program state)
    (rest : ∀ value state, through state → known value state → world.Along through (next value) state) :
    world.Along through (program >>= next) state := by
  refine Surely.bind (first.weaken (fun _ pass => pass) ?_)
  intro outcome state pass holds
  cases outcome with
  | ok value => exact rest value state pass (holds value rfl)
  | error error => trivial

theorem weaken {wider : σ → Prop} {known post : α → σ → Prop} (gives : world.Gives through known program state)
    (pass : ∀ state, through state → wider state)
    (implies : ∀ value state, through state → known value state → post value state) :
    world.Gives wider post program state :=
  Surely.weaken gives pass fun _ state pass known value same => implies value state pass (known value same)

theorem both {known post : α → σ → Prop} (first : world.Gives through known program state)
    (second : world.Gives (fun _ => True) post program state) :
    world.Gives through (fun value state => known value state ∧ post value state) program state :=
  (Surely.both first second).weaken (fun _ pass => pass)
    fun _ _ _ known value same => ⟨known.1 value same, known.2 value same⟩

theorem ofEnds {known : Except ε α → σ → Prop} (ends : world.Surely through known program state) :
    world.Gives through (fun value state => known (.ok value) state) program state := by
  refine Surely.weaken ends (fun _ pass => pass) ?_
  rintro _ state _ holds value rfl
  exact holds

theorem tryRaise {post : α → σ → Prop} {handler : ε → Program ω ρ ε α} (body : world.Gives through post program state)
    (handling : ∀ error state, through state → world.Gives through post (handler error) state) :
    world.Gives through post (program.tryExcept handler) state := by
  refine Surely.tryExcept (Surely.weaken body (fun _ pass => pass) ?_)
  intro outcome state pass holds
  cases outcome with
  | ok value =>
    refine ⟨pass, ?_⟩
    rintro _ ⟨⟩
    exact holds value rfl
  | error error => exact handling error state pass

theorem tryFinally {known post : α → σ → Prop} {cleanup : Program ω ρ ε Unit}
    (body : world.Gives through known program state)
    (returned : ∀ value state, through state → known value state →
      world.Gives through (fun _ state => post value state) cleanup state)
    (raised : ∀ state, through state → world.Along through cleanup state) :
    world.Gives through post (program.tryFinally cleanup) state := by
  refine Surely.tryFinally (Surely.weaken body (fun _ pass => pass) ?_)
  intro outcome state pass holds
  cases outcome with
  | ok value =>
    refine Surely.weaken (returned value state pass (holds value rfl)) (fun _ pass => pass) ?_
    intro cleaned state pass holds
    cases cleaned with
    | ok done =>
      refine ⟨pass, ?_⟩
      rintro _ ⟨⟩
      exact holds done rfl
    | error error => exact nofun
  | error error =>
    refine Surely.weaken (raised state pass) (fun _ pass => pass) ?_
    intro cleaned state pass _
    cases cleaned with
    | ok done => exact ⟨pass, nofun⟩
    | error error => exact nofun

end Gives

/-- The program only looks, and what it sees determines its outcome. -/
def Yields (world : World ω ρ ε ι σ) (outcome : Except ε α) (program : Program ω ρ ε α) (state : σ) : Prop :=
  world.Surely (fun other => other = state) (fun result other => result = outcome ∧ other = state) program state

namespace Yields

theorem pure (value : α) (state : σ) : world.Yields (.ok value) (Pure.pure value) state := ⟨rfl, rfl, rfl⟩

theorem raise (error : ε) (state : σ) : world.Yields (.error error) (.raise error : Program ω ρ ε α) state := ⟨rfl, rfl, rfl⟩

theorem perform {operation : ω} {outcome : Except ε (ρ operation)} {state : σ}
    (answers : ∀ answer, world.may operation answer state → world.exec operation answer state = (outcome, state)) :
    world.Yields outcome (Program.perform operation) state := by
  refine Surely.perform rfl fun answer reply after may executed => ?_
  cases executed.symm.trans (answers answer may)
  exact ⟨rfl, rfl, rfl⟩

theorem bind {value : α} {outcome : Except ε β} (first : world.Yields (.ok value) program state)
    (rest : world.Yields outcome (next value) state) : world.Yields outcome (program >>= next) state := by
  refine Surely.andThen first ?_ ?_
  · rintro _ _ ⟨same, rfl⟩
    cases same
    exact rest
  · rintro _ _ ⟨same, _⟩
    cases same

theorem failing {error : ε} (first : world.Yields (.error error) program state) :
    world.Yields (.error error) (program >>= next) state := by
  refine Surely.andThen first ?_ ?_
  · rintro _ _ ⟨same, _⟩
    cases same
  · rintro _ _ ⟨same, rfl⟩
    cases same
    exact ⟨rfl, rfl⟩

theorem attempt {outcome : Except ε α} (body : world.Yields outcome program state) :
    world.Yields (.ok outcome) program.attempt state := by
  refine Surely.attempt (body.weaken (fun _ pass => pass) ?_)
  rintro _ _ _ ⟨rfl, same⟩
  exact ⟨rfl, same⟩

theorem tryExcept {handler : ε → Program ω ρ ε α} {value : α} (body : world.Yields (.ok value) program state) :
    world.Yields (.ok value) (program.tryExcept handler) state :=
  body.attempt.bind (pure value state)

theorem ends_iff {post : Except ε α → σ → Prop} {outcome : Except ε α} (looked : world.Yields outcome program state) :
    world.Ends post program state ↔ post outcome state := by
  constructor
  · intro ends
    obtain ⟨_, _, holds, rfl, rfl⟩ := (ends.both (looked.weaken (fun _ _ => trivial) fun _ _ _ seen => seen)).satisfiable
    exact holds
  · intro holds
    refine looked.weaken (fun _ _ => trivial) ?_
    rintro _ _ _ ⟨rfl, rfl⟩
    exact holds

theorem passes {outcome : Except ε α} {state last : σ} (looked : world.Yields outcome program state)
    (passes : world.Passes program state last) : last = state := by
  unfold Yields at looked
  exact looked.passes passes

theorem restrict {other : World ω ρ ε ι σ} {outcome : Except ε α} (looked : world.Yields outcome program state)
    (same : other.exec = world.exec)
    (fewer : ∀ operation answer state, other.may operation answer state → world.may operation answer state) :
    other.Yields outcome program state := by
  unfold Yields at looked
  exact looked.restrict same fewer

theorem andThen {post : Except ε β → σ → Prop} {value : α} (looked : world.Yields (.ok value) program state)
    (pass : through state) (rest : world.Surely through post (next value) state) :
    world.Surely through post (program >>= next) state := by
  refine Surely.andThen (looked.weaken ?_ fun _ _ _ seen => seen) ?_ ?_
  · rintro _ rfl
    exact pass
  · rintro _ _ ⟨same, rfl⟩
    cases same
    exact rest
  · rintro _ _ ⟨same, _⟩
    cases same

end Yields

/-- The same world with a record of the operations and whether they succeeded. -/
def recorded (world : World ω ρ ε ι σ) : World ω ρ ε ι (σ × List (ω × Bool)) where
  exec operation answer state :=
    ((world.exec operation answer state.1).1, (world.exec operation answer state.1).2,
      state.2 ++ [(operation, (world.exec operation answer state.1).1.isOk)])
  may operation answer state := world.may operation answer state.1
  answers operation state := world.answers operation state.1

theorem recorded_exec {operation : ω} {answer : ι} {state after : σ × List (ω × Bool)} {reply : Except ε (ρ operation)}
    (executed : world.recorded.exec operation answer state = (reply, after)) :
    world.exec operation answer state.1 = (reply, after.1) ∧ after.2 = state.2 ++ [(operation, reply.isOk)] := by
  simp only [World.recorded, Prod.mk.injEq] at executed
  obtain ⟨rfl, rfl⟩ := executed
  exact ⟨rfl, rfl⟩

theorem Surely.recorded {post : Except ε α → σ → Prop} (surely : world.Surely through post program state)
    (record : List (ω × Bool)) :
    world.recorded.Surely (fun now => through now.1) (fun outcome now => post outcome now.1) program (state, record) := by
  induction program generalizing state record with
  | done value => exact surely
  | raise error => exact surely
  | request operation next ih => exact ⟨surely.1, fun answer may => ih _ (surely.2 answer may) _⟩

theorem Surely.unrecorded {post : Except ε α → σ → Prop} {program : Program ω ρ ε α} {state : σ}
    {record : List (ω × Bool)} (surely : world.recorded.Surely (fun now => through now.1)
      (fun outcome now => post outcome now.1) program (state, record)) : world.Surely through post program state := by
  induction program generalizing state record with
  | done value => exact surely
  | raise error => exact surely
  | request operation next ih => exact ⟨surely.1, fun answer may => ih _ (surely.2 answer may)⟩

end World
end Effects
