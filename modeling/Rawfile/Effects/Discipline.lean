import Mathlib.Data.List.Basic
import Rawfile.Effects.Machine

/-! Reasoning about one thread at a time. A discipline says which steps a run
permits, which calls can be under way together, what holds in every state, what
is known of a thread that has not begun, what a thread promises of its own steps
and what it may rely on while the others move. Owners may disturb what is quiet
otherwise, and leave it quiet. A program that is safe by itself is safe in every
run of a machine whose promises imply what is relied on. -/

namespace Effects

variable {ω : Type} {ρ : ω → Type} {ε ι σ κ δ α β : Type}

structure Discipline (machine : Machine ω ρ ε ι σ κ δ) where
  permits : κ → Nat → ω → ι → σ → Prop
  valid : σ → Prop
  guarantee : κ → Nat → σ → σ → Prop
  rely : κ → Nat → σ → σ → Prop
  together : κ → κ → Prop
  absent : Nat → σ → Prop
  owner : κ → Bool := fun _ => false
  quiet : σ → Prop := fun _ => True
  rely_refl : ∀ call thread state, rely call thread state state
  rely_trans : ∀ {call thread first second third}, rely call thread first second → rely call thread second third →
    rely call thread first third
  compatible : ∀ {call other thread otherThread before after}, valid before → guarantee call thread before after →
    thread ≠ otherThread → together call other → rely other otherThread before after
  absent_kept : ∀ {call thread other before after}, guarantee call thread before after → other ≠ thread →
    absent other before → absent other after
  quiet_kept : ∀ {call thread before after}, guarantee call thread before after → owner call = false →
    quiet before → quiet after := by intros; trivial

namespace Discipline

variable {machine : Machine ω ρ ε ι σ κ δ} (discipline : Discipline machine)

/-- A permitted answer to the operation keeps the promises and leads to `post`. -/
def Step (call : κ) (thread : Nat) (operation : ω) (post : Except ε (ρ operation) → σ → Prop) (now : σ) : Prop :=
  ∀ answer reply after, discipline.permits call thread operation answer now →
    machine.exec thread operation answer now = some (reply, after) →
    discipline.guarantee call thread now after ∧ discipline.valid after ∧ post reply after

/-- Whatever the other threads do between its steps, the program keeps the
promises, and it ends with an outcome and in a state that satisfy `post`. -/
def Safe (call : κ) (thread : Nat) (post : Except ε α → σ → Prop) : Program ω ρ ε α → σ → Prop
  | .done value, state => post (.ok value) state
  | .raise error, state => post (.error error) state
  | .request operation next, state =>
    ∀ now, discipline.rely call thread state now → discipline.valid now →
      discipline.Step call thread operation (fun reply after => Safe call thread post (next reply) after) now

def ends (call : κ) (_outcome : Except ε Unit) (state : σ) : Prop := discipline.owner call = true → discipline.quiet state

variable {discipline} {call : κ} {thread : Nat}

namespace Safe

variable {program : Program ω ρ ε α} {next : α → Program ω ρ ε β} {post : Except ε α → σ → Prop} {state : σ}

theorem weaken {post wider : Except ε α → σ → Prop} (safe : discipline.Safe call thread post program state)
    (implies : ∀ outcome state, post outcome state → wider outcome state) :
    discipline.Safe call thread wider program state := by
  induction program generalizing state with
  | done value => exact implies _ _ safe
  | raise error => exact implies _ _ safe
  | request operation next ih =>
    intro now relied valid answer reply after permitted answered
    obtain ⟨kept, still, rest⟩ := safe now relied valid answer reply after permitted answered
    exact ⟨kept, still, ih reply rest⟩

theorem bind {post : Except ε β → σ → Prop}
    (safe : discipline.Safe call thread (fun outcome state =>
      match outcome with
      | .ok value => discipline.Safe call thread post (next value) state
      | .error error => post (.error error) state) program state) :
    discipline.Safe call thread post (program >>= next) state := by
  induction program generalizing state with
  | done value => exact safe
  | raise error => exact safe
  | request operation rest ih =>
    intro now relied valid answer reply after permitted answered
    obtain ⟨kept, still, rest⟩ := safe now relied valid answer reply after permitted answered
    exact ⟨kept, still, ih reply rest⟩

/-- Sequencing through an assertion that holds however the first part ends. -/
theorem andThen {post : Except ε β → σ → Prop} {keep : σ → Prop}
    (first : discipline.Safe call thread (fun _ state => keep state) program state)
    (rest : ∀ value state, keep state → discipline.Safe call thread post (next value) state)
    (failing : ∀ error state, keep state → post (.error error) state) :
    discipline.Safe call thread post (program >>= next) state := by
  refine bind (first.weaken ?_)
  intro outcome state kept
  cases outcome with
  | ok value => exact rest value state kept
  | error error => exact failing error state kept

theorem after {keep : σ → Prop} (first : discipline.Safe call thread (fun _ state => keep state) program state)
    (rest : ∀ value state, keep state → discipline.Safe call thread (fun _ _ => True) (next value) state) :
    discipline.Safe call thread (fun _ _ => True) (program >>= next) state :=
  first.andThen rest fun _ _ _ => trivial

/-- Sequencing through what is known of the value the first part returns. -/
theorem proceed {post : Except ε β → σ → Prop} {good : α → σ → Prop}
    (first : discipline.Safe call thread (fun outcome state => ∀ value, outcome = .ok value → good value state)
      program state) (rest : ∀ value state, good value state → discipline.Safe call thread post (next value) state)
    (failing : ∀ error state, post (.error error) state) :
    discipline.Safe call thread post (program >>= next) state := by
  refine bind (first.weaken ?_)
  intro outcome state returned
  cases outcome with
  | ok value => exact rest value state (returned value rfl)
  | error error => exact failing error state

theorem attempt {post : Except ε (Except ε α) → σ → Prop}
    (safe : discipline.Safe call thread (fun outcome state => post (.ok outcome) state) program state) :
    discipline.Safe call thread post program.attempt state := by
  induction program generalizing state with
  | done value => exact safe
  | raise error => exact safe
  | request operation rest ih =>
    intro now relied valid answer reply after permitted answered
    obtain ⟨kept, still, rest⟩ := safe now relied valid answer reply after permitted answered
    exact ⟨kept, still, ih reply rest⟩

theorem tryExcept {handler : ε → Program ω ρ ε α}
    (safe : discipline.Safe call thread (fun outcome state =>
      match outcome with
      | .ok value => post (.ok value) state
      | .error error => discipline.Safe call thread post (handler error) state) program state) :
    discipline.Safe call thread post (program.tryExcept handler) state := by
  refine bind (attempt (safe.weaken ?_))
  intro outcome state reached
  cases outcome with
  | ok value => exact reached
  | error error => exact reached

theorem tryFinally {cleanup : Program ω ρ ε Unit}
    (safe : discipline.Safe call thread (fun outcome state =>
      discipline.Safe call thread (fun last state =>
        match last with
        | .ok _ => post outcome state
        | .error error => post (.error error) state) cleanup state) program state) :
    discipline.Safe call thread post (program.tryFinally cleanup) state := by
  refine bind (attempt (safe.weaken ?_))
  intro outcome state cleaned
  refine bind (cleaned.weaken ?_)
  intro last state reached
  cases last with
  | ok value => cases outcome <;> exact reached
  | error error => exact reached

theorem andFinally {cleanup : Program ω ρ ε Unit} (keep : σ → Prop)
    (body : discipline.Safe call thread (fun _ state => keep state) program state)
    (last : ∀ state, keep state → discipline.Safe call thread (fun _ _ => True) cleanup state)
    (finish : ∀ outcome state, post outcome state) :
    discipline.Safe call thread post (program.tryFinally cleanup) state := by
  refine tryFinally (body.weaken fun outcome state kept => (last state kept).weaken fun final state _ => ?_)
  cases final <;> exact finish _ _

theorem perform {operation : ω} {post : Except ε (ρ operation) → σ → Prop} {state : σ}
    (step : ∀ now, discipline.rely call thread state now → discipline.valid now →
      discipline.Step call thread operation post now) :
    discipline.Safe call thread post (Program.perform operation) state := by
  intro now relied valid answer reply after permitted answered
  obtain ⟨kept, still, reached⟩ := step now relied valid answer reply after permitted answered
  refine ⟨kept, still, ?_⟩
  cases reply <;> exact reached

/-- A program that only issues operations which keep an assertion and the
promises in every state is safe and keeps the assertion. -/
theorem ofWithin {lawful : (operation : ω) → Except ε (ρ operation) → Prop} {allowed : ω → Prop} (keep : σ → Prop)
    (within : program.Within lawful allowed)
    (obeys : ∀ {thread operation answer now reply after},
      machine.exec thread operation answer now = some (reply, after) → lawful operation reply)
    (steps : ∀ operation, allowed operation → ∀ state, keep state → ∀ now, discipline.rely call thread state now →
      discipline.valid now → discipline.Step call thread operation (fun _ after => keep after) now)
    (finish : ∀ outcome state, keep state → post outcome state) (initial : keep state) :
    discipline.Safe call thread post program state := by
  induction program generalizing state with
  | done value => exact finish _ _ initial
  | raise error => exact finish _ _ initial
  | request operation next ih =>
    intro now relied valid answer reply after permitted answered
    obtain ⟨kept, still, reached⟩ :=
      steps operation within.1 state initial now relied valid answer reply after permitted answered
    exact ⟨kept, still, ih reply (within.2 reply (obeys answered)) reached⟩

theorem returns {good : α → Prop} {lawful : (operation : ω) → Except ε (ρ operation) → Prop}
    (obeys : ∀ {thread operation answer now reply after},
      machine.exec thread operation answer now = some (reply, after) → lawful operation reply)
    (values : program.Returns lawful good) (safe : discipline.Safe call thread post program state) :
    discipline.Safe call thread (fun outcome state => post outcome state ∧ ∀ value, outcome = .ok value → good value)
      program state := by
  induction program generalizing state with
  | done value =>
    refine ⟨safe, fun other same => ?_⟩
    cases same
    exact values
  | raise error => exact ⟨safe, fun other same => by cases same⟩
  | request operation next ih =>
    intro now relied valid answer reply after permitted answered
    obtain ⟨kept, still, rest⟩ := safe now relied valid answer reply after permitted answered
    exact ⟨kept, still, ih reply (values reply (obeys answered)) rest⟩

theorem relied {before after : σ} (safe : discipline.Safe call thread post program before)
    (unfinished : program.finished = false) (moved : discipline.rely call thread before after) :
    discipline.Safe call thread post program after := by
  cases program with
  | done value => cases unfinished
  | raise error => cases unfinished
  | request operation next => exact fun now relied => safe now (discipline.rely_trans moved relied)

theorem ended (safe : discipline.Safe call thread post program state) (finished : program.finished = true) :
    ∃ outcome, post outcome state := by
  cases program with
  | done value => exact ⟨_, safe⟩
  | raise error => exact ⟨_, safe⟩
  | request operation next => cases finished

end Safe

variable (discipline) in
/-- How a program ends when its steps meet a demand that depends on what is left of it. -/
def Leads (call : κ) (thread : Nat) (demand : Program ω ρ ε α → ι → σ → Prop) (post : Except ε α → σ → Prop) :
    Program ω ρ ε α → σ → Prop
  | .done value, state => post (.ok value) state
  | .raise error, state => post (.error error) state
  | .request operation next, state => ∀ now, discipline.rely call thread state now → discipline.valid now →
    ∀ answer reply after, demand (.request operation next) answer now →
      discipline.permits call thread operation answer now →
      machine.exec thread operation answer now = some (reply, after) → Leads call thread demand post (next reply) after

namespace Leads

variable {post : Except ε α → σ → Prop} {program : Program ω ρ ε α} {state : σ}

theorem bind {demand : Program ω ρ ε β → ι → σ → Prop} {next : α → Program ω ρ ε β} {post : Except ε β → σ → Prop}
    (leads : discipline.Leads call thread (fun left => demand (left >>= next)) (fun outcome state =>
      match outcome with
      | .ok value => discipline.Leads call thread demand post (next value) state
      | .error error => post (.error error) state) program state) :
    discipline.Leads call thread demand post (program >>= next) state := by
  induction program generalizing state with
  | done value => exact leads
  | raise error => exact leads
  | request operation rest ih =>
    intro now relied valid answer reply after meets permitted answered
    exact ih reply (leads now relied valid answer reply after meets permitted answered)

theorem attempt {demand : Program ω ρ ε (Except ε α) → ι → σ → Prop} {post : Except ε (Except ε α) → σ → Prop}
    (leads : discipline.Leads call thread (fun left => demand left.attempt)
      (fun outcome state => post (.ok outcome) state) program state) :
    discipline.Leads call thread demand post program.attempt state := by
  induction program generalizing state with
  | done value => exact leads
  | raise error => exact leads
  | request operation rest ih =>
    intro now relied valid answer reply after meets permitted answered
    exact ih reply (leads now relied valid answer reply after meets permitted answered)

theorem relied {demand : Program ω ρ ε α → ι → σ → Prop} {before after : σ}
    (leads : discipline.Leads call thread demand post program before) (unfinished : program.finished = false)
    (moved : discipline.rely call thread before after) : discipline.Leads call thread demand post program after := by
  cases program with
  | done value => cases unfinished
  | raise error => cases unfinished
  | request operation next => exact fun now relied => leads now (discipline.rely_trans moved relied)

end Leads

variable (discipline) in
/-- The state is valid, every thread is safe from here on, the calls under way
can be so together, and no owner under way means quiet. -/
structure Holds (config : Config ω ρ ε σ κ) : Prop where
  valid : discipline.valid config.state
  safe : ∀ thread call program, config.threads[thread]? = some ⟨call, program⟩ → program.finished = false →
    discipline.Safe call thread (discipline.ends call) program config.state
  together : ∀ (first second : Nat) (one two : Thread ω ρ ε κ), first ≠ second →
    config.threads[first]? = some one → config.threads[second]? = some two →
    one.program.finished = false → two.program.finished = false → discipline.together one.call two.call
  fresh : ∀ thread, config.threads.length ≤ thread → discipline.absent thread config.state
  quiet : config.only (fun call => !discipline.owner call) = true → discipline.quiet config.state

variable (discipline) in
/-- The events of a run are covered: steps are permitted, calls begin safely,
and what the environment does is relied on by every thread. -/
structure Covers (allowed : Config ω ρ ε σ κ → Event ι κ δ → Prop) : Prop where
  steps : ∀ {config thread answer call operation next},
    config.threads[thread]? = some ⟨call, .request operation next⟩ → allowed config (.step thread answer) →
    discipline.permits call thread operation answer config.state
  enters : ∀ {config call state program}, allowed config (.enter call) → discipline.valid config.state →
    (config.only (fun call => !discipline.owner call) = true → discipline.quiet config.state) →
    machine.enter call config.state = some (state, program) →
    discipline.valid state ∧ (∀ call thread, discipline.rely call thread config.state state) ∧
      (∀ thread, discipline.absent thread config.state → discipline.absent thread state) ∧
      (discipline.absent config.threads.length state →
        discipline.Safe call config.threads.length (discipline.ends call) program state) ∧
      (∀ other ∈ config.threads, other.program.finished = false →
        discipline.together call other.call ∧ discipline.together other.call call) ∧
      (discipline.quiet config.state → discipline.quiet state)
  crashes : ∀ {config}, allowed config .crash → discipline.valid config.state →
    discipline.valid (machine.crash config.state) ∧
      (∀ thread, discipline.absent thread (machine.crash config.state)) ∧
      discipline.quiet (machine.crash config.state)
  drifts : ∀ {config change}, allowed config (.drift change) → discipline.valid config.state →
    discipline.valid (machine.drift change config.state) ∧
      (∀ call thread, discipline.rely call thread config.state (machine.drift change config.state)) ∧
      (∀ thread, discipline.absent thread config.state → discipline.absent thread (machine.drift change config.state)) ∧
      (discipline.quiet config.state → discipline.quiet (machine.drift change config.state))

variable {allowed : Config ω ρ ε σ κ → Event ι κ δ → Prop}

theorem Holds.step {config : Config ω ρ ε σ κ} {answer : ι} {operation : ω}
    {next : Except ε (ρ operation) → Program ω ρ ε Unit} {reply : Except ε (ρ operation)} {state : σ}
    (holds : discipline.Holds config) (found : config.threads[thread]? = some ⟨call, .request operation next⟩)
    (permitted : discipline.permits call thread operation answer config.state)
    (answered : machine.exec thread operation answer config.state = some (reply, state)) :
    discipline.guarantee call thread config.state state ∧
      discipline.Holds ⟨state, config.threads.set thread ⟨call, next reply⟩⟩ := by
  obtain ⟨valid, safe, together, fresh, quiet⟩ := holds
  obtain ⟨kept, still, rest⟩ := safe thread call _ found rfl config.state (discipline.rely_refl _ _ _) valid
    answer reply state permitted answered
  have inside : thread < config.threads.length := (List.getElem?_eq_some_iff.mp found).1
  have before : ∀ (other : Nat) (entry : Thread ω ρ ε κ),
      (config.threads.set thread ⟨call, next reply⟩)[other]? = some entry →
      other = thread ∧ entry = ⟨call, next reply⟩ ∨ other ≠ thread ∧ config.threads[other]? = some entry := by
    intro other entry member
    rw [List.getElem?_set] at member
    grind
  refine ⟨kept, still, ?_, ?_, ?_, ?_⟩
  · intro other otherCall program member unfinished
    rcases before other _ member with ⟨rfl, same⟩ | ⟨different, member⟩
    · cases same
      exact rest
    · have beside := together thread other _ _ (Ne.symm different) found member rfl unfinished
      exact (safe other otherCall program member unfinished).relied unfinished
        (discipline.compatible valid kept (Ne.symm different) beside)
  · intro first second one two different firstMember secondMember firstAlive secondAlive
    rcases before first one firstMember with ⟨rfl, rfl⟩ | ⟨-, firstBefore⟩ <;>
      rcases before second two secondMember with ⟨rfl, rfl⟩ | ⟨-, secondBefore⟩
    · exact absurd rfl different
    · exact together first second ⟨call, .request operation next⟩ two different found secondBefore rfl secondAlive
    · exact together first second one ⟨call, .request operation next⟩ different firstBefore found firstAlive rfl
    · exact together first second one two different firstBefore secondBefore firstAlive secondAlive
  · intro other beyond
    rw [List.length_set] at beyond
    exact discipline.absent_kept kept (by omega) (fresh other beyond)
  · intro only
    have last := List.all_eq_true.mp only ⟨call, next reply⟩ (List.mem_set inside _)
    cases owned : discipline.owner call with
    | true =>
      obtain ⟨outcome, settled⟩ := rest.ended (by simpa [owned] using last)
      exact settled owned
    | false =>
      refine discipline.quiet_kept kept owned (quiet (List.all_eq_true.mpr fun entry member => ?_))
      obtain ⟨other, member⟩ := List.mem_iff_getElem?.mp member
      by_cases same : other = thread
      · subst same
        cases found.symm.trans member
        simp [owned]
      · refine List.all_eq_true.mp only entry (List.mem_of_getElem? (i := other) ?_)
        rw [List.getElem?_set_ne (Ne.symm same)]
        exact member

section
variable (covers : discipline.Covers allowed)
include covers

theorem Covers.next {event : Event ι κ δ} {before after : Config ω ρ ε σ κ}
    (permitted : allowed before event) (moved : machine.next event before = some after)
    (holds : discipline.Holds before) : discipline.Holds after := by
  cases machine.next_moves moved with
  | @enter call _ program entered =>
    obtain ⟨still, relied, absent, safe, beside, calm⟩ := covers.enters permitted holds.valid holds.quiet entered
    replace safe := safe (absent _ (holds.fresh _ (Nat.le_refl _)))
    have joined : ∀ (thread : Nat) (entry : Thread ω ρ ε κ),
        (before.threads ++ [⟨call, program⟩])[thread]? = some entry →
        before.threads[thread]? = some entry ∨ thread = before.threads.length ∧ entry = ⟨call, program⟩ := by
      intro thread entry member
      rw [List.getElem?_append] at member
      grind
    refine ⟨still, ?_, ?_, ?_, ?_⟩
    · intro thread otherCall other member unfinished
      rcases joined thread _ member with member | ⟨rfl, same⟩
      · exact (holds.safe thread otherCall other member unfinished).relied unfinished (relied otherCall thread)
      · cases same
        exact safe
    · intro first second one two different firstMember secondMember firstAlive secondAlive
      rcases joined first one firstMember with firstMember | ⟨rfl, rfl⟩ <;>
        rcases joined second two secondMember with secondMember | ⟨rfl, rfl⟩
      · exact holds.together first second one two different firstMember secondMember firstAlive secondAlive
      · exact (beside one (List.mem_of_getElem? firstMember) firstAlive).2
      · exact (beside two (List.mem_of_getElem? secondMember) secondAlive).1
      · exact absurd rfl different
    · intro thread beyond
      rw [List.length_append] at beyond
      exact absent thread (holds.fresh thread (by omega))
    · intro only
      simp only [Config.only, List.all_append, Bool.and_eq_true] at only
      exact calm (holds.quiet only.1)
  | step found answered => exact (holds.step found (covers.steps found permitted) answered).2
  | crash =>
    obtain ⟨still, absent, calm⟩ := covers.crashes permitted holds.valid
    exact ⟨still, by simp, by simp, fun thread _ => absent thread, fun _ => calm⟩
  | drift =>
    obtain ⟨still, relied, absent, calm⟩ := covers.drifts permitted holds.valid
    refine ⟨still, ?_, holds.together, fun thread beyond => absent thread (holds.fresh thread beyond),
      fun only => calm (holds.quiet only)⟩
    intro thread call program member unfinished
    exact (holds.safe thread call program member unfinished).relied unfinished (relied call thread)

theorem Covers.reaches {first last : Config ω ρ ε σ κ}
    (reaches : machine.Reaches allowed first last) (holds : discipline.Holds first) : discipline.Holds last :=
  reaches.invariant discipline.Holds (fun _ _ _ permitted moved => covers.next permitted moved) holds

theorem Covers.continues {event : Event ι κ δ} {demand : Program ω ρ ε Unit → ι → σ → Prop}
    {before after : Config ω ρ ε σ κ} {program : Program ω ρ ε Unit} {post : Except ε Unit → σ → Prop}
    (permitted : allowed before event) (running : event.running = true)
    (demanded : ∀ answer, event = .step thread answer → demand program answer before.state)
    (moved : machine.next event before = some after) (holds : discipline.Holds before)
    (found : before.threads[thread]? = some ⟨call, program⟩) (unfinished : program.finished = false)
    (leads : discipline.Leads call thread demand post program before.state) :
    ∃ rest, after.threads[thread]? = some ⟨call, rest⟩ ∧ discipline.Leads call thread demand post rest after.state := by
  cases machine.next_moves moved with
  | enter entered =>
    obtain ⟨-, relied, -⟩ := covers.enters permitted holds.valid holds.quiet entered
    refine ⟨program, ?_, leads.relied unfinished (relied call thread)⟩
    rw [List.getElem?_append_left (List.getElem?_eq_some_iff.mp found).1]
    exact found
  | @step other answer _ _ _ reply state member answered =>
    have allows := covers.steps member permitted
    by_cases same : other = thread
    · subst same
      cases found.symm.trans member
      have rest := leads before.state (discipline.rely_refl _ _ _) holds.valid answer reply state
        (demanded answer rfl) allows answered
      exact ⟨_, List.getElem?_set_self (List.getElem?_eq_some_iff.mp found).1, rest⟩
    · refine ⟨program, by rw [List.getElem?_set_ne same]; exact found, leads.relied unfinished ?_⟩
      exact discipline.compatible holds.valid (holds.step member allows answered).1 same
        (holds.together other thread _ _ same member found rfl unfinished)
  | crash => cases running
  | drift =>
    obtain ⟨-, relied, -⟩ := covers.drifts permitted holds.valid
    exact ⟨program, found, leads.relied unfinished (relied call thread)⟩

theorem Covers.settles {demand : Program ω ρ ε Unit → ι → σ → Prop} {first last : Config ω ρ ε σ κ}
    {program : Program ω ρ ε Unit} {post : Except ε Unit → σ → Prop}
    (run : machine.Reaches (fun now event => allowed now event ∧ event.running = true ∧ now.awaits thread = true ∧
      ∀ answer program, event = .step thread answer → now.threads[thread]? = some ⟨call, program⟩ →
        demand program answer now.state) first last)
    (holds : discipline.Holds first) (found : first.threads[thread]? = some ⟨call, program⟩)
    (leads : discipline.Leads call thread demand post program first.state) :
    ∃ rest, last.threads[thread]? = some ⟨call, rest⟩ ∧ discipline.Leads call thread demand post rest last.state := by
  refine (run.invariant (fun now => discipline.Holds now ∧ ∃ rest, now.threads[thread]? = some ⟨call, rest⟩ ∧
    discipline.Leads call thread demand post rest now.state) ?_ ⟨holds, program, found, leads⟩).2
  rintro before event after ⟨permitted, running, awaits, demanded⟩ moved ⟨holds, rest, found, leads⟩
  have unfinished : rest.finished = false := by simpa [Config.awaits, found] using awaits
  exact ⟨covers.next permitted moved holds, covers.continues permitted running
    (fun answer same => demanded answer rest same found) moved holds found unfinished leads⟩

end

end Discipline
end Effects
