import Mathlib.Data.List.Forall2
import Rawfile.Effects.Machine

/-! Control points. A protocol says which requests a thread may issue at a stage
and which stage a reply leads to. A machine whose programs follow a protocol is
simulated by the machine that keeps one stage for each thread, so invariants can
speak about where every thread stands. -/

namespace Effects

variable {ω : Type} {ρ : ω → Type} {ε ι σ κ δ τ α β : Type}

structure Protocol (ω : Type) (ρ : ω → Type) (ε τ : Type) where
  lawful : (operation : ω) → Except ε (ρ operation) → Prop
  allows : τ → ω → Prop
  next : τ → (operation : ω) → Except ε (ρ operation) → τ

namespace Protocol

variable (protocol : Protocol ω ρ ε τ)

/-- From the stage on, the program issues what its stage allows, and it ends
with an outcome and at a stage that satisfy `leaves`. -/
def Follows (leaves : Except ε α → τ → Prop) : Program ω ρ ε α → τ → Prop
  | .done value, stage => leaves (.ok value) stage
  | .raise error, stage => leaves (.error error) stage
  | .request operation next, stage => protocol.allows stage operation ∧
    ∀ reply, protocol.lawful operation reply → Follows leaves (next reply) (protocol.next stage operation reply)

variable {protocol}

namespace Follows

variable {program : Program ω ρ ε α} {next : α → Program ω ρ ε β} {stage : τ} {leaves : Except ε α → τ → Prop}

theorem weaken {leaves wider : Except ε α → τ → Prop} (follows : protocol.Follows leaves program stage)
    (implies : ∀ outcome stage, leaves outcome stage → wider outcome stage) : protocol.Follows wider program stage := by
  induction program generalizing stage with
  | done value => exact implies _ _ follows
  | raise error => exact implies _ _ follows
  | request operation next ih => exact ⟨follows.1, fun reply obeys => ih reply (follows.2 reply obeys)⟩

section
variable {leaves : Except ε β → τ → Prop}

theorem bind (follows : protocol.Follows (fun outcome stage =>
      match outcome with
      | .ok value => protocol.Follows leaves (next value) stage
      | .error error => leaves (.error error) stage) program stage) :
    protocol.Follows leaves (program >>= next) stage := by
  induction program generalizing stage with
  | done value => exact follows
  | raise error => exact follows
  | request operation rest ih => exact ⟨follows.1, fun reply obeys => ih reply (follows.2 reply obeys)⟩

/-- Sequencing through what is known of the value and the stage the first part
leaves. -/
theorem andThen {good : Except ε α → τ → Prop} (first : protocol.Follows good program stage)
    (rest : ∀ value stage, good (.ok value) stage → protocol.Follows leaves (next value) stage)
    (failing : ∀ error stage, good (.error error) stage → leaves (.error error) stage) :
    protocol.Follows leaves (program >>= next) stage := by
  refine bind (first.weaken ?_)
  intro outcome stage known
  cases outcome with
  | ok value => exact rest value stage known
  | error error => exact failing error stage known

theorem through (good : Except ε α → τ → Prop) (first : protocol.Follows good program stage)
    (rest : ∀ value stage, good (.ok value) stage → protocol.Follows leaves (next value) stage)
    (failing : ∀ error stage, good (.error error) stage → leaves (.error error) stage) :
    protocol.Follows leaves (program >>= next) stage :=
  first.andThen rest failing

end

theorem perform {operation : ω} {leaves : Except ε (ρ operation) → τ → Prop} {stage : τ}
    (allowed : protocol.allows stage operation)
    (ends : ∀ reply, protocol.lawful operation reply → leaves reply (protocol.next stage operation reply)) :
    protocol.Follows leaves (Program.perform operation) stage := by
  refine ⟨allowed, fun reply obeys => ?_⟩
  cases reply <;> exact ends _ obeys

theorem performThen {operation : ω} {leaves : Except ε β → τ → Prop} {next : ρ operation → Program ω ρ ε β}
    (allowed : protocol.allows stage operation)
    (answers : ∀ value, protocol.lawful operation (.ok value) →
      protocol.Follows leaves (next value) (protocol.next stage operation (.ok value)))
    (failing : ∀ error, leaves (.error error) (protocol.next stage operation (.error error))) :
    protocol.Follows leaves (Program.perform operation >>= next) stage := by
  refine ⟨allowed, fun reply obeys => ?_⟩
  cases reply with
  | ok value => exact answers value obeys
  | error error => exact failing error

theorem attempt {leaves : Except ε (Except ε α) → τ → Prop}
    (follows : protocol.Follows (fun outcome stage => leaves (.ok outcome) stage) program stage) :
    protocol.Follows leaves program.attempt stage := by
  induction program generalizing stage with
  | done value => exact follows
  | raise error => exact follows
  | request operation rest ih => exact ⟨follows.1, fun reply obeys => ih reply (follows.2 reply obeys)⟩

theorem tryExcept {handler : ε → Program ω ρ ε α}
    (follows : protocol.Follows (fun outcome stage =>
      match outcome with
      | .ok value => leaves (.ok value) stage
      | .error error => protocol.Follows leaves (handler error) stage) program stage) :
    protocol.Follows leaves (program.tryExcept handler) stage := by
  refine bind (attempt (follows.weaken ?_))
  intro outcome stage reached
  cases outcome <;> exact reached

theorem forEach {leaves : Except ε Unit → τ → Prop} {items : List β} {body : β → Program ω ρ ε Unit}
    (left : List β → τ → Prop)
    (each : ∀ item rest stage, left (item :: rest) stage → protocol.Follows (fun outcome stage =>
      match outcome with
      | .ok _ => left rest stage
      | .error error => leaves (.error error) stage) (body item) stage)
    (finish : ∀ stage, left [] stage → leaves (.ok ()) stage) (initial : left items stage) :
    protocol.Follows leaves (Program.forEach items body) stage := by
  induction items generalizing stage with
  | nil => exact finish stage initial
  | cons item rest ih =>
    refine bind ((each item rest stage initial).weaken ?_)
    intro outcome stage reached
    cases outcome with
    | ok value => exact ih reached
    | error error => exact reached

/-- A program whose every request keeps what is known of the stage. -/
theorem keeping {allowed : ω → Prop} (keep : τ → Prop) (within : program.Within protocol.lawful allowed)
    (stays : ∀ operation stage, allowed operation → keep stage → protocol.allows stage operation ∧
      ∀ reply, protocol.lawful operation reply → keep (protocol.next stage operation reply))
    (ends : ∀ outcome stage, keep stage → leaves outcome stage) (kept : keep stage) :
    protocol.Follows leaves program stage := by
  induction program generalizing stage with
  | done value => exact ends _ _ kept
  | raise error => exact ends _ _ kept
  | request operation next ih =>
    obtain ⟨permitted, same⟩ := stays operation stage within.1 kept
    exact ⟨permitted, fun reply obeys => ih reply (within.2 reply obeys) (same reply obeys)⟩

theorem stay {allowed : ω → Prop} (within : program.Within protocol.lawful allowed)
    (stays : ∀ operation, allowed operation → protocol.allows stage operation ∧
      ∀ reply, protocol.lawful operation reply → protocol.next stage operation reply = stage)
    (ends : ∀ outcome, leaves outcome stage) : protocol.Follows leaves program stage := by
  refine keeping (fun other => other = stage) within ?_ ?_ rfl
  · rintro operation _ issued rfl
    exact stays operation issued
  · rintro outcome _ rfl
    exact ends outcome

theorem waiting (follows : protocol.Follows leaves program stage) (unended : ∀ outcome, ¬ leaves outcome stage) :
    ∃ operation next, program = .request operation next ∧ protocol.allows stage operation := by
  cases program with
  | done value => exact absurd follows (unended _)
  | raise error => exact absurd follows (unended _)
  | request operation next => exact ⟨operation, next, rfl, follows.1⟩

end Follows

def Tracks (protocol : Protocol ω ρ ε τ) (ended : τ → Prop) (threads : List (Thread ω ρ ε κ))
    (points : List (κ × τ)) : Prop :=
  List.Forall₂ (fun thread point => thread.call = point.1 ∧
    protocol.Follows (fun _ stage => ended stage) thread.program point.2) threads points

namespace Tracks

variable {ended : τ → Prop} {threads : List (Thread ω ρ ε κ)} {points : List (κ × τ)}

section
variable (tracks : protocol.Tracks ended threads points)
include tracks

theorem length : threads.length = points.length :=
  List.Forall₂.length_eq tracks

theorem found {thread : Nat} {call : κ} {program : Program ω ρ ε Unit}
    (member : threads[thread]? = some ⟨call, program⟩) :
    ∃ stage, points[thread]? = some (call, stage) ∧ protocol.Follows (fun _ stage => ended stage) program stage := by
  obtain ⟨inside, same⟩ := List.getElem?_eq_some_iff.mp member
  have beyond : thread < points.length := by rw [← tracks.length]; exact inside
  have follows := List.Forall₂.get tracks inside beyond
  simp only [List.get_eq_getElem, same] at follows
  refine ⟨points[thread].2, ?_, follows.2⟩
  rw [List.getElem?_eq_getElem beyond]
  exact congrArg some (Prod.ext follows.1.symm rfl)

theorem stands {thread : Nat} {call : κ} {stage : τ} (member : points[thread]? = some (call, stage)) :
    ∃ program, threads[thread]? = some ⟨call, program⟩ ∧ protocol.Follows (fun _ stage => ended stage) program stage := by
  obtain ⟨beyond, same⟩ := List.getElem?_eq_some_iff.mp member
  have inside : thread < threads.length := by rw [tracks.length]; exact beyond
  have follows := List.Forall₂.get tracks inside beyond
  simp only [List.get_eq_getElem, same] at follows
  refine ⟨threads[thread].program, ?_, follows.2⟩
  rw [List.getElem?_eq_getElem inside]
  obtain ⟨sameCall, _⟩ := follows
  cases shape : threads[thread] with
  | mk other program => rw [shape] at sameCall; cases sameCall; rfl

/-- A stage at which a program may not end belongs to a thread that waits with a request. -/
theorem waiting {call : κ} {stage : τ} (member : (call, stage) ∈ points) (unended : ¬ ended stage) :
    ∃ operation next, ⟨call, .request operation next⟩ ∈ threads ∧ protocol.allows stage operation := by
  obtain ⟨thread, standing⟩ := List.mem_iff_getElem?.mp member
  obtain ⟨program, found, follows⟩ := tracks.stands standing
  obtain ⟨operation, next, rfl, allowed⟩ := follows.waiting fun _ => unended
  exact ⟨operation, next, List.mem_of_getElem? found, allowed⟩

/-- A thread that has finished may stand at any stage where a program may end. -/
theorem settle {rest : τ} (ends : ended rest) :
    ∃ others, protocol.Tracks ended threads others ∧ ∀ point ∈ others, point.2 = rest ∨
      point ∈ points ∧ ∃ thread ∈ threads, thread.call = point.1 ∧ thread.program.finished = false := by
  induction tracks with
  | nil => exact ⟨[], .nil, by simp⟩
  | @cons thread point threads points head tail ih =>
    obtain ⟨others, tracks, stands⟩ := ih
    have later : ∀ other ∈ others, other.2 = rest ∨ other ∈ point :: points ∧
        ∃ working ∈ thread :: threads, working.call = other.1 ∧ working.program.finished = false := by
      intro other member
      rcases stands other member with same | ⟨among, working, found, unfinished⟩
      · exact .inl same
      · exact .inr ⟨List.mem_cons_of_mem _ among, working, List.mem_cons_of_mem _ found, unfinished⟩
    cases ended : thread.program.finished with
    | false =>
      refine ⟨point :: others, .cons head tracks, fun other member => ?_⟩
      rcases List.mem_cons.mp member with rfl | member
      · exact .inr ⟨List.mem_cons_self .., thread, List.mem_cons_self .., head.1, ended⟩
      · exact later other member
    | true =>
      refine ⟨(point.1, rest) :: others, .cons ⟨head.1, ?_⟩ tracks, fun other member => ?_⟩
      · cases program : thread.program with
        | request operation next => rw [program] at ended; cases ended
        | _ => exact ends
      · rcases List.mem_cons.mp member with rfl | member
        · exact .inl rfl
        · exact later other member

theorem set {thread : Nat} {call : κ} {program : Program ω ρ ε Unit}
    {stage : τ} (follows : protocol.Follows (fun _ stage => ended stage) program stage) :
    protocol.Tracks ended (threads.set thread ⟨call, program⟩) (points.set thread (call, stage)) := by
  induction tracks generalizing thread with
  | nil => exact .nil
  | cons head tail ih =>
    cases thread with
    | zero => exact .cons ⟨rfl, follows⟩ tail
    | succ thread => exact .cons head ih

theorem append {call : κ} {program : Program ω ρ ε Unit} {stage : τ}
    (follows : protocol.Follows (fun _ stage => ended stage) program stage) :
    protocol.Tracks ended (threads ++ [⟨call, program⟩]) (points ++ [(call, stage)]) :=
  List.rel_append tracks (.cons ⟨rfl, follows⟩ .nil)

end

end Tracks
end Protocol

/-- A machine with a protocol for the programs of its calls. -/
structure Tracking (machine : Machine ω ρ ε ι σ κ δ) (τ : Type) where
  protocol : Protocol ω ρ ε τ
  initial : κ → τ
  ended : τ → Prop
  obeys : ∀ {thread operation answer now reply after},
    machine.exec thread operation answer now = some (reply, after) → protocol.lawful operation reply
  follows : ∀ {call state after program}, machine.enter call state = some (after, program) →
    protocol.Follows (fun _ stage => ended stage) program (initial call)

namespace Tracking

variable {machine : Machine ω ρ ε ι σ κ δ} (tracking : Tracking machine τ)

/-- The configuration stands at the points, and they satisfy the invariant. -/
def Holds (invariant : σ → List (κ × τ) → Prop) (config : Config ω ρ ε σ κ) : Prop :=
  ∃ points, tracking.protocol.Tracks tracking.ended config.threads points ∧ invariant config.state points

/-- Every event of a run keeps the invariant of states and points. -/
structure Keeps (allowed : Config ω ρ ε σ κ → Event ι κ δ → Prop) (invariant : σ → List (κ × τ) → Prop) : Prop where
  enters : ∀ {config points call state program}, allowed config (.enter call) →
    tracking.protocol.Tracks tracking.ended config.threads points → invariant config.state points →
    machine.enter call config.state = some (state, program) →
    invariant state (points ++ [(call, tracking.initial call)])
  steps : ∀ {config points thread answer call operation next stage reply state},
    allowed config (.step thread answer) → tracking.protocol.Tracks tracking.ended config.threads points →
    config.threads[thread]? = some ⟨call, .request operation next⟩ → points[thread]? = some (call, stage) →
    tracking.protocol.allows stage operation → machine.exec thread operation answer config.state = some (reply, state) →
    invariant config.state points → invariant state (points.set thread (call, tracking.protocol.next stage operation reply))
  crashes : ∀ {config points}, allowed config .crash →
    tracking.protocol.Tracks tracking.ended config.threads points → invariant config.state points →
    invariant (machine.crash config.state) []
  drifts : ∀ {config points change}, allowed config (.drift change) → invariant config.state points →
    invariant (machine.drift change config.state) points

variable {tracking} {allowed : Config ω ρ ε σ κ → Event ι κ δ → Prop} {invariant : σ → List (κ × τ) → Prop}

theorem Keeps.next (keeps : tracking.Keeps allowed invariant) {event : Event ι κ δ} {before after : Config ω ρ ε σ κ}
    (permitted : allowed before event) (moved : machine.next event before = some after)
    (holds : tracking.Holds invariant before) : tracking.Holds invariant after := by
  obtain ⟨points, tracks, known⟩ := holds
  cases machine.next_moves moved with
  | enter entered => exact ⟨_, tracks.append (tracking.follows entered), keeps.enters permitted tracks known entered⟩
  | @step _ _ _ _ _ reply _ found answered =>
    obtain ⟨stage, standing, follows⟩ := tracks.found found
    exact ⟨_, tracks.set (follows.2 reply (tracking.obeys answered)),
      keeps.steps permitted tracks found standing follows.1 answered known⟩
  | crash => exact ⟨[], .nil, keeps.crashes permitted tracks known⟩
  | drift => exact ⟨points, tracks, keeps.drifts permitted known⟩

theorem Keeps.reaches (keeps : tracking.Keeps allowed invariant) {first last : Config ω ρ ε σ κ}
    (reaches : machine.Reaches allowed first last) (holds : tracking.Holds invariant first) :
    tracking.Holds invariant last :=
  reaches.invariant (tracking.Holds invariant) (fun _ _ _ permitted moved => keeps.next permitted moved) holds

theorem holds_idle {state : σ} (known : invariant state []) : tracking.Holds invariant ⟨state, []⟩ :=
  ⟨[], .nil, known⟩

end Tracking
end Effects
