import Rawfile.Proofs.Calm
import Rawfile.Proofs.Footprint

/-! A repeated `CreateVolume`. The request is checked against the capacity of
the pool before anything is known of the volume, so whether a repetition is
answered depends on what the volume itself has left free. -/

namespace Rawfile
open Effects

namespace Bd2Fs

def enlarged (request : CreateVolumeRequest) : CreateVolumeRequest :=
  { request with requiredBytes := max request.requiredBytes minimumBytes }

end Bd2Fs

namespace CreateVolumeRequest

def pool (config : DriverConfig) (request : CreateVolumeRequest) : PoolName :=
  poolOrDefault config ((param request.parameters "storagepool").getD config.defaultPool)

def space (request : CreateVolumeRequest) : Nat := RawFileController.requiredSpace (Bd2Fs.enlarged request)

def timeout : Err := .aborted .deadlineExceeded "Volume Still Creating..."

def admitted (request : CreateVolumeRequest) (pool : PoolName) (response : CreateVolumeResponse) (capacity : Nat) :
    Driver CreateVolumeResponse :=
  if capacity < request.space then
    abort .resourceExhausted "Insufficient disk space (Cloning a volume requires at least 3× the volume size)."
  else do
    let isReady ← RawFileController.readyOrSubmit (RawFileController.createVolumeArgs (Bd2Fs.enlarged request) pool)
    let turns ← Driver.ask .polls
    if !(← RawFileController.awaitReady request.name turns isReady) then abort .deadlineExceeded "Volume Still Creating..."
    else pure response

theorem refused_or_asks (config : DriverConfig) (request : CreateVolumeRequest) :
    (∃ error, error ≠ timeout ∧ Bd2Fs.createVolume config request = .raise error) ∨
      ∃ pool response, Bd2Fs.createVolume config request =
        (Driver.ask (.capacity (request.pool config)) >>= request.admitted pool response) := by
  have refused : ∀ {code details}, code ≠ .deadlineExceeded → (Err.aborted code details) ≠ timeout := by
    rintro code details other same
    cases same
    exact other rfl
  unfold Bd2Fs.createVolume
  split
  · split
    · exact .inl ⟨_, refused (by simp), rfl⟩
    · unfold checkAccessType
      split
      · rw [Program.pure_bind]
        unfold RawFileController.createVolume RawFileController.storagePool
        dsimp only
        split
        · rw [Program.pure_bind]
          unfold RawFileController.nodeName
          split
          · exact .inl ⟨_, refused (by simp), rfl⟩
          · rw [Program.pure_bind]
            split
            · exact .inl ⟨_, refused (by simp), rfl⟩
            · unfold getCapacity
              split
              · exact .inr ⟨_, _, rfl⟩
              · exact .inl ⟨_, by simp [timeout], rfl⟩
        · exact .inl ⟨_, refused (by simp), rfl⟩
      · exact .inl ⟨_, by simp [timeout], rfl⟩
  · exact .inl ⟨_, refused (by simp), rfl⟩

variable {config : DriverConfig} {request : CreateVolumeRequest} {pool : PoolName} {response : CreateVolumeResponse}
  {capacity : PoolName → Nat} {now : Clocked}

section
variable {data : Meta} (found : Files.metadata now.node.files request.name = some data) (ready : data.isReady = true)
include found ready

private theorem awaited_ready (turns : Nat) :
    (calm capacity).Yields (.ok true) (RawFileController.awaitReady request.name turns true) now := by
  cases turns with
  | zero => exact .pure true now
  | succ turns =>
    refine .bind (Calm.metadataOr found) ?_
    simp only [ready, if_true]
    exact .pure true now

private theorem not_submitted : (calm capacity).Yields (.ok true)
      (RawFileController.readyOrSubmit (RawFileController.createVolumeArgs (Bd2Fs.enlarged request) pool)) now := by
  refine .bind (Calm.metadata found).attempt ?_
  simp only [ready]
  exact .pure true now

end

/-- Once there is room for it, the repeated request finds its volume ready and changes nothing. -/
theorem admitted_again (room : request.space ≤ capacity (request.pool config))
    (ready : now.node.isReady request.name = true) :
    (calm capacity).Ends (fun outcome after => outcome = .ok response ∧ after.node = now.node)
      (Driver.ask (.capacity (request.pool config)) >>= request.admitted pool response) now := by
  obtain ⟨data, found, readable⟩ : ∃ data, Files.metadata now.node.files request.name = some data ∧
      data.isReady = true := by
    unfold Node.isReady at ready
    cases found : Files.metadata now.node.files request.name with
    | none => rw [found] at ready; cases ready
    | some data => rw [found] at ready; exact ⟨data, rfl, ready⟩
  refine (Calm.askCapacity _).andThen trivial ?_
  unfold admitted
  rw [if_neg (Nat.not_lt.mpr room)]
  refine (not_submitted found readable).andThen trivial ⟨trivial, fun answer _ => ?_⟩
  exact (awaited_ready found readable _).andThen trivial (.pure trivial ⟨rfl, rfl⟩)

private theorem admitted_full (full : capacity (request.pool config) < request.space) :
    (calm capacity).Ends (fun outcome _ => ∀ response, outcome ≠ .ok response)
      (Driver.ask (.capacity (request.pool config)) >>= request.admitted pool response) now := by
  refine (Calm.askCapacity _).andThen trivial ?_
  unfold admitted
  rw [if_pos full]
  exact .raise trivial (by simp)

/-- Every success of the request is the same answer. -/
private theorem admitted_answers (found : Nat) : (request.admitted pool response found).Returns (fun _ _ => True)
    (fun other => other = response) := by
  unfold admitted
  split
  · trivial
  · refine .bind (.any _) fun isReady _ => .bind (.any _) fun turns _ => .bind (.any _) fun ready _ => ?_
    split
    · trivial
    · rfl

end CreateVolumeRequest

def NodeConfig.accepted (now : NodeConfig) (request : CreateVolumeRequest) : Bool :=
  now.threads.any fun thread => thread.call = .createVolume request &&
    match thread.program with
    | .done _ => true
    | .raise error => error = CreateVolumeRequest.timeout
    | .request _ _ => false

/-- A request that is refused at once never gets any further. -/
theorem refused_stays {config : DriverConfig} {request : CreateVolumeRequest} {error : Err} {now : NodeConfig}
    (refused : Bd2Fs.createVolume config request = .raise error)
    (reached : (nodePlugin config).Reaches (fun _ _ => True) NodeConfig.initial now) :
    ∀ thread ∈ now.threads, thread.call = .createVolume request → thread.program = .raise error := by
  refine reached.invariant (fun now => ∀ thread ∈ now.threads, thread.call = .createVolume request →
    thread.program = .raise error) ?_ (by simp [NodeConfig.initial])
  intro before event after _ moved known
  cases (nodePlugin config).next_moves moved with
  | @enter call _ _ entered =>
    obtain ⟨-, rfl⟩ := nodePlugin_enter entered
    intro thread member asked
    rcases List.mem_append.mp member with member | last
    · exact known thread member asked
    · cases List.mem_singleton.mp last
      have begun : call = .createVolume request := asked
      subst begun
      show discard (Bd2Fs.createVolume config request) = _
      rw [refused]
      rfl
  | step found =>
    intro other member asked
    rcases List.mem_or_eq_of_mem_set member with member | rfl
    · exact known other member asked
    · cases known _ (List.mem_of_getElem? found) asked
  | crash => simp
  | drift => exact known

/-- A request that once was accepted is answered again, in the same way and
without any change, exactly when its pool still has room for the volume once more. -/
theorem create_volume_repeats (config : DriverConfig) (request : CreateVolumeRequest) {now : NodeConfig} (time : Nat)
    (reached : (nodePlugin config).Reaches (fun _ _ => True) NodeConfig.initial now)
    (accepted : now.accepted request = true) (ready : now.state.isReady request.name = true) :
    ∃ response, (Bd2Fs.createVolume config request).Returns (fun _ _ => True) (fun other => other = response) ∧
      ∀ capacity : PoolName → Nat, (calm capacity).Ends
        (fun outcome after => outcome = .ok response ∧ after.node = now.state)
        (Bd2Fs.createVolume config request) ⟨now.state, time⟩ ↔ request.space ≤ capacity (request.pool config) := by
  rcases request.refused_or_asks config with ⟨error, other, refused⟩ | ⟨pool, response, asks⟩
  · obtain ⟨thread, member, ended⟩ := List.any_eq_true.mp accepted
    obtain ⟨asked, ended⟩ := Bool.and_eq_true_iff.mp ended
    rw [refused_stays refused reached thread member (of_decide_eq_true asked)] at ended
    exact absurd (of_decide_eq_true ended) other
  · refine ⟨response, ?_, fun capacity => ⟨fun repeats => ?_, fun room => ?_⟩⟩
    · rw [asks]
      exact .bind (.any _) fun found _ => CreateVolumeRequest.admitted_answers found
    · by_contra full
      rw [asks] at repeats
      obtain ⟨outcome, after, ⟨success, _⟩, failure⟩ :=
        (repeats.both (CreateVolumeRequest.admitted_full (Nat.lt_of_not_le full))).satisfiable
      exact failure response success
    · rw [asks]
      exact CreateVolumeRequest.admitted_again room ready

namespace Idempotence

/-- A request for a thin volume is repeated. -/
theorem create_volume_repeats_thin : ∃ now : NodeConfig,
    (now.accepted thinRequest && now.state.isReady "v") = true ∧
      ∃ response, ∀ capacity : PoolName → Nat, (calm capacity).Ends
        (fun outcome after => outcome = .ok response ∧ after.node = now.state)
        (Bd2Fs.createVolume singlePool thinRequest) ⟨now.state, 0⟩ ↔
          thinRequest.space ≤ capacity (thinRequest.pool singlePool) := by
  obtain ⟨now, reached, tested⟩ := @Machine.tested _ _ _ _ _ _ _ (nodePlugin singlePool) (fun _ _ => true)
    (fun now => NodeConfig.accepted now thinRequest && now.state.isReady "v")
    (thinCreated ++ moves 2 6 {} ++ moves 1 2 { amount := 1 }) NodeConfig.initial (by decide +kernel)
  obtain ⟨accepted, ready⟩ := Bool.and_eq_true_iff.mp tested
  obtain ⟨response, -, repeats⟩ := create_volume_repeats singlePool thinRequest 0 (reached.mono fun _ _ _ => trivial)
    accepted ready
  exact ⟨now, tested, response, repeats⟩

def thickRequest : CreateVolumeRequest := { thinRequest with parameters := [] }

def thickCreation : TaskCall := .createVolume (RawFileController.createVolumeArgs thickRequest "default")

def thickCreated : List NodeEvent :=
  [.enter .start] ++ moves 0 2 {} ++ [.enter (.createVolume thickRequest)] ++ moves 1 9 { amount := 16777216 } ++
    [.enter (.future 0 thickCreation)] ++ moves 2 22 {} ++ moves 1 2 { amount := 1 }

/-- The same request is refused afterwards, because the volume it asks for has filled the pool. -/
theorem repeated_request_refused : ∃ now : NodeConfig,
    (nodePlugin singlePool).Reaches (fun _ _ => True) NodeConfig.initial now ∧
    (now.returned (.createVolume thickRequest) && now.state.isReady "v") = true ∧
    (calm fun _ => 0).Ends (fun outcome _ => ∀ response, outcome ≠ .ok response)
      (Bd2Fs.createVolume singlePool thickRequest) ⟨now.state, 0⟩ := by
  obtain ⟨now, reached, tested⟩ := @Machine.tested _ _ _ _ _ _ _ (nodePlugin singlePool) (fun _ _ => true)
    (fun now => NodeConfig.returned now (.createVolume thickRequest) && now.state.isReady "v") thickCreated
    NodeConfig.initial (by decide +kernel)
  refine ⟨now, reached.mono fun _ _ _ => trivial, tested, ?_⟩
  rcases thickRequest.refused_or_asks singlePool with ⟨error, _, refused⟩ | ⟨pool, response, asks⟩
  · rw [refused]
    exact .raise trivial (by simp)
  · rw [asks]
    exact CreateVolumeRequest.admitted_full (by decide +kernel)

end Idempotence
end Rawfile
