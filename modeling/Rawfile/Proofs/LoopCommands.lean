import Rawfile.LoopCommands

/-! What `attach_loop` leaves. A device that an attempt attaches is only looked
for by the attempts after it, so the last one may attach a device and the call
still fail. -/

namespace Rawfile.LoopCommands
open Effects

section
variable {file : ImgFile} {maxAttempts : Nat} {attempt : Attempt} {rest : List Attempt} {current : Option Attempt}
  {last : Option String} {device : Device}

def notices (attempt : Attempt) : Bool := attempt.listed && attempt.writable

def attaching (attempt : Attempt) : Option Device :=
  if attempt.listed && attempt.nextLoop then attempt.attached else none

def noticed : List Attempt → Bool
  | [] => true
  | attempt :: rest => if (attaching attempt).isSome then rest.any notices else noticed rest

private theorem attached_attempt (file : ImgFile) (attempt : Attempt) (device : Device) : ∃ outcome,
    (attachOnce file).attempt.eval exec ⟨attempt :: rest, current, [device]⟩ =
      (.ok outcome, ⟨rest, some attempt, [device]⟩) ∧
    (notices attempt = true → outcome = .ok (some device)) ∧
    (notices attempt = false → ∃ error, outcome = .error error) := by
  unfold notices
  cases listed : attempt.listed <;> cases writable : attempt.writable <;>
    simp [attachOnce, attachedLoops, Driver.device, Program.perform, Program.attempt, Program.eval, exec, answer,
      listed, writable, Program.ofExcept]
  rfl

/-- An attempt on a file without a device never returns one, whether it attaches one or not. -/
theorem free_attempt (file : ImgFile) (attempt : Attempt) : ∃ outcome,
    (attachOnce file).attempt.eval exec ⟨attempt :: rest, current, []⟩ =
      (.ok outcome, ⟨rest, some attempt, (attaching attempt).toList⟩) ∧ ∀ device, outcome ≠ .ok (some device) := by
  unfold attaching
  cases listed : attempt.listed <;> cases next : attempt.nextLoop <;> cases succeeds : attempt.succeeds <;>
    simp [attachOnce, attachedLoops, Driver.device, Program.perform, Program.attempt, Program.eval, exec, answer,
      listed, next, succeeds, Program.ofExcept]
  refine ⟨.ok none, rfl, by simp⟩

/-- An attempt without a device leaves the turn to the next one. -/
theorem attachLoop_next {before after : LoopCommands} {outcome : Except Err (Option Device)}
    (attempted : (attachOnce file).attempt.eval exec before = (.ok outcome, after))
    (nothing : ∀ device, outcome ≠ .ok (some device)) :
    ∃ later, (attachLoop file maxAttempts (rest.length + 1) last).eval exec before =
      (attachLoop file maxAttempts rest.length later).eval exec after := by
  rw [attachLoop, Program.eval_bind attempted]
  cases outcome with
  | error error => exact ⟨some error.message, rfl⟩
  | ok found =>
    cases found with
    | none => exact ⟨last, rfl⟩
    | some device => exact absurd rfl (nothing device)

/-- The attempts on a file with a device: it stays, and is returned if and only if one of them notices it. -/
theorem attached_attempts (attempts : List Attempt) : ∃ outcome after,
    (attachLoop file maxAttempts attempts.length last).eval exec ⟨attempts, current, [device]⟩ = (outcome, after) ∧
    after.devices = [device] ∧ (attempts.any notices = true → outcome = .ok device) ∧
    (attempts.any notices = false → ∃ last, outcome = .error (.loopDeviceAttach file.volume maxAttempts last)) := by
  induction attempts generalizing current last with
  | nil => exact ⟨_, _, rfl, rfl, by rintro ⟨⟩, fun _ => ⟨last, rfl⟩⟩
  | cons attempt rest ih =>
    obtain ⟨outcome, attempted, found, failed⟩ := @attached_attempt rest current file attempt device
    cases seen : notices attempt with
    | true =>
      obtain rfl := found seen
      refine ⟨.ok device, ⟨rest, some attempt, [device]⟩, ?_, rfl, fun _ => rfl, by simp [seen]⟩
      rw [List.length_cons, attachLoop, Program.eval_bind attempted]
      rfl
    | false =>
      obtain ⟨error, rfl⟩ := failed seen
      obtain ⟨later, next⟩ := @attachLoop_next file maxAttempts rest last _ _ _ attempted (by simp)
      rw [List.length_cons, next, List.any_cons, seen, Bool.false_or]
      exact ih

/-- What is returned is the only device of the file, and a call that fails leaves none. -/
def Clean (file : ImgFile) (maxAttempts : Nat) (result : Except Err Device × LoopCommands) : Prop :=
  (∀ device, result.1 = .ok device → result.2.devices = [device]) ∧
    ∀ last, result.1 = .error (.loopDeviceAttach file.volume maxAttempts last) → result.2.devices = []

private theorem free_attempts (attempts : List Attempt) :
    Clean file maxAttempts ((attachLoop file maxAttempts attempts.length last).eval exec ⟨attempts, current, []⟩) ↔
      noticed attempts = true := by
  induction attempts generalizing current last with
  | nil => exact ⟨fun _ => rfl, fun _ => ⟨by rintro device ⟨⟩, fun _ _ => rfl⟩⟩
  | cons attempt rest ih =>
    obtain ⟨outcome, attempted, nothing⟩ := @free_attempt rest current file attempt
    obtain ⟨later, next⟩ := @attachLoop_next file maxAttempts rest last _ _ _ attempted nothing
    rw [List.length_cons, next, noticed]
    cases attaches : attaching attempt with
    | none => exact ih
    | some device =>
      obtain ⟨outcome, after, ended, kept, found, lost⟩ :=
        @attached_attempts file maxAttempts (some attempt) later device rest
      simp only [Option.toList_some, ended, Option.isSome_some, if_true]
      cases seen : rest.any notices with
      | true =>
        obtain rfl := found seen
        exact ⟨fun _ => rfl, fun _ => ⟨by rintro _ ⟨⟩; exact kept, by rintro _ ⟨⟩⟩⟩
      | false =>
        obtain ⟨last, rfl⟩ := lost seen
        refine ⟨fun clean => ?_, by rintro ⟨⟩⟩
        cases kept.symm.trans (clean.2 last rfl)

/-- Whatever the commands do, the call leaves what it should if and only if no
attempt attaches a device, or one after the first that does notices it. -/
theorem attach_loop_clean (file : ImgFile) (attempts : List Attempt) :
    Clean file attempts.length (attach file attempts) ↔ noticed attempts = true :=
  free_attempts attempts

end

namespace LastAttempt

def busy : Attempt := ⟨true, true, false, none, false, by decide⟩

def attaches : Attempt := ⟨true, true, true, some 0, true, by decide⟩

/-- Only the last of the twenty attempts finds a free device. -/
theorem attached_and_failed :
    (attach ⟨"default", "v"⟩ (List.replicate 19 busy ++ [attaches])).1 =
      .error (.loopDeviceAttach "v" 20 (some Err.calledProcess.message)) ∧
    (attach ⟨"default", "v"⟩ (List.replicate 19 busy ++ [attaches])).2.devices = [0] := by
  decide +kernel

end LastAttempt
end Rawfile.LoopCommands
