import Rawfile.VolLock

/-! Mutual exclusion of `VolLock`. As long as the path is only removed while no
thread is about to lock the file it names, every contender looks at the same
inode and `flock` decides between them. -/

namespace Rawfile
namespace LockFile

/-- The path is not removed under a thread that has locked the file it names or
is about to lock it. -/
def clearsUnused (thread : Nat) (file : LockFile) : Bool :=
  !(file.threads[thread]? = some .closed &&
    file.threads.any (fun stage => stage.contends.isSome && stage.contends = file.named))

/-- Contenders agree on the inode, and `flock` knows the one that is inside. -/
structure Agreed (file : LockFile) : Prop where
  current : ∀ (thread : Nat) (stage : LockStage) (inode : Nat), file.threads[thread]? = some stage →
    stage.contends = some inode → file.named = some inode
  locked : ∀ thread inode : Nat, file.threads[thread]? = some (.critical inode) → inode ∈ file.flocked
  alone : ∀ first second one two : Nat, file.threads[first]? = some (.critical one) →
    file.threads[second]? = some (.critical two) → first = second

variable {file : LockFile} {thread : Nat}

private theorem ensure_stage (file : LockFile) (thread : Nat) (stage : LockStage) :
    (file.ensure.stage thread stage).threads = (file.stage thread stage).threads := by
  unfold ensure
  split <;> rfl

@[simp] theorem ensure_flocked (file : LockFile) : file.ensure.flocked = file.flocked := by
  unfold ensure
  split <;> rfl

@[simp] theorem ensure_named (file : LockFile) : file.ensure.named = some file.target := by
  unfold ensure target
  split <;> simp_all

private theorem threads_stage {other : Nat} {stage found : LockStage}
    (member : (file.stage thread stage).threads[other]? = some found) :
    other = thread ∧ found = stage ∨ other ≠ thread ∧ file.threads[other]? = some found := by
  simp only [LockFile.stage, List.getElem?_set] at member
  grind

theorem Agreed.move {after : LockFile} {stage : LockStage} (agreed : file.Agreed)
    (threads : after.threads = (file.stage thread stage).threads)
    (named : ∀ other found inode, other ≠ thread → file.threads[other]? = some found →
      found.contends = some inode → after.named = file.named)
    (flocked : ∀ other inode, other ≠ thread → file.threads[other]? = some (.critical inode) → inode ∈ after.flocked)
    (contending : ∀ inode, stage.contends = some inode → after.named = some inode)
    (inside : ∀ inode, stage = .critical inode → inode ∈ after.flocked ∧
      ∀ other found : Nat, file.threads[other]? ≠ some (.critical found)) : after.Agreed := by
  refine ⟨?_, ?_, ?_⟩
  · intro other found inode member contends
    rcases threads_stage (threads ▸ member) with ⟨-, rfl⟩ | ⟨different, kept⟩
    · exact contending inode contends
    · rw [named other found inode different kept contends]
      exact agreed.current other found inode kept contends
  · intro other inode member
    rcases threads_stage (threads ▸ member) with ⟨-, own⟩ | ⟨different, kept⟩
    · exact (inside inode own.symm).1
    · exact flocked other inode different kept
  · intro first second one two within besides
    rcases threads_stage (threads ▸ within) with ⟨rfl, own⟩ | ⟨-, within⟩ <;>
      rcases threads_stage (threads ▸ besides) with ⟨rfl, other⟩ | ⟨-, besides⟩
    · rfl
    · exact absurd besides ((inside one own.symm).2 second two)
    · exact absurd within ((inside two other.symm).2 first one)
    · exact agreed.alone first second one two within besides

private theorem Agreed.retire {stage : LockStage} (agreed : file.Agreed) (idle : stage.contends = none) :
    (file.stage thread stage).Agreed := by
  refine agreed.move rfl (fun _ _ _ _ _ _ => rfl) (fun other inode _ => agreed.locked other inode) ?_ ?_
  · intro inode contends
    rw [idle] at contends
    cases contends
  · rintro inode rfl
    cases idle

private theorem Agreed.ensured (agreed : file.Agreed) {other inode : Nat} {stage : LockStage}
    (member : file.threads[other]? = some stage) (contends : stage.contends = some inode) :
    file.ensure.named = file.named := by
  rw [ensure_named, target, agreed.current other stage inode member contends]
  rfl

theorem Agreed.next (lock : VolLock) (agreed : file.Agreed) (clears : file.clearsUnused thread = true) :
    (file.next lock thread).Agreed := by
  unfold LockFile.next
  split
  next => exact agreed
  next =>
    refine agreed.move (ensure_stage _ _ _) (fun _ _ _ _ member contends => agreed.ensured member contends)
      ?_ (by simp [LockStage.contends]) (by simp)
    simpa [LockFile.stage] using fun other inode _ => agreed.locked other inode
  next =>
    refine agreed.move (ensure_stage _ _ _) (fun _ _ _ _ member contends => agreed.ensured member contends)
      ?_ (by simp [LockStage.contends, LockFile.stage]) (by simp)
    simpa [LockFile.stage] using fun other inode _ => agreed.locked other inode
  next inode opened =>
    split
    · split
      · exact agreed
      · exact agreed.retire rfl
    next free =>
      have named := agreed.current thread _ inode opened rfl
      refine agreed.move rfl (fun _ _ _ _ _ _ => rfl) ?_ ?_ ?_
      · exact fun other found _ member => List.mem_cons_of_mem _ (agreed.locked other found member)
      · intro other contends
        rw [← contends]
        exact named
      · rintro _ ⟨⟩
        refine ⟨List.mem_cons_self, fun other found member => free ?_⟩
        have same := (agreed.current other _ found member rfl).symm.trans named
        cases same
        exact agreed.locked other inode member
  next => exact agreed.retire rfl
  next inode critical =>
    refine agreed.move rfl (fun _ _ _ _ _ _ => rfl) ?_ (by simp [LockStage.contends]) (by simp)
    intro other found different member
    exact absurd (agreed.alone other thread found inode member critical) different
  next => exact agreed.retire (by split <;> rfl)
  next closed =>
    refine agreed.move rfl ?_ (fun other inode _ => agreed.locked other inode) (by simp [LockStage.contends]) (by simp)
    intro other found inode _ member contends
    have named := agreed.current other found inode member contends
    simp only [clearsUnused, closed, decide_true, Bool.true_and, Bool.not_eq_true', List.any_eq_false] at clears
    have unused := clears found (List.mem_of_getElem? member)
    simp [contends, named] at unused

theorem Agreed.unused (threads : Nat) : (LockFile.unused threads).Agreed := by
  have outside : ∀ (thread : Nat) (stage : LockStage), (LockFile.unused threads).threads[thread]? = some stage →
      stage = .outside := by
    simp +contextual [LockFile.unused, List.getElem?_replicate]
  refine ⟨?_, ?_, ?_⟩
  · intro thread stage inode member contends
    rw [outside thread stage member] at contends
    cases contends
  · intro thread inode member
    cases outside thread _ member
  · intro first second one two member
    cases outside first _ member

theorem Agreed.reaches {lock : VolLock} {before after : LockFile} (agreed : before.Agreed)
    (reached : Reaches lock clearsUnused before after) : after.Agreed := by
  induction reached with
  | refl => exact agreed
  | tail _ step ih =>
    obtain ⟨thread, clears, rfl⟩ := step
    exact ih.next lock clears

theorem run_reaches {lock : VolLock} {condition : Nat → LockFile → Bool} {schedule : List Nat} {before : LockFile}
    (met : meets lock condition schedule before = true) : Reaches lock condition before (before.run lock schedule) := by
  induction schedule generalizing before with
  | nil => exact .refl
  | cons thread schedule ih =>
    obtain ⟨now, later⟩ := Bool.and_eq_true_iff.mp met
    exact .head ⟨thread, now, rfl⟩ (ih later)

/-- However many threads use the lock, and however their steps interleave, at
most one of them is inside as long as no path is removed under a contender. -/
theorem critical_section_exclusive (lock : VolLock) (threads : Nat) {after : LockFile}
    (reached : Reaches lock clearsUnused (unused threads) after) {first second one two : Nat}
    (inside : after.threads[first]? = some (.critical one))
    (besides : after.threads[second]? = some (.critical two)) : first = second :=
  ((Agreed.unused threads).reaches reached).alone first second one two inside besides

/-- One thread is inside, a second was refused, and a third has just opened the file. -/
theorem critical_section_exclusive_contended :
    ((unused 3).run {} [0, 0, 1, 0, 1, 1, 2, 2]).threads = [.critical 0, .refused 0, .opened 0] ∧
    ∀ second two : Nat, ((unused 3).run {} [0, 0, 1, 0, 1, 1, 2, 2]).threads[second]? = some (.critical two) →
      0 = second :=
  ⟨by decide, fun second two besides =>
    @critical_section_exclusive {} 3 _ (run_reaches (by decide)) 0 second 0 two (by decide) besides⟩

/-- The second thread locks the file between the first one's release and its
removal of the path, so the third creates and locks another file. -/
theorem critical_section_shared :
    ((unused 3).run {} [0, 0, 0, 1, 1, 0, 1, 0, 0, 2, 2, 2]).threads = [.outside, .critical 0, .critical 1] := by
  decide

end LockFile
end Rawfile
