import Mathlib.Data.Fintype.EquivFin
import Rawfile.Effects.Sequential
import Rawfile.Runs

/-! One call at a time, on a node where anything may fail and on one where no
system call does. There the clock does not run backwards, and a pool has the
capacity it has. -/

namespace Rawfile
open Effects

structure Clocked where
  node : Node
  time : Nat := 0

abbrev Logged := Clocked × List (Op × Bool)

def Clocked.exec (operation : Op) (answer : Answer) (now : Clocked) : Except Err operation.Reply × Clocked :=
  let (reply, node) := operation.exec 0 answer now.node
  (reply, { node, time := match operation with
    | .ask .clock => answer.amount
    | _ => now.time })

def loose : World Op Op.Reply Err Answer Clocked where
  exec := Clocked.exec
  may _ _ _ := True
  answers _ _ := ⟨{}, trivial⟩

instance (operation : Op) (answer : Answer) (now : Clocked) : Decidable (loose.may operation answer now) :=
  .isTrue trivial

instance (operation : Op) (answer : Answer) (now : Clocked × List (Op × Bool)) :
    Decidable (loose.recorded.may operation answer now) :=
  .isTrue trivial

/-- What a node without failures answers, whatever capacity its pools have. -/
def Op.steady (operation : Op) (answer : Answer) (now : Clocked) : Prop :=
  match operation with
  | .ask .clock => now.time ≤ answer.amount
  | .ask _ => True
  | .device (.losetup _) => answer.fails = false ∧ answer.amount ∉ now.node.devices.loops.map Prod.fst
  | _ => answer.fails = false

/-- A world in which no system call fails. -/
class Calmly (world : World Op Op.Reply Err Answer Clocked) : Prop where
  exec_eq : world.exec = Clocked.exec
  steady : ∀ operation answer now, world.may operation answer now → operation.steady answer now

/-- What a node without failures answers; `losetup -f` finds a device that is free. -/
def Op.reliable (capacity : PoolName → Nat) (operation : Op) (answer : Answer) (now : Clocked) : Prop :=
  match operation with
  | .ask .clock => now.time ≤ answer.amount
  | .ask (.capacity pool) => answer.amount = capacity pool
  | .ask _ => True
  | .device (.losetup _) => answer.fails = false ∧ answer.amount ∉ now.node.devices.loops.map Prod.fst
  | _ => answer.fails = false

theorem Op.reliable.steady {capacity : PoolName → Nat} {operation : Op} {answer : Answer} {now : Clocked}
    (reliable : operation.reliable capacity answer now) : operation.steady answer now := by
  unfold Op.reliable at reliable
  unfold Op.steady
  split at reliable <;> simp_all

theorem Op.reliable_answers (capacity : PoolName → Nat) (operation : Op) (now : Clocked) :
    ∃ answer, operation.reliable capacity answer now := by
  unfold Op.reliable
  split
  · exact ⟨{ amount := now.time }, Nat.le_refl _⟩
  next pool => exact ⟨{ amount := capacity pool }, rfl⟩
  · exact ⟨{}, trivial⟩
  · obtain ⟨device, free⟩ := Infinite.exists_notMem_finset (now.node.devices.loops.map Prod.fst).toFinset
    exact ⟨{ amount := device }, rfl, by simpa using free⟩
  · exact ⟨{}, rfl⟩

def calm (capacity : PoolName → Nat) : World Op Op.Reply Err Answer Clocked where
  exec := Clocked.exec
  may := Op.reliable capacity
  answers := Op.reliable_answers capacity

instance (capacity : PoolName → Nat) : Calmly (calm capacity) where
  exec_eq := rfl
  steady _ _ _ may := may.steady

instance (capacity : PoolName → Nat) (operation : Op) (answer : Answer) (now : Clocked) :
    Decidable ((calm capacity).may operation answer now) := by
  show Decidable (operation.reliable capacity answer now)
  unfold Op.reliable
  split <;> infer_instance

end Rawfile
