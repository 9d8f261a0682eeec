import Mathlib.Logic.Relation

/-! `utils/lock.py` step by step. The lock file is a path that names an inode;
`flock` excludes per inode, and leaving the context manager removes the path
after the lock was given up. -/

namespace Rawfile

/-- The arguments of `VolLock` besides the volume. -/
structure VolLock where
  clearOnRelease : Bool := true
  wait : Bool := false

/-- How far a thread is with its `with VolLock(volume_id)` block. A thread that
was refused raises `BlockingIOError` and drops its descriptor with the object. -/
inductive LockStage where
  | outside
  | touched
  | opened (inode : Nat)
  | refused (inode : Nat)
  | critical (inode : Nat)
  | unlocked (inode : Nat)
  | closed
  deriving DecidableEq

namespace LockStage

/-- The inode the thread is about to lock or has locked. -/
def contends : LockStage → Option Nat
  | .opened inode | .critical inode => some inode
  | _ => none

end LockStage

/-- The lock file of one volume and the threads that use it. Inodes are
numbered as they are created. -/
structure LockFile where
  named : Option Nat := none
  created : Nat := 0
  flocked : List Nat := []
  threads : List LockStage

namespace LockFile

def unused (threads : Nat) : LockFile where
  threads := List.replicate threads .outside

/-- The inode that the path names once the file exists. -/
def target (file : LockFile) : Nat := file.named.getD file.created

def ensure (file : LockFile) : LockFile :=
  match file.named with
  | some _ => file
  | none => { file with named := some file.created, created := file.created + 1 }

def stage (file : LockFile) (thread : Nat) (stage : LockStage) : LockFile :=
  { file with threads := file.threads.set thread stage }

def next (lock : VolLock) (thread : Nat) (file : LockFile) : LockFile :=
  match file.threads[thread]? with
  | none => file
  | some .outside => file.ensure.stage thread .touched
  | some .touched => file.ensure.stage thread (.opened file.target)
  | some (.opened inode) =>
    if inode ∈ file.flocked then
      if lock.wait then file else file.stage thread (.refused inode)
    else { file with flocked := inode :: file.flocked }.stage thread (.critical inode)
  | some (.refused _) => file.stage thread .outside
  | some (.critical inode) =>
    { file with flocked := file.flocked.filter (· ≠ inode) }.stage thread (.unlocked inode)
  | some (.unlocked _) => file.stage thread (if lock.clearOnRelease then .closed else .outside)
  | some .closed => { file with named := none }.stage thread .outside

def run (lock : VolLock) (schedule : List Nat) (file : LockFile) : LockFile :=
  schedule.foldl (fun file thread => file.next lock thread) file

def meets (lock : VolLock) (condition : Nat → LockFile → Bool) : List Nat → LockFile → Bool
  | [], _ => true
  | thread :: schedule, file => condition thread file && meets lock condition schedule (file.next lock thread)

def Steps (lock : VolLock) (condition : Nat → LockFile → Bool) (before after : LockFile) : Prop :=
  ∃ thread, condition thread before = true ∧ before.next lock thread = after

def Reaches (lock : VolLock) (condition : Nat → LockFile → Bool) : LockFile → LockFile → Prop :=
  Relation.ReflTransGen (Steps lock condition)

end LockFile
end Rawfile
