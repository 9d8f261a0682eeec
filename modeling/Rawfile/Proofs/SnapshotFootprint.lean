import Rawfile.Proofs.CallFootprint
import Rawfile.SnapshotList

/-! Which calls reach the file of a snapshot or its marker: those that make this
very snapshot, or delete it. -/

namespace Rawfile
open Effects

def Op.skips (file : SnapshotFile) (operation : Op) : Prop :=
  ¬ operation.touches file.path ∧ ¬ operation.touches file.marker

def Call.recreates (file : SnapshotFile) : Call → Bool
  | .deleteSnapshot snapshotId => !file.temporary && splitId snapshotId = some (file.volume, file.name)
  | .task (.createSnapshot args) | .future _ (.createSnapshot args) =>
    (args.volumeId, args.name, args.temporary) = (file.volume, file.name, file.temporary)
  | .task (.createVolume args) | .future _ (.createVolume args) =>
    file.temporary && args.sourceType = some .volume && args.source = some file.volume &&
      file.name = cloneSource args.volumeId
  | _ => false

variable {file : SnapshotFile} {operation : Op} {volume : VolumeId} {name : String} {temporary : Bool}

theorem LockOp.skips (operation : LockOp) : Op.skips file (.lock operation) := by
  cases operation <;> simp [Op.skips, Op.touches, SnapshotFile.path, SnapshotFile.marker]

theorem CreateSnapshotOp.skips (issued : CreateSnapshotOp volume name temporary operation)
    (other : (volume, name, temporary) ≠ (file.volume, file.name, file.temporary)) : operation.skips file :=
  ⟨fun touched => other (issued.writes touched trivial), fun touched => other (issued.writes touched trivial)⟩

theorem GcOp.skips (issued : GcOp volume operation) : operation.skips file :=
  ⟨fun touched => issued.writes touched trivial, fun touched => issued.writes touched trivial⟩

theorem TaskingOp.skips (issued : TaskingOp operation) : operation.skips file :=
  ⟨issued.writes, issued.writes⟩

theorem Path.ofSnapshot.unique {path : Path} (own : path.ofSnapshot file.volume file.name file.temporary)
    (named : path.ofSnapshot volume name temporary) :
    (volume, name, temporary) = (file.volume, file.name, file.temporary) := by
  cases path <;> cases own <;> exact named

private theorem Path.ofSnapshot.not_ofVolume {path : Path} (own : path.ofSnapshot file.volume file.name file.temporary) :
    ¬ path.ofVolume volume := by
  cases path <;> cases own <;> exact id

theorem TaskCall.recreates_of_writes {task : TaskCall} {path : Path}
    (own : path.ofSnapshot file.volume file.name file.temporary) (written : task.writes path) :
    (Call.task task).recreates file = true := by
  cases task with
  | createVolume args =>
    rcases written with other | ⟨typed, id, named, same⟩
    · exact absurd other own.not_ofVolume
    · obtain ⟨rfl, clone, temporary⟩ := by simpa only [Prod.mk.injEq] using own.unique same
      simp [Call.recreates, typed, named, ← clone, ← temporary]
  | createSnapshot args => exact decide_eq_true (own.unique written)

theorem Call.recreates_of_writes {call : Call} {path : Path}
    (own : path.ofSnapshot file.volume file.name file.temporary) (written : call.writes path) :
    call.recreates file = true := by
  cases call with
  | deleteVolume target => exact absurd written own.not_ofVolume
  | expandRawFile target newSize => exact absurd written own.not_ofVolume
  | deleteSnapshot snapshotId =>
    obtain ⟨volume, name, split, same | other⟩ := written
    · obtain ⟨rfl, rfl, plain⟩ := by simpa only [Prod.mk.injEq] using own.unique same
      simp [Call.recreates, ← plain, split]
    · exact absurd other own.not_ofVolume
  | task task => exact TaskCall.recreates_of_writes own written
  | future index task =>
    have again := TaskCall.recreates_of_writes own written
    cases task <;> exact again
  | _ => cases written

theorem Call.skips {call : Call} (issued : call.footprint operation) (other : call.recreates file = false) :
    operation.skips file := by
  have apart : ∀ {path : Path}, path.carries → path.ofSnapshot file.volume file.name file.temporary →
      ¬ operation.touches path := by
    intro path carries own touched
    cases other.symm.trans (recreates_of_writes own (writes_of_touches touched carries issued))
  exact ⟨apart trivial rfl, apart trivial rfl⟩

end Rawfile
