import Rawfile.Proofs.Frame

/-! What one operation does to an entry: directories are made where nothing is
and removed by `rmdir` only, files are written and unlinked. -/

namespace Rawfile
open Effects

def Op.change : Op → Option Change
  | .file operation => operation.change
  | .lock (.acquire _) => some .write
  | .lock (.release _) => some .unlink
  | _ => none

inductive Change.Alters : Change → Option (Entry Content) → Option (Entry Content) → Prop
  | make : Alters .make none (some .directory)
  | write {before} (content) (plain : before ≠ some .directory) : Alters .write before (some (.file content))
  | unlink (content) : Alters .unlink (some (.file content)) none
  | remove : Alters .remove (some .directory) none

/-- The entry is what it was, or the operation changed it as it does. -/
def Altered (change : Option Change) (before after : Option (Entry Content)) : Prop :=
  after = before ∨ ∃ made, change = some made ∧ made.Alters before after

namespace Altered

variable {files : Files} {path target : Path} {change : Option Change}

theorem same (entry : Option (Entry Content)) : Altered change entry entry := .inl rfl

theorem write {after : Files} {content : Content} (written : files.write target content = .ok after) :
    Altered (some .write) (files.lookup path) (after.lookup path) := by
  rw [FileTree.write_ok written]
  split
  next same => exact .inr ⟨.write, rfl, .write content (by rw [same]; exact FileTree.write_plain written)⟩
  · exact .inl rfl

theorem unlink {after : Files} (gone : files.unlink target = .ok after) :
    Altered (some .unlink) (files.lookup path) (after.lookup path) := by
  rw [FileTree.unlink_ok gone]
  split
  next same =>
    subst same
    unfold FileTree.unlink at gone
    split at gone
    · cases gone
    · cases gone
    next content found =>
      rw [found]
      exact .inr ⟨.unlink, rfl, .unlink content⟩
  · exact .inl rfl

theorem remove {after : Files} (gone : files.rmdir target = .ok after) :
    Altered (some .remove) (files.lookup path) (after.lookup path) := by
  rw [FileTree.rmdir_ok gone]
  split
  next same =>
    subst same
    unfold FileTree.rmdir at gone
    split at gone
    · cases gone
    · cases gone
    next found =>
      rw [found]
      exact .inr ⟨.remove, rfl, .remove⟩
  · exact .inl rfl

end Altered

theorem FileOp.exec_altered (operation : FileOp) (answer : Answer) (files : Files) (path : Path) :
    Altered operation.change (files.lookup path) ((operation.exec answer files).2.lookup path) := by
  have edits := operation.exec_edits answer files
  generalize (operation.exec answer files).2 = after at edits
  cases edits with
  | same => exact .inl rfl
  | write _ changes written => exact changes ▸ .write written
  | mkdir _ changes made =>
    rcases FileTree.mkdir_ok made path with same | ⟨rfl, missing, created⟩
    · exact .inl same
    · exact .inr ⟨.make, changes, by rw [missing, created]; exact .make⟩
  | mkdirs _ changes made =>
    rcases FileTree.mkdirs_ok made path with same | ⟨-, missing, created⟩
    · exact .inl same
    · exact .inr ⟨.make, changes, by rw [missing, created]; exact .make⟩
  | unlink _ changes gone => exact changes ▸ .unlink gone
  | rmdir _ changes gone => exact changes ▸ .remove gone

theorem Op.exec_altered (operation : Op) (thread : Nat) (answer : Answer) (node : Node) (path : Path) :
    Altered operation.change (node.files.lookup path) ((operation.exec thread answer node).2.files.lookup path) := by
  cases operation with
  | file operation => exact operation.exec_altered answer node.files path
  | lock operation =>
    cases operation with
    | acquire volume =>
      have altered := (FileOp.touch (.lockFile volume)).exec_altered {} node.files path
      simp only [Op.exec, LockOp.exec]
      split
      · exact .same _
      next files touched =>
        rw [touched] at altered
        split <;> exact altered
    | release volume => exact (FileOp.unlink (.lockFile volume) true).exec_altered {} node.files path
  | device operation => exact .same _
  | task operation => exact .same _
  | ask question => exact .same _

theorem mkdir_stands {path : Path} {existOk : Bool} {answer : Answer} {before after : Files} {value : Unit}
    (executed : (FileOp.mkdir path existOk).exec answer before = (.ok value, after)) :
    after.lookup path = some .directory := by
  rcases Files.attempt_cases executed with ⟨-, made⟩ | ⟨-, ⟨_, failed⟩, -⟩
  · exact FileTree.mkdir_stands made
  · cases failed

theorem unlink_gone {path : Path} {answer : Answer} {before after : Files} {value : Unit}
    (executed : (FileOp.unlink path true).exec answer before = (.ok value, after)) : after.lookup path = none := by
  simp only [FileOp.exec] at executed
  split at executed
  · cases executed
  · split at executed
    next missing =>
      cases executed
      simpa [Files.present] using missing
    · rcases Files.change_cases executed with ⟨-, gone⟩ | ⟨-, _, failed, -⟩
      · rw [FileTree.unlink_ok gone, if_pos rfl]
      · cases failed

theorem rmdir_gone {path : Path} {answer : Answer} {before after : Files} {reply : Except Err Unit}
    (executed : (FileOp.rmdir path).exec answer before = (reply, after))
    (gone : reply = .ok () ∨ reply = .error .fileNotFound) : after.lookup path = none := by
  simp only [FileOp.exec] at executed
  split at executed
  · cases executed
    rcases gone with gone | gone <;> cases gone
  · rcases Files.change_cases executed with ⟨-, removed⟩ | ⟨rfl, cause, failed, removed⟩
    · rw [FileTree.rmdir_ok removed path, if_pos rfl]
    · have missing : cause = .notFound := by
        rcases gone with gone | gone <;> cases cause <;> cases failed.symm.trans gone
        rfl
      subst missing
      unfold FileTree.rmdir at removed
      split at removed
      next missing => exact missing
      · cases removed
      · split at removed <;> cases removed

def Op.fitting (operation : Op) : Prop :=
  ∀ path, operation.touches path → (operation.change = some .make → path.isDirName = true) ∧
    (operation.change = some .write → path.isDirName = false)

def Files.Typed (files : Files) (paths : Path → Prop) : Prop :=
  ∀ path entry, paths path → files.lookup path = some entry → (entry = .directory ↔ path.isDirName = true)

section
variable {operation : Op} {thread : Nat} {answer : Answer} {node : Node}

theorem Files.Typed.exec {paths : Path → Prop} (typed : node.files.Typed paths) (fitting : operation.fitting) :
    (operation.exec thread answer node).2.files.Typed paths := by
  intro path entry inside found
  by_cases touched : operation.touches path
  · obtain ⟨makes, writes⟩ := fitting path touched
    rcases operation.exec_altered thread answer node path with same | ⟨change, changes, alters⟩
    · exact typed path entry inside (same.symm.trans found)
    · rw [found] at alters
      generalize node.files.lookup path = before at alters
      cases alters with
      | make => simp [makes changes]
      | write content plain => simp [writes changes]
  · rw [operation.exec_lookup thread answer node touched] at found
    exact typed path entry inside found

theorem Files.Typed.plain {files : Files} {paths : Path → Prop} {path : Path} (typed : files.Typed paths) (inside : paths path)
    (leaf : path.isDirName = false) : files.lookup path ≠ some .directory := by
  intro found
  have directory := (typed path _ inside found).mp rfl
  rw [leaf] at directory
  cases directory

theorem Files.Typed.directory {files : Files} {paths : Path → Prop} {path : Path} (typed : files.Typed paths) (inside : paths path)
    (dir : path.isDirName = true) : files.lookup path = none ∨ files.lookup path = some .directory := by
  cases found : files.lookup path with
  | none => exact .inl rfl
  | some entry => exact .inr (by rw [(typed path entry inside found).mpr dir])

theorem Op.exec_standing {path : Path}
    (keeps : operation.touches path → operation.change ≠ some .remove)
    (standing : node.files.lookup path = some .directory) :
    (operation.exec thread answer node).2.files.lookup path = some .directory := by
  by_cases touched : operation.touches path
  · rcases operation.exec_altered thread answer node path with same | ⟨change, changes, alters⟩
    · exact same.trans standing
    · rw [standing] at alters
      generalize (operation.exec thread answer node).2.files.lookup path = after at alters ⊢
      cases alters with
      | write content plain => exact absurd rfl plain
      | remove => exact absurd changes (keeps touched)
  · exact (operation.exec_lookup thread answer node touched).trans standing

theorem Op.exec_missing {path : Path}
    (avoids : operation.touches path → operation.change ≠ some .make ∧ operation.change ≠ some .write)
    (missing : node.files.lookup path = none) : (operation.exec thread answer node).2.files.lookup path = none := by
  by_cases touched : operation.touches path
  · obtain ⟨unmade, unwritten⟩ := avoids touched
    rcases operation.exec_altered thread answer node path with same | ⟨change, changes, alters⟩
    · exact same.trans missing
    · rw [missing] at alters
      generalize (operation.exec thread answer node).2.files.lookup path = after at alters ⊢
      cases alters with
      | make => exact absurd changes unmade
      | write content plain => exact absurd changes unwritten
  · rw [operation.exec_lookup thread answer node touched]
    exact missing

end

end Rawfile
