import Mathlib.Data.List.AList
import Mathlib.Logic.Relation

/-! A tree of directories and files. The tree carries the proof that every
entry sits in a directory, so an operation that would leave an orphan behind
has to fail, and removing a directory is removing everything below it. -/

namespace Effects

/-- The names of a tree. A name without a parent sits at a root that always exists. -/
class Hierarchy (π : Type) where
  parent : π → Option π
  depth : π → Nat

inductive Entry (κ : Type) where
  | directory
  | file (content : κ)

inductive FileError where
  | notFound
  | exists
  | isDirectory
  | notDirectory
  | notEmpty

structure FileTree (π κ : Type) [DecidableEq π] [Hierarchy π] where
  entries : AList (fun _ : π => Entry κ)
  rooted : ∀ path up, entries.lookup path ≠ none → Hierarchy.parent path = some up →
    entries.lookup up = some .directory

namespace FileTree

variable {π κ : Type} [DecidableEq π] [Hierarchy π]

variable {path : π} {tree after : FileTree π κ}

def empty : FileTree π κ := ⟨∅, by simp⟩

def lookup (tree : FileTree π κ) (path : π) : Option (Entry κ) := tree.entries.lookup path

def isDirectory (tree : FileTree π κ) (path : π) : Bool :=
  match tree.lookup path with
  | some .directory => true
  | _ => false

def grounded (tree : FileTree π κ) (path : π) : Bool :=
  match Hierarchy.parent path with
  | none => true
  | some up => tree.isDirectory up

def children (tree : FileTree π κ) (path : π) : List π :=
  tree.entries.keys.filter (fun other => Hierarchy.parent other = some path)

@[simp] theorem lookup_empty (path : π) : (empty : FileTree π κ).lookup path = none :=
  AList.lookup_empty path

theorem isDirectory_iff : tree.isDirectory path = true ↔ tree.lookup path = some .directory := by
  unfold isDirectory
  split <;> simp_all

theorem grounded_iff :
    tree.grounded path = true ↔ ∀ up, Hierarchy.parent path = some up → tree.lookup up = some .directory := by
  unfold grounded
  split <;> simp_all [isDirectory_iff]

theorem lookup_below {path up : π} (above : Hierarchy.parent path = some up)
    (missing : tree.lookup up ≠ some .directory) : tree.lookup path = none := by
  by_contra present
  exact missing (tree.rooted path up present above)

theorem listed_iff : path ∈ tree.entries.keys ↔ tree.lookup path ≠ none := by
  simp [lookup, ← AList.mem_keys, AList.lookup_eq_none]

theorem mem_children {path up : π} :
    path ∈ tree.children up ↔ tree.lookup path ≠ none ∧ Hierarchy.parent path = some up := by
  simp only [children, List.mem_filter, listed_iff, decide_eq_true_eq]

def put (tree : FileTree π κ) (path : π) (entry : Entry κ) (above : tree.grounded path = true)
    (kept : tree.lookup path = some .directory → entry = .directory) : FileTree π κ where
  entries := tree.entries.insert path entry
  rooted other up present parent := by
    have standing : tree.lookup up = some .directory := by
      by_cases same : other = path
      · subst other
        exact grounded_iff.mp above up parent
      · rw [AList.lookup_insert_ne same] at present
        exact tree.rooted other up present parent
    by_cases same : up = path
    · subst up
      rw [AList.lookup_insert, kept standing]
    · rw [AList.lookup_insert_ne same]
      exact standing

def drop (tree : FileTree π κ) (path : π) (bare : ∀ other, tree.lookup other ≠ none →
    Hierarchy.parent other ≠ some path) : FileTree π κ where
  entries := tree.entries.erase path
  rooted other up present parent := by
    have different : other ≠ path := by
      rintro rfl
      exact present (AList.lookup_erase other tree.entries)
    rw [AList.lookup_erase_ne different] at present
    have away : up ≠ path := by
      rintro rfl
      exact bare other present parent
    rw [AList.lookup_erase_ne away]
    exact tree.rooted other up present parent

theorem lookup_put {entry : Entry κ} (above) (kept) (other : π) :
    (tree.put path entry above kept).lookup other = if other = path then some entry else tree.lookup other := by
  split
  next same => subst other; exact AList.lookup_insert tree.entries
  next different => exact AList.lookup_insert_ne different

theorem lookup_drop (bare) (other : π) :
    (tree.drop path bare).lookup other = if other = path then none else tree.lookup other := by
  split
  next same => subst other; exact AList.lookup_erase path tree.entries
  next different => exact AList.lookup_erase_ne different

/-- Open for writing: creates the file or replaces its content. -/
def write (tree : FileTree π κ) (path : π) (content : κ) : Except FileError (FileTree π κ) :=
  if above : tree.grounded path = true then
    if plain : tree.isDirectory path = true then .error .isDirectory
    else .ok (tree.put path (.file content) above (fun held => absurd (isDirectory_iff.mpr held) plain))
  else .error .notFound

def mkdir (tree : FileTree π κ) (path : π) (existOk : Bool) : Except FileError (FileTree π κ) :=
  match tree.lookup path with
  | some .directory => if existOk then .ok tree else .error .exists
  | some (.file _) => .error .exists
  | none =>
    if above : tree.grounded path = true then .ok (tree.put path .directory above (fun _ => rfl))
    else .error .notFound

private def mkdirsFrom (tree : FileTree π κ) : Nat → π → Except FileError (FileTree π κ)
  | 0, path => tree.mkdir path true
  | fuel + 1, path =>
    match Hierarchy.parent path with
    | none => tree.mkdir path true
    | some up => do (← tree.mkdirsFrom fuel up).mkdir path true

/-- Create a directory together with its missing ancestors; an existing one is fine. -/
def mkdirs (tree : FileTree π κ) (path : π) : Except FileError (FileTree π κ) :=
  tree.mkdirsFrom (Hierarchy.depth path) path

def unlink (tree : FileTree π κ) (path : π) : Except FileError (FileTree π κ) :=
  match found : tree.lookup path with
  | none => .error .notFound
  | some .directory => .error .isDirectory
  | some (.file _) => .ok (tree.drop path (by
      intro other present parent
      have standing := tree.rooted other path present parent
      rw [show tree.entries.lookup path = _ from found] at standing
      cases standing))

def rmdir (tree : FileTree π κ) (path : π) : Except FileError (FileTree π κ) :=
  match tree.lookup path with
  | none => .error .notFound
  | some (.file _) => .error .notDirectory
  | some .directory =>
    if vacant : tree.children path = [] then
      .ok (tree.drop path (by
        intro other present parent
        have inside := mem_children.mpr ⟨present, parent⟩
        rw [vacant] at inside
        cases inside))
    else .error .notEmpty

theorem write_ok {content : κ} (written : tree.write path content = .ok after) (other : π) :
    after.lookup other = if other = path then some (.file content) else tree.lookup other := by
  unfold write at written
  split at written
  · split at written
    · cases written
    · cases written
      exact lookup_put _ _ other
  · cases written

theorem write_plain {content : κ} (written : tree.write path content = .ok after) :
    tree.lookup path ≠ some .directory := by
  unfold write at written
  split at written
  · split at written
    · cases written
    next plain => exact fun directory => plain (isDirectory_iff.mpr directory)
  · cases written

theorem write_file {tree : FileTree π κ} {path : π} {old content : κ} (found : tree.lookup path = some (.file old)) :
    ∃ after, tree.write path content = .ok after := by
  have above : tree.grounded path = true :=
    grounded_iff.mpr fun up parent => tree.rooted path up (by rw [show tree.entries.lookup path = _ from found]; simp) parent
  have plain : ¬ tree.isDirectory path = true := by simp [isDirectory, found]
  exact ⟨_, by rw [write, dif_pos above, dif_neg plain]⟩

theorem mkdir_ok {existOk : Bool} (made : tree.mkdir path existOk = .ok after) (other : π) :
    after.lookup other = tree.lookup other ∨
      other = path ∧ tree.lookup path = none ∧ after.lookup path = some .directory := by
  unfold mkdir at made
  split at made
  · split at made <;> cases made
    exact .inl rfl
  · cases made
  next missing =>
    split at made
    · cases made
      by_cases same : other = path
      · exact .inr ⟨same, missing, by simp [lookup_put]⟩
      · exact .inl (by simp [lookup_put, same])
    · cases made

theorem mkdir_stands {existOk : Bool} (made : tree.mkdir path existOk = .ok after) :
    after.lookup path = some .directory := by
  unfold mkdir at made
  split at made
  next standing =>
    split at made <;> cases made
    exact standing
  · cases made
  · split at made
    · cases made
      simp [lookup_put]
    · cases made

/-- `Above path up`: the second name is the first or one of its ancestors. -/
def Above : π → π → Prop := Relation.ReflTransGen (fun path up => Hierarchy.parent path = some up)

private theorem mkdirsFrom_ok {fuel : Nat} (made : tree.mkdirsFrom fuel path = .ok after) (other : π) :
    after.lookup other = tree.lookup other ∨
      Above path other ∧ tree.lookup other = none ∧ after.lookup other = some .directory := by
  induction fuel generalizing path after with
  | zero =>
    rcases mkdir_ok made other with same | ⟨rfl, missing, created⟩
    · exact .inl same
    · exact .inr ⟨.refl, missing, created⟩
  | succ fuel ih =>
    simp only [mkdirsFrom] at made
    split at made
    · rcases mkdir_ok made other with same | ⟨rfl, missing, created⟩
      · exact .inl same
      · exact .inr ⟨.refl, missing, created⟩
    next up above =>
      cases lower : tree.mkdirsFrom fuel up with
      | error error => simp [lower, bind, Except.bind] at made
      | ok middle =>
        replace made : middle.mkdir path true = .ok after := by simpa [lower, bind, Except.bind] using made
        rcases mkdir_ok made other with same | ⟨rfl, missing, created⟩
        · rcases ih lower with first | ⟨reach, missing, created⟩
          · exact .inl (same.trans first)
          · exact .inr ⟨.head above reach, missing, same.trans created⟩
        · rcases ih lower with first | ⟨_, absent, present⟩
          · exact .inr ⟨.refl, first ▸ missing, created⟩
          · rw [present] at missing
            cases missing

theorem mkdirs_ok (made : tree.mkdirs path = .ok after) (other : π) :
    after.lookup other = tree.lookup other ∨
      Above path other ∧ tree.lookup other = none ∧ after.lookup other = some .directory :=
  mkdirsFrom_ok made other

theorem unlink_ok (gone : tree.unlink path = .ok after) (other : π) :
    after.lookup other = if other = path then none else tree.lookup other := by
  unfold unlink at gone
  split at gone
  · cases gone
  · cases gone
  · cases gone
    exact lookup_drop _ other

theorem rmdir_ok (gone : tree.rmdir path = .ok after) (other : π) :
    after.lookup other = if other = path then none else tree.lookup other := by
  unfold rmdir at gone
  split at gone
  · cases gone
  · cases gone
  · split at gone
    · cases gone
      exact lookup_drop _ other
    · cases gone

theorem unlink_file {content : κ} (found : tree.lookup path = some (.file content)) :
    ∃ after, tree.unlink path = .ok after := by
  unfold unlink
  split <;> simp_all

theorem rmdir_vacant (found : tree.lookup path = some .directory) (vacant : tree.children path = []) :
    ∃ after, tree.rmdir path = .ok after := by
  unfold rmdir
  split <;> simp_all

end FileTree
end Effects
