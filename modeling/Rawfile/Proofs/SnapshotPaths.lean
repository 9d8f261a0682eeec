import Rawfile.Proofs.DeletionOrder
import Rawfile.SnapshotPaths

/-! What is read from the path of a snapshot is what the path was made of, but
for the temporary ones: one directory deeper, they seem to be of a volume called
`snapshots`. -/

namespace Rawfile.SnapshotManager
open Effects

section
variable {config : DriverConfig} {files : Files} {root : PoolPath} {file : SnapshotFile}

def onlyDots (text : String) : Bool := text.toList.all (· = '.')

theorem stem_img (name : String) : stem (name ++ ".img") = if onlyDots name then name ++ ".img" else name := by
  have backwards : (name ++ ".img").toList.reverse = ['g', 'm', 'i'] ++ '.' :: name.toList.reverse := by simp
  have before : ∀ c ∈ ['g', 'm', 'i'], decide (c ≠ '.') = true := by simp
  unfold stem
  rw [backwards, List.dropWhile_append_of_pos before]
  simp [onlyDots]

/-- A name made of dots is that of a hidden file. -/
theorem lettered_of_visible {name : String} (visible : Glob.isHidden (name ++ ".img") = false) :
    onlyDots name = false := by
  rw [Glob.isHidden, String.toList_append, decide_eq_false_iff_not] at visible
  rw [onlyDots]
  cases letters : name.toList with
  | nil => simp [letters] at visible
  | cons first rest =>
    rw [letters] at visible
    have lettered : first ≠ '.' := by simpa using visible
    simp [lettered]

def isPart (text : String) : Bool := text ≠ "" ∧ text ≠ "."

theorem fileName_part (file : SnapshotFile) : isPart file.fileName = true := by
  have longer : ∀ short : String, short.length ≤ 1 → file.fileName ≠ short := by
    intro short bound same
    have length := congrArg String.length same
    rw [SnapshotFile.fileName, String.length_append, show ".img".length = 4 from rfl] at length
    omega
  exact decide_eq_true ⟨longer "" (by decide), longer "." (by decide)⟩

theorem nameOf_concat (front : List String) (last : String) : nameOf (front ++ [last]) = last := by simp [nameOf]

private theorem parts_eq (root : PoolPath) (file : SnapshotFile) : file.parts root =
    (root.parts ++ if isPart file.volume then [file.volume] else []) ++ ["snapshots"] ++
      (if file.temporary then ["temp"] else []) ++ [file.fileName] := by
  have named := fileName_part file
  unfold SnapshotFile.parts isPart at *
  cases file.temporary <;> by_cases part : file.volume ≠ "" ∧ file.volume ≠ "." <;> simp_all

theorem listedAs_eq (root : PoolPath) (file : SnapshotFile) : listedAs root file =
    (if file.temporary then "snapshots" else if isPart file.volume then file.volume else nameOf root.parts,
      if onlyDots file.name then file.fileName else file.name) := by
  unfold listedAs readAs
  rw [parts_eq, nameOf_concat, SnapshotFile.fileName, stem_img, List.dropLast_concat]
  refine Prod.ext ?_ rfl
  cases file.temporary with
  | true => rw [if_pos rfl, if_pos rfl, List.dropLast_concat, nameOf_concat]
  | false =>
    simp only [Bool.false_eq_true, if_false, List.append_nil]
    rw [List.dropLast_concat]
    by_cases part : isPart file.volume = true
    · rw [if_pos part, if_pos part, nameOf_concat]
    · rw [if_neg part, if_neg part, List.append_nil]

private theorem PoolPath.name_part (root : PoolPath) : isPart (nameOf root.parts) = true := by
  rw [nameOf, List.getLast?_eq_some_getLast root.below, Option.getD_some]
  exact decide_eq_true (root.named _ (List.getLast_mem _))

private theorem listedAs_iff (root : PoolPath) (file : SnapshotFile) : listedAs root file = (file.volume, file.name) ↔
    (file.temporary = false ∨ file.volume = "snapshots") ∧ isPart file.volume = true ∧ onlyDots file.name = false := by
  rw [listedAs_eq, Prod.mk.injEq]
  have name : (if onlyDots file.name then file.fileName else file.name) = file.name ↔ onlyDots file.name = false := by
    cases onlyDots file.name <;> simp [SnapshotFile.fileName]
  rw [name, ← and_assoc]
  refine and_congr_left fun _ => ?_
  cases file.temporary with
  | true =>
    simp only [if_true, reduceCtorEq, false_or]
    refine ⟨fun same => ⟨same.symm, ?_⟩, fun both => both.1.symm⟩
    rw [← same]
    decide
  | false =>
    simp only [Bool.false_eq_true, if_false, true_or, true_and]
    by_cases part : isPart file.volume = true
    · simp [part]
    · rw [if_neg part]
      refine ⟨fun same => ?_, fun valid => absurd valid part⟩
      rw [← same]
      exact PoolPath.name_part root

/-- A stored snapshot is listed with the volume and the name it was made with, and
found again by its id, if and only if it is not temporary. (Or its volume is
called `snapshots`; and no volume is called nothing or a dot, no snapshot only dots.) -/
theorem listed_snapshot_found (config : DriverConfig) (files : Files) (root : PoolPath) (file : SnapshotFile)
    (data : Meta) (recorded : metadataOf files file.volume = .ok data)
    (same : data.storagePool.getD config.defaultPool = file.pool) (pool : file.pool ∈ config.storagePools)
    (plain : '/' ∉ file.name.toList) :
    (listedAs root file = (file.volume, file.name) ∧
      pathOfId config files ((listedAs root file).1 ++ "/" ++ (listedAs root file).2) file.temporary = .ok file.path) ↔
    (file.temporary = false ∨ file.volume = "snapshots") ∧ isPart file.volume = true ∧ onlyDots file.name = false := by
  rw [← listedAs_iff root file]
  refine ⟨And.left, fun listed => ⟨listed, ?_⟩⟩
  rw [listed]
  simp only [pathOfId, splitId_slash file.name plain, getSnapshotPath, recorded, same, pool, if_true, bind, Except.bind]
  rfl

end

namespace CloneSource

def config : DriverConfig where
  storagePools := ["default"]
  defaultPool := "default"

def root : PoolPath where
  parts := ["/", "var", "csi"]
  below := by decide
  named := by decide

def files : Files :=
  (do
    let files ← (FileTree.empty : Files).mkdirs (.metaDir "pvc-1")
    files.write (.metaFile "pvc-1") (.json { storagePool := some "default" })).toOption.getD .empty

def file (temporary : Bool) : SnapshotFile := ⟨"default", "pvc-1", temporary, "pvc-2-clone-source"⟩

theorem listed_snapshot_found_plain :
    (listedAs root (file false) = ("pvc-1", "pvc-2-clone-source") ∧
      pathOfId config files ((listedAs root (file false)).1 ++ "/" ++ (listedAs root (file false)).2) false =
        .ok (file false).path) ↔
    (false = false ∨ "pvc-1" = "snapshots") ∧ isPart "pvc-1" = true ∧ onlyDots "pvc-2-clone-source" = false :=
  listed_snapshot_found config files root (file false) { storagePool := some "default" } (by decide +kernel) rfl
    (by decide) (by decide)

/-- The temporary snapshot is listed under a volume that does not exist. -/
theorem temporary_snapshot_misnamed : listedAs root (file true) = ("snapshots", "pvc-2-clone-source") ∧
    pathOfId config files "snapshots/pvc-2-clone-source" true = .error .fileNotFound := by
  decide +kernel

end CloneSource
end Rawfile.SnapshotManager
