import Rawfile.Relocation

/-! What is kept of the old files while starts are interrupted: the file in the
pool, as long as there is one, and then the file in the metadata directory. -/

namespace Rawfile
namespace Relocation

section
variable {places : Places} {volumes : List VolumeId} {file : OldFile}

def Places.kept (places : Places) (file : OldFile) : Option String := places.pool file <|> places.metadataDir file

private theorem move_pool (moved : OldFile) :
    (move places moved).pool file = if file = moved then none else places.pool file := by
  unfold move
  split
  next missing =>
    split
    next same => rw [same, missing]
    next => rfl
  next => simp [Function.update_apply]

private theorem move_kept (moved : OldFile) : (move places moved).kept file = places.kept file := by
  unfold move
  split
  next => rfl
  next text found =>
    by_cases same : file = moved
    · simp [Places.kept, same, found]
    · simp [Places.kept, same]

theorem moves_pool (files : List OldFile) :
    (files.foldl move places).pool file = if file ∈ files then none else places.pool file := by
  induction files generalizing places with
  | nil => simp
  | cons moved rest ih =>
    rw [List.foldl_cons, ih, move_pool]
    by_cases same : file = moved <;> simp [same]

private theorem moves_kept (files : List OldFile) : (files.foldl move places).kept file = places.kept file := by
  induction files generalizing places with
  | nil => rfl
  | cons moved rest ih => rw [List.foldl_cons, ih, move_kept]

private theorem mem_movedFiles {volume : VolumeId} {name : MetaName} : .ofVolume volume name ∈ movedFiles volumes places ↔
    volume ∈ volumes ∧ volume.startsWith "." = false ∧ places.pool (.ofVolume volume .diskMeta) ≠ none := by
  cases name <;> simp [movedFiles, oldVolumes, volumeFiles, Option.isSome_iff_ne_none, and_assoc]

variable {count : Nat} {copy : Option String}

private theorem interrupted_kept : (interrupted volumes places count copy).kept file = places.kept file := by
  have kept := @moves_kept places file ((movedFiles volumes places).take count)
  unfold interrupted
  dsimp only
  generalize ((movedFiles volumes places).take count).foldl move places = moved at kept ⊢
  split
  next copying text _ =>
    split
    next found =>
      obtain ⟨old, found⟩ := Option.isSome_iff_exists.mp found
      by_cases same : file = copying
      · simpa [Places.kept, same, found] using kept
      · simpa [Places.kept, same] using kept
    · exact kept
  · exact kept

private theorem interrupted_pool : (interrupted volumes places count copy).pool file =
    if file ∈ (movedFiles volumes places).take count then none else places.pool file := by
  rw [← moves_pool]
  unfold interrupted
  dsimp only
  split
  · split <;> rfl
  · rfl

end

/-- Starts that were interrupted, one after another. -/
def starts (volumes : List VolumeId) (places : Places) (interruptions : List (Nat × Option String)) : Places :=
  interruptions.foldl (fun places stop => interrupted volumes places stop.1 stop.2) places

private theorem starts_kept {volumes : List VolumeId} {places : Places} {file : OldFile}
    (interruptions : List (Nat × Option String)) : (starts volumes places interruptions).kept file = places.kept file := by
  induction interruptions generalizing places with
  | nil => rfl
  | cons stop rest ih => exact ih.trans interrupted_kept

/-- However often the start was interrupted, nothing is lost, and once it is not, every visible
volume has its metadata, and the driver its tasks, in the metadata directory. -/
theorem metadata_arrives (volumes : List VolumeId) (places : Places) (interruptions : List (Nat × Option String)) :
    let last := migrate volumes (starts volumes places interruptions)
    (∀ file, last.kept file = places.kept file) ∧ last.metadataDir .tasks = places.kept .tasks ∧
      ∀ volume ∈ volumes, volume.startsWith "." = false →
        last.metadataDir (.ofVolume volume .diskMeta) = places.kept (.ofVolume volume .diskMeta) := by
  intro last
  have kept : ∀ file, last.kept file = places.kept file := fun file => (moves_kept _).trans (starts_kept interruptions)
  have arrived {file : OldFile} (moved : last.pool file = none) : last.metadataDir file = places.kept file := by
    rw [← kept, Places.kept, moved]
    rfl
  refine ⟨kept, arrived ?_, fun volume member visible => arrived ?_⟩
  · exact (moves_pool _).trans (if_pos (by simp [movedFiles]))
  · refine (moves_pool _).trans ?_
    split
    · rfl
    next absent =>
      by_contra present
      exact absent (mem_movedFiles.mpr ⟨member, visible, present⟩)

/-- Once the metadata of a volume are moved, no later start moves what else of it is in the pool. -/
theorem left_behind (volumes : List VolumeId) {places : Places} {volume : VolumeId}
    (moved : places.pool (.ofVolume volume .diskMeta) = none) (interruptions : List (Nat × Option String)) (name : MetaName) :
    (migrate volumes (starts volumes places interruptions)).pool (.ofVolume volume name) =
      places.pool (.ofVolume volume name) := by
  induction interruptions generalizing places with
  | nil =>
    exact (moves_pool _).trans (if_neg fun member => (mem_movedFiles.mp member).2.2 moved)
  | cons stop rest ih =>
    have kept (name : MetaName) : (interrupted volumes places stop.1 stop.2).pool (.ofVolume volume name) =
        places.pool (.ofVolume volume name) := by
      exact interrupted_pool.trans (if_neg fun member => (mem_movedFiles.mp (List.mem_of_mem_take member)).2.2 moved)
    exact (ih ((kept .diskMeta).trans moved)).trans (kept name)

def locked : Places where
  pool := fun file => if file = .tasks then none else some ""
  metadataDir := fun _ => none

/-- The start ends after the first file of a volume. -/
theorem left_behind_lock :
    (migrate ["v"] (starts ["v"] (interrupted ["v"] locked 1 none) [])).pool (.ofVolume "v" .diskLock) = some "" :=
  (@left_behind ["v"] (interrupted ["v"] locked 1 none) "v" (by decide +kernel) [] .diskLock).trans (by decide +kernel)

end Relocation
end Rawfile
