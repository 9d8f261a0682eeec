import Mathlib.Data.List.Forall2
import Rawfile.VolumeSchema

/-! Schema migration. Each step sets the version it is named after and keeps the
fields that describe the volume, so migrating in two stages is migrating at once,
and only the last step moves the image of a volume that is below the old
directory. -/

namespace Rawfile

variable {data later : Data} {version : Int}
namespace VolumeSchema
open Effects InPlace

variable {site : Site}

def Agree (keys : List String) (before later : Data) : Prop :=
  ∀ key ∈ keys, later.lookup key = before.lookup key

namespace Agree

variable {keys : List String}

theorem refl (data : Data) : Agree keys data data := fun _ _ => rfl

theorem trans (first second third : Data) (early : Agree keys first second) (late : Agree keys second third) :
    Agree keys first third := fun key member => (late key member).trans (early key member)

theorem keeps_set {key : String} (other : key ∉ keys) (value : Json) : Keeps (Agree keys) (setItem key value) := by
  intro data kept member
  have different : kept ≠ key := fun same => other (same ▸ member)
  exact (Dict.lookup_set key kept value data).trans (if_neg different)

private theorem keeps_pop {key : String} (other : key ∉ keys) : Keeps (Agree keys) (pop key) := by
  intro data kept member
  have different : kept ≠ key := fun same => other (same ▸ member)
  exact (Dict.lookup_remove key kept data).trans (if_neg different)

theorem keeps_bind {program : Migration α} {next : α → Migration β} (first : Keeps (Agree keys) program)
    (rest : ∀ value, Keeps (Agree keys) (next value)) : Keeps (Agree keys) (program >>= next) :=
  Keeps.bind trans first rest

private theorem keeps_setdefault {key : String} (other : key ∉ keys) (value : Json) :
    Keeps (Agree keys) (setdefault key value) := by
  apply keeps_bind (Keeps.get refl)
  intro data
  split
  · exact keeps_set other value
  · exact Keeps.pure refl ()

private theorem keeps_mkdir (path : String) : Keeps (Agree keys) (mkdir site path) := by
  unfold mkdir
  split
  · exact Keeps.throw refl _
  · exact Keeps.pure refl ()

private theorem keeps_setGcAt (other : "gc_at" ∉ keys) : Keeps (Agree keys) (setGcAt site) := by
  apply keeps_bind (Keeps.get refl)
  intro data
  split
  · exact Keeps.pure refl ()
  · exact Keeps.pure refl ()
  · split
    · exact keeps_set other _
    · exact Keeps.throw refl _

private theorem keeps_relocate (image : "img_file" ∉ keys) (snapshots : "snapshots_dir" ∉ keys) (volPath : String) :
    Keeps (Agree keys) (relocate site volPath) := by
  unfold relocate
  dsimp only
  split
  · apply keeps_bind (keeps_set image _)
    intro _
    apply keeps_bind (keeps_set snapshots _)
    intro _
    exact keeps_bind (keeps_mkdir _) fun _ => keeps_mkdir _
  · exact Keeps.pure refl ()

private theorem keeps_locate (image : "img_file" ∉ keys) (snapshots : "snapshots_dir" ∉ keys)
    (data : Data) : Keeps (Agree keys) (locate site data) := by
  unfold locate
  split
  · exact Keeps.throw refl _
  · split
    · exact Keeps.throw refl _
    · split
      · split
        · exact keeps_relocate image snapshots _
        · exact Keeps.pure refl ()
      · split
        · exact Keeps.throw refl _
        · exact Keeps.pure refl ()

end Agree

private theorem version_set {rest : Migration Unit} (keeps : Keeps (Agree ["schema_version"]) rest)
    (done : (setItem "schema_version" (.int version) >>= fun _ => rest) data = .ok () later) :
    later.lookup "schema_version" = some (.int version) := by
  obtain ⟨_, stamped, first, last⟩ := bind_returned done
  cases first
  have same := keeps (Dict.set "schema_version" (.int version) data) "schema_version" (by simp)
  rw [last, Dict.lookup_set, if_pos rfl] at same
  exact same

private theorem migrateFn_version {i : Int} (done : migrateFn site i data = .ok () later) :
    later.lookup "schema_version" = some (.int (i + 1)) := by
  unfold migrateFn at done
  split at done
  · cases done
    exact (Dict.lookup_set _ _ _ _).trans (if_pos rfl)
  · exact version_set (Agree.keeps_setdefault (by decide) _) done
  · exact version_set (Agree.keeps_setGcAt (by decide)) done
  · exact version_set (Agree.keeps_set (by decide) _) done
  · exact version_set (Agree.keeps_set (by decide) _) done
  · exact version_set (Agree.keeps_set (by decide) _) done
  · exact version_set (Agree.keeps_pop (by decide)) done
  · exact version_set (Agree.keeps_bind (Keeps.get Agree.refl) (Agree.keeps_locate (by decide) (by decide))) done
  · cases done

private theorem schemaVersion_of_lookup {data : Data} (found : data.lookup "schema_version" = some (.int version)) :
    schemaVersion data = .ok version := by
  unfold schemaVersion
  rw [found]
  rfl

private theorem migrateFrom_version {count : Nat} {i : Int} (versioned : schemaVersion data = .ok i)
    (done : migrateFrom site i count data = .ok () later) : schemaVersion later = .ok (i + count) := by
  induction count generalizing i data with
  | zero =>
    cases done
    simpa using versioned
  | succ count ih =>
    obtain ⟨_, middle, first, rest⟩ := bind_returned done
    have reached := ih (schemaVersion_of_lookup (migrateFn_version first)) rest
    rw [reached]
    congr 1
    omega

private theorem migrateFrom_add (i : Int) (first second : Nat) :
    migrateFrom site i (first + second) =
      (migrateFrom site i first >>= fun _ => migrateFrom site (i + first) second) := by
  induction first generalizing i with
  | zero => simp [migrateFrom]
  | succ first ih =>
    have later : i + 1 + (first : Int) = i + ((first + 1 : Nat) : Int) := by omega
    rw [Nat.add_right_comm first 1 second]
    simp only [migrateFrom, ih, bind_assoc, later]

section
variable {data : Data} {current version : Int} (versioned : schemaVersion data = .ok current)
include versioned

theorem migrateTo_current (ordered : current ≤ version) :
    migrateTo site version data = migrateFrom site current (version - current).toNat data := by
  have started : (get : Migration Data) data = .ok data data := rfl
  unfold migrateTo
  rw [bind_ok started]
  simp only [versioned, Int.not_lt.mpr ordered, if_false]

theorem migrateTo_tooNew (newer : version < current) : migrateTo site version data = .error (tooNew current version) data := by
  have started : (get : Migration Data) data = .ok data data := rfl
  unfold migrateTo
  rw [bind_ok started]
  simp only [versioned, gt_iff_lt, newer, if_true]
  rfl

end

/-- Migrating in two stages is migrating at once, in what is returned or raised
and in what is left in the dictionary. -/
theorem migrateTo_stages {data : Data} {current middle version : Int} (versioned : schemaVersion data = .ok current)
    (first : current ≤ middle) (second : middle ≤ version) :
    (migrateTo site middle >>= fun _ => migrateTo site version) data = migrateTo site version data := by
  have split : (version - current).toNat = (middle - current).toNat + (version - middle).toNat := by omega
  have reached : current + ((middle - current).toNat : Int) = middle := by omega
  rw [migrateTo_current versioned (by omega), split, migrateFrom_add, reached]
  have same : migrateTo site middle data = _ := migrateTo_current versioned first
  cases ended : migrateFrom site current (middle - current).toNat data with
  | error error later => rw [bind_error (same.trans ended), bind_error ended]
  | ok value later =>
    have stamped := migrateFrom_version versioned ended
    rw [reached] at stamped
    rw [bind_ok (same.trans ended), bind_ok ended, migrateTo_current stamped second]

def keptFields : List String := ["volume_id", "size", "created_at", "deleted_at", "copy_on_write", "freezefs"]

/-- A dictionary whose image was below the old directory names the one in its
pool now, and that one exists. -/
def Relocated (site : Site) (before later : Data) : Prop :=
  ∃ old volumeId volPath, before.lookup "img_file" = some (.str old) ∧ old.startsWith "/data" = true ∧
    before.lookup "volume_id" = some volumeId ∧
    getVolumePath site ((later.lookup "storage_pool").getD site.defaultName) volumeId = .ok volPath ∧
    site.present (volPath ++ "/disk.img") = true ∧
    later.lookup "img_file" = some (.str (volPath ++ "/disk.img"))

def Retains (site : Site) (before later : Data) : Prop :=
  Agree keptFields before later ∧
    (later.lookup "img_file" = before.lookup "img_file" ∨ Relocated site before later)

private theorem keeps_migrateFn {i : Int} (notLast : i ≠ 7) : Keeps (Agree ("img_file" :: keptFields)) (migrateFn site i) := by
  unfold migrateFn
  split
  · exact Agree.keeps_set (by decide) _
  · exact Agree.keeps_bind (Agree.keeps_set (by decide) _) fun _ => Agree.keeps_setdefault (by decide) _
  · exact Agree.keeps_bind (Agree.keeps_set (by decide) _) fun _ => Agree.keeps_setGcAt (by decide)
  · exact Agree.keeps_bind (Agree.keeps_set (by decide) _) fun _ => Agree.keeps_set (by decide) _
  · exact Agree.keeps_bind (Agree.keeps_set (by decide) _) fun _ => Agree.keeps_set (by decide) _
  · exact Agree.keeps_bind (Agree.keeps_set (by decide) _) fun _ => Agree.keeps_set (by decide) _
  · exact Agree.keeps_bind (Agree.keeps_set (by decide) _) fun _ => Agree.keeps_pop (by decide)
  · exact absurd rfl notLast
  · exact Keeps.throw Agree.refl _

theorem Agree.retains {before later : Data} (same : Agree ("img_file" :: keptFields) before later) :
    Retains site before later :=
  ⟨fun key member => same key (List.mem_cons_of_mem _ member), .inl (same _ List.mem_cons_self)⟩

private theorem Agree.then_retains {before middle later : Data} (first : Agree ("img_file" :: keptFields) before middle)
    (rest : Retains site middle later) : Retains site before later := by
  have image := first "img_file" List.mem_cons_self
  have volume := first "volume_id" (by decide)
  constructor
  · intro key member
    rw [rest.1 key member, first key (List.mem_cons_of_mem _ member)]
  · rcases rest.2 with same | ⟨old, volumeId, volPath, named, below, known, found⟩
    · exact .inl (same.trans image)
    · exact .inr ⟨old, volumeId, volPath, image ▸ named, below, volume ▸ known, found⟩

private theorem relocate_left (volPath : String) (data : Data) :
    (left (relocate site volPath data)).lookup "storage_pool" = data.lookup "storage_pool" ∧
      (left (relocate site volPath data)).lookup "img_file" =
        if site.present (volPath ++ "/disk.img") then some (.str (volPath ++ "/disk.img"))
        else data.lookup "img_file" := by
  have pool : Keeps (Agree ["storage_pool"]) (relocate site volPath) :=
    Agree.keeps_relocate (by decide) (by decide) volPath
  refine ⟨pool data "storage_pool" (by decide), ?_⟩
  unfold relocate
  dsimp only
  split
  · have moved : setItem "img_file" (.str (volPath ++ "/disk.img")) data = .ok () _ := rfl
    rw [bind_ok moved]
    have rest : Keeps (Agree ["img_file"]) (do
        setItem "snapshots_dir" (.str (volPath ++ "/snapshots"))
        mkdir site (volPath ++ "/snapshots")
        mkdir site (volPath ++ "/snapshots" ++ "/temp")) := by
      apply Agree.keeps_bind (Agree.keeps_set (by decide) _)
      intro _
      exact Agree.keeps_bind (Agree.keeps_mkdir _) fun _ => Agree.keeps_mkdir _
    exact (rest _ "img_file" (by decide)).trans ((Dict.lookup_set _ _ _ _).trans (if_pos rfl))
  · rfl

theorem locate_retains (data : Data) : Retains site data (left (locate site data data)) := by
  refine ⟨Agree.keeps_locate (by decide) (by decide) data data, ?_⟩
  cases known : data.lookup "volume_id" with
  | none =>
    simp only [locate, known]
    exact .inl rfl
  | some volumeId =>
    cases path : getVolumePath site ((data.lookup "storage_pool").getD site.defaultName) volumeId with
    | error error =>
      simp only [locate, known, path]
      exact .inl rfl
    | ok volPath =>
      simp only [locate, known, path]
      generalize stored : (data.lookup "img_file").getD .null = value
      cases value with
      | str imgFile =>
        have named : data.lookup "img_file" = some (.str imgFile) := by
          cases found : data.lookup "img_file" with
          | none => rw [found] at stored; cases stored
          | some value => rw [found] at stored; exact congrArg some stored
        dsimp only
        split
        next below =>
          obtain ⟨pool, moved⟩ := @relocate_left site volPath data
          split at moved
          next present =>
            exact .inr ⟨imgFile, volumeId, volPath, named, below, known, by rw [pool, path], present, moved⟩
          next => exact .inl moved
        next => exact .inl rfl
      | _ =>
        dsimp only
        split <;> exact .inl rfl

private theorem migrate7To8_retains (data : Data) : Retains site data (left (migrate7To8 site data)) := by
  have stamped : Agree ("img_file" :: keptFields) data (Dict.set "schema_version" (.int 8) data) :=
    Agree.keeps_set (by decide) (Json.int 8) data
  exact Agree.then_retains stamped (locate_retains _)

private theorem migrateFrom_last (count : Nat) (data : Data) : left (migrateFrom site 8 count data) = data := by
  cases count with
  | zero => rfl
  | succ count => rfl

private theorem migrateFrom_retains (i : Int) (count : Nat) (data : Data) :
    Retains site data (left (migrateFrom site i count data)) := by
  induction count generalizing i data with
  | zero => exact Agree.retains (Agree.refl data)
  | succ count ih =>
    by_cases last : i = 7
    · subst last
      have moved : Retains site data _ := migrate7To8_retains data
      cases ended : migrate7To8 site data with
      | error error later =>
        rw [ended] at moved
        rwa [show migrateFrom site 7 (count + 1) data = .error error later from bind_error ended]
      | ok value later =>
        rw [ended] at moved
        rw [show migrateFrom site 7 (count + 1) data = migrateFrom site 8 count later from bind_ok ended,
          migrateFrom_last]
        exact moved
    · have kept := @keeps_migrateFn site i last data
      cases ended : migrateFn site i data with
      | error error later =>
        rw [ended] at kept
        rw [show migrateFrom site i (count + 1) data = .error error later from bind_error ended]
        exact Agree.retains kept
      | ok value later =>
        rw [ended] at kept
        rw [show migrateFrom site i (count + 1) data = migrateFrom site (i + 1) count later from bind_ok ended]
        exact Agree.then_retains kept (ih (i + 1) later)

private theorem migrateTo_retains {data : Data} {current : Int} (versioned : schemaVersion data = .ok current)
    (version : Int) : Retains site data (left (migrateTo site version data)) := by
  by_cases ordered : current ≤ version
  · rw [migrateTo_current versioned ordered]
    exact migrateFrom_retains current _ data
  · rw [migrateTo_tooNew versioned (by omega)]
    exact Agree.retains (Agree.refl data)

private theorem migrateTo_version {current version : Int} (versioned : schemaVersion data = .ok current)
    (done : migrateTo site version data = .ok () later) : schemaVersion later = .ok version := by
  by_cases ordered : current ≤ version
  · rw [migrateTo_current versioned ordered] at done
    rw [migrateFrom_version versioned done]
    congr 1
    omega
  · rw [migrateTo_tooNew versioned (by omega)] at done
    cases done

private theorem migrateTo_same {data : Data} {current : Int} (versioned : schemaVersion data = .ok current) :
    migrateTo site current data = .ok () data := by
  rw [migrateTo_current versioned (Int.le_refl _), Int.sub_self]
  rfl

/-- Migrating composes and keeps the data. Two stages give what one gives, the
exception and what it leaves in the dictionary included. -/
theorem schema_migration (site : Site) (data : Data) (current : Int) (versioned : schemaVersion data = .ok current) :
    (∀ middle version, current ≤ middle → middle ≤ version →
      (migrateTo site middle >>= fun _ => migrateTo site version) data = migrateTo site version data) ∧
    (∀ version later, migrateTo site version data = .ok () later → schemaVersion later = .ok version) ∧
    (current = latestSchemaVersion → migrateTo site latestSchemaVersion data = .ok () data) ∧
    (∀ version < current, migrateTo site version data = .error (tooNew current version) data) ∧
    ∀ version, Retains site data (left (migrateTo site version data)) := by
  refine ⟨fun _ _ => migrateTo_stages versioned, fun _ _ => migrateTo_version versioned, ?_,
    fun _ => migrateTo_tooNew versioned, migrateTo_retains versioned⟩
  intro latest
  rw [← latest]
  exact migrateTo_same versioned

def bareSite : Site where
  pools := [("default", "/var/csi/rawfile")]
  defaultPool := some "default"
  present := fun _ => false
  unmakeable := fun _ => false
  str := fun _ => ""
  plus := fun number _ => number

/-- A deleted volume without a version goes through version 3. -/
theorem schema_migration_unversioned :
    (migrateTo bareSite 3 >>= fun _ => migrateTo bareSite 7) [("volume_id", .str "v"), ("deleted_at", .int 5)] =
        migrateTo bareSite 7 [("volume_id", .str "v"), ("deleted_at", .int 5)] ∧
      (left (migrateTo bareSite 7 [("volume_id", .str "v"), ("deleted_at", .int 5)])).lookup "gc_at" =
        some (.int 604805) :=
  ⟨(schema_migration bareSite [("volume_id", .str "v"), ("deleted_at", .int 5)] 0 rfl).1 3 7 (by decide) (by decide),
    rfl⟩

private theorem migrateTo_versioned (done : migrateTo site version data = .ok () later) :
    ∃ current, schemaVersion data = .ok current := by
  cases versioned : schemaVersion data with
  | ok current => exact ⟨current, rfl⟩
  | error error =>
    have started : (get : Migration Data) data = .ok data data := rfl
    unfold migrateTo at done
    rw [bind_ok started] at done
    simp only [versioned] at done
    cases done

section
variable {volumeId : String} (done : migrateMetadata site volumeId (some data) version = .ok later)
include done

private theorem migrateMetadata_returned :
    migrateTo site version data = .ok () later ∧
      ∃ path, getVolumePath site ((later.lookup "storage_pool").getD site.defaultName) (.str volumeId) = .ok path := by
  unfold migrateMetadata at done
  dsimp only [Option.getD_some] at done
  split at done
  · cases done
  next migrated =>
    split at done
    · cases done
    next path found =>
      cases done
      exact ⟨migrated, path, found⟩

/-- Metadata that were migrated stay as they are at the next start. -/
private theorem migrateMetadata_again :
    schemaVersion later = .ok version ∧ migrateMetadata site volumeId (some later) version = .ok later := by
  obtain ⟨migrated, path, found⟩ := migrateMetadata_returned done
  obtain ⟨current, versioned⟩ := migrateTo_versioned migrated
  have stamped := migrateTo_version versioned migrated
  refine ⟨stamped, ?_⟩
  unfold migrateMetadata
  dsimp only [Option.getD_some]
  rw [migrateTo_same stamped]
  dsimp only
  rw [found]

end

def Migrated (site : Site) (old new : String × Data) : Prop :=
  new.1 = old.1 ∧ migrateMetadata site old.1 (some old.2) latestSchemaVersion = .ok new.2

private theorem migrateAllVolumeSchemas_iff {volumes files : List (String × Data)} :
    migrateAllVolumeSchemas site volumes = (files, none) ↔ List.Forall₂ (Migrated site) volumes files := by
  induction volumes generalizing files with
  | nil => simp [migrateAllVolumeSchemas, eq_comm]
  | cons volume rest ih =>
    rw [List.forall₂_cons_left_iff]
    unfold migrateAllVolumeSchemas
    constructor
    · intro done
      split at done
      · cases done
      next migrated first =>
        generalize later : migrateAllVolumeSchemas site rest = others at done
        obtain ⟨others, error⟩ := others
        cases done
        exact ⟨(_, migrated), others, ⟨rfl, first⟩, ih.mp later, rfl⟩
    · rintro ⟨⟨_, data⟩, others, ⟨rfl, first⟩, later, rfl⟩
      dsimp only at first
      simp only [first, ih.mpr later]

def interrupted (site : Site) (volumes : List (String × Data)) (count : Nat) : List (String × Data) :=
  (migrateAllVolumeSchemas site (volumes.take count)).1 ++ volumes.drop count

/-- The start of the driver keeps the data of every volume, also when one of them
cannot be migrated. -/
theorem migrateAllVolumeSchemas_retains (volumes : List (String × Data)) :
    List.Forall₂ (fun old new => new.1 = old.1 ∧ Retains site old.2 new.2) volumes
      (migrateAllVolumeSchemas site volumes).1 := by
  have untouched (files : List (String × Data)) :
      List.Forall₂ (fun old new => new.1 = old.1 ∧ Retains site old.2 new.2) files files :=
    List.forall₂_same.mpr fun file _ => ⟨rfl, Agree.retains (Agree.refl _)⟩
  induction volumes with
  | nil => exact .nil
  | cons volume rest ih =>
    obtain ⟨volumeId, data⟩ := volume
    unfold migrateAllVolumeSchemas
    split
    · exact untouched _
    next migrated done =>
      obtain ⟨returned, -⟩ := migrateMetadata_returned done
      obtain ⟨current, versioned⟩ := migrateTo_versioned returned
      have kept := @migrateTo_retains site _ _ versioned latestSchemaVersion
      rw [returned] at kept
      exact .cons ⟨rfl, kept⟩ ih

/-- However often the start was interrupted, the one that is not leaves what the first one
would have left, with every file at the latest version. -/
theorem migration_resumes {volumes files : List (String × Data)}
    (done : migrateAllVolumeSchemas site volumes = (files, none)) (interruptions : List Nat) :
    migrateAllVolumeSchemas site (interruptions.foldl (interrupted site) volumes) = (files, none) ∧
      ∀ file ∈ files, schemaVersion file.2 = .ok latestSchemaVersion := by
  have migrated := migrateAllVolumeSchemas_iff.mp done
  have settled : ∀ file ∈ files, schemaVersion file.2 = .ok latestSchemaVersion ∧ Migrated site file file := by
    refine ((List.forall₂_and_left (R := fun _ _ => True) files volumes).mp (migrated.flip.imp ?_)).1
    rintro ⟨_, data⟩ old ⟨rfl, first⟩
    obtain ⟨stamped, again⟩ := migrateMetadata_again first
    exact ⟨⟨stamped, rfl, again⟩, trivial⟩
  refine ⟨migrateAllVolumeSchemas_iff.mpr ?_, fun file member => (settled file member).1⟩
  clear done
  induction interruptions generalizing volumes with
  | nil => exact migrated
  | cons count rest ih =>
    have same : List.Forall₂ (Migrated site) (files.take count) (files.take count) :=
      List.forall₂_same.mpr fun file member => (settled file (List.mem_of_mem_take member)).2
    have further := List.rel_append same (List.forall₂_drop count migrated)
    beta_reduce at further
    rw [List.take_append_drop] at further
    apply ih
    rwa [interrupted, migrateAllVolumeSchemas_iff.mpr (List.forall₂_take count migrated)]

/-- The start is interrupted before and after the first of two volumes. -/
theorem migration_resumes_twice : ∃ files, migrateAllVolumeSchemas bareSite
    ([0, 1].foldl (interrupted bareSite) [("v", [("volume_id", .str "v")]), ("w", [("volume_id", .str "w")])]) =
      (files, none) :=
  ⟨_, (@migration_resumes bareSite _ _ rfl [0, 1]).1⟩

end VolumeSchema
end Rawfile
