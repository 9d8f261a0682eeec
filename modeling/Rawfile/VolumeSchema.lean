import Rawfile.Effects.InPlace
import Rawfile.Effects.Json

/-! `volume_schema.py` on the JSON object of a `disk.meta`: the migrations change
the dictionary in place, so one that raises leaves what it had written. The
configuration and the files on the pools do not change while they run. -/

namespace Rawfile
namespace VolumeSchema
open Effects

abbrev Data := List (String × Json)

def latestSchemaVersion : Int := 8

inductive Error where
  | schemaVersionTooNew (current target : Int) (message : String)
  | attributeError (name : String)
  | keyError (key : Json)
  | typeError
  | osError (path : String)

abbrev Migration := EStateM Error Data

/-- The node the migrations run on: the pools by name with their paths, the
default pool, the paths that exist and those that cannot be made, and the two
functions of Python that are not modelled, `str` of a value that is no string and
the sum of a float and a number of seconds. -/
structure Site where
  pools : List (String × String)
  defaultPool : Option String
  present : String → Bool
  unmakeable : String → Bool
  str : Json → String
  plus : Json.FloatLiteral → Int → Json.FloatLiteral

def Site.defaultName (site : Site) : Json := (site.defaultPool.map Json.str).getD .null

def truthy : Json → Bool
  | .null => false
  | .bool flag => flag
  | .int number => number ≠ 0
  | .float number => (number.text.takeWhile (fun c => c ≠ 'e' ∧ c ≠ 'E')).any (fun c => '1' ≤ c ∧ c ≤ '9')
  | .str text => text ≠ ""
  | .arr items => !items.isEmpty
  | .obj fields => !fields.isEmpty

/-- `Path(text).as_posix()`; exactly two slashes at the beginning are kept. -/
def asPosix (text : String) : String :=
  let parts := (text.splitOn "/").filter (fun part => part ≠ "" ∧ part ≠ ".")
  let root := if text.startsWith "//" ∧ ¬ text.startsWith "///" then "//" else if text.startsWith "/" then "/" else ""
  let path := root ++ "/".intercalate parts
  if path = "" then "." else path

/-- `data[key] = value` -/
def setItem (key : String) (value : Json) : Migration Unit := modify (Dict.set key value)

def setdefault (key : String) (value : Json) : Migration Unit := do
  if (← get).lookup key = none then setItem key value

def pop (key : String) : Migration Unit := modify (Dict.remove key)

/-- The path of a volume, as `get_volume_path` and the interpolation of its
arguments give it. -/
def getVolumePath (site : Site) (storagePool volumeId : Json) : Except Error String :=
  match storagePool with
  | .str name =>
    match site.pools.lookup name with
    | some path =>
      let volume := match volumeId with | .str text => text | other => site.str other
      .ok (asPosix (path ++ "/" ++ volume))
    | none => .error (.keyError storagePool)
  | .arr _ | .obj _ => .error .typeError
  | other => .error (.keyError other)

def migrate0To1 : Migration Unit := setItem "schema_version" (.int 1)

def migrate1To2 : Migration Unit := do
  setItem "schema_version" (.int 2)
  setdefault "fs_type" (.str "ext4")

/-- `deleted_at + 7 * 24 * 60 * 60` -/
def weekAfter (site : Site) : Json → Except Error Json
  | .int number => .ok (.int (number + 7 * 24 * 60 * 60))
  | .bool flag => .ok (.int (flag.toNat + 7 * 24 * 60 * 60))
  | .float number => .ok (.float (site.plus number (7 * 24 * 60 * 60)))
  | .null | .str _ | .arr _ | .obj _ => .error .typeError

def setGcAt (site : Site) : Migration Unit := do
  match (← get).lookup "deleted_at" with
  | none | some .null => pure ()
  | some deletedAt =>
    match weekAfter site deletedAt with
    | .ok gcAt => setItem "gc_at" gcAt
    | .error error => throw error

def migrate2To3 (site : Site) : Migration Unit := do
  setItem "schema_version" (.int 3)
  setGcAt site

def migrate3To4 : Migration Unit := do
  setItem "schema_version" (.int 4)
  setItem "thin_provision" (.bool true)

def migrate4To5 : Migration Unit := do
  setItem "schema_version" (.int 5)
  setItem "ready" (.bool true)

def migrate5To6 (site : Site) : Migration Unit := do
  setItem "schema_version" (.int 6)
  setItem "storage_pool" site.defaultName

def migrate6To7 : Migration Unit := do
  setItem "schema_version" (.int 7)
  pop "reflink_attached"

/-- `mkdir(exist_ok=True, parents=True)` -/
def mkdir (site : Site) (path : String) : Migration Unit :=
  if site.unmakeable path then throw (.osError path) else pure ()

/-- What `migrate_7_to_8` does with an `img_file` below the old directory. -/
def relocate (site : Site) (volPath : String) : Migration Unit := do
  let imgFile := volPath ++ "/disk.img"
  if site.present imgFile then
    setItem "img_file" (.str imgFile)
    let snapshotsDir := volPath ++ "/snapshots"
    setItem "snapshots_dir" (.str snapshotsDir)
    mkdir site snapshotsDir
    mkdir site (snapshotsDir ++ "/temp")

/-- `migrate_7_to_8` behind the version, on the dictionary it reads. -/
def locate (site : Site) (data : Data) : Migration Unit :=
  match data.lookup "volume_id" with
  | none => throw (.keyError (.str "volume_id"))
  | some volumeId =>
    match getVolumePath site ((data.lookup "storage_pool").getD site.defaultName) volumeId with
    | .error error => throw error
    | .ok volPath =>
      match (data.lookup "img_file").getD .null with
      | .str imgFile => if imgFile.startsWith "/data" then relocate site volPath else pure ()
      | other => if truthy other then throw (.attributeError "startswith") else pure ()

def migrate7To8 (site : Site) : Migration Unit := do
  setItem "schema_version" (.int 8)
  locate site (← get)

/-- `getattr(sys.modules[__name__], f"migrate_{i}_to_{i + 1}")` -/
def migrateFn (site : Site) (i : Int) : Migration Unit :=
  match i with
  | 0 => migrate0To1
  | 1 => migrate1To2
  | 2 => migrate2To3 site
  | 3 => migrate3To4
  | 4 => migrate4To5
  | 5 => migrate5To6 site
  | 6 => migrate6To7
  | 7 => migrate7To8 site
  | _ => throw (.attributeError s!"migrate_{i}_to_{i + 1}")

/-- The version a dictionary has: 0 when it has none. -/
def schemaVersion (data : Data) : Except Error Int :=
  match (data.lookup "schema_version").getD (.int 0) with
  | .int version => .ok version
  | _ => .error .typeError

def tooNew (current target : Int) : Error :=
  .schemaVersionTooNew current target
    s!"Current schema version ({current}) is newer than target schema version ({target})"

/-- The loop of `migrate_to` over `count` versions. -/
def migrateFrom (site : Site) : Int → Nat → Migration Unit
  | _, 0 => pure ()
  | i, count + 1 => do
    migrateFn site i
    migrateFrom site (i + 1) count

def migrateTo (site : Site) (version : Int) : Migration Unit := do
  match schemaVersion (← get) with
  | .error error => throw error
  | .ok current =>
    if current > version then throw (tooNew current version)
    migrateFrom site current (version - current).toNat

/-- `migrate_metadata` up to the file: what it writes to `disk.meta`. The pool is
read from the dictionary that `migrate_to` has changed, and `update_permissions`
needs its path before anything is written. -/
def migrateMetadata (site : Site) (volumeId : String) (stored : Option Data) (targetVersion : Int) :
    Except Error Data :=
  match migrateTo site targetVersion (stored.getD []) with
  | .error error _ => .error error
  | .ok _ data =>
    match getVolumePath site ((data.lookup "storage_pool").getD site.defaultName) (.str volumeId) with
    | .error error => .error error
    | .ok _ => .ok data

/-- `migrate_all_volume_schemas`: the files of the volumes afterwards, and the
exception that stopped it. -/
def migrateAllVolumeSchemas (site : Site) : List (String × Data) → List (String × Data) × Option Error
  | [] => ([], none)
  | (volumeId, data) :: rest =>
    match migrateMetadata site volumeId (some data) latestSchemaVersion with
    | .error error => ((volumeId, data) :: rest, some error)
    | .ok migrated =>
      let (files, error) := migrateAllVolumeSchemas site rest
      ((volumeId, migrated) :: files, error)

end VolumeSchema
end Rawfile
