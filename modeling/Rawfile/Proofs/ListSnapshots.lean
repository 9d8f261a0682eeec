import Rawfile.ListSnapshots
import Rawfile.Proofs.Pagination
import Rawfile.Proofs.Text

/-! The responses of `ListSnapshots`. A page without an offset is answered with
a token that no call accepts, and the filters of a request are the pattern made
of the snapshot's id and nothing else. -/

namespace Rawfile
open Effects

private theorem intOf_tokenText (token : Option Int) : intOf (tokenText token) = token := by
  cases token with
  | none => decide
  | some number => exact intOf_toString number

private theorem tokenText_ne_empty (token : Option Int) : tokenText token ≠ "" := by
  intro empty
  cases token with
  | none => exact absurd empty (by decide)
  | some number =>
    have read := intOf_toString number
    rw [show toString number = "" from empty] at read
    exact absurd read (by simp [intOf, trim, readDigits])

namespace SnapshotManager

section
variable {files : Files} {args : ListSnapshotsArgs}

private theorem snapshotFiles_not_aborted {config : DriverConfig} {code : StatusCode} {details : String} :
    snapshotFiles config files args ≠ .error (.aborted code details) := by
  unfold snapshotFiles metadataOf
  grind

end
end SnapshotManager

namespace Bd2Fs
open SnapshotManager (allSnapshots allSnapshots_length describe everyPool_nodup fileName_part given isPart
  isRecursive lettered_of_visible listPage listPage_eq listedAs_eq matchesFile matchesFile_none matchesPath
  matchesPath_all matchesVolume mem_sortedSnapshots metadataOf nameOf_concat onlyDots pageFiles pageStart readAs
  readFrom snapshotFiles snapshotFiles_not_aborted sortedSnapshots sortedSnapshots_nodup stem_img)

section
variable (config : DriverConfig) (files : Files) (request : ListSnapshotsRequest)

def unpaged : ListSnapshotsRequest := { request with startingToken := "", maxEntries := 0 }

def remaining (response : ListSnapshotsResponse) : List SnapshotEntry :=
  match listSnapshots config files (unpaged request) with
  | .ok whole => whole.entries.drop (((intOf request.startingToken).getD 0).toNat + response.entries.length)
  | .error _ => []

/-- A token is empty at the end and otherwise one with which the listing goes on. -/
def TokenValid (response : ListSnapshotsResponse) : Prop :=
  if remaining config files request response = [] then response.nextToken = ""
  else response.nextToken ≠ "" ∧ ∀ later details,
    listSnapshots config later { request with startingToken := response.nextToken } ≠
      .error (.aborted .invalidArgument details)

end

section
variable {config : DriverConfig} {files : Files} {request : ListSnapshotsRequest}

def arguments (request : ListSnapshotsRequest) (volume name : Option String) (offset : Option Int) :
    ListSnapshotsArgs where
  volumeId := volume
  snapshotName := name
  offset := offset
  limit := if request.maxEntries = 0 then none else some request.maxEntries

def respond (config : DriverConfig) (files : Files) (args : ListSnapshotsArgs) (found : List Path) : ListSnapshotsResponse where
  entries := (listPage config files args found).data.map snapshotEntry
  nextToken := tokenText (listPage config files args found).nextToken

variable {volume name : Option String} {offset : Option Int}

theorem listSnapshots_eq (enabled : config.snapshotsEnabled = true)
    (names : wantedNames request.snapshotId = .ok (volume, name))
    (start : startingOffset request.startingToken = .ok offset) :
    listSnapshots config files request =
      (snapshotFiles config files { volumeId := volume, snapshotName := name }).map
        (respond config files (arguments request volume name offset)) := by
  have same : snapshotFiles config files (arguments request volume name offset) =
      snapshotFiles config files { volumeId := volume, snapshotName := name } := rfl
  unfold listSnapshots
  rw [if_pos enabled, names, start]
  show Except.bind (Except.map _ (snapshotFiles config files (arguments request volume name offset))) _ = _
  rw [same]
  cases snapshotFiles config files { volumeId := volume, snapshotName := name } <;> rfl

theorem answered {response : ListSnapshotsResponse} (ok : listSnapshots config files request = .ok response) :
    ∃ volume name offset found, config.snapshotsEnabled = true ∧
      wantedNames request.snapshotId = .ok (volume, name) ∧ startingOffset request.startingToken = .ok offset ∧
      snapshotFiles config files { volumeId := volume, snapshotName := name } = .ok found ∧
      response = respond config files (arguments request volume name offset) found := by
  cases enabled : config.snapshotsEnabled with
  | false => simp [listSnapshots, enabled] at ok
  | true =>
    cases names : wantedNames request.snapshotId with
    | error => rw [listSnapshots, if_pos enabled, names] at ok; cases ok
    | ok wanted =>
      obtain ⟨volume, name⟩ := wanted
      cases start : startingOffset request.startingToken with
      | error => rw [listSnapshots, if_pos enabled, names, start] at ok; cases ok
      | ok offset =>
        rw [listSnapshots_eq enabled names start] at ok
        cases listed : snapshotFiles config files { volumeId := volume, snapshotName := name } with
        | error => rw [listed] at ok; cases ok
        | ok found =>
          rw [listed] at ok
          cases ok
          exact ⟨volume, name, offset, found, rfl, rfl, rfl, listed, rfl⟩

private theorem startingOffset_eq {token : String} (start : startingOffset token = .ok offset) : offset = intOf token := by
  unfold startingOffset at start
  split at start
  next empty =>
    cases start
    rw [empty]
    decide
  next =>
    split at start
    next given => cases start; exact given.symm
    next => cases start

private theorem token_accepted (enabled : config.snapshotsEnabled = true)
    (names : wantedNames request.snapshotId = .ok (volume, name)) (token : Option Int) :
    (∀ later details, listSnapshots config later { request with startingToken := tokenText token } ≠
      .error (.aborted .invalidArgument details)) ↔ token.isSome := by
  constructor
  · intro accepted
    cases token with
    | some => rfl
    | none =>
      refine absurd ?_ (accepted .empty "invalid starting_token")
      simp only [listSnapshots, enabled, if_true, names]
      rfl
  · intro given later details refused
    obtain ⟨number, rfl⟩ := Option.isSome_iff_exists.mp given
    have start : startingOffset (tokenText (some number)) = .ok (some number) := by
      simp [startingOffset, tokenText_ne_empty, intOf_tokenText]
    rw [@listSnapshots_eq config later { request with startingToken := tokenText (some number) } volume name
      (some number) enabled names start] at refused
    cases failed : snapshotFiles config later { volumeId := volume, snapshotName := name } with
    | ok => rw [failed] at refused; cases refused
    | error error =>
      rw [failed] at refused
      cases refused
      exact snapshotFiles_not_aborted failed

theorem arguments_sized (nonnegative : 0 ≤ request.maxEntries) (limit : Int)
    (limited : (arguments request volume name offset).limit = some limit) : 0 < limit := by
  simp only [arguments] at limited
  split at limited
  · cases limited
  · cases limited
    omega

theorem remaining_eq (enabled : config.snapshotsEnabled = true) (nonnegative : 0 ≤ request.maxEntries)
    (names : wantedNames request.snapshotId = .ok (volume, name)) {found : List Path}
    (listed : snapshotFiles config files { volumeId := volume, snapshotName := name } = .ok found) :
    remaining config files request (respond config files (arguments request volume name (intOf request.startingToken)) found) =
      (found.drop (pageStart (arguments request volume name (intOf request.startingToken)) +
        (pageFiles (arguments request volume name (intOf request.startingToken)) found).length)).map
          (snapshotEntry ∘ describe config files) := by
  have whole : listSnapshots config files (unpaged request) =
      .ok (respond config files (arguments (unpaged request) volume name none) found) := by
    rw [@listSnapshots_eq config files (unpaged request) volume name none enabled names rfl, listed]
    rfl
  have everything := @listPage_eq config files (arguments (unpaged request) volume name none) rfl
    (arguments_sized (Int.le_refl 0)) found
  have page := @listPage_eq config files (arguments request volume name (intOf request.startingToken)) rfl
    (arguments_sized nonnegative) found
  unfold remaining
  rw [whole]
  simp only [respond, everything, page, List.map_map, List.length_map, ← List.map_drop]
  rfl

/-- The token of a response is valid if and only if the request had an offset other than zero and entries remain. -/
theorem next_token_valid {response : ListSnapshotsResponse} (nonnegative : 0 ≤ request.maxEntries)
    (ok : listSnapshots config files request = .ok response) :
    TokenValid config files request response ↔
      (∃ offset, intOf request.startingToken = some offset ∧ offset ≠ 0) ∧
        remaining config files request response ≠ [] := by
  obtain ⟨volume, name, offset, found, enabled, names, start, listed, rfl⟩ := answered ok
  cases startingOffset_eq start
  have page := @listPage_eq config files (arguments request volume name (intOf request.startingToken)) rfl
    (arguments_sized nonnegative) found
  have rest := remaining_eq enabled nonnegative names listed
  have offset : (arguments request volume name (intOf request.startingToken)).offset = intOf request.startingToken := rfl
  unfold TokenValid
  generalize arguments request volume name (intOf request.startingToken) = args at page rest offset ⊢
  have token : (respond config files args found).nextToken = tokenText (listPage config files args found).nextToken :=
    rfl
  rw [token, page, rest]
  by_cases more : pageStart args + (pageFiles args found).length < found.length
  · have some : found.drop (pageStart args + (pageFiles args found).length) ≠ [] := by
      intro empty
      have behind := List.drop_eq_nil_iff.mp empty
      omega
    rw [if_neg (by simpa using some), if_pos more, token_accepted enabled names, offset]
    cases intOf request.startingToken with
    | none => simp
    | some number => by_cases zero : number = 0 <;> simp [zero, more, tokenText_ne_empty]
  · have nothing : found.drop (pageStart args + (pageFiles args found).length) = [] :=
      List.drop_of_length_le (by omega)
    rw [nothing]
    simp [tokenText_ne_empty]

end

namespace Tokens
open SnapshotManager.Pagination

def threeSnapshots : Files :=
  (twoSnapshots.write (.snapshot "default" "v" false "c") (.bytes .empty)).toOption.getD .empty

/-- The second page of one snapshot out of three. -/
theorem next_token_valid_second : ∃ response,
    listSnapshots singlePool threeSnapshots { maxEntries := 1, startingToken := "1" } = .ok response ∧
      TokenValid singlePool threeSnapshots { maxEntries := 1, startingToken := "1" } response := by
  have ok := @listSnapshots_eq singlePool threeSnapshots { maxEntries := 1, startingToken := "1" } none none (some 1)
    rfl rfl rfl
  have listed : snapshotFiles singlePool threeSnapshots {} =
    .ok (allSnapshots singlePool threeSnapshots) := rfl
  have three : (allSnapshots singlePool threeSnapshots).length = 3 := by
    rw [allSnapshots_length]
    decide +kernel
  rw [listed] at ok
  refine ⟨_, ok, (next_token_valid (by decide) ok).mpr ⟨⟨1, by decide, by decide⟩, ?_⟩⟩
  have rest := @remaining_eq singlePool threeSnapshots { maxEntries := 1, startingToken := "1" } none none rfl
    (by decide) rfl _ listed
  intro empty
  have lengths := congrArg List.length (rest.symm.trans empty)
  simp [pageFiles, pageStart, arguments, three, show intOf "1" = some 1 by decide] at lengths

/-- A node without snapshots answers with a token, and the token is refused. -/
theorem token_refused : ∃ response, listSnapshots singlePool .empty {} = .ok response ∧
    remaining singlePool .empty {} response = [] ∧ response.nextToken = "None" ∧
    listSnapshots singlePool .empty { startingToken := response.nextToken } =
      .error (.aborted .invalidArgument "invalid starting_token") := by
  refine ⟨⟨[], "None"⟩, ?_, ?_, rfl, ?_⟩ <;> decide +kernel

end Tokens

section
variable (config : DriverConfig) (files : Files) (request : ListSnapshotsRequest)

def storedSnapshots : List SnapshotFile :=
  (files.entries.keys.filterMap Path.snapshotFile).filter fun file => file.pool ∈ config.storagePools && !file.temporary

def fromSource (volume : VolumeId) : Bool := request.sourceVolumeId = "" || volume = request.sourceVolumeId

def wanted (file : SnapshotFile) : Bool :=
  (request.snapshotId = "" || file.volume ++ "/" ++ file.name = request.snapshotId) && fromSource request file.volume

/-- The entry of a stored snapshot. -/
def entryOf (file : SnapshotFile) : SnapshotEntry where
  sizeBytes := ((Files.image files file.path).map Image.size).getD 0
  snapshotId := file.volume ++ "/" ++ file.name
  sourceVolumeId := file.volume
  readyToUse := !files.present file.marker

/-- The files have the entries of the stored snapshots that are wanted. -/
def Answers (found : List Path) : Prop :=
  (found.map (snapshotEntry ∘ describe config files)).Perm
    (((storedSnapshots config files).filter (wanted request)).map (entryOf files))

def isHidden (file : SnapshotFile) : Bool := Glob.isHidden file.volume || Glob.isHidden file.fileName

/-- The volumes that the volume of an id stands for. -/
def fitsVolume (front : String) (volume : VolumeId) : Bool :=
  if front = "**" then !Glob.isHidden volume else Glob.picks front volume

/-- The file names that the name of an id stands for; an empty one stands for all that are not hidden. -/
def fits (name fileName : String) : Bool := Glob.picks ((if name = "" then "*" else name) ++ ".img") fileName

/-- The requests that are answered exactly, by the form of the id: none, one
that begins with its only slash, or one of a volume that still has metadata. -/
inductive Exact : Prop
  | everything (unasked : request.snapshotId = "")
      (shown : ∀ file ∈ storedSnapshots config files, fromSource request file.volume = true → isHidden file = false)
      (all : ∀ file ∈ storedSnapshots config files, isHidden file = false → fromSource request file.volume = true)
      (images : ∀ pool ∈ config.storagePools, files.lookup (.imgFile pool "snapshots") = none)
  | nothing {name : String} (split : splitId request.snapshotId = some ("", name))
      (unfit : ∀ file ∈ storedSnapshots config files, Glob.isHidden file.volume = false → fits name file.fileName = false)
      (images : fits name "disk.img" = true → ∀ pool ∈ config.storagePools, files.lookup (.imgFile pool "snapshots") = none)
  | one {volume name : String} {data : Meta} {pool : PoolName} (split : splitId request.snapshotId = some (volume, name))
      (named : volume ≠ "") (recorded : Files.metadata files volume = some data) (pooled : data.storagePool = some pool)
      (configured : pool ∈ config.storagePools)
      (only : ∀ file ∈ storedSnapshots config files, file.pool = pool →
        fitsVolume volume file.volume = true → fits name file.fileName = true →
          file.volume = volume ∧ file.name = name ∧ fromSource request volume = true)
      (itself : fromSource request volume = true → ∀ file ∈ storedSnapshots config files, file.volume = volume →
        file.name = name → file.pool = pool ∧ fitsVolume volume volume = true ∧
          fits name file.fileName = true ∧ onlyDots name = false)
      (images : volume = "**" → fits name "disk.img" = true → files.lookup (.imgFile pool "snapshots") = none)

/-- What the loop over the files goes over, by the form of the id. -/
inductive Searches : String → List Path → Prop
  | everything : Searches "" (config.storagePools.flatMap (sortedSnapshots files {}))
  | anyVolume {snapshotId name : String} (split : splitId snapshotId = some ("", name)) : Searches snapshotId
      (config.storagePools.flatMap
        (sortedSnapshots files { volumeId := some "", snapshotName := some name }))
  | ofVolume {snapshotId volume name : String} {data : Meta} {pool : PoolName}
      (split : splitId snapshotId = some (volume, name)) (named : volume ≠ "")
      (recorded : Files.metadata files volume = some data) (pooled : data.storagePool = some pool)
      (configured : pool ∈ config.storagePools) : Searches snapshotId
        (sortedSnapshots files { volumeId := some volume, snapshotName := some name } pool)

end

/-- Every snapshot is of a volume with a name, and has the name of a file. -/
def Named (files : Files) : Prop :=
  ∀ file : SnapshotFile, files.lookup file.path ≠ none →
    isPart file.volume = true ∧ '/' ∉ file.name.toList

section
variable {config : DriverConfig} {files : Files} {request : ListSnapshotsRequest} {snapshotId : String}
  {volume name : Option String} {found : List Path} {file : SnapshotFile} {path : Path} {pool : PoolName}

theorem mem_storedSnapshots : file ∈ storedSnapshots config files ↔
    files.lookup file.path ≠ none ∧ file.pool ∈ config.storagePools ∧ file.temporary = false := by
  rw [storedSnapshots, List.mem_filter, List.mem_filterMap, ← FileTree.listed_iff]
  simp only [Bool.and_eq_true, decide_eq_true_eq, Bool.not_eq_true']
  refine and_congr_left fun _ => ⟨?_, fun listed => ⟨_, listed, rfl⟩⟩
  rintro ⟨path, listed, same⟩
  cases path <;> cases same
  exact listed

private theorem storedSnapshots_nodup : (storedSnapshots config files).Nodup := by
  refine List.Nodup.filter _ (List.Nodup.filterMap ?_ files.entries.keys_nodup)
  intro first second file one two
  cases first <;> cases one
  cases second <;> cases two
  rfl

private theorem splitId_joins {text front name : String} (split : splitId text = some (front, name)) :
    text = front ++ "/" ++ name := by
  have whole := @List.takeWhile_append_dropWhile _ (fun letter => decide (letter ≠ '/')) text.toList.reverse
  have stops := List.head?_dropWhile_not (fun letter => decide (letter ≠ '/')) text.toList.reverse
  unfold splitId at split
  dsimp only at split
  split at split
  next => cases split
  next slash rest found =>
    cases split
    rw [found] at whole stops
    have slash : slash = '/' := by simpa using stops
    apply String.toList_inj.mp
    rw [← List.reverse_inj]
    conv_lhs => rw [← whole, slash]
    simp

theorem Searches.nodup (searches : Searches config files snapshotId found) (distinct : config.storagePools.Nodup) :
    found.Nodup := by
  cases searches with
  | everything | anyVolume => exact everyPool_nodup distinct _
  | ofVolume => exact sortedSnapshots_nodup _ _

section Entries
variable (valid : Named files) (present : files.lookup file.path ≠ none) (permanent : file.temporary = false)
include valid present permanent

private theorem readFrom_path : readFrom config file.path =
    (file.volume, if onlyDots file.name then file.fileName else file.name) := by
  have part := (valid file present).1
  obtain ⟨pool, volume, temporary, name⟩ := file
  subst permanent
  simp only [SnapshotFile.path, readFrom, listedAs_eq, Bool.false_eq_true, if_false,
    if_pos part]

private theorem entry_read (readable : onlyDots file.name = false) :
    (snapshotEntry ∘ describe config files) file.path = entryOf files file := by
  have read := @readFrom_path config files file valid present permanent
  rw [if_neg (by simp [readable])] at read
  simp only [Function.comp, snapshotEntry, describe, read, entryOf]
  rfl

end Entries

/-- A path that matches is that of a stored snapshot or the image of a volume called `snapshots`. -/
theorem matched_path {args : ListSnapshotsArgs} (permanent : args.temporary = false)
    (configured : pool ∈ config.storagePools) (present : files.lookup path ≠ none)
    (matching : matchesPath args pool path = true) :
    (path = .imgFile pool "snapshots" ∧ isRecursive (given args.volumeId) = true ∧
        matchesFile (given args.snapshotName) "disk.img" = true) ∨
      ∃ file ∈ storedSnapshots config files, path = file.path ∧ file.pool = pool ∧
        matchesVolume (given args.volumeId) file.volume = true ∧
        matchesFile (given args.snapshotName) file.fileName = true := by
  cases path with
  | snapshot place volume temporary name =>
    simp only [matchesPath, Bool.and_eq_true, decide_eq_true_eq, and_assoc] at matching
    obtain ⟨rfl, kind, volumes, names⟩ := matching
    have stored : ⟨place, volume, temporary, name⟩ ∈ storedSnapshots config files :=
      mem_storedSnapshots.mpr ⟨present, configured, kind.trans permanent⟩
    exact .inr ⟨_, stored, rfl, rfl, volumes, names⟩
  | imgFile place volume =>
    simp only [matchesPath, Bool.and_eq_true, decide_eq_true_eq, and_assoc] at matching
    obtain ⟨rfl, rfl, -, recursive, names⟩ := matching
    exact .inl ⟨rfl, recursive, names⟩
  | _ => cases matching

theorem matches_stored {args : ListSnapshotsArgs} (permanent : args.temporary = false)
    (stored : file ∈ storedSnapshots config files)
    (volumes : matchesVolume (given args.volumeId) file.volume = true)
    (names : matchesFile (given args.snapshotName) file.fileName = true) :
    file.path ∈ sortedSnapshots files args file.pool := by
  obtain ⟨present, -, kind⟩ := mem_storedSnapshots.mp stored
  refine mem_sortedSnapshots.mpr ⟨present, ?_⟩
  have names : matchesFile (given args.snapshotName) (file.name ++ ".img") = true := names
  simp [SnapshotFile.path, matchesPath, kind, permanent, volumes, names]

theorem matches_image {args : ListSnapshotsArgs} (permanent : args.temporary = false)
    (present : files.lookup (.imgFile pool "snapshots") ≠ none)
    (recursive : isRecursive (given args.volumeId) = true)
    (names : matchesFile (given args.snapshotName) "disk.img" = true) :
    Path.imgFile pool "snapshots" ∈ sortedSnapshots files args pool :=
  mem_sortedSnapshots.mpr ⟨present, by simp [matchesPath, permanent, recursive, names]⟩

theorem path_injective : Function.Injective SnapshotFile.path := by
  rintro ⟨⟩ ⟨⟩ same
  cases same
  rfl

private theorem exact_of_members (once : found.Nodup) (valid : Named files)
    (readable : ∀ file ∈ storedSnapshots config files, wanted request file = true →
      onlyDots file.name = false)
    (members : ∀ path, path ∈ found ↔ ∃ file ∈ storedSnapshots config files, wanted request file = true ∧
      path = file.path) :
    Answers config files request found := by
  have paths : found.Perm (((storedSnapshots config files).filter (wanted request)).map SnapshotFile.path) := by
    refine (List.perm_ext_iff_of_nodup once ((storedSnapshots_nodup.filter _).map path_injective)).mpr fun path => ?_
    rw [members, List.mem_map]
    simp only [List.mem_filter, and_assoc]
    exact exists_congr fun file => and_congr_right fun _ => and_congr_right fun _ => eq_comm
  refine (paths.map _).trans ?_
  rw [List.map_map]
  refine List.Perm.of_eq (List.map_congr_left fun file member => ?_)
  obtain ⟨stored, wants⟩ := List.mem_filter.mp member
  obtain ⟨present, -, permanent⟩ := mem_storedSnapshots.mp stored
  exact entry_read valid present permanent (readable file stored wants)

section Exactly
variable (same : Answers config files request found)
include same

end Exactly

private theorem mem_everything : file.path ∈ config.storagePools.flatMap (sortedSnapshots files {}) ↔
    file ∈ storedSnapshots config files ∧ isHidden file = false := by
  simp only [List.mem_flatMap, mem_sortedSnapshots, matchesPath_all, mem_storedSnapshots,
    isHidden, Bool.or_eq_false_iff]
  constructor
  · rintro ⟨pool, configured, present, image | ⟨other, path, rfl, permanent, volume, name⟩⟩
    · cases image
    · cases path_injective path
      exact ⟨⟨present, configured, permanent⟩, volume, name⟩
  · rintro ⟨⟨present, configured, permanent⟩, volume, name⟩
    exact ⟨file.pool, configured, present, .inr ⟨file, rfl, rfl, permanent, volume, name⟩⟩

private theorem visible_lettered (visible : isHidden file = false) : onlyDots file.name = false :=
  lettered_of_visible (Bool.or_eq_false_iff.mp visible).2

section Everything
variable (valid : Named files) (unasked : request.snapshotId = "")
include valid unasked

end Everything

theorem matchesFile_fits (name fileName : String) : matchesFile (given (some name)) fileName = fits name fileName := by
  by_cases empty : name = ""
  · rw [empty]
    rfl
  · have filled : given (some name) = some name := by simp [given, empty]
    rw [filled, matchesFile, fits, if_neg empty, Option.getD_some]

private theorem matchesVolume_fits (front : String) (volume : VolumeId) :
    matchesVolume (some front) volume = fitsVolume front volume := by
  simp [matchesVolume, isRecursive, fitsVolume]

section OfVolume
variable {front title : String} (valid : Named files) (split : splitId request.snapshotId = some (front, title))
include valid split

theorem wanted_split (stored : file ∈ storedSnapshots config files) : wanted request file = true ↔
    file.volume = front ∧ file.name = title ∧ fromSource request file.volume = true := by
  have joined := splitId_joins split
  have apart := @splitId_slash file.volume file.name (valid file (mem_storedSnapshots.mp stored).1).2
  have asked : request.snapshotId ≠ "" := by
    intro empty
    rw [empty] at split
    cases split
  simp only [wanted, asked, decide_false, Bool.false_or, Bool.and_eq_true, decide_eq_true_eq, ← and_assoc]
  refine and_congr_left fun _ => ⟨fun same => ?_, ?_⟩
  · rw [same, split] at apart
    cases apart
    exact ⟨rfl, rfl⟩
  · rintro ⟨rfl, rfl⟩
    exact joined.symm

theorem unwanted (nameless : front = "") (stored : file ∈ storedSnapshots config files) : wanted request file ≠ true := by
  intro wants
  have part := (valid file (mem_storedSnapshots.mp stored).1).1
  rw [((wanted_split valid split stored).mp wants).1, nameless] at part
  cases part

end OfVolume

theorem Exact.lists (exact : Exact config files request) (valid : Named files) (distinct : config.storagePools.Nodup) :
    ∃ found, Searches config files request.snapshotId found ∧
      Answers config files request found := by
  cases exact with
  | everything unasked shown all images =>
    have wants : ∀ file : SnapshotFile, wanted request file = fromSource request file.volume := by
      simp [wanted, unasked]
    have searches : Searches config files request.snapshotId
        (config.storagePools.flatMap (sortedSnapshots files {})) := unasked ▸ .everything
    refine ⟨_, searches, exact_of_members (searches.nodup distinct) valid (fun file stored wanted => ?_) fun path => ?_⟩
    · exact visible_lettered (shown file stored ((wants file).symm.trans wanted))
    constructor
    · intro member
      obtain ⟨pool, configured, matched⟩ := List.mem_flatMap.mp member
      obtain ⟨present, matching⟩ := mem_sortedSnapshots.mp matched
      rcases matchesPath_all.mp matching with rfl | ⟨file, rfl, -⟩
      · exact absurd (images pool configured) present
      · obtain ⟨stored, visible⟩ := mem_everything.mp member
        exact ⟨file, stored, (wants file).trans (all file stored visible), rfl⟩
    · rintro ⟨file, stored, wanted, rfl⟩
      exact mem_everything.mpr ⟨stored, shown file stored ((wants file).symm.trans wanted)⟩
  | nothing split unfit images =>
    have searches := @Searches.anyVolume config files _ _ split
    refine ⟨_, searches, exact_of_members (searches.nodup distinct) valid (fun file stored wants => ?_) fun path => ?_⟩
    · exact absurd wants (unwanted valid split rfl stored)
    constructor
    · intro member
      obtain ⟨pool, configured, matched⟩ := List.mem_flatMap.mp member
      obtain ⟨present, matching⟩ := mem_sortedSnapshots.mp matched
      rcases matched_path rfl configured present matching with ⟨rfl, -, fitting⟩ | ⟨file, stored, rfl, -, volumes, fitting⟩
      · exact absurd (images ((matchesFile_fits ..).symm.trans fitting) pool configured) present
      · have shown : (!Glob.isHidden file.volume) = true := volumes
        have visible : Glob.isHidden file.volume = false := by simpa using shown
        cases (unfit file stored visible).symm.trans ((matchesFile_fits ..).symm.trans fitting)
    · rintro ⟨file, stored, wants, -⟩
      exact absurd wants (unwanted valid split rfl stored)
  | @one volume name data pool split named recorded pooled configured only itself images =>
    have searches := @Searches.ofVolume config files _ _ _ _ _ split named recorded pooled configured
    have filled : given (some volume) = some volume := by simp [given, named]
    refine ⟨_, searches, exact_of_members (searches.nodup distinct) valid (fun file stored wants => ?_) fun path => ?_⟩
    · obtain ⟨rfl, rfl, source⟩ := (wanted_split valid split stored).mp wants
      exact (itself source file stored rfl rfl).2.2.2
    constructor
    · intro member
      obtain ⟨present, matching⟩ := mem_sortedSnapshots.mp member
      rcases matched_path rfl configured present matching with
        ⟨rfl, recursive, fitting⟩ | ⟨file, stored, rfl, place, volumes, fitting⟩
      · rw [filled] at recursive
        exact absurd (images (of_decide_eq_true recursive) ((matchesFile_fits ..).symm.trans fitting)) present
      · rw [filled, matchesVolume_fits] at volumes
        obtain ⟨same, title, source⟩ := only file stored place volumes ((matchesFile_fits ..).symm.trans fitting)
        exact ⟨file, stored, (wanted_split valid split stored).mpr ⟨same, title, same ▸ source⟩, rfl⟩
    · rintro ⟨file, stored, wants, rfl⟩
      obtain ⟨rfl, rfl, source⟩ := (wanted_split valid split stored).mp wants
      obtain ⟨rfl, volumes, fitting, -⟩ := itself source file stored rfl rfl
      exact matches_stored rfl stored (by rw [filled, matchesVolume_fits]; exact volumes)
        ((matchesFile_fits ..).trans fitting)

end

namespace Filters
open SnapshotManager.Pagination

def recorded : Files :=
  (do
    let files ← twoSnapshots.mkdirs (.metaDir "v")
    files.write (.metaFile "v") (.json { storagePool := some "default" })).toOption.getD .empty

end Filters
end Bd2Fs
end Rawfile
