import Rawfile.Proofs.Calm
import Rawfile.Proofs.SnapshotPaths

/-! Listing snapshots page by page. A page that was asked for with an offset is
a slice of the unpaged listing and its token leads to the next slice; the first
page has no offset and so never has a token. -/

namespace Rawfile
open Effects

namespace SnapshotManager

section Remainder
variable {α : Type} (wanted : α → Bool)

def unexamined : Nat → List α → List α
  | 0, list => list
  | _ + 1, [] => []
  | count + 1, first :: rest => if wanted first then unexamined count rest else unexamined (count + 1) rest

variable {wanted} {count : Nat} {list : List α}

theorem unexamined_room (more : unexamined wanted count list ≠ []) :
    (unexamined wanted count list).length + count ≤ list.length ∧ count ≤ (list.filter wanted).length := by
  fun_induction unexamined wanted count list with
  | case1 => exact ⟨Nat.le_refl _, Nat.zero_le _⟩
  | case2 => exact absurd rfl more
  | case3 count first rest isWanted ih =>
    have room := ih more
    rw [List.filter_cons_of_pos isWanted, List.length_cons, List.length_cons]
    omega
  | case4 count first rest dropped ih =>
    have room := ih more
    rw [List.filter_cons_of_neg dropped, List.length_cons]
    omega

section
variable (ended : unexamined wanted count list = [])
include ended

theorem filter_of_unexamined : (list.filter wanted).take count = list.filter wanted := by
  fun_induction unexamined wanted count list with
  | case1 => rw [ended]; rfl
  | case2 => rfl
  | case3 count first rest isWanted ih => rw [List.filter_cons_of_pos isWanted, List.take_succ_cons, ih ended]
  | case4 count first rest dropped ih => rw [List.filter_cons_of_neg dropped, ih ended]

private theorem unexamined_succ : unexamined wanted (count + 1) list = [] := by
  fun_induction unexamined wanted count list with
  | case1 => rw [ended]; rfl
  | case2 => rfl
  | case3 count first rest isWanted ih => rw [unexamined, if_pos isWanted, ih ended]
  | case4 count first rest dropped ih => rw [unexamined, if_neg dropped, ih ended]

theorem unexamined_drop (passed : Nat) : unexamined wanted count (list.drop passed) = [] := by
  induction passed generalizing list with
  | zero => exact ended
  | succ passed ih =>
    cases list with
    | nil => exact ended
    | cons first rest =>
      apply ih
      cases count with
      | zero => cases ended
      | succ count =>
        rw [unexamined] at ended
        split at ended
        · exact unexamined_succ ended
        · exact ended

end

theorem unexamined_iff (more : unexamined wanted count list ≠ []) :
    unexamined wanted count list = list.drop count ↔ (list.take count).all wanted = true := by
  fun_induction unexamined wanted count list with
  | case1 => exact ⟨fun _ => rfl, fun _ => rfl⟩
  | case2 => exact absurd rfl more
  | case3 count first rest isWanted ih =>
    rw [List.drop_succ_cons, List.take_succ_cons, List.all_cons, isWanted, Bool.true_and]
    exact ih more
  | case4 count first rest dropped ih =>
    have room := (unexamined_room more).1
    rw [List.drop_succ_cons, List.take_succ_cons, List.all_cons]
    refine ⟨fun same => ?_, fun all => absurd (Bool.and_eq_true_iff.mp all).1 dropped⟩
    rw [same, List.length_drop] at room
    omega

private theorem unexamined_all (all : ∀ item ∈ list, wanted item = true) : unexamined wanted count list = list.drop count := by
  fun_induction unexamined wanted count list with
  | case1 => rfl
  | case2 => rfl
  | case3 count first rest isWanted ih => exact ih fun item member => all item (List.mem_cons_of_mem _ member)
  | case4 count first rest dropped ih => exact absurd (all first (List.mem_cons_self ..)) dropped

end Remainder

section
variable {config : DriverConfig} {files : Files} {args : ListSnapshotsArgs}

private theorem listFrom_skips {offset : Nat} (wanted : args.offset = some (offset : Int)) (count : Nat)
    (skipped rest : List Path) (idx last : Nat) (below : idx + skipped.length ≤ offset) :
    ∃ seen, listFrom config files args (skipped ++ rest) idx last count =
      listFrom config files args rest (idx + skipped.length) seen count := by
  induction skipped generalizing idx last with
  | nil => exact ⟨last, rfl⟩
  | cons file skipped ih =>
    rw [List.length_cons] at below
    have before : isGiven args.offset (fun offset => (idx : Int) < offset) = true := by
      simp only [isGiven, wanted, ne_eq, Bool.and_eq_true, decide_eq_true_eq]
      omega
    obtain ⟨seen, same⟩ := ih (idx + 1) idx (by omega)
    refine ⟨seen, ?_⟩
    rw [List.cons_append, listFrom, if_pos before, same, List.length_cons, Nat.add_assoc, Nat.add_comm 1]

def listed (files : Files) (args : ListSnapshotsArgs) (file : Path) : Bool :=
  args.ready ≠ some (isCreating files file)

/-- From the offset on, the loop lists the wanted files until there are enough. -/
theorem listFrom_filters {limit : Nat} (bounded : args.limit = some (limit : Int)) (found : List Path)
    (idx last count : Nat) (room : count < limit)
    (beyond : ∀ later, idx ≤ later → isGiven args.offset (fun offset => (later : Int) < offset) = false) :
    (listFrom config files args found idx last count).1 =
        ((found.filter (listed files args)).take (limit - count)).map (describe config files) ∧
      (found ≠ [] → (listFrom config files args found idx last count).2 + 1 +
        (unexamined (listed files args) (limit - count) found).length = idx + found.length) := by
  induction found generalizing idx last count with
  | nil => exact ⟨by simp [listFrom], fun some => absurd rfl some⟩
  | cons file rest ih =>
    obtain ⟨more, left⟩ : ∃ more, limit - count = more + 1 := ⟨limit - (count + 1), by omega⟩
    have further : ∀ later, idx + 1 ≤ later → isGiven args.offset (fun offset => (later : Int) < offset) = false :=
      fun later after => beyond later (by omega)
    rw [listFrom, if_neg (by simp [beyond idx (Nat.le_refl _)]), left, unexamined, List.length_cons]
    by_cases dropped : args.ready = some (isCreating files file)
    · have unwanted : ¬ listed files args file = true := by simp [listed, dropped]
      obtain ⟨listed, ended⟩ := ih (idx + 1) idx count room further
      rw [if_pos dropped, if_neg unwanted, List.filter_cons_of_neg unwanted, ← left]
      refine ⟨listed, fun _ => ?_⟩
      by_cases empty : rest = []
      · subst empty
        simp [listFrom, left, unexamined]
      · have last := ended empty
        omega
    · have kept : listed files args file = true := decide_eq_true dropped
      rw [if_neg dropped, if_pos kept, List.filter_cons_of_pos kept]
      by_cases full : limit = count + 1
      · have stops : isGiven args.limit (fun limit => limit ≤ count + 1) = true := by
          simp [isGiven, bounded, full]
          omega
        obtain rfl : more = 0 := by omega
        rw [if_pos stops]
        refine ⟨by simp, fun _ => ?_⟩
        rw [unexamined]
        dsimp only
        omega
      · have goes : isGiven args.limit (fun limit => limit ≤ count + 1) = false := by
          simp only [isGiven, bounded, ne_eq, Bool.and_eq_false_iff, decide_eq_false_iff_not]
          omega
        obtain ⟨listed, ended⟩ := ih (idx + 1) idx (count + 1) (by omega) further
        obtain rfl : more = limit - (count + 1) := by omega
        rw [if_neg (by simp [goes])]
        refine ⟨by simp [listed], fun _ => ?_⟩
        dsimp only
        by_cases empty : rest = []
        · subst empty
          obtain ⟨fewer, rest⟩ : ∃ fewer, limit - (count + 1) = fewer + 1 := ⟨limit - (count + 2), by omega⟩
          simp [listFrom, rest, unexamined]
        · have last := ended empty
          omega

private theorem listFrom_lists {limit : Nat} (bounded : args.limit = some (limit : Int)) (unfiltered : args.ready = none)
    (found : List Path) (idx last count : Nat) (room : count < limit)
    (beyond : ∀ later, idx ≤ later → isGiven args.offset (fun offset => (later : Int) < offset) = false) :
    (listFrom config files args found idx last count).1 = (found.take (limit - count)).map (describe config files) ∧
      (found ≠ [] → (listFrom config files args found idx last count).2 + 1 = idx + min (limit - count) found.length) := by
  have all : ∀ file ∈ found, listed files args file = true := fun file _ => by simp [listed, unfiltered]
  obtain ⟨lists, ended⟩ := @listFrom_filters config files args limit bounded found idx last count room beyond
  rw [List.filter_eq_self.mpr all] at lists
  refine ⟨lists, fun some => ?_⟩
  have last := ended some
  rw [unexamined_all all, List.length_drop] at last
  omega

private theorem listFrom_rest (unbounded : args.limit = none) (unfiltered : args.ready = none)
    (found : List Path) (idx last count : Nat)
    (beyond : ∀ later, idx ≤ later → isGiven args.offset (fun offset => (later : Int) < offset) = false) :
    (listFrom config files args found idx last count).1 = found.map (describe config files) ∧
      (found ≠ [] → (listFrom config files args found idx last count).2 + 1 = idx + found.length) := by
  induction found generalizing idx last count with
  | nil => exact ⟨rfl, fun some => absurd rfl some⟩
  | cons file rest ih =>
    obtain ⟨listed, ended⟩ := ih (idx + 1) idx (count + 1) fun later after => beyond later (by omega)
    rw [listFrom, if_neg (by simp [beyond idx (Nat.le_refl _)]), if_neg (by simp [unfiltered]),
      if_neg (by simp [isGiven, unbounded]), List.length_cons]
    constructor
    · simp [listed]
    · intro _
      dsimp only
      by_cases empty : rest = []
      · subst empty
        simp [listFrom]
      · have last := ended empty
        omega

def pageStart (args : ListSnapshotsArgs) : Nat := (args.offset.getD 0).toNat

def pageFiles (args : ListSnapshotsArgs) (found : List Path) : List Path :=
  match args.limit with
  | none => found.drop (pageStart args)
  | some limit => (found.drop (pageStart args)).take limit.toNat

theorem beyond_start (later : Nat) (after : pageStart args ≤ later) :
    isGiven args.offset (fun offset => (later : Int) < offset) = false := by
  unfold pageStart at after
  cases given : args.offset with
  | none => rfl
  | some offset =>
    rw [given, Option.getD_some] at after
    simp only [isGiven, Bool.and_eq_false_iff, decide_eq_false_iff_not]
    omega

theorem listFrom_start (found : List Path) : ∃ seen, listFrom config files args found 0 0 0 =
    listFrom config files args (found.drop (pageStart args)) (min (pageStart args) found.length) seen 0 := by
  by_cases positive : 0 < pageStart args
  · have wanted : args.offset = some (pageStart args : Int) := by
      unfold pageStart at positive ⊢
      cases given : args.offset with
      | none => rw [given] at positive; exact absurd positive (by decide)
      | some offset =>
        rw [given, Option.getD_some] at positive
        simp only [Option.getD_some, Option.some.injEq]
        omega
    have skips := @listFrom_skips config files args _ wanted 0 (found.take (pageStart args)) (found.drop (pageStart args)) 0 0
      (by simp)
    rwa [List.take_append_drop, Nat.zero_add, List.length_take] at skips
  · have zero : pageStart args = 0 := by omega
    rw [zero]
    exact ⟨0, by simp⟩

/-- A page is a slice of the files found, and the loop ends at its last file. -/
theorem listFrom_page (unfiltered : args.ready = none) (sized : ∀ limit, args.limit = some limit → 0 < limit)
    (found : List Path) :
    (listFrom config files args found 0 0 0).1 = (pageFiles args found).map (describe config files) ∧
      (pageFiles args found ≠ [] →
        (listFrom config files args found 0 0 0).2 + 1 = pageStart args + (pageFiles args found).length) := by
  obtain ⟨seen, skipped⟩ := @listFrom_start config files args found
  rw [skipped]
  by_cases inside : pageStart args ≤ found.length
  · rw [Nat.min_eq_left inside]
    unfold pageFiles
    cases limited : args.limit with
    | none => exact listFrom_rest limited unfiltered _ _ seen 0 beyond_start
    | some limit =>
      have positive := sized limit limited
      obtain ⟨size, rfl⟩ : ∃ size : Nat, limit = size := ⟨limit.toNat, by omega⟩
      obtain ⟨listed, ended⟩ := listFrom_lists limited unfiltered (found.drop (pageStart args)) (pageStart args) seen 0
        (by omega) (@beyond_start args)
      rw [Nat.sub_zero] at listed ended
      dsimp only
      rw [Int.toNat_natCast, List.length_take]
      refine ⟨listed, fun some => ended ?_⟩
      intro empty
      rw [empty, List.take_nil] at some
      exact some rfl
  · have empty : found.drop (pageStart args) = [] := List.drop_of_length_le (by omega)
    have none : pageFiles args found = [] := by
      unfold pageFiles
      split <;> simp [empty]
    rw [empty, none]
    exact ⟨rfl, fun some => absurd rfl some⟩

private theorem pageFiles_empty (sized : ∀ limit, args.limit = some limit → 0 < limit) {found : List Path}
    (empty : pageFiles args found = []) : found.length ≤ pageStart args := by
  unfold pageFiles at empty
  cases limited : args.limit with
  | none =>
    rw [limited] at empty
    exact List.drop_eq_nil_iff.mp empty
  | some limit =>
    have positive := sized limit limited
    rw [limited] at empty
    rcases List.take_eq_nil_iff.mp empty with zero | empty
    · omega
    · exact List.drop_eq_nil_iff.mp empty

/-- A token is given when the request had an offset other than zero and files are left behind the page. -/
theorem listPage_eq (unfiltered : args.ready = none) (sized : ∀ limit, args.limit = some limit → 0 < limit)
    (found : List Path) : listPage config files args found =
      { data := (pageFiles args found).map (describe config files)
        nextToken := if pageStart args + (pageFiles args found).length < found.length then
            (args.offset.filter (· ≠ 0)).map fun offset => offset + (pageFiles args found).length
          else none } := by
  obtain ⟨listed, ended⟩ := @listFrom_page config files args unfiltered sized found
  unfold listPage
  generalize listFrom config files args found 0 0 0 = result at listed ended
  obtain ⟨snapshots, idx⟩ := result
  dsimp only at listed ended ⊢
  have length : snapshots.length = (pageFiles args found).length := by rw [listed, List.length_map]
  have left : (decide (snapshots ≠ []) && decide (idx + 1 < found.length)) =
      decide (pageStart args + (pageFiles args found).length < found.length) := by
    by_cases empty : pageFiles args found = []
    · have behind := pageFiles_empty sized empty
      rw [listed, empty]
      simp only [List.map_nil, ne_eq, not_true_eq_false, decide_false, Bool.false_and, List.length_nil]
      exact (decide_eq_false (by omega)).symm
    · rw [ended empty]
      simp [listed, empty]
  rw [left, length, ← listed]
  congr 1
  by_cases more : pageStart args + (pageFiles args found).length < found.length
  · rw [if_pos more, decide_eq_true more]
    cases args.offset with
    | none => rfl
    | some offset => by_cases zero : offset = 0 <;> simp [isGiven, zero]
  · rw [if_neg more, decide_eq_false more]
    cases args.offset <;> simp [isGiven]

theorem listFrom_everything (unbounded : args.limit = none) (start : args.offset = none) (unfiltered : args.ready = none)
    (found : List Path) (idx last count : Nat) :
    (listFrom config files args found idx last count).1 = found.map (describe config files) :=
  (listFrom_rest unbounded unfiltered found idx last count fun later _ => by simp [isGiven, start]).1

end

section
variable (config : DriverConfig) (files : Files)

def allSnapshots : List Path := config.storagePools.flatMap (sortedSnapshots files {})

def page (limit : Int) (offset : Option Int) : Except Err SnapshotList :=
  listSnapshotsPaged config files { limit := some limit, offset }

/-- The pages a client gets that starts with the offset and goes on as long as it is given a token. -/
inductive Pages (limit : Int) : Option Int → List SnapshotList → Prop
  | last {offset answer} (asked : page config files limit offset = .ok answer) (final : answer.nextToken = none) :
    Pages limit offset [answer]
  | more {offset answer token rest} (asked : page config files limit offset = .ok answer)
    (further : answer.nextToken = some token) (later : Pages limit (some token) rest) :
    Pages limit offset (answer :: rest)

/-- The pages from the offset on are no larger than asked for and list the snapshots in order. -/
def Enumerates (limit : Int) (offset : Option Int) (snapshots : List Snapshot) : Prop :=
  ∃ pages, Pages config files limit offset pages ∧ (∀ answer ∈ pages, (answer.data.length : Int) ≤ limit) ∧
    pages.flatMap SnapshotList.data = snapshots

variable {config files}

theorem page_eq (limit : Int) (offset : Option Int) :
    page config files limit offset =
      .ok (listPage config files { limit := some limit, offset } (allSnapshots config files)) := rfl

theorem unpaged_eq : listSnapshotsPaged config files {} =
    .ok { data := (allSnapshots config files).map (describe config files), nextToken := none } := by
  have everything := @listFrom_everything config files {} rfl rfl rfl (allSnapshots config files) 0 0 0
  show Except.ok (listPage config files {} (allSnapshots config files)) = _
  rw [← everything]
  rfl

private theorem first_page {limit : Nat} (positive : 1 ≤ limit) : page config files limit none =
    .ok { data := ((allSnapshots config files).take limit).map (describe config files), nextToken := none } := by
  rw [page_eq, listPage_eq rfl (by rintro _ ⟨⟩; omega)]
  simp [pageFiles, pageStart]

private theorem later_page {limit offset : Nat} (positive : 1 ≤ limit) (inside : 1 ≤ offset) :
    page config files limit (some offset) = .ok
      { data := (((allSnapshots config files).drop offset).take limit).map (describe config files)
        nextToken := if offset + limit < (allSnapshots config files).length then some ((offset : Int) + limit) else none } := by
  rw [page_eq, listPage_eq rfl (by rintro _ ⟨⟩; omega)]
  generalize allSnapshots config files = found
  have given : offset ≠ 0 := by omega
  simp only [pageFiles, pageStart, Option.getD_some, Int.toNat_natCast, List.length_take, List.length_drop]
  by_cases further : offset + limit < found.length
  · have full : min limit (found.length - offset) = limit := by omega
    rw [full, if_pos further, if_pos further]
    simp [Option.filter, given]
  · rw [if_neg (by omega), if_neg further]

/-- From any page but the first on, the pages enumerate what is left. -/
theorem later_pages_enumerate {limit : Nat} (positive : 1 ≤ limit) (offset : Nat) (inside : 1 ≤ offset) :
    Enumerates config files limit (some offset) (((allSnapshots config files).drop offset).map (describe config files)) := by
  have asked := @later_page config files limit offset positive inside
  by_cases further : offset + limit < (allSnapshots config files).length
  · obtain ⟨rest, pages, small, listed⟩ := later_pages_enumerate positive (offset + limit) (by omega)
    rw [if_pos further] at asked
    refine ⟨_ :: rest, .more asked rfl pages, ?_, ?_⟩
    · intro answer member
      rcases List.mem_cons.mp member with rfl | member
      · simp only [List.length_map, List.length_take]
        omega
      · exact small answer member
    · rw [List.flatMap_cons, listed, ← List.drop_drop, ← List.map_append, List.take_append_drop]
  · rw [if_neg further] at asked
    refine ⟨[_], .last asked rfl, ?_, ?_⟩
    · intro answer member
      cases List.mem_singleton.mp member
      simp only [List.length_map, List.length_take]
      omega
    · rw [List.flatMap_singleton, List.take_of_length_le]
      rw [List.length_drop]
      omega
termination_by (allSnapshots config files).length - offset

private theorem only_page {limit : Nat} (positive : 1 ≤ limit) {pages : List SnapshotList}
    (paging : Pages config files limit none pages) :
    pages.flatMap SnapshotList.data = ((allSnapshots config files).take limit).map (describe config files) := by
  have asked := @first_page config files limit positive
  cases paging with
  | last again final =>
    cases asked.symm.trans again
    exact List.flatMap_singleton ..
  | more again further later =>
    cases asked.symm.trans again
    cases further

/-- The pages from the first on enumerate all snapshots exactly when one page holds them all. -/
theorem pages_enumerate (config : DriverConfig) (files : Files) (limit : Int) (positive : 1 ≤ limit) :
    (∃ unpaged, listSnapshotsPaged config files {} = .ok unpaged ∧ Enumerates config files limit none unpaged.data) ↔
      ((allSnapshots config files).length : Int) ≤ limit := by
  obtain ⟨size, rfl⟩ : ∃ size : Nat, limit = size := ⟨limit.toNat, by omega⟩
  constructor
  · rintro ⟨unpaged, everything, pages, paging, small, listed⟩
    cases unpaged_eq.symm.trans everything
    have lengths := congrArg List.length ((only_page (by omega) paging).symm.trans listed)
    simp only [List.length_map, List.length_take] at lengths
    omega
  · intro fits
    refine ⟨_, unpaged_eq, [_], .last (first_page (by omega)) rfl, ?_, ?_⟩
    · intro answer member
      cases List.mem_singleton.mp member
      simp only [List.length_map, List.length_take]
      omega
    · rw [List.flatMap_singleton, List.take_of_length_le (by omega)]

theorem matchesFile_none (name : String) : matchesFile none (name ++ ".img") = !Glob.isHidden (name ++ ".img") := by
  have accepted := Glob.accepts_many (show Glob.accepts (Glob.parse 4 ".img".toList) ".img".toList = true by decide)
    name.toList
  have pattern : Glob.parse "*.img".length "*.img".toList = .many :: Glob.parse 4 ".img".toList := rfl
  rw [matchesFile, Option.getD_none, show "*" ++ ".img" = "*.img" from rfl, Glob.picks, if_pos (by decide), pattern,
    String.toList_append, accepted, Bool.and_true, show Glob.isHidden "*.img" = false by decide, Bool.false_or]

private theorem mem_globSnapshots {args : ListSnapshotsArgs} {pool : PoolName} {path : Path} :
    path ∈ globSnapshots files args pool ↔ files.lookup path ≠ none ∧ matchesPath args pool path = true := by
  rw [globSnapshots, List.mem_filter, FileTree.listed_iff]

private theorem matchesPath_pool {args : ListSnapshotsArgs} {first second : PoolName} {path : Path}
    (one : matchesPath args first path = true) (two : matchesPath args second path = true) : first = second := by
  cases path with
  | snapshot | imgFile =>
    simp only [matchesPath, Bool.and_eq_true, decide_eq_true_eq, and_assoc] at one two
    exact one.1.symm.trans two.1
  | _ => cases one

/-- Without arguments, the snapshots that are not hidden and the image of a volume called `snapshots` match. -/
theorem matchesPath_all {pool : PoolName} {path : Path} : matchesPath {} pool path = true ↔
    path = .imgFile pool "snapshots" ∨ ∃ file : SnapshotFile, path = file.path ∧ file.pool = pool ∧
      file.temporary = false ∧ Glob.isHidden file.volume = false ∧ Glob.isHidden file.fileName = false := by
  have unnamed : given none = none := rfl
  constructor
  · intro matching
    cases path with
    | snapshot place volume temporary name =>
      simp only [matchesPath, matchesVolume, unnamed, isRecursive, matchesFile_none, Bool.and_eq_true,
        decide_eq_true_eq, if_true, Bool.not_eq_true', and_assoc] at matching
      obtain ⟨rfl, rfl, shown, visible⟩ := matching
      exact .inr ⟨⟨place, volume, false, name⟩, rfl, rfl, rfl, shown, visible⟩
    | imgFile place volume =>
      simp only [matchesPath, Bool.and_eq_true, decide_eq_true_eq, and_assoc] at matching
      obtain ⟨rfl, rfl, -⟩ := matching
      exact .inl rfl
    | _ => cases matching
  · rintro (rfl | ⟨⟨place, volume, temporary, name⟩, rfl, rfl, rfl, shown, visible⟩)
    · have matches_image : matchesFile none "disk.img" = true := matchesFile_none "disk"
      simp [matchesPath, unnamed, isRecursive, matches_image]
    · have visible : Glob.isHidden (name ++ ".img") = false := visible
      have shown : Glob.isHidden volume = false := shown
      simp [SnapshotFile.path, matchesPath, matchesVolume, unnamed, isRecursive, matchesFile_none, shown, visible]

private theorem globSnapshots_nodup (args : ListSnapshotsArgs) (pool : PoolName) : (globSnapshots files args pool).Nodup :=
  files.entries.keys_nodup.filter _

theorem mem_sortedSnapshots {args : ListSnapshotsArgs} {pool : PoolName} {path : Path} :
    path ∈ sortedSnapshots files args pool ↔ files.lookup path ≠ none ∧ matchesPath args pool path = true :=
  List.mem_mergeSort.trans mem_globSnapshots

theorem sortedSnapshots_nodup (args : ListSnapshotsArgs) (pool : PoolName) : (sortedSnapshots files args pool).Nodup :=
  (List.mergeSort_perm ..).nodup_iff.mpr (globSnapshots_nodup args pool)

theorem everyPool_nodup (distinct : config.storagePools.Nodup) (args : ListSnapshotsArgs) :
    (config.storagePools.flatMap (sortedSnapshots files args)).Nodup := by
  apply List.nodup_flatMap.mpr ⟨fun pool _ => sortedSnapshots_nodup args pool, _⟩
  apply distinct.imp
  intro first second different path one two
  exact different (matchesPath_pool (mem_sortedSnapshots.mp one).2 (mem_sortedSnapshots.mp two).2)

section Lookup
variable {volume : VolumeId} {name : String} {temporary : Bool}
  (named : volume ≠ "" ∧ name ≠ "") (plain : Glob.hasMagic volume = false ∧ Glob.hasMagic name = false)
include named plain

private theorem matchesPath_single {pool : PoolName} {path : Path} :
    matchesPath { volumeId := some volume, snapshotName := some name, temporary } pool path = true ↔
      path = .snapshot pool volume temporary name := by
  have literal : Glob.hasMagic (name ++ ".img") = false := by rw [Glob.hasMagic_append, plain.2]; decide
  have bounded : volume ≠ "**" := by
    rintro rfl
    cases plain.1
  have both : given (some volume) = some volume ∧ given (some name) = some name := by
    simp [given, named.1, named.2]
  cases path with
  | snapshot place other kind title =>
    simp only [matchesPath, both.1, both.2, matchesVolume, isRecursive, bounded, decide_false, Bool.false_eq_true,
      if_false, Option.getD_some, Glob.picks_plain plain.1, matchesFile, Glob.picks_plain literal, Bool.and_eq_true,
      decide_eq_true_eq, String.append_left_inj, Path.snapshot.injEq, and_assoc]
    tauto
  | imgFile => simp [matchesPath, both.1, isRecursive, bounded]
  | _ => simp [matchesPath]

private theorem sortedSnapshots_single {pool : PoolName} :
    sortedSnapshots files { volumeId := some volume, snapshotName := some name, temporary } pool =
      if files.present (.snapshot pool volume temporary name) then [.snapshot pool volume temporary name] else [] := by
  have only : ∀ path, path ∈ sortedSnapshots files { volumeId := some volume, snapshotName := some name, temporary } pool ↔
      files.present (.snapshot pool volume temporary name) = true ∧ path = .snapshot pool volume temporary name := by
    intro path
    rw [mem_sortedSnapshots, matchesPath_single named plain, Files.present, Option.isSome_iff_ne_none]
    exact and_congr_left fun same => by rw [same]
  have once := @sortedSnapshots_nodup files { volumeId := some volume, snapshotName := some name, temporary } pool
  generalize sortedSnapshots files _ pool = found at only once
  split
  next present =>
    have same : found.Perm [.snapshot pool volume temporary name] :=
      (List.perm_ext_iff_of_nodup once (List.nodup_singleton _)).mpr fun path => by simp [only, present]
    exact List.perm_singleton.mp same
  next missing => exact List.eq_nil_iff_forall_not_mem.mpr fun path member => missing ((only path).mp member).1

/-- Looking up one snapshot is the listing with its volume and name, if neither
has a wildcard and both can be read from the path again. -/
theorem listSnapshots_yields {capacity : PoolName → Nat} {now : Clocked}
    (readable : isPart volume = true ∧ onlyDots name = false)
    (images : ∀ pool ∈ config.storagePools, now.node.files.present (.snapshot pool volume temporary name) = true →
      Files.image now.node.files (.snapshot pool volume temporary name) ≠ none) :
    (calm capacity).Yields ((listSnapshotsPaged config now.node.files
      { volumeId := some volume, snapshotName := some name, temporary }).map SnapshotList.data)
      (listSnapshots config volume name temporary) now := by
  have reading : (calm capacity).Yields (metadataOf now.node.files volume) (metadata volume) now := by
    refine .perform fun answer may => ?_
    have reliable : answer.fails = false := may
    simp only [calm, Clocked.exec, Op.exec, FileOp.exec, reliable, Bool.false_eq_true, if_false, metadataOf]
    cases now.node.files.lookup (.metaFile volume) with
    | none => rfl
    | some entry =>
      cases entry with
      | directory => rfl
      | file content => cases content <;> rfl
  have filled : given (some volume) = some volume := by simp [given, named.1]
  unfold listSnapshotsPaged snapshotFiles
  simp only [filled]
  cases read : metadataOf now.node.files volume with
  | error error =>
    rw [read] at reading
    exact reading.failing
  | ok data =>
    rw [read] at reading
    refine reading.bind ?_
    dsimp only
    cases home : data.storagePool with
    | none => exact (World.Yields.raise _ _).failing
    | some pool =>
      dsimp only
      unfold need getVolumePath
      rw [Program.pure_bind]
      by_cases configured : pool ∈ config.storagePools
      · rw [if_pos configured, if_pos configured, Program.pure_bind, sortedSnapshots_single named plain]
        refine (Calm.exists _).bind ?_
        cases present : now.node.files.present (.snapshot pool volume temporary name) with
        | false => exact .pure _ _
        | true =>
          obtain ⟨image, found⟩ := Option.ne_none_iff_exists'.mp (images pool configured present)
          simp only [if_true]
          refine (Calm.exists _).bind ((Calm.getsize found).bind ?_)
          have listed : listPage config now.node.files { volumeId := some volume, snapshotName := some name, temporary }
              [.snapshot pool volume temporary name] =
              { data := [{ name, volumeId := if temporary then "snapshots" else volume, sizeBytes := image.size,
                           ready := !now.node.files.present (.creating pool volume temporary name), temporary }]
                nextToken := none } := by
            simp [listPage, listFrom, isGiven, describe, readFrom, listedAs_eq, readable, isCreating, isTemporary, found]
          rw [Except.map, Except.map, listed]
          exact .pure _ _
      · rw [if_neg configured, if_neg configured]
        exact (World.Yields.raise _ _).failing

end Lookup

theorem allSnapshots_length : (allSnapshots config files).length =
    (config.storagePools.flatMap fun pool => globSnapshots files {} pool).length := by
  simp [allSnapshots, sortedSnapshots, List.length_flatMap, List.length_mergeSort]

end

namespace Pagination

def twoSnapshots : Files :=
  (do
    let files ← (FileTree.empty : Files).mkdirs (.snapshotsDir "default" "v" false)
    let files ← files.write (.snapshot "default" "v" false "a") (.bytes .empty)
    files.write (.snapshot "default" "v" false "b") (.bytes .empty)).toOption.getD .empty

private theorem two_snapshots : (allSnapshots singlePool twoSnapshots).length = 2 := by
  rw [allSnapshots_length]
  decide +kernel

theorem later_pages_enumerate_second : Enumerates singlePool twoSnapshots (1 : Nat) (some (1 : Nat))
    (((allSnapshots singlePool twoSnapshots).drop 1).map (describe singlePool twoSnapshots)) :=
  later_pages_enumerate (by decide) 1 (by decide)

/-- Two snapshots on pages of two. -/
theorem pages_enumerate_two :
    ∃ unpaged, listSnapshotsPaged singlePool twoSnapshots {} = .ok unpaged ∧
      Enumerates singlePool twoSnapshots 2 none unpaged.data := by
  refine (pages_enumerate singlePool twoSnapshots 2 (by decide)).mpr ?_
  rw [two_snapshots]
  decide

/-- Two snapshots on pages of one: the second is never listed. -/
theorem pages_incomplete : ¬ ∃ unpaged, listSnapshotsPaged singlePool twoSnapshots {} = .ok unpaged ∧
    Enumerates singlePool twoSnapshots 1 none unpaged.data := by
  rintro ⟨unpaged, everything, pages, paging, small, listed⟩
  cases unpaged_eq.symm.trans everything
  have single : Pages singlePool twoSnapshots (1 : Nat) none pages := paging
  have lengths := congrArg List.length ((only_page (by decide) single).symm.trans listed)
  simp only [List.length_map, List.length_take, two_snapshots] at lengths
  omega

end Pagination
end SnapshotManager
end Rawfile
