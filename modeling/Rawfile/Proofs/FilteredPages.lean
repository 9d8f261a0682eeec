import Rawfile.Proofs.Pagination

/-! Pages of a filtered listing. The offset counts the files that were looked at
and the token the entries that were returned, so a page that passes over a file
leads back into itself. -/

namespace Rawfile
open Effects
namespace SnapshotManager

section Pages
variable (config : DriverConfig) (files : Files) (ready : Bool)

def wanted (path : Path) : Bool := isCreating files path ≠ ready

/-- The call `list_snapshots(ready=ready, limit=limit, offset=offset)` on a fixed list of files. -/
def filteredPage (found : List Path) (limit offset : Int) : SnapshotList :=
  listPage config files { ready := some ready, limit := some limit, offset := some offset } found

variable {config files ready} {found : List Path}

/-- A page has the first wanted files at or after its offset. It has a token when
files are left after them, which counts the entries and not the files. -/
theorem filteredPage_eq {limit offset : Nat} (positive : 1 ≤ limit) (inside : 1 ≤ offset) :
    filteredPage config files ready found limit offset =
      { data := (((found.drop offset).filter (wanted files ready)).take limit).map (describe config files)
        nextToken := if unexamined (wanted files ready) limit (found.drop offset) = [] then none
          else some ((offset : Int) + limit) } := by
  unfold filteredPage listPage
  generalize arguments : ({ ready := some ready, limit := some (limit : Int), offset := some (offset : Int) } :
    ListSnapshotsArgs) = args
  have bounded : args.limit = some (limit : Int) := by rw [← arguments]
  have filtered : args.ready = some ready := by rw [← arguments]
  have start : args.offset = some (offset : Int) := by rw [← arguments]
  have begins : pageStart args = offset := by simp [pageStart, start]
  have kept : listed files args = wanted files ready := by
    funext path
    simp [listed, wanted, filtered, eq_comm]
  obtain ⟨seen, skips⟩ := @listFrom_start config files args found
  rw [begins] at skips
  rw [skips, start]
  by_cases short : found.length ≤ offset
  · rw [List.drop_of_length_le short]
    obtain ⟨more, rfl⟩ : ∃ more, limit = more + 1 := ⟨limit - 1, by omega⟩
    simp [listFrom, isGiven, unexamined]
  · rw [Nat.min_eq_left (by omega)]
    obtain ⟨listed, ended⟩ := @listFrom_filters config files args limit bounded (found.drop offset) offset seen 0
      (by omega) (begins ▸ @beyond_start args)
    rw [kept] at listed ended
    have last := ended fun empty => short (List.drop_eq_nil_iff.mp empty)
    rw [Nat.sub_zero] at listed last
    rw [List.length_drop] at last
    generalize listFrom config files args (found.drop offset) offset seen 0 = result at listed last
    obtain ⟨snapshots, idx⟩ := result
    dsimp only at listed last ⊢
    rw [listed]
    by_cases drained : unexamined (wanted files ready) limit (found.drop offset) = []
    · rw [drained, List.length_nil] at last
      rw [if_pos drained, if_neg]
      simp only [isGiven, ne_eq, Bool.and_eq_true, decide_eq_true_eq, not_and]
      omega
    · have room := (unexamined_room drained).2
      have left := List.length_pos_iff.mpr drained
      have full :
          ((((found.drop offset).filter (wanted files ready)).take limit).map (describe config files)).length = limit := by
        rw [List.length_map, List.length_take]
        omega
      have nonempty : (((found.drop offset).filter (wanted files ready)).take limit).map (describe config files) ≠ [] := by
        intro none
        rw [none, List.length_nil] at full
        omega
      rw [if_neg drained, if_pos, Option.map_some, full]
      simp only [isGiven, ne_eq, Bool.and_eq_true, decide_eq_true_eq, nonempty, not_false_eq_true, true_and]
      omega

variable (config files ready found)

/-- The pages of a client that follows the tokens from an offset on. Each goes
on with the first file that was not yet looked at. -/
inductive Continues (limit : Nat) : Nat → List SnapshotList → Prop
  | last {offset : Nat} (final : (filteredPage config files ready found limit offset).nextToken = none) :
    Continues limit offset [filteredPage config files ready found limit offset]
  | more {offset token : Nat} {rest : List SnapshotList}
    (further : (filteredPage config files ready found limit offset).nextToken = some (token : Int))
    (onward : found.drop token = unexamined (wanted files ready) limit (found.drop offset))
    (later : Continues limit token rest) : Continues limit offset (filteredPage config files ready found limit offset :: rest)

/-- No page but the last passes over a file. -/
def Undisturbed (limit offset : Nat) : Prop :=
  ∀ page : Nat, unexamined (wanted files ready) limit (found.drop (offset + page * limit)) ≠ [] →
    ((found.drop (offset + page * limit)).take limit).all (wanted files ready) = true

variable {config files ready found}

theorem Undisturbed.next {limit offset : Nat} (undisturbed : Undisturbed files ready found limit offset) :
    Undisturbed files ready found limit (offset + limit) := by
  intro page
  have shifted : offset + limit + page * limit = offset + (page + 1) * limit := by rw [Nat.add_one_mul]; omega
  rw [shifted]
  exact undisturbed (page + 1)

theorem Undisturbed.continues {limit : Nat} (positive : 1 ≤ limit) (offset : Nat) (inside : 1 ≤ offset)
    (undisturbed : Undisturbed files ready found limit offset) : ∃ pages,
      Continues config files ready found limit offset pages ∧ pages.flatMap SnapshotList.data =
        ((found.drop offset).filter (wanted files ready)).map (describe config files) := by
  have asked := @filteredPage_eq config files ready found limit offset positive inside
  by_cases drained : unexamined (wanted files ready) limit (found.drop offset) = []
  · rw [if_pos drained, filter_of_unexamined drained] at asked
    refine ⟨[filteredPage config files ready found limit offset], .last (by rw [asked]), ?_⟩
    rw [List.flatMap_singleton, asked]
  · have all : ((found.drop offset).take limit).all (wanted files ready) = true := by
      have first := undisturbed 0
      rw [Nat.zero_mul] at first
      exact first drained
    have same := (unexamined_iff drained).mpr all
    have room := (unexamined_room drained).1
    have left := List.length_pos_iff.mpr drained
    rw [List.length_drop] at room
    have ahead : offset + limit < found.length := by omega
    obtain ⟨rest, pages, listed⟩ := undisturbed.next.continues positive (offset + limit) (by omega)
    have split : (found.drop offset).filter (wanted files ready) =
        ((found.drop offset).filter (wanted files ready)).take limit ++
          (found.drop (offset + limit)).filter (wanted files ready) := by
      have kept := List.filter_eq_self.mpr (List.all_eq_true.mp all)
      have length : ((found.drop offset).take limit).length = limit := by
        rw [List.length_take, List.length_drop]
        omega
      conv_lhs => rw [← List.take_append_drop limit (found.drop offset), List.filter_append, kept, List.drop_drop]
      conv_rhs => rw [← List.take_append_drop limit (found.drop offset), List.filter_append, kept]
      rw [List.take_left' length]
    refine ⟨_ :: rest, .more (by rw [asked, if_neg drained, Int.natCast_add]) ?_ pages, ?_⟩
    · rw [same, List.drop_drop]
    · rw [List.flatMap_cons, listed, asked, split, List.map_append, ← split]
termination_by found.length - offset

theorem Continues.undisturbed {limit offset : Nat} {pages : List SnapshotList} (positive : 1 ≤ limit)
    (inside : 1 ≤ offset) (continues : Continues config files ready found limit offset pages) :
    Undisturbed files ready found limit offset := by
  induction continues with
  | @last offset final =>
    intro page more
    rw [filteredPage_eq positive inside] at final
    have drained : unexamined (wanted files ready) limit (found.drop offset) = [] := by
      by_contra drained
      rw [if_neg drained] at final
      cases final
    rw [← List.drop_drop] at more
    exact absurd (unexamined_drop drained _) more
  | @more offset token rest further onward _ ih =>
    rw [filteredPage_eq positive inside] at further
    have drained : unexamined (wanted files ready) limit (found.drop offset) ≠ [] := by
      intro drained
      rw [if_pos drained] at further
      cases further
    rw [if_neg drained, Option.some.injEq] at further
    obtain rfl : token = offset + limit := by omega
    intro page
    cases page with
    | zero =>
      rw [Nat.zero_mul, Nat.add_zero]
      intro more
      rw [← List.drop_drop] at onward
      exact (unexamined_iff more).mp onward.symm
    | succ page =>
      have shifted : offset + (page + 1) * limit = offset + limit + page * limit := by rw [Nat.add_one_mul]; omega
      rw [shifted]
      exact ih (by omega) page

/-- Following the tokens of a filtered listing gives every wanted file from the
offset on exactly once when no page but the last passes over a file. -/
theorem filtered_pages_continue (config : DriverConfig) (files : Files) (ready : Bool) (found : List Path) (limit offset : Nat)
    (positive : 1 ≤ limit) (inside : 1 ≤ offset) :
    ((∀ start : Nat, 1 ≤ start → (filteredPage config files ready found limit start).data =
        (((found.drop start).filter (wanted files ready)).take limit).map (describe config files)) ∧
      ∃ pages, Continues config files ready found limit offset pages ∧ pages.flatMap SnapshotList.data =
        ((found.drop offset).filter (wanted files ready)).map (describe config files)) ↔
      Undisturbed files ready found limit offset := by
  constructor
  · rintro ⟨-, pages, continues, -⟩
    exact continues.undisturbed positive inside
  · intro undisturbed
    refine ⟨fun start after => ?_, undisturbed.continues positive offset inside⟩
    rw [filteredPage_eq positive after]

end Pages

namespace FilteredPages

def file (name : String) : Path := .snapshot "default" "v" false name

def found : List Path := [file "a", file "b", file "c", file "d"]

def files : Files :=
  (do
    let files ← (FileTree.empty : Files).mkdirs (.snapshotsDir "default" "v" false)
    let files ← found.foldlM (fun (files : Files) (path : Path) => files.write path (.bytes .empty)) files
    files.write (.creating "default" "v" false "b") (.bytes .empty)).toOption.getD .empty

/-- The ready ones of the last two, one a page. -/
theorem filtered_pages_continue_two : ∃ pages, Continues singlePool files true found 1 2 pages ∧
    pages.flatMap SnapshotList.data = [describe singlePool files (file "c"), describe singlePool files (file "d")] := by
  have undisturbed : Undisturbed files true found 1 2 := by
    intro page _
    rw [Nat.mul_one]
    cases page with
    | zero => decide +kernel
    | succ page =>
      cases page with
      | zero => decide +kernel
      | succ page => rw [List.drop_of_length_le (by show 4 ≤ _; omega)]; rfl
  exact ((filtered_pages_continue singlePool files true found 1 2 (by omega) (by omega)).mpr undisturbed).2

/-- The token of the first page leads back to the snapshot it ended with. -/
theorem filtered_pages_repeat : (filteredPage singlePool files true found 1 1).data = [describe singlePool files (file "c")] ∧
    (filteredPage singlePool files true found 1 1).nextToken = some 2 ∧
    (filteredPage singlePool files true found 1 2).data = [describe singlePool files (file "c")] := by
  decide +kernel

end FilteredPages
end SnapshotManager
end Rawfile
