import Mathlib.Data.List.Infix

/-! File name patterns the way Python's `glob` and `fnmatch` read them: `*`, `?`
and sets in brackets, where a bracket that is never closed stands for itself.
A pattern without any of them is the name it spells. -/

namespace Effects
namespace Glob

/-- One part of a pattern: any text, or one character out of a set. -/
inductive Part where
  | many
  | one (accepts : Char → Bool)

def ranges : List Char → List (Char × Char)
  | first :: '-' :: last :: rest => (first, last) :: ranges rest
  | first :: rest => (first, first) :: ranges rest
  | [] => []

def inRanges (content : List Char) (c : Char) : Bool :=
  (ranges content).any fun range => range.1 ≤ c && c ≤ range.2

/-- The content of a bracket and what follows it. A bracket that closes at once is part of the content. -/
def untilClosed : List Char → Option (List Char × List Char)
  | [] => none
  | first :: rest =>
    match rest.dropWhile (· ≠ ']') with
    | [] => none
    | _ :: after => some (first :: rest.takeWhile (· ≠ ']'), after)

def bracket : List Char → Option (Part × List Char)
  | '!' :: text => (untilClosed text).map fun (content, after) => (.one fun c => !inRanges content c, after)
  | text => (untilClosed text).map fun (content, after) => (.one (inRanges content), after)

def parse : Nat → List Char → List Part
  | 0, _ | _, [] => []
  | fuel + 1, c :: text =>
    if c = '*' then .many :: parse fuel text
    else if c = '?' then .one (fun _ => true) :: parse fuel text
    else if c = '[' then
      match bracket text with
      | some (part, after) => part :: parse fuel after
      | none => .one (· = c) :: parse fuel text
    else .one (· = c) :: parse fuel text

/-- `fnmatch` -/
def accepts : List Part → List Char → Bool
  | [], name => name.isEmpty
  | .many :: rest, name => name.tails.any (accepts rest)
  | .one set :: rest, c :: name => set c && accepts rest name
  | .one _ :: _, [] => false

def hasMagic (pattern : String) : Bool := pattern.toList.any fun c => c = '*' || c = '?' || c = '['

def isHidden (name : String) : Bool := name.toList.head? = some '.'

/-- The names of a directory that one component of a pattern picks. Only a
pattern that begins with a dot picks names that do. -/
def picks (pattern name : String) : Bool :=
  if hasMagic pattern then
    (isHidden pattern || !isHidden name) && accepts (parse pattern.length pattern.toList) name.toList
  else name = pattern

theorem picks_plain {pattern : String} (plain : hasMagic pattern = false) (name : String) :
    picks pattern name = decide (name = pattern) := by
  rw [picks, if_neg (by simp [plain])]

@[simp] theorem hasMagic_append (first second : String) :
    hasMagic (first ++ second) = (hasMagic first || hasMagic second) := by
  simp [hasMagic]

theorem accepts_many {rest : List Part} {suffix : List Char} (accepted : accepts rest suffix = true)
    (front : List Char) : accepts (.many :: rest) (front ++ suffix) = true := by
  rw [accepts, List.any_eq_true]
  exact ⟨suffix, (List.mem_tails ..).mpr ⟨front, rfl⟩, accepted⟩

example : picks "a[!b-d]*.img" "ae1.img" = true := by decide +kernel

end Glob
end Effects
