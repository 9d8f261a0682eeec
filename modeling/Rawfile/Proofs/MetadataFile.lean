import Rawfile.Effects.JsonText
import Rawfile.MetadataFile

/-! A write of the metadata is atomic. What `disk.meta` refers to is complete
and synced before it gets that name, and the file that is written never had it. -/

namespace Rawfile
open Effects

variable {directory before after : Directory MetaName Char} {good wider : Option (List Char) → Prop}

def Update.Progress (update : Update) (directory : Directory MetaName Char) : Prop :=
  match update.stage with
  | .opening => True
  | .dumping inode written => directory.names .tmp = some inode ∧
    directory.content inode = update.text.take written ∧ written ≤ update.text.length
  | .replacing => ∃ inode, directory.names .tmp = some inode ∧ directory.Holds inode update.text
  | .syncing => ∃ inode, directory.names .disk = some inode ∧ directory.Holds inode update.text
  | .returned => (∃ inode, directory.names .disk = some inode ∧ directory.Holds inode update.text) ∧ directory.older = []
  | .raised => False

def Update.remaining (update : Update) : Nat :=
  match update.stage with
  | .opening => update.text.length + 4
  | .dumping _ written => update.text.length - written + 3
  | .replacing => 2
  | .syncing => 1
  | .returned | .raised => 0

def MetaReader.Sees (good : Option (List Char) → Prop) (directory : Directory MetaName Char) : MetaReader → Prop
  | .opening => True
  | .reading inode got => ∃ text, good (some text) ∧ directory.Holds inode text ∧ directory.names .tmp ≠ some inode ∧
    got <+: text
  | .finished text => good (some text)
  | .missing => good none

theorem MetaReader.Sees.keep {reader : MetaReader} (sees : reader.Sees good before) (spares : before.Spares .tmp after) :
    reader.Sees good after := by
  cases reader with
  | reading inode got =>
    obtain ⟨text, well, holds, apart, part⟩ := sees
    obtain ⟨holds, apart⟩ := spares inode text holds apart
    exact ⟨text, well, holds, apart, part⟩
  | opening | finished | missing => exact sees

theorem MetaReader.Sees.mono {reader : MetaReader} (sees : reader.Sees good directory)
    (implies : ∀ text, good text → wider text) : reader.Sees wider directory := by
  cases reader with
  | reading inode got =>
    obtain ⟨text, well, rest⟩ := sees
    exact ⟨text, implies _ well, rest⟩
  | opening => trivial
  | finished | missing => exact implies _ sees

theorem MetaReader.Sees.readOn {reader next : MetaReader} {accepted : Nat} (safe : directory.Safe .disk .tmp good)
    (sees : reader.Sees good directory) (read : MetadataFile.readOn accepted directory reader = some next) :
    next.Sees good directory := by
  cases reader with
  | opening =>
    simp only [MetadataFile.readOn] at read
    split at read
    next inode named =>
      cases read
      obtain ⟨text, holds, well⟩ := (safe.fits _ directory.names_mem).whole inode named
      exact ⟨text, well, holds, fun same => safe.current _ directory.names_mem inode same named, List.nil_prefix⟩
    next missing =>
      cases read
      exact (safe.fits _ directory.names_mem).missing missing
  | reading inode got =>
    obtain ⟨text, well, holds, apart, part⟩ := sees
    simp only [MetadataFile.readOn, holds.content, Option.some.injEq] at read
    obtain ⟨rest, rfl⟩ := part
    subst read
    simp only [List.drop_left]
    split
    next ended =>
      have ended : rest = [] := by
        cases rest with
        | nil => rfl
        | cons => simp at ended
      subst ended
      rwa [List.append_nil] at well
    next =>
      refine ⟨got ++ rest, well, holds, apart, ?_⟩
      exact (List.prefix_append_right_inj got).mpr (List.take_prefix _ _)
  | finished | missing => cases read

namespace MetadataFile

variable {file last : MetadataFile} {event : MetaEvent} {obj : Json}

/-- The directory is safe, the update is where its stage says, and the readers see complete texts. -/
structure Consistent (good : Option (List Char) → Prop) (file : MetadataFile) : Prop where
  safe : file.directory.Safe .disk .tmp good
  written : ∀ update ∈ file.writer, good (some update.text)
  progress : ∀ update ∈ file.writer, update.Progress file.directory
  readers : ∀ reader ∈ file.readers, reader.Sees good file.directory

section
variable (consistent : Consistent good file)
include consistent

theorem Consistent.staged {update : Update} {stage : UpdateStage}
    (safe : after.Safe .disk .tmp good) (spares : file.directory.Spares .tmp after) (well : good (some update.text))
    (progress : ({ update with stage } : Update).Progress after) : Consistent good (file.stage update stage after) := by
  refine ⟨safe, ?_, ?_, fun reader member => (consistent.readers reader member).keep spares⟩
  · rintro _ ⟨⟩
    exact well
  · rintro _ ⟨⟩
    exact progress

theorem Consistent.advance {update : Update} {accepted : Nat}
    (current : file.writer = some update) (advanced : file.advance update accepted = some last) :
    Consistent good last := by
  have well := consistent.written update current
  have progress := consistent.progress update current
  have safe := consistent.safe
  have fits := safe.fits _ file.directory.names_mem
  have different : MetaName.disk ≠ MetaName.tmp := by decide
  unfold MetadataFile.advance at advanced
  unfold Update.Progress at progress
  split at advanced
  next stage =>
    cases advanced
    obtain ⟨named, empty⟩ := Directory.truncate_spec fits.bounded
    exact consistent.staged (safe.truncate different) .truncate well ⟨named, empty, Nat.zero_le _⟩
  next inode written stage =>
    rw [stage] at progress
    obtain ⟨named, content, inside⟩ := progress
    have bounded := fits.bounded inode named
    split at advanced
    next unfinished =>
      cases advanced
      have length : (update.text.take written).length = written := by simp [inside]
      have part : (update.text.drop written).take (accepted + 1) <+: update.text.drop written := List.take_prefix _ _
      generalize (update.text.drop written).take (accepted + 1) = chunk at part
      have longer : written + chunk.length ≤ update.text.length := by
        have bound := part.length_le
        rw [List.length_drop] at bound
        omega
      have whole : update.text.take (written + chunk.length) = update.text.take written ++ chunk := by
        rw [List.take_add, ← List.prefix_iff_eq_take.mp part]
      have appended : (file.directory.writeAt inode (update.text.take written).length chunk).content inode = _ :=
        Directory.content_writeAt bounded content
      rw [length, ← whole] at appended
      exact consistent.staged (safe.set named) (.set named) well ⟨named, appended, longer⟩
    next complete =>
      cases advanced
      have synced := Directory.holds_fsync bounded
      rw [content, List.take_of_length_le (by omega)] at synced
      exact consistent.staged (safe.set named) (.set named) well ⟨inode, named, synced⟩
  next stage =>
    rw [stage] at progress
    obtain ⟨inode, named, holds⟩ := progress
    split at advanced
    next directory replaced =>
      cases advanced
      obtain ⟨published, same⟩ := Directory.replace_spec replaced named
      refine consistent.staged (safe.replace different holds well named replaced) (.replace different replaced) well
        ⟨inode, published, ?_⟩
      unfold Directory.Holds
      rw [same]
      exact holds
    next failed =>
      rw [Directory.replace, named] at failed
      cases failed
  next stage =>
    rw [stage] at progress
    cases advanced
    exact consistent.staged safe.settle (fun _ _ holds apart => ⟨holds, apart⟩) well ⟨progress, rfl⟩
  next => cases advanced
  next => cases advanced

theorem Consistent.next (updates : ∀ obj, event = .update obj → good (some obj.dumps))
    (moved : next event file = some last) : Consistent good last := by
  cases event with
  | update obj =>
    simp only [MetadataFile.next] at moved
    split at moved
    · cases moved
      refine ⟨consistent.safe, ?_, ?_, consistent.readers⟩
      · rintro _ ⟨⟩
        exact updates obj rfl
      · rintro _ ⟨⟩
        trivial
    · cases moved
  | advance accepted =>
    obtain ⟨update, current, advanced⟩ := Option.bind_eq_some_iff.mp moved
    exact consistent.advance current advanced
  | stop =>
    cases moved
    exact ⟨consistent.safe, nofun, nofun, consistent.readers⟩
  | enter =>
    cases moved
    refine ⟨consistent.safe, consistent.written, consistent.progress, ?_⟩
    exact List.forall_mem_append.mpr ⟨consistent.readers, List.forall_mem_singleton.mpr trivial⟩
  | read index accepted =>
    simp only [MetadataFile.next, Option.bind_eq_bind, Option.bind_eq_some_iff, Option.pure_def, Option.some.injEq] at moved
    obtain ⟨reader, found, further, read, rfl⟩ := moved
    refine ⟨consistent.safe, consistent.written, consistent.progress, fun other member => ?_⟩
    rcases List.mem_or_eq_of_mem_set member with member | rfl
    · exact consistent.readers other member
    · exact (consistent.readers reader (List.mem_of_getElem? found)).readOn consistent.safe read
  | powerLoss kept remains =>
    cases moved
    exact ⟨consistent.safe.powerLoss, nofun, nofun, nofun⟩

theorem Consistent.run {allowed : MetaEvent → Prop}
    (updates : ∀ obj, allowed (.update obj) → good (some obj.dumps)) (reaches : Reaches allowed file last) :
    Consistent good last := by
  induction reaches with
  | refl => exact consistent
  | tail _ step ih =>
    obtain ⟨event, permitted, moved⟩ := step
    refine ih.next ?_ moved
    rintro obj rfl
    exact updates obj permitted

private theorem Consistent.advances {update : Update} (current : file.writer = some update)
    (unfinished : update.stage ≠ .returned) (accepted : Nat) :
    ∃ stage directory, MetadataFile.advance update accepted file = some (file.stage update stage directory) ∧
      Update.remaining { update with stage } < Update.remaining update := by
  have progress := consistent.progress update current
  unfold MetadataFile.advance Update.remaining
  unfold Update.Progress at progress
  cases stage : update.stage with
  | opening => exact ⟨_, _, rfl, by simp [Update.text]⟩
  | dumping inode written =>
    rw [stage] at progress
    dsimp only
    split
    next unwritten =>
      refine ⟨_, _, rfl, ?_⟩
      simp only [List.length_take, List.length_drop]
      simp only [Update.text] at unwritten ⊢
      omega
    next => exact ⟨_, _, rfl, by simp⟩
  | replacing =>
    rw [stage] at progress
    obtain ⟨inode, named, -⟩ := progress
    simp only [Directory.replace, named, Option.map_some]
    exact ⟨_, _, rfl, by simp⟩
  | syncing => exact ⟨_, _, rfl, by simp⟩
  | returned => exact absurd stage unfinished
  | raised =>
    rw [stage] at progress
    exact progress.elim

end

theorem Consistent.returns {update : Update} (accepted : List Nat) (consistent : Consistent good file)
    (current : file.writer = some update) (enough : update.remaining ≤ accepted.length) :
    ∃ used last, used <+: accepted ∧ MetadataFile.run (used.map .advance) file = some last ∧
      last.writer = some { update with stage := .returned } := by
  induction accepted generalizing file update with
  | nil =>
    by_cases returned : update.stage = .returned
    · exact ⟨[], file, List.nil_prefix, rfl, by rw [current, ← returned]⟩
    · obtain ⟨_, _, -, less⟩ := consistent.advances current returned 0
      simp only [List.length_nil] at enough
      omega
  | cons count rest ih =>
    by_cases returned : update.stage = .returned
    · exact ⟨[], file, List.nil_prefix, rfl, by rw [current, ← returned]⟩
    · obtain ⟨stage, directory, advanced, less⟩ := consistent.advances current returned count
      have further := consistent.advance current advanced
      have enough : Update.remaining { update with stage } ≤ rest.length := by
        simp only [List.length_cons] at enough
        omega
      obtain ⟨used, last, part, ran, ended⟩ := ih further rfl enough
      refine ⟨count :: used, last, (List.prefix_cons_inj count).mpr part, ?_, ended⟩
      simp only [List.map_cons, MetadataFile.run, MetadataFile.next, current, Option.bind_some, advanced]
      exact ran

end MetadataFile

/-- `disk.meta` holds the object, if any, and it is on the disk. Whatever a
temporary file holds, it is another file. -/
structure Stable (old : Option Json) (directory : Directory MetaName Char) : Prop where
  settled : directory.older = []
  disk : directory.names .disk = none ∧ old = none ∨
    ∃ inode obj, directory.names .disk = some inode ∧ old = some obj ∧ directory.Holds inode obj.dumps
  tmp : ∀ inode, directory.names .tmp = some inode →
    inode < directory.inodes.length ∧ directory.names .disk ≠ some inode

theorem Stable.safe {old : Option Json} (stable : Stable old directory) :
    directory.Safe .disk .tmp fun found => found = old.map Json.dumps := by
  have only : ∀ names ∈ directory.moments, names = directory.names := by
    intro names member
    rw [Directory.moments, stable.settled] at member
    exact List.mem_singleton.mp member
  refine ⟨fun names member => ?_, fun names member inode named => ?_⟩
  · rw [only names member]
    refine ⟨fun missing => ?_, fun inode named => ?_, fun inode named => (stable.tmp inode named).1,
      fun inode named => (stable.tmp inode named).2⟩
    · rcases stable.disk with ⟨-, rfl⟩ | ⟨inode, obj, named, -⟩
      · rfl
      · cases named.symm.trans missing
    · rcases stable.disk with ⟨missing, -⟩ | ⟨other, obj, found, rfl, holds⟩
      · cases missing.symm.trans named
      · cases found.symm.trans named
        exact ⟨_, holds, rfl⟩
  · rw [only names member]
    exact (stable.tmp inode named).2

/-- A read that ended returned the old object or the new one, and it only found no file if there was none. -/
def MetaReader.Returns (old : Option Json) (new : Json) : MetaReader → Prop
  | .finished text => ∃ obj, Json.loads text = some obj ∧ (old = some obj ∨ obj = new)
  | .missing => old = none
  | .opening | .reading _ _ => True

theorem MetaReader.Sees.returns {old : Option Json} {new : Json} {reader : MetaReader}
    (oldValid : ∀ obj ∈ old, Json.Valid obj) (newValid : Json.Valid new)
    (sees : reader.Sees (fun found => found = old.map Json.dumps ∨ found = some new.dumps) directory) :
    reader.Returns old new := by
  cases reader with
  | opening | reading => trivial
  | finished text =>
    rcases sees with same | same
    · obtain ⟨obj, rfl, rfl⟩ := Option.map_eq_some_iff.mp same.symm
      exact ⟨obj, Json.loads_dumps (oldValid obj rfl), .inl rfl⟩
    · cases same
      exact ⟨new, Json.loads_dumps newValid, .inr rfl⟩
  | missing =>
    rcases sees with same | same
    · exact Option.map_eq_none_iff.mp same.symm
    · cases same

section
variable {old : Option Json} {new later : Json} {now last : MetadataFile}

private theorem MetadataFile.inside_update (reaches : MetadataFile.Reaches MetaEvent.inside now last)
    (begun : ∃ update, now.writer = some update ∧ update.obj = later) :
    ∃ update, last.writer = some update ∧ update.obj = later := by
  induction reaches with
  | refl => exact begun
  | tail _ step ih =>
    obtain ⟨update, current, rfl⟩ := ih
    obtain ⟨event, permitted, moved⟩ := step
    cases event with
    | update | stop | powerLoss => cases permitted
    | enter =>
      cases moved
      exact ⟨update, current, rfl⟩
    | read index accepted =>
      simp only [MetadataFile.next, Option.bind_eq_bind, Option.bind_eq_some_iff, Option.pure_def, Option.some.injEq]
        at moved
      obtain ⟨_, -, _, -, rfl⟩ := moved
      exact ⟨update, current, rfl⟩
    | advance accepted =>
      simp only [MetadataFile.next, current, Option.bind_some, MetadataFile.advance] at moved
      split at moved
      · cases moved
        exact ⟨_, rfl, rfl⟩
      · split at moved <;> (cases moved; exact ⟨_, rfl, rfl⟩)
      · split at moved <;> (cases moved; exact ⟨_, rfl, rfl⟩)
      · cases moved
        exact ⟨_, rfl, rfl⟩
      · cases moved
      · cases moved

theorem Update.installed {update : Update} {good : Option (List Char) → Prop} (consistent : MetadataFile.Consistent good last)
    (current : last.writer = some update) (returned : update.stage = .returned) : Stable (some update.obj) last.directory := by
  have progress := consistent.progress update current
  unfold Update.Progress at progress
  rw [returned] at progress
  obtain ⟨⟨inode, named, holds⟩, settled⟩ := progress
  have fits := consistent.safe.fits _ last.directory.names_mem
  exact ⟨settled, .inr ⟨inode, update.obj, named, rfl, holds⟩, fun inode named =>
    ⟨fits.bounded inode named, fits.apart inode named⟩⟩

theorem Stable.reads {allowed : MetaEvent → Prop} (stable : Stable old directory) (oldValid : ∀ obj ∈ old, Json.Valid obj)
    (newValid : Json.Valid new) (updates : ∀ obj, allowed (.update obj) → obj = new)
    (reaches : MetadataFile.Reaches allowed { directory } now) :
    MetadataFile.Consistent (fun found => found = old.map Json.dumps ∨ found = some new.dumps) now ∧
      ∀ reader ∈ now.readers, reader.Returns old new := by
  have initial : MetadataFile.Consistent (fun found => found = old.map Json.dumps ∨ found = some new.dumps) { directory } :=
    ⟨stable.safe.mono fun _ => .inl, nofun, nofun, nofun⟩
  have consistent := initial.run (fun obj permitted => .inr (by rw [updates obj permitted])) reaches
  exact ⟨consistent, fun reader member => (consistent.readers reader member).returns oldValid newValid⟩

/-- Whatever a crash left as a temporary file, and wherever the update of an
object stops, every read returns the old object or the new one. A later update
returns, and from then on every read returns its object. -/
theorem metadata_write_atomic (oldValid : ∀ obj ∈ old, Json.Valid obj) (newValid : Json.Valid new)
    (stable : Stable old directory) (reaches : MetadataFile.Reaches (MetaEvent.updates new) { directory } now) :
    (∀ reader ∈ now.readers, reader.Returns old new) ∧
      ∀ later, Json.Valid later → now.idle = true →
        (∀ accepted : List Nat, later.dumps.length + 4 ≤ accepted.length → ∃ used last, used <+: accepted ∧
          MetadataFile.run (.update later :: used.map .advance) now = some last ∧
          last.writer = some { obj := later, stage := .returned }) ∧
        ∀ last, MetadataFile.Reaches MetaEvent.inside { now with writer := some { obj := later } } last →
          ∃ update, last.writer = some update ∧ update.obj = later ∧ update.stage ≠ .raised ∧
            (update.stage = .returned → Stable (some later) last.directory ∧
              ∀ final, MetadataFile.Reaches MetaEvent.afterwards { directory := last.directory } final →
                ∀ reader ∈ final.readers, reader.Returns (some later) later) := by
  obtain ⟨consistent, reads⟩ := stable.reads oldValid newValid (fun _ same => same) reaches
  refine ⟨reads, fun later laterValid idle => ?_⟩
  have begun : MetadataFile.Consistent (fun found => (found = old.map Json.dumps ∨ found = some new.dumps) ∨
      found = some later.dumps) { now with writer := some { obj := later } } := by
    refine ⟨consistent.safe.mono fun _ => .inl, ?_, ?_, fun reader member =>
      (consistent.readers reader member).mono fun _ => .inl⟩
    · rintro _ ⟨⟩
      exact .inr rfl
    · rintro _ ⟨⟩
      trivial
  constructor
  · intro accepted enough
    obtain ⟨used, last, part, ran, ended⟩ := begun.returns accepted rfl enough
    refine ⟨used, last, part, ?_, ended⟩
    simp only [MetadataFile.run, MetadataFile.next, idle, if_true, Option.bind_some]
    exact ran
  · intro last inside
    have consistent := begun.run (fun _ permitted => permitted.elim) inside
    obtain ⟨update, current, rfl⟩ := MetadataFile.inside_update inside ⟨_, rfl, rfl⟩
    refine ⟨update, current, rfl, fun raised => ?_, fun returned => ?_⟩
    · have progress := consistent.progress update current
      unfold Update.Progress at progress
      rwa [raised] at progress
    · have installed := Update.installed consistent current returned
      refine ⟨installed, fun final afterwards => ?_⟩
      have valid : ∀ obj ∈ some update.obj, Json.Valid obj := by
        rintro _ ⟨⟩
        exact laterValid
      exact (installed.reads valid laterValid (fun _ permitted => permitted.elim) afterwards).2

end
namespace MetadataAtomicity

def sized (size : Nat) : Json := .obj [("size", .int size)]

private theorem sized_valid (size : Nat) : Json.Valid (sized size) := by
  refine .obj (by simp) fun field member => ?_
  rw [List.mem_singleton.mp member]
  exact .int _

def leftover : Directory MetaName Char where
  inodes := [⟨(sized 4).dumps, true⟩, ⟨['{'], false⟩]
  names
    | .disk => some 0
    | .tmp => some 1

/-- The power fails after the file was replaced, before the directory is synced, and the names are lost. -/
def events : List MetaEvent :=
  [.update (sized 8), .advance 0, .advance 3, .advance 20, .advance 0, .enter, .read 0 0, .advance 0,
    .powerLoss 1 (fun _ => []), .enter, .read 0 0, .read 0 4, .read 0 20, .read 0 0]

theorem run_reaches {allowed : MetaEvent → Prop} {events : List MetaEvent} {file last : MetadataFile}
    (each : ∀ event ∈ events, allowed event) (ran : MetadataFile.run events file = some last) :
    MetadataFile.Reaches allowed file last := by
  induction events generalizing file with
  | nil =>
    cases ran
    exact .refl
  | cons event events ih =>
    obtain ⟨middle, moved, rest⟩ := Option.bind_eq_some_iff.mp ran
    refine .head ⟨event, each event (List.mem_cons_self ..), moved⟩ (ih ?_ rest)
    exact fun other member => each other (List.mem_cons_of_mem _ member)

theorem metadata_write_atomic_leftover : ∃ now,
    MetadataFile.Reaches (MetaEvent.updates (sized 8)) { directory := leftover } now ∧
      (now.readers.any fun reader => match reader with
        | .finished _ => true
        | _ => false) = true ∧
      ∀ reader ∈ now.readers, reader.Returns (some (sized 4)) (sized 8) := by
  have tested : ((MetadataFile.run events { directory := leftover }).any fun now =>
      now.readers.any fun reader => match reader with
        | .finished _ => true
        | _ => false) = true := by
    decide +kernel
  obtain ⟨now, ran, finished⟩ := (Option.any_eq_true ..).mp tested
  have reaches : MetadataFile.Reaches (MetaEvent.updates (sized 8)) { directory := leftover } now := by
    refine run_reaches (fun event member => ?_) ran
    simp only [events, List.mem_cons, List.not_mem_nil, or_false] at member
    rcases member with rfl | rfl | rfl | rfl | rfl | rfl | rfl | rfl | rfl | rfl | rfl | rfl | rfl | rfl <;>
      first | rfl | trivial
  have stable : Stable (some (sized 4)) leftover :=
    ⟨rfl, .inr ⟨0, sized 4, rfl, rfl, rfl⟩, fun inode named => by cases named; exact ⟨by decide, by decide⟩⟩
  have valid : ∀ obj ∈ some (sized 4), Json.Valid obj := by
    rintro _ ⟨⟩
    exact sized_valid 4
  exact ⟨now, reaches, finished, (metadata_write_atomic valid (sized_valid 8) stable reaches).1⟩

end MetadataAtomicity
end Rawfile
