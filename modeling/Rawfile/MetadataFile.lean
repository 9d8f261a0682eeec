import Mathlib.Logic.Relation
import Rawfile.Effects.Directory
import Rawfile.Effects.Json

/-! `metadata` and `update_metadata` of `utils/rawfile.py`, one system call at
a time. The object is dumped to `disk.meta.tmp`, which then replaces
`disk.meta`; readers take no lock. -/

namespace Rawfile
open Effects

inductive MetaName where
  | disk
  | tmp
  deriving DecidableEq

/-- How far a call of `update_metadata` is: the temporary file is opened, the
text is written and flushed, then synced, then it replaces `disk.meta`, and the
directory is synced at last. -/
inductive UpdateStage where
  | opening
  | dumping (inode written : Nat)
  | replacing
  | syncing
  | returned
  | raised
  deriving DecidableEq

structure Update where
  obj : Json
  stage : UpdateStage := .opening

/-- `json.dump(obj, f)` -/
def Update.text (update : Update) : List Char := update.obj.dumps

def Update.ended (update : Update) : Bool := update.stage = .returned || update.stage = .raised

/-- A reader: `meta_file(volume_id).read_text()`. -/
inductive MetaReader where
  | opening
  | reading (inode : Nat) (got : List Char)
  | finished (text : List Char)
  | missing

/-- The metadata directory of a volume with the call that writes it, if any, and
the calls that read it. -/
structure MetadataFile where
  directory : Directory MetaName Char
  writer : Option Update := none
  readers : List MetaReader := []

/-- A call begins or goes on, where `accepted` is the number of characters the
system takes or returns beyond the first; the writer raises or is killed; or
everything stops and the disk keeps what it has. -/
inductive MetaEvent where
  | update (obj : Json)
  | advance (accepted : Nat)
  | stop
  | enter
  | read (reader accepted : Nat)
  | powerLoss (kept : Nat) (remains : Nat → List Char)

namespace MetadataFile

/-- No update is going on: the next one may have the lock. -/
def idle (file : MetadataFile) : Bool := file.writer.all Update.ended

def stage (update : Update) (stage : UpdateStage) (directory : Directory MetaName Char) (file : MetadataFile) :
    MetadataFile :=
  { file with directory, writer := some { update with stage } }

def advance (update : Update) (accepted : Nat) (file : MetadataFile) : Option MetadataFile :=
  match update.stage with
  | .opening =>
    let (inode, directory) := file.directory.truncate .tmp
    some (file.stage update (.dumping inode 0) directory)
  | .dumping inode written =>
    if written < update.text.length then
      let chunk := (update.text.drop written).take (accepted + 1)
      some (file.stage update (.dumping inode (written + chunk.length)) (file.directory.writeAt inode written chunk))
    else some (file.stage update .replacing (file.directory.fsync inode))
  | .replacing =>
    match file.directory.replace .tmp .disk with
    | some directory => some (file.stage update .syncing directory)
    | none => some (file.stage update .raised file.directory)
  | .syncing => some (file.stage update .returned file.directory.settle)
  | .returned | .raised => none

def readOn (accepted : Nat) (directory : Directory MetaName Char) : MetaReader → Option MetaReader
  | .opening =>
    match directory.names .disk with
    | some inode => some (.reading inode [])
    | none => some .missing
  | .reading inode got =>
    let chunk := ((directory.content inode).drop got.length).take (accepted + 1)
    some (if chunk = [] then .finished got else .reading inode (got ++ chunk))
  | .finished _ | .missing => none

def next : MetaEvent → MetadataFile → Option MetadataFile
  | .update obj, file => if file.idle then some { file with writer := some { obj } } else none
  | .advance accepted, file => file.writer.bind fun update => file.advance update accepted
  | .stop, file => some { file with writer := none }
  | .enter, file => some { file with readers := file.readers ++ [.opening] }
  | .read reader accepted, file => do
    let before ← file.readers[reader]?
    let after ← readOn accepted file.directory before
    pure { file with readers := file.readers.set reader after }
  | .powerLoss kept remains, file => some { directory := file.directory.powerLoss kept remains }

def run : List MetaEvent → MetadataFile → Option MetadataFile
  | [], file => some file
  | event :: events, file => (next event file).bind (run events)

def Reaches (allowed : MetaEvent → Prop) : MetadataFile → MetadataFile → Prop :=
  Relation.ReflTransGen fun before after => ∃ event, allowed event ∧ next event before = some after

end MetadataFile

def MetaEvent.updates (obj : Json) : MetaEvent → Prop
  | .update other => other = obj
  | _ => True

def MetaEvent.inside : MetaEvent → Prop
  | .advance _ | .enter | .read _ _ => True
  | _ => False

def MetaEvent.afterwards : MetaEvent → Prop
  | .update _ => False
  | _ => True

end Rawfile
