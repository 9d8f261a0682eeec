import Rawfile.Effects.Expansion
import Rawfile.MetadataFile
import Rawfile.Servicers

/-! The calls that patch the metadata of one volume, at the granularity of
reading `disk.meta`, opening, writing and replacing it. `disk.meta.tmp` has one
name for all of them. The other operations take one step each. -/

namespace Rawfile
open Effects

namespace Meta

def ofNat (number : Nat) : Json := .int number

def ofFlag : Option Bool → Json
  | some flag => .bool flag
  | none => .null

/-- The keys of the dictionary and what is written under them; of a path it keeps the pool. -/
def slots : List (String × (Meta → Option Json)) :=
  [("schema_version", fun data => data.schemaVersion.map ofNat), ("storage_pool", fun data => data.storagePool.map .str),
    ("ready", fun data => data.ready.map .bool), ("volume_id", fun data => data.volumeId.map .str),
    ("created_at", fun data => data.createdAt.map ofNat), ("img_file", fun data => data.imgFile.map .str),
    ("size", fun data => data.size.map ofNat), ("thin_provision", fun data => data.thinProvision.map .bool),
    ("freezefs", fun data => data.freezefs.map ofFlag), ("copy_on_write", fun data => data.copyOnWrite.map ofFlag),
    ("deleted_at", fun data => data.deletedAt.map ofNat), ("gc_at", fun data => data.gcAt.map ofNat)]

def fields (data : Meta) : List (String × Json) :=
  slots.filterMap fun slot => (slot.2 data).map (Prod.mk slot.1)

def toNat? : Json → Option Nat
  | .int number => some number.toNat
  | _ => none

def toText? : Json → Option String
  | .str text => some text
  | _ => none

def toBool? : Json → Option Bool
  | .bool flag => some flag
  | _ => none

def toFlag? : Json → Option (Option Bool)
  | .bool flag => some (some flag)
  | .null => some none
  | _ => none

def ofFields (fields : List (String × Json)) : Meta where
  schemaVersion := (fields.lookup "schema_version").bind toNat?
  storagePool := (fields.lookup "storage_pool").bind toText?
  ready := (fields.lookup "ready").bind toBool?
  volumeId := (fields.lookup "volume_id").bind toText?
  createdAt := (fields.lookup "created_at").bind toNat?
  imgFile := (fields.lookup "img_file").bind toText?
  size := (fields.lookup "size").bind toNat?
  thinProvision := (fields.lookup "thin_provision").bind toBool?
  freezefs := (fields.lookup "freezefs").bind toFlag?
  copyOnWrite := (fields.lookup "copy_on_write").bind toFlag?
  deletedAt := (fields.lookup "deleted_at").bind toNat?
  gcAt := (fields.lookup "gc_at").bind toNat?

def dumps (data : Meta) : List Char := (Json.obj data.fields).dumps

/-- `json.loads` of a text that should be a dictionary. -/
def loads (text : List Char) : Option Meta :=
  match Json.loads text with
  | some (.obj fields) => some (ofFields fields)
  | _ => none

end Meta

/-- The steps of `update_metadata` on the temporary file, and every other operation. -/
inductive FineOp where
  | openTmp (old : Meta)
  | dump (inode : Nat) (data : Meta)
  | replace (patch : Meta)
  | plain (operation : Op)

@[reducible] def FineOp.Reply : FineOp → Type
  | .openTmp _ => Nat
  | .dump _ _ | .replace _ => Unit
  | .plain operation => operation.Reply

abbrev FineDriver := Program FineOp FineOp.Reply Err

/-- What an operation of the driver is in steps: only a patch of the volume has several. -/
def Op.fine (volume : VolumeId) : (operation : Op) → FineDriver operation.Reply
  | .file (.installMeta target old patch) =>
    if target = volume then do
      let inode ← Program.perform (FineOp.openTmp old)
      Program.perform (FineOp.dump inode (old.merge patch))
      Program.perform (FineOp.replace patch)
    else Program.perform (FineOp.plain (.file (.installMeta target old patch)))
  | operation => Program.perform (FineOp.plain operation)

/-- A node with the metadata directory of one volume in detail. `patches` are
those whose file was put in place since `disk.meta` was last removed, `opened` are
the threads between opening the temporary file and replacing `disk.meta`; `removed`
says that `disk.meta` was removed, and `missed` that a thread had no file to replace
it with. -/
structure FineNode where
  node : Node := {}
  directory : Directory MetaName Char := {}
  patches : List Meta := []
  opened : List Nat := []
  removed : Bool := false
  missed : Bool := false

namespace FineNode

def closed (thread : Nat) (now : FineNode) : FineNode :=
  { now with opened := now.opened.filter fun other => other ≠ thread }

def remove : MetaName → FineNode → FineNode
  | .disk, now => { now with directory := now.directory.unlink .disk, patches := [], removed := true }
  | .tmp, now => { now with directory := now.directory.unlink .tmp }

def readMeta (answer : Answer) (now : FineNode) : Except Err Meta :=
  if answer.fails then .error .osError
  else match now.directory.lookup .disk with
    | none => .error .fileNotFound
    | some text => match Meta.loads text with
      | some data => .ok data
      | none => .error .valueError

def listed (volume : VolumeId) (now : FineNode) : List Path :=
  (if (now.directory.names .disk).isSome then [.metaFile volume] else []) ++
    if (now.directory.names .tmp).isSome then [.metaTmp volume] else []

def lift (thread : Nat) (operation : Op) (answer : Answer) (now : FineNode) : Except Err operation.Reply × FineNode :=
  let (reply, node) := operation.exec thread answer now.node
  (reply, { now with node })

/-- An operation of the driver. The two files of the volume are not among those of the node. -/
def execPlain (volume : VolumeId) (thread : Nat) (operation : Op) (answer : Answer) (now : FineNode) :
    Except Err operation.Reply × FineNode :=
  match operation with
  | .file (.readMeta target) =>
    if target = volume then (now.readMeta answer, now) else now.lift thread (.file (.readMeta target)) answer
  | .file (.glob path) =>
    if path = .metaDir volume then (.ok (now.node.files.children path ++ now.listed volume), now)
    else now.lift thread (.file (.glob path)) answer
  | .file (.unlink path missingOk) =>
    if path = .metaFile volume ∨ path = .metaTmp volume then
      let name := if path = .metaFile volume then .disk else .tmp
      if answer.fails then (.error .osError, now)
      else match now.directory.names name, missingOk with
        | some _, _ => (.ok (), now.remove name)
        | none, true => (.ok (), now)
        | none, false => (.error .fileNotFound, now)
    else now.lift thread (.file (.unlink path missingOk)) answer
  | .file (.rmdir path) =>
    if path = .metaDir volume ∧ now.listed volume ≠ [] then (.error .osError, now)
    else now.lift thread (.file (.rmdir path)) answer
  | operation => now.lift thread operation answer

def exec (volume : VolumeId) (thread : Nat) (operation : FineOp) (answer : Answer) (now : FineNode) :
    Except Err operation.Reply × FineNode :=
  match operation with
  | .openTmp _ =>
    if answer.fails then (.error .osError, now)
    else if now.node.files.isDirectory (.metaDir volume) then
      let (inode, directory) := now.directory.truncate .tmp
      (.ok inode, { now with directory, opened := thread :: now.opened })
    else (.error .fileNotFound, now)
  | .dump inode data =>
    if answer.fails then
      (.error .osError,
        { now with directory := now.directory.writeAt inode 0 (data.dumps.take answer.amount) }.closed thread)
    else (.ok (), { now with directory := (now.directory.writeAt inode 0 data.dumps).fsync inode })
  | .replace patch =>
    if answer.fails then (.error .osError, now.closed thread)
    else match now.directory.replace .tmp .disk with
      | some directory =>
        (.ok (), { now with directory := directory.settle, patches := now.patches ++ [patch] }.closed thread)
      | none => (.error .fileNotFound, { now with missed := true }.closed thread)
  | .plain operation => now.execPlain volume thread operation answer

end FineNode

inductive PatchCall where
  | createVolume (args : CreateVolumeArgs)
  | expandRawFile (newSize : Int)
  | deleteVolume

def PatchCall.program (config : DriverConfig) (volume : VolumeId) : PatchCall → Driver Unit
  | .createVolume args => VolumeManager.createVolume config { args with volumeId := volume }
  | .expandRawFile newSize => do let _ ← Internal.expandRawFile config volume newSize
  | .deleteVolume => do let _ ← VolumeManager.deleteVolume config volume

/-- Threads that patch the metadata of the volume, and nothing from outside. -/
def patchMachine (config : DriverConfig) (volume : VolumeId) :
    Machine FineOp FineOp.Reply Err Answer FineNode PatchCall Empty where
  exec thread operation answer now := some (now.exec volume thread operation answer)
  enter call now := some (now, (call.program config volume).expand (Op.fine volume))
  crash now := { now with node := now.node.crash, opened := [] }
  drift := nofun

abbrev PatchConfig := Config FineOp FineOp.Reply Err FineNode PatchCall
abbrev PatchEvent := Event Answer PatchCall Empty

end Rawfile
