import Rawfile.Metadata

/-! `filesystem/` and `declarative.py`: finding the file system of a device,
formatting and mounting it, and removing a mount with its mount point. -/

namespace Rawfile
open Effects Program

/-- `Path(f"{staging_path}/device").resolve()` -/
def stagedDevice (staging : String) : Driver Source := do
  match ← Driver.file (.kind (.staging staging .device)) with
  | some (.link text) =>
    if text = staging ++ "/block/dev" then
      match ← Driver.file (.kind (.staging staging .dev)) with
      | some (.link inner) => pure (Source.ofText inner)
      | _ => pure (.path text)
    else pure (Source.ofText text)
  | _ => pure (.path (staging ++ "/device"))

def getDeviceForMountpoint (point : Path) : Driver (Option Source) := Driver.device (.findmnt point)

/-- `blkid` exits with 2 when it finds no type, as on a path that is not a device. -/
def getDeviceFs : Source → Driver (Option String)
  | .loop device => do
    let result ← Driver.device (.blkid device)
    if result.returncode = 2 then pure none else pure (some (String.ofList (strip result.stdout.toList)))
  | .path _ => pure none

structure FileSystem where
  name : FileSystemName
  device : Device

namespace FileSystem

def formatFs (fs : FileSystem) : Driver Unit :=
  (Driver.device (.mkfs fs.name fs.device)).tryExcept fun error => raise (.fileSystemOperation "format" fs.name error.message)

def mount (fs : FileSystem) (point : Path) : Driver Unit := do
  match ← getDeviceForMountpoint point with
  | some current =>
    if current = .loop fs.device then pure ()
    else raise (.invalidDeviceForMountpoint (.loop fs.device) point)
  | none =>
    (do Driver.file (.mkdir point true)
        Driver.device (.mount fs.name fs.device point)).tryExcept fun error => raise (.fileSystemOperation "mount" fs.name error.message)

def unmount (fs : FileSystem) (point : Path) (clearMountpoint : Bool) : Driver Unit := do
  let current ← getDeviceForMountpoint point
  if current.any (fun source => source ≠ .loop fs.device) then
    raise (.invalidDeviceForMountpoint (current.getD (.loop fs.device)) point)
  else
    (do if current.isSome then Driver.device (.umount point)
        if clearMountpoint then Driver.file (.rmdir point)).tryExcept
      fun error => raise (.fileSystemOperation "unmount" fs.name error.message)

def formatAndMount (fs : FileSystem) (point : Path) : Driver Unit := do
  if (← getDeviceFs (.loop fs.device)).getD "" = "" then fs.formatFs
  fs.mount point

end FileSystem

/-- `from_device` -/
def fromDevice (source : Source) : Driver (Option FileSystem) := do
  let currentFs ← getDeviceFs source
  match source, currentFs.bind FileSystemName.ofText with
  | .loop device, some name => pure (some { name, device })
  | _, _ => pure none

/-- A name that is no key of `filesystems` is a `KeyError`, a path that is no device a `DeviceIsNotBlockError`. -/
def getFromDeviceOrFallback (source : Source) (fallback : String) : Driver FileSystem := do
  match ← fromDevice source with
  | some fs => pure fs
  | none =>
    match FileSystemName.ofText fallback, source with
    | none, _ => raise (.keyError fallback)
    | some _, .path _ => raise (.deviceIsNotBlock source)
    | some name, .loop device => pure { name, device }

/-- `declarative.mount` of the staged device. -/
def mount (staging : String) (point : Path) : Driver Unit := do
  let current ← getDeviceForMountpoint point
  let device ← stagedDevice staging
  match current with
  | some current =>
    if current = device then pure () else raise (.invalidDeviceForMountpoint current point)
  | none =>
    if (← Driver.file (.kind point)) = some .file then Driver.device (.bind device point)
    else
      match ← fromDevice device with
      | some fs => fs.mount point
      | none => raise (.unknownFileSystem device)

/-- `with suppress(FileNotFoundError): path.rmdir()` -/
def rmdirSuppressed (path : Path) : Driver Unit :=
  (Driver.file (.rmdir path)).tryExcept fun
    | .fileNotFound => pure ()
    | error => raise error

/-- `declarative.unmount`. A file something is bound to is a block device, and still not a directory. -/
def unmount (point : Path) (clearMountpoint : Bool) : Driver Unit := do
  if !(← Driver.file (.exists point)) then pure ()
  else if (← Driver.file (.kind point)) = some .file then
    Driver.device (.umount point)
    if clearMountpoint then Driver.file (.unlink point true)
  else
    match ← getDeviceForMountpoint point with
    | none => if clearMountpoint then rmdirSuppressed point
    | some device =>
      match ← fromDevice device with
      | some fs => fs.unmount point clearMountpoint
      | none => raise (.unknownFileSystem device)

end Rawfile
