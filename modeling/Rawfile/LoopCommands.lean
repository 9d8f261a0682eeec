import Rawfile.Metadata

/-! The commands of `attach_loop` one attempt after the other, with any outcome:
`losetup` may fail after it has attached a device. -/

namespace Rawfile
open Effects

/-- The outcomes of one attempt. `nextLoop` is about `losetup -f` and `mknod`;
a `losetup` that succeeds has attached a device. -/
structure Attempt where
  listed : Bool
  writable : Bool
  nextLoop : Bool
  attached : Option Device
  succeeds : Bool
  attaches : succeeds = true → attached ≠ none

/-- The attempt that is made, those to come, and the devices attached to the file. -/
structure LoopCommands where
  upcoming : List Attempt
  current : Option Attempt := none
  devices : List Device := []

namespace LoopCommands

def answer (succeeds : Option Bool) : Except Err Unit := if succeeds = some true then .ok () else .error .calledProcess

/-- Every attempt begins with a listing. -/
def exec : (operation : Op) → LoopCommands → Except Err operation.Reply × LoopCommands
  | .device (.attachedLoops _), commands =>
    match commands.upcoming with
    | [] => (.error .calledProcess, commands)
    | attempt :: upcoming =>
      (if attempt.listed then .ok commands.devices else .error .calledProcess,
        { commands with upcoming, current := some attempt })
  | .device (.setrw _), commands => (answer (commands.current.map Attempt.writable), commands)
  | .device .nextLoop, commands => (answer (commands.current.map Attempt.nextLoop), commands)
  | .device (.losetup _), commands =>
    (answer (commands.current.map Attempt.succeeds),
      { commands with devices := commands.devices ++ (commands.current.bind Attempt.attached).toList })
  | _, commands => (.error .calledProcess, commands)

/-- `attach_loop` with as many attempts as there are outcomes, on a file without a device. -/
def attach (file : ImgFile) (attempts : List Attempt) : Except Err Device × LoopCommands :=
  (attachLoop file attempts.length attempts.length none).eval exec { upcoming := attempts }

end LoopCommands
end Rawfile
