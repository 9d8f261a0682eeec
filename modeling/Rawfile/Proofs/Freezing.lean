import Rawfile.Proofs.Calm
import Rawfile.Proofs.Footprint

/-! File systems that a snapshot freezes. The loop that thaws the devices stops
at the first one without a file system, as the loop that freezes them does: it
reaches what its own call froze, and what an earlier call left frozen only if it
recognises every device on the way. -/

namespace Rawfile
open Effects World

def sounding (recognised : Device → Bool) : World Op Op.Reply Err Answer Clocked where
  exec := Clocked.exec
  may operation answer _ := match operation with
    | .device (.probe device) => answer.fails = !recognised device
    | .device (.unfreeze _) => answer.fails = false
    | _ => True
  answers operation _ := by
    split
    · exact ⟨{ fails := !recognised _ }, rfl⟩
    · exact ⟨{}, rfl⟩
    · exact ⟨{}, trivial⟩

namespace Logged

def frozen (now : Logged) : List Device := now.1.node.devices.frozen

def Froze (now : Logged) (device : Device) : Prop := (Op.device (.freeze device), true) ∈ now.2

def Probed (now : Logged) : Prop := ∃ device, (Op.device (.probe device), true) ∈ now.2

structure Unmoved (before after : Logged) : Prop where
  devices : after.1.node.devices = before.1.node.devices
  froze : ∀ device, after.Froze device ↔ before.Froze device
  probed : after.Probed ↔ before.Probed

end Logged

def Op.deviceless : Op → Prop
  | .device (.attachedLoops _) => True
  | .device _ => False
  | _ => True

namespace Freezing

variable {recognised : Device → Bool} {before now after : Logged} {operation : Op} {answer : Answer}

theorem unmoved_refl (now : Logged) : now.Unmoved now := ⟨rfl, fun _ => Iff.rfl, Iff.rfl⟩

theorem Unmoved.trans {last : Logged} (first : before.Unmoved now) (rest : now.Unmoved last) : before.Unmoved last :=
  ⟨rest.devices.trans first.devices, fun device => (rest.froze device).trans (first.froze device),
    rest.probed.trans first.probed⟩

theorem exec_devices (aside : operation.deviceless) (node : Node) :
    (operation.exec 0 answer node).2.devices = node.devices := by
  cases operation with
  | device operation =>
    cases operation with
    | attachedLoops path => simp only [Op.exec, DeviceOp.exec]; split <;> rfl
    | _ => cases aside
  | lock operation =>
    cases operation with
    | acquire volume =>
      simp only [Op.exec, LockOp.exec]
      split
      · rfl
      · split <;> rfl
    | release volume => rfl
  | _ => rfl

theorem unmoved_exec (aside : operation.deviceless) (same : before.Unmoved now) :
    before.Unmoved ((sounding recognised).recorded.exec operation answer now).2 := by
  have other : ∀ device, operation ≠ .device (.freeze device) ∧ operation ≠ .device (.probe device) := by
    intro device
    constructor <;> rintro rfl <;> cases aside
  refine Unmoved.trans same ⟨exec_devices aside now.1.node, fun device => ?_, ?_⟩
  · simp [Logged.Froze, World.recorded, Ne.symm (other device).1]
  · simp [Logged.Probed, World.recorded, fun device => Ne.symm (other device).2]

theorem unmoved_within {α : Type} {program : Driver α} (within : program.Within Op.lawful Op.deviceless)
    (same : before.Unmoved now) :
    (sounding recognised).recorded.Surely (fun after => before.Unmoved after) (fun _ after => before.Unmoved after)
      program now :=
  Surely.ofWithin _ within (fun operation answer state => Op.exec_lawful operation 0 answer state.1.node)
    (fun _ _ _ aside _ same => unmoved_exec aside same) same

structure Holding (reach : List Device) (start now : Logged) : Prop where
  kept : ∀ device ∈ start.frozen, device ∈ now.frozen
  own : ∀ device, now.Froze device → device ∈ reach

variable {start : Logged} {reach loops : List Device}

theorem Holding.unmoved (holding : Holding reach start before) (same : before.Unmoved now) :
    Holding reach start now := by
  constructor
  · intro device member
    unfold Logged.frozen
    rw [same.devices]
    exact holding.kept device member
  · intro device froze
    exact holding.own device ((same.froze device).mp froze)

theorem Holding.aside {α : Type} {program : Driver α} (within : program.Within Op.lawful Op.deviceless)
    (holding : Holding reach start now) :
    (sounding recognised).recorded.Ends (fun _ after => Holding reach start after) program now :=
  (unmoved_within within (unmoved_refl now)).weaken (fun _ _ => trivial) fun _ _ _ same => holding.unmoved same

/-- What the call froze is thawed, and of what was frozen before those devices
that its loop reaches, if it gets to the devices. -/
def Released (reach : List Device) (start after : Logged) : Prop :=
  (∀ device, after.Froze device → device ∉ after.frozen) ∧
    ∀ device ∈ start.frozen, (device ∉ after.frozen ↔ after.Probed ∧ device ∈ reach)

variable {config : DriverConfig} {args : CreateSnapshotArgs} {pool : PoolName} {file : ImgFile}

section
variable (freezing : args.freezeFs = true) (holding : Holding (loops.takeWhile recognised) start now)
include freezing holding

end

variable {volume : VolumeId}

theorem Released.untouched (empty : start.2 = []) (same : start.Unmoved after) : Released reach start after := by
  have unfrozen (device : Device) : ¬ after.Froze device := by
    rw [same.froze]
    simp [Logged.Froze, empty]
  have unprobed : ¬ after.Probed := by
    rw [same.probed]
    simp [Logged.Probed, empty]
  have frozen : after.frozen = start.frozen := congrArg Devices.frozen same.devices
  refine ⟨fun device froze => absurd froze (unfrozen device), fun device member => ?_⟩
  rw [frozen]
  exact ⟨fun thawed => absurd member thawed, fun probed => absurd probed.1 unprobed⟩

theorem Released.unmoved (released : Released reach start now) (same : now.Unmoved after) :
    Released reach start after := by
  have frozen : after.frozen = now.frozen := congrArg Devices.frozen same.devices
  unfold Released
  rw [frozen, same.probed]
  exact ⟨fun device froze => released.1 device ((same.froze device).mp froze), released.2⟩

structure Standing (volume : VolumeId) (start now : Logged) : Prop where
  unmoved : start.Unmoved now
  metadata : Files.metadata now.1.node.files volume = Files.metadata start.1.node.files volume

private theorem acquire_standing :
    (sounding recognised).recorded.Ends (fun _ after => Standing volume start after)
      (Driver.lock (.acquire volume)) start := by
  refine @Surely.perform _ _ _ _ _ _ _ (Op.lock (.acquire volume)) _ _ trivial ?_
  intro answer reply after may executed
  have moved := @unmoved_exec recognised start start (.lock (.acquire volume)) answer trivial (unmoved_refl start)
  have kept := Op.exec_lookup 0 answer start.1.node (.lock (.acquire volume))
    (show ¬ Op.touches (.lock (.acquire volume)) (.metaFile volume) from nofun)
  cases executed
  refine ⟨trivial, moved, ?_⟩
  show Files.metadata (Op.exec 0 (.lock (.acquire volume)) answer start.1.node).2.files volume = _
  unfold Files.metadata
  rw [kept]

theorem Released.locked {body : Driver Snapshot} (empty : start.2 = [])
    (inside : ∀ state, Standing volume start state →
      (sounding recognised).recorded.Ends (fun _ after => Released reach start after) body state) :
    (sounding recognised).recorded.Ends (fun _ after => Released reach start after)
      (withVolLock volume body) start := by
  apply acquire_standing.andThen
  · intro _ state standing
    refine Surely.tryFinally ((inside state standing).weaken (fun _ _ => trivial) ?_)
    intro outcome state _ released
    have releasing : (Driver.lock (.release volume)).Within Op.lawful Op.deviceless := .perform trivial
    refine (unmoved_within releasing (unmoved_refl state)).weaken (fun _ _ => trivial) ?_
    intro cleaned after _ same
    cases cleaned with
    | ok value => exact ⟨trivial, released.unmoved same⟩
    | error error => exact released.unmoved same
  · intro _ state standing
    exact untouched empty standing.unmoved

theorem Holding.initial (empty : start.2 = []) (same : start.Unmoved now) : Holding reach start now := by
  constructor
  · intro device frozen
    unfold Logged.frozen
    rw [same.devices]
    exact frozen
  · intro device froze
    rw [same.froze] at froze
    simp [Logged.Froze, empty] at froze

end Freezing

namespace Freezing

instance (recognised : Device → Bool) (operation : Op) (answer : Answer) (now : Clocked) :
    Decidable ((sounding recognised).may operation answer now) := by
  unfold sounding
  dsimp only
  split <;> infer_instance

def plain (recognised : Device → Bool) (operation : Op) : Answer :=
  match operation with
  | .device (.probe device) => { fails := !recognised device }
  | _ => {}

def volume : CreateVolumeArgs where
  volumeId := "v"
  size := 4
  storagePool := "default"
  thinProvision := true

def attached : Clocked :=
  let created := (loose.follow (List.replicate 16 {}) (VolumeManager.createVolume singlePool volume) ⟨{}, 0⟩).getD ⟨{}, 0⟩
  let image := ImgFile.path ⟨"default", "v"⟩
  { created with node := { created.node with devices := { loops := [(0, image), (1, image)] } } }

def snapshot : CreateSnapshotArgs where
  volumeId := "v"
  name := "s"
  copyOnWrite := false
  freezeFs := true

def dying : Option Clocked :=
  (sounding fun _ => true).follow (List.replicate 11 {}) (SnapshotManager.createSnapshot singlePool snapshot) attached

def crashed : Clocked :=
  let died := dying.getD attached
  { died with node := died.node.crash }

def later (recognised : Device → Bool) : Except Err Snapshot × Logged :=
  (SnapshotManager.createSnapshot singlePool snapshot).eval
    (fun operation => (sounding recognised).recorded.exec operation (plain recognised operation)) (crashed, [])

def probes : Op × Bool → Bool
  | (.device (.probe _), true) => true
  | _ => false

end Freezing
end Rawfile
