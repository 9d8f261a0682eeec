import Rawfile.Proofs.Calm
import Rawfile.Proofs.Capacity
import Rawfile.Proofs.Footprint
import Rawfile.Proofs.Kinds

/-! The admission of an expansion. `ExpandRawFile` compares the blocks it will
add with the capacity of the pool, grows the image and records the new size last,
so a call that breaks off can be issued again. -/

namespace Rawfile
open Effects World

structure Expandable (config : DriverConfig) (volume : VolumeId) (pool : PoolName) (data : Meta) (image : Image)
    (now : Clocked) : Prop where
  configured : pool ∈ config.storagePools
  named : poolOrDefault config pool = pool
  found : Files.metadata now.node.files volume = some data
  pooled : data.storagePool = some pool
  located : data.imgFile = some pool
  sized : data.size = some image.size
  stored : Files.image now.node.files (ImgFile.path ⟨pool, volume⟩) = some image
  filed : now.node.files.lookup (.lockFile volume) ≠ some .directory

def neededSpace (data : Meta) (size : Nat) (image : Image) (newSize : Int) : Int :=
  if data.isThin then newSize - size else newSize - image.physical

def grownImage (data : Meta) (image : Image) (newSize : Int) : Image :=
  if data.isThin then image.truncate newSize.toNat else image.fallocate newSize.toNat

def Admitted (accounts : Accounts) (files : Files) (pool : PoolName) (data : Meta) (size : Nat) (image : Image)
    (newSize : Int) : Prop :=
  (neededSpace data size image newSize : ℚ) ≤ accounts.available files pool

def PartlyGrown (data : Meta) (image : Image) (newSize : Int) (partly : Image) : Prop :=
  if data.isThin then partly = image ∨ partly = image.truncate newSize.toNat
  else ∃ reached ≤ newSize.toNat, partly = image.fallocate reached

namespace Admission

variable {accounts : Accounts} {volume : VolumeId} {pool : PoolName} {data : Meta} {image partly : Image} {newSize : Int}

section Images

private theorem fallocate_fallocate {reached length : Nat} (within : reached ≤ length) :
    (image.fallocate reached).fallocate length = image.fallocate length := by
  unfold Image.fallocate Image.size
  simp only [Image.mk.injEq, List.append_assoc, List.append_cancel_left_eq, List.length_append, List.length_replicate]
  constructor
  · rw [List.replicate_append_replicate]
    congr 1
    omega
  · omega

private theorem truncate_truncate {length : Nat} : (image.truncate length).truncate length = image.truncate length := by
  have same : (image.truncate length).size = length := Image.size_truncate image length
  have whole : (image.truncate length).data.length = length := same
  rw [Image.truncate, same, List.take_of_length_le (Nat.le_of_eq whole), Nat.sub_self]
  simp

private theorem physical_truncate {length : Nat} (grows : image.size ≤ length) :
    (image.truncate length).physical = image.physical := by
  simp [Image.truncate, Nat.not_lt.mpr grows]

theorem grownImage_partly (larger : image.size < newSize) (reached : PartlyGrown data image newSize partly) :
    grownImage data partly newSize = grownImage data image newSize := by
  unfold PartlyGrown at reached
  unfold grownImage
  split at reached
  next thin =>
    rw [if_pos thin, if_pos thin]
    rcases reached with rfl | rfl
    · rfl
    · exact truncate_truncate
  next thick =>
    obtain ⟨length, within, rfl⟩ := reached
    rw [if_neg thick, if_neg thick]
    exact fallocate_fallocate within

theorem physical_partly (larger : image.size < newSize) (reached : PartlyGrown data image newSize partly) :
    image.physical ≤ partly.physical ∧
      neededSpace data image.size partly newSize =
        neededSpace data image.size image newSize - (partly.physical - image.physical : Nat) ∧
      (partly.physical = image.physical ∨
        (partly.physical - image.physical : Nat) ≤ neededSpace data image.size image newSize) := by
  unfold PartlyGrown at reached
  unfold neededSpace
  split at reached
  next thin =>
    rw [if_pos thin, if_pos thin]
    have same : partly.physical = image.physical := by
      rcases reached with rfl | rfl
      · rfl
      · exact physical_truncate (by omega)
    omega
  next thick =>
    obtain ⟨length, within, rfl⟩ := reached
    rw [if_neg thick, if_neg thick]
    have grown : (image.fallocate length).physical = max image.physical length := rfl
    omega

theorem size_grownImage (larger : image.size < newSize) : (grownImage data image newSize).size = newSize.toNat := by
  unfold grownImage
  split
  · exact Image.size_truncate _ _
  · rw [Image.size_fallocate]
    omega

end Images

section Sums

variable {before after : Files} {more : Nat}

private theorem available_nonneg : 0 ≤ accounts.available before pool := StoragePool.capacity_nonneg

theorem floor_lt_iff {required : Int} :
    ((⌊accounts.available before pool⌋₊ : Nat) : Int) < required ↔ accounts.available before pool < required := by
  rw [Int.natCast_floor_eq_floor available_nonneg, Int.floor_lt]

theorem room_of_available {amount : ℚ} (positive : 0 < amount) (fits : amount ≤ accounts.available before pool) :
    amount ≤ (accounts.disks pool).total - (accounts.pools pool).reserved ((accounts.disks pool).stats before pool) -
        StoragePool.volumesPhysicalSize accounts.config before pool ∧
      amount ≤ (accounts.disks pool).free (before.storedSize pool) := by
  unfold Accounts.available StoragePool.capacity at fits
  rcases le_max_iff.mp fits with fits | negative
  · exact le_min_iff.mp fits
  · exact absurd (positive.trans_le negative) (lt_irrefl 0)

theorem fits_after {needed : Int}
    (counted : StoragePool.volumesPhysicalSize accounts.config after pool ≤
      StoragePool.volumesPhysicalSize accounts.config before pool + more)
    (stored : after.storedSize pool ≤ before.storedSize pool + more)
    (fits : (needed : ℚ) ≤ accounts.available before pool) :
    ((needed - more : Int) : ℚ) ≤ accounts.available after pool := by
  by_cases positive : 0 < needed
  · obtain ⟨room, free⟩ := room_of_available (Int.cast_pos.mpr positive) fits
    have spent : ((accounts.disks pool).free (before.storedSize pool) : ℚ) ≤
        (accounts.disks pool).free (after.storedSize pool) + more := by
      exact_mod_cast (accounts.disks pool).spends _ _ _ stored
    have grown : (StoragePool.volumesPhysicalSize accounts.config after pool : ℚ) ≤
        StoragePool.volumesPhysicalSize accounts.config before pool + more := by
      exact_mod_cast counted
    apply le_max_of_le_left
    apply le_min
    · show ((needed - more : Int) : ℚ) ≤ (accounts.disks pool).total -
        (accounts.pools pool).reserved ((accounts.disks pool).stats before pool) -
        StoragePool.volumesPhysicalSize accounts.config after pool
      push_cast
      linarith
    · show ((needed - more : Int) : ℚ) ≤ (accounts.disks pool).free (after.storedSize pool)
      push_cast
      linarith
  · have negative : ((needed - more : Int) : ℚ) ≤ 0 := by
      exact_mod_cast (show needed - more ≤ 0 by omega)
    exact negative.trans available_nonneg

end Sums

theorem available_congr {before after : Files}
    (same : ∀ path, (∀ volume, path ≠ .lockFile volume) → after.lookup path = before.lookup path) (pool : PoolName) :
    accounts.available after pool = accounts.available before pool := by
  have stats (volume : VolumeId) : VolumeManager.getVolumeStats accounts.config after volume =
      VolumeManager.getVolumeStats accounts.config before volume := by
    have metadata := @Files.metadata_congr _ _ volume (same (.metaFile volume) (by rintro _ ⟨⟩))
    have images (place : PoolName) := Files.image_congr (same (ImgFile.path ⟨place, volume⟩) (by rintro _ ⟨⟩))
    simp only [VolumeManager.getVolumeStats, metadata, images]
  have counted : StoragePool.volumesPhysicalSize accounts.config after pool =
      StoragePool.volumesPhysicalSize accounts.config before pool := by
    have shares : StoragePool.share accounts.config after pool = StoragePool.share accounts.config before pool := by
      funext volume
      unfold StoragePool.share
      rw [stats]
    apply Nat.le_antisymm
    · exact @StoragePool.volumesPhysicalSize_le _ _ _ _ "" 0 (fun volume _ => stats volume) (by rw [shares]; omega)
    · exact @StoragePool.volumesPhysicalSize_le _ _ _ _ "" 0 (fun volume _ => (stats volume).symm)
        (by rw [shares]; omega)
  have inside {path : Path} (inPool : path.inPool pool = true) : after.lookup path = before.lookup path :=
    same path fun volume other => by rw [other] at inPool; cases inPool
  have outside : after.physical (.metaDir "") = before.physical (.metaDir "") := by
    unfold Files.physical
    rw [Files.image_congr (same (.metaDir "") (by rintro _ ⟨⟩))]
  have stored : after.storedSize pool = before.storedSize pool := by
    apply Nat.le_antisymm
    · exact @Files.storedSize_le _ _ _ (.metaDir "") 0 (fun path inPool _ => inside inPool) outside.le
    · exact @Files.storedSize_le _ _ _ (.metaDir "") 0 (fun path inPool _ => (inside inPool).symm) outside.ge
  unfold Accounts.available StoragePool.capacity Disk.stats
  rw [counted, stored]

structure Framed (volume : VolumeId) (paths : Path → Prop) (before after : Clocked) : Prop where
  files : ∀ path, path ≠ .lockFile volume → ¬ paths path → after.node.files.lookup path = before.node.files.lookup path
  devices : after.node.devices = before.node.devices
  filed : after.node.files.lookup (.lockFile volume) ≠ some .directory

def Path.expanded (pool : PoolName) (volume : VolumeId) (path : Path) : Prop :=
  path = ImgFile.path ⟨pool, volume⟩ ∨ path = .metaFile volume

section Frames

variable {paths : Path → Prop} {before middle after : Clocked} {recorded : Meta} {config : DriverConfig}

theorem Framed.trans (first : Framed volume paths before middle) (rest : Framed volume paths middle after) :
    Framed volume paths before after :=
  ⟨fun path other outside => (rest.files path other outside).trans (first.files path other outside),
    rest.devices.trans first.devices, rest.filed⟩

theorem Framed.mono {wider : Path → Prop} (framed : Framed volume paths before after)
    (implies : ∀ path, paths path → wider path) : Framed volume wider before after :=
  ⟨fun path other outside => framed.files path other fun inside => outside (implies path inside), framed.devices,
    framed.filed⟩

private theorem stats_of_found (found : Files.metadata before.node.files volume = some data)
    (located : data.imgFile = some pool) (stored : Files.image before.node.files (ImgFile.path ⟨pool, volume⟩) = some image)
    (pooled : data.storagePool = some pool) :
    ∃ stats, VolumeManager.getVolumeStats config before.node.files volume = some stats ∧
      stats.pool = pool ∧ stats.physicalSize = image.physical := by
  simp [VolumeManager.getVolumeStats, found, located, stored, pooled]

theorem Framed.sums (framed : Framed volume (Path.expanded pool volume) before after)
    (found : Files.metadata before.node.files volume = some data) (located : data.imgFile = some pool)
    (pooled : data.storagePool = some pool)
    (stored : Files.image before.node.files (ImgFile.path ⟨pool, volume⟩) = some image)
    (refound : Files.metadata after.node.files volume = some recorded) (relocated : recorded.imgFile = some pool)
    (repooled : recorded.storagePool = some pool)
    (grown : Files.image after.node.files (ImgFile.path ⟨pool, volume⟩) = some partly) :
    StoragePool.volumesPhysicalSize config after.node.files pool ≤
        StoragePool.volumesPhysicalSize config before.node.files pool + (partly.physical - image.physical) ∧
      after.node.files.storedSize pool ≤ before.node.files.storedSize pool + (partly.physical - image.physical) := by
  constructor
  · refine @StoragePool.volumesPhysicalSize_le _ _ _ _ volume _ ?_ ?_
    · intro other different
      have metadata : Files.metadata after.node.files other = Files.metadata before.node.files other :=
        Files.metadata_congr (framed.files _ (by rintro ⟨⟩) (by simp [Path.expanded, ImgFile.path, different]))
      have images (place : PoolName) : Files.image after.node.files (ImgFile.path ⟨place, other⟩) =
          Files.image before.node.files (ImgFile.path ⟨place, other⟩) :=
        Files.image_congr (framed.files _ (by rintro ⟨⟩) (by simp [Path.expanded, ImgFile.path, different]))
      simp only [VolumeManager.getVolumeStats, metadata, images]
    · obtain ⟨old, first, oldPool, oldSize⟩ := @stats_of_found _ _ _ _ _ config found located stored pooled
      obtain ⟨new, second, newPool, newSize⟩ := @stats_of_found _ _ _ _ _ config refound relocated grown repooled
      unfold StoragePool.share
      rw [first, second]
      split
      · omega
      · simp only [oldPool, newPool, if_true, oldSize, newSize]
        omega
  · refine @Files.storedSize_le _ _ _ (ImgFile.path ⟨pool, volume⟩) _ ?_ ?_
    · intro other inside different
      apply framed.files
      · rintro rfl
        cases inside
      · rintro (rfl | rfl)
        · exact different rfl
        · cases inside
    · simp only [Files.physical, stored, grown, Option.map_some, Option.getD_some]
      omega

end Frames
end Admission

def Op.grows (path : Path) : Op → Prop
  | .file (.truncate target _) | .file (.fallocate target _) => target = path
  | _ => False

def Op.records (volume : VolumeId) : Op → Prop
  | .file (.installMeta target _ _) => target = volume
  | _ => False

def Logged.GrowthFailed (now : Logged) (path : Path) : Prop :=
  ∃ operation : Op, operation.grows path ∧ (operation, false) ∈ now.2

def Logged.Patched (now : Logged) (volume : VolumeId) : Prop :=
  ∃ operation : Op, operation.records volume ∧ (operation, true) ∈ now.2

/-- A call of `ExpandRawFile`, the pools it runs on and what it finds there. -/
structure Expanding where
  accounts : Accounts
  volume : VolumeId
  pool : PoolName
  data : Meta
  image : Image
  newSize : Int
  start : Clocked

namespace Expanding

def path (call : Expanding) : Path := ImgFile.path ⟨call.pool, call.volume⟩

def program (call : Expanding) : Driver ExpandRawFileResponse :=
  Internal.expandRawFile call.accounts.config call.volume call.newSize

def body (call : Expanding) : Driver ExpandRawFileResponse := do
  let img ← imgFile call.volume
  let increase := call.newSize - (← imgSize call.volume)
  if increase ≤ 0 then Internal.answered call.accounts.config call.volume false
  else
    let data ← metadata call.volume
    let required ← Internal.requiredSpace img.path data.isThin call.newSize increase
    let pool ← need "storage_pool" data.storagePool
    if (← getCapacity call.accounts.config pool) < required then Internal.answered call.accounts.config call.volume true
    else
      growImage img.path data.isThin call.newSize.toNat
      patchMetadata call.accounts.config call.volume pool { size := some call.newSize.toNat }
      Internal.answered call.accounts.config call.volume false

/-- The metadata of the volume fit its image. -/
def Fits (call : Expanding) : Prop :=
  Expandable call.accounts.config call.volume call.pool call.data call.image call.start

def Larger (call : Expanding) : Prop := call.image.size < call.newSize

def Admits (call : Expanding) : Prop :=
  Admitted call.accounts call.start.node.files call.pool call.data call.image.size call.image call.newSize

structure Still (call : Expanding) (now : Logged) : Prop where
  framed : Admission.Framed call.volume (fun _ => False) call.start now.1
  unpatched : ¬ now.Patched call.volume
  whole : ¬ now.GrowthFailed call.path

structure Growing (call : Expanding) (now : Logged) : Prop where
  larger : call.Larger
  admitted : call.Admits
  framed : Admission.Framed call.volume (· = call.path) call.start now.1
  reached : ∃ partly, PartlyGrown call.data call.image call.newSize partly ∧
    Files.image now.1.node.files call.path = some partly
  unpatched : ¬ now.Patched call.volume

structure Enlarged (call : Expanding) (now : Logged) : Prop where
  larger : call.Larger
  admitted : call.Admits
  framed : Admission.Framed call.volume (Admission.Path.expanded call.pool call.volume) call.start now.1
  found : Files.metadata now.1.node.files call.volume =
    some (call.data.merge { size := some call.newSize.toNat })
  stored : Files.image now.1.node.files call.path = some (grownImage call.data call.image call.newSize)
  patched : now.Patched call.volume
  whole : ¬ now.GrowthFailed call.path

inductive Phase (call : Expanding) (now : Logged) : Prop
  | still (still : call.Still now)
  | growing (growing : call.Growing now)
  | enlarged (enlarged : call.Enlarged now)

inductive Answered (call : Expanding) (response : ExpandRawFileResponse) (now : Logged) : Prop
  | already (fine : response.exhausted = false) (covered : ¬ call.Larger) (still : call.Still now)
  | exhausted (refused : response.exhausted = true) (larger : call.Larger) (full : ¬ call.Admits) (still : call.Still now)
  | expanded (fine : response.exhausted = false) (enlarged : call.Enlarged now)

end Expanding

namespace Admission

inductive QuietOp (volume : VolumeId) : Op → Prop
  | looking {operation} (reads : Op.reads operation) : QuietOp volume operation
  | acquire : QuietOp volume (.lock (.acquire volume))
  | release : QuietOp volume (.lock (.release volume))

variable {call : Expanding} {now after : Logged} {operation : Op} {answer : Answer}

theorem QuietOp.exec {volume : VolumeId} {before : Clocked} (quiet : QuietOp volume operation)
    (filed : before.node.files.lookup (.lockFile volume) ≠ some .directory) :
    Framed volume (fun _ => False) before (Clocked.exec operation answer before).2 := by
  have locking (lock : LockOp) (own : ∀ path, Op.touches (.lock lock) path → path = .lockFile volume) :
      Framed volume (fun _ => False) before (Clocked.exec (.lock lock) answer before).2 := by
    have typed : before.node.files.Typed (· = .lockFile volume) := by
      rintro path entry rfl found
      refine ⟨fun directory => absurd (directory ▸ found) filed, nofun⟩
    have fitting : (Op.lock lock).fitting := by
      intro path touched
      rw [own path touched]
      cases lock <;> exact ⟨nofun, fun _ => rfl⟩
    refine ⟨fun path other _ => ?_, Op.exec_devices 0 answer before.node (.lock lock) (fun _ => nofun),
      fun directory => ?_⟩
    · exact Op.exec_lookup 0 answer before.node _ fun touched => other (own path touched)
    · have kept := @Files.Typed.exec (.lock lock) 0 answer before.node _ typed fitting
      exact Bool.noConfusion ((kept _ _ rfl directory).mp rfl)
  cases quiet with
  | looking reads =>
    have same : (operation.exec 0 answer before.node).2 = before.node := reads.unchanged rfl
    have node : (Clocked.exec operation answer before).2.node = before.node := same
    exact ⟨fun _ _ _ => by rw [node], by rw [node], by rwa [node]⟩
  | acquire => exact locking _ fun _ touched => touched
  | release => exact locking _ fun _ touched => touched

theorem QuietOp.silent {volume : VolumeId} (quiet : QuietOp volume operation) (path : Path) :
    ¬ operation.grows path ∧ ¬ operation.records volume := by
  cases quiet with
  | looking reads =>
    cases operation with
    | file operation => cases operation <;> simp_all [Op.reads, Op.grows, Op.records]
    | _ => exact ⟨id, id⟩
  | acquire => exact ⟨id, id⟩
  | release => exact ⟨id, id⟩

theorem recorded_iff {wanted : Op → Prop} {done : Bool} {world : World Op Op.Reply Err Answer Clocked}
    (silent : ¬ wanted operation) :
    (∃ other, wanted other ∧ (other, done) ∈ (world.recorded.exec operation answer now).2.2) ↔
      ∃ other, wanted other ∧ (other, done) ∈ now.2 := by
  constructor
  · rintro ⟨other, wants, member⟩
    rcases List.mem_append.mp member with earlier | this
    · exact ⟨other, wants, earlier⟩
    · rw [(Prod.mk.inj (List.mem_singleton.mp this)).1] at wants
      exact absurd wants silent
  · rintro ⟨other, wants, member⟩
    exact ⟨other, wants, List.mem_append_left _ member⟩

section Quiet

variable {world : World Op Op.Reply Err Answer Clocked} (calls : world.exec = Clocked.exec)
  (quiet : QuietOp call.volume operation)

include calls quiet in
theorem QuietOp.framed {paths : Path → Prop} (framed : Framed call.volume paths call.start now.1) :
    Framed call.volume paths call.start (world.recorded.exec operation answer now).2.1 := by
  have step : Framed call.volume (fun _ => False) now.1 (world.recorded.exec operation answer now).2.1 := by
    show Framed call.volume (fun _ => False) now.1 (world.exec operation answer now.1).2
    rw [calls]
    exact quiet.exec framed.filed
  exact framed.trans (step.mono fun _ => False.elim)

include calls quiet in
theorem QuietOp.kept {path : Path} (filed : now.1.node.files.lookup (.lockFile call.volume) ≠ some .directory)
    (other : path ≠ .lockFile call.volume) :
    (world.recorded.exec operation answer now).2.1.node.files.lookup path = now.1.node.files.lookup path := by
  show (world.exec operation answer now.1).2.node.files.lookup path = _
  rw [calls]
  exact (quiet.exec filed).files path other id

include calls quiet in
theorem still_quiet (still : call.Still now) : call.Still (world.recorded.exec operation answer now).2 :=
  ⟨quiet.framed calls still.framed, (recorded_iff (quiet.silent call.path).2).not.mpr still.unpatched,
    (recorded_iff (quiet.silent call.path).1).not.mpr still.whole⟩

include calls quiet in
private theorem growing_quiet (growing : call.Growing now) : call.Growing (world.recorded.exec operation answer now).2 := by
  obtain ⟨partly, reached, stored⟩ := growing.reached
  refine ⟨growing.larger, growing.admitted, quiet.framed calls growing.framed, ⟨partly, reached, ?_⟩,
    (recorded_iff (quiet.silent call.path).2).not.mpr growing.unpatched⟩
  have same := @QuietOp.kept call now operation answer world calls quiet call.path growing.framed.filed nofun
  rw [Files.image_congr same, stored]

include calls quiet in
theorem enlarged_quiet (enlarged : call.Enlarged now) : call.Enlarged (world.recorded.exec operation answer now).2 := by
  refine ⟨enlarged.larger, enlarged.admitted, quiet.framed calls enlarged.framed, ?_, ?_,
    (recorded_iff (quiet.silent call.path).2).mpr enlarged.patched,
    (recorded_iff (quiet.silent call.path).1).not.mpr enlarged.whole⟩
  · rw [Files.metadata_congr (quiet.kept calls enlarged.framed.filed nofun), enlarged.found]
  · have same := @QuietOp.kept call now operation answer world calls quiet call.path enlarged.framed.filed nofun
    rw [Files.image_congr same, enlarged.stored]

include calls quiet in
private theorem phase_quiet (phase : call.Phase now) : call.Phase (world.recorded.exec operation answer now).2 := by
  cases phase with
  | still still => exact .still (still_quiet calls quiet still)
  | growing growing => exact .growing (growing_quiet calls quiet growing)
  | enlarged enlarged => exact .enlarged (enlarged_quiet calls quiet enlarged)

include calls quiet in
private theorem answered_quiet {response : ExpandRawFileResponse} (answered : call.Answered response now) :
    call.Answered response (world.recorded.exec operation answer now).2 := by
  cases answered with
  | already fine covered still => exact .already fine covered (still_quiet calls quiet still)
  | exhausted refused larger full still => exact .exhausted refused larger full (still_quiet calls quiet still)
  | expanded fine enlarged => exact .expanded fine (enlarged_quiet calls quiet enlarged)

end Quiet

abbrev world (call : Expanding) : World Op Op.Reply Err Answer Logged := call.accounts.loosely.recorded

/-- What is known at some point of the call and stays known while it looks around. -/
structure Stage (call : Expanding) (known : Logged → Prop) : Prop where
  phase : ∀ now, known now → call.Phase now
  quietly : ∀ operation answer now, QuietOp call.volume operation → known now →
    known ((world call).exec operation answer now).2

variable {known : Logged → Prop}

theorem still_stage : Stage call call.Still :=
  ⟨fun _ => .still, fun _ _ _ quiet still => still_quiet rfl quiet still⟩

private theorem enlarged_stage : Stage call call.Enlarged :=
  ⟨fun _ => .enlarged, fun _ _ _ quiet enlarged => enlarged_quiet rfl quiet enlarged⟩

theorem Stage.looks {α : Type} {program : Driver α} (stage : Stage call known)
    (within : program.Within Op.lawful Op.reads) (holds : known now) :
    (world call).Surely call.Phase (fun _ after => known after) program now := by
  have along : (world call).Surely known (fun _ after => known after) program now :=
    Surely.ofWithin known within (fun operation answer state => Op.exec_lawful operation 0 answer state.1.node)
      (fun operation answer state reads _ holds => stage.quietly operation answer state (.looking reads) holds) holds
  exact along.weaken (fun state holds => stage.phase state holds) fun _ _ _ holds => holds

/-- A part of the call that changes nothing and tells one value or fails. -/
def Tells {α : Type} (call : Expanding) (known : Logged → Prop) (value : α) (program : Driver α) (now : Logged) : Prop :=
  (world call).Surely call.Phase (fun outcome after => known after ∧ ∀ other, outcome = .ok other → other = value)
    program now

theorem Tells.perform (operation : Op) {value : operation.Reply} (stage : Stage call known) (reads : operation.reads)
    (holds : known now) (told : ∀ answer, call.accounts.tells operation answer now.1 → ∀ other,
      (operation.exec 0 answer now.1.node).1 = .ok other → other = value) :
    Tells call known value (Program.perform operation) now := by
  refine Surely.perform (stage.phase now holds) fun answer reply after may executed => ?_
  have kept : known after := by
    have step := stage.quietly operation answer now (.looking reads) holds
    rwa [executed] at step
  refine ⟨stage.phase after kept, kept, ?_⟩
  rintro other rfl
  exact told answer may other (congrArg Prod.fst executed)

theorem Tells.pure {α : Type} {value : α} (stage : Stage call known) (holds : known now) :
    Tells call known value (pure value) now :=
  ⟨stage.phase now holds, holds, fun _ same => (Except.ok.inj same).symm⟩

theorem Tells.bind {α β : Type} {value : α} {result : β} {program : Driver α} {next : α → Driver β}
    (first : Tells call known value program now)
    (rest : ∀ after, known after → Tells call known result (next value) after) :
    Tells call known result (program >>= next) now := by
  apply Surely.andThen first
  · rintro other after ⟨holds, told⟩
    rw [told other rfl]
    exact rest after holds
  · rintro error after ⟨holds, -⟩
    exact ⟨holds, nofun⟩

theorem Tells.andThen {α β : Type} {value : α} {program : Driver α} {next : α → Driver β}
    {post : Except Err β → Logged → Prop} (first : Tells call known value program now)
    (rest : ∀ after, known after → (world call).Surely call.Phase post (next value) after)
    (failing : ∀ error after, known after → post (.error error) after) :
    (world call).Surely call.Phase post (program >>= next) now := by
  apply Surely.andThen first
  · rintro other after ⟨holds, told⟩
    rw [told other rfl]
    exact rest after holds
  · rintro error after ⟨holds, -⟩
    exact failing error after holds

theorem tells_metadata (stage : Stage call known) (holds : known now)
    (found : Files.metadata now.1.node.files call.volume = some call.data) :
    Tells call known call.data (metadata call.volume) now := by
  apply Tells.perform (.file (.readMeta call.volume)) stage trivial holds
  intro answer _ other told
  simp only [Op.exec, FileOp.exec, Files.metadata_iff.mp found] at told
  split at told <;> cases told
  rfl

section Looking

variable (fits : call.Fits) (still : call.Still now)
include fits still

theorem found_still : Files.metadata now.1.node.files call.volume = some call.data := by
  rw [Files.metadata_congr (still.framed.files _ nofun id), fits.found]

theorem stored_still : Files.image now.1.node.files call.path = some call.image := by
  rw [Files.image_congr (still.framed.files call.path nofun id)]
  exact fits.stored

private theorem tells_imgFile : Tells call call.Still ⟨call.pool, call.volume⟩ (imgFile call.volume) now := by
  apply (tells_metadata still_stage still (found_still fits still)).bind
  intro after still
  rw [fits.located]
  exact Tells.pure still_stage still

private theorem tells_imgSize : Tells call call.Still call.image.size (imgSize call.volume) now := by
  apply (tells_metadata still_stage still (found_still fits still)).bind
  intro after still
  rw [fits.sized]
  exact Tells.pure still_stage still

private theorem tells_requiredSpace :
    Tells call call.Still (neededSpace call.data call.image.size call.image call.newSize)
      (Internal.requiredSpace call.path call.data.isThin call.newSize (call.newSize - call.image.size)) now := by
  unfold Internal.requiredSpace neededSpace
  split
  · exact Tells.pure still_stage still
  · have physical : Tells call call.Still call.image.physical (Driver.file (.physicalSize call.path)) now := by
      apply Tells.perform (.file (.physicalSize call.path)) still_stage trivial still
      intro answer _ other told
      simp only [Op.exec, FileOp.exec, stored_still fits still] at told
      cases told
      rfl
    exact physical.bind fun _ still => Tells.pure still_stage still

private theorem tells_getCapacity :
    Tells call call.Still ⌊call.accounts.available call.start.node.files call.pool⌋₊
      (getCapacity call.accounts.config call.pool) now := by
  unfold getCapacity
  rw [fits.named, if_pos fits.configured]
  apply Tells.perform (.ask (.capacity call.pool)) still_stage trivial still
  intro answer asked other told
  have same := @available_congr call.accounts call.start.node.files now.1.node.files
    (fun path unlocked => still.framed.files path (unlocked _) id) call.pool
  have amount : answer.amount = ⌊call.accounts.available now.1.node.files call.pool⌋₊ := asked
  cases told
  show answer.amount = _
  rw [amount, same]

end Looking

structure Grown (call : Expanding) (now : Logged) : Prop where
  growing : call.Growing now
  stored : Files.image now.1.node.files call.path = some (grownImage call.data call.image call.newSize)
  whole : ¬ now.GrowthFailed call.path

private theorem grown_stage : Stage call (Grown call) := by
  constructor
  · exact fun _ grown => .growing grown.growing
  · intro operation answer now quiet grown
    refine ⟨growing_quiet rfl quiet grown.growing, ?_, (recorded_iff (quiet.silent call.path).1).not.mpr grown.whole⟩
    have same := @QuietOp.kept call now operation answer call.accounts.loosely rfl quiet call.path
      grown.growing.framed.filed nofun
    rw [Files.image_congr same, grown.stored]

theorem grow_frame (operation : FileOp) {reply : Except Err operation.Reply} (still : call.Still now)
    (own : ∀ path, operation.touches path → path = call.path) (silent : ¬ (Op.file operation).records call.volume)
    (executed : (world call).exec (.file operation) answer now = (reply, after)) :
    operation.exec answer now.1.node.files = (reply, after.1.node.files) ∧
      Framed call.volume (· = call.path) call.start after.1 ∧ ¬ after.Patched call.volume ∧
      (reply.isOk = true → ¬ after.GrowthFailed call.path) := by
  have ran : Clocked.exec (.file operation) answer now.1 = (reply, after.1) := (recorded_exec executed).1
  have frame : Framed call.volume (· = call.path) now.1 after.1 := by
    obtain ⟨lookups, devices, -⟩ := (Calm.file_agrees ran).mono own
    refine ⟨fun path _ other => lookups path other, devices, ?_⟩
    rw [lookups (.lockFile call.volume) nofun]
    exact still.framed.filed
  refine ⟨(Calm.file_exec ran).1, (still.framed.mono fun _ => False.elim).trans frame, ?_, ?_⟩
  · have kept := @recorded_iff now (.file operation) answer (·.records call.volume) true call.accounts.loosely silent
    rw [executed] at kept
    exact kept.not.mpr still.unpatched
  · rintro fine ⟨other, grows, member⟩
    rw [(recorded_exec executed).2] at member
    rcases List.mem_append.mp member with earlier | this
    · exact still.whole ⟨other, grows, earlier⟩
    · have failed := (Prod.mk.inj (List.mem_singleton.mp this)).2
      rw [fine] at failed
      cases failed

/-- Growing the image passes through the phases of an expansion. -/
theorem growImage_spec (fits : call.Fits) (larger : call.Larger) (admitted : call.Admits) (still : call.Still now) :
    (world call).Surely call.Phase (fun outcome after => call.Growing after ∧ ∀ value, outcome = .ok value →
      Grown call after) (growImage call.path call.data.isThin call.newSize.toNat) now := by
  have stored := stored_still fits still
  have starts : PartlyGrown call.data call.image call.newSize call.image := by
    unfold PartlyGrown
    split
    · exact .inl rfl
    · exact ⟨0, Nat.zero_le _, by simp [Image.fallocate]⟩
  have concludes {reply : Except Err Unit} {after : Logged} {partly : Image}
      (framed : Framed call.volume (· = call.path) call.start after.1) (unpatched : ¬ after.Patched call.volume)
      (reached : PartlyGrown call.data call.image call.newSize partly)
      (measured : Files.image after.1.node.files call.path = some partly)
      (whole : reply.isOk = true → ¬ after.GrowthFailed call.path ∧
        partly = grownImage call.data call.image call.newSize) :
      call.Phase after ∧ call.Growing after ∧ ∀ value, reply = .ok value → Grown call after := by
    have growing : call.Growing after := ⟨larger, admitted, framed, ⟨partly, reached, measured⟩, unpatched⟩
    refine ⟨.growing growing, growing, ?_⟩
    rintro value rfl
    exact ⟨growing, (whole rfl).2 ▸ measured, (whole rfl).1⟩
  unfold growImage
  split
  next thin =>
    refine @Surely.perform _ _ _ _ _ _ _ (Op.file (.truncate call.path call.newSize.toNat)) _ _ (.still still) ?_
    intro answer reply after may executed
    obtain ⟨files, framed, unpatched, whole⟩ :=
      grow_frame (.truncate call.path _) still (fun _ touched => touched) (by rintro ⟨⟩) executed
    rcases truncate_exec files with ⟨rfl, measured⟩ | ⟨same, error, rfl⟩
    · rw [stored] at measured
      refine concludes framed unpatched ?_ measured fun fine => ⟨whole fine, ?_⟩
      · simp [PartlyGrown, thin]
      · simp [grownImage, thin]
    · exact concludes framed unpatched starts (by rw [same, stored]) (by rintro ⟨⟩)
  next thick =>
    refine @Surely.perform _ _ _ _ _ _ _ (Op.file (.fallocate call.path call.newSize.toNat)) _ _ (.still still) ?_
    intro answer reply after may executed
    obtain ⟨files, framed, unpatched, whole⟩ :=
      grow_frame (.fallocate call.path _) still (fun _ touched => touched) (by rintro ⟨⟩) executed
    rcases fallocate_exec files with ⟨length, within, complete, measured⟩ | ⟨same, error, rfl⟩
    · rw [stored] at measured
      refine concludes framed unpatched ?_ measured fun fine => ⟨whole fine, ?_⟩
      · simp only [PartlyGrown, thick]
        exact ⟨length, within, rfl⟩
      · cases reply with
        | error error => cases fine
        | ok value =>
          rw [complete rfl]
          simp [grownImage, thick]
    · exact concludes framed unpatched starts (by rw [same, stored]) (by rintro ⟨⟩)

private theorem tells_metadataOr (stage : Stage call known) (holds : known now)
    (found : Files.metadata now.1.node.files call.volume = some call.data) :
    Tells call known call.data (metadataOr call.volume) now := by
  refine Surely.tryExcept ?_
  refine @Surely.perform _ _ _ _ _ _ _ (Op.file (.readMeta call.volume)) _ _ (stage.phase now holds) ?_
  intro answer reply after may executed
  have kept : known after := by
    have step := stage.quietly (.file (.readMeta call.volume)) answer now (.looking trivial) holds
    rwa [executed] at step
  have phase := stage.phase after kept
  have ran : Clocked.exec (.file (.readMeta call.volume)) answer now.1 = (reply, after.1) := (recorded_exec executed).1
  obtain ⟨read, -, -⟩ := Calm.file_exec ran
  simp only [FileOp.exec, Files.metadata_iff.mp found] at read
  split at read
  · obtain rfl := (Prod.mk.inj read).1
    exact ⟨phase, Surely.raise phase ⟨kept, fun _ failed => by cases failed⟩⟩
  · obtain rfl := (Prod.mk.inj read).1
    exact ⟨phase, phase, kept, fun _ same => (Except.ok.inj same).symm⟩

private theorem found_grown (fits : call.Fits) (growing : call.Growing now) :
    Files.metadata now.1.node.files call.volume = some call.data := by
  rw [Files.metadata_congr (growing.framed.files _ nofun nofun), fits.found]

theorem install_spec (grown : Grown call now) :
    (world call).Surely call.Phase (fun outcome after => ∀ value, outcome = .ok value → call.Enlarged after)
      (Driver.file (.installMeta call.volume call.data { size := some call.newSize.toNat })) now := by
  refine @Surely.perform _ _ _ _ _ _ _ (Op.file (.installMeta call.volume call.data _)) _ _ (.growing grown.growing) ?_
  intro answer reply after may executed
  have ran : Clocked.exec (.file (.installMeta call.volume call.data _)) answer now.1 = (reply, after.1) :=
    (recorded_exec executed).1
  obtain ⟨files, devices, -⟩ := Calm.file_exec ran
  have lookups := (Calm.file_agrees ran).files
  have growing := grown.growing
  have framed : Framed call.volume (Path.expanded call.pool call.volume) call.start after.1 := by
    refine (growing.framed.mono fun _ => .inl).trans ⟨fun path _ outside => lookups path fun same => ?_, devices, ?_⟩
    · exact outside (.inr same)
    · rw [lookups (.lockFile call.volume) nofun]
      exact growing.framed.filed
  have image : Files.image after.1.node.files call.path = Files.image now.1.node.files call.path :=
    Files.image_congr (lookups call.path nofun)
  have whole := @recorded_iff now (.file (.installMeta call.volume call.data { size := some call.newSize.toNat }))
    answer (·.grows call.path) false call.accounts.loosely nofun
  rw [executed] at whole
  rcases installMeta_cases files with ⟨rfl, installed⟩ | ⟨same, ⟨error, rfl⟩, -⟩
  · have patched : after.Patched call.volume := by
      refine ⟨.file (.installMeta call.volume call.data { size := some call.newSize.toNat }), rfl, ?_⟩
      rw [(recorded_exec executed).2]
      exact List.mem_append_right _ (List.mem_singleton.mpr rfl)
    have enlarged : call.Enlarged after := ⟨growing.larger, growing.admitted, framed, installed,
      image.trans grown.stored, patched, whole.not.mpr grown.whole⟩
    exact ⟨.enlarged enlarged, fun _ _ => enlarged⟩
  · refine ⟨.growing ⟨growing.larger, growing.admitted, ?_, ?_, ?_⟩, nofun⟩
    · refine ⟨fun path other outside => ?_, devices.trans growing.framed.devices, ?_⟩
      · rw [same]
        exact growing.framed.files path other outside
      · rw [same]
        exact growing.framed.filed
    · rw [same]
      exact growing.reached
    · rintro ⟨other, records, member⟩
      rw [(recorded_exec executed).2] at member
      rcases List.mem_append.mp member with earlier | this
      · exact growing.unpatched ⟨other, records, earlier⟩
      · cases (Prod.mk.inj (List.mem_singleton.mp this)).2

theorem patchMetadata_spec (fits : call.Fits) (grown : Grown call now) :
    (world call).Surely call.Phase (fun outcome after => ∀ value, outcome = .ok value → call.Enlarged after)
      (patchMetadata call.accounts.config call.volume call.pool { size := some call.newSize.toNat }) now := by
  apply (tells_metadataOr grown_stage grown (found_grown fits grown.growing)).andThen
  · intro after grown
    unfold getVolumePath
    rw [if_pos fits.configured]
    exact install_spec grown
  · exact fun _ _ _ => nofun

theorem answered_spec {exhausted : Bool} (stage : Stage call known) (holds : known now)
    (means : ∀ attached after, known after → call.Answered { isAttached := attached, exhausted } after) :
    (world call).Surely call.Phase (fun outcome after => ∀ response, outcome = .ok response →
      call.Answered response after) (Internal.answered call.accounts.config call.volume exhausted) now := by
  apply (stage.looks (isAttached_within (fun _ reads => reads) _ _) holds).andThen
  · intro attached after holds
    refine ⟨stage.phase after holds, ?_⟩
    rintro response ⟨⟩
    exact means attached after holds
  · exact fun _ _ _ => nofun

theorem body_spec (fits : call.Fits) (still : call.Still now) :
    (world call).Surely call.Phase (fun outcome after => ∀ response, outcome = .ok response →
      call.Answered response after) call.body now := by
  have fails : ∀ (error : Err) (after : Logged), call.Still after → ∀ response,
      (Except.error error : Except Err ExpandRawFileResponse) = .ok response → call.Answered response after :=
    fun _ _ _ => nofun
  refine (tells_imgFile fits still).andThen (fun now still => ?_) fails
  refine (tells_imgSize fits still).andThen (fun now still => ?_) fails
  dsimp only
  split
  next covered =>
    apply answered_spec still_stage still
    intro attached after still
    refine .already rfl ?_ still
    unfold Expanding.Larger
    omega
  next larger =>
    have larger : call.Larger := by
      unfold Expanding.Larger
      omega
    refine (tells_metadata still_stage still (found_still fits still)).andThen (fun now still => ?_) fails
    refine (tells_requiredSpace fits still).andThen (fun now still => ?_) fails
    rw [fits.pooled]
    refine (tells_getCapacity fits still).andThen (fun now still => ?_) fails
    split
    next exhausted =>
      apply answered_spec still_stage still
      intro attached after still
      exact .exhausted rfl larger (not_le.mpr (floor_lt_iff.mp exhausted)) still
    next room =>
      have admitted : call.Admits := not_lt.mp (floor_lt_iff.not.mp room)
      apply (growImage_spec fits larger admitted still).andThen
      · rintro _ after ⟨-, grown⟩
        apply (patchMetadata_spec fits (grown _ rfl)).andThen
        · intro _ after enlarged
          apply answered_spec enlarged_stage (enlarged _ rfl)
          exact fun _ _ enlarged => .expanded rfl enlarged
        · exact fun _ _ _ => nofun
      · exact fun _ _ _ => nofun

private theorem still_initial (fits : call.Fits) : call.Still (call.start, []) := by
  refine ⟨⟨fun _ _ _ => rfl, rfl, fits.filed⟩, ?_, ?_⟩
  · rintro ⟨_, _, member⟩
    cases member
  · rintro ⟨_, _, member⟩
    cases member

theorem expand_spec (fits : call.Fits) :
    (world call).Surely call.Phase (fun outcome after => ∀ response, outcome = .ok response →
      call.Answered response after) call.program (call.start, []) := by
  have acquired : (world call).Surely call.Phase (fun _ after => call.Still after)
      (Driver.lock (.acquire call.volume)) (call.start, []) := by
    refine Surely.perform (.still (still_initial fits)) fun answer reply after may executed => ?_
    have still := still_stage.quietly (.lock (.acquire call.volume)) answer _ .acquire (still_initial fits)
    rw [executed] at still
    exact ⟨.still still, still⟩
  apply acquired.andThen
  · intro _ now still
    refine Surely.tryFinally ((body_spec fits still).weaken (fun _ phase => phase) ?_)
    intro outcome now phase answered
    refine Surely.perform phase fun answer reply after may executed => ?_
    have kept := @phase_quiet call now (.lock (.release call.volume)) answer call.accounts.loosely rfl .release phase
    rw [executed] at kept
    have means : ∀ response, outcome = .ok response → call.Answered response after := by
      intro response returned
      have quiet := @answered_quiet call now (.lock (.release call.volume)) answer call.accounts.loosely rfl .release
        response (answered response returned)
      rwa [executed] at quiet
    cases reply with
    | ok value => exact ⟨kept, kept, means⟩
    | error error => exact ⟨kept, nofun⟩
  · exact fun _ _ _ => nofun

end Admission
end Rawfile
