import Rawfile.Proofs.Admission

/-! An expansion that broke off before it patched the metadata is issued again.
On a node where nothing fails it takes up the image where it was left and ends as
the call would have ended at once. -/

namespace Rawfile
open Effects World

namespace Expanding

instance (call : Expanding) : Decidable call.Larger := inferInstanceAs (Decidable (_ < _))

instance (call : Expanding) : Decidable call.Admits := inferInstanceAs (Decidable ((_ : ℚ) ≤ _))

def response (call : Expanding) : ExpandRawFileResponse where
  isAttached := decide (call.start.node.devices.attached call.path ≠ [])
  exhausted := decide (call.Larger ∧ ¬ call.Admits)

def final (call : Expanding) (path : Path) : Option (Entry Content) :=
  if path = .lockFile call.volume then none
  else if call.Larger ∧ call.Admits then
    if path = call.path then some (.file (.bytes (grownImage call.data call.image call.newSize)))
    else if path = .metaFile call.volume then
      some (.file (.json (call.data.merge { size := some call.newSize.toNat })))
    else call.start.node.files.lookup path
  else call.start.node.files.lookup path

def Settled (call : Expanding) (outcome : Except Err ExpandRawFileResponse) (after : Clocked) : Prop :=
  outcome = .ok call.response ∧ after.node.devices = call.start.node.devices ∧
    ∀ path, after.node.files.lookup path = call.final path

structure Interrupted (call : Expanding) (now : Clocked) : Prop where
  framed : Admission.Framed call.volume (· = call.path) call.start now
  reached : ∃ partly, Files.image now.node.files call.path = some partly ∧
    (partly = call.image ∨ call.Larger ∧ call.Admits ∧ PartlyGrown call.data call.image call.newSize partly)

namespace Interrupted

variable {call : Expanding} {now after : Clocked}

section
variable (interrupted : call.Interrupted now)
include interrupted

theorem relocked (changed : Relocked call.volume now after) : call.Interrupted after := by
  obtain ⟨partly, stored, reached⟩ := interrupted.reached
  constructor
  · refine interrupted.framed.trans ⟨fun path other _ => changed.1.files path other, changed.1.devices, changed.2⟩
  · exact ⟨partly, by rw [Files.image_congr (changed.1.files call.path nofun), stored], reached⟩

theorem found (fits : call.Fits) : Files.metadata now.node.files call.volume = some call.data := by
  rw [Files.metadata_congr (interrupted.framed.files _ nofun nofun), fits.found]

theorem unchanged (fits : call.Fits) (stored : Files.image now.node.files call.path = some call.image) {path : Path}
    (other : path ≠ .lockFile call.volume) : now.node.files.lookup path = call.start.node.files.lookup path := by
  by_cases same : path = call.path
  · rw [same, Files.image_iff.mp stored]
    exact (Files.image_iff.mp fits.stored).symm
  · exact interrupted.framed.files path other same

private theorem admits_iff (fits : call.Fits) (larger : call.Larger) {partly : Image}
    (stored : Files.image now.node.files call.path = some partly)
    (reached : partly = call.image ∨ call.Larger ∧ call.Admits ∧ PartlyGrown call.data call.image call.newSize partly) :
    call.accounts.available now.node.files call.pool < neededSpace call.data call.image.size partly call.newSize ↔
      ¬ call.Admits := by
  rcases reached with rfl | ⟨-, admits, grown⟩
  · have same := @Admission.available_congr call.accounts call.start.node.files now.node.files
      (fun path unlocked => interrupted.unchanged fits stored (unlocked _)) call.pool
    rw [same]
    exact not_le.symm
  · refine iff_of_false (not_lt.mpr ?_) (not_not.mpr admits)
    obtain ⟨-, needed, -⟩ := Admission.physical_partly larger grown
    have framed : Admission.Framed call.volume (Admission.Path.expanded call.pool call.volume) call.start now :=
      interrupted.framed.mono fun _ => .inl
    have sums := @Admission.Framed.sums _ _ _ _ _ _ _ _ call.accounts.config framed fits.found fits.located fits.pooled
      fits.stored (interrupted.found fits) fits.located fits.pooled stored
    rw [needed]
    exact Admission.fits_after sums.1 sums.2 admits

end

end Interrupted
end Expanding

namespace Reissue

def Unlocked (call : Expanding) (outcome : Except Err ExpandRawFileResponse) (after : Clocked) : Prop :=
  outcome = .ok call.response ∧ after.node.devices = call.start.node.devices ∧
    after.node.files.lookup (.lockFile call.volume) ≠ some .directory ∧
    ∀ path, path ≠ .lockFile call.volume → after.node.files.lookup path = call.final path

variable {call : Expanding} {now : Clocked}

theorem answered (fits : call.Fits) {recorded : Meta} {exhausted : Bool}
    (found : Files.metadata now.node.files call.volume = some recorded) (pooled : recorded.storagePool = some call.pool)
    (located : recorded.imgFile = some call.pool) {image : Image}
    (stored : Files.image now.node.files call.path = some image)
    (devices : now.node.devices = call.start.node.devices) :
    call.accounts.calmly.Yields (.ok { isAttached := call.response.isAttached, exhausted })
      (Internal.answered call.accounts.config call.volume exhausted) now := by
  have housed : now.node.files.present (.volumeDir call.pool call.volume) = true := by
    have directory := now.node.files.rooted call.path (.volumeDir call.pool call.volume)
      (by rw [show now.node.files.entries.lookup _ = _ from Files.image_iff.mp stored]; simp) rfl
    simp only [Files.present, FileTree.lookup]
    rw [directory]
    rfl
  refine (Calm.isAttached found pooled located fits.configured housed).bind ?_
  rw [devices]
  exact .pure _ _

theorem requiredSpace {partly : Image} (stored : Files.image now.node.files call.path = some partly) :
    call.accounts.calmly.Yields (.ok (neededSpace call.data call.image.size partly call.newSize))
      (Internal.requiredSpace call.path call.data.isThin call.newSize (call.newSize - call.image.size)) now := by
  unfold Internal.requiredSpace neededSpace
  split
  · exact .pure _ _
  · exact (Calm.physicalSize stored).bind (.pure _ _)

section
variable (fits : call.Fits)
include fits

theorem getCapacity :
    call.accounts.calmly.Yields (.ok ⌊call.accounts.available now.node.files call.pool⌋₊)
      (Rawfile.getCapacity call.accounts.config call.pool) now := by
  unfold Rawfile.getCapacity
  rw [fits.named, if_pos fits.configured]
  refine .perform fun answer may => ?_
  have amount : answer.amount = ⌊call.accounts.available now.node.files call.pool⌋₊ := may
  simp [Accounts.calmly, Clocked.exec, Op.exec, Question.exec, amount]

section
variable (interrupted : call.Interrupted now)
include interrupted

private theorem answered_unchanged {exhausted : Bool}
    (stored : Files.image now.node.files call.path = some call.image) (means : exhausted = call.response.exhausted)
    (refused : ¬ (call.Larger ∧ call.Admits)) :
    call.accounts.calmly.Ends (Unlocked call) (Internal.answered call.accounts.config call.volume exhausted) now := by
  rw [(answered fits (interrupted.found fits) fits.pooled fits.located stored interrupted.framed.devices).ends_iff, means]
  refine ⟨rfl, interrupted.framed.devices, interrupted.framed.filed, fun path other => ?_⟩
  rw [Expanding.final, if_neg other, if_neg refused]
  exact interrupted.unchanged fits stored other

theorem answered_grown (larger : call.Larger) (admits : call.Admits) {middle after : Clocked}
    (made : Files.image middle.node.files call.path = some (grownImage call.data call.image call.newSize))
    (agrees : Agrees (· = call.path) now middle)
    (patched : Files.metadata after.node.files call.volume =
      some (call.data.merge { size := some call.newSize.toNat }))
    (rewritten : Agrees (· = .metaFile call.volume) middle after) :
    call.accounts.calmly.Ends (Unlocked call) (Internal.answered call.accounts.config call.volume false) after := by
  have stored : Files.image after.node.files call.path = some (grownImage call.data call.image call.newSize) := by
    rw [Files.image_congr (rewritten.files call.path nofun), made]
  have devices : after.node.devices = call.start.node.devices := by
    rw [rewritten.devices, agrees.devices, interrupted.framed.devices]
  have kept {path : Path} (image : path ≠ call.path) (record : path ≠ .metaFile call.volume) :
      after.node.files.lookup path = now.node.files.lookup path :=
    (rewritten.files path record).trans (agrees.files path image)
  have pooled : (call.data.merge { size := some call.newSize.toNat }).storagePool = some call.pool := by
    simp [Meta.merge, fits.pooled]
  have located : (call.data.merge { size := some call.newSize.toNat }).imgFile = some call.pool := by
    simp [Meta.merge, fits.located]
  rw [(answered fits patched pooled located stored devices).ends_iff]
  refine ⟨?_, devices, ?_, fun path other => ?_⟩
  · simp [Expanding.response, larger, admits]
  · rw [show after.node.files.lookup (.lockFile call.volume) = _ from kept nofun nofun]
    exact interrupted.framed.filed
  · rw [Expanding.final, if_neg other, if_pos ⟨larger, admits⟩]
    split
    next same =>
      rw [same]
      exact Files.image_iff.mp stored
    next image =>
      split
      next same =>
        rw [same]
        exact Files.metadata_iff.mp patched
      next record =>
        rw [kept image record]
        exact interrupted.framed.files path other image

theorem body_spec : call.accounts.calmly.Ends (Unlocked call) call.body now := by
  have found := interrupted.found fits
  obtain ⟨partly, stored, reached⟩ := interrupted.reached
  refine (Calm.imgFile found fits.located).andThen trivial ?_
  refine (Calm.imgSize found fits.sized).andThen trivial ?_
  dsimp only
  split
  next covered =>
    have small : ¬ call.Larger := by
      unfold Expanding.Larger
      omega
    have same : partly = call.image := by
      rcases reached with same | ⟨larger, -⟩
      · exact same
      · exact absurd larger small
    rw [same] at stored
    apply answered_unchanged fits interrupted stored
    · simp [Expanding.response, small]
    · exact fun both => small both.1
  next larger =>
    have larger : call.Larger := by
      unfold Expanding.Larger
      omega
    refine (Calm.metadata found).andThen trivial ?_
    refine (requiredSpace stored).andThen trivial ?_
    rw [fits.pooled]
    refine (getCapacity fits).andThen trivial ?_
    have same := interrupted.admits_iff fits larger stored reached
    split
    next exhausted =>
      have refused : ¬ call.Admits := same.mp (Admission.floor_lt_iff.mp exhausted)
      have same : partly = call.image := by
        rcases reached with same | ⟨-, admits, -⟩
        · exact same
        · exact absurd admits refused
      rw [same] at stored
      apply answered_unchanged fits interrupted stored
      · simp [Expanding.response, larger, refused]
      · exact fun both => refused both.2
    next room =>
      have admits : call.Admits := by
        by_contra refused
        exact room (Admission.floor_lt_iff.mpr (same.mpr refused))
      have grown : grownImage call.data partly call.newSize = grownImage call.data call.image call.newSize := by
        rcases reached with rfl | ⟨-, -, reached⟩
        · rfl
        · exact Admission.grownImage_partly larger reached
      have positive : 0 < call.newSize.toNat := by
        unfold Expanding.Larger at larger
        omega
      refine .onward (fun _ after => Files.image after.node.files call.path =
          some (grownImage call.data call.image call.newSize) ∧ Agrees (· = call.path) now after)
        (Calm.growImage stored positive trivial fun after made agrees => ⟨trivial, (), rfl, ?_, agrees⟩) ?_
      · rw [← grown]
        exact made
      · rintro _ middle - ⟨made, agrees⟩
        refine .onward (fun _ after => Files.metadata after.node.files call.volume =
            some (call.data.merge { size := some call.newSize.toNat }) ∧
              Agrees (· = .metaFile call.volume) middle after)
          (Calm.patchMetadata ((agrees.metadata nofun).trans found) fits.configured trivial
            fun after patched rewritten => ⟨trivial, (), rfl, patched, rewritten⟩) ?_
        rintro _ after - ⟨patched, rewritten⟩
        exact answered_grown fits interrupted larger admits made agrees patched rewritten

theorem expand_spec : call.accounts.calmly.Ends call.Settled call.program now := by
  have standing := Files.metadata_stands (interrupted.found fits)
  refine Calm.withVolLock standing interrupted.framed.filed trivial (fun _ _ => trivial) fun locked relocked => ?_
  apply (body_spec fits (interrupted.relocked relocked)).weaken (fun _ pass => pass)
  rintro outcome after - ⟨answered, devices, filed, lookups⟩
  refine ⟨filed, fun released again gone => ⟨answered, again.1.devices.trans devices, fun path => ?_⟩⟩
  by_cases same : path = .lockFile call.volume
  · rw [same, gone, Expanding.final, if_pos rfl]
  · rw [again.1.files path same, lookups path same]

end

private theorem interrupted_start : call.Interrupted call.start :=
  ⟨⟨fun _ _ _ => rfl, rfl, fits.filed⟩, call.image, fits.stored, .inl rfl⟩

/-- Before the metadata are patched, and when the growth failed, the call can be issued again. -/
theorem interrupted_of_phase {passed : Logged} (phase : call.Phase passed)
    (broken : ¬ passed.Patched call.volume ∨ passed.GrowthFailed call.path) : call.Interrupted passed.1 := by
  cases phase with
  | still still =>
    exact ⟨still.framed.mono fun _ => False.elim, call.image, Admission.stored_still fits still, .inl rfl⟩
  | growing growing =>
    obtain ⟨partly, reached, stored⟩ := growing.reached
    exact ⟨growing.framed, partly, stored, .inr ⟨growing.larger, growing.admitted, reached⟩⟩
  | enlarged enlarged =>
    rcases broken with unpatched | failed
    · exact absurd enlarged.patched unpatched
    · exact absurd failed enlarged.whole

end

private theorem interrupted_crash (interrupted : call.Interrupted now) : call.Interrupted { now with node := now.node.crash } :=
  ⟨⟨interrupted.framed.files, interrupted.framed.devices, interrupted.framed.filed⟩, interrupted.reached⟩

theorem enlarged_room (fits : call.Fits) {after : Logged} (enlarged : call.Enlarged after)
    (thick : call.data.isThin = false)
    (more : call.image.physical < (grownImage call.data call.image call.newSize).physical) :
    (StoragePool.volumesPhysicalSize call.accounts.config after.1.node.files call.pool : ℚ) ≤
        (call.accounts.disks call.pool).total - (call.accounts.pools call.pool).reserved
          ((call.accounts.disks call.pool).stats after.1.node.files call.pool) ∧
      (grownImage call.data call.image call.newSize).physical - call.image.physical ≤
        (call.accounts.disks call.pool).free (call.start.node.files.storedSize call.pool) := by
  have larger : (call.image.size : Int) < call.newSize := enlarged.larger
  have physical : (grownImage call.data call.image call.newSize).physical =
      max call.image.physical call.newSize.toNat := by
    simp [grownImage, thick, Image.fallocate]
  have needed : neededSpace call.data call.image.size call.image call.newSize =
      (((grownImage call.data call.image call.newSize).physical - call.image.physical : Nat) : Int) := by
    simp only [neededSpace, thick, Bool.false_eq_true, if_false]
    omega
  have admitted := enlarged.admitted
  unfold Expanding.Admits Admitted at admitted
  rw [needed] at admitted
  generalize added : (grownImage call.data call.image call.newSize).physical - call.image.physical = amount at *
  have positive : (0 : ℚ) < ((amount : Int) : ℚ) := by
    have : 0 < amount := by omega
    exact_mod_cast this
  obtain ⟨room, free⟩ := Admission.room_of_available positive admitted
  have sums := @Admission.Framed.sums _ _ _ _ _ _ _ _ call.accounts.config enlarged.framed fits.found fits.located
    fits.pooled fits.stored enlarged.found (by simp [Meta.merge, fits.located]) (by simp [Meta.merge, fits.pooled])
    enlarged.stored
  constructor
  · have counted : (StoragePool.volumesPhysicalSize call.accounts.config after.1.node.files call.pool : ℚ) ≤
        StoragePool.volumesPhysicalSize call.accounts.config call.start.node.files call.pool + amount := by
      rw [← added]
      exact_mod_cast sums.1
    show _ ≤ (call.accounts.disks call.pool).total - (call.accounts.pools call.pool).reserved
          ((call.accounts.disks call.pool).stats call.start.node.files call.pool)
    push_cast at room
    linarith
  · exact_mod_cast free

end Reissue

/-- Expansion is admitted by the room there is. A request that is refused or small
changes nothing; one that is granted records the size the image has. As long as the new
size is not recorded, the call can be issued again, also after a crash, and ends as it
would have ended at once. -/
theorem expand_admitted (call : Expanding) (fits : call.Fits) :
    call.accounts.loosely.recorded.Surely
      (fun passed : Logged => (¬ passed.Patched call.volume ∨ passed.GrowthFailed call.path) →
        Files.metadata passed.1.node.files call.volume = some call.data ∧
          call.accounts.calmly.Ends call.Settled call.program passed.1 ∧
          call.accounts.calmly.Ends call.Settled call.program { passed.1 with node := passed.1.node.crash })
      (fun outcome after => ∀ response, outcome = .ok response →
        (call.newSize ≤ call.image.size ∨ response.exhausted = true →
          Files.metadata after.1.node.files call.volume = some call.data ∧
            Files.image after.1.node.files call.path = some call.image) ∧
        (call.image.size < call.newSize → response.exhausted = false → ∃ recorded grown,
          Files.metadata after.1.node.files call.volume = some recorded ∧
            recorded.size = some call.newSize.toNat ∧
            Files.image after.1.node.files call.path = some grown ∧ (grown.size : Int) = call.newSize ∧
            (call.data.isThin = false → call.image.physical < grown.physical →
              (StoragePool.volumesPhysicalSize call.accounts.config after.1.node.files call.pool : ℚ) ≤
                  (call.accounts.disks call.pool).total - (call.accounts.pools call.pool).reserved
                    ((call.accounts.disks call.pool).stats after.1.node.files call.pool) ∧
                grown.physical - call.image.physical ≤
                  (call.accounts.disks call.pool).free (call.start.node.files.storedSize call.pool))))
      call.program (call.start, []) ∧
    call.accounts.calmly.Ends call.Settled call.program call.start := by
  constructor
  · apply (Admission.expand_spec fits).weaken
    · intro passed phase broken
      have interrupted := Reissue.interrupted_of_phase fits phase broken
      exact ⟨interrupted.found fits, Reissue.expand_spec fits interrupted,
        Reissue.expand_spec fits (Reissue.interrupted_crash interrupted)⟩
    · intro outcome after phase answered response returned
      have kept (still : call.Still after) : Files.metadata after.1.node.files call.volume = some call.data ∧
          Files.image after.1.node.files call.path = some call.image :=
        ⟨Admission.found_still fits still, Admission.stored_still fits still⟩
      cases answered response returned with
      | already fine covered still => exact ⟨fun _ => kept still, fun larger => absurd larger covered⟩
      | exhausted refused larger full still =>
        refine ⟨fun _ => kept still, fun _ fine => ?_⟩
        rw [refused] at fine
        cases fine
      | expanded fine enlarged =>
        have larger : (call.image.size : Int) < call.newSize := enlarged.larger
        constructor
        · rintro (small | refused)
          · omega
          · rw [fine] at refused
            cases refused
        · intro _ _
          refine ⟨_, _, enlarged.found, by simp [Meta.merge], enlarged.stored, ?_, Reissue.enlarged_room fits enlarged⟩
          rw [Admission.size_grownImage larger]
          omega
  · exact Reissue.expand_spec fits (Reissue.interrupted_start fits)

namespace Doubling

def accounts : Accounts where
  config := singlePool
  pools _ := { reservedCapacity := .percent 50 }
  disks _ := { total := 20, free := fun used => 20 - used, spends := by intro used later more; omega }

def created : Clocked :=
  (loose.follow (List.replicate 16 {}) (VolumeManager.createVolume singlePool StoragePool.Accounting.volume)
    ⟨{}, 0⟩).getD ⟨{}, 0⟩

def request : Expanding where
  accounts
  volume := "v"
  pool := "default"
  data := (Files.metadata created.node.files "v").getD {}
  image := (Files.image created.node.files (.imgFile "default" "v")).getD .empty
  newSize := 8
  start := created

private theorem request_fits : request.Fits := by
  constructor
  case filed =>
    have missing : request.start.node.files.present (.lockFile request.volume) = false := by decide +kernel
    intro directory
    rw [Files.present, directory] at missing
    cases missing
  all_goals decide +kernel

theorem expand_admitted_doubling : (request.Larger ∧ request.Admits) ∧
    request.accounts.calmly.Ends request.Settled request.program request.start :=
  ⟨by decide +kernel, (expand_admitted request request_fits).2⟩

end Doubling
end Rawfile
