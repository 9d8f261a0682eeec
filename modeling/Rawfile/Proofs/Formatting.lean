import Rawfile.Effects.Dialogue
import Rawfile.Runs

/-! When staging formats a device. `blkid` is asked twice, by
`get_from_device_or_fallback` and by `format_and_mount`, and may answer anything
both times; a device is formatted when the second answer is blank as well. -/

namespace Rawfile
open Effects Program

instance : Nonempty Err := ⟨.osError⟩

abbrev Said := List (Exchange Op Op.Reply Err)

namespace Said

def probes (said : Said) : List CompletedProcess :=
  said.filterMap fun
    | ⟨.device (.blkid _), .ok result⟩ => some result
    | _ => none

def formats (said : Said) : Bool :=
  said.any fun
    | ⟨.device (.mkfs _ _), _⟩ => true
    | _ => false

@[simp] theorem probes_append (said more : Said) : (said ++ more).probes = said.probes ++ more.probes :=
  List.filterMap_append

@[simp] theorem formats_append (said more : Said) : (said ++ more).formats = (said.formats || more.formats) :=
  List.any_append

end Said

namespace CompletedProcess

def isBlank (result : CompletedProcess) : Bool := strip result.stdout.toList = []

def recognised (result : CompletedProcess) : Option FileSystemName :=
  if result.returncode = 2 then none else FileSystemName.ofText (String.ofList (strip result.stdout.toList))

end CompletedProcess

def Op.quiet : Op → Prop
  | .device (.blkid _) | .device (.mkfs _ _) => False
  | _ => True

abbrev Quiet (program : Driver α) : Prop := program.Within (fun _ _ => True) Op.quiet

private theorem need_quiet (key : String) (value : Option α) : Quiet (need key value) := by
  cases value <;> trivial

variable (volume : VolumeId)

private theorem metadata_quiet : Quiet (metadata volume) := .perform trivial

theorem metadataOr_quiet : Quiet (metadataOr volume) := by
  apply Within.tryExcept (metadata_quiet volume)
  intro error
  split <;> trivial

private theorem imgFile_quiet : Quiet (imgFile volume) :=
  .bind (metadata_quiet volume) fun _ => .bind (need_quiet _ _) fun _ => .pure _

private theorem attachOnce_quiet (file : ImgFile) : Quiet (attachOnce file) := by
  apply Within.bind (.perform trivial)
  intro loops
  split
  · exact .bind (.perform trivial) fun _ => .pure _
  · exact .bind (.perform trivial) fun _ => .bind (.perform trivial) fun _ => .pure _

private theorem attachLoop_quiet (file : ImgFile) (most attempts : Nat) (last : Option String) :
    Quiet (attachLoop file most attempts last) := by
  induction attempts generalizing last with
  | zero => trivial
  | succ attempts ih =>
    apply Within.bind (attachOnce_quiet file).attempt
    intro outcome
    split
    · exact .pure _
    · exact ih _
    · exact ih _

private theorem beAbsent_quiet (path : Path) : Quiet (beAbsent path) := by
  apply Within.bind (.perform trivial)
  intro kind
  split <;> first | exact .perform trivial | exact .pure _

theorem beSymlink_quiet (path : Path) (target : String) : Quiet (beSymlink path target) := by
  apply Within.bind (.perform trivial)
  intro kind
  split
  · exact .pure _
  · exact .bind (beAbsent_quiet path) fun _ => .perform trivial

private theorem nodeStageVolume_quiet (target : String) : Quiet (RawFileNode.nodeStageVolume volume target) := by
  apply Within.bind (metadataOr_quiet volume)
  intro data
  split
  · trivial
  · exact .bind (imgFile_quiet volume) fun file => .bind (attachLoop_quiet file _ _ _) fun _ => beSymlink_quiet _ _

private theorem stagedDevice_quiet (target : String) : Quiet (stagedDevice target) := by
  apply Within.bind (.perform trivial)
  intro kind
  split
  · split
    · apply Within.bind (.perform trivial)
      intro inner
      split <;> exact .pure _
    · exact .pure _
  · exact .pure _

private theorem mount_quiet (fs : FileSystem) (point : Path) : Quiet (fs.mount point) := by
  apply Within.bind (.perform trivial)
  intro current
  split
  · split <;> trivial
  · exact .tryExcept (.bind (.perform trivial) fun _ => .perform trivial) fun _ => .raise _

section
variable {said : Said} {first second : CompletedProcess}

structure Said.Same (said later : Said) : Prop where
  probes : later.probes = said.probes
  formats : later.formats = said.formats

private theorem quiet_exchange {operation : Op} (quiet : operation.quiet) (reply : Except Err operation.Reply) :
    Said.Same said (said ++ [⟨operation, reply⟩]) := by
  have silent : Said.probes [⟨operation, reply⟩] = [] ∧ Said.formats [⟨operation, reply⟩] = false := by
    cases operation with
    | device operation => cases operation <;> first | exact ⟨rfl, rfl⟩ | exact quiet.elim
    | _ => exact ⟨rfl, rfl⟩
  exact ⟨by simp [silent.1], by simp [silent.2]⟩

theorem Quiet.same {program : Driver α} (quiet : Quiet program) :
    dialogue.Surely (Said.Same said) (fun _ => Said.Same said) program said := by
  refine World.Surely.ofWithin _ quiet (fun _ _ _ => trivial) ?_ ⟨rfl, rfl⟩
  intro operation answer later allowed _ same
  have exchanged := @quiet_exchange later operation allowed (answer operation)
  exact ⟨exchanged.probes.trans same.probes, exchanged.formats.trans same.formats⟩

variable {config : DriverConfig} {request : NodeStageVolumeRequest}

def Formattable (config : DriverConfig) (request : NodeStageVolumeRequest) (first : CompletedProcess) : Prop :=
  first.recognised ≠ none ∨ FileSystemName.ofText (Bd2Fs.fallbackFs config request) ≠ none

/-- A device is formatted only after two results of which the second says that it is empty or says nothing. -/
def Careful (config : DriverConfig) (request : NodeStageVolumeRequest) (said : Said) : Prop :=
  said.formats = true → ∃ first second, said.probes = [first, second] ∧
    (second.returncode = 2 ∨ second.isBlank = true) ∧ Formattable config request first

theorem Careful.same {later : Said} (guarded : Careful config request said) (same : Said.Same said later) :
    Careful config request later := by
  intro formats
  rw [same.formats] at formats
  rw [same.probes]
  exact guarded formats

theorem Careful.unformatted (unformatted : said.formats = false) : Careful config request said :=
  fun formats => absurd (unformatted.symm.trans formats) (by decide)

theorem Quiet.guarded {program : Driver α} (quiet : Quiet program) (guarded : Careful config request said) :
    dialogue.Along (Careful config request) program said :=
  quiet.same.weaken (fun _ same => guarded.same same) fun _ _ _ _ => trivial

def CompletedProcess.fsType (result : CompletedProcess) : Option String :=
  if result.returncode = 2 then none else some (String.ofList (strip result.stdout.toList))

private theorem CompletedProcess.recognised_eq (result : CompletedProcess) :
    result.recognised = result.fsType.bind FileSystemName.ofText := by
  unfold recognised fsType
  split <;> rfl

private theorem CompletedProcess.fsType_empty (result : CompletedProcess) :
    result.fsType.getD "" = "" ↔ result.returncode = 2 ∨ result.isBlank = true := by
  unfold fsType isBlank
  split
  next exited => simp [exited]
  next other =>
    rw [Option.getD_some, String.ofList_eq_empty_iff, decide_eq_true_eq]
    exact ⟨.inr, fun holds => holds.resolve_left other⟩

theorem getDeviceFs_gives (device : Device) (unformatted : said.formats = false) :
    dialogue.Gives (Careful config request) (fun fsType later => Said.formats later = false ∧ ∃ result,
      Said.probes later = said.probes ++ [result] ∧ fsType = CompletedProcess.fsType result)
      (getDeviceFs (.loop device)) said := by
  have asked : dialogue.Gives (Careful config request) (fun result later => Said.formats later = false ∧
      Said.probes later = said.probes ++ [result]) (Driver.device (.blkid device)) said := by
    apply World.Gives.perform (.unformatted unformatted)
    rintro answer reply later - ⟨⟩
    have silent : Said.formats (said ++ [⟨.device (.blkid device), answer (.device (.blkid device))⟩]) = false := by
      rw [Said.formats_append, unformatted]
      rfl
    refine ⟨.unformatted silent, fun result told => ⟨silent, ?_⟩⟩
    rw [Said.probes_append, told]
    rfl
  apply asked.bind
  rintro result later guarded ⟨silent, probed⟩
  split
  next exited => exact .pure guarded ⟨silent, result, probed, by simp [CompletedProcess.fsType, exited]⟩
  next other => exact .pure guarded ⟨silent, result, probed, by simp [CompletedProcess.fsType, other]⟩

theorem getFromDeviceOrFallback_gives (source : Source) (unprobed : said.probes = []) (unformatted : said.formats = false) :
    dialogue.Gives (Careful config request) (fun _ later => Said.formats later = false ∧ ∃ first,
      Said.probes later = [first] ∧ Formattable config request first)
      (getFromDeviceOrFallback source (Bd2Fs.fallbackFs config request)) said := by
  have guarded : Careful config request said := .unformatted unformatted
  cases source with
  | path text =>
    have undetected : fromDevice (.path text) = pure none := rfl
    unfold getFromDeviceOrFallback
    rw [undetected, Program.pure_bind]
    dsimp only
    split
    · exact .raise guarded
    · exact .raise guarded
    next same => cases same
  | loop device =>
    have found : dialogue.Gives (Careful config request) (fun fs later => Said.formats later = false ∧ ∃ first,
        Said.probes later = [first] ∧ (fs.isSome → first.recognised ≠ none)) (fromDevice (.loop device)) said := by
      apply (getDeviceFs_gives device unformatted).bind
      rintro fsType later guarded ⟨silent, first, probed, rfl⟩
      rw [unprobed] at probed
      rw [← CompletedProcess.recognised_eq]
      cases known : first.recognised with
      | none => exact .pure guarded ⟨silent, first, probed, by simp⟩
      | some name => exact .pure guarded ⟨silent, first, probed, fun _ => by simp [known]⟩
    apply found.bind
    rintro fs later guarded ⟨silent, first, probed, known⟩
    cases fs with
    | some fs => exact .pure guarded ⟨silent, first, probed, .inl (known rfl)⟩
    | none =>
      dsimp only
      cases fallback : FileSystemName.ofText (Bd2Fs.fallbackFs config request) with
      | none => exact .raise guarded
      | some name => exact .pure guarded ⟨silent, first, probed, .inr (by simp [fallback])⟩

/-- The second result, after which a device is formatted if it says that there is nothing on it or says nothing. -/
theorem formatAndMount_guarded (fs : FileSystem) (point : Path) (unformatted : said.formats = false)
    (probed : said.probes = [first]) (formattable : Formattable config request first) :
    dialogue.Along (Careful config request) (fs.formatAndMount point) said := by
  have mounts : ∀ later, Careful config request later → dialogue.Along (Careful config request) (fs.mount point) later :=
    fun later guarded => (mount_quiet fs point).guarded guarded
  have asked := @getDeviceFs_gives said config request fs.device unformatted
  refine World.Surely.bind (World.Surely.weaken asked (fun _ pass => pass) ?_)
  intro outcome later guarded known
  cases outcome with
  | error error => trivial
  | ok fsType =>
    obtain ⟨silent, second, added, rfl⟩ := known fsType rfl
    rw [probed] at added
    dsimp only
    split
    next empty =>
      refine World.Along.bind (World.Along.tryExcept ?_ fun error later guarded => .raise guarded)
        fun _ later guarded => mounts later guarded
      apply World.Along.perform guarded
      intro answer _ _
      refine ⟨first, second, ?_, second.fsType_empty.mp empty, formattable⟩
      show Said.probes (later ++ [⟨.device (.mkfs fs.name fs.device), answer _⟩]) = _
      rw [Said.probes_append, added]
      rfl
    next => exact mounts later guarded

theorem Quiet.then {program : Driver α} {next : α → Driver β} (quiet : Quiet program) (unprobed : said.probes = [])
    (unformatted : said.formats = false)
    (rest : ∀ value later, Said.probes later = [] → Said.formats later = false →
      dialogue.Along (Careful config request) (next value) later) :
    dialogue.Along (Careful config request) (program >>= next) said := by
  refine World.Surely.bind (quiet.same.weaken (fun _ same => Careful.same (.unformatted unformatted) same) ?_)
  intro outcome later _ same
  cases outcome with
  | ok value => exact rest value later (same.probes.trans unprobed) (same.formats.trans unformatted)
  | error error => trivial

private theorem stageReady_guarded (unprobed : said.probes = []) (unformatted : said.formats = false) :
    dialogue.Along (Careful config request) (Bd2Fs.stageReady config request) said := by
  refine Quiet.then (.perform trivial) unprobed unformatted fun _ said unprobed unformatted => ?_
  refine Quiet.then (nodeStageVolume_quiet _ _) unprobed unformatted fun _ said unprobed unformatted => ?_
  refine Quiet.then (beSymlink_quiet _ _) unprobed unformatted fun _ said unprobed unformatted => ?_
  have access : Quiet (checkAccessType request.accessType) := by
    cases request.accessType <;> trivial
  refine Quiet.then access unprobed unformatted fun accessType said unprobed unformatted => ?_
  split
  · refine Quiet.then (stagedDevice_quiet _) unprobed unformatted fun source said unprobed unformatted => ?_
    have found := @getFromDeviceOrFallback_gives said config request source unprobed unformatted
    refine World.Surely.bind (World.Surely.weaken found (fun _ pass => pass) ?_)
    intro outcome later guarded known
    cases outcome with
    | error error => trivial
    | ok fs =>
      obtain ⟨silent, first, probed, formattable⟩ := known fs rfl
      exact formatAndMount_guarded fs _ silent probed formattable
  · exact .pure (.unformatted unformatted)

private theorem nodeStageVolume_guarded : dialogue.Along (Careful config request) (Bd2Fs.nodeStageVolume config request) [] := by
  refine Quiet.then (.perform trivial) rfl rfl fun _ said unprobed unformatted => ?_
  refine World.Along.tryFinally ?_ fun later guarded => Quiet.guarded (.perform trivial) guarded
  refine Quiet.then (metadataOr_quiet _) unprobed unformatted fun data said unprobed unformatted => ?_
  split
  · exact .raise (.unformatted unformatted)
  · exact stageReady_guarded unprobed unformatted

def Returnable (program : Driver α) (value : α) : Prop :=
  ∀ said : Said, ∃ later, dialogue.Finishes program said (.ok value) later

theorem Returnable.perform {operation : Op} (value : operation.Reply) : Returnable (Program.perform operation) value :=
  fun _ => ⟨_, dialogue_perform (.ok value)⟩

theorem Returnable.pure (value : α) : Returnable (Pure.pure value) value :=
  fun said => ⟨said, .done value said⟩

theorem Returnable.bind {program : Driver α} {next : α → Driver β} {value : α} {final : β}
    (first : Returnable program value) (rest : Returnable (next value) final) : Returnable (program >>= next) final := by
  intro said
  obtain ⟨middle, one⟩ := first said
  obtain ⟨later, two⟩ := rest middle
  exact ⟨later, one.bind two⟩

private theorem metadataOr_returnable (volume : VolumeId) (data : Meta) : Returnable (metadataOr volume) data := by
  intro said
  obtain ⟨later, finishes⟩ := @Returnable.perform (.file (.readMeta volume)) data said
  exact ⟨later, finishes.tryExcept⟩

private theorem beSymlink_returnable (path : Path) (target : String) : Returnable (beSymlink path target) () := by
  refine (Returnable.perform (some (.link target))).bind ?_
  rw [if_pos rfl]
  exact .pure ()

private theorem attachLoop_returnable (file : ImgFile) (device : Device) (most attempts : Nat) (last : Option String) :
    Returnable (attachLoop file most (attempts + 1) last) device := by
  have loops : Returnable (attachedLoops file.path) [device] :=
    @Returnable.perform (.device (.attachedLoops file.path)) [device]
  have writable : Returnable (Driver.device (.setrw device)) () := @Returnable.perform (.device (.setrw device)) ()
  have once : Returnable (attachOnce file) (some device) := loops.bind (writable.bind (.pure _))
  have attempted : Returnable (attachOnce file).attempt (.ok (some device)) := by
    intro said
    obtain ⟨later, finishes⟩ := once said
    exact ⟨later, finishes.attempt⟩
  exact attempted.bind (.pure device)

private theorem nodeStageVolume_returnable (volume : VolumeId) (target : String) :
    Returnable (RawFileNode.nodeStageVolume volume target) () := by
  have data : Returnable (metadata volume) { imgFile := some "default" } :=
    @Returnable.perform (.file (.readMeta volume)) { imgFile := some "default" }
  have image : Returnable (imgFile volume) ⟨"default", volume⟩ := data.bind ((Returnable.pure _).bind (.pure _))
  exact (metadataOr_returnable volume { ready := some true }).bind
    (image.bind ((attachLoop_returnable _ 0 _ _ _).bind (beSymlink_returnable _ _)))

private theorem stagedDevice_returnable (target : String) : Returnable (stagedDevice target) (.loop 0) := by
  refine (Returnable.perform (some (.link (target ++ "/block/dev")))).bind ?_
  dsimp only
  rw [if_pos rfl]
  exact (Returnable.perform (some (.link (devicePath 0)))).bind (.pure _)

theorem Quiet.reaches {program : Driver α} {next : α → Driver β} {value : α} (quiet : Quiet program)
    (returnable : Returnable program value) (unprobed : said.probes = [])
    (rest : ∀ later : Said, later.probes = [] → ∃ last : Said, dialogue.Passes (next value) later last ∧
      last.probes = [first, second] ∧ last.formats = true) :
    ∃ last : Said, dialogue.Passes (program >>= next) said last ∧ last.probes = [first, second] ∧ last.formats = true := by
  obtain ⟨later, finishes⟩ := returnable said
  have same := quiet.same.finishes finishes
  obtain ⟨last, passes, known⟩ := rest later (same.probes.trans unprobed)
  exact ⟨last, .bind finishes passes, known⟩

private theorem fromDevice_finishes (device : Device) (result : CompletedProcess) : dialogue.Finishes (fromDevice (.loop device)) said
    (.ok (result.recognised.map fun name => { name, device })) (said ++ [⟨.device (.blkid device), .ok result⟩]) := by
  have asked : dialogue.Finishes (getDeviceFs (.loop device)) said (.ok result.fsType)
      (said ++ [⟨.device (.blkid device), .ok result⟩]) := by
    apply (@dialogue_perform _ _ _ _ (.device (.blkid device)) said (.ok result)).bind
    unfold CompletedProcess.fsType
    split <;> exact .done _ _
  apply asked.bind
  rw [← CompletedProcess.recognised_eq]
  cases result.recognised <;> exact .done _ _

private theorem getFromDeviceOrFallback_finishes (formattable : Formattable config request first) (device : Device) :
    ∃ fs : FileSystem, fs.device = device ∧ dialogue.Finishes (getFromDeviceOrFallback (.loop device)
      (Bd2Fs.fallbackFs config request)) said (.ok fs) (said ++ [⟨.device (.blkid device), .ok first⟩]) := by
  have found := @fromDevice_finishes said device first
  cases known : first.recognised with
  | some name =>
    rw [known] at found
    exact ⟨{ name, device }, rfl, found.bind (.done _ _)⟩
  | none =>
    rw [known] at found
    obtain ⟨name, fallback⟩ := Option.ne_none_iff_exists'.mp (formattable.resolve_left (by simp [known]))
    refine ⟨{ name, device }, rfl, found.bind ?_⟩
    dsimp only [Option.map_none]
    rw [fallback]
    exact .done _ _

private theorem formatAndMount_formats (fs : FileSystem) (point : Path)
    (empty : second.returncode = 2 ∨ second.isBlank = true) :
    dialogue.Passes (fs.formatAndMount point) said
      (said ++ [⟨.device (.blkid fs.device), .ok second⟩] ++ [⟨.device (.mkfs fs.name fs.device), .ok ()⟩]) := by
  have asked : dialogue.Finishes (getDeviceFs (.loop fs.device)) said (.ok second.fsType)
      (said ++ [⟨.device (.blkid fs.device), .ok second⟩]) := by
    apply (@dialogue_perform _ _ _ _ (.device (.blkid fs.device)) said (.ok second)).bind
    unfold CompletedProcess.fsType
    split <;> exact .done _ _
  apply World.Passes.bind asked
  rw [if_pos (second.fsType_empty.mpr empty)]
  exact World.Passes.inside (World.Passes.inside (World.Passes.attempt (dialogue_request (.ok ()) (.here _ _))))

/-- The device can come to be formatted after any two results of which the second says that it is empty or says
nothing. -/
theorem nodeStageVolume_formats (mounting : request.accessType = some .mount) (formattable : Formattable config request first)
    (empty : second.returncode = 2 ∨ second.isBlank = true) :
    ∃ said : Said, dialogue.Passes (Bd2Fs.nodeStageVolume config request) [] said ∧ said.probes = [first, second] ∧
      said.formats = true := by
  have acquired : Returnable (Driver.lock (.acquire request.volumeId)) () :=
    @Returnable.perform (.lock (.acquire request.volumeId)) ()
  have created : Returnable (Driver.file (.mkdirs (.staging request.stagingTargetPath .block))) () :=
    @Returnable.perform (.file (.mkdirs (.staging request.stagingTargetPath .block))) ()
  have staged : ∀ said : Said, said.probes = [] → ∃ last : Said,
      dialogue.Passes (Bd2Fs.stageReady config request) said last ∧ last.probes = [first, second] ∧
        last.formats = true := by
    intro said unprobed
    refine Quiet.reaches (.perform trivial) created unprobed fun said unprobed => ?_
    refine Quiet.reaches (nodeStageVolume_quiet _ _) (nodeStageVolume_returnable _ _) unprobed fun said unprobed => ?_
    refine Quiet.reaches (beSymlink_quiet _ _) (beSymlink_returnable _ _) unprobed fun said unprobed => ?_
    rw [mounting]
    refine Quiet.reaches (.pure _) (.pure AccessType.mount) unprobed fun said unprobed => ?_
    rw [if_pos rfl]
    refine Quiet.reaches (stagedDevice_quiet _) (stagedDevice_returnable _) unprobed fun said unprobed => ?_
    obtain ⟨fs, same, finishes⟩ := @getFromDeviceOrFallback_finishes said first config request formattable 0
    refine ⟨_, .bind finishes (formatAndMount_formats fs _ empty), ?_, ?_⟩
    · simp only [Said.probes_append, unprobed]
      rfl
    · simp only [Said.formats_append, Bool.or_eq_true]
      exact .inr rfl
  refine Quiet.reaches (.perform trivial) acquired rfl fun said unprobed => ?_
  have body : ∃ last : Said, dialogue.Passes (do
      if !(← metadataOr request.volumeId).isReady then raise (.volumeNotReady request.volumeId)
      else Bd2Fs.stageReady config request) said last ∧ last.probes = [first, second] ∧ last.formats = true :=
    Quiet.reaches (metadataOr_quiet _) (metadataOr_returnable _ { ready := some true }) unprobed staged
  obtain ⟨last, passes, known⟩ := body
  exact ⟨last, passes.tryFinally, known⟩

/-- After two results of `blkid`, staging formats the device only if the second exited with 2, if and only if that
one did so, or had some output, or there is no file system to format the device with. -/
theorem formats_only_empty (config : DriverConfig) (request : NodeStageVolumeRequest)
    (mounting : request.accessType = some .mount) (first second : CompletedProcess) :
    (∀ said : Said, dialogue.Passes (Bd2Fs.nodeStageVolume config request) [] said → said.probes = [first, second] →
      said.formats = true → second.returncode = 2) ↔
      second.returncode = 2 ∨ second.isBlank = false ∨
        (first.recognised = none ∧ FileSystemName.ofText (Bd2Fs.fallbackFs config request) = none) := by
  constructor
  · intro only
    by_cases formattable : Formattable config request first
    · by_cases empty : second.returncode = 2
      · exact .inl empty
      · right; left
        cases blank : second.isBlank with
        | false => rfl
        | true =>
          obtain ⟨said, passes, probes, formats⟩ := nodeStageVolume_formats mounting formattable (.inr blank)
          exact absurd (only said passes probes formats) empty
    · simp only [Formattable, not_or, not_not] at formattable
      exact .inr (.inr formattable)
  · intro holds said passes probes formats
    obtain ⟨one, two, probed, empty, formattable⟩ := nodeStageVolume_guarded.passes passes formats
    cases probes.symm.trans probed
    rcases holds with exited | output | neither
    · exact exited
    · exact empty.resolve_right (by simp [output])
    · exact absurd formattable (by simp [Formattable, neither.1, neither.2])

end

namespace Formatting

def staging : NodeStageVolumeRequest where
  volumeId := "v"
  stagingTargetPath := "/staging"
  accessType := some .mount

/-- A device on which the second probe finds a file system after all is left alone. -/
theorem formats_only_empty_found : staging.accessType = some .mount ∧
    ¬ ∃ said : Said, dialogue.Passes (Bd2Fs.nodeStageVolume singlePool staging) [] said ∧
      said.probes = [⟨2, ""⟩, ⟨0, "xfs\n"⟩] ∧ said.formats = true := by
  have only := (formats_only_empty singlePool staging rfl ⟨2, ""⟩ ⟨0, "xfs\n"⟩).mpr (.inr (.inl (by decide)))
  refine ⟨rfl, ?_⟩
  rintro ⟨said, passes, probes, formats⟩
  exact absurd (only said passes probes formats) (by decide)

/-- `blkid` exits with 8, for signatures that contradict each other, and prints nothing: the device is formatted. -/
theorem ambivalent_device_formatted : ∃ said : Said,
    dialogue.Passes (Bd2Fs.nodeStageVolume singlePool staging) [] said ∧ said.probes = [⟨8, ""⟩, ⟨8, ""⟩] ∧
      said.formats = true :=
  nodeStageVolume_formats rfl (.inr (by decide)) (.inr (by decide))

end Formatting
end Rawfile
