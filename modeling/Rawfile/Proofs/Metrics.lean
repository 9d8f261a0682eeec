import Rawfile.Effects.Dialogue
import Rawfile.Metrics
import Rawfile.Proofs.Frame

/-! Looking at a volume while others work. Where nothing takes the volume away
between two reads about it, a look that finds it is followed by another one that
does, so what is stored is complete. -/

namespace Rawfile.Metrics
open Effects

def Recorded (volume : VolumeId) (pool : PoolName) (node : Node) : Prop :=
  (Files.metadata node.files volume).bind Meta.imgFile = some pool

def Stored (volume : VolumeId) (pool : PoolName) (node : Node) : Prop :=
  (Files.image node.files (.imgFile pool volume)).isSome = true

def There (volume : VolumeId) (node : Node) : Prop := ∃ pool, Recorded volume pool node ∧ Stored volume pool node

def Keeps (volume : VolumeId) (before after : Node) : Prop :=
  ∀ pool, Recorded volume pool before →
    Recorded volume pool after ∧ (Stored volume pool before → Stored volume pool after)

/-- The volume is looked at now, and what there was of it is kept since the last
look. -/
def Looked (volume : VolumeId) (now later : Watch) : Prop :=
  later.2 = some volume ∧ (now.2 = some volume → Keeps volume now.1.state later.1.state)

def Steady {α : Type} (volume : VolumeId) (now : Watch) (outcome : Except Err α) (later : Watch) : Prop :=
  Looked volume now later ∧ ∀ error, outcome = .error error → isMissing error = false

variable {config : DriverConfig} {volume : VolumeId} {file : ImgFile} {now later last : Watch}

theorem Keeps.trans {first second third : Node} (one : Keeps volume first second) (two : Keeps volume second third) :
    Keeps volume first third := by
  intro pool recorded
  obtain ⟨still, stored⟩ := one pool recorded
  exact ⟨(two pool still).1, fun here => (two pool still).2 (stored here)⟩

theorem There.kept {first second : Node} (there : There volume first) (keeps : Keeps volume first second) :
    There volume second := by
  obtain ⟨pool, recorded, stored⟩ := there
  exact ⟨pool, (keeps pool recorded).1, (keeps pool recorded).2 stored⟩

theorem Looked.trans (one : Looked volume now later) (two : Looked volume later last) : Looked volume now last :=
  ⟨two.1, fun looked => (one.2 looked).trans (two.2 one.1)⟩

private theorem keeps_of_lasting {first second : Node} (lasts : lasting volume first second = true) :
    Keeps volume first second := by
  intro pool recorded
  simp only [lasting, show (Files.metadata first.files volume).bind Meta.imgFile = some pool from recorded,
    Bool.and_eq_true, decide_eq_true_eq, Bool.or_eq_true, Option.isNone_iff_eq_none] at lasts
  refine ⟨lasts.1, fun stored => ?_⟩
  rcases lasts.2 with missing | here
  · simp [Stored, missing] at stored
  · exact here

private theorem keeps_of_run {events : List NodeEvent} {before after : NodeConfig}
    (ran : (nodePlugin config).runIf (spares config (some volume)) events before = some after) :
    Keeps volume before.state after.state := by
  refine (Machine.runIf_reaches ran).invariant (fun now => Keeps volume before.state now.state) ?_ ?_
  · intro middle event last allowed moved keeps
    have lasts := (Bool.and_eq_true_iff.mp allowed).2
    simp only [Option.all_some, moved] at lasts
    exact keeps.trans (keeps_of_lasting lasts)
  · exact fun pool recorded => ⟨recorded, id⟩

theorem ask_looks {operation : StatsOp} (about : operation.looks now.2 = some volume) :
    (beside config false).Ends (fun outcome later => Looked volume now later ∧
      ∃ glance : Glance, glance.gone = false ∧ operation.reply glance later.1.state = outcome) (ask operation) now := by
  refine .perform trivial fun glance reply later may answered => ⟨trivial, ?_⟩
  cases answered
  obtain ⟨allowed, gone⟩ := may
  refine ⟨⟨about, fun looked => ?_⟩, glance, by simpa using gone, rfl⟩
  obtain ⟨last, ran⟩ := Option.isSome_iff_exists.mp allowed
  rw [about, looked, if_neg (by simp)] at ran
  simp only [Machine.runIf_run ran, Option.getD_some]
  exact keeps_of_run ran

theorem ask_steady {operation : StatsOp} (about : operation.looks now.2 = some volume)
    (present : ∀ glance node error, glance.gone = false → operation.reply glance node = .error error →
      isMissing error = false) : (beside config false).Ends (Steady volume now) (ask operation) now := by
  refine (ask_looks about).weaken (fun _ pass => pass) ?_
  rintro outcome later - ⟨looked, glance, gone, rfl⟩
  exact ⟨looked, fun error => present glance _ error gone⟩

theorem excepting_ends {α : Type} {caught : Err → Bool} {program : Reader α} {missing : α}
    {good post : Except Err α → Watch → Prop} (ends : (beside config false).Ends good program now)
    (found : ∀ outcome later, good outcome later → (∀ error, outcome = .error error → caught error = false) →
      post outcome later)
    (lost : ∀ error later, caught error = true → good (.error error) later → post (.ok missing) later) :
    (beside config false).Ends post (excepting caught program missing) now := by
  refine .tryExcept (ends.weaken (fun _ pass => pass) fun outcome later _ known => ?_)
  cases outcome with
  | ok value => exact ⟨trivial, found _ later known nofun⟩
  | error error =>
    dsimp only
    split
    next isCaught => exact ⟨trivial, lost error later isCaught known⟩
    next passed =>
      refine ⟨trivial, found _ later known fun other same => ?_⟩
      cases same
      exact Bool.eq_false_iff.mpr passed

private theorem readMeta_replies {glance : Glance} {node : Node} {outcome : Except Err Meta}
    (replied : (StatsOp.readMeta volume).reply glance node = outcome) :
    (∃ data, outcome = .ok data ∧ Files.metadata node.files volume = some data) ∨
    ∃ error, outcome = .error error ∧
      (isMissing error = false ∨ error = .fileNotFound ∧ Files.metadata node.files volume = none) := by
  subst replied
  simp only [StatsOp.reply, FileOp.exec]
  split
  · exact .inr ⟨_, rfl, .inl rfl⟩
  · split
    next data found => exact .inl ⟨data, rfl, by simp [Files.metadata, found]⟩
    next => exact .inr ⟨_, rfl, .inl rfl⟩
    next missing => exact .inr ⟨_, rfl, .inr ⟨rfl, by simp [Files.metadata, missing]⟩⟩

private theorem metadataOr_looks : (beside config false).Ends (Steady volume now) (metadataOr volume) now := by
  refine excepting_ends (ask_looks rfl) ?_ ?_
  · rintro outcome later ⟨looked, glance, -, replied⟩ passed
    refine ⟨looked, fun error failed => ?_⟩
    subst failed
    rcases readMeta_replies replied with ⟨data, answered, -⟩ | ⟨_, ⟨rfl⟩, present | ⟨rfl, -⟩⟩
    · cases answered
    · exact present
    · cases passed _ rfl
  · exact fun _ later _ known => ⟨known.1, nofun⟩

theorem imgFile_looks (here : now.2 = some volume) : (beside config false).Ends (fun outcome later =>
    Looked volume now later ∧ (∀ file, outcome = .ok file → file.volume = volume ∧ Recorded volume file.pool later.1.state) ∧
    (There volume now.1.state → ∀ error, outcome = .error error → isMissing error = false)) (imgFile volume) now := by
  refine .bind ((ask_looks rfl).weaken (fun _ pass => pass) ?_)
  rintro outcome later - ⟨looked, glance, -, replied⟩
  have recorded : There volume now.1.state → ∃ pool, Recorded volume pool later.1.state :=
    fun ⟨pool, recorded, _⟩ => ⟨pool, (looked.2 here pool recorded).1⟩
  rcases readMeta_replies replied with ⟨data, rfl, found⟩ | ⟨error, rfl, why⟩
  · simp only [Recorded, found, Option.bind_some] at recorded ⊢
    cases home : data.imgFile with
    | some pool =>
      refine ⟨trivial, looked, fun file same => ?_, nofun⟩
      cases same
      exact ⟨rfl, by simp [found, home]⟩
    | none =>
      refine ⟨trivial, looked, nofun, fun there => ?_⟩
      obtain ⟨pool, recorded⟩ := recorded there
      cases home.symm.trans recorded
  · refine ⟨looked, nofun, fun there other same => ?_⟩
    cases same
    rcases why with present | ⟨-, missing⟩
    · exact present
    · obtain ⟨pool, recorded⟩ := recorded there
      rw [Recorded, missing] at recorded
      cases recorded

private theorem stat_looks (here : now.2 = some volume) :
    (beside config false).Ends (fun outcome later => ∃ reply, outcome = .ok reply ∧ Looked volume now later ∧
      (∀ stats, reply = .ok stats → Stored file.volume file.pool later.1.state) ∧
      ∀ error, reply = .error error →
        isMissing error = false ∨ error = .fileNotFound ∧ ¬ Stored file.volume file.pool later.1.state)
      (ask (.stat file)).attempt now := by
  have asked := @ask_looks config volume now (.stat file) here
  refine .attempt (asked.weaken (fun _ pass => pass) ?_)
  rintro _ later - ⟨looked, glance, -, rfl⟩
  refine ⟨_, rfl, looked, ?_⟩
  simp only [StatsOp.reply, Stored, ImgFile.path]
  split
  · exact ⟨by rintro _ ⟨⟩, by rintro _ ⟨rfl⟩; exact .inl rfl⟩
  · split
    next image found => exact ⟨fun _ _ => by rw [found]; rfl, by rintro _ ⟨⟩⟩
    next missing => exact ⟨by rintro _ ⟨⟩, by rintro _ ⟨rfl⟩; exact .inr ⟨rfl, by simp [missing]⟩⟩

private theorem attachedLoops_steady (looked : now.2 = some volume) :
    (beside config false).Ends (Steady volume now) (ask (.attachedLoops file)) now := by
  refine ask_steady looked fun glance node error _ replied => ?_
  simp only [StatsOp.reply, DeviceOp.exec] at replied
  split at replied <;> cases replied
  rfl

private theorem statvfs_steady {mountpoint : Path} (looked : now.2 = some volume) :
    (beside config false).Ends (Steady volume now) (ask (.statvfs mountpoint)) now := by
  refine ask_steady looked fun glance node error gone replied => ?_
  simp only [StatsOp.reply, gone, Bool.false_eq_true, if_false] at replied
  split at replied <;> cases replied
  rfl

private theorem fsUsage_steady {loops : List Device} (here : now.2 = some volume) :
    (beside config false).Ends (Steady volume now) (fsUsage loops) now := by
  cases loops with
  | nil => exact ⟨trivial, ⟨here, fun _ _ recorded => ⟨recorded, id⟩⟩, nofun⟩
  | cons device rest =>
    refine .andThen (ask_steady here fun _ _ _ _ replied => nomatch replied) ?_ fun _ _ failed => ⟨failed.1, ?_⟩
    · rintro (_ | mountpoint) later ⟨looked, -⟩
      · exact ⟨trivial, looked, nofun⟩
      · refine (statvfs_steady looked.1).weaken (fun _ pass => pass) ?_
        exact fun _ _ _ known => ⟨looked.trans known.1, known.2⟩
    · rintro _ ⟨rfl⟩
      exact failed.2 _ rfl

/-- What a look at the volume finds: a record only of a volume that is there,
and one of a volume that was there at the last look. -/
def Finds (volume : VolumeId) (now : Watch) (outcome : Except Err (Option FullStats)) (later : Watch) : Prop :=
  later.2 = some volume ∧ (∀ record, outcome = .ok (some record) → There volume later.1.state) ∧
    (now.2 = some volume → There volume now.1.state → outcome ≠ .ok none)

/-- `volumeStats` finds what there is, and misses nothing of what was there. -/
def Seeks (volume : VolumeId) (now : Watch) (outcome : Except Err (Option FullStats)) (later : Watch) : Prop :=
  Finds volume now outcome later ∧
    (now.2 = some volume → There volume now.1.state → ∀ error, outcome = .error error → isMissing error = false)

theorem Seeks.failing {error : Err} (here : later.2 = some volume)
    (present : now.2 = some volume → There volume now.1.state → isMissing error = false) :
    Seeks volume now (.error error) later := by
  refine ⟨⟨here, nofun, nofun⟩, ?_⟩
  rintro looked there _ ⟨rfl⟩
  exact present looked there

/-- While volumes come and go, a volume that stays is found or the error is a real one. -/
theorem volumeStats_seeks : (beside config false).Ends (Seeks volume now) (volumeStats config volume) now := by
  refine .andThen metadataOr_looks (fun data one first => ?_)
    fun error last failed => .failing failed.1.1 fun _ _ => failed.2 error rfl
  refine .andThen (imgFile_looks first.1.1) ?_
    fun error last failed => .failing failed.1.1 fun here there => failed.2.2 (there.kept (first.1.2 here)) error rfl
  rintro file two ⟨second, named, -⟩
  obtain ⟨rfl, recorded⟩ := named file rfl
  refine .onward _ (stat_looks second.1) ?_
  rintro (error | stats) three - ⟨third, stored, failed⟩
  · rcases failed error rfl with present | ⟨rfl, missing⟩
    · have raised : (beside config false).Ends (Seeks file.volume now) (.raise error) three :=
        ⟨trivial, .failing third.1 fun _ _ => present⟩
      cases error <;> first | exact raised | cases present
    · refine ⟨trivial, ⟨third.1, nofun, fun here ⟨pool, known, there⟩ => ?_⟩, nofun⟩
      have still := ((first.1.trans second).2 here pool known)
      cases (still.1.symm.trans recorded : some pool = some file.pool)
      exact absurd ((third.2 second.1 _ recorded).2 (still.2 there)) missing
  · have there : There file.volume three.1.state :=
      ⟨file.pool, (third.2 second.1 _ recorded).1, stored stats rfl⟩
    refine .andThen (attachedLoops_steady third.1) (fun loops four fourth => ?_)
      fun error last failed => .failing failed.1.1 fun _ _ => failed.2 error rfl
    refine .andThen (fsUsage_steady fourth.1.1) (fun used five fifth => ?_)
      fun error last failed => .failing failed.1.1 fun _ _ => failed.2 error rfl
    have there := there.kept ((fourth.1.trans fifth.1).2 third.1)
    exact ⟨trivial, ⟨fifth.1.1, fun _ _ => there, nofun⟩, nofun⟩

private theorem getVolumeStats_finds : (beside config false).Ends (Finds volume now) (getVolumeStats config volume) now := by
  refine excepting_ends volumeStats_seeks (fun outcome later known _ => known.1) ?_
  rintro error later caught ⟨⟨looked, -, -⟩, present⟩
  refine ⟨looked, nofun, fun here there => ?_⟩
  cases caught.symm.trans (present here there error rfl)

private theorem allStats_complete {volumes : List VolumeId} {stats : List (VolumeId × Option FullStats)}
    (complete : ∀ entry ∈ stats, entry.2.isSome = true) : (beside config false).Gives (fun _ => True)
      (fun stats _ => ∀ entry ∈ stats, entry.2.isSome = true) (allStats config volumes stats) now := by
  induction volumes generalizing stats now with
  | nil => exact .pure trivial complete
  | cons volume rest ih =>
    refine .bind (.ofEnds getVolumeStats_finds) ?_
    rintro (_ | record) one - ⟨here, found, -⟩
    · exact ih complete
    · refine .bind (.ofEnds getVolumeStats_finds) fun again two _ second => ih fun entry member => ?_
      rcases Dict.mem_set member with rfl | old
      · exact Option.isSome_iff_ne_none.mpr fun lost => second.2.2 here (found record rfl) (congrArg _ lost)
      · exact complete entry old

private theorem poolStats_pool {storagePool : PoolName} {volumes : List VolumeId} {stats : List (VolumeId × FullStats)}
    (mine : ∀ entry ∈ stats, entry.2.pool = storagePool) : (beside config true).Gives (fun _ => True)
      (fun stats _ => ∀ entry ∈ stats, entry.2.pool = storagePool) (poolStats config storagePool volumes stats) now := by
  induction volumes generalizing stats now with
  | nil => exact .pure trivial mine
  | cons volume rest ih =>
    refine .bind (.ofEnds (.any _ _)) ?_
    rintro (_ | found) one - -
    · exact ih mine
    · refine ih ?_
      split
      next asked =>
        intro entry member
        rcases Dict.mem_set member with rfl | old
        · exact asked
        · exact mine entry old
      next => exact mine

private theorem mapM_succeeds {ε α β : Type} {function : α → Except ε β} {items : List α}
    (each : ∀ item ∈ items, ∃ value, function item = .ok value) : ∃ values, items.mapM function = .ok values := by
  induction items with
  | nil => exact ⟨[], rfl⟩
  | cons item rest ih =>
    obtain ⟨value, first⟩ := each item List.mem_cons_self
    obtain ⟨values, others⟩ := ih fun other member => each other (List.mem_cons_of_mem _ member)
    exact ⟨value :: values, by rw [List.mapM_cons, first, others]; rfl⟩

private theorem collect_succeeds (node : String) (pools : List PoolName) {all : List (VolumeId × Option FullStats)}
    (complete : ∀ entry ∈ all, entry.2.isSome = true) : ∃ samples, collect node pools all = .ok samples := by
  have each : ∀ {β : Type} (function : VolumeId × Option FullStats → Except String β),
      (∀ volume stats, ∃ value, function (volume, some stats) = .ok value) →
      ∃ values, all.mapM function = .ok values := by
    refine fun function succeeds => mapM_succeeds ?_
    rintro ⟨volume, _ | stats⟩ member
    · cases complete _ member
    · exact succeeds volume stats
  obtain ⟨volumes, first⟩ := each (volumeSamples node) fun _ _ => ⟨_, rfl⟩
  obtain ⟨totals, second⟩ : ∃ totals, pools.mapM (poolSamples node all) = .ok totals := by
    refine mapM_succeeds fun pool _ => ?_
    obtain ⟨stats, third⟩ := each (ofPool pool) fun _ _ => ⟨_, rfl⟩
    exact ⟨_, by rw [poolSamples, third]; rfl⟩
  exact ⟨_, by rw [collect, first, second]; rfl⟩

/-- Where no volume is taken away between two reads about it, the statistics are
complete and can be collected. Whatever the other threads do, those of a pool are
of that pool. -/
theorem stats_complete (config : DriverConfig) (storagePool : PoolName) (node : String) (pools : List PoolName)
    (now : NodeConfig) :
    (beside config false).Gives (fun _ => True)
      (fun stats _ => (∀ entry ∈ stats, entry.2.isSome = true) ∧ ∃ samples, collect node pools stats = .ok samples)
      (getAllVolumesStats config) (now, none) ∧
    (beside config true).Gives (fun _ => True) (fun stats _ => ∀ entry ∈ stats, entry.2.pool = storagePool)
      (getVolumesStatsByPool config storagePool) (now, none) := by
  constructor
  · refine .bind (.ofEnds (.any _ _)) fun volumes later _ _ => ?_
    refine (allStats_complete fun _ none => absurd none List.not_mem_nil).weaken (fun _ pass => pass) ?_
    exact fun stats last _ complete => ⟨complete, collect_succeeds node pools complete⟩
  · exact .bind (.ofEnds (.any _ _)) fun volumes later _ _ => poolStats_pool fun _ none => absurd none List.not_mem_nil

instance (operation : StatsOp) (glance : Glance) (now : Watch) :
    Decidable ((beside config disturbed).may operation glance now) :=
  inferInstanceAs (Decidable (_ ∧ _))

/-- The volume is created before the volumes are listed and deleted between the two looks at it. -/
def fleeting : List Glance :=
  [⟨thinCreated ++ moves 2 6 {}, {}, false⟩, {}, {}, {}, {},
    ⟨[.enter (.deleteVolume "v")] ++ moves 3 30 {}, {}, false⟩, {}]

theorem stats_missing : ∃ last, (beside singlePool true).Finishes (getAllVolumesStats singlePool)
    (NodeConfig.initial, none) (.ok [("v", none)]) last ∧
    collect "node" ["default"] [("v", none)] = .error "'NoneType' object is not subscriptable" := by
  have finished : (beside singlePool true).finish fleeting (getAllVolumesStats singlePool) (NodeConfig.initial, none) =
      some (.ok [("v", none)]) := by decide +kernel
  obtain ⟨last, finishes⟩ := World.finish_finishes finished
  exact ⟨last, finishes, rfl⟩

end Rawfile.Metrics
