import Rawfile.Proofs.Capacity
import Rawfile.VolumesStat

/-! The route of one volume beside the route of all volumes of a pool. -/

namespace Rawfile
namespace Api
open Effects Program Internal

variable {plugin : Plugin} {config : DriverConfig} {poolName : String} {volume : VolumeId}

def Plugin.Answers (plugin : Plugin) (program : Metrics.Reader α) (value : α) : Prop :=
  program.eval plugin.exec () = (.ok value, ())

private theorem volumesStat_lookup {volumes : List VolumeId} {stats : List (VolumeId × VolumeStat)}
    (listed : plugin.Answers (volumesStat config poolName volumes) stats)
    (unlisted : volume ∉ volumes → plugin.Answers (volumeStat config poolName volume) none) :
    plugin.Answers (volumeStat config poolName volume) (stats.lookup volume) := by
  induction volumes generalizing stats with
  | nil =>
    cases listed
    exact unlisted nofun
  | cons first rest ih =>
    obtain ⟨stat, ⟨⟩, head, listed⟩ := eval_bind_ok listed
    obtain ⟨more, ⟨⟩, tail, listed⟩ := eval_bind_ok listed
    cases listed
    by_cases same : volume = first
    · subst same
      cases stat with
      | some stat =>
        rw [Option.toList_some, List.map_singleton, List.singleton_append, List.lookup_cons_self]
        exact head
      | none => exact ih tail fun _ => head
    · have later := ih tail fun absent => unlisted (by simp [same, absent])
      cases stat with
      | some stat => simpa [Dict.lookup_field, same] using later
      | none => exact later

private theorem volumeStat_missing (missing : plugin.node.files.lookup (.metaFile volume) = none)
    (calm : (plugin.glance (.readMeta volume)).answer.fails = false) :
    plugin.Answers (volumeStat config poolName volume) none := by
  have reply : (plugin.exec (.readMeta volume) ()).1 = .error .fileNotFound := by
    simp [Plugin.exec, Metrics.StatsOp.reply, FileOp.exec, missing, calm]
  have empty : plugin.Answers (Metrics.metadataOr volume) {} := by
    simp only [Plugin.Answers, Metrics.metadataOr, Metrics.excepting, tryExcept, Metrics.ask, perform, attempt,
      request_bind, eval, reply]
    rfl
  exact (eval_bind empty).trans rfl

private theorem getVolumesStat_named {stats : List (VolumeId × VolumeStat)}
    (listed : plugin.Answers (getVolumesStat config poolName "") stats) (named : volume ≠ "")
    (visible : volume.startsWith "." = false) (calm : (plugin.glance (.readMeta volume)).answer.fails = false) :
    plugin.Answers (getVolumesStat config poolName volume) ((stats.lookup volume).toList.map fun stat => (volume, stat)) := by
  have every : plugin.Answers (volumesStat config poolName (Files.volumes plugin.node.files)) stats := listed
  have found : plugin.Answers (volumeStat config poolName volume) (stats.lookup volume) := by
    refine volumesStat_lookup every fun unlisted => volumeStat_missing ?_ calm
    by_contra present
    exact unlisted (StoragePool.mem_volumes.mpr ⟨present, visible⟩)
  rw [getVolumesStat, if_pos named]
  refine (eval_bind found).trans ?_
  simp only [volumesStat, Program.pure_bind, List.append_nil]
  rfl

/-- If the route of a pool answers, the route of a volume answers with what it says of the volume. -/
theorem volume_routes_agree (mapping : NodeIPMapping) (plugin : String → Plugin) {nodeName poolName : String}
    {stats : List (VolumeId × VolumeStat)} (listed : getNodePoolVolumes mapping plugin nodeName poolName = .ok stats)
    {volume : VolumeId} (named : volume ≠ "") (visible : volume.startsWith "." = false)
    (calm : ∀ ip, ((plugin ip).glance (.readMeta volume)).answer.fails = false) :
    getNodePoolVolume mapping plugin nodeName poolName volume = (stats.lookup volume).elim
      (.error (.notFound ("Selected Volume " ++ volume ++ " Not found in Pool " ++ poolName))) .ok := by
  unfold getNodePoolVolumes request at listed
  split at listed
  · cases listed
  next ip address =>
    have every : (plugin ip).Answers (getVolumesStat (plugin ip).config poolName "") stats := by
      unfold Plugin.Answers
      generalize (getVolumesStat (plugin ip).config poolName "").eval (plugin ip).exec () = ran at *
      obtain ⟨_ | stats, ⟨⟩⟩ := ran <;> cases listed
      rfl
    have single := getVolumesStat_named every named visible (calm ip)
    unfold Plugin.Answers at single
    unfold getNodePoolVolume request
    rw [address]
    dsimp only
    rw [single]
    cases stats.lookup volume with
    | none => rfl
    | some stat => simp [Except.mapError, bind, Except.bind, pure, Except.pure]

def thinMeta : Meta where
  storagePool := some "default"
  ready := some true
  createdAt := some 7
  imgFile := some "default"
  size := some 1
  thinProvision := some true

def oneVolume : Files :=
  (do
    let files ← (FileTree.empty : Files).mkdirs (.metaDir "v")
    let files ← files.write (.metaFile "v") (.json thinMeta)
    let files ← files.mkdirs (.volumeDir "default" "v")
    files.write (.imgFile "default" "v") (.bytes ⟨[0], 0⟩)).toOption.getD .empty

def serving (_ : String) : Plugin where
  config := singlePool
  node := { files := oneVolume }
  glance := fun _ => {}

theorem volume_routes_agree_one :
    getNodePoolVolume { mapping := [("node", "10.0.0.1")] } serving "node" "default" "v" = .ok ⟨1, false, true, true, 0,
      7, 0, false, "default", "default", 0, 1, 0⟩ := by
  have listed : getNodePoolVolumes { mapping := [("node", "10.0.0.1")] } serving "node" "default" =
      .ok [("v", ⟨1, false, true, true, 0, 7, 0, false, "default", "default", 0, 1, 0⟩)] := by decide +kernel
  have visible : "v".startsWith "." = false := by decide +kernel
  rw [volume_routes_agree _ _ listed (by decide) visible fun _ => rfl]
  rfl

end Api
end Rawfile
