import Rawfile.Usage

/-! What an event inherits from the calls before it. The parameters after a
history are those of a view of it: the current versions, the last claim and the
last volume. A call sends whatever of the view it does not set itself. -/

namespace Rawfile.Usage
open Effects OpenEBSEventBuilder

structure View where
  versions : VersionSet
  claim : Option String := none
  volume : Option (String × Int) := none

namespace View

def call (view : View) : UsageCall → View
  | .sendInstall | .sendPing => view
  | .volumeProvision pvcName name capacity =>
    { view with claim := if pvcName.length > 0 then some pvcName else view.claim, volume := some (name, capacity) }
  | .volumeDeprovision name capacity => { view with volume := some (name, capacity) }

def next (view : View) : UsageRequest → View
  | .call call => view.call call
  | .refresh versions => { view with versions }

end View

def view (versions : VersionSet) (history : List UsageRequest) : View := history.foldl View.next { versions }

def SameEvent (first second : SentEvent) : Prop :=
  first.clientId = second.clientId ∧ first.name = second.name ∧
    ∀ key, first.params.lookup key = second.params.lookup key

def categoryOf : UsageCall → String
  | .sendInstall => "install"
  | .sendPing => "rawfile-ping"
  | .volumeProvision .. => "volume-provision"
  | .volumeDeprovision .. => "volume-deprovision"

/-- What the event of a call has from the history: the claim, and the name and
the size of a volume. -/
def inherited (config : UsageConfig) (view : View) : UsageCall → Option String × Option (String × String)
  | .sendInstall | .sendPing => (view.claim, view.volume.map fun volume => (volume.1, config.naturalsize volume.2))
  | .volumeProvision pvcName _ _ => (if pvcName.length > 0 then none else view.claim, none)
  | .volumeDeprovision .. => (view.claim, none)

section
variable {config : UsageConfig} {versions : VersionSet} {params : EventParams} {before : View}

def ownKeys : List String := ["event_category", "vol_claim_name", "vol_name", "vol_capacity", "vol_replica_count"]

/-- The parameters show the view, and for the rest what the versions give. -/
structure Shows (config : UsageConfig) (view : View) (params : EventParams) : Prop where
  claim : params.lookup "vol_claim_name" = view.claim.map .text
  name : params.lookup "vol_name" = view.volume.map fun volume => .text volume.1
  capacity : params.lookup "vol_capacity" = view.volume.map fun volume => .text (config.naturalsize volume.2)
  replicas : params.lookup "vol_replica_count" = view.volume.map fun _ => .number 1
  others : ∀ key ∉ ownKeys,
    params.lookup key = (refreshVersion view.versions (OpenEBSEventBuilder.init config)).lookup key

theorem lookup_refresh (key : String) : (refreshVersion versions params).lookup key =
    if key = "node_count" then some (.number versions.nodeCount)
    else if key = "node_arch" then some (.text versions.platform)
    else if key = "node_kernel_version" then some (.text versions.nodeKernelVersion)
    else if key = "node_os" then some (.text versions.nodeOs)
    else if key = "engine_installer" then some (.text versions.installerType)
    else if key = "k8s_default_ns_uid" then some (.text versions.uid)
    else if key = "k8s_version" then some (.text versions.k8sVersion) else params.lookup key := by
  simp only [refreshVersion, List.foldl_cons, List.foldl_nil, Dict.lookup_set]

private theorem shows_init : Shows config { versions } (refreshVersion versions (OpenEBSEventBuilder.init config)) := by
  constructor
  case others => exact fun key _ => rfl
  all_goals
    rw [lookup_refresh]
    rfl

theorem Shows.refresh (shown : Shows config before params) :
    Shows config { before with versions } (refreshVersion versions params) := by
  constructor
  case others =>
    intro key own
    rw [lookup_refresh, lookup_refresh, shown.others key own, lookup_refresh]
    split_ifs <;> rfl
  all_goals rw [lookup_refresh]
  · exact shown.claim
  · exact shown.name
  · exact shown.capacity
  · exact shown.replicas

private theorem lookup_claim (key : String) (pvcName : String) : (volumeClaimName pvcName params).lookup key =
    if key = "vol_claim_name" ∧ pvcName.length > 0 then some (.text pvcName) else params.lookup key := by
  unfold volumeClaimName
  by_cases given : pvcName.length > 0
  · simp only [given, if_true, Dict.lookup_set, and_true]
  · simp only [given, if_false, and_false]

theorem Shows.call (shown : Shows config before params) (call : UsageCall) :
    Shows config (before.call call) (prepare config params call) ∧
      (prepare config params call).lookup "event_category" = some (.text (categoryOf call)) := by
  obtain ⟨claim, name, capacity, replicas, others⟩ := shown
  have keep : ∀ key ∉ ownKeys, (prepare config params call).lookup key = params.lookup key := by
    intro key own
    simp only [ownKeys, List.mem_cons, List.not_mem_nil, or_false, not_or] at own
    obtain ⟨one, two, three, four, five⟩ := own
    cases call <;> simp only [prepare, category, volumeName, volumeCapacity, replicaCount, lookup_claim,
      Dict.lookup_set, one, two, three, four, five, if_false, false_and]
  have versions : (before.call call).versions = before.versions := by cases call <;> rfl
  refine ⟨⟨?_, ?_, ?_, ?_, fun key own => by rw [keep key own, others key own, versions]⟩, ?_⟩
  all_goals
    cases call <;> simp [prepare, category, volumeName, volumeCapacity, replicaCount, lookup_claim, Dict.lookup_set,
      View.call, categoryOf, claim, name, capacity, replicas]
  split_ifs <;> simp

private theorem shows_history (history : List UsageRequest) {usage : Usage} (shown : Shows config before usage.params) :
    Shows config (history.foldl View.next before) (history.foldl (serve config) usage).params ∧
      (history.foldl (serve config) usage).clientId = usage.clientId := by
  induction history generalizing before usage with
  | nil => exact ⟨shown, rfl⟩
  | cons request rest ih =>
    cases request with
    | call call => exact @ih _ { usage with params := prepare config usage.params call } (shown.call call).1
    | refresh versions => exact @ih _ { usage with params := refreshVersion versions usage.params } shown.refresh

private theorem sentAfter_shows (config : UsageConfig) (versions : VersionSet) (history : List UsageRequest)
    (call : UsageCall) :
    ∃ event, sentAfter config versions history call = .ok event ∧ event.clientId = versions.uid ∧
      event.name = normalize ("rawfile-localpv-" ++ categoryOf call) ∧
      event.params.lookup "event_category" = some (.text (categoryOf call)) ∧
      Shows config ((view versions history).call call) event.params := by
  obtain ⟨shown, client⟩ := @shows_history config { versions } history (init config versions) shows_init
  unfold sentAfter view
  generalize history.foldl (serve config) (init config versions) = usage at shown client
  obtain ⟨after, category⟩ := shown.call call
  have engine : (prepare config usage.params call).lookup "engine_name" = some (.text "rawfile-localpv") := by
    rw [after.others "engine_name" (by decide), lookup_refresh]
    rfl
  refine ⟨⟨usage.clientId, _, prepare config usage.params call⟩, ?_, client, rfl, category, after⟩
  simp only [serve, send, category, engine]
  rfl

theorem Shows.same_iff {first second : View} {one other : EventParams} (shown : Shows config first one)
    (others : Shows config second other) (current : first.versions = second.versions)
    (category : one.lookup "event_category" = other.lookup "event_category") :
    (∀ key, one.lookup key = other.lookup key) ↔ first.claim = second.claim ∧
      (first.volume.map fun volume => (volume.1, config.naturalsize volume.2)) =
        second.volume.map fun volume => (volume.1, config.naturalsize volume.2) := by
  constructor
  · intro same
    have claim := same "vol_claim_name"
    have name := same "vol_name"
    have capacity := same "vol_capacity"
    rw [shown.claim, others.claim] at claim
    rw [shown.name, others.name] at name
    rw [shown.capacity, others.capacity] at capacity
    refine ⟨Option.map_injective (fun _ _ => ParamValue.text.inj) claim, ?_⟩
    cases left : first.volume <;> cases right : second.volume <;> simp_all
  · rintro ⟨claim, volume⟩ key
    by_cases own : key ∈ ownKeys
    · have parts : ∀ part : String × String → ParamValue,
          (first.volume.map fun volume => part (volume.1, config.naturalsize volume.2)) =
            second.volume.map fun volume => part (volume.1, config.naturalsize volume.2) := by
        intro part
        have mapped := congrArg (Option.map part) volume
        rwa [Option.map_map, Option.map_map] at mapped
      simp only [ownKeys, List.mem_cons, List.not_mem_nil, or_false] at own
      rcases own with rfl | rfl | rfl | rfl | rfl
      · exact category
      · rw [shown.claim, others.claim, claim]
      · rw [shown.name, others.name]
        exact parts fun part => .text part.1
      · rw [shown.capacity, others.capacity]
        exact parts fun part => .text part.2
      · rw [shown.replicas, others.replicas]
        exact parts fun _ => .number 1
    · rw [shown.others key own, others.others key own, current]

private theorem inherited_iff (first second : View) (call : UsageCall) :
    ((first.call call).claim = (second.call call).claim ∧
      ((first.call call).volume.map fun volume => (volume.1, config.naturalsize volume.2)) =
        (second.call call).volume.map fun volume => (volume.1, config.naturalsize volume.2)) ↔
      inherited config first call = inherited config second call := by
  cases call with
  | sendInstall => simp [View.call, inherited]
  | sendPing => simp [View.call, inherited]
  | volumeProvision pvcName name capacity =>
    simp only [View.call, inherited, Prod.mk.injEq, and_true]
    split_ifs <;> simp
  | volumeDeprovision name capacity => simp [View.call, inherited]

private theorem View.call_versions (before : View) (call : UsageCall) : (before.call call).versions = before.versions := by
  cases call <;> rfl

/-- A call sends the same event after two histories with the same current versions
if and only if it inherits the same from them. -/
theorem events_inherit (config : UsageConfig) (versions : VersionSet) (first second : List UsageRequest)
    (call : UsageCall) (current : (view versions first).versions = (view versions second).versions) :
    ∃ one other, sentAfter config versions first call = .ok one ∧ sentAfter config versions second call = .ok other ∧
      (SameEvent one other ↔
        inherited config (view versions first) call = inherited config (view versions second) call) := by
  obtain ⟨one, sent, client, name, category, shown⟩ := sentAfter_shows config versions first call
  obtain ⟨other, sentOther, clientOther, nameOther, categoryOther, shownOther⟩ :=
    sentAfter_shows config versions second call
  refine ⟨one, other, sent, sentOther, ?_⟩
  have same := shown.same_iff shownOther (by rw [View.call_versions, View.call_versions, current])
    (category.trans categoryOther.symm)
  rw [← inherited_iff, ← same]
  refine ⟨fun event => event.2.2, fun params => ⟨client.trans clientOther.symm, name.trans nameOther.symm, params⟩⟩

end

namespace SharedBuilder

def config : UsageConfig := ⟨"0.12.0", fun size => toString size⟩

def versions : VersionSet where
  k8sVersion := "v1.30.0"
  uid := "cluster"
  nodeOs := "linux"
  nodeKernelVersion := "6.1"
  platform := "linux/amd64"
  nodeCount := 3

def provisioned : List UsageRequest := [.call (.volumeProvision "database" "pvc-1" 1024)]

theorem events_inherit_provisioned : ∃ one other,
    sentAfter config versions provisioned (.volumeProvision "logs" "pvc-2" 2048) = .ok one ∧
    sentAfter config versions [] (.volumeProvision "logs" "pvc-2" 2048) = .ok other ∧
    (SameEvent one other ↔ inherited config (view versions provisioned) (.volumeProvision "logs" "pvc-2" 2048) =
      inherited config (view versions []) (.volumeProvision "logs" "pvc-2" 2048)) :=
  events_inherit config versions provisioned [] _ rfl

/-- The event of a deleted volume carries the claim of another one. -/
theorem deprovision_carries_claim : ∃ one other,
    sentAfter config versions provisioned (.volumeDeprovision "pvc-2" 2048) = .ok one ∧
    sentAfter config versions [] (.volumeDeprovision "pvc-2" 2048) = .ok other ∧
    one.params.lookup "vol_claim_name" = some (.text "database") ∧ other.params.lookup "vol_claim_name" = none :=
  ⟨_, _, rfl, rfl, by decide, by decide⟩

end SharedBuilder
end Rawfile.Usage
