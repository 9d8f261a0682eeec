import Rawfile.Effects.Dict

/-! The usage events of `analytics/ga4`: one builder whose parameters every call
on a `Usage` sets some of, and the event that is sent of all of them. -/

namespace Rawfile
open Effects

inductive ParamValue where
  | text (value : String)
  | number (value : Int)
  deriving DecidableEq

def ParamValue.format : ParamValue → String
  | .text value => value
  | .number value => toString value

abbrev EventParams := List (String × ParamValue)

structure VersionSet where
  k8sVersion : String
  uid : String
  installerType : String := "rawfile-localpv-helm"
  nodeOs : String
  nodeKernelVersion : String
  platform : String
  nodeCount : Int
  deriving DecidableEq

/-- `consts.PROVISIONER_VERSION` and `humanize.naturalsize`. -/
structure UsageConfig where
  provisionerVersion : String
  naturalsize : Int → String

namespace OpenEBSEventBuilder

variable (config : UsageConfig)

def init : EventParams :=
  Dict.ofPairs [("project", .text "OpenEBS"), ("engine_name", .text "rawfile-localpv"),
    ("engine_version", .text ("rawfile-v" ++ config.provisionerVersion))]

def category (value : String) (params : EventParams) : EventParams := Dict.set "event_category" (.text value) params

def volumeName (value : String) (params : EventParams) : EventParams := Dict.set "vol_name" (.text value) params

def volumeClaimName (value : String) (params : EventParams) : EventParams :=
  if value.length > 0 then Dict.set "vol_claim_name" (.text value) params else params

def volumeCapacity (value : Int) (params : EventParams) : EventParams :=
  Dict.set "vol_capacity" (.text (config.naturalsize value)) params

def replicaCount (value : Int) (params : EventParams) : EventParams :=
  Dict.set "vol_replica_count" (.number value) params

def refreshVersion (versions : VersionSet) (params : EventParams) : EventParams :=
  let fields : EventParams := [("k8s_version", .text versions.k8sVersion),
    ("k8s_default_ns_uid", .text versions.uid),
    ("engine_installer", .text versions.installerType), ("node_os", .text versions.nodeOs),
    ("node_kernel_version", .text versions.nodeKernelVersion), ("node_arch", .text versions.platform),
    ("node_count", .number versions.nodeCount)]
  fields.foldl (fun params pair => Dict.set pair.1 pair.2 params) params

end OpenEBSEventBuilder

structure SentEvent where
  clientId : String
  name : String
  params : EventParams

structure Usage where
  clientId : String
  params : EventParams

inductive UsageCall where
  | sendInstall
  | sendPing
  | volumeProvision (pvcName name : String) (capacity : Int)
  | volumeDeprovision (name : String) (capacity : Int)

/-- What is called on one object: these, and `refresh` with the versions it finds. -/
inductive UsageRequest where
  | call (call : UsageCall)
  | refresh (versions : VersionSet)

namespace Usage
open OpenEBSEventBuilder

variable (config : UsageConfig)

def init (versions : VersionSet) : Usage :=
  ⟨versions.uid, refreshVersion versions (OpenEBSEventBuilder.init config)⟩

def prepare (params : EventParams) : UsageCall → EventParams
  | .sendInstall => category "install" params
  | .sendPing => category "rawfile-ping" params
  | .volumeProvision pvcName name capacity =>
    volumeName name (volumeClaimName pvcName (replicaCount 1 (volumeCapacity config capacity
      (category "volume-provision" params))))
  | .volumeDeprovision name capacity =>
    volumeName name (replicaCount 1 (volumeCapacity config capacity (category "volume-deprovision" params)))

def normalize (name : String) : String := name.map fun c => if c = '-' then '_' else c

def send (usage : Usage) : Except EventParams SentEvent :=
  match usage.params.lookup "event_category", usage.params.lookup "engine_name" with
  | some category, some engineName =>
    .ok ⟨usage.clientId, normalize (engineName.format ++ "-" ++ category.format), usage.params⟩
  | _, _ => .error usage.params

def serve (usage : Usage) : UsageRequest → Usage
  | .call call => { usage with params := prepare config usage.params call }
  | .refresh versions => { usage with params := refreshVersion versions usage.params }

def sentAfter (versions : VersionSet) (history : List UsageRequest) (call : UsageCall) : Except EventParams SentEvent :=
  send ((history.foldl (serve config) (init config versions)).serve config (.call call))

end Usage
end Rawfile
