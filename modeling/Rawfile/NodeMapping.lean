import Rawfile.Effects.Dict

/-! `orchestrator/k8s.py`: the addresses of the node plugins, kept up to date
from the watch events of their pods and rebuilt from a list of them. -/

namespace Rawfile
open Effects

inductive K8sEventType where
  | added
  | modified
  | deleted
  | bookmark
  deriving DecidableEq

structure PodSpec where
  nodeName : Option String := none
  deriving DecidableEq

structure PodStatus where
  podIP : Option String := none
  phase : Option String := none
  deriving DecidableEq

structure Pod where
  name : String
  spec : Option PodSpec := none
  status : Option PodStatus := none
  deriving DecidableEq

namespace Pod

/-- `pod.spec.nodeName if pod.spec else None`; an empty name is none. -/
def node (pod : Pod) : Option String := (pod.spec.bind PodSpec.nodeName).filter (fun name => name ≠ "")

def ip (pod : Pod) : Option String := (pod.status.bind PodStatus.podIP).filter (fun ip => ip ≠ "")

def running (pod : Pod) : Bool := pod.status.any fun status => status.phase = some "Running"

/-- The node and the address of a running pod that has both. -/
def endpoint (pod : Pod) : Option (String × String) :=
  if pod.running then
    match pod.node, pod.ip with
    | some node, some ip => some (node, ip)
    | _, _ => none
  else none

end Pod

structure WatchEvent where
  op : K8sEventType
  pod : Pod
  deriving DecidableEq

/-- `_pods`, from pod names to nodes and addresses, and `_mapping`, from nodes to addresses. -/
structure NodeIPMapping where
  pods : List (String × String × String) := []
  mapping : List (String × String) := []

namespace NodeIPMapping

def track (state : NodeIPMapping) (op : K8sEventType) (pod : Pod) : NodeIPMapping :=
  match if op = .deleted then none else pod.endpoint with
  | some endpoint => { state with pods := Dict.set pod.name endpoint state.pods }
  | none => { state with pods := Dict.remove pod.name state.pods }

def publish (state : NodeIPMapping) : NodeIPMapping :=
  { state with mapping := Dict.ofPairs (state.pods.map Prod.snd) }

/-- The body of the loop of `watch_daemonset_pods`, up to the pruning of the stubs. -/
def watch (state : NodeIPMapping) (event : WatchEvent) : NodeIPMapping :=
  if event.op = .bookmark then state else (state.track event.op event.pod).publish

/-- `reload_mapping` with the pods of the list. -/
def reload (state : NodeIPMapping) (pods : List Pod) : NodeIPMapping :=
  (pods.foldl (fun state pod => track state .added pod) { state with pods := [] }).publish

def getNodeIp (state : NodeIPMapping) (node : String) : Option String :=
  (state.mapping.lookup node).filter (fun ip => ip ≠ "")

def addresses (state : NodeIPMapping) : List String := state.mapping.map Prod.snd

end NodeIPMapping
end Rawfile
