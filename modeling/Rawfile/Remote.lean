import Rawfile.Net
import Rawfile.NodeMapping

/-! `utils/remote.py`: the channels and stubs to the node plugins, one table for
each kind, and how the watcher of the pods prunes them. Channels, stubs and
event loops are numbers; a new one is always a new number. -/

namespace Rawfile
open Effects

/-- `ipaddress.ip_address`, with none for a text that is no address. Only the
bracketed form of an IPv6 address begins with a bracket. -/
structure IpAddress where
  version : String → Option IpVersion
  plain : ∀ text, version text = some .v4 → text.toList.head? ≠ some '['

structure RemoteConfig where
  ipAddress : IpAddress
  internalPort : Nat

namespace Remote

def buildRemoteHostport (config : RemoteConfig) (address : String) : Option String :=
  match config.ipAddress.version address with
  | none => none
  | some .v4 => some (address ++ ":" ++ toString config.internalPort)
  | some .v6 => some ("[" ++ address ++ "]" ++ ":" ++ toString config.internalPort)

/-- `hostport.rpartition(":")` without the colon. -/
def rpartition (text : String) : String × String :=
  let backwards := text.toList.reverse
  match backwards.dropWhile (· ≠ ':') with
  | [] => ("", text)
  | _ :: front => (String.ofList front.reverse, String.ofList (backwards.takeWhile (· ≠ ':')).reverse)

def unbracket (address : String) : String :=
  if address.toList.head? = some '[' ∧ address.toList.getLast? = some ']' then
    String.ofList (address.toList.drop 1).dropLast
  else address

/-- The address and the port of a target, or none when one of them is none. -/
def extractRemoteHostport (config : RemoteConfig) (hostport : String) : Option (String × Int) :=
  let (address, port) := rpartition hostport
  if (config.ipAddress.version (unbracket address)).isSome then
    (intOf port).map fun number => (unbracket address, number)
  else none

structure StubCache where
  channels : List (String × Nat) := []
  stubs : List (String × Nat) := []
  asyncChannels : List (String × Nat) := []
  asyncStubs : List (String × Nat) := []
  asyncChannelLoops : List (String × Nat) := []
  next : Nat := 0

namespace StubCache

def stubsOf (cache : StubCache) (aio : Bool) : List (String × Nat) := if aio then cache.asyncStubs else cache.stubs

def channelsOf (cache : StubCache) (aio : Bool) : List (String × Nat) :=
  if aio then cache.asyncChannels else cache.channels

def evictAsync (cache : StubCache) (target : String) : StubCache :=
  { cache with
    asyncChannels := Dict.remove target cache.asyncChannels
    asyncStubs := Dict.remove target cache.asyncStubs
    asyncChannelLoops := Dict.remove target cache.asyncChannelLoops }

def evictSync (cache : StubCache) (target : String) : StubCache :=
  { cache with channels := Dict.remove target cache.channels, stubs := Dict.remove target cache.stubs }

/-- One of the two loops of `prune_stale_stubs`. A target that names no address ends it. -/
def pruneTargets (config : RemoteConfig) (nodeIps : List String) (evict : StubCache → String → StubCache) :
    List String → StubCache → StubCache × Bool
  | [], cache => (cache, true)
  | target :: rest, cache =>
    match extractRemoteHostport config target with
    | none => (cache, false)
    | some (ip, _) =>
      if ip ∈ nodeIps then pruneTargets config nodeIps evict rest cache
      else pruneTargets config nodeIps evict rest (evict cache target)

def pruneStaleStubs (config : RemoteConfig) (nodeIps : List String) (cache : StubCache) : StubCache :=
  match pruneTargets config nodeIps evictAsync (cache.asyncChannels.map Prod.fst) cache with
  | (pruned, false) => pruned
  | (pruned, true) => (pruneTargets config nodeIps evictSync (pruned.channels.map Prod.fst) pruned).1

/-- The stub for an address, or none when `ip_address` raises. -/
def getInternalGrpcStub (config : RemoteConfig) (address : String) (aio : Bool) (loop : Option Nat)
    (cache : StubCache) : Option Nat × StubCache :=
  match buildRemoteHostport config address with
  | none => (none, cache)
  | some target =>
    if aio then
      match cache.asyncStubs.lookup target with
      | some stub => (some stub, cache)
      | none =>
        (some (cache.next + 1), { cache with
          asyncChannels := Dict.set target cache.next cache.asyncChannels
          asyncStubs := Dict.set target (cache.next + 1) cache.asyncStubs
          asyncChannelLoops := match loop with
            | some running => Dict.set target running cache.asyncChannelLoops
            | none => cache.asyncChannelLoops
          next := cache.next + 2 })
    else
      match cache.stubs.lookup target with
      | some stub => (some stub, cache)
      | none =>
        (some (cache.next + 1), { cache with
          channels := Dict.set target cache.next cache.channels
          stubs := Dict.set target (cache.next + 1) cache.stubs
          next := cache.next + 2 })

end StubCache

structure Connections where
  mapping : NodeIPMapping := {}
  cache : StubCache := {}

/-- A call for a stub in the context of an event loop or outside of one, an
event of the watch, or a new list of the pods. -/
inductive Request where
  | getStub (address : String) (aio : Bool) (loop : Option Nat)
  | event (event : WatchEvent)
  | relist (pods : List Pod)

namespace Connections

def serve (config : RemoteConfig) (now : Connections) : Request → Connections
  | .getStub address aio loop => { now with cache := (now.cache.getInternalGrpcStub config address aio loop).2 }
  | .event event =>
    if event.op = .bookmark then now
    else
      let mapping := now.mapping.watch event
      { mapping, cache := now.cache.pruneStaleStubs config mapping.addresses }
  | .relist pods => { now with mapping := now.mapping.reload pods }

def serveAll (config : RemoteConfig) (requests : List Request) : Connections :=
  requests.foldl (serve config) {}

end Connections
end Remote
end Rawfile
