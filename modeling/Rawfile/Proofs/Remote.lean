import Rawfile.Proofs.Text
import Rawfile.Remote

/-! The caches against the mapping. A target gives back the address it was built
from, so the pruning after an event leaves exactly the targets of mapped
addresses. A new list changes the mapping and prunes nothing. -/

namespace Rawfile.Remote
open Effects

section
variable {config : RemoteConfig} {address target : String} {aio : Bool}

private theorem rpartition_colon (front : String) {back : String} (plain : ':' ∉ back.toList) :
    rpartition (front ++ ":" ++ back) = (front, back) := by
  have backwards : (front ++ ":" ++ back).toList.reverse = back.toList.reverse ++ ':' :: front.toList.reverse := by
    simp
  have inside : ∀ letter ∈ back.toList.reverse, decide (letter ≠ ':') = true := by
    intro letter member
    refine decide_eq_true fun colon => plain ?_
    rw [← colon]
    exact List.mem_reverse.mp member
  unfold rpartition
  simp only [backwards]
  rw [List.dropWhile_append_of_pos inside, List.takeWhile_append_of_pos inside]
  simp

private theorem unbracket_brackets (address : String) : unbracket ("[" ++ address ++ "]") = address := by
  have letters : ("[" ++ address ++ "]").toList = '[' :: (address.toList ++ [']']) := by simp
  have last : ('[' :: (address.toList ++ [']'])).getLast? = some ']' := by
    rw [← List.cons_append, List.getLast?_append]
    simp
  unfold unbracket
  rw [letters, if_pos ⟨rfl, last⟩, List.drop_one, List.tail_cons, List.dropLast_concat, String.ofList_toList]

private theorem port_plain (port : Nat) : ':' ∉ (toString port).toList := by
  rw [Nat.toString_eq_ofList_toDigits, String.toList_ofList]
  intro colon
  cases digits_all port ':' colon

/-- A target gives back the address and the port it was built from. -/
theorem extract_build (built : buildRemoteHostport config address = some target) :
    extractRemoteHostport config target = some (address, (config.internalPort : Int)) := by
  have plain := port_plain config.internalPort
  have number : intOf (toString config.internalPort) = some (config.internalPort : Int) :=
    intOf_toString (Int.ofNat config.internalPort)
  unfold buildRemoteHostport at built
  split at built
  · cases built
  next version =>
    cases built
    have same : unbracket address = address := if_neg fun both => config.ipAddress.plain address version both.1
    simp only [extractRemoteHostport, rpartition_colon _ plain, same, version, number]
    rfl
  next version =>
    cases built
    simp only [extractRemoteHostport, rpartition_colon _ plain, unbracket_brackets, version, number]
    rfl

/-- The target of an accepted address gives back that address with the port, and
no other address has the same target. -/
theorem hostport_round_trip (config : RemoteConfig) (address : String)
    (accepted : config.ipAddress.version address ≠ none) :
    ∃ target, buildRemoteHostport config address = some target ∧
      extractRemoteHostport config target = some (address, (config.internalPort : Int)) ∧
      ∀ other, buildRemoteHostport config other = some target → other = address := by
  have built : ∃ target, buildRemoteHostport config address = some target := by
    unfold buildRemoteHostport
    cases version : config.ipAddress.version address with
    | none => exact absurd version accepted
    | some family => cases family <;> exact ⟨_, rfl⟩
  obtain ⟨target, built⟩ := built
  have extracted := extract_build built
  refine ⟨target, built, extracted, fun other same => ?_⟩
  have again := (extract_build same).symm.trans extracted
  cases again
  rfl

namespace LoopbackPod

def loopback : RemoteConfig where
  ipAddress :=
    { version := fun text => if text = "::1" then some .v6 else none
      plain := by
        intro text known
        split at known <;> cases known }
  internalPort := 5000

theorem hostport_round_trip_loopback : buildRemoteHostport loopback "::1" = some "[::1]:5000" ∧
    ∃ target, buildRemoteHostport loopback "::1" = some target ∧
      extractRemoteHostport loopback target = some ("::1", 5000) ∧
      ∀ other, buildRemoteHostport loopback other = some target → other = "::1" :=
  ⟨by decide, hostport_round_trip loopback "::1" (by decide)⟩

end LoopbackPod

namespace StubCache

variable {cache : StubCache} {nodeIps targets : List String}

def stale (config : RemoteConfig) (nodeIps : List String) (target : String) : Bool :=
  !(extractRemoteHostport config target).any fun found => found.1 ∈ nodeIps

theorem stale_build (built : buildRemoteHostport config address = some target) :
    stale config nodeIps target = false ↔ address ∈ nodeIps := by
  simp [stale, extract_build built]

/-- The tables of each kind have the same keys, all of them targets of addresses. -/
structure Sound (config : RemoteConfig) (cache : StubCache) : Prop where
  aligned : ∀ aio, (cache.channelsOf aio).map Prod.fst = (cache.stubsOf aio).map Prod.fst
  built : ∀ aio, ∀ target ∈ (cache.channelsOf aio).map Prod.fst,
    ∃ address, buildRemoteHostport config address = some target

private theorem pruneTargets_built {evict : StubCache → String → StubCache}
    (built : ∀ target ∈ targets, ∃ address, buildRemoteHostport config address = some target) :
    pruneTargets config nodeIps evict targets cache =
      ((targets.filter (stale config nodeIps)).foldl evict cache, true) := by
  induction targets generalizing cache with
  | nil => rfl
  | cons target rest ih =>
    obtain ⟨address, named⟩ := built target (List.mem_cons_self ..)
    have later := fun other member => built other (List.mem_cons_of_mem target member)
    simp only [pruneTargets, extract_build named]
    by_cases mapped : address ∈ nodeIps
    · have fresh : stale config nodeIps target = false := (stale_build named).mpr mapped
      simp only [mapped, if_true, List.filter_cons, fresh, Bool.false_eq_true, if_false]
      exact ih later
    · have gone : stale config nodeIps target = true := by
        rw [← Bool.not_eq_false, stale_build named]
        exact mapped
      simp only [mapped, if_false, List.filter_cons, gone, if_true, List.foldl_cons]
      exact ih later

private theorem remove_filter {α : Type} (target : String) (rest : List String) (fields : List (String × α)) :
    (Dict.remove target fields).filter (fun field => field.1 ∉ rest) =
      fields.filter fun field => field.1 ∉ target :: rest := by
  unfold Dict.remove
  rw [List.filter_filter]
  refine List.filter_congr fun field _ => ?_
  simp [Bool.and_comm]

private theorem filter_none {α : Type} (fields : List (String × α)) :
    fields.filter (fun field => field.1 ∉ ([] : List String)) = fields :=
  List.filter_eq_self.mpr (by simp)

private theorem foldl_evictAsync : (targets.foldl evictAsync cache) = { cache with
    asyncChannels := cache.asyncChannels.filter fun field => field.1 ∉ targets
    asyncStubs := cache.asyncStubs.filter fun field => field.1 ∉ targets
    asyncChannelLoops := cache.asyncChannelLoops.filter fun field => field.1 ∉ targets } := by
  induction targets generalizing cache with
  | nil => simp only [List.foldl_nil, filter_none]
  | cons target rest ih =>
    rw [List.foldl_cons, ih]
    simp only [evictAsync, remove_filter]

private theorem foldl_evictSync : (targets.foldl evictSync cache) = { cache with
    channels := cache.channels.filter fun field => field.1 ∉ targets
    stubs := cache.stubs.filter fun field => field.1 ∉ targets } := by
  induction targets generalizing cache with
  | nil => simp only [List.foldl_nil, filter_none]
  | cons target rest ih =>
    rw [List.foldl_cons, ih]
    simp only [evictSync, remove_filter]

private theorem filter_stale {α : Type} {fields : List (String × α)} (keys : List String)
    (known : ∀ field ∈ fields, field.1 ∈ keys) :
    fields.filter (fun field => field.1 ∉ keys.filter (stale config nodeIps)) =
      fields.filter fun field => !stale config nodeIps field.1 := by
  refine List.filter_congr fun field member => ?_
  simp [known field member]

theorem Sound.prune (sound : Sound config cache) (aio : Bool) :
    ((cache.pruneStaleStubs config nodeIps).channelsOf aio = (cache.channelsOf aio).filter
      fun field => !stale config nodeIps field.1) ∧
    ((cache.pruneStaleStubs config nodeIps).stubsOf aio = (cache.stubsOf aio).filter
      fun field => !stale config nodeIps field.1) := by
  have keys : ∀ {fields : List (String × Nat)}, ∀ field ∈ fields, field.1 ∈ fields.map Prod.fst :=
    fun field member => List.mem_map.mpr ⟨field, member, rfl⟩
  have asyncKeys : ∀ field ∈ cache.asyncStubs, field.1 ∈ cache.asyncChannels.map Prod.fst := by
    intro field member
    rw [show cache.asyncChannels.map Prod.fst = cache.asyncStubs.map Prod.fst from sound.aligned true]
    exact keys field member
  have syncKeys : ∀ field ∈ cache.stubs, field.1 ∈ cache.channels.map Prod.fst := by
    intro field member
    rw [show cache.channels.map Prod.fst = cache.stubs.map Prod.fst from sound.aligned false]
    exact keys field member
  have pruned : cache.pruneStaleStubs config nodeIps =
      ((cache.channels.map Prod.fst).filter (stale config nodeIps)).foldl evictSync
        (((cache.asyncChannels.map Prod.fst).filter (stale config nodeIps)).foldl evictAsync cache) := by
    have first := @pruneTargets_built config cache nodeIps (cache.asyncChannels.map Prod.fst) evictAsync
      (sound.built true)
    have second := fun other => @pruneTargets_built config other nodeIps (cache.channels.map Prod.fst) evictSync
      (sound.built false)
    simp only [pruneStaleStubs, first, foldl_evictAsync, second]
  rw [pruned, foldl_evictSync, foldl_evictAsync]
  cases aio with
  | false => exact ⟨filter_stale _ keys, filter_stale _ syncKeys⟩
  | true => exact ⟨filter_stale _ keys, filter_stale _ asyncKeys⟩

private theorem map_filter_keys {α β : Type} {first : List (String × α)} {second : List (String × β)}
    (aligned : first.map Prod.fst = second.map Prod.fst) (keep : String → Bool) :
    (first.filter fun field => keep field.1).map Prod.fst = (second.filter fun field => keep field.1).map Prod.fst := by
  have keys : ∀ {γ : Type} (fields : List (String × γ)),
      (fields.filter fun field => keep field.1).map Prod.fst = (fields.map Prod.fst).filter keep := by
    intro γ fields
    rw [List.filter_map]
    rfl
  rw [keys, keys, aligned]

theorem Sound.pruned (sound : Sound config cache) : Sound config (cache.pruneStaleStubs config nodeIps) := by
  refine ⟨fun aio => ?_, fun aio target member => ?_⟩
  · rw [(sound.prune aio).1, (sound.prune aio).2]
    exact map_filter_keys (sound.aligned aio) fun target => !stale config nodeIps target
  · rw [(sound.prune aio).1] at member
    exact sound.built aio target ((List.filter_sublist.map Prod.fst).subset member)

private theorem getStub_cached {loop : Option Nat} {stub : Nat} (built : buildRemoteHostport config address = some target)
    (cached : (cache.stubsOf aio).lookup target = some stub) :
    cache.getInternalGrpcStub config address aio loop = (some stub, cache) := by
  cases aio <;> simp only [stubsOf, Bool.false_eq_true, if_false, if_true] at cached <;>
    simp [getInternalGrpcStub, built, cached]

/-- A call for a stub changes nothing, or adds a channel and a stub for its target to one kind. -/
theorem getStub_cases (cache : StubCache) (address : String) (aio : Bool) (loop : Option Nat) :
    (cache.getInternalGrpcStub config address aio loop).2 = cache ∨
    ∃ target, buildRemoteHostport config address = some target ∧ (cache.stubsOf aio).lookup target = none ∧
      ∀ kind, ((cache.getInternalGrpcStub config address aio loop).2.channelsOf kind =
          if kind = aio then Dict.set target cache.next (cache.channelsOf aio) else cache.channelsOf kind) ∧
        ((cache.getInternalGrpcStub config address aio loop).2.stubsOf kind =
          if kind = aio then Dict.set target (cache.next + 1) (cache.stubsOf aio) else cache.stubsOf kind) := by
  cases built : buildRemoteHostport config address with
  | none => exact .inl (by simp [getInternalGrpcStub, built])
  | some target =>
    cases cached : (cache.stubsOf aio).lookup target with
    | some stub => exact .inl (by rw [getStub_cached built cached])
    | none =>
      refine .inr ⟨target, rfl, cached, fun kind => ?_⟩
      cases aio <;> simp only [stubsOf, Bool.false_eq_true, if_false, if_true] at cached <;> cases kind <;>
        simp [getInternalGrpcStub, built, cached, channelsOf, stubsOf]

theorem Sound.getStub (sound : Sound config cache) (address : String) (aio : Bool) (loop : Option Nat) :
    Sound config (cache.getInternalGrpcStub config address aio loop).2 := by
  rcases getStub_cases cache address aio loop with same | ⟨target, built, missing, tables⟩
  · rw [same]
    exact sound
  · have unknown : target ∉ (cache.stubsOf aio).map Prod.fst := by
      rw [← Dict.lookup_isSome, missing]
      exact nofun
    have absent : target ∉ (cache.channelsOf aio).map Prod.fst := by
      rw [sound.aligned]
      exact unknown
    refine ⟨fun kind => ?_, fun kind other member => ?_⟩
    · rw [(tables kind).1, (tables kind).2]
      split
      · rw [Dict.set_fresh absent, Dict.set_fresh unknown, List.map_append, List.map_append, sound.aligned]
        rfl
      · exact sound.aligned kind
    · rw [(tables kind).1] at member
      split at member
      · rcases Dict.mem_keys_set.mp member with rfl | before
        · exact ⟨address, built⟩
        · exact sound.built aio other before
      · exact sound.built kind other member

end StubCache

namespace Connections

variable {now : Connections} {request : Request}

def fair (now : Connections) : Request → Bool
  | .getStub address _ _ => address ∈ now.mapping.addresses
  | _ => true

def keeps (config : RemoteConfig) (now : Connections) : Request → Prop
  | .relist pods => ∀ aio address target, buildRemoteHostport config address = some target →
      target ∈ (now.cache.channelsOf aio).map Prod.fst → address ∈ (now.mapping.reload pods).addresses
  | _ => True

def Always (config : RemoteConfig) (condition : Connections → Request → Prop) : List Request → Connections → Prop
  | [], _ => True
  | request :: rest, now => condition now request ∧ Always config condition rest (now.serve config request)

/-- No channel and no stub is cached for an address that is not mapped. -/
def Current (config : RemoteConfig) (now : Connections) : Prop :=
  ∀ aio target, target ∈ (now.cache.channelsOf aio).map Prod.fst ∨ target ∈ (now.cache.stubsOf aio).map Prod.fst →
    ∃ address ∈ now.mapping.addresses, buildRemoteHostport config address = some target

theorem sound_serve (sound : now.cache.Sound config) : (now.serve config request).cache.Sound config := by
  cases request with
  | getStub address aio loop => exact sound.getStub address aio loop
  | event event =>
    simp only [serve]
    split
    · exact sound
    · exact sound.pruned
  | relist pods => exact sound

private theorem sound_serveAll (requests : List Request) {start : Connections} (sound : start.cache.Sound config) :
    (requests.foldl (serve config) start).cache.Sound config := by
  induction requests generalizing start with
  | nil => exact sound
  | cons request rest ih => exact ih (sound_serve sound)

private theorem sound_initial : ({} : Connections).cache.Sound config := by
  refine ⟨fun aio => ?_, fun aio target member => ?_⟩
  · cases aio <;> rfl
  · cases aio <;> cases member

theorem stub_kept (sound : now.cache.Sound config) {stub : Nat}
    (built : buildRemoteHostport config address = some target)
    (cached : (now.cache.stubsOf aio).lookup target = some stub)
    (mapped : address ∈ (now.serve config request).mapping.addresses) :
    ((now.serve config request).cache.stubsOf aio).lookup target = some stub := by
  cases request with
  | relist pods => exact cached
  | event event =>
    simp only [serve] at mapped ⊢
    split at mapped
    next skipped => simpa [skipped] using cached
    next handled =>
      simp only [handled, if_false, (sound.prune aio).2]
      have fresh : StubCache.stale config (now.mapping.watch event).addresses target = false :=
        (StubCache.stale_build built).mpr mapped
      obtain ⟨front, back, split, others⟩ := List.lookup_eq_some_iff.mp cached
      rw [split, List.filter_append, List.filter_cons_of_pos (by simp [fresh])]
      exact List.lookup_eq_some_iff.mpr ⟨_, _, rfl, fun field member =>
        others field (List.mem_filter.mp member).1⟩
  | getStub other kind loop =>
    rcases StubCache.getStub_cases now.cache other kind loop with same | ⟨fresh, named, missing, tables⟩
    · rw [serve, same]
      exact cached
    · simp only [serve, (tables aio).2]
      split
      next alike =>
        subst alike
        rw [Dict.lookup_set, if_neg]
        · exact cached
        · rintro rfl
          rw [cached] at missing
          cases missing
      next => exact cached

theorem current_serve (sound : now.cache.Sound config) (current : Current config now) (fair : now.fair request = true)
    (keeps : now.keeps config request) : Current config (now.serve config request) := by
  have after : (now.serve config request).cache.Sound config := sound_serve sound
  have channels : (∀ aio target, target ∈ ((now.serve config request).cache.channelsOf aio).map Prod.fst →
      ∃ address ∈ (now.serve config request).mapping.addresses, buildRemoteHostport config address = some target) →
      Current config (now.serve config request) := by
    intro known aio target cached
    rw [← after.aligned, or_self] at cached
    exact known aio target cached
  refine channels fun aio target member => ?_
  cases request with
  | relist pods =>
    obtain ⟨address, -, built⟩ := current aio target (.inl member)
    exact ⟨address, keeps aio address target built member, built⟩
  | event event =>
    simp only [serve] at member ⊢
    split at member
    next skipped => simpa [skipped] using current aio target (.inl member)
    next handled =>
      rw [(sound.prune aio).1] at member
      obtain ⟨field, kept, rfl⟩ := List.mem_map.mp member
      obtain ⟨address, built⟩ := sound.built aio field.1 (List.mem_map.mpr ⟨field, (List.mem_filter.mp kept).1, rfl⟩)
      have fresh := (List.mem_filter.mp kept).2
      simp only [Bool.not_eq_true'] at fresh
      simp only [handled, if_false]
      exact ⟨address, (StubCache.stale_build built).mp fresh, built⟩
  | getStub address kind loop =>
    rcases StubCache.getStub_cases now.cache address kind loop with same | ⟨fresh, built, -, tables⟩
    · rw [serve, same] at member
      exact current aio target (.inl member)
    · simp only [serve, (tables aio).1] at member
      split at member
      · rcases Dict.mem_keys_set.mp member with rfl | before
        · exact ⟨address, of_decide_eq_true fair, built⟩
        · exact current kind target (.inl before)
      · exact current aio target (.inl member)

/-- What is cached after a new list is mapped only if the list dropped nothing that is cached. -/
theorem keeps_of_current (current : Current config (now.serve config request)) : now.keeps config request := by
  cases request with
  | getStub => trivial
  | event => trivial
  | relist pods =>
    intro aio address target built member
    obtain ⟨other, mapped, named⟩ := current aio target (.inl member)
    cases (extract_build built).symm.trans (extract_build named)
    exact mapped

private theorem current_all (requests : List Request) {start : Connections} (sound : start.cache.Sound config)
    (current : Current config start) (fair : Always config (fun now request => now.fair request = true) requests start) :
    (∀ prior, prior <+: requests → Current config (prior.foldl (serve config) start)) ↔
      Always config (keeps config) requests start := by
  induction requests generalizing start with
  | nil =>
    refine iff_of_true (fun prior among => ?_) trivial
    rw [List.prefix_nil.mp among]
    exact current
  | cons request rest ih =>
    have tail : ∀ next : Current config (start.serve config request), _ := fun next => ih (sound_serve sound) next fair.2
    constructor
    · intro always
      have next : Current config (start.serve config request) := always [request] (by simp)
      refine ⟨keeps_of_current next, (tail next).mp fun prior among => ?_⟩
      exact always (request :: prior) (List.cons_prefix_cons.mpr ⟨rfl, among⟩)
    · rintro ⟨keeps, later⟩ prior among
      cases prior with
      | nil => exact current
      | cons first others =>
        obtain ⟨rfl, inside⟩ := List.cons_prefix_cons.mp among
        exact (tail (current_serve sound current fair.1 keeps)).mpr later others inside

end Connections

/-- Whatever stubs are asked for, events come and lists are made: the tables of
each kind have the same keys, a cached stub of an address that is mapped stays
and is returned again, and nothing is ever cached for an address that is not
mapped if and only if no new list drops an address with a channel. -/
theorem stub_cache_tracks (config : RemoteConfig) (requests : List Request)
    (fair : Connections.Always config (fun now request => now.fair request = true) requests {}) :
    (∀ aio, ((Connections.serveAll config requests).cache.channelsOf aio).map Prod.fst =
      ((Connections.serveAll config requests).cache.stubsOf aio).map Prod.fst) ∧
    (∀ request address aio target stub, buildRemoteHostport config address = some target →
      ((Connections.serveAll config requests).cache.stubsOf aio).lookup target = some stub →
      address ∈ ((Connections.serveAll config requests).serve config request).mapping.addresses → ∀ loop,
        StubCache.getInternalGrpcStub config address aio loop
          ((Connections.serveAll config requests).serve config request).cache =
        (some stub, ((Connections.serveAll config requests).serve config request).cache)) ∧
    ((∀ prior, prior <+: requests → Connections.Current config (Connections.serveAll config prior)) ↔
      Connections.Always config (Connections.keeps config) requests {}) := by
  have sound := Connections.sound_serveAll requests (@Connections.sound_initial config)
  have initial : Connections.Current config {} := by
    intro aio target cached
    cases aio <;> rcases cached with cached | cached <;> cases cached
  refine ⟨sound.aligned, ?_, Connections.current_all requests Connections.sound_initial initial fair⟩
  intro request address aio target stub built cached mapped loop
  exact StubCache.getStub_cached built (Connections.stub_kept sound built cached mapped)

end

namespace MovedPod

def oneAddress : RemoteConfig where
  ipAddress :=
    { version := fun text => if text = "10.0.0.1" then some .v4 else none
      plain := by
        intro text known
        split at known
        next same =>
          rw [same]
          decide
        next => cases known }
  internalPort := 5000

def pod : Pod where
  name := "plugin"
  spec := some { nodeName := some "node" }
  status := some { podIP := some "10.0.0.1", phase := some "Running" }

def watched : List Request := [.relist [pod], .getStub "10.0.0.1" false none, .event ⟨.deleted, pod⟩]

theorem stub_cache_tracks_watched :
    Connections.Always oneAddress (fun now request => now.fair request = true) watched {} ∧
    ((∀ prior, prior <+: watched → Connections.Current oneAddress (Connections.serveAll oneAddress prior)) ↔
      Connections.Always oneAddress (Connections.keeps oneAddress) watched {}) :=
  have fair : Connections.Always oneAddress (fun now request => now.fair request = true) watched {} :=
    ⟨rfl, by decide +kernel, rfl, trivial⟩
  ⟨fair, (stub_cache_tracks oneAddress watched fair).2.2⟩

/-- The same pod goes away while nobody watches: its channel outlives the new list. -/
theorem channel_outlives_pod : let requests := [.relist [pod], .getStub "10.0.0.1" false none, .relist []]
    Connections.Always oneAddress (fun now request => now.fair request = true) requests {} ∧
    (Connections.serveAll oneAddress requests).mapping.addresses = [] ∧
    (Connections.serveAll oneAddress requests).cache.channels = [("10.0.0.1:5000", 0)] :=
  ⟨⟨rfl, by decide +kernel, rfl, trivial⟩, by decide +kernel, by decide +kernel⟩

end MovedPod
end Rawfile.Remote
