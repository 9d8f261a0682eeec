import Mathlib.Data.List.Dedup
import Mathlib.Data.List.Pairwise
import Rawfile.NodeMapping

/-! The published addresses against the history of the pods: which pods run on a
node now, and which of them came last. A list of the pods has lost the second
part. -/

namespace Rawfile
open Effects

namespace WatchEvent

def about (event : WatchEvent) (name : String) : Bool := event.op ≠ .bookmark && event.pod.name = name

/-- Where the pod of the event runs: it is not deleted, its phase is `Running`, and it has a node and an address. -/
def endpoint (event : WatchEvent) : Option (String × String) :=
  match event.op, event.pod.spec, event.pod.status with
  | .deleted, _, _ => none
  | _, some ⟨some node⟩, some ⟨some ip, some phase⟩ =>
    if phase = "Running" ∧ node ≠ "" ∧ ip ≠ "" then some (node, ip) else none
  | _, _, _ => none

private theorem tracked_endpoint (event : WatchEvent) :
    (if event.op = .deleted then none else event.pod.endpoint) = event.endpoint := by
  obtain ⟨op, name, spec, status⟩ := event
  by_cases gone : op = .deleted
  · simp [endpoint, gone]
  · rcases spec with _ | ⟨_ | node⟩ <;> rcases status with _ | ⟨_ | ip, _ | phase⟩ <;>
      simp [endpoint, gone, Pod.endpoint, Pod.running, Pod.node, Pod.ip]
    by_cases named : node = "" <;> by_cases addressed : ip = "" <;> simp [Option.filter, named, addressed]

end WatchEvent

namespace NodeIPMapping

def after : List WatchEvent → NodeIPMapping
  | [] => {}
  | event :: earlier => (after earlier).watch event

/-- Where the pod runs by the last event that is about it. -/
def holding (name : String) : List WatchEvent → Option (String × String)
  | [] => none
  | event :: earlier => if event.about name then event.endpoint else holding name earlier

/-- How many events came before the last one that found the pod not running:
for a running pod, before the one it was last tracked anew with. -/
def entry (name : String) : List WatchEvent → Nat
  | [] => 0
  | event :: earlier =>
    if event.about name && (holding name earlier).isNone then earlier.length else entry name earlier

/-- Of the pods that run on the node, the one that was tracked anew last. -/
def Newest (seen : List WatchEvent) (node name : String) : Prop :=
  (∃ ip, holding name seen = some (node, ip)) ∧
    ∀ other ip, holding other seen = some (node, ip) → entry other seen ≤ entry name seen

section
variable {seen : List WatchEvent} {event : WatchEvent} {name node ip : String}

theorem holding_other (other : event.about name = false) : holding name (event :: seen) = holding name seen := by
  simp [holding, other]

theorem entry_other (other : event.about name = false) : entry name (event :: seen) = entry name seen := by
  simp [entry, other]

private theorem entry_lt (held : holding name seen ≠ none) : entry name seen < seen.length := by
  induction seen with
  | nil => exact absurd rfl held
  | cons event earlier ih =>
    simp only [entry, List.length_cons]
    split
    next => omega
    next kept =>
      have before : holding name earlier ≠ none := by
        intro none
        simp only [none, Option.isNone_none, Bool.and_true] at kept
        rw [holding_other (by simpa using kept)] at held
        exact held none
      have := ih before
      omega

/-- The pods that run, in the order in which they were tracked anew. -/
structure Follows (seen : List WatchEvent) (state : NodeIPMapping) : Prop where
  nodup : (state.pods.map Prod.fst).Nodup
  tracked : ∀ name, state.pods.lookup name = holding name seen
  ordered : (state.pods.map Prod.fst).Pairwise fun older newer => entry older seen < entry newer seen
  published : state.mapping = Dict.ofPairs (state.pods.map Prod.snd)

namespace Follows

variable {state : NodeIPMapping}

section
variable (follows : Follows seen state)
include follows

theorem held : name ∈ state.pods.map Prod.fst ↔ holding name seen ≠ none := by
  rw [← Dict.lookup_isSome, follows.tracked, Option.isSome_iff_ne_none]

private theorem mem_pods {endpoint : String × String} : (name, endpoint) ∈ state.pods ↔ holding name seen = some endpoint := by
  rw [← follows.tracked]
  exact ⟨Dict.lookup_of_mem follows.nodup, Dict.mem_of_lookup⟩

theorem bookmark (skipped : event.op = .bookmark) : Follows (event :: seen) (state.watch event) := by
  have other : ∀ name, event.about name = false := by simp [WatchEvent.about, skipped]
  refine ⟨?_, fun name => ?_, ?_, ?_⟩
  · simpa [watch, skipped] using follows.nodup
  · rw [holding_other (other name)]
    simpa [watch, skipped] using follows.tracked name
  · simp only [watch, skipped, if_true, entry_other (other _)]
    exact follows.ordered
  · simpa [watch, skipped] using follows.published

private theorem ordered_kept {names : List String} (kept : names.Sublist (state.pods.map Prod.fst))
    (same : ∀ name ∈ names, entry name (event :: seen) = entry name seen) :
    names.Pairwise fun older newer => entry older (event :: seen) < entry newer (event :: seen) := by
  refine (follows.ordered.sublist kept).imp_of_mem ?_
  intro older newer first second earlier
  rw [same older first, same newer second]
  exact earlier

theorem removes (seenPod : event.op ≠ .bookmark) (gone : event.endpoint = none) :
    Follows (event :: seen) (state.watch event) := by
  have pods : (state.watch event).pods = Dict.remove event.pod.name state.pods := by
    simp [watch, seenPod, track, WatchEvent.tracked_endpoint, gone, publish]
  have about : ∀ name, event.about name = decide (event.pod.name = name) := by simp [WatchEvent.about, seenPod]
  refine ⟨?_, fun name => ?_, ?_, ?_⟩
  · rw [pods]
    exact Dict.nodup_remove follows.nodup
  · rw [pods, Dict.lookup_remove, holding, about, gone, follows.tracked]
    by_cases same : name = event.pod.name
    · simp [same]
    · simp [same, Ne.symm same]
  · rw [pods]
    refine follows.ordered_kept (List.filter_sublist.map _) fun name member => entry_other ?_
    obtain ⟨field, kept, rfl⟩ := List.mem_map.mp member
    rw [about]
    exact decide_eq_false (Ne.symm (Dict.mem_remove.mp kept).2)
  · simp [watch, seenPod, publish]

theorem adds (seenPod : event.op ≠ .bookmark) {endpoint : String × String}
    (runs : event.endpoint = some endpoint) : Follows (event :: seen) (state.watch event) := by
  have pods : (state.watch event).pods = Dict.set event.pod.name endpoint state.pods := by
    simp [watch, seenPod, track, WatchEvent.tracked_endpoint, runs, publish]
  have about : ∀ name, event.about name = decide (event.pod.name = name) := by simp [WatchEvent.about, seenPod]
  refine ⟨?_, fun name => ?_, ?_, ?_⟩
  · rw [pods]
    exact Dict.nodup_set follows.nodup
  · rw [pods, Dict.lookup_set, holding, about, runs, follows.tracked]
    by_cases same : name = event.pod.name
    · simp [same]
    · simp [same, Ne.symm same]
  · rw [pods]
    by_cases known : event.pod.name ∈ state.pods.map Prod.fst
    · rw [Dict.keys_set_known known]
      refine follows.ordered_kept (List.Sublist.refl _) fun name member => ?_
      obtain ⟨before, found⟩ := Option.ne_none_iff_exists'.mp (follows.held.mp member)
      simp [entry, found]
    · have before : ∀ name ∈ state.pods.map Prod.fst, entry name (event :: seen) = entry name seen := by
        intro name member
        refine entry_other ?_
        rw [about]
        refine decide_eq_false ?_
        rintro rfl
        exact known member
      have last : entry event.pod.name (event :: seen) = seen.length := by
        have missing : holding event.pod.name seen = none := not_ne_iff.mp fun held => known (follows.held.mpr held)
        simp [entry, about, missing]
      rw [Dict.set_fresh known, List.map_append, List.pairwise_append]
      refine ⟨follows.ordered_kept (List.Sublist.refl _) before, by simp, fun name member other added => ?_⟩
      obtain rfl : other = event.pod.name := by simpa using added
      rw [before name member, last]
      exact entry_lt (follows.held.mp member)
  · simp [watch, seenPod, publish]

theorem watch : Follows (event :: seen) (state.watch event) := by
  by_cases skipped : event.op = .bookmark
  · exact follows.bookmark skipped
  · cases runs : event.endpoint with
    | none => exact follows.removes skipped runs
    | some endpoint => exact follows.adds skipped runs

end

theorem after : ∀ seen, Follows seen (after seen)
  | [] => ⟨List.nodup_nil, fun _ => rfl, List.Pairwise.nil, rfl⟩
  | _ :: earlier => (Follows.after earlier).watch

section
variable (follows : Follows seen state)
include follows

theorem lookup_newest (found : state.mapping.lookup node = some ip) :
    ∃ name, holding name seen = some (node, ip) ∧ Newest seen node name := by
  rw [follows.published, Dict.lookup_ofPairs, List.lookup_eq_some_iff] at found
  obtain ⟨later, earlier, split, none⟩ := found
  have forwards : state.pods.map Prod.snd = earlier.reverse ++ (node, ip) :: later.reverse := by
    rw [← List.reverse_reverse (state.pods.map Prod.snd), split]
    simp
  obtain ⟨first, rest, pods, -, same⟩ := List.map_eq_append_iff.mp forwards
  obtain ⟨⟨name, endpoint⟩, second, rfl, rfl, others⟩ := List.map_eq_cons_iff.mp same
  have held : holding name seen = some (node, ip) := follows.mem_pods.mp (by simp [pods])
  refine ⟨name, held, ⟨ip, held⟩, fun other address runs => ?_⟩
  have member := follows.mem_pods.mpr runs
  have ordered := follows.ordered
  rw [pods, List.map_append, List.map_cons] at ordered
  rw [pods] at member
  rcases List.mem_append.mp member with before | now
  · have earlier := (List.pairwise_append.mp ordered).2.2 other (List.mem_map.mpr ⟨_, before, rfl⟩) name (by simp)
    omega
  · rcases List.mem_cons.mp now with same | after
    · cases same
      exact Nat.le_refl _
    · have inside : (node, address) ∈ later := by
        rw [← List.mem_reverse, ← others]
        exact List.mem_map.mpr ⟨_, after, rfl⟩
      simpa using none _ inside

theorem lookup_isSome : (state.mapping.lookup node).isSome = true ↔ ∃ name ip, holding name seen = some (node, ip) := by
  constructor
  · intro found
    obtain ⟨ip, found⟩ := Option.isSome_iff_exists.mp found
    obtain ⟨name, held, -⟩ := follows.lookup_newest found
    exact ⟨name, ip, held⟩
  · rintro ⟨name, ip, held⟩
    rw [follows.published, Dict.lookup_ofPairs, List.lookup_isSome_iff]
    refine ⟨(node, ip), ?_, by simp⟩
    rw [List.mem_reverse]
    exact List.mem_map.mpr ⟨_, follows.mem_pods.mpr held, rfl⟩

private theorem entry_injective {other : String} (first : holding name seen ≠ none)
    (second : holding other seen ≠ none) (same : entry name seen = entry other seen) : name = other := by
  by_contra different
  have symmetric : (state.pods.map Prod.fst).Pairwise fun older newer => entry older seen ≠ entry newer seen :=
    follows.ordered.imp fun earlier => Nat.ne_of_lt earlier
  have : Std.Symm fun older newer => entry older seen ≠ entry newer seen := ⟨fun _ _ differ => differ.symm⟩
  exact symmetric.forall (follows.held.mpr first) (follows.held.mpr second) different same

private theorem newest_unique {other : String} (first : Newest seen node name)
    (second : Newest seen node other) : name = other := by
  obtain ⟨⟨ip, held⟩, last⟩ := first
  obtain ⟨⟨address, also⟩, lastOther⟩ := second
  have one := last other address also
  have two := lastOther name ip held
  exact follows.entry_injective (by simp [held]) (by simp [also]) (by omega)

private theorem lookup_iff :
    state.mapping.lookup node = some ip ↔ ∃ name, Newest seen node name ∧ holding name seen = some (node, ip) := by
  constructor
  · intro found
    obtain ⟨name, held, newest⟩ := follows.lookup_newest found
    exact ⟨name, newest, held⟩
  · rintro ⟨name, newest, held⟩
    obtain ⟨address, found⟩ := Option.isSome_iff_exists.mp (follows.lookup_isSome.mpr ⟨name, ip, held⟩)
    obtain ⟨other, also, last⟩ := follows.lookup_newest found
    cases follows.newest_unique newest last
    cases held.symm.trans also
    exact found

end

end Follows

private theorem Newest.other_stops (newest : Newest seen node name) (other : event.about name = false)
    (stops : event.endpoint = none) : Newest (event :: seen) node name := by
  obtain ⟨⟨ip, held⟩, last⟩ := newest
  refine ⟨⟨ip, (holding_other other).trans held⟩, fun pod address runs => ?_⟩
  have same : event.about pod = false := by
    by_contra about
    simp only [holding, Bool.not_eq_false] at about runs
    rw [about, if_pos rfl, stops] at runs
    cases runs
  rw [entry_other same, entry_other other]
  rw [holding_other same] at runs
  exact last pod address runs

end

/-- The published mapping has a node exactly when some pod runs there with an
address, by the last event about it. The address is that of the pod on the node
that was tracked anew last, and it stays when another pod stops running. -/
theorem mapping_follows_pods (seen : List WatchEvent) (node : String) :
    (((after seen).mapping.lookup node).isSome = true ↔ ∃ name ip, holding name seen = some (node, ip)) ∧
    (∀ ip, (after seen).mapping.lookup node = some ip ↔
      ∃ name, Newest seen node name ∧ holding name seen = some (node, ip)) ∧
    ∀ event name, Newest seen node name → event.about name = false → event.endpoint = none →
      (after (event :: seen)).mapping.lookup node = (after seen).mapping.lookup node := by
  refine ⟨(Follows.after seen).lookup_isSome, fun ip => (Follows.after seen).lookup_iff, ?_⟩
  intro event name newest other stops
  obtain ⟨ip, held⟩ := newest.1
  rw [(Follows.after seen).lookup_iff.mpr ⟨name, newest, held⟩, (Follows.after (event :: seen)).lookup_iff]
  exact ⟨name, newest.other_stops other stops, (holding_other other).trans held⟩

/-! ### Relisting -/

def current (name : String) : List WatchEvent → Option Pod
  | [] => none
  | event :: earlier =>
    if event.about name then if event.op = .deleted then none else some event.pod else current name earlier

structure Listing (seen : List WatchEvent) (pods : List Pod) : Prop where
  nodup : (pods.map Pod.name).Nodup
  complete : ∀ pod, pod ∈ pods ↔ current pod.name seen = some pod

section
variable {seen : List WatchEvent} {pods : List Pod} {name node ip : String} {pod : Pod} {state : NodeIPMapping}

private theorem current_name (found : current name seen = some pod) : pod.name = name := by
  induction seen with
  | nil => cases found
  | cons event earlier ih =>
    simp only [current] at found
    split at found
    next about =>
      split at found
      · cases found
      · cases found
        simp only [WatchEvent.about, Bool.and_eq_true, decide_eq_true_eq] at about
        exact about.2
    next => exact ih found

private theorem holding_current : holding name seen = (current name seen).bind Pod.endpoint := by
  induction seen with
  | nil => rfl
  | cons event earlier ih =>
    simp only [holding, current, ← WatchEvent.tracked_endpoint]
    split
    · split <;> rfl
    · exact ih

theorem Listing.endpoint (listing : Listing seen pods) {endpoint : String × String} :
    holding name seen = some endpoint ↔ ∃ pod ∈ pods, pod.name = name ∧ pod.endpoint = some endpoint := by
  rw [holding_current, Option.bind_eq_some_iff]
  constructor
  · rintro ⟨pod, found, runs⟩
    have same := current_name found
    exact ⟨pod, (listing.complete pod).mpr (by rw [same]; exact found), same, runs⟩
  · rintro ⟨pod, member, rfl, runs⟩
    exact ⟨pod, (listing.complete pod).mp member, runs⟩

theorem Listing.exists (seen : List WatchEvent) : ∃ pods, Listing seen pods := by
  refine ⟨((seen.map fun event => event.pod.name).dedup).filterMap fun name => current name seen, ?_, fun pod => ?_⟩
  · refine List.Nodup.sublist ?_ (List.nodup_dedup (seen.map fun event => event.pod.name))
    generalize (seen.map fun event => event.pod.name).dedup = names
    induction names with
    | nil => exact List.Sublist.slnil
    | cons name rest ih =>
      cases found : current name seen with
      | none => simpa [List.filterMap_cons, found] using ih.cons name
      | some pod => simpa [List.filterMap_cons, found, current_name found] using ih.cons_cons name
  · rw [List.mem_filterMap]
    constructor
    · rintro ⟨name, -, found⟩
      rw [current_name found]
      exact found
    · intro found
      refine ⟨pod.name, ?_, found⟩
      rw [List.mem_dedup]
      induction seen with
      | nil => cases found
      | cons event earlier ih =>
        simp only [current] at found
        split at found
        next about =>
          simp only [WatchEvent.about, Bool.and_eq_true, decide_eq_true_eq] at about
          simp [about.2]
        next => exact List.mem_cons_of_mem _ (ih found)

theorem Listing.last (listing : Listing seen pods) (member : pod ∈ pods) : Listing seen (pods.erase pod ++ [pod]) := by
  have moved : (pods.erase pod ++ [pod]).Perm pods :=
    (List.perm_append_singleton pod _).trans (List.perm_cons_erase member).symm
  exact ⟨(moved.map Pod.name).nodup_iff.mpr listing.nodup, fun other => moved.mem_iff.trans (listing.complete other)⟩

/-- Listing the pods maps each of them that has an endpoint, in their order. -/
theorem track_list (fresh : (state.pods.map Prod.fst ++ pods.map Pod.name).Nodup) :
    (pods.foldl (fun state pod => track state .added pod) state).pods =
      state.pods ++ pods.filterMap fun pod => pod.endpoint.map fun endpoint => (pod.name, endpoint) := by
  induction pods generalizing state with
  | nil => simp
  | cons pod rest ih =>
    have unknown : pod.name ∉ state.pods.map Prod.fst :=
      fun member => (List.nodup_append.mp fresh).2.2 _ member pod.name (by simp) rfl
    have tracked : (track state .added pod).pods =
        state.pods ++ (pod.endpoint.map fun endpoint => (pod.name, endpoint)).toList := by
      cases runs : pod.endpoint with
      | none =>
        have removed : Dict.remove pod.name state.pods = state.pods := by
          refine List.filter_eq_self.mpr fun field member => decide_eq_true ?_
          rintro same
          exact unknown (List.mem_map.mpr ⟨field, member, same⟩)
        simp [track, runs, removed]
      | some endpoint => simp [track, runs, Dict.set_fresh unknown]
    have later : ((track state .added pod).pods.map Prod.fst ++ rest.map Pod.name).Nodup := by
      rw [tracked]
      cases runs : pod.endpoint with
      | none =>
        simp only [Option.map_none, Option.toList_none, List.append_nil]
        exact fresh.sublist ((List.Sublist.refl _).append (List.sublist_cons_self ..))
      | some endpoint => simpa [runs] using fresh
    rw [List.foldl_cons, ih later, tracked]
    cases runs : pod.endpoint <;> simp [runs]

theorem lookup_reload (nodup : (pods.map Pod.name).Nodup) :
    (reload state pods).mapping.lookup node = (pods.filterMap Pod.endpoint).reverse.lookup node := by
  have tracked := @track_list pods { state with pods := [] } (by simpa using nodup)
  simp only [reload, publish, Dict.lookup_ofPairs, tracked, List.nil_append, List.map_filterMap, Option.map_map]
  congr 2
  refine List.filterMap_congr fun pod _ => ?_
  cases pod.endpoint <;> rfl

theorem Listing.lookup (listing : Listing seen pods) (found : (reload state pods).mapping.lookup node = some ip) :
    ∃ name, holding name seen = some (node, ip) := by
  rw [lookup_reload listing.nodup] at found
  have member := Dict.mem_of_lookup found
  rw [List.mem_reverse, List.mem_filterMap] at member
  obtain ⟨pod, listed, runs⟩ := member
  exact ⟨pod.name, listing.endpoint.mpr ⟨pod, listed, rfl, runs⟩⟩

theorem Listing.lookup_isSome (listing : Listing seen pods) (held : holding name seen = some (node, ip)) :
    ((reload state pods).mapping.lookup node).isSome = true := by
  obtain ⟨pod, listed, -, runs⟩ := listing.endpoint.mp held
  rw [lookup_reload listing.nodup, List.lookup_isSome_iff]
  exact ⟨(node, ip), List.mem_reverse.mpr (List.mem_filterMap.mpr ⟨pod, listed, runs⟩), by simp⟩

private theorem lookup_last (listing : Listing seen (pods ++ [pod])) (runs : pod.endpoint = some (node, ip)) :
    (reload state (pods ++ [pod])).mapping.lookup node = some ip := by
  rw [lookup_reload listing.nodup]
  simp [List.filterMap_append, runs]

end

/-- After any history, every list of the pods leads to the mapping that
watching led to if and only if no two running pods on a node have different
addresses. -/
theorem relisting_agrees (seen : List WatchEvent) (state : NodeIPMapping) :
    (∀ pods, Listing seen pods → ∀ node,
      (reload state pods).mapping.lookup node = (after seen).mapping.lookup node) ↔
    ∀ first second node ip address, holding first seen = some (node, ip) → holding second seen = some (node, address) →
      ip = address := by
  have follows := Follows.after seen
  constructor
  · intro agrees first second node ip address held also
    have published : ∀ {name value}, holding name seen = some (node, value) →
        (after seen).mapping.lookup node = some value := by
      intro name value runs
      obtain ⟨pods, listing⟩ := Listing.exists seen
      obtain ⟨pod, listed, -, endpoint⟩ := listing.endpoint.mp runs
      have last := listing.last listed
      rw [← agrees _ last node]
      exact lookup_last last endpoint
    exact Option.some.inj ((published held).symm.trans (published also))
  · intro unique pods listing node
    cases watched : (after seen).mapping.lookup node with
    | none =>
      cases listed : (reload state pods).mapping.lookup node with
      | none => rfl
      | some ip =>
        obtain ⟨name, held⟩ := listing.lookup listed
        have present := follows.lookup_isSome.mpr ⟨name, ip, held⟩
        rw [watched] at present
        cases present
    | some ip =>
      obtain ⟨name, -, held⟩ := follows.lookup_iff.mp watched
      obtain ⟨address, listed⟩ := Option.isSome_iff_exists.mp (@Listing.lookup_isSome _ _ _ _ _ state listing held)
      obtain ⟨other, also⟩ := listing.lookup listed
      rw [listed, unique other name node address ip also held]

namespace RollingUpdate

def runningPod (name ip : String) : Pod where
  name := name
  spec := some { nodeName := some "node" }
  status := some { podIP := some ip, phase := some "Running" }

def rolling : List WatchEvent := [⟨.added, runningPod "a" "10.0.0.2"⟩, ⟨.added, runningPod "b" "10.0.0.1"⟩]

/-- Listed by name, the older pod wins. -/
theorem relisting_disagrees :
    Listing rolling [runningPod "a" "10.0.0.2", runningPod "b" "10.0.0.1"] ∧
    (after rolling).mapping.lookup "node" = some "10.0.0.2" ∧
    (reload (after rolling) [runningPod "a" "10.0.0.2", runningPod "b" "10.0.0.1"]).mapping.lookup "node" =
      some "10.0.0.1" := by
  refine ⟨⟨by decide, fun pod => ?_⟩, by decide, by decide⟩
  simp only [rolling, current, WatchEvent.about, runningPod]
  constructor
  · intro member
    simp only [List.mem_cons, List.not_mem_nil, or_false] at member
    rcases member with rfl | rfl <;> simp
  · intro found
    by_cases first : pod.name = "a"
    · simp [first] at found
      simp [← found]
    · by_cases second : pod.name = "b"
      · simp [second] at found
        simp [← found]
      · simp [Ne.symm first, Ne.symm second] at found

end RollingUpdate
end NodeIPMapping
end Rawfile
