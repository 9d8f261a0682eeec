import Rawfile.MetadataSteps
import Rawfile.Proofs.Locking
import Rawfile.Proofs.MetadataFile

/-! Patches of one volume's metadata beside each other. All but the first one of
`create_volume` are made under the lock, on what was read there. Where that one
and the removal keep apart from the holders of the lock, `disk.meta` is always
what the patches make of the first record. -/

namespace Rawfile
open Effects

namespace Meta

private theorem lookup_slots {slots : List (String × (Meta → Option Json))} (nodup : (slots.map Prod.fst).Nodup) (data : Meta)
    (key : String) : (slots.filterMap fun slot => (slot.2 data).map (Prod.mk slot.1)).lookup key =
      (slots.lookup key).bind fun slot => slot data := by
  induction slots with
  | nil => rfl
  | cons slot rest ih =>
    obtain ⟨name, value⟩ := slot
    simp only [List.map_cons, List.nodup_cons] at nodup
    have others := ih nodup.2
    by_cases same : key = name
    · subst same
      have missing : rest.lookup key = none := by
        rw [List.lookup_eq_none_iff]
        intro slot member
        simp only [bne_iff_ne]
        rintro rfl
        exact nodup.1 (List.mem_map_of_mem member)
      cases found : value data <;> simp [found, others, missing]
    · have different : (key == name) = false := by simp [same]
      cases found : value data <;> simp [found, List.lookup_cons, different, others]

private theorem slots_nodup : (slots.map Prod.fst).Nodup := by decide

private theorem lookup_fields (data : Meta) (key : String) :
    data.fields.lookup key = (slots.lookup key).bind fun slot => slot data :=
  lookup_slots slots_nodup data key

private theorem slot_valid : ∀ slot ∈ slots, ∀ data value, slot.2 data = some value → Json.Valid value := by
  have flags : ∀ flag : Option Bool, Json.Valid (ofFlag flag) := by
    intro flag
    cases flag with
    | none => exact .null
    | some flag => exact .bool flag
  simp only [slots, List.forall_mem_cons, Option.map_eq_some_iff, forall_exists_index, and_imp, List.not_mem_nil,
    false_implies, implies_true, and_true]
  refine ⟨?_, ?_, ?_, ?_, ?_, ?_, ?_, ?_, ?_, ?_, ?_, ?_⟩ <;>
    · rintro data value content - rfl
      first
      | exact .int _
      | exact .str _
      | exact .bool _
      | exact flags _

private theorem fields_valid (data : Meta) : Json.Valid (.obj data.fields) := by
  refine .obj ?_ fun field member => ?_
  · have part : (data.fields.map Prod.fst).Sublist (slots.map Prod.fst) := by
      unfold fields
      induction slots with
      | nil => exact .slnil
      | cons slot rest ih =>
        cases found : slot.2 data with
        | none => simpa [found] using ih.cons _
        | some value => simpa [found] using ih
    exact slots_nodup.sublist part
  · obtain ⟨slot, inside, made⟩ := List.mem_filterMap.mp member
    obtain ⟨value, found, rfl⟩ := Option.map_eq_some_iff.mp made
    exact slot_valid slot inside data value found

private theorem ofFields_fields (data : Meta) : ofFields data.fields = data := by
  have reads : ∀ {α : Type} {write : α → Json} {read : Json → Option α} (value : Option α),
      (∀ value, read (write value) = some value) → (value.map write).bind read = value := by
    intro α write read value returns
    cases value with
    | none => rfl
    | some value => exact returns value
  have numbers : ∀ number, toNat? (ofNat number) = some number := fun _ => rfl
  have texts : ∀ text, toText? (.str text) = some text := fun _ => rfl
  have bools : ∀ flag, toBool? (.bool flag) = some flag := fun _ => rfl
  have flags : ∀ flag, toFlag? (ofFlag flag) = some flag := by
    intro flag
    cases flag <;> rfl
  simp only [ofFields, lookup_fields, slots, List.lookup_cons, String.reduceBEq, Option.bind_some]
  simp only [reads _ numbers, reads _ texts, reads _ bools, reads _ flags]

theorem loads_dumps (data : Meta) : loads data.dumps = some data := by
  simp only [loads, dumps, Json.loads_dumps data.fields_valid, ofFields_fields]

private theorem lookup_merge (old patch : Meta) (key : String) :
    (old.merge patch).fields.lookup key = (patch.fields.lookup key).or (old.fields.lookup key) := by
  have each : ∀ slot ∈ slots, slot.2 (old.merge patch) = (slot.2 patch).or (slot.2 old) := by
    simp only [slots, List.forall_mem_cons, List.not_mem_nil, false_implies, implies_true, and_true, merge,
      Option.orElse_eq_orElse, Option.orElse_eq_or, Option.map_or]
  simp only [lookup_fields]
  cases found : slots.lookup key with
  | none => rfl
  | some slot => exact each (key, slot) (Dict.mem_of_lookup found)

def record (base : Option Meta) (patches : List Meta) : Option Meta :=
  patches.foldl (fun old patch => some ((old.getD {}).merge patch)) base

def lastWritten (key : String) (patches : List Meta) : Option Json :=
  patches.reverse.findSome? fun patch => patch.fields.lookup key

private theorem record_concat (base : Option Meta) (patches : List Meta) (patch : Meta) :
    record base (patches ++ [patch]) = some (((record base patches).getD {}).merge patch) := by
  simp [record]

private theorem record_written (base : Option Meta) {patches : List Meta} {key : String} {value : Json}
    (written : lastWritten key patches = some value) :
    ∃ data, record base patches = some data ∧ data.fields.lookup key = some value := by
  induction patches using List.reverseRecOn with
  | nil => cases written
  | append_singleton patches patch ih =>
    refine ⟨_, record_concat base patches patch, ?_⟩
    rw [lookup_merge]
    simp only [lastWritten, List.reverse_append, List.reverse_singleton, List.singleton_append,
      List.findSome?_cons] at written
    split at written
    next found => rw [found, written, Option.some_or]
    next missing =>
      obtain ⟨data, made, found⟩ := ih written
      rw [missing, made, Option.none_or]
      exact found

end Meta

namespace FineNode

structure Same (before after : FineNode) : Prop where
  directory : after.directory = before.directory
  patches : after.patches = before.patches
  opened : after.opened = before.opened
  removed : after.removed = before.removed
  missed : after.missed = before.missed

def record (base : Option Meta) (now : FineNode) : Option Meta :=
  Meta.record (if now.removed then none else base) now.patches

/-- `disk.meta` is what the patches made of it, one thread at most is putting a
file in its place, and none has missed its file. -/
structure Kept (base : Option Meta) (now : FineNode) : Prop where
  safe : now.directory.Safe .disk .tmp fun _ => True
  latest : now.directory.lookup .disk = (now.record base).map Meta.dumps
  alone : now.opened.length ≤ 1
  found : now.missed = false

variable {volume : VolumeId} {base : Option Meta} {now after : FineNode} {thread other : Nat}

theorem Same.refl (now : FineNode) : now.Same now := ⟨rfl, rfl, rfl, rfl, rfl⟩

theorem Same.trans {first second third : FineNode} (one : first.Same second) (two : second.Same third) :
    first.Same third :=
  ⟨two.directory.trans one.directory, two.patches.trans one.patches, two.opened.trans one.opened,
    two.removed.trans one.removed, two.missed.trans one.missed⟩

theorem Same.record (same : now.Same after) : after.record base = now.record base := by
  simp only [FineNode.record, same.patches, same.removed]

theorem Kept.same (kept : now.Kept base) (same : now.Same after) : after.Kept base := by
  obtain ⟨safe, latest, alone, found⟩ := kept
  refine ⟨?_, ?_, ?_, same.missed.trans found⟩
  · rwa [same.directory]
  · rw [same.directory, same.record, latest]
  · rwa [same.opened]

theorem Kept.reads (kept : now.Kept base) : (now.readMeta {}).toOption.getD {} = (now.record base).getD {} := by
  unfold readMeta
  rw [kept.latest]
  cases now.record base with
  | none => rfl
  | some data => simp [Meta.loads_dumps, Except.toOption]

theorem Kept.beside {directory : Directory MetaName Char} {opened : List Nat} (kept : now.Kept base)
    (safe : directory.Safe .disk .tmp fun _ => True) (spares : now.directory.Spares .tmp directory)
    (names : directory.names .disk = now.directory.names .disk) (alone : opened.length ≤ 1) :
    ({ now with directory, opened } : FineNode).Kept base := by
  refine ⟨safe, ?_, alone, kept.found⟩
  refine Eq.trans ?_ kept.latest
  simp only [Directory.lookup, names]
  cases named : now.directory.names .disk with
  | none => rfl
  | some inode =>
    have fits := kept.safe.fits _ now.directory.names_mem
    obtain ⟨text, holds, -⟩ := fits.whole inode named
    have still := (spares inode text holds fun same => fits.apart inode same named).1
    simp only [Option.map_some, still.content, holds.content]

private theorem closed_alone (alone : now.opened.length ≤ 1) : (now.closed thread).opened.length ≤ 1 :=
  Nat.le_trans (List.length_filter_le ..) alone

/-- An operation of the driver leaves the two files alone, or it removes one of them. -/
theorem execPlain_cases (volume : VolumeId) (thread : Nat) (operation : Op) (answer : Answer) (now : FineNode) :
    now.Same (now.execPlain volume thread operation answer).2 ∨
      ∃ path missingOk name, operation = .file (.unlink path missingOk) ∧
        (path = .metaFile volume ∨ path = .metaTmp volume) ∧
        (now.execPlain volume thread operation answer).2 = now.remove name := by
  have lifted : ∀ operation : Op, now.Same (now.lift thread operation answer).2 := fun _ => ⟨rfl, rfl, rfl, rfl, rfl⟩
  unfold execPlain
  split
  · split
    · exact .inl (.refl _)
    · exact .inl (lifted _)
  · split
    · exact .inl (.refl _)
    · exact .inl (lifted _)
  next path _ =>
    split
    next same =>
      simp only
      split
      · exact .inl (.refl _)
      · split
        · exact .inr ⟨path, _, _, rfl, same, rfl⟩
        · exact .inl (.refl _)
        · exact .inl (.refl _)
    next => exact .inl (lifted _)
  · split
    · exact .inl (.refl _)
    · exact .inl (lifted _)
  · exact .inl (lifted _)

private theorem execPlain_holders (volume : VolumeId) (thread : Nat) (operation : Op) (answer : Answer) (now : FineNode) :
    (now.execPlain volume thread operation answer).2.node.holders = (operation.exec thread answer now.node).2.holders := by
  unfold execPlain
  split
  · split <;> rfl
  · split <;> rfl
  · split
    · simp only
      split
      · rfl
      · split
        · split <;> rfl
        · rfl
        · rfl
    · rfl
  · split <;> rfl
  · rfl

private theorem execPlain_lawful (volume : VolumeId) (thread : Nat) (operation : Op) (answer : Answer) (now : FineNode) :
    operation.lawful (now.execPlain volume thread operation answer).1 := by
  have lawful := operation.exec_lawful thread answer now.node
  cases operation with
  | file operation =>
    cases operation with
    | glob path =>
      simp only [execPlain]
      split
      next same =>
        intro other member
        rcases List.mem_append.mp member with child | own
        · exact (FileTree.mem_children.mp child).2
        · unfold listed at own
          rcases List.mem_append.mp own with own | own <;> split at own <;> simp_all [Hierarchy.parent]
      next => exact lawful
    | _ => trivial
  | _ => trivial

theorem Kept.remove (kept : now.Kept base) (name : MetaName) : (now.remove name).Kept base := by
  cases name with
  | disk =>
    refine ⟨kept.safe.unlink_published (by decide) trivial, ?_, kept.alone, kept.found⟩
    simp [FineNode.remove, FineNode.record, Meta.record, Directory.lookup, Directory.unlink, Directory.bind]
  | tmp =>
    refine kept.beside (kept.safe.unlink_scratch (by decide)) (fun inode text holds apart => ⟨holds, ?_⟩) ?_ kept.alone
    · simp [Directory.unlink, Directory.bind]
    · simp [Directory.unlink, Directory.bind]

/-- The lock is granted to one thread at a time. A patch that is made without it,
the first one of `create_volume`, goes from its read to its replacement while
nobody holds the lock or patches, and the two files are removed while nobody does. -/
def apart (volume : VolumeId) (_call : PatchCall) (thread : Nat) (operation : FineOp) (answer : Answer)
    (now : FineNode) : Bool :=
  let free := now.node.holders.all (fun holder => holder.1 ≠ volume) && now.opened.isEmpty
  match operation with
  | .openTmp old =>
    decide ((volume, thread) ∈ now.node.holders) || free && decide ((now.readMeta {}).toOption.getD {} = old)
  | .plain (.lock (.acquire target)) => target ≠ volume || answer.fails || free
  | .plain (.file (.unlink path _)) => !decide (path = .metaFile volume ∨ path = .metaTmp volume) || free
  | _ => true

structure Writing (base : Option Meta) (thread inode : Nat) (old : Meta) (now : FineNode) : Prop where
  inside : thread ∈ now.opened
  named : now.directory.names .tmp = some inode
  fresh : (now.record base).getD {} = old

theorem Writing.same {inode : Nat} {old : Meta} (writing : now.Writing base thread inode old) (same : now.Same after) :
    after.Writing base thread inode old := by
  obtain ⟨inside, named, fresh⟩ := writing
  refine ⟨?_, ?_, ?_⟩
  · rwa [same.opened]
  · rwa [same.directory]
  · rwa [same.record]

theorem Kept.only (kept : now.Kept base) (inside : thread ∈ now.opened) (beside : other ∈ now.opened) :
    other = thread := by
  have alone := kept.alone
  match opened : now.opened with
  | [] => rw [opened] at inside; cases inside
  | [single] =>
    rw [opened, List.mem_singleton] at inside beside
    exact beside.trans inside.symm
  | _ :: _ :: _ => rw [opened] at alone; simp at alone

end FineNode

namespace FineNode

/-- What the others do while the thread does nothing: they leave its lock and its
patch, and with one of the two also the files. -/
structure Undisturbed (volume : VolumeId) (thread : Nat) (before after : FineNode) : Prop where
  held : (volume, thread) ∈ after.node.holders ↔ (volume, thread) ∈ before.node.holders
  opened : thread ∈ after.opened ↔ thread ∈ before.opened
  same : thread ∈ before.opened ∨ (volume, thread) ∈ before.node.holders → before.Same after

structure Valid (volume : VolumeId) (base : Option Meta) (now : FineNode) : Prop where
  kept : now.Kept base
  exclusive : Exclusive volume now.node
  beside : ∀ writer ∈ now.opened, ∀ holder, (volume, holder) ∈ now.node.holders → holder = writer

end FineNode

def patching (config : DriverConfig) (volume : VolumeId) (base : Option Meta) :
    Discipline (patchMachine config volume) where
  permits call thread operation answer now := FineNode.apart volume call thread operation answer now = true
  valid := FineNode.Valid volume base
  guarantee _ thread before after := ∀ other, other ≠ thread → FineNode.Undisturbed volume other before after
  rely _ thread before after := FineNode.Undisturbed volume thread before after
  together _ _ := True
  absent thread now := (volume, thread) ∉ now.node.holders ∧ thread ∉ now.opened
  rely_refl _ _ _ := ⟨Iff.rfl, Iff.rfl, fun _ => .refl _⟩
  rely_trans one two := ⟨two.held.trans one.held, two.opened.trans one.opened, fun inside =>
    (one.same inside).trans (two.same (inside.imp one.opened.mpr one.held.mpr))⟩
  compatible _ kept different _ := kept _ (Ne.symm different)
  absent_kept kept different absent :=
    ⟨fun held => absent.1 ((kept _ different).held.mp held), fun inside => absent.2 ((kept _ different).opened.mp inside)⟩

namespace FineNode

variable {config : DriverConfig} {volume : VolumeId} {base : Option Meta} {call : PatchCall} {thread : Nat}
  {operation : Op} {state now after : FineNode} {old patch : Meta}

private theorem apart_free (free : (now.node.holders.all (fun holder => holder.1 ≠ volume) && now.opened.isEmpty) = true) :
    (∀ holder, (volume, holder) ∉ now.node.holders) ∧ now.opened = [] := by
  obtain ⟨vacant, closed⟩ := Bool.and_eq_true_iff.mp free
  refine ⟨fun holder held => ?_, List.isEmpty_iff.mp closed⟩
  simpa using List.all_eq_true.mp vacant _ held

/-- Nobody else is between opening and replacing, or holds the lock. -/
def Alone (volume : VolumeId) (thread : Nat) (now : FineNode) : Prop :=
  (∀ other ∈ now.opened, other = thread) ∧ ∀ holder, (volume, holder) ∈ now.node.holders → holder = thread

theorem Alone.undisturbed (alone : Alone volume thread now) (node : after.node = now.node)
    (opened : ∀ other, other ≠ thread → (other ∈ after.opened ↔ other ∈ now.opened)) (other : Nat)
    (different : other ≠ thread) : Undisturbed volume other now after := by
  refine ⟨by rw [node], opened other different, ?_⟩
  rintro (inside | held)
  · exact absurd (alone.1 other inside) different
  · exact absurd (alone.2 other held) different

theorem Alone.valid (alone : Alone volume thread now) (valid : Valid volume base now) (kept : after.Kept base)
    (node : after.node = now.node) (opened : ∀ other ∈ after.opened, other = thread) : Valid volume base after := by
  refine ⟨kept, ?_, fun writer inside holder held => ?_⟩
  · rw [Exclusive, node]
    exact valid.exclusive
  · rw [node] at held
    exact (alone.2 holder held).trans (opened writer inside).symm

/-- What a call does outside its update disturbs no other update. -/
theorem execPlain_undisturbed {answer : Answer} (valid : Valid volume base now)
    (permitted : apart volume call thread (.plain operation) answer now = true)
    (executed : (now.execPlain volume thread operation answer).2 = after) :
    (∀ other, other ≠ thread → Undisturbed volume other now after) ∧ Valid volume base after ∧
      after.opened = now.opened := by
  have holders := now.execPlain_holders volume thread operation answer
  rw [executed] at holders
  rcases execPlain_cases volume thread operation answer now with same | ⟨path, missingOk, name, rfl, files, removed⟩
  · rw [executed] at same
    have excludes : operation.excludes volume answer now.node = true := by
      unfold Op.excludes
      split
      next wanted =>
        simp only [apart, Bool.or_eq_true, Bool.and_eq_true] at permitted ⊢
        exact permitted.imp_right And.left
      next => rfl
    have others (other : Nat) (different : other ≠ thread) :
        (volume, other) ∈ after.node.holders ↔ (volume, other) ∈ now.node.holders := by
      rw [holders]
      exact Op.exec_others different
    refine ⟨fun other different => ⟨others other different, by rw [same.opened], fun _ => same⟩, ⟨?_, ?_, ?_⟩, same.opened⟩
    · exact valid.kept.same same
    · rw [Exclusive, holders]
      exact valid.exclusive.exec excludes
    · intro writer inside holder held
      rw [same.opened] at inside
      by_cases before : (volume, holder) ∈ now.node.holders
      · exact valid.beside writer inside holder before
      · rw [holders] at held
        obtain ⟨rfl, granted⟩ := Op.acquired_holder before held
        rcases (Bool.or_eq_true _ _).mp permitted with other | free
        · simp [granted] at other
        · rw [(apart_free free).2] at inside
          cases inside
  · have free := apart_free ((Bool.or_eq_true _ _).mp permitted |>.resolve_left (by simp [files]))
    rw [← executed, removed]
    have alone : Alone volume thread now := ⟨by simp [free.2], fun holder held => absurd held (free.1 holder)⟩
    have node : (now.remove name).node = now.node := by cases name <;> rfl
    have opened : (now.remove name).opened = now.opened := by cases name <;> rfl
    refine ⟨alone.undisturbed node fun _ _ => by rw [opened], ?_, opened⟩
    exact alone.valid valid (valid.kept.remove name) node (by simp [opened, free.2])

/-- An operation that is no patch of the volume: what it does to the lock is what it does in the node. -/
theorem plain_safe (other : ∀ old patch, operation ≠ .file (.installMeta volume old patch)) {before : FineNode → Prop}
    {post : Except Err operation.Reply → FineNode → Prop}
    (stays : ∀ state now, before state → Undisturbed volume thread state now → before now)
    (effect : ∀ answer reply (now after : FineNode), before now → now.Kept base →
      now.execPlain volume thread operation answer = (reply, after) → after.opened = now.opened →
      after.node.holders = (operation.exec thread answer now.node).2.holders → post reply after)
    (initial : before state) :
    (patching config volume base).Safe call thread (fun reply state => operation.lawful reply ∧ post reply state)
      (operation.fine volume) state := by
  have single : operation.fine volume = Program.perform (FineOp.plain operation) := by
    unfold Op.fine
    split
    next target old patch =>
      rw [if_neg]
      rintro rfl
      exact other old patch rfl
    next => rfl
  rw [single]
  refine .perform fun now relied valid answer reply after permitted answered => ?_
  have executed : now.execPlain volume thread operation answer = (reply, after) := Option.some.inj answered
  obtain ⟨beside, still, opened⟩ := execPlain_undisturbed valid permitted (congrArg Prod.snd executed)
  have holders := now.execPlain_holders volume thread operation answer
  have lawful := now.execPlain_lawful volume thread operation answer
  rw [executed] at holders lawful
  exact ⟨beside, still, lawful, effect answer reply now after (stays state now initial relied) valid.kept executed opened
    holders⟩

theorem openTmp_safe (closed : thread ∉ state.opened)
    (fresh : (volume, thread) ∈ state.node.holders → (state.record base).getD {} = old) :
    (patching config volume base).Safe call thread
      (fun outcome after => ((volume, thread) ∈ after.node.holders ↔ (volume, thread) ∈ state.node.holders) ∧
        match outcome with
        | .ok inode => after.Writing base thread inode old ∧ after.directory.content inode = []
        | .error _ => thread ∉ after.opened) (Program.perform (FineOp.openTmp old)) state := by
  refine .perform fun now relied valid answer reply after permitted answered => ?_
  have outside : thread ∉ now.opened := fun inside => closed (relied.opened.mp inside)
  have alone : now.opened = [] ∧ Alone volume thread now ∧ (now.record base).getD {} = old := by
    rcases (Bool.or_eq_true _ _).mp permitted with held | free
    · replace held := of_decide_eq_true held
      have empty : now.opened = [] := by
        refine List.eq_nil_iff_forall_not_mem.mpr fun writer inside => outside ?_
        rwa [valid.beside writer inside thread held]
      refine ⟨empty, ⟨by simp [empty], fun holder other => valid.exclusive holder thread other held⟩, ?_⟩
      have before := relied.held.mp held
      rw [(relied.same (.inr before)).record]
      exact fresh before
    · obtain ⟨free, same⟩ := Bool.and_eq_true_iff.mp free
      have unlocked := apart_free free
      exact ⟨unlocked.2, ⟨by simp [unlocked.2], fun holder held => absurd held (unlocked.1 holder)⟩,
        valid.kept.reads.symm.trans (of_decide_eq_true same)⟩
  obtain ⟨empty, alone, current⟩ := alone
  simp only [patchMachine, exec, Option.some.injEq] at answered
  split at answered
  · cases answered
    exact ⟨alone.undisturbed rfl fun _ _ => Iff.rfl, valid, relied.held, outside⟩
  · split at answered
    · cases answered
      have spec := Directory.truncate_spec (valid.kept.safe.fits _ now.directory.names_mem).bounded
      refine ⟨alone.undisturbed rfl fun other different => by simp [different], ?_, relied.held,
        ⟨by simp, spec.1, current⟩, spec.2⟩
      refine alone.valid valid ?_ rfl (by simp [empty])
      exact valid.kept.beside (valid.kept.safe.truncate (by decide)) .truncate (Directory.truncate_names (by decide))
        (by simp [empty])
    · cases answered
      exact ⟨alone.undisturbed rfl fun _ _ => Iff.rfl, valid, relied.held, outside⟩

theorem Writing.alone {inode : Nat} (writing : now.Writing base thread inode old) (valid : Valid volume base now) :
    Alone volume thread now :=
  ⟨fun _ inside => valid.kept.only writing.inside inside, fun holder held => valid.beside thread writing.inside holder held⟩

private theorem closed_outside : thread ∉ (now.closed thread).opened := by simp [closed]

private theorem closed_beside {other : Nat} (different : other ≠ thread) :
    other ∈ (now.closed thread).opened ↔ other ∈ now.opened := by simp [closed, different]

theorem Alone.closed (alone : Alone volume thread now) : ∀ other ∈ (now.closed thread).opened, other = thread :=
  fun other inside => alone.1 other (List.mem_of_mem_filter inside)

theorem dump_safe {inode : Nat} (data : Meta) (writing : state.Writing base thread inode old)
    (empty : state.directory.content inode = []) :
    (patching config volume base).Safe call thread
      (fun outcome after => ((volume, thread) ∈ after.node.holders ↔ (volume, thread) ∈ state.node.holders) ∧
        match outcome with
        | .ok _ => after.Writing base thread inode old ∧ after.directory.Holds inode data.dumps
        | .error _ => thread ∉ after.opened) (Program.perform (FineOp.dump inode data)) state := by
  refine .perform fun now relied valid answer reply after _ answered => ?_
  have same := relied.same (.inl writing.inside)
  replace empty := (congrArg (Directory.content · inode) same.directory).trans empty
  replace writing := writing.same same
  have kept := valid.kept
  have alone := writing.alone valid
  have inside := (kept.safe.fits _ now.directory.names_mem).bounded inode writing.named
  simp only [patchMachine, exec, Option.some.injEq] at answered
  split at answered
  · cases answered
    have torn : (({ now with directory := now.directory.writeAt inode 0 (data.dumps.take answer.amount) }).closed
        thread).Kept base :=
      kept.beside (kept.safe.set writing.named) (.set writing.named) rfl (closed_alone kept.alone)
    exact ⟨alone.undisturbed rfl fun _ different => closed_beside different, alone.valid valid torn rfl alone.closed,
      relied.held, closed_outside⟩
  · cases answered
    have written : ({ now with directory := now.directory.writeAt inode 0 data.dumps } : FineNode).Kept base :=
      kept.beside (kept.safe.set writing.named) (.set writing.named) rfl kept.alone
    have content : (now.directory.writeAt inode 0 data.dumps).content inode = data.dumps :=
      Directory.content_writeAt inside empty
    refine ⟨alone.undisturbed rfl fun _ _ => Iff.rfl, alone.valid valid ?_ rfl alone.1, relied.held, ?_, ?_⟩
    · exact written.beside (written.safe.set writing.named) (.set writing.named) rfl kept.alone
    · exact ⟨writing.inside, writing.named, writing.fresh⟩
    · have whole := Directory.holds_fsync ((written.safe.fits _ (Directory.names_mem _)).bounded inode writing.named)
      rwa [content] at whole

theorem replace_safe {inode : Nat} (writing : state.Writing base thread inode old)
    (holds : state.directory.Holds inode (old.merge patch).dumps) :
    (patching config volume base).Safe call thread
      (fun _ after => ((volume, thread) ∈ after.node.holders ↔ (volume, thread) ∈ state.node.holders) ∧
        thread ∉ after.opened) (Program.perform (FineOp.replace patch)) state := by
  refine .perform fun now relied valid answer reply after _ answered => ?_
  have same := relied.same (.inl writing.inside)
  replace holds := (congrArg (Directory.Holds · inode (old.merge patch).dumps) same.directory).mpr holds
  replace writing := writing.same same
  have kept := valid.kept
  have alone := writing.alone valid
  simp only [patchMachine, exec, Option.some.injEq] at answered
  split at answered
  · cases answered
    refine ⟨alone.undisturbed rfl fun _ different => closed_beside different, ?_, relied.held, closed_outside⟩
    exact alone.valid valid ⟨kept.safe, kept.latest, closed_alone kept.alone, kept.found⟩ rfl alone.closed
  · split at answered
    next directory replaced =>
      cases answered
      refine ⟨alone.undisturbed rfl fun _ different => closed_beside different, ?_, relied.held, closed_outside⟩
      refine alone.valid valid ?_ rfl alone.closed
      obtain ⟨named, inodes⟩ := Directory.replace_spec replaced writing.named
      refine ⟨(kept.safe.replace (by decide) holds trivial writing.named replaced).settle, ?_, closed_alone kept.alone,
        kept.found⟩
      have still : directory.Holds inode (old.merge patch).dumps := by
        unfold Directory.Holds
        rw [inodes]
        exact holds
      have made : ({ now with patches := now.patches ++ [patch] } : FineNode).record base = some (old.merge patch) := by
        rw [← writing.fresh]
        exact Meta.record_concat ..
      change (directory.names .disk).map directory.content = _
      rw [named]
      exact (congrArg some still.content).trans (congrArg (Option.map Meta.dumps) made).symm
    next missing =>
      simp [Directory.replace, writing.named] at missing

/-- Between its patches a thread has none open, and holds the lock or not. -/
structure Idle (volume : VolumeId) (thread : Nat) (held : Bool) (now : FineNode) : Prop where
  lock : (volume, thread) ∈ now.node.holders ↔ held = true
  closed : thread ∉ now.opened

abbrev Finely (config : DriverConfig) (volume : VolumeId) (base : Option Meta) (call : PatchCall) (thread : Nat)
    {α : Type} (post : Except Err α → FineNode → Prop) (program : Driver α) (state : FineNode) : Prop :=
  (patching config volume base).Finely (Op.fine volume) call thread post program state

section Calls

variable {α : Type} {program : Driver α} {allowed : Op → Prop} {held : Bool}

theorem Undisturbed.closed (undisturbed : Undisturbed volume thread state now) (closed : thread ∉ state.opened) :
    thread ∉ now.opened := fun inside => closed (undisturbed.opened.mp inside)

theorem Idle.stays (idle : Idle volume thread held state) (undisturbed : Undisturbed volume thread state now) :
    Idle volume thread held now := ⟨undisturbed.held.trans idle.lock, undisturbed.closed idle.closed⟩

theorem closed_safe (within : program.Within Op.lawful allowed)
    (other : ∀ operation, allowed operation → ∀ old patch, operation ≠ .file (.installMeta volume old patch))
    (closed : thread ∉ state.opened) :
    Finely config volume base call thread (fun _ state => thread ∉ state.opened) program state := by
  refine .ofWithin within (fun operation issued state closed => ?_) closed
  refine plain_safe (other operation issued) (fun _ _ closed undisturbed => undisturbed.closed closed) ?_ closed
  intro answer reply now after closed _ _ opened _
  rwa [opened]

theorem idle_safe (within : program.Within Op.lawful allowed)
    (other : ∀ operation, allowed operation → (∀ old patch, operation ≠ .file (.installMeta volume old patch)) ∧
      operation ≠ .lock (.acquire volume) ∧ operation ≠ .lock (.release volume))
    (idle : Idle volume thread held state) :
    Finely config volume base call thread (fun _ state => Idle volume thread held state) program state := by
  refine .ofWithin within (fun operation issued state idle => ?_) idle
  obtain ⟨unpatched, unacquired, unreleased⟩ := other operation issued
  refine plain_safe unpatched (fun _ _ => Idle.stays) ?_ idle
  intro answer reply now after idle _ _ opened holders
  refine ⟨Iff.trans ?_ idle.lock, by rw [opened]; exact idle.closed⟩
  rw [holders]
  constructor
  · intro after
    by_contra before
    exact unacquired (Op.acquired_holder before after).1
  · exact Op.exec_keeps_held rfl unreleased

theorem reading_safe (within : program.Within Op.lawful Op.reads) (idle : Idle volume thread held state) :
    Finely config volume base call thread (fun _ state => Idle volume thread held state) program state := by
  refine idle_safe within (fun operation reads => ⟨?_, ?_, ?_⟩) idle
  · rintro old patch rfl
    cases reads
  · rintro rfl
    cases reads
  · rintro rfl
    cases reads

theorem image_safe {img : Path} (within : program.Within Op.lawful (ImageOp img)) (idle : Idle volume thread held state) :
    Finely config volume base call thread (fun _ state => Idle volume thread held state) program state := by
  refine idle_safe within (fun operation issued => ⟨?_, ?_, ?_⟩) idle
  · rintro old patch rfl
    cases issued with
    | looking reads => cases reads
    | probe _ only => cases only _ rfl
  · rintro rfl
    cases issued with
    | looking reads => cases reads
  · rintro rfl
    cases issued with
    | looking reads => cases reads

theorem perform_safe (operation : Op) (unpatched : ∀ old patch, operation ≠ .file (.installMeta volume old patch))
    (unlocked : ∀ lock, operation ≠ .lock lock) (idle : Idle volume thread held state) :
    Finely config volume base call thread (fun _ state => Idle volume thread held state) (Program.perform operation)
      state := by
  refine idle_safe (.perform rfl) ?_ idle
  rintro _ rfl
  exact ⟨unpatched, unlocked _, unlocked _⟩

theorem metadata_safe (idle : Idle volume thread held state) :
    Finely config volume base call thread (fun outcome after => Idle volume thread held after ∧
      (∀ data, outcome = .ok data → after.record base = some data) ∧
      (outcome = .error .fileNotFound → after.record base = none)) (metadata volume) state := by
  suffices reads : (patching config volume base).Safe call thread (fun reply after =>
      (Op.file (.readMeta volume)).lawful reply ∧ Idle volume thread held after ∧
        (∀ data, reply = .ok data → after.record base = some data) ∧
        (reply = .error .fileNotFound → after.record base = none)) (Op.fine volume (.file (.readMeta volume))) state from
    .perform (reads.weaken fun _ _ known => known.2)
  refine plain_safe (by simp) (fun _ _ => Idle.stays) ?_ idle
  intro answer reply now after idle kept executed opened holders
  obtain ⟨rfl, rfl⟩ : now.readMeta answer = reply ∧ now = after := by
    simpa [execPlain] using executed
  refine ⟨idle, ?_⟩
  unfold readMeta
  rw [kept.latest]
  cases answer.fails <;> cases now.record base <;> simp [Meta.loads_dumps]

theorem metadataOr_safe (idle : Idle volume thread held state) :
    Finely config volume base call thread (fun outcome after => Idle volume thread held after ∧
      ∀ data, outcome = .ok data → (after.record base).getD {} = data) (metadataOr volume) state := by
  refine .tryExcept (Discipline.Safe.weaken (metadata_safe idle) fun outcome state known => ?_)
  obtain ⟨idle, read, absent⟩ := known
  cases outcome with
  | ok data => exact ⟨idle, fun data told => by rw [read data told]; rfl⟩
  | error error =>
    dsimp only
    split
    · refine ⟨idle, fun data told => ?_⟩
      rw [absent rfl, ← Except.ok.inj told]
      rfl
    · refine ⟨idle, fun data told => ?_⟩
      simp at told

/-- A patch, from its read to its `os.replace`. -/
theorem install_safe (idle : Idle volume thread held state) (fresh : (state.record base).getD {} = old) :
    (patching config volume base).Safe call thread (fun _ after => Idle volume thread held after)
      (Op.fine volume (.file (.installMeta volume old patch))) state := by
  rw [Op.fine, if_pos rfl]
  refine .bind ((openTmp_safe idle.closed fun _ => fresh).weaken fun opened state known => ?_)
  obtain ⟨lock, known⟩ := known
  have lock := lock.trans idle.lock
  cases opened with
  | error error => exact ⟨lock, known⟩
  | ok inode =>
    refine .bind ((dump_safe _ known.1 known.2).weaken fun written state known => ?_)
    have lock := known.1.trans lock
    cases written with
    | error error => exact ⟨lock, known.2⟩
    | ok value =>
      refine (replace_safe known.2.1 known.2.2).weaken fun _ state known => ?_
      exact ⟨known.1.trans lock, known.2⟩

theorem patchMetadata_safe {pool : PoolName} (idle : Idle volume thread held state) :
    Finely config volume base call thread (fun _ after => Idle volume thread held after)
      (patchMetadata config volume pool patch) state := by
  refine .bind (Discipline.Safe.weaken (metadataOr_safe idle) fun outcome state known => ?_)
  cases outcome with
  | error error => exact known.1
  | ok data =>
    dsimp only
    by_cases configured : pool ∈ config.storagePools
    · rw [getVolumePath, if_pos configured]
      exact .perform (install_safe known.1 (known.2 data rfl))
    · rw [getVolumePath, if_neg configured]
      exact known.1

theorem withVolLock_safe {body : Driver α}
    (inside : ∀ state, Idle volume thread true state →
      Finely config volume base call thread (fun _ state => thread ∉ state.opened) body state)
    (closed : thread ∉ state.opened) :
    Finely config volume base call thread (fun _ state => thread ∉ state.opened) (withVolLock volume body) state := by
  have acquires : (patching config volume base).Safe call thread (fun reply state =>
      (Op.lock (.acquire volume)).lawful reply ∧ thread ∉ state.opened ∧
        ∀ value, reply = .ok value → (volume, thread) ∈ state.node.holders)
      (Op.fine volume (.lock (.acquire volume))) state := by
    refine plain_safe (by simp) (fun _ _ closed undisturbed => undisturbed.closed closed) ?_ closed
    intro answer reply now after closed _ executed opened holders
    refine ⟨by rwa [opened], ?_⟩
    rintro value rfl
    rw [holders]
    have granted := congrArg Prod.fst executed
    exact LockOp.acquire_held (Prod.ext granted rfl)
  refine .bind (.perform (acquires.weaken fun acquired state known => ?_))
  obtain ⟨-, closed, granted⟩ := known
  cases acquired with
  | error error => exact closed
  | ok value =>
    refine .tryFinally (inside state ⟨by simp [granted value rfl], closed⟩) fun state closed => ?_
    refine Discipline.Safe.weaken (closed_safe (.perform rfl) ?_ closed) fun _ _ closed _ => closed
    rintro _ rfl
    simp

theorem buildImage_safe {args : CreateVolumeArgs} (same : args.volumeId = volume) (source : Option RestoreSource)
    (idle : Idle volume thread true state) :
    Finely config volume base call thread (fun _ state => thread ∉ state.opened)
      (VolumeManager.buildImage config args source) state := by
  subst same
  have failing : ∀ (error : Err) (state : FineNode), Idle args.volumeId thread true state → thread ∉ state.opened :=
    fun _ _ idle => idle.closed
  refine .andThen (image_safe (VolumeManager.bigEnough_within _ _) idle) (fun enough state idle => ?_) failing
  split
  · exact idle.closed
  · refine .andThen (perform_safe (.file (.mkdirs _)) (by simp) (by simp) idle) (fun _ state idle => ?_) failing
    refine .andThen (perform_safe (.file (.mkdirs _)) (by simp) (by simp) idle) (fun _ state idle => ?_) failing
    refine .andThen (perform_safe (.ask .clock) (by simp) (by simp) idle) (fun createdAt state idle => ?_) failing
    refine .andThen (patchMetadata_safe idle) (fun _ state idle => ?_) failing
    refine .andThen (perform_safe (.file (.touch _)) (by simp) (by simp) idle) (fun _ state idle => ?_) failing
    refine .andThen (image_safe (VolumeManager.restore_within _ _ _ _) idle) (fun built state idle => ?_) failing
    refine .andThen (image_safe (growImage_within (.truncate _) (.fallocate _)) idle) (fun _ state idle => ?_) failing
    exact Discipline.Safe.weaken (patchMetadata_safe idle) fun _ _ idle => idle.closed

theorem createVolume_safe {args : CreateVolumeArgs} (same : args.volumeId = volume)
    (idle : Idle volume thread false state) :
    Finely config volume base call thread (fun _ state => thread ∉ state.opened)
      (VolumeManager.createVolume config args) state := by
  subst same
  have failing : ∀ (error : Err) (state : FineNode), Idle args.volumeId thread false state → thread ∉ state.opened :=
    fun _ _ idle => idle.closed
  have sourceOp : ∀ operation, SourceOp args operation →
      ∀ old patch, operation ≠ .file (.installMeta args.volumeId old patch) := by
    rintro _ issued old patch rfl
    exact issued.foreign.1 rfl
  unfold VolumeManager.createVolume
  split
  · exact idle.closed
  · refine .andThen (reading_safe (getVolumePath_within _ _ _) idle) (fun _ state idle => ?_) failing
    refine .andThen (perform_safe (.file (.mkdir _ true)) (by simp) (by simp) idle) (fun _ state idle => ?_) failing
    refine .andThen (perform_safe (.file (.mkdirs _)) (by simp) (by simp) idle) (fun _ state idle => ?_) failing
    refine .andThen (patchMetadata_safe idle) (fun _ state idle => ?_) failing
    refine .tryFinally ?_ fun state closed => Discipline.Safe.weaken
      (closed_safe (VolumeManager.removeCloneSource_within config args) sourceOp closed) fun _ _ closed _ => closed
    refine .andThen (closed_safe (VolumeManager.findSource_within config args) sourceOp idle.closed)
      (fun source state closed => ?_) fun _ _ closed => closed
    exact withVolLock_safe (fun state idle => buildImage_safe rfl source idle) closed

theorem expandRawFile_safe {newSize : Int} (closed : thread ∉ state.opened) :
    Finely config volume base call thread (fun _ state => thread ∉ state.opened)
      (Internal.expandRawFile config volume newSize) state := by
  have failing : ∀ (error : Err) (state : FineNode), Idle volume thread true state → thread ∉ state.opened :=
    fun _ _ idle => idle.closed
  have answering (exhausted : Bool) (state : FineNode) (idle : Idle volume thread true state) :
      Finely config volume base call thread (fun _ state => thread ∉ state.opened)
        (Internal.answered config volume exhausted) state :=
    Discipline.Safe.weaken (reading_safe (.bind (isAttached_within (fun _ reads => reads) _ _) fun _ => .pure _) idle)
      fun _ _ idle => idle.closed
  refine withVolLock_safe (fun state idle => ?_) closed
  refine .andThen (reading_safe (imgFile_within (fun _ reads => reads) _) idle) (fun img state idle => ?_) failing
  refine .andThen (reading_safe (imgSize_within (fun _ reads => reads) _) idle) (fun size state idle => ?_) failing
  dsimp only
  split
  · exact answering _ _ idle
  · refine .andThen (reading_safe (metadata_within (fun _ reads => reads) _) idle) (fun data state idle => ?_) failing
    refine .andThen (reading_safe (Internal.requiredSpace_within _ _ _ _) idle) (fun required state idle => ?_) failing
    refine .andThen (reading_safe (need_within _ _) idle) (fun pool state idle => ?_) failing
    refine .andThen (reading_safe (getCapacity_within (fun _ reads => reads) _ _) idle) (fun _ state idle => ?_) failing
    split
    · exact answering _ _ idle
    · refine .andThen (image_safe (growImage_within (.truncate _) (.fallocate _)) idle) (fun _ state idle => ?_) failing
      refine .andThen (patchMetadata_safe idle) (fun _ state idle => ?_) failing
      exact answering _ _ idle

theorem deleteVolume_safe (closed : thread ∉ state.opened) :
    Finely config volume base call thread (fun _ state => thread ∉ state.opened)
      (VolumeManager.deleteVolume config volume) state := by
  have failing : ∀ (error : Err) (state : FineNode), thread ∉ state.opened → thread ∉ state.opened := fun _ _ closed => closed
  have looking {β : Type} {program : Driver β} {state : FineNode} (within : program.Within Op.lawful Op.reads)
      (closed : thread ∉ state.opened) :
      Finely config volume base call thread (fun _ state => thread ∉ state.opened) program state := by
    refine closed_safe within ?_ closed
    rintro _ reads old patch rfl
    cases reads
  refine .andThen (looking (metadataOr_within (fun _ reads => reads) _) closed) (fun data state closed => ?_) failing
  refine .andThen (looking (getVolumePath_within _ _ _) closed) (fun dir state closed => ?_) failing
  refine .andThen (looking (.perform trivial) closed) (fun present state closed => ?_) failing
  split
  · exact closed
  · refine .andThen (looking (imgFile_within (fun _ reads => reads) _) closed) (fun img state closed => ?_) failing
    refine .andThen (looking (imgSize_within (fun _ reads => reads) _) closed) (fun size state closed => ?_) failing
    refine .andThen (looking (attachedLoops_within (fun _ reads => reads) _) closed) (fun loops state closed => ?_) failing
    split
    · exact closed
    · refine .andThen (looking (.perform trivial) closed) (fun clock state closed => ?_) failing
      have patched : ∀ state, Idle volume thread true state → Finely config volume base call thread
          (fun _ state => thread ∉ state.opened) (do
            patchMetadata config volume (← need "storage_pool" data.storagePool) (VolumeManager.deletingPatch clock))
          state := by
        intro state idle
        refine .andThen (reading_safe (need_within _ _) idle) (fun pool state idle => ?_) fun _ _ idle => idle.closed
        exact Discipline.Safe.weaken (patchMetadata_safe idle) fun _ _ idle => idle.closed
      refine .andThen (withVolLock_safe patched closed) (fun _ state closed => ?_) failing
      refine .andThen (closed_safe (VolumeManager.gcIfNeeded_within _ _ false) ?_ closed) (fun _ _ closed => closed) failing
      rintro _ issued old patch rfl
      obtain ⟨⟨⟨reads⟩⟩⟩ := issued
      cases reads

theorem call_safe (call : PatchCall) (vacant : (volume, thread) ∉ state.node.holders) (closed : thread ∉ state.opened) :
    Finely config volume base call thread (fun _ state => thread ∉ state.opened) (call.program config volume) state := by
  cases call with
  | createVolume args => exact @createVolume_safe _ _ _ _ _ _ { args with volumeId := volume } rfl ⟨by simp [vacant], closed⟩
  | expandRawFile newSize => exact .andThen (expandRawFile_safe closed) (fun _ _ closed => closed) fun _ _ closed => closed
  | deleteVolume => exact .andThen (deleteVolume_safe closed) (fun _ _ closed => closed) fun _ _ closed => closed

end Calls

private theorem patching_covers : (patching config volume base).Covers fun now event => now.onStep (apart volume) event =
    true where
  steps found permitted := by
    rw [Config.onStep_found found] at permitted
    exact permitted
  enters {_ call _ _} _ valid _ entered := by
    cases entered
    refine ⟨valid, fun _ _ => ⟨Iff.rfl, Iff.rfl, fun _ => .refl _⟩, fun _ absent => absent, fun absent => ?_,
      fun _ _ _ => ⟨trivial, trivial⟩, fun _ => trivial⟩
    exact Discipline.Safe.weaken (call_safe call absent.1 absent.2) fun _ _ _ => nofun
  crashes _ valid := by
    have kept := valid.kept
    refine ⟨⟨⟨kept.safe, kept.latest, by simp [patchMachine], kept.found⟩, ?_, ?_⟩, fun thread => ?_, trivial⟩
    · simp [Exclusive, patchMachine, Node.crash]
    · simp [patchMachine]
    · simp [patching, patchMachine, Node.crash]
  drifts {_ change} _ _ := nomatch change

end FineNode

/-- In a run in which the lock excludes and the unlocked first patch of
`create_volume` and the unlocked removal keep apart from its holders,
`disk.meta` is always one complete object, every replacement finds its file, and
every key that was patched since the last removal has the value of the last patch
with it. -/
theorem patches_kept {config : DriverConfig} {volume : VolumeId} {base : Option Meta} {node : Node}
    {directory : Directory MetaName Char} (stable : Stable (base.map fun data => .obj data.fields) directory)
    (vacant : node.holders = []) {last : PatchConfig}
    (reaches : (patchMachine config volume).Reaches
      (fun now event => now.onStep (FineNode.apart volume) event = true) ⟨{ node, directory }, []⟩ last) :
    (∀ text, last.state.directory.lookup .disk = some text → ∃ fields, Json.loads text = some (.obj fields)) ∧
    last.state.missed = false ∧
    ∀ key value, Meta.lastWritten key last.state.patches = some value →
      ∃ fields, (last.state.directory.lookup .disk).bind Json.loads = some (.obj fields) ∧
        fields.lookup key = some value := by
  have initial : ({ node, directory } : FineNode).Kept base := by
    refine ⟨stable.safe.mono fun _ _ => trivial, ?_, by simp, rfl⟩
    change directory.lookup .disk = base.map Meta.dumps
    rcases stable.disk with ⟨missing, none⟩ | ⟨inode, obj, named, some, holds⟩
    · rw [Option.map_eq_none_iff.mp none]
      simp [Directory.lookup, missing]
    · obtain ⟨data, rfl, rfl⟩ := Option.map_eq_some_iff.mp some
      simp only [Directory.lookup, named, Option.map_some, holds.content]
      rfl
  have kept := (FineNode.patching_covers.reaches reaches ⟨⟨initial, by simp [Exclusive, vacant], by simp⟩, by simp,
    by simp, fun thread _ => by simp [patching, vacant], fun _ => trivial⟩).valid.kept
  refine ⟨fun text found => ?_, kept.found, fun key value written => ?_⟩
  · rw [kept.latest] at found
    obtain ⟨data, -, rfl⟩ := Option.map_eq_some_iff.mp found
    exact ⟨data.fields, Json.loads_dumps data.fields_valid⟩
  · obtain ⟨data, made, found⟩ := Meta.record_written _ written
    refine ⟨data.fields, ?_, found⟩
    rw [kept.latest, FineNode.record, made]
    exact Json.loads_dumps data.fields_valid

namespace PatchedV

def base : Meta :=
  { schemaVersion := some 8, storagePool := some "default", ready := some true, volumeId := some "v",
    imgFile := some "default", size := some 1, thinProvision := some true }

def start : FineNode where
  node.files :=
    ((FileOp.mkdirs (.metaDir "v")).exec {} ((FileOp.mkdir (.volumeDir "default" "v") true).exec {} .empty).2).2
  directory :=
    { inodes := [⟨base.dumps, true⟩]
      names
        | .disk => some 0
        | .tmp => none }

private theorem start_stable : Stable (some (.obj base.fields)) start.directory :=
  ⟨rfl, .inr ⟨0, .obj base.fields, rfl, rfl, rfl⟩, nofun⟩

def deleting : List PatchEvent := .enter .deleteVolume :: List.replicate 10 (.step 0 {})

theorem patches_kept_deleting : ∃ last : PatchConfig,
    (patchMachine singlePool "v").Reaches (fun now event => now.onStep (FineNode.apart "v") event = true)
      ⟨start, []⟩ last ∧ last.state.patches = [VolumeManager.deletingPatch 0] ∧
    ∃ fields, (last.state.directory.lookup .disk).bind Json.loads = some (.obj fields) ∧
      fields.lookup "ready" = some (.bool false) := by
  have ran : ((patchMachine singlePool "v").runIf (fun now event => now.onStep (FineNode.apart "v") event)
      (deleting ++ [.step 0 {}]) ⟨start, []⟩).any (fun last =>
        decide (last.state.patches = [VolumeManager.deletingPatch 0])) = true := by
    decide +kernel
  obtain ⟨last, reached, passed⟩ := Machine.tested ran
  have patched := of_decide_eq_true passed
  obtain ⟨-, -, values⟩ := @patches_kept _ _ (some base) _ _ start_stable rfl _ reached
  exact ⟨last, reached, patched, values "ready" (.bool false) (by rw [patched]; rfl)⟩

def excludes (_call : PatchCall) (thread : Nat) (operation : FineOp) (answer : Answer) (now : FineNode) : Bool :=
  match operation with
  | .plain (.lock (.acquire target)) =>
    answer.fails = now.node.holders.any fun holder => holder.1 = target && holder.2 ≠ thread
  | _ => !answer.fails

def creation : CreateVolumeArgs := { volumeId := "v", size := 1, storagePool := "default", thinProvision := true }

/-- A creation opens the temporary file before the deletion has put it in place:
`disk.meta` is empty. -/
theorem patch_torn : ∃ last : PatchConfig,
    (patchMachine singlePool "v").Reaches (fun now event => now.onStep excludes event = true) ⟨start, []⟩ last ∧
    ∃ text, last.state.directory.lookup .disk = some text ∧ ∀ fields, Json.loads text ≠ some (.obj fields) := by
  have ran : ((patchMachine singlePool "v").runIf (fun now event => now.onStep excludes event)
      (deleting ++ .enter (.createVolume creation) :: List.replicate 4 (.step 1 {}) ++ [.step 0 {}]) ⟨start, []⟩).any
      (fun last => decide (last.state.directory.lookup .disk = some [])) = true := by decide +kernel
  obtain ⟨last, reached, empty⟩ := Machine.tested ran
  exact ⟨last, reached, [], of_decide_eq_true empty, nofun⟩

end PatchedV
end Rawfile
