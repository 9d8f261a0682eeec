import Mathlib.Data.List.Basic
import Mathlib.Logic.Function.Basic

/-! A directory whose changes reach the disk late. Open files refer to inodes
and not to names. Without `fsync` the content of a file may be anything after a
power loss, and the names may be those of any earlier moment. -/

namespace Effects

structure Inode (κ : Type) where
  content : List κ := []
  synced : Bool := false
  deriving DecidableEq

/-- Inodes are numbered as they are created. The names may be on the disk as
they are or as they were at one of the `older` moments. -/
structure Directory (ν κ : Type) where
  inodes : List (Inode κ) := []
  names : ν → Option Nat := fun _ => none
  older : List (ν → Option Nat) := []

namespace Directory

variable {ν κ : Type} [DecidableEq ν]

/-- The names as they may be on the disk. -/
def moments (dir : Directory ν κ) : List (ν → Option Nat) := dir.names :: dir.older

def content (dir : Directory ν κ) (inode : Nat) : List κ := (dir.inodes[inode]?.map Inode.content).getD []

def lookup (dir : Directory ν κ) (name : ν) : Option (List κ) := (dir.names name).map dir.content

def bind (name : ν) (inode : Option Nat) (dir : Directory ν κ) : Directory ν κ :=
  { dir with names := Function.update dir.names name inode, older := dir.moments }

/-- `open(name, "w")`: an existing file loses its content and keeps its inode. -/
def truncate (name : ν) (dir : Directory ν κ) : Nat × Directory ν κ :=
  match dir.names name with
  | some inode => (inode, { dir with inodes := dir.inodes.set inode {} })
  | none => (dir.inodes.length, bind name (some dir.inodes.length) { dir with inodes := dir.inodes ++ [{}] })

def writeAt (inode offset : Nat) (text : List κ) (dir : Directory ν κ) : Directory ν κ :=
  let old := dir.content inode
  { dir with inodes := dir.inodes.set inode { content := old.take offset ++ text ++ old.drop (offset + text.length) } }

def fsync (inode : Nat) (dir : Directory ν κ) : Directory ν κ :=
  { dir with inodes := dir.inodes.set inode ⟨dir.content inode, true⟩ }

/-- `os.replace`, which changes both names at once. -/
def replace (source dest : ν) (dir : Directory ν κ) : Option (Directory ν κ) :=
  (dir.names source).map fun inode =>
    { dir with names := Function.update (Function.update dir.names source none) dest (some inode), older := dir.moments }

def unlink (name : ν) (dir : Directory ν κ) : Directory ν κ := dir.bind name none

/-- `fsync` of the directory itself. -/
def settle (dir : Directory ν κ) : Directory ν κ := { dir with older := [] }

/-- What a power loss leaves: the names of one moment, and any content where it was not synced. -/
def powerLoss (kept : Nat) (remains : Nat → List κ) (dir : Directory ν κ) : Directory ν κ where
  inodes := dir.inodes.mapIdx fun index inode => if inode.synced then inode else ⟨remains index, true⟩
  names := dir.moments[kept]?.getD dir.names

def Holds (dir : Directory ν κ) (inode : Nat) (text : List κ) : Prop := dir.inodes[inode]? = some ⟨text, true⟩

/-- The published name refers to a complete file, and the scratch name to another one. -/
structure Fits (published scratch : ν) (good : Option (List κ) → Prop) (dir : Directory ν κ) (names : ν → Option Nat) :
    Prop where
  missing : names published = none → good none
  whole : ∀ inode, names published = some inode → ∃ text, dir.Holds inode text ∧ good (some text)
  bounded : ∀ inode, names scratch = some inode → inode < dir.inodes.length
  apart : ∀ inode, names scratch = some inode → names published ≠ some inode

/-- This was so at every moment, and the file with the scratch name was never published. -/
structure Safe (published scratch : ν) (good : Option (List κ) → Prop) (dir : Directory ν κ) : Prop where
  fits : ∀ names ∈ dir.moments, dir.Fits published scratch good names
  current : ∀ names ∈ dir.moments, ∀ inode, dir.names scratch = some inode → names published ≠ some inode

section
variable {dir : Directory ν κ} {published scratch : ν} {good : Option (List κ) → Prop} {inode other : Nat}
  {text more : List κ}

section
omit [DecidableEq ν]

theorem Holds.bounded (holds : dir.Holds inode text) : inode < dir.inodes.length :=
  (List.getElem?_eq_some_iff.mp holds).1

theorem Holds.content (holds : dir.Holds inode text) : dir.content inode = text := by
  unfold Holds at holds
  simp [Directory.content, holds]

theorem Holds.set {changed : Inode κ} (holds : dir.Holds inode text) (different : other ≠ inode) :
    ({ dir with inodes := dir.inodes.set other changed } : Directory ν κ).Holds inode text := by
  unfold Holds at holds ⊢
  rw [List.getElem?_set_ne different]
  exact holds

theorem content_set {changed : Inode κ} (inside : inode < dir.inodes.length) :
    ({ dir with inodes := dir.inodes.set inode changed } : Directory ν κ).content inode = changed.content := by
  simp [Directory.content, inside]

theorem holds_fsync (inside : inode < dir.inodes.length) : (dir.fsync inode).Holds inode (dir.content inode) := by
  simp [Holds, fsync, inside]

theorem content_writeAt (inside : inode < dir.inodes.length) (written : dir.content inode = text) :
    (dir.writeAt inode text.length more).content inode = text ++ more := by
  unfold writeAt
  rw [content_set inside, written]
  simp

theorem names_mem (dir : Directory ν κ) : dir.names ∈ dir.moments := List.mem_cons_self ..

theorem Fits.mono {wider : Option (List κ) → Prop} {names : ν → Option Nat} (fits : dir.Fits published scratch good names)
    (implies : ∀ text, good text → wider text) : dir.Fits published scratch wider names := by
  refine ⟨fun missing => implies _ (fits.missing missing), fun inode found => ?_, fits.bounded, fits.apart⟩
  obtain ⟨text, holds, well⟩ := fits.whole inode found
  exact ⟨text, holds, implies _ well⟩

theorem Fits.grow {larger : Directory ν κ} {names : ν → Option Nat} (fits : dir.Fits published scratch good names)
    (kept : ∀ inode text, names published = some inode → dir.Holds inode text → larger.Holds inode text)
    (more : dir.inodes.length ≤ larger.inodes.length) : larger.Fits published scratch good names := by
  refine ⟨fits.missing, fun inode found => ?_, fun inode found => ?_, fits.apart⟩
  · obtain ⟨text, holds, well⟩ := fits.whole inode found
    exact ⟨text, kept inode text found holds, well⟩
  · exact Nat.lt_of_lt_of_le (fits.bounded inode found) more

theorem Safe.mono {wider : Option (List κ) → Prop} (safe : dir.Safe published scratch good)
    (implies : ∀ text, good text → wider text) : dir.Safe published scratch wider :=
  ⟨fun names member => (safe.fits names member).mono implies, safe.current⟩

theorem Safe.set {changed : Inode κ} (safe : dir.Safe published scratch good) (named : dir.names scratch = some inode) :
    ({ dir with inodes := dir.inodes.set inode changed } : Directory ν κ).Safe published scratch good := by
  refine ⟨fun names member => (safe.fits names member).grow (fun target text found holds => holds.set ?_) ?_, safe.current⟩
  · rintro rfl
    exact safe.current names member inode named found
  · simp

theorem Safe.push {changed : Directory ν κ} (safe : dir.Safe published scratch good) (older : changed.older = dir.moments)
    (kept : ∀ inode text, dir.Holds inode text → changed.Holds inode text)
    (more : dir.inodes.length ≤ changed.inodes.length) (fits : changed.Fits published scratch good changed.names)
    (current : ∀ names ∈ dir.moments, ∀ inode, changed.names scratch = some inode → names published ≠ some inode) :
    changed.Safe published scratch good := by
  refine ⟨fun names member => ?_, fun names member inode named => ?_⟩
  · rcases List.mem_cons.mp member with rfl | member
    · exact fits
    · rw [older] at member
      exact (safe.fits names member).grow (fun inode text _ => kept inode text) more
  · rcases List.mem_cons.mp member with rfl | member
    · exact fits.apart inode named
    · rw [older] at member
      exact current names member inode named

end

theorem truncate_named (named : dir.names scratch = some inode) :
    dir.truncate scratch = (inode, { dir with inodes := dir.inodes.set inode {} }) := by
  simp only [Directory.truncate, named]

theorem truncate_new (unnamed : dir.names scratch = none) : dir.truncate scratch =
    (dir.inodes.length, bind scratch (some dir.inodes.length) { dir with inodes := dir.inodes ++ [{}] }) := by
  simp only [Directory.truncate, unnamed]

theorem truncate_names (different : published ≠ scratch) :
    (dir.truncate scratch).2.names published = dir.names published := by
  cases named : dir.names scratch with
  | some inode => rw [truncate_named named]
  | none =>
    rw [truncate_new named]
    exact Function.update_of_ne different _ _

section
variable (safe : dir.Safe published scratch good)
include safe

section
variable (different : published ≠ scratch)
include different

theorem Safe.truncate : (dir.truncate scratch).2.Safe published scratch good := by
  cases named : dir.names scratch with
  | some inode =>
    rw [truncate_named named]
    exact safe.set named
  | none =>
    rw [truncate_new named]
    have fresh : ∀ names ∈ dir.moments, names published ≠ some dir.inodes.length := by
      intro names member found
      obtain ⟨text, holds, -⟩ := (safe.fits names member).whole _ found
      exact absurd holds.bounded (Nat.lt_irrefl _)
    have grown : ∀ inode text, dir.Holds inode text →
        (bind scratch (some dir.inodes.length) { dir with inodes := dir.inodes ++ [{}] }).Holds inode text := by
      intro inode text holds
      have inside := holds.bounded
      unfold Holds at holds ⊢
      simp only [Directory.bind, List.getElem?_append_left inside]
      exact holds
    have unchanged : Function.update dir.names scratch (some dir.inodes.length) published = dir.names published :=
      Function.update_of_ne different _ _
    have named : Function.update dir.names scratch (some dir.inodes.length) scratch = some dir.inodes.length :=
      Function.update_self ..
    have first := safe.fits _ dir.names_mem
    have current : ∀ names ∈ dir.moments, ∀ inode,
        Function.update dir.names scratch (some dir.inodes.length) scratch = some inode → names published ≠ some inode := by
      intro names member inode found
      cases named.symm.trans found
      exact fresh names member
    refine safe.push rfl grown (by simp [Directory.bind]) ⟨fun missing => ?_, fun inode found => ?_, fun inode found => ?_,
      fun inode found => ?_⟩ current
    · exact first.missing (unchanged.symm.trans missing)
    · obtain ⟨text, holds, well⟩ := first.whole inode (unchanged.symm.trans found)
      exact ⟨text, grown _ _ holds, well⟩
    · cases named.symm.trans found
      simp [Directory.bind]
    · exact fun same => current _ dir.names_mem inode found (unchanged.symm.trans same)

theorem Safe.replace {next : Directory ν κ}
    (holds : dir.Holds inode text) (well : good (some text)) (named : dir.names scratch = some inode)
    (replaced : dir.replace scratch published = some next) : next.Safe published scratch good := by
  simp only [Directory.replace, named, Option.map_some, Option.some.injEq] at replaced
  subst replaced
  have gone : Function.update (Function.update dir.names scratch none) published (some inode) scratch = none := by
    rw [Function.update_of_ne different.symm, Function.update_self]
  have here : Function.update (Function.update dir.names scratch none) published (some inode) published = some inode :=
    Function.update_self ..
  refine safe.push rfl (fun _ _ holds => holds) (Nat.le_refl _) ⟨fun missing => ?_, fun other found => ?_,
    fun other found => ?_, fun other found => ?_⟩ fun names member other found => ?_
  · cases here.symm.trans missing
  · cases here.symm.trans found
    exact ⟨text, holds, well⟩
  · cases gone.symm.trans found
  · cases gone.symm.trans found
  · cases gone.symm.trans found

theorem Safe.unlink_published (well : good none) : (dir.unlink published).Safe published scratch good := by
  have now := safe.fits _ dir.names_mem
  have kept : (dir.unlink published).names scratch = dir.names scratch := Function.update_of_ne different.symm _ _
  have gone : (dir.unlink published).names published = none := Function.update_self ..
  refine safe.push rfl (fun _ _ holds => holds) (Nat.le_refl _) ⟨fun _ => well, fun inode found => ?_,
    fun inode found => ?_, fun inode _ found => ?_⟩ fun names member inode found => ?_
  · cases gone.symm.trans found
  · exact now.bounded inode (kept.symm.trans found)
  · cases gone.symm.trans found
  · exact safe.current names member inode (kept.symm.trans found)

theorem Safe.unlink_scratch : (dir.unlink scratch).Safe published scratch good := by
  have now := safe.fits _ dir.names_mem
  have kept : (dir.unlink scratch).names published = dir.names published := Function.update_of_ne different _ _
  have gone : (dir.unlink scratch).names scratch = none := Function.update_self ..
  refine safe.push rfl (fun _ _ holds => holds) (Nat.le_refl _) ⟨fun missing => now.missing (kept.symm.trans missing),
    fun inode found => now.whole inode (kept.symm.trans found), fun inode found => ?_, fun inode found => ?_⟩
    fun names member inode found => ?_
  · cases gone.symm.trans found
  · cases gone.symm.trans found
  · cases gone.symm.trans found

end

omit [DecidableEq ν] in
theorem Safe.settle : dir.settle.Safe published scratch good := by
  refine ⟨fun names member => ?_, fun names member => ?_⟩
  · obtain rfl := List.mem_singleton.mp member
    exact (safe.fits _ dir.names_mem).grow (fun _ _ _ holds => holds) (Nat.le_refl _)
  · obtain rfl := List.mem_singleton.mp member
    exact safe.current _ dir.names_mem

omit [DecidableEq ν] in
theorem Safe.powerLoss {kept : Nat} {remains : Nat → List κ} :
    (dir.powerLoss kept remains).Safe published scratch good := by
  have moment : (dir.powerLoss kept remains).names ∈ dir.moments := by
    simp only [Directory.powerLoss]
    cases found : dir.moments[kept]? with
    | some names => exact List.mem_of_getElem? found
    | none => exact dir.names_mem
  have survives : ∀ inode text, dir.Holds inode text → (dir.powerLoss kept remains).Holds inode text := by
    intro inode text holds
    unfold Holds at holds ⊢
    simp [Directory.powerLoss, holds]
  have fits : (dir.powerLoss kept remains).Fits published scratch good (dir.powerLoss kept remains).names :=
    (safe.fits _ moment).grow (fun inode text _ => survives inode text) (by simp [Directory.powerLoss])
  refine ⟨fun names member => ?_, fun names member => ?_⟩
  · obtain rfl := List.mem_singleton.mp member
    exact fits
  · obtain rfl := List.mem_singleton.mp member
    exact fits.apart

end

/-- A complete file that does not have the scratch name stays what it is, also for those who opened it before. -/
def Spares (scratch : ν) (before after : Directory ν κ) : Prop :=
  ∀ inode text, before.Holds inode text → before.names scratch ≠ some inode →
    after.Holds inode text ∧ after.names scratch ≠ some inode

omit [DecidableEq ν] in
theorem Spares.set {changed : Inode κ} (named : dir.names scratch = some inode) :
    dir.Spares scratch { dir with inodes := dir.inodes.set inode changed } := by
  intro other text holds apart
  refine ⟨holds.set ?_, apart⟩
  rintro rfl
  exact apart named

theorem Spares.truncate : dir.Spares scratch (dir.truncate scratch).2 := by
  cases named : dir.names scratch with
  | some inode =>
    rw [truncate_named named]
    exact .set named
  | none =>
    rw [truncate_new named]
    intro other text holds _
    have inside := holds.bounded
    refine ⟨?_, ?_⟩
    · unfold Holds at holds ⊢
      simp only [Directory.bind, List.getElem?_append_left inside]
      exact holds
    · simp only [Directory.bind, Function.update_self, ne_eq, Option.some.injEq]
      omega

theorem Spares.replace {next : Directory ν κ} (different : published ≠ scratch)
    (replaced : dir.replace scratch published = some next) : dir.Spares scratch next := by
  simp only [Directory.replace, Option.map_eq_some_iff] at replaced
  obtain ⟨inode, -, rfl⟩ := replaced
  intro other text holds _
  refine ⟨holds, ?_⟩
  simp [Function.update_of_ne different.symm]

theorem truncate_spec (bounded : ∀ inode, dir.names scratch = some inode → inode < dir.inodes.length) :
    (dir.truncate scratch).2.names scratch = some (dir.truncate scratch).1 ∧
      (dir.truncate scratch).2.content (dir.truncate scratch).1 = [] := by
  cases named : dir.names scratch with
  | some inode =>
    rw [truncate_named named]
    exact ⟨named, content_set (bounded inode named)⟩
  | none =>
    rw [truncate_new named]
    exact ⟨Function.update_self .., by simp [Directory.content, Directory.bind]⟩

theorem replace_spec {next : Directory ν κ} (replaced : dir.replace scratch published = some next)
    (named : dir.names scratch = some inode) : next.names published = some inode ∧ next.inodes = dir.inodes := by
  simp only [Directory.replace, named, Option.map_some, Option.some.injEq] at replaced
  subst replaced
  exact ⟨Function.update_self .., rfl⟩

end
end Directory
end Effects
