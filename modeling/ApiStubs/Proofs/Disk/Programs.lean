import ApiStubs.Disk.Publish

/-!
# What writing files does to a disk

A relation between disks can be steady: every disk is related to itself, two steps in a row make
one, and the working directory stays.  Such a relation holds between the disks before and after a
whole program as soon as it holds for the operations that the program is made of.  So what is proved
of making one directory and of writing one file holds for writing all files below a root, whether
that goes well or not.
-/

namespace ApiStubs

/-- The second of two programs runs on what the first has left. -/
theorem Machine.run_bind {α β : Type} (program : StateM Machine α) (next : α → StateM Machine β)
    (machine : Machine) :
    (program >>= next).run machine = (next (program.run machine).1).run (program.run machine).2 :=
  rfl

namespace Disk

/-- A relation that is kept by doing nothing and by one step after the other, in one working
directory. -/
structure Steady (R : Disk → Disk → Prop) : Prop where
  refl : ∀ disk, R disk disk
  trans : ∀ {before middle after}, R before middle → R middle after → R before after
  home : ∀ {before after}, R before after → after.home = before.home

/-- A relation holds between the disks before and after a program that is run in a working
directory. -/
def Relates (home : Location) (R : Disk → Disk → Prop) {α : Type}
    (program : StateM Machine α) : Prop :=
  ∀ machine, machine.disk.home = home → R machine.disk (program.run machine).2.disk

section Programs

variable {home : Location} {R : Disk → Disk → Prop} {α β : Type}

theorem relates_pure (hR : Steady R) (value : α) : Relates home R (pure value) :=
  fun machine _ => hR.refl machine.disk

theorem relates_bind (hR : Steady R) {program : StateM Machine α} {next : α → StateM Machine β}
    (h : Relates home R program) (hnext : ∀ value, Relates home R (next value)) :
    Relates home R (program >>= next) := by
  intro machine hhome
  have hfirst := h machine hhome
  have hmiddle : (program.run machine).2.disk.home = home := (hR.home hfirst).trans hhome
  exact hR.trans hfirst (hnext (program.run machine).1 (program.run machine).2 hmiddle)

/-- An operation that settles a change of the disk relates what the change relates. -/
theorem relates_of_settle (hR : Steady R) {program : StateM Machine (Except Fault Unit)}
    {change : Disk → Except Fault Disk}
    (hprogram : ∀ machine, program.run machine = machine.settle (change machine.disk))
    (h : ∀ before after, before.home = home → change before = .ok after → R before after) :
    Relates home R program := by
  intro machine hhome
  rw [hprogram]
  cases hchange : change machine.disk with
  | error e => exact hR.refl machine.disk
  | ok after => exact h machine.disk after hhome hchange

/-- A relation holds for making a directory at a path. -/
def RelatesMake (home : Location) (R : Disk → Disk → Prop) (path : String) : Prop :=
  ∀ before after, before.home = home → before.makeDirectory path = .ok after → R before after

theorem relates_acceptDirectory (hR : Steady R) (path : String) (outcome : Except Fault Unit) :
    Relates home R (acceptDirectory path outcome) := by
  unfold acceptDirectory
  split
  · exact relates_pure hR _
  · refine relates_bind hR (fun machine _ => hR.refl machine.disk) fun found => ?_
    cases found <;> exact relates_pure hR _
  · exact relates_pure hR _

theorem relates_makeDirectories (hR : Steady R) {paths : List String}
    (h : ∀ path ∈ paths, RelatesMake home R path) : Relates home R (makeDirectories paths) := by
  induction paths with
  | nil => exact relates_pure hR _
  | cons path outer ih =>
      obtain ⟨hpath, houter⟩ := List.forall_mem_cons.1 h
      have hmake : Relates home R (Host.makeDirectory path : StateM Machine _) :=
        relates_of_settle hR (fun _ => rfl) hpath
      unfold makeDirectories
      refine relates_bind hR hmake fun outcome => ?_
      split
      · refine relates_bind hR (ih houter) fun made => ?_
        cases made with
        | error e => exact relates_pure hR _
        | ok _ => exact relates_bind hR hmake fun again => relates_acceptDirectory hR path again
      · exact relates_acceptDirectory hR path outcome

theorem relates_makeParents (hR : Steady R) {path : String}
    (h : ∀ parent, Path.parent? path = some parent →
      ∀ ancestor ∈ Path.ancestors parent, RelatesMake home R ancestor) :
    Relates home R (makeParents path) := by
  unfold makeParents
  split
  · exact relates_pure hR _
  · rename_i parent hparent
    refine relates_bind hR (relates_makeDirectories hR (h parent hparent)) fun made => ?_
    cases made <;> exact relates_pure hR _

/-- A relation that holds for making the directories that files lie in and for writing each of the
files holds for writing them all. -/
theorem relates_publish (hR : Steady R) {root : String} {files : List (String × String)}
    (hmake : ∀ file ∈ files, ∀ parent, Path.parent? (Path.join root file.1) = some parent →
      ∀ ancestor ∈ Path.ancestors parent, RelatesMake home R ancestor)
    (hwrite : ∀ file ∈ files, ∀ before after, before.home = home →
      before.write (Path.join root file.1) (Utf8.encode file.2) = .ok after → R before after) :
    Relates home R (publish root files) := by
  induction files with
  | nil => exact relates_pure hR _
  | cons file rest ih =>
      obtain ⟨hmakeFile, hmakeRest⟩ := List.forall_mem_cons.1 hmake
      obtain ⟨hwriteFile, hwriteRest⟩ := List.forall_mem_cons.1 hwrite
      unfold publish
      refine relates_bind hR (relates_makeParents hR hmakeFile) fun made => ?_
      cases made with
      | error e => exact relates_pure hR _
      | ok _ =>
          refine relates_bind hR (relates_of_settle hR (fun _ => rfl) hwriteFile) fun written => ?_
          cases written with
          | error e => exact relates_pure hR _
          | ok _ => exact ih hmakeRest hwriteRest

end Programs

/-! ## Files that were all written -/

/-- Where all files were written, the first was written after its directories were made, and the
others after it. -/
theorem exists_of_publish_cons {root : String} {file : String × String}
    {rest : List (String × String)} {machine after : Machine}
    (h : (publish root (file :: rest) : StateM Machine (Except PublishFault Unit)).run machine =
      (.ok (), after)) :
    ∃ middle : Machine, ∃ written : Disk,
      (makeParents (Path.join root file.1) : StateM Machine (Except PublishFault Unit)).run
        machine = (.ok (), middle) ∧
      middle.disk.write (Path.join root file.1) (Utf8.encode file.2) = .ok written ∧
      (publish root rest : StateM Machine (Except PublishFault Unit)).run
        { middle with disk := written } =
        (.ok (), after) := by
  unfold publish at h
  rw [Machine.run_bind] at h
  rcases hparents : (makeParents (Path.join root file.1) : StateM Machine
    (Except PublishFault Unit)).run
    machine with ⟨made, middle⟩
  rw [hparents] at h
  cases made with
  | error e => cases h
  | ok _ =>
      have hsettle : (Host.write (Path.join root file.1) (Utf8.encode file.2) :
          StateM Machine _).run middle =
          middle.settle (middle.disk.write (Path.join root file.1) (Utf8.encode file.2)) := rfl
      simp only [Machine.run_bind, hsettle] at h
      cases hwrite : middle.disk.write (Path.join root file.1) (Utf8.encode file.2) with
      | error e =>
          rw [hwrite] at h
          cases h
      | ok written =>
          rw [hwrite] at h
          exact ⟨middle, written, rfl, hwrite, h⟩

end Disk

end ApiStubs
