import ApiStubs.Proofs.Disk.Programs
import ApiStubs.Proofs.Disk.Resolution
import ApiStubs.Proofs.Generation

/-!
# Writing below a root

Names that lead to something below the directory they are taken relative to are written below the
root, and nothing else changes but that the root and the directories on the way to it are made where
they are missing.  This holds for whole programs, since it holds for making one directory and for
writing one file.

Names are not looked at before they are written.  They are made of names of the description, so that
a description can lead out of the root.
-/

namespace ApiStubs.Disk

/-- Two disks differ only below a root, and in directories on the way to it that are new. -/
structure Confined (root : String) (before after : Disk) : Prop where
  home : after.home = before.home
  changed : ∀ location, after.find? location ≠ before.find? location →
    (∃ name names, location = Path.target before.home root ++ name :: names) ∨
    (Path.Passes before.home root location ∧ before.find? location = none ∧
      after.find? location = some .directory)

theorem Confined.refl (root : String) (disk : Disk) : Confined root disk disk :=
  ⟨rfl, fun _ h => absurd rfl h⟩

theorem Confined.trans {root : String} {before middle after : Disk}
    (first : Confined root before middle) (second : Confined root middle after) :
    Confined root before after := by
  refine ⟨second.home.trans first.home, fun location hchanged => ?_⟩
  by_cases hsecond : after.find? location = middle.find? location
  · rw [hsecond] at hchanged ⊢
    exact first.changed location hchanged
  · rcases second.changed location hsecond with hbelow | ⟨hpasses, hnone, hsome⟩
    · exact .inl (first.home ▸ hbelow)
    · by_cases hfirst : middle.find? location = before.find? location
      · exact .inr ⟨first.home ▸ hpasses, hfirst ▸ hnone, hsome⟩
      · rcases first.changed location hfirst with hbelow | ⟨-, -, hmade⟩
        · exact .inl hbelow
        · rw [hnone] at hmade
          cases hmade

theorem confined_put {disk : Disk} {root : String} {location : Location} {entry : Entry}
    (hlocation : location ≠ [])
    (h : (∃ name names, location = Path.target disk.home root ++ name :: names) ∨
      (Path.Passes disk.home root location ∧ disk.find? location = none ∧ entry = .directory)) :
    Confined root disk (disk.put location entry) := by
  refine ⟨rfl, fun other hother => ?_⟩
  have hput := disk.find?_put entry hlocation other
  by_cases heq : location = other
  · subst heq
    rw [if_pos rfl] at hput
    rcases h with hbelow | ⟨hpasses, hnone, rfl⟩
    · exact .inl hbelow
    · exact .inr ⟨hpasses, hnone, hput⟩
  · rw [if_neg heq] at hput
    exact absurd hput hother

/-- Writing a file whose name stays below a root. -/
theorem confined_of_write {disk after : Disk} {root name : String} {content : Bytes}
    (hname : Path.staysBelow name = true)
    (h : disk.write (Path.join root name) content = .ok after) :
    Confined root disk after := by
  obtain ⟨directory, before, last, hends, -, -, rfl⟩ := exists_endsIn_of_write h
  obtain ⟨tail, htail⟩ : ∃ tail, Path.follow (Path.origin disk.home (Path.join root name)) before =
      Path.target disk.home root ++ tail := Path.exists_below_of_join hname hends.segments
  refine confined_put (by simp) (.inl ?_)
  rw [hends.directory_eq, htail, List.append_assoc]
  obtain ⟨first, rest, hrest⟩ := List.exists_cons_of_ne_nil (List.concat_ne_nil last tail)
  exact ⟨first, rest, by rw [← hrest]⟩

/-- Making a directory on the way to a root or below it. -/
theorem confined_of_makeDirectory {disk after : Disk} {root path : String}
    (hpath : Path.Passes disk.home root (Path.target disk.home path) ∨
      ∃ tail, Path.target disk.home path = Path.target disk.home root ++ tail)
    (h : disk.makeDirectory path = .ok after) : Confined root disk after := by
  obtain ⟨hne, hnone, rfl⟩ := eq_put_of_makeDirectory h
  refine confined_put hne ?_
  rcases hpath with hpasses | ⟨tail, htail⟩
  · exact .inr ⟨hpasses, hnone, rfl⟩
  · cases tail with
    | nil =>
        rw [List.append_nil] at htail
        exact .inr ⟨htail ▸ Path.passes_target disk.home root, hnone, rfl⟩
    | cons name names => exact .inl ⟨name, names, htail⟩

/-! ## Programs -/

theorem steady_confined (root : String) : Steady (Confined root) where
  refl := Confined.refl root
  trans := Confined.trans
  home := Confined.home

theorem relates_confined_publish {home : Location} {root : String} {files : List (String × String)}
    (h : ∀ file ∈ files, Path.staysBelow file.1 = true) :
    Relates home (Confined root) (publish root files) := by
  refine relates_publish (steady_confined root) ?_ ?_
  · intro file hfile parent hparent ancestor hancestor before after hhome hmake
    subst hhome
    have hway : Path.Passes before.home (Path.join root file.1)
        (Path.target before.home ancestor) :=
      Path.passes_of_mem_ancestors hparent hancestor
    exact confined_of_makeDirectory (hway.of_join (h file hfile)) hmake
  · intro file hfile before after _ hwrite
    exact confined_of_write (h file hfile) hwrite

/-- Whether it goes well or not, writing files whose names stay below a root changes nothing outside
the root, except that the root and the directories on the way to it are made where nothing was. -/
theorem publish_confined (root : String) {files : List (String × String)}
    (h : ∀ file ∈ files, Path.staysBelow file.1 = true) (machine : Machine) :
    Confined root machine.disk
      ((publish root files : StateM Machine (Except PublishFault Unit)).run machine).2.disk :=
  relates_confined_publish h machine rfl

/-- A name with two dots in it that stays below the root: a directory is made on its way and the
file is written, both below the root. -/
theorem publish_confined_nested :
    let files := [("a/../b/x.txt", "x")]
    let machine : Machine := ⟨Disk.blank ["work"], .ok []⟩
    let after :=
      ((publish "out" files : StateM Machine (Except PublishFault Unit)).run machine).2.disk
    (∀ file ∈ files, Path.staysBelow file.1 = true) ∧
      after.find? ["work", "out", "a"] = some .directory ∧
      after.find? ["work", "out", "b", "x.txt"] = some (.file [120]) ∧
      Confined "out" machine.disk after := by
  intro files machine after
  have hfiles : ∀ file ∈ files, Path.staysBelow file.1 = true := by decide
  exact ⟨hfiles, by decide +kernel, by decide +kernel, publish_confined "out" hfiles machine⟩

/-- A single file whose name climbs out of a root lands beside the root. -/
theorem publish_climbing (content : String) :
    (publish "out" [("../evil.php", content)] : StateM Machine (Except PublishFault Unit)).run
        ⟨Disk.blank ["work"], .ok []⟩ =
      (.ok (), ⟨((Disk.blank ["work"]).put ["work", "out"] .directory).put ["work", "evil.php"]
        (.file (Utf8.encode content)), .ok []⟩) := by
  rfl

/-- The name of a service is part of the name of its file, so that a service can have its file
written beside the root. -/
theorem publish_escapes :
    let request : Request := { Request.empty with services := [⟨"../evil", [], SortedMap.empty⟩] }
    let machine : Machine := ⟨Disk.blank ["work"], .ok []⟩
    ∃ files, (Generator.standard .builtin).generate "php" request = .ok files ∧
      let run :=
        (publish "out" files.toList : StateM Machine (Except PublishFault Unit)).run machine
      run.1 = .ok () ∧ ¬ Confined "out" machine.disk run.2.disk := by
  intro request machine
  let service : Service := ⟨"../evil", [], SortedMap.empty⟩
  have hservice : request.services = (some service).toList := rfl
  have hfound : Registry.standard.find "php" = .ok .php := find_standard (by decide)
  obtain ⟨content, hpages⟩ : ∃ content, Backend.php.pages request (some service) =
      [("../evil.php", content)] := ⟨_, rfl⟩
  refine ⟨⟨SortedMap.empty.insert "../evil.php" content⟩, ?_, ?_⟩
  · rw [generate_builtin_of_found hfound hservice, hpages]
    rfl
  · have htoList : OutputFiles.toList ⟨SortedMap.empty.insert "../evil.php" content⟩ =
        [("../evil.php", content)] := rfl
    rw [htoList, publish_climbing]
    refine ⟨rfl, fun hconfined => ?_⟩
    have hbefore : machine.disk.find? ["work", "evil.php"] = none := by decide
    have hafter : (((Disk.blank ["work"]).put ["work", "out"] .directory).put ["work", "evil.php"]
        (.file (Utf8.encode content))).find? ["work", "evil.php"] =
          some (.file (Utf8.encode content)) := by
      rw [find?_put _ _ (by decide), if_pos rfl]
    have htarget : Path.target machine.disk.home "out" = ["work", "out"] := by decide
    rcases hconfined.changed ["work", "evil.php"] (by simp [hafter, hbefore]) with
      ⟨name, names, hbelow⟩ | ⟨-, -, hdirectory⟩
    · simp [htarget] at hbelow
    · rw [hafter] at hdirectory
      cases hdirectory

end ApiStubs.Disk
