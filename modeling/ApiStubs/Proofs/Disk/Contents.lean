import ApiStubs.Proofs.Disk.Programs
import ApiStubs.Proofs.Disk.Resolution
import ApiStubs.Proofs.Generation
import ApiStubs.Proofs.Text.Utf8

/-!
# What written files hold

Writing files takes nothing away from a disk: directories stay, files stay files, and a file gets
another content only where one of the names leads to it.  So after files were all written, each path
holds the content of the last file that leads to the same location.  Names are told apart as texts
and not by where they lead; two names that lead to one location are both accepted, and the second
content takes the place of the first.
-/

namespace ApiStubs.Disk

/-- Between two disks nothing went away, and only files at some places got another content. -/
structure Replaces (places : Set Location) (before after : Disk) : Prop where
  home : after.home = before.home
  directory : ∀ location, before.find? location = some .directory →
    after.find? location = some .directory
  file : ∀ location content, before.find? location = some (.file content) →
    ∃ next, after.find? location = some (.file next) ∧ (location ∉ places → next = content)

theorem steady_replaces (places : Set Location) : Steady (Replaces places) where
  refl disk := ⟨rfl, fun _ h => h, fun _ content h => ⟨content, h, fun _ => rfl⟩⟩
  home h := h.home
  trans := by
    intro before middle after first second
    refine ⟨second.home.trans first.home, fun location h => second.directory location
      (first.directory location h), ?_⟩
    intro location content h
    obtain ⟨next, hnext, hkept⟩ := first.file location content h
    obtain ⟨last, hlast, hkeptAgain⟩ := second.file location next hnext
    exact ⟨last, hlast, fun houtside => (hkeptAgain houtside).trans (hkept houtside)⟩

section Operations

variable {places : Set Location} {before after : Disk} {path : String}

theorem replaces_of_makeDirectory (h : before.makeDirectory path = .ok after) :
    Replaces places before after := by
  obtain ⟨hne, hfree, rfl⟩ := eq_put_of_makeDirectory h
  -- nothing was at the place of the new directory
  have hput : ∀ location entry, before.find? location = some entry →
      (before.put (Path.target before.home path) .directory).find? location = some entry := by
    intro location entry hentry
    rw [find?_put _ _ hne, if_neg, hentry]
    rintro rfl
    rw [hfree] at hentry
    cases hentry
  exact ⟨rfl, fun location => hput location _, fun location content hfile =>
    ⟨content, hput location _ hfile, fun _ => rfl⟩⟩

theorem replaces_of_write {content : Bytes} (hplace : Path.target before.home path ∈ places)
    (h : before.write path content = .ok after) : Replaces places before after := by
  obtain ⟨directory, lead, name, hends, -, hfree, rfl⟩ := exists_endsIn_of_write h
  rw [hends.target] at hplace
  have hput := before.find?_put (.file content) (List.concat_ne_nil name directory)
  refine ⟨rfl, fun location hdirectory => ?_, fun location old hfile => ?_⟩
  · rw [hput, if_neg, hdirectory]
    rintro rfl
    exact hfree hdirectory
  · by_cases hsame : directory ++ [name] = location
    · exact ⟨content, by rw [hput, if_pos hsame], fun houtside => absurd (hsame ▸ hplace) houtside⟩
    · exact ⟨old, by rw [hput, if_neg hsame, hfile], fun _ => rfl⟩

/-- What could be followed from a directory can still be followed. -/
theorem Replaces.admits (h : Replaces places before after) {directory : Location} {piece : String}
    (hpiece : before.Admits directory piece) : after.Admits directory piece := by
  rcases hpiece with hsilent | hup | ⟨hshort, hfound⟩
  · exact .inl hsilent
  · exact .inr (.inl hup)
  · obtain ⟨entry, hentry⟩ := Option.isSome_iff_exists.1 hfound
    refine .inr (.inr ⟨hshort, Option.isSome_iff_exists.2 ?_⟩)
    cases entry with
    | directory => exact ⟨_, h.directory _ hentry⟩
    | file content =>
        obtain ⟨next, hnext, -⟩ := h.file _ content hentry
        exact ⟨_, hnext⟩

/-- Paths that could be followed can still be followed, to the same location. -/
theorem Replaces.walk_eq (h : Replaces places before after) {start location : Location}
    {pieces : List String} (hwalk : before.walk start pieces = .ok location) :
    after.walk start pieces = .ok location := by
  induction pieces generalizing start with
  | nil => exact hwalk
  | cons piece rest ih =>
      obtain ⟨hstart, hpiece, hrest⟩ := walk_cons_eq_ok_iff.1 hwalk
      exact walk_cons_eq_ok_iff.2 ⟨h.directory start hstart, h.admits hpiece, ih hrest⟩

theorem eq_target_of_locate {disk : Disk} {location : Location}
    (h : disk.locate path = .ok location) :
    location = Path.target disk.home path := by
  unfold locate at h
  split at h
  · cases h
  · rename_i ps hpieces
    rw [Path.target, ← pieces_eq_segments hpieces]
    exact walk_eq_follow h

theorem Replaces.locate_eq (h : Replaces places before after) {location : Location}
    (hlocate : before.locate path = .ok location) : after.locate path = .ok location := by
  unfold locate at hlocate ⊢
  have hstart : after.start path = before.start path := by rw [start, start, h.home]
  cases hpieces : Disk.pieces path with
  | error e => simp [hpieces] at hlocate
  | ok ps =>
      simp only [hpieces, hstart] at hlocate ⊢
      exact h.walk_eq hlocate

/-- A path can be read where it leads to a file, and what is read is what the file holds. -/
theorem read_eq_ok_iff {disk : Disk} {content : Bytes} :
    disk.read path = .ok content ↔
      disk.locate path = .ok (Path.target disk.home path) ∧
        disk.find? (Path.target disk.home path) = some (.file content) := by
  constructor
  · intro h
    cases hlocate : disk.locate path with
    | error e => simp [read, look, hlocate] at h
    | ok location =>
        obtain rfl := eq_target_of_locate hlocate
        refine ⟨rfl, ?_⟩
        cases hfind : disk.find? (Path.target disk.home path) with
        | none => simp [read, look, hlocate, hfind] at h
        | some entry =>
            cases entry with
            | directory => simp [read, look, hlocate, hfind] at h
            | file found => simpa [read, look, hlocate, hfind] using h
  · rintro ⟨hlocate, hfind⟩
    simp [read, look, hlocate, hfind]

/-- A file that could be read can still be read, with the same content unless one of the places is
its own. -/
theorem Replaces.exists_read (h : Replaces places before after) {content : Bytes}
    (hread : before.read path = .ok content) :
    ∃ next, after.read path = .ok next ∧
      (Path.target before.home path ∉ places → next = content) := by
  obtain ⟨hlocate, hfind⟩ := read_eq_ok_iff.1 hread
  obtain ⟨next, hnext, hkept⟩ := h.file _ content hfind
  refine ⟨next, read_eq_ok_iff.2 ?_, hkept⟩
  rw [h.home]
  exact ⟨h.locate_eq hlocate, hnext⟩

/-- What has been written can be read. -/
theorem read_of_write {content : Bytes} (h : before.write path content = .ok after) :
    after.read path = .ok content := by
  have hkept : Replaces {Path.target before.home path} before after := replaces_of_write rfl h
  obtain ⟨directory, lead, name, hends, hname, -, rfl⟩ := exists_endsIn_of_write h
  have hfile := before.find?_put (.file content) (List.concat_ne_nil name directory)
    (directory ++ [name])
  rw [if_pos rfl] at hfile
  have hlast : (before.put (directory ++ [name]) (.file content)).walk directory [name] =
      .ok (directory ++ [name]) := by
    refine walk_cons_eq_ok_iff.2 ⟨hkept.directory directory hends.found, ?_, ?_⟩
    · exact .inr (.inr ⟨hname, by rw [hfile]; rfl⟩)
    · rw [hends.advance]
      rfl
  have htarget : Path.target (before.put (directory ++ [name]) (.file content)).home path =
      directory ++ [name] := hends.target
  rw [read_eq_ok_iff, htarget]
  refine ⟨?_, hfile⟩
  unfold locate
  rw [hends.pieces]
  exact walk_append (hkept.walk_eq hends.walk) hlast

end Operations

/-! ## Whole sets of files -/

/-- The location that a file goes to when its name is taken below a root. -/
def destination (home : Location) (root : String) (file : String × String) : Location :=
  Path.target home (Path.join root file.1)

/-- The locations that files go to. -/
def destinations (home : Location) (root : String) (files : List (String × String)) :
    Set Location :=
  { location | ∃ file ∈ files, destination home root file = location }

section Publish

variable {root : String} {files rest : List (String × String)} {file : String × String}
  {machine after : Machine}

/-- Making the directories of a file leaves all files as they are. -/
theorem relates_replaces_makeParents (home : Location) (path : String) :
    Relates home (Replaces ∅) (makeParents path) :=
  relates_makeParents (steady_replaces ∅) fun _ _ _ _ _ _ _ hmake => replaces_of_makeDirectory hmake

/-- Writing files gives another content only to files that one of them goes to. -/
theorem relates_replaces_publish (home : Location) (root : String)
    (files : List (String × String)) :
    Relates home (Replaces (destinations home root files)) (publish root files) := by
  refine relates_publish (steady_replaces _) ?_ ?_
  · intro file _ parent _ ancestor _ before after _ hmake
    exact replaces_of_makeDirectory hmake
  · intro file hfile before after hhome hwrite
    exact replaces_of_write ⟨file, hfile, by rw [hhome]; rfl⟩ hwrite

/-- Where all files were written, the first can be read before the others are written. -/
theorem exists_read_of_publish_cons
    (h : (publish root (file :: rest) : StateM Machine (Except PublishFault Unit)).run machine =
      (.ok (), after)) :
    ∃ middle : Machine, middle.disk.home = machine.disk.home ∧
      middle.disk.read (Path.join root file.1) = .ok (Utf8.encode file.2) ∧
      (publish root rest : StateM Machine (Except PublishFault Unit)).run middle =
        (.ok (), after) := by
  obtain ⟨middle, written, hparents, hwrite, hrest⟩ := exists_of_publish_cons h
  have hmade := relates_replaces_makeParents machine.disk.home (Path.join root file.1) machine rfl
  rw [hparents] at hmade
  have hwritten : Replaces {Path.target middle.disk.home (Path.join root file.1)}
      middle.disk written :=
    replaces_of_write rfl hwrite
  exact ⟨{ middle with disk := written }, hwritten.home.trans hmade.home,
    read_of_write hwrite, hrest⟩

/-- What the files leave of a file that could be read before them. -/
theorem exists_read_of_publish {path : String} {content : Bytes}
    (h : (publish root files : StateM Machine (Except PublishFault Unit)).run machine =
      (.ok (), after))
    (hread : machine.disk.read path = .ok content) :
    ∃ next, after.disk.read path = .ok next ∧
      (Path.target machine.disk.home path ∉ destinations machine.disk.home root files →
        next = content) := by
  have hkept := relates_replaces_publish machine.disk.home root files machine rfl
  rw [h] at hkept
  exact hkept.exists_read hread

/-- Every file can be read in the end. -/
theorem exists_read_of_mem
    (h : (publish root files : StateM Machine (Except PublishFault Unit)).run machine =
      (.ok (), after))
    (hfile : file ∈ files) : ∃ content, after.disk.read (Path.join root file.1) = .ok content := by
  induction files generalizing machine with
  | nil => cases hfile
  | cons first rest ih =>
      obtain ⟨middle, -, hread, hrest⟩ := exists_read_of_publish_cons h
      rcases List.mem_cons.1 hfile with rfl | hmem
      · obtain ⟨content, hcontent, -⟩ := exists_read_of_publish hrest hread
        exact ⟨content, hcontent⟩
      · exact ih hrest hmem

/-- A file holds its content in the end if none after it goes to its place. -/
theorem read_of_last {before : List (String × String)}
    (h : (publish root (before ++ file :: rest) : StateM Machine (Except PublishFault Unit)).run
      machine = (.ok (), after))
    (hlast : destination machine.disk.home root file ∉ destinations machine.disk.home root rest) :
    after.disk.read (Path.join root file.1) = .ok (Utf8.encode file.2) := by
  induction before generalizing machine with
  | nil =>
      obtain ⟨middle, hhome, hread, hrest⟩ := exists_read_of_publish_cons h
      obtain ⟨content, hcontent, hkept⟩ := exists_read_of_publish hrest hread
      rw [hhome] at hkept
      rw [hcontent, hkept hlast]
  | cons first before ih =>
      obtain ⟨middle, hhome, -, hrest⟩ := exists_read_of_publish_cons h
      exact ih hrest (by rwa [hhome])

theorem home_of_publish
    (h : (publish root files : StateM Machine (Except PublishFault Unit)).run machine =
      (.ok (), after)) :
    after.disk.home = machine.disk.home := by
  have hkept := relates_replaces_publish machine.disk.home root files machine rfl
  rw [h] at hkept
  exact hkept.home

/-- Paths that lead to one location hold one content. -/
theorem read_eq_of_target_eq {disk : Disk} {path other : String} {content found : Bytes}
    (htarget : Path.target disk.home path = Path.target disk.home other)
    (hread : disk.read path = .ok content) (hother : disk.read other = .ok found) :
    content = found := by
  have hfile := (read_eq_ok_iff.1 hread).2
  rw [htarget, (read_eq_ok_iff.1 hother).2] at hfile
  cases hfile
  rfl

/-- Of the files that go to one place, the last gives all of them its content. -/
theorem read_of_same_destination {before : List (String × String)} {same : String × String}
    (h : (publish root (before ++ file :: rest) : StateM Machine (Except PublishFault Unit)).run
      machine = (.ok (), after))
    (hlast : destination machine.disk.home root file ∉ destinations machine.disk.home root rest)
    (hmem : same ∈ before ++ file :: rest)
    (hsame : destination machine.disk.home root same = destination machine.disk.home root file) :
    after.disk.read (Path.join root same.1) = .ok (Utf8.encode file.2) := by
  obtain ⟨content, hcontent⟩ := exists_read_of_mem h hmem
  have htarget : Path.target after.disk.home (Path.join root same.1) =
      Path.target after.disk.home (Path.join root file.1) := by
    rw [home_of_publish h]
    exact hsame
  rw [hcontent, read_eq_of_target_eq htarget hcontent (read_of_last h hlast)]

/-- Of the files that go to a place, one is the last. -/
theorem exists_last {home location : Location} (h : location ∈ destinations home root files) :
    ∃ before last rest, files = before ++ last :: rest ∧ destination home root last = location ∧
      location ∉ destinations home root rest := by
  induction files with
  | nil =>
      obtain ⟨_, hmem, _⟩ := h
      cases hmem
  | cons first rest ih =>
      by_cases hlater : location ∈ destinations home root rest
      · obtain ⟨before, last, behind, rfl, hlast, hbehind⟩ := ih hlater
        exact ⟨first :: before, last, behind, rfl, hlast, hbehind⟩
      · obtain ⟨same, hmem, hsame⟩ := h
        rcases List.mem_cons.1 hmem with rfl | hrest
        · exact ⟨[], same, rest, rfl, hsame, hlater⟩
        · exact absurd ⟨same, hrest, hsame⟩ hlater

/-- Files hold what they were given exactly when those that go to one place were given the same. -/
theorem forall_read_iff
    (h : (publish root files : StateM Machine (Except PublishFault Unit)).run machine =
      (.ok (), after)) :
    (∀ file ∈ files, after.disk.read (Path.join root file.1) = .ok (Utf8.encode file.2)) ↔
      ∀ file ∈ files, ∀ other ∈ files, destination machine.disk.home root file =
        destination machine.disk.home root other → file.2 = other.2 := by
  constructor
  · intro hread file hfile other hother hsame
    have htarget : Path.target after.disk.home (Path.join root file.1) =
        Path.target after.disk.home (Path.join root other.1) := by
      rw [home_of_publish h]
      exact hsame
    have hcontents := read_eq_of_target_eq htarget (hread file hfile) (hread other hother)
    have hdecoded := congrArg Utf8.decode? hcontents
    rw [Utf8.decode?_encode, Utf8.decode?_encode] at hdecoded
    exact Option.some.inj hdecoded
  · intro hagree file hfile
    have hplace : destination machine.disk.home root file ∈
        destinations machine.disk.home root files :=
      ⟨file, hfile, rfl⟩
    obtain ⟨before, last, behind, rfl, hlast, hbehind⟩ := exists_last hplace
    rw [read_of_same_destination h (hlast ▸ hbehind) hfile hlast.symm,
      hagree file hfile last (by simp) hlast.symm]

end Publish

/-- Plain names that differ lead to different places. -/
theorem name_eq_of_destination_eq {home : Location} {root : String} {file other : String × String}
    (hfile : Path.isPlain file.1 = true) (hother : Path.isPlain other.1 = true)
    (h : destination home root file = destination home root other) : file.1 = other.1 := by
  unfold destination at h
  rw [Path.target_join_of_isPlain hfile, Path.target_join_of_isPlain hother] at h
  exact Text.segments_injective '/' (List.append_cancel_left h)

/-- Files of a set whose names are plain all hold what they were given. -/
theorem forall_read_of_isPlain {root : String} {files : OutputFiles} {machine after : Machine}
    (h : (publish root files.toList : StateM Machine (Except PublishFault Unit)).run machine =
      (.ok (), after))
    (hplain : ∀ file ∈ files.toList, Path.isPlain file.1 = true) :
    ∀ file ∈ files.toList, after.disk.read (Path.join root file.1) = .ok (Utf8.encode file.2) := by
  rw [forall_read_iff h]
  intro file hfile other hother hsame
  have hname : file.1 = other.1 :=
    name_eq_of_destination_eq (hplain file hfile) (hplain other hother) hsame
  rw [OutputFiles.eq_of_mem_toList hfile hother hname]

/-- After a set of files was written, each path holds the content of the last file of the set that
goes to the same place.  So all files hold what they were given exactly when those that go to one
place were given the same, as is so when every name is plain: the names of a set differ, and plain
names that differ lead to different places. -/
theorem publish_holds_last (root : String) (files : OutputFiles) {machine after : Machine}
    (h : (publish root files.toList : StateM Machine (Except PublishFault Unit)).run machine =
      (.ok (), after)) :
    (∀ before last rest, files.toList = before ++ last :: rest →
      destination machine.disk.home root last ∉ destinations machine.disk.home root rest →
      ∀ file ∈ files.toList,
        destination machine.disk.home root file = destination machine.disk.home root last →
        after.disk.read (Path.join root file.1) = .ok (Utf8.encode last.2)) ∧
    ((∀ file ∈ files.toList, after.disk.read (Path.join root file.1) = .ok (Utf8.encode file.2)) ↔
      ∀ file ∈ files.toList, ∀ other ∈ files.toList, destination machine.disk.home root file =
        destination machine.disk.home root other → file.2 = other.2) ∧
    ((∀ file ∈ files.toList, Path.isPlain file.1 = true) →
      ∀ file ∈ files.toList, after.disk.read (Path.join root file.1) =
        .ok (Utf8.encode file.2)) := by
  refine ⟨fun before last rest hfiles hlast file hfile hsame => ?_, forall_read_iff h,
    forall_read_of_isPlain h⟩
  rw [hfiles] at h hfile
  exact read_of_same_destination h hlast hfile hsame

section Respelled

/-- Two names of one file, as a set of files. -/
def respelled (own other : String) : OutputFiles :=
  ⟨(SortedMap.empty.insert "A.java" own).insert "./A.java" other⟩

variable (own other : String)

theorem toList_respelled :
    (respelled own other).toList = [("./A.java", other), ("A.java", own)] := by
  have hlt : "./A.java" < "A.java" := by decide
  exact if_pos hlt

theorem addAll_respelled :
    OutputFiles.empty.addAll [("A.java", own), ("./A.java", other)] =
      .ok (respelled own other) := by
  simp [OutputFiles.addAll, OutputFiles.insert, OutputFiles.empty, SortedMap.contains,
    SortedMap.get?_insert, respelled]

/-- Both files are written to one place, one after the other. -/
theorem publish_respelled :
    (publish "out" (respelled own other).toList : StateM Machine (Except PublishFault Unit)).run
        ⟨Disk.blank ["work"], .ok []⟩ =
      (.ok (), ⟨((Disk.blank ["work"]).put ["work", "out"] .directory).put ["work", "out", "A.java"]
        (.file (Utf8.encode own)), .ok []⟩) := by
  rw [toList_respelled]
  rfl

theorem destination_respelled :
    destination ["work"] "out" ("./A.java", other) =
      destination ["work"] "out" ("A.java", own) := by
  have htarget : Path.target ["work"] (Path.join "out" "./A.java") =
      Path.target ["work"] (Path.join "out" "A.java") := by decide
  exact htarget

end Respelled

/-- Two names of one file that are given different contents: both are read with the content of the
last of them, so that the other content is lost. -/
theorem publish_holds_last_respelled :
    let files := respelled "first" "second"
    let machine : Machine := ⟨Disk.blank ["work"], .ok []⟩
    ∃ after, (publish "out" files.toList : StateM Machine (Except PublishFault Unit)).run machine =
        (.ok (), after) ∧
      after.disk.read (Path.join "out" "./A.java") = .ok (Utf8.encode "first") ∧
      after.disk.read (Path.join "out" "A.java") = .ok (Utf8.encode "first") ∧
      ¬ ∀ file ∈ files.toList, after.disk.read (Path.join "out" file.1) =
        .ok (Utf8.encode file.2) := by
  intro files machine
  have hfiles : files.toList = [("./A.java", "second"), ("A.java", "first")] := toList_respelled ..
  have hother : ("./A.java", "second") ∈ files.toList := by simp [hfiles]
  have hown : ("A.java", "first") ∈ files.toList := by simp [hfiles]
  have hplace := destination_respelled "first" "second"
  obtain ⟨hlast, hiff, -⟩ := publish_holds_last "out" files (publish_respelled "first" "second")
  have hread := hlast [("./A.java", "second")] ("A.java", "first") [] hfiles
    fun ⟨_, hmem, _⟩ => by cases hmem
  refine ⟨_, publish_respelled "first" "second", hread _ hother hplace, hread _ hown rfl, ?_⟩
  rw [hiff]
  intro hsame
  exact absurd (hsame _ hother _ hown hplace) (by decide)

/-- Names of messages are parts of names of files, so that two messages can have their classes
written to one place: the run ends well, and one of the two files does not hold its class. -/
theorem publish_overwrites :
    let request : Request :=
      { Request.empty with messages := [Message.ofFields "A" [], Message.ofFields "./A" []] }
    let machine : Machine := ⟨Disk.blank ["work"], .ok []⟩
    ∃ files after, (Generator.standard .builtin).generate "spring" request = .ok files ∧
      (publish "out" files.toList : StateM Machine (Except PublishFault Unit)).run machine =
        (.ok (), after) ∧
      ¬ ∀ file ∈ files.toList, after.disk.read (Path.join "out" file.1) =
        .ok (Utf8.encode file.2) := by
  intro request machine
  have hservice : request.services = (none : Option Service).toList := rfl
  have hfound : Registry.standard.find "spring" = .ok .spring := find_standard (by decide)
  have hdiffer : Java.messageText "" (Message.ofFields "./A" []) ≠
      Java.messageText "" (Message.ofFields "A" []) := by
    intro htexts
    simp [Java.messageText, Message.ofFields, Message.hasList, Text.concat] at htexts
  obtain ⟨own, other, hpages, htexts⟩ : ∃ own other,
      Backend.spring.pages request none = [("A.java", own), ("./A.java", other)] ∧ other ≠ own :=
    ⟨_, _, rfl, hdiffer⟩
  refine ⟨respelled own other, _, ?_, publish_respelled own other, fun hread => htexts ?_⟩
  · rw [generate_builtin_of_found hfound hservice, hpages, addAll_respelled]
  · rw [forall_read_iff (publish_respelled own other)] at hread
    exact hread ("./A.java", other) (by simp [toList_respelled]) ("A.java", own)
      (by simp [toList_respelled]) (destination_respelled own other)

end ApiStubs.Disk
