import ApiStubs.Asset.Store
import ApiStubs.Proofs.Disk.Resolution
import Mathlib.Data.List.TakeWhile

/-!
# Looking templates up

A key counts without the slashes in front of it.  If nothing is left, or a segment of what is left
leads upwards, the key is refused whatever the store holds.  Otherwise a directory is asked about
one path, which lies below it, and the two questions that a store answers agree with each other.
-/

namespace ApiStubs

namespace Path

theorem components_subset (path : String) : components path ⊆ Text.segments '/' path := by
  intro piece hpiece
  unfold components at hpiece
  split at hpiece
  · cases hpiece
  · split at hpiece
    · cases hpiece
    · rename_i hsegments
      rw [hsegments]
      rcases List.mem_cons.1 hpiece with rfl | hrest
      · exact List.mem_cons_self
      · exact List.mem_cons_of_mem _ (List.mem_filter.1 hrest).1

/-- A relative name that is joined to a root adds pieces of its own to the components of the
root. -/
theorem components_join {name : String} (hname : isAbsolute name = false) (root : String) :
    ∃ below, components (join root name) = components root ++ below ∧
      below ⊆ Text.segments '/' name := by
  by_cases hroot : root = ""
  · subst hroot
    have hjoin : join "" name = name := by simp [join]
    exact ⟨components name, by rw [hjoin]; rfl, components_subset name⟩
  · obtain ⟨lead, hlead, hsegments, hroots⟩ := exists_segments_join hroot hname
    obtain ⟨first, rest, rfl⟩ := List.exists_cons_of_ne_nil hlead
    have hjoin : join root name ≠ "" := by
      unfold join
      split_ifs <;> simp_all
    refine ⟨(Text.segments '/' name).filter fun piece => !isSilent piece, ?_,
      List.filter_subset_self _⟩
    rcases hroots with hroots | hroots
    · simp [components, hjoin, hroot, hsegments, hroots]
    · -- the empty piece behind a slash at the end of the root is silent
      simp [components, hjoin, hroot, hsegments, hroots, isSilent]

end Path

namespace Disk

/-- What can be read is a file. -/
theorem isFile_of_read_ok {disk : Disk} {path : String} {content : Bytes}
    (h : disk.read path = .ok content) :
    disk.isFile path = true := by
  unfold read at h
  unfold isFile
  split at h
  · cases h
  · cases h
  · rename_i hlook
    rw [hlook]

/-- Where nothing is there is no file. -/
theorem isFile_of_read_missing {disk : Disk} {path : String}
    (h : disk.read path = .error .missing) :
    disk.isFile path = false := by
  unfold read at h
  unfold isFile
  split at h
  · rename_i hlook
    rw [hlook]
  · cases h
  · cases h

theorem read_eq_of_look_eq {disk other : Disk} {path : String}
    (h : disk.look path = other.look path) :
    disk.read path = other.read path := by
  rw [read, read, h]

theorem isFile_eq_of_look_eq {disk other : Disk} {path : String}
    (h : disk.look path = other.look path) :
    disk.isFile path = other.isFile path := by
  rw [isFile, isFile, h]

end Disk

namespace Asset

/-! ## Keys -/

/-- What is left of a key without the slashes in front of it. -/
def Bare (key bare : String) : Prop :=
  bare.toList.head? ≠ some '/' ∧ ∃ slashes, (∀ c ∈ slashes, c = '/') ∧
    key.toList = slashes ++ bare.toList

/-- Nothing is left of a key, or it has a segment that leads upwards. -/
def Unusable (bare : String) : Prop := bare = "" ∨ ".." ∈ Text.segments '/' bare

instance (bare : String) : Decidable (Unusable bare) := inferInstanceAs (Decidable (_ ∨ _))

theorem exists_bare (key : String) : ∃ bare, Bare key bare := by
  refine ⟨String.ofList (key.toList.dropWhile (· = '/')), ?_,
    key.toList.takeWhile (· = '/'), ?_, ?_⟩
  · intro hhead
    rw [String.toList_ofList] at hhead
    simpa [hhead] using List.head?_dropWhile_not (fun c => decide (c = '/')) key.toList
  · intro c hc
    simpa using List.mem_takeWhile_imp hc
  · rw [String.toList_ofList, List.takeWhile_append_dropWhile]

section Keys

variable {key bare : String}

theorem Bare.dropWhile_eq (h : Bare key bare) : key.toList.dropWhile (· = '/') = bare.toList := by
  obtain ⟨hhead, slashes, hslashes, hkey⟩ := h
  rw [hkey, List.dropWhile_append_of_pos (by simpa using hslashes)]
  cases hbare : bare.toList with
  | nil => rfl
  | cons c rest =>
      rw [hbare] at hhead
      exact List.dropWhile_cons_of_neg (by simpa using hhead)

/-- More slashes in front leave the same. -/
theorem Bare.slashes (h : Bare key bare) {slashes : String}
    (hslashes : ∀ c ∈ slashes.toList, c = '/') :
    Bare (slashes ++ key) bare := by
  obtain ⟨hhead, more, hmore, hkey⟩ := h
  refine ⟨hhead, slashes.toList ++ more, ?_, ?_⟩
  · intro c hc
    exact (List.mem_append.1 hc).elim (hslashes c) (hmore c)
  · rw [String.toList_append, hkey, List.append_assoc]

theorem Bare.isAbsolute_eq (h : Bare key bare) : Path.isAbsolute bare = false := by
  simpa [Path.isAbsolute] using h.1

theorem Bare.normalize?_eq (h : Bare key bare) :
    normalize? key = if Unusable bare then none else some bare := by
  unfold normalize?
  simp only [h.dropWhile_eq, String.ofList_toList]
  exact if_congr (by simp [Unusable]) rfl rfl

/-! ## Stores -/

/-- A store is the built-in one, or a directory on a disk. -/
def Store.IsSource (store : Store) : Prop :=
  store = .builtin ∨ ∃ disk directory, store = .folder (.ofDisk disk directory)

theorem Store.get_of_none (h : normalize? key = none) (store : Store) :
    store.get key = .error (.notFound key) := by
  rw [get, h]

theorem Store.contains_of_none (h : normalize? key = none) (store : Store) :
    store.contains key = false := by
  rw [contains, h]

theorem Store.get_folder (h : normalize? key = some bare) (folder : Folder) :
    (Store.folder folder).get key = folder.text bare := by
  rw [get, h]

theorem Store.contains_folder (h : normalize? key = some bare) (folder : Folder) :
    (Store.folder folder).contains key = folder.isFile bare := by
  rw [contains, h]

/-- Keys that are the same without their slashes are looked up alike. -/
theorem Store.contains_congr {other : String} (h : normalize? other = normalize? key)
    (store : Store) :
    store.contains other = store.contains key := by
  rw [contains, contains, h]

theorem Store.get_congr {other : String} (h : normalize? key = some bare)
    (hother : normalize? other = some bare) (store : Store) : store.get other = store.get key := by
  rw [get, get, h, hother]

/-- The built-in store holds a key exactly when it has a text for it. -/
theorem Store.contains_builtin_iff (key : String) :
    Store.builtin.contains key = true ↔ ∃ text, Store.builtin.get key = .ok text := by
  unfold contains get
  cases normalize? key with
  | none => simp
  | some bare => cases htext : Builtin.text? bare <;> simp [htext]

end Keys

theorem Folder.exists_of_text_ok {folder : Folder} {bare text : String}
    (h : folder.text bare = .ok text) :
    ∃ content, folder.read bare = .ok content := by
  unfold Folder.text at h
  split at h
  · cases h
  · cases h
  · rename_i content hread
    exact ⟨content, hread⟩

theorem Folder.read_of_text_notFound {folder : Folder} {bare named : String}
    (h : folder.text bare = .error (.notFound named)) : folder.read bare = .error .missing := by
  unfold Folder.text at h
  split at h
  · assumption
  · cases h
  · split at h <;> cases h

/-- A store holds what it has a text for. -/
theorem Store.contains_of_get_ok {store : Store} (hsource : store.IsSource) {key text : String}
    (h : store.get key = .ok text) : store.contains key = true := by
  rcases hsource with rfl | ⟨disk, directory, rfl⟩
  · exact (contains_builtin_iff key).2 ⟨text, h⟩
  · cases hbare : normalize? key with
    | none =>
        rw [get_of_none hbare] at h
        cases h
    | some bare =>
        rw [get_folder hbare] at h
        rw [contains_folder hbare]
        obtain ⟨content, hread⟩ := Folder.exists_of_text_ok h
        exact Disk.isFile_of_read_ok hread

/-- A store does not hold what it does not find. -/
theorem Store.contains_of_get_notFound {store : Store} (hsource : store.IsSource)
    {key named : String} (h : store.get key = .error (.notFound named)) :
    store.contains key = false := by
  rcases hsource with rfl | ⟨disk, directory, rfl⟩
  · rw [Bool.eq_false_iff, ne_eq, contains_builtin_iff, h]
    rintro ⟨text, htext⟩
    cases htext
  · cases hbare : normalize? key with
    | none => exact contains_of_none hbare _
    | some bare =>
        rw [get_folder hbare] at h
        rw [contains_folder hbare]
        exact Disk.isFile_of_read_missing (Folder.read_of_text_notFound h)

/-- A directory is asked about one path. -/
theorem Store.eq_of_look_eq {key bare : String} (hbare : normalize? key = some bare)
    {directory : String} {disk other : Disk}
    (h : disk.look (Path.join directory bare) = other.look (Path.join directory bare)) :
    (Store.folder (.ofDisk disk directory)).get key =
      (Store.folder (.ofDisk other directory)).get key ∧
      (Store.folder (.ofDisk disk directory)).contains key =
        (Store.folder (.ofDisk other directory)).contains key := by
  have hread : (Folder.ofDisk disk directory).read bare =
      (Folder.ofDisk other directory).read bare :=
    Disk.read_eq_of_look_eq h
  constructor
  · rw [get_folder hbare, get_folder hbare, Folder.text, Folder.text, hread]
  · rw [contains_folder hbare, contains_folder hbare]
    exact Disk.isFile_eq_of_look_eq h

/-- A key without the slashes in front of it is either unusable, and then refused whatever the store
is, or leads to one path, and then a directory is asked about that path alone, which adds no step
upwards to the path of the directory.  More slashes in front change nothing but the key that is
named in a refusal.  A store holds what it has a text for and does not hold what it does not find,
and the built-in one holds nothing else. -/
theorem lookup_confined (key : String) :
    ∃ bare, Bare key bare ∧
      (Unusable bare → ∀ store : Store,
        store.get key = .error (.notFound key) ∧ store.contains key = false) ∧
      (¬ Unusable bare → ∀ directory,
        (∀ disk other : Disk, disk.look (Path.join directory bare) =
          other.look (Path.join directory bare) →
          (Store.folder (.ofDisk disk directory)).get key =
            (Store.folder (.ofDisk other directory)).get key ∧
          (Store.folder (.ofDisk disk directory)).contains key =
            (Store.folder (.ofDisk other directory)).contains key) ∧
        ∃ below, Path.components (Path.join directory bare) = Path.components directory ++ below ∧
          ".." ∉ below) ∧
      (∀ (store : Store) (slashes : String), (∀ c ∈ slashes.toList, c = '/') →
        store.contains (slashes ++ key) = store.contains key ∧
        store.get (slashes ++ key) =
          if Unusable bare then .error (.notFound (slashes ++ key)) else store.get key) ∧
      (∀ store : Store, store.IsSource →
        (∀ text, store.get key = .ok text → store.contains key = true) ∧
        ∀ named, store.get key = .error (.notFound named) → store.contains key = false) ∧
      (Store.builtin.contains key = true ↔ ∃ text, Store.builtin.get key = .ok text) := by
  obtain ⟨bare, hbare⟩ := exists_bare key
  refine ⟨bare, hbare, fun hunusable store => ?_,
    fun husable directory => ⟨fun disk other hlook => ?_, ?_⟩,
    fun store slashes hslashes => ?_,
      fun store hsource => ⟨fun text => Store.contains_of_get_ok hsource,
      fun named => Store.contains_of_get_notFound hsource⟩, Store.contains_builtin_iff key⟩
  · have hnone : normalize? key = none := by rw [hbare.normalize?_eq, if_pos hunusable]
    exact ⟨Store.get_of_none hnone store, Store.contains_of_none hnone store⟩
  · have hsome : normalize? key = some bare := by rw [hbare.normalize?_eq, if_neg husable]
    exact Store.eq_of_look_eq hsome hlook
  · obtain ⟨below, hcomponents, hbelow⟩ := Path.components_join hbare.isAbsolute_eq directory
    exact ⟨below, hcomponents, fun hup => husable (.inr (hbelow hup))⟩
  · have hsame := (hbare.slashes hslashes).normalize?_eq
    refine ⟨store.contains_congr (hsame.trans hbare.normalize?_eq.symm), ?_⟩
    split
    · rename_i hunusable
      exact store.get_of_none (by rw [hsame, if_pos hunusable])
    · rename_i husable
      exact store.get_congr (by rw [hbare.normalize?_eq, if_neg husable])
        (by rw [hsame, if_neg husable])

/-- A file below the directory is found under its key with slashes in front, and a key that leads
upwards is refused although the file it would lead to is there. -/
theorem lookup_confined_slashes :
    let disk := (Disk.blank ["work"]).place "tpl/ts/x.j2" (.file [0x61])
    let store := Store.folder (.ofDisk disk "tpl")
    store.get "//ts/x.j2" = .ok "a" ∧ store.contains "//ts/x.j2" = true ∧
      disk.isFile "tpl/ts/../ts/x.j2" = true ∧
      store.get "/ts/../ts/x.j2" = .error (.notFound "/ts/../ts/x.j2") := by
  intro disk store
  have htext : store.get "//ts/x.j2" = .ok "a" := by decide
  obtain ⟨_, -, -, -, -, hagree, -⟩ := lookup_confined "//ts/x.j2"
  obtain ⟨bare, hbare, hrefused, -⟩ := lookup_confined "/ts/../ts/x.j2"
  have hchars := hbare.dropWhile_eq
  obtain rfl : "ts/../ts/x.j2" = bare := String.toList_inj.1 hchars
  exact ⟨htext, (hagree store (.inr ⟨disk, "tpl", rfl⟩)).1 "a" htext, by decide,
    (hrefused (by decide) store).1⟩

end Asset

end ApiStubs
