import ApiStubs.OutputFiles
import Mathlib.Data.List.Induction
import Mathlib.Data.List.Nodup

/-!
# Collecting files

Pages are added one after the other, each under a new name.  All of them fit exactly when their
names are different; otherwise the first name that was given out before ends the run.
-/

namespace ApiStubs

namespace SortedMap

variable {α : Type}

theorem contains_iff_mem_keys (m : SortedMap α) (key : String) :
    m.contains key = true ↔ key ∈ m.keys := by
  have hnone := findEntry_eq_none_iff key m.entries
  cases hfind : findEntry key m.entries with
  | none => simp [contains, get?, keys, hfind, hnone.1 hfind]
  | some v =>
      have hmem : key ∈ m.entries.map (·.1) := by
        refine Decidable.not_not.1 fun hnot => ?_
        rw [hnone.2 hnot] at hfind
        cases hfind
      simp only [contains, get?, keys, hfind, Option.isSome_some, true_iff]
      exact hmem

/-- A new key is one more entry. -/
theorem perm_insertEntry (key : String) (value : α) (entries : List (String × α))
    (h : key ∉ entries.map (·.1)) :
    (insertEntry key value entries).Perm ((key, value) :: entries) := by
  induction entries with
  | nil => exact .refl _
  | cons entry rest ih =>
      simp only [List.map_cons, List.mem_cons, not_or] at h
      simp only [insertEntry]
      split
      · exact .refl _
      · split
        · exact ((ih h.2).cons entry).trans (.swap ..)
        · rename_i hlow hhigh
          exact absurd (String.le_antisymm (String.not_lt.1 hhigh) (String.not_lt.1 hlow)) h.1

/-- A new key is one more key. -/
theorem perm_keys_insert (m : SortedMap α) {key : String} (h : key ∉ m.keys) (value : α) :
    (m.insert key value).keys.Perm (key :: m.keys) :=
  (perm_insertEntry key value m.entries h).map Prod.fst

/-- Maps with the same entries are equal, since the order of the entries is that of their keys. -/
theorem eq_of_perm {m n : SortedMap α} (h : m.entries.Perm n.entries) : m = n := by
  have hentries : m.entries = n.entries := by
    refine h.eq_of_pairwise (fun a b _ _ hab hba => ?_) m.sorted n.sorted
    exact absurd (String.lt_trans hab hba) (String.lt_irrefl a.1)
  exact SortedMap.ext hentries

/-- The keys after an insertion follow from the keys before it. -/
theorem map_fst_insertEntry {β : Type} (key : String) (value : α) (other : β)
    {entries : List (String × α)} {others : List (String × β)}
    (h : entries.map (·.1) = others.map (·.1)) :
    (insertEntry key value entries).map (·.1) = (insertEntry key other others).map (·.1) := by
  induction entries generalizing others with
  | nil =>
      obtain rfl : others = [] := by simpa using h.symm
      rfl
  | cons entry rest ih =>
      obtain ⟨first, more, rfl, hfirst, hmore⟩ := List.map_eq_cons_iff.1 h.symm
      simp only [insertEntry, hfirst]
      split
      · simp [hfirst, hmore]
      · split
        · simp [hfirst, ih hmore.symm]
        · simp [hmore]

theorem nodup_keys (m : SortedMap α) : m.keys.Nodup :=
  List.pairwise_map.2 (m.sorted.imp fun h => String.ne_of_lt h)

end SortedMap

namespace OutputFiles

/-- Pages added one after the other. -/
def addAll (output : OutputFiles) : List (String × String) → Except Failure OutputFiles
  | [] => .ok output
  | page :: rest =>
    match output.insert page.1 page.2 with
    | .error e => .error e
    | .ok next => next.addAll rest

theorem names_empty : OutputFiles.empty.names = [] := rfl

theorem insert_of_mem {output : OutputFiles} {name : String} (h : name ∈ output.names)
    (content : String) : output.insert name content = .error (.duplicateOutput name) := by
  simp [insert, (SortedMap.contains_iff_mem_keys output.files name).2 h]

theorem insert_eq_of_not_mem {output : OutputFiles} {name : String} (h : name ∉ output.names)
    (content : String) : output.insert name content = .ok ⟨output.files.insert name content⟩ := by
  have hnew : output.files.contains name = false := by
    rw [Bool.eq_false_iff, ne_eq, SortedMap.contains_iff_mem_keys]
    exact h
  simp [insert, hnew]

theorem insert_of_not_mem {output : OutputFiles} {name : String} (h : name ∉ output.names)
    (content : String) :
    ∃ next, output.insert name content = .ok next ∧ next.names.Perm (name :: output.names) :=
  ⟨_, insert_eq_of_not_mem h content, SortedMap.perm_keys_insert output.files h content⟩

/-- Pages with different names are all added. -/
theorem addAll_of_nodup {pages : List (String × String)} {output : OutputFiles}
    (h : (pages.map (·.1) ++ output.names).Nodup) :
    ∃ files, output.addAll pages = .ok files ∧
      files.names.Perm (pages.map (·.1) ++ output.names) := by
  induction pages generalizing output with
  | nil => exact ⟨output, rfl, .refl _⟩
  | cons page rest ih =>
      obtain ⟨hnew, hrest⟩ := List.nodup_cons.1 h
      obtain ⟨next, hinsert, hnames⟩ :=
        insert_of_not_mem (fun hmem => hnew (List.mem_append_right _ hmem)) page.2
      have hmoved : (rest.map (·.1) ++ next.names).Perm
          ((page :: rest).map (·.1) ++ output.names) :=
        (hnames.append_left _).trans List.perm_middle
      obtain ⟨files, hfiles, hperm⟩ := ih (hmoved.nodup_iff.2 h)
      exact ⟨files, by rw [addAll, hinsert]; exact hfiles, hperm.trans hmoved⟩

/-- The first page whose name was given out before ends the run. -/
theorem addAll_of_repeat {pages : List (String × String)} {output : OutputFiles}
    {before after : List String} {file : String}
    (hpages : pages.map (·.1) = before ++ file :: after) (hnew : (before ++ output.names).Nodup)
    (hfile : file ∈ before ++ output.names) :
    output.addAll pages = .error (.duplicateOutput file) := by
  induction before generalizing pages output with
  | nil =>
      obtain ⟨page, rest, rfl, rfl, -⟩ := List.map_eq_cons_iff.1 hpages
      rw [addAll, insert_of_mem hfile]
  | cons name before ih =>
      obtain ⟨page, rest, rfl, rfl, hrest⟩ := List.map_eq_cons_iff.1 hpages
      obtain ⟨hname, -⟩ := List.nodup_cons.1 hnew
      obtain ⟨next, hinsert, hnames⟩ :=
        insert_of_not_mem (fun hmem => hname (List.mem_append_right _ hmem)) page.2
      have hmoved : (before ++ next.names).Perm (page.1 :: before ++ output.names) :=
        (hnames.append_left _).trans List.perm_middle
      rw [addAll, hinsert]
      exact ih hrest (hmoved.nodup_iff.2 hnew) (hmoved.mem_iff.2 hfile)

/-- Two runs end alike: with the same failure, or with files that are related. -/
inductive SameOutcome (R : OutputFiles → OutputFiles → Prop) :
    Except Failure OutputFiles → Except Failure OutputFiles → Prop where
  | failed (failure : Failure) : SameOutcome R (.error failure) (.error failure)
  | files {left right : OutputFiles} : R left right → SameOutcome R (.ok left) (.ok right)

/-- Whether pages are all added, and the names of the files then, follow from the names of the
pages. -/
theorem addAll_sameOutcome {pages others : List (String × String)} {left right : OutputFiles}
    (hpages : pages.map (·.1) = others.map (·.1)) (hnames : left.names = right.names) :
    SameOutcome (fun a b => a.names = b.names) (left.addAll pages) (right.addAll others) := by
  induction pages generalizing others left right with
  | nil =>
      obtain rfl : others = [] := by simpa using hpages.symm
      exact .files hnames
  | cons page rest ih =>
      obtain ⟨other, more, rfl, hname, hmore⟩ := List.map_eq_cons_iff.1 hpages.symm
      by_cases hmem : page.1 ∈ left.names
      · have hother : other.1 ∈ right.names := by rwa [hname, ← hnames]
        rw [addAll, addAll, insert_of_mem hmem, insert_of_mem hother, hname]
        exact .failed _
      · have hother : other.1 ∉ right.names := by rwa [hname, ← hnames]
        rw [addAll, addAll, insert_eq_of_not_mem hmem, insert_eq_of_not_mem hother, hname]
        exact ih hmore.symm (SortedMap.map_fst_insertEntry _ _ _ hnames)

/-! ## What the files hold -/

/-- A file that is added is there, and the others stay. -/
theorem get?_of_insert {output next : OutputFiles} {name content : String}
    (h : output.insert name content = .ok next) :
    next.get? name = some content ∧
      ∀ {other text}, output.get? other = some text → next.get? other = some text := by
  unfold insert at h
  split at h
  · cases h
  · rename_i hnew
    cases h
    refine ⟨by simp [get?, SortedMap.get?_insert], fun {other text} hother => ?_⟩
    have hne : ¬ name = other := by
      rintro rfl
      simp only [get?] at hother
      simp [SortedMap.contains, hother] at hnew
    simpa [get?, SortedMap.get?_insert, hne] using hother

/-- Files that were there before are there in the end. -/
theorem get?_addAll_of_get? {pages : List (String × String)} {output files : OutputFiles}
    {name text : String} (h : output.addAll pages = .ok files)
    (hget : output.get? name = some text) :
    files.get? name = some text := by
  induction pages generalizing output with
  | nil =>
      cases h
      exact hget
  | cons page rest ih =>
      cases hinsert : output.insert page.1 page.2 with
      | error e => simp [addAll, hinsert] at h
      | ok next =>
          simp only [addAll, hinsert] at h
          exact ih h ((get?_of_insert hinsert).2 hget)

/-- Every page that was added has its text. -/
theorem get?_addAll {pages : List (String × String)} {output files : OutputFiles}
    (h : output.addAll pages = .ok files) {page : String × String} (hpage : page ∈ pages) :
    files.get? page.1 = some page.2 := by
  induction pages generalizing output with
  | nil => cases hpage
  | cons first rest ih =>
      cases hinsert : output.insert first.1 first.2 with
      | error e => simp [addAll, hinsert] at h
      | ok next =>
          simp only [addAll, hinsert] at h
          rcases List.mem_cons.1 hpage with rfl | hrest
          · exact get?_addAll_of_get? h (get?_of_insert hinsert).1
          · exact ih h hrest

/-- Files have the names of the pages that were added. -/
theorem mem_names_addAll {pages : List (String × String)} {output files : OutputFiles}
    {name : String} (h : output.addAll pages = .ok files) :
    name ∈ files.names ↔ name ∈ pages.map (·.1) ∨ name ∈ output.names := by
  induction pages generalizing output with
  | nil =>
      cases h
      simp
  | cons page rest ih =>
      by_cases hmem : page.1 ∈ output.names
      · simp [addAll, insert_of_mem hmem] at h
      · obtain ⟨next, hinsert, hperm⟩ := insert_of_not_mem hmem page.2
        simp only [addAll, hinsert] at h
        rw [ih h, hperm.mem_iff, List.map_cons, List.mem_cons, List.mem_cons]
        tauto

theorem get?_eq_none_iff (output : OutputFiles) (name : String) :
    output.get? name = none ↔ name ∉ output.names := by
  rw [names, ← SortedMap.contains_iff_mem_keys, SortedMap.contains, Bool.not_eq_true,
    Option.isSome_eq_false_iff, Option.isNone_iff_eq_none]
  rfl

/-- The files of a collection are its pages, in the order of their names. -/
theorem perm_toList_addAll {pages : List (String × String)} {output files : OutputFiles}
    (h : output.addAll pages = .ok files) : files.toList.Perm (pages ++ output.toList) := by
  induction pages generalizing output with
  | nil =>
      cases h
      exact .refl _
  | cons page rest ih =>
      by_cases hmem : page.1 ∈ output.names
      · simp [addAll, insert_of_mem hmem] at h
      · rw [addAll, insert_eq_of_not_mem hmem] at h
        have hinsert := SortedMap.perm_insertEntry page.1 page.2 output.files.entries hmem
        exact ((ih h).trans (hinsert.append_left rest)).trans List.perm_middle

/-- The order in which pages are collected does not show in the files. -/
theorem eq_of_addAll_perm {pages others : List (String × String)} {output left right : OutputFiles}
    (hperm : pages.Perm others) (hleft : output.addAll pages = .ok left)
    (hright : output.addAll others = .ok right) : left = right := by
  have hfiles : left.files = right.files := SortedMap.eq_of_perm
    (((perm_toList_addAll hleft).trans (hperm.append_right _)).trans
      (perm_toList_addAll hright).symm)
  cases left
  cases right
  exact congrArg OutputFiles.mk hfiles

/-- Two collections agree on a file whose pages they share. -/
theorem get?_eq_of_addAll {pages others : List (String × String)} {left right : OutputFiles}
    {file : String} (hleft : OutputFiles.empty.addAll pages = .ok left)
    (hright : OutputFiles.empty.addAll others = .ok right) (hnames : left.names = right.names)
    (hshared : ∀ page ∈ pages, page.1 = file → page ∈ others) :
    left.get? file = right.get? file := by
  by_cases hfile : file ∈ left.names
  · have hpages : file ∈ pages.map (·.1) := by
      simpa [names_empty] using (mem_names_addAll hleft).1 hfile
    obtain ⟨page, hpage, rfl⟩ := List.mem_map.1 hpages
    rw [get?_addAll hleft hpage, get?_addAll hright (hshared page hpage rfl)]
  · rw [(get?_eq_none_iff left file).2 hfile, (get?_eq_none_iff right file).2 (hnames ▸ hfile)]

/-- A name stands for one file. -/
theorem eq_of_mem_toList {output : OutputFiles} {file other : String × String}
    (hfile : file ∈ output.toList) (hother : other ∈ output.toList) (h : file.1 = other.1) :
    file = other :=
  List.inj_on_of_nodup_map output.files.nodup_keys hfile hother h

end OutputFiles

end ApiStubs
