import ApiStubs.Data.Dialogue
import ApiStubs.Proofs.OutputFiles
import ApiStubs.Proofs.Text.Order
import Mathlib.Data.List.Dedup

/-!
# Files offered one after the other

A page under a new name is added and one under a name that was given out before is refused, which
changes nothing.  After any number of pages each name has the text that was first offered for it.
Nothing else is there, and names are listed in the order of their octets.  So pages with different
names give the same files in any order.
-/

namespace ApiStubs

namespace SortedMap

variable {α : Type}

/-- The entries of a map are its keys with their values. -/
theorem mem_toList_iff (m : SortedMap α) (key : String) (value : α) :
    (key, value) ∈ m.toList ↔ m.get? key = some value :=
  (findEntry_eq_some_iff (m.sorted.imp String.ne_of_lt) key value).symm

end SortedMap

namespace OutputFiles

/-- The files after a page was offered, and why it was refused, if it was. -/
def offer (output : OutputFiles) (page : String × String) : OutputFiles × Option Failure :=
  match output.insert page.1 page.2 with
  | .ok next => (next, none)
  | .error failure => (output, some failure)

/-- The files after pages were offered one after the other, and what became of each. -/
def offerAll (pages : List (String × String)) : OutputFiles × List (Option Failure) :=
  dialogue offer empty pages

/-! ## One page -/

section Step

variable {output : OutputFiles} {page : String × String}

theorem offer_of_mem (h : page.1 ∈ output.names) :
    output.offer page = (output, some (.duplicateOutput page.1)) := by
  rw [offer, insert_of_mem h]

theorem offer_of_not_mem (h : page.1 ∉ output.names) :
    output.offer page = (⟨output.files.insert page.1 page.2⟩, none) := by
  rw [offer, insert_eq_of_not_mem h]

/-- A page says something only about a name that has no text yet. -/
theorem get?_offer (output : OutputFiles) (page : String × String) (name : String) :
    (output.offer page).1.get? name =
      (output.get? name).or (if page.1 = name then some page.2 else none) := by
  by_cases hmem : page.1 ∈ output.names
  · rw [offer_of_mem hmem]
    split
    · rename_i hname
      have hsome : output.get? name ≠ none := by
        rw [ne_eq, get?_eq_none_iff, not_not, ← hname]
        exact hmem
      obtain ⟨content, hcontent⟩ := Option.ne_none_iff_exists'.1 hsome
      rw [hcontent, Option.some_or]
    · rw [Option.or_none]
  · rw [offer_of_not_mem hmem]
    refine (SortedMap.get?_insert output.files page.1 name page.2).trans ?_
    split
    · rename_i hname
      have hnone : output.get? name = none := (get?_eq_none_iff output name).2 (hname ▸ hmem)
      rw [hnone, Option.none_or]
    · rw [Option.or_none]
      rfl

end Step

/-! ## All pages -/

/-- After pages a name has the text it had, or else the one first offered for it. -/
theorem get?_dialogue (output : OutputFiles) (pages : List (String × String)) (name : String) :
    (dialogue offer output pages).1.get? name =
      (output.get? name).or ((pages.find? fun page => page.1 = name).map Prod.snd) := by
  induction pages generalizing output with
  | nil => simp
  | cons page rest ih =>
      rw [dialogue_cons, ih, get?_offer, Option.or_assoc, List.find?_cons]
      by_cases hname : page.1 = name <;> simp [hname]

/-- A page is the first one for its name. -/
def FirstOffered (pages : List (String × String)) (page : String × String) : Prop :=
  ∃ before after, pages = before ++ page :: after ∧ page.1 ∉ before.map Prod.fst

theorem get?_offerAll (pages : List (String × String)) (name : String) :
    (offerAll pages).1.get? name = (pages.find? fun page => page.1 = name).map Prod.snd :=
  get?_dialogue empty pages name

theorem get?_offerAll_iff (pages : List (String × String)) (name content : String) :
    (offerAll pages).1.get? name = some content ↔ FirstOffered pages (name, content) := by
  rw [get?_offerAll, Option.map_eq_some_iff]
  constructor
  · rintro ⟨⟨found, text⟩, hfind, rfl⟩
    obtain ⟨hfound, before, after, rfl, hbefore⟩ := List.find?_eq_some_iff_append.1 hfind
    obtain rfl : found = name := of_decide_eq_true hfound
    refine ⟨before, after, rfl, fun hmem => ?_⟩
    obtain ⟨page, hpage, hname⟩ := List.mem_map.1 hmem
    simpa [hname] using hbefore page hpage
  · rintro ⟨before, after, rfl, hbefore⟩
    refine ⟨(name, content), List.find?_eq_some_iff_append.2 ⟨by simp, before, after, rfl, ?_⟩, rfl⟩
    intro page hpage
    have hname : page.1 ≠ name := by
      rintro rfl
      exact hbefore (List.mem_map.2 ⟨page, hpage, rfl⟩)
    simpa using hname

theorem mem_names_offerAll (pages : List (String × String)) (name : String) :
    name ∈ (offerAll pages).1.names ↔ name ∈ pages.map Prod.fst := by
  rw [← not_iff_not, ← get?_eq_none_iff, get?_offerAll, Option.map_eq_none_iff, List.find?_eq_none]
  simp only [decide_eq_true_eq, List.mem_map, not_exists, not_and]

/-- A page is refused exactly when its name was offered before, and then nothing changes. -/
theorem offer_offerAll (before : List (String × String)) (page : String × String) :
    (page.1 ∉ before.map Prod.fst ∧ ((offerAll before).1.offer page).2 = none) ∨
      page.1 ∈ before.map Prod.fst ∧
        (offerAll before).1.offer page = ((offerAll before).1, some (.duplicateOutput page.1)) := by
  by_cases hmem : page.1 ∈ (offerAll before).1.names
  · exact .inr ⟨(mem_names_offerAll before page.1).1 hmem, offer_of_mem hmem⟩
  · refine .inl ⟨(mem_names_offerAll before page.1).not.1 hmem, ?_⟩
    rw [offer_of_not_mem hmem]

/-- Pages that can be collected are all added. -/
theorem dialogue_of_addAll {pages : List (String × String)} {output files : OutputFiles}
    (h : output.addAll pages = .ok files) : (dialogue offer output pages).1 = files := by
  induction pages generalizing output with
  | nil =>
      cases h
      rfl
  | cons page rest ih =>
      cases hinsert : output.insert page.1 page.2 with
      | error failure => simp [addAll, hinsert] at h
      | ok next =>
          simp only [addAll, hinsert] at h
          have hoffer : output.offer page = (next, none) := by rw [offer, hinsert]
          rw [dialogue_cons, hoffer]
          exact ih h

theorem offerAll_perm {pages others : List (String × String)} (hperm : pages.Perm others)
    (hnames : (pages.map Prod.fst).Nodup) : (offerAll others).1 = (offerAll pages).1 := by
  have hothers : (others.map Prod.fst).Nodup := (hperm.map Prod.fst).nodup_iff.1 hnames
  obtain ⟨left, hleft, -⟩ : ∃ files, empty.addAll pages = .ok files ∧ _ :=
    addAll_of_nodup (by simpa [names_empty] using hnames)
  obtain ⟨right, hright, -⟩ : ∃ files, empty.addAll others = .ok files ∧ _ :=
    addAll_of_nodup (by simpa [names_empty] using hothers)
  rw [offerAll, offerAll, dialogue_of_addAll hleft, dialogue_of_addAll hright]
  exact (eq_of_addAll_perm hperm hleft hright).symm

/-- There are as many files as different names. -/
theorem size_offerAll (pages : List (String × String)) :
    (offerAll pages).1.size = (pages.map Prod.fst).dedup.length := by
  have hperm : (offerAll pages).1.names.Perm (pages.map Prod.fst).dedup := by
    refine (List.perm_ext_iff_of_nodup (SortedMap.nodup_keys _) (List.nodup_dedup _)).2
      fun name => ?_
    rw [List.mem_dedup]
    exact mem_names_offerAll pages name
  rw [← hperm.length_eq]
  exact (List.length_map _).symm

theorem increasing_names (output : OutputFiles) :
    output.names.Pairwise fun a b => List.Lex (· < ·) (Utf8.encode a) (Utf8.encode b) :=
  List.pairwise_map.2 (output.files.sorted.imp fun h => Utf8.lex_encode h)

/-- The files are those that were first offered for their names: this is what can be looked up, this
is what is listed, by the octets of the names, and this is how many they are. -/
structure HoldsFirst (pages : List (String × String)) (files : OutputFiles) : Prop where
  text : ∀ name content, files.get? name = some content ↔ FirstOffered pages (name, content)
  noText : ∀ name, files.get? name = none ↔ name ∉ pages.map Prod.fst
  listed : ∀ file, file ∈ files.toList ↔ FirstOffered pages file
  names : files.names = files.toList.map Prod.fst
  increasing : files.names.Pairwise fun a b => List.Lex (· < ·) (Utf8.encode a) (Utf8.encode b)
  size : files.size = (pages.map Prod.fst).dedup.length

/-- After pages that were offered one after the other the files are those first offered for their
names.  A page was refused, for its name, exactly when the name was offered before it, and then
nothing changed.  Pages with different names lead to the same files in any order. -/
theorem offerAll_holds_first (pages : List (String × String)) :
    HoldsFirst pages (offerAll pages).1 ∧
    (∀ before page after, pages = before ++ page :: after →
      (page.1 ∉ before.map Prod.fst ∧ (offerAll pages).2[before.length]? = some none) ∨
      (page.1 ∈ before.map Prod.fst ∧
        (offerAll pages).2[before.length]? = some (some (.duplicateOutput page.1)) ∧
        (offerAll (before ++ [page])).1 = (offerAll before).1)) ∧
    ∀ others, pages.Perm others → (pages.map Prod.fst).Nodup →
      (offerAll others).1 = (offerAll pages).1 := by
  refine ⟨⟨get?_offerAll_iff pages, fun name => ?_, fun file => ?_, rfl, increasing_names _,
    size_offerAll pages⟩, fun before page after hpages => ?_, fun others => offerAll_perm⟩
  · rw [get?_eq_none_iff, mem_names_offerAll]
  · exact (SortedMap.mem_toList_iff _ file.1 file.2).trans (get?_offerAll_iff pages file.1 file.2)
  · subst hpages
    have hanswer : (offerAll (before ++ page :: after)).2[before.length]? =
        some ((offerAll before).1.offer page).2 := dialogue_getElem? empty before after page
    have hstate : (offerAll (before ++ [page])).1 = ((offerAll before).1.offer page).1 := by
      rw [offerAll, dialogue_append]
      rfl
    rw [hanswer, hstate]
    rcases offer_offerAll before page with ⟨hnew, hadded⟩ | ⟨hold, hrefused⟩
    · exact .inl ⟨hnew, by rw [hadded]⟩
    · exact .inr ⟨hold, by rw [hrefused], by rw [hrefused]⟩

/-- Code points decide, however many octets they have.  The second text for a name is refused, and
the order of the other two pages does not matter. -/
theorem offerAll_holds_first_repeated :
    let pages := [("😀", "a"), ("ﬀ", "b"), ("😀", "c")]
    (offerAll pages).1.toList = [("ﬀ", "b"), ("😀", "a")] ∧
      (offerAll pages).2 = [none, none, some (.duplicateOutput "😀")] ∧
      (offerAll pages).1 = (offerAll [("😀", "a"), ("ﬀ", "b")]).1 ∧
      (offerAll [("ﬀ", "b"), ("😀", "a")]).1 = (offerAll [("😀", "a"), ("ﬀ", "b")]).1 := by
  intro pages
  refine ⟨by decide, by decide, ?_, ?_⟩
  · rcases (offerAll_holds_first pages).2.1 [("😀", "a"), ("ﬀ", "b")] ("😀", "c") [] rfl with
      ⟨hnew, -⟩ | ⟨-, -, hsame⟩
    · exact absurd hnew (by decide)
    · exact hsame
  · exact (offerAll_holds_first [("😀", "a"), ("ﬀ", "b")]).2.2 _ (.swap _ _ _) (by decide)

end OutputFiles

end ApiStubs
