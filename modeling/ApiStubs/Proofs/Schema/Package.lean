import ApiStubs.Schema.Package
import Mathlib.Logic.Basic

/-!
# Packages by their segments

Directories and namespaces are put together from the segments of a package that are not empty.
Capitalising a segment leaves it with a character, so a package has a namespace exactly when it has
such a segment.
-/

namespace ApiStubs

namespace Text

/-- The upper case of a character is never nothing. -/
theorem upperChar_ne_nil (c : Char) : upperChar c ≠ [] := by
  have hsequences : ∀ entry ∈ upperSequences, entry.2 ≠ [] := by decide +kernel
  unfold upperChar mapCode
  split
  · rename_i entry hentry
    have hmem := List.mem_of_find?_eq_some hentry
    exact List.map_eq_nil_iff.not.2 (hsequences entry hmem)
  · split
    · exact List.cons_ne_nil _ _
    · exact List.cons_ne_nil _ _

theorem capitalize_ne_empty {s : String} (h : s ≠ "") : capitalize s ≠ "" := by
  obtain ⟨c, rest, hlist⟩ := List.exists_cons_of_ne_nil (String.toList_eq_nil_iff.not.2 h)
  have hupper : upperChar c ++ rest ≠ [] :=
    List.append_ne_nil_of_left_ne_nil (upperChar_ne_nil c) rest
  unfold capitalize
  rw [hlist]
  intro hempty
  exact hupper (by simpa using congrArg String.toList hempty)

/-- Texts that are joined give an empty text only if there are none or they are empty themselves. -/
theorem joinWith_eq_empty_iff {texts : List String} (sep : String) (h : ∀ text ∈ texts, text ≠ "") :
    joinWith sep texts = "" ↔ texts = [] := by
  match texts with
  | [] => simp [joinWith]
  | [text] => simpa [joinWith] using h
  | first :: second :: rest =>
    have hfirst : first ≠ "" := h first List.mem_cons_self
    simp [joinWith, hfirst]

end Text

namespace Package

theorem parts_eq_nil_iff (package : String) :
    parts package = [] ↔ ¬ ∃ segment ∈ Text.segments '.' package, segment ≠ "" := by
  simp [parts, List.filter_eq_nil_iff]

/-- A package has a namespace if it has a segment that is not empty. -/
theorem qualifiedName_ne_empty_iff (package : String) :
    qualifiedName package ≠ "" ↔ ∃ segment ∈ Text.segments '.' package, segment ≠ "" := by
  have hparts : ∀ text ∈ (parts package).map Text.capitalize, text ≠ "" := by
    intro text htext
    obtain ⟨part, hpart, rfl⟩ := List.mem_map.1 htext
    have hne : part ≠ "" := by simpa using (List.mem_filter.1 hpart).2
    exact Text.capitalize_ne_empty hne
  rw [ne_eq, qualifiedName, Text.joinWith_eq_empty_iff _ hparts, List.map_eq_nil_iff,
    parts_eq_nil_iff, not_not]

end Package

end ApiStubs
