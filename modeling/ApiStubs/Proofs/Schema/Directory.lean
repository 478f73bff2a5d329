import ApiStubs.Backend.Basic
import ApiStubs.Proofs.Schema.Package
import ApiStubs.Proofs.Text.Pieces

/-!
# Directories and namespaces of packages

The directory of a package is cut at slashes into the segments of the package that are not empty,
and its namespace at backslashes into the same segments, each capitalised.  Capitalising may
lengthen a segment, but it never brings in a backslash, for a backslash is the upper case of itself
alone.  A class has a file of its own in every directory.
-/

namespace ApiStubs

namespace Text

/-- A character with the number of a backslash is one, for a number that is none of a character is
read as that of another one. -/
theorem eq_of_ofNat_backslash {code : Nat} (h : Char.ofNat code = '\\') : code = 0x5C := by
  unfold Char.ofNat at h
  by_cases hvalid : code.isValidChar
  · rw [dif_pos hvalid] at h
    exact congrArg Char.toNat h
  · rw [dif_neg hvalid] at h
    cases h

/-- A backslash is the upper case of no other character. -/
theorem eq_backslash_of_mem_upperChar {c : Char} (h : '\\' ∈ upperChar c) : c = '\\' := by
  have hsequences : ∀ entry ∈ upperSequences, 0x5C ∉ entry.2 := by decide +kernel
  have hruns : ∀ run ∈ upperRuns,
      ¬ ((run.first : Int) ≤ 0x5C - run.shift ∧ 0x5C - run.shift ≤ run.last) := by
    decide +kernel
  obtain ⟨code, hcode, hbackslash⟩ := List.mem_map.1 h
  obtain rfl := eq_of_ofNat_backslash hbackslash
  unfold mapCode at hcode
  split at hcode
  · rename_i entry hentry
    exact absurd hcode (hsequences entry (List.mem_of_find?_eq_some hentry))
  · split at hcode
    · rename_i run hrun
      have hcovers := List.find?_some hrun
      have hnot := hruns run (List.mem_of_find?_eq_some hrun)
      have hmove := List.mem_singleton.1 hcode
      simp only [CaseRun.covers, Bool.and_eq_true, decide_eq_true_eq] at hcovers
      unfold CaseRun.move at hmove
      exact absurd ⟨by omega, by omega⟩ hnot
    · have hself := List.mem_singleton.1 hcode
      exact Char.toNat_inj.1 hself.symm

theorem backslash_not_mem_capitalize {s : String} (h : '\\' ∉ s.toList) :
    '\\' ∉ (capitalize s).toList := by
  unfold capitalize
  cases hlist : s.toList with
  | nil => exact List.not_mem_nil
  | cons c rest =>
    rw [hlist, List.mem_cons, not_or] at h
    rw [String.toList_ofList, List.mem_append, not_or]
    exact ⟨fun hmem => h.1 (eq_backslash_of_mem_upperChar hmem).symm, h.2⟩

end Text

namespace Package

variable {package : String}

theorem ne_empty_of_mem_parts {part : String} (h : part ∈ parts package) : part ≠ "" := by
  simpa using (List.mem_filter.1 h).2

/-- A character that the package does not have is in none of its parts. -/
theorem not_mem_of_mem_parts {c : Char} (hc : c ∉ package.toList) {part : String}
    (h : part ∈ parts package) : c ∉ part.toList :=
  fun hmem => hc (Text.toList_subset_of_mem_segments (List.mem_filter.1 h).1 hmem)

/-- The parts of a package are found again in its directory. -/
theorem segments_directory_of_ne_nil (hslash : '/' ∉ package.toList) (hne : parts package ≠ []) :
    Text.segments '/' (directory package) = parts package :=
  Text.segments_joinWith hne fun _ hpart => Text.segments_eq_singleton
    (not_mem_of_mem_parts hslash hpart)

theorem directory_of_nil (h : parts package = []) : directory package = "" := by
  rw [directory, h, Text.joinWith]

theorem segments_directory (hslash : '/' ∉ package.toList) :
    Text.segments '/' (directory package) = if parts package = [] then [""] else parts package := by
  split
  · rename_i hnil
    rw [directory_of_nil hnil]
    exact Text.segments_eq_singleton List.not_mem_nil
  · rename_i hne
    exact segments_directory_of_ne_nil hslash hne

/-- The parts of a package, capitalised, are found again in its namespace. -/
theorem segments_qualifiedName (hbackslash : '\\' ∉ package.toList) :
    Text.segments '\\' (qualifiedName package) =
      (if parts package = [] then [""] else parts package).map Text.capitalize := by
  split
  · rename_i hnil
    rw [qualifiedName, hnil]
    exact Text.segments_eq_singleton List.not_mem_nil
  · rename_i hne
    refine Text.segments_joinWith (by simpa using hne) (List.forall_mem_map.2 fun part hpart => ?_)
    exact Text.segments_eq_singleton
      (Text.backslash_not_mem_capitalize (not_mem_of_mem_parts hbackslash hpart))

theorem tidy_directory (hslash : '/' ∉ package.toList) : Text.Tidy '/' (directory package) := by
  by_cases hne : parts package = []
  · rw [directory_of_nil hne]
    exact Text.tidy_empty '/'
  · refine Text.tidy_of_segments fun hempty => ?_
    rw [segments_directory_of_ne_nil hslash hne] at hempty
    exact ne_empty_of_mem_parts hempty rfl

/-- A directory tells the parts of a package. -/
theorem directory_eq_iff {other : String} (hslash : '/' ∉ package.toList)
    (hother : '/' ∉ other.toList) :
    directory package = directory other ↔ parts package = parts other := by
  have hempty (p : String) : directory p = "" ↔ parts p = [] :=
    Text.joinWith_eq_empty_iff "/" fun _ => ne_empty_of_mem_parts
  refine ⟨fun hsame => ?_, fun hsame => by rw [directory, directory, hsame]⟩
  by_cases hnil : parts package = []
  · rw [hnil, (hempty other).1 (hsame ▸ (hempty package).2 hnil)]
  · have hne : parts other ≠ [] :=
      fun hnone => hnil ((hempty package).1 (hsame ▸ (hempty other).2 hnone))
    rw [← segments_directory_of_ne_nil hslash hnil, ← segments_directory_of_ne_nil hother hne,
      hsame]

end Package

/-- Classes of different names have different files in one directory. -/
theorem Backend.classFile_injective (directory : String) :
    Function.Injective (classFile directory) := by
  intro first second h
  unfold classFile at h
  split at h
  · simpa using h
  · simpa using h

/-- For a package without slashes and backslashes, the directory is cut at slashes into the segments
of the package that are not empty, so that no slash stands at an end or next to another, and the
namespace is cut at backslashes into the same segments, each capitalised.  Packages share a
directory just if they agree on these segments, and classes share a file in a directory just if they
are the same. -/
theorem Package.paths_by_segments {package : String} (hslash : '/' ∉ package.toList)
    (hbackslash : '\\' ∉ package.toList) :
    let parts := (Text.segments '.' package).filter (fun segment => segment ≠ "")
    Text.segments '/' (directory package) = (if parts = [] then [""] else parts) ∧
    Text.Tidy '/' (directory package) ∧
    (∀ other : String, '/' ∉ other.toList → (directory package = directory other ↔
      parts = (Text.segments '.' other).filter (fun segment => segment ≠ ""))) ∧
    Text.segments '\\' (qualifiedName package) =
      (Text.segments '/' (directory package)).map Text.capitalize ∧
    ∀ place, Function.Injective (Backend.classFile place) :=
  ⟨segments_directory hslash, tidy_directory hslash, fun _ hother => directory_eq_iff hslash hother,
    (segments_qualifiedName hbackslash).trans (congrArg _ (segments_directory hslash).symm),
    Backend.classFile_injective⟩

/-- Dots at the ends and next to each other leave no trace, and a sharp s is capitalised as two
letters. -/
theorem Package.paths_by_segments_dotted :
    let package := ".com..ßeta."
    '/' ∉ package.toList ∧ '\\' ∉ package.toList ∧
    directory package = "com/ßeta" ∧ Text.segments '/' (directory package) = ["com", "ßeta"] ∧
    Text.segments '\\' (qualifiedName package) = ["Com", "SSeta"] ∧
    Text.Tidy '/' (directory package) ∧
    directory package = directory "com.ßeta" ∧ directory package ≠ directory "com.ß.eta" := by
  intro package
  have hslash : '/' ∉ package.toList := by decide
  have hbackslash : '\\' ∉ package.toList := by decide
  obtain ⟨hdirectory, htidy, hsame, hnamespace, -⟩ := paths_by_segments hslash hbackslash
  have hsegments : Text.segments '/' (directory package) = ["com", "ßeta"] :=
    hdirectory.trans (by decide +kernel)
  refine ⟨hslash, hbackslash, by decide +kernel, hsegments, ?_, htidy,
    (hsame "com.ßeta" (by decide)).2 (by decide +kernel),
    (hsame "com.ß.eta" (by decide)).not.2 (by decide +kernel)⟩
  rw [hnamespace, hsegments]
  decide +kernel

end ApiStubs
