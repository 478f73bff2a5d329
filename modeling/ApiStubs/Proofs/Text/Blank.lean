import ApiStubs.Text.Blank
import Mathlib.Data.List.DropRight

/-!
# Texts without the blanks around them

A text is what `trim` leaves of it with blanks before and after.  No blank stands at the ends of
what is left, and only one part of a text is left in this way.
-/

namespace ApiStubs.Text

/-- What is left of a text without the blanks around it. -/
structure Trims (s t : String) : Prop where
  between : ∃ lead tail, s.toList = lead ++ t.toList ++ tail ∧
    (∀ c ∈ lead, isBlank c = true) ∧ ∀ c ∈ tail, isBlank c = true
  head : ∀ c ∈ t.toList.head?, isBlank c = false
  last : ∀ c ∈ t.toList.getLast?, isBlank c = false

theorem trims_self {s : String} (hhead : ∀ c ∈ s.toList.head?, isBlank c = false)
    (hlast : ∀ c ∈ s.toList.getLast?, isBlank c = false) : Trims s s :=
  ⟨⟨[], [], by simp, nofun, nofun⟩, hhead, hlast⟩

theorem toList_trim (s : String) :
    (trim s).toList = (s.toList.dropWhile isBlank).rdropWhile isBlank :=
  String.toList_ofList

theorem isBlank_of_head?_dropWhile {cs : List Char} {c : Char}
    (h : (cs.dropWhile isBlank).head? = some c) :
    isBlank c = false := by
  simpa [h] using List.head?_dropWhile_not isBlank cs

theorem trims_trim (s : String) : Trims s (trim s) := by
  have hright : (s.toList.dropWhile isBlank).rdropWhile isBlank ++
      (s.toList.dropWhile isBlank).rtakeWhile isBlank = s.toList.dropWhile isBlank :=
    List.rdropWhile_append_rtakeWhile
  refine ⟨⟨s.toList.takeWhile isBlank, (s.toList.dropWhile isBlank).rtakeWhile isBlank, ?_, ?_, ?_⟩,
    ?_, ?_⟩
  · rw [toList_trim, List.append_assoc, hright, List.takeWhile_append_dropWhile]
  · exact fun c hc => List.mem_takeWhile_imp hc
  · exact fun c hc => List.mem_rtakeWhile_imp hc
  · intro c hc
    rw [toList_trim] at hc
    -- what is left starts where the blanks before it end
    have hhead : (s.toList.dropWhile isBlank).head? = some c := by
      rw [← hright, List.head?_append, hc, Option.some_or]
    exact isBlank_of_head?_dropWhile hhead
  · intro c hc
    rw [toList_trim, List.rdropWhile, List.getLast?_reverse] at hc
    exact isBlank_of_head?_dropWhile hc

theorem dropWhile_of_head {cs : List Char} (h : ∀ c ∈ cs.head?, isBlank c = false) :
    cs.dropWhile isBlank = cs := by
  cases cs with
  | nil => rfl
  | cons c rest => exact List.dropWhile_cons_of_neg (by simpa using h c rfl)

/-- Only one part of a text is left. -/
theorem Trims.eq_trim {s t : String} (h : Trims s t) : t = trim s := by
  obtain ⟨⟨lead, tail, hs, hlead, htail⟩, hhead, hlast⟩ := h
  have hright : (t.toList ++ tail).rdropWhile isBlank = t.toList := by
    rw [List.rdropWhile, List.reverse_append, List.dropWhile_append_of_pos (by simpa using htail),
      dropWhile_of_head (by simpa using hlast), List.reverse_reverse]
  apply String.toList_inj.1
  rw [toList_trim, hs, List.append_assoc, List.dropWhile_append_of_pos hlead]
  by_cases ht : t.toList = []
  · rw [ht, List.nil_append, List.dropWhile_eq_nil_iff.2 htail, List.rdropWhile_nil]
  · have hleft : ∀ c ∈ (t.toList ++ tail).head?, isBlank c = false := by
      rwa [List.head?_append_of_ne_nil _ ht]
    rw [dropWhile_of_head hleft, hright]

end ApiStubs.Text
