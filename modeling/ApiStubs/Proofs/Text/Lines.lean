import ApiStubs.Asset.Builtin
import ApiStubs.Proofs.Text.Pieces

/-!
# Texts of lines

A text that is put together from lines, each with its end.  Lines in a list may carry a mark that
depends on whether the line is the last one.
-/

namespace ApiStubs

namespace Asset

theorem linesText_nil : linesText [] = "" := rfl

theorem linesText_cons (line : String) (lines : List String) :
    linesText (line :: lines) = line ++ ("\n" ++ linesText lines) :=
  String.append_assoc ..

theorem linesText_append (lines more : List String) :
    linesText (lines ++ more) = linesText lines ++ linesText more := by
  induction lines with
  | nil => exact (String.empty_append ..).symm
  | cons line rest ih =>
    rw [List.cons_append, linesText_cons, ih, linesText_cons, String.append_assoc,
      String.append_assoc]

/-- The lines of items in a row are their texts in a row. -/
theorem linesText_flatMap {α : Type} (items : List α) (lines : α → List String) :
    linesText (items.flatMap lines) = Text.concat (items.map fun a => linesText (lines a)) := by
  induction items with
  | nil => rfl
  | cons a rest ih => rw [List.flatMap_cons, linesText_append, ih, List.map_cons, Text.concat]

theorem linesText_map {α : Type} (items : List α) (line : α → String) :
    linesText (items.map line) = Text.concat (items.map fun a => line a ++ "\n") := by
  rw [linesText, List.map_map]
  rfl

end Asset

namespace Text

theorem HasLines.linesText {lines : List String} (h : ∀ line ∈ lines, OneLine line) :
    HasLines (Asset.linesText lines) lines :=
  ⟨Asset.toList_linesText lines, h⟩

/-! ## Marks at the ends of lines -/

/-- Lines that are marked, the last one otherwise than the ones before. -/
def marked (mark last : String) : List String → List String
  | [] => []
  | [line] => [line ++ last]
  | line :: next :: rest => (line ++ mark) :: marked mark last (next :: rest)

/-- Rounds of a loop that know whether they are the last one write marked lines. -/
theorem linesText_marked {α : Type} {mark last : String} {row : α → String}
    {write : Bool → α → String}
    (hwrite : ∀ isLast a, write isLast a = row a ++ (if isLast = true then last else mark) ++ "\n")
    (items : List α) :
    Asset.linesText (marked mark last (items.map row)) =
      concat (items.mapIdx fun i a => write (i + 1 == items.length) a) := by
  induction items with
  | nil => rfl
  | cons a rest ih =>
    cases rest with
    | nil => simp [marked, Asset.linesText_cons, Asset.linesText_nil, concat, hwrite,
      String.append_assoc]
    | cons b rest =>
      have hfirst : write false a = row a ++ mark ++ "\n" := hwrite false a
      simp only [List.map_cons, List.length_cons] at ih
      simp only [List.map_cons, marked, Asset.linesText_cons, ih, List.mapIdx_cons,
        List.length_cons, concat]
      simp [hfirst, String.append_assoc]

/-- What holds of lines with anything behind them holds of marked lines. -/
theorem forall_mem_marked {p : String → Prop} {lines : List String}
    (h : ∀ line ∈ lines, ∀ mark, p (line ++ mark)) (mark last : String) :
    ∀ line ∈ marked mark last lines, p line := by
  fun_induction marked mark last lines with
  | case1 => exact nofun
  | case2 line => exact List.forall_mem_singleton.2 (h line List.mem_cons_self last)
  | case3 line next rest ih =>
    obtain ⟨hline, hrest⟩ := List.forall_mem_cons.1 h
    exact List.forall_mem_cons.2 ⟨hline mark, ih hrest⟩

end Text

end ApiStubs
