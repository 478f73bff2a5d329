import ApiStubs.Text.Split
import Mathlib.Data.List.Infix

/-!
# Pieces of a text

A text is cut at a character into pieces that do not hold it, and is those pieces put together
again.  A text that is written line by line is cut into those lines.  What stands in a part of a
text stands in the whole.
-/

namespace ApiStubs.Text

theorem pieces_separator (sep : Char) (rest : List Char) :
    pieces sep (sep :: rest) = [] :: pieces sep rest :=
  if_pos rfl

theorem pieces_letter {sep c : Char} {rest piece : List Char} {more : List (List Char)}
    (hc : c ≠ sep) (h : pieces sep rest = piece :: more) :
    pieces sep (c :: rest) = (c :: piece) :: more := by
  rw [pieces, if_neg hc, h]

theorem pieces_ne_nil (sep : Char) (cs : List Char) : pieces sep cs ≠ [] := by
  induction cs with
  | nil => exact List.cons_ne_nil _ _
  | cons c rest ih =>
      by_cases hc : c = sep
      · rw [hc, pieces_separator]
        exact List.cons_ne_nil _ _
      · obtain ⟨piece, more, hpieces⟩ := List.exists_cons_of_ne_nil ih
        rw [pieces_letter hc hpieces]
        exact List.cons_ne_nil _ _

theorem exists_pieces (sep : Char) (cs : List Char) : ∃ piece more, pieces sep cs = piece :: more :=
  List.exists_cons_of_ne_nil (pieces_ne_nil sep cs)

/-- A separator between two texts divides their pieces. -/
theorem pieces_append (sep : Char) (cs ds : List Char) :
    pieces sep (cs ++ sep :: ds) = pieces sep cs ++ pieces sep ds := by
  induction cs with
  | nil => exact pieces_separator sep ds
  | cons c rest ih =>
      by_cases hc : c = sep
      · rw [hc, List.cons_append, pieces_separator, pieces_separator, ih, List.cons_append]
      · obtain ⟨piece, more, hpieces⟩ := exists_pieces sep rest
        rw [hpieces, List.cons_append] at ih
        rw [List.cons_append, pieces_letter hc ih, pieces_letter hc hpieces, List.cons_append]

theorem pieces_eq_singleton {sep : Char} {cs : List Char} (h : sep ∉ cs) :
    pieces sep cs = [cs] := by
  induction cs with
  | nil => rfl
  | cons c rest ih =>
      obtain ⟨hc, hrest⟩ := not_or.1 (fun hmem => h (List.mem_cons.2 hmem))
      exact pieces_letter (Ne.symm hc) (ih hrest)

theorem not_mem_of_mem_pieces {sep : Char} {cs piece : List Char} (h : piece ∈ pieces sep cs) :
    sep ∉ piece := by
  induction cs generalizing piece with
  | nil =>
      rw [List.mem_singleton.1 h]
      exact List.not_mem_nil
  | cons c rest ih =>
      by_cases hc : c = sep
      · rw [hc, pieces_separator] at h
        rcases List.mem_cons.1 h with rfl | hrest
        · exact List.not_mem_nil
        · exact ih hrest
      · obtain ⟨first, more, hpieces⟩ := exists_pieces sep rest
        rw [pieces_letter hc hpieces] at h
        rcases List.mem_cons.1 h with rfl | hmore
        · have hfirst : sep ∉ first := ih (hpieces ▸ List.mem_cons_self)
          exact fun hmem => (List.mem_cons.1 hmem).elim (Ne.symm hc) hfirst
        · exact ih (hpieces ▸ List.mem_cons_of_mem _ hmore)

theorem subset_of_mem_pieces {sep : Char} {cs piece : List Char} (h : piece ∈ pieces sep cs) :
    piece ⊆ cs := by
  induction cs generalizing piece with
  | nil =>
      rw [List.mem_singleton.1 h]
      exact List.Subset.refl _
  | cons c rest ih =>
      by_cases hc : c = sep
      · rw [hc, pieces_separator] at h
        rcases List.mem_cons.1 h with rfl | hrest
        · exact List.nil_subset _
        · exact List.subset_cons_of_subset c (ih hrest)
      · obtain ⟨first, more, hpieces⟩ := exists_pieces sep rest
        rw [pieces_letter hc hpieces] at h
        rcases List.mem_cons.1 h with rfl | hmore
        · exact List.cons_subset_cons c (ih (hpieces ▸ List.mem_cons_self))
        · exact List.subset_cons_of_subset c (ih (hpieces ▸ List.mem_cons_of_mem _ hmore))

/-- A text is its pieces with separators between them. -/
theorem intercalate_pieces (sep : Char) (cs : List Char) :
    [sep].intercalate (pieces sep cs) = cs := by
  induction cs with
  | nil => rfl
  | cons c rest ih =>
      obtain ⟨piece, more, hpieces⟩ := exists_pieces sep rest
      rw [hpieces] at ih
      by_cases hc : c = sep
      · rw [hc, pieces_separator, hpieces, List.intercalate_cons_cons, ih]
        rfl
      · rw [pieces_letter hc hpieces]
        cases more with
        | nil =>
            rw [List.intercalate_singleton] at ih ⊢
            rw [ih]
        | cons other others =>
            rw [List.intercalate_cons_cons] at ih ⊢
            rw [List.cons_append, List.cons_append, ih]

theorem pieces_injective (sep : Char) : Function.Injective (pieces sep) :=
  Function.LeftInverse.injective (intercalate_pieces sep)

theorem segments_injective (sep : Char) : Function.Injective (segments sep) := by
  intro s t h
  have hpieces : pieces sep s.toList = pieces sep t.toList :=
    List.map_injective_iff.2 (fun _ _ => String.ofList_injective) h
  exact String.toList_inj.1 (pieces_injective sep hpieces)

theorem segments_ne_nil (sep : Char) (s : String) : segments sep s ≠ [] := by
  simp [segments, pieces_ne_nil]

/-- A separator between two texts divides their segments. -/
theorem segments_separator (sep : Char) (s t : String) :
    segments sep (s ++ String.ofList [sep] ++ t) = segments sep s ++ segments sep t := by
  have hlist : (s ++ String.ofList [sep] ++ t).toList = s.toList ++ sep :: t.toList := by simp
  rw [segments, hlist, pieces_append, List.map_append]
  rfl

theorem segments_slash (s t : String) :
    segments '/' (s ++ "/" ++ t) = segments '/' s ++ segments '/' t :=
  segments_separator '/' s t

/-- A text without separators is its own only segment, and segments are such texts. -/
theorem segments_of_mem_segments {sep : Char} {s segment : String} (h : segment ∈ segments sep s) :
    segments sep segment = [segment] := by
  obtain ⟨piece, hpiece, rfl⟩ := List.mem_map.1 h
  simp [segments, pieces_eq_singleton (not_mem_of_mem_pieces hpiece)]

/-- Segments that are joined again are found again. -/
theorem segments_joinWith {sep : Char} {segs : List String} (hne : segs ≠ [])
    (h : ∀ segment ∈ segs, segments sep segment = [segment]) :
    segments sep (joinWith (String.ofList [sep]) segs) = segs := by
  induction segs with
  | nil => exact absurd rfl hne
  | cons first rest ih =>
      obtain ⟨hfirst, hrest⟩ := List.forall_mem_cons.1 h
      cases rest with
      | nil => exact hfirst
      | cons second more =>
          rw [joinWith, segments_separator, hfirst, ih (by simp) hrest]
          rfl

theorem segments_eq_singleton {sep : Char} {s : String} (h : sep ∉ s.toList) :
    segments sep s = [s] := by
  simp [segments, pieces_eq_singleton h]

/-- The letters of a segment are letters of the text. -/
theorem toList_subset_of_mem_segments {sep : Char} {s segment : String}
    (h : segment ∈ segments sep s) :
    segment.toList ⊆ s.toList := by
  obtain ⟨piece, hpiece, rfl⟩ := List.mem_map.1 h
  rw [String.toList_ofList]
  exact subset_of_mem_pieces hpiece

theorem toList_joinWith (sep : String) : (texts : List String) →
    (joinWith sep texts).toList = sep.toList.intercalate (texts.map String.toList)
  | [] => rfl
  | [s] => by simp [joinWith]
  | s :: t :: rest => by
      rw [joinWith, String.toList_append, String.toList_append, toList_joinWith sep (t :: rest)]
      exact List.intercalate_cons_cons.symm

/-- A text is its segments with separators between them. -/
theorem joinWith_segments (sep : Char) (s : String) :
    joinWith (String.ofList [sep]) (segments sep s) = s := by
  apply String.toList_inj.1
  rw [toList_joinWith, segments, List.map_map]
  simp [Function.comp_def, intercalate_pieces]

/-- The last piece is what stands after the last separator. -/
theorem exists_getLast?_pieces (sep : Char) (cs : List Char) :
    ∃ last, (pieces sep cs).getLast? = some last ∧ sep ∉ last ∧
      (cs = last ∨ ∃ before, cs = before ++ sep :: last) := by
  induction cs with
  | nil => exact ⟨[], rfl, List.not_mem_nil, .inl rfl⟩
  | cons c rest ih =>
    obtain ⟨last, hlast, hsep, hrest⟩ := ih
    by_cases hc : c = sep
    · refine ⟨last, ?_, hsep, .inr ?_⟩
      · rw [hc, pieces_separator, List.getLast?_cons, hlast, Option.getD_some]
      · rcases hrest with rfl | ⟨before, rfl⟩
        · exact ⟨[], by rw [hc, List.nil_append]⟩
        · exact ⟨c :: before, rfl⟩
    · rcases hrest with rfl | ⟨before, rfl⟩
      · have hpieces : pieces sep (c :: rest) = [c :: rest] :=
          pieces_eq_singleton fun hmem => (List.mem_cons.1 hmem).elim (Ne.symm hc) hsep
        exact ⟨c :: rest, by rw [hpieces, List.getLast?_singleton],
          fun hmem => (List.mem_cons.1 hmem).elim (Ne.symm hc) hsep, .inl rfl⟩
      · refine ⟨last, ?_, hsep, .inr ⟨c :: before, rfl⟩⟩
        rw [← List.cons_append, pieces_append, pieces_eq_singleton hsep, List.getLast?_append,
          List.getLast?_singleton, Option.some_or]

/-- A text is cut at the first separator. -/
theorem splitOnce_append {sep : Char} {before : List Char} (h : sep ∉ before) (after : List Char) :
    splitOnce sep (before ++ sep :: after) = some (before, after) := by
  induction before with
  | nil => exact if_pos rfl
  | cons c rest ih =>
    obtain ⟨hc, hrest⟩ := not_or.1 (fun hmem => h (List.mem_cons.2 hmem))
    rw [List.cons_append, splitOnce, if_neg (Ne.symm hc), ih hrest]

theorem splitOnce_of_not_mem {sep : Char} {cs : List Char} (h : sep ∉ cs) :
    splitOnce sep cs = none := by
  induction cs with
  | nil => rfl
  | cons c rest ih =>
    obtain ⟨hc, hrest⟩ := not_or.1 (fun hmem => h (List.mem_cons.2 hmem))
    rw [splitOnce, if_neg (Ne.symm hc), ih hrest]

/-- A text with a separator is cut where it stands first. -/
theorem exists_splitOnce {sep : Char} {cs : List Char} (h : sep ∈ cs) :
    ∃ before after, splitOnce sep cs = some (before, after) ∧ sep ∉ before ∧
      cs = before ++ sep :: after := by
  obtain ⟨before, after, rfl, hsep⟩ := List.eq_append_cons_of_mem h
  exact ⟨before, after, splitOnce_append hsep after, hsep, rfl⟩

theorem splitOnce_eq_none_iff {sep : Char} {cs : List Char} :
    splitOnce sep cs = none ↔ sep ∉ cs := by
  constructor
  · intro h hmem
    obtain ⟨before, after, hsplit, -⟩ := exists_splitOnce hmem
    rw [hsplit] at h
    cases h
  · exact splitOnce_of_not_mem

theorem splitOnce_eq_some_iff {sep : Char} {cs before after : List Char} :
    splitOnce sep cs = some (before, after) ↔ sep ∉ before ∧ cs = before ++ sep :: after := by
  constructor
  · intro h
    have hmem : sep ∈ cs := by
      refine Decidable.not_not.1 fun hnot => ?_
      rw [splitOnce_of_not_mem hnot] at h
      cases h
    obtain ⟨first, rest, hsplit, hsep, rfl⟩ := exists_splitOnce hmem
    rw [hsplit] at h
    cases h
    exact ⟨hsep, rfl⟩
  · rintro ⟨hsep, rfl⟩
    exact splitOnce_append hsep after

/-! ## Separators in their places -/

/-- No separator stands at an end of a text or next to another. -/
def Tidy (sep : Char) (s : String) : Prop :=
  s.toList.head? ≠ some sep ∧ s.toList.getLast? ≠ some sep ∧ ¬ [sep, sep] <:+: s.toList

/-- A separator at an end of a text or before another cuts off an empty piece. -/
theorem nil_mem_pieces {sep : Char} {before after : List Char}
    (h : before = [] ∨ after = [] ∨ after.head? = some sep) :
    [] ∈ pieces sep (before ++ sep :: after) := by
  rw [pieces_append, List.mem_append]
  rcases h with rfl | rfl | hafter
  · exact .inl List.mem_cons_self
  · exact .inr List.mem_cons_self
  · obtain ⟨rest, rfl⟩ := List.head?_eq_some_iff.1 hafter
    rw [pieces_separator]
    exact .inr List.mem_cons_self

theorem tidy_empty (sep : Char) : Tidy sep "" := by
  simp [Tidy]

/-- A text without empty segments has its separators in their places. -/
theorem tidy_of_segments {sep : Char} {s : String} (h : "" ∉ segments sep s) : Tidy sep s := by
  have hpieces : [] ∉ pieces sep s.toList := fun hnil => h (List.mem_map.2 ⟨[], hnil, rfl⟩)
  refine ⟨fun hhead => ?_, fun hlast => ?_, ?_⟩
  · obtain ⟨after, hafter⟩ := List.head?_eq_some_iff.1 hhead
    have hnil : [] ∈ pieces sep ([] ++ sep :: after) := nil_mem_pieces (.inl rfl)
    exact hpieces (hafter ▸ hnil)
  · obtain ⟨before, hbefore⟩ := List.getLast?_eq_some_iff.1 hlast
    exact hpieces (hbefore ▸ nil_mem_pieces (.inr (.inl rfl)))
  · rintro ⟨before, after, hsplit⟩
    rw [List.append_assoc] at hsplit
    exact hpieces (hsplit ▸ nil_mem_pieces (.inr (.inr rfl)))

/-! ## Lines -/

/-- A text without the end of a line. -/
def OneLine (s : String) : Prop := '\n' ∉ s.toList

instance (s : String) : Decidable (OneLine s) := inferInstanceAs (Decidable (¬ _))

@[simp]
theorem oneLine_append {s t : String} : OneLine (s ++ t) ↔ OneLine s ∧ OneLine t := by
  simp [OneLine, not_or]

/-- A text that is written down keeps to one line when its characters do. -/
theorem oneLine_ofList {chars : List Char} (h : chars.contains '\n' = false) :
    OneLine (String.ofList chars) := by
  simpa [OneLine] using h

theorem OneLine.concat {texts : List String} (h : ∀ text ∈ texts, OneLine text) :
    OneLine (concat texts) := by
  induction texts with
  | nil => exact List.not_mem_nil
  | cons text rest ih =>
    obtain ⟨htext, hrest⟩ := List.forall_mem_cons.1 h
    exact oneLine_append.2 ⟨htext, ih hrest⟩

/-- A text is made of lines, each with its end. -/
structure HasLines (text : String) (lines : List String) : Prop where
  toList_eq : text.toList = lines.flatMap fun line => line.toList ++ ['\n']
  oneLine : ∀ line ∈ lines, OneLine line

namespace HasLines

variable {text more : String} {lines others : List String}

theorem empty : HasLines "" [] := ⟨rfl, nofun⟩

theorem line {s : String} (h : OneLine s) : HasLines (s ++ "\n") [s] :=
  ⟨by simp, by simpa using h⟩

theorem append (h : HasLines text lines) (h' : HasLines more others) :
    HasLines (text ++ more) (lines ++ others) := by
  refine ⟨?_, fun line hline => ?_⟩
  · rw [String.toList_append, h.toList_eq, h'.toList_eq, List.flatMap_append]
  · rcases List.mem_append.1 hline with hline | hline
    · exact h.oneLine line hline
    · exact h'.oneLine line hline

/-- Texts in a row have their lines in a row. -/
theorem concat_map {α : Type} {items : List α} {write : α → String} {rows : α → List String}
    (h : ∀ a ∈ items, HasLines (write a) (rows a)) :
    HasLines (concat (items.map write)) (items.flatMap rows) := by
  induction items with
  | nil => exact .empty
  | cons a rest ih =>
    obtain ⟨ha, hrest⟩ := List.forall_mem_cons.1 h
    exact ha.append (ih hrest)

/-- A text is cut into its lines; nothing stands after the last one. -/
theorem segments_eq (h : HasLines text lines) : segments '\n' text = lines ++ [""] := by
  obtain ⟨htext, hlines⟩ := h
  have hpieces : pieces '\n' text.toList = lines.map String.toList ++ [[]] := by
    rw [htext]
    clear htext
    induction lines with
    | nil => rfl
    | cons line rest ih =>
      obtain ⟨hline, hrest⟩ := List.forall_mem_cons.1 hlines
      rw [List.flatMap_cons, List.append_assoc, List.singleton_append, pieces_append,
        pieces_eq_singleton hline, ih hrest]
      rfl
  simp [segments, hpieces, Function.comp_def]

end HasLines

/-! ## Parts of a text -/

/-- Texts that stand next to each other are one text.  They must not be empty, which is evident of
literals: as a rewriting rule, this joins literals and nothing else, wherever they were cut. -/
theorem append_literals {s t : String} (_hs : ¬ s = "") (_ht : ¬ t = "") (rest : String) :
    s ++ (t ++ rest) = s ++ t ++ rest :=
  (String.append_assoc ..).symm

/-- A piece stands somewhere in a text. -/
def Occurs (piece text : String) : Prop := ∃ before after, text = before ++ piece ++ after

theorem concat_append (texts more : List String) :
    concat (texts ++ more) = concat texts ++ concat more := by
  induction texts with
  | nil => exact (String.empty_append ..).symm
  | cons text rest ih => rw [List.cons_append, concat, concat, ih, String.append_assoc]

namespace Occurs

variable {piece text : String}

/-- What stands in a part stands in the whole. -/
theorem concat_of_mem {texts : List String} (htext : text ∈ texts) (h : Occurs piece text) :
    Occurs piece (concat texts) := by
  obtain ⟨before, after, rfl⟩ := h
  obtain ⟨first, rest, rfl⟩ := List.append_of_mem htext
  refine ⟨concat first ++ before, after ++ concat rest, ?_⟩
  simp only [concat_append, concat, String.append_assoc]

/-- The letters of a piece that stands in a text are letters of the text. -/
theorem toList_subset (h : Occurs piece text) : piece.toList ⊆ text.toList := by
  obtain ⟨before, after, rfl⟩ := h
  intro c hc
  simp [hc]

end Occurs

/-- A text starts with another. -/
def StartsWith (text start : String) : Prop := ∃ rest, text = start ++ rest

namespace StartsWith

variable {text start : String}

theorem of_toList (h : start.toList <+: text.toList) : StartsWith text start := by
  obtain ⟨rest, hrest⟩ := h
  exact ⟨String.ofList rest, String.toList_injective (by simp [hrest])⟩

theorem append (h : StartsWith text start) (more : String) : StartsWith (text ++ more) start := by
  obtain ⟨rest, rfl⟩ := h
  exact ⟨rest ++ more, String.append_assoc ..⟩

end StartsWith

end ApiStubs.Text
