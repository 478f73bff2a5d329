/-!
# Cutting a text at a character

`segments` cuts at every occurrence of a separator and always yields at least one piece;
`splitOnce` cuts at the first occurrence only; `afterLead?` removes a given beginning.
-/

namespace ApiStubs.Text

/-- The pieces between separators, in order. -/
def pieces (sep : Char) : List Char → List (List Char)
  | [] => [[]]
  | c :: rest =>
    if c = sep then [] :: pieces sep rest
    else
      match pieces sep rest with
      | [] => [[c]]
      | piece :: more => (c :: piece) :: more

/-- The segments of a text between separators; the empty text has one empty segment. -/
def segments (sep : Char) (s : String) : List String :=
  (pieces sep s.toList).map String.ofList

/-- What stands before and after the first separator, if there is one. -/
def splitOnce (sep : Char) : List Char → Option (List Char × List Char)
  | [] => none
  | c :: rest =>
    if c = sep then some ([], rest)
    else
      match splitOnce sep rest with
      | none => none
      | some (before, after) => some (c :: before, after)

/-- The rest of a list after a given beginning. -/
def afterLead? {α : Type} [DecidableEq α] : List α → List α → Option (List α)
  | [], rest => some rest
  | _ :: _, [] => none
  | a :: lead, b :: rest => if a = b then afterLead? lead rest else none

theorem afterLead?_append {α : Type} [DecidableEq α] (lead rest : List α) :
    afterLead? lead (lead ++ rest) = some rest := by
  induction lead with
  | nil => rfl
  | cons a lead ih => simp [afterLead?, ih]

theorem afterLead?_eq_some_iff {α : Type} [DecidableEq α] {lead cs rest : List α} :
    afterLead? lead cs = some rest ↔ cs = lead ++ rest := by
  constructor
  · intro h
    induction lead generalizing cs with
    | nil => simpa [afterLead?] using h
    | cons a lead ih =>
      cases cs with
      | nil => simp [afterLead?] at h
      | cons b cs =>
        simp only [afterLead?] at h
        split at h
        · rename_i hab
          rw [hab, ih h, List.cons_append]
        · simp at h
  · rintro rfl
    exact afterLead?_append lead rest

/-- Texts in order with a separator between neighbours. -/
def joinWith (sep : String) : List String → String
  | [] => ""
  | [s] => s
  | s :: t :: rest => s ++ sep ++ joinWith sep (t :: rest)

/-- Texts in order with nothing between them. -/
def concat : List String → String
  | [] => ""
  | s :: rest => s ++ concat rest

end ApiStubs.Text
