/-!
# Lists of entries

Keys with their values, one entry after the other.  The first entry of a key counts.
-/

namespace ApiStubs

variable {κ α β : Type} [DecidableEq κ]

/-- The value of a key in a list of entries. -/
def findEntry (key : κ) : List (κ × α) → Option α
  | [] => none
  | entry :: rest => if entry.1 = key then some entry.2 else findEntry key rest

/-- Entries with a key bound to a value, in place of what it was bound to. -/
def putEntry (key : κ) (value : α) : List (κ × α) → List (κ × α)
  | [] => [(key, value)]
  | entry :: rest =>
    if entry.1 = key then (key, value) :: rest else entry :: putEntry key value rest

/-- The key has the new value and every other key the value it had. -/
theorem findEntry_putEntry (key other : κ) (value : α) (entries : List (κ × α)) :
    findEntry other (putEntry key value entries) =
      if key = other then some value else findEntry other entries := by
  induction entries with
  | nil => simp [putEntry, findEntry]
  | cons entry rest ih =>
    simp only [putEntry]
    split
    · rename_i h
      simp only [findEntry, h]
      split <;> rfl
    · rename_i h
      simp only [findEntry, ih]
      by_cases hother : key = other
      · subst hother
        simp [h]
      · simp [hother]

/-- A new key is an entry after the others. -/
theorem putEntry_of_not_mem {key : κ} {entries : List (κ × α)} (h : key ∉ entries.map Prod.fst)
    (value : α) : putEntry key value entries = entries ++ [(key, value)] := by
  induction entries with
  | nil => rfl
  | cons entry rest ih =>
    simp only [List.map_cons, List.mem_cons, not_or] at h
    rw [putEntry, if_neg (Ne.symm h.1), ih h.2, List.cons_append]

theorem findEntry_eq_none_iff (key : κ) (entries : List (κ × α)) :
    findEntry key entries = none ↔ key ∉ entries.map Prod.fst := by
  induction entries with
  | nil => simp [findEntry]
  | cons entry rest ih =>
    by_cases hkey : entry.1 = key
    · simp [findEntry, hkey]
    · simp [findEntry, hkey, ih, Ne.symm hkey]

theorem mem_of_findEntry {key : κ} {value : α} {entries : List (κ × α)}
    (h : findEntry key entries = some value) : (key, value) ∈ entries := by
  induction entries with
  | nil => cases h
  | cons entry rest ih =>
    rw [findEntry] at h
    split at h
    · rename_i hkey
      cases h
      exact hkey ▸ List.mem_cons_self
    · exact List.mem_cons_of_mem _ (ih h)

/-- Where no key occurs twice, the values of keys are those of the entries. -/
theorem findEntry_eq_some_iff {entries : List (κ × α)}
    (hdistinct : entries.Pairwise fun a b => a.1 ≠ b.1) (key : κ) (value : α) :
    findEntry key entries = some value ↔ (key, value) ∈ entries := by
  induction entries with
  | nil => simp [findEntry]
  | cons entry rest ih =>
    obtain ⟨hfirst, hrest⟩ := List.pairwise_cons.1 hdistinct
    by_cases hkey : entry.1 = key
    · have hbehind : (key, value) ∉ rest := fun hmem => hfirst _ hmem hkey
      rw [findEntry, if_pos hkey, List.mem_cons, or_iff_left hbehind, Option.some_inj, Prod.ext_iff]
      simp [hkey, eq_comm]
    · have hfront : (key, value) ≠ entry := by
        rintro rfl
        exact hkey rfl
      rw [findEntry, if_neg hkey, ih hrest, List.mem_cons, or_iff_right hfront]

/-- Changing all values changes the values that are found. -/
theorem findEntry_map (f : α → β) (key : κ) (entries : List (κ × α)) :
    findEntry key (entries.map fun entry => (entry.1, f entry.2)) =
      (findEntry key entries).map f := by
  induction entries with
  | nil => rfl
  | cons entry rest ih =>
    simp only [List.map_cons, findEntry, ih]
    split <;> rfl

end ApiStubs
