import ApiStubs.Data.Entries

/-!
# Maps in the order of their keys

A finite map from texts, kept as a list of entries whose keys strictly increase.  Texts are ordered
by code point, which is also the order of their UTF-8 octets.  The order is part of the type, so two
maps with the same entries are equal and listing a map needs no sorting.
-/

namespace ApiStubs

/-- A finite map from texts, its entries in strictly increasing order of their keys. -/
structure SortedMap (α : Type) where
  entries : List (String × α)
  sorted : entries.Pairwise (fun a b => a.1 < b.1)
  deriving DecidableEq, Repr

namespace SortedMap

variable {α : Type}

/-- The map with no entries. -/
def empty : SortedMap α := ⟨[], List.Pairwise.nil⟩

instance : Inhabited (SortedMap α) := ⟨empty⟩

/-- Entries with one more, in its place; an entry with the same key is replaced. -/
def insertEntry (key : String) (value : α) : List (String × α) → List (String × α)
  | [] => [(key, value)]
  | entry :: rest =>
    if key < entry.1 then (key, value) :: entry :: rest
    else if entry.1 < key then entry :: insertEntry key value rest
    else (key, value) :: rest

theorem mem_insertEntry {key : String} {value : α} {x : String × α} :
    ∀ {l : List (String × α)}, x ∈ insertEntry key value l → x = (key, value) ∨ x ∈ l
  | [], h => by simpa [insertEntry] using h
  | entry :: rest, h => by
    simp only [insertEntry] at h
    split at h
    · rcases List.mem_cons.1 h with h | h
      · exact Or.inl h
      · exact Or.inr h
    · split at h
      · rcases List.mem_cons.1 h with h | h
        · exact Or.inr (by simp [h])
        · rcases mem_insertEntry h with h | h
          · exact Or.inl h
          · exact Or.inr (List.mem_cons_of_mem _ h)
      · rcases List.mem_cons.1 h with h | h
        · exact Or.inl h
        · exact Or.inr (List.mem_cons_of_mem _ h)

theorem pairwise_insertEntry (key : String) (value : α) :
    ∀ (l : List (String × α)), l.Pairwise (fun a b => a.1 < b.1) →
      (insertEntry key value l).Pairwise (fun a b => a.1 < b.1)
  | [], _ => by simp [insertEntry]
  | entry :: rest, h => by
    have hrest := List.pairwise_cons.1 h
    simp only [insertEntry]
    split
    · rename_i hlt
      refine List.pairwise_cons.2 ⟨?_, h⟩
      intro x hx
      rcases List.mem_cons.1 hx with rfl | hx
      · exact hlt
      · exact String.lt_trans hlt (hrest.1 x hx)
    · split
      · rename_i hlt
        refine List.pairwise_cons.2 ⟨?_, pairwise_insertEntry key value rest hrest.2⟩
        intro x hx
        rcases mem_insertEntry hx with rfl | hx
        · exact hlt
        · exact hrest.1 x hx
      · rename_i h1 h2
        have hkey : key = entry.1 := String.le_antisymm (String.not_lt.1 h2) (String.not_lt.1 h1)
        refine List.pairwise_cons.2 ⟨?_, hrest.2⟩
        intro x hx
        rw [hkey]
        exact hrest.1 x hx

/-- The map with a key bound to a value, in place of what the key was bound to. -/
def insert (m : SortedMap α) (key : String) (value : α) : SortedMap α :=
  ⟨insertEntry key value m.entries, pairwise_insertEntry key value m.entries m.sorted⟩

/-- The value of a key. -/
def get? (m : SortedMap α) (key : String) : Option α := findEntry key m.entries

/-- After an insertion, the key has the new value and every other key the value it had. -/
theorem findEntry_insertEntry (key k : String) (value : α) (l : List (String × α)) :
    findEntry k (insertEntry key value l) = if key = k then some value else findEntry k l := by
  induction l with
  | nil => simp [insertEntry, findEntry]
  | cons entry rest ih =>
    simp only [insertEntry]
    split
    · simp [findEntry]
    · split
      · rename_i hlt
        have hne : entry.1 ≠ key := fun h => String.lt_irrefl key (h ▸ hlt)
        simp only [findEntry, ih]
        by_cases hk : key = k
        · subst hk
          simp [hne]
        · simp [hk]
      · rename_i h1 h2
        have hkey : key = entry.1 := String.le_antisymm (String.not_lt.1 h2) (String.not_lt.1 h1)
        subst hkey
        simp only [findEntry]
        split <;> rfl

@[simp]
theorem get?_empty (key : String) : (empty : SortedMap α).get? key = none := rfl

theorem get?_insert (m : SortedMap α) (key k : String) (value : α) :
    (m.insert key value).get? k = if key = k then some value else m.get? k :=
  findEntry_insertEntry key k value m.entries

/-- Whether a key is bound. -/
def contains (m : SortedMap α) (key : String) : Bool := (m.get? key).isSome

/-- The number of entries. -/
def size (m : SortedMap α) : Nat := m.entries.length

/-- Whether there are no entries. -/
def isEmpty (m : SortedMap α) : Bool := m.entries.isEmpty

/-- The keys in increasing order. -/
def keys (m : SortedMap α) : List String := m.entries.map (·.1)

/-- The entries in increasing order of their keys. -/
def toList (m : SortedMap α) : List (String × α) := m.entries

/-- Every pair inserted in turn, so the last value given for a key stays. -/
def insertAll (m : SortedMap α) : List (String × α) → SortedMap α
  | [] => m
  | pair :: rest => insertAll (m.insert pair.1 pair.2) rest

/-- The map of a list of pairs; the last value given for a key stays. -/
def ofList (pairs : List (String × α)) : SortedMap α := empty.insertAll pairs

@[ext]
theorem ext {m n : SortedMap α} (h : m.entries = n.entries) : m = n := by
  cases m; cases n; cases h; rfl

end SortedMap

end ApiStubs
