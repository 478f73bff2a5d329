import ApiStubs.Proofs.Json.Reading

/-!
# Records on trees

A record is read from an object member by member, in the order of the text, or from a list in the
order of the layout.  What the readers of its members take from a tree decides what the reader of
the record takes.
-/

namespace ApiStubs.Json

variable {α : Type}

/-! ## Members -/

/-- How a member changes the record when its value is the tree: what its reader says of the tree
written without blanks. -/
def Slot.view (slot : Slot α) (t : Tree) : Option (α → α) :=
  (slot.read t.tokens.flatten).toOption.map (·.1)

/-- What is read without blanks is read with any blanks. -/
theorem Reads.slot_view {slot : Slot α} {view : Tree → Option (α → α)} (h : Reads slot.read view) :
    slot.view = view := by
  funext t
  have hspaced : Spaced (t.tokens ++ []) t.tokens.flatten := by
    rw [List.append_nil]
    exact .flatten t.tokens
  have hleaves := h.leaves ends_nil hspaced
  unfold Slot.view
  cases hview : view t with
  | some change =>
      rw [hview] at hleaves
      obtain ⟨rest, hread, -⟩ := hleaves
      rw [hread]
      rfl
  | none =>
      rw [hview] at hleaves
      obtain ⟨e, hread⟩ := hleaves
      rw [hread]
      rfl

theorem reads_slot_of {β : Type} {inner : Reader β} {view : Tree → Option β} (h : Reads inner view)
    (name : String) (required : Bool) (set : β → α → α) :
    Reads (Slot.of name required inner set).read (fun t => (view t).map set) where
  leaves {t ts bytes} hts hspaced := by
    have hleaves := h.leaves hts hspaced
    simp only [Slot.of]
    cases hview : view t with
    | some b =>
        rw [hview] at hleaves
        obtain ⟨rest, hread, hrest⟩ := hleaves
        exact ⟨rest, by rw [hread], hrest⟩
    | none =>
        rw [hview] at hleaves
        obtain ⟨e, hread⟩ := hleaves
        exact ⟨e, by rw [hread]⟩
  sound {bytes change rest} hread := by
    simp only [Slot.of] at hread
    split at hread
    · cases hread
    · rename_i b after hinner
      cases hread
      exact h.sound hinner

/-- A member that is read from trees, whatever the blanks. -/
def Slot.Lawful (slot : Slot α) : Prop := Reads slot.read slot.view

theorem Reads.lawful {slot : Slot α} {view : Tree → Option (α → α)} (h : Reads slot.read view) :
    slot.Lawful := by
  unfold Slot.Lawful
  rwa [h.slot_view]

namespace Layout

/-- All members are read from trees, whatever the blanks. -/
def Lawful (layout : Layout α) : Prop := ∀ slot ∈ layout.slots, slot.Lawful

/-- The record after the members of an object, of which `seen` have been given before. -/
def ofMembers (layout : Layout α) : α → List String → List (List TextUnit × Tree) → Option α
  | record, seen, [] => if (layout.missing? seen).isNone then some record else none
  | record, seen, (name, t) :: members =>
    (TextUnit.value? name).bind fun key =>
      match layout.slot? key with
      | none => ofMembers layout record seen members
      | some slot =>
        if seen.contains key then none
        else (slot.view t).bind fun change => ofMembers layout (change record) (key :: seen) members

/-- The record after the elements of a list, which are those of the members in order. -/
def ofItems : List (Slot α) → α → List Tree → Option α
  | slots, record, [] => if slots.any (·.required) then none else some record
  | [], _, _ :: _ => none
  | slot :: slots, record, t :: items =>
    (slot.view t).bind fun change => ofItems slots (change record) items

/-- The record that a tree says. -/
def view (layout : Layout α) : Tree → Option α
  | .object members => layout.ofMembers layout.blank [] members
  | .list items => ofItems layout.slots layout.blank items
  | _ => none

/-! ## Objects -/

theorem slot?_mem {layout : Layout α} {key : String} {slot : Slot α}
    (h : layout.slot? key = some slot) : slot ∈ layout.slots ∧ slot.name = key :=
  ⟨List.mem_of_find?_eq_some h, by simpa using List.find?_some h⟩

theorem leaves_members {layout : Layout α} (hlayout : layout.Lawful)
    (members : List (List TextUnit × Tree)) :
    ∀ {fuel first record seen ts bytes}, members.length < fuel →
      Spaced (Tree.memberTokens first members ++ ts) bytes →
      Leaves (layout.readMembers fuel first record seen bytes) ts
        (layout.ofMembers record seen members) := by
  induction members with
  | nil =>
      intro fuel first record seen ts bytes hfuel hspaced
      cases fuel with
      | zero => cases hfuel
      | succ fuel =>
          obtain ⟨rest, hnext, hrest⟩ := nextKey_close hspaced
          rw [readMembers, hnext, ofMembers]
          cases layout.missing? seen with
          | none => exact ⟨rest, rfl, hrest⟩
          | some slot => exact ⟨_, rfl⟩
  | cons m members ih =>
      intro fuel first record seen ts bytes hfuel hspaced
      obtain ⟨name, t⟩ := m
      cases fuel with
      | zero => cases hfuel
      | succ fuel =>
          have hkey := nextKey_member hspaced
          rw [readMembers, ofMembers]
          cases hname : TextUnit.value? name with
          | none =>
              rw [hname] at hkey
              obtain ⟨e, he⟩ := hkey
              exact ⟨e, by rw [he]⟩
          | some key =>
              rw [hname] at hkey
              obtain ⟨named, hnamed, hcolon⟩ := hkey
              obtain ⟨start, hstart, hvalue⟩ := readColon_of_spaced hcolon
              have hends := ends_memberTokens members ts
              have hless : members.length < fuel := Nat.lt_of_succ_lt_succ hfuel
              simp only [hnamed, hstart, Option.bind_some]
              cases hslot : layout.slot? key with
              | none =>
                  obtain ⟨after, hskip, hafter⟩ := skipValue_of_spaced hends hvalue
                  simp only [hskip]
                  exact ih hless hafter
              | some slot =>
                  cases hseen : seen.contains key with
                  | true => exact ⟨_, if_pos rfl⟩
                  | false =>
                      have hread := (hlayout slot (slot?_mem hslot).1).leaves hends hvalue
                      simp only [Bool.false_eq_true, if_false]
                      cases hview : slot.view t with
                      | none =>
                          rw [hview] at hread
                          obtain ⟨e, he⟩ := hread
                          exact ⟨e, by rw [he]⟩
                      | some change =>
                          rw [hview] at hread
                          obtain ⟨after, hok, hafter⟩ := hread
                          simp only [hok, Option.bind_some]
                          exact ih hless hafter

theorem precedes_of_readMembers {layout : Layout α} (hlayout : layout.Lawful) :
    ∀ {fuel first record seen bytes result rest},
      layout.readMembers fuel first record seen bytes = .ok (result, rest) →
      ∃ members, Precedes (Tree.memberTokens first members) bytes rest := by
  intro fuel
  induction fuel with
  | zero =>
      intro first record seen bytes result rest h
      cases h
  | succ fuel ih =>
      intro first record seen bytes result rest h
      rw [readMembers] at h
      split at h
      · cases h
      · rename_i after hkey
        split at h
        · cases h
        · cases h
          exact ⟨[], precedes_of_nextKey_none hkey⟩
      · rename_i key named hkey
        split at h
        · split at h
          · cases h
          · rename_i start hcolon
            split at h
            · cases h
            · rename_i after hskip
              obtain ⟨t, ht⟩ := precedes_of_skipValue hskip
              obtain ⟨members, hmembers⟩ := ih h
              exact precedes_member hkey hcolon ht hmembers
        · rename_i slot hslot
          split at h
          · cases h
          · split at h
            · cases h
            · rename_i start hcolon
              split at h
              · cases h
              · rename_i change after hread
                obtain ⟨t, ht⟩ := (hlayout slot (slot?_mem hslot).1).sound hread
                obtain ⟨members, hmembers⟩ := ih h
                exact precedes_member hkey hcolon ht hmembers

/-! ## Lists -/

theorem isSome_tooShort (slots : List (Slot α)) (index : Nat) :
    (tooShort index slots).isSome = slots.any (·.required) := by
  induction slots generalizing index with
  | nil => simp [tooShort]
  | cons slot slots ih =>
      rw [tooShort]
      cases hslot : slot.required <;> simp [hslot, ih]

/-- After the last member the list must end. -/
theorem closeList_item {first : Bool} {t : Tree} {items : List Tree} {ts : List Bytes}
    {bytes : Bytes} (h : Spaced (Tree.itemTokens first (t :: items) ++ ts) bytes) :
    ∃ e, closeList bytes = .error e := by
  rw [Tree.itemTokens, List.append_assoc, List.append_assoc] at h
  cases first with
  | true =>
      obtain ⟨rest, hskip, -⟩ := Tree.skipSpace_of_spaced h
      rw [closeList, hskip]
      simp only [if_neg t.lead_ne_close]
      split
      · split
        · split <;> exact ⟨_, rfl⟩
        · exact ⟨_, rfl⟩
      · exact ⟨_, rfl⟩
  | false =>
      obtain ⟨start, hcomma, hstart⟩ := Spaced.skipSpace_octet h (by decide)
      obtain ⟨rest, hskip, -⟩ := Tree.skipSpace_of_spaced hstart
      exact ⟨.trailingText, by simp [closeList, hcomma, hskip, t.lead_ne_close]⟩

theorem leaves_positions {layout : Layout α} (slots : List (Slot α)) :
    ∀ {index record items ts bytes}, (∀ slot ∈ slots, slot.Lawful) →
      Spaced (Tree.itemTokens (index == 0) items ++ ts) bytes →
      Leaves (layout.readPositions slots index record bytes) ts (ofItems slots record items) := by
  induction slots with
  | nil =>
      intro index record items ts bytes _ hspaced
      rw [readPositions]
      cases items with
      | nil =>
          rw [Tree.itemTokens] at hspaced
          obtain ⟨rest, hskip, hrest⟩ := hspaced.skipSpace_octet (by decide)
          exact ⟨rest, by simp [closeList, hskip, readPositions.withRest'], hrest⟩
      | cons t items =>
          obtain ⟨e, he⟩ := closeList_item hspaced
          exact ⟨e, by rw [he]; rfl⟩
  | cons slot slots ih =>
      intro index record items ts bytes hslots hspaced
      rw [readPositions]
      cases items with
      | nil =>
          obtain ⟨rest, hnext, hrest⟩ := nextElement_close hspaced
          rw [hnext, ofItems, ← isSome_tooShort (slot :: slots) index]
          cases tooShort index (slot :: slots) with
          | none => exact ⟨rest, rfl, hrest⟩
          | some n => exact ⟨_, rfl⟩
      | cons t items =>
          obtain ⟨start, hnext, hstart⟩ := nextElement_item hspaced
          have hread := (hslots slot List.mem_cons_self).leaves (ends_itemTokens items ts) hstart
          rw [hnext, ofItems]
          cases hview : slot.view t with
          | none =>
              rw [hview] at hread
              obtain ⟨e, he⟩ := hread
              exact ⟨e, by simp [he]⟩
          | some change =>
              rw [hview] at hread
              obtain ⟨after, hok, hafter⟩ := hread
              simp only [hok, Option.bind_some]
              exact ih (fun s hs => hslots s (List.mem_cons_of_mem _ hs)) hafter

theorem precedes_of_closeList {bytes rest : Bytes} (h : closeList bytes = .ok rest) :
    Precedes [[0x5D]] bytes rest := by
  unfold closeList at h
  split at h
  · cases h
  · rename_i b start hskip
    split at h
    · rename_i hb
      cases h
      rw [hb] at hskip
      exact precedes_octet hskip
    · split at h
      · split at h
        · split at h <;> cases h
        · cases h
      · cases h

theorem precedes_of_readPositions {layout : Layout α} (slots : List (Slot α)) :
    ∀ {index record bytes result rest}, (∀ slot ∈ slots, slot.Lawful) →
      layout.readPositions slots index record bytes = .ok (result, rest) →
      ∃ items, Precedes (Tree.itemTokens (index == 0) items) bytes rest := by
  induction slots with
  | nil =>
      intro index record bytes result rest _ h
      rw [readPositions] at h
      unfold readPositions.withRest' at h
      split at h
      · cases h
      · rename_i after hclose
        cases h
        exact ⟨[], by rw [Tree.itemTokens]; exact precedes_of_closeList hclose⟩
  | cons slot slots ih =>
      intro index record bytes result rest hslots h
      rw [readPositions] at h
      split at h
      · cases h
      · rename_i after hnext
        split at h
        · cases h
        · cases h
          exact ⟨[], by rw [Tree.itemTokens]; exact precedes_of_nextElement hnext⟩
      · rename_i start hnext
        split at h
        · cases h
        · rename_i change after hread
          obtain ⟨t, ht⟩ := (hslots slot List.mem_cons_self).sound hread
          obtain ⟨items, hitems⟩ := ih (fun s hs => hslots s (List.mem_cons_of_mem _ hs)) h
          refine ⟨t :: items, ?_⟩
          rw [Tree.itemTokens]
          exact (precedes_of_nextElement hnext).append (ht.append hitems)

/-! ## Records -/

/-- A record whose members are read from trees is read from trees. -/
theorem reads (layout : Layout α) (hlayout : layout.Lawful) : Reads layout.reader layout.view where
  leaves {t ts bytes} _ hspaced := by
    rw [reader]
    cases t with
    | list items =>
        rw [Tree.tokens, List.cons_append] at hspaced
        obtain ⟨start, hskip, hstart⟩ := hspaced.skipSpace_octet (by decide)
        rw [hskip]
        exact leaves_positions layout.slots hlayout hstart
    | object members =>
        rw [Tree.tokens, List.cons_append] at hspaced
        obtain ⟨start, hskip, hstart⟩ := hspaced.skipSpace_octet (by decide)
        have hcount := hstart.length_le
          (Tree.solid_memberTokens (fun m _ => m.2.solid_tokens) true)
        have hmembers := Tree.length_le_memberTokens true members
        rw [hskip]
        exact leaves_members hlayout members (by omega) hstart
    | _ =>
        obtain ⟨rest, hskip, -⟩ := Tree.skipSpace_of_spaced hspaced
        rw [hskip]
        refine ⟨_, (if_neg fun hlist => ?_).trans (if_neg fun hbrace => ?_)⟩
        · obtain ⟨_, heq⟩ := (Tree.recognised _).list hlist
          cases heq
        · obtain ⟨_, heq⟩ := (Tree.recognised _).object hbrace
          cases heq
  sound {bytes record rest} h := by
    unfold reader at h
    split at h
    · cases h
    · rename_i b start hskip
      split at h
      · rename_i hb
        rw [hb] at hskip
        obtain ⟨items, hitems⟩ := precedes_of_readPositions layout.slots hlayout h
        exact ⟨.list items, by rw [Tree.tokens]; exact (precedes_octet hskip).append hitems⟩
      · split at h
        · rename_i hb
          rw [hb] at hskip
          obtain ⟨members, hmembers⟩ := precedes_of_readMembers hlayout h
          exact ⟨.object members, by rw [Tree.tokens]; exact (precedes_octet hskip).append hmembers⟩
        · cases h

end Layout

end ApiStubs.Json
