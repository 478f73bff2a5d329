import ApiStubs.Json.Reader
import ApiStubs.Proofs.Json.Passing

/-!
# Readers on trees

Each reader of typed values takes from a tree what a function on trees says, whatever blanks stand
between the tokens, and leaves the tokens after the tree.  Where it takes anything there was a tree.
-/

namespace ApiStubs.Json

/-! ## What a reader takes from a tree -/

/-- The outcome of reading: the value with the tokens after it left over, or a fault. -/
def Leaves {α : Type} (result : Except Fault (α × Bytes)) (ts : List Bytes) : Option α → Prop
  | some a => ∃ rest, result = .ok (a, rest) ∧ Spaced ts rest
  | none => ∃ e, result = .error e

theorem leaves_of_toOption {α : Type} {result : Except Fault (α × Bytes)} {ts : List Bytes}
    {rest : Bytes} {value : Option α} (h : result.toOption = value.map (·, rest))
    (hrest : Spaced ts rest) : Leaves result ts value := by
  cases value with
  | some a =>
      cases result with
      | error e => cases h
      | ok r => exact ⟨rest, congrArg Except.ok (Option.some.inj h), hrest⟩
  | none =>
      cases result with
      | error e => exact ⟨e, rfl⟩
      | ok r => cases h

/-- A reader takes from every tree what `view` says, and takes nothing but trees. -/
structure Reads {α : Type} (read : Reader α) (view : Tree → Option α) : Prop where
  leaves : ∀ {t ts bytes}, Ends ts → Spaced (t.tokens ++ ts) bytes → Leaves (read bytes) ts (view t)
  sound : ∀ {bytes a rest}, read bytes = .ok (a, rest) → ∃ t, Precedes (Tree.tokens t) bytes rest

/-- The outcome on a whole text is that on its tree. -/
theorem Reads.readAll_eq {α : Type} {read : Reader α} {view : Tree → Option α} (h : Reads read view)
    {t : Tree} {bytes : Bytes} (ht : Spells t bytes) : (readAll read bytes).toOption = view t := by
  have hleaves := h.leaves ends_nil (by rwa [List.append_nil] : Spaced (t.tokens ++ []) bytes)
  cases hview : view t with
  | some a =>
      rw [hview] at hleaves
      obtain ⟨rest, hread, hrest⟩ := hleaves
      rw [readAll, hread]
      simp [hrest.skipSpace_nil, Except.toOption]
  | none =>
      rw [hview] at hleaves
      obtain ⟨e, hread⟩ := hleaves
      rw [readAll, hread]
      rfl

/-- Every text that is accepted is a text of some tree. -/
theorem Reads.exists_spells {α : Type} {read : Reader α} {view : Tree → Option α}
    (h : Reads read view) {bytes : Bytes} {a : α} (hread : readAll read bytes = .ok a) :
    ∃ t, Spells t bytes := by
  unfold readAll at hread
  split at hread
  · cases hread
  · rename_i value rest hvalue
    split at hread
    · rename_i hrest
      obtain ⟨t, ht⟩ := h.sound hvalue
      have hspaced := ht [] (.of_skipSpace_nil hrest)
      rw [List.append_nil] at hspaced
      exact ⟨t, hspaced⟩
    · cases hread

/-! ## Kinds of trees by what they start with -/

/-- The first octet tells what kind of tree follows. -/
structure Tree.Recognised (t : Tree) : Prop where
  null : t.lead = 0x6E → t = .null
  number : t.lead = 0x2D ∨ isDigit t.lead = true → ∃ n, t = .number n
  text : t.lead = 0x22 → ∃ us, t = .text us
  list : t.lead = 0x5B → ∃ items, t = .list items
  object : t.lead = 0x7B → ∃ members, t = .object members

theorem Tree.recognised (t : Tree) : t.Recognised := by
  cases t with
  | number n =>
      refine ⟨fun h => ?_, fun _ => ⟨n, rfl⟩, fun h => ?_, fun h => ?_, fun h => ?_⟩ <;>
        exact absurd h (lead_number_ne n (by decide) (by decide))
  | bool b =>
      cases b <;> (constructor <;> (intro h; rw [lead] at h; exact absurd h (by decide)))
  | _ =>
      constructor <;> intro h <;>
        first
        | rfl
        | exact ⟨_, rfl⟩
        | (rw [lead] at h; exact absurd h (by decide))

/-! ## Scalars -/

/-- The text of a string. -/
def Tree.text? : Tree → Option String
  | .text us => TextUnit.value? us
  | _ => none

theorem Tree.text?_eq_none {t : Tree} (h : t.lead ≠ 0x22) : t.text? = none := by
  cases t with
  | text us => exact absurd rfl h
  | _ => rfl

/-- A string past the blanks, read from its opening quote on. -/
theorem Spaced.quoted {name : List TextUnit} {ts : List Bytes} {bytes : Bytes}
    (h : Spaced (Tree.quoted name :: ts) bytes) :
    ∃ rest, skipSpace bytes = 0x22 :: rest ∧ Leaves (scanText rest) ts (TextUnit.value? name) := by
  obtain ⟨rest, hskip, hrest⟩ := h.skipSpace_eq (solid_quoted name)
  refine ⟨TextUnit.allBytes name ++ 0x22 :: rest, by simp [hskip, Tree.quoted], ?_⟩
  exact leaves_of_toOption (scanText_units name rest) hrest

theorem precedes_of_scanText {bytes start rest : Bytes} {s : String}
    (hskip : skipSpace bytes = 0x22 :: start) (h : scanText start = .ok (s, rest)) :
    ∃ name, Precedes [Tree.quoted name] bytes rest := by
  obtain ⟨name, hname⟩ := exists_units_of_scanText h
  refine ⟨name, precedes_token ?_⟩
  rw [hskip, hname]
  simp [Tree.quoted]

theorem reads_text (expected : String) : Reads (readText expected) Tree.text? where
  leaves {t ts bytes} _ hspaced := by
    by_cases hlead : t.lead = 0x22
    · obtain ⟨us, rfl⟩ := t.recognised.text hlead
      rw [Tree.tokens] at hspaced
      obtain ⟨rest, hskip, hleaves⟩ := hspaced.quoted
      rw [readText, hskip]
      exact hleaves
    · obtain ⟨rest, hskip, -⟩ := Tree.skipSpace_of_spaced hspaced
      rw [Tree.text?_eq_none hlead, readText, hskip]
      exact ⟨_, if_neg hlead⟩
  sound {bytes s rest} h := by
    unfold readText at h
    split at h
    · cases h
    · rename_i b start hskip
      split at h
      · rename_i hb
        rw [hb] at hskip
        obtain ⟨us, hus⟩ := precedes_of_scanText hskip h
        exact ⟨.text us, by rwa [Tree.tokens]⟩
      · cases h

/-- The 32-bit integer of a number. -/
def Tree.int32? : Tree → Option Int32
  | .number n => n.int32?
  | _ => none

theorem precedes_of_scanNumber {bytes start rest : Bytes} {n : Number} (negative : Bool)
    (hskip : skipSpace bytes = (if negative then [0x2D] else []) ++ start)
    (h : scanNumber negative start = .ok (n, rest)) :
    ∃ t, Precedes (Tree.tokens t) bytes rest := by
  obtain ⟨literal, hnegative, hstart⟩ :=
    exists_literal_of_skipNumber negative (skipNumber_of_scanNumber h)
  refine ⟨.number literal, ?_⟩
  rw [Tree.tokens]
  refine precedes_token ?_
  rw [hskip, hstart, NumberLiteral.bytes, hnegative, List.append_assoc]

theorem Tree.int32?_eq_none {t : Tree} (h : ¬ (t.lead = 0x2D ∨ isDigit t.lead = true)) :
    t.int32? = none := by
  cases t with
  | number n => exact absurd (lead_number n) h
  | _ => rfl

theorem exists_of_finish {result : Except Fault (Number × Bytes)} {i : Int32} {rest : Bytes}
    (h : readInt32.finish result = .ok (i, rest)) : ∃ n, result = .ok (n, rest) := by
  unfold readInt32.finish at h
  split at h
  · cases h
  · rename_i n after
    obtain ⟨-, rfl⟩ := of_withRest h
    exact ⟨n, rfl⟩

theorem readInt32_number (n : NumberLiteral) {bytes rest : Bytes}
    (hskip : skipSpace bytes = n.bytes ++ rest) :
    readInt32 bytes = readInt32.finish (scanNumber n.negative (n.unsigned ++ rest)) := by
  rw [NumberLiteral.bytes] at hskip
  rw [readInt32]
  cases hnegative : n.negative with
  | true =>
      rw [hnegative, if_pos rfl] at hskip
      simp [hskip]
  | false =>
      obtain ⟨d, more, hwhole, hd⟩ := n.whole_valid.head
      rw [hnegative, if_neg (by decide), List.nil_append, NumberLiteral.unsigned, hwhole] at hskip
      rw [NumberLiteral.unsigned, hwhole]
      simp [hskip, hd, (ne_of_isDigit hd).2.1]

theorem reads_int32 : Reads readInt32 Tree.int32? where
  leaves {t ts bytes} hts hspaced := by
    by_cases hlead : t.lead = 0x2D ∨ isDigit t.lead = true
    · obtain ⟨n, rfl⟩ := t.recognised.number hlead
      rw [Tree.tokens] at hspaced
      obtain ⟨rest, hskip, hrest⟩ := hspaced.skipSpace_eq n.solid_bytes
      rw [readInt32_number n hskip]
      exact leaves_of_toOption (finish_scanNumber n (hrest.separated hts)) hrest
    · obtain ⟨rest, hskip, -⟩ := Tree.skipSpace_of_spaced hspaced
      rw [Tree.int32?_eq_none hlead, readInt32, hskip]
      rw [not_or] at hlead
      simp only [if_neg hlead.1, if_neg hlead.2]
      exact ⟨_, rfl⟩
  sound {bytes i rest} h := by
    unfold readInt32 at h
    split at h
    · cases h
    · rename_i b start hskip
      split at h
      · rename_i hb
        rw [hb] at hskip
        obtain ⟨n, hn⟩ := exists_of_finish h
        exact precedes_of_scanNumber true hskip hn
      · split at h
        · obtain ⟨n, hn⟩ := exists_of_finish h
          exact precedes_of_scanNumber false hskip hn
        · cases h

/-- A value that may be `null`. -/
def Tree.optional? {α : Type} (view : Tree → Option α) : Tree → Option (Option α)
  | .null => some none
  | t => (view t).map some

theorem Tree.optional?_eq_map {α : Type} (view : Tree → Option α) {t : Tree} (h : t.lead ≠ 0x6E) :
    t.optional? view = (view t).map some := by
  cases t with
  | null => exact absurd rfl h
  | _ => rfl

theorem Leaves.some? {α : Type} {result : Except Fault (α × Bytes)} {ts : List Bytes}
    {value : Option α} (h : Leaves result ts value) :
    Leaves (readOptional.some? result) ts (value.map some) := by
  cases value with
  | some a =>
      obtain ⟨rest, rfl, hrest⟩ := h
      exact ⟨rest, rfl, hrest⟩
  | none =>
      obtain ⟨e, rfl⟩ := h
      exact ⟨e, rfl⟩

theorem ok_of_some? {α : Type} {result : Except Fault (α × Bytes)} {o : Option α} {rest : Bytes}
    (h : readOptional.some? result = .ok (o, rest)) : ∃ a, result = .ok (a, rest) := by
  unfold readOptional.some? at h
  split at h
  · cases h
  · rename_i a after
    cases h
    exact ⟨a, rfl⟩

theorem reads_optional {α : Type} {read : Reader α} {view : Tree → Option α} (h : Reads read view) :
    Reads (readOptional read) (Tree.optional? view) where
  leaves {t ts bytes} hts hspaced := by
    by_cases hlead : t.lead = 0x6E
    · rw [t.recognised.null hlead, Tree.tokens] at hspaced
      rw [t.recognised.null hlead]
      obtain ⟨rest, hskip, hrest⟩ := hspaced.skipSpace_eq (solid_cons (by decide) _)
      refine ⟨rest, ?_, hrest⟩
      rw [readOptional, hskip, List.cons_append]
      simp [expectWord_append]
    · obtain ⟨rest, hskip, hrest⟩ := Tree.skipSpace_of_spaced hspaced
      rw [Tree.optional?_eq_map view hlead, readOptional, hskip]
      simp only [if_neg hlead]
      exact (h.leaves hts hrest).some?
  sound {bytes o rest} hread := by
    unfold readOptional at hread
    split at hread
    · rename_i hskip
      obtain ⟨a, ha⟩ := ok_of_some? hread
      obtain ⟨t, ht⟩ := h.sound ha
      exact ⟨t, .of_skipSpace hskip ht⟩
    · rename_i b start hskip
      split at hread
      · rename_i hb
        split at hread
        · cases hread
        · rename_i after hword
          cases hread
          refine ⟨.null, ?_⟩
          rw [Tree.tokens]
          exact precedes_token (by rw [hskip, hb, eq_append_of_expectWord hword]; rfl)
      · obtain ⟨a, ha⟩ := ok_of_some? hread
        obtain ⟨t, ht⟩ := h.sound ha
        exact ⟨t, .of_skipSpace hskip ht⟩

/-! ## Arrays -/

theorem nextElement_close {first : Bool} {ts : List Bytes} {bytes : Bytes}
    (h : Spaced (Tree.itemTokens first [] ++ ts) bytes) :
    ∃ rest, nextElement first bytes = .ok (false, rest) ∧ Spaced ts rest := by
  rw [Tree.itemTokens] at h
  obtain ⟨rest, hskip, hrest⟩ := h.skipSpace_octet (by decide)
  exact ⟨rest, by simp [nextElement, hskip], hrest⟩

theorem nextElement_item {first : Bool} {t : Tree} {items : List Tree} {ts : List Bytes}
    {bytes : Bytes} (h : Spaced (Tree.itemTokens first (t :: items) ++ ts) bytes) :
    ∃ start, nextElement first bytes = .ok (true, start) ∧
      Spaced (t.tokens ++ (Tree.itemTokens false items ++ ts)) start := by
  rw [Tree.itemTokens, List.append_assoc, List.append_assoc] at h
  cases first with
  | true =>
      obtain ⟨rest, hskip, hrest⟩ := Tree.skipSpace_of_spaced h
      exact ⟨_, by simp [nextElement, hskip, t.lead_ne_close], hrest⟩
  | false =>
      obtain ⟨start, hcomma, hstart⟩ := Spaced.skipSpace_octet h (by decide)
      obtain ⟨rest, hskip, hrest⟩ := Tree.skipSpace_of_spaced hstart
      exact ⟨_, by simp [nextElement, hcomma, hskip, t.lead_ne_close], hrest⟩

/-- What the step to the next element has passed over. -/
theorem precedes_of_nextElement {first more : Bool} {bytes rest : Bytes}
    (h : nextElement first bytes = .ok (more, rest)) :
    Precedes (if more then (if first then [] else [[0x2C]]) else [[0x5D]]) bytes rest := by
  unfold nextElement at h
  split at h
  · cases h
  · rename_i b start hskip
    split at h
    · rename_i hb
      cases h
      rw [hb] at hskip
      exact precedes_octet hskip
    · split at h
      · rename_i hfirst
        cases h
        rw [hfirst]
        exact .of_skipSpace hskip fun _ hus => hus
      · rename_i hfirst
        split at h
        · rename_i hb
          rw [hb] at hskip
          split at h
          · cases h
          · rename_i c tail htail
            split at h
            · cases h
            · cases h
              rw [Bool.eq_false_iff.2 hfirst]
              exact (precedes_octet hskip).append (.of_skipSpace htail fun _ hus => hus)
        · cases h

/-- The values of the elements of a list. -/
def Tree.list? {α : Type} (view : Tree → Option α) : Tree → Option (List α)
  | .list items => items.mapM view
  | _ => none

theorem Tree.list?_eq_none {α : Type} (view : Tree → Option α) {t : Tree} (h : t.lead ≠ 0x5B) :
    t.list? view = none := by
  cases t with
  | list items => exact absurd rfl h
  | _ => rfl

theorem Tree.length_le_itemTokens (first : Bool) (items : List Tree) :
    items.length ≤ (itemTokens first items).length := by
  induction items generalizing first with
  | nil => simp
  | cons t items ih =>
      have hlength := ih false
      obtain ⟨more, ts, htokens⟩ := t.tokens_eq_lead
      rw [itemTokens, htokens]
      simp only [List.length_append, List.length_cons]
      omega

section

variable {α : Type} {element : Reader α} {view : Tree → Option α}

theorem leaves_elements (h : Reads element view) (items : List Tree) :
    ∀ {fuel first ts bytes}, items.length < fuel →
      Spaced (Tree.itemTokens first items ++ ts) bytes →
      Leaves (readElements element fuel first bytes) ts (items.mapM view) := by
  induction items with
  | nil =>
      intro fuel first ts bytes hfuel hspaced
      cases fuel with
      | zero => cases hfuel
      | succ fuel =>
          obtain ⟨rest, hnext, hrest⟩ := nextElement_close hspaced
          exact ⟨rest, by rw [readElements, hnext]; rfl, hrest⟩
  | cons t items ih =>
      intro fuel first ts bytes hfuel hspaced
      cases fuel with
      | zero => cases hfuel
      | succ fuel =>
          obtain ⟨start, hnext, hstart⟩ := nextElement_item hspaced
          have hvalue := h.leaves (ends_itemTokens items ts) hstart
          rw [readElements, hnext, List.mapM_cons]
          cases hview : view t with
          | none =>
              rw [hview] at hvalue
              obtain ⟨e, he⟩ := hvalue
              exact ⟨e, by simp [he]⟩
          | some a =>
              rw [hview] at hvalue
              obtain ⟨after, hok, hafter⟩ := hvalue
              have hmore := ih (Nat.lt_of_succ_lt_succ hfuel) hafter
              cases hitems : items.mapM view with
              | none =>
                  rw [hitems] at hmore
                  obtain ⟨e, he⟩ := hmore
                  exact ⟨e, by simp [hok, he]⟩
              | some more =>
                  rw [hitems] at hmore
                  obtain ⟨rest, hend, hrest⟩ := hmore
                  exact ⟨rest, by simp [hok, hend], hrest⟩

theorem precedes_of_readElements (h : Reads element view) :
    ∀ {fuel first bytes as rest}, readElements element fuel first bytes = .ok (as, rest) →
      ∃ items, Precedes (Tree.itemTokens first items) bytes rest := by
  intro fuel
  induction fuel with
  | zero =>
      intro first bytes as rest hread
      cases hread
  | succ fuel ih =>
      intro first bytes as rest hread
      rw [readElements] at hread
      split at hread
      · cases hread
      · rename_i after hnext
        cases hread
        exact ⟨[], by rw [Tree.itemTokens]; exact precedes_of_nextElement hnext⟩
      · rename_i start hnext
        split at hread
        · cases hread
        · rename_i a after hvalue
          split at hread
          · cases hread
          · rename_i more tail hmore
            cases hread
            obtain ⟨t, ht⟩ := h.sound hvalue
            obtain ⟨items, hitems⟩ := ih hmore
            refine ⟨t :: items, ?_⟩
            rw [Tree.itemTokens]
            exact (precedes_of_nextElement hnext).append (ht.append hitems)

theorem reads_list (h : Reads element view) : Reads (readList element) (Tree.list? view) where
  leaves {t ts bytes} _ hspaced := by
    by_cases hlead : t.lead = 0x5B
    · obtain ⟨items, rfl⟩ := t.recognised.list hlead
      rw [Tree.tokens, List.cons_append] at hspaced
      obtain ⟨start, hskip, hstart⟩ := hspaced.skipSpace_octet (by decide)
      have hcount := hstart.length_le
        (Tree.solid_itemTokens (fun t _ => t.solid_tokens) true)
      have hitems := Tree.length_le_itemTokens true items
      rw [readList, hskip]
      exact leaves_elements h items (by omega) hstart
    · obtain ⟨rest, hskip, -⟩ := Tree.skipSpace_of_spaced hspaced
      rw [Tree.list?_eq_none view hlead, readList, hskip]
      exact ⟨_, if_neg hlead⟩
  sound {bytes as rest} hread := by
    unfold readList at hread
    split at hread
    · cases hread
    · rename_i b start hskip
      split at hread
      · rename_i hb
        rw [hb] at hskip
        obtain ⟨items, hitems⟩ := precedes_of_readElements h hread
        exact ⟨.list items, by rw [Tree.tokens]; exact (precedes_octet hskip).append hitems⟩
      · cases hread

end

/-! ## Objects -/

theorem nextKey_close {first : Bool} {ts : List Bytes} {bytes : Bytes}
    (h : Spaced (Tree.memberTokens first [] ++ ts) bytes) :
    ∃ rest, nextKey first bytes = .ok (none, rest) ∧ Spaced ts rest := by
  rw [Tree.memberTokens] at h
  obtain ⟨rest, hskip, hrest⟩ := h.skipSpace_octet (by decide)
  exact ⟨rest, by simp [nextKey, hskip], hrest⟩

theorem Leaves.name {result : Except Fault (String × Bytes)} {ts : List Bytes}
    {value : Option String} (h : Leaves result ts value) :
    Leaves (nextKey.name result) ts (value.map some) := by
  cases value with
  | some s =>
      obtain ⟨rest, rfl, hrest⟩ := h
      exact ⟨rest, rfl, hrest⟩
  | none =>
      obtain ⟨e, rfl⟩ := h
      exact ⟨e, rfl⟩

/-- The step to the next member reads its name. -/
theorem nextKey_member {first : Bool} {name : List TextUnit} {t : Tree}
    {members : List (List TextUnit × Tree)} {ts : List Bytes} {bytes : Bytes}
    (h : Spaced (Tree.memberTokens first ((name, t) :: members) ++ ts) bytes) :
    Leaves (nextKey first bytes)
      ([0x3A] :: (t.tokens ++ (Tree.memberTokens false members ++ ts)))
      ((TextUnit.value? name).map some) := by
  rw [Tree.memberTokens, List.append_assoc, List.cons_append, List.cons_append,
    List.append_assoc] at h
  cases first with
  | true =>
      obtain ⟨rest, hskip, hleaves⟩ := Spaced.quoted h
      rw [nextKey, hskip]
      exact hleaves.name
  | false =>
      obtain ⟨start, hcomma, hstart⟩ := Spaced.skipSpace_octet h (by decide)
      obtain ⟨rest, hskip, hleaves⟩ := Spaced.quoted hstart
      rw [nextKey, hcomma]
      simp only [hskip]
      exact hleaves.name

theorem ok_of_name {result : Except Fault (String × Bytes)} {key : Option String} {rest : Bytes}
    (h : nextKey.name result = .ok (key, rest)) : ∃ s, key = some s ∧ result = .ok (s, rest) := by
  unfold nextKey.name at h
  split at h
  · cases h
  · rename_i s after
    cases h
    exact ⟨s, rfl, rfl⟩

/-- What the step to the next member has passed over. -/
theorem precedes_of_nextKey {first : Bool} {key : Option String} {bytes rest : Bytes}
    (h : nextKey first bytes = .ok (key, rest)) :
    key = none ∧ Precedes [[0x7D]] bytes rest ∨
      key.isSome ∧ ∃ name,
        Precedes ((if first then [] else [[0x2C]]) ++ [Tree.quoted name]) bytes rest := by
  unfold nextKey at h
  split at h
  · cases h
  · rename_i b start hskip
    split at h
    · rename_i hb
      cases h
      rw [hb] at hskip
      exact .inl ⟨rfl, precedes_octet hskip⟩
    · refine .inr ?_
      split at h
      · rename_i hfirst
        rw [hfirst]
        split at h
        · rename_i hb
          rw [hb] at hskip
          obtain ⟨s, rfl, htext⟩ := ok_of_name h
          exact ⟨rfl, precedes_of_scanText hskip htext⟩
        · cases h
      · rename_i hfirst
        rw [Bool.eq_false_iff.2 hfirst]
        split at h
        · rename_i hb
          rw [hb] at hskip
          split at h
          · cases h
          · rename_i c more hmore
            split at h
            · rename_i hc
              rw [hc] at hmore
              obtain ⟨s, rfl, htext⟩ := ok_of_name h
              obtain ⟨name, hname⟩ := precedes_of_scanText hmore htext
              exact ⟨rfl, name, (precedes_octet hskip).append hname⟩
            · split at h <;> cases h
        · cases h

theorem readColon_of_spaced {ts : List Bytes} {bytes : Bytes} (h : Spaced ([0x3A] :: ts) bytes) :
    ∃ rest, readColon bytes = .ok rest ∧ Spaced ts rest := by
  obtain ⟨rest, hskip, hrest⟩ := h.skipSpace_octet (by decide)
  exact ⟨rest, by simp [readColon, hskip], hrest⟩

theorem precedes_of_readColon {bytes rest : Bytes} (h : readColon bytes = .ok rest) :
    Precedes [[0x3A]] bytes rest := by
  unfold readColon at h
  split at h
  · cases h
  · rename_i b start hskip
    split at h
    · rename_i hb
      cases h
      rw [hb] at hskip
      exact precedes_octet hskip
    · cases h

theorem Tree.length_le_memberTokens (first : Bool) (members : List (List TextUnit × Tree)) :
    members.length ≤ (memberTokens first members).length := by
  induction members generalizing first with
  | nil => simp
  | cons m members ih =>
      have hlength := ih false
      rw [memberTokens]
      simp only [List.length_append, List.length_cons]
      omega

/-- The texts under the names of members, added to those given; of a repeated name the last
stays. -/
def textsOf : SortedMap String → List (List TextUnit × Tree) → Option (SortedMap String)
  | texts, [] => some texts
  | texts, (name, t) :: members =>
    (TextUnit.value? name).bind fun key =>
      t.text?.bind fun value => textsOf (texts.insert key value) members

/-- The texts of an object. -/
def Tree.texts? : Tree → Option (SortedMap String)
  | .object members => textsOf SortedMap.empty members
  | _ => none

theorem Tree.texts?_eq_none {t : Tree} (h : t.lead ≠ 0x7B) : t.texts? = none := by
  cases t with
  | object members => exact absurd rfl h
  | _ => rfl

theorem leaves_texts (members : List (List TextUnit × Tree)) :
    ∀ {fuel first texts ts bytes}, members.length < fuel →
      Spaced (Tree.memberTokens first members ++ ts) bytes →
      Leaves (readTexts fuel first texts bytes) ts (textsOf texts members) := by
  induction members with
  | nil =>
      intro fuel first texts ts bytes hfuel hspaced
      cases fuel with
      | zero => cases hfuel
      | succ fuel =>
          obtain ⟨rest, hnext, hrest⟩ := nextKey_close hspaced
          exact ⟨rest, by rw [readTexts, hnext], hrest⟩
  | cons m members ih =>
      intro fuel first texts ts bytes hfuel hspaced
      obtain ⟨name, t⟩ := m
      cases fuel with
      | zero => cases hfuel
      | succ fuel =>
          have hkey := nextKey_member hspaced
          rw [readTexts, textsOf]
          cases hname : TextUnit.value? name with
          | none =>
              rw [hname] at hkey
              obtain ⟨e, he⟩ := hkey
              exact ⟨e, by simp [he]⟩
          | some key =>
              rw [hname] at hkey
              obtain ⟨named, hnamed, hcolon⟩ := hkey
              obtain ⟨start, hstart, hvalue⟩ := readColon_of_spaced hcolon
              have htext := (reads_text "a string").leaves (ends_memberTokens members ts) hvalue
              simp only [hnamed, hstart, Option.bind_some]
              cases hview : t.text? with
              | none =>
                  rw [hview] at htext
                  obtain ⟨e, he⟩ := htext
                  exact ⟨e, by simp [he]⟩
              | some value =>
                  rw [hview] at htext
                  obtain ⟨after, hok, hafter⟩ := htext
                  simp only [hok, Option.bind_some]
                  exact ih (Nat.lt_of_succ_lt_succ hfuel) hafter

/-- A member has been read: its name, its colon, its value, and the members after it. -/
theorem precedes_member {first : Bool} {key : String} {t : Tree}
    {members : List (List TextUnit × Tree)} {bytes rest start middle after : Bytes}
    (hkey : nextKey first bytes = .ok (some key, rest)) (hcolon : readColon rest = .ok start)
    (hvalue : Precedes t.tokens start middle)
    (hmembers : Precedes (Tree.memberTokens false members) middle after) :
    ∃ members', Precedes (Tree.memberTokens first members') bytes after := by
  rcases precedes_of_nextKey hkey with ⟨hnone, -⟩ | ⟨-, name, hname⟩
  · cases hnone
  · refine ⟨(name, t) :: members, ?_⟩
    have htokens := hname.append ((precedes_of_readColon hcolon).append (hvalue.append hmembers))
    rw [Tree.memberTokens]
    simpa using htokens

theorem precedes_of_nextKey_none {first : Bool} {bytes rest : Bytes}
    (h : nextKey first bytes = .ok (none, rest)) :
    Precedes (Tree.memberTokens first []) bytes rest := by
  rw [Tree.memberTokens]
  rcases precedes_of_nextKey h with ⟨-, hclose⟩ | ⟨hsome, -⟩
  · exact hclose
  · cases hsome

theorem precedes_of_readTexts :
    ∀ {fuel first texts bytes result rest}, readTexts fuel first texts bytes = .ok (result, rest) →
      ∃ members, Precedes (Tree.memberTokens first members) bytes rest := by
  intro fuel
  induction fuel with
  | zero =>
      intro first texts bytes result rest h
      cases h
  | succ fuel ih =>
      intro first texts bytes result rest h
      rw [readTexts] at h
      split at h
      · cases h
      · rename_i after hkey
        cases h
        exact ⟨[], precedes_of_nextKey_none hkey⟩
      · rename_i key named hkey
        split at h
        · cases h
        · rename_i start hcolon
          split at h
          · cases h
          · rename_i value after hvalue
            obtain ⟨t, ht⟩ := (reads_text "a string").sound hvalue
            obtain ⟨members, hmembers⟩ := ih h
            exact precedes_member hkey hcolon ht hmembers

theorem reads_textMap : Reads readTextMap Tree.texts? where
  leaves {t ts bytes} _ hspaced := by
    by_cases hlead : t.lead = 0x7B
    · obtain ⟨members, rfl⟩ := t.recognised.object hlead
      rw [Tree.tokens, List.cons_append] at hspaced
      obtain ⟨start, hskip, hstart⟩ := hspaced.skipSpace_octet (by decide)
      have hcount := hstart.length_le
        (Tree.solid_memberTokens (fun m _ => m.2.solid_tokens) true)
      have hmembers := Tree.length_le_memberTokens true members
      rw [readTextMap, hskip]
      exact leaves_texts members (by omega) hstart
    · obtain ⟨rest, hskip, -⟩ := Tree.skipSpace_of_spaced hspaced
      rw [Tree.texts?_eq_none hlead, readTextMap, hskip]
      exact ⟨_, if_neg hlead⟩
  sound {bytes texts rest} h := by
    unfold readTextMap at h
    split at h
    · cases h
    · rename_i b start hskip
      split at h
      · rename_i hb
        rw [hb] at hskip
        obtain ⟨members, hmembers⟩ := precedes_of_readTexts h
        exact ⟨.object members, by rw [Tree.tokens]; exact (precedes_octet hskip).append hmembers⟩
      · cases h

/-! ## Names of a fixed set -/

section

variable {α : Type} (known : List (String × α))

/-- The value that a written name stands for. -/
def picked (name : List TextUnit) : Option α :=
  (TextUnit.value? name).bind fun s => (pick known s).toOption

/-- The value that a name stands for, written as a string or as the only member of an object. -/
def Tree.variant? : Tree → Option α
  | .text us => picked known us
  | .object [(name, .null)] => picked known name
  | _ => none

theorem leaves_name {name : List TextUnit} {ts : List Bytes} {start : Bytes}
    (h : Leaves (scanText start) ts (TextUnit.value? name)) :
    Leaves (readName known start) ts (picked known name) := by
  unfold picked
  rw [readName]
  cases hname : TextUnit.value? name with
  | none =>
      rw [hname] at h
      obtain ⟨e, he⟩ := h
      exact ⟨e, by rw [he]⟩
  | some s =>
      rw [hname] at h
      obtain ⟨rest, hok, hrest⟩ := h
      rw [hok]
      show Leaves (withRest (pick known s) rest) ts (pick known s).toOption
      cases pick known s with
      | error e => exact ⟨e, rfl⟩
      | ok a => exact ⟨rest, rfl, hrest⟩

theorem ok_of_readName {start rest : Bytes} {a : α} (h : readName known start = .ok (a, rest)) :
    ∃ s, scanText start = .ok (s, rest) := by
  unfold readName at h
  split at h
  · cases h
  · rename_i s after htext
    obtain ⟨-, rfl⟩ := of_withRest h
    exact ⟨s, htext⟩

theorem readUnit_of_spaced {t : Tree} {ts : List Bytes} {bytes : Bytes}
    (h : Spaced (t.tokens ++ ts) bytes) :
    (∃ rest, t = .null ∧ readUnit bytes = .ok rest ∧ Spaced ts rest) ∨
      (t ≠ .null ∧ ∃ e, readUnit bytes = .error e) := by
  by_cases hlead : t.lead = 0x6E
  · have hnull := t.recognised.null hlead
    rw [hnull, Tree.tokens] at h
    obtain ⟨rest, hskip, hrest⟩ := h.skipSpace_eq (solid_cons (by decide) _)
    refine .inl ⟨rest, hnull, ?_, hrest⟩
    rw [readUnit, hskip, List.cons_append]
    simp [expectWord_append]
  · obtain ⟨rest, hskip, -⟩ := Tree.skipSpace_of_spaced h
    refine .inr ⟨fun hnull => hlead (by rw [hnull]; rfl), ?_⟩
    rw [readUnit, hskip]
    exact ⟨_, if_neg hlead⟩

theorem precedes_of_readUnit {bytes rest : Bytes} (h : readUnit bytes = .ok rest) :
    Precedes (Tree.tokens .null) bytes rest := by
  unfold readUnit at h
  split at h
  · cases h
  · rename_i b start hskip
    split at h
    · rename_i hb
      rw [Tree.tokens]
      exact precedes_token (by rw [hskip, hb, eq_append_of_expectWord h]; rfl)
    · cases h

theorem leaves_tag {name : List TextUnit} {ts : List Bytes} {bytes : Bytes}
    (h : Spaced (Tree.quoted name :: ts) bytes) :
    Leaves (readTag known bytes) ts (picked known name) := by
  obtain ⟨start, hskip, hleaves⟩ := h.quoted
  rw [readTag, hskip]
  exact leaves_name known hleaves

theorem precedes_of_readTag {bytes rest : Bytes} {a : α} (h : readTag known bytes = .ok (a, rest)) :
    ∃ name, Precedes [Tree.quoted name] bytes rest := by
  unfold readTag at h
  split at h
  · cases h
  · rename_i b start hskip
    split at h
    · rename_i hb
      rw [hb] at hskip
      obtain ⟨s, hs⟩ := ok_of_readName known h
      exact precedes_of_scanText hskip hs
    · split at h <;> cases h

theorem leaves_tagged {members : List (List TextUnit × Tree)} {ts : List Bytes} {bytes : Bytes}
    (h : Spaced (Tree.memberTokens true members ++ ts) bytes) :
    Leaves (readTagged known bytes) ts (Tree.variant? known (.object members)) := by
  rw [readTagged]
  match members with
  | [] =>
      rw [Tree.memberTokens] at h
      obtain ⟨rest, hskip, -⟩ := h.skipSpace_octet (by decide)
      exact ⟨.expectedValue, by simp [readTag, hskip]⟩
  | (name, t) :: more =>
      rw [Tree.memberTokens, if_pos rfl, List.nil_append, List.cons_append, List.cons_append,
        List.append_assoc] at h
      have htag := leaves_tag known h
      cases hpicked : picked known name with
      | none =>
          rw [hpicked] at htag
          obtain ⟨e, he⟩ := htag
          have hview : Tree.variant? known (.object ((name, t) :: more)) = none := by
            cases t <;> cases more <;> simp [Tree.variant?, hpicked]
          rw [hview]
          exact ⟨e, by rw [he]⟩
      | some a =>
          rw [hpicked] at htag
          obtain ⟨named, hnamed, hcolon⟩ := htag
          obtain ⟨start, hstart, hvalue⟩ := readColon_of_spaced hcolon
          rw [hnamed]
          simp only [hstart]
          rcases readUnit_of_spaced hvalue with ⟨tail, rfl, hunit, htail⟩ | ⟨hnull, e, he⟩
          · simp only [hunit]
            cases more with
            | nil =>
                rw [Tree.memberTokens] at htail
                obtain ⟨rest, hskip, hrest⟩ := htail.skipSpace_octet (by decide)
                rw [Tree.variant?, hpicked]
                exact ⟨rest, by simp [hskip], hrest⟩
            | cons m more =>
                rw [Tree.memberTokens, if_neg (by decide), List.append_assoc] at htail
                obtain ⟨rest, hskip, -⟩ := Spaced.skipSpace_octet htail (by decide)
                exact ⟨.expectedValue, by simp [hskip]⟩
          · have hview : Tree.variant? known (.object ((name, t) :: more)) = none := by
              cases t <;> cases more <;> first | rfl | exact absurd rfl hnull
            rw [hview]
            exact ⟨e, by rw [he]⟩

theorem precedes_of_readTagged {bytes rest : Bytes} {a : α}
    (h : readTagged known bytes = .ok (a, rest)) :
    ∃ members, Precedes (Tree.memberTokens true members) bytes rest := by
  unfold readTagged at h
  split at h
  · cases h
  · rename_i value named htag
    split at h
    · cases h
    · rename_i start hcolon
      split at h
      · cases h
      · rename_i tail hunit
        split at h
        · cases h
        · rename_i b after hskip
          split at h
          · rename_i hb
            cases h
            rw [hb] at hskip
            obtain ⟨name, hname⟩ := precedes_of_readTag known htag
            refine ⟨[(name, .null)], ?_⟩
            rw [Tree.memberTokens, Tree.memberTokens]
            exact hname.append ((precedes_of_readColon hcolon).append
              ((precedes_of_readUnit hunit).append (precedes_octet hskip)))
          · cases h

theorem reads_variant : Reads (readVariant known) (Tree.variant? known) where
  leaves {t ts bytes} _ hspaced := by
    rw [readVariant]
    cases t with
    | text us =>
        rw [Tree.tokens] at hspaced
        obtain ⟨start, hskip, hleaves⟩ := hspaced.quoted
        rw [hskip, Tree.variant?]
        exact leaves_name known hleaves
    | object members =>
        rw [Tree.tokens, List.cons_append] at hspaced
        obtain ⟨start, hskip, hstart⟩ := hspaced.skipSpace_octet (by decide)
        rw [hskip]
        exact leaves_tagged known hstart
    | _ =>
        obtain ⟨rest, hskip, -⟩ := Tree.skipSpace_of_spaced hspaced
        rw [hskip]
        refine ⟨.expectedValue, (if_neg fun hbrace => ?_).trans (if_neg fun hquote => ?_)⟩
        · obtain ⟨_, heq⟩ := (Tree.recognised _).object hbrace
          cases heq
        · obtain ⟨_, heq⟩ := (Tree.recognised _).text hquote
          cases heq
  sound {bytes a rest} h := by
    unfold readVariant at h
    split at h
    · cases h
    · rename_i b start hskip
      split at h
      · rename_i hb
        rw [hb] at hskip
        obtain ⟨members, hmembers⟩ := precedes_of_readTagged known h
        exact ⟨.object members, by rw [Tree.tokens]; exact (precedes_octet hskip).append hmembers⟩
      · split at h
        · rename_i hb
          rw [hb] at hskip
          obtain ⟨s, hs⟩ := ok_of_readName known h
          obtain ⟨us, hus⟩ := precedes_of_scanText hskip hs
          exact ⟨.text us, by rwa [Tree.tokens]⟩
        · cases h

end

end ApiStubs.Json
